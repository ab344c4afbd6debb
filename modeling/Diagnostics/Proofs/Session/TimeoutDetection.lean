import Diagnostics.Proofs.Session.Invocation
import Diagnostics.Proofs.Session.LearnedTimeout
import Diagnostics.Proofs.Session.RunText

/-!
# Telling a timeout by its marker

An answer keeps no record of how its run ended: whoever looks for a timeout looks for the marker at the end of the text.
So a run that ended by itself looks killed if and only if the text that it wrote ends like the marker
(`timedOut_answerOf_iff`). The line break there may be of either kind, as the canonical form makes it a line feed. What an
answer says about this, it says as long as it is remembered (`timedOut_iff_written`).
-/

namespace Diagnostics

open LineBreaks (IsBreak)

/-- The text ends in a line break and the word of the marker. -/
def EndsLikeMarker (text : String) : Prop := ∃ c, IsBreak c ∧ c :: "Timeout!".toList <:+ text.toList

/-- A canonical text ends with the marker if and only if the text ends like it. -/
theorem marker_suffix_canonical_iff {text : String} :
    timeoutMarker.toList <:+ (LineBreaks.canonical text).toList ↔ EndsLikeMarker text := by
  rw [LineBreaks.canonical, String.toList_ofList, timeoutMarker_toList]
  exact LineBreaks.suffix_canonicalChars_iff word_not_break

/-- **An answer to a run that ended by itself** looks like that of a killed run if and only if the run wrote a text that
ends like the marker. -/
theorem timedOut_answerOf_iff {run : ProcessOutput} (h : run.timedOut = false) (commandLine : List String) :
    (Session.answerOf run commandLine).timedOut = true ↔ EndsLikeMarker (run.stdout ++ run.stderr) := by
  rw [CompilerOutput.timedOut, List.isSuffixOf_iff_suffix, Session.answerOf, combined_of_not_timedOut h]
  exact marker_suffix_canonical_iff

namespace Session

variable {σ : Type} (s : Session) (w : Workshop σ) (r : CompileRequest) (world : σ)

/-- A request that runs the compiler is answered with what came of the run, and the answer is remembered. -/
theorem answer_of_run {request : ProcessRequest} {run : ProcessOutput}
    (h : .run request (.ok run) ∈ s.requestCalls w r world) :
    ∃ file, (s.getOutput w r world).1 = .ok (entryOf r file run).output ∧
      (s.getOutput w r world).2.1.cache.get? (s.key r) = some (entryOf r file run) := by
  cases hget : s.cache.get? (s.key r) with
  | some entry =>
    obtain ⟨hcalls, -⟩ := s.getOutput_hit w r world hget
    rw [hcalls] at h
    cases h
  | none =>
    rcases s.getOutput_miss w r world hget with
      ⟨e, hcalls, -⟩ | ⟨file, result, hcalls, hresult⟩
    · simp [hcalls] at h
    · obtain ⟨-, rfl⟩ : s.process (s.resolve r.timeout) (r.commandLine file) = request ∧ result = .ok run := by
        simpa [hcalls, eq_comm] using h
      rcases hresult with ⟨e, hfailed, -⟩ | ⟨run', hok, hanswer, hs⟩
      · cases hfailed
      · obtain rfl := Except.ok.inj hok
        refine ⟨file, hanswer, ?_⟩
        rw [hs, afterRun, Table.get?_cons, if_pos rfl]

end Session

/-- **A run that ended by itself looks killed exactly if it wrote the marker.** After any operations on a fresh session,
whatever the surroundings do: if a request runs the compiler and the run ends by itself, the request is answered, and the
answer looks like that of a killed run if and only if what the run wrote, standard output and then standard error, ends in
a line break and the word of the marker. Until the session is made to forget its answers, every request with the same key
gets that same answer without a run. -/
theorem timedOut_iff_written {σ : Type} (config : DiagnoseConfig) (w : Workshop σ) (world : σ) (ops : List Operation)
    (r : CompileRequest) :
    let g := (Stage.start config world).run w ops
    ∀ request run, .run request (.ok run) ∈ g.calls w (.getOutput r) → run.timedOut = false →
      ∃ output, (g.session.getOutput w r g.world).1 = .ok output ∧
        (output.timedOut = true ↔ EndsLikeMarker (run.stdout ++ run.stderr)) ∧
        ∀ more r', (∀ op ∈ more, op ≠ .clearCache ∧ op ≠ .reset) →
          let g' := (g.step w (.getOutput r)).run w more
          g'.session.key r' = g.session.key r →
            (g'.session.getOutput w r' g'.world).1 = .ok output ∧ g'.calls w (.getOutput r') = [] := by
  intro g request run hrun hfinished
  rw [Stage.calls_getOutput] at hrun
  obtain ⟨file, hanswer, hcache⟩ := g.session.answer_of_run w r g.world hrun
  refine ⟨_, hanswer, timedOut_answerOf_iff hfinished _, fun more r' hmore => ?_⟩
  intro g' hkey
  have hkept : g'.session.cache.get? (g.session.key r) = some (Session.entryOf r file run) := by
    rw [← Stage.step_getOutput] at hcache
    exact Stage.cache_kept hmore hcache
  rw [← hkey] at hkept
  obtain ⟨hcalls, hhit⟩ := g'.session.getOutput_hit w r' g'.world hkept
  rw [Stage.calls_getOutput, hhit]
  exact ⟨rfl, hcalls⟩

/-- A workshop whose runs write a text and end by themselves. -/
def Workshop.writing (text : String) : Workshop Unit where
  create _ suffix _ := (.ok ⟨"/tmp/a" ++ suffix⟩, ())
  cleanup _ _ := ()
  run _ _ := (.ok { stdout := text, stderr := "", outcome := .finished (.code 0), elapsed := .zero }, ())
  log _ _ := ()

/-- Where the runs write this text, a request runs the compiler, the run ends by itself, and the answer looks killed or
does not. An interactive request that comes after the timeout has been forgotten gets that answer without a run. -/
def SeemsKilled (text : String) (killed : Bool) : Prop :=
  let w := Workshop.writing text
  let g := Stage.start {} ()
  let request : ProcessRequest := { program := "coqc", args := ["/tmp/a.v", "-q"] }
  let run : ProcessOutput := { stdout := text, stderr := "", outcome := .finished (.code 0), elapsed := .zero }
  .run request (.ok run) ∈ g.calls w (.getOutput checkNat) ∧ run.timedOut = false ∧
    ∃ output, (g.session.getOutput w checkNat g.world).1 = .ok output ∧ output.timedOut = killed ∧
      let g' := (g.step w (.getOutput checkNat)).run w [.resetTimeout]
      g'.session.key checkNatInteractive = g.session.key checkNat ∧
        (g'.session.getOutput w checkNatInteractive g'.world).1 = .ok output ∧
        g'.calls w (.getOutput checkNatInteractive) = []

/-- Of two runs that end by themselves, the one that writes the marker seems killed, and the one that writes its word on a
line with other text does not. -/
theorem timedOut_iff_written_checkNat :
    (EndsLikeMarker "done\nTimeout!" ∧ SeemsKilled "done\nTimeout!" true) ∧
      ¬ EndsLikeMarker "done: Timeout!" ∧ SeemsKilled "done: Timeout!" false := by
  have hrun : ∀ text killed, (killed = true ↔ EndsLikeMarker text) → SeemsKilled text killed := by
    intro text killed htext
    let run : ProcessOutput := { stdout := text, stderr := "", outcome := .finished (.code 0), elapsed := .zero }
    let request : ProcessRequest := { program := "coqc", args := ["/tmp/a.v", "-q"] }
    have hcalls : (Stage.start {} ()).calls (.writing text) (.getOutput checkNat) =
        [.create "Check nat." ".v" (.ok ⟨"/tmp/a.v"⟩), .run request (.ok run), .cleanup ⟨"/tmp/a.v"⟩] := rfl
    have hmem : .run request (.ok run) ∈ (Stage.start {} ()).calls (.writing text) (.getOutput checkNat) := by
      rw [hcalls]
      exact .tail _ (.head _)
    obtain ⟨output, hanswer, hiff, hlater⟩ :=
      timedOut_iff_written {} (.writing text) () [] checkNat request run hmem rfl
    have hkilled : output.timedOut = killed := by
      rw [Bool.eq_iff_iff, hiff, htext]
      exact iff_of_eq (congrArg EndsLikeMarker String.append_empty)
    have hmore : ∀ op ∈ [Operation.resetTimeout], op ≠ .clearCache ∧ op ≠ .reset := by
      intro op hop
      obtain rfl := List.mem_singleton.1 hop
      exact ⟨nofun, nofun⟩
    exact ⟨hmem, rfl, output, hanswer, hkilled, rfl, hlater _ checkNatInteractive hmore rfl⟩
  have hmarker : EndsLikeMarker "done\nTimeout!" := ⟨'\n', .inr rfl, by decide⟩
  have hword : ¬ EndsLikeMarker "done: Timeout!" := by
    rintro ⟨c, hc, hsuffix⟩
    have hdrop : c :: "Timeout!".toList = ' ' :: "Timeout!".toList := List.suffix_iff_eq_drop.1 hsuffix
    obtain rfl : c = ' ' := (List.cons.inj hdrop).1
    exact absurd hc (by simp [IsBreak])
  exact ⟨⟨hmarker, hrun _ true (iff_of_true rfl hmarker)⟩, hword, hrun _ false (iff_of_false Bool.false_ne_true hword)⟩

/-- A workshop whose runs end by themselves and say that they were killed. -/
def Workshop.alarming : Workshop Unit := .writing "done\nTimeout!"

/-- **A run that ended by itself may look killed.** -/
theorem timedOut_of_finished :
    let g := Stage.start {} ()
    ∃ request run output, .run request (.ok run) ∈ g.calls .alarming (.getOutput checkNat) ∧ run.timedOut = false ∧
      (g.session.getOutput .alarming checkNat g.world).1 = .ok output ∧ output.timedOut = true := by
  let request : ProcessRequest := { program := "coqc", args := ["/tmp/a.v", "-q"] }
  let run : ProcessOutput :=
    { stdout := "done\nTimeout!", stderr := "", outcome := .finished (.code 0), elapsed := .zero }
  refine ⟨request, run, Session.answerOf run (checkNat.commandLine ⟨"/tmp/a.v"⟩), ?_, rfl, rfl, ?_⟩
  · have hcalls : (Stage.start {} ()).calls .alarming (.getOutput checkNat) =
        [.create "Check nat." ".v" (.ok ⟨"/tmp/a.v"⟩), .run request (.ok run), .cleanup ⟨"/tmp/a.v"⟩] := rfl
    rw [hcalls]
    exact .tail _ (.head _)
  · decide +kernel

end Diagnostics
