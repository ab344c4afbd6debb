import Diagnostics.Proofs.Session.Cleanup
import Diagnostics.Proofs.Text.LineBreaks

/-!
# The text of an answer

A run that is killed gets the marker on both of its texts, and the two are put together with one marker at the end
(`combined_ofCapture`). The canonical form goes over the marker where it stands, and the only trace of the seam before it
is that a carriage return there is lost to the line feed of the marker (`canonical_marker`). So the text of an answer
is told by what the run wrote and how it ended (`canonical_combined`).
-/

namespace Diagnostics

open LineBreaks (canonical canonicalChars withoutReturn IsBreak)
open ProcessOutput (withoutEnding)

/-- The text of the answer to a run that wrote the text and ended in this way. -/
def RunOutcome.answerText (outcome : RunOutcome) (written : String) : String :=
  match outcome with
  | .finished _ => canonical written
  | .timedOut => canonical (withoutEnding "\r" written) ++ timeoutMarker

/-! ## Endings -/

/-- The marker is a line feed and a word. -/
theorem timeoutMarker_toList : timeoutMarker.toList = '\n' :: "Timeout!".toList := by decide

theorem word_not_break : ∀ c ∈ "Timeout!".toList, ¬ IsBreak c := by simp [IsBreak]

/-- An ending is taken off. -/
theorem withoutEnding_append (ending text : String) : withoutEnding ending (text ++ ending) = text := by
  have hsuffix : ending.toList.isSuffixOf (text ++ ending).toList = true := by
    rw [List.isSuffixOf_iff_suffix, String.toList_append]
    exact List.suffix_append _ _
  rw [withoutEnding, if_pos hsuffix, String.toList_append, List.length_append, Nat.add_sub_cancel, List.take_left,
    String.ofList_toList]

/-- A carriage return at the end is taken off. -/
theorem toList_withoutEnding_return (text : String) :
    (withoutEnding "\r" text).toList = withoutReturn text.toList := by
  have hreturn : "\r".toList.isSuffixOf text.toList = true ↔ text.toList.getLast? = some '\r' := by
    rw [List.isSuffixOf_iff_suffix, List.getLast?_eq_some_iff]
    exact exists_congr fun _ => eq_comm
  rw [withoutEnding, withoutReturn]
  by_cases hlast : text.toList.getLast? = some '\r'
  · rw [if_pos hlast, if_pos (hreturn.2 hlast), String.toList_ofList, List.dropLast_eq_take]
    rfl
  · rw [if_neg hlast, if_neg (mt hreturn.1 hlast)]

/-! ## Putting the texts together -/

/-- The texts of a run that was not killed stand side by side. -/
theorem combined_of_not_timedOut {run : ProcessOutput} (h : run.timedOut = false) :
    run.combined = run.stdout ++ run.stderr := by
  rw [ProcessOutput.combined, h]
  split
  · rename_i hempty
    rw [String.isEmpty_iff.1 hempty, String.append_empty]
  · rfl

/-- **The marker stands once, at the end** of what a killed run wrote. -/
theorem combined_ofCapture (c : Capture) : (ProcessOutput.ofCapture c).combined =
    match c.outcome with
    | .finished _ => c.stdout ++ c.stderr
    | .timedOut => c.stdout ++ c.stderr ++ timeoutMarker := by
  obtain ⟨stdout, stderr, outcome, elapsed⟩ := c
  cases outcome with
  | finished status => exact combined_of_not_timedOut rfl
  | timedOut =>
    have hne : (stderr ++ timeoutMarker).isEmpty = false := by simp [timeoutMarker]
    simp only [ProcessOutput.ofCapture, ProcessOutput.combined, ProcessOutput.timedOut, hne, withoutEnding_append,
      beq_self_eq_true, if_true, Bool.false_eq_true, if_false, String.append_assoc]

/-- **The canonical form at a marker**: it stays as it is, and so does what is around it, but for a carriage return right
before it. -/
theorem canonical_marker (before after : String) : canonical (before ++ timeoutMarker ++ after) =
    canonical (withoutEnding "\r" before) ++ timeoutMarker ++ canonical after := by
  have hlast : timeoutMarker.toList.getLast? = some '!' := by decide
  have hmarker : canonicalChars timeoutMarker.toList = timeoutMarker.toList := by decide
  have hbehind := LineBreaks.canonicalChars_append_of_last hlast (by simp [IsBreak]) after.toList
  have hsplit : canonicalChars (before.toList ++ (timeoutMarker.toList ++ after.toList)) =
      canonicalChars (withoutReturn before.toList) ++ (timeoutMarker.toList ++ canonicalChars after.toList) := by
    rw [hmarker] at hbehind
    rw [← hbehind, timeoutMarker_toList, List.cons_append, LineBreaks.canonicalChars_newline]
  rw [canonical, String.toList_append, String.toList_append, List.append_assoc, hsplit, ← toList_withoutEnding_return,
    String.ofList_append, String.ofList_append, String.ofList_toList, ← String.append_assoc]
  rfl

/-- **The text of an answer** is told by what the run wrote and how it ended. -/
theorem canonical_combined (c : Capture) :
    canonical (ProcessOutput.ofCapture c).combined = c.outcome.answerText (c.stdout ++ c.stderr) := by
  rw [combined_ofCapture]
  cases c.outcome with
  | finished status => rfl
  | timedOut =>
    have hmarker := canonical_marker (c.stdout ++ c.stderr) ""
    rw [String.append_empty] at hmarker
    exact hmarker.trans String.append_empty

/-- **A marker that the run wrote itself** stays, and so does what is around it. -/
theorem answerText_marker (outcome : RunOutcome) (before after : String) :
    outcome.answerText (before ++ timeoutMarker ++ after) =
      canonical (withoutEnding "\r" before) ++ timeoutMarker ++ outcome.answerText after := by
  cases outcome with
  | finished status => exact canonical_marker before after
  | timedOut =>
    have hlast : (before ++ timeoutMarker).toList.getLast? ≠ some '\r' := by
      rw [String.toList_append, timeoutMarker_toList]
      simp
    have hreturn : withoutEnding "\r" (before ++ timeoutMarker ++ after) =
        before ++ timeoutMarker ++ withoutEnding "\r" after := by
      rw [← String.toList_inj, toList_withoutEnding_return, String.toList_append, LineBreaks.withoutReturn_append hlast,
        ← toList_withoutEnding_return, ← String.toList_append]
    rw [RunOutcome.answerText, hreturn, canonical_marker, String.append_assoc]
    rfl

/-- **The text of a killed run ends with the marker.** -/
theorem timedOut_of_answerText {output : CompilerOutput} {written : String}
    (h : output.output = RunOutcome.timedOut.answerText written) : output.timedOut = true := by
  rw [CompilerOutput.timedOut, List.isSuffixOf_iff_suffix, h, RunOutcome.answerText, String.toList_append]
  exact List.suffix_append _ _

/-! ## Runs at a bench -/

/-- A launch with an attempt that captured a run comes back with that run. -/
theorem SettledLaunch.result_of_capture {runner : ProcessRunner} {request : ProcessRequest}
    (l : SettledLaunch runner request) {c : Capture} (h : .ok c ∈ l.attempts) :
    l.result = .ok (ProcessOutput.ofCapture c) := by
  have hmem : Except.ok (ProcessOutput.ofCapture c) ∈ (l.outcomes.map (·.map ProcessOutput.ofCapture)).take
      (runner.report request l.outcomes).attempts := by
    rw [← List.map_take]
    exact List.mem_map.2 ⟨.ok c, h, rfl⟩
  exact Option.some.inj (l.settled.symm.trans (launchFrom_of_ok hmem))

/-- A request whose launch captured a run is answered with what came of that run, and the answer is remembered. -/
theorem Session.answer_of_capture {σ : Type} (s : Session) (b : Bench σ) (r : CompileRequest) (world : σ)
    {request : ProcessRequest} {c : Capture}
    (h : .attempted request (.ok c) ∈ s.requestRecord b.workshop b.clerk r world) :
    ∃ file, .created (.ok file) ∈ s.requestRecord b.workshop b.clerk r world ∧
      (s.getOutput b.workshop r world).1 = .ok (entryOf r file (.ofCapture c)).output ∧
      (s.getOutput b.workshop r world).2.1 = s.afterRun r file (.ofCapture c) := by
  cases hget : s.cache.get? (s.key r) with
  | some entry =>
    simp [requestRecord, hget] at h
  | none =>
    rcases s.events_of_miss b r world hget with ⟨e, hwritten, -⟩ | ⟨file, l, hwritten, hlaunch⟩
    · simp [hwritten] at h
    · have hattempt : .ok c ∈ l.attempts := by
        rw [hwritten] at h
        simp only [SettledLaunch.events, List.mem_cons, List.mem_append, List.mem_map] at h
        rcases h with h | ⟨outcome, hmem, heq⟩ | h
        · cases h
        · cases heq
          exact hmem
        · simp at h
      refine ⟨file, hwritten ▸ List.mem_cons_self, ?_⟩
      rcases hlaunch with ⟨e, hfailed, -⟩ | ⟨run, hok, hanswer⟩
      · cases hfailed.symm.trans (l.result_of_capture hattempt)
      · obtain rfl := Except.ok.inj (hok.symm.trans (l.result_of_capture hattempt))
        exact hanswer

/-- **The text of an answer is what the run wrote, with one marker at the end if it was killed.** Whatever has been done
to a session: if the launch for a request captures a run, the request is answered, and the answer is remembered. Its text
is the canonical form of standard output and then standard error; of a killed run it is the canonical form of those
without a carriage return at the end, and then the marker, so that the answer shows the kill. A marker that the run wrote
itself stays in the text, with all that was written before it and behind it. -/
theorem getOutput_text {σ : Type} (s : Session) (b : Bench σ) (r : CompileRequest) (world : σ) :
    let call := s.getOutput b.recorded r (world, [])
    let answer := call.1
    let session := call.2.1
    let events := call.2.2.2
    ∀ request (c : Capture), .attempted request (.ok c) ∈ events → ∃ file output,
      .created (.ok file) ∈ events ∧
      answer = .ok output ∧
      session.cache.get? (s.key r) = some { file, output } ∧
      (∀ status, c.outcome = .finished status → output.output = canonical (c.stdout ++ c.stderr)) ∧
      (c.outcome = .timedOut →
        output.output = canonical (withoutEnding "\r" (c.stdout ++ c.stderr)) ++ timeoutMarker ∧
        output.timedOut = true) ∧
      ∀ before after, c.stdout ++ c.stderr = before ++ timeoutMarker ++ after →
        output.output = canonical (withoutEnding "\r" before) ++ timeoutMarker ++ c.outcome.answerText after := by
  have hrecorded := s.getOutput_recorded b.workshop b.clerk r world []
  intro call answer session events request c hc
  have hevents : events = s.requestRecord b.workshop b.clerk r world := congrArg (·.2.2.2) hrecorded
  rw [hevents] at hc
  obtain ⟨file, hcreated, hanswer, hsession⟩ := s.answer_of_capture b r world hc
  have htext : (Session.entryOf r file (.ofCapture c)).output.output = c.outcome.answerText (c.stdout ++ c.stderr) :=
    canonical_combined c
  refine ⟨file, (Session.entryOf r file (.ofCapture c)).output, hevents ▸ hcreated,
    (congrArg (·.1) hrecorded).trans hanswer, ?_, fun status hfinished => ?_, fun hkilled => ?_,
    fun before after hsplit => ?_⟩
  · have hafter : session = s.afterRun r file (.ofCapture c) := (congrArg (·.2.1) hrecorded).trans hsession
    rw [hafter, Session.afterRun, Table.get?_cons, if_pos rfl]
    rfl
  · rw [htext, hfinished]
    rfl
  · rw [hkilled] at htext
    exact ⟨htext, timedOut_of_answerText htext⟩
  · rw [htext, hsplit, answerText_marker]

/-- A bench whose runs are killed after they have written the marker, a word and half a line break. -/
def Bench.hanging : Bench Unit where
  runner := { retry := .never }
  create _ suffix _ := (.ok ⟨"/tmp/a" ++ suffix⟩, ())
  cleanup _ _ := ()
  launch _ _ :=
    let c : Capture := { stdout := "\nTimeout!", stderr := " not yet\r", outcome := .timedOut, elapsed := .ofSeconds 2 }
    ({ outcomes := [.ok c], result := .ok (.ofCapture c), settled := rfl }, ())
  log _ _ := ()

/-- What the killed run wrote and the marker are in the answer. -/
theorem getOutput_text_hanging :
    let call := (Session.fresh {}).getOutput Bench.hanging.recorded { program := "coqc", contents := "Check nat." } ((), [])
    let request : ProcessRequest := { program := "coqc", args := ["/tmp/a.v", "-q"] }
    let c : Capture := { stdout := "\nTimeout!", stderr := " not yet\r", outcome := .timedOut, elapsed := .ofSeconds 2 }
    BenchEvent.attempted request (.ok c) ∈ call.2.2.2 ∧ ∃ output, call.1 = .ok output ∧
      output.output = "\nTimeout! not yet\nTimeout!" ∧ output.timedOut = true := by
  intro call request c
  have hevents : call.2.2.2 =
      [.created (.ok ⟨"/tmp/a.v"⟩), .attempted request (.ok c), .cleaned ⟨"/tmp/a.v"⟩] := rfl
  have hmem : BenchEvent.attempted request (.ok c) ∈ call.2.2.2 := by
    rw [hevents]
    exact .tail _ (.head _)
  have hwritten : canonical (withoutEnding "\r" (c.stdout ++ c.stderr)) ++ timeoutMarker =
      "\nTimeout! not yet\nTimeout!" := by decide +kernel
  obtain ⟨file, output, -, hanswer, -, -, hkilled, -⟩ := getOutput_text (.fresh {}) .hanging _ () request c hmem
  obtain ⟨htext, htimedOut⟩ := hkilled rfl
  exact ⟨hmem, output, hanswer, htext.trans hwritten, htimedOut⟩

end Diagnostics
