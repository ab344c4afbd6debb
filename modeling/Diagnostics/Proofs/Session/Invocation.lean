import Diagnostics.Proofs.Session.History
import Mathlib.Data.List.Induction

/-!
# Answers and invocations

Every answer that a session remembers comes from a request that ran the compiler (`Stage.exists_origin`): that holds
of a fresh session, and a step remembers nothing but what was remembered before it and the run that it makes
(`Stage.cache_step`). What is remembered stays until the session is made to forget it (`Stage.cache_kept`). The key of a
request does not tell how the compiler gets the source file, so a request may be answered with the command line of one
that hands it over in the other way. It is answered with its own command line if and only if the two agree on that
(`getOutput_commandLine_iff`).
-/

namespace Diagnostics

namespace CompileRequest

/-- The ways to hand over a source file are told apart by the command line. -/
theorem commandLine_eq_iff {r₀ r : CompileRequest} (hprogram : r₀.program = r.program) (hargs : r₀.args = r.args)
    (file : Path) : r₀.commandLine file = r.commandLine file ↔ r₀.mode = r.mode := by
  unfold commandLine fileWords
  rw [hprogram, hargs]
  cases r₀.mode <;> cases r.mode <;> simp

end CompileRequest

namespace Stage

variable {σ : Type} {w : Workshop σ} {g : Stage σ} {r : CompileRequest} {k : CacheKey} {entry : CacheEntry}

/-- The request runs the compiler, and the entry is what came of it. -/
def Runs (w : Workshop σ) (g : Stage σ) (r : CompileRequest) (entry : CacheEntry) : Prop :=
  ∃ run, g.session.requestCalls w r g.world =
      [.create r.contents g.session.config.scratchSuffix (.ok entry.file),
        .run (g.session.process (g.session.resolve r.timeout) (r.commandLine entry.file)) (.ok run),
        .cleanup entry.file] ∧
    entry = Session.entryOf r entry.file run

/-- The entry under the key comes from the request, which is one of the operations: it ran the compiler, and no
operation behind it has made the session forget its answers. -/
inductive Origin (w : Workshop σ) (g : Stage σ) (k : CacheKey) (entry : CacheEntry) (r : CompileRequest) :
    List Operation → Prop
  | mk {before after : List Operation} (hkey : (g.run w before).session.key r = k)
    (hruns : (g.run w before).Runs w r entry) (hkept : ∀ op ∈ after, op ≠ .clearCache ∧ op ≠ .reset) :
    Origin w g k entry r (before ++ .getOutput r :: after)

theorem run_append (ops : List Operation) (op : Operation) : g.run w (ops ++ [op]) = (g.run w ops).step w op := by
  rw [run, List.foldl_append]
  rfl

/-! ## One step -/

/-- **What a request leaves in the cache** was there before, or it is what came of the run that it makes. -/
theorem cache_getOutput (h : (g.session.getOutput w r g.world).2.1.cache.get? k = some entry) :
    g.session.cache.get? k = some entry ∨ g.session.key r = k ∧ g.Runs w r entry := by
  cases hget : g.session.cache.get? (g.session.key r) with
  | some remembered =>
    obtain ⟨-, hanswer⟩ := g.session.getOutput_hit w r g.world hget
    rw [hanswer] at h
    exact .inl h
  | none =>
    rcases g.session.getOutput_miss w r g.world hget with
      ⟨e, -, -, hs⟩ | ⟨file, result, hcalls, ⟨e, -, -, hs⟩ | ⟨run, rfl, -, hs⟩⟩
    · rw [hs] at h
      exact .inl h
    · rw [hs] at h
      exact .inl h
    · rw [hs, Session.afterRun, Table.get?_cons] at h
      split at h
      · rename_i hkey
        obtain rfl := Option.some.inj h
        exact .inr ⟨hkey, run, hcalls, rfl⟩
      · exact .inl h

/-- **What a step leaves in the cache.** -/
theorem cache_step {op : Operation} (h : (g.step w op).session.cache.get? k = some entry) :
    (op ≠ .clearCache ∧ op ≠ .reset) ∧
      (g.session.cache.get? k = some entry ∨ ∃ r, op = .getOutput r ∧ g.session.key r = k ∧ g.Runs w r entry) := by
  cases op with
  | getOutput r =>
    rw [step_getOutput] at h
    exact ⟨⟨nofun, nofun⟩, (cache_getOutput h).imp_right fun ⟨hkey, hruns⟩ => ⟨r, rfl, hkey, hruns⟩⟩
  | recordedFile r => exact ⟨⟨nofun, nofun⟩, .inl h⟩
  | clearCache => cases h
  | reset => cases h
  | resetTimeout => exact ⟨⟨nofun, nofun⟩, .inl h⟩

/-- **What is remembered stays** when a request is answered. -/
theorem cache_kept_getOutput (h : g.session.cache.get? k = some entry) :
    (g.session.getOutput w r g.world).2.1.cache.get? k = some entry := by
  cases hget : g.session.cache.get? (g.session.key r) with
  | some remembered =>
    obtain ⟨-, hanswer⟩ := g.session.getOutput_hit w r g.world hget
    rw [hanswer]
    exact h
  | none =>
    rcases g.session.getOutput_miss w r g.world hget with
      ⟨e, -, -, hs⟩ | ⟨file, result, -, ⟨e, -, -, hs⟩ | ⟨run, -, -, hs⟩⟩
    · rw [hs]
      exact h
    · rw [hs]
      exact h
    · have hother : g.session.key r ≠ k := by
        rintro rfl
        cases hget.symm.trans h
      rw [hs, Session.afterRun, Table.get?_cons, if_neg hother]
      exact h

/-! ## All steps -/

/-- **What is remembered stays** until the session is made to forget its answers. -/
theorem cache_kept {ops : List Operation} (hops : ∀ op ∈ ops, op ≠ .clearCache ∧ op ≠ .reset) :
    g.session.cache.get? k = some entry → (g.run w ops).session.cache.get? k = some entry := by
  refine run_of_step (P := fun g => g.session.cache.get? k = some entry) fun op hmem g h => ?_
  have hop := hops op hmem
  cases op with
  | getOutput r =>
    rw [step_getOutput]
    exact cache_kept_getOutput h
  | recordedFile r => exact h
  | clearCache => exact absurd rfl hop.1
  | reset => exact absurd rfl hop.2
  | resetTimeout => exact h

theorem Origin.append {ops : List Operation} (h : Origin w g k entry r ops) {op : Operation}
    (hop : op ≠ .clearCache ∧ op ≠ .reset) : Origin w g k entry r (ops ++ [op]) := by
  obtain ⟨hkey, hruns, hkept⟩ := h
  rw [List.append_assoc, List.cons_append]
  refine .mk hkey hruns fun other hother => ?_
  rcases List.mem_append.1 hother with hother | hother
  · exact hkept other hother
  · exact List.mem_singleton.1 hother ▸ hop

/-- **Everything that is remembered comes from a request** that ran the compiler. -/
theorem exists_origin (config : DiagnoseConfig) (world : σ) {ops : List Operation} :
    ((start config world).run w ops).session.cache.get? k = some entry →
      ∃ r, Origin w (start config world) k entry r ops := by
  induction ops using List.reverseRecOn with
  | nil =>
    intro h
    cases h
  | append_singleton ops op ih =>
    intro h
    rw [run_append] at h
    obtain ⟨hop, hold | ⟨r, rfl, hkey, hruns⟩⟩ := cache_step h
    · obtain ⟨r, horigin⟩ := ih hold
      exact ⟨r, horigin.append hop⟩
    · exact ⟨r, .mk hkey hruns nofun⟩

/-- The request has the program, the arguments and the contents of the key. -/
theorem Origin.key_eq {ops : List Operation} (h : Origin w g k entry r ops) :
    r.program = k.program ∧ r.args = k.args ∧ r.contents = k.contents := by
  obtain ⟨rfl, -, -⟩ := h
  exact ⟨rfl, rfl, rfl⟩

theorem Origin.commandLine_eq {ops : List Operation} (h : Origin w g k entry r ops) :
    entry.output.commandLine = r.commandLine entry.file := by
  obtain ⟨-, ⟨run, -, hentry⟩, -⟩ := h
  rw [hentry]
  rfl

/-! ## The command line of an answer -/

/-- An answer is remembered after the call: it was before, or it is what came of the run that the request made. -/
theorem answer_cases {output : CompilerOutput} (h : (g.session.getOutput w r g.world).1 = .ok output) :
    ∃ file, (g.session.getOutput w r g.world).2.1.cache.get? (g.session.key r) = some { file, output } ∧
      (g.session.recordedFile r = none → g.Runs w r { file, output }) := by
  cases hget : g.session.cache.get? (g.session.key r) with
  | some entry =>
    obtain ⟨-, hanswer⟩ := g.session.getOutput_hit w r g.world hget
    rw [hanswer] at h ⊢
    obtain rfl := Except.ok.inj h
    exact ⟨entry.file, hget, fun hnone => by simp [Session.recordedFile, hget] at hnone⟩
  | none =>
    rcases g.session.getOutput_miss w r g.world hget with
      ⟨e, -, hanswer, -⟩ | ⟨file, result, hcalls, ⟨e, -, hanswer, -⟩ | ⟨run, rfl, hanswer, hs⟩⟩
    · rw [hanswer] at h
      cases h
    · rw [hanswer] at h
      cases h
    · rw [hanswer] at h
      obtain rfl := Except.ok.inj h
      refine ⟨file, ?_, fun _ => ⟨run, hcalls, rfl⟩⟩
      rw [hs, Session.afterRun, Table.get?_cons, if_pos rfl]
      rfl

end Stage

/-- **Whose command line an answer has.** Whatever has been done to a session, an answer is that of a request that ran
the compiler on the file recorded under the key of the call, and nothing has made the session forget its answers since.
That request has the same program, arguments and contents, and the answer has its command line. This is the command
line of the request that is answered if and only if both hand over the file in the same way. Without a recorded file it
is the request itself that ran the compiler. -/
theorem getOutput_commandLine_iff {σ : Type} (config : DiagnoseConfig) (w : Workshop σ) (world : σ)
    (ops : List Operation) (r : CompileRequest) (output : CompilerOutput) :
    let g := (Stage.start config world).run w ops
    (g.session.getOutput w r g.world).1 = .ok output →
      ∃ (file : Path) (r₀ : CompileRequest),
        (g.session.getOutput w r g.world).2.1.cache.get? (g.session.key r) = some { file, output } ∧
        Stage.Origin w (.start config world) (g.session.key r) { file, output } r₀ (ops ++ [.getOutput r]) ∧
        (r₀.program = r.program ∧ r₀.args = r.args ∧ r₀.contents = r.contents) ∧
        output.commandLine = r₀.commandLine file ∧
        (output.commandLine = r.commandLine file ↔ r₀.mode = r.mode) ∧
        (g.session.recordedFile r = none → r₀ = r) := by
  intro g h
  obtain ⟨file, hcache, hfresh⟩ := Stage.answer_cases h
  have horigin : ∃ r₀, Stage.Origin w (.start config world) (g.session.key r) { file, output } r₀
      (ops ++ [.getOutput r]) ∧ (g.session.recordedFile r = none → r₀ = r) := by
    by_cases hnone : g.session.recordedFile r = none
    · exact ⟨r, .mk rfl (hfresh hnone) nofun, fun _ => rfl⟩
    · rw [← Stage.step_getOutput, ← Stage.run_append] at hcache
      obtain ⟨r₀, horigin⟩ := Stage.exists_origin config world hcache
      exact ⟨r₀, horigin, fun h => absurd h hnone⟩
  obtain ⟨r₀, horigin, hown⟩ := horigin
  obtain ⟨hprogram, hargs, hcontents⟩ := horigin.key_eq
  have hline : output.commandLine = r₀.commandLine file := horigin.commandLine_eq
  refine ⟨file, r₀, hcache, horigin, ⟨hprogram, hargs, hcontents⟩, hline, ?_, hown⟩
  rw [hline]
  exact CompileRequest.commandLine_eq_iff hprogram hargs file

/-! ### Two requests with one key -/

/-- A workshop that makes the same scratch file every time, and whose runs print nothing. -/
def Workshop.quiet : Workshop Unit where
  create _ suffix _ := (.ok ⟨"/tmp/a" ++ suffix⟩, ())
  cleanup _ _ := ()
  run _ _ := (.ok { stdout := "", stderr := "", outcome := .finished (.code 0), elapsed := .zero }, ())
  log _ _ := ()

/-- A request in batch mode. -/
def checkNat : CompileRequest := { program := "coqc", contents := "Check nat.", timeout := .unbounded }

/-- The same request for the interactive toplevel. -/
def checkNatInteractive : CompileRequest := { checkNat with mode := .interactive }

/-- What is answered to the request for the interactive toplevel after that in batch mode. -/
theorem getOutput_commandLine_iff_checkNat :
    let g := (Stage.start {} ()).run .quiet [.getOutput checkNat]
    let output : CompilerOutput := { output := "", commandLine := ["coqc", "/tmp/a.v", "-q"] }
    (g.session.getOutput .quiet checkNatInteractive g.world).1 = .ok output ∧
      ∃ (file : Path) (r₀ : CompileRequest),
        (g.session.getOutput .quiet checkNatInteractive g.world).2.1.cache.get? (g.session.key checkNatInteractive) =
          some { file, output } ∧
        Stage.Origin .quiet (.start {} ()) (g.session.key checkNatInteractive) { file, output } r₀
          [.getOutput checkNat, .getOutput checkNatInteractive] ∧
        (r₀.program = "coqc" ∧ r₀.args = [] ∧ r₀.contents = "Check nat.") ∧
        output.commandLine = r₀.commandLine file ∧
        (output.commandLine = checkNatInteractive.commandLine file ↔ r₀.mode = .interactive) ∧
        (g.session.recordedFile checkNatInteractive = none → r₀ = checkNatInteractive) := by
  intro g output
  have hanswer : (g.session.getOutput .quiet checkNatInteractive g.world).1 = .ok output := rfl
  exact ⟨hanswer, getOutput_commandLine_iff {} .quiet () [.getOutput checkNat] checkNatInteractive output hanswer⟩

/-- **An answer may have the command line of another request**: the request for the interactive toplevel is answered
with the command line of the request in batch mode. -/
theorem commandLine_of_other_mode :
    let g := (Stage.start {} ()).run .quiet [.getOutput checkNat]
    ∃ output entry, (g.session.getOutput .quiet checkNatInteractive g.world).1 = .ok output ∧
      (g.session.getOutput .quiet checkNatInteractive g.world).2.1.cache.get? (g.session.key checkNatInteractive) =
        some entry ∧
      output.commandLine ≠ checkNatInteractive.commandLine entry.file := by
  refine ⟨⟨"", ["coqc", "/tmp/a.v", "-q"]⟩, ⟨⟨"/tmp/a.v"⟩, ⟨"", ["coqc", "/tmp/a.v", "-q"]⟩⟩, rfl, rfl, ?_⟩
  decide

end Diagnostics
