import Diagnostics.Session
import Diagnostics.Proofs.Table

/-!
# What a session asks of its surroundings

What a session asks of a workshop can be written down (`Workshop.recorded`), which changes nothing in what the session
does (`getOutput_recorded`). A trace is the list of the calls with their answers (`Workshop.traced`). It shows when the
compiler is run: a remembered answer makes no call, any other request makes the calls of one run (`getOutput_hit`,
`getOutput_miss`).
-/

namespace Diagnostics

/-! ## Writing down what is asked -/

/-- What is written down of each call to a workshop. -/
structure Clerk (σ ε : Type) where
  create : String → String → σ → List ε
  run : ProcessRequest → σ → List ε
  cleanup : Path → σ → List ε

/-- The workshop with a list of what the clerk writes down, in order. -/
def Workshop.recorded {σ ε : Type} (w : Workshop σ) (c : Clerk σ ε) : Workshop (σ × List ε) where
  create contents suffix world :=
    ((w.create contents suffix world.1).1, (w.create contents suffix world.1).2,
      world.2 ++ c.create contents suffix world.1)
  cleanup file world := (w.cleanup file world.1, world.2 ++ c.cleanup file world.1)
  run request world := ((w.run request world.1).1, (w.run request world.1).2, world.2 ++ c.run request world.1)
  log message world := (w.log message world.1, world.2)

namespace Session

variable {σ ε : Type} (s : Session) (w : Workshop σ) (c : Clerk σ ε) (r : CompileRequest) (world : σ) (written : List ε)

/-- What is written down when the compiler is run. -/
def compileRecord (timeout : TimeoutSpec) : List ε :=
  c.create r.contents s.config.scratchSuffix world ++
    match w.create r.contents s.config.scratchSuffix world with
    | (.error _, _) => []
    | (.ok file, world) =>
      let request := s.process timeout (r.commandLine file)
      let world := s.logCommand w r (r.commandLine file) world
      c.run request world ++ c.cleanup file (w.run request world).2

/-- What is written down when a request is answered. -/
def requestRecord : List ε :=
  match s.cache.get? (s.key r) with
  | some _ => []
  | none => s.compileRecord w c r world (s.resolve r.timeout)

theorem logCommand_recorded (commandLine : List String) :
    s.logCommand (w.recorded c) r commandLine (world, written) = (s.logCommand w r commandLine world, written) := by
  unfold logCommand
  split <;> rfl

theorem compile_recorded (timeout : TimeoutSpec) :
    s.compile (w.recorded c) r timeout (world, written) =
      ((s.compile w r timeout world).1, (s.compile w r timeout world).2,
        written ++ s.compileRecord w c r world timeout) := by
  unfold compile compileRecord
  cases hcreate : w.create r.contents s.config.scratchSuffix world with
  | mk created world' =>
    cases created with
    | error e => simp only [Workshop.recorded, hcreate, List.append_nil]
    | ok file =>
      have hlog := logCommand_recorded s w c r world'
        (written ++ c.create r.contents s.config.scratchSuffix world) (r.commandLine file)
      simp only [Workshop.recorded] at hlog
      simp only [Workshop.recorded, hcreate, hlog, List.append_assoc]

/-- **Writing down changes nothing**: a request has the same answer and leaves the same session and the same
surroundings, and what is written down is added to the list. -/
theorem getOutput_recorded : s.getOutput (w.recorded c) r (world, written) =
    ((s.getOutput w r world).1, (s.getOutput w r world).2.1, (s.getOutput w r world).2.2,
      written ++ s.requestRecord w c r world) := by
  have hcompile := compile_recorded s.countMiss w c r world written (s.resolve r.timeout)
  simp only [getOutput, requestRecord, key]
  cases s.cache.get? (CacheKey.ofRequest r (s.resolve r.timeout)) with
  | some entry => simp only [logCommand_recorded, List.append_nil]
  | none =>
    simp only [hcompile]
    cases hrun : s.countMiss.compile w r (s.resolve r.timeout) world with
    | mk result world' => cases result <;> rfl

end Session

/-! ## Tracing -/

/-- A call that a session makes, with its answer. -/
inductive Call
  | create (contents suffix : String) (result : Except DiagnosticError Path)
  | run (request : ProcessRequest) (result : Except DiagnosticError ProcessOutput)
  | cleanup (file : Path)

/-- The workshop with a list of the calls that are made, in order. -/
def Workshop.traced {σ : Type} (w : Workshop σ) : Workshop (σ × List Call) where
  create contents suffix world :=
    ((w.create contents suffix world.1).1, (w.create contents suffix world.1).2,
      world.2 ++ [.create contents suffix (w.create contents suffix world.1).1])
  cleanup file world := (w.cleanup file world.1, world.2 ++ [.cleanup file])
  run request world :=
    ((w.run request world.1).1, (w.run request world.1).2, world.2 ++ [.run request (w.run request world.1).1])
  log message world := (w.log message world.1, world.2)

/-- The clerk who writes down the calls with their answers. -/
def Workshop.callClerk {σ : Type} (w : Workshop σ) : Clerk σ Call where
  create contents suffix world := [.create contents suffix (w.create contents suffix world).1]
  run request world := [.run request (w.run request world).1]
  cleanup file _ := [.cleanup file]

namespace Session

variable {σ ε : Type} (s : Session) (w : Workshop σ) (c : Clerk σ ε) (r : CompileRequest) (world : σ) (calls : List Call)

/-- The calls that running the compiler makes. -/
def compileCalls (timeout : TimeoutSpec) : List Call :=
  match w.create r.contents s.config.scratchSuffix world with
  | (.error e, _) => [.create r.contents s.config.scratchSuffix (.error e)]
  | (.ok file, world) =>
    let request := s.process timeout (r.commandLine file)
    [.create r.contents s.config.scratchSuffix (.ok file),
      .run request (w.run request (s.logCommand w r (r.commandLine file) world)).1, .cleanup file]

/-- The calls that a request makes. -/
def requestCalls : List Call :=
  match s.cache.get? (s.key r) with
  | some _ => []
  | none => s.compileCalls w r world (s.resolve r.timeout)

theorem compileRecord_callClerk (timeout : TimeoutSpec) :
    s.compileRecord w w.callClerk r world timeout = s.compileCalls w r world timeout := by
  unfold compileRecord compileCalls
  cases hcreate : w.create r.contents s.config.scratchSuffix world with
  | mk created world' =>
    cases created with
    | error e => simp only [Workshop.callClerk, hcreate, List.append_nil]
    | ok file => simp only [Workshop.callClerk, hcreate, List.singleton_append]

theorem requestRecord_callClerk : s.requestRecord w w.callClerk r world = s.requestCalls w r world := by
  simp only [requestRecord, requestCalls, compileRecord_callClerk]

/-- **Tracing changes nothing**: with a list of the calls a request has the same answer and leaves the same session
and the same surroundings, and the calls of the request are added to the list. -/
theorem getOutput_traced : s.getOutput w.traced r (world, calls) =
    ((s.getOutput w r world).1, (s.getOutput w r world).2.1, (s.getOutput w r world).2.2,
      calls ++ s.requestCalls w r world) := by
  rw [← requestRecord_callClerk]
  exact getOutput_recorded s w w.callClerk r world calls

/-! ## Answers -/

/-- A remembered answer makes no call. -/
theorem getOutput_hit {entry : CacheEntry} (h : s.cache.get? (s.key r) = some entry) :
    s.requestCalls w r world = [] ∧ s.getOutput w r world =
      (.ok entry.output, s.countHit, s.logCommand w r entry.output.commandLine world) := by
  refine ⟨by simp only [requestCalls, h], ?_⟩
  unfold key at h
  simp only [getOutput, h]

/-- What is remembered of a run. -/
def entryOf (file : Path) (run : ProcessOutput) : CacheEntry :=
  { file, output := answerOf run (r.commandLine file) }

/-- The session after a run: it has counted the request, learned from the run, and remembers the answer. -/
def afterRun (file : Path) (run : ProcessOutput) : Session :=
  { s.countMiss.observe run.elapsed with cache := (s.key r, entryOf r file run) :: s.cache }

/-- Running the compiler fails on the scratch file, or it gives back what came of the run. -/
theorem compile_cases (timeout : TimeoutSpec) :
    (∃ e, (w.create r.contents s.config.scratchSuffix world).1 = .error e ∧
      s.compileRecord w c r world timeout = c.create r.contents s.config.scratchSuffix world ∧
      (s.compile w r timeout world).1 = .error e) ∨
    ∃ file world', (w.create r.contents s.config.scratchSuffix world).1 = .ok file ∧
      s.compileRecord w c r world timeout = c.create r.contents s.config.scratchSuffix world ++
        (c.run (s.process timeout (r.commandLine file)) world' ++
          c.cleanup file (w.run (s.process timeout (r.commandLine file)) world').2) ∧
      (s.compile w r timeout world).1 =
        (w.run (s.process timeout (r.commandLine file)) world').1.map fun run => (file, r.commandLine file, run) := by
  unfold compile compileRecord
  cases w.create r.contents s.config.scratchSuffix world with
  | mk created world' =>
    cases created with
    | error e => exact .inl ⟨e, rfl, List.append_nil _, rfl⟩
    | ok file => exact .inr ⟨file, s.logCommand w r (r.commandLine file) world', rfl, rfl, rfl⟩

/-- The first run that is observed is learned from. -/
theorem learned_observe (elapsed : Duration) :
    (s.observe elapsed).learned = s.learned.or (some (adaptiveTimeout elapsed)) := by
  unfold observe
  split
  · rename_i d hd
    rw [hd]
    rfl
  · rename_i hd
    rw [hd]
    rfl

theorem cache_observe (elapsed : Duration) : (s.observe elapsed).cache = s.cache := by
  unfold observe
  split <;> rfl

/-- A run that is observed and remembered where nothing was. -/
theorem record_of_none (file : Path) (run : ProcessOutput) (h : s.cache.get? (s.key r) = none) :
    (s.countMiss.observe run.elapsed).record (s.key r) (entryOf r file run) =
      (entryOf r file run, s.afterRun r file run) := by
  have hcache : (s.countMiss.observe run.elapsed).cache = s.cache := s.countMiss.cache_observe run.elapsed
  have hget := Table.get?_cons (s.key r) (entryOf r file run) s.cache (s.key r)
  rw [if_pos rfl] at hget
  simp only [record, hcache, Table.keep_of_none h, hget, Option.getD_some, afterRun]

/-- **A request that is not remembered**: the scratch file cannot be made, or the run fails, or its answer is given and
remembered; and what a clerk writes down of it. -/
theorem getOutput_miss_recorded (h : s.cache.get? (s.key r) = none) :
    (∃ e, (w.create r.contents s.config.scratchSuffix world).1 = .error e ∧
      s.requestRecord w c r world = c.create r.contents s.config.scratchSuffix world ∧
      (s.getOutput w r world).1 = .error e ∧ (s.getOutput w r world).2.1 = s.countMiss) ∨
    ∃ file world', (w.create r.contents s.config.scratchSuffix world).1 = .ok file ∧
      s.requestRecord w c r world = c.create r.contents s.config.scratchSuffix world ++
        (c.run (s.process (s.resolve r.timeout) (r.commandLine file)) world' ++
          c.cleanup file (w.run (s.process (s.resolve r.timeout) (r.commandLine file)) world').2) ∧
      ((∃ e, (w.run (s.process (s.resolve r.timeout) (r.commandLine file)) world').1 = .error e ∧
          (s.getOutput w r world).1 = .error e ∧ (s.getOutput w r world).2.1 = s.countMiss) ∨
        ∃ run, (w.run (s.process (s.resolve r.timeout) (r.commandLine file)) world').1 = .ok run ∧
          (s.getOutput w r world).1 = .ok (entryOf r file run).output ∧
          (s.getOutput w r world).2.1 = s.afterRun r file run) := by
  have hrecord : s.requestRecord w c r world = s.countMiss.compileRecord w c r world (s.resolve r.timeout) := by
    simp only [requestRecord, h]
    rfl
  have hkey : s.cache.get? (CacheKey.ofRequest r (s.resolve r.timeout)) = none := h
  rw [hrecord]
  simp only [getOutput, hkey]
  rcases compile_cases s.countMiss w c r world (s.resolve r.timeout) with
    ⟨e, hcreate, hwritten, hresult⟩ | ⟨file, world', hcreate, hwritten, hresult⟩
  · cases hcompile : s.countMiss.compile w r (s.resolve r.timeout) world with
    | mk result world' =>
      rw [hcompile] at hresult
      subst hresult
      exact .inl ⟨e, hcreate, hwritten, rfl, rfl⟩
  · refine .inr ⟨file, world', hcreate, hwritten, ?_⟩
    cases hcompile : s.countMiss.compile w r (s.resolve r.timeout) world with
    | mk compiled world'' =>
      rw [hcompile] at hresult
      subst hresult
      change (∃ e, (w.run (s.countMiss.process (s.resolve r.timeout) (r.commandLine file)) world').1 = .error e ∧ _) ∨
        ∃ run, (w.run (s.countMiss.process (s.resolve r.timeout) (r.commandLine file)) world').1 = .ok run ∧ _
      cases (w.run (s.countMiss.process (s.resolve r.timeout) (r.commandLine file)) world').1 with
      | error e => exact .inl ⟨e, rfl, rfl, rfl⟩
      | ok run =>
        have hremembered := record_of_none s r file run h
        unfold key entryOf at hremembered
        refine .inr ⟨run, rfl, ?_, ?_⟩
        · simp only [Except.map, hremembered, entryOf]
        · simp only [Except.map, hremembered]

/-- **A request that is not remembered** makes the calls of one run: the scratch file cannot be made, or the run
fails, or its answer is given and remembered. -/
theorem getOutput_miss (h : s.cache.get? (s.key r) = none) :
    (∃ e, s.requestCalls w r world = [.create r.contents s.config.scratchSuffix (.error e)] ∧
      (s.getOutput w r world).1 = .error e ∧ (s.getOutput w r world).2.1 = s.countMiss) ∨
    ∃ file result, s.requestCalls w r world = [.create r.contents s.config.scratchSuffix (.ok file),
        .run (s.process (s.resolve r.timeout) (r.commandLine file)) result, .cleanup file] ∧
      ((∃ e, result = .error e ∧ (s.getOutput w r world).1 = .error e ∧
          (s.getOutput w r world).2.1 = s.countMiss) ∨
        ∃ run, result = .ok run ∧ (s.getOutput w r world).1 = .ok (entryOf r file run).output ∧
          (s.getOutput w r world).2.1 = s.afterRun r file run) := by
  rw [← requestRecord_callClerk]
  rcases s.getOutput_miss_recorded w w.callClerk r world h with
    ⟨e, hcreate, hwritten, hanswer⟩ | ⟨file, world', hcreate, hwritten, hanswer⟩
  · exact .inl ⟨e, hcreate ▸ hwritten, hanswer⟩
  · exact .inr ⟨file, _, hcreate ▸ hwritten, hanswer⟩

end Session

end Diagnostics
