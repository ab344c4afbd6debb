import Diagnostics.Proofs.Launch.Settled
import Diagnostics.Proofs.Session.History

/-!
# Scratch files and failures

What happens to a scratch file is seen best where every attempt of a launch is written down. A bench is a workshop whose
processes are launched under a policy; a launch that comes back has been settled by the last of its attempts
(`SettledLaunch`), and one that is never settled does not come back at all. The events of one request are those of a
remembered answer, of a scratch file that could not be made, or of one that was made, used by the attempts of a launch,
and cleaned up (`Session.events_of_miss`, `Session.events_cases`). Over any run as many files are cleaned up as are
made, the same ones in the same order (`Bench.tidy_run`).
-/

namespace Diagnostics

/-- A launch that has come to an end: how its attempts ended, in order, and what it reports. -/
structure SettledLaunch (runner : ProcessRunner) (request : ProcessRequest) where
  outcomes : List (Except OsError Capture)
  result : Except DiagnosticError ProcessOutput
  settled : (runner.report request outcomes).result = some result

/-- How the attempts ended that the launch has made. -/
def SettledLaunch.attempts {runner : ProcessRunner} {request : ProcessRequest} (l : SettledLaunch runner request) :
    List (Except OsError Capture) := l.outcomes.take (runner.report request l.outcomes).attempts

/-- A workshop that runs processes by launching them. -/
structure Bench (σ : Type) where
  runner : ProcessRunner
  create : String → String → σ → Except DiagnosticError Path × σ
  cleanup : Path → σ → σ
  launch : (request : ProcessRequest) → σ → SettledLaunch runner request × σ
  log : String → σ → σ

/-- What happens at a bench. -/
inductive BenchEvent
  | created (result : Except DiagnosticError Path)
  | attempted (request : ProcessRequest) (outcome : Except OsError Capture)
  | cleaned (file : Path)

/-- The attempts of a launch as events. -/
def SettledLaunch.events {runner : ProcessRunner} {request : ProcessRequest} (l : SettledLaunch runner request) :
    List BenchEvent := l.attempts.map (.attempted request)

namespace BenchEvent

/-- The scratch file that was made. -/
def created? : BenchEvent → Option Path
  | created (.ok file) => some file
  | _ => none

/-- The scratch file that was cleaned up. -/
def cleaned? : BenchEvent → Option Path
  | cleaned file => some file
  | _ => none

end BenchEvent

namespace Bench

variable {σ : Type} (b : Bench σ)

/-- The workshop of the bench. -/
def workshop : Workshop σ where
  create := b.create
  cleanup := b.cleanup
  run request world := ((b.launch request world).1.result, (b.launch request world).2)
  log := b.log

/-- The clerk who writes down what happens at the bench. -/
def clerk : Clerk σ BenchEvent where
  create contents suffix world := [.created (b.create contents suffix world).1]
  run request world := (b.launch request world).1.events
  cleanup file _ := [.cleaned file]

/-- The workshop of the bench with a list of what happens there. -/
def recorded : Workshop (σ × List BenchEvent) := b.workshop.recorded b.clerk

end Bench

/-! ## One request -/

/-- The files cleaned up are those that were made, in the same order. -/
def BenchEvent.Tidy (events : List BenchEvent) : Prop :=
  events.filterMap BenchEvent.cleaned? = events.filterMap BenchEvent.created?

theorem BenchEvent.Tidy.append {events later : List BenchEvent} (h : Tidy events) (hlater : Tidy later) :
    Tidy (events ++ later) := by
  rw [Tidy, List.filterMap_append, List.filterMap_append, h, hlater]

namespace SettledLaunch

variable {runner : ProcessRunner} {request : ProcessRequest} (l : SettledLaunch runner request)

/-- At least one attempt was made. -/
theorem attempts_ne_nil : l.attempts ≠ [] := by
  obtain ⟨before, last, htake, -⟩ := launchFrom_settled l.settled
  intro hnil
  have hnone : (l.outcomes.map (·.map ProcessOutput.ofCapture)).take (runner.report request l.outcomes).attempts = [] := by
    rw [← List.map_take]
    exact congrArg _ hnil
  exact List.append_ne_nil_of_right_ne_nil before (List.cons_ne_nil last []) (htake.symm.trans hnone)

theorem filterMap_events_created : l.events.filterMap BenchEvent.created? = [] := by
  rw [events, List.filterMap_map, List.filterMap_eq_nil_iff]
  exact fun _ _ => rfl

theorem filterMap_events_cleaned : l.events.filterMap BenchEvent.cleaned? = [] := by
  rw [events, List.filterMap_map, List.filterMap_eq_nil_iff]
  exact fun _ _ => rfl

/-- A launch fails for a cause that does not pass, or because it is not tried any longer. -/
theorem failure {e : DiagnosticError} (h : l.result = .error e) :
    (∃ program cause, cause.isTransient = false ∧ e = .launchFailed program cause) ∨
    ∃ program attempts cause, cause.isTransient = true ∧ e = .retriesExhausted program attempts cause := by
  have hsettled := l.settled
  rw [h] at hsettled
  rcases launch_failure hsettled with ⟨cause, hcause⟩ | ⟨attempts, cause, hcause⟩
  · exact .inl ⟨_, cause, hcause⟩
  · exact .inr ⟨_, attempts, cause, hcause⟩

end SettledLaunch

namespace Session

variable {σ : Type} (s : Session) (b : Bench σ) (r : CompileRequest) (world : σ)

/-- **What happens at the bench** when a request is not remembered: the scratch file cannot be made; or it is made, some
launch makes its attempts with it, and it is cleaned up. The launch fails, or its run is answered and remembered. -/
theorem events_of_miss (h : s.cache.get? (s.key r) = none) :
    (∃ e, s.requestRecord b.workshop b.clerk r world = [.created (.error e)] ∧
      (s.getOutput b.workshop r world).1 = .error e ∧ (s.getOutput b.workshop r world).2.1 = s.countMiss) ∨
    ∃ file, ∃ l : SettledLaunch b.runner (s.process (s.resolve r.timeout) (r.commandLine file)),
      s.requestRecord b.workshop b.clerk r world =
        .created (.ok file) :: (l.events ++ [.cleaned file]) ∧
      ((∃ e, l.result = .error e ∧ (s.getOutput b.workshop r world).1 = .error e ∧
          (s.getOutput b.workshop r world).2.1 = s.countMiss) ∨
        ∃ run, l.result = .ok run ∧ (s.getOutput b.workshop r world).1 = .ok (entryOf r file run).output ∧
          (s.getOutput b.workshop r world).2.1 = s.afterRun r file run) := by
  rcases s.getOutput_miss_recorded b.workshop b.clerk r world h with
    ⟨e, hcreate, hwritten, hanswer⟩ | ⟨file, world', hcreate, hwritten, hrun⟩
  · have hevents : b.clerk.create r.contents s.config.scratchSuffix world = [.created (.error e)] := by
      rw [← hcreate]
      rfl
    exact .inl ⟨e, hwritten.trans hevents, hanswer⟩
  · have hevents : b.clerk.create r.contents s.config.scratchSuffix world = [.created (.ok file)] := by
      rw [← hcreate]
      rfl
    rw [hevents] at hwritten
    exact .inr ⟨file, (b.launch _ world').1, hwritten, hrun⟩

/-- What happens at the bench when a request is answered: nothing, for a remembered answer; or what happens for one that
is not remembered. -/
theorem events_cases :
    ((∃ output, (s.getOutput b.workshop r world).1 = .ok output) ∧ s.requestRecord b.workshop b.clerk r world = []) ∨
    (∃ e, s.requestRecord b.workshop b.clerk r world = [.created (.error e)] ∧
      (s.getOutput b.workshop r world).1 = .error e ∧ (s.getOutput b.workshop r world).2.1 = s.countMiss) ∨
    ∃ file, ∃ l : SettledLaunch b.runner (s.process (s.resolve r.timeout) (r.commandLine file)),
      s.requestRecord b.workshop b.clerk r world =
        .created (.ok file) :: (l.events ++ [.cleaned file]) ∧
      ((∃ e, l.result = .error e ∧ (s.getOutput b.workshop r world).1 = .error e ∧
          (s.getOutput b.workshop r world).2.1 = s.countMiss) ∨
        ∃ output, (s.getOutput b.workshop r world).1 = .ok output) := by
  cases hget : s.cache.get? (s.key r) with
  | some entry =>
    obtain ⟨-, hanswer⟩ := s.getOutput_hit b.workshop r world hget
    exact .inl ⟨⟨entry.output, by rw [hanswer]⟩, by simp only [requestRecord, hget]⟩
  | none =>
    rcases s.events_of_miss b r world hget with hfailed | ⟨file, l, hwritten, hfailed | ⟨_, -, hanswer, -⟩⟩
    · exact .inr (.inl hfailed)
    · exact .inr (.inr ⟨file, l, hwritten, .inl hfailed⟩)
    · exact .inr (.inr ⟨file, l, hwritten, .inr ⟨_, hanswer⟩⟩)

/-- The file that is made for a request is the one that is cleaned up. -/
theorem tidy_requestRecord : BenchEvent.Tidy (s.requestRecord b.workshop b.clerk r world) := by
  rcases s.events_cases b r world with ⟨-, hevents⟩ | ⟨e, hevents, -⟩ | ⟨file, l, hevents, -⟩
  · rw [hevents]
    rfl
  · rw [hevents]
    rfl
  · rw [hevents, BenchEvent.Tidy, ← List.singleton_append]
    simp only [List.filterMap_append, l.filterMap_events_cleaned, l.filterMap_events_created]
    rfl

end Session

/-! ## Whole runs -/

namespace Bench

variable {σ : Type} (b : Bench σ)

/-- **One step** cleans up the files that it makes. -/
theorem tidy_step {g : Stage (σ × List BenchEvent)} (h : BenchEvent.Tidy g.world.2) (op : Operation) :
    BenchEvent.Tidy (g.step b.recorded op).world.2 := by
  cases op with
  | getOutput r =>
    have hworld : (g.step b.recorded (.getOutput r)).world.2 =
        g.world.2 ++ g.session.requestRecord b.workshop b.clerk r g.world.1 := by
      simp only [Stage.step, Session.perform, Session.getOutput_traced]
      exact congrArg (·.2.2.2) (g.session.getOutput_recorded b.workshop b.clerk r g.world.1 g.world.2)
    rw [hworld]
    exact h.append (g.session.tidy_requestRecord b r g.world.1)
  | recordedFile r => exact h
  | clearCache => exact h
  | reset => exact h
  | resetTimeout => exact h

/-- **All steps** clean up the files that they make. -/
theorem tidy_run {g : Stage (σ × List BenchEvent)} (ops : List Operation) (h : BenchEvent.Tidy g.world.2) :
    BenchEvent.Tidy (g.run b.recorded ops).world.2 :=
  Stage.run_of_step (P := fun g : Stage (σ × List BenchEvent) => BenchEvent.Tidy g.world.2)
    (fun op _ _ h => b.tidy_step h op) h

end Bench

/-- **Failures leave a session as it is, and no scratch file stays.** After any operations on a fresh session, however the
scratch files and the attempts of the launches turn out: a request that fails changes nothing in the session but the
number of requests that were not remembered. It fails because the scratch file could not be made, and then nothing else
happens; or for a cause that does not pass; or because the launch is not tried any longer. Where a scratch file is made,
all attempts of the launch follow, then the file is cleaned up, and with that the request is over. No other file is
cleaned up. So over the whole run the files cleaned up are those that were made, in the same order. -/
theorem failed_request_keeps_session {σ : Type} (config : DiagnoseConfig) (b : Bench σ) (world : σ)
    (ops : List Operation) :
    let g := (Stage.start config (world, [])).run b.recorded ops
    (∀ r : CompileRequest,
      let call := g.session.getOutput b.recorded r (g.world.1, [])
      let answer := call.1
      let session := call.2.1
      let events := call.2.2.2
      (∀ e, answer = .error e →
        session = { g.session with misses := g.session.misses + 1 } ∧
        (events = [.created (.error e)] ∨
          (∃ program cause, cause.isTransient = false ∧ e = .launchFailed program cause) ∨
          ∃ program attempts cause, cause.isTransient = true ∧ e = .retriesExhausted program attempts cause)) ∧
      (∀ e, .created (.error e) ∈ events → answer = .error e ∧ events = [.created (.error e)]) ∧
      (∀ file, .created (.ok file) ∈ events → ∃ request attempts, attempts ≠ [] ∧
        events = .created (.ok file) :: (attempts.map (.attempted request) ++ [.cleaned file])) ∧
      ∀ file, .cleaned file ∈ events → .created (.ok file) ∈ events) ∧
    g.world.2.filterMap BenchEvent.cleaned? = g.world.2.filterMap BenchEvent.created? := by
  intro g
  refine ⟨fun r => ?_, b.tidy_run ops rfl⟩
  have hrecorded : g.session.getOutput b.recorded r (g.world.1, []) =
      ((g.session.getOutput b.workshop r g.world.1).1, (g.session.getOutput b.workshop r g.world.1).2.1,
        (g.session.getOutput b.workshop r g.world.1).2.2,
        g.session.requestRecord b.workshop b.clerk r g.world.1) :=
    g.session.getOutput_recorded b.workshop b.clerk r g.world.1 []
  rw [hrecorded]
  rcases g.session.events_cases b r g.world.1 with
    ⟨⟨output, hanswer⟩, hevents⟩ | ⟨e, hevents, hanswer, hsession⟩ | ⟨file, l, hevents, hresult⟩
  · simp [hanswer, hevents]
  · simp only [hanswer, hevents, hsession]
    refine ⟨?_, by simp, by simp, by simp⟩
    rintro e' ⟨⟩
    exact ⟨rfl, .inl rfl⟩
  · simp only [hevents]
    refine ⟨fun e he => ?_, by simp [SettledLaunch.events], fun file' hfile => ?_, by simp [SettledLaunch.events]⟩
    · rcases hresult with ⟨e', hfailed, hanswer, hsession⟩ | ⟨output, hanswer⟩
      · rw [hanswer] at he
        obtain rfl : e' = e := Except.error.inj he
        exact ⟨hsession, .inr (l.failure hfailed)⟩
      · rw [hanswer] at he
        cases he
    · obtain rfl : file' = file := by simpa [SettledLaunch.events] using hfile
      exact ⟨_, l.attempts, l.attempts_ne_nil, rfl⟩

/-- A bench where the first attempt of every launch lacks memory and the second finds no program. -/
def Bench.vanishing : Bench Unit where
  runner := { retry := .bounded 3 .zero }
  create _ suffix _ := (.ok ⟨"/tmp/a" ++ suffix⟩, ())
  cleanup _ _ := ()
  launch request _ :=
    ({ outcomes := [.error (.kind .outOfMemory), .error (.kind .notFound)],
       result := .error (.launchFailed request.program (.kind .notFound)), settled := rfl }, ())
  log _ _ := ()

/-- The file is cleaned up after the second attempt, and the session has only counted the request. -/
example :
    let request : ProcessRequest := { program := "coqc", args := ["/tmp/a.v", "-q"] }
    (Session.fresh {}).getOutput Bench.vanishing.recorded { program := "coqc", contents := "Check nat." } ((), []) =
      (.error (.launchFailed "coqc" (.kind .notFound)), { Session.fresh {} with misses := 1 }, (),
        [.created (.ok ⟨"/tmp/a.v"⟩), .attempted request (.error (.kind .outOfMemory)),
          .attempted request (.error (.kind .notFound)), .cleaned ⟨"/tmp/a.v"⟩]) := rfl

end Diagnostics
