import Diagnostics.Process.Runner

/-!
# Launches that are settled

One attempt settles a launch or is followed by a retry (`judge_settled`). So the attempts of a settled launch are retries
up to the last, which settles it (`launchFrom_settled`). An attempt that succeeds is the last (`launchFrom_of_ok`), and a
launch that fails does so for a cause that does not pass, or because the policy allows no more retries
(`launch_failure`).
-/

namespace Diagnostics

variable {α : Type} {policy : RetryPolicy} {command : List String}

/-- **An attempt settles a launch** with its value, with a cause that does not pass, or with one that is not waited for
any longer. -/
theorem judge_settled {retries : UInt32} {outcome : Except OsError α} {result : Except DiagnosticError α}
    (h : judge policy command retries outcome = .settled result) :
    (∃ value, outcome = .ok value ∧ result = .ok value) ∨
    (∃ cause, outcome = .error cause ∧ cause.isTransient = false ∧
      result = .error (.launchFailed (programOf command) cause)) ∨
    ∃ cause, outcome = .error cause ∧ cause.isTransient = true ∧ policy.allows retries = false ∧
      result = .error (.retriesExhausted (programOf command) (retries + 1) cause) := by
  cases outcome with
  | ok value =>
    obtain rfl : Except.ok value = result := by simpa only [judge, Attempt.settled.injEq] using h
    exact .inl ⟨value, rfl, rfl⟩
  | error cause =>
    cases htransient : cause.isTransient with
    | false =>
      have hresult : Except.error (.launchFailed (programOf command) cause) = result := by
        simpa [judge, htransient] using h
      exact .inr (.inl ⟨cause, rfl, htransient, hresult.symm⟩)
    | true =>
      cases hallows : policy.allows retries with
      | false =>
        have hresult : Except.error (.retriesExhausted (programOf command) (retries + 1) cause) = result := by
          simpa [judge, htransient, hallows] using h
        exact .inr (.inr ⟨cause, rfl, htransient, rfl, hresult.symm⟩)
      | true => simp [judge, htransient, hallows] at h

/-- **The attempts of a settled launch**: each but the last is followed by a retry, and the last settles it. -/
theorem launchFrom_settled {outcomes : List (Except OsError α)} {result : Except DiagnosticError α} :
    ∀ {retries : UInt32}, (launchFrom policy command retries outcomes).result = some result →
      ∃ before last, outcomes.take (launchFrom policy command retries outcomes).attempts = before ++ [last] ∧
        judge policy command (retries + .ofNat before.length) last = .settled result := by
  induction outcomes with
  | nil => exact fun h => by cases h
  | cons outcome outcomes ih =>
    intro retries h
    rw [launchFrom] at h ⊢
    cases hjudge : judge policy command retries outcome with
    | settled settled =>
      rw [hjudge] at h
      obtain rfl : settled = result := Option.some.inj h
      exact ⟨[], outcome, rfl, by simpa using hjudge⟩
    | retry notice =>
      rw [hjudge] at h
      obtain ⟨before, last, htake, hlast⟩ := ih h
      refine ⟨outcome :: before, last, congrArg (outcome :: ·) htake, ?_⟩
      rw [List.length_cons, UInt32.ofNat_add, UInt32.add_comm (.ofNat before.length), ← UInt32.add_assoc]
      exact hlast

/-- **An attempt that succeeds** is the last, and the launch comes back with its value. -/
theorem launchFrom_of_ok {outcomes : List (Except OsError α)} {value : α} : ∀ {retries : UInt32},
    .ok value ∈ outcomes.take (launchFrom policy command retries outcomes).attempts →
      (launchFrom policy command retries outcomes).result = some (.ok value) := by
  induction outcomes with
  | nil => exact fun h => absurd h List.not_mem_nil
  | cons outcome outcomes ih =>
    intro retries h
    rw [launchFrom] at h ⊢
    cases hjudge : judge policy command retries outcome with
    | settled settled =>
      rw [hjudge] at h
      obtain rfl : Except.ok value = outcome := List.mem_singleton.1 h
      exact congrArg some (Attempt.settled.inj hjudge).symm
    | retry notice =>
      rw [hjudge] at h
      rcases List.mem_cons.1 h with rfl | hlater
      · cases hjudge
      · exact ih hlater

/-- **Why a launch fails**: for a cause that does not pass, or because it is not tried any longer. -/
theorem launch_failure {outcomes : List (Except OsError α)} {e : DiagnosticError}
    (h : (launch policy command outcomes).result = some (.error e)) :
    (∃ cause, cause.isTransient = false ∧ e = .launchFailed (programOf command) cause) ∨
    ∃ attempts cause, cause.isTransient = true ∧ e = .retriesExhausted (programOf command) attempts cause := by
  obtain ⟨before, last, -, hlast⟩ := launchFrom_settled h
  rcases judge_settled hlast with
    ⟨value, -, hresult⟩ | ⟨cause, -, hpermanent, hresult⟩ | ⟨cause, -, htransient, -, hresult⟩
  · cases hresult
  · exact .inl ⟨cause, hpermanent, Except.error.inj hresult⟩
  · exact .inr ⟨_, cause, htransient, Except.error.inj hresult⟩

end Diagnostics
