import Diagnostics.Proofs.Launch.Settled
import Mathlib.Order.Bounds.Defs
import Mathlib.Tactic.ByContra
import Mathlib.Tactic.Choose

/-!
# Launches follow their policy

Let the outcomes of the attempts be given for ever, one for each number of retries. A launch stops at the first attempt
that succeeds, that fails for a cause that does not pass, or that is the last one allowed (`RetryPolicy.StopsAt`). Every
attempt before that is followed by a retry, whose notice and sleep are those that the policy asks for
(`RetryNotice.Follows`), and the attempts follow one another without a gap (`launchFrom_retries`). An attempt at which a
launch stops settles it (`judge_of_stopsAt`).

Retries are counted in 32 bits. A bounded policy stops before the count begins again, and a launch without a bound is
not stopped by the count.
-/

namespace Diagnostics

variable {α : Type} {policy : RetryPolicy} {command : List String}

/-! ## Stopping -/

/-- No retry follows an attempt with this outcome after so many retries. -/
def RetryPolicy.StopsAt (policy : RetryPolicy) (retries : Nat) (outcome : Except OsError α) : Prop :=
  (∃ value, outcome = .ok value) ∨ (∃ cause, outcome = .error cause ∧ cause.isTransient = false) ∨
    ∃ largest, policy.maxRetries = some largest ∧ largest.toNat = retries

/-- A policy allows a retry if its largest count has not been reached. -/
theorem RetryPolicy.allows_iff {retries : UInt32} :
    policy.allows retries = true ↔ ∀ largest, policy.maxRetries = some largest → retries < largest := by
  unfold RetryPolicy.allows
  cases policy.maxRetries with
  | none => simp
  | some largest => simp

/-- At the largest count no retry is allowed. -/
theorem RetryPolicy.not_allows_largest {retries : Nat} {largest : UInt32} (h : policy.maxRetries = some largest)
    (hretries : largest.toNat = retries) : policy.allows (.ofNat retries) = false := by
  rw [← Bool.not_eq_true, allows_iff]
  intro hallows
  have hlt := hallows largest h
  rw [← hretries, UInt32.ofNat_toNat] at hlt
  exact absurd hlt (UInt32.lt_irrefl _)

/-- A launch that has not stopped yet may be tried again. -/
theorem RetryPolicy.allows_of_not_stopsAt {outcomes : Nat → Except OsError α} {retries : Nat}
    (h : ∀ i ≤ retries, ¬ policy.StopsAt i (outcomes i)) : policy.allows (.ofNat retries) = true := by
  rw [allows_iff]
  intro largest hlargest
  -- The attempt with the largest count has not been made yet, so the count has not begun again.
  have hlt : retries < largest.toNat := by
    by_contra hle
    exact h largest.toNat (Nat.le_of_not_lt hle) (.inr (.inr ⟨largest, hlargest, rfl⟩))
  exact (UInt32.ofNat_lt_iff (Nat.lt_trans hlt largest.toNat_lt)).2 hlt

/-! ## One attempt -/

/-- What the last attempt makes of a launch: its value, or an error that tells whether the cause passes. -/
def verdict (command : List String) (retries : Nat) : Except OsError α → Except DiagnosticError α
  | .ok value => .ok value
  | .error cause =>
    .error (if cause.isTransient then .retriesExhausted (programOf command) (.ofNat (retries + 1)) cause
      else .launchFailed (programOf command) cause)

/-- **An attempt at which a launch stops** settles it. -/
theorem judge_of_stopsAt {retries : Nat} {outcome : Except OsError α} (h : policy.StopsAt retries outcome) :
    judge policy command (.ofNat retries) outcome = .settled (verdict command retries outcome) := by
  cases outcome with
  | ok value => rfl
  | error cause =>
    cases htransient : cause.isTransient with
    | false => simp [judge, verdict, htransient]
    | true =>
      obtain ⟨largest, hlargest, hretries⟩ :
          ∃ largest, policy.maxRetries = some largest ∧ largest.toNat = retries := by
        rcases h with ⟨value, hvalue⟩ | ⟨other, hother, hpermanent⟩ | hlargest
        · cases hvalue
        · cases hother
          rw [htransient] at hpermanent
          cases hpermanent
        · exact hlargest
      simp [judge, verdict, htransient, RetryPolicy.not_allows_largest hlargest hretries, UInt32.ofNat_add]

/-- The notice of a retry is the one that the policy asks for after the failed attempt. -/
structure RetryNotice.Follows (notice : RetryNotice) (policy : RetryPolicy) (command : List String) (retries : Nat)
    (outcome : Except OsError α) : Prop where
  command : notice.command = command
  cause : outcome = .error notice.cause
  retry : notice.retry = .ofNat (retries + 1)
  wait : notice.wait = policy.backoffDuration (.ofNat (retries + 1))

/-- **An attempt at which a launch does not stop** is followed by a retry as the policy asks for it. -/
theorem judge_of_not_stopsAt (command : List String) {outcomes : Nat → Except OsError α} {retries : Nat}
    (h : ∀ i ≤ retries, ¬ policy.StopsAt i (outcomes i)) :
    ∃ notice, judge policy command (.ofNat retries) (outcomes retries) = .retry notice ∧
      notice.Follows policy command retries (outcomes retries) := by
  have hstop := h retries (Nat.le_refl _)
  have hallows := RetryPolicy.allows_of_not_stopsAt h
  cases houtcome : outcomes retries with
  | ok value => exact absurd (.inl ⟨value, houtcome⟩) hstop
  | error cause =>
    have htransient : cause.isTransient = true := by
      by_contra hpermanent
      exact hstop (.inr (.inl ⟨cause, houtcome, by simpa using hpermanent⟩))
    let notice : RetryNotice :=
      { command, cause, retry := .ofNat (retries + 1), wait := policy.backoffDuration (.ofNat (retries + 1)) }
    refine ⟨notice, by simp [judge, htransient, hallows, notice, UInt32.ofNat_add], ?_⟩
    exact { command := rfl, cause := rfl, retry := rfl, wait := rfl }

theorem Duration.ofMilliseconds_le {ms ms' : Nat} (h : ms ≤ ms') :
    Duration.ofMilliseconds ms ≤ Duration.ofMilliseconds ms' :=
  Nat.mul_le_mul_right Duration.perMillisecond h

/-- No sleep that a policy asks for is longer than its ceiling. -/
theorem RetryPolicy.backoffDuration_le (policy : RetryPolicy) (retry : UInt32) :
    policy.backoffDuration retry ≤ .ofMilliseconds policy.maxBackoff :=
  Duration.ofMilliseconds_le (policy.backoff_le retry)

/-! ## All attempts -/

/-- The run of a launch whose first attempts are followed by these retries. -/
def LaunchRun.afterRetries (notices : List RetryNotice) (run : LaunchRun α) : LaunchRun α :=
  notices.foldr LaunchRun.afterRetry run

namespace LaunchRun

variable (notices : List RetryNotice) (run : LaunchRun α)

@[simp] theorem result_afterRetries : (run.afterRetries notices).result = run.result := by
  induction notices with
  | nil => rfl
  | cons notice notices ih => exact ih

theorem steps_afterRetries :
    (run.afterRetries notices).steps = notices.flatMap RetryNotice.steps ++ run.steps := by
  induction notices with
  | nil => rfl
  | cons notice notices ih => exact congrArg (notice.steps ++ ·) ih

@[simp] theorem attempts_afterRetries : (run.afterRetries notices).attempts = notices.length + run.attempts := by
  induction notices with
  | nil => exact (Nat.zero_add _).symm
  | cons notice notices ih =>
    change ((run.afterRetries notices).afterRetry notice).attempts = notices.length + 1 + run.attempts
    rw [attempts_afterRetry, ih, Nat.add_right_comm]

@[simp] theorem sleeps_afterRetries : (run.afterRetries notices).sleeps = notices.map (·.wait) ++ run.sleeps := by
  induction notices with
  | nil => rfl
  | cons notice notices ih => exact congrArg (notice.wait :: ·) ih

end LaunchRun

/-- **Attempts that are followed by retries** lead to the attempt behind them. -/
theorem launchFrom_retries {outcomes : Nat → Except OsError α} {notices : Nat → RetryNotice} (more : Nat) {count : Nat} :
    ∀ (retries : Nat),
      (∀ i < count, judge policy command (.ofNat (retries + i)) (outcomes (retries + i)) =
        .retry (notices (retries + i))) →
      launchFrom policy command (.ofNat retries) ((List.range' retries (count + more)).map outcomes) =
        (launchFrom policy command (.ofNat (retries + count))
          ((List.range' (retries + count) more).map outcomes)).afterRetries
            ((List.range' retries count).map notices) := by
  induction count with
  | zero => intro retries _; simp [LaunchRun.afterRetries]
  | succ count ih =>
    intro retries h
    have hfirst : judge policy command (.ofNat retries) (outcomes retries) = .retry (notices retries) :=
      h 0 (Nat.succ_pos _)
    have hrest := ih (retries + 1) fun i hi => by
      have hnext := h (i + 1) (Nat.succ_lt_succ hi)
      rwa [← Nat.add_assoc, Nat.add_right_comm] at hnext
    have hcount : UInt32.ofNat retries + 1 = .ofNat (retries + 1) := (UInt32.ofNat_add retries 1).symm
    rw [Nat.add_right_comm, List.range'_succ, List.map_cons, launchFrom, hfirst]
    simp only [hcount, hrest, List.range'_succ, List.map_cons, LaunchRun.afterRetries, List.foldr_cons]
    rw [Nat.add_assoc, Nat.add_comm 1 count]

/-- The notices of the retries after the first attempts, one for each, are those that the policy asks for. -/
structure RetriesFollow (policy : RetryPolicy) (command : List String) (outcomes : Nat → Except OsError α)
    (count : Nat) (notices : List RetryNotice) : Prop where
  length_eq : notices.length = count
  follows : ∀ i < count, ∃ notice, notices[i]? = some notice ∧ notice.Follows policy command i (outcomes i)

/-- The run has had so many retries, each one as the policy asks for it, and then it took the last steps. -/
def LaunchRun.Retried (run : LaunchRun α) (policy : RetryPolicy) (command : List String)
    (outcomes : Nat → Except OsError α) (count : Nat) (last : List LaunchStep) : Prop :=
  ∃ notices, RetriesFollow policy command outcomes count notices ∧
    run.steps = notices.flatMap RetryNotice.steps ++ last

/-- The sleeps that a policy asks for before so many retries, in order. -/
def RetryPolicy.sleeps (policy : RetryPolicy) (count : Nat) : List Duration :=
  (List.range count).map fun i => policy.backoffDuration (.ofNat (i + 1))

/-- **While a launch does not stop** it is tried again and again, and then it goes on with the outcomes that are left. -/
theorem launch_of_not_stopsAt (command : List String) {outcomes : Nat → Except OsError α} {count : Nat} (more : Nat)
    (h : ∀ i < count, ¬ policy.StopsAt i (outcomes i)) :
    ∃ notices, RetriesFollow policy command outcomes count notices ∧
      launch policy command ((List.range (count + more)).map outcomes) =
        (launchFrom policy command (.ofNat count) ((List.range' count more).map outcomes)).afterRetries notices := by
  have hretry : ∀ i, ∃ notice, i < count → judge policy command (.ofNat i) (outcomes i) = .retry notice ∧
      notice.Follows policy command i (outcomes i) := fun i => by
    by_cases hi : i < count
    · obtain ⟨notice, hnotice⟩ := judge_of_not_stopsAt command
        fun j (hj : j ≤ i) => h j (Nat.lt_of_le_of_lt hj hi)
      exact ⟨notice, fun _ => hnotice⟩
    · exact ⟨⟨[], .number 0, 0, .zero⟩, fun hlt => absurd hlt hi⟩
  choose notices hnotices using hretry
  have hfirst : ∀ i < count,
      judge policy command (.ofNat (0 + i)) (outcomes (0 + i)) = .retry (notices (0 + i)) := fun i hi => by
    rw [Nat.zero_add]
    exact (hnotices i hi).1
  have hrun := launchFrom_retries more 0 hfirst
  rw [Nat.zero_add] at hrun
  refine ⟨(List.range' 0 count).map notices, ?_, ?_⟩
  · exact { length_eq := by simp, follows := fun i hi => ⟨notices i, by simp [hi], (hnotices i hi).2⟩ }
  · rw [launch, List.range_eq_range']
    exact hrun

/-- The sleeps of retries that follow a policy are the ones that it asks for. -/
theorem RetriesFollow.sleeps {outcomes : Nat → Except OsError α} {notices : List RetryNotice} {count : Nat}
    (h : RetriesFollow policy command outcomes count notices) : notices.map (·.wait) = policy.sleeps count := by
  refine List.ext_getElem (by simp [RetryPolicy.sleeps, h.length_eq]) fun i hi _ => ?_
  have hi : i < count := by simpa [h.length_eq] using hi
  obtain ⟨notice, hnotice, hfollows⟩ := h.follows i hi
  obtain ⟨_, rfl⟩ := List.getElem?_eq_some_iff.1 hnotice
  simpa [RetryPolicy.sleeps] using hfollows.wait

/-- **A launch follows its policy.** Let the outcomes of the attempts be given for ever, and let `k` be the first at which
the launch stops: a success, a failure for a cause that does not pass, or any outcome after the largest number of retries.
If the number of attempts fits 32 bits, it takes `k + 1` attempts and `k` sleeps. The sleeps are the ones that the policy
asks for, none longer than its ceiling; each stands behind an attempt and the notice of its failure, and the last attempt
stands behind them all. That one settles the launch: with its value; with its cause, if that does not pass; or else with
the number of attempts and its cause. As long as the launch does not stop it is tried again. An error that comes back may
pass if and only if it says that the retries are exhausted. -/
theorem launch_follows_policy (policy : RetryPolicy) (command : List String) (outcomes : Nat → Except OsError α) :
    (∀ k, IsLeast {i | policy.StopsAt i (outcomes i)} k → k + 1 < UInt32.size → ∀ n, k < n →
      let run := launch policy command ((List.range n).map outcomes)
      run.attempts = k + 1 ∧
      run.sleeps = policy.sleeps k ∧
      (∀ delay ∈ run.sleeps, delay ≤ .ofMilliseconds policy.maxBackoff) ∧
      run.Retried policy command outcomes k [.attempt] ∧
      (∀ value, outcomes k = .ok value → run.result = some (.ok value)) ∧
      (∀ cause, outcomes k = .error cause → cause.isTransient = false →
        run.result = some (.error (.launchFailed (programOf command) cause))) ∧
      ∀ cause, outcomes k = .error cause → cause.isTransient = true → ∃ attempts : UInt32, attempts.toNat = k + 1 ∧
        run.result = some (.error (.retriesExhausted (programOf command) attempts cause))) ∧
    (∀ n, (∀ i < n, ¬ policy.StopsAt i (outcomes i)) →
      let run := launch policy command ((List.range n).map outcomes)
      run.result = none ∧ run.attempts = n ∧ run.sleeps = policy.sleeps n ∧
      run.Retried policy command outcomes n []) ∧
    ∀ n e, (launch policy command ((List.range n).map outcomes)).result = some (.error e) →
      (e.isTransient = true ↔ ∃ program attempts cause, e = .retriesExhausted program attempts cause) := by
  refine ⟨fun k hk hfits n hn => ?_, fun n hn => ?_, fun n e he => ?_⟩
  · obtain ⟨more, rfl⟩ : ∃ more, n = k + (more + 1) := ⟨n - k - 1, by omega⟩
    obtain ⟨notices, hnotices, hrun⟩ := launch_of_not_stopsAt command (more + 1)
      fun i hi hstop => absurd (hk.2 hstop) (Nat.not_le_of_lt hi)
    -- The attempt behind the retries is the one at which the launch stops, so it is the last.
    rw [List.range'_succ, List.map_cons, launchFrom, judge_of_stopsAt hk.1] at hrun
    have hsleeps : (launch policy command ((List.range (k + (more + 1))).map outcomes)).sleeps = policy.sleeps k := by
      rw [hrun, LaunchRun.sleeps_afterRetries, hnotices.sleeps]
      exact List.append_nil _
    refine ⟨?_, hsleeps, ?_, ⟨notices, hnotices, ?_⟩, ?_, ?_, ?_⟩
    · rw [hrun, LaunchRun.attempts_afterRetries, hnotices.length_eq]
      rfl
    · rw [hsleeps]
      simp [RetryPolicy.sleeps, RetryPolicy.backoffDuration_le]
    · rw [hrun, LaunchRun.steps_afterRetries]
    · intro value hvalue
      simp [hrun, hvalue, verdict]
    · intro cause hcause hpermanent
      simp [hrun, hcause, hpermanent, verdict]
    · intro cause hcause htransient
      refine ⟨.ofNat (k + 1), UInt32.toNat_ofNat_of_lt' hfits, ?_⟩
      simp [hrun, hcause, htransient, verdict]
  · obtain ⟨notices, hnotices, hrun⟩ := launch_of_not_stopsAt command 0 hn
    rw [Nat.add_zero] at hrun
    refine ⟨by simp [hrun, launchFrom], ?_, ?_, notices, hnotices, ?_⟩
    · rw [hrun, LaunchRun.attempts_afterRetries, hnotices.length_eq]
      rfl
    · rw [hrun, LaunchRun.sleeps_afterRetries, hnotices.sleeps]
      exact List.append_nil _
    · rw [hrun, LaunchRun.steps_afterRetries]
      rfl
  · rcases launch_failure he with ⟨cause, hpermanent, rfl⟩ | ⟨attempts, cause, htransient, rfl⟩
    · simp [DiagnosticError.isTransient]
    · exact iff_of_true htransient ⟨_, _, _, rfl⟩

/-- At the last attempt that is allowed, a cause that does not pass is told as such. -/
example : (launch (.bounded 1 .zero) ["coqc"] [.error (.kind .outOfMemory), .error (.kind .notFound)] :
    LaunchRun Unit).result = some (.error (.launchFailed "coqc" (.kind .notFound))) := rfl

end Diagnostics
