import Diagnostics.Proofs.Session.History
import Mathlib.Order.Bounds.Defs

/-!
# The timeout that a session learns

What a session has learned is told by the lengths of the successful runs since it last forgot its timeout
(`Stage.runTimes`, read off the calls that the operations make). One step keeps that (`Stage.learned_step`), and so
does any number of them (`Stage.learned_run`). The limit learned from a run is the least even whole number of seconds
that is not under two seconds and leaves the run twice its time (`isLeast_adaptiveTimeout`).

A run that was cut off by its limit is a successful run here, for it was launched and gave an output, and so is one that
ended with an error. Durations have no greatest one, so twice a duration is always one.
-/

namespace Diagnostics

/-! ## The limit learned from one run -/

namespace Duration

/-- Rounding up to whole seconds gives the least number of seconds that is not shorter. -/
theorem ceilSeconds_le_iff (d : Duration) (n : Nat) : d.ceilSeconds ≤ n ↔ d ≤ ofSeconds n := by
  change d.ceilSeconds ≤ n ↔ d.nanoseconds ≤ n * perSecond
  have hparts : perSecond * d.seconds + d.nanos = d.nanoseconds := Nat.div_add_mod _ _
  have hrest : d.nanos < perSecond := Nat.mod_lt _ (by decide)
  unfold ceilSeconds
  unfold perSecond at *
  split <;> omega

/-- The limits that leave a run of the given length twice its time: even whole numbers of seconds, two at least. -/
def generousLimits (elapsed : Duration) : Set Duration :=
  {d | (∃ n, d = ofSeconds (2 * n)) ∧ ofSeconds 2 ≤ d ∧ elapsed + elapsed ≤ d}

/-- Twice as many seconds leave twice the time. -/
theorem twice_le_iff (d : Duration) (n : Nat) : d + d ≤ ofSeconds (2 * n) ↔ d ≤ ofSeconds n := by
  change d.nanoseconds + d.nanoseconds ≤ 2 * n * perSecond ↔ d.nanoseconds ≤ n * perSecond
  rw [Nat.mul_assoc]
  omega

theorem ofSeconds_le_iff (m n : Nat) : ofSeconds m ≤ ofSeconds n ↔ m ≤ n := by
  change m * perSecond ≤ n * perSecond ↔ m ≤ n
  exact Nat.mul_le_mul_right_iff (by decide)

end Duration

/-- **The limit learned from a run** is the least that leaves it twice its time. -/
theorem isLeast_adaptiveTimeout (elapsed : Duration) : IsLeast elapsed.generousLimits (adaptiveTimeout elapsed) := by
  have hceil : elapsed ≤ Duration.ofSeconds (max 1 elapsed.ceilSeconds) :=
    (elapsed.ceilSeconds_le_iff _).1 (Nat.le_max_right _ _)
  refine ⟨⟨⟨_, rfl⟩, ?_, (elapsed.twice_le_iff _).2 hceil⟩, ?_⟩
  · exact (Duration.ofSeconds_le_iff _ _).2 (by omega)
  · rintro _ ⟨⟨n, rfl⟩, htwo, htwice⟩
    have hone : 2 ≤ 2 * n := (Duration.ofSeconds_le_iff _ _).1 htwo
    have hn : elapsed.ceilSeconds ≤ n := (elapsed.ceilSeconds_le_iff n).2 ((elapsed.twice_le_iff n).1 htwice)
    exact (Duration.ofSeconds_le_iff _ _).2 (by omega)

/-- Three seconds and a bit are four, and twice that is learned. -/
example : adaptiveTimeout (.ofMilliseconds 3001) = .ofSeconds 8 := by decide

/-- No time at all is never learned. -/
theorem isZero_adaptiveTimeout (elapsed : Duration) : (adaptiveTimeout elapsed).isZero = false := by
  have hone : 1 ≤ max 1 elapsed.ceilSeconds := Nat.le_max_left _ _
  simp only [adaptiveTimeout, Duration.ofSeconds, Duration.isZero, Duration.perSecond, beq_eq_false_iff_ne]
  omega

/-! ## What can be seen of a run of operations -/

/-- The operation makes the session forget its timeout. -/
def Operation.forgetsTimeout : Operation → Bool
  | reset | resetTimeout => true
  | _ => false

/-- The length of a successful run. -/
def Call.elapsed? : Call → Option Duration
  | run _ (.ok output) => some output.elapsed
  | _ => none

namespace Stage

variable {σ : Type} (w : Workshop σ)

/-- The calls that an operation makes. -/
def calls (g : Stage σ) (op : Operation) : List Call := (g.session.perform w.traced (g.world, []) op).2.2

/-- Operations one after the other, each with the calls that it makes. -/
def trace (g : Stage σ) : List Operation → List (Operation × List Call)
  | [] => []
  | op :: ops => (op, g.calls w op) :: trace (g.step w op) ops

/-- The lengths of the successful runs since the timeout was last forgotten, after one more operation. -/
def timesAfter (times : List Duration) (seen : Operation × List Call) : List Duration :=
  if seen.1.forgetsTimeout then [] else times ++ seen.2.filterMap Call.elapsed?

/-- The lengths of the successful runs since the timeout was last forgotten, oldest first. -/
def runTimes (g : Stage σ) (ops : List Operation) : List Duration := (g.trace w ops).foldl timesAfter []

theorem calls_getOutput (g : Stage σ) (r : CompileRequest) :
    g.calls w (.getOutput r) = g.session.requestCalls w r g.world := by
  simp only [calls, Session.perform, Session.getOutput_traced, List.nil_append]

end Stage

/-! ## What a session has learned -/

namespace Session

variable {σ : Type} (s : Session) (w : Workshop σ) (r : CompileRequest) (world : σ)

/-- A request teaches the session the length of its run, if it has learned nothing yet. -/
theorem learned_getOutput : (s.getOutput w r world).2.1.learned =
    s.learned.or (((s.requestCalls w r world).filterMap Call.elapsed?).head?.map adaptiveTimeout) := by
  have hquiet : s.learned = s.learned.or (Option.map adaptiveTimeout none) := Option.or_none.symm
  cases hget : s.cache.get? (s.key r) with
  | some entry =>
    obtain ⟨hcalls, hanswer⟩ := s.getOutput_hit w r world hget
    rw [hcalls, hanswer]
    exact hquiet
  | none =>
    rcases s.getOutput_miss w r world hget with
      ⟨e, hcalls, -, hs⟩ | ⟨file, result, hcalls, ⟨e, rfl, -, hs⟩ | ⟨run, rfl, -, hs⟩⟩
    · rw [hcalls, hs]
      exact hquiet
    · rw [hcalls, hs]
      exact hquiet
    · rw [hcalls, hs]
      exact s.countMiss.learned_observe run.elapsed

end Session

namespace Stage

variable {σ : Type} {w : Workshop σ} {g : Stage σ}

/-- **One step** keeps what a session has learned told by the times of its runs. -/
theorem learned_step {times : List Duration} (h : g.session.learned = times.head?.map adaptiveTimeout)
    (op : Operation) : (g.step w op).session.learned =
      (timesAfter times (op, g.calls w op)).head?.map adaptiveTimeout := by
  cases op with
  | getOutput r =>
    have htimes : timesAfter times (.getOutput r, g.session.requestCalls w r g.world) =
        times ++ (g.session.requestCalls w r g.world).filterMap Call.elapsed? := rfl
    rw [step_getOutput, calls_getOutput, htimes, List.head?_append, Option.map_or, ← h]
    exact g.session.learned_getOutput w r g.world
  | recordedFile r => exact h.trans (congrArg _ (congrArg _ (List.append_nil times).symm))
  | clearCache => exact h.trans (congrArg _ (congrArg _ (List.append_nil times).symm))
  | reset => rfl
  | resetTimeout => rfl

/-- **All steps** keep it. -/
theorem learned_run (ops : List Operation) : ∀ {g : Stage σ} {times : List Duration},
    g.session.learned = times.head?.map adaptiveTimeout →
      (g.run w ops).session.learned = ((g.trace w ops).foldl timesAfter times).head?.map adaptiveTimeout := by
  induction ops with
  | nil => exact fun h => h
  | cons op ops ih => exact fun h => ih (learned_step h op)

/-- What has been learned stays until it is forgotten. -/
theorem learned_kept {d : Duration} {ops : List Operation} (hops : ∀ op ∈ ops, op.forgetsTimeout = false) :
    g.session.learned = some d → (g.run w ops).session.learned = some d := by
  refine run_of_step (P := fun g => g.session.learned = some d) fun op hmem g h => ?_
  have hop := hops op hmem
  cases op with
  | getOutput r => rw [step_getOutput, Session.learned_getOutput, h, Option.some_or]
  | recordedFile r => exact h
  | clearCache => exact h
  | reset => cases hop
  | resetTimeout => cases hop

end Stage

/-! ## What the learned timeout changes -/

namespace Session

variable {σ : Type} (s : Session) (w : Workshop σ) {r : CompileRequest} (world : σ)

/-- Only an adaptive timeout is resolved by what has been learned. -/
theorem resolve_of_ne {t : TimeoutSpec} (h : t ≠ .adaptive) : s.resolve t = t := by
  unfold resolve
  split
  · exact absurd rfl h
  · rfl

/-- Observing a run changes nothing but what has been learned. -/
theorem resetTimeout_observe (elapsed : Duration) : (s.observe elapsed).resetTimeout = s.resetTimeout := by
  unfold observe
  split <;> rfl

/-- What has been learned does not matter for remembering a run that is observed. -/
theorem record_observe (elapsed : Duration) (k : CacheKey) (entry : CacheEntry) :
    ((s.observe elapsed).record k entry).1 = (s.resetTimeout.record k entry).1 ∧
      ((s.observe elapsed).record k entry).2.resetTimeout = (s.resetTimeout.record k entry).2 := by
  rw [← s.resetTimeout_observe elapsed]
  exact ⟨rfl, rfl⟩

/-- **A request that is not adaptive** gets the same answer, makes the same calls and leaves the same session, except
for what that has learned, whatever the session has learned before. -/
theorem getOutput_of_ne_adaptive (h : r.timeout ≠ .adaptive) (other : Option Duration) :
    (getOutput { s with learned := other } w r world).1 = (s.getOutput w r world).1 ∧
      (getOutput { s with learned := other } w r world).2.2 = (s.getOutput w r world).2.2 ∧
      (getOutput { s with learned := other } w r world).2.1.resetTimeout = (s.getOutput w r world).2.1.resetTimeout := by
  have hcompile : ({ s with learned := other } : Session).countMiss.compile w r r.timeout world =
      s.countMiss.compile w r r.timeout world := rfl
  simp only [getOutput, resolve_of_ne _ h, hcompile]
  cases s.cache.get? (CacheKey.ofRequest r r.timeout) with
  | some entry => exact ⟨rfl, rfl, rfl⟩
  | none =>
    cases s.countMiss.compile w r r.timeout world with
    | mk result world' =>
      cases result with
      | error e => exact ⟨rfl, rfl, rfl⟩
      | ok made =>
        obtain ⟨file, commandLine, run⟩ := made
        let entry : CacheEntry := { file, output := answerOf run commandLine }
        obtain ⟨hentry, hsession⟩ := s.countMiss.record_observe run.elapsed (CacheKey.ofRequest r r.timeout) entry
        obtain ⟨hentry', hsession'⟩ :=
          record_observe { s with learned := other }.countMiss run.elapsed (CacheKey.ofRequest r r.timeout) entry
        refine ⟨?_, rfl, hsession'.trans hsession.symm⟩
        exact congrArg (fun e : CacheEntry => Except.ok e.output) (hentry'.trans hentry.symm)

/-- The limit of a run is the one learned for an adaptive request and its own for any other. -/
theorem limit_process (hlearned : ∀ d, s.learned = some d → d.isZero = false) (commandLine : List String) :
    let request := s.process (s.resolve r.timeout) commandLine
    (r.timeout = .adaptive → request.limit = s.learned) ∧
      (r.timeout = .unbounded → request.limit = none) ∧
      ∀ limit, r.timeout = .limit limit → request.limit = if limit.isZero then none else some limit := by
  refine ⟨fun h => ?_, fun h => ?_, fun limit h => ?_⟩
  · rw [h]
    cases hl : s.learned with
    | none => simp only [process, resolve, hl, TimeoutSpec.limit?]
    | some d => simp only [process, resolve, hl, TimeoutSpec.limit?, hlearned d hl, Bool.false_eq_true, if_false]
  · rw [h]
    rfl
  · rw [h]
    rfl

end Session

/-- **The learned timeout over whole runs.** After any operations on a fresh session, whatever the surroundings do:
nothing is learned if and only if no run has succeeded since the timeout was last forgotten; otherwise the limit learned
is the least that leaves the first of those runs twice its time, and it stays until the timeout is forgotten. A request
that is not remembered runs the compiler, if the scratch file can be made, and the limit of the run is the one learned, if
any, for an adaptive request, and its own for any other. What has been learned changes nothing for the others. -/
theorem session_learned_timeout {σ : Type} (config : DiagnoseConfig) (w : Workshop σ) (world : σ)
    (ops : List Operation) :
    let g := (Stage.start config world).run w ops
    let times := (Stage.start config world).runTimes w ops
    (g.session.learned = none ↔ times = []) ∧
    (∀ first later, times = first :: later → ∃ d, g.session.learned = some d ∧ IsLeast first.generousLimits d) ∧
    (∀ d more, g.session.learned = some d → (∀ op ∈ more, op.forgetsTimeout = false) →
      (g.run w more).session.learned = some d) ∧
    (∀ r : CompileRequest, g.session.recordedFile r = none →
      (∃ e, g.calls w (.getOutput r) = [.create r.contents config.scratchSuffix (.error e)]) ∨
      ∃ file request result,
        g.calls w (.getOutput r) =
          [.create r.contents config.scratchSuffix (.ok file), .run request result, .cleanup file] ∧
        (r.timeout = .adaptive → request.limit = g.session.learned) ∧
        (r.timeout = .unbounded → request.limit = none) ∧
        ∀ limit, r.timeout = .limit limit → request.limit = if limit.isZero then none else some limit) ∧
    ∀ r : CompileRequest, r.timeout ≠ .adaptive → ∀ other : Option Duration,
      let call := g.session.getOutput w.traced r (g.world, [])
      let call' := Session.getOutput { g.session with learned := other } w.traced r (g.world, [])
      call'.1 = call.1 ∧ call'.2.2 = call.2.2 ∧ call'.2.1.resetTimeout = call.2.1.resetTimeout := by
  intro g times
  have hlearned : g.session.learned = times.head?.map adaptiveTimeout := Stage.learned_run ops rfl
  have hconfig : g.session.config = config := (Coherent.run w ops (Coherent.fresh config)).config
  have hpositive : ∀ d, g.session.learned = some d → d.isZero = false := by
    intro d hd
    obtain ⟨elapsed, -, rfl⟩ := Option.map_eq_some_iff.1 (hlearned.symm.trans hd)
    exact isZero_adaptiveTimeout elapsed
  refine ⟨?_, ?_, fun d more hd hmore => Stage.learned_kept hmore hd, fun r hnone => ?_, fun r hr other => ?_⟩
  · rw [hlearned, Option.map_eq_none_iff, List.head?_eq_none_iff]
  · intro first later htimes
    rw [hlearned, htimes]
    exact ⟨_, rfl, isLeast_adaptiveTimeout first⟩
  · rw [Session.recordedFile, Option.map_eq_none_iff] at hnone
    rw [Stage.calls_getOutput, ← hconfig]
    rcases g.session.getOutput_miss w r g.world hnone with ⟨e, hcalls, -⟩ | ⟨file, result, hcalls, -⟩
    · exact .inl ⟨e, hcalls⟩
    · exact .inr ⟨file, _, result, hcalls, g.session.limit_process hpositive _⟩
  · exact Session.getOutput_of_ne_adaptive g.session w.traced (g.world, []) hr other

end Diagnostics
