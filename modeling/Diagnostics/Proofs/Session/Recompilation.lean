import Diagnostics.Proofs.Session.Invocation
import Diagnostics.Proofs.Session.LearnedTimeout

/-!
# How often a request is compiled

A request is served if its answer is remembered and the timeout that it gets can no longer change (`Stage.Served`). A served
request stays served (`Served.run`), and it is a cache hit from then on. A successful run of a request whose timeout is
settled makes it served, so such a request is run once at most (`runs_of_settled`). The timeout of an adaptive request is
settled as soon as any run has succeeded, so it may be run once before that and once after (`runs_cases`).
-/

namespace Diagnostics

/-! ## The runs of a request -/

namespace Operation

/-- The operation makes the session forget something. -/
def forgets : Operation → Bool
  | clearCache | reset | resetTimeout => true
  | _ => false

/-- The operation asks for the output of the request. -/
def asks (r : CompileRequest) : Operation → Bool
  | getOutput other => other = r
  | _ => false

theorem eq_getOutput_of_asks {r : CompileRequest} {op : Operation} (h : op.asks r = true) : op = .getOutput r := by
  cases op with
  | getOutput other => rw [of_decide_eq_true h]
  | recordedFile | clearCache | reset | resetTimeout => cases h

/-- The answers are kept. -/
theorem keeps_answers {op : Operation} (h : op.forgets = false) : op ≠ .clearCache ∧ op ≠ .reset := by
  cases op with
  | getOutput | recordedFile | resetTimeout => exact ⟨nofun, nofun⟩
  | clearCache | reset => cases h

/-- The timeout is kept. -/
theorem keeps_timeout {op : Operation} (h : op.forgets = false) : op.forgetsTimeout = false := by
  cases op with
  | getOutput | recordedFile | clearCache => rfl
  | reset | resetTimeout => cases h

end Operation

namespace Stage

variable {σ : Type} (w : Workshop σ) (r : CompileRequest)

/-- What had been learned before each successful run that the operation makes for the request. -/
def runsAt (g : Stage σ) (op : Operation) : List (Option Duration) :=
  if op.asks r then ((g.calls w op).filterMap Call.elapsed?).map fun _ => g.session.learned else []

/-- The successful runs that are made for the request, each with what had been learned before it. -/
def runs (g : Stage σ) : List Operation → List (Option Duration)
  | [] => []
  | op :: ops => g.runsAt w r op ++ runs (g.step w op) ops

/-- What the session has learned can no longer change the timeout that the request gets. -/
def Settled (g : Stage σ) : Prop := r.timeout = .adaptive → g.session.learned ≠ none

/-- The answer to the request is remembered for good. -/
structure Served (g : Stage σ) : Prop where
  settled : g.Settled r
  remembered : ∃ entry, g.session.cache.get? (g.session.key r) = some entry

variable {w r} {g : Stage σ} {op : Operation} {ops : List Operation}

/-! ## Requests whose timeout is settled -/

/-- A settled request keeps its key. -/
theorem Settled.step (h : g.Settled r) (hop : op.forgets = false) :
    (g.step w op).Settled r ∧ (g.step w op).session.key r = g.session.key r := by
  by_cases hr : r.timeout = .adaptive
  · obtain ⟨d, hd⟩ := Option.ne_none_iff_exists'.1 (h hr)
    have hops : ∀ other ∈ [op], other.forgetsTimeout = false := by simpa using Operation.keeps_timeout hop
    have hkept : (g.step w op).session.learned = some d := learned_kept hops hd
    refine ⟨fun _ => by simp [hkept], ?_⟩
    simp only [Session.key, Session.resolve, hr, hd, hkept]
  · refine ⟨fun hadaptive => absurd hadaptive hr, ?_⟩
    rw [Session.key, Session.key, Session.resolve_of_ne _ hr, Session.resolve_of_ne _ hr]

/-- **One step** leaves a served request served. -/
theorem Served.step (h : g.Served r) (hop : op.forgets = false) : (g.step w op).Served r := by
  obtain ⟨entry, hentry⟩ := h.remembered
  obtain ⟨hsettled, hkey⟩ := h.settled.step (w := w) hop
  have hops : ∀ other ∈ [op], other ≠ .clearCache ∧ other ≠ .reset := by simpa using Operation.keeps_answers hop
  have hkept : (g.step w op).session.cache.get? (g.session.key r) = some entry := cache_kept hops hentry
  exact ⟨hsettled, entry, hkey ▸ hkept⟩

/-- **All steps** do. -/
theorem Served.run (h : g.Served r) (hops : ∀ op ∈ ops, op.forgets = false) : (g.run w ops).Served r :=
  run_of_step (P := fun g => g.Served r) (fun op hop _ hg => hg.step (hops op hop)) h

/-- **A served request** is a cache hit: it makes no call, and it is answered and counted as a hit. -/
theorem Served.hit (h : g.Served r) : g.calls w (.getOutput r) = [] ∧
    (∃ output, (g.session.getOutput w r g.world).1 = .ok output) ∧
    (g.step w (.getOutput r)).session.hits = g.session.hits + 1 := by
  obtain ⟨entry, hentry⟩ := h.remembered
  obtain ⟨hcalls, hanswer⟩ := g.session.getOutput_hit w r g.world hentry
  rw [calls_getOutput, step_getOutput, hanswer]
  exact ⟨hcalls, ⟨entry.output, rfl⟩, rfl⟩

theorem Served.runsAt (h : g.Served r) (op : Operation) : g.runsAt w r op = [] := by
  rw [Stage.runsAt]
  split
  · rename_i hasks
    rw [Operation.eq_getOutput_of_asks hasks, h.hit.1]
    rfl
  · rfl

/-- No run is made for a served request. -/
theorem Served.runs (h : g.Served r) (hops : ∀ op ∈ ops, op.forgets = false) : g.runs w r ops = [] := by
  induction ops generalizing g with
  | nil => rfl
  | cons op ops ih =>
    rw [Stage.runs, h.runsAt op, List.nil_append]
    exact ih (h.step (hops op List.mem_cons_self)) fun other hother => hops other (List.mem_cons_of_mem op hother)

/-! ## What a successful run leaves -/

/-- **A step makes no run for a request, or one**: then its answer is remembered, and something has been learned. -/
theorem runsAt_cases (g : Stage σ) (op : Operation) : g.runsAt w r op = [] ∨
    g.runsAt w r op = [g.session.learned] ∧ op.forgets = false ∧
      (∃ entry, (g.step w op).session.cache.get? (g.session.key r) = some entry) ∧
      (g.step w op).session.learned ≠ none := by
  rw [runsAt]
  split
  · rename_i hasks
    obtain rfl := Operation.eq_getOutput_of_asks hasks
    rw [calls_getOutput, step_getOutput]
    cases hget : g.session.cache.get? (g.session.key r) with
    | some entry =>
      obtain ⟨hcalls, -⟩ := g.session.getOutput_hit w r g.world hget
      rw [hcalls]
      exact .inl rfl
    | none =>
      rcases g.session.getOutput_miss w r g.world hget with
        ⟨e, hcalls, -⟩ | ⟨file, result, hcalls, ⟨e, rfl, -⟩ | ⟨run, rfl, -, hs⟩⟩
      · rw [hcalls]
        exact .inl rfl
      · rw [hcalls]
        exact .inl rfl
      · rw [hcalls, hs]
        refine .inr ⟨rfl, rfl, ⟨Session.entryOf r file run, ?_⟩, ?_⟩
        · rw [Session.afterRun, Table.get?_cons, if_pos rfl]
        · have hlearned : (g.session.afterRun r file run).learned =
              g.session.learned.or (some (adaptiveTimeout run.elapsed)) :=
            g.session.countMiss.learned_observe run.elapsed
          rw [hlearned]
          exact fun hnone => Option.some_ne_none _ (Option.or_eq_none_iff.1 hnone).2
  · exact .inl rfl

/-! ## Counting the runs -/

/-- **A settled request** is run once at most, and served from then on. -/
theorem runs_of_settled (h : g.Settled r) (hops : ∀ op ∈ ops, op.forgets = false) :
    g.runs w r ops = [] ∨
      ∃ learned, g.runs w r ops = [learned] ∧ (r.timeout = .adaptive → learned ≠ none) ∧ (g.run w ops).Served r := by
  induction ops generalizing g with
  | nil => exact .inl rfl
  | cons op ops ih =>
    have hrest : ∀ other ∈ ops, other.forgets = false := fun other hother => hops other (List.mem_cons_of_mem op hother)
    obtain ⟨hsettled, hkey⟩ := h.step (w := w) (hops op List.mem_cons_self)
    rw [runs]
    rcases g.runsAt_cases (w := w) (r := r) op with hnone | ⟨hone, -, hremembered, -⟩
    · rw [hnone, List.nil_append]
      exact ih hsettled hrest
    · have hserved : (g.step w op).Served r := ⟨hsettled, hkey ▸ hremembered⟩
      rw [hone, hserved.runs hrest]
      exact .inr ⟨g.session.learned, rfl, h, hserved.run hrest⟩

/-- **Any request** is run once at most while its timeout is settled, and once at most before that, if it is adaptive and
nothing has been learned. -/
theorem runs_cases (hops : ∀ op ∈ ops, op.forgets = false) :
    g.runs w r ops = [] ∨
    (∃ learned, g.runs w r ops = [learned] ∧ (r.timeout = .adaptive → learned ≠ none) ∧ (g.run w ops).Served r) ∨
    r.timeout = .adaptive ∧
      (g.runs w r ops = [none] ∨ ∃ d, g.runs w r ops = [none, some d] ∧ (g.run w ops).Served r) := by
  induction ops generalizing g with
  | nil => exact .inl rfl
  | cons op ops ih =>
    have hrest : ∀ other ∈ ops, other.forgets = false := fun other hother => hops other (List.mem_cons_of_mem op hother)
    by_cases hsettled : g.Settled r
    · exact (runs_of_settled hsettled hops).imp_right .inl
    · obtain ⟨hr, hlearned⟩ : r.timeout = .adaptive ∧ g.session.learned = none := by
        simpa [Settled] using hsettled
      rw [runs]
      rcases g.runsAt_cases (w := w) (r := r) op with hnone | ⟨hone, -, -, hnow⟩
      · rw [hnone, List.nil_append]
        exact ih hrest
      · -- The run has taught the session a timeout, so that the request is settled from here on.
        refine .inr (.inr ⟨hr, ?_⟩)
        rw [hone, hlearned]
        rcases runs_of_settled (w := w) (fun _ => hnow) hrest with hnil | ⟨learned, hlater, hsome, hserved⟩
        · exact .inl (by rw [hnil]; rfl)
        · obtain ⟨d, rfl⟩ := Option.ne_none_iff_exists'.1 (hsome hr)
          exact .inr ⟨d, by rw [hlater]; rfl, hserved⟩

end Stage

/-- **A request is compiled once, or twice if it is adaptive.** Whatever has been done to a session, as long as it is not
made to forget anything, the calls for a request lead to at most one successful run of the compiler, or to at most two if
the timeout of the request is adaptive. A second one happens only if nothing had been learned at the first, and something
had at the second. Once there has been a run of a request that is not adaptive, or one after something had been learned,
every further call for the request is a cache hit. -/
theorem runs_bounded {σ : Type} (w : Workshop σ) (g : Stage σ) (ops : List Operation)
    (hops : ∀ op ∈ ops, op.forgets = false) (r : CompileRequest) :
    let runs := g.runs w r ops
    (r.timeout ≠ .adaptive → runs.length ≤ 1) ∧
    (r.timeout = .adaptive → runs.length ≤ 2) ∧
    (∀ first second more, runs = first :: second :: more → first = none ∧ second ≠ none) ∧
    ∀ learned ∈ runs, (r.timeout ≠ .adaptive ∨ learned ≠ none) →
      ∀ later, (∀ op ∈ later, op.forgets = false) →
        let g' := (g.run w ops).run w later
        g'.calls w (.getOutput r) = [] ∧
        (∃ output, (g'.session.getOutput w r g'.world).1 = .ok output) ∧
        (g'.step w (.getOutput r)).session.hits = g'.session.hits + 1 := by
  intro runs
  rcases Stage.runs_cases (w := w) (g := g) (r := r) hops with
    hnil | ⟨learned, hone, -, hserved⟩ | ⟨hr, hone | ⟨d, htwo, hserved⟩⟩
  · have hruns : runs = [] := hnil
    simp [hruns]
  · have hruns : runs = [learned] := hone
    rw [hruns]
    refine ⟨fun _ => Nat.le_refl 1, fun _ => Nat.le_succ 1, nofun, fun _ _ _ later hlater => ?_⟩
    exact (hserved.run hlater).hit
  · have hruns : runs = [none] := hone
    rw [hruns]
    refine ⟨fun hother => absurd hr hother, fun _ => Nat.le_succ 1, nofun, fun learned hmem hor => ?_⟩
    obtain rfl := List.mem_singleton.1 hmem
    exact absurd (hor.resolve_left (not_not.2 hr)) (not_not.2 rfl)
  · have hruns : runs = [none, some d] := htwo
    rw [hruns]
    refine ⟨fun hother => absurd hr hother, fun _ => Nat.le_refl 2, ?_, fun _ _ _ later hlater => ?_⟩
    · rintro first second more heq
      cases heq
      exact ⟨rfl, nofun⟩
    · exact (hserved.run hlater).hit

/-- A request in batch mode with an adaptive timeout. -/
def checkNatAdaptive : CompileRequest := { checkNat with timeout := .adaptive }

/-- An adaptive request is run before a timeout has been learned and once after that, and then no more. -/
theorem runs_bounded_adaptive :
    let ops : List Operation := [.getOutput checkNatAdaptive, .getOutput checkNatAdaptive]
    let g := Stage.start {} ()
    let g' := (g.run .quiet ops).run .quiet [.getOutput checkNat]
    (∀ op ∈ ops, op.forgets = false) ∧
    g.runs .quiet checkNatAdaptive ops = [none, some (.ofSeconds 2)] ∧
    (g.runs .quiet checkNatAdaptive ops).length ≤ 2 ∧
    g'.calls .quiet (.getOutput checkNatAdaptive) = [] ∧
    (∃ output, (g'.session.getOutput .quiet checkNatAdaptive g'.world).1 = .ok output) ∧
    (g'.step .quiet (.getOutput checkNatAdaptive)).session.hits = g'.session.hits + 1 := by
  intro ops g g'
  have hops : ∀ op ∈ ops, op.forgets = false := by simp [ops, Operation.forgets]
  have hlater : ∀ op ∈ [Operation.getOutput checkNat], op.forgets = false := by simp [Operation.forgets]
  have hruns : g.runs .quiet checkNatAdaptive ops = [none, some (.ofSeconds 2)] := rfl
  obtain ⟨-, htwo, -, hhit⟩ := runs_bounded .quiet g ops hops checkNatAdaptive
  have hmem : some (Duration.ofSeconds 2) ∈ g.runs .quiet checkNatAdaptive ops := by simp [hruns]
  exact ⟨hops, hruns, htwo rfl, hhit _ hmem (.inr nofun) _ hlater⟩

end Diagnostics
