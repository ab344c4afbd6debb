import Diagnostics.Proofs.Session.Trace
import Mathlib.Logic.Function.Iterate

/-!
# Concurrent callers of one session

Several calls may be under way in one session. A call goes on step by step (`Session.advance`): it resolves the timeout,
looks the key up, counts what it found, runs the compiler, lets the session observe the run, and offers the answer to the
cache. Each step is taken at once, and between two steps of a call any steps of other calls may be taken. A call whose
steps follow one another is a request that is answered (`Session.advance_alone`).

The cache is at any time what it was at first and, under any other key, the first answer that was offered; the timeout is
what had been learned, or else it is learned from the first run that was observed. A call that has found or kept an entry
finds it there ever after (`Progress.Agrees`). One step of any call keeps that (`Callers.Coherent.step`), and so does any
interleaving of steps (`Callers.Coherent.run`).
-/

namespace Diagnostics

/-! ## One call -/

/-- What a run of the compiler comes to: an error, or the scratch file and what the run gave. -/
abbrev RunResult := Except DiagnosticError (Path × ProcessOutput)

/-- How far a call has got. -/
inductive Progress
  | called
  | resolved (k : CacheKey)
  | lookedUp (k : CacheKey) (found : Option CacheEntry)
  | missed (k : CacheKey)
  | ran (k : CacheKey) (entry : CacheEntry) (elapsed : Duration)
  | observed (k : CacheKey) (entry : CacheEntry)
  | done (k : CacheKey) (answer : Except DiagnosticError CompilerOutput)

namespace Progress

/-- The length of the run that the next step lets the session observe. -/
def elapsed? : Progress → Option Duration
  | ran _ _ elapsed => some elapsed
  | _ => none

/-- The answer that the next step offers to the cache. -/
def offer? : Progress → Option (CacheKey × CacheEntry)
  | observed k entry => some (k, entry)
  | _ => none

end Progress

namespace Session

/-- The next step of a call. If it is the run of the compiler, that comes to the given result. -/
def advance (s : Session) (r : CompileRequest) (result : RunResult) : Progress → Session × Progress
  | .called => (s, .resolved (s.key r))
  | .resolved k => (s, .lookedUp k (s.cache.get? k))
  | .lookedUp k (some entry) => (s.countHit, .done k (.ok entry.output))
  | .lookedUp k none => (s.countMiss, .missed k)
  | .missed k =>
    match result with
    | .error e => (s, .done k (.error e))
    | .ok (file, run) => (s, .ran k (entryOf r file run) run.elapsed)
  | .ran k entry elapsed => (s.observe elapsed, .observed k entry)
  | .observed k entry =>
    let (kept, s) := s.record k entry
    (s, .done k (.ok kept.output))
  | .done k answer => (s, .done k answer)

end Session

namespace Session

variable {σ : Type} (s : Session) (r : CompileRequest)

/-- What running the compiler comes to for a request that is not remembered. -/
def runResult (w : Workshop σ) (world : σ) : RunResult :=
  (s.countMiss.compile w r (s.resolve r.timeout) world).1.map fun made => (made.1, made.2.2)

/-- A run has the command line of its request and its scratch file. -/
theorem commandLine_compile (w : Workshop σ) (world : σ) {timeout : TimeoutSpec} {file : Path}
    {commandLine : List String} {run : ProcessOutput} {world' : σ}
    (h : s.compile w r timeout world = (.ok (file, commandLine, run), world')) : commandLine = r.commandLine file := by
  rcases s.compile_cases w w.callClerk r world timeout with ⟨e, -, -, hresult⟩ | ⟨file', world'', -, -, hresult⟩
  · rw [h] at hresult
    cases hresult
  · rw [h] at hresult
    cases hrun : (w.run (s.process timeout (r.commandLine file')) world'').1 with
    | error e => rw [hrun] at hresult; cases hresult
    | ok run' => rw [hrun] at hresult; cases hresult; rfl

/-- The steps of a call that finds an answer. -/
theorem advance_hit (result : RunResult) {entry : CacheEntry} (h : s.cache.get? (s.key r) = some entry) :
    (fun call : Session × Progress => call.1.advance r result call.2)^[6] (s, .called) =
      (s.countHit, .done (s.key r) (.ok entry.output)) := by
  simp only [Function.iterate_succ, Function.iterate_zero, Function.comp_apply, advance, h, id]

/-- The steps of a call that finds no answer, and whose run fails. -/
theorem advance_failure {e : DiagnosticError} (h : s.cache.get? (s.key r) = none) :
    (fun call : Session × Progress => call.1.advance r (.error e) call.2)^[6] (s, .called) =
      (s.countMiss, .done (s.key r) (.error e)) := by
  simp only [Function.iterate_succ, Function.iterate_zero, Function.comp_apply, advance, h, id]

/-- The steps of a call that finds no answer, and whose run gives one. -/
theorem advance_success (file : Path) (run : ProcessOutput) (h : s.cache.get? (s.key r) = none) :
    (fun call : Session × Progress => call.1.advance r (.ok (file, run)) call.2)^[6] (s, .called) =
      (s.afterRun r file run, .done (s.key r) (.ok (entryOf r file run).output)) := by
  simp only [Function.iterate_succ, Function.iterate_zero, Function.comp_apply, advance, h, id,
    s.record_of_none r file run h]

/-- **A call whose steps follow one another** does what a request does that is answered at once. -/
theorem advance_alone (w : Workshop σ) (world : σ) :
    (fun call : Session × Progress => call.1.advance r (s.runResult r w world) call.2)^[6] (s, .called) =
      ((s.getOutput w r world).2.1, .done (s.key r) (s.getOutput w r world).1) := by
  cases hget : s.cache.get? (s.key r) with
  | some entry =>
    obtain ⟨-, hanswer⟩ := s.getOutput_hit w r world hget
    rw [s.advance_hit r _ hget, hanswer]
  | none =>
    have hkey : s.cache.get? (CacheKey.ofRequest r (s.resolve r.timeout)) = none := hget
    simp only [getOutput, hkey]
    cases hcompile : s.countMiss.compile w r (s.resolve r.timeout) world with
    | mk made world' =>
      cases made with
      | error e =>
        have hresult : s.runResult r w world = .error e := by rw [runResult, hcompile]; rfl
        rw [hresult, s.advance_failure r hget]
      | ok made =>
        obtain ⟨file, commandLine, run⟩ := made
        have hresult : s.runResult r w world = .ok (file, run) := by rw [runResult, hcompile]; rfl
        obtain rfl : commandLine = r.commandLine file := s.countMiss.commandLine_compile r w world hcompile
        have hremembered := s.record_of_none r file run hget
        unfold key entryOf at hremembered
        rw [hresult, s.advance_success r file run hget]
        simp only [hremembered, entryOf]

/-- What is remembered for the key is what is given back. -/
theorem get?_record (k : CacheKey) (entry : CacheEntry) :
    (s.record k entry).2.cache.get? k = some (s.record k entry).1 := by
  simp only [record, Table.get?_keep]
  cases s.cache.get? k <;> rfl

/-- A step adds what it offers to the cache, unless there is an answer already. -/
theorem advance_cache (result : RunResult) (p : Progress) (k : CacheKey) :
    (s.advance r result p).1.cache.get? k = (s.cache.get? k).or (Table.get? p.offer?.toList k) := by
  have hquiet : s.cache.get? k = (s.cache.get? k).or (Table.get? [] k) := Option.or_none.symm
  cases p with
  | called => exact hquiet
  | resolved key => exact hquiet
  | lookedUp key found => cases found <;> exact hquiet
  | missed key => cases result <;> exact hquiet
  | ran key entry elapsed => rw [advance, cache_observe]; exact hquiet
  | observed key entry =>
    have hoffer : Table.get? [(key, entry)] k = if key = k then some entry else none := Table.get?_cons key entry [] k
    exact (Table.get?_keep s.cache key entry k).trans (congrArg _ hoffer.symm)
  | done key answer => exact hquiet

/-- A step learns from the run that it lets the session observe, unless something has been learned already. -/
theorem advance_learned (result : RunResult) (p : Progress) :
    (s.advance r result p).1.learned = s.learned.or (p.elapsed?.map adaptiveTimeout) := by
  have hquiet : s.learned = s.learned.or (Option.map adaptiveTimeout none) := Option.or_none.symm
  cases p with
  | called => exact hquiet
  | resolved key => exact hquiet
  | lookedUp key found => cases found <;> exact hquiet
  | missed key => cases result <;> exact hquiet
  | ran key entry elapsed => exact s.learned_observe elapsed
  | observed key entry => exact hquiet
  | done key answer => exact hquiet

end Session

/-! ## What a call relies on -/

namespace Progress

/-- A call that has found an entry, or has answered with one, finds it in the cache. -/
def Agrees (s : Session) : Progress → Prop
  | lookedUp k (some entry) => s.cache.get? k = some entry
  | done k (.ok output) => ∃ entry, s.cache.get? k = some entry ∧ entry.output = output
  | _ => True

variable {s : Session} {p : Progress}

/-- A step of any call leaves every other call agreeing with the cache. -/
theorem Agrees.advance (h : p.Agrees s) (r : CompileRequest) (result : RunResult) (q : Progress) :
    p.Agrees (s.advance r result q).1 := by
  have hkept : ∀ k entry, s.cache.get? k = some entry → (s.advance r result q).1.cache.get? k = some entry := by
    intro k entry hget
    rw [Session.advance_cache, hget, Option.some_or]
  cases p with
  | lookedUp k found =>
    cases found with
    | none => trivial
    | some entry => exact hkept k entry h
  | done k answer =>
    cases answer with
    | error e => trivial
    | ok output =>
      obtain ⟨entry, hget, houtput⟩ := h
      exact ⟨entry, hkept k entry hget, houtput⟩
  | called | resolved | missed | ran | observed => trivial

/-- The next step of a call that agrees with the cache leaves it agreeing. -/
theorem Agrees.next (h : p.Agrees s) (r : CompileRequest) (result : RunResult) :
    (s.advance r result p).2.Agrees (s.advance r result p).1 := by
  cases p with
  | called => trivial
  | resolved k =>
    rw [Session.advance]
    cases hget : s.cache.get? k with
    | none => trivial
    | some entry => exact hget
  | lookedUp k found =>
    cases found with
    | none => trivial
    | some entry => exact ⟨entry, h, rfl⟩
  | missed k => cases result <;> trivial
  | ran k entry elapsed => trivial
  | observed k entry => exact ⟨_, s.get?_record k entry, rfl⟩
  | done k answer => exact h

end Progress

/-! ## All calls -/

/-- Calls in one session, each as far as it has got, with the answers offered to the cache and the lengths of the runs
observed so far, oldest first. -/
structure Callers (ι : Type) where
  session : Session
  progress : ι → Progress := fun _ => .called
  offered : List (CacheKey × CacheEntry) := []
  lengths : List Duration := []

namespace Callers

variable {ι : Type}

/-- The session has kept what was offered to it and learned from what it observed, and every call agrees with it. -/
structure Coherent (s : Session) (g : Callers ι) : Prop where
  cache : ∀ k, g.session.cache.get? k = (s.cache.get? k).or (Table.get? g.offered k)
  learned : g.session.learned = s.learned.or (g.lengths.head?.map adaptiveTimeout)
  agrees : ∀ i, (g.progress i).Agrees g.session

theorem Coherent.start (s : Session) : Coherent s ({ session := s } : Callers ι) :=
  { cache := fun _ => Option.or_none.symm, learned := Option.or_none.symm, agrees := fun _ => trivial }

variable [DecidableEq ι] (requests : ι → CompileRequest)

/-- One call takes its next step. -/
def step (g : Callers ι) (turn : ι × RunResult) : Callers ι where
  session := (g.session.advance (requests turn.1) turn.2 (g.progress turn.1)).1
  progress := Function.update g.progress turn.1 (g.session.advance (requests turn.1) turn.2 (g.progress turn.1)).2
  offered := g.offered ++ (g.progress turn.1).offer?.toList
  lengths := g.lengths ++ (g.progress turn.1).elapsed?.toList

/-- Calls take their steps in some order. -/
def run (g : Callers ι) (turns : List (ι × RunResult)) : Callers ι := turns.foldl (step requests) g

variable {requests} {s : Session} {g : Callers ι}

/-- What every step keeps, all steps keep. -/
theorem run_of_step {P : Callers ι → Prop} (hstep : ∀ turn g, P g → P (step requests g turn))
    {turns : List (ι × RunResult)} : P g → P (g.run requests turns) := by
  induction turns generalizing g with
  | nil => exact id
  | cons turn turns ih => exact fun h => ih (hstep turn g h)

theorem step_progress_self (turn : ι × RunResult) : (g.step requests turn).progress turn.1 =
    (g.session.advance (requests turn.1) turn.2 (g.progress turn.1)).2 := Function.update_self ..

theorem step_progress_of_ne {turn : ι × RunResult} {i : ι} (h : i ≠ turn.1) :
    (g.step requests turn).progress i = g.progress i := Function.update_of_ne h ..

/-- **One step** of any call leaves all calls coherent with the session. -/
theorem Coherent.step (h : Coherent s g) (turn : ι × RunResult) : Coherent s (g.step requests turn) := by
  refine { cache := fun k => ?_, learned := ?_, agrees := fun i => ?_ }
  · rw [Callers.step, Session.advance_cache, h.cache, Table.get?_append, Option.or_assoc]
  · rw [Callers.step, Session.advance_learned, h.learned, List.head?_append, Option.map_or, Option.or_assoc,
      Option.head?_toList]
  · by_cases hi : i = turn.1
    · rw [hi, step_progress_self]
      exact (h.agrees turn.1).next _ _
    · rw [step_progress_of_ne hi]
      exact (h.agrees i).advance _ _ _

/-- **Any steps** leave all calls coherent with the session. -/
theorem Coherent.run (turns : List (ι × RunResult)) : Coherent s g → Coherent s (g.run requests turns) :=
  run_of_step fun turn _ h => h.step turn

/-- What is in the cache stays there. -/
theorem cache_kept {k : CacheKey} {entry : CacheEntry} (turns : List (ι × RunResult)) :
    g.session.cache.get? k = some entry → (g.run requests turns).session.cache.get? k = some entry := by
  refine run_of_step (P := fun g => g.session.cache.get? k = some entry) fun turn g h => ?_
  rw [step, Session.advance_cache, h, Option.some_or]

/-- What has been learned stays. -/
theorem learned_kept {d : Duration} (turns : List (ι × RunResult)) :
    g.session.learned = some d → (g.run requests turns).session.learned = some d := by
  refine run_of_step (P := fun g => g.session.learned = some d) fun turn g h => ?_
  rw [step, Session.advance_learned, h, Option.some_or]

/-- Only the first run that is observed is learned from. -/
theorem Coherent.learned_changes (h : Coherent s g) {turn : ι × RunResult}
    (hchange : (g.step requests turn).session.learned ≠ g.session.learned) :
    g.session.learned = none ∧ g.lengths = [] ∧ ∃ elapsed, (g.step requests turn).lengths = [elapsed] ∧
      (g.step requests turn).session.learned = some (adaptiveTimeout elapsed) := by
  have hstep : (g.step requests turn).session.learned =
      g.session.learned.or ((g.progress turn.1).elapsed?.map adaptiveTimeout) := Session.advance_learned ..
  cases hlearned : g.session.learned with
  | some d => rw [hstep, hlearned, Option.some_or] at hchange; exact absurd rfl hchange
  | none =>
    rw [hstep, hlearned, Option.none_or] at hchange ⊢
    have hlengths : g.lengths = [] := by
      have hnone := h.learned.symm.trans hlearned
      rw [Option.or_eq_none_iff, Option.map_eq_none_iff, List.head?_eq_none_iff] at hnone
      exact hnone.2
    cases helapsed : (g.progress turn.1).elapsed? with
    | none => rw [helapsed] at hchange; exact absurd rfl hchange
    | some elapsed => exact ⟨rfl, hlengths, elapsed, by rw [Callers.step, hlengths, helapsed]; rfl, rfl⟩

end Callers

/-- **Concurrent callers agree.** Let calls with any requests go on in a session, their steps interleaved in any way, and
let the runs of the compiler come to anything. An entry of the cache stays what it is. Under a key stands what stood
there at first, or else the first answer that was offered for it. Every call that has an answer has that of the entry
under its key, so that calls with one key have one answer, also where several of them ran the compiler. The timeout is
what had been learned at first, or else it is learned from the first run observed; when it is learned no run has been
observed before, and once learned it stays. -/
theorem concurrent_callers_agree {ι : Type} [DecidableEq ι] (requests : ι → CompileRequest) (s : Session)
    (turns : List (ι × RunResult)) :
    let g := Callers.run requests { session := s } turns
    (∀ k entry more, g.session.cache.get? k = some entry →
      (g.run requests more).session.cache.get? k = some entry) ∧
    (∀ k, g.session.cache.get? k = (s.cache.get? k).or (Table.get? g.offered k)) ∧
    (∀ i k output, g.progress i = .done k (.ok output) →
      ∃ entry, g.session.cache.get? k = some entry ∧ entry.output = output) ∧
    (∀ i j k output output', g.progress i = .done k (.ok output) → g.progress j = .done k (.ok output') →
      output = output') ∧
    g.session.learned = s.learned.or (g.lengths.head?.map adaptiveTimeout) ∧
    (∀ turn, (g.step requests turn).session.learned ≠ g.session.learned →
      g.session.learned = none ∧ g.lengths = [] ∧ ∃ elapsed, (g.step requests turn).lengths = [elapsed] ∧
        (g.step requests turn).session.learned = some (adaptiveTimeout elapsed)) ∧
    ∀ d more, g.session.learned = some d → (g.run requests more).session.learned = some d := by
  intro g
  have h : Callers.Coherent s g := .run turns (.start s)
  have hdone : ∀ i k output, g.progress i = .done k (.ok output) →
      ∃ entry, g.session.cache.get? k = some entry ∧ entry.output = output := by
    intro i k output hi
    have hagrees := h.agrees i
    rw [hi] at hagrees
    exact hagrees
  refine ⟨fun _ _ more => Callers.cache_kept more, h.cache, hdone, ?_, h.learned, fun _ => h.learned_changes,
    fun _ more => Callers.learned_kept more⟩
  intro i j k output output' hi hj
  obtain ⟨entry, hentry, rfl⟩ := hdone i k output hi
  obtain ⟨entry', hentry', rfl⟩ := hdone j k output' hj
  rw [hentry] at hentry'
  exact congrArg _ (Option.some.inj hentry')

/-- Two calls with one request both run the compiler. The second overtakes the first, so both have its answer, and its
length is learned. -/
example :
    let result (stdout : String) (seconds : Nat) : RunResult := .ok (⟨"/tmp/" ++ stdout ++ ".v"⟩,
      { stdout, stderr := "", outcome := .finished (.code 0), elapsed := .ofSeconds seconds })
    let g := Callers.run (fun _ => { program := "coqc", contents := "Check nat.", timeout := .unbounded })
      { session := .fresh {} } (List.replicate 4 (1, result "a" 3) ++ List.replicate 6 (2, result "b" 9) ++
        List.replicate 2 (1, result "a" 3))
    let output : CompilerOutput := { output := "b", commandLine := ["coqc", "/tmp/b.v", "-q"] }
    (∃ k, g.progress 1 = .done k (.ok output) ∧ g.progress 2 = .done k (.ok output)) ∧ g.offered.length = 2 ∧
      g.session.learned = some (.ofSeconds 18) := ⟨⟨_, rfl, rfl⟩, rfl, rfl⟩

end Diagnostics
