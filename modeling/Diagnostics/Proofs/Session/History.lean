import Diagnostics.Proofs.Session.Trace

/-!
# Sessions and their history

The history of a session is what can be seen of it from outside: which runs of the compiler succeeded since its
answers were last forgotten, and what was learned since that was last forgotten. A session is at any time coherent
with its history (`Coherent`): under each key it remembers the first run of the history with that key. That holds
of a fresh session, every operation preserves it (`Coherent.step`), and so it holds after any operations
(`Coherent.run`).
-/

namespace Diagnostics

/-! ## History -/

/-- What has been seen of a session: the successful runs since the answers were last forgotten, oldest first, each
with the key of its request, and the timeout learned. -/
structure History where
  runs : List (CacheKey × CacheEntry) := []
  learned : Option Duration := none

namespace History

/-- The timeout that a request gets. -/
def timeout (h : History) (r : CompileRequest) : TimeoutSpec :=
  match r.timeout, h.learned with
  | .adaptive, some d => .limit d
  | t, _ => t

/-- The key of a request: the program, its arguments, the contents and the timeout that it gets. -/
def key (h : History) (r : CompileRequest) : CacheKey :=
  { program := r.program, args := r.args, contents := r.contents, timeout := h.timeout r }

/-- The first successful run with a key. -/
def first? (h : History) (k : CacheKey) : Option CacheEntry := (h.runs.find? fun run => run.1 = k).map (·.2)

/-- The number of different keys of successful runs. -/
def keyCount (h : History) : Nat := (h.runs.map (·.1)).dedup.length

/-- A successful run adds itself, and its length is learned if nothing was. -/
def afterRun (h : History) (r : CompileRequest) (file : Path) (run : ProcessOutput) : History where
  runs := h.runs ++ [(h.key r, { file, output := Session.answerOf run (r.commandLine file) })]
  learned := some (h.learned.getD (adaptiveTimeout run.elapsed))

/-- The history after the calls of a request. -/
def afterCalls (h : History) (r : CompileRequest) : List Call → History
  | .create _ _ (.ok file) :: .run _ (.ok run) :: _ => h.afterRun r file run
  | _ => h

end History

/-! ## Operations -/

/-- What can be done to a session. -/
inductive Operation
  | getOutput (r : CompileRequest)
  | recordedFile (r : CompileRequest)
  | clearCache
  | reset
  | resetTimeout

/-- The operation asks for output. -/
def Operation.isRequest : Operation → Bool
  | getOutput _ => true
  | _ => false

/-- The history after an operation that made the given calls. -/
def History.after (h : History) (calls : List Call) : Operation → History
  | .getOutput r => h.afterCalls r calls
  | .recordedFile _ => h
  | .clearCache => { h with runs := [] }
  | .reset => {}
  | .resetTimeout => { h with learned := none }

/-- Perform an operation: the session and the surroundings after it. -/
def Session.perform {σ : Type} (s : Session) (w : Workshop σ) (world : σ) : Operation → Session × σ
  | .getOutput r => (s.getOutput w r world).2
  | .recordedFile _ => (s, world)
  | .clearCache => (s.clearCache, world)
  | .reset => (s.reset, world)
  | .resetTimeout => (s.resetTimeout, world)

/-- A session in its surroundings, and what has been seen of it. -/
structure Stage (σ : Type) where
  session : Session
  world : σ
  history : History

namespace Stage

variable {σ : Type}

/-- A fresh session. -/
def start (config : DiagnoseConfig) (world : σ) : Stage σ := { session := .fresh config, world, history := {} }

/-- Perform an operation, and write down what can be seen of it. -/
def step (w : Workshop σ) (g : Stage σ) (op : Operation) : Stage σ :=
  let (session, world, calls) := g.session.perform w.traced (g.world, []) op
  { session, world, history := g.history.after calls op }

/-- Perform operations one after the other. -/
def run (w : Workshop σ) (g : Stage σ) (ops : List Operation) : Stage σ := ops.foldl (step w) g

variable {w : Workshop σ} {g : Stage σ}

theorem step_getOutput {r : CompileRequest} :
    (g.step w (.getOutput r)).session = (g.session.getOutput w r g.world).2.1 := by
  simp only [step, Session.perform, Session.getOutput_traced]

/-- What each of the operations keeps, all of them keep. -/
theorem run_of_step {P : Stage σ → Prop} {ops : List Operation} (hstep : ∀ op ∈ ops, ∀ g, P g → P (g.step w op)) :
    P g → P (g.run w ops) := by
  induction ops generalizing g with
  | nil => exact id
  | cons op ops ih =>
    intro h
    exact ih (fun other hother => hstep other (List.mem_cons_of_mem _ hother)) (hstep op List.mem_cons_self g h)

end Stage

/-! ## Coherence -/

/-- The session remembers, learns and counts what its history says. -/
structure Coherent (config : DiagnoseConfig) (requests : Nat) (s : Session) (h : History) : Prop where
  config : s.config = config
  cache : ∀ k, s.cache.get? k = h.first? k
  nodup : (s.cache.map (·.1)).Nodup
  learned : s.learned = h.learned
  counted : s.hits + s.misses = requests

namespace Coherent

variable {config : DiagnoseConfig} {n : Nat} {s : Session} {h : History}

theorem fresh (config : DiagnoseConfig) : Coherent config 0 (.fresh config) {} :=
  { config := rfl, cache := fun _ => rfl, nodup := List.nodup_nil, learned := rfl, counted := rfl }

/-- Session and history agree on the keys of requests. -/
theorem key_eq (hc : Coherent config n s h) (r : CompileRequest) : s.key r = h.key r := by
  unfold Session.key Session.resolve History.key History.timeout CacheKey.ofRequest
  exact hc.learned ▸ rfl

/-- As many answers are remembered as there are keys of successful runs. -/
theorem cacheSize_eq (hc : Coherent config n s h) : s.cacheSize = h.keyCount := by
  refine Table.length_eq_dedup hc.nodup fun k => ?_
  have hruns : h.first? k = none ↔ k ∉ h.runs.map (·.1) := Table.get?_eq_none_iff (t := h.runs)
  rw [← not_iff_not, ← Table.get?_eq_none_iff, hc.cache, hruns]

theorem countHit (hc : Coherent config n s h) : Coherent config (n + 1) s.countHit h :=
  { hc with counted := by simp only [Session.countHit]; have := hc.counted; omega }

theorem countMiss (hc : Coherent config n s h) : Coherent config (n + 1) s.countMiss h :=
  { hc with counted := by simp only [Session.countMiss]; have := hc.counted; omega }

/-- **A successful run** where none is remembered: it is the first with its key. -/
theorem afterRun (hc : Coherent config n s h) {r : CompileRequest} (hnone : s.cache.get? (s.key r) = none)
    (file : Path) (run : ProcessOutput) :
    Coherent config (n + 1) (s.afterRun r file run) (h.afterRun r file run) := by
  have hobserve : (s.countMiss.observe run.elapsed).learned = some (h.learned.getD (adaptiveTimeout run.elapsed)) ∧
      (s.countMiss.observe run.elapsed).config = config ∧
      (s.countMiss.observe run.elapsed).hits + (s.countMiss.observe run.elapsed).misses = n + 1 := by
    have hmiss := hc.countMiss
    unfold Session.observe
    rw [← hmiss.learned]
    split
    · rename_i d hd
      exact ⟨by rw [hd]; rfl, hmiss.config, hmiss.counted⟩
    · rename_i hd
      exact ⟨by rw [hd]; rfl, hmiss.config, hmiss.counted⟩
  refine ⟨hobserve.2.1, fun k => ?_, ?_, hobserve.1, hobserve.2.2⟩
  · have hfirst : (h.afterRun r file run).first? k =
        (h.first? k).or (Table.get? [(h.key r, Session.entryOf r file run)] k) :=
      Table.get?_append h.runs [(h.key r, Session.entryOf r file run)] k
    rw [hfirst, Session.afterRun, Table.get?_cons, Table.get?_cons, ← hc.cache, hc.key_eq r]
    split
    · rename_i hk
      rw [← hk, ← hc.key_eq r, hnone]
      rfl
    · cases s.cache.get? k <;> rfl
  · rw [Session.afterRun, List.map_cons, List.nodup_cons]
    exact ⟨Table.get?_eq_none_iff.1 hnone, hc.nodup⟩

/-- **A request** leaves session and history coherent. -/
theorem getOutput {σ : Type} (hc : Coherent config n s h) (w : Workshop σ) (r : CompileRequest) (world : σ) :
    Coherent config (n + 1) (s.getOutput w r world).2.1 (h.afterCalls r (s.requestCalls w r world)) := by
  cases hget : s.cache.get? (s.key r) with
  | some entry =>
    obtain ⟨hcalls, hanswer⟩ := s.getOutput_hit w r world hget
    rw [hcalls, hanswer]
    exact hc.countHit
  | none =>
    rcases s.getOutput_miss w r world hget with
      ⟨e, hcalls, -, hs⟩ | ⟨file, result, hcalls, ⟨e, rfl, -, hs⟩ | ⟨run, rfl, -, hs⟩⟩
    · rw [hcalls, hs]
      exact hc.countMiss
    · rw [hcalls, hs]
      exact hc.countMiss
    · rw [hcalls, hs]
      exact hc.afterRun hget file run

/-- **Every operation** leaves session and history coherent. -/
theorem step {σ : Type} {g : Stage σ} (hc : Coherent config n g.session g.history) (w : Workshop σ) (op : Operation) :
    Coherent config (n + if op.isRequest then 1 else 0) (g.step w op).session (g.step w op).history := by
  cases op with
  | getOutput r =>
    have htraced := g.session.getOutput_traced w r g.world []
    simp only [Stage.step, Session.perform, htraced]
    exact hc.getOutput w r g.world
  | recordedFile r => exact hc
  | clearCache => exact { hc with cache := fun _ => rfl, nodup := List.nodup_nil }
  | reset => exact { hc with cache := fun _ => rfl, nodup := List.nodup_nil, learned := rfl }
  | resetTimeout => exact { hc with learned := rfl }

/-- **All operations** one after the other leave session and history coherent. -/
theorem run {σ : Type} (w : Workshop σ) (ops : List Operation) : ∀ {n : Nat} {g : Stage σ},
    Coherent config n g.session g.history →
      Coherent config (n + (ops.filter Operation.isRequest).length) (g.run w ops).session (g.run w ops).history := by
  induction ops with
  | nil => exact fun hc => hc
  | cons op ops ih =>
    intro n g hc
    have h := ih (hc.step w op)
    rw [Stage.run, List.foldl_cons, ← Stage.run]
    rw [List.filter_cons]
    split
    · rename_i hop
      rw [if_pos hop] at h
      rw [List.length_cons, Nat.add_comm _ 1, ← Nat.add_assoc]
      exact h
    · rename_i hop
      rw [if_neg hop] at h
      exact h

end Coherent

/-! ## What a session answers -/

/-- The successful run of a request that had none before is the first with its key. -/
theorem History.first?_afterRun {h : History} {r : CompileRequest} (hnone : h.first? (h.key r) = none) (file : Path)
    (run : ProcessOutput) :
    (h.afterRun r file run).first? (h.key r) = some (Session.entryOf r file run) := by
  have happend : (h.afterRun r file run).first? (h.key r) =
      (h.first? (h.key r)).or (Table.get? [(h.key r, Session.entryOf r file run)] (h.key r)) :=
    Table.get?_append h.runs [(h.key r, Session.entryOf r file run)] (h.key r)
  rw [happend, hnone, Table.get?_cons, if_pos rfl]
  rfl

namespace Coherent

variable {config : DiagnoseConfig} {n : Nat} {s : Session} {h : History} {σ : Type}

/-- A request is answered with the output of the first successful run with its key. -/
theorem answer_eq (hc : Coherent config n s h) (w : Workshop σ) (r : CompileRequest) (world : σ)
    {output : CompilerOutput} (ho : (s.getOutput w r world).1 = .ok output) :
    ∃ entry, (h.afterCalls r (s.requestCalls w r world)).first? (h.key r) = some entry ∧ entry.output = output := by
  have hfirst := hc.cache (s.key r)
  rw [hc.key_eq] at hfirst
  cases hget : s.cache.get? (s.key r) with
  | some entry =>
    obtain ⟨hcalls, hanswer⟩ := s.getOutput_hit w r world hget
    rw [hanswer] at ho
    rw [hcalls]
    exact ⟨entry, by rw [← hget, hc.key_eq]; exact hfirst.symm, Except.ok.inj ho⟩
  | none =>
    rw [hc.key_eq] at hget
    rcases s.getOutput_miss w r world (by rw [hc.key_eq]; exact hget) with
      ⟨e, -, hanswer, -⟩ | ⟨file, result, hcalls, ⟨e, -, hanswer, -⟩ | ⟨run, rfl, hanswer, -⟩⟩
    · rw [hanswer] at ho
      cases ho
    · rw [hanswer] at ho
      cases ho
    · rw [hanswer] at ho
      rw [hcalls]
      exact ⟨_, History.first?_afterRun (hfirst.symm.trans hget) file run, Except.ok.inj ho⟩

/-- A scratch file is made, and with it the compiler run, exactly where there has been no successful run. -/
theorem calls_iff (hc : Coherent config n s h) (w : Workshop σ) (r : CompileRequest) (world : σ) :
    ((∃ contents suffix result, Call.create contents suffix result ∈ s.requestCalls w r world) ↔
      h.first? (h.key r) = none) ∧
    ((∃ request result, Call.run request result ∈ s.requestCalls w r world) ↔
      h.first? (h.key r) = none ∧
        ∃ file, Call.create r.contents config.scratchSuffix (.ok file) ∈ s.requestCalls w r world) := by
  rw [← hc.cache, ← hc.key_eq, ← hc.config]
  cases hget : s.cache.get? (s.key r) with
  | some entry =>
    obtain ⟨hcalls, -⟩ := s.getOutput_hit w r world hget
    simp [hcalls]
  | none =>
    rcases s.getOutput_miss w r world hget with ⟨e, hcalls, -, -⟩ | ⟨file, result, hcalls, -⟩
    · simp [hcalls]
    · simp [hcalls]

/-- A file is recorded exactly for the requests that are answered without a run. -/
theorem recordedFile_iff (hc : Coherent config n s h) (w : Workshop σ) (r : CompileRequest) (world : σ) (file : Path) :
    s.recordedFile r = some file ↔
      (∃ output, (s.getOutput w r world).1 = .ok output) ∧
        (∀ request result, Call.run request result ∉ s.requestCalls w r world) ∧
          ∃ entry, h.first? (h.key r) = some entry ∧ entry.file = file := by
  rw [← hc.cache, ← hc.key_eq, Session.recordedFile]
  cases hget : s.cache.get? (s.key r) with
  | some entry =>
    obtain ⟨hcalls, hanswer⟩ := s.getOutput_hit w r world hget
    simp [hcalls, hanswer]
  | none => simp

end Coherent

/-- **The cache of a session is coherent over whole runs.** After any operations on a fresh session, whatever the
surroundings do: a request is answered with the output of the first successful run with its key since the answers
were last forgotten; it makes a scratch file, and with that runs the compiler, if and only if there has been
no such run; a file is recorded for it if and only if it would be answered without a run, and then it is the file of
that run. As many answers are remembered as there are keys of such runs, and every request has been counted once. -/
theorem session_coherent {σ : Type} (config : DiagnoseConfig) (w : Workshop σ) (world : σ) (ops : List Operation) :
    let g := (Stage.start config world).run w ops
    (∀ r : CompileRequest,
      let call := g.session.getOutput w.traced r (g.world, [])
      let answer := call.1
      let calls := call.2.2.2
      (∀ output, answer = .ok output →
        ∃ entry, (g.history.afterCalls r calls).first? (g.history.key r) = some entry ∧ entry.output = output) ∧
      ((∃ contents suffix result, Call.create contents suffix result ∈ calls) ↔
        g.history.first? (g.history.key r) = none) ∧
      ((∃ request result, Call.run request result ∈ calls) ↔
        g.history.first? (g.history.key r) = none ∧
          ∃ file, Call.create r.contents config.scratchSuffix (.ok file) ∈ calls) ∧
      ∀ file, g.session.recordedFile r = some file ↔
        (∃ output, answer = .ok output) ∧ (∀ request result, Call.run request result ∉ calls) ∧
          ∃ entry, g.history.first? (g.history.key r) = some entry ∧ entry.file = file) ∧
    g.session.cacheSize = g.history.keyCount ∧
    g.session.hits + g.session.misses = (ops.filter Operation.isRequest).length := by
  have hc := Coherent.run w ops (g := Stage.start config world) (Coherent.fresh config)
  rw [Nat.zero_add] at hc
  refine ⟨fun r => ?_, hc.cacheSize_eq, hc.counted⟩
  simp only [Session.getOutput_traced, List.nil_append]
  obtain ⟨hcreate, hrun⟩ := hc.calls_iff w r ((Stage.start config world).run w ops).world
  exact ⟨fun output ho => hc.answer_eq w r _ ho, hcreate, hrun, fun file => hc.recordedFile_iff w r _ file⟩

end Diagnostics
