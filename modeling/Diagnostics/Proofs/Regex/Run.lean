import Diagnostics.Regex.Search

/-!
# Runs of an expression

What an expression matches, told without a program: `Run text r i j ms` says that `r` takes the text from
`i` to `j` and leaves the marks `ms`, the latest first. The instructions of an expression do just that:
the threads that enter its block and leave it again are its runs (`path_out`, `path_run`), and a thread of
the whole program that accepts is a run of the whole expression (`accepting_path_iff`).
-/

namespace Diagnostics.Regex

/-- The expression matches the text from the first position to the second and leaves the marks. -/
inductive Run (text : Array Char) : Regex → Nat → Nat → Marks → Prop
  | empty {i : Nat} : Run text .empty i i []
  | char {s : CharSet} {i : Nat} {c : Char} (hc : text[i]? = some c) (hs : s.contains c = true) :
    Run text (.char s) i (i + 1) []
  | assert {a : Assertion} {i : Nat} (h : a.holds (charBefore text i) text[i]? = true) :
    Run text (.assert a) i i []
  | group {k : Nat} {r : Regex} {i j : Nat} {ms : Marks} (h : Run text r i j ms) :
    Run text (.group k r) i j ((stopSlot k, j) :: ms ++ [(startSlot k, i)])
  | cat {a b : Regex} {i j k : Nat} {ms ns : Marks} (ha : Run text a i k ms) (hb : Run text b k j ns) :
    Run text (.cat a b) i j (ns ++ ms)
  | left {a b : Regex} {i j : Nat} {ms : Marks} (h : Run text a i j ms) : Run text (.alt a b) i j ms
  | right {a b : Regex} {i j : Nat} {ms : Marks} (h : Run text b i j ms) : Run text (.alt a b) i j ms
  | once {g : Bool} {r : Regex} {i j : Nat} {ms : Marks} (h : Run text r i j ms) :
    Run text (.plus g r) i j ms
  | again {g : Bool} {r : Regex} {i j k : Nat} {ms ns : Marks} (h : Run text r i k ms)
    (hs : Run text (.plus g r) k j ns) : Run text (.plus g r) i j (ns ++ ms)

theorem Run.le {text : Array Char} {r : Regex} {i j : Nat} {ms : Marks} (h : Run text r i j ms) : i ≤ j := by
  induction h with
  | empty => exact Nat.le_refl _
  | char => exact Nat.le_succ _
  | assert => exact Nat.le_refl _
  | group _ ih => exact ih
  | cat _ _ iha ihb => exact Nat.le_trans iha ihb
  | left _ ih => exact ih
  | right _ ih => exact ih
  | once _ ih => exact ih
  | again _ _ ih ihs => exact Nat.le_trans ih ihs

/-! ## Paths of threads -/

/-- A thread goes to another in so many steps. -/
inductive Path (p : Program) (text : Array Char) : Nat → Thread → Thread → Prop
  | refl (t : Thread) : Path p text 0 t t
  | step {n : Nat} {t s u : Thread} (hs : s ∈ t.successors p text) (h : Path p text n s u) :
    Path p text (n + 1) t u

section
variable {p : Program} {text : Array Char}

theorem Path.trans {m n : Nat} {t u v : Thread} (h : Path p text m t u) (h' : Path p text n u v) :
    Path p text (m + n) t v := by
  induction h with
  | refl => simpa using h'
  | @step k _ _ _ hs _ ih =>
    rw [show k + 1 + n = k + n + 1 by omega]
    exact .step hs (ih h')

/-! ## Blocks of a program -/

/-- The instructions stand in the program from `base` on. -/
def Stands (p : Program) (base : Nat) (block : List Inst) : Prop :=
  ∀ k, k < block.length → p[base + k]? = block[k]?

theorem stands_cons {base : Nat} {a : Inst} {block : List Inst} (h : Stands p base (a :: block)) :
    p[base]? = some a ∧ Stands p (base + 1) block := by
  refine ⟨by simpa using h 0 (by simp), fun k hk => ?_⟩
  have := h (k + 1) (by simpa using hk)
  simpa [Nat.add_assoc, Nat.add_comm 1] using this

theorem stands_append {base : Nat} {block more : List Inst} (h : Stands p base (block ++ more)) :
    Stands p base block ∧ Stands p (base + block.length) more := by
  refine ⟨fun k hk => ?_, fun k hk => ?_⟩
  · rw [h k (by simp; omega), List.getElem?_append_left hk]
  · rw [Nat.add_assoc, h (block.length + k) (by simp; omega), List.getElem?_append_right (by omega)]
    simp

/-- The step that an instruction makes of a thread. -/
def Inst.Steps (text : Array Char) (t s : Thread) : Inst → Prop
  | .accept => False
  | .jump next => s = { t with address := next }
  | .char cs next => ∃ c, text[t.position]? = some c ∧ cs.contains c = true ∧
      s = { t with address := next, position := t.position + 1 }
  | .assert a next => a.holds (charBefore text t.position) text[t.position]? = true ∧
      s = { t with address := next }
  | .save slot next => s = { t with address := next, marks := (slot, t.position) :: t.marks }
  | .fork first second => s = { t with address := first } ∨ s = { t with address := second }

theorem mem_successors {t s : Thread} {inst : Inst} (hp : p[t.address]? = some inst) :
    s ∈ t.successors p text ↔ inst.Steps text t s := by
  unfold Thread.successors
  rw [hp]
  cases inst with
  | accept => simp [Inst.Steps]
  | jump next => simp [Inst.Steps]
  | char cs next =>
    cases ht : text[t.position]? with
    | none => simp [Inst.Steps, ht]
    | some c => by_cases hc : cs.contains c = true <;> simp [Inst.Steps, ht, hc]
  | assert a next =>
    by_cases ha : a.holds (charBefore text t.position) text[t.position]? = true <;>
      simp [Inst.Steps, ha]
  | save slot next => simp [Inst.Steps]
  | fork first second => simp [Inst.Steps]

/-- A path from an instruction to another address begins with a step of the instruction. -/
theorem Path.enter {n : Nat} {t u : Thread} {inst : Inst} (h : Path p text n t u) (hp : p[t.address]? = some inst)
    (hne : t.address ≠ u.address) : ∃ k s, n = k + 1 ∧ inst.Steps text t s ∧ Path p text k s u := by
  cases h with
  | refl => exact absurd rfl hne
  | step hs h => exact ⟨_, _, rfl, (mem_successors hp).1 hs, h⟩

theorem path_one {t s : Thread} {inst : Inst} (hp : p[t.address]? = some inst)
    (hs : inst.Steps text t s) : Path p text 1 t s :=
  .step ((mem_successors hp).2 hs) (.refl s)

/-- The instruction at the end of a loop goes back or on, whichever it prefers. -/
theorem steps_loop {t s : Thread} {base next : Nat} (g : Bool) :
    (if g then Inst.fork base next else Inst.fork next base).Steps text t s ↔
      s = { t with address := base } ∨ s = { t with address := next } := by
  cases g
  · exact or_comm
  · exact Iff.rfl

theorem size_pos (r : Regex) : 0 < r.size := by
  induction r with
  | empty => exact Nat.one_pos
  | char => exact Nat.one_pos
  | assert => exact Nat.one_pos
  | group => simp [size]
  | cat a b iha _ => simp only [size]; omega
  | alt => simp [size]
  | plus => simp [size]

/-- The address lies outside a block. -/
def Outside (base size address : Nat) : Prop := address < base ∨ base + size ≤ address

/-- A path that enters the block from `base` to `next` and ends outside leaves it at the exit, having run the
expression. -/
def Exits (p : Program) (text : Array Char) (r : Regex) (base next : Nat) : Prop :=
  ∀ {i n : Nat} {m : Marks} {u : Thread}, Path p text n ⟨base, i, m⟩ u → Outside base r.size u.address →
    ∃ n' j ms, n' < n ∧ Run text r i j ms ∧ Path p text n' ⟨next, j, ms ++ m⟩ u

/-- A loop may be gone through many times: each time the path that is left is shorter. -/
theorem exits_loop {g : Bool} {r : Regex} {base next : Nat} (hr : Exits p text r base (base + r.size))
    (hfork : p[base + r.size]? = some (if g then .fork base next else .fork next base)) :
    Exits p text (.plus g r) base next := by
  intro i n m u h ho
  simp only [Outside, size] at ho
  induction n using Nat.strongRecOn generalizing i m with
  | ind n ih =>
    obtain ⟨k, x, ms, hk, hrun, h⟩ := hr h (by unfold Outside; omega)
    obtain ⟨k', t, rfl, hs, h⟩ := h.enter hfork (by dsimp only; omega)
    rcases (steps_loop g).1 hs with rfl | rfl
    · obtain ⟨k'', j, ns, hk', hrest, h⟩ := ih k' (by omega) h
      exact ⟨k'', j, ns ++ ms, by omega, .again hrun hrest, by simpa using h⟩
    · exact ⟨k', x, ms, by omega, .once hrun, h⟩

/-- **Leaving a block.** A path that enters the block of an expression and ends outside goes through the exit
of the block, and on the way there it is a run of the expression. -/
theorem path_out (r : Regex) : ∀ {base next : Nat}, Stands p base (r.layout base next) →
    Exits p text r base next := by
  induction r with
  | empty =>
    intro base next hp i n m u h ho
    simp only [Outside, size] at ho
    obtain ⟨k, s, rfl, rfl, h⟩ := h.enter (stands_cons hp).1 (by dsimp only; omega)
    exact ⟨k, i, [], Nat.lt_succ_self k, .empty, h⟩
  | char s =>
    intro base next hp i n m u h ho
    simp only [Outside, size] at ho
    obtain ⟨k, t, rfl, ⟨c, hc, hcs, rfl⟩, h⟩ := h.enter (stands_cons hp).1 (by dsimp only; omega)
    exact ⟨k, i + 1, [], Nat.lt_succ_self k, .char hc hcs, h⟩
  | assert a =>
    intro base next hp i n m u h ho
    simp only [Outside, size] at ho
    obtain ⟨k, t, rfl, ⟨ha, rfl⟩, h⟩ := h.enter (stands_cons hp).1 (by dsimp only; omega)
    exact ⟨k, i, [], Nat.lt_succ_self k, .assert ha, h⟩
  | group g r ih =>
    intro base next hp i n m u h ho
    simp only [Outside, size] at ho
    obtain ⟨hsave, hrest⟩ := stands_cons hp
    obtain ⟨hr, hstop⟩ := stands_append hrest
    rw [length_layout] at hstop
    obtain ⟨k, t, rfl, rfl, h⟩ := h.enter hsave (by dsimp only; omega)
    obtain ⟨k', j, ms, hk, hrun, h⟩ := ih hr h (by unfold Outside; omega)
    obtain ⟨k'', t, rfl, rfl, h⟩ := h.enter (stands_cons hstop).1 (by dsimp only; omega)
    exact ⟨k'', j, _, by omega, .group hrun, by simpa using h⟩
  | cat a b iha ihb =>
    intro base next hp i n m u h ho
    simp only [Outside, size] at ho
    obtain ⟨ha, hb⟩ := stands_append hp
    rw [length_layout] at hb
    obtain ⟨k, x, ms, hk, hra, h⟩ := iha ha h (by unfold Outside; omega)
    obtain ⟨k', j, ns, hk', hrb, h⟩ := ihb hb h (by unfold Outside; omega)
    exact ⟨k', j, ns ++ ms, by omega, .cat hra hrb, by simpa using h⟩
  | alt a b iha ihb =>
    intro base next hp i n m u h ho
    simp only [Outside, size] at ho
    obtain ⟨hfork, hrest⟩ := stands_cons hp
    obtain ⟨ha, hb⟩ := stands_append hrest
    rw [length_layout] at hb
    obtain ⟨k, t, rfl, rfl | rfl, h⟩ := h.enter hfork (by dsimp only; omega)
    · obtain ⟨k', j, ms, hk, hr, h⟩ := iha ha h (by unfold Outside; omega)
      exact ⟨k', j, ms, by omega, .left hr, h⟩
    · obtain ⟨k', j, ms, hk, hr, h⟩ := ihb hb h (by unfold Outside; omega)
      exact ⟨k', j, ms, by omega, .right hr, h⟩
  | plus g r ih =>
    intro base next hp
    obtain ⟨hr, hfork⟩ := stands_append hp
    rw [length_layout] at hfork
    exact exits_loop (ih hr) (stands_cons hfork).1

/-- **Crossing a block.** A run of an expression is a path through its block. -/
theorem path_run {r : Regex} {i j : Nat} {ms : Marks} (h : Run text r i j ms) :
    ∀ {base next : Nat} {m : Marks}, Stands p base (r.layout base next) →
      ∃ n, Path p text n ⟨base, i, m⟩ ⟨next, j, ms ++ m⟩ := by
  induction h with
  | empty =>
    intro base next m hp
    exact ⟨1, path_one (stands_cons hp).1 rfl⟩
  | char hc hs =>
    intro base next m hp
    exact ⟨1, path_one (stands_cons hp).1 ⟨_, hc, hs, rfl⟩⟩
  | assert ha =>
    intro base next m hp
    exact ⟨1, path_one (stands_cons hp).1 ⟨ha, rfl⟩⟩
  | @group k r i j ms _ ih =>
    intro base next m hp
    obtain ⟨hsave, hrest⟩ := stands_cons hp
    obtain ⟨hr, hstop⟩ := stands_append hrest
    rw [length_layout] at hstop
    obtain ⟨n, hin⟩ := ih (m := (startSlot k, i) :: m) hr
    have hfirst : Path p text 1 ⟨base, i, m⟩ ⟨base + 1, i, (startSlot k, i) :: m⟩ := path_one hsave rfl
    have hlast : Path p text 1 ⟨base + 1 + r.size, j, ms ++ (startSlot k, i) :: m⟩
        ⟨next, j, (stopSlot k, j) :: (ms ++ (startSlot k, i) :: m)⟩ := path_one (stands_cons hstop).1 rfl
    exact ⟨_, by simpa using hfirst.trans (hin.trans hlast)⟩
  | cat _ _ iha ihb =>
    intro base next m hp
    obtain ⟨ha, hb⟩ := stands_append hp
    rw [length_layout] at hb
    obtain ⟨n, hpa⟩ := iha (m := m) ha
    obtain ⟨n', hpb⟩ := ihb hb
    exact ⟨_, by simpa using hpa.trans hpb⟩
  | @left a b i j ms _ ih =>
    intro base next m hp
    obtain ⟨hfork, hrest⟩ := stands_cons hp
    obtain ⟨n, h⟩ := ih (m := m) (stands_append hrest).1
    have hfirst : Path p text 1 ⟨base, i, m⟩ ⟨base + 1, i, m⟩ := path_one hfork (Or.inl rfl)
    exact ⟨_, hfirst.trans h⟩
  | @right a b i j ms _ ih =>
    intro base next m hp
    obtain ⟨hfork, hrest⟩ := stands_cons hp
    have hb := (stands_append hrest).2
    rw [length_layout] at hb
    obtain ⟨n, h⟩ := ih (m := m) hb
    have hsecond : Path p text 1 ⟨base, i, m⟩ ⟨base + 1 + a.size, i, m⟩ := path_one hfork (Or.inr rfl)
    exact ⟨_, hsecond.trans h⟩
  | @once g r i j ms _ ih =>
    intro base next m hp
    obtain ⟨hr, hfork⟩ := stands_append hp
    rw [length_layout] at hfork
    obtain ⟨n, h⟩ := ih (m := m) hr
    exact ⟨_, h.trans (path_one (stands_cons hfork).1 ((steps_loop g).2 (.inr rfl)))⟩
  | @again g r i j k ms ns _ _ ih ihs =>
    intro base next m hp
    obtain ⟨hr, hfork⟩ := stands_append hp
    rw [length_layout] at hfork
    obtain ⟨n, h⟩ := ih (m := m) hr
    obtain ⟨n', h'⟩ := ihs (m := ms ++ m) hp
    have hback : (⟨base, k, ms ++ m⟩ : Thread) ∈
        Thread.successors p text ⟨base + r.size, k, ms ++ m⟩ :=
      (mem_successors (stands_cons hfork).1).2 ((steps_loop g).2 (.inl rfl))
    exact ⟨_, by simpa using h.trans (.step hback h')⟩

end

/-! ## The whole program -/

theorem accept_not_mem_layout (r : Regex) (base next : Nat) : Inst.accept ∉ r.layout base next := by
  induction r generalizing base next with
  | empty => simp [layout]
  | char => simp [layout]
  | assert => simp [layout]
  | group _ r ih => simp [layout, ih]
  | cat a b iha ihb => simp [layout, iha, ihb]
  | alt a b iha ihb => simp [layout, iha, ihb]
  | plus g r ih => cases g <;> simp [layout, ih]

theorem stands_program (r : Regex) : Stands r.program 0 (r.layout 0 r.size) := by
  intro k hk
  simp [program, List.getElem?_append_left hk]

theorem program_accept (r : Regex) : r.program[r.size]? = some .accept := by
  simp [program, length_layout]

/-- Only the last instruction accepts. -/
theorem accepts_iff (r : Regex) (t : Thread) : t.accepts r.program = true ↔ t.address = r.size := by
  unfold Thread.accepts
  constructor
  · intro h
    rw [beq_iff_eq, program, List.getElem?_toArray] at h
    rcases Nat.lt_trichotomy t.address r.size with hlt | heq | hgt
    · rw [List.getElem?_append_left (by rwa [length_layout])] at h
      exact absurd (List.mem_of_getElem? h) (accept_not_mem_layout r 0 r.size)
    · exact heq
    · rw [List.getElem?_eq_none (by simp [length_layout]; omega)] at h
      cases h
  · intro h
    rw [h, program_accept]
    rfl

theorem successors_of_accepts {p : Program} {text : Array Char} {t : Thread} (h : t.accepts p = true) :
    t.successors p text = [] := by
  unfold Thread.accepts at h
  rw [beq_iff_eq] at h
  simp [Thread.successors, h]

/-- **Acceptance is a run.** A thread that enters a program at a position and accepts has run the whole
expression from there, and every run of the expression is such a thread. -/
theorem accepting_path_iff {r : Regex} {text : Array Char} {i : Nat} {m : Marks} {u : Thread} :
    ((∃ n, Path r.program text n ⟨0, i, m⟩ u) ∧ u.accepts r.program = true) ↔
      ∃ j ms, Run text r i j ms ∧ u = ⟨r.size, j, ms ++ m⟩ := by
  constructor
  · rintro ⟨⟨n, h⟩, hu⟩
    have hout : Outside 0 r.size u.address := by rw [(accepts_iff r u).1 hu]; exact .inr (by omega)
    obtain ⟨n', j, ms, _, hrun, h⟩ := path_out r (stands_program r) h hout
    refine ⟨j, ms, hrun, ?_⟩
    cases h with
    | refl => rfl
    | step hs _ =>
      rw [successors_of_accepts ((accepts_iff r _).2 rfl)] at hs
      simp at hs
  · rintro ⟨j, ms, hrun, rfl⟩
    exact ⟨path_run hrun (stands_program r), (accepts_iff r _).2 rfl⟩

end Diagnostics.Regex
