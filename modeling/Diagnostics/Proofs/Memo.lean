import Diagnostics.Memo
import Diagnostics.Proofs.Table

/-!
# A memo answers as if it were not there

Each table of a memo holds the right answer for every key that has been answered since the memo was last cleared, and
nothing else (`DiagnosticMemo.Holds`). One operation keeps that and is answered directly (`Holds.perform`), and so are
all operations of any run (`memo_transparent`). A question about a pattern is kept under the source of the pattern; that
is enough, for a pattern is determined by its source.
-/

namespace Diagnostics

/-! ## Operations -/

/-- What can be asked of a memo, or done to it. -/
inductive MemoOperation
  | hasError (p : ErrorPattern) (output : String)
  | lineNumber (p : ErrorPattern) (output : String)
  | errorBody (p : ErrorPattern) (output : String)
  | generalize (output : String)
  | clear

/-- What comes back. -/
inductive MemoAnswer
  | present (answer : Bool)
  | line (answer : Except DiagnosticError Nat)
  | body (answer : Except DiagnosticError String)
  | pattern (answer : Except DiagnosticError ErrorPattern)
  | cleared

/-- The answer is an error. -/
def MemoAnswer.isError : MemoAnswer → Bool
  | line answer => answer.toOption.isNone
  | body answer => answer.toOption.isNone
  | pattern answer => answer.toOption.isNone
  | present _ | cleared => false

/-- The answer without a memo. -/
def MemoOperation.direct : MemoOperation → MemoAnswer
  | hasError p output => .present (p.hasError output)
  | lineNumber p output => .line (p.lineNumber output)
  | errorBody p output => .body (p.errorBody output)
  | generalize output => .pattern (Diagnostics.generalize output)
  | clear => .cleared

/-- Perform an operation. -/
def DiagnosticMemo.perform (m : DiagnosticMemo) : MemoOperation → MemoAnswer × DiagnosticMemo
  | .hasError p output => (m.hasError p output).map .present id
  | .lineNumber p output => (m.lineNumber p output).map .line id
  | .errorBody p output => (m.errorBody p output).map .body id
  | .generalize output => (m.generalize output).map .pattern id
  | .clear => (.cleared, m.clear)

/-- Perform operations one after the other. -/
def DiagnosticMemo.run (m : DiagnosticMemo) (ops : List MemoOperation) : DiagnosticMemo :=
  ops.foldl (fun m op => (m.perform op).2) m

/-! ## What has been asked -/

/-- The keys that have been asked about since the last clearing, one list for each question; those of a question that can
fail are there if it was answered. -/
structure MemoKeys where
  present : List (String × String) := []
  lines : List (String × String) := []
  bodies : List (String × String) := []
  patterns : List String := []

namespace MemoKeys

/-- The key, if there is an answer. -/
def ifAnswered {κ α : Type} (key : κ) (answer : Except DiagnosticError α) : List κ :=
  (answer.toOption.map fun _ => key).toList

/-- The keys after one more operation. -/
def after (keys : MemoKeys) : MemoOperation → MemoKeys
  | .hasError p output => { keys with present := keys.present ++ [(output, p.source)] }
  | .lineNumber p output => { keys with lines := keys.lines ++ ifAnswered (output, p.source) (p.lineNumber output) }
  | .errorBody p output => { keys with bodies := keys.bodies ++ ifAnswered (output, p.source) (p.errorBody output) }
  | .generalize output => { keys with patterns := keys.patterns ++ ifAnswered output (Diagnostics.generalize output) }
  | .clear => {}

/-- The keys after operations on a new memo. -/
def ofRun (ops : List MemoOperation) : MemoKeys := ops.foldl after {}

end MemoKeys

/-! ## What the tables hold -/

namespace DiagnosticMemo

/-- Each table holds the right answers to the keys that have been asked about, and no other. -/
structure Holds (m : DiagnosticMemo) (keys : MemoKeys) : Prop where
  present : m.present.Holds (fun k answer => ∀ p : ErrorPattern, p.source = k.2 → p.hasError k.1 = answer) keys.present
  lines : m.lines.Holds (fun k n => ∀ p : ErrorPattern, p.source = k.2 → p.lineNumber k.1 = .ok n) keys.lines
  bodies : m.bodies.Holds (fun k body => ∀ p : ErrorPattern, p.source = k.2 → p.errorBody k.1 = .ok body) keys.bodies
  patterns : m.patterns.Holds (fun output p => Diagnostics.generalize output = .ok p) keys.patterns

namespace Holds

variable {m : DiagnosticMemo} {keys : MemoKeys}

theorem empty : DiagnosticMemo.empty.Holds {} :=
  { present := .empty _, lines := .empty _, bodies := .empty _, patterns := .empty _ }

/-- The size of the memo is the number of different keys. -/
theorem size_eq (h : m.Holds keys) : m.size =
    keys.present.dedup.length + keys.lines.dedup.length + keys.bodies.dedup.length + keys.patterns.dedup.length := by
  rw [size, h.present.length_eq, h.lines.length_eq, h.bodies.length_eq, h.patterns.length_eq]

/-- What holds for every pattern with the source of a pattern holds for that pattern. -/
theorem forall_source_iff {right : ErrorPattern → Prop} (p : ErrorPattern) :
    (∀ q : ErrorPattern, q.source = p.source → right q) ↔ right p :=
  ⟨fun h => h p rfl, fun h _ hq => ErrorPattern.eq_of_source_eq hq ▸ h⟩

/-- Whether a pattern matches is answered directly, and kept unless it was kept before. -/
theorem hasError_eq (h : m.Holds keys) (p : ErrorPattern) (output : String) :
    m.hasError p output =
      (p.hasError output, { m with present := m.present.keep (output, p.source) (p.hasError output) }) := by
  unfold hasError
  cases hget : m.present.get? (output, p.source) with
  | some answer =>
    obtain rfl := h.present.right hget p rfl
    rw [Table.keep_of_some hget]
  | none => rfl

/-- **One operation** is answered directly, and a table that holds right answers goes on to do so. -/
theorem perform (h : m.Holds keys) (op : MemoOperation) :
    (m.perform op).1 = op.direct ∧ (m.perform op).2.Holds (keys.after op) := by
  cases op with
  | hasError p output =>
    have hanswer : m.perform (.hasError p output) = (MemoAnswer.present (p.hasError output),
        { m with present := m.present.keep (output, p.source) (p.hasError output) }) :=
      congrArg (Prod.map MemoAnswer.present id) (h.hasError_eq p output)
    rw [hanswer]
    exact ⟨rfl, { h with present := h.present.keep ((forall_source_iff p).2 rfl) }⟩
  | lineNumber p output =>
    have hask := h.lines.ask (output, p.source) (fun _ => p.lineNumber output) fun n => forall_source_iff p
    exact ⟨congrArg MemoAnswer.line hask.1, { h with lines := hask.2 }⟩
  | errorBody p output =>
    have hask := h.bodies.ask (output, p.source) (fun _ => p.errorBody output) fun body => forall_source_iff p
    exact ⟨congrArg MemoAnswer.body hask.1, { h with bodies := hask.2 }⟩
  | generalize output =>
    have hask := h.patterns.ask output (fun _ => Diagnostics.generalize output) fun p => Iff.rfl
    exact ⟨congrArg MemoAnswer.pattern hask.1, { h with patterns := hask.2 }⟩
  | clear => exact ⟨rfl, .empty⟩

/-- **All operations** leave tables that hold right answers. -/
theorem run (ops : List MemoOperation) : ∀ {m : DiagnosticMemo} {keys : MemoKeys}, m.Holds keys →
    (m.run ops).Holds (ops.foldl MemoKeys.after keys) := by
  induction ops with
  | nil => exact fun h => h
  | cons op ops ih => exact fun h => ih (h.perform op).2

end Holds

/-- What cannot be answered changes nothing. -/
theorem perform_of_isError {m : DiagnosticMemo} {op : MemoOperation} (h : op.direct.isError = true) :
    (m.perform op).2 = m := by
  cases op with
  | hasError p output => cases h
  | lineNumber p output =>
    exact congrArg (fun lines => { m with lines }) (m.lines.ask_of_isNone _ (fun _ => p.lineNumber output) h)
  | errorBody p output =>
    exact congrArg (fun bodies => { m with bodies }) (m.bodies.ask_of_isNone _ (fun _ => p.errorBody output) h)
  | generalize output =>
    exact congrArg (fun patterns => { m with patterns })
      (m.patterns.ask_of_isNone output (fun _ => Diagnostics.generalize output) h)
  | clear => cases h

end DiagnosticMemo

/-- **A memo is transparent.** After any operations on a new memo, every operation is answered as it would be without a
memo, with the same value or the same error. The memo has as many answers as there are different keys, since the last
clearing, of questions whether a pattern matches and of each other question that was answered. An operation whose answer
is an error changes nothing. -/
theorem memo_transparent (ops : List MemoOperation) :
    let m := DiagnosticMemo.empty.run ops
    let keys := MemoKeys.ofRun ops
    (∀ op, (m.perform op).1 = op.direct) ∧
    m.size = keys.present.dedup.length + keys.lines.dedup.length + keys.bodies.dedup.length +
      keys.patterns.dedup.length ∧
    ∀ op, op.direct.isError = true → (m.perform op).2 = m := by
  have h := DiagnosticMemo.Holds.run ops .empty
  exact ⟨fun op => (h.perform op).1, h.size_eq, fun _ hop => DiagnosticMemo.perform_of_isError hop⟩

end Diagnostics
