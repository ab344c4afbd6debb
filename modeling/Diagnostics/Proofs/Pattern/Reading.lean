import Diagnostics.Pattern
import Diagnostics.Proofs.Regex.Bracket

/-!
# The header is read as it was meant

The source of a pattern is the header and a second group around the source of the body. The header reads as
its elements, with the line number in the first group; whatever the body reads as stands in the second
(`parse_body`).
-/

namespace Diagnostics.ErrorPattern

open Regex (Ast ClassItem Token Lexes Calm Builds)

/-- The token of a character that stands for itself. -/
def charToken (c : Char) : Token := .element (.char c)

/-- The tokens of one or more characters of a bracket. -/
def manyTokens (negated : Bool) (item : ClassItem) : List Token :=
  [.element (.bracket negated item), .repetition 1 none true]

/-- The characters of a span, and perhaps a hyphen. -/
def rangeItem : ClassItem := .union (.span '0' '9') (.char '-')

/-- The tokens of the header. -/
def headerTokens : List Token :=
  "File \"".toList.map charToken ++ manyTokens true (.char '"')
    ++ "\", line ".toList.map charToken
    ++ (.opening (.capture none) :: manyTokens false (.span '0' '9') ++ [.closing])
    ++ ", characters ".toList.map charToken ++ manyTokens false rangeItem
    ++ (":".toList.map charToken ++ [charToken '\n'])

/-- The elements of the header, piece by piece. -/
theorem header_pieces : header =
    "File \"".toList.map Ast.char ++ [manyOf true (.char '"')]
      ++ "\", line ".toList.map Ast.char ++ [.capture 1 (manyOf false (.span '0' '9'))]
      ++ ", characters ".toList.map Ast.char ++ [manyOf false rangeItem]
      ++ (":".toList.map Ast.char ++ [.char '\n']) := by decide

theorem headerSource_pieces : headerSource.toList =
    "File \"".toList ++ ['[', '^', '"', ']', '+']
      ++ "\", line ".toList ++ ('(' :: ['[', '0', '-', '9', ']', '+'] ++ [')'])
      ++ ", characters ".toList ++ ['[', '0', '-', '9', '-', ']', '+']
      ++ (":".toList ++ ['\\', 'n']) ++ ['('] := by decide

theorem lexes_notQuote : Lexes ['[', '^', '"', ']'] [.element (.bracket true (.char '"'))] :=
  Regex.lexes_otherItems (Regex.readsInside_nil.char (by decide) (by decide)) ⟨'"', [], rfl, by decide⟩

theorem lexes_digit : Lexes ['[', '0', '-', '9', ']'] [.element (.bracket false (.span '0' '9'))] :=
  Regex.lexes_items (Regex.readsInside_nil.span (by decide) (by decide) (by decide)) ⟨'0', _, rfl, by decide⟩

theorem lexes_range : Lexes ['[', '0', '-', '9', '-', ']'] [.element (.bracket false rangeItem)] :=
  Regex.lexes_items (Regex.readsInside_hyphen.span (by decide) (by decide) (by decide)) ⟨'0', _, rfl, by decide⟩

theorem lexes_many {cs : List Char} {negated : Bool} {item : ClassItem}
    (h : Lexes cs [.element (.bracket negated item)]) : Lexes (cs ++ ['+']) (manyTokens negated item) :=
  Regex.lexes_append h Regex.lexes_plus (by simp [Calm])

theorem lexes_newline : Lexes ['\\', 'n'] [charToken '\n'] := by
  refine Regex.lexes_token (fun rest _ => ?_) fun _ => rfl
  simp [Regex.readToken, Regex.readEscape, Regex.isEscapable, Regex.isMeta, charToken, bind, Except.bind, pure,
    Except.pure]

/-- The tokens of a header that is followed by one more group. -/
theorem lexes_header {cs : List Char} {ts : List Token} (h : Lexes cs ts) (hcalm : Calm cs) :
    Lexes (headerSource.toList ++ cs ++ [')'])
      (headerTokens ++ (.opening (.capture none) :: ts ++ [.closing])) := by
  have hfile := (Regex.lexes_chars "File \"".toList (by simp [Regex.isMeta])).1
  have hline := Regex.lexes_chars "\", line ".toList (by simp [Regex.isMeta])
  have hchars := Regex.lexes_chars ", characters ".toList (by simp [Regex.isMeta])
  have hcolon := Regex.lexes_chars ":".toList (by simp [Regex.isMeta])
  have hpath := Regex.lexes_append hfile (lexes_many lexes_notQuote) (by simp [Calm])
  have hnumber := Regex.lexes_append (Regex.lexes_append hpath hline.1 hline.2)
    (Regex.lexes_capture (lexes_many lexes_digit) (by simp [Calm])) (by simp [Calm])
  have hspan := Regex.lexes_append (Regex.lexes_append hnumber hchars.1 hchars.2) (lexes_many lexes_range)
    (by simp [Calm])
  have hend := Regex.lexes_append hspan (Regex.lexes_append hcolon.1 lexes_newline (by simp [Calm]))
    (Regex.calm_append hcolon.2 (by simp [Calm]))
  have hall := Regex.lexes_append hend (Regex.lexes_capture h hcalm) (by simp [Calm])
  rw [headerSource_pieces, List.append_assoc _ ['('], List.append_assoc _ (['('] ++ cs)]
  exact hall

theorem builds_chars (n : Nat) : ∀ cs : List Char, Builds n n (cs.map charToken) (cs.map Ast.char)
  | [] => Regex.builds_nil n
  | c :: cs => Regex.builds_append (Regex.builds_element n (.char c)) (builds_chars n cs)

theorem builds_many (n : Nat) (negated : Bool) (item : ClassItem) :
    Builds n n (manyTokens negated item) [manyOf negated item] :=
  Regex.builds_repeated n rfl 1 none true

/-- The tokens of the header build its elements, one of them a group. -/
theorem builds_header : Builds 0 1 headerTokens header := by
  rw [header_pieces]
  have hpath := Regex.builds_append (builds_chars 0 "File \"".toList) (builds_many 0 true (.char '"'))
  have hnumber := Regex.builds_append (Regex.builds_append hpath (builds_chars 0 "\", line ".toList))
    (Regex.builds_capture (builds_many 1 false (.span '0' '9')))
  have hspan := Regex.builds_append (Regex.builds_append hnumber (builds_chars 1 ", characters ".toList))
    (builds_many 1 false rangeItem)
  exact Regex.builds_append hspan
    (Regex.builds_append (builds_chars 1 ":".toList) (Regex.builds_element 1 (.char '\n')))

theorem shallow_header : ∀ a ∈ header, a.Shallow 249 := by
  intro a ha
  rw [header_pieces] at ha
  simp only [List.mem_append, List.mem_map, List.mem_singleton] at ha
  rcases ha with (((((((⟨c, -, rfl⟩ | rfl) | ⟨c, -, rfl⟩) | rfl) | ⟨c, -, rfl⟩) | rfl) | ⟨c, -, rfl⟩ | rfl))
  · exact Regex.shallow_char _ c
  · exact Regex.shallow_repeated (by decide) (by rfl) 1 none true
  · exact Regex.shallow_char _ c
  · exact Regex.shallow_capture (by decide) (by rfl) 1
  · exact Regex.shallow_char _ c
  · exact Regex.shallow_repeated (by decide) (by rfl) 1 none true
  · exact Regex.shallow_char _ c
  · exact Regex.shallow_char _ '\n'

/-- The tree of a pattern whose second group holds the elements. -/
def bodyTree (as : List Ast) : Ast := Ast.sequence (header ++ [.capture 2 (Ast.sequence as)])

/-- **The tree of a pattern** has the elements of the body in its second group. -/
theorem parse_body (source : String) {ts : List Token} {as : List Ast} (hl : Lexes source.toList ts)
    (hcalm : Calm source.toList) (hb : ∀ n, Builds n n ts as) (hd : ∀ a ∈ as, a.Shallow 247) :
    Ast.parse (headerSource ++ source ++ ")") =
      if (bodyTree as).weight ≤ Ast.weightLimit then .ok (bodyTree as) else .error .tooLarge := by
  have hlexes := lexes_header hl hcalm
  have hsource : (headerSource ++ source ++ ")").toList = headerSource.toList ++ source.toList ++ [')'] := by
    simp
  rw [← hsource] at hlexes
  refine Regex.parse_pieces hlexes (Regex.builds_append builds_header (Regex.builds_capture (hb 2))) fun a ha => ?_
  rcases List.mem_append.1 ha with ha | ha
  · exact shallow_header a ha
  · obtain rfl := List.mem_singleton.1 ha
    exact Regex.shallow_capture (Nat.succ_le_succ (Regex.depth_sequence hd)) (Regex.sound_sequence hd) 2

end Diagnostics.ErrorPattern
