/-!
# UTF-8

Bytes as text. A byte either is a character, or begins one and says how many bytes are still to come and
between which bounds the next one lies, or fits nowhere. A part that is no character is as long as it could
still have become one; read leniently, each such part is one replacement character.
-/

namespace Diagnostics.Utf8

/-- A character that has been begun: the bits so far, how many bytes are missing, and the bounds of the next
one. -/
structure Pending where
  bits : Nat
  missing : Nat
  low : Nat
  high : Nat

/-- What a first byte is. -/
inductive Lead
  | char (c : Char)
  | pending (p : Pending)
  | bad

/-- The least and the greatest byte that may follow within a character. -/
def tailLow : Nat := 0x80

def tailHigh : Nat := 0xbf

/-- What a byte is when no character has been begun. -/
def lead (b : Nat) : Lead :=
  if b < 0x80 then .char (Char.ofNat b)
  else if b < 0xc2 then .bad
  else if b < 0xe0 then .pending ⟨b - 0xc0, 1, tailLow, tailHigh⟩
  else if b = 0xe0 then .pending ⟨0, 2, 0xa0, tailHigh⟩
  else if b = 0xed then .pending ⟨13, 2, tailLow, 0x9f⟩
  else if b < 0xf0 then .pending ⟨b - 0xe0, 2, tailLow, tailHigh⟩
  else if b = 0xf0 then .pending ⟨0, 3, 0x90, tailHigh⟩
  else if b < 0xf4 then .pending ⟨b - 0xf0, 3, tailLow, tailHigh⟩
  else if b = 0xf4 then .pending ⟨4, 3, tailLow, 0x8f⟩
  else .bad

/-- Bytes that have been read: the character that has been begun, and the parts before it, latest first. A part
that is no character is missing. -/
structure Reading where
  pending : Option Pending := none
  parts : List (Option Char) := []

namespace Reading

/-- Read a byte that begins something. -/
def begin (r : Reading) (b : Nat) : Reading :=
  match lead b with
  | .char c => ⟨none, some c :: r.parts⟩
  | .pending p => ⟨some p, r.parts⟩
  | .bad => ⟨none, none :: r.parts⟩

/-- Read a byte. One that does not go on with the character that has been begun begins something itself. -/
def read (r : Reading) (byte : UInt8) : Reading :=
  let b := byte.toNat
  match r.pending with
  | none => r.begin b
  | some p =>
    if p.low ≤ b ∧ b ≤ p.high then
      let bits := p.bits * 64 + (b - tailLow)
      if p.missing ≤ 1 then ⟨none, some (Char.ofNat bits) :: r.parts⟩
      else ⟨some ⟨bits, p.missing - 1, tailLow, tailHigh⟩, r.parts⟩
    else begin ⟨none, none :: r.parts⟩ b

/-- All parts in order; a character that has only been begun is none. -/
def finish (r : Reading) : List (Option Char) :=
  (if r.pending.isSome then none :: r.parts else r.parts).reverse

end Reading

/-- The parts of bytes. -/
def pieces (bytes : List UInt8) : List (Option Char) := (bytes.foldl Reading.read {}).finish

/-- What stands for a part that is no character. -/
def replacement : Char := '\ufffd'

/-- The text of bytes, whatever they are. -/
def lenient (bytes : List UInt8) : String := String.ofList ((pieces bytes).map (·.getD replacement))

/-- The text of bytes, if all of them belong to characters. -/
def decode? (bytes : List UInt8) : Option String := ((pieces bytes).mapM id).map String.ofList

/-- The bytes of a text. -/
def encode (s : String) : List UInt8 := s.toUTF8.toList

end Diagnostics.Utf8
