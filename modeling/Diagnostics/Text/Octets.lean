import Diagnostics.Text.Utf8

/-!
# Octets

Programs pass bytes to each other, most of which are text. Octets are such bytes, each as the character with
its number, so that they can be compared with letters.
-/

namespace Diagnostics

/-- Bytes as the characters with their numbers. -/
abbrev Octets := List Char

namespace Octets

/-- The octets of bytes. -/
def ofBytes (bytes : List UInt8) : Octets := bytes.map fun b => Char.ofNat b.toNat

/-- The octets of a text. -/
def ofText (s : String) : Octets := ofBytes (Utf8.encode s)

/-- The bytes of octets. -/
def bytes (cs : Octets) : List UInt8 := cs.map fun c => c.toNat.toUInt8

/-- The text of octets, whatever they are. -/
def text (cs : Octets) : String := Utf8.lenient cs.bytes

end Octets

end Diagnostics
