import Diagnostics.Unicode.Ranges

/-!
# White space

The property `White_Space` of Unicode 17.
-/

namespace Diagnostics.Unicode

/-- Characters that separate words and are cut off by trimming. -/
def whiteSpace : Ranges := [
  (9, 13), (32, 32), (133, 133), (160, 160), (5760, 5760), (8192, 8202), (8232, 8233), (8239,
  8239), (8287, 8287), (12288, 12288)]

/-- A white space character. -/
def isSpace (c : Char) : Bool := whiteSpace.contains c.toNat

/-- The text without the white space at its two ends. -/
def trim (s : String) : String :=
  String.ofList ((s.toList.dropWhile isSpace).reverse.dropWhile isSpace).reverse

end Diagnostics.Unicode
