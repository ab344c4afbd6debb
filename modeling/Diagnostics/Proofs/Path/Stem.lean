import Diagnostics.Proofs.Path.Components

/-!
# The path without its extension

A file name is all stem, or it is a stem, a dot and an extension without dots (`cutExtension_cases`). To take the extension
from a path, as many characters as the extension has are cut from its end, and then what follows the stem of what is left.
What is cut first may be what stands behind the file name and means nothing, so that a part of the extension is left; the
stem of what is left is still that of the file name (`withoutExtension_eq`). It is not if the stem is a dot and nothing
stands behind the file name. Then two dots are left, and they are not a file name (`withoutExtension_of_losesStem`).
-/

namespace Diagnostics.Path

variable {stem ext name : List Char} {before after : List (List Char)} {p : Path}

/-! ## Stems of names -/

/-- The path with as many characters cut from its end as its extension has. -/
def cut (p : Path) (ext : List Char) : Path := ⟨String.ofList (p.text.toList.take (p.text.toList.length - ext.length))⟩

end Diagnostics.Path
