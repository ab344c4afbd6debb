import Diagnostics.Proofs.Path.Stem
import Diagnostics.Session.Scratch
import Mathlib.Data.List.Nodup

/-!
# A file and its byproducts

The paths that are removed with a file are the file itself and entries of its directory (`byproductPaths_eq`), with
different names: each is the stem of the file with one of the extensions that the compiler writes, or the hidden one
(`mem_byproductNames`, `nodup_byproductNames`). The compiler in its interactive mode is given the path without its extension
and adds its extensions to that. What it writes then is among the paths that are removed, unless the stem of the file is
lost (`byproductPaths_spec`). A file of that kind is `..v`.
-/

namespace Diagnostics

open Diagnostics.Path

variable {p r dir : Path} {stem name nm : List Char} {before after : List (List Char)} {e : String}

/-! ## Names of byproducts -/

/-- The path with a name beside the path of a file. That of the file is the path as it is written. -/
def beside (p dir : Path) (name nm : List Char) : Path := if nm = name then p else dir.child nm

end Diagnostics
