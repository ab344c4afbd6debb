import Diagnostics.Path

/-!
# Byproducts of a source file

The compiler leaves files next to its source file, all with the same stem. Cleaning up removes the source
file and each of them.
-/

namespace Diagnostics

/-- The extensions of the files that the compiler leaves. -/
def byproductExtensions : List String := ["vo", "vok", "vos", "glob", "aux", "v.d"]

/-- The file and its byproducts. A byproduct that is the file itself is listed once. A path without a stem
has no byproducts. -/
def byproductPaths (file : Path) : List Path :=
  match file.fileStem? with
  | none => [file]
  | some stem =>
    let dir := file.parent?.getD ⟨""⟩
    let beside := byproductExtensions.map fun e => dir.child (stem ++ '.' :: e.toList)
    file :: beside.filter (fun p => !p.same file) ++ [dir.child ('.' :: stem ++ ".aux".toList)]

end Diagnostics
