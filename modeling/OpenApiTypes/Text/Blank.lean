/-
White space of all scripts.

* `isBlank`: the characters with the property White_Space;
* `trim`: a text without the blanks at its ends.
-/
import OpenApiTypes.Text.CodeRun

namespace OpenApiTypes.Text

/-- The characters with the property White_Space. -/
def blankRuns : List CodeRun := [
  ⟨0x9, 0xD, 1⟩, ⟨0x20, 0x20, 1⟩, ⟨0x85, 0x85, 1⟩, ⟨0xA0, 0xA0, 1⟩, ⟨0x1680, 0x1680, 1⟩,
  ⟨0x2000, 0x200A, 1⟩, ⟨0x2028, 0x2029, 1⟩, ⟨0x202F, 0x202F, 1⟩, ⟨0x205F, 0x205F, 1⟩,
  ⟨0x3000, 0x3000, 1⟩]

/-- White space. -/
def isBlank (c : Char) : Bool := CodeRun.covers blankRuns c.toNat

/-- Whether a text holds nothing but white space. -/
def allBlank (s : String) : Bool := s.toList.all isBlank

/-- A text without the blanks at its ends. -/
def trim (cs : List Char) : List Char :=
  ((cs.dropWhile isBlank).reverse.dropWhile isBlank).reverse

end OpenApiTypes.Text
