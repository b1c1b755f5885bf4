/-
Whole texts in upper or lower case.

* `endsWord`: a sigma stands at the end of a word when a cased character comes before it and
  none after it, ignorable characters aside;
* `lowercase`: a text in lower case; a sigma at the end of a word takes its final form;
* `uppercase`: a text in upper case.
-/
import OpenApiTypes.Text.CaseMap
import OpenApiTypes.Text.Cased

namespace OpenApiTypes.Text

/-- Capital sigma. -/
def capitalSigma : Char := 'Σ'

/-- Small sigma at the end of a word. -/
def finalSigma : Char := 'ς'

/-- Whether the first character that is not ignorable has a case. -/
def leadsToCased (cs : List Char) : Bool :=
  match cs.dropWhile isCaseIgnorable with
  | c :: _ => isCased c
  | [] => false

/-- Whether the place between `before` (in reverse order) and `after` is the end of a word. -/
def endsWord (before after : List Char) : Bool := leadsToCased before && !leadsToCased after

/-- The characters of the rest of a text in lower case; `before` holds those read so far, in
reverse order. -/
def lowercaseFrom (before : List Char) : List Char → List Char
  | [] => []
  | c :: rest =>
    (if c == capitalSigma && endsWord before rest then [finalSigma] else lowerChars c)
      ++ lowercaseFrom (c :: before) rest

/-- A text in lower case. -/
def lowercase (s : String) : String := String.ofList (lowercaseFrom [] s.toList)

/-- A text in upper case. -/
def uppercase (s : String) : String := String.ofList (s.toList.flatMap upperChars)

end OpenApiTypes.Text
