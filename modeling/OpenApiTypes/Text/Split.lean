/-
Texts cut into pieces and put together again.

* `splitOn`: the pieces between occurrences of a separator;
* `joinWith`: pieces with a separator between them;
* `lines`: the lines of a text, without their ends;
* `replace`: every occurrence of one text replaced by another, from left to right;
* `stripPrefix?`, `stripSuffix?`: what is left of a text without its beginning or its end.
-/

namespace OpenApiTypes.Text

/-- The pieces between the characters that are separators. There is always one piece more than
there are separators. -/
def splitBy (separates : Char → Bool) : List Char → List (List Char)
  | [] => [[]]
  | c :: rest =>
    if separates c then [] :: splitBy separates rest
    else match splitBy separates rest with
      | piece :: pieces => (c :: piece) :: pieces
      | [] => [[c]]

/-- The pieces between occurrences of one character. -/
def splitOn (separator : Char) (s : String) : List String :=
  (splitBy (· == separator) s.toList).map String.ofList

/-- Pieces with a separator between them. -/
def joinWith (separator : String) (pieces : List String) : String :=
  String.intercalate separator pieces

/-- The lines of a text. A line ends at a line feed, with or without a carriage return before it;
what follows the last line feed is a line unless it is empty. -/
def lines (s : String) : List String :=
  let pieces := splitBy (· == '\n') s.toList
  let trimmed := pieces.dropLast.map fun line =>
    if line.getLast? == some '\r' then line.dropLast else line
  let last := pieces.getLast?.getD []
  (trimmed ++ if last.isEmpty then [] else [last]).map String.ofList

/-- The rest of a text after a beginning. -/
def stripPrefix? : List Char → List Char → Option (List Char)
  | [], cs => some cs
  | p :: ps, c :: cs => if p == c then stripPrefix? ps cs else none
  | _ :: _, [] => none

/-- What comes before an end. -/
def stripSuffix? (ending cs : List Char) : Option (List Char) :=
  (stripPrefix? ending.reverse cs.reverse).map List.reverse

/-- Whether a text begins with another. -/
def startsWith (beginning s : String) : Bool :=
  (stripPrefix? beginning.toList s.toList).isSome

/-- Whether a text ends with another. -/
def endsWith (ending s : String) : Bool :=
  (stripSuffix? ending.toList s.toList).isSome

/-- Whether a text occurs in another. -/
def occursIn (part : List Char) : List Char → Bool
  | [] => part.isEmpty
  | c :: cs => (stripPrefix? part (c :: cs)).isSome || occursIn part cs

/-- Replaces every occurrence of a text, from left to right. `pending` counts the characters that
still belong to the occurrence replaced last. -/
def replaceFrom (old new : List Char) : Nat → List Char → List Char
  | _, [] => []
  | pending + 1, _ :: cs => replaceFrom old new pending cs
  | 0, c :: cs =>
    if old.isEmpty then c :: replaceFrom old new 0 cs
    else if (stripPrefix? old (c :: cs)).isSome then
      new ++ replaceFrom old new (old.length - 1) cs
    else c :: replaceFrom old new 0 cs

/-- Replaces every occurrence of a text that is not empty. -/
def replace (old new s : String) : String :=
  String.ofList (replaceFrom old.toList new.toList 0 s.toList)

end OpenApiTypes.Text
