/-
The words of a name.

* `Naming.words`: a name is cut at every character that is neither letter nor digit, where a
  small letter is followed by a capital, and before the last of several capitals when a small
  letter follows it;
* `Naming.lowerWord`, `Naming.upperWord`, `Naming.capitalWord`: a word in one of the forms that
  naming conventions use;
* `Naming.pascal`, `Naming.camel`, `Naming.snake`, `Naming.screaming`: names put together again.
-/
import OpenApiTypes.Text.Alphanumeric
import OpenApiTypes.Text.Lettering
import OpenApiTypes.Text.Split

namespace OpenApiTypes.Naming

open OpenApiTypes.Text

/-- What the letters of the word read so far were like. -/
inductive Run where
  /-- No letter with a case yet. -/
  | fresh
  /-- The last letter with a case was small. -/
  | small
  /-- The last letter with a case was a capital. -/
  | capital
deriving DecidableEq, Repr

/-- The run after one more character of the same word. -/
def Run.after (run : Run) (c : Char) : Run :=
  if isLower c then .small else if isUpper c then .capital else run

/-- Cuts a piece without separators into words. `read` holds the current word in reverse order. -/
def cut (run : Run) (read : List Char) : List Char → List (List Char)
  | [] => []
  | [c] => [(c :: read).reverse]
  | c :: next :: rest =>
    if run.after c = .small ∧ isUpper next then
      (c :: read).reverse :: cut .fresh [] (next :: rest)
    else if run = .capital ∧ isUpper c ∧ isLower next then
      read.reverse :: cut .fresh [c] (next :: rest)
    else cut (run.after c) (c :: read) (next :: rest)

/-- The words of a name. -/
def words (name : String) : List (List Char) :=
  (splitBy (fun c => !isAlphanumeric c) name.toList).flatMap (cut .fresh [])

/-- A word in small letters; a sigma at its end takes its final form. -/
def lowerWord : List Char → List Char
  | [] => []
  | [c] => if c == capitalSigma then [finalSigma] else lowerChars c
  | c :: rest => lowerChars c ++ lowerWord rest

/-- A word in capitals. -/
def upperWord (word : List Char) : List Char := word.flatMap upperChars

/-- A word with a capital first letter and small letters after it. -/
def capitalWord : List Char → List Char
  | [] => []
  | c :: rest => upperChars c ++ lowerWord rest

/-- Every word capitalized. -/
def pascal (name : String) : String := String.ofList ((words name).flatMap capitalWord)

/-- The first word in small letters, the others capitalized. -/
def camel (name : String) : String :=
  String.ofList <| match words name with
    | [] => []
    | first :: rest => lowerWord first ++ rest.flatMap capitalWord

/-- Words in small letters, joined by underscores. -/
def snake (name : String) : String :=
  joinWith "_" ((words name).map fun w => String.ofList (lowerWord w))

/-- Words in capitals, joined by underscores. -/
def screaming (name : String) : String :=
  joinWith "_" ((words name).map fun w => String.ofList (upperWord w))

end OpenApiTypes.Naming
