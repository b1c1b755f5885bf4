/-
Types read back from their text.

* `TypeScript.Reader`: what stands at the beginning of a text, and the rest of it;
* `TypeScript.readQuoted_flatMap`, `TypeScript.readName_memberName`, `TypeScript.readHead_append`:
  quoted texts, the names of members and what stands before their types;
* `TypeScript.separated_intercalate`: items with a separator between them;
* `TypeScript.readType`: a type at a depth of nesting, where the precedence of the signs decides
  what belongs together.
-/
import OpenApiTypes.Proofs.Text.Pieces
import OpenApiTypes.TypeScript.Printer

namespace OpenApiTypes.TypeScript

open OpenApiTypes.Text

/-- What stands at the beginning of a text, and the rest of it. -/
abbrev Reader (α : Type) := List Char → Option (α × List Char)

/-! ### Words and quoted texts -/

/-- The characters at the front that belong to a word. -/
def readWhile (belongs : Char → Bool) (cs : List Char) : String × List Char :=
  (String.ofList (cs.takeWhile belongs), cs.dropWhile belongs)

/-- The character that is written after a backslash. -/
def unescaped (c : Char) : Char :=
  if c = 'n' then '\n' else if c = 'r' then '\r' else if c = 't' then '\t' else c

/-- What stands before a quotation mark. A character after a backslash is escaped. -/
def readQuoted (escaped : Bool) : Reader (List Char)
  | [] => none
  | c :: rest =>
    if escaped then do
      let (cs, rest) ← readQuoted false rest
      some (unescaped c :: cs, rest)
    else if c = '\'' then some ([], rest)
    else if c = '\\' then readQuoted true rest
    else do
      let (cs, rest) ← readQuoted false rest
      some (c :: cs, rest)

/-- The name of a member. -/
def readName : Reader String := fun cs =>
  if cs.head? = some '\'' then do
    let (name, rest) ← readQuoted false cs.tail
    some (String.ofList name, rest)
  else some (readWhile continuesIdentifier cs)

/-- What stands before the type of a member: whether it is read-only, its name, and whether it is
optional. -/
def readHead : Reader (Bool × String × Bool) := fun cs => do
  let (first, rest) ← readName cs
  let (readonly, name, rest) ← match stripPrefix? [' '] rest with
    | some rest => do
      let (name, rest) ← readName rest
      some (true, name, rest)
    | none => some (false, first, rest)
  let (optional, rest) := match stripPrefix? ['?'] rest with
    | some rest => (true, rest)
    | none => (false, rest)
  let rest ← stripPrefix? ": ".toList rest
  some ((readonly, name, optional), rest)

section

variable {belongs : Char → Bool} {c : Char} {cs r : List Char} {name word : String}

lemma readWhile_append (h : ∀ c ∈ word.toList, belongs c = true)
    (hr : ∀ c ∈ r.head?, belongs c = false) :
    readWhile belongs (word.toList ++ r) = (word, r) := by
  have hrest : r.takeWhile belongs = [] ∧ r.dropWhile belongs = r := by
    cases r with
    | nil => exact ⟨rfl, rfl⟩
    | cons c r => simp [hr c rfl]
  rw [readWhile, List.takeWhile_append_of_pos h, List.dropWhile_append_of_pos h, hrest.1, hrest.2,
    List.append_nil, String.ofList_toList]

lemma readQuoted_flatMap (cs r : List Char) :
    readQuoted false (cs.flatMap quotedChar ++ '\'' :: r) = some (cs, r) := by
  induction cs with
  | nil => simp [readQuoted]
  | cons c cs ih =>
    rw [List.flatMap_cons, List.append_assoc, quotedChar]
    split_ifs <;> simp_all [readQuoted, unescaped]

lemma isIdentifier_iff : isIdentifier name = true ↔
    ∃ c rest, name.toList = c :: rest ∧ beginsIdentifier c = true
      ∧ ∀ d ∈ rest, continuesIdentifier d = true := by
  rw [isIdentifier]
  split
  · rename_i c rest heq
    simp [heq]
  · rename_i heq
    simp [heq]

lemma continuesIdentifier_of_begins (h : beginsIdentifier c = true) :
    continuesIdentifier c = true := by
  simp only [beginsIdentifier, continuesIdentifier, Char.isAlphanum, Bool.or_eq_true] at h ⊢
  tauto

lemma forall_continuesIdentifier (h : isIdentifier name = true) :
    ∀ c ∈ name.toList, continuesIdentifier c = true := by
  obtain ⟨c, rest, heq, hc, hrest⟩ := isIdentifier_iff.mp h
  rw [heq]
  exact List.forall_mem_cons.mpr ⟨continuesIdentifier_of_begins hc, hrest⟩

/-- The name of a member is read in front of a character that does not go on with it. -/
lemma readName_memberName (name : String) (hc : continuesIdentifier c = false) (r : List Char) :
    readName ((memberName name).toList ++ c :: r) = some (name, c :: r) := by
  rw [memberName]
  split_ifs with h
  · obtain ⟨d, rest, heq, hd, -⟩ := isIdentifier_iff.mp h
    have hhead : (name.toList ++ c :: r).head? ≠ some '\'' := by
      rw [heq]
      rintro ⟨⟩
      exact absurd hd (by decide)
    rw [readName, if_neg hhead, readWhile_append (forall_continuesIdentifier h) (by simpa using hc)]
  · simp [readName, quote, readQuoted_flatMap]

/-- What stands before the type of a member is read from its text. -/
lemma readHead_append (readonly optional : Bool) (name : String) (r : List Char) :
    readHead (((if readonly then "readonly " else "") ++ memberName name
      ++ (if optional then "?" else "") ++ ": ").toList ++ r)
      = some ((readonly, name, optional), r) := by
  have hcolon (r : List Char) := readName_memberName (c := ':') name (by decide) r
  have hmark (r : List Char) := readName_memberName (c := '?') name (by decide) r
  have hreadonly (r : List Char) :
      readName ("readonly ".toList ++ r) = some ("readonly", ' ' :: r) :=
    readName_memberName "readonly" (by decide) r
  simp only [String.toList_append, List.append_assoc]
  cases readonly with
  | false => cases optional <;> simp [readHead, stripPrefix?, hcolon, hmark]
  | true =>
    rw [readHead, if_pos rfl, hreadonly]
    cases optional <;> simp [stripPrefix?, hcolon, hmark]

end

/-! ### Separators -/

/-- One or more items with a separator between them, and at most `k`. -/
def separated {α : Type} (separator : List Char) (item : Reader α) : ℕ → Reader (List α)
  | 0, _ => none
  | k + 1, cs => do
    let (a, rest) ← item cs
    match stripPrefix? separator rest with
    | none => some ([a], rest)
    | some rest => do
      let (as, rest) ← separated separator item k rest
      some (a :: as, rest)

/-- Items are read one after the other if each of them is read in front of a separator, and the last
one in front of what follows. -/
lemma separated_intercalate {α : Type} {separator : List Char} {item : Reader α}
    {text : α → List Char} {admits : List Char → Prop} {as : List α} {k : ℕ} {r : List Char}
    (hitem : ∀ a ∈ as, ∀ r, admits r → item (text a ++ r) = some (a, r))
    (hseparator : ∀ r, admits (separator ++ r)) (hr : admits r)
    (hend : stripPrefix? separator r = none) (hne : as ≠ []) (hk : as.length ≤ k) :
    separated separator item k (separator.intercalate (as.map text) ++ r) = some (as, r) := by
  induction as generalizing k with
  | nil => exact absurd rfl hne
  | cons a as ih =>
    obtain ⟨k, rfl⟩ : ∃ j, k = j + 1 := ⟨k - 1, by simp at hk; omega⟩
    obtain ⟨hfirst, hrest⟩ := List.forall_mem_cons.mp hitem
    cases as with
    | nil => simp [separated, List.intercalate, hfirst r hr, hend]
    | cons b as =>
      have hmore := ih hrest (List.cons_ne_nil b as) (Nat.le_of_succ_le_succ hk)
      have htext : separator.intercalate ((a :: b :: as).map text) ++ r
          = text a ++ (separator ++ (separator.intercalate ((b :: as).map text) ++ r)) := by
        simp [List.intercalate]
      rw [htext, separated, hfirst _ (hseparator _)]
      simp only [Option.bind_eq_bind, Option.bind_some, stripPrefix?_append, hmore]

lemma separated_none {α : Type} {separator : List Char} {item : Reader α} {k : ℕ} {cs : List Char}
    (h : item cs = none) : separated separator item k cs = none := by
  cases k with
  | zero => rfl
  | succ k => simp [separated, h]

/-- Types with a separator between them, as a list of texts. -/
lemma toList_typesText (depth : ℕ) (separator : String) (ts : List TypeExpr) :
    (typesText depth separator ts).toList
      = separator.toList.intercalate (ts.map fun t => (t.text depth).toList) := by
  induction ts with
  | nil => rfl
  | cons t ts ih =>
    cases ts with
    | nil => simp [typesText, List.intercalate]
    | cons u ts =>
      rw [typesText, String.toList_append, String.toList_append, ih]
      · simp [List.intercalate]
      · simp

/-! ### The reader of types -/

/-- The characters of numbers. -/
def continuesNumber (c : Char) : Bool := c.isDigit || c ∈ ['-', '+', '.', 'e', 'E']

/-- Arrays of a type, one for each pair of brackets that follows. -/
def readSuffixes (t : TypeExpr) : List Char → TypeExpr × List Char
  | '[' :: ']' :: rest => readSuffixes (.array t) rest
  | rest => (t, rest)

/-- A single type, or what several make together. -/
def together (composite : List TypeExpr → TypeExpr) : List TypeExpr → TypeExpr
  | [t] => t
  | ts => composite ts

section

-- What is read inside brackets, at each depth, and how long lists may be.
variable (inner : ℕ → Reader TypeExpr) (k depth : ℕ)

/-- The arguments after a name, if it has any. -/
def readArguments : Reader (List TypeExpr) := fun cs =>
  match stripPrefix? ['<'] cs with
  | none => some ([], cs)
  | some cs => do
    let (args, cs) ← separated ", ".toList (inner depth) k cs
    let cs ← stripPrefix? ['>'] cs
    some (args, cs)

/-- The type that begins with a word. -/
def readWord (word : String) : Reader TypeExpr := fun cs =>
  match Keyword.ofText? word with
  | some keyword => some (.keyword keyword, cs)
  | none =>
    if word = "true" then some (.literal (.boolean true), cs)
    else if word = "false" then some (.literal (.boolean false), cs)
    else do
      let (args, cs) ← readArguments inner k depth cs
      some (.reference word args, cs)

/-- A tuple after its bracket. -/
def readTuple : Reader TypeExpr := fun cs => do
  let (ts, cs) ← (separated ", ".toList (inner depth) k cs).or (some ([], cs))
  let cs ← stripPrefix? [']'] cs
  some (.tuple ts, cs)

/-- The members of an object type, each on its own line, and its index signature. -/
def readMembers : ℕ → Reader (List (Property TypeExpr) × Option TypeExpr)
  | 0, _ => none
  | k + 1, cs =>
    match stripPrefix? (lineBreak depth).toList cs with
    | none => some (([], none), cs)
    | some cs =>
      match stripPrefix? "[key: string]: ".toList cs with
      | some cs => do
        let (t, cs) ← inner depth cs
        let cs ← stripPrefix? [';'] cs
        some (([], some t), cs)
      | none => do
        let ((readonly, name, optional), cs) ← readHead cs
        let (t, cs) ← inner depth cs
        let cs ← stripPrefix? [';'] cs
        let ((properties, index), cs) ← readMembers k cs
        some ((⟨name, optional, readonly, t, []⟩ :: properties, index), cs)

/-- An object type after its brace. -/
def readObject : Reader TypeExpr := fun cs =>
  match stripPrefix? ['\x7d'] cs with
  | some cs => some (.object [] none, cs)
  | none => do
    let ((properties, index), cs) ← readMembers inner (depth + 1) k cs
    let cs ← stripPrefix? ((lineBreak depth).toList ++ ['\x7d']) cs
    some (.object properties index, cs)

/-- The type after a parenthesis: one that is enclosed, or the type of the members of a constant,
which begins as if a type named `typeof` were enclosed. -/
def readEnclosed : Reader TypeExpr := fun cs => do
  let (t, rest) ← inner depth cs
  match stripPrefix? [')'] rest with
  | some rest => some (t, rest)
  | none => do
    let cs ← stripPrefix? "typeof ".toList cs
    let (name, cs) := readWhile continuesIdentifier cs
    let cs ← stripPrefix? (")[keyof typeof " ++ name ++ "]").toList cs
    some (.valueOf name, cs)

/-- A type that no sign can take apart. -/
def readPrimary : Reader TypeExpr
  | [] => none
  | c :: cs =>
    if beginsIdentifier c then
      let (word, cs) := readWhile continuesIdentifier (c :: cs)
      readWord inner k depth word cs
    else if continuesNumber c then
      let (number, cs) := readWhile continuesNumber (c :: cs)
      some (.literal (.number number), cs)
    else if c = '\'' then do
      let (s, cs) ← readQuoted false cs
      some (.literal (.string (String.ofList s)), cs)
    else if c = '[' then readTuple inner k depth cs
    else if c = '\x7b' then readObject inner k depth cs
    else if c = '(' then readEnclosed inner depth cs
    else none

/-- Such a type, or an array. -/
def readOperand : Reader TypeExpr := fun cs => do
  let (t, cs) ← readPrimary inner k depth cs
  some (readSuffixes t cs)

/-- A member of a union. -/
def readPart : Reader TypeExpr := fun cs => do
  let (ts, cs) ← separated " & ".toList (readOperand inner k depth) k cs
  some (together .intersection ts, cs)

end

/-- A type at a depth of nesting. The number bounds how many types are inside one another, and how
many beside one another. -/
def readType : ℕ → ℕ → Reader TypeExpr
  | 0 => fun _ _ => none
  | n + 1 => fun depth cs => do
    let (ts, cs) ← separated " | ".toList (readPart (readType n) (n + 1) depth) (n + 1) cs
    some (together .union ts, cs)

/-- No type begins with the end of a list. -/
lemma readType_close (n depth : ℕ) (r : List Char) : readType n depth (']' :: r) = none := by
  cases n with
  | zero => rfl
  | succ n =>
    have hpart : readPart (readType n) (n + 1) depth (']' :: r) = none := by
      rw [readPart, separated_none]
      · rfl
      · rfl
    simp only [readType, separated_none hpart]
    rfl

end OpenApiTypes.TypeScript
