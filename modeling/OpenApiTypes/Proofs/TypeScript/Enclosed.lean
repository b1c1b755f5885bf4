/-
Texts of documents stay inside the literals and the comments that they are put in.

* `TypeScript.escapeValue?`, `TypeScript.readLiteral`: a string literal in single quotes, and its
  value;
* `TypeScript.readLiteral_quote`: a quoted text is read as a literal whose value is the text;
* `TypeScript.Unclosed`: a text without the end of a comment; `TypeScript.unclosed_replace`: a line
  of a comment is such a text;
* `TypeScript.eq_append_close_iff`: the end of a comment is found in one place;
* `TypeScript.enclosed`: **a quoted text ends with its last character, and a comment with its last
  line**.
-/
import Mathlib.Data.List.Chain
import OpenApiTypes.Proofs.TypeScript.Reader

namespace OpenApiTypes.TypeScript

open OpenApiTypes.Text

variable {cs ds : List Char}

/-! ### String literals -/

/-- The character that is written as another one after a backslash. Escapes by number are not read,
and a line does not go on behind a backslash. -/
def escapeValue? (c : Char) : Option Char :=
  if c = 'b' then some '\x08'
  else if c = 't' then some '\t'
  else if c = 'n' then some '\n'
  else if c = 'v' then some '\x0b'
  else if c = 'f' then some '\x0c'
  else if c = 'r' then some '\r'
  else if c.isDigit ∨ c ∈ ['x', 'u', '\n', '\r', '\u2028', '\u2029'] then none
  else some c

/-- The characters of a literal up to the quotation mark that ends it. A line does not end before;
the separators U+2028 and U+2029 may stand in a literal. -/
def readLiteralChars : Reader (List Char)
  | [] => none
  | '\\' :: c :: rest => do
    let v ← escapeValue? c
    let (vs, rest) ← readLiteralChars rest
    some (v :: vs, rest)
  | c :: rest =>
    if c = '\'' then some ([], rest)
    else if c ∈ ['\\', '\n', '\r'] then none
    else do
      let (vs, rest) ← readLiteralChars rest
      some (c :: vs, rest)

/-- A string literal. -/
def readLiteral : Reader String := fun cs => do
  let cs ← stripPrefix? ['\''] cs
  let (vs, rest) ← readLiteralChars cs
  some (String.ofList vs, rest)

/-- A character is written either after a backslash, or as it is where it means nothing else. -/
lemma quotedChar_cases (c : Char) :
    (∃ d, quotedChar c = ['\\', d] ∧ escapeValue? d = some c ∧ d ≠ '\n' ∧ d ≠ '\r')
      ∨ quotedChar c = [c] ∧ c ∉ ['\\', '\'', '\n', '\r'] := by
  rw [quotedChar]
  split_ifs with hslash hquote hfeed hreturn htab
  · obtain rfl := beq_iff_eq.mp hslash
    exact .inl ⟨'\\', rfl, by decide, by decide, by decide⟩
  · obtain rfl := beq_iff_eq.mp hquote
    exact .inl ⟨'\'', rfl, by decide, by decide, by decide⟩
  · obtain rfl := beq_iff_eq.mp hfeed
    exact .inl ⟨'n', rfl, by decide, by decide, by decide⟩
  · obtain rfl := beq_iff_eq.mp hreturn
    exact .inl ⟨'r', rfl, by decide, by decide, by decide⟩
  · obtain rfl := beq_iff_eq.mp htab
    exact .inl ⟨'t', rfl, by decide, by decide, by decide⟩
  · exact .inr ⟨rfl, by simp_all⟩

lemma readLiteralChars_flatMap (cs rest : List Char) :
    readLiteralChars (cs.flatMap quotedChar ++ '\'' :: rest) = some (cs, rest) := by
  induction cs with
  | nil => simp [readLiteralChars]
  | cons c cs ih =>
    rw [List.flatMap_cons, List.append_assoc]
    rcases quotedChar_cases c with ⟨d, heq, hd, -⟩ | ⟨heq, hc⟩
    · rw [heq, List.cons_append, List.cons_append, List.nil_append, readLiteralChars, hd, ih]
      rfl
    · simp only [List.mem_cons, List.not_mem_nil, or_false, not_or] at hc
      rw [heq, List.singleton_append, readLiteralChars, if_neg hc.2.1, if_neg (by simp [hc]), ih]
      · rfl
      · rintro d r rfl
        exact absurd rfl hc.1

lemma toList_quote (s : String) :
    (quote s).toList = '\'' :: (s.toList.flatMap quotedChar ++ ['\'']) := by
  simp [quote]

lemma readLiteral_quote (s : String) (rest : List Char) :
    readLiteral ((quote s).toList ++ rest) = some (s, rest) := by
  have htext : (quote s).toList ++ rest = ['\''] ++ (s.toList.flatMap quotedChar ++ '\'' :: rest) := by
    simp [toList_quote]
  rw [readLiteral, htext, stripPrefix?_append, Option.bind_eq_bind, Option.bind_some,
    readLiteralChars_flatMap]
  simp

/-- A quoted text is on one line. -/
lemma not_mem_quote {c : Char} (hc : c = '\n' ∨ c = '\r') (s : String) : c ∉ (quote s).toList := by
  intro hmem
  have hchar : c ∈ s.toList.flatMap quotedChar := by
    rw [toList_quote] at hmem
    rcases hc with rfl | rfl <;> simpa using hmem
  obtain ⟨d, -, hd⟩ := List.mem_flatMap.mp hchar
  rcases quotedChar_cases d with ⟨e, heq, -, hfeed, hreturn⟩ | ⟨heq, hplain⟩
  · rw [heq] at hd
    rcases hc with rfl | rfl <;> simp [hfeed.symm, hreturn.symm] at hd
  · rw [heq, List.mem_singleton] at hd
    rcases hc with rfl | rfl <;> simp [← hd] at hplain

/-! ### Comments -/

/-- The end of a comment is nowhere in a text. -/
def Unclosed (cs : List Char) : Prop := cs.IsChain fun a b => ¬(a = '*' ∧ b = '/')

lemma unclosed_nil : Unclosed [] := .nil

lemma unclosed_of_notMem (h : '*' ∉ cs) : Unclosed cs := by
  induction cs with
  | nil => exact .nil
  | cons c cs ih =>
    rw [List.mem_cons, not_or] at h
    exact .cons (ih h.2) fun _ _ hclose => h.1 hclose.1.symm

/-- Where a text does not begin with a slash, it closes nothing that came before. -/
lemma Unclosed.append (hcs : Unclosed cs) (hds : Unclosed ds) (h : '/' ∉ ds.head?) :
    Unclosed (cs ++ ds) :=
  List.isChain_append.mpr ⟨hcs, hds, fun _ _ _ hb hclose => h (hclose.2 ▸ hb)⟩

/-- What is put in the place of the end of a comment begins as that does. -/
lemma head?_replaceFrom_close (cs : List Char) :
    (replaceFrom ['*', '/'] ['*', '\\', '/'] 0 cs).head? = cs.head? := by
  cases cs with
  | nil => rfl
  | cons c cs =>
    rw [replaceFrom]
    split_ifs with hempty hmatch
    · rfl
    · obtain ⟨rfl, -⟩ := List.cons_prefix_cons.mp (stripPrefix?_isSome_iff.mp hmatch)
      rfl
    · rfl

lemma unclosed_replaceFrom (pending : ℕ) (cs : List Char) :
    Unclosed (replaceFrom ['*', '/'] ['*', '\\', '/'] pending cs) := by
  induction cs generalizing pending with
  | nil => cases pending <;> exact .nil
  | cons c cs ih =>
    cases pending with
    | succ pending => exact ih pending
    | zero =>
      rw [replaceFrom]
      split_ifs with hempty hmatch
      · simp at hempty
      · refine List.isChain_append.mpr ⟨by simp, ih _, ?_⟩
        simp
      · refine .cons (ih 0) fun d hd hclose => hmatch ?_
        -- A slash after `c` in the result is one after `c` in the line.
        rw [head?_replaceFrom_close] at hd
        obtain ⟨rfl, rfl⟩ := hclose
        cases cs with
        | nil => simp at hd
        | cons e cs =>
          obtain rfl : e = '/' := by simpa using hd
          rfl

/-- A line of a comment does not end it. -/
lemma unclosed_replace (line : String) : Unclosed (replace "*/" "*\\/" line).toList := by
  rw [replace, String.toList_ofList]
  exact unclosed_replaceFrom 0 line.toList

lemma toList_lineBreak (depth : ℕ) :
    (lineBreak depth).toList = '\n' :: List.replicate (4 * depth) ' ' := by
  simp [lineBreak]

lemma notMem_lineBreak (depth : ℕ) : '*' ∉ (lineBreak depth).toList := by
  simp [toList_lineBreak]

/-- A new line and a star, with something after it. -/
lemma unclosed_starred (depth : ℕ) (hcs : Unclosed cs) (h : '/' ∉ cs.head?) :
    Unclosed ((lineBreak depth).toList ++ [' ', '*'] ++ cs) := by
  refine Unclosed.append ?_ hcs h
  exact (unclosed_of_notMem (notMem_lineBreak depth)).append (by simp [Unclosed]) (by simp)

lemma unclosed_commentLine (depth : ℕ) (line : String) :
    Unclosed (commentLine depth line).toList := by
  rw [commentLine]
  split_ifs with hempty
  · simpa using unclosed_starred depth unclosed_nil (by simp)
  · have hline : Unclosed (' ' :: (replace "*/" "*\\/" line).toList) :=
      .cons (unclosed_replace line) (by simp)
    simpa using unclosed_starred depth hline (by simp)

/-- Lines of a comment, each on its own line. -/
lemma unclosed_lines (depth : ℕ) (lines : List String) :
    Unclosed (String.join (lines.map (commentLine depth))).toList
      ∧ '/' ∉ (String.join (lines.map (commentLine depth))).toList.head? := by
  induction lines with
  | nil => simp [Unclosed]
  | cons line lines ih =>
    rw [List.map_cons, String.join_cons, String.toList_append]
    refine ⟨(unclosed_commentLine depth line).append ih.1 ih.2, ?_⟩
    simp [commentLine, toList_lineBreak]

/-- The end of a comment is found in one place, if it is nowhere before and no star comes after. -/
lemma append_close_eq_iff {body tail before after : List Char} (hbody : Unclosed (body ++ ['*']))
    (htail : '*' ∉ tail) :
    body ++ '*' :: '/' :: tail = before ++ '*' :: '/' :: after ↔ before = body ∧ after = tail := by
  refine ⟨fun heq => ?_, fun ⟨hbefore, hafter⟩ => by rw [hbefore, hafter]⟩
  rcases List.append_eq_append_iff.mp heq with ⟨more, rfl, hmore⟩ | ⟨more, rfl, hmore⟩
  · rcases more with _ | ⟨c, _ | ⟨d, more⟩⟩
    · simp_all
    · simp at hmore
    · obtain ⟨-, -, rfl⟩ : '*' = c ∧ '/' = d ∧ tail = more ++ '*' :: '/' :: after := by
        simpa using hmore
      simp at htail
  · rcases more with _ | ⟨c, _ | ⟨d, more⟩⟩
    · simp_all
    · simp at hmore
    · obtain ⟨rfl, rfl, -⟩ : '*' = c ∧ '/' = d ∧ after = more ++ '*' :: '/' :: tail := by
        simpa using hmore
      have hinner := (List.isChain_append.mp (List.append_assoc .. ▸ hbody)).2.1
      simp at hinner

/-- **A quoted text ends with its last character, and a comment with its last line.** The literal is
read up to its end whatever comes after it. -/
theorem enclosed (s : String) (depth : ℕ) (comment : List String) :
    (∀ rest, readLiteral ((quote s).toList ++ rest) = some (s, rest))
      ∧ '\n' ∉ (quote s).toList ∧ '\r' ∉ (quote s).toList
      ∧ (comment = [] → commentBlock depth comment = "")
      ∧ (comment ≠ [] → ∃ body, ∀ before after,
        (commentBlock depth comment).toList = before ++ "*/".toList ++ after
          ↔ before = body ∧ after = (lineBreak depth).toList) := by
  refine ⟨readLiteral_quote s, not_mem_quote (.inl rfl) s, not_mem_quote (.inr rfl) s,
    fun hnil => by rw [hnil]; rfl, fun hne => ?_⟩
  obtain ⟨hlines, hhead⟩ := unclosed_lines depth (comment.flatMap lines)
  set block := String.join ((comment.flatMap lines).map (commentLine depth)) with hblock
  have hbody : Unclosed (("/**".toList ++ block.toList) ++ ((lineBreak depth).toList ++ [' ', '*'])) := by
    refine Unclosed.append (Unclosed.append (by simp [Unclosed]) hlines hhead) ?_
      (by simp [toList_lineBreak])
    simpa using unclosed_starred depth unclosed_nil (by simp)
  refine ⟨"/**".toList ++ block.toList ++ (lineBreak depth).toList ++ [' '], fun before after => ?_⟩
  have htext : (commentBlock depth comment).toList
      = ("/**".toList ++ block.toList ++ (lineBreak depth).toList ++ [' '])
        ++ '*' :: '/' :: (lineBreak depth).toList := by
    rw [commentBlock, if_neg (by simpa using hne)]
    simp [hblock]
  have hclose : before ++ "*/".toList ++ after = before ++ '*' :: '/' :: after := by simp
  rw [htext, hclose]
  exact append_close_eq_iff (by simpa using hbody) (notMem_lineBreak depth)

/-- A text of signs that mean something in a literal, and lines in which ends of comments overlap. -/
theorem enclosed_overlapping :
    readLiteral (quote "'\\\n").toList = some ("'\\\n", [])
      ∧ '\n' ∉ (quote "'\\\n").toList
      ∧ commentBlock 1 [] = ""
      ∧ ["**//", "*/*/\n/"] ≠ []
      ∧ ∃ body, ∀ before after,
        (commentBlock 1 ["**//", "*/*/\n/"]).toList = before ++ "*/".toList ++ after
          ↔ before = body ∧ after = (lineBreak 1).toList := by
  obtain ⟨hread, hline, -, -, hclose⟩ := enclosed "'\\\n" 1 ["**//", "*/*/\n/"]
  refine ⟨by simpa using hread [], hline, ?_, by decide, hclose (by decide)⟩
  exact (enclosed "'\\\n" 1 []).2.2.2.1 rfl

end OpenApiTypes.TypeScript
