/-
Expressions read back from their text.

* `TypeScript.readExpr?`: the expression that a text is read as. An operand is what binds at least as
  tightly as it must, and whatever has the same rank is grouped to the left;
* `TypeScript.Recognized`: an expression is read wherever its rank admits it, unless more of this
  rank follows; `TypeScript.recognized_of_exact`: so is all that is grouped to the left;
* `TypeScript.exists_reading`: **a text is read as the names and operators of the expression in their
  order, grouped by precedence**.
-/
import OpenApiTypes.Proofs.TypeScript.Denotation
import OpenApiTypes.Proofs.TypeScript.Enclosed

namespace OpenApiTypes.TypeScript

universe u v

open OpenApiTypes.Text

/-! ### The reader of expressions -/

/-- All operators. -/
def BinaryOperator.all : List BinaryOperator := [strictEqual, strictUnequal, and, or]

/-- An operator between two operands. -/
def BinaryOperator.spaced (op : BinaryOperator) : String := " " ++ op.text ++ " "

/-- A name. -/
def readIdentifier : Reader String := fun cs =>
  let (name, rest) := readWhile continuesIdentifier cs
  if isIdentifier name then some (name, rest) else none

/-- An operator. -/
def readOperator : Reader BinaryOperator := fun cs =>
  BinaryOperator.all.findSome? fun op => (stripPrefix? op.spaced.toList cs).map (op, ·)

/-- What goes on with an expression, again and again. -/
def goOn (step : Expr → Reader Expr) (e : Expr) (cs : List Char) : Expr × List Char :=
  match step e cs with
  | some (e', rest) => if rest.length < cs.length then goOn step e' rest else (e, cs)
  | none => (e, cs)
termination_by cs.length

section

-- What is read in parentheses.
variable (inner : Reader Expr)

/-- The arguments of a call after the parenthesis. -/
def readPassed : Reader (List Expr) := fun cs =>
  match stripPrefix? [')'] cs with
  | some cs => some ([], cs)
  | none => do
    let (args, cs) ← separated ", ".toList inner cs.length cs
    let cs ← stripPrefix? [')'] cs
    some (args, cs)

/-- An access to a member or a call. -/
def readSuffix (e : Expr) : Reader Expr
  | '.' :: cs => do
    let (name, cs) ← readIdentifier cs
    some (.property e name, cs)
  | '[' :: cs => do
    let (name, cs) ← readLiteral cs
    let cs ← stripPrefix? [']'] cs
    some (.property e name, cs)
  | '(' :: cs => do
    let (args, cs) ← readPassed inner cs
    some (.call e args, cs)
  | _ => none

/-- An operator of a rank and its right operand. -/
def readOperation (rank : ℕ) (operand : Reader Expr) (e : Expr) : Reader Expr := fun cs => do
  let (op, cs) ← readOperator cs
  if op.rank = rank then do
    let (r, cs) ← operand cs
    some (.binary e op r, cs)
  else none

/-- What goes on with an expression of a rank: accesses and calls, or operators. -/
def readStep (operand : Reader Expr) : ℕ → Expr → Reader Expr
  | 1 => readSuffix inner
  | rank => readOperation rank operand

/-- An expression that binds at least as tightly as a rank. Whatever has the same rank is grouped to
the left. -/
def readRank : ℕ → Reader Expr
  | 0 => fun cs => do
    let (name, cs) ← readIdentifier cs
    some (.identifier name, cs)
  | rank + 1 => fun cs => do
    let (e, cs) ← readRank rank cs
    some (goOn (readStep inner (readRank rank) (rank + 1)) e cs)

end

/-- An expression. The number bounds how many are inside one another. -/
def readExpr : ℕ → Reader Expr
  | 0 => fun _ => none
  | n + 1 => readRank (readExpr n) 4

/-- The expression that a text is read as. -/
def readExpr? (s : String) : Option Expr := do
  let (e, rest) ← readExpr (s.length + 1) s.toList
  if rest = [] then some e else none

/-! ### What may come next -/

section

variable {inner : Reader Expr} {step : Expr → Reader Expr} {e e' l r : Expr}
  {op : BinaryOperator} {rank depth : ℕ} {cs rest : List Char}

lemma goOn_of_some (h : step e cs = some (e', rest)) (hlength : rest.length < cs.length) :
    goOn step e cs = goOn step e' rest := by
  rw [goOn, h]
  simp only [if_pos hlength]

lemma goOn_of_none (h : step e cs = none) : goOn step e cs = (e, cs) := by
  rw [goOn, h]

lemma readIdentifier_append {name : String} (hname : isIdentifier name = true)
    (hrest : ∀ c ∈ rest.head?, continuesIdentifier c = false) :
    readIdentifier (name.toList ++ rest) = some (name, rest) := by
  rw [readIdentifier, readWhile_append (forall_continuesIdentifier hname) hrest]
  simp only [if_pos hname]

lemma readOperator_append (op : BinaryOperator) (rest : List Char) :
    readOperator (op.spaced.toList ++ rest) = some (op, rest) := by
  cases op <;> simp [readOperator, BinaryOperator.all, BinaryOperator.spaced, BinaryOperator.text,
    stripPrefix?]

lemma readOperator_of_head? (h : ' ' ∉ cs.head?) : readOperator cs = none := by
  have hblank (op : BinaryOperator) : stripPrefix? op.spaced.toList cs = none := by
    cases cs with
    | nil => cases op <;> rfl
    | cons c cs =>
      have hc : ' ' ≠ c := fun heq => h (heq ▸ rfl)
      cases op <;> simp [BinaryOperator.spaced, BinaryOperator.text, stripPrefix?, hc]
  simp [readOperator, hblank]

/-- Nothing goes on with an expression up to a rank. -/
structure Quiet (inner : Reader Expr) (rank : ℕ) (cs : List Char) : Prop where
  word : ∀ c ∈ cs.head?, continuesIdentifier c = false
  step : ∀ i < rank, ∀ operand e, readStep inner operand (i + 1) e cs = none

lemma Quiet.mono (h : Quiet inner rank cs) {rank' : ℕ} (hle : rank' ≤ rank) :
    Quiet inner rank' cs :=
  ⟨h.word, fun i hi => h.step i (hi.trans_le hle)⟩

/-- The signs after which an expression goes on with an access or a call. -/
def openers : List Char := ['.', '[', '(']

lemma readSuffix_of_head? (h : ∀ c ∈ cs.head?, c ∉ openers) : readSuffix inner e cs = none := by
  cases cs with
  | nil => rfl
  | cons c cs =>
    have hc : c ∉ openers := h c rfl
    simp only [openers, List.mem_cons, List.not_mem_nil, or_false, not_or] at hc
    rw [readSuffix] <;> simp [hc]

lemma quiet_of_head? (h : ∀ c ∈ cs.head?, continuesIdentifier c = false ∧ c ∉ ' ' :: openers)
    (inner : Reader Expr) (rank : ℕ) : Quiet inner rank cs where
  word c hc := (h c hc).1
  step i _ operand e := by
    have hopeners : ∀ c ∈ cs.head?, c ∉ openers := fun c hc hmem =>
      (h c hc).2 (List.mem_cons_of_mem _ hmem)
    have hblank : ' ' ∉ cs.head? := fun hmem => (h ' ' hmem).2 List.mem_cons_self
    cases i with
    | zero => exact readSuffix_of_head? hopeners
    | succ i =>
      have hnone := readOperator_of_head? hblank
      simp [readStep, readOperation, hnone]

/-- An operator does not go on with what binds more tightly. -/
lemma quiet_spaced (h : rank < op.rank) (rest : List Char) :
    Quiet inner rank (op.spaced.toList ++ rest) where
  word := by
    have hblank : continuesIdentifier ' ' = false := by decide
    simpa [BinaryOperator.spaced] using hblank
  step i hi operand e := by
    cases i with
    | zero => exact readSuffix_of_head? (by simp [BinaryOperator.spaced, openers])
    | succ i =>
      have hrank : op.rank ≠ i + 1 + 1 := by omega
      simp [readStep, readOperation, readOperator_append, hrank]

/-! ### Expressions read back -/

/-- An expression is read at a rank if nothing of this rank goes on with it. -/
def ReadsAt (inner : Reader Expr) (rank depth : ℕ) (e : Expr) : Prop :=
  ∀ rest, Quiet inner rank rest →
    readRank inner rank ((e.text depth).toList ++ rest) = some (e, rest)

/-- An expression is read as something with which more of the next rank may go on. -/
def GoesOn (inner : Reader Expr) (rank depth : ℕ) (e : Expr) : Prop :=
  ∀ rest, Quiet inner rank rest →
    readRank inner (rank + 1) ((e.text depth).toList ++ rest)
      = some (goOn (readStep inner (readRank inner rank) (rank + 1)) e rest)

lemma ReadsAt.goesOn (h : ReadsAt inner rank depth e) : GoesOn inner rank depth e := by
  intro rest hrest
  simp only [readRank, h rest hrest, Option.bind_eq_bind, Option.bind_some]

lemma GoesOn.readsAt (h : GoesOn inner rank depth e) : ReadsAt inner (rank + 1) depth e := by
  intro rest hrest
  rw [h rest (hrest.mono (Nat.le_succ rank)),
    goOn_of_none (hrest.step rank (Nat.lt_succ_self rank) _ e)]

/-- An expression is read at every rank that is not below its own, and up to its own rank it may
go on. -/
structure Recognized (inner : Reader Expr) (depth : ℕ) (e : Expr) : Prop where
  readsAt : ∀ rank ≥ e.rank, ReadsAt inner rank depth e
  goesOn : ∀ rank, e.rank ≤ rank + 1 → GoesOn inner rank depth e

/-- The rank of the expression decides. -/
lemma Recognized.of_readsAt (h : ReadsAt inner e.rank depth e)
    (hgoesOn : ∀ rank, e.rank = rank + 1 → GoesOn inner rank depth e) :
    Recognized inner depth e := by
  have hreadsAt : ∀ rank ≥ e.rank, ReadsAt inner rank depth e := fun rank hrank =>
    Nat.le_induction h (fun _ _ ih => ih.goesOn.readsAt) rank hrank
  refine ⟨hreadsAt, fun rank hrank => ?_⟩
  rcases Nat.lt_or_eq_of_le hrank with hlt | heq
  · exact (hreadsAt rank (Nat.le_of_lt_succ hlt)).goesOn
  · exact hgoesOn rank heq

lemma Recognized.of_goesOn (rank : ℕ) (hrank : e.rank = rank + 1)
    (h : GoesOn inner rank depth e) : Recognized inner depth e := by
  refine .of_readsAt (hrank ▸ h.readsAt) fun rank' hrank' => ?_
  obtain rfl : rank' = rank := by omega
  exact h

lemma recognized_identifier {name : String} (hname : isIdentifier name = true) :
    Recognized inner depth (.identifier name) := by
  refine .of_readsAt (fun rest hrest => ?_) nofun
  simp only [Expr.rank, Expr.text, readRank, readIdentifier_append hname hrest.word,
    Option.bind_eq_bind, Option.bind_some]

/-- What goes on with an expression makes one of the next rank. -/
lemma Recognized.extended {s : String} (he : Recognized inner depth e) (hrank : e.rank ≤ rank + 1)
    (htext : e'.text depth = e.text depth ++ s) (hs : s ≠ "")
    (hquiet : ∀ rest, Quiet inner rank (s.toList ++ rest))
    (hstep : ∀ rest, Quiet inner rank rest →
      readStep inner (readRank inner rank) (rank + 1) e (s.toList ++ rest) = some (e', rest)) :
    GoesOn inner rank depth e' := by
  intro rest hrest
  have hlength : rest.length < (s.toList ++ rest).length := by
    have := List.length_pos_iff.mpr (String.toList_eq_nil_iff.not.mpr hs)
    rw [List.length_append]
    omega
  rw [htext, String.toList_append, List.append_assoc, he.goesOn rank hrank _ (hquiet rest),
    goOn_of_some (hstep rest hrest) hlength]

/-- Where a word ends, an access or a call may begin. -/
lemma quiet_zero (h : ∀ c ∈ cs.head?, continuesIdentifier c = false) : Quiet inner 0 cs :=
  ⟨h, nofun⟩

lemma recognized_property (he : Recognized inner depth e) (hrank : e.rank ≤ 1) (name : String) :
    Recognized inner depth (.property e name) := by
  by_cases hname : isIdentifier name = true
  · have htext : accessText name = "." ++ name := if_pos hname
    refine .of_goesOn 0 rfl
      (he.extended (s := "." ++ name) hrank (by rw [Expr.text, htext]) (by simp) (fun rest => ?_)
        fun rest hrest => ?_)
    · exact quiet_zero (by simp; decide)
    · simp [readStep, readSuffix, readIdentifier_append hname hrest.word]
  · have htext : accessText name = "[" ++ quote name ++ "]" := if_neg hname
    refine .of_goesOn 0 rfl
      (he.extended (s := "[" ++ quote name ++ "]") hrank (by rw [Expr.text, htext]) (by simp)
        (fun rest => ?_) fun rest hrest => ?_)
    · exact quiet_zero (by simp; decide)
    · simp [readStep, readSuffix, readLiteral_quote, stripPrefix?]

lemma recognized_binary (hl : Recognized inner depth l) (hr : Recognized inner depth r)
    (hleft : l.rank ≤ op.rank) (hright : r.rank < op.rank) :
    Recognized inner depth (.binary l op r) := by
  obtain ⟨rank, hrank⟩ : ∃ rank, op.rank = rank + 2 :=
    ⟨op.rank - 2, by have := op.one_lt_rank; omega⟩
  have htext : (Expr.binary l op r).text depth = l.text depth ++ (op.spaced ++ r.text depth) := by
    simp only [Expr.text, BinaryOperator.spaced, String.append_assoc]
  refine .of_goesOn (rank + 1) hrank (hl.extended (hrank ▸ hleft) htext
    (by simp [BinaryOperator.spaced]) (fun rest => ?_) fun rest hrest => ?_)
  · rw [String.toList_append, List.append_assoc]
    exact quiet_spaced (by omega) _
  · have hoperand := hr.readsAt (rank + 1) (by omega) rest hrest
    simp [readStep, readOperation, readOperator_append, hrank, hoperand]

/-! ### Calls -/

/-- What follows an argument. -/
def FollowsArgument (cs : List Char) : Prop := cs.head? = some ',' ∨ cs.head? = some ')'

lemma quiet_followsArgument (h : FollowsArgument cs) (inner : Reader Expr) (rank : ℕ) :
    Quiet inner rank cs := by
  refine quiet_of_head? (fun c hc => ?_) inner rank
  rcases h with h | h
  all_goals
    obtain rfl : c = _ := Option.some.inj ((Option.mem_def.mp hc).symm.trans h)
    decide

/-- A list is not longer than its text. -/
lemma length_le_length_intercalate (separator : List Char) (h : separator ≠ [])
    (texts : List (List Char)) : texts.length ≤ (separator.intercalate texts).length + 1 := by
  have := List.length_pos_iff.mpr h
  induction texts with
  | nil => simp
  | cons cs texts ih =>
    cases texts with
    | nil => simp
    | cons ds texts =>
      rw [List.intercalate_cons_cons]
      simp only [List.length_append, List.length_cons] at ih ⊢
      omega

lemma length_le_length_of_mem_intercalate (separator : List Char) {texts : List (List Char)}
    (h : cs ∈ texts) : cs.length ≤ (separator.intercalate texts).length := by
  induction texts with
  | nil => simp at h
  | cons ds texts ih =>
    cases texts with
    | nil => simp_all
    | cons es texts =>
      rw [List.intercalate_cons_cons]
      simp only [List.length_append]
      rcases List.mem_cons.mp h with rfl | h
      · omega
      · have := ih h
        omega

/-- An expression begins with a name. -/
lemma exists_text_eq_cons (h : e.Composed) (depth : ℕ) :
    ∃ c cs, (e.text depth).toList = c :: cs ∧ beginsIdentifier c = true := by
  induction h with
  | identifier hname =>
    obtain ⟨c, cs, heq, hc, -⟩ := isIdentifier_iff.mp hname
    exact ⟨c, cs, by rw [Expr.text, heq], hc⟩
  | property _ name ih =>
    obtain ⟨c, cs, heq, hc⟩ := ih
    exact ⟨c, cs ++ (accessText name).toList, by simp [Expr.text, heq], hc⟩
  | @call callee args _ _ ih _ =>
    obtain ⟨c, cs, heq, hc⟩ := ih
    exact ⟨c, cs ++ ("(" ++ exprsText depth args ++ ")").toList, by simp [Expr.text, heq], hc⟩
  | @binary left right _ op _ ih _ =>
    obtain ⟨c, cs, heq, hc⟩ := ih
    exact ⟨c, cs ++ (" " ++ op.text ++ " " ++ right.text depth).toList,
      by simp [Expr.text, heq], hc⟩

variable {args : List Expr}

/-- No argument begins with the parenthesis that ends a call. -/
lemma stripPrefix?_exprsText {a : Expr} (ha : a.Composed) (args : List Expr) (depth : ℕ) :
    stripPrefix? [')'] ((exprsText depth (a :: args)).toList ++ rest) = none := by
  obtain ⟨c, cs, heq, hc⟩ := exists_text_eq_cons ha depth
  have hne : ')' ≠ c := by
    rintro rfl
    exact absurd hc (by decide)
  rw [Expr.toList_exprsText]
  cases args with
  | nil => simp [List.intercalate, heq, stripPrefix?, hne]
  | cons b args => simp [List.intercalate_cons_cons, heq, stripPrefix?, hne]

lemma readPassed_append (hcomposed : ∀ a ∈ args, a.Composed)
    (hargs : ∀ a ∈ args, ∀ cs, FollowsArgument cs →
      inner ((a.text depth).toList ++ cs) = some (a, cs)) (rest : List Char) :
    readPassed inner ((exprsText depth args).toList ++ ')' :: rest) = some (args, rest) := by
  cases args with
  | nil => simp [readPassed, exprsText, stripPrefix?]
  | cons a args =>
    have hlength : (a :: args).length
        ≤ ((exprsText depth (a :: args)).toList ++ ')' :: rest).length := by
      have := length_le_length_intercalate ", ".toList (by simp)
        ((a :: args).map fun e => (e.text depth).toList)
      rw [List.length_map, ← Expr.toList_exprsText] at this
      simp only [List.length_append, List.length_cons] at this ⊢
      omega
    have hlist : separated ", ".toList inner
        ((exprsText depth (a :: args)).toList ++ ')' :: rest).length
        ((exprsText depth (a :: args)).toList ++ ')' :: rest) = some (a :: args, ')' :: rest) := by
      rw [Expr.toList_exprsText] at hlength ⊢
      exact separated_intercalate hargs (fun cs => .inl rfl) (.inr rfl) (by simp [stripPrefix?])
        (List.cons_ne_nil a args) hlength
    have hend : stripPrefix? [')'] (')' :: rest) = some rest := by simp [stripPrefix?]
    rw [readPassed, stripPrefix?_exprsText (hcomposed a List.mem_cons_self)]
    simp only [hlist, hend, Option.bind_eq_bind, Option.bind_some]

lemma recognized_call {args : List Expr} (he : Recognized inner depth e) (hrank : e.rank ≤ 1)
    (hargs : ∀ rest, readPassed inner ((exprsText depth args).toList ++ ')' :: rest)
      = some (args, rest)) : Recognized inner depth (.call e args) := by
  have htext : (Expr.call e args).text depth
      = e.text depth ++ ("(" ++ exprsText depth args ++ ")") := by
    simp only [Expr.text, String.append_assoc]
  refine .of_goesOn 0 rfl (he.extended hrank htext (by simp) (fun rest => ?_)
    fun rest _ => ?_)
  · exact quiet_zero (by simp; decide)
  · simp [readStep, readSuffix, hargs]

/-- What is grouped to the left is read as it is. -/
lemma recognized_of_exact (h : e.Exact) (depth : ℕ) {n : ℕ} (hn : (e.text depth).length ≤ n) :
    Recognized (readExpr n) depth e := by
  induction h generalizing n with
  | identifier hname => exact recognized_identifier hname
  | property _ hrank name ih =>
    rw [Expr.text, String.length_append] at hn
    exact recognized_property (ih (by omega)) hrank name
  | @call callee args _ hrank hargs ih ihargs =>
    rw [Expr.text] at hn
    simp only [String.length_append] at hn
    refine recognized_call (ih (by omega)) hrank
      (readPassed_append (fun a ha => (hargs a ha).composed) fun a ha cs hcs => ?_)
    -- The parentheses make an argument shorter than the call.
    obtain ⟨m, rfl⟩ : ∃ m, n = m + 1 := ⟨n - 1, by have : "(".length = 1 := rfl; omega⟩
    have hlength : (a.text depth).length ≤ m := by
      have := length_le_length_of_mem_intercalate ", ".toList
        (List.mem_map_of_mem (f := fun e : Expr => (e.text depth).toList) ha)
      rw [← Expr.toList_exprsText, String.length_toList, String.length_toList] at this
      have : "(".length = 1 := rfl
      omega
    exact (ihargs a ha hlength).readsAt 4 a.rank_le_four cs (quiet_followsArgument hcs _ 4)
  | binary _ _ hleft hright ihleft ihright =>
    rw [Expr.text] at hn
    simp only [String.length_append] at hn
    exact recognized_binary (ihleft (by omega)) (ihright (by omega)) hleft (by simpa using hright)

/-- The text of what is grouped to the left is read as this. -/
lemma readExpr?_text (h : e.Exact) (depth : ℕ) : readExpr? (e.text depth) = some e := by
  have hrecognized := recognized_of_exact h depth le_rfl
  have hread := hrecognized.readsAt 4 e.rank_le_four [] (quiet_of_head? (by simp) _ 4)
  rw [List.append_nil] at hread
  rw [readExpr?, readExpr, hread]
  rfl

/-- The text of any other expression is read as what this is grouped anew. -/
lemma readExpr?_text_of_composed (h : e.Composed) (depth : ℕ) :
    readExpr? (e.text depth) = some e.regrouped := by
  rw [← h.text_regrouped depth]
  exact readExpr?_text h.exact_regrouped depth

end

/-- **A text is read as the names and operators of the expression in their order, grouped by
precedence.** That is the expression itself exactly if it is grouped to the left, and it has the
value of every faithful expression with this text. -/
theorem exists_reading {e : Expr} (h : e.Composed) (depth : ℕ) :
    ∃ e', readExpr? (e.text depth) = some e' ∧ (e' = e ↔ e.Exact)
      ∧ ∀ f : Expr, f.Faithful → f.text depth = e.text depth →
        ∀ {m : Type u → Type v} [Monad m] [LawfulMonad m] {V : Type u} (w : Environment m V),
          w.value f = w.value e' := by
  have hread := readExpr?_text_of_composed h depth
  refine ⟨e.regrouped, hread, ⟨fun heq => heq ▸ h.exact_regrouped, fun hexact => ?_⟩, ?_⟩
  · exact Option.some_inj.mp (hread.symm.trans (readExpr?_text hexact depth))
  · intro f hf htext m _ _ V w
    have hsame : f.regrouped = e.regrouped := by
      rw [← Option.some_inj, ← readExpr?_text_of_composed hf.composed depth, htext, hread]
    rw [← hsame]
    exact (w.value_regrouped hf).2.1.symm

/-- Three names with an operator between them, grouped to the right. -/
def nested (op : BinaryOperator) : Expr :=
  .binary (.identifier "a") op (.binary (.identifier "b") op (.identifier "c"))

/-- The same, grouped to the left. -/
def chained (op : BinaryOperator) : Expr :=
  .binary (.binary (.identifier "a") op (.identifier "b")) op (.identifier "c")

lemma composed_nested (op : BinaryOperator) : (nested op).Composed :=
  .binary (.identifier (by decide)) op
    (.binary (.identifier (by decide)) op (.identifier (by decide)))

lemma composed_chained (op : BinaryOperator) : (chained op).Composed :=
  .binary (.binary (.identifier (by decide)) op (.identifier (by decide))) op
    (.identifier (by decide))

/-- `a && (b && c)` has the value of its reading. -/
theorem exists_reading_nested :
    (nested .and).Composed ∧ (nested .and).Faithful
      ∧ ∃ e', readExpr? ((nested .and).text 0) = some e' ∧ (e' = nested .and ↔ (nested .and).Exact)
        ∧ ∀ f : Expr, f.Faithful → f.text 0 = (nested .and).text 0 →
          ∀ {m : Type u → Type v} [Monad m] [LawfulMonad m] {V : Type u} (w : Environment m V),
            w.value f = w.value e' :=
  ⟨composed_nested .and,
    .binary (.identifier (by decide))
      (.binary (.identifier (by decide)) (.identifier (by decide)) (by decide) (by decide))
      (by decide) (by decide),
    exists_reading (composed_nested .and) 0⟩

/-- Where `a` and `b` are null and `c` is true, and nothing has members or can be called. -/
def nullAndTrue : Environment Option (Option Bool) where
  identifier name := some (if name = "c" then some true else none)
  member _ _ := none
  call _ _ _ := none
  same a b := a == b
  truthy a := a == some true
  boolean := some
  other _ := none

/-- `a === (b === c)` and `(a === b) === c` have one text, but not one value. -/
theorem text_nested_eq_text_chained :
    (nested .strictEqual).Composed ∧ (chained .strictEqual).Composed
      ∧ (nested .strictEqual).text 0 = (chained .strictEqual).text 0
      ∧ nullAndTrue.value (nested .strictEqual) = some (some false)
      ∧ nullAndTrue.value (chained .strictEqual) = some (some true) := by
  refine ⟨composed_nested _, composed_chained _, ?_, by decide, by decide⟩
  rw [← String.toList_inj]
  simp [nested, chained, Expr.text]

end OpenApiTypes.TypeScript
