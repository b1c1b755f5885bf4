/-
How operands belong together where nothing is in parentheses.

* `TypeScript.Expr.rank`: how loosely the outermost operator of an expression binds;
* `TypeScript.Expr.Composed`: expressions made of names, by access to members, calls and operators;
* `TypeScript.Expr.Grouped`: such expressions in which no operand binds more loosely than the
  operator that takes it; `TypeScript.Expr.Exact` and `TypeScript.Expr.Faithful`, of which the one
  is grouped to the left only, and the other also groups logical operators to the right;
* `TypeScript.Expr.regrouped`: the same names and operators in the same order, but grouped as
  precedence wants it;
* `TypeScript.Expr.Composed.exact_regrouped`, `TypeScript.Expr.Composed.text_regrouped`: this is
  exact, and its text is the same.
-/
import Mathlib.Order.MinMax
import Mathlib.Tactic.Common
import OpenApiTypes.TypeScript.Printer

namespace OpenApiTypes.TypeScript

/-! ### Ranks -/

/-- How loosely an operator binds: equality is taken before `&&`, and that before `||`. -/
def BinaryOperator.rank : BinaryOperator → ℕ
  | strictEqual | strictUnequal => 2
  | and => 3
  | or => 4

/-- Whether an operator leaves its right operand out if the left one decides. -/
def BinaryOperator.isLogical : BinaryOperator → Bool
  | and | or => true
  | strictEqual | strictUnequal => false

/-- How loosely the outermost part of an expression binds. Access and calls bind more tightly than
all operators. -/
def Expr.rank : Expr → ℕ
  | binary _ op _ => op.rank
  | property _ _ | call _ _ => 1
  | _ => 0

lemma BinaryOperator.one_lt_rank (op : BinaryOperator) : 1 < op.rank := by
  cases op <;> decide

lemma BinaryOperator.eq_of_rank_eq {op op' : BinaryOperator} (h : op.isLogical = true)
    (hrank : op'.rank = op.rank) : op' = op := by
  cases op <;> cases op' <;> simp_all [isLogical, rank]

namespace Expr

/-! ### Expressions that are grouped -/

/-- Expressions made of names, by access to members, calls and operators. -/
inductive Composed : Expr → Prop
  | identifier {name : String} (hname : isIdentifier name = true) : Composed (.identifier name)
  | property {object : Expr} (hobject : Composed object) (name : String) :
      Composed (.property object name)
  | call {callee : Expr} {args : List Expr} (hcallee : Composed callee)
      (hargs : ∀ a ∈ args, Composed a) : Composed (.call callee args)
  | binary {left right : Expr} (hleft : Composed left) (op : BinaryOperator)
      (hright : Composed right) : Composed (.binary left op right)

/-- Such expressions in which no operand binds more loosely than the operator that takes it. On the
right, only the operators that chain may be repeated. -/
inductive Grouped (chains : BinaryOperator → Prop) : Expr → Prop
  | identifier {name : String} (hname : isIdentifier name = true) :
      Grouped chains (.identifier name)
  | property {object : Expr} (hobject : Grouped chains object) (hrank : object.rank ≤ 1)
      (name : String) : Grouped chains (.property object name)
  | call {callee : Expr} {args : List Expr} (hcallee : Grouped chains callee)
      (hrank : callee.rank ≤ 1) (hargs : ∀ a ∈ args, Grouped chains a) :
      Grouped chains (.call callee args)
  | binary {left right : Expr} {op : BinaryOperator} (hleft : Grouped chains left)
      (hright : Grouped chains right) (hrank : left.rank ≤ op.rank)
      (htight : right.rank < op.rank ∨ right.rank = op.rank ∧ chains op) :
      Grouped chains (.binary left op right)

/-- Grouped to the left, as a text without parentheses is read. -/
abbrev Exact : Expr → Prop := Grouped fun _ => False

/-- Grouped in such a way that grouping to the left makes no difference. -/
abbrev Faithful : Expr → Prop := Grouped fun op => op.isLogical = true

variable {chains : BinaryOperator → Prop} {e l r : Expr} {op : BinaryOperator} {depth : ℕ}

lemma Grouped.composed (h : e.Grouped chains) : e.Composed := by
  induction h with
  | identifier hname => exact .identifier hname
  | property hobject hrank name ih => exact .property ih name
  | call hcallee hrank hargs ih ihargs => exact .call ih ihargs
  | binary hleft hright hrank htight ihleft ihright => exact .binary ihleft _ ihright

lemma rank_le_four (e : Expr) : e.rank ≤ 4 := by
  unfold rank
  split
  · rename_i op _
    cases op <;> decide
  · decide
  · decide
  · decide

/-! ### Grouping anew -/

/-- An operator and a right operand after an expression. The operator takes from it what binds at
least as tightly. -/
def attach (op : BinaryOperator) (r : Expr) : Expr → Expr
  | .binary l₁ op₁ l₂ =>
    if op.rank < op₁.rank then .binary l₁ op₁ (attach op r l₂)
    else .binary (.binary l₁ op₁ l₂) op r
  | l => .binary l op r

/-- An operator and another expression after an expression. The operator takes from either what
binds tightly enough. -/
def rejoin (l : Expr) (op : BinaryOperator) : Expr → Expr
  | .binary r₁ op₁ r₂ =>
    if op.rank ≤ op₁.rank then attach op₁ r₂ (rejoin l op r₁)
    else attach op (.binary r₁ op₁ r₂) l
  | r => attach op r l

/-- An access or a call at the end of an expression, which only the last operand takes part in. -/
def suffixed (suffix : Expr → Expr) : Expr → Expr
  | .binary l op r => .binary l op (suffixed suffix r)
  | e => suffix e

mutual

/-- The names and operators of an expression in the same order, grouped as precedence wants it. -/
def regrouped : Expr → Expr
  | .property o name => o.regrouped.suffixed (.property · name)
  | .call c args => c.regrouped.suffixed (.call · (regroupedAll args))
  | .binary l op r => l.regrouped.rejoin op r.regrouped
  | e => e

/-- The same for each expression of a list. -/
def regroupedAll : List Expr → List Expr
  | [] => []
  | a :: rest => a.regrouped :: regroupedAll rest

end

lemma regroupedAll_eq_map (args : List Expr) : regroupedAll args = args.map regrouped := by
  induction args with
  | nil => rfl
  | cons a args ih => rw [regroupedAll, ih, List.map_cons]

lemma rank_le_one (h : ∀ l op r, e = .binary l op r → False) : e.rank ≤ 1 := by
  cases e with
  | binary l op r => exact (h l op r rfl).elim
  | _ => simp [rank]

/-! ### Where nothing has to be grouped anew -/

lemma attach_of_rank_le (h : l.rank ≤ op.rank) : attach op r l = .binary l op r := by
  fun_cases attach op r l with
  | case1 l₁ op₁ l₂ hlt => exact absurd h (Nat.not_le.mpr hlt)
  | case2 l₁ op₁ l₂ hle => rfl
  | case3 l hl => rfl

lemma suffixed_of_rank_le {suffix : Expr → Expr} (h : e.rank ≤ 1) :
    e.suffixed suffix = suffix e := by
  fun_cases suffixed suffix e with
  | case1 l op r => exact absurd h (Nat.not_le.mpr op.one_lt_rank)
  | case2 e he => rfl

/-! ### Ranks -/

lemma rank_attach (op : BinaryOperator) (r l : Expr) :
    (attach op r l).rank = max l.rank op.rank := by
  fun_cases attach op r l with
  | case1 l₁ op₁ l₂ hlt => exact (max_eq_left hlt.le).symm
  | case2 l₁ op₁ l₂ hle => exact (max_eq_right (Nat.not_lt.mp hle)).symm
  | case3 l hl => exact (max_eq_right ((rank_le_one hl).trans op.one_lt_rank.le)).symm

lemma rank_rejoin (l : Expr) (op : BinaryOperator) (hr : r.Grouped chains) :
    (l.rejoin op r).rank = max (max l.rank op.rank) r.rank := by
  induction hr with
  | @binary r₁ r₂ op₁ hleft hright hrank htight ih =>
    rw [rejoin]
    split_ifs with hle
    · rw [rank_attach, ih]
      simp only [rank] at hrank ⊢
      omega
    · rw [rank_attach]
      simp only [rank]
      omega
  | _ =>
    have := op.one_lt_rank
    rw [rejoin, rank_attach]
    · simp only [rank]
      omega
    · simp

lemma rank_suffixed {suffix : Expr → Expr} (hsuffix : ∀ e, (suffix e).rank = 1) (e : Expr) :
    (e.suffixed suffix).rank = max e.rank 1 := by
  fun_cases suffixed suffix e with
  | case1 l op r => exact (max_eq_left op.one_lt_rank.le).symm
  | case2 e he => rw [hsuffix, max_eq_right (rank_le_one he)]

/-! ### What is grouped anew is exact -/

lemma exact_attach (hl : l.Exact) (hr : r.Exact) (htight : r.rank < op.rank) :
    (attach op r l).Exact := by
  fun_induction attach op r l with
  | case1 l₁ op₁ l₂ hlt ih =>
    cases hl with
    | binary hleft hright hrank hinner =>
      refine .binary hleft (ih hright) hrank (.inl ?_)
      rw [rank_attach]
      exact max_lt (by simpa using hinner) hlt
  | case2 l₁ op₁ l₂ hle => exact .binary hl hr (Nat.not_lt.mp hle) (.inl htight)
  | case3 l hne => exact .binary hl hr ((rank_le_one hne).trans op.one_lt_rank.le) (.inl htight)

lemma exact_rejoin (hl : l.Exact) (hr : r.Exact) (op : BinaryOperator) :
    (l.rejoin op r).Exact := by
  fun_induction rejoin l op r with
  | case1 r₁ op₁ r₂ hle ih =>
    cases hr with
    | binary hleft hright hrank htight =>
      exact exact_attach (ih hleft) hright (by simpa using htight)
  | case2 r₁ op₁ r₂ hlt => exact exact_attach hl hr (Nat.not_le.mp hlt)
  | case3 r hne => exact exact_attach hl hr ((rank_le_one hne).trans_lt op.one_lt_rank)

lemma exact_suffixed {suffix : Expr → Expr} (hrank : ∀ e, (suffix e).rank = 1)
    (hsuffix : ∀ e : Expr, e.Exact → e.rank ≤ 1 → (suffix e).Exact) (he : e.Exact) :
    (e.suffixed suffix).Exact := by
  fun_induction suffixed suffix e with
  | case1 l op r ih =>
    cases he with
    | binary hleft hright hloose htight =>
      refine .binary hleft (ih hright) hloose (.inl ?_)
      rw [rank_suffixed hrank]
      exact max_lt (by simpa using htight) op.one_lt_rank
  | case2 e hne => exact hsuffix e he (rank_le_one hne)

/-- What is grouped anew is exact. -/
lemma Composed.exact_regrouped (h : e.Composed) : e.regrouped.Exact := by
  induction h with
  | identifier hname => exact .identifier hname
  | property ho name ih =>
    exact exact_suffixed (fun _ => rfl) (fun _ he hrank => .property he hrank name) ih
  | call hc hargs ih ihargs =>
    refine exact_suffixed (fun _ => rfl) (fun _ he hrank => .call he hrank ?_) ih
    rw [regroupedAll_eq_map, List.forall_mem_map]
    exact ihargs
  | binary hl op hr ihl ihr => exact exact_rejoin ihl ihr op

/-! ### Texts -/

lemma text_attach (op : BinaryOperator) (r l : Expr) :
    (attach op r l).text depth = (Expr.binary l op r).text depth := by
  fun_induction attach op r l with
  | case1 l₁ op₁ l₂ hlt ih => simp only [text, ih, String.append_assoc]
  | case2 l₁ op₁ l₂ hle => rfl
  | case3 l hne => rfl

lemma text_rejoin (l : Expr) (op : BinaryOperator) (r : Expr) :
    (l.rejoin op r).text depth = (Expr.binary l op r).text depth := by
  fun_induction rejoin l op r with
  | case1 r₁ op₁ r₂ hle ih => simp only [text_attach, text, ih, String.append_assoc]
  | case2 r₁ op₁ r₂ hlt => exact text_attach op _ l
  | case3 r hne => exact text_attach op r l

lemma text_suffixed {suffix : Expr → Expr} {s : String}
    (hsuffix : ∀ e, (suffix e).text depth = e.text depth ++ s) (e : Expr) :
    (e.suffixed suffix).text depth = e.text depth ++ s := by
  fun_induction suffixed suffix e with
  | case1 l op r ih => simp only [text, ih, String.append_assoc]
  | case2 e hne => exact hsuffix e

/-- Expressions with commas between them, as a list of texts. -/
lemma toList_exprsText (depth : ℕ) (es : List Expr) :
    (exprsText depth es).toList
      = ", ".toList.intercalate (es.map fun e => (e.text depth).toList) := by
  induction es with
  | nil => simp [exprsText]
  | cons e es ih =>
    cases es with
    | nil => simp [exprsText, List.intercalate]
    | cons f es =>
      rw [exprsText, String.toList_append, String.toList_append, ih]
      · simp [List.intercalate]
      · simp

/-- Grouping anew does not change the text. -/
lemma Composed.text_regrouped (h : e.Composed) (depth : ℕ) :
    e.regrouped.text depth = e.text depth := by
  induction h with
  | identifier hname => rfl
  | property ho name ih =>
    rw [regrouped, text_suffixed (s := accessText name) (fun _ => by rw [text]), ih, text]
  | @call c args hc hargs ih ihargs =>
    have htext : exprsText depth (regroupedAll args) = exprsText depth args := by
      rw [← String.toList_inj, toList_exprsText, toList_exprsText, regroupedAll_eq_map,
        List.map_map]
      exact congrArg _ (List.map_congr_left fun a ha => congrArg String.toList (ihargs a ha))
    rw [regrouped, text_suffixed (s := "(" ++ exprsText depth args ++ ")")
      (fun _ => by simp only [text, htext, String.append_assoc]), ih, text]
    simp only [String.append_assoc]
  | binary hl op hr ihl ihr => rw [regrouped, text_rejoin, text, ihl, ihr, text]

end Expr

end OpenApiTypes.TypeScript
