/-
What expressions made of names have as their values.

* `TypeScript.Environment`: what names, accesses to members and calls mean, in any monad, so that
  they may throw, change a state, or be awaited;
* `TypeScript.Environment.value`: the value of an expression, whose operands are taken from left to
  right, and not at all if a logical operator leaves them out;
* `TypeScript.Environment.operate_assoc`: it makes no difference how a logical operator is grouped;
* `TypeScript.Environment.value_regrouped`: a faithful expression that is grouped anew keeps its
  value.
-/
import OpenApiTypes.Proofs.TypeScript.Grouping

namespace OpenApiTypes.TypeScript

universe u v

/-- What names, accesses to members and calls mean, and what operators find out about values. -/
structure Environment (m : Type u → Type v) (V : Type u) where
  identifier : String → m V
  member : V → String → m V
  /-- A call has a receiver if it calls a member. -/
  call : Option V → V → List V → m V
  /-- Strict equality. -/
  same : V → V → Bool
  truthy : V → Bool
  boolean : Bool → V
  /-- The values of all other expressions. -/
  other : Expr → m V

namespace Environment

variable {m : Type u → Type v} [Monad m] {V : Type u} (w : Environment m V)

/-- The value of an operator between two operands. -/
def operate : BinaryOperator → m V → m V → m V
  | .strictEqual, x, y => do
    let a ← x
    let b ← y
    pure (w.boolean (w.same a b))
  | .strictUnequal, x, y => do
    let a ← x
    let b ← y
    pure (w.boolean !(w.same a b))
  | .and, x, y => do
    let a ← x
    if w.truthy a then y else pure a
  | .or, x, y => do
    let a ← x
    if w.truthy a then pure a else y

mutual

/-- The value of an expression. -/
def value : Expr → m V
  | .identifier name => w.identifier name
  | .property object name => do
    let o ← value object
    w.member o name
  | .call (.property object name) args => do
    let o ← value object
    let f ← w.member o name
    let vs ← values args
    w.call (some o) f vs
  | .call callee args => do
    let f ← value callee
    let vs ← values args
    w.call none f vs
  | .binary left op right => w.operate op (value left) (value right)
  | e => w.other e

/-- The values of expressions from left to right. -/
def values : List Expr → m (List V)
  | [] => pure []
  | e :: rest => do
    let v ← value e
    let vs ← values rest
    pure (v :: vs)

end

/-- The receiver and the function of a call. -/
def callee : Expr → m (Option V × V)
  | .property object name => do
    let o ← w.value object
    let f ← w.member o name
    pure (some o, f)
  | e => do
    let f ← w.value e
    pure (none, f)

/-! ### Operators and calls -/

section

variable [LawfulMonad m]

lemma value_call (c : Expr) (args : List Expr) :
    w.value (.call c args) = (do
      let (o, f) ← w.callee c
      let vs ← w.values args
      w.call o f vs) := by
  cases c <;> simp [value, callee]

/-- What binds as loosely as an operator has no receiver. -/
lemma callee_of_one_lt_rank {e : Expr} (h : 1 < e.rank) :
    w.callee e = (none, ·) <$> w.value e := by
  cases e <;> simp_all [callee, Expr.rank]

/-- It makes no difference how a logical operator is grouped. -/
lemma operate_assoc {op : BinaryOperator} (h : op.isLogical = true) (x y z : m V) :
    w.operate op (w.operate op x y) z = w.operate op x (w.operate op y z) := by
  cases op with
  | strictEqual | strictUnequal => simp [BinaryOperator.isLogical] at h
  | and =>
    simp only [operate, bind_assoc]
    refine bind_congr fun a => ?_
    split_ifs with ha <;> simp [ha]
  | or =>
    simp only [operate, bind_assoc]
    refine bind_congr fun a => ?_
    split_ifs with ha <;> simp [ha]

/-! ### Grouping anew -/

variable {e l r : Expr} {op : BinaryOperator}

lemma value_rejoin (hr : r.Exact) (hloose : l.rank ≤ op.rank)
    (htight : r.rank < op.rank ∨ r.rank = op.rank ∧ op.isLogical = true) :
    w.value (l.rejoin op r) = w.operate op (w.value l) (w.value r) := by
  fun_induction Expr.rejoin l op r with
  | case1 r₁ op₁ r₂ hle ih =>
    cases hr with
    | binary hleft hright hrank _ =>
      obtain ⟨heq, hlogical⟩ := htight.resolve_left (Nat.not_lt.mpr hle)
      obtain rfl := BinaryOperator.eq_of_rank_eq hlogical heq
      have hjoined : (l.rejoin op₁ r₁).rank ≤ op₁.rank := by
        rw [Expr.rank_rejoin l op₁ hleft]
        exact max_le (max_le hloose le_rfl) hrank
      rw [Expr.attach_of_rank_le hjoined, value,
        ih hleft ((Nat.lt_or_eq_of_le hrank).imp_right (⟨·, hlogical⟩)), value]
      exact w.operate_assoc hlogical _ _ _
  | case2 r₁ op₁ r₂ hlt => rw [Expr.attach_of_rank_le hloose, value]
  | case3 r hne => rw [Expr.attach_of_rank_le hloose, value]

omit [LawfulMonad m] in
lemma values_regroupedAll {args : List Expr} (h : ∀ a ∈ args, w.value a.regrouped = w.value a) :
    w.values (Expr.regroupedAll args) = w.values args := by
  induction args with
  | nil => rfl
  | cons a args ih =>
    obtain ⟨ha, hargs⟩ := List.forall_mem_cons.mp h
    rw [Expr.regroupedAll, values, values, ha, ih hargs]

/-- A faithful expression that is grouped anew keeps its rank, its value and its receiver. -/
lemma value_regrouped (h : e.Faithful) :
    e.regrouped.rank = e.rank ∧ w.value e.regrouped = w.value e
      ∧ w.callee e.regrouped = w.callee e := by
  induction h with
  | identifier hname => exact ⟨rfl, rfl, rfl⟩
  | property _ hrank name ih =>
    obtain ⟨hrank', hvalue, -⟩ := ih
    rw [Expr.regrouped, Expr.suffixed_of_rank_le (hrank'.trans_le hrank)]
    exact ⟨rfl, by rw [value, value, hvalue], by rw [callee, callee, hvalue]⟩
  | @call c args _ hrank _ ih ihargs =>
    obtain ⟨hrank', -, hcallee⟩ := ih
    have hargs := w.values_regroupedAll fun a ha => (ihargs a ha).2.1
    have hvalue : w.value (.call c.regrouped (Expr.regroupedAll args)) = w.value (.call c args) := by
      rw [value_call, hcallee, hargs, ← value_call]
    rw [Expr.regrouped, Expr.suffixed_of_rank_le (hrank'.trans_le hrank)]
    exact ⟨rfl, hvalue, by rw [callee, callee, hvalue] <;> simp⟩
  | @binary l r op hleft hright hloose htight ihl ihr =>
    obtain ⟨hrankl, hvaluel, -⟩ := ihl
    obtain ⟨hrankr, hvaluer, -⟩ := ihr
    have hr := hright.composed.exact_regrouped
    have hrank : (l.regrouped.rejoin op r.regrouped).rank = op.rank := by
      rw [Expr.rank_rejoin _ _ hr, hrankl, hrankr]
      omega
    have hvalue : w.value (l.regrouped.rejoin op r.regrouped) = w.value (.binary l op r) := by
      rw [w.value_rejoin hr (hrankl ▸ hloose) (hrankr ▸ htight), hvaluel, hvaluer, value]
    rw [Expr.regrouped]
    refine ⟨hrank, hvalue, ?_⟩
    rw [callee_of_one_lt_rank _ (hrank ▸ op.one_lt_rank), hvalue,
      callee_of_one_lt_rank _ (show 1 < (Expr.binary l op r).rank from op.one_lt_rank)]

end

end Environment

end OpenApiTypes.TypeScript
