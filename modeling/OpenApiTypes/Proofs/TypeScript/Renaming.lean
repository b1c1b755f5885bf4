/-
Other names for the functions that statements call.

* `TypeScript.Expr.renamed`, `TypeScript.Stmt.renamed`: an expression or a statement that calls
  functions under other names. Whatever else it names stays the same;
* `TypeScript.stmtsRenamed_eq`: statements are renamed one by one;
* `TypeScript.Expr.renamed_eq_identifier_iff`: an expression that is a name is that name before, so
  that a shape of statements is recognized before and after.
-/
import OpenApiTypes.TypeScript.Build
import Mathlib.Tactic.Common

namespace OpenApiTypes.TypeScript

variable (ρ : String → String)

mutual

/-- An expression that calls functions under other names. -/
def Expr.renamed : Expr → Expr
  | .identifier name => .identifier name
  | .literal value => .literal value
  | .property object name => .property object.renamed name
  | .call (.identifier name) arguments => .call (.identifier (ρ name)) (exprsRenamed arguments)
  | .call callee arguments => .call callee.renamed (exprsRenamed arguments)
  | .construct callee arguments => .construct callee.renamed (exprsRenamed arguments)
  | .arrow isAsync parameters result body => .arrow isAsync parameters result (stmtsRenamed body)
  | .assign target value => .assign target.renamed value.renamed
  | .binary left operator right => .binary left.renamed operator right.renamed
  | .object entries => .object (entriesRenamed entries)
  | .asConst value => .asConst value.renamed

/-- A list of expressions that call functions under other names. -/
def exprsRenamed : List Expr → List Expr
  | [] => []
  | e :: rest => e.renamed :: exprsRenamed rest

/-- The members of an object, which call functions under other names. -/
def entriesRenamed : List (String × Expr) → List (String × Expr)
  | [] => []
  | (name, e) :: rest => (name, e.renamed) :: entriesRenamed rest

/-- A statement that calls functions under other names. -/
def Stmt.renamed : Stmt → Stmt
  | .expr value => .expr value.renamed
  | .ret none => .ret none
  | .ret (some value) => .ret (some value.renamed)
  | .cond condition body => .cond condition.renamed (stmtsRenamed body)
  | .const name exported type value comment => .const name exported type value.renamed comment
  | .typeAlias name exported type comment => .typeAlias name exported type comment
  | .exportAll module => .exportAll module
  | .raw text => .raw text

/-- A list of statements that call functions under other names. -/
def stmtsRenamed : List Stmt → List Stmt
  | [] => []
  | s :: rest => s.renamed :: stmtsRenamed rest

end

variable {ρ} {e : Expr} {s : Stmt} {ss : List Stmt} {name : String}

lemma stmtsRenamed_eq : stmtsRenamed ρ ss = ss.map (Stmt.renamed ρ) := by
  induction ss with
  | nil => rfl
  | cons s rest ih => simp [stmtsRenamed, ih]

@[simp] lemma stmtsRenamed_append {others : List Stmt} :
    stmtsRenamed ρ (ss ++ others) = stmtsRenamed ρ ss ++ stmtsRenamed ρ others := by
  simp [stmtsRenamed_eq]

lemma stmtsRenamed_flatMap {α : Type} {xs : List α} {f : α → List Stmt} :
    stmtsRenamed ρ (xs.flatMap f) = xs.flatMap fun x => stmtsRenamed ρ (f x) := by
  simp [stmtsRenamed_eq, List.map_flatMap]

@[simp] lemma stmtsRenamed_eq_nil_iff : stmtsRenamed ρ ss = [] ↔ ss = [] := by
  simp [stmtsRenamed_eq]

@[simp] lemma isEmpty_stmtsRenamed : (stmtsRenamed ρ ss).isEmpty = ss.isEmpty := by
  simp [stmtsRenamed_eq]

@[simp] lemma Stmt.isReturn_renamed : (s.renamed ρ).isReturn = s.isReturn := by
  cases s with
  | ret value => cases value <;> rfl
  | expr | cond | const | typeAlias | exportAll | raw => rfl

lemma isPresent_renamed (he : e.renamed ρ = e) : (isPresent e).renamed ρ = isPresent e := by
  simp [isPresent, Expr.renamed, he]

/-- An expression is a name if it is that name before. -/
lemma Expr.renamed_eq_identifier_iff : e.renamed ρ = .identifier name ↔ e = .identifier name := by
  cases e with
  | call callee arguments => cases callee <;> simp [Expr.renamed]
  | identifier | literal | property | construct | arrow | assign | binary | object | asConst =>
    simp [Expr.renamed]

/-- A statement is an assignment to a name if it is one before. -/
lemma Stmt.exists_of_renamed_eq_assign {value : Expr}
    (h : s.renamed ρ = .expr (.assign (.identifier name) value)) :
    ∃ e, s = .expr (.assign (.identifier name) e) := by
  cases s with
  | expr e =>
    cases e with
    | assign target e =>
      simp only [Stmt.renamed, Expr.renamed, Stmt.expr.injEq, Expr.assign.injEq] at h
      exact ⟨e, by rw [Expr.renamed_eq_identifier_iff.mp h.1]⟩
    | call callee arguments => cases callee <;> simp [Stmt.renamed, Expr.renamed] at h
    | identifier | literal | property | construct | arrow | binary | object | asConst =>
      simp [Stmt.renamed, Expr.renamed] at h
  | ret value => cases value <;> simp [Stmt.renamed] at h
  | cond | const | typeAlias | exportAll | raw => simp [Stmt.renamed] at h

end OpenApiTypes.TypeScript
