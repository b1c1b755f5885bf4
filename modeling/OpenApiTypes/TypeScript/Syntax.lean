/-
The part of TypeScript that is generated.

* `TypeScript.TypeExpr`: types;
* `TypeScript.Expr`, `TypeScript.Stmt`: expressions and statements;
* `TypeScript.TypeExpr.same`, `TypeScript.TypeExpr.same_iff`: equality of types is decidable.
-/

namespace OpenApiTypes.TypeScript

/-- The names of built-in types. -/
inductive Keyword where
  | any
  | bigint
  | boolean
  | never
  | null
  | number
  | string
  | undefined
  | unknown
  | void
deriving DecidableEq, Repr

namespace Keyword

/-- All keywords. -/
def all : List Keyword :=
  [any, bigint, boolean, never, null, number, string, undefined, unknown, void]

/-- The text of a keyword. -/
def text : Keyword → String
  | any => "any"
  | bigint => "bigint"
  | boolean => "boolean"
  | never => "never"
  | null => "null"
  | number => "number"
  | string => "string"
  | undefined => "undefined"
  | unknown => "unknown"
  | void => "void"

/-- The keyword of a text. -/
def ofText? (s : String) : Option Keyword := all.find? fun k => k.text == s

end Keyword

/-- A literal, which is a value and a type. -/
inductive Literal where
  | string (value : String)
  /-- A number by its text, so that integers have no fraction. -/
  | number (text : String)
  | boolean (value : Bool)
  | null
deriving DecidableEq, Repr

/-- A member of an object type. -/
structure Property (τ : Type) where
  name : String
  optional : Bool := false
  readonly : Bool := false
  type : τ
  comment : List String := []
deriving DecidableEq, Repr

/-- A type. -/
inductive TypeExpr where
  | keyword (keyword : Keyword)
  | literal (value : Literal)
  | reference (name : String) (arguments : List TypeExpr)
  | array (element : TypeExpr)
  | tuple (elements : List TypeExpr)
  | union (members : List TypeExpr)
  | intersection (members : List TypeExpr)
  /-- Named members, and the type of members under any other key. -/
  | object (properties : List (Property TypeExpr)) (index : Option TypeExpr)
  /-- The types of the members of a constant. -/
  | valueOf (name : String)
deriving Repr

instance : Inhabited TypeExpr := ⟨.keyword .unknown⟩

/-- An operator between two expressions. -/
inductive BinaryOperator where
  | strictEqual
  | strictUnequal
  | and
  | or
deriving DecidableEq, Repr

/-- The text of an operator. -/
def BinaryOperator.text : BinaryOperator → String
  | strictEqual => "==="
  | strictUnequal => "!=="
  | and => "&&"
  | or => "||"

/-- A parameter of a function. -/
structure Parameter where
  name : String
  type : Option TypeExpr
deriving Repr

mutual

/-- An expression. -/
inductive Expr where
  | identifier (name : String)
  | literal (value : Literal)
  | property (object : Expr) (name : String)
  | call (callee : Expr) (arguments : List Expr)
  | construct (callee : Expr) (arguments : List Expr)
  | arrow (isAsync : Bool) (parameters : List Parameter) (result : Option TypeExpr)
    (body : List Stmt)
  | assign (target value : Expr)
  | binary (left : Expr) (operator : BinaryOperator) (right : Expr)
  | object (entries : List (String × Expr))
  | asConst (value : Expr)

/-- A statement. -/
inductive Stmt where
  | expr (value : Expr)
  | ret (value : Option Expr)
  | cond (condition : Expr) (body : List Stmt)
  | const (name : String) (exported : Bool) (type : Option TypeExpr) (value : Expr)
    (comment : List String)
  | typeAlias (name : String) (exported : Bool) (type : TypeExpr) (comment : List String)
  | exportAll (module : String)
  /-- A text as it is. -/
  | raw (text : String)

end

instance : Inhabited Expr := ⟨.literal .null⟩

/-- Whether a statement returns. -/
def Stmt.isReturn : Stmt → Bool
  | ret _ => true
  | _ => false

/-! ### Equality of types -/

mutual

/-- Equality of types. -/
def TypeExpr.same : TypeExpr → TypeExpr → Bool
  | .keyword a, .keyword b => a == b
  | .literal a, .literal b => a == b
  | .reference n as, .reference m bs => n == m && sameAll as bs
  | .array a, .array b => a.same b
  | .tuple as, .tuple bs => sameAll as bs
  | .union as, .union bs => sameAll as bs
  | .intersection as, .intersection bs => sameAll as bs
  | .object ps i, .object qs j => sameProperties ps qs && sameOption i j
  | .valueOf n, .valueOf m => n == m
  | _, _ => false

/-- Equality of lists of types. -/
def sameAll : List TypeExpr → List TypeExpr → Bool
  | [], [] => true
  | a :: as, b :: bs => a.same b && sameAll as bs
  | _, _ => false

/-- Equality of members. -/
def sameProperties : List (Property TypeExpr) → List (Property TypeExpr) → Bool
  | [], [] => true
  | ⟨n, o, r, t, c⟩ :: ps, q :: qs =>
    n == q.name && o == q.optional && r == q.readonly && t.same q.type && c == q.comment
      && sameProperties ps qs
  | _, _ => false

/-- Equality of types that may be missing. -/
def sameOption : Option TypeExpr → Option TypeExpr → Bool
  | none, none => true
  | some a, some b => a.same b
  | _, _ => false

end

mutual

theorem TypeExpr.same_iff (a b : TypeExpr) : a.same b = true ↔ a = b := by
  cases a with
  | keyword a => cases b <;> simp [TypeExpr.same]
  | literal a => cases b <;> simp [TypeExpr.same]
  | reference n as => cases b <;> simp [TypeExpr.same, sameAll_iff as]
  | array a => cases b <;> simp [TypeExpr.same, TypeExpr.same_iff a]
  | tuple as => cases b <;> simp [TypeExpr.same, sameAll_iff as]
  | union as => cases b <;> simp [TypeExpr.same, sameAll_iff as]
  | intersection as => cases b <;> simp [TypeExpr.same, sameAll_iff as]
  | object ps i => cases b <;> simp [TypeExpr.same, sameProperties_iff ps, sameOption_iff i]
  | valueOf n => cases b <;> simp [TypeExpr.same]

theorem sameAll_iff (as bs : List TypeExpr) : sameAll as bs = true ↔ as = bs := by
  cases as with
  | nil => cases bs <;> simp [sameAll]
  | cons a as => cases bs <;> simp [sameAll, TypeExpr.same_iff a, sameAll_iff as]

theorem sameProperties_iff (ps qs : List (Property TypeExpr)) :
    sameProperties ps qs = true ↔ ps = qs := by
  cases ps with
  | nil => cases qs <;> simp [sameProperties]
  | cons p ps =>
    obtain ⟨n, o, r, t, c⟩ := p
    cases qs with
    | nil => simp [sameProperties]
    | cons q qs =>
      obtain ⟨n', o', r', t', c'⟩ := q
      simp [sameProperties, TypeExpr.same_iff t, sameProperties_iff ps, and_assoc]

theorem sameOption_iff (i j : Option TypeExpr) : sameOption i j = true ↔ i = j := by
  cases i with
  | none => cases j <;> simp [sameOption]
  | some a => cases j <;> simp [sameOption, TypeExpr.same_iff a]

end

instance : DecidableEq TypeExpr := fun a b => decidable_of_iff _ (TypeExpr.same_iff a b)

end OpenApiTypes.TypeScript
