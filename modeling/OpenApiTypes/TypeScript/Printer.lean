/-
Generated source as text: four blanks for each level, single quotes, semicolons.

* `TypeScript.TypeExpr.text`, `TypeScript.Expr.text`, `TypeScript.Stmt.text`: the text of a type,
  an expression and a statement at a depth of nesting.
-/
import OpenApiTypes.TypeScript.Syntax
import OpenApiTypes.TypeScript.Text

namespace OpenApiTypes.TypeScript

/-- The text of a literal. -/
def Literal.text : Literal → String
  | string s => quote s
  | number n => n
  | boolean true => "true"
  | boolean false => "false"
  | null => "null"

/-- A text in parentheses, if they are needed. -/
def parenthesized (needed : Bool) (s : String) : String := if needed then "(" ++ s ++ ")" else s

/-! ### Types -/

/-- Whether a type needs parentheses as the element of an array. -/
def TypeExpr.wrapsAsElement : TypeExpr → Bool
  | union _ | intersection _ | valueOf _ => true
  | _ => false

/-- Whether a type needs parentheses as a member of an intersection. -/
def TypeExpr.wrapsInIntersection : TypeExpr → Bool
  | union _ => true
  | _ => false

mutual

/-- The text of a type. -/
def TypeExpr.text (depth : Nat) : TypeExpr → String
  | .keyword k => k.text
  | .literal l => l.text
  | .reference name [] => name
  | .reference name args => name ++ "<" ++ typesText depth ", " args ++ ">"
  | .array element => parenthesized element.wrapsAsElement (element.text depth) ++ "[]"
  | .tuple elements => "[" ++ typesText depth ", " elements ++ "]"
  | .union members => typesText depth " | " members
  | .intersection members => intersectedText depth members
  | .object [] none => "\x7b\x7d"
  | .object properties index =>
    "\x7b" ++ propertiesText (depth + 1) properties ++ indexText (depth + 1) index
      ++ lineBreak depth ++ "\x7d"
  | .valueOf name => "(typeof " ++ name ++ ")[keyof typeof " ++ name ++ "]"

/-- Types with a separator between them. -/
def typesText (depth : Nat) (separator : String) : List TypeExpr → String
  | [] => ""
  | [t] => t.text depth
  | t :: rest => t.text depth ++ separator ++ typesText depth separator rest

/-- The members of an intersection. -/
def intersectedText (depth : Nat) : List TypeExpr → String
  | [] => ""
  | [t] => parenthesized t.wrapsInIntersection (t.text depth)
  | t :: rest =>
    parenthesized t.wrapsInIntersection (t.text depth) ++ " & " ++ intersectedText depth rest

/-- The named members of an object type, each on its own line. -/
def propertiesText (depth : Nat) : List (Property TypeExpr) → String
  | [] => ""
  | ⟨name, optional, readonly, type, comment⟩ :: rest =>
    lineBreak depth ++ commentBlock depth comment ++ (if readonly then "readonly " else "")
      ++ memberName name ++ (if optional then "?" else "") ++ ": " ++ type.text depth ++ ";"
      ++ propertiesText depth rest

/-- The index signature of an object type. -/
def indexText (depth : Nat) : Option TypeExpr → String
  | none => ""
  | some t => lineBreak depth ++ "[key: string]: " ++ t.text depth ++ ";"

end

/-- The annotation of a type that may be missing. -/
def annotationText (depth : Nat) : Option TypeExpr → String
  | none => ""
  | some t => ": " ++ t.text depth

/-! ### Expressions and statements -/

/-- The parameters of a function. -/
def parametersText (depth : Nat) (ps : List Parameter) : String :=
  Text.joinWith ", " (ps.map fun p => p.name ++ annotationText depth p.type)

/-- The access to a member. -/
def accessText (name : String) : String :=
  if isIdentifier name then "." ++ name else "[" ++ quote name ++ "]"

/-- What marks a declaration as exported. -/
def exportText (exported : Bool) : String := if exported then "export " else ""

mutual

/-- The text of an expression. -/
def Expr.text (depth : Nat) : Expr → String
  | .identifier name => name
  | .literal l => l.text
  | .property object name => object.text depth ++ accessText name
  | .call callee args => callee.text depth ++ "(" ++ exprsText depth args ++ ")"
  | .construct callee args => "new " ++ callee.text depth ++ "(" ++ exprsText depth args ++ ")"
  | .arrow isAsync parameters result body =>
    (if isAsync then "async " else "") ++ "(" ++ parametersText depth parameters ++ ")"
      ++ annotationText depth result ++ " => " ++ blockText depth body
  | .assign target value => target.text depth ++ " = " ++ value.text depth
  | .binary left op right => left.text depth ++ " " ++ op.text ++ " " ++ right.text depth
  | .object [] => "\x7b\x7d"
  | .object entries =>
    "\x7b" ++ entriesText (depth + 1) entries ++ lineBreak depth ++ "\x7d"
  | .asConst value => value.text depth ++ " as const"

/-- Expressions with commas between them. -/
def exprsText (depth : Nat) : List Expr → String
  | [] => ""
  | [e] => e.text depth
  | e :: rest => e.text depth ++ ", " ++ exprsText depth rest

/-- The members of an object, each on its own line. -/
def entriesText (depth : Nat) : List (String × Expr) → String
  | [] => ""
  | [(key, value)] => lineBreak depth ++ memberName key ++ ": " ++ value.text depth
  | (key, value) :: rest =>
    lineBreak depth ++ memberName key ++ ": " ++ value.text depth ++ "," ++ entriesText depth rest

/-- Statements in braces. -/
def blockText (depth : Nat) : List Stmt → String
  | [] => "\x7b\x7d"
  | body => "\x7b" ++ stmtsText (depth + 1) body ++ lineBreak depth ++ "\x7d"

/-- Statements, each on its own line. -/
def stmtsText (depth : Nat) : List Stmt → String
  | [] => ""
  | s :: rest => lineBreak depth ++ s.text depth ++ stmtsText depth rest

/-- The text of a value that may be missing, after a blank. -/
def returnedText (depth : Nat) : Option Expr → String
  | none => ""
  | some e => " " ++ e.text depth

/-- The text of a statement. -/
def Stmt.text (depth : Nat) : Stmt → String
  | .expr e => e.text depth ++ ";"
  | .ret value => "return" ++ returnedText depth value ++ ";"
  | .cond condition body => "if (" ++ condition.text depth ++ ") " ++ blockText depth body
  | .const name exported type value comment =>
    commentBlock depth comment ++ exportText exported ++ "const " ++ name
      ++ annotationText depth type ++ " = " ++ value.text depth ++ ";"
  | .typeAlias name exported type comment =>
    commentBlock depth comment ++ exportText exported ++ "type " ++ name ++ " = "
      ++ type.text depth ++ ";"
  | .exportAll module => "export * from " ++ quote module ++ ";"
  | .raw s => s

end

end OpenApiTypes.TypeScript
