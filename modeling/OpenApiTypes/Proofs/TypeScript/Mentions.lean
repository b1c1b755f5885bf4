/-
The names that types and statements mention and declare.

* `TypeScript.TypeExpr.mentions`, `TypeScript.Stmt.mentions`: the types that are referred to by
  name, and the constants whose members are, anywhere in a type or a statement;
* `TypeScript.Stmt.aliasName?`, `TypeScript.Stmt.constName?`: the name that a statement declares;
* `TypeScript.Closed`: statements that mention nothing but what one of them exports, and declare
  no name twice;
* `TypeScript.mem_mentions_unionOf`, `TypeScript.mem_mentions_intersectionOf`: types in normal form
  mention nothing new;
* `TypeScript.Expr.callees`, `TypeScript.Stmt.callees`: the names of the functions that are called
  anywhere in an expression or a statement. A constructor is no function.
-/
import OpenApiTypes.Output.Registry
import OpenApiTypes.TypeScript.Build
import Mathlib.Tactic.Common

namespace OpenApiTypes.TypeScript

open OpenApiTypes.Output (Namespace)

/-! ### Mentioned names -/

/-- A name, of a type or of a constant. -/
abbrev Mention := Namespace × String

mutual

/-- The names that a type mentions. -/
def TypeExpr.mentions : TypeExpr → List Mention
  | .keyword _ => []
  | .literal _ => []
  | .reference name arguments => (.type, name) :: listMentions arguments
  | .array element => element.mentions
  | .tuple elements => listMentions elements
  | .union members => listMentions members
  | .intersection members => listMentions members
  | .object properties index => propertyMentions properties ++ optionMentions index
  | .valueOf name => [(.value, name)]

/-- The names that the types of a list mention. -/
def listMentions : List TypeExpr → List Mention
  | [] => []
  | t :: rest => t.mentions ++ listMentions rest

/-- The names that the types of members mention. -/
def propertyMentions : List (Property TypeExpr) → List Mention
  | [] => []
  | ⟨_, _, _, type, _⟩ :: rest => type.mentions ++ propertyMentions rest

/-- The names that a type that may be missing mentions. -/
def optionMentions : Option TypeExpr → List Mention
  | none => []
  | some t => t.mentions

end

mutual

/-- The names that the types in an expression mention. -/
def Expr.mentions : Expr → List Mention
  | .identifier _ => []
  | .literal _ => []
  | .property object _ => object.mentions
  | .call callee arguments => callee.mentions ++ exprsMentions arguments
  | .construct callee arguments => callee.mentions ++ exprsMentions arguments
  | .arrow _ parameters result body =>
    parameters.flatMap (fun p => optionMentions p.type) ++ optionMentions result
      ++ stmtsMentions body
  | .assign target value => target.mentions ++ value.mentions
  | .binary left _ right => left.mentions ++ right.mentions
  | .object entries => entriesMentions entries
  | .asConst value => value.mentions

/-- The names that the types in a list of expressions mention. -/
def exprsMentions : List Expr → List Mention
  | [] => []
  | e :: rest => e.mentions ++ exprsMentions rest

/-- The names that the types in the members of an object mention. -/
def entriesMentions : List (String × Expr) → List Mention
  | [] => []
  | (_, e) :: rest => e.mentions ++ entriesMentions rest

/-- The names that the types in a statement mention. -/
def Stmt.mentions : Stmt → List Mention
  | .expr value => value.mentions
  | .ret none => []
  | .ret (some value) => value.mentions
  | .cond condition body => condition.mentions ++ stmtsMentions body
  | .const _ _ type value _ => optionMentions type ++ value.mentions
  | .typeAlias _ _ type _ => type.mentions
  | .exportAll _ => []
  | .raw _ => []

/-- The names that the types in a list of statements mention. -/
def stmtsMentions : List Stmt → List Mention
  | [] => []
  | s :: rest => s.mentions ++ stmtsMentions rest

end

lemma listMentions_eq (types : List TypeExpr) :
    listMentions types = types.flatMap TypeExpr.mentions := by
  induction types with
  | nil => rfl
  | cons t rest ih => simp [listMentions, ih]

lemma propertyMentions_eq (properties : List (Property TypeExpr)) :
    propertyMentions properties = properties.flatMap fun p => p.type.mentions := by
  induction properties with
  | nil => rfl
  | cons p rest ih => simp [propertyMentions, ih]

lemma stmtsMentions_eq (statements : List Stmt) :
    stmtsMentions statements = statements.flatMap Stmt.mentions := by
  induction statements with
  | nil => rfl
  | cons s rest ih => simp [stmtsMentions, ih]

/-! ### Declared names -/

namespace Stmt

/-- The name of the type that a statement declares. -/
def aliasName? : Stmt → Option String
  | typeAlias name _ _ _ => some name
  | _ => none

/-- The name of the constant that a statement declares. -/
def constName? : Stmt → Option String
  | const name _ _ _ _ => some name
  | _ => none

/-- Whether a statement exports what it declares. -/
def isExported : Stmt → Bool
  | const _ exported _ _ _ => exported
  | typeAlias _ exported _ _ => exported
  | _ => false

end Stmt

/-- The names of the types that statements declare. -/
def aliasNames (statements : List Stmt) : List String := statements.filterMap Stmt.aliasName?

/-- The names of the constants that statements declare. -/
def constNames (statements : List Stmt) : List String := statements.filterMap Stmt.constName?

/-- The statements that export what they declare. -/
def exports (statements : List Stmt) : List Stmt := statements.filter Stmt.isExported

@[simp] lemma aliasNames_append (ss others : List Stmt) :
    aliasNames (ss ++ others) = aliasNames ss ++ aliasNames others := List.filterMap_append

@[simp] lemma constNames_append (ss others : List Stmt) :
    constNames (ss ++ others) = constNames ss ++ constNames others := List.filterMap_append

@[simp] lemma aliasNames_typeAlias (name : String) (exported : Bool) (type : TypeExpr)
    (comment : List String) : aliasNames [.typeAlias name exported type comment] = [name] := rfl

@[simp] lemma constNames_typeAlias (name : String) (exported : Bool) (type : TypeExpr)
    (comment : List String) : constNames [.typeAlias name exported type comment] = [] := rfl

@[simp] lemma aliasNames_const (name : String) (exported : Bool) (type : Option TypeExpr)
    (value : Expr) (comment : List String) :
    aliasNames [.const name exported type value comment] = [] := rfl

@[simp] lemma constNames_const (name : String) (exported : Bool) (type : Option TypeExpr)
    (value : Expr) (comment : List String) :
    constNames [.const name exported type value comment] = [name] := rfl

/-- The names of types that are built in. -/
def builtinTypes : List String := ["Blob", "File", "Date"]

/-- Every type and every constant that the statements mention is built in or exported by exactly
one of them, and no name is declared twice, whatever capitals it has. -/
structure Closed (statements : List Stmt) : Prop where
  type_once : ∀ name, (.type, name) ∈ stmtsMentions statements → name ∉ builtinTypes →
    (aliasNames (exports statements)).count name = 1
  value_once : ∀ name, (.value, name) ∈ stmtsMentions statements →
    (constNames (exports statements)).count name = 1
  nodup_aliasNames : ((aliasNames statements).map Text.lowercase).Nodup
  nodup_constNames : ((constNames statements).map Text.lowercase).Nodup

/-! ### Types in normal form -/

lemma mem_foldl_addMember {types seen : List TypeExpr} {t : TypeExpr}
    (h : t ∈ types.foldl addMember seen) : t ∈ seen ∨ t ∈ types := by
  induction types generalizing seen with
  | nil => exact .inl h
  | cons u types ih =>
    rcases ih h with h | h
    · unfold addMember at h
      split at h
      · exact .inl h
      · rcases List.mem_append.mp h with h | h
        · exact .inl h
        · exact .inr (List.mem_singleton.mp h ▸ List.mem_cons_self)
    · exact .inr (List.mem_cons_of_mem _ h)

lemma mentions_alternatives (t : TypeExpr) :
    t.alternatives.flatMap TypeExpr.mentions = t.mentions := by
  unfold TypeExpr.alternatives
  split
  · rw [TypeExpr.mentions, listMentions_eq]
  · simp

lemma mentions_parts (t : TypeExpr) : t.parts.flatMap TypeExpr.mentions = t.mentions := by
  unfold TypeExpr.parts
  split
  · rw [TypeExpr.mentions, listMentions_eq]
  · simp

/-- A union mentions nothing but what its members mention. -/
lemma mem_mentions_unionOf {types : List TypeExpr} {m : Mention}
    (h : m ∈ (unionOf types).mentions) : ∃ t ∈ types, m ∈ t.mentions := by
  have hmember : ∀ u ∈ members types, m ∈ u.mentions → ∃ t ∈ types, m ∈ t.mentions := by
    intro u hu hm
    rcases mem_foldl_addMember hu with hu | hu
    · simp at hu
    · obtain ⟨t, ht, hu⟩ := List.mem_flatMap.mp hu
      refine ⟨t, ht, ?_⟩
      rw [← mentions_alternatives]
      exact List.mem_flatMap.mpr ⟨u, hu, hm⟩
  unfold unionOf at h
  split at h
  · simp [TypeExpr.mentions] at h
  · rename_i t heq
    exact hmember t (heq ▸ List.mem_singleton_self t) h
  · rw [TypeExpr.mentions, listMentions_eq] at h
    obtain ⟨u, hu, hm⟩ := List.mem_flatMap.mp h
    exact hmember u hu hm

/-- An intersection mentions nothing but what its members mention. -/
lemma mem_mentions_intersectionOf {types : List TypeExpr} {m : Mention}
    (h : m ∈ (intersectionOf types).mentions) : ∃ t ∈ types, m ∈ t.mentions := by
  have hmember : ∀ u ∈ types.flatMap TypeExpr.parts, m ∈ u.mentions →
      ∃ t ∈ types, m ∈ t.mentions := by
    intro u hu hm
    obtain ⟨t, ht, hu⟩ := List.mem_flatMap.mp hu
    refine ⟨t, ht, ?_⟩
    rw [← mentions_parts]
    exact List.mem_flatMap.mpr ⟨u, hu, hm⟩
  unfold intersectionOf at h
  split at h
  · simp [TypeExpr.mentions] at h
  · rename_i t heq
    exact hmember t (heq ▸ List.mem_singleton_self t) h
  · rw [TypeExpr.mentions, listMentions_eq] at h
    obtain ⟨u, hu, hm⟩ := List.mem_flatMap.mp h
    exact hmember u hu hm

/-! ### Called functions -/

/-- The name that an expression is. -/
def Expr.name? : Expr → Option String
  | identifier name => some name
  | _ => none

mutual

/-- The names of the functions that an expression calls. -/
def Expr.callees : Expr → List String
  | .identifier _ => []
  | .literal _ => []
  | .property object _ => object.callees
  | .call callee arguments => callee.name?.toList ++ callee.callees ++ exprsCallees arguments
  | .construct callee arguments => callee.callees ++ exprsCallees arguments
  | .arrow _ _ _ body => stmtsCallees body
  | .assign target value => target.callees ++ value.callees
  | .binary left _ right => left.callees ++ right.callees
  | .object entries => entriesCallees entries
  | .asConst value => value.callees

/-- The names of the functions that a list of expressions calls. -/
def exprsCallees : List Expr → List String
  | [] => []
  | e :: rest => e.callees ++ exprsCallees rest

/-- The names of the functions that the members of an object call. -/
def entriesCallees : List (String × Expr) → List String
  | [] => []
  | (_, e) :: rest => e.callees ++ entriesCallees rest

/-- The names of the functions that a statement calls. -/
def Stmt.callees : Stmt → List String
  | .expr value => value.callees
  | .ret none => []
  | .ret (some value) => value.callees
  | .cond condition body => condition.callees ++ stmtsCallees body
  | .const _ _ _ value _ => value.callees
  | .typeAlias _ _ _ _ => []
  | .exportAll _ => []
  | .raw _ => []

/-- The names of the functions that a list of statements calls. -/
def stmtsCallees : List Stmt → List String
  | [] => []
  | s :: rest => s.callees ++ stmtsCallees rest

end

lemma stmtsCallees_eq (statements : List Stmt) :
    stmtsCallees statements = statements.flatMap Stmt.callees := by
  induction statements with
  | nil => rfl
  | cons s rest ih => simp [stmtsCallees, ih]

@[simp] lemma stmtsCallees_append (ss others : List Stmt) :
    stmtsCallees (ss ++ others) = stmtsCallees ss ++ stmtsCallees others := by
  simp [stmtsCallees_eq]

end OpenApiTypes.TypeScript
