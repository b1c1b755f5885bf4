/-
The types of schemas under the names of a registry.

* `Types.Typed`: a schema has a type, where references have the names that were given to them;
* `Types.Typed.mono`: it keeps the type while more names are given;
* `Types.Gives`: a step that only ever adds names of types, and whose result stands under them;
* `Types.gives_typeOf`: the type of a schema is given in such a step;
* `Types.Settles`: a step that was taken gives the same result again, whatever names were given in
  between, and gives no more names; `Types.settles_typeOf`: so does the type of a schema;
* `Types.typeUnder`: the type of a schema under the names of a registry;
* `Types.gives_typeUnder`: it is what the step gives that has added its names to the registry;
  `Types.gives_typesUnder`, `Types.gives_propertiesUnder`, `Types.gives_additionalUnder`: likewise
  for lists of schemas, for properties, and for members without a name of their own.
-/
import OpenApiTypes.Proofs.Output.Stability
import OpenApiTypes.Types.SchemaType
import Mathlib.Tactic.Common

namespace OpenApiTypes.Types

open OpenApiTypes.Model
open OpenApiTypes.Output (Registry)
open OpenApiTypes.TypeScript (Keyword Property TypeExpr intersectionOf named unionOf)

variable {α β : Type} {conversions : Conversions} {r r' : Registry} {s : Schema} {t : TypeExpr}

/-! ### Types of schemas -/

/-- The members of an object type by the names of properties and their types. -/
def membersOf (s : Schema) (types : List TypeExpr) : List (Property TypeExpr) :=
  (s.properties.zip types).map fun x =>
    { name := x.1.1, optional := !s.required.contains x.1.1, type := x.2, comment := comment x.1.2 }

lemma map_name_membersOf {types : List TypeExpr} (hlength : types.length = s.properties.length) :
    (membersOf s types).map Property.name = s.properties.map Prod.fst := by
  have hzip : (s.properties.zip types).map Prod.fst = s.properties := List.map_fst_zip (by omega)
  calc (membersOf s types).map Property.name
      = ((s.properties.zip types).map Prod.fst).map Prod.fst := by simp [membersOf]
    _ = s.properties.map Prod.fst := by rw [hzip]

/-- A schema stands for no component and for no constant. -/
structure IsOpen (s : Schema) : Prop where
  pointer : s.pointer = none
  constValue : s.constValue = none

/-- A schema has a type, where references have the names that were given to them. -/
inductive Typed (conversions : Conversions) (r : Registry) : Schema → TypeExpr → Prop where
  | reference {s : Schema} {pointer name : String} (hpointer : s.pointer = some pointer)
      (hentry : r.status? pointer .type fileId = some (.active name)) :
      Typed conversions r s (named name)
  | withdrawn {s : Schema} {pointer name : String} (hpointer : s.pointer = some pointer)
      (hentry : r.status? pointer .type fileId = some (.suppressed name)) :
      Typed conversions r s (.keyword .unknown)
  | constant {s : Schema} {v : Json} (hpointer : s.pointer = none)
      (hvalue : s.constValue = some v) : Typed conversions r s (constantType v)
  | noElement {s : Schema} (hopen : IsOpen s) (hshape : s.shape = some .array)
      (hitems : s.items = []) : Typed conversions r s (.array (.keyword .unknown))
  | array {s element : Schema} {rest : List Schema} {t : TypeExpr} (hopen : IsOpen s)
      (hshape : s.shape = some .array) (hitems : s.items = element :: rest)
      (h : Typed conversions r element t) : Typed conversions r s (.array t)
  | tuple {s : Schema} {types : List TypeExpr} (hopen : IsOpen s)
      (hshape : s.shape = some .tuple) (hlength : types.length = s.items.length)
      (h : ∀ x ∈ s.items.zip types, Typed conversions r x.1 x.2) :
      Typed conversions r s (.tuple types)
  | enum {s : Schema} {types : List TypeExpr} (hopen : IsOpen s)
      (hshape : s.shape = some .enum) (hlength : types.length = s.items.length)
      (h : ∀ x ∈ s.items.zip types, Typed conversions r x.1 x.2) :
      Typed conversions r s (unionOf types)
  | object {s : Schema} {types : List TypeExpr} {additional : Option TypeExpr}
      (hopen : IsOpen s) (hshape : s.shape = some .object)
      (hlength : types.length = s.properties.length)
      (h : ∀ x ∈ s.properties.zip types, Typed conversions r x.1.2 x.2)
      (hsome : additional.isSome → s.additionalProperties.isSome)
      (hadditional : ∀ x ∈ s.additionalProperties, ∀ t ∈ additional, Typed conversions r x t) :
      Typed conversions r s (.object (membersOf s types)
        (additional.map (indexType (membersOf s types))))
  | string {s : Schema} (hopen : IsOpen s) (hshape : s.shape = some .string) :
      Typed conversions r s (stringType conversions s.facets.format)
  | integer {s : Schema} (hopen : IsOpen s) (hshape : s.shape = some .integer) :
      Typed conversions r s (integerType conversions s.facets.format)
  | keyword {s : Schema} {keyword : Keyword} (hopen : IsOpen s) (hkeyword : keyword ≠ .bigint) :
      Typed conversions r s (.keyword keyword)
  | all {s : Schema} {types : List TypeExpr} (hopen : IsOpen s) (hshape : s.shape = none)
      (hoperator : s.operator = .and) (hlength : types.length = s.items.length)
      (h : ∀ x ∈ s.items.zip types, Typed conversions r x.1 x.2) :
      Typed conversions r s (intersectionOf types)
  | any {s : Schema} {types : List TypeExpr} (hopen : IsOpen s) (hshape : s.shape = none)
      (hoperator : s.operator = .or) (hlength : types.length = s.items.length)
      (h : ∀ x ∈ s.items.zip types, Typed conversions r x.1 x.2) :
      Typed conversions r s (unionOf types)

namespace Typed

/-- A schema keeps its type while more names are given. -/
lemma mono (h : Typed conversions r s t) (hr : r.Extends r') : Typed conversions r' s t := by
  induction h with
  | reference hpointer hentry => exact .reference hpointer (hr hentry)
  | withdrawn hpointer hentry => exact .withdrawn hpointer (hr hentry)
  | constant hpointer hvalue => exact .constant hpointer hvalue
  | noElement hopen hshape hitems => exact .noElement hopen hshape hitems
  | array hopen hshape hitems _ ih => exact .array hopen hshape hitems ih
  | tuple hopen hshape hlength _ ih => exact .tuple hopen hshape hlength ih
  | enum hopen hshape hlength _ ih => exact .enum hopen hshape hlength ih
  | object hopen hshape hlength _ hsome _ ih ih' => exact .object hopen hshape hlength ih hsome ih'
  | string hopen hshape => exact .string hopen hshape
  | integer hopen hshape => exact .integer hopen hshape
  | keyword hopen hkeyword => exact .keyword hopen hkeyword
  | all hopen hshape hoperator hlength _ ih => exact .all hopen hshape hoperator hlength ih
  | any hopen hshape hoperator hlength _ ih => exact .any hopen hshape hoperator hlength ih

end Typed

/-! ### Steps -/

/-- A registry has all names of another one, and others in the file of types only, where the names
of types stay distinct, none is withdrawn, and all are made under one convention if they were. -/
structure Grows (r r' : Registry) : Prop where
  keeps : r.Extends r'
  unwithdrawn : r.Unwithdrawn fileId → r'.Unwithdrawn fileId
  distinct : r.Distinct .type fileId → r'.Distinct .type fileId
  uniform : ∀ {convention}, r.Uniform fileId convention → r'.Uniform fileId convention
  elsewhere : ∀ pointer ns, ∀ id ≠ fileId, r'.status? pointer ns id = r.status? pointer ns id

lemma Grows.refl (r : Registry) : Grows r r := ⟨.refl r, id, id, id, fun _ _ _ _ => rfl⟩

lemma Grows.trans {r'' : Registry} (h : Grows r r') (h' : Grows r' r'') : Grows r r'' :=
  ⟨h.keeps.trans h'.keeps, h'.unwithdrawn ∘ h.unwithdrawn, h'.distinct ∘ h.distinct,
    h'.uniform ∘ h.uniform,
    fun pointer ns id hid => (h'.elsewhere pointer ns id hid).trans (h.elsewhere pointer ns id hid)⟩

lemma grows_request (r : Registry) (pointer : String) (ns : Output.Namespace) :
    Grows r (r.request pointer ns fileId true).2 where
  keeps := Registry.extends_request r _ _ _
  unwithdrawn := fun h => h.request pointer ns
  distinct := fun h => h.request _ _ _
  uniform := fun h => h.request _ _ _
  elsewhere := fun q other _ hid => r.status?_request_of_ne pointer ns hid q other

/-- A step only ever adds names, and its result stands in every registry with these. -/
def Gives (x : StateM Registry α) (result : Registry → α → Prop) : Prop :=
  ∀ r, Grows r (x.run r).2 ∧ ∀ r', (x.run r).2.Extends r' → result r' (x.run r).1

namespace Gives

variable {x : StateM Registry α} {result given : Registry → α → Prop}

lemma pure {a : α} (h : ∀ r, result r a) : Gives (pure a) result :=
  fun r => ⟨.refl r, fun r' _ => h r'⟩

lemma bind {f : α → StateM Registry β} {result : Registry → β → Prop} (hx : Gives x given)
    (hf : ∀ a, Gives (f a) fun r b => given r a → result r b) : Gives (x >>= f) result := by
  intro r
  obtain ⟨hgrows, hgiven⟩ := hx r
  obtain ⟨hgrows', hresult⟩ := hf (x.run r).1 (x.run r).2
  exact ⟨hgrows.trans hgrows', fun r' hr' => hresult r' hr' (hgiven r' (hgrows'.keeps.trans hr'))⟩

lemma mapM {l : List α} {f : α → StateM Registry β} (h : ∀ a, Gives (f a) fun _ _ => True) :
    Gives (l.mapM f) fun _ _ => True := by
  induction l with
  | nil => exact .pure fun _ => trivial
  | cons a l ih =>
    rw [List.mapM_cons]
    exact (h a).bind fun _ => ih.bind fun _ => .pure fun _ _ _ => trivial

end Gives

/-- The type of a reference is the name that answers the request for it. -/
lemma run_referenceType (pointer : String) (r : Registry) : (referenceType pointer).run r
    = ((r.request pointer .type fileId true).1.name?.elim (.keyword .unknown) named,
      (r.request pointer .type fileId true).2) := by
  rcases hrequest : r.request pointer .type fileId true with ⟨i, r'⟩
  have hrun : StateT.run (m := Id) (fun registry => registry.request pointer .type fileId true) r
      = (i, r') := hrequest
  rw [referenceType, StateT.run_bind, hrun]
  cases i <;> rfl

lemma gives_referenceType {pointer : String} (hpointer : s.pointer = some pointer) :
    Gives (referenceType pointer) fun r t => Typed conversions r s t := by
  intro r
  rw [run_referenceType]
  refine ⟨grows_request r pointer .type, fun r' hr' => ?_⟩
  cases hname : (r.request pointer .type fileId true).1.name? with
  | some name => exact .reference hpointer (hr' (Registry.status?_request hname))
  | none =>
    obtain ⟨name, hentry⟩ := Registry.exists_suppressed_of_request hname
    exact .withdrawn hpointer (hr' hentry)

/-! ### Types of schemas -/

mutual

/-- The type of a schema is given step by step. -/
theorem gives_typeOf (conversions : Conversions) (s : Schema) :
    Gives (typeOf conversions s) fun r t => Typed conversions r s t := by
  match s with
  | { pointer, shape, properties, required, additionalProperties, items, operator?, facets,
      constValue, documentation } =>
    have hitems := gives_typesOf conversions items
    rw [typeOf.eq_def]
    dsimp only
    split
    · exact gives_referenceType rfl
    · exact .pure fun _ => .constant rfl rfl
    split
    · refine (gives_elementType conversions items).bind fun t => .pure fun r ht => ?_
      split at ht
      · exact ht ▸ .noElement ⟨rfl, rfl⟩ rfl rfl
      · exact .array ⟨rfl, rfl⟩ rfl rfl ht
    · exact hitems.bind fun ts => .pure fun r h => .tuple ⟨rfl, rfl⟩ rfl h.1 h.2
    · exact hitems.bind fun ts => .pure fun r h => .enum ⟨rfl, rfl⟩ rfl h.1 h.2
    · refine (gives_propertyTypes conversions required properties).bind fun ps =>
        (gives_additionalType conversions additionalProperties).bind fun additional =>
          .pure fun r ⟨hsome, hadditional⟩ ⟨types, hlength, htypes, hps⟩ => ?_
      exact hps ▸ .object ⟨rfl, rfl⟩ rfl hlength htypes hsome hadditional
    · exact .pure fun _ => .string ⟨rfl, rfl⟩ rfl
    · exact .pure fun _ => .integer ⟨rfl, rfl⟩ rfl
    any_goals exact .pure fun _ => .keyword ⟨rfl, rfl⟩ (by decide)
    refine hitems.bind fun ts => ?_
    split
    · exact .pure fun _ _ => .keyword ⟨rfl, rfl⟩ (by decide)
    split
    · rename_i hoperator
      exact .pure fun r h => .all ⟨rfl, rfl⟩ rfl hoperator h.1 h.2
    · rename_i hoperator
      exact .pure fun r h => .any ⟨rfl, rfl⟩ rfl hoperator h.1 h.2

theorem gives_elementType (conversions : Conversions) (items : List Schema) :
    Gives (elementType conversions items) fun r t => match items with
      | [] => t = .keyword .unknown
      | element :: _ => Typed conversions r element t := by
  match items with
  | [] => exact .pure fun _ => rfl
  | s :: _ => exact gives_typeOf conversions s

theorem gives_typesOf (conversions : Conversions) (items : List Schema) :
    Gives (typesOf conversions items) fun r ts => ts.length = items.length
      ∧ ∀ x ∈ items.zip ts, Typed conversions r x.1 x.2 := by
  match items with
  | [] => exact .pure fun _ => ⟨rfl, by simp⟩
  | s :: rest =>
    rw [typesOf]
    refine (gives_typeOf conversions s).bind fun t =>
      (gives_typesOf conversions rest).bind fun ts => .pure fun r ⟨hlength, hrest⟩ ht => ?_
    exact ⟨congrArg (· + 1) hlength, List.forall_mem_cons.mpr ⟨ht, hrest⟩⟩

theorem gives_propertyTypes (conversions : Conversions) (required : List String)
    (properties : List (String × Schema)) :
    Gives (propertyTypes conversions required properties) fun r ps =>
      ∃ types : List TypeExpr, types.length = properties.length
        ∧ (∀ x ∈ properties.zip types, Typed conversions r x.1.2 x.2)
        ∧ ps = (properties.zip types).map fun x =>
          { name := x.1.1, optional := !required.contains x.1.1, type := x.2,
            comment := comment x.1.2 } := by
  match properties with
  | [] => exact .pure fun _ => ⟨[], rfl, by simp, rfl⟩
  | (name, s) :: rest =>
    rw [propertyTypes]
    refine (gives_typeOf conversions s).bind fun t =>
      (gives_propertyTypes conversions required rest).bind fun ps =>
        .pure fun r ⟨types, hlength, hrest, hps⟩ ht => ?_
    exact ⟨t :: types, congrArg (· + 1) hlength, List.forall_mem_cons.mpr ⟨ht, hrest⟩,
      by simp [hps]⟩

theorem gives_additionalType (conversions : Conversions) (additional : Option Schema) :
    Gives (additionalType conversions additional) fun r rest =>
      (rest.isSome → additional.isSome)
        ∧ ∀ s ∈ additional, ∀ t ∈ rest, Typed conversions r s t := by
  match additional with
  | none => exact .pure fun _ => ⟨id, by simp⟩
  | some s =>
    rw [additionalType]
    split
    · exact .pure fun _ => ⟨fun _ => rfl, by simp⟩
    · exact (gives_typeOf conversions s).bind fun t => .pure fun r ht => ⟨fun _ => rfl, by simpa⟩

end

/-! ### Steps that were taken -/

section

variable (conversions)

/-- A step that was taken gives the same result again, whatever names were given in between, and
gives no more names. -/
def Settles (x : StateM Registry α) : Prop := Gives x fun r a => x.run r = (a, r)

lemma Gives.imp {x : StateM Registry α} {result result' : Registry → α → Prop}
    (h : Gives x result) (himp : ∀ r a, result r a → result' r a) : Gives x result' :=
  fun r => ⟨(h r).1, fun r' hr' => himp r' _ ((h r).2 r' hr')⟩

namespace Settles

lemma pure (a : α) : Settles (Pure.pure a) := Gives.pure fun _ => rfl

lemma bind {x : StateM Registry α} {f : α → StateM Registry β} (hx : Settles x)
    (hf : ∀ a, Settles (f a)) : Settles (x >>= f) :=
  Gives.bind hx fun a => (hf a).imp fun r b hb hx => by
    rw [StateT.run_bind, hx]
    exact hb

end Settles

/-- The name of a reference stays what it is. -/
lemma settles_referenceType (pointer : String) : Settles (referenceType pointer) := by
  intro r
  rw [run_referenceType]
  refine ⟨grows_request r pointer .type, fun r' hr' => ?_⟩
  dsimp only at hr' ⊢
  rw [run_referenceType, Registry.request_eq]
  cases hname : (r.request pointer .type fileId true).1.name? with
  | some name =>
    rw [hr' (Registry.status?_request hname)]
    rfl
  | none =>
    obtain ⟨name, hentry⟩ := Registry.exists_suppressed_of_request hname
    rw [hr' hentry]
    rfl

mutual

/-- So does the type of a schema. -/
theorem settles_typeOf (s : Schema) : Settles (typeOf conversions s) := by
  match s with
  | { pointer, shape, properties, required, additionalProperties, items, operator?, facets,
      constValue, documentation } =>
    have hitems := settles_typesOf items
    rw [typeOf.eq_def]
    dsimp only
    split
    · exact settles_referenceType _
    · exact .pure _
    split
    · exact (settles_elementType items).bind fun _ => .pure _
    · exact hitems.bind fun _ => .pure _
    · exact hitems.bind fun _ => .pure _
    · exact (settles_propertyTypes required properties).bind fun _ =>
        (settles_additionalType additionalProperties).bind fun _ => .pure _
    any_goals exact .pure _
    refine hitems.bind fun ts => ?_
    split
    · exact .pure _
    split <;> exact .pure _

theorem settles_elementType (items : List Schema) :
    Settles (elementType conversions items) := by
  match items with
  | [] => exact .pure _
  | s :: _ => exact settles_typeOf s

theorem settles_typesOf (items : List Schema) : Settles (typesOf conversions items) := by
  match items with
  | [] => exact .pure _
  | s :: rest =>
    rw [typesOf]
    exact (settles_typeOf s).bind fun _ => (settles_typesOf rest).bind fun _ => .pure _

theorem settles_propertyTypes (required : List String) (properties : List (String × Schema)) :
    Settles (propertyTypes conversions required properties) := by
  match properties with
  | [] => exact .pure _
  | (name, s) :: rest =>
    rw [propertyTypes]
    exact (settles_typeOf s).bind fun _ =>
      (settles_propertyTypes required rest).bind fun _ => .pure _

theorem settles_additionalType (additional : Option Schema) :
    Settles (additionalType conversions additional) := by
  match additional with
  | none => exact .pure _
  | some s =>
    rw [additionalType]
    split
    · exact .pure _
    · exact (settles_typeOf s).bind fun _ => .pure _

end

/-! ### Types under a registry -/

/-- The type of a schema under the names of a registry. -/
def typeUnder (r : Registry) (s : Schema) : TypeExpr := ((typeOf conversions s).run r).1

/-- The member that a property becomes under the names of a registry. -/
def propertyUnder (r : Registry) (required : List String) (p : String × Schema) :
    Property TypeExpr :=
  { name := p.1, optional := !required.contains p.1, type := typeUnder conversions r p.2,
    comment := comment p.2 }

/-- The type of a schema is its type under the names that were given for it. -/
lemma gives_typeUnder (s : Schema) :
    Gives (typeOf conversions s) fun r t => t = typeUnder conversions r s :=
  (settles_typeOf conversions s).imp fun _ _ h => (congrArg Prod.fst h).symm

lemma gives_typesUnder (items : List Schema) :
    Gives (typesOf conversions items) fun r ts => ts = items.map (typeUnder conversions r) := by
  induction items with
  | nil => exact .pure fun _ => rfl
  | cons s rest ih =>
    rw [typesOf]
    refine (gives_typeUnder conversions s).bind fun t => ih.bind fun ts => .pure fun r hts ht => ?_
    rw [ht, hts, List.map_cons]

lemma gives_propertiesUnder (required : List String) (properties : List (String × Schema)) :
    Gives (propertyTypes conversions required properties) fun r ps =>
      ps = properties.map (propertyUnder conversions r required) := by
  induction properties with
  | nil => exact .pure fun _ => rfl
  | cons p rest ih =>
    obtain ⟨name, s⟩ := p
    rw [propertyTypes]
    refine (gives_typeUnder conversions s).bind fun t => ih.bind fun ps => .pure fun r hps ht => ?_
    rw [ht, hps, List.map_cons, propertyUnder]

lemma gives_additionalUnder (additional : Option Schema) :
    Gives (additionalType conversions additional) fun r rest =>
      rest = (additional.filter fun a => !a.hasShape .never).map (typeUnder conversions r) := by
  cases additional with
  | none => exact .pure fun _ => rfl
  | some s =>
    rw [additionalType]
    split
    · rename_i hnever
      exact .pure fun _ => by simp [Option.filter, hnever]
    · rename_i hnever
      refine (gives_typeUnder conversions s).bind fun t => .pure fun r ht => ?_
      simp [Option.filter, hnever, ht]

end

end OpenApiTypes.Types
