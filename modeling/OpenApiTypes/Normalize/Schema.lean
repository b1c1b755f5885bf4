/-
Schemas of a document turned into schemas of the model.

* `Normalize.Members`, `Normalize.assemble`: a schema put together from its converted members;
* `Normalize.Scope`: the tree in which references are followed, and the component names;
* `Normalize.Inlining`: the pointers outside the components that are being inlined, and those that
  may still be;
* `Normalize.position`: whatever stands where a schema is expected. A reference to a component
  stays one; what any other pointer leads to takes its place, unless it is being inlined already.
-/
import OpenApiTypes.Diagnostic
import OpenApiTypes.Normalize.Leaf
import OpenApiTypes.Reference
import OpenApiTypes.Spec.Document

namespace OpenApiTypes.Normalize

open OpenApiTypes.Model

/-! ### Schemas from converted members -/

/-- The converted members of a schema. Each is converted when it is asked for. -/
structure Members (m : Type → Type := Reported) where
  properties : Unit → m (List (String × Schema))
  additionalProperties : Unit → m (Option Schema)
  items : Unit → m (Option Schema)
  prefixItems : Unit → m (List Schema)
  allOf : Unit → m (List Schema)
  oneOf : Unit → m (List Schema)
  anyOf : Unit → m (List Schema)

section

variable {m : Type → Type} [Monad m] [Warns m]

/-- An object schema. Without properties and without a word on others, any are allowed. -/
def object (s : Spec.Schema) (members : Members m) : m Schema := do
  let properties ← members.properties ()
  let additional ← members.additionalProperties ()
  let open_ := if s.properties.isEmpty then some (Schema.ofShape .unknown) else none
  return {
    shape := some .object
    properties
    required := s.required
    additionalProperties := override additional open_ }

/-- An array schema, or a tuple schema if items are given one by one. -/
def array (s : Spec.Schema) (members : Members m) : m Schema := do
  let plain ← if s.prefixItems.isEmpty then do
      let item ← members.items ()
      pure ((Schema.ofShape .array).setItems [item.getD (Schema.ofShape .unknown)] .or)
    else do
      let items ← members.prefixItems ()
      pure ((Schema.ofShape .tuple).setItems items .and)
  return { plain with
    facets := { plain.facets with
      minItems := s.bounds.minItems, maxItems := s.bounds.maxItems } }

/-- The schema of one kind. -/
def ofKind (s : Spec.Schema) (location : String) (members : Members m) :
    Spec.Kind → m Schema
  | .string => pure (constrain .string s)
  | .number => pure (constrain .number s)
  | .integer => pure (constrain .integer s)
  | .boolean => pure (constrain .boolean s)
  | .null => pure (Schema.ofShape .null)
  | .array => array s members
  | .object => object s members
  | .unknown => Warns.fallback (Schema.ofShape .unknown) location
      "unrecognized `type`; schema treated as unknown"

/-- The schema of the declared types, or of what the other members suggest. -/
def typed (s : Spec.Schema) (location : String) (members : Members m) : m Schema :=
  match s.types with
  | some (.single kind) => ofKind s location members kind
  | some (.several kinds) => do
    let items ← kinds.mapM (ofKind s location members)
    return Schema.composed items .or
  | none =>
    if !s.properties.isEmpty || s.additionalProperties.isSome then object s members
    else if s.items.isSome || !s.prefixItems.isEmpty then array s members
    else pure (Schema.ofShape .unknown)

/-- The object of the properties that stand beside a composition, if there are any. -/
def ownStructure (s : Spec.Schema) (members : Members m) : m (List Schema) :=
  if s.properties.isEmpty then pure []
  else do return [← object s members]

/-- The schema without its annotations. A constant comes before an enumeration, that before a
conjunction, that before a union, and that before the types. -/
def body (s : Spec.Schema) (location : String) (members : Members m) : m Schema :=
  match s.constValue with
  | some v => pure (constant v)
  | none =>
    if !s.enumValues.isEmpty then pure (enumeration s.enumValues)
    else if !s.allOf.isEmpty then do
      let items ← members.allOf ()
      let own ← ownStructure s members
      return Schema.composed (items ++ own) .and
    else if !s.oneOf.isEmpty || !s.anyOf.isEmpty then do
      let variants ← if s.oneOf.isEmpty then members.anyOf () else members.oneOf ()
      let union := Schema.composed variants .or
      let own ← ownStructure s members
      return Schema.composed (union :: own) .and
    else typed s location members

/-- A schema from its converted members. -/
def assemble (s : Spec.Schema) (location : String) (members : Members m) : m Schema := do
  let plain ← body s location members
  let documented := document s.annotations plain
  return if s.nullable then documented.orNull else documented

end

/-! ### References -/

/-- What conversions look things up in. -/
structure Scope where
  /-- The tree in which references are followed. -/
  tree : Json
  /-- The names of the component schemas. -/
  components : List String
  /-- Every pointer of the tree. -/
  pointers : List String

/-- What the conversions of a document look things up in. -/
def Scope.ofSource (source : Spec.Source) : Scope :=
  { tree := source.tree
    components := (source.document.components.getD {}).schemas.keys
    pointers := Reference.allPointers source.tree }

/-- The pointers outside the components on the way to the schema being converted. -/
structure Inlining where
  /-- Those being inlined, the innermost first. -/
  stack : List String
  /-- Those that may still be inlined. -/
  remaining : List String

/-- At the beginning nothing is being inlined, and every pointer of the tree may be. -/
def Inlining.initial (scope : Scope) : Inlining := ⟨[], scope.pointers⟩

/-- Begins to inline what a pointer leads to. -/
def Inlining.enter (inlining : Inlining) (pointer : String) : Inlining :=
  ⟨pointer :: inlining.stack, Reference.without pointer inlining.remaining⟩

/-- What a pointer leads to, read as what stands where a schema is expected. -/
def target (scope : Scope) (pointer : String) :
    Except ReferenceError (Spec.Position Spec.Schema) := do
  match Spec.Position.ofJson? (← Reference.resolve scope.tree pointer) with
  | some p => .ok p
  | none => .error (.mismatch pointer)

/-! ### Schemas -/

theorem sizeOf_properties_lt (s : Spec.Schema) : sizeOf s.properties < sizeOf s := by
  cases s; simp; omega

theorem sizeOf_additionalProperties_lt (s : Spec.Schema) :
    sizeOf s.additionalProperties < sizeOf s := by
  cases s; simp; omega

theorem sizeOf_items_lt (s : Spec.Schema) : sizeOf s.items < sizeOf s := by
  cases s; simp; omega

theorem sizeOf_prefixItems_lt (s : Spec.Schema) : sizeOf s.prefixItems < sizeOf s := by
  cases s; simp; omega

theorem sizeOf_allOf_lt (s : Spec.Schema) : sizeOf s.allOf < sizeOf s := by
  cases s; simp; omega

theorem sizeOf_oneOf_lt (s : Spec.Schema) : sizeOf s.oneOf < sizeOf s := by
  cases s; simp; omega

theorem sizeOf_anyOf_lt (s : Spec.Schema) : sizeOf s.anyOf < sizeOf s := by
  cases s; simp; omega

mutual

/-- Whatever stands where a schema is expected. -/
def position (scope : Scope) (inlining : Inlining) (p : Spec.Position Spec.Schema)
    (location : String) : Reported Schema :=
  match p with
  | .bool true => pure (Schema.ofShape .unknown)
  | .bool false => pure (Schema.ofShape .never)
  | .ref pointer =>
    match Pointer.schemaName? pointer with
    | some name =>
      if scope.components.contains name then pure (Schema.reference (Pointer.schema name))
      else .fallback (Schema.ofShape .unknown) location
        ("unresolved schema reference " ++ pointer)
    | none =>
      if _ : pointer ∈ inlining.remaining then
        match target scope pointer with
        | .ok next => position scope (inlining.enter pointer) next pointer
        | .error e => .fallback (Schema.ofShape .unknown) location e.message
      else .fallback (Schema.ofShape .unknown) location
        ("circular reference " ++ pointer ++ " outside components")
  | .inline s =>
    assemble s location {
      properties := fun _ => properties scope inlining s.properties (location ++ "/properties/")
      additionalProperties := fun _ =>
        optional scope inlining s.additionalProperties (location ++ "/additionalProperties")
      items := fun _ => optional scope inlining s.items (location ++ "/items")
      prefixItems := fun _ => positions scope inlining s.prefixItems (location ++ "/prefixItems/") 0
      allOf := fun _ => positions scope inlining s.allOf (location ++ "/allOf/") 0
      oneOf := fun _ => positions scope inlining s.oneOf (location ++ "/oneOf/") 0
      anyOf := fun _ => positions scope inlining s.anyOf (location ++ "/anyOf/") 0 }
termination_by (inlining.remaining.length, sizeOf p)
decreasing_by
  · exact Prod.Lex.left _ _ (Reference.length_without_lt ‹_›)
  all_goals
    refine Prod.Lex.right _ ?_
    simp only [Spec.Position.inline.sizeOf_spec]
  · have := sizeOf_properties_lt s; omega
  · have := sizeOf_additionalProperties_lt s; omega
  · have := sizeOf_items_lt s; omega
  · have := sizeOf_prefixItems_lt s; omega
  · have := sizeOf_allOf_lt s; omega
  · have := sizeOf_oneOf_lt s; omega
  · have := sizeOf_anyOf_lt s; omega

/-- A list of schemas, located by their numbers from `index` on. -/
def positions (scope : Scope) (inlining : Inlining) (ps : List (Spec.Position Spec.Schema))
    (location : String) (index : Nat) : Reported (List Schema) :=
  match ps with
  | [] => pure []
  | p :: rest => do
    let s ← position scope inlining p (location ++ toString index)
    return s :: (← positions scope inlining rest location (index + 1))
termination_by (inlining.remaining.length, sizeOf ps)

/-- Schemas under names, located by their names. -/
def properties (scope : Scope) (inlining : Inlining)
    (ps : List (String × Spec.Position Spec.Schema)) (location : String) :
    Reported (List (String × Schema)) :=
  match ps with
  | [] => pure []
  | (name, p) :: rest => do
    let s ← position scope inlining p (location ++ Pointer.escape name)
    return (name, s) :: (← properties scope inlining rest location)
termination_by (inlining.remaining.length, sizeOf ps)

/-- A schema that may be missing. -/
def optional (scope : Scope) (inlining : Inlining) (p : Option (Spec.Position Spec.Schema))
    (location : String) : Reported (Option Schema) :=
  match p with
  | none => pure none
  | some p => do return some (← position scope inlining p location)
termination_by (inlining.remaining.length, sizeOf p)

end

end OpenApiTypes.Normalize
