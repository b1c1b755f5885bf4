/-
Conversion with nothing but a stack against circular references.

* `Normalize.Memory`, `Normalize.Tracked`: the pointers being inlined, the stacks of them there have
  been, and the warnings;
* `Normalize.convert`: the conversion that asks only whether a pointer is on the stack. It may go on
  for ever, so it is given a bound on its depth;
* `Normalize.Settles`: within some bound it ends with a certain result, the stack is as it was, and
  no stack on the way held a pointer twice;
* `Normalize.settles_assemble`: so does a schema if its members do;
* `Normalize.settles_convert`: whatever stands in a document where a schema is expected does,
  wherever its references point, and the result is the one of `Normalize.position`.
-/
import OpenApiTypes.Proofs.Normalize.Built
import OpenApiTypes.Proofs.Spec.Mentions
import OpenApiTypes.Proofs.Spec.Source

namespace OpenApiTypes.Normalize

open OpenApiTypes.Model

variable {α β : Type}

/-! ### The conversion -/

/-- What a conversion remembers. -/
structure Memory where
  /-- The pointers being inlined, the innermost first. -/
  stack : List String
  /-- The stacks there have been since, in order. -/
  history : List (List String)
  diagnostics : List Diagnostic

/-- Conversions that remember something and may not end. -/
abbrev Tracked := StateT Memory Option

instance : Warns Tracked where
  fallback value location message := fun σ =>
    some (value, { σ with diagnostics := σ.diagnostics ++ [⟨location, message⟩] })

/-- The pointers being inlined. -/
def inlined : Tracked (List String) := do return (← get).stack

/-- Puts a stack in the place of another. -/
def restack (stack : List String) : Tracked Unit :=
  modify fun σ => { σ with stack, history := σ.history ++ [stack] }

/-- Begins to inline what a pointer leads to. -/
def push (pointer : String) : Tracked Unit := do restack (pointer :: (← inlined))

/-- Ends what was begun last. -/
def pop : Tracked Unit := do restack (← inlined).tail

section

variable {m : Type → Type} [Monad m]
  (convert : Spec.Position Spec.Schema → String → m Schema) (location : String)

/-- A list of schemas, located by their numbers from `index` on. -/
def convertItems (index : Nat) : List (Spec.Position Spec.Schema) → m (List Schema)
  | [] => pure []
  | p :: rest => do
    let s ← convert p (location ++ toString index)
    return s :: (← convertItems (index + 1) rest)

/-- Schemas under names, located by their names. -/
def convertProperties :
    List (String × Spec.Position Spec.Schema) → m (List (String × Schema))
  | [] => pure []
  | (name, p) :: rest => do
    let s ← convert p (location ++ Pointer.escape name)
    return (name, s) :: (← convertProperties rest)

/-- A schema that may be missing. -/
def convertOptional : Option (Spec.Position Spec.Schema) → m (Option Schema)
  | none => pure none
  | some p => do return some (← convert p location)

/-- The members of a schema, each converted when it is asked for. -/
def convertMembers (s : Spec.Schema) : Members m where
  properties := fun _ => convertProperties convert (location ++ "/properties/") s.properties
  additionalProperties := fun _ =>
    convertOptional convert (location ++ "/additionalProperties") s.additionalProperties
  items := fun _ => convertOptional convert (location ++ "/items") s.items
  prefixItems := fun _ => convertItems convert (location ++ "/prefixItems/") 0 s.prefixItems
  allOf := fun _ => convertItems convert (location ++ "/allOf/") 0 s.allOf
  oneOf := fun _ => convertItems convert (location ++ "/oneOf/") 0 s.oneOf
  anyOf := fun _ => convertItems convert (location ++ "/anyOf/") 0 s.anyOf

end

/-- Whatever stands where a schema is expected, no deeper than a bound. A pointer outside the
components is on the stack while what it leads to is converted, and is not followed again then. -/
def convert (scope : Scope) : Nat → Spec.Position Spec.Schema → String → Tracked Schema
  | 0, _, _ => failure
  | _ + 1, .bool true, _ => pure (Schema.ofShape .unknown)
  | _ + 1, .bool false, _ => pure (Schema.ofShape .never)
  | depth + 1, .ref pointer, location =>
    match Pointer.schemaName? pointer with
    | some name =>
      if scope.components.contains name then pure (Schema.reference (Pointer.schema name))
      else Warns.fallback (Schema.ofShape .unknown) location
        ("unresolved schema reference " ++ pointer)
    | none => do
      if pointer ∈ (← inlined) then
        Warns.fallback (Schema.ofShape .unknown) location
          ("circular reference " ++ pointer ++ " outside components")
      else match target scope pointer with
        | .ok next => do
          push pointer
          let s ← convert scope depth next pointer
          pop
          return s
        | .error e => Warns.fallback (Schema.ofShape .unknown) location e.message
  | depth + 1, .inline s, location =>
    assemble s location (convertMembers (convert scope depth) location s)

/-! ### Conversions that end -/

/-- Within some bound a conversion ends with a certain result, whatever happened before. The stack
is as it was, and no stack on the way holds a pointer twice. -/
def Settles (stack : List String) (x : Nat → Tracked α) (r : Reported α) : Prop :=
  ∃ bound seen, (∀ s ∈ seen, s.Nodup) ∧ ∀ depth ≥ bound, ∀ history diagnostics,
    x depth ⟨stack, history, diagnostics⟩
      = some (r.value, ⟨stack, history ++ seen, diagnostics ++ r.diagnostics⟩)

namespace Settles

variable {stack : List String} {x : Nat → Tracked α} {r : Reported α}

lemma pure (a : α) : Settles stack (fun _ => Pure.pure a) (Pure.pure a) :=
  ⟨0, [], by simp, fun _ _ history diagnostics => by simp; rfl⟩

lemma fallback (a : α) (location message : String) :
    Settles stack (fun _ => Warns.fallback a location message)
      (Warns.fallback a location message) :=
  ⟨0, [], by simp, fun _ _ history diagnostics => by simp; rfl⟩

lemma bind {f : Nat → α → Tracked β} {g : α → Reported β} (h : Settles stack x r)
    (hf : Settles stack (fun n => f n r.value) (g r.value)) :
    Settles stack (fun n => x n >>= f n) (r >>= g) := by
  obtain ⟨bound, seen, hseen, hx⟩ := h
  obtain ⟨bound', seen', hseen', hf⟩ := hf
  refine ⟨max bound bound', seen ++ seen', fun s hs => ?_, fun n hn history diagnostics => ?_⟩
  · rcases List.mem_append.mp hs with hs | hs
    · exact hseen s hs
    · exact hseen' s hs
  · have hfirst := hx n (Nat.le_trans (Nat.le_max_left _ _) hn) history diagnostics
    have hsecond : f n r.value ⟨stack, history ++ seen, diagnostics ++ r.diagnostics⟩ = _ :=
      hf n (Nat.le_trans (Nat.le_max_right _ _) hn) _ _
    calc (x n >>= f n) ⟨stack, history, diagnostics⟩
        = (x n ⟨stack, history, diagnostics⟩).bind fun a => f n a.1 a.2 := rfl
      _ = f n r.value ⟨stack, history ++ seen, diagnostics ++ r.diagnostics⟩ := by
        rw [hfirst]; rfl
      _ = _ := by rw [hsecond, List.append_assoc, List.append_assoc]; rfl

/-- What depends on the stack depends on the one there is. -/
lemma inlined {f : Nat → List String → Tracked α} (h : Settles stack (fun n => f n stack) r) :
    Settles stack (fun n => Normalize.inlined >>= f n) r := h

lemma ite {c : Prop} [Decidable c] {y : Nat → Tracked α} {r' : Reported α}
    (hx : c → Settles stack x r) (hy : ¬ c → Settles stack y r') :
    Settles stack (fun n => if c then x n else y n) (if c then r else r') := by
  by_cases hc : c
  · simp only [if_pos hc]
    exact hx hc
  · simp only [if_neg hc]
    exact hy hc

/-- One level more is only a larger bound. -/
lemma of_succ (h : Settles stack (fun n => x (n + 1)) r) : Settles stack x r := by
  obtain ⟨bound, seen, hseen, hx⟩ := h
  refine ⟨bound + 1, seen, hseen, fun n hn => ?_⟩
  obtain ⟨n, rfl⟩ := Nat.exists_eq_add_of_le' (Nat.le_of_add_left_le hn)
  exact hx n (by omega)

lemma mapM {l : List α} {f : Nat → α → Tracked β} {g : α → Reported β}
    (h : ∀ a ∈ l, Settles stack (fun n => f n a) (g a)) :
    Settles stack (fun n => l.mapM (f n)) (l.mapM g) := by
  induction l with
  | nil => exact .pure []
  | cons a l ih =>
    simp only [List.mapM_cons]
    have hhead := h a List.mem_cons_self
    have htail := ih fun b hb => h b (List.mem_cons_of_mem _ hb)
    exact hhead.bind (htail.bind (.pure _))

end Settles

/-! ### Schemas from converted members -/

/-- All members of a schema settle. -/
structure Members.Settle (stack : List String) (x : Nat → Members Tracked) (r : Members) :
    Prop where
  properties : Settles stack (fun n => (x n).properties ()) (r.properties ())
  additionalProperties : Settles stack (fun n => (x n).additionalProperties ())
    (r.additionalProperties ())
  items : Settles stack (fun n => (x n).items ()) (r.items ())
  prefixItems : Settles stack (fun n => (x n).prefixItems ()) (r.prefixItems ())
  allOf : Settles stack (fun n => (x n).allOf ()) (r.allOf ())
  oneOf : Settles stack (fun n => (x n).oneOf ()) (r.oneOf ())
  anyOf : Settles stack (fun n => (x n).anyOf ()) (r.anyOf ())

section

variable {stack : List String} {x : Nat → Members Tracked} {r : Members}
  (h : Members.Settle stack x r) (s : Spec.Schema) (location : String)

include h

lemma settles_object : Settles stack (fun n => object s (x n)) (object s r) :=
  h.properties.bind (h.additionalProperties.bind (.pure _))

lemma settles_array : Settles stack (fun n => array s (x n)) (array s r) := by
  refine .ite (fun _ => ?_) fun _ => ?_
  · exact h.items.bind ((Settles.pure _).bind (.pure _))
  · exact h.prefixItems.bind ((Settles.pure _).bind (.pure _))

lemma settles_ofKind (kind : Spec.Kind) :
    Settles stack (fun n => ofKind s location (x n) kind) (ofKind s location r kind) := by
  cases kind with
  | array => exact settles_array h s
  | object => exact settles_object h s
  | unknown => exact .fallback _ _ _
  | string | number | integer | boolean | null => exact .pure _

lemma settles_typed : Settles stack (fun n => typed s location (x n)) (typed s location r) := by
  simp only [typed]
  cases s.types with
  | some types =>
    cases types with
    | single kind => exact settles_ofKind h s location kind
    | several kinds =>
      have hkinds := Settles.mapM fun kind (_ : kind ∈ kinds) => settles_ofKind h s location kind
      exact hkinds.bind (.pure _)
  | none =>
    refine .ite (fun hobject => settles_object h s) fun hobject => ?_
    exact .ite (fun harray => settles_array h s) fun harray => .pure _

lemma settles_ownStructure :
    Settles stack (fun n => ownStructure s (x n)) (ownStructure s r) := by
  refine .ite (fun _ => .pure _) fun _ => ?_
  exact (settles_object h s).bind (.pure _)

lemma settles_body : Settles stack (fun n => body s location (x n)) (body s location r) := by
  simp only [body]
  cases s.constValue with
  | some v => exact .pure _
  | none =>
    have hown := settles_ownStructure h s
    refine .ite (fun henum => .pure _) fun henum => ?_
    refine .ite (fun hallOf => h.allOf.bind (hown.bind (.pure _))) fun hallOf => ?_
    refine .ite (fun hunion => ?_) fun hunion => settles_typed h s location
    refine .ite (fun honeOf => ?_) fun honeOf => ?_
    · exact h.anyOf.bind (hown.bind (.pure _))
    · exact h.oneOf.bind (hown.bind (.pure _))

/-- A schema settles if its members do. -/
lemma settles_assemble :
    Settles stack (fun n => assemble s location (x n)) (assemble s location r) :=
  (settles_body h s location).bind (.pure _)

end

section

variable {scope : Scope} {inlining : Inlining} {stack : List String}
  {x : Nat → Spec.Position Spec.Schema → String → Tracked Schema}

lemma settles_items {ps : List (Spec.Position Spec.Schema)}
    (h : ∀ p ∈ ps, ∀ location, Settles stack (fun n => x n p location)
      (position scope inlining p location)) (location : String) (index : Nat) :
    Settles stack (fun n => convertItems (x n) location index ps)
      (positions scope inlining ps location index) := by
  induction ps generalizing index with
  | nil =>
    rw [positions]
    exact .pure []
  | cons p ps ih =>
    rw [positions]
    have hhead := h p List.mem_cons_self (location ++ toString index)
    have htail := ih (fun q hq => h q (List.mem_cons_of_mem _ hq)) (index + 1)
    exact hhead.bind (htail.bind (.pure _))

lemma settles_properties {ps : List (String × Spec.Position Spec.Schema)}
    (h : ∀ q ∈ ps, ∀ location, Settles stack (fun n => x n q.2 location)
      (position scope inlining q.2 location)) (location : String) :
    Settles stack (fun n => convertProperties (x n) location ps)
      (properties scope inlining ps location) := by
  induction ps with
  | nil =>
    rw [properties]
    exact .pure []
  | cons q ps ih =>
    obtain ⟨name, p⟩ := q
    rw [properties]
    have hhead := h (name, p) List.mem_cons_self (location ++ Pointer.escape name)
    have htail := ih fun q hq => h q (List.mem_cons_of_mem _ hq)
    exact hhead.bind (htail.bind (.pure _))

lemma settles_optional {p : Option (Spec.Position Spec.Schema)}
    (h : ∀ q ∈ p, ∀ location, Settles stack (fun n => x n q location)
      (position scope inlining q location)) (location : String) :
    Settles stack (fun n => convertOptional (x n) location p)
      (optional scope inlining p location) := by
  cases p with
  | none =>
    rw [optional]
    exact .pure none
  | some p =>
    rw [optional]
    exact (h p rfl location).bind (.pure _)

end

/-! ### References -/

/-- The pointers that may still be inlined are those of the tree that are not being inlined, and
none is being inlined twice. -/
structure Inlining.Sound (scope : Scope) (inlining : Inlining) : Prop where
  nodup : inlining.stack.Nodup
  mem_remaining : ∀ p, p ∈ inlining.remaining ↔ p ∈ scope.pointers ∧ p ∉ inlining.stack

lemma Inlining.sound_initial (scope : Scope) : (Inlining.initial scope).Sound scope :=
  ⟨List.nodup_nil, fun p => by simp [initial]⟩

lemma Inlining.Sound.enter {scope : Scope} {inlining : Inlining} (h : inlining.Sound scope)
    {pointer : String} (hpointer : pointer ∉ inlining.stack) :
    (inlining.enter pointer).Sound scope := by
  refine ⟨List.nodup_cons.mpr ⟨hpointer, h.nodup⟩, fun p => ?_⟩
  calc p ∈ (inlining.enter pointer).remaining
      ↔ (p ∈ scope.pointers ∧ p ∉ inlining.stack) ∧ p ≠ pointer := by
        rw [Inlining.enter, Reference.mem_without, h.mem_remaining]
    _ ↔ p ∈ scope.pointers ∧ p ∉ (inlining.enter pointer).stack := by
        rw [Inlining.enter, List.mem_cons]
        tauto

/-- The inlining of certain pointers, the innermost first. -/
def Inlining.along (scope : Scope) (stack : List String) : Inlining :=
  stack.foldr (fun pointer inlining => inlining.enter pointer) (.initial scope)

@[simp] lemma Inlining.stack_along (scope : Scope) (stack : List String) :
    (Inlining.along scope stack).stack = stack := by
  induction stack with
  | nil => rfl
  | cons pointer stack ih => exact congrArg (pointer :: ·) ih

lemma Inlining.sound_along (scope : Scope) {stack : List String} (h : stack.Nodup) :
    (Inlining.along scope stack).Sound scope := by
  induction stack with
  | nil => exact sound_initial scope
  | cons pointer stack ih =>
    obtain ⟨hpointer, hstack⟩ := List.nodup_cons.mp h
    refine (ih hstack).enter ?_
    rwa [stack_along]

/-! ### Whatever stands where a schema is expected -/

/-- What a pointer leads to refers to pointers of the scope only. -/
def Scope.Closed (scope : Scope) : Prop :=
  ∀ pointer next, target scope pointer = .ok next → next.RefersWithin scope.pointers

lemma Scope.closed_ofSource (source : Spec.Source) : (Scope.ofSource source).Closed := by
  intro pointer next h
  rw [target] at h
  cases hnode : Reference.resolve (ofSource source).tree pointer with
  | error e => simp [hnode, bind, Except.bind] at h
  | ok node =>
    have hnode' := Reference.allPointers_subset_of_resolve hnode
    cases hread : Spec.Position.ofJson? node with
    | none => simp [hnode, hread, bind, Except.bind] at h
    | some p =>
      obtain rfl : p = next := by simpa [hnode, hread, bind, Except.bind] using h
      exact Spec.Position.refersWithin_of_ofJson? node hnode' hread

/-- The pointer of a reference is on the stack while what it leads to is converted. -/
lemma settles_inlined {stack : List String} {pointer : String}
    (hstack : (pointer :: stack).Nodup) {x : Nat → Tracked Schema} {r : Reported Schema}
    (h : Settles (pointer :: stack) x r) :
    Settles stack (fun n => do push pointer; let s ← x n; pop; return s) r := by
  obtain ⟨bound, seen, hseen, hx⟩ := h
  refine ⟨bound, [pointer :: stack] ++ seen ++ [stack], ?_, fun n hn history diagnostics => ?_⟩
  · intro s hs
    rcases List.mem_append.mp hs with hs | hs
    · rcases List.mem_cons.mp hs with rfl | hs
      · exact hstack
      · exact hseen s hs
    · obtain rfl := List.mem_singleton.mp hs
      exact (List.nodup_cons.mp hstack).2
  · have hinner := hx n hn (history ++ [pointer :: stack]) diagnostics
    calc (do push pointer; let s ← x n; pop; return s) ⟨stack, history, diagnostics⟩
        = (x n ⟨pointer :: stack, history ++ [pointer :: stack], diagnostics⟩).bind fun a =>
            (do pop; return a.1) a.2 := rfl
      _ = some (r.value, ⟨stack, history ++ [pointer :: stack] ++ seen ++ [stack],
            diagnostics ++ r.diagnostics⟩) := by rw [hinner]; rfl
      _ = _ := by simp only [List.append_assoc]

/-- Whatever is found where a schema is expected settles, and what it settles to is what
`Normalize.position` reports. The outer induction is on the pointers that may still be inlined, the
inner one on the schema. -/
theorem settles_position {scope : Scope} (hscope : scope.Closed) {inlining : Inlining}
    (hinlining : inlining.Sound scope) {p : Spec.Position Spec.Schema}
    (hp : p.RefersWithin scope.pointers) (location : String) :
    Settles inlining.stack (fun n => convert scope n p location)
      (position scope inlining p location) := by
  induction hremaining : inlining.remaining.length using Nat.strongRecOn generalizing
    inlining p location with
  | _ remaining ih =>
  induction hp generalizing location with
  | bool b =>
    rw [position.eq_def]
    cases b with
    | true => exact .of_succ (.pure _)
    | false => exact .of_succ (.pure _)
  | @ref pointer hpointer =>
    refine .of_succ ?_
    rw [position]
    simp only [convert]
    cases Pointer.schemaName? pointer with
    | some name =>
      exact .ite (fun _ => .pure _) fun _ => .fallback _ _ _
    | none =>
      dsimp only
      by_cases hmem : pointer ∈ inlining.stack
      · have hvisited : pointer ∉ inlining.remaining := fun h =>
          ((hinlining.mem_remaining pointer).mp h).2 hmem
        -- What is on the stack is what may no longer be inlined, so both stop here.
        rw [dif_neg hvisited]
        refine .inlined ?_
        simp only [if_pos hmem]
        exact .fallback _ _ _
      · have hfresh : pointer ∈ inlining.remaining :=
          (hinlining.mem_remaining pointer).mpr ⟨hpointer, hmem⟩
        rw [dif_pos hfresh]
        refine .inlined ?_
        simp only [if_neg hmem]
        cases htarget : target scope pointer with
        | error e => exact .fallback _ _ _
        | ok next =>
          -- What it leads to may be any part of the document, but one pointer less may be inlined.
          have henter := hinlining.enter hmem
          have hnext := ih _ (hremaining ▸ Reference.length_without_lt hfresh) henter
            (hscope pointer next htarget) pointer rfl
          exact settles_inlined henter.nodup hnext
  | inline _ _ _ _ _ _ _ hproperties hadditional hitems hprefixItems hallOf honeOf hanyOf =>
    refine .of_succ ?_
    rw [position_inline]
    exact settles_assemble {
      properties := settles_properties hproperties _
      additionalProperties := settles_optional hadditional _
      items := settles_optional hitems _
      prefixItems := settles_items hprefixItems _ 0
      allOf := settles_items hallOf _ 0
      oneOf := settles_items honeOf _ 0
      anyOf := settles_items hanyOf _ 0 } _ location

/-- Conversion ends on every document, wherever its references point. Whatever stands anywhere in it
where a schema is expected settles, whichever pointers are being inlined at the time, and what it
settles to is what `Normalize.position` reports. -/
theorem settles_convert (source : Spec.Source) {v : Json} (hv : v.Within source.tree)
    {p : Spec.Position Spec.Schema} (hp : Spec.Position.ofJson? v = some p) {stack : List String}
    (hstack : stack.Nodup) (location : String) :
    Settles stack (fun depth => convert (.ofSource source) depth p location)
      (position (.ofSource source) (.along (.ofSource source) stack) p location) := by
  have hsound := Inlining.sound_along (.ofSource source) hstack
  have hrefers : p.RefersWithin (Scope.ofSource source).pointers :=
    Spec.Position.refersWithin_of_ofJson? v (Reference.allPointers_subset_of_within hv) hp
  have hsettles := settles_position (Scope.closed_ofSource source) hsound hrefers location
  rwa [Inlining.stack_along] at hsettles

/-- An object with a part that refers to itself, and one that refers to the first in another
spelling. -/
def circularNode : Json := .obj [("properties", .obj [
  ("left", .obj [("$ref", .str "#/components/schemas/Tree/properties/left")]),
  ("right", .obj [("$ref", .str "#/components/schemas/Tree/properties/%6Ceft")])])]

/-- What is read from it. -/
def circularPosition : Spec.Position Spec.Schema := .inline { properties := [
  ("left", .ref "#/components/schemas/Tree/properties/left"),
  ("right", .ref "#/components/schemas/Tree/properties/%6Ceft")] }

/-- A document with this object as its component. -/
def circularParts : Spec.Source := .ofSchemas [("Tree", circularNode)] [("Tree", circularPosition)]

theorem settles_convert_circularParts :
    circularNode.Within circularParts.tree
      ∧ Spec.Position.ofJson? circularNode = some circularPosition ∧ ([] : List String).Nodup
      ∧ Settles [] (fun depth => convert (.ofSource circularParts) depth circularPosition "")
        (position (.ofSource circularParts) (.initial (.ofSource circularParts)) circularPosition
          "") := by
  have hwithin : circularNode.Within circularParts.tree :=
    .member (m := ("components", _)) (.tail _ (.tail _ (.head _))) <|
      .member (m := ("schemas", _)) (.head _) (.member (m := ("Tree", _)) (.head _) .self)
  have hread : Spec.Position.ofJson? circularNode = some circularPosition := by
    simp [circularNode, circularPosition, Spec.Position.ofJson?, Spec.Schema.ofMembers?,
      Entries.get?, List.lookup_cons, Spec.Position.entries?, Spec.Position.entriesOfMembers?]
  exact ⟨hwithin, hread, List.nodup_nil,
    settles_convert circularParts hwithin hread List.nodup_nil ""⟩

end OpenApiTypes.Normalize
