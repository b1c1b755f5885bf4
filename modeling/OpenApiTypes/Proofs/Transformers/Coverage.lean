/-
What types promise of responses, and what transformers make of it.

* `Transformers.RestoredAt`: what a value of a type is restored to at a path;
* `Transformers.restored_of_session`: where the type of a response has dates or long integers, the
  transformer of the operation makes them, if statements lead to every leaf that the type promises;
* `Transformers.leafAt_of_promisedAt`: they do if schemas have no tuples, no members without a
  property and no unions but those with null.
-/
import OpenApiTypes.Proofs.Transformers.Failures
import OpenApiTypes.Proofs.Transformers.Order
import OpenApiTypes.Proofs.Transformers.Safety
import OpenApiTypes.Proofs.Types.Closed
import OpenApiTypes.Proofs.Types.Promises

namespace OpenApiTypes.Transformers

open OpenApiTypes.Generation (Pipeline Session)
open OpenApiTypes.Model
open OpenApiTypes.TypeScript
open OpenApiTypes.Config (TransformersOptions)
open OpenApiTypes.Types (ArrivesAs Conversions PromisedAt)

variable {options : TransformersOptions} {numberText : Number → String} {api : Api}
  {catalog : Catalog} {σ : Session} {op : Operation} {s l : Schema} {u : TypeExpr} {v : Json}
  {w : Tree} {path : List Step} {n : Nat}

/-! ### Conversions -/

/-- What arrives as an object of its own if transformers are run. -/
def conversionsFor (options : TransformersOptions) : Conversions :=
  { dates := options.dates, bigint := options.bigint }

/-- Types are made for the transformers that a configuration has. -/
lemma conversionsOf_eq {config : Config} {pipeline : Pipeline}
    (hp : Pipeline.ofConfig config = .ok pipeline)
    (hmem : .transformers options ∈ config.generators) :
    Types.conversionsOf config = conversionsFor options := by
  obtain ⟨o, rfl⟩ := Generation.eq_of_ofConfig_of_mem hp hmem
  have hfound : (config.generator? .transformers).isSome :=
    List.find?_isSome.mpr ⟨_, hmem, by simp [Config.Generator.kind]⟩
  obtain ⟨g, hg⟩ := Option.isSome_iff_exists.mp hfound
  have hkind : g.kind = .transformers := by simpa using List.find?_some hg
  have hpipeline : g ∈ [.types o, .transformers options] :=
    Generation.mem_of_ofConfig hp (List.mem_of_find?_eq_some hg)
  obtain rfl : g = .transformers options := by
    rcases List.mem_cons.mp hpipeline with rfl | hpipeline
    · simp [Config.Generator.kind] at hkind
    · exact List.mem_singleton.mp hpipeline
  simp [Types.conversionsOf, hg, conversionsFor]

/-- What the value of a type is restored to at a path. -/
structure RestoredAt (numberText : Number → String) (u : TypeExpr) (path : List Step) (v : Json)
    (w : Tree) : Prop where
  date : u = named "Date" → ∀ text, (Tree.ofJson v).at? path = some (.scalar (.string text)) →
    w.at? path = some (.scalar (.date text))
  bigint : u = .keyword .bigint → ∀ n, (Tree.ofJson v).at? path = some (.scalar (.number n)) →
    ∃ i, IsBigintOf numberText n i ∧ w.at? path = some (.scalar (.bigint i))

lemma Converted.restoredAt (h : Converted options numberText catalog s v w)
    (hl : LeafAt catalog s path l) (hu : ArrivesAs (conversionsFor options) l u) :
    RestoredAt numberText u path v w := by
  rcases hu with ⟨rfl, hdate⟩ | ⟨rfl, hbigint⟩
  · exact ⟨fun _ _ hv => h.date hl hdate hv, fun hu => by simp [named] at hu⟩
  · exact ⟨fun hu => by simp [named] at hu, fun _ _ hv => h.bigint hl hbigint hv⟩

/-! ### Responses -/

/-- The schemas of a model refer to components only, and so does that of a response. -/
lemma refersOnlyTo_of_responseSchema? {names : List String}
    (hrefer : ∀ root ∈ api.roots, root.RefersOnlyTo names) (hop : op ∈ api.operations)
    (hs : responseSchema? op = some s) : s.RefersOnlyTo names := by
  have hroots : Types.RootsReferOnlyTo names op := by
    intro root hroot
    refine hrefer root ?_
    simp only [Api.roots, List.mem_append, List.mem_flatMap]
    exact .inr ⟨op, .inl hop, hroot⟩
  exact Types.refersOnlyTo_schema?
    (hroots.responses fun p => Types.mem_responses_of_mem_successes) (schema?_of_responseSchema? hs)

/-- A schema all of whose values are made of what statements lead to: it is no tuple and no
enumeration, has no members without a property, and is no union of several schemas. -/
structure Covered (catalog : Catalog) (s : Schema) : Prop where
  resolves : ∀ {name t}, s.pointer = some (Pointer.schema name) → (name, t) ∈ catalog →
    catalog.find? (Pointer.schema name) = some t
  not_fixed : s.pointer = none → s.shape ≠ some .tuple ∧ s.shape ≠ some .enum
  closed : s.pointer = none → s.shape = some .object → s.additionalProperties = none
  applies : s.pointer = none → s.shape = none → s.items ≠ [] → appliesItems s = true

/-- Statements lead to whatever leaf the type of a schema promises, if it leads to covered schemas
only. -/
theorem leafAt_of_promisedAt {conversions : Conversions} (h : PromisedAt catalog s path l)
    (hu : ArrivesAs conversions l u)
    (hs : ∀ t, Visits catalog s t → Regular t ∧ Covered catalog t) : LeafAt catalog s path l := by
  induction h with
  | @leaf s hpointer =>
    have hshape : s.shape = some .string ∨ s.shape = some .integer :=
      hu.imp (·.2.2.1) (·.2.2.1)
    have hcontainer : isContainer s = false := by
      rcases hshape with hshape | hshape <;> simp [isContainer, hshape]
    refine .leaf hpointer hcontainer ?_
    by_contra hitems
    simp [(hs s .refl).1.items hpointer hcontainer hitems] at hshape
  | component hpointer hmem _ ih =>
    have hfind := (hs _ .refl).2.resolves hpointer hmem
    have hstep : Follows catalog _ _ := .component hpointer hfind
    exact .component hpointer hfind (ih hu fun t ht => hs t (.head hstep ht))
  | element index hpointer hshape hitems _ ih =>
    have hstep : Follows catalog _ _ := .element hpointer hshape hitems
    exact .element index hpointer hshape hitems (ih hu fun t ht => hs t (.head hstep ht))
  | position hpointer hshape => exact absurd hshape ((hs _ .refl).2.not_fixed hpointer).1
  | property hpointer hshape hproperty _ ih =>
    have hstep : Follows catalog _ _ := .property hpointer hshape hproperty
    exact .property hpointer hshape hproperty (ih hu fun t ht => hs t (.head hstep ht))
  | other hpointer hshape _ hadditional =>
    simp [(hs _ .refl).2.closed hpointer hshape] at hadditional
  | widened hpointer hshape _ hsome => simp [(hs _ .refl).2.closed hpointer hshape] at hsome
  | @item s t _ _ hpointer hshape hitem _ ih =>
    have hcovered := (hs _ .refl).2
    have hnone : s.shape = none := hshape.resolve_right (hcovered.not_fixed hpointer).2
    have hcontainer : isContainer s = false := by simp [isContainer, hnone]
    have happlies := hcovered.applies hpointer hnone (List.ne_nil_of_mem hitem)
    have hstep : Follows catalog s t := .item hpointer hcontainer happlies hitem
    exact .item hpointer hcontainer happlies hitem (ih hu fun t ht => hs t (.head hstep ht))

/-! ### Models -/

/-- Wherever the type of a response says that values arrive as objects of their own, it promises a
leaf of which they do. -/
lemma exists_promisedAt_of_session {config : Config} {pipeline : Pipeline} {types : Output.File}
    {typeName : String}
    (hids : (api.operations.map Operation.id).Nodup)
    (hrefer : ∀ root ∈ api.roots, root.RefersOnlyTo api.catalog.keys)
    (hp : Pipeline.ofConfig config = .ok pipeline)
    (hmem : .transformers options ∈ config.generators)
    (hσ : pipeline.session ⟨api, config⟩ = .ok σ)
    (htypes : σ.files.get? Types.fileId = some types) (hop : op ∈ api.operations)
    (hs : responseSchema? op = some s)
    (htype : σ.registry.status? (Types.operationReference op.id .response) .type Types.fileId
      = some (.active typeName))
    (hu : IsRevived u) (hat : TypeAt types.nodes n (named typeName) path u) :
    ∃ l, PromisedAt api.catalog s path l ∧ ArrivesAs (conversionsFor options) l u := by
  obtain ⟨r, hdistinct, hexplained, hsame⟩ := Types.exists_explained hp hσ htypes
  rw [conversionsOf_eq hp hmem] at hexplained
  rw [hsame] at htype
  have hcomponents : ∀ component ∈ api.catalog, component.2.RefersOnlyTo api.catalog.keys := by
    intro component hcomponent
    refine hrefer _ ?_
    simp only [Api.roots, List.mem_append]
    exact .inl (.inl (.inl (List.mem_map_of_mem hcomponent)))
  exact Types.exists_promisedAt_response hdistinct hexplained hcomponents hu hids hop
    (schema?_of_responseSchema? hs) (refersOnlyTo_of_responseSchema? hrefer hop hs) htype hat

/-- A schema that leads to a leaf which is restored needs statements. -/
lemma not_blank_of_leafAt (hsame : Unambiguous options api) (hl : LeafAt api.catalog s path l)
    (hlu : ArrivesAs (conversionsFor options) l u) : ¬ Blank options api False s := by
  intro hblank
  obtain ⟨hdate, hbigint⟩ := hl.of_blank hsame hblank
  rcases hlu with ⟨-, h⟩ | ⟨-, h⟩
  · exact hdate h
  · exact hbigint h

/-- A model whose operations have different ids and whose schemas refer to components only, and a
path at which the type of a response has dates or long integers. If statements lead to every leaf
that the type promises there, the operation has a transformer, and this makes a date of every text
and a long integer of every number at the path in a conforming value, as far as no schema is too
deep and no statement comes upon null without a test or upon a member that every record inherits. -/
theorem restored_of_session {config : Config} {pipeline : Pipeline} {file types : Output.File}
    {typeName : String}
    (hids : (api.operations.map Operation.id).Nodup) (hnames : PlainNames options)
    (hrefer : ∀ root ∈ api.roots, root.RefersOnlyTo api.catalog.keys)
    (hp : Pipeline.ofConfig config = .ok pipeline)
    (hmem : .transformers options ∈ config.generators)
    (hσ : pipeline.session ⟨api, config⟩ = .ok σ) (hapart : NamesApart σ.registry)
    (hwhole : ¬ Truncated σ.diagnostics) (hfile : σ.files.get? fileId = some file)
    (htypes : σ.files.get? Types.fileId = some types) (hop : op ∈ api.operations)
    (hs : responseSchema? op = some s) (hregular : ∀ t, Visits api.catalog s t → Regular t)
    (hown : ∀ t, Visits api.catalog s t → OwnNames options api t)
    (hspared : Spared options api s) (hnumbers : WritesIntegers numberText)
    (htype : σ.registry.status? (Types.operationReference op.id .response) .type Types.fileId
      = some (.active typeName))
    (hu : IsRevived u) (hat : TypeAt types.nodes n (named typeName) path u)
    (hleads : ∀ l, PromisedAt api.catalog s path l → ArrivesAs (conversionsFor options) l u →
      LeafAt api.catalog s path l) :
    ∃ p name, (Function.response op).reference? options = some p
      ∧ σ.registry.status? p .value fileId = some (.active name)
      ∧ (constNames file.nodes).count name = 1
      ∧ ∀ v, Conforms api.catalog s v → ∃ w, Transforms numberText file.nodes name v w
        ∧ RestoredAt numberText u path v w := by
  obtain ⟨l, hpromised, hlu⟩ :=
    exists_promisedAt_of_session hids hrefer hp hmem hσ htypes hop hs htype hu hat
  have hl := hleads l hpromised hlu
  have hsame := unambiguous hnames hids
  have hcomplete := complete_of_session hnames.responseName hids hp hmem hσ
  obtain ⟨p, name, hreference, hentry⟩ := (hcomplete.finished hsame hwhole).exists_active_response
    hop hs (not_blank_of_leafAt hsame hl hlu)
  have hlinked : Linked options numberText api False σ.registry (globals numberText file.nodes) :=
    linked_of_session hids hp hmem hσ hnames hfile hwhole hapart
  refine ⟨p, name, hreference, hentry,
    count_constNames_of_session hids hp hmem hσ hnames hfile hentry, fun v hv => ?_⟩
  obtain ⟨w, -, htransforms, hconverted⟩ := hlinked.exists_transforms hnumbers (f := .response op)
    hop hreference hs hentry hregular hown hspared hv
  exact ⟨w, htransforms, (hconverted not_false).restoredAt hl hlu⟩

/-! ### A response that may be null, and a pair -/

namespace NullModel

open TreeModel (moment)

/-- The type that is declared under a name. -/
def aliasType? (statements : List Stmt) (name : String) : Option TypeExpr :=
  statements.findSome? fun
    | .typeAlias other _ t _ => if other = name then some t else none
    | _ => none

lemma mem_of_aliasType? {statements : List Stmt} {name : String} {t : TypeExpr}
    (h : aliasType? statements name = some t) :
    ∃ exported comment, .typeAlias name exported t comment ∈ statements := by
  obtain ⟨stmt, hmem, hstmt⟩ := List.exists_of_findSome?_eq_some h
  split at hstmt
  · split at hstmt
    · rename_i hname
      obtain rfl := Option.some.inj hstmt
      exact ⟨_, _, hname ▸ hmem⟩
    · simp at hstmt
  · simp at hstmt

/-- The name of the type of the only response of a model, and what is declared under some names. -/
def typesOf? (api : Api) (names : List String) :
    Option (Option Output.Entry × List (Option TypeExpr)) :=
  (Pipeline.session [.types {}, .transformers {}] ⟨api, config⟩).toOption.bind fun σ =>
    (σ.files.get? Types.fileId).map fun types =>
      (σ.registry.status? (Types.operationReference "A" .response) .type Types.fileId,
        names.map (aliasType? types.nodes))

lemma typesOf?_model : typesOf? model ["AResponse", "S"] = some (some (.active "AResponse"),
    [some (.intersection [.object [{ name := "at", type := named "S" }] none,
      .object [{ name := "until", optional := true, type := named "Date" }] none]),
    some (.union [named "Date", .keyword .null])]) := by
  decide +kernel

/-- The types of a session are those of its pipeline. -/
lemma exists_types {api : Api} {names : List String} {e : Option Output.Entry}
    {ts : List (Option TypeExpr)}
    (hσ : Pipeline.session [.types {}, .transformers {}] ⟨api, config⟩ = .ok σ)
    (h : typesOf? api names = some (e, ts)) : ∃ types, σ.files.get? Types.fileId = some types
      ∧ σ.registry.status? (Types.operationReference "A" .response) .type Types.fileId = e
      ∧ names.map (aliasType? types.nodes) = ts := by
  simp only [typesOf?, hσ, Except.toOption, Option.bind_some, Option.map_eq_some_iff,
    Prod.mk.injEq] at h
  exact h

lemma pointer_stamp : Pointer.schema "S" = "#/components/schemas/S" := by decide +kernel

lemma refersOnlyTo : ∀ root ∈ model.roots, root.RefersOnlyTo model.catalog.keys := by
  have hleaf (s : Schema) (hp : s.pointer = none) (hparts : s.parts = []) :
      s.RefersOnlyTo model.catalog.keys := Schema.refersOnlyTo_of_plain hp (by simp [hparts])
  have hmoment := hleaf moment rfl rfl
  have hstamp : stamp.RefersOnlyTo model.catalog.keys := by
    rw [stamp, ← pointer_stamp]
    exact Schema.refersOnlyTo_reference (List.mem_singleton_self _)
  have hcomponent : (orNull moment).RefersOnlyTo model.catalog.keys := by
    refine Schema.refersOnlyTo_of_plain rfl fun part hpart => ?_
    rcases List.mem_cons.mp hpart with rfl | hpart
    · exact hmoment
    · exact List.mem_singleton.mp hpart ▸ hleaf _ rfl rfl
  have hpage : page.RefersOnlyTo model.catalog.keys := by
    refine Schema.refersOnlyTo_of_plain rfl fun part hpart => ?_
    rcases List.mem_cons.mp hpart with rfl | hpart
    · exact Schema.refersOnlyTo_of_plain rfl fun inner hinner =>
        List.mem_singleton.mp hinner ▸ hstamp
    · obtain rfl := List.mem_singleton.mp hpart
      exact Schema.refersOnlyTo_of_plain rfl fun inner hinner =>
        List.mem_singleton.mp hinner ▸ hmoment
  intro root hroot
  have hroots : model.roots = [orNull moment, page] := rfl
  simp only [hroots, List.mem_cons, List.not_mem_nil, or_false] at hroot
  rcases hroot with rfl | rfl
  · exact hcomponent
  · exact hpage

lemma covered {t : Schema} (h : Visits model.catalog page t) : Covered model.catalog t := by
  have hresolves : ∀ {name s}, (name, s) ∈ model.catalog →
      model.catalog.find? (Pointer.schema name) = some s := by
    intro name s hmem
    obtain ⟨rfl, rfl⟩ := Prod.mk.inj (List.mem_singleton.mp hmem)
    rw [pointer_stamp, find?_stamp]
  have hmem := mem_visited h
  simp only [visited, List.mem_cons, List.not_mem_nil, or_false] at hmem
  refine ⟨fun _ => hresolves, ?_, ?_, ?_⟩ <;>
    rcases hmem with rfl | rfl | rfl | rfl | rfl | rfl | rfl <;>
    simp [page, both, row, limits, stamp, orNull, moment, Schema.ofShape, Schema.reference,
      Schema.operator, appliesItems, isNullablePair, Shape.isNullish]

/-- A page whose stamp is not null. -/
def stamped : Json := .obj [("at", .str "2024-01-01T00:00:00Z")]

lemma conforms_stamped : Conforms model.catalog page stamped := by
  have hmoment (text : String) : Conforms model.catalog moment (.str text) :=
    .leaf rfl (by decide) (by decide) (by decide) trivial
  have hstamp (text : String) : Conforms model.catalog stamp (.str text) :=
    .component rfl find?_stamp (.any rfl rfl rfl (List.mem_cons_self) (hmoment text))
  refine .all rfl rfl rfl fun item hitem => ?_
  simp only [page, both, List.mem_cons, List.not_mem_nil, or_false] at hitem
  rcases hitem with rfl | rfl
  · exact .object rfl rfl (by decide) (by simp [row, hstamp])
  · exact .object rfl rfl (by decide) (by simp [limits])

theorem restored_of_session_stamped : ∃ p σ file w, Pipeline.ofConfig config = .ok p
    ∧ p.session ⟨model, config⟩ = .ok σ ∧ σ.files.get? fileId = some file
    ∧ Transforms decimalText file.nodes "aResponseTransformer" stamped w
    ∧ w.at? [.member "at"] = some (.scalar (.date "2024-01-01T00:00:00Z")) := by
  have hconfig : Pipeline.ofConfig config = .ok [.types {}, .transformers {}] := rfl
  obtain ⟨σ, file, hσ, hfile, hclean, hentry⟩ := exists_session onlyName?_model
  obtain ⟨types, htypes, htype, haliases⟩ := exists_types hσ typesOf?_model
  simp only [List.map_cons, List.map_nil, List.cons.injEq, and_true] at haliases
  obtain ⟨_, _, hresponse⟩ := mem_of_aliasType? haliases.1
  obtain ⟨_, _, hstamp⟩ := mem_of_aliasType? haliases.2
  have hat : TypeAt types.nodes 2 (named "AResponse") [.member "at"] (named "Date") :=
    .declared hresponse (.part List.mem_cons_self (.member
      (p := { name := "at", type := named "S" }) List.mem_cons_self
        (.declared hstamp (.alternative List.mem_cons_self .here))))
  have hids : (model.operations.map Operation.id).Nodup := by decide
  have hnames : DefaultNames {} := ⟨rfl, rfl⟩
  have hapart : NamesApart σ.registry :=
    hnames.namesApart_of_session hids hconfig (List.mem_singleton_self _) hσ
  obtain ⟨p, name, hreference, hname, -, htransforms⟩ := restored_of_session hids hnames.plain
    refersOnlyTo hconfig (List.mem_singleton_self _) hσ hapart
    (not_truncated (List.length_eq_zero_iff.mp hclean)) hfile htypes
    (List.mem_singleton_self (answering "/a" "A" page)) rfl (fun t => regular) (fun t => ownNames)
    spared writesIntegers_decimalText htype (.inl rfl) hat
    fun l hl hlu => leafAt_of_promisedAt hl hlu fun t ht => ⟨regular ht, covered ht⟩
  obtain rfl := Option.some.inj ((reference?_operation page).symm.trans hreference)
  obtain rfl : "aResponseTransformer" = name := by simpa [hentry] using hname
  obtain ⟨w, hw, hrestored⟩ := htransforms stamped conforms_stamped
  exact ⟨_, σ, file, w, hconfig, hσ, hfile, hw, hrestored.date rfl _ rfl⟩

/-- A tuple of one moment. -/
def single : Schema := { shape := some .tuple, items := [moment] }

def singles : Api := modelOf [] [answering "/a" "A" single]

lemma onlyName?_singles :
    onlyName? singles = some (0, some (.suppressed "aResponseTransformer")) := by
  decide +kernel

lemma typesOf?_singles : typesOf? singles ["AResponse"]
    = some (some (.active "AResponse"), [some (.tuple [named "Date"])]) := by
  decide +kernel

lemma constNames_singles : ((Pipeline.session [.types {}, .transformers {}]
    ⟨singles, config⟩).toOption.bind fun σ => (σ.files.get? fileId).map fun file =>
      constNames file.nodes) = some [] := by
  decide +kernel

/-- A response whose type has a date, and for which there is no function. -/
theorem exists_not_restored : ∃ p σ file types v, Pipeline.ofConfig config = .ok p
    ∧ p.session ⟨singles, config⟩ = .ok σ ∧ σ.files.get? fileId = some file
    ∧ σ.files.get? Types.fileId = some types
    ∧ responseSchema? (answering "/a" "A" single) = some single
    ∧ σ.registry.status? (Types.operationReference "A" .response) .type Types.fileId
      = some (.active "AResponse")
    ∧ TypeAt types.nodes 1 (named "AResponse") [.element 0] (named "Date")
    ∧ Conforms singles.catalog single v
    ∧ (Tree.ofJson v).at? [.element 0] = some (.scalar (.string "2024-01-01T00:00:00Z"))
    ∧ constNames file.nodes = [] := by
  have hconfig : Pipeline.ofConfig config = .ok [.types {}, .transformers {}] := rfl
  obtain ⟨σ, file, hσ, hfile, -, hentry⟩ := exists_session onlyName?_singles
  obtain ⟨types, htypes, htype, haliases⟩ := exists_types hσ typesOf?_singles
  obtain ⟨_, _, hresponse⟩ := mem_of_aliasType? (List.cons.inj haliases).1
  refine ⟨_, σ, file, types, .arr [.str "2024-01-01T00:00:00Z"], hconfig, hσ, hfile, htypes, rfl,
    htype, .declared hresponse (.position rfl .here), .leaf rfl (by decide) (by decide) (by decide)
      trivial, rfl, ?_⟩
  simpa [hσ, hfile, Except.toOption] using constNames_singles

end NullModel

end OpenApiTypes.Transformers
