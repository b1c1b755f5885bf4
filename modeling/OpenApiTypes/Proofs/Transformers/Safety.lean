/-
What transformers do with every response.

* `Transformers.Spared`: a schema without a value in which statements come upon null unprepared;
* `Transformers.Linked.exists_transforms`: the function for such a schema runs on every conforming
  value, and restores the leaves of the schema in it;
* `Transformers.runs_of_session`: so does the transformer of an operation. It never takes a member
  of null, calls a method of it or makes a date or a long integer of it, for then it would not run.
-/
import OpenApiTypes.Proofs.Transformers.Correctness
import OpenApiTypes.Proofs.Transformers.Running

namespace OpenApiTypes.Transformers

open OpenApiTypes.Generation (Pipeline Session)
open OpenApiTypes.Model
open OpenApiTypes.Output (Registry)
open OpenApiTypes.TypeScript
open OpenApiTypes.Config (TransformersOptions)

variable {options : TransformersOptions} {numberText : Number → String} {api : Api} {lossy : Prop}
  {σ : Session} {f : Function} {op : Operation} {s t : Schema} {v : Json} {p name : String}

/-- Wherever a value of a schema may be null and statements come upon it, they test for it, or do
nothing to it. -/
structure Spared (options : TransformersOptions) (api : Api) (s : Schema) : Prop where
  own : Spares options api s
  inner : ∀ t, Tested api.catalog s t → Spares options api t

/-- The function for a schema turns every conforming value into one in which the leaves of the
schema are restored, unless schemas nest too deep. -/
lemma Linked.exists_transforms {r : Registry} {module : List Stmt}
    (hlinked : Linked options numberText api lossy r (globals numberText module))
    (hnumbers : WritesIntegers numberText) (hf : f.BelongsTo api)
    (hreference : f.reference? options = some p) (hs : f.schema? api = some s)
    (hentry : r.status? p .value fileId = some (.active name))
    (hregular : ∀ t, Visits api.catalog s t → Regular t)
    (hown : ∀ t, Visits api.catalog s t → OwnNames options api t) (hspared : Spared options api s)
    (hv : Conforms api.catalog s v) :
    ∃ w, (Tree.ofJson v).Becomes numberText w ∧ Transforms numberText module name v w
      ∧ (¬ lossy → Converted options numberText api.catalog s v w) := by
  obtain ⟨body, hemits, hcalls⟩ := hlinked.exists_function hf hreference hs hentry
  obtain ⟨w, hw, hacts, hconverted⟩ := screened_of_spares hlinked hspared.own hv
    (handled_of_conforms hlinked hnumbers hv hregular hown hspared.inner) hemits (.refl _)
  refine ⟨w, hw, transforms_of_calls hlinked hcalls hemits.not_isReturn ?_ ?_, hconverted⟩
  · rintro rfl
    exact hw.eq_null_iff.mpr rfl
  · exact fun hnull hholds => hacts (hnull ∘ Tree.ofJson_eq_null_iff.mp) hholds

/-- A model whose operations have different ids, and a value that conforms to the schema of a
successful response, compositions and components included: if an operation has a transformer, this
is declared once and runs on the value, as far as no statement comes upon null without a test or
upon a member that every record inherits. Only texts become dates and only numbers become long
integers. -/
theorem runs_of_session {config : Config} {pipeline : Pipeline} {file : Output.File}
    (hids : (api.operations.map Operation.id).Nodup) (hnames : PlainNames options)
    (hp : Pipeline.ofConfig config = .ok pipeline)
    (hmem : .transformers options ∈ config.generators)
    (hσ : pipeline.session ⟨api, config⟩ = .ok σ) (hapart : NamesApart σ.registry)
    (hfile : σ.files.get? fileId = some file) (hop : op ∈ api.operations)
    (hs : responseSchema? op = some s) (hregular : ∀ t, Visits api.catalog s t → Regular t)
    (hown : ∀ t, Visits api.catalog s t → OwnNames options api t)
    (hspared : Spared options api s) (hv : Conforms api.catalog s v)
    (hnumbers : WritesIntegers numberText)
    (hreference : (Function.response op).reference? options = some p)
    (hentry : σ.registry.status? p .value fileId = some (.active name)) :
    (constNames file.nodes).count name = 1
      ∧ ∃ w, (Tree.ofJson v).Becomes numberText w ∧ Transforms numberText file.nodes name v w := by
  have hlinked : Linked options numberText api (Truncated σ.diagnostics) σ.registry
      (globals numberText file.nodes) :=
    linked_of_session hids hp hmem hσ hnames hfile id hapart
  obtain ⟨w, hw, htransforms, -⟩ := hlinked.exists_transforms hnumbers (f := .response op) hop
    hreference hs hentry hregular hown hspared hv
  exact ⟨count_constNames_of_session hids hp hmem hσ hnames hfile hentry, w, hw, htransforms⟩

/-! ### Responses that may be null -/

namespace NullModel

open TreeModel (moment)

/-- A pipeline with default options. -/
def config : Config := { generators := [.transformers {}] }

/-- The same with null. -/
def orNull (s : Schema) : Schema := { items := [s, .ofShape .null], operator? := some .or }

/-- Both schemas at once. -/
def both (s t : Schema) : Schema := { items := [s, t], operator? := some .and }

def stamp : Schema := .reference "#/components/schemas/S"

/-- A stamp, which may be null, under a name. -/
def row : Schema := { shape := some .object, required := ["at"], properties := [("at", stamp)] }

def limits : Schema := { shape := some .object, properties := [("until", moment)] }

def page : Schema := both row limits

def model : Api := modelOf [("S", orNull moment)] [answering "/a" "A" page]

/-- A page whose stamp is null. -/
def value : Json := .obj [("at", .null), ("until", .str "2024-01-01T00:00:00Z")]

/-- All schemas that statements are made for. -/
def visited : List Schema := [page, row, limits, stamp, orNull moment, moment, .ofShape .null]

lemma find?_stamp : model.catalog.find? "#/components/schemas/S" = some (orNull moment) := rfl

lemma mem_visited {t : Schema} (h : Visits model.catalog page t) : t ∈ visited := by
  refine mem_of_visits ?_ (List.mem_cons_self) h
  have hpage : following model.catalog page = [row, limits] := rfl
  have hrow : following model.catalog row = [stamp] := rfl
  have hlimits : following model.catalog limits = [moment] := rfl
  have hstamp : following model.catalog stamp = [orNull moment] := rfl
  have horNull : following model.catalog (orNull moment) = [moment, .ofShape .null] := rfl
  have hleaf : following model.catalog moment = []
      ∧ following model.catalog (.ofShape .null) = [] := ⟨rfl, rfl⟩
  simp [visited, hpage, hrow, hlimits, hstamp, horNull, hleaf]

lemma regular {t : Schema} (h : Visits model.catalog page t) : Regular t := by
  have hmem := mem_visited h
  simp only [visited, List.mem_cons, List.not_mem_nil, or_false] at hmem
  rcases hmem with rfl | rfl | rfl | rfl | rfl | rfl | rfl <;> constructor <;>
    simp [page, both, row, limits, stamp, orNull, moment, Schema.ofShape, Schema.reference,
      isNullish]

lemma ownNames {t : Schema} (h : Visits model.catalog page t) : OwnNames {} model t := by
  have hmem := mem_visited h
  simp only [visited, List.mem_cons, List.not_mem_nil, or_false] at hmem
  refine .of_forall ?_
  rcases hmem with rfl | rfl | rfl | rfl | rfl | rfl | rfl <;> decide

lemma not_conforms_moment : ¬ Conforms model.catalog moment .null := by
  intro h
  cases h with
  | component hp => cases hp
  | leaf _ _ _ _ hadmits => exact hadmits
  | all _ hs | any _ hs => cases hs

lemma spared : Spared {} model page := by
  refine ⟨fun h => ?_, ?_⟩
  · cases h with
    | component hp => cases hp
    | leaf _ _ _ hitems => cases hitems rfl
    | any _ _ hoperator => cases hoperator
    | all _ _ _ h => cases h row (by simp [page, both]) with
      | component hp => cases hp
      | leaf _ _ hobject => exact absurd rfl hobject
      | all _ hs | any _ hs => cases hs
  · rintro t ⟨hvisits, hstep, hown⟩ hnull
    have hmem := mem_visited hvisits
    have hfollowing := hstep.mem_following
    simp only [visited, List.mem_cons, List.not_mem_nil, or_false] at hmem
    rcases hmem with rfl | rfl | rfl | rfl | rfl | rfl | rfl
    · simp [page, both, isContainer] at hown
    · obtain rfl : t = stamp := List.mem_singleton.mp hfollowing
      exact .inr (.tested rfl find?_stamp rfl)
    · obtain rfl : t = moment := List.mem_singleton.mp hfollowing
      exact absurd hnull not_conforms_moment
    · obtain rfl : t = orNull moment := List.mem_singleton.mp hfollowing
      exact .inl rfl
    · simp [orNull, isContainer] at hown
    · simp [moment, isContainer] at hown
    · simp [Schema.ofShape, isContainer] at hown

lemma conforms : Conforms model.catalog page value := by
  have hmoment (text : String) : Conforms model.catalog moment (.str text) :=
    .leaf rfl (by decide) (by decide) (by decide) trivial
  have hnull : Schema.ofShape .null ∈ (orNull moment).items := by simp [orNull]
  have hstamp : Conforms model.catalog stamp .null :=
    .component rfl find?_stamp (.any rfl rfl rfl hnull
      (.leaf rfl (by decide) (by decide) (by decide) trivial))
  refine .all rfl rfl rfl fun item hitem => ?_
  simp only [page, both, List.mem_cons, List.not_mem_nil, or_false] at hitem
  rcases hitem with rfl | rfl
  · exact .object rfl rfl (by decide) (by simp [row, hstamp])
  · exact .object rfl rfl (by decide) (by simp [limits, hmoment])

/-- How many warnings the session of a model raises, and the name of its only transformer. -/
def onlyName? (api : Api) : Option (Nat × Option Output.Entry) :=
  (Pipeline.session [.types {}, .transformers {}] ⟨api, config⟩).toOption.bind fun σ =>
    (σ.files.get? fileId).map fun _ => (σ.diagnostics.length,
      σ.registry.status? "#/ir/AResponseTransformer" .value fileId)

lemma onlyName?_model : onlyName? model = some (0, some (.active "aResponseTransformer")) := by
  decide +kernel

lemma reference?_operation (s : Schema) : (Function.response (answering "/a" "A" s)).reference? {}
    = some "#/ir/AResponseTransformer" := by
  have h : (Function.response (answering "/a" "A" {})).reference? {}
      = some "#/ir/AResponseTransformer" := by decide +kernel
  exact h

lemma exists_session {api : Api} {n : Nat} {e : Output.Entry}
    (h : onlyName? api = some (n, some e)) : ∃ σ file,
    Pipeline.session [.types {}, .transformers {}] ⟨api, config⟩ = .ok σ
      ∧ σ.files.get? fileId = some file ∧ σ.diagnostics.length = n
      ∧ σ.registry.status? "#/ir/AResponseTransformer" .value fileId = some e := by
  obtain ⟨σ, hσ, hfile⟩ := Option.bind_eq_some_iff.mp h
  obtain ⟨file, hfile, hfacts⟩ := Option.map_eq_some_iff.mp hfile
  obtain ⟨hn, he⟩ := Prod.mk.inj hfacts
  exact ⟨σ, file, Generation.eq_ok_of_toOption hσ, hfile, hn, he⟩

theorem runs_of_session_null : ∃ p σ file w, Pipeline.ofConfig config = .ok p
    ∧ p.session ⟨model, config⟩ = .ok σ ∧ σ.files.get? fileId = some file
    ∧ Conforms model.catalog page value
    ∧ Transforms decimalText file.nodes "aResponseTransformer" value w := by
  have hconfig : Pipeline.ofConfig config = .ok [.types {}, .transformers {}] := rfl
  obtain ⟨σ, file, hσ, hfile, -, hentry⟩ := exists_session onlyName?_model
  have hids : (model.operations.map Operation.id).Nodup := by decide
  have hnames : DefaultNames {} := ⟨rfl, rfl⟩
  have hapart : NamesApart σ.registry :=
    hnames.namesApart_of_session hids hconfig (List.mem_singleton_self _) hσ
  obtain ⟨-, w, -, htransforms⟩ := runs_of_session hids hnames.plain hconfig
    (List.mem_singleton_self _) hσ hapart hfile
    (List.mem_singleton_self (answering "/a" "A" page)) rfl (fun t => regular) (fun t => ownNames)
    spared conforms writesIntegers_decimalText (reference?_operation page) hentry
  exact ⟨_, σ, file, w, hconfig, hσ, hfile, conforms, htransforms⟩

/-- A moment or null, and at once a text or null: it is null, and has no test for it. -/
def clash : Schema := both (orNull moment) (orNull (.ofShape .string))

def clashes : Api := modelOf [] [answering "/a" "A" clash]

lemma onlyName?_clashes :
    onlyName? clashes = some (0, some (.active "aResponseTransformer")) := by
  decide +kernel

lemma conforms_clash : Conforms clashes.catalog clash .null := by
  have hnull (s : Schema) : Conforms clashes.catalog (orNull s) .null := by
    have hmem : Schema.ofShape .null ∈ (orNull s).items := by simp [orNull]
    exact .any rfl rfl rfl hmem (.leaf rfl (by decide) (by decide) (by decide) trivial)
  refine .all rfl rfl rfl fun item hitem => ?_
  simp only [clash, both, List.mem_cons, List.not_mem_nil, or_false] at hitem
  rcases hitem with rfl | rfl <;> exact hnull _

/-- The statements for it make a date of whatever comes. -/
lemma emits_clash {r : Registry} {body : List Stmt} (he : Emits {} False r clash data body) :
    body = [.expr (.assign data (.construct (.identifier "Date") [data]))] := by
  have hpair (s : Schema) : IsNullable (orNull s) s :=
    ⟨rfl, rfl, .ofShape .null, ⟨rfl, rfl, rfl⟩, .inl rfl⟩
  obtain ⟨bodies, hlength, hbodies, rfl⟩ :=
    (he.of_composition rfl rfl rfl (by simp [clash, both])).resolve_left And.left
  obtain ⟨first, second, rfl⟩ := List.length_eq_two.mp hlength
  have hfirst := (hbodies (orNull moment, first) (by simp [clash, both])).of_isNullable rfl
    (hpair moment)
  have hsecond := (hbodies (orNull (.ofShape .string), second)
    (by simp [clash, both])).of_isNullable rfl (hpair _)
  obtain rfl := (hfirst.of_leaf rfl rfl (by decide) (by decide)).resolve_left And.left
  obtain rfl := (hsecond.of_leaf rfl rfl (by decide) (by decide)).resolve_left And.left
  rfl

/-- The function of these statements does not run on null. -/
lemma applyFunction_clash (g : Globals) (heap : Heap) :
    applyFunction g ("data", returning data (guardedBody clash data
      [.expr (.assign data (.construct (.identifier "Date") [data]))])) (.scalar .null) heap
        = none := by
  have hdata : evalExpr g data (State.enter ⟨[], heap⟩ "data" (.scalar .null))
      = some (.scalar .null, State.enter ⟨[], heap⟩ "data" (.scalar .null)) := evalExpr_enter
  obtain ⟨-, -, hdate, -⟩ := evalExpr_eq_none_of_isNullish hdata rfl "" []
  rw [data] at hdate
  have hassign (rest : List Stmt) : evalStmts g
      (.expr (.assign data (.construct (.identifier "Date") [data])) :: rest)
      (State.enter ⟨[], heap⟩ "data" (.scalar .null)) = none := by
    rw [evalStmts, evalStmt, evalExpr, data, evalPlace]
    simp [hdate]
  exact congrArg (Option.bind · _) (hassign [.ret (some data)])

/-- A transformer that makes a date of null: it runs on no null, although null conforms. -/
theorem exists_not_runs : ∃ p σ file, Pipeline.ofConfig config = .ok p
    ∧ p.session ⟨clashes, config⟩ = .ok σ ∧ σ.files.get? fileId = some file
    ∧ responseSchema? (answering "/a" "A" clash) = some clash
    ∧ Conforms clashes.catalog clash .null
    ∧ σ.registry.status? "#/ir/AResponseTransformer" .value fileId
      = some (.active "aResponseTransformer")
    ∧ ∀ m heap, (globals decimalText file.nodes m).call "aResponseTransformer" (.scalar .null) heap
      = none := by
  have hconfig : Pipeline.ofConfig config = .ok [.types {}, .transformers {}] := rfl
  obtain ⟨σ, file, hσ, hfile, hclean, hentry⟩ := exists_session onlyName?_clashes
  refine ⟨_, σ, file, hconfig, hσ, hfile, rfl, conforms_clash, hentry, fun m heap => ?_⟩
  have hids : (clashes.operations.map Operation.id).Nodup := by decide
  have hnames : DefaultNames {} := ⟨rfl, rfl⟩
  have hapart : NamesApart σ.registry :=
    hnames.namesApart_of_session hids hconfig (List.mem_singleton_self _) hσ
  have hlinked : Linked {} decimalText clashes False σ.registry
      (globals decimalText file.nodes) :=
    linked_of_session hids hconfig (List.mem_singleton_self _) hσ hnames.plain hfile
      (not_truncated (List.length_eq_zero_iff.mp hclean)) hapart
  obtain ⟨body, hemits, hcalls⟩ := hlinked.exists_function (s := clash)
    (f := .response (answering "/a" "A" clash)) (List.mem_singleton_self _)
    (reference?_operation clash) rfl hentry
  obtain rfl := emits_clash hemits
  cases m with
  | zero => rfl
  | succ m => rw [hcalls.call_eq, applyFunction_clash]

end NullModel

end OpenApiTypes.Transformers
