/-
What the transformers of a model do.

* `Transformers.Linked.transforms`: a function turns a value into what it is restored to, if schemas
  say which of its leaves are to be;
* `Transformers.transforms_of_session`: the transformer of an operation turns a value that conforms
  to the response into what it is restored to. Without a transformer, it is restored to itself;
* `Transformers.InheritedModel.exists_not_transforms`: where records inherit what a schema asks
  for, or operations have one id, this is not so.
-/
import OpenApiTypes.Proofs.Model.Agreement
import OpenApiTypes.Proofs.Transformers.Module
import OpenApiTypes.Proofs.Transformers.Simulation

namespace OpenApiTypes.Transformers

open OpenApiTypes.Generation (Pipeline Session)
open OpenApiTypes.Model
open OpenApiTypes.Output (Registry)
open OpenApiTypes.TypeScript
open OpenApiTypes.Config (TransformersOptions)

variable {options : TransformersOptions} {numberText : Number → String} {api : Api}
  {declared : List (String × Stmt)} {σ : Session} {f : Function} {op : Operation} {s : Schema}
  {v : Json} {w : Tree} {p name : String}

/-- The transformer of an operation turns a value into what it is restored to. -/
lemma Linked.transforms {r : Registry} {module : List Stmt}
    (hlinked : Linked options numberText api False r (globals numberText module))
    (hf : f.BelongsTo api) (hreference : f.reference? options = some p)
    (hs : f.schema? api = some s) (hentry : r.status? p .value fileId = some (.active name))
    (hplain : ∀ t, s.Reaches api.catalog t → Plain api.catalog t)
    (hown : ∀ t, Visits api.catalog s t → OwnNames options api t)
    (h : Restores options numberText api.catalog s v w) :
    Transforms numberText module name v w := by
  obtain ⟨body, hemits, hcalls⟩ := hlinked.exists_function hf hreference hs hentry
  exact transforms_of_calls hlinked hcalls hemits.not_isReturn h.null_eq fun hv hholds =>
    restoring_of_emits hlinked h hplain hown hemits hholds hv

/-- A model whose operations have different ids, and a value that conforms to the only response of
an operation that is not void, where schemas say which leaves are dates and long integers, and no
optional property with such leaves has the name of what every record inherits: it is restored to one
tree. If the operation has a transformer, this is declared once and turns the value into the tree,
without changing anything else; otherwise the value is restored to itself. -/
theorem transforms_of_session {config : Config} {options : TransformersOptions} {p : Pipeline}
    {file : Output.File} (hids : (api.operations.map Operation.id).Nodup)
    (hnames : DefaultNames options) (hp : Pipeline.ofConfig config = .ok p)
    (hmem : .transformers options ∈ config.generators)
    (hσ : p.session ⟨api, config⟩ = .ok σ) (hclean : σ.diagnostics = [])
    (hfile : σ.files.get? fileId = some file) (hop : op ∈ api.operations)
    (hs : distinct ((op.successes.values.map Response.schema).filter fun t => !t.hasShape .void)
      = [s])
    (hplain : ∀ t, s.Reaches api.catalog t → Plain api.catalog t)
    (hown : ∀ t, Visits api.catalog s t → OwnNames options api t)
    (hv : Conforms api.catalog s v) (hnumbers : WritesIntegers numberText) :
    ∃ w reference, (∀ w', Restores options numberText api.catalog s v w' ↔ w' = w)
      ∧ (Function.response op).reference? options = some reference
      ∧ ((∃ name, σ.registry.status? reference .value fileId = some (.active name)
          ∧ (constNames file.nodes).count name = 1 ∧ Transforms numberText file.nodes name v w)
        ∨ ∃ name, σ.registry.status? reference .value fileId = some (.suppressed name)
          ∧ name ∉ constNames file.nodes ∧ w = .ofJson v) := by
  have hcomplete := complete_of_session hnames.plain.responseName hids hp hmem hσ
  obtain ⟨declared, hcoherent⟩ := hcomplete.coherent
  obtain ⟨file', hfile', hnodes⟩ := hcoherent.file
  obtain rfl := Option.some.inj (hfile.symm.trans hfile')
  rw [hnodes]
  have hresponse : responseSchema? op = some s := by
    have hunion : Responses.schema? op.successes = some s := unionOf_eq_some hs
    simp [responseSchema?, hs, hunion]
  obtain ⟨w, hw⟩ : ∃ w, Restores options numberText api.catalog s v w :=
    exists_restores hnumbers hv hplain
  obtain ⟨reference, e, hreference, hentry⟩ := hcomplete.named op hop (by simp [hresponse])
  have hwhole := not_truncated hclean
  have hlinked : Linked options numberText api False σ.registry
      (globals numberText (declared.map Prod.snd)) :=
    hcoherent.linked hwhole (unambiguous hnames.plain hids) (hnames.namesApart hcoherent)
  refine ⟨w, reference, fun w' => ⟨fun hw' => hw'.unique hplain hw, fun h => h ▸ hw⟩,
    hreference, ?_⟩
  cases e with
  | active name =>
    exact .inl ⟨name, hentry, hcoherent.count_constNames hentry,
      hlinked.transforms (f := .response op) hop hreference hresponse hentry hplain hown hw⟩
  | suppressed name =>
    have hblank := hcoherent.blank hwhole hlinked.unambiguous (f := .response op) hop hreference
      hresponse hentry
    exact .inr ⟨name, hentry, hcoherent.not_mem_constNames hentry,
      hw.eq_ofJson hlinked.unambiguous hblank⟩

/-! ### A tree -/

/-- Integers in decimal digits, as JavaScript writes those below `10 ^ 21`. -/
def decimalText : Number → String
  | .int i => toString i
  | .float x =>
    toString ((if x.negative then -(x.fraction.1 : Int) else x.fraction.1) / x.fraction.2)

lemma writesIntegers_decimalText : WritesIntegers decimalText := by
  intro n i hn _
  refine ⟨i, ?_, fun j hj _ => hn.unique hj⟩
  cases n with
  | int j => exact congrArg toString (show j = i from hn)
  | float x =>
    have hpos := x.fraction_pos
    have hquotient : (if x.negative then -(x.fraction.1 : Int) else x.fraction.1) / x.fraction.2
        = i := by
      rw [show _ = i * (x.fraction.2 : Int) from hn]
      exact Int.mul_ediv_cancel i (by omega)
    exact congrArg toString hquotient

lemma isBigintOf_decimalText (i : Int) : IsBigintOf decimalText (.int i) i :=
  ⟨rfl, fun _ h _ => h⟩

namespace TreeModel

/-- When a node was made. -/
def moment : Schema := { shape := some .string, facets := { format := some "date-time" } }

def day : Schema := { shape := some .string, facets := { format := some "date" } }

/-- When a node was seen, if it was. -/
def maybeDay : Schema := { items := [day, .ofShape .null], operator? := some .or }

def size : Schema := { shape := some .integer, facets := { format := some "int64" } }

def reference : Schema := .reference "#/components/schemas/Node"

def below : Schema := { shape := some .array, items := [reference] }

/-- A node: when it was made and perhaps seen, how large it is, and the nodes below it. -/
def node : Schema where
  shape := some .object
  required := ["madeAt"]
  properties := [("madeAt", moment), ("seenAt", maybeDay), ("size", size), ("below", below)]

/-- The only operation: its response is a node. -/
def operation : Operation where
  id := "tree"
  method := .get
  path := "/tree"
  operationId := none
  summary := none
  description := none
  deprecated := false
  tags := []
  parameters := {}
  body := none
  responses := [("200", ⟨some "application/json", none, reference⟩)]
  security := []
  servers := []

def model : Api where
  paths := [("/tree", [(.get, operation)])]
  components := { schemas := [("Node", node)] }

/-- Long integers are restored beside dates. -/
def choices : TransformersOptions := { bigint := true }

/-- Two nodes. The first one was never seen, and has a note that nothing is said about. -/
def value : Json :=
  .obj [("madeAt", .str "2024-01-01T00:00:00Z"), ("seenAt", .null), ("size", .number (.int 7)),
    ("below", .arr [.obj [("madeAt", .str "2024-02-01T00:00:00Z"), ("seenAt", .str "2024-03-01")]]),
    ("note", .str "2024-04-01")]

/-- The same nodes with their dates and long integers. -/
def restored : Tree :=
  .record [("madeAt", .scalar (.date "2024-01-01T00:00:00Z")), ("seenAt", .scalar .null),
    ("size", .scalar (.bigint 7)),
    ("below", .array [.record [("madeAt", .scalar (.date "2024-02-01T00:00:00Z")),
      ("seenAt", .scalar (.date "2024-03-01"))]]),
    ("note", .scalar (.string "2024-04-01"))]

lemma find?_node : model.catalog.find? "#/components/schemas/Node" = some node := rfl

lemma mem_reached {t : Schema} (h : reference.Reaches model.catalog t) :
    t ∈ [reference, node, moment, maybeDay, day, .ofShape .null, size, below] := by
  induction h with
  | refl => simp
  | tail _ hstep ih =>
    rcases hstep with hpart | ⟨pointer, hpointer, hfind⟩
    · simp only [List.mem_cons, List.not_mem_nil, or_false] at ih
      rcases ih with rfl | rfl | rfl | rfl | rfl | rfl | rfl | rfl <;>
        simp [Schema.parts, reference, node, moment, maybeDay, day, size, below,
          Schema.reference, Schema.ofShape] at hpart ⊢ <;> tauto
    · simp only [List.mem_cons, List.not_mem_nil, or_false] at ih
      rcases ih with rfl | rfl | rfl | rfl | rfl | rfl | rfl | rfl <;>
        simp [reference, node, moment, maybeDay, day, size, below, Schema.reference,
          Schema.ofShape] at hpointer
      subst hpointer
      rw [find?_node] at hfind
      obtain rfl := Option.some.inj hfind
      simp

lemma plain {t : Schema} (h : reference.Reaches model.catalog t) : Plain model.catalog t := by
  have hmem := mem_reached h
  simp only [List.mem_cons, List.not_mem_nil, or_false] at hmem
  have hday : IsNullable maybeDay day := ⟨rfl, rfl, .ofShape .null, ⟨rfl, rfl, rfl⟩, .inl rfl⟩
  rcases hmem with rfl | rfl | rfl | rfl | rfl | rfl | rfl | rfl
  · exact ⟨fun h => by cases h; rfl, by simp [reference, Schema.reference],
      by simp [reference, Schema.reference]⟩
  · exact ⟨by simp [node], fun _ _ => by decide, by simp [node]⟩
  · exact ⟨by simp [moment], by simp [moment], by simp [moment]⟩
  · exact ⟨by simp [maybeDay], by simp [maybeDay], fun _ _ => by tauto⟩
  · exact ⟨by simp [day], by simp [day], by simp [day]⟩
  · exact ⟨by simp [Schema.ofShape], by simp [Schema.ofShape], by simp [Schema.ofShape]⟩
  · exact ⟨by simp [size], by simp [size], by simp [size]⟩
  · exact ⟨by simp [below], by simp [below], by simp [below]⟩

lemma ownNames {t : Schema} (h : Visits model.catalog reference t) :
    OwnNames choices model t := by
  have hmem := mem_reached h.reaches
  simp only [List.mem_cons, List.not_mem_nil, or_false] at hmem
  refine .of_forall ?_
  rcases hmem with rfl | rfl | rfl | rfl | rfl | rfl | rfl | rfl <;> decide

lemma conforms : Conforms model.catalog reference value := by
  have hmoment (text : String) : Conforms model.catalog moment (.str text) :=
    .leaf rfl (by decide) (by decide) (by decide) trivial
  have hday (text : String) : Conforms model.catalog maybeDay (.str text) := by
    refine .any rfl rfl rfl (List.mem_cons_self : day ∈ maybeDay.items) ?_
    exact .leaf rfl (by decide) (by decide) (by decide) trivial
  have hnull : Conforms model.catalog maybeDay .null := by
    refine .any rfl rfl rfl (by simp [maybeDay] : Schema.ofShape .null ∈ maybeDay.items) ?_
    exact .leaf rfl (by decide) (by decide) (by decide) trivial
  have hsize : Conforms model.catalog size (.number (.int 7)) := by
    refine .leaf rfl (by decide) (by decide) (by decide) ⟨7, rfl, fun _ => ?_⟩
    exact ⟨by decide, by decide⟩
  have hleaf : Conforms model.catalog reference
      (.obj [("madeAt", .str "2024-02-01T00:00:00Z"), ("seenAt", .str "2024-03-01")]) := by
    refine .component rfl find?_node (.object rfl rfl (by decide) ?_)
    simp [node, hmoment, hday]
  have hbelow : Conforms model.catalog below
      (.arr [.obj [("madeAt", .str "2024-02-01T00:00:00Z"), ("seenAt", .str "2024-03-01")]]) :=
    .array rfl rfl (by simpa [below] using hleaf)
  refine .component rfl find?_node (.object rfl rfl (by decide) ?_)
  simp [node, hmoment, hnull, hsize, hbelow]

lemma restores : Restores choices decimalText model.catalog reference value restored := by
  have hmoment (text : String) :
      Restores choices decimalText model.catalog moment (.str text) (.scalar (.date text)) :=
    .leaf rfl rfl trivial (by decide) (by decide) (.date ⟨rfl, rfl, .inr rfl⟩ text)
  have hnullable : IsNullable maybeDay day :=
    ⟨rfl, rfl, .ofShape .null, ⟨rfl, rfl, rfl⟩, .inl rfl⟩
  have hday (text : String) :
      Restores choices decimalText model.catalog maybeDay (.str text) (.scalar (.date text)) := by
    refine .present rfl hnullable (by simp) ?_
    exact .leaf rfl rfl trivial (by decide) (by decide) (.date ⟨rfl, rfl, .inl rfl⟩ text)
  have hsize : Restores choices decimalText model.catalog size (.number (.int 7))
      (.scalar (.bigint 7)) := by
    refine .leaf rfl rfl ⟨7, rfl, fun _ => ⟨by decide, by decide⟩⟩ (by decide) (by decide) ?_
    exact .bigint ⟨rfl, rfl, rfl⟩ (isBigintOf_decimalText 7)
  have hleaf : Restores choices decimalText model.catalog reference
      (.obj [("madeAt", .str "2024-02-01T00:00:00Z"), ("seenAt", .str "2024-03-01")])
      (.record [("madeAt", .scalar (.date "2024-02-01T00:00:00Z")),
        ("seenAt", .scalar (.date "2024-03-01"))]) := by
    refine .component rfl find?_node (@Restores.members _ _ _ _ [
      ("madeAt", .str "2024-02-01T00:00:00Z", .scalar (.date "2024-02-01T00:00:00Z")),
      ("seenAt", .str "2024-03-01", .scalar (.date "2024-03-01"))] rfl rfl (by decide) ?_ ?_)
    · simp [node, hmoment, hday]
    · simp [node]
  have hbelow : Restores choices decimalText model.catalog below
      (.arr [.obj [("madeAt", .str "2024-02-01T00:00:00Z"), ("seenAt", .str "2024-03-01")]])
      (.array [.record [("madeAt", .scalar (.date "2024-02-01T00:00:00Z")),
        ("seenAt", .scalar (.date "2024-03-01"))]]) :=
    @Restores.elements _ _ _ _ reference [] [(_, _)] rfl rfl rfl (by simpa using hleaf)
  refine .component rfl find?_node (@Restores.members _ _ _ _ [
    ("madeAt", .str "2024-01-01T00:00:00Z", .scalar (.date "2024-01-01T00:00:00Z")),
    ("seenAt", .null, .scalar .null), ("size", .number (.int 7), .scalar (.bigint 7)),
    ("below", _, _), ("note", .str "2024-04-01", .scalar (.string "2024-04-01"))]
    rfl rfl (by decide) ?_ ?_)
  · simp [node, hmoment, hsize, hbelow, Restores.null rfl hnullable]
  · simp [node, Tree.ofJson]

theorem transforms_of_session_tree : ∃ p σ file,
    Pipeline.ofConfig { generators := [.transformers choices] } = .ok p
      ∧ p.session ⟨model, { generators := [.transformers choices] }⟩ = .ok σ
      ∧ σ.files.get? fileId = some file ∧ Conforms model.catalog reference value
      ∧ Restores choices decimalText model.catalog reference value restored
      ∧ Transforms decimalText file.nodes "treeResponseTransformer" value restored := by
  have hconfig : Pipeline.ofConfig { generators := [.transformers choices] }
      = .ok [.types {}, .transformers choices] := rfl
  have hrun : ((Pipeline.session [.types {}, .transformers choices]
      ⟨model, { generators := [.transformers choices] }⟩).toOption.bind fun σ =>
        (σ.files.get? fileId).map fun _ => (σ.diagnostics.length,
          σ.registry.status? "#/ir/treeResponseTransformer" .value fileId))
      = some (0, some (.active "treeResponseTransformer")) := by decide +kernel
  obtain ⟨σ, hσ, hfile⟩ := Option.bind_eq_some_iff.mp hrun
  obtain ⟨file, hfile, hfacts⟩ := Option.map_eq_some_iff.mp hfile
  obtain ⟨hclean, hname⟩ := Prod.mk.inj hfacts
  have hsession := Generation.eq_ok_of_toOption hσ
  have hreference : (Function.response operation).reference? choices
      = some "#/ir/treeResponseTransformer" := by decide +kernel
  have hnames : DefaultNames choices := ⟨rfl, rfl⟩
  obtain ⟨w, p, hw, hp, hfunction⟩ := transforms_of_session (by decide) hnames hconfig
    (List.mem_singleton_self _) hsession (List.length_eq_zero_iff.mp hclean) hfile
    (List.mem_singleton_self operation) rfl (fun t => plain) (fun t => ownNames) conforms
    writesIntegers_decimalText
  obtain rfl := Option.some.inj (hreference.symm.trans hp)
  obtain rfl := (hw restored).mp restores
  rcases hfunction with ⟨name, hname', -, htransforms⟩ | ⟨name, hname', -⟩
  · obtain rfl : "treeResponseTransformer" = name := by simpa [hname] using hname'
    exact ⟨_, σ, file, hconfig, hsession, hfile, conforms, restores, htransforms⟩
  · simp [hname] at hname'

end TreeModel

/-! ### A member that every record inherits, and an id of two operations -/

namespace InheritedModel

open TreeModel (moment)

/-- A pipeline with default options. -/
def config : Config := { generators := [.transformers {}] }

/-- When something was made, if that is known, under a name that every record has. -/
def made : Schema := { shape := some .object, properties := [("constructor", moment)] }

def model : Api := modelOf [] [answering "/a" "a" made]

/-- An operation that needs no transformer, and one with the same id that does. -/
def shared : Api := modelOf [] [answering "/a" "a" (.ofShape .string), answering "/b" "a" moment]

/-- How many warnings the session of a model raises, the name of its only transformer, and the names
that its file declares. -/
def outcome? (api : Api) : Option (Nat × Option Output.Entry × List String) :=
  (Pipeline.session [.types {}, .transformers {}] ⟨api, config⟩).toOption.bind fun σ =>
    (σ.files.get? fileId).map fun file => (σ.diagnostics.length,
      σ.registry.status? "#/ir/aResponseTransformer" .value fileId, constNames file.nodes)

lemma outcome?_model : outcome? model
    = some (0, some (.active "aResponseTransformer"), ["aResponseTransformer"]) := by
  decide +kernel

lemma outcome?_shared :
    outcome? shared = some (0, some (.suppressed "aResponseTransformer"), []) := by
  decide +kernel

lemma exists_session {api : Api} {e : Option Output.Entry} {names : List String}
    (h : outcome? api = some (0, e, names)) : ∃ σ file,
    Pipeline.session [.types {}, .transformers {}] ⟨api, config⟩ = .ok σ ∧ σ.diagnostics = []
      ∧ σ.files.get? fileId = some file
      ∧ σ.registry.status? "#/ir/aResponseTransformer" .value fileId = e
      ∧ constNames file.nodes = names := by
  obtain ⟨σ, hσ, hfile⟩ := Option.bind_eq_some_iff.mp h
  obtain ⟨file, hfile, hfacts⟩ := Option.map_eq_some_iff.mp hfile
  simp only [Prod.mk.injEq, List.length_eq_zero_iff] at hfacts
  exact ⟨σ, file, Generation.eq_ok_of_toOption hσ, hfacts.1, hfile, hfacts.2⟩

lemma plain {t : Schema} (h : made.Reaches model.catalog t) : Plain model.catalog t := by
  have hmem : t = made ∨ t = moment := by
    induction h with
    | refl => exact .inl rfl
    | tail _ hstep ih =>
      rcases ih with rfl | rfl <;> rcases hstep with hpart | ⟨pointer, hpointer, -⟩ <;>
        simp_all [Schema.parts, made, moment]
  rcases hmem with rfl | rfl <;> constructor <;> simp [made, moment]

lemma conforms : Conforms model.catalog made (.obj []) :=
  .object rfl rfl (by simp [made]) (by simp)

lemma restores : Restores {} decimalText model.catalog made (.obj []) (.record []) :=
  @Restores.members _ _ _ _ [] rfl rfl (by simp [made]) (by simp) (by simp)

/-- The member that the statements ask for. -/
def constructed : Expr := .property data "constructor"

/-- The date that is made of a function. -/
def notDate : Value := .scalar (.date "function Object() \x7b [native code] \x7d")

lemma emits_made {r : Registry} {body : List Stmt} (he : Emits {} False r made data body) :
    body = [.cond (isPresent constructed)
      [.expr (.assign constructed (.construct (.identifier "Date") [constructed]))]] := by
  obtain ⟨bodies, hlength, hbodies, rfl⟩ := (he.of_object rfl rfl).resolve_left And.left
  obtain ⟨only, rfl⟩ := List.length_eq_one_iff.mp hlength
  have honly : Emits {} False r moment constructed only :=
    hbodies (("constructor", moment), only) (by simp [made])
  obtain rfl := (honly.of_leaf rfl rfl (by decide) (by decide)).resolve_left And.left
  rfl

/-- The function of these statements gives an empty record a member. -/
lemma applyFunction_made (g : Globals) (hundefined : "undefined" ∉ g.declared)
    (hdate : "Date" ∉ g.declared) : applyFunction g ("data", returning data (guardedBody made data
      [.cond (isPresent constructed)
        [.expr (.assign constructed (.construct (.identifier "Date") [constructed]))]]))
      (.object 0) [.record []] = some (.object 0, [.record [("constructor", notDate)]]) := by
  let σ : State := State.enter ⟨[], [.record []]⟩ "data" (.object 0)
  let σ' : State := State.enter ⟨[], [.record [("constructor", notDate)]]⟩ "data" (.object 0)
  have hread : evalExpr g constructed σ = some (.inherited "constructor", σ) := rfl
  have hconstruct : evalExpr g (.construct (.identifier "Date") [constructed]) σ
      = some (notDate, σ) := by
    have htext : (Value.inherited "constructor").toDate? = some notDate := by decide +kernel
    rw [evalExpr, hread]
    simp [σ, Globals.isBuiltin, State.enter, Entries.has, Entries.get?, hdate, htext]
  have hassign : evalExpr g
      (.assign constructed (.construct (.identifier "Date") [constructed])) σ
        = some (notDate, σ') := by
    have hplace : evalPlace g constructed σ = some (.member 0 "constructor", σ) := rfl
    rw [evalExpr, hplace]
    simp only [Option.bind_eq_bind, Option.bind_some, hconstruct]
    rfl
  have hbuiltin : g.isBuiltin σ "undefined" = true := by
    simp [σ, Globals.isBuiltin, State.enter, Entries.has, Entries.get?, hundefined]
  have hrun := evalStmts_present hbuiltin hread rfl (evalStmts_expr hassign)
  have hreturn := evalStmts_returning (List.cons_ne_nil _ []) (by simp [Stmt.isReturn]) hrun
  exact congrArg (Option.bind · fun x => some (x.1.getD .undefined, x.2.heap)) hreturn

/-- A record without members gets one from the transformer of its operation; and of two operations
with one id, the second one has no transformer, although its response is a moment. -/
theorem exists_not_transforms : ∃ p, Pipeline.ofConfig config = .ok p
    ∧ (∃ σ file, p.session ⟨model, config⟩ = .ok σ ∧ σ.diagnostics = []
      ∧ σ.files.get? fileId = some file ∧ (model.operations.map Operation.id).Nodup
      ∧ (∀ t, made.Reaches model.catalog t → Plain model.catalog t)
      ∧ Conforms model.catalog made (.obj [])
      ∧ Restores {} decimalText model.catalog made (.obj []) (.record [])
      ∧ ∀ m, (globals decimalText file.nodes (m + 1)).call "aResponseTransformer" (.object 0)
        [.record []] = some (.object 0, [.record [("constructor", notDate)]]))
    ∧ ∃ σ file, p.session ⟨shared, config⟩ = .ok σ ∧ σ.diagnostics = []
      ∧ σ.files.get? fileId = some file ∧ answering "/b" "a" moment ∈ shared.operations
      ∧ Conforms shared.catalog moment (.str "2024-01-01T00:00:00Z")
      ∧ Restores {} decimalText shared.catalog moment (.str "2024-01-01T00:00:00Z")
        (.scalar (.date "2024-01-01T00:00:00Z"))
      ∧ constNames file.nodes = [] := by
  have hconfig : Pipeline.ofConfig config = .ok [.types {}, .transformers {}] := rfl
  obtain ⟨σ, file, hσ, hclean, hfile, hentry, -⟩ := exists_session outcome?_model
  obtain ⟨σ', file', hσ', hclean', hfile', -, hnone⟩ := exists_session outcome?_shared
  have hids : (model.operations.map Operation.id).Nodup := by decide
  have hnames : DefaultNames {} := ⟨rfl, rfl⟩
  have hapart : NamesApart σ.registry :=
    hnames.namesApart_of_session hids hconfig (List.mem_singleton_self _) hσ
  have hlinked : Linked {} decimalText model False σ.registry (globals decimalText file.nodes) :=
    linked_of_session hids hconfig (List.mem_singleton_self _) hσ hnames.plain hfile
      (not_truncated hclean) hapart
  have hreference : (Function.response (answering "/a" "a" made)).reference? {}
      = some "#/ir/aResponseTransformer" := by
    have h : (Function.response (answering "/a" "a" {})).reference? {}
        = some "#/ir/aResponseTransformer" := by decide +kernel
    exact h
  obtain ⟨body, hemits, hcalls⟩ := hlinked.exists_function (s := made)
    (f := .response (answering "/a" "a" made)) (List.mem_singleton_self _) hreference rfl hentry
  obtain rfl := emits_made hemits
  refine ⟨_, hconfig, ⟨σ, file, hσ, hclean, hfile, hids, fun t => plain, conforms, restores,
    fun m => ?_⟩, σ', file', hσ', hclean', hfile', List.mem_cons_of_mem _ List.mem_cons_self, ?_,
    ?_, hnone⟩
  · rw [hcalls.call_eq]
    exact applyFunction_made _ (hlinked.not_declared m _ (by simp))
      (hlinked.not_declared m _ (by simp))
  · exact .leaf rfl (by decide) (by decide) (by decide) trivial
  · exact .leaf rfl rfl trivial (by decide) (by decide) (.date ⟨rfl, rfl, .inr rfl⟩ _)

end InheritedModel

end OpenApiTypes.Transformers
