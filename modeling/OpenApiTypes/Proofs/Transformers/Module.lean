/-
The functions of a finished file of transformers.

* `Transformers.PlainNames`: options with templates under which every name tells its function;
* `Transformers.EndsClear`: templates of which every text ends in a letter that is no hexadecimal
  digit and not an `m`; `Transformers.EndsClear.not_parameter`: they give no function the name of a
  parameter;
* `Transformers.DefaultNames`: options with the templates of the defaults, which end clear;
* `Transformers.unambiguous`: functions that are known under one reference are for one schema;
* `Transformers.Coherent.exists_body`, `Transformers.Coherent.blank`: a function that has a name is
  declared by the statements of its schema, and the schema of one that is withdrawn is blank;
* `Transformers.Coherent.linked`, `Transformers.linked_of_session`: the functions of the file are
  those whose names were given.
-/
import OpenApiTypes.Proofs.Naming.Endings
import OpenApiTypes.Proofs.Transformers.File
import OpenApiTypes.Proofs.Transformers.Linking

namespace OpenApiTypes.Transformers

open OpenApiTypes.Generation (Pipeline Session)
open OpenApiTypes.Model
open OpenApiTypes.Naming (EndsIn KeptLetters)
open OpenApiTypes.Output (Registry)
open OpenApiTypes.TypeScript
open OpenApiTypes.Config (TransformersOptions)

variable {options : TransformersOptions} {numberText : Number → String} {api : Api} {lossy : Prop}
  {declared : List (String × Stmt)} {σ : Session} {f f' : Function} {s : Schema} {p name : String}

/-! ### Names -/

/-- Each template for names is a text, the name and another text. -/
structure PlainNames (options : TransformersOptions) : Prop where
  schemaName : Template.IsPlain options.schemaName
  responseName : Template.IsPlain options.responseName

/-- No function has the name of a parameter. -/
def NamesApart (r : Registry) : Prop :=
  ∀ {p name}, r.status? p .value fileId = some (.active name) → name ∉ ["data", "item"]

/-- No parameter ends in a digit, so a function that has the name of one asks for it. -/
lemma uniqueName_eq_of_parameter {taken : List String} {base : String}
    (h : Registry.uniqueName taken base ∈ ["data", "item"]) :
    Registry.uniqueName taken base = base := by
  have hdigits : ∀ w ∈ ["data", "item"], w.toList.getLast?.any Char.isDigit = false := by decide
  rcases Registry.uniqueName_eq_or taken base with heq | ⟨n, heq⟩
  · exact heq
  · rw [heq] at h
    exact absurd h (Registry.append_number_notMem hdigits base n)

/-- The letters that are no hexadecimal digits, but for the last one of `item`. -/
def clearLetters : List Char := "ghijklnopqrstuvwxyzGHIJKLNOPQRSTUVWXYZ".toList

lemma keptLetters_clearLetters : KeptLetters clearLetters := by decide +kernel

lemma lasting_of_mem_clearLetters {c : Char} (hc : c ∈ clearLetters) : Pointer.Lasting [c] := by
  have hall : (clearLetters.all fun c => decide (Pointer.Lasting [c])) = true := by decide +kernel
  exact of_decide_eq_true (List.all_eq_true.mp hall c hc)

lemma endsIn_lastName (folder : String) {text : String} (h : EndsIn clearLetters text.toList) :
    EndsIn clearLetters (Pointer.lastName (folder ++ Pointer.escape text)).toList := by
  obtain ⟨c, hc, hends⟩ := h
  have hlasting := lasting_of_mem_clearLetters hc
  refine ⟨c, hc, hlasting.suffix_lastName ?_⟩
  rw [String.toList_append]
  exact (hlasting.suffix_escape hends).trans (List.suffix_append _ _)

/-- Every text that the templates for names give ends in one of these letters. -/
structure EndsClear (options : TransformersOptions) : Prop where
  schemaName : ∀ name text, Template.nameFor options.schemaName name = .ok text →
    EndsIn clearLetters text.toList
  responseName : ∀ name text, Template.nameFor options.responseName name = .ok text →
    EndsIn clearLetters text.toList

namespace EndsClear

variable (h : EndsClear options) (hreference : f.reference? options = some p)
include h hreference

/-- So does the name that a function asks for. -/
lemma endsIn_baseName (convention : NamingConvention) :
    EndsIn clearLetters (Registry.baseName p convention).toList := by
  refine Registry.endsIn_baseName keptLetters_clearLetters convention ?_
  cases f with
  | helper pointer =>
    obtain ⟨component, helper, -, hname, rfl⟩ := exists_helper hreference
    exact endsIn_lastName _ (h.schemaName _ _ hname)
  | response op =>
    obtain ⟨transformer, hname, rfl⟩ := exists_transformer hreference
    exact endsIn_lastName _ (h.responseName _ _ hname)

/-- No parameter ends in one of these letters, so no function has its name. -/
lemma not_parameter (taken : List String) (convention : NamingConvention) :
    Registry.uniqueName taken (Registry.baseName p convention) ∉ ["data", "item"] := by
  have hclear : ∀ w ∈ ["data", "item"], ¬ EndsIn clearLetters w.toList := by decide +kernel
  intro hmem
  rw [uniqueName_eq_of_parameter hmem] at hmem
  exact hclear _ hmem (h.endsIn_baseName hreference convention)

end EndsClear

/-- The templates for names are those of the defaults. -/
structure DefaultNames (options : TransformersOptions) : Prop where
  schemaName_eq : options.schemaName = ({} : TransformersOptions).schemaName
  responseName_eq : options.responseName = ({} : TransformersOptions).responseName

namespace DefaultNames

lemma plain (h : DefaultNames options) : PlainNames options where
  schemaName := by
    rw [h.schemaName_eq]
    exact ⟨[], "SchemaResponseTransformer".toList, by decide +kernel, by decide +kernel,
      by decide +kernel⟩
  responseName := by
    rw [h.responseName_eq]
    exact ⟨[], "ResponseTransformer".toList, by decide +kernel, by decide +kernel,
      by decide +kernel⟩

lemma endsClear (h : DefaultNames options) : EndsClear options where
  schemaName := by
    have hsample : Template.nameFor options.schemaName "x" = .ok "xSchemaResponseTransformer" := by
      rw [h.schemaName_eq]
      exact Generation.eq_ok_of_toOption (by decide +kernel)
    exact fun _ _ hname => ⟨'r', by decide, h.plain.schemaName.suffix_nameFor hsample (by decide)
      (by decide) (by decide) hname⟩
  responseName := by
    have hsample : Template.nameFor options.responseName "x" = .ok "xResponseTransformer" := by
      rw [h.responseName_eq]
      exact Generation.eq_ok_of_toOption (by decide +kernel)
    exact fun _ _ hname => ⟨'r', by decide, h.plain.responseName.suffix_nameFor hsample (by decide)
      (by decide) (by decide) hname⟩

end DefaultNames

/-! ### Functions and their schemas -/

/-- Functions that are known under one reference are for one schema. -/
lemma schema?_eq_of_reference? (hnames : PlainNames options)
    (hids : (api.operations.map Operation.id).Nodup) (hf : f.BelongsTo api)
    (hf' : f'.BelongsTo api) (h : f.reference? options = some p)
    (h' : f'.reference? options = some p) : f.schema? api = f'.schema? api := by
  cases namedAlike_of_reference? h h' with
  | helper hcomponent hcomponent' hname hname' =>
    obtain rfl := hnames.schemaName.injective hname hname'
    simp [Function.schema?, Catalog.find?, hcomponent, hcomponent']
  | response hname hname' =>
    have hid := hnames.responseName.injective hname hname'
    rw [List.inj_on_of_nodup_map hids hf hf' hid]

lemma unambiguous (hnames : PlainNames options)
    (hids : (api.operations.map Operation.id).Nodup) : Unambiguous options api :=
  fun _ _ _ hf hf' h h' => schema?_eq_of_reference? hnames hids hf hf' h h'

/-! ### Functions of a finished file -/

namespace Coherent

variable (hσ : Coherent options api [] declared σ) (hl : Truncated σ.diagnostics → lossy)

include hσ in
/-- The name of a function is declared exactly once. -/
lemma count_constNames (hentry : σ.registry.status? p .value fileId = some (.active name)) :
    (constNames (declared.map Prod.snd)).count name = 1 := by
  refine List.count_eq_one_of_mem hσ.nodup_constNames ?_
  rw [hσ.constNames_eq]
  exact List.mem_map.mpr ⟨p, (hσ.active hentry).resolve_left List.not_mem_nil, nameOf_eq hentry⟩

include hσ in
/-- A name that was withdrawn is not declared. -/
lemma not_mem_constNames (hentry : σ.registry.status? p .value fileId = some (.suppressed name)) :
    name ∉ constNames (declared.map Prod.snd) := by
  rw [hσ.constNames_eq]
  intro hmem
  obtain ⟨q, hq, hname⟩ := List.mem_map.mp hmem
  obtain ⟨other, hother⟩ := hσ.status?_of_mem hq
  rw [nameOf_eq hother] at hname
  obtain rfl := hσ.distinct.pointer_eq hother hentry (congrArg Text.lowercase hname)
  simp [hentry] at hother

include hσ in
/-- A name was given for a function of the model. -/
lemma exists_of_active (hentry : σ.registry.status? p .value fileId = some (.active name)) :
    ∃ (f : Function) (s : Schema), f.BelongsTo api ∧ f.reference? options = some p
      ∧ f.schema? api = some s := by
  have hmem : p ∈ declared.map Prod.fst := (hσ.active hentry).resolve_left List.not_mem_nil
  obtain ⟨d, hd, rfl⟩ := List.mem_map.mp hmem
  obtain ⟨f, s, _, _, hf, hreference, hs, -⟩ := hσ.sound d hd
  exact ⟨f, s, hf, hreference, hs⟩

section

variable (hsame : Unambiguous options api) (hf : f.BelongsTo api)
  (hreference : f.reference? options = some p) (hs : f.schema? api = some s)
include hσ hl hsame hf hreference hs

/-- The schema of a function that is withdrawn is blank. -/
lemma blank (hentry : σ.registry.status? p .value fileId = some (.suppressed name)) :
    Blank options api lossy s := by
  obtain ⟨f', hf', hreference', hblank⟩ := hσ.withdrawn hentry
  exact (hblank s ((hsame hf' hf hreference' hreference).trans hs)).mono hl

/-- A function that has a name is declared by its statements. -/
lemma exists_body (hentry : σ.registry.status? p .value fileId = some (.active name)) :
    ∃ body, Emits options lossy σ.registry s data body ∧ body ≠ []
      ∧ (declared.map Prod.snd).findSome? (Stmt.function? name)
        = some ("data", returning data (guardedBody s data body)) := by
  have hmem : p ∈ declared.map Prod.fst := (hσ.active hentry).resolve_left List.not_mem_nil
  obtain ⟨d, hd, rfl⟩ := List.mem_map.mp hmem
  obtain ⟨f', t, name', body, hf', hreference', ht, hentry', hemits, hne, exported, isAsync, result,
    hstmt⟩ := hσ.sound d hd
  obtain rfl : name' = name := by simpa [hentry] using hentry'.symm
  obtain rfl : t = s := by
    have heq := hsame hf' hf hreference' hreference
    exact Option.some.inj (ht.symm.trans (heq.trans hs))
  refine ⟨body, hemits.mono hl (Registry.Extends.refl _), hne, ?_⟩
  refine findSome?_function? hσ.nodup_constNames (List.mem_map_of_mem hd) ?_
  simp [hstmt, Stmt.function?]

end

include hσ hl in
/-- The functions of the file are those whose names were given. -/
lemma linked (hsame : Unambiguous options api) (hapart : NamesApart σ.registry) :
    Linked options numberText api lossy σ.registry
      (globals numberText (declared.map Prod.snd)) where
  numberText_eq := fun m => by cases m <;> rfl
  not_declared := by
    intro m n hn hdeclared
    have hconst : n ∈ constNames (declared.map Prod.snd) := by
      cases m <;> exact hdeclared
    rw [hσ.constNames_eq] at hconst
    obtain ⟨p, hp, rfl⟩ := List.mem_map.mp hconst
    obtain ⟨name, hname⟩ := hσ.status?_of_mem hp
    rw [Coherent.nameOf_eq hname] at hn
    have hreserved : ∀ n ∈ ["undefined", "Date", "BigInt"], n ∈ Registry.reserved := by
      decide +kernel
    exact hσ.distinct.unreserved hname (hreserved _ hn)
  unambiguous := hsame
  withdrawn := fun hentry => (hσ.withdrawn hentry).mono hl
  active := by
    intro p name hentry
    obtain ⟨f, s, hf, hreference, hs⟩ := hσ.exists_of_active hentry
    obtain ⟨body, hemits, hne, hfunction⟩ :=
      hσ.exists_body hl hsame hf hreference hs hentry
    refine ⟨f, s, body, hf, hreference, hs, hemits, hne, hapart hentry, fun m => ?_,
      fun m v heap => call_globals hfunction m heap⟩
    have hconst : name ∈ constNames (declared.map Prod.snd) := by
      rw [hσ.constNames_eq]
      refine List.mem_map.mpr ⟨p, (hσ.active hentry).resolve_left List.not_mem_nil, ?_⟩
      exact Coherent.nameOf_eq hentry
    cases m <;> exact hconst

end Coherent

/-- Under the templates of the defaults, no function has the name of a parameter. -/
lemma DefaultNames.namesApart (hnames : DefaultNames options)
    (hσ : Coherent options api [] declared σ) : NamesApart σ.registry := by
  intro p name hentry
  obtain ⟨f, s, -, hreference, -⟩ := hσ.exists_of_active hentry
  obtain ⟨taken, convention, rfl : name = _⟩ := hσ.distinct.made hentry
  exact hnames.endsClear.not_parameter hreference taken convention

section

variable {config : Config} {pipeline : Pipeline} {file : Output.File}
  (hids : (api.operations.map Operation.id).Nodup)
  (hp : Pipeline.ofConfig config = .ok pipeline)
  (hmem : .transformers options ∈ config.generators)
  (hσ : pipeline.session ⟨api, config⟩ = .ok σ)

include hids hp hmem hσ in
lemma DefaultNames.namesApart_of_session (hnames : DefaultNames options) :
    NamesApart σ.registry := by
  obtain ⟨declared, hcoherent⟩ :=
    (complete_of_session hnames.plain.responseName hids hp hmem hσ).coherent
  exact hnames.namesApart hcoherent

variable (hnames : PlainNames options) (hfile : σ.files.get? fileId = some file)
include hids hp hmem hσ hnames hfile

/-- The finished file holds what was declared. -/
lemma exists_coherent_of_session :
    ∃ declared, Coherent options api [] declared σ ∧ file.nodes = declared.map Prod.snd := by
  obtain ⟨declared, hcoherent⟩ :=
    (complete_of_session hnames.responseName hids hp hmem hσ).coherent
  obtain ⟨file', hfile', hnodes⟩ := hcoherent.file
  obtain rfl := Option.some.inj (hfile.symm.trans hfile')
  exact ⟨declared, hcoherent, hnodes⟩

/-- The name of a function is declared exactly once in the finished file. -/
lemma count_constNames_of_session
    (hentry : σ.registry.status? p .value fileId = some (.active name)) :
    (constNames file.nodes).count name = 1 := by
  obtain ⟨declared, hcoherent, hnodes⟩ := exists_coherent_of_session hids hp hmem hσ hnames hfile
  exact hnodes ▸ hcoherent.count_constNames hentry

/-- The functions of the finished file are those whose names were given. -/
lemma linked_of_session (hl : Truncated σ.diagnostics → lossy) (hapart : NamesApart σ.registry) :
    Linked options numberText api lossy σ.registry (globals numberText file.nodes) := by
  obtain ⟨declared, hcoherent, hnodes⟩ := exists_coherent_of_session hids hp hmem hσ hnames hfile
  rw [hnodes]
  exact hcoherent.linked hl (unambiguous hnames hids) hapart

end

/-! ### Models -/

/-- An operation that answers with a schema. -/
def answering (path id : String) (s : Schema) : Operation where
  id
  method := .get
  path
  operationId := none
  summary := none
  description := none
  deprecated := false
  tags := []
  parameters := {}
  body := none
  responses := [("200", ⟨some "application/json", none, s⟩)]
  security := []
  servers := []

/-- A model of some components and operations. -/
def modelOf (schemas : Entries String Schema) (operations : List Operation) : Api where
  paths := operations.map fun op => (op.path, [(op.method, op)])
  components := { schemas }

end OpenApiTypes.Transformers
