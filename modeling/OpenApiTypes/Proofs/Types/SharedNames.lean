/-
The names of a constant and of the type beside it.

* `Types.Paired`: the constant of an enumeration and its type stand beside each other in the file,
  under the names given for the component; `Types.paired_run`: the generator of types puts them
  there for every component that lists values;
* `Types.Finished`: the names in a file of types are given without gaps, and everybody who has one
  declares it; `Types.finished_run`: as the generator leaves it behind;
* `Types.constant_eq_type_iff_of_session`: both have one name **exactly if no other statement
  declares a type with the name of the constant or a constant with the name of the type**, whatever
  capitals these have;
* `Types.exists_names_apart`: a component whose name differs from that of an enumeration in capitals
  only takes the name of its type, but not that of its constant.
-/
import OpenApiTypes.Proofs.Normalize.Compositions
import OpenApiTypes.Proofs.Types.Enumerations
import OpenApiTypes.Proofs.Types.File
import OpenApiTypes.Proofs.Types.Requests

namespace OpenApiTypes.Types

open OpenApiTypes.Config (TypesOptions)
open OpenApiTypes.Generation (Pipeline Runs Session runs_addTo_iff runs_bind_iff runs_ofNames_iff
  runs_pure_iff)
open OpenApiTypes.Model
open OpenApiTypes.Output (Namespace Registry)
open OpenApiTypes.TypeScript (Stmt aliasNames constNames)

variable {name constant type : String} {s : Schema} {σ σ' : Session} {options : TypesOptions}
  {convention : NamingConvention} {r : Registry} {nodes before after : List Stmt}

/-! ### Constants and types beside each other -/

/-- The constant of an enumeration and its type, as they stand in a file. -/
def pairOf (s : Schema) (constant type : String) : List Stmt :=
  [.const constant true none (enumObject s) (comment s),
    .typeAlias type true (enumType constant s) (comment s)]

@[simp] lemma aliasNames_pairOf (s : Schema) (constant type : String) :
    aliasNames (pairOf s constant type) = [type] := rfl

@[simp] lemma constNames_pairOf (s : Schema) (constant type : String) :
    constNames (pairOf s constant type) = [constant] := rfl

/-- The constant of an enumeration and its type stand beside each other in the file of types, under
the names given for the component. -/
def Paired (name : String) (s : Schema) (σ : Session) : Prop :=
  ∃ file before constant type after, σ.files.get? fileId = some file
    ∧ file.nodes = before ++ pairOf s constant type ++ after
    ∧ σ.registry.status? (Pointer.schema name) .value fileId = some (.active constant)
    ∧ σ.registry.status? (Pointer.schema name) .type fileId = some (.active type)

/-- What the generator does later leaves both where they are. -/
lemma kept_paired (name : String) (s : Schema) : Kept (Paired name s) where
  names := by
    intro α x result hx σ a σ' hrun hσ
    obtain ⟨-, rfl⟩ := runs_ofNames_iff.mp hrun
    obtain ⟨file, before, constant, type, after, hfile, hnodes, hconstant, htype⟩ := hσ
    have hkeeps := (hx σ.registry).1.keeps
    exact ⟨file, before, constant, type, after, hfile, hnodes, hkeeps hconstant, hkeeps htype⟩
  addTo := by
    intro t σ a σ' hrun hσ
    obtain ⟨file, before, constant, type, after, hfile, hnodes, hentries⟩ := hσ
    obtain ⟨file', hfile', rfl⟩ := runs_addTo_iff.mp hrun
    obtain rfl : file = file' := Option.some.inj (hfile.symm.trans hfile')
    refine ⟨_, before, constant, type, after ++ [t], Entries.get?_put_self _ _ _, ?_, hentries⟩
    rw [Output.File.add, hnodes, List.append_assoc _ after]

/-- The declaration of an enumeration puts both beside each other. -/
lemma paired_declareSchema {names types constants : List String} {conversions : Conversions}
    {u : Unit} (h : Progress names types constants σ)
    (henum : (options.enums && s.hasShape .enum) = true)
    (hrun : Runs (declareSchema options conversions name s) σ u σ') : Paired name s σ' := by
  simp only [declareSchema, runs_bind_iff] at hrun
  obtain ⟨i, σ₁, hrequest, hrun⟩ := hrun
  obtain ⟨h₁, -, type, hname, htype⟩ := h.request hrequest
  rw [hname] at hrun
  simp only [constantName?, henum, if_true, runs_bind_iff, runs_pure_iff] at hrun
  obtain ⟨_, σ₂, ⟨j, _, hrequest', rfl, rfl⟩, hrun⟩ := hrun
  obtain ⟨-, hextends, constant, hconstant, hentry⟩ := h₁.request hrequest'
  rw [hconstant] at hrun
  obtain ⟨_, σ₃, hadd, halias⟩ := runs_bind_iff.mp hrun
  obtain ⟨file, -, rfl⟩ := runs_addTo_iff.mp hadd
  obtain ⟨file', hfile', rfl⟩ := runs_addTo_iff.mp halias
  obtain rfl := Option.some.inj ((Entries.get?_put_self _ _ _).symm.trans hfile')
  refine ⟨_, file.nodes, constant, type, [], Entries.get?_put_self _ _ _, ?_, hentry,
    hextends htype⟩
  simp [Output.File.add, pairOf]

/-- The generator of types puts them there for every component that lists values. -/
lemma paired_run {setting : Generation.Setting} {u : Unit} (henums : options.enums = true)
    (hevents : ∀ e ∈ typeEvents setting.model, EventRefersOnlyTo setting.model.catalog.keys e)
    (hrun : Runs (run setting options) {} u σ) (hmem : (name, s) ∈ setting.model.catalog)
    (hshape : s.hasShape .enum = true) : Paired name s σ := by
  obtain ⟨_, σ₁, hcreate, hrun⟩ := runs_bind_iff.mp hrun
  have hevent : .schema name s ∈ typeEvents setting.model := by
    rw [typeEvents_eq]
    simpa using hmem
  obtain ⟨front, rest, σ₂, σ₃, hsplit, hfront, hstep, hrest⟩ := Runs.exists_of_mem hrun hevent
  change typeEvents setting.model = _ at hsplit
  have h₂ := progress_forM (progress_createFile setting.model.catalog.keys hcreate)
    (fun e he => hevents e (hsplit ▸ List.mem_append_left _ he)) hfront
  have h₃ : Paired name s σ₃ := paired_declareSchema h₂ (by simp [henums, hshape]) hstep
  exact Generation.Keeps.forM (fun e _ => (kept_paired name s).declareEvent options e) hrest h₃

/-! ### Names in a finished file -/

/-- The names that statements declare in a namespace. -/
def declaredNames (nodes : List Stmt) : Namespace → List String
  | .type => aliasNames nodes
  | .value => constNames nodes

/-- The names in a file of types are given without gaps, to different references, and everybody who
has one declares it. -/
structure Finished (convention : NamingConvention) (given : Namespace → List String)
    (r : Registry) (nodes : List Stmt) : Prop where
  gapless : r.Gapless fileId convention
  distinct : ∀ ns, r.Distinct ns fileId
  nodup : ∀ ns, (given ns).Nodup
  named : ∀ ns, Named r ns (given ns) (declaredNames nodes ns)
  active : ∀ {pointer ns e}, r.status? pointer ns fileId = some e → ∃ name, e = .active name
  mem_given : ∀ {pointer ns e}, r.status? pointer ns fileId = some e → pointer ∈ given ns

namespace Finished

variable {given : Namespace → List String} (h : Finished convention given r nodes)

include h

/-- Who has a name declares it. -/
lemma mem_of_holds {ns : Namespace} (hheld : r.Holds ns fileId name) :
    Text.lowercase name ∈ (declaredNames nodes ns).map Text.lowercase := by
  obtain ⟨pointer, e, he, hsame⟩ := hheld
  obtain ⟨given, rfl⟩ := h.active he
  exact List.mem_map.mpr ⟨given, (h.named ns).mem (h.mem_given he) he, hsame⟩

/-- The names of an enumeration are the same exactly if no other statement has one of them in the
other namespace. -/
lemma constant_eq_type_iff {pointer : String}
    (hnodes : nodes = before ++ pairOf s constant type ++ after)
    (hconstant : r.status? pointer .value fileId = some (.active constant))
    (htype : r.status? pointer .type fileId = some (.active type)) :
    constant = type ↔
      Text.lowercase constant ∉ (aliasNames (before ++ after)).map Text.lowercase
        ∧ Text.lowercase type ∉ (constNames (before ++ after)).map Text.lowercase := by
  have htypes : ((aliasNames nodes).map Text.lowercase).Perm
      (Text.lowercase type :: (aliasNames (before ++ after)).map Text.lowercase) := by
    rw [hnodes]
    simp [List.perm_middle]
  have hconstants : ((constNames nodes).map Text.lowercase).Perm
      (Text.lowercase constant :: (constNames (before ++ after)).map Text.lowercase) := by
    rw [hnodes]
    simp [List.perm_middle]
  constructor
  · rintro rfl
    have hnodup := htypes.nodup_iff.mp ((h.named .type).nodup (h.distinct _) (h.nodup _))
    have hnodup' := hconstants.nodup_iff.mp ((h.named .value).nodup (h.distinct _) (h.nodup _))
    exact ⟨(List.nodup_cons.mp hnodup).1, (List.nodup_cons.mp hnodup').1⟩
  · rintro ⟨hfree, hfree'⟩
    by_contra hne
    have hsmall := h.gapless.lowercase_ne hconstant htype hne
    rcases h.gapless.holds_or_holds hconstant htype hne with hheld | hheld
    · have hmem := htypes.mem_iff.mp (h.mem_of_holds hheld)
      exact hfree ((List.mem_cons.mp hmem).resolve_left hsmall)
    · have hmem := hconstants.mem_iff.mp (h.mem_of_holds hheld)
      exact hfree' ((List.mem_cons.mp hmem).resolve_left hsmall.symm)

end Finished

/-- A component whose constant is declared has a type that is declared. -/
lemma givenPointers_subset (options : TypesOptions) (events : List Generation.Event)
    (ns : Namespace) : givenPointers options events ns ⊆ givenPointers options events .type := by
  cases ns with
  | type => exact List.Subset.refl _
  | value =>
    intro pointer hpointer
    obtain ⟨e, he, hpointer⟩ := List.mem_flatMap.mp hpointer
    refine List.mem_flatMap.mpr ⟨e, he, ?_⟩
    cases e with
    | schema name s =>
      simp only [constantPointers, declaredConstants] at hpointer
      split at hpointer
      · exact hpointer
      · exact absurd hpointer List.not_mem_nil
    | _ => exact absurd hpointer List.not_mem_nil

/-- The generator of types leaves a finished file behind, if the entries of its model refer to
components only and give different types and constants. -/
lemma finished_run {setting : Generation.Setting} {u : Unit} {file : Output.File}
    (hrun : Runs (run setting options) {} u σ) (hfile : σ.files.get? fileId = some file)
    (hevents : ∀ e ∈ typeEvents setting.model, EventRefersOnlyTo setting.model.catalog.keys e)
    (hnodup : ∀ ns, (givenPointers options (typeEvents setting.model) ns).Nodup) :
    Finished options.convention (givenPointers options (typeEvents setting.model)) σ.registry
      file.nodes := by
  obtain ⟨hsound, file', hfile', hdeclares⟩ := progress_run hevents hrun
  obtain rfl : file' = file := Option.some.inj (hfile'.symm.trans hfile)
  have hasked := asked_run hevents hrun
  refine ⟨hasked.gapless (Registry.gapless_registerFile_nil _ _), fun ns => ?_, hnodup,
    fun ns => ?_, hsound.active,
    hasked.wanted_of_status? (by rw [Registry.status?_registerFile, Registry.status?_nil])⟩
  · cases ns with
    | type => exact hsound.types
    | value => exact hsound.values
  · cases ns with
    | type => exact hdeclares.types_named
    | value => exact hdeclares.constants_named

/-! ### One name for both -/

/-- The constant of an enumeration and its type stand beside each other in the file of types of a
document, under every configuration that asks for constants. They have one name exactly if no other
statement declares a type with the name of the constant or a constant with the name of the type,
whatever capitals these have. So they do, and it is the name that the component asks for, if no
other type asks for a name that differs from it in capitals and in the number at its end at most. -/
theorem constant_eq_type_iff_of_session {source : Spec.Source} {normalization : Normalize.Options}
    {r : Reported Api} {config : Config} {p : Pipeline} (hsource : source.IsRead)
    (hmodel : Normalize.run source normalization = .ok r) (hp : Pipeline.ofConfig config = .ok p)
    (hσ : p.session ⟨r.value, config⟩ = .ok σ) (hoptions : .types options ∈ p)
    (henums : options.enums = true) (hmem : (name, s) ∈ r.value.catalog)
    (hshape : s.hasShape .enum = true) :
    ∃ file before constant type after, σ.files.get? fileId = some file
      ∧ file.nodes = before ++ pairOf s constant type ++ after
      ∧ σ.registry.status? (Pointer.schema name) .value fileId = some (.active constant)
      ∧ σ.registry.status? (Pointer.schema name) .type fileId = some (.active type)
      ∧ (constant = type ↔
        Text.lowercase constant ∉ (aliasNames (before ++ after)).map Text.lowercase
          ∧ Text.lowercase type ∉ (constNames (before ++ after)).map Text.lowercase)
      ∧ ((∀ pointer ∈ (typeEvents r.value).flatMap typePointers, pointer ≠ Pointer.schema name →
          Registry.root (Registry.baseName pointer options.convention)
            ≠ Registry.root (Registry.baseName (Pointer.schema name) options.convention)) →
        constant = Registry.baseName (Pointer.schema name) options.convention
          ∧ type = Registry.baseName (Pointer.schema name) options.convention) := by
  have hr := Normalize.eq_api_of_run hmodel
  have hevents : ∀ e ∈ typeEvents r.value, EventRefersOnlyTo r.value.catalog.keys e := by
    rw [hr]
    exact eventRefersOnlyTo_of_mem source normalization
  have hnodup : ∀ ns, (givenPointers options (typeEvents r.value) ns).Nodup := by
    intro ns
    rw [hr]
    cases ns with
    | type => exact nodup_typePointers hsource normalization
    | value => exact nodup_constantPointers hsource normalization options
  obtain ⟨σ₁, hrun, hsame, hnames⟩ := Transformers.types_run_of_mem hp hσ hoptions
  obtain ⟨file, before, constant, type, after, hfile, hnodes, hconstant, htype⟩ :=
    paired_run henums hevents hrun hmem hshape
  have hfinished := finished_run hrun hfile hevents hnodup
  refine ⟨file, before, constant, type, after, hsame.trans hfile, hnodes,
    (hnames _ _).trans hconstant, (hnames _ _).trans htype,
    hfinished.constant_eq_type_iff hnodes hconstant htype, fun hroot => ?_⟩
  have hname : ∀ {ns given}, σ₁.registry.status? (Pointer.schema name) ns fileId
      = some (.active given) → given = Registry.baseName (Pointer.schema name) options.convention :=
    fun {ns given} he => hfinished.gapless.name_eq_baseName he fun q e' he' hq =>
      hroot q (givenPointers_subset options _ ns (hfinished.mem_given he')) hq
  exact ⟨hname hconstant, hname htype⟩

/-- A document with two enumerations, and a component whose name differs from that of one of them in
capitals only. -/
def capitals : Spec.Source := Spec.Source.ofSchemas
  [("pet", .obj [("type", .str "string")]),
    ("Pet", .obj [("enum", .arr [.str "cat", .str "dog"])]),
    ("Size", .obj [("enum", .arr [.str "s", .str "m"])])]
  [("pet", .inline (Normalize.textIn none)),
    ("Pet", .inline { enumValues := [.str "cat", .str "dog"] }),
    ("Size", .inline { enumValues := [.str "s", .str "m"] })]

lemma isRead_capitals : capitals.IsRead := by
  refine Spec.Source.isRead_ofSchemas (by decide +kernel) ?_
  simp [Json.entries?, Spec.Position.ofJson?, Spec.Schema.ofMembers?, Entries.get?,
    List.lookup_cons]
  rfl

/-- Its model. -/
def capitalsModel : Api where
  info := ⟨"Pets", none, "1"⟩
  components := { schemas := [("pet", { shape := some .string }),
    ("Pet", Normalize.enumeration [.str "cat", .str "dog"]),
    ("Size", Normalize.enumeration [.str "s", .str "m"])] }

lemma run_capitals : ∃ warnings,
    Normalize.run capitals ⟨.declaredId, [], []⟩ = .ok ⟨capitalsModel, warnings⟩ := by
  have hmodel : (Normalize.api capitals ⟨.declaredId, [], []⟩).value = capitalsModel := by
    simp [Normalize.api, capitals, Spec.Source.ofSchemas, Normalize.componentSchemas,
      Normalize.position_textIn, position_enumValues]
    rfl
  exact ⟨_, by rw [← hmodel]; rfl⟩

/-- A configuration that asks for constants. -/
def withConstants : Config := { generators := [.types { enums := true }] }

/-- What a session makes of the names of a component: that of its constant, that of its type, and
the names that the file declares. -/
def namesIn (σ : Session) (name : String) : Option (Option String × Option String
    × List String × List String) :=
  (σ.files.get? fileId).map fun file =>
    (σ.registry.name? (Pointer.schema name) .value fileId,
      σ.registry.name? (Pointer.schema name) .type fileId,
      constNames file.nodes, aliasNames file.nodes)

theorem constant_eq_type_iff_of_session_capitals : ∃ r σ file before after,
    capitals.IsRead ∧ Normalize.run capitals ⟨.declaredId, [], []⟩ = .ok r
      ∧ Pipeline.ofConfig withConstants = .ok [.types { enums := true }]
      ∧ Pipeline.session [.types { enums := true }] ⟨r.value, withConstants⟩ = .ok σ
      ∧ ("Size", Normalize.enumeration [.str "s", .str "m"]) ∈ r.value.catalog
      ∧ σ.files.get? fileId = some file
      ∧ file.nodes = before
        ++ pairOf (Normalize.enumeration [.str "s", .str "m"]) "Size" "Size" ++ after := by
  obtain ⟨warnings, hrun⟩ := run_capitals
  have hconfig : Pipeline.ofConfig withConstants = .ok [.types { enums := true }] := rfl
  have hsession : (Pipeline.session [.types { enums := true }] ⟨capitalsModel, withConstants⟩
      ).toOption.isSome = true := by decide +kernel
  obtain ⟨σ, hσ⟩ := Option.isSome_iff_exists.mp hsession
  have hσ := Generation.eq_ok_of_toOption hσ
  have hmem : ("Size", Normalize.enumeration [.str "s", .str "m"]) ∈ capitalsModel.catalog := by
    simp [capitalsModel, Api.catalog]
  have hroots : ∀ pointer ∈ (typeEvents capitalsModel).flatMap typePointers,
      pointer ≠ Pointer.schema "Size" → Registry.root (Registry.baseName pointer .pascal)
        ≠ Registry.root (Registry.baseName (Pointer.schema "Size") .pascal) := by decide +kernel
  obtain ⟨file, before, constant, type, after, hfile, hnodes, -, -, -, hnames⟩ :=
    constant_eq_type_iff_of_session isRead_capitals hrun hconfig hσ List.mem_cons_self rfl hmem rfl
  have hbase : Registry.baseName (Pointer.schema "Size") .pascal = "Size" := by decide +kernel
  obtain ⟨hconstant, htype⟩ := hnames hroots
  obtain rfl : constant = "Size" := hconstant.trans hbase
  obtain rfl : type = "Size" := htype.trans hbase
  exact ⟨_, σ, file, before, after, isRead_capitals, hrun, hconfig, hσ, hmem, hfile, hnodes⟩

/-- The type of the enumeration gets a number, since its name is taken by that of the other
component; its constant gets none, and so has the name of the other component's type. -/
theorem exists_names_apart : ∃ r σ,
    capitals.IsRead ∧ Normalize.run capitals ⟨.declaredId, [], []⟩ = .ok r
      ∧ Pipeline.ofConfig withConstants = .ok [.types { enums := true }]
      ∧ Pipeline.session [.types { enums := true }] ⟨r.value, withConstants⟩ = .ok σ
      ∧ ("Pet", Normalize.enumeration [.str "cat", .str "dog"]) ∈ r.value.catalog
      ∧ namesIn σ "Pet" = some (some "Pet", some "Pet2", ["Pet", "Size"], ["Pet", "Pet2", "Size"])
      ∧ σ.registry.name? (Pointer.schema "pet") .type fileId = some "Pet" := by
  obtain ⟨warnings, hrun⟩ := run_capitals
  have hsession : (Pipeline.session [.types { enums := true }] ⟨capitalsModel, withConstants⟩
      ).toOption.bind (fun σ => (namesIn σ "Pet").bind fun names =>
        (σ.registry.name? (Pointer.schema "pet") .type fileId).map fun name => (names, name))
      = some ((some "Pet", some "Pet2", ["Pet", "Size"], ["Pet", "Pet2", "Size"]), "Pet") := by
    decide +kernel
  obtain ⟨σ, hσ, hnames⟩ := Option.bind_eq_some_iff.mp hsession
  obtain ⟨names, hnames, hother⟩ := Option.bind_eq_some_iff.mp hnames
  obtain ⟨name, hname, heq⟩ := Option.map_eq_some_iff.mp hother
  obtain ⟨rfl, rfl⟩ := Prod.mk.inj heq
  exact ⟨_, σ, isRead_capitals, hrun, rfl, Generation.eq_ok_of_toOption hσ,
    by simp [capitalsModel, Api.catalog], hnames, hname⟩

end OpenApiTypes.Types
