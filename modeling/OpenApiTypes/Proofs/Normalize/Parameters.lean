/-
Parameters of a path and of an operation.

* `Model.Parameters.Merges`: parameters are those of two lists, the second of which overrides the
  first; `Model.Parameters.Merges.ofList`: so are those of both lists one after the other;
* `Normalize.resolvedParameter`: what an entry of a list stands for;
* `Normalize.converted`: what the entries of a list are turned into; entries that stand for nothing
  are left out. `Normalize.parameterList_apply`: with their warnings, this is the list;
* `Normalize.merges_of_run`: **the parameters of an operation override those of its path**, each at
  its place and under its name. What is left out overrides nothing.
-/
import OpenApiTypes.Proofs.Normalize.Operations

namespace OpenApiTypes

namespace Model

/-- A parameter is sent at a place under a name. -/
def Parameter.sentAs (place : Place) (name : String) (p : Parameter) : Bool :=
  p.place == place && p.name == name

namespace Parameters

variable {ps : Parameters} {l shared own : List Parameter} {p : Parameter} {place : Place}
  {name : String}

/-! ### Lists of parameters -/

lemma at_insert (ps : Parameters) (p : Parameter) (place : Place) :
    (ps.insert p).at_ place
      = if p.place = place then (ps.at_ place).put p.name p else ps.at_ place := by
  unfold insert
  split <;> rename_i hplace <;> rw [hplace] <;> cases place <;> rfl

/-- At every place, the parameters of a list are the map of those that are sent there. -/
lemma at_ofList (l : List Parameter) (place : Place) : (ofList l).at_ place
    = .ofPairs ((l.filter fun p => p.place == place).map fun p => (p.name, p)) := by
  induction l using List.reverseRecOn with
  | nil => cases place <;> rfl
  | append_singleton l p ih =>
    have hinsert : ofList (l ++ [p]) = (ofList l).insert p := by simp [ofList]
    rw [hinsert, at_insert, ih, List.filter_append, List.map_append]
    by_cases hplace : p.place = place
    · simp [hplace, Entries.ofPairs_concat]
    · simp [hplace]

lemma get?_ofList (l : List Parameter) (place : Place) (name : String) :
    ((ofList l).at_ place).get? name = (l.filter (Parameter.sentAs place name)).getLast? := by
  have hsent : (fun p : Parameter => p.name == name && p.place == place)
      = Parameter.sentAs place name := by
    funext p
    exact Bool.and_comm _ _
  rw [at_ofList, Entries.get?_ofPairs, List.filter_map, List.getLast?_map, Option.map_map]
  simp only [Function.comp_def, List.filter_filter, hsent, Option.map_id']

lemma keys_ofList (l : List Parameter) (place : Place) : ((ofList l).at_ place).keys
    = ((l.filter fun p => p.place == place).map Parameter.name).eraseDups := by
  rw [at_ofList, Entries.keys_ofPairs, List.map_map]
  rfl

/-! ### Two lists -/

/-- Parameters are those of two lists, the second of which overrides the first. -/
structure Merges (shared own : List Parameter) (ps : Parameters) : Prop where
  isSome_iff : ∀ place name, ((ps.at_ place).get? name).isSome ↔
    ∃ p ∈ shared ++ own, p.place = place ∧ p.name = name
  get?_eq : ∀ place name, (ps.at_ place).get? name
    = (own.filter (Parameter.sentAs place name)).getLast?.or
      (shared.filter (Parameter.sentAs place name)).getLast?
  fits : ∀ place, ∀ x ∈ ps.at_ place, x.2.place = place ∧ x.2.name = x.1
  keys_eq : ∀ place, (ps.at_ place).keys
    = (((shared ++ own).filter fun p => p.place == place).map Parameter.name).eraseDups

theorem Merges.ofList (shared own : List Parameter) :
    Merges shared own (.ofList (shared ++ own)) where
  isSome_iff place name := by
    rw [get?_ofList, List.getLast?_isSome, ← List.length_pos_iff, List.length_filter_pos_iff]
    simp [Parameter.sentAs]
  get?_eq place name := by
    rw [get?_ofList, List.filter_append, List.getLast?_append]
  fits place x hx := by
    rw [at_ofList] at hx
    obtain ⟨p, hp, rfl⟩ := List.mem_map.mp (Entries.mem_of_mem_ofPairs hx)
    exact ⟨by simpa using (List.mem_filter.mp hp).2, rfl⟩
  keys_eq place := keys_ofList _ place

/-- What no entry of the second list overrides is as in the first one. -/
lemma Merges.get?_of_notMem (h : Merges shared own ps)
    (hown : ∀ p ∈ own, ¬ (p.place = place ∧ p.name = name)) :
    (ps.at_ place).get? name = (shared.filter (Parameter.sentAs place name)).getLast? := by
  have hnil : own.filter (Parameter.sentAs place name) = [] := by
    simpa [Parameter.sentAs, List.filter_eq_nil_iff] using hown
  rw [h.get?_eq, hnil, List.getLast?_nil, Option.none_or]

end Parameters

end Model

namespace Normalize

open Model

variable {setting : Setting} {location : String}

/-! ### Entries of a list -/

/-- What an entry of a list of parameters stands for: itself, or what its reference leads to. -/
def resolvedParameter (scope : Scope) :
    Spec.RefOr Spec.Parameter → Except ReferenceError Spec.Parameter
  | .item p => .ok p
  | .ref pointer => Reference.read Spec.Parameter.ofJson? scope.tree pointer

/-- Where the parameter of an entry stands. -/
def parameterLocation (location : String) : Spec.RefOr Spec.Parameter → String
  | .item _ => location
  | .ref pointer => pointer

lemma parameterOrRef?_of_ok {entry : Spec.RefOr Spec.Parameter} {declared : Spec.Parameter}
    (h : resolvedParameter setting.scope entry = .ok declared) (location : String) :
    parameterOrRef? setting entry location
      = do return some (← parameter setting declared (parameterLocation location entry)) := by
  cases entry with
  | item p => rw [← Except.ok.inj h]; rfl
  | ref pointer =>
    rw [parameterOrRef?, show Reference.read _ _ _ = _ from h]
    rfl

lemma parameterOrRef?_of_error {entry : Spec.RefOr Spec.Parameter} {e : ReferenceError}
    (h : resolvedParameter setting.scope entry = .error e) (location : String) :
    parameterOrRef? setting entry location
      = .fallback none location ("skipping parameter: " ++ e.message) := by
  cases entry with
  | item p => cases h
  | ref pointer => rw [parameterOrRef?, show Reference.read _ _ _ = _ from h]

/-- An entry is turned into a parameter exactly if it stands for one, which is sent at the same
place under the same name. -/
lemma sent_parameterOrRef? (setting : Setting) (entry : Spec.RefOr Spec.Parameter)
    (location : String) :
    (parameterOrRef? setting entry location).value.map (fun p => (p.place, p.name))
      = (resolvedParameter setting.scope entry).toOption.map fun declared =>
        (placeOf declared.place, declared.name) := by
  cases hresolved : resolvedParameter setting.scope entry with
  | error e => rw [parameterOrRef?_of_error hresolved]; rfl
  | ok declared => rw [parameterOrRef?_of_ok hresolved]; rfl

/-- What the entries of a list are turned into, in order. -/
def converted (setting : Setting) (location : String) (entries : List (Spec.RefOr Spec.Parameter)) :
    List Parameter :=
  entries.zipIdx.filterMap fun (entry, i) =>
    (parameterOrRef? setting entry (location ++ "/parameters/" ++ toString i)).value

/-- Everything stems from an entry that stands for a parameter. -/
lemma exists_of_mem_converted {entries : List (Spec.RefOr Spec.Parameter)} {p : Parameter}
    (h : p ∈ converted setting location entries) : ∃ entry ∈ entries, ∃ declared,
      resolvedParameter setting.scope entry = .ok declared
        ∧ placeOf declared.place = p.place ∧ declared.name = p.name := by
  obtain ⟨⟨entry, i⟩, hentry, hvalue⟩ := List.mem_filterMap.mp h
  have hsent := sent_parameterOrRef? setting entry (location ++ "/parameters/" ++ toString i)
  rw [show Reported.value _ = some p from hvalue] at hsent
  refine ⟨entry, List.fst_mem_of_mem_zipIdx hentry, ?_⟩
  cases hresolved : resolvedParameter setting.scope entry with
  | error e => simp [hresolved, Except.toOption] at hsent
  | ok declared =>
    simp only [hresolved, Except.toOption, Option.map_some, Option.some.injEq,
      Prod.mk.injEq] at hsent
    exact ⟨declared, rfl, hsent.1.symm, hsent.2.symm⟩

/-- The warnings that the entries of a list raise, in order. -/
def warnings (setting : Setting) (location : String) (entries : List (Spec.RefOr Spec.Parameter)) :
    List Diagnostic :=
  entries.zipIdx.flatMap fun (entry, i) =>
    (parameterOrRef? setting entry (location ++ "/parameters/" ++ toString i)).diagnostics

lemma parameterList_apply (setting : Setting) (entries : List (Spec.RefOr Spec.Parameter))
    (location : String) : parameterList setting entries location
      = ⟨converted setting location entries, warnings setting location entries⟩ := by
  have hfrom : ∀ index, parameterListFrom setting location index entries =
      ⟨(entries.zipIdx index).filterMap fun (entry, i) =>
        (parameterOrRef? setting entry (location ++ "/parameters/" ++ toString i)).value,
      (entries.zipIdx index).flatMap fun (entry, i) =>
        (parameterOrRef? setting entry (location ++ "/parameters/" ++ toString i)).diagnostics⟩ := by
    induction entries with
    | nil => exact fun _ => rfl
    | cons entry rest ih =>
      intro index
      rw [List.zipIdx_cons, List.filterMap_cons, List.flatMap_cons, parameterListFrom,
        ih (index + 1)]
      dsimp only
      generalize parameterOrRef? setting entry _ = own
      obtain ⟨value, diagnostics⟩ := own
      cases value <;> simp [bind, pure]
  exact hfrom 0

/-! ### Operations of a document -/

/-- Every operation of a document has the parameters of its path and its own, where its own override
those of its path. The entries that count are those that stand for a parameter, in the order in
which they are listed. **An entry whose reference is broken overrides nothing.** -/
theorem merges_of_run {source : Spec.Source} {options : Options} {r : Reported Api} {sec : Section}
    {key : String} {item declared : Spec.PathItem} {method : HttpMethod} {op : Spec.Operation}
    (hsource : source.IsRead) (h : run source options = .ok r)
    (hitem : (key, item) ∈ sec.items source.document)
    (hdeclared : resolvedItem (.ofSource source) item = .ok declared)
    (hop : declared.operation? method = some op) :
    let shared := converted (settingOf source options) (itemLocation sec key) declared.parameters
    let own := converted (settingOf source options) (operationLocation sec key method) op.parameters
    ∃ made, Lists r.value sec key method made
      ∧ (∀ made', Lists r.value sec key method made' → made = made')
      ∧ made.parameters.Merges shared own
      ∧ (∀ entry location, (parameterOrRef? (settingOf source options) entry location).value.map
          (fun p => (p.place, p.name))
        = (resolvedParameter (.ofSource source) entry).toOption.map fun declared =>
          (placeOf declared.place, declared.name))
      ∧ ∀ place name, (∀ entry ∈ op.parameters, ∀ declared,
          resolvedParameter (.ofSource source) entry = .ok declared →
            ¬ (placeOf declared.place = place ∧ declared.name = name)) →
        (made.parameters.at_ place).get? name
          = (shared.filter (Parameter.sentAs place name)).getLast? := by
  intro shared own
  obtain rfl := eq_api_of_run h
  obtain ⟨id, hlists, -⟩ := exists_lists options hitem hdeclared hop
  have hparameters : shared ++ own = sharedParameters (settingOf source options) sec key declared
      ++ (parameterList (settingOf source options) op.parameters
        (operationLocation sec key method)).value := by
    rw [sharedParameters, parameterList_apply, parameterList_apply]
  have hmerges : Parameters.Merges shared own _ := .ofList shared own
  rw [hparameters] at hmerges
  refine ⟨_, hlists, fun made' => lists_unique (nodup_items hsource sec) hlists, hmerges,
    sent_parameterOrRef? _, fun place name hnone => hmerges.get?_of_notMem fun p hp hsent => ?_⟩
  obtain ⟨entry, hentry, declared, hresolved, hplace, hname⟩ := exists_of_mem_converted hp
  exact hnone entry hentry declared hresolved ⟨hplace.trans hsent.1, hname.trans hsent.2⟩

/-- A path with three parameters. Its operation requires one of them, and lists two references:
to that parameter, and to one that is missing. -/
def requiredLimit : Spec.Source where
  tree := .obj [("openapi", .str "3.1.0"),
    ("info", .obj [("title", .str "Pets"), ("version", .str "1")]),
    ("paths", .obj [("/pets", .obj [
      ("parameters", .arr [.obj [("name", .str "limit"), ("in", .str "query")],
        .obj [("name", .str "page"), ("in", .str "query")],
        .obj [("name", .str "limit"), ("in", .str "header")]]),
      ("get", .obj [("parameters", .arr [.obj [("$ref", .str "#/paths/~1cats/parameters/0")],
        .obj [("name", .str "sort"), ("in", .str "query")],
        .obj [("$ref", .str "#/paths/~1pets/parameters/0")],
        .obj [("name", .str "limit"), ("in", .str "query"), ("required", .bool true)]])])])])]
  document := {
    openapi := "3.1.0", info := ⟨"Pets", "1", none⟩, servers := [], paths := [("/pets", pets)]
    webhooks := [], components := none, security := none }
where
  sent (name : String) (place : Spec.ParameterPlace) (required : Bool) :
      Spec.RefOr Spec.Parameter :=
    .item ⟨name, place, none, required, false, none, [], none, none, false⟩
  list : Spec.Operation := ⟨none, none, none, false, [], [.ref "#/paths/~1cats/parameters/0",
    sent "sort" .query false, .ref "#/paths/~1pets/parameters/0", sent "limit" .query true],
    none, [], none, []⟩
  pets : Spec.PathItem := {
    pointer := none, servers := [], get := some list, put := none, post := none, delete := none
    options := none, head := none, patch := none, trace := none
    parameters := [sent "limit" .query false, sent "page" .query false,
      sent "limit" .header false] }

theorem merges_of_run_requiredLimit : ∃ r made,
    requiredLimit.IsRead ∧ run requiredLimit ⟨.declaredId, [], []⟩ = .ok r
      ∧ Lists r.value .paths "/pets" .get made
      ∧ made.parameters.query.keys = ["limit", "page", "sort"]
      ∧ (made.parameters.query.get? "limit").map Parameter.required = some true
      ∧ (made.parameters.header.get? "limit").map Parameter.required = some false := by
  have hread : requiredLimit.IsRead := ⟨requiredLimit.tree, by decide +kernel, rfl⟩
  have hrun : run requiredLimit ⟨.declaredId, [], []⟩
      = .ok (api requiredLimit ⟨.declaredId, [], []⟩) := rfl
  have hitem : ("/pets", requiredLimit.pets) ∈ Section.paths.items requiredLimit.document :=
    List.mem_cons_self
  have hop : requiredLimit.pets.operation? .get = some requiredLimit.list := rfl
  obtain ⟨made, hlists, -, hmerges, -⟩ := merges_of_run hread hrun hitem rfl hop
  refine ⟨_, made, hread, hrun, hlists, (hmerges.keys_eq .query).trans (by decide +kernel), ?_, ?_⟩
  · exact (congrArg _ (hmerges.get?_eq .query "limit")).trans (by decide +kernel)
  · exact (congrArg _ (hmerges.get?_eq .header "limit")).trans (by decide +kernel)

end Normalize

end OpenApiTypes
