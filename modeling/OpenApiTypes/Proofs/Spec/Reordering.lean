/-
Documents that differ in the order of their components.

* `Json.Reordered`, `Json.SameFields`: values that differ in the order of members, and fields with
  such values under certain names;
* `Spec.Document.Reordered`: documents that differ at most in the order of the entries of the maps
  of schemas, parameters, request bodies and responses among their components;
* `Spec.Source.Reordered`, `Spec.Source.exists_reordered`: if one of two such trees holds a
  document, the other one does too, and the documents are the same but for the order of components.
-/
import OpenApiTypes.Proofs.Json.Record
import OpenApiTypes.Proofs.Spec.Source
import Mathlib.Data.List.Perm.Basic

namespace OpenApiTypes

namespace Json

/-! ### Values and fields -/

/-- The same value, but for the order of the members of an object. -/
inductive Reordered : Json → Json → Prop where
  | refl (v : Json) : Reordered v v
  | members {ms ns : Entries String Json} (h : ms.Perm ns) : Reordered (.obj ms) (.obj ns)

/-- The same fields in the same order, but for values under some names, which are related. -/
def SameFields (names : List String) (r : Json → Json → Prop) :
    Entries String Json → Entries String Json → Prop :=
  List.Forall₂ fun f g => f.1 = g.1 ∧ (f.2 = g.2 ∨ f.1 ∈ names ∧ r f.2 g.2)

variable {names : List String} {r : Json → Json → Prop} {fs gs : Entries String Json}
  {name : String}

lemma SameFields.refl (names : List String) (r : Json → Json → Prop) (fs : Entries String Json) :
    SameFields names r fs fs :=
  List.forall₂_same.mpr fun _ _ => ⟨rfl, .inl rfl⟩

lemma SameFields.keys (h : SameFields names r fs gs) : fs.keys = gs.keys := by
  induction h with
  | nil => rfl
  | cons h _ ih =>
    simp only [Entries.keys, List.map_cons] at ih ⊢
    rw [h.1, ih]

/-- Under each name there is the same, or there are related values and the name is among those. -/
lemma SameFields.get? (h : SameFields names r fs gs) (name : String) :
    fs.get? name = gs.get? name
      ∨ name ∈ names ∧ ∃ v w, fs.get? name = some v ∧ gs.get? name = some w ∧ r v w := by
  induction h with
  | nil => exact .inl rfl
  | @cons f g fs gs h _ ih =>
    obtain ⟨key, v⟩ := f
    obtain ⟨key', w⟩ := g
    obtain ⟨hkey, hvalue⟩ : key = key' ∧ (v = w ∨ key ∈ names ∧ r v w) := h
    subst hkey
    by_cases hname : name = key
    · subst hname
      rcases hvalue with rfl | ⟨hname, hr⟩
      · exact .inl (by simp [Entries.get?_cons])
      · exact .inr ⟨hname, v, w, by simp [Entries.get?_cons], by simp [Entries.get?_cons], hr⟩
    · simpa [Entries.get?_cons, hname] using ih

lemma SameFields.get?_of_notMem (h : SameFields names r fs gs) (hname : name ∉ names) :
    fs.get? name = gs.get? name :=
  (h.get? name).resolve_right fun hmem => hname hmem.1

/-- Lists of related items under the first of some names. -/
lemma sameFields_zip {vs ws : List Json} (h : List.Forall₂ r vs ws) (rest : List Json)
    {order : List String} (horder : ∀ name ∈ order.take vs.length, name ∈ names) :
    SameFields names r (order.zip (vs ++ rest)) (order.zip (ws ++ rest)) := by
  induction h generalizing order with
  | nil => exact SameFields.refl names r _
  | cons h _ ih =>
    cases order with
    | nil => exact .nil
    | cons name order =>
      simp only [List.length_cons, List.take_succ_cons, List.mem_cons] at horder
      exact .cons ⟨rfl, .inr ⟨horder _ (.inl rfl), h⟩⟩ (ih fun n hn => horder n (.inr hn))

/-! ### Maps -/

variable {α : Type} {read : Json → Option α}

lemma Reordered.exists_entries? {v w : Json} (h : Reordered v w) {e : Entries String α}
    (he : entries? read v = some e) : ∃ e', entries? read w = some e' ∧ e.Perm e' := by
  cases h with
  | refl => exact ⟨e, he, .refl e⟩
  | members h =>
    obtain ⟨e', he', hperm⟩ := List.perm_comp_forall₂ h.symm (mapM_eq_some_iff.mp he)
    exact ⟨e', mapM_eq_some_iff.mpr he', hperm.symm⟩

lemma Reordered.list?_eq {v w : Json} (h : Reordered v w) : list? read v = list? read w := by
  cases h with
  | refl => rfl
  | members => rfl

/-- A map of things that was read has the same entries in another order. -/
lemma SameFields.exists_defaulted? (h : SameFields names Reordered fs gs) {e : Entries String α}
    (he : defaulted? fs name [] (entries? read) = some e) :
    ∃ e', defaulted? gs name [] (entries? read) = some e' ∧ e.Perm e' := by
  unfold defaulted? at he ⊢
  rcases h.get? name with hsame | ⟨-, v, w, hv, hw, hr⟩
  · exact ⟨e, hsame ▸ he, .refl e⟩
  · rw [hv] at he
    rw [hw]
    exact hr.exists_entries? he

lemma SameFields.defaulted?_eq (h : SameFields names r fs gs) (hname : name ∉ names)
    (default : α) : defaulted? fs name default read = defaulted? gs name default read := by
  rw [defaulted?, defaulted?, h.get?_of_notMem hname]

lemma SameFields.optional?_eq (h : SameFields names r fs gs) (hname : name ∉ names) :
    optional? fs name read = optional? gs name read := by
  rw [optional?, optional?, h.get?_of_notMem hname]

lemma SameFields.required?_eq (h : SameFields names r fs gs) (hname : name ∉ names) :
    required? fs name read = required? gs name read := by
  rw [required?, required?, h.get?_of_notMem hname]

end Json

namespace Spec

open Json (SameFields)

/-! ### Components -/

namespace Components

/-- The maps of components whose entries may stand in any order, in the order of an array. -/
def maps : List String := ["schemas", "parameters", "requestBodies", "responses"]

/-- The same components, but for the order of the entries of their maps. -/
inductive Reordered : Json → Json → Prop where
  | object {ms ns : Entries String Json} (h : SameFields maps Json.Reordered ms ns) :
      Reordered (.obj ms) (.obj ns)
  | array {vs ws : List Json} (h : List.Forall₂ Json.Reordered vs ws)
      (hlength : vs.length ≤ maps.length) (rest : List Json) :
      Reordered (.arr (vs ++ rest)) (.arr (ws ++ rest))

/-- Components with the same entries. -/
structure SameEntries (c c' : Components) : Prop where
  schemas : c.schemas.Perm c'.schemas
  parameters : c.parameters.Perm c'.parameters
  requestBodies : c.requestBodies.Perm c'.requestBodies
  responses : c.responses.Perm c'.responses
  securitySchemes : c.securitySchemes = c'.securitySchemes

lemma SameEntries.refl (c : Components) : c.SameEntries c :=
  ⟨.refl _, .refl _, .refl _, .refl _, rfl⟩

/-- The fields of components in either form. -/
lemma Reordered.exists_record? {v w : Json} (h : Reordered v w) {fs : Entries String Json}
    (hfs : Json.record? (maps ++ ["securitySchemes"]) 0 v = some fs) :
    ∃ gs, Json.record? (maps ++ ["securitySchemes"]) 0 w = some gs
      ∧ SameFields maps Json.Reordered fs gs := by
  cases h with
  | @object ms ns h =>
    obtain rfl : ms = fs := Option.some.inj hfs
    exact ⟨ns, rfl, h⟩
  | @array vs ws h hlength rest =>
    have hsame : (ws ++ rest).length = (vs ++ rest).length := by simp [h.length_eq]
    rw [Json.record?] at hfs ⊢
    rw [hsame]
    split_ifs at hfs with hshort
    obtain rfl := Option.some.inj hfs
    refine ⟨_, if_pos hshort, Json.sameFields_zip h rest fun name hname => ?_⟩
    rw [List.take_append_of_le_length hlength] at hname
    exact List.mem_of_mem_take hname

/-- Neither form is null. -/
lemma Reordered.nullable?_eq {v w : Json} (h : Reordered v w) :
    Json.nullable? ofJson? v = (ofJson? v).map some
      ∧ Json.nullable? ofJson? w = (ofJson? w).map some := by
  cases h <;> exact ⟨rfl, rfl⟩

/-- Of two such values, the second one holds components if the first one does. -/
lemma Reordered.exists_ofJson? {v w : Json} (h : Reordered v w) {c : Components}
    (hc : ofJson? v = some c) : ∃ c', ofJson? w = some c' ∧ c.SameEntries c' := by
  obtain ⟨fs, hfs, hc⟩ := Option.bind_eq_some_iff.mp hc
  simp only [↓Json.bind_eq_some_iff, Option.some.injEq] at hc
  obtain ⟨schemas, hschemas, parameters, hparameters, bodies, hbodies, responses, hresponses,
    schemes, hschemes, rfl⟩ := hc
  obtain ⟨gs, hgs, hfields⟩ := h.exists_record? hfs
  obtain ⟨schemas', hschemas', hschemas⟩ := hfields.exists_defaulted? hschemas
  obtain ⟨parameters', hparameters', hparameters⟩ := hfields.exists_defaulted? hparameters
  obtain ⟨bodies', hbodies', hbodies⟩ := hfields.exists_defaulted? hbodies
  obtain ⟨responses', hresponses', hresponses⟩ := hfields.exists_defaulted? hresponses
  rw [hfields.defaulted?_eq (by decide)] at hschemes
  refine ⟨⟨schemas', parameters', bodies', responses', schemes⟩, ?_,
    ⟨hschemas, hparameters, hbodies, hresponses, rfl⟩⟩
  exact Option.bind_eq_some_iff.mpr ⟨gs, hgs, by
    simp [hschemas', hparameters', hbodies', hresponses', hschemes]⟩

end Components

/-! ### Documents -/

namespace Document

/-- The same document, but for the order of the entries of the maps of components. -/
inductive Reordered : Json → Json → Prop where
  | object {ms ns : Entries String Json}
      (h : SameFields ["components"] Components.Reordered ms ns) : Reordered (.obj ms) (.obj ns)

lemma Reordered.member?_openapi {v w : Json} (h : Reordered v w) :
    v.member? "openapi" = w.member? "openapi" := by
  cases h with
  | object h => exact h.get?_of_notMem (by decide)

/-- Documents that are the same but for the order of components. -/
structure SameEntries (d d' : Document) : Prop where
  info : d.info = d'.info
  servers : d.servers = d'.servers
  paths : d.paths = d'.paths
  webhooks : d.webhooks = d'.webhooks
  components : (d.components.getD {}).SameEntries (d'.components.getD {})
  security : d.security = d'.security

/-- The components of such a document are read, and have the same entries. -/
lemma exists_components {ms ns : Entries String Json}
    (h : SameFields ["components"] Components.Reordered ms ns) {c : Option Components}
    (hc : Json.optional? ms "components" Components.ofJson? = some c) :
    ∃ c', Json.optional? ns "components" Components.ofJson? = some c'
      ∧ (c.getD {}).SameEntries (c'.getD {}) := by
  unfold Json.optional? at hc ⊢
  rcases h.get? "components" with hsame | ⟨-, v, w, hv, hw, hr⟩
  · exact ⟨c, hsame ▸ hc, .refl _⟩
  · obtain ⟨hnull, hnull'⟩ := hr.nullable?_eq
    rw [hv] at hc
    rw [hw]
    dsimp only at hc ⊢
    rw [hnull] at hc
    rw [hnull']
    obtain ⟨read, hread, rfl⟩ := Option.map_eq_some_iff.mp hc
    obtain ⟨read', hread', hsame⟩ := hr.exists_ofJson? hread
    exact ⟨some read', by rw [hread']; rfl, hsame⟩

/-- Of two such values, the second one is a document if the first one is. -/
lemma Reordered.exists_ofJson? {v w : Json} (h : Reordered v w) {d : Document}
    (hd : ofJson? v = some d) : ∃ d', ofJson? w = some d' ∧ d.SameEntries d' := by
  cases h with
  | @object ms ns h =>
    have hlist : servers? ms = servers? ns := h.defaulted?_eq (by decide) _
    simp only [ofJson?, Json.record?, ↓Json.bind_eq_some_iff, Option.some.injEq] at hd
    obtain ⟨_, rfl, openapi, hopenapi, info, hinfo, servers, hservers, paths, hpaths, webhooks,
      hwebhooks, components, hcomponents, security, hsecurity, rfl⟩ := hd
    obtain ⟨components', hcomponents', hsame⟩ := exists_components h hcomponents
    rw [h.required?_eq (by decide)] at hopenapi hinfo
    rw [h.defaulted?_eq (by decide)] at hpaths hwebhooks
    rw [h.optional?_eq (by decide)] at hsecurity
    rw [hlist] at hservers
    refine ⟨⟨openapi, info, servers, paths, webhooks, components', security⟩, ?_,
      ⟨rfl, rfl, rfl, rfl, hsame, rfl⟩⟩
    simp only [ofJson?, Json.record?, ↓Json.bind_eq_some_iff]
    exact ⟨_, rfl, _, hopenapi, _, hinfo, _, hservers, _, hpaths, _, hwebhooks, _, hcomponents', _,
      hsecurity, rfl⟩

end Document

namespace Source

/-- Documents that were read from trees that differ only in the order of components. -/
structure Reordered (source source' : Source) : Prop where
  distinctKeys : source.tree.DistinctKeys
  read : Document.ofJson? source.tree = some source.document
  tree : Document.Reordered source.tree source'.tree
  document : source.document.SameEntries source'.document

/-- With one of two such trees, the other one holds a document too. -/
theorem exists_reordered {tree tree' : Json} {source : Source} (htree : tree.DistinctKeys)
    (hsource : ofTree tree = .ok source) (h : Document.Reordered tree tree') :
    ∃ source', ofTree tree' = .ok source' ∧ source.Reordered source' := by
  obtain ⟨⟨version, hversion, hsupports⟩, hdocument, rfl⟩ := ofTree_eq_ok_iff.mp hsource
  obtain ⟨document', hdocument', hsame⟩ := h.exists_ofJson? hdocument
  rw [h.member?_openapi] at hversion
  exact ⟨⟨tree', document'⟩, ofTree_eq_ok_iff.mpr
    ⟨⟨version, hversion, hsupports⟩, hdocument', rfl⟩, htree, hdocument, h, hsame⟩

end Source

end Spec

end OpenApiTypes
