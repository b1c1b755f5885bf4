/-
What the generator of transformers keeps to while it runs.

* `Transformers.Truncated`: schemas were too deep somewhere;
* `Transformers.Declared`: a statement declares the function of a reference;
* `Transformers.Coherent`: the statements of the file declare the functions whose names are given,
  each once. Functions whose statements are still being made are open;
* `Transformers.Advance`: a session that continues another one and names certain references;
* `Transformers.Yields`: a step that keeps a session coherent, and declares nothing if its result
  is empty. An open function that was called has statements, therefore;
* `Transformers.yields_statements`: the statements of a schema are made in such a step.
-/
import OpenApiTypes.Proofs.Generation.Steps
import OpenApiTypes.Proofs.Transformers.Demand

namespace OpenApiTypes.Transformers

open OpenApiTypes.Generation (Runs Session Setting runs_addTo_iff runs_bind_iff runs_map_iff
  runs_ofConfig_iff runs_pure_iff runs_request_iff runs_suppress_iff runs_warn_iff)
open OpenApiTypes.Model
open OpenApiTypes.Output (Registry)
open OpenApiTypes.TypeScript (Expr Stmt)
open OpenApiTypes.Config (TransformersOptions)

variable {α β : Type} {options : TransformersOptions} {api : Api} {opened : List String}
  {declared : List (String × Stmt)} {σ σ' σ'' : Session} {p : String} {named : String → Prop}

/-! ### Functions in a session -/

/-- What is said where schemas nest too deep. -/
def truncationText : String :=
  "schema nests deeper than " ++ toString maxDepth ++ " levels; transformer truncated"

/-- Statements were left out because schemas nest too deep. -/
def Truncated (diagnostics : List Diagnostic) : Prop :=
  ∃ d ∈ diagnostics, d.message = truncationText

lemma not_truncated (hclean : σ.diagnostics = []) : ¬ Truncated σ.diagnostics := by
  simp [Truncated, hclean]

/-- A statement declares a function with a name and a body. -/
def Declares (name : String) (body : List Stmt) (stmt : Stmt) : Prop :=
  ∃ exported isAsync result, stmt = .const name exported none
    (.arrow isAsync [⟨"data", some (.keyword .any)⟩] result body) []

/-- A statement declares the function that is known under a reference. -/
def Declared (options : TransformersOptions) (api : Api) (σ : Session) (p : String)
    (stmt : Stmt) : Prop :=
  ∃ (f : Function) (s : Schema) (name : String) (body : List Stmt),
    f.BelongsTo api ∧ f.reference? options = some p ∧ f.schema? api = some s
      ∧ σ.registry.status? p .value fileId = some (.active name)
      ∧ Emits options (Truncated σ.diagnostics) σ.registry s data body ∧ body ≠ []
      ∧ Declares name (returning data (guardedBody s data body)) stmt

/-- A session continues another one: no name is lost, no warning is taken back, and nothing is named
but certain references. -/
structure Advance (named : String → Prop) (σ σ' : Session) : Prop where
  registry : σ.registry.Extends σ'.registry
  truncated : Truncated σ.diagnostics → Truncated σ'.diagnostics
  names : ∀ {p e}, σ'.registry.status? p .value fileId = some e →
    σ.registry.status? p .value fileId = some e ∨ named p

namespace Advance

lemma refl (σ : Session) : Advance named σ σ := ⟨Registry.Extends.refl _, id, .inl⟩

lemma trans (h : Advance named σ σ') (h' : Advance named σ' σ'') : Advance named σ σ'' :=
  ⟨h.registry.trans h'.registry, fun ht => h'.truncated (h.truncated ht), fun he => by
    rcases h'.names he with he | he
    · exact h.names he
    · exact .inr he⟩

lemma mono {named' : String → Prop} (h : Advance named σ σ') (hnamed : ∀ p, named p → named' p) :
    Advance named' σ σ' :=
  ⟨h.registry, h.truncated, fun he => (h.names he).imp id (hnamed _)⟩

end Advance

lemma Declared.mono {stmt : Stmt} (h : Declared options api σ p stmt)
    (hr : σ.registry.Extends σ'.registry)
    (ht : Truncated σ.diagnostics → Truncated σ'.diagnostics) :
    Declared options api σ' p stmt := by
  obtain ⟨f, s, name, body, hf, hreference, hs, hentry, hemits, hbody, hstmt⟩ := h
  exact ⟨f, s, name, body, hf, hreference, hs, hr hentry, hemits.mono ht hr, hbody, hstmt⟩

/-! ### Coherent sessions -/

/-- The statements of the file of transformers declare the functions whose names are given, each
once, but for those that are still open. Functions whose names are withdrawn have no statements. -/
structure Coherent (options : TransformersOptions) (api : Api) (opened : List String)
    (declared : List (String × Stmt)) (σ : Session) : Prop where
  distinct : σ.registry.Distinct .value fileId
  file : ∃ file, σ.files.get? fileId = some file ∧ file.nodes = declared.map Prod.snd
  sound : ∀ d ∈ declared, Declared options api σ d.1 d.2
  nodup : (declared.map Prod.fst).Nodup
  opened_active : ∀ p ∈ opened, ∃ name, σ.registry.status? p .value fileId = some (.active name)
  opened_undeclared : ∀ p ∈ opened, p ∉ declared.map Prod.fst
  active : ∀ {p name}, σ.registry.status? p .value fileId = some (.active name) →
    p ∈ opened ∨ p ∈ declared.map Prod.fst
  withdrawn : ∀ {p name}, σ.registry.status? p .value fileId = some (.suppressed name) →
    Withdrawn options api (Truncated σ.diagnostics) p

namespace Coherent

lemma status?_of_mem (h : Coherent options api opened declared σ)
    (hp : p ∈ declared.map Prod.fst) :
    ∃ name, σ.registry.status? p .value fileId = some (.active name) := by
  obtain ⟨d, hd, rfl⟩ := List.mem_map.mp hp
  obtain ⟨_, _, name, _, _, _, _, hentry, -⟩ := h.sound d hd
  exact ⟨name, hentry⟩

/-- A warning changes no function. -/
lemma warn (h : Coherent options api opened declared σ) (diagnostics : List Diagnostic)
    (hd : Truncated σ.diagnostics → Truncated diagnostics) :
    Coherent options api opened declared { σ with diagnostics } where
  distinct := h.distinct
  file := h.file
  sound := fun d hmem => (h.sound d hmem).mono (Registry.Extends.refl _) hd
  nodup := h.nodup
  opened_active := h.opened_active
  opened_undeclared := h.opened_undeclared
  active := h.active
  withdrawn := fun hentry => (h.withdrawn hentry).mono hd

/-- A reference without a name is neither open nor declared. -/
lemma not_mem_of_entry?_eq_none (h : Coherent options api opened declared σ)
    (hp : σ.registry.status? p .value fileId = none) : p ∉ opened ∧ p ∉ declared.map Prod.fst := by
  refine ⟨fun hmem => ?_, fun hmem => ?_⟩
  · obtain ⟨name, hname⟩ := h.opened_active p hmem
    simp [hp] at hname
  · obtain ⟨name, hname⟩ := h.status?_of_mem hmem
    simp [hp] at hname

/-- A function is opened when its name is created. -/
lemma open_ (h : Coherent options api opened declared σ)
    (hp : σ.registry.status? p .value fileId = none) :
    Coherent options api (p :: opened) declared
      { σ with registry := (σ.registry.create p .value fileId).2 } := by
  have hentry : ∀ q, (σ.registry.create p .value fileId).2.status? q .value fileId
      = if q = p then some (.active (σ.registry.newName p .value fileId))
        else σ.registry.status? q .value fileId := fun q => by simp [Registry.status?_create]
  have hextends : σ.registry.Extends (σ.registry.create p .value fileId).2 :=
    Registry.extends_create hp
  refine ⟨h.distinct.create _ _ _, h.file, fun d hd => (h.sound d hd).mono hextends id, h.nodup,
    ?_, ?_, ?_, ?_⟩
  · intro q hq
    rcases List.mem_cons.mp hq with rfl | hq
    · exact ⟨_, by rw [hentry, if_pos rfl]⟩
    · obtain ⟨name, hname⟩ := h.opened_active q hq
      exact ⟨name, hextends hname⟩
  · intro q hq
    rcases List.mem_cons.mp hq with rfl | hq
    · exact (h.not_mem_of_entry?_eq_none hp).2
    · exact h.opened_undeclared q hq
  · intro q name hname
    dsimp only at hname
    rw [hentry] at hname
    split at hname
    · rename_i heq
      exact .inl (heq ▸ List.mem_cons_self)
    · exact (h.active hname).imp (List.mem_cons_of_mem _) id
  · intro q name hname
    dsimp only at hname
    rw [hentry] at hname
    split at hname
    · simp at hname
    · exact h.withdrawn hname

/-- An open function is declared by a statement at the end of the file. -/
lemma declare (h : Coherent options api (p :: opened) declared σ) (hp : p ∉ opened) {stmt : Stmt}
    (hstmt : Declared options api σ p stmt) {file file' : Output.File}
    (hfile : σ.files.get? fileId = some file) (hnodes : file'.nodes = file.nodes ++ [stmt]) :
    Coherent options api opened (declared ++ [(p, stmt)])
      { σ with files := σ.files.put fileId file' } where
  distinct := h.distinct
  file := by
    obtain ⟨_, hfile₀, hnodes₀⟩ := h.file
    obtain rfl := Option.some.inj (hfile.symm.trans hfile₀)
    exact ⟨file', Entries.get?_put_self _ _ _, by simp [hnodes, hnodes₀]⟩
  sound := by
    intro d hd
    rcases List.mem_append.mp hd with hd | hd
    · exact h.sound d hd
    · obtain rfl := List.mem_singleton.mp hd
      exact hstmt
  nodup := by
    rw [List.map_append, List.nodup_append]
    refine ⟨h.nodup, by simp, fun q hq _ hp' => ?_⟩
    obtain rfl : _ = p := by simpa using hp'
    exact fun heq => h.opened_undeclared _ List.mem_cons_self (heq ▸ hq)
  opened_active := fun q hq => h.opened_active q (List.mem_cons_of_mem _ hq)
  opened_undeclared := by
    intro q hq hmem
    rw [List.map_append] at hmem
    rcases List.mem_append.mp hmem with hmem | hmem
    · exact h.opened_undeclared q (List.mem_cons_of_mem _ hq) hmem
    · obtain rfl : q = p := by simpa using hmem
      exact hp hq
  active := by
    intro q name hname
    rcases h.active hname with hq | hq
    · rcases List.mem_cons.mp hq with rfl | hq
      · exact .inr (by simp)
      · exact .inl hq
    · exact .inr (by rw [List.map_append]; exact List.mem_append_left _ hq)
  withdrawn := h.withdrawn

/-- The name of a function without statements is withdrawn. Whatever was declared before its name
was created stays as it was. -/
lemma withdraw (h : Coherent options api opened declared σ)
    (hp : σ.registry.status? p .value fileId = none)
    (h' : Coherent options api (p :: opened) declared σ')
    (hextends : σ.registry.Extends σ'.registry)
    (htruncated : Truncated σ.diagnostics → Truncated σ'.diagnostics)
    (hwithdrawn : Withdrawn options api (Truncated σ'.diagnostics) p) {r : Registry}
    (hr : σ'.registry.suppress? p .value fileId = some r) :
    Coherent options api opened declared { σ' with registry := r } ∧ σ.registry.Extends r := by
  obtain ⟨e, he, hentry⟩ := Registry.status?_suppress? hr
  have hother : ∀ q, q ≠ p → r.status? q .value fileId = σ'.registry.status? q .value fileId :=
    fun q hq => by rw [hentry, if_neg fun h => hq h.2.2]
  have hself : r.status? p .value fileId = some (.suppressed e.name) := by
    rw [hentry, if_pos ⟨rfl, rfl, rfl⟩]
  have hextends' : σ.registry.Extends r := by
    intro q ns file e' he'
    rw [hentry]
    split
    · rename_i heq
      obtain ⟨rfl, rfl, rfl⟩ := heq
      simp [hp] at he'
    · exact hextends he'
  refine ⟨⟨h'.distinct.suppress? hr, h'.file,
    fun d hd => (h.sound d hd).mono hextends' htruncated, h'.nodup, fun q hq => ?_,
    fun q hq => h'.opened_undeclared q (List.mem_cons_of_mem _ hq), fun {q name} hq => ?_,
    fun {q name} hq => ?_⟩, hextends'⟩
  · obtain ⟨name, hname⟩ := h.opened_active q hq
    exact ⟨name, hextends' hname⟩
  · by_cases hqp : q = p
    · simp [hqp, hself] at hq
    · refine (h'.active (by rwa [← hother q hqp])).imp (fun hmem => ?_) id
      exact (List.mem_cons.mp hmem).resolve_left hqp
  · by_cases hqp : q = p
    · exact hqp ▸ hwithdrawn
    · exact h'.withdrawn (by rwa [← hother q hqp])

end Coherent

/-! ### Steps -/

/-- A step that keeps a session coherent and continues it. Its result fits the names given so far,
and if it is empty, nothing is declared. -/
def Yields (options : TransformersOptions) (api : Api) (named : String → Prop) (x : Generation α)
    (fits : Prop → Registry → α → Prop) (isEmpty : α → Prop) : Prop :=
  ∀ ⦃opened declared σ a σ'⦄, Coherent options api opened declared σ → Runs x σ a σ' →
    ∃ more, Coherent options api opened (declared ++ more) σ' ∧ Advance named σ σ'
      ∧ fits (Truncated σ'.diagnostics) σ'.registry a ∧ (isEmpty a → more = [])

namespace Yields

variable {x : Generation α} {fits : Prop → Registry → α → Prop} {isEmpty : α → Prop}

lemma pure {a : α} (h : ∀ lossy r, fits lossy r a) :
    Yields options api named (Pure.pure a) fits isEmpty := by
  intro opened declared σ b σ' hσ hrun
  obtain ⟨rfl, rfl⟩ := runs_pure_iff.mp hrun
  exact ⟨[], by simpa using hσ, .refl _, h _ _, fun _ => rfl⟩

lemma map {f : α → β} {fits' : Prop → Registry → β → Prop} {isEmpty' : β → Prop}
    (h : Yields options api named x fits isEmpty) (hfits : ∀ {lossy r a}, fits lossy r a →
      fits' lossy r (f a)) (hempty : ∀ {a}, isEmpty' (f a) → isEmpty a) :
    Yields options api named (f <$> x) fits' isEmpty' := by
  intro opened declared σ b σ' hσ hrun
  obtain ⟨a, hx, rfl⟩ := runs_map_iff.mp hrun
  obtain ⟨more, hcoherent, hadvance, ha, hmore⟩ := h hσ hx
  exact ⟨more, hcoherent, hadvance, hfits ha, fun he => hmore (hempty he)⟩

lemma imp {fits' : Prop → Registry → α → Prop} (h : Yields options api named x fits isEmpty)
    (hfits : ∀ {lossy r a}, fits lossy r a → fits' lossy r a) :
    Yields options api named x fits' isEmpty := by
  intro opened declared σ a σ' hσ hrun
  obtain ⟨more, hcoherent, hadvance, ha, hmore⟩ := h hσ hrun
  exact ⟨more, hcoherent, hadvance, hfits ha, hmore⟩

lemma weaken {named' : String → Prop} (h : Yields options api named x fits isEmpty)
    (hnamed : ∀ p, named p → named' p) : Yields options api named' x fits isEmpty := by
  intro opened declared σ a σ' hσ hrun
  obtain ⟨more, hcoherent, hadvance, ha, hmore⟩ := h hσ hrun
  exact ⟨more, hcoherent, hadvance.mono hnamed, ha, hmore⟩

/-- Two steps, one after the other. What fits the names after the first has to fit when names are
added. -/
lemma seq {γ : Type} {y : Generation β} {fits' : Prop → Registry → β → Prop}
    {isEmpty' : β → Prop} {g : α → β → γ} {all : Prop → Registry → γ → Prop}
    {isEmptyAll : γ → Prop} (hx : Yields options api named x fits isEmpty)
    (hy : Yields options api named y fits' isEmpty')
    (hmono : ∀ {lossy lossy' : Prop} {r r' a}, fits lossy r a → (lossy → lossy') → r.Extends r' →
      fits lossy' r' a)
    (hall : ∀ {lossy r a b}, fits lossy r a → fits' lossy r b → all lossy r (g a b))
    (hempty : ∀ {a b}, isEmptyAll (g a b) → isEmpty a ∧ isEmpty' b) :
    Yields options api named (do let a ← x; let b ← y; Pure.pure (g a b)) all isEmptyAll := by
  intro opened declared σ c σ' hσ hrun
  obtain ⟨a, σ₁, hx', hrun⟩ := runs_bind_iff.mp hrun
  obtain ⟨b, σ₂, hy', hrun⟩ := runs_bind_iff.mp hrun
  obtain ⟨rfl, rfl⟩ := runs_pure_iff.mp hrun
  obtain ⟨more, hσ₁, hadvance, ha, hmore⟩ := hx hσ hx'
  obtain ⟨more', hσ₂, hadvance', hb, hmore'⟩ := hy hσ₁ hy'
  refine ⟨more ++ more', by simpa using hσ₂, hadvance.trans hadvance',
    hall (hmono ha hadvance'.truncated hadvance'.registry) hb, fun he => ?_⟩
  obtain ⟨hea, heb⟩ := hempty he
  rw [hmore hea, hmore' heb, List.append_nil]

end Yields

/-! ### Statements of a schema -/

variable {setting : Setting} {convert : Conversion} {s : Schema} {target : Expr}
  {location : String}

/-- A step that makes statements for the value of a schema at a target. It names nothing but the
helpers that are asked for on the way. -/
def YieldsStatements (options : TransformersOptions) (api : Api) (x : Generation (List Stmt))
    (s : Schema) (target : Expr) : Prop :=
  Yields options api (Requests options api.catalog s) x
    (fun lossy r stmts => Emits options lossy r s target stmts) fun stmts => stmts = []

/-- Every conversion makes statements for the schema that it is given. -/
def Converts (options : TransformersOptions) (api : Api) (convert : Conversion) : Prop :=
  ∀ s target location, YieldsStatements options api (convert s target location) s target

lemma guarded_eq (convert : Conversion) (s : Schema) (target : Expr) (location : String) :
    guarded convert s target location = guardedBody s target <$> convert s target location := by
  rw [map_eq_pure_bind]
  rfl

lemma functionBody_eq (convert : Conversion) (s : Schema) (location : String) :
    functionBody convert s location
      = (fun body => returning data (guardedBody s data body)) <$> convert s data location := by
  rw [functionBody, guarded_eq, map_eq_pure_bind, map_eq_pure_bind, bind_assoc]
  simp only [pure_bind]

/-- With a warning, statements are left out. -/
lemma yields_warn (message : String)
    (h : ∀ r, Emits options (message = truncationText) r s target []) :
    YieldsStatements options api (do Generation.warn location message; return []) s target := by
  intro opened declared σ stmts σ' hσ hrun
  obtain ⟨_, σ₁, hwarn, hpure⟩ := runs_bind_iff.mp hrun
  obtain ⟨rfl, rfl⟩ := runs_pure_iff.mp hpure
  obtain rfl := runs_warn_iff.mp hwarn
  have htruncated : Truncated σ.diagnostics → Truncated (σ.diagnostics ++ [⟨location, message⟩]) :=
    fun ⟨d, hd, hmessage⟩ => ⟨d, List.mem_append_left _ hd, hmessage⟩
  refine ⟨[], by simpa using hσ.warn _ htruncated, ⟨Registry.Extends.refl _, htruncated, .inl⟩,
    (h _).mono (fun hmessage => ?_) (Registry.Extends.refl _), fun _ => rfl⟩
  exact ⟨⟨location, message⟩, by simp, hmessage⟩

lemma yields_arrayStatements (h : Converts options api convert) (hpointer : s.pointer = none)
    (hshape : s.shape = some .array) :
    YieldsStatements options api (arrayStatements convert s target location) s target := by
  unfold arrayStatements
  split
  · exact .pure fun _ _ => .noElement hpointer hshape ‹_›
  · rename_i element rest hitems
    have heq : (do
        let body ← guarded convert element item (location ++ "/items")
        if body.isEmpty then return []
        let mapped := Expr.call (.property target "map") [functionOf "item" (itemBody body)]
        return [.expr (.assign target mapped)])
        = (fun body => arrayBody target (guardedBody element item body))
          <$> convert element item (location ++ "/items") := by
      rw [guarded_eq, map_eq_pure_bind, map_eq_pure_bind, bind_assoc]
      congr 1
      funext body
      simp only [pure_bind, arrayBody]
      split <;> rfl
    rw [heq]
    refine Yields.weaken ((h _ _ _).map (fun hbody => ?_) (by simp)) fun p =>
      Requests.head (.element hpointer hshape hitems)
    exact .array hpointer hshape hitems hbody

lemma propertyStatements_eq (convert : Conversion) (s : Schema) (target : Expr)
    (location : String) (property : String × Schema) :
    propertyStatements convert s target location property
      = propertyBody s target property <$> convert property.2 (.property target property.1)
        (location ++ "/properties/" ++ Pointer.escape property.1) := by
  rw [map_eq_pure_bind]
  rfl

lemma yields_objectStatements (h : Converts options api convert) (hpointer : s.pointer = none)
    (hshape : s.shape = some .object) :
    YieldsStatements options api (objectStatements convert s target location) s target := by
  have hproperties : ∀ properties : List (String × Schema), properties ⊆ s.properties →
      Yields options api (Requests options api.catalog s)
        (properties.mapM (propertyStatements convert s target location))
        (fun lossy r own => ∃ bodies : List (List Stmt), bodies.length = properties.length
          ∧ (∀ x ∈ properties.zip bodies,
            Emits options lossy r x.1.2 (.property target x.1.1) x.2)
          ∧ own = (properties.zip bodies).map fun x => propertyBody s target x.1 x.2)
        fun own => ∀ stmts ∈ own, stmts = [] := by
    intro properties hsubset
    induction properties with
    | nil => exact .pure fun _ _ => ⟨[], by simp⟩
    | cons property properties ih =>
      obtain ⟨hproperty, hrest⟩ := List.cons_subset.mp hsubset
      rw [List.mapM_cons, propertyStatements_eq, bind_map_left]
      refine ((h _ _ _).weaken fun p => Requests.head (.property hpointer hshape hproperty)).seq
        (ih hrest) Emits.mono ?_ ?_
      · rintro lossy r own rest hown ⟨bodies, hlength, hbodies, rfl⟩
        exact ⟨own :: bodies, by simp [hlength], List.forall_mem_cons.mpr ⟨hown, hbodies⟩, by simp⟩
      · intro own rest he
        obtain ⟨hown, hrest⟩ := List.forall_mem_cons.mp he
        exact ⟨by simpa using hown, hrest⟩
  unfold objectStatements
  rw [← map_eq_pure_bind]
  refine (hproperties _ (List.Subset.refl _)).map ?_ (by simp)
  rintro lossy r own ⟨bodies, hlength, hbodies, rfl⟩
  rw [← List.flatMap_def]
  exact .object hpointer hshape hlength hbodies

lemma yields_itemStatements (h : Converts options api convert) (hpointer : s.pointer = none)
    (hshape : isContainer s = false) (happlies : appliesItems s = true) (items : List Schema)
    (hsubset : items ⊆ s.items) (index : Nat) :
    Yields options api (Requests options api.catalog s)
      (itemStatements convert target location index items)
      (fun lossy r stmts => ∃ bodies : List (List Stmt), bodies.length = items.length
        ∧ (∀ x ∈ items.zip bodies, Emits options lossy r x.1 target x.2)
        ∧ stmts = (items.zip bodies).flatMap Prod.snd) fun stmts => stmts = [] := by
  induction items generalizing index with
  | nil => exact .pure fun _ _ => ⟨[], by simp⟩
  | cons item items ih =>
    obtain ⟨hitem, hrest⟩ := List.cons_subset.mp hsubset
    refine ((h _ _ _).weaken fun p => Requests.head (.item hpointer hshape happlies hitem)).seq
      (ih hrest _) Emits.mono ?_ (by simp)
    rintro lossy r own rest hown ⟨bodies, hlength, hbodies, rfl⟩
    exact ⟨own :: bodies, by simp [hlength], List.forall_mem_cons.mpr ⟨hown, hbodies⟩, by simp⟩

lemma yields_compositionStatements (h : Converts options api convert) (hpointer : s.pointer = none)
    (hshape : isContainer s = false) (hitems : s.items ≠ []) :
    YieldsStatements options api (compositionStatements convert s target location) s target := by
  unfold compositionStatements
  by_cases happlies : appliesItems s = true
  · rw [if_pos (by simpa [appliesItems, or_assoc] using happlies)]
    refine (yields_itemStatements h hpointer hshape happlies s.items (List.Subset.refl _) 0).imp ?_
    rintro lossy r stmts ⟨bodies, hlength, hbodies, rfl⟩
    exact .composition hpointer hshape hitems happlies hlength hbodies
  · rw [if_neg (by simpa [appliesItems, or_assoc] using happlies)]
    have hunion : ∀ lossy r, Emits options lossy r s target [] := fun _ _ =>
      .union hpointer hshape hitems (by simpa using happlies)
    split
    · exact yields_warn _ (hunion _)
    · exact .pure hunion

lemma yields_ownStatements (h : Converts options api convert) (hpointer : s.pointer = none) :
    YieldsStatements options api (ownStatements options convert s target location) s target := by
  unfold ownStatements
  split
  · exact yields_arrayStatements h hpointer ‹_›
  · exact yields_objectStatements h hpointer ‹_›
  · exact .pure fun _ _ => .fixed hpointer (.inl ‹_›)
  · exact .pure fun _ _ => .fixed hpointer (.inr ‹_›)
  · rename_i harray hobject htuple henum
    have hshape : isContainer s = false := by
      unfold isContainer
      split <;> simp_all
    split
    · exact .pure fun _ _ => .leaf hpointer hshape (by simp_all)
    · exact yields_compositionStatements h hpointer hshape (by simp_all)

/-! ### Functions of components -/

/-- The statements of a function, made after its name was created: without any, nothing was
declared and the function can be withdrawn; otherwise it can be declared. -/
lemma coherent_of_functionBody (h : Converts options api convert)
    (hσ : Coherent options api opened declared σ)
    (hp : σ.registry.status? p .value fileId = none) {f : Function} (hf : f.BelongsTo api)
    (hreference : f.reference? options = some p) (hs : f.schema? api = some s)
    {body : List Stmt}
    (hrun : Runs (functionBody convert s location)
      { σ with registry := (σ.registry.create p .value fileId).2 } body σ') :
    ∃ more, Coherent options api (p :: opened) (declared ++ more) σ'
      ∧ Advance (Requests options api.catalog s)
        { σ with registry := (σ.registry.create p .value fileId).2 } σ'
      ∧ (body = [] → more = [] ∧ Withdrawn options api (Truncated σ'.diagnostics) p)
      ∧ (body ≠ [] → ∀ {stmt}, Declares (σ.registry.newName p .value fileId) body stmt →
        Declared options api σ' p stmt) := by
  rw [functionBody_eq] at hrun
  obtain ⟨own, hown, rfl⟩ := runs_map_iff.mp hrun
  obtain ⟨more, hσ', hadvance, hemits, hmore⟩ := h s data location (hσ.open_ hp) hown
  have hentry : σ'.registry.status? p .value fileId
      = some (.active (σ.registry.newName p .value fileId)) :=
    hadvance.registry (by simp [Registry.status?_create])
  refine ⟨more, hσ', hadvance, fun hempty => ?_, fun hbody stmt hstmt => ?_⟩
  · have hown : own = [] := by simpa using hempty
    refine ⟨hmore hown, f, hf, hreference, fun t ht => ?_⟩
    rw [← Option.some.inj (hs.symm.trans ht)]
    exact hemits.blank hown hσ'.withdrawn
  · exact ⟨f, s, _, own, hf, hreference, hs, hentry, hemits, by simpa using hbody, hstmt⟩

/-- The function of a component, made after its name was created, is declared, or it can be
withdrawn and nothing was declared. -/
lemma coherent_of_declareHelper {pointer : String} (h : Converts options setting.model convert)
    (hσ : Coherent options setting.model opened declared σ)
    (hp : σ.registry.status? p .value fileId = none)
    (hreference : (Function.helper pointer).reference? options = some p) {needed : Bool}
    (hrun : Runs (declareHelper setting convert pointer (σ.registry.newName p .value fileId))
      { σ with registry := (σ.registry.create p .value fileId).2 } needed σ') :
    Advance (fun q => ∃ t, setting.model.catalog.find? pointer = some t
        ∧ Requests options setting.model.catalog t q)
        { σ with registry := (σ.registry.create p .value fileId).2 } σ'
      ∧ (needed = true → ∃ more, Coherent options setting.model opened (declared ++ more) σ')
      ∧ (needed = false → Coherent options setting.model (p :: opened) declared σ'
        ∧ Withdrawn options setting.model (Truncated σ'.diagnostics) p) := by
  unfold declareHelper at hrun
  cases hcomponent : setting.model.catalog.find? pointer with
  | none =>
    simp only [hcomponent, pure_bind, List.isEmpty_nil, if_true, runs_pure_iff] at hrun
    obtain ⟨rfl, rfl⟩ := hrun
    refine ⟨.refl _, by simp, fun _ => ⟨hσ.open_ hp, .helper pointer, trivial, hreference, ?_⟩⟩
    simp [Function.schema?, hcomponent]
  | some s =>
    simp only [hcomponent] at hrun
    obtain ⟨body, σ₂, hbody, hrest⟩ := runs_bind_iff.mp hrun
    obtain ⟨more, hσ₂, hadvance, hempty, hdeclared⟩ := coherent_of_functionBody (s := s) h hσ hp
      (f := .helper pointer) trivial hreference hcomponent hbody
    have hadvance : Advance (fun q => ∃ t, some s = some t
        ∧ Requests options setting.model.catalog t q) _ σ₂ :=
      hadvance.mono fun q hq => ⟨s, rfl, hq⟩
    split at hrest
    · rename_i hnil
      obtain ⟨rfl, rfl⟩ := runs_pure_iff.mp hrest
      obtain ⟨rfl, hwithdrawn⟩ := hempty (by simpa using hnil)
      exact ⟨hadvance, by simp, fun _ => ⟨by simpa using hσ₂, hwithdrawn⟩⟩
    · rename_i hcons
      obtain ⟨_, σ₃, hadd, hpure⟩ := runs_bind_iff.mp hrest
      obtain ⟨rfl, rfl⟩ := runs_pure_iff.mp hpure
      obtain ⟨file, hfile, rfl⟩ := runs_addTo_iff.mp hadd
      have hstmt := hdeclared (by simpa using hcons) ⟨false, false, none, rfl⟩
      refine ⟨⟨hadvance.registry, hadvance.truncated, hadvance.names⟩, fun _ => ?_, by simp⟩
      have hclosed := hσ₂.declare (hσ.not_mem_of_entry?_eq_none hp).1 hstmt hfile
        (show (file.add _).nodes = _ from rfl)
      rw [List.append_assoc] at hclosed
      exact ⟨_, hclosed⟩

lemma yields_helperCall {pointer : String} (h : Converts options setting.model convert)
    (hpointer : s.pointer = some pointer) :
    YieldsStatements options setting.model
      (helperCall setting options convert pointer target location) s target := by
  unfold helperCall
  split
  · exact yields_warn _ fun _ => .foreign hpointer ‹_›
  rename_i component hcomponent
  intro opened declared σ stmts σ' hσ hrun
  obtain ⟨helper, σ₀, hconfig, hnamed⟩ := runs_bind_iff.mp hrun
  obtain ⟨hname, rfl⟩ := runs_ofConfig_iff.mp hconfig
  have hreference : (Function.helper pointer).reference? options
      = some (helperReference helper) := by
    simp [Function.reference?, hcomponent, hname, Except.toOption]
  obtain ⟨answer, σ₁, hrequest, hanswered⟩ := runs_bind_iff.mp hnamed
  obtain ⟨rfl, rfl⟩ := runs_request_iff.mp hrequest
  cases hentry : σ.registry.status? (helperReference helper) .value fileId with
  | some e =>
    cases e with
    | active name =>
      simp only [Registry.request_eq, hentry, runs_pure_iff] at hanswered
      obtain ⟨rfl, rfl⟩ := hanswered
      exact ⟨[], by simpa using hσ, .refl _, .call hpointer hreference hentry, by simp⟩
    | suppressed name =>
      simp only [Registry.request_eq, hentry, runs_pure_iff] at hanswered
      obtain ⟨rfl, rfl⟩ := hanswered
      exact ⟨[], by simpa using hσ, .refl _, .withdrawn hpointer hreference hentry, fun _ => rfl⟩
  | none =>
    simp only [Registry.request_eq, hentry] at hanswered
    obtain ⟨needed, σ₂, hdeclare, hrest⟩ := runs_bind_iff.mp hanswered
    obtain ⟨hadvance, htrue, hfalse⟩ := coherent_of_declareHelper h hσ hentry hreference hdeclare
    have hself : Requests options setting.model.catalog s (helperReference helper) :=
      ⟨s, pointer, .refl, hpointer, hreference⟩
    have hcontinued : Advance (Requests options setting.model.catalog s) σ σ₂ := by
      refine ⟨(Registry.extends_create hentry).trans hadvance.registry, hadvance.truncated,
        fun {q e} he => ?_⟩
      rcases hadvance.names he with he | ⟨t, hfind, hq⟩
      · by_cases hq : q = helperReference helper
        · exact .inr (hq ▸ hself)
        · exact .inl (by simpa [Registry.status?_create, hq] using he)
      · exact .inr (hq.head (.component hpointer hfind))
    cases needed with
    | true =>
      simp only [if_true, runs_pure_iff] at hrest
      obtain ⟨rfl, rfl⟩ := hrest
      obtain ⟨more, hcoherent⟩ := htrue rfl
      refine ⟨more, hcoherent, hcontinued, .call hpointer hreference (hadvance.registry ?_),
        by simp⟩
      simp [Registry.status?_create]
    | false =>
      obtain ⟨hopen, hwithdrawn⟩ := hfalse rfl
      obtain ⟨_, σ₃, hsuppress, hpure⟩ := runs_bind_iff.mp hrest
      obtain ⟨rfl, rfl⟩ := runs_pure_iff.mp hpure
      obtain ⟨r, hr, rfl⟩ := runs_suppress_iff.mp hsuppress
      obtain ⟨hcoherent, hextends⟩ :=
        hσ.withdraw hentry hopen hcontinued.registry hcontinued.truncated hwithdrawn hr
      obtain ⟨e, -, hsuppressed⟩ := Registry.status?_suppress? hr
      have hstatus : r.status? (helperReference helper) .value fileId
          = some (.suppressed e.name) := by simp [hsuppressed]
      refine ⟨[], by simpa using hcoherent, ⟨hextends, hcontinued.truncated, fun {q e} he => ?_⟩,
        .withdrawn hpointer hreference hstatus, fun _ => rfl⟩
      by_cases hq : q = helperReference helper
      · exact .inr (hq ▸ hself)
      · exact hcontinued.names (by simpa [hsuppressed, hq] using he)

/-! ### Any schema -/

/-- The statements of a schema are made step by step, whatever functions are open. -/
theorem yields_statements (setting : Setting) (options : TransformersOptions) (levels : Nat) :
    Converts options setting.model (statements setting options levels) := by
  induction levels with
  | zero => exact fun s target location => yields_warn _ fun _ => .lost rfl
  | succ levels ih =>
    intro s target location
    unfold statements
    dsimp only
    split
    · exact yields_helperCall ih ‹_›
    · exact yields_ownStatements ih ‹_›

end OpenApiTypes.Transformers
