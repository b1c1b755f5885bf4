/-
What steps keep, and steps that leave all files but one alone.

* `Generation.Keeps`: a step that keeps what holds of a session;
* `Generation.NamesIn`: a step on names that creates none outside a file;
* `Generation.Confined`: a step that changes no other file and no name outside its own, and
  leaves every file at its path;
* `Generation.Creates`: such a step that also creates its file.
-/
import OpenApiTypes.Proofs.Entries
import OpenApiTypes.Proofs.Generation.Steps

namespace OpenApiTypes.Generation

open OpenApiTypes.Output (Namespace Registry)

variable {α β : Type} {file : String}

/-! ### What steps keep -/

/-- Whatever session it is taken in, a step keeps what holds of it. -/
def Keeps (P : Session → Prop) (x : Generation α) : Prop :=
  ∀ ⦃σ a σ'⦄, Runs x σ a σ' → P σ → P σ'

namespace Keeps

variable {P : Session → Prop}

lemma pure (a : α) : Keeps P (Pure.pure a : Generation α) := by
  intro σ b σ' h hσ
  obtain ⟨-, rfl⟩ := runs_pure_iff.mp h
  exact hσ

/-- What is known of the result of a step may be needed to keep something in the next one. -/
lemma bind_of {x : Generation α} {f : α → Generation β} {given : α → Prop}
    (hx : ∀ ⦃σ a σ'⦄, Runs x σ a σ' → P σ → P σ' ∧ given a) (hf : ∀ a, given a → Keeps P (f a)) :
    Keeps P (x >>= f) := by
  intro σ b σ' h hσ
  obtain ⟨a, σ₁, h₁, h₂⟩ := runs_bind_iff.mp h
  obtain ⟨hσ₁, ha⟩ := hx h₁ hσ
  exact hf a ha h₂ hσ₁

lemma bind {x : Generation α} {f : α → Generation β} (hx : Keeps P x) (hf : ∀ a, Keeps P (f a)) :
    Keeps P (x >>= f) := by
  have hkept : ∀ ⦃σ a σ'⦄, Runs x σ a σ' → P σ → P σ' ∧ True :=
    fun _ _ _ h hσ => ⟨hx h hσ, trivial⟩
  exact bind_of hkept fun a _ => hf a

lemma ofConfig_bind {x : Except Config.Problem α} {f : α → Generation β}
    (h : ∀ a, x = .ok a → Keeps P (f a)) : Keeps P (Generation.ofConfig x >>= f) := by
  have hkept : ∀ ⦃σ a σ'⦄, Runs (Generation.ofConfig x) σ a σ' → P σ → P σ' ∧ x = .ok a := by
    intro σ a σ' hrun hσ
    obtain ⟨ha, rfl⟩ := runs_ofConfig_iff.mp hrun
    exact ⟨hσ, ha⟩
  exact bind_of hkept h

lemma mapM {l : List α} {f : α → Generation β} (h : ∀ a, Keeps P (f a)) : Keeps P (l.mapM f) := by
  induction l with
  | nil => exact .pure []
  | cons a l ih =>
    rw [List.mapM_cons]
    exact (h a).bind fun b => ih.bind fun bs => .pure _

lemma forM {l : List α} {f : α → Generation Unit} (h : ∀ a ∈ l, Keeps P (f a)) :
    Keeps P (l.forM f) := by
  induction l with
  | nil => exact .pure ()
  | cons a l ih =>
    exact (h a List.mem_cons_self).bind fun _ => ih fun b hb => h b (List.mem_cons_of_mem _ hb)

end Keeps

/-! ### Names -/

/-- A step creates no name outside a file. -/
def NamesIn (file : String) (x : StateM Registry α) : Prop :=
  ∀ r pointer ns, ∀ id ≠ file, (x.run r).2.status? pointer ns id = r.status? pointer ns id

lemma NamesIn.request (pointer : String) (ns : Namespace) :
    NamesIn file (fun r => r.request pointer ns file true) :=
  fun r q other _ hid => r.status?_request_of_ne pointer ns hid q other

/-! ### Files and names -/

/-- The paths of the files of a session, by their ids. -/
def paths (σ : Session) : Entries String String := σ.files.mapValues Output.File.path

/-- Nothing outside a file differs between two sessions. -/
def SameOutside (file : String) (σ σ' : Session) : Prop :=
  ∀ id ≠ file, σ'.files.get? id = σ.files.get? id
    ∧ ∀ pointer ns, σ'.registry.status? pointer ns id = σ.registry.status? pointer ns id

lemma SameOutside.trans {σ σ₁ σ₂ : Session} (h : SameOutside file σ σ₁)
    (h' : SameOutside file σ₁ σ₂) : SameOutside file σ σ₂ := by
  intro id hid
  obtain ⟨hfiles, hnames⟩ := h id hid
  obtain ⟨hfiles', hnames'⟩ := h' id hid
  exact ⟨hfiles'.trans hfiles, fun pointer ns => (hnames' pointer ns).trans (hnames pointer ns)⟩

/-- A step changes no other file and no name outside its own. It creates no file and moves
none. -/
def Confined (file : String) (x : Generation α) : Prop :=
  ∀ ⦃σ a σ'⦄, Runs x σ a σ' → paths σ' = paths σ ∧ SameOutside file σ σ'

/-- A step that creates a file at a path, and does nothing outside it. -/
def Creates (file path : String) (x : Generation α) : Prop :=
  ∀ ⦃σ a σ'⦄, Runs x σ a σ' → paths σ' = (paths σ).put file path ∧ SameOutside file σ σ'

namespace Confined

/-- A confined step keeps what has changed since an earlier session inside its file. -/
lemma keeps {x : Generation α} (h : Confined file x) (σ₀ : Session) :
    Keeps (fun σ => paths σ = paths σ₀ ∧ SameOutside file σ₀ σ) x := by
  intro σ a σ' hrun ⟨hpaths, hsame⟩
  obtain ⟨hpaths', hsame'⟩ := h hrun
  exact ⟨hpaths'.trans hpaths, hsame.trans hsame'⟩

/-- A step that keeps this is confined. -/
lemma of_keeps {x : Generation α}
    (h : ∀ σ₀, Keeps (fun σ => paths σ = paths σ₀ ∧ SameOutside file σ₀ σ) x) : Confined file x :=
  fun σ _ _ hrun => h σ hrun ⟨rfl, fun _ _ => ⟨rfl, fun _ _ => rfl⟩⟩

lemma bind {x : Generation α} {f : α → Generation β} (hx : Confined file x)
    (hf : ∀ a, Confined file (f a)) : Confined file (x >>= f) :=
  of_keeps fun σ₀ => (hx.keeps σ₀).bind fun a => (hf a).keeps σ₀

lemma warn (location message : String) : Confined file (Generation.warn location message) := by
  intro σ a σ' h
  rw [← runs_warn_iff.mp h]
  exact ⟨rfl, fun _ _ => ⟨rfl, fun _ _ => rfl⟩⟩

lemma ofNames {x : StateM Registry α} (hx : NamesIn file x) :
    Confined file (Generation.ofNames x) := by
  intro σ a σ' h
  obtain ⟨-, rfl⟩ := runs_ofNames_iff.mp h
  exact ⟨rfl, fun id hid => ⟨rfl, fun pointer ns => hx _ pointer ns id hid⟩⟩

lemma request (pointer : String) (ns : Namespace) :
    Confined file (Generation.request file pointer ns true) :=
  .ofNames (.request pointer ns)

lemma suppress (pointer : String) (ns : Namespace) :
    Confined file (Generation.suppress file pointer ns) := by
  intro σ a σ' h
  obtain ⟨r, hr, rfl⟩ := runs_suppress_iff.mp h
  obtain ⟨e, -, hentry⟩ := Registry.status?_suppress? hr
  exact ⟨rfl, fun id hid => ⟨rfl, fun q other => by rw [hentry, if_neg fun h => hid h.1]⟩⟩

lemma requireName (other pointer : String) (ns : Namespace) :
    Confined file (Generation.requireName other pointer ns) := by
  intro σ a σ' h
  rw [(runs_requireName_iff.mp h).2]
  exact ⟨rfl, fun _ _ => ⟨rfl, fun _ _ => rfl⟩⟩

lemma requireFile (generator other : String) :
    Confined file (Generation.requireFile generator other) := by
  intro σ a σ' h
  rw [(runs_requireFile_iff.mp h).2]
  exact ⟨rfl, fun _ _ => ⟨rfl, fun _ _ => rfl⟩⟩

/-- A file that a step takes out of the session and stores again stays at its path. -/
lemma change (generator : String) {step : Output.File → Generation Unit}
    (h : ∀ f : Output.File, ∃ f' : Output.File, step f = storeFile file f' ∧ f'.path = f.path) :
    Confined file (Generation.requireFile generator file >>= step) := by
  intro σ a σ' hrun
  obtain ⟨f, σ₁, hrequire, hstore⟩ := runs_bind_iff.mp hrun
  obtain ⟨hf, rfl⟩ := runs_requireFile_iff.mp hrequire
  obtain ⟨f', hstep, hpath⟩ := h f
  rw [hstep] at hstore
  rw [← runs_storeFile_iff.mp hstore]
  refine ⟨?_, fun id hid => ⟨Entries.get?_put_of_ne _ hid _, fun _ _ => rfl⟩⟩
  show (σ.files.put file f').mapValues Output.File.path = _
  rw [Entries.mapValues_put, hpath, ← Entries.mapValues_put, Entries.put_of_get? hf]
  rfl

lemma addTo (generator : String) (s : TypeScript.Stmt) :
    Confined file (Generation.addTo generator file s) :=
  change generator fun f => ⟨f.add s, rfl, rfl⟩

end Confined

lemma path_create (id name : String) (header exportFromIndex : Bool) :
    (Output.File.create id name header exportFromIndex).path
      = Output.fileName (Output.withExtension name) := by
  rw [Output.File.create]

namespace Creates

variable {path : String}

lemma createFile (setting : Setting) (name : String) (convention : NamingConvention)
    (exportFromIndex : Bool) :
    Creates file (Output.fileName (Output.withExtension name))
      (Generation.createFile setting file name convention exportFromIndex) := by
  intro σ a σ' h
  rw [← runs_createFile_iff.mp h]
  refine ⟨?_, fun id hid =>
    ⟨Entries.get?_put_of_ne _ hid _, fun _ _ => Registry.status?_registerFile ..⟩⟩
  rw [paths, paths, Entries.mapValues_put, path_create]

lemma bind {x : Generation α} {f : α → Generation β} (hx : Creates file path x)
    (hf : ∀ a, Confined file (f a)) : Creates file path (x >>= f) := by
  intro σ b σ' h
  obtain ⟨a, σ₁, h₁, h₂⟩ := runs_bind_iff.mp h
  obtain ⟨hpaths, hsame⟩ := hx h₁
  obtain ⟨hpaths', hsame'⟩ := hf a h₂
  exact ⟨hpaths'.trans hpaths, hsame.trans hsame'⟩

end Creates

lemma Confined.bind_creates {path : String} {x : Generation α} {f : α → Generation β}
    (hx : Confined file x) (hf : ∀ a, Creates file path (f a)) : Creates file path (x >>= f) := by
  intro σ b σ' h
  obtain ⟨a, σ₁, h₁, h₂⟩ := runs_bind_iff.mp h
  obtain ⟨hpaths, hsame⟩ := hx h₁
  obtain ⟨hpaths', hsame'⟩ := hf a h₂
  exact ⟨hpaths'.trans (congrArg (Entries.put · file path) hpaths), hsame.trans hsame'⟩

end OpenApiTypes.Generation
