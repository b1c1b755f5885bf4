/-
What a run leaves on a disk.

* `Generation.outputPaths`: the paths of the files that a pipeline gives, as the configuration
  determines them;
* `Generation.path_artifacts`: these are the paths of the finished files;
* `CommandLine.exists_succeeds_storeAll`: storing all finished files stores one after the other;
* `CommandLine.stored_of_generate`: what is on a disk after a run: each place holds the last file
  that was stored there, and all other places are as before;
* `CommandLine.exists_overwritten`: two generators with one path, one of which removes the file of
  the other.
-/
import OpenApiTypes.CommandLine.Run
import OpenApiTypes.Proofs.Files.Disk
import OpenApiTypes.Proofs.Generation.Pipeline
import OpenApiTypes.Proofs.Transformers.Frame
import OpenApiTypes.Proofs.Types.Frame

namespace OpenApiTypes

open OpenApiTypes.Output (Artifact)

namespace Generation

/-! ### Paths -/

/-- The id of the file that a generator gives. -/
def outputId : Config.Generator → String
  | .types _ => Types.fileId
  | .transformers _ => Transformers.fileId

/-- The path of the file that a generator gives. -/
def outputPath : Config.Generator → String
  | .types o => Output.fileName (Output.withExtension o.output)
  | .transformers o => Output.fileName (Output.withExtension o.output)

/-- The paths of the files that a pipeline gives: one for each generator, and that of the file that
exports from all others. -/
def outputPaths (config : Config) (p : Pipeline) : List String :=
  p.map outputPath ++ if config.outputOptions.index then ["index.ts"] else []

variable {config : Config} {p : Pipeline} {σ : Session} {api : Model.Api} {result : Result}

/-- Each generator leaves its file at its path, and none leaves any other file. -/
lemma paths_of_session (hp : Pipeline.ofConfig config = .ok p)
    (hσ : p.session ⟨api, config⟩ = .ok σ) :
    paths σ = p.map fun g => (outputId g, outputPath g) := by
  rw [session_eq_ok_iff] at hσ
  rcases eq_of_ofConfig hp with rfl | ⟨o, rfl⟩ | ⟨o, o', rfl⟩
  · obtain ⟨-, rfl⟩ := runs_pure_iff.mp hσ
    rfl
  · obtain ⟨_, σ₁, htypes, hend⟩ := runs_bind_iff.mp hσ
    obtain ⟨-, rfl⟩ := runs_pure_iff.mp hend
    rw [(Types.creates_run _ o htypes).1]
    rfl
  · obtain ⟨_, σ₁, htypes, hrest⟩ := runs_bind_iff.mp hσ
    obtain ⟨_, σ₂, htransformers, hend⟩ := runs_bind_iff.mp hrest
    obtain ⟨-, rfl⟩ := runs_pure_iff.mp hend
    rw [(Transformers.creates_run _ o' htransformers).1, (Types.creates_run _ o htypes).1]
    rfl

/-- The paths of the finished files depend on the configuration only. -/
lemma path_artifacts (hp : Pipeline.ofConfig config = .ok p)
    (hresult : p.generate ⟨api, config⟩ = .ok result) :
    result.artifacts.map Artifact.path = outputPaths config p := by
  obtain ⟨σ, hσ, hfinish⟩ : ∃ σ, p.session ⟨api, config⟩ = .ok σ
      ∧ σ.finish config = result := by
    rw [Pipeline.generate] at hresult
    cases h : p.session ⟨api, config⟩ with
    | error failure => simp [h] at hresult
    | ok σ => exact ⟨σ, rfl, by simpa [h] using hresult⟩
  have hvalues : σ.files.values.map Output.File.path = p.map outputPath := by
    have := congrArg Entries.values (paths_of_session hp hσ)
    simpa [paths, Entries.values, Entries.mapValues, Function.comp_def] using this
  have hindex : Output.fileName (Output.withExtension "index") = "index.ts" := by decide +kernel
  rw [← hfinish, outputPaths, ← hvalues, Session.finish]
  dsimp only
  rw [List.map_append, List.map_map]
  congr 1
  split
  · exact congrArg (fun path => [path]) hindex
  · rfl

end Generation

namespace CommandLine

open OpenApiTypes.Files (Disk Place bytes? keep placeOf store)
open OpenApiTypes.Generation (Pipeline Result)

/-! ### All files of a run -/

/-- A step of a command on a disk succeeds with a result: what is printed and what is on the disk
before and after it. -/
def Succeeds {α : Type} (x : Action (StateM Disk) α) (before : Outcome × Disk) (a : α)
    (after : Outcome × Disk) : Prop :=
  ((x.run.run before.1).run before.2).run = ((.ok a, after.1), after.2)

lemma Succeeds.bind {α β : Type} {x : Action (StateM Disk) α} {f : α → Action (StateM Disk) β}
    {a : α} {b : β} {s s₁ s₂ : Outcome × Disk} (hx : Succeeds x s a s₁)
    (hf : Succeeds (f a) s₁ b s₂) : Succeeds (x >>= f) s b s₂ := by
  rw [Succeeds] at hx ⊢
  rw [ExceptT.run_bind, StateT.run_bind, StateT.run_bind, Id.run_bind, hx]
  exact hf

/-- A step on the disk alone prints nothing. -/
lemma succeeds_liftM {α : Type} {x : StateM Disk α} {s : Outcome × Disk} {a : α} {disk : Disk}
    (h : (x.run s.2).run = (a, disk)) : Succeeds (liftM x) s a (s.1, disk) := by
  have hx : x s.2 = (a, disk) := h
  show ((Except.ok (x s.2).1, s.1), (x s.2).2) = _
  rw [hx]

/-- Storing a finished file in the course of a command. -/
lemma succeeds_store (directory : String) (artifact : Artifact) (s : Outcome × Disk) :
    Succeeds (onFiles Files.StoreError.message (store directory artifact)) s ()
      (s.1, keep directory s.2 artifact) :=
  (succeeds_liftM (Files.store_eq directory artifact s.2)).bind rfl

/-- Storing all finished files does not fail, and stores one after the other. -/
lemma exists_succeeds_storeAll (directory : String) (artifacts : List Artifact)
    (s : Outcome × Disk) : ∃ printed, Succeeds (storeAll directory artifacts) s ()
      (printed, artifacts.foldl (keep directory) s.2) := by
  have hdirectories : Succeeds (onFiles
      (fun _ => "failed to create output directory " ++ directory)
      (Files.FileSystem.makeDirectories directory)) s () s := rfl
  suffices h : ∃ printed, Succeeds (artifacts.forM fun artifact => do
      onFiles Files.StoreError.message (store directory artifact)
      if artifact.content.isSome then
        say ("  wrote " ++ Files.join directory artifact.path)) s ()
      (printed, artifacts.foldl (keep directory) s.2) by
    obtain ⟨printed, h⟩ := h
    exact ⟨printed, hdirectories.bind h⟩
  clear hdirectories
  induction artifacts generalizing s with
  | nil => exact ⟨s.1, rfl⟩
  | cons artifact rest ih =>
    have hsay : ∃ printed, Succeeds (if artifact.content.isSome then
        say ("  wrote " ++ Files.join directory artifact.path) else pure ())
        (s.1, keep directory s.2 artifact) () (printed, keep directory s.2 artifact) := by
      split
      · exact ⟨_, rfl⟩
      · exact ⟨_, rfl⟩
    obtain ⟨printed, hsay⟩ := hsay
    obtain ⟨printed', hrest⟩ := ih (printed, keep directory s.2 artifact)
    exact ⟨printed', ((succeeds_store directory artifact s).bind hsay).bind hrest⟩

/-- What is on a disk after finished files have been stored in order. -/
structure Stored (directory : String) (artifacts : List Artifact) (before after : Disk) : Prop where
  /-- A file that no later one replaces is there with its content, or is not there if it has
  none. -/
  of_append : ∀ earlier a later, artifacts = earlier ++ a :: later →
    (∀ b ∈ later, placeOf directory b ≠ placeOf directory a) →
      after (placeOf directory a) = bytes? a
  /-- Where no file belongs, nothing changes. -/
  of_forall_ne : ∀ place, (∀ a ∈ artifacts, placeOf directory a ≠ place) →
    after place = before place
  /-- If no two files belong to one place, none replaces another. -/
  of_nodup : ((artifacts.map Artifact.path).map fun path =>
      Files.destination (Files.join directory path)).Nodup →
    ∀ a ∈ artifacts, after (placeOf directory a) = bytes? a

lemma stored_foldl (directory : String) (artifacts : List Artifact) (disk : Disk) :
    Stored directory artifacts disk (artifacts.foldl (keep directory) disk) where
  of_append := by
    rintro earlier a later rfl h
    exact Files.foldl_keep_of_append rfl h
  of_forall_ne _ h := Files.foldl_keep_of_forall_ne h
  of_nodup h a ha := Files.foldl_keep_of_mem (by rwa [List.map_map] at h) ha

/-- What a run leaves on a disk. The paths of the files depend on the configuration only: one for
each generator and one for the file that exports from all others. Files are stored in order, so a
place holds the last one that belongs there, and all other places are as before. -/
theorem stored_of_generate {config : Config} {p : Pipeline} {api : Model.Api} {result : Result}
    (hp : Pipeline.ofConfig config = .ok p)
    (hresult : p.generate ⟨api, config⟩ = .ok result) (directory : String) (printed : Outcome)
    (disk : Disk) :
    result.artifacts.map Artifact.path = Generation.outputPaths config p
      ∧ ∃ printed' disk', Succeeds (storeAll directory result.artifacts) (printed, disk) ()
        (printed', disk') ∧ Stored directory result.artifacts disk disk' := by
  obtain ⟨printed', h⟩ := exists_succeeds_storeAll directory result.artifacts (printed, disk)
  exact ⟨Generation.path_artifacts hp hresult, printed', _, h, stored_foldl ..⟩

/-- One operation, whose response is a text. -/
def oneText : Model.Api where
  paths := [("/a", [(.get, {
    id := "a", method := .get, path := "/a", operationId := none, summary := none
    description := none, deprecated := false, tags := [], parameters := {}, body := none
    security := [], servers := []
    responses := [("200", ⟨some "application/json", none, .ofShape .string⟩)] })])]

/-- The paths of the finished files, and which of them have content. -/
def outlines (result : Result) : List (String × Bool) :=
  result.artifacts.map fun a => (a.path, a.content.isSome)

theorem stored_of_generate_oneText :
    ∃ p result printed disk, Pipeline.ofConfig {} = .ok p
      ∧ p.generate ⟨oneText, {}⟩ = .ok result
      ∧ outlines result = [("types.gen.ts", true), ("transformers.gen.ts", false),
        ("index.ts", true)]
      ∧ Succeeds (storeAll "out" result.artifacts) ({}, fun _ => none) () (printed, disk)
      ∧ Stored "out" result.artifacts (fun _ => none) disk
      ∧ ∀ a ∈ result.artifacts, disk (placeOf "out" a) = bytes? a := by
  have hconfig : Pipeline.ofConfig {} = .ok [.types {}, .transformers {}] := rfl
  have houtlines : ((Pipeline.generate [.types {}, .transformers {}]
      ⟨oneText, {}⟩).toOption.map outlines) = some [("types.gen.ts", true),
        ("transformers.gen.ts", false), ("index.ts", true)] := by decide +kernel
  obtain ⟨result, hresult, hresults⟩ := Option.map_eq_some_iff.mp houtlines
  have hgenerate := Generation.eq_ok_of_toOption hresult
  obtain ⟨hpaths, printed, disk, hstore, hstored⟩ :=
    stored_of_generate hconfig hgenerate "out" {} fun _ => none
  refine ⟨_, result, printed, disk, hconfig, hgenerate, hresults, hstore, hstored, ?_⟩
  refine hstored.of_nodup ?_
  rw [hpaths]
  decide +kernel

/-- Two generators whose files have one path. -/
def sharedPath : Config :=
  { generators := [.types { output := "api" }, .transformers { output := "api" }] }

/-- A file with content is gone when a later one with the same path has none. -/
theorem exists_overwritten :
    ∃ p result printed disk, sharedPath.check = .ok () ∧ Pipeline.ofConfig sharedPath = .ok p
      ∧ p.generate ⟨oneText, sharedPath⟩ = .ok result
      ∧ Succeeds (storeAll "out" result.artifacts) ({}, fun _ => none) () (printed, disk)
      ∧ ∃ a ∈ result.artifacts, a.path = "api.gen.ts" ∧ a.content.isSome
        ∧ disk (placeOf "out" a) = none := by
  have hconfig : Pipeline.ofConfig sharedPath = .ok sharedPath.generators := rfl
  have houtlines : ((Pipeline.generate sharedPath.generators
      ⟨oneText, sharedPath⟩).toOption.map outlines) = some [("api.gen.ts", true),
        ("api.gen.ts", false), ("index.ts", true)] := by decide +kernel
  obtain ⟨result, hresult, hresults⟩ := Option.map_eq_some_iff.mp houtlines
  obtain ⟨types, rest, hartifacts, htypes, hrest⟩ := List.map_eq_cons_iff.mp hresults
  obtain ⟨transformers, rest, rfl, htransformers, hrest⟩ := List.map_eq_cons_iff.mp hrest
  obtain ⟨index, rest, rfl, hindex, hrest⟩ := List.map_eq_cons_iff.mp hrest
  obtain rfl := List.map_eq_nil_iff.mp hrest
  obtain ⟨hpath, hcontent⟩ := Prod.mk.inj htypes
  obtain ⟨hpath', hcontent'⟩ := Prod.mk.inj htransformers
  obtain ⟨printed, hstore⟩ := exists_succeeds_storeAll "out" result.artifacts ({}, fun _ => none)
  refine ⟨_, result, printed, _, rfl, hconfig, Generation.eq_ok_of_toOption hresult, hstore,
    types, hartifacts ▸ List.mem_cons_self, hpath, hcontent, ?_⟩
  have hplace : placeOf "out" transformers = placeOf "out" types := by
    rw [placeOf, placeOf, hpath, hpath']
  have hnext : placeOf "out" index ≠ placeOf "out" types := by
    rw [placeOf, placeOf, hpath, (Prod.mk.inj hindex).1]
    decide +kernel
  have hlast := (stored_foldl "out" result.artifacts fun _ => none).of_append [types]
    transformers [index] hartifacts (by simpa [hplace] using hnext)
  rw [hplace] at hlast
  rw [hlast, bytes?, Option.map_eq_none_iff]
  simpa using hcontent'

end CommandLine

end OpenApiTypes
