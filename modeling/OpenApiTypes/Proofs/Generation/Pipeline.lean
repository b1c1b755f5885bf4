/-
The order of the generators.

* `Generation.eq_of_ofConfig`: a pipeline is empty, or the generator of types runs first in it and
  that of transformers at most once, after it;
* `Generation.runs_types_of_mem`: so a session comes of a run of the generator of types, and of at
  most one other run after it.
-/
import OpenApiTypes.Proofs.Generation.Steps

namespace OpenApiTypes.Generation

open OpenApiTypes.Config (Generator GeneratorKind)

lemma nodup_of_firstDuplicate?_eq_none {generators : List Generator} {seen : List GeneratorKind}
    (h : firstDuplicate? seen generators = none) :
    (generators.map Generator.kind).Nodup ∧ ∀ g ∈ generators, g.kind ∉ seen := by
  induction generators generalizing seen with
  | nil => simp
  | cons g rest ih =>
    rw [firstDuplicate?] at h
    split at h
    · simp at h
    · rename_i hg
      obtain ⟨hnodup, hrest⟩ := ih h
      refine ⟨List.nodup_cons.mpr ⟨fun hmem => ?_, hnodup⟩, fun other hother => ?_⟩
      · obtain ⟨other, hother, heq⟩ := List.mem_map.mp hmem
        exact hrest other hother (heq ▸ List.mem_cons_self)
      · rcases List.mem_cons.mp hother with rfl | hother
        · exact hg
        · exact fun hseen => hrest other hother (List.mem_cons_of_mem _ hseen)

/-- There are two generators, so a list without repetitions holds no more than two. -/
lemma length_le_of_nodup {generators : List Generator}
    (h : (generators.map Generator.kind).Nodup) : generators.length ≤ 2 := by
  have hsubset : generators.map Generator.kind ⊆ [.types, .transformers] := by
    intro kind _
    cases kind <;> simp
  simpa using h.length_le_of_subset hsubset

/-- The generator of types runs first, and that of transformers at most once. -/
lemma eq_of_ofConfig {config : Config} {p : Pipeline} (h : Pipeline.ofConfig config = .ok p) :
    p = [] ∨ (∃ o, p = [.types o]) ∨ ∃ o o', p = [.types o, .transformers o'] := by
  unfold Pipeline.ofConfig at h
  split at h
  · simp at h
  · rename_i hduplicate
    obtain rfl := Except.ok.inj h
    obtain ⟨hnodup, -⟩ := nodup_of_firstDuplicate?_eq_none hduplicate
    have hlength := length_le_of_nodup hnodup
    match config.generators, hnodup, hlength with
    | [], _, _ => exact .inl rfl
    | [.types o], _, _ => exact .inr (.inl ⟨o, rfl⟩)
    | [.transformers o], _, _ => exact .inr (.inr ⟨{}, o, rfl⟩)
    | [.types o, .transformers o'], _, _ => exact .inr (.inr ⟨o, o', rfl⟩)
    | [.transformers o', .types o], _, _ => exact .inr (.inr ⟨o, o', rfl⟩)
    | [.types _, .types _], hnodup, _ => simp [Generator.kind] at hnodup
    | [.transformers _, .transformers _], hnodup, _ => simp [Generator.kind] at hnodup

/-- The generators of a configuration are in its pipeline. -/
lemma mem_of_ofConfig {config : Config} {p : Pipeline} (h : Pipeline.ofConfig config = .ok p)
    {g : Generator} (hg : g ∈ config.generators) : g ∈ p := by
  have hknown : ∀ (kinds : List GeneratorKind) (known : List Generator), g ∈ known →
      g ∈ kinds.foldl (fun known kind =>
        if known.any fun g => g.kind == kind then known else known ++ [Generator.ofKind kind])
        known := by
    intro kinds
    induction kinds with
    | nil => exact fun _ h => h
    | cons kind kinds ih =>
      intro known h
      rw [List.foldl_cons]
      split
      · exact ih _ h
      · exact ih _ (List.mem_append_left _ h)
  unfold Pipeline.ofConfig at h
  split at h
  · simp at h
  · obtain rfl := Except.ok.inj h
    have hmem : g ∈ withDependencies config.generators := hknown _ _ hg
    unfold inOrder
    by_cases hdependencies : (dependencies g.kind).isEmpty
    · exact List.mem_append_left _ (List.mem_filter.mpr ⟨hmem, hdependencies⟩)
    · exact List.mem_append_right _ (List.mem_filter.mpr ⟨hmem, by simpa using hdependencies⟩)

/-- No generator depends on that of transformers, so a pipeline has it from its configuration. -/
lemma mem_generators_of_ofConfig {config : Config} {p : Pipeline}
    {o : Config.TransformersOptions} (h : Pipeline.ofConfig config = .ok p)
    (hmem : .transformers o ∈ p) : .transformers o ∈ config.generators := by
  have hadded : ∀ (kinds : List GeneratorKind) (known : List Generator),
      (∀ kind ∈ kinds, kind = .types) → .transformers o ∈ kinds.foldl (fun known kind =>
        if known.any fun g => g.kind == kind then known else known ++ [Generator.ofKind kind])
        known → .transformers o ∈ known := by
    intro kinds
    induction kinds with
    | nil => exact fun _ _ h => h
    | cons kind kinds ih =>
      intro known hkinds hfold
      obtain ⟨rfl, hrest⟩ := List.forall_mem_cons.mp hkinds
      have hnext := ih _ hrest hfold
      dsimp only at hnext
      split at hnext
      · exact hnext
      · simpa [Generator.ofKind] using hnext
  have hdependencies : ∀ kind ∈ config.generators.flatMap fun g => dependencies g.kind,
      kind = .types := by
    intro kind hkind
    obtain ⟨g, -, hkind⟩ := List.mem_flatMap.mp hkind
    cases hg : g.kind <;> rw [hg] at hkind
    · exact absurd hkind List.not_mem_nil
    · exact List.mem_singleton.mp hkind
  unfold Pipeline.ofConfig at h
  split at h
  · simp at h
  · obtain rfl := Except.ok.inj h
    refine hadded _ _ hdependencies ?_
    rcases List.mem_append.mp hmem with hmem | hmem
    · exact (List.mem_filter.mp hmem).1
    · exact (List.mem_filter.mp hmem).1

/-- A pipeline with the generator of transformers runs it after the generator of types. -/
lemma eq_of_ofConfig_of_mem {config : Config} {p : Pipeline} {o' : Config.TransformersOptions}
    (h : Pipeline.ofConfig config = .ok p) (hmem : .transformers o' ∈ config.generators) :
    ∃ o, p = [.types o, .transformers o'] := by
  have hp := mem_of_ofConfig h hmem
  rcases eq_of_ofConfig h with rfl | ⟨o, rfl⟩ | ⟨o, o'', rfl⟩
  · simp at hp
  · simp at hp
  · obtain rfl : o' = o'' := by simpa using hp
    exact ⟨o, rfl⟩

/-- A pipeline with the generator of types has run it first. -/
lemma runs_types_of_mem [Template.Engine] {config : Config} {p : Pipeline} {setting : Setting}
    {σ : Session} {o : Config.TypesOptions} (hp : Pipeline.ofConfig config = .ok p)
    (hσ : p.session setting = .ok σ) (ho : .types o ∈ p) : ∃ σ₁,
      Runs (Types.run setting o) {} () σ₁
        ∧ (σ = σ₁ ∨ ∃ o', Runs (Transformers.run setting o') σ₁ () σ) := by
  rw [session_eq_ok_iff] at hσ
  rcases eq_of_ofConfig hp with rfl | ⟨o', rfl⟩ | ⟨o', o'', rfl⟩
  · simp at ho
  · obtain rfl : o = o' := by simpa using ho
    obtain ⟨_, σ₁, htypes, hend⟩ := runs_bind_iff.mp hσ
    obtain ⟨-, rfl⟩ := runs_pure_iff.mp hend
    exact ⟨_, htypes, .inl rfl⟩
  · obtain rfl : o = o' := by simpa using ho
    obtain ⟨_, σ₁, htypes, hrest⟩ := runs_bind_iff.mp hσ
    obtain ⟨_, σ₂, htransformers, hend⟩ := runs_bind_iff.mp hrest
    obtain ⟨-, rfl⟩ := runs_pure_iff.mp hend
    exact ⟨σ₁, htypes, .inr ⟨o'', htransformers⟩⟩

/-- A pipeline that leaves a file behind has the generator of types. -/
lemma exists_types_mem [Template.Engine] {config : Config} {p : Pipeline} {setting : Setting}
    {σ : Session} {id : String} {file : Output.File} (hp : Pipeline.ofConfig config = .ok p)
    (hσ : p.session setting = .ok σ) (hfile : σ.files.get? id = some file) :
    ∃ o, .types o ∈ p := by
  rcases eq_of_ofConfig hp with rfl | ⟨o, rfl⟩ | ⟨o, o', rfl⟩
  · obtain ⟨-, rfl⟩ := runs_pure_iff.mp (session_eq_ok_iff.mp hσ)
    simp [Entries.get?] at hfile
  · exact ⟨o, List.mem_cons_self⟩
  · exact ⟨o, List.mem_cons_self⟩

lemma eq_ok_of_toOption {ε α : Type} {x : Except ε α} {a : α} (h : x.toOption = some a) :
    x = .ok a := by
  cases x with
  | error e => simp [Except.toOption] at h
  | ok b => exact congrArg _ (Option.some.inj h)

end OpenApiTypes.Generation
