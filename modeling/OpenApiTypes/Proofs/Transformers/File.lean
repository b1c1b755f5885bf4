/-
The file of transformers of a model.

* `Transformers.Resolved`: statements that call no function but those that one of them declares;
* `Transformers.resolved_of_session`: the file of transformers is such, recursive components
  included, and calls no function whose name was withdrawn.
-/
import OpenApiTypes.Proofs.Transformers.Run
import OpenApiTypes.Proofs.TypeScript.Mentions

namespace OpenApiTypes.Transformers

open OpenApiTypes.Generation (Pipeline Session Setting)
open OpenApiTypes.Model
open OpenApiTypes.Output (Registry)
open OpenApiTypes.TypeScript (Stmt constNames stmtsCallees)
open OpenApiTypes.Config (TransformersOptions)

/-- Statements call no function but the built-in `BigInt` and those that exactly one of them
declares, and no function whose name was withdrawn. No name is declared twice. -/
structure Resolved (statements : List Stmt) (r : Registry) : Prop where
  declared_once : ∀ n ∈ stmtsCallees statements, n ≠ "BigInt" → (constNames statements).count n = 1
  nodup_constNames : (constNames statements).Nodup
  not_withdrawn : ∀ n ∈ stmtsCallees statements, ∀ pointer,
    r.status? pointer .value fileId ≠ some (.suppressed n)

namespace Coherent

variable {options : TransformersOptions} {api : Api} {declared : List (String × Stmt)}
  {σ : Session}

/-- The name given for a reference. -/
def nameOf (r : Registry) (pointer : String) : String :=
  ((r.status? pointer .value fileId).map Output.Entry.name).getD ""

lemma nameOf_eq {r : Registry} {pointer : String} {e : Output.Entry}
    (h : r.status? pointer .value fileId = some e) : nameOf r pointer = e.name := by
  simp [nameOf, h]

/-- The names that the statements declare are those given for their references. -/
lemma constNames_eq (h : Coherent options api [] declared σ) :
    constNames (declared.map Prod.snd) = (declared.map Prod.fst).map (nameOf σ.registry) := by
  have hname : ∀ d ∈ declared, d.2.constName? = some (nameOf σ.registry d.1) := by
    intro d hd
    obtain ⟨f, s, name, body, -, -, -, hentry, -, -, exported, isAsync, result, hstmt⟩ :=
      h.sound d hd
    rw [hstmt, nameOf_eq hentry]
    rfl
  rw [constNames, List.filterMap_map, List.map_map, ← List.filterMap_eq_map]
  exact List.filterMap_congr hname

lemma nodup_constNames (h : Coherent options api [] declared σ) :
    (constNames (declared.map Prod.snd)).Nodup := by
  rw [h.constNames_eq]
  refine h.nodup.map_on fun p hp q hq heq => ?_
  obtain ⟨name, hname⟩ := h.status?_of_mem hp
  obtain ⟨name', hname'⟩ := h.status?_of_mem hq
  rw [nameOf_eq hname, nameOf_eq hname'] at heq
  exact h.distinct.pointer_eq hname hname' (congrArg Text.lowercase heq)

/-- Whatever the statements call is built in or has its name. -/
lemma status?_of_mem_callees (h : Coherent options api [] declared σ) {n : String}
    (hn : n ∈ stmtsCallees (declared.map Prod.snd)) :
    n = "BigInt" ∨ ∃ p, σ.registry.status? p .value fileId = some (.active n) := by
  rw [TypeScript.stmtsCallees_eq, List.flatMap_map] at hn
  obtain ⟨d, hd, hn⟩ := List.mem_flatMap.mp hn
  obtain ⟨f, s, name, body, -, -, -, -, hemits, -, exported, isAsync, result, hstmt⟩ :=
    h.sound d hd
  rw [hstmt] at hn
  have hdata : n ∉ data.callees := by simp [data, TypeScript.Expr.callees]
  have hbody := (mem_callees_guardedBody (mem_callees_returning hn)).resolve_left hdata
  exact (hemits.callees n hbody).resolve_left hdata

lemma resolved (h : Coherent options api [] declared σ) :
    Resolved (declared.map Prod.snd) σ.registry where
  declared_once := by
    intro n hn hbuiltin
    obtain ⟨p, hp⟩ := (h.status?_of_mem_callees hn).resolve_left hbuiltin
    refine List.count_eq_one_of_mem h.nodup_constNames ?_
    rw [h.constNames_eq]
    refine List.mem_map.mpr ⟨p, (h.active hp).resolve_left (List.not_mem_nil), nameOf_eq hp⟩
  nodup_constNames := h.nodup_constNames
  not_withdrawn := by
    intro n hn pointer hsuppressed
    rcases h.status?_of_mem_callees hn with rfl | ⟨p, hp⟩
    · exact h.distinct.unreserved hsuppressed (by decide +kernel)
    · obtain rfl := h.distinct.pointer_eq hsuppressed hp rfl
      simp [hp] at hsuppressed

end Coherent

/-- The file of transformers of a model whose operations have different ids: it calls no function
but those that it declares exactly once, declares no name twice, and calls no function whose name
was withdrawn, whichever components refer to themselves or to each other. -/
theorem resolved_of_session {api : Api} {config : Config} {options : TransformersOptions}
    {p : Pipeline} {σ : Session} {file : Output.File}
    (hids : (api.operations.map Operation.id).Nodup)
    (hresponse : Template.IsPlain options.responseName)
    (hp : Pipeline.ofConfig config = .ok p)
    (hmem : .transformers options ∈ config.generators)
    (hσ : p.session ⟨api, config⟩ = .ok σ) (hfile : σ.files.get? fileId = some file) :
    Resolved file.nodes σ.registry := by
  obtain ⟨declared, hcoherent⟩ := (complete_of_session hresponse hids hp hmem hσ).coherent
  obtain ⟨file', hfile', hnodes⟩ := hcoherent.file
  obtain rfl := Option.some.inj (hfile.symm.trans hfile')
  rw [hnodes]
  exact hcoherent.resolved

/-- Two components that refer to each other, and one that needs no statements. -/
def recursiveComponents : Api where
  paths := [("/a", [(.get, {
    id := "all", method := .get, path := "/a", operationId := none, summary := none
    description := none, deprecated := false, tags := [], parameters := {}, body := none
    security := [], servers := []
    responses := [("200", ⟨some "application/json", none, .reference "#/components/schemas/A"⟩)]
    })])]
  components := { schemas := [
    ("A", { shape := some .object, properties := [
      ("plain", .reference "#/components/schemas/C"),
      ("parts", { shape := some .array, items := [.reference "#/components/schemas/B"] })] }),
    ("B", { shape := some .object, properties := [
      ("whole", .reference "#/components/schemas/A"),
      ("at", { shape := some .string, facets := { format := some "date-time" } })] }),
    ("C", .ofShape .string)] }

/-- Options whose names are short. -/
def shortNames : TransformersOptions :=
  { schemaName := "\x7b\x7bname\x7d\x7dOf", responseName := "\x7b\x7bname\x7d\x7dR" }

theorem resolved_of_session_recursiveComponents :
    ∃ p σ file, (recursiveComponents.operations.map Operation.id).Nodup
      ∧ Template.IsPlain shortNames.responseName
      ∧ Pipeline.ofConfig { generators := [.transformers shortNames] } = .ok p
      ∧ p.session ⟨recursiveComponents, { generators := [.transformers shortNames] }⟩ = .ok σ
      ∧ σ.files.get? fileId = some file ∧ stmtsCallees file.nodes = ["aOf", "bOf", "aOf"]
      ∧ Resolved file.nodes σ.registry := by
  have hplain : Template.IsPlain shortNames.responseName :=
    ⟨[], ['R'], by decide +kernel, by decide +kernel, by decide +kernel⟩
  have hconfig : Pipeline.ofConfig { generators := [.transformers shortNames] }
      = .ok [.types {}, .transformers shortNames] := rfl
  have hcallees : ((Pipeline.session [.types {}, .transformers shortNames]
      ⟨recursiveComponents, { generators := [.transformers shortNames] }⟩).toOption.bind fun σ =>
        (σ.files.get? fileId).map fun file => stmtsCallees file.nodes)
      = some ["aOf", "bOf", "aOf"] := by decide +kernel
  obtain ⟨σ, hσ, hfile⟩ := Option.bind_eq_some_iff.mp hcallees
  obtain ⟨file, hfile, hnodes⟩ := Option.map_eq_some_iff.mp hfile
  have hsession := Generation.eq_ok_of_toOption hσ
  exact ⟨_, σ, file, by decide, hplain, hconfig, hsession, hfile, hnodes,
    resolved_of_session (by decide) hplain hconfig (List.mem_singleton_self _) hsession hfile⟩

end OpenApiTypes.Transformers
