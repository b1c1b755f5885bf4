/-
Unions and intersections of types that are flat.

* `TypeScript.TypeExpr.Flat`: a union has several members, each once and none of them a union; an
  intersection has several, none of them an intersection;
* `TypeScript.mem_members`, `TypeScript.nodup_members`: the members of a union of types are the
  alternatives of these, each once;
* `TypeScript.alternatives_unionOf`, `TypeScript.unionOf_cons_unionOf`: the union of flat types is
  flat, and the order in which they are put together does not matter;
* `TypeScript.unionOf_pair_eq_left_iff`: a type with one more alternative is the type itself exactly
  if it has that alternative;
* `TypeScript.intersectionOf_of_two_le`: the intersection of several types is an intersection;
* `TypeScript.TypeExpr.Within`: a type inside another one, at any depth;
  `TypeScript.TypeExpr.Normal`: everything inside a type is flat;
* `TypeScript.normal_unionOf`, `TypeScript.normal_intersectionOf`: the constructors keep types
  normal;
* `TypeScript.TypeExpr.Constructed`: types that are put together by nothing but the constructors;
  `TypeScript.flat_of_constructed`: **what is constructed is flat inside, and grouping does not
  change it**.
-/
import Mathlib.Data.List.Nodup
import Mathlib.Data.List.Perm.Subperm
import OpenApiTypes.Proofs.TypeScript.Mentions

namespace OpenApiTypes.TypeScript

variable {t u v : TypeExpr} {ts us : List TypeExpr}

/-! ### Flat types -/

namespace TypeExpr

/-- Whether a type is a union. -/
def isUnion : TypeExpr → Bool
  | union _ => true
  | _ => false

/-- Whether a type is an intersection. -/
def isIntersection : TypeExpr → Bool
  | intersection _ => true
  | _ => false

/-- A union has several members, each once and none of them a union; an intersection has several,
none of them an intersection. -/
inductive Flat : TypeExpr → Prop
  | union {ts : List TypeExpr} (hlength : 2 ≤ ts.length) (hnodup : ts.Nodup)
      (hts : ∀ t ∈ ts, t.isUnion = false) : Flat (.union ts)
  | intersection {ts : List TypeExpr} (hlength : 2 ≤ ts.length)
      (hts : ∀ t ∈ ts, t.isIntersection = false) : Flat (.intersection ts)
  | other {t : TypeExpr} (hunion : t.isUnion = false) (hintersection : t.isIntersection = false) :
      Flat t

lemma alternatives_of_isUnion (h : t.isUnion = false) : t.alternatives = [t] := by
  cases t <;> first | rfl | simp [isUnion] at h

lemma parts_of_isIntersection (h : t.isIntersection = false) : t.parts = [t] := by
  cases t <;> first | rfl | simp [isIntersection] at h

namespace Flat

/-- The alternatives of a flat type are several, or the type is the only one. -/
lemma alternatives_cases (h : t.Flat) : t.alternatives = [t] ∧ t.isUnion = false
    ∨ t = .union t.alternatives ∧ 2 ≤ t.alternatives.length := by
  cases h with
  | union hlength hnodup hts => exact .inr ⟨rfl, hlength⟩
  | intersection hlength hts => exact .inl ⟨rfl, rfl⟩
  | other hunion hintersection => exact .inl ⟨alternatives_of_isUnion hunion, hunion⟩

lemma nodup_alternatives (h : t.Flat) : t.alternatives.Nodup := by
  cases h with
  | union hlength hnodup hts => exact hnodup
  | intersection hlength hts => exact List.nodup_singleton _
  | other hunion hintersection =>
    rw [alternatives_of_isUnion hunion]
    exact List.nodup_singleton _

lemma isUnion_of_mem_alternatives (h : t.Flat) (hu : u ∈ t.alternatives) : u.isUnion = false := by
  cases h with
  | union hlength hnodup hts => exact hts u hu
  | intersection hlength hts =>
    obtain rfl := List.mem_singleton.mp hu
    rfl
  | other hunion hintersection =>
    rw [alternatives_of_isUnion hunion] at hu
    obtain rfl := List.mem_singleton.mp hu
    exact hunion

/-- The parts of a flat type are several, or the type is the only one. -/
lemma parts_cases (h : t.Flat) : t.parts = [t] ∧ t.isIntersection = false
    ∨ t = .intersection t.parts ∧ 2 ≤ t.parts.length := by
  cases h with
  | union hlength hnodup hts => exact .inl ⟨rfl, rfl⟩
  | intersection hlength hts => exact .inr ⟨rfl, hlength⟩
  | other hunion hintersection =>
    exact .inl ⟨parts_of_isIntersection hintersection, hintersection⟩

lemma isIntersection_of_mem_parts (h : t.Flat) (hu : u ∈ t.parts) : u.isIntersection = false := by
  cases h with
  | union hlength hnodup hts =>
    obtain rfl := List.mem_singleton.mp hu
    rfl
  | intersection hlength hts => exact hts u hu
  | other hunion hintersection =>
    rw [parts_of_isIntersection hintersection] at hu
    obtain rfl := List.mem_singleton.mp hu
    exact hintersection

lemma one_le_length_parts (h : t.Flat) : 1 ≤ t.parts.length := by
  rcases h.parts_cases with ⟨heq, -⟩ | ⟨-, hlength⟩
  · simp [heq]
  · omega

end Flat

end TypeExpr

open TypeExpr

/-! ### Members of unions -/

/-- Types that are new and different are all put at the end. -/
lemma foldl_addMember_of_nodup {seen : List TypeExpr} (h : (seen ++ ts).Nodup) :
    ts.foldl addMember seen = seen ++ ts := by
  induction ts generalizing seen with
  | nil => simp
  | cons t ts ih =>
    have hnew : t ∉ seen := fun hmem => (List.nodup_append.mp h).2.2 t hmem t List.mem_cons_self rfl
    rw [List.append_cons] at h
    rw [List.foldl_cons, addMember, if_neg hnew, ih h, List.append_assoc, List.singleton_append]

lemma mem_foldl_addMember_iff {seen : List TypeExpr} :
    t ∈ ts.foldl addMember seen ↔ t ∈ seen ∨ t ∈ ts := by
  refine ⟨mem_foldl_addMember, fun h => ?_⟩
  induction ts generalizing seen with
  | nil => simpa using h
  | cons u ts ih =>
    refine ih ?_
    rw [addMember]
    split_ifs with hu
    · rcases h with h | h
      · exact .inl h
      · rcases List.mem_cons.mp h with rfl | h
        · exact .inl hu
        · exact .inr h
    · simpa [or_assoc] using h

lemma nodup_foldl_addMember {seen : List TypeExpr} (h : seen.Nodup) :
    (ts.foldl addMember seen).Nodup := by
  induction ts generalizing seen with
  | nil => exact h
  | cons t ts ih =>
    refine ih ?_
    rw [addMember]
    split_ifs with ht
    · exact h
    · exact List.nodup_append.mpr ⟨h, List.nodup_singleton t, by
        rintro u hu v hv rfl
        exact ht (List.mem_singleton.mp hv ▸ hu)⟩

/-- The members of a union of types are the alternatives of these. -/
lemma mem_members : t ∈ members ts ↔ ∃ u ∈ ts, t ∈ u.alternatives := by
  rw [members, mem_foldl_addMember_iff, List.mem_flatMap]
  simp

lemma nodup_members (ts : List TypeExpr) : (members ts).Nodup :=
  nodup_foldl_addMember List.nodup_nil

lemma members_append (ts us : List TypeExpr) :
    members (ts ++ us) = (us.flatMap alternatives).foldl addMember (members ts) := by
  rw [members, List.flatMap_append, List.foldl_append, members]

lemma members_singleton (h : t.Flat) : members [t] = t.alternatives := by
  have hnodup : ([] ++ t.alternatives).Nodup := h.nodup_alternatives
  rw [members, List.flatMap_singleton, foldl_addMember_of_nodup hnodup, List.nil_append]

/-! ### Unions -/

lemma unionOf_of_members_eq (h : members ts = [t]) : unionOf ts = t := by
  rw [unionOf, h]

lemma unionOf_of_two_le (h : 2 ≤ (members ts).length) : unionOf ts = .union (members ts) := by
  rw [unionOf]
  rcases hmembers : members ts with _ | ⟨t, _ | ⟨u, us⟩⟩
  · simp [hmembers] at h
  · simp [hmembers] at h
  · rfl

lemma unionOf_congr (h : members ts = members us) : unionOf ts = unionOf us := by
  rw [unionOf, unionOf, h]

section

variable (hts : ∀ t ∈ ts, t.Flat)

include hts

/-- A union of flat types has one member, which is one of them, or it has several. -/
lemma members_cases (hne : ts ≠ []) :
    (∃ t ∈ ts, members ts = [t] ∧ t.isUnion = false) ∨ 2 ≤ (members ts).length := by
  by_cases hlength : 2 ≤ (members ts).length
  · exact .inr hlength
  obtain ⟨t, ts, rfl⟩ := List.exists_cons_of_ne_nil hne
  have ht : t.Flat := hts t List.mem_cons_self
  have hsub : t.alternatives ⊆ members (t :: ts) := fun u hu =>
    mem_members.mpr ⟨t, List.mem_cons_self, hu⟩
  have hle := (ht.nodup_alternatives.subperm hsub).length_le
  rcases ht.alternatives_cases with ⟨heq, hunion⟩ | ⟨-, hseveral⟩
  · refine .inl ⟨t, List.mem_cons_self, ?_, hunion⟩
    rw [heq] at hsub hle
    rw [List.length_singleton] at hle
    obtain ⟨u, hu⟩ := List.length_eq_one_iff.mp (show (members (t :: ts)).length = 1 by omega)
    have htu : t ∈ [u] := hu ▸ hsub (List.mem_singleton_self t)
    rw [hu, List.mem_singleton.mp htu]
  · omega

/-- The union of flat types is flat. -/
lemma flat_unionOf : (unionOf ts).Flat := by
  by_cases hne : ts = []
  · rw [hne]
    exact .other rfl rfl
  rcases members_cases hts hne with ⟨t, ht, hmembers, -⟩ | hlength
  · rw [unionOf_of_members_eq hmembers]
    exact hts t ht
  · rw [unionOf_of_two_le hlength]
    refine .union hlength (nodup_members ts) fun t ht => ?_
    obtain ⟨u, hu, htu⟩ := mem_members.mp ht
    exact (hts u hu).isUnion_of_mem_alternatives htu

/-- Its alternatives are its members. -/
lemma alternatives_unionOf (hne : ts ≠ []) : (unionOf ts).alternatives = members ts := by
  rcases members_cases hts hne with ⟨t, ht, hmembers, hunion⟩ | hlength
  · rw [unionOf_of_members_eq hmembers, hmembers, alternatives_of_isUnion hunion]
  · rw [unionOf_of_two_le hlength, alternatives]

lemma mem_alternatives_unionOf (hne : ts ≠ []) :
    t ∈ (unionOf ts).alternatives ↔ ∃ u ∈ ts, t ∈ u.alternatives := by
  rw [alternatives_unionOf hts hne, mem_members]

/-- A union at the beginning of a list may be written as its types. -/
lemma unionOf_cons_unionOf (hne : ts ≠ []) (us : List TypeExpr) :
    unionOf (unionOf ts :: us) = unionOf (ts ++ us) := by
  refine unionOf_congr ?_
  rw [← List.singleton_append, members_append, members_append, members_singleton (flat_unionOf hts),
    alternatives_unionOf hts hne]

end

/-- A flat type is its own union. -/
lemma unionOf_singleton (h : t.Flat) : unionOf [t] = t := by
  have hmembers := members_singleton h
  rcases h.alternatives_cases with ⟨heq, -⟩ | ⟨heq, hlength⟩
  · exact unionOf_of_members_eq (hmembers.trans heq)
  · rw [unionOf_of_two_le (hmembers ▸ hlength), hmembers, ← heq]

/-- A type with one more alternative is the type itself exactly if it has that alternative. -/
lemma unionOf_pair_eq_left_iff (ht : t.Flat) (hu : u.Flat) (hunion : u.isUnion = false) :
    unionOf [t, u] = t ↔ u ∈ t.alternatives := by
  have hpair : ∀ v ∈ [t, u], v.Flat := by simp [ht, hu]
  refine ⟨fun heq => ?_, fun hmem => ?_⟩
  · rw [← heq, mem_alternatives_unionOf hpair (by simp)]
    exact ⟨u, by simp, by simp [alternatives_of_isUnion hunion]⟩
  · have hmembers : members [t, u] = members [t] := by
      rw [show [t, u] = [t] ++ [u] from rfl, members_append, List.flatMap_singleton,
        alternatives_of_isUnion hunion, members_singleton ht, List.foldl_cons, addMember,
        if_pos hmem, List.foldl_nil]
    rw [unionOf_congr hmembers, unionOf_singleton ht]

/-! ### Intersections -/

section

variable (hts : ∀ t ∈ ts, t.Flat)

include hts

lemma length_le_length_parts : ts.length ≤ (ts.flatMap parts).length := by
  induction ts with
  | nil => simp
  | cons t ts ih =>
    obtain ⟨ht, hrest⟩ := List.forall_mem_cons.mp hts
    have := ht.one_le_length_parts
    have := ih hrest
    simp only [List.flatMap_cons, List.length_append, List.length_cons]
    omega

lemma isIntersection_of_mem_flatMap_parts (hu : u ∈ ts.flatMap parts) :
    u.isIntersection = false := by
  obtain ⟨t, ht, hut⟩ := List.mem_flatMap.mp hu
  exact (hts t ht).isIntersection_of_mem_parts hut

/-- The intersection of several flat types is an intersection. -/
lemma intersectionOf_of_two_le (hlength : 2 ≤ ts.length) :
    intersectionOf ts = .intersection (ts.flatMap parts) := by
  have hparts := length_le_length_parts hts
  rw [intersectionOf]
  rcases heq : ts.flatMap parts with _ | ⟨t, _ | ⟨u, us⟩⟩
  · exact absurd (Nat.le_trans hlength (heq ▸ hparts)) (by simp)
  · exact absurd (Nat.le_trans hlength (heq ▸ hparts)) (by simp)
  · rfl

end

/-- A flat type is its own intersection. -/
lemma intersectionOf_singleton (h : t.Flat) : intersectionOf [t] = t := by
  rw [intersectionOf, List.flatMap_singleton]
  cases h with
  | union hlength hnodup hts => rfl
  | @intersection ts hlength hts =>
    rw [parts]
    rcases ts with _ | ⟨t, _ | ⟨u, us⟩⟩
    · simp at hlength
    · simp at hlength
    · rfl
  | other hunion hintersection => rw [parts_of_isIntersection hintersection]

/-- The intersection of flat types is flat. -/
lemma flat_intersectionOf (hts : ∀ t ∈ ts, t.Flat) : (intersectionOf ts).Flat := by
  rcases ts with _ | ⟨t, _ | ⟨u, us⟩⟩
  · exact .other rfl rfl
  · rw [intersectionOf_singleton (hts t List.mem_cons_self)]
    exact hts t List.mem_cons_self
  · have hlength : 2 ≤ (t :: u :: us).length := by simp
    rw [intersectionOf_of_two_le hts hlength]
    exact .intersection (Nat.le_trans hlength (length_le_length_parts hts)) fun v hv =>
      isIntersection_of_mem_flatMap_parts hts hv

/-- An intersection of flat types has a certain alternative only if it is one of a single type. -/
lemma mem_alternatives_intersectionOf (hts : ∀ t ∈ ts, t.Flat) (hne : ts ≠ [])
    (hu : u.isIntersection = false) :
    u ∈ (intersectionOf ts).alternatives ↔ ∃ t, ts = [t] ∧ u ∈ t.alternatives := by
  rcases ts with _ | ⟨t, _ | ⟨v, us⟩⟩
  · exact absurd rfl hne
  · simp [intersectionOf_singleton (hts t List.mem_cons_self)]
  · rw [intersectionOf_of_two_le hts (by simp), alternatives_of_isUnion rfl]
    refine iff_of_false (fun hmem => ?_) (by simp)
    obtain rfl := List.mem_singleton.mp hmem
    exact Bool.noConfusion hu

namespace TypeExpr

/-! ### Types inside others -/

/-- The types directly inside a type. -/
def children : TypeExpr → List TypeExpr
  | keyword _ | literal _ | valueOf _ => []
  | reference _ arguments => arguments
  | array element => [element]
  | tuple elements => elements
  | union members => members
  | intersection members => members
  | object properties index => properties.map Property.type ++ index.toList

/-- A type is another one or inside it. -/
inductive Within : TypeExpr → TypeExpr → Prop
  | here {t : TypeExpr} : Within t t
  | inside {t u v : TypeExpr} (hmem : u ∈ t.children) (h : Within v u) : Within v t

/-- Everything inside a type is flat. -/
def Normal (t : TypeExpr) : Prop := ∀ u : TypeExpr, u.Within t → u.Flat

namespace Normal

lemma flat (h : t.Normal) : t.Flat := h t .here

lemma of_flat (hflat : t.Flat) (h : ∀ u ∈ t.children, u.Normal) : t.Normal := by
  intro v hv
  cases hv with
  | here => exact hflat
  | inside hmem hv => exact h _ hmem v hv

lemma of_mem_children (h : t.Normal) (hmem : u ∈ t.children) : u.Normal := fun v hv =>
  h v (.inside hmem hv)

/-- The alternatives of a union are inside it, and any other type is its own. -/
lemma of_mem_alternatives (h : t.Normal) (hmem : u ∈ t.alternatives) : u.Normal := by
  unfold alternatives at hmem
  split at hmem
  · exact h.of_mem_children hmem
  · rwa [List.mem_singleton.mp hmem]

lemma of_mem_parts (h : t.Normal) (hmem : u ∈ t.parts) : u.Normal := by
  unfold parts at hmem
  split at hmem
  · exact h.of_mem_children hmem
  · rwa [List.mem_singleton.mp hmem]

end Normal

end TypeExpr

open TypeExpr

/-! ### The constructors -/

section

variable (hts : ∀ t ∈ ts, t.Normal)

include hts

lemma normal_unionOf : (unionOf ts).Normal := by
  have hflat : ∀ t ∈ ts, t.Flat := fun t ht => (hts t ht).flat
  by_cases hne : ts = []
  · rw [hne]
    exact .of_flat (.other rfl rfl) (by simp [unionOf, members, children])
  rcases members_cases hflat hne with ⟨t, ht, hmembers, -⟩ | hlength
  · rw [unionOf_of_members_eq hmembers]
    exact hts t ht
  · refine .of_flat (flat_unionOf hflat) ?_
    rw [unionOf_of_two_le hlength]
    intro u hu
    obtain ⟨t, ht, hut⟩ := mem_members.mp hu
    exact (hts t ht).of_mem_alternatives hut

lemma normal_intersectionOf : (intersectionOf ts).Normal := by
  have hflat : ∀ t ∈ ts, t.Flat := fun t ht => (hts t ht).flat
  rcases ts with _ | ⟨t, _ | ⟨u, us⟩⟩
  · exact .of_flat (.other rfl rfl) (by simp [intersectionOf, children])
  · rw [intersectionOf_singleton (hflat t List.mem_cons_self)]
    exact hts t List.mem_cons_self
  · refine .of_flat (flat_intersectionOf hflat) ?_
    rw [intersectionOf_of_two_le hflat (by simp)]
    intro v hv
    obtain ⟨w, hw, hvw⟩ := List.mem_flatMap.mp hv
    exact (hts w hw).of_mem_parts hvw

end

lemma intersectionOf_congr (h : ts.flatMap parts = us.flatMap parts) :
    intersectionOf ts = intersectionOf us := by
  rw [intersectionOf, intersectionOf, h]

section

variable (hts : ∀ t ∈ ts, t.Flat)

include hts

/-- The parts of an intersection of flat types are their parts. -/
lemma parts_intersectionOf (hne : ts ≠ []) :
    (intersectionOf ts).parts = ts.flatMap parts := by
  rcases ts with _ | ⟨t, _ | ⟨u, us⟩⟩
  · exact absurd rfl hne
  · rw [intersectionOf_singleton (hts t List.mem_cons_self), List.flatMap_singleton]
  · rw [intersectionOf_of_two_le hts (by simp), parts]

/-- An intersection at the beginning of a list may be written as its types. -/
lemma intersectionOf_cons_intersectionOf (hne : ts ≠ []) (us : List TypeExpr) :
    intersectionOf (intersectionOf ts :: us) = intersectionOf (ts ++ us) := by
  refine intersectionOf_congr ?_
  rw [List.flatMap_cons, parts_intersectionOf hts hne, List.flatMap_append]

end

/-! ### Everything that is constructed -/

/-- Types put together by nothing but the constructors. -/
inductive TypeExpr.Constructed : TypeExpr → Prop
  | keyword (k : Keyword) : Constructed (.keyword k)
  | literal (l : Literal) : Constructed (.literal l)
  | reference (name : String) {args : List TypeExpr} (hargs : ∀ t ∈ args, Constructed t) :
      Constructed (.reference name args)
  | array {t : TypeExpr} (ht : Constructed t) : Constructed (.array t)
  | tuple {ts : List TypeExpr} (hts : ∀ t ∈ ts, Constructed t) : Constructed (.tuple ts)
  | union {ts : List TypeExpr} (hts : ∀ t ∈ ts, Constructed t) : Constructed (unionOf ts)
  | intersection {ts : List TypeExpr} (hts : ∀ t ∈ ts, Constructed t) :
      Constructed (intersectionOf ts)
  | object {ps : List (Property TypeExpr)} {index : Option TypeExpr}
      (hps : ∀ p ∈ ps, Constructed p.type) (hindex : ∀ t ∈ index, Constructed t) :
      Constructed (.object ps index)
  | valueOf (name : String) : Constructed (.valueOf name)

lemma TypeExpr.Constructed.normal (h : t.Constructed) : t.Normal := by
  induction h with
  | keyword | literal | valueOf => exact .of_flat (.other rfl rfl) (by simp [children])
  | reference name hargs ih => exact .of_flat (.other rfl rfl) ih
  | array ht ih => exact .of_flat (.other rfl rfl) (by simpa [children] using ih)
  | tuple hts ih => exact .of_flat (.other rfl rfl) ih
  | union hts ih => exact normal_unionOf ih
  | intersection hts ih => exact normal_intersectionOf ih
  | object hps hindex ihps ihindex =>
    refine .of_flat (.other rfl rfl) fun t ht => ?_
    rcases List.mem_append.mp ht with ht | ht
    · obtain ⟨p, hp, rfl⟩ := List.mem_map.mp ht
      exact ihps p hp
    · exact ihindex t (Option.mem_toList.mp ht)

/-- **Everything inside a type that is constructed is flat, and grouping the types of a union or an
intersection does not change it.** -/
theorem flat_of_constructed :
    (∀ t : TypeExpr, t.Constructed → ∀ u : TypeExpr, u.Within t → u.Flat)
      ∧ ∀ ts us : List TypeExpr, ts ≠ [] → (∀ t ∈ ts, t.Constructed) →
        unionOf (unionOf ts :: us) = unionOf (ts ++ us)
          ∧ intersectionOf (intersectionOf ts :: us) = intersectionOf (ts ++ us) := by
  refine ⟨fun t ht => ht.normal, fun ts us hne hts => ?_⟩
  have hflat : ∀ t ∈ ts, t.Flat := fun t ht => (hts t ht).normal.flat
  exact ⟨unionOf_cons_unionOf hflat hne us, intersectionOf_cons_intersectionOf hflat hne us⟩

/-- An intersection that holds the same union twice, beside the members of that union. -/
theorem flat_of_constructed_nested :
    let optional := unionOf [named "Cat", unionOf [.keyword .null, named "Cat"]]
    let tagged := intersectionOf [optional, intersectionOf [named "Tag", optional]]
    optional.Within (.array (unionOf [tagged, optional])) ∧ optional.Flat
      ∧ unionOf (unionOf [optional, tagged] :: [optional])
        = .union [named "Cat", .keyword .null, tagged]
      ∧ intersectionOf (intersectionOf [optional, tagged] :: [optional])
        = .intersection [optional, optional, named "Tag", optional, optional] := by
  intro optional tagged
  have hnamed (name : String) : (named name).Constructed := .reference name (by simp)
  have hnull : (TypeExpr.keyword .null).Constructed := .keyword .null
  have hpair : (unionOf [.keyword .null, named "Cat"]).Constructed := .union (by simp [hnamed, hnull])
  have hoptional : optional.Constructed := .union (by simp [hnamed, hpair])
  have htag : (intersectionOf [named "Tag", optional]).Constructed :=
    .intersection (by simp [hnamed, hoptional])
  have htagged : tagged.Constructed := .intersection (by simp [hoptional, htag])
  have harray : (TypeExpr.array (unionOf [tagged, optional])).Constructed :=
    .array (.union (by simp [htagged, hoptional]))
  have hinside : optional.Within (.array (unionOf [tagged, optional])) :=
    .inside (u := unionOf [tagged, optional]) (by decide +kernel)
      (.inside (u := tagged) (by decide +kernel) (.inside (by decide +kernel) .here))
  obtain ⟨hunion, hintersection⟩ := flat_of_constructed.2 [optional, tagged] [optional] (by simp)
    (by simp [hoptional, htagged])
  exact ⟨hinside, flat_of_constructed.1 _ harray _ hinside, hunion.trans (by decide +kernel),
    hintersection.trans (by decide +kernel)⟩

end OpenApiTypes.TypeScript
