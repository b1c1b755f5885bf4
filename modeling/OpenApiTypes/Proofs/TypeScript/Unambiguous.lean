/-
The text of a type determines the type.

* `TypeScript.TypeExpr.Made`: types that are put together in normal form, from names and numbers
  that cannot be taken for anything else;
* `TypeScript.ReadAt`: a type is read back from its text by the readers that may meet it;
  `TypeScript.ReadBack`: it is if they go deep enough;
* `TypeScript.Recovered`: so is each of its alternatives and of its parts, which is true of all
  types that are made;
* `TypeScript.TypeExpr.eq_of_text_eq`: **types with the same text are the same**.
-/
import OpenApiTypes.Proofs.TypeScript.Reading
import OpenApiTypes.Proofs.TypeScript.Unions

namespace OpenApiTypes.TypeScript

open OpenApiTypes.Text (stripPrefix?)

/-! ### What is read back -/

/-- The text of an operand of an intersection. -/
def TypeExpr.operandText (depth : ℕ) (t : TypeExpr) : String :=
  parenthesized t.wrapsInIntersection (t.text depth)

/-- What the readers of each precedence make of the text of a type, if they go `m` levels deep. -/
structure ReadAt (m depth : ℕ) (t : TypeExpr) : Prop where
  type : ReadBy (readType (m + 1)) depth t
  part : t.isUnion = false → ∀ r, EndsPart r →
    readPart (readType m) (m + 1) depth ((t.text depth).toList ++ r) = some (t, r)
  operand : t.isUnion = false → t.isIntersection = false → ∀ r, Stops r →
    readOperand (readType m) (m + 1) depth ((t.text depth).toList ++ r) = some (readSuffixes t r)

section

variable {m depth : ℕ} {t : TypeExpr} {ts : List TypeExpr} {r : List Char}

lemma readSuffixes_of_ends (hr : EndsOperand r) : readSuffixes t r = (t, r) := by
  rw [readSuffixes]
  rintro rest rfl
  simpa [stripPrefix?] using hr.array

lemma toList_intersectedText (depth : ℕ) (ts : List TypeExpr) :
    (intersectedText depth ts).toList
      = " & ".toList.intercalate (ts.map fun t => (t.operandText depth).toList) := by
  induction ts with
  | nil => rfl
  | cons t ts ih =>
    cases ts with
    | nil => simp [intersectedText, TypeExpr.operandText, List.intercalate]
    | cons u ts =>
      rw [intersectedText, String.toList_append, String.toList_append, ih]
      · simp [TypeExpr.operandText, List.intercalate]
      · simp

/-- The parts of a type are read one after the other. -/
lemma readPart_of_operands (hne : ts ≠ []) (hlength : ts.length ≤ m + 1)
    (h : ∀ t ∈ ts, ∀ r, EndsOperand r →
      readOperand (readType m) (m + 1) depth ((t.operandText depth).toList ++ r) = some (t, r))
    (hr : EndsPart r) :
    readPart (readType m) (m + 1) depth ((intersectedText depth ts).toList ++ r)
      = some (together .intersection ts, r) := by
  rw [toList_intersectedText, readPart, separated_intercalate h endsOperand_ampersand
    hr.toEndsOperand hr.intersection hne hlength]
  rfl

/-- The alternatives of a type are read one after the other. -/
lemma readType_of_parts (hne : ts ≠ []) (hlength : ts.length ≤ m + 1)
    (h : ∀ t ∈ ts, ∀ r, EndsPart r →
      readPart (readType m) (m + 1) depth ((t.text depth).toList ++ r) = some (t, r))
    (hr : EndsType r) :
    readType (m + 1) depth ((typesText depth " | " ts).toList ++ r)
      = some (together .union ts, r) := by
  simp only [readType]
  rw [toList_typesText, separated_intercalate h endsPart_bar hr.toEndsPart hr.union hne hlength]
  rfl

/-- A type that is read as a member of a union is read alone. -/
lemma ReadAt.of_part (hintersection : t.isIntersection = true)
    (h : ∀ r, EndsPart r →
      readPart (readType m) (m + 1) depth ((t.text depth).toList ++ r) = some (t, r)) :
    ReadAt m depth t where
  type r hr := by
    have htype := readType_of_parts (List.cons_ne_nil t []) (by simp) (by simpa using h) hr
    rwa [typesText] at htype
  part _ := h
  operand _ hfalse := absurd hintersection (by simp [hfalse])

/-- A type that is read as a member of an intersection is read as one of a union, and alone. -/
lemma ReadAt.of_operand (hunion : t.isUnion = false)
    (h : ∀ r, Stops r →
      readOperand (readType m) (m + 1) depth ((t.text depth).toList ++ r)
        = some (readSuffixes t r)) :
    ReadAt m depth t := by
  have hwraps : t.operandText depth = t.text depth := by
    cases t <;> first | rfl | simp [TypeExpr.isUnion] at hunion
  have hpart : ∀ r, EndsPart r →
      readPart (readType m) (m + 1) depth ((t.text depth).toList ++ r) = some (t, r) := by
    intro r hr
    have hoperand : ∀ u ∈ [t], ∀ r, EndsOperand r →
        readOperand (readType m) (m + 1) depth ((u.operandText depth).toList ++ r)
          = some (u, r) := by
      intro u hu r hr
      obtain rfl := List.mem_singleton.mp hu
      rw [hwraps, h r hr.toStops, readSuffixes_of_ends hr]
    have hpart := readPart_of_operands (List.cons_ne_nil t []) (by simp) hoperand hr
    rwa [intersectedText, ← TypeExpr.operandText, hwraps] at hpart
  refine ⟨fun r hr => ?_, fun _ => hpart, fun _ _ => h⟩
  have htype := readType_of_parts (List.cons_ne_nil t []) (by simp) (by simpa using hpart) hr
  rwa [typesText] at htype

/-- A type that no sign can take apart is read in front of whatever stops a word. -/
lemma ReadAt.of_primary (hunion : t.isUnion = false)
    (h : ∀ r, Stops r →
      readPrimary (readType m) (m + 1) depth ((t.text depth).toList ++ r) = some (t, r)) :
    ReadAt m depth t :=
  .of_operand hunion fun r hr => by
    rw [readOperand, h r hr]
    rfl

/-- In parentheses or without them, if a union or an intersection has them. -/
lemma readOperand_parenthesized (h : ReadAt m depth t) (hinner : ReadBy (readType m) depth t)
    {needed : Bool} (hneeded : needed = false → t.isUnion = false ∧ t.isIntersection = false)
    (hr : Stops r) :
    readOperand (readType m) (m + 1) depth
        ((parenthesized needed (t.text depth)).toList ++ r) = some (readSuffixes t r) := by
  cases needed with
  | false => exact h.operand (hneeded rfl).1 (hneeded rfl).2 r hr
  | true =>
    have htext : (parenthesized true (t.text depth)).toList ++ r
        = '(' :: ((t.text depth).toList ++ ')' :: r) := by
      simp [parenthesized]
    rw [htext, readOperand, readPrimary_parenthesized hinner]
    rfl

lemma together_of_two_le {composite : List TypeExpr → TypeExpr} (h : 2 ≤ ts.length) :
    together composite ts = composite ts := by
  rcases ts with _ | ⟨t, _ | ⟨u, ts⟩⟩
  · rfl
  · simp at h
  · rfl

end

/-! ### Deep enough -/

/-- A type is read back at every depth of nesting, if the readers go deep enough. -/
def ReadBack (t : TypeExpr) : Prop := ∀ depth, ∃ n, ∀ m ≥ n, ReadAt m depth t

section

variable {t : TypeExpr} {ts : List TypeExpr}

/-- What holds of each of some types from some number on holds of all of them from some number
on. -/
lemma exists_forall_ge {P : TypeExpr → ℕ → Prop} (h : ∀ t ∈ ts, ∃ n, ∀ m ≥ n, P t m) :
    ∃ n, ∀ m ≥ n, ∀ t ∈ ts, P t m := by
  induction ts with
  | nil => exact ⟨0, by simp⟩
  | cons t ts ih =>
    obtain ⟨hfirst, hrest⟩ := List.forall_mem_cons.mp h
    obtain ⟨n, hn⟩ := hfirst
    obtain ⟨k, hk⟩ := ih hrest
    exact ⟨max n k, fun m hm =>
      List.forall_mem_cons.mpr ⟨hn m (by omega), hk m (by omega)⟩⟩

/-- The readers that stand one level deeper read the type as well. -/
lemma ReadBack.exists_readBy (h : ReadBack t) (depth : ℕ) :
    ∃ n, ∀ m ≥ n, ReadAt m depth t ∧ ReadBy (readType m) depth t := by
  obtain ⟨n, hn⟩ := h depth
  refine ⟨n + 1, fun m hm => ⟨hn m (by omega), ?_⟩⟩
  obtain ⟨m, rfl⟩ : ∃ j, m = j + 1 := ⟨m - 1, by omega⟩
  exact (hn m (by omega)).type

lemma exists_forall_readBy (h : ∀ t ∈ ts, ReadBack t) (depth : ℕ) :
    ∃ n, ∀ m ≥ n, ∀ t ∈ ts, ReadAt m depth t ∧ ReadBy (readType m) depth t :=
  exists_forall_ge fun t ht => (h t ht).exists_readBy depth

lemma readBack_keyword (keyword : Keyword) : ReadBack (.keyword keyword) := fun _ =>
  ⟨0, fun _ _ => .of_primary rfl fun _ => readPrimary_keyword keyword⟩

lemma readBack_string (s : String) : ReadBack (.literal (.string s)) := fun _ =>
  ⟨0, fun _ _ => .of_primary rfl fun r _ => readPrimary_string s r⟩

lemma readBack_boolean (b : Bool) : ReadBack (.literal (.boolean b)) := fun _ =>
  ⟨0, fun _ _ => .of_primary rfl fun _ => readPrimary_boolean b⟩

lemma readBack_number {n : String} (hn : (Numeral.ofChars? n.toList).isSome = true) :
    ReadBack (.literal (.number n)) := fun _ =>
  ⟨0, fun _ _ => .of_primary rfl fun _ => readPrimary_number hn⟩

lemma readBack_reference {name : String} (hname : isTypeName name = true)
    (hts : ∀ t ∈ ts, ReadBack t) : ReadBack (.reference name ts) := fun depth => by
  obtain ⟨n, hn⟩ := exists_forall_readBy hts depth
  exact ⟨max n ts.length, fun m hm => .of_primary rfl fun _ =>
    readPrimary_reference hname (fun t ht => (hn m (by omega) t ht).2) (by omega)⟩

lemma readBack_tuple (hts : ∀ t ∈ ts, ReadBack t) : ReadBack (.tuple ts) := fun depth => by
  obtain ⟨n, hn⟩ := exists_forall_readBy hts depth
  exact ⟨max n ts.length, fun m hm => .of_primary rfl fun r _ =>
    readPrimary_tuple (readType_close m depth r) (fun t ht => (hn m (by omega) t ht).2) (by omega)⟩

lemma readBack_object {ps : List (Property TypeExpr)} {index : Option TypeExpr}
    (hcomments : ∀ p ∈ ps, p.comment = []) (hps : ∀ p ∈ ps, ReadBack p.type)
    (hindex : ∀ t ∈ index, ReadBack t) : ReadBack (.object ps index) := fun depth => by
  have htypes : ∀ t ∈ ps.map Property.type ++ index.toList, ReadBack t := by
    intro t ht
    rcases List.mem_append.mp ht with ht | ht
    · obtain ⟨p, hp, rfl⟩ := List.mem_map.mp ht
      exact hps p hp
    · exact hindex t (Option.mem_toList.mp ht)
  obtain ⟨n, hn⟩ := exists_forall_readBy htypes (depth + 1)
  refine ⟨max n ps.length, fun m hm => .of_primary rfl fun r _ => ?_⟩
  exact readPrimary_object hcomments
    (fun p hp => (hn m (by omega) _ (by simp [List.mem_map_of_mem hp])).2)
    (fun t ht => (hn m (by omega) t (List.mem_append_right _ (Option.mem_toList.mpr ht))).2)
    (by omega) r

lemma readBack_valueOf {name : String} (hname : isTypeName name = true) :
    ReadBack (.valueOf name) := fun depth => by
  have htypeof : ReadBack (named "typeof") := readBack_reference (by decide) (by simp)
  obtain ⟨n, hn⟩ := htypeof.exists_readBy depth
  exact ⟨n, fun m hm => .of_primary rfl fun r _ => readPrimary_valueOf (hn m hm).2 hname r⟩

lemma readBack_array (ht : ReadBack t) : ReadBack (.array t) := fun depth => by
  obtain ⟨n, hn⟩ := ht.exists_readBy depth
  refine ⟨n, fun m hm => .of_operand rfl fun r _ => ?_⟩
  have hneeded : t.wrapsAsElement = false → t.isUnion = false ∧ t.isIntersection = false := by
    cases t <;> simp [TypeExpr.wrapsAsElement, TypeExpr.isUnion, TypeExpr.isIntersection]
  have htext : ((TypeExpr.array t).text depth).toList ++ r
      = (parenthesized t.wrapsAsElement (t.text depth)).toList ++ '[' :: ']' :: r := by
    simp [TypeExpr.text]
  rw [htext, readOperand_parenthesized (hn m hm).1 (hn m hm).2 hneeded (stops_cons _ (by decide))]
  rfl

/-- A union is read back if its members are, none of which is a union. -/
lemma readBack_union (hlength : 2 ≤ ts.length) (hunion : ∀ t ∈ ts, t.isUnion = false)
    (hts : ∀ t ∈ ts, ReadBack t) : ReadBack (.union ts) := fun depth => by
  obtain ⟨n, hn⟩ := exists_forall_readBy hts depth
  have hne : ts ≠ [] := List.ne_nil_of_length_pos (by omega)
  refine ⟨max n ts.length, fun m hm => ⟨fun r hr => ?_, nofun, nofun⟩⟩
  have htype := readType_of_parts (m := m) hne (by omega)
    (fun t ht => (hn m (by omega) t ht).1.part (hunion t ht)) hr
  rwa [together_of_two_le hlength] at htype

/-- An intersection is read back if its members are, none of which is an intersection. -/
lemma readBack_intersection (hlength : 2 ≤ ts.length)
    (hintersection : ∀ t ∈ ts, t.isIntersection = false) (hts : ∀ t ∈ ts, ReadBack t) :
    ReadBack (.intersection ts) := fun depth => by
  obtain ⟨n, hn⟩ := exists_forall_readBy hts depth
  have hne : ts ≠ [] := List.ne_nil_of_length_pos (by omega)
  refine ⟨max n ts.length, fun m hm => .of_part rfl fun r hr => ?_⟩
  have hoperand : ∀ t ∈ ts, ∀ r, EndsOperand r →
      readOperand (readType m) (m + 1) depth ((t.operandText depth).toList ++ r) = some (t, r) := by
    intro t ht r hr
    obtain ⟨hread, hinner⟩ := hn m (by omega) t ht
    have hneeded : t.wrapsInIntersection = false →
        t.isUnion = false ∧ t.isIntersection = false := by
      refine fun h => ⟨?_, hintersection t ht⟩
      cases t <;> simp_all [TypeExpr.wrapsInIntersection, TypeExpr.isUnion]
    rw [TypeExpr.operandText, readOperand_parenthesized hread hinner hneeded hr.toStops,
      readSuffixes_of_ends hr]
  have hpart := readPart_of_operands hne (by omega) hoperand hr
  rwa [together_of_two_le hlength] at hpart

/-! ### All types that are made -/

/-- Types put together by the constructors. Literals are texts, truth values and numbers as JSON has
them, and members of objects have no comments. -/
inductive TypeExpr.Made : TypeExpr → Prop
  | keyword (k : Keyword) : Made (.keyword k)
  | string (s : String) : Made (.literal (.string s))
  | boolean (b : Bool) : Made (.literal (.boolean b))
  | number {n : String} (hn : (Numeral.ofChars? n.toList).isSome = true) :
      Made (.literal (.number n))
  | reference {name : String} {args : List TypeExpr} (hname : isTypeName name = true)
      (hargs : ∀ t ∈ args, Made t) : Made (.reference name args)
  | array {t : TypeExpr} (ht : Made t) : Made (.array t)
  | tuple {ts : List TypeExpr} (hts : ∀ t ∈ ts, Made t) : Made (.tuple ts)
  | union {ts : List TypeExpr} (hts : ∀ t ∈ ts, Made t) : Made (unionOf ts)
  | intersection {ts : List TypeExpr} (hts : ∀ t ∈ ts, Made t) : Made (intersectionOf ts)
  | object {ps : List (Property TypeExpr)} {index : Option TypeExpr}
      (hcomments : ∀ p ∈ ps, p.comment = []) (hps : ∀ p ∈ ps, Made p.type)
      (hindex : ∀ t ∈ index, Made t) : Made (.object ps index)
  | valueOf {name : String} (hname : isTypeName name = true) : Made (.valueOf name)

/-- A flat type that is read back, and so are its alternatives and its parts. -/
structure Recovered (t : TypeExpr) : Prop where
  flat : t.Flat
  alternatives : ∀ u ∈ t.alternatives, ReadBack u
  parts : ∀ u ∈ t.parts, ReadBack u

lemma Recovered.of_readBack (hunion : t.isUnion = false) (hintersection : t.isIntersection = false)
    (h : ReadBack t) : Recovered t where
  flat := .other hunion hintersection
  alternatives := by simpa [TypeExpr.alternatives_of_isUnion hunion] using h
  parts := by simpa [TypeExpr.parts_of_isIntersection hintersection] using h

/-- A union is its only part, and any other type its only alternative. -/
lemma Recovered.readBack (h : Recovered t) : ReadBack t := by
  cases t with
  | union ts => exact h.parts _ (List.mem_singleton_self _)
  | _ => exact h.alternatives _ (List.mem_singleton_self _)

lemma recovered_unionOf (h : ∀ t ∈ ts, Recovered t) : Recovered (unionOf ts) := by
  by_cases hne : ts = []
  · rw [hne]
    exact .of_readBack rfl rfl (readBack_keyword .never)
  have hflat : ∀ t ∈ ts, t.Flat := fun t ht => (h t ht).flat
  rcases members_cases hflat hne with ⟨t, ht, hmembers, -⟩ | hlength
  · rw [unionOf_of_members_eq hmembers]
    exact h t ht
  · have hmembers : ∀ u ∈ members ts, u.isUnion = false ∧ ReadBack u := by
      intro u hu
      obtain ⟨t, ht, hut⟩ := mem_members.mp hu
      exact ⟨(hflat t ht).isUnion_of_mem_alternatives hut, (h t ht).alternatives u hut⟩
    have hunion := readBack_union hlength (fun u hu => (hmembers u hu).1)
      fun u hu => (hmembers u hu).2
    rw [unionOf_of_two_le hlength]
    exact ⟨.union hlength (nodup_members ts) fun u hu => (hmembers u hu).1,
      fun u hu => (hmembers u hu).2, by simpa [TypeExpr.parts] using hunion⟩

lemma recovered_intersectionOf (h : ∀ t ∈ ts, Recovered t) : Recovered (intersectionOf ts) := by
  have hflat : ∀ t ∈ ts, t.Flat := fun t ht => (h t ht).flat
  rcases ts with _ | ⟨t, _ | ⟨u, ts⟩⟩
  · exact .of_readBack rfl rfl (readBack_keyword .unknown)
  · rw [intersectionOf_singleton (hflat t List.mem_cons_self)]
    exact h t List.mem_cons_self
  · have hmembers : ∀ v ∈ (t :: u :: ts).flatMap TypeExpr.parts,
        v.isIntersection = false ∧ ReadBack v := by
      intro v hv
      obtain ⟨t, ht, hvt⟩ := List.mem_flatMap.mp hv
      exact ⟨(hflat t ht).isIntersection_of_mem_parts hvt, (h t ht).parts v hvt⟩
    have hlength : 2 ≤ ((t :: u :: ts).flatMap TypeExpr.parts).length :=
      Nat.le_trans (by simp) (length_le_length_parts hflat)
    have hintersection := readBack_intersection hlength (fun v hv => (hmembers v hv).1)
      fun v hv => (hmembers v hv).2
    rw [intersectionOf_of_two_le hflat (by simp)]
    exact ⟨.intersection hlength fun v hv => (hmembers v hv).1,
      by simpa [TypeExpr.alternatives] using hintersection, fun v hv => (hmembers v hv).2⟩

/-- All types that are made are read back. -/
lemma TypeExpr.Made.recovered (h : t.Made) : Recovered t := by
  induction h with
  | keyword k => exact .of_readBack rfl rfl (readBack_keyword k)
  | string s => exact .of_readBack rfl rfl (readBack_string s)
  | boolean b => exact .of_readBack rfl rfl (readBack_boolean b)
  | number hn => exact .of_readBack rfl rfl (readBack_number hn)
  | reference hname hargs ih =>
    exact .of_readBack rfl rfl (readBack_reference hname fun t ht => (ih t ht).readBack)
  | array ht ih => exact .of_readBack rfl rfl (readBack_array ih.readBack)
  | tuple hts ih => exact .of_readBack rfl rfl (readBack_tuple fun t ht => (ih t ht).readBack)
  | union hts ih => exact recovered_unionOf ih
  | intersection hts ih => exact recovered_intersectionOf ih
  | object hcomments hps hindex ihps ihindex =>
    exact .of_readBack rfl rfl (readBack_object hcomments (fun p hp => (ihps p hp).readBack)
      fun t ht => (ihindex t ht).readBack)
  | valueOf hname => exact .of_readBack rfl rfl (readBack_valueOf hname)

/-- **Types with the same text are the same.** -/
theorem TypeExpr.eq_of_text_eq {u : TypeExpr} {depth : ℕ} (ht : t.Made) (hu : u.Made)
    (h : t.text depth = u.text depth) : t = u := by
  obtain ⟨n, hn⟩ := ht.recovered.readBack depth
  obtain ⟨k, hk⟩ := hu.recovered.readBack depth
  have hread := (hn (max n k) (by omega)).type [] endsType_nil
  rw [h, (hk (max n k) (by omega)).type [] endsType_nil] at hread
  exact (Prod.mk.inj (Option.some.inj hread)).1.symm

/-- Two ways to put together an array of alternatives, one of them an intersection. -/
theorem TypeExpr.eq_of_text_eq_alternatives :
    let tagged := intersectionOf
      [named "Pet", .object [⟨"kind", true, false, .keyword .string, []⟩] none]
    (TypeExpr.array (unionOf [tagged, .keyword .null])).text 0
        = "(Pet & \x7b\n    kind?: string;\n\x7d | null)[]"
      ∧ TypeExpr.array (unionOf [tagged, .keyword .null])
        = .array (unionOf [unionOf [tagged, .keyword .null], tagged]) := by
  intro tagged
  have hpet : (named "Pet").Made := .reference (by decide) (by simp)
  have hobject : (TypeExpr.object [⟨"kind", true, false, .keyword .string, []⟩] none).Made :=
    .object (by simp) (by simpa using .keyword _) (by simp)
  have htagged : tagged.Made := .intersection (by simp [hpet, hobject])
  have hunion : (unionOf [tagged, .keyword .null]).Made :=
    .union (by simpa [htagged] using .keyword _)
  have htext : (TypeExpr.array (unionOf [tagged, .keyword .null])).text 0
      = (TypeExpr.array (unionOf [unionOf [tagged, .keyword .null], tagged])).text 0 := by
    decide +kernel
  exact ⟨by decide +kernel, TypeExpr.eq_of_text_eq (.array hunion)
    (.array (.union (by simp [htagged, hunion]))) htext⟩

end

end OpenApiTypes.TypeScript
