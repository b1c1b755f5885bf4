/-
Generated statements restore values.

* `Transformers.Restoring.array`: the statement that restores the elements of an array;
* `Transformers.AtRecord`, `Transformers.exists_properties`: the statements for the properties of a
  record, which change one of its members after the other;
* `Transformers.Restoring.helper`: the call of the function for a component;
* `Transformers.restoring_of_emits`: the statements of a schema turn a value into what it is
  restored to, and change nothing else;
* `Transformers.Transforms`: a function turns every representation of a value into one of a tree.
-/
import OpenApiTypes.Proofs.Transformers.Restoring

namespace OpenApiTypes.Transformers

open OpenApiTypes.Model
open OpenApiTypes.Output (Registry)
open OpenApiTypes.TypeScript
open OpenApiTypes.Config (TransformersOptions)

variable {options : TransformersOptions} {numberText : Number → String} {api : Api}
  {lossy : Prop} {r : Registry} {g : Nat → Globals} {s : Schema} {v : Json} {t w : Tree}
  {target : Expr}
  {stmts body : List Stmt} {σ σ' : State} {place : TypeScript.Place} {value : Value}
  {F : Set Nat} {name : String} {address : Nat} {names : List String} {f f' : String → Slot}

/-! ### Arrays -/

lemma evalExpr_map {g : Globals} {elements ws : List Value}
    (htarget : evalExpr g target σ = some (.object address, σ))
    (hcell : σ.heap[address]? = some (.array elements))
    (hmap : mapElements (applyToElement body g) address elements.length 0 σ = some (ws, σ')) :
    evalExpr g (.call (.property target "map") [functionOf "item" (itemBody body)]) σ
      = some (σ'.newArray ws) := by
  rw [evalExpr, htarget]
  simp only [Option.bind_eq_bind, Option.bind_some, functionOf, evalMethod, if_true]
  have helements : σ.elements? address = some elements := by simp [State.elements?, hcell]
  simp only [Value.address?, Option.bind_some, helements]
  exact congrArg (Option.bind · fun x => some (x.2.newArray x.1)) hmap

/-- The statement for an array restores its elements. -/
lemma Restoring.array {pairs : List (Tree × Tree)}
    (h : Holds σ target place value (.array (pairs.map Prod.fst)) F) (hbody : body ≠ [])
    (hturns : ∀ x ∈ pairs, ∀ slot : Slot, slot.tree = x.1 →
      Turns (fun m => applyToElement body (g m)) σ slot x.2) :
    Restoring g (arrayBody target body) place F (.array (pairs.map Prod.snd)) σ := by
  obtain ⟨address, f, rfl, hcell, htrees, hs, hF⟩ := h.rep.exists_slots_of_array
  rw [List.length_map] at hcell htrees hs hF
  subst hF
  have hlength : ((List.range pairs.length).map fun i => (f i).value).length = pairs.length := by
    simp
  have hf : ∀ i, 0 ≤ i → i < ((List.range pairs.length).map fun i => (f i).value).length →
      ((List.range pairs.length).map fun i => (f i).value)[i]? = some (f i).value
        ∧ Turns (fun m => applyToElement body (g m)) σ (f i) (pairs[i]?.getD default).2 := by
    intro i _ hi
    rw [hlength] at hi
    refine ⟨by simp [hi], ?_⟩
    simp only [List.getElem?_eq_getElem hi, Option.getD_some]
    refine hturns _ (List.getElem_mem hi) _ ?_
    have := congrArg (·[i]?) htrees
    simpa [hi] using this.symm
  obtain ⟨f', σ', hchanges, -, htrees', heval⟩ :=
    mapElements_eq pairs.length (by simp) hcell (by simpa using hs) hf
  rw [hlength] at hchanges htrees'
  have hrep' := hchanges.slots.newArray
  have htree : ((List.range pairs.length).map fun i => (f' i).tree) = pairs.map Prod.snd := by
    refine List.ext_getElem (by simp) fun i hi hi' => ?_
    rw [List.length_map, List.length_range] at hi
    simp [htrees' i (Nat.zero_le i) hi, hi]
  rw [htree] at hrep'
  unfold arrayBody
  rw [if_neg (by simpa using hbody)]
  refine .assign h (hchanges.keeps.trans (.newArray _ _ _)) hrep' ?_ ?_
  · rintro b (rfl | ⟨i, hi, hb⟩)
    · exact .inr hchanges.keeps.length
    · simpa using hchanges.footprint_new b (.inr ⟨i, hi, hb⟩)
  · filter_upwards [heval] with m hm
    rw [← List.range_eq_range'] at hm
    exact evalExpr_map h.evalExpr_eq hcell (by rwa [hlength])

/-! ### Records -/

/-- An expression stands for a place that holds a record with certain parts. -/
structure AtRecord (σ : State) (target : Expr) (place : TypeScript.Place) (address : Nat)
    (names : List String) (f : String → Slot) : Prop where
  enclosed : Enclosed σ
  denotes : ∃ path, Denotes σ target place path
    ∧ ∀ b ∈ path, b ∉ footprint address names f ∧ b ∉ place.cells
  outside : ∀ b ∈ place.cells, b ∉ footprint address names f
  read : σ.read? place = some (.object address)
  nodup : names.Nodup
  cell : σ.heap[address]? = some (.record (names.map fun n => (n, (f n).value)))
  slots : Slots σ.heap address names f

namespace AtRecord

lemma read?_member (h : AtRecord σ target place address names f) (name : String) :
    σ.read? (.member address name)
      = some (if name ∈ names then (f name).value else .missing name) := by
  refine State.read?_member_eq_some_iff.mpr ⟨_, h.cell, ?_⟩
  split
  · rename_i hname
    rw [Entries.get?_map hname, Option.getD_some]
  · rename_i hname
    rw [Entries.get?_map_of_notMem hname, Option.getD_none]

/-- A member that is missing reads as undefined, unless every record inherits one. -/
lemma evalExpr_missing {g : Globals} (h : AtRecord σ target place address names f)
    (hname : name ∉ names) (hinherited : name ∉ inheritedNames) :
    evalExpr g (.property target name) σ = some (.undefined, σ) := by
  obtain ⟨path, hdenotes, -⟩ := h.denotes
  refine (Denotes.member name hdenotes h.read).evalExpr_eq ?_
  rw [h.read?_member, if_neg hname, Value.missing, if_neg hinherited]

/-- A member that is there holds its part. -/
lemma member (h : AtRecord σ target place address names f) (hname : name ∈ names) :
    Holds σ (.property target name) (.member address name) (f name).value (f name).tree
      (f name).cells where
  enclosed := h.enclosed
  denotes := by
    obtain ⟨path, hdenotes, hpath⟩ := h.denotes
    refine ⟨_, .member name hdenotes h.read, fun b hb => ?_⟩
    have hfootprint : b ∉ footprint address names f :=
      hb.elim (fun hb => h.outside b hb) fun hb => (hpath b hb).1
    exact ⟨fun hmem => hfootprint (.inr ⟨name, hname, hmem⟩), fun hmem => hfootprint (.inl hmem)⟩
  outside := fun b hb => by
    obtain rfl := Set.mem_singleton_iff.mp hb
    exact h.slots.root name hname
  read := by rw [h.read?_member, if_pos hname]
  rep := h.slots.reps name hname

/-- Statements that restore one member change the record in this part. -/
lemma restoring (h : AtRecord σ target place address names f) (hname : name ∈ names)
    (hrestoring : Restoring g stmts (.member address name) (f name).cells w σ) :
    ∃ slot σ', slot.tree = w
      ∧ Changes address names σ f σ' (Function.update f name slot)
      ∧ AtRecord σ' target place address names (Function.update f name slot)
      ∧ ∀ᶠ m in Filter.atTop, evalStmts (g m) stmts σ = some (none, σ') := by
  obtain ⟨value, cells, σ', hkeeps, hrep, hnew, heval⟩ := hrestoring
  have haddress := (List.getElem?_eq_some_iff.mp h.cell).1
  have hroot := h.slots.root name hname
  have hkeeps' : Keeps (insert address (f name).cells) σ σ' :=
    (Keeps.write_member (Set.mem_insert _ _)).trans (hkeeps.mono (Set.subset_insert _ _))
  have hchanges : Changes address names σ f σ' (Function.update f name ⟨value, w, cells⟩) :=
    .update h.slots haddress hname hkeeps' hrep hnew
  have hcell : σ'.heap[address]? = some (.record (names.map fun n =>
      (n, (Function.update f name ⟨value, w, cells⟩ n).value))) := by
    refine hkeeps.cells hroot ?_
    rw [State.write_member h.cell, Entries.put_map h.nodup hname]
    simp [haddress, Function.update_apply, apply_ite Slot.value]
  obtain ⟨path, hdenotes, hpath⟩ := h.denotes
  refine ⟨⟨value, w, cells⟩, σ', rfl, hchanges, ⟨?_, ?_, ?_, ?_, h.nodup, hcell, hchanges.slots⟩,
    heval⟩
  · simpa [Enclosed, hkeeps'.bindings] using h.enclosed
  · refine ⟨path, hdenotes.of_keeps hchanges.keeps fun b hb => (hpath b hb).1,
      fun b hb => ⟨fun hmem => ?_, (hpath b hb).2⟩⟩
    have := hdenotes.lt_length hb
    exact (hchanges.footprint_new b hmem).elim (hpath b hb).1 (by omega)
  · intro b hb hmem
    have := State.lt_of_read? h.read hb
    exact (hchanges.footprint_new b hmem).elim (h.outside b hb) (by omega)
  · exact hchanges.keeps.read? h.outside h.read

/-- The statements for a property that may be missing do nothing to a record without it, if there
are none or no such member is inherited. -/
lemma evalStmts_propertyBody (hlinked : Linked options numberText api lossy r g)
    (h : AtRecord σ target place address names f) {property : String × Schema}
    (hname : property.1 ∉ names) (hoptional : property.1 ∉ s.required)
    (hinherited : property.1 ∈ inheritedNames → body = []) (m : Nat) :
    evalStmts (g m) (propertyBody s target property body) σ = some (none, σ) := by
  unfold propertyBody
  split_ifs with hempty hmust
  · rfl
  · obtain ⟨hrequired, -⟩ := Bool.and_eq_true_iff.mp hmust
    exact absurd (List.contains_iff_mem.mp hrequired) hoptional
  · have hown : property.1 ∉ inheritedNames := fun hmem => hempty (by simp [hinherited hmem])
    exact evalStmts_missing (h.enclosed.isBuiltin hlinked m (by simp))
      (h.evalExpr_missing hname hown) rfl

/-- The statements for properties restore the members of a record, one after the other. -/
lemma exists_properties {goal : String → Tree} (xs : List ((String × Schema) × List Stmt)) :
    ∀ {σ : State} {f : String → Slot}, (xs.map fun x => x.1.1).Nodup →
      AtRecord σ target place address names f →
      (∀ x ∈ xs, x.1.1 ∈ names → ∀ {σ₁ : State} {f₁ : String → Slot},
        AtRecord σ₁ target place address names f₁ → (f₁ x.1.1).tree = (f x.1.1).tree →
        Restoring g (propertyBody s target x.1 x.2) (.member address x.1.1) (f₁ x.1.1).cells
          (goal x.1.1) σ₁) →
      (∀ x ∈ xs, x.1.1 ∉ names → ∀ {σ₁ : State} {f₁ : String → Slot},
        AtRecord σ₁ target place address names f₁ → ∀ m,
          evalStmts (g m) (propertyBody s target x.1 x.2) σ₁ = some (none, σ₁)) →
      ∃ f' σ', Changes address names σ f σ' f' ∧ AtRecord σ' target place address names f'
        ∧ (∀ x ∈ xs, x.1.1 ∈ names → (f' x.1.1).tree = goal x.1.1)
        ∧ (∀ n, n ∉ xs.map (fun x => x.1.1) → f' n = f n)
        ∧ ∀ᶠ m in Filter.atTop, evalStmts (g m)
          (xs.flatMap fun x => propertyBody s target x.1 x.2) σ = some (none, σ') := by
  induction xs with
  | nil =>
    intro σ f _ h _ _
    exact ⟨f, σ, .refl h.slots, h, by simp, by simp, .of_forall fun m => by simp [evalStmts]⟩
  | cons x xs ih =>
    intro σ f hnodup h hpresent hmissing
    obtain ⟨hx, hnodup⟩ := List.nodup_cons.mp hnodup
    have hmissing' : ∀ y ∈ xs, _ := fun y hy => hmissing y (List.mem_cons_of_mem _ hy)
    by_cases hname : x.1.1 ∈ names
    · obtain ⟨slot, σ₁, hslot, hchanges, h₁, heval⟩ :=
        h.restoring hname (hpresent x List.mem_cons_self hname h rfl)
      have hsame : ∀ y ∈ xs, Function.update f x.1.1 slot y.1.1 = f y.1.1 := by
        intro y hy
        refine Function.update_of_ne (fun heq => hx ?_) _ _
        exact List.mem_map.mpr ⟨y, hy, heq⟩
      obtain ⟨f', σ', hchanges', h', htrees, hothers, heval'⟩ := ih hnodup h₁
        (fun y hy hyname σ₂ f₂ h₂ htree => hpresent y (List.mem_cons_of_mem _ hy) hyname h₂
          (by rw [htree, hsame y hy])) hmissing'
      refine ⟨f', σ', hchanges.trans hchanges', h', ?_, fun n hn => ?_, ?_⟩
      · refine List.forall_mem_cons.mpr ⟨fun _ => ?_, htrees⟩
        rw [hothers _ hx, Function.update_self, hslot]
      · obtain ⟨hne, hrest⟩ := not_or.mp (List.mem_cons.not.mp hn)
        rw [hothers n hrest, Function.update_of_ne hne]
      · filter_upwards [heval, heval'] with m hm hm'
        rw [List.flatMap_cons, evalStmts_append hm, hm']
    · have hskip := hmissing x List.mem_cons_self hname h
      obtain ⟨f', σ', hchanges, h', htrees, hothers, heval⟩ := ih hnodup h
        (fun y hy => hpresent y (List.mem_cons_of_mem _ hy)) hmissing'
      refine ⟨f', σ', hchanges, h', ?_, fun n hn => ?_, ?_⟩
      · exact List.forall_mem_cons.mpr ⟨fun hn => absurd hn hname, htrees⟩
      · exact hothers n (not_or.mp (List.mem_cons.not.mp hn)).2
      · filter_upwards [heval] with m hm
        rw [List.flatMap_cons, evalStmts_append (hskip m), hm]

/-- Statements after which a record has other parts restore it to these. -/
lemma restoring_of_changes (h : AtRecord σ target place address names f)
    (h' : AtRecord σ' target place address names f') (hchanges : Changes address names σ f σ' f')
    {members : List (String × Tree)} (hnames : members.map Prod.fst = names)
    (htrees : ∀ x ∈ members, (f' x.1).tree = x.2)
    (heval : ∀ᶠ m in Filter.atTop, evalStmts (g m) stmts σ = some (none, σ')) :
    Restoring g stmts place (footprint address names f) (.record members) σ := by
  have hmembers : (names.map fun n => (n, (f' n).tree)) = members := by
    rw [← hnames, List.map_map]
    have : members.map ((fun n => (n, (f' n).tree)) ∘ Prod.fst) = members.map id :=
      List.map_congr_left fun x hx => Prod.ext rfl (htrees x hx)
    rw [this, List.map_id]
  have hrep := h.slots.record h.nodup h.cell
  have hrep' := h'.slots.record h'.nodup h'.cell
  rw [hmembers] at hrep'
  refine ⟨.object address, _, σ', ?_, hrep', hchanges.footprint_new, heval⟩
  rw [State.write_of_read? h.read hrep.ne_missing]
  exact hchanges.keeps

end AtRecord

/-- A place that holds a record with certain members. -/
lemma Holds.exists_atRecord {members : List (String × Tree)}
    (h : Holds σ target place value (.record members) F) : ∃ address f,
      F = footprint address (members.map Prod.fst) f
        ∧ AtRecord σ target place address (members.map Prod.fst) f
        ∧ ∀ x ∈ members, (f x.1).tree = x.2 := by
  obtain ⟨address, f, rfl, hnames, hcell, htrees, hs, rfl⟩ := h.rep.exists_slots_of_record
  exact ⟨address, f, rfl, ⟨h.enclosed, h.denotes, h.outside, h.read, hnames, hcell, hs⟩, htrees⟩

/-- What the members of a record are to become, by their names. -/
lemma exists_goal {entries : List (String × Tree × Tree)} (h : (entries.map Prod.fst).Nodup) :
    ∃ goal : String → Tree, ∀ entry ∈ entries, goal entry.1 = entry.2.2 := by
  refine ⟨fun n => ((Entries.get? entries n).map Prod.snd).getD default, fun entry hentry => ?_⟩
  have := (Entries.get?_eq_some_iff h).mpr hentry
  simp [this]

/-- The statements for an object restore its declared members. -/
lemma Restoring.object (hlinked : Linked options numberText api lossy r g)
    {entries : List (String × Tree × Tree)} {bodies : List (List Stmt)}
    (h : Holds σ target place value (.record (entries.map fun x => (x.1, x.2.1))) F)
    (hnodup : (s.properties.map Prod.fst).Nodup) (hlength : bodies.length = s.properties.length)
    (hrequired : ∀ name ∈ s.required, name ∈ entries.map Prod.fst)
    (hinherited : ∀ x ∈ s.properties.zip bodies, x.1.1 ∈ inheritedNames →
      x.1.1 ∈ s.required ∨ x.2 = [])
    (hother : ∀ x ∈ entries, x.1 ∉ s.properties.map Prod.fst → x.2.2 = x.2.1)
    (hbody : ∀ x ∈ s.properties.zip bodies, ∀ entry ∈ entries, entry.1 = x.1.1 →
      (entry.2.1 = .scalar .null → entry.2.2 = .scalar .null)
        ∧ ∀ {σ₁ : State} {place₁ value₁ F₁},
          Holds σ₁ (.property target x.1.1) place₁ value₁ entry.2.1 F₁ →
          (entry.2.1 = .scalar .null → x.1.2.admitsNull = false) →
          Restoring g x.2 place₁ F₁ entry.2.2 σ₁) :
    Restoring g ((s.properties.zip bodies).flatMap fun x => propertyBody s target x.1 x.2) place F
      (.record (entries.map fun x => (x.1, x.2.2))) σ := by
  obtain ⟨address, f, rfl, hrecord, htrees⟩ := h.exists_atRecord
  have hkeys : (entries.map fun x : String × Tree × Tree => (x.1, x.2.1)).map Prod.fst
      = entries.map Prod.fst := by
    simp [Function.comp_def]
  rw [hkeys] at hrecord ⊢
  have hsource : ∀ entry ∈ entries, (f entry.1).tree = entry.2.1 :=
    fun entry hentry => htrees (entry.1, entry.2.1) (List.mem_map.mpr ⟨entry, hentry, rfl⟩)
  obtain ⟨goal, hgoal⟩ := exists_goal hrecord.nodup
  have hpresent : ∀ x ∈ s.properties.zip bodies, x.1.1 ∈ entries.map Prod.fst →
      ∀ {σ₁ : State} {f₁ : String → Slot},
        AtRecord σ₁ target place address (entries.map Prod.fst) f₁ →
        (f₁ x.1.1).tree = (f x.1.1).tree →
        Restoring g (propertyBody s target x.1 x.2) (.member address x.1.1) (f₁ x.1.1).cells
          (goal x.1.1) σ₁ := by
    intro x hx hname σ₁ f₁ h₁ htree
    obtain ⟨entry, hentry, heq⟩ := List.mem_map.mp hname
    obtain ⟨hnull, hrestoring⟩ := hbody x hx entry hentry heq
    have hmember := h₁.member hname
    rw [htree, ← heq, hsource entry hentry, heq] at hmember
    rw [← heq, hgoal entry hentry, heq]
    exact .property hlinked hmember hnull fun hv => hrestoring hmember hv
  have hmissing : ∀ x ∈ s.properties.zip bodies, x.1.1 ∉ entries.map Prod.fst →
      ∀ {σ₁ : State} {f₁ : String → Slot},
        AtRecord σ₁ target place address (entries.map Prod.fst) f₁ → ∀ m,
          evalStmts (g m) (propertyBody s target x.1 x.2) σ₁ = some (none, σ₁) :=
    fun x hx hname _ _ h₁ m => h₁.evalStmts_propertyBody hlinked hname
      (fun hmem => hname (hrequired _ hmem))
      (fun hmem => (hinherited x hx hmem).resolve_left fun hmust => hname (hrequired _ hmust)) m
  have hzip := map_name_zip hlength.ge
  obtain ⟨f', σ', hchanges, hrecord', hdone, hothers, heval⟩ :=
    hrecord.exists_properties _ (hzip ▸ hnodup) hpresent hmissing
  refine hrecord.restoring_of_changes hrecord' hchanges (by simp [Function.comp_def]) ?_ heval
  refine List.forall_mem_map.mpr fun entry hentry => ?_
  by_cases hname : entry.1 ∈ s.properties.map Prod.fst
  · rw [← hzip] at hname
    obtain ⟨x, hx, heq⟩ := List.mem_map.mp hname
    rw [← heq, hdone x hx (heq ▸ List.mem_map_of_mem hentry), heq, hgoal entry hentry]
  · rw [hothers _ (hzip ▸ hname), hsource entry hentry, hother entry hentry hname]

/-! ### Leaves -/

/-- A text becomes a date. Dates stay as they are. -/
lemma Restoring.date (hlinked : Linked options numberText api lossy r g) {text : String}
    (ht : t = .scalar (.string text) ∨ t = .scalar (.date text))
    (h : Holds σ target place value t F) :
    Restoring g [.expr (.assign target (.construct (.identifier "Date") [target]))] place F
      (.scalar (.date text)) σ := by
  have hdate : value.toDate? = some (.scalar (.date text)) := by
    rcases ht with rfl | rfl <;> obtain ⟨rfl, -⟩ := Rep.scalar_iff.mp h.rep <;> rfl
  refine .assign h (.refl _ _) (.scalar _) (by simp) (.of_forall fun m => ?_)
  have hbuiltin := h.enclosed.isBuiltin hlinked m (show "Date" ∈ _ by simp)
  simp [evalExpr, h.evalExpr_eq, hbuiltin, hdate]

/-- A number becomes a long integer. Long integers stay as they are. -/
lemma Restoring.bigint (hlinked : Linked options numberText api lossy r g) {i : Int}
    (ht : (∃ n, t = .scalar (.number n) ∧ IsBigintOf numberText n i) ∨ t = .scalar (.bigint i))
    (h : Holds σ target place value t F) :
    Restoring g [.expr (.assign target (.call (.identifier "BigInt")
      [.call (.property target "toString") []]))] place F (.scalar (.bigint i)) σ := by
  refine .assign h (.refl _ _) (.scalar _) (by simp) (.of_forall fun m => ?_)
  have hbuiltin := h.enclosed.isBuiltin hlinked m (show "BigInt" ∈ _ by simp)
  obtain ⟨hbound, hdeclared⟩ : σ.bindings.has "BigInt" = false
      ∧ (g m).declared.contains "BigInt" = false := by
    simpa only [Globals.isBuiltin, Bool.and_eq_true, Bool.not_eq_true'] using hbuiltin
  have hdigits : (toString i).toInt? = some i := by simp [toString]
  have harg : evalExpr (g m) (.call (.property target "toString") []) σ
      = some (.scalar (.string (toString i)), σ) := by
    rcases ht with ⟨n, rfl, hi⟩ | rfl <;> obtain ⟨rfl, -⟩ := Rep.scalar_iff.mp h.rep
    · simp [evalExpr, h.evalExpr_eq, evalMethod, hlinked.numberText_eq, hi.text]
    · simp [evalExpr, h.evalExpr_eq, evalMethod]
  rw [evalExpr, harg]
  simp only [Option.bind_eq_bind, Option.bind_some, hbound, hdeclared, Value.toBigint?, hdigits]
  rfl

/-! ### Components -/

/-- The call of a function that restores its argument. -/
lemma Restoring.call (h : Holds σ target place value t F) (hname : name ∉ ["data", "item"])
    (hdeclared : ∀ m, name ∈ (g m).declared) {value' : Value} {cells : Set Nat} {heap' : Heap}
    (hkeeps : Keeps F ⟨[], σ.heap⟩ ⟨[], heap'⟩) (hrep : Rep heap' value' w cells)
    (hnew : ∀ b ∈ cells, b ∈ F ∨ σ.heap.length ≤ b)
    (hcall : ∀ᶠ m in Filter.atTop, (g m).call name value σ.heap = some (value', heap')) :
    Restoring g [callStatement name target] place F w σ := by
  have hkeeps' : Keeps F σ { σ with heap := heap' } := ⟨rfl, hkeeps.length, hkeeps.cells⟩
  refine .assign h hkeeps' hrep hnew ?_
  have hbound : σ.bindings.has name = false := by
    simpa using fun hhas => hname (h.enclosed name hhas)
  filter_upwards [hcall] with m hm
  simp [evalExpr, h.evalExpr_eq, hbound, hdeclared m, hm]

/-- A call gives what the statements of the function give, one call deeper. -/
lemma Calls.eventually_call (hcalls : Calls g name s body) {heap : Heap} {result : Value × Heap}
    (h : ∀ᶠ m in Filter.atTop, applyFunction (g m)
      ("data", returning data (guardedBody s data body)) value heap = some result) :
    ∀ᶠ m in Filter.atTop, (g m).call name value heap = some result := by
  obtain ⟨depth, hdepth⟩ := Filter.eventually_atTop.mp h
  refine Filter.eventually_atTop.mpr ⟨depth + 1, fun m hm => ?_⟩
  obtain ⟨m, rfl⟩ : ∃ k, m = k + 1 := ⟨m - 1, by omega⟩
  rw [hcalls.call_eq, hdepth m (by omega)]

/-- The call of a function whose statements restore their parameter. -/
lemma Restoring.helper (hlinked : Linked options numberText api lossy r g)
    (hcalls : Calls g name s body) (hreturns : ∀ stmt ∈ body, stmt.isReturn = false)
    (h : Holds σ target place value t F) (hnull : t = .scalar .null → w = .scalar .null)
    (hbody : ∀ {σ₁ : State}, (t = .scalar .null → s.admitsNull = false) →
      Holds σ₁ data (.named "data") value t F → Restoring g body (.named "data") F w σ₁) :
    Restoring g [callStatement name target] place F w σ := by
  obtain ⟨value', cells, heap', hkeeps, hrep, hnew, heval⟩ :=
    Restoring.function hlinked h.rep hnull hcalls.ne_nil hreturns hbody
  exact .call h hcalls.not_parameter hcalls.declared hkeeps hrep hnew (hcalls.eventually_call heval)

/-! ### Any schema -/

/-- The statements of a schema turn a value at any place into what it is restored to, if they are
not run for null where that takes a test. -/
theorem restoring_of_emits (hlinked : Linked options numberText api False r g)
    (h : Restores options numberText api.catalog s v w)
    (hplain : ∀ t, s.Reaches api.catalog t → Plain api.catalog t)
    (hown : ∀ t, Visits api.catalog s t → OwnNames options api t) :
    ∀ {target stmts σ place value F}, Emits options False r s target stmts →
      Holds σ target place value (.ofJson v) F → (v = .null → s.admitsNull = false) →
      Restoring g stmts place F w σ := by
  have hsame {s v w target σ place value F}
      (h : Restores options numberText api.catalog s v w) (hblank : Blank options api False s)
      (hholds : Holds σ target place value (.ofJson v) F) : Restoring g [] place F w σ := by
    rw [h.eq_ofJson hlinked.unambiguous hblank]
    exact .of_same hholds fun m => by simp [evalStmts]
  induction h with
  | @component s t pointer v w hpointer hfind h ih =>
    intro target stmts σ place value F he hholds _
    have hstep : Follows api.catalog s t := .component hpointer hfind
    have hcomponent : Pointer.schemaName? pointer ≠ none := by
      intro hnone
      simp [Catalog.find?, hnone] at hfind
    obtain ⟨p, name, hreference, ⟨hentry, rfl⟩ | ⟨-, rfl⟩⟩ :=
      (he.of_pointer hpointer hcomponent).resolve_left And.left
    · obtain ⟨body, hbody, hcalls⟩ :=
        hlinked.exists_function (f := .helper pointer) trivial hreference hfind hentry
      exact .helper hlinked hcalls hbody.not_isReturn hholds
        (h.null_eq ∘ Tree.ofJson_eq_null_iff.mp) fun hv hparameter =>
          ih (hstep.leads.forall_reaches hplain) (hstep.forall_visits hown) hbody hparameter
            (hv ∘ Tree.ofJson_eq_null_iff.mpr)
    · exact hsame (.component hpointer hfind h) (he.blank rfl hlinked.withdrawn) hholds
  | @elements s element rest pairs hpointer hshape hitems h ih =>
    intro target stmts σ place value F he hholds _
    have hstep : Follows api.catalog s element := .element hpointer hshape hitems
    obtain ⟨body, hbody, rfl⟩ :=
      (he.of_array hpointer hshape hitems).resolve_left And.left
    by_cases hempty : body = []
    · subst hempty
      have hnil : arrayBody target (guardedBody element item []) = [] := by simp
      have hblank := he.blank hnil hlinked.withdrawn
      rw [hnil]
      exact hsame (.elements hpointer hshape hitems h) hblank hholds
    · have harray : Holds σ target place value
          (.array ((pairs.map fun x => (Tree.ofJson x.1, x.2)).map Prod.fst)) F := by
        simpa [Tree.ofJson, Function.comp_def] using hholds
      have hrestoring := Restoring.array harray (by simpa using hempty)
        (List.forall_mem_map.mpr fun x hx slot htree =>
          Restoring.callback hlinked hholds.enclosed
            (fun hnull => (h x hx).null_eq (Tree.ofJson_eq_null_iff.mp (htree.symm.trans hnull)))
            hbody.not_isReturn fun hv hparameter =>
              ih x hx (hstep.leads.forall_reaches hplain) (hstep.forall_visits hown) hbody
                (htree ▸ hparameter) fun hnull =>
                  hv (htree.trans (Tree.ofJson_eq_null_iff.mpr hnull)))
      simpa [Function.comp_def] using hrestoring
  | @members s entries hpointer hshape hrequired h hother ih =>
    intro target stmts σ place value F he hholds _
    obtain ⟨bodies, hlength, hbodies, rfl⟩ :=
      (he.of_object hpointer hshape).resolve_left And.left
    have hrecord : Holds σ target place value (.record
        ((entries.map fun x => (x.1, Tree.ofJson x.2.1, x.2.2)).map fun x => (x.1, x.2.1))) F := by
      simpa [Tree.ofJson, Function.comp_def] using hholds
    have hrestoring := Restoring.object hlinked hrecord
      ((hplain s .refl).distinct hpointer hshape) hlength
      (by simpa [Function.comp_def] using hrequired)
      ((hown s .refl).required_or_eq_nil hlinked.sound hpointer hshape hbodies)
      (List.forall_mem_map.mpr hother)
      fun x hx => List.forall_mem_map.mpr fun entry hentry hname => by
        have hproperty : x.1 ∈ s.properties := (List.of_mem_zip hx).1
        have hstep : Follows api.catalog s x.1.2 := .property hpointer hshape hproperty
        refine ⟨(h x.1 hproperty entry hentry hname).null_eq ∘ Tree.ofJson_eq_null_iff.mp,
          fun hmember hv => ?_⟩
        exact ih x.1 hproperty entry hentry hname (hstep.leads.forall_reaches hplain)
          (hstep.forall_visits hown) (hbodies x hx) hmember (hv ∘ Tree.ofJson_eq_null_iff.mpr)
    simpa [Function.comp_def] using hrestoring
  | whole v hpointer hshape =>
    intro target stmts σ place value F he hholds _
    rw [he.of_whole hpointer hshape]
    exact .of_same hholds fun m => by simp [evalStmts]
  | leaf hpointer hitems _ harray hobject hrevives =>
    intro target stmts σ place value F he hholds _
    rw [(he.of_leaf hpointer hitems harray hobject).resolve_left And.left]
    cases hrevives with
    | date hdate => exact revive_of_isDate hdate ▸ .date hlinked (.inl rfl) hholds
    | bigint hbigint hi =>
      exact revive_of_isBigint hbigint ▸ .bigint hlinked (.inl ⟨_, rfl, hi⟩) hholds
    | same hdate hbigint =>
      rw [revive_of_not hdate hbigint]
      exact .of_same hholds fun m => by simp [evalStmts]
  | null _ hnullable =>
    intro target stmts σ place value F _ _ hv
    simp [hnullable.admitsNull] at hv
  | @present s item v w hpointer hnullable hv _ ih =>
    intro target stmts σ place value F he hholds _
    have hstep : Follows api.catalog s item := hnullable.follows hpointer
    exact ih (hstep.leads.forall_reaches hplain) (hstep.forall_visits hown)
      (he.of_isNullable hpointer hnullable) hholds fun h => absurd h hv

/-! ### Functions of a module -/

/-- A function of a module turns every representation of a value into one of a tree and changes
nothing else, if calls may nest deep enough. -/
def Transforms (numberText : Number → String) (module : List Stmt) (name : String) (v : Json)
    (w : Tree) : Prop :=
  ∀ {heap : Heap} {value : Value} {F : Set Nat}, Rep heap value (.ofJson v) F →
    ∃ value' cells heap', Rep heap' value' w cells
      ∧ (∀ {b c}, b ∉ F → heap[b]? = some c → heap'[b]? = some c)
      ∧ ∀ᶠ m in Filter.atTop,
        (globals numberText module m).call name value heap = some (value', heap')

/-- A function does so if its statements restore its parameter. -/
lemma transforms_of_calls {module : List Stmt}
    (hlinked : Linked options numberText api lossy r (globals numberText module))
    (hcalls : Calls (globals numberText module) name s body)
    (hreturns : ∀ stmt ∈ body, stmt.isReturn = false) (hnull : v = .null → w = .scalar .null)
    (hbody : ∀ {σ value F}, (v = .null → s.admitsNull = false) →
      Holds σ data (.named "data") value (.ofJson v) F →
      Restoring (globals numberText module) body (.named "data") F w σ) :
    Transforms numberText module name v w := by
  intro heap value F hrep
  obtain ⟨value', cells, heap', hkeeps, hrep', -, heval⟩ :=
    Restoring.function hlinked hrep (hnull ∘ Tree.ofJson_eq_null_iff.mp) hcalls.ne_nil hreturns
      fun hv hholds => hbody (hv ∘ Tree.ofJson_eq_null_iff.mpr) hholds
  exact ⟨value', cells, heap', hrep', hkeeps.cells, hcalls.eventually_call heval⟩

end OpenApiTypes.Transformers
