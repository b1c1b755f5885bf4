/-
Documents as they are read.

* `Json.DistinctKeys`: no object in a value has a key twice, which can be decided;
* `Json.distinctKeys_of_ofText?`, `Yaml.distinctKeys_of_read?`: what is read from a text in JSON or
  in YAML is such a value;
* `Spec.Source.IsRead`: documents of such trees, `Spec.Source.isRead_of_documentOf`: as every text
  of a document gives one;
* `Spec.Source.IsRead.nodup_schemas`, `Spec.Source.IsRead.nodup_paths`,
  `Spec.Source.IsRead.nodup_webhooks`: so the names of the components, the paths and the names of
  the webhooks of a document are distinct;
* `Spec.Source.ofSchemas`: a document with nothing but component schemas.
-/
import OpenApiTypes.CommandLine.Run
import OpenApiTypes.Proofs.Json.Record

namespace OpenApiTypes

namespace Json

/-! ### Distinct keys -/

/-- No object in a value has a key twice. -/
inductive DistinctKeys : Json → Prop where
  | null : DistinctKeys .null
  | bool (b : Bool) : DistinctKeys (.bool b)
  | number (n : Number) : DistinctKeys (.number n)
  | str (s : String) : DistinctKeys (.str s)
  | arr {items : List Json} (items_distinct : ∀ v ∈ items, DistinctKeys v) :
      DistinctKeys (.arr items)
  | obj {members : Entries String Json} (nodup : members.keys.Nodup)
      (values_distinct : ∀ p ∈ members, DistinctKeys p.2) : DistinctKeys (.obj members)

/-- The members of an object whose values have distinct keys, as the object has itself. -/
structure Members (members : Entries String Json) : Prop where
  nodup : members.keys.Nodup
  values : ∀ p ∈ members, DistinctKeys p.2

lemma Members.nil : Members [] := ⟨List.nodup_nil, by simp⟩

lemma Members.put {members : Entries String Json} (h : Members members) (key : String) {v : Json}
    (hv : v.DistinctKeys) : Members (members.put key v) := by
  refine ⟨Entries.nodup_keys_put h.nodup key v, fun p hp => ?_⟩
  rcases Entries.mem_put hp with rfl | hp
  · exact hv
  · exact h.values p hp

lemma Members.obj {members : Entries String Json} (h : Members members) :
    DistinctKeys (.obj members) :=
  .obj h.nodup h.values

lemma DistinctKeys.members {members : Entries String Json} (h : DistinctKeys (.obj members)) :
    Members members := by
  cases h with
  | obj nodup values => exact ⟨nodup, values⟩

lemma DistinctKeys.of_get? {members : Entries String Json} (h : Members members) {key : String}
    {v : Json} (hv : members.get? key = some v) : v.DistinctKeys :=
  h.values _ ((Entries.get?_eq_some_iff h.nodup).mp hv)

mutual

/-- Whether no object in a value has a key twice. -/
def hasDistinctKeys : Json → Bool
  | .arr items => itemsHaveDistinctKeys items
  | .obj members => decide (Entries.keys members).Nodup && membersHaveDistinctKeys members
  | _ => true

/-- Whether this holds of all items of a list. -/
def itemsHaveDistinctKeys : List Json → Bool
  | [] => true
  | v :: rest => v.hasDistinctKeys && itemsHaveDistinctKeys rest

/-- Whether this holds of all values of a list of members. -/
def membersHaveDistinctKeys : List (String × Json) → Bool
  | [] => true
  | (_, v) :: rest => v.hasDistinctKeys && membersHaveDistinctKeys rest

end

mutual

lemma hasDistinctKeys_iff (v : Json) : v.hasDistinctKeys = true ↔ v.DistinctKeys := by
  match v with
  | .null => exact ⟨fun _ => .null, fun _ => rfl⟩
  | .bool b => exact ⟨fun _ => .bool b, fun _ => rfl⟩
  | .number n => exact ⟨fun _ => .number n, fun _ => rfl⟩
  | .str s => exact ⟨fun _ => .str s, fun _ => rfl⟩
  | .arr items =>
    rw [hasDistinctKeys, itemsHaveDistinctKeys_iff items]
    exact ⟨.arr, fun h => by cases h with | arr h => exact h⟩
  | .obj members =>
    rw [hasDistinctKeys, Bool.and_eq_true, decide_eq_true_iff, membersHaveDistinctKeys_iff members]
    exact ⟨fun h => .obj h.1 h.2, fun h => ⟨h.members.nodup, h.members.values⟩⟩

lemma itemsHaveDistinctKeys_iff (items : List Json) :
    itemsHaveDistinctKeys items = true ↔ ∀ v ∈ items, v.DistinctKeys := by
  match items with
  | [] => simp [itemsHaveDistinctKeys]
  | v :: rest =>
    rw [itemsHaveDistinctKeys, Bool.and_eq_true, hasDistinctKeys_iff v,
      itemsHaveDistinctKeys_iff rest, List.forall_mem_cons]

lemma membersHaveDistinctKeys_iff (members : List (String × Json)) :
    membersHaveDistinctKeys members = true ↔ ∀ p ∈ members, p.2.DistinctKeys := by
  match members with
  | [] => simp [membersHaveDistinctKeys]
  | (_, v) :: rest =>
    rw [membersHaveDistinctKeys, Bool.and_eq_true, hasDistinctKeys_iff v,
      membersHaveDistinctKeys_iff rest, List.forall_mem_cons]

end

instance (v : Json) : Decidable v.DistinctKeys := decidable_of_iff _ (hasDistinctKeys_iff v)

/-! ### Texts in JSON -/

/-- The value of a token has distinct keys. -/
def Token.Sound : Token → Prop
  | .scalar v => v.DistinctKeys
  | _ => True

lemma Token.sound_of_close? {mode : Token.Mode} {tokens : List Token}
    (h : Token.close? mode = some tokens) : ∀ t ∈ tokens, t.Sound := by
  cases mode with
  | between =>
    obtain rfl := Option.some.inj h
    simp
  | number read =>
    obtain ⟨n, -, h⟩ := Option.bind_eq_some_iff.mp h
    obtain rfl := Option.some.inj h
    simpa [Sound] using DistinctKeys.number n
  | word read =>
    obtain ⟨t, ht, h⟩ := Option.bind_eq_some_iff.mp h
    obtain rfl := Option.some.inj h
    unfold ofWord? at ht
    split_ifs at ht <;> obtain rfl := Option.some.inj ht
    · simpa [Sound] using DistinctKeys.bool true
    · simpa [Sound] using DistinctKeys.bool false
    · simpa [Sound] using DistinctKeys.null
  | text | escape | hex | half | halfEscape => simp [close?] at h

lemma Token.sound_of_start? {c : Char} {mode : Token.Mode} {tokens : List Token}
    (h : Token.start? c = some (mode, tokens)) : ∀ t ∈ tokens, t.Sound := by
  revert h
  fun_cases start? c <;> rintro ⟨⟩ <;> simp [Sound]

/-- The end of an open token and what the next character begins are sound. -/
lemma Token.sound_of_next? {mode next : Token.Mode} {c : Char} {tokens : List Token}
    (h : (do
      let closed ← Token.close? mode
      let (next, opened) ← Token.start? c
      some (next, closed ++ opened)) = some (next, tokens)) : ∀ t ∈ tokens, t.Sound := by
  simp only [↓bind_eq_some_iff, Option.some.injEq, Prod.mk.injEq] at h
  obtain ⟨closed, hclosed, ⟨mode', opened⟩, hopened, -, rfl⟩ := h
  intro t ht
  rcases List.mem_append.mp ht with ht | ht
  · exact sound_of_close? hclosed t ht
  · exact sound_of_start? hopened t ht

lemma Token.sound_of_step? {mode next : Token.Mode} {c : Char} {tokens : List Token}
    (h : Token.step? mode c = some (next, tokens)) : ∀ t ∈ tokens, t.Sound := by
  cases mode with
  | between => exact sound_of_start? h
  | text read =>
    dsimp only [step?] at h
    split_ifs at h <;> cases h <;> simp [Sound]
  | escape read =>
    dsimp only [step?] at h
    split_ifs at h
    · cases h
      simp
    · obtain ⟨_, -, h⟩ := Option.bind_eq_some_iff.mp h
      cases h
      simp
  | hex read high value count =>
    obtain ⟨_, -, h⟩ := Option.bind_eq_some_iff.mp h
    dsimp only at h
    split_ifs at h
    · cases h
      simp
    · obtain ⟨_, -, h⟩ := Option.bind_eq_some_iff.mp h
      cases h
      simp
  | half | halfEscape =>
    dsimp only [step?] at h
    split_ifs at h
    cases h
    simp
  | number | word =>
    dsimp only [step?] at h
    split_ifs at h
    · cases h
      simp
    · exact sound_of_next? h

lemma Token.sound_of_scanFrom? {mode : Token.Mode} {read tokens : List Token} {cs : List Char}
    (hread : ∀ t ∈ read, t.Sound) (h : Token.scanFrom? mode read cs = some tokens) :
    ∀ t ∈ tokens, t.Sound := by
  induction cs generalizing mode read with
  | nil =>
    obtain ⟨closed, hclosed, rfl⟩ := Option.map_eq_some_iff.mp h
    simp only [List.reverse_append, List.reverse_reverse, List.mem_append, List.mem_reverse]
    rintro t (ht | ht)
    · exact hread t ht
    · exact sound_of_close? hclosed t ht
  | cons c cs ih =>
    rw [scanFrom?] at h
    split at h
    · rename_i next opened hstep
      refine ih (fun t ht => ?_) h
      rcases List.mem_append.mp ht with ht | ht
      · exact sound_of_step? hstep t (List.mem_reverse.mp ht)
      · exact hread t ht
    · simp at h

/-- What a container that is still open holds so far has distinct keys. -/
def Frame.Sound : Frame → Prop
  | .array items => ∀ v ∈ items, v.DistinctKeys
  | .object members _ => Members members

/-- What has been read of an object or a value has distinct keys. -/
def Awaiting.Sound : Awaiting → Prop
  | .key members _ => Members members
  | .colon members _ => Members members
  | .separator v => v.DistinctKeys
  | _ => True

/-- What has been read so far has distinct keys. -/
def StateSound (state : List Frame × Awaiting) : Prop :=
  (∀ f ∈ state.1, f.Sound) ∧ state.2.Sound

section

variable {limit : Nat} {frames : List Frame} {awaiting : Awaiting} {token : Token}
  {state : List Frame × Awaiting} (hframes : ∀ f ∈ frames, f.Sound)
include hframes

/-- A value begins, or is there. -/
lemma sound_of_value (htoken : token.Sound) (h : advance? limit frames .value token = some state) :
    StateSound state := by
  cases token with
  | scalar v =>
    obtain rfl := Option.some.inj h
    exact ⟨hframes, htoken⟩
  | text s =>
    obtain rfl := Option.some.inj h
    exact ⟨hframes, .str s⟩
  | openArray =>
    obtain ⟨-, h⟩ := Option.ite_none_right_eq_some.mp h
    obtain rfl := Option.some.inj h
    exact ⟨List.forall_mem_cons.mpr ⟨by simp [Frame.Sound], hframes⟩, trivial⟩
  | openObject =>
    obtain ⟨-, h⟩ := Option.ite_none_right_eq_some.mp h
    obtain rfl := Option.some.inj h
    exact ⟨List.forall_mem_cons.mpr ⟨Members.nil, hframes⟩, Members.nil⟩
  | closeArray | closeObject | comma | colon => simp [advance?] at h

/-- An item or the value of a member is followed by another one, or its container ends. -/
lemma sound_of_separator {v : Json} (hv : v.DistinctKeys)
    (h : advance? limit frames (.separator v) token = some state) : StateSound state := by
  cases frames with
  | nil => cases token <;> simp [advance?] at h
  | cons f rest =>
    obtain ⟨hf, hrest⟩ := List.forall_mem_cons.mp hframes
    cases f with
    | array items =>
      have hitems : ∀ w ∈ v :: items, w.DistinctKeys := List.forall_mem_cons.mpr ⟨hv, hf⟩
      cases token with
      | comma =>
        obtain rfl := Option.some.inj h
        exact ⟨List.forall_mem_cons.mpr ⟨hitems, hrest⟩, trivial⟩
      | closeArray =>
        obtain rfl := Option.some.inj h
        exact ⟨hrest, .arr fun w hw => hitems w (List.mem_reverse.mp hw)⟩
      | scalar | text | openArray | openObject | closeObject | colon => simp [advance?] at h
    | object members key =>
      have hmembers : Members (members.put key v) := Members.put hf key hv
      cases token with
      | comma =>
        obtain rfl := Option.some.inj h
        exact ⟨hframes, hmembers⟩
      | closeObject =>
        obtain rfl := Option.some.inj h
        exact ⟨hrest, hmembers.obj⟩
      | scalar | text | openArray | openObject | closeArray | colon => simp [advance?] at h

/-- One token more, and what has been read so far still has distinct keys. -/
lemma sound_of_advance? (hawaiting : awaiting.Sound) (htoken : token.Sound)
    (h : advance? limit frames awaiting token = some state) : StateSound state := by
  cases awaiting with
  | value => exact sound_of_value hframes htoken h
  | firstItem =>
    cases token with
    | closeArray =>
      dsimp only [advance?] at h
      split at h
      · obtain rfl := Option.some.inj h
        exact ⟨(List.forall_mem_cons.mp hframes).2, .arr (by simp)⟩
      · simp at h
    | scalar | text | openArray | openObject | closeObject | comma | colon =>
      -- Whatever does not close the array is its first item.
      exact sound_of_value hframes htoken (show advance? limit frames .value _ = _ from h)
  | key members mayClose =>
    cases token with
    | text s =>
      obtain rfl := Option.some.inj h
      exact ⟨hframes, hawaiting⟩
    | closeObject =>
      cases mayClose with
      | true =>
        obtain rfl := Option.some.inj h
        exact ⟨fun f hf => hframes f (List.mem_of_mem_tail hf), Members.obj hawaiting⟩
      | false => simp [advance?] at h
    | scalar | openArray | openObject | closeArray | comma | colon => simp [advance?] at h
  | colon members key =>
    cases token with
    | colon =>
      dsimp only [advance?] at h
      split at h
      · obtain rfl := Option.some.inj h
        exact ⟨List.forall_mem_cons.mpr ⟨hawaiting, (List.forall_mem_cons.mp hframes).2⟩, trivial⟩
      · simp at h
    | scalar | text | openArray | openObject | closeArray | closeObject | comma =>
      simp [advance?] at h
  | separator v => exact sound_of_separator hframes hawaiting h

end

lemma distinctKeys_of_completeFrom? {limit : Nat} {frames : List Frame} {awaiting : Awaiting}
    {tokens : List Token} {v : Json} (hstate : StateSound (frames, awaiting))
    (htokens : ∀ t ∈ tokens, t.Sound) (h : completeFrom? limit frames awaiting tokens = some v) :
    v.DistinctKeys := by
  induction tokens generalizing frames awaiting with
  | nil =>
    unfold completeFrom? at h
    split at h
    · exact Option.some.inj h ▸ hstate.2
    · simp at h
    · simp_all
  | cons token tokens ih =>
    rw [completeFrom?] at h
    · split at h
      · rename_i next hnext
        exact ih (sound_of_advance? hstate.1 hstate.2 (htokens _ List.mem_cons_self) hnext)
          (fun t ht => htokens t (List.mem_cons_of_mem _ ht)) h
      · simp at h

/-- What is read from a text in JSON has distinct keys. -/
theorem distinctKeys_of_ofText? {text : String} {v : Json} (h : ofText? text = some v) :
    v.DistinctKeys := by
  obtain ⟨tokens, htokens, h⟩ := Option.bind_eq_some_iff.mp h
  have hstart : StateSound ([], .value) := ⟨by simp, trivial⟩
  exact distinctKeys_of_completeFrom? hstart (Token.sound_of_scanFrom? (by simp) htokens) h

/-! ### Texts in YAML -/

lemma Members.ofPairs {pairs : List (String × Json)} (h : ∀ p ∈ pairs, p.2.DistinctKeys) :
    Members (Entries.ofPairs pairs) := by
  have key : ∀ (pairs : List (String × Json)) (e : Entries String Json), Members e →
      (∀ p ∈ pairs, p.2.DistinctKeys) → Members (pairs.foldl (fun e p => e.put p.1 p.2) e) := by
    intro pairs
    induction pairs with
    | nil => exact fun e he _ => he
    | cons p pairs ih =>
      intro e he hpairs
      exact ih _ (he.put p.1 (hpairs p List.mem_cons_self))
        fun q hq => hpairs q (List.mem_cons_of_mem _ hq)
  exact key pairs [] .nil h

end Json

namespace Yaml

mutual

lemma Atom.distinctKeys_toJson (a : Atom) : a.toJson.DistinctKeys := by
  cases a <;> constructor

lemma Node.distinctKeys_of_toJson? (n : Node) {v : Json} (h : n.toJson? = some v) :
    v.DistinctKeys := by
  cases n with
  | scalar s =>
    obtain ⟨a, -, rfl⟩ := Option.map_eq_some_iff.mp h
    exact a.distinctKeys_toJson
  | aliasOf _ => simp [Node.toJson?] at h
  | sequence tag items =>
    rw [Node.toJson?] at h
    split_ifs at h
    obtain ⟨vs, hvs, h⟩ := Option.bind_eq_some_iff.mp h
    obtain rfl := Option.some.inj h
    exact .arr (distinctKeys_of_itemsToJson? items hvs)
  | mapping tag pairs =>
    rw [Node.toJson?] at h
    split_ifs at h
    obtain ⟨members, hmembers, h⟩ := Option.bind_eq_some_iff.mp h
    obtain rfl := Option.some.inj h
    exact (Json.Members.ofPairs (distinctKeys_of_pairsToJson? pairs hmembers)).obj

lemma distinctKeys_of_itemsToJson? (items : List Node) {vs : List Json}
    (h : itemsToJson? items = some vs) : ∀ v ∈ vs, v.DistinctKeys := by
  cases items with
  | nil => simp_all [itemsToJson?]
  | cons n rest =>
    obtain ⟨v, hv, h⟩ := Option.bind_eq_some_iff.mp h
    obtain ⟨vs', hvs, h⟩ := Option.bind_eq_some_iff.mp h
    obtain rfl := Option.some.inj h
    exact List.forall_mem_cons.mpr
      ⟨n.distinctKeys_of_toJson? hv, distinctKeys_of_itemsToJson? rest hvs⟩

lemma distinctKeys_of_pairsToJson? (pairs : List (Node × Node)) {members : List (String × Json)}
    (h : pairsToJson? pairs = some members) : ∀ p ∈ members, p.2.DistinctKeys := by
  cases pairs with
  | nil => simp_all [pairsToJson?]
  | cons pair rest =>
    obtain ⟨k, n⟩ := pair
    obtain ⟨key, -, h⟩ := Option.bind_eq_some_iff.mp h
    obtain ⟨v, hv, h⟩ := Option.bind_eq_some_iff.mp h
    obtain ⟨members', hmembers, h⟩ := Option.bind_eq_some_iff.mp h
    obtain rfl := Option.some.inj h
    exact List.forall_mem_cons.mpr
      ⟨n.distinctKeys_of_toJson? hv, distinctKeys_of_pairsToJson? rest hmembers⟩

end

/-- What is read from a text in YAML has distinct keys. -/
theorem distinctKeys_of_read? {text : String} {v : Json} (h : read? text = some v) :
    v.DistinctKeys := by
  obtain ⟨document, -, h⟩ := Option.bind_eq_some_iff.mp h
  cases document with
  | none => exact Option.some.inj h ▸ .null
  | some n =>
    obtain ⟨expanded, -, h⟩ := Option.bind_eq_some_iff.mp h
    exact expanded.distinctKeys_of_toJson? h

end Yaml

/-! ### Records -/

namespace Json

variable {α : Type} {read : Json → Option α} {v : Json}

lemma keys_zip_sublist (names : List String) (items : List Json) :
    (Entries.keys (names.zip items)).Sublist names := by
  induction names generalizing items with
  | nil => exact List.Sublist.slnil
  | cons name names ih =>
    cases items with
    | nil => exact List.nil_sublist _
    | cons v items => exact (ih items).cons_cons name

lemma members_of_record? {names : List String} {least : Nat} {fields : Entries String Json}
    (hnames : names.Nodup) (hv : v.DistinctKeys) (h : record? names least v = some fields) :
    Members fields := by
  cases v with
  | obj members => exact Option.some.inj h ▸ hv.members
  | arr items =>
    rw [record?] at h
    split_ifs at h
    obtain rfl := Option.some.inj h
    cases hv with
    | arr hitems =>
      exact ⟨hnames.sublist (keys_zip_sublist names items),
        fun p hp => hitems _ (List.of_mem_zip hp).2⟩
  | null => simp [record?] at h
  | bool _ => simp [record?] at h
  | number _ => simp [record?] at h
  | str _ => simp [record?] at h

lemma keys_eq_of_mapM {members : List (String × Json)} {e : Entries String α}
    (h : (members.mapM fun (key, v) => do some (key, ← read v)) = some e) :
    e.keys = Entries.keys members := by
  have hkeys : List.Forall₂ (fun m p => p.1 = m.1) members e := by
    refine (mapM_eq_some_iff.mp h).imp fun m p hp => ?_
    obtain ⟨a, -, hp⟩ := Option.bind_eq_some_iff.mp hp
    exact congrArg Prod.fst (Option.some.inj hp).symm
  refine List.forall₂_eq_eq_eq ▸ List.forall₂_map_left_iff.mpr (List.forall₂_map_right_iff.mpr ?_)
  exact hkeys.flip

lemma nodup_of_entries? {e : Entries String α} (hv : v.DistinctKeys)
    (h : entries? read v = some e) : e.keys.Nodup := by
  unfold entries? at h
  split at h
  · rw [keys_eq_of_mapM h]
    exact hv.members.nodup
  · simp at h

/-- The keys of a field that holds things under keys are distinct. -/
lemma nodup_of_defaulted? {fields : Entries String Json} (hfields : Members fields) {name : String}
    {e : Entries String α} (h : defaulted? fields name [] (entries? read) = some e) :
    e.keys.Nodup := by
  unfold defaulted? at h
  split at h
  · obtain rfl := Option.some.inj h
    exact List.nodup_nil
  · rename_i hfield
    exact nodup_of_entries? (DistinctKeys.of_get? hfields hfield) h

end Json

/-! ### Documents -/

namespace Spec

open Json (Members)

variable {tree : Json}

lemma Components.nodup_of_ofJson? {c : Components} (htree : tree.DistinctKeys)
    (h : Components.ofJson? tree = some c) : c.schemas.keys.Nodup := by
  obtain ⟨fields, hfields, h⟩ := Option.bind_eq_some_iff.mp h
  obtain ⟨schemas, hschemas, h⟩ := Option.bind_eq_some_iff.mp h
  simp only [↓Json.bind_eq_some_iff, Option.some.injEq] at h
  obtain ⟨_, -, _, -, _, -, _, -, rfl⟩ := h
  exact Json.nodup_of_defaulted? (Json.members_of_record? (by decide) htree hfields) hschemas

/-- The paths and the names of the webhooks and components of a document whose objects have distinct
keys. -/
lemma Document.nodup_of_ofJson? {d : Document} (htree : tree.DistinctKeys)
    (h : Document.ofJson? tree = some d) : d.paths.keys.Nodup ∧ d.webhooks.keys.Nodup
      ∧ (d.components.getD {}).schemas.keys.Nodup := by
  obtain ⟨fields, hfields, h⟩ := Option.bind_eq_some_iff.mp h
  simp only [↓Json.bind_eq_some_iff, Option.some.injEq] at h
  obtain ⟨_, -, _, -, _, -, paths, hpaths, webhooks, hwebhooks, components, hcomponents, _, -,
    rfl⟩ := h
  have hmembers : Members fields := Json.members_of_record? (by decide) htree hfields
  refine ⟨Json.nodup_of_defaulted? hmembers hpaths, Json.nodup_of_defaulted? hmembers hwebhooks,
    ?_⟩
  unfold Json.optional? at hcomponents
  split at hcomponents
  · obtain rfl := Option.some.inj hcomponents
    exact List.nodup_nil
  · rename_i v hfield
    unfold Json.nullable? at hcomponents
    split at hcomponents
    · obtain rfl := Option.some.inj hcomponents
      exact List.nodup_nil
    · obtain ⟨c, hc, rfl⟩ := Option.map_eq_some_iff.mp hcomponents
      exact Components.nodup_of_ofJson? (Json.DistinctKeys.of_get? hmembers hfield) hc

namespace Source

variable {source : Source}

/-- A document was read from a tree whose objects have distinct keys. -/
def IsRead (source : Source) : Prop := ∃ tree : Json, tree.DistinctKeys ∧ ofTree tree = .ok source

/-- Every text of a document gives such a tree, in either format. -/
theorem isRead_of_documentOf {path text : String}
    (h : CommandLine.documentOf path text = .ok source) : source.IsRead := by
  unfold CommandLine.documentOf ofJsonText ofYamlText at h
  split at h <;> split at h
  · exact ⟨_, Json.distinctKeys_of_ofText? ‹_›, h⟩
  · simp at h
  · exact ⟨_, Yaml.distinctKeys_of_read? ‹_›, h⟩
  · simp at h

lemma ofTree_eq_ok_iff : ofTree tree = .ok source ↔
    (∃ version, (tree.member? "openapi").bind Json.string? = some version ∧ supports version)
      ∧ Document.ofJson? tree = some source.document ∧ tree = source.tree := by
  obtain ⟨tree', document⟩ := source
  unfold ofTree
  cases (tree.member? "openapi").bind Json.string? with
  | none => simp
  | some version =>
    cases Document.ofJson? tree <;> by_cases hversion : supports version <;>
      simp [hversion, and_comm]

lemma IsRead.nodup (h : source.IsRead) : source.document.paths.keys.Nodup
    ∧ source.document.webhooks.keys.Nodup
    ∧ (source.document.components.getD {}).schemas.keys.Nodup := by
  obtain ⟨tree, htree, h⟩ := h
  exact Document.nodup_of_ofJson? htree (ofTree_eq_ok_iff.mp h).2.1

lemma IsRead.nodup_paths (h : source.IsRead) : source.document.paths.keys.Nodup := h.nodup.1

lemma IsRead.nodup_webhooks (h : source.IsRead) : source.document.webhooks.keys.Nodup :=
  h.nodup.2.1

lemma IsRead.nodup_schemas (h : source.IsRead) :
    (source.document.components.getD {}).schemas.keys.Nodup := h.nodup.2.2

/-! ### Documents of schemas -/

/-- A document with nothing but component schemas, as they are written and as they are read. -/
def ofSchemas (nodes : Entries String Json) (schemas : Entries String (Position Schema)) :
    Source where
  tree := .obj [("openapi", .str "3.1.0"),
    ("info", .obj [("title", .str "Pets"), ("version", .str "1")]),
    ("components", .obj [("schemas", .obj nodes)])]
  document := {
    openapi := "3.1.0", info := ⟨"Pets", "1", none⟩, servers := [], paths := [], webhooks := []
    components := some { schemas }
    security := none }

lemma isRead_ofSchemas {nodes : Entries String Json}
    {schemas : Entries String (Position Schema)}
    (hkeys : (ofSchemas nodes schemas).tree.DistinctKeys)
    (h : Json.entries? Position.ofJson? (.obj nodes) = some schemas) :
    (ofSchemas nodes schemas).IsRead := by
  have hcomponents : Components.ofJson? (.obj [("schemas", .obj nodes)]) = some { schemas } := by
    simp only [Components.ofJson?, ↓Json.bind_eq_some_iff]
    exact ⟨_, rfl, _, h, _, rfl, _, rfl, _, rfl, _, rfl, rfl⟩
  have hdocument : Document.ofJson? (ofSchemas nodes schemas).tree
      = some (ofSchemas nodes schemas).document := by
    simp only [Document.ofJson?, ↓Json.bind_eq_some_iff]
    exact ⟨_, rfl, _, rfl, _, rfl, _, rfl, _, rfl, _, rfl, _,
      congrArg (Option.map some) hcomponents, _, rfl, rfl⟩
  exact ⟨_, hkeys, ofTree_eq_ok_iff.mpr ⟨⟨"3.1.0", rfl, by decide +kernel⟩, hdocument, rfl⟩⟩

end Source

end Spec

end OpenApiTypes
