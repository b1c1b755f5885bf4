/-
What a registry of names holds after each of its operations.

* `Output.Registry.status?_create`, `Output.Registry.status?_suppress?`: what became of a reference
  after a name was given or withdrawn. Every other reference is left alone;
* `Output.Registry.uniqueName_not_taken`: a new name is not taken, whatever capitals it has;
* `Output.Registry.Extends`: what became of a reference in one registry is the same in another;
* `Output.Registry.Unwithdrawn`: no name in a file is withdrawn, so a request is answered by one;
* `Output.Registry.Distinct`: the names given in a namespace of a file, withdrawn ones included,
  differ from each other even in small letters, and none is reserved. Every operation preserves
  this.
-/
import OpenApiTypes.Output.Registry
import OpenApiTypes.Proofs.Naming.Fresh

namespace OpenApiTypes.Output

namespace FileScope

@[simp] lemma scope_setScope_self (f : FileScope) (ns : Namespace) (s : Scope) :
    (f.setScope ns s).scope ns = s := by
  cases ns <;> rfl

lemma scope_setScope_of_ne (f : FileScope) {ns other : Namespace} (h : other ≠ ns) (s : Scope) :
    (f.setScope ns s).scope other = f.scope other := by
  cases ns <;> cases other <;> first | rfl | exact absurd rfl h

end FileScope

namespace Registry

variable {r r' : Registry} {file pointer : String} {ns : Namespace}

/-! ### The names of one namespace of a file -/

/-- The names of a namespace of a file. -/
def scopeOf (r : Registry) (ns : Namespace) (file : String) : Scope :=
  ((r.get? file).getD { convention := .preserve }).scope ns

lemma status?_eq (r : Registry) (pointer : String) (ns : Namespace) (file : String) :
    r.status? pointer ns file = (r.scopeOf ns file).entries.get? pointer := by
  cases h : r.get? file with
  | some f => simp [ status?, scopeOf, h]
  | none =>
    simp only [ status?, scopeOf, h]
    cases ns <;> rfl

/-- The names of a namespace of a file, and of no other, are replaced. -/
lemma scopeOf_put (r : Registry) (f : FileScope)
    (hf : ∀ other, f.scope other = r.scopeOf other file) (ns : Namespace) (s : Scope)
    (other : Namespace) (file' : String) :
    scopeOf (r.put file (f.setScope ns s)) other file'
      = if file' = file ∧ other = ns then s else r.scopeOf other file' := by
  by_cases hfile : file' = file
  · subst hfile
    by_cases hns : other = ns
    · subst hns
      simp [scopeOf, Entries.get?_put_self]
    · have : (f.setScope ns s).scope other = r.scopeOf other file' := by
        rw [FileScope.scope_setScope_of_ne f hns, hf]
      simpa [scopeOf, Entries.get?_put_self, hns] using this
  · have : (r.put file (f.setScope ns s)).get? file' = r.get? file' :=
      Entries.get?_put_of_ne r hfile _
    simp [scopeOf, this, hfile]

/-! ### Operations -/

/-- Setting a convention changes no names. -/
lemma scopeOf_registerFile (r : Registry) (file : String) (convention : NamingConvention)
    (ns : Namespace) (file' : String) :
    (r.registerFile file convention).scopeOf ns file' = r.scopeOf ns file' := by
  by_cases hfile : file' = file
  · subst hfile
    unfold registerFile
    split
    · rename_i f hf
      cases ns <;> simp [scopeOf, Entries.get?_put_self, hf, FileScope.scope]
    · rename_i hf
      cases ns <;> simp [scopeOf, Entries.get?_put_self, hf, FileScope.scope]
  · unfold registerFile
    split <;> simp [scopeOf, Entries.get?_put_of_ne _ hfile]

@[simp] lemma status?_registerFile (r : Registry) (file : String) (convention : NamingConvention)
    (pointer : String) (ns : Namespace) (file' : String) :
    (r.registerFile file convention).status? pointer ns file' = r.status? pointer ns file' := by
  simp [status?_eq, scopeOf_registerFile]

/-- The name that a reference would be given now. -/
def newName (r : Registry) (pointer : String) (ns : Namespace) (file : String) : String :=
  (r.create pointer ns file).1

lemma newName_eq (r : Registry) (pointer : String) (ns : Namespace) (file : String) :
    r.newName pointer ns file = uniqueName (r.scopeOf ns file).taken
      (baseName pointer ((r.get? file).getD { convention := .preserve }).convention) := rfl

lemma scopeOf_create (r : Registry) (pointer : String) (ns : Namespace) (file : String)
    (other : Namespace) (file' : String) :
    (r.create pointer ns file).2.scopeOf other file'
      = if file' = file ∧ other = ns then {
          entries := (r.scopeOf ns file).entries.put pointer (.active (r.newName pointer ns file))
          taken := Text.lowercase (r.newName pointer ns file) :: (r.scopeOf ns file).taken }
        else r.scopeOf other file' :=
  scopeOf_put r _ (fun _ => rfl) ns _ other file'

/-- Giving a name concerns one reference. -/
lemma status?_create (r : Registry) (pointer : String) (ns : Namespace) (file : String)
    (q : String) (other : Namespace) (file' : String) :
    (r.create pointer ns file).2.status? q other file'
      = if file' = file ∧ other = ns ∧ q = pointer then some (.active (r.newName pointer ns file))
        else r.status? q other file' := by
  rw [status?_eq, scopeOf_create]
  by_cases hscope : file' = file ∧ other = ns
  · obtain ⟨rfl, rfl⟩ := hscope
    by_cases hq : q = pointer
    · simp [hq, Entries.get?_put_self]
    · simp [hq, Entries.get?_put_of_ne _ hq, status?_eq]
  · rw [if_neg hscope, if_neg fun h => hscope ⟨h.1, h.2.1⟩, status?_eq]

/-- A name that was given can be withdrawn. -/
lemma exists_suppress? {e : Entry} (h : r.status? pointer ns file = some e) :
    ∃ r', r.suppress? pointer ns file = some r' := by
  unfold suppress?
  cases hf : r.get? file with
  | none => simp [status?, hf] at h
  | some f =>
    have : (f.scope ns).entries.get? pointer = some e := by simpa [status?, hf] using h
    simp [this]

/-- Withdrawing a name works exactly when one was given. -/
lemma exists_entry_of_suppress? (h : r.suppress? pointer ns file = some r') :
    ∃ e, r.status? pointer ns file = some e ∧ ∀ other file',
      r'.scopeOf other file' = if file' = file ∧ other = ns then
          { r.scopeOf ns file with
            entries := (r.scopeOf ns file).entries.put pointer (.suppressed e.name) }
        else r.scopeOf other file' := by
  unfold suppress? at h
  cases hf : r.get? file with
  | none => simp [hf] at h
  | some f =>
    have hscope : ∀ other, f.scope other = r.scopeOf other file := fun other => by
      simp [scopeOf, hf]
    cases he : (f.scope ns).entries.get? pointer with
    | none => simp [hf, he] at h
    | some e =>
      obtain rfl : r.put file (f.setScope ns { f.scope ns with
          entries := (f.scope ns).entries.put pointer (.suppressed e.name) }) = r' := by
        simpa [hf, he] using h
      refine ⟨e, by rw [status?_eq, ← hscope, he], fun other file' => ?_⟩
      rw [scopeOf_put r f hscope, hscope]

/-- Withdrawing a name concerns one reference, whose name is kept. -/
lemma status?_suppress? (h : r.suppress? pointer ns file = some r') :
    ∃ e, r.status? pointer ns file = some e ∧ ∀ q other file',
      r'.status? q other file' = if file' = file ∧ other = ns ∧ q = pointer then
          some (.suppressed e.name)
        else r.status? q other file' := by
  obtain ⟨e, he, hscope⟩ := exists_entry_of_suppress? h
  refine ⟨e, he, fun q other file' => ?_⟩
  rw [status?_eq, hscope]
  by_cases hs : file' = file ∧ other = ns
  · obtain ⟨rfl, rfl⟩ := hs
    by_cases hq : q = pointer
    · simp [hq, Entries.get?_put_self]
    · simp [hq, Entries.get?_put_of_ne _ hq, status?_eq]
  · rw [if_neg hs, if_neg fun h => hs ⟨h.1, h.2.1⟩, status?_eq]

/-- A request leaves a registry alone or gives a name. -/
lemma request_eq (r : Registry) (pointer : String) (ns : Namespace) (file : String) :
    r.request pointer ns file true = match r.status? pointer ns file with
      | some (.active name) => (.active name false, r)
      | some (.suppressed _) => (.suppressed, r)
      | none => (.active (r.newName pointer ns file) true, (r.create pointer ns file).2) := by
  unfold request
  split <;> simp_all [newName]

lemma status?_of_name? {name : String} (h : r.name? pointer ns file = some name) :
    r.status? pointer ns file = some (.active name) := by
  rw [name?] at h
  split at h
  · rwa [← Option.some.inj h]
  · simp at h

/-! ### New names -/

/-- A base that is taken gets a number. -/
lemma exists_uniqueName_eq {taken : List String} {base : String} (h : isTaken taken base = true) :
    ∃ n : Nat, uniqueName taken base = base ++ toString n := by
  obtain ⟨n, -, hn⟩ := Naming.firstFreeFrom_eq_candidate (isTaken taken)
    (fun n => base ++ toString n) taken.length 2
  exact ⟨n, by rw [uniqueName, if_pos h, Naming.firstFree, hn]⟩

lemma uniqueName_of_free {taken : List String} {base : String} (h : isTaken taken base = false) :
    uniqueName taken base = base := by
  rw [uniqueName, h, if_neg Bool.false_ne_true]

lemma uniqueName_eq_or (taken : List String) (base : String) :
    uniqueName taken base = base ∨ ∃ n : Nat, uniqueName taken base = base ++ toString n := by
  cases h : isTaken taken base with
  | true => exact .inr (exists_uniqueName_eq h)
  | false => exact .inl (uniqueName_of_free h)

/-- A new name is not taken, whatever capitals it has. -/
lemma uniqueName_not_taken (taken : List String) (base : String) :
    Text.lowercase (uniqueName taken base) ∉ taken := by
  unfold uniqueName
  split
  · have hfree : isTaken taken (Naming.firstFree (isTaken taken) (fun n => base ++ toString n)
        taken.length) = false :=
      Naming.firstFree_not_taken Text.lowercase (Text.lowercase_append_number_injective base)
        (by simp [isTaken])
    simpa [isTaken] using hfree
  · simp_all [isTaken]

/-- A text with a number at its end is none of the words that end in no digit. -/
lemma append_number_notMem {words : List String}
    (hwords : ∀ w ∈ words, w.toList.getLast?.any Char.isDigit = false) (s : String) (n : Nat) :
    s ++ toString n ∉ words := by
  intro h
  have hne : Nat.toDigits 10 n ≠ [] := Nat.toDigits_ne_nil
  have hdigit : ((Nat.toDigits 10 n).getLast hne).isDigit :=
    Nat.isDigit_of_mem_toDigits (by omega) (by omega) (List.getLast_mem hne)
  have heq : (s ++ toString n).toList.getLast? = some ((Nat.toDigits 10 n).getLast hne) := by
    rw [Nat.toString_eq_ofList_toDigits, String.toList_append, String.toList_ofList,
      List.getLast?_append_of_ne_nil _ hne, List.getLast?_eq_some_getLast hne]
  have := hwords _ h
  rw [heq] at this
  exact absurd hdigit (by simpa using this)

lemma append_number_not_reserved (s : String) (n : Nat) : s ++ toString n ∉ reserved :=
  append_number_notMem (by decide +kernel) s n

lemma baseName_not_reserved (pointer : String) (convention : NamingConvention) :
    baseName pointer convention ∉ reserved := by
  have hfirst : ∀ w ∈ reserved, w.toList.head? ≠ some '_' := by decide +kernel
  unfold baseName
  dsimp only
  split
  · exact fun h => hfirst _ h (by simp)
  · simp_all

lemma uniqueName_not_reserved (taken : List String) (pointer : String)
    (convention : NamingConvention) :
    uniqueName taken (baseName pointer convention) ∉ reserved := by
  rcases uniqueName_eq_or taken (baseName pointer convention) with h | ⟨n, h⟩
  · rw [h]
    exact baseName_not_reserved _ _
  · rw [h]
    exact append_number_not_reserved _ n

/-! ### Growth -/

/-- What became of a reference in a registry is the same in the other. -/
def Extends (r r' : Registry) : Prop :=
  ∀ ⦃pointer ns file e⦄, r.status? pointer ns file = some e → r'.status? pointer ns file = some e

lemma Extends.refl (r : Registry) : r.Extends r := fun _ _ _ _ h => h

lemma Extends.trans {r r' r'' : Registry} (h : r.Extends r') (h' : r'.Extends r'') :
    r.Extends r'' :=
  fun _ _ _ _ he => h' (h he)

/-- The first name of a reference takes nothing away. -/
lemma extends_create (h : r.status? pointer ns file = none) :
    r.Extends (r.create pointer ns file).2 := by
  intro q ns' file' e he
  rw [status?_create]
  split
  · rename_i heq
    obtain ⟨rfl, rfl, rfl⟩ := heq
    simp [h] at he
  · exact he

lemma extends_request (r : Registry) (pointer : String) (ns : Namespace) (file : String) :
    r.Extends (r.request pointer ns file true).2 := by
  rw [request_eq]
  split
  · exact Extends.refl r
  · exact Extends.refl r
  · exact extends_create ‹_›

/-- A name that answers a request is that of the reference. -/
lemma status?_request {name : String} (h : (r.request pointer ns file true).1.name? = some name) :
    (r.request pointer ns file true).2.status? pointer ns file = some (.active name) := by
  rw [request_eq] at h ⊢
  cases hentry : r.status? pointer ns file with
  | none =>
    obtain rfl : r.newName pointer ns file = name := by simpa [hentry, Identifier.name?] using h
    exact (status?_create ..).trans (if_pos ⟨rfl, rfl, rfl⟩)
  | some e =>
    cases e with
    | active given =>
      obtain rfl : given = name := by simpa [hentry, Identifier.name?] using h
      exact hentry
    | suppressed given => simp [hentry, Identifier.name?] at h

/-- A request that is answered by no name concerns a withdrawn one. -/
lemma exists_suppressed_of_request (h : (r.request pointer ns file true).1.name? = none) :
    ∃ name, (r.request pointer ns file true).2.status? pointer ns file
      = some (.suppressed name) := by
  rw [request_eq] at h ⊢
  cases hentry : r.status? pointer ns file with
  | none => simp [hentry, Identifier.name?] at h
  | some e =>
    cases e with
    | active name => simp [hentry, Identifier.name?] at h
    | suppressed name => exact ⟨name, hentry⟩

/-- A reference is known once it has been asked for. -/
lemma exists_entry_of_request (r : Registry) (pointer : String) (ns : Namespace) (file : String) :
    ∃ e, (r.request pointer ns file true).2.status? pointer ns file = some e := by
  cases hname : (r.request pointer ns file true).1.name? with
  | some name => exact ⟨_, status?_request hname⟩
  | none =>
    obtain ⟨name, hentry⟩ := exists_suppressed_of_request hname
    exact ⟨_, hentry⟩

/-- A request concerns the names of one file. -/
lemma status?_request_of_ne (r : Registry) (pointer : String) (ns : Namespace) {id : String}
    (hid : id ≠ file) (q : String) (other : Namespace) :
    (r.request pointer ns file true).2.status? q other id = r.status? q other id := by
  rw [request_eq]
  split
  · rfl
  · rfl
  · rw [status?_create, if_neg fun h => hid h.1]

/-! ### Names that are not withdrawn -/

/-- No name in a file is withdrawn. -/
def Unwithdrawn (r : Registry) (file : String) : Prop :=
  ∀ ⦃pointer ns e⦄, r.status? pointer ns file = some e → ∃ name, e = .active name

lemma unwithdrawn_nil (file : String) : Unwithdrawn [] file :=
  fun _ _ _ he => by simp [status?, Entries.get?] at he

namespace Unwithdrawn

lemma registerFile (h : r.Unwithdrawn file) (file' : String) (convention : NamingConvention) :
    (r.registerFile file' convention).Unwithdrawn file :=
  fun _ _ _ he => h (by rwa [status?_registerFile] at he)

/-- A new name is not withdrawn. -/
lemma request (h : r.Unwithdrawn file) (pointer : String) (ns : Namespace) :
    (r.request pointer ns file true).2.Unwithdrawn file := by
  intro q ns' e he
  rw [request_eq] at he
  split at he
  · exact h he
  · exact h he
  · rw [status?_create] at he
    split at he
    · exact ⟨_, (Option.some.inj he).symm⟩
    · exact h he

/-- A request is answered by a name. -/
lemma exists_name (h : r.Unwithdrawn file) (pointer : String) (ns : Namespace) :
    ∃ name created, (r.request pointer ns file true).1 = .active name created := by
  rw [request_eq]
  split
  · exact ⟨_, _, rfl⟩
  · rename_i hentry
    obtain ⟨name, hname⟩ := h hentry
    simp at hname
  · exact ⟨_, _, rfl⟩

end Unwithdrawn

/-! ### Distinct names -/

/-- The names given in a namespace of a file, withdrawn ones included, are taken, differ from each
other even in small letters, and are made of the ends of their references. -/
structure Distinct (r : Registry) (ns : Namespace) (file : String) : Prop where
  taken : ∀ {p e}, r.status? p ns file = some e →
    Text.lowercase e.name ∈ (r.scopeOf ns file).taken
  pointer_eq : ∀ {p q e e'}, r.status? p ns file = some e → r.status? q ns file = some e' →
    Text.lowercase e.name = Text.lowercase e'.name → p = q
  made : ∀ {p e}, r.status? p ns file = some e → ∃ taken convention,
    e.name = uniqueName taken (baseName p convention)

lemma status?_nil (pointer : String) (ns : Namespace) (file : String) :
    status? [] pointer ns file = none := rfl

/-- Where nothing has been given, the names are distinct. -/
lemma distinct_of_forall {ns : Namespace} {file : String}
    (h : ∀ p, r.status? p ns file = none) : r.Distinct ns file := by
  constructor <;> simp [h]

lemma distinct_nil (ns : Namespace) (file : String) : Distinct [] ns file :=
  distinct_of_forall fun p => status?_nil p ns file

namespace Distinct

/-- What the names of a namespace are decides whether they are distinct. -/
lemma congr (h : r.Distinct ns file) (heq : r'.scopeOf ns file = r.scopeOf ns file) :
    r'.Distinct ns file := by
  have hentry : ∀ p, r'.status? p ns file = r.status? p ns file := fun p => by
    rw [status?_eq, heq, status?_eq]
  refine ⟨fun he => ?_, fun he he' => ?_, fun he => ?_⟩
  · rw [heq]
    exact h.taken (by rwa [← hentry])
  · exact h.pointer_eq (by rwa [← hentry]) (by rwa [← hentry])
  · exact h.made (by rwa [← hentry])

lemma unreserved (h : r.Distinct ns file) {p : String} {e : Entry}
    (he : r.status? p ns file = some e) : e.name ∉ reserved := by
  obtain ⟨taken, convention, hname⟩ := h.made he
  rw [hname]
  exact uniqueName_not_reserved taken p convention

lemma registerFile (h : r.Distinct ns file) (file' : String) (convention : NamingConvention) :
    (r.registerFile file' convention).Distinct ns file :=
  h.congr (scopeOf_registerFile r file' convention ns file)

lemma create (h : r.Distinct ns file) (pointer : String) (ns' : Namespace) (file' : String) :
    (r.create pointer ns' file').2.Distinct ns file := by
  by_cases hs : file = file' ∧ ns = ns'
  · obtain ⟨rfl, rfl⟩ := hs
    have hfresh : Text.lowercase (r.newName pointer ns file) ∉ (r.scopeOf ns file).taken := by
      rw [newName_eq]
      exact uniqueName_not_taken _ _
    have hentry : ∀ q, (r.create pointer ns file).2.status? q ns file
        = if q = pointer then some (.active (r.newName pointer ns file))
          else r.status? q ns file := fun q => by simp [status?_create]
    refine ⟨fun {p e} he => ?_, fun {p q e e'} he he' heq => ?_, fun {p e} he => ?_⟩
    · rw [scopeOf_create, if_pos ⟨rfl, rfl⟩]
      rw [hentry] at he
      split at he
      · obtain rfl : Entry.active _ = e := by simpa using he
        exact List.mem_cons_self
      · exact List.mem_cons_of_mem _ (h.taken he)
    · rw [hentry] at he he'
      -- The new name is the only one that was not taken before.
      split at he <;> split at he'
      · simp_all
      · obtain rfl : Entry.active _ = e := by simpa using he
        exact absurd (heq ▸ h.taken he') hfresh
      · obtain rfl : Entry.active _ = e' := by simpa using he'
        exact absurd (heq ▸ h.taken he) hfresh
      · exact h.pointer_eq he he' heq
    · rw [hentry] at he
      split at he
      · rename_i hp
        obtain rfl : Entry.active _ = e := by simpa using he
        rw [hp]
        exact ⟨_, _, newName_eq r pointer ns file⟩
      · exact h.made he
  · refine h.congr ?_
    rw [scopeOf_create, if_neg hs]

lemma request (h : r.Distinct ns file) (pointer : String) (ns' : Namespace) (file' : String) :
    (r.request pointer ns' file' true).2.Distinct ns file := by
  rw [request_eq]
  split
  · exact h
  · exact h
  · exact h.create pointer ns' file'

lemma suppress? (h : r.Distinct ns file) {file' : String} {ns' : Namespace}
    (hr : r.suppress? pointer ns' file' = some r') : r'.Distinct ns file := by
  obtain ⟨e₀, he₀, hscope⟩ := exists_entry_of_suppress? hr
  by_cases hs : file = file' ∧ ns = ns'
  · obtain ⟨rfl, rfl⟩ := hs
    -- Every name is still the one that was given to the same reference.
    have hback : ∀ {p e}, r'.status? p ns file = some e →
        ∃ e', r.status? p ns file = some e' ∧ e'.name = e.name := by
      intro p e he
      obtain ⟨e₁, he₁, hentry⟩ := status?_suppress? hr
      rw [hentry] at he
      split at he
      · rename_i hp
        obtain rfl : Entry.suppressed _ = e := by simpa using he
        exact ⟨e₁, by rw [hp.2.2, he₁], rfl⟩
      · exact ⟨e, he, rfl⟩
    have htaken : (r'.scopeOf ns file).taken = (r.scopeOf ns file).taken := by
      rw [hscope, if_pos ⟨rfl, rfl⟩]
    refine ⟨fun he => ?_, fun he he' heq => ?_, fun he => ?_⟩
    · obtain ⟨e', he', hname⟩ := hback he
      rw [htaken, ← hname]
      exact h.taken he'
    · obtain ⟨d, hd, hdname⟩ := hback he
      obtain ⟨d', hd', hdname'⟩ := hback he'
      exact h.pointer_eq hd hd' (by rw [hdname, hdname', heq])
    · obtain ⟨e', he', hname⟩ := hback he
      rw [← hname]
      exact h.made he'
  · refine h.congr ?_
    rw [hscope, if_neg hs]

end Distinct

end Registry

end OpenApiTypes.Output
