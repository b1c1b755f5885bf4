/-
Which numbers the names of a file have.

* `Output.Registry.numbered`: a name with a number, `exists_uniqueName_eq_numbered`: a new name is
  the first of these that is not taken;
* `Output.Registry.Holds`: a reference has a name, whatever capitals it has;
* `Output.Registry.Gapless`: what is taken in a file is the name of a reference, and all names that
  come before that of a reference are those of others. New names preserve this;
* `Output.Registry.Asked`: the registry after names were asked for, each for one of certain
  references;
* `Output.Registry.Gapless.holds_or_holds`: a reference with different names in two namespaces has
  one that is **held by another reference in the other namespace**;
* `Output.Registry.Gapless.name_eq_baseName`: a reference has the name that it asks for if no other
  one asks for a name with the same root.
-/
import OpenApiTypes.Proofs.Naming.Endings
import OpenApiTypes.Proofs.Output.Stability

namespace OpenApiTypes.Output.Registry

variable {r r' : Registry} {file pointer : String} {ns : Namespace} {convention : NamingConvention}

/-! ### Names with numbers -/

/-- The names that a base may become, in the order in which they are tried. -/
def numbered (base : String) : ℕ → String
  | 0 => base
  | n + 1 => base ++ toString (n + 2)

lemma lowercase_numbered (base : String) (n : ℕ) :
    Text.lowercase (numbered base n) = numbered (Text.lowercase base) n := by
  cases n with
  | zero => rfl
  | succ n => exact Text.lowercase_append_number base (n + 2)

lemma numbered_injective (base : String) : Function.Injective (numbered base) := by
  have hne : ∀ n : ℕ, base ≠ base ++ toString n := by
    intro n h
    have hlength := congrArg String.length h
    have hdigits : 0 < (Nat.toDigits 10 n).length := List.length_pos_of_ne_nil Nat.toDigits_ne_nil
    rw [String.length_append, Nat.toString_eq_ofList_toDigits, String.length_ofList] at hlength
    omega
  intro m n h
  cases m <;> cases n
  · rfl
  · exact absurd h (hne _)
  · exact absurd h.symm (hne _)
  · have := Text.append_number_injective base h
    omega

lemma lowercase_numbered_injective (base : String) :
    Function.Injective fun n => Text.lowercase (numbered base n) := by
  simp only [lowercase_numbered]
  exact numbered_injective _

/-- A new name is the first one that is not taken. -/
lemma exists_uniqueName_eq_numbered (taken : List String) (base : String) :
    ∃ n, uniqueName taken base = numbered base n
      ∧ ∀ m < n, Text.lowercase (numbered base m) ∈ taken := by
  have hchosen := chosen_uniqueName taken base
  unfold Chosen at hchosen
  split at hchosen
  · rename_i hbase
    obtain ⟨n, hn, heq, hall⟩ := hchosen.exists_eq_candidate
    obtain ⟨n, rfl⟩ := Nat.exists_eq_add_of_le' hn
    refine ⟨n + 1, heq, fun m hm => ?_⟩
    cases m with
    | zero => simpa [isTaken, numbered] using hbase
    | succ m => simpa [isTaken, numbered] using hall (m + 2) (by omega) (by omega)
  · exact ⟨0, hchosen, fun m hm => absurd hm (Nat.not_lt_zero m)⟩

/-- What is left of a name without capitals and without the number at its end. -/
def root (name : String) : List Char := stem (Text.lowercase name)

lemma root_numbered (base : String) (n : ℕ) : root (numbered base n) = root base := by
  cases n with
  | zero => rfl
  | succ n => rw [root, lowercase_numbered, numbered, stem_append_number, root]

/-! ### Names without gaps -/

/-- A reference has the name, whatever capitals it has. -/
def Holds (r : Registry) (ns : Namespace) (file name : String) : Prop :=
  ∃ pointer e, r.status? pointer ns file = some e ∧ Text.lowercase e.name = Text.lowercase name

lemma Holds.mono {name : String} (h : r.Holds ns file name) (hr : r.Extends r') :
    r'.Holds ns file name := by
  obtain ⟨pointer, e, he, hname⟩ := h
  exact ⟨pointer, e, hr he, hname⟩

/-- What is taken in a file is the name of a reference, and the name of a reference is what it asks
for under the convention, or that with a number, where all names that come before it are those of
references. -/
structure Gapless (r : Registry) (file : String) (convention : NamingConvention) : Prop where
  convention_eq : r.conventionOf file = convention
  held : ∀ {ns name}, Text.lowercase name ∈ (r.scopeOf ns file).taken → r.Holds ns file name
  made : ∀ {pointer ns e}, r.status? pointer ns file = some e →
    ∃ n, e.name = numbered (baseName pointer convention) n
      ∧ ∀ m < n, r.Holds ns file (numbered (baseName pointer convention) m)

/-- A file without names has no gaps. -/
lemma gapless_registerFile_nil (file : String) (convention : NamingConvention) :
    (registerFile [] file convention).Gapless file convention where
  convention_eq := by rw [conventionOf_registerFile, if_pos rfl]
  held := fun {ns name} h => by
    rw [scopeOf_registerFile] at h
    cases ns <;> exact absurd h List.not_mem_nil
  made := fun he => by simp [status?_nil] at he

namespace Gapless

/-- The first name of a reference is the first one that no other reference has. -/
lemma create (h : r.Gapless file convention) (hnew : r.status? pointer ns file = none) :
    (r.create pointer ns file).2.Gapless file convention where
  convention_eq := by rw [conventionOf_create, h.convention_eq]
  held := by
    intro other name hname
    rw [scopeOf_create] at hname
    split at hname
    · rename_i hother
      obtain rfl := hother.2
      rcases List.mem_cons.mp hname with heq | hname
      · exact ⟨pointer, _, (status?_create ..).trans (if_pos ⟨rfl, rfl, rfl⟩), heq.symm⟩
      · exact (h.held hname).mono (extends_create hnew)
    · exact (h.held hname).mono (extends_create hnew)
  made := by
    intro q other e he
    rw [status?_create] at he
    split at he
    · rename_i heq
      obtain ⟨-, rfl, rfl⟩ := heq
      obtain rfl : Entry.active _ = e := Option.some.inj he
      obtain ⟨n, hname, hall⟩ := exists_uniqueName_eq_numbered (r.scopeOf other file).taken
        (baseName q (r.conventionOf file))
      rw [h.convention_eq] at hname hall
      refine ⟨n, ?_, fun m hm => (h.held (hall m hm)).mono (extends_create hnew)⟩
      rw [Entry.name, newName_eq, ← hname, ← h.convention_eq, conventionOf]
    · obtain ⟨n, hname, hall⟩ := h.made he
      exact ⟨n, hname, fun m hm => (hall m hm).mono (extends_create hnew)⟩

lemma request (h : r.Gapless file convention) (pointer : String) (ns : Namespace) :
    (r.request pointer ns file true).2.Gapless file convention := by
  rw [request_eq]
  split
  · exact h
  · exact h
  · exact h.create ‹_›

/-! ### What names without gaps say -/

variable (h : r.Gapless file convention)
include h

/-- Different names of a reference differ even in small letters. -/
lemma lowercase_ne {ns' : Namespace} {e e' : Entry} (he : r.status? pointer ns file = some e)
    (he' : r.status? pointer ns' file = some e') (hne : e.name ≠ e'.name) :
    Text.lowercase e.name ≠ Text.lowercase e'.name := by
  obtain ⟨n, hname, -⟩ := h.made he
  obtain ⟨n', hname', -⟩ := h.made he'
  rw [hname, hname'] at hne ⊢
  exact fun heq => hne (congrArg _ (lowercase_numbered_injective _ heq))

/-- If a reference has different names in two namespaces, the one that comes first is held in the
other namespace, too. -/
lemma holds_or_holds {ns' : Namespace} {e e' : Entry} (he : r.status? pointer ns file = some e)
    (he' : r.status? pointer ns' file = some e') (hne : e.name ≠ e'.name) :
    r.Holds ns' file e.name ∨ r.Holds ns file e'.name := by
  obtain ⟨n, hname, hall⟩ := h.made he
  obtain ⟨n', hname', hall'⟩ := h.made he'
  rw [hname, hname'] at hne ⊢
  rcases Nat.lt_trichotomy n n' with hlt | heq | hlt
  · exact .inl (hall' n hlt)
  · exact absurd (congrArg _ heq) hne
  · exact .inr (hall n' hlt)

/-- A reference has the name that it asks for if no other one asks for a name with the same
root. -/
lemma name_eq_baseName {e : Entry} (he : r.status? pointer ns file = some e)
    (hroot : ∀ q e', r.status? q ns file = some e' → q ≠ pointer →
      root (baseName q convention) ≠ root (baseName pointer convention)) :
    e.name = baseName pointer convention := by
  obtain ⟨n, hname, hall⟩ := h.made he
  cases n with
  | zero => exact hname
  | succ n =>
    -- Somebody has the name without a number, and it is not this reference.
    obtain ⟨q, e', he', hsame⟩ := hall 0 (Nat.succ_pos n)
    obtain ⟨k, hname', -⟩ := h.made he'
    have hq : q ≠ pointer := by
      rintro rfl
      obtain rfl : e = e' := Option.some.inj (he.symm.trans he')
      rw [hname] at hsame
      exact absurd (lowercase_numbered_injective _ hsame) (Nat.succ_ne_zero n)
    refine absurd ?_ (hroot q e' he' hq)
    calc root (baseName q convention) = root e'.name := by rw [hname', root_numbered]
      _ = root (baseName pointer convention) := by rw [root, hsame, numbered, root]

end Gapless

/-! ### Names that were asked for -/

/-- The registry after names were asked for in a file, each for one of certain references. -/
inductive Asked (wanted : Namespace → String → Prop) (file : String) :
    Registry → Registry → Prop where
  | refl (r : Registry) : Asked wanted file r r
  | request {r r' : Registry} {pointer : String} {ns : Namespace} (h : Asked wanted file r r')
      (hwanted : wanted ns pointer) : Asked wanted file r (r'.request pointer ns file true).2

namespace Asked

variable {wanted : Namespace → String → Prop}

lemma trans {r'' : Registry} (h : Asked wanted file r r') (h' : Asked wanted file r' r'') :
    Asked wanted file r r'' := by
  induction h' with
  | refl => exact h
  | request _ hwanted ih => exact ih.request hwanted

lemma gapless (h : Asked wanted file r r') (hr : r.Gapless file convention) :
    r'.Gapless file convention := by
  induction h with
  | refl => exact hr
  | request _ _ ih => exact ih.request _ _

/-- A reference with a name is one of those, if it had none before. -/
lemma wanted_of_status? {e : Entry} (h : Asked wanted file r r')
    (hr : r.status? pointer ns file = none) (he : r'.status? pointer ns file = some e) :
    wanted ns pointer := by
  induction h generalizing e with
  | refl => simp [hr] at he
  | @request r' q other _ hwanted ih =>
    rw [request_eq] at he
    split at he
    · exact ih he
    · exact ih he
    · rw [status?_create] at he
      split at he
      · rename_i heq
        obtain ⟨-, rfl, rfl⟩ := heq
        exact hwanted
      · exact ih he

end Asked

end OpenApiTypes.Output.Registry
