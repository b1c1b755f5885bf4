/-
How long the names of a registry last, and what they depend on.

* `Output.Registry.statusOf_after`: a name that was given is there until a call withdraws it;
* `Output.Registry.view`: what names in a namespace of a file depend on, `answer_congr`: what a call
  answers depends on nothing else;
* `Output.Registry.filter_log`: calls elsewhere can be left out of a sequence;
* `Output.Registry.log_stable`: a name that was given stays until it is withdrawn, and is then
  withdrawn for ever; what is answered in a file depends on nothing outside it;
* `Output.Registry.Uniform`: a file has a convention, and so far all its names were made under it;
  `Output.Registry.Uniform.request`, `Output.Registry.Uniform.suppress?`: whatever names are given
  or withdrawn anywhere, it stays so; `Output.Registry.Uniform.exists_taken`: the name that answers
  a request in it.
-/
import OpenApiTypes.Proofs.Output.Log

namespace OpenApiTypes.Output.Registry

variable {r r' : Registry} {call : Call} {calls : List Call} {key : Key}

/-! ### Stable names -/

/-- After a name was given, it is there until a call withdraws it. -/
lemma statusOf_after {e : Entry} (h : r.statusOf key = some e) (calls : List Call) :
    (r.after calls).statusOf key
      = some (if (.suppress key, .done) ∈ r.log calls then .suppressed e.name else e) := by
  induction calls generalizing r e with
  | nil => simp [log, h]
  | cons call calls ih =>
    rw [after_cons, log]
    by_cases hcall : call = .suppress key
    · subst hcall
      obtain ⟨r', -, hanswer⟩ := answer_suppress_of_some h
      have hstatus := statusOf_answer r (.suppress key) key
      rw [if_pos rfl, h] at hstatus
      rw [ih hstatus]
      simp [hanswer, Entry.name]
    · have hstatus := statusOf_answer r call key
      rw [if_neg hcall, h, Option.getD_some, ite_self] at hstatus
      have hentry : (.suppress key, .done) ≠ (call, (r.answer call).1) :=
        fun heq => hcall (Prod.mk.inj heq).1.symm
      rw [ih hstatus]
      simp [hentry]

section

variable {e : Entry} {given : Answer} {front rest : List (Call × Answer)}
  (h : r.statusOf key = some e)

include h

/-- A request for a known reference is answered by its name until a call withdraws it, and then
for ever by that. -/
lemma eq_of_log_eq_append_request {creates : Bool}
    (hlog : r.log calls = front ++ (.request key creates, given) :: rest) :
    given = .identifier
      (if (.suppress key, .done) ∈ front then .suppressed else identifierOf e) := by
  obtain ⟨before, others, -, rfl, rfl, -⟩ := exists_of_log_eq_append_cons hlog
  rw [answer_request_of_some (statusOf_after h before)]
  split_ifs <;> rfl

/-- So is a request that never creates a name. -/
lemma eq_of_log_eq_append_name
    (hlog : r.log calls = front ++ (.name key, given) :: rest) :
    given = .name (if (.suppress key, .done) ∈ front then none else (identifierOf e).name?) := by
  obtain ⟨before, others, -, rfl, rfl, -⟩ := exists_of_log_eq_append_cons hlog
  have hstatus := statusOf_after h before
  rw [statusOf] at hstatus
  split_ifs at hstatus ⊢
  · simp [answer, name?, hstatus]
  · cases e <;> simp [answer, name?, hstatus, identifierOf, Identifier.name?]

end

/-- A request that is answered by a new name. -/
def Creates (key : Key) (entry : Call × Answer) : Prop :=
  ∃ creates name, entry = (.request key creates, .identifier (.active name true))

/-- A name is created at most once for each reference. -/
lemma pairwise_log (r : Registry) (calls : List Call) :
    (r.log calls).Pairwise fun e e' => ∀ key, Creates key e → ¬ Creates key e' := by
  induction calls generalizing r with
  | nil => exact .nil
  | cons call calls ih =>
    refine List.pairwise_cons.mpr ⟨?_, ih _⟩
    rintro entry hentry key ⟨creates, name, heq⟩ ⟨creates', name', rfl⟩
    obtain ⟨rfl, hgiven⟩ := Prod.mk.inj heq
    obtain ⟨front, rest, hlog⟩ := List.append_of_mem hentry
    have hagain := eq_of_log_eq_append_request (statusOf_of_answer hgiven) hlog
    split_ifs at hagain <;> simp [identifierOf] at hagain

/-! ### What a call depends on -/

/-- What names in a namespace of a file depend on. -/
def view (r : Registry) (ns : Namespace) (file : String) : Scope × NamingConvention :=
  (r.scopeOf ns file, r.conventionOf file)

lemma statusOf_congr (h : r.view key.ns key.file = r'.view key.ns key.file) :
    r.statusOf key = r'.statusOf key := by
  rw [statusOf, statusOf, status?_eq, status?_eq, (Prod.mk.inj h).1]

lemma newName_congr (h : r.view key.ns key.file = r'.view key.ns key.file) :
    r.newName key.pointer key.ns key.file = r'.newName key.pointer key.ns key.file := by
  obtain ⟨hscope, hconvention⟩ := Prod.mk.inj h
  rw [newName_eq, newName_eq, hscope]
  exact congrArg (fun c => uniqueName _ (baseName _ c)) hconvention

lemma conventionOf_put (r : Registry) (f : FileScope) (file file' : String) :
    conventionOf (r.put file f) file'
      = if file' = file then f.convention else r.conventionOf file' := by
  by_cases hfile : file' = file
  · subst hfile
    simp [conventionOf, Entries.get?_put_self]
  · simp [conventionOf, Entries.get?_put_of_ne _ hfile, hfile]

lemma convention_setScope (f : FileScope) (ns : Namespace) (s : Scope) :
    (f.setScope ns s).convention = f.convention := by
  cases ns <;> rfl

lemma conventionOf_registerFile (r : Registry) (file : String) (convention : NamingConvention)
    (file' : String) : (r.registerFile file convention).conventionOf file'
      = if file' = file then convention else r.conventionOf file' := by
  unfold registerFile
  split <;> exact conventionOf_put r _ file file'

/-- Giving a name changes no convention. A file without one keeps names as they are. -/
lemma conventionOf_create (r : Registry) (pointer : String) (ns : Namespace) (file : String)
    (file' : String) : (r.create pointer ns file).2.conventionOf file' = r.conventionOf file' := by
  refine (conventionOf_put r _ file file').trans ?_
  split_ifs with hfile
  · rw [convention_setScope, hfile, conventionOf]
  · rfl

lemma conventionOf_suppress? {pointer : String} {ns : Namespace} {file : String}
    (h : r.suppress? pointer ns file = some r') (file' : String) :
    r'.conventionOf file' = r.conventionOf file' := by
  obtain ⟨f, hf, h⟩ := Option.bind_eq_some_iff.mp h
  obtain ⟨e, he, h⟩ := Option.bind_eq_some_iff.mp h
  obtain rfl := Option.some.inj h
  rw [conventionOf_put]
  split_ifs with hfile
  · rw [convention_setScope, hfile, conventionOf, hf, Option.getD_some]
  · rfl

section

variable {ns : Namespace} {file : String}

lemma Call.concerns_of_key? (h : call.key? = some key) :
    call.concerns ns file = true ↔ key.file = file ∧ key.ns = ns := by
  cases call <;> simp_all [Call.key?, Call.concerns, Call.file]

/-- A call changes nothing in the namespaces that it does not concern. -/
lemma view_answer_of_not_concerns (h : call.concerns ns file = false) :
    (r.answer call).2.view ns file = r.view ns file := by
  have hkey : ∀ key, call.key? = some key → ¬ (file = key.file ∧ ns = key.ns) := by
    rintro key hkey ⟨rfl, rfl⟩
    rw [(Call.concerns_of_key? hkey).mpr ⟨rfl, rfl⟩] at h
    exact Bool.noConfusion h
  have hchange := change_answer r call
  generalize (r.answer call).2 = r' at hchange
  cases hchange with
  | nothing => rfl
  | registered file' convention =>
    have hfile : ¬ file = file' := by
      rintro rfl
      simp [Call.concerns, Call.file, Call.key?] at h
    rw [view, view, scopeOf_registerFile, conventionOf_registerFile, if_neg hfile]
  | @created key _ =>
    rw [view, view, scopeOf_create, if_neg (hkey key rfl), conventionOf_create]
  | @withdrawn key _ hr =>
    obtain ⟨e, -, hscope⟩ := exists_entry_of_suppress? hr
    rw [view, view, hscope, if_neg (hkey key rfl), conventionOf_suppress? hr]

/-- What a call on a namespace of a file answers, and what it leaves there, depends on nothing
else. -/
lemma answer_congr (hkey : call.key? = some key)
    (h : r.view key.ns key.file = r'.view key.ns key.file) :
    (r.answer call).1 = (r'.answer call).1
      ∧ (r.answer call).2.view key.ns key.file = (r'.answer call).2.view key.ns key.file := by
  have hstatus := statusOf_congr h
  have hscope := (Prod.mk.inj h).1
  have hconvention := (Prod.mk.inj h).2
  cases call with
  | register file' convention => simp [Call.key?] at hkey
  | name key' =>
    obtain rfl : key' = key := by simpa [Call.key?] using hkey
    refine ⟨?_, h⟩
    rw [statusOf, statusOf] at hstatus
    simp only [answer, name?, hstatus]
  | request key' creates =>
    obtain rfl : key' = key := by simpa [Call.key?] using hkey
    cases hs : r.statusOf key' with
    | some e =>
      rw [answer_request_of_some hs, answer_request_of_some (hstatus ▸ hs)]
      exact ⟨rfl, h⟩
    | none =>
      cases creates with
      | false =>
        rw [answer_request_false hs, answer_request_false (hstatus ▸ hs)]
        exact ⟨rfl, h⟩
      | true =>
        rw [answer_request_of_none hs, answer_request_of_none (hstatus ▸ hs), newName_congr h]
        refine ⟨rfl, ?_⟩
        rw [view, view, scopeOf_create, scopeOf_create, if_pos ⟨rfl, rfl⟩, if_pos ⟨rfl, rfl⟩,
          conventionOf_create, conventionOf_create, newName_congr h, hscope, hconvention]
  | suppress key' =>
    obtain rfl : key' = key := by simpa [Call.key?] using hkey
    cases hs : r.statusOf key' with
    | none =>
      rw [answer_suppress_of_none hs, answer_suppress_of_none (hstatus ▸ hs)]
      exact ⟨rfl, h⟩
    | some e =>
      obtain ⟨s, hr, hanswer⟩ := answer_suppress_of_some hs
      obtain ⟨s', hr', hanswer'⟩ := answer_suppress_of_some (hstatus ▸ hs : r'.statusOf key' = _)
      obtain ⟨e₁, he₁, hscope₁⟩ := exists_entry_of_suppress? hr
      obtain ⟨e₂, he₂, hscope₂⟩ := exists_entry_of_suppress? hr'
      obtain rfl : e₁ = e₂ := by
        rw [statusOf, statusOf, he₁, he₂] at hstatus
        exact Option.some.inj hstatus
      rw [hanswer, hanswer']
      refine ⟨rfl, ?_⟩
      rw [view, view, hscope₁, hscope₂, if_pos ⟨rfl, rfl⟩, if_pos ⟨rfl, rfl⟩,
        conventionOf_suppress? hr, conventionOf_suppress? hr', hscope, hconvention]

/-- What a call leaves in a namespace of a file depends on nothing else. -/
lemma view_answer_congr (h : r.view ns file = r'.view ns file) (call : Call) :
    (r.answer call).2.view ns file = (r'.answer call).2.view ns file := by
  by_cases hcall : call.concerns ns file = true
  · cases hkey : call.key? with
    | some key =>
      obtain ⟨rfl, rfl⟩ := (Call.concerns_of_key? hkey).mp hcall
      exact (answer_congr hkey h).2
    | none =>
      cases call with
      | register file' convention =>
        obtain ⟨hscope, hconvention⟩ := Prod.mk.inj h
        rw [view, view, answer, answer, scopeOf_registerFile, scopeOf_registerFile,
          conventionOf_registerFile, conventionOf_registerFile, hscope, hconvention]
      | _ => simp [Call.key?] at hkey
  · rw [view_answer_of_not_concerns (by simpa using hcall),
      view_answer_of_not_concerns (by simpa using hcall), h]

end

/-- Calls that do not concern what is seen can be left out; the others are answered the same. -/
lemma filter_log (kept : Call → Bool) (seen : Namespace → String → Prop)
    (hkept : ∀ call key, kept call = true → call.key? = some key → seen key.ns key.file)
    (hother : ∀ call ns file, kept call = false → seen ns file → call.concerns ns file = false)
    (h : ∀ ns file, seen ns file → r.view ns file = r'.view ns file) (calls : List Call) :
    (r.log calls).filter (fun entry => kept entry.1) = r'.log (calls.filter kept) := by
  induction calls generalizing r r' with
  | nil => rfl
  | cons call calls ih =>
    by_cases hcall : kept call = true
    · have hanswer : (r.answer call).1 = (r'.answer call).1 := by
        cases hkey : call.key? with
        | some key => exact (answer_congr hkey (h _ _ (hkept call key hcall hkey))).1
        | none => cases call <;> simp_all [Call.key?, answer]
      have hrest := ih fun ns file hseen => view_answer_congr (h ns file hseen) call
      simp [log, hcall, hanswer, hrest]
    · have hrest := ih fun ns file hseen => (view_answer_of_not_concerns
        (hother call ns file (by simpa using hcall) hseen)).trans (h ns file hseen)
      simp [log, hcall, hrest]

/-- What a registry assures of every sequence of calls: after a request was answered by a name,
later ones are answered by the same name, not created again, until a call withdraws it, and then for
ever by that. A name is created at most once for each reference. Requests that create nothing and
calls that withdraw nothing change nothing. What is answered in a file, or in a namespace of it,
depends on nothing outside, and what is known of a reference is changed by no call on another
namespace or file. -/
theorem log_stable (calls : List Call) :
    (∀ front between rest key creates creates' name created given,
      log [] calls = front ++ (.request key creates, .identifier (.active name created))
        :: between ++ (.request key creates', given) :: rest →
      given = .identifier
        (if (.suppress key, .done) ∈ between then .suppressed else .active name false))
    ∧ (∀ front between rest key creates name created given,
      log [] calls = front ++ (.request key creates, .identifier (.active name created))
        :: between ++ (.name key, given) :: rest →
      given = .name (if (.suppress key, .done) ∈ between then none else some name))
    ∧ ((log [] calls).Pairwise fun e e' => ∀ key, Creates key e → ¬ Creates key e')
    ∧ (∀ (r : Registry) key, (r.answer (.request key false)).2 = r)
    ∧ (∀ (r : Registry) key, (r.answer (.suppress key)).1 = .missing →
      (r.answer (.suppress key)).2 = r)
    ∧ (∀ file, (log [] calls).filter (fun entry => entry.1.file == file)
      = log [] (calls.filter fun call => call.file == file))
    ∧ (∀ ns file, (log [] calls).filter (fun entry => entry.1.concerns ns file)
      = log [] (calls.filter fun call => call.concerns ns file))
    ∧ ∀ (r : Registry) key call,
      (∀ other, call.key? = some other → ¬ (other.ns = key.ns ∧ other.file = key.file)) →
      (r.answer call).2.statusOf key = r.statusOf key := by
  refine ⟨?_, ?_, pairwise_log [] calls, fun r key => ?_, fun r key hmissing => ?_, fun file => ?_,
    fun ns file => ?_, fun r key call hother => ?_⟩
  · intro front between rest key creates creates' name created given hlog
    rw [List.append_assoc] at hlog
    obtain ⟨before, others, -, -, hgiven, hlog⟩ := exists_of_log_eq_append_cons hlog
    exact eq_of_log_eq_append_request (statusOf_of_answer hgiven) hlog
  · intro front between rest key creates name created given hlog
    rw [List.append_assoc] at hlog
    obtain ⟨before, others, -, -, hgiven, hlog⟩ := exists_of_log_eq_append_cons hlog
    exact eq_of_log_eq_append_name (statusOf_of_answer hgiven) hlog
  · cases hkey : r.statusOf key with
    | some e => rw [answer_request_of_some hkey]
    | none => rw [answer_request_false hkey]
  · cases hkey : r.statusOf key with
    | some e =>
      obtain ⟨r', -, hanswer⟩ := answer_suppress_of_some hkey
      rw [hanswer] at hmissing
      exact Answer.noConfusion hmissing
    | none => rw [answer_suppress_of_none hkey]
  · refine filter_log (fun call => call.file == file) (fun _ f => f = file) ?_ ?_
      (fun _ _ _ => rfl) calls
    · rintro (_ | _ | _ | _) key hfile hkey <;> simp_all [Call.key?, Call.file]
    · rintro call ns _ hfile rfl
      simp_all [Call.concerns]
  · refine filter_log (fun call => call.concerns ns file) (fun n f => n = ns ∧ f = file) ?_ ?_
      (fun _ _ _ => rfl) calls
    · intro call key hconcerns hkey
      exact ((Call.concerns_of_key? hkey).mp hconcerns).symm
    · rintro call _ _ hconcerns ⟨rfl, rfl⟩
      exact hconcerns
  · rw [statusOf_answer, if_neg, if_neg]
    · rintro rfl
      exact hother key rfl ⟨rfl, rfl⟩
    · rintro rfl
      exact hother key rfl ⟨rfl, rfl⟩

/-- A component that is asked for before and after its name is withdrawn, while the file gets
another convention. -/
def withdrawnName : List Call :=
  [.request (typeKey "pet_owner") true, .register "types" .pascal, .request (typeKey "owner") true,
    .suppress (typeKey "pet_owner"), .request (typeKey "pet_owner") true]

theorem log_stable_withdrawnName : ∃ given,
    log [] withdrawnName
      = [] ++ (.request (typeKey "pet_owner") true, .identifier (.active "pet_owner" true))
        :: [(.register "types" .pascal, .done),
          (.request (typeKey "owner") true, .identifier (.active "Owner" true)),
          (.suppress (typeKey "pet_owner"), .done)]
        ++ (.request (typeKey "pet_owner") true, given) :: []
      ∧ given = .identifier .suppressed :=
  have hlog : log [] withdrawnName
      = [] ++ (.request (typeKey "pet_owner") true, .identifier (.active "pet_owner" true))
        :: [(.register "types" .pascal, .done),
          (.request (typeKey "owner") true, .identifier (.active "Owner" true)),
          (.suppress (typeKey "pet_owner"), .done)]
        ++ (.request (typeKey "pet_owner") true, .identifier .suppressed) :: [] := by
    decide +kernel
  ⟨_, hlog, (log_stable withdrawnName).1 _ _ _ _ _ _ _ _ _ hlog⟩

/-! ### Files whose names are all made under one convention -/

section

variable {file pointer : String} {ns : Namespace} {convention : NamingConvention}

/-- A file has a convention, and so far all its names were made under it. -/
structure Uniform (r : Registry) (file : String) (convention : NamingConvention) : Prop where
  convention_eq : r.conventionOf file = convention
  made : ∀ {pointer ns e}, r.status? pointer ns file = some e →
    ∃ taken, e.name = uniqueName taken (baseName pointer convention)

lemma uniform_registerFile (h : ∀ pointer ns, r.status? pointer ns file = none)
    (convention : NamingConvention) : (r.registerFile file convention).Uniform file convention where
  convention_eq := by rw [conventionOf_registerFile, if_pos rfl]
  made := fun he => by
    rw [status?_registerFile, h] at he
    simp at he

namespace Uniform

variable (h : r.Uniform file convention)
include h

lemma registerFile_of_ne {file' : String} (hne : file ≠ file') (convention' : NamingConvention) :
    (r.registerFile file' convention').Uniform file convention where
  convention_eq := by rw [conventionOf_registerFile, if_neg hne, h.convention_eq]
  made := fun he => h.made (by rwa [status?_registerFile] at he)

lemma create (pointer : String) (ns : Namespace) (file' : String) :
    (r.create pointer ns file').2.Uniform file convention where
  convention_eq := by rw [conventionOf_create, h.convention_eq]
  made := by
    intro q other e he
    rw [status?_create] at he
    split at he
    · rename_i heq
      obtain ⟨rfl, rfl, rfl⟩ := heq
      obtain rfl : Entry.active _ = e := Option.some.inj he
      rw [← h.convention_eq]
      exact ⟨_, newName_eq r q other file⟩
    · exact h.made he

lemma request (pointer : String) (ns : Namespace) (file' : String) :
    (r.request pointer ns file' true).2.Uniform file convention := by
  rw [request_eq]
  split
  · exact h
  · exact h
  · exact h.create pointer ns file'

lemma suppress? {file' : String} (hr : r.suppress? pointer ns file' = some r') :
    r'.Uniform file convention where
  convention_eq := by rw [conventionOf_suppress? hr, h.convention_eq]
  made := by
    intro q other e he
    obtain ⟨e', he', hentry⟩ := status?_suppress? hr
    rw [hentry] at he
    split at he
    · rename_i heq
      obtain ⟨rfl, rfl, rfl⟩ := heq
      obtain rfl : Entry.suppressed _ = e := Option.some.inj he
      exact (h.made he' : ∃ taken, e'.name = _)
    · exact h.made he

/-- The name that answers a request is made under the convention. -/
lemma exists_taken {name : String}
    (hname : (r.request pointer ns file true).1.name? = some name) :
    ∃ taken, name = uniqueName taken (baseName pointer convention) :=
  (h.request pointer ns file).made (status?_request hname)

end Uniform

end

end OpenApiTypes.Output.Registry
