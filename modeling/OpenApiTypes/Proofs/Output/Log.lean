/-
What a registry of names answers in a whole sequence of calls.

* `Output.Registry.Call`, `Output.Registry.answer`: the calls on a registry, and what each of them
  answers and leaves behind;
* `Output.Registry.log`: the calls of a sequence with their answers;
* `Output.Registry.Change`: what one call does to a registry;
* `Output.Registry.statusOf_answer`: what it makes of what is known of a reference;
* `Output.Registry.distinct_after`: the names that a sequence of calls gives are distinct;
* `Output.Registry.log_distinct`: different references of a namespace never get names that are the
  same in small letters, and the search for each new name comes to an end.
-/
import OpenApiTypes.Proofs.Output.Registry

namespace OpenApiTypes.Output.Registry

/-! ### Calls -/

/-- A reference in one of the namespaces of a file. -/
@[ext]
structure Key where
  pointer : String
  ns : Namespace
  file : String
deriving DecidableEq, Repr

/-- A call on a registry. -/
inductive Call where
  /-- Sets the convention of names created in a file. -/
  | register (file : String) (convention : NamingConvention)
  /-- Asks for the name of a reference, and may create it. -/
  | request (key : Key) (creates : Bool)
  /-- Asks for the name of a reference that has one. -/
  | name (key : Key)
  /-- Withdraws the name of a reference. -/
  | suppress (key : Key)
deriving DecidableEq, Repr

/-- What a call is answered. -/
inductive Answer where
  | done
  | identifier (identifier : Identifier)
  | name (name? : Option String)
  /-- There is no name to withdraw. -/
  | missing
deriving DecidableEq, Repr

namespace Call

/-- The reference that a call is about. -/
def key? : Call → Option Key
  | register _ _ => none
  | request key _ | name key | suppress key => some key

/-- The file that a call is about. -/
def file : Call → String
  | register file _ => file
  | request key _ | name key | suppress key => key.file

/-- Whether a call is about a namespace of a file. The convention of a file is that of all its
namespaces. -/
def concerns (call : Call) (ns : Namespace) (file : String) : Bool :=
  call.file == file && (call.key?.all fun key => key.ns == ns)

end Call

/-- What became of a reference. -/
def statusOf (r : Registry) (key : Key) : Option Entry := r.status? key.pointer key.ns key.file

/-- What a call is answered, and the registry after it. -/
def answer (r : Registry) : Call → Answer × Registry
  | .register file convention => (.done, r.registerFile file convention)
  | .request key creates =>
    let (identifier, r) := r.request key.pointer key.ns key.file creates
    (.identifier identifier, r)
  | .name key => (.name (r.name? key.pointer key.ns key.file), r)
  | .suppress key =>
    match r.suppress? key.pointer key.ns key.file with
    | some r => (.done, r)
    | none => (.missing, r)

/-- The registry after a sequence of calls. -/
def after (r : Registry) (calls : List Call) : Registry :=
  calls.foldl (fun r call => (r.answer call).2) r

/-- The calls of a sequence with their answers. -/
def log (r : Registry) : List Call → List (Call × Answer)
  | [] => []
  | call :: rest => (call, (r.answer call).1) :: log (r.answer call).2 rest

variable {r r' : Registry} {call : Call} {calls : List Call} {key : Key}

@[simp] lemma after_nil (r : Registry) : r.after [] = r := rfl

@[simp] lemma after_cons (r : Registry) (call : Call) (calls : List Call) :
    r.after (call :: calls) = (r.answer call).2.after calls := rfl

/-- Where a log is cut, the calls are cut. -/
lemma exists_of_log_eq_append {front rest : List (Call × Answer)}
    (h : r.log calls = front ++ rest) : ∃ before others, calls = before ++ others
      ∧ r.log before = front ∧ (r.after before).log others = rest := by
  induction front generalizing r calls with
  | nil => exact ⟨[], calls, rfl, rfl, h⟩
  | cons entry front ih =>
    cases calls with
    | nil => simp [log] at h
    | cons call calls =>
      obtain ⟨hentry, hrest⟩ := List.cons.inj h
      obtain ⟨before, others, rfl, hfront, hothers⟩ := ih hrest
      exact ⟨call :: before, others, rfl, by rw [log, hfront, hentry], hothers⟩

/-- An entry of a log is the answer of a registry that was reached. -/
lemma exists_of_log_eq_append_cons {front rest : List (Call × Answer)} {given : Answer}
    (h : r.log calls = front ++ (call, given) :: rest) : ∃ before others,
      calls = before ++ call :: others ∧ r.log before = front
        ∧ ((r.after before).answer call).1 = given
        ∧ ((r.after before).answer call).2.log others = rest := by
  obtain ⟨before, others, rfl, hfront, hothers⟩ := exists_of_log_eq_append h
  cases others with
  | nil => simp [log] at hothers
  | cons first others =>
    obtain ⟨hentry, hrest⟩ := List.cons.inj hothers
    obtain ⟨rfl, hgiven⟩ := Prod.mk.inj hentry
    exact ⟨before, others, rfl, hfront, hgiven, hrest⟩

/-! ### One call -/

/-- What a request is answered when the reference is known. -/
def identifierOf : Entry → Identifier
  | .active name => .active name false
  | .suppressed _ => .suppressed

/-- A request for a known reference is answered by what is known. -/
lemma answer_request_of_some {e : Entry} (h : r.statusOf key = some e) (creates : Bool) :
    r.answer (.request key creates) = (.identifier (identifierOf e), r) := by
  rw [statusOf] at h
  cases e <;> simp [answer, request, h, identifierOf]

/-- The first request that may create a name is answered by a new one. -/
lemma answer_request_of_none (h : r.statusOf key = none) : r.answer (.request key true)
    = (.identifier (.active (r.newName key.pointer key.ns key.file) true),
      (r.create key.pointer key.ns key.file).2) := by
  rw [statusOf] at h
  simp [answer, request, h, newName]

lemma answer_request_false (h : r.statusOf key = none) :
    r.answer (.request key false) = (.identifier .unresolved, r) := by
  rw [statusOf] at h
  simp [answer, request, h]

lemma answer_suppress_of_none (h : r.statusOf key = none) :
    r.answer (.suppress key) = (.missing, r) := by
  cases hr : r.suppress? key.pointer key.ns key.file with
  | none => simp [answer, hr]
  | some r' =>
    obtain ⟨e, he, -⟩ := status?_suppress? hr
    rw [statusOf, he] at h
    simp at h

/-- A name that was given can be withdrawn. -/
lemma answer_suppress_of_some {e : Entry} (h : r.statusOf key = some e) : ∃ r',
    r.suppress? key.pointer key.ns key.file = some r' ∧ r.answer (.suppress key) = (.done, r') := by
  obtain ⟨r', hr⟩ := exists_suppress? h
  exact ⟨r', hr, by simp [answer, hr]⟩

lemma statusOf_create (r : Registry) (key other : Key) :
    (r.create other.pointer other.ns other.file).2.statusOf key = if other = key then
      some (.active (r.newName key.pointer key.ns key.file)) else r.statusOf key := by
  rw [statusOf, status?_create]
  by_cases h : other = key
  · simp [h]
  · rw [if_neg fun hkey => h (Key.ext hkey.2.2.symm hkey.2.1.symm hkey.1.symm), if_neg h, statusOf]

lemma statusOf_suppress? {other : Key}
    (h : r.suppress? other.pointer other.ns other.file = some r') (key : Key) :
    r'.statusOf key = if other = key then (r.statusOf key).map fun e => .suppressed e.name
      else r.statusOf key := by
  obtain ⟨e, he, hstatus⟩ := status?_suppress? h
  rw [statusOf, hstatus]
  by_cases hother : other = key
  · subst hother
    simp [statusOf, he]
  · rw [if_neg fun hkey => hother (Key.ext hkey.2.2.symm hkey.2.1.symm hkey.1.symm), if_neg hother,
      statusOf]

/-- What a call does to a registry. -/
inductive Change (r : Registry) : Call → Registry → Prop where
  | nothing {call : Call} (hregister : ∀ file convention, call ≠ .register file convention)
      (hrequest : ∀ {key}, call = .request key true → r.statusOf key ≠ none)
      (hsuppress : ∀ {key}, call = .suppress key → r.statusOf key = none) : Change r call r
  | registered (file : String) (convention : NamingConvention) :
      Change r (.register file convention) (r.registerFile file convention)
  | created {key : Key} (h : r.statusOf key = none) :
      Change r (.request key true) (r.create key.pointer key.ns key.file).2
  | withdrawn {key : Key} {r' : Registry}
      (h : r.suppress? key.pointer key.ns key.file = some r') : Change r (.suppress key) r'

lemma change_answer (r : Registry) (call : Call) : Change r call (r.answer call).2 := by
  cases call with
  | register file convention => exact .registered file convention
  | name key => exact .nothing (by simp) (by simp) (by simp)
  | request key creates =>
    cases hkey : r.statusOf key with
    | some e =>
      rw [answer_request_of_some hkey]
      exact .nothing (by simp) (by simp [hkey]) (by simp)
    | none =>
      cases creates with
      | false =>
        rw [answer_request_false hkey]
        exact .nothing (by simp) (by simp) (by simp)
      | true =>
        rw [answer_request_of_none hkey]
        exact .created hkey
  | suppress key =>
    cases hkey : r.statusOf key with
    | none =>
      rw [answer_suppress_of_none hkey]
      exact .nothing (by simp) (by simp) (by simp [hkey])
    | some e =>
      obtain ⟨r', hr, hanswer⟩ := answer_suppress_of_some hkey
      rw [hanswer]
      exact .withdrawn hr

/-- What a call makes of what is known of a reference: a first request gives it a name, and only a
call to withdraw that name changes anything after that. -/
lemma statusOf_answer (r : Registry) (call : Call) (key : Key) :
    (r.answer call).2.statusOf key =
      if call = .suppress key then (r.statusOf key).map fun e => .suppressed e.name
      else if call = .request key true then
        some ((r.statusOf key).getD (.active (r.newName key.pointer key.ns key.file)))
      else r.statusOf key := by
  have h := change_answer r call
  generalize (r.answer call).2 = r' at h
  cases h with
  | nothing hregister hrequest hsuppress =>
    split_ifs with hcall hcall'
    · simp [hsuppress hcall]
    · obtain ⟨e, he⟩ := Option.ne_none_iff_exists'.mp (hrequest hcall')
      simp [he]
    · rfl
  | registered file convention => simp [statusOf]
  | @created other hother =>
    rw [statusOf_create]
    by_cases hkey : other = key
    · subst hkey
      simp [hother]
    · simp [hkey]
  | @withdrawn other _ hr =>
    rw [statusOf_suppress? hr]
    by_cases hkey : other = key <;> simp [hkey]

/-! ### Different names -/

lemma Distinct.answer {ns : Namespace} {file : String} (h : r.Distinct ns file) (call : Call) :
    (r.answer call).2.Distinct ns file := by
  have hchange := change_answer r call
  generalize (r.answer call).2 = r' at hchange
  cases hchange with
  | nothing => exact h
  | registered file' convention => exact h.registerFile file' convention
  | @created key _ => exact h.create key.pointer key.ns key.file
  | withdrawn hr => exact h.suppress? hr

lemma Distinct.after {ns : Namespace} {file : String} (h : r.Distinct ns file)
    (calls : List Call) : (r.after calls).Distinct ns file := by
  induction calls generalizing r with
  | nil => exact h
  | cons call calls ih => exact ih (h.answer call)

/-- The names that a sequence of calls gives are distinct. -/
lemma distinct_after (calls : List Call) (ns : Namespace) (file : String) :
    (after [] calls).Distinct ns file :=
  (distinct_nil ns file).after calls

/-- A name that was given stays that of its reference, withdrawn or not. -/
lemma exists_name_answer {e : Entry} (h : r.statusOf key = some e) (call : Call) :
    ∃ e', (r.answer call).2.statusOf key = some e' ∧ e'.name = e.name := by
  rw [statusOf_answer, h]
  split_ifs
  · exact ⟨_, rfl, rfl⟩
  · exact ⟨_, rfl, rfl⟩
  · exact ⟨_, rfl, rfl⟩

lemma exists_name_after {e : Entry} (h : r.statusOf key = some e) (calls : List Call) :
    ∃ e', (r.after calls).statusOf key = some e' ∧ e'.name = e.name := by
  induction calls generalizing r e with
  | nil => exact ⟨e, h, rfl⟩
  | cons call calls ih =>
    obtain ⟨e', he', hname⟩ := exists_name_answer h call
    obtain ⟨e'', he'', hname'⟩ := ih he'
    exact ⟨e'', he'', hname'.trans hname⟩

/-- A name that answers a request is that of the reference. -/
lemma statusOf_of_answer {creates created : Bool} {name : String}
    (h : (r.answer (.request key creates)).1 = .identifier (.active name created)) :
    (r.answer (.request key creates)).2.statusOf key = some (.active name) := by
  cases hkey : r.statusOf key with
  | some e =>
    rw [answer_request_of_some hkey] at h ⊢
    cases e with
    | active given =>
      obtain ⟨rfl, -⟩ : given = name ∧ _ := by simpa [identifierOf] using h
      exact hkey
    | suppressed given => simp [identifierOf] at h
  | none =>
    cases creates with
    | false => simp [answer_request_false hkey] at h
    | true =>
      rw [answer_request_of_none hkey] at h ⊢
      obtain ⟨rfl, -⟩ : r.newName key.pointer key.ns key.file = name ∧ _ := by simpa using h
      rw [statusOf_create, if_pos rfl]

/-- A name that a sequence of calls gave is that of its reference afterwards. -/
lemma exists_name_of_mem_log {creates created : Bool} {name : String}
    (h : (.request key creates, .identifier (.active name created)) ∈ r.log calls) :
    ∃ e, (r.after calls).statusOf key = some e ∧ e.name = name := by
  obtain ⟨front, rest, hlog⟩ := List.append_of_mem h
  obtain ⟨before, others, rfl, -, hgiven, -⟩ := exists_of_log_eq_append_cons hlog
  obtain ⟨e, he, hname⟩ := exists_name_after (statusOf_of_answer hgiven) others
  exact ⟨e, by rwa [after, List.foldl_append], hname⟩

/-! ### New names -/

/-- A name that a request creates is the one the reference is given at that time. -/
lemma newName_of_request {pointer file name : String} {ns : Namespace} {creates : Bool}
    (h : (r.request pointer ns file creates).1 = .active name true) :
    r.newName pointer ns file = name := by
  cases hstatus : r.status? pointer ns file with
  | none =>
    cases creates with
    | true => simpa [request_eq, hstatus] using h
    | false => simp [request, hstatus] at h
  | some e => cases e <;> simp [request, hstatus] at h

/-- The convention of names created in a file. -/
def conventionOf (r : Registry) (file : String) : NamingConvention :=
  ((r.get? file).getD { convention := .preserve }).convention

/-- How a name comes about: it is the base, unless that is taken, and then what the search through
the base with numbers from two on comes to. -/
def Chosen (taken : List String) (base name : String) : Prop :=
  if isTaken taken base then
    Naming.Search (isTaken taken) (fun n => base ++ toString n) 2 name
  else name = base

lemma chosen_uniqueName (taken : List String) (base : String) :
    Chosen taken base (uniqueName taken base) := by
  unfold Chosen uniqueName
  split_ifs
  · exact Naming.search_firstFree Text.lowercase (Text.lowercase_append_number_injective base)
      (by simp [isTaken])
  · rfl

/-- Different references of a namespace of a file are given names that differ even in small
letters, whatever was withdrawn and whichever conventions were set in between. The search for a new
name comes to an end. -/
theorem log_distinct (calls : List Call) :
    (∀ key key' creates creates' created created' name name',
      key.ns = key'.ns → key.file = key'.file → key.pointer ≠ key'.pointer →
      (.request key creates, .identifier (.active name created)) ∈ log [] calls →
      (.request key' creates', .identifier (.active name' created')) ∈ log [] calls →
      Text.lowercase name ≠ Text.lowercase name')
    ∧ ∀ key, (after [] calls).statusOf key = none →
      ∃ name, ((after [] calls).answer (.request key true)).1 = .identifier (.active name true)
        ∧ Chosen ((after [] calls).scopeOf key.ns key.file).taken
          (baseName key.pointer ((after [] calls).conventionOf key.file)) name := by
  refine ⟨?_, fun key hkey => ?_⟩
  · intro key key' creates creates' created created' name name' hns hfile hpointer h h' hsame
    obtain ⟨e, he, rfl⟩ := exists_name_of_mem_log h
    obtain ⟨e', he', rfl⟩ := exists_name_of_mem_log h'
    rw [statusOf, ← hns, ← hfile] at he'
    exact hpointer ((distinct_after calls key.ns key.file).pointer_eq he he' hsame)
  · refine ⟨_, congrArg Prod.fst (answer_request_of_none hkey), ?_⟩
    rw [newName_eq]
    exact chosen_uniqueName _ _

/-- A reference to a component in the types of a file. -/
def typeKey (name : String) : Key := ⟨"#/components/schemas/" ++ name, .type, "types"⟩

/-- Components whose names differ in capitals or by a number. One name is withdrawn, and the
convention of the file changes. -/
def similarNames : List Call :=
  [.register "types" .pascal, .request (typeKey "pet") true, .request (typeKey "PET") true,
    .suppress (typeKey "PET"), .register "types" .camel, .request (typeKey "pet2") true,
    .request (typeKey "pet2") false]

theorem log_distinct_similarNames :
    (.request (typeKey "PET") true, .identifier (.active "Pet2" true)) ∈ log [] similarNames
      ∧ (.request (typeKey "pet2") false, .identifier (.active "pet22" false))
        ∈ log [] similarNames
      ∧ Text.lowercase "Pet2" ≠ Text.lowercase "pet22" := by
  have hfirst : (.request (typeKey "PET") true, .identifier (.active "Pet2" true))
      ∈ log [] similarNames := by decide +kernel
  have hsecond : (.request (typeKey "pet2") false, .identifier (.active "pet22" false))
      ∈ log [] similarNames := by decide +kernel
  have hpointer : (typeKey "PET").pointer ≠ (typeKey "pet2").pointer := by decide
  exact ⟨hfirst, hsecond, (log_distinct similarNames).1 (typeKey "PET") (typeKey "pet2") _ _ _ _ _ _
    rfl rfl hpointer hfirst hsecond⟩

end OpenApiTypes.Output.Registry
