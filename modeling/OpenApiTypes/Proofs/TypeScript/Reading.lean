/-
Single types read back from their text.

* `TypeScript.EndsType`: what may stand after a type, so that nothing goes on with it;
* `TypeScript.isTypeName`: names that are not taken for anything else;
* `TypeScript.readPrimary_reference`, `TypeScript.readPrimary_object` and so on: each type that no
  sign can take apart is read from its text, if the types inside it are;
* `TypeScript.continuesNumber_of_ofChars?`: the characters of numbers as JSON has them.
-/
import OpenApiTypes.Number.Numeral
import OpenApiTypes.Proofs.TypeScript.Reader
import OpenApiTypes.TypeScript.Build

namespace OpenApiTypes.TypeScript

open OpenApiTypes.Text

/-! ### What may come next -/

/-- What may stand after a word or a number. -/
structure Stops (r : List Char) : Prop where
  word : ∀ c ∈ r.head?, continuesIdentifier c = false
  number : ∀ c ∈ r.head?, continuesNumber c = false
  arguments : stripPrefix? ['<'] r = none

/-- What may stand after a member of an intersection. -/
structure EndsOperand (r : List Char) : Prop extends Stops r where
  array : stripPrefix? ['[', ']'] r = none

/-- What may stand after a member of a union. -/
structure EndsPart (r : List Char) : Prop extends EndsOperand r where
  intersection : stripPrefix? " & ".toList r = none

/-- What may stand after a type. -/
structure EndsType (r : List Char) : Prop extends EndsPart r where
  union : stripPrefix? " | ".toList r = none

section

variable {c : Char} (r : List Char)

/-- The signs after which nothing goes on with a type. -/
def closers : List Char := [',', '>', ']', ')', ';']

lemma stops_cons (h : c ∈ ' ' :: '[' :: closers) : Stops (c :: r) := by
  simp only [closers, List.mem_cons, List.not_mem_nil, or_false] at h
  rcases h with rfl | rfl | rfl | rfl | rfl | rfl | rfl <;>
    exact ⟨by simp; decide, by simp; decide, rfl⟩

lemma endsType_nil : EndsType [] :=
  { word := by simp, number := by simp, arguments := rfl, array := rfl, intersection := rfl,
    union := rfl }

lemma endsType_cons (h : c ∈ closers) : EndsType (c :: r) := by
  have hstops : Stops (c :: r) := stops_cons r (by simp [h])
  simp only [closers, List.mem_cons, List.not_mem_nil, or_false] at h
  rcases h with rfl | rfl | rfl | rfl | rfl <;>
    exact { hstops with array := rfl, intersection := rfl, union := rfl }

/-- A name after a blank does not go on with a type. -/
lemma endsType_blank (h : beginsIdentifier c = true) : EndsType (' ' :: c :: r) := by
  have hne : '&' ≠ c ∧ '|' ≠ c := by
    constructor <;> rintro rfl <;> exact absurd h (by decide)
  exact { stops_cons (c := ' ') (c :: r) (by decide) with
    array := rfl
    intersection := by simp [stripPrefix?, hne.1]
    union := by simp [stripPrefix?, hne.2] }

lemma endsPart_bar : EndsPart (" | ".toList ++ r) :=
  { stops_cons (c := ' ') _ (by decide) with array := rfl, intersection := rfl }

lemma endsOperand_ampersand : EndsOperand (" & ".toList ++ r) :=
  { stops_cons (c := ' ') _ (by decide) with array := rfl }

end

/-! ### Single types -/

/-- Whether a name is not taken for anything else: an identifier that is no keyword, `null` among
them, and neither `true` nor `false`. -/
def isTypeName (name : String) : Bool :=
  isIdentifier name && (Keyword.ofText? name).isNone && name != "true" && name != "false"

section

variable {inner : ℕ → Reader TypeExpr} {k depth : ℕ} {r : List Char} {name : String}
  {t : TypeExpr} {ts : List TypeExpr}

/-- A type is read where it stands inside another one. -/
def ReadBy (inner : ℕ → Reader TypeExpr) (depth : ℕ) (t : TypeExpr) : Prop :=
  ∀ r, EndsType r → inner depth ((t.text depth).toList ++ r) = some (t, r)

/-- A list of types is read in front of the sign that ends it. -/
lemma separated_typesText (hts : ∀ t ∈ ts, ReadBy inner depth t) (hne : ts ≠ [])
    (hk : ts.length ≤ k) {c : Char} (hc : c ∈ closers) (hcomma : c ≠ ',') (r : List Char) :
    separated ", ".toList (inner depth) k ((typesText depth ", " ts).toList ++ c :: r)
      = some (ts, c :: r) := by
  rw [toList_typesText]
  refine separated_intercalate hts (fun r => endsType_cons _ (by decide)) (endsType_cons r hc) ?_
    hne hk
  simp [stripPrefix?, hcomma.symm]

/-- A word is told by its first character. -/
lemma readPrimary_word (h : isIdentifier name = true)
    (hr : ∀ c ∈ r.head?, continuesIdentifier c = false) :
    readPrimary inner k depth (name.toList ++ r) = readWord inner k depth name r := by
  have hwhile := readWhile_append (forall_continuesIdentifier h) hr
  obtain ⟨c, rest, heq, hc, -⟩ := isIdentifier_iff.mp h
  rw [heq, List.cons_append] at hwhile ⊢
  rw [readPrimary, if_pos hc, hwhile]

lemma readPrimary_keyword (keyword : Keyword) (hr : Stops r) :
    readPrimary inner k depth (keyword.text.toList ++ r) = some (.keyword keyword, r) := by
  have hword : isIdentifier keyword.text = true := by cases keyword <;> decide
  have hkeyword : Keyword.ofText? keyword.text = some keyword := by cases keyword <;> decide
  rw [readPrimary_word hword hr.word, readWord, hkeyword]

lemma readPrimary_boolean (b : Bool) (hr : Stops r) :
    readPrimary inner k depth ((Literal.boolean b).text.toList ++ r)
      = some (.literal (.boolean b), r) := by
  cases b with
  | false =>
    have hkeyword : Keyword.ofText? "false" = none := by decide
    rw [Literal.text, readPrimary_word (by decide) hr.word, readWord, hkeyword]
    rfl
  | true =>
    have hkeyword : Keyword.ofText? "true" = none := by decide
    rw [Literal.text, readPrimary_word (by decide) hr.word, readWord, hkeyword]
    rfl

lemma readPrimary_string (s : String) (r : List Char) :
    readPrimary inner k depth ((Literal.string s).text.toList ++ r)
      = some (.literal (.string s), r) := by
  have htext : (Literal.string s).text.toList ++ r
      = '\'' :: (s.toList.flatMap quotedChar ++ '\'' :: r) := by
    simp [Literal.text, quote]
  rw [htext, readPrimary, if_neg (by decide), if_neg (by decide), if_pos rfl, readQuoted_flatMap]
  simp

lemma readPrimary_reference (hname : isTypeName name = true) (hts : ∀ t ∈ ts, ReadBy inner depth t)
    (hk : ts.length ≤ k) (hr : Stops r) :
    readPrimary inner k depth (((TypeExpr.reference name ts).text depth).toList ++ r)
      = some (.reference name ts, r) := by
  simp only [isTypeName, Bool.and_eq_true, Option.isNone_iff_eq_none, bne_iff_ne] at hname
  obtain ⟨⟨⟨hidentifier, hkeyword⟩, htrue⟩, hfalse⟩ := hname
  have hword (r : List Char) : readWord inner k depth name r
      = (readArguments inner k depth r).bind fun x => some (.reference name x.1, x.2) := by
    rw [readWord, hkeyword]
    simp only [if_neg htrue, if_neg hfalse]
    rfl
  cases ts with
  | nil =>
    rw [TypeExpr.text, readPrimary_word hidentifier hr.word, hword, readArguments, hr.arguments]
    rfl
  | cons t ts =>
    have htext : ((TypeExpr.reference name (t :: ts)).text depth).toList ++ r
        = name.toList ++ '<' :: ((typesText depth ", " (t :: ts)).toList ++ '>' :: r) := by
      simp [TypeExpr.text]
    have hlist := separated_typesText hts (List.cons_ne_nil t ts) hk (c := '>') (by decide)
      (by decide) r
    rw [htext, readPrimary_word hidentifier (by simp; decide), hword, readArguments]
    simp only [stripPrefix?, beq_self_eq_true, if_true, hlist, Option.bind_eq_bind,
      Option.bind_some]

lemma readPrimary_tuple (hclose : inner depth (']' :: r) = none)
    (hts : ∀ t ∈ ts, ReadBy inner depth t) (hk : ts.length ≤ k) :
    readPrimary inner k depth (((TypeExpr.tuple ts).text depth).toList ++ r)
      = some (.tuple ts, r) := by
  have htext : ((TypeExpr.tuple ts).text depth).toList ++ r
      = '[' :: ((typesText depth ", " ts).toList ++ ']' :: r) := by
    simp [TypeExpr.text]
  rw [htext, readPrimary, if_neg (by decide), if_neg (by decide), if_neg (by decide), if_pos rfl,
    readTuple]
  cases ts with
  | nil => simp [typesText, separated_none hclose, stripPrefix?]
  | cons t ts =>
    have hlist := separated_typesText hts (List.cons_ne_nil t ts) hk (c := ']') (by decide)
      (by decide) r
    simp only [stripPrefix?, beq_self_eq_true, if_true, hlist, Option.some_or, Option.bind_eq_bind,
      Option.bind_some]

/-- A type in parentheses is the type itself. -/
lemma readPrimary_parenthesized (ht : ReadBy inner depth t) (r : List Char) :
    readPrimary inner k depth ('(' :: ((t.text depth).toList ++ ')' :: r)) = some (t, r) := by
  rw [readPrimary, if_neg (by decide), if_neg (by decide), if_neg (by decide), if_neg (by decide),
    if_neg (by decide), if_pos rfl, readEnclosed, ht _ (endsType_cons r (by decide))]
  simp [stripPrefix?]

/-- The type of the members of a constant begins as if a type named `typeof` were in parentheses,
but a name follows it. -/
lemma readPrimary_valueOf (htypeof : ReadBy inner depth (named "typeof"))
    (hname : isTypeName name = true) (r : List Char) :
    readPrimary inner k depth (((TypeExpr.valueOf name).text depth).toList ++ r)
      = some (.valueOf name, r) := by
  simp only [isTypeName, Bool.and_eq_true] at hname
  obtain ⟨c, rest, heq, hc, -⟩ := isIdentifier_iff.mp hname.1.1.1
  set tail := (")[keyof typeof " ++ name ++ "]").toList ++ r with htail
  have htext : ((TypeExpr.valueOf name).text depth).toList ++ r
      = '(' :: ("typeof".toList ++ ' ' :: (name.toList ++ tail)) := by
    simp [TypeExpr.text, htail]
  have hends : EndsType (' ' :: (name.toList ++ tail)) := heq ▸ endsType_blank (rest ++ tail) hc
  have hinner : inner depth ("typeof".toList ++ ' ' :: (name.toList ++ tail))
      = some (named "typeof", ' ' :: (name.toList ++ tail)) :=
    htypeof _ hends
  have hstrip (cs : List Char) : stripPrefix? "typeof ".toList ("typeof".toList ++ ' ' :: cs)
      = some cs :=
    stripPrefix?_append "typeof ".toList cs
  have hblank (cs : List Char) : stripPrefix? [')'] (' ' :: cs) = none := rfl
  have hwhile : readWhile continuesIdentifier (name.toList ++ tail) = (name, tail) :=
    readWhile_append (forall_continuesIdentifier hname.1.1.1) (by simp [htail]; decide)
  have hend : stripPrefix? (")[keyof typeof " ++ name ++ "]").toList tail = some r :=
    stripPrefix?_append _ r
  rw [htext, readPrimary, if_neg (by decide), if_neg (by decide), if_neg (by decide),
    if_neg (by decide), if_neg (by decide), if_pos rfl, readEnclosed]
  simp only [hinner, hblank, hstrip, hwhile, hend, Option.bind_eq_bind, Option.bind_some]

/-! ### Objects -/

/-- A deeper line is not taken for a less deep one that ends with something else than a blank. -/
lemma stripPrefix?_replicate {a b : Char} (hab : a ≠ b) (n k : ℕ) (r : List Char) :
    stripPrefix? (List.replicate (n + (k + 1)) a) (List.replicate n a ++ b :: r) = none := by
  induction n with
  | zero => simp [List.replicate_succ, stripPrefix?, hab]
  | succ n ih =>
    rw [Nat.add_right_comm, List.replicate_succ, List.replicate_succ, List.cons_append]
    simpa [stripPrefix?] using ih

lemma stripPrefix?_lineBreak (depth : ℕ) (r : List Char) :
    stripPrefix? (lineBreak (depth + 1)).toList ((lineBreak depth).toList ++ '\x7d' :: r)
      = none := by
  have := stripPrefix?_replicate (a := ' ') (b := '\x7d') (by decide) (4 * depth) 3 r
  simpa [lineBreak, stripPrefix?, Nat.mul_add] using this

/-- No member begins as an index signature does. -/
lemma stripPrefix?_key (readonly optional : Bool) (name : String) (r : List Char) :
    stripPrefix? "[key: string]: ".toList (((if readonly then "readonly " else "")
      ++ memberName name ++ (if optional then "?" else "") ++ ": ").toList ++ r) = none := by
  have hfirst (cs : List Char) :
      ∃ c rest, (memberName name).toList ++ cs = c :: rest ∧ '[' ≠ c := by
    rw [memberName]
    split_ifs with h
    · obtain ⟨c, rest, heq, hc, -⟩ := isIdentifier_iff.mp h
      refine ⟨c, rest ++ cs, by rw [heq, List.cons_append], ?_⟩
      rintro rfl
      exact absurd hc (by decide)
    · exact ⟨'\'', _, by rw [quote, String.toList_ofList]; rfl, by decide⟩
  cases readonly with
  | true => simp [stripPrefix?]
  | false =>
    simp only [Bool.false_eq_true, if_false, String.empty_append, String.toList_append,
      List.append_assoc]
    obtain ⟨c, rest, heq, hc⟩ := hfirst ((if optional then "?" else "").toList
      ++ (": ".toList ++ r))
    rw [heq]
    simp [stripPrefix?, hc]

/-- The members of an object type are read in front of a line that is less deep. -/
lemma readMembers_append {ps : List (Property TypeExpr)} {index : Option TypeExpr}
    (hcomments : ∀ p ∈ ps, p.comment = []) (hps : ∀ p ∈ ps, ReadBy inner depth p.type)
    (hindex : ∀ t ∈ index, ReadBy inner depth t) (hk : ps.length < k)
    (hr : stripPrefix? (lineBreak depth).toList r = none) :
    readMembers inner depth k
        ((propertiesText depth ps).toList ++ ((indexText depth index).toList ++ r))
      = some ((ps, index), r) := by
  induction ps generalizing k with
  | nil =>
    obtain ⟨k, rfl⟩ : ∃ j, k = j + 1 := ⟨k - 1, by simp at hk; omega⟩
    cases index with
    | none =>
      rw [readMembers]
      simp [propertiesText, indexText, hr]
    | some t =>
      have hsign : (indexText depth (some t)).toList ++ r = (lineBreak depth).toList
          ++ ("[key: string]: ".toList ++ ((t.text depth).toList ++ ';' :: r)) := by
        simp [indexText]
      rw [readMembers, propertiesText, String.toList_empty, List.nil_append, hsign]
      simp only [stripPrefix?_append, hindex t rfl _ (endsType_cons (c := ';') r (by decide)),
        Option.bind_eq_bind, Option.bind_some]
      rfl
  | cons p ps ih =>
    obtain ⟨k, rfl⟩ : ∃ j, k = j + 1 := ⟨k - 1, by simp at hk; omega⟩
    obtain ⟨name, optional, readonly, type, comment⟩ := p
    obtain ⟨hcomment, hplain⟩ := List.forall_mem_cons.mp hcomments
    obtain ⟨hp, hothers⟩ := List.forall_mem_cons.mp hps
    obtain rfl : comment = [] := hcomment
    have hrest := ih hplain hothers (Nat.lt_of_succ_lt_succ hk)
    set tail := (propertiesText depth ps).toList ++ ((indexText depth index).toList ++ r)
    have hmember : (propertiesText depth (⟨name, optional, readonly, type, []⟩ :: ps)).toList
        ++ ((indexText depth index).toList ++ r) = (lineBreak depth).toList
          ++ (((if readonly then "readonly " else "") ++ memberName name
            ++ (if optional then "?" else "") ++ ": ").toList
            ++ ((type.text depth).toList ++ ';' :: tail)) := by
      simp [propertiesText, commentBlock, tail]
    rw [readMembers, hmember]
    simp only [stripPrefix?_append, stripPrefix?_key, readHead_append,
      hp _ (endsType_cons tail (c := ';') (by decide)), Option.bind_eq_bind, Option.bind_some]
    simp only [stripPrefix?, beq_self_eq_true, if_true, hrest, Option.bind_some]

lemma text_object {ps : List (Property TypeExpr)} {index : Option TypeExpr}
    (h : ps ≠ [] ∨ index ≠ none) : (TypeExpr.object ps index).text depth
      = "\x7b" ++ propertiesText (depth + 1) ps ++ indexText (depth + 1) index
        ++ lineBreak depth ++ "\x7d" := by
  cases ps with
  | cons p ps => rw [TypeExpr.text]; simp
  | nil =>
    cases index with
    | some t => rw [TypeExpr.text]; simp
    | none => simp at h

/-- Something inside an object type begins with a new line. -/
lemma stripPrefix?_brace {ps : List (Property TypeExpr)} {index : Option TypeExpr}
    (h : ps ≠ [] ∨ index ≠ none) (r : List Char) :
    stripPrefix? ['\x7d']
        ((propertiesText depth ps).toList ++ ((indexText depth index).toList ++ r)) = none := by
  cases ps with
  | cons p ps =>
    obtain ⟨name, optional, readonly, type, comment⟩ := p
    simp [propertiesText, lineBreak, stripPrefix?]
  | nil =>
    cases index with
    | some t => simp [propertiesText, indexText, lineBreak, stripPrefix?]
    | none => simp at h

lemma readPrimary_object {ps : List (Property TypeExpr)} {index : Option TypeExpr}
    (hcomments : ∀ p ∈ ps, p.comment = []) (hps : ∀ p ∈ ps, ReadBy inner (depth + 1) p.type)
    (hindex : ∀ t ∈ index, ReadBy inner (depth + 1) t) (hk : ps.length < k) (r : List Char) :
    readPrimary inner k depth (((TypeExpr.object ps index).text depth).toList ++ r)
      = some (.object ps index, r) := by
  have hobject (cs : List Char) :
      readPrimary inner k depth ('\x7b' :: cs) = readObject inner k depth cs := by
    rw [readPrimary, if_neg (by decide), if_neg (by decide), if_neg (by decide),
      if_neg (by decide), if_pos rfl]
  by_cases h : ps = [] ∧ index = none
  · obtain ⟨rfl, rfl⟩ := h
    have htext : ((TypeExpr.object [] none).text depth).toList ++ r = '\x7b' :: '\x7d' :: r := by
      simp [TypeExpr.text]
    rw [htext, hobject, readObject]
    rfl
  · have hne : ps ≠ [] ∨ index ≠ none := Decidable.not_and_iff_or_not.mp h
    have htext : ((TypeExpr.object ps index).text depth).toList ++ r
        = '\x7b' :: ((propertiesText (depth + 1) ps).toList
          ++ ((indexText (depth + 1) index).toList
            ++ ((lineBreak depth).toList ++ '\x7d' :: r))) := by
      simp [text_object hne]
    have hmembers := readMembers_append hcomments hps hindex hk (stripPrefix?_lineBreak depth r)
    have hclose : stripPrefix? ((lineBreak depth).toList ++ ['\x7d'])
        ((lineBreak depth).toList ++ '\x7d' :: r) = some r := by
      simpa using stripPrefix?_append ((lineBreak depth).toList ++ ['\x7d']) r
    rw [htext, hobject, readObject, stripPrefix?_brace hne]
    simp only [hmembers, hclose, Option.bind_eq_bind, Option.bind_some]

end

/-! ### Numbers -/

section

open Numeral

variable {cs r : List Char}

/-- What follows the digits at the front decides. -/
lemma forall_continuesNumber_of_afterDigits
    (h : ∀ c ∈ afterDigits cs, continuesNumber c = true) : ∀ c ∈ cs, continuesNumber c = true := by
  intro c hc
  rw [← List.takeWhile_append_dropWhile (p := Char.isDigit) (l := cs)] at hc
  rcases List.mem_append.mp hc with hc | hc
  · simp [continuesNumber, List.all_eq_true.mp List.all_takeWhile c hc]
  · exact h c hc

lemma forall_continuesNumber_of_exponent? {e : Int} (h : exponent? cs = some (e, [])) :
    ∀ c ∈ cs, continuesNumber c = true := by
  unfold exponent? at h
  split at h
  rename_i sign rest hsign
  have hrest : ∀ c ∈ rest, continuesNumber c = true := by
    refine forall_continuesNumber_of_afterDigits ?_
    split at h
    · cases h
    · rw [(Prod.mk.inj (Option.some.inj h)).2]
      simp
  split at hsign
  · obtain ⟨-, rfl⟩ := Prod.mk.inj hsign
    exact List.forall_mem_cons.mpr ⟨by decide, hrest⟩
  · obtain ⟨-, rfl⟩ := Prod.mk.inj hsign
    exact List.forall_mem_cons.mpr ⟨by decide, hrest⟩
  · obtain ⟨-, rfl⟩ := Prod.mk.inj hsign
    exact hrest

lemma beginsIdentifier_of_isDigit {c : Char} (h : c.isDigit = true) :
    beginsIdentifier c = false := by
  change (decide (c.val ≥ '0'.val) && decide (c.val ≤ '9'.val)) = true at h
  change (((decide (c.val ≥ 'A'.val ∧ c.val ≤ 'Z'.val)
    || decide (c.val ≥ 'a'.val) && decide (c.val ≤ 'z'.val)) || c == '_') || c == '$') = false
  simp only [Bool.and_eq_true, decide_eq_true_eq, ge_iff_le, UInt32.le_iff_toNat_le] at h
  have hne : c ≠ '_' ∧ c ≠ '$' := by
    constructor <;> rintro rfl <;> exact absurd h (by decide)
  simp only [Bool.or_eq_false_iff, Bool.and_eq_false_iff, decide_eq_false_iff_not,
    beq_eq_false_iff_ne, ge_iff_le, UInt32.le_iff_toNat_le, hne, ne_eq, not_false_eq_true, and_true]
  have : 'A'.val.toNat = 0x41 := rfl
  have : 'a'.val.toNat = 0x61 := rfl
  have : '9'.val.toNat = 0x39 := rfl
  omega

/-- The characters of a number, of which the first is a digit or a sign. -/
lemma continuesNumber_of_ofChars? (h : (ofChars? cs).isSome = true) :
    (∃ c rest, cs = c :: rest ∧ beginsIdentifier c = false)
      ∧ ∀ c ∈ cs, continuesNumber c = true := by
  unfold ofChars? at h
  split at h
  rename_i negative rest hsign
  extract_lets whole after at h
  have hdigits : after = afterDigits rest := rfl
  clear_value after
  split at h
  · simp at h
  rename_i hwhole
  split at h
  rename_i fraction tail htail
  split at h
  · simp at h
  have hexponent : ∀ c ∈ tail, continuesNumber c = true := by
    rw [Option.isSome_map] at h
    split at h
    · simp
    · rename_i c r
      split at h
      · rename_i hc
        split at h
        · rename_i e he
          refine List.forall_mem_cons.mpr ⟨?_, forall_continuesNumber_of_exponent? he⟩
          rcases (Bool.or_eq_true _ _).mp hc with hc | hc <;> rw [beq_iff_eq.mp hc] <;> decide
        · simp at h
      · simp at h
  have hafter : ∀ c ∈ after, continuesNumber c = true := by
    split at htail
    · obtain ⟨-, rfl⟩ := Prod.mk.inj htail
      exact List.forall_mem_cons.mpr ⟨by decide, forall_continuesNumber_of_afterDigits hexponent⟩
    · obtain ⟨-, rfl⟩ := Prod.mk.inj htail
      exact hexponent
  have hall := forall_continuesNumber_of_afterDigits (hdigits ▸ hafter)
  have hfirst : ∃ c ds, rest = c :: ds ∧ c.isDigit = true := by
    cases rest with
    | nil => exact absurd rfl hwhole
    | cons c ds =>
      refine ⟨c, ds, rfl, ?_⟩
      by_contra hc
      simp [whole, leadingDigits, hc] at hwhole
  split at hsign
  · obtain ⟨-, rfl⟩ := Prod.mk.inj hsign
    exact ⟨⟨'-', _, rfl, by decide⟩, List.forall_mem_cons.mpr ⟨by decide, hall⟩⟩
  · obtain ⟨-, rfl⟩ := Prod.mk.inj hsign
    obtain ⟨c, ds, heq, hc⟩ := hfirst
    exact ⟨⟨c, ds, heq, beginsIdentifier_of_isDigit hc⟩, hall⟩

end

section

variable {inner : ℕ → Reader TypeExpr} {k depth : ℕ} {r : List Char}

lemma readPrimary_number {n : String} (hn : (Numeral.ofChars? n.toList).isSome = true)
    (hr : Stops r) :
    readPrimary inner k depth ((Literal.number n).text.toList ++ r)
      = some (.literal (.number n), r) := by
  obtain ⟨⟨c, rest, heq, hc⟩, hall⟩ := continuesNumber_of_ofChars? hn
  have hwhile := readWhile_append hall hr.number
  have hdigit : continuesNumber c = true := hall c (heq ▸ List.mem_cons_self)
  rw [Literal.text]
  rw [heq, List.cons_append] at hwhile ⊢
  rw [readPrimary, if_neg (by simp [hc]), if_pos hdigit, hwhile]

end

end OpenApiTypes.TypeScript
