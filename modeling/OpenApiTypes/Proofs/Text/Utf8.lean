/-
Texts as bytes, and back.

* `Utf8.Lead.Sound`: what is awaited is never a byte of ASCII, nor what comes of it;
* `Utf8.decodeFrom_encodeChar`: the bytes of a character are read as that character, whatever was
  awaited before them; `Utf8.decodeLossy_encode`: so the bytes of a text are read as that text,
  and `Utf8.suffix_decodeLossy`: those of the end of a text as that end, whatever stands before;
* `Utf8.countP_decodeLossy`: characters of ASCII are read from just as many bytes, whatever bytes
  stand between.
-/
import OpenApiTypes.Text.Utf8
import Mathlib.Tactic.Common

namespace OpenApiTypes.Utf8

/-! ### Bytes that are awaited -/

/-- What is awaited are bytes that only continue a character, and the character is beyond ASCII,
however small the bytes are. -/
structure Lead.Sound (p : Lead) : Prop where
  low : 0x80 ≤ p.low
  high : p.high ≤ 0xBF
  following : 1 ≤ p.following
  least : 2 ≤ p.bits * 64 + (p.low - 0x80)
  last : p.following = 1 → 0x80 ≤ p.bits * 64 + (p.low - 0x80)

/-- What is awaited is sound, if anything is. -/
def Sound (pending : Option Lead) : Prop := ∀ p, pending = some p → p.Sound

lemma sound_none : Sound none := fun _ h => by simp at h

lemma sound_of_lead? {b : ℕ} {p : Lead} (h : lead? b = some p) : p.Sound := by
  unfold lead? at h
  split_ifs at h <;> obtain rfl := Option.some.inj h <;> constructor <;> simp <;> omega

/-- What is awaited after one more byte of a character. -/
lemma Lead.Sound.next {p : Lead} (h : p.Sound) {b : ℕ} (hlow : p.low ≤ b)
    (hfollowing : p.following ≠ 1) :
    (Lead.mk (p.bits * 64 + (b - 0x80)) (p.following - 1) 0x80 0xBF).Sound := by
  have hbits : 2 ≤ p.bits * 64 + (b - 0x80) := by
    have := h.least
    omega
  refine ⟨Nat.le_refl _, Nat.le_refl _, ?_, ?_, fun _ => ?_⟩
  · have := h.following
    dsimp
    omega
  · dsimp
    omega
  · dsimp
    omega

/-! ### Steps -/

/-- What is said of bytes that were awaited and did not come. -/
def missed (pending : Option Lead) : List (Option Char) := if pending.isSome then [none] else []

variable {pending : Option Lead} {b : UInt8}

/-- A byte that was not awaited begins something new. -/
lemma step_of_not_awaited (hb : ∀ p, pending = some p → ¬ (p.low ≤ b.toNat ∧ b.toNat ≤ p.high)) :
    step pending b = (missed pending ++ (step none b).1, (step none b).2) := by
  cases pending with
  | none => rfl
  | some p => simp [step, missed, hb p rfl]

lemma step_ascii (h : Sound pending) (hb : b.toNat < 0x80) :
    step pending b = (missed pending ++ [some (Char.ofNat b.toNat)], none) := by
  rw [step_of_not_awaited fun p hp hin => by have := (h p hp).low; omega]
  simp [step, hb]

lemma step_lead {l : Lead} (h : Sound pending) (hb : 0xC0 ≤ b.toNat)
    (hl : lead? b.toNat = some l) : step pending b = (missed pending, some l) := by
  have hascii : ¬ b.toNat < 0x80 := by omega
  rw [step_of_not_awaited fun p hp hin => by have := (h p hp).high; omega]
  simp [step, hascii, hl]

lemma step_tail {p : Lead} (hlow : p.low ≤ b.toNat) (hhigh : b.toNat ≤ p.high) :
    step (some p) b = if p.following = 1
      then ([some (Char.ofNat (p.bits * 64 + (b.toNat - 0x80)))], none)
      else ([], some ⟨p.bits * 64 + (b.toNat - 0x80), p.following - 1, 0x80, 0xBF⟩) := by
  simp [step, hlow, hhigh]

/-- What is awaited stays sound. -/
lemma sound_step (h : Sound pending) (b : UInt8) : Sound (step pending b).2 := by
  have hstart : Sound (step none b).2 := by
    intro p hp
    simp only [step] at hp
    split_ifs at hp
    split at hp
    · rename_i hlead
      obtain rfl := Option.some.inj hp
      exact sound_of_lead? hlead
    · simp at hp
  by_cases hin : ∃ p, pending = some p ∧ p.low ≤ b.toNat ∧ b.toNat ≤ p.high
  · obtain ⟨p, rfl, hlow, hhigh⟩ := hin
    rw [step_tail hlow hhigh]
    split_ifs with hfollowing
    · exact sound_none
    · intro q hq
      obtain rfl := Option.some.inj hq
      exact (h p rfl).next hlow hfollowing
  · push Not at hin
    rw [step_of_not_awaited fun p hp hb => absurd (hin p hp hb.1) (by omega)]
    exact hstart

/-- A byte that completes nothing promises something. -/
lemma isSome_of_step {pending : Option Lead} {b : UInt8} (h : (step pending b).1 = []) :
    (step pending b).2.isSome = true := by
  unfold step at h ⊢
  grind

lemma decodeFrom_ne_nil {pending : Option Lead} {bytes : List UInt8}
    (h : bytes = [] → pending.isSome = true) : decodeFrom pending bytes ≠ [] := by
  induction bytes generalizing pending with
  | nil => simp [decodeFrom, h rfl]
  | cons b bytes ih =>
    rw [decodeFrom]
    intro hnil
    obtain ⟨hdone, hrest⟩ := List.append_eq_nil_iff.mp hnil
    exact ih (fun _ => isSome_of_step hdone) hrest

/-! ### Characters -/

lemma toNat_ofNat {n : ℕ} (h : n < 256) : (UInt8.ofNat n).toNat = n := by
  simp
  omega

section

variable {bits low high n x : ℕ} {l : Lead} (bytes : List UInt8)

lemma decodeFrom_lead (h : Sound pending) (hn : 0xC0 ≤ n) (hlt : n < 256) (hl : lead? n = some l) :
    decodeFrom pending (UInt8.ofNat n :: bytes)
      = missed pending ++ decodeFrom (some l) bytes := by
  have hbyte := toNat_ofNat hlt
  have hstep := step_lead h (b := UInt8.ofNat n) (l := l) (by omega) (by rw [hbyte, hl])
  rw [decodeFrom, hstep]

/-- A byte that is not the last one of its character. -/
lemma decodeFrom_tail (following : ℕ) (hlow : low ≤ x + 128) (hhigh : x + 128 ≤ high)
    (hx : x < 64) :
    decodeFrom (some ⟨bits, following + 2, low, high⟩) (UInt8.ofNat (x + 128) :: bytes)
      = decodeFrom (some ⟨bits * 64 + x, following + 1, 0x80, 0xBF⟩) bytes := by
  have hbyte : (UInt8.ofNat (x + 128)).toNat = x + 128 := toNat_ofNat (by omega)
  have hstep := step_tail (p := ⟨bits, following + 2, low, high⟩) (b := UInt8.ofNat (x + 128))
    (by rwa [hbyte]) (by rwa [hbyte])
  rw [decodeFrom, hstep, if_neg (by simp), hbyte, Nat.add_sub_cancel]
  rfl

/-- The last byte of a character. -/
lemma decodeFrom_last (hlow : low ≤ x + 128) (hhigh : x + 128 ≤ high) (hx : x < 64) :
    decodeFrom (some ⟨bits, 1, low, high⟩) (UInt8.ofNat (x + 128) :: bytes)
      = some (Char.ofNat (bits * 64 + x)) :: decodeFrom none bytes := by
  have hbyte : (UInt8.ofNat (x + 128)).toNat = x + 128 := toNat_ofNat (by omega)
  have hstep := step_tail (p := ⟨bits, 1, low, high⟩) (b := UInt8.ofNat (x + 128))
    (by rwa [hbyte]) (by rwa [hbyte])
  rw [decodeFrom, hstep, if_pos rfl, hbyte, Nat.add_sub_cancel]
  rfl

end

/-- The first byte of a character of three bytes. -/
lemma lead?_three {v : ℕ} (hmin : 0x7FF < v) (hmax : v ≤ 0xFFFF)
    (hvalid : v < 0xD800 ∨ 0xDFFF < v) : ∃ l, lead? (v / 4096 % 16 + 224) = some l
      ∧ l.bits = v / 4096 ∧ l.following = 2
      ∧ l.low ≤ v / 64 % 64 + 128 ∧ v / 64 % 64 + 128 ≤ l.high := by
  unfold lead?
  split_ifs <;> first
    | omega
    | exact ⟨_, rfl, by dsimp; omega, rfl, by dsimp; omega, by dsimp; omega⟩

/-- The first byte of a character of four bytes. -/
lemma lead?_four {v : ℕ} (hmin : 0xFFFF < v) (hmax : v < 0x110000) : ∃ l,
    lead? (v / 262144 % 8 + 240) = some l ∧ l.bits = v / 262144 ∧ l.following = 3
      ∧ l.low ≤ v / 4096 % 64 + 128 ∧ v / 4096 % 64 + 128 ≤ l.high := by
  unfold lead?
  split_ifs <;> first
    | omega
    | exact ⟨_, rfl, by dsimp; omega, rfl, by dsimp; omega, by dsimp; omega⟩

/-- The bytes of a character are read as that character, whatever was awaited before them. -/
lemma decodeFrom_encodeChar (h : Sound pending) (c : Char) (bytes : List UInt8) :
    decodeFrom pending (String.utf8EncodeChar c ++ bytes)
      = missed pending ++ some c :: decodeFrom none bytes := by
  have hchar : Char.ofNat c.val.toNat = c := Char.ofNat_toNat c
  have hvalid : c.val.toNat < 0xD800 ∨ 0xDFFF < c.val.toNat ∧ c.val.toNat < 0x110000 := c.valid
  unfold String.utf8EncodeChar
  generalize c.val.toNat = v at hchar hvalid
  subst hchar
  dsimp only
  split_ifs with hone htwo hthree
  · have hbyte : (UInt8.ofNat v).toNat = v := toNat_ofNat (by omega)
    have hstep := step_ascii h (b := UInt8.ofNat v) (by omega)
    simp [decodeFrom, hstep, hbyte]
  · have hlead : lead? (v / 64 % 32 + 192) = some ⟨v / 64, 1, 0x80, 0xBF⟩ := by
      have hbits : v / 64 % 32 + 192 - 0xC0 = v / 64 := by omega
      rw [lead?, if_pos (by omega), hbits]
    have hbits : v / 64 * 64 + v % 64 = v := by omega
    rw [List.cons_append, decodeFrom_lead _ h (by omega) (by omega) hlead, List.cons_append,
      decodeFrom_last _ (by omega) (by omega) (by omega), hbits, List.nil_append]
  · obtain ⟨⟨_, _, low, high⟩, hlead, rfl, rfl, hlow, hhigh⟩ :=
      lead?_three (v := v) (by omega) hthree (by omega)
    have hbits : (v / 4096 * 64 + v / 64 % 64) * 64 + v % 64 = v := by omega
    rw [List.cons_append, decodeFrom_lead _ h (by omega) (by omega) hlead, List.cons_append,
      decodeFrom_tail _ 0 hlow hhigh (by omega), List.cons_append,
      decodeFrom_last _ (by omega) (by omega) (by omega), hbits, List.nil_append]
  · obtain ⟨⟨_, _, low, high⟩, hlead, rfl, rfl, hlow, hhigh⟩ :=
      lead?_four (v := v) (by omega) (by omega)
    have hbits : ((v / 262144 * 64 + v / 4096 % 64) * 64 + v / 64 % 64) * 64 + v % 64 = v := by
      omega
    rw [List.cons_append, decodeFrom_lead _ h (by omega) (by omega) hlead, List.cons_append,
      decodeFrom_tail _ 1 hlow hhigh (by omega), List.cons_append,
      decodeFrom_tail _ 0 (by omega) (by omega) (by omega), List.cons_append,
      decodeFrom_last _ (by omega) (by omega) (by omega), hbits, List.nil_append]

/-- The bytes of a text are read as that text. -/
lemma decodeFrom_encode (cs : List Char) : decodeFrom none (encode cs) = cs.map some := by
  induction cs with
  | nil => rfl
  | cons c cs ih =>
    rw [encode, List.flatMap_cons, decodeFrom_encodeChar sound_none, ← encode, ih]
    rfl

lemma decodeLossy_encode (cs : List Char) : decodeLossy (encode cs) = cs := by
  rw [decodeLossy, decodeFrom_encode, List.map_map]
  exact List.map_id cs

/-- A text is read at the end of whatever bytes. -/
lemma suffix_decodeFrom {pending : Option Lead} (h : Sound pending) (bytes : List UInt8) (c : Char)
    (cs : List Char) :
    (c :: cs).map some <:+ decodeFrom pending (bytes ++ encode (c :: cs)) := by
  induction bytes generalizing pending with
  | nil =>
    rw [List.nil_append, encode, List.flatMap_cons, decodeFrom_encodeChar h, ← encode,
      decodeFrom_encode]
    exact List.suffix_append _ _
  | cons b bytes ih =>
    rw [List.cons_append, decodeFrom]
    exact (ih (sound_step h b)).trans (List.suffix_append _ _)

lemma suffix_decodeLossy (bytes : List UInt8) (cs : List Char) :
    cs <:+ decodeLossy (bytes ++ encode cs) := by
  cases cs with
  | nil => exact List.nil_suffix
  | cons c cs =>
    have hmap := (suffix_decodeFrom sound_none bytes c cs).map fun c => c.getD replacement
    rwa [List.map_map, show (fun c => c.getD replacement) ∘ some = id from rfl, List.map_id] at hmap

/-! ### Characters of ASCII -/

lemma encodeChar_of_lt {c : Char} (h : c.toNat < 0x80) :
    String.utf8EncodeChar c = [UInt8.ofNat c.toNat] :=
  if_pos (Nat.le_of_lt_succ h)

lemma ofNat_toNat_ofNat {c : Char} (h : c.toNat < 0x80) :
    Char.ofNat (UInt8.ofNat c.toNat).toNat = c := by
  rw [toNat_ofNat (by omega), Char.ofNat_toNat]

lemma toNat_ofNat_of_isValidChar {n : ℕ} (h : n.isValidChar) : (Char.ofNat n).toNat = n := by
  have hchar : Char.ofNat n = Char.ofNatAux n h := dif_pos h
  rw [hchar]
  rfl

lemma toNat_ofNat_toNat (b : UInt8) : (Char.ofNat b.toNat).toNat = b.toNat :=
  toNat_ofNat_of_isValidChar (.inl (by have := b.toNat_lt; omega))

/-- Different bytes are read as different characters. -/
lemma ofNat_toNat_eq_iff {b d : UInt8} : Char.ofNat b.toNat = Char.ofNat d.toNat ↔ b = d := by
  refine ⟨fun h => UInt8.toNat_inj.mp ?_, fun h => h ▸ rfl⟩
  rw [← toNat_ofNat_toNat, h, toNat_ofNat_toNat]

/-- A character beyond ASCII has only bytes beyond ASCII. -/
lemma le_of_mem_encodeChar {c : Char} (h : 0x80 ≤ c.toNat) {b : UInt8}
    (hb : b ∈ String.utf8EncodeChar c) : 0x80 ≤ b.toNat := by
  have hcode : ¬ c.val.toNat ≤ 0x7F := Nat.not_le_of_lt h
  unfold String.utf8EncodeChar at hb
  simp only [if_neg hcode] at hb
  split_ifs at hb <;> simp only [List.mem_cons, List.not_mem_nil, or_false] at hb <;>
    rcases hb with rfl | rfl | rfl | rfl <;> rw [toNat_ofNat (by omega)] <;> omega

/-- A byte of ASCII is the only one of its character. -/
lemma eq_of_mem_encodeChar {c : Char} (h : b ∈ String.utf8EncodeChar c) (hb : b.toNat < 0x80) :
    c = Char.ofNat b.toNat := by
  by_cases hc : c.toNat < 0x80
  · rw [encodeChar_of_lt hc] at h
    obtain rfl := List.mem_singleton.mp h
    rw [ofNat_toNat_ofNat hc]
  · have hle := le_of_mem_encodeChar (by omega) h
    omega

/-- A byte of ASCII at the beginning of a text is its first character. -/
lemma exists_of_encode_eq_cons {cs : List Char} {rest : List UInt8} (h : encode cs = b :: rest)
    (hb : b.toNat < 0x80) : ∃ ds, cs = Char.ofNat b.toNat :: ds ∧ rest = encode ds := by
  cases cs with
  | nil => simp [encode] at h
  | cons c cs =>
    rw [encode, List.flatMap_cons, ← encode] at h
    by_cases hc : c.toNat < 0x80
    · rw [encodeChar_of_lt hc] at h
      obtain ⟨rfl, rfl⟩ := List.cons.inj h
      exact ⟨cs, by rw [ofNat_toNat_ofNat hc], rfl⟩
    · obtain ⟨first, others, hfirst⟩ := List.exists_cons_of_ne_nil
        (String.utf8EncodeChar_ne_nil (c := c))
      rw [hfirst] at h
      obtain ⟨rfl, -⟩ := List.cons.inj h
      have hle := le_of_mem_encodeChar (by omega) (hfirst ▸ List.mem_cons_self)
      omega

section

variable {P : Char → Bool} (hP : ∀ c, P c = true → 0 < c.toNat ∧ c.toNat < 0x80)

include hP

lemma eq_false_of_le {n : ℕ} (hn : 0x80 ≤ n) : P (Char.ofNat n) = false := by
  refine Bool.eq_false_iff.mpr fun h => ?_
  obtain ⟨hpos, hlt⟩ := hP _ h
  by_cases hvalid : n.isValidChar
  · have hcode := toNat_ofNat_of_isValidChar hvalid
    omega
  · have hnull : Char.ofNat n = '\x00' := dif_neg hvalid
    rw [hnull] at hpos
    exact absurd hpos (by decide)

lemma replacement_eq_false : P replacement = false := eq_false_of_le hP (by decide)

/-- What is read at a byte beyond ASCII is not counted. -/
lemma eq_false_of_mem_step (h : Sound pending) (hb : 0x80 ≤ b.toNat) {c : Option Char}
    (hc : c ∈ (step pending b).1) : P (c.getD replacement) = false := by
  by_cases hin : ∃ p, pending = some p ∧ p.low ≤ b.toNat ∧ b.toNat ≤ p.high
  · obtain ⟨p, rfl, hlow, hhigh⟩ := hin
    rw [step_tail hlow hhigh] at hc
    split_ifs at hc with hfollowing
    · obtain rfl := List.mem_singleton.mp hc
      have hlast := (h p rfl).last hfollowing
      rw [Option.getD_some]
      exact eq_false_of_le hP (by omega)
    · simp at hc
  · push Not at hin
    rw [step_of_not_awaited fun p hp hb => absurd (hin p hp hb.1) (by omega)] at hc
    obtain rfl : c = none := by
      have hascii : ¬ b.toNat < 0x80 := by omega
      simp only [step, if_neg hascii, missed] at hc
      split at hc <;> split at hc <;> simp_all
    exact replacement_eq_false hP

/-- One byte is read as one character that is counted, or as none. -/
lemma countP_step (h : Sound pending) (b : UInt8) :
    ((step pending b).1.map fun c => c.getD replacement).countP P
      = if P (Char.ofNat b.toNat) then 1 else 0 := by
  by_cases hb : b.toNat < 0x80
  · have hmissed : ((missed pending).map fun c => c.getD replacement).countP P = 0 := by
      unfold missed
      split_ifs <;> simp [replacement_eq_false hP]
    rw [step_ascii h hb, List.map_append, List.countP_append, hmissed]
    simp [List.countP_cons]
  · rw [eq_false_of_le hP (by omega), List.countP_eq_zero.mpr]
    · rfl
    · intro c hc
      obtain ⟨d, hd, rfl⟩ := List.mem_map.mp hc
      simp [eq_false_of_mem_step hP h (by omega) hd]

/-- Characters of ASCII are read from just as many bytes. -/
lemma countP_decodeFrom (h : Sound pending) (bytes : List UInt8) :
    ((decodeFrom pending bytes).map fun c => c.getD replacement).countP P
      = bytes.countP fun b => P (Char.ofNat b.toNat) := by
  induction bytes generalizing pending with
  | nil =>
    rw [decodeFrom]
    split_ifs <;> simp [replacement_eq_false hP]
  | cons b bytes ih =>
    rw [decodeFrom, List.map_append, List.countP_append, countP_step hP h, ih (sound_step h b),
      List.countP_cons, Nat.add_comm]

lemma countP_decodeLossy (bytes : List UInt8) :
    (decodeLossy bytes).countP P = bytes.countP fun b => P (Char.ofNat b.toNat) :=
  countP_decodeFrom hP sound_none bytes

end

end OpenApiTypes.Utf8
