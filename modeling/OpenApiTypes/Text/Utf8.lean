/-
Texts as bytes.

* `Utf8.encode`: the bytes of a text;
* `Utf8.Lead`: what a first byte promises: how many bytes follow it and between which bounds the
  next one lies;
* `Utf8.decodeLossy`: the text of a list of bytes, a replacement character for every longest
  beginning of a character that is not continued properly;
* `Utf8.decode?`: the text of a list of bytes, if all of them are proper.
-/

namespace OpenApiTypes.Utf8

/-- The bytes of a text. -/
def encode (cs : List Char) : List UInt8 := cs.flatMap String.utf8EncodeChar

/-- Stands for bytes that are no character. -/
def replacement : Char := Char.ofNat 0xFFFD

/-- What the first byte of a longer character promises. -/
structure Lead where
  /-- The bits it contributes. -/
  bits : Nat
  /-- How many bytes follow. -/
  following : Nat
  /-- The bounds of the next byte. -/
  low : Nat
  high : Nat

/-- The promise of a byte, if it begins a character of several bytes. Overlong forms, surrogates
and code points beyond the last one are excluded by the bounds of the second byte. -/
def lead? (b : Nat) : Option Lead :=
  if 0xC2 ≤ b ∧ b ≤ 0xDF then some ⟨b - 0xC0, 1, 0x80, 0xBF⟩
  else if b = 0xE0 then some ⟨0, 2, 0xA0, 0xBF⟩
  else if b = 0xED then some ⟨0xD, 2, 0x80, 0x9F⟩
  else if 0xE1 ≤ b ∧ b ≤ 0xEF then some ⟨b - 0xE0, 2, 0x80, 0xBF⟩
  else if b = 0xF0 then some ⟨0, 3, 0x90, 0xBF⟩
  else if 0xF1 ≤ b ∧ b ≤ 0xF3 then some ⟨b - 0xF0, 3, 0x80, 0xBF⟩
  else if b = 0xF4 then some ⟨4, 3, 0x80, 0x8F⟩
  else none

/-- Reads one byte. `pending` is the promise still to be kept; the result is the characters that
are complete, `none` standing for bytes that are no character, and the new promise. -/
def step (pending : Option Lead) (byte : UInt8) : List (Option Char) × Option Lead :=
  let b := byte.toNat
  let start : List (Option Char) × Option Lead :=
    if b < 0x80 then ([some (Char.ofNat b)], none)
    else match lead? b with
      | some lead => ([], some lead)
      | none => ([none], none)
  match pending with
  | none => start
  | some p =>
    if p.low ≤ b ∧ b ≤ p.high then
      let bits := p.bits * 64 + (b - 0x80)
      if p.following = 1 then ([some (Char.ofNat bits)], none)
      else ([], some ⟨bits, p.following - 1, 0x80, 0xBF⟩)
    else (none :: start.1, start.2)

/-- The characters of the rest of the bytes. -/
def decodeFrom (pending : Option Lead) : List UInt8 → List (Option Char)
  | [] => if pending.isSome then [none] else []
  | b :: rest =>
    let (done, pending) := step pending b
    done ++ decodeFrom pending rest

/-- The text of a list of bytes, with replacement characters. -/
def decodeLossy (bytes : List UInt8) : List Char :=
  (decodeFrom none bytes).map fun c => c.getD replacement

/-- The text of a list of bytes, if all of them are proper. -/
def decode? (bytes : List UInt8) : Option (List Char) := (decodeFrom none bytes).mapM id

end OpenApiTypes.Utf8
