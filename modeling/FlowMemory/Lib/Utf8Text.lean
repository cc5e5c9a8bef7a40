import Mathlib.Data.Nat.Notation
import Mathlib.Tactic.SplitIfs

/-! # Text from UTF-8 bytes

Bytes that are not UTF-8 are read as replacement characters: a sequence that breaks off gives one,
and the byte that breaks it starts again.  A byte order mark in front is skipped.  The bytes of a text
are read as the text without its mark (`decodeText_encode`). -/

namespace FlowMemory

/-- A sequence that needs more bytes, and the range of the next one. -/
structure Utf8Partial where
  (needed value lower upper : ℕ)

def replacementChar : Char := Char.ofNat 0xFFFD

/-- The first byte of a sequence. -/
def utf8Start (b : UInt8) : List Char × Option Utf8Partial :=
  if b < 0x80 then ([Char.ofNat b.toNat], none)
  else if 0xC2 ≤ b ∧ b ≤ 0xDF then ([], some ⟨1, b.toNat % 32, 0x80, 0xBF⟩)
  else if 0xE0 ≤ b ∧ b ≤ 0xEF then
    ([], some ⟨2, b.toNat % 16, if b = 0xE0 then 0xA0 else 0x80, if b = 0xED then 0x9F else 0xBF⟩)
  else if 0xF0 ≤ b ∧ b ≤ 0xF4 then
    ([], some ⟨3, b.toNat % 8, if b = 0xF0 then 0x90 else 0x80, if b = 0xF4 then 0x8F else 0xBF⟩)
  else ([replacementChar], none)

def utf8Decode : Option Utf8Partial → List UInt8 → List Char
  | none, [] => []
  | some _, [] => [replacementChar]
  | none, b :: bytes => (utf8Start b).1 ++ utf8Decode (utf8Start b).2 bytes
  | some p, b :: bytes =>
    if p.lower ≤ b.toNat ∧ b.toNat ≤ p.upper then
      let value := 64 * p.value + b.toNat % 64
      if p.needed = 1 then Char.ofNat value :: utf8Decode none bytes
      else utf8Decode (some ⟨p.needed - 1, value, 0x80, 0xBF⟩) bytes
    else replacementChar :: ((utf8Start b).1 ++ utf8Decode (utf8Start b).2 bytes)

def decodeText : List UInt8 → String
  | 0xEF :: 0xBB :: 0xBF :: bytes => String.ofList (utf8Decode none bytes)
  | bytes => String.ofList (utf8Decode none bytes)

variable {bytes : List UInt8}

/-- The first byte by its value. -/
theorem utf8Start_ofNat {n : ℕ} (h : n < 256) : utf8Start (UInt8.ofNat n) =
    if n < 0x80 then ([Char.ofNat n], none)
    else if 0xC2 ≤ n ∧ n ≤ 0xDF then ([], some ⟨1, n % 32, 0x80, 0xBF⟩)
    else if 0xE0 ≤ n ∧ n ≤ 0xEF then
      ([], some ⟨2, n % 16, if n = 0xE0 then 0xA0 else 0x80, if n = 0xED then 0x9F else 0xBF⟩)
    else if 0xF0 ≤ n ∧ n ≤ 0xF4 then
      ([], some ⟨3, n % 8, if n = 0xF0 then 0x90 else 0x80, if n = 0xF4 then 0x8F else 0xBF⟩)
    else ([replacementChar], none) := by
  have hn : (UInt8.ofNat n).toNat = n := Nat.mod_eq_of_lt h
  simp only [utf8Start, UInt8.lt_iff_toNat_lt, UInt8.le_iff_toNat_le, ← UInt8.toNat_inj, hn]
  rfl

theorem utf8Decode_next {needed value lower upper m : ℕ} (hm : m < 64) (hlower : lower ≤ m + 128)
    (hupper : m + 128 ≤ upper) :
    utf8Decode (some ⟨needed, value, lower, upper⟩) (UInt8.ofNat (m + 128) :: bytes) =
      if needed = 1 then Char.ofNat (64 * value + m) :: utf8Decode none bytes
      else utf8Decode (some ⟨needed - 1, 64 * value + m, 0x80, 0xBF⟩) bytes := by
  have hn : (UInt8.ofNat (m + 128)).toNat = m + 128 := Nat.mod_eq_of_lt (by omega)
  have hmod : (m + 128) % 64 = m := by omega
  rw [utf8Decode, hn, if_pos ⟨hlower, hupper⟩, hmod]

/-- The bytes of a character are read as the character. -/
theorem utf8Decode_encodeChar (c : Char) :
    utf8Decode none (String.utf8EncodeChar c ++ bytes) = c :: utf8Decode none bytes := by
  have hvalid : c.val.toNat < 0xD800 ∨ 0xDFFF < c.val.toNat ∧ c.val.toNat < 0x110000 := c.valid
  have hchar : Char.ofNat c.val.toNat = c := Char.ofNat_toNat c
  unfold String.utf8EncodeChar
  generalize c.val.toNat = v at *
  dsimp only
  split_ifs with h1 h2 h3 <;>
    rw [List.cons_append, utf8Decode, utf8Start_ofNat (by omega)]
  · rw [if_pos (by omega), hchar]
    rfl
  · have hvalue : 64 * ((v / 64 % 32 + 192) % 32) + v % 64 = v := by omega
    rw [if_neg (by omega), if_pos (by omega)]
    simp (disch := omega) only [List.cons_append, List.nil_append, utf8Decode_next, if_true, hvalue,
      hchar]
  · have hvalue : 64 * (64 * ((v / 4096 % 16 + 224) % 16) + v / 64 % 64) + v % 64 = v := by omega
    rw [if_neg (by omega), if_neg (by omega), if_pos (by omega)]
    simp (disch := first | omega | (split_ifs <;> omega)) only [List.cons_append, List.nil_append,
      utf8Decode_next, Nat.reduceEqDiff, Nat.reduceSub, if_true, if_false, hvalue, hchar]
  · have hvalue : 64 * (64 * (64 * ((v / 262144 % 8 + 240) % 8) + v / 4096 % 64) + v / 64 % 64) +
        v % 64 = v := by omega
    rw [if_neg (by omega), if_neg (by omega), if_neg (by omega), if_pos (by omega)]
    simp (disch := first | omega | (split_ifs <;> omega)) only [List.cons_append, List.nil_append,
      utf8Decode_next, Nat.reduceEqDiff, Nat.reduceSub, if_true, if_false, hvalue, hchar]

/-- The bytes of a text are read as the text. -/
theorem utf8Decode_encode (cs : List Char) :
    utf8Decode none (cs.flatMap String.utf8EncodeChar) = cs := by
  induction cs with
  | nil => rfl
  | cons c cs ih => rw [List.flatMap_cons, utf8Decode_encodeChar, ih]

def byteOrderMark : Char := Char.ofNat 0xFEFF

/-- The text after a mark in front. -/
def dropMark : List Char → List Char
  | [] => []
  | c :: cs => if c = byteOrderMark then cs else c :: cs

theorem dropMark_eq_iff {cs : List Char} : dropMark cs = cs ↔ cs.head? ≠ some byteOrderMark := by
  cases cs with
  | nil => simp [dropMark]
  | cons c cs =>
    by_cases hc : c = byteOrderMark
    · simp [dropMark, hc]
    · simp [dropMark, hc]

theorem decodeText_encode (cs : List Char) :
    decodeText (cs.flatMap String.utf8EncodeChar) = String.ofList (dropMark cs) := by
  have hread := utf8Decode_encode cs
  unfold decodeText
  split
  case h_1 bytes hbytes =>
    have hmark : utf8Decode none (0xEF :: 0xBB :: 0xBF :: bytes) =
        byteOrderMark :: utf8Decode none bytes := rfl
    rw [← hread, hbytes, hmark, dropMark, if_pos rfl]
  case h_2 hnot =>
    rw [hread, dropMark_eq_iff.mpr]
    intro hhead
    obtain ⟨rest, rfl⟩ := List.head?_eq_some_iff.mp hhead
    exact hnot _ rfl

example : decodeText [0x66, 0xC3, 0xA9, 0xFF] = "fé�" := by decide +kernel

end FlowMemory
