import Mathlib.Data.Nat.Notation
import Mathlib.Tactic.IntervalCases

/-! # Hexadecimal text

`hexEncode` writes every byte as two lower-case digits; `hexDecode` reads digits of either
case and rejects any other character and an odd number of digits.  Decoding inverts encoding
(`hexDecode_hexEncode`), so the encoding is injective. -/

namespace FlowMemory

/-- The value of a hexadecimal digit of either case. -/
def hexValue (c : Char) : Option ℕ :=
  if 48 ≤ c.toNat ∧ c.toNat ≤ 57 then some (c.toNat - 48)
  else if 97 ≤ c.toNat ∧ c.toNat ≤ 102 then some (c.toNat - 87)
  else if 65 ≤ c.toNat ∧ c.toNat ≤ 70 then some (c.toNat - 55)
  else none

variable {n : ℕ}

theorem hexValue_digitChar (h : n < 16) : hexValue (Nat.digitChar n) = some n := by
  interval_cases n <;> rfl

/-- Two lower-case digits for every byte. -/
def hexEncode : List UInt8 → List Char
  | [] => []
  | b :: bs => Nat.digitChar (b.toNat / 16) :: Nat.digitChar (b.toNat % 16) :: hexEncode bs

/-- The bytes written by an even number of hexadecimal digits. -/
def hexDecode : List Char → Option (List UInt8)
  | [] => some []
  | [_] => none
  | a :: b :: cs =>
    match hexValue a, hexValue b, hexDecode cs with
    | some x, some y, some bs => some (UInt8.ofNat (16 * x + y) :: bs)
    | _, _, _ => none

theorem hexDecode_hexEncode (bs : List UInt8) : hexDecode (hexEncode bs) = some bs := by
  induction bs with
  | nil => rfl
  | cons b bs ih =>
    have hb := b.toNat_lt
    simp only [hexEncode, hexDecode, hexValue_digitChar (show b.toNat / 16 < 16 by omega),
      hexValue_digitChar (show b.toNat % 16 < 16 by omega), ih]
    rw [show 16 * (b.toNat / 16) + b.toNat % 16 = b.toNat by omega]
    simp

theorem hexDecode_length : ∀ {cs : List Char} {bs : List UInt8}, hexDecode cs = some bs →
    cs.length = 2 * bs.length
  | [], _, h => by
      cases h
      rfl
  | [_], _, h => by cases h
  | a :: b :: cs, _, h => by
      rw [hexDecode] at h
      split at h
      · next hcs =>
          cases h
          have hlength := hexDecode_length hcs
          rw [List.length_cons, List.length_cons, List.length_cons, hlength]
          omega
      · cases h

theorem hexEncode_inj {as bs : List UInt8} : hexEncode as = hexEncode bs ↔ as = bs := by
  constructor
  · intro h
    have ha := hexDecode_hexEncode as
    rw [h, hexDecode_hexEncode] at ha
    exact (Option.some.inj ha).symm
  · rintro rfl
    rfl

end FlowMemory
