import Mathlib.Data.Nat.Notation
import Mathlib.Tactic.ByContra
import Mathlib.Tactic.SplitIfs

/-! # Text operations

The characters of a text, letter case of ASCII letters, removal of surrounding white space, and
decimal numerals as an integer parser reads them: an optional plus sign, at least one digit, leading
zeros allowed, and a value below the bound of the type. -/

namespace FlowMemory

/-- The characters of a text.  Those of an ASCII text are its bytes, which are faster to compute. -/
def chars (s : String) : List Char :=
  let bytes := s.toByteArray.data.toList
  if bytes.all (· < 128) then bytes.map fun b => Char.ofNat b.toNat else s.toList

theorem utf8EncodeChar_ascii {c : Char} (h : (String.utf8EncodeChar c).all (· < 128) = true) :
    (String.utf8EncodeChar c).map (fun b => Char.ofNat b.toNat) = [c] := by
  have hascii : c.val.toNat ≤ 127 := by
    by_contra hc
    simp only [String.utf8EncodeChar, if_neg hc] at h
    split_ifs at h
    all_goals
      simp [UInt8.lt_iff_toNat_lt] at h
      omega
  have hbyte : c.val.toNat % 256 = c.val.toNat := Nat.mod_eq_of_lt (by omega)
  simp only [String.utf8EncodeChar, if_pos hascii, List.map_cons, List.map_nil, UInt8.toNat_ofNat',
    hbyte]
  exact congrArg (fun c => [c]) (Char.ofNat_toNat c)

@[simp] theorem chars_eq (s : String) : chars s = s.toList := by
  obtain ⟨cs, rfl⟩ : ∃ cs, s = String.ofList cs := ⟨s.toList, String.ofList_toList.symm⟩
  have hbytes : (String.ofList cs).toByteArray.data.toList = cs.flatMap String.utf8EncodeChar := by
    rw [String.toByteArray_ofList]
    simp [List.utf8Encode]
  rw [chars, hbytes, String.toList_ofList]
  split_ifs with hascii
  · clear hbytes
    induction cs with
    | nil => rfl
    | cons c cs ih =>
      rw [List.flatMap_cons, List.all_append, Bool.and_eq_true] at hascii
      rw [List.flatMap_cons, List.map_append, utf8EncodeChar_ascii hascii.1, ih hascii.2]
      rfl
  · rfl
def toAsciiLowercase (s : String) : String := String.ofList ((chars s).map Char.toLower)

def toAsciiUppercase (s : String) : String := String.ofList (s.toList.map Char.toUpper)

/-- White space of the Unicode standard. -/
def isWhiteSpace (c : Char) : Bool :=
  let n := c.toNat
  (9 ≤ n && n ≤ 13) || n == 0x20 || n == 0x85 || n == 0xA0 || n == 0x1680 ||
    (0x2000 ≤ n && n ≤ 0x200A) || n == 0x2028 || n == 0x2029 || n == 0x202F || n == 0x205F ||
    n == 0x3000

def trim (s : String) : String :=
  String.ofList ((s.toList.dropWhile isWhiteSpace).reverse.dropWhile isWhiteSpace).reverse

/-- The number written by a list of decimal digits. -/
def digitsValue (cs : List Char) : ℕ := cs.foldl (fun n c => 10 * n + (c.toNat - 48)) 0

/-- The digits of a numeral: one plus sign in front of them is skipped. -/
def numeralDigits : List Char → List Char
  | '+' :: cs => cs
  | cs => cs

/-- The number written by a numeral of any size. -/
def parseNumeral (s : String) : Option ℕ :=
  let ds := numeralDigits s.toList
  if ds ≠ [] ∧ ds.all Char.isDigit then some (digitsValue ds) else none

/-- The number written by a numeral, if it is below the bound. -/
def parseBelow (bound : ℕ) (s : String) : Option ℕ :=
  (parseNumeral s).filter (· < bound)

end FlowMemory
