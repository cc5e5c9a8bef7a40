import Mathlib.Data.Int.Notation
import FlowMemory.Lib.Hex
import FlowMemory.Lib.Text

/-! # Integers written as text

The text of an integer may have spaces around it and a sign, or a mark that says that its digits are
binary, octal or hexadecimal.  So one integer has many texts: `5`, `05`, `+5`, `0x5`. -/

namespace FlowMemory

def isStrWhiteSpace (c : Char) : Bool :=
  c.toNat ∈ [9, 10, 11, 12, 13, 32, 160, 5760, 8232, 8233, 8239, 8287, 12288, 65279] ∨
    (8192 ≤ c.toNat ∧ c.toNat ≤ 8202)

def trimWhiteSpace (cs : List Char) : List Char :=
  ((cs.dropWhile isStrWhiteSpace).reverse.dropWhile isStrWhiteSpace).reverse

/-- The value of digits after `value`. -/
def numeralFrom (radix value : ℕ) : List Char → Option ℕ
  | [] => some value
  | c :: cs => ((hexValue c).filter (· < radix)).bind fun d => numeralFrom radix (radix * value + d) cs

def numeralIn (radix : ℕ) (cs : List Char) : Option ℕ :=
  if cs = [] then none else numeralFrom radix 0 cs

/-- The integer that a trimmed text writes. -/
def integerLiteral : List Char → Option ℤ
  | [] => some 0
  | '0' :: 'x' :: cs => (numeralIn 16 cs).map Int.ofNat
  | '0' :: 'X' :: cs => (numeralIn 16 cs).map Int.ofNat
  | '0' :: 'o' :: cs => (numeralIn 8 cs).map Int.ofNat
  | '0' :: 'O' :: cs => (numeralIn 8 cs).map Int.ofNat
  | '0' :: 'b' :: cs => (numeralIn 2 cs).map Int.ofNat
  | '0' :: 'B' :: cs => (numeralIn 2 cs).map Int.ofNat
  | '+' :: cs => (numeralIn 10 cs).map Int.ofNat
  | '-' :: cs => (numeralIn 10 cs).map fun n => -(n : ℤ)
  | cs => (numeralIn 10 cs).map Int.ofNat

def stringToBigInt (text : String) : Option ℤ := integerLiteral (trimWhiteSpace (chars text))

/-! ### Decimal digits -/

section digits

variable {cs : List Char}

theorem hexValue_of_isDigit {c : Char} (h : c.isDigit = true) :
    48 ≤ c.toNat ∧ c.toNat ≤ 57 ∧ hexValue c = some (c.toNat - 48) := by
  have hc : 48 ≤ c.toNat ∧ c.toNat ≤ 57 := by
    simpa [Char.isDigit, UInt32.le_iff_toNat_le] using h
  exact ⟨hc.1, hc.2, if_pos hc⟩

theorem numeralFrom_digits (h : ∀ c ∈ cs, c.isDigit = true) (value : ℕ) :
    numeralFrom 10 value cs = some (cs.foldl (fun n c => 10 * n + (c.toNat - 48)) value) := by
  induction cs generalizing value with
  | nil => rfl
  | cons c cs ih =>
    obtain ⟨hc, hcs⟩ := List.forall_mem_cons.mp h
    obtain ⟨hlow, hhigh, hvalue⟩ := hexValue_of_isDigit hc
    have hlt : c.toNat - 48 < 10 := by omega
    rw [numeralFrom, hvalue, Option.filter_some, if_pos (decide_eq_true hlt), Option.bind_some,
      ih hcs, List.foldl_cons]

theorem integerLiteral_digits (hne : cs ≠ []) (h : ∀ c ∈ cs, c.isDigit = true) :
    integerLiteral cs = some (digitsValue cs : ℤ) := by
  have hnumeral : (numeralIn 10 cs).map Int.ofNat = some (digitsValue cs : ℤ) := by
    rw [numeralIn, if_neg hne, numeralFrom_digits h]
    rfl
  unfold integerLiteral
  split <;> first | exact hnumeral | simp at h hne

theorem trimWhiteSpace_digits (h : ∀ c ∈ cs, c.isDigit = true) : trimWhiteSpace cs = cs := by
  have hspace : ∀ c ∈ cs, isStrWhiteSpace c = false := by
    intro c hc
    obtain ⟨hlow, hhigh, -⟩ := hexValue_of_isDigit (h c hc)
    refine decide_eq_false ?_
    simp only [List.mem_cons, List.not_mem_nil, or_false]
    omega
  have hdrop : ∀ ds : List Char, (∀ c ∈ ds, isStrWhiteSpace c = false) →
      ds.dropWhile isStrWhiteSpace = ds := by
    intro ds hds
    cases ds with
    | nil => rfl
    | cons d ds => rw [List.dropWhile_cons, hds d List.mem_cons_self]; rfl
  rw [trimWhiteSpace, hdrop cs hspace, hdrop cs.reverse fun c hc => hspace c (List.mem_reverse.mp hc),
    List.reverse_reverse]

/-- A text of decimal digits is read as the number they write. -/
theorem stringToBigInt_digits (hne : cs ≠ []) (h : ∀ c ∈ cs, c.isDigit = true) :
    stringToBigInt (String.ofList cs) = some (digitsValue cs : ℤ) := by
  rw [stringToBigInt, chars_eq, String.toList_ofList, trimWhiteSpace_digits h, integerLiteral_digits hne h]

end digits

example : stringToBigInt " 0x0A\n" = some 10 := by decide +kernel

end FlowMemory
