import FlowMemory.LocalRuntime.Hashing

/-! # Hexadecimal text, words and typed hashes

The encodings of the crypto package.  A **typed hash** is the hash of the hash of a type string
followed by one word of 32 bytes for every field; a field that does not fit its word is an error.

A text of JavaScript is a list of UTF-16 code units and need not be well formed.  As UTF-8 it loses
the surrogates without a partner, while canonical JSON writes them as escapes. -/

namespace FlowMemory.Crypto

/-! ### Hexadecimal text -/

def strip0x : List Char → List Char
  | '0' :: 'x' :: cs => cs
  | cs => cs

def bytesToHex (bytes : List UInt8) : String := String.ofList ('0' :: 'x' :: hexEncode bytes)

def hexToBytes (value : String) (expectedLength : ℕ) : Option (List UInt8) :=
  (hexDecode (strip0x (chars value))).filter fun bytes => bytes.length = expectedLength

variable {bytes : List UInt8}

theorem hexToBytes_bytesToHex {n : ℕ} (h : bytes.length = n) :
    hexToBytes (bytesToHex bytes) n = some bytes := by
  unfold hexToBytes bytesToHex
  rw [chars_eq, String.toList_ofList]
  simp [strip0x, hexDecode_hexEncode, h]

/-! ### Words -/

def uintToWord (value : ℕ) : Option (List UInt8) :=
  if value < 2 ^ 256 then some (abiUintWord value) else none

def addressToWord (value : String) : Option (List UInt8) :=
  (hexToBytes value 20).map fun address => List.replicate 12 0 ++ address

def bytes32ToWord (value : String) : Option (List UInt8) := hexToBytes value 32

/-- A field of a typed hash. -/
inductive StaticField where
  | uint (value : ℕ)
  | address (value : String)
  | bytes32 (value : String)

def StaticField.encode : StaticField → Option (List UInt8)
  | .uint value => uintToWord value
  | .address value => addressToWord value
  | .bytes32 value => bytes32ToWord value

/-- The words of the fields one after the other. -/
def abiEncodeStatic : List StaticField → Option (List UInt8)
  | [] => some []
  | f :: fs => do
      let word ← f.encode
      let words ← abiEncodeStatic fs
      some (word ++ words)

/-! ### JavaScript texts -/

/-- The code units of an ASCII text. -/
def units (text : String) : List UInt16 := (chars text).map fun c => UInt16.ofNat c.toNat

/-- The units as characters, for tests that only look for ASCII characters. -/
def unitChars (text : List UInt16) : List Char := text.map fun unit => Char.ofNat unit.toNat

inductive CodePoint where
  | char (c : Char)
  | loneSurrogate (unit : UInt16)

def CodePoint.ofUnit (unit : UInt16) : CodePoint :=
  if 0xD800 ≤ unit ∧ unit ≤ 0xDFFF then .loneSurrogate unit else .char (Char.ofNat unit.toNat)

/-- The code points of a text: a high surrogate in front of a low one is one character. -/
def codePoints : List UInt16 → List CodePoint
  | [] => []
  | [unit] => [.ofUnit unit]
  | high :: low :: rest =>
    if (0xD800 ≤ high ∧ high ≤ 0xDBFF) ∧ 0xDC00 ≤ low ∧ low ≤ 0xDFFF then
      .char (Char.ofNat (0x10000 + (high.toNat - 0xD800) * 0x400 + (low.toNat - 0xDC00))) ::
        codePoints rest
    else .ofUnit high :: codePoints (low :: rest)

/-- The replacement character stands for every surrogate without a partner. -/
def utf8Bytes (text : List UInt16) : List UInt8 :=
  utf8 ((codePoints text).map fun
    | .char c => c
    | .loneSurrogate _ => Char.ofNat 0xFFFD)

/-! ### Canonical JSON -/

/-- The numbers of JavaScript, as far as JSON sees them: which are finite, and their texts. -/
class JsNumbers (ν : Type) where
  isFinite : ν → Bool
  text : ν → List Char

inductive JsValue (ν : Type) where
  | null
  | bool (b : Bool)
  | number (n : ν)
  | string (text : List UInt16)
  | array (elems : List (JsValue ν))
  | object (members : List (List UInt16 × JsValue ν))

section json

variable {ν : Type} [JsNumbers ν]

/-- The text is `0x` and digits. -/
def isHexText (text : List UInt16) : Bool :=
  match unitChars text with
  | '0' :: 'x' :: digits => digits.all fun c => (hexValue c).isSome
  | _ => false

def lowerUnit (unit : UInt16) : UInt16 := if 0x41 ≤ unit ∧ unit ≤ 0x5A then unit + 0x20 else unit

/-- The array index that the key of a property is. -/
def arrayIndex (key : List UInt16) : Option ℕ :=
  let index := digitsValue (unitChars key)
  if Nat.toDigits 10 index = unitChars key ∧ index < 2 ^ 32 - 1 then some index else none

/-- The properties of an object in the order in which they are listed: the array indices by their
value, then the other keys as they were added. -/
def fromEntries (entries : List (List UInt16 × JsValue ν)) : List (List UInt16 × JsValue ν) :=
  (entries.filter fun entry => (arrayIndex entry.1).isSome).insertionSort
      (fun a b => (arrayIndex a.1).getD 0 ≤ (arrayIndex b.1).getD 0) ++
    entries.filter fun entry => (arrayIndex entry.1).isNone

mutual

/-- A number that is not finite is an error. -/
def sortCanonical : JsValue ν → Option (JsValue ν)
  | .number n => if JsNumbers.isFinite n then some (.number n) else none
  | .string text => some (.string (if isHexText text then text.map lowerUnit else text))
  | .array elems => (sortElems elems).map .array
  | .object members => (sortMembers members).map fun entries =>
      .object (fromEntries (entries.insertionSort fun a b => a.1 ≤ b.1))
  | value => some value

def sortElems : List (JsValue ν) → Option (List (JsValue ν))
  | [] => some []
  | elem :: elems => do return (← sortCanonical elem) :: (← sortElems elems)

def sortMembers : List (List UInt16 × JsValue ν) → Option (List (List UInt16 × JsValue ν))
  | [] => some []
  | (key, value) :: members => do return (key, ← sortCanonical value) :: (← sortMembers members)

end

/-- A string literal. -/
def quote (text : List UInt16) : List Char :=
  '"' :: (codePoints text).flatMap (fun
    | .char c => Json.escapeChar c
    | .loneSurrogate unit => '\\' :: 'u' :: Nat.toDigits 16 unit.toNat) ++ ['"']

mutual

def stringify : JsValue ν → List Char
  | .null => ['n', 'u', 'l', 'l']
  | .bool true => ['t', 'r', 'u', 'e']
  | .bool false => ['f', 'a', 'l', 's', 'e']
  | .number n => JsNumbers.text n
  | .string text => quote text
  | .array [] => ['[', ']']
  | .array (elem :: elems) => '[' :: (stringify elem ++ stringifyElems elems)
  | .object [] => ['{', '}']
  | .object ((key, value) :: members) =>
    '{' :: (quote key ++ ':' :: (stringify value ++ stringifyMembers members))

/-- The elements after the first one, with the closing bracket. -/
def stringifyElems : List (JsValue ν) → List Char
  | [] => [']']
  | elem :: elems => ',' :: (stringify elem ++ stringifyElems elems)

/-- The members after the first one, with the closing brace. -/
def stringifyMembers : List (List UInt16 × JsValue ν) → List Char
  | [] => ['}']
  | (key, value) :: members =>
    ',' :: (quote key ++ ':' :: (stringify value ++ stringifyMembers members))

end

def canonicalJson (value : JsValue ν) : Option (List Char) := (sortCanonical value).map stringify

end json

/-! ### Hashes -/

variable [K : Keccak]

def keccakUtf8 (value : String) : String := keccakHex (utf8 (chars value))

def typeHash (typeString : String) : String := keccakUtf8 typeString

def typedHash (typeString : String) (fields : List StaticField) : Option String :=
  (abiEncodeStatic (.bytes32 (typeHash typeString) :: fields)).map keccakHex

end FlowMemory.Crypto
