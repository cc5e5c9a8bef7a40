import Mathlib.Data.Set.Function
import FlowMemory.Lib.JsonText
import FlowMemory.Lib.Keccak256

/-! # Hashing of canonical JSON

Every identifier and every root of the local runtime is a Keccak-256 digest, written in
hexadecimal after `0x`, of a domain name and the canonical JSON text of a value.

The hash function itself comes from a library and is a parameter: `Keccak` supplies the digest
of a byte string and nothing more.  Results that need that different inputs have different
digests say so with the hypothesis `CollisionFree`.  Under it an identifier determines the
fields it was computed from (`hashJson_obj_inj`). -/

namespace FlowMemory

open Json

/-- The hash function of the library. -/
class Keccak where
  digest : List UInt8 → List UInt8

/-- The hash function itself. -/
@[reducible] def keccak256 : Keccak := ⟨Sponge.keccak256⟩

theorem keccak256_length (bytes : List UInt8) : (keccak256.digest bytes).length = 32 :=
  Sponge.length_keccak256 bytes

/-- Different inputs have different digests. -/
def CollisionFree (K : Keccak) : Prop := Function.Injective K.digest

/-- The bytes of a text. -/
def utf8 (cs : List Char) : List UInt8 := cs.flatMap String.utf8EncodeChar

theorem utf8_injective : Function.Injective utf8 := by
  intro as bs h
  have hb : as.utf8Encode = bs.utf8Encode := congrArg List.toByteArray h
  apply String.ofList_injective
  rw [← String.toByteArray_inj, String.toByteArray_ofList, String.toByteArray_ofList, hb]

/-- The bytes hashed for `value` under `domain`. -/
def jsonPreimage (domain : String) (value : Json) : List UInt8 :=
  utf8 (domain.toList ++ ':' :: canonicalJson value)

theorem jsonPreimage_inj {domain : String} {v w : Json} :
    jsonPreimage domain v = jsonPreimage domain w ↔ canonicalJson v = canonicalJson w := by
  constructor
  · intro h
    have := utf8_injective h
    rwa [List.append_cancel_left_eq, List.cons.injEq, and_iff_right rfl] at this
  · intro h
    rw [jsonPreimage, jsonPreimage, h]

/-- The bytes hashed for `value` under `schema`. -/
def stablePreimage (schema : String) (value : Json) : List UInt8 :=
  utf8 (canonicalJson (.obj [("schema", .str schema), ("value", value)]))

theorem stablePreimage_obj_inj {schema : String} {ms ns : List (String × Json)}
    (h : stablePreimage schema (.obj ms) = stablePreimage schema (.obj ns))
    (hkeys : ms.map Prod.fst = ns.map Prod.fst) (hnd : (ms.map Prod.fst).Nodup) :
    normalizeMembers ms = normalizeMembers ns := by
  have hm := utf8_injective h
  rw [canonicalJson_obj_inj (by rfl) (by simp)] at hm
  simp only [normalizeMembers, List.cons.injEq, Prod.mk.injEq, true_and, and_true] at hm
  exact (normalizeValue_obj_inj hkeys hnd).mp hm

section keccak

variable [K : Keccak] {domain : String}

def keccakHex (bytes : List UInt8) : String :=
  String.ofList ('0' :: 'x' :: hexEncode (Keccak.digest bytes))

def hashJson (domain : String) (value : Json) : String := keccakHex (jsonPreimage domain value)

def externalStableId (schema : String) (value : Json) : String :=
  keccakHex (utf8 (canonicalJson (.obj [("schema", .str schema), ("value", value)])))

/-! ### Identifiers determine what was hashed -/

theorem digest_eq_of_keccakHex_eq {as bs : List UInt8} (h : keccakHex as = keccakHex bs) :
    K.digest as = K.digest bs := by
  have hcs := String.ofList_injective h
  rw [List.cons.injEq, List.cons.injEq, hexEncode_inj] at hcs
  exact hcs.2.2

theorem keccakHex_inj (hK : CollisionFree K) {as bs : List UInt8} :
    keccakHex as = keccakHex bs ↔ as = bs := by
  constructor
  · intro h
    exact hK (digest_eq_of_keccakHex_eq h)
  · rintro rfl
    rfl

theorem hashJson_inj (hK : CollisionFree K) {v w : Json} :
    hashJson domain v = hashJson domain w ↔ canonicalJson v = canonicalJson w := by
  rw [hashJson, hashJson, keccakHex_inj hK, jsonPreimage_inj]

/-- The members of a hashed record can be read back from its identifier. -/
theorem hashJson_obj_inj (hK : CollisionFree K) {ms ns : List (String × Json)}
    (h : hashJson domain (.obj ms) = hashJson domain (.obj ns))
    (hkeys : ms.map Prod.fst = ns.map Prod.fst) (hnd : (ms.map Prod.fst).Nodup) :
    normalizeMembers ms = normalizeMembers ns :=
  (canonicalJson_obj_inj hkeys hnd).mp ((hashJson_inj hK).mp h)

/-- The same for an identifier computed under a schema, if the hash has no collisions in a set that
holds the hashed bytes. -/
theorem externalStableId_obj_inj {S : Set (List UInt8)} (hS : S.InjOn K.digest) {schema : String}
    {ms ns : List (String × Json)} (hms : stablePreimage schema (.obj ms) ∈ S)
    (hns : stablePreimage schema (.obj ns) ∈ S)
    (h : externalStableId schema (.obj ms) = externalStableId schema (.obj ns))
    (hkeys : ms.map Prod.fst = ns.map Prod.fst) (hnd : (ms.map Prod.fst).Nodup) :
    normalizeMembers ms = normalizeMembers ns :=
  stablePreimage_obj_inj (hS hms hns (digest_eq_of_keccakHex_eq h)) hkeys hnd

end keccak

/-! ### Known digests -/

/-- A 32-byte big-endian word. -/
def abiUintWord (value : ℕ) : List UInt8 :=
  (List.range 32).map fun i => UInt8.ofNat (value / 256 ^ (31 - i))

/-- A text and its digest, read as a number. -/
def knownDigest (text : String) (digest : ℕ) : List UInt8 × List UInt8 :=
  (utf8 text.toList, abiUintWord digest)

/-- The hash function on the inputs of a table.  Every other input is kept behind 32 zero bytes
and a one, so that it is not confused with another input or with a digest of the table. -/
@[reducible] def tableKeccak (table : List (List UInt8 × List UInt8)) : Keccak where
  digest bytes := (table.lookup bytes).getD (List.replicate 32 0 ++ 1 :: bytes)

theorem tableKeccak_digest (table : List (List UInt8 × List UInt8)) (bytes : List UInt8) :
    (tableKeccak table).digest bytes =
      (table.lookup bytes).getD (List.replicate 32 0 ++ 1 :: bytes) := rfl

variable {table : List (List UInt8 × List UInt8)}

/-- An entry at the end of a table is used for its own input only. -/
theorem tableKeccak_append {input digest bytes : List UInt8}
    (h : bytes ≠ input) : (tableKeccak (table ++ [(input, digest)])).digest bytes =
      (tableKeccak table).digest bytes := by
  rw [tableKeccak_digest, tableKeccak_digest, List.lookup_append, List.lookup_cons,
    beq_false_of_ne h]
  simp

theorem tableKeccak_collisionFree
    (hlen : ∀ e ∈ table, e.2.length = 32) (hnd : (table.map Prod.snd).Nodup) :
    CollisionFree (tableKeccak table) := by
  have hmem {bytes d : List UInt8} (h : table.lookup bytes = some d) : (bytes, d) ∈ table := by
    obtain ⟨l₁, l₂, rfl, -⟩ := List.lookup_eq_some_iff.mp h
    simp
  intro as bs h
  rw [tableKeccak_digest, tableKeccak_digest] at h
  cases ha : table.lookup as with
  | some d =>
    cases hb : table.lookup bs with
    | some d' =>
      rw [ha, hb, Option.getD_some, Option.getD_some] at h
      exact congrArg Prod.fst (List.inj_on_of_nodup_map hnd (hmem ha) (hmem hb) h)
    | none =>
      rw [ha, hb, Option.getD_some, Option.getD_none] at h
      have := hlen _ (hmem ha)
      simp [h] at this
  | none =>
    cases hb : table.lookup bs with
    | some d' =>
      rw [ha, hb, Option.getD_some, Option.getD_none] at h
      have := hlen _ (hmem hb)
      simp [← h] at this
    | none =>
      rw [ha, hb, Option.getD_none, Option.getD_none] at h
      simpa using h

end FlowMemory
