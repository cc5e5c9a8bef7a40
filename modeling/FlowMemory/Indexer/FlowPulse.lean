import Mathlib.Data.List.Sort
import FlowMemory.Lib.BigIntText
import FlowMemory.Lib.DoubleText
import FlowMemory.Lib.Utf8Text
import FlowMemory.Relayer.LogFormat

/-! # Observations of pulses

A contract reports what it did with a **pulse**, a log of four topics and seven words.  The services
read such a log into an **observation**, whose identifier is a typed hash of where the log stands
(chain, contract, block, transaction, index) and of the pulse and the rootfield that it names. -/

namespace FlowMemory.Indexer

open Crypto Check
open Relayer (isHexDigit unprefixed decimalText wordAt bytesValue addressFromWord)

/-! ### Hexadecimal text and words -/

/-- The number of bytes that an error names: half a byte is possible. -/
def halfText (digits : ℕ) : String := decimalText (digits / 2) ++ if digits % 2 = 0 then "" else ".5"

def hexToBytes (value : String) (bytes : Option ℕ) : Except String (List UInt8) := do
  let digits := unprefixed value.toList
  rejectIf (¬ digits.all isHexDigit) ("invalid hex value: " ++ value)
  let size := bytes.getD (digits.length / 2)
  rejectIf (bytes.isSome ∧ digits.length ≠ size * 2)
    ("expected " ++ decimalText size ++ " bytes, got " ++ halfText digits.length)
  rejectIf (digits.length % 2 ≠ 0) "hex value must have an even number of nibbles"
  okOr (hexDecode digits) ("invalid hex value: " ++ value)

/-- Lower-case text after a `0x`. -/
def normalizeHex (value : String) (bytes : Option ℕ) : Except String String := do
  let decoded ← hexToBytes value bytes
  pure (bytesToHex decoded)

def normalizeAddress (value : String) : Except String String := normalizeHex value (some 20)

def normalizeBytes32 (value : String) : Except String String := normalizeHex value (some 32)

def bigInt (value : String) : Except String ℤ :=
  okOr (stringToBigInt value) ("Cannot convert " ++ value ++ " to a BigInt")

def encodeUint256 (value : String) : Except String (List UInt8) := do
  let n ← bigInt value
  rejectIf (n < 0) "uint256 cannot be negative"
  rejectIf (2 ^ 256 ≤ n) "uint256 overflow"
  pure (abiUintWord n.toNat)

def encodeAddress (value : String) : Except String (List UInt8) := do
  let address ← hexToBytes value (some 20)
  pure (List.replicate 12 0 ++ address)

def encodeBytes32 (value : String) : Except String (List UInt8) := hexToBytes value (some 32)

/-- A length and bytes padded to whole words. -/
def encodeStringTail (value : String) : List UInt8 :=
  let bytes := utf8 value.toList
  abiUintWord bytes.length ++ bytes ++ List.replicate ((32 - bytes.length % 32) % 32) 0

def abiWord (data : List UInt8) (wordIndex : ℕ) : Except String (List UInt8) := do
  rejectIf (32 * wordIndex + 32 > data.length)
    ("missing ABI word " ++ numberText (toDouble wordIndex))
  pure (wordAt data wordIndex)

def decodeUint256Word (data : List UInt8) (wordIndex : ℕ) : Except String ℕ := do
  let word ← abiWord data wordIndex
  pure (bytesValue word)

def decodeBytes32Word (data : List UInt8) (wordIndex : ℕ) : Except String String := do
  let word ← abiWord data wordIndex
  pure (bytesToHex word)

def decodeAddressTopic (topic : String) : Except String String := do
  let word ← hexToBytes topic (some 32)
  pure (addressFromWord word)

def decodeString (data : List UInt8) (offset : ℕ) : Except String String := do
  rejectIf (offset % 32 ≠ 0) "dynamic string offset must be word-aligned"
  let length ← decodeUint256Word data (offset / 32)
  rejectIf (offset + 32 + length > data.length) "dynamic string exceeds ABI data length"
  pure (decodeText ((data.drop (offset + 32)).take length))

/-! ### Logs and observations -/

def flowpulseEventTopic0 : String :=
  "0x5d07190b9ae441b4d7b16259a48424acd451492b12f5f99a29f5bfd992c13e43"

inductive ReceiptStatus where
  | success | reverted
  deriving DecidableEq

inductive LifecycleState where
  | observed | pending | finalized | removed | superseded | reorged
  deriving DecidableEq

structure RawFlowPulseLogFixture where
  (chainId address : String)
  topics : List String
  (data blockNumber blockHash transactionHash transactionIndex logIndex : String)
  receiptStatus : ReceiptStatus
  removed : Bool
  deriving DecidableEq

structure ParsedFlowPulseObservation where
  (observationId cursorId : String)
  lifecycleState : LifecycleState
  (chainId emittingContract eventSignature blockNumber blockHash txHash : String)
  (transactionIndex logIndex : String)
  receiptStatus : ReceiptStatus
  (pulseId rootfieldId actor pulseType subject commitment parentPulseId : String)
  (sequence occurredAt uri : String)
  deriving DecidableEq

section ids

variable [K : Keccak]

structure ObservationIdentityInput where
  (chainId emittingContract blockNumber blockHash txHash transactionIndex logIndex : String)
  (eventSignature pulseId rootfieldId : String)

def flowpulseObservationType : String :=
  "FlowPulseObservationV0(uint256 chainId,address emittingContract,uint64 blockNumber," ++
    "bytes32 blockHash,bytes32 txHash,uint32 transactionIndex,uint32 logIndex," ++
    "bytes32 eventSignature,bytes32 pulseId,bytes32 rootfieldId)"

def encodeObservationIdentity (input : ObservationIdentityInput) : Except String (List UInt8) := do
  let typeHash ← encodeBytes32 (keccakUtf8 flowpulseObservationType)
  let chainId ← encodeUint256 input.chainId
  let emittingContract ← encodeAddress input.emittingContract
  let blockNumber ← encodeUint256 input.blockNumber
  let blockHash ← encodeBytes32 input.blockHash
  let txHash ← encodeBytes32 input.txHash
  let transactionIndex ← encodeUint256 input.transactionIndex
  let logIndex ← encodeUint256 input.logIndex
  let eventSignature ← encodeBytes32 input.eventSignature
  let pulseId ← encodeBytes32 input.pulseId
  let rootfieldId ← encodeBytes32 input.rootfieldId
  pure [typeHash, chainId, emittingContract, blockNumber, blockHash, txHash, transactionIndex,
    logIndex, eventSignature, pulseId, rootfieldId].flatten

def deriveObservationId (input : ObservationIdentityInput) : Except String String := do
  let bytes ← encodeObservationIdentity input
  pure (keccakHex bytes)

def sourceSetIdDomain : String := "flowmemory.indexer.source_set.v0"

def intText (n : ℤ) : String := if n < 0 then "-" ++ decimalText n.natAbs else decimalText n.natAbs

def deriveSourceSetId (chainId : String) (addresses : List String) : Except String String := do
  let normalizedAddresses ← addresses.mapM normalizeAddress
  let sorted := normalizedAddresses.dedup.insertionSort (· ≤ ·)
  let chain ← bigInt chainId
  pure (keccakUtf8 (sourceSetIdDomain ++ "|" ++ intText chain ++ "|" ++ ",".intercalate sorted))

def cursorIdDomain : String := "flowmemory.indexer.cursor.v0"

def deriveCursorId (chainId sourceSetId blockNumber blockHash transactionIndex logIndex : String) :
    Except String String := do
  let chainId ← encodeUint256 chainId
  let sourceSetId ← encodeBytes32 sourceSetId
  let blockNumber ← encodeUint256 blockNumber
  let blockHash ← encodeBytes32 blockHash
  let transactionIndex ← encodeUint256 transactionIndex
  let logIndex ← encodeUint256 logIndex
  pure (keccakHex ([abiUintWord (7 * 32), chainId, sourceSetId, blockNumber, blockHash,
    transactionIndex, logIndex].flatten ++ encodeStringTail cursorIdDomain))

def parseFlowPulseLogFixture (log : RawFlowPulseLogFixture) (sourceSetId : String) :
    Except String ParsedFlowPulseObservation := do
  rejectIf (log.topics.length ≠ 4)
    ("FlowPulse log must have 4 topics, got " ++ decimalText log.topics.length)
  let eventSignature ← normalizeBytes32 (log.topics[0]?.getD "")
  rejectIf (eventSignature ≠ flowpulseEventTopic0)
    ("unsupported event signature: " ++ eventSignature)
  let data ← hexToBytes log.data none
  let emittingContract ← normalizeAddress log.address
  let blockHash ← normalizeBytes32 log.blockHash
  let txHash ← normalizeBytes32 log.transactionHash
  let pulseId ← normalizeBytes32 (log.topics[1]?.getD "")
  let rootfieldId ← normalizeBytes32 (log.topics[2]?.getD "")
  let actor ← decodeAddressTopic (log.topics[3]?.getD "")
  let observationId ← deriveObservationId
    { chainId := log.chainId, emittingContract, blockNumber := log.blockNumber, blockHash, txHash
      transactionIndex := log.transactionIndex, logIndex := log.logIndex, eventSignature, pulseId
      rootfieldId }
  let cursorId ← deriveCursorId log.chainId sourceSetId log.blockNumber blockHash
    log.transactionIndex log.logIndex
  let pulseType ← decodeUint256Word data 0
  let subject ← decodeBytes32Word data 1
  let commitment ← decodeBytes32Word data 2
  let parentPulseId ← decodeBytes32Word data 3
  let sequence ← decodeUint256Word data 4
  let occurredAt ← decodeUint256Word data 5
  let uriOffset ← decodeUint256Word data 6
  let uri ← decodeString data uriOffset
  pure
    { observationId, cursorId
      lifecycleState := if log.removed then .removed else .observed
      chainId := log.chainId
      emittingContract, eventSignature
      blockNumber := log.blockNumber
      blockHash, txHash
      transactionIndex := log.transactionIndex
      logIndex := log.logIndex
      receiptStatus := log.receiptStatus
      pulseId, rootfieldId, actor
      pulseType := decimalText pulseType
      subject, commitment, parentPulseId
      sequence := decimalText sequence
      occurredAt := decimalText occurredAt
      uri }

end ids

/-! ### Encodings -/

section encodings

variable {value : String} {n : ℕ} {bytes : List UInt8}

theorem hexToBytes_ok (h : hexToBytes value (some n) = .ok bytes) : bytes.length = n := by
  simp only [hexToBytes, bind_ok, rejectIf_ok, Option.getD_some, Option.isSome_some, true_and,
    not_not] at h
  obtain ⟨_, -, _, hlength, _, -, hbytes⟩ := h
  have hdecode := hexDecode_length (okOr_ok.mp hbytes)
  omega

theorem hexToBytes_bytesToHex (bytes : List UInt8) :
    hexToBytes (bytesToHex bytes) none = .ok bytes ∧
      hexToBytes (bytesToHex bytes) (some bytes.length) = .ok bytes := by
  have hdigits : (hexEncode bytes).all isHexDigit = true := by
    refine List.all_eq_true.mpr fun c hc => ?_
    obtain ⟨v, hv, rfl⟩ := Relayer.hexValue_of_mem_hexEncode hc
    rw [isHexDigit, hexValue_digitChar hv]
    rfl
  have hlength := Relayer.hexEncode_length bytes
  have hunprefixed : unprefixed (bytesToHex bytes).toList = hexEncode bytes := by
    rw [bytesToHex, String.toList_ofList]
    rfl
  constructor
  all_goals
    simp only [hexToBytes, hunprefixed, bind_ok, rejectIf_ok, hdigits, hlength]
    refine ⟨(), ?_, (), ?_, (), ?_, ?_⟩
    · simp
    · simp [Nat.mul_comm]
    · simp
    · rw [hexDecode_hexEncode]
      rfl

theorem normalizeHex_hexText {text : String} (h : normalizeHex value (some n) = .ok text) :
    Relayer.HexText n text := by
  simp only [normalizeHex, bind_ok, pure_ok] at h
  obtain ⟨bytes, hbytes, rfl⟩ := h
  exact ⟨bytes, hexToBytes_ok hbytes, rfl⟩

theorem encodeBytes32_bytesToHex (h : bytes.length = 32) :
    encodeBytes32 (bytesToHex bytes) = .ok bytes := by
  rw [encodeBytes32, ← h]
  exact (hexToBytes_bytesToHex bytes).2

theorem encodeUint256_length (h : encodeUint256 value = .ok bytes) : bytes.length = 32 := by
  simp only [encodeUint256, bind_ok, rejectIf_ok, pure_ok] at h
  obtain ⟨n, -, _, -, _, -, rfl⟩ := h
  exact Relayer.abiUintWord_length _

theorem encodeAddress_length (h : encodeAddress value = .ok bytes) : bytes.length = 32 := by
  simp only [encodeAddress, bind_ok, pure_ok] at h
  obtain ⟨address, haddress, rfl⟩ := h
  rw [List.length_append, List.length_replicate, hexToBytes_ok haddress]

end encodings

/-! ### Identifiers determine pulses -/

section identity

variable [K : Keccak] {o : ParsedFlowPulseObservation}

/-- What the identifier of an observation hashes. -/
def ParsedFlowPulseObservation.identity (o : ParsedFlowPulseObservation) :
    ObservationIdentityInput where
  chainId := o.chainId
  emittingContract := o.emittingContract
  blockNumber := o.blockNumber
  blockHash := o.blockHash
  txHash := o.txHash
  transactionIndex := o.transactionIndex
  logIndex := o.logIndex
  eventSignature := o.eventSignature
  pulseId := o.pulseId
  rootfieldId := o.rootfieldId

/-- An observation carries its identifier, and its pulse and its rootfield are normalized. -/
structure ParsedFlowPulseObservation.Identified (o : ParsedFlowPulseObservation) : Prop where
  observationId : deriveObservationId o.identity = .ok o.observationId
  pulseId : Relayer.HexText 32 o.pulseId
  rootfieldId : Relayer.HexText 32 o.rootfieldId

theorem parse_identified {log : RawFlowPulseLogFixture} {sourceSetId : String}
    (h : parseFlowPulseLogFixture log sourceSetId = .ok o) :
    o.Identified := by
  simp only [parseFlowPulseLogFixture, bind_ok, rejectIf_ok, pure_ok] at h
  obtain ⟨_, -, eventSignature, -, _, -, data, -, contract, -, blockHash, -, txHash, -, pulseId,
    hpulseId, rootfieldId, hrootfieldId, actor, -, observationId, hobservationId, cursorId, -,
    pulseType, -, subject, -, commitment, -, parentPulseId, -, sequence, -, occurredAt, -, uriOffset,
    -, uri, -, rfl⟩ := h
  exact ⟨hobservationId, normalizeHex_hexText hpulseId, normalizeHex_hexText hrootfieldId⟩

/-- The encoding ends with the pulse and the rootfield. -/
theorem encodeObservationIdentity_ok {input : ObservationIdentityInput} {bytes : List UInt8}
    (h : encodeObservationIdentity input = .ok bytes) :
    ∃ before pulseId rootfieldId, bytes = before ++ (pulseId ++ rootfieldId) ∧
      before.length = 9 * 32 ∧ encodeBytes32 input.pulseId = .ok pulseId ∧
      encodeBytes32 input.rootfieldId = .ok rootfieldId := by
  simp only [encodeObservationIdentity, bind_ok, pure_ok] at h
  obtain ⟨typeHash, htypeHash, chainId, hchainId, contract, hcontract, blockNumber, hblockNumber,
    blockHash, hblockHash, txHash, htxHash, transactionIndex, htransactionIndex, logIndex, hlogIndex,
    eventSignature, heventSignature, pulseId, hpulseId, rootfieldId, hrootfieldId, rfl⟩ := h
  refine ⟨[typeHash, chainId, contract, blockNumber, blockHash, txHash, transactionIndex, logIndex,
    eventSignature].flatten, pulseId, rootfieldId, ?_, ?_, hpulseId, hrootfieldId⟩
  · simp only [List.flatten_cons, List.flatten_nil, List.append_nil, List.append_assoc]
  · simp only [List.flatten_cons, List.flatten_nil, List.append_nil, List.length_append,
      hexToBytes_ok htypeHash, encodeUint256_length hchainId, encodeAddress_length hcontract,
      encodeUint256_length hblockNumber, hexToBytes_ok hblockHash, hexToBytes_ok htxHash,
      encodeUint256_length htransactionIndex, encodeUint256_length hlogIndex,
      hexToBytes_ok heventSignature]

/-- The bytes that the identifiers of the observations hash. -/
def identityPreimages (observations : List ParsedFlowPulseObservation) : Set (List UInt8) :=
  {bytes | ∃ o ∈ observations, encodeObservationIdentity o.identity = .ok bytes}

omit K in
theorem hexText_eq_of_encode {text text' : String} {bytes : List UInt8} {n : ℕ}
    (h : Relayer.HexText n text) (h' : Relayer.HexText n text')
    (hencode : hexToBytes text (some n) = .ok bytes)
    (hencode' : hexToBytes text' (some n) = .ok bytes) : text = text' := by
  obtain ⟨b, rfl, rfl⟩ := h
  obtain ⟨b', hb', rfl⟩ := h'
  rw [(hexToBytes_bytesToHex b).2] at hencode
  rw [← hb', (hexToBytes_bytesToHex b').2] at hencode'
  cases hencode
  cases hencode'
  rfl

/-- Observations with one identifier are of one pulse and one rootfield. -/
theorem eq_of_observationId_eq {observations : List ParsedFlowPulseObservation}
    (hinj : Set.InjOn K.digest (identityPreimages observations))
    {o' : ParsedFlowPulseObservation} (ho : o ∈ observations) (ho' : o' ∈ observations)
    (hid : o.Identified) (hid' : o'.Identified) (h : o.observationId = o'.observationId) :
    o.pulseId = o'.pulseId ∧ o.rootfieldId = o'.rootfieldId := by
  have hderive := hid.observationId
  have hderive' := hid'.observationId
  simp only [deriveObservationId, bind_ok, pure_ok] at hderive hderive'
  obtain ⟨bytes, hbytes, hkeccak⟩ := hderive
  obtain ⟨bytes', hbytes', hkeccak'⟩ := hderive'
  have hdigest : K.digest bytes = K.digest bytes' :=
    digest_eq_of_keccakHex_eq (hkeccak.symm.trans (h.trans hkeccak'))
  have heq := hinj ⟨o, ho, hbytes⟩ ⟨o', ho', hbytes'⟩ hdigest
  obtain ⟨before, pulseId, rootfieldId, rfl, hbefore, hpulse, hrootfield⟩ :=
    encodeObservationIdentity_ok hbytes
  obtain ⟨before', pulseId', rootfieldId', rfl, hbefore', hpulse', hrootfield'⟩ :=
    encodeObservationIdentity_ok hbytes'
  obtain ⟨-, htail⟩ := List.append_inj heq (hbefore.trans hbefore'.symm)
  obtain ⟨rfl, rfl⟩ := List.append_inj htail
    ((hexToBytes_ok hpulse).trans (hexToBytes_ok hpulse').symm)
  exact ⟨hexText_eq_of_encode hid.pulseId hid'.pulseId hpulse hpulse',
    hexText_eq_of_encode hid.rootfieldId hid'.rootfieldId hrootfield hrootfield'⟩

end identity

end FlowMemory.Indexer
