import FlowMemory.Indexer.FlowPulse

/-! # The log of a pulse

A pulse is written into a log by the rules of the contract's event: the pulse, the rootfield and the
actor into topics, the other fields as words, and the text at the end.  Reading the log gives the
fields back (`parse_pulseLog`). -/

namespace FlowMemory.Indexer

open Crypto Check
open Relayer (decimalText wordAt addressWord abiUintWord_length bytesValue_abiUintWord)

/-- A pulse and where its log stands. -/
structure PulseEvent where
  (chainId blockNumber transactionIndex logIndex : ℕ)
  (contract blockHash txHash : List UInt8)
  (pulseId rootfieldId actor : List UInt8)
  pulseType : ℕ
  (subject commitment parentPulseId : List UInt8)
  (sequence occurredAt : ℕ)
  uri : List UInt8
  removed : Bool

/-- Addresses have 20 bytes, hashes have 32, and the numbers fit a word. -/
structure PulseEvent.Valid (e : PulseEvent) : Prop where
  chainId : e.chainId < 2 ^ 256
  blockNumber : e.blockNumber < 2 ^ 256
  transactionIndex : e.transactionIndex < 2 ^ 256
  logIndex : e.logIndex < 2 ^ 256
  contract : e.contract.length = 20
  blockHash : e.blockHash.length = 32
  txHash : e.txHash.length = 32
  pulseId : e.pulseId.length = 32
  rootfieldId : e.rootfieldId.length = 32
  actor : e.actor.length = 20
  pulseType : e.pulseType < 2 ^ 256
  subject : e.subject.length = 32
  commitment : e.commitment.length = 32
  parentPulseId : e.parentPulseId.length = 32
  sequence : e.sequence < 2 ^ 256
  occurredAt : e.occurredAt < 2 ^ 256
  uri : e.uri.length < 2 ^ 256

/-- The words of the data before the text. -/
def PulseEvent.words (e : PulseEvent) : List (List UInt8) :=
  [abiUintWord e.pulseType, e.subject, e.commitment, e.parentPulseId, abiUintWord e.sequence,
    abiUintWord e.occurredAt, abiUintWord (7 * 32), abiUintWord e.uri.length]

def PulseEvent.data (e : PulseEvent) : List UInt8 :=
  e.words.flatten ++ (e.uri ++ List.replicate ((32 - e.uri.length % 32) % 32) 0)

def PulseEvent.log (e : PulseEvent) : RawFlowPulseLogFixture where
  chainId := decimalText e.chainId
  address := bytesToHex e.contract
  topics := [flowpulseEventTopic0, bytesToHex e.pulseId, bytesToHex e.rootfieldId,
    bytesToHex (addressWord e.actor)]
  data := bytesToHex e.data
  blockNumber := decimalText e.blockNumber
  blockHash := bytesToHex e.blockHash
  transactionHash := bytesToHex e.txHash
  transactionIndex := decimalText e.transactionIndex
  logIndex := decimalText e.logIndex
  receiptStatus := .success
  removed := e.removed

def eventTopicBytes : List UInt8 :=
  [0x5d, 0x07, 0x19, 0x0b, 0x9a, 0xe4, 0x41, 0xb4, 0xd7, 0xb1, 0x62, 0x59, 0xa4, 0x84, 0x24, 0xac,
    0xd4, 0x51, 0x49, 0x2b, 0x12, 0xf5, 0xf9, 0x9a, 0x29, 0xf5, 0xbf, 0xd9, 0x92, 0xc1, 0x3e, 0x43]

theorem flowpulseEventTopic0_eq : flowpulseEventTopic0 = bytesToHex eventTopicBytes := by
  decide +kernel

section pulses

variable [K : Keccak]

/-- The bytes that the identifier of the observation hashes. -/
def PulseEvent.identity (e : PulseEvent) : List UInt8 :=
  [K.digest (utf8 (chars flowpulseObservationType)), abiUintWord e.chainId, addressWord e.contract,
    abiUintWord e.blockNumber, e.blockHash, e.txHash, abiUintWord e.transactionIndex,
    abiUintWord e.logIndex, eventTopicBytes, e.pulseId, e.rootfieldId].flatten

def PulseEvent.cursor (e : PulseEvent) (sourceSet : List UInt8) : List UInt8 :=
  [abiUintWord (7 * 32), abiUintWord e.chainId, sourceSet, abiUintWord e.blockNumber, e.blockHash,
    abiUintWord e.transactionIndex, abiUintWord e.logIndex].flatten ++ encodeStringTail cursorIdDomain

/-- The observation of the log. -/
def PulseEvent.observation (e : PulseEvent) (sourceSet : List UInt8) :
    ParsedFlowPulseObservation where
  observationId := keccakHex e.identity
  cursorId := keccakHex (e.cursor sourceSet)
  lifecycleState := if e.removed then .removed else .observed
  chainId := decimalText e.chainId
  emittingContract := bytesToHex e.contract
  eventSignature := flowpulseEventTopic0
  blockNumber := decimalText e.blockNumber
  blockHash := bytesToHex e.blockHash
  txHash := bytesToHex e.txHash
  transactionIndex := decimalText e.transactionIndex
  logIndex := decimalText e.logIndex
  receiptStatus := .success
  pulseId := bytesToHex e.pulseId
  rootfieldId := bytesToHex e.rootfieldId
  actor := bytesToHex e.actor
  pulseType := decimalText e.pulseType
  subject := bytesToHex e.subject
  commitment := bytesToHex e.commitment
  parentPulseId := bytesToHex e.parentPulseId
  sequence := decimalText e.sequence
  occurredAt := decimalText e.occurredAt
  uri := decodeText e.uri

variable {e : PulseEvent} {bytes : List UInt8} {n : ℕ}

/-! ### The encodings of normalized text -/

omit K in
theorem stringToBigInt_decimalText (n : ℕ) : stringToBigInt (decimalText n) = some (n : ℤ) := by
  have hvalue : digitsValue (Nat.toDigits 10 n) = n := by
    have h := Relayer.decimalValue_decimalText n
    rwa [Relayer.decimalValue, decimalText, chars_eq, String.toList_ofList] at h
  rw [decimalText, stringToBigInt_digits Nat.toDigits_ne_nil
    fun _ hc => Json.isDigit_of_mem_toDigits hc, hvalue]

omit K in
theorem encodeUint256_decimalText (h : n < 2 ^ 256) :
    encodeUint256 (decimalText n) = .ok (abiUintWord n) := by
  simp only [encodeUint256, bind_ok, rejectIf_ok, pure_ok]
  refine ⟨n, ?_, (), by omega, (), by omega, by rw [Int.toNat_natCast]⟩
  rw [bigInt, stringToBigInt_decimalText]
  rfl

omit K in
theorem normalizeHex_bytesToHex (h : bytes.length = n) :
    normalizeHex (bytesToHex bytes) (some n) = .ok (bytesToHex bytes) := by
  subst h
  rw [normalizeHex, (hexToBytes_bytesToHex bytes).2]
  rfl

omit K in
theorem encodeAddress_bytesToHex (h : bytes.length = 20) :
    encodeAddress (bytesToHex bytes) = .ok (addressWord bytes) := by
  have hbytes := (hexToBytes_bytesToHex bytes).2
  rw [h] at hbytes
  rw [encodeAddress, hbytes]
  rfl

/-! ### The words of the data -/

omit K in
theorem PulseEvent.Valid.words_length (he : e.Valid) : ∀ word ∈ e.words, word.length = 32 := by
  simp [PulseEvent.words, he.subject, he.commitment, he.parentPulseId, abiUintWord_length]

omit K in
theorem PulseEvent.Valid.flatten_length (he : e.Valid) : e.words.flatten.length = 8 * 32 := by
  simp [PulseEvent.words, he.subject, he.commitment, he.parentPulseId, abiUintWord_length]

omit K in
theorem abiWord_data (he : e.Valid) {word : List UInt8} {i : ℕ} (hi : e.words[i]? = some word) :
    abiWord e.data i = .ok word := by
  have hlt : i < 8 := (List.getElem?_eq_some_iff.mp hi).1
  have hlength := he.flatten_length
  have hword : wordAt e.data i = word := by
    rw [← Relayer.wordAt_flatten he.words_length hi, wordAt, wordAt, PulseEvent.data,
      List.drop_append_of_le_length (by omega), List.take_append_of_le_length]
    rw [List.length_drop]
    omega
  simp only [abiWord, bind_ok, rejectIf_ok, pure_ok]
  refine ⟨(), ?_, hword.symm⟩
  rw [PulseEvent.data, List.length_append]
  omega

omit K in
theorem decodeString_data (he : e.Valid) :
    decodeString e.data (7 * 32) = .ok (decodeText e.uri) := by
  have hlength := he.flatten_length
  have hword : abiWord e.data 7 = .ok (abiUintWord e.uri.length) := abiWord_data he rfl
  have htext : (e.data.drop (7 * 32 + 32)).take e.uri.length = e.uri := by
    rw [PulseEvent.data, List.drop_left' hlength, List.take_left]
  simp only [decodeString, decodeUint256Word, bind_ok, rejectIf_ok, pure_ok]
  refine ⟨(), by decide, e.uri.length, ⟨_, hword, (bytesValue_abiUintWord he.uri).symm⟩, (),
    ?_, ?_⟩
  · rw [PulseEvent.data, List.length_append, List.length_append]
    omega
  · rw [htext]

/-! ### Reading the log -/

variable {sourceSet : List UInt8}

theorem encodeObservationIdentity_pulse (hdigest : ∀ bytes, (K.digest bytes).length = 32)
    (he : e.Valid) :
    encodeObservationIdentity (e.observation sourceSet).identity = .ok e.identity := by
  have htopic : encodeBytes32 flowpulseEventTopic0 = .ok eventTopicBytes := by
    rw [flowpulseEventTopic0_eq]
    exact encodeBytes32_bytesToHex rfl
  simp only [encodeObservationIdentity, bind_ok, pure_ok]
  exact ⟨_, encodeBytes32_bytesToHex (hdigest _), _, encodeUint256_decimalText he.chainId, _,
    encodeAddress_bytesToHex he.contract, _, encodeUint256_decimalText he.blockNumber, _,
    encodeBytes32_bytesToHex he.blockHash, _, encodeBytes32_bytesToHex he.txHash, _,
    encodeUint256_decimalText he.transactionIndex, _, encodeUint256_decimalText he.logIndex, _,
    htopic, _, encodeBytes32_bytesToHex he.pulseId, _,
    encodeBytes32_bytesToHex he.rootfieldId, rfl⟩

theorem parse_pulseLog (hdigest : ∀ bytes, (K.digest bytes).length = 32) (he : e.Valid)
    (hsource : sourceSet.length = 32) :
    parseFlowPulseLogFixture e.log (bytesToHex sourceSet) = .ok (e.observation sourceSet) := by
  have htopic : normalizeBytes32 flowpulseEventTopic0 = .ok flowpulseEventTopic0 := by
    rw [flowpulseEventTopic0_eq]
    exact normalizeHex_bytesToHex rfl
  have hactor : decodeAddressTopic (bytesToHex (addressWord e.actor)) = .ok (bytesToHex e.actor) := by
    have hword : (addressWord e.actor).length = 32 := by simp [addressWord, he.actor]
    have hbytes := (hexToBytes_bytesToHex (addressWord e.actor)).2
    rw [hword] at hbytes
    rw [decodeAddressTopic, hbytes]
    exact congrArg Except.ok (Relayer.addressFromWord_addressWord e.actor)
  have hcursor : deriveCursorId (decimalText e.chainId) (bytesToHex sourceSet)
      (decimalText e.blockNumber) (bytesToHex e.blockHash) (decimalText e.transactionIndex)
      (decimalText e.logIndex) = .ok (keccakHex (e.cursor sourceSet)) := by
    simp only [deriveCursorId, bind_ok, pure_ok]
    exact ⟨_, encodeUint256_decimalText he.chainId, _, encodeBytes32_bytesToHex hsource, _,
      encodeUint256_decimalText he.blockNumber, _, encodeBytes32_bytesToHex he.blockHash, _,
      encodeUint256_decimalText he.transactionIndex, _, encodeUint256_decimalText he.logIndex, rfl⟩
  have hid : deriveObservationId (e.observation sourceSet).identity = .ok (keccakHex e.identity) := by
    rw [deriveObservationId, encodeObservationIdentity_pulse hdigest he]
    rfl
  have huint {i n : ℕ} (hi : e.words[i]? = some (abiUintWord n)) (hn : n < 2 ^ 256) :
      decodeUint256Word e.data i = .ok n := by
    rw [decodeUint256Word, abiWord_data he hi]
    exact congrArg Except.ok (bytesValue_abiUintWord hn)
  have hbytes {i : ℕ} {word : List UInt8} (hi : e.words[i]? = some word) :
      decodeBytes32Word e.data i = .ok (bytesToHex word) := by
    rw [decodeBytes32Word, abiWord_data he hi]
    rfl
  simp only [parseFlowPulseLogFixture, bind_ok, rejectIf_ok, pure_ok]
  exact ⟨(), not_not.mpr rfl, _, htopic, (), not_not.mpr rfl, _, (hexToBytes_bytesToHex e.data).1, _,
    normalizeHex_bytesToHex he.contract, _, normalizeHex_bytesToHex he.blockHash, _,
    normalizeHex_bytesToHex he.txHash, _, normalizeHex_bytesToHex he.pulseId, _,
    normalizeHex_bytesToHex he.rootfieldId, _, hactor, _, hid, _, hcursor, _, huint rfl he.pulseType,
    _, hbytes rfl, _, hbytes rfl, _, hbytes rfl, _, huint rfl he.sequence, _,
    huint rfl he.occurredAt, _, huint rfl (by norm_num), _, decodeString_data he, rfl⟩

/-! ### Different pulses -/

/-- The observation has the fields of the pulse, and the text without its mark. -/
theorem observation_inj {e' : PulseEvent} {text text' : String} (huri : e.uri = utf8 text.toList)
    (huri' : e'.uri = utf8 text'.toList) : e.observation sourceSet = e'.observation sourceSet ↔
      { e with uri := [] } = { e' with uri := [] } ∧
        dropMark text.toList = dropMark text'.toList := by
  have hnumber : ∀ m n : ℕ, decimalText m = decimalText n ↔ m = n := fun m n =>
    Function.LeftInverse.injective Relayer.decimalValue_decimalText |>.eq_iff
  have hbytes : ∀ as bs : List UInt8, bytesToHex as = bytesToHex bs ↔ as = bs := fun as bs => by
    simp [bytesToHex, String.ofList_inj, hexEncode_inj]
  have huris : decodeText e.uri = decodeText e'.uri ↔
      dropMark text.toList = dropMark text'.toList := by
    rw [huri, huri', utf8, utf8, decodeText_encode, decodeText_encode, String.ofList_inj]
  have hstate : (if e.removed then LifecycleState.removed else .observed) =
      (if e'.removed then LifecycleState.removed else .observed) ↔ e.removed = e'.removed := by
    cases e.removed <;> cases e'.removed <;> simp
  simp only [PulseEvent.observation, ParsedFlowPulseObservation.mk.injEq, hnumber, hbytes, hstate,
    huris, PulseEvent.mk.injEq]
  constructor
  · grind
  · rintro ⟨h, hdrop⟩
    simp [PulseEvent.identity, PulseEvent.cursor, h, hdrop]

/-- The log of a pulse whose text is valid UTF-8 is read as the pulse if the text does not start with
a byte order mark, and two logs are read alike if they differ in a mark only. -/
theorem pulse_logs_decoded_iff (hdigest : ∀ bytes, (K.digest bytes).length = 32)
    (hsource : sourceSet.length = 32) {e' : PulseEvent} (he : e.Valid) (he' : e'.Valid)
    {text text' : String} (huri : e.uri = utf8 text.toList) (huri' : e'.uri = utf8 text'.toList) :
    (parseFlowPulseLogFixture e.log (bytesToHex sourceSet) =
        .ok { e.observation sourceSet with uri := text } ↔
      text.toList.head? ≠ some byteOrderMark) ∧
    (parseFlowPulseLogFixture e.log (bytesToHex sourceSet) =
        parseFlowPulseLogFixture e'.log (bytesToHex sourceSet) ↔
      { e with uri := [] } = { e' with uri := [] } ∧
        dropMark text.toList = dropMark text'.toList) := by
  rw [parse_pulseLog hdigest he hsource, parse_pulseLog hdigest he' hsource, Except.ok.injEq,
    Except.ok.injEq, ← dropMark_eq_iff]
  refine ⟨?_, observation_inj huri huri'⟩
  have hread : (e.observation sourceSet).uri = String.ofList (dropMark text.toList) :=
    (congrArg decodeText huri).trans (decodeText_encode _)
  constructor
  · intro h
    have htext := hread.symm.trans (congrArg (·.uri) h)
    rw [← String.ofList_inj, htext, String.ofList_toList]
  · intro h
    rw [h, String.ofList_toList] at hread
    exact congrArg (fun text => { e.observation sourceSet with uri := text }) hread

end pulses

/-- A pulse in the given block, transaction and log. -/
def samplePulse (block transaction log : ℕ) (removed : Bool) : PulseEvent where
  chainId := 8453
  blockNumber := block
  transactionIndex := transaction
  logIndex := log
  contract := List.replicate 20 0xc0
  blockHash := List.replicate 32 0xb0
  txHash := List.replicate 32 0x70
  pulseId := List.replicate 32 0x01
  rootfieldId := List.replicate 32 0x02
  actor := List.replicate 20 0xaa
  pulseType := 2
  subject := List.replicate 32 0x03
  commitment := List.replicate 32 0x04
  parentPulseId := List.replicate 32 0
  sequence := 1
  occurredAt := 1000
  uri := []
  removed

theorem samplePulse_valid (removed : Bool) : (samplePulse 5 0 0 removed).Valid := by
  constructor <;> first | exact List.length_replicate | norm_num [samplePulse]

/-- A pulse with the given text. -/
def textPulse (text : String) : PulseEvent :=
  { samplePulse 5 0 0 false with uri := utf8 text.toList }

theorem textPulse_valid {text : String} (h : (utf8 text.toList).length < 2 ^ 256) :
    (textPulse text).Valid :=
  { samplePulse_valid false with uri := h }

/-- A text after a byte order mark is read like the text alone. -/
theorem marked_pulse_read_alike :
    letI : Keccak := keccak256
    utf8 "\uFEFFa".toList ≠ utf8 "a".toList ∧
      parseFlowPulseLogFixture (textPulse "\uFEFFa").log (bytesToHex (List.replicate 32 0)) =
        parseFlowPulseLogFixture (textPulse "a").log (bytesToHex (List.replicate 32 0)) := by
  let _ : Keccak := keccak256
  refine ⟨by decide, ?_⟩
  rw [parse_pulseLog keccak256_length (textPulse_valid (by decide))
    List.length_replicate, parse_pulseLog keccak256_length
    (textPulse_valid (by decide)) List.length_replicate]
  rfl

/-- Texts without a mark are read as they are. -/
theorem pulse_logs_decoded_iff_sample :
    letI : Keccak := keccak256
    let sourceSet := List.replicate 32 0
    parseFlowPulseLogFixture (textPulse "é").log (bytesToHex sourceSet) =
        .ok { (textPulse "é").observation sourceSet with uri := "é" } ∧
      parseFlowPulseLogFixture (textPulse "é").log (bytesToHex sourceSet) ≠
        parseFlowPulseLogFixture (textPulse "e").log (bytesToHex sourceSet) := by
  let _ : Keccak := keccak256
  have he : (textPulse "é").Valid := textPulse_valid (by decide)
  have he' : (textPulse "e").Valid := textPulse_valid (by decide)
  have h := pulse_logs_decoded_iff keccak256_length
    (List.length_replicate (n := 32) (a := (0 : UInt8))) he he' rfl rfl
  exact ⟨h.1.mpr (by decide), fun heq => absurd (h.2.mp heq).2 (by decide)⟩

end FlowMemory.Indexer
