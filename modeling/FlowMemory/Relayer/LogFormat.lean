import FlowMemory.Relayer.Credits

/-! # The log of a deposit

The lockbox writes a deposit into a log: the identifier, the chain and the sender into topics, the
other fields as words of 32 bytes.  The event has two **versions** with topics of their own: the
extended one has the lockbox before these words and the tag of the pilot after them.  Reading the log
gives the deposit back (`parseBridgeDepositLog_log`), also if the topic is that of the other version
(`deposit_logs_decoded_iff`). -/

namespace FlowMemory.Relayer

open Crypto Check

/-! ### Normalized text is kept -/

/-- Lower-case hexadecimal text of `n` bytes. -/
def HexText (n : ℕ) (text : String) : Prop := ∃ bytes, bytes.length = n ∧ text = bytesToHex bytes

theorem decimalValue_decimalText (n : ℕ) : decimalValue (decimalText n) = n := by
  rw [decimalValue, decimalText, chars_eq, String.toList_ofList]
  exact Nat.ofDigitChars_toDigits (by omega) (by omega)

/-- The chains whose deposits the relayer reads. -/
def SupportedChain (chainId : ℕ) : Prop :=
  chainId = localAnvilChainId ∨ chainId = baseSepoliaChainId ∨ chainId = baseMainnetChainId

theorem asSourceChainId_ok {n chainId : ℕ} {name : String} :
    asSourceChainId (some n) name = .ok chainId ↔ n = chainId ∧ SupportedChain chainId := by
  rw [asSourceChainId, okOr_ok, Option.filter_eq_some_iff, Option.some.injEq]
  refine and_congr_right fun h => ?_
  subst h
  simp [SupportedChain]

theorem optionally_ok {α β : Type} {check : α → Except String β} {a : α} {b : β}
    (h : check a = .ok b) : optionally check (some a) = .ok (some b) := by
  simp only [optionally, h]
  rfl

section hex

variable {bytes : List UInt8} {n : ℕ} {name : String}

theorem hexEncode_length (bytes : List UInt8) : (hexEncode bytes).length = 2 * bytes.length := by
  induction bytes with
  | nil => rfl
  | cons b bytes ih =>
    rw [hexEncode, List.length_cons, List.length_cons, List.length_cons, ih]
    omega

theorem hexValue_of_mem_hexEncode {c : Char} (h : c ∈ hexEncode bytes) :
    ∃ v, v < 16 ∧ c = Nat.digitChar v := by
  induction bytes with
  | nil => nomatch h
  | cons b bytes ih =>
    have hb := b.toNat_lt
    rw [hexEncode, List.mem_cons, List.mem_cons] at h
    rcases h with rfl | rfl | h
    · exact ⟨_, by omega, rfl⟩
    · exact ⟨_, by omega, rfl⟩
    · exact ih h

theorem toLower_digitChar {v : ℕ} (h : v < 16) : (Nat.digitChar v).toLower = Nat.digitChar v := by
  interval_cases v <;> decide

theorem map_toLower_hexEncode (bytes : List UInt8) :
    (hexEncode bytes).map Char.toLower = hexEncode bytes := by
  have h : ∀ c ∈ hexEncode bytes, c.toLower = c := by
    intro c hc
    obtain ⟨v, hv, rfl⟩ := hexValue_of_mem_hexEncode hc
    exact toLower_digitChar hv
  rw [List.map_congr_left h, List.map_id']

theorem toAsciiLowercase_bytesToHex (bytes : List UInt8) :
    toAsciiLowercase (bytesToHex bytes) = bytesToHex bytes := by
  rw [toAsciiLowercase, bytesToHex, chars_eq, String.toList_ofList, List.map_cons, List.map_cons,
    map_toLower_hexEncode]
  rfl

theorem normalizeHex_bytesToHex (h : bytes.length = n) :
    normalizeHex (bytesToHex bytes) n = some (bytesToHex bytes) := by
  have hdigits : (hexEncode bytes).all isHexDigit = true ∧ (hexEncode bytes).length = n * 2 := by
    refine ⟨List.all_eq_true.mpr fun c hc => ?_, by rw [hexEncode_length, h, Nat.mul_comm]⟩
    obtain ⟨v, hv, rfl⟩ := hexValue_of_mem_hexEncode hc
    rw [isHexDigit, hexValue_digitChar hv]
    rfl
  simp only [normalizeHex, bytesToHex, chars_eq, String.toList_ofList, unprefixed]
  rw [if_pos hdigits, map_toLower_hexEncode]

theorem asHash_bytesToHex (h : bytes.length = 32) :
    asHash (bytesToHex bytes) name = .ok (bytesToHex bytes) := by
  rw [asHash, normalizeHex_bytesToHex h]
  rfl

theorem asAddress_bytesToHex (h : bytes.length = 20) :
    asAddress (bytesToHex bytes) name = .ok (bytesToHex bytes) := by
  rw [asAddress, normalizeHex_bytesToHex h]
  rfl

theorem dataBytes_bytesToHex (bytes : List UInt8) : dataBytes (bytesToHex bytes) = .ok bytes := by
  rw [dataBytes, bytesToHex, chars_eq, String.toList_ofList, unprefixed, hexDecode_hexEncode]
  rfl

end hex

/-! ### Words -/

theorem abiUintWord_length (n : ℕ) : (abiUintWord n).length = 32 := by
  rw [abiUintWord, List.length_map, List.length_range]

theorem bytesValue_append_singleton (bytes : List UInt8) (b : UInt8) :
    bytesValue (bytes ++ [b]) = 256 * bytesValue bytes + b.toNat := by
  rw [bytesValue, List.foldl_append]
  rfl

/-- The first bytes of a word are the number without its last digits. -/
theorem bytesValue_take_abiUintWord (n k : ℕ) (h : k ≤ 32) :
    bytesValue ((List.range k).map fun i => UInt8.ofNat (n / 256 ^ (31 - i))) =
      n / 256 ^ (32 - k) % 256 ^ k := by
  induction k with
  | zero => simp [bytesValue, Nat.mod_one]
  | succ k ih =>
    have hexp : 32 - k = 31 - k + 1 := by omega
    have hexp' : 32 - (k + 1) = 31 - k := by omega
    have hdiv : n / 256 ^ (31 - k + 1) = n / 256 ^ (31 - k) / 256 := by
      rw [Nat.pow_succ, Nat.div_div_eq_div_mul]
    have hpow : 256 ^ (k + 1) = 256 * 256 ^ k := Nat.pow_succ'
    rw [List.range_succ, List.map_append, List.map_singleton, bytesValue_append_singleton,
      ih (by omega), hexp, hexp', hdiv, UInt8.toNat_ofNat', hpow, Nat.mod_mul, Nat.add_comm]

theorem bytesValue_abiUintWord {n : ℕ} (h : n < 2 ^ 256) : bytesValue (abiUintWord n) = n := by
  have hvalue := bytesValue_take_abiUintWord n 32 le_rfl
  rw [Nat.sub_self, Nat.pow_zero, Nat.div_one, Nat.mod_eq_of_lt (h.trans_eq (by norm_num))] at hvalue
  exact hvalue

/-! ### Events -/

/-- A deposit as the lockbox emits it. -/
structure LockboxEvent where
  (lockbox sender token : List UInt8)
  (depositId recipient metadataHash txHash blockHash : List UInt8)
  (chainId amount nonce : ℕ)
  (blockNumber logIndex : String)
  transactionIndex : Option String

/-- Addresses have 20 bytes, hashes have 32, and the numbers fit a word. -/
structure LockboxEvent.Valid (e : LockboxEvent) : Prop where
  lockbox : e.lockbox.length = 20
  sender : e.sender.length = 20
  token : e.token.length = 20
  depositId : e.depositId.length = 32
  recipient : e.recipient.length = 32
  metadataHash : e.metadataHash.length = 32
  txHash : e.txHash.length = 32
  blockHash : e.blockHash.length = 32
  chainId : SupportedChain e.chainId
  amount : e.amount < 2 ^ 256
  nonce : e.nonce < 2 ^ 256

/-- An address as a word. -/
def addressWord (address : List UInt8) : List UInt8 := List.replicate 12 0 ++ address

/-- The words of the data of the log. -/
def LockboxEvent.words (e : LockboxEvent) : List (List UInt8) :=
  [addressWord e.token, abiUintWord e.amount, e.recipient, abiUintWord e.nonce, e.metadataHash]

section events

variable [K : Keccak]

def LockboxEvent.legacyLog (e : LockboxEvent) : RpcLog where
  address := bytesToHex e.lockbox
  topics := [bridgeDepositLegacyTopic0, bytesToHex e.depositId, bytesToHex (abiUintWord e.chainId),
    bytesToHex (addressWord e.sender)]
  data := bytesToHex e.words.flatten
  blockNumber := some e.blockNumber
  blockHash := some (bytesToHex e.blockHash)
  transactionHash := bytesToHex e.txHash
  transactionIndex := e.transactionIndex
  logIndex := e.logIndex
  removed := false

/-- The versions of the event. -/
inductive EventVersion where
  | extended | legacy
  deriving DecidableEq

/-- The number of words in the data. -/
def EventVersion.width : EventVersion → ℕ
  | .extended => 7
  | .legacy => 5

def EventVersion.topic0 : EventVersion → String
  | .extended => bridgeDepositTopic0
  | .legacy => bridgeDepositLegacyTopic0

/-- The bytes of the tag of the pilot. -/
def pilotModeBytes : List UInt8 := K.digest (utf8 "flowmemory.base8453.owner-pilot.v0".toList)

def LockboxEvent.dataWords (e : LockboxEvent) : EventVersion → List (List UInt8)
  | .extended => addressWord e.lockbox :: (e.words ++ [pilotModeBytes])
  | .legacy => e.words

/-- The log with the topic of one version and the data of the same or the other one. -/
def LockboxEvent.log (e : LockboxEvent) (topic layout : EventVersion) : RpcLog :=
  { e.legacyLog with
    topics := topic.topic0 :: e.legacyLog.topics.tail
    data := bytesToHex (e.dataWords layout).flatten }

/-- The deposit of an event. -/
def LockboxEvent.deposit (e : LockboxEvent) (block index : ℕ) (txIndex : Option ℕ) :
    BridgeDeposit where
  depositId := bytesToHex e.depositId
  sourceChainId := e.chainId
  sourceContract := bytesToHex e.lockbox
  txHash := bytesToHex e.txHash
  logIndex := index
  sourceBlockNumber := some (decimalText block)
  sourceBlockHash := some (bytesToHex e.blockHash)
  transactionIndex := txIndex
  token := bytesToHex e.token
  amount := decimalText e.amount
  sender := bytesToHex e.sender
  flowmemoryRecipient := bytesToHex e.recipient
  nonce := decimalText e.nonce
  metadataHash := some (bytesToHex e.metadataHash)

variable {e : LockboxEvent} {block index : ℕ} {txIndex : Option ℕ} {topic layout : EventVersion}

omit K in
theorem wordAt_flatten {words : List (List UInt8)} {word : List UInt8} {i : ℕ}
    (h : ∀ word ∈ words, word.length = 32) (hi : words[i]? = some word) :
    wordAt words.flatten i = word := by
  induction words generalizing i with
  | nil => simp at hi
  | cons first words ih =>
    rw [List.forall_mem_cons] at h
    cases i with
    | zero =>
      rw [List.getElem?_cons_zero, Option.some.injEq] at hi
      subst hi
      rw [wordAt, List.flatten_cons, Nat.mul_zero, List.drop_zero, ← h.1, List.take_left]
    | succ i =>
      rw [List.getElem?_cons_succ] at hi
      have hdrop : (first ++ words.flatten).drop (32 * (i + 1)) = words.flatten.drop (32 * i) := by
        rw [Nat.mul_succ, Nat.add_comm, ← h.1, List.drop_length_add_append]
      rw [← ih h.2 hi, wordAt, wordAt, List.flatten_cons, hdrop]

theorem LockboxEvent.Valid.words_length (he : e.Valid)
    (htag : layout = .extended → pilotModeBytes.length = 32) :
    (∀ word ∈ e.dataWords layout, word.length = 32) ∧
      (e.dataWords layout).flatten.length = layout.width * 32 := by
  cases layout <;>
    simp_all [LockboxEvent.dataWords, LockboxEvent.words, addressWord, he.lockbox, he.token,
      he.recipient, he.metadataHash, abiUintWord_length, EventVersion.width]

omit K in
theorem addressFromWord_addressWord (address : List UInt8) :
    addressFromWord (addressWord address) = bytesToHex address := by
  rw [addressFromWord, addressWord]
  exact congrArg bytesToHex (List.drop_left' (by rfl))

theorem toAsciiLowercase_topic0 (version : EventVersion) :
    toAsciiLowercase version.topic0 = version.topic0 := by
  cases version <;> exact toAsciiLowercase_bytesToHex _

theorem topic0_known (version : EventVersion) :
    ¬(some version.topic0 ≠ some bridgeDepositTopic0 ∧
      some version.topic0 ≠ some bridgeDepositLegacyTopic0) := by
  cases version with
  | extended => exact fun h => h.1 rfl
  | legacy => exact fun h => h.2 rfl

omit K in
theorem decodeAddressTopic_addressWord {address : List UInt8} (h : address.length = 20) :
    decodeAddressTopic (bytesToHex (addressWord address)) = .ok (bytesToHex address) := by
  have hlength : (addressWord address).length = 32 := by
    simp [addressWord, h]
  rw [decodeAddressTopic, asHash_bytesToHex hlength]
  simp only [bind_ok, pure_ok]
  exact ⟨_, rfl, _, dataBytes_bytesToHex _, (addressFromWord_addressWord address).symm⟩

/-- Both layouts name the lockbox, the extended one in its first word and the legacy one as emitter. -/
theorem eventLockboxOf_log (he : e.Valid)
    (htag : layout = .extended → pilotModeBytes.length = 32) :
    eventLockboxOf (e.log topic layout) (e.dataWords layout).flatten = .ok (bytesToHex e.lockbox) := by
  obtain ⟨hwords, hlength⟩ := he.words_length htag
  cases layout with
  | extended =>
    have hextended : (e.dataWords .extended).flatten.length = 7 * 32 := hlength
    rw [eventLockboxOf, if_pos hextended, wordAt_flatten hwords (i := 0) rfl,
      addressFromWord_addressWord]
  | legacy =>
    rw [eventLockboxOf, if_neg (by rw [hlength]; decide)]
    exact asAddress_bytesToHex he.lockbox

/-- The parser gives the deposit back, whichever topic the log has. -/
theorem parseBridgeDepositLog_log (he : e.Valid)
    (htag : layout = .extended → pilotModeBytes.length = 32)
    (hblock : hexQuantity e.blockNumber "blockNumber" = .ok block)
    (hindex : hexQuantityToNumber e.logIndex "logIndex" = .ok index)
    (htxIndex : optionally (hexQuantityToNumber · "transactionIndex") e.transactionIndex =
      .ok txIndex) :
    parseBridgeDepositLog (e.log topic layout) e.chainId = .ok (e.deposit block index txIndex) := by
  obtain ⟨hwords, hlength⟩ := he.words_length htag
  have hword : ∀ {i word}, (e.dataWords layout)[i]? = some word →
      wordAt (e.dataWords layout).flatten i = word :=
    wordAt_flatten hwords
  have hchainId : asSourceChainId (some (bytesValue (abiUintWord e.chainId))) "sourceChainId" =
      .ok e.chainId := by
    have hchain : e.chainId < 2 ^ 256 := by
      rcases he.chainId with h | h | h <;> rw [h] <;> decide
    rw [bytesValue_abiUintWord hchain, asSourceChainId_ok]
    exact ⟨rfl, he.chainId⟩
  simp only [parseBridgeDepositLog, bind_ok, pure_ok, rejectIf_ok]
  refine ⟨(), by simp [LockboxEvent.log, LockboxEvent.legacyLog], (),
    by simpa [LockboxEvent.log, toAsciiLowercase_topic0] using topic0_known topic,
    (e.dataWords layout).flatten, dataBytes_bytesToHex _, (), ?_, _,
    asHash_bytesToHex (abiUintWord_length e.chainId), _, dataBytes_bytesToHex _, e.chainId, hchainId,
    (), by simp, _, eventLockboxOf_log he htag, (), fun h => h rfl, (), ?_, _,
    asHash_bytesToHex he.depositId, _, asAddress_bytesToHex he.lockbox, _,
    asHash_bytesToHex he.txHash, index, hindex, _, optionally_ok hblock, _,
    optionally_ok (asHash_bytesToHex he.blockHash), _, htxIndex, _,
    decodeAddressTopic_addressWord he.sender, ?_⟩
  · cases layout <;> simp [hlength, EventVersion.width]
  · cases layout with
    | extended => exact fun h => h.2 (by rw [decodeBytes32Word, hword (i := 6) rfl]; rfl)
    | legacy => exact fun h => absurd (hlength.symm.trans h.1) (by decide)
  · cases layout with
    | extended =>
      have hextended : (e.dataWords .extended).flatten.length = 7 * 32 := hlength
      simp only [hextended, if_true, decodeUint256Word, decodeBytes32Word, hword (i := 1) rfl,
        hword (i := 1 + 1) rfl, hword (i := 1 + 2) rfl, hword (i := 1 + 3) rfl,
        hword (i := 1 + 4) rfl, addressFromWord_addressWord, bytesValue_abiUintWord he.amount,
        bytesValue_abiUintWord he.nonce]
      rfl
    | legacy =>
      have hlegacy : ¬ (e.dataWords .legacy).flatten.length = 7 * 32 := by rw [hlength]; decide
      simp only [hlegacy, if_false, decodeUint256Word, decodeBytes32Word, hword (i := 0) rfl,
        hword (i := 0 + 1) rfl, hword (i := 0 + 2) rfl, hword (i := 0 + 3) rfl,
        hword (i := 0 + 4) rfl, addressFromWord_addressWord, bytesValue_abiUintWord he.amount,
        bytesValue_abiUintWord he.nonce]
      rfl

/-! ### Topics and layouts -/

/-- The topic and the number of words of a log belong to the same version. -/
def RpcLog.Paired (log : RpcLog) : Prop :=
  ∃ version : EventVersion, (log.topics[0]?).map toAsciiLowercase = some version.topic0 ∧
    ∃ data, dataBytes log.data = .ok data ∧ data.length = version.width * 32

/-- The log has the topic of one of the versions. -/
def RpcLog.HasTopic (log : RpcLog) : Prop :=
  ∃ version : EventVersion, (log.topics[0]?).map toAsciiLowercase = some version.topic0

/-- What the parser checks of a log: it is not removed, has one of the topics and five or seven words,
names its emitter and the pilot, is of the expected chain, and its other fields can be read. -/
structure RpcLog.Readable (log : RpcLog) (chainId : ℕ) : Prop where
  kept : log.removed = false
  topic : log.HasTopic
  data : ∃ data, dataBytes log.data = .ok data ∧ (data.length = 5 * 32 ∨ data.length = 7 * 32) ∧
    (∃ lockbox, eventLockboxOf log data = .ok lockbox ∧
      toAsciiLowercase lockbox = toAsciiLowercase log.address) ∧
    (data.length = 7 * 32 → decodeBytes32Word data 6 = pilotModeTag)
  supported : SupportedChain chainId
  chain : ∃ topic bytes, asHash (log.topics[2]?.getD "") "sourceChainId" = .ok topic ∧
    dataBytes topic = .ok bytes ∧ bytesValue bytes = chainId
  depositId : ∃ id, asHash (log.topics[1]?.getD "") "depositId" = .ok id
  lockbox : ∃ address, asAddress log.address "sourceContract" = .ok address
  txHash : ∃ hash, asHash log.transactionHash "txHash" = .ok hash
  logIndex : ∃ index, hexQuantityToNumber log.logIndex "logIndex" = .ok index
  blockNumber : ∃ block, optionally (hexQuantity · "blockNumber") log.blockNumber = .ok block
  blockHash : ∃ hash, optionally (asHash · "blockHash") log.blockHash = .ok hash
  transactionIndex : ∃ index,
    optionally (hexQuantityToNumber · "transactionIndex") log.transactionIndex = .ok index
  sender : ∃ sender, decodeAddressTopic (log.topics[3]?.getD "") = .ok sender

theorem hasTopic_iff {log : RpcLog} : log.HasTopic ↔
    ¬((log.topics[0]?).map toAsciiLowercase ≠ some bridgeDepositTopic0 ∧
      (log.topics[0]?).map toAsciiLowercase ≠ some bridgeDepositLegacyTopic0) := by
  rw [not_and_or, not_ne_iff, not_ne_iff]
  constructor
  · rintro ⟨_ | _, h⟩
    · exact .inl h
    · exact .inr h
  · rintro (h | h)
    · exact ⟨.extended, h⟩
    · exact ⟨.legacy, h⟩

theorem parseBridgeDepositLog_accepts_iff {log : RpcLog} {chainId : ℕ} :
    (∃ d, parseBridgeDepositLog log chainId = .ok d) ↔ log.Readable chainId := by
  simp only [parseBridgeDepositLog, bind_ok, rejectIf_ok, pure_ok, ← hasTopic_iff]
  constructor
  · rintro ⟨_, _, hkept, _, htopic, data, hdata, _, hwidth, topic, hchainTopic, bytes, hbytes,
      eventChainId, hchain, _, hexpected, eventLockbox, heventLockbox, _, hemitter, _, htag,
      id, hid, address, haddress, hash, hhash, index, hindex, block, hblock, blockHash, hblockHash,
      txIndex, htxIndex, sender, hsender, -⟩
    obtain rfl : eventChainId = chainId := not_not.mp hexpected
    obtain ⟨hvalue, hsupported⟩ := asSourceChainId_ok.mp hchain
    exact
      { kept := Bool.eq_false_of_not_eq_true hkept
        topic := htopic
        data := ⟨data, hdata, by tauto, ⟨eventLockbox, heventLockbox, not_not.mp hemitter⟩, by tauto⟩
        supported := hsupported
        chain := ⟨topic, bytes, hchainTopic, hbytes, hvalue⟩
        depositId := ⟨id, hid⟩
        lockbox := ⟨address, haddress⟩
        txHash := ⟨hash, hhash⟩
        logIndex := ⟨index, hindex⟩
        blockNumber := ⟨block, hblock⟩
        blockHash := ⟨blockHash, hblockHash⟩
        transactionIndex := ⟨txIndex, htxIndex⟩
        sender := ⟨sender, hsender⟩ }
  · intro h
    obtain ⟨data, hdata, hwidth, ⟨eventLockbox, heventLockbox, hemitter⟩, htag⟩ := h.data
    obtain ⟨topic, bytes, hchainTopic, hbytes, hvalue⟩ := h.chain
    obtain ⟨id, hid⟩ := h.depositId
    obtain ⟨address, haddress⟩ := h.lockbox
    obtain ⟨hash, hhash⟩ := h.txHash
    obtain ⟨index, hindex⟩ := h.logIndex
    obtain ⟨block, hblock⟩ := h.blockNumber
    obtain ⟨blockHash, hblockHash⟩ := h.blockHash
    obtain ⟨txIndex, htxIndex⟩ := h.transactionIndex
    obtain ⟨sender, hsender⟩ := h.sender
    exact ⟨_, (), by simp [h.kept], (), h.topic, data, hdata, (), by tauto, topic, hchainTopic, bytes,
      hbytes, chainId, asSourceChainId_ok.mpr ⟨hvalue, h.supported⟩, (), not_not.mpr rfl, eventLockbox,
      heventLockbox, (), not_not.mpr hemitter, (), by tauto, id, hid, address, haddress, hash, hhash,
      index, hindex, block, hblock, blockHash, hblockHash, txIndex, htxIndex, sender, hsender, rfl⟩

theorem LockboxEvent.Valid.log_paired_iff (htopics : bridgeDepositTopic0 ≠ bridgeDepositLegacyTopic0)
    (he : e.Valid) (htag : layout = .extended → pilotModeBytes.length = 32) :
    (e.log topic layout).Paired ↔ topic = layout := by
  have hlength := (he.words_length htag).2
  have hinj : ∀ {version version' : EventVersion}, version.topic0 = version'.topic0 →
      version = version' := by
    intro version version' h
    cases version with
    | extended =>
      cases version' with
      | extended => rfl
      | legacy => exact absurd h htopics
    | legacy =>
      cases version' with
      | extended => exact absurd h.symm htopics
      | legacy => rfl
  constructor
  · rintro ⟨version, htopic, data, hdata, hwidth⟩
    cases hinj (Option.some.inj (htopic.symm.trans (congrArg some (toAsciiLowercase_topic0 topic))))
    cases hdata.symm.trans (dataBytes_bytesToHex (e.dataWords layout).flatten)
    rw [hlength] at hwidth
    cases topic <;> cases layout <;> first | rfl | exact absurd hwidth (by decide)
  · rintro rfl
    exact ⟨topic, congrArg some (toAsciiLowercase_topic0 topic), _, dataBytes_bytesToHex _, hlength⟩

/-- The parser gives the deposit of a log with the topic of its own layout back, and only such logs
are accepted, exactly if the topic is that of the layout on a chain that the relayer reads, and is
not on another chain.  In general a log is accepted only with the topic of its layout exactly if it
has that topic or fails a check of the parser. -/
theorem deposit_logs_decoded_iff (hdigest : ∀ bytes, (K.digest bytes).length = 32)
    (htopics : bridgeDepositTopic0 ≠ bridgeDepositLegacyTopic0) :
    (∀ (e : LockboxEvent) (chainId block index : ℕ) (txIndex : Option ℕ)
        (topic layout : EventVersion), e.Valid →
      hexQuantity e.blockNumber "blockNumber" = .ok block →
      hexQuantityToNumber e.logIndex "logIndex" = .ok index →
      optionally (hexQuantityToNumber · "transactionIndex") e.transactionIndex = .ok txIndex →
      let event : LockboxEvent := { e with chainId := chainId }
      let log := event.log topic layout
      ((topic = layout → parseBridgeDepositLog log chainId = .ok (event.deposit block index txIndex)) ∧
        ((∃ d, parseBridgeDepositLog log chainId = .ok d) → log.Paired)) ↔
          (topic = layout ↔ SupportedChain chainId)) ∧
    ∀ (log : RpcLog) (chainId : ℕ),
      ((∃ d, parseBridgeDepositLog log chainId = .ok d) → log.Paired) ↔
        (log.Paired ∨ ¬ log.Readable chainId) := by
  constructor
  · intro e chainId block index txIndex topic layout he hblock hindex htxIndex event log
    by_cases hchain : SupportedChain chainId
    · have hevent : event.Valid := { he with chainId := hchain }
      have hparse : parseBridgeDepositLog log chainId = .ok (event.deposit block index txIndex) :=
        parseBridgeDepositLog_log hevent (fun _ => hdigest _) hblock hindex htxIndex
      have hpaired : log.Paired ↔ topic = layout :=
        hevent.log_paired_iff htopics fun _ => hdigest _
      simp only [hparse, implies_true, true_and, hchain, iff_true, Except.ok.injEq, exists_eq',
        true_implies]
      exact hpaired
    · have hrefused : ∀ d, parseBridgeDepositLog log chainId ≠ .ok d :=
        fun d h => hchain (parseBridgeDepositLog_accepts_iff.mp ⟨d, h⟩).supported
      simp [hrefused, hchain]
  · intro log chainId
    rw [parseBridgeDepositLog_accepts_iff, imp_iff_or_not]

end events

/-! ### A sample event -/

/-- A deposit of the given amount in the log of the given index, in block 5. -/
def sampleEvent (amount : ℕ) (logIndex : String) : LockboxEvent where
  lockbox := List.replicate 20 0x22
  sender := List.replicate 20 0x66
  token := List.replicate 20 0x44
  depositId := List.replicate 32 0x11
  recipient := List.replicate 32 0x77
  metadataHash := List.replicate 32 0
  txHash := List.replicate 32 0x33
  blockHash := List.replicate 32 0x55
  chainId := baseMainnetChainId
  amount
  nonce := 1
  blockNumber := "0x5"
  logIndex
  transactionIndex := some "0x2"

theorem sampleEvent_valid {amount : ℕ} {logIndex : String} (h : amount < 2 ^ 256) :
    (sampleEvent amount logIndex).Valid := by
  constructor <;> first | exact h | simp [sampleEvent, SupportedChain]

theorem topics_differ :
    letI : Keccak := keccak256
    bridgeDepositTopic0 ≠ bridgeDepositLegacyTopic0 := by
  decide +kernel

/-- A log with the topic of the extended event and the five words of the legacy one is read as a
deposit. -/
theorem mismatched_log_accepted :
    letI : Keccak := keccak256
    ∃ log d, parseBridgeDepositLog log baseMainnetChainId = .ok d ∧ ¬log.Paired := by
  let _ : Keccak := keccak256
  have hvalid : (sampleEvent 7 "0x0").Valid := sampleEvent_valid (by norm_num)
  let log := (sampleEvent 7 "0x0").log .extended .legacy
  have hparse : parseBridgeDepositLog log _ = .ok ((sampleEvent 7 "0x0").deposit 5 0 (some 2)) :=
    parseBridgeDepositLog_log hvalid nofun rfl rfl rfl
  have hpaired : log.Paired ↔ EventVersion.extended = .legacy :=
    hvalid.log_paired_iff topics_differ nofun
  exact ⟨log, _, hparse, fun h => by cases hpaired.mp h⟩

/-- The log of the extended event is read on the main network. -/
theorem deposit_logs_decoded_extended :
    letI : Keccak := keccak256
    parseBridgeDepositLog ((sampleEvent 7 "0x0").log .extended .extended) baseMainnetChainId =
      .ok ((sampleEvent 7 "0x0").deposit 5 0 (some 2)) := by
  let _ : Keccak := keccak256
  have hiff := (deposit_logs_decoded_iff keccak256_length topics_differ).1
    (sampleEvent 7 "0x0") baseMainnetChainId 5 0 (some 2) .extended .extended
    (sampleEvent_valid (by norm_num)) rfl rfl rfl
  exact (hiff.mpr (by simp [SupportedChain])).1 rfl

end FlowMemory.Relayer
