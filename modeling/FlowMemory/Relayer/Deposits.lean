import FlowMemory.Crypto.Encoding
import FlowMemory.Lib.Text
import FlowMemory.Lib.Txn

/-! # Deposits that the relayer observes

A **deposit** is an event of the lockbox, read from a fixture or from the log of a chain.  Its replay
key identifies the event, its observation id the whole content.  In the pilot modes a **policy** says
which deposits are credited. -/

namespace FlowMemory.Relayer

open Crypto Check

/-! ### Modes and options -/

inductive BridgeMode where
  | mock | mockPilot | localAnvil | baseSepolia | baseMainnetCanary | baseMainnetPilot
  deriving DecidableEq

def BridgeMode.text : BridgeMode → String
  | .mock => "mock"
  | .mockPilot => "mock-pilot"
  | .localAnvil => "local-anvil"
  | .baseSepolia => "base-sepolia"
  | .baseMainnetCanary => "base-mainnet-canary"
  | .baseMainnetPilot => "base-mainnet-pilot"

def baseMainnetChainId : ℕ := 8453

def baseSepoliaChainId : ℕ := 84532

def localAnvilChainId : ℕ := 31337

def maxBlockRange : ℕ := 5000

def isMockMode (mode : BridgeMode) : Bool := mode = .mock ∨ mode = .mockPilot

def isPilotMode (mode : BridgeMode) : Bool := mode = .mockPilot ∨ mode = .baseMainnetPilot

def isBasePublicNetworkMode (mode : BridgeMode) : Bool :=
  mode = .baseMainnetCanary ∨ mode = .baseMainnetPilot

def isLivePilotMode (mode : BridgeMode) : Bool := mode = .baseMainnetPilot

def expectedChainIdForMode (mode : BridgeMode) (explicit : Option ℕ) : ℕ :=
  match explicit, mode with
  | some chainId, _ => chainId
  | none, .localAnvil => localAnvilChainId
  | none, .baseSepolia => baseSepoliaChainId
  | none, .mock => baseSepoliaChainId
  | none, _ => baseMainnetChainId

/-- The options of a run.  Numbers that are given as decimal text are read. -/
structure CliOptions where
  mode : BridgeMode
  lockboxAddress : Option String
  (fromBlock toBlock expectedChainId : Option ℕ)
  (approvedLockboxAddresses supportedTokens : List String)
  (assetDecimals confirmationDepth : ℕ)
  (maxDepositAmount totalCapAmount : Option ℕ)
  (applyCredit withdrawalIntent : Bool)
  (runtimeStatePath cursorStatePath : Option String)

/-! ### Normalized text -/

def isHexDigit (c : Char) : Bool := (hexValue c).isSome

/-- The text after a `0x` or a `0X`. -/
def unprefixed : List Char → List Char
  | '0' :: 'x' :: cs => cs
  | '0' :: 'X' :: cs => cs
  | cs => cs

/-- The text of the given number of bytes, in lower case after a `0x`. -/
def normalizeHex (value : String) (bytes : ℕ) : Option String :=
  let digits := unprefixed (chars value)
  if digits.all isHexDigit ∧ digits.length = bytes * 2 then
    some (String.ofList ('0' :: 'x' :: digits.map Char.toLower))
  else none

def asAddress (value name : String) : Except String String :=
  okOr (normalizeHex value 20) (name ++ " must be a 20-byte hex address")

def asHash (value name : String) : Except String String :=
  okOr (normalizeHex value 32) (name ++ " must be a 32-byte hex value")

def asDecimalString (text name : String) : Except String String :=
  if chars text ≠ [] ∧ (chars text).all Char.isDigit then .ok text
  else .error (name ++ " must be a decimal string")

/-- The number that a decimal text writes. -/
def decimalValue (text : String) : ℕ := digitsValue (chars text)

/-- A value after its conversion to a number, if that is a non-negative integer. -/
abbrev JsNumber : Type := Option ℕ

def asNonNegativeInteger (value : JsNumber) (name : String) : Except String ℕ :=
  okOr value (name ++ " must be a non-negative integer")

def asSourceChainId (value : JsNumber) (name : String) : Except String ℕ :=
  okOr (value.filter fun chainId => chainId = localAnvilChainId ∨ chainId = baseSepoliaChainId ∨
    chainId = baseMainnetChainId) (name ++ " must be 31337, 84532, or 8453")

/-! ### Deposits -/

structure BridgeDeposit where
  depositId : String
  sourceChainId : ℕ
  (sourceContract txHash : String)
  logIndex : ℕ
  (sourceBlockNumber sourceBlockHash : Option String)
  transactionIndex : Option ℕ
  (token amount sender flowmemoryRecipient nonce : String)
  metadataHash : Option String

/-- A deposit of a fixture. -/
structure RawDeposit where
  (schema status depositId : String)
  sourceChainId : JsNumber
  (sourceContract txHash : String)
  logIndex : JsNumber
  (sourceBlockNumber sourceBlockHash : Option String)
  transactionIndex : Option JsNumber
  (token amount sender flowmemoryRecipient nonce : String)
  metadataHash : Option String

/-- An optional field is checked only if it is there. -/
def optionally {α β : Type} (check : α → Except String β) : Option α → Except String (Option β)
  | none => .ok none
  | some a => (check a).map some

def validateDeposit (deposit : RawDeposit) : Except String BridgeDeposit := do
  rejectIf (deposit.schema ≠ "flowmemory.bridge_deposit.v0") "unsupported bridge deposit schema"
  rejectIf (deposit.status ≠ "observed") "fixture status must be observed"
  let depositId ← asHash deposit.depositId "depositId"
  let sourceChainId ← asSourceChainId deposit.sourceChainId "sourceChainId"
  let sourceContract ← asAddress deposit.sourceContract "sourceContract"
  let txHash ← asHash deposit.txHash "txHash"
  let logIndex ← asNonNegativeInteger deposit.logIndex "logIndex"
  let sourceBlockNumber ← optionally (asDecimalString · "sourceBlockNumber")
    deposit.sourceBlockNumber
  let sourceBlockHash ← optionally (asHash · "sourceBlockHash") deposit.sourceBlockHash
  let transactionIndex ← optionally (asNonNegativeInteger · "transactionIndex")
    deposit.transactionIndex
  let token ← asAddress deposit.token "token"
  let amount ← asDecimalString deposit.amount "amount"
  let sender ← asAddress deposit.sender "sender"
  let flowmemoryRecipient ← asHash deposit.flowmemoryRecipient "flowmemoryRecipient"
  let nonce ← asDecimalString deposit.nonce "nonce"
  let metadataHash ← optionally (asHash · "metadataHash") deposit.metadataHash
  pure { depositId, sourceChainId, sourceContract, txHash, logIndex, sourceBlockNumber,
         sourceBlockHash, transactionIndex, token, amount, sender, flowmemoryRecipient, nonce,
         metadataHash }

/-! ### Logs -/

structure RpcLog where
  address : String
  topics : List String
  data : String
  (blockNumber blockHash : Option String)
  transactionHash : String
  transactionIndex : Option String
  logIndex : String
  removed : Bool

/-- Bytes, the first the most significant, as a number. -/
def bytesValue (bytes : List UInt8) : ℕ := bytes.foldl (fun n b => 256 * n + b.toNat) 0

/-- The bytes of a text of any length. -/
def dataBytes (value : String) : Except String (List UInt8) :=
  okOr (hexDecode (unprefixed (chars value))) ("invalid hex value: " ++ value)

/-- A word of the data of a log. -/
def wordAt (data : List UInt8) (wordIndex : ℕ) : List UInt8 := (data.drop (32 * wordIndex)).take 32

def decodeBytes32Word (data : List UInt8) (wordIndex : ℕ) : String :=
  bytesToHex (wordAt data wordIndex)

def decodeUint256Word (data : List UInt8) (wordIndex : ℕ) : ℕ := bytesValue (wordAt data wordIndex)

/-- The address in the last 20 bytes of a word. -/
def addressFromWord (word : List UInt8) : String := bytesToHex (word.drop 12)

def decodeAddressTopic (topic : String) : Except String String := do
  let normalized ← asHash topic "topic"
  let bytes ← dataBytes normalized
  pure (addressFromWord bytes)

/-- A quantity as a node writes it. -/
def hexQuantity (value name : String) : Except String ℕ :=
  match chars value with
  | '0' :: 'x' :: digits =>
    if digits ≠ [] ∧ digits.all isHexDigit then
      .ok (digits.foldl (fun n c => 16 * n + (hexValue c).getD 0) 0)
    else .error (name ++ " must be an RPC hex quantity")
  | _ => .error (name ++ " must be an RPC hex quantity")

def hexQuantityToNumber (value name : String) : Except String ℕ := do
  let parsed ← hexQuantity value name
  rejectIf (parsed > 2 ^ 53 - 1) (name ++ " exceeds safe integer range")
  pure parsed

/-- The decimal text of a number. -/
def decimalText (n : ℕ) : String := String.ofList (Nat.toDigits 10 n)

section hashes

variable [Keccak]

def bridgeDepositTopic0 : String :=
  keccakUtf8 ("BridgeDeposit(bytes32,uint256,address,address,address,uint256,bytes32,uint256," ++
    "bytes32,bytes32)")

def bridgeDepositLegacyTopic0 : String :=
  keccakUtf8 "BridgeDeposit(bytes32,uint256,address,address,uint256,bytes32,uint256,bytes32)"

def pilotModeTag : String := keccakUtf8 "flowmemory.base8453.owner-pilot.v0"

/-- The lockbox that the event names, or its emitter if the event has no extended fields. -/
def eventLockboxOf (log : RpcLog) (data : List UInt8) : Except String String :=
  if data.length = 7 * 32 then .ok (addressFromWord (wordAt data 0))
  else asAddress log.address "sourceContract"

def parseBridgeDepositLog (log : RpcLog) (expectedChainId : ℕ) : Except String BridgeDeposit := do
  rejectIf (log.removed = true) "removed bridge logs must be handled by a reorg-aware reader"
  let topic0 := (log.topics[0]?).map toAsciiLowercase
  rejectIf (topic0 ≠ some bridgeDepositTopic0 ∧ topic0 ≠ some bridgeDepositLegacyTopic0)
    "log is not a BaseBridgeLockbox BridgeDeposit event"
  let data ← dataBytes log.data
  rejectIf (data.length ≠ 5 * 32 ∧ data.length ≠ 7 * 32)
    "BridgeDeposit log data must contain 5 or 7 ABI words"
  let chainTopic ← asHash (log.topics[2]?.getD "") "sourceChainId"
  let chainBytes ← dataBytes chainTopic
  let eventChainId ← asSourceChainId (some (bytesValue chainBytes)) "sourceChainId"
  rejectIf (eventChainId ≠ expectedChainId)
    ("BridgeDeposit event chain id mismatch: expected " ++ decimalText expectedChainId ++ ", got " ++
      decimalText eventChainId)
  let hasExtendedEventFields := data.length = 7 * 32
  let eventLockbox ← eventLockboxOf log data
  rejectIf (toAsciiLowercase eventLockbox ≠ toAsciiLowercase log.address)
    ("BridgeDeposit lockbox mismatch: emitter " ++ log.address ++ ", event " ++ eventLockbox)
  let tokenOffset := if hasExtendedEventFields then 1 else 0
  rejectIf (hasExtendedEventFields ∧ decodeBytes32Word data 6 ≠ pilotModeTag)
    "BridgeDeposit pilot mode tag mismatch"
  let depositId ← asHash (log.topics[1]?.getD "") "depositId"
  let sourceContract ← asAddress log.address "sourceContract"
  let txHash ← asHash log.transactionHash "txHash"
  let logIndex ← hexQuantityToNumber log.logIndex "logIndex"
  let sourceBlockNumber ← optionally (hexQuantity · "blockNumber") log.blockNumber
  let sourceBlockHash ← optionally (asHash · "blockHash") log.blockHash
  let transactionIndex ← optionally (hexQuantityToNumber · "transactionIndex") log.transactionIndex
  let sender ← decodeAddressTopic (log.topics[3]?.getD "")
  pure
    { depositId
      sourceChainId := eventChainId
      sourceContract, txHash, logIndex
      sourceBlockNumber := sourceBlockNumber.map decimalText
      sourceBlockHash, transactionIndex
      token := addressFromWord (wordAt data tokenOffset)
      amount := decimalText (decodeUint256Word data (tokenOffset + 1))
      sender
      flowmemoryRecipient := decodeBytes32Word data (tokenOffset + 2)
      nonce := decimalText (decodeUint256Word data (tokenOffset + 3))
      metadataHash := some (decodeBytes32Word data (tokenOffset + 4)) }

/-! ### Identifiers -/

def bridgeReplayKey (deposit : BridgeDeposit) : Option String :=
  typedHash ("FlowMemoryBridgeSourceEventReplayKeyV0(uint256 sourceChainId,address lockbox," ++
      "bytes32 txHash,uint32 logIndex)")
    [.uint deposit.sourceChainId, .address deposit.sourceContract, .bytes32 deposit.txHash,
      .uint deposit.logIndex]

def bridgeObservationId (deposit : BridgeDeposit) : Option String :=
  typedHash ("FlowMemoryBridgeObservationV0(uint256 sourceChainId,address lockbox,address token," ++
      "address depositor,bytes32 recipient,uint256 amount,bytes32 txHash,uint32 logIndex," ++
      "uint64 blockNumber,uint256 eventNonce)")
    [.uint deposit.sourceChainId, .address deposit.sourceContract, .address deposit.token,
      .address deposit.sender, .bytes32 deposit.flowmemoryRecipient,
      .uint (decimalValue deposit.amount), .bytes32 deposit.txHash, .uint deposit.logIndex,
      .uint (decimalValue (deposit.sourceBlockNumber.getD "0")),
      .uint (decimalValue deposit.nonce)]

end hashes

/-! ### The pilot policy -/

def zeroBytes32 : String := "0x0000000000000000000000000000000000000000000000000000000000000000"

/-- The recipient is the digit 5 throughout. -/
def isPlaceholderFlowmemoryRecipient (value : String) : Bool :=
  toAsciiLowercase value = "0x5555555555555555555555555555555555555555555555555555555555555555"

/-- An address is in a list, which allows all addresses if it is empty. -/
def listed (addresses : List String) (address : String) : Bool :=
  addresses = [] ∨ toAsciiLowercase address ∈ addresses.map toAsciiLowercase

def assertApprovedLockbox (address : String) (options : CliOptions) : Except String Unit :=
  rejectIf (listed options.approvedLockboxAddresses address = false)
    ("unapproved bridge lockbox address: " ++ address)

def assertSupportedToken (address : String) (options : CliOptions) : Except String Unit :=
  rejectIf (listed options.supportedTokens address = false)
    ("unsupported bridge token for pilot: " ++ address)

def pilotDepositRejectionReason (deposit : BridgeDeposit) (options : CliOptions) : Option String :=
  if isPilotMode options.mode = false then none
  else if deposit.sourceChainId ≠ baseMainnetChainId then some "wrong_source_chain"
  else if deposit.flowmemoryRecipient = zeroBytes32 then some "missing_flowmemory_recipient"
  else if isPlaceholderFlowmemoryRecipient deposit.flowmemoryRecipient then
    some "blocked_placeholder_flowmemory_recipient"
  else if listed options.approvedLockboxAddresses deposit.sourceContract = false then
    some "unapproved_lockbox"
  else if listed options.supportedTokens deposit.token = false then some "unsupported_token"
  else if decimalValue deposit.amount > options.maxDepositAmount.getD 0 then
    some "deposit_amount_exceeds_pilot_cap"
  else none

/-! ### A sample deposit -/

/-- A deposit of the given amount in the log of the given index. -/
def sampleDeposit (amount : String) (logIndex : ℕ) : BridgeDeposit where
  depositId := bytesToHex (abiUintWord logIndex)
  sourceChainId := baseMainnetChainId
  sourceContract := "0x2222222222222222222222222222222222222222"
  txHash := "0x3333333333333333333333333333333333333333333333333333333333333333"
  logIndex
  sourceBlockNumber := none
  sourceBlockHash := none
  transactionIndex := none
  token := "0x4444444444444444444444444444444444444444"
  amount
  sender := "0x6666666666666666666666666666666666666666"
  flowmemoryRecipient := "0x7777777777777777777777777777777777777777777777777777777777777777"
  nonce := "1"
  metadataHash := none

/-- The options of a pilot run that applies credits of at most 100 and batches of at most 150. -/
def sampleOptions : CliOptions where
  mode := .baseMainnetPilot
  lockboxAddress := some "0x2222222222222222222222222222222222222222"
  fromBlock := some 1
  toBlock := none
  expectedChainId := none
  approvedLockboxAddresses := ["0x2222222222222222222222222222222222222222"]
  supportedTokens := ["0x4444444444444444444444444444444444444444"]
  assetDecimals := 18
  confirmationDepth := 2
  maxDepositAmount := some 100
  totalCapAmount := some 150
  applyCredit := true
  withdrawalIntent := false
  runtimeStatePath := some "runtime-state.json"
  cursorStatePath := some "cursor-state.json"

end FlowMemory.Relayer
