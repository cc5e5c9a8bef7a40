import FlowMemory.Lib.Tiling
import FlowMemory.Relayer.Credits

/-! # Reading the deposits of a block range

A run asks a node for the lockbox logs of a block range.  With a **cursor file** the range starts one
above the last block that was scanned and ends at the last confirmed block, at the given upper bound
or at the widest allowed range, and the file is written after the logs have passed all checks.  The
state of the model also lists what the runs did so far: the requests they sent, the cursors they
wrote and the handoffs they put out. -/

namespace FlowMemory.Relayer

open Crypto Check

variable [Keccak]

/-! ### The state -/

/-- The content of the cursor file. -/
structure BridgeLockboxCursorState where
  stateId : String
  mode : BridgeMode
  sourceChainId : ℕ
  lockboxAddress : String
  (lastScannedBlock lastConfirmedHead lastFromBlock lastToBlock lastLogCount : ℕ)

/-- A request for logs. -/
structure LogFilter where
  address : Option String
  (fromBlock toBlock : ℕ)

structure World where
  cursor : Option BridgeLockboxCursorState
  runtime : Option ApplicationState
  requests : List LogFilter
  saves : List BridgeLockboxCursorState
  handoffs : List BridgeRuntimeHandoff

def World.empty : World := ⟨none, none, [], [], []⟩

/-! ### The node -/

structure RpcBlock where
  (number hash : Option String)

/-- What a node replies, or the message of the failure. -/
structure Node where
  chainId : Except String ℕ
  blockNumber : Except String String
  logs : LogFilter → Except String (List RpcLog)
  blockByNumber : String → Except String (Option RpcBlock)

def rpcCall {α : Type} (method : String) : Except String α → Except String α
  | .ok result => .ok result
  | .error message => .error ("RPC " ++ method ++ " failed: " ++ message)

def readLatestBlockNumber (node : Node) : Except String ℕ := do
  let result ← rpcCall "eth_blockNumber" node.blockNumber
  hexQuantity result "eth_blockNumber"

/-- The number of a block, if the node gives it, is the requested one. -/
def assertBlockNumber (blockNumber : String) : Option String → Except String Unit
  | none => .ok ()
  | some number => do
      let actual ← hexQuantity number "canonical block number"
      let requested ← hexQuantity blockNumber "log blockNumber"
      rejectIf (actual ≠ requested)
        ("canonical block number mismatch: requested " ++ blockNumber ++ ", got " ++ number)

def readCanonicalBlockHash (node : Node) (blockNumber : String) : Except String String := do
  let reply ← rpcCall "eth_getBlockByNumber" (node.blockByNumber blockNumber)
  let block ← okOr reply ("canonical block " ++ blockNumber ++ " was not returned by RPC")
  assertBlockNumber blockNumber block.number
  let hash ← okOr block.hash ("canonical block " ++ blockNumber ++ " is missing hash")
  asHash hash "canonical block hash"

/-- The hash of a block that was read before, or a new read. -/
def canonicalBlockHashOf (node : Node) (blockNumber : String) : Option String → Except String String
  | some hash => .ok hash
  | none => readCanonicalBlockHash node blockNumber

/-- The checks of the logs one after the other, with the block hashes that were read before. -/
def assertCanonicalLogs (node : Node) :
    List RpcLog → List (String × String) → Except String Unit
  | [], _ => .ok ()
  | log :: logs, canonicalBlockHashes => do
      rejectIf (log.removed = true) "removed bridge logs must be handled by a reorg-aware reader"
      let blockNumber ← okOr log.blockNumber "BridgeDeposit RPC log is missing blockNumber"
      let blockHash ← okOr log.blockHash "BridgeDeposit RPC log is missing blockHash"
      let logBlockHash ← asHash blockHash "blockHash"
      let blockNumberKey := toAsciiLowercase blockNumber
      let canonicalBlockHash ← canonicalBlockHashOf node blockNumber
        (canonicalBlockHashes.lookup blockNumberKey)
      if toAsciiLowercase canonicalBlockHash ≠ toAsciiLowercase logBlockHash then do
        let number ← hexQuantity blockNumber "blockNumber"
        .error ("non-canonical BridgeDeposit log: block " ++ decimalText number ++ " hash mismatch")
      else
        assertCanonicalLogs node logs ((blockNumberKey, canonicalBlockHash) :: canonicalBlockHashes)

def assertCanonicalBasePublicLogs (options : CliOptions) (node : Node) (logs : List RpcLog) :
    Except String Unit :=
  if isBasePublicNetworkMode options.mode then assertCanonicalLogs node logs [] else .ok ()

/-! ### The cursor file -/

def bridgeCursorStateId (mode : BridgeMode) (sourceChainId : ℕ) (lockboxAddress : String)
    (lastScannedBlock lastConfirmedHead : ℕ) : String :=
  externalStableId "flowmemory.bridge_lockbox_cursor_state.v0"
    (.obj [("mode", .str mode.text), ("sourceChainId", .num sourceChainId),
      ("lockboxAddress", .str (toAsciiLowercase lockboxAddress)),
      ("lastScannedBlock", .str (decimalText lastScannedBlock)),
      ("lastConfirmedHead", .str (decimalText lastConfirmedHead))])

def loadBridgeCursorState (file : Option BridgeLockboxCursorState) (options : CliOptions)
    (expectedChainId : ℕ) : Except String (Option BridgeLockboxCursorState) :=
  match file with
  | none => .ok none
  | some parsed => do
      rejectIf (parsed.mode ≠ options.mode)
        ("bridge cursor mode mismatch: expected " ++ options.mode.text ++ ", got " ++
          parsed.mode.text)
      rejectIf (parsed.sourceChainId ≠ expectedChainId)
        ("bridge cursor chain mismatch: expected " ++ decimalText expectedChainId ++ ", got " ++
          decimalText parsed.sourceChainId)
      let lockboxAddress ← asAddress parsed.lockboxAddress "cursor.lockboxAddress"
      rejectIf (∃ address ∈ options.lockboxAddress,
          toAsciiLowercase lockboxAddress ≠ toAsciiLowercase address)
        "bridge cursor lockbox mismatch"
      let parsedStateId ← asHash parsed.stateId "cursor.stateId"
      let expectedStateId := bridgeCursorStateId parsed.mode parsed.sourceChainId lockboxAddress
        parsed.lastScannedBlock parsed.lastConfirmedHead
      rejectIf (toAsciiLowercase parsedStateId ≠ toAsciiLowercase expectedStateId)
        "bridge cursor state id mismatch"
      pure (some { parsed with stateId := parsedStateId, lockboxAddress })

/-- The cursor that a run writes after the range. -/
def cursorAfter (options : CliOptions) (lockboxAddress : String)
    (expectedChainId fromBlock toBlock : ℕ) (confirmedHead : ℤ) (logCount : ℕ) :
    BridgeLockboxCursorState where
  stateId := bridgeCursorStateId options.mode expectedChainId lockboxAddress toBlock
    confirmedHead.toNat
  mode := options.mode
  sourceChainId := expectedChainId
  lockboxAddress
  lastScannedBlock := toBlock
  lastConfirmedHead := confirmedHead.toNat
  lastFromBlock := fromBlock
  lastToBlock := toBlock
  lastLogCount := logCount

def saveBridgeCursorState (options : CliOptions) (expectedChainId fromBlock toBlock : ℕ)
    (confirmedHead : ℤ) (logCount : ℕ) : Txn World String Unit := do
  let lockboxAddress ← Txn.okOr options.lockboxAddress "bridge cursor save requires lockbox address"
  let cursor := cursorAfter options lockboxAddress expectedChainId fromBlock toBlock confirmedHead
    logCount
  Txn.modify fun w => { w with cursor := some cursor, saves := w.saves ++ [cursor] }

/-! ### One run -/

/-- A place where a run may stop, between the writes. -/
inductive FaultPoint where
  | scanned | cursorSaved | creditsApplied
  deriving DecidableEq

/-- A run: its options, the fixture that the mock modes read, the node, and where it stops. -/
structure Run where
  options : CliOptions
  fixture : List RawDeposit
  node : Node
  fault : Option FaultPoint

def Run.stopAt (run : Run) (point : FaultPoint) : Txn World String Unit :=
  Txn.rejectIf (run.fault = some point) "stopped"

structure BridgeConfirmationEvidence where
  (depth latestBlockNumber requiredConfirmedBlockNumber requestedToBlock : ℕ)
  satisfied : Bool

def requiredConfirmedBlock (latestBlock depth : ℕ) : ℤ :=
  if depth ≤ latestBlock then (latestBlock : ℤ) - depth else -1

/-- The first block of the range. -/
def effectiveFromBlock (options : CliOptions) (cursor : Option BridgeLockboxCursorState) : ℕ :=
  match cursor with
  | some cursor => cursor.lastScannedBlock + 1
  | none => options.fromBlock.getD 0

/-- The last block of the range after the cursor. -/
def effectiveToBlock (options : CliOptions) (fromBlock latestBlock : ℕ) : ℤ :=
  let confirmed := min (requiredConfirmedBlock latestBlock options.confirmationDepth)
    (fromBlock + maxBlockRange)
  match options.toBlock with
  | some upperBound => min confirmed upperBound
  | none => confirmed

/-- The deposits in the logs of a range. -/
def readDeposits (options : CliOptions) (node : Node) (expectedChainId : ℕ) (filter : LogFilter) :
    Except String (List BridgeDeposit) := do
  let logs ← rpcCall "eth_getLogs" (node.logs filter)
  assertCanonicalBasePublicLogs options node logs
  let deposits ← logs.mapM fun log => parseBridgeDepositLog log expectedChainId
  deposits.forM fun deposit => do
    assertApprovedLockbox deposit.sourceContract options
    assertSupportedToken deposit.token options
  pure deposits

/-- Send the request and read the reply. -/
def queryDeposits (options : CliOptions) (node : Node) (expectedChainId : ℕ) (filter : LogFilter) :
    Txn World String (List BridgeDeposit) := do
  Txn.modify fun w => { w with requests := w.requests ++ [filter] }
  Txn.ofExcept (readDeposits options node expectedChainId filter)

def chainIdHex (chainId : ℕ) : String := "0x" ++ String.ofList (Nat.toDigits 16 chainId)

def assertApprovedOption (options : CliOptions) : Option String → Except String Unit
  | some address => assertApprovedLockbox address options
  | none => .ok ()

/-- The checks before a range is chosen. -/
def checkSource (options : CliOptions) (node : Node) (expectedChainId : ℕ) : Except String Unit := do
  assertApprovedOption options options.lockboxAddress
  let actualChainId ← rpcCall "eth_chainId" node.chainId
  rejectIf (actualChainId ≠ expectedChainId)
    ("wrong chain id: expected " ++ decimalText expectedChainId ++ " (" ++
      chainIdHex expectedChainId ++ "), got " ++ decimalText actualChainId ++ " (" ++
      chainIdHex actualChainId ++ ")")

/-- The read of a run with a cursor file. -/
def readAfterCursor (run : Run) (expectedChainId : ℕ) :
    Txn World String (List BridgeDeposit × Option BridgeConfirmationEvidence) := do
  let options := run.options
  let w ← Txn.get
  let cursor ← Txn.ofExcept (loadBridgeCursorState w.cursor options expectedChainId)
  let fromBlock := effectiveFromBlock options cursor
  let latestBlock ← Txn.ofExcept (readLatestBlockNumber run.node)
  let confirmed := requiredConfirmedBlock latestBlock options.confirmationDepth
  let toBlock := effectiveToBlock options fromBlock latestBlock
  let confirmation : BridgeConfirmationEvidence :=
    { depth := options.confirmationDepth
      latestBlockNumber := latestBlock
      requiredConfirmedBlockNumber := confirmed.toNat
      requestedToBlock := if toBlock < fromBlock then fromBlock else toBlock.toNat
      satisfied := fromBlock ≤ toBlock }
  if toBlock < fromBlock then
    pure ([], some confirmation)
  else do
    let deposits ← queryDeposits options run.node expectedChainId
      ⟨options.lockboxAddress, fromBlock, toBlock.toNat⟩
    run.stopAt .scanned
    saveBridgeCursorState options expectedChainId fromBlock toBlock.toNat confirmed deposits.length
    pure (deposits, some confirmation)

/-- The read of a run with a fixed range. -/
def readRange (run : Run) (expectedChainId : ℕ) :
    Txn World String (List BridgeDeposit × Option BridgeConfirmationEvidence) := do
  let options := run.options
  let fromBlock := options.fromBlock.getD 0
  let toBlock := options.toBlock.getD 0
  let filter : LogFilter := ⟨options.lockboxAddress, fromBlock, toBlock⟩
  if 0 < options.confirmationDepth then do
    let latestBlock ← Txn.ofExcept (readLatestBlockNumber run.node)
    let confirmed := requiredConfirmedBlock latestBlock options.confirmationDepth
    let confirmation : BridgeConfirmationEvidence :=
      { depth := options.confirmationDepth
        latestBlockNumber := latestBlock
        requiredConfirmedBlockNumber := confirmed.toNat
        requestedToBlock := toBlock
        satisfied := toBlock ≤ confirmed }
    Txn.rejectIf (confirmed < toBlock)
      ("insufficient confirmations: toBlock " ++ decimalText toBlock ++ " requires depth " ++
        decimalText options.confirmationDepth ++ ", latest block " ++ decimalText latestBlock)
    let deposits ← queryDeposits options run.node expectedChainId filter
    pure (deposits, some confirmation)
  else do
    let deposits ← queryDeposits options run.node expectedChainId filter
    pure (deposits, none)

def readBridgeDepositLogs (run : Run) :
    Txn World String (List BridgeDeposit × Option BridgeConfirmationEvidence) := do
  let expectedChainId := expectedChainIdForMode run.options.mode run.options.expectedChainId
  Txn.ofExcept (checkSource run.options run.node expectedChainId)
  if run.options.cursorStatePath.isSome then readAfterCursor run expectedChainId
  else readRange run expectedChainId

/-! ### A sample node -/

/-- A node of the chain with the given head that replies with the same logs for every range. -/
def sampleNode (latestBlock : String) (logs : List RpcLog) : Node where
  chainId := .ok baseMainnetChainId
  blockNumber := .ok latestBlock
  logs := fun _ => .ok logs
  blockByNumber := fun _ => .error "unavailable"

/-- A run with the sample options. -/
def sampleRun (node : Node) (fault : Option FaultPoint) : Run := ⟨sampleOptions, [], node, fault⟩

end FlowMemory.Relayer
