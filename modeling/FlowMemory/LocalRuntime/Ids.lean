import FlowMemory.Lib.Text
import FlowMemory.LocalRuntime.Serialize

/-! # Deterministic identifiers and roots

The identifiers that transactions must present, the two formulas each for bridge replay keys
and bridge credit ids, and the roots that commit to the state.

An identifier is never the name of the local asset (`keccakHex_ne_localTestUnitAssetId`). -/

namespace FlowMemory

open Json Serialize

variable [K : Keccak]

/-! ### Tokens and pools -/

def normalizeTokenSymbol (symbol : String) : String := toAsciiUppercase (trim symbol)

def deterministicTokenId (symbol : String) : String :=
  hashJson "flowmemory.local_runtime.token_id.v0"
    (.obj [("symbol", normalizeTokenSymbol symbol)])

def deterministicTokenBalanceId (tokenId accountId : String) : String :=
  hashJson "flowmemory.local_runtime.token_balance_id.v0"
    (.obj [("tokenId", tokenId), ("accountId", accountId)])

def deterministicTokenMintId (tokenId toAccountId : String) (amountUnits : UInt64)
    (reason : String) : String :=
  hashJson "flowmemory.local_runtime.token_mint_id.v0"
    (.obj [("tokenId", tokenId), ("toAccountId", toAccountId), ("amountUnits", amountUnits),
      ("reason", reason)])

def deterministicPoolId (baseAssetId quoteAssetId : String) : String :=
  hashJson "flowmemory.local_runtime.dex_pool_id.v0"
    (.obj [("baseAssetId", baseAssetId), ("quoteAssetId", quoteAssetId)])

def deterministicLpPositionId (poolId ownerAccountId : String) : String :=
  hashJson "flowmemory.local_runtime.lp_position_id.v0"
    (.obj [("poolId", poolId), ("ownerAccountId", ownerAccountId)])

def deterministicLiquidityId (poolId providerAccountId action nonce : String) : String :=
  hashJson "flowmemory.local_runtime.liquidity_id.v0"
    (.obj [("poolId", poolId), ("providerAccountId", providerAccountId), ("action", action),
      ("nonce", nonce)])

def deterministicSwapId (poolId traderAccountId assetInId : String) (amountInUnits : UInt64)
    (nonce : String) : String :=
  hashJson "flowmemory.local_runtime.swap_id.v0"
    (.obj [("poolId", poolId), ("traderAccountId", traderAccountId), ("assetInId", assetInId),
      ("amountInUnits", amountInUnits), ("nonce", nonce)])

/-- The decimal text of a number. -/
def decimal (n : UInt64) : String := String.ofList (Nat.toDigits 10 n.toNat)

/-- Three numbers separated by colons. -/
def liquidityNonce (a b c : UInt64) : String := decimal a ++ ":" ++ decimal b ++ ":" ++ decimal c

/-! ### Bridge mappings and events -/

def deterministicBridgeAssetMappingId (sourceChainId sourceToken localAssetId : String) :
    String :=
  hashJson "flowmemory.local_runtime.bridge_asset_mapping_id.v0"
    (.obj [("sourceChainId", sourceChainId), ("sourceToken", sourceToken),
      ("localAssetId", localAssetId)])

def deterministicBridgeAccountMappingId (flowmemoryRecipient accountId : String) : String :=
  hashJson "flowmemory.local_runtime.bridge_account_mapping_id.v0"
    (.obj [("flowmemoryRecipient", flowmemoryRecipient), ("accountId", accountId)])

/-- The key of the event index.  It is computed from the texts as they were submitted. -/
def bridgeEventReferenceKey (sourceChainId sourceContract txHash : String) (logIndex : UInt64) :
    String :=
  hashJson "flowmemory.local_runtime.bridge_event_reference_key.v0"
    (.obj [("sourceChainId", sourceChainId), ("sourceContract", sourceContract), ("txHash", txHash),
      ("logIndex", logIndex)])

/-- A chain id that is a numeral is written as a number. -/
def chainIdJsonValue (sourceChainId : String) : Json :=
  match parseBelow (2 ^ 64) sourceChainId with
  | some n => .num n
  | none => .str sourceChainId

def normalizeHexForIdentity (value : String) : String := toAsciiLowercase value

def deterministicBridgeReplayKey (sourceChainId sourceContract txHash : String)
    (logIndex : UInt64) (depositId : String) : String :=
  externalStableId "flowmemory.bridge_replay_key.v0"
    (.obj [("sourceChainId", chainIdJsonValue sourceChainId),
      ("sourceContract", normalizeHexForIdentity sourceContract),
      ("txHash", normalizeHexForIdentity txHash), ("logIndex", logIndex),
      ("depositId", normalizeHexForIdentity depositId)])

def deterministicBridgeCreditId (observationId depositId replayKey sourceChainId sourceContract
    txHash : String) (logIndex : UInt64) : String :=
  externalStableId "flowmemory.bridge_credit.v0"
    (.obj [("observationId", normalizeHexForIdentity observationId),
      ("depositId", normalizeHexForIdentity depositId),
      ("replayKey", normalizeHexForIdentity replayKey),
      ("sourceChainId", chainIdJsonValue sourceChainId),
      ("sourceContract", normalizeHexForIdentity sourceContract),
      ("txHash", normalizeHexForIdentity txHash), ("logIndex", logIndex)])

/-! ### Typed hashes of the bridge contracts -/

def abiUintWordFromStr (value : String) : Option (List UInt8) :=
  (parseBelow (2 ^ 128) value).map abiUintWord

def stripHexMark : List Char → Option (List Char)
  | '0' :: 'x' :: cs => some cs
  | '0' :: 'X' :: cs => some cs
  | _ => none

/-- The `byteLen` bytes written by a hexadecimal text, padded on the left to a word. -/
def abiHexWord (value : String) (byteLen : ℕ) : Option (List UInt8) := do
  let digits ← stripHexMark value.toList
  let bytes ← hexDecode digits
  if bytes.length ≠ byteLen ∨ byteLen > 32 then none
  else some (List.replicate (32 - byteLen) 0 ++ bytes)

/-- Remove every `0x` at the front. -/
def trimStartHexMarks : List Char → List Char
  | '0' :: 'x' :: cs => trimStartHexMarks cs
  | cs => cs

def flowmemoryTypedHash (typeString : String) (words : List (List UInt8)) : Option String := do
  let bytes ← hexDecode (trimStartHexMarks (keccakHex (utf8 typeString.toList)).toList)
  some (keccakHex (bytes ++ words.flatten))

def flowmemoryBridgeSourceEventReplayKey (sourceChainId lockbox txHash : String)
    (logIndex : UInt64) : Option String := do
  let chain ← abiUintWordFromStr sourceChainId
  let contract ← abiHexWord lockbox 20
  let hash ← abiHexWord txHash 32
  flowmemoryTypedHash
    ("FlowMemoryBridgeSourceEventReplayKeyV0(uint256 sourceChainId,address lockbox," ++
      "bytes32 txHash,uint32 logIndex)")
    [chain, contract, hash, abiUintWord logIndex.toNat]

def flowmemoryBridgeCreditId (observationId localRecipient : String)
    (localChainId creditAmount : UInt64) : Option String := do
  let observation ← abiHexWord observationId 32
  let recipient ← abiHexWord localRecipient 32
  flowmemoryTypedHash
    ("FlowMemoryBridgeCreditV1(bytes32 observationId,bytes32 localRecipient," ++
      "uint256 localChainId,uint256 creditAmount)")
    [observation, recipient, abiUintWord localChainId.toNat, abiUintWord creditAmount.toNat]

/-! ### Roots -/

/-- What the state root commits to: neither blocks, nor the queue, nor the head. -/
def stateCommitmentView (s : ChainState) : Json := .obj
  [("schema", toJson stateSchema), ("config", toJson s.config), ("chainId", toJson s.chainId),
   ("genesisHash", toJson s.genesisHash),
   ("operatorKeyReferences", toJson s.operatorKeyReferences),
   ("rootfields", toJson s.rootfields), ("agentAccounts", toJson s.agentAccounts),
   ("localTestUnitBalances", toJson s.localTestUnitBalances),
   ("faucetRecords", toJson s.faucetRecords),
   ("balanceTransfers", toJson s.balanceTransfers),
   ("tokenDefinitions", toJson s.tokenDefinitions),
   ("tokenBalances", toJson s.tokenBalances),
   ("tokenMintReceipts", toJson s.tokenMintReceipts), ("dexPools", toJson s.dexPools),
   ("lpPositions", toJson s.lpPositions), ("liquidityReceipts", toJson s.liquidityReceipts),
   ("swapReceipts", toJson s.swapReceipts),
   ("bridgeAssetMappings", toJson s.bridgeAssetMappings),
   ("bridgeAccountMappings", toJson s.bridgeAccountMappings),
   ("bridgeCredits", toJson s.bridgeCredits),
   ("bridgeCreditReceipts", toJson s.bridgeCreditReceipts),
   ("bridgeReplayIndex", toJson s.bridgeReplayIndex),
   ("bridgeEventReceiptIndex", toJson s.bridgeEventReceiptIndex),
   ("modelPassports", toJson s.modelPassports), ("memoryCells", toJson s.memoryCells),
   ("challenges", toJson s.challenges), ("finalityReceipts", toJson s.finalityReceipts),
   ("artifactCommitments", toJson s.artifactCommitments),
   ("artifactAvailabilityProofs", toJson s.artifactAvailabilityProofs),
   ("verifierModules", toJson s.verifierModules), ("workReceipts", toJson s.workReceipts),
   ("verifierReports", toJson s.verifierReports),
   ("importedObservations", toJson s.importedObservations),
   ("importedVerifierReports", toJson s.importedVerifierReports),
   ("baseAnchors", toJson s.baseAnchors)]

def stateRoot (s : ChainState) : String :=
  hashJson "flowmemory.local_runtime.state_root.v0" (stateCommitmentView s)

def mapRoot {α : Type} [Serialize α] (schema : String) (entries : BTreeMap α) : String :=
  hashJson "flowmemory.local_runtime.map_root.v0"
    (.obj [("schema", schema), ("entries", entries)])

/-- One root for every map of the state. -/
structure StateMapRoots where
  (operatorKeyReferenceRoot rootfieldStateRoot agentAccountRoot : String)
  (localTestUnitBalanceRoot faucetRecordRoot balanceTransferRoot tokenDefinitionRoot : String)
  (tokenBalanceRoot tokenMintReceiptRoot dexPoolRoot lpPositionRoot : String)
  (liquidityReceiptRoot swapReceiptRoot bridgeAssetMappingRoot : String)
  (bridgeAccountMappingRoot bridgeCreditRoot bridgeCreditReceiptRoot : String)
  (bridgeReplayIndexRoot bridgeEventReceiptIndexRoot modelPassportRoot memoryCellRoot : String)
  (challengeRoot finalityReceiptRoot artifactCommitmentRoot : String)
  (artifactAvailabilityProofRoot verifierModuleRoot workReceiptRoot verifierReportRoot : String)
  (importedObservationRoot importedVerifierReportRoot baseAnchorRoot : String)

def stateMapRoots (s : ChainState) : StateMapRoots where
  operatorKeyReferenceRoot :=
    mapRoot "flowmemory.local_runtime.operator_key_references.v0" s.operatorKeyReferences
  rootfieldStateRoot := mapRoot "flowmemory.local_runtime.rootfields.v0" s.rootfields
  agentAccountRoot := mapRoot "flowmemory.local_runtime.agent_accounts.v0" s.agentAccounts
  localTestUnitBalanceRoot :=
    mapRoot "flowmemory.local_runtime.local_test_unit_balances.v0" s.localTestUnitBalances
  faucetRecordRoot := mapRoot "flowmemory.local_runtime.faucet_records.v0" s.faucetRecords
  balanceTransferRoot := mapRoot "flowmemory.local_runtime.balance_transfers.v0" s.balanceTransfers
  tokenDefinitionRoot := mapRoot "flowmemory.local_runtime.token_definitions.v0" s.tokenDefinitions
  tokenBalanceRoot := mapRoot "flowmemory.local_runtime.token_balances.v0" s.tokenBalances
  tokenMintReceiptRoot :=
    mapRoot "flowmemory.local_runtime.token_mint_receipts.v0" s.tokenMintReceipts
  dexPoolRoot := mapRoot "flowmemory.local_runtime.dex_pools.v0" s.dexPools
  lpPositionRoot := mapRoot "flowmemory.local_runtime.lp_positions.v0" s.lpPositions
  liquidityReceiptRoot :=
    mapRoot "flowmemory.local_runtime.liquidity_receipts.v0" s.liquidityReceipts
  swapReceiptRoot := mapRoot "flowmemory.local_runtime.swap_receipts.v0" s.swapReceipts
  bridgeAssetMappingRoot :=
    mapRoot "flowmemory.local_runtime.bridge_asset_mappings.v0" s.bridgeAssetMappings
  bridgeAccountMappingRoot :=
    mapRoot "flowmemory.local_runtime.bridge_account_mappings.v0" s.bridgeAccountMappings
  bridgeCreditRoot := mapRoot "flowmemory.local_runtime.bridge_credits.v0" s.bridgeCredits
  bridgeCreditReceiptRoot :=
    mapRoot "flowmemory.local_runtime.bridge_credit_receipts.v0" s.bridgeCreditReceipts
  bridgeReplayIndexRoot :=
    mapRoot "flowmemory.local_runtime.bridge_replay_index.v0" s.bridgeReplayIndex
  bridgeEventReceiptIndexRoot :=
    mapRoot "flowmemory.local_runtime.bridge_event_receipt_index.v0" s.bridgeEventReceiptIndex
  modelPassportRoot := mapRoot "flowmemory.local_runtime.model_passports.v0" s.modelPassports
  memoryCellRoot := mapRoot "flowmemory.local_runtime.memory_cells.v0" s.memoryCells
  challengeRoot := mapRoot "flowmemory.local_runtime.challenges.v0" s.challenges
  finalityReceiptRoot := mapRoot "flowmemory.local_runtime.finality_receipts.v0" s.finalityReceipts
  artifactCommitmentRoot :=
    mapRoot "flowmemory.local_runtime.artifact_commitments.v0" s.artifactCommitments
  artifactAvailabilityProofRoot :=
    mapRoot "flowmemory.local_runtime.artifact_availability_proofs.v0" s.artifactAvailabilityProofs
  verifierModuleRoot := mapRoot "flowmemory.local_runtime.verifier_modules.v0" s.verifierModules
  workReceiptRoot := mapRoot "flowmemory.local_runtime.work_receipts.v0" s.workReceipts
  verifierReportRoot := mapRoot "flowmemory.local_runtime.verifier_reports.v0" s.verifierReports
  importedObservationRoot :=
    mapRoot "flowmemory.local_runtime.imported_observations.v0" s.importedObservations
  importedVerifierReportRoot :=
    mapRoot "flowmemory.local_runtime.imported_verifier_reports.v0" s.importedVerifierReports
  baseAnchorRoot := mapRoot "flowmemory.local_runtime.base_anchors.v0" s.baseAnchors

theorem keccakHex_ne_localTestUnitAssetId (bytes : List UInt8) :
    keccakHex bytes ≠ localTestUnitAssetId := by
  intro h
  have hl := congrArg String.toList h
  rw [keccakHex, String.toList_ofList] at hl
  have : localTestUnitAssetId.toList.head? = some 'a' := by decide
  rw [← hl] at this
  simp at this

end FlowMemory
