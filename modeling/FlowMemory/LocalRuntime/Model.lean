import FlowMemory.Lib.OrderedMap
import FlowMemory.LocalRuntime.Hashing

/-! # The data of the local runtime

The records of the chain state, the transactions with their payloads, blocks and their
receipts, and the state at genesis.  Names and field order are those of the source, in the
case convention of its JSON form.

* **Integers.**  `u64` and `u8` fields are `UInt64` and `UInt8`.
* **Maps.**  `BTreeMap` is the map sorted by its string keys.
* **Statuses** of challenges, reports and receipts are texts, as in the source: some of them
  come from outside and are compared without regard to letter case. -/

namespace FlowMemory

/-- Maps sorted by their text keys. -/
abbrev BTreeMap (α : Type) := OrderedMap String α

def stateSchema : String := "flowmemory.local_runtime.state.v0"
def blockSchema : String := "flowmemory.local_runtime.block.v0"
def txSchema : String := "flowmemory.local_runtime.tx.v0"
def configSchema : String := "flowmemory.local_runtime.config.v0"
def operatorKeyReferenceSchema : String := "flowmemory.local_runtime.operator_key_reference.v0"
def genesisHash : String := "0x0f23c892cbd2d00c10839d97ddab833698a83f8df8d6df27ceac03cfdd4b7bc9"
def zeroHash : String := "0x0000000000000000000000000000000000000000000000000000000000000000"
def flowpulseTopic0 : String :=
  "0x5d07190b9ae441b4d7b16259a48424acd451492b12f5f99a29f5bfd992c13e43"
def localTestUnitAssetId : String := "asset:flowmemory-local-test-unit"
def baseMainnetChainId : String := "8453"
def flowmemoryLocalRuntimeChainId : UInt64 := 31337

/-! ### Records of the state -/

/-- Parameters fixed at genesis. -/
structure LocalRuntimeConfig where
  (schema chainId networkId genesisHash : String)
  (genesisLogicalTime blockTimeSeconds : UInt64)
  operatorKeyReferenceId : String
  noValue : Bool
  consensus : String
  cryptoSchemaRefs : List String

/-- The public description of the operator of a node. -/
structure OperatorKeyReference where
  (schema keyReferenceId operatorId workerKeyId verifierKeyId verifierSetRoot : String)
  (signatureScheme publicKeyHint secretMaterialBoundary : String)
  cryptoSchemaRefs : List String

/-- A namespace of roots with its pulse and root counters. -/
structure Rootfield where
  (rootfieldId owner schemaHash metadataHash : String)
  latestRoot : Option String
  (pulseCount rootCount : UInt64)
  active : Bool

/-- An agent and the root of its memory. -/
structure AgentAccount where
  (agentId controller : String)
  modelPassportId : Option String
  (metadataHash memoryRoot : String)
  active : Bool

/-- Units of the local asset held by an account. -/
structure LocalTestUnitBalance where
  (accountId owner : String)
  (units totalFaucetUnits : UInt64)
  lastFaucetRecordId : Option String
  updatedAtBlock : UInt64
  noValue : Bool

/-- Units of the local asset issued by the faucet. -/
structure FaucetRecord where
  (faucetRecordId accountId recipient : String)
  amountUnits : UInt64
  reason : String
  creditedAtBlock : UInt64
  noValue : Bool

/-- A completed transfer of local units. -/
structure BalanceTransfer where
  (transferId fromAccountId toAccountId : String)
  amountUnits : UInt64
  memo : String
  transferredAtBlock : UInt64
  noValue : Bool

/-- A launched token with its total supply. -/
structure LocalTestToken where
  (tokenId symbol name : String)
  decimals : UInt8
  launcherAccountId : String
  (totalSupplyUnits launchedAtBlock : UInt64)
  noValue : Bool

/-- Units of one token held by one account. -/
structure LocalTestTokenBalance where
  (tokenBalanceId tokenId accountId : String)
  (units updatedAtBlock : UInt64)
  noValue : Bool

/-- Token units issued at launch or by a mint. -/
structure LocalTestTokenMintReceipt where
  (mintId tokenId toAccountId : String)
  amountUnits : UInt64
  reason : String
  mintedAtBlock : UInt64
  noValue : Bool

/-- A pool of two assets with its reserves and liquidity units. -/
structure DexPool where
  (poolId baseAssetId quoteAssetId createdByAccountId : String)
  (reserveBaseUnits reserveQuoteUnits totalLpUnits createdAtBlock updatedAtBlock : UInt64)
  (lastLiquidityReceiptId lastSwapReceiptId : Option String)
  noValue : Bool

/-- The share of one account in one pool. -/
structure LpPosition where
  (lpPositionId poolId ownerAccountId : String)
  (lpUnits baseUnitsDeposited quoteUnitsDeposited baseUnitsWithdrawn : UInt64)
  (quoteUnitsWithdrawn updatedAtBlock : UInt64)
  noValue : Bool

/-- A completed deposit into or withdrawal from a pool. -/
structure LiquidityReceipt where
  (liquidityId poolId providerAccountId action : String)
  (baseAmountUnits quoteAmountUnits lpUnits reserveBaseBefore reserveQuoteBefore : UInt64)
  (reserveBaseAfter reserveQuoteAfter executedAtBlock : UInt64)
  noValue : Bool

/-- A completed swap. -/
structure SwapReceipt where
  (swapId poolId traderAccountId assetInId assetOutId : String)
  (amountInUnits amountOutUnits reserveBaseBefore reserveQuoteBefore reserveBaseAfter : UInt64)
  (reserveQuoteAfter executedAtBlock : UInt64)
  noValue : Bool

/-- Which local asset stands for a token of another chain. -/
structure BridgeAssetMapping where
  (mappingId sourceChainId sourceToken localAssetId : String)
  createdAtBlock : UInt64
  (localOnly productionReady : Bool)

/-- Which local account receives for a bridge recipient. -/
structure BridgeAccountMapping where
  (mappingId flowmemoryRecipient accountId owner : String)
  createdAtBlock : UInt64
  (localOnly productionReady : Bool)

/-- The log entry of the source chain that a credit refers to. -/
structure BridgeEventReference where
  (sourceChainId sourceContract txHash : String)
  logIndex : UInt64
  depositId : String

/-- What the observer says about confirmations of the event. -/
structure BridgeConfirmationProof where
  depth : UInt64
  satisfied : Bool
  (latestBlockNumber requiredConfirmedBlockNumber requestedToBlock : Option String)

/-- What the operator says about the limits of the pilot. -/
structure BridgePilotCapProof where
  (approvedLockbox operatorAcknowledged noSecrets : Bool)
  maxUsd : Option String
  (maxDepositAmountUnits totalCapAmountUnits : UInt64)
  pilotModeTag : Option String
  supportedTokens : List String

/-- Units credited for an event of the source chain. -/
structure BridgeCredit where
  (bridgeCreditId receiptId accountId recipient flowmemoryRecipient assetId : String)
  sourceToken : String
  amountUnits : UInt64
  eventRef : BridgeEventReference
  (observationId replayKey memo : String)
  creditedAtBlock : UInt64
  status : String
  (localOnly productionReady noValue : Bool)
  confirmationProof : Option BridgeConfirmationProof
  pilotCapProof : Option BridgePilotCapProof

/-- The receipt stored with a bridge credit. -/
structure BridgeCreditReceipt where
  (receiptId bridgeCreditId accountId assetId : String)
  amountUnits : UInt64
  eventRef : BridgeEventReference
  (replayKey status : String)
  includedAtBlock : UInt64
  evidence : String
  (localOnly productionReady : Bool)
  confirmationProof : Option BridgeConfirmationProof
  pilotCapProof : Option BridgePilotCapProof

/-- A consumed replay key. -/
structure BridgeReplayRecord where
  (replayKey bridgeCreditId receiptId : String)
  eventRef : BridgeEventReference
  consumedAtBlock : UInt64

/-- A registered model. -/
structure ModelPassport where
  (modelPassportId issuer modelFamily modelHash metadataHash : String)
  active : Bool

/-- A memory root owned by an agent in a rootfield. -/
structure MemoryCell where
  (memoryCellId agentId rootfieldId currentRoot parentRoot sourceReceiptId : String)
  (memoryDeltaRoot status : String)
  (updateCount updatedAtBlock : UInt64)

/-- A dispute about a work receipt; its status is `open` or `resolved`. -/
structure Challenge where
  (challengeId receiptId challenger evidenceHash reasonCode status : String)
  resolution : Option String
  openedAtBlock : UInt64
  resolvedAtBlock : Option UInt64

/-- The final decision on a work receipt.  The number of its challenges is the length of a
scan over a map in memory, so it is kept as a natural number. -/
structure FinalityReceipt where
  (finalityReceiptId receiptId rootfieldId finalizedBy finalityStatus : String)
  challengeCount : ℕ
  finalizedAtBlock : UInt64
  stateRoot : String

/-- A commitment to an artifact of a rootfield. -/
structure ArtifactCommitment where
  (artifactId rootfieldId commitment : String)
  uriHint : Option String

/-- A statement that an artifact could be fetched. -/
structure ArtifactAvailabilityProof where
  (proofId artifactId rootfieldId commitment proofDigest storageBackend status : String)
  checkedAtBlock : UInt64

/-- A claim of completed work. -/
structure WorkReceipt where
  (receiptId rootfieldId workerId inputRoot outputRoot artifactCommitment ruleSet : String)

/-- The verdict of a verifier on a work receipt. -/
structure VerifierReport where
  (reportId rootfieldId receiptId verifierId reportDigest status : String)
  reasonCodes : List String

/-- A registered verifier. -/
structure VerifierModule where
  (verifierId operator moduleHash ruleSet metadataHash : String)
  active : Bool

/-- An event copied from the Base chain. -/
structure ImportedFlowPulseObservation where
  (observationId chainId emittingContract blockNumber blockHash txHash : String)
  (transactionIndex logIndex eventSignature pulseId rootfieldId : String)

/-- A verifier report copied from elsewhere. -/
structure ImportedVerifierReport where
  reportId : String
  (rootfieldId receiptId : Option String)
  (reportDigest status source : String)

/-- Roots of the state at one moment, linked to an earlier anchor. -/
structure BaseAnchorPlaceholder where
  (anchorId localRuntimeChainId : String)
  (blockRangeStart blockRangeEnd : UInt64)
  (stateRoot workReceiptRoot verifierReportRoot rootfieldStateRoot : String)
  (artifactCommitmentRoot operatorKeyReferenceRoot agentAccountRoot : String)
  (localTestUnitBalanceRoot faucetRecordRoot balanceTransferRoot tokenDefinitionRoot : String)
  (tokenBalanceRoot tokenMintReceiptRoot dexPoolRoot lpPositionRoot : String)
  (liquidityReceiptRoot swapReceiptRoot bridgeAssetMappingRoot : String)
  (bridgeAccountMappingRoot bridgeCreditRoot bridgeCreditReceiptRoot : String)
  (bridgeReplayIndexRoot bridgeEventReceiptIndexRoot modelPassportRoot memoryCellRoot : String)
  (challengeRoot finalityReceiptRoot artifactAvailabilityProofRoot verifierModuleRoot : String)
  (previousAnchorId finalityStatus : String)

/-! ### Transactions -/

structure RegisterRootfield where
  (rootfieldId owner schemaHash metadataHash : String)

structure RegisterAgent where
  (agentId controller : String)
  modelPassportId : Option String
  metadataHash : String

structure CreateLocalTestUnitBalance where
  (accountId owner : String)

structure FaucetLocalTestUnits where
  (faucetRecordId accountId recipient : String)
  amountUnits : UInt64
  reason : String

structure TransferLocalTestUnits where
  (transferId fromAccountId toAccountId : String)
  amountUnits : UInt64
  memo : String

structure LaunchToken where
  (tokenId symbol name : String)
  decimals : UInt8
  initialOwnerAccountId : String
  initialSupplyUnits : UInt64

structure MintLocalTestToken where
  (mintId tokenId toAccountId : String)
  amountUnits : UInt64
  reason : String

structure CreatePool where
  (poolId baseAssetId quoteAssetId createdByAccountId : String)

structure AddLiquidity where
  (liquidityId poolId providerAccountId : String)
  (baseAmountUnits quoteAmountUnits minLpUnits : UInt64)

structure RemoveLiquidity where
  (liquidityId poolId providerAccountId : String)
  (lpUnits minBaseAmountUnits minQuoteAmountUnits : UInt64)

structure SwapExactIn where
  (swapId poolId traderAccountId assetInId : String)
  (amountInUnits minAmountOutUnits : UInt64)

structure MapBridgeAsset where
  (mappingId sourceChainId sourceToken localAssetId : String)
  (localOnly productionReady : Bool)

structure MapBridgeAccount where
  (mappingId flowmemoryRecipient accountId owner : String)
  (localOnly productionReady : Bool)

structure CreditBridgeFromBaseEvent where
  (bridgeCreditId receiptId accountId flowmemoryRecipient assetId sourceToken : String)
  amountUnits : UInt64
  (sourceChainId sourceContract txHash : String)
  logIndex : UInt64
  (depositId observationId replayKey memo : String)
  (localOnly productionReady : Bool)
  confirmationProof : Option BridgeConfirmationProof
  pilotCapProof : Option BridgePilotCapProof

structure RegisterModelPassport where
  (modelPassportId issuer modelFamily modelHash metadataHash : String)

structure CommitRoot where
  (rootfieldId actor root artifactCommitment : String)

structure SubmitArtifactCommitment where
  (artifactId rootfieldId commitment : String)
  uriHint : Option String

structure MarkArtifactAvailability where
  (proofId artifactId rootfieldId proofDigest storageBackend status : String)

structure SubmitWorkReceipt where
  (receiptId rootfieldId workerId inputRoot outputRoot artifactCommitment ruleSet : String)

structure SubmitVerifierReport where
  (reportId rootfieldId receiptId verifierId reportDigest status : String)
  reasonCodes : List String

structure RegisterVerifierModule where
  (verifierId operator moduleHash ruleSet metadataHash : String)

structure UpdateMemoryCell where
  (memoryCellId agentId rootfieldId sourceReceiptId newRoot memoryDeltaRoot : String)

structure OpenChallenge where
  (challengeId receiptId challenger evidenceHash reasonCode : String)

structure ResolveChallenge where
  (challengeId resolver resolution : String)

structure FinalizeWorkReceipt where
  (finalityReceiptId receiptId finalizedBy finalityStatus : String)

structure AnchorBatchToBasePlaceholder where
  (localRuntimeChainId finalityStatus : String)

/-- The transactions a node accepts. -/
inductive Transaction where
  | registerRootfield (tx : RegisterRootfield)
  | registerAgent (tx : RegisterAgent)
  | createLocalTestUnitBalance (tx : CreateLocalTestUnitBalance)
  | faucetLocalTestUnits (tx : FaucetLocalTestUnits)
  | transferLocalTestUnits (tx : TransferLocalTestUnits)
  | launchToken (tx : LaunchToken)
  | mintLocalTestToken (tx : MintLocalTestToken)
  | createPool (tx : CreatePool)
  | addLiquidity (tx : AddLiquidity)
  | removeLiquidity (tx : RemoveLiquidity)
  | swapExactIn (tx : SwapExactIn)
  | mapBridgeAsset (tx : MapBridgeAsset)
  | mapBridgeAccount (tx : MapBridgeAccount)
  | creditBridgeFromBaseEvent (tx : CreditBridgeFromBaseEvent)
  | registerModelPassport (tx : RegisterModelPassport)
  | commitRoot (tx : CommitRoot)
  | submitArtifactCommitment (tx : SubmitArtifactCommitment)
  | markArtifactAvailability (tx : MarkArtifactAvailability)
  | submitWorkReceipt (tx : SubmitWorkReceipt)
  | submitVerifierReport (tx : SubmitVerifierReport)
  | registerVerifierModule (tx : RegisterVerifierModule)
  | updateMemoryCell (tx : UpdateMemoryCell)
  | openChallenge (tx : OpenChallenge)
  | resolveChallenge (tx : ResolveChallenge)
  | finalizeWorkReceipt (tx : FinalizeWorkReceipt)
  | anchorBatchToBasePlaceholder (tx : AnchorBatchToBasePlaceholder)
  | importFlowPulseObservation (tx : ImportedFlowPulseObservation)
  | importVerifierReport (tx : ImportedVerifierReport)

/-! ### Blocks -/

/-- Who authorised a transaction. -/
structure LocalAuthorization where
  (mode signer digest : String)

/-- A queued transaction with its identifier. -/
structure TxEnvelope where
  txId : String
  tx : Transaction
  authorization : Option LocalAuthorization

/-- The outcome of one transaction of a block. -/
structure BlockReceipt where
  (txId status : String)
  error : Option String
  authorization : Option LocalAuthorization

/-- A sealed block. -/
structure Block where
  schema : String
  blockNumber : UInt64
  parentHash : String
  logicalTime : UInt64
  txIds : List String
  receipts : List BlockReceipt
  (stateRoot blockHash : String)

/-! ### The state of a node -/

/-- The whole state of a node. -/
structure ChainState where
  schema : String
  config : LocalRuntimeConfig
  (chainId genesisHash : String)
  (nextBlockNumber logicalTime : UInt64)
  parentHash : String
  operatorKeyReferences : BTreeMap OperatorKeyReference
  rootfields : BTreeMap Rootfield
  agentAccounts : BTreeMap AgentAccount
  localTestUnitBalances : BTreeMap LocalTestUnitBalance
  faucetRecords : BTreeMap FaucetRecord
  balanceTransfers : BTreeMap BalanceTransfer
  tokenDefinitions : BTreeMap LocalTestToken
  tokenBalances : BTreeMap LocalTestTokenBalance
  tokenMintReceipts : BTreeMap LocalTestTokenMintReceipt
  dexPools : BTreeMap DexPool
  lpPositions : BTreeMap LpPosition
  liquidityReceipts : BTreeMap LiquidityReceipt
  swapReceipts : BTreeMap SwapReceipt
  bridgeAssetMappings : BTreeMap BridgeAssetMapping
  bridgeAccountMappings : BTreeMap BridgeAccountMapping
  bridgeCredits : BTreeMap BridgeCredit
  bridgeCreditReceipts : BTreeMap BridgeCreditReceipt
  bridgeReplayIndex : BTreeMap BridgeReplayRecord
  bridgeEventReceiptIndex : BTreeMap String
  modelPassports : BTreeMap ModelPassport
  memoryCells : BTreeMap MemoryCell
  challenges : BTreeMap Challenge
  finalityReceipts : BTreeMap FinalityReceipt
  artifactCommitments : BTreeMap ArtifactCommitment
  artifactAvailabilityProofs : BTreeMap ArtifactAvailabilityProof
  verifierModules : BTreeMap VerifierModule
  workReceipts : BTreeMap WorkReceipt
  verifierReports : BTreeMap VerifierReport
  importedObservations : BTreeMap ImportedFlowPulseObservation
  importedVerifierReports : BTreeMap ImportedVerifierReport
  baseAnchors : BTreeMap BaseAnchorPlaceholder
  blocks : List Block
  pendingTxs : List TxEnvelope

def defaultConfig : LocalRuntimeConfig where
  schema := configSchema
  chainId := "flowmemory-local-runtime-v0"
  networkId := "flowmemory-private-local"
  genesisHash
  genesisLogicalTime := 1778688000
  blockTimeSeconds := 1
  operatorKeyReferenceId := "operator-key:local-runtime:alpha"
  noValue := true
  consensus := "single-process deterministic local block production"
  cryptoSchemaRefs :=
    ["crypto/FLOWMEMORY_CRYPTO_SPEC.md#domain-separation",
      "crypto/ATTESTATIONS.md#local-signature-helpers"]

section genesis

variable [Keccak]

def defaultOperatorKeyReference : OperatorKeyReference where
  schema := operatorKeyReferenceSchema
  keyReferenceId := "operator-key:local-runtime:alpha"
  operatorId := keccakHex (utf8 "operator:flowmemory-labs-localRuntime".toList)
  workerKeyId := keccakHex (utf8 "worker-key:flowmemory-local-runtime-alpha".toList)
  verifierKeyId := keccakHex (utf8 "verifier-key:flowmemory-local-runtime-alpha".toList)
  verifierSetRoot := keccakHex (utf8 "verifier-set:flowmemory-local-runtime-v0".toList)
  signatureScheme := "eip712-secp256k1-fixture-digest-only"
  publicKeyHint := "local fixture boundary; no public key registry is implemented"
  secretMaterialBoundary :=
    "no signing secret material is stored in localRuntime state or handoff output"
  cryptoSchemaRefs :=
    ["crypto/FLOWMEMORY_CRYPTO_SPEC.md#domain-separation",
      "crypto/ATTESTATIONS.md#local-signature-helpers"]

def defaultOperatorKeyReferences : BTreeMap OperatorKeyReference :=
  (∅ : BTreeMap OperatorKeyReference).insert defaultOperatorKeyReference.keyReferenceId
    defaultOperatorKeyReference

def genesisState : ChainState where
  schema := stateSchema
  config := defaultConfig
  chainId := defaultConfig.chainId
  genesisHash := defaultConfig.genesisHash
  nextBlockNumber := 1
  logicalTime := defaultConfig.genesisLogicalTime
  parentHash := defaultConfig.genesisHash
  operatorKeyReferences := defaultOperatorKeyReferences
  rootfields := ∅
  agentAccounts := ∅
  localTestUnitBalances := ∅
  faucetRecords := ∅
  balanceTransfers := ∅
  tokenDefinitions := ∅
  tokenBalances := ∅
  tokenMintReceipts := ∅
  dexPools := ∅
  lpPositions := ∅
  liquidityReceipts := ∅
  swapReceipts := ∅
  bridgeAssetMappings := ∅
  bridgeAccountMappings := ∅
  bridgeCredits := ∅
  bridgeCreditReceipts := ∅
  bridgeReplayIndex := ∅
  bridgeEventReceiptIndex := ∅
  modelPassports := ∅
  memoryCells := ∅
  challenges := ∅
  finalityReceipts := ∅
  artifactCommitments := ∅
  artifactAvailabilityProofs := ∅
  verifierModules := ∅
  workReceipts := ∅
  verifierReports := ∅
  importedObservations := ∅
  importedVerifierReports := ∅
  baseAnchors := ∅
  blocks := []
  pendingTxs := []

end genesis

/-- The digests that the genesis state contains. -/
def operatorDigests : List (List UInt8 × List UInt8) :=
  [knownDigest "operator:flowmemory-labs-localRuntime"
      0xcc3206e42b0f97cae02781ea047cdeb9215d5349e47dcca94dd8bbff46268f76,
    knownDigest "worker-key:flowmemory-local-runtime-alpha"
      0x8af241f8ce0a16ba06fe29a8ad42cc50954dc86ab00a58aa930250a1537ab281,
    knownDigest "verifier-key:flowmemory-local-runtime-alpha"
      0xf027d4e80c14969d4f326cc94cf37620553d4dc4016f57b61709e1c2ad73b4dd,
    knownDigest "verifier-set:flowmemory-local-runtime-v0"
      0xc37ecf0f95fdd0a8444da0d998cd3efa114b866b572bc4818e4cb407470e0b11]

end FlowMemory
