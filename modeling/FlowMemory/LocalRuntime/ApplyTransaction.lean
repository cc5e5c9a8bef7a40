import FlowMemory.LocalRuntime.LedgerTransactions
import FlowMemory.LocalRuntime.BridgeTransactions
import FlowMemory.LocalRuntime.WorkTransactions

/-! # Applying a transaction

`applyTransaction` dispatches to the routine of the transaction.  It always returns: the result
is a value or an error together with the state reached.

**Footprints.**  Every routine writes a few maps of the state only, and never the head, the
blocks or the queue.  `footprint` lists the maps, and `applyTransaction_frame` states that
nothing else changes, whether the transaction is accepted or rejected.  Invariants over some
maps have to be checked only for the transactions whose footprint meets them. -/

namespace FlowMemory

open Txn

section apply

variable [Keccak]

def applyTransaction : Transaction → Action Unit
  | .registerRootfield tx => registerRootfield tx
  | .registerAgent tx => registerAgent tx
  | .createLocalTestUnitBalance tx => createLocalTestUnitBalance tx
  | .faucetLocalTestUnits tx => faucetLocalTestUnits tx
  | .transferLocalTestUnits tx => transferLocalTestUnits tx
  | .launchToken tx => launchToken tx
  | .mintLocalTestToken tx => mintLocalTestToken tx
  | .createPool tx => createPool tx
  | .addLiquidity tx => addLiquidity tx
  | .removeLiquidity tx => removeLiquidity tx
  | .swapExactIn tx => swapExactIn tx
  | .mapBridgeAsset tx => mapBridgeAsset tx
  | .mapBridgeAccount tx => mapBridgeAccount tx
  | .creditBridgeFromBaseEvent tx => creditBridgeFromBaseEvent tx
  | .registerModelPassport tx => registerModelPassport tx
  | .commitRoot tx => commitRoot tx
  | .submitArtifactCommitment tx => submitArtifactCommitment tx
  | .markArtifactAvailability tx => markArtifactAvailability tx
  | .submitWorkReceipt tx => submitWorkReceipt tx
  | .submitVerifierReport tx => submitVerifierReport tx
  | .registerVerifierModule tx => registerVerifierModule tx
  | .updateMemoryCell tx => updateMemoryCell tx
  | .openChallenge tx => openChallenge tx
  | .resolveChallenge tx => resolveChallenge tx
  | .finalizeWorkReceipt tx => finalizeWorkReceipt tx
  | .anchorBatchToBasePlaceholder tx => anchorBatchToBasePlaceholder tx
  | .importFlowPulseObservation tx => importFlowPulseObservation tx
  | .importVerifierReport tx => importVerifierReport tx

end apply

/-! ### Footprints -/

/-- The parts of the chain state. -/
inductive Field where
  | schema | config | chainId | genesisHash | nextBlockNumber | logicalTime | parentHash
  | operatorKeyReferences | rootfields | agentAccounts | localTestUnitBalances | faucetRecords
  | balanceTransfers | tokenDefinitions | tokenBalances | tokenMintReceipts | dexPools
  | lpPositions | liquidityReceipts | swapReceipts | bridgeAssetMappings
  | bridgeAccountMappings | bridgeCredits | bridgeCreditReceipts | bridgeReplayIndex
  | bridgeEventReceiptIndex | modelPassports | memoryCells | challenges | finalityReceipts
  | artifactCommitments | artifactAvailabilityProofs | verifierModules | workReceipts
  | verifierReports | importedObservations | importedVerifierReports | baseAnchors | blocks
  | pendingTxs
  deriving DecidableEq

namespace Field

/-- Two states agree on a part. -/
def Same (s t : ChainState) : Field → Prop
  | .schema => t.schema = s.schema
  | .config => t.config = s.config
  | .chainId => t.chainId = s.chainId
  | .genesisHash => t.genesisHash = s.genesisHash
  | .nextBlockNumber => t.nextBlockNumber = s.nextBlockNumber
  | .logicalTime => t.logicalTime = s.logicalTime
  | .parentHash => t.parentHash = s.parentHash
  | .operatorKeyReferences => t.operatorKeyReferences = s.operatorKeyReferences
  | .rootfields => t.rootfields = s.rootfields
  | .agentAccounts => t.agentAccounts = s.agentAccounts
  | .localTestUnitBalances => t.localTestUnitBalances = s.localTestUnitBalances
  | .faucetRecords => t.faucetRecords = s.faucetRecords
  | .balanceTransfers => t.balanceTransfers = s.balanceTransfers
  | .tokenDefinitions => t.tokenDefinitions = s.tokenDefinitions
  | .tokenBalances => t.tokenBalances = s.tokenBalances
  | .tokenMintReceipts => t.tokenMintReceipts = s.tokenMintReceipts
  | .dexPools => t.dexPools = s.dexPools
  | .lpPositions => t.lpPositions = s.lpPositions
  | .liquidityReceipts => t.liquidityReceipts = s.liquidityReceipts
  | .swapReceipts => t.swapReceipts = s.swapReceipts
  | .bridgeAssetMappings => t.bridgeAssetMappings = s.bridgeAssetMappings
  | .bridgeAccountMappings => t.bridgeAccountMappings = s.bridgeAccountMappings
  | .bridgeCredits => t.bridgeCredits = s.bridgeCredits
  | .bridgeCreditReceipts => t.bridgeCreditReceipts = s.bridgeCreditReceipts
  | .bridgeReplayIndex => t.bridgeReplayIndex = s.bridgeReplayIndex
  | .bridgeEventReceiptIndex => t.bridgeEventReceiptIndex = s.bridgeEventReceiptIndex
  | .modelPassports => t.modelPassports = s.modelPassports
  | .memoryCells => t.memoryCells = s.memoryCells
  | .challenges => t.challenges = s.challenges
  | .finalityReceipts => t.finalityReceipts = s.finalityReceipts
  | .artifactCommitments => t.artifactCommitments = s.artifactCommitments
  | .artifactAvailabilityProofs => t.artifactAvailabilityProofs = s.artifactAvailabilityProofs
  | .verifierModules => t.verifierModules = s.verifierModules
  | .workReceipts => t.workReceipts = s.workReceipts
  | .verifierReports => t.verifierReports = s.verifierReports
  | .importedObservations => t.importedObservations = s.importedObservations
  | .importedVerifierReports => t.importedVerifierReports = s.importedVerifierReports
  | .baseAnchors => t.baseAnchors = s.baseAnchors
  | .blocks => t.blocks = s.blocks
  | .pendingTxs => t.pendingTxs = s.pendingTxs

theorem same_refl (s : ChainState) (f : Field) : f.Same s s := by
  cases f <;> rfl

theorem same_trans {s t u : ChainState} {f : Field} (h₁ : f.Same s t) (h₂ : f.Same t u) :
    f.Same s u := by
  cases f <;> exact Eq.trans h₂ h₁

end Field

/-- The maps a transaction may write. -/
def footprint : Transaction → List Field
  | .registerRootfield _ => [.rootfields]
  | .registerAgent _ => [.agentAccounts]
  | .createLocalTestUnitBalance _ => [.localTestUnitBalances]
  | .faucetLocalTestUnits _ => [.localTestUnitBalances, .faucetRecords]
  | .transferLocalTestUnits _ => [.localTestUnitBalances, .balanceTransfers]
  | .launchToken _ =>
    [.tokenDefinitions, .localTestUnitBalances, .tokenBalances, .tokenMintReceipts]
  | .mintLocalTestToken _ =>
    [.tokenDefinitions, .localTestUnitBalances, .tokenBalances, .tokenMintReceipts]
  | .createPool _ => [.dexPools]
  | .addLiquidity _ =>
    [.localTestUnitBalances, .tokenBalances, .dexPools, .lpPositions, .liquidityReceipts]
  | .removeLiquidity _ =>
    [.localTestUnitBalances, .tokenBalances, .dexPools, .lpPositions, .liquidityReceipts]
  | .swapExactIn _ => [.localTestUnitBalances, .tokenBalances, .dexPools, .swapReceipts]
  | .mapBridgeAsset _ => [.bridgeAssetMappings]
  | .mapBridgeAccount _ => [.bridgeAccountMappings]
  | .creditBridgeFromBaseEvent _ =>
    [.localTestUnitBalances, .tokenBalances, .bridgeCredits, .bridgeCreditReceipts,
     .bridgeReplayIndex, .bridgeEventReceiptIndex]
  | .registerModelPassport _ => [.modelPassports]
  | .commitRoot _ => [.rootfields]
  | .submitArtifactCommitment _ => [.artifactCommitments]
  | .markArtifactAvailability _ => [.artifactAvailabilityProofs]
  | .submitWorkReceipt _ => [.workReceipts]
  | .submitVerifierReport _ => [.verifierReports]
  | .registerVerifierModule _ => [.verifierModules]
  | .updateMemoryCell _ => [.memoryCells, .agentAccounts]
  | .openChallenge _ => [.challenges]
  | .resolveChallenge _ => [.challenges]
  | .finalizeWorkReceipt _ => [.finalityReceipts]
  | .anchorBatchToBasePlaceholder _ => [.baseAnchors]
  | .importFlowPulseObservation _ => [.importedObservations]
  | .importVerifierReport _ => [.importedVerifierReports]

/-! ### Frame -/

/-- The routine changes the listed parts only. -/
def Writes {α : Type} (fs : List Field) (m : Action α) : Prop :=
  ∀ s, ∀ f ∉ fs, f.Same s (m s).2

namespace Writes

variable {α β : Type} {fs : List Field} {m : Action α}

theorem of_readOnly (h : ReadOnly m) : Writes fs m := by
  intro s f _
  have hs : (m s).2 = s := h s
  rw [hs]
  exact Field.same_refl s f

theorem get : Writes fs Txn.get := of_readOnly Keeps.get

theorem pure (a : α) : Writes fs (Pure.pure a) := of_readOnly Keeps.pure

theorem rejectIf (c : Prop) [Decidable c] (e : LocalRuntimeError) :
    Writes fs (Txn.rejectIf c e) := of_readOnly Keeps.rejectIf

theorem okOr (o : Option α) (e : LocalRuntimeError) : Writes fs (Txn.okOr o e) :=
  of_readOnly Keeps.okOr

theorem ofExcept (r : Checked α) : Writes fs (Txn.ofExcept r) := of_readOnly Keeps.ofExcept

theorem modify {g : ChainState → ChainState} (h : ∀ s, ∀ f ∉ fs, f.Same s (g s)) :
    Writes fs (Txn.modify g) := h

theorem bind {k : α → Action β} (hm : Writes fs m) (hk : ∀ a, Writes fs (k a)) :
    Writes fs (m >>= k) := by
  intro s f hf
  have h₁ := hm s f hf
  rw [bind_apply]
  rcases hs : m s with ⟨_ | a, s₁⟩
  · rw [hs] at h₁
    exact h₁
  · rw [hs] at h₁
    exact Field.same_trans h₁ (hk a s₁ f hf)

theorem ite {c : Prop} [Decidable c] {m₁ m₂ : Action α} (h₁ : Writes fs m₁) (h₂ : Writes fs m₂) :
    Writes fs (if c then m₁ else m₂) := by
  split_ifs
  · exact h₁
  · exact h₂

end Writes

section frame

variable [Keccak] {fs : List Field}

theorem debitAssetUnits_writes (h₁ : .localTestUnitBalances ∈ fs) (h₂ : .tokenBalances ∈ fs)
    (accountId assetId : String) (amount : UInt64) :
    Writes fs (debitAssetUnits accountId assetId amount) := by
  refine .bind .get fun s => .bind (.ofExcept _) fun _ =>
    .ite (.bind (.okOr _ _) fun b => ?_) (.bind (.okOr _ _) fun b => ?_)
  · intro s f hf
    cases f <;> first | rfl | exact absurd h₁ hf
  · intro s f hf
    cases f <;> first | rfl | exact absurd h₂ hf

theorem creditAssetUnits_writes (h₁ : .localTestUnitBalances ∈ fs) (h₂ : .tokenBalances ∈ fs)
    (accountId assetId : String) (amount : UInt64) :
    Writes fs (creditAssetUnits accountId assetId amount) := by
  refine .bind (.rejectIf _ _) fun _ => .bind .get fun s =>
    .ite (.bind (.okOr _ _) fun b => .bind (.okOr _ _) fun u => ?_)
      (.bind (.ofExcept _) fun _ => .bind ?_ fun _ =>
        .bind (.okOr _ _) fun u => ?_)
  · intro s f hf
    cases f <;> first | rfl | exact absurd h₁ hf
  · intro s f hf
    cases f <;> first | rfl | exact absurd h₂ hf
  · intro s f hf
    cases f <;> first | rfl | exact absurd h₂ hf

theorem markIfLive_writes (h₁ : .localTestUnitBalances ∈ fs) (h₂ : .tokenBalances ∈ fs)
    (tx : CreditBridgeFromBaseEvent) : Writes fs (markIfLive tx) := by
  refine .ite (.ite ?_ ?_) (.pure _)
  · intro s f hf
    cases f <;> first | rfl | exact absurd h₁ hf
  · intro s f hf
    cases f <;> first | rfl | exact absurd h₂ hf

theorem applyTransaction_writes (tx : Transaction) :
    Writes (footprint tx) (applyTransaction tx) := by
  -- every routine is a chain of tests and of writes to one map of its footprint
  cases tx
  all_goals
    simp only [applyTransaction, registerRootfield, registerAgent, createLocalTestUnitBalance,
      faucetLocalTestUnits, transferLocalTestUnits, launchToken, mintLocalTestToken, createPool,
      addLiquidity, removeLiquidity, swapExactIn, mapBridgeAsset, mapBridgeAccount,
      creditBridgeFromBaseEvent, registerModelPassport, commitRoot, submitArtifactCommitment,
      markArtifactAvailability, submitWorkReceipt, submitVerifierReport, registerVerifierModule,
      updateMemoryCell, openChallenge, resolveChallenge, finalizeWorkReceipt,
      anchorBatchToBasePlaceholder, importFlowPulseObservation, importVerifierReport]
    repeat' with_reducible first
      | refine Writes.bind ?_ fun _ => ?_
      | exact Writes.get
      | exact Writes.rejectIf _ _
      | exact Writes.okOr _ _
      | exact Writes.ofExcept _
      | apply Writes.ite
      | apply debitAssetUnits_writes
      | apply creditAssetUnits_writes
      | apply markIfLive_writes
      | apply Writes.modify
      | split
  all_goals first
    | intro s f hf
      cases f <;> first | rfl | exact absurd (by simp [footprint]) hf
    | simp [footprint]
/-- Outside its footprint a transaction changes nothing, accepted or not. -/
theorem applyTransaction_frame {tx : Transaction} {s s' : ChainState}
    {r : Except LocalRuntimeError Unit} (h : applyTransaction tx s = (r, s')) {f : Field}
    (hf : f ∉ footprint tx) : f.Same s s' := by
  have hw := applyTransaction_writes tx s f hf
  rwa [h] at hw

end frame

end FlowMemory
