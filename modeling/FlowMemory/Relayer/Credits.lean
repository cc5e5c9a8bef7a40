import FlowMemory.Relayer.Deposits

/-! # Credits and their applications

Every observed deposit becomes a **credit**: one that is **prepared** for application, pending, or
rejected, by the pilot policy or as a duplicate inside its batch.  The runtime state file lists the
replay keys of the applied credits; a prepared credit whose key is listed comes out rejected, with an
**application** that names the earlier one. -/

namespace FlowMemory.Relayer

open Crypto

variable [Keccak]

/-! ### Observations -/

structure BridgeAssetIdentity where
  sourceChainId : ℕ
  (sourceToken destinationAssetId : String)
  decimals : ℕ

structure BridgeObservation where
  (observationId replayKey : String)
  mode : BridgeMode
  productionReady : Bool
  asset : BridgeAssetIdentity
  deposit : BridgeDeposit

structure BridgeGuardrailOptions where
  maxDepositAmount : Option ℕ
  supportedTokens : Option (List String)
  assetDecimals : Option ℕ
  approvedContract : Option Bool

def defaultAssetDecimals : ℕ := 18

def makeDestinationAssetId (sourceChainId : ℕ) (token : String) (decimals : ℕ) : String :=
  externalStableId "flowmemory.bridge_destination_asset.v0"
    (.obj [("sourceChainId", .num sourceChainId), ("token", .str token),
      ("decimals", .num decimals)])

def makeAssetIdentity (deposit : BridgeDeposit) (decimals : ℕ) : BridgeAssetIdentity :=
  ⟨deposit.sourceChainId, deposit.token,
    makeDestinationAssetId deposit.sourceChainId deposit.token decimals, decimals⟩

/-- A live deposit that meets the guardrails. -/
def depositReady (deposit : BridgeDeposit) (mode : BridgeMode) (guardrails : BridgeGuardrailOptions) :
    Bool :=
  isLivePilotMode mode && deposit.sourceChainId == baseMainnetChainId &&
    deposit.flowmemoryRecipient != zeroBytes32 &&
    !isPlaceholderFlowmemoryRecipient deposit.flowmemoryRecipient &&
    guardrails.supportedTokens.all (fun tokens =>
      (tokens.map toAsciiLowercase).contains (toAsciiLowercase deposit.token)) &&
    guardrails.maxDepositAmount.all (fun cap => decimalValue deposit.amount ≤ cap) &&
    guardrails.approvedContract != some false

def makeObservation (deposit : BridgeDeposit) (mode : BridgeMode)
    (guardrails : BridgeGuardrailOptions) : Option BridgeObservation := do
  let replayKey ← bridgeReplayKey deposit
  let observationId ← bridgeObservationId deposit
  pure
    { observationId, replayKey, mode, deposit
      productionReady := depositReady deposit mode guardrails
      asset := makeAssetIdentity deposit (guardrails.assetDecimals.getD defaultAssetDecimals) }

/-! ### Credits -/

inductive CreditStatus where
  | pending | applied | rejected
  deriving DecidableEq

structure CreditSource where
  chainId : ℕ
  (contract txHash : String)
  logIndex : ℕ

structure BridgeCredit where
  (creditId observationId depositId replayKey : String)
  source : CreditSource
  token : String
  asset : BridgeAssetIdentity
  (amount flowmemoryRecipient : String)
  status : CreditStatus
  (pendingReason appliedAt rejectionReason : Option String)
  (localOnly productionReady : Bool)

def fixedTestObservedAt : String := "2026-05-13T00:00:00.000Z"

def flowmemoryLocalRuntimeChainId : ℕ := 31337

def bridgeCreditId (observation : BridgeObservation) : Option String :=
  typedHash ("FlowMemoryBridgeCreditV1(bytes32 observationId,bytes32 localRecipient," ++
      "uint256 localChainId,uint256 creditAmount)")
    [.bytes32 observation.observationId, .bytes32 observation.deposit.flowmemoryRecipient,
      .uint flowmemoryLocalRuntimeChainId, .uint (decimalValue observation.deposit.amount)]

def makeBridgeCredit (observation : BridgeObservation) (status : CreditStatus)
    (rejectionReason : Option String) : Option BridgeCredit := do
  let creditId ← bridgeCreditId observation
  let deposit := observation.deposit
  let livePilot := isLivePilotMode observation.mode
  pure
    { creditId
      observationId := observation.observationId
      depositId := deposit.depositId
      replayKey := observation.replayKey
      source := ⟨deposit.sourceChainId, deposit.sourceContract, deposit.txHash, deposit.logIndex⟩
      token := deposit.token
      asset := observation.asset
      amount := deposit.amount
      flowmemoryRecipient := deposit.flowmemoryRecipient
      status
      pendingReason := if status = .pending then some "runtime_intake_pending_handoff_file" else none
      appliedAt := if status = .applied then some fixedTestObservedAt else none
      rejectionReason
      localOnly := !livePilot || status = .rejected
      productionReady := livePilot && status ≠ .rejected }

/-- The status of the credit of an observation after the keys of the batch so far, its reason, and
the keys after it. -/
def creditStatus (options : CliOptions) (applyCredit : Bool) (observation : BridgeObservation)
    (seen : List String) : CreditStatus × Option String × List String :=
  match pilotDepositRejectionReason observation.deposit options with
  | some reason => (.rejected, some reason, seen)
  | none =>
    if observation.replayKey ∈ seen then (.rejected, some "duplicate_replay_key", seen)
    else
      let seen := observation.replayKey :: seen
      if observation.mode = .baseMainnetCanary then
        (.rejected, some "base_mainnet_canary_read_only", seen)
      else (if applyCredit then .applied else .pending, none, seen)

def makeCreditsFrom (options : CliOptions) (applyCredit : Bool) :
    List BridgeObservation → List String → Option (List BridgeCredit)
  | [], _ => some []
  | observation :: observations, seen => do
      let (status, reason, seen) := creditStatus options applyCredit observation seen
      let credit ← makeBridgeCredit observation status reason
      let credits ← makeCreditsFrom options applyCredit observations seen
      pure (credit :: credits)

def makeCredits (observations : List BridgeObservation) (applyCredit : Bool) (options : CliOptions) :
    Option (List BridgeCredit) :=
  makeCreditsFrom options applyCredit observations []

/-! ### Applications -/

inductive ApplicationStatus where
  | applied | idempotentReplay | rejected
  deriving DecidableEq

def ApplicationStatus.text : ApplicationStatus → String
  | .applied => "applied"
  | .idempotentReplay => "idempotent_replay"
  | .rejected => "rejected"

structure BridgeRuntimeCreditApplication where
  (applicationId creditId depositId replayKey flowmemoryRecipient : String)
  asset : BridgeAssetIdentity
  amount : String
  status : ApplicationStatus
  (appliedAt previousApplicationId rejectionReason : Option String)
  applyCount : ℕ
  (localOnly productionReady : Bool)

/-- A text or `null`. -/
def textOrNull : Option String → Json
  | some text => .str text
  | none => .null

def makeRuntimeApplication (credit : BridgeCredit) (status : ApplicationStatus)
    (previousApplicationId rejectionReason : Option String) : BridgeRuntimeCreditApplication where
  applicationId := externalStableId "flowmemory.bridge_runtime_credit_application.v0"
    (.obj [("creditId", .str credit.creditId), ("replayKey", .str credit.replayKey),
      ("status", .str status.text),
      ("previousApplicationId", textOrNull previousApplicationId)])
  creditId := credit.creditId
  depositId := credit.depositId
  replayKey := credit.replayKey
  flowmemoryRecipient := credit.flowmemoryRecipient
  asset := credit.asset
  amount := credit.amount
  status
  appliedAt := if status = .applied then some fixedTestObservedAt else none
  previousApplicationId
  rejectionReason
  applyCount := if status = .applied then 1 else 0
  localOnly := !credit.productionReady
  productionReady := credit.productionReady

/-- The content of the runtime state file. -/
structure ApplicationState where
  appliedReplayKeys : String → Option String
  applications : List BridgeRuntimeCreditApplication

def emptyApplicationState : ApplicationState := ⟨fun _ => none, []⟩

/-- A credit as it was made, as it comes out, and the application that is recorded for it. -/
structure CreditResult where
  (made credit : BridgeCredit)
  application : Option BridgeRuntimeCreditApplication

/-- A prepared credit whose key was applied before. -/
def asReplay (credit : BridgeCredit) : BridgeCredit :=
  { credit with
    status := .rejected
    appliedAt := none
    rejectionReason := some "already_applied_replay_key" }

def applyCredit (state : ApplicationState) (credit : BridgeCredit) :
    CreditResult × ApplicationState :=
  match credit.status with
  | .rejected =>
    (⟨credit, credit, some (makeRuntimeApplication credit .rejected none credit.rejectionReason)⟩,
      state)
  | .pending => (⟨credit, credit, none⟩, state)
  | .applied =>
    match state.appliedReplayKeys credit.replayKey with
    | some previousApplicationId =>
      (⟨credit, asReplay credit, some (makeRuntimeApplication (asReplay credit) .idempotentReplay
        (some previousApplicationId) (some "already_applied_replay_key"))⟩, state)
    | none =>
      let application := makeRuntimeApplication credit .applied none none
      (⟨credit, credit, some application⟩,
        ⟨Function.update state.appliedReplayKeys credit.replayKey
            (some application.applicationId),
          state.applications ++ [application]⟩)

def applyCredits : ApplicationState → List BridgeCredit → List CreditResult × ApplicationState
  | state, [] => ([], state)
  | state, credit :: credits =>
    let first := applyCredit state credit
    let rest := applyCredits first.2 credits
    (first.1 :: rest.1, rest.2)

def loadApplicationState (file : Option ApplicationState) : ApplicationState :=
  file.getD emptyApplicationState

/-- An application changed the state. -/
def changed (results : List CreditResult) : Bool :=
  results.any fun r => r.application.any fun a => a.status = .applied

/-- The work on the runtime state file while it is locked: the results, and the file after it. -/
def applyCreditsExactlyOnce (credits : List BridgeCredit) (file : Option ApplicationState) :
    List CreditResult × Option ApplicationState :=
  let applied := applyCredits (loadApplicationState file) credits
  (applied.1, if changed applied.1 then some applied.2 else file)

/-! ### The handoff -/

structure BridgeRuntimeHandoff where
  mode : BridgeMode
  productionReady : Bool
  observations : List BridgeObservation
  credits : List BridgeCredit
  runtimeApplications : List BridgeRuntimeCreditApplication

def makeRuntimeHandoff (mode : BridgeMode) (observations : List BridgeObservation)
    (results : List CreditResult) : BridgeRuntimeHandoff :=
  let credits := results.map CreditResult.credit
  let runtimeApplications := results.filterMap CreditResult.application
  let firstAppliedCredit := credits.find? fun credit => credit.status = .applied
  { mode, observations, credits, runtimeApplications
    productionReady := isLivePilotMode mode && !observations.isEmpty &&
      firstAppliedCredit.any (·.productionReady) &&
      (runtimeApplications.filter fun a => a.status = .applied).all (·.productionReady) }

end FlowMemory.Relayer
