import FlowMemory.Lib.Txn
import FlowMemory.LocalRuntime.Error
import FlowMemory.LocalRuntime.Ids

/-! # Checks made before a transaction writes

The tests that several transactions share.  They read the state and fail with the error of the
source; none of them writes. -/

namespace FlowMemory

open LocalRuntimeError Check

/-- The result of a check. -/
abbrev Checked (α : Type) := Except LocalRuntimeError α

/-! ### Identifiers -/

def ensureExpectedId (kind actual expected : String) : Checked Unit :=
  rejectIf (actual ≠ expected) (deterministicIdMismatch kind expected actual)

def ensureExpectedIdOneOf (kind actual : String) (expected : List String) : Checked Unit :=
  rejectIf (actual ∉ expected)
    (deterministicIdMismatch kind (" or ".intercalate expected) actual)

variable {u : Unit}

theorem ensureExpectedId_ok {kind actual expected : String} :
    ensureExpectedId kind actual expected = .ok u ↔ actual = expected := by
  rw [ensureExpectedId, rejectIf_ok, not_not]

theorem ensureExpectedIdOneOf_ok {kind actual : String} {expected : List String} :
    ensureExpectedIdOneOf kind actual expected = .ok u ↔ actual ∈ expected := by
  rw [ensureExpectedIdOneOf, rejectIf_ok, not_not]

/-! ### Bridge credits -/

/-- Exactly one of the two modes is on. -/
def ensureValidBridgeRuntimeMode (localOnly productionReady : Bool) (id : String) : Checked Unit :=
  match localOnly, productionReady with
  | true, false => .ok ()
  | false, true => .ok ()
  | _, _ => .error (bridgeCreditInvalidRuntimeMode id)

def isLiveBridgeCredit (localOnly productionReady : Bool) : Bool := !localOnly && productionReady

def eqIgnoreAsciiCase (a b : String) : Bool := toAsciiLowercase a == toAsciiLowercase b

def validateLiveBridgeCredit (bridgeCreditId sourceChainId sourceToken : String)
    (amountUnits : UInt64) (confirmationProof : Option BridgeConfirmationProof)
    (pilotCapProof : Option BridgePilotCapProof) : Checked Unit := do
  rejectIf (sourceChainId ≠ baseMainnetChainId) (bridgeCreditWrongSourceChain sourceChainId)
  let confirmation ← okOr confirmationProof (bridgeCreditMissingConfirmationProof bridgeCreditId)
  rejectIf (confirmation.satisfied = false) (bridgeCreditConfirmationUnsatisfied bridgeCreditId)
  let cap ← okOr pilotCapProof (bridgeCreditMissingPilotCapProof bridgeCreditId)
  rejectIf (cap.approvedLockbox = false ∨ cap.operatorAcknowledged = false ∨
    cap.noSecrets = false) (bridgeCreditMissingPilotCapProof bridgeCreditId)
  rejectIf (amountUnits > cap.maxDepositAmountUnits ∨ amountUnits > cap.totalCapAmountUnits)
    (bridgeCreditAmountExceedsPilotCap bridgeCreditId)
  rejectIf (¬ cap.supportedTokens.any (eqIgnoreAsciiCase · sourceToken))
    (bridgeCreditUnsupportedAsset sourceToken)

/-! ### Rootfields, agents and verifiers -/

def ensureRootfieldExists (s : ChainState) (rootfieldId : String) : Checked Unit :=
  match s.rootfields[rootfieldId]? with
  | some rootfield => rejectIf (rootfield.active = false) (rootfieldInactive rootfieldId)
  | none => .error (rootfieldMissing rootfieldId)

def ensureAgentActive (s : ChainState) (agentId : String) : Checked Unit :=
  match s.agentAccounts[agentId]? with
  | some agent => rejectIf (agent.active = false) (agentInactive agentId)
  | none => .error (agentMissing agentId)

def ensureVerifierModuleActive (s : ChainState) (verifierId : String) : Checked Unit :=
  match s.verifierModules[verifierId]? with
  | some verifier => rejectIf (verifier.active = false) (verifierModuleInactive verifierId)
  | none => .error (verifierModuleMissing verifierId)

/-! ### Work receipts -/

def isAcceptedStatus (status : String) : Bool :=
  toAsciiLowercase status ∈ ["accepted", "verified"]

def isFailedStatus (status : String) : Bool :=
  toAsciiLowercase status ∈ ["failed", "invalid", "rejected", "unsupported", "reorged"]

def isValidFinalityStatus (status : String) : Bool :=
  toAsciiLowercase status ∈ ["finalized", "local-finalized"]

/-- Some report on the receipt has a status that satisfies `p`. -/
def hasReport (s : ChainState) (receiptId : String) (p : String → Bool) : Bool :=
  (OrderedMap.vals s.verifierReports).any fun report =>
    report.receiptId = receiptId && p report.status

def ensureReceiptStatusAccepted (s : ChainState) (receiptId : String) : Checked Unit := do
  rejectIf (hasReport s receiptId isFailedStatus) (workReceiptFailed receiptId)
  rejectIf (¬ hasReport s receiptId isAcceptedStatus) (workReceiptNotAccepted receiptId)

def ensureReceiptAccepted (s : ChainState) (receiptId rootfieldId : String) :
    Checked WorkReceipt := do
  let receipt ← okOr s.workReceipts[receiptId]? (workReceiptMissing receiptId)
  rejectIf (receipt.rootfieldId ≠ rootfieldId) (workReceiptRootfieldMismatch receiptId)
  ensureReceiptStatusAccepted s receiptId
  return receipt

def ensureReceiptAcceptedForAnyRootfield (s : ChainState) (receiptId : String) :
    Checked WorkReceipt := do
  let receipt ← okOr s.workReceipts[receiptId]? (workReceiptMissing receiptId)
  ensureReceiptStatusAccepted s receiptId
  return receipt

variable {s : ChainState} {receiptId : String}

theorem ensureReceiptStatusAccepted_ok :
    ensureReceiptStatusAccepted s receiptId = .ok u ↔
      ¬ hasReport s receiptId isFailedStatus ∧ hasReport s receiptId isAcceptedStatus := by
  simp only [ensureReceiptStatusAccepted, Check.bind_ok, rejectIf_ok, not_not, exists_const]

theorem ensureReceiptAcceptedForAnyRootfield_ok {receipt : WorkReceipt} :
    ensureReceiptAcceptedForAnyRootfield s receiptId = .ok receipt ↔
      s.workReceipts[receiptId]? = some receipt ∧ ¬ hasReport s receiptId isFailedStatus ∧
        hasReport s receiptId isAcceptedStatus := by
  simp only [ensureReceiptAcceptedForAnyRootfield, Check.bind_ok, okOr_ok,
    ensureReceiptStatusAccepted_ok, Check.pure_ok]
  constructor
  · rintro ⟨a, ha, -, h, rfl⟩
    exact ⟨ha, h⟩
  · rintro ⟨ha, h⟩
    exact ⟨receipt, ha, (), h, rfl⟩

end FlowMemory
