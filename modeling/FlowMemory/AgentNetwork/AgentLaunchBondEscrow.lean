import FlowMemory.AgentNetwork.Basic

/-! # The escrow of launch bonds

A **locker** locks a bond for an agent, once.  The payer or the beneficiary **requests** the release of
the bond and releases it later to the beneficiary; lockers **slash** it.  The policy of the class of
the agent says how long a bond is locked and how much of it may be slashed. -/

namespace FlowMemory.AgentNetwork

open Call AgentBonds ERC20SettlementToken Function

inductive BondStatus where
  | none | locked | releaseRequested | released | slashed
  deriving DecidableEq

structure BondPolicy where
  token : Address
  (minAmount maxAmount : Uint256)
  (minLockSeconds releaseDelaySeconds : UInt64)
  slashCapBps : ℕ
  active : Bool
  deriving DecidableEq

structure Bond where
  (agentId classId : Bytes32)
  (payer beneficiary token : Address)
  (amount lockedAt releaseAfter releaseRequestedAt : ℕ)
  status : BondStatus
  policyRoot : Bytes32

def Bond.empty : Bond := ⟨0, 0, 0, 0, 0, 0, 0, 0, 0, .none, 0⟩

def BondPolicy.empty : BondPolicy := ⟨0, 0, 0, 0, 0, 0, false⟩

structure AgentLaunchBondEscrow where
  ownable : TwoStepOwnable
  bonds : Bytes32 → Bond
  classBondPolicies : Bytes32 → BondPolicy
  approvedBondToken : Address → Bool
  isAuthorizedLocker : Address → Bool
  totalSlashedByAgent : Bytes32 → ℕ

inductive BondEscrowError where
  | ownable (e : OwnableError)
  | zeroAgentId
  | zeroBeneficiary
  | zeroToken
  | zeroLocker
  | bondAlreadyExists (agentId : Bytes32)
  | bondNotFound (agentId : Bytes32)
  | unauthorizedLocker (caller : Address)
  | unapprovedBondToken (token : Address)
  | inactiveBondPolicy (classId : Bytes32)
  | bondBelowMinimum (amount minimum : ℕ)
  | bondAboveMaximum (amount maximum : ℕ)
  | invalidSlashCap (slashCapBps : ℕ)
  | invalidBondStatus (agentId : Bytes32) (status : BondStatus)
  | earlyRelease (agentId : Bytes32) (releaseAfter nowTime : ℕ)
  | slashAboveCap (requested available : ℕ)
  | transferFailed
  | zeroEvidenceRoot
  | panic

namespace AgentLaunchBondEscrow

def deployed (initialOwner : Address) : AgentLaunchBondEscrow where
  ownable := ⟨initialOwner, 0⟩
  bonds _ := .empty
  classBondPolicies _ := .empty
  approvedBondToken _ := false
  isAuthorizedLocker _ := false
  totalSlashedByAgent _ := 0

/-- The calls that use no token. -/
abbrev BondAction : Type → Type := Call AgentLaunchBondEscrow BondEscrowError

abbrev BondTokenAction (τ : Type) : Type → Type :=
  Call (WithTokens AgentLaunchBondEscrow τ) BondEscrowError

variable {τ : Type} [ERC20SettlementToken τ] (self : Address) (env : Env)

def inOwnable (m : Call TwoStepOwnable OwnableError Unit) : BondAction Unit :=
  within AgentLaunchBondEscrow.ownable (fun e o => { e with ownable := o }) .ownable m

def onlyAuthorizedLocker : BondAction Unit := do
  let e ← get
  revertIf (e.isAuthorizedLocker env.sender = false) (.unauthorizedLocker env.sender)

/-! ### Administration -/

def setApprovedBondToken (token : Address) (approved : Bool) : BondAction Unit := do
  inOwnable (TwoStepOwnable.onlyOwner env)
  revertIf (token = 0) .zeroToken
  modify fun e => { e with approvedBondToken := update e.approvedBondToken token approved }

def setAuthorizedLocker (locker : Address) (authorized : Bool) : BondAction Unit := do
  inOwnable (TwoStepOwnable.onlyOwner env)
  revertIf (locker = 0) .zeroLocker
  modify fun e => { e with
    isAuthorizedLocker := update e.isAuthorizedLocker locker authorized }

def setBondPolicy (classId : Bytes32) (policy : BondPolicy) : BondAction Unit := do
  inOwnable (TwoStepOwnable.onlyOwner env)
  revertIf (classId = 0) .zeroAgentId
  revertIf (policy.token = 0) .zeroToken
  revertIf (policy.slashCapBps > 10000) (.invalidSlashCap policy.slashCapBps)
  modify fun e => { e with classBondPolicies := update e.classBondPolicies classId policy }

/-! ### Bonds -/

def recordBond (agentId : Bytes32) (payer beneficiary : Address) (classId : Bytes32)
    (token : Address) (amount : ℕ) (policyRoot : Bytes32) : BondAction Unit := do
  onlyAuthorizedLocker env
  revertIf (agentId = 0) .zeroAgentId
  revertIf (beneficiary = 0) .zeroBeneficiary
  revertIf (token = 0) .zeroToken
  let e ← get
  revertIf ((e.bonds agentId).status ≠ .none) (.bondAlreadyExists agentId)
  revertIf (e.approvedBondToken token = false) (.unapprovedBondToken token)
  let policy := e.classBondPolicies classId
  revertIf (policy.active = false) (.inactiveBondPolicy classId)
  revertIf (policy.token ≠ token) (.unapprovedBondToken token)
  revertIf (amount < policy.minAmount.val) (.bondBelowMinimum amount policy.minAmount)
  revertIf (policy.maxAmount ≠ 0 ∧ amount > policy.maxAmount.val)
    (.bondAboveMaximum amount policy.maxAmount)
  let now64 := uint64 env.timestamp
  let releaseAfter ← okOr (addChecked 64 now64 policy.minLockSeconds.toNat) .panic
  modify fun e => { e with
    bonds := update e.bonds agentId
      ⟨agentId, classId, payer, beneficiary, token, amount, now64, releaseAfter, 0, .locked,
        policyRoot⟩ }

def lockLaunchBond (agentId : Bytes32) (payer beneficiary : Address) (classId : Bytes32)
    (token : Address) (amount : ℕ) (policyRoot : Bytes32) : BondTokenAction τ Unit := do
  onContract (recordBond env agentId payer beneficiary classId token amount policyRoot)
  callToken .transferFailed token (transferFrom self payer self amount)

/-- The bond exists and the sender paid it or gets it. -/
def requireParty (agentId : Bytes32) : BondAction Bond := do
  let e ← get
  let bond := e.bonds agentId
  revertIf (bond.status = .none) (.bondNotFound agentId)
  revertIf (env.sender ≠ bond.beneficiary ∧ env.sender ≠ bond.payer)
    (.unauthorizedLocker env.sender)
  pure bond

def requestRelease (agentId : Bytes32) : BondAction Unit := do
  let bond ← requireParty env agentId
  revertIf (bond.status ≠ .locked) (.invalidBondStatus agentId bond.status)
  let e ← get
  let policy := e.classBondPolicies bond.classId
  let releaseAt ← okOr (if policy.releaseDelaySeconds = 0 then some bond.releaseAfter
    else addChecked 64 (uint64 env.timestamp) policy.releaseDelaySeconds.toNat) .panic
  modify fun e => { e with
    bonds := update e.bonds agentId
      { bond with releaseRequestedAt := releaseAt, status := .releaseRequested } }

/-- The time from which on a bond can be released. -/
def Bond.releaseAt (bond : Bond) : ℕ :=
  if bond.status = .releaseRequested ∧ bond.releaseRequestedAt ≠ 0 then bond.releaseRequestedAt
  else bond.releaseAfter

def closeBond (agentId : Bytes32) : BondAction Bond := do
  let bond ← requireParty env agentId
  revertIf (bond.status ≠ .releaseRequested ∧ bond.status ≠ .locked)
    (.invalidBondStatus agentId bond.status)
  let releaseAt := Bond.releaseAt bond
  revertIf (uint64 env.timestamp < releaseAt)
    (.earlyRelease agentId releaseAt (uint64 env.timestamp))
  modify fun e => { e with
    bonds := update e.bonds agentId { bond with amount := 0, status := .released } }
  pure bond

def releaseBond (agentId : Bytes32) : BondTokenAction τ Unit := do
  let bond ← onContract (closeBond env agentId)
  callToken .transferFailed bond.token (transfer self bond.beneficiary bond.amount)

/-- The most that one call may slash. -/
def slashCap (policy : BondPolicy) (amount : ℕ) : Option ℕ :=
  if policy.slashCapBps = 0 then some amount
  else (mulChecked 256 amount policy.slashCapBps).map (· / 10000)

def slashBond (agentId : Bytes32) (amount : ℕ) (evidenceRoot : Bytes32) : BondAction Unit := do
  onlyAuthorizedLocker env
  let e ← get
  let bond := e.bonds agentId
  revertIf (bond.status = .none) (.bondNotFound agentId)
  revertIf (bond.status ≠ .locked ∧ bond.status ≠ .releaseRequested)
    (.invalidBondStatus agentId bond.status)
  revertIf (evidenceRoot = 0) .zeroEvidenceRoot
  let policy := e.classBondPolicies bond.classId
  let cap ← okOr (slashCap policy bond.amount) .panic
  revertIf (amount > cap ∨ amount > bond.amount) (.slashAboveCap amount (min bond.amount cap))
  let left := bond.amount - amount
  let totalSlashed ← okOr (addChecked 256 (e.totalSlashedByAgent agentId) amount) .panic
  modify fun e => { e with
    bonds := update e.bonds agentId
      { bond with
        amount := left
        status := if left = 0 then .slashed else bond.status }
    totalSlashedByAgent := update e.totalSlashedByAgent agentId totalSlashed }

/-! ### The contract -/

/-- The calls of the contract, as messages. -/
inductive Msg where
  | ownable (c : OwnableCall)
  | setApprovedBondToken (token : Address) (approved : Bool)
  | setAuthorizedLocker (locker : Address) (authorized : Bool)
  | setBondPolicy (classId : Bytes32) (policy : BondPolicy)
  | lockLaunchBond (agentId : Bytes32) (payer beneficiary : Address) (classId : Bytes32)
      (token : Address) (amount : Uint256) (policyRoot : Bytes32)
  | requestRelease (agentId : Bytes32)
  | releaseBond (agentId : Bytes32)
  | slashBond (agentId : Bytes32) (amount : Uint256) (reasonCode evidenceRoot : Bytes32)

def call : Msg → BondTokenAction τ Unit
  | .ownable c => onContract (inOwnable (TwoStepOwnable.call env c))
  | .setApprovedBondToken token approved => onContract (setApprovedBondToken env token approved)
  | .setAuthorizedLocker locker authorized => onContract (setAuthorizedLocker env locker authorized)
  | .setBondPolicy classId policy => onContract (setBondPolicy env classId policy)
  | .lockLaunchBond agentId payer beneficiary classId token amount policyRoot =>
    lockLaunchBond self env agentId payer beneficiary classId token amount policyRoot
  | .requestRelease agentId => onContract (requestRelease env agentId)
  | .releaseBond agentId => releaseBond self env agentId
  | .slashBond agentId amount _ evidenceRoot => onContract (slashBond env agentId amount evidenceRoot)

variable {env : Env} {e e' : AgentLaunchBondEscrow} {u : Unit} {agentId : Bytes32}

attribute [simp] inOwnable onlyAuthorizedLocker

theorem recordBond_ok {payer beneficiary token : Address} {classId policyRoot : Bytes32}
    {amount : ℕ} :
    recordBond env agentId payer beneficiary classId token amount policyRoot e = .ok (u, e') ↔
      e.isAuthorizedLocker env.sender = true ∧ agentId ≠ 0 ∧ beneficiary ≠ 0 ∧ token ≠ 0 ∧
      (e.bonds agentId).status = .none ∧ e.approvedBondToken token = true ∧
      (e.classBondPolicies classId).active = true ∧ (e.classBondPolicies classId).token = token ∧
      (e.classBondPolicies classId).minAmount.val ≤ amount ∧
      ((e.classBondPolicies classId).maxAmount ≠ 0 →
        amount ≤ (e.classBondPolicies classId).maxAmount.val) ∧
      uint64 env.timestamp + (e.classBondPolicies classId).minLockSeconds.toNat < 2 ^ 64 ∧
      e' = { e with
        bonds := update e.bonds agentId
          ⟨agentId, classId, payer, beneficiary, token, amount, uint64 env.timestamp,
            uint64 env.timestamp + (e.classBondPolicies classId).minLockSeconds.toNat, 0, .locked,
            policyRoot⟩ } := by
  simp [recordBond, and_assoc]

end AgentLaunchBondEscrow

end FlowMemory.AgentNetwork
