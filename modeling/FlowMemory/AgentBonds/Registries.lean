import FlowMemory.AgentBonds.Basic

/-! # Policies, approved pools and credit attestations

The registries that the bond manager reads: **task policies** with the quotes they give for a
payout, the underwriter pools that are approved, and the credit attestations of agents. -/

namespace FlowMemory.AgentBonds

open Call Function

/-! ### Task policies -/

structure TaskPolicy where
  (agentBondBps verifierFeeBps requesterCancelBondBps disputeBondBps : UInt16)
  requiredConfirmations : UInt8
  (submissionWindow disputeWindow graceWindow minAvailabilityWindow : UInt64)
  (minAgentBond minVerifierFee minRequesterCancelBond minDisputeBond : Uint256)
  evidenceSchema : Bytes32
  riskTier : UInt8
  (objectiveOnly active : Bool)

structure TaskPolicyRegistry where
  ownable : TwoStepOwnable
  policies : Bytes32 → TaskPolicy

inductive PolicyError where
  | ownable (e : OwnableError)
  | zeroPolicyId
  | zeroEvidenceSchema
  | policyAlreadyExists (policyId : Bytes32)
  | policyNotFound (policyId : Bytes32)
  | invalidBps (bps : UInt16)
  | invalidWindow
  | nonObjectivePolicy
  | panic

/-- The amounts that a policy asks for. -/
structure TaskQuote where
  (agentBond verifierFee requesterCancelBond disputeBond : ℕ)
  deriving DecidableEq

namespace TaskPolicyRegistry

/-- The policy registry after its constructor. -/
def deployed (initialOwner : Address) : TaskPolicyRegistry where
  ownable := ⟨initialOwner, 0⟩
  policies := fun _ => ⟨0, 0, 0, 0, 0, 0, 0, 0, 0, 0, 0, 0, 0, 0, 0, false, false⟩

abbrev PolicyAction : Type → Type := Call TaskPolicyRegistry PolicyError

/-- A share of an amount in basis points, but at least `minimum`. -/
def quoteShare (minimum : ℕ) (amount : ℕ) (bps : UInt16) : Option ℕ :=
  (mulChecked 256 amount bps.toNat).map fun product => max minimum (product / 10000)

/-- The quote of a policy for a payout. -/
def quoteOf (policy : TaskPolicy) (payout : ℕ) : Option TaskQuote := do
  let agentBond ← quoteShare policy.minAgentBond payout policy.agentBondBps
  let verifierFee ← quoteShare policy.minVerifierFee payout policy.verifierFeeBps
  let requesterCancelBond ←
    quoteShare policy.minRequesterCancelBond payout policy.requesterCancelBondBps
  let disputeBond ← quoteShare policy.minDisputeBond agentBond policy.disputeBondBps
  some ⟨agentBond, verifierFee, requesterCancelBond, disputeBond⟩

def getPolicy (r : TaskPolicyRegistry) (policyId : Bytes32) : Option TaskPolicy :=
  if (r.policies policyId).evidenceSchema = 0 then none else some (r.policies policyId)

def quote (r : TaskPolicyRegistry) (policyId : Bytes32) (payout : ℕ) : Option TaskQuote :=
  (r.getPolicy policyId).bind fun policy => quoteOf policy payout

variable (env : Env)

def onlyOwner : PolicyAction Unit :=
  within TaskPolicyRegistry.ownable (fun r o => { r with ownable := o }) .ownable
    (TwoStepOwnable.onlyOwner env)

def validateBps (bps : UInt16) : PolicyAction Unit := revertIf (bps > 10000) (.invalidBps bps)

def validatePolicy (policy : TaskPolicy) : PolicyAction Unit := do
  validateBps policy.agentBondBps
  validateBps policy.verifierFeeBps
  validateBps policy.requesterCancelBondBps
  validateBps policy.disputeBondBps
  revertIf (policy.submissionWindow = 0 ∨ policy.disputeWindow = 0 ∨
    policy.minAvailabilityWindow = 0) .invalidWindow
  revertIf (policy.evidenceSchema = 0) .zeroEvidenceSchema
  revertIf (policy.objectiveOnly = false) .nonObjectivePolicy

def createPolicy (policyId : Bytes32) (policy : TaskPolicy) : PolicyAction Unit := do
  onlyOwner env
  revertIf (policyId = 0) .zeroPolicyId
  let r ← get
  revertIf ((r.policies policyId).evidenceSchema ≠ 0) (.policyAlreadyExists policyId)
  validatePolicy policy
  modify fun r => { r with policies := update r.policies policyId policy }

def setPolicyActive (policyId : Bytes32) (active : Bool) : PolicyAction Unit := do
  onlyOwner env
  let r ← get
  let policy := r.policies policyId
  revertIf (policy.evidenceSchema = 0) (.policyNotFound policyId)
  modify fun r => { r with
    policies := update r.policies policyId { policy with active } }

inductive Msg where
  | ownership (call : OwnableCall)
  | createPolicy (policyId : Bytes32) (policy : TaskPolicy)
  | setPolicyActive (policyId : Bytes32) (active : Bool)

def call : Msg → PolicyAction Unit
  | .ownership c =>
    within TaskPolicyRegistry.ownable (fun r o => { r with ownable := o }) .ownable
      (TwoStepOwnable.call env c)
  | .createPolicy policyId policy => createPolicy env policyId policy
  | .setPolicyActive policyId active => setPolicyActive env policyId active

/-! A policy that exists keeps its terms. -/

section terms

variable {env} {r r' : TaskPolicyRegistry} {u : Unit} {msg : Msg} {policyId : Bytes32}

attribute [simp] onlyOwner

/-- What the registry asks of a policy. -/
def ValidPolicy (policy : TaskPolicy) : Prop :=
  policy.agentBondBps ≤ 10000 ∧ policy.verifierFeeBps ≤ 10000 ∧
  policy.requesterCancelBondBps ≤ 10000 ∧ policy.disputeBondBps ≤ 10000 ∧
  policy.submissionWindow ≠ 0 ∧ policy.disputeWindow ≠ 0 ∧ policy.minAvailabilityWindow ≠ 0 ∧
  policy.evidenceSchema ≠ 0 ∧ policy.objectiveOnly = true

@[simp] theorem validatePolicy_ok {policy : TaskPolicy} :
    validatePolicy policy r = .ok (u, r') ↔ ValidPolicy policy ∧ r' = r := by
  simp [validatePolicy, validateBps, ValidPolicy, and_assoc]

theorem call_policies (h : call env msg r = .ok (u, r'))
    (hexists : (r.policies policyId).evidenceSchema ≠ 0) :
    ∃ active, r'.policies policyId = { r.policies policyId with active } := by
  cases msg with
  | ownership c =>
    simp [call] at h
    obtain ⟨o, -, rfl⟩ := h
    exact ⟨_, rfl⟩
  | createPolicy id policy =>
    simp [call, createPolicy, and_assoc] at h
    obtain ⟨-, -, hnew, -, rfl⟩ := h
    have hne : policyId ≠ id := by
      rintro rfl
      exact hexists hnew
    exact ⟨(r.policies policyId).active, by simp [hne]⟩
  | setPolicyActive id active =>
    simp [call, setPolicyActive, and_assoc] at h
    obtain ⟨-, -, rfl⟩ := h
    by_cases hid : policyId = id
    · subst hid
      exact ⟨active, by simp⟩
    · exact ⟨(r.policies policyId).active, by simp [hid]⟩

/-- So do its quotes. -/
theorem call_quote (h : call env msg r = .ok (u, r'))
    {payout : ℕ} {q : TaskQuote} (hquote : r.quote policyId payout = some q) :
    r'.quote policyId payout = some q := by
  simp only [quote, getPolicy, Option.bind_eq_some_iff] at hquote ⊢
  obtain ⟨policy, hpolicy, hq⟩ := hquote
  split_ifs at hpolicy with hzero
  obtain rfl := Option.some.inj hpolicy
  obtain ⟨active, hactive⟩ := call_policies h hzero
  rw [hactive]
  exact ⟨_, if_neg hzero, hq⟩

end terms

end TaskPolicyRegistry

/-! ### Approved pools -/

inductive PoolType where
  | stakeCapacityPool
  | usdcRecoursePool
  deriving DecidableEq

structure PoolRecord where
  active : Bool
  poolType : PoolType
  asset : Address
  maxRiskTier : UInt8

structure UnderwriterPoolRegistry where
  ownable : TwoStepOwnable
  pools : Address → PoolRecord

inductive PoolRegistryError where
  | ownable (e : OwnableError)
  | zeroPool
  | poolNotRegistered (pool : Address)
  | poolAssetMismatch (pool expected actual : Address)

namespace UnderwriterPoolRegistry

/-- The pool registry after its constructor. -/
def deployed (initialOwner : Address) : UnderwriterPoolRegistry where
  ownable := ⟨initialOwner, 0⟩
  pools := fun _ => ⟨false, .stakeCapacityPool, 0, 0⟩

abbrev PoolRegistryAction : Type → Type := Call UnderwriterPoolRegistry PoolRegistryError

variable (env : Env)

def onlyOwner : PoolRegistryAction Unit :=
  within UnderwriterPoolRegistry.ownable (fun r o => { r with ownable := o }) .ownable
    (TwoStepOwnable.onlyOwner env)

def registerPool (pool : Address) (poolType : PoolType) (asset : Address) (maxRiskTier : UInt8) :
    PoolRegistryAction Unit := do
  onlyOwner env
  revertIf (pool = 0) .zeroPool
  modify fun r => { r with
    pools := update r.pools pool ⟨true, poolType, asset, maxRiskTier⟩ }

def setPoolStatus (pool : Address) (active : Bool) : PoolRegistryAction Unit := do
  onlyOwner env
  let r ← get
  revertIf ((r.pools pool).asset = 0) (.poolNotRegistered pool)
  modify fun r => { r with
    pools := update r.pools pool { r.pools pool with active } }

def isPoolApproved (r : UnderwriterPoolRegistry) (pool : Address) : Bool := (r.pools pool).active

def requirePoolAsset (pool expectedAsset : Address) : PoolRegistryAction PoolRecord := do
  let r ← get
  let record := r.pools pool
  revertIf (record.asset = 0) (.poolNotRegistered pool)
  revertIf (record.asset ≠ expectedAsset) (.poolAssetMismatch pool expectedAsset record.asset)
  pure record

inductive Msg where
  | ownership (call : OwnableCall)
  | registerPool (pool : Address) (poolType : PoolType) (asset : Address) (maxRiskTier : UInt8)
  | setPoolStatus (pool : Address) (active : Bool)

def call : Msg → PoolRegistryAction Unit
  | .ownership c =>
    within UnderwriterPoolRegistry.ownable (fun r o => { r with ownable := o }) .ownable
      (TwoStepOwnable.call env c)
  | .registerPool pool poolType asset maxRiskTier =>
    registerPool env pool poolType asset maxRiskTier
  | .setPoolStatus pool active => setPoolStatus env pool active

end UnderwriterPoolRegistry

/-! ### Credit attestations -/

structure CreditAttestation where
  score : UInt16
  riskBand : UInt8
  expiresAt : UInt64
  scoreHash : Bytes32
  attester : Address

structure AgentCreditAttestationRegistry where
  ownable : TwoStepOwnable
  isAuthorizedAttester : Address → Bool
  latestAttestations : Address → Bytes32 → CreditAttestation

inductive AttestationError where
  | ownable (e : OwnableError)
  | zeroAttester
  | zeroAgent
  | zeroScope
  | invalidRiskBand (riskBand : UInt8)
  | invalidExpiry (expiresAt : UInt64) (nowTime : ℕ)
  | unauthorizedAttester (attester : Address)

namespace AgentCreditAttestationRegistry

/-- The attestation registry after its constructor. -/
def deployed (initialOwner : Address) : AgentCreditAttestationRegistry where
  ownable := ⟨initialOwner, 0⟩
  isAuthorizedAttester := fun _ => false
  latestAttestations := fun _ _ => ⟨0, 0, 0, 0, 0⟩

abbrev AttestationAction : Type → Type := Call AgentCreditAttestationRegistry AttestationError

/-- The time as a 64-bit number, cut off without a check. -/
def blockTimestamp (timestamp : ℕ) : ℕ := timestamp % 2 ^ 64

variable (env : Env)

def onlyOwner : AttestationAction Unit :=
  within AgentCreditAttestationRegistry.ownable (fun r o => { r with ownable := o }) .ownable
    (TwoStepOwnable.onlyOwner env)

def setAuthorizedAttester (attester : Address) (authorized : Bool) : AttestationAction Unit := do
  onlyOwner env
  revertIf (attester = 0) .zeroAttester
  modify fun r => { r with
    isAuthorizedAttester := update r.isAuthorizedAttester attester authorized }

def publishAttestation (agent : Address) (scope : Bytes32) (score : UInt16) (riskBand : UInt8)
    (expiresAt : UInt64) (scoreHash : Bytes32) : AttestationAction Unit := do
  revertIf (agent = 0) .zeroAgent
  revertIf (scope = 0) .zeroScope
  revertIf (riskBand > 5) (.invalidRiskBand riskBand)
  let nowTime := blockTimestamp env.timestamp
  revertIf (expiresAt.toNat ≤ nowTime) (.invalidExpiry expiresAt nowTime)
  let r ← get
  revertIf (r.isAuthorizedAttester env.sender = false) (.unauthorizedAttester env.sender)
  modify fun r => { r with
    latestAttestations := update r.latestAttestations agent
      (update (r.latestAttestations agent) scope
        ⟨score, riskBand, expiresAt, scoreHash, env.sender⟩) }

def isAttestationValid (r : AgentCreditAttestationRegistry) (timestamp : ℕ) (agent : Address)
    (scope : Bytes32) (minimumScore : UInt16) (maximumRiskBand : UInt8) : Bool :=
  let attestation := r.latestAttestations agent scope
  if attestation.attester = 0 then false
  else if r.isAuthorizedAttester attestation.attester = false then false
  else if attestation.expiresAt.toNat ≤ blockTimestamp timestamp then false
  else if attestation.score < minimumScore then false
  else if attestation.riskBand > maximumRiskBand then false
  else true

inductive Msg where
  | ownership (call : OwnableCall)
  | setAuthorizedAttester (attester : Address) (authorized : Bool)
  | publishAttestation (agent : Address) (scope : Bytes32) (score : UInt16) (riskBand : UInt8)
      (expiresAt : UInt64) (scoreHash : Bytes32)

def call : Msg → AttestationAction Unit
  | .ownership c =>
    within AgentCreditAttestationRegistry.ownable (fun r o => { r with ownable := o }) .ownable
      (TwoStepOwnable.call env c)
  | .setAuthorizedAttester attester authorized => setAuthorizedAttester env attester authorized
  | .publishAttestation agent scope score riskBand expiresAt scoreHash =>
    publishAttestation env agent scope score riskBand expiresAt scoreHash

end AgentCreditAttestationRegistry

end FlowMemory.AgentBonds
