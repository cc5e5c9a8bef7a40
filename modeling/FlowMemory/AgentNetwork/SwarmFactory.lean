import FlowMemory.AgentNetwork.SwarmBudgetVault

/-! # The factory of swarms

An account that submits a **swarm intent** to the factory creates a swarm: the factory checks the
intent against the policy registry, counts the nonce of the creator, records the swarm in the swarm
registry and deposits the initial budget of the intent in the budget vault.

The state is that of all four contracts.  The messages here are the factory's and those that
administer the registries; the other calls of the swarm registry are in `SwarmLifecycle`. -/

namespace FlowMemory.AgentNetwork

open Call AgentBonds ERC20SettlementToken Function

/-! ### Types -/

inductive SwarmStatus where
  | none | active | paused | dissolving | dissolved | graduated
  deriving DecidableEq

inductive MemberType where
  | wallet | agent | swarm | shell
  deriving DecidableEq

structure Swarm where
  swarmId : Bytes32
  creator : Address
  (swarmClass missionRoot sharedMemoryRoot policyRoot roleRoot profileDigest : Bytes32)
  status : SwarmStatus
  budgetVault : Address
  (createdAt updatedAt generation : ℕ)
  parentSwarmId : Bytes32

def Swarm.empty : Swarm := ⟨0, 0, 0, 0, 0, 0, 0, 0, .none, 0, 0, 0, 0, 0⟩

structure SwarmMember where
  memberType : MemberType
  wallet : Address
  (agentId childSwarmId : Bytes32)
  shell : Address
  (role permissionsRoot : Bytes32)
  weight : ℕ
  active : Bool
  (joinedAt updatedAt : ℕ)

def SwarmMember.empty : SwarmMember := ⟨.wallet, 0, 0, 0, 0, 0, 0, 0, false, 0, 0⟩

structure SwarmPolicy where
  (policyId swarmClass admissionPolicyRoot budgetPolicyRoot rolePolicyRoot : Bytes32)
  (maxMemberRiskTier maxMembers : ℕ)
  active : Bool

def SwarmPolicy.empty : SwarmPolicy := ⟨0, 0, 0, 0, 0, 0, 0, false⟩

structure SwarmIntent where
  creator : Address
  (swarmClass missionRoot sharedMemoryRoot policyRoot roleRoot profileDigest : Bytes32)
  budgetAsset : Address
  initialBudget : Uint256
  (validAfter validUntil nonce : UInt64)
  (parentSwarmId salt : Bytes32)

/-! ### The policy registry -/

structure SwarmPolicyRegistry where
  ownable : TwoStepOwnable
  policies : Bytes32 → SwarmPolicy
  approvedSwarmClass : Bytes32 → Bool

inductive PolicyRegistryError where
  | ownable (e : OwnableError)
  | zeroPolicyId
  | zeroSwarmClass
  | zeroAdmissionPolicyRoot
  | zeroBudgetPolicyRoot
  | zeroRolePolicyRoot
  | zeroMaxMembers
  | policyAlreadyRegistered (policyId : Bytes32)
  | policyNotFound (policyId : Bytes32)

namespace SwarmPolicyRegistry

def deployed (initialOwner : Address) : SwarmPolicyRegistry :=
  ⟨⟨initialOwner, 0⟩, fun _ => .empty, fun _ => false⟩

abbrev PolicyAction : Type → Type := Call SwarmPolicyRegistry PolicyRegistryError

variable (env : Env)

def inOwnable (m : Call TwoStepOwnable OwnableError Unit) : PolicyAction Unit :=
  within SwarmPolicyRegistry.ownable (fun r o => { r with ownable := o }) .ownable m

def setSwarmClassApproved (swarmClass : Bytes32) (approved : Bool) : PolicyAction Unit := do
  inOwnable (TwoStepOwnable.onlyOwner env)
  revertIf (swarmClass = 0) .zeroSwarmClass
  modify fun r => { r with
    approvedSwarmClass := update r.approvedSwarmClass swarmClass approved }

def validate (policy : SwarmPolicy) : PolicyAction Unit := do
  revertIf (policy.policyId = 0) .zeroPolicyId
  revertIf (policy.swarmClass = 0) .zeroSwarmClass
  revertIf (policy.admissionPolicyRoot = 0) .zeroAdmissionPolicyRoot
  revertIf (policy.budgetPolicyRoot = 0) .zeroBudgetPolicyRoot
  revertIf (policy.rolePolicyRoot = 0) .zeroRolePolicyRoot
  revertIf (policy.maxMembers = 0) .zeroMaxMembers

/-- Store a policy and approve its class. -/
def storePolicy (policy : SwarmPolicy) : PolicyAction Unit :=
  modify fun r => { r with
    policies := update r.policies policy.policyId policy
    approvedSwarmClass := update r.approvedSwarmClass policy.swarmClass true }

def registerPolicy (policy : SwarmPolicy) : PolicyAction Unit := do
  inOwnable (TwoStepOwnable.onlyOwner env)
  validate policy
  let r ← get
  revertIf ((r.policies policy.policyId).policyId ≠ 0) (.policyAlreadyRegistered policy.policyId)
  storePolicy policy

def updatePolicy (policyId : Bytes32) (policy : SwarmPolicy) : PolicyAction Unit := do
  inOwnable (TwoStepOwnable.onlyOwner env)
  let r ← get
  revertIf ((r.policies policyId).policyId = 0) (.policyNotFound policyId)
  revertIf (policy.policyId ≠ policyId) .zeroPolicyId
  validate policy
  storePolicy policy

def getPolicy (policyId : Bytes32) : PolicyAction SwarmPolicy := do
  let r ← get
  revertIf ((r.policies policyId).policyId = 0) (.policyNotFound policyId)
  pure (r.policies policyId)

inductive Msg where
  | ownable (c : OwnableCall)
  | setSwarmClassApproved (swarmClass : Bytes32) (approved : Bool)
  | registerPolicy (policy : SwarmPolicy)
  | updatePolicy (policyId : Bytes32) (policy : SwarmPolicy)

def call : Msg → PolicyAction Unit
  | .ownable c => inOwnable (TwoStepOwnable.call env c)
  | .setSwarmClassApproved swarmClass approved => setSwarmClassApproved env swarmClass approved
  | .registerPolicy policy => registerPolicy env policy
  | .updatePolicy policyId policy => updatePolicy env policyId policy

end SwarmPolicyRegistry

/-! ### The swarm registry -/

structure SwarmRegistry where
  ownable : TwoStepOwnable
  swarms : Bytes32 → Swarm
  members : Bytes32 → Bytes32 → SwarmMember
  memberKeys : Bytes32 → List Bytes32
  isAuthorizedRegistrar : Address → Bool

inductive SwarmRegistryError where
  | ownable (e : OwnableError)
  | zeroSwarmId
  | zeroCreator
  | zeroSwarmClass
  | zeroMissionRoot
  | zeroPolicyRoot
  | zeroRoleRoot
  | swarmAlreadyExists (swarmId : Bytes32)
  | unauthorizedRegistrar (caller : Address)
  | memberAlreadyExists (swarmId memberKey : Bytes32)
  | swarmNotFound (swarmId : Bytes32)
  | unauthorizedSwarmOperator (swarmId : Bytes32) (caller : Address)
  | memberNotFound (swarmId memberKey : Bytes32)
  | invalidSwarmStatus (swarmId : Bytes32) (status : SwarmStatus)

/-- The addresses of the contracts and the hashes that they take. -/
structure SwarmDeployment where
  factory : Address
  budgetVault : BudgetVaultDeployment
  swarmIntentHash : SwarmIntent → Bytes32
  swarmId : (creator : Address) → (swarmClass missionRoot sharedMemoryRoot : Bytes32) →
    (nonce : UInt64) → (salt : Bytes32) → Bytes32
  memberKey : MemberType → (wallet : Address) → (agentId childSwarmId : Bytes32) →
    (shell : Address) → Bytes32

namespace SwarmRegistry

def deployed (initialOwner : Address) : SwarmRegistry :=
  ⟨⟨initialOwner, 0⟩, fun _ => .empty, fun _ _ => .empty, fun _ => [], fun _ => false⟩

abbrev RegistryAction : Type → Type := Call SwarmRegistry SwarmRegistryError

variable (D : SwarmDeployment) (env : Env)

def inOwnable (m : Call TwoStepOwnable OwnableError Unit) : RegistryAction Unit :=
  within SwarmRegistry.ownable (fun r o => { r with ownable := o }) .ownable m

def setAuthorizedRegistrar (registrar : Address) (authorized : Bool) : RegistryAction Unit := do
  inOwnable (TwoStepOwnable.onlyOwner env)
  revertIf (registrar = 0) .zeroCreator
  modify fun r => { r with
    isAuthorizedRegistrar := update r.isAuthorizedRegistrar registrar authorized }

def validateCreate (swarm : Swarm) : RegistryAction Unit := do
  revertIf (swarm.swarmId = 0) .zeroSwarmId
  revertIf (swarm.creator = 0) .zeroCreator
  revertIf (swarm.swarmClass = 0) .zeroSwarmClass
  revertIf (swarm.missionRoot = 0) .zeroMissionRoot
  revertIf (swarm.policyRoot = 0) .zeroPolicyRoot
  revertIf (swarm.roleRoot = 0) .zeroRoleRoot

def addMember (swarmId : Bytes32) (member : SwarmMember) : RegistryAction Unit := do
  let memberKey := D.memberKey member.memberType member.wallet member.agentId member.childSwarmId
    member.shell
  let r ← get
  revertIf ((r.members swarmId memberKey).joinedAt ≠ 0) (.memberAlreadyExists swarmId memberKey)
  let initialized := { member with
    joinedAt := uint64 env.timestamp
    updatedAt := uint64 env.timestamp
    active := true }
  modify fun r => { r with
    members := update r.members swarmId
      (update (r.members swarmId) memberKey initialized)
    memberKeys := update r.memberKeys swarmId (r.memberKeys swarmId ++ [memberKey]) }

def addMembers (swarmId : Bytes32) : List SwarmMember → RegistryAction Unit
  | [] => pure ()
  | member :: members => do
      addMember D env swarmId member
      addMembers swarmId members

def createSwarm (swarm : Swarm) (initialMembers : List SwarmMember) : RegistryAction Unit := do
  let r ← get
  revertIf (r.isAuthorizedRegistrar env.sender = false) (.unauthorizedRegistrar env.sender)
  validateCreate swarm
  let r ← get
  revertIf ((r.swarms swarm.swarmId).swarmId ≠ 0) (.swarmAlreadyExists swarm.swarmId)
  modify fun r => { r with swarms := update r.swarms swarm.swarmId swarm }
  addMembers D env swarm.swarmId initialMembers

end SwarmRegistry

/-! ### The factory -/

structure SwarmFactory where
  ownable : TwoStepOwnable
  nonces : Address → ℕ
  consumedSwarmIntent : Bytes32 → Bool
  paused : Bool

def SwarmFactory.deployed (initialOwner : Address) : SwarmFactory :=
  ⟨⟨initialOwner, 0⟩, fun _ => 0, fun _ => false, false⟩

structure SwarmContracts where
  factory : SwarmFactory
  policyRegistry : SwarmPolicyRegistry
  swarmRegistry : SwarmRegistry
  budgetVault : SwarmBudgetVault

inductive SwarmError where
  | ownable (e : OwnableError)
  | factoryPaused
  | invalidIntentWindow (validAfter validUntil : UInt64)
  | swarmIntentAlreadyConsumed (swarmIntentHash : Bytes32)
  | swarmClassNotApproved (swarmClass : Bytes32)
  | swarmPolicyNotActive (policyId : Bytes32)
  | invalidNonce (creator : Address) (expected provided : ℕ)
  | policyRegistry (e : PolicyRegistryError)
  | swarmRegistry (e : SwarmRegistryError)
  | budgetVault (e : BudgetVaultError)
  | panic

namespace SwarmFactory

abbrev SwarmAction : Type → Type := Call SwarmContracts SwarmError

abbrev SwarmTokenAction (τ : Type) : Type → Type := Call (WithTokens SwarmContracts τ) SwarmError

variable {τ : Type} [ERC20SettlementToken τ] (D : SwarmDeployment) (env : Env)

def inOwnable (m : Call TwoStepOwnable OwnableError Unit) : SwarmAction Unit :=
  within (fun c => c.factory.ownable)
    (fun c o => { c with factory := { c.factory with ownable := o } }) .ownable m

def inPolicyRegistry {α : Type} (m : Call SwarmPolicyRegistry PolicyRegistryError α) :
    SwarmAction α :=
  within SwarmContracts.policyRegistry (fun c r => { c with policyRegistry := r }) .policyRegistry m

def inSwarmRegistry {α : Type} (m : Call SwarmRegistry SwarmRegistryError α) : SwarmAction α :=
  within SwarmContracts.swarmRegistry (fun c r => { c with swarmRegistry := r }) .swarmRegistry m

def inBudgetVault (m : Call (WithTokens SwarmBudgetVault τ) BudgetVaultError Unit) :
    SwarmTokenAction τ Unit :=
  within (fun w => ⟨w.contract.budgetVault, w.tokens⟩)
    (fun w v => ⟨{ w.contract with budgetVault := v.contract }, v.tokens⟩) .budgetVault m

def setPaused (value : Bool) : SwarmAction Unit := do
  inOwnable (TwoStepOwnable.onlyOwner env)
  modify fun c => { c with factory := { c.factory with paused := value } }

/-- The checks of an intent, and the count of its nonce. -/
def consumeIntent (policyId : Bytes32) (intent : SwarmIntent) : SwarmAction Unit := do
  let c ← get
  revertIf (c.factory.paused = true) .factoryPaused
  revertIf (intent.validUntil ≤ intent.validAfter ∨
      uint64 env.timestamp < intent.validAfter.toNat ∨
      uint64 env.timestamp > intent.validUntil.toNat)
    (.invalidIntentWindow intent.validAfter intent.validUntil)
  let currentNonce := c.factory.nonces intent.creator
  revertIf (intent.nonce.toNat ≠ currentNonce)
    (.invalidNonce intent.creator currentNonce intent.nonce.toNat)
  let swarmIntentHash := D.swarmIntentHash intent
  revertIf (c.factory.consumedSwarmIntent swarmIntentHash = true)
    (.swarmIntentAlreadyConsumed swarmIntentHash)
  let policy ← inPolicyRegistry (SwarmPolicyRegistry.getPolicy policyId)
  revertIf (policy.active = false) (.swarmPolicyNotActive policyId)
  revertIf (c.policyRegistry.approvedSwarmClass intent.swarmClass = false)
    (.swarmClassNotApproved intent.swarmClass)
  let nonce ← okOr (addChecked 64 currentNonce 1) .panic
  modify fun c => { c with factory := { c.factory with
    consumedSwarmIntent := update c.factory.consumedSwarmIntent swarmIntentHash true
    nonces := update c.factory.nonces intent.creator nonce } }

/-- The identifier of the swarm of an intent. -/
def swarmIdOf (intent : SwarmIntent) : Bytes32 :=
  D.swarmId intent.creator intent.swarmClass intent.missionRoot intent.sharedMemoryRoot intent.nonce
    intent.salt

/-- The swarm of an intent. -/
def swarmOf (intent : SwarmIntent) : Swarm where
  swarmId := swarmIdOf D intent
  creator := intent.creator
  swarmClass := intent.swarmClass
  missionRoot := intent.missionRoot
  sharedMemoryRoot := intent.sharedMemoryRoot
  policyRoot := intent.policyRoot
  roleRoot := intent.roleRoot
  profileDigest := intent.profileDigest
  status := .active
  budgetVault := D.budgetVault.vault
  createdAt := uint64 env.timestamp
  updatedAt := uint64 env.timestamp
  generation := 0
  parentSwarmId := intent.parentSwarmId

def createSwarm (policyId : Bytes32) (intent : SwarmIntent) (initialMembers : List SwarmMember) :
    SwarmTokenAction τ Unit := do
  onContract (consumeIntent D env policyId intent)
  -- the factory is the sender of the calls of the other contracts
  onContract (inSwarmRegistry
    (SwarmRegistry.createSwarm D ⟨D.factory, env.timestamp⟩ (swarmOf D env intent) initialMembers))
  if intent.initialBudget = 0 then pure ()
  else inBudgetVault (SwarmBudgetVault.deposit D.budgetVault (swarmIdOf D intent) intent.creator
    intent.budgetAsset intent.initialBudget)

/-- The calls of the four contracts, as messages. -/
inductive Msg where
  | ownable (c : OwnableCall)
  | setPaused (value : Bool)
  | createSwarm (policyId : Bytes32) (intent : SwarmIntent) (initialMembers : List SwarmMember)
  | policyRegistry (msg : SwarmPolicyRegistry.Msg)
  | swarmRegistryOwnable (c : OwnableCall)
  | setAuthorizedRegistrar (registrar : Address) (authorized : Bool)
  | budgetVault (msg : SwarmBudgetVault.Msg)

def call : Msg → SwarmTokenAction τ Unit
  | .ownable c => onContract (inOwnable (TwoStepOwnable.call env c))
  | .setPaused value => onContract (setPaused env value)
  | .createSwarm policyId intent initialMembers => createSwarm D env policyId intent initialMembers
  | .policyRegistry msg => onContract (inPolicyRegistry (SwarmPolicyRegistry.call env msg))
  | .swarmRegistryOwnable c =>
    onContract (inSwarmRegistry (SwarmRegistry.inOwnable (TwoStepOwnable.call env c)))
  | .setAuthorizedRegistrar registrar authorized =>
    onContract (inSwarmRegistry (SwarmRegistry.setAuthorizedRegistrar env registrar authorized))
  | .budgetVault msg => inBudgetVault (SwarmBudgetVault.call D.budgetVault env msg)

end SwarmFactory

end FlowMemory.AgentNetwork
