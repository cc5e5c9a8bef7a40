import FlowMemory.AgentMemory.MemoryChain
import FlowMemory.AgentNetwork.AgentLaunchBondEscrow
import FlowMemory.AgentNetwork.AgentMemoryFuelVault

/-! # The factory of agents

A **launch** turns an intent that its owner signed into a registered agent: the factory checks the
intent against the registries of classes and tool sets, registers the agent with the runtime, locks
the bond, opens the fuel account, sets the profile and attaches the **lineage**.  Who submits the
intent may name a **sponsor** who pays.

The state is that of all contracts the factory writes to.  The registries of classes and of tool sets
are read only; `LaunchRegistries` is what the factory reads from them. -/

namespace FlowMemory.AgentNetwork

open Call AgentBonds AgentMemory ERC20SettlementToken Function

/-! ### Types -/

inductive ParentType where
  | none | agent | swarm | shell
  deriving DecidableEq

structure AgentClass where
  (active deprecated : Bool)
  kernelClass : Bytes32
  (minAutonomyLevel maxAutonomyLevel : UInt8)
  (minLaunchBond minMemoryFuel : Uint256)
  allowPublicLaunch : Bool

structure LaunchIntent where
  (owner operator : Address)
  (classId rootfieldId kernelClass policyRoot toolAllowlistRoot initialMemoryRoot : Bytes32)
  (activeGoalRoot profileDigest launchSpecRoot : Bytes32)
  (autonomyLevel riskLevel : UInt8)
  (parentAgentId parentSwarmId : Bytes32)
  bondToken : Address
  bondAmount : Uint256
  fuelToken : Address
  initialFuelAmount : Uint256
  discoverable : Bool
  (validAfter validUntil nonce : UInt64)
  salt : Bytes32

structure LaunchPayment where
  sponsorMode : Bool
  sponsor : Address

/-! ### Profiles -/

structure AgentProfile where
  agentId : Bytes32
  owner : Address
  (profileDigest publicMetadataRoot discoveryTagsRoot avatarDigest handleHash : Bytes32)
  discoverable : Bool
  (version updatedAt : ℕ)

def AgentProfile.empty : AgentProfile := ⟨0, 0, 0, 0, 0, 0, 0, false, 0, 0⟩

structure AgentProfileRegistry where
  ownable : TwoStepOwnable
  profiles : Bytes32 → AgentProfile
  handleToAgentId : Bytes32 → Bytes32
  isAuthorizedRegistrar : Address → Bool

inductive ProfileError where
  | ownable (e : OwnableError)
  | zeroAgentId
  | zeroOwnerAddress
  | zeroProfileDigest
  | handleAlreadyClaimed (handleHash existingAgentId : Bytes32)
  | profileNotFound (agentId : Bytes32)
  | unauthorizedProfileWriter (agentId : Bytes32) (caller : Address)
  | zeroRegistrar
  | panic

namespace AgentProfileRegistry

abbrev ProfileAction : Type → Type := Call AgentProfileRegistry ProfileError

def deployed (initialOwner : Address) : AgentProfileRegistry :=
  ⟨⟨initialOwner, 0⟩, fun _ => .empty, fun _ => 0, fun _ => false⟩

variable (env : Env)

def inOwnable (m : Call TwoStepOwnable OwnableError Unit) : ProfileAction Unit :=
  within AgentProfileRegistry.ownable (fun r o => { r with ownable := o }) .ownable m

def setAuthorizedRegistrar (registrar : Address) (authorized : Bool) : ProfileAction Unit := do
  inOwnable (TwoStepOwnable.onlyOwner env)
  revertIf (registrar = 0) .zeroRegistrar
  modify fun r => { r with
    isAuthorizedRegistrar := update r.isAuthorizedRegistrar registrar authorized }

/-- Give up the previous handle of an agent and claim the new one. -/
def claimHandle (r : AgentProfileRegistry) (agentId previousHandle handleHash : Bytes32) :
    Bytes32 → Bytes32 :=
  let given := if previousHandle ≠ 0 ∧ previousHandle ≠ handleHash then
    update r.handleToAgentId previousHandle 0 else r.handleToAgentId
  if handleHash ≠ 0 then update given handleHash agentId else given

def setProfile (agentId : Bytes32) (owner : Address) (profileDigest publicMetadataRoot : Bytes32)
    (discoveryTagsRoot avatarDigest handleHash : Bytes32) (discoverable : Bool) :
    ProfileAction Unit := do
  revertIf (agentId = 0) .zeroAgentId
  revertIf (owner = 0) .zeroOwnerAddress
  revertIf (profileDigest = 0) .zeroProfileDigest
  let r ← get
  let existing := r.profiles agentId
  let writer := if existing.agentId = 0 then owner else existing.owner
  revertIf (env.sender ≠ writer ∧ r.isAuthorizedRegistrar env.sender = false)
    (.unauthorizedProfileWriter agentId env.sender)
  let currentAgent := r.handleToAgentId handleHash
  revertIf (handleHash ≠ 0 ∧ currentAgent ≠ 0 ∧ currentAgent ≠ agentId)
    (.handleAlreadyClaimed handleHash currentAgent)
  let nextVersion ← okOr (if existing.agentId = 0 then some 1
    else addChecked 64 existing.version 1) .panic
  modify fun r => { r with
    handleToAgentId := claimHandle r agentId existing.handleHash handleHash
    profiles := update r.profiles agentId
      ⟨agentId, owner, profileDigest, publicMetadataRoot, discoveryTagsRoot, avatarDigest,
        handleHash, discoverable, nextVersion, uint64 env.timestamp⟩ }

def setDiscoverable (agentId : Bytes32) (discoverable : Bool) : ProfileAction Unit := do
  let r ← get
  let profile := r.profiles agentId
  revertIf (profile.agentId = 0) (.profileNotFound agentId)
  revertIf (env.sender ≠ profile.owner ∧ r.isAuthorizedRegistrar env.sender = false)
    (.unauthorizedProfileWriter agentId env.sender)
  let version ← okOr (addChecked 64 profile.version 1) .panic
  modify fun r => { r with
    profiles := update r.profiles agentId
      { profile with
        discoverable
        updatedAt := uint64 env.timestamp
        version } }

inductive Msg where
  | ownable (c : OwnableCall)
  | setAuthorizedRegistrar (registrar : Address) (authorized : Bool)
  | setProfile (agentId : Bytes32) (owner : Address) (profileDigest publicMetadataRoot : Bytes32)
      (discoveryTagsRoot avatarDigest handleHash : Bytes32) (discoverable : Bool)
  | setDiscoverable (agentId : Bytes32) (discoverable : Bool)

def call : Msg → ProfileAction Unit
  | .ownable c => inOwnable (TwoStepOwnable.call env c)
  | .setAuthorizedRegistrar registrar authorized => setAuthorizedRegistrar env registrar authorized
  | .setProfile agentId owner digest metadata tags avatar handle discoverable =>
    setProfile env agentId owner digest metadata tags avatar handle discoverable
  | .setDiscoverable agentId discoverable => setDiscoverable env agentId discoverable

end AgentProfileRegistry

/-! ### Lineage -/

structure Lineage where
  agentId : Bytes32
  parentType : ParentType
  (parentAgentId parentSwarmId : Bytes32)
  parentShell : Address
  lineageRoot : Bytes32
  (generation createdAt : ℕ)

def Lineage.empty : Lineage := ⟨0, .none, 0, 0, 0, 0, 0, 0⟩

structure AgentLineageRegistry where
  ownable : TwoStepOwnable
  lineageOf : Bytes32 → Lineage
  agentChildren : Bytes32 → List Bytes32
  swarmChildren : Bytes32 → List Bytes32
  isAuthorizedRegistrar : Address → Bool

inductive LineageError where
  | ownable (e : OwnableError)
  | zeroAgentId
  | zeroRegistrar
  | unauthorizedRegistrar (caller : Address)
  | lineageAlreadyExists (agentId : Bytes32)
  | invalidParentType
  | missingParentAgent
  | missingParentSwarm
  | missingLineageRoot

namespace AgentLineageRegistry

abbrev LineageAction : Type → Type := Call AgentLineageRegistry LineageError

def deployed (initialOwner : Address) : AgentLineageRegistry :=
  ⟨⟨initialOwner, 0⟩, fun _ => .empty, fun _ => [], fun _ => [], fun _ => false⟩

variable (env : Env)

def inOwnable (m : Call TwoStepOwnable OwnableError Unit) : LineageAction Unit :=
  within AgentLineageRegistry.ownable (fun r o => { r with ownable := o }) .ownable m

def setAuthorizedRegistrar (registrar : Address) (authorized : Bool) : LineageAction Unit := do
  inOwnable (TwoStepOwnable.onlyOwner env)
  revertIf (registrar = 0) .zeroRegistrar
  modify fun r => { r with
    isAuthorizedRegistrar := update r.isAuthorizedRegistrar registrar authorized }

/-- Add a child to the children of a parent that is not zero. -/
def addChild (children : Bytes32 → List Bytes32) (parent child : Bytes32) : Bytes32 → List Bytes32 :=
  if parent ≠ 0 then update children parent (children parent ++ [child]) else children

def attachLineage (agentId : Bytes32) (parentType : ParentType)
    (parentAgentId parentSwarmId : Bytes32) (parentShell : Address) (lineageRoot : Bytes32)
    (generation : ℕ) : LineageAction Unit := do
  let r ← get
  revertIf (r.isAuthorizedRegistrar env.sender = false) (.unauthorizedRegistrar env.sender)
  revertIf (agentId = 0) .zeroAgentId
  revertIf (lineageRoot = 0) .missingLineageRoot
  revertIf ((r.lineageOf agentId).agentId ≠ 0) (.lineageAlreadyExists agentId)
  revertIf (parentType = .agent ∧ parentAgentId = 0) .missingParentAgent
  revertIf (parentType = .swarm ∧ parentSwarmId = 0) .missingParentSwarm
  revertIf (parentType = .none ∧ (parentAgentId ≠ 0 ∨ parentSwarmId ≠ 0 ∨ parentShell ≠ 0))
    .invalidParentType
  modify fun r => { r with
    lineageOf := update r.lineageOf agentId
      ⟨agentId, parentType, parentAgentId, parentSwarmId, parentShell, lineageRoot, generation,
        uint64 env.timestamp⟩
    agentChildren := addChild r.agentChildren parentAgentId agentId
    swarmChildren := addChild r.swarmChildren parentSwarmId agentId }

/-- The calls by which the owner administers the registry. -/
inductive Msg where
  | ownable (c : OwnableCall)
  | setAuthorizedRegistrar (registrar : Address) (authorized : Bool)

def call : Msg → LineageAction Unit
  | .ownable c => inOwnable (TwoStepOwnable.call env c)
  | .setAuthorizedRegistrar registrar authorized => setAuthorizedRegistrar env registrar authorized

end AgentLineageRegistry

/-! ### The factory -/

structure AgentFactory where
  ownable : TwoStepOwnable
  nonces : Address → ℕ
  consumedLaunchIntent : Bytes32 → Bool
  launchIdToAgentId : Bytes32 → Bytes32
  launchGuardian : Address
  paused : Bool
  (minIntentValidity maxIntentValidity : UInt64)

/-- What the factory reads from the registries of classes and of tool sets. -/
structure LaunchRegistries where
  getClass : Bytes32 → Option AgentClass
  validateToolSetForClass : (classId toolSetRoot : Bytes32) → (autonomyLevel : UInt8) → Bool

structure LaunchContracts where
  factory : AgentFactory
  registries : LaunchRegistries
  runtime : BaseOnchainAgentMemory
  profileRegistry : AgentProfileRegistry
  bondEscrow : AgentLaunchBondEscrow
  fuelVault : AgentMemoryFuelVault
  lineageRegistry : AgentLineageRegistry

inductive LaunchError where
  | ownable (e : OwnableError)
  | zeroAddress
  | factoryPaused
  | notLaunchGuardian (caller : Address)
  | invalidNonce (owner : Address) (expected provided : ℕ)
  | invalidValidityWindow (validAfter validUntil : UInt64)
  | intentNotActive (validAfter validUntil : UInt64) (nowTime : ℕ)
  | launchIntentAlreadyConsumed (launchIntentHash : Bytes32)
  | invalidSigner (recovered expectedOwner : Address)
  | classNotRegistered (classId : Bytes32)
  | classNotLaunchable (classId : Bytes32)
  | kernelClassMismatch (classId expectedKernelClass providedKernelClass : Bytes32)
  | autonomyOutOfRange (classId : Bytes32) (minimum maximum provided : UInt8)
  | toolSetNotAllowed (classId toolSetRoot : Bytes32) (autonomyLevel : UInt8)
  | bondBelowMinimum (provided minimum : Uint256)
  | fuelBelowMinimum (provided minimum : Uint256)
  | missingBondToken
  | missingFuelToken
  | invalidSignatureLength (length : ℕ)
  | signatureRecoveryFailed
  | runtime (e : MemoryError)
  | profileRegistry (e : ProfileError)
  | bondEscrow (e : BondEscrowError)
  | fuelVault (e : FuelVaultError)
  | lineageRegistry (e : LineageError)
  | panic

/-- The addresses of the contracts, the hashes, and the recovery of a signer. -/
structure LaunchDeployment where
  (factory bondEscrow fuelVault : Address)
  memory : MemoryDeployment
  launchIntentStructHash : LaunchIntent → Bytes32
  launchIntentDigest : LaunchIntent → Bytes32
  launchId : LaunchIntent → Bytes32
  lineageRoot : (parentAgentId parentSwarmId launchSpecRoot : Bytes32) → Bytes32
  ecrecover : (digest : Bytes32) → (v : ℕ) → (r s : Bytes32) → Address

namespace AgentFactory

abbrev LaunchAction : Type → Type := Call LaunchContracts LaunchError

abbrev LaunchTokenAction (τ : Type) : Type → Type := Call (WithTokens LaunchContracts τ) LaunchError

/-- The factory after its constructor, for addresses that are not zero. -/
def deployed (initialOwner launchGuardian : Address)
    (minIntentValidity maxIntentValidity : UInt64) : AgentFactory where
  ownable := ⟨initialOwner, 0⟩
  nonces _ := 0
  consumedLaunchIntent _ := false
  launchIdToAgentId _ := 0
  launchGuardian
  paused := false
  minIntentValidity
  maxIntentValidity

variable {τ : Type} [ERC20SettlementToken τ] (D : LaunchDeployment) (env : Env)

/-! Calls of the other contracts. -/

def inFactory {α : Type} (m : Call AgentFactory LaunchError α) : LaunchAction α :=
  within LaunchContracts.factory (fun c f => { c with factory := f }) (fun e => e) m

def inRuntime {α : Type} (m : Call BaseOnchainAgentMemory MemoryError α) : LaunchAction α :=
  within LaunchContracts.runtime (fun c r => { c with runtime := r }) .runtime m

def inProfileRegistry {α : Type} (m : Call AgentProfileRegistry ProfileError α) : LaunchAction α :=
  within LaunchContracts.profileRegistry (fun c r => { c with profileRegistry := r })
    .profileRegistry m

def inLineageRegistry {α : Type} (m : Call AgentLineageRegistry LineageError α) : LaunchAction α :=
  within LaunchContracts.lineageRegistry (fun c r => { c with lineageRegistry := r })
    .lineageRegistry m

def inBondEscrow (m : Call (WithTokens AgentLaunchBondEscrow τ) BondEscrowError Unit) :
    LaunchTokenAction τ Unit :=
  within (fun w => ⟨w.contract.bondEscrow, w.tokens⟩)
    (fun w e => ⟨{ w.contract with bondEscrow := e.contract }, e.tokens⟩) .bondEscrow m

def inFuelVault (m : Call (WithTokens AgentMemoryFuelVault τ) FuelVaultError Unit) :
    LaunchTokenAction τ Unit :=
  within (fun w => ⟨w.contract.fuelVault, w.tokens⟩)
    (fun w v => ⟨{ w.contract with fuelVault := v.contract }, v.tokens⟩) .fuelVault m

/-! Administration. -/

def onlyOwner : Call AgentFactory LaunchError Unit :=
  within AgentFactory.ownable (fun f o => { f with ownable := o }) .ownable
    (TwoStepOwnable.onlyOwner env)

def setLaunchGuardian (nextGuardian : Address) : Call AgentFactory LaunchError Unit := do
  onlyOwner env
  revertIf (nextGuardian = 0) .zeroAddress
  modify fun f => { f with launchGuardian := nextGuardian }

def setPaused (value : Bool) : Call AgentFactory LaunchError Unit := do
  let f ← get
  revertIf (env.sender ≠ f.launchGuardian ∧ env.sender ≠ f.ownable.owner)
    (.notLaunchGuardian env.sender)
  modify fun f => { f with paused := value }

def setIntentWindows (minValidity maxValidity : UInt64) : Call AgentFactory LaunchError Unit := do
  onlyOwner env
  modify fun f => { f with minIntentValidity := minValidity, maxIntentValidity := maxValidity }

def cancelLaunchIntent (nonce : UInt64) : Call AgentFactory LaunchError Unit := do
  let f ← get
  let currentNonce := f.nonces env.sender
  revertIf (nonce.toNat ≠ currentNonce) (.invalidNonce env.sender currentNonce nonce.toNat)
  let next ← okOr (addChecked 64 nonce.toNat 1) .panic
  modify fun f => { f with nonces := update f.nonces env.sender next }

/-! Signatures. -/

/-- Bytes, the first the most significant, as a word. -/
def toWord (bytes : List UInt8) : Bytes32 :=
  Fin.ofNat (2 ^ 256) (bytes.foldl (fun n b => n * 256 + b.toNat) 0)

def splitSignature (signature : List UInt8) : Bytes32 × Bytes32 × ℕ :=
  let v := (signature.getD 64 0).toNat
  (toWord (signature.take 32), toWord ((signature.drop 32).take 32), if v < 27 then v + 27 else v)

/-- The account that signed an intent. -/
def recoveredSigner (intent : LaunchIntent) (signature : List UInt8) : Address :=
  let (r, s, v) := splitSignature signature
  D.ecrecover (D.launchIntentDigest intent) v r s

def verifySigner (intent : LaunchIntent) (signature : List UInt8) : LaunchAction Unit := do
  revertIf (signature.length ≠ 65) (.invalidSignatureLength signature.length)
  let recovered := recoveredSigner D intent signature
  revertIf (recovered = 0) .signatureRecoveryFailed
  revertIf (recovered ≠ intent.owner) (.invalidSigner recovered intent.owner)

/-! Launches. -/

def validateIntentWindow (intent : LaunchIntent) : LaunchAction Unit := do
  let f ← inFactory get
  revertIf (intent.validUntil ≤ intent.validAfter)
    (.invalidValidityWindow intent.validAfter intent.validUntil)
  let width := intent.validUntil - intent.validAfter
  revertIf ((f.minIntentValidity ≠ 0 ∧ width < f.minIntentValidity) ∨
      (f.maxIntentValidity ≠ 0 ∧ width > f.maxIntentValidity))
    (.invalidValidityWindow intent.validAfter intent.validUntil)
  revertIf (uint64 env.timestamp < intent.validAfter.toNat ∨
      uint64 env.timestamp > intent.validUntil.toNat)
    (.intentNotActive intent.validAfter intent.validUntil (uint64 env.timestamp))

/-- The checks of an intent against its class.  The result is the class. -/
def validateClass (intent : LaunchIntent) : LaunchAction AgentClass := do
  let c ← get
  let classConfig ← okOr (c.registries.getClass intent.classId) (.classNotRegistered intent.classId)
  revertIf (¬ (classConfig.active = true ∧ classConfig.deprecated = false ∧
    classConfig.allowPublicLaunch = true)) (.classNotLaunchable intent.classId)
  revertIf (intent.kernelClass ≠ classConfig.kernelClass)
    (.kernelClassMismatch intent.classId classConfig.kernelClass intent.kernelClass)
  revertIf (intent.autonomyLevel < classConfig.minAutonomyLevel ∨
      intent.autonomyLevel > classConfig.maxAutonomyLevel)
    (.autonomyOutOfRange intent.classId classConfig.minAutonomyLevel classConfig.maxAutonomyLevel
      intent.autonomyLevel)
  revertIf (c.registries.validateToolSetForClass intent.classId intent.toolAllowlistRoot
      intent.autonomyLevel = false)
    (.toolSetNotAllowed intent.classId intent.toolAllowlistRoot intent.autonomyLevel)
  revertIf (intent.profileDigest = 0 ∨ intent.launchSpecRoot = 0 ∨ intent.activeGoalRoot = 0)
    .zeroAddress
  revertIf (intent.bondAmount < classConfig.minLaunchBond)
    (.bondBelowMinimum intent.bondAmount classConfig.minLaunchBond)
  revertIf (intent.initialFuelAmount < classConfig.minMemoryFuel)
    (.fuelBelowMinimum intent.initialFuelAmount classConfig.minMemoryFuel)
  revertIf (classConfig.minLaunchBond ≠ 0 ∧ intent.bondToken = 0) .missingBondToken
  revertIf (classConfig.minMemoryFuel ≠ 0 ∧ intent.fuelToken = 0) .missingFuelToken
  pure classConfig

/-- The checks of an intent, after which its nonce is counted.  The result is its class. -/
def consumeIntent (intent : LaunchIntent) (ownerSig : List UInt8) : LaunchAction AgentClass := do
  let f ← inFactory get
  revertIf (f.paused = true) .factoryPaused
  validateIntentWindow env intent
  let currentNonce := f.nonces intent.owner
  revertIf (intent.nonce.toNat ≠ currentNonce)
    (.invalidNonce intent.owner currentNonce intent.nonce.toNat)
  let launchIntentHash := D.launchIntentStructHash intent
  revertIf (f.consumedLaunchIntent launchIntentHash = true)
    (.launchIntentAlreadyConsumed launchIntentHash)
  verifySigner D intent ownerSig
  let classConfig ← validateClass intent
  let next ← okOr (addChecked 64 currentNonce 1) .panic
  inFactory (modify fun f => { f with
    consumedLaunchIntent := update f.consumedLaunchIntent launchIntentHash true
    nonces := update f.nonces intent.owner next })
  pure classConfig

/-- The registration of the agent of an intent. -/
def registrationOf (intent : LaunchIntent) : BaseOnchainAgentMemory.Registration where
  owner := intent.owner
  rootfieldId := intent.rootfieldId
  policyRoot := intent.policyRoot
  toolAllowlistRoot := intent.toolAllowlistRoot
  initialMemoryRoot := intent.initialMemoryRoot
  activeGoal := intent.activeGoalRoot
  autonomyLevel := intent.autonomyLevel.toUInt64
  kernelClass := intent.kernelClass
  salt := intent.salt
  uri := "flowmemory://public-launch/register"

/-- The identifier of the agent of an intent. -/
def agentIdOf (intent : LaunchIntent) : Bytes32 :=
  (registrationOf intent).agentId D.memory

/-- Who pays for a launch. -/
def payerOf (intent : LaunchIntent) (payment : LaunchPayment) : Address :=
  if payment.sponsorMode = true then payment.sponsor else intent.owner

/-- The environment of the calls that the factory makes. -/
def fromFactory : Env := ⟨D.factory, env.timestamp⟩

def registerLaunch (intent : LaunchIntent) : LaunchAction Unit := do
  let agentId ← inRuntime
    (BaseOnchainAgentMemory.registerAgent D.memory (fromFactory D env) (registrationOf intent))
  inFactory (modify fun f => { f with
    launchIdToAgentId := update f.launchIdToAgentId (D.launchId intent) agentId })

def payBond (intent : LaunchIntent) (classConfig : AgentClass) (payer : Address) :
    LaunchTokenAction τ Unit :=
  if classConfig.minLaunchBond ≠ 0 then
    inBondEscrow (AgentLaunchBondEscrow.lockLaunchBond D.bondEscrow (fromFactory D env)
      (agentIdOf D intent) payer intent.owner intent.classId intent.bondToken intent.bondAmount
      intent.policyRoot)
  else pure ()

def payFuel (intent : LaunchIntent) (payer : Address) : LaunchTokenAction τ Unit :=
  if intent.fuelToken ≠ 0 then do
    inFuelVault (onContract (AgentMemoryFuelVault.registerFuelAccount (fromFactory D env)
      (agentIdOf D intent) intent.owner intent.classId intent.fuelToken))
    if intent.initialFuelAmount ≠ 0 then
      inFuelVault (AgentMemoryFuelVault.depositFuel D.fuelVault (fromFactory D env)
        (agentIdOf D intent) payer intent.fuelToken intent.initialFuelAmount)
    else pure ()
  else pure ()

def publishProfile (intent : LaunchIntent) : LaunchAction Unit :=
  inProfileRegistry (AgentProfileRegistry.setProfile (fromFactory D env) (agentIdOf D intent)
    intent.owner intent.profileDigest intent.profileDigest intent.launchSpecRoot 0 0
    intent.discoverable)

def linkLineage (intent : LaunchIntent) : LaunchAction Unit :=
  if intent.parentAgentId ≠ 0 ∨ intent.parentSwarmId ≠ 0 then
    let parentType := if intent.parentAgentId ≠ 0 then ParentType.agent else ParentType.swarm
    inLineageRegistry (AgentLineageRegistry.attachLineage (fromFactory D env) (agentIdOf D intent)
      parentType intent.parentAgentId intent.parentSwarmId 0
      (D.lineageRoot intent.parentAgentId intent.parentSwarmId intent.launchSpecRoot)
      (if parentType = .none then 0 else 1))
  else pure ()

def launchAgent (intent : LaunchIntent) (ownerSig : List UInt8) (payment : LaunchPayment) :
    LaunchTokenAction τ Unit := do
  let classConfig ← onContract (consumeIntent D env intent ownerSig)
  onContract (registerLaunch D env intent)
  payBond D env intent classConfig (payerOf intent payment)
  payFuel D env intent (payerOf intent payment)
  onContract (publishProfile D env intent)
  onContract (linkLineage D env intent)

/-! ### The contracts -/

/-- The calls of the contracts, as messages. -/
inductive Msg where
  | ownable (c : OwnableCall)
  | setLaunchGuardian (nextGuardian : Address)
  | setPaused (value : Bool)
  | setIntentWindows (minValidity maxValidity : UInt64)
  | launchAgent (intent : LaunchIntent) (ownerSig : List UInt8) (payment : LaunchPayment)
  | cancelLaunchIntent (nonce : UInt64) (salt : Bytes32)
  | profileRegistry (msg : AgentProfileRegistry.Msg)
  | lineageRegistry (msg : AgentLineageRegistry.Msg)
  | bondEscrow (msg : AgentLaunchBondEscrow.Msg)
  | fuelVault (msg : AgentMemoryFuelVault.Msg)

def call : Msg → LaunchTokenAction τ Unit
  | .ownable c => onContract (inFactory (within AgentFactory.ownable
      (fun f o => { f with ownable := o }) .ownable (TwoStepOwnable.call env c)))
  | .setLaunchGuardian nextGuardian => onContract (inFactory (setLaunchGuardian env nextGuardian))
  | .setPaused value => onContract (inFactory (setPaused env value))
  | .setIntentWindows minValidity maxValidity =>
    onContract (inFactory (setIntentWindows env minValidity maxValidity))
  | .launchAgent intent ownerSig payment => launchAgent D env intent ownerSig payment
  | .cancelLaunchIntent nonce _ => onContract (inFactory (cancelLaunchIntent env nonce))
  | .profileRegistry msg => onContract (inProfileRegistry (AgentProfileRegistry.call env msg))
  | .lineageRegistry msg => onContract (inLineageRegistry (AgentLineageRegistry.call env msg))
  | .bondEscrow msg => inBondEscrow (AgentLaunchBondEscrow.call D.bondEscrow env msg)
  | .fuelVault msg => inFuelVault (AgentMemoryFuelVault.call D.fuelVault env msg)

/-! ### Tokens pulled from payers -/

/-- Tokens that the contract at the address `into` takes from a payer by `transferFrom`. -/
structure Pull where
  (into payer token : Address)
  amount : Uint256

/-- Pull tokens. -/
def pull (p : Pull) (tokens : Address → τ) : Option (Address → τ) :=
  (transferFrom p.into p.payer p.into p.amount (tokens p.token)).map
    (update tokens p.token)

def pullAll : List Pull → (Address → τ) → Option (Address → τ)
  | [], tokens => some tokens
  | p :: ps, tokens => (pull p tokens).bind (pullAll ps)

def bondPulls (intent : LaunchIntent) (classConfig : AgentClass) (payer : Address) : List Pull :=
  if classConfig.minLaunchBond ≠ 0 then
    [⟨D.bondEscrow, payer, intent.bondToken, intent.bondAmount⟩]
  else []

def fuelPulls (intent : LaunchIntent) (payer : Address) : List Pull :=
  if intent.fuelToken ≠ 0 ∧ intent.initialFuelAmount ≠ 0 then
    [⟨D.fuelVault, payer, intent.fuelToken, intent.initialFuelAmount⟩]
  else []

/-! ### What the factory checks -/

section ready

variable (D : LaunchDeployment) (env : Env) (intent : LaunchIntent)

/-- The window of the intent is one that the factory allows, and open. -/
@[mk_iff] structure WindowReady (f : AgentFactory) : Prop where
  ordered : ¬ intent.validUntil ≤ intent.validAfter
  width : ¬ ((f.minIntentValidity ≠ 0 ∧
      intent.validUntil - intent.validAfter < f.minIntentValidity) ∨
    (f.maxIntentValidity ≠ 0 ∧ intent.validUntil - intent.validAfter > f.maxIntentValidity))
  opened : ¬ (uint64 env.timestamp < intent.validAfter.toNat ∨
    uint64 env.timestamp > intent.validUntil.toNat)

/-- The factory accepts the intent. -/
@[mk_iff] structure FactoryReady (f : AgentFactory) : Prop where
  unpaused : f.paused = false
  window : WindowReady env intent f
  nonce : intent.nonce.toNat = f.nonces intent.owner
  counted : f.nonces intent.owner + 1 < 2 ^ 64
  fresh : f.consumedLaunchIntent (D.launchIntentStructHash intent) = false

/-- The owner of the intent signed it. -/
@[mk_iff] structure SignatureReady (ownerSig : List UInt8) : Prop where
  length : ownerSig.length = 65
  owner : intent.owner ≠ 0
  signed : recoveredSigner D intent ownerSig = intent.owner

/-- The intent meets the conditions of its class. -/
@[mk_iff] structure ClassReady (registries : LaunchRegistries) (classConfig : AgentClass) : Prop where
  registered : registries.getClass intent.classId = some classConfig
  launchable : classConfig.active = true ∧ classConfig.deprecated = false ∧
    classConfig.allowPublicLaunch = true
  kernelClass : intent.kernelClass = classConfig.kernelClass
  autonomy : ¬ (intent.autonomyLevel < classConfig.minAutonomyLevel ∨
    intent.autonomyLevel > classConfig.maxAutonomyLevel)
  toolSet : registries.validateToolSetForClass intent.classId intent.toolAllowlistRoot
    intent.autonomyLevel = true
  roots : ¬ (intent.profileDigest = 0 ∨ intent.launchSpecRoot = 0 ∨ intent.activeGoalRoot = 0)
  bond : classConfig.minLaunchBond ≤ intent.bondAmount
  fuel : classConfig.minMemoryFuel ≤ intent.initialFuelAmount
  bondToken : ¬ (classConfig.minLaunchBond ≠ 0 ∧ intent.bondToken = 0)
  fuelToken : ¬ (classConfig.minMemoryFuel ≠ 0 ∧ intent.fuelToken = 0)

end ready

/-! ### The accepted launches -/

section accepted

variable {D : LaunchDeployment} {env : Env} {intent : LaunchIntent} {ownerSig : List UInt8}
  {c c' : LaunchContracts} {u : Unit} {classConfig : AgentClass} {tokens : Address → τ}
  {token : Address} {amount : Uint256} {agentId : Bytes32}

attribute [simp] inFactory

theorem validateIntentWindow_iff :
    validateIntentWindow env intent c = .ok (u, c') ↔ WindowReady env intent c.factory ∧ c' = c := by
  simp [validateIntentWindow, windowReady_iff, and_assoc]

theorem verifySigner_iff :
    verifySigner D intent ownerSig c = .ok (u, c') ↔ SignatureReady D intent ownerSig ∧ c' = c := by
  simp [verifySigner, signatureReady_iff, and_assoc]
  grind

theorem validateClass_iff :
    validateClass intent c = .ok (classConfig, c') ↔
      ClassReady intent c.registries classConfig ∧ c' = c := by
  simp [validateClass, classReady_iff, and_assoc]

/-- The contracts after the intent is consumed. -/
def consumedBy (D : LaunchDeployment) (intent : LaunchIntent) (c : LaunchContracts) :
    LaunchContracts :=
  { c with factory := { c.factory with
    consumedLaunchIntent := update c.factory.consumedLaunchIntent
      (D.launchIntentStructHash intent) true
    nonces := update c.factory.nonces intent.owner (c.factory.nonces intent.owner + 1) } }

theorem consumeIntent_iff :
    consumeIntent D env intent ownerSig c = .ok (classConfig, c') ↔
      FactoryReady D env intent c.factory ∧ SignatureReady D intent ownerSig ∧
      ClassReady intent c.registries classConfig ∧
      c' = consumedBy D intent c := by
  simp [consumeIntent, validateIntentWindow_iff, verifySigner_iff, validateClass_iff,
    factoryReady_iff, consumedBy, and_assoc]
  tauto

/-- What a launch writes to the factory and to the runtime. -/
theorem registerLaunch_ok (h : registerLaunch D env intent c = .ok (u, c')) :
    ∃ ids runtime, c' = { c with
      factory := { c.factory with launchIdToAgentId := ids }
      runtime := runtime } := by
  simp only [registerLaunch, inRuntime, bind_ok, within_ok, inFactory, modify_ok] at h
  obtain ⟨_, _, ⟨runtime, -, rfl⟩, _, rfl, rfl⟩ := h
  exact ⟨_, _, rfl⟩

theorem publishProfile_ok (h : publishProfile D env intent c = .ok (u, c')) :
    ∃ r, c' = { c with profileRegistry := r } := by
  simp only [publishProfile, inProfileRegistry, within_ok] at h
  obtain ⟨r, -, rfl⟩ := h
  exact ⟨r, rfl⟩

variable {w w' : WithTokens LaunchContracts τ} {payer : Address}

theorem pullAll_append {ps qs : List Pull} {tokens₁ : Address → τ}
    (h : pullAll ps tokens = some tokens₁) : pullAll (ps ++ qs) tokens = pullAll qs tokens₁ := by
  induction ps generalizing tokens with
  | nil =>
    cases h
    rfl
  | cons p ps ih =>
    obtain ⟨moved, hmoved, hrest⟩ := Option.bind_eq_some_iff.mp h
    simp only [List.cons_append, pullAll, hmoved, Option.bind_some]
    exact ih hrest

theorem pullAll_singleton {into : Address}
    {moved : τ} (h : transferFrom into payer into amount (tokens token) = some moved) :
    pullAll [⟨into, payer, token, amount⟩] tokens =
      some (update tokens token moved) := by
  simp [pullAll, pull, h]

theorem lockLaunchBond_pulls {classId policyRoot : Bytes32} {beneficiary : Address}
    (h : inBondEscrow (AgentLaunchBondEscrow.lockLaunchBond D.bondEscrow env agentId payer
      beneficiary classId token amount policyRoot) w = .ok (u, w')) :
    pullAll [⟨D.bondEscrow, payer, token, amount⟩] w.tokens = some w'.tokens ∧
      ∃ e, w'.contract = { w.contract with bondEscrow := e } ∧
        AgentLaunchBondEscrow.recordBond env agentId payer beneficiary classId token amount
          policyRoot w.contract.bondEscrow = .ok ((), e) := by
  simp only [inBondEscrow, AgentLaunchBondEscrow.lockLaunchBond, within_ok, bind_ok, onContract_ok,
    callToken_ok] at h
  obtain ⟨_, ⟨_, _, ⟨e, hrecord, rfl⟩, moved, hmoved, rfl⟩, rfl⟩ := h
  exact ⟨pullAll_singleton hmoved, e, rfl, hrecord⟩

theorem depositFuel_pulls
    (h : inFuelVault (AgentMemoryFuelVault.depositFuel D.fuelVault env agentId payer token amount) w
      = .ok (u, w')) :
    amount ≠ 0 ∧ pullAll [⟨D.fuelVault, payer, token, amount⟩] w.tokens = some w'.tokens ∧
      ∃ v, w'.contract = { w.contract with fuelVault := v } ∧
        AgentMemoryFuelVault.credit env agentId token amount w.contract.fuelVault = .ok ((), v) := by
  simp only [inFuelVault, AgentMemoryFuelVault.depositFuel, within_ok, bind_ok, onContract_ok,
    callToken_ok] at h
  obtain ⟨_, ⟨_, _, ⟨v, hcredit, rfl⟩, moved, hmoved, rfl⟩, rfl⟩ := h
  have hamount := (AgentMemoryFuelVault.credit_ok.mp hcredit).1
  exact ⟨fun hzero => hamount (congrArg Fin.val hzero), pullAll_singleton hmoved, v, rfl, hcredit⟩

/-- The escrow has locked the bond of an intent. -/
structure BondLocked (D : LaunchDeployment) (intent : LaunchIntent) (e : AgentLaunchBondEscrow) :
    Prop where
  amount : (e.bonds (agentIdOf D intent)).amount = intent.bondAmount.val
  status : (e.bonds (agentIdOf D intent)).status = .locked
  token : (e.bonds (agentIdOf D intent)).token = intent.bondToken

/-- The vault has the fuel account of an intent, with the first fuel. -/
structure FuelOpened (D : LaunchDeployment) (intent : LaunchIntent) (v : AgentMemoryFuelVault) :
    Prop where
  balance : (v.fuelAccounts (agentIdOf D intent)).balance = intent.initialFuelAmount.val
  agentId : (v.fuelAccounts (agentIdOf D intent)).agentId = agentIdOf D intent
  token : (v.fuelAccounts (agentIdOf D intent)).token = intent.fuelToken

theorem payBond_ok (h : payBond D env intent classConfig payer w = .ok (u, w')) :
    pullAll (bondPulls D intent classConfig payer) w.tokens = some w'.tokens ∧
      ∃ e, w'.contract = { w.contract with bondEscrow := e } ∧
        if classConfig.minLaunchBond ≠ 0 then BondLocked D intent e
        else e = w.contract.bondEscrow := by
  unfold payBond at h
  unfold bondPulls
  split at h
  case isTrue hbond =>
    obtain ⟨hpulls, e, hw', hrecord⟩ := lockLaunchBond_pulls h
    obtain ⟨-, -, -, -, -, -, -, -, -, -, -, rfl⟩ := AgentLaunchBondEscrow.recordBond_ok.mp hrecord
    rw [if_pos hbond]
    refine ⟨hpulls, _, hw', ?_⟩
    rw [if_pos hbond]
    constructor <;> simp
  case isFalse hbond =>
    obtain ⟨-, rfl⟩ := pure_ok.mp h
    rw [if_neg hbond]
    exact ⟨rfl, _, rfl, by rw [if_neg hbond]⟩

theorem payFuel_ok (h : payFuel D env intent payer w = .ok (u, w')) :
    pullAll (fuelPulls D intent payer) w.tokens = some w'.tokens ∧
      ∃ v, w'.contract = { w.contract with fuelVault := v } ∧
        if intent.fuelToken ≠ 0 then FuelOpened D intent v else v = w.contract.fuelVault := by
  unfold payFuel at h
  unfold fuelPulls
  split at h
  case isFalse htoken =>
    obtain ⟨-, rfl⟩ := pure_ok.mp h
    rw [if_neg fun hboth => htoken hboth.1]
    exact ⟨rfl, _, rfl, by rw [if_neg htoken]⟩
  case isTrue htoken =>
    obtain ⟨⟨⟩, w₁, hregister, hdeposit⟩ := bind_ok.mp h
    simp only [inFuelVault, within_ok, onContract_ok] at hregister
    obtain ⟨_, ⟨v, hregister, rfl⟩, rfl⟩ := hregister
    obtain ⟨-, -, -, -, -, -, -, -, -, rfl⟩ := AgentMemoryFuelVault.registerFuelAccount_ok.mp hregister
    split at hdeposit
    case isFalse hamount =>
      obtain ⟨-, rfl⟩ := pure_ok.mp hdeposit
      rw [if_neg fun hboth => hamount hboth.2]
      refine ⟨rfl, _, rfl, ?_⟩
      rw [if_pos htoken]
      constructor <;> simp [AgentMemoryFuelVault.setAccount, not_not.mp hamount]
    case isTrue hamount =>
      obtain ⟨-, hpulls, v', hv', hcredit⟩ := depositFuel_pulls hdeposit
      obtain ⟨-, -, -, -, -, rfl⟩ := AgentMemoryFuelVault.credit_ok.mp hcredit
      rw [if_pos ⟨htoken, hamount⟩]
      refine ⟨hpulls, _, hv', ?_⟩
      rw [if_pos htoken]
      constructor <;> simp [AgentMemoryFuelVault.setAccount]

/-- The record of a launched agent that has a parent. -/
def lineageOfLaunch (D : LaunchDeployment) (env : Env) (intent : LaunchIntent) : Lineage :=
  ⟨agentIdOf D intent, if intent.parentAgentId ≠ 0 then .agent else .swarm, intent.parentAgentId,
    intent.parentSwarmId, 0,
    D.lineageRoot intent.parentAgentId intent.parentSwarmId intent.launchSpecRoot, 1,
    uint64 env.timestamp⟩

theorem linkLineage_ok (h : linkLineage D env intent c = .ok (u, c')) :
    ∃ r, c' = { c with lineageRegistry := r } ∧
      if intent.parentAgentId ≠ 0 ∨ intent.parentSwarmId ≠ 0 then
        agentIdOf D intent ≠ 0 ∧ (c.lineageRegistry.lineageOf (agentIdOf D intent)).agentId = 0 ∧
          r.lineageOf = update c.lineageRegistry.lineageOf (agentIdOf D intent)
            (lineageOfLaunch D env intent) ∧
          r.agentChildren = AgentLineageRegistry.addChild c.lineageRegistry.agentChildren
            intent.parentAgentId (agentIdOf D intent)
      else r = c.lineageRegistry := by
  unfold linkLineage at h
  split at h
  case isFalse hnone =>
    obtain ⟨-, rfl⟩ := pure_ok.mp h
    exact ⟨_, rfl, by rw [if_neg hnone]⟩
  case isTrue hparent =>
    simp [inLineageRegistry, AgentLineageRegistry.attachLineage] at h
    obtain ⟨⟨-, hagent, -, hfresh, -⟩, rfl⟩ := h
    refine ⟨_, rfl, ?_⟩
    rw [if_pos hparent]
    refine ⟨hagent, hfresh, ?_, rfl⟩
    by_cases hagentParent : intent.parentAgentId = 0 <;>
      simp [lineageOfLaunch, fromFactory, hagentParent]

/-- What an accepted launch checked, pulled and wrote. -/
structure Launched (D : LaunchDeployment) (env : Env) (intent : LaunchIntent)
    (ownerSig : List UInt8) (payment : LaunchPayment) (classConfig : AgentClass)
    (w w' : WithTokens LaunchContracts τ) : Prop where
  fresh : w.contract.factory.consumedLaunchIntent (D.launchIntentStructHash intent) = false
  signed : recoveredSigner D intent ownerSig = intent.owner
  getClass : w.contract.registries.getClass intent.classId = some classConfig
  minLaunchBond_le : classConfig.minLaunchBond ≤ intent.bondAmount
  consumed : w'.contract.factory.consumedLaunchIntent = update
    w.contract.factory.consumedLaunchIntent (D.launchIntentStructHash intent) true
  pulled : pullAll (bondPulls D intent classConfig (payerOf intent payment) ++
    fuelPulls D intent (payerOf intent payment)) w.tokens = some w'.tokens
  bond : if classConfig.minLaunchBond ≠ 0 then BondLocked D intent w'.contract.bondEscrow
    else w'.contract.bondEscrow = w.contract.bondEscrow
  fuel : if intent.fuelToken ≠ 0 then FuelOpened D intent w'.contract.fuelVault
    else w'.contract.fuelVault = w.contract.fuelVault
  lineage : if intent.parentAgentId ≠ 0 ∨ intent.parentSwarmId ≠ 0 then
      agentIdOf D intent ≠ 0 ∧
        (w.contract.lineageRegistry.lineageOf (agentIdOf D intent)).agentId = 0 ∧
        w'.contract.lineageRegistry.lineageOf = update
          w.contract.lineageRegistry.lineageOf (agentIdOf D intent)
          (lineageOfLaunch D env intent) ∧
        w'.contract.lineageRegistry.agentChildren = AgentLineageRegistry.addChild
          w.contract.lineageRegistry.agentChildren intent.parentAgentId (agentIdOf D intent)
    else w'.contract.lineageRegistry = w.contract.lineageRegistry

theorem launchAgent_ok {payment : LaunchPayment}
    (h : launchAgent D env intent ownerSig payment w = .ok (u, w')) :
    ∃ classConfig, Launched D env intent ownerSig payment classConfig w w' := by
  simp only [launchAgent, bind_ok, onContract_ok] at h
  obtain ⟨classConfig, _, ⟨c₁, hconsume, rfl⟩, _, _, ⟨c₂, hregister, rfl⟩, _, w₃, hbond, _, w₄,
    hfuel, _, _, ⟨c₅, hprofile, rfl⟩, c₆, hlink, rfl⟩ := h
  obtain ⟨hfactory, hsigned, hclass, rfl⟩ := consumeIntent_iff.mp hconsume
  obtain ⟨ids, runtime, rfl⟩ := registerLaunch_ok hregister
  obtain ⟨hbondPulls, e, hw₃, hescrow⟩ := payBond_ok hbond
  obtain ⟨hfuelPulls, v, hw₄, hvault⟩ := payFuel_ok hfuel
  obtain ⟨r, rfl⟩ := publishProfile_ok hprofile
  obtain ⟨l, rfl, hlineage⟩ := linkLineage_ok hlink
  rw [hw₃] at hw₄ hvault
  rw [hw₄] at hlineage ⊢
  exact ⟨classConfig, hfactory.fresh, hsigned.signed, hclass.registered, hclass.bond, rfl,
    (pullAll_append hbondPulls).trans hfuelPulls, hescrow, hvault, hlineage⟩

/-- What a call that launches no agent keeps; only a cancellation counts a nonce. -/
structure NotLaunched (env : Env) (msg : Msg) (c c' : LaunchContracts) : Prop where
  consumed : c'.factory.consumedLaunchIntent = c.factory.consumedLaunchIntent
  launchIds : c'.factory.launchIdToAgentId = c.factory.launchIdToAgentId
  nonces : match msg with
    | .cancelLaunchIntent nonce _ => nonce.toNat = c.factory.nonces env.sender ∧
        c'.factory.nonces = update c.factory.nonces env.sender (c.factory.nonces env.sender + 1)
    | _ => c'.factory.nonces = c.factory.nonces
  lineageOf : c'.lineageRegistry.lineageOf = c.lineageRegistry.lineageOf
  agentChildren : c'.lineageRegistry.agentChildren = c.lineageRegistry.agentChildren

theorem notLaunched_of_call {msg : Msg}
    (hmsg : ∀ intent sig payment, msg ≠ .launchAgent intent sig payment)
    (h : call D env msg w = .ok ((), w')) : NotLaunched env msg w.contract w'.contract := by
  cases msg with
  | launchAgent intent sig payment => exact absurd rfl (hmsg intent sig payment)
  | ownable c =>
    simp only [call, onContract_ok, inFactory, within_ok] at h
    obtain ⟨_, ⟨_, ⟨_, _, rfl⟩, rfl⟩, rfl⟩ := h
    exact ⟨rfl, rfl, rfl, rfl, rfl⟩
  | setLaunchGuardian nextGuardian | setPaused value | setIntentWindows minValidity maxValidity =>
    simp [call, setLaunchGuardian, setPaused, setIntentWindows, onlyOwner] at h
    obtain ⟨-, rfl⟩ := h
    exact ⟨rfl, rfl, rfl, rfl, rfl⟩
  | cancelLaunchIntent nonce salt =>
    simp [call, cancelLaunchIntent] at h
    obtain ⟨⟨hnonce, -⟩, rfl⟩ := h
    exact ⟨rfl, rfl, ⟨hnonce, by rw [hnonce]⟩, rfl, rfl⟩
  | profileRegistry msg =>
    simp only [call, onContract_ok, inProfileRegistry, within_ok] at h
    obtain ⟨_, ⟨_, _, rfl⟩, rfl⟩ := h
    exact ⟨rfl, rfl, rfl, rfl, rfl⟩
  | lineageRegistry msg =>
    simp only [call, onContract_ok, inLineageRegistry, within_ok] at h
    obtain ⟨_, ⟨r, hcall, rfl⟩, rfl⟩ := h
    cases msg with
    | ownable c =>
      simp only [AgentLineageRegistry.call, AgentLineageRegistry.inOwnable, within_ok] at hcall
      obtain ⟨_, _, rfl⟩ := hcall
      exact ⟨rfl, rfl, rfl, rfl, rfl⟩
    | setAuthorizedRegistrar registrar authorized =>
      simp [AgentLineageRegistry.call, AgentLineageRegistry.setAuthorizedRegistrar,
        AgentLineageRegistry.inOwnable] at hcall
      obtain ⟨-, -, rfl⟩ := hcall
      exact ⟨rfl, rfl, rfl, rfl, rfl⟩
  | bondEscrow msg =>
    simp only [call, inBondEscrow, within_ok] at h
    obtain ⟨_, _, rfl⟩ := h
    exact ⟨rfl, rfl, rfl, rfl, rfl⟩
  | fuelVault msg =>
    simp only [call, inFuelVault, within_ok] at h
    obtain ⟨_, _, rfl⟩ := h
    exact ⟨rfl, rfl, rfl, rfl, rfl⟩

end accepted

/-- A call is accepted, or something happens to the tokens, to the registries that the factory only
reads, or to the agents of the runtime. -/
inductive LaunchStep : WithTokens LaunchContracts τ → Option (Env × Msg) →
    WithTokens LaunchContracts τ → Prop
  | call {env : Env} {msg : Msg} {w w' : WithTokens LaunchContracts τ}
      (hcall : call D env msg w = .ok ((), w')) : LaunchStep w (some (env, msg)) w'
  | others {w : WithTokens LaunchContracts τ} (tokens : Address → τ)
      (registries : LaunchRegistries) (runtime : BaseOnchainAgentMemory) :
      LaunchStep w none
        ⟨{ w.contract with registries := registries, runtime := runtime }, tokens⟩

/-! ### Sample launches -/

/-- A call or no change, executed. -/
def execLaunch (D : LaunchDeployment) (l : Option (Env × Msg)) (w : WithTokens LaunchContracts τ) :
    Option (WithTokens LaunchContracts τ) :=
  execCall (call D) l w

theorem launchStep_of_exec {D : LaunchDeployment} {l : Option (Env × Msg)}
    {w w' : WithTokens LaunchContracts τ} (h : execLaunch D l w = some w') : LaunchStep D w l w' := by
  cases worldStep_of_execCall h with
  | call hcall => exact .call hcall
  | others tokens => exact .others tokens w.contract.registries w.contract.runtime

/-- A deployment with simple hashes, in which the first word of a signature is the signer. -/
def sampleDeployment : LaunchDeployment where
  factory := 8
  bondEscrow := 10
  fuelVault := 11
  memory := sampleMemory
  launchIntentStructHash intent := intent.salt
  launchIntentDigest intent := intent.salt
  launchId intent := intent.salt
  lineageRoot _ _ _ := 1
  ecrecover _ _ r _ := Fin.ofNat _ r.val

/-- Every class is launchable, and every account has 1000 tokens and approved 1000 of them. -/
def sampleContracts : WithTokens LaunchContracts TestToken where
  contract :=
    { factory := deployed 1 1 0 0
      registries := ⟨fun _ => some ⟨true, false, 1, 0, 5, 0, 0, true⟩, fun _ _ _ => true⟩
      runtime := .deployed
      profileRegistry := .deployed 1
      bondEscrow := .deployed 1
      fuelVault := .deployed 1
      lineageRegistry := .deployed 1 }
  tokens _ := ⟨fun _ => 1000, fun _ _ => 1000⟩

/-- The owner 1 authorizes the factory, and the token 5 as the fuel of the class 6. -/
def sampleSetup : List (Option (Env × Msg)) :=
  [some (⟨1, 10⟩, .profileRegistry (.setAuthorizedRegistrar 8 true)),
    some (⟨1, 10⟩, .lineageRegistry (.setAuthorizedRegistrar 8 true)),
    some (⟨1, 10⟩, .fuelVault (.setAuthorizedRegistrar 8 true)),
    some (⟨1, 10⟩, .fuelVault (.setApprovedFuelToken 5 true)),
    some (⟨1, 10⟩, .fuelVault (.setFuelPolicy ⟨6, 5, 0, 0, 0, true, true⟩))]

/-- The intent of an owner with a nonce, an agent, its parent and its fuel. -/
def sampleIntent (owner : Address) (nonce : UInt64) (agentId parentAgentId : Bytes32)
    (fuelToken : Address) (fuel : Uint256) : LaunchIntent where
  owner
  operator := owner
  classId := 6
  rootfieldId := 1
  kernelClass := 1
  policyRoot := 1
  toolAllowlistRoot := 1
  initialMemoryRoot := 1
  activeGoalRoot := 1
  profileDigest := 1
  launchSpecRoot := 1
  autonomyLevel := 0
  riskLevel := 0
  parentAgentId
  parentSwarmId := 0
  bondToken := 0
  bondAmount := 0
  fuelToken
  initialFuelAmount := fuel
  discoverable := true
  validAfter := 0
  validUntil := 20
  nonce
  salt := agentId

/-- The signature of an account below 256. -/
def sampleSignature (owner : UInt8) : List UInt8 :=
  List.replicate 31 0 ++ [owner] ++ List.replicate 33 0

/-- An account launches its own agent without fuel. -/
def sampleLaunchOf (owner : UInt8) (nonce : UInt64) (agentId parentAgentId : Bytes32) :
    Option (Env × Msg) :=
  some (⟨Fin.ofNat _ owner.toNat, 10⟩, .launchAgent
    (sampleIntent (Fin.ofNat _ owner.toNat) nonce agentId parentAgentId 0 0) (sampleSignature owner)
    ⟨false, 0⟩)

end AgentFactory

end FlowMemory.AgentNetwork
