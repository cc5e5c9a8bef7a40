import FlowMemory.AgentNetwork.Basic

/-! # The vault of memory fuel

Every agent has a **fuel account** in the token of its class.  Anyone deposits fuel into it, meters
**reserve** and **consume** it, and the owner of the account or a meter pays it out.

The external call of a token is the last thing that `depositFuel` and `refundFuel` do, so that calls
which a token makes back into the contract come after all writes. -/

namespace FlowMemory.AgentNetwork

open Call AgentBonds ERC20SettlementToken Function

structure FuelAccount where
  agentId : Bytes32
  owner : Address
  classId : Bytes32
  token : Address
  (balance reserved updatedAt : ℕ)

def FuelAccount.empty : FuelAccount := ⟨0, 0, 0, 0, 0, 0, 0⟩

structure FuelPolicy where
  classId : Bytes32
  token : Address
  (minInitialFuel unitPrice maxDebitPerStep : Uint256)
  (sponsorAllowed active : Bool)

def FuelPolicy.empty : FuelPolicy := ⟨0, 0, 0, 0, 0, false, false⟩

structure AgentMemoryFuelVault where
  ownable : TwoStepOwnable
  fuelAccounts : Bytes32 → FuelAccount
  classFuelPolicies : Bytes32 → FuelPolicy
  approvedFuelToken : Address → Bool
  isAuthorizedMeter : Address → Bool
  isAuthorizedRegistrar : Address → Bool
  reservedAmountByReservation : Bytes32 → ℕ

inductive FuelVaultError where
  | ownable (e : OwnableError)
  | zeroAgentId
  | zeroOwnerAddress
  | zeroClassId
  | zeroToken
  | zeroRegistrar
  | zeroMeter
  | fuelAccountAlreadyExists (agentId : Bytes32)
  | fuelAccountNotFound (agentId : Bytes32)
  | unauthorizedRegistrar (caller : Address)
  | unauthorizedMeter (caller : Address)
  | unauthorizedAccountOwner (agentId : Bytes32) (caller : Address)
  | unapprovedFuelToken (token : Address)
  | inactiveFuelPolicy (classId : Bytes32)
  | invalidFuelToken (agentId : Bytes32) (expected provided : Address)
  | zeroAmount
  | insufficientAvailableFuel (agentId : Bytes32) (requested available : ℕ)
  | reservationNotFound (reservationId : Bytes32)
  | reservationExceedsAvailable (reservationId : Bytes32) (requested available : ℕ)
  | maxDebitPerStepExceeded (requested maximum : ℕ)
  | transferFailed
  | panic

namespace AgentMemoryFuelVault

def deployed (initialOwner : Address) : AgentMemoryFuelVault where
  ownable := ⟨initialOwner, 0⟩
  fuelAccounts _ := .empty
  classFuelPolicies _ := .empty
  approvedFuelToken _ := false
  isAuthorizedMeter _ := false
  isAuthorizedRegistrar _ := false
  reservedAmountByReservation _ := 0

abbrev FuelAction : Type → Type := Call AgentMemoryFuelVault FuelVaultError

abbrev FuelTokenAction (τ : Type) : Type → Type :=
  Call (WithTokens AgentMemoryFuelVault τ) FuelVaultError

variable {τ : Type} [ERC20SettlementToken τ] (self : Address) (env : Env)

def inOwnable (m : Call TwoStepOwnable OwnableError Unit) : FuelAction Unit :=
  within AgentMemoryFuelVault.ownable (fun v o => { v with ownable := o }) .ownable m

def onlyAuthorizedRegistrar : FuelAction Unit := do
  let v ← get
  revertIf (v.isAuthorizedRegistrar env.sender = false) (.unauthorizedRegistrar env.sender)

def onlyAuthorizedMeter : FuelAction Unit := do
  let v ← get
  revertIf (v.isAuthorizedMeter env.sender = false) (.unauthorizedMeter env.sender)

/-! ### Administration -/

def setApprovedFuelToken (token : Address) (approved : Bool) : FuelAction Unit := do
  inOwnable (TwoStepOwnable.onlyOwner env)
  revertIf (token = 0) .zeroToken
  modify fun v => { v with approvedFuelToken := update v.approvedFuelToken token approved }

def setAuthorizedMeter (meter : Address) (authorized : Bool) : FuelAction Unit := do
  inOwnable (TwoStepOwnable.onlyOwner env)
  revertIf (meter = 0) .zeroMeter
  modify fun v => { v with
    isAuthorizedMeter := update v.isAuthorizedMeter meter authorized }

def setAuthorizedRegistrar (registrar : Address) (authorized : Bool) : FuelAction Unit := do
  inOwnable (TwoStepOwnable.onlyOwner env)
  revertIf (registrar = 0) .zeroRegistrar
  modify fun v => { v with
    isAuthorizedRegistrar := update v.isAuthorizedRegistrar registrar authorized }

def setFuelPolicy (policy : FuelPolicy) : FuelAction Unit := do
  inOwnable (TwoStepOwnable.onlyOwner env)
  revertIf (policy.classId = 0) .zeroClassId
  revertIf (policy.token = 0) .zeroToken
  modify fun v => { v with
    classFuelPolicies := update v.classFuelPolicies policy.classId policy }

/-! ### Accounts -/

def setAccount (v : AgentMemoryFuelVault) (agentId : Bytes32) (account : FuelAccount) :
    AgentMemoryFuelVault :=
  { v with fuelAccounts := update v.fuelAccounts agentId account }

def registerFuelAccount (agentId : Bytes32) (owner : Address) (classId : Bytes32)
    (token : Address) : FuelAction Unit := do
  onlyAuthorizedRegistrar env
  revertIf (agentId = 0) .zeroAgentId
  revertIf (owner = 0) .zeroOwnerAddress
  revertIf (classId = 0) .zeroClassId
  revertIf (token = 0) .zeroToken
  let v ← get
  revertIf ((v.fuelAccounts agentId).agentId ≠ 0) (.fuelAccountAlreadyExists agentId)
  revertIf (v.approvedFuelToken token = false) (.unapprovedFuelToken token)
  let policy := v.classFuelPolicies classId
  revertIf (policy.active = false) (.inactiveFuelPolicy classId)
  revertIf (policy.token ≠ token) (.invalidFuelToken agentId policy.token token)
  modify fun v => setAccount v agentId
    ⟨agentId, owner, classId, token, 0, 0, uint64 env.timestamp⟩

def requireAccount (agentId : Bytes32) : FuelAction FuelAccount := do
  let v ← get
  let account := v.fuelAccounts agentId
  revertIf (account.agentId = 0) (.fuelAccountNotFound agentId)
  pure account

def credit (agentId : Bytes32) (token : Address) (amount : ℕ) : FuelAction Unit := do
  revertIf (amount = 0) .zeroAmount
  let account ← requireAccount agentId
  revertIf (token ≠ account.token) (.invalidFuelToken agentId account.token token)
  let v ← get
  revertIf (v.approvedFuelToken token = false) (.unapprovedFuelToken token)
  let balance ← okOr (addChecked 256 account.balance amount) .panic
  modify fun v => setAccount v agentId
    { account with balance, updatedAt := uint64 env.timestamp }

def depositFuel (agentId : Bytes32) (payer token : Address) (amount : ℕ) :
    FuelTokenAction τ Unit := do
  onContract (credit env agentId token amount)
  callToken .transferFailed token (transferFrom self payer self amount)

def reserveFuel (agentId : Bytes32) (amount : ℕ) (reservationRoot : Bytes32) :
    FuelAction Unit := do
  onlyAuthorizedMeter env
  revertIf (amount = 0) .zeroAmount
  let account ← requireAccount agentId
  let available ← okOr (subChecked account.balance account.reserved) .panic
  revertIf (amount > available) (.insufficientAvailableFuel agentId amount available)
  let reserved ← okOr (addChecked 256 account.reserved amount) .panic
  modify fun v => { setAccount v agentId
      { account with reserved, updatedAt := uint64 env.timestamp } with
    reservedAmountByReservation :=
      update v.reservedAmountByReservation reservationRoot amount }

def consumeFuel (agentId : Bytes32) (units : ℕ) : FuelAction Unit := do
  onlyAuthorizedMeter env
  revertIf (units = 0) .zeroAmount
  let account ← requireAccount agentId
  let v ← get
  let policy := v.classFuelPolicies account.classId
  let amount ← okOr (mulChecked 256 units policy.unitPrice) .panic
  revertIf (policy.maxDebitPerStep ≠ 0 ∧ amount > policy.maxDebitPerStep.val)
    (.maxDebitPerStepExceeded amount policy.maxDebitPerStep)
  let available ← okOr (subChecked account.balance account.reserved) .panic
  revertIf (amount > available) (.insufficientAvailableFuel agentId amount available)
  modify fun v => setAccount v agentId
    { account with balance := account.balance - amount, updatedAt := uint64 env.timestamp }

def releaseReservation (agentId reservationRoot : Bytes32) : FuelAction Unit := do
  onlyAuthorizedMeter env
  let account ← requireAccount agentId
  let v ← get
  let reservedAmount := v.reservedAmountByReservation reservationRoot
  revertIf (reservedAmount = 0) (.reservationNotFound reservationRoot)
  revertIf (reservedAmount > account.reserved)
    (.reservationExceedsAvailable reservationRoot reservedAmount account.reserved)
  modify fun v => { setAccount v agentId
      { account with
        reserved := account.reserved - reservedAmount
        updatedAt := uint64 env.timestamp } with
    reservedAmountByReservation := update v.reservedAmountByReservation reservationRoot 0 }

/-- Take fuel out of an account.  The result is the token of the account. -/
def debit (agentId : Bytes32) (recipient : Address) (amount : ℕ) : FuelAction Address := do
  let account ← requireAccount agentId
  revertIf (recipient = 0) .zeroOwnerAddress
  let v ← get
  revertIf (env.sender ≠ account.owner ∧ v.isAuthorizedMeter env.sender = false)
    (.unauthorizedAccountOwner agentId env.sender)
  let available ← okOr (subChecked account.balance account.reserved) .panic
  revertIf (amount > available) (.insufficientAvailableFuel agentId amount available)
  modify fun v => setAccount v agentId
    { account with balance := account.balance - amount, updatedAt := uint64 env.timestamp }
  pure account.token

def refundFuel (agentId : Bytes32) (recipient : Address) (amount : ℕ) : FuelTokenAction τ Unit := do
  let token ← onContract (debit env agentId recipient amount)
  callToken .transferFailed token (transfer self recipient amount)

/-! ### The contract -/

/-- The calls of the contract, as messages. -/
inductive Msg where
  | ownable (c : OwnableCall)
  | setApprovedFuelToken (token : Address) (approved : Bool)
  | setAuthorizedMeter (meter : Address) (authorized : Bool)
  | setAuthorizedRegistrar (registrar : Address) (authorized : Bool)
  | setFuelPolicy (policy : FuelPolicy)
  | registerFuelAccount (agentId : Bytes32) (owner : Address) (classId : Bytes32) (token : Address)
  | depositFuel (agentId : Bytes32) (payer token : Address) (amount : Uint256)
  | reserveFuel (agentId : Bytes32) (amount : Uint256) (reservationRoot : Bytes32)
  | consumeFuel (agentId : Bytes32) (units : Uint256) (receiptRoot : Bytes32)
  | releaseReservation (agentId reservationRoot : Bytes32)
  | refundFuel (agentId : Bytes32) (recipient : Address) (amount : Uint256)

def call : Msg → FuelTokenAction τ Unit
  | .ownable c => onContract (inOwnable (TwoStepOwnable.call env c))
  | .setApprovedFuelToken token approved => onContract (setApprovedFuelToken env token approved)
  | .setAuthorizedMeter meter authorized => onContract (setAuthorizedMeter env meter authorized)
  | .setAuthorizedRegistrar registrar authorized =>
    onContract (setAuthorizedRegistrar env registrar authorized)
  | .setFuelPolicy policy => onContract (setFuelPolicy env policy)
  | .registerFuelAccount agentId owner classId token =>
    onContract (registerFuelAccount env agentId owner classId token)
  | .depositFuel agentId payer token amount => depositFuel self env agentId payer token amount
  | .reserveFuel agentId amount reservationRoot =>
    onContract (reserveFuel env agentId amount reservationRoot)
  | .consumeFuel agentId units _ => onContract (consumeFuel env agentId units)
  | .releaseReservation agentId reservationRoot =>
    onContract (releaseReservation env agentId reservationRoot)
  | .refundFuel agentId recipient amount => refundFuel self env agentId recipient amount

/-! ### The accepted calls -/

section accepted

variable {env : Env} {v v' : AgentMemoryFuelVault} {u : Unit} {agentId : Bytes32} {amount : ℕ}
  {token : Address} {reservationRoot : Bytes32}

attribute [simp] inOwnable onlyAuthorizedMeter onlyAuthorizedRegistrar requireAccount

theorem registerFuelAccount_ok {owner : Address} {classId : Bytes32} :
    registerFuelAccount env agentId owner classId token v = .ok (u, v') ↔
      v.isAuthorizedRegistrar env.sender = true ∧ agentId ≠ 0 ∧ owner ≠ 0 ∧ classId ≠ 0 ∧
      token ≠ 0 ∧ (v.fuelAccounts agentId).agentId = 0 ∧ v.approvedFuelToken token = true ∧
      (v.classFuelPolicies classId).active = true ∧ (v.classFuelPolicies classId).token = token ∧
      v' = setAccount v agentId
        ⟨agentId, owner, classId, token, 0, 0, uint64 env.timestamp⟩ := by
  simp [registerFuelAccount, and_assoc]

theorem credit_ok : credit env agentId token amount v = .ok (u, v') ↔
    amount ≠ 0 ∧ (v.fuelAccounts agentId).agentId ≠ 0 ∧
      token = (v.fuelAccounts agentId).token ∧ v.approvedFuelToken token = true ∧
      (v.fuelAccounts agentId).balance + amount < 2 ^ 256 ∧
      v' = setAccount v agentId
        { v.fuelAccounts agentId with
          balance := (v.fuelAccounts agentId).balance + amount
          updatedAt := uint64 env.timestamp } := by
  simp [credit, and_assoc]

end accepted

end AgentMemoryFuelVault

end FlowMemory.AgentNetwork
