import FlowMemory.AgentNetwork.Basic

/-! # The vault of swarm budgets

Tokens are **deposited** for a swarm.  Operators make **budget lines** of a swarm and an asset, each
with a cap, **reserve** parts of a line and **spend** from it.

The external call of a token is the last thing that `deposit` and `spend` do, so that calls which a
token makes back into the contract come after all writes. -/

namespace FlowMemory.AgentNetwork

open Call AgentBonds ERC20SettlementToken Function

structure BudgetLine where
  (budgetLineId swarmId : Bytes32)
  asset : Address
  (cap spent reserved : ℕ)
  (purposeRoot rolePolicyRoot : Bytes32)
  windowStart : ℕ
  windowSeconds : UInt64
  active : Bool

def BudgetLine.empty : BudgetLine := ⟨0, 0, 0, 0, 0, 0, 0, 0, 0, 0, false⟩

structure SwarmBudgetVault where
  ownable : TwoStepOwnable
  swarmBalances : Bytes32 → Address → ℕ
  budgetLines : Bytes32 → BudgetLine
  reservedAmountByReservation : Bytes32 → ℕ
  isAuthorizedOperator : Address → Bool

inductive BudgetVaultError where
  | ownable (e : OwnableError)
  | zeroSwarmId
  | zeroAsset
  | zeroAmount
  | zeroOperator
  | budgetLineAlreadyExists (budgetLineId : Bytes32)
  | budgetLineNotFound (budgetLineId : Bytes32)
  | inactiveBudgetLine (budgetLineId : Bytes32)
  | unauthorizedOperator (caller : Address)
  | insufficientSwarmBalance (swarmId : Bytes32) (asset : Address) (requested available : ℕ)
  | budgetCapExceeded (budgetLineId : Bytes32) (attempted cap : ℕ)
  | reservationNotFound (reservationId : Bytes32)
  | transferFailed
  | panic

/-- The address of a vault and the hashes that it takes as identifiers. -/
structure BudgetVaultDeployment where
  vault : Address
  budgetLineId : (swarmId : Bytes32) → (asset : Address) → (purposeRoot rolePolicyRoot : Bytes32) →
    (timestamp : ℕ) → Bytes32
  reservationId : (budgetLineId : Bytes32) → (amount : ℕ) → (intentRoot : Bytes32) →
    (timestamp : ℕ) → Bytes32

namespace SwarmBudgetVault

def deployed (initialOwner : Address) : SwarmBudgetVault where
  ownable := ⟨initialOwner, 0⟩
  swarmBalances _ _ := 0
  budgetLines _ := .empty
  reservedAmountByReservation _ := 0
  isAuthorizedOperator _ := false

abbrev VaultAction : Type → Type := Call SwarmBudgetVault BudgetVaultError

abbrev VaultTokenAction (τ : Type) : Type → Type :=
  Call (WithTokens SwarmBudgetVault τ) BudgetVaultError

variable {τ : Type} [ERC20SettlementToken τ] (D : BudgetVaultDeployment) (env : Env)

def inOwnable (m : Call TwoStepOwnable OwnableError Unit) : VaultAction Unit :=
  within SwarmBudgetVault.ownable (fun v o => { v with ownable := o }) .ownable m

def onlyAuthorizedOperator : VaultAction Unit := do
  let v ← get
  revertIf (v.isAuthorizedOperator env.sender = false) (.unauthorizedOperator env.sender)

def setAuthorizedOperator (operator : Address) (authorized : Bool) : VaultAction Unit := do
  inOwnable (TwoStepOwnable.onlyOwner env)
  revertIf (operator = 0) .zeroOperator
  modify fun v => { v with
    isAuthorizedOperator := update v.isAuthorizedOperator operator authorized }

/-- Set the balance of a swarm in an asset. -/
def setBalance (v : SwarmBudgetVault) (swarmId : Bytes32) (asset : Address) (balance : ℕ) :
    SwarmBudgetVault :=
  { v with
    swarmBalances := update v.swarmBalances swarmId
      (update (v.swarmBalances swarmId) asset balance) }

def setLine (v : SwarmBudgetVault) (budgetLineId : Bytes32) (line : BudgetLine) : SwarmBudgetVault :=
  { v with budgetLines := update v.budgetLines budgetLineId line }

def credit (swarmId : Bytes32) (asset : Address) (amount : ℕ) : VaultAction Unit := do
  revertIf (swarmId = 0) .zeroSwarmId
  revertIf (asset = 0) .zeroAsset
  revertIf (amount = 0) .zeroAmount
  let v ← get
  let balance ← okOr (addChecked 256 (v.swarmBalances swarmId asset) amount) .panic
  modify fun v => setBalance v swarmId asset balance

def deposit (swarmId : Bytes32) (payer asset : Address) (amount : ℕ) : VaultTokenAction τ Unit := do
  onContract (credit swarmId asset amount)
  callToken .transferFailed asset (transferFrom D.vault payer D.vault amount)

def createBudgetLine (swarmId : Bytes32) (asset : Address) (cap : ℕ)
    (purposeRoot rolePolicyRoot : Bytes32) (windowSeconds : UInt64) : VaultAction Unit := do
  onlyAuthorizedOperator env
  revertIf (swarmId = 0) .zeroSwarmId
  revertIf (asset = 0) .zeroAsset
  revertIf (cap = 0) .zeroAmount
  let budgetLineId := D.budgetLineId swarmId asset purposeRoot rolePolicyRoot env.timestamp
  let v ← get
  revertIf ((v.budgetLines budgetLineId).budgetLineId ≠ 0) (.budgetLineAlreadyExists budgetLineId)
  modify fun v => setLine v budgetLineId
    ⟨budgetLineId, swarmId, asset, cap, 0, 0, purposeRoot, rolePolicyRoot, uint64 env.timestamp,
      windowSeconds, true⟩

def requireLine (swarmId budgetLineId : Bytes32) : VaultAction BudgetLine := do
  let v ← get
  let line := v.budgetLines budgetLineId
  revertIf (line.budgetLineId = 0) (.budgetLineNotFound budgetLineId)
  revertIf (line.active = false ∨ line.swarmId ≠ swarmId) (.inactiveBudgetLine budgetLineId)
  pure line

/-- The error with the amount that was attempted, whose addition is checked as well. -/
def capExceeded (budgetLineId : Bytes32) (attempted : Option ℕ) (cap : ℕ) : BudgetVaultError :=
  match attempted with
  | some attempted => .budgetCapExceeded budgetLineId attempted cap
  | none => .panic

/-- What `reserve` may take of a line. -/
def availableToReserve (line : BudgetLine) : Option ℕ :=
  (subChecked line.cap line.spent).bind (subChecked · line.reserved)

def reserve (swarmId budgetLineId : Bytes32) (amount : ℕ) (intentRoot : Bytes32) :
    VaultAction Unit := do
  onlyAuthorizedOperator env
  revertIf (amount = 0) .zeroAmount
  let line ← requireLine swarmId budgetLineId
  let availableLine ← okOr (availableToReserve line) .panic
  revertIf (amount > availableLine)
    (capExceeded budgetLineId (addChecked 256 (line.spent + line.reserved) amount) line.cap)
  let v ← get
  let availableSwarm := v.swarmBalances swarmId line.asset
  revertIf (amount > availableSwarm)
    (.insufficientSwarmBalance swarmId line.asset amount availableSwarm)
  let reserved ← okOr (addChecked 256 line.reserved amount) .panic
  let reservationId := D.reservationId budgetLineId amount intentRoot env.timestamp
  modify fun v => { setLine v budgetLineId { line with reserved } with
    reservedAmountByReservation := update v.reservedAmountByReservation reservationId amount }

def debit (swarmId budgetLineId : Bytes32) (recipient : Address) (amount : ℕ) :
    VaultAction Address := do
  onlyAuthorizedOperator env
  revertIf (recipient = 0) .zeroOperator
  revertIf (amount = 0) .zeroAmount
  let line ← requireLine swarmId budgetLineId
  let availableLine ← okOr (subChecked line.cap line.spent) .panic
  revertIf (amount > availableLine)
    (capExceeded budgetLineId (addChecked 256 line.spent amount) line.cap)
  let v ← get
  let availableSwarm := v.swarmBalances swarmId line.asset
  revertIf (amount > availableSwarm)
    (.insufficientSwarmBalance swarmId line.asset amount availableSwarm)
  let spent ← okOr (addChecked 256 line.spent amount) .panic
  modify fun v => setBalance (setLine v budgetLineId { line with spent }) swarmId line.asset
    (availableSwarm - amount)
  pure line.asset

def spend (swarmId budgetLineId : Bytes32) (recipient : Address) (amount : ℕ) :
    VaultTokenAction τ Unit := do
  let asset ← onContract (debit env swarmId budgetLineId recipient amount)
  callToken .transferFailed asset (transfer D.vault recipient amount)

def releaseReservation (swarmId budgetLineId reservationId : Bytes32) : VaultAction Unit := do
  onlyAuthorizedOperator env
  let line ← requireLine swarmId budgetLineId
  let v ← get
  let reservedAmount := v.reservedAmountByReservation reservationId
  revertIf (reservedAmount = 0) (.reservationNotFound reservationId)
  let reserved ← okOr (subChecked line.reserved reservedAmount) .panic
  modify fun v => { setLine v budgetLineId { line with reserved } with
    reservedAmountByReservation := update v.reservedAmountByReservation reservationId 0 }

/-- The calls of the contract, as messages. -/
inductive Msg where
  | ownable (c : OwnableCall)
  | setAuthorizedOperator (operator : Address) (authorized : Bool)
  | deposit (swarmId : Bytes32) (payer asset : Address) (amount : Uint256)
  | createBudgetLine (swarmId : Bytes32) (asset : Address) (cap : Uint256)
      (purposeRoot rolePolicyRoot : Bytes32) (windowSeconds : UInt64)
  | reserve (swarmId budgetLineId : Bytes32) (amount : Uint256) (intentRoot : Bytes32)
  | spend (swarmId budgetLineId : Bytes32) (recipient : Address) (amount : Uint256)
      (receiptRoot : Bytes32)
  | releaseReservation (swarmId budgetLineId reservationId : Bytes32)

def call : Msg → VaultTokenAction τ Unit
  | .ownable c => onContract (inOwnable (TwoStepOwnable.call env c))
  | .setAuthorizedOperator operator authorized =>
    onContract (setAuthorizedOperator env operator authorized)
  | .deposit swarmId payer asset amount => deposit D swarmId payer asset amount
  | .createBudgetLine swarmId asset cap purposeRoot rolePolicyRoot windowSeconds =>
    onContract (createBudgetLine D env swarmId asset cap purposeRoot rolePolicyRoot windowSeconds)
  | .reserve swarmId budgetLineId amount intentRoot =>
    onContract (reserve D env swarmId budgetLineId amount intentRoot)
  | .spend swarmId budgetLineId recipient amount _ =>
    spend D env swarmId budgetLineId recipient amount
  | .releaseReservation swarmId budgetLineId reservationId =>
    onContract (releaseReservation env swarmId budgetLineId reservationId)

/-! ### The accepted calls -/

section accepted

variable {D : BudgetVaultDeployment} {env : Env} {v v' : SwarmBudgetVault} {u : Unit}
  {swarmId budgetLineId : Bytes32} {asset : Address} {amount : ℕ}

attribute [simp] inOwnable onlyAuthorizedOperator requireLine

theorem balance_setBalance (v : SwarmBudgetVault) (s s' : Bytes32) (a a' : Address) (balance : ℕ) :
    (setBalance v s a balance).swarmBalances s' a' =
      if s' = s ∧ a' = a then balance else v.swarmBalances s' a' := by
  by_cases hs : s' = s
  · subst hs
    by_cases ha : a' = a
    · subst ha
      simp [setBalance]
    · simp [setBalance, ha]
  · simp [setBalance, hs]

/-- The line exists, is active and belongs to the swarm. -/
@[mk_iff] structure LineOf (v : SwarmBudgetVault) (swarmId budgetLineId : Bytes32) : Prop where
  exists_ : (v.budgetLines budgetLineId).budgetLineId ≠ 0
  active : (v.budgetLines budgetLineId).active = true
  swarm : (v.budgetLines budgetLineId).swarmId = swarmId

end accepted

/-! ### The calls and the books -/

/-- What an accepted call does to the books of the vault. -/
inductive VaultEffect (D : BudgetVaultDeployment) (env : Env) (v : SwarmBudgetVault) :
    Msg → SwarmBudgetVault → Prop
  | administered {msg : Msg} {v' : SwarmBudgetVault} (hlines : v'.budgetLines = v.budgetLines)
      (hbalances : v'.swarmBalances = v.swarmBalances)
      (hheld : v'.reservedAmountByReservation = v.reservedAmountByReservation)
      (hmsg : (∃ c, msg = .ownable c) ∨ ∃ o a, msg = .setAuthorizedOperator o a) :
      VaultEffect D env v msg v'
  | deposited {swarmId : Bytes32} {payer asset : Address} {amount : Uint256} :
      VaultEffect D env v (.deposit swarmId payer asset amount)
        (setBalance v swarmId asset (v.swarmBalances swarmId asset + amount))
  | created {swarmId id : Bytes32} {asset : Address} {cap : Uint256}
      {purposeRoot rolePolicyRoot : Bytes32} {windowSeconds : UInt64}
      (hnone : (v.budgetLines id).budgetLineId = 0) :
      VaultEffect D env v
        (.createBudgetLine swarmId asset cap purposeRoot rolePolicyRoot windowSeconds)
        (setLine v id ⟨id, swarmId, asset, cap, 0, 0, purposeRoot, rolePolicyRoot,
          uint64 env.timestamp, windowSeconds, true⟩)
  | reserved {swarmId id : Bytes32} {amount : Uint256} {intentRoot : Bytes32} {available : ℕ}
      (hoperator : v.isAuthorizedOperator env.sender = true) (hamount : amount ≠ 0)
      (hline : LineOf v swarmId id) (havailable : availableToReserve (v.budgetLines id) = some available)
      (hle : amount ≤ available) :
      VaultEffect D env v (.reserve swarmId id amount intentRoot)
        { setLine v id { v.budgetLines id with reserved := (v.budgetLines id).reserved + amount } with
          reservedAmountByReservation := update v.reservedAmountByReservation
            (D.reservationId id amount intentRoot env.timestamp) amount }
  | spent {swarmId id : Bytes32} {recipient : Address} {amount : Uint256} {receiptRoot : Bytes32}
      (hline : LineOf v swarmId id)
      (hbalance : amount ≤ v.swarmBalances swarmId (v.budgetLines id).asset) :
      VaultEffect D env v (.spend swarmId id recipient amount receiptRoot)
        (setBalance (setLine v id { v.budgetLines id with spent := (v.budgetLines id).spent + amount })
          swarmId (v.budgetLines id).asset
          (v.swarmBalances swarmId (v.budgetLines id).asset - amount))
  | released {swarmId id reservationId : Bytes32} (hline : LineOf v swarmId id)
      (hheld : v.reservedAmountByReservation reservationId ≠ 0)
      (hle : v.reservedAmountByReservation reservationId ≤ (v.budgetLines id).reserved) :
      VaultEffect D env v (.releaseReservation swarmId id reservationId)
        { setLine v id { v.budgetLines id with
            reserved := (v.budgetLines id).reserved - v.reservedAmountByReservation reservationId } with
          reservedAmountByReservation := update v.reservedAmountByReservation reservationId 0 }

section effects

variable {τ : Type} [ERC20SettlementToken τ] {D : BudgetVaultDeployment} {env : Env} {msg : Msg}
  {w w' : WithTokens SwarmBudgetVault τ}

theorem effect_of_call (h : call D env msg w = .ok ((), w')) :
    VaultEffect D env w.contract msg w'.contract := by
  cases msg with
  | ownable c =>
    obtain ⟨_, h', rfl⟩ := onContract_ok.mp h
    obtain ⟨_, _, rfl⟩ := within_ok.mp h'
    exact .administered rfl rfl rfl (.inl ⟨c, rfl⟩)
  | setAuthorizedOperator operator authorized =>
    simp [call, setAuthorizedOperator] at h
    obtain ⟨-, rfl⟩ := h
    exact .administered rfl rfl rfl (.inr ⟨operator, authorized, rfl⟩)
  | deposit swarmId payer asset amount =>
    simp [call, deposit, credit] at h
    obtain ⟨_, -, _, -, rfl⟩ := h
    exact .deposited
  | createBudgetLine swarmId asset cap purposeRoot rolePolicyRoot windowSeconds =>
    simp [call, createBudgetLine] at h
    obtain ⟨⟨-, -, -, -, hnone⟩, rfl⟩ := h
    exact .created hnone
  | reserve swarmId budgetLineId amount intentRoot =>
    simp [call, reserve, ← lineOf_iff] at h
    obtain ⟨⟨hoperator, hamount, hline, _, havailable, hle, -, -⟩, rfl⟩ := h
    exact .reserved hoperator hamount hline havailable hle
  | spend swarmId budgetLineId recipient amount receiptRoot =>
    simp [call, spend, debit, ← lineOf_iff] at h
    obtain ⟨⟨-, -, -, hline, -, -, hbalance, -⟩, _, -, rfl⟩ := h
    exact .spent hline hbalance
  | releaseReservation swarmId budgetLineId reservationId =>
    simp [call, releaseReservation, ← lineOf_iff] at h
    obtain ⟨⟨-, hline, hheld, hle⟩, rfl⟩ := h
    exact .released hline hheld hle

theorem VaultEffect.balances_eq {v v' : SwarmBudgetVault} (heffect : VaultEffect D env v msg v')
    (hdeposit : ∀ swarmId payer asset amount, msg ≠ .deposit swarmId payer asset amount)
    (hspend : ∀ swarmId budgetLineId recipient amount receiptRoot,
      msg ≠ .spend swarmId budgetLineId recipient amount receiptRoot) :
    v'.swarmBalances = v.swarmBalances := by
  cases heffect with
  | administered _ hbalances _ _ => exact hbalances
  | deposited => exact absurd rfl (hdeposit _ _ _ _)
  | spent => exact absurd rfl (hspend _ _ _ _ _)
  | created | reserved | released => rfl

end effects

/-! ### A vault with a budget -/

/-- A vault at the address 9 in which the purpose identifies a line and the intent a reservation. -/
def sampleVault : BudgetVaultDeployment where
  vault := 9
  budgetLineId _ _ purposeRoot _ _ := purposeRoot
  reservationId _ _ intentRoot _ := intentRoot

def sampleDeployed : WithTokens SwarmBudgetVault TestToken :=
  ⟨deployed 1, fun _ => ⟨fun _ => 1000, fun _ _ => 1000⟩⟩

/-- The owner 1 authorizes the operator 2, and the account 3 deposits 100 of the token 5 for the
swarm 6. -/
def sampleFunding : List (Option (Env × Msg)) :=
  [some (⟨1, 10⟩, .setAuthorizedOperator 2 true), some (⟨3, 10⟩, .deposit 6 3 5 100)]

end SwarmBudgetVault

end FlowMemory.AgentNetwork
