import FlowMemory.AgentBonds.Basic

/-! # The underwriter pool

Providers deposit tokens for shares, and allocators lock coverage for tasks, release it, or pay a
claim out of it.  Withdrawals and new coverage are limited to what is not locked; coverage is
also limited by the loss that may be paid in one **epoch**.

The balance of the pool is read from the token, so anyone can raise it by a plain transfer. -/

namespace FlowMemory.AgentBonds

open Call ERC20SettlementToken Function

inductive PoolEvent where
  | deposited (provider : Address) (amount sharesMinted : ℕ)
  | withdrawn (provider : Address) (amount sharesBurned : ℕ)
  | withdrawalRequested (provider : Address) (availableAt : ℕ)
  | coverageLocked (taskId : Bytes32) (amount : ℕ)
  | coverageReleased (taskId : Bytes32) (amount : ℕ)
  | claimPaid (taskId : Bytes32) (recipient : Address) (reason : Bytes32) (paid : ℕ)
  deriving DecidableEq

/-- The storage of the pool, and its log with the time of each entry, the newest first. -/
structure AgentUnderwriterPool where
  ownable : TwoStepOwnable
  (totalLocked totalAllocated maxCoveragePerTask maxRiskTier : ℕ)
  sharesOf : Address → ℕ
  totalShares : ℕ
  lockedByTask : Bytes32 → ℕ
  isAllocator : Address → Bool
  lossPaidByEpoch : ℕ → ℕ
  withdrawalAvailableAt : Address → ℕ
  (epochDuration maxLossPerEpoch withdrawalCooldown : ℕ)
  logs : List (ℕ × PoolEvent)

inductive PoolError where
  | ownable (e : OwnableError)
  | zeroAmount
  | zeroAllocator
  | notAllocator (caller : Address)
  | coverageAlreadyLocked (taskId : Bytes32)
  | coverageNotLocked (taskId : Bytes32)
  | coverageExceedsCap (amount cap : ℕ)
  | insufficientAvailableCapacity (requested available : ℕ)
  | insufficientUnlockedLiquidity (requested available : ℕ)
  | transferFailed
  | poolInvariantBroken
  | claimExceedsEpochCap (requested remaining epoch : ℕ)
  | withdrawalCooldownActive (availableAt : ℕ)
  | invalidEpochDuration
  | panic

namespace AgentUnderwriterPool

/-- The pool after its constructor. -/
def deployed (initialOwner : Address) (maxCoveragePerTask : ℕ) (maxRiskTier : UInt8) :
    AgentUnderwriterPool where
  ownable := ⟨initialOwner, 0⟩
  totalLocked := 0
  totalAllocated := 0
  maxCoveragePerTask
  maxRiskTier := maxRiskTier.toNat
  sharesOf := fun _ => 0
  totalShares := 0
  lockedByTask := fun _ => 0
  isAllocator := fun _ => false
  lossPaidByEpoch := fun _ => 0
  withdrawalAvailableAt := fun _ => 0
  epochDuration := 0
  maxLossPerEpoch := 0
  withdrawalCooldown := 0
  logs := []

variable {τ : Type} [ERC20SettlementToken τ]

/-! ### Views -/

def currentEpoch (p : AgentUnderwriterPool) (timestamp : ℕ) : ℕ :=
  if p.epochDuration = 0 then 0 else timestamp / p.epochDuration

/-- The loss that may still be paid in the current epoch; the sum inside is checked. -/
def remainingEpochLossCapacity (p : AgentUnderwriterPool) (timestamp : ℕ) : Option ℕ :=
  if p.maxLossPerEpoch = 0 then some (2 ^ 256 - 1)
  else (addChecked 256 (p.lossPaidByEpoch (p.currentEpoch timestamp)) p.totalLocked).map
    fun used => if used ≥ p.maxLossPerEpoch then 0 else p.maxLossPerEpoch - used

def availableCapacity (self : Address) (s : WithToken AgentUnderwriterPool τ) : ℕ :=
  if balanceOf self s.token ≤ s.contract.totalLocked then 0
  else balanceOf self s.token - s.contract.totalLocked

/-- `none` if the sum inside overflows. -/
def canBackTask (self : Address) (timestamp : ℕ) (payout : ℕ) (riskTier : ℕ)
    (s : WithToken AgentUnderwriterPool τ) : Option Bool :=
  if s.contract.maxRiskTier ≠ 0 ∧ riskTier > s.contract.maxRiskTier then some false
  else if s.contract.maxCoveragePerTask ≠ 0 ∧ payout > s.contract.maxCoveragePerTask then some false
  else (s.contract.remainingEpochLossCapacity timestamp).map fun remaining =>
    if payout > remaining then false else decide (payout ≤ availableCapacity self s)

/-! ### Calls -/

/-- The calls of the pool. -/
abbrev PoolAction (τ : Type) : Type → Type := Call (WithToken AgentUnderwriterPool τ) PoolError

/-- Change the storage of the pool. -/
def store (f : AgentUnderwriterPool → AgentUnderwriterPool) : PoolAction τ Unit :=
  modify fun s => { s with contract := f s.contract }

def emit (env : Env) (event : PoolEvent) : PoolAction τ Unit :=
  store fun p => { p with logs := (env.timestamp, event) :: p.logs }

/-- Pay out of the pool. -/
def pay (self recipient : Address) (amount : ℕ) : PoolAction τ Unit := do
  let s ← get
  let token ← okOr (transfer self recipient amount s.token) .transferFailed
  modify fun s => { s with token }

variable (self : Address) (env : Env)

def onlyOwner : PoolAction τ Unit :=
  within (fun s => s.contract.ownable)
    (fun s o => { s with contract := { s.contract with ownable := o } }) .ownable
    (TwoStepOwnable.onlyOwner env)

def onlyAllocator : PoolAction τ Unit := do
  let s ← get
  revertIf (s.contract.isAllocator env.sender = false) (.notAllocator env.sender)

def setAllocator (allocator : Address) (authorized : Bool) : PoolAction τ Unit := do
  onlyOwner env
  revertIf (allocator = 0) .zeroAllocator
  store fun p => { p with isAllocator := update p.isAllocator allocator authorized }

def setPoolParameters (maxCoveragePerTask : ℕ) (maxRiskTier : UInt8) : PoolAction τ Unit := do
  onlyOwner env
  store fun p => { p with
    maxCoveragePerTask, maxRiskTier := maxRiskTier.toNat }

def setPoolRiskControls (epochDuration maxLossPerEpoch withdrawalCooldown : ℕ) :
    PoolAction τ Unit := do
  onlyOwner env
  revertIf (maxLossPerEpoch ≠ 0 ∧ epochDuration = 0) .invalidEpochDuration
  store fun p => { p with
    epochDuration, maxLossPerEpoch, withdrawalCooldown }

/-- The shares that a deposit mints. -/
def sharesFor (amount totalShares balanceBefore : ℕ) : PoolAction τ ℕ :=
  if totalShares < 1 then pure amount
  else do
    revertIf (balanceBefore < 1) .poolInvariantBroken
    let product ← okOr (mulChecked 256 amount totalShares) .panic
    pure (product / balanceBefore)

def deposit (amount : ℕ) : PoolAction τ Unit := do
  revertIf (amount = 0) .zeroAmount
  let s ← get
  let shares ← sharesFor amount s.contract.totalShares (balanceOf self s.token)
  let accountShares ← okOr (addChecked 256 (s.contract.sharesOf env.sender) shares) .panic
  let totalShares ← okOr (addChecked 256 s.contract.totalShares shares) .panic
  store fun p => { p with
    sharesOf := update p.sharesOf env.sender accountShares, totalShares }
  emit env (.deposited env.sender amount shares)
  let token ← okOr (transferFrom self env.sender self amount s.token) .transferFailed
  modify fun s => { s with token }

def requestWithdrawal : PoolAction τ Unit := do
  let s ← get
  revertIf (s.contract.sharesOf env.sender < 1) .zeroAmount
  let availableAt ← okOr (addChecked 256 env.timestamp s.contract.withdrawalCooldown) .panic
  store fun p => { p with
    withdrawalAvailableAt := update p.withdrawalAvailableAt env.sender availableAt }
  emit env (.withdrawalRequested env.sender availableAt)

/-- The test of the cooldown. -/
def cooldownOver (p : AgentUnderwriterPool) : PoolAction τ Unit :=
  if p.withdrawalCooldown ≠ 0 then
    revertIf (p.withdrawalAvailableAt env.sender < 1 ∨
      env.timestamp < p.withdrawalAvailableAt env.sender)
      (.withdrawalCooldownActive (p.withdrawalAvailableAt env.sender))
  else pure ()

def withdraw (shares : ℕ) : PoolAction τ Unit := do
  revertIf (shares = 0) .zeroAmount
  let s ← get
  cooldownOver env s.contract
  let accountShares := s.contract.sharesOf env.sender
  revertIf (accountShares < shares) (.insufficientUnlockedLiquidity shares accountShares)
  let product ← okOr (mulChecked 256 (balanceOf self s.token) shares) .panic
  revertIf (s.contract.totalShares = 0) .panic
  let amount := product / s.contract.totalShares
  let unlocked := availableCapacity self s
  revertIf (amount > unlocked) (.insufficientUnlockedLiquidity amount unlocked)
  let totalShares ← okOr (subChecked s.contract.totalShares shares) .panic
  store fun p => { p with
    sharesOf := update p.sharesOf env.sender (accountShares - shares)
    totalShares }
  emit env (.withdrawn env.sender amount shares)
  pay self env.sender amount

def lockCoverage (taskId : Bytes32) (amount : ℕ) : PoolAction τ Unit := do
  onlyAllocator env
  revertIf (taskId = 0) (.coverageNotLocked taskId)
  revertIf (amount = 0) .zeroAmount
  let s ← get
  let p := s.contract
  revertIf (p.lockedByTask taskId ≠ 0) (.coverageAlreadyLocked taskId)
  revertIf (p.maxCoveragePerTask ≠ 0 ∧ amount > p.maxCoveragePerTask)
    (.coverageExceedsCap amount p.maxCoveragePerTask)
  let available := availableCapacity self s
  revertIf (amount > available) (.insufficientAvailableCapacity amount available)
  let epochRemaining ← okOr (p.remainingEpochLossCapacity env.timestamp) .panic
  revertIf (amount > epochRemaining)
    (.claimExceedsEpochCap amount epochRemaining (p.currentEpoch env.timestamp))
  let totalLocked ← okOr (addChecked 256 p.totalLocked amount) .panic
  let totalAllocated ← okOr (addChecked 256 p.totalAllocated amount) .panic
  store fun p => { p with
    lockedByTask := update p.lockedByTask taskId amount
    totalLocked, totalAllocated }
  emit env (.coverageLocked taskId amount)

/-- Forget the coverage of a task. -/
def unlock (taskId : Bytes32) (locked : ℕ) : PoolAction τ Unit := do
  let s ← get
  let totalLocked ← okOr (subChecked s.contract.totalLocked locked) .panic
  let totalAllocated ← okOr (subChecked s.contract.totalAllocated locked) .panic
  store fun p => { p with
    lockedByTask := update p.lockedByTask taskId 0
    totalLocked, totalAllocated }

def releaseForTask (taskId : Bytes32) : PoolAction τ ℕ := do
  onlyAllocator env
  let s ← get
  let released := s.contract.lockedByTask taskId
  revertIf (released = 0) (.coverageNotLocked taskId)
  unlock taskId released
  emit env (.coverageReleased taskId released)
  pure released

/-- The loss is booked in its epoch, within the limit. -/
def bookLoss (paid : ℕ) : PoolAction τ Unit := do
  let s ← get
  let p := s.contract
  if p.maxLossPerEpoch ≠ 0 ∧ paid > 0 then
    let epoch := p.currentEpoch env.timestamp
    let paidThisEpoch := p.lossPaidByEpoch epoch
    let remaining :=
      if paidThisEpoch ≥ p.maxLossPerEpoch then 0 else p.maxLossPerEpoch - paidThisEpoch
    revertIf (paid > remaining) (.claimExceedsEpochCap paid remaining epoch)
    let booked ← okOr (addChecked 256 paidThisEpoch paid) .panic
    store fun p => { p with lossPaidByEpoch := update p.lossPaidByEpoch epoch booked }
  else pure ()

/-- Coverage that is not paid out is released. -/
def emitRest (taskId : Bytes32) (locked paid : ℕ) : PoolAction τ Unit :=
  if locked > paid then emit env (.coverageReleased taskId (locked - paid)) else pure ()

/-- Nothing is transferred when nothing is paid. -/
def payPositive (recipient : Address) (paid : ℕ) : PoolAction τ Unit :=
  if paid > 0 then pay self recipient paid else pure ()

def payClaim (taskId : Bytes32) (recipient : Address) (amount : ℕ) (reason : Bytes32) :
    PoolAction τ ℕ := do
  onlyAllocator env
  let s ← get
  let locked := s.contract.lockedByTask taskId
  revertIf (locked = 0) (.coverageNotLocked taskId)
  revertIf (recipient = 0) .zeroAllocator
  let paid := if amount > locked then locked else amount
  bookLoss env paid
  unlock taskId locked
  emit env (.claimPaid taskId recipient reason paid)
  emitRest env taskId locked paid
  payPositive self recipient paid
  pure paid

/-- The calls of the pool, as messages. -/
inductive Msg where
  | ownership (call : OwnableCall)
  | setAllocator (allocator : Address) (authorized : Bool)
  | setPoolParameters (maxCoveragePerTask : Uint256) (maxRiskTier : UInt8)
  | setPoolRiskControls (epochDuration maxLossPerEpoch withdrawalCooldown : Uint256)
  | deposit (amount : Uint256)
  | requestWithdrawal
  | withdraw (shares : Uint256)
  | lockCoverage (taskId : Bytes32) (amount : Uint256)
  | releaseForTask (taskId : Bytes32)
  | payClaim (taskId : Bytes32) (recipient : Address) (amount : Uint256) (reason : Bytes32)

def call : Msg → PoolAction τ Unit
  | .ownership c =>
    within (fun s => s.contract.ownable)
      (fun s o => { s with contract := { s.contract with ownable := o } }) .ownable
      (TwoStepOwnable.call env c)
  | .setAllocator allocator authorized => setAllocator env allocator authorized
  | .setPoolParameters maxCoveragePerTask maxRiskTier =>
    setPoolParameters env maxCoveragePerTask maxRiskTier
  | .setPoolRiskControls epochDuration maxLossPerEpoch withdrawalCooldown =>
    setPoolRiskControls env epochDuration maxLossPerEpoch withdrawalCooldown
  | .deposit amount => deposit self env amount
  | .requestWithdrawal => requestWithdrawal env
  | .withdraw shares => withdraw self env shares
  | .lockCoverage taskId amount => lockCoverage self env taskId amount
  | .releaseForTask taskId => do let _ ← releaseForTask env taskId
  | .payClaim taskId recipient amount reason => do
      let _ ← payClaim self env taskId recipient amount reason

/-! ### What a returning call did -/

section accepted

variable {self env} {s s' : WithToken AgentUnderwriterPool τ} {u : Unit} {a recipient : Address}
  {amount paid shares : ℕ} {taskId : Bytes32} {msg : Msg}

section storage

omit [ERC20SettlementToken τ]

@[simp] theorem store_ok {f : AgentUnderwriterPool → AgentUnderwriterPool} :
    (store f : PoolAction τ Unit) s = .ok (u, s') ↔ s' = { s with contract := f s.contract } :=
  modify_ok

@[simp] theorem emit_ok {event : PoolEvent} : (emit env event : PoolAction τ Unit) s = .ok (u, s') ↔
    s' = { s with
      contract := { s.contract with logs := (env.timestamp, event) :: s.contract.logs } } := by
  simp [emit]

attribute [simp] pay onlyOwner onlyAllocator

theorem releaseForTask_ok {released : ℕ} :
    (releaseForTask env taskId : PoolAction τ ℕ) s = .ok (released, s') ↔
      s.contract.isAllocator env.sender = true ∧ released = s.contract.lockedByTask taskId ∧
      released ≠ 0 ∧ released ≤ s.contract.totalLocked ∧ released ≤ s.contract.totalAllocated ∧
      s' = { s with contract := { s.contract with
        lockedByTask := update s.contract.lockedByTask taskId 0
        totalLocked := s.contract.totalLocked - released
        totalAllocated := s.contract.totalAllocated - released
        logs := (env.timestamp, .coverageReleased taskId released) :: s.contract.logs } } := by
  simp only [releaseForTask, unlock, bind_ok, onlyAllocator, get_ok, revertIf_ok, okOr_ok,
    subChecked_eq_some, store_ok, emit_ok, pure_ok, exists_and_left, exists_eq_left, and_assoc,
    exists_const, exists_eq_left']
  grind

/-- The losses after a payment. -/
def lossAfter (p : AgentUnderwriterPool) (timestamp paid : ℕ) : ℕ → ℕ :=
  if p.maxLossPerEpoch ≠ 0 ∧ paid > 0 then
    update p.lossPaidByEpoch (p.currentEpoch timestamp)
      (p.lossPaidByEpoch (p.currentEpoch timestamp) + paid)
  else p.lossPaidByEpoch

/-- The payment fits the epoch. -/
def FitsEpoch (p : AgentUnderwriterPool) (timestamp paid : ℕ) : Prop :=
  p.maxLossPerEpoch ≠ 0 ∧ paid > 0 →
    p.lossPaidByEpoch (p.currentEpoch timestamp) + paid ≤ p.maxLossPerEpoch ∧
      p.lossPaidByEpoch (p.currentEpoch timestamp) + paid < 2 ^ 256

theorem bookLoss_ok : (bookLoss env paid : PoolAction τ Unit) s = .ok (u, s') ↔
    s.contract.FitsEpoch env.timestamp paid ∧
      s' = { s with contract := { s.contract with
        lossPaidByEpoch := s.contract.lossAfter env.timestamp paid } } := by
  simp only [bookLoss, bind_ok, get_ok, exists_eq_left, and_assoc, exists_and_left]
  by_cases hc : s.contract.maxLossPerEpoch ≠ 0 ∧ paid > 0
  · rw [if_pos hc, FitsEpoch, lossAfter, if_pos hc, forall_prop_of_true hc, and_assoc]
    simp only [bind_ok, revertIf_ok, okOr_ok, addChecked_eq_some, store_ok, exists_and_left,
      exists_eq_left, and_assoc, exists_const, exists_eq_left', not_lt]
    refine and_congr ?_ Iff.rfl
    split_ifs <;> omega
  · rw [if_neg hc, FitsEpoch, lossAfter, if_neg hc]
    simp [hc]

theorem emitRest_ok {locked : ℕ} :
    (emitRest env taskId locked paid : PoolAction τ Unit) s = .ok (u, s') ↔
      s' = { s with contract := { s.contract with
        logs := (if locked > paid then [(env.timestamp, .coverageReleased taskId (locked - paid))]
          else []) ++ s.contract.logs } } := by
  unfold emitRest
  split_ifs <;> simp

/-- The deposit of `amount` mints `shares`. -/
def Mints (amount totalShares balanceBefore shares : ℕ) : Prop :=
  if totalShares < 1 then shares = amount
  else 1 ≤ balanceBefore ∧ amount * totalShares < 2 ^ 256 ∧
    shares = amount * totalShares / balanceBefore

theorem sharesFor_ok {totalShares balanceBefore : ℕ} :
    (sharesFor amount totalShares balanceBefore : PoolAction τ ℕ) s = .ok (shares, s') ↔
      Mints amount totalShares balanceBefore shares ∧ s' = s := by
  unfold sharesFor Mints
  split_ifs
  · simp
  · simp [and_assoc]
    omega

/-- The account may withdraw at this time. -/
def CooledDown (p : AgentUnderwriterPool) (timestamp : ℕ) (provider : Address) : Prop :=
  p.withdrawalCooldown ≠ 0 →
    p.withdrawalAvailableAt provider ≠ 0 ∧ p.withdrawalAvailableAt provider ≤ timestamp

theorem cooldownOver_ok {p : AgentUnderwriterPool} :
    (cooldownOver env p : PoolAction τ Unit) s = .ok (u, s') ↔
      p.CooledDown env.timestamp env.sender ∧ s' = s := by
  unfold cooldownOver CooledDown
  split_ifs with hc
  · simp [hc]
  · simp [hc]

end storage

theorem lockCoverage_ok :
    (lockCoverage self env taskId amount : PoolAction τ Unit) s = .ok (u, s') ↔
      s.contract.isAllocator env.sender = true ∧ taskId ≠ 0 ∧ amount ≠ 0 ∧
      s.contract.lockedByTask taskId = 0 ∧
      (s.contract.maxCoveragePerTask ≠ 0 → amount ≤ s.contract.maxCoveragePerTask) ∧
      amount ≤ availableCapacity self s ∧
      (∃ remaining, s.contract.remainingEpochLossCapacity env.timestamp = some remaining ∧
        amount ≤ remaining) ∧
      s.contract.totalLocked + amount < 2 ^ 256 ∧ s.contract.totalAllocated + amount < 2 ^ 256 ∧
      s' = { s with contract := { s.contract with
        lockedByTask := update s.contract.lockedByTask taskId amount
        totalLocked := s.contract.totalLocked + amount
        totalAllocated := s.contract.totalAllocated + amount
        logs := (env.timestamp, .coverageLocked taskId amount) :: s.contract.logs } } := by
  simp [lockCoverage, and_assoc]
  tauto

/-- What a claim writes to the log. -/
def claimLogs (timestamp : ℕ) (taskId : Bytes32) (recipient : Address) (reason : Bytes32)
    (locked paid : ℕ) : List (ℕ × PoolEvent) :=
  (if locked > paid then [(timestamp, .coverageReleased taskId (locked - paid))] else []) ++
    [(timestamp, .claimPaid taskId recipient reason paid)]

/-- The token after a payment, if there is something to pay. -/
def PaidFrom (self recipient : Address) (paid : ℕ) (token token' : τ) : Prop :=
  if paid > 0 then transfer self recipient paid token = some token' else token' = token

theorem payPositive_ok :
    (payPositive self recipient paid : PoolAction τ Unit) s = .ok (u, s') ↔
      ∃ token, PaidFrom self recipient paid s.token token ∧ s' = { s with token } := by
  unfold payPositive PaidFrom
  split_ifs <;> simp

/-- The pool after the payment of a claim. -/
def afterClaim (p : AgentUnderwriterPool) (timestamp : ℕ) (taskId : Bytes32) (recipient : Address)
    (reason : Bytes32) (paid : ℕ) : AgentUnderwriterPool :=
  { p with
    lossPaidByEpoch := p.lossAfter timestamp paid
    lockedByTask := update p.lockedByTask taskId 0
    totalLocked := p.totalLocked - p.lockedByTask taskId
    totalAllocated := p.totalAllocated - p.lockedByTask taskId
    logs := claimLogs timestamp taskId recipient reason (p.lockedByTask taskId) paid ++ p.logs }

theorem payClaim_ok {reason : Bytes32} :
    (payClaim self env taskId recipient amount reason : PoolAction τ ℕ) s = .ok (paid, s') ↔
      paid = min amount (s.contract.lockedByTask taskId) ∧
      s.contract.isAllocator env.sender = true ∧ s.contract.lockedByTask taskId ≠ 0 ∧
      recipient ≠ 0 ∧ s.contract.FitsEpoch env.timestamp paid ∧
      s.contract.lockedByTask taskId ≤ s.contract.totalLocked ∧
      s.contract.lockedByTask taskId ≤ s.contract.totalAllocated ∧
      ∃ token, PaidFrom self recipient paid s.token token ∧
        s' = ⟨s.contract.afterClaim env.timestamp taskId recipient reason paid, token⟩ := by
  have hmin : (if amount > s.contract.lockedByTask taskId then s.contract.lockedByTask taskId
      else amount) = min amount (s.contract.lockedByTask taskId) := by
    split_ifs <;> omega
  simp only [payClaim, unlock, bind_ok, onlyAllocator, get_ok, revertIf_ok, okOr_ok,
    subChecked_eq_some, store_ok, emit_ok, pure_ok, bookLoss_ok, emitRest_ok, payPositive_ok,
    exists_and_left, exists_eq_left, and_assoc, exists_const, exists_eq_left', hmin, afterClaim,
    claimLogs, List.append_assoc, List.cons_append, List.nil_append]
  grind

/-- The pool after a deposit. -/
def afterDeposit (p : AgentUnderwriterPool) (timestamp : ℕ) (provider : Address)
    (amount shares : ℕ) : AgentUnderwriterPool :=
  { p with
    sharesOf := update p.sharesOf provider (p.sharesOf provider + shares)
    totalShares := p.totalShares + shares
    logs := (timestamp, .deposited provider amount shares) :: p.logs }

/-- The pool after a request. -/
def afterRequest (p : AgentUnderwriterPool) (timestamp : ℕ) (provider : Address) :
    AgentUnderwriterPool :=
  { p with
    withdrawalAvailableAt := update p.withdrawalAvailableAt provider
      (timestamp + p.withdrawalCooldown)
    logs := (timestamp, .withdrawalRequested provider (timestamp + p.withdrawalCooldown)) ::
      p.logs }

/-- What a withdrawal pays. -/
def withdrawnAmount (self : Address) (s : WithToken AgentUnderwriterPool τ) (shares : ℕ) : ℕ :=
  balanceOf self s.token * shares / s.contract.totalShares

/-- The pool after a withdrawal. -/
def afterWithdraw (p : AgentUnderwriterPool) (timestamp : ℕ) (provider : Address)
    (amount shares : ℕ) : AgentUnderwriterPool :=
  { p with
    sharesOf := update p.sharesOf provider (p.sharesOf provider - shares)
    totalShares := p.totalShares - shares
    logs := (timestamp, .withdrawn provider amount shares) :: p.logs }

/-! Only allocators touch the coverage of tasks, and only the pool and the caller pay. -/

/-- The task whose coverage an event is about. -/
def coveredTask : PoolEvent → Option Bytes32
  | .coverageLocked taskId _ => some taskId
  | .coverageReleased taskId _ => some taskId
  | .claimPaid taskId _ _ _ => some taskId
  | _ => none

/-- The events about the coverage of a task. -/
def coverageLog (p : AgentUnderwriterPool) (taskId : Bytes32) : List (ℕ × PoolEvent) :=
  p.logs.filter fun event => coveredTask event.2 = some taskId

/-- The coverage of all tasks is the same. -/
structure SameCoverage (p p' : AgentUnderwriterPool) : Prop where
  lockedByTask : p'.lockedByTask = p.lockedByTask
  totalLocked : p'.totalLocked = p.totalLocked
  totalAllocated : p'.totalAllocated = p.totalAllocated
  coverageLog : p'.coverageLog = p.coverageLog

theorem PaidFrom.tokenCall {token token' : τ} (h : PaidFrom self recipient paid token token')
    (caller : Address) : TokenCall self caller token token' := by
  unfold PaidFrom at h
  split_ifs at h
  · exact .push h
  · exact .none h

/-- What an accepted call does to a pool. -/
inductive PoolEffect (self : Address) (env : Env) (s : WithToken AgentUnderwriterPool τ) :
    Msg → WithToken AgentUnderwriterPool τ → Prop
  | administered {msg : Msg} {ownable : TwoStepOwnable} {isAllocator : Address → Bool}
      {maxCoveragePerTask maxRiskTier : ℕ}
      (hallocators : ∀ a, isAllocator a = s.contract.isAllocator a ∨
        msg = .setAllocator a (isAllocator a)) :
      PoolEffect self env s msg { s with contract := { s.contract with
        ownable, isAllocator, maxCoveragePerTask, maxRiskTier } }
  | controlled {epochDuration maxLossPerEpoch withdrawalCooldown : Uint256} :
      PoolEffect self env s (.setPoolRiskControls epochDuration maxLossPerEpoch withdrawalCooldown)
        { s with contract := { s.contract with
          epochDuration, maxLossPerEpoch, withdrawalCooldown } }
  | deposited {amount : Uint256} {shares : ℕ} {token : τ} (hamount : amount.val ≠ 0)
      (hmints : Mints amount s.contract.totalShares (balanceOf self s.token) shares)
      (htransfer : transferFrom self env.sender self amount s.token = some token) :
      PoolEffect self env s (.deposit amount)
        ⟨s.contract.afterDeposit env.timestamp env.sender amount shares, token⟩
  | requested : PoolEffect self env s .requestWithdrawal
      { s with contract := s.contract.afterRequest env.timestamp env.sender }
  | withdrawn {shares : Uint256} {token : τ} (hsupply : s.contract.totalShares ≠ 0)
      (hcooled : s.contract.CooledDown env.timestamp env.sender)
      (hshares : shares ≤ s.contract.sharesOf env.sender)
      (havailable : withdrawnAmount self s shares ≤ availableCapacity self s)
      (htransfer : transfer self env.sender (withdrawnAmount self s shares) s.token = some token) :
      PoolEffect self env s (.withdraw shares) ⟨s.contract.afterWithdraw env.timestamp env.sender
        (withdrawnAmount self s shares) shares, token⟩
  | locked {taskId : Bytes32} {amount : Uint256} {s' : WithToken AgentUnderwriterPool τ}
      (hlock : lockCoverage self env taskId amount s = .ok ((), s')) :
      PoolEffect self env s (.lockCoverage taskId amount) s'
  | released {taskId : Bytes32} {released : ℕ} {s' : WithToken AgentUnderwriterPool τ}
      (hrelease : releaseForTask env taskId s = .ok (released, s')) :
      PoolEffect self env s (.releaseForTask taskId) s'
  | claimed {taskId reason : Bytes32} {recipient : Address} {amount : Uint256} {paid : ℕ}
      {s' : WithToken AgentUnderwriterPool τ}
      (hclaim : payClaim self env taskId recipient amount reason s = .ok (paid, s')) :
      PoolEffect self env s (.payClaim taskId recipient amount reason) s'

theorem effect_of_call (h : call self env msg s = .ok (u, s')) : PoolEffect self env s msg s' := by
  cases msg with
  | ownership c =>
    simp [call] at h
    obtain ⟨o, -, rfl⟩ := h
    exact .administered fun _ => .inl rfl
  | setAllocator allocator authorized =>
    simp [call, setAllocator] at h
    obtain ⟨-, -, rfl⟩ := h
    refine .administered fun a => ?_
    by_cases ha : a = allocator
    · subst ha
      exact .inr (by simp only [update_self])
    · exact .inl (update_of_ne ha _ _)
  | setPoolParameters cap tier =>
    simp [call, setPoolParameters] at h
    obtain ⟨-, rfl⟩ := h
    exact .administered fun _ => .inl rfl
  | setPoolRiskControls duration maxLoss cooldown =>
    simp [call, setPoolRiskControls] at h
    obtain ⟨-, -, rfl⟩ := h
    exact .controlled
  | deposit amount =>
    simp [call, deposit, sharesFor_ok] at h
    obtain ⟨hamount, shares, hmints, -, -, token, htransfer, rfl⟩ := h
    exact .deposited (by simpa using hamount) hmints htransfer
  | requestWithdrawal =>
    simp [call, requestWithdrawal] at h
    obtain ⟨-, -, rfl⟩ := h
    exact .requested
  | withdraw shares =>
    simp [call, withdraw, cooldownOver_ok] at h
    obtain ⟨-, hcooled, hshares, -, hsupply, havailable, -, token, htransfer, rfl⟩ := h
    exact .withdrawn hsupply hcooled hshares havailable htransfer
  | lockCoverage taskId amount => exact .locked h
  | releaseForTask taskId =>
    simp [call] at h
    obtain ⟨released, h⟩ := h
    exact .released h
  | payClaim taskId recipient amount reason =>
    simp [call] at h
    obtain ⟨paid, h⟩ := h
    exact .claimed h

/-- Only an allocator changes the coverage. -/
theorem PoolEffect.frame {s s' : WithToken AgentUnderwriterPool τ} (h : PoolEffect self env s msg s')
    (hnot : s.contract.isAllocator env.sender = false) : SameCoverage s.contract s'.contract ∧
      ∀ a, s'.contract.isAllocator a = s.contract.isAllocator a ∨
        msg = .setAllocator a (s'.contract.isAllocator a) := by
  have hallocator {p : Prop} (hall : s.contract.isAllocator env.sender = true) : p := by
    rw [hnot] at hall
    cases hall
  cases h with
  | administered hallocators => exact ⟨⟨rfl, rfl, rfl, rfl⟩, hallocators⟩
  | controlled | requested | deposited | withdrawn =>
    exact ⟨⟨rfl, rfl, rfl, rfl⟩, fun _ => .inl rfl⟩
  | locked hlock => exact hallocator (lockCoverage_ok.mp hlock).1
  | released hrelease => exact hallocator (releaseForTask_ok.mp hrelease).1
  | claimed hclaim => exact hallocator (payClaim_ok.mp hclaim).2.1

theorem PoolEffect.token {s s' : WithToken AgentUnderwriterPool τ} (h : PoolEffect self env s msg s') :
    TokenCall self env.sender s.token s'.token := by
  cases h with
  | administered | controlled | requested => exact .none rfl
  | deposited _ _ htransfer => exact .pull htransfer
  | withdrawn _ _ _ _ htransfer => exact .push htransfer
  | locked hlock =>
    obtain ⟨-, -, -, -, -, -, -, -, -, rfl⟩ := lockCoverage_ok.mp hlock
    exact .none rfl
  | released hrelease =>
    obtain ⟨-, -, -, -, -, rfl⟩ := releaseForTask_ok.mp hrelease
    exact .none rfl
  | claimed hclaim =>
    obtain ⟨-, -, -, -, -, -, -, token, hpaid, rfl⟩ := payClaim_ok.mp hclaim
    exact hpaid.tokenCall _

end accepted

end AgentUnderwriterPool

end FlowMemory.AgentBonds
