import Mathlib.Algebra.Order.BigOperators.Group.Finset
import FlowMemory.Lib.Tally
import FlowMemory.AgentBonds.Basic

/-! # The task escrow

The escrow holds the tokens of the tasks.  Its manager locks tokens for a task and later splits
what is locked into **payments**: a payment credits an account, which withdraws the tokens itself,
or the reserve of the owner.  An amount of zero is refused.

The tokens that the escrow owes are the locked, the credited and the reserved ones.  Payments only
move them between the three (`Distributed`). -/

namespace FlowMemory.AgentBonds

open Call ERC20SettlementToken Function

inductive EscrowEvent where
  | locked (taskId : Bytes32) (payer : Address) (amount : ℕ)
  | released (taskId : Bytes32) (account : Address) (amount : ℕ)
  | reserved (taskId : Bytes32) (amount : ℕ)
  | withdrawn (account : Address) (amount : ℕ)
  | reserveWithdrawn (account : Address) (amount : ℕ)

/-- The storage of the escrow, and its log, the newest entry first. -/
structure TaskBondEscrow where
  ownable : TwoStepOwnable
  manager : Address
  reserveBalance : ℕ
  lockedByTask : Bytes32 → ℕ
  withdrawable : Address → ℕ
  logs : List EscrowEvent

inductive EscrowError where
  | ownable (e : OwnableError)
  | notManager (caller : Address)
  | zeroManager
  | zeroTaskId
  | zeroAccount
  | zeroAmount
  | insufficientLocked (taskId : Bytes32) (available requested : ℕ)
  | insufficientReserve (available requested : ℕ)
  | transferFailed
  | panic

namespace TaskBondEscrow

/-- The escrow after its constructor. -/
def deployed (initialOwner : Address) : TaskBondEscrow where
  ownable := ⟨initialOwner, 0⟩
  manager := 0
  reserveBalance := 0
  lockedByTask := fun _ => 0
  withdrawable := fun _ => 0
  logs := []

variable {τ : Type} [ERC20SettlementToken τ]

/-! ### Calls -/

/-- The calls that do not use the token. -/
abbrev EscrowAction : Type → Type := Call TaskBondEscrow EscrowError

abbrev EscrowTokenAction (τ : Type) : Type → Type := Call (WithToken TaskBondEscrow τ) EscrowError

variable (self : Address) (env : Env)

def onlyOwner : EscrowAction Unit :=
  within TaskBondEscrow.ownable (fun e o => { e with ownable := o }) .ownable
    (TwoStepOwnable.onlyOwner env)

def onlyManager : EscrowAction Unit := do
  let e ← get
  revertIf (env.sender ≠ e.manager) (.notManager env.sender)

def setManager (manager : Address) : EscrowAction Unit := do
  onlyOwner env
  revertIf (manager = 0) .zeroManager
  modify fun e => { e with manager }

def emit (event : EscrowEvent) : EscrowAction Unit :=
  modify fun e => { e with logs := event :: e.logs }

def lockFrom (taskId : Bytes32) (payer : Address) (amount : ℕ) : EscrowTokenAction τ Unit := do
  inContract (onlyManager env)
  revertIf (taskId = 0) .zeroTaskId
  revertIf (payer = 0) .zeroAccount
  revertIf (amount = 0) .zeroAmount
  let s ← get
  let locked ← okOr (addChecked 256 (s.contract.lockedByTask taskId) amount) .panic
  inContract (modify fun e => { e with
    lockedByTask := update e.lockedByTask taskId locked })
  inContract (emit (.locked taskId payer amount))
  let token ← okOr (transferFrom self payer self amount s.token) .transferFailed
  modify fun s => { s with token }

def decreaseLocked (taskId : Bytes32) (amount : ℕ) : EscrowAction Unit := do
  revertIf (taskId = 0) .zeroTaskId
  revertIf (amount = 0) .zeroAmount
  let e ← get
  let locked := e.lockedByTask taskId
  revertIf (locked < amount) (.insufficientLocked taskId locked amount)
  modify fun e => { e with
    lockedByTask := update e.lockedByTask taskId (locked - amount) }

def releaseTo (taskId : Bytes32) (account : Address) (amount : ℕ) : EscrowAction Unit := do
  onlyManager env
  decreaseLocked taskId amount
  revertIf (account = 0) .zeroAccount
  let e ← get
  let credited ← okOr (addChecked 256 (e.withdrawable account) amount) .panic
  modify fun e => { e with withdrawable := update e.withdrawable account credited }
  emit (.released taskId account amount)

def moveToReserve (taskId : Bytes32) (amount : ℕ) : EscrowAction Unit := do
  onlyManager env
  decreaseLocked taskId amount
  let e ← get
  let reserve ← okOr (addChecked 256 e.reserveBalance amount) .panic
  modify fun e => { e with reserveBalance := reserve }
  emit (.reserved taskId amount)

/-- Pay out of the escrow. -/
def send (recipient : Address) (amount : ℕ) : EscrowTokenAction τ Unit := do
  let s ← get
  let token ← okOr (transfer self recipient amount s.token) .transferFailed
  modify fun s => { s with token }

def withdraw : EscrowTokenAction τ Unit := do
  let s ← get
  let amount := s.contract.withdrawable env.sender
  revertIf (amount = 0) .zeroAmount
  inContract (modify fun e => { e with
    withdrawable := update e.withdrawable env.sender 0 })
  inContract (emit (.withdrawn env.sender amount))
  send self env.sender amount

def withdrawReserve (account : Address) (amount : ℕ) : EscrowTokenAction τ Unit := do
  inContract (onlyOwner env)
  revertIf (account = 0) .zeroAccount
  revertIf (amount = 0) .zeroAmount
  let s ← get
  let reserve := s.contract.reserveBalance
  revertIf (reserve < amount) (.insufficientReserve reserve amount)
  inContract (modify fun e => { e with reserveBalance := reserve - amount })
  inContract (emit (.reserveWithdrawn account amount))
  send self account amount

/-- The calls of the escrow, as messages. -/
inductive Msg where
  | ownership (call : OwnableCall)
  | setManager (manager : Address)
  | lockFrom (taskId : Bytes32) (payer : Address) (amount : Uint256)
  | releaseTo (taskId : Bytes32) (account : Address) (amount : Uint256)
  | moveToReserve (taskId : Bytes32) (amount : Uint256)
  | withdraw
  | withdrawReserve (account : Address) (amount : Uint256)

def call : Msg → EscrowTokenAction τ Unit
  | .ownership c =>
    inContract (within TaskBondEscrow.ownable (fun e o => { e with ownable := o }) .ownable
      (TwoStepOwnable.call env c))
  | .setManager manager => inContract (setManager env manager)
  | .lockFrom taskId payer amount => lockFrom self env taskId payer amount
  | .releaseTo taskId account amount => inContract (releaseTo env taskId account amount)
  | .moveToReserve taskId amount => inContract (moveToReserve env taskId amount)
  | .withdraw => withdraw self env
  | .withdrawReserve account amount => withdrawReserve self env account amount

/-! ### What a returning call did -/

section accepted

variable {self env} {e e' : TaskBondEscrow} {u : Unit} {amount : ℕ}

attribute [simp] onlyOwner onlyManager

@[simp] theorem emit_ok {event : EscrowEvent} : emit event e = .ok (u, e') ↔
    e' = { e with logs := event :: e.logs } :=
  modify_ok

@[simp] theorem send_ok {recipient : Address} {s s' : WithToken TaskBondEscrow τ} :
    (send self recipient amount : EscrowTokenAction τ Unit) s = .ok (u, s') ↔
      ∃ token, transfer self recipient amount s.token = some token ∧
        s' = ⟨s.contract, token⟩ := by
  simp [send, and_assoc]

/-- The escrow after tokens were locked. -/
def afterLock (e : TaskBondEscrow) (taskId : Bytes32) (payer : Address) (amount : ℕ) :
    TaskBondEscrow :=
  { e with
    lockedByTask := update e.lockedByTask taskId (e.lockedByTask taskId + amount)
    logs := .locked taskId payer amount :: e.logs }

theorem lockFrom_ok {taskId : Bytes32} {payer : Address} {s s' : WithToken TaskBondEscrow τ} :
    (lockFrom self env taskId payer amount : EscrowTokenAction τ Unit) s = .ok (u, s') ↔
      env.sender = s.contract.manager ∧ taskId ≠ 0 ∧ payer ≠ 0 ∧ amount ≠ 0 ∧
      s.contract.lockedByTask taskId + amount < 2 ^ 256 ∧
      ∃ token, transferFrom self payer self amount s.token = some token ∧
        s' = ⟨s.contract.afterLock taskId payer amount, token⟩ := by
  simp [lockFrom, afterLock, and_assoc]

/-- The escrow after a release. -/
def afterRelease (e : TaskBondEscrow) (taskId : Bytes32) (account : Address) (amount : ℕ) :
    TaskBondEscrow :=
  { e with
    lockedByTask := update e.lockedByTask taskId (e.lockedByTask taskId - amount)
    withdrawable := update e.withdrawable account (e.withdrawable account + amount)
    logs := .released taskId account amount :: e.logs }

theorem releaseTo_ok {taskId : Bytes32} {account : Address} :
    releaseTo env taskId account amount e = .ok (u, e') ↔
      env.sender = e.manager ∧ taskId ≠ 0 ∧ amount ≠ 0 ∧ amount ≤ e.lockedByTask taskId ∧
      account ≠ 0 ∧ e.withdrawable account + amount < 2 ^ 256 ∧
      e' = e.afterRelease taskId account amount := by
  simp [releaseTo, decreaseLocked, afterRelease, and_assoc]

/-- The escrow after a move to the reserve. -/
def afterReserve (e : TaskBondEscrow) (taskId : Bytes32) (amount : ℕ) : TaskBondEscrow :=
  { e with
    lockedByTask := update e.lockedByTask taskId (e.lockedByTask taskId - amount)
    reserveBalance := e.reserveBalance + amount
    logs := .reserved taskId amount :: e.logs }

theorem moveToReserve_ok {taskId : Bytes32} :
    moveToReserve env taskId amount e = .ok (u, e') ↔
      env.sender = e.manager ∧ taskId ≠ 0 ∧ amount ≠ 0 ∧ amount ≤ e.lockedByTask taskId ∧
      e.reserveBalance + amount < 2 ^ 256 ∧ e' = e.afterReserve taskId amount := by
  simp [moveToReserve, decreaseLocked, afterReserve, and_assoc]

/-! ### Payments -/

/-- A payment out of what is locked for a task, to an account or to the reserve. -/
structure Payment where
  recipient : Option Address
  amount : ℕ

/-- What the payments take. -/
def Payment.total (payments : List Payment) : ℕ := (payments.map Payment.amount).sum

def pay (env : Env) (taskId : Bytes32) : Payment → EscrowAction Unit
  | ⟨some account, amount⟩ => releaseTo env taskId account amount
  | ⟨none, amount⟩ => moveToReserve env taskId amount

def payAll (env : Env) (taskId : Bytes32) : List Payment → EscrowAction Unit
  | [] => pure ()
  | payment :: rest => do
      pay env taskId payment
      payAll env taskId rest

/-- What accounts and the owner may withdraw. -/
def credited (e : TaskBondEscrow) : ℕ := ∑ a, e.withdrawable a + e.reserveBalance

/-- The amount `n` went from the task to accounts and to the reserve. -/
structure Distributed (e e' : TaskBondEscrow) (taskId : Bytes32) (n : ℕ) : Prop where
  le : n ≤ e.lockedByTask taskId
  locked : e'.lockedByTask = update e.lockedByTask taskId (e.lockedByTask taskId - n)
  credited : e'.credited = e.credited + n
  manager : e'.manager = e.manager

section payments

variable {taskId : Bytes32} {amount : ℕ} {payment : Payment} {rest : List Payment}

theorem Distributed.refl (e : TaskBondEscrow) (taskId : Bytes32) : Distributed e e taskId 0 where
  le := Nat.zero_le _
  locked := by simp
  credited := (Nat.add_zero _).symm
  manager := rfl

theorem Distributed.trans {e₁ e₂ e₃ : TaskBondEscrow} {n m : ℕ} (h : Distributed e₁ e₂ taskId n)
    (h' : Distributed e₂ e₃ taskId m) : Distributed e₁ e₃ taskId (n + m) where
  le := by
    have hle := h'.le
    rw [h.locked, update_self] at hle
    have := h.le
    omega
  locked := by
    rw [h'.locked, h.locked, update_self, update_idem, Nat.sub_sub]
  credited := by rw [h'.credited, h.credited, Nat.add_assoc]
  manager := h'.manager.trans h.manager

theorem distributed_release {account : Address} (hle : amount ≤ e.lockedByTask taskId) :
    Distributed e (e.afterRelease taskId account amount) taskId amount where
  le := hle
  locked := rfl
  credited := by
    have := sum_update e.withdrawable account (e.withdrawable account + amount)
    simp only [afterRelease, TaskBondEscrow.credited]
    omega
  manager := rfl

theorem distributed_reserve (hle : amount ≤ e.lockedByTask taskId) :
    Distributed e (e.afterReserve taskId amount) taskId amount where
  le := hle
  locked := rfl
  credited := (Nat.add_assoc _ _ _).symm
  manager := rfl

@[simp] theorem payAll_nil_ok : payAll env taskId [] e = .ok (u, e') ↔ e' = e := by
  simp [payAll]

@[simp] theorem payAll_cons_ok :
    payAll env taskId (payment :: rest) e = .ok (u, e') ↔
      ∃ e₁, pay env taskId payment e = .ok ((), e₁) ∧ payAll env taskId rest e₁ = .ok (u, e') := by
  rw [payAll, bind_ok, exists_unit]

@[simp] theorem payAll_append_ok {first : List Payment} :
    payAll env taskId (first ++ rest) e = .ok (u, e') ↔
      ∃ e₁, payAll env taskId first e = .ok ((), e₁) ∧
        payAll env taskId rest e₁ = .ok (u, e') := by
  induction first generalizing e with
  | nil => simp
  | cons p ps ih =>
    simp only [List.cons_append, payAll_cons_ok, ih]
    tauto

/-- A payment that is left out when it is zero. -/
def Payment.optional (recipient : Option Address) (amount : ℕ) : List Payment :=
  if amount > 0 then [⟨recipient, amount⟩] else []

theorem Payment.total_optional (recipient : Option Address) (amount : ℕ) :
    Payment.total (Payment.optional recipient amount) = amount := by
  unfold Payment.optional
  split_ifs with h
  · rfl
  · exact (Nat.eq_zero_of_not_pos h).symm

theorem Payment.total_nil : Payment.total [] = 0 := rfl

theorem Payment.total_cons (first : Payment) (rest : List Payment) :
    Payment.total (first :: rest) = first.amount + Payment.total rest := rfl

theorem Payment.total_append (first rest : List Payment) :
    Payment.total (first ++ rest) = Payment.total first + Payment.total rest := by
  simp [Payment.total]

theorem pay_distributed (h : pay env taskId payment e = .ok (u, e')) :
    Distributed e e' taskId payment.amount ∧ payment.amount ≠ 0 := by
  obtain ⟨recipient, amount⟩ := payment
  cases recipient with
  | none =>
    obtain ⟨-, -, hne, hle, -, rfl⟩ := moveToReserve_ok.mp h
    exact ⟨distributed_reserve hle, hne⟩
  | some account =>
    obtain ⟨-, -, hne, hle, -, -, rfl⟩ := releaseTo_ok.mp h
    exact ⟨distributed_release hle, hne⟩

theorem payAll_distributed {payments : List Payment}
    (h : payAll env taskId payments e = .ok (u, e')) :
    Distributed e e' taskId (Payment.total payments) ∧ ∀ p ∈ payments, p.amount ≠ 0 := by
  induction payments generalizing e with
  | nil =>
    obtain ⟨-, rfl⟩ := pure_ok.mp h
    exact ⟨.refl e' taskId, by simp⟩
  | cons p rest ih =>
    obtain ⟨u', e₁, hp, hrest⟩ := bind_ok.mp h
    obtain ⟨hd, hne⟩ := pay_distributed hp
    obtain ⟨hds, hnes⟩ := ih hrest
    exact ⟨hd.trans hds, List.forall_mem_cons.mpr ⟨hne, hnes⟩⟩

end payments

/-! ### Moves -/

/-- The amount `inc` came in for the task and the amount `out` was distributed. -/
structure Move (e e' : TaskBondEscrow) (taskId : Bytes32) (inc out : ℕ) : Prop where
  le : out ≤ e.lockedByTask taskId + inc
  locked : e'.lockedByTask =
    update e.lockedByTask taskId (e.lockedByTask taskId + inc - out)
  credited : e'.credited = e.credited + out
  manager : e'.manager = e.manager

theorem Distributed.move {taskId : Bytes32} {n : ℕ} (h : Distributed e e' taskId n) :
    Move e e' taskId 0 n :=
  ⟨h.le, h.locked, h.credited, h.manager⟩

theorem Move.refl (e : TaskBondEscrow) (taskId : Bytes32) : Move e e taskId 0 0 :=
  (Distributed.refl e taskId).move

theorem Move.lock (e : TaskBondEscrow) (taskId : Bytes32) (payer : Address) (amount : ℕ) :
    Move e (e.afterLock taskId payer amount) taskId amount 0 where
  le := Nat.zero_le _
  locked := rfl
  credited := (Nat.add_zero _).symm
  manager := rfl

end accepted

end TaskBondEscrow

end FlowMemory.AgentBonds
