import Mathlib.Data.Fintype.BigOperators
import Mathlib.Logic.Function.Basic
import FlowMemory.Lib.Revert

/-! # Accounts, ownership and settlement tokens

What the contracts share: addresses and words, the sender and the time of a call, two-step
ownership, and the token interface.

**Numbers.**  Integers are natural numbers, and every sum, difference and product is checked
where the compiler checks it, with the width of its type.  Where they enter the system as
arguments of a message they have the fixed-width type.

**Tokens.**  The token contracts are not part of the system: `ERC20SettlementToken` is their
interface, with `none` for a call that fails, by returning false or by reverting.
`ExactTransfers` says that a token moves exactly the amounts it is asked to move. -/

namespace FlowMemory.AgentBonds

open Function

abbrev Address : Type := Fin (2 ^ 160)

abbrev Bytes32 : Type := Fin (2 ^ 256)

abbrev Uint256 : Type := Fin (2 ^ 256)

instance address_neZero : NeZero (2 ^ 160) := ⟨by decide⟩

instance word_neZero : NeZero (2 ^ 256) := ⟨by decide⟩

/-- The sender of a call and the timestamp of the block. -/
structure Env where
  sender : Address
  timestamp : ℕ

/-! ### Two-step ownership -/

structure TwoStepOwnable where
  (owner pendingOwner : Address)

inductive OwnableError where
  | notOwner (caller : Address)
  | notPendingOwner (caller : Address)
  | zeroOwner

/-- The calls that every owned contract has. -/
inductive OwnableCall where
  | transferOwnership (newOwner : Address)
  | acceptOwnership

namespace TwoStepOwnable

open Call

variable (env : Env)

def onlyOwner : Call TwoStepOwnable OwnableError Unit := do
  let s ← get
  revertIf (env.sender ≠ s.owner) (.notOwner env.sender)

def transferOwnership (newOwner : Address) : Call TwoStepOwnable OwnableError Unit := do
  onlyOwner env
  revertIf (newOwner = 0) .zeroOwner
  modify fun s => { s with pendingOwner := newOwner }

def acceptOwnership : Call TwoStepOwnable OwnableError Unit := do
  let s ← get
  revertIf (env.sender ≠ s.pendingOwner) (.notPendingOwner env.sender)
  modify fun _ => { owner := env.sender, pendingOwner := 0 }

def call : OwnableCall → Call TwoStepOwnable OwnableError Unit
  | .transferOwnership newOwner => transferOwnership env newOwner
  | .acceptOwnership => acceptOwnership env

attribute [simp] onlyOwner

end TwoStepOwnable

/-! ### Tokens -/

/-- A token with states `τ`. -/
class ERC20SettlementToken (τ : Type) where
  balanceOf : Address → τ → ℕ
  /-- The account `sender` pays `amount` to `recipient`. -/
  transfer : (sender recipient : Address) → (amount : ℕ) → τ → Option τ
  /-- The account `spender` moves `amount` from `payer` to `recipient`. -/
  transferFrom : (spender payer recipient : Address) → (amount : ℕ) → τ → Option τ

open ERC20SettlementToken

/-- `amount` went from `payer` to `recipient` and nothing else changed. -/
def MovedExactly {τ : Type} [ERC20SettlementToken τ] (payer recipient : Address) (amount : ℕ)
    (t t' : τ) : Prop :=
  amount ≤ balanceOf payer t ∧
    ∀ a, balanceOf a t' + (if a = payer then amount else 0) =
      balanceOf a t + (if a = recipient then amount else 0)

/-- The token moves exact amounts, has balances of 256 bits and never refuses to pay what the
payer has to an account that is not zero. -/
structure ExactTransfers (τ : Type) [ERC20SettlementToken τ] : Prop where
  balance_lt : ∀ a (t : τ), balanceOf a t < 2 ^ 256
  transfer_moved : ∀ {payer recipient amount} {t t' : τ},
    transfer payer recipient amount t = some t' → MovedExactly payer recipient amount t t'
  transferFrom_moved : ∀ {spender payer recipient amount} {t t' : τ},
    transferFrom spender payer recipient amount t = some t' →
      MovedExactly payer recipient amount t t'
  transfer_of_balance : ∀ {payer recipient amount} {t : τ}, amount ≤ balanceOf payer t →
    recipient ≠ 0 → balanceOf recipient t + amount < 2 ^ 256 →
      ∃ t', transfer payer recipient amount t = some t'

section moved

variable {τ : Type} [ERC20SettlementToken τ] {payer recipient : Address} {amount : ℕ} {t t' : τ}

theorem MovedExactly.le_of_ne {a : Address} (h : MovedExactly payer recipient amount t t')
    (hp : a ≠ payer) : balanceOf a t ≤ balanceOf a t' := by
  have := h.2 a
  rw [if_neg hp] at this
  omega

/-- A transfer of `amount` lowers the balance by at most `amount`. -/
theorem MovedExactly.le_add (h : MovedExactly payer recipient amount t t') :
    balanceOf payer t ≤ balanceOf payer t' + amount := by
  have := h.2 payer
  rw [if_pos rfl] at this
  omega

/-- What the contract `self` asks of its token in a call of `caller`: nothing, tokens of the caller,
or a payment. -/
inductive TokenCall (self caller : Address) (t t' : τ) : Prop
  | none (h : t' = t)
  | pull {amount : ℕ} (h : transferFrom self caller self amount t = some t')
  | push {recipient : Address} {amount : ℕ} (h : transfer self recipient amount t = some t')

/-- Others do not pay. -/
theorem TokenCall.le_of_ne (hτ : ExactTransfers τ) {self caller a : Address}
    (h : TokenCall self caller t t') (hself : a ≠ self) (hcaller : a ≠ caller) :
    balanceOf a t ≤ balanceOf a t' := by
  cases h with
  | none h => rw [h]
  | pull h => exact (hτ.transferFrom_moved h).le_of_ne hcaller
  | push h => exact (hτ.transfer_moved h).le_of_ne hself

end moved

/-! ### Transfers that were made -/

/-- The account `caller` has moved `amount` from `payer` to `recipient`. -/
structure TokenTransfer where
  (caller payer recipient : Address)
  amount : ℕ

/-- A token with the transfers that it has made, the newest first. -/
structure Recorder (τ : Type) where
  token : τ
  transfers : List TokenTransfer

section recorder

variable {τ : Type} [ERC20SettlementToken τ]

instance recorderToken : ERC20SettlementToken (Recorder τ) where
  balanceOf a t := balanceOf a t.token
  transfer sender recipient amount t := (transfer sender recipient amount t.token).map
    fun token => ⟨token, ⟨sender, sender, recipient, amount⟩ :: t.transfers⟩
  transferFrom spender payer recipient amount t :=
    (transferFrom spender payer recipient amount t.token).map
      fun token => ⟨token, ⟨spender, payer, recipient, amount⟩ :: t.transfers⟩

variable {self caller recipient : Address} {amount : ℕ} {t t' : Recorder τ}

theorem transfers_of_transfer (h : transfer self recipient amount t = some t') :
    t'.transfers = [⟨self, self, recipient, amount⟩] ++ t.transfers := by
  obtain ⟨token, -, rfl⟩ := Option.map_eq_some_iff.mp h
  rfl

theorem transfers_of_transferFrom (h : transferFrom self caller recipient amount t = some t') :
    t'.transfers = [⟨self, caller, recipient, amount⟩] ++ t.transfers := by
  obtain ⟨token, -, rfl⟩ := Option.map_eq_some_iff.mp h
  rfl

theorem TokenCall.transfers (h : TokenCall self caller t t') :
    ∃ made, t'.transfers = made ++ t.transfers ∧ ∀ x ∈ made, x.caller = self := by
  cases h with
  | none h => exact ⟨[], by rw [h]; rfl, by simp⟩
  | pull h => exact ⟨_, transfers_of_transferFrom h, by simp⟩
  | push h => exact ⟨_, transfers_of_transfer h, by simp⟩

theorem ExactTransfers.recorder (hτ : ExactTransfers τ) : ExactTransfers (Recorder τ) where
  balance_lt a t := hτ.balance_lt a t.token
  transfer_moved h := by
    obtain ⟨token, htoken, rfl⟩ := Option.map_eq_some_iff.mp h
    exact hτ.transfer_moved htoken
  transferFrom_moved h := by
    obtain ⟨token, htoken, rfl⟩ := Option.map_eq_some_iff.mp h
    exact hτ.transferFrom_moved htoken
  transfer_of_balance hpay hrecipient hfit := by
    obtain ⟨token, htoken⟩ := hτ.transfer_of_balance hpay hrecipient hfit
    exact ⟨_, Option.map_eq_some_iff.mpr ⟨token, htoken, rfl⟩⟩

end recorder

/-- A contract and the token it holds. -/
structure WithToken (σ τ : Type) where
  contract : σ
  token : τ

/-- A call that does not use the token. -/
def inContract {σ τ ε α : Type} (m : Call σ ε α) : Call (WithToken σ τ) ε α :=
  Call.within WithToken.contract (fun s c => { s with contract := c }) (fun e => e) m

@[simp] theorem inContract_ok {σ τ ε α : Type} {m : Call σ ε α} {s s' : WithToken σ τ} {a : α} :
    inContract m s = .ok (a, s') ↔ ∃ c, m s.contract = .ok (a, c) ∧ s' = ⟨c, s.token⟩ := by
  simp [inContract]

/-! ### A token contract -/

/-- The state of the token that the tests of the contracts use. -/
structure TestToken where
  balances : Address → Uint256
  allowance : Address → Address → ℕ

namespace TestToken

/-- Take `amount` from `payer`, if it is there, and give it to `recipient`. -/
def move (payer recipient : Address) (amount : ℕ) (t : TestToken) : Option TestToken :=
  if (t.balances payer).val < amount then none
  else
    let debited := update t.balances payer
      ⟨(t.balances payer).val - amount, Nat.lt_of_le_of_lt (Nat.sub_le _ _) (Fin.isLt _)⟩
    if h : (debited recipient).val + amount < 2 ^ 256 then
      some { t with balances := update debited recipient ⟨_, h⟩ }
    else none

/-- Reduce what `spender` may take from `payer`. -/
def spend (payer spender : Address) (amount : ℕ) (t : TestToken) : TestToken :=
  { t with
    allowance := update t.allowance payer
      (update (t.allowance payer) spender (t.allowance payer spender - amount)) }

instance : ERC20SettlementToken TestToken where
  balanceOf a t := t.balances a
  transfer := move
  transferFrom spender payer recipient amount t :=
    if (t.balances payer).val < amount ∨ t.allowance payer spender < amount then none
    else move payer recipient amount (spend payer spender amount t)

theorem move_moved {payer recipient : Address} {amount : ℕ} {t t' : TestToken}
    (h : move payer recipient amount t = some t') :
    MovedExactly payer recipient amount t t' := by
  simp only [move] at h
  split_ifs at h with hlt hfit
  obtain rfl := Option.some.inj h
  refine ⟨Nat.le_of_not_lt hlt, fun a => ?_⟩
  simp only [balanceOf]
  by_cases hr : a = recipient
  · subst hr
    by_cases hp : a = payer
    · subst hp
      simp only [update_self, if_true]
      omega
    · simp [hp]
  · by_cases hp : a = payer
    · subst hp
      simp only [update_self, update_of_ne hr, if_true, if_neg hr]
      omega
    · simp [hp, hr]

theorem exactTransfers : ExactTransfers TestToken where
  balance_lt a t := (t.balances a).isLt
  transfer_moved := move_moved
  transferFrom_moved := by
    intro spender payer recipient amount t t' h
    change (if _ then none else move payer recipient amount (spend payer spender amount t)) = _ at h
    split_ifs at h
    -- the balances do not depend on the allowances
    exact (move_moved h : MovedExactly payer recipient amount (spend payer spender amount t) t')
  transfer_of_balance := by
    intro payer recipient amount t hpay _ hfit
    change amount ≤ (t.balances payer).val at hpay
    change ∃ t', move payer recipient amount t = some t'
    simp only [move]
    rw [if_neg (Nat.not_lt.mpr hpay), dif_pos]
    · exact ⟨_, rfl⟩
    · by_cases hr : recipient = payer
      · subst hr
        simp only [update_self]
        exact Nat.lt_of_le_of_lt (Nat.sub_add_cancel hpay).le (Fin.isLt _)
      · rw [update_of_ne hr]
        exact hfit

end TestToken

end FlowMemory.AgentBonds
