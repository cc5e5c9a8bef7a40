import Mathlib.Algebra.Order.BigOperators.Group.Finset
import Mathlib.Logic.Relation
import FlowMemory.Lib.Tally
import FlowMemory.Bridge.BaseBridgeLockbox

/-! # The lockbox keeps what was deposited

The **books** of the lockbox relate the deposit records to the totals of each token and to the log.
Every call keeps them, whatever was configured, paused or stopped before it, and with a token that
moves exact amounts the lockbox **has the funds** that its books say are locked. -/

namespace FlowMemory.Bridge

open Call AgentBonds ERC20SettlementToken BaseBridgeLockbox Function

/-! ### The books -/

/-- What the lockbox keeps of a token for a deposit. -/
def DepositRecord.held (token : Address) (record : DepositRecord) : ℕ :=
  if record.exists_ = true ∧ record.token = token then record.amount - record.released else 0

/-- What was deposited of a token. -/
def DepositRecord.deposited (token : Address) (record : DepositRecord) : ℕ :=
  if record.exists_ = true ∧ record.token = token then record.amount else 0

/-- The identifiers of the deposits in a log. -/
def depositIds : List LockboxEvent → List Bytes32
  | [] => []
  | .bridgeDeposit depositId .. :: logs => depositId :: depositIds logs
  | .bridgeRelease .. :: logs => depositIds logs

/-- The identifiers of the releases in a log. -/
def releaseIds : List LockboxEvent → List Bytes32
  | [] => []
  | .bridgeDeposit .. :: logs => releaseIds logs
  | .bridgeRelease releaseId .. :: logs => releaseId :: releaseIds logs

/-- The totals of the tokens are those of the deposits. -/
structure DepositLedger (records : Bytes32 → DepositRecord) (configs : Address → TokenConfig) :
    Prop where
  released_le : ∀ id, (records id).released ≤ (records id).amount
  locked : ∀ token, (configs token).totalLocked = ∑ id, (records id).held token
  deposited : ∀ token, (configs token).totalDeposited = ∑ id, (records id).deposited token
  deposited_lt : ∀ token, (configs token).totalDeposited < 2 ^ 256
  capped : ∀ token, (configs token).allowed = true → (configs token).totalCap ≠ 0 →
    (configs token).totalDeposited ≤ (configs token).totalCap

/-- The identifiers in a log are different and marked as used. -/
structure UsedOnce (ids : List Bytes32) (used : Bytes32 → Bool) : Prop where
  nodup : ids.Nodup
  used : ∀ id ∈ ids, used id = true

/-- The records, the configurations and the logs of the lockbox belong together. -/
structure LockboxBooks (b : BaseBridgeLockbox) : Prop
    extends DepositLedger b.depositRecords b.tokenConfigs where
  recorded : ∀ id, (b.depositRecords id).exists_ = b.deposits id
  depositIds : UsedOnce (depositIds b.logs) b.deposits
  releaseIds : UsedOnce (releaseIds b.logs) b.releases

theorem UsedOnce.cons {ids : List Bytes32} {used : Bytes32 → Bool} {id : Bytes32}
    (h : UsedOnce ids used) (hnew : used id = false) :
    UsedOnce (id :: ids) (update used id true) := by
  refine ⟨List.nodup_cons.mpr ⟨fun hmem => ?_, h.nodup⟩, List.forall_mem_cons.mpr
    ⟨update_self .., fun i hi => ?_⟩⟩
  · rw [h.used id hmem] at hnew
    cases hnew
  · rw [update_apply, h.used i hi, ite_self]

/-- One deposit and the totals of one token are written. -/
theorem DepositLedger.write {records : Bytes32 → DepositRecord} {configs : Address → TokenConfig}
    (h : DepositLedger records configs) (id : Bytes32) {record : DepositRecord} (token : Address)
    (config : TokenConfig) (hreleased : record.released ≤ record.amount)
    (hlocked : config.totalLocked + (records id).held token =
      (configs token).totalLocked + record.held token)
    (hdeposited : config.totalDeposited + (records id).deposited token =
      (configs token).totalDeposited + record.deposited token)
    (hother : ∀ t, t ≠ token → record.held t = (records id).held t ∧
      record.deposited t = (records id).deposited t)
    (hlt : config.totalDeposited < 2 ^ 256)
    (hcap : config.allowed = true → config.totalCap ≠ 0 →
      config.totalDeposited ≤ config.totalCap) :
    DepositLedger (update records id record) (update configs token config) := by
  constructor
  · exact (forall_update_iff records fun _ r => r.released ≤ r.amount).mpr
      ⟨hreleased, fun i _ => h.released_le i⟩
  · intro t
    have htally := tally_update (DepositRecord.held t) records id record
    rw [← h.locked] at htally
    rw [update_apply]
    split_ifs with ht
    · subst ht
      omega
    · have := hother t ht
      omega
  · intro t
    have htally := tally_update (DepositRecord.deposited t) records id record
    rw [← h.deposited] at htally
    rw [update_apply]
    split_ifs with ht
    · subst ht
      omega
    · have := hother t ht
      omega
  · exact (forall_update_iff configs fun _ c => c.totalDeposited < 2 ^ 256).mpr
      ⟨hlt, fun t _ => h.deposited_lt t⟩
  · exact (forall_update_iff configs fun _ c => c.allowed = true → c.totalCap ≠ 0 →
      c.totalDeposited ≤ c.totalCap).mpr ⟨hcap, fun t _ => h.capped t⟩

section books

variable {D : LockboxDeployment} {b b' : BaseBridgeLockbox} {u : Unit} {token : Address}
  {amount : ℕ}

theorem LockboxBooks.deployed (owner authority : Address) :
    LockboxBooks (BaseBridgeLockbox.deployed owner authority) := by
  refine ⟨?_, fun _ => rfl, ⟨.nil, nofun⟩, .nil, nofun⟩
  constructor <;>
    simp [BaseBridgeLockbox.deployed, DepositRecord.empty, DepositRecord.held,
      DepositRecord.deposited]

/-- A change of the limits of a token. -/
theorem LockboxBooks.configured (h : LockboxBooks b) {allowed : Bool} {perDepositCap totalCap : ℕ}
    (hcap : allowed = true → totalCap ≠ 0 → (b.tokenConfigs token).totalDeposited ≤ totalCap) :
    LockboxBooks { b with
      tokenConfigs := update b.tokenConfigs token
        { b.tokenConfigs token with
          allowed := allowed, perDepositCap := perDepositCap, totalCap := totalCap } } := by
  have hledger := h.write 0 token ⟨allowed, perDepositCap, totalCap, _, _⟩ (h.released_le 0) rfl rfl
    (fun _ _ => ⟨rfl, rfl⟩) (h.deposited_lt token) hcap
  rw [update_eq_self] at hledger
  exact ⟨hledger, h.recorded, h.depositIds, h.releaseIds⟩

theorem LockboxBooks.not_exists (h : LockboxBooks b) {id : Bytes32} (hid : b.deposits id = false) :
    (b.depositRecords id).exists_ = false := by
  rw [h.recorded, hid]

theorem LockboxBooks.lock (h : LockboxBooks b) {sender : Address} {recipient metadataHash : Bytes32}
    (hlock : BaseBridgeLockbox.lock D sender token amount recipient metadataHash b = .ok (u, b')) :
    LockboxBooks b' := by
  obtain ⟨⟨-, -, -, hfits, hcap⟩, hnew, rfl⟩ := lock_ok hlock
  have hfresh := h.not_exists hnew
  refine ⟨h.write _ _ _ (Nat.zero_le _) ?_ ?_ (fun t ht => ?_) hfits fun _ => hcap, fun i => ?_,
    h.depositIds.cons hnew, h.releaseIds⟩
  · simp [DepositRecord.held, hfresh]
  · simp [DepositRecord.deposited, hfresh]
  · simp [DepositRecord.held, DepositRecord.deposited, hfresh, Ne.symm ht]
  · simp only [afterLock, update_apply]
    split_ifs
    exacts [rfl, h.recorded i]

theorem LockboxBooks.recordRelease (h : LockboxBooks b) {depositId evidenceHash : Bytes32}
    {recipient : Address}
    (hrelease : BaseBridgeLockbox.recordRelease D depositId recipient token amount evidenceHash b =
      .ok (u, b')) : LockboxBooks b' := by
  obtain ⟨hexists, htoken, hnew, hle, hlocked, rfl⟩ := recordRelease_ok hrelease
  refine ⟨h.write _ _ _ hle ?_ ?_ (fun t ht => ?_) (h.deposited_lt token) (h.capped token), fun i => ?_,
    h.depositIds, h.releaseIds.cons hnew⟩
  · simp only [DepositRecord.held, hexists, htoken, and_self, if_true]
    omega
  · simp [DepositRecord.deposited, hexists, htoken]
  · simp [DepositRecord.held, DepositRecord.deposited, htoken, Ne.symm ht]
  · simp only [afterRelease, update_apply]
    split_ifs with hi
    exacts [hi ▸ h.recorded depositId, h.recorded i]

/-- A deposit has at most what its token has in the lockbox. -/
theorem LockboxBooks.held_le (h : LockboxBooks b) (token : Address) (id : Bytes32) :
    (b.depositRecords id).held token ≤ (b.tokenConfigs token).totalLocked := by
  rw [h.locked]
  exact Finset.single_le_sum (f := fun id => (b.depositRecords id).held token)
    (fun _ _ => Nat.zero_le _) (Finset.mem_univ id)

theorem LockboxBooks.deposited_le (h : LockboxBooks b) (token : Address) (id : Bytes32) :
    (b.depositRecords id).deposited token ≤ (b.tokenConfigs token).totalDeposited := by
  rw [h.deposited]
  exact Finset.single_le_sum (f := fun id => (b.depositRecords id).deposited token)
    (fun _ _ => Nat.zero_le _) (Finset.mem_univ id)

/-- No subtraction or addition of a release is out of range. -/
theorem LockboxBooks.recordRelease_ne_panic (h : LockboxBooks b) (depositId : Bytes32)
    (recipient token : Address) (amount : ℕ) (evidenceHash : Bytes32) :
    BaseBridgeLockbox.recordRelease D depositId recipient token amount evidenceHash b ≠
      .error .panic := by
  intro hpanic
  obtain ⟨hexists, htoken, hrange⟩ := recordRelease_panic hpanic
  have hle := h.released_le depositId
  have hheld := h.held_le token depositId
  have hdeposited := h.deposited_le token depositId
  have hlt := h.deposited_lt token
  rw [DepositRecord.held, if_pos ⟨hexists, htoken⟩] at hheld
  rw [DepositRecord.deposited, if_pos ⟨hexists, htoken⟩] at hdeposited
  omega

end books

/-! ### Runs -/

section runs

variable {τ : Type} [ERC20SettlementToken τ] {D : LockboxDeployment} {w w' : LockboxWorld τ}
  {amount : ℕ} {moved : τ}

/-- The lockbox has the tokens that its books say are locked. -/
def Funded (D : LockboxDeployment) (w : LockboxWorld τ) : Prop :=
  ∀ token, (w.lockbox.tokenConfigs token).totalLocked ≤ balanceOf D.lockbox (w.tokens token)

theorem Funded.deposited (hfunded : Funded D w) {sender token : Address}
    {recipient metadataHash : Bytes32} {b : BaseBridgeLockbox}
    (hsender : sender ≠ D.lockbox)
    (hlock : lock D sender token amount recipient metadataHash w.lockbox = .ok ((), b))
    (hmoved : MovedExactly sender D.lockbox amount (w.tokens token) moved) :
    Funded D ⟨b, update w.tokens token moved⟩ := by
  obtain ⟨-, -, rfl⟩ := lock_ok hlock
  intro t
  by_cases ht : t = token
  · subst ht
    have hpaid := hmoved.2 D.lockbox
    rw [if_neg (Ne.symm hsender), if_pos rfl] at hpaid
    simp only [afterLock, update_self]
    have := hfunded t
    omega
  · simpa only [afterLock, update_of_ne ht] using hfunded t

theorem Funded.released (hfunded : Funded D w) {depositId evidenceHash : Bytes32}
    {recipient token : Address} {b : BaseBridgeLockbox}
    (hrelease : recordRelease D depositId recipient token amount evidenceHash w.lockbox =
      .ok ((), b))
    (hmoved : MovedExactly D.lockbox recipient amount (w.tokens token) moved) :
    Funded D ⟨b, update w.tokens token moved⟩ := by
  obtain ⟨-, -, -, -, hlocked, rfl⟩ := recordRelease_ok hrelease
  intro t
  by_cases ht : t = token
  · subst ht
    have hpaid := hmoved.2 D.lockbox
    rw [if_pos rfl] at hpaid
    simp only [afterRelease, update_self]
    have := hfunded t
    omega
  · simpa only [afterRelease, update_of_ne ht] using hfunded t

theorem BaseBridgeLockbox.LockboxEffect.books (heffect : LockboxEffect D w w')
    (hbooks : LockboxBooks w.lockbox) : LockboxBooks w'.lockbox := by
  cases heffect with
  | administered => exact ⟨hbooks.1, hbooks.recorded, hbooks.depositIds, hbooks.releaseIds⟩
  | configured hcap => exact hbooks.configured hcap
  | deposited _ hlock => exact hbooks.lock hlock
  | released hrelease => exact hbooks.recordRelease hrelease

theorem BaseBridgeLockbox.LockboxEffect.funded (hexact : ExactTransfers τ)
    (heffect : LockboxEffect D w w') (hfunded : Funded D w) : Funded D w' := by
  cases heffect with
  | administered => exact hfunded
  | @configured token =>
    intro t
    simp only [update_apply]
    split_ifs with ht
    exacts [ht ▸ hfunded token, hfunded t]
  | deposited hsender hlock hpaid => exact hfunded.deposited hsender hlock (hpaid hexact)
  | released hrelease hpaid => exact hfunded.released hrelease (hpaid hexact)

theorem LockboxStep.books (hexact : ExactTransfers τ) (hstep : LockboxStep D w w')
    (hbooks : LockboxBooks w.lockbox) (hfunded : Funded D w) :
    LockboxBooks w'.lockbox ∧ Funded D w' := by
  cases hstep with
  | call hsender h =>
    have heffect := effect_of_call hsender h
    exact ⟨heffect.books hbooks, heffect.funded hexact hfunded⟩
  | token h => exact ⟨hbooks, fun t => (hfunded t).trans (h t)⟩

theorem books_of_run (hexact : ExactTransfers τ) {w₀ : LockboxWorld τ} {owner authority : Address}
    (hdeployed : w₀.lockbox = deployed owner authority)
    (hrun : Relation.ReflTransGen (LockboxStep D) w₀ w) :
    LockboxBooks w.lockbox ∧ Funded D w := by
  induction hrun with
  | refl =>
    refine ⟨hdeployed ▸ .deployed owner authority, fun t => ?_⟩
    rw [hdeployed]
    exact Nat.zero_le _
  | tail _ hstep ih => exact hstep.books hexact ih.1 ih.2

/-- In every run from the constructor the totals of each token are the sums over its deposits, no
deposit pays out more than its amount, the caps hold, the tokens are there, and no identifier is
used twice.  A release never panics. -/
theorem lockbox_conservation (hexact : ExactTransfers τ) {w₀ : LockboxWorld τ}
    {owner authority : Address} (hdeployed : w₀.lockbox = deployed owner authority)
    (hrun : Relation.ReflTransGen (LockboxStep D) w₀ w) :
    (∀ token, (w.lockbox.tokenConfigs token).totalLocked =
        ∑ id with (w.lockbox.depositRecords id).exists_ = true ∧
            (w.lockbox.depositRecords id).token = token,
          ((w.lockbox.depositRecords id).amount - (w.lockbox.depositRecords id).released)) ∧
      (∀ token, (w.lockbox.tokenConfigs token).totalDeposited =
        ∑ id with (w.lockbox.depositRecords id).exists_ = true ∧
            (w.lockbox.depositRecords id).token = token,
          (w.lockbox.depositRecords id).amount) ∧
      (∀ id, (w.lockbox.depositRecords id).released ≤ (w.lockbox.depositRecords id).amount) ∧
      (∀ token, (w.lockbox.tokenConfigs token).allowed = true →
        (w.lockbox.tokenConfigs token).totalCap ≠ 0 →
          (w.lockbox.tokenConfigs token).totalDeposited ≤
            (w.lockbox.tokenConfigs token).totalCap) ∧
      (∀ token, (w.lockbox.tokenConfigs token).totalLocked ≤
        balanceOf D.lockbox (w.tokens token)) ∧
      (depositIds w.lockbox.logs).Nodup ∧ (releaseIds w.lockbox.logs).Nodup ∧
      ∀ (depositId : Bytes32) (recipient token : Address) (amount : Uint256)
        (evidenceHash : Bytes32),
        recordRelease D depositId recipient token amount evidenceHash w.lockbox ≠
          .error .panic := by
  obtain ⟨hbooks, hfunded⟩ := books_of_run hexact hdeployed hrun
  refine ⟨fun token => ?_, fun token => ?_, hbooks.released_le, hbooks.capped, hfunded,
    hbooks.depositIds.nodup, hbooks.releaseIds.nodup, fun depositId recipient token amount hash =>
      hbooks.recordRelease_ne_panic depositId recipient token amount hash⟩
  · rw [hbooks.locked, Finset.sum_filter]
    rfl
  · rw [hbooks.deposited, Finset.sum_filter]
    rfl

end runs

/-- A deployment at the address 9 in which the nonce identifies a deposit and the evidence a
release. -/
def sampleLockbox : LockboxDeployment where
  lockbox := 9
  depositId _ _ _ _ nonce _ := Fin.ofNat _ nonce
  releaseId _ _ _ _ evidenceHash := evidenceHash

def sampleDeployed : LockboxWorld TestToken where
  lockbox := deployed 1 2
  tokens _ := ⟨fun _ => 100, fun _ _ => 100⟩

/-- The owner allows a token, an account deposits it, and the authority releases a part. -/
def sampleCalls : List (Address × BaseBridgeLockbox.Msg) :=
  [(1, .configureToken 4 true 80 90), (3, .lockERC20 4 60 7 0), (2, .releaseERC20 1 5 4 20 8)]

def runCalls (D : LockboxDeployment) :
    List (Address × BaseBridgeLockbox.Msg) → LockboxWorld TestToken → Option (LockboxWorld TestToken)
  | [], w => some w
  | (sender, msg) :: calls, w =>
    match BaseBridgeLockbox.call D sender msg w with
    | .ok (_, w') => runCalls D calls w'
    | .error _ => none

theorem run_of_runCalls {D : LockboxDeployment} {calls : List (Address × BaseBridgeLockbox.Msg)}
    {w w' : LockboxWorld TestToken} (hsenders : ∀ c ∈ calls, c.1 ≠ D.lockbox)
    (h : runCalls D calls w = some w') : Relation.ReflTransGen (LockboxStep D) w w' := by
  fun_induction runCalls D calls w with
  | case1 w =>
    obtain rfl := Option.some.inj h
    exact .refl
  | case2 sender msg calls w _ w₁ hcall ih =>
    have hstep : LockboxStep D w w₁ := .call (hsenders _ List.mem_cons_self) hcall
    exact .head hstep (ih (fun c hc => hsenders c (List.mem_cons_of_mem _ hc)) h)
  | case3 => cases h

theorem lockbox_conservation_sample : ∃ w : LockboxWorld TestToken,
    runCalls sampleLockbox sampleCalls sampleDeployed = some w ∧
      (w.lockbox.tokenConfigs 4).totalLocked = 40 ∧ (w.lockbox.tokenConfigs 4).totalDeposited = 60 ∧
      (w.lockbox.tokenConfigs 4).totalLocked ≤ balanceOf sampleLockbox.lockbox (w.tokens 4) := by
  have hfacts : (runCalls sampleLockbox sampleCalls sampleDeployed).map (fun w =>
      ((w.lockbox.tokenConfigs 4).totalLocked, (w.lockbox.tokenConfigs 4).totalDeposited)) =
        some (40, 60) := by rfl
  obtain ⟨w, hw, hfields⟩ := Option.map_eq_some_iff.mp hfacts
  obtain ⟨hlocked, hdeposited⟩ := Prod.mk.injEq .. ▸ hfields
  have hrun := run_of_runCalls (by decide) hw
  obtain ⟨-, -, -, -, hfunds, -⟩ := lockbox_conservation TestToken.exactTransfers rfl hrun
  exact ⟨w, hw, hlocked, hdeposited, hfunds 4⟩

end FlowMemory.Bridge
