import FlowMemory.AgentBonds.PoolSolvency

/-! # The withdrawal cooldown

With a cooldown `c`, a provider has to request a withdrawal and wait for `c` before it withdraws.
What the cooldown is for is stated over the log of the pool (`Cooled`): every withdrawal at time
`t` has a **request** of the same account, made at `t - c` or before and after its previous
withdrawal, and takes only shares that were **minted** at `t - c` or before.

The pool only stores the time at which the last request becomes due.  A withdrawal does not use
it up and a deposit does not reset it.  `withdrawals_cooled` says which withdrawals keep the
property, and `one_request_two_withdrawals` is a run that breaks it. -/

namespace FlowMemory.AgentBonds

open ERC20SettlementToken AgentUnderwriterPool Function

variable {τ : Type} {here : Address} {c : ℕ} {a : Address}
  {p : AgentUnderwriterPool} {token : τ} {t : ℕ} {l : PoolLog}

/-! ### The property -/

/-- The log of a pool, the newest entry first. -/
abbrev PoolLog : Type := List (ℕ × PoolEvent)

/-- The account made a request at `t - c` or before and did not withdraw since. -/
def RequestedInTime (c : ℕ) (a : Address) (t : ℕ) : PoolLog → Prop
  | [] => False
  | (r, .withdrawalRequested b _) :: older => b = a ∧ r + c ≤ t ∨ RequestedInTime c a t older
  | (_, .withdrawn b _ _) :: older => b ≠ a ∧ RequestedInTime c a t older
  | _ :: older => RequestedInTime c a t older

/-- The shares minted to the account up to the time `t - c`. -/
def matured (c : ℕ) (a : Address) (t : ℕ) : PoolLog → ℕ
  | [] => 0
  | (d, .deposited b _ shares) :: older =>
    (if b = a ∧ d + c ≤ t then shares else 0) + matured c a t older
  | _ :: older => matured c a t older

/-- The shares that the account withdrew. -/
def burned (a : Address) : PoolLog → ℕ
  | [] => 0
  | (_, .withdrawn b _ shares) :: older => (if b = a then shares else 0) + burned a older
  | _ :: older => burned a older

/-- Every withdrawal has its own request in time and takes matured shares. -/
def Cooled (c : ℕ) : PoolLog → Prop
  | [] => True
  | (t, .withdrawn a _ shares) :: older =>
    RequestedInTime c a t older ∧ burned a older + shares ≤ matured c a t older ∧ Cooled c older
  | _ :: older => Cooled c older

/-! ### When a withdrawal keeps it -/

/-- The account made a request after its last withdrawal. -/
def RequestPending (a : Address) : PoolLog → Prop
  | [] => False
  | (_, .withdrawalRequested b _) :: older => b = a ∨ RequestPending a older
  | (_, .withdrawn b _ _) :: older => b ≠ a ∧ RequestPending a older
  | _ :: older => RequestPending a older

/-- The account has an unused request and enough matured shares. -/
def MayWithdraw (c : ℕ) (a : Address) (shares : ℕ) (s : PoolSystem τ) : Prop :=
  RequestPending a s.pool.logs ∧ burned a s.pool.logs + shares ≤ matured c a s.now s.pool.logs

/-- The cooldown is not changed. -/
def CooldownFixed (c : ℕ) (_ : Address) : Msg → PoolSystem τ → Prop
  | .setPoolRiskControls _ _ cooldown, _ => cooldown = c
  | _, _ => True

/-- The cooldown is not changed, and withdrawals are made only when the account may. -/
def Disciplined (c : ℕ) (sender : Address) : Msg → PoolSystem τ → Prop
  | .setPoolRiskControls _ _ cooldown, _ => cooldown = c
  | .withdraw shares, s => MayWithdraw c sender shares s
  | _, _ => True

/-- The account that an entry is about. -/
def PoolEvent.provider : PoolEvent → Option Address
  | .deposited a _ _ => some a
  | .withdrawn a _ _ => some a
  | .withdrawalRequested a _ => some a
  | _ => none

/-- The last entry of the account is a request. -/
def LastIsRequest (a : Address) : PoolLog → Prop
  | [] => False
  | (_, .withdrawalRequested b _) :: older => b = a ∨ LastIsRequest a older
  | e :: older => e.2.provider ≠ some a ∧ LastIsRequest a older

/-- The cooldown is not changed, and an account withdraws only right after a request. -/
def RequestFirst (c : ℕ) (sender : Address) : Msg → PoolSystem τ → Prop
  | .setPoolRiskControls _ _ cooldown, _ => cooldown = c
  | .withdraw _, s => LastIsRequest sender s.pool.logs
  | _, _ => True

/-! ### The books of the cooldown -/

/-- The time of the last request of the account. -/
def lastRequest (a : Address) : PoolLog → Option ℕ
  | [] => none
  | (r, .withdrawalRequested b _) :: older => if b = a then some r else lastRequest a older
  | _ :: older => lastRequest a older

/-- The shares minted to the account. -/
def minted (a : Address) : PoolLog → ℕ
  | [] => 0
  | (_, .deposited b _ shares) :: older => (if b = a then shares else 0) + minted a older
  | _ :: older => minted a older

structure CooldownBooks (c : ℕ) (s : PoolSystem τ) : Prop where
  cooldown : s.pool.withdrawalCooldown = c
  available : ∀ a, s.pool.withdrawalAvailableAt a = (lastRequest a s.pool.logs).elim 0 (· + c)
  shares : ∀ a, s.pool.sharesOf a + burned a s.pool.logs = minted a s.pool.logs
  past : ∀ e ∈ s.pool.logs, e.1 ≤ s.now
  sorted : s.pool.logs.Pairwise fun newer older => older.1 ≤ newer.1

/-- A pool with the cooldown `c` that was not used yet. -/
def Unused (c : ℕ) (s : PoolSystem τ) : Prop :=
  s.pool.withdrawalCooldown = c ∧ s.pool.logs = [] ∧ (∀ a, s.pool.sharesOf a = 0) ∧
    ∀ a, s.pool.withdrawalAvailableAt a = 0

theorem CooldownBooks.unused {s : PoolSystem τ} (h : Unused c s) : CooldownBooks c s := by
  obtain ⟨hc, hlogs, hshares, havail⟩ := h
  constructor <;> simp [hc, hlogs, hshares, havail, lastRequest, burned, minted]

/-- One more entry in the log. -/
theorem CooldownBooks.log {s : PoolSystem τ} (h : CooldownBooks c s) {event : PoolEvent}
    (hlogs : p.logs = (s.now, event) :: s.pool.logs)
    (hcool : p.withdrawalCooldown = c)
    (havail : ∀ a, p.withdrawalAvailableAt a = (lastRequest a p.logs).elim 0 (· + c))
    (hshares : ∀ a, p.sharesOf a + burned a p.logs = minted a p.logs) :
    CooldownBooks c ⟨p, token, s.now⟩ where
  cooldown := hcool
  available := havail
  shares := hshares
  past := by
    simp only [hlogs, List.forall_mem_cons]
    exact ⟨le_rfl, h.past⟩
  sorted := by
    simp only [hlogs, List.pairwise_cons]
    exact ⟨h.past, h.sorted⟩

/-- Only the fields that the cooldown reads matter. -/
theorem CooldownBooks.congr {s : PoolSystem τ} (h : CooldownBooks c s)
    (hlogs : p.logs = s.pool.logs)
    (hcool : p.withdrawalCooldown = s.pool.withdrawalCooldown)
    (havail : p.withdrawalAvailableAt = s.pool.withdrawalAvailableAt)
    (hshares : p.sharesOf = s.pool.sharesOf) : CooldownBooks c ⟨p, token, s.now⟩ := by
  constructor <;> simp only [hlogs, hcool, havail, hshares]
  exacts [h.cooldown, h.available, h.shares, h.past, h.sorted]

/-- An entry about a task. -/
theorem CooldownBooks.quiet {s : PoolSystem τ} (h : CooldownBooks c s) {e : PoolEvent}
    (hlogs : p.logs = (s.now, e) :: s.pool.logs)
    (hcool : p.withdrawalCooldown = s.pool.withdrawalCooldown)
    (havail : p.withdrawalAvailableAt = s.pool.withdrawalAvailableAt)
    (hshares : p.sharesOf = s.pool.sharesOf) (hquiet : e.provider = none) :
    CooldownBooks c ⟨p, token, s.now⟩ := by
  refine h.log hlogs (hcool.trans h.cooldown) (fun a => ?_) fun a => ?_
  · rw [hlogs, havail, h.available]
    cases e <;> first | rfl | cases hquiet
  · rw [hlogs, hshares]
    have := h.shares a
    cases e <;> first | exact this | cases hquiet

/-- When the account has cooled down, its last request is due. -/
theorem CooldownBooks.due {s : PoolSystem τ} (h : CooldownBooks c s) (hc : c ≠ 0)
    (hcool : s.pool.CooledDown s.now a) :
    ∃ r, lastRequest a s.pool.logs = some r ∧ r + c ≤ s.now := by
  obtain ⟨hne, hle⟩ := hcool (h.cooldown ▸ hc)
  rw [h.available] at hne hle
  cases hlast : lastRequest a s.pool.logs with
  | none => simp [hlast] at hne
  | some r => exact ⟨r, rfl, by simpa [hlast] using hle⟩

variable [ERC20SettlementToken τ]

/-- A call keeps the books, and keeps the property if it is not a withdrawal. -/
theorem CooldownBooks.call {s : PoolSystem τ} (h : CooldownBooks c s) {sender : Address} {msg : Msg}
    {r : WithToken AgentUnderwriterPool τ} (hok : CooldownFixed c sender msg s)
    (hr : AgentUnderwriterPool.call here ⟨sender, s.now⟩ msg ⟨s.pool, s.token⟩ = .ok ((), r)) :
    CooldownBooks c ⟨r.contract, r.token, s.now⟩ ∧
      ((∀ shares, msg ≠ .withdraw shares) → Cooled c s.pool.logs → Cooled c r.contract.logs) := by
  cases effect_of_call hr with
  | administered => exact ⟨h.congr rfl rfl rfl rfl, fun _ hs => hs⟩
  | controlled => exact ⟨h.congr rfl (hok.trans h.cooldown.symm) rfl rfl, fun _ hs => hs⟩
  | @deposited amount shares token =>
    refine ⟨h.log rfl h.cooldown h.available fun a => ?_, fun _ hs => hs⟩
    have hold := h.shares a
    simp only [afterDeposit, burned, minted, update_apply, eq_comm (a := a)]
    split_ifs with ha
    · subst ha
      omega
    · omega
  | requested =>
    refine ⟨h.log rfl h.cooldown (fun a => ?_) h.shares, fun _ hs => hs⟩
    simp only [afterRequest, lastRequest, update_apply, h.cooldown, eq_comm (a := a)]
    split_ifs
    · rfl
    · exact h.available a
  | @withdrawn shares token _ _ hle =>
    refine ⟨h.log rfl h.cooldown h.available fun a => ?_, fun hmsg => absurd rfl (hmsg _)⟩
    have hold := h.shares a
    simp only at hle
    simp only [afterWithdraw, burned, minted, update_apply, eq_comm (a := a)]
    split_ifs with ha
    · subst ha
      omega
    · omega
  | locked hlock =>
    obtain ⟨-, -, -, -, -, -, -, -, -, rfl⟩ := lockCoverage_ok.mp hlock
    exact ⟨h.quiet rfl rfl rfl rfl rfl, fun _ hs => hs⟩
  | released hrel =>
    obtain ⟨-, -, -, -, -, rfl⟩ := releaseForTask_ok.mp hrel
    exact ⟨h.quiet rfl rfl rfl rfl rfl, fun _ hs => hs⟩
  | @claimed t reason recipient amount paid _ hpay =>
    obtain ⟨-, -, -, -, -, -, -, token, -, rfl⟩ := payClaim_ok.mp hpay
    have hclaim : CooldownBooks c ⟨{ s.pool with
        logs := (s.now, .claimPaid t recipient reason paid) :: s.pool.logs }, token, s.now⟩ :=
      h.quiet rfl rfl rfl rfl rfl
    refine ⟨?_, fun _ hs => by simp only [afterClaim, claimLogs]; split_ifs <;> exact hs⟩
    by_cases hrest : s.pool.lockedByTask t > paid
    · exact hclaim.quiet (e := .coverageReleased t (s.pool.lockedByTask t - paid))
        (by simp [afterClaim, claimLogs, hrest]) rfl rfl rfl rfl
    · exact hclaim.congr (by simp [afterClaim, claimLogs, hrest]) rfl rfl rfl

theorem PoolRun.cooldownBooks {s₀ s : PoolSystem τ} (h₀ : Unused c s₀)
    (hrun : PoolRun here (CooldownFixed c) s₀ s) : CooldownBooks c s := by
  induction hrun with
  | refl => exact .unused h₀
  | tail _ hstep ih =>
    cases hstep with
    | call hok hr => exact (ih.call hok hr).1
    | time hle =>
      exact ⟨ih.cooldown, ih.available, ih.shares, fun e he => (ih.past e he).trans hle,
        ih.sorted⟩
    | token => exact ⟨ih.cooldown, ih.available, ih.shares, ih.past, ih.sorted⟩

/-! ### Withdrawals that keep the property -/

theorem requestedInTime_iff (h : ∀ r, lastRequest a l = some r → r + c ≤ t) :
    RequestedInTime c a t l ↔ RequestPending a l := by
  induction l with
  | nil => exact Iff.rfl
  | cons e older ih =>
    obtain ⟨r, event⟩ := e
    cases event with
    | withdrawalRequested b due =>
      by_cases hb : b = a
      · have hr := h r (if_pos hb)
        simp [RequestedInTime, RequestPending, hb, hr]
      · have hrest := ih fun r' hr' => h r' ((if_neg hb).trans hr')
        simp [RequestedInTime, RequestPending, hb, hrest]
    | withdrawn b amount shares => exact and_congr_right fun _ => ih h
    | _ => exact ih h

theorem LastIsRequest.pending (h : LastIsRequest a l) : RequestPending a l := by
  induction l with
  | nil => exact h
  | cons e older ih =>
    obtain ⟨r, event⟩ := e
    cases event with
    | withdrawalRequested b due => exact h.imp_right ih
    | withdrawn b amount shares => exact ⟨fun hb => h.1 (congrArg some hb), ih h.2⟩
    | _ => exact ih h.2

/-- Everything minted early enough is matured. -/
theorem matured_eq_minted (h : ∀ e ∈ l, e.1 + c ≤ t) :
    matured c a t l = minted a l := by
  induction l with
  | nil => rfl
  | cons e older ih =>
    obtain ⟨he, hrest⟩ := List.forall_mem_cons.mp h
    obtain ⟨d, event⟩ := e
    cases event with
    | deposited b amount shares => simp [matured, minted, he, ih hrest]
    | _ => exact ih hrest

/-- If the last entry of the account is its last request, all its deposits came before. -/
theorem LastIsRequest.matured_eq (h : LastIsRequest a l)
    (hsorted : l.Pairwise fun newer older => older.1 ≤ newer.1)
    (hdue : ∀ r, lastRequest a l = some r → r + c ≤ t) : matured c a t l = minted a l := by
  induction l with
  | nil => rfl
  | cons e older ih =>
    obtain ⟨hpast, hrest⟩ := List.pairwise_cons.mp hsorted
    obtain ⟨r, event⟩ := e
    cases event with
    | withdrawalRequested b due =>
      by_cases hb : b = a
      · have hr := hdue r (if_pos hb)
        refine matured_eq_minted (l := older) fun e he => ?_
        have := hpast e he
        simp only at this
        omega
      · exact ih (h.resolve_left hb) hrest fun r' hr' => hdue r' ((if_neg hb).trans hr')
    | deposited b amount shares =>
      have hb : b ≠ a := fun hb => h.1 (congrArg some hb)
      simp [matured, minted, hb, ih h.2 hrest hdue]
    | _ => exact ih h.2 hrest hdue

section withdraw

variable {s : PoolSystem τ} {shares : ℕ} {r : WithToken AgentUnderwriterPool τ}

/-- A withdrawal keeps the property exactly when the account may make it. -/
theorem CooldownBooks.cooled_iff (h : CooldownBooks c s) (hc : c ≠ 0) (hs : Cooled c s.pool.logs)
    (hr : withdraw here ⟨a, s.now⟩ shares ⟨s.pool, s.token⟩ = .ok ((), r)) :
    Cooled c r.contract.logs ↔ MayWithdraw c a shares s := by
  simp [withdraw, cooldownOver_ok] at hr
  obtain ⟨-, hcool, -, -, -, -, -, token, -, rfl⟩ := hr
  obtain ⟨due, hlast, hdue⟩ := h.due hc hcool
  change RequestedInTime c a s.now s.pool.logs ∧ _ ∧ Cooled c s.pool.logs ↔ _
  rw [requestedInTime_iff fun r hr => by rw [hlast] at hr; cases hr; exact hdue]
  simp only [hs, and_true]
  exact Iff.rfl

/-- An account whose last entry is a request may withdraw all its shares. -/
theorem CooldownBooks.mayWithdraw (h : CooldownBooks c s) (hc : c ≠ 0)
    (hlast : LastIsRequest a s.pool.logs)
    (hr : withdraw here ⟨a, s.now⟩ shares ⟨s.pool, s.token⟩ = .ok ((), r)) :
    MayWithdraw c a shares s := by
  simp [withdraw, cooldownOver_ok] at hr
  obtain ⟨-, hcool, hle, -⟩ := hr
  obtain ⟨due, hreq, hdue⟩ := h.due hc hcool
  refine ⟨hlast.pending, ?_⟩
  rw [hlast.matured_eq h.sorted fun r hr => by rw [hreq] at hr; cases hr; exact hdue]
  have hbooks := h.shares a
  omega

end withdraw

/-! ### Runs -/

section runs

variable {ok : Address → Msg → PoolSystem τ → Prop}

/-- A run keeps the property if all its withdrawals are ones the account may make. -/
theorem PoolRun.cooled (hc : c ≠ 0) (hfixed : ∀ a msg (s : PoolSystem τ),
      ok a msg s → CooldownFixed c a msg s)
    (hmay : ∀ a shares (s : PoolSystem τ) r, ok a (.withdraw shares) s → CooldownBooks c s →
      withdraw here ⟨a, s.now⟩ shares ⟨s.pool, s.token⟩ = .ok ((), r) → MayWithdraw c a shares s)
    {s₀ s : PoolSystem τ} (h₀ : Unused c s₀) (hrun : PoolRun here ok s₀ s) :
    CooldownBooks c s ∧ Cooled c s.pool.logs := by
  induction hrun with
  | refl => exact ⟨.unused h₀, by rw [h₀.2.1]; trivial⟩
  | tail _ hstep ih =>
    obtain ⟨hbooks, hcooled⟩ := ih
    cases hstep with
    | @call sender msg r hok hr =>
      obtain ⟨hbooks', hother⟩ := hbooks.call (hfixed _ _ _ hok) hr
      refine ⟨hbooks', ?_⟩
      by_cases hmsg : ∃ shares, msg = .withdraw shares
      · obtain ⟨shares, rfl⟩ := hmsg
        exact (hbooks.cooled_iff hc hcooled hr).mpr (hmay _ _ _ _ hok hbooks hr)
      · exact hother (fun shares h => hmsg ⟨shares, h⟩) hcooled
    | time hle =>
      exact ⟨⟨hbooks.cooldown, hbooks.available, hbooks.shares,
        fun e he => (hbooks.past e he).trans hle, hbooks.sorted⟩, hcooled⟩
    | token =>
      exact ⟨⟨hbooks.cooldown, hbooks.available, hbooks.shares, hbooks.past, hbooks.sorted⟩,
        hcooled⟩

end runs

/-- **The cooldown**: in every run of a pool with the constant cooldown `c` whose withdrawals are
made with an unused request and for matured shares, every withdrawal has cooled down.  A run that
has the property so far keeps it exactly by such withdrawals.  It is enough that an account
withdraws only right after a request. -/
theorem withdrawals_cooled (hc : 0 < c) {s₀ s : PoolSystem τ} (h₀ : Unused c s₀) :
    (PoolRun here (Disciplined c) s₀ s → Cooled c s.pool.logs) ∧
    (PoolRun here (CooldownFixed c) s₀ s → Cooled c s.pool.logs → ∀ a shares r,
      withdraw here ⟨a, s.now⟩ shares ⟨s.pool, s.token⟩ = .ok ((), r) →
        (Cooled c r.contract.logs ↔ MayWithdraw c a shares s)) ∧
    (PoolRun here (RequestFirst c) s₀ s → Cooled c s.pool.logs) := by
  have hne : c ≠ 0 := by omega
  refine ⟨fun hrun => ?_, fun hrun hs a shares r hr => ?_, fun hrun => ?_⟩
  · refine (hrun.cooled hne (fun a msg s h => ?_) (fun a shares s r h _ _ => h) h₀).2
    cases msg <;> first | exact h | trivial
  · exact (hrun.cooldownBooks h₀).cooled_iff hne hs hr
  · refine (hrun.cooled hne (fun a msg s h => ?_) (fun a shares s r h hb hr => ?_) h₀).2
    · cases msg <;> first | exact h | trivial
    · exact hb.mayWithdraw hne h hr

/-! ### One request, several withdrawals -/

/-- A pool with a cooldown of 10 and a provider with 200 tokens. -/
def cooledPool : PoolSystem TestToken where
  pool := { deployed 1 0 0 with withdrawalCooldown := 10 }
  token := {
    balances := update (fun _ => 0) 3 200
    allowance := update (fun _ => fun _ => 0) 3 (update (fun _ => 0) 9 200) }
  now := 0

theorem unused_cooledPool : Unused 10 cooledPool :=
  ⟨rfl, rfl, fun _ => rfl, fun _ => rfl⟩

theorem runCalls_now {calls : List (Address × Msg)} {s s' : PoolSystem τ}
    (h : PoolSystem.runCalls here calls s = some s') : s'.now = s.now := by
  induction calls generalizing s with
  | nil =>
    obtain rfl := Option.some.inj h
    rfl
  | cons c rest ih =>
    rw [PoolSystem.runCalls] at h
    split at h
    · exact (ih h).trans rfl
    · cases h

/-- Some calls, a wait, and more calls. -/
theorem PoolRun.of_wait {ok : Address → Msg → PoolSystem τ → Prop}
    {early late : List (Address × Msg)} {s s' : PoolSystem τ} {later : ℕ} (hle : s.now ≤ later)
    (h : ((PoolSystem.runCalls here early s).bind fun u =>
      PoolSystem.runCalls here late { u with now := later }) = some s')
    (hearly : ∀ c ∈ early, ∀ t, ok c.1 c.2 t) (hlate : ∀ c ∈ late, ∀ t, ok c.1 c.2 t) :
    PoolRun here ok s s' := by
  obtain ⟨u, hu, hs'⟩ := Option.bind_eq_some_iff.mp h
  rw [← runCalls_now hu] at hle
  exact ((PoolRun.of_runCalls hu hearly).tail (.time hle)).trans (PoolRun.of_runCalls hs' hlate)

/-- One deposit, one request and, after the wait, one withdrawal. -/
theorem one_request_one_withdrawal :
    ∃ s, PoolRun 9 (RequestFirst 10) cooledPool s ∧ s.pool.sharesOf 3 = 40 ∧
      Cooled 10 s.pool.logs := by
  have hfacts : (PoolSystem.runCalls 9 [(3, .deposit 100), (3, .requestWithdrawal)]
      cooledPool).map (fun u => (u.pool.logs,
        (AgentUnderwriterPool.call 9 ⟨3, 10⟩ (.withdraw 60) ⟨u.pool, u.token⟩).toOption.map
          fun r => r.2.contract.sharesOf 3)) =
        some ([(0, .withdrawalRequested 3 10), (0, .deposited 3 100 100)], some 40) := by rfl
  obtain ⟨u, hu, hfields⟩ := Option.map_eq_some_iff.mp hfacts
  simp only [Prod.mk.injEq, Option.map_eq_some_iff, Call.toOption_eq_some] at hfields
  obtain ⟨hlogs, ⟨⟨⟩, r⟩, hr, hshares⟩ := hfields
  have hrun : PoolRun 9 (RequestFirst 10) cooledPool { u with now := 10 } :=
    (PoolRun.of_runCalls hu (by simp [RequestFirst])).tail (.time (by rw [runCalls_now hu]; decide))
  have hlast : RequestFirst 10 3 (.withdraw 60) { u with now := 10 } := by
    change LastIsRequest 3 u.pool.logs
    rw [hlogs]
    exact .inl rfl
  have hrun' : PoolRun 9 (RequestFirst 10) cooledPool ⟨r.contract, r.token, 10⟩ :=
    hrun.tail (.call hlast hr)
  exact ⟨_, hrun', hshares, (withdrawals_cooled (by decide) unused_cooledPool).2.2 hrun'⟩

/-- The provider deposits 100 and makes a request.  At time 10 it deposits 100 more and withdraws
50 and then 150 shares, all with its one request and half of them minted a moment before. -/
theorem one_request_two_withdrawals :
    ∃ s, PoolRun 9 (CooldownFixed 10) cooledPool s ∧ ¬ Cooled 10 s.pool.logs := by
  have hfacts : ((PoolSystem.runCalls 9 [(3, .deposit 100), (3, .requestWithdrawal)]
      cooledPool).bind fun u => PoolSystem.runCalls 9
        [(3, .deposit 100), (3, .withdraw 50), (3, .withdraw 150)] { u with now := 10 }).map
      (fun s => s.pool.logs) =
        some [(10, .withdrawn 3 150 150), (10, .withdrawn 3 50 50), (10, .deposited 3 100 100),
          (0, .withdrawalRequested 3 10), (0, .deposited 3 100 100)] := by rfl
  obtain ⟨s, hs, hlogs⟩ := Option.map_eq_some_iff.mp hfacts
  refine ⟨s, .of_wait (by decide) hs ?_ ?_, ?_⟩
  · simp [CooldownFixed]
  · simp [CooldownFixed]
  · rw [hlogs]
    simp [Cooled, RequestedInTime]

end FlowMemory.AgentBonds
