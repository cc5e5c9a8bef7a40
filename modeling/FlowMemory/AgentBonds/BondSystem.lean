import FlowMemory.AgentBonds.TaskCalls

/-! # Runs of the bond system

All contracts together: a **run** is any sequence of calls by outside accounts to any of the
contracts, in any order, with time passing and tokens moving in between.  The contracts themselves
make only the calls that their code makes.  A run keeps the calls that were made, each with the
world before it, the newest first. -/

namespace FlowMemory.AgentBonds

open Call ERC20SettlementToken Function

/-- A call to one of the contracts. -/
inductive BondMsg where
  | manager (msg : AgentBondManager.Msg)
  | escrow (msg : TaskBondEscrow.Msg)
  | stakes (msg : AgentStakeRegistry.Msg)
  | policies (msg : TaskPolicyRegistry.Msg)
  | pool (pool : Address) (msg : AgentUnderwriterPool.Msg)
  | poolRegistry (registry : Address) (msg : UnderwriterPoolRegistry.Msg)
  | attestations (registry : Address) (msg : AgentCreditAttestationRegistry.Msg)

variable {τ : Type} [ERC20SettlementToken τ] (D : Deployment)

/-- The effect of a call by `sender`. -/
def bondCall (sender : Address) : BondMsg → BondAction τ Unit
  | .manager msg => AgentBondManager.call D sender msg
  | .escrow msg => do
      let w ← get
      within (World.withEscrow D) (World.putEscrow D) .escrow
        (TaskBondEscrow.call D.escrow ⟨sender, w.now⟩ msg)
  | .stakes msg => do
      let w ← get
      within (World.withStakes D) (World.putStakes D) .stakes
        (AgentStakeRegistry.call D.stakeRegistry ⟨sender, w.now⟩ msg)
  | .policies msg => do
      let w ← get
      within World.policies (fun w r => { w with policies := r }) .policies
        (TaskPolicyRegistry.call ⟨sender, w.now⟩ msg)
  | .pool pool msg => do
      revertIf (D.isPool pool = false) (.notAPool pool)
      let w ← get
      within (fun w => World.withPool D w pool) (fun w s => World.putPool D w pool s) .pool
        (AgentUnderwriterPool.call pool ⟨sender, w.now⟩ msg)
  | .poolRegistry registry msg => do
      let w ← get
      within (fun w => w.poolRegistries registry)
        (fun w r => { w with poolRegistries := update w.poolRegistries registry r })
        .poolRegistry (UnderwriterPoolRegistry.call ⟨sender, w.now⟩ msg)
  | .attestations registry msg => do
      let w ← get
      within (fun w => w.attestations registry)
        (fun w r => { w with attestations := update w.attestations registry r })
        .attestations (AgentCreditAttestationRegistry.call ⟨sender, w.now⟩ msg)

/-- An account that is not one of the contracts, nor the zero address. -/
def Deployment.External (a : Address) : Prop :=
  a ≠ 0 ∧ a ≠ D.manager ∧ a ≠ D.escrow ∧ a ≠ D.stakeRegistry ∧ D.isPool a = false

instance (a : Address) : Decidable (D.External a) :=
  inferInstanceAs (Decidable (_ ∧ _ ∧ _ ∧ _ ∧ _))

/-- The contracts that hold tokens. -/
def Deployment.Holder (a : Address) : Prop :=
  a = D.escrow ∨ a = D.stakeRegistry ∨ D.isPool a = true

/-- A call that was made, with the world before it. -/
structure BondEntry (τ : Type) where
  sender : Address
  msg : BondMsg
  before : World τ

/-- The world after the call. -/
def BondEntry.after (e : BondEntry τ) : World τ :=
  match bondCall D e.sender e.msg e.before with
  | .ok (_, w) => w
  | .error _ => e.before

/-- The runs from `w₀` whose calls satisfy `ok`.  Calls of others to the tokens do not spend the
tokens of the contracts. -/
inductive BondRun (ok : Address → BondMsg → World τ → Prop) (w₀ : World τ) :
    List (BondEntry τ) → World τ → Prop
  | start : BondRun ok w₀ [] w₀
  | call {l : List (BondEntry τ)} {w w' : World τ} {sender : Address} {msg : BondMsg}
      (hrun : BondRun ok w₀ l w) (hsender : D.External sender) (hok : ok sender msg w)
      (h : bondCall D sender msg w = .ok ((), w')) : BondRun ok w₀ (⟨sender, msg, w⟩ :: l) w'
  | time {l : List (BondEntry τ)} {w : World τ} {later : ℕ} (hrun : BondRun ok w₀ l w)
      (h : w.now ≤ later) : BondRun ok w₀ l { w with now := later }
  | token {l : List (BondEntry τ)} {w : World τ} {tokens : Address → τ} (hrun : BondRun ok w₀ l w)
      (h : ∀ a t, D.Holder a → balanceOf a (w.tokens t) ≤ balanceOf a (tokens t)) :
      BondRun ok w₀ l { w with tokens }

theorem BondRun.mono {ok ok' : Address → BondMsg → World τ → Prop} {w₀ w : World τ}
    {l : List (BondEntry τ)} (hok : ∀ sender msg w, ok sender msg w → ok' sender msg w)
    (hrun : BondRun D ok w₀ l w) : BondRun D ok' w₀ l w := by
  induction hrun with
  | start => exact .start
  | call _ hsender hallowed h ih => exact .call ih hsender (hok _ _ _ hallowed) h
  | time _ h ih => exact .time ih h
  | token _ h ih => exact .token ih h

/-- The newest call of a run.  Only the time and the tokens have changed since. -/
theorem BondRun.newest {ok : Address → BondMsg → World τ → Prop} {w₀ w : World τ}
    {e : BondEntry τ} {l : List (BondEntry τ)} (hrun : BondRun D ok w₀ (e :: l) w) :
    BondRun D ok w₀ l e.before ∧ D.External e.sender ∧ ok e.sender e.msg e.before ∧
      ∃ w', bondCall D e.sender e.msg e.before = .ok ((), w') ∧
        w = { w' with now := w.now, tokens := w.tokens } := by
  generalize hl : e :: l = entries at hrun
  induction hrun with
  | start => cases hl
  | call hrun hsender hok h _ =>
    cases hl
    exact ⟨hrun, hsender, hok, _, h, rfl⟩
  | time _ _ ih | token _ _ ih =>
    obtain ⟨hrun, hsender, hok, w', h, hw⟩ := ih hl
    exact ⟨hrun, hsender, hok, w', h, by rw [hw]⟩

/-- The contracts as their constructors leave them. -/
structure World.Deployed (w : World τ) : Prop where
  manager : ∃ owner guardian authority, w.manager = .deployed owner guardian authority
  escrow : ∃ owner, w.escrow = .deployed owner
  stakes : ∃ owner minAgentStake minVerifierStake capacityUnit capacityBondUnit,
    w.stakes = .deployed owner minAgentStake minVerifierStake capacityUnit capacityBondUnit
  pools : ∀ p, D.isPool p = true → ∃ owner coverage riskTier,
    w.pools p = .deployed owner coverage riskTier

/-! ### Wiring -/

/-- The manager of the escrow is the manager. -/
def EscrowWired (_ : Address) : BondMsg → World τ → Prop
  | .escrow (.setManager manager), _ => manager = D.manager
  | _, _ => True

/-- The manager is the only slash authority. -/
def StakesWired (_ : Address) : BondMsg → World τ → Prop
  | .stakes (.setSlashAuthority authority), _ => authority = D.manager
  | _, _ => True

/-- The manager, and nobody else, becomes and stays an allocator of the pools. -/
def PoolsWired (_ : Address) : BondMsg → World τ → Prop
  | .pool _ (.setAllocator allocator authorized), _ => authorized = true ↔ allocator = D.manager
  | _, _ => True

/-- The manager is the only one to record bonds and to allocate coverage. -/
def LedgersWired (sender : Address) (msg : BondMsg) (w : World τ) : Prop :=
  StakesWired D sender msg w ∧ PoolsWired D sender msg w

/-! ### What a returning call did -/

section accepted

variable {D} {sender : Address} {w w' : World τ} {u : Unit}

theorem after_of_ok {msg : BondMsg} (h : bondCall D sender msg w = .ok (u, w')) :
    BondEntry.after D ⟨sender, msg, w⟩ = w' := by
  rw [BondEntry.after, h]

/-- The entries that a log has gained. -/
def gained {α : Type} (old new : List α) : List α := new.take (new.length - old.length)

theorem gained_append {α : Type} (new old : List α) : gained old (new ++ old) = new := by
  simp [gained]

theorem bondCall_pool_ok {pool : Address} {msg : AgentUnderwriterPool.Msg} :
    bondCall D sender (.pool pool msg) w = .ok (u, w') ↔
      D.isPool pool = true ∧
      ∃ s, AgentUnderwriterPool.call pool ⟨sender, w.now⟩ msg (w.withPool D pool) = .ok (u, s) ∧
        w' = w.putPool D pool s := by
  simp [bondCall]

end accepted

/-! ### Following a script -/

/-- A call, or a wait of some seconds. -/
inductive BondInput where
  | call (sender : Address) (msg : BondMsg)
  | wait (seconds : ℕ)

/-- Make the calls one after the other, as long as they return. -/
def follow (D : Deployment) :
    List BondInput → List (BondEntry τ) × World τ → Option (List (BondEntry τ) × World τ)
  | [], s => some s
  | .call sender msg :: rest, (l, w) =>
    match bondCall D sender msg w with
    | .ok (_, w') => follow D rest (⟨sender, msg, w⟩ :: l, w')
    | .error _ => none
  | .wait seconds :: rest, (l, w) => follow D rest (l, { w with now := w.now + seconds })

/-- The calls of a script. -/
def calls : List BondInput → List (Address × BondMsg)
  | [] => []
  | .call sender msg :: rest => (sender, msg) :: calls rest
  | .wait _ :: rest => calls rest

theorem BondRun.follow {D : Deployment} {ok : Address → BondMsg → World τ → Prop}
    {w₀ w w' : World τ}
    {l l' : List (BondEntry τ)} {inputs : List BondInput} (hrun : BondRun D ok w₀ l w)
    (hsender : ∀ c ∈ calls inputs, D.External c.1) (hok : ∀ c ∈ calls inputs, ∀ w, ok c.1 c.2 w)
    (h : follow D inputs (l, w) = some (l', w')) :
    BondRun D ok w₀ l' w' := by
  induction inputs generalizing l w with
  | nil =>
    obtain ⟨rfl, rfl⟩ := Prod.mk.inj (Option.some.inj h)
    exact hrun
  | cons input rest ih =>
    cases input with
    | call sender msg =>
      rw [calls, List.forall_mem_cons] at hsender hok
      rw [AgentBonds.follow] at h
      split at h
      · next w₁ hcall => exact ih (.call hrun hsender.1 (hok.1 w) hcall) hsender.2 hok.2 h
      · cases h
    | wait seconds => exact ih (.time hrun (Nat.le_add_right _ _)) hsender hok h

/-! ### A small deployment

The accounts are the requester 1, the agent 2, the verifiers 3 and 8, the challenger 4, the owner 5
and the resolution authority 6. -/

def sampleDeployment : Deployment where
  manager := 10
  escrow := 11
  stakeRegistry := 12
  settlementToken := 20
  stakeToken := 21
  isPool a := decide (a = 30)
  asset _ := 20
  taskId _ _ _ _ nonce := Fin.ofNat _ (nonce + 100)
  reason text := Fin.ofNat _ text.length
  escrow_ne_stakeRegistry := by decide
  isPool_escrow := by decide
  isPool_stakeRegistry := by decide

/-- The accounts below 10 have a million tokens each, which all contracts may take. -/
def sampleTokens : TestToken where
  balances a := if a < 10 then 1000000 else 0
  allowance _ _ := 1000000

def sampleWorld : World TestToken where
  now := 1000
  tokens _ := sampleTokens
  manager := .deployed 5 5 6
  escrow := .deployed 5
  stakes := .deployed 5 100 100 1 1
  policies := .deployed 5
  pools _ := .deployed 5 0 0
  poolRegistries _ := .deployed 5
  attestations _ := .deployed 5

theorem deployed_sampleWorld : sampleWorld.Deployed sampleDeployment :=
  ⟨⟨5, 5, 6, rfl⟩, ⟨5, rfl⟩, ⟨5, 100, 100, 1, 1, rfl⟩, fun _ _ => ⟨5, 0, 0, rfl⟩⟩

/-- A bond of 10%, a fee of 5%, a cancel bond of 1%, a dispute bond of half the bond, and one
confirmation. -/
def samplePolicy : TaskPolicy where
  agentBondBps := 1000
  verifierFeeBps := 500
  requesterCancelBondBps := 100
  disputeBondBps := 5000
  requiredConfirmations := 1
  submissionWindow := 100
  disputeWindow := 50
  graceWindow := 20
  minAvailabilityWindow := 100
  minAgentBond := 0
  minVerifierFee := 0
  minRequesterCancelBond := 0
  minDisputeBond := 0
  evidenceSchema := 1
  riskTier := 1
  objectiveOnly := true
  active := true

/-- The owner connects the contracts and creates a policy, and the others deposit stake. -/
def sampleSetup (policy : TaskPolicy) : List BondInput :=
  [.call 5 (.escrow (.setManager 10)), .call 5 (.stakes (.setSlashAuthority 10)),
    .call 5 (.policies (.createPolicy 1 policy)), .call 2 (.stakes (.depositStake 10000)),
    .call 3 (.stakes (.depositStake 10000)), .call 8 (.stakes (.depositStake 10000))]

/-- The owner also connects the pool 30, and the account 7 deposits. -/
def samplePoolSetup : List BondInput :=
  [.call 5 (.pool 30 (.setAllocator 10 true)), .call 7 (.pool 30 (.deposit 10000)),
    .call 5 (.poolRegistry 40 (.registerPool 30 .usdcRecoursePool 20 1)),
    .call 5 (.manager (.settings (.setUnderwriterPoolRegistry 40))),
    .call 5 (.manager (.settings (.setRecourseExposureCaps 600 600 600)))]

end FlowMemory.AgentBonds
