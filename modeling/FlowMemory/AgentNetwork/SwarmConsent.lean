import FlowMemory.AgentNetwork.SwarmFactory

/-! # Whose transactions create and fund a swarm

A transaction is **consented** if the swarms that it creates, the nonces that it counts and the
tokens that it pulls into the vault are those of its sender.  Neither `createSwarm` of the factory nor
`deposit` of the vault looks at the sender: `swarm_consent_iff` says that all transactions of a run are
consented exactly if the creators and the payers themselves sent them. -/

namespace FlowMemory.AgentNetwork

open Call AgentBonds ERC20SettlementToken Function SwarmBudgetVault

/-! ### Funding a swarm -/

/-- The tokens that came into the vault are the sender's, and a balance of a swarm grew only by what
the sender paid. -/
structure FundedBy {τ : Type} [ERC20SettlementToken τ] (D : BudgetVaultDeployment)
    (sender : Address) (w w' : WithTokens SwarmBudgetVault τ) : Prop where
  pulled : ∀ asset c, c ≠ D.vault →
    balanceOf c (w'.tokens asset) < balanceOf c (w.tokens asset) → c = sender
  credited : ∀ swarmId asset,
    w.contract.swarmBalances swarmId asset < w'.contract.swarmBalances swarmId asset →
      balanceOf sender (w'.tokens asset) +
          (w'.contract.swarmBalances swarmId asset - w.contract.swarmBalances swarmId asset) =
        balanceOf sender (w.tokens asset)

section vault

variable {τ : Type} [ERC20SettlementToken τ] {D : BudgetVaultDeployment} {sender : Address}
  {env : Env} {w w' : WithTokens SwarmBudgetVault τ} {swarmId : Bytes32} {amount : ℕ}

theorem FundedBy.of_le
    (hbalances : ∀ s a, w'.contract.swarmBalances s a ≤ w.contract.swarmBalances s a)
    (htokens : ∀ asset c, c ≠ D.vault →
      balanceOf c (w.tokens asset) ≤ balanceOf c (w'.tokens asset)) : FundedBy D sender w w' where
  pulled asset c hc hlt := absurd hlt (Nat.not_lt.mpr (htokens asset c hc))
  credited s a hlt := absurd hlt (Nat.not_lt.mpr (hbalances s a))

/-- What a deposit does. -/
theorem deposit_moved (hexact : ExactTransfers τ) {payer asset : Address}
    (h : deposit D swarmId payer asset amount w = .ok ((), w')) :
    amount ≠ 0 ∧
      (∀ s a, w'.contract.swarmBalances s a = if s = swarmId ∧ a = asset then
        w.contract.swarmBalances swarmId asset + amount else w.contract.swarmBalances s a) ∧
      (∀ a, a ≠ asset → w'.tokens a = w.tokens a) ∧
      MovedExactly payer D.vault amount (w.tokens asset) (w'.tokens asset) := by
  simp [deposit, credit] at h
  obtain ⟨⟨-, -, hamount, -⟩, moved, hmoved, rfl⟩ := h
  refine ⟨hamount, fun s a => balance_setBalance _ _ _ _ _ _,
    fun a ha => update_of_ne ha _ _, ?_⟩
  simp only [update_self]
  exact hexact.transferFrom_moved hmoved

theorem deposit_fundedBy_iff (hexact : ExactTransfers τ) (hsender : sender ≠ D.vault)
    {payer asset : Address}
    (h : deposit D swarmId payer asset amount w = .ok ((), w')) :
    FundedBy D sender w w' ↔ payer = sender := by
  obtain ⟨hamount, hbalances, hothers, -, hmoved⟩ := deposit_moved hexact h
  constructor
  · intro hfunded
    by_contra hne
    by_cases hvault : payer = D.vault
    · -- the vault paid itself, and the sender did not pay
      have hsame := hmoved sender
      rw [if_neg (Ne.symm hne), if_neg hsender] at hsame
      have hcredited := hfunded.credited swarmId asset
      rw [hbalances, if_pos ⟨rfl, rfl⟩] at hcredited
      have := hcredited (by omega)
      omega
    · have hpaid := hmoved payer
      rw [if_pos rfl, if_neg hvault] at hpaid
      exact hne (hfunded.pulled asset payer hvault (by omega))
  · rintro rfl
    refine ⟨fun a c hc hlt => ?_, fun s a hlt => ?_⟩
    · by_contra hne
      by_cases ha : a = asset
      · subst ha
        have := hmoved c
        rw [if_neg hne, if_neg hc] at this
        omega
      · rw [hothers a ha] at hlt
        exact lt_irrefl _ hlt
    · rw [hbalances] at hlt ⊢
      by_cases hsame : s = swarmId ∧ a = asset
      · obtain ⟨rfl, rfl⟩ := hsame
        have := hmoved payer
        rw [if_pos rfl, if_neg hsender] at this
        rw [if_pos ⟨rfl, rfl⟩]
        omega
      · rw [if_neg hsame] at hlt
        exact absurd hlt (lt_irrefl _)

theorem spend_fundedBy (hexact : ExactTransfers τ) {budgetLineId : Bytes32} {recipient : Address}
    (h : spend D env swarmId budgetLineId recipient amount w = .ok ((), w')) :
    FundedBy D sender w w' := by
  simp [spend, debit] at h
  obtain ⟨-, moved, hmoved, rfl⟩ := h
  refine .of_le (fun s a => ?_) (fun a c hc => ?_)
  · rw [balance_setBalance]
    by_cases hsame : s = swarmId ∧ a = (w.contract.budgetLines budgetLineId).asset
    · obtain ⟨rfl, rfl⟩ := hsame
      rw [if_pos ⟨rfl, rfl⟩]
      exact Nat.sub_le _ _
    · rw [if_neg hsame]
      exact le_rfl
  · by_cases ha : a = (w.contract.budgetLines budgetLineId).asset
    · subst ha
      simp only [update_self]
      exact (hexact.transfer_moved hmoved).le_of_ne hc
    · simp only [update_of_ne ha]
      exact le_rfl

/-- A deposit names its payer. -/
def vaultPayer : SwarmBudgetVault.Msg → Option Address
  | .deposit _ payer _ _ => some payer
  | _ => none

theorem vault_fundedBy_iff (hexact : ExactTransfers τ) (hsender : env.sender ≠ D.vault)
    {msg : SwarmBudgetVault.Msg} (h : call D env msg w = .ok ((), w')) :
    FundedBy D env.sender w w' ↔ ∀ payer ∈ vaultPayer msg, payer = env.sender := by
  cases msg with
  | deposit swarmId payer asset amount =>
    rw [deposit_fundedBy_iff hexact hsender h]
    simp [vaultPayer]
  | spend swarmId budgetLineId recipient amount receiptRoot =>
    exact iff_of_true (spend_fundedBy hexact h) nofun
  | _ =>
    obtain ⟨v', hv', rfl⟩ := onContract_ok.mp h
    have heffect := effect_of_call h
    refine iff_of_true (.of_le (fun s a => ?_) (fun _ _ _ => le_rfl)) nofun
    exact (heffect.balances_eq nofun nofun ▸ le_rfl)

end vault

/-! ### Creating a swarm -/

namespace SwarmFactory

variable {τ : Type} [ERC20SettlementToken τ] {D : SwarmDeployment} {env : Env}

/-- The budget vault and the tokens. -/
def vaultOf (w : WithTokens SwarmContracts τ) : WithTokens SwarmBudgetVault τ :=
  ⟨w.contract.budgetVault, w.tokens⟩

/-- The swarms, the nonces and the tokens that a transaction touches are those of its sender. -/
structure Consented (D : SwarmDeployment) (sender : Address) (w w' : WithTokens SwarmContracts τ) :
    Prop where
  created : ∀ id, (w.contract.swarmRegistry.swarms id).swarmId = 0 →
    (w'.contract.swarmRegistry.swarms id).swarmId ≠ 0 →
      (w'.contract.swarmRegistry.swarms id).creator = sender
  nonces : ∀ c, w'.contract.factory.nonces c ≠ w.contract.factory.nonces c → c = sender
  funded : FundedBy D.budgetVault sender (vaultOf w) (vaultOf w')

/-- Whose consent a transaction needs: the creator of a new swarm and the payer of a deposit. -/
def consenter : Msg → Option Address
  | .createSwarm _ intent _ => some intent.creator
  | .budgetVault msg => vaultPayer msg
  | _ => none

section parts

variable {c c' : SwarmContracts} {r r' : SwarmRegistry} {u : Unit} {intent : SwarmIntent}
  {policyId : Bytes32} {members : List SwarmMember}

theorem getPolicy_ok {r r' : SwarmPolicyRegistry} {policy : SwarmPolicy} :
    SwarmPolicyRegistry.getPolicy policyId r = .ok (policy, r') ↔
      (r.policies policyId).policyId ≠ 0 ∧ policy = r.policies policyId ∧ r' = r := by
  simp [SwarmPolicyRegistry.getPolicy, and_assoc]

/-- A consumed intent counts the nonce of its creator, and only that. -/
theorem consumeIntent_nonces (h : consumeIntent D env policyId intent c = .ok (u, c')) :
    c'.factory.nonces = update c.factory.nonces intent.creator
        (c.factory.nonces intent.creator + 1) ∧
      c'.swarmRegistry = c.swarmRegistry ∧ c'.budgetVault = c.budgetVault := by
  simp [consumeIntent, inPolicyRegistry, getPolicy_ok] at h
  obtain ⟨-, -, -, -, -, -, -, -, rfl⟩ := h
  exact ⟨rfl, rfl, rfl⟩

theorem addMembers_swarms {swarmId : Bytes32}
    (h : SwarmRegistry.addMembers D env swarmId members r = .ok (u, r')) :
    r'.swarms = r.swarms := by
  induction members generalizing r with
  | nil =>
    obtain ⟨-, rfl⟩ := pure_ok.mp h
    rfl
  | cons member members ih =>
    obtain ⟨⟨⟩, r₁, hmember, hrest⟩ := bind_ok.mp h
    simp [SwarmRegistry.addMember] at hmember
    rw [ih hrest, hmember.2]

/-- The registry stores the swarm and leaves the other swarms as they are. -/
theorem createSwarm_swarms {swarm : Swarm}
    (h : SwarmRegistry.createSwarm D env swarm members r = .ok (u, r')) :
    r'.swarms = update r.swarms swarm.swarmId swarm := by
  simp [SwarmRegistry.createSwarm, SwarmRegistry.validateCreate] at h
  obtain ⟨-, -, -, hmembers⟩ := h
  exact addMembers_swarms hmembers

end parts

section steps

variable {w w' : WithTokens SwarmContracts τ} {members : List SwarmMember}

/-- Transactions that create no swarm and count no nonce. -/
theorem consented_iff_funded
    (hswarms : w'.contract.swarmRegistry.swarms = w.contract.swarmRegistry.swarms)
    (hnonces : w'.contract.factory.nonces = w.contract.factory.nonces) :
    Consented D env.sender w w' ↔
      FundedBy D.budgetVault env.sender (vaultOf w) (vaultOf w') := by
  refine ⟨Consented.funded, fun hfunded => ⟨fun id hnone hsome => ?_, fun c hc => ?_, hfunded⟩⟩
  · rw [hswarms] at hsome
    exact absurd hnone hsome
  · rw [hnonces] at hc
    exact absurd rfl hc

/-- What a transaction leaves that neither creates a swarm nor uses the vault. -/
structure Administered (w w' : WithTokens SwarmContracts τ) : Prop where
  nonces : w'.contract.factory.nonces = w.contract.factory.nonces
  swarms : w'.contract.swarmRegistry.swarms = w.contract.swarmRegistry.swarms
  members : w'.contract.swarmRegistry.members = w.contract.swarmRegistry.members
  memberKeys : w'.contract.swarmRegistry.memberKeys = w.contract.swarmRegistry.memberKeys
  budgetVault : w'.contract.budgetVault = w.contract.budgetVault
  tokens : w'.tokens = w.tokens

theorem administered_of_call {msg : Msg} (h : call D env msg w = .ok ((), w'))
    (hcreate : ∀ policyId intent members, msg ≠ .createSwarm policyId intent members)
    (hvault : ∀ m, msg ≠ .budgetVault m) : Administered w w' := by
  cases msg with
  | createSwarm policyId intent members => exact absurd rfl (hcreate policyId intent members)
  | budgetVault m => exact absurd rfl (hvault m)
  | ownable m | policyRegistry m =>
    simp only [call, onContract_ok, inOwnable, inPolicyRegistry, within_ok] at h
    obtain ⟨_, ⟨_, _, rfl⟩, rfl⟩ := h
    constructor <;> rfl
  | setPaused value =>
    simp [call, setPaused, inOwnable] at h
    obtain ⟨-, rfl⟩ := h
    constructor <;> rfl
  | swarmRegistryOwnable c =>
    simp only [call, onContract_ok, inSwarmRegistry, SwarmRegistry.inOwnable, within_ok] at h
    obtain ⟨_, ⟨_, ⟨_, _, rfl⟩, rfl⟩, rfl⟩ := h
    constructor <;> rfl
  | setAuthorizedRegistrar registrar authorized =>
    simp [call, inSwarmRegistry, SwarmRegistry.setAuthorizedRegistrar, SwarmRegistry.inOwnable] at h
    obtain ⟨-, rfl⟩ := h
    constructor <;> rfl

theorem Administered.consented (h : Administered w w') : Consented D env.sender w w' := by
  refine (consented_iff_funded h.swarms h.nonces).mpr (.of_le (fun s a => ?_) (fun a c _ => ?_))
  · exact (congrFun (congrFun (congrArg swarmBalances h.budgetVault) s) a).le
  · exact (congrArg (balanceOf c) (congrFun h.tokens a)).ge

/-- The parts of the creation of a swarm. -/
theorem createSwarm_parts {policyId : Bytes32} {intent : SwarmIntent}
    (h : createSwarm D env policyId intent members w = .ok ((), w')) :
    w'.contract.factory.nonces = update w.contract.factory.nonces intent.creator
        (w.contract.factory.nonces intent.creator + 1) ∧
      SwarmRegistry.createSwarm D ⟨D.factory, env.timestamp⟩ (swarmOf D env intent) members
        w.contract.swarmRegistry = .ok ((), w'.contract.swarmRegistry) ∧
      ((intent.initialBudget = 0 ∧ vaultOf w' = vaultOf w) ∨
        deposit D.budgetVault (swarmIdOf D intent) intent.creator
          intent.budgetAsset intent.initialBudget (vaultOf w) = .ok ((), vaultOf w')) := by
  simp only [createSwarm, bind_ok, onContract_ok] at h
  obtain ⟨⟨⟩, _, ⟨c₁, hconsume, rfl⟩, ⟨⟩, _, ⟨c₂, hcreate, rfl⟩, hbudget⟩ := h
  obtain ⟨hnonces, hregistry, hvault⟩ := consumeIntent_nonces hconsume
  simp only [inSwarmRegistry, within_ok] at hcreate
  obtain ⟨r, hswarm, rfl⟩ := hcreate
  rw [hregistry] at hswarm
  split at hbudget
  case isTrue hzero =>
    obtain ⟨-, rfl⟩ := pure_ok.mp hbudget
    exact ⟨hnonces, hswarm, .inl ⟨hzero, congrArg (WithTokens.mk · _) hvault⟩⟩
  case isFalse =>
    simp only [inBudgetVault, within_ok] at hbudget
    obtain ⟨v, hdeposit, rfl⟩ := hbudget
    rw [hvault] at hdeposit
    exact ⟨hnonces, hswarm, .inr hdeposit⟩

theorem createSwarm_consented_iff (hexact : ExactTransfers τ)
    (hsender : env.sender ≠ D.budgetVault.vault) {policyId : Bytes32} {intent : SwarmIntent}
    (h : createSwarm D env policyId intent members w = .ok ((), w')) :
    Consented D env.sender w w' ↔ intent.creator = env.sender := by
  obtain ⟨hnonces, hcreate, hbudget⟩ := createSwarm_parts h
  constructor
  · intro hconsented
    refine hconsented.nonces intent.creator ?_
    rw [hnonces, update_self]
    omega
  · intro hcreator
    refine ⟨fun id hnone hsome => ?_, fun c hc => ?_, ?_⟩
    · rw [createSwarm_swarms hcreate, update_apply] at hsome ⊢
      split_ifs at hsome ⊢
      exacts [hcreator, absurd hnone hsome]
    · by_contra hne
      rw [hnonces, update_of_ne (hcreator ▸ hne)] at hc
      exact hc rfl
    · rcases hbudget with ⟨-, hsame⟩ | hdeposit
      · rw [hsame]
        exact .of_le (fun _ _ => le_rfl) (fun _ _ _ => le_rfl)
      · exact (deposit_fundedBy_iff hexact hsender hdeposit).mpr hcreator

/-- A transaction is consented exactly if the one whose consent it needs sent it. -/
theorem call_consented_iff (hexact : ExactTransfers τ)
    (hsender : env.sender ≠ D.budgetVault.vault) {msg : Msg}
    (h : call D env msg w = .ok ((), w')) :
    Consented D env.sender w w' ↔ ∀ a ∈ consenter msg, a = env.sender := by
  cases msg with
  | createSwarm policyId intent members =>
    rw [createSwarm_consented_iff hexact hsender h]
    simp [consenter]
  | budgetVault msg =>
    simp only [call, inBudgetVault, within_ok] at h
    obtain ⟨v, hcall, rfl⟩ := h
    have hfunded := vault_fundedBy_iff hexact hsender hcall
    refine (consented_iff_funded ?_ ?_).trans hfunded
    · rfl
    · rfl
  | _ =>
    refine iff_of_true (administered_of_call h ?_ ?_).consented ?_
    · simp
    · simp
    · simp [consenter]

/-- A transaction from outside the vault, or a change of the tokens. -/
def SwarmStep (D : SwarmDeployment) (w : WithTokens SwarmContracts τ) (l : Option (Env × Msg))
    (w' : WithTokens SwarmContracts τ) : Prop :=
  WorldStep (call D) w l w' ∧ ∀ c ∈ l, c.1.sender ≠ D.budgetVault.vault

/-- In every run the swarms, the nonces and the tokens that a transaction touches are those of its
sender exactly if the creators and the payers themselves sent their transactions. -/
theorem swarm_consent_iff (hexact : ExactTransfers τ)
    {steps : List (TraceStep (WithTokens SwarmContracts τ) (Option (Env × Msg)))}
    (htrace : Trace (SwarmStep D) w steps w') :
    (∀ t ∈ steps, ∀ c ∈ t.label, Consented D c.1.sender t.before t.after) ↔
      ∀ t ∈ steps, ∀ c ∈ t.label, ∀ a ∈ consenter c.2, a = c.1.sender := by
  have hstep {w w' : WithTokens SwarmContracts τ} {l : Option (Env × Msg)}
      (hstep : SwarmStep D w l w') : (∀ c ∈ l, Consented D c.1.sender w w') ↔
        ∀ c ∈ l, ∀ a ∈ consenter c.2, a = c.1.sender := by
    obtain ⟨hworld, hsender⟩ := hstep
    cases hworld with
    | call hcall => simpa using call_consented_iff hexact (hsender _ rfl) hcall
    | others => simp
  exact htrace.forall_iff (I := fun _ => True)
    (P := fun t => ∀ c ∈ t.label, Consented D c.1.sender t.before t.after)
    (C := fun _ l => ∀ c ∈ l, ∀ a ∈ consenter c.2, a = c.1.sender)
    (fun h _ hcond => ⟨trivial, (hstep h).mpr hcond⟩) (fun h _ hcond hp => hcond ((hstep h).mp hp))
    trivial

end steps

/-! ### Swarms of other accounts -/

/-- A deployment at the addresses 8 and 9 in which the salt identifies an intent and its swarm. -/
def sampleSwarm : SwarmDeployment where
  factory := 8
  budgetVault := sampleVault
  swarmIntentHash intent := intent.salt
  swarmId _ _ _ _ _ salt := salt
  memberKey _ _ agentId _ _ := agentId

def sampleContracts : WithTokens SwarmContracts TestToken where
  contract := ⟨SwarmFactory.deployed 1, .deployed 1, .deployed 1, .deployed 1⟩
  tokens _ := ⟨fun _ => 1000, fun _ _ => 1000⟩

def samplePolicy : SwarmPolicy := ⟨4, 6, 1, 1, 1, 2, 10, true⟩

/-- The intent of the account 3 with a budget of 100 of the token 5. -/
def sampleIntent : SwarmIntent := ⟨3, 6, 1, 1, 1, 1, 1, 5, 100, 0, 20, 0, 0, 7⟩

/-- The owner 1 authorizes the factory and registers a policy. -/
def sampleSetup : List (Option (Env × Msg)) :=
  [some (⟨1, 10⟩, .setAuthorizedRegistrar 8 true),
    some (⟨1, 10⟩, .policyRegistry (.registerPolicy samplePolicy))]

/-- The account 2 creates a swarm of the account 3. -/
def createForAnother : List (Option (Env × Msg)) :=
  sampleSetup ++ [some (⟨2, 10⟩, .createSwarm 4 sampleIntent [])]

/-- The account 2 deposits tokens of the account 3 for a swarm. -/
def depositOfAnother : List (Option (Env × Msg)) :=
  [some (⟨2, 10⟩, .budgetVault (.deposit 11 3 5 100))]

/-- A transaction from outside the vault, executed. -/
def execSwarm (D : SwarmDeployment) (l : Option (Env × Msg)) (w : WithTokens SwarmContracts τ) :
    Option (WithTokens SwarmContracts τ) :=
  if ∀ c ∈ l, c.1.sender ≠ D.budgetVault.vault then execCall (call D) l w else none

theorem swarmStep_of_exec {l : Option (Env × Msg)} {w w' : WithTokens SwarmContracts τ}
    (h : execSwarm D l w = some w') : SwarmStep D w l w' := by
  unfold execSwarm at h
  split at h
  case isTrue hsender => exact ⟨worldStep_of_execCall h, hsender⟩
  case isFalse => cases h

/-- The account 2 makes the account 3 the creator of a swarm, counts the nonce of the account 3 and
takes 100 of its tokens; it also takes 100 of them for a swarm of its choice. -/
theorem swarm_created_for_another : ∃ steps₁ steps₂ w₁ w₂,
    Trace (SwarmStep sampleSwarm) sampleContracts steps₁ w₁ ∧
      steps₁.map (·.label) = createForAnother ∧
      (w₁.contract.swarmRegistry.swarms 7).creator = 3 ∧ w₁.contract.factory.nonces 3 = 1 ∧
      balanceOf 3 (w₁.tokens 5) = 900 ∧
      (¬ ∀ t ∈ steps₁, ∀ c ∈ t.label, Consented sampleSwarm c.1.sender t.before t.after) ∧
      Trace (SwarmStep sampleSwarm) sampleContracts steps₂ w₂ ∧
      steps₂.map (·.label) = depositOfAnother ∧ balanceOf 3 (w₂.tokens 5) = 900 ∧
      w₂.contract.budgetVault.swarmBalances 11 5 = 100 ∧
      ¬ ∀ t ∈ steps₂, ∀ c ∈ t.label, Consented sampleSwarm c.1.sender t.before t.after := by
  obtain ⟨steps₁, w₁, htrace₁, hlabels₁, ⟨t₁, ht₁, c₁, hc₁, hsender₁, hnonces⟩, hcreator, hnonce,
      hbalance₁⟩ : ∃ steps w, Trace (SwarmStep sampleSwarm) sampleContracts steps w ∧
        steps.map (·.label) = createForAnother ∧
        (∃ t ∈ steps, ∃ c ∈ t.label, c.1.sender = 2 ∧
          t.before.contract.factory.nonces 3 < t.after.contract.factory.nonces 3) ∧
        (w.contract.swarmRegistry.swarms 7).creator = 3 ∧ w.contract.factory.nonces 3 = 1 ∧
        balanceOf 3 (w.tokens 5) = 900 :=
    Trace.exists_of_execute swarmStep_of_exec (by decide +kernel)
  obtain ⟨steps₂, w₂, htrace₂, hlabels₂, ⟨t₂, ht₂, c₂, hc₂, hsender₂, hpaid⟩, hbalance₂, hswarm⟩ :
      ∃ steps w, Trace (SwarmStep sampleSwarm) sampleContracts steps w ∧
        steps.map (·.label) = depositOfAnother ∧
        (∃ t ∈ steps, ∃ c ∈ t.label, c.1.sender = 2 ∧
          balanceOf 3 (t.after.tokens 5) < balanceOf 3 (t.before.tokens 5)) ∧
        balanceOf 3 (w.tokens 5) = 900 ∧ w.contract.budgetVault.swarmBalances 11 5 = 100 :=
    Trace.exists_of_execute swarmStep_of_exec (by decide +kernel)
  refine ⟨steps₁, steps₂, w₁, w₂, htrace₁, hlabels₁, hcreator, hnonce, hbalance₁,
    fun hconsented => ?_, htrace₂, hlabels₂, hbalance₂, hswarm, fun hconsented => ?_⟩
  · have hsender := (hconsented t₁ ht₁ c₁ hc₁).nonces 3 (by omega)
    rw [hsender₁] at hsender
    exact absurd hsender (by decide)
  · have hsender := (hconsented t₂ ht₂ c₂ hc₂).funded.pulled 5 3 (by decide) hpaid
    rw [hsender₂] at hsender
    exact absurd hsender (by decide)

/-- The account 3 creates its swarm itself. -/
def createOwn : List (Option (Env × Msg)) :=
  sampleSetup ++ [some (⟨3, 10⟩, .createSwarm 4 sampleIntent [])]

theorem swarm_consent_iff_sample : ∃ steps w,
    Trace (SwarmStep sampleSwarm) sampleContracts steps w ∧ steps.map (·.label) = createOwn ∧
      (w.contract.swarmRegistry.swarms 7).creator = 3 ∧
      ∀ t ∈ steps, ∀ c ∈ t.label, Consented sampleSwarm c.1.sender t.before t.after := by
  obtain ⟨steps, w, htrace, hlabels, hcreator⟩ : ∃ steps w,
      Trace (SwarmStep sampleSwarm) sampleContracts steps w ∧ steps.map (·.label) = createOwn ∧
        (w.contract.swarmRegistry.swarms 7).creator = 3 :=
    Trace.exists_of_execute swarmStep_of_exec (by decide +kernel)
  refine ⟨steps, w, htrace, hlabels, hcreator,
    (swarm_consent_iff TestToken.exactTransfers htrace).mpr fun t ht c hc a ha => ?_⟩
  have hlabel : t.label ∈ createOwn := hlabels ▸ List.mem_map_of_mem ht
  rw [hc] at hlabel
  simp only [createOwn, sampleSetup, List.cons_append, List.nil_append, List.mem_cons,
    Option.some.injEq, List.not_mem_nil, or_false] at hlabel
  rcases hlabel with rfl | rfl | rfl
  · cases ha
  · cases ha
  · cases ha
    rfl

end SwarmFactory

end FlowMemory.AgentNetwork
