import FlowMemory.AgentNetwork.SwarmBudgetVault
import FlowMemory.Lib.Tally
import Mathlib.Algebra.Order.BigOperators.Group.Finset

/-! # Reserved budget and what covers it

A budget line is **covered** if its cap has room for what is spent and reserved, and a swarm if its
balance has room for all that is reserved on its lines.  `reserve` compares an amount with the whole
balance of the swarm, and `spend` with the cap and the balance including what is reserved:
`budget_covered_iff` says that a run keeps everything covered exactly if its calls respect the
reservations themselves. -/

namespace FlowMemory.AgentNetwork

open Call AgentBonds ERC20SettlementToken Function

namespace SwarmBudgetVault

/-! ### Covered lines and swarms -/

/-- What is reserved on the active lines of a swarm in an asset. -/
@[irreducible] def reservedOf (v : SwarmBudgetVault) (swarmId : Bytes32) (asset : Address) : ℕ :=
  ∑ id with (v.budgetLines id).active = true ∧ (v.budgetLines id).swarmId = swarmId ∧
    (v.budgetLines id).asset = asset, (v.budgetLines id).reserved

structure Covered (v : SwarmBudgetVault) : Prop where
  line : ∀ id, (v.budgetLines id).spent + (v.budgetLines id).reserved ≤ (v.budgetLines id).cap
  swarm : ∀ swarmId asset, reservedOf v swarmId asset ≤ v.swarmBalances swarmId asset

/-- The call takes nothing that is reserved. -/
def RespectsReserved (v : SwarmBudgetVault) : Msg → Prop
  | .reserve swarmId budgetLineId amount _ =>
    reservedOf v swarmId (v.budgetLines budgetLineId).asset + amount ≤
      v.swarmBalances swarmId (v.budgetLines budgetLineId).asset
  | .spend swarmId budgetLineId _ amount _ =>
    (v.budgetLines budgetLineId).spent + (v.budgetLines budgetLineId).reserved + amount ≤
        (v.budgetLines budgetLineId).cap ∧
      reservedOf v swarmId (v.budgetLines budgetLineId).asset + amount ≤
        v.swarmBalances swarmId (v.budgetLines budgetLineId).asset
  | _ => True

/-- What a line counts for the total of a swarm and an asset. -/
def countedFor (swarmId : Bytes32) (asset : Address) (line : BudgetLine) : ℕ :=
  if line.active = true ∧ line.swarmId = swarmId ∧ line.asset = asset then line.reserved else 0

section covered

variable {D : BudgetVaultDeployment} {env : Env} {msg : Msg} {v v' : SwarmBudgetVault}
  {swarmId budgetLineId : Bytes32} {asset : Address} {line : BudgetLine} {amount : ℕ}

theorem reservedOf_eq_tally (v : SwarmBudgetVault) (swarmId : Bytes32) (asset : Address) :
    reservedOf v swarmId asset = ∑ id, countedFor swarmId asset (v.budgetLines id) := by
  unfold reservedOf
  exact Finset.sum_filter _ _

theorem reservedOf_congr (hlines : v'.budgetLines = v.budgetLines) :
    reservedOf v' swarmId asset = reservedOf v swarmId asset := by
  rw [reservedOf_eq_tally, hlines, ← reservedOf_eq_tally]

theorem reservedOf_update
    (hlines : v'.budgetLines = update v.budgetLines budgetLineId line) :
    reservedOf v' swarmId asset + countedFor swarmId asset (v.budgetLines budgetLineId) =
      reservedOf v swarmId asset + countedFor swarmId asset line := by
  rw [reservedOf_eq_tally, reservedOf_eq_tally, hlines]
  exact tally_update _ _ _ _

theorem Covered.update_iff (h : Covered v)
    (hlines : v'.budgetLines = update v.budgetLines budgetLineId line) :
    Covered v' ↔ line.spent + line.reserved ≤ line.cap ∧
      ∀ s a, reservedOf v s a + countedFor s a line ≤
        v'.swarmBalances s a + countedFor s a (v.budgetLines budgetLineId) := by
  constructor
  · intro h'
    refine ⟨?_, fun s a => ?_⟩
    · simpa [hlines] using h'.line budgetLineId
    · have := h'.swarm s a
      rw [← reservedOf_update hlines]
      omega
  · rintro ⟨hline, hswarm⟩
    refine ⟨fun id => ?_, fun s a => ?_⟩
    · rw [hlines]
      by_cases hid : id = budgetLineId
      · subst hid
        simpa using hline
      · simpa [hid] using h.line id
    · have := hswarm s a
      rw [← reservedOf_update hlines] at this
      omega

/-- A line counts for its own swarm and asset. -/
theorem countedFor_line (hline : LineOf v swarmId budgetLineId) (n s a) :
    countedFor s a { v.budgetLines budgetLineId with reserved := n } =
      if s = swarmId ∧ a = (v.budgetLines budgetLineId).asset then n else 0 := by
  unfold countedFor
  simp only [hline.active, hline.swarm, true_and, eq_comm]

theorem countedFor_reserved (hline : LineOf v swarmId budgetLineId) (s a) :
    countedFor s a (v.budgetLines budgetLineId) =
      if s = swarmId ∧ a = (v.budgetLines budgetLineId).asset then
        (v.budgetLines budgetLineId).reserved else 0 :=
  countedFor_line hline (v.budgetLines budgetLineId).reserved s a

/-- Writing what a line has reserved. -/
theorem Covered.reserved_iff (h : Covered v) (hline : LineOf v swarmId budgetLineId)
    (hlines : v'.budgetLines =
      update v.budgetLines budgetLineId { v.budgetLines budgetLineId with reserved := amount })
    (hbalances : v'.swarmBalances = v.swarmBalances) :
    Covered v' ↔
      (v.budgetLines budgetLineId).spent + amount ≤ (v.budgetLines budgetLineId).cap ∧
        reservedOf v swarmId (v.budgetLines budgetLineId).asset + amount ≤
          v.swarmBalances swarmId (v.budgetLines budgetLineId).asset +
            (v.budgetLines budgetLineId).reserved := by
  rw [h.update_iff hlines, hbalances]
  refine and_congr_right fun _ => ⟨fun hall => ?_, fun hcond s a => ?_⟩
  · have := hall swarmId (v.budgetLines budgetLineId).asset
    rwa [countedFor_line hline, countedFor_reserved hline, if_pos ⟨rfl, rfl⟩,
      if_pos ⟨rfl, rfl⟩] at this
  · rw [countedFor_line hline, countedFor_reserved hline]
    by_cases hsame : s = swarmId ∧ a = (v.budgetLines budgetLineId).asset
    · obtain ⟨rfl, rfl⟩ := hsame
      rwa [if_pos ⟨rfl, rfl⟩, if_pos ⟨rfl, rfl⟩]
    · rw [if_neg hsame, if_neg hsame, Nat.add_zero, Nat.add_zero]
      exact h.swarm s a

/-- Changing one balance. -/
theorem forall_setBalance_iff {total : Bytes32 → Address → ℕ} {balance : ℕ}
    (h : ∀ s a, total s a ≤ v.swarmBalances s a) :
    (∀ s a, total s a ≤ (setBalance v swarmId asset balance).swarmBalances s a) ↔
      total swarmId asset ≤ balance := by
  refine ⟨fun hall => ?_, fun hcond s a => ?_⟩
  · have := hall swarmId asset
    rwa [balance_setBalance, if_pos ⟨rfl, rfl⟩] at this
  · rw [balance_setBalance]
    by_cases hsame : s = swarmId ∧ a = asset
    · obtain ⟨rfl, rfl⟩ := hsame
      rwa [if_pos ⟨rfl, rfl⟩]
    · rw [if_neg hsame]
      exact h s a

/-- A call keeps everything covered exactly if it respects what is reserved. -/
theorem VaultEffect.covered_iff (heffect : VaultEffect D env v msg v') (h : Covered v) :
    Covered v' ↔ RespectsReserved v msg := by
  cases heffect with
  | administered hlines hbalances _ hmsg =>
    have hrespects : RespectsReserved v msg := by
      rcases hmsg with ⟨c, rfl⟩ | ⟨o, a, rfl⟩ <;> trivial
    refine iff_of_true ⟨fun id => hlines ▸ h.line id, fun s a => ?_⟩ hrespects
    rw [reservedOf_congr hlines, hbalances]
    exact h.swarm s a
  | @deposited swarmId _ asset amount =>
    have hswarm := (h.swarm swarmId asset).trans (Nat.le_add_right _ amount)
    refine iff_of_true ⟨h.line, fun s a => ?_⟩ trivial
    have hlines : (setBalance v swarmId asset
        (v.swarmBalances swarmId asset + amount)).budgetLines = v.budgetLines := rfl
    rw [reservedOf_congr hlines]
    exact (forall_setBalance_iff h.swarm).mpr hswarm s a
  | created =>
    refine iff_of_true ((h.update_iff (by rfl)).mpr ⟨?_, fun s a => ?_⟩) trivial
    · exact Nat.zero_le _
    · simp only [countedFor, ite_self]
      rw [Nat.add_zero]
      exact (h.swarm s a).trans (Nat.le_add_right _ _)
  | @reserved swarmId id amount _ available _ _ hline havailable hle =>
    have hcap : (v.budgetLines id).spent + ((v.budgetLines id).reserved + amount) ≤
        (v.budgetLines id).cap := by
      obtain ⟨_, hspent, hreserved⟩ := Option.bind_eq_some_iff.mp havailable
      obtain ⟨_, rfl⟩ := subChecked_eq_some.mp hspent
      obtain ⟨_, rfl⟩ := subChecked_eq_some.mp hreserved
      omega
    refine (h.reserved_iff hline (by rfl) (by rfl)).trans ?_
    rw [and_iff_right hcap]
    change _ ↔ _ + _ ≤ _
    omega
  | @spent swarmId id _ amount _ hline hbalance =>
    refine (h.update_iff rfl).trans (and_congr ?_ ?_)
    · dsimp only
      omega
    · -- what is spent does not count for what is reserved
      have hcounted (s a) : countedFor s a { v.budgetLines id with
          spent := (v.budgetLines id).spent + amount } = countedFor s a (v.budgetLines id) := rfl
      simp only [hcounted, Nat.add_le_add_iff_right]
      refine (forall_setBalance_iff h.swarm).trans ?_
      omega
  | @released swarmId id _ hline =>
    have hcap := h.line id
    have hswarm := h.swarm swarmId (v.budgetLines id).asset
    exact iff_of_true ((h.reserved_iff hline (by rfl) (by rfl)).mpr ⟨by omega, by omega⟩) trivial

theorem Covered.availableToReserve (h : Covered v) (id : Bytes32) :
    (availableToReserve (v.budgetLines id)).isSome := by
  have := h.line id
  have hspent : subChecked (v.budgetLines id).cap (v.budgetLines id).spent =
      some ((v.budgetLines id).cap - (v.budgetLines id).spent) :=
    subChecked_eq_some.mpr ⟨by omega, rfl⟩
  have hreserved : subChecked ((v.budgetLines id).cap - (v.budgetLines id).spent)
      (v.budgetLines id).reserved =
        some ((v.budgetLines id).cap - (v.budgetLines id).spent - (v.budgetLines id).reserved) :=
    subChecked_eq_some.mpr ⟨by omega, rfl⟩
  simp [SwarmBudgetVault.availableToReserve, hspent, hreserved]

theorem covered_deployed (initialOwner : Address) : Covered (deployed initialOwner) where
  line _ := le_rfl
  swarm swarmId asset := by
    rw [reservedOf_eq_tally, Finset.sum_eq_zero]
    · exact Nat.zero_le _
    · intro id _
      exact if_neg (fun h => Bool.false_ne_true h.1)

end covered

section runs

variable {τ : Type} [ERC20SettlementToken τ] {D : BudgetVaultDeployment}

/-- In a run from the constructor every line and every swarm is covered after every step, and what
can be reserved is defined, exactly if every call respects what is reserved. -/
theorem budget_covered_iff {initialOwner : Address} {tokens : Address → τ}
    {steps : List (TraceStep (WithTokens SwarmBudgetVault τ) (Option (Env × Msg)))}
    {w : WithTokens SwarmBudgetVault τ}
    (htrace : Trace (WorldStep (call D)) ⟨deployed initialOwner, tokens⟩ steps w) :
    (∀ t ∈ steps, Covered t.after.contract ∧
        ∀ id, (availableToReserve (t.after.contract.budgetLines id)).isSome) ↔
      ∀ t ∈ steps, ∀ c ∈ t.label, RespectsReserved t.before.contract c.2 := by
  refine (htrace.forall_iff (I := fun w => Covered w.contract)
    (P := fun t => Covered t.after.contract ∧
      ∀ id, (availableToReserve (t.after.contract.budgetLines id)).isSome)
    (C := fun w l => ∀ c ∈ l, RespectsReserved w.contract c.2)
    (fun hstep hcovered hrespects => ?_) (fun hstep hcovered hnot hkept => ?_)
    (covered_deployed initialOwner))
  · cases hstep with
    | @call env msg _ _ hcall =>
      have hmsg := hrespects (env, msg) (Option.mem_some_self _)
      have hcovered' := ((effect_of_call hcall).covered_iff hcovered).mpr hmsg
      exact ⟨hcovered', hcovered', hcovered'.availableToReserve⟩
    | others => exact ⟨hcovered, hcovered, hcovered.availableToReserve⟩
  · cases hstep with
    | call hcall =>
      have hmsg := ((effect_of_call hcall).covered_iff hcovered).mp hkept.1
      exact hnot fun c hc => Option.mem_some_iff.mp hc ▸ hmsg
    | others => exact hnot fun c hc => absurd hc (Option.not_mem_none c)

end runs

/-! ### Runs with and without respect for reservations -/

/-- A reservation of 60 and a payment of 60 on a line with a cap of 100. -/
def spendReserved : List (Option (Env × Msg)) :=
  sampleFunding ++ [some (⟨2, 10⟩, .createBudgetLine 6 5 100 7 0 0),
    some (⟨2, 10⟩, .reserve 6 7 60 11), some (⟨2, 10⟩, .spend 6 7 4 60 0)]

/-- Reservations of 60 on each of two lines of a swarm with a balance of 100. -/
def reserveTwice : List (Option (Env × Msg)) :=
  sampleFunding ++ [some (⟨2, 10⟩, .createBudgetLine 6 5 100 7 0 0),
    some (⟨2, 10⟩, .createBudgetLine 6 5 100 8 0 0), some (⟨2, 10⟩, .reserve 6 7 60 11),
    some (⟨2, 10⟩, .reserve 6 8 60 12)]

/-- In the first run 120 of a cap of 100 are spent or reserved, and a further reservation panics; in
the second 120 are reserved of a balance of 100. -/
theorem budget_uncovered : ∃ steps₁ steps₂ w₁ w₂,
    Trace (WorldStep (call sampleVault)) sampleDeployed steps₁ w₁ ∧
      steps₁.map (·.label) = spendReserved ∧
      (w₁.contract.budgetLines 7).spent + (w₁.contract.budgetLines 7).reserved = 120 ∧
      (w₁.contract.budgetLines 7).cap = 100 ∧ ¬ Covered w₁.contract ∧
      reserve sampleVault ⟨2, 10⟩ 6 7 1 13 w₁.contract = .error .panic ∧
      Trace (WorldStep (call sampleVault)) sampleDeployed steps₂ w₂ ∧
      steps₂.map (·.label) = reserveTwice ∧ 120 ≤ reservedOf w₂.contract 6 5 ∧
      w₂.contract.swarmBalances 6 5 = 100 ∧ ¬ Covered w₂.contract := by
  obtain ⟨steps₁, w₁, htrace₁, hlabels₁, hspent, hcap, hpanic⟩ : ∃ steps₁ w₁,
      Trace (WorldStep (call sampleVault)) sampleDeployed steps₁ w₁ ∧
        steps₁.map (·.label) = spendReserved ∧
        (w₁.contract.budgetLines 7).spent + (w₁.contract.budgetLines 7).reserved = 120 ∧
        (w₁.contract.budgetLines 7).cap = 100 ∧
        reserve sampleVault ⟨2, 10⟩ 6 7 1 13 w₁.contract = .error .panic :=
    Trace.exists_of_execute worldStep_of_execCall ⟨_, rfl, rfl, rfl, rfl⟩
  obtain ⟨steps₂, w₂, htrace₂, hlabels₂, hfirst, hsecond, hbalance⟩ : ∃ steps₂ w₂,
      Trace (WorldStep (call sampleVault)) sampleDeployed steps₂ w₂ ∧
        steps₂.map (·.label) = reserveTwice ∧
        countedFor 6 5 (w₂.contract.budgetLines 7) = 60 ∧
        countedFor 6 5 (w₂.contract.budgetLines 8) = 60 ∧ w₂.contract.swarmBalances 6 5 = 100 :=
    Trace.exists_of_execute worldStep_of_execCall ⟨_, rfl, rfl, rfl, rfl⟩
  have hreserved : 120 ≤ reservedOf w₂.contract 6 5 := by
    rw [reservedOf_eq_tally]
    calc 120 = ∑ id ∈ {(7 : Bytes32), 8}, countedFor 6 5 (w₂.contract.budgetLines id) := by
          rw [Finset.sum_pair (by decide), hfirst, hsecond]
      _ ≤ _ := Finset.sum_le_sum_of_subset (Finset.subset_univ _)
  refine ⟨steps₁, steps₂, w₁, w₂, htrace₁, hlabels₁, hspent, hcap, fun hcovered => ?_, hpanic,
    htrace₂, hlabels₂, hreserved, hbalance, fun hcovered => ?_⟩
  · have := hcovered.line 7
    omega
  · have := hcovered.swarm 6 5
    omega

/-- A reservation of 60 on a fresh line of a swarm with a balance of 100. -/
def reserveOnce : List (Option (Env × Msg)) :=
  sampleFunding ++ [some (⟨2, 10⟩, .createBudgetLine 6 5 100 7 0 0),
    some (⟨2, 10⟩, .reserve 6 7 60 11)]

theorem budget_covered_iff_sample : ∃ steps w,
    Trace (WorldStep (call sampleVault)) sampleDeployed steps w ∧
      steps.map (·.label) = reserveOnce ∧ (w.contract.budgetLines 7).reserved = 60 ∧
      ∀ t ∈ steps, Covered t.after.contract ∧
        ∀ id, (availableToReserve (t.after.contract.budgetLines id)).isSome := by
  obtain ⟨w₁, w₂, w₃, w₄, h₁, h₂, h₃, h₄, hlines, hbalance, hreserved⟩ : ∃ w₁ w₂ w₃ w₄,
      WorldStep (call sampleVault) sampleDeployed
          (some (⟨1, 10⟩, .setAuthorizedOperator 2 true)) w₁ ∧
        WorldStep (call sampleVault) w₁ (some (⟨3, 10⟩, .deposit 6 3 5 100)) w₂ ∧
        WorldStep (call sampleVault) w₂ (some (⟨2, 10⟩, .createBudgetLine 6 5 100 7 0 0)) w₃ ∧
        WorldStep (call sampleVault) w₃ (some (⟨2, 10⟩, .reserve 6 7 60 11)) w₄ ∧
        w₃.contract.budgetLines = update (deployed 1).budgetLines 7
          ⟨7, 6, 5, 100, 0, 0, 7, 0, 10, 0, true⟩ ∧
        w₃.contract.swarmBalances 6 5 = 100 ∧ (w₄.contract.budgetLines 7).reserved = 60 :=
    ⟨_, _, _, _, .call rfl, .call rfl, .call rfl, .call rfl, rfl, rfl, rfl⟩
  have htrace := Trace.cons h₁ (.cons h₂ (.cons h₃ (.cons h₄ .nil)))
  refine ⟨_, _, htrace, rfl, hreserved, (budget_covered_iff htrace).mpr ?_⟩
  -- nothing is reserved on the fresh line
  have hnone : reservedOf w₃.contract 6 5 = 0 := by
    have hzero : reservedOf (deployed 1) 6 5 = 0 :=
      Nat.le_zero.mp ((covered_deployed 1).swarm 6 5)
    have hupdate : reservedOf w₃.contract 6 5 + _ = reservedOf (deployed 1) 6 5 + _ :=
      reservedOf_update hlines
    rw [hzero] at hupdate
    exact (Nat.add_eq_zero_iff.mp hupdate).1
  simp only [List.forall_mem_cons, Option.mem_some_iff, forall_eq', List.not_mem_nil,
    IsEmpty.forall_iff, implies_true, and_true]
  refine ⟨trivial, trivial, trivial, ?_⟩
  have hasset : (w₃.contract.budgetLines 7).asset = 5 := by
    rw [hlines]
    rfl
  change reservedOf w₃.contract 6 (w₃.contract.budgetLines 7).asset + 60 ≤
    w₃.contract.swarmBalances 6 (w₃.contract.budgetLines 7).asset
  rw [hasset, hnone, hbalance]
  decide

end SwarmBudgetVault

end FlowMemory.AgentNetwork
