import FlowMemory.AgentBonds.ExposureBooks

/-! # Bonds and stake

The open bonds of an agent are **backed** if they are within the capacity of the stake.  Acceptance
checks this, and the end of a task only lowers the bonds.  A withdrawal checks the minimal stake but
not the capacity, so the bonds stay backed exactly in the runs in which each deposit and each
withdrawal leaves a stake that has the capacity for them. -/

namespace FlowMemory.AgentBonds

open Call ERC20SettlementToken AgentBondManager

variable {τ : Type} {D : Deployment} {w w' : World τ}

/-- The open bonds of all agents are within the capacity of their stakes. -/
def AgentStakeRegistry.Backed (r : AgentStakeRegistry) : Prop :=
  ∀ a capacity, r.maxOpenBond a = some capacity → r.openBondExposure a ≤ capacity

/-- The stake that a deposit or a withdrawal leaves has the capacity for the open bonds. -/
def LeavesCapacity (sender : Address) : BondMsg → World τ → Prop
  | .stakes m, w => ∀ stake ∈ m.stakeLeft? (w.stakes.stakeOf sender),
      ∀ capacity ∈ w.stakes.maxOpenBondAt stake, w.stakes.openBondExposure sender ≤ capacity
  | _, _ => True

instance (sender : Address) (msg : BondMsg) (w : World τ) :
    Decidable (LeavesCapacity sender msg w) :=
  match msg with
  | .stakes m => inferInstanceAs (Decidable (∀ stake ∈ m.stakeLeft? (w.stakes.stakeOf sender),
      ∀ capacity ∈ w.stakes.maxOpenBondAt stake, w.stakes.openBondExposure sender ≤ capacity))
  | .manager _ => isTrue trivial
  | .escrow _ => isTrue trivial
  | .policies _ => isTrue trivial
  | .pool _ _ => isTrue trivial
  | .poolRegistry _ _ => isTrue trivial
  | .attestations _ _ => isTrue trivial

section steps

variable {r r' : AgentStakeRegistry} {sender : Address} {msg : BondMsg} {u : Unit}

/-- Bonds that do not grow stay backed. -/
theorem AgentStakeRegistry.Backed.mono (h : r.Backed)
    (hcapacity : ∀ a, r'.maxOpenBond a = r.maxOpenBond a)
    (hexposure : ∀ a, r'.openBondExposure a ≤ r.openBondExposure a) : r'.Backed := by
  intro a capacity ha
  rw [hcapacity] at ha
  exact (hexposure a).trans (h a capacity ha)

theorem maxOpenBondAt_congr (hunit : r'.capacityUnit = r.capacityUnit)
    (hbond : r'.capacityBondUnit = r.capacityBondUnit) (stake : ℕ) :
    r'.maxOpenBondAt stake = r.maxOpenBondAt stake := by
  unfold AgentStakeRegistry.maxOpenBondAt AgentStakeRegistry.capacityUnitsAt
  rw [hunit, hbond]

variable [ERC20SettlementToken τ]

/-- A call about a task keeps the bonds backed if it slashes no stake. -/
theorem ManagerStep.backed {msg : AgentBondManager.Msg} {t : Bytes32}
    (hstep : ManagerStep D sender msg w w' t) (hmove : TaskMove D w w' t)
    (hslashed : w'.stakes.slashedStake = w.stakes.slashedStake) (h : w.stakes.Backed) :
    w'.stakes.Backed := by
  have hcapacity (a : Address) : w'.stakes.maxOpenBond a = w.stakes.maxOpenBond a := by
    unfold AgentStakeRegistry.maxOpenBond
    rw [hstep.stakeOf hslashed,
      maxOpenBondAt_congr hstep.rules.capacityUnit hstep.rules.capacityBondUnit]
  by_cases hbonded : (w'.manager.tasks t).status.isBonded = true
  · rcases hstep.step.bonded_cases hbonded with rfl | ⟨hexists, hold, hagent⟩
    · obtain ⟨hexists, hopen, -, -, hagent, hallowed⟩ := hstep.step.accepted
      obtain ⟨limit, hlimit, hle⟩ :=
        AgentStakeRegistry.exposure_le_of_canOpenAgentBond hallowed
      intro a capacity ha
      rw [hcapacity] at ha
      have hbond := hmove.bonds a
      rw [Task.bondOf_of_unbonded (by rw [hopen]; rfl), Task.bondOf_of_bonded hbonded, hagent,
        (hstep.step.terms hexists).agentBond] at hbond
      split_ifs at hbond with hsender
      · subst hsender
        rw [hlimit, Option.some.injEq] at ha
        omega
      · have := h a capacity ha
        omega
    · refine h.mono hcapacity fun a => ?_
      have hbond := hmove.bonds a
      rw [Task.bondOf_of_bonded hold, Task.bondOf_of_bonded hbonded, hagent,
        (hstep.step.terms hexists).agentBond] at hbond
      omega
  · refine h.mono hcapacity fun a => ?_
    have hbond := hmove.bonds a
    rw [Task.bondOf_of_unbonded (Bool.eq_false_of_not_eq_true hbonded)] at hbond
    omega

/-- The manager is the only one to record bonds, no call changes the capacity of a stake and no call
slashes stake. -/
def CapacityFixed (D : Deployment) (sender : Address) (msg : BondMsg) (w : World τ) : Prop :=
  StakesWired D sender msg w ∧ ∀ u w', bondCall D sender msg w = .ok (u, w') →
    w'.stakes.capacityUnit = w.stakes.capacityUnit ∧
    w'.stakes.capacityBondUnit = w.stakes.capacityBondUnit ∧
    w'.stakes.slashedStake = w.stakes.slashedStake

/-- The calls that cannot change the capacity of a stake. -/
def BondMsg.keepsCapacity (D : Deployment) : BondMsg → Bool
  | .manager m => !m.slashes
  | .stakes (.setSlashAuthority authority) => decide (authority = D.manager)
  | .stakes (.setParameters ..) => false
  | .stakes (.slashStake ..) => false
  | _ => true

theorem CapacityFixed.of_keeps
    (hmsg : msg.keepsCapacity D = true) (w : World τ) : CapacityFixed D sender msg w := by
  cases msg with
  | manager m =>
    refine ⟨trivial, fun u w' h => ?_⟩
    rcases managerStep_of_call h with ⟨-, s, -, -, rfl⟩ | ⟨t, hstep⟩
    · exact ⟨rfl, rfl, rfl⟩
    · exact ⟨hstep.rules.capacityUnit, hstep.rules.capacityBondUnit,
        hstep.slashedStake (by simpa [BondMsg.keepsCapacity] using hmsg)⟩
  | stakes m =>
    refine ⟨?_, fun u w' h => ?_⟩
    · cases m with
      | setSlashAuthority authority =>
        have hauthority : authority = D.manager := of_decide_eq_true hmsg
        exact hauthority
      | _ => trivial
    · obtain ⟨s, hs, rfl⟩ := within_ok.mp h
      exact AgentStakeRegistry.call_capacity (by cases m <;> first | rfl | cases hmsg) hs
  | _ =>
    refine ⟨trivial, fun u w' h => ?_⟩
    rw [(bondCall_frame h nofun).stakes nofun]
    exact ⟨rfl, rfl, rfl⟩

/-- A call of an account to the registry. -/
theorem backed_stakesCall {m : AgentStakeRegistry.Msg}
    (hauthority : sender ≠ w.stakes.slashAuthority) (hok : CapacityFixed D sender (.stakes m) w)
    (hcall : bondCall D sender (.stakes m) w = .ok (u, w')) (h : w.stakes.Backed) :
    w'.stakes.Backed ↔ LeavesCapacity sender (.stakes m) w := by
  obtain ⟨hunit, hbond, -⟩ := hok.2 u w' hcall
  obtain ⟨s, hs, rfl⟩ := within_ok.mp hcall
  obtain ⟨hexposure, -, hstake⟩ := AgentStakeRegistry.call_outside hauthority hs
  change s.contract.openBondExposure = w.stakes.openBondExposure at hexposure
  have hcapacity := maxOpenBondAt_congr hunit hbond
  simp only [World.putStakes, World.withStakes] at hcapacity hstake ⊢
  -- the sender is the only account whose stake can change
  have hother {a : Address} (ha : a ≠ sender) :
      s.contract.maxOpenBond a = w.stakes.maxOpenBond a := by
    unfold AgentStakeRegistry.maxOpenBond
    rw [hcapacity, hstake, Function.update_of_ne ha]
  have hself : s.contract.maxOpenBond sender = w.stakes.maxOpenBondAt
      ((m.stakeLeft? (w.stakes.stakeOf sender)).getD (w.stakes.stakeOf sender)) := by
    unfold AgentStakeRegistry.maxOpenBond
    rw [hcapacity, hstake, Function.update_self]
  constructor
  · intro hbacked stake hleft capacity hc
    rw [hleft, Option.getD_some] at hself
    rw [← hexposure]
    exact hbacked sender capacity (hself.trans hc)
  · intro hleaves a capacity ha
    rw [hexposure]
    by_cases hsender : a = sender
    · rw [hsender] at ha ⊢
      cases hleft : m.stakeLeft? (w.stakes.stakeOf sender) with
      | none =>
        rw [hleft, Option.getD_none] at hself
        exact h sender capacity (hself.symm.trans ha)
      | some stake =>
        rw [hleft, Option.getD_some] at hself
        exact hleaves stake hleft capacity (hself.symm.trans ha)
    · rw [hother hsender] at ha
      exact h a capacity ha

theorem backed_call (hbooks : ExposureBooks D w)
    (hw : AllRecorded D w) (hsender : D.External sender) (hok : CapacityFixed D sender msg w)
    (hcall : bondCall D sender msg w = .ok (u, w')) (h : w.stakes.Backed) :
    w'.stakes.Backed ↔ LeavesCapacity sender msg w := by
  cases msg with
  | manager m =>
    refine iff_of_true ?_ trivial
    obtain ⟨-, -, hslashed⟩ := hok.2 u w' hcall
    rcases taskMove_of_call hsender hw hcall with ⟨s, rfl⟩ | ⟨t, hstep, hmove, -⟩
    · exact h
    · exact hstep.backed hmove hslashed h
  | stakes m => exact backed_stakesCall (hbooks.ne_slashAuthority hsender) hok hcall h
  | _ =>
    rw [(bondCall_frame hcall nofun).stakes nofun]
    exact iff_of_true h trivial

end steps

variable [ERC20SettlementToken τ] {w₀ : World τ} {l : List (BondEntry τ)}

/-- **Bonds are backed by stake** in every state of a run with fixed capacities and without slashing
if and only if each deposit and each withdrawal of the run leaves a stake that has the capacity for
the open bonds. -/
theorem bonds_backed_iff (h₀ : w₀.Deployed D) (hrun : BondRun D (CapacityFixed D) w₀ l w) :
    ((∀ e ∈ l, e.before.stakes.Backed) ∧ w.stakes.Backed) ↔
      ∀ e ∈ l, LeavesCapacity e.sender e.msg e.before := by
  induction hrun with
  | start =>
    obtain ⟨owner, a, b, c, d, hs⟩ := h₀.stakes
    refine iff_of_true ⟨by simp, fun x capacity _ => ?_⟩ (by simp)
    rw [hs]
    exact Nat.zero_le _
  | @call l w w' sender msg hrun hsender hok h ih =>
    have hbooks := (hrun.mono D fun _ _ _ h => h.1).exposureBooks h₀
    have hstep := backed_call hbooks (hrun.recorded h₀) hsender hok h
    rw [List.forall_mem_cons, List.forall_mem_cons, ← ih]
    constructor
    · rintro ⟨⟨hbefore, hall⟩, hafter⟩
      exact ⟨(hstep hbefore).mp hafter, hall, hbefore⟩
    · rintro ⟨hleaves, hall, hbefore⟩
      exact ⟨⟨hbefore, hall⟩, (hstep hbefore).mpr hleaves⟩
  | time _ _ ih | token _ _ ih => exact ih

/-- The agent accepts a task with a bond of 8000 on a stake of 10000 and withdraws `amount`. -/
def sampleWithdrawn (amount : Uint256) : List BondInput :=
  sampleSetup samplePolicy ++
    [.call 1 (.manager (.openTask 1 1 1 80000 3)), .call 2 (.manager (.acceptTask 100)),
      .call 2 (.stakes (.withdrawStake amount))]

/-- After a withdrawal of 9900 the bond of 8000 rests on a stake that allows 100. -/
theorem withdrawal_unbacked : ∃ l w,
    follow sampleDeployment (sampleWithdrawn 9900) ([], sampleWorld) = some (l, w) ∧
      BondRun sampleDeployment (CapacityFixed sampleDeployment) sampleWorld l w ∧
      w.stakes.maxOpenBond 2 = some 100 ∧ w.stakes.openBondExposure 2 = 8000 := by
  have hfacts : (follow sampleDeployment (sampleWithdrawn 9900) ([], sampleWorld)).map
      (fun s => (s.2.stakes.maxOpenBond 2, s.2.stakes.openBondExposure 2)) =
        some (some 100, 8000) := by rfl
  obtain ⟨⟨l, w⟩, hw, hstakes⟩ := Option.map_eq_some_iff.mp hfacts
  obtain ⟨hcapacity, hexposure⟩ := Prod.mk.inj hstakes
  refine ⟨l, w, hw, BondRun.start.follow (by decide) (fun c hc w => ?_) hw, hcapacity, hexposure⟩
  exact .of_keeps (by revert c; decide) w

/-- A withdrawal of 1000 leaves a capacity of 8836. -/
theorem bonds_backed_iff_sample : ∃ l w,
    follow sampleDeployment (sampleWithdrawn 1000) ([], sampleWorld) = some (l, w) ∧
      w.stakes.openBondExposure 2 = 8000 ∧ w.stakes.Backed := by
  have hfacts : (follow sampleDeployment (sampleWithdrawn 1000) ([], sampleWorld)).map
      (fun s => (s.2.stakes.openBondExposure 2,
        s.1.all fun e => decide (LeavesCapacity e.sender e.msg e.before))) =
        some (8000, true) := by rfl
  obtain ⟨⟨l, w⟩, hw, hstakes⟩ := Option.map_eq_some_iff.mp hfacts
  obtain ⟨hexposure, hleaves⟩ := Prod.mk.inj hstakes
  have hrun : BondRun sampleDeployment (CapacityFixed sampleDeployment) sampleWorld l w := by
    refine BondRun.start.follow (by decide) (fun c hc w => ?_) hw
    exact .of_keeps (by revert c; decide) w
  refine ⟨l, w, hw, hexposure, ((bonds_backed_iff deployed_sampleWorld hrun).mpr ?_).2⟩
  exact fun e he => of_decide_eq_true (List.all_eq_true.mp hleaves e he)

end FlowMemory.AgentBonds
