import FlowMemory.AgentNetwork.AgentFactory
import FlowMemory.Lib.Forest

/-! # The lineage of launched agents

The records of the lineage registry should be a **forest**: following the parents of an agent visits
no agent twice, and the generation of a child is one more than that of its parent.  The factory looks
neither at the record of the parent nor at the children that the new agent already has, and stores
the generation 1 always: `lineage_forest_iff` says that the records are a forest exactly if no launch
names a parent that itself has a record, or the agent itself, or launches an agent with a parent after
its children. -/

namespace FlowMemory.AgentNetwork

open Call AgentBonds AgentMemory ERC20SettlementToken

namespace AgentLineageRegistry

/-- The parent in the record of an agent. -/
def parentOf (r : AgentLineageRegistry) (agentId : Bytes32) : Option Bytes32 :=
  if (r.lineageOf agentId).parentAgentId = 0 then none else some (r.lineageOf agentId).parentAgentId

/-- The stored generation of an agent, zero without a record. -/
def generationOf (r : AgentLineageRegistry) (agentId : Bytes32) : ℕ :=
  (r.lineageOf agentId).generation

/-- The records are a forest with true depths. -/
structure IsForest (r : AgentLineageRegistry) : Prop where
  neverTwice : ∀ agentId, NeverTwice r.parentOf agentId
  generation : ∀ child parent, r.parentOf child = some parent →
    r.generationOf child = r.generationOf parent + 1

/-- What the registry keeps: an agent has a record of generation 1 or none, and the lists of children
list the children. -/
structure Recorded (r : AgentLineageRegistry) : Prop where
  record : ∀ a, r.lineageOf a = .empty ∨ ((r.lineageOf a).agentId ≠ 0 ∧ r.generationOf a = 1)
  children : ∀ a p, r.parentOf a = some p ↔ a ∈ r.agentChildren p

variable {r r' : AgentLineageRegistry}

theorem parentOf_eq_some {a p : Bytes32} :
    r.parentOf a = some p ↔ (r.lineageOf a).parentAgentId = p ∧ p ≠ 0 := by
  unfold parentOf
  split
  case isTrue hzero => simp [hzero, eq_comm]
  case isFalse hne =>
    constructor
    · rintro ⟨⟩
      exact ⟨rfl, hne⟩
    · rintro ⟨rfl, -⟩
      rfl

theorem recorded_deployed (owner : Address) : (deployed owner).Recorded where
  record _ := .inl rfl
  children a p := by
    have hnone : (deployed owner).parentOf a = none := rfl
    have hchildren : (deployed owner).agentChildren p = [] := rfl
    simp [hnone, hchildren]

theorem Recorded.of_eq (h : r.Recorded) (hlineage : r'.lineageOf = r.lineageOf)
    (hchildren : r'.agentChildren = r.agentChildren) : r'.Recorded := by
  refine ⟨fun a => ?_, fun a p => ?_⟩
  · unfold generationOf
    rw [hlineage]
    exact h.record a
  · unfold parentOf
    rw [hlineage, hchildren]
    exact h.children a p

theorem IsForest.of_eq (h : r.IsForest) (hlineage : r'.lineageOf = r.lineageOf) : r'.IsForest := by
  have hparent : r'.parentOf = r.parentOf := by
    funext a
    unfold parentOf
    rw [hlineage]
  refine ⟨fun a => hparent ▸ h.neverTwice a, fun c p hp => ?_⟩
  rw [hparent] at hp
  unfold generationOf
  rw [hlineage]
  exact h.generation c p hp

theorem isForest_of_generation (h : ∀ child parent, r.parentOf child = some parent →
    r.generationOf child = r.generationOf parent + 1) : r.IsForest :=
  ⟨neverTwice_of_depth h, h⟩

theorem isForest_deployed (owner : Address) : (deployed owner).IsForest :=
  isForest_of_generation fun child parent h => by
    have hnone : (deployed owner).parentOf child = none := rfl
    rw [hnone] at h
    cases h

theorem mem_addChild {children : Bytes32 → List Bytes32} {parent child a p : Bytes32} :
    a ∈ addChild children parent child p ↔ a ∈ children p ∨ (p = parent ∧ p ≠ 0 ∧ a = child) := by
  unfold addChild
  by_cases hzero : parent = 0
  · simp only [hzero, ne_eq, not_true_eq_false, if_false]
    grind
  · by_cases hp : p = parent
    · subst hp
      simp [hzero]
    · simp [hzero, hp]

/-! ### A new record -/

section attached

variable {agentId : Bytes32} {l : Lineage}
  (hl : r'.lineageOf = Function.update r.lineageOf agentId l)
include hl

theorem parentOf_attached {a p : Bytes32} :
    r'.parentOf a = some p ↔
      if a = agentId then l.parentAgentId = p ∧ p ≠ 0 else r.parentOf a = some p := by
  rw [parentOf_eq_some, hl]
  by_cases ha : a = agentId
  · subst ha
    simp
  · simp [ha, parentOf_eq_some]

theorem generationOf_attached {a : Bytes32} :
    r'.generationOf a = if a = agentId then l.generation else r.generationOf a := by
  unfold generationOf
  rw [hl]
  by_cases ha : a = agentId
  · subst ha
    simp
  · simp [ha]

end attached

/-- A record of generation 1 keeps what the registry keeps. -/
theorem Recorded.attach (h : r.Recorded) {agentId : Bytes32} {l : Lineage}
    (hfresh : (r.lineageOf agentId).agentId = 0) (hagent : agentId ≠ 0) (hl : l.agentId = agentId)
    (hgeneration : l.generation = 1)
    (hlineage : r'.lineageOf = Function.update r.lineageOf agentId l)
    (hchildren : r'.agentChildren = addChild r.agentChildren l.parentAgentId agentId) :
    r'.Recorded := by
  refine ⟨fun a => ?_, fun a p => ?_⟩
  · rw [generationOf_attached hlineage, hlineage]
    by_cases ha : a = agentId
    · subst ha
      right
      simpa [hl] using ⟨hagent, hgeneration⟩
    · simpa [ha] using h.record a
  · rw [parentOf_attached hlineage, hchildren, mem_addChild, ← h.children]
    by_cases ha : a = agentId
    · subst ha
      have hnone : r.lineageOf a = .empty := (h.record a).resolve_right fun hrec => hrec.1 hfresh
      have hparent : ¬ r.parentOf a = some p := by
        rw [parentOf_eq_some, hnone]
        rintro ⟨rfl, hzero⟩
        exact hzero rfl
      simp only [if_true, hparent, false_or, and_true, eq_comm]
    · simp [ha]

/-- A new record keeps the forest exactly if its parent has no record and is another agent, and the
agent has no children yet. -/
theorem isForest_attach_iff (h : r.Recorded) (hforest : r.IsForest) {agentId : Bytes32}
    {l : Lineage}
    (hfresh : (r.lineageOf agentId).agentId = 0) (hgeneration : l.generation = 1)
    (hlineage : r'.lineageOf = Function.update r.lineageOf agentId l) :
    r'.IsForest ↔ (l.parentAgentId ≠ 0 →
        (r.lineageOf l.parentAgentId).agentId = 0 ∧ l.parentAgentId ≠ agentId) ∧
      r.agentChildren agentId = [] := by
  have hgenerations := @generationOf_attached r r' agentId l hlineage
  constructor
  · intro hforest'
    refine ⟨fun hparent => ?_, List.eq_nil_iff_forall_not_mem.mpr fun child hchild => ?_⟩
    · -- the parent has the generation 0, since the new record has the generation 1
      have hdepth := hforest'.generation agentId l.parentAgentId
        ((parentOf_attached hlineage).mpr (by simp [hparent]))
      rw [hgenerations, hgenerations, if_pos rfl, hgeneration] at hdepth
      by_cases hself : l.parentAgentId = agentId
      · rw [if_pos hself] at hdepth
        omega
      · rw [if_neg hself] at hdepth
        rcases h.record l.parentAgentId with hnone | ⟨-, hone⟩
        · rw [hnone]
          exact ⟨rfl, hself⟩
        · omega
    · -- a child of the agent would need the generation 2
      have hparent := (h.children child agentId).mpr hchild
      have hne : child ≠ agentId := by
        rintro rfl
        have hnone := (h.record child).resolve_right fun hrec => hrec.1 hfresh
        rw [parentOf_eq_some, hnone] at hparent
        exact hparent.2 hparent.1.symm
      have hdepth := hforest'.generation child agentId
        ((parentOf_attached hlineage).mpr (by rw [if_neg hne]; exact hparent))
      have hold := hforest.generation child agentId hparent
      have hnone := (h.record agentId).resolve_right fun hrec => hrec.1 hfresh
      rw [hgenerations, hgenerations, if_neg hne, if_pos rfl, hgeneration] at hdepth
      have hzero : r.generationOf agentId = 0 := by
        unfold generationOf
        rw [hnone]
        rfl
      omega
  · rintro ⟨hparent, hchildren⟩
    refine isForest_of_generation fun child parent hp => ?_
    rw [parentOf_attached hlineage] at hp
    rw [hgenerations, hgenerations]
    by_cases hchild : child = agentId
    · rw [if_pos hchild] at hp
      obtain ⟨rfl, hzero⟩ := hp
      obtain ⟨hnone, hself⟩ := hparent hzero
      rw [if_pos hchild, if_neg hself, hgeneration]
      have hempty := (h.record l.parentAgentId).resolve_right fun hrec => hrec.1 hnone
      unfold generationOf
      rw [hempty]
      rfl
    · rw [if_neg hchild] at hp ⊢
      have hne : parent ≠ agentId := by
        rintro rfl
        have hmem := (h.children child parent).mp hp
        rw [hchildren] at hmem
        cases hmem
      rw [if_neg hne]
      exact hforest.generation child parent hp

end AgentLineageRegistry

/-! ### Launches -/

namespace AgentFactory

variable {τ : Type} [ERC20SettlementToken τ] {D : LaunchDeployment} {env : Env}
  {w w' : WithTokens LaunchContracts τ}

/-- A launch with a parent names a parent without a record, which is not the new agent, and the new
agent has no children. -/
def Rooted (D : LaunchDeployment) (r : AgentLineageRegistry) : Msg → Prop
  | .launchAgent intent _ _ => intent.parentAgentId ≠ 0 ∨ intent.parentSwarmId ≠ 0 →
      (intent.parentAgentId ≠ 0 → (r.lineageOf intent.parentAgentId).agentId = 0 ∧
        intent.parentAgentId ≠ agentIdOf D intent) ∧ r.agentChildren (agentIdOf D intent) = []
  | _ => True

instance (r : AgentLineageRegistry) : (msg : Msg) → Decidable (Rooted D r msg)
  | .launchAgent _ _ _ => inferInstanceAs (Decidable (_ ∨ _ → _))
  | .ownable _ | .setLaunchGuardian _ | .setPaused _ | .setIntentWindows _ _ |
    .cancelLaunchIntent _ _ | .profileRegistry _ | .lineageRegistry _ | .bondEscrow _ |
    .fuelVault _ => .isTrue trivial

/-- The records after a step: they stay what the registry keeps, and a forest stays a forest exactly
if the step is rooted. -/
theorem forest_of_step {l : Option (Env × Msg)} (hstep : LaunchStep D w l w')
    (hrecorded : w.contract.lineageRegistry.Recorded)
    (hforest : w.contract.lineageRegistry.IsForest) :
    w'.contract.lineageRegistry.Recorded ∧ (w'.contract.lineageRegistry.IsForest ↔
      ∀ c ∈ l, Rooted D w.contract.lineageRegistry c.2) := by
  cases hstep with
  | others => exact ⟨hrecorded, iff_of_true hforest nofun⟩
  | @call env msg _ _ hcall =>
    by_cases hlaunch : ∃ intent sig payment, msg = .launchAgent intent sig payment
    · obtain ⟨intent, sig, payment, rfl⟩ := hlaunch
      obtain ⟨classConfig, hlaunched⟩ := launchAgent_ok hcall
      have hlineage := hlaunched.lineage
      by_cases hparent : intent.parentAgentId ≠ 0 ∨ intent.parentSwarmId ≠ 0
      · rw [if_pos hparent] at hlineage
        obtain ⟨hagent, hfresh, hrecords, hchildren⟩ := hlineage
        refine ⟨hrecorded.attach hfresh hagent rfl rfl hrecords hchildren, ?_⟩
        rw [AgentLineageRegistry.isForest_attach_iff hrecorded hforest hfresh rfl hrecords]
        simp only [Option.mem_def, Option.some.injEq, forall_eq', Rooted, lineageOfLaunch]
        exact (imp_iff_right hparent).symm
      · rw [if_neg hparent] at hlineage
        rw [hlineage]
        refine ⟨hrecorded, iff_of_true hforest fun c hc => ?_⟩
        cases hc
        exact fun hyes => absurd hyes hparent
    · have hkept := notLaunched_of_call (fun intent sig payment heq =>
        hlaunch ⟨intent, sig, payment, heq⟩) hcall
      refine ⟨hrecorded.of_eq hkept.lineageOf hkept.agentChildren,
        iff_of_true (hforest.of_eq hkept.lineageOf) fun c hc => ?_⟩
      cases hc
      cases msg with
      | launchAgent intent sig payment => exact absurd ⟨intent, sig, payment, rfl⟩ hlaunch
      | _ => trivial

/-- In every run the records are a forest exactly if all launches are rooted. -/
theorem lineage_forest_iff {owner : Address}
    (hdeployed : w.contract.lineageRegistry = .deployed owner)
    {steps : List (TraceStep (WithTokens LaunchContracts τ) (Option (Env × Msg)))}
    (htrace : Trace (LaunchStep D) w steps w') :
    (∀ t ∈ steps, t.after.contract.lineageRegistry.IsForest) ↔
      ∀ t ∈ steps, ∀ c ∈ t.label, Rooted D t.before.contract.lineageRegistry c.2 := by
  refine htrace.forall_iff
    (I := fun w => w.contract.lineageRegistry.Recorded ∧ w.contract.lineageRegistry.IsForest)
    (P := fun t => t.after.contract.lineageRegistry.IsForest)
    (C := fun w l => ∀ c ∈ l, Rooted D w.contract.lineageRegistry c.2)
    (fun hstep hinv hrooted => ?_) (fun hstep hinv hrooted hforest => ?_) ?_
  · obtain ⟨hrecorded, hiff⟩ := forest_of_step hstep hinv.1 hinv.2
    exact ⟨⟨hrecorded, hiff.mpr hrooted⟩, hiff.mpr hrooted⟩
  · exact hrooted ((forest_of_step hstep hinv.1 hinv.2).2.mp hforest)
  · rw [hdeployed]
    exact ⟨AgentLineageRegistry.recorded_deployed owner, AgentLineageRegistry.isForest_deployed owner⟩

/-! ### A cycle and a grandchild -/

/-- The account 3 launches the agents 1 and 2, each with the other as its parent. -/
def launchCycle : List (Option (Env × Msg)) :=
  sampleSetup ++ [sampleLaunchOf 3 0 1 2, sampleLaunchOf 3 1 2 1]

/-- The account 3 launches the agent 1, its child 2 and the child 3 of that. -/
def launchGrandchild : List (Option (Env × Msg)) :=
  sampleSetup ++ [sampleLaunchOf 3 0 1 0, sampleLaunchOf 3 1 2 1, sampleLaunchOf 3 2 3 2]

/-- Two agents can be the parents of each other, and a grandchild has the generation of its
parent. -/
theorem lineage_not_forest : ∃ steps₁ steps₂ w₁ w₂,
    Trace (LaunchStep sampleDeployment) sampleContracts steps₁ w₁ ∧
      steps₁.map (·.label) = launchCycle ∧
      w₁.contract.lineageRegistry.parentOf 1 = some 2 ∧
      w₁.contract.lineageRegistry.parentOf 2 = some 1 ∧
      ¬ NeverTwice w₁.contract.lineageRegistry.parentOf 1 ∧
      Trace (LaunchStep sampleDeployment) sampleContracts steps₂ w₂ ∧
      steps₂.map (·.label) = launchGrandchild ∧
      w₂.contract.lineageRegistry.parentOf 3 = some 2 ∧
      w₂.contract.lineageRegistry.generationOf 2 = 1 ∧
      w₂.contract.lineageRegistry.generationOf 3 = 1 := by
  obtain ⟨steps₁, w₁, htrace₁, hlabels₁, hone, htwo⟩ : ∃ steps w,
      Trace (LaunchStep sampleDeployment) sampleContracts steps w ∧
        steps.map (·.label) = launchCycle ∧ w.contract.lineageRegistry.parentOf 1 = some 2 ∧
        w.contract.lineageRegistry.parentOf 2 = some 1 :=
    Trace.exists_of_execute launchStep_of_exec (by decide +kernel)
  obtain ⟨steps₂, w₂, htrace₂, hlabels₂, hgrandchild⟩ : ∃ steps w,
      Trace (LaunchStep sampleDeployment) sampleContracts steps w ∧
        steps.map (·.label) = launchGrandchild ∧
        w.contract.lineageRegistry.parentOf 3 = some 2 ∧
        w.contract.lineageRegistry.generationOf 2 = 1 ∧
        w.contract.lineageRegistry.generationOf 3 = 1 :=
    Trace.exists_of_execute launchStep_of_exec (by decide +kernel)
  refine ⟨steps₁, steps₂, w₁, w₂, htrace₁, hlabels₁, hone, htwo, fun hnever => ?_, htrace₂, hlabels₂,
    hgrandchild⟩
  have htwice : ancestor w₁.contract.lineageRegistry.parentOf 2 1 = some 1 := by
    simp [ancestor, hone, htwo]
  cases hnever 0 2 1 rfl htwice

/-- The agent 1 and its child 2. -/
def launchChild : List (Option (Env × Msg)) :=
  sampleSetup ++ [sampleLaunchOf 3 0 1 0, sampleLaunchOf 3 1 2 1]

theorem lineage_forest_iff_sample : ∃ steps w,
    Trace (LaunchStep sampleDeployment) sampleContracts steps w ∧
      steps.map (·.label) = launchChild ∧ w.contract.lineageRegistry.parentOf 2 = some 1 ∧
      ∀ t ∈ steps, t.after.contract.lineageRegistry.IsForest := by
  obtain ⟨steps, w, htrace, hlabels, hparent, hrooted⟩ : ∃ steps w,
      Trace (LaunchStep sampleDeployment) sampleContracts steps w ∧
        steps.map (·.label) = launchChild ∧ w.contract.lineageRegistry.parentOf 2 = some 1 ∧
        ∀ t ∈ steps, ∀ c ∈ t.label,
          Rooted sampleDeployment t.before.contract.lineageRegistry c.2 :=
    Trace.exists_of_execute launchStep_of_exec (by decide +kernel)
  exact ⟨steps, w, htrace, hlabels, hparent, (lineage_forest_iff rfl htrace).mpr hrooted⟩

end AgentFactory

end FlowMemory.AgentNetwork
