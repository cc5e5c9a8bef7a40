import FlowMemory.AgentNetwork.AgentFactory

/-! # Handles of agents

The profile registry keeps the handle of an agent in its profile and the agent of a handle in a second
map.  `handles_exact` says that in every run the two maps are **inverse** to each other: no handle has
two agents, and a handle that no profile has can be claimed. -/

namespace FlowMemory.AgentNetwork.AgentProfileRegistry

open Call AgentBonds Function

variable {env : Env} {msg : Msg} {r r' : AgentProfileRegistry}

/-- An accepted call of the registry. -/
def ProfileStep (r : AgentProfileRegistry) (c : Env × Msg) (r' : AgentProfileRegistry) : Prop :=
  call c.1 c.2 r = .ok ((), r')

/-- The agent of a handle is the one whose profile has it. -/
def HandlesExact (r : AgentProfileRegistry) : Prop :=
  ∀ h a, h ≠ 0 → a ≠ 0 → (r.handleToAgentId h = a ↔ (r.profiles a).handleHash = h)

theorem claimHandle_apply {agentId previousHandle handleHash h : Bytes32} (hh : h ≠ 0) :
    claimHandle r agentId previousHandle handleHash h =
      if h = handleHash then agentId else if h = previousHandle then 0 else r.handleToAgentId h := by
  unfold claimHandle
  grind

theorem HandlesExact.call (hexact : r.HandlesExact) (h : call env msg r = .ok ((), r')) :
    r'.HandlesExact := by
  intro k b hk hb
  have hold (a) (ha : a ≠ 0) := hexact k a hk ha
  cases msg with
  | ownable c =>
    simp only [AgentProfileRegistry.call, inOwnable, within_ok] at h
    obtain ⟨_, _, rfl⟩ := h
    exact hold b hb
  | setAuthorizedRegistrar registrar authorized =>
    simp [AgentProfileRegistry.call, setAuthorizedRegistrar, inOwnable] at h
    obtain ⟨-, -, rfl⟩ := h
    exact hold b hb
  | setProfile agentId owner digest metadata tags avatar handle discoverable =>
    simp [AgentProfileRegistry.call, setProfile] at h
    obtain ⟨hagent, -, -, -, hfree, _, -, rfl⟩ := h
    -- a handle is free or the agent's own, and the one given up was the agent's own
    have hprevious := hold agentId hagent
    simp only [claimHandle_apply hk, update_apply]
    grind
  | setDiscoverable agentId discoverable =>
    simp [AgentProfileRegistry.call, setDiscoverable] at h
    obtain ⟨-, -, -, rfl⟩ := h
    rw [hold b hb]
    simp only [update_apply]
    split_ifs with hagent
    · rw [hagent]
    · rfl

/-- In every run from the constructor a handle leads to the agent whose profile has it, no handle has
two agents, and a handle that no agent has can be claimed for every agent by its writer. -/
theorem handles_exact {initialOwner : Address}
    {steps : List (TraceStep AgentProfileRegistry (Env × Msg))}
    (htrace : Trace ProfileStep (deployed initialOwner) steps r) :
    r.HandlesExact ∧
      (∀ a b, a ≠ 0 → b ≠ 0 → (r.profiles a).handleHash ≠ 0 →
        (r.profiles a).handleHash = (r.profiles b).handleHash → a = b) ∧
      ∀ env agentId owner digest metadata tags avatar h discoverable,
        h ≠ 0 → (∀ a ≠ 0, (r.profiles a).handleHash ≠ h) →
        agentId ≠ 0 → owner ≠ 0 → digest ≠ 0 →
        env.sender = (if (r.profiles agentId).agentId = 0 then owner
          else (r.profiles agentId).owner) → (r.profiles agentId).version + 1 < 2 ^ 64 →
        ∃ r', setProfile env agentId owner digest metadata tags avatar h discoverable r =
          .ok ((), r') ∧ r'.handleToAgentId h = agentId := by
  have hexact : r.HandlesExact := htrace.invariant (fun hstep h => h.call hstep) fun h a hh ha =>
    iff_of_false ha.symm hh.symm
  refine ⟨hexact, fun a b ha hb hzero hsame => ?_, ?_⟩
  · exact ((hexact _ a hzero ha).mpr rfl).symm.trans ((hexact _ b hzero hb).mpr hsame.symm)
  · intro env agentId owner digest metadata tags avatar h discoverable hh hfree hagent howner hdigest
      hsender hversion
    have hnone : r.handleToAgentId h = 0 := by
      by_contra hsome
      exact hfree _ hsome ((hexact h _ hh hsome).mp rfl)
    obtain ⟨version, hnext⟩ : ∃ version, (if (r.profiles agentId).agentId = 0 then some 1
        else addChecked 64 (r.profiles agentId).version 1) = some version := by
      rw [addChecked, if_pos hversion]
      split <;> exact ⟨_, rfl⟩
    simp [setProfile, hagent, howner, hdigest, hsender, hnone, hnext, claimHandle_apply hh]

/-- The account 2 claims the handle 5 for the agent 7, takes the handle 6 in its place, and the account
3 claims the handle 5 for the agent 8. -/
def handleReclaimed : List (Env × Msg) :=
  [(⟨2, 10⟩, .setProfile 7 2 1 1 1 1 5 true), (⟨2, 11⟩, .setProfile 7 2 1 1 1 1 6 true),
    (⟨3, 12⟩, .setProfile 8 3 1 1 1 1 5 true)]

theorem handles_exact_sample : ∃ steps r, Trace ProfileStep (deployed 1) steps r ∧
    steps.map (·.label) = handleReclaimed ∧ r.handleToAgentId 5 = 8 ∧
    (r.profiles 8).handleHash = 5 := by
  obtain ⟨steps, r, htrace, hlabels, hhandle⟩ : ∃ steps r, Trace ProfileStep (deployed 1) steps r ∧
      steps.map (·.label) = handleReclaimed ∧ r.handleToAgentId 5 = 8 :=
    Trace.exists_of_execute after_eq_some.mp (by decide +kernel)
  have hexact := (handles_exact htrace).1 5 8 (by decide) (by decide)
  exact ⟨steps, r, htrace, hlabels, hhandle, hexact.mp hhandle⟩

end FlowMemory.AgentNetwork.AgentProfileRegistry
