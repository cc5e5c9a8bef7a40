import Mathlib.Data.Set.Function
import FlowMemory.AgentMemory.MemoryChain

/-! # The spending cap and the previews of steps

A step checks the cap and makes its preview **before** it calls the tool of the agent, and it books
what was spent and appends its commitment **afterwards**.  A step is **undisturbed** if no call made
inside its tool call steps or corrects the same agent.  If all steps are undisturbed, no agent spends
more than its cap, and every commitment is made for the sequence and the root that the preview was
made for.  A step that is disturbed is committed with a preview made for an earlier sequence. -/

namespace FlowMemory.AgentMemory

open Call AgentBonds BaseOnchainAgentMemory Function

/-! ### What a run asks for -/

/-- The runs of the contract. -/
abbrev MemoryTree : Type := CallTree (Env × BaseOnchainAgentMemory.Msg)

/-- The value that a call forwards to the tool of the agent. -/
def forwardedBy (agentId : Bytes32) : MemoryTree → ℕ
  | .around (_, .step id _ _ _ value) _ => if id = agentId then value else 0
  | _ => 0

def forwarded (agentId : Bytes32) (ts : List MemoryTree) : ℕ :=
  ((CallTree.callsAll ts).map (forwardedBy agentId)).sum

/-- The accept-task policy that a call sets for the agent. -/
def acceptPolicySet (D : MemoryDeployment) (agentId : Bytes32) :
    BaseOnchainAgentMemory.Msg → Option ToolPolicy
  | .setToolPolicy id toolId policy _ =>
    if id = agentId ∧ toolId = D.acceptTaskToolId then some policy else none
  | _ => none

def policiesSet (D : MemoryDeployment) (agentId : Bytes32) (ts : List MemoryTree) :
    List ToolPolicy :=
  (CallTree.callsAll ts).filterMap fun t => acceptPolicySet D agentId t.call.2

/-- The calls that append to the chain of the agent. -/
def appendsTo (agentId : Bytes32) : BaseOnchainAgentMemory.Msg → Bool
  | .step id .. => id = agentId
  | .correctMemory id .. => id = agentId
  | _ => false

/-- No call inside the step appends to the chain of its agent. -/
def Undisturbed : MemoryTree → Prop
  | .around (_, .step agentId ..) inner =>
    ∀ t ∈ CallTree.callsAll inner, appendsTo agentId t.call.2 = false
  | _ => True

/-- No agent whose policy is set once spends more than its cap. -/
def CapsKept (D : MemoryDeployment) (ts : List MemoryTree) : Prop :=
  ∀ agentId policy, policiesSet D agentId ts = [policy] → policy.epochValueCap ≠ 0 →
    forwarded agentId ts ≤ policy.epochValueCap

/-- The commitment of every step hashes the sequence and the root that stand beside the hash. -/
def DeltasMatch (D : MemoryDeployment) (s : BaseOnchainAgentMemory) : Prop :=
  ∀ agentId actionReceiptId observationRoot action actionSucceeded sequence reasonCode newMemoryRoot,
    .agentStepCommitted agentId actionReceiptId observationRoot action actionSucceeded sequence
        reasonCode newMemoryRoot ∈ s.logs →
      (s.memoryCommitments agentId sequence).deltaRoot = D.memoryDeltaRoot agentId sequence
        (s.memoryCommitments agentId sequence).parentRoot observationRoot action reasonCode

/-- The hashes of one observation, action and reason are different for the different stored
commitments of an agent. -/
def DeltasCollisionFree (D : MemoryDeployment) (s : BaseOnchainAgentMemory) : Prop :=
  ∀ agentId observationRoot action reasonCode,
    Set.InjOn (fun k => D.memoryDeltaRoot agentId k (s.memoryCommitments agentId k).parentRoot
      observationRoot action reasonCode) {k | s.memoryCommitments agentId k ≠ .empty}

/-! ### Calls that do not append to a chain -/

/-- The chain of the agent, and what was spent, are as before. -/
def SameChain (v v' : AgentView) : Prop :=
  v'.hotSequence = v.hotSequence ∧ v'.hotRoot = v.hotRoot ∧ v'.spendUsed = v.spendUsed

section frame

variable {D : MemoryDeployment} {s s' : BaseOnchainAgentMemory} {msg : BaseOnchainAgentMemory.Msg}
  {id : Bytes32} {ts : List MemoryTree}

theorem SameChain.refl (v : AgentView) : SameChain v v := ⟨rfl, rfl, rfl⟩

theorem SameChain.trans {v₁ v₂ v₃ : AgentView} (h₁ : SameChain v₁ v₂) (h₂ : SameChain v₂ v₃) :
    SameChain v₁ v₃ :=
  ⟨h₂.1.trans h₁.1, h₂.2.1.trans h₁.2.1, h₂.2.2.trans h₁.2.2⟩

theorem BaseOnchainAgentMemory.PartEffect.sameChain (h : PartEffect D msg s s')
    (hmsg : appendsTo id msg = false) (hid : (s.view id).owner ≠ 0) :
    SameChain (s.view id) (s'.view id) := by
  cases h with
  | registered _ hnew hview _ =>
    exact of_update hview (fun heq => absurd (heq ▸ hnew) hid) (.refl _)
  | policySet _ hview _ =>
    refine of_update hview ?_ (.refl _)
    rintro rfl
    exact ⟨rfl, rfl, rfl⟩
  | statusSet hview _ => exact hview ▸ .refl _
  | called => exact .refl _
  | stepped _ _ hview _ | corrected _ _ hview _ =>
    refine of_update hview (fun heq => ?_) (.refl _)
    simp [appendsTo, heq] at hmsg

theorem respectsParts_sameChain (id : Bytes32) :
    RespectsParts (routine D) (fun t => appendsTo id t.call.2 = false) fun s s' =>
      (s.view id).owner ≠ 0 → (s'.view id).owner ≠ 0 ∧ SameChain (s.view id) (s'.view id) where
  refl _ h := ⟨h, .refl _⟩
  trans h₁ h₂ h := by
    obtain ⟨hid, hsame⟩ := h₁ h
    exact ⟨(h₂ hid).1, hsame.trans (h₂ hid).2⟩
  before hcall hb h :=
    ⟨respectsParts_registered.hands hb id h, (before_effect hb).sameChain hcall h⟩
  after hcall hb hinner ha h :=
    ⟨respectsParts_registered.resumes hb hinner ha id h,
      (after_effect hb hinner ha).sameChain hcall h⟩

theorem sameChain_of_executes (h : Executes (routine D) ts s s')
    (hts : ∀ t ∈ CallTree.callsAll ts, appendsTo id t.call.2 = false)
    (hid : (s.view id).owner ≠ 0) : SameChain (s.view id) (s'.view id) :=
  (h.relatesOf (respectsParts_sameChain id) hts hid).2

end frame

/-! ### Undisturbed steps keep the cap -/

section caps

variable {D : MemoryDeployment} {s s' : BaseOnchainAgentMemory} {id : Bytes32}
  {policy : ToolPolicy} {ts : List MemoryTree} {env : Env} {observation : TaskObservation}
  {expectedPreview : StepPreview} {uri : String} {value : Uint256}

/-- The agent has spent at most the cap of the policy, and has no other accept-task policy. -/
def Capped (D : MemoryDeployment) (policy : ToolPolicy) (v : AgentView) : Prop :=
  v.spendUsed ≤ policy.epochValueCap.val ∧
    (v.policies D.acceptTaskToolId = .empty ∨ v.policies D.acceptTaskToolId = policy)

/-- A part of a call keeps the cap if the value it books fits. -/
theorem BaseOnchainAgentMemory.PartEffect.capped {msg : BaseOnchainAgentMemory.Msg}
    (heffect : PartEffect D msg s s') (hset : ∀ p, acceptPolicySet D id msg = some p → p = policy)
    (hvalue : ∀ {observation expectedPreview uri} {value : Uint256},
      msg = .step id observation expectedPreview uri value →
        (s.view id).spendUsed + value ≤ policy.epochValueCap.val)
    (h : Capped D policy (s.view id)) : Capped D policy (s'.view id) := by
  cases heffect with
  | registered _ _ hview _ =>
    exact of_update hview (fun heq => ⟨Nat.zero_le _, heq ▸ h.2⟩) h
  | @policySet agentId toolId set _ _ _ _ hview _ =>
    refine of_update hview ?_ h
    rintro rfl
    refine ⟨h.1, ?_⟩
    by_cases htool : toolId = D.acceptTaskToolId
    · subst htool
      right
      simp only [update_self]
      exact hset set (by simp [acceptPolicySet])
    · simpa only [update_of_ne (Ne.symm htool)] using h.2
  | statusSet hview _ =>
    rw [hview]
    exact h
  | called => exact h
  | stepped _ _ hview _ =>
    refine of_update hview ?_ h
    rintro rfl
    exact ⟨hvalue rfl, h.2⟩
  | corrected _ _ hview _ => exact of_update hview (fun heq => heq ▸ h) h

/-- A step that calls no tool books nothing. -/
theorem step_value_of_none
    (h : (routine D (env, .step id observation expectedPreview uri value)).before s =
      .ok (none, s')) : value.val = 0 := by
  obtain ⟨-, preview, -, hbegin⟩ := beginStep_ok h
  rcases hbegin with ⟨hnone, -⟩ | ⟨-, hvalue, -⟩
  · cases hnone
  · exact hvalue

/-- The calls inside an undisturbed step do not change the chain of its agent. -/
theorem sameChain_of_undisturbed {t : MemoryTree} (ht : Undisturbed t)
    (hcall : t.call = (env, .step id observation expectedPreview uri value))
    (hinner : Executes (routine D) t.inner s s') (hid : (s.view id).owner ≠ 0) :
    SameChain (s.view id) (s'.view id) := by
  refine sameChain_of_executes hinner ?_ hid
  cases t with
  | quiet i | failed i => simp [CallTree.inner]
  | around i inner =>
    obtain rfl : i = (env, .step id observation expectedPreview uri value) := hcall
    exact ht

theorem keepsParts_capped (id : Bytes32) (hcap : policy.epochValueCap ≠ 0) :
    KeepsParts (routine D)
      (fun t => Undisturbed t ∧ ∀ p, acceptPolicySet D id t.call.2 = some p → p = policy)
      fun s => Capped D policy (s.view id) where
  before {t s o s'} ht hb h := by
    cases o with
    | some a =>
      obtain ⟨_, _, _, _, _, _, -, rfl, -⟩ := handover_step hb
      exact h
    | none =>
      refine (before_effect hb).capped ht.2 (fun {_ _ _ value} hmsg => ?_) h
      have hzero : value.val = 0 := by
        generalize t.call = i at hb hmsg
        obtain ⟨env, msg⟩ := i
        subst hmsg
        exact step_value_of_none hb
      rw [hzero]
      exact h.1
  after {t s₀ a s₁ b s s'} ht hb h₀ hinner ha h := by
    refine (after_effect hb hinner ha).capped ht.2 (fun {_ _ _ value} hmsg => ?_) h
    obtain ⟨env, agentId, _, _, _, _, hcall, rfl, hregistered, -, henabled, hallows⟩ :=
      handover_step hb
    rw [hcall] at hmsg
    cases hmsg
    obtain ⟨-, -, hspend⟩ := sameChain_of_undisturbed ht.1 hcall hinner hregistered
    rw [hspend]
    -- the step passed the check of the cap when it began
    rcases h₀.2 with hempty | hpolicy
    · rw [hempty] at henabled
      cases henabled
    · rw [hpolicy] at hallows
      exact hallows hcap

/-! ### What was forwarded was booked -/

theorem spendUsed_le_of_update {agentId : Bytes32} {v : AgentView}
    (hview : s'.view = update s.view agentId v)
    (hv : (s.view agentId).spendUsed ≤ v.spendUsed) :
    (s.view id).spendUsed ≤ (s'.view id).spendUsed := by
  refine of_update (P := fun v => (s.view id).spendUsed ≤ v.spendUsed) hview ?_ le_rfl
  rintro rfl
  exact hv

theorem BaseOnchainAgentMemory.PartEffect.spendUsed_le {msg : BaseOnchainAgentMemory.Msg}
    (heffect : PartEffect D msg s s') (h : Chained s) (id : Bytes32) :
    (s.view id).spendUsed ≤ (s'.view id).spendUsed := by
  cases heffect with
  | @registered r _ _ _ hnew hview _ =>
    refine spendUsed_le_of_update hview ?_
    rw [((h (r.agentId D)).of_unregistered hnew).2.1]
    exact Nat.zero_le _
  | policySet _ hview _ => exact spendUsed_le_of_update hview le_rfl
  | statusSet hview _ => rw [hview]
  | called => exact le_rfl
  | stepped _ _ hview _ => exact spendUsed_le_of_update hview (Nat.le_add_right _ _)
  | corrected _ _ hview _ => exact spendUsed_le_of_update hview le_rfl

theorem forwardedBy_le_of_after {i : Env × BaseOnchainAgentMemory.Msg} {a : StepPreview} {b : Bool}
    {s₀ s₁ : BaseOnchainAgentMemory} (id : Bytes32) (inner : List MemoryTree)
    (hbefore : (routine D i).before s₀ = .ok (some a, s₁))
    (hafter : (routine D i).after a b s = .ok ((), s')) :
    (s.view id).spendUsed + forwardedBy id (.around i inner) ≤ (s'.view id).spendUsed := by
  obtain ⟨_, agentId, _, _, _, value, rfl, -, hview, -⟩ := after_view hbefore hafter
  rw [hview]
  by_cases heq : agentId = id
  · subst heq
    rw [update_self]
    simp [forwardedBy, AgentView.append]
  · rw [update_of_ne (Ne.symm heq)]
    simp [forwardedBy, heq]

/-- What a run forwards is booked as spent. -/
theorem forwarded_le_spendUsed (h : Executes (routine D) ts s s') (hs : Chained s) :
    (s.view id).spendUsed + forwarded id ts ≤ (s'.view id).spendUsed := by
  induction h with
  | nil => simp [forwarded]
  | @quiet i ts _ _ _ hb _ ih =>
    have hbefore := (before_effect hb).spendUsed_le hs id
    have hrest := ih (respectsParts_chained.hands hb hs).1
    have hsum : forwarded id (.quiet i :: ts) = forwarded id ts := by
      simp [forwarded, forwardedBy]
    omega
  | @failed i ts _ _ _ _ _ hb ha _ ih =>
    have hs₁ := (respectsParts_chained.hands hb hs).1
    have hbefore := (before_effect hb).spendUsed_le hs id
    have hafter := (after_effect hb (.nil _) ha).spendUsed_le hs₁ id
    have hrest := ih (respectsParts_chained.resumes hb (.nil _) ha hs₁).1
    have hsum : forwarded id (.failed i :: ts) = forwarded id ts := by
      simp [forwarded, forwardedBy]
    omega
  | @around i inner ts _ _ _ _ _ _ hb hinner ha _ ihinner ih =>
    have hs₁ := (respectsParts_chained.hands hb hs).1
    have hs₂ := (hinner.relates respectsParts_chained hs₁).1
    have hbefore := (before_effect hb).spendUsed_le hs id
    have hcalls := ihinner hs₁
    have hafter := forwardedBy_le_of_after id inner hb ha
    have hrest := ih (respectsParts_chained.resumes hb hinner ha hs₂).1
    have hsum : forwarded id (.around i inner :: ts) =
        forwardedBy id (.around i inner) + (forwarded id inner + forwarded id ts) := by
      simp [forwarded]
    omega

theorem capsKept_of_undisturbed (h : Executes (routine D) ts deployed s)
    (hts : ∀ t ∈ CallTree.callsAll ts, Undisturbed t) : CapsKept D ts := by
  intro agentId policy hset hcap
  have honly : ∀ t ∈ CallTree.callsAll ts, Undisturbed t ∧
      ∀ p, acceptPolicySet D agentId t.call.2 = some p → p = policy := by
    refine fun t ht => ⟨hts t ht, fun p hp => ?_⟩
    have hmem : p ∈ policiesSet D agentId ts := List.mem_filterMap.mpr ⟨t, ht, hp⟩
    rwa [hset, List.mem_singleton] at hmem
  have hcapped := h.preserves (keepsParts_capped agentId hcap) honly
    ⟨Nat.zero_le _, .inl rfl⟩
  have hspent : 0 + forwarded agentId ts ≤ (s.view agentId).spendUsed :=
    forwarded_le_spendUsed h chained_deployed
  exact (Nat.zero_add (forwarded agentId ts) ▸ hspent).trans hcapped.1

end caps

/-! ### Undisturbed steps commit what they previewed -/

section deltas

variable {D : MemoryDeployment} {s s' : BaseOnchainAgentMemory} {id : Bytes32}
  {ts : List MemoryTree} {e : MemoryEvent}

/-- The entry is of a step whose commitment is stored and hashes its own sequence and root. -/
def Matched (D : MemoryDeployment) (s : BaseOnchainAgentMemory) : MemoryEvent → Prop
  | .agentStepCommitted agentId _ observationRoot action _ sequence reasonCode _ =>
    (s.view agentId).commitments sequence ≠ .empty ∧
      ((s.view agentId).commitments sequence).deltaRoot = D.memoryDeltaRoot agentId sequence
        ((s.view agentId).commitments sequence).parentRoot observationRoot action reasonCode
  | _ => True

theorem Matched.kept (h : Matched D s e) (hkept : KeepsCommitments s s') :
    Matched D s' e := by
  cases e with
  | agentStepCommitted agentId _ _ _ _ sequence _ _ =>
    obtain ⟨hstored, hdelta⟩ := h
    have hsame : (s'.view agentId).commitments sequence = (s.view agentId).commitments sequence :=
      hkept agentId sequence hstored
    exact ⟨hsame ▸ hstored, hsame ▸ hdelta⟩
  | _ => trivial

theorem mem_events : e ∈ s.events ↔ e ∈ s.logs ∧ e.isPulse = false := by
  simp [events]

theorem deltasMatch_of_matched (h : ∀ e ∈ s.events, Matched D s e) : DeltasMatch D s :=
  fun _ _ _ _ _ _ _ _ hmem => (h _ (mem_events.mpr ⟨hmem, rfl⟩)).2

/-- A step that goes on in the chain it previewed. -/
theorem matched_of_step {preview : StepPreview} {value : ℕ} {actionSucceeded : Bool}
    (hpreviewed : Previewed D (s.view id) id preview)
    (hfollows : Follows (s.view id) (stepCommitment D (s.view id) id preview actionSucceeded))
    (hview : s'.view = update s.view id ((s.view id).append
      (stepCommitment D (s.view id) id preview actionSucceeded) value))
    (hevents : s'.events = stepEvents id
      (stepCommitment D (s.view id) id preview actionSucceeded) preview ++ s.events)
    (hkept : KeepsCommitments s s') (h : ∀ e ∈ s.events, Matched D s e) :
    ∀ e ∈ s'.events, Matched D s' e := by
  set c := stepCommitment D (s.view id) id preview actionSucceeded with hc
  have hcommitment : (s'.view id).commitments c.sequence = c := by
    rw [hview, update_self]
    exact update_self c.sequence c (s.view id).commitments
  intro e he
  rw [hevents] at he
  simp only [stepEvents, List.cons_append, List.nil_append, List.mem_cons] at he
  rcases he with rfl | rfl | he
  · trivial
  · simp only [Matched]
    rw [hcommitment]
    exact ⟨hfollows.ne_empty, hpreviewed⟩
  · exact (h e he).kept hkept

theorem matched_of_entry {event : MemoryEvent} (hevents : s'.events = event :: s.events)
    (hevent : Matched D s' event) (hkept : KeepsCommitments s s')
    (h : ∀ e ∈ s.events, Matched D s e) : ∀ e ∈ s'.events, Matched D s' e := by
  rw [hevents]
  exact List.forall_mem_cons.mpr ⟨hevent, fun e he => (h e he).kept hkept⟩

theorem matched_of_before {i : Env × BaseOnchainAgentMemory.Msg} {o : Option StepPreview}
    (hb : (routine D i).before s = .ok (o, s')) (hchained : Chained s)
    (h : ∀ e ∈ s.events, Matched D s e) : ∀ e ∈ s'.events, Matched D s' e := by
  have hkept := (respectsParts_chained.hands hb hchained).2
  have heffect := before_effect hb
  obtain ⟨env, msg⟩ := i
  cases msg with
  | registerAgent r =>
    cases heffect with
    | registered _ _ _ hevents => exact matched_of_entry hevents trivial hkept h
  | setToolPolicy agentId toolId policy uri =>
    cases heffect with
    | policySet _ _ hevents => exact matched_of_entry hevents trivial hkept h
  | setAgentPaused agentId paused uri =>
    cases heffect with
    | statusSet _ hevents => exact matched_of_entry hevents trivial hkept h
  | step agentId observation expectedPreview uri value =>
    obtain ⟨-, preview, hpreviewed, hbegin⟩ := beginStep_ok hb
    rcases hbegin with ⟨-, rfl, -⟩ | ⟨-, -, hfinish⟩
    · exact h
    · obtain ⟨hfollows, hview, hevents⟩ := finishStep_view hfinish
      exact matched_of_step hpreviewed hfollows hview hevents hkept h
  | correctMemory agentId targetSequence correctedDeltaRoot evidenceRoot uri =>
    cases heffect with
    | corrected _ _ _ hevents => exact matched_of_entry hevents trivial hkept h

theorem keepsParts_matched : KeepsParts (routine D) Undisturbed fun s =>
    Chained s ∧ ∀ e ∈ s.events, Matched D s e where
  before _ hb h :=
    ⟨(respectsParts_chained.hands hb h.1).1, matched_of_before hb h.1 h.2⟩
  after {t s₀ a s₁ b s s'} ht hb h₀ hinner ha h := by
    obtain ⟨hchained, hkept⟩ := respectsParts_chained.resumes hb hinner ha h.1
    refine ⟨hchained, ?_⟩
    obtain ⟨env, agentId, _, _, _, _, hcall, rfl, hregistered, hpreviewed, -⟩ := handover_step hb
    obtain ⟨_, _, _, _, _, _, hcall', hfollows, hview, hevents⟩ := after_view hb ha
    rw [hcall] at hcall'
    cases hcall'
    obtain ⟨hsequence, hroot, -⟩ := sameChain_of_undisturbed ht hcall hinner hregistered
    refine matched_of_step ?_ hfollows hview hevents hkept h.2
    rw [Previewed, hsequence, hroot]
    exact hpreviewed

theorem deltasMatch_of_undisturbed (h : Executes (routine D) ts deployed s)
    (hts : ∀ t ∈ CallTree.callsAll ts, Undisturbed t) : DeltasMatch D s :=
  deltasMatch_of_matched (h.preserves keepsParts_matched hts ⟨chained_deployed, nofun⟩).2

end deltas

/-! ### A disturbed step -/

section disturbed

variable {D : MemoryDeployment} {s s' : BaseOnchainAgentMemory} {id : Bytes32}
  {ts : List MemoryTree} {v : AgentView} {c : MemoryCommitment} {agentId : Bytes32}
  {t : MemoryTree}

/-- The chain of a registered agent goes on from where it was. -/
structure AgentView.Extends (v v' : AgentView) : Prop where
  sequence : v.hotSequence ≤ v'.hotSequence
  same : v'.hotSequence = v.hotSequence → v'.hotRoot = v.hotRoot
  next : v.hotSequence < v'.hotSequence →
    (v'.commitments (v.hotSequence + 1)).parentRoot = v.hotRoot

theorem AgentView.Extends.refl (v : AgentView) : v.Extends v :=
  ⟨le_rfl, fun _ => rfl, fun h => absurd h (Nat.lt_irrefl _)⟩

theorem AgentView.Extends.append {value : ℕ}
    (hfollows : Follows v c) : v.Extends (v.append c value) := by
  have hsequence : (v.append c value).hotSequence = v.hotSequence + 1 := hfollows.1
  refine ⟨by omega, by omega, fun _ => ?_⟩
  rw [AgentView.append_commitments_next hfollows, hfollows.2.1]

/-- What every run does from a state with chains. -/
structure Grows (s s' : BaseOnchainAgentMemory) : Prop where
  chained : Chained s'
  kept : KeepsCommitments s s'
  events : ∀ e ∈ s.events, e ∈ s'.events
  registered : ∀ id, (s.view id).owner ≠ 0 → (s'.view id).owner ≠ 0
  extends_ : ∀ id, (s.view id).owner ≠ 0 → (s.view id).Extends (s'.view id)

theorem Grows.trans {s₁ s₂ s₃ : BaseOnchainAgentMemory} (h₁ : Grows s₁ s₂) (h₂ : Grows s₂ s₃) :
    Grows s₁ s₃ := by
  refine ⟨h₂.chained, fun id k hk => ?_, fun e he => h₂.events e (h₁.events e he),
    fun id hid => h₂.registered id (h₁.registered id hid), fun id hid => ?_⟩
  · rw [h₂.kept id k (by rwa [h₁.kept id k hk]), h₁.kept id k hk]
  · have hid₂ := h₁.registered id hid
    have hext₁ := h₁.extends_ id hid
    have hext₂ := h₂.extends_ id hid₂
    refine ⟨hext₁.sequence.trans hext₂.sequence, fun heq => ?_, fun hlt => ?_⟩
    · have := hext₁.sequence
      have := hext₂.sequence
      rw [hext₂.same (by omega), hext₁.same (by omega)]
    · by_cases hfirst : (s₁.view id).hotSequence < (s₂.view id).hotSequence
      · obtain ⟨_, -, hchain⟩ := (h₁.chained id).chain hid₂
        have hstored := (hchain.stored ((s₁.view id).hotSequence + 1)).mpr (by omega)
        have hsame : (s₃.view id).commitments ((s₁.view id).hotSequence + 1) =
            (s₂.view id).commitments ((s₁.view id).hotSequence + 1) := h₂.kept id _ hstored
        rw [hsame, hext₁.next hfirst]
      · have hseq : (s₂.view id).hotSequence = (s₁.view id).hotSequence := by
          have := hext₁.sequence
          omega
        rw [← hseq, hext₂.next (by omega), hext₁.same hseq]

theorem BaseOnchainAgentMemory.PartEffect.grows {msg : BaseOnchainAgentMemory.Msg}
    (heffect : PartEffect D msg s s') (h : Chained s) : Grows s s' := by
  obtain ⟨hchained, hkept⟩ := heffect.chained h
  refine ⟨hchained, hkept, ?_, heffect.registered_mono, fun id hid => ?_⟩
  · cases heffect with
    | registered _ _ _ hevents | policySet _ _ hevents | statusSet _ hevents =>
      rw [hevents]; exact fun e he => List.mem_cons_of_mem _ he
    | called => exact fun e he => he
    | stepped _ _ _ hevents => rw [hevents]; exact fun e he => List.mem_append_right _ he
    | corrected _ _ _ hevents => rw [hevents]; exact fun e he => List.mem_cons_of_mem _ he
  · cases heffect with
    | registered _ hnew hview _ =>
      exact of_update hview (fun heq => absurd (heq ▸ hnew) hid) (.refl _)
    | policySet _ hview _ =>
      refine of_update hview ?_ (.refl _)
      rintro rfl
      exact ⟨le_rfl, fun _ => rfl, fun h => absurd h (Nat.lt_irrefl _)⟩
    | statusSet hview _ =>
      rw [hview]
      exact .refl _
    | called => exact .refl _
    | stepped _ hfollows hview _ | corrected _ hfollows hview _ =>
      refine of_update hview ?_ (.refl _)
      rintro rfl
      exact .append hfollows

theorem respectsParts_grows : RespectsParts (routine D) (fun _ => True) fun s s' =>
    Chained s → Grows s s' where
  refl _ h := ⟨h, fun _ _ _ => rfl, fun _ he => he, fun _ hid => hid, fun _ _ => .refl _⟩
  trans h₁ h₂ h := (h₁ h).trans (h₂ (h₁ h).chained)
  before _ hb := (before_effect hb).grows
  after _ hb hinner ha := (after_effect hb hinner ha).grows

theorem hotSequence_append {value : ℕ}
    (hview : s'.view = update s.view agentId ((s.view agentId).append c value))
    (hfollows : Follows (s.view agentId) c) :
    (s'.view agentId).hotSequence = (s.view agentId).hotSequence + 1 := by
  rw [hview, update_self]
  exact hfollows.1

/-- The second part of a call that appends to the chain. -/
theorem hotSequence_of_after {i : Env × BaseOnchainAgentMemory.Msg} {a : StepPreview} {b : Bool}
    {s₀ s₁ : BaseOnchainAgentMemory} (hbefore : (routine D i).before s₀ = .ok (some a, s₁))
    (hafter : (routine D i).after a b s = .ok ((), s')) (hi : appendsTo id i.2 = true) :
    (s'.view id).hotSequence = (s.view id).hotSequence + 1 := by
  obtain ⟨_, agentId, _, _, _, _, rfl, hfollows, hview, -⟩ := after_view hbefore hafter
  obtain rfl : agentId = id := of_decide_eq_true hi
  exact hotSequence_append hview hfollows

/-- A step or a correction makes the chain of its agent longer. -/
theorem hotSequence_lt_of_call (h : Executes (routine D) [t] s s')
    (ht : appendsTo id t.call.2 = true) (hs : Chained s) (hid : (s.view id).owner ≠ 0) :
    (s.view id).hotSequence < (s'.view id).hotSequence := by
  cases h with
  | @quiet i _ _ _ _ hb hrest =>
    cases hrest
    have heffect := before_effect hb
    obtain ⟨env, msg⟩ := i
    cases msg with
    | registerAgent r | setToolPolicy agentId toolId policy uri
    | setAgentPaused agentId paused uri => cases ht
    | step agentId observation expectedPreview uri value =>
      obtain rfl : agentId = id := of_decide_eq_true ht
      obtain ⟨-, preview, -, hbegin⟩ := beginStep_ok hb
      rcases hbegin with ⟨hnone, -⟩ | ⟨-, -, hfinish⟩
      · cases hnone
      · obtain ⟨hfollows, hview, -⟩ := finishStep_view hfinish
        rw [hotSequence_append hview hfollows]
        exact Nat.lt_succ_self _
    | correctMemory agentId targetSequence correctedDeltaRoot evidenceRoot uri =>
      obtain rfl : agentId = id := of_decide_eq_true ht
      cases heffect with
      | corrected _ hfollows hview _ =>
        rw [hotSequence_append hview hfollows]
        exact Nat.lt_succ_self _
  | failed hb ha hrest =>
    cases hrest
    have hgrows := respectsParts_grows.hands hb hs
    have hlast := hotSequence_of_after hb ha ht
    have := (hgrows.extends_ id hid).sequence
    omega
  | around hb hinner ha hrest =>
    cases hrest
    have hgrows := respectsParts_grows.hands hb hs
    have hcalls := hgrows.trans (hinner.relates respectsParts_grows hgrows.chained)
    have hlast := hotSequence_of_after hb ha ht
    have := (hcalls.extends_ id hid).sequence
    omega

/-- A disturbed step is committed with a hash of an earlier sequence. -/
theorem not_deltasMatch_of_disturbed (h : Executes (routine D) ts deployed s)
    (hfree : DeltasCollisionFree D s) (ht : t ∈ CallTree.callsAll ts)
    (hdisturbed : ¬ Undisturbed t) : ¬ DeltasMatch D s := by
  intro hmatch
  obtain ⟨s₀, s₃, hto, hcall, hfrom⟩ := h.occurs respectsParts_grows ht
  have hs₁ := (hto chained_deployed).chained
  cases hcall with
  | quiet | failed => exact hdisturbed trivial
  | @around i inner _ _ s₁ s₂ _ _ preview hb hinner ha hrest =>
    cases hrest
    obtain ⟨env, id, _, _, _, value, rfl, rfl, hregistered, hpreviewed, -⟩ := handover_step hb
    obtain ⟨hfollows, hview, hevents⟩ := finishStep_view ha
    -- some call inside the step made the chain longer
    have hlonger : (s₁.view id).hotSequence < (s₂.view id).hotSequence := by
      simp only [Undisturbed, not_forall, Bool.not_eq_false] at hdisturbed
      obtain ⟨t', ht', happends⟩ := hdisturbed
      obtain ⟨u, u', hto', hcall', hfrom'⟩ := hinner.occurs respectsParts_grows ht'
      have hu := hto' hs₁
      have hidu := hu.registered id hregistered
      have hlt := hotSequence_lt_of_call hcall' happends hu.chained hidu
      have hu' := hcall'.relates respectsParts_grows hu.chained
      have hlast := (hfrom' hu'.chained).extends_ id (hu'.registered id hidu)
      exact (hu.extends_ id hregistered).sequence.trans_lt (hlt.trans_le hlast.sequence)
    have hgrows₂ := hinner.relates respectsParts_grows hs₁
    have hgrows₃ := respectsParts_grows.resumes hb hinner ha hgrows₂.chained
    have hgrows := hfrom hgrows₃.chained
    have hid₂ := hgrows₂.registered id hregistered
    obtain ⟨_, -, hchain₂⟩ := (hgrows₂.chained id).chain hid₂
    set c := stepCommitment D (s₂.view id) id preview true with hc
    -- the commitment of the step, in the last state
    have hstep₃ : (s₃.view id).commitments ((s₂.view id).hotSequence + 1) = c := by
      rw [hview, update_self]
      exact AgentView.append_commitments_next hfollows
    have hstored₃ : (s₃.view id).commitments ((s₂.view id).hotSequence + 1) ≠ .empty := by
      rw [hstep₃]
      exact hfollows.ne_empty
    have hstep : (s.view id).commitments ((s₂.view id).hotSequence + 1) = c :=
      (hgrows.kept id _ hstored₃).trans hstep₃
    -- the commitment that was next when the step began, in the last state
    have hstored₂ := (hchain₂.stored ((s₁.view id).hotSequence + 1)).mpr (by omega)
    have hfirst : (s.view id).commitments ((s₁.view id).hotSequence + 1) =
        (s₂.view id).commitments ((s₁.view id).hotSequence + 1) :=
      (hgrows₃.trans hgrows).kept id _ hstored₂
    have hparent := (hgrows₂.extends_ id hregistered).next hlonger
    have hentry : MemoryEvent.agentStepCommitted id c.sourceReceiptRoot preview.observationRoot
        preview.action true ((s₂.view id).hotSequence + 1) preview.reasonCode c.newRoot ∈ s.events := by
      refine hgrows.events _ ?_
      rw [hevents]
      exact List.mem_cons_of_mem _ List.mem_cons_self
    have hdelta := hmatch _ _ _ _ _ _ _ _ (mem_events.mp hentry).1
    have hmem₁ : (s.view id).commitments ((s₁.view id).hotSequence + 1) ≠ .empty := by
      rwa [hfirst]
    have hmem₂ : (s.view id).commitments ((s₂.view id).hotSequence + 1) ≠ .empty := by
      rwa [hstep, ← hstep₃]
    have hcollision : D.memoryDeltaRoot id ((s₁.view id).hotSequence + 1)
        ((s.view id).commitments ((s₁.view id).hotSequence + 1)).parentRoot
        preview.observationRoot preview.action preview.reasonCode =
        D.memoryDeltaRoot id ((s₂.view id).hotSequence + 1)
        ((s.view id).commitments ((s₂.view id).hotSequence + 1)).parentRoot
        preview.observationRoot preview.action preview.reasonCode := by
      rw [hfirst, hparent]
      calc _ = preview.memoryDeltaRoot := hpreviewed.symm
        _ = ((s.view id).commitments ((s₂.view id).hotSequence + 1)).deltaRoot := by rw [hstep, hc]; rfl
        _ = _ := hdelta
    have heq := hfree id preview.observationRoot preview.action preview.reasonCode hmem₁ hmem₂
      hcollision
    omega

/-- Given that the hashes of the deltas do not collide: no agent spends more than its cap and every
step commits a hash of its own sequence and root, if and only if no call inside the tool call of a
step steps or corrects the same agent. -/
theorem caps_kept_iff_undisturbed (h : Executes (routine D) ts deployed s)
    (hfree : DeltasCollisionFree D s) :
    CapsKept D ts ∧ DeltasMatch D s ↔ ∀ t ∈ CallTree.callsAll ts, Undisturbed t := by
  constructor
  · rintro ⟨-, hmatch⟩ t ht
    by_contra hdisturbed
    exact not_deltasMatch_of_disturbed h hfree ht hdisturbed hmatch
  · exact fun hts => ⟨capsKept_of_undisturbed h hts, deltasMatch_of_undisturbed h hts⟩

end disturbed

/-! ### Runs with and without a disturbed step -/

/-- The cap of 10 is exceeded: the tool of the agent steps the agent again while it is called, and
both steps forward 10. -/
theorem nested_step_exceeds_cap : ∃ s,
    Executes (routine sampleMemory) sampleNested deployed s ∧
      policiesSet sampleMemory 7 sampleNested = [samplePolicy] ∧ samplePolicy.epochValueCap = 10 ∧
      forwarded 7 sampleNested = 20 ∧ ¬ CapsKept sampleMemory sampleNested ∧
      ¬ DeltasMatch sampleMemory s := by
  have hfacts : (CallTree.runAll (routine sampleMemory) sampleNested deployed).map (fun s =>
      ((s.memoryCommitments 7 2).deltaRoot, (s.logs.drop 1).head?)) =
        some (1, some (.agentStepCommitted 7 0 0 .acceptTask true 2 2 102)) := by rfl
  obtain ⟨s, hs, hfields⟩ := Option.map_eq_some_iff.mp hfacts
  obtain ⟨hdelta, hlog⟩ := Prod.mk.injEq .. ▸ hfields
  have hforwarded : forwarded 7 sampleNested = 20 := by rfl
  refine ⟨s, executes_of_runAll sampleNested hs, rfl, rfl, hforwarded, fun hcaps => ?_,
    fun hmatch => ?_⟩
  · have hle := hcaps 7 samplePolicy rfl (by decide)
    rw [hforwarded] at hle
    exact absurd hle (by decide)
  · have hentry := List.mem_of_mem_drop (List.mem_of_mem_head? (Option.mem_def.mpr hlog))
    have hhash := hmatch _ _ _ _ _ _ _ _ hentry
    rw [hdelta] at hhash
    change (1 : Bytes32) = Fin.ofNat _ 2 at hhash
    exact absurd hhash (by decide)

theorem deltasCollisionFree_sampleMemory {ts : List MemoryTree} {s : BaseOnchainAgentMemory}
    (h : Executes (routine sampleMemory) ts deployed s) : DeltasCollisionFree sampleMemory s := by
  have hchained := (h.relates respectsParts_chained chained_deployed).1
  intro agentId _ _ _ k hk k' hk' heq
  cases hchained agentId with
  | unregistered _ _ _ hcommitments => exact absurd (hcommitments k) hk
  | registered _ _ _ hchain =>
    have hbound := hchain.bounded
    have hlt := (hchain.stored k).mp hk
    have hlt' := (hchain.stored k').mp hk'
    simp only [sampleMemory, Fin.ext_iff, Fin.val_ofNat] at heq
    rwa [Nat.mod_eq_of_lt (by omega), Nat.mod_eq_of_lt (by omega)] at heq

/-- The tool of the agent is passive in two steps. -/
def samplePassive : List MemoryTree :=
  sampleSetup ++ [.around (sampleStep 0 4) [], .around (sampleStep 1 6) []]

theorem caps_kept_iff_undisturbed_sample : ∃ s,
    CallTree.runAll (routine sampleMemory) samplePassive deployed = some s ∧
      CapsKept sampleMemory samplePassive ∧ DeltasMatch sampleMemory s := by
  have hfacts : (CallTree.runAll (routine sampleMemory) samplePassive deployed).map (fun s =>
      (s.hotMemory 7).sequence) = some 2 := by decide +kernel
  obtain ⟨s, hs, -⟩ := Option.map_eq_some_iff.mp hfacts
  have hrun := executes_of_runAll samplePassive hs
  refine ⟨s, hs, (caps_kept_iff_undisturbed hrun (deltasCollisionFree_sampleMemory hrun)).mpr ?_⟩
  simp only [samplePassive, sampleSetup, List.cons_append, List.nil_append, CallTree.callsAll_quiet,
    CallTree.callsAll_around, CallTree.callsAll_nil, List.forall_mem_cons]
  exact ⟨trivial, trivial, nofun, nofun, nofun⟩

end FlowMemory.AgentMemory
