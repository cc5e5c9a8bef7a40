import FlowMemory.AgentMemory.BaseOnchainAgentMemory

/-! # What the parts of a call do to an agent

The **view** of an agent has what the steps and corrections of the agent read and write, without the
pulses.  Every part of a call changes the view of at most one agent: it registers the agent, changes a
tool policy, or **appends** a commitment to the chain of the agent.  The pulses in the log are left out
of `events`. -/

namespace FlowMemory.AgentMemory

open Call AgentBonds Function

structure AgentView where
  owner : Address
  (agentRoot hotRoot : Bytes32)
  (agentSequence hotSequence spendUsed : ℕ)
  commitments : ℕ → MemoryCommitment
  policies : Bytes32 → ToolPolicy

/-- The chain with one more commitment. -/
def AgentView.append (v : AgentView) (c : MemoryCommitment) (value : ℕ) : AgentView :=
  { v with
    agentRoot := c.newRoot
    hotRoot := c.newRoot
    agentSequence := c.sequence
    hotSequence := c.sequence
    spendUsed := v.spendUsed + value
    commitments := update v.commitments c.sequence c }

def MemoryEvent.isPulse : MemoryEvent → Bool
  | .flowPulse .. => true
  | _ => false

namespace BaseOnchainAgentMemory

def view (s : BaseOnchainAgentMemory) (agentId : Bytes32) : AgentView where
  owner := (s.agents agentId).owner
  agentRoot := (s.agents agentId).latestMemoryRoot
  hotRoot := (s.hotMemory agentId).latestMemoryRoot
  agentSequence := (s.agents agentId).sequence
  hotSequence := (s.hotMemory agentId).sequence
  spendUsed := (s.hotMemory agentId).spendUsedThisEpoch
  commitments := s.memoryCommitments agentId
  policies := s.toolPolicies agentId

def events (s : BaseOnchainAgentMemory) : List MemoryEvent := s.logs.filter fun e => !e.isPulse

variable {D : MemoryDeployment} {env : Env} {s s' : BaseOnchainAgentMemory} {u : Unit}
  {agentId : Bytes32} {uri : String}
  {id parentPulseId pulseId rootfieldId toolId : Bytes32}
  {actor : Address} {pulseType value : ℕ} {s₁ : BaseOnchainAgentMemory}
  {agent : AgentConfig} {policy : ToolPolicy} {a expectedPreview preview : StepPreview}
  {actionSucceeded b : Bool} {observation : TaskObservation} {o : Option StepPreview}
  {i : Env × Msg} {subject : Bytes32} {s₀ : BaseOnchainAgentMemory}

/-! ### Pulses -/

attribute [simp] blockTimestamp emit setLastPulseId requireAgentOwner

/-- The state after a pulse. -/
def pulsed (s : BaseOnchainAgentMemory) (rootfieldId : Bytes32) (pulse : MemoryEvent) :
    BaseOnchainAgentMemory :=
  { s with
    pulseCounts := update s.pulseCounts rootfieldId (s.pulseCounts rootfieldId + 1)
    logs := pulse :: s.logs }

theorem emitAgentPulse_pulsed {commitment : Bytes32}
    (h : emitAgentPulse D env rootfieldId actor pulseType subject commitment parentPulseId uri s =
      .ok (pulseId, s')) :
    ∃ pulse : MemoryEvent, pulse.isPulse = true ∧ s' = s.pulsed rootfieldId pulse := by
  simp [emitAgentPulse, -Nat.reducePow] at h
  obtain ⟨-, -, -, rfl⟩ := h
  exact ⟨_, rfl, rfl⟩

theorem events_pulsed {event : MemoryEvent} (h : event.isPulse = true) :
    (s.pulsed rootfieldId event).events = s.events := by
  simp [events, pulsed, h]

/-- The state after the last pulse of a call and the entries of the call. -/
def closed (s : BaseOnchainAgentMemory) (agentId pulseId : Bytes32) (entries : List MemoryEvent) :
    BaseOnchainAgentMemory :=
  { s with
    hotMemory := update s.hotMemory agentId
      { s.hotMemory agentId with lastPulseId := pulseId }
    logs := entries ++ s.logs }

/-- The end of a call does not change the views and leaves its entries in the log. -/
theorem closing (entries : List MemoryEvent) {commitment : Bytes32}
    (hpulse : emitAgentPulse D env rootfieldId actor pulseType subject commitment parentPulseId uri
      s = .ok (pulseId, s₁)) (hentries : entries.filter (fun e => !e.isPulse) = entries)
    (hs' : s' = s₁.closed agentId pulseId entries) :
    s'.view = s.view ∧ s'.events = entries ++ s.events := by
  obtain ⟨pulse, hisPulse, rfl⟩ := emitAgentPulse_pulsed hpulse
  subst hs'
  constructor
  · funext id
    by_cases hid : id = agentId
    · subst hid
      simp [view, closed, pulsed]
    · simp [view, closed, pulsed, update_of_ne hid]
  · simp [events, closed, pulsed, hisPulse, hentries]

/-! ### Administration -/

@[simp] theorem requireAgent_ok :
    requireAgent agentId s = .ok (agent, s') ↔
      (s.agents agentId).owner ≠ 0 ∧ agent = s.agents agentId ∧ s' = s := by
  simp [requireAgent, and_assoc, and_left_comm, and_comm]

/-- The view of an agent that was just registered. -/
def Registration.view (r : Registration) (old : AgentView) : AgentView :=
  { old with
    owner := r.owner
    agentRoot := r.initialMemoryRoot
    hotRoot := r.initialMemoryRoot
    agentSequence := 0
    hotSequence := 0
    spendUsed := 0 }

/-- The entry of a registration. -/
def Registration.event (D : MemoryDeployment) (r : Registration) : MemoryEvent :=
  .agentRegistered (r.agentId D) r.rootfieldId r.owner r.policyRoot r.toolAllowlistRoot
    r.initialMemoryRoot r.kernelClass r.uri

theorem registerAgent_view {r : Registration} (h : registerAgent D env r s = .ok (id, s')) :
    r.owner ≠ 0 ∧ (s.view (r.agentId D)).owner = 0 ∧
      s'.view = update s.view (r.agentId D) (r.view (s.view (r.agentId D))) ∧
      s'.events = r.event D :: s.events := by
  simp [registerAgent] at h
  obtain ⟨howner, -, -, -, -, -, hnew, pulseId, s₁, hpulse, -, hs'⟩ := h
  obtain ⟨hview, hevents⟩ := closing [r.event D] hpulse rfl hs'
  refine ⟨howner, hnew, ?_, hevents⟩
  rw [hview]
  exact eq_update_iff.mpr ⟨by simp [view, Registration.view],
    fun id hid => by simp [view, hid]⟩

theorem setToolPolicy_view (h : setToolPolicy D env agentId toolId policy uri s = .ok (u, s')) :
    (s.view agentId).owner ≠ 0 ∧
      s'.view = update s.view agentId
        { s.view agentId with
          policies := update (s.view agentId).policies toolId policy } ∧
      s'.events = .agentToolPolicySet agentId toolId policy :: s.events := by
  simp [setToolPolicy] at h
  obtain ⟨⟨hregistered, -⟩, -, -, -, pulseId, s₁, hpulse, hs'⟩ := h
  obtain ⟨hview, hevents⟩ := closing [.agentToolPolicySet ..] hpulse rfl hs'
  refine ⟨hregistered, ?_, hevents⟩
  rw [hview]
  exact eq_update_iff.mpr ⟨by simp [view], fun id hid => by simp [view, hid]⟩

theorem setAgentPaused_view {paused : Bool}
    (h : setAgentPaused D env agentId paused uri s = .ok (u, s')) :
    s'.view = s.view ∧ ∃ status, s'.events = .agentStatusSet agentId status uri :: s.events := by
  simp [setAgentPaused] at h
  obtain ⟨-, pulseId, s₁, hpulse, hs'⟩ := h
  obtain ⟨hview, hevents⟩ := closing [.agentStatusSet ..] hpulse rfl hs'
  refine ⟨?_, _, hevents⟩
  rw [hview]
  funext id
  by_cases hid : id = agentId
  · subst hid
    simp [view]
  · simp [view, update_of_ne hid]

/-! ### Commitments -/

/-- The commitment is the next one of the chain, and its number fits. -/
def Follows (v : AgentView) (c : MemoryCommitment) : Prop :=
  c.sequence = v.hotSequence + 1 ∧ c.parentRoot = v.hotRoot ∧ c.sequence < 2 ^ 64

/-- The commitment of a correction. -/
def correction (D : MemoryDeployment) (v : AgentView) (agentId : Bytes32) (targetSequence : ℕ)
    (correctedDeltaRoot evidenceRoot : Bytes32) : MemoryCommitment :=
  ⟨v.hotRoot, correctedDeltaRoot,
    D.newMemoryRoot agentId (v.hotSequence + 1) v.hotRoot correctedDeltaRoot
      (v.commitments targetSequence).sourceReceiptRoot true,
    (v.commitments targetSequence).sourceReceiptRoot, evidenceRoot, v.hotSequence + 1, .scarTissue,
    true⟩

theorem correctMemory_view {targetSequence : ℕ} {correctedDeltaRoot evidenceRoot : Bytes32}
    (h : correctMemory D env agentId targetSequence correctedDeltaRoot evidenceRoot uri s =
      .ok (u, s')) :
    (s.view agentId).owner ≠ 0 ∧
      ∃ c, Follows (s.view agentId) c ∧
        s'.view = update s.view agentId ((s.view agentId).append c 0) ∧
        ∃ correctionId, s'.events = .agentMemoryCorrected agentId correctionId c.parentRoot
          c.newRoot evidenceRoot targetSequence c.sequence uri :: s.events := by
  simp [correctMemory] at h
  obtain ⟨⟨hregistered, -⟩, -, -, -, hfits, pulseId, s₁, hpulse, hs'⟩ := h
  obtain ⟨hview, hevents⟩ := closing [.agentMemoryCorrected ..] hpulse rfl hs'
  refine ⟨hregistered,
    correction D (s.view agentId) agentId targetSequence correctedDeltaRoot evidenceRoot,
    ⟨rfl, rfl, hfits⟩, ?_, _, hevents⟩
  rw [hview]
  exact eq_update_iff.mpr ⟨by simp [view, AgentView.append, correction],
    fun id hid => by simp [view, hid]⟩

/-- The identifier of the action of a step. -/
def receipt (D : MemoryDeployment) (v : AgentView) (agentId : Bytes32) (preview : StepPreview)
    (actionSucceeded : Bool) : Bytes32 :=
  D.actionReceiptId agentId (v.hotSequence + 1) preview.previewHash preview.action actionSucceeded

/-- The commitment of a step. -/
def stepCommitment (D : MemoryDeployment) (v : AgentView) (agentId : Bytes32)
    (preview : StepPreview) (actionSucceeded : Bool) : MemoryCommitment :=
  ⟨v.hotRoot, preview.memoryDeltaRoot,
    D.newMemoryRoot agentId (v.hotSequence + 1) v.hotRoot preview.memoryDeltaRoot
      (receipt D v agentId preview actionSucceeded) actionSucceeded,
    receipt D v agentId preview actionSucceeded, preview.observationRoot, v.hotSequence + 1,
    if actionSucceeded = true then .episodic else .scarTissue, actionSucceeded⟩

/-- The entries of a step. -/
def stepEvents (agentId : Bytes32) (c : MemoryCommitment) (preview : StepPreview) :
    List MemoryEvent :=
  [.agentMemoryCommitted agentId c.newRoot c.sourceReceiptRoot c.parentRoot c.deltaRoot c.memoryType
      c.sequence,
    .agentStepCommitted agentId c.sourceReceiptRoot c.metadataCommitment preview.action
      c.actionSucceeded c.sequence preview.reasonCode c.newRoot]

theorem finishStep_view
    (h : finishStep D env agentId preview value uri actionSucceeded s = .ok (u, s')) :
    Follows (s.view agentId) (stepCommitment D (s.view agentId) agentId preview actionSucceeded) ∧
      s'.view = update s.view agentId ((s.view agentId).append
        (stepCommitment D (s.view agentId) agentId preview actionSucceeded) value) ∧
      s'.events = stepEvents agentId
        (stepCommitment D (s.view agentId) agentId preview actionSucceeded) preview ++ s.events := by
  simp [finishStep, commitStepMemory, emitStepOutput] at h
  obtain ⟨hfits, failureCount, -, stepPulseId, s₁, hstep, memoryPulseId, s₂, hmemory, hs'⟩ := h
  obtain ⟨pulse, hisPulse, rfl⟩ := emitAgentPulse_pulsed hstep
  obtain ⟨hview, hevents⟩ := closing [_, _] hmemory rfl hs'
  refine ⟨⟨rfl, rfl, hfits⟩, ?_, by rw [hevents, events_pulsed hisPulse]; rfl⟩
  rw [hview]
  exact eq_update_iff.mpr ⟨by simp [view, pulsed, AgentView.append, stepCommitment, receipt],
    fun id hid => by simp [view, pulsed, hid]⟩

/-! ### The beginning of a step -/

/-- The preview was made for the next commitment of the chain. -/
def Previewed (D : MemoryDeployment) (v : AgentView) (agentId : Bytes32) (preview : StepPreview) :
    Prop :=
  preview.memoryDeltaRoot = D.memoryDeltaRoot agentId (v.hotSequence + 1) v.hotRoot
    preview.observationRoot preview.action preview.reasonCode

/-- The preview calls the tool of the policy. -/
structure Accepts (D : MemoryDeployment) (policy : ToolPolicy) (taskId : Bytes32)
    (preview : StepPreview) : Prop where
  toolId : preview.toolId = D.acceptTaskToolId
  target : preview.target = policy.target
  selector : preview.selector = policy.selector
  callDataHash : preview.callDataHash = D.callDataHash policy.selector taskId

theorem chooseAction_ok {chosen : StepPreview}
    (h : chooseAction D agentId observation s = .ok (chosen, s')) :
    s' = s ∧ (chosen.action = .acceptTask →
      Accepts D (s.toolPolicies agentId D.acceptTaskToolId) observation.taskId chosen) := by
  simp only [chooseAction, bind_ok, get_ok] at h
  obtain ⟨_, _, ⟨rfl, rfl⟩, h⟩ := h
  -- the answers before the count of failures, and those after it
  iterate 3
    split at h
    · obtain ⟨rfl, rfl⟩ := pure_ok.mp h
      exact ⟨rfl, by simp [StepPreview.plain]⟩
  simp only [bind_ok, okOr_ok] at h
  obtain ⟨failures, _, ⟨-, rfl⟩, h⟩ := h
  split_ifs at h <;> obtain ⟨rfl, rfl⟩ := pure_ok.mp h
  iterate 4 exact ⟨rfl, by simp [StepPreview.plain]⟩
  exact ⟨rfl, fun _ => ⟨rfl, rfl, rfl, rfl⟩⟩

theorem previewStep_ok (h : previewStep D agentId observation s = .ok (preview, s')) :
    s' = s ∧ Previewed D (s.view agentId) agentId preview ∧
      (preview.action = .acceptTask →
        Accepts D ((s.view agentId).policies D.acceptTaskToolId) observation.taskId preview) := by
  simp [previewStep] at h
  obtain ⟨-, chosen, hchosen, -, rfl⟩ := h
  obtain ⟨rfl, haccepts⟩ := chooseAction_ok hchosen
  refine ⟨rfl, rfl, fun haction => ?_⟩
  obtain ⟨htool, htarget, hselector, hcallData⟩ := haccepts haction
  exact ⟨htool, htarget, hselector, hcallData⟩

/-- The tool policy allows the value, after what was spent before. -/
def PolicyAllows (policy : ToolPolicy) (value spent : ℕ) : Prop :=
  policy.enabled = true ∧ (policy.epochValueCap ≠ 0 → spent + value ≤ policy.epochValueCap.val)

theorem requireAllowedTool_ok {spent : ℕ}
    (h : requireAllowedTool D agentId toolId policy value spent s = .ok (u, s')) :
    s' = s ∧ PolicyAllows policy value spent := by
  simp [requireAllowedTool] at h
  obtain ⟨⟨henabled, -⟩, -, ⟨-, rfl⟩, hcap⟩ := h
  exact ⟨rfl, henabled, hcap⟩

@[simp] theorem validatedPreview_ok {currentSequence : ℕ} :
    validatedPreview D agentId observation expectedPreview value currentSequence s =
        .ok (preview, s') ↔
      previewStep D agentId observation s = .ok (preview, s') ∧
        expectedPreview.sequence = currentSequence ∧
        expectedPreview.previewHash = preview.previewHash ∧ value ≤ preview.maxValue := by
  simp [validatedPreview]

/-- What the beginning of a step did: it hands over with its preview, or the step is over. -/
theorem beginStep_ok
    (h : beginStep D env agentId observation expectedPreview uri value s = .ok (o, s')) :
    (s.view agentId).owner ≠ 0 ∧
      ∃ preview, Previewed D (s.view agentId) agentId preview ∧
        (o = some preview ∧ s' = s ∧
            PolicyAllows ((s.view agentId).policies D.acceptTaskToolId) value
              (s.view agentId).spendUsed ∨
          o = none ∧ value = 0 ∧ finishStep D env agentId preview 0 uri true s = .ok ((), s')) := by
  simp only [beginStep, bind_ok, requireAgent_ok, revertIf_ok, get_ok] at h
  obtain ⟨_, _, ⟨hregistered, rfl, rfl⟩, -, _, ⟨-, rfl⟩, _, _, ⟨rfl, rfl⟩, preview, _, hvalid, h⟩ := h
  obtain ⟨hpreview, -, happroved, hvalue⟩ := validatedPreview_ok.mp hvalid
  obtain ⟨rfl, hpreviewed, haccepts⟩ := previewStep_ok hpreview
  refine ⟨hregistered, preview, hpreviewed, ?_⟩
  split at h
  · rename_i haction
    simp only [bind_ok, pure_ok] at h
    obtain ⟨⟨⟩, _, hallowed, rfl, rfl⟩ := h
    obtain ⟨rfl, hallows⟩ := requireAllowedTool_ok hallowed
    rw [(haccepts haction).toolId] at hallows
    exact .inl ⟨rfl, rfl, hallows⟩
  · simp only [bind_ok, revertIf_ok, pure_ok, not_not] at h
    obtain ⟨-, _, ⟨hvalue, rfl⟩, ⟨⟩, _, hfinish, rfl, rfl⟩ := h
    exact .inr ⟨rfl, hvalue, hvalue ▸ hfinish⟩

/-! ### Parts of calls -/

/-- What a part of a call does. -/
inductive PartEffect (D : MemoryDeployment) :
    Msg → BaseOnchainAgentMemory → BaseOnchainAgentMemory → Prop
  | registered {r : Registration} {s s' : BaseOnchainAgentMemory} (howner : r.owner ≠ 0)
      (hnew : (s.view (r.agentId D)).owner = 0)
      (hview : s'.view = update s.view (r.agentId D) (r.view (s.view (r.agentId D))))
      (hevents : s'.events = r.event D :: s.events) : PartEffect D (.registerAgent r) s s'
  | policySet {agentId toolId : Bytes32} {policy : ToolPolicy} {uri : String}
      {s s' : BaseOnchainAgentMemory} (hregistered : (s.view agentId).owner ≠ 0)
      (hview : s'.view = update s.view agentId
        { s.view agentId with
          policies := update (s.view agentId).policies toolId policy })
      (hevents : s'.events = .agentToolPolicySet agentId toolId policy :: s.events) :
      PartEffect D (.setToolPolicy agentId toolId policy uri) s s'
  | statusSet {agentId : Bytes32} {paused : Bool} {uri : String} {s s' : BaseOnchainAgentMemory}
      {status : AgentStatus} (hview : s'.view = s.view)
      (hevents : s'.events = .agentStatusSet agentId status uri :: s.events) :
      PartEffect D (.setAgentPaused agentId paused uri) s s'
  | called {agentId : Bytes32} {observation : TaskObservation} {expectedPreview : StepPreview}
      {uri : String} {value : Uint256} (s : BaseOnchainAgentMemory) :
      PartEffect D (.step agentId observation expectedPreview uri value) s s
  | stepped {agentId : Bytes32} {observation : TaskObservation} {expectedPreview : StepPreview}
      {uri : String} {value : Uint256} {s s' : BaseOnchainAgentMemory} {preview : StepPreview}
      {actionSucceeded : Bool} (hregistered : (s.view agentId).owner ≠ 0)
      (hfollows : Follows (s.view agentId)
        (stepCommitment D (s.view agentId) agentId preview actionSucceeded))
      (hview : s'.view = update s.view agentId ((s.view agentId).append
        (stepCommitment D (s.view agentId) agentId preview actionSucceeded) value))
      (hevents : s'.events = stepEvents agentId
        (stepCommitment D (s.view agentId) agentId preview actionSucceeded) preview ++ s.events) :
      PartEffect D (.step agentId observation expectedPreview uri value) s s'
  | corrected {agentId : Bytes32} {targetSequence : UInt64}
      {correctedDeltaRoot evidenceRoot correctionId : Bytes32} {uri : String}
      {s s' : BaseOnchainAgentMemory} {c : MemoryCommitment}
      (hregistered : (s.view agentId).owner ≠ 0) (hfollows : Follows (s.view agentId) c)
      (hview : s'.view = update s.view agentId ((s.view agentId).append c 0))
      (hevents : s'.events = .agentMemoryCorrected agentId correctionId c.parentRoot c.newRoot
        evidenceRoot targetSequence.toNat c.sequence uri :: s.events) :
      PartEffect D (.correctMemory agentId targetSequence correctedDeltaRoot evidenceRoot uri) s s'

theorem plain_before {m : MemoryAction Unit}
    (h : (Handover.plain m : Handover _ _ StepPreview).before s = .ok (o, s')) :
    o = none ∧ m s = .ok ((), s') := by
  simp only [Handover.plain, bind_ok, pure_ok] at h
  obtain ⟨⟨⟩, _, hm, rfl, rfl⟩ := h
  exact ⟨rfl, hm⟩

theorem before_effect (h : (routine D i).before s = .ok (o, s')) : PartEffect D i.2 s s' := by
  obtain ⟨env, msg⟩ := i
  cases msg with
  | registerAgent r =>
    obtain ⟨-, hcall⟩ := plain_before h
    simp only [bind_ok, pure_ok] at hcall
    obtain ⟨id, _, hregister, -, rfl⟩ := hcall
    obtain ⟨howner, hnew, hview, hevents⟩ := registerAgent_view hregister
    exact .registered howner hnew hview hevents
  | setToolPolicy agentId toolId policy uri =>
    obtain ⟨hregistered, hview, hevents⟩ := setToolPolicy_view (plain_before h).2
    exact .policySet hregistered hview hevents
  | setAgentPaused agentId paused uri =>
    obtain ⟨hview, status, hevents⟩ := setAgentPaused_view (plain_before h).2
    exact .statusSet hview hevents
  | step agentId observation expectedPreview uri value =>
    obtain ⟨hregistered, preview, -, hbegin⟩ := beginStep_ok h
    rcases hbegin with ⟨-, rfl, -⟩ | ⟨-, hvalue, hfinish⟩
    · exact .called s'
    · obtain ⟨hfollows, hview, hevents⟩ := finishStep_view hfinish
      exact .stepped hregistered hfollows (by rw [hvalue]; exact hview) hevents
  | correctMemory agentId targetSequence correctedDeltaRoot evidenceRoot uri =>
    obtain ⟨hregistered, c, hfollows, hview, correctionId, hevents⟩ :=
      correctMemory_view (plain_before h).2
    exact .corrected hregistered hfollows hview hevents

/-- Only a step hands over control, and it goes on for the same agent. -/
theorem handover_step (h : (routine D i).before s = .ok (some a, s₁)) :
    ∃ env agentId observation expectedPreview uri value,
      i = (env, .step agentId observation expectedPreview uri value) ∧ s₁ = s ∧
      (s.view agentId).owner ≠ 0 ∧ Previewed D (s.view agentId) agentId a ∧
      PolicyAllows ((s.view agentId).policies D.acceptTaskToolId) value
        (s.view agentId).spendUsed := by
  obtain ⟨env, msg⟩ := i
  cases msg with
  | registerAgent r | setToolPolicy agentId toolId policy uri
  | setAgentPaused agentId paused uri => cases (plain_before h).1
  | step agentId observation expectedPreview uri value =>
    obtain ⟨hregistered, preview, hpreviewed, hbegin⟩ := beginStep_ok h
    rcases hbegin with ⟨ho, rfl, hallows⟩ | ⟨ho, -⟩
    · cases ho
      exact ⟨_, _, _, _, _, _, rfl, rfl, hregistered, hpreviewed, hallows⟩
    · cases ho
  | correctMemory agentId targetSequence correctedDeltaRoot evidenceRoot uri =>
    cases (plain_before h).1

/-- Registered agents stay registered. -/
theorem PartEffect.registered_mono {msg : Msg} (h : PartEffect D msg s s') (id : Bytes32)
    (hid : (s.view id).owner ≠ 0) : (s'.view id).owner ≠ 0 := by
  cases h with
  | registered howner _ hview _ => exact of_update (P := (·.owner ≠ 0)) hview (fun _ => howner) hid
  | policySet hregistered hview _ | stepped hregistered _ hview _
  | corrected hregistered _ hview _ =>
    exact of_update (P := (·.owner ≠ 0)) hview (fun _ => hregistered) hid
  | statusSet hview _ =>
    rw [hview]
    exact hid
  | called => exact hid

/-- The second part of a call is the end of a step. -/
theorem after_view (hbefore : (routine D i).before s₀ = .ok (some a, s₁))
    (h : (routine D i).after a b s = .ok ((), s')) :
    ∃ env agentId observation expectedPreview uri value,
      i = (env, .step agentId observation expectedPreview uri value) ∧
      Follows (s.view agentId) (stepCommitment D (s.view agentId) agentId a b) ∧
      s'.view = update s.view agentId ((s.view agentId).append
        (stepCommitment D (s.view agentId) agentId a b) value) ∧
      s'.events = stepEvents agentId (stepCommitment D (s.view agentId) agentId a b) a ++
        s.events := by
  obtain ⟨env, agentId, observation, expectedPreview, uri, value, rfl, -⟩ := handover_step hbefore
  exact ⟨env, agentId, observation, expectedPreview, uri, value, rfl, finishStep_view h⟩

/-- No part of a call unregisters an agent. -/
theorem respectsParts_registered : RespectsParts (routine D) (fun _ => True) fun s s' =>
    ∀ id, (s.view id).owner ≠ 0 → (s'.view id).owner ≠ 0 where
  refl _ _ h := h
  trans h₁ h₂ id h := h₂ id (h₁ id h)
  before _ h := (before_effect h).registered_mono
  after _ hb _ ha := by
    obtain ⟨_, agentId, _, _, _, _, -, -, hview, -⟩ := after_view hb ha
    exact fun id hid => of_update (P := (·.owner ≠ 0)) hview (fun heq => heq ▸ hid) hid

theorem registered_of_executes {ts : List (CallTree (Env × Msg))}
    (h : Executes (routine D) ts s s') (hid : (s.view id).owner ≠ 0) : (s'.view id).owner ≠ 0 :=
  h.relates respectsParts_registered id hid

/-- The second part of a step, after the calls inside it. -/
theorem after_effect
    {inner : List (CallTree (Env × Msg))} (hbefore : (routine D i).before s₀ = .ok (some a, s₁))
    (hinner : Executes (routine D) inner s₁ s)
    (h : (routine D i).after a b s = .ok ((), s')) : PartEffect D i.2 s s' := by
  obtain ⟨_, agentId, _, _, _, _, rfl, rfl, hregistered, -⟩ := handover_step hbefore
  obtain ⟨hfollows, hview, hevents⟩ := finishStep_view h
  exact .stepped (registered_of_executes hinner hregistered) hfollows hview hevents

end BaseOnchainAgentMemory

end FlowMemory.AgentMemory
