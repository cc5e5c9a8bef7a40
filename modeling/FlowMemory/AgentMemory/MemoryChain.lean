import FlowMemory.AgentMemory.MemoryParts

/-! # The memory of an agent is an append-only chain

The commitments of an agent are numbered `1, …, n`, each names the root of the one before it, and the
first one the root the agent was **registered** with.  This holds whenever other code has control:
between two calls, and inside a step while the tool of the agent runs.  A commitment that was stored is
never changed. -/

namespace FlowMemory.AgentMemory

open Call AgentBonds BaseOnchainAgentMemory Function

/-- The root after the `k`-th commitment. -/
def AgentView.rootAt (v : AgentView) (initialRoot : Bytes32) : ℕ → Bytes32
  | 0 => initialRoot
  | k + 1 => (v.commitments (k + 1)).newRoot

/-- The commitments form a chain that starts at `initialRoot`. -/
structure ChainFrom (initialRoot : Bytes32) (v : AgentView) : Prop where
  bounded : v.hotSequence < 2 ^ 64
  stored : ∀ k, v.commitments k ≠ .empty ↔ 1 ≤ k ∧ k ≤ v.hotSequence
  agentSequence : v.agentSequence = v.hotSequence
  numbered : ∀ k, 1 ≤ k → k ≤ v.hotSequence → (v.commitments k).sequence = k
  linked : ∀ k, k < v.hotSequence →
    (v.commitments (k + 1)).parentRoot = v.rootAt initialRoot k
  hotRoot : v.hotRoot = v.rootAt initialRoot v.hotSequence
  agentRoot : v.agentRoot = v.rootAt initialRoot v.hotSequence

/-- The roots an agent was registered with. -/
def initialRoots (agentId : Bytes32) (events : List MemoryEvent) : List Bytes32 :=
  events.filterMap fun
    | .agentRegistered id _ _ _ _ initialMemoryRoot _ _ =>
      if id = agentId then some initialMemoryRoot else none
    | _ => none

theorem initialRoots_events (agentId : Bytes32) (s : BaseOnchainAgentMemory) :
    initialRoots agentId s.events = initialRoots agentId s.logs := by
  simp only [initialRoots, events, List.filterMap_filter]
  congr 1
  funext e
  cases e <;> rfl

section append

variable {v : AgentView} {initialRoot : Bytes32} {c : MemoryCommitment} {value : ℕ} {k : ℕ}

theorem AgentView.append_commitments_of_ne (hfollows : Follows v c)
    (hk : k ≠ v.hotSequence + 1) : (v.append c value).commitments k = v.commitments k := by
  rw [← hfollows.1] at hk
  exact update_of_ne hk c v.commitments

theorem AgentView.append_commitments_next (hfollows : Follows v c) :
    (v.append c value).commitments (v.hotSequence + 1) = c := by
  rw [← hfollows.1]
  exact update_self c.sequence c v.commitments

theorem AgentView.rootAt_append (hfollows : Follows v c) (hk : k ≤ v.hotSequence) :
    (v.append c value).rootAt initialRoot k = v.rootAt initialRoot k := by
  cases k with
  | zero => rfl
  | succ k => exact congrArg MemoryCommitment.newRoot (append_commitments_of_ne hfollows (by omega))

theorem BaseOnchainAgentMemory.Follows.ne_empty (hfollows : Follows v c) : c ≠ .empty := by
  rintro rfl
  exact absurd hfollows.1 (Nat.succ_ne_zero _).symm

theorem ChainFrom.append (h : ChainFrom initialRoot v) (hfollows : Follows v c) :
    ChainFrom initialRoot (v.append c value) := by
  have hsequence : (v.append c value).hotSequence = v.hotSequence + 1 := hfollows.1
  have hlast : (v.append c value).rootAt initialRoot (v.hotSequence + 1) = c.newRoot :=
    congrArg MemoryCommitment.newRoot (AgentView.append_commitments_next hfollows)
  refine ⟨hfollows.2.2, fun k => ?_, rfl, fun k hpos hk => ?_, fun k hk => ?_, ?_, ?_⟩
  · rw [hsequence]
    by_cases hk : k = v.hotSequence + 1
    · subst hk
      rw [AgentView.append_commitments_next hfollows]
      simp [hfollows.ne_empty]
    · rw [AgentView.append_commitments_of_ne hfollows hk, h.stored]
      omega
  · rw [hsequence] at hk
    by_cases heq : k = v.hotSequence + 1
    · subst heq
      rw [AgentView.append_commitments_next hfollows, hfollows.1]
    · have hle : k ≤ v.hotSequence := by omega
      rw [AgentView.append_commitments_of_ne hfollows heq]
      exact h.numbered k hpos hle
  · rw [hsequence] at hk
    rw [AgentView.rootAt_append hfollows (by omega)]
    by_cases heq : k = v.hotSequence
    · subst heq
      rw [AgentView.append_commitments_next hfollows, hfollows.2.1, h.hotRoot]
    · rw [AgentView.append_commitments_of_ne hfollows (by omega)]
      exact h.linked k (by omega)
  · rw [hsequence, hlast]
    rfl
  · rw [hsequence, hlast]
    rfl

theorem ChainFrom.kept (h : ChainFrom initialRoot v) (hfollows : Follows v c)
    (hk : v.commitments k ≠ .empty) : (v.append c value).commitments k = v.commitments k :=
  AgentView.append_commitments_of_ne hfollows (by have := ((h.stored k).mp hk).2; omega)

end append

/-! ### The invariant -/

/-- What the memory of an agent looks like. -/
inductive AgentChain (roots : List Bytes32) (v : AgentView) : Prop
  | unregistered (howner : v.owner = 0) (hroots : roots = []) (hspend : v.spendUsed = 0)
      (hcommitments : ∀ k, v.commitments k = .empty)
  | registered (initialRoot : Bytes32) (howner : v.owner ≠ 0) (hroots : roots = [initialRoot])
      (hchain : ChainFrom initialRoot v)

def Chained (s : BaseOnchainAgentMemory) : Prop :=
  ∀ id, AgentChain (initialRoots id s.events) (s.view id)

/-- Stored commitments are still there. -/
def KeepsCommitments (s s' : BaseOnchainAgentMemory) : Prop :=
  ∀ id k, s.memoryCommitments id k ≠ .empty → s'.memoryCommitments id k = s.memoryCommitments id k

variable {D : MemoryDeployment} {s s' : BaseOnchainAgentMemory} {msg : BaseOnchainAgentMemory.Msg}
  {roots : List Bytes32} {agentId : Bytes32}

theorem AgentChain.chain {v : AgentView} (h : AgentChain roots v)
    (howner : v.owner ≠ 0) : ∃ initialRoot, roots = [initialRoot] ∧ ChainFrom initialRoot v := by
  cases h with
  | unregistered hzero _ _ _ => exact absurd hzero howner
  | registered initialRoot _ hroots hchain => exact ⟨initialRoot, hroots, hchain⟩

theorem AgentChain.of_unregistered {v : AgentView} (h : AgentChain roots v) (howner : v.owner = 0) :
    roots = [] ∧ v.spendUsed = 0 ∧ ∀ k, v.commitments k = .empty := by
  cases h with
  | unregistered _ hroots hspend hcommitments => exact ⟨hroots, hspend, hcommitments⟩
  | registered _ hne _ _ => exact absurd howner hne

/-- The views of the other agents are kept; for the one agent it is enough to look at its view. -/
theorem chained_of_update {v : AgentView} (h : Chained s)
    (hview : s'.view = update s.view agentId v)
    (hroots : ∀ id, id ≠ agentId → initialRoots id s'.events = initialRoots id s.events)
    (hagent : AgentChain (initialRoots agentId s'.events) v)
    (hkept : ∀ k, (s.view agentId).commitments k ≠ .empty →
      v.commitments k = (s.view agentId).commitments k) : Chained s' ∧ KeepsCommitments s s' := by
  constructor
  · intro id
    rw [hview, update_apply]
    split_ifs with hid
    · exact hid ▸ hagent
    · exact hroots id hid ▸ h id
  · intro id k hk
    refine of_update (P := fun v => v.commitments k = (s.view id).commitments k) hview ?_ rfl
    rintro rfl
    exact hkept k hk

theorem chained_of_append {c : MemoryCommitment} {value : ℕ} (h : Chained s)
    (hregistered : (s.view agentId).owner ≠ 0) (hfollows : Follows (s.view agentId) c)
    (hview : s'.view = update s.view agentId ((s.view agentId).append c value))
    (hroots : ∀ id, initialRoots id s'.events = initialRoots id s.events) :
    Chained s' ∧ KeepsCommitments s s' := by
  obtain ⟨initialRoot, hroot, hchain⟩ := (h agentId).chain hregistered
  refine chained_of_update h hview (fun id _ => hroots id) ?_ fun k hk => hchain.kept hfollows hk
  rw [hroots, hroot]
  exact .registered initialRoot hregistered rfl (hchain.append hfollows)

theorem BaseOnchainAgentMemory.PartEffect.chained (heffect : PartEffect D msg s s')
    (h : Chained s) : Chained s' ∧ KeepsCommitments s s' := by
  cases heffect with
  | @registered r _ _ howner hnew hview hevents =>
    obtain ⟨hroots, -, hcommitments⟩ := (h (r.agentId D)).of_unregistered hnew
    refine chained_of_update h hview (fun id hid => ?_) ?_ fun k hk => rfl
    · rw [hevents]
      exact List.filterMap_cons_none (by simp [Registration.event, Ne.symm hid])
    · have hroot : initialRoots (r.agentId D) s'.events = [r.initialMemoryRoot] := by
        rw [hevents, ← hroots]
        exact List.filterMap_cons_some (by simp [Registration.event])
      refine .registered r.initialMemoryRoot howner hroot
        ⟨Nat.two_pow_pos 64, fun k => ?_, rfl, ?_, ?_, rfl, rfl⟩
      · simp [Registration.view, hcommitments]
        omega
      · exact fun k hpos hk => absurd hk (by simp [Registration.view]; omega)
      · exact fun k hk => absurd hk (Nat.not_lt_zero k)
  | @policySet agentId _ _ _ _ _ hregistered hview hevents =>
    obtain ⟨initialRoot, hroot, hchain⟩ := (h agentId).chain hregistered
    have hroots (id : Bytes32) : initialRoots id s'.events = initialRoots id s.events := by
      rw [hevents]
      rfl
    refine chained_of_update h hview (fun id _ => hroots id) ?_ fun k _ => rfl
    rw [hroots, hroot]
    exact .registered initialRoot hregistered rfl ⟨hchain.bounded, hchain.stored,
      hchain.agentSequence, hchain.numbered, hchain.linked, hchain.hotRoot, hchain.agentRoot⟩
  | statusSet hview hevents =>
    refine ⟨fun id => ?_, fun id k _ => ?_⟩
    · rw [hview, hevents]
      exact h id
    · exact congrFun (congrArg AgentView.commitments (congrFun hview id)) k
  | called => exact ⟨h, fun _ _ _ => rfl⟩
  | stepped hregistered hfollows hview hevents | corrected hregistered hfollows hview hevents =>
    refine chained_of_append h hregistered hfollows hview fun id => ?_
    rw [hevents]
    rfl

/-- Both parts of every call keep the chains and the stored commitments. -/
theorem respectsParts_chained : RespectsParts (routine D) (fun _ => True) fun s s' =>
    Chained s → Chained s' ∧ KeepsCommitments s s' where
  refl _ h := ⟨h, fun _ _ _ => rfl⟩
  trans h₁ h₂ h := by
    obtain ⟨hchained₁, hkept₁⟩ := h₁ h
    obtain ⟨hchained₂, hkept₂⟩ := h₂ hchained₁
    refine ⟨hchained₂, fun id k hk => ?_⟩
    rw [hkept₂ id k (by rwa [hkept₁ id k hk]), hkept₁ id k hk]
  before _ hb := (before_effect hb).chained
  after _ hb hinner ha := (after_effect hb hinner ha).chained

theorem chained_deployed : Chained deployed := fun _ => .unregistered rfl rfl rfl fun _ => rfl

/-- In every state that other code may see, the memory of every registered agent is a chain from the
root it was registered with, and neither a call, nor a part of a call around the calls of a tool,
changes a stored commitment. -/
theorem memory_append_only (h : Visible (routine D) deployed s) :
    (∀ agentId, (s.agents agentId).owner ≠ 0 → ∃ initialRoot,
      initialRoots agentId s.logs = [initialRoot] ∧ ChainFrom initialRoot (s.view agentId)) ∧
    (∀ ts s', Executes (routine D) ts s s' → KeepsCommitments s s') ∧
    (∀ i o s₁, (routine D i).before s = .ok (o, s₁) → KeepsCommitments s s₁) ∧
    ∀ i a s₁ inner s₂ actionSucceeded s₃, (routine D i).before s = .ok (some a, s₁) →
      Executes (routine D) inner s₁ s₂ → (routine D i).after a actionSucceeded s₂ = .ok ((), s₃) →
      KeepsCommitments s₂ s₃ := by
  have hchained : Chained s := (h.relates respectsParts_chained chained_deployed).1
  refine ⟨fun agentId howner => ?_, fun ts s' hruns => ?_, fun i o s₁ hb => ?_, ?_⟩
  · rw [← initialRoots_events]
    exact (hchained agentId).chain howner
  · exact (hruns.relates respectsParts_chained hchained).2
  · exact (respectsParts_chained.hands hb hchained).2
  · intro i a s₁ inner s₂ actionSucceeded s₃ hb hinner ha
    have hchained₁ := (respectsParts_chained.hands hb hchained).1
    have hchained₂ := (hinner.relates respectsParts_chained hchained₁).1
    exact (respectsParts_chained.resumes hb hinner ha hchained₂).2

/-! ### A step inside a step -/

/-- A deployment with simple hashes: the salt identifies an agent, and the roots depend on the
sequence only. -/
def sampleMemory : MemoryDeployment where
  self := 9
  acceptTaskToolId := 1
  publicEvidenceRequirement := 2
  docsReviewTaskKind := 3
  acceptTaskSelector := 4
  agentId _ _ _ _ _ _ salt := salt
  registration _ _ _ _ := 0
  toolAllowlistRoot _ _ _ := 0
  pausedCommitment _ _ := 0
  observationRoot _ := 0
  callDataHash _ _ := 0
  memoryDeltaRoot _ sequence _ _ _ _ := Fin.ofNat _ sequence
  previewHash _ _ := 0
  actionReceiptId _ _ _ _ _ := 0
  newMemoryRoot _ sequence _ _ _ _ := Fin.ofNat _ (100 + sequence)
  memoryCommitment _ _ _ _ _ := 0
  correctionId _ _ _ _ _ := 0
  correctionCommitment _ _ _ _ _ := 0
  pulseId _ _ _ _ _ _ _ := 0

def sampleObservation : TaskObservation := ⟨1, 3, 2, 0, 0, 1, 0, false⟩

/-- The tool of the sample agent, with a cap of 10. -/
def samplePolicy : ToolPolicy := ⟨8, 4, 10, 10, 0, true⟩

/-- A step of the agent 7 that was previewed at the given sequence. -/
def sampleStep (sequence : ℕ) (value : Uint256) : Env × BaseOnchainAgentMemory.Msg :=
  (⟨6, 1⟩, .step 7 sampleObservation { StepPreview.plain .acceptTask 2 with sequence } ""
    value)

/-- The agent 7 is registered with the root 50 and gets its tool. -/
def sampleSetup : List (CallTree (Env × BaseOnchainAgentMemory.Msg)) :=
  [.quiet (⟨5, 1⟩, .registerAgent ⟨5, 1, 1, 1, 50, 0, 0, 1, 7, ""⟩),
    .quiet (⟨5, 1⟩, .setToolPolicy 7 1 samplePolicy "")]

/-- The tool of the agent steps the agent while it is called. -/
def sampleNested : List (CallTree (Env × BaseOnchainAgentMemory.Msg)) :=
  sampleSetup ++ [.around (sampleStep 0 10) [.around (sampleStep 0 10) []]]

theorem memory_append_only_sample : ∃ s,
    CallTree.runAll (routine sampleMemory) sampleNested deployed = some s ∧
      (s.hotMemory 7).sequence = 2 ∧ ChainFrom 50 (s.view 7) := by
  have hfacts : (CallTree.runAll (routine sampleMemory) sampleNested deployed).map (fun s =>
      ((s.hotMemory 7).sequence, (s.agents 7).owner, initialRoots 7 s.logs)) =
        some (2, 5, [50]) := by rfl
  obtain ⟨s, hs, hfields⟩ := Option.map_eq_some_iff.mp hfacts
  simp only [Prod.mk.injEq] at hfields
  obtain ⟨hsequence, howner, hroots⟩ := hfields
  have hvisible : Visible (routine sampleMemory) deployed s :=
    .calls .start (executes_of_runAll sampleNested hs)
  obtain ⟨hchain, -⟩ := memory_append_only hvisible
  obtain ⟨initialRoot, hroot, hfrom⟩ := hchain 7 (by rw [howner]; decide)
  rw [hroots, List.cons.injEq] at hroot
  exact ⟨s, hs, hsequence, hroot.1 ▸ hfrom⟩

end FlowMemory.AgentMemory
