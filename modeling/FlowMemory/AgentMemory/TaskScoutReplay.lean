import FlowMemory.LocalRuntime.Hashing

/-! # The replay of a task scout

A fixture records one step of an agent: what it observed, the preview of its action, the receipt of
the action, the change of its memory and the roots after it.  `replayTaskScoutFixture` recomputes
three hashes and compares some of the records.  The final root binds the change of the memory, but
nothing compares this change with the preview and with the receipt: `replay_never_binds` gives for
every verified fixture a **tampered** one that is verified with the same final root. -/

namespace FlowMemory.AgentMemory.TaskScout

open Json

/-! ### Records -/

inductive TaskScoutStatus where
  | pending | verified | failed | unresolved | unsupported | reorged
  deriving DecidableEq

inductive TaskScoutAction where
  | noop | escalate | acceptTask | rejectTask | commitEvidence | updateMemoryOnly | pauseSelf
  deriving DecidableEq

def TaskScoutAction.text : TaskScoutAction → String
  | noop => "NOOP"
  | escalate => "ESCALATE"
  | acceptTask => "ACCEPT_TASK"
  | rejectTask => "REJECT_TASK"
  | commitEvidence => "COMMIT_EVIDENCE"
  | updateMemoryOnly => "UPDATE_MEMORY_ONLY"
  | pauseSelf => "PAUSE_SELF"

inductive AgentStatus where
  | active | paused | finalized | failed
  deriving DecidableEq

structure TaskScoutObservation where
  (observationRoot observationId agentId taskContract taskId taskKind taskKindName : String)
  (evidenceRequirement evidenceRequirementName rewardToken rewardAmount deadlineBlock : String)
  taskStatus : String
  recentFailureCount : ℕ
  humanReviewRequired : Bool

structure TaskScoutStepPreview where
  (previewHash agentId sequence observationRoot : String)
  action : TaskScoutAction
  (toolId target selector callDataHash memoryDeltaRoot reasonCode maxValue : String)

structure TaskScoutActionReceipt where
  (actionReceiptId agentId sequence previewHash observationRoot : String)
  action : TaskScoutAction
  (target selector : String)
  success : Bool
  (valueSpent reasonCode : String)

structure TaskScoutMemoryDelta where
  (sequence parentMemoryRoot deltaRoot newMemoryRoot actionReceiptId : String)

structure TaskScoutRootflowTransition where
  (parentRoot newRoot : String)

/-- What the replay reads of a fixture: of the configuration its status, and of the memory before and
of the view after the step their latest roots. -/
structure TaskScoutFixture where
  agentStatus : AgentStatus
  hotMemoryRoot : String
  taskObservation : TaskScoutObservation
  stepPreview : TaskScoutStepPreview
  actionReceipt : TaskScoutActionReceipt
  memoryDelta : TaskScoutMemoryDelta
  rootflowTransition : TaskScoutRootflowTransition
  latestMemoryRoot : String

/-! ### Replay -/

/-- The fields of an observation that are hashed. -/
def observationMembers (o : TaskScoutObservation) : List (String × Json) :=
  [("taskContract", .str o.taskContract), ("taskId", .str o.taskId), ("taskKind", .str o.taskKind),
    ("evidenceRequirement", .str o.evidenceRequirement), ("rewardAmount", .str o.rewardAmount),
    ("deadlineBlock", .str o.deadlineBlock), ("taskStatus", .str o.taskStatus),
    ("recentFailureCount", .num o.recentFailureCount),
    ("humanReviewRequired", .bool o.humanReviewRequired)]

def previewMembers (p : TaskScoutStepPreview) : List (String × Json) :=
  [("agentId", .str p.agentId), ("sequence", .str p.sequence),
    ("observationRoot", .str p.observationRoot), ("action", .str p.action.text),
    ("toolId", .str p.toolId), ("target", .str p.target), ("selector", .str p.selector),
    ("callDataHash", .str p.callDataHash), ("memoryDeltaRoot", .str p.memoryDeltaRoot),
    ("reasonCode", .str p.reasonCode), ("maxValue", .str p.maxValue)]

def rootMembers (d : TaskScoutMemoryDelta) : List (String × Json) :=
  [("parentMemoryRoot", .str d.parentMemoryRoot), ("deltaRoot", .str d.deltaRoot),
    ("actionReceiptId", .str d.actionReceiptId), ("sequence", .str d.sequence)]

def previewSchema : String := "flowmemory.base_agent_memory.step_preview.hash.v1"

def rootSchema : String := "flowmemory.base_agent_memory.memory_root.v1"

section keccak

variable [K : Keccak]

def recomputeObservationRoot (o : TaskScoutObservation) : String :=
  externalStableId "flowmemory.base_agent_memory.task_observation.root.v1"
    (.obj (observationMembers o))

def recomputePreviewHash (p : TaskScoutStepPreview) : String :=
  externalStableId previewSchema (.obj (previewMembers p))

def recomputeNewRoot (d : TaskScoutMemoryDelta) : String :=
  externalStableId rootSchema (.obj (rootMembers d))

structure ReplayCheck where
  name : String
  pass : Bool
  detail : String

def replayChecks (f : TaskScoutFixture) : List ReplayCheck :=
  [⟨"agent-active", f.agentStatus = .active, "agent config is active"⟩,
    ⟨"observation-root", f.taskObservation.observationRoot =
      recomputeObservationRoot f.taskObservation, "observation root matches canonical task fields"⟩,
    ⟨"preview-action", f.stepPreview.action = .acceptTask,
      "task scout accepts low-risk public docs-review task"⟩,
    ⟨"preview-hash", f.stepPreview.previewHash = recomputePreviewHash f.stepPreview,
      "preview hash binds action, tool, observation, and memory delta"⟩,
    ⟨"receipt-preview", f.actionReceipt.previewHash = f.stepPreview.previewHash,
      "action receipt references preview hash"⟩,
    ⟨"receipt-action", f.actionReceipt.action = f.stepPreview.action,
      "action receipt action matches preview"⟩,
    ⟨"memory-parent", f.memoryDelta.parentMemoryRoot = f.hotMemoryRoot,
      "memory delta starts from current hot memory root"⟩,
    ⟨"memory-root", f.memoryDelta.newMemoryRoot = recomputeNewRoot f.memoryDelta,
      "new memory root recomputes from parent, delta, receipt, and sequence"⟩,
    ⟨"transition-root", f.rootflowTransition.newRoot = f.memoryDelta.newMemoryRoot,
      "Rootflow transition points to memory delta output"⟩,
    ⟨"view-root", f.latestMemoryRoot = f.rootflowTransition.newRoot,
      "AgentMemoryView uses latest transition root"⟩]

structure TaskScoutReplay where
  status : TaskScoutStatus
  checks : List ReplayCheck
  reasonCodes : List String

def replayTaskScoutFixture (f : TaskScoutFixture) : TaskScoutReplay where
  status := if (replayChecks f).all (·.pass) then .verified else .failed
  checks := replayChecks f
  reasonCodes := ((replayChecks f).filter (!·.pass)).map (·.name)

/-! ### What a verified replay binds -/

/-- The change of the memory is that of the preview and of the receipt, and the transition starts
where it does. -/
structure Linked (f : TaskScoutFixture) : Prop where
  deltaRoot : f.memoryDelta.deltaRoot = f.stepPreview.memoryDeltaRoot
  actionReceiptId : f.memoryDelta.actionReceiptId = f.actionReceipt.actionReceiptId
  parentRoot : f.rootflowTransition.parentRoot = f.memoryDelta.parentMemoryRoot

/-- The fixtures record different observations, previews and receipts. -/
structure RecordsDiffer (f g : TaskScoutFixture) : Prop where
  observation : f.taskObservation ≠ g.taskObservation
  preview : f.stepPreview ≠ g.stepPreview
  receipt : f.actionReceipt ≠ g.actionReceipt

/-- The fixture with another task, preview and receipt, under the same change of the memory. -/
def tampered (f : TaskScoutFixture) : TaskScoutFixture :=
  let observation := { f.taskObservation with taskId := f.taskObservation.taskId ++ "0" }
  let preview := { f.stepPreview with
    memoryDeltaRoot := f.memoryDelta.deltaRoot ++ "0"
    reasonCode := f.stepPreview.reasonCode ++ "0" }
  let hash := recomputePreviewHash preview
  { f with
    taskObservation := { observation with observationRoot := recomputeObservationRoot observation }
    stepPreview := { preview with previewHash := hash }
    actionReceipt := { f.actionReceipt with
      actionReceiptId := f.actionReceipt.actionReceiptId ++ "0"
      previewHash := hash } }

variable {f g : TaskScoutFixture}

theorem verified_iff : (replayTaskScoutFixture f).status = .verified ↔
    ∀ check ∈ replayChecks f, check.pass = true := by
  simp [replayTaskScoutFixture]

theorem tampered_verified (hf : (replayTaskScoutFixture f).status = .verified) :
    (replayTaskScoutFixture (tampered f)).status = .verified := by
  rw [verified_iff] at hf ⊢
  simp only [replayChecks, List.forall_mem_cons, decide_eq_true_eq] at hf ⊢
  obtain ⟨hactive, -, haction, -, -, hreceipt, hparent, hnew, htransition, hview, hnil⟩ := hf
  exact ⟨hactive, rfl, haction, rfl, rfl, hreceipt, hparent, hnew, htransition, hview, hnil⟩

omit K in
theorem append_ne_self (s : String) : s ++ "0" ≠ s := by
  intro h
  have hlength := congrArg String.length h
  simp at hlength

theorem recordsDiffer_tampered (f : TaskScoutFixture) : RecordsDiffer (tampered f) f where
  observation h := append_ne_self _ (congrArg TaskScoutObservation.taskId h)
  preview h := append_ne_self _ (congrArg TaskScoutStepPreview.reasonCode h)
  receipt h := append_ne_self _ (congrArg TaskScoutActionReceipt.actionReceiptId h)

/-- The bytes hashed for the new root. -/
def rootBytes (f : TaskScoutFixture) : List UInt8 :=
  stablePreimage rootSchema (.obj (rootMembers f.memoryDelta))

/-- The final root of a verified fixture binds no record but the change of the memory: another
fixture with that root is verified with other records, whose preview and receipt are of another
change, while the change itself is the same in all of them. -/
theorem replay_never_binds (hf : (replayTaskScoutFixture f).status = .verified) :
    (∃ g, (replayTaskScoutFixture g).status = .verified ∧ g.latestMemoryRoot = f.latestMemoryRoot ∧
      RecordsDiffer g f ∧ ¬ Linked g) ∧
    ∀ g, (replayTaskScoutFixture g).status = .verified → g.latestMemoryRoot = f.latestMemoryRoot →
      ({rootBytes g, rootBytes f} : Set (List UInt8)).InjOn K.digest →
      rootMembers g.memoryDelta = rootMembers f.memoryDelta := by
  refine ⟨⟨tampered f, tampered_verified hf, rfl, recordsDiffer_tampered f, fun hlinked =>
    append_ne_self _ hlinked.deltaRoot.symm⟩, fun g hg hroot hcollision => ?_⟩
  rw [verified_iff] at hf hg
  simp only [replayChecks, List.forall_mem_cons, decide_eq_true_eq] at hf hg
  obtain ⟨-, -, -, -, -, -, -, hnew, htransition, hview, -⟩ := hf
  obtain ⟨-, -, -, -, -, -, -, hnew', htransition', hview', -⟩ := hg
  have hnewRoot : recomputeNewRoot g.memoryDelta = recomputeNewRoot f.memoryDelta := by
    rw [← hnew', ← htransition', ← hview', hroot, hview, htransition, hnew]
  have hdelta := externalStableId_obj_inj hcollision (.inl rfl) (.inr rfl) hnewRoot rfl
    (by simp [rootMembers])
  simpa [rootMembers, normalizeMembers, normalizeValue] using hdelta

/-! ### Fixtures with the same final root -/

/-- The fixture of a task and of the change of the memory in its preview. -/
def sampleFixture (taskId memoryDeltaRoot : String) : TaskScoutFixture :=
  let observation : TaskScoutObservation :=
    ⟨"", "0x1", "0x1", "0x3", taskId, "0x4", "docs-review", "0x5", "public", "0x6", "1", "100", "open",
      0, false⟩
  let preview : TaskScoutStepPreview :=
    ⟨"", "0x1", "1", recomputeObservationRoot observation, .acceptTask, "0x7", "0x3", "0x8", "0x9",
      memoryDeltaRoot, "TASK_KIND_ALLOWED", "0"⟩
  let hash := recomputePreviewHash preview
  let delta : TaskScoutMemoryDelta := ⟨"1", "0xa", "0xb", "", "0xc"⟩
  let root := recomputeNewRoot delta
  { agentStatus := .active
    hotMemoryRoot := "0xa"
    taskObservation := { observation with observationRoot := recomputeObservationRoot observation }
    stepPreview := { preview with previewHash := hash }
    actionReceipt := ⟨"0xc", "0x1", "1", hash, "", .acceptTask, "0x3", "0x8", true, "0", ""⟩
    memoryDelta := { delta with newMemoryRoot := root }
    rootflowTransition := ⟨"0xa", root⟩
    latestMemoryRoot := root }

theorem sampleFixture_verified (taskId memoryDeltaRoot : String) :
    (replayTaskScoutFixture (sampleFixture taskId memoryDeltaRoot)).status = .verified := by
  simp [replayTaskScoutFixture, replayChecks, sampleFixture, recomputeObservationRoot,
    recomputePreviewHash, recomputeNewRoot, observationMembers, previewMembers, rootMembers]

end keccak

/-- Fixtures for different tasks are verified with the same final root, and the change of the memory
need not be the one in the preview. -/
theorem tampered_fixture_verified : let _ : Keccak := keccak256
    (replayTaskScoutFixture (sampleFixture "1" "0xb")).status = .verified ∧
      (replayTaskScoutFixture (sampleFixture "2" "0xd")).status = .verified ∧
      (sampleFixture "1" "0xb").latestMemoryRoot = (sampleFixture "2" "0xd").latestMemoryRoot ∧
      RecordsDiffer (sampleFixture "1" "0xb") (sampleFixture "2" "0xd") ∧
      ¬ Linked (sampleFixture "2" "0xd") := by
  let _ : Keccak := keccak256
  have hhash : (sampleFixture "1" "0xb").actionReceipt.previewHash ≠
      (sampleFixture "2" "0xd").actionReceipt.previewHash := by
    decide +kernel
  refine ⟨sampleFixture_verified _ _, sampleFixture_verified _ _, rfl, ⟨fun h => ?_, fun h => ?_,
    fun h => ?_⟩, fun h => ?_⟩
  · exact absurd (congrArg (·.taskId) h) (by simp [sampleFixture])
  · exact absurd (congrArg (·.memoryDeltaRoot) h) (by simp [sampleFixture])
  · exact hhash (congrArg (·.previewHash) h)
  · exact absurd h.deltaRoot (by simp [sampleFixture])

/-- The root of a fixture binds the change of the memory in one for another task. -/
theorem replay_never_binds_sample : let _ : Keccak := keccak256
    (∃ g, (replayTaskScoutFixture g).status = .verified ∧
      g.latestMemoryRoot = (sampleFixture "1" "0xb").latestMemoryRoot ∧
      RecordsDiffer g (sampleFixture "1" "0xb") ∧ ¬ Linked g) ∧
    rootMembers (sampleFixture "2" "0xd").memoryDelta =
      rootMembers (sampleFixture "1" "0xb").memoryDelta := by
  let _ : Keccak := keccak256
  obtain ⟨hother, hbound⟩ := replay_never_binds (sampleFixture_verified "1" "0xb")
  have hbytes : rootBytes (sampleFixture "2" "0xd") = rootBytes (sampleFixture "1" "0xb") := by
    simp [rootBytes, rootMembers, sampleFixture]
  exact ⟨hother, hbound _ (sampleFixture_verified "2" "0xd") rfl
    (Set.injOn_pair.mpr fun _ => hbytes)⟩

end FlowMemory.AgentMemory.TaskScout
