import FlowMemory.AgentMemory.MemoryChain
import FlowMemory.LocalRuntime.Hashing

/-! # The call of a tool and its preview

The caller of a step approves a preview by its hash.  The preview has the hash of the **calldata** of
a call with an empty URI, and the step calls the tool with the URI it was given.  So the calldata is
the previewed one exactly if the URI is empty; the target, the selector and the value are within the
preview in every step (`previewed_call_iff`). -/

namespace FlowMemory.AgentMemory

open Call AgentBonds BaseOnchainAgentMemory

/-- The ABI encoding of a call with a word and a text: the head has the word and the offset of the
text, and the tail has the length of the text and the text, filled up to whole words. -/
def encodeWithSelector (selector : Bytes4) (taskId : Bytes32) (uri : String) : List UInt8 :=
  let text := utf8 uri.toList
  (abiUintWord selector).drop 28 ++ (abiUintWord taskId ++ abiUintWord 64 ++
    abiUintWord text.length ++ text ++ List.replicate ((32 - text.length % 32) % 32) 0)

structure ToolCall where
  target : Address
  value : ℕ
  calldata : List UInt8

/-- The call of the tool in a step. -/
def executePreviewedAction (s : BaseOnchainAgentMemory) (agentId taskId : Bytes32)
    (preview : StepPreview) (value : ℕ) (uri : String) : ToolCall :=
  let policy := s.toolPolicies agentId preview.toolId
  ⟨policy.target, value, encodeWithSelector policy.selector taskId uri⟩

/-- The deployment hashes the calldata of the preview with `keccak`. -/
def HashesCalldata (D : MemoryDeployment) (keccak : List UInt8 → Bytes32) : Prop :=
  ∀ selector taskId, D.callDataHash selector taskId = keccak (encodeWithSelector selector taskId "")

/-- The call has the target and the selector of the preview, and its value is within the preview. -/
structure WithinPreview (preview : StepPreview) (call : ToolCall) : Prop where
  target : call.target = preview.target
  selector : call.calldata.take 4 = (abiUintWord preview.selector).drop 28
  value : call.value ≤ preview.maxValue

/-- The call is the one of the preview. -/
structure CallPreviewed (keccak : List UInt8 → Bytes32) (preview : StepPreview) (call : ToolCall) :
    Prop extends WithinPreview preview call where
  calldata : keccak call.calldata = preview.callDataHash

variable {D : MemoryDeployment} {env : Env} {agentId taskId : Bytes32} {uri : String}
  {observation : TaskObservation} {expectedPreview preview : StepPreview} {value : ℕ}
  {s s' : BaseOnchainAgentMemory} {keccak : List UInt8 → Bytes32} {selector : Bytes4}

/-- The calldata with another URI is longer. -/
theorem encodeWithSelector_eq_iff :
    encodeWithSelector selector taskId uri = encodeWithSelector selector taskId "" ↔ uri = "" := by
  refine ⟨fun h => ?_, fun h => h ▸ rfl⟩
  have hlength := congrArg List.length h
  simp [encodeWithSelector, abiUintWord, show utf8 [] = [] from rfl] at hlength
  have htext : utf8 uri.toList = utf8 [] := List.length_eq_zero_iff.mp (by omega)
  exact String.toList_eq_nil_iff.mp (utf8_injective htext)

theorem beginStep_hands
    (h : beginStep D env agentId observation expectedPreview uri value s = .ok (some preview, s')) :
    s' = s ∧ previewStep D agentId observation s = .ok (preview, s) ∧ preview.action = .acceptTask ∧
      expectedPreview.previewHash = preview.previewHash ∧ value ≤ preview.maxValue := by
  simp [beginStep] at h
  obtain ⟨-, -, preview', s₁, ⟨hpreview, -, happroved, hvalue⟩, h⟩ := h
  obtain ⟨rfl, -⟩ := previewStep_ok hpreview
  split_ifs at h with haction
  · simp at h
    obtain ⟨⟨_, hallowed⟩, rfl⟩ := h
    obtain ⟨rfl, -⟩ := requireAllowedTool_ok hallowed
    exact ⟨rfl, hpreview, haction, happroved, hvalue⟩
  · simp at h

/-- The call of a step is within the preview, and its calldata is the previewed one exactly if the
URI is empty. -/
theorem call_of_beginStep (hhash : HashesCalldata D keccak)
    (h : beginStep D env agentId observation expectedPreview uri value s = .ok (some preview, s'))
    (hkeccak : Set.InjOn keccak {encodeWithSelector preview.selector observation.taskId uri,
      encodeWithSelector preview.selector observation.taskId ""}) :
    WithinPreview preview (executePreviewedAction s' agentId observation.taskId preview value uri) ∧
      (keccak (executePreviewedAction s' agentId observation.taskId preview value uri).calldata =
        preview.callDataHash ↔ uri = "") := by
  obtain ⟨rfl, hpreview, haction, -, hvalue⟩ := beginStep_hands h
  obtain ⟨-, -, haccepts⟩ := previewStep_ok hpreview
  obtain ⟨htool, htarget, hselector, hcallData⟩ := haccepts haction
  have hcall : executePreviewedAction s' agentId observation.taskId preview value uri =
      ⟨preview.target, value, encodeWithSelector preview.selector observation.taskId uri⟩ := by
    rw [executePreviewedAction, htool, htarget, hselector]
    rfl
  rw [hcall, hcallData, ← hselector, hhash]
  refine ⟨⟨rfl, ?_, hvalue⟩, ?_⟩
  · exact List.take_left' (by simp [abiUintWord])
  · rw [hkeccak.eq_iff (by simp) (by simp), encodeWithSelector_eq_iff]

/-- In a step that calls a tool, the approved preview is the one of the state, and the call is the
previewed one exactly if the URI is empty. -/
theorem previewed_call_iff {value : Uint256} (hhash : HashesCalldata D keccak)
    (h : (routine D (env, .step agentId observation expectedPreview uri value)).before s =
      .ok (some preview, s'))
    (hkeccak : Set.InjOn keccak {encodeWithSelector preview.selector observation.taskId uri,
      encodeWithSelector preview.selector observation.taskId ""}) :
    previewStep D agentId observation s = .ok (preview, s) ∧ preview.action = .acceptTask ∧
      expectedPreview.previewHash = preview.previewHash ∧
      WithinPreview preview
        (executePreviewedAction s' agentId observation.taskId preview value uri) ∧
      (CallPreviewed keccak preview
        (executePreviewedAction s' agentId observation.taskId preview value uri) ↔ uri = "") := by
  obtain ⟨-, hpreview, haction, happroved, -⟩ := beginStep_hands h
  obtain ⟨hwithin, hcalldata⟩ := call_of_beginStep hhash h hkeccak
  refine ⟨hpreview, haction, happroved, hwithin, fun hcall => hcalldata.mp hcall.calldata, ?_⟩
  exact fun huri => ⟨hwithin, hcalldata.mpr huri⟩

/-! ### A step with a URI -/

/-- The digest as a word. -/
def keccakWord (bytes : List UInt8) : Bytes32 :=
  Fin.ofNat _ (Sponge.ofBytes (Sponge.keccak256 bytes).reverse)

def sampleHashed : MemoryDeployment :=
  { sampleMemory with
    callDataHash := fun selector taskId => keccakWord (encodeWithSelector selector taskId "") }

theorem sampleHashed_hashes : HashesCalldata sampleHashed keccakWord := fun _ _ => rfl

/-- A step of the agent 7 with the given URI. -/
def sampleUriStep (uri : String) : Env × BaseOnchainAgentMemory.Msg :=
  (⟨6, 1⟩, .step 7 sampleObservation (.plain .acceptTask 2) uri 10)

/-- The step hands over after the setup, with its preview. -/
theorem sampleUriStep_before (uri : String) : ∃ s preview,
    CallTree.runAll (routine sampleHashed) sampleSetup deployed = some s ∧
      (routine sampleHashed (sampleUriStep uri)).before s = .ok (some preview, s) ∧
      preview.selector = 4 :=
  ⟨_, _, rfl, rfl, rfl⟩

/-- A step with a URI calls the tool with other calldata than the previewed one. -/
theorem uri_not_previewed : ∃ s preview,
    CallTree.runAll (routine sampleHashed) sampleSetup deployed = some s ∧
      (routine sampleHashed (sampleUriStep "#1")).before s = .ok (some preview, s) ∧
      ¬ CallPreviewed keccakWord preview
        (executePreviewedAction s 7 sampleObservation.taskId preview 10 "#1") := by
  obtain ⟨s, preview, hsetup, hstep, hselector⟩ := sampleUriStep_before "#1"
  refine ⟨s, preview, hsetup, hstep, fun hcall => ?_⟩
  have hdiffer : keccakWord (encodeWithSelector 4 1 "#1") ≠ keccakWord (encodeWithSelector 4 1 "") := by
    decide +kernel
  have hkeccak : Set.InjOn keccakWord {encodeWithSelector preview.selector 1 "#1",
      encodeWithSelector preview.selector 1 ""} := by
    rw [hselector, Set.injOn_pair]
    exact fun heq => absurd heq hdiffer
  obtain ⟨-, hcalldata⟩ := call_of_beginStep sampleHashed_hashes hstep hkeccak
  exact absurd (hcalldata.mp hcall.calldata) (by decide)

theorem previewed_call_iff_sample : ∃ s preview,
    CallTree.runAll (routine sampleHashed) sampleSetup deployed = some s ∧
      (routine sampleHashed (sampleUriStep "")).before s = .ok (some preview, s) ∧
      CallPreviewed keccakWord preview
        (executePreviewedAction s 7 sampleObservation.taskId preview 10 "") := by
  obtain ⟨s, preview, hsetup, hstep, -⟩ := sampleUriStep_before ""
  obtain ⟨-, -, -, -, hcall⟩ := previewed_call_iff sampleHashed_hashes hstep
    (Set.injOn_pair.mpr fun _ => rfl)
  exact ⟨s, preview, hsetup, hstep, hcall.mpr rfl⟩

end FlowMemory.AgentMemory
