import FlowMemory.Indexer.IndexLogs

/-! # The launch core

The launch core joins observations and the **reports** of the verifier on them.  It goes through the
observations in the order of the chain, without copies, and keeps a current root for every
rootfield: a verified commitment of a root moves it.  Every observation gives a **transition**; the
**bundle** of a rootfield has its latest root. -/

namespace FlowMemory.Indexer

open Crypto Check

/-! ### Reports -/

inductive VerifierStatus where
  | valid | invalid | unresolved | unsupported | reorged
  deriving DecidableEq

def VerifierStatus.text : VerifierStatus → String
  | .valid => "valid"
  | .invalid => "invalid"
  | .unresolved => "unresolved"
  | .unsupported => "unsupported"
  | .reorged => "reorged"

/-- What the launch core reads of a report. -/
structure VerifierReportCore where
  (observationId rootfieldId : String)
  status : VerifierStatus
  reasonCodes : List String

structure VerifierReport where
  reportId : String
  reportCore : VerifierReportCore

/-! ### Statuses -/

inductive FlowMemoryStatus where
  | observed | pending | finalized | verified | unresolved | failed | unsupported | reorged | offline
  | stale
  deriving DecidableEq

def FlowMemoryStatus.text : FlowMemoryStatus → String
  | .observed => "observed"
  | .pending => "pending"
  | .finalized => "finalized"
  | .verified => "verified"
  | .unresolved => "unresolved"
  | .failed => "failed"
  | .unsupported => "unsupported"
  | .reorged => "reorged"
  | .offline => "offline"
  | .stale => "stale"

def verifierStatusToFlowMemoryStatus : VerifierStatus → FlowMemoryStatus
  | .valid => .verified
  | .invalid => .failed
  | .unresolved => .unresolved
  | .unsupported => .unsupported
  | .reorged => .reorged

def observationLifecycleToFlowMemoryStatus : LifecycleState → FlowMemoryStatus
  | .removed => .reorged
  | .observed => .observed
  | .pending => .pending
  | .finalized => .finalized
  | .reorged => .reorged
  | .superseded => .stale

def transitionStatus (lifecycleState : LifecycleState) (verifierStatus : Option VerifierStatus) :
    FlowMemoryStatus :=
  let observationStatus := observationLifecycleToFlowMemoryStatus lifecycleState
  if observationStatus = .reorged ∨ observationStatus = .stale then observationStatus
  else
    match verifierStatus with
    | none => observationStatus
    | some status =>
      let mapped := verifierStatusToFlowMemoryStatus status
      if observationStatus = .pending ∧ mapped = .verified then .pending else mapped

/-! ### Signals and receipts -/

def contractPulseTypeName (pulseType : String) : String :=
  (([("1", "ROOTFIELD_REGISTERED"), ("2", "ROOT_COMMITTED"), ("3", "ROOTFIELD_STATUS_CHANGED"),
    ("4", "SWAP_MEMORY_SIGNAL"), ("5", "TASK_OPENED"), ("6", "TASK_ACCEPTED"), ("7", "TASK_STARTED"),
    ("8", "TASK_EVIDENCE_COMMITTED"), ("9", "TASK_VERIFIED"), ("10", "TASK_FAILED"),
    ("11", "TASK_CHALLENGED"), ("12", "TASK_SETTLED"), ("13", "TASK_SLASHED"),
    ("14", "AGENT_REGISTERED"), ("15", "AGENT_POLICY_UPDATED"), ("16", "AGENT_STEP_COMMITTED"),
    ("17", "AGENT_ACTION_EXECUTED"), ("18", "AGENT_MEMORY_COMMITTED"), ("19", "AGENT_PAUSED"),
    ("34", "AGENT_MEMORY_CORRECTED")] : List (String × String)).lookup pulseType).getD
    "UNKNOWN_FLOWPULSE_TYPE"

structure FlowPulseContractEventRef where
  (signalId eventTopic0 sourceContract pulseTypeId pulseTypeName txHash logIndex : String)
  deriving DecidableEq

structure MemorySignal where
  (signalId observationId rootfieldId : String)
  status : FlowMemoryStatus
  contractEventRef : FlowPulseContractEventRef

def zeroRoot : String := "0x0000000000000000000000000000000000000000000000000000000000000000"

structure MemoryReceipt where
  (receiptId reportId observationId rootfieldId : String)
  reasonCodes : List String

structure RootflowTransition where
  (transitionId rootfieldId observationId pulseId parentPulseId : String)
  parentTransitionId : Option String
  memorySignalId : String
  (memoryReceiptId reportId : Option String)
  (previousRoot attemptedRoot nextRoot : String)
  status : FlowMemoryStatus
  (blockNumber txHash sequence : String)
  reasonCodes : List String
  contractEventRef : FlowPulseContractEventRef
  deriving DecidableEq

structure TransitionCounts where
  (observations transitions receipts verified failed unresolved unsupported reorged : ℕ)

structure RootfieldBundle where
  (bundleId rootfieldId latestRoot : String)
  latestTransitionId : Option String
  status : FlowMemoryStatus
  (transitionIds memorySignalIds memoryReceiptIds verifierReportIds : List String)
  counts : TransitionCounts

structure LaunchCore where
  memorySignals : List MemorySignal
  memoryReceipts : List MemoryReceipt
  rootflowTransitions : List RootflowTransition
  rootfieldBundles : List RootfieldBundle

/-- The last second that a date can have. -/
def lastDateSecond : ℕ := 8640000000000

/-- A time can be written as a date. -/
def checkDate (occurredAt : String) : Except String Unit :=
  rejectIf (lastDateSecond < Relayer.decimalValue occurredAt) "Invalid time value"

section launch

variable [Keccak]

def signalIdOf (o : ParsedFlowPulseObservation) : String :=
  externalStableId "flowmemory.memory_signal.v0" (.obj
    [("observationId", .str o.observationId), ("pulseId", .str o.pulseId),
      ("rootfieldId", .str o.rootfieldId), ("pulseType", .str o.pulseType),
      ("sequence", .str o.sequence)])

def buildMemorySignal (o : ParsedFlowPulseObservation) (status : FlowMemoryStatus) :
    Except String MemorySignal := do
  checkDate o.occurredAt
  pure ⟨signalIdOf o, o.observationId, o.rootfieldId, status,
    ⟨signalIdOf o, o.eventSignature, o.emittingContract, o.pulseType,
      contractPulseTypeName o.pulseType, o.txHash, o.logIndex⟩⟩

def buildMemoryReceipt (report : VerifierReport) : MemoryReceipt where
  receiptId := externalStableId "flowmemory.memory_receipt.v0" (.obj
    [("reportId", .str report.reportId), ("observationId", .str report.reportCore.observationId),
      ("status", .str report.reportCore.status.text)])
  reportId := report.reportId
  observationId := report.reportCore.observationId
  rootfieldId := report.reportCore.rootfieldId
  reasonCodes := report.reportCore.reasonCodes

/-- The last element with an observation identifier, as a map filled in order has it. -/
def lastFor {α : Type} (id : α → String) (l : List α) (observationId : String) : Option α :=
  l.reverse.find? fun a => id a = observationId

def reportFor (reports : List VerifierReport) (observationId : String) : Option VerifierReport :=
  lastFor (·.reportCore.observationId) reports observationId

/-- The status of an observation with its report. -/
def statusWith (reports : List VerifierReport) (o : ParsedFlowPulseObservation) : FlowMemoryStatus :=
  transitionStatus o.lifecycleState
    ((reportFor reports o.observationId).map (·.reportCore.status))

/-! ### The transitions -/

/-- The current roots, the latest transitions and the transitions so far. -/
structure Rootflow where
  latestTransitionByPulse : String → Option String
  currentRootByRootfield : String → Option String
  rootflowTransitions : List RootflowTransition

def movesRoot (pulseType : String) : Bool := pulseType = "2" ∨ pulseType = "18"

def Rootflow.transition (s : Rootflow) (reports : List VerifierReport) (signal : MemorySignal)
    (o : ParsedFlowPulseObservation) : RootflowTransition :=
  let report := reportFor reports o.observationId
  let receipt := lastFor (·.observationId) (reports.map buildMemoryReceipt) o.observationId
  let previousRoot := (s.currentRootByRootfield o.rootfieldId).getD zeroRoot
  let attemptedRoot := if movesRoot o.pulseType then o.subject else previousRoot
  let status := statusWith reports o
  let nextRoot := if status = .verified ∧ movesRoot o.pulseType then attemptedRoot else previousRoot
  { transitionId := externalStableId "flowmemory.rootflow_transition.v0" (.obj
      [("rootfieldId", .str o.rootfieldId), ("observationId", .str o.observationId),
        ("pulseId", .str o.pulseId), ("parentPulseId", .str o.parentPulseId),
        ("previousRoot", .str previousRoot), ("attemptedRoot", .str attemptedRoot),
        ("nextRoot", .str nextRoot), ("status", .str status.text), ("sequence", .str o.sequence)])
    rootfieldId := o.rootfieldId
    observationId := o.observationId
    pulseId := o.pulseId
    parentPulseId := o.parentPulseId
    parentTransitionId := s.latestTransitionByPulse o.parentPulseId
    memorySignalId := signal.signalId
    memoryReceiptId := receipt.map (·.receiptId)
    reportId := report.map (·.reportId)
    previousRoot, attemptedRoot, nextRoot, status
    blockNumber := o.blockNumber
    txHash := o.txHash
    sequence := o.sequence
    reasonCodes := (receipt.map (·.reasonCodes)).getD []
    contractEventRef := signal.contractEventRef }

def Rootflow.push (s : Rootflow) (t : RootflowTransition) : Rootflow where
  latestTransitionByPulse := Function.update s.latestTransitionByPulse t.pulseId (some t.transitionId)
  currentRootByRootfield := if t.nextRoot ≠ t.previousRoot then
    Function.update s.currentRootByRootfield t.rootfieldId (some t.nextRoot)
    else s.currentRootByRootfield
  rootflowTransitions := s.rootflowTransitions ++ [t]

/-- Go on with an observation, unless it is a copy. -/
def Rootflow.observe (reports : List VerifierReport) (signals : List MemorySignal) (s : Rootflow)
    (o : IndexedObservation) : Except String Rootflow :=
  if o.duplicateKind = .exactDuplicate then .ok s
  else do
    let signal ← okOr (lastFor (·.observationId) signals o.observationId)
      ("missing MemorySignal for " ++ o.observationId)
    pure (s.push (s.transition reports signal o.toParsedFlowPulseObservation))

def Rootflow.init : Rootflow := ⟨fun _ => none, fun _ => none, []⟩

/-! ### The bundles -/

def latestRootOf (transitions : List RootflowTransition) : String :=
  ((transitions.reverse.find? fun t => t.nextRoot ≠ zeroRoot).map (·.nextRoot)).getD zeroRoot

def transitionCounts (signals : List MemorySignal) (transitions : List RootflowTransition)
    (receipts : List MemoryReceipt) : TransitionCounts :=
  let count (status : FlowMemoryStatus) := (transitions.filter (·.status = status)).length
  ⟨signals.length, transitions.length, receipts.length, count .verified, count .failed,
    count .unresolved, count .unsupported, count .reorged⟩

def countsJson (c : TransitionCounts) : Json := .obj
  [("observations", .num c.observations), ("transitions", .num c.transitions),
    ("receipts", .num c.receipts), ("verified", .num c.verified), ("failed", .num c.failed),
    ("unresolved", .num c.unresolved), ("unsupported", .num c.unsupported), ("reorged", .num c.reorged)]

def rootfieldBundle (memorySignals : List MemorySignal) (memoryReceipts : List MemoryReceipt)
    (rootflowTransitions : List RootflowTransition) (rootfieldId : String) : RootfieldBundle :=
  let signals := memorySignals.filter (·.rootfieldId = rootfieldId)
  let transitions := rootflowTransitions.filter (·.rootfieldId = rootfieldId)
  let receipts := memoryReceipts.filter (·.rootfieldId = rootfieldId)
  let latestTransitionId := transitions.getLast?.map (·.transitionId)
  let counts := transitionCounts signals transitions receipts
  let status := (transitions.getLast?.map (·.status)).getD .observed
  let latestRoot := latestRootOf transitions
  { bundleId := externalStableId "flowmemory.rootfield_bundle.v0" (.obj
      [("rootfieldId", .str rootfieldId), ("latestRoot", .str latestRoot),
        ("latestTransitionId", (latestTransitionId.map Json.str).getD .null),
        ("status", .str status.text), ("counts", countsJson counts)])
    rootfieldId, latestRoot, latestTransitionId, status
    transitionIds := transitions.map (·.transitionId)
    memorySignalIds := signals.map (·.signalId)
    memoryReceiptIds := receipts.map (·.receiptId)
    verifierReportIds := receipts.map (·.reportId)
    counts }

/-- `BigInt` accepts the texts that the comparison of two observations reads. -/
def Comparable (a b : IndexedObservation) : Prop :=
  let read (text : IndexedObservation → String) (same : Prop) :=
    stringToBigInt (text a) ≠ none ∧ stringToBigInt (text b) ≠ none ∧
      (stringToBigInt (text a) = stringToBigInt (text b) → same)
  read (·.blockNumber) (read (·.transactionIndex) (stringToBigInt a.logIndex ≠ none ∧
    stringToBigInt b.logIndex ≠ none))

instance : DecidableRel Comparable := fun _ _ => inferInstanceAs (Decidable (_ ∧ _ ∧ (_ → _)))

variable [Collation]

/-- A sort compares two observations directly or through others of their block and transaction, so
that it fails if two of them cannot be compared. -/
def sortObservations (observations : List IndexedObservation) :
    Except String (List IndexedObservation) := do
  rejectIf (¬ observations.Pairwise Comparable) "Cannot convert a text to a BigInt"
  pure (sortedObservationsForFeed observations)

def buildLaunchCore (observations : List IndexedObservation) (reports : List VerifierReport) :
    Except String LaunchCore := do
  let sorted ← sortObservations observations
  let memoryReceipts := reports.map buildMemoryReceipt
  let memorySignals ← sorted.mapM fun o => buildMemorySignal o.toParsedFlowPulseObservation
    (statusWith reports o.toParsedFlowPulseObservation)
  let s ← sorted.foldlM (Rootflow.observe reports memorySignals) .init
  let rootfieldIds := (memorySignals.map (·.rootfieldId)).dedup.insertionSort (· ≤ ·)
  pure
    { memorySignals, memoryReceipts
      rootflowTransitions := s.rootflowTransitions
      rootfieldBundles := rootfieldIds.map
        (rootfieldBundle memorySignals memoryReceipts s.rootflowTransitions) }

end launch

end FlowMemory.Indexer
