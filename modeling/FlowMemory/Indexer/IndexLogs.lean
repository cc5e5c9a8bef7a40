import Mathlib.Data.Prod.Lex
import Mathlib.Data.String.Basic
import FlowMemory.Lib.StableSort
import FlowMemory.Indexer.FlowPulse

/-! # The indexer

The indexer scans a list of logs once.  It tells by two tables, of the observations and of the pulses
that it has seen, whether a log is new, a copy of an earlier log, in conflict with one, or another
log of a pulse that it knows; in the last case the first observation of the pulse is **superseded**.
The **dashboard feed** marks the observations that count. -/

namespace FlowMemory.Indexer

open Crypto Check

/-! ### States -/

inductive DuplicateKind where
  | unique | exactDuplicate | conflictingDuplicate | pulseDuplicate | reorgReplacement
  deriving DecidableEq

def ReceiptStatus.text : ReceiptStatus → String
  | .success => "success"
  | .reverted => "reverted"

def LifecycleState.text : LifecycleState → String
  | .observed => "observed"
  | .pending => "pending"
  | .finalized => "finalized"
  | .removed => "removed"
  | .superseded => "superseded"
  | .reorged => "reorged"

/-- Neither removed nor in a block that was replaced. -/
def ParsedFlowPulseObservation.Live (o : ParsedFlowPulseObservation) : Prop :=
  o.lifecycleState ≠ .removed ∧ o.lifecycleState ≠ .reorged

instance (o : ParsedFlowPulseObservation) : Decidable o.Live :=
  inferInstanceAs (Decidable (_ ∧ _))

structure IndexedObservation extends ParsedFlowPulseObservation where
  duplicateKind : DuplicateKind
  canonicalObservationJson : String
  deriving DecidableEq

inductive RejectionCode where
  | receiptReverted | logMalformed
  deriving DecidableEq

structure IndexRejectedLog where
  (chainId blockNumber blockHash txHash transactionIndex logIndex : String)
  reasonCode : RejectionCode
  message : String

structure IndexedCursor where
  (cursorId chainId sourceSetId blockNumber blockHash transactionIndex logIndex : String)

structure IndexedRootfield where
  (rootfieldId firstObservationId latestObservationId : String)
  pulseCount : ℕ
  deriving DecidableEq

structure Duplicate where
  kind : DuplicateKind
  (observationId pulseId : String)

/-- The options of a scan.  A number may be given by its text. -/
structure IndexerStateOptions where
  finalizedBlockNumber : Option String
  canonicalBlockHashes : List (String × String)
  chainId : Option String
  sourceAddresses : Option (List String)
  preRejectedLogs : List IndexRejectedLog

/-! ### One log -/

/-- The fields of an observation. -/
def observationMembers (o : ParsedFlowPulseObservation) : List (String × Json) :=
  [("actor", .str o.actor), ("blockHash", .str o.blockHash), ("blockNumber", .str o.blockNumber),
    ("chainId", .str o.chainId), ("commitment", .str o.commitment), ("cursorId", .str o.cursorId),
    ("emittingContract", .str o.emittingContract), ("eventSignature", .str o.eventSignature),
    ("lifecycleState", .str o.lifecycleState.text), ("logIndex", .str o.logIndex),
    ("observationId", .str o.observationId), ("occurredAt", .str o.occurredAt),
    ("parentPulseId", .str o.parentPulseId), ("pulseId", .str o.pulseId),
    ("pulseType", .str o.pulseType), ("receiptStatus", .str o.receiptStatus.text),
    ("rootfieldId", .str o.rootfieldId), ("sequence", .str o.sequence), ("subject", .str o.subject),
    ("transactionIndex", .str o.transactionIndex), ("txHash", .str o.txHash), ("uri", .str o.uri)]

def canonicalObservationJson (o : ParsedFlowPulseObservation) : String :=
  String.ofList (Json.canonicalJson (.obj (observationMembers o)))

/-- Whether the block of an observation is final. -/
def finality (o : ParsedFlowPulseObservation) (finalizedBlockNumber : Option String) :
    Except String LifecycleState :=
  match finalizedBlockNumber with
  | none => .ok .observed
  | some finalized => do
      let block ← bigInt o.blockNumber
      let last ← bigInt finalized
      pure (if block ≤ last then .finalized else .pending)

def observationStatus (o : ParsedFlowPulseObservation) (options : IndexerStateOptions) :
    Except String LifecycleState :=
  if o.lifecycleState = .removed then .ok .removed
  else if (options.canonicalBlockHashes.lookup o.blockNumber).any
      (fun hash => toAsciiLowercase hash ≠ toAsciiLowercase o.blockHash) then .ok .reorged
  else finality o options.finalizedBlockNumber

def duplicateKindFor (o : ParsedFlowPulseObservation) (canonicalJsonValue : String)
    (seenByObservationId : String → Option String)
    (seenByPulseId : String → Option ParsedFlowPulseObservation) : DuplicateKind :=
  match seenByObservationId o.observationId with
  | some existingObservation =>
    if existingObservation = canonicalJsonValue then .exactDuplicate else .conflictingDuplicate
  | none =>
    match seenByPulseId o.pulseId with
    | some existingPulse =>
      if existingPulse.observationId ≠ o.observationId then
        if existingPulse.blockHash ≠ o.blockHash ∨ existingPulse.logIndex ≠ o.logIndex then
          .reorgReplacement
        else .pulseDuplicate
      else .unique
    | none => .unique

/-- The tables and the results of a scan. -/
structure IndexerScan where
  seenByObservationId : String → Option String
  seenByPulseId : String → Option ParsedFlowPulseObservation
  rootfields : List IndexedRootfield
  observations : List IndexedObservation
  cursors : List IndexedCursor
  rejectedLogs : List IndexRejectedLog
  duplicates : List Duplicate

section scan

variable [Keccak] (options : IndexerStateOptions) (sourceSetId : String)

def rejectedLog (log : RawFlowPulseLogFixture) (reasonCode : RejectionCode) (message : String) :
    IndexRejectedLog :=
  ⟨log.chainId, log.blockNumber, log.blockHash, log.transactionHash, log.transactionIndex,
    log.logIndex, reasonCode, message⟩

/-- The observation of a log with its lifecycle state. -/
def observe (log : RawFlowPulseLogFixture) : Except String ParsedFlowPulseObservation := do
  let o ← parseFlowPulseLogFixture log sourceSetId
  let lifecycleState ← observationStatus o options
  pure { o with lifecycleState }

def readLog (log : RawFlowPulseLogFixture) : Except IndexRejectedLog ParsedFlowPulseObservation :=
  if log.receiptStatus ≠ .success then
    .error (rejectedLog log .receiptReverted "receipt status is reverted")
  else
    match observe options sourceSetId log with
    | .ok o => .ok o
    | .error message => .error (rejectedLog log .logMalformed message)

/-- An observation is superseded, unless it is gone already. -/
def IndexedObservation.superseded (o : IndexedObservation) : IndexedObservation :=
  if o.Live then { o with lifecycleState := .superseded } else o

/-- Supersede the first observation of a pulse. -/
def supersede (pulseId : String) : List IndexedObservation → List IndexedObservation
  | [] => []
  | o :: observations =>
    if o.pulseId = pulseId then o.superseded :: observations
    else o :: supersede pulseId observations

/-- Set the cursor with the identifier of the new one. -/
def setCursor (cursor : IndexedCursor) : List IndexedCursor → List IndexedCursor
  | [] => [cursor]
  | c :: cursors =>
    if c.cursorId = cursor.cursorId then cursor :: cursors else c :: setCursor cursor cursors

def newRootfield (o : ParsedFlowPulseObservation) : IndexedRootfield :=
  ⟨o.rootfieldId, o.observationId, o.observationId, 1⟩

/-- Count an observation of a rootfield, unless it is a copy. -/
def countPulse (o : ParsedFlowPulseObservation) (duplicateKind : DuplicateKind) :
    List IndexedRootfield → List IndexedRootfield
  | [] => [newRootfield o]
  | r :: rootfields =>
    if r.rootfieldId = o.rootfieldId then
      (if duplicateKind ≠ .exactDuplicate then
        { r with latestObservationId := o.observationId, pulseCount := r.pulseCount + 1 }
      else r) :: rootfields
    else r :: countPulse o duplicateKind rootfields

def IndexerScan.kind (s : IndexerScan) (o : ParsedFlowPulseObservation) : DuplicateKind :=
  duplicateKindFor o (canonicalObservationJson o) s.seenByObservationId s.seenByPulseId

/-- The observations after another one of the given kind. -/
def pushObservation (o : ParsedFlowPulseObservation) (kind : DuplicateKind)
    (observations : List IndexedObservation) : List IndexedObservation :=
  let pushed := observations ++ [⟨o, kind, canonicalObservationJson o⟩]
  if kind = .pulseDuplicate ∨ kind = .reorgReplacement then supersede o.pulseId pushed else pushed

/-- Record an observation. -/
def IndexerScan.record (s : IndexerScan) (o : ParsedFlowPulseObservation) : IndexerScan :=
  let kind := s.kind o
  { s with
    observations := pushObservation o kind s.observations
    seenByObservationId := if kind = .unique then
      Function.update s.seenByObservationId o.observationId (some (canonicalObservationJson o))
      else s.seenByObservationId
    seenByPulseId := if kind = .unique then Function.update s.seenByPulseId o.pulseId (some o)
      else s.seenByPulseId
    duplicates := if kind = .unique then s.duplicates
      else s.duplicates ++ [⟨kind, o.observationId, o.pulseId⟩]
    cursors := setCursor ⟨o.cursorId, o.chainId, sourceSetId, o.blockNumber, o.blockHash,
      o.transactionIndex, o.logIndex⟩ s.cursors
    rootfields := countPulse o kind s.rootfields }

def IndexerScan.log (s : IndexerScan) (log : RawFlowPulseLogFixture) : IndexerScan :=
  match readLog options sourceSetId log with
  | .ok o => s.record sourceSetId o
  | .error rejected => { s with rejectedLogs := s.rejectedLogs ++ [rejected] }

def IndexerScan.init : IndexerScan where
  seenByObservationId _ := none
  seenByPulseId _ := none
  rootfields := []
  observations := []
  cursors := []
  rejectedLogs := options.preRejectedLogs
  duplicates := []

end scan

/-! ### The feed -/

/-- The order of texts in the language of the machine: `localeCompare` compares their sort keys. -/
class Collation where
  sortKey : String → List ℕ

/-- The order of texts by their characters, which on lower-case hex texts is `localeCompare`. -/
@[reducible] def codePointOrder : Collation := ⟨fun text => text.toList.map Char.toNat⟩

theorem codePointOrder_injective : Function.Injective codePointOrder.sortKey :=
  (List.map_injective_iff.mpr fun _ _ h => Char.toNat_inj.mp h).comp fun _ _ => String.ext

section order

variable [Collation]

/-- Where an observation stands.  The texts of its numbers are those of `Comparable` observations. -/
def position (o : ParsedFlowPulseObservation) : ℤ ×ₗ ℤ ×ₗ ℤ ×ₗ List ℕ :=
  toLex ((stringToBigInt o.blockNumber).getD 0, toLex ((stringToBigInt o.transactionIndex).getD 0,
    toLex ((stringToBigInt o.logIndex).getD 0, Collation.sortKey o.observationId)))

def Before (a b : IndexedObservation) : Prop :=
  position a.toParsedFlowPulseObservation ≤ position b.toParsedFlowPulseObservation

instance : DecidableRel Before := fun _ _ => inferInstanceAs (Decidable (_ ≤ _))

instance : Std.Total Before := ⟨fun _ _ => le_total _ _⟩

instance : IsTrans IndexedObservation Before := ⟨fun _ _ _ => le_trans⟩

def sortedObservationsForFeed (observations : List IndexedObservation) : List IndexedObservation :=
  observations.insertionSort Before

end order

def IndexedObservation.dashboardCanonical (o : IndexedObservation) : Bool :=
  o.duplicateKind ≠ .exactDuplicate ∧ o.lifecycleState ≠ .removed ∧ o.lifecycleState ≠ .reorged ∧
    o.lifecycleState ≠ .superseded

structure FeedObservation extends IndexedObservation where
  canonical : Bool

structure DashboardFeed where
  chainId : String
  sourceSetId : String
  (observationCount dashboardCanonicalObservationCount rejectedLogCount duplicateCount : ℕ)
  observations : List FeedObservation

structure IndexerState where
  observations : List IndexedObservation
  rootfields : List IndexedRootfield
  cursors : List IndexedCursor
  rejectedLogs : List IndexRejectedLog
  duplicates : List Duplicate
  dashboardFeed : DashboardFeed

def buildDashboardFeed [Collation] (chainId sourceSetId : String) (s : IndexerScan) : DashboardFeed :=
  let observations := (sortedObservationsForFeed s.observations).map
    fun o => (⟨o, o.dashboardCanonical⟩ : FeedObservation)
  { chainId, sourceSetId, observations
    observationCount := s.observations.length
    dashboardCanonicalObservationCount := (observations.filter (·.canonical)).length
    rejectedLogCount := s.rejectedLogs.length
    duplicateCount := s.duplicates.length }

section index

variable [Keccak] [Collation] (logs : List RawFlowPulseLogFixture) (options : IndexerStateOptions)

def scanChainId : String := ((logs.head?.map (·.chainId)).orElse fun _ => options.chainId).getD "0"

def scanSourceSetId : Except String String :=
  deriveSourceSetId (scanChainId logs options)
    (options.sourceAddresses.getD (logs.map (·.address)))

def scanLogs (sourceSetId : String) : IndexerScan :=
  logs.foldl (IndexerScan.log options sourceSetId) (.init options)

def indexFlowPulseLogs : Except String IndexerState := do
  let sourceSetId ← scanSourceSetId logs options
  let s := scanLogs logs options sourceSetId
  pure
    { observations := s.observations
      rootfields := s.rootfields.insertionSort fun a b =>
        Collation.sortKey a.rootfieldId ≤ Collation.sortKey b.rootfieldId
      cursors := s.cursors.insertionSort fun a b =>
        Collation.sortKey a.cursorId ≤ Collation.sortKey b.cursorId
      rejectedLogs := s.rejectedLogs
      duplicates := s.duplicates
      dashboardFeed := buildDashboardFeed (scanChainId logs options) sourceSetId s }

end index

end FlowMemory.Indexer
