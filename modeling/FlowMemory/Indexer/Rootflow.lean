import Mathlib.Data.List.Induction
import FlowMemory.Lib.Revert
import FlowMemory.Lib.Traverse
import FlowMemory.Indexer.LaunchCore

/-! # The chain of roots

The transitions of a rootfield are a **chain**: each starts from the root that the one before it
left.  The bundle looks for its latest root from the end and finds the last root of the chain, since
a chain that has left the zero root does not return to it.

The launch core reads the observations in the order of the chain and the reports by their
observation, so the order in which both arrived is not seen in it. -/

namespace FlowMemory.Indexer

open Crypto Check

/-! ### Chains -/

/-- The root that the last transition left. -/
def lastRoot (transitions : List RootflowTransition) : String :=
  (transitions.getLast?.map (·.nextRoot)).getD zeroRoot

/-- Every transition starts from the root that the one before it left. -/
def Chained (transitions : List RootflowTransition) : Prop :=
  transitions.map (·.previousRoot) = (zeroRoot :: transitions.map (·.nextRoot)).dropLast

@[simp] theorem lastRoot_append (ts : List RootflowTransition) (t : RootflowTransition) :
    lastRoot (ts ++ [t]) = t.nextRoot := by
  simp [lastRoot]

variable {ts : List RootflowTransition} {t : RootflowTransition}

theorem chained_append :
    Chained (ts ++ [t]) ↔ Chained ts ∧ t.previousRoot = lastRoot ts := by
  unfold Chained
  rw [List.map_append, List.map_append, List.map_singleton, List.map_singleton, ← List.cons_append,
    List.dropLast_concat]
  induction ts using List.reverseRecOn with
  | nil => simp [lastRoot]
  | append_singleton ts u =>
    rw [lastRoot_append, List.map_append, List.map_append, List.map_singleton, List.map_singleton,
      ← List.cons_append, List.dropLast_concat]
    exact ⟨fun h => List.append_inj' h rfl |>.imp id (by simp), fun h => by rw [h.1, h.2]⟩

theorem latestRootOf_append (ts : List RootflowTransition) (t : RootflowTransition) :
    latestRootOf (ts ++ [t]) = if t.nextRoot = zeroRoot then latestRootOf ts else t.nextRoot := by
  unfold latestRootOf
  rw [List.reverse_append, List.reverse_singleton, List.singleton_append, List.find?_cons]
  split_ifs with h <;> simp [h]

/-- Once a chain has left the zero root, its last root is the latest that is not zero. -/
theorem Chained.latestRootOf (h : Chained ts)
    (hzero : ∀ t ∈ ts, t.nextRoot = zeroRoot → t.previousRoot = zeroRoot) :
    latestRootOf ts = lastRoot ts := by
  induction ts using List.reverseRecOn with
  | nil => rfl
  | append_singleton ts t ih =>
    obtain ⟨hts, hprevious⟩ := chained_append.mp h
    have hlast : t.nextRoot = zeroRoot → lastRoot ts = zeroRoot :=
      fun ht => hprevious.symm.trans (hzero t (by simp) ht)
    rw [latestRootOf_append, lastRoot_append]
    split_ifs with ht
    · rw [ih hts fun u hu => hzero u (List.mem_append_left _ hu), hlast ht, ht]
    · rfl

/-! ### The transitions of a run -/

def transitionsOf (transitions : List RootflowTransition) (rootfieldId : String) :
    List RootflowTransition :=
  transitions.filter (·.rootfieldId = rootfieldId)

theorem transitionsOf_append (ts : List RootflowTransition) (t : RootflowTransition) (id : String) :
    transitionsOf (ts ++ [t]) id =
      if t.rootfieldId = id then transitionsOf ts id ++ [t] else transitionsOf ts id := by
  unfold transitionsOf
  rw [List.filter_append]
  split_ifs with h <;> simp [h]

/-- An observation that is not a copy. -/
def IndexedObservation.original (o : IndexedObservation) : Bool := o.duplicateKind ≠ .exactDuplicate

/-- A transition is that of an observation, and moves the root only if the observation commits a
root, is on the chain and was verified. -/
def TransitionOf (o : IndexedObservation) (t : RootflowTransition) : Prop :=
  t.rootfieldId = o.rootfieldId ∧ t.observationId = o.observationId ∧ t.pulseId = o.pulseId ∧
    (t.nextRoot ≠ t.previousRoot → t.status = .verified ∧ (o.pulseType = "2" ∨ o.pulseType = "18") ∧
      o.lifecycleState ∉ [.removed, .reorged, .superseded])

theorem on_chain_of_verified {lifecycleState : LifecycleState} {status : Option VerifierStatus}
    (h : transitionStatus lifecycleState status = .verified) :
    lifecycleState ∉ [.removed, .reorged, .superseded] := by
  cases lifecycleState <;> simp_all [transitionStatus, observationLifecycleToFlowMemoryStatus]

/-- What a run of the loop has done. -/
structure Rootflow.Follows (s : Rootflow) (before : List IndexedObservation) : Prop where
  transitionOf : List.Forall₂ TransitionOf (before.filter (·.original)) s.rootflowTransitions
  chained : ∀ id, Chained (transitionsOf s.rootflowTransitions id)
  current : ∀ id, (s.currentRootByRootfield id).getD zeroRoot =
    lastRoot (transitionsOf s.rootflowTransitions id)
  zero : ∀ t ∈ s.rootflowTransitions, t.nextRoot = zeroRoot → t.previousRoot = zeroRoot

theorem Rootflow.Follows.init : Rootflow.init.Follows [] where
  transitionOf := .nil
  chained _ := rfl
  current _ := rfl
  zero _ ht := absurd ht List.not_mem_nil

theorem Rootflow.Follows.push {s : Rootflow} {before : List IndexedObservation}
    (hs : s.Follows before) {o : IndexedObservation}
    (ho : o.original = true) (ht : TransitionOf o t)
    (hprevious : t.previousRoot = (s.currentRootByRootfield o.rootfieldId).getD zeroRoot)
    (hzero : t.nextRoot = zeroRoot → t.previousRoot = zeroRoot) :
    (s.push t).Follows (before ++ [o]) where
  transitionOf := by
    rw [List.filter_append, List.filter_singleton, ho]
    exact List.rel_append hs.transitionOf (.cons ht .nil)
  chained id := by
    change Chained (transitionsOf (s.rootflowTransitions ++ [t]) id)
    rw [transitionsOf_append]
    split_ifs with hid
    · rw [chained_append, ← hs.current, hprevious, ← ht.1, hid]
      exact ⟨hs.chained id, rfl⟩
    · exact hs.chained id
  current id := by
    change ((if _ then _ else _ : String → Option String) id).getD _ =
      lastRoot (transitionsOf (s.rootflowTransitions ++ [t]) id)
    rw [transitionsOf_append]
    by_cases hid : t.rootfieldId = id
    · rw [if_pos hid, lastRoot_append]
      split_ifs with hmoved
      · rw [hid, Function.update_self, Option.getD_some]
      · rw [not_not.mp hmoved, hprevious, ← ht.1, hid]
    · rw [if_neg hid, ← hs.current]
      split_ifs with hmoved
      · rw [Function.update_of_ne (Ne.symm hid)]
      · rfl
  zero u hu := by
    rcases List.mem_append.mp hu with hu | hu
    · exact hs.zero u hu
    · exact List.mem_singleton.mp hu ▸ hzero

deriving instance Inhabited for LifecycleState, ReceiptStatus, ParsedFlowPulseObservation,
  DuplicateKind, IndexedObservation, VerifierStatus, VerifierReportCore, VerifierReport

section chain

variable [Keccak] {observations : List IndexedObservation} {reports : List VerifierReport}
  {core : LaunchCore}

theorem Rootflow.Follows.observe {s s' : Rootflow} {before : List IndexedObservation}
    {signals : List MemorySignal} {o : IndexedObservation} (hs : s.Follows before)
    (hsubject : o.subject ≠ zeroRoot) (h : s.observe reports signals o = .ok s') :
    s'.Follows (before ++ [o]) := by
  unfold Rootflow.observe at h
  split_ifs at h with hcopy
  · obtain rfl : s = s' := Except.ok.inj h
    have hfilter : (before ++ [o]).filter (·.original) = before.filter (·.original) := by
      simp [IndexedObservation.original, hcopy]
    exact ⟨hfilter ▸ hs.transitionOf, hs.chained, hs.current, hs.zero⟩
  · simp only [bind_ok, pure_ok] at h
    obtain ⟨signal, -, rfl⟩ := h
    have hmoves : (s.transition reports signal o.toParsedFlowPulseObservation).nextRoot ≠
        (s.currentRootByRootfield o.rootfieldId).getD zeroRoot →
        statusWith reports o.toParsedFlowPulseObservation = .verified ∧ movesRoot o.pulseType = true ∧
          (s.transition reports signal o.toParsedFlowPulseObservation).nextRoot = o.subject := by
      intro hmoved
      simp only [Rootflow.transition] at hmoved ⊢
      split_ifs at hmoved ⊢ with h₁ h₂
      · exact ⟨h₁.1, h₁.2, rfl⟩
      all_goals exact absurd rfl hmoved
    refine hs.push (by simpa [IndexedObservation.original] using hcopy) ⟨rfl, rfl, rfl, ?_⟩ rfl ?_
    · intro hmoved
      obtain ⟨hstatus, htype, -⟩ := hmoves hmoved
      exact ⟨hstatus, by simpa [movesRoot] using htype, on_chain_of_verified hstatus⟩
    · intro hnext
      by_contra hprevious
      obtain ⟨-, -, hsubject'⟩ := hmoves fun heq => hprevious (heq.symm.trans hnext)
      exact hsubject (hsubject' ▸ hnext)

variable [Collation]

/-- The parts of a launch core. -/
theorem buildLaunchCore_ok (h : buildLaunchCore observations reports = .ok core) :
    ∃ s, (sortedObservationsForFeed observations).foldlM
        (Rootflow.observe reports core.memorySignals) .init = .ok s ∧
      s.rootflowTransitions = core.rootflowTransitions ∧
      ∀ b ∈ core.rootfieldBundles, b = rootfieldBundle core.memorySignals core.memoryReceipts
        core.rootflowTransitions b.rootfieldId := by
  simp only [buildLaunchCore, sortObservations, bind_ok, pure_ok, rejectIf_ok] at h
  obtain ⟨_, ⟨_, -, rfl⟩, signals, -, s, hs, rfl⟩ := h
  refine ⟨s, hs, rfl, ?_⟩
  intro b hb
  obtain ⟨id, -, rfl⟩ := List.mem_map.mp hb
  rfl

theorem follows_of_buildLaunchCore (hsubjects : ∀ o ∈ observations, o.subject ≠ zeroRoot)
    (h : buildLaunchCore observations reports = .ok core) :
    ∃ s : Rootflow, s.Follows (sortedObservationsForFeed observations) ∧
      s.rootflowTransitions = core.rootflowTransitions := by
  obtain ⟨s, hs, htransitions, -⟩ := buildLaunchCore_ok h
  refine ⟨s, foldlM_ok (P := fun before s => s.Follows before) ?_ .init hs, htransitions⟩
  intro before o s s' ho hbefore hstep
  exact hbefore.observe (hsubjects o ((List.mem_insertionSort _).mp ho)) hstep

/-- The transitions are those of the observations without copies, in the order of the chain; those
of a rootfield are chained, and its bundle has their last root and counts them by status. -/
theorem rootflow_chained (hsubjects : ∀ o ∈ observations, o.subject ≠ zeroRoot)
    (h : buildLaunchCore observations reports = .ok core) :
    List.Forall₂ TransitionOf ((sortedObservationsForFeed observations).filter (·.original))
        core.rootflowTransitions ∧
      (∀ id, Chained (transitionsOf core.rootflowTransitions id)) ∧
      ∀ b ∈ core.rootfieldBundles,
        let transitions := transitionsOf core.rootflowTransitions b.rootfieldId
        let withStatus := fun status : FlowMemoryStatus => transitions.countP (·.status = status)
        b.latestRoot = lastRoot transitions ∧ b.counts.transitions = transitions.length ∧
          b.counts.verified = withStatus .verified ∧ b.counts.failed = withStatus .failed ∧
          b.counts.unresolved = withStatus .unresolved ∧
          b.counts.unsupported = withStatus .unsupported ∧ b.counts.reorged = withStatus .reorged := by
  obtain ⟨s, hs, htransitions⟩ := follows_of_buildLaunchCore hsubjects h
  obtain ⟨-, -, -, hbundles⟩ := buildLaunchCore_ok h
  rw [← htransitions]
  refine ⟨hs.transitionOf, hs.chained, ?_⟩
  intro b hb
  have hlatest : b.latestRoot = latestRootOf (transitionsOf core.rootflowTransitions b.rootfieldId) :=
    congrArg RootfieldBundle.latestRoot (hbundles b hb)
  have hcounts := congrArg RootfieldBundle.counts (hbundles b hb)
  simp only [htransitions, List.countP_eq_length_filter, hlatest, hcounts]
  refine ⟨?_, rfl, rfl, rfl, rfl, rfl, rfl⟩
  rw [← htransitions]
  exact (hs.chained b.rootfieldId).latestRootOf fun t ht => hs.zero t (List.mem_of_mem_filter ht)

/-- A commitment of a root. -/
def committedRoot (observationId blockNumber subject : String) : IndexedObservation :=
  { (default : IndexedObservation) with observationId, blockNumber, subject, pulseType := "2" }

/-- A report that an observation is valid. -/
def validReport (observationId : String) : VerifierReport :=
  { (default : VerifierReport) with
    reportCore := { (default : VerifierReportCore) with observationId, status := .valid } }

omit [Keccak] [Collation] in
theorem rootflow_chained_two_commitments :
    letI : Keccak := keccak256
    letI : Collation := codePointOrder
    ∃ core, buildLaunchCore [committedRoot "0xb" "2" "0x02", committedRoot "0xa" "1" "0x01"]
        [validReport "0xa", validReport "0xb"] = .ok core ∧
      core.rootflowTransitions.map (·.nextRoot) = ["0x01", "0x02"] ∧
      Chained (transitionsOf core.rootflowTransitions "") := by
  let _ : Keccak := keccak256
  let _ : Collation := codePointOrder
  have hsorted : sortObservations [committedRoot "0xb" "2" "0x02", committedRoot "0xa" "1" "0x01"] =
      .ok [committedRoot "0xa" "1" "0x01", committedRoot "0xb" "2" "0x02"] := by
    decide +kernel
  have h : (buildLaunchCore [committedRoot "0xb" "2" "0x02", committedRoot "0xa" "1" "0x01"]
      [validReport "0xa", validReport "0xb"]).toOption.map
      (fun core => core.rootflowTransitions.map (·.nextRoot)) = some ["0x01", "0x02"] := by
    unfold buildLaunchCore
    rw [hsorted]
    decide +kernel
  obtain ⟨core, hcore, hroots⟩ := Option.map_eq_some_iff.mp h
  have hbuild := Call.toOption_eq_some.mp hcore
  refine ⟨core, hbuild, hroots, (rootflow_chained ?_ hbuild).2.1 ""⟩
  decide +kernel

end chain

/-! ### The order of arrival -/

variable {α : Type}

/-- With distinct identifiers the last element with an identifier is the only one. -/
theorem lastFor_eq_some {id : α → String} {l : List α} (h : (l.map id).Nodup)
    {observationId : String} {a : α} :
    lastFor id l observationId = some a ↔ a ∈ l ∧ id a = observationId := by
  unfold lastFor
  constructor
  · intro ha
    exact ⟨List.mem_reverse.mp (List.mem_of_find?_eq_some ha), by simpa using List.find?_some ha⟩
  · rintro ⟨ha, rfl⟩
    have hsome : (l.reverse.find? fun b => decide (id b = id a)).isSome :=
      List.find?_isSome.mpr ⟨a, List.mem_reverse.mpr ha, decide_eq_true rfl⟩
    obtain ⟨b, hb⟩ := Option.isSome_iff_exists.mp hsome
    have hid : id b = id a := by simpa using List.find?_some hb
    rw [hb, List.inj_on_of_nodup_map h (List.mem_reverse.mp (List.mem_of_find?_eq_some hb)) ha hid]

theorem lastFor_perm {id : α → String} {l l' : List α} (hperm : l.Perm l')
    (h : (l.map id).Nodup) : lastFor id l = lastFor id l' := by
  funext observationId
  apply Option.ext
  intro a
  rw [lastFor_eq_some h, lastFor_eq_some ((hperm.map id).nodup h), hperm.mem_iff]

theorem sortedObservationsForFeed_perm [Collation]
    {observations observations' : List IndexedObservation}
    (hperm : observations.Perm observations') (h : (observations.map (·.observationId)).Nodup)
    (hkeys : {id | id ∈ observations.map (·.observationId)}.InjOn Collation.sortKey) :
    sortedObservationsForFeed observations = sortedObservationsForFeed observations' := by
  refine List.Perm.eq_of_pairwise ?_ (List.pairwise_insertionSort Before _)
    (List.pairwise_insertionSort Before _)
    ((List.perm_insertionSort _ _).trans (hperm.trans (List.perm_insertionSort _ _).symm))
  intro a b ha hb hab hba
  have ha := (List.mem_insertionSort _).mp ha
  have hb := hperm.mem_iff.mpr ((List.mem_insertionSort _).mp hb)
  have hkey := congrArg (fun p => (ofLex (ofLex (ofLex p).2).2).2) (le_antisymm hab hba)
  exact List.inj_on_of_nodup_map h ha hb
    (hkeys (List.mem_map.mpr ⟨a, ha, rfl⟩) (List.mem_map.mpr ⟨b, hb, rfl⟩) hkey)

theorem comparable_comm {a b : IndexedObservation} (h : Comparable a b) : Comparable b a := by
  unfold Comparable at h ⊢
  grind

theorem sortObservations_perm [Collation] {observations observations' : List IndexedObservation}
    (hperm : observations.Perm observations') (h : (observations.map (·.observationId)).Nodup)
    (hkeys : {id | id ∈ observations.map (·.observationId)}.InjOn Collation.sortKey) :
    sortObservations observations = sortObservations observations' := by
  unfold sortObservations
  rw [sortedObservationsForFeed_perm hperm h hkeys]
  simp only [hperm.pairwise_iff comparable_comm]

/-- What a launch core says of its rootfields. -/
def LaunchCore.summary (core : LaunchCore) :
    List RootflowTransition ×
      List (String × String × FlowMemoryStatus × Option String × TransitionCounts) :=
  (core.rootflowTransitions, core.rootfieldBundles.map fun b =>
    (b.rootfieldId, b.latestRoot, b.status, b.latestTransitionId, b.counts))

section arrival

variable [Keccak] {observations observations' : List IndexedObservation}
  {reports reports' : List VerifierReport}

theorem observe_perm (hperm : reports.Perm reports')
    (h : (reports.map (·.reportCore.observationId)).Nodup) :
    statusWith reports = statusWith reports' ∧ Rootflow.observe reports = Rootflow.observe reports' := by
  have hreport : reportFor reports = reportFor reports' := lastFor_perm hperm h
  have hreceipt : lastFor (·.observationId) (reports.map buildMemoryReceipt) =
      lastFor (·.observationId) (reports'.map buildMemoryReceipt) :=
    lastFor_perm (hperm.map _) (by rwa [List.map_map])
  have hstatus : statusWith reports = statusWith reports' := by
    unfold statusWith
    rw [hreport]
  refine ⟨hstatus, ?_⟩
  unfold Rootflow.observe Rootflow.transition
  rw [hreport, hreceipt, hstatus]

/-- The order in which observations and reports arrived is not seen in the launch core, if
`localeCompare` tells the identifiers of the observations apart. -/
theorem buildLaunchCore_perm [Collation] (hobservations : observations.Perm observations')
    (hreports : reports.Perm reports') (hids : (observations.map (·.observationId)).Nodup)
    (hkeys : {id | id ∈ observations.map (·.observationId)}.InjOn Collation.sortKey)
    (hreportIds : (reports.map (·.reportCore.observationId)).Nodup) :
    (buildLaunchCore observations reports).map (·.summary) =
      (buildLaunchCore observations' reports').map (·.summary) := by
  obtain ⟨hstatus, hobserve⟩ := observe_perm hreports hreportIds
  unfold buildLaunchCore
  rw [sortObservations_perm hobservations hids hkeys, hstatus, hobserve]
  -- both runs now read the same sequence; only the receipts may stand in another order
  cases sortObservations observations' with
  | error e => rfl
  | ok sorted =>
    dsimp only [Bind.bind, Except.bind]
    cases sorted.mapM fun o => buildMemorySignal o.toParsedFlowPulseObservation
        (statusWith reports' o.toParsedFlowPulseObservation) with
    | error e => rfl
    | ok signals =>
      dsimp only
      cases sorted.foldlM (Rootflow.observe reports' signals) .init with
      | error e => rfl
      | ok s =>
        simp only [pure, Except.pure, Except.map, LaunchCore.summary, List.map_map, Except.ok.injEq,
          Prod.mk.injEq, true_and]
        refine List.map_congr_left fun id _ => ?_
        have hcount := (((hreports.map buildMemoryReceipt).filter (·.rootfieldId = id)).length_eq)
        simp only [Function.comp_apply, rootfieldBundle, transitionCounts, hcount]

omit [Keccak] in
theorem buildLaunchCore_perm_two_commitments :
    letI : Keccak := keccak256
    letI : Collation := codePointOrder
    (buildLaunchCore [committedRoot "0xb" "2" "0x02", committedRoot "0xa" "1" "0x01"]
        [validReport "0xa", validReport "0xb"]).map (·.summary) =
      (buildLaunchCore [committedRoot "0xa" "1" "0x01", committedRoot "0xb" "2" "0x02"]
        [validReport "0xb", validReport "0xa"]).map (·.summary) :=
  letI : Keccak := keccak256
  letI : Collation := codePointOrder
  buildLaunchCore_perm (.swap _ _ _) (.swap _ _ _) (by decide)
    (codePointOrder_injective.injOn) (by decide)

end arrival

end FlowMemory.Indexer
