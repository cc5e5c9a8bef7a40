import Mathlib.Data.List.Induction
import FlowMemory.Indexer.IndexLogs

/-! # What the indexer keeps of a pulse

The tables of a scan are determined by the **deliveries** before it, the observations of the logs
that were read.  If an observation identifier belongs to one pulse only, the observations of a pulse
depend on its own deliveries: the first is new, and every other one is compared with the first. -/

namespace FlowMemory.Indexer

open Crypto Check Function

/-! ### Deliveries -/

section deliveries

variable [K : Keccak] (options : IndexerStateOptions) (sourceSetId : String)

/-- The observations of the logs that are read. -/
def deliveries (logs : List RawFlowPulseLogFixture) : List ParsedFlowPulseObservation :=
  logs.filterMap fun log => (readLog options sourceSetId log).toOption

variable {options sourceSetId} {logs : List RawFlowPulseLogFixture} {s : IndexerScan}

theorem deliveries_cons (log : RawFlowPulseLogFixture) (logs : List RawFlowPulseLogFixture) :
    deliveries options sourceSetId (log :: logs) =
      (readLog options sourceSetId log).toOption.toList ++ deliveries options sourceSetId logs := by
  rw [deliveries, List.filterMap_cons]
  cases (readLog options sourceSetId log).toOption <;> rfl

/-- A scan records the deliveries; other logs only add to the rejections. -/
theorem scan_deliveries : ∃ rejectedLogs,
    logs.foldl (IndexerScan.log options sourceSetId) s =
      { (deliveries options sourceSetId logs).foldl (IndexerScan.record sourceSetId) s with
        rejectedLogs } := by
  induction logs generalizing s with
  | nil => exact ⟨s.rejectedLogs, rfl⟩
  | cons log logs ih =>
    have hframe : ∀ (ds : List ParsedFlowPulseObservation) (s : IndexerScan) rejectedLogs,
        ds.foldl (IndexerScan.record sourceSetId) { s with rejectedLogs } =
          { ds.foldl (IndexerScan.record sourceSetId) s with rejectedLogs } := by
      intro ds
      induction ds with
      | nil => exact fun _ _ => rfl
      | cons d ds ihd => exact fun s r => ihd (s.record sourceSetId d) r
    rw [List.foldl_cons, deliveries_cons, List.foldl_append, IndexerScan.log]
    cases readLog options sourceSetId log with
    | error rejected =>
      obtain ⟨rejectedLogs, h⟩ := ih (s := { s with rejectedLogs := s.rejectedLogs ++ [rejected] })
      exact ⟨rejectedLogs, by rw [h, hframe]; rfl⟩
    | ok o => exact ih

theorem readLog_ok {log : RawFlowPulseLogFixture} {o : ParsedFlowPulseObservation}
    (h : readLog options sourceSetId log = .ok o) : ∃ parsed,
      parseFlowPulseLogFixture log sourceSetId = .ok parsed ∧
      observationStatus parsed options = .ok o.lifecycleState ∧
      o = { parsed with lifecycleState := o.lifecycleState } := by
  unfold readLog at h
  split_ifs at h
  cases hobserve : observe options sourceSetId log with
  | error message =>
    rw [hobserve] at h
    cases h
  | ok o' =>
    rw [hobserve] at h
    cases h
    simp only [observe, bind_ok, pure_ok] at hobserve
    obtain ⟨parsed, hparsed, state, hstate, rfl⟩ := hobserve
    exact ⟨parsed, hparsed, hstate, rfl⟩

theorem mem_deliveries {o : ParsedFlowPulseObservation} :
    o ∈ deliveries options sourceSetId logs ↔ ∃ log ∈ logs, readLog options sourceSetId log = .ok o := by
  simp only [deliveries, List.mem_filterMap]
  refine exists_congr fun log => and_congr_right fun _ => ?_
  cases readLog options sourceSetId log <;> simp [Except.toOption]

theorem identified_of_mem_deliveries {o : ParsedFlowPulseObservation}
    (h : o ∈ deliveries options sourceSetId logs) : o.Identified := by
  obtain ⟨log, -, hlog⟩ := mem_deliveries.mp h
  obtain ⟨parsed, hparsed, -, ho⟩ := readLog_ok hlog
  have hid := parse_identified hparsed
  rw [ho]
  exact ⟨hid.observationId, hid.pulseId, hid.rootfieldId⟩

theorem not_superseded_of_mem_deliveries {o : ParsedFlowPulseObservation}
    (h : o ∈ deliveries options sourceSetId logs) : o.lifecycleState ≠ .superseded := by
  obtain ⟨log, -, hlog⟩ := mem_deliveries.mp h
  obtain ⟨parsed, -, hstate, -⟩ := readLog_ok hlog
  intro heq
  rw [heq] at hstate
  unfold observationStatus finality at hstate
  split_ifs at hstate
  · cases hstate
  · cases hstate
  · split at hstate
    · cases hstate
    · simp only [bind_ok, pure_ok] at hstate
      obtain ⟨block, -, last, -, hstate⟩ := hstate
      split_ifs at hstate

end deliveries

/-! ### The tables -/

/-- An observation identifier belongs to one pulse. -/
def Coherent (ds : List ParsedFlowPulseObservation) : Prop :=
  ∀ d ∈ ds, ∀ d' ∈ ds, d.observationId = d'.observationId → d.pulseId = d'.pulseId

def firstOf (ds : List ParsedFlowPulseObservation) (pulseId : String) :
    Option ParsedFlowPulseObservation :=
  ds.find? fun d => d.pulseId = pulseId

/-- The kind of an observation of a pulse after the first one of the pulse. -/
def kindAfter (first : Option ParsedFlowPulseObservation) (o : ParsedFlowPulseObservation) :
    DuplicateKind :=
  match first with
  | none => .unique
  | some f =>
    if f.observationId = o.observationId then
      if canonicalObservationJson f = canonicalObservationJson o then .exactDuplicate
      else .conflictingDuplicate
    else if f.blockHash ≠ o.blockHash ∨ f.logIndex ≠ o.logIndex then .reorgReplacement
    else .pulseDuplicate

/-- The tables of a scan after the given deliveries. -/
structure Recorded (ds : List ParsedFlowPulseObservation) (s : IndexerScan) : Prop where
  pulses : ∀ pulseId, s.seenByPulseId pulseId = firstOf ds pulseId
  ids : ∀ o : ParsedFlowPulseObservation, Coherent (ds ++ [o]) →
    s.seenByObservationId o.observationId = ((firstOf ds o.pulseId).filter fun f =>
      f.observationId = o.observationId).map canonicalObservationJson

section tables

variable {ds : List ParsedFlowPulseObservation} {o f : ParsedFlowPulseObservation} {s : IndexerScan}

theorem Coherent.left (h : Coherent (ds ++ [o])) : Coherent ds :=
  fun d hd d' hd' => h d (List.mem_append_left _ hd) d' (List.mem_append_left _ hd')

theorem firstOf_append (ds : List ParsedFlowPulseObservation) (o : ParsedFlowPulseObservation)
    (pulseId : String) : firstOf (ds ++ [o]) pulseId =
      (firstOf ds pulseId).or (if o.pulseId = pulseId then some o else none) := by
  rw [firstOf, List.find?_append, firstOf]
  congr 1
  by_cases h : o.pulseId = pulseId <;> simp [h]

theorem Recorded.kind (h : Recorded ds s) (hds : Coherent (ds ++ [o])) :
    s.kind o = kindAfter (firstOf ds o.pulseId) o := by
  rw [IndexerScan.kind, duplicateKindFor, h.ids o hds, h.pulses]
  cases hfirst : firstOf ds o.pulseId with
  | none => rfl
  | some f =>
    by_cases hid : f.observationId = o.observationId <;>
      simp [kindAfter, hid, Option.filter_some]

theorem kindAfter_eq_unique {first : Option ParsedFlowPulseObservation} :
    kindAfter first o = .unique ↔ first = none := by
  cases first with
  | none => simp [kindAfter]
  | some f =>
    simp only [kindAfter, reduceCtorEq, iff_false]
    split_ifs <;> simp

theorem Recorded.record (h : Recorded ds s) (hds : Coherent (ds ++ [o])) (sourceSetId : String) :
    Recorded (ds ++ [o]) (s.record sourceSetId o) := by
  have hkind := h.kind hds
  constructor
  · intro pulseId
    simp only [IndexerScan.record, hkind, kindAfter_eq_unique, firstOf_append]
    by_cases hpulse : o.pulseId = pulseId
    · subst hpulse
      cases hfirst : firstOf ds o.pulseId <;> simp [h.pulses, hfirst]
    · split_ifs <;> simp [h.pulses, update_of_ne (Ne.symm hpulse)]
  · intro o' hds'
    -- the deliveries before the last one, with the new one
    have hbefore : Coherent (ds ++ [o']) := by
      intro d hd d' hd'
      refine hds' d ?_ d' ?_ <;> simp only [List.mem_append, List.mem_singleton] at * <;> tauto
    have hpair : o.observationId = o'.observationId → o.pulseId = o'.pulseId :=
      hds' o (by simp) o' (by simp)
    simp only [IndexerScan.record, hkind, kindAfter_eq_unique, firstOf_append]
    by_cases hid : o.observationId = o'.observationId
    · have hpulse := hpair hid
      cases hfirst : firstOf ds o'.pulseId with
      | none => simp [hpulse, hfirst, hid]
      | some f => simp [hpulse, hfirst, h.ids o' hbefore]
    · have hlookup : (if firstOf ds o.pulseId = none then
            update s.seenByObservationId o.observationId (some (canonicalObservationJson o))
          else s.seenByObservationId) o'.observationId = s.seenByObservationId o'.observationId := by
        split_ifs
        · exact update_of_ne (Ne.symm hid) _ _
        · rfl
      rw [hlookup, h.ids o' hbefore]
      cases hfirst : firstOf ds o'.pulseId with
      | none => split_ifs <;> simp [hid]
      | some f => rfl

end tables

/-! ### The observations of a pulse -/

def ofPulse (pulseId : String) (ds : List ParsedFlowPulseObservation) :
    List ParsedFlowPulseObservation :=
  ds.filter fun d => d.pulseId = pulseId

def newEntry (f : ParsedFlowPulseObservation) : IndexedObservation :=
  ⟨f, .unique, canonicalObservationJson f⟩

/-- The first observation of a pulse, after the others. -/
def firstEntry (f : ParsedFlowPulseObservation) (rest : List ParsedFlowPulseObservation) :
    IndexedObservation :=
  if ∃ o ∈ rest, o.observationId ≠ f.observationId then (newEntry f).superseded else newEntry f

def laterEntry (f o : ParsedFlowPulseObservation) : IndexedObservation :=
  ⟨o, kindAfter (some f) o, canonicalObservationJson o⟩

def pulseEntries : List ParsedFlowPulseObservation → List IndexedObservation
  | [] => []
  | f :: rest => firstEntry f rest :: rest.map (laterEntry f)

section entries

variable {ds : List ParsedFlowPulseObservation} {o f : ParsedFlowPulseObservation} {s : IndexerScan}
  {pulseId : String} {observations : List IndexedObservation}

theorem superseded_pulseId (o : IndexedObservation) : o.superseded.pulseId = o.pulseId := by
  unfold IndexedObservation.superseded
  split_ifs <;> rfl

theorem superseded_superseded
    (o : IndexedObservation) : o.superseded.superseded = o.superseded := by
  by_cases hlive : o.Live
  · have hsuperseded : o.superseded = { o with lifecycleState := .superseded } := if_pos hlive
    rw [hsuperseded]
    exact if_pos ⟨nofun, nofun⟩
  · have hsame : o.superseded = o := if_neg hlive
    rw [hsame, hsame]

theorem filter_supersede_of_ne {q : String} (h : pulseId ≠ q)
    (observations : List IndexedObservation) :
    (supersede q observations).filter (fun o => o.pulseId = pulseId) =
      observations.filter fun o => o.pulseId = pulseId := by
  induction observations with
  | nil => rfl
  | cons o observations ih =>
    unfold supersede
    split_ifs with hpulse
    · have hne : o.pulseId ≠ pulseId := fun heq => h (heq.symm.trans hpulse)
      simp [superseded_pulseId, hne]
    · rw [List.filter_cons, List.filter_cons, ih]

/-- The first observation of the pulse is superseded. -/
theorem filter_supersede {first : IndexedObservation} {rest : List IndexedObservation}
    (h : observations.filter (fun o => o.pulseId = pulseId) = first :: rest) :
    (supersede pulseId observations).filter (fun o => o.pulseId = pulseId) =
      first.superseded :: rest := by
  induction observations with
  | nil => cases h
  | cons o observations ih =>
    unfold supersede
    by_cases hpulse : o.pulseId = pulseId
    · rw [List.filter_cons_of_pos (by simpa using hpulse)] at h
      obtain ⟨rfl, hrest⟩ := List.cons.inj h
      rw [if_pos hpulse, List.filter_cons_of_pos (by simpa [superseded_pulseId] using hpulse),
        hrest]
    · rw [List.filter_cons_of_neg (by simpa using hpulse)] at h
      rw [if_neg hpulse, List.filter_cons_of_neg (by simpa using hpulse), ih h]

theorem firstOf_eq_head (ds : List ParsedFlowPulseObservation) (pulseId : String) :
    firstOf ds pulseId = (ofPulse pulseId ds).head? := by
  rw [firstOf, ofPulse, List.head?_filter]

theorem kindAfter_replaces (f o : ParsedFlowPulseObservation) :
    kindAfter (some f) o = .pulseDuplicate ∨ kindAfter (some f) o = .reorgReplacement ↔
      o.observationId ≠ f.observationId := by
  rw [ne_comm]
  simp only [kindAfter]
  split_ifs <;> simp_all

theorem firstEntry_append (f o : ParsedFlowPulseObservation)
    (rest : List ParsedFlowPulseObservation) : firstEntry f (rest ++ [o]) =
      if o.observationId ≠ f.observationId then (firstEntry f rest).superseded
      else firstEntry f rest := by
  by_cases hother : ∃ o ∈ rest, o.observationId ≠ f.observationId
  · have hmore : ∃ d ∈ rest ++ [o], d.observationId ≠ f.observationId := by
      obtain ⟨d, hd, hne⟩ := hother
      exact ⟨d, List.mem_append_left _ hd, hne⟩
    rw [firstEntry, if_pos hmore, firstEntry, if_pos hother, superseded_superseded, ite_self]
  · have hmore : (∃ d ∈ rest ++ [o], d.observationId ≠ f.observationId) ↔
        o.observationId ≠ f.observationId := by
      simp only [List.mem_append, List.mem_singleton, or_and_right, exists_or, hother, false_or,
        exists_eq_left]
    simp only [firstEntry, hmore, hother, if_false]

/-- Recording an observation adds to the entries of its pulse only. -/
theorem pushObservation_entries
    (h : observations.filter (fun o => o.pulseId = pulseId) = pulseEntries (ofPulse pulseId ds)) :
    (pushObservation o (kindAfter (firstOf ds o.pulseId) o) observations).filter
        (fun o => o.pulseId = pulseId) = pulseEntries (ofPulse pulseId (ds ++ [o])) := by
  set kind := kindAfter (firstOf ds o.pulseId) o with hkind
  set new : IndexedObservation := ⟨o, kind, canonicalObservationJson o⟩ with hnew
  have hpushed : (observations ++ [new]).filter (fun o => o.pulseId = pulseId) =
      pulseEntries (ofPulse pulseId ds) ++ if o.pulseId = pulseId then [new] else [] := by
    rw [List.filter_append, h]
    by_cases hpulse : o.pulseId = pulseId <;> simp [hpulse, hnew]
  have hofPulse : ofPulse pulseId (ds ++ [o]) =
      ofPulse pulseId ds ++ if o.pulseId = pulseId then [o] else [] := by
    rw [ofPulse, List.filter_append, ofPulse]
    by_cases hpulse : o.pulseId = pulseId <;> simp [hpulse]
  rw [hofPulse, pushObservation, ← hnew]
  by_cases hpulse : o.pulseId = pulseId
  · rw [if_pos hpulse] at hpushed ⊢
    rw [hpulse, firstOf_eq_head] at hkind
    cases hds : ofPulse pulseId ds with
    | nil =>
      rw [hds] at hkind hpushed
      rw [if_neg (by simp [hkind, kindAfter]), hpushed, hnew, hkind]
      rfl
    | cons f rest =>
      rw [hds, List.head?_cons] at hkind
      have hentries : pulseEntries (f :: (rest ++ [o])) =
          firstEntry f (rest ++ [o]) :: (rest.map (laterEntry f) ++ [new]) := by
        rw [pulseEntries, List.map_append, hnew, hkind]
        rfl
      rw [hds] at hpushed
      rw [List.cons_append, hentries, firstEntry_append, hkind]
      simp only [kindAfter_replaces]
      split_ifs with hne
      · rw [hpulse]
        exact filter_supersede hpushed
      · exact hpushed
  · rw [if_neg hpulse, List.append_nil] at hpushed ⊢
    split_ifs
    · rw [filter_supersede_of_ne (Ne.symm hpulse), hpushed]
    · exact hpushed

/-- The observations of a pulse after the deliveries. -/
theorem scan_entries (sourceSetId : String) (options : IndexerStateOptions)
    (ds : List ParsedFlowPulseObservation) (hds : Coherent ds) :
    Recorded ds (ds.foldl (IndexerScan.record sourceSetId) (.init options)) ∧
      ∀ pulseId, (ds.foldl (IndexerScan.record sourceSetId) (.init options)).observations.filter
        (fun o => o.pulseId = pulseId) = pulseEntries (ofPulse pulseId ds) := by
  induction ds using List.reverseRecOn with
  | nil => exact ⟨⟨fun _ => rfl, fun _ _ => rfl⟩, fun _ => rfl⟩
  | append_singleton ds o ih =>
    obtain ⟨hrecorded, hentries⟩ := ih hds.left
    rw [List.foldl_append]
    refine ⟨hrecorded.record hds sourceSetId, fun pulseId => ?_⟩
    rw [List.foldl_cons, List.foldl_nil, IndexerScan.record]
    simp only [hrecorded.kind hds]
    exact pushObservation_entries (hentries pulseId)

end entries

end FlowMemory.Indexer
