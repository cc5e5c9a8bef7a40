import Mathlib.Data.List.Find
import FlowMemory.Indexer.PulseEntries
import FlowMemory.Indexer.PulseLog

/-! # One canonical observation for a pulse

An observation identifier is **live** if its last delivery is neither removed nor in a block that was
replaced.  The feed should show one observation of every pulse with a live identifier, and none of
any other.  The indexer compares a delivery with the first one of its pulse only, so it does this
exactly for the pulses whose deliveries `Settle`. -/

namespace FlowMemory.Indexer

open Crypto Check

/-! ### Copies -/

theorem LifecycleState.text_injective {a b : LifecycleState} (h : a.text = b.text) : a = b := by
  cases a <;> cases b <;> first | rfl | exact absurd h (by decide)

theorem ReceiptStatus.text_injective {a b : ReceiptStatus} (h : a.text = b.text) : a = b := by
  cases a <;> cases b <;> first | rfl | exact absurd h (by decide)

def observationKeys : List String :=
  ["actor", "blockHash", "blockNumber", "chainId", "commitment", "cursorId", "emittingContract",
    "eventSignature", "lifecycleState", "logIndex", "observationId", "occurredAt", "parentPulseId",
    "pulseId", "pulseType", "receiptStatus", "rootfieldId", "sequence", "subject",
    "transactionIndex", "txHash", "uri"]

/-- The text of an observation determines it. -/
theorem canonicalObservationJson_inj {a b : ParsedFlowPulseObservation}
    (h : canonicalObservationJson a = canonicalObservationJson b) : a = b := by
  have hkeys (o : ParsedFlowPulseObservation) :
      (observationMembers o).map Prod.fst = observationKeys := rfl
  have hnodup : observationKeys.Nodup := by decide +kernel
  have hmembers := (Json.canonicalJson_obj_inj ((hkeys a).trans (hkeys b).symm)
    ((hkeys a).symm ▸ hnodup)).mp (String.ofList_injective h)
  simp only [observationMembers, Json.normalizeMembers, Json.normalizeValue, List.cons.injEq,
    Prod.mk.injEq, Json.str.injEq, true_and, and_true] at hmembers
  obtain ⟨hactor, hblockHash, hblockNumber, hchainId, hcommitment, hcursorId, hcontract, hsignature,
    hstate, hlogIndex, hid, hoccurredAt, hparent, hpulseId, hpulseType, hreceipt, hrootfieldId,
    hsequence, hsubject, htransactionIndex, htxHash, huri⟩ := hmembers
  have hstate' := LifecycleState.text_injective hstate
  have hreceipt' := ReceiptStatus.text_injective hreceipt
  cases a
  cases b
  simp only at *
  subst_vars
  rfl

/-! ### Shown observations -/

/-- All deliveries of the pulse after the first one carry its identifier. -/
def SameId (f : ParsedFlowPulseObservation) (rest : List ParsedFlowPulseObservation) : Prop :=
  ∀ o ∈ rest, o.observationId = f.observationId

instance (f : ParsedFlowPulseObservation) (rest : List ParsedFlowPulseObservation) :
    Decidable (SameId f rest) :=
  inferInstanceAs (Decidable (∀ o ∈ rest, _))

/-- The live deliveries that are not copies of the first one. -/
def extras (f : ParsedFlowPulseObservation) (rest : List ParsedFlowPulseObservation) :
    List ParsedFlowPulseObservation :=
  rest.filter fun o => o.Live ∧ o ≠ f

section shown

variable {f o : ParsedFlowPulseObservation} {rest : List ParsedFlowPulseObservation}

theorem kindAfter_eq_exact :
    kindAfter (some f) o = .exactDuplicate ↔ o = f := by
  constructor
  · intro h
    simp only [kindAfter] at h
    split_ifs at h with hid hjson
    exact (canonicalObservationJson_inj hjson).symm
  · rintro rfl
    simp [kindAfter]

theorem laterEntry_canonical (ho : o.lifecycleState ≠ .superseded) :
    (laterEntry f o).dashboardCanonical = true ↔ o.Live ∧ o ≠ f := by
  rw [IndexedObservation.dashboardCanonical, decide_eq_true_iff]
  change kindAfter (some f) o ≠ .exactDuplicate ∧ o.lifecycleState ≠ .removed ∧
    o.lifecycleState ≠ .reorged ∧ o.lifecycleState ≠ .superseded ↔ _
  rw [ne_eq, kindAfter_eq_exact, ParsedFlowPulseObservation.Live]
  tauto

theorem firstEntry_canonical (hf : f.lifecycleState ≠ .superseded) :
    (firstEntry f rest).dashboardCanonical = true ↔ f.Live ∧ SameId f rest := by
  have hnew : (newEntry f).dashboardCanonical = true ↔ f.Live := by
    rw [IndexedObservation.dashboardCanonical, decide_eq_true_iff]
    exact ⟨fun h => ⟨h.2.1, h.2.2.1⟩, fun h => ⟨nofun, h.1, h.2, hf⟩⟩
  by_cases hsame : SameId f rest
  · have hnone : ¬ ∃ o ∈ rest, o.observationId ≠ f.observationId := by
      rintro ⟨o, ho, hne⟩
      exact hne (hsame o ho)
    rw [firstEntry, if_neg hnone, hnew]
    exact (and_iff_left hsame).symm
  · have hother : ∃ o ∈ rest, o.observationId ≠ f.observationId := by
      simpa [SameId] using hsame
    rw [firstEntry, if_pos hother]
    simp only [hsame, and_false, iff_false, Bool.not_eq_true]
    by_cases hlive : f.Live
    · have hsuperseded : (newEntry f).superseded =
          { newEntry f with lifecycleState := .superseded } := if_pos hlive
      rw [hsuperseded]
      exact decide_eq_false fun h => h.2.2.2 rfl
    · have hkept : (newEntry f).superseded = newEntry f := if_neg hlive
      rw [hkept, ← Bool.not_eq_true, hnew]
      exact hlive

/-- The entries of a pulse that the feed shows. -/
theorem pulseEntries_canonical (h : ∀ o ∈ f :: rest, o.lifecycleState ≠ .superseded) :
    (pulseEntries (f :: rest)).filter (·.dashboardCanonical) =
      (if f.Live ∧ SameId f rest then [newEntry f] else []) ++
        (extras f rest).map (laterEntry f) := by
  obtain ⟨hf, hrest⟩ := List.forall_mem_cons.mp h
  have hlater : (rest.map (laterEntry f)).filter (·.dashboardCanonical) =
      (extras f rest).map (laterEntry f) := by
    rw [List.filter_map, extras]
    refine congrArg (List.map _) (List.filter_congr fun o ho => ?_)
    exact Bool.eq_iff_iff.mpr ((laterEntry_canonical (hrest o ho)).trans decide_eq_true_iff.symm)
  rw [pulseEntries, List.filter_cons, hlater]
  by_cases hshown : f.Live ∧ SameId f rest
  · have hnone : ¬ ∃ o ∈ rest, o.observationId ≠ f.observationId := by
      rintro ⟨o, ho, hne⟩
      exact hne (hshown.2 o ho)
    rw [if_pos ((firstEntry_canonical hf).mpr hshown), if_pos hshown, firstEntry, if_neg hnone]
    rfl
  · rw [if_neg fun h => hshown ((firstEntry_canonical hf).mp h), if_neg hshown]
    rfl

end shown

/-! ### Live identifiers -/

def lastOf (ds : List ParsedFlowPulseObservation) (observationId : String) :
    Option ParsedFlowPulseObservation :=
  ds.reverse.find? fun d => d.observationId = observationId

def LiveId (ds : List ParsedFlowPulseObservation) (observationId : String) : Prop :=
  ∃ d, lastOf ds observationId = some d ∧ d.Live

/-- A pulse with a live observation identifier. -/
def LivePulse (ds : List ParsedFlowPulseObservation) (pulseId : String) : Prop :=
  ∃ observationId d, lastOf ds observationId = some d ∧ d.Live ∧ d.pulseId = pulseId

section live

variable {ds : List ParsedFlowPulseObservation} {d : ParsedFlowPulseObservation} {pulseId : String}

theorem lastOf_some {observationId : String} (h : lastOf ds observationId = some d) :
    d ∈ ds ∧ d.observationId = observationId :=
  ⟨List.mem_reverse.mp (List.mem_of_find?_eq_some h), by simpa using List.find?_some h⟩

/-- The last delivery of an identifier is among the deliveries of its pulse. -/
theorem lastOf_ofPulse (hds : Coherent ds) (hd : d ∈ ofPulse pulseId ds) :
    lastOf (ofPulse pulseId ds) d.observationId = lastOf ds d.observationId := by
  obtain ⟨hmem, hpulse⟩ := List.mem_filter.mp hd
  have hpulse : d.pulseId = pulseId := by simpa using hpulse
  rw [lastOf, ofPulse, ← List.filter_reverse, List.find?_filter, lastOf]
  refine List.find?_congr fun d' hd' => ?_
  by_cases hid : d'.observationId = d.observationId
  · have heq := hds d' (List.mem_reverse.mp hd') d hmem hid
    simp [hid, heq, hpulse]
  · simp [hid]

theorem liveId_ofPulse (hds : Coherent ds) (hd : d ∈ ofPulse pulseId ds) :
    LiveId (ofPulse pulseId ds) d.observationId ↔ LiveId ds d.observationId := by
  rw [LiveId, lastOf_ofPulse hds hd, LiveId]

theorem livePulse_iff (hds : Coherent ds) :
    LivePulse ds pulseId ↔
      ∃ d ∈ ofPulse pulseId ds, LiveId (ofPulse pulseId ds) d.observationId := by
  constructor
  · rintro ⟨observationId, d, hlast, hlive, hpulse⟩
    obtain ⟨hmem, rfl⟩ := lastOf_some hlast
    have hd : d ∈ ofPulse pulseId ds := List.mem_filter.mpr ⟨hmem, by simpa using hpulse⟩
    exact ⟨d, hd, (liveId_ofPulse hds hd).mpr ⟨d, hlast, hlive⟩⟩
  · rintro ⟨d, hd, hlive⟩
    obtain ⟨d', hlast, hlive'⟩ := (liveId_ofPulse hds hd).mp hlive
    obtain ⟨hmem', hid⟩ := lastOf_some hlast
    obtain ⟨hmem, hpulse⟩ := List.mem_filter.mp hd
    exact ⟨d.observationId, d', hlast, hlive', (hds d' hmem' d hmem hid).trans (by simpa using hpulse)⟩

end live

/-! ### Pulses that settle -/

/-- The deliveries of a pulse settle: either they all carry one identifier, the first and the last
are live and every live one is a copy of the first; or the first is not live or there is another
identifier, and there is one live delivery besides copies of the first, whose identifier is live, or
there is none and no identifier is live. -/
def Settles : List ParsedFlowPulseObservation → Prop
  | [] => True
  | f :: rest =>
    if f.Live ∧ SameId f rest then extras f rest = [] ∧ LiveId (f :: rest) f.observationId
    else (∃ d, extras f rest = [d] ∧ LiveId (f :: rest) d.observationId) ∨
      extras f rest = [] ∧ ∀ d ∈ f :: rest, ¬ LiveId (f :: rest) d.observationId

/-- The feed shows one observation of every pulse with a live identifier, and none of another. -/
def CanonicalOnce (feed : DashboardFeed) (ds : List ParsedFlowPulseObservation) : Prop :=
  ∀ pulseId,
    (LivePulse ds pulseId → ∃ entry, (feed.observations.filter fun entry =>
      entry.pulseId = pulseId ∧ entry.canonical) = [entry] ∧ LiveId ds entry.observationId) ∧
    (¬ LivePulse ds pulseId → (feed.observations.filter fun entry =>
      entry.pulseId = pulseId ∧ entry.canonical) = [])

section settles

variable {ds : List ParsedFlowPulseObservation}

/-- What the indexer shows of the deliveries of one pulse is right exactly if they settle. -/
theorem settles_iff (h : ∀ o ∈ ds, o.lifecycleState ≠ .superseded) :
    ((∃ d ∈ ds, LiveId ds d.observationId) → ∃ entry,
        (pulseEntries ds).filter (·.dashboardCanonical) = [entry] ∧ LiveId ds entry.observationId) ∧
      ((¬ ∃ d ∈ ds, LiveId ds d.observationId) →
        (pulseEntries ds).filter (·.dashboardCanonical) = []) ↔ Settles ds := by
  cases ds with
  | nil => exact ⟨fun _ => trivial, fun _ => ⟨nofun, fun _ => rfl⟩⟩
  | cons f rest =>
    have hextra (d) (hd : extras f rest = [d]) : d ∈ f :: rest :=
      List.mem_cons_of_mem _ (List.mem_of_mem_filter (hd ▸ List.mem_singleton_self d))
    rw [pulseEntries_canonical h, Settles]
    by_cases hexists : ∃ d ∈ f :: rest, LiveId (f :: rest) d.observationId
    all_goals
      simp only [hexists, true_imp_iff, not_true, not_false_iff, false_imp_iff, and_true, true_and]
      split_ifs
    · simp [newEntry, and_comm]
    · obtain ⟨d, hd, hid⟩ := hexists
      rw [or_iff_left fun hnone => hnone.2 d hd hid]
      simp [List.map_eq_singleton_iff, laterEntry]
    · simpa using fun _ hid => hexists ⟨f, List.mem_cons_self, hid⟩
    · rw [or_iff_right fun ⟨d, hd, hid⟩ => hexists ⟨d, hextra d hd, hid⟩]
      simpa using fun _ => by simpa using hexists

theorem mem_ofPulse_of_entry {pulseId : String} {entry : IndexedObservation}
    (h : entry ∈ pulseEntries (ofPulse pulseId ds)) :
    ∃ d ∈ ofPulse pulseId ds, entry.observationId = d.observationId := by
  cases hds : ofPulse pulseId ds with
  | nil =>
    rw [hds] at h
    nomatch h
  | cons f rest =>
    rw [hds, pulseEntries] at h
    rcases List.mem_cons.mp h with rfl | h
    · refine ⟨f, List.mem_cons_self, ?_⟩
      unfold firstEntry IndexedObservation.superseded
      split_ifs <;> rfl
    · obtain ⟨o, ho, rfl⟩ := List.mem_map.mp h
      exact ⟨o, List.mem_cons_of_mem _ ho, rfl⟩

end settles

/-! ### The feed -/

section feed

variable [K : Keccak] {logs : List RawFlowPulseLogFixture} {options : IndexerStateOptions}
  {sourceSetId : String}

theorem coherent_deliveries (hinj : Set.InjOn K.digest
      (identityPreimages (deliveries options sourceSetId logs))) :
    Coherent (deliveries options sourceSetId logs) :=
  fun _ hd _ hd' hid => (eq_of_observationId_eq hinj hd hd' (identified_of_mem_deliveries hd)
    (identified_of_mem_deliveries hd') hid).1

/-- The observations of a scan, by pulse. -/
theorem scanLogs_entries (hinj : Set.InjOn K.digest
      (identityPreimages (deliveries options sourceSetId logs))) (pulseId : String) :
    (scanLogs logs options sourceSetId).observations.filter (fun o => o.pulseId = pulseId) =
      pulseEntries (ofPulse pulseId (deliveries options sourceSetId logs)) := by
  obtain ⟨rejectedLogs, hscan⟩ : ∃ rejectedLogs, scanLogs logs options sourceSetId =
      { (deliveries options sourceSetId logs).foldl (IndexerScan.record sourceSetId)
        (.init options) with rejectedLogs } := scan_deliveries
  rw [hscan]
  exact (scan_entries sourceSetId options _ (coherent_deliveries hinj)).2 pulseId

variable [Collation]

/-- The entries of the feed that are shown for a pulse, in the order of the feed. -/
theorem feed_shown (hinj : Set.InjOn K.digest
      (identityPreimages (deliveries options sourceSetId logs))) (chainId pulseId : String) :
    (buildDashboardFeed chainId sourceSetId (scanLogs logs options sourceSetId)).observations.filter
        (fun entry => entry.pulseId = pulseId ∧ entry.canonical) =
      (((pulseEntries (ofPulse pulseId (deliveries options sourceSetId logs))).filter
        (·.dashboardCanonical)).insertionSort Before).map fun o => ⟨o, o.dashboardCanonical⟩ := by
  rw [buildDashboardFeed, List.filter_map, sortedObservationsForFeed]
  congr 1
  rw [filter_insertionSort, ← scanLogs_entries hinj pulseId, List.filter_filter]
  congr 1
  refine List.filter_congr fun o _ => ?_
  simp [Bool.and_comm]

/-- The indexer shows one observation of every pulse with a live identifier, and none of another,
exactly if the deliveries of every pulse settle. -/
theorem canonical_once_iff (hsource : scanSourceSetId logs options = .ok sourceSetId)
    (hinj : Set.InjOn K.digest (identityPreimages (deliveries options sourceSetId logs))) :
    ∃ state, indexFlowPulseLogs logs options = .ok state ∧
      (CanonicalOnce state.dashboardFeed (deliveries options sourceSetId logs) ↔
        ∀ pulseId, Settles (ofPulse pulseId (deliveries options sourceSetId logs))) := by
  set ds := deliveries options sourceSetId logs with hds
  have hcoherent : Coherent ds := coherent_deliveries hinj
  refine ⟨_, by rw [indexFlowPulseLogs, hsource]; rfl, forall_congr' fun pulseId => ?_⟩
  have hstates : ∀ o ∈ ofPulse pulseId ds, o.lifecycleState ≠ .superseded := by
    intro o ho
    exact not_superseded_of_mem_deliveries (List.mem_of_mem_filter ho)
  rw [feed_shown hinj, ← hds, ← settles_iff hstates, livePulse_iff hcoherent]
  refine and_congr (imp_congr_right fun _ => ?_) (imp_congr_right fun _ => ?_)
  · have hids (o) (hshown : (pulseEntries (ofPulse pulseId ds)).filter (·.dashboardCanonical) = [o]) :
        LiveId (ofPulse pulseId ds) o.observationId ↔ LiveId ds o.observationId := by
      obtain ⟨d, hd, hod⟩ := mem_ofPulse_of_entry
        (List.mem_of_mem_filter (hshown ▸ List.mem_singleton_self o))
      rw [hod, liveId_ofPulse hcoherent hd]
    simp only [List.map_eq_singleton_iff, insertionSort_eq_singleton]
    constructor
    · rintro ⟨_, ⟨o, hshown, rfl⟩, hid⟩
      exact ⟨o, hshown, (hids o hshown).mpr hid⟩
    · rintro ⟨o, hshown, hid⟩
      exact ⟨_, ⟨o, hshown, rfl⟩, (hids o hshown).mp hid⟩
  · rw [List.map_eq_nil_iff, insertionSort_eq_nil]

end feed

/-! ### Sample pulses -/

def sampleIndexOptions : IndexerStateOptions where
  finalizedBlockNumber := none
  canonicalBlockHashes := []
  chainId := none
  sourceAddresses := some []
  preRejectedLogs := []

section samples

variable [K : Keccak]

/-- The source set of the sample pulses. -/
def sampleSourceSet : List UInt8 :=
  K.digest (utf8 (sourceSetIdDomain ++ "|" ++ intText 8453 ++ "|" ++ ",".intercalate []).toList)

theorem scanSourceSetId_sample {log : RawFlowPulseLogFixture} {logs : List RawFlowPulseLogFixture}
    (h : log.chainId = Relayer.decimalText 8453) :
    scanSourceSetId (log :: logs) sampleIndexOptions = .ok (bytesToHex sampleSourceSet) := by
  have hchain : scanChainId (log :: logs) sampleIndexOptions = Relayer.decimalText 8453 := h
  rw [scanSourceSetId, hchain, deriveSourceSetId, bigInt, stringToBigInt_decimalText]
  rfl

/-- A pulse that is delivered once or more often, removed or not. -/
def sampleDeliveries (removed : List Bool) : List PulseEvent := removed.map (samplePulse 5 0 0)

/-- The logs of the deliveries. -/
def sampleLogs (removed : List Bool) : List RawFlowPulseLogFixture :=
  (sampleDeliveries removed).map PulseEvent.log

variable (hdigest : ∀ bytes, (K.digest bytes).length = 32) (removed : List Bool)

include hdigest

theorem deliveries_sampleLogs :
    deliveries sampleIndexOptions (bytesToHex sampleSourceSet) (sampleLogs removed) =
      removed.map fun r => (samplePulse 5 0 0 r).observation sampleSourceSet := by
  have hlength : sampleSourceSet.length = 32 := hdigest _
  induction removed with
  | nil => rfl
  | cons r removed ih =>
    have hobserve : observe sampleIndexOptions (bytesToHex sampleSourceSet) (samplePulse 5 0 0 r).log =
        .ok ((samplePulse 5 0 0 r).observation sampleSourceSet) := by
      rw [observe, parse_pulseLog hdigest (samplePulse_valid r) hlength]
      cases r <;> rfl
    have hsuccess : ¬ (samplePulse 5 0 0 r).log.receiptStatus ≠ .success := not_not.mpr rfl
    change deliveries _ _ ((samplePulse 5 0 0 r).log :: sampleLogs removed) = _
    rw [deliveries_cons, readLog, if_neg hsuccess, hobserve, ih]
    rfl

/-- Deliveries of one log are hashed alike. -/
theorem injOn_sampleLogs : Set.InjOn K.digest (identityPreimages
    (deliveries sampleIndexOptions (bytesToHex sampleSourceSet) (sampleLogs removed))) := by
  have hall : ∀ bytes ∈ identityPreimages
      (deliveries sampleIndexOptions (bytesToHex sampleSourceSet) (sampleLogs removed)),
      bytes = (samplePulse 5 0 0 false).identity := by
    rw [deliveries_sampleLogs hdigest]
    rintro bytes ⟨o, ho, hbytes⟩
    obtain ⟨r, -, rfl⟩ := List.mem_map.mp ho
    rw [encodeObservationIdentity_pulse hdigest (samplePulse_valid r)] at hbytes
    exact (Except.ok.inj hbytes).symm
  exact fun a ha b hb _ => (hall a ha).trans (hall b hb).symm

end samples

/-- A log that is delivered twice is shown once. -/
theorem canonical_once_sample : letI : Keccak := keccak256
    letI : Collation := codePointOrder
    ∃ state, indexFlowPulseLogs (sampleLogs [false, false]) sampleIndexOptions = .ok state ∧
      CanonicalOnce state.dashboardFeed (deliveries sampleIndexOptions (bytesToHex sampleSourceSet)
        (sampleLogs [false, false])) := by
  let _ : Keccak := keccak256
  let _ : Collation := codePointOrder
  have hsource : scanSourceSetId (sampleLogs [false, false]) sampleIndexOptions =
      .ok (bytesToHex sampleSourceSet) := scanSourceSetId_sample rfl
  obtain ⟨state, hstate, hiff⟩ := canonical_once_iff hsource
    (injOn_sampleLogs keccak256_length [false, false])
  refine ⟨state, hstate, hiff.mpr fun pulseId => ?_⟩
  rw [deliveries_sampleLogs keccak256_length]
  set o := (samplePulse 5 0 0 false).observation sampleSourceSet with ho
  by_cases hpulse : o.pulseId = pulseId
  · have hds : ofPulse pulseId [o, o] = [o, o] := by simp [ofPulse, hpulse]
    have hlive : o.Live := ⟨by rintro ⟨⟩, by rintro ⟨⟩⟩
    have hsame : SameId o [o] := List.forall_mem_singleton.mpr rfl
    have hlast : lastOf [o, o] o.observationId = some o := by simp [lastOf]
    change Settles (ofPulse pulseId [o, o])
    rw [hds, Settles, if_pos ⟨hlive, hsame⟩]
    exact ⟨by simp [extras], o, hlast, hlive⟩
  · have hds : ofPulse pulseId [o, o] = [] := by simp [ofPulse, hpulse]
    change Settles (ofPulse pulseId [o, o])
    rw [hds]
    trivial

/-- A log that is delivered and then removed is still shown. -/
theorem removed_log_stays_canonical : letI : Keccak := keccak256
    letI : Collation := codePointOrder
    ∃ state, indexFlowPulseLogs (sampleLogs [false, true]) sampleIndexOptions = .ok state ∧
      (¬ LivePulse (deliveries sampleIndexOptions (bytesToHex sampleSourceSet)
        (sampleLogs [false, true])) (bytesToHex (List.replicate 32 0x01))) ∧
      (state.dashboardFeed.observations.filter fun entry =>
        entry.pulseId = bytesToHex (List.replicate 32 0x01) ∧ entry.canonical).length = 1 := by
  let _ : Keccak := keccak256
  let _ : Collation := codePointOrder
  have hsource : scanSourceSetId (sampleLogs [false, true]) sampleIndexOptions =
      .ok (bytesToHex sampleSourceSet) := scanSourceSetId_sample rfl
  have hinj := injOn_sampleLogs keccak256_length [false, true]
  have hdeliveries := deliveries_sampleLogs keccak256_length [false, true]
  set o := (samplePulse 5 0 0 false).observation sampleSourceSet with ho
  set o' := (samplePulse 5 0 0 true).observation sampleSourceSet with ho'
  have hds : ofPulse (bytesToHex (List.replicate 32 0x01)) [o, o'] = [o, o'] :=
    List.filter_eq_self.mpr (by simp [ho, ho', PulseEvent.observation, samplePulse])
  refine ⟨_, by rw [indexFlowPulseLogs, hsource]; rfl, ?_, ?_⟩
  · rw [livePulse_iff (coherent_deliveries hinj), hdeliveries]
    change ¬ ∃ d ∈ ofPulse _ [o, o'], LiveId (ofPulse _ [o, o']) d.observationId
    rw [hds]
    have hlast : lastOf [o, o'] o.observationId = some o' := by
      have hid : o'.observationId = o.observationId := rfl
      exact List.find?_cons_of_pos (by simpa using hid)
    rintro ⟨d, hd, d', hd', hlive⟩
    have hid : d.observationId = o.observationId := by
      simp only [List.mem_cons, List.not_mem_nil, or_false] at hd
      rcases hd with rfl | rfl <;> rfl
    rw [hid, hlast] at hd'
    cases hd'
    exact hlive.1 rfl
  · rw [feed_shown hinj, List.length_map, List.length_insertionSort, hdeliveries]
    change ((pulseEntries (ofPulse _ [o, o'])).filter _).length = 1
    have hstates : ∀ d ∈ [o, o'], d.lifecycleState ≠ .superseded := by
      simp [ho, ho', PulseEvent.observation, samplePulse]
    have hshown : o.Live ∧ SameId o [o'] :=
      ⟨⟨by rintro ⟨⟩, by rintro ⟨⟩⟩, List.forall_mem_singleton.mpr rfl⟩
    have hextras : extras o [o'] = [] := List.filter_eq_nil_iff.mpr (by
      simp [ParsedFlowPulseObservation.Live, ho', PulseEvent.observation, samplePulse])
    rw [hds, pulseEntries_canonical hstates, if_pos hshown, hextras]
    rfl

end FlowMemory.Indexer
