import FlowMemory.LocalRuntime.Atomicity

/-! # Finality of work receipts

Challenges, their resolutions and finality receipts are written by three transactions over two
maps that are linked by scans for the identifier of a work receipt.  `WorkStep` says what any
transaction, accepted or rejected, does to the two maps, and **`finalized_receipt_frozen`**
follows for every interleaving: a work receipt is finalized at most once, and from then on no
challenge to it is opened, reopened or resolved again.

Reports may still arrive after the decision; the tests on them hold in the state in which the
finality receipt is inserted. -/

namespace FlowMemory

open Txn OrderedMap

variable {s s' t : ChainState} {id receiptId : String} {w : Unit}
  {f : FinalityReceipt} {c : Challenge}

/-! ### What the scans find -/

theorem isFinalized_iff : isFinalized s receiptId = true ↔
    ∃ (id : String) (f : FinalityReceipt), s.finalityReceipts[id]? = some f ∧
      f.receiptId = receiptId := by
  rw [isFinalized, any_vals]
  simp only [decide_eq_true_eq]

theorem hasOpenChallenge_iff : hasOpenChallenge s receiptId = true ↔
    ∃ (id : String) (c : Challenge), s.challenges[id]? = some c ∧ c.receiptId = receiptId ∧
      c.status = "open" := by
  rw [hasOpenChallenge, any_vals]
  simp only [Bool.and_eq_true, decide_eq_true_eq]

/-! ### One transaction -/

/-- What a transaction does to challenges and finality receipts. -/
inductive WorkStep (s s' : ChainState) : Prop
  | none (hc : s'.challenges = s.challenges) (hf : s'.finalityReceipts = s.finalityReceipts)
  | opened {id : String} {c : Challenge} (hnew : s.challenges[id]? = Option.none)
      (hopen : c.status = "open") (hlive : ¬ isFinalized s c.receiptId)
      (hc : s'.challenges = s.challenges.insert id c)
      (hf : s'.finalityReceipts = s.finalityReceipts)
  | resolved {id : String} {c c' : Challenge} (hold : s.challenges[id]? = some c)
      (hopen : c.status = "open") (hid : c'.receiptId = c.receiptId)
      (hstatus : c'.status = "resolved") (hc : s'.challenges = s.challenges.insert id c')
      (hf : s'.finalityReceipts = s.finalityReceipts)
  | finalized {id : String} {f : FinalityReceipt} (hnew : s.finalityReceipts[id]? = Option.none)
      (hclosed : ¬ hasOpenChallenge s f.receiptId) (hlive : ¬ isFinalized s f.receiptId)
      (hcount : f.challengeCount = challengeCount s f.receiptId)
      (haccepted : hasReport s f.receiptId isAcceptedStatus)
      (hfailed : ¬ hasReport s f.receiptId isFailedStatus) (hc : s'.challenges = s.challenges)
      (hf : s'.finalityReceipts = s.finalityReceipts.insert id f)

theorem openChallenge_step {tx : OpenChallenge}
    (h : openChallenge tx s = (.ok w, s')) : WorkStep s s' := by
  rw [openChallenge, get_bind, rejectIf_bind_ok, rejectIf_bind_ok, rejectIf_bind_ok,
    modify_ok] at h
  obtain ⟨hnew, -, hlive, rfl⟩ := h
  exact .opened (contains_eq_false.mp hnew) rfl hlive rfl rfl

theorem resolveChallenge_step {tx : ResolveChallenge}
    (h : resolveChallenge tx s = (.ok w, s')) : WorkStep s s' := by
  rw [resolveChallenge, get_bind, okOr_bind_ok] at h
  obtain ⟨c, hold, h⟩ := h
  rw [rejectIf_bind_ok, modify_ok] at h
  obtain ⟨hopen, rfl⟩ := h
  refine .resolved hold (not_not.mp hopen) ?_ ?_ rfl rfl
  · rfl
  · rfl

/-! ### The invariant -/

/-- Challenges and finality receipts fit together. -/
structure FinalityBooks (s : ChainState) : Prop where
  status : ∀ (id : String) (c : Challenge), s.challenges[id]? = some c →
    c.status = "open" ∨ c.status = "resolved"
  unique : ∀ (id id' : String) (f f' : FinalityReceipt), s.finalityReceipts[id]? = some f →
    s.finalityReceipts[id']? = some f' → f'.receiptId = f.receiptId → id' = id
  closed : ∀ (id : String) (f : FinalityReceipt), s.finalityReceipts[id]? = some f →
    ¬ hasOpenChallenge s f.receiptId ∧ f.challengeCount = challengeCount s f.receiptId

/-- The challenges to a work receipt are the same in both states. -/
def SameChallenges (receiptId : String) (s s' : ChainState) : Prop :=
  ∀ (key : String) (c : Challenge), c.receiptId = receiptId →
    (s'.challenges[key]? = some c ↔ s.challenges[key]? = some c)

theorem SameChallenges.scans (h : SameChallenges receiptId s s') :
    hasOpenChallenge s' receiptId = hasOpenChallenge s receiptId ∧
      challengeCount s' receiptId = challengeCount s receiptId := by
  constructor
  · rw [Bool.eq_iff_iff, hasOpenChallenge_iff, hasOpenChallenge_iff]
    exact exists_congr fun key => exists_congr fun c => and_congr_left fun hc => h key c hc.1
  · exact countVals_congr fun key c hc => h key c (of_decide_eq_true hc)

/-- Writing a challenge to another receipt leaves those to this one. -/
theorem SameChallenges.insert (hc : s'.challenges = s.challenges.insert id c)
    (hne : c.receiptId ≠ receiptId)
    (hold : ∀ c₀, s.challenges[id]? = some c₀ → c₀.receiptId ≠ receiptId) :
    SameChallenges receiptId s s' := by
  intro key d hd
  rw [hc, getElem?_insert]
  split_ifs with hkey
  · subst hkey
    refine iff_of_false (fun h => ?_) fun h => hold d h hd
    obtain rfl := Option.some.inj h
    exact hne hd
  · exact Iff.rfl

/-- An open challenge is not one to a finalized receipt. -/
theorem FinalityBooks.not_finalized_of_open (hb : FinalityBooks s)
    (hc : s.challenges[id]? = some c) (hopen : c.status = "open") :
    ¬ isFinalized s c.receiptId := by
  rw [isFinalized_iff]
  rintro ⟨key, f, hf, hid⟩
  exact (hb.closed key f hf).1 (hasOpenChallenge_iff.mpr ⟨id, c, hc, hid.symm, hopen⟩)

/-- A challenge to a finalized receipt is resolved. -/
theorem FinalityBooks.resolved (hb : FinalityBooks s) {key : String}
    (hf : s.finalityReceipts[id]? = some f) (hc : s.challenges[key]? = some c)
    (hid : c.receiptId = f.receiptId) : c.status = "resolved" :=
  (hb.status key c hc).resolve_left fun hopen =>
    hb.not_finalized_of_open hc hopen (isFinalized_iff.mpr ⟨id, f, hf, hid.symm⟩)

/-- The finality receipt and the challenges to its work receipt are as in `s`. -/
def Frozen (s : ChainState) (id : String) (f : FinalityReceipt) (t : ChainState) : Prop :=
  t.finalityReceipts[id]? = some f ∧ SameChallenges f.receiptId s t

/-- No transaction touches a challenge to a finalized receipt, or its finality receipt. -/
theorem FinalityBooks.frozen_step (hb : FinalityBooks s) (h : WorkStep s s')
    (hf : s.finalityReceipts[id]? = some f) : Frozen s id f s' := by
  have hlive : isFinalized s f.receiptId = true := isFinalized_iff.mpr ⟨id, f, hf, rfl⟩
  cases h with
  | none hc hf' => exact ⟨by rw [hf', hf], fun key c _ => by rw [hc]⟩
  | @opened cid c hnew hopen hnot hc hf' =>
    have hne : c.receiptId ≠ f.receiptId := fun hid => hnot (hid ▸ hlive)
    refine ⟨by rw [hf', hf], .insert hc hne fun c₀ hc₀ => ?_⟩
    rw [hnew] at hc₀
    cases hc₀
  | @resolved cid c c' hold hopen hid hstatus hc hf' =>
    have hne : c.receiptId ≠ f.receiptId := fun h =>
      hb.not_finalized_of_open hold hopen (h ▸ hlive)
    refine ⟨by rw [hf', hf], .insert hc (by rwa [hid]) fun c₀ hc₀ => ?_⟩
    rwa [Option.some.inj (hc₀.symm.trans hold)]
  | @finalized fid g hnew hclosed hnot hcount haccepted hfailed hc hf' =>
    refine ⟨?_, fun key c _ => by rw [hc]⟩
    rw [hf', insert_getElem?_of_ne, hf]
    rintro rfl
    rw [hnew] at hf
    cases hf

theorem FinalityBooks.step (hb : FinalityBooks s) (h : WorkStep s s') : FinalityBooks s' := by
  have hclosed (key : String) (g : FinalityReceipt) (hg : s.finalityReceipts[key]? = some g) :
      ¬ hasOpenChallenge s' g.receiptId ∧ g.challengeCount = challengeCount s' g.receiptId := by
    obtain ⟨hopen, hcount⟩ := (hb.frozen_step h hg).2.scans
    rw [hopen, hcount]
    exact hb.closed key g hg
  cases h with
  | none hc hf =>
    exact ⟨by rw [hc]; exact hb.status, by rw [hf]; exact hb.unique, by rwa [hf]⟩
  | opened hnew hopen hlive hc hf =>
    refine ⟨?_, by rw [hf]; exact hb.unique, by rwa [hf]⟩
    rw [hc]
    exact forall_insert hb.status (.inl hopen)
  | resolved hold hopen hid hstatus hc hf =>
    refine ⟨?_, by rw [hf]; exact hb.unique, by rwa [hf]⟩
    rw [hc]
    exact forall_insert hb.status (.inr hstatus)
  | @finalized id f hnew hnone hlive hcount haccepted hfailed hc hf =>
    have hother (key : String) (g : FinalityReceipt) (hg : s.finalityReceipts[key]? = some g) :
        g.receiptId ≠ f.receiptId := fun hid => hlive (isFinalized_iff.mpr ⟨key, g, hg, hid⟩)
    refine ⟨by rw [hc]; exact hb.status, fun i j g g' hg hg' hid => ?_, ?_⟩
    · rw [hf, getElem?_insert] at hg hg'
      split_ifs at hg hg' with hi hj hj
      · exact hj.symm.trans hi
      · obtain rfl := Option.some.inj hg
        exact absurd hid (hother j g' hg')
      · obtain rfl := Option.some.inj hg'
        exact absurd hid.symm (hother i g hg)
      · exact hb.unique i j g g' hg hg' hid
    · have hsame : SameChallenges f.receiptId s s' := fun key c _ => by rw [hc]
      rw [hf]
      refine forall_insert hclosed ?_
      rw [hsame.scans.1, hsame.scans.2]
      exact ⟨hnone, hcount⟩

/-! ### Runs -/

variable [K : Keccak]

theorem finalizeWorkReceipt_step {tx : FinalizeWorkReceipt}
    (h : finalizeWorkReceipt tx s = (.ok w, s')) : WorkStep s s' := by
  rw [finalizeWorkReceipt, get_bind, rejectIf_bind_ok, rejectIf_bind_ok, ofExcept_bind_ok] at h
  obtain ⟨-, hnew, receipt, hreceipt, h⟩ := h
  rw [rejectIf_bind_ok, rejectIf_bind_ok, modify_ok] at h
  obtain ⟨hclosed, hlive, rfl⟩ := h
  obtain ⟨-, hfailed, haccepted⟩ := ensureReceiptAcceptedForAnyRootfield_ok.mp hreceipt
  exact .finalized (contains_eq_false.mp hnew) hclosed hlive rfl haccepted hfailed
    rfl rfl

/-- Every transaction takes one of these steps, whether it is accepted or not. -/
theorem work_step (tx : Transaction) (s : ChainState) :
    WorkStep s (applyTransaction tx s).2 := by
  rcases hrun : applyTransaction tx s with ⟨r, s'⟩
  cases tx
  case openChallenge | resolveChallenge | finalizeWorkReceipt =>
    cases r with
    | error e =>
      obtain rfl := applyTransaction_atomic _ trivial _ _ _ hrun
      exact .none rfl rfl
    | ok w => first
      | exact openChallenge_step hrun
      | exact resolveChallenge_step hrun
      | exact finalizeWorkReceipt_step hrun
  all_goals
    exact .none (applyTransaction_frame (f := .challenges) hrun (by simp [footprint]))
      (applyTransaction_frame (f := .finalityReceipts) hrun (by simp [footprint]))

theorem finalityBooks_genesis : FinalityBooks genesisState := by
  constructor <;> simp [genesisState]

theorem Reachable.finalityBooks (h : Reachable s) : FinalityBooks s :=
  Run.invariant h (fun tx s _ hs => hs.step (work_step tx s))
    (fun _ _ _ _ _ _ hs => hs.step (.none rfl rfl)) finalityBooks_genesis

/-! ### After the decision -/

theorem FinalityBooks.frozen_run (hb : FinalityBooks s) (hrun : Run (fun _ _ => True) s t)
    (hf : s.finalityReceipts[id]? = some f) : FinalityBooks t ∧ Frozen s id f t := by
  refine Run.invariant (P := fun t => FinalityBooks t ∧ Frozen s id f t) hrun
    (fun tx u _ hu => ?_) ?_ ⟨hb, hf, fun _ _ _ => Iff.rfl⟩
  · obtain ⟨hbu, hfu, hcu⟩ := hu
    obtain ⟨hf', hc'⟩ := hbu.frozen_step (work_step tx u) hfu
    exact ⟨hbu.step (work_step tx u), hf', fun key c hid => (hc' key c hid).trans (hcu key c hid)⟩
  · exact fun _ _ _ _ _ _ hu => ⟨hu.1.step (.none rfl rfl), hu.2⟩

/-! ### The decision -/

/-- The transaction inserts the finality receipt. -/
def Inserts (tx : Transaction) (s : ChainState) (id : String) (f : FinalityReceipt) : Prop :=
  s.finalityReceipts[id]? = none ∧ (applyTransaction tx s).2.finalityReceipts[id]? = some f

/-- A receipt is finalized on an accepted report and no failed one. -/
theorem Inserts.reports {tx : Transaction} (h : Inserts tx s id f) :
    hasReport s f.receiptId isAcceptedStatus ∧ ¬ hasReport s f.receiptId isFailedStatus := by
  obtain ⟨hnone, hsome⟩ := h
  cases work_step tx s with
  | none hc hf | opened hnew hopen hnot hc hf | resolved hold hopen hid hstatus hc hf =>
    rw [hf, hnone] at hsome
    cases hsome
  | finalized hnew hclosed hnot hcount haccepted hfailed hc hf =>
    rw [hf, getElem?_insert] at hsome
    split_ifs at hsome with hid
    · obtain rfl := Option.some.inj hsome
      exact ⟨haccepted, hfailed⟩
    · rw [hnone] at hsome
      cases hsome

/-- Every finality receipt was inserted by a transaction of the run. -/
theorem Reachable.inserted (h : Reachable s) (hf : s.finalityReceipts[id]? = some f) :
    ∃ u tx, Reachable u ∧ Inserts tx u id f ∧
      Run (fun _ _ => True) (applyTransaction tx u).2 s := by
  induction h with
  | refl => simp [genesisState] at hf
  | @tail u t hrun hstep ih =>
    cases hu : u.finalityReceipts[id]? with
    | some g =>
      have hbu : FinalityBooks u := Reachable.finalityBooks hrun
      obtain rfl : f = g :=
        Option.some.inj (hf.symm.trans (hbu.frozen_run (.single hstep) hu).2.1)
      obtain ⟨v, tx, hv, hins, hrest⟩ := ih hu
      exact ⟨v, tx, hv, hins, .tail hrest hstep⟩
    | none =>
      cases hstep with
      | @transaction tx _ _ => exact ⟨u, tx, hrun, ⟨hu, hf⟩, .refl⟩
      | queue | takeQueue | pushBlock => cases hu.symm.trans hf

/-- **Finality**: in every reachable state a finalized work receipt has one finality receipt and
no open challenge; in every later state that finality receipt still counts the challenges to it,
which are resolved and unchanged; and it was inserted on an accepted report and no failed one. -/
theorem finalized_receipt_frozen (h : Reachable s) {id : String} {f : FinalityReceipt}
    (hf : s.finalityReceipts[id]? = some f) :
    (∀ (id' : String) (f' : FinalityReceipt), s.finalityReceipts[id']? = some f' →
      f'.receiptId = f.receiptId → id' = id ∧ f' = f) ∧
    ¬ hasOpenChallenge s f.receiptId ∧
    (∀ t, Run (fun _ _ => True) s t →
      t.finalityReceipts[id]? = some f ∧ f.challengeCount = challengeCount t f.receiptId ∧
        ∀ (key : String) (c : Challenge), s.challenges[key]? = some c →
          c.receiptId = f.receiptId → c.status = "resolved" ∧ t.challenges[key]? = some c) ∧
    (∃ u tx, Reachable u ∧ Inserts tx u id f ∧
      Run (fun _ _ => True) (applyTransaction tx u).2 s) ∧
    ∀ u tx, Inserts tx u id f →
      hasReport u f.receiptId isAcceptedStatus ∧ ¬ hasReport u f.receiptId isFailedStatus := by
  have hb := h.finalityBooks
  refine ⟨fun id' f' hf' hid => ?_, (hb.closed id f hf).1, fun t hrun => ?_, h.inserted hf,
    fun u tx hins => hins.reports⟩
  · obtain rfl := hb.unique id id' f f' hf hf' hid
    exact ⟨rfl, Option.some.inj (hf'.symm.trans hf)⟩
  · obtain ⟨hbt, hft, hct⟩ := hb.frozen_run hrun hf
    refine ⟨hft, (hbt.closed id f hft).2, fun key c hc hid => ⟨hb.resolved hf hc hid, ?_⟩⟩
    exact (hct key c hid).mpr hc

omit K

/-- A work receipt is reported on, challenged, cleared and finalized. -/
def finalityHistory : List Transaction :=
  [.registerRootfield
      { rootfieldId := "r", owner := "o", schemaHash := "", metadataHash := "" },
    .registerVerifierModule
      { verifierId := "v", operator := "o", moduleHash := "", ruleSet := "", metadataHash := "" },
    .submitArtifactCommitment
      { artifactId := "a", rootfieldId := "r", commitment := "c", uriHint := none },
    .submitWorkReceipt
      { receiptId := "w", rootfieldId := "r", workerId := "o", inputRoot := "", outputRoot := "",
        artifactCommitment := "c", ruleSet := "" },
    .submitVerifierReport
      { reportId := "p", rootfieldId := "r", receiptId := "w", verifierId := "v",
        reportDigest := "", status := "accepted", reasonCodes := [] },
    .openChallenge
      { challengeId := "q", receiptId := "w", challenger := "o", evidenceHash := "",
        reasonCode := "" },
    .resolveChallenge { challengeId := "q", resolver := "o", resolution := "dismissed" },
    .finalizeWorkReceipt
      { finalityReceiptId := "f", receiptId := "w", finalizedBy := "o",
        finalityStatus := "finalized" }]

/-- The finality receipt of the history, with one challenge. -/
theorem finalized_receipt_frozen_history :
    letI : Keccak := keccak256
    let s := (applyEnvelopes (finalityHistory.map envelopeTx) genesisState).2
    ∃ f, s.finalityReceipts["f"]? = some f ∧ f.receiptId = "w" ∧ f.challengeCount = 1 ∧
      ¬ hasOpenChallenge s f.receiptId ∧
      ∀ t, Run (fun _ _ => True) s t → f.challengeCount = challengeCount t f.receiptId := by
  let _ : Keccak := keccak256
  intro s
  have hs : (s.finalityReceipts["f"]?.map fun f => (f.receiptId, f.challengeCount)) =
      some ("w", 1) := by decide +kernel
  obtain ⟨f, hf, hfields⟩ := Option.map_eq_some_iff.mp hs
  rw [Prod.mk.injEq] at hfields
  obtain ⟨-, hopen, hrun, -⟩ :=
    finalized_receipt_frozen (run_applyEnvelopes _ (admits_true _ _)) hf
  exact ⟨f, hf, hfields.1, hfields.2, hopen, fun t ht => (hrun t ht).2.1⟩

end FlowMemory
