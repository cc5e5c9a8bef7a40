import FlowMemory.Lib.LockedUpdate
import FlowMemory.Relayer.Credits

/-! # Credits are applied at most once

Relayer processes share one runtime state file, each works on it under the file lock.
`credits_applied_once` says that the handoffs of the processes that saved their work have an order in
which, for every replay key, the **first** prepared credit is applied and every later one comes out
rejected, with an application that names the first.  Credits that were not prepared stay as they were
made, without an application of theirs that applies anything: a duplicate inside its batch is one. -/

namespace FlowMemory.Relayer

open Crypto LockWorld Function

variable [Keccak] {state : ApplicationState} {credits : List BridgeCredit} {key : String}
  {r : CreditResult}

/-- A credit of the key that is prepared for application. -/
def Prepared (key : String) (r : CreditResult) : Prop :=
  r.made.status = .applied ∧ r.made.replayKey = key

/-- The credit was applied. -/
structure IsApplied (r : CreditResult) : Prop where
  credit : r.credit = r.made
  application : r.application = some (makeRuntimeApplication r.made .applied none none)

/-- The credit was rejected because of the application `previous`. -/
structure IsReplayOf (previous : String) (r : CreditResult) : Prop where
  credit : r.credit = asReplay r.made
  application : r.application = some (makeRuntimeApplication (asReplay r.made) .idempotentReplay
    (some previous) (some "already_applied_replay_key"))

/-- The first prepared credit of the key is applied, and all later ones are replays of it. -/
def FirstApplied (key : String) (results : List CreditResult) : Prop :=
  ∃ earlier first later, results = earlier ++ first :: later ∧
    (∀ r ∈ earlier, ¬ Prepared key r) ∧ Prepared key first ∧ IsApplied first ∧
    ∀ r ∈ later, Prepared key r →
      IsReplayOf (makeRuntimeApplication first.made .applied none none).applicationId r

/-! ### One credit -/

section one

variable {credit : BridgeCredit}

theorem applyCredit_made : (applyCredit state credit).1.made = credit := by
  unfold applyCredit
  split
  · rfl
  · rfl
  · split <;> rfl

/-- A listed key stays listed, and its prepared credits are replays. -/
theorem applyCredit_listed {previous : String} (credit : BridgeCredit)
    (h : state.appliedReplayKeys key = some previous) :
    (applyCredit state credit).2.appliedReplayKeys key = some previous ∧
      (Prepared key (applyCredit state credit).1 →
        IsReplayOf previous (applyCredit state credit).1) := by
  unfold applyCredit
  split
  case h_1 hstatus => exact ⟨h, fun hprepared => by simp [Prepared, hstatus] at hprepared⟩
  case h_2 hstatus => exact ⟨h, fun hprepared => by simp [Prepared, hstatus] at hprepared⟩
  case h_3 hstatus =>
    split
    case h_1 previous' hlisted =>
      refine ⟨h, fun hprepared => ?_⟩
      obtain rfl : credit.replayKey = key := hprepared.2
      rw [h] at hlisted
      cases hlisted
      exact ⟨rfl, rfl⟩
    case h_2 hnone =>
      have hne : key ≠ credit.replayKey := by
        rintro rfl
        rw [h] at hnone
        cases hnone
      exact ⟨(update_of_ne hne _ _).trans h, fun hprepared => absurd hprepared.2.symm hne⟩

/-- A prepared credit of a key that is not listed is applied, and lists the key. -/
theorem applyCredit_unlisted (h : state.appliedReplayKeys key = none)
    (hprepared : Prepared key (applyCredit state credit).1) :
    IsApplied (applyCredit state credit).1 ∧
      (applyCredit state credit).2.appliedReplayKeys key =
        some (makeRuntimeApplication credit .applied none none).applicationId := by
  rw [Prepared, applyCredit_made] at hprepared
  obtain ⟨hstatus, rfl⟩ := hprepared
  simp only [applyCredit, hstatus, h]
  exact ⟨⟨rfl, rfl⟩, update_self ..⟩

/-- A credit that is not a prepared one of the key leaves it. -/
theorem applyCredit_other (hprepared : ¬ Prepared key (applyCredit state credit).1) :
    (applyCredit state credit).2.appliedReplayKeys key = state.appliedReplayKeys key := by
  rw [Prepared, applyCredit_made] at hprepared
  unfold applyCredit
  split
  · rfl
  · rfl
  case h_3 hstatus =>
    split
    · rfl
    · exact update_of_ne (fun heq => hprepared ⟨hstatus, heq.symm⟩) _ _

/-- A credit that is not prepared stays as it was made. -/
theorem applyCredit_unprepared (h : credit.status ≠ .applied) :
    (applyCredit state credit).1.credit = credit ∧
      ∀ a ∈ (applyCredit state credit).1.application, a.status = .rejected ∧ a.applyCount = 0 := by
  unfold applyCredit
  split
  · refine ⟨rfl, fun a ha => ?_⟩
    cases ha
    exact ⟨rfl, rfl⟩
  · exact ⟨rfl, nofun⟩
  · contradiction

theorem applyCredit_unchanged
    (h : ((applyCredit state credit).1.application.any fun a => a.status = .applied) = false) :
    (applyCredit state credit).2 = state := by
  revert h
  unfold applyCredit
  split
  · exact fun _ => rfl
  · exact fun _ => rfl
  · split
    · exact fun _ => rfl
    · exact fun h => by simp [makeRuntimeApplication] at h

end one

/-! ### A batch -/

theorem applyCredits_cons {credit : BridgeCredit} : applyCredits state (credit :: credits) =
    ((applyCredit state credit).1 :: (applyCredits (applyCredit state credit).2 credits).1,
      (applyCredits (applyCredit state credit).2 credits).2) := rfl

theorem mem_applyCredits_cons {credit : BridgeCredit} :
    r ∈ (applyCredits state (credit :: credits)).1 ↔ r = (applyCredit state credit).1 ∨
      r ∈ (applyCredits (applyCredit state credit).2 credits).1 := by
  rw [applyCredits_cons, List.mem_cons]

theorem not_mem_applyCredits_nil : ¬ r ∈ (applyCredits state []).1 := by
  rw [applyCredits]
  exact List.not_mem_nil

theorem applyCredits_made :
    (applyCredits state credits).1.map CreditResult.made = credits := by
  induction credits generalizing state with
  | nil => rfl
  | cons credit credits ih => simp [applyCredits, applyCredit_made, ih]

theorem applyCredits_append {more : List BridgeCredit} :
    applyCredits state (credits ++ more) =
      ((applyCredits state credits).1 ++ (applyCredits (applyCredits state credits).2 more).1,
        (applyCredits (applyCredits state credits).2 more).2) := by
  induction credits generalizing state with
  | nil => rfl
  | cons credit credits ih => simp [applyCredits, ih]

theorem applyCredits_unchanged (h : changed (applyCredits state credits).1 = false) :
    (applyCredits state credits).2 = state := by
  induction credits generalizing state with
  | nil => rfl
  | cons credit credits ih =>
    simp only [applyCredits, changed, List.any_cons, Bool.or_eq_false_iff] at h ⊢
    have hfirst := applyCredit_unchanged h.1
    rw [ih h.2, hfirst]

theorem applyCredits_unprepared :
    ∀ r ∈ (applyCredits state credits).1, r.made.status ≠ .applied →
      r.credit = r.made ∧ ∀ a ∈ r.application, a.status = .rejected ∧ a.applyCount = 0 := by
  induction credits generalizing state with
  | nil => exact fun r hr => absurd hr not_mem_applyCredits_nil
  | cons credit credits ih =>
    intro r hr hstatus
    rcases mem_applyCredits_cons.mp hr with rfl | hrest
    · rw [applyCredit_made] at hstatus ⊢
      exact applyCredit_unprepared hstatus
    · exact ih r hrest hstatus

theorem applyCredits_listed {previous : String} (h : state.appliedReplayKeys key = some previous) :
    ∀ r ∈ (applyCredits state credits).1, Prepared key r → IsReplayOf previous r := by
  induction credits generalizing state with
  | nil => exact fun r hr => absurd hr not_mem_applyCredits_nil
  | cons credit credits ih =>
    intro r hr hprepared
    obtain ⟨hlisted, hreplay⟩ := applyCredit_listed credit h
    rcases mem_applyCredits_cons.mp hr with rfl | hrest
    · exact hreplay hprepared
    · exact ih hlisted r hrest hprepared

theorem applyCredits_firstApplied (h : state.appliedReplayKeys key = none)
    (hprepared : ∃ r ∈ (applyCredits state credits).1, Prepared key r) :
    FirstApplied key (applyCredits state credits).1 := by
  induction credits generalizing state with
  | nil =>
    obtain ⟨r, hr, -⟩ := hprepared
    exact absurd hr not_mem_applyCredits_nil
  | cons credit credits ih =>
    by_cases hfirst : Prepared key (applyCredit state credit).1
    · obtain ⟨happlied, hlisted⟩ := applyCredit_unlisted h hfirst
      rw [applyCredits_cons]
      refine ⟨[], _, _, rfl, fun r hr => absurd hr List.not_mem_nil, hfirst, happlied, ?_⟩
      rw [applyCredit_made]
      exact applyCredits_listed hlisted
    · obtain ⟨r, hr, hkey⟩ := hprepared
      have hrest : r ∈ (applyCredits (applyCredit state credit).2 credits).1 := by
        rcases mem_applyCredits_cons.mp hr with rfl | hrest
        · exact absurd hkey hfirst
        · exact hrest
      obtain ⟨earlier, first, later, hsplit, hearlier, hfirst', happlied, hlater⟩ :=
        ih ((applyCredit_other hfirst).trans h) ⟨r, hrest, hkey⟩
      rw [applyCredits_cons]
      refine ⟨_ :: earlier, first, later, congrArg ((applyCredit state credit).1 :: ·) hsplit, ?_,
        hfirst', happlied, hlater⟩
      rintro r' hr'
      rcases List.mem_cons.mp hr' with rfl | hmem
      · exact hfirst
      · exact hearlier r' hmem

/-! ### The keys of a batch -/

section keys

variable {options : CliOptions} {apply : Bool} {observations : List BridgeObservation}
  {seen : List String} {o : BridgeObservation}

theorem makeCreditsFrom_cons
    (h : makeCreditsFrom options apply (o :: observations) seen = some credits) :
    ∃ first rest, credits = first :: rest ∧
      makeBridgeCredit o (creditStatus options apply o seen).1
        (creditStatus options apply o seen).2.1 = some first ∧
      makeCreditsFrom options apply observations (creditStatus options apply o seen).2.2 =
        some rest := by
  simp only [makeCreditsFrom, Option.bind_eq_bind, Option.bind_eq_some_iff, Option.pure_def,
    Option.some.injEq] at h
  obtain ⟨first, hfirst, rest, hrest, rfl⟩ := h
  exact ⟨first, rest, rfl, hfirst, hrest⟩

omit [Keccak] in
theorem creditStatus_kept (h : (creditStatus options apply o seen).1 ≠ .rejected) :
    pilotDepositRejectionReason o.deposit options = none ∧ o.replayKey ∉ seen ∧
      ((creditStatus options apply o seen).1 = .applied → apply = true) ∧
      (creditStatus options apply o seen).2.2 = o.replayKey :: seen := by
  unfold creditStatus at h ⊢
  cases hreason : pilotDepositRejectionReason o.deposit options with
  | some reason => simp [hreason] at h
  | none =>
    simp only [hreason] at h ⊢
    split_ifs at h ⊢ with hseen
    all_goals simp_all

omit [Keccak] in
theorem subset_creditStatus : seen ⊆ (creditStatus options apply o seen).2.2 := by
  unfold creditStatus
  split
  · exact List.Subset.refl seen
  · split_ifs
    · exact List.Subset.refl seen
    all_goals exact List.subset_cons_self _ seen

/-- The credits of a batch that are not rejected are for different events that pass the policy. -/
theorem makeCreditsFrom_kept (h : makeCreditsFrom options apply observations seen = some credits) :
    (∀ c ∈ credits, c.status ≠ .rejected → c.replayKey ∉ seen ∧
      (c.status = .applied → apply = true) ∧ ∃ o ∈ observations,
        o.replayKey = c.replayKey ∧ pilotDepositRejectionReason o.deposit options = none) ∧
    credits.Pairwise fun c c' => c.status ≠ .rejected → c'.status ≠ .rejected →
      c.replayKey ≠ c'.replayKey := by
  induction observations generalizing seen credits with
  | nil =>
    cases h
    exact ⟨fun c hc => absurd hc List.not_mem_nil, .nil⟩
  | cons o observations ih =>
    obtain ⟨first, rest, rfl, hfirst, hrest⟩ := makeCreditsFrom_cons h
    obtain ⟨hkeys, hdistinct⟩ := ih hrest
    simp only [makeBridgeCredit, Option.bind_eq_bind, Option.bind_eq_some_iff, Option.pure_def,
      Option.some.injEq] at hfirst
    obtain ⟨creditId, -, rfl⟩ := hfirst
    refine ⟨List.forall_mem_cons.mpr ⟨fun hstatus => ?_, fun c hc hstatus => ?_⟩,
      List.pairwise_cons.mpr ⟨fun c hc hstatus hstatus' => ?_, hdistinct⟩⟩
    · obtain ⟨hreason, hseen, happly, -⟩ := creditStatus_kept hstatus
      exact ⟨hseen, happly, o, List.mem_cons_self, rfl, hreason⟩
    · obtain ⟨hseen, happly, o', ho', hkey⟩ := hkeys c hc hstatus
      exact ⟨fun hmem => hseen (subset_creditStatus hmem), happly, o', List.mem_cons_of_mem _ ho', hkey⟩
    · have hseen := (hkeys c hc hstatus').1
      rw [(creditStatus_kept hstatus).2.2.2, List.mem_cons, not_or] at hseen
      exact fun heq => hseen.1 heq.symm

end keys

/-! ### All processes -/

section processes

variable {ι : Type} {batch : ι → List BridgeCredit} {file : Option ApplicationState}
  {order : List ι}

/-- The state after the work on the file is the state after the credits. -/
theorem loadApplicationState_applied :
    loadApplicationState (applyCreditsExactlyOnce credits file).2 =
      (applyCredits (loadApplicationState file) credits).2 := by
  unfold applyCreditsExactlyOnce
  by_cases hchanged : changed (applyCredits (loadApplicationState file) credits).1 = true
  · simp only [hchanged, if_true]
    rfl
  · simp only [hchanged, Bool.false_eq_true, if_false]
    exact (applyCredits_unchanged (Bool.eq_false_of_not_eq_true hchanged)).symm

/-- One process after the other is one batch. -/
theorem serial_eq_applyCredits :
    (serial (fun p => applyCreditsExactlyOnce (batch p)) order file).1.flatMap Prod.snd =
      (applyCredits (loadApplicationState file) (order.flatMap batch)).1 := by
  induction order generalizing file with
  | nil => rfl
  | cons p order ih =>
    rw [serial, List.flatMap_cons, List.flatMap_cons, applyCredits_append, ih,
      loadApplicationState_applied]
    rfl

theorem serial_made :
    ∀ h ∈ (serial (fun p => applyCreditsExactlyOnce (batch p)) order file).1,
      h.2.map CreditResult.made = batch h.1 := by
  induction order generalizing file with
  | nil => nofun
  | cons p order ih =>
    intro h hmem
    rcases List.mem_cons.mp hmem with rfl | hrest
    · exact applyCredits_made
    · exact ih h hrest

/-- In every interleaving the handoffs of the processes that saved can be ordered such that for every
key the first prepared credit is applied and the later ones are replays of it.  In a batch that was
made from observations, a later credit of an event comes out rejected unless the earlier was. -/
theorem credits_applied_once [DecidableEq ι]
    {w : LockWorld ι (Option ApplicationState) (List CreditResult)}
    (hreach : Relation.ReflTransGen (Step fun p => applyCreditsExactlyOnce (batch p))
      (start none) w) :
    ∃ handoffs : List (ι × List CreditResult), (handoffs.map Prod.fst).Nodup ∧
      (∀ p results, (w.phase p).result = some results ↔ (p, results) ∈ handoffs) ∧
      (∀ h ∈ handoffs, h.2.map CreditResult.made = batch h.1) ∧
      (∀ key, (∃ h ∈ handoffs, ∃ r ∈ h.2, Prepared key r) →
        FirstApplied key (handoffs.flatMap Prod.snd)) ∧
      (∀ h ∈ handoffs, ∀ r ∈ h.2, r.made.status ≠ .applied →
        r.credit = r.made ∧ ∀ a ∈ r.application, a.status = .rejected ∧ a.applyCount = 0) ∧
      ∀ h ∈ handoffs, ∀ observations apply options,
        makeCredits observations apply options = some (batch h.1) →
        h.2.Pairwise fun r r' => r.made.replayKey = r'.made.replayKey →
          r.made.status ≠ .rejected → r'.credit.status = .rejected := by
  obtain ⟨order, horder⟩ := exists_serial hreach
  have hunprepared : ∀ h ∈ (serial (fun p => applyCreditsExactlyOnce (batch p)) order none).1,
      ∀ r ∈ h.2, r.made.status ≠ .applied →
        r.credit = r.made ∧ ∀ a ∈ r.application, a.status = .rejected ∧ a.applyCount = 0 := by
    intro h hh r hr
    have hmem := List.mem_flatMap.mpr ⟨h, hh, hr⟩
    rw [serial_eq_applyCredits] at hmem
    exact applyCredits_unprepared r hmem
  refine ⟨(serial (fun p => applyCreditsExactlyOnce (batch p)) order none).1, ?_, horder.result,
    serial_made, fun key hkey => ?_, hunprepared, fun h hh observations apply options hmake => ?_⟩
  · rw [serial_map_fst]
    exact horder.nodup
  · obtain ⟨h, hh, r, hr, hprepared⟩ := hkey
    have hmem := List.mem_flatMap.mpr ⟨h, hh, hr⟩
    rw [serial_eq_applyCredits] at hmem ⊢
    exact applyCredits_firstApplied rfl ⟨r, hmem, hprepared⟩
  · have hkept := (makeCreditsFrom_kept hmake).2
    rw [← serial_made h hh, List.pairwise_map] at hkept
    refine hkept.imp_of_mem fun {r r'} _ hr' hne hkey hr => ?_
    have hrejected : r'.made.status = .rejected := by
      by_contra hstatus
      exact hne hr hstatus hkey
    rw [(hunprepared h hh r' hr' (by simp [hrejected])).1, hrejected]

end processes

/-! ### Two processes, and two deposits in one batch -/

/-- A prepared credit. -/
def sampleCredit : BridgeCredit where
  creditId := bytesToHex (abiUintWord 1)
  observationId := bytesToHex (abiUintWord 2)
  depositId := bytesToHex (abiUintWord 3)
  replayKey := bytesToHex (abiUintWord 4)
  source := ⟨baseMainnetChainId, (sampleDeposit "10" 0).sourceContract,
    (sampleDeposit "10" 0).txHash, 0⟩
  token := (sampleDeposit "10" 0).token
  asset := ⟨baseMainnetChainId, (sampleDeposit "10" 0).token, bytesToHex (abiUintWord 8), 18⟩
  amount := "10"
  flowmemoryRecipient := (sampleDeposit "10" 0).flowmemoryRecipient
  status := .applied
  pendingReason := none
  appliedAt := some fixedTestObservedAt
  rejectionReason := none
  localOnly := false
  productionReady := true

omit [Keccak] in
/-- Two processes with the same credit take the lock one after the other. -/
theorem credits_applied_once_sample :
    letI : Keccak := keccak256
    ∃ w : LockWorld Bool (Option ApplicationState) (List CreditResult),
      Relation.ReflTransGen (Step fun _ => applyCreditsExactlyOnce [sampleCredit]) (start none) w ∧
      (∀ p, (w.phase p).result.isSome = true) ∧
      ∃ handoffs : List (Bool × List CreditResult),
        (∀ p results, (w.phase p).result = some results ↔ (p, results) ∈ handoffs) ∧
        FirstApplied (bytesToHex (abiUintWord 4)) (handoffs.flatMap Prod.snd) := by
  generalize keccak256 = keccak
  have hrun : ∀ (w : LockWorld Bool (Option ApplicationState) (List CreditResult)) (p : Bool),
      w.phase p = .waiting → w.lock = none →
      ∃ w', Relation.ReflTransGen (Step fun _ => applyCreditsExactlyOnce [sampleCredit]) w w' ∧
        w'.lock = none ∧ (w'.phase p).result.isSome = true ∧ w'.phase (!p) = w.phase (!p) := by
    intro w p hp hlock
    refine ⟨_, ((((Relation.ReflTransGen.refl).tail (.acquire hp hlock)).tail
      (.load (update_self ..))).tail (.save (update_self ..))).tail
      (.release (update_self ..)), rfl, ?_, ?_⟩
    · simp [LockPhase.result]
    · simp
  obtain ⟨w₁, hreach₁, hlock₁, hdone₁, hother₁⟩ := hrun (start none) false rfl rfl
  obtain ⟨w₂, hreach₂, hlock₂, hdone₂, hother₂⟩ := hrun w₁ true hother₁ hlock₁
  have hreach := hreach₁.trans hreach₂
  obtain ⟨handoffs, -, hresults, hmade, hkeys, -⟩ := credits_applied_once hreach
  have hall : ∀ p, (w₂.phase p).result.isSome = true := by
    intro p
    cases p with
    | false =>
      have hsame : w₂.phase false = w₁.phase false := hother₂
      rw [hsame]
      exact hdone₁
    | true => exact hdone₂
  refine ⟨w₂, hreach, hall, handoffs, hresults, hkeys _ ?_⟩
  obtain ⟨results, hresult⟩ := Option.isSome_iff_exists.mp (hall true)
  have hmem := (hresults true results).mp hresult
  have hmade' := hmade _ hmem
  obtain ⟨r, hr, hcredit⟩ : ∃ r ∈ results, r.made = sampleCredit := by
    have hsample : sampleCredit ∈ results.map CreditResult.made := by
      rw [hmade']
      exact List.mem_singleton.mpr rfl
    simpa using hsample
  exact ⟨_, hmem, r, hr, by rw [Prepared, hcredit]; exact ⟨rfl, rfl⟩⟩

/-- The results of a run with two copies of one observation in its batch. -/
def sampleDuplicates : Option (List CreditResult) :=
  let _ : Keccak := keccak256
  do
    let observation ← makeObservation (sampleDeposit "10" 0) sampleOptions.mode
      ⟨some 100, some sampleOptions.supportedTokens, some 18, some true⟩
    let batch ← makeCredits [observation, observation] true sampleOptions
    pure (applyCreditsExactlyOnce batch none).1

/-- What the comparison of the results looks at. -/
def CreditResult.summary (r : CreditResult) :
    CreditStatus × Option (ApplicationStatus × Option String) :=
  (r.credit.status, r.application.map fun a => (a.status, a.previousApplicationId))

omit [Keccak] in
/-- The second credit of an event in one batch is rejected with an application that is no replay and
names no earlier one. -/
theorem duplicate_in_batch_is_no_replay :
    sampleDuplicates.map (·.map CreditResult.summary) =
      some [(.applied, some (.applied, none)), (.rejected, some (.rejected, none))] := by
  decide +kernel

end FlowMemory.Relayer
