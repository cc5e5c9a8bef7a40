import FlowMemory.Relayer.BatchCredits

/-! # The records of a handoff

A run puts out its credits with flags that say whether they are **ready** for production, and beside
them evidence of their applications, withdrawal intents and release evidence.  The flags are made with
the credit, before the runtime state file may reject it as a replay: `ready_flags_iff` says when they
are right.  The evidence finds its application by position, in a list without the pending credits, and
an intent finds its deposit by the deposit id: `records_belong_iff` says when they are the right
ones. -/

namespace FlowMemory.Relayer

open Crypto Check Json

variable [Keccak]

/-! ### The results of a run -/

/-- The runtime state that a run starts from. -/
def storedState (run : Run) (w : World) : ApplicationState :=
  loadApplicationState (if run.options.runtimeStatePath.isSome then w.runtime else none)

variable {run : Run} {deposits : List BridgeDeposit} {w w' : World} {handoff : BridgeRuntimeHandoff}
  {options : CliOptions} {apply : Bool} {observations : List BridgeObservation} {seen : List String}
  {credits : List BridgeCredit} {state : ApplicationState} {mode : BridgeMode}
  {baseRecipient : Option String}

theorem creditStage_ok (h : creditStage run deposits w = (.ok handoff, w')) :
    ∃ observations credits, makeObservations run.options deposits = some observations ∧
      makeCredits observations run.options.applyCredit run.options = some credits ∧
      handoff = makeRuntimeHandoff run.options.mode observations
        (applyCredits (storedState run w) credits).1 := by
  simp only [creditStage, Run.stopAt, Txn.rejectIf_bind_ok, Txn.ofExcept_bind_ok, Txn.okOr_bind_ok,
    applyToRuntimeState] at h
  obtain ⟨-, -, -, -, observations, hobservations, credits, hcredits, h⟩ := h
  refine ⟨observations, credits, hobservations, hcredits, ?_⟩
  obtain ⟨results, w₁, hresults, h⟩ := Txn.bind_ok.mp h
  obtain ⟨-, h⟩ := Txn.rejectIf_bind_ok.mp h
  rw [Txn.modify_bind, Txn.pure_ok] at h
  rw [h.1]
  rw [Txn.get_bind] at hresults
  unfold storedState
  split_ifs at hresults ⊢ with hpath
  · rw [Txn.modify_bind, Txn.pure_ok] at hresults
    rw [hresults.1]
    rfl
  · rw [(Txn.pure_ok.mp hresults).1]
    rfl

/-! ### The flags of the credits -/

structure BridgeCreditSet where
  creditSetId : String
  count : ℕ
  credits : List BridgeCredit
  productionReady : Bool

def makeCreditSet (credits : List BridgeCredit) : BridgeCreditSet where
  creditSetId := externalStableId "flowmemory.bridge_credit_set.v0"
    (.obj [("creditIds", .arr (credits.map fun credit => .str credit.creditId))])
  count := credits.length
  credits
  productionReady := decide (credits.length > 0) && credits.all (·.productionReady)

/-- A credit is ready in a live pilot unless it is rejected, and local otherwise; the set of the
credits is ready if it is not empty and all of them are. -/
structure ReadyFlags (mode : BridgeMode) (credits : List BridgeCredit) : Prop where
  ready : ∀ c ∈ credits, c.productionReady = true ↔ isLivePilotMode mode = true ∧ c.status ≠ .rejected
  local_eq : ∀ c ∈ credits, c.localOnly = !c.productionReady
  set : (makeCreditSet credits).productionReady = true ↔
    credits ≠ [] ∧ ∀ c ∈ credits, c.productionReady = true

theorem makeBridgeCredit_flags {o : BridgeObservation} {c : BridgeCredit} {status : CreditStatus}
    {reason : Option String} (h : makeBridgeCredit o status reason = some c) :
    c.productionReady = (isLivePilotMode o.mode && c.status ≠ .rejected) ∧
      c.localOnly = !c.productionReady := by
  simp only [makeBridgeCredit, Option.bind_eq_bind, Option.bind_eq_some_iff, Option.pure_def,
    Option.some.injEq] at h
  obtain ⟨creditId, -, rfl⟩ := h
  simp

theorem makeCredits_flags
    (hobservations : makeObservations run.options deposits = some observations)
    (hcredits : makeCredits observations apply run.options = some credits) : ∀ c ∈ credits,
    c.productionReady = (isLivePilotMode run.options.mode && c.status ≠ .rejected) ∧
      c.localOnly = !c.productionReady := by
  intro c hc
  obtain ⟨o, ho, _, _, hmake⟩ := exists_left_of_mem (makeCreditsFrom_made hcredits) hc
  exact ((observations_ok hobservations).1 o ho).2.1 ▸ makeBridgeCredit_flags hmake

/-- The flags of a run are right, unless a live pilot applies a deposit that passes the policy and
whose key is already in the runtime state. -/
theorem ready_flags_iff (h : creditStage run deposits w = (.ok handoff, w')) :
    ReadyFlags run.options.mode handoff.credits ↔
      (isLivePilotMode run.options.mode = true → run.options.applyCredit = true → ∀ d ∈ deposits,
        pilotDepositRejectionReason d run.options = none → ∀ key ∈ bridgeReplayKey d,
          (storedState run w).appliedReplayKeys key = none) := by
  obtain ⟨observations, credits, hobservations, hcredits, rfl⟩ := creditStage_ok h
  obtain ⟨hok, hall⟩ := observations_ok hobservations
  have hflags := makeCredits_flags hobservations hcredits
  obtain ⟨hkept, hdistinct⟩ := makeCreditsFrom_kept hcredits
  have hcredit := applyCredits_credit (storedState run w) hdistinct
  constructor
  · intro hready hlive happly d hd hpasses key hkey
    by_contra hlisted
    obtain ⟨o, ho, rfl⟩ := hall d hd
    cases (hok o ho).2.2.symm.trans hkey
    have hmode : run.options.mode ≠ .baseMainnetCanary := by
      intro hmode
      simp [hmode, isLivePilotMode] at hlive
    obtain ⟨c, hc, hcKey, hcStatus⟩ := makeCreditsFrom_accepted (fun o ho => (hok o ho).2.2)
      (fun o ho => (hok o ho).2.1.symm ▸ hmode) hcredits ho hpasses List.not_mem_nil
    obtain ⟨r, hr, rfl⟩ : ∃ r ∈ (applyCredits (storedState run w) credits).1, r.made = c := by
      rw [← List.mem_map, applyCredits_made]
      exact hc
    rw [happly, if_pos rfl] at hcStatus
    have hiff := hready.ready r.credit (List.mem_map_of_mem hr)
    rw [(hcredit r hr).2, if_pos ⟨hcStatus, hcKey ▸ hlisted⟩] at hiff
    have hmade : r.made.productionReady = true := by
      rw [(hflags _ hc).1, hlive, hcStatus]
      rfl
    exact (hiff.mp hmade).2 rfl
  · intro hfresh
    refine ⟨List.forall_mem_map.mpr fun r hr => ?_, List.forall_mem_map.mpr fun r hr => ?_, ?_⟩
    · obtain ⟨hmem, hcredit⟩ := hcredit r hr
      have hmade := (hflags _ hmem).1
      rw [hcredit]
      split_ifs with hreplay
      · have hlive : isLivePilotMode run.options.mode = false := by
          by_contra hlive
          obtain ⟨-, happly, o, ho, hkey, hpasses⟩ := hkept _ hmem (by simp [hreplay.1])
          exact hreplay.2 (hfresh (Bool.eq_true_of_not_eq_false hlive) (happly hreplay.1) o.deposit
            (hok o ho).1 hpasses _ (hkey ▸ (hok o ho).2.2))
        simp [asReplay, hmade, hlive]
      · simp [hmade]
    · obtain ⟨hmem, hcredit⟩ := hcredit r hr
      rw [hcredit]
      split_ifs
      all_goals exact (hflags _ hmem).2
    · simp [makeCreditSet, List.length_pos_iff]

/-- A live pilot run that applies credits. -/
def samplePilotRun : Run := sampleRun (sampleNode "0x14" []) none

/-- The files after a run over the first deposit. -/
def sampleStored : World :=
  let _ : Keccak := keccak256
  (creditStage samplePilotRun [sampleDeposit "10" 0] World.empty).2

omit [Keccak] in
/-- The second run over a deposit rejects its credit and marks it as ready. -/
theorem rejected_credit_ready :
    letI : Keccak := keccak256
    ((creditStage samplePilotRun [sampleDeposit "10" 0] sampleStored).1.toOption.map
      fun handoff => handoff.credits.map fun c => (c.status, c.productionReady)) =
      some [(.rejected, true)] := by
  decide +kernel

omit [Keccak] in
/-- After that run, two other deposits are applied and marked as ready. -/
theorem ready_flags_iff_sample :
    letI : Keccak := keccak256
    ∃ handoff w', creditStage samplePilotRun [sampleDeposit "20" 1, sampleDeposit "30" 2]
        sampleStored = (.ok handoff, w') ∧
      (storedState samplePilotRun sampleStored).applications.length = 1 ∧
      handoff.credits.map (·.status) = [.applied, .applied] ∧
      ReadyFlags .baseMainnetPilot handoff.credits := by
  let _ : Keccak := keccak256
  have hrun : ((creditStage samplePilotRun [sampleDeposit "20" 1, sampleDeposit "30" 2]
        sampleStored).1.toOption.map fun handoff => handoff.credits.map (·.status)) =
        some [.applied, .applied] ∧
      (storedState samplePilotRun sampleStored).applications.length = 1 ∧
      ∀ d ∈ [sampleDeposit "20" 1, sampleDeposit "30" 2], ∀ key ∈ bridgeReplayKey d,
        (storedState samplePilotRun sampleStored).appliedReplayKeys key = none := by
    decide +kernel
  obtain ⟨hcredits, hstored, hfresh⟩ := hrun
  rcases h : creditStage samplePilotRun [sampleDeposit "20" 1, sampleDeposit "30" 2] sampleStored
    with ⟨_ | handoff, w'⟩
  · rw [h] at hcredits
    cases hcredits
  · rw [h] at hcredits
    exact ⟨handoff, w', rfl, hstored, Option.some.inj hcredits,
      (ready_flags_iff h).mpr fun _ _ d hd _ => hfresh d hd⟩

/-! ### Evidence, intents and releases -/

structure EvidenceApplication where
  applicationId : Option String
  status : ApplicationStatus ⊕ CreditStatus
  appliedExactlyOnce : Bool
  rejectionReason : Option String

structure BridgePilotEvidence where
  (observationId creditId depositId replayKey : String)
  creditApplication : EvidenceApplication

def makePilotEvidence (observation : BridgeObservation) (credit : BridgeCredit)
    (application : Option BridgeRuntimeCreditApplication) : BridgePilotEvidence where
  observationId := observation.observationId
  creditId := credit.creditId
  depositId := observation.deposit.depositId
  replayKey := observation.replayKey
  creditApplication :=
    { applicationId := application.map (·.applicationId)
      status := (application.map (Sum.inl ·.status)).getD (.inr credit.status)
      appliedExactlyOnce := application.any fun a => a.status = .applied ∧ a.applyCount = 1
      rejectionReason := (application.bind (·.rejectionReason)).or credit.rejectionReason }

/-- The application for the credit at the index. -/
def applicationAt (applications : List BridgeRuntimeCreditApplication) (index : ℕ)
    (credit : BridgeCredit) : Option BridgeRuntimeCreditApplication :=
  applications[index]?.or (applications.find? fun candidate => candidate.creditId = credit.creditId)

def pilotEvidence (handoff : BridgeRuntimeHandoff) : List BridgePilotEvidence :=
  if isPilotMode handoff.mode then
    (handoff.observations.zip handoff.credits).mapIdx fun index (observation, credit) =>
      makePilotEvidence observation credit (applicationAt handoff.runtimeApplications index credit)
  else []

structure BridgeWithdrawalIntent where
  (withdrawalIntentId creditId depositId : String)
  (sourceChainId destinationChainId : ℕ)
  token : String
  asset : BridgeAssetIdentity
  (amount flowmemoryAccount baseRecipient : String)

def BridgeAssetIdentity.json (asset : BridgeAssetIdentity) : Json :=
  .obj [("sourceChainId", .num asset.sourceChainId), ("sourceToken", .str asset.sourceToken),
    ("destinationAssetId", .str asset.destinationAssetId), ("decimals", .num asset.decimals)]

def makeWithdrawalIntent (credit : BridgeCredit) (deposit : BridgeDeposit) (baseRecipient : String) :
    BridgeWithdrawalIntent where
  withdrawalIntentId := externalStableId "flowmemory.bridge_withdrawal_intent.v0"
    (.obj [("creditId", .str credit.creditId), ("depositId", .str credit.depositId),
      ("destinationChainId", .num deposit.sourceChainId), ("token", .str credit.token),
      ("asset", credit.asset.json), ("amount", .str credit.amount),
      ("flowmemoryAccount", .str credit.flowmemoryRecipient), ("baseRecipient", .str baseRecipient),
      ("testMode", .bool true)])
  creditId := credit.creditId
  depositId := credit.depositId
  sourceChainId := deposit.sourceChainId
  destinationChainId := deposit.sourceChainId
  token := credit.token
  asset := credit.asset
  amount := credit.amount
  flowmemoryAccount := credit.flowmemoryRecipient
  baseRecipient

/-- The deposit that a record is joined with: the first one of the id. -/
def depositOf (observations : List BridgeObservation) (depositId : String) : Option BridgeDeposit :=
  (observations.find? fun observation => observation.deposit.depositId = depositId).map (·.deposit)

/-- The intents of a run; `baseRecipient` is the recipient of the options, the sender by default. -/
def withdrawalIntents (options : CliOptions) (baseRecipient : Option String)
    (handoff : BridgeRuntimeHandoff) : Except String (List BridgeWithdrawalIntent) :=
  if options.withdrawalIntent then
    (handoff.credits.filter fun credit => credit.status = .applied).mapM fun credit => do
      let deposit ← okOr (depositOf handoff.observations credit.depositId)
        ("missing deposit for credit " ++ credit.creditId)
      pure (makeWithdrawalIntent credit deposit (baseRecipient.getD deposit.sender))
  else .ok []

inductive ReleaseMethod where
  | releaseNative | releaseERC20

structure ReleaseCall where
  method : ReleaseMethod
  (recipient token amount evidenceHash : String)

structure BridgeReleaseEvidence where
  (releaseEvidenceId withdrawalIntentId creditId depositId : String)
  (sourceChainId destinationChainId : ℕ)
  lockbox : String
  asset : BridgeAssetIdentity
  releaseCall : ReleaseCall
  productionReady : Bool

def flowmemoryBridgeEvidenceHash (intent : BridgeWithdrawalIntent) (deposit : BridgeDeposit) :
    Option String := do
  let replayKey ← bridgeReplayKey deposit
  let observationId ← bridgeObservationId deposit
  let payload : Json := .obj [("withdrawalIntentId", .str intent.withdrawalIntentId),
    ("amount", .str intent.amount), ("baseRecipient", .str intent.baseRecipient)]
  typedHash ("FlowMemoryBridgeEvidenceHashV0(bytes32 sourceEventReplayKey,bytes32 observationId," ++
      "bytes32 creditId,bytes32 depositId,uint256 localChainId,bytes32 evidencePayloadHash)")
    [.bytes32 replayKey, .bytes32 observationId, .bytes32 intent.creditId,
      .bytes32 intent.depositId, .uint flowmemoryLocalRuntimeChainId,
      .bytes32 (keccakHex (utf8 payload.canonicalJson))]

def makeReleaseEvidence (intent : BridgeWithdrawalIntent) (deposit : BridgeDeposit) :
    Option BridgeReleaseEvidence := do
  let evidenceHash ← flowmemoryBridgeEvidenceHash intent deposit
  pure
    { releaseEvidenceId := externalStableId "flowmemory.bridge_release_evidence.v0"
        (.obj [("withdrawalIntentId", .str intent.withdrawalIntentId),
          ("evidenceHash", .str evidenceHash)])
      withdrawalIntentId := intent.withdrawalIntentId
      creditId := intent.creditId
      depositId := intent.depositId
      sourceChainId := intent.sourceChainId
      destinationChainId := intent.destinationChainId
      lockbox := deposit.sourceContract
      asset := intent.asset
      releaseCall :=
        { method :=
            if deposit.token = "0x0000000000000000000000000000000000000000" then .releaseNative
            else .releaseERC20
          recipient := intent.baseRecipient
          token := intent.token
          amount := intent.amount
          evidenceHash }
      productionReady := intent.sourceChainId == baseMainnetChainId &&
        intent.destinationChainId == baseMainnetChainId }

def releaseEvidences (handoff : BridgeRuntimeHandoff) (intents : List BridgeWithdrawalIntent) :
    Except String (List BridgeReleaseEvidence) :=
  intents.mapM fun intent => do
    let deposit ← okOr (depositOf handoff.observations intent.depositId)
      ("missing deposit for withdrawal intent " ++ intent.withdrawalIntentId)
    okOr (makeReleaseEvidence intent deposit) uintRangeError

/-! ### When the records belong together -/

/-- The credit and the event that a record names. -/
def BridgeCredit.event (credit : BridgeCredit) : String × String := (credit.creditId, credit.replayKey)

@[inherit_doc BridgeCredit.event]
def BridgeRuntimeCreditApplication.event (application : BridgeRuntimeCreditApplication) :
    String × String := (application.creditId, application.replayKey)

/-- The deposit id, the token, the amount and the sender. -/
def BridgeDeposit.terms (deposit : BridgeDeposit) : String × String × String × String :=
  (deposit.depositId, deposit.token, deposit.amount, deposit.sender)

@[inherit_doc BridgeDeposit.terms]
def BridgeWithdrawalIntent.terms (intent : BridgeWithdrawalIntent) :
    String × String × String × String :=
  (intent.depositId, intent.token, intent.amount, intent.baseRecipient)

@[inherit_doc BridgeDeposit.terms]
def BridgeReleaseEvidence.terms (evidence : BridgeReleaseEvidence) :
    String × String × String × String :=
  (evidence.depositId, evidence.releaseCall.token, evidence.releaseCall.amount,
    evidence.releaseCall.recipient)

/-- The applied credits with the observations that they were made from. -/
def appliedCredits (handoff : BridgeRuntimeHandoff) : List (BridgeObservation × BridgeCredit) :=
  (handoff.observations.zip handoff.credits).filter fun p => p.2.status = .applied

/-- An application that the evidence at an index names is of the credit at the index. -/
def EvidenceNames (handoff : BridgeRuntimeHandoff) : Prop :=
  ∀ (i : ℕ) (e : BridgePilotEvidence) (c : BridgeCredit), (pilotEvidence handoff)[i]? = some e →
    handoff.credits[i]? = some c → ∀ id ∈ e.creditApplication.applicationId,
      ∃ a ∈ handoff.runtimeApplications, a.applicationId = id ∧ a.event = c.event

/-- The records of a handoff belong together. -/
structure RecordsBelong (options : CliOptions) (baseRecipient : Option String)
    (handoff : BridgeRuntimeHandoff) : Prop where
  evidence : EvidenceNames handoff
  intents : ∀ intents, withdrawalIntents options baseRecipient handoff = .ok intents →
    options.withdrawalIntent = true →
      intents.map (·.terms) = (appliedCredits handoff).map (·.1.deposit.terms) ∧
      ∀ evidences, releaseEvidences handoff intents = .ok evidences →
        evidences.map (·.terms) = (appliedCredits handoff).map (·.1.deposit.terms)

/-- No two applications or credits of the handoff share an id by a collision of hashes. -/
structure DistinctIds (handoff : BridgeRuntimeHandoff) : Prop where
  application : ∀ a ∈ handoff.runtimeApplications, ∀ a' ∈ handoff.runtimeApplications,
    a.applicationId = a'.applicationId → a.event = a'.event
  credit : ∀ c ∈ handoff.credits, ∀ c' ∈ handoff.credits,
    c.creditId = c'.creditId → c.replayKey = c'.replayKey

/-- The applications are those of the credits that are not pending. -/
theorem applyCredits_applications (state : ApplicationState) (credits : List BridgeCredit) :
    ((applyCredits state credits).1.filterMap CreditResult.application).map (·.event) =
      (credits.filter (·.status ≠ .pending)).map (·.event) := by
  induction credits generalizing state with
  | nil => rfl
  | cons c credits ih =>
    rw [applyCredits_cons]
    cases hstatus : c.status with
    | applied =>
      cases hkey : state.appliedReplayKeys c.replayKey
      all_goals
        simp [applyCredit, hstatus, hkey, ih]
        rfl
    | pending => simp [applyCredit, hstatus, ih]
    | rejected =>
      simp [applyCredit, hstatus, ih]
      rfl

omit [Keccak] in
theorem evidenceNames_iff (hids : DistinctIds handoff) (hpilot : isPilotMode handoff.mode = true)
    (hlength : handoff.observations.length = handoff.credits.length)
    (hsub : (handoff.runtimeApplications.map (·.event)).Sublist (handoff.credits.map (·.event))) :
    EvidenceNames handoff ↔
      handoff.runtimeApplications.map (·.event) <+: handoff.credits.map (·.event) := by
  have hevidence : ∀ i e c, handoff.credits[i]? = some c → ((pilotEvidence handoff)[i]? = some e ↔
      ∃ o, handoff.observations[i]? = some o ∧
        makePilotEvidence o c (applicationAt handoff.runtimeApplications i c) = e) := by
    intro i e c hc
    simp [pilotEvidence, hpilot, List.getElem?_mapIdx, List.getElem?_zip_eq_some, hc]
  rw [List.prefix_iff_getElem?]
  constructor
  · intro hnames i hi
    have hle := hsub.length_le
    rw [List.length_map] at hi hle
    rw [List.length_map] at hle
    have hc := List.getElem?_eq_getElem (hi.trans_le hle)
    have ho := List.getElem?_eq_getElem (hlength ▸ hi.trans_le hle)
    have hat : applicationAt handoff.runtimeApplications i handoff.credits[i] =
        some handoff.runtimeApplications[i] := by
      simp [applicationAt, hi]
    obtain ⟨a, ha, haid, hevent⟩ := hnames i _ _ ((hevidence i _ _ hc).mpr ⟨_, ho, rfl⟩) hc
      handoff.runtimeApplications[i].applicationId (by simp [makePilotEvidence, hat])
    have hsame := hids.application _ ha _ (List.getElem_mem hi) haid
    simp [hc, ← hevent, hsame]
  · intro hinitial i e c he hc id hid
    obtain ⟨o, -, rfl⟩ := (hevidence i e c hc).mp he
    obtain ⟨a, ha, rfl⟩ := Option.mem_map.mp hid
    rcases Option.or_eq_some_iff.mp ha with hat | ⟨-, hfind⟩
    · obtain ⟨hi, rfl⟩ := List.getElem?_eq_some_iff.mp hat
      have hevent := hinitial i (by rwa [List.length_map])
      simp only [List.getElem?_map, hc, Option.map_some, List.getElem_map, Option.some.injEq] at hevent
      exact ⟨_, List.getElem_mem hi, rfl, hevent.symm⟩
    · have hmem := List.mem_of_find?_eq_some hfind
      have hcredit : a.creditId = c.creditId := by simpa using List.find?_some hfind
      obtain ⟨c', hc', hevent⟩ := List.mem_map.mp (hsub.subset (List.mem_map_of_mem hmem))
      have hids' := hids.credit c' hc' c (List.mem_of_getElem? hc)
        ((congrArg Prod.fst hevent).trans hcredit)
      refine ⟨a, hmem, rfl, hevent ▸ ?_⟩
      exact Prod.ext ((congrArg Prod.fst hevent).trans hcredit) hids'

/-- A release carries what its intent carries. -/
theorem releaseEvidences_terms {intents : List BridgeWithdrawalIntent}
    {evidences : List BridgeReleaseEvidence} (h : releaseEvidences handoff intents = .ok evidences) :
    evidences.map (·.terms) = intents.map (·.terms) := by
  rw [← List.forall₂_eq_eq_eq, List.forall₂_map_left_iff, List.forall₂_map_right_iff]
  refine (mapM_ok.mp h).flip.imp fun e i he => ?_
  simp only [bind_ok, okOr_ok, makeReleaseEvidence, Option.bind_eq_bind, Option.bind_eq_some_iff,
    Option.pure_def, Option.some.injEq] at he
  obtain ⟨d, -, hash, -, rfl⟩ := he
  rfl

theorem intents_iff (options : CliOptions) (baseRecipient : Option String)
    (hon : options.withdrawalIntent = true)
    (hlength : handoff.observations.length = handoff.credits.length)
    (hcarry : ∀ p ∈ appliedCredits handoff, p.1 ∈ handoff.observations ∧
      p.2.depositId = p.1.deposit.depositId ∧ p.2.token = p.1.deposit.token ∧
      p.2.amount = p.1.deposit.amount) :
    (∀ intents, withdrawalIntents options baseRecipient handoff = .ok intents →
      intents.map (·.terms) = (appliedCredits handoff).map (·.1.deposit.terms)) ↔
    ∀ p ∈ appliedCredits handoff, ∀ d ∈ depositOf handoff.observations p.1.deposit.depositId,
      baseRecipient.getD d.sender = p.1.deposit.sender := by
  -- every applied credit finds a deposit, so that the intents are a map of the applied credits
  let found (p : BridgeObservation × BridgeCredit) : BridgeDeposit :=
    (depositOf handoff.observations p.1.deposit.depositId).getD p.1.deposit
  have hfound : ∀ p ∈ appliedCredits handoff,
      depositOf handoff.observations p.1.deposit.depositId = some (found p) := by
    intro p hp
    have hsome : (depositOf handoff.observations p.1.deposit.depositId).isSome = true := by
      rw [depositOf, Option.isSome_map, List.find?_isSome]
      exact ⟨p.1, (hcarry p hp).1, by simp⟩
    obtain ⟨d, hd⟩ := Option.isSome_iff_exists.mp hsome
    simp [found, hd]
  have hfilter : (handoff.credits.filter fun credit => credit.status = .applied) =
      (appliedCredits handoff).map Prod.snd := by
    conv_lhs => rw [← List.map_snd_zip hlength.ge, List.filter_map]
    rfl
  have hintents : withdrawalIntents options baseRecipient handoff = .ok ((appliedCredits handoff).map
      fun p => makeWithdrawalIntent p.2 (found p) (baseRecipient.getD (found p).sender)) := by
    rw [withdrawalIntents, if_pos hon, hfilter, mapM_ok, List.forall₂_map_left_iff,
      List.forall₂_map_right_iff, List.forall₂_same]
    intro p hp
    rw [(hcarry p hp).2.1, hfound p hp]
    rfl
  simp only [hintents, Except.ok.injEq, forall_eq', List.map_map, List.map_inj_left]
  refine forall₂_congr fun p hp => ?_
  obtain ⟨-, hid, htoken, hamount⟩ := hcarry p hp
  simp [hfound p hp, BridgeWithdrawalIntent.terms, BridgeDeposit.terms, makeWithdrawalIntent, hid,
    htoken, hamount]

section results

variable {results : List CreditResult}

omit [Keccak] in
/-- The evidence of the results of a run, in terms of the credits as they were made. -/
theorem evidence_iff (hids : DistinctIds (makeRuntimeHandoff mode observations results))
    (hlength : observations.length = results.length)
    (hevents : (results.map (·.credit)).map (·.event) = (results.map (·.made)).map (·.event))
    (happlications : (results.filterMap (·.application)).map (·.event) =
      ((results.map (·.made)).filter (·.status ≠ .pending)).map (·.event)) :
    EvidenceNames (makeRuntimeHandoff mode observations results) ↔ (isPilotMode mode = true →
      ((results.map (·.made)).filter (·.status ≠ .pending)).map (·.event) <+:
        (results.map (·.made)).map (·.event)) := by
  have hsub := (List.filter_sublist (p := (·.status ≠ .pending))
    (l := results.map CreditResult.made)).map BridgeCredit.event
  rw [← happlications, ← hevents] at hsub ⊢
  by_cases hpilot : isPilotMode mode = true
  · rw [evidenceNames_iff hids hpilot (by rw [makeRuntimeHandoff, hlength, List.length_map]) hsub]
    simp [hpilot, makeRuntimeHandoff]
  · simp [hpilot, EvidenceNames, pilotEvidence, makeRuntimeHandoff]

omit [Keccak] in
theorem mem_appliedCredits {p : BridgeObservation × BridgeCredit} :
    p ∈ appliedCredits (makeRuntimeHandoff mode observations results) ↔
      ∃ r, (p.1, r) ∈ observations.zip results ∧ r.credit.status = .applied ∧ r.credit = p.2 := by
  obtain ⟨o, c⟩ := p
  simp only [appliedCredits, makeRuntimeHandoff, List.zip_map_right, List.mem_filter, List.mem_map,
    Prod.exists, Prod.map_apply, id, Prod.mk.injEq, decide_eq_true_eq]
  grind

/-- The intents of the results of a run, in terms of the credits as they were made: `Fresh` results
are the applied ones. -/
theorem intents_made_iff (mode : BridgeMode) (baseRecipient : Option String)
    {Fresh : CreditResult → Prop} (hon : run.options.withdrawalIntent = true)
    (hobservations : makeObservations run.options deposits = some observations)
    (hlength : observations.length = results.length)
    (hfor : ∀ {o r}, (o, r) ∈ observations.zip results →
      ∃ status reason, makeBridgeCredit o status reason = some r.made)
    (happlied : ∀ r ∈ results, (r.credit.status = .applied ↔ Fresh r) ∧
      (r.credit.status = .applied → r.credit = r.made)) :
    (∀ intents, withdrawalIntents run.options baseRecipient
        (makeRuntimeHandoff mode observations results) = .ok intents → intents.map (·.terms) =
      (appliedCredits (makeRuntimeHandoff mode observations results)).map (·.1.deposit.terms)) ↔
    ∀ p ∈ observations.zip results, Fresh p.2 →
      ∀ d ∈ depositOf observations p.1.deposit.depositId,
        baseRecipient.getD d.sender = p.1.deposit.sender := by
  rw [intents_iff run.options baseRecipient hon (by rw [makeRuntimeHandoff, hlength, List.length_map])]
  · constructor
    · rintro hsender ⟨o, r⟩ hq hfresh
      exact hsender (o, r.credit) (mem_appliedCredits.mpr
        ⟨r, hq, (happlied r (List.of_mem_zip hq).2).1.mpr hfresh, rfl⟩)
    · intro hsender p hp
      obtain ⟨r, hq, hstatus, -⟩ := mem_appliedCredits.mp hp
      exact hsender (p.1, r) hq ((happlied r (List.of_mem_zip hq).2).1.mp hstatus)
  · intro p hp
    obtain ⟨r, hq, hstatus, hcredit⟩ := mem_appliedCredits.mp hp
    obtain ⟨ho, hr⟩ := List.of_mem_zip hq
    obtain ⟨_, _, hmake⟩ := hfor hq
    rw [← (happlied r hr).2 hstatus, hcredit] at hmake
    have hmade := (makeBridgeCredit_ok hmake ((observations_ok hobservations).1 _ ho).2.2).1
    exact ⟨ho, hmade.depositId, hmade.token, hmade.amount⟩

end results

/-- The records of a run belong together if the credits that are not pending come first in the batch,
and the recipient of the intent of an applied credit is the sender of its deposit. -/
theorem records_belong_iff (h : creditStage run deposits w = (.ok handoff, w'))
    (hobservations : makeObservations run.options deposits = some observations)
    (hcredits : makeCredits observations run.options.applyCredit run.options = some credits)
    (hids : DistinctIds handoff) :
    RecordsBelong run.options baseRecipient handoff ↔
      (isPilotMode run.options.mode = true →
        (credits.filter (·.status ≠ .pending)).map (·.event) <+: credits.map (·.event)) ∧
      (run.options.withdrawalIntent = true → ∀ p ∈ observations.zip credits, p.2.status = .applied →
        (storedState run w).appliedReplayKeys p.2.replayKey = none →
        ∀ d ∈ depositOf observations p.1.deposit.depositId,
          baseRecipient.getD d.sender = p.1.deposit.sender) := by
  obtain ⟨_, _, hobservations', hcredits', rfl⟩ := creditStage_ok h
  cases hobservations.symm.trans hobservations'
  cases hcredits.symm.trans hcredits'
  have hmade : (applyCredits (storedState run w) credits).1.map CreditResult.made = credits :=
    applyCredits_made
  have hfor := makeCreditsFrom_made hcredits
  have happlications := applyCredits_applications (storedState run w) credits
  have hcredit := applyCredits_credit (storedState run w) (makeCreditsFrom_kept hcredits).2
  generalize (applyCredits (storedState run w) credits).1 = results at *
  subst hmade
  have hevents : (results.map (·.credit)).map (·.event) = (results.map (·.made)).map (·.event) := by
    simp only [List.map_map, List.map_inj_left, Function.comp_apply]
    intro r hr
    rw [(hcredit r hr).2]
    split_ifs <;> rfl
  have happlied : ∀ r ∈ results, (r.credit.status = .applied ↔ r.made.status = .applied ∧
      (storedState run w).appliedReplayKeys r.made.replayKey = none) ∧
      (r.credit.status = .applied → r.credit = r.made) := by
    intro r hr
    rw [(hcredit r hr).2]
    split_ifs with hreplay
    · simp [asReplay, hreplay.2]
    · exact ⟨by tauto, fun _ => rfl⟩
  rw [List.forall₂_map_right_iff] at hfor
  obtain ⟨hlength, hfor⟩ := List.forall₂_iff_zip.mp hfor
  have hintents := fun hon => intents_made_iff run.options.mode baseRecipient hon hobservations
    hlength hfor happlied
  have hevidence := evidence_iff hids hlength hevents happlications
  simp only [and_imp] at hintents
  simp only [List.zip_map_right, List.forall_mem_map, Prod.map_fst, Prod.map_snd, id_eq]
  constructor
  · intro hbelong
    exact ⟨hevidence.mp hbelong.evidence, fun hon => (hintents hon).mp fun intents hi =>
      (hbelong.intents intents hi hon).1⟩
  · rintro ⟨hinitial, hsender⟩
    refine ⟨hevidence.mpr hinitial, fun intents hi hon => ?_⟩
    have hterms := (hintents hon).mpr (hsender hon) intents hi
    exact ⟨hterms, fun evidences he => (releaseEvidences_terms he).trans hterms⟩

/-- A pilot run on a fixture that does not apply credits. -/
def sampleMockRun : Run :=
  { samplePilotRun with options := { sampleOptions with mode := .mockPilot, applyCredit := false } }

omit [Keccak] in
/-- The first credit is pending and the second is rejected: the evidence of the first names the
application of the second. -/
theorem evidence_of_other_credit :
    letI : Keccak := keccak256
    ∃ handoff ∈ (creditStage sampleMockRun [sampleDeposit "10" 0, sampleDeposit "101" 1]
        World.empty).1.toOption,
      ∃ e ∈ (pilotEvidence handoff)[0]?, ∃ c ∈ handoff.credits[0]?,
        e.creditApplication.applicationId.isSome = true ∧ ∀ a ∈ handoff.runtimeApplications,
          a.applicationId ∈ e.creditApplication.applicationId → a.event ≠ c.event := by
  decide +kernel

/-- A live pilot run that applies credits and puts out intents. -/
def sampleIntentRun : Run :=
  { samplePilotRun with options := { sampleOptions with withdrawalIntent := true } }

omit [Keccak] in
/-- The records of a batch with two deposits belong together. -/
theorem records_belong_iff_sample :
    letI : Keccak := keccak256
    ∃ handoff w', creditStage sampleIntentRun [sampleDeposit "10" 0, sampleDeposit "20" 1]
        World.empty = (.ok handoff, w') ∧
      (appliedCredits handoff).length = 2 ∧ handoff.credits.Pairwise (·.creditId ≠ ·.creditId) ∧
      RecordsBelong sampleIntentRun.options none handoff := by
  let _ : Keccak := keccak256
  have hrun : ∃ handoff ∈ (creditStage sampleIntentRun [sampleDeposit "10" 0, sampleDeposit "20" 1]
      World.empty).1.toOption, (appliedCredits handoff).length = 2 ∧
        handoff.credits.Pairwise (·.creditId ≠ ·.creditId) ∧
        (∀ a ∈ handoff.runtimeApplications, ∀ a' ∈ handoff.runtimeApplications,
          a.applicationId = a'.applicationId → a.event = a'.event) ∧
        (∀ c ∈ handoff.credits, ∀ c' ∈ handoff.credits,
          c.creditId = c'.creditId → c.replayKey = c'.replayKey) ∧
        ∀ observations ∈ makeObservations sampleIntentRun.options
            [sampleDeposit "10" 0, sampleDeposit "20" 1],
          ∀ credits ∈ makeCredits observations true sampleIntentRun.options,
            (credits.filter (·.status ≠ .pending)).map (·.event) <+: credits.map (·.event) ∧
            ∀ p ∈ observations.zip credits, ∀ d ∈ depositOf observations p.1.deposit.depositId,
              d.sender = p.1.deposit.sender := by
    decide +kernel
  obtain ⟨handoff, hhandoff, htwo, hdistinct, hids, hids', hinputs⟩ := hrun
  rcases h : creditStage sampleIntentRun [sampleDeposit "10" 0, sampleDeposit "20" 1] World.empty
    with ⟨_ | handoff', w'⟩
  · rw [h] at hhandoff
    cases hhandoff
  · rw [h] at hhandoff
    obtain rfl : handoff' = handoff := Option.some.inj hhandoff
    obtain ⟨observations, credits, hobservations, hcredits, -⟩ := creditStage_ok h
    obtain ⟨hfirst, hsender⟩ := hinputs observations hobservations credits hcredits
    have hbelong : RecordsBelong sampleIntentRun.options none handoff' ↔ _ :=
      records_belong_iff h hobservations hcredits ⟨hids, hids'⟩
    exact ⟨handoff', w', rfl, htwo, hdistinct,
      hbelong.mpr ⟨fun _ => hfirst, fun _ p hp _ _ => hsender p hp⟩⟩

end FlowMemory.Relayer
