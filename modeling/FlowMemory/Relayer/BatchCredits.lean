import FlowMemory.Lib.Traverse
import FlowMemory.Relayer.CreditOnce
import FlowMemory.Relayer.ScanWindows

/-! # The credits of a batch

The credits of a batch are made from its observations, in their order.  An observation that passes
the policy gets a credit that is not rejected, unless its key was seen before in the batch; the
prepared credits are for different events; and they come out as replays where their keys are listed. -/

namespace FlowMemory.Relayer

open Check

variable [K : Keccak]

/-! ### The credits of a batch -/

section batch

variable {options : CliOptions} {apply : Bool} {observations : List BridgeObservation}
  {seen : List String} {credits : List BridgeCredit} {d : BridgeDeposit} {c : BridgeCredit}
  {observation : BridgeObservation}

/-- The credit is for the deposit. -/
structure CreditFor (d : BridgeDeposit) (c : BridgeCredit) : Prop where
  replayKey : bridgeReplayKey d = some c.replayKey
  depositId : c.depositId = d.depositId
  source : c.source = ⟨d.sourceChainId, d.sourceContract, d.txHash, d.logIndex⟩
  token : c.token = d.token
  amount : c.amount = d.amount
  flowmemoryRecipient : c.flowmemoryRecipient = d.flowmemoryRecipient

theorem makeBridgeCredit_ok {status : CreditStatus}
    {reason : Option String} (h : makeBridgeCredit observation status reason = some c)
    (hkey : bridgeReplayKey observation.deposit = some observation.replayKey) :
    CreditFor observation.deposit c ∧ c.replayKey = observation.replayKey ∧ c.status = status := by
  simp only [makeBridgeCredit, Option.bind_eq_bind, Option.bind_eq_some_iff, Option.pure_def,
    Option.some.injEq] at h
  obtain ⟨creditId, -, rfl⟩ := h
  exact ⟨⟨hkey, rfl, rfl, rfl, rfl, rfl⟩, rfl, rfl⟩

/-- The credits of a batch are made from its observations, in their order. -/
theorem makeCreditsFrom_made (h : makeCreditsFrom options apply observations seen = some credits) :
    List.Forall₂ (fun o c => ∃ status reason, makeBridgeCredit o status reason = some c)
      observations credits := by
  induction observations generalizing seen credits with
  | nil =>
    cases h
    exact .nil
  | cons o observations ih =>
    obtain ⟨first, rest, rfl, hfirst, hrest⟩ := makeCreditsFrom_cons h
    exact .cons ⟨_, _, hfirst⟩ (ih hrest)

/-- An observation that passes the policy gets a credit that is not rejected, unless its key was seen
before in the batch. -/
theorem makeCreditsFrom_accepted {o : BridgeObservation}
    (hkeys : ∀ o ∈ observations, bridgeReplayKey o.deposit = some o.replayKey)
    (hmode : ∀ o ∈ observations, o.mode ≠ .baseMainnetCanary)
    (h : makeCreditsFrom options apply observations seen = some credits) (ho : o ∈ observations)
    (hpasses : pilotDepositRejectionReason o.deposit options = none) (hseen : o.replayKey ∉ seen) :
    ∃ c ∈ credits, c.replayKey = o.replayKey ∧ c.status = if apply then .applied else .pending := by
  induction observations generalizing seen credits with
  | nil => nomatch ho
  | cons o' observations ih =>
    rw [List.forall_mem_cons] at hkeys hmode
    obtain ⟨first, rest, rfl, hfirst, hrest⟩ := makeCreditsFrom_cons h
    by_cases hsame : pilotDepositRejectionReason o'.deposit options = none ∧
        o'.replayKey = o.replayKey
    · obtain ⟨hpasses', hsame⟩ := hsame
      obtain ⟨-, hkey, hstatus⟩ := makeBridgeCredit_ok hfirst hkeys.1
      refine ⟨first, List.mem_cons_self, hkey.trans hsame, ?_⟩
      rw [hstatus]
      simp [creditStatus, hpasses', hsame, hseen, hmode.1]
    · have hrest' : o ∈ observations := by
        rcases List.mem_cons.mp ho with rfl | ho
        · exact absurd ⟨hpasses, rfl⟩ hsame
        · exact ho
      have hseen' : o.replayKey ∉ (creditStatus options apply o' seen).2.2 := by
        unfold creditStatus
        cases hreason : pilotDepositRejectionReason o'.deposit options with
        | some reason => exact hseen
        | none =>
          have hne : o.replayKey ≠ o'.replayKey := fun heq => hsame ⟨hreason, heq.symm⟩
          simp only
          split_ifs
          · exact hseen
          all_goals exact fun hmem => (List.mem_cons.mp hmem).elim hne hseen
      obtain ⟨c, hc, hcredit⟩ := ih hkeys.2 hmode.2 hrest hrest' hseen'
      exact ⟨c, List.mem_cons_of_mem _ hc, hcredit⟩

variable {state : ApplicationState} {key : String}

/-- If the prepared credits have different keys, they come out as replays where their keys are listed,
and as they were made otherwise. -/
theorem applyCredits_credit (state : ApplicationState)
    (hdistinct : credits.Pairwise fun c c' => c.status ≠ .rejected → c'.status ≠ .rejected →
      c.replayKey ≠ c'.replayKey) :
    ∀ r ∈ (applyCredits state credits).1, r.made ∈ credits ∧ r.credit =
      if r.made.status = .applied ∧ state.appliedReplayKeys r.made.replayKey ≠ none then
        asReplay r.made else r.made := by
  induction credits generalizing state with
  | nil => exact fun r hr => absurd hr not_mem_applyCredits_nil
  | cons c credits ih =>
    rw [List.pairwise_cons] at hdistinct
    intro r hr
    rcases mem_applyCredits_cons.mp hr with rfl | hr
    · rw [applyCredit_made]
      refine ⟨List.mem_cons_self, ?_⟩
      unfold applyCredit
      split
      case h_3 => split <;> simp [*]
      all_goals simp [*]
    · obtain ⟨hmem, hcredit⟩ := ih _ hdistinct.2 r hr
      have hother (hstatus : r.made.status = .applied) :
          ¬ Prepared r.made.replayKey (applyCredit state c).1 := by
        rw [Prepared, applyCredit_made]
        exact fun hprepared => hdistinct.1 _ hmem (by simp [hprepared.1]) (by simp [hstatus])
          hprepared.2
      have hlisted : (r.made.status = .applied ∧
          (applyCredit state c).2.appliedReplayKeys r.made.replayKey ≠ none) ↔
          r.made.status = .applied ∧ state.appliedReplayKeys r.made.replayKey ≠ none :=
        and_congr_right fun hstatus => by rw [applyCredit_other (hother hstatus)]
      simp only [hlisted] at hcredit
      exact ⟨List.mem_cons_of_mem _ hmem, hcredit⟩

end batch

/-! ### The observations of a batch -/

section observations

variable {run : Run} {deposits : List BridgeDeposit} {observations : List BridgeObservation}

theorem makeObservation_ok {d : BridgeDeposit} {mode : BridgeMode}
    {guardrails : BridgeGuardrailOptions} {o : BridgeObservation}
    (h : makeObservation d mode guardrails = some o) :
    o.deposit = d ∧ o.mode = mode ∧ bridgeReplayKey d = some o.replayKey := by
  simp only [makeObservation, Option.bind_eq_bind, Option.bind_eq_some_iff, Option.pure_def,
    Option.some.injEq] at h
  obtain ⟨key, hkey, id, -, rfl⟩ := h
  exact ⟨rfl, rfl, hkey⟩

theorem observations_ok (hobservations : makeObservations run.options deposits = some observations) :
    (∀ o ∈ observations, o.deposit ∈ deposits ∧
      o.mode = run.options.mode ∧ bridgeReplayKey o.deposit = some o.replayKey) ∧
    ∀ d ∈ deposits, ∃ o ∈ observations, o.deposit = d := by
  have hforall := mapM_some.mp hobservations
  constructor
  · intro o ho
    obtain ⟨d, hd, hmake⟩ := exists_left_of_mem hforall ho
    obtain ⟨rfl, hmode, hkey⟩ := makeObservation_ok hmake
    exact ⟨hd, hmode, hkey⟩
  · intro d hd
    obtain ⟨o, ho, hmake⟩ := exists_right_of_mem hforall hd
    exact ⟨o, ho, (makeObservation_ok hmake).1⟩

end observations

end FlowMemory.Relayer
