import Mathlib.Analysis.Real.Sqrt
import Mathlib.Analysis.SpecialFunctions.Log.Basic

/-! # The credit score of an agent

The receipts of an agent are counted by their **terminal states**, and the counts give a score and a
**risk band** with limits.  A task that timed out counts as slashed as well, and the score zero stands
for an agent without history, which upheld challenges can also reach: `credit_history_iff` says when
receipts are counted once and when an agent with history is rated, in its counts and for which terminal
states always.  Numbers are real numbers. -/

namespace FlowMemory.AgentBonds.CreditScore

/-! ### Receipts -/

inductive TerminalState where
  | settledSuccess | refundedUnsupported | slashedInvalid | slashedTimeout
  | cancelledBeforeAcceptance | challengeUpheld | challengeRejected | emergencyResolved
  deriving DecidableEq

def TerminalState.text : TerminalState → String
  | settledSuccess => "settled_success"
  | refundedUnsupported => "refunded_unsupported"
  | slashedInvalid => "slashed_invalid"
  | slashedTimeout => "slashed_timeout"
  | cancelledBeforeAcceptance => "cancelled_before_acceptance"
  | challengeUpheld => "challenge_upheld"
  | challengeRejected => "challenge_rejected"
  | emergencyResolved => "emergency_resolved"

/-- What the score reads of a receipt. -/
structure Receipt where
  terminalState : TerminalState
  verifierId : Option String
  agentPayoutUSDC : ℕ

/-- The tasks that are counted as history. -/
inductive TaskKind where
  | settled | slashed | timeout | unsupported
  deriving DecidableEq

def TaskKind.all : List TaskKind := [settled, slashed, timeout, unsupported]

def TaskKind.counts (kind : TaskKind) (state : TerminalState) : Bool :=
  match kind with
  | settled => state.text = "settled_success"
  | slashed => "slashed".toList.isPrefixOf state.text.toList
  | timeout => state.text = "slashed_timeout"
  | unsupported => state.text = "refunded_unsupported"

/-! ### The score -/

structure CreditInputs where
  (settledTasks slashedTasks timeoutTasks unsupportedTasks challengedTasks upheldChallenges : ℕ)
  (uniqueVerifierCount totalSettledUSDC : ℕ)
  deriving DecidableEq

def CreditInputs.taskCount (i : CreditInputs) : ℕ :=
  i.settledTasks + i.slashedTasks + i.timeoutTasks + i.unsupportedTasks

inductive RiskBand where
  | A | B | C | D | E | unrated
  deriving DecidableEq

def riskBand (score : ℤ) : RiskBand :=
  if score ≥ 850 then .A
  else if score ≥ 700 then .B
  else if score ≥ 550 then .C
  else if score ≥ 400 then .D
  else if score = 0 then .unrated else .E

def maxOpenExposureUSDC : RiskBand → ℕ
  | .A => 1000000000 | .B => 600000000 | .C => 300000000 | .D => 100000000 | .E => 0
  | .unrated => 50000000

def maxTaskPayoutUSDC : RiskBand → ℕ
  | .A => 100000000 | .B => 75000000 | .C => 50000000 | .D => 10000000 | .E => 0
  | .unrated => 5000000

noncomputable def wilsonLowerBound (successes trials : ℝ) : ℝ :=
  if trials ≤ 0 then 0
  else
    let z : ℝ := 1.96
    let phat := successes / trials
    let denominator := 1 + z * z / trials
    let centre := phat + z * z / (2 * trials)
    let margin := z * √((phat * (1 - phat) + z * z / (4 * trials)) / trials)
    max 0 ((centre - margin) / denominator)

/-- The sum that is rounded and clamped. -/
noncomputable def CreditInputs.rawScore (i : CreditInputs) : ℝ :=
  let n : ℝ := max 1 i.taskCount
  let base := 300 + 500 * wilsonLowerBound i.settledTasks n
  let valueWeightedExperience :=
    min 100 (Real.log (1 + i.totalSettledUSDC) / Real.log (1 + 100000) * 100)
  let verifierDiversity := min 75 (√i.uniqueVerifierCount * 15)
  let slashPenalty := 250 * (i.slashedTasks / n)
  let timeoutPenalty := 150 * (i.timeoutTasks / n)
  let challengePenalty := 125 * (i.upheldChallenges / max 1 (i.challengedTasks : ℝ))
  let evidencePenalty := 75 * (i.unsupportedTasks / n)
  base + valueWeightedExperience + verifierDiversity - slashPenalty - timeoutPenalty -
    challengePenalty - evidencePenalty

noncomputable def computeAgentCreditScore (i : CreditInputs) : ℤ :=
  if i.taskCount > 0 then max 0 (min 1000 ⌊i.rawScore + 1 / 2⌋) else 0

/-- The inputs from the receipts of an agent. -/
def inputsFromReceipts (receipts : List Receipt) : CreditInputs :=
  let states := receipts.map (·.terminalState)
  { settledTasks := states.countP TaskKind.settled.counts
    slashedTasks := states.countP TaskKind.slashed.counts
    timeoutTasks := states.countP TaskKind.timeout.counts
    unsupportedTasks := states.countP TaskKind.unsupported.counts
    challengedTasks := states.countP fun s => "challenge".toList <:+: s.text.toList
    upheldChallenges := states.countP fun s => s.text = "challenge_upheld"
    uniqueVerifierCount := (receipts.map (·.verifierId.getD "")).dedup.length
    totalSettledUSDC := (receipts.map (·.agentPayoutUSDC)).sum }

noncomputable def computeAgentCreditScoreFromReceipts (receipts : List Receipt) : ℤ :=
  computeAgentCreditScore (inputsFromReceipts receipts)

/-! ### Receipts that are counted once -/

variable {state : TerminalState} {i : CreditInputs}

/-- The number of the counters that count a state. -/
def timesCounted (state : TerminalState) : ℕ := TaskKind.all.countP (·.counts state)

theorem timesCounted_le_one_iff : timesCounted state ≤ 1 ↔ state ≠ .slashedTimeout := by
  cases state <;> decide

theorem taskCount_inputs (receipts : List Receipt) :
    (inputsFromReceipts receipts).taskCount =
      (receipts.map fun r => timesCounted r.terminalState).sum := by
  induction receipts with
  | nil => rfl
  | cons r receipts ih =>
    simp only [inputsFromReceipts, CreditInputs.taskCount, timesCounted, TaskKind.all, List.map_cons,
      List.countP_cons, List.countP_nil, List.sum_cons] at ih ⊢
    omega

/-! ### Ratings -/

theorem riskBand_eq_unrated {score : ℤ} : riskBand score = .unrated ↔ score = 0 := by
  unfold riskBand
  grind

theorem unrated_iff (hn : 0 < i.taskCount) :
    riskBand (computeAgentCreditScore i) = .unrated ↔ i.rawScore < 1 / 2 := by
  rw [riskBand_eq_unrated, computeAgentCreditScore, if_pos hn]
  have : ⌊i.rawScore + 1 / 2⌋ ≤ 0 ↔ i.rawScore < 1 / 2 := by
    rw [← Int.lt_add_one_iff, Int.floor_lt]
    norm_num
    constructor <;> intro h <;> linarith
  rw [← this]
  omega

theorem wilsonLowerBound_nonneg (successes trials : ℝ) : 0 ≤ wilsonLowerBound successes trials := by
  unfold wilsonLowerBound
  split
  · exact le_rfl
  · exact le_max_left _ _

/-- The **needed rate**: with this lower bound of its rate of success an agent just gets more than
zero. -/
noncomputable def CreditInputs.neededRate (i : CreditInputs) : ℝ :=
  ((250 * i.slashedTasks + 150 * i.timeoutTasks + 75 * i.unsupportedTasks) / i.taskCount +
      125 * (i.upheldChallenges / max 1 (i.challengedTasks : ℝ)) - 299.5 -
    min 100 (Real.log (1 + i.totalSettledUSDC) / Real.log (1 + 100000) * 100) -
    min 75 (√i.uniqueVerifierCount * 15)) / 500

/-- The settled tasks exceed the needed rate by the margin of the test. -/
def CreditInputs.Suffices (i : CreditInputs) : Prop :=
  i.neededRate ≤ 0 ∨
    0 ≤ 2 * (i.settledTasks - i.taskCount * i.neededRate) + 1.96 ^ 2 * (1 - 2 * i.neededRate) ∧
      1.96 ^ 2 * i.taskCount * (i.neededRate * (1 - i.neededRate)) ≤
        (i.settledTasks - i.taskCount * i.neededRate) ^ 2

/-- The lower bound is the smaller root of the quadratic inequality that a rate passes. -/
theorem le_wilsonLowerBound_iff {successes trials rate : ℝ} (htrials : 0 < trials) (hrate : 0 < rate) :
    rate ≤ wilsonLowerBound successes trials ↔
      0 ≤ 2 * (successes - trials * rate) + 1.96 ^ 2 * (1 - 2 * rate) ∧
        1.96 ^ 2 * trials * (rate * (1 - rate)) ≤ (successes - trials * rate) ^ 2 := by
  have hfactor : (0 : ℝ) < 1 + 1.96 * 1.96 / trials := by positivity
  have hdistance : successes / trials + 1.96 * 1.96 / (2 * trials) -
      rate * (1 + 1.96 * 1.96 / trials) =
        (2 * (successes - trials * rate) + 1.96 ^ 2 * (1 - 2 * rate)) / (2 * trials) := by
    field_simp
    ring
  -- the squares of the margin and of the distance differ by a multiple of the two sides
  have hsquares : ((2 * (successes - trials * rate) + 1.96 ^ 2 * (1 - 2 * rate)) / (2 * trials)) ^ 2 -
      1.96 ^ 2 * ((successes / trials * (1 - successes / trials) + 1.96 * 1.96 / (4 * trials)) /
        trials) =
      (1 + 1.96 * 1.96 / trials) / trials ^ 2 * ((successes - trials * rate) ^ 2 -
        1.96 ^ 2 * trials * (rate * (1 - rate))) := by
    field_simp
    ring
  have hmargin : ∀ distance : ℝ, 1.96 * √((successes / trials * (1 - successes / trials) +
      1.96 * 1.96 / (4 * trials)) / trials) ≤ distance ↔ 0 ≤ distance ∧
        1.96 ^ 2 * ((successes / trials * (1 - successes / trials) + 1.96 * 1.96 / (4 * trials)) /
          trials) ≤ distance ^ 2 := by
    intro distance
    rw [← Real.sqrt_le_iff, Real.sqrt_mul (by norm_num), Real.sqrt_sq (by norm_num)]
  simp only [wilsonLowerBound, if_neg htrials.not_ge, le_max_iff, hrate.not_ge, false_or,
    le_div_iff₀ hfactor]
  rw [le_sub_comm, hmargin, hdistance, le_div_iff₀ (by positivity), zero_mul]
  refine and_congr_right fun _ => ?_
  rw [← sub_nonneg, hsquares, mul_nonneg_iff_of_pos_left (by positivity), sub_nonneg]

theorem rawScore_eq (hn : 0 < i.taskCount) :
    i.rawScore = 1 / 2 + 500 * (wilsonLowerBound i.settledTasks i.taskCount - i.neededRate) := by
  have hmax : max 1 (i.taskCount : ℝ) = i.taskCount := max_eq_right (Nat.one_le_cast.mpr hn)
  simp only [CreditInputs.rawScore, CreditInputs.neededRate, hmax]
  ring

theorem rated_iff (hn : 0 < i.taskCount) :
    riskBand (computeAgentCreditScore i) ≠ .unrated ↔ i.Suffices := by
  have hpos : (0 : ℝ) < i.taskCount := Nat.cast_pos.mpr hn
  have hreached : 1 / 2 ≤ i.rawScore ↔
      i.neededRate ≤ wilsonLowerBound i.settledTasks i.taskCount := by
    rw [rawScore_eq hn]
    constructor <;> intro h <;> linarith
  rw [ne_eq, unrated_iff hn, not_lt, hreached, CreditInputs.Suffices]
  rcases le_or_gt i.neededRate 0 with hrate | hrate
  · simp [hrate, hrate.trans (wilsonLowerBound_nonneg _ _)]
  · rw [le_wilsonLowerBound_iff hpos hrate, or_iff_right hrate.not_ge]

/-- The penalties of shares of the tasks and of the challenges are all that lowers the score. -/
theorem rated_of_penalties (hn : 0 < i.taskCount)
    (h : (250 * i.slashedTasks + 150 * i.timeoutTasks + 75 * i.unsupportedTasks : ℝ) / i.taskCount +
      125 * (i.upheldChallenges / max 1 (i.challengedTasks : ℝ)) ≤ 299.5) :
    riskBand (computeAgentCreditScore i) ≠ .unrated := by
  rw [rated_iff hn]
  left
  have hlog : 0 ≤ Real.log (1 + i.totalSettledUSDC) / Real.log (1 + 100000) := by
    apply div_nonneg <;> exact Real.log_nonneg (by linarith [i.totalSettledUSDC.cast_nonneg (α := ℝ)])
  have hexperience : 0 ≤ min 100 (Real.log (1 + i.totalSettledUSDC) / Real.log (1 + 100000) * 100) :=
    le_min (by norm_num) (by positivity)
  have hverifiers : 0 ≤ min 75 (√(i.uniqueVerifierCount : ℝ) * 15) :=
    le_min (by norm_num) (by positivity)
  unfold CreditInputs.neededRate
  linarith

/-- Without settled tasks no positive rate passes. -/
theorem unrated_of_unsettled (hn : 0 < i.taskCount) (hsettled : i.settledTasks = 0)
    (hrate : 0 < i.neededRate) : riskBand (computeAgentCreditScore i) = .unrated := by
  rw [← not_not (a := riskBand _ = _), ← ne_eq, rated_iff hn, CreditInputs.Suffices, hsettled,
    or_iff_right hrate.not_ge, Nat.cast_zero]
  rintro ⟨hlow, hhigh⟩
  have hpos : (0 : ℝ) < i.taskCount * i.neededRate := mul_pos (Nat.cast_pos.mpr hn) hrate
  have hsmall : 1.96 ^ 2 * (1 - i.neededRate) ≤ i.taskCount * i.neededRate := by
    refine le_of_mul_le_mul_left ?_ hpos
    linarith
  linarith

theorem shares_le (hn : 0 < i.taskCount) (share : ℕ)
    (h : 250 * i.slashedTasks + 150 * i.timeoutTasks + 75 * i.unsupportedTasks ≤ share * i.taskCount) :
    (250 * i.slashedTasks + 150 * i.timeoutTasks + 75 * i.unsupportedTasks : ℝ) / i.taskCount ≤
      share := by
  rw [div_le_iff₀ (Nat.cast_pos.mpr hn)]
  exact_mod_cast h

/-- An agent without slashed tasks or without upheld challenges is rated. -/
theorem rated_of_states {receipts : List Receipt}
    (hn : 0 < (inputsFromReceipts receipts).taskCount)
    (h : (∀ r ∈ receipts, r.terminalState ≠ .challengeUpheld) ∨
      ∀ r ∈ receipts, r.terminalState ≠ .slashedInvalid ∧ r.terminalState ≠ .slashedTimeout) :
    riskBand (computeAgentCreditScoreFromReceipts receipts) ≠ .unrated := by
  have hnone : ∀ {p : TerminalState → Bool}, (∀ r ∈ receipts, p r.terminalState = false) →
      (receipts.map (·.terminalState)).countP p = 0 := by
    intro p hp
    simpa [List.countP_eq_zero] using hp
  have hslashedOnly : ∀ state : TerminalState, state ≠ .slashedInvalid ∧ state ≠ .slashedTimeout →
      TaskKind.slashed.counts state = false ∧ TaskKind.timeout.counts state = false := by
    intro state hstate
    cases state <;> simp at hstate <;> decide
  apply rated_of_penalties hn
  rcases h with h | h
  · have hupheld : (inputsFromReceipts receipts).upheldChallenges = 0 := hnone fun r hr => by
      have hr := h r hr
      cases hstate : r.terminalState <;> simp_all [TerminalState.text]
    have hshares := shares_le hn 250 (by unfold CreditInputs.taskCount; omega)
    rw [hupheld, Nat.cast_zero, zero_div, mul_zero, add_zero]
    norm_num at hshares ⊢
    linarith
  · have hslashed : (inputsFromReceipts receipts).slashedTasks = 0 := hnone fun r hr =>
      (hslashedOnly _ (h r hr)).1
    have htimeout : (inputsFromReceipts receipts).timeoutTasks = 0 := hnone fun r hr =>
      (hslashedOnly _ (h r hr)).2
    have hshares := shares_le hn 75 (by unfold CreditInputs.taskCount; omega)
    have hchallenges : (inputsFromReceipts receipts).upheldChallenges ≤
        (inputsFromReceipts receipts).challengedTasks := by
      refine List.countP_mono_left fun state _ => ?_
      cases state <;> decide
    have hratio : ((inputsFromReceipts receipts).upheldChallenges : ℝ) /
        max 1 ((inputsFromReceipts receipts).challengedTasks : ℝ) ≤ 1 := by
      rw [div_le_one (by positivity)]
      exact le_max_of_le_right (Nat.cast_le.mpr hchallenges)
    norm_num at hshares ⊢
    linarith

/-- A slashed task and an upheld challenge alone. -/
theorem unrated_of_states {state : TerminalState}
    (h : state = .slashedInvalid ∨ state = .slashedTimeout) :
    riskBand (computeAgentCreditScoreFromReceipts
      [⟨state, none, 0⟩, ⟨.challengeUpheld, none, 0⟩]) = .unrated := by
  have hinputs : inputsFromReceipts [⟨.slashedInvalid, none, 0⟩, ⟨.challengeUpheld, none, 0⟩] =
        ⟨0, 1, 0, 0, 1, 1, 1, 0⟩ ∧
      inputsFromReceipts [⟨.slashedTimeout, none, 0⟩, ⟨.challengeUpheld, none, 0⟩] =
        ⟨0, 1, 1, 0, 1, 1, 1, 0⟩ := by
    decide
  unfold computeAgentCreditScoreFromReceipts
  rcases h with rfl | rfl
  · rw [hinputs.1]
    refine unrated_of_unsettled (by decide) rfl ?_
    norm_num [CreditInputs.neededRate, CreditInputs.taskCount]
  · rw [hinputs.2]
    refine unrated_of_unsettled (by decide) rfl ?_
    norm_num [CreditInputs.neededRate, CreditInputs.taskCount]

/-- Every receipt is counted at most once exactly if none is for a task that timed out, and then the
counts sum up to at most the number of receipts.  An agent with history is rated exactly if its settled
tasks suffice for its penalties.  Among the agents with receipts of given states all with history are
rated exactly if the states do not have both a slashed task and an upheld challenge. -/
theorem credit_history_iff (receipts : List Receipt) (states : Set TerminalState) :
    ((∀ r ∈ receipts, timesCounted r.terminalState ≤ 1) ↔
      ∀ r ∈ receipts, r.terminalState ≠ .slashedTimeout) ∧
    ((∀ r ∈ receipts, timesCounted r.terminalState ≤ 1) →
      (inputsFromReceipts receipts).taskCount ≤ receipts.length) ∧
    (0 < (inputsFromReceipts receipts).taskCount →
      (riskBand (computeAgentCreditScoreFromReceipts receipts) ≠ .unrated ↔
        (inputsFromReceipts receipts).Suffices)) ∧
    ((∀ history, (∀ r ∈ history, r.terminalState ∈ states) →
        0 < (inputsFromReceipts history).taskCount →
          riskBand (computeAgentCreditScoreFromReceipts history) ≠ .unrated) ↔
      ¬ (.challengeUpheld ∈ states ∧ (.slashedInvalid ∈ states ∨ .slashedTimeout ∈ states))) := by
  refine ⟨forall₂_congr fun _ _ => timesCounted_le_one_iff, fun honce => ?_, rated_iff, ?_,
    fun hstates history hhistory hn => ?_⟩
  · rw [taskCount_inputs]
    have hsum := List.sum_le_card_nsmul (receipts.map fun r => timesCounted r.terminalState) 1
      (List.forall_mem_map.mpr honce)
    simpa using hsum
  · rintro hrated ⟨hupheld, hslashed⟩
    obtain ⟨state, hmem, hstate⟩ : ∃ state ∈ states,
        state = .slashedInvalid ∨ state = .slashedTimeout := by
      rcases hslashed with hmem | hmem
      · exact ⟨_, hmem, .inl rfl⟩
      · exact ⟨_, hmem, .inr rfl⟩
    refine hrated [⟨state, none, 0⟩, ⟨.challengeUpheld, none, 0⟩] ?_ ?_ (unrated_of_states hstate)
    · simpa using ⟨hmem, hupheld⟩
    · rcases hstate with rfl | rfl <;> decide
  · refine rated_of_states hn ?_
    by_contra hboth
    push Not at hboth
    obtain ⟨⟨r, hr, hupheld⟩, s, hs, hslashed⟩ := hboth
    refine hstates ⟨hupheld ▸ hhistory r hr, ?_⟩
    have hmem := hhistory s hs
    by_cases hinvalid : s.terminalState = .slashedInvalid
    · exact .inl (hinvalid ▸ hmem)
    · exact .inr (hslashed hinvalid ▸ hmem)

/-- Slashed tasks alone leave an agent rated. -/
theorem credit_history_sample : riskBand (computeAgentCreditScoreFromReceipts
    [⟨.slashedInvalid, some "verifier", 0⟩, ⟨.challengeRejected, none, 0⟩]) ≠ .unrated :=
  (credit_history_iff [] {.slashedInvalid, .challengeRejected}).2.2.2.mpr (by simp) _ (by simp)
    (by decide)

/-- A task that timed out is counted twice, and an agent with a slashed task and an upheld challenge is
unrated, with better limits than in the band E. -/
theorem bad_history_unrated :
    (inputsFromReceipts [⟨.slashedTimeout, none, 0⟩]).taskCount = 2 ∧
      (inputsFromReceipts [⟨.slashedInvalid, none, 0⟩, ⟨.challengeUpheld, none, 0⟩]).taskCount = 1 ∧
      riskBand (computeAgentCreditScoreFromReceipts
        [⟨.slashedInvalid, none, 0⟩, ⟨.challengeUpheld, none, 0⟩]) = .unrated ∧
      maxOpenExposureUSDC .E < maxOpenExposureUSDC .unrated ∧
      maxTaskPayoutUSDC .E < maxTaskPayoutUSDC .unrated := by
  exact ⟨by decide, by decide, unrated_of_states (.inl rfl), by decide, by decide⟩

end FlowMemory.AgentBonds.CreditScore
