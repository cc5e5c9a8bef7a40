import Mathlib.Algebra.Order.BigOperators.Group.List
import Mathlib.Algebra.Order.Group.Nat
import FlowMemory.AgentNetwork.AgentFactory

/-! # Who pays for agents

The bond escrow and the fuel vault pull tokens from a **payer** that the caller names, and a launch
takes its payer from the payment that the signature of the owner does not cover.  A pull is
**consented** if the payer signed the intent of the launch or sent the call.  `launch_consent_iff` says
that in all parts of a run the pulled tokens are consented exactly if each call names its sender or
the owner of the intent as the payer. -/

namespace FlowMemory.AgentNetwork.AgentFactory

open Call AgentBonds ERC20SettlementToken

variable {τ : Type} [ERC20SettlementToken τ] {D : LaunchDeployment} {env : Env}
  {w w' : WithTokens LaunchContracts τ} {msg : Msg} {p token : Address} {l : Option (Env × Msg)}

/-! ### Pulled tokens -/

/-- What a call pulls from payers (`pulls_of_call`). -/
def pulls (D : LaunchDeployment) (c : LaunchContracts) : Msg → List Pull
  | .launchAgent intent _ payment =>
    match c.registries.getClass intent.classId with
    | some classConfig => bondPulls D intent classConfig (payerOf intent payment) ++
        fuelPulls D intent (payerOf intent payment)
    | none => []
  | .bondEscrow (.lockLaunchBond _ payer _ _ token amount _) =>
    [⟨D.bondEscrow, payer, token, amount⟩]
  | .fuelVault (.depositFuel _ payer token amount) => [⟨D.fuelVault, payer, token, amount⟩]
  | _ => []

/-- The calls by which the escrow and the vault pay out. -/
def isPayout : Msg → Bool
  | .bondEscrow (.releaseBond _) => true
  | .fuelVault (.refundFuel _ _ _) => true
  | _ => false

/-- The pulls are what a call does to the tokens, unless it pays out. -/
theorem pulls_of_call (h : call D env msg w = .ok ((), w')) (hmsg : isPayout msg = false) :
    pullAll (pulls D w.contract msg) w.tokens = some w'.tokens := by
  cases msg with
  | launchAgent intent sig payment =>
    obtain ⟨classConfig, hlaunched⟩ := launchAgent_ok h
    simp only [pulls, hlaunched.getClass]
    exact hlaunched.pulled
  | bondEscrow msg =>
    cases msg with
    | lockLaunchBond agentId payer beneficiary classId token amount policyRoot =>
      exact (lockLaunchBond_pulls h).1
    | releaseBond agentId => cases hmsg
    | _ =>
      simp only [call, inBondEscrow, within_ok, AgentLaunchBondEscrow.call, onContract_ok] at h
      obtain ⟨_, ⟨_, _, rfl⟩, rfl⟩ := h
      rfl
  | fuelVault msg =>
    cases msg with
    | depositFuel agentId payer token amount => exact (depositFuel_pulls h).2.1
    | refundFuel agentId recipient amount => cases hmsg
    | _ =>
      simp only [call, inFuelVault, within_ok, AgentMemoryFuelVault.call, onContract_ok] at h
      obtain ⟨_, ⟨_, _, rfl⟩, rfl⟩ := h
      rfl
  | _ =>
    obtain ⟨_, _, rfl⟩ := onContract_ok.mp h
    rfl

/-- The tokens that are pulled from `p`. -/
def pulledFrom (p token : Address) (ps : List Pull) : ℕ :=
  (ps.map fun q => if q.payer = p ∧ q.token = token then q.amount.val else 0).sum

/-- The amounts of an intent in a token. -/
def intentAmount (intent : LaunchIntent) (token : Address) : ℕ :=
  (if intent.bondToken = token then intent.bondAmount.val else 0) +
    if intent.fuelToken = token then intent.initialFuelAmount.val else 0

/-- The amounts to which `p` consents with a call: those of an intent that `p` signed and those of a
call that `p` sent. -/
def consentOf (D : LaunchDeployment) (p token : Address) (env : Env) : Msg → ℕ
  | .launchAgent intent sig _ =>
    (if recoveredSigner D intent sig = p then intentAmount intent token else 0) +
      if env.sender = p then intentAmount intent token else 0
  | .bondEscrow (.lockLaunchBond _ _ _ _ asset amount _) =>
    if env.sender = p ∧ asset = token then amount.val else 0
  | .fuelVault (.depositFuel _ _ asset amount) =>
    if env.sender = p ∧ asset = token then amount.val else 0
  | _ => 0

/-- The call names its sender or the owner of the intent as the payer, or it pulls nothing. -/
def Asked (c : LaunchContracts) (env : Env) : Msg → Prop
  | .launchAgent intent _ payment =>
    payment.sponsorMode = false ∨ payment.sponsor = intent.owner ∨ payment.sponsor = env.sender ∨
      ((∀ classConfig ∈ c.registries.getClass intent.classId, classConfig.minLaunchBond = 0) ∧
        (intent.fuelToken = 0 ∨ intent.initialFuelAmount = 0))
  | .bondEscrow (.lockLaunchBond _ payer _ _ _ amount _) => payer = env.sender ∨ amount = 0
  | .fuelVault (.depositFuel _ payer _ _) => payer = env.sender
  | _ => True

/-! ### One call -/

section launch

variable {intent : LaunchIntent} {classConfig : AgentClass} {payer : Address}

theorem pulledFrom_append {ps qs : List Pull} :
    pulledFrom p token (ps ++ qs) = pulledFrom p token ps + pulledFrom p token qs := by
  simp [pulledFrom]

theorem pulledFrom_singleton {into asset : Address} {amount : Uint256} :
    pulledFrom p token [⟨into, payer, asset, amount⟩] =
      if payer = p ∧ asset = token then amount.val else 0 := by
  simp [pulledFrom]

/-- A launch pulls at most the amounts of its intent, and only from its payer. -/
theorem pulledFrom_launch_le :
    pulledFrom p token (bondPulls D intent classConfig payer ++ fuelPulls D intent payer) ≤
      if payer = p then intentAmount intent token else 0 := by
  have hbond : pulledFrom p token (bondPulls D intent classConfig payer) ≤
      if payer = p ∧ intent.bondToken = token then intent.bondAmount.val else 0 := by
    unfold bondPulls
    split
    · exact pulledFrom_singleton.le
    · exact Nat.zero_le _
  have hfuel : pulledFrom p token (fuelPulls D intent payer) ≤
      if payer = p ∧ intent.fuelToken = token then intent.initialFuelAmount.val else 0 := by
    unfold fuelPulls
    split
    · exact pulledFrom_singleton.le
    · exact Nat.zero_le _
  rw [pulledFrom_append]
  by_cases hp : payer = p
  · simp only [hp, true_and, if_true] at hbond hfuel ⊢
    exact Nat.add_le_add hbond hfuel
  · simp only [hp, false_and, if_false] at hbond hfuel ⊢
    omega

theorem launch_pulls_nil (hbond : classConfig.minLaunchBond = 0)
    (hfuel : intent.fuelToken = 0 ∨ intent.initialFuelAmount = 0) :
    bondPulls D intent classConfig payer ++ fuelPulls D intent payer = [] := by
  unfold bondPulls fuelPulls
  rw [if_neg (not_not_intro hbond), if_neg, List.append_nil]
  rintro ⟨htoken, hamount⟩
  exact hfuel.elim htoken hamount

/-- A launch that pulls something pulls it from its payer. -/
theorem exists_pulledFrom (D : LaunchDeployment) (payer : Address)
    (hmin : classConfig.minLaunchBond ≤ intent.bondAmount)
    (hpulls : ¬ (classConfig.minLaunchBond = 0 ∧
      (intent.fuelToken = 0 ∨ intent.initialFuelAmount = 0))) :
    ∃ token, 0 < pulledFrom payer token
      (bondPulls D intent classConfig payer ++ fuelPulls D intent payer) := by
  by_cases hbond : classConfig.minLaunchBond = 0
  · have hfuel : intent.fuelToken ≠ 0 ∧ intent.initialFuelAmount ≠ 0 := by
      by_contra hnot
      exact hpulls ⟨hbond, by tauto⟩
    refine ⟨intent.fuelToken, ?_⟩
    rw [pulledFrom_append]
    unfold fuelPulls
    rw [if_pos hfuel, pulledFrom_singleton, if_pos ⟨rfl, rfl⟩]
    exact Nat.add_pos_right _ (Fin.pos_iff_ne_zero.mpr hfuel.2)
  · refine ⟨intent.bondToken, ?_⟩
    rw [pulledFrom_append]
    unfold bondPulls
    rw [if_pos hbond, pulledFrom_singleton, if_pos ⟨rfl, rfl⟩]
    exact Nat.add_pos_left (lt_of_lt_of_le (Fin.pos_iff_ne_zero.mpr hbond) hmin) _

end launch

/-- A call that names its payer as it should pulls only what the payers consent to. -/
theorem pulledFrom_le_consentOf (h : call D env msg w = .ok ((), w'))
    (hasked : Asked w.contract env msg) :
    pulledFrom p token (pulls D w.contract msg) ≤ consentOf D p token env msg := by
  cases msg with
  | launchAgent intent sig payment =>
    obtain ⟨classConfig, hlaunched⟩ := launchAgent_ok h
    simp only [pulls, hlaunched.getClass, consentOf, hlaunched.signed]
    by_cases hnothing : classConfig.minLaunchBond = 0 ∧
        (intent.fuelToken = 0 ∨ intent.initialFuelAmount = 0)
    · rw [launch_pulls_nil hnothing.1 hnothing.2]
      exact Nat.zero_le _
    · have hpayer : payerOf intent payment = intent.owner ∨
          payerOf intent payment = env.sender := by
        unfold payerOf
        rcases hasked with hmode | hsponsor | hsponsor | ⟨hbond, hfuel⟩
        · exact .inl (if_neg (by simp [hmode]))
        · exact .inl (by split <;> simp [hsponsor])
        · by_cases hmode : payment.sponsorMode = true
          · exact .inr (by rw [if_pos hmode, hsponsor])
          · exact .inl (if_neg hmode)
        · exact absurd ⟨hbond classConfig hlaunched.getClass, hfuel⟩ hnothing
      refine pulledFrom_launch_le.trans ?_
      by_cases hp : payerOf intent payment = p
      · rw [if_pos hp]
        rcases hpayer with howner | hsender
        · rw [if_pos (howner.symm.trans hp)]
          exact Nat.le_add_right _ _
        · rw [if_pos (hsender.symm.trans hp)]
          exact Nat.le_add_left _ _
      · rw [if_neg hp]
        exact Nat.zero_le _
  | bondEscrow msg =>
    cases msg with
    | lockLaunchBond agentId payer beneficiary classId asset amount policyRoot =>
      simp only [pulls, consentOf, pulledFrom_singleton]
      rcases hasked with rfl | rfl
      · exact le_rfl
      · simp
    | _ => exact Nat.zero_le _
  | fuelVault msg =>
    cases msg with
    | depositFuel agentId payer asset amount =>
      cases hasked
      simp only [pulls, consentOf, pulledFrom_singleton]
      exact le_rfl
    | _ => exact Nat.zero_le _
  | _ => exact Nat.zero_le _

/-- A call that does not name its payer as it should pulls more than the payer consents to. -/
theorem exists_consentOf_lt_pulledFrom (h : call D env msg w = .ok ((), w'))
    (hasked : ¬ Asked w.contract env msg) :
    ∃ p token, consentOf D p token env msg < pulledFrom p token (pulls D w.contract msg) := by
  cases msg with
  | launchAgent intent sig payment =>
    obtain ⟨classConfig, hlaunched⟩ := launchAgent_ok h
    simp only [Asked, not_or] at hasked
    obtain ⟨hmode, howner, hsender, hnothing⟩ := hasked
    have hpayer : payerOf intent payment = payment.sponsor := if_pos (by simpa using hmode)
    have hpulls : ¬ (classConfig.minLaunchBond = 0 ∧
        (intent.fuelToken = 0 ∨ intent.initialFuelAmount = 0)) := fun hzero =>
      hnothing ⟨fun c hc => by
        rw [hlaunched.getClass] at hc
        cases hc
        exact hzero.1, hzero.2⟩
    obtain ⟨token, htoken⟩ := exists_pulledFrom D payment.sponsor hlaunched.minLaunchBond_le
      hpulls
    refine ⟨payment.sponsor, token, ?_⟩
    simp only [pulls, hlaunched.getClass, consentOf, hlaunched.signed, hpayer]
    rw [if_neg (Ne.symm howner), if_neg (Ne.symm hsender)]
    exact htoken
  | bondEscrow msg =>
    cases msg with
    | lockLaunchBond agentId payer beneficiary classId asset amount policyRoot =>
      simp only [Asked, not_or] at hasked
      refine ⟨payer, asset, ?_⟩
      simp only [pulls, consentOf, pulledFrom_singleton]
      rw [if_neg fun hboth => hasked.1 hboth.1.symm, if_pos (by simp)]
      exact Fin.pos_iff_ne_zero.mpr hasked.2
    | _ => exact absurd trivial hasked
  | fuelVault msg =>
    cases msg with
    | depositFuel agentId payer asset amount =>
      have hamount := (depositFuel_pulls h).1
      refine ⟨payer, asset, ?_⟩
      simp only [pulls, consentOf, pulledFrom_singleton]
      rw [if_neg fun hboth => hasked hboth.1.symm, if_pos (by simp)]
      exact Fin.pos_iff_ne_zero.mpr hamount
    | _ => exact absurd trivial hasked
  | _ => exact absurd trivial hasked

/-! ### Runs -/

/-- A step of a run. -/
abbrev LaunchTraceStep (τ : Type) : Type :=
  TraceStep (WithTokens LaunchContracts τ) (Option (Env × Msg))

/-- The tokens that the calls of a run pull from `p`. -/
def totalPulled (D : LaunchDeployment) (p token : Address) (steps : List (LaunchTraceStep τ)) : ℕ :=
  (steps.map fun t => (t.label.map fun c =>
    pulledFrom p token (pulls D t.before.contract c.2)).getD 0).sum

/-- The amounts to which `p` consents in a run. -/
def totalConsent (D : LaunchDeployment) (p token : Address) (steps : List (LaunchTraceStep τ)) : ℕ :=
  (steps.map fun t => (t.label.map fun c => consentOf D p token c.1 c.2).getD 0).sum

def launchedIntent : Msg → Option LaunchIntent
  | .launchAgent intent _ _ => some intent
  | _ => none

/-- The intents that were launched. -/
def launchedIntents (steps : List (LaunchTraceStep τ)) : List LaunchIntent :=
  steps.filterMap fun t => t.label.bind fun c => launchedIntent c.2

/-- An intent that was launched stays consumed. -/
theorem consumed_mono (hstep : LaunchStep D w l w') {hash : Bytes32}
    (h : w.contract.factory.consumedLaunchIntent hash = true) :
    w'.contract.factory.consumedLaunchIntent hash = true := by
  cases hstep with
  | others => exact h
  | @call env msg _ _ hcall =>
    cases msg with
    | launchAgent intent sig payment =>
      obtain ⟨classConfig, hlaunched⟩ := launchAgent_ok hcall
      rw [hlaunched.consumed]
      by_cases hhash : hash = D.launchIntentStructHash intent
      · rw [hhash, Function.update_self]
      · rw [Function.update_of_ne hhash]
        exact h
    | _ =>
      rw [(notLaunched_of_call (fun _ _ _ h => by cases h) hcall).consumed]
      exact h

/-- A launched intent was fresh and is consumed. -/
theorem consumed_of_launched {intent : LaunchIntent}
    (hstep : LaunchStep D w l w') (hl : (l.bind fun c => launchedIntent c.2) = some intent) :
    w.contract.factory.consumedLaunchIntent (D.launchIntentStructHash intent) = false ∧
      w'.contract.factory.consumedLaunchIntent (D.launchIntentStructHash intent) = true := by
  cases hstep with
  | others => cases hl
  | @call env msg _ _ hcall =>
    cases msg with
    | launchAgent intent' sig payment =>
      cases hl
      obtain ⟨classConfig, hlaunched⟩ := launchAgent_ok hcall
      rw [hlaunched.consumed, Function.update_self]
      exact ⟨hlaunched.fresh, rfl⟩
    | _ => cases hl

variable {steps : List (LaunchTraceStep τ)}

theorem fresh_of_launched (htrace : Trace (LaunchStep D) w steps w') {intent : LaunchIntent}
    (h : intent ∈ launchedIntents steps) :
    w.contract.factory.consumedLaunchIntent (D.launchIntentStructHash intent) = false := by
  induction htrace with
  | nil => cases h
  | @cons s s' _ l _ hstep _ ih =>
    obtain ⟨t, ht, hintent⟩ := List.mem_filterMap.mp h
    rcases List.mem_cons.mp ht with rfl | hrest
    · exact (consumed_of_launched hstep hintent).1
    · have hlater := ih (List.mem_filterMap.mpr ⟨t, hrest, hintent⟩)
      by_contra hconsumed
      have hkept := consumed_mono hstep (Bool.eq_true_of_not_eq_false hconsumed)
      rw [hlater] at hkept
      cases hkept

/-- An intent is launched once. -/
theorem launchedIntents_nodup (htrace : Trace (LaunchStep D) w steps w') :
    (launchedIntents steps).Nodup := by
  induction htrace with
  | nil => exact List.nodup_nil
  | @cons s s' _ l rest hstep hrest ih =>
    unfold launchedIntents
    rw [List.filterMap_cons]
    split
    · exact ih
    case h_2 intent hintent =>
      refine List.nodup_cons.mpr ⟨fun hagain => ?_, ih⟩
      have hfresh := fresh_of_launched hrest hagain
      rw [(consumed_of_launched hstep hintent).2] at hfresh
      cases hfresh

/-- The tokens pulled in a run are consented. -/
def Covered (D : LaunchDeployment) (steps : List (LaunchTraceStep τ)) : Prop :=
  ∀ p token, totalPulled D p token steps ≤ totalConsent D p token steps

theorem covered_step_iff (hstep : LaunchStep D w l w') :
    Covered D [⟨w, l, w'⟩] ↔ ∀ c ∈ l, Asked w.contract c.1 c.2 := by
  cases hstep with
  | others => exact iff_of_true (fun _ _ => le_rfl) nofun
  | @call env msg _ _ hcall =>
    simp only [Covered, totalPulled, totalConsent, List.map_cons, List.map_nil, Option.map_some,
      Option.getD_some, List.sum_cons, List.sum_nil, Nat.add_zero, Option.mem_def,
      Option.some.injEq, forall_eq']
    refine ⟨fun hcovered => ?_, fun hasked p token => pulledFrom_le_consentOf hcall hasked⟩
    by_contra hasked
    obtain ⟨p, token, hlt⟩ := exists_consentOf_lt_pulledFrom hcall hasked
    exact absurd (hcovered p token) (Nat.not_le.mpr hlt)

omit [ERC20SettlementToken τ] in
/-- All parts of a run are covered exactly if its steps are. -/
theorem covered_parts_iff :
    (∀ part, part <:+: steps → Covered D part) ↔ ∀ t ∈ steps, Covered D [t] := by
  constructor
  · intro hparts t ht
    obtain ⟨before, after, rfl⟩ := List.append_of_mem ht
    exact hparts [t] ⟨before, after, by simp⟩
  · intro hsteps part hpart p token
    refine List.sum_le_sum fun t ht => ?_
    have hstep := hsteps t (hpart.subset ht) p token
    simpa only [totalPulled, totalConsent, List.map_cons, List.map_nil, List.sum_cons, List.sum_nil,
      Nat.add_zero] using hstep

/-- Every intent is launched at most once, and in all parts of a run the tokens pulled from an account
are at most the amounts to which it consents exactly if all calls ask their payers. -/
theorem launch_consent_iff (htrace : Trace (LaunchStep D) w steps w') :
    (launchedIntents steps).Nodup ∧
      ((∀ part, part <:+: steps → ∀ p token,
        totalPulled D p token part ≤ totalConsent D p token part) ↔
      ∀ t ∈ steps, ∀ c ∈ t.label, Asked t.before.contract c.1 c.2) := by
  refine ⟨launchedIntents_nodup htrace, covered_parts_iff.trans ?_⟩
  exact htrace.forall_iff (I := fun _ => True) (P := fun t => Covered D [t])
    (C := fun w l => ∀ c ∈ l, Asked w.contract c.1 c.2)
    (fun hstep _ hasked => ⟨trivial, (covered_step_iff hstep).mpr hasked⟩)
    (fun hstep _ hasked hcovered => hasked ((covered_step_iff hstep).mp hcovered)) trivial

/-! ### Fuel for another account -/

/-- The account 2 launches its own agent, names the account 3 as the sponsor of 100 tokens, deposits
another 100 tokens of the account 3 and takes out the 200 tokens. -/
def fuelOfAnother : List (Option (Env × Msg)) :=
  sampleSetup ++
    [some (⟨2, 10⟩, .launchAgent (sampleIntent 2 0 1 0 5 100) (sampleSignature 2) ⟨true, 3⟩),
      some (⟨2, 10⟩, .fuelVault (.depositFuel 1 3 5 100)),
      some (⟨2, 10⟩, .fuelVault (.refundFuel 1 2 200))]

/-- The account 3 signs and sends nothing and loses 200 tokens to the account 2. -/
theorem fuel_pulled_without_consent : ∃ steps w,
    Trace (LaunchStep sampleDeployment) sampleContracts steps w ∧
      steps.map (·.label) = fuelOfAnother ∧ totalPulled sampleDeployment 3 5 steps = 200 ∧
      totalConsent sampleDeployment 3 5 steps = 0 ∧ balanceOf 3 (w.tokens 5) = 800 ∧
      balanceOf 2 (w.tokens 5) = 1200 := by
  exact Trace.exists_of_execute launchStep_of_exec (by decide +kernel)

/-- The account 2 pays the fuel of its agent. -/
def ownFuel : List (Option (Env × Msg)) :=
  sampleSetup ++
    [some (⟨2, 10⟩, .launchAgent (sampleIntent 2 0 1 0 5 100) (sampleSignature 2) ⟨false, 0⟩),
      some (⟨2, 10⟩, .fuelVault (.depositFuel 1 2 5 100))]

theorem launch_consent_iff_sample : ∃ steps w,
    Trace (LaunchStep sampleDeployment) sampleContracts steps w ∧
      steps.map (·.label) = ownFuel ∧ totalPulled sampleDeployment 2 5 steps = 200 ∧
      ∀ part, part <:+: steps → ∀ p token,
        totalPulled sampleDeployment p token part ≤ totalConsent sampleDeployment p token part := by
  obtain ⟨steps, w, htrace, hlabels, hpulled⟩ : ∃ steps w,
      Trace (LaunchStep sampleDeployment) sampleContracts steps w ∧
        steps.map (·.label) = ownFuel ∧ totalPulled sampleDeployment 2 5 steps = 200 :=
    Trace.exists_of_execute launchStep_of_exec (by decide +kernel)
  refine ⟨steps, w, htrace, hlabels, hpulled, (launch_consent_iff htrace).2.mpr fun t ht c hc => ?_⟩
  have hmem : t.label ∈ ownFuel := hlabels ▸ List.mem_map_of_mem ht
  rw [hc] at hmem
  simp only [ownFuel, sampleSetup, List.cons_append, List.nil_append, List.mem_cons,
    Option.some.injEq, List.not_mem_nil, or_false] at hmem
  rcases hmem with rfl | rfl | rfl | rfl | rfl | rfl | rfl
  · trivial
  · trivial
  · trivial
  · trivial
  · trivial
  · exact .inl rfl
  · rfl

end FlowMemory.AgentNetwork.AgentFactory
