import FlowMemory.AgentNetwork.BondLimits
import FlowMemory.AgentNetwork.LaunchConsent

/-! # What a launch pays

The owner of an intent signs the amounts of the bond and of the first fuel.  Whether the factory locks
the bond depends on the least bond of the class, and whether it deposits the fuel on the token of the
fuel: `launch_funding_iff` says when a launch funds the agent with what was signed. -/

namespace FlowMemory.AgentNetwork.AgentFactory

open Call AgentBonds ERC20SettlementToken

variable {τ : Type} [ERC20SettlementToken τ] {D : LaunchDeployment} {env : Env}
  {intent : LaunchIntent} {ownerSig : List UInt8} {payment : LaunchPayment}
  {w w' : WithTokens LaunchContracts τ}

/-! ### The signed amounts -/

/-- The tokens that the owner of an intent signed for. -/
def signedPulls (D : LaunchDeployment) (intent : LaunchIntent) (payer : Address) : List Pull :=
  (if intent.bondAmount ≠ 0 then [⟨D.bondEscrow, payer, intent.bondToken, intent.bondAmount⟩]
    else []) ++
  if intent.initialFuelAmount ≠ 0 then
    [⟨D.fuelVault, payer, intent.fuelToken, intent.initialFuelAmount⟩] else []

/-- The bond and the fuel of the agent are the signed ones, and the launch took them from the
payer. -/
structure Funded (D : LaunchDeployment) (intent : LaunchIntent) (ownerSig : List UInt8)
    (payment : LaunchPayment) (w w' : WithTokens LaunchContracts τ) : Prop where
  bondAmount : (w'.contract.bondEscrow.bonds (agentIdOf D intent)).amount = intent.bondAmount.val
  bond : intent.bondAmount ≠ 0 →
    (w'.contract.bondEscrow.bonds (agentIdOf D intent)).status = .locked ∧
      (w'.contract.bondEscrow.bonds (agentIdOf D intent)).token = intent.bondToken
  fuelAmount : (w'.contract.fuelVault.fuelAccounts (agentIdOf D intent)).balance =
    intent.initialFuelAmount.val
  fuel : intent.initialFuelAmount ≠ 0 →
    (w'.contract.fuelVault.fuelAccounts (agentIdOf D intent)).agentId = agentIdOf D intent ∧
      (w'.contract.fuelVault.fuelAccounts (agentIdOf D intent)).token = intent.fuelToken
  paid : pulls D w.contract (.launchAgent intent ownerSig payment) =
    signedPulls D intent (payerOf intent payment)

/-- The class asks for a bond if there is one, the fuel has a token if there is fuel, and where nothing
is paid the agent has nothing before the launch. -/
structure Fundable (D : LaunchDeployment) (intent : LaunchIntent) (c : LaunchContracts) : Prop where
  bond : intent.bondAmount ≠ 0 →
    ∀ classConfig ∈ c.registries.getClass intent.classId, classConfig.minLaunchBond ≠ 0
  noBond : intent.bondAmount = 0 → (c.bondEscrow.bonds (agentIdOf D intent)).amount = 0
  fuel : intent.initialFuelAmount ≠ 0 → intent.fuelToken ≠ 0
  noFuel : intent.initialFuelAmount = 0 → intent.fuelToken = 0 →
    (c.fuelVault.fuelAccounts (agentIdOf D intent)).balance = 0

/-! ### The amounts that are paid -/

/-- A launch takes the signed amounts exactly if both legs run. -/
theorem pulls_eq_signed_iff {classConfig : AgentClass} {payer : Address}
    (hpositive : classConfig.minLaunchBond ≠ 0 → intent.bondAmount ≠ 0) :
    bondPulls D intent classConfig payer ++ fuelPulls D intent payer = signedPulls D intent payer ↔
      (intent.bondAmount ≠ 0 → classConfig.minLaunchBond ≠ 0) ∧
        (intent.initialFuelAmount ≠ 0 → intent.fuelToken ≠ 0) := by
  unfold bondPulls fuelPulls signedPulls
  constructor
  · intro heq
    -- a leg that does not run leaves the list too short
    have hlength := congrArg List.length heq
    simp only [List.length_append] at hlength
    split_ifs at hlength <;> simp_all
  · rintro ⟨hbond, hfuel⟩
    have hbonded : intent.bondAmount ≠ 0 ↔ classConfig.minLaunchBond ≠ 0 := ⟨hbond, hpositive⟩
    have hfueled : intent.fuelToken ≠ 0 ∧ intent.initialFuelAmount ≠ 0 ↔
        intent.initialFuelAmount ≠ 0 := ⟨fun h => h.2, fun h => ⟨hfuel h, h⟩⟩
    simp only [hbonded, hfueled]

/-- A launch funds the agent with the signed amounts exactly if the class asks for the bond and the
fuel has a token. -/
theorem launch_funding_iff (h : launchAgent D env intent ownerSig payment w = .ok ((), w')) :
    pullAll (pulls D w.contract (.launchAgent intent ownerSig payment)) w.tokens = some w'.tokens ∧
      (Funded D intent ownerSig payment w w' ↔ Fundable D intent w.contract) := by
  have hcall : call D env (.launchAgent intent ownerSig payment) w = .ok ((), w') := h
  refine ⟨pulls_of_call hcall rfl, ?_⟩
  obtain ⟨classConfig, hlaunched⟩ := launchAgent_ok h
  have hclass := hlaunched.getClass
  have hmin := hlaunched.minLaunchBond_le
  have hbond := hlaunched.bond
  have hfuel := hlaunched.fuel
  have hpulls : pulls D w.contract (.launchAgent intent ownerSig payment) =
      bondPulls D intent classConfig (payerOf intent payment) ++
        fuelPulls D intent (payerOf intent payment) := by
    simp only [pulls, hclass]
  -- a class that asks for a bond has one that is not zero
  have hpositive : classConfig.minLaunchBond ≠ 0 → intent.bondAmount ≠ 0 := by
    intro hbonded hzero
    rw [hzero] at hmin
    exact hbonded (Fin.le_zero_iff.mp hmin)
  have hclasses : (∀ config ∈ w.contract.registries.getClass intent.classId,
      config.minLaunchBond ≠ 0) ↔ classConfig.minLaunchBond ≠ 0 := by
    rw [hclass]
    simp
  constructor
  · rintro ⟨hbondAmount, -, hfuelAmount, -, hpaid⟩
    rw [hpulls, pulls_eq_signed_iff hpositive] at hpaid
    refine ⟨fun hamount => hclasses.mpr (hpaid.1 hamount), fun hzero => ?_, hpaid.2,
      fun hzero htoken => ?_⟩
    · rw [if_neg fun hbonded => hpositive hbonded hzero] at hbond
      rw [hbond, hzero] at hbondAmount
      exact hbondAmount
    · rw [if_neg (not_not_intro htoken)] at hfuel
      rw [hfuel, hzero] at hfuelAmount
      exact hfuelAmount
  · rintro ⟨hasks, hnoBond, htoken, hnoFuel⟩
    have hbonded : intent.bondAmount ≠ 0 → classConfig.minLaunchBond ≠ 0 :=
      fun hamount => hclasses.mp (hasks hamount)
    have hpaid : pulls D w.contract (.launchAgent intent ownerSig payment) =
        signedPulls D intent (payerOf intent payment) := by
      rw [hpulls]
      exact (pulls_eq_signed_iff hpositive).mpr ⟨hbonded, htoken⟩
    have hfueled : (w'.contract.fuelVault.fuelAccounts (agentIdOf D intent)).balance =
        intent.initialFuelAmount.val := by
      by_cases hzero : intent.fuelToken = 0
      · have hamount : intent.initialFuelAmount = 0 := by
          by_contra hamount
          exact htoken hamount hzero
        rw [if_neg (not_not_intro hzero)] at hfuel
        rw [hfuel, hamount]
        exact hnoFuel hamount hzero
      · rw [if_pos hzero] at hfuel
        exact hfuel.1
    have hescrowed : (w'.contract.bondEscrow.bonds (agentIdOf D intent)).amount =
        intent.bondAmount.val := by
      by_cases hzero : intent.bondAmount = 0
      · rw [if_neg fun hmin => hpositive hmin hzero] at hbond
        rw [hbond, hzero]
        exact hnoBond hzero
      · rw [if_pos (hbonded hzero)] at hbond
        exact hbond.1
    refine ⟨hescrowed, fun hamount => ?_, hfueled, fun hamount => ?_, hpaid⟩
    · rw [if_pos (hbonded hamount)] at hbond
      exact ⟨hbond.status, hbond.token⟩
    · rw [if_pos (htoken hamount)] at hfuel
      exact ⟨hfuel.agentId, hfuel.token⟩

/-! ### Unfunded agents -/

/-- The intent of the account 2 with a bond of 100 and fuel of 50 without a token. -/
def unfundedIntent : LaunchIntent :=
  { sampleIntent 2 0 1 0 0 50 with bondToken := 5, bondAmount := 100 }

/-- The class asks for no bond and the fuel has no token: the agent is launched with neither the bond
nor the fuel that its owner signed, and nothing is paid. -/
theorem agent_launched_unfunded : ∃ steps w w',
    Trace (LaunchStep sampleDeployment) sampleContracts steps w ∧
      steps.map (·.label) = sampleSetup ∧
      launchAgent sampleDeployment ⟨2, 10⟩ unfundedIntent (sampleSignature 2) ⟨false, 0⟩ w =
        .ok ((), w') ∧
      (w'.contract.bondEscrow.bonds 1).amount = 0 ∧
      (w'.contract.fuelVault.fuelAccounts 1).balance = 0 ∧
      pulls sampleDeployment w.contract
        (.launchAgent unfundedIntent (sampleSignature 2) ⟨false, 0⟩) = [] ∧
      (signedPulls sampleDeployment unfundedIntent 2).length = 2 := by
  obtain ⟨steps, w, htrace, hlabels, hpulls, ⟨⟨⟨⟩, w'⟩, hlaunch, hbond, hfuel⟩⟩ : ∃ steps w,
      Trace (LaunchStep sampleDeployment) sampleContracts steps w ∧
        steps.map (·.label) = sampleSetup ∧
        (pulls sampleDeployment w.contract
          (.launchAgent unfundedIntent (sampleSignature 2) ⟨false, 0⟩)).length = 0 ∧
        ∃ l ∈ (launchAgent sampleDeployment ⟨2, 10⟩ unfundedIntent (sampleSignature 2) ⟨false, 0⟩
            w).toOption, (l.2.contract.bondEscrow.bonds 1).amount = 0 ∧
          (l.2.contract.fuelVault.fuelAccounts 1).balance = 0 :=
    Trace.exists_of_execute launchStep_of_exec (by decide +kernel)
  exact ⟨steps, w, w', htrace, hlabels, toOption_eq_some.mp hlaunch, hbond, hfuel,
    List.length_eq_zero_iff.mp hpulls, by decide +kernel⟩

/-- The account 2 launches an agent with fuel and without a bond. -/
theorem launch_funding_sample : ∃ w w' : WithTokens LaunchContracts TestToken,
    launchAgent sampleDeployment ⟨2, 10⟩ (sampleIntent 2 0 1 0 5 100) (sampleSignature 2) ⟨false, 0⟩
        w = .ok ((), w') ∧
      Funded sampleDeployment (sampleIntent 2 0 1 0 5 100) (sampleSignature 2) ⟨false, 0⟩ w w' := by
  obtain ⟨-, w, -, -, hbond, ⟨⟨⟨⟩, w'⟩, hlaunch, -⟩⟩ : ∃ steps w,
      Trace (LaunchStep sampleDeployment) sampleContracts steps w ∧
        steps.map (·.label) = sampleSetup ∧ (w.contract.bondEscrow.bonds 1).amount = 0 ∧
        ∃ l ∈ (launchAgent sampleDeployment ⟨2, 10⟩ (sampleIntent 2 0 1 0 5 100) (sampleSignature 2)
          ⟨false, 0⟩ w).toOption, True :=
    Trace.exists_of_execute launchStep_of_exec (by decide +kernel)
  have hcall := toOption_eq_some.mp hlaunch
  refine ⟨w, w', hcall, (launch_funding_iff hcall).2.mpr ⟨?_, fun _ => hbond, ?_, ?_⟩⟩
  · intro hamount
    exact absurd rfl hamount
  · intro _
    decide
  · intro hamount
    exact absurd hamount (by decide)

end FlowMemory.AgentNetwork.AgentFactory
