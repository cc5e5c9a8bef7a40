import FlowMemory.AgentBonds.Basic

/-! # The stake registry

Agents and verifiers deposit stake.  The **capacity** of an agent, the bonds it may have open at
one time, is a multiple of the square of a square root of its stake, and the slash authority
records the bonds that are open. -/

namespace FlowMemory.AgentBonds

open Call ERC20SettlementToken Function

structure AgentStakeRegistry where
  ownable : TwoStepOwnable
  (slashAuthority slashReceiver : Address)
  (minAgentStake minVerifierStake capacityUnit capacityBondUnit : ℕ)
  (stakeOf openBondExposure slashedStake : Address → ℕ)

inductive StakeError where
  | ownable (e : OwnableError)
  | notSlashAuthority (caller : Address)
  | zeroAccount
  | zeroAmount
  | zeroCapacityUnit
  | insufficientStake (account : Address) (available requested : ℕ)
  | openExposure (account : Address) (exposure : ℕ)
  | transferFailed
  | panic

namespace AgentStakeRegistry

/-- The registry after its constructor, which refuses capacity units of zero. -/
def deployed (initialOwner : Address)
    (minAgentStake minVerifierStake capacityUnit capacityBondUnit : Uint256) :
    AgentStakeRegistry where
  ownable := ⟨initialOwner, 0⟩
  slashAuthority := 0
  slashReceiver := initialOwner
  minAgentStake
  minVerifierStake
  capacityUnit
  capacityBondUnit
  stakeOf := fun _ => 0
  openBondExposure := fun _ => 0
  slashedStake := fun _ => 0

/-! ### The square root -/

/-- Halve the number of bits of `x` that are left, and shift the guess along. -/
def sqrtShift (s : ℕ × ℕ) (bits : ℕ) : ℕ × ℕ :=
  if s.1 ≥ 2 ^ bits then (s.1 >>> bits, s.2 <<< (bits / 2)) else s

/-- The first guess, a power of two. -/
def sqrtGuess (value : ℕ) : ℕ := ([128, 64, 32, 16, 8, 4, 2].foldl sqrtShift (value, 1)).2

/-- One Newton step. -/
def sqrtStep (value result : ℕ) : Option ℕ :=
  if result = 0 then none else (addChecked 256 result (value / result)).map (· >>> 1)

def sqrtLoop (value : ℕ) : ℕ → ℕ → Option ℕ
  | 0, result => some result
  | n + 1, result => (sqrtStep value result).bind (sqrtLoop value n)

/-- Five Newton steps from the guess, and the smaller of the result and its cofactor. -/
def sqrt (value : ℕ) : Option ℕ :=
  if value = 0 then some 0
  else (sqrtLoop value 5 (sqrtGuess value)).bind fun result =>
    if result = 0 then none
    else some (if result < value / result then result else value / result)

/-! ### Views -/

def isAgentEligible (r : AgentStakeRegistry) (agent : Address) : Bool :=
  decide (r.stakeOf agent ≥ r.minAgentStake)

def isVerifierEligible (r : AgentStakeRegistry) (verifier : Address) : Bool :=
  decide (r.stakeOf verifier ≥ r.minVerifierStake)

/-- The capacity units of a stake. -/
def capacityUnitsAt (r : AgentStakeRegistry) (stake : ℕ) : Option ℕ :=
  if r.capacityUnit = 0 then none else sqrt (stake / r.capacityUnit)

def capacityUnits (r : AgentStakeRegistry) (agent : Address) : Option ℕ :=
  r.capacityUnitsAt (r.stakeOf agent)

/-- The bonds that a stake allows. -/
def maxOpenBondAt (r : AgentStakeRegistry) (stake : ℕ) : Option ℕ :=
  (r.capacityUnitsAt stake).bind fun units =>
    if units = 0 then some 0
    else (mulChecked 256 r.capacityBondUnit units).bind fun product => mulChecked 256 product units

def maxOpenBond (r : AgentStakeRegistry) (agent : Address) : Option ℕ :=
  r.maxOpenBondAt (r.stakeOf agent)

def canOpenAgentBond (r : AgentStakeRegistry) (agent : Address) (additionalBond : ℕ) :
    Option Bool :=
  if r.isAgentEligible agent = false then some false
  else (addChecked 256 (r.openBondExposure agent) additionalBond).bind fun exposure =>
    (r.maxOpenBond agent).map fun capacity => decide (exposure ≤ capacity)

/-! ### Calls -/

variable {τ : Type} [ERC20SettlementToken τ]

/-- The calls that do not use the token. -/
abbrev StakeAction : Type → Type := Call AgentStakeRegistry StakeError

abbrev StakeTokenAction (τ : Type) : Type → Type :=
  Call (WithToken AgentStakeRegistry τ) StakeError

variable (self : Address) (env : Env)

def onlyOwner : StakeAction Unit :=
  within AgentStakeRegistry.ownable (fun r o => { r with ownable := o }) .ownable
    (TwoStepOwnable.onlyOwner env)

def onlySlashAuthority : StakeAction Unit := do
  let r ← get
  revertIf (env.sender ≠ r.slashAuthority) (.notSlashAuthority env.sender)

def setParameters (minAgentStake minVerifierStake capacityUnit capacityBondUnit : ℕ) :
    StakeAction Unit := do
  onlyOwner env
  revertIf (capacityUnit = 0 ∨ capacityBondUnit = 0) .zeroCapacityUnit
  modify fun r => { r with
    minAgentStake, minVerifierStake
    capacityUnit, capacityBondUnit }

def setSlashAuthority (authority : Address) : StakeAction Unit := do
  onlyOwner env
  revertIf (authority = 0) .zeroAccount
  modify fun r => { r with slashAuthority := authority }

def setSlashReceiver (receiver : Address) : StakeAction Unit := do
  onlyOwner env
  revertIf (receiver = 0) .zeroAccount
  modify fun r => { r with slashReceiver := receiver }

def depositStake (amount : ℕ) : StakeTokenAction τ Unit := do
  revertIf (amount = 0) .zeroAmount
  let s ← get
  let stake ← okOr (addChecked 256 (s.contract.stakeOf env.sender) amount) .panic
  inContract (modify fun r => { r with stakeOf := update r.stakeOf env.sender stake })
  let token ← okOr (transferFrom self env.sender self amount s.token) .transferFailed
  modify fun s => { s with token }

/-- Pay out of the registry. -/
def send (recipient : Address) (amount : ℕ) : StakeTokenAction τ Unit := do
  let s ← get
  let token ← okOr (transfer self recipient amount s.token) .transferFailed
  modify fun s => { s with token }

def withdrawStake (amount : ℕ) : StakeTokenAction τ Unit := do
  revertIf (amount = 0) .zeroAmount
  let s ← get
  let r := s.contract
  let stake := r.stakeOf env.sender
  revertIf (stake < amount) (.insufficientStake env.sender stake amount)
  let remaining := stake - amount
  let exposure := r.openBondExposure env.sender
  revertIf (exposure > 0 ∧ remaining < r.minAgentStake) (.openExposure env.sender exposure)
  inContract (modify fun r => { r with stakeOf := update r.stakeOf env.sender remaining })
  send self env.sender amount

def recordOpenBond (agent : Address) (amount : ℕ) : StakeAction Unit := do
  onlySlashAuthority env
  revertIf (agent = 0) .zeroAccount
  revertIf (amount = 0) .zeroAmount
  let r ← get
  let exposure ← okOr (addChecked 256 (r.openBondExposure agent) amount) .panic
  modify fun r => { r with openBondExposure := update r.openBondExposure agent exposure }

def recordClosedBond (agent : Address) (amount : ℕ) : StakeAction Unit := do
  onlySlashAuthority env
  revertIf (agent = 0) .zeroAccount
  revertIf (amount = 0) .zeroAmount
  let r ← get
  let exposure := r.openBondExposure agent
  revertIf (exposure < amount) (.insufficientStake agent exposure amount)
  modify fun r => { r with
    openBondExposure := update r.openBondExposure agent (exposure - amount) }

def slashStake (account : Address) (amount : ℕ) : StakeTokenAction τ Unit := do
  inContract (onlySlashAuthority env)
  revertIf (account = 0) .zeroAccount
  revertIf (amount = 0) .zeroAmount
  let s ← get
  let r := s.contract
  let stake := r.stakeOf account
  revertIf (stake < amount) (.insufficientStake account stake amount)
  let slashed ← okOr (addChecked 256 (r.slashedStake account) amount) .panic
  inContract (modify fun r => { r with
    stakeOf := update r.stakeOf account (stake - amount)
    slashedStake := update r.slashedStake account slashed })
  send self r.slashReceiver amount

/-- The calls of the registry, as messages. -/
inductive Msg where
  | ownership (call : OwnableCall)
  | setParameters (minAgentStake minVerifierStake capacityUnit capacityBondUnit : Uint256)
  | setSlashAuthority (authority : Address)
  | setSlashReceiver (receiver : Address)
  | depositStake (amount : Uint256)
  | withdrawStake (amount : Uint256)
  | recordOpenBond (agent : Address) (amount : Uint256)
  | recordClosedBond (agent : Address) (amount : Uint256)
  | slashStake (account : Address) (amount : Uint256)

def call : Msg → StakeTokenAction τ Unit
  | .ownership c =>
    inContract (within AgentStakeRegistry.ownable (fun r o => { r with ownable := o }) .ownable
      (TwoStepOwnable.call env c))
  | .setParameters minAgentStake minVerifierStake capacityUnit capacityBondUnit =>
    inContract (setParameters env minAgentStake minVerifierStake capacityUnit capacityBondUnit)
  | .setSlashAuthority authority => inContract (setSlashAuthority env authority)
  | .setSlashReceiver receiver => inContract (setSlashReceiver env receiver)
  | .depositStake amount => depositStake self env amount
  | .withdrawStake amount => withdrawStake self env amount
  | .recordOpenBond agent amount => inContract (recordOpenBond env agent amount)
  | .recordClosedBond agent amount => inContract (recordClosedBond env agent amount)
  | .slashStake account amount => slashStake self env account amount

/-! ### What a returning call did -/

section accepted

variable {self env} {r r' : AgentStakeRegistry} {s s' : WithToken AgentStakeRegistry τ} {u : Unit}
  {amount : ℕ} {agent : Address} {msg : Msg}

attribute [simp] onlyOwner onlySlashAuthority send

/-- The registry after a change of a stake. -/
def withStake (r : AgentStakeRegistry) (account : Address) (stake : ℕ) : AgentStakeRegistry :=
  { r with stakeOf := update r.stakeOf account stake }

/-- The registry after a change of an exposure. -/
def withExposure (r : AgentStakeRegistry) (agent : Address) (exposure : ℕ) : AgentStakeRegistry :=
  { r with openBondExposure := update r.openBondExposure agent exposure }

/-- The parameters and the slash authority are the same. -/
structure SameRules (r r' : AgentStakeRegistry) : Prop where
  slashAuthority : r'.slashAuthority = r.slashAuthority
  minAgentStake : r'.minAgentStake = r.minAgentStake
  minVerifierStake : r'.minVerifierStake = r.minVerifierStake
  capacityUnit : r'.capacityUnit = r.capacityUnit
  capacityBondUnit : r'.capacityBondUnit = r.capacityBondUnit

theorem SameRules.refl (r : AgentStakeRegistry) : SameRules r r := by
  constructor <;> rfl

theorem depositStake_ok :
    (depositStake self env amount : StakeTokenAction τ Unit) s = .ok (u, s') ↔
      amount ≠ 0 ∧ s.contract.stakeOf env.sender + amount < 2 ^ 256 ∧
      ∃ token, transferFrom self env.sender self amount s.token = some token ∧
        s' = ⟨s.contract.withStake env.sender (s.contract.stakeOf env.sender + amount), token⟩ := by
  simp [depositStake, withStake, and_assoc]

theorem withdrawStake_ok :
    (withdrawStake self env amount : StakeTokenAction τ Unit) s = .ok (u, s') ↔
      amount ≠ 0 ∧ amount ≤ s.contract.stakeOf env.sender ∧
      (s.contract.openBondExposure env.sender > 0 →
        s.contract.minAgentStake ≤ s.contract.stakeOf env.sender - amount) ∧
      ∃ token, transfer self env.sender amount s.token = some token ∧
        s' = ⟨s.contract.withStake env.sender (s.contract.stakeOf env.sender - amount), token⟩ := by
  simp [withdrawStake, withStake, and_assoc]

theorem recordOpenBond_ok :
    recordOpenBond env agent amount r = .ok (u, r') ↔
      env.sender = r.slashAuthority ∧ agent ≠ 0 ∧ amount ≠ 0 ∧
      r.openBondExposure agent + amount < 2 ^ 256 ∧
      r' = r.withExposure agent (r.openBondExposure agent + amount) := by
  simp [recordOpenBond, withExposure, and_assoc]

theorem recordClosedBond_ok :
    recordClosedBond env agent amount r = .ok (u, r') ↔
      env.sender = r.slashAuthority ∧ agent ≠ 0 ∧ amount ≠ 0 ∧ amount ≤ r.openBondExposure agent ∧
      r' = r.withExposure agent (r.openBondExposure agent - amount) := by
  simp [recordClosedBond, withExposure, and_assoc]

/-- The registry after a slash. -/
def afterSlash (r : AgentStakeRegistry) (account : Address) (amount : ℕ) : AgentStakeRegistry :=
  { r with
    stakeOf := update r.stakeOf account (r.stakeOf account - amount)
    slashedStake := update r.slashedStake account (r.slashedStake account + amount) }

theorem slashStake_ok {account : Address} :
    (slashStake self env account amount : StakeTokenAction τ Unit) s = .ok (u, s') ↔
      env.sender = s.contract.slashAuthority ∧ account ≠ 0 ∧ amount ≠ 0 ∧
      amount ≤ s.contract.stakeOf account ∧ s.contract.slashedStake account + amount < 2 ^ 256 ∧
      ∃ token, transfer self s.contract.slashReceiver amount s.token = some token ∧
        s' = ⟨s.contract.afterSlash account amount, token⟩ := by
  simp [slashStake, afterSlash, and_assoc]

/-! Only the slash authority changes exposures. -/

/-- The stake that a deposit or a withdrawal leaves to its sender. -/
def Msg.stakeLeft? (stake : ℕ) : Msg → Option ℕ
  | .depositStake amount => some (stake + amount)
  | .withdrawStake amount => some (stake - amount)
  | _ => none

/-- A call of somebody other than the slash authority keeps the exposures and can change the stake
of its sender only. -/
theorem call_outside (hsender : env.sender ≠ s.contract.slashAuthority)
    (h : call self env msg s = .ok (u, s')) :
    s'.contract.openBondExposure = s.contract.openBondExposure ∧
    (s'.contract.slashAuthority = s.contract.slashAuthority ∨
      msg = .setSlashAuthority s'.contract.slashAuthority) ∧
    s'.contract.stakeOf = update s.contract.stakeOf env.sender
      ((msg.stakeLeft? (s.contract.stakeOf env.sender)).getD (s.contract.stakeOf env.sender)) := by
  cases msg with
  | ownership c =>
    simp [call] at h
    obtain ⟨o, -, rfl⟩ := h
    exact ⟨rfl, .inl rfl, (update_eq_self ..).symm⟩
  | setParameters a b c d =>
    simp [call, setParameters] at h
    obtain ⟨-, -, rfl⟩ := h
    exact ⟨rfl, .inl rfl, (update_eq_self ..).symm⟩
  | setSlashAuthority authority =>
    simp [call, setSlashAuthority] at h
    obtain ⟨-, -, rfl⟩ := h
    exact ⟨rfl, .inr rfl, (update_eq_self ..).symm⟩
  | setSlashReceiver receiver =>
    simp [call, setSlashReceiver] at h
    obtain ⟨-, -, rfl⟩ := h
    exact ⟨rfl, .inl rfl, (update_eq_self ..).symm⟩
  | depositStake amount =>
    obtain ⟨-, -, token, -, rfl⟩ := depositStake_ok.mp h
    exact ⟨rfl, .inl rfl, rfl⟩
  | withdrawStake amount =>
    obtain ⟨-, -, -, token, -, rfl⟩ := withdrawStake_ok.mp h
    exact ⟨rfl, .inl rfl, rfl⟩
  | recordOpenBond agent amount =>
    obtain ⟨r, hr, -⟩ := inContract_ok.mp h
    exact absurd (recordOpenBond_ok.mp hr).1 hsender
  | recordClosedBond agent amount =>
    obtain ⟨r, hr, -⟩ := inContract_ok.mp h
    exact absurd (recordClosedBond_ok.mp hr).1 hsender
  | slashStake account amount => exact absurd (slashStake_ok.mp h).1 hsender

/-- The calls that change capacities or slash stake. -/
def Msg.changesCapacity : Msg → Bool
  | .setParameters .. => true
  | .slashStake .. => true
  | _ => false

theorem call_capacity (hmsg : msg.changesCapacity = false) (h : call self env msg s = .ok (u, s')) :
    s'.contract.capacityUnit = s.contract.capacityUnit ∧
    s'.contract.capacityBondUnit = s.contract.capacityBondUnit ∧
    s'.contract.slashedStake = s.contract.slashedStake := by
  cases msg with
  | ownership c =>
    simp [call] at h
    obtain ⟨o, -, rfl⟩ := h
    exact ⟨rfl, rfl, rfl⟩
  | setParameters a b c d => cases hmsg
  | setSlashAuthority authority =>
    simp [call, setSlashAuthority] at h
    obtain ⟨-, -, rfl⟩ := h
    exact ⟨rfl, rfl, rfl⟩
  | setSlashReceiver receiver =>
    simp [call, setSlashReceiver] at h
    obtain ⟨-, -, rfl⟩ := h
    exact ⟨rfl, rfl, rfl⟩
  | depositStake amount =>
    obtain ⟨-, -, token, -, rfl⟩ := depositStake_ok.mp h
    exact ⟨rfl, rfl, rfl⟩
  | withdrawStake amount =>
    obtain ⟨-, -, -, token, -, rfl⟩ := withdrawStake_ok.mp h
    exact ⟨rfl, rfl, rfl⟩
  | recordOpenBond agent amount =>
    obtain ⟨r, hr, rfl⟩ := inContract_ok.mp h
    obtain ⟨-, -, -, -, rfl⟩ := recordOpenBond_ok.mp hr
    exact ⟨rfl, rfl, rfl⟩
  | recordClosedBond agent amount =>
    obtain ⟨r, hr, rfl⟩ := inContract_ok.mp h
    obtain ⟨-, -, -, -, rfl⟩ := recordClosedBond_ok.mp hr
    exact ⟨rfl, rfl, rfl⟩
  | slashStake account amount => cases hmsg

omit [ERC20SettlementToken τ] in
/-- An agent who can open a bond has the capacity for it. -/
theorem exposure_le_of_canOpenAgentBond {bond : ℕ} (h : r.canOpenAgentBond agent bond = some true) :
    ∃ capacity, r.maxOpenBond agent = some capacity ∧
      r.openBondExposure agent + bond ≤ capacity := by
  unfold canOpenAgentBond at h
  split_ifs at h
  · cases h
  · obtain ⟨exposure, hexposure, hmap⟩ := Option.bind_eq_some_iff.mp h
    obtain ⟨capacity, hcapacity, hle⟩ := Option.map_eq_some_iff.mp hmap
    obtain ⟨-, rfl⟩ := addChecked_eq_some.mp hexposure
    exact ⟨capacity, hcapacity, of_decide_eq_true hle⟩

theorem call_token (h : call self env msg s = .ok (u, s')) :
    TokenCall self env.sender s.token s'.token := by
  have hkept {f : StakeAction Unit} (hf : inContract f s = .ok (u, s')) :
      TokenCall self env.sender s.token s'.token := by
    obtain ⟨r, -, rfl⟩ := inContract_ok.mp hf
    exact .none rfl
  cases msg with
  | depositStake amount =>
    obtain ⟨-, -, token, htransfer, rfl⟩ := depositStake_ok.mp h
    exact .pull htransfer
  | withdrawStake amount =>
    obtain ⟨-, -, -, token, htransfer, rfl⟩ := withdrawStake_ok.mp h
    exact .push htransfer
  | slashStake account amount =>
    obtain ⟨-, -, -, -, -, token, htransfer, rfl⟩ := slashStake_ok.mp h
    exact .push htransfer
  | ownership c | setParameters _ _ _ _ | setSlashAuthority authority
  | setSlashReceiver receiver | recordOpenBond agent amount | recordClosedBond agent amount =>
    exact hkept h

end accepted

end AgentStakeRegistry

end FlowMemory.AgentBonds
