import FlowMemory.AgentNetwork.AgentLaunchBondEscrow

/-! # How long a bond is locked and how much of it is slashed

`BondMove` says what an accepted call does to one bond.  The **limits** of a bond are that it is not
paid out before its lock ends and that no more than the cap of its policy is slashed from it.  A
request for release sets its own time, and the cap is taken of what is left of the bond in each call:
`bond_limits_iff` says for which policies and amounts the limits hold in every run. -/

namespace FlowMemory.AgentNetwork

open Call AgentBonds ERC20SettlementToken Function

namespace AgentLaunchBondEscrow

section accepted

variable {env : Env} {e e' : AgentLaunchBondEscrow} {u : Unit} {agentId : Bytes32} {bond : Bond}

attribute [simp] requireParty

/-- When a request lets a bond be released. -/
def requestedAt (policy : BondPolicy) (env : Env) (bond : Bond) : Option ℕ :=
  if policy.releaseDelaySeconds = 0 then some bond.releaseAfter
  else addChecked 64 (uint64 env.timestamp) policy.releaseDelaySeconds.toNat

theorem requestRelease_ok : requestRelease env agentId e = .ok (u, e') ↔
    (env.sender = (e.bonds agentId).beneficiary ∨ env.sender = (e.bonds agentId).payer) ∧
      (e.bonds agentId).status = .locked ∧
      ∃ releaseAt, requestedAt (e.classBondPolicies (e.bonds agentId).classId) env
          (e.bonds agentId) = some releaseAt ∧
        e' = { e with
          bonds := update e.bonds agentId
            { e.bonds agentId with
              releaseRequestedAt := releaseAt, status := .releaseRequested } } := by
  simp [requestRelease, requestedAt, and_assoc, or_iff_not_imp_left]
  intro _ hlocked _ _ _
  rw [hlocked]
  decide

/-- A bond that can be released or slashed. -/
def Open (bond : Bond) : Prop := bond.status = .releaseRequested ∨ bond.status = .locked

theorem Open.ne_none (h : Open bond) : bond.status ≠ .none := by
  rcases h with h | h <;> rw [h] <;> decide

theorem closeBond_ok : closeBond env agentId e = .ok (bond, e') ↔
    (env.sender = (e.bonds agentId).beneficiary ∨ env.sender = (e.bonds agentId).payer) ∧
      Open (e.bonds agentId) ∧ Bond.releaseAt (e.bonds agentId) ≤ uint64 env.timestamp ∧
      bond = e.bonds agentId ∧
      e' = { e with
        bonds := update e.bonds agentId
          { e.bonds agentId with amount := 0, status := .released } } := by
  simp [closeBond, and_assoc]
  grind [Open, Open.ne_none]

theorem slashBond_ok {amount : ℕ} {evidenceRoot : Bytes32} :
    slashBond env agentId amount evidenceRoot e = .ok (u, e') ↔
      e.isAuthorizedLocker env.sender = true ∧
      Open (e.bonds agentId) ∧ evidenceRoot ≠ 0 ∧
      ∃ cap, slashCap (e.classBondPolicies (e.bonds agentId).classId) (e.bonds agentId).amount =
          some cap ∧ amount ≤ cap ∧ amount ≤ (e.bonds agentId).amount ∧
        e.totalSlashedByAgent agentId + amount < 2 ^ 256 ∧
        e' = { e with
          bonds := update e.bonds agentId
            { e.bonds agentId with
              amount := (e.bonds agentId).amount - amount
              status := if (e.bonds agentId).amount - amount = 0 then .slashed
                else (e.bonds agentId).status }
          totalSlashedByAgent := update e.totalSlashedByAgent agentId
            (e.totalSlashedByAgent agentId + amount) } := by
  simp [slashBond, and_assoc]
  grind [Open, Open.ne_none]

end accepted

/-! ### The calls and one bond -/

/-- What a call slashes from the bond of an agent. -/
def slashedBy (agentId : Bytes32) : Msg → ℕ
  | .slashBond id amount _ _ => if id = agentId then amount.val else 0
  | _ => 0

/-- What an accepted call does to the bond of an agent with the given policy. -/
inductive BondMove (agentId : Bytes32) (env : Env) (policy : BondPolicy) (bond : Bond) :
    Msg → Bond → Prop
  | other {msg : Msg} (hrelease : msg ≠ .releaseBond agentId) (hslash : slashedBy agentId msg = 0) :
      BondMove agentId env policy bond msg bond
  | request {releaseAt : ℕ} (hlocked : bond.status = .locked)
      (hat : requestedAt policy env bond = some releaseAt) :
      BondMove agentId env policy bond (.requestRelease agentId)
        { bond with releaseRequestedAt := releaseAt, status := .releaseRequested }
  | release (hopen : Open bond) (hdue : Bond.releaseAt bond ≤ uint64 env.timestamp) :
      BondMove agentId env policy bond (.releaseBond agentId)
        { bond with amount := 0, status := .released }
  | slash {amount : Uint256} {reasonCode evidenceRoot : Bytes32} {cap : ℕ} (hopen : Open bond)
      (hcap : slashCap policy bond.amount = some cap) (hle : amount.val ≤ cap)
      (hbond : amount.val ≤ bond.amount) :
      BondMove agentId env policy bond (.slashBond agentId amount reasonCode evidenceRoot)
        { bond with
          amount := bond.amount - amount
          status := if bond.amount - amount = 0 then .slashed else bond.status }

/-- What an accepted call does to the books of the contract. -/
inductive EscrowEffect (env : Env) (e : AgentLaunchBondEscrow) : Msg → AgentLaunchBondEscrow → Prop
  | administered {msg : Msg} {e' : AgentLaunchBondEscrow} (hbonds : e'.bonds = e.bonds)
      (hslashed : e'.totalSlashedByAgent = e.totalSlashedByAgent)
      (hpolicies : ∀ classId, (∀ policy, msg = .setBondPolicy classId policy →
        policy = e.classBondPolicies classId) →
          e'.classBondPolicies classId = e.classBondPolicies classId)
      (hrelease : ∀ agentId, msg ≠ .releaseBond agentId)
      (hslash : ∀ agentId, slashedBy agentId msg = 0) : EscrowEffect env e msg e'
  | written {msg : Msg} {e' : AgentLaunchBondEscrow} {id : Bytes32} {bond : Bond}
      (hbonds : e'.bonds = update e.bonds id bond) (hexists : bond.status ≠ .none)
      (hmove : (e.bonds id).status = .none ∨
        BondMove id env (e.classBondPolicies (e.bonds id).classId) (e.bonds id) msg bond)
      (hother : ∀ agentId ≠ id, e'.totalSlashedByAgent agentId = e.totalSlashedByAgent agentId ∧
        msg ≠ .releaseBond agentId ∧ slashedBy agentId msg = 0)
      (hpolicies : e'.classBondPolicies = e.classBondPolicies) : EscrowEffect env e msg e'

section calls

variable {τ : Type} [ERC20SettlementToken τ] {self : Address} {env : Env} {msg : Msg}
  {w w' : WithTokens AgentLaunchBondEscrow τ} {e e' : AgentLaunchBondEscrow}
  {agentId classId : Bytes32}

theorem effect_of_call (h : call self env msg w = .ok ((), w')) :
    EscrowEffect env w.contract msg w'.contract := by
  cases msg with
  | ownable c =>
    obtain ⟨_, h', rfl⟩ := onContract_ok.mp h
    obtain ⟨_, _, rfl⟩ := within_ok.mp h'
    exact .administered rfl rfl (fun _ _ => rfl) (by simp) (fun _ => rfl)
  | setApprovedBondToken account approved | setAuthorizedLocker account approved =>
    simp [call, setApprovedBondToken, setAuthorizedLocker] at h
    obtain ⟨-, rfl⟩ := h
    exact .administered rfl rfl (fun _ _ => rfl) (by simp) (fun _ => rfl)
  | setBondPolicy classId policy =>
    simp [call, setBondPolicy] at h
    obtain ⟨-, rfl⟩ := h
    refine .administered rfl rfl (fun id hsame => ?_) (by simp) (fun _ => rfl)
    refine of_update (P := (· = w.contract.classBondPolicies id)) rfl ?_ rfl
    rintro rfl
    exact hsame policy rfl
  | lockLaunchBond id payer beneficiary classId token amount policyRoot =>
    simp only [call, lockLaunchBond, bind_ok, onContract_ok, callToken_ok] at h
    obtain ⟨_, _, ⟨_, hlock, rfl⟩, _, _, rfl⟩ := h
    obtain ⟨-, -, -, -, hnone, -, -, -, -, -, -, rfl⟩ := recordBond_ok.mp hlock
    exact .written rfl (by simp) (.inl hnone) (fun _ _ => ⟨rfl, by simp, rfl⟩) rfl
  | requestRelease id =>
    obtain ⟨_, h', rfl⟩ := onContract_ok.mp h
    obtain ⟨-, hlocked, releaseAt, hat, rfl⟩ := requestRelease_ok.mp h'
    exact .written rfl (by simp) (.inr (.request hlocked hat)) (fun _ _ => ⟨rfl, by simp, rfl⟩) rfl
  | releaseBond id =>
    simp only [call, releaseBond, bind_ok, onContract_ok, callToken_ok] at h
    obtain ⟨_, _, ⟨_, hclose, rfl⟩, _, _, rfl⟩ := h
    obtain ⟨-, hopen, hdue, rfl, rfl⟩ := closeBond_ok.mp hclose
    refine .written rfl (by simp) (.inr (.release hopen hdue)) (fun agentId hne => ⟨rfl, ?_, rfl⟩) rfl
    exact fun h => hne (Msg.releaseBond.inj h).symm
  | slashBond id amount reasonCode evidenceRoot =>
    obtain ⟨_, h', rfl⟩ := onContract_ok.mp h
    obtain ⟨-, hopen, -, cap, hcap, hle, hbond, -, rfl⟩ := slashBond_ok.mp h'
    refine .written rfl ?_ (.inr (.slash hopen hcap hle hbond))
      (fun agentId hne => ⟨update_of_ne hne .., by simp, if_neg hne.symm⟩) rfl
    dsimp only
    split
    exacts [by simp, hopen.ne_none]

theorem EscrowEffect.bondMove (heffect : EscrowEffect env e msg e')
    (hexists : (e.bonds agentId).status ≠ .none) :
    BondMove agentId env (e.classBondPolicies (e.bonds agentId).classId) (e.bonds agentId) msg
      (e'.bonds agentId) := by
  cases heffect with
  | administered hbonds _ _ hrelease hslash =>
    rw [hbonds]
    exact .other (hrelease agentId) (hslash agentId)
  | @written id bond hbonds _ hmove hother =>
    rw [hbonds, update_apply]
    split_ifs with hid
    · subst hid
      exact hmove.resolve_left hexists
    · exact .other (hother agentId hid).2.1 (hother agentId hid).2.2

theorem EscrowEffect.policy_kept (heffect : EscrowEffect env e msg e')
    (hsame : ∀ policy, msg = .setBondPolicy classId policy →
      policy = e.classBondPolicies classId) :
    e'.classBondPolicies classId = e.classBondPolicies classId := by
  cases heffect with
  | administered _ _ hpolicies _ _ => exact hpolicies classId hsame
  | written _ _ _ _ hpolicies => rw [hpolicies]

/-- Nothing has been slashed from a bond that does not exist. -/
def NothingSlashed (e : AgentLaunchBondEscrow) : Prop :=
  ∀ agentId, (e.bonds agentId).status = .none → e.totalSlashedByAgent agentId = 0

theorem EscrowEffect.nothingSlashed (heffect : EscrowEffect env e msg e') (h : NothingSlashed e) :
    NothingSlashed e' := by
  cases heffect with
  | administered hbonds hslashed _ _ _ =>
    intro agentId hnone
    rw [hslashed]
    exact h agentId (hbonds ▸ hnone)
  | @written id bond hbonds hexists _ hother =>
    intro agentId hnone
    have hne : agentId ≠ id := by
      rintro rfl
      rw [hbonds, update_self] at hnone
      exact hexists hnone
    rw [hbonds, update_of_ne hne] at hnone
    rw [(hother agentId hne).1]
    exact h agentId hnone

end calls

/-! ### The limits of a bond -/

/-- What the calls of a run slash from the bond of an agent. -/
def slashedIn (agentId : Bytes32) (calls : List (Env × Msg)) : ℕ :=
  (calls.map fun c => slashedBy agentId c.2).sum

@[simp] theorem slashedIn_cons {agentId : Bytes32} {c : Env × Msg} {calls : List (Env × Msg)} :
    slashedIn agentId (c :: calls) = slashedBy agentId c.2 + slashedIn agentId calls := by
  simp [slashedIn]

/-- The bond is released only after its lock, and at most the cap is slashed from it. -/
def LimitsKept (agentId : Bytes32) (policy : BondPolicy) (lockTime amount : ℕ)
    (calls : List (Env × Msg)) : Prop :=
  (∀ env, (env, Msg.releaseBond agentId) ∈ calls →
      uint64 lockTime + policy.minLockSeconds.toNat ≤ env.timestamp) ∧
    (policy.slashCapBps ≠ 0 → slashedIn agentId calls * 10000 ≤ policy.slashCapBps * amount)

/-- The calls leave the policy of a class as it is. -/
def PolicyKept (classId : Bytes32) (policy : BondPolicy) (calls : List (Env × Msg)) : Prop :=
  ∀ env policy', (env, Msg.setBondPolicy classId policy') ∈ calls → policy' = policy

/-- Caps of what is left add up to no more than the cap of the whole amount if the rest after the
first cap is too small for another slash. -/
theorem slash_le_cap {amount bps slashed more : ℕ} (hslashed : slashed ≤ amount * bps / 10000)
    (hrest : (amount - amount * bps / 10000) * bps < 10000)
    (hmore : more ≤ (amount - slashed) * bps / 10000) (hle : slashed + more ≤ amount) :
    slashed + more ≤ amount * bps / 10000 := by
  rcases le_or_gt bps 10000 with hbps | hbps
  · have hcap : amount * bps / 10000 ≤ amount :=
      Nat.div_le_of_le_mul (by rw [Nat.mul_comm]; exact Nat.mul_le_mul_right _ hbps)
    generalize hS : amount * bps / 10000 = cap at *
    have hsplit : (amount - slashed) * bps = (amount - cap) * bps + (cap - slashed) * bps := by
      rw [← Nat.add_mul]
      congr 1
      omega
    have hpart : (cap - slashed) * bps ≤ (cap - slashed) * 10000 := Nat.mul_le_mul_left _ hbps
    omega
  · have : amount ≤ amount * bps / 10000 := by
      rw [Nat.le_div_iff_mul_le (by decide)]
      exact Nat.mul_le_mul_left _ hbps.le
    omega

section limits

variable {agentId classId : Bytes32} {policy : BondPolicy} {lockTime amount : ℕ} {now slashed : ℕ}
  {bond : Bond}

theorem slashCap_eq_some {left cap : ℕ} (hbps : policy.slashCapBps ≠ 0) :
    slashCap policy left = some cap ↔
      left * policy.slashCapBps < 2 ^ 256 ∧ left * policy.slashCapBps / 10000 = cap := by
  unfold slashCap
  rw [if_neg hbps]
  simp [and_assoc]

/-- The terms under which a bond keeps its limits: a request does not end the lock early, and after
a slash of the whole cap nothing more can be slashed.  The lock time and the product are the ones that
fit their words. -/
structure SoundTerms (policy : BondPolicy) (lockTime amount : ℕ) : Prop where
  lock : 2 ^ 64 ≤ lockTime ∨ policy.releaseDelaySeconds = 0 ∨
    policy.minLockSeconds ≤ policy.releaseDelaySeconds
  caps : policy.slashCapBps = 0 ∨ 2 ^ 256 ≤ amount * policy.slashCapBps ∨
    (amount - amount * policy.slashCapBps / 10000) * policy.slashCapBps < 10000

/-- What holds of a bond until it is closed, where `slashed` was slashed from it. -/
structure BondKept (policy : BondPolicy) (lockTime amount now slashed : ℕ) (bond : Bond) : Prop where
  exists_ : bond.status ≠ .none
  releaseAfter : bond.releaseAfter = uint64 lockTime + policy.minLockSeconds.toNat
  due : Open bond → bond.releaseAfter ≤ Bond.releaseAt bond ∨ bond.releaseAfter ≤ now
  remaining : Open bond → bond.amount + slashed = amount
  capped : policy.slashCapBps ≠ 0 → slashed ≤ amount * policy.slashCapBps / 10000
  overflow : 2 ^ 256 ≤ amount * policy.slashCapBps → slashed = 0

theorem BondKept.request {env : Env} {releaseAt : ℕ} (hterms : SoundTerms policy lockTime amount)
    (hkept : BondKept policy lockTime amount now slashed bond)
    (hend : uint64 lockTime + policy.minLockSeconds.toNat < 2 ^ 64) (hstart : lockTime ≤ now)
    (hnow : now ≤ env.timestamp) (hlocked : bond.status = .locked)
    (hat : requestedAt policy env bond = some releaseAt) :
    BondKept policy lockTime amount env.timestamp slashed
      { bond with releaseRequestedAt := releaseAt, status := .releaseRequested } := by
  refine ⟨nofun, hkept.releaseAfter, fun _ => ?_, fun _ => hkept.remaining (.inr hlocked),
    hkept.capped, hkept.overflow⟩
  have hdue : releaseAt = bond.releaseAfter ∨ bond.releaseAfter ≤ releaseAt ∨
      bond.releaseAfter ≤ env.timestamp := by
    unfold requestedAt at hat
    split at hat
    case isTrue => exact .inl (Option.some.inj hat).symm
    case isFalse hdelay =>
      obtain ⟨-, rfl⟩ := addChecked_eq_some.mp hat
      rw [hkept.releaseAfter]
      rcases Nat.lt_or_ge env.timestamp (2 ^ 64) with hlt | hge
      · have hle : policy.minLockSeconds ≤ policy.releaseDelaySeconds := by
          rcases hterms.lock with h | h | h
          · omega
          · exact absurd h hdelay
          · exact h
        have := uint64_le lockTime
        have := UInt64.le_iff_toNat_le.mp hle
        rw [uint64_of_lt hlt]
        omega
      · omega
  simp only [Bond.releaseAt, true_and]
  split <;> omega

theorem BondKept.slash {env : Env} {cap : ℕ} {more : Uint256}
    (hterms : SoundTerms policy lockTime amount)
    (hkept : BondKept policy lockTime amount now slashed bond) (hnow : now ≤ env.timestamp)
    (hopen : Open bond) (hcap : slashCap policy bond.amount = some cap) (hle : more.val ≤ cap)
    (hbond : more.val ≤ bond.amount) :
    BondKept policy lockTime amount env.timestamp (slashed + more)
      { bond with
        amount := bond.amount - more
        status := if bond.amount - more = 0 then .slashed else bond.status } := by
  have hremaining := hkept.remaining hopen
  have hsame : Open { bond with
      amount := bond.amount - more.val
      status := if bond.amount - more.val = 0 then .slashed else bond.status } →
      (if bond.amount - more.val = 0 then BondStatus.slashed else bond.status) = bond.status := by
    intro h
    by_cases hleft : bond.amount - more.val = 0
    · simp [Open, hleft] at h
    · exact if_neg hleft
  refine ⟨?_, hkept.releaseAfter, fun h => ?_, fun _ => ?_, fun hbps => ?_, fun hover => ?_⟩
  · dsimp only
    split
    · nofun
    · exact hkept.exists_
  · rcases hkept.due hopen with hdue | hdue
    · left
      simpa only [Bond.releaseAt, hsame h] using hdue
    · exact .inr (hdue.trans hnow)
  · dsimp only
    omega
  · obtain ⟨hfit, rfl⟩ := (slashCap_eq_some hbps).mp hcap
    have hamount : bond.amount = amount - slashed := by omega
    rw [hamount] at hle hfit
    rcases hterms.caps with h | h | h
    · exact absurd h hbps
    · -- the multiplication of the whole amount overflows, so nothing was slashed
      rw [hkept.overflow h, Nat.sub_zero] at hfit
      omega
    · exact slash_le_cap (hkept.capped hbps) h hle (by omega)
  · have hbps : policy.slashCapBps ≠ 0 := fun h => by
      rw [h, Nat.mul_zero] at hover
      exact absurd hover (by decide)
    obtain ⟨hfit, rfl⟩ := (slashCap_eq_some hbps).mp hcap
    have hzero := hkept.overflow hover
    have hamount : bond.amount = amount := by omega
    rw [hamount] at hfit
    omega

theorem BondMove.kept {env : Env} {msg : Msg} {bond' : Bond}
    (hmove : BondMove agentId env policy bond msg bond')
    (hterms : SoundTerms policy lockTime amount)
    (hend : uint64 lockTime + policy.minLockSeconds.toNat < 2 ^ 64) (hstart : lockTime ≤ now)
    (hnow : now ≤ env.timestamp) (hkept : BondKept policy lockTime amount now slashed bond) :
    BondKept policy lockTime amount env.timestamp (slashed + slashedBy agentId msg) bond' ∧
      (msg = .releaseBond agentId →
        uint64 lockTime + policy.minLockSeconds.toNat ≤ env.timestamp) := by
  cases hmove with
  | other hrelease hslash =>
    rw [hslash, Nat.add_zero]
    exact ⟨⟨hkept.exists_, hkept.releaseAfter,
      fun h => (hkept.due h).imp_right (·.trans hnow), hkept.remaining, hkept.capped,
      hkept.overflow⟩, fun h => absurd h hrelease⟩
  | request hlocked hat => exact ⟨hkept.request hterms hend hstart hnow hlocked hat, nofun⟩
  | release hopen hdue =>
    refine ⟨⟨nofun, hkept.releaseAfter, ?_, ?_, hkept.capped, hkept.overflow⟩, fun _ => ?_⟩
    · simp [Open]
    · simp [Open]
    · rw [← hkept.releaseAfter]
      have := uint64_le env.timestamp
      rcases hkept.due hopen with h | h <;> omega
  | slash hopen hcap hle hbond =>
    refine ⟨?_, nofun⟩
    rw [slashedBy, if_pos rfl]
    exact hkept.slash hterms hnow hopen hcap hle hbond

theorem BondMove.classId_eq {env : Env} {msg : Msg} {bond' : Bond}
    (hmove : BondMove agentId env policy bond msg bond') : bond'.classId = bond.classId := by
  cases hmove <;> rfl

end limits

/-! ### Runs after a lock -/

section runs

variable {τ : Type} [ERC20SettlementToken τ] {self : Address} {agentId classId : Bytes32}
  {policy : BondPolicy} {lockTime amount : ℕ} {tokens : Address → τ}

theorem limitsKept_of_run {now slashed : ℕ} {w w' : WithTokens AgentLaunchBondEscrow τ}
    {calls : List (Env × Msg)} (hrun : CallRun (call self) now w calls w')
    (hterms : SoundTerms policy lockTime amount)
    (hend : uint64 lockTime + policy.minLockSeconds.toNat < 2 ^ 64) (hstart : lockTime ≤ now)
    (hpolicy : w.contract.classBondPolicies classId = policy)
    (hclass : (w.contract.bonds agentId).classId = classId)
    (hsame : PolicyKept classId policy calls)
    (hkept : BondKept policy lockTime amount now slashed (w.contract.bonds agentId)) :
    (∀ env, (env, Msg.releaseBond agentId) ∈ calls →
        uint64 lockTime + policy.minLockSeconds.toNat ≤ env.timestamp) ∧
      (policy.slashCapBps ≠ 0 →
        slashed + slashedIn agentId calls ≤ amount * policy.slashCapBps / 10000) := by
  induction hrun generalizing slashed with
  | nil => exact ⟨nofun, hkept.capped⟩
  | @call now env msg w w' w'' calls hnow hcall hrest ih =>
    have heffect := effect_of_call hcall
    have hmove := heffect.bondMove hkept.exists_
    have hpolicy' := heffect.policy_kept (fun policy' h =>
      (hsame env policy' (h ▸ List.mem_cons_self)).trans hpolicy.symm)
    rw [hclass, hpolicy] at hmove
    obtain ⟨hkept', hreleased⟩ := hmove.kept hterms hend hstart hnow hkept
    obtain ⟨hlater, hcapped⟩ := ih (hstart.trans hnow) (hpolicy'.trans hpolicy)
      (hmove.classId_eq.trans hclass)
      (fun env' policy' h => hsame env' policy' (List.mem_cons_of_mem _ h)) hkept'
    refine ⟨fun env' hmem => ?_, fun hbps => ?_⟩
    · rcases List.mem_cons.mp hmem with h | h
      · obtain ⟨rfl, rfl⟩ := Prod.mk.inj h
        exact hreleased rfl
      · exact hlater env' h
    · rw [slashedIn_cons, ← Nat.add_assoc]
      exact hcapped hbps
  | others _ _ ih => exact ih hstart hpolicy hclass hsame hkept

variable {env : Env} {w w' : WithTokens AgentLaunchBondEscrow τ}
  {payer beneficiary token : Address} {locked : Uint256} {policyRoot : Bytes32}

/-- The books after a bond was locked. -/
structure JustLocked (env : Env) (agentId classId : Bytes32) (policy : BondPolicy)
    (beneficiary token : Address) (locked : ℕ) (e : AgentLaunchBondEscrow) : Prop where
  bond : ∃ payer policyRoot, e.bonds agentId =
    ⟨agentId, classId, payer, beneficiary, token, locked, uint64 env.timestamp,
      uint64 env.timestamp + policy.minLockSeconds.toNat, 0, .locked, policyRoot⟩
  terms : e.classBondPolicies classId = policy
  fits : uint64 env.timestamp + policy.minLockSeconds.toNat < 2 ^ 64
  locker : e.isAuthorizedLocker env.sender = true
  slashed : e.totalSlashedByAgent agentId = 0

theorem justLocked_of_call {initialOwner : Address} {now : ℕ} {history : List (Env × Msg)}
    (hrun : CallRun (call self) now ⟨deployed initialOwner, tokens⟩ history w)
    (hlock : call self env
      (.lockLaunchBond agentId payer beneficiary classId token locked policyRoot) w = .ok ((), w')) :
    JustLocked env agentId classId (w.contract.classBondPolicies classId) beneficiary token locked
      w'.contract := by
  have hnothing : NothingSlashed w.contract :=
    hrun.invariant (fun h hinv => (effect_of_call h).nothingSlashed hinv) (fun _ _ => rfl)
  simp only [call, lockLaunchBond, bind_ok, onContract_ok, callToken_ok] at hlock
  obtain ⟨_, _, ⟨_, hrecord, rfl⟩, _, _, rfl⟩ := hlock
  obtain ⟨hlocker, -, -, -, hnone, -, -, -, -, -, hfits, rfl⟩ := recordBond_ok.mp hrecord
  exact ⟨⟨payer, policyRoot, update_self ..⟩, rfl, hfits, hlocker,
    hnothing agentId hnone⟩

theorem JustLocked.early_release {e : AgentLaunchBondEscrow} {paid : τ}
    (h : JustLocked env agentId classId policy beneficiary token amount e)
    (hpays : transfer self beneficiary amount (tokens token) = some paid)
    (hterms : env.timestamp < 2 ^ 64 ∧ policy.releaseDelaySeconds ≠ 0 ∧
      policy.releaseDelaySeconds < policy.minLockSeconds) :
    ∃ w', CallRun (call self) env.timestamp ⟨e, tokens⟩
      [(⟨beneficiary, env.timestamp⟩, .requestRelease agentId),
        (⟨beneficiary, env.timestamp + policy.releaseDelaySeconds.toNat⟩, .releaseBond agentId)]
      w' := by
  obtain ⟨hlt, hdelay, hshort⟩ := hterms
  obtain ⟨payer, policyRoot, hbond⟩ := h.bond
  have hfits := h.fits
  have hshort := UInt64.lt_iff_toNat_lt.mp hshort
  have hpositive : 0 < policy.releaseDelaySeconds.toNat :=
    UInt64.lt_iff_toNat_lt.mp (UInt64.pos_iff_ne_zero.mpr hdelay)
  rw [uint64_of_lt hlt] at hfits
  have hlt' : env.timestamp + policy.releaseDelaySeconds.toNat < 2 ^ 64 := by omega
  -- the request sets the time of release, which has come when the bond is released
  obtain ⟨e₁, hrequest, hbond₁⟩ : ∃ e₁,
      requestRelease ⟨beneficiary, env.timestamp⟩ agentId e = .ok ((), e₁) ∧
        e₁.bonds agentId = ⟨agentId, classId, payer, beneficiary, token, amount,
          uint64 env.timestamp, uint64 env.timestamp + policy.minLockSeconds.toNat,
          env.timestamp + policy.releaseDelaySeconds.toNat, .releaseRequested, policyRoot⟩ := by
    refine ⟨_, requestRelease_ok.mpr ⟨.inl ?_, ?_,
      env.timestamp + policy.releaseDelaySeconds.toNat, ?_, rfl⟩, ?_⟩
    · rw [hbond]
    · rw [hbond]
    · rw [hbond, h.terms, requestedAt, if_neg hdelay, uint64_of_lt hlt]
      exact addChecked_eq_some.mpr ⟨hlt', rfl⟩
    · simp only [update_self, hbond]
  obtain ⟨e₂, hclose⟩ : ∃ e₂,
      closeBond ⟨beneficiary, env.timestamp + policy.releaseDelaySeconds.toNat⟩ agentId e₁ =
        .ok (e₁.bonds agentId, e₂) := by
    refine ⟨_, closeBond_ok.mpr ⟨.inl ?_, .inl ?_, ?_, rfl, rfl⟩⟩
    · rw [hbond₁]
    · rw [hbond₁]
    · rw [hbond₁, Bond.releaseAt, if_pos ⟨rfl, by dsimp only; omega⟩, uint64_of_lt hlt']
  refine ⟨⟨e₂, update tokens token paid⟩, .call le_rfl
    (onContract_ok.mpr ⟨_, hrequest, rfl⟩) (.call (Nat.le_add_right _ _) ?_ .nil)⟩
  simp only [call, releaseBond, bind_ok, onContract_ok, callToken_ok]
  refine ⟨_, _, ⟨_, hclose, rfl⟩, paid, ?_, ?_⟩
  · rw [hbond₁]
    exact hpays
  · rw [hbond₁]

theorem JustLocked.double_slash {e : AgentLaunchBondEscrow} (tokens : Address → τ)
    (h : JustLocked env agentId classId policy beneficiary token locked e)
    (hbps : policy.slashCapBps ≠ 0) (hfits : locked * policy.slashCapBps < 2 ^ 256)
    (hrest : 10000 ≤ (locked - locked * policy.slashCapBps / 10000) * policy.slashCapBps) :
    ∃ (first second : Uint256) (w' : WithTokens AgentLaunchBondEscrow τ),
      CallRun (call self) env.timestamp ⟨e, tokens⟩
        [(env, .slashBond agentId first 0 1), (env, .slashBond agentId second 0 1)] w' ∧
      policy.slashCapBps * locked < (first.val + second.val) * 10000 := by
  obtain ⟨payer, policyRoot, hbond⟩ := h.bond
  have hlocked := locked.isLt
  generalize hcap : locked.val * policy.slashCapBps / 10000 = cap at hrest
  have hleft : 0 < locked - cap := Nat.pos_of_ne_zero fun h0 => by simp [h0] at hrest
  -- the first slash takes the whole cap, the second one unit of what is left
  obtain ⟨e₁, hfirst, hbond₁, hterms₁, hlocker₁, hslashed₁⟩ : ∃ e₁,
      slashBond env agentId cap 1 e = .ok ((), e₁) ∧
        e₁.bonds agentId = { e.bonds agentId with amount := locked - cap } ∧
        e₁.classBondPolicies = e.classBondPolicies ∧
        e₁.isAuthorizedLocker = e.isAuthorizedLocker ∧
        e₁.totalSlashedByAgent agentId = cap := by
    refine ⟨_, slashBond_ok.mpr ⟨h.locker, .inr ?_, by decide, cap, ?_, le_rfl, ?_, ?_, rfl⟩,
      ?_, rfl, rfl, ?_⟩
    · rw [hbond]
    · rw [hbond, h.terms]
      exact (slashCap_eq_some hbps).mpr ⟨hfits, hcap⟩
    · rw [hbond]
      dsimp only
      omega
    · rw [h.slashed]
      omega
    · simp [hbond, hleft.ne']
    · simp [h.slashed]
  obtain ⟨e₂, hsecond⟩ : ∃ e₂, slashBond env agentId 1 1 e₁ = .ok ((), e₂) := by
    refine ⟨_, slashBond_ok.mpr ⟨hlocker₁ ▸ h.locker, .inr ?_, by decide,
      (locked - cap) * policy.slashCapBps / 10000, ?_, ?_, ?_, ?_, rfl⟩⟩
    · rw [hbond₁, hbond]
    · rw [hbond₁, hterms₁, hbond, h.terms]
      refine (slashCap_eq_some hbps).mpr ⟨?_, rfl⟩
      exact Nat.lt_of_le_of_lt (Nat.mul_le_mul_right _ (Nat.sub_le _ _)) hfits
    · omega
    · rw [hbond₁]
      exact hleft
    · rw [hslashed₁]
      omega
  refine ⟨⟨cap, by omega⟩, 1, ⟨e₂, tokens⟩, .call le_rfl (onContract_ok.mpr ⟨_, hfirst, rfl⟩)
    (.call le_rfl (onContract_ok.mpr ⟨_, hsecond, rfl⟩) .nil), ?_⟩
  change _ < (cap + 1) * 10000
  rw [Nat.mul_comm policy.slashCapBps]
  omega

/-- A bond locked in a run from the constructor keeps its limits in every later run that leaves its
policy as it is if its terms are sound, and, where its token can pay it back, only then. -/
theorem bond_limits_iff {initialOwner : Address} {now : ℕ} {tokens : Address → τ}
    {history : List (Env × Msg)}
    (hrun : CallRun (call self) now ⟨deployed initialOwner, tokens⟩ history w)
    (hlock : call self env
      (.lockLaunchBond agentId payer beneficiary classId token locked policyRoot) w = .ok ((), w')) :
    (transfer self beneficiary locked (w'.tokens token) ≠ none →
      (∀ calls w'', CallRun (call self) env.timestamp w' calls w'' →
        PolicyKept classId (w.contract.classBondPolicies classId) calls →
        LimitsKept agentId (w.contract.classBondPolicies classId) env.timestamp locked calls) →
      SoundTerms (w.contract.classBondPolicies classId) env.timestamp locked) ∧
    (SoundTerms (w.contract.classBondPolicies classId) env.timestamp locked →
      ∀ calls w'', CallRun (call self) env.timestamp w' calls w'' →
        PolicyKept classId (w.contract.classBondPolicies classId) calls →
        LimitsKept agentId (w.contract.classBondPolicies classId) env.timestamp locked calls) := by
  have hlocked := justLocked_of_call hrun hlock
  generalize w.contract.classBondPolicies classId = policy at *
  constructor
  · intro hpays hkept
    obtain ⟨paid, hpaid⟩ := Option.ne_none_iff_exists'.mp hpays
    refine ⟨?_, ?_⟩
    · by_contra! hterms
      obtain ⟨hlt, hdelay, hshort⟩ := hterms
      have hshort := UInt64.not_le.mp hshort
      obtain ⟨w'', hearly⟩ := hlocked.early_release hpaid ⟨hlt, hdelay, hshort⟩
      have hdue := (hkept _ _ hearly (by simp [PolicyKept])).1 _
        (List.mem_cons_of_mem _ List.mem_cons_self)
      have := UInt64.lt_iff_toNat_lt.mp hshort
      rw [uint64_of_lt hlt] at hdue
      dsimp only at hdue
      omega
    · by_contra! hterms
      obtain ⟨first, second, w'', hslashes, hmore⟩ :=
        hlocked.double_slash w'.tokens hterms.1 hterms.2.1 hterms.2.2
      have hle := (hkept _ _ hslashes (by simp [PolicyKept])).2 hterms.1
      simp only [slashedIn_cons, slashedBy, if_true] at hle
      exact absurd hle (Nat.not_le.mpr hmore)
  · intro hterms calls w'' hcalls hsame
    obtain ⟨payer, policyRoot, hbond⟩ := hlocked.bond
    have hkept : BondKept policy env.timestamp locked env.timestamp 0
        (w'.contract.bonds agentId) := by
      rw [hbond]
      exact ⟨nofun, rfl, fun _ => .inl le_rfl, fun _ => rfl, fun _ => Nat.zero_le _, fun _ => rfl⟩
    obtain ⟨hreleases, hslashes⟩ := limitsKept_of_run hcalls hterms hlocked.fits le_rfl
      hlocked.terms (by rw [hbond]) hsame hkept
    refine ⟨hreleases, fun hbps => ?_⟩
    have := hslashes hbps
    rw [Nat.zero_add] at this
    calc slashedIn agentId calls * 10000
        ≤ locked * policy.slashCapBps / 10000 * 10000 := Nat.mul_le_mul_right _ this
      _ ≤ locked * policy.slashCapBps := Nat.div_mul_le_self _ _
      _ = policy.slashCapBps * locked := Nat.mul_comm _ _

end runs

/-! ### Policies with and without sound terms -/

def sampleTokens : Address → TestToken := fun _ => ⟨fun _ => 1000, fun _ _ => 1000⟩

/-- The owner 1 approves the token 5, authorizes the locker 2 and sets the policy of the class 6. -/
def sampleSetup (policy : BondPolicy) : List (Env × Msg) :=
  [(⟨1, 10⟩, .setApprovedBondToken 5 true), (⟨1, 10⟩, .setAuthorizedLocker 2 true),
    (⟨1, 10⟩, .setBondPolicy 6 policy)]

/-- The account 3 pays a bond of 100 for the agent 7 of the account 4. -/
def sampleLock : Env × Msg := (⟨2, 10⟩, .lockLaunchBond 7 3 4 6 5 100 0)

/-- A lock of 1000 seconds with requests after which a bond is released in one second, and a cap
of one half. -/
def shortPolicy : BondPolicy := ⟨5, 0, 0, 1000, 1, 5000, true⟩

def earlyRelease : List (Env × Msg) := [(⟨4, 10⟩, .requestRelease 7), (⟨4, 11⟩, .releaseBond 7)]

def doubleSlash : List (Env × Msg) := [(⟨2, 10⟩, .slashBond 7 50 0 8), (⟨2, 10⟩, .slashBond 7 25 0 8)]

/-- The bond is paid out after one second instead of 1000, and 75 of 100 are slashed with a cap of
one half. -/
theorem bond_limits_exceeded : ∃ w w₁ w₂ : WithTokens AgentLaunchBondEscrow TestToken,
    CallRun (call 9) 0 ⟨deployed 1, sampleTokens⟩ (sampleSetup shortPolicy ++ [sampleLock]) w ∧
      w.contract.classBondPolicies 6 = shortPolicy ∧
      CallRun (call 9) 10 w earlyRelease w₁ ∧ ¬ LimitsKept 7 shortPolicy 10 100 earlyRelease ∧
      CallRun (call 9) 10 w doubleSlash w₂ ∧ ¬ LimitsKept 7 shortPolicy 10 100 doubleSlash := by
  have hfacts : (runCalls (call 9) 0 (sampleSetup shortPolicy ++ [sampleLock])
      ⟨deployed 1, sampleTokens⟩).map (fun w => (w.contract.classBondPolicies 6,
        (runCalls (call 9) 10 earlyRelease w).isSome, (runCalls (call 9) 10 doubleSlash w).isSome)) =
      some (shortPolicy, true, true) := by decide +kernel
  obtain ⟨w, hw, hfields⟩ := Option.map_eq_some_iff.mp hfacts
  obtain ⟨hpolicy, hruns⟩ := Prod.mk.inj hfields
  obtain ⟨hearly, hslash⟩ := Prod.mk.inj hruns
  obtain ⟨w₁, hw₁⟩ := Option.isSome_iff_exists.mp hearly
  obtain ⟨w₂, hw₂⟩ := Option.isSome_iff_exists.mp hslash
  refine ⟨w, w₁, w₂, callRun_of_runCalls hw, hpolicy, callRun_of_runCalls hw₁, fun hkept => ?_,
    callRun_of_runCalls hw₂, fun hkept => ?_⟩
  · exact absurd (hkept.1 ⟨4, 11⟩ (List.mem_cons_of_mem _ List.mem_cons_self)) (by decide)
  · exact absurd (hkept.2 (by decide)) (by decide)

/-- Requests wait as long as the lock, and the cap is the whole bond. -/
def soundPolicy : BondPolicy := ⟨5, 0, 0, 1000, 1000, 10000, true⟩

theorem bond_limits_iff_sample : ∃ w w' : WithTokens AgentLaunchBondEscrow TestToken,
    runCalls (call 9) 0 (sampleSetup soundPolicy) ⟨deployed 1, sampleTokens⟩ = some w ∧
      call 9 sampleLock.1 sampleLock.2 w = .ok ((), w') ∧
      ∀ calls w'', CallRun (call 9) 10 w' calls w'' → PolicyKept 6 soundPolicy calls →
        LimitsKept 7 soundPolicy 10 100 calls := by
  have hfacts : (runCalls (call 9) 0 (sampleSetup soundPolicy)
      ⟨deployed 1, sampleTokens⟩).map (fun w => (w.contract.classBondPolicies 6,
        (call 9 sampleLock.1 sampleLock.2 w).toOption.map fun _ => ())) =
      some (soundPolicy, some ()) := by decide +kernel
  obtain ⟨w, hw, hfields⟩ := Option.map_eq_some_iff.mp hfacts
  obtain ⟨hpolicy, hcall⟩ := Prod.mk.inj hfields
  obtain ⟨⟨⟨⟩, w'⟩, hlock, -⟩ := Option.map_eq_some_iff.mp hcall
  have hlock := toOption_eq_some.mp hlock
  refine ⟨w, w', hw, hlock, ?_⟩
  rw [← hpolicy]
  refine (bond_limits_iff (callRun_of_runCalls hw) hlock).2 ?_
  rw [hpolicy]
  exact ⟨by decide, by decide⟩

end AgentLaunchBondEscrow

end FlowMemory.AgentNetwork
