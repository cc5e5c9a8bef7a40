import FlowMemory.AgentNetwork.AgentMemoryFuelVault
import FlowMemory.AgentNetwork.SwarmBudgetVault
import FlowMemory.Lib.Reservations

/-! # The ledgers of reservations of the two vaults

Both vaults keep what is reserved for each owner (a budget line, an agent) and the amount of each
reservation under its identifier: they are reservation systems.  The identifier of a reservation of
the budget vault repeats in one block, that of the fuel vault is chosen by the meter, and neither
release looks up the owner. -/

namespace FlowMemory.AgentNetwork

open Call AgentBonds ERC20SettlementToken Function

/-! ### Budget lines -/

namespace SwarmBudgetVault

def ledger (v : SwarmBudgetVault) : ReservationLedger Bytes32 Bytes32 where
  reserved id := (v.budgetLines id).reserved
  held := v.reservedAmountByReservation

/-- Which operation of the ledger a call is. -/
def ledgerOp (D : BudgetVaultDeployment) :
    Option (Env × Msg) → Option (ReservationOp Bytes32 Bytes32)
  | some (env, .reserve _ budgetLineId amount intentRoot) =>
    some (.reserve ⟨D.reservationId budgetLineId amount intentRoot env.timestamp, budgetLineId,
      amount⟩)
  | some (_, .releaseReservation _ budgetLineId reservationId) =>
    some (.release budgetLineId reservationId)
  | _ => none

/-- Lines that do not exist have nothing reserved. -/
def LinesValid (v : SwarmBudgetVault) : Prop :=
  ∀ id, (v.budgetLines id).budgetLineId = 0 → (v.budgetLines id).reserved = 0

/-- The line exists and is active. -/
def Usable (id : Bytes32) (v : SwarmBudgetVault) : Prop :=
  LineOf v (v.budgetLines id).swarmId id

section ledger

variable {D : BudgetVaultDeployment} {env : Env} {msg : Msg} {v v' : SwarmBudgetVault}
  {id : Bytes32} {line : BudgetLine} {swarmId : Bytes32}

/-- After a call the lines are as before, or one line was created or written. -/
theorem VaultEffect.lines (heffect : VaultEffect D env v msg v') : v'.budgetLines = v.budgetLines ∨
    ∃ id line, v'.budgetLines = update v.budgetLines id line ∧
      ((v.budgetLines id).budgetLineId = 0 ∧ line.reserved = 0 ∨
        (v.budgetLines id).budgetLineId ≠ 0 ∧
          line.budgetLineId = (v.budgetLines id).budgetLineId ∧
          line.active = (v.budgetLines id).active) := by
  cases heffect with
  | administered hlines _ _ _ => exact .inl hlines
  | deposited => exact .inl rfl
  | created hnone => exact .inr ⟨_, _, rfl, .inl ⟨hnone, rfl⟩⟩
  | reserved _ _ hline | spent hline | released hline =>
    exact .inr ⟨_, _, rfl, .inr ⟨hline.exists_, rfl, rfl⟩⟩

theorem VaultEffect.linesValid (heffect : VaultEffect D env v msg v') (h : LinesValid v) :
    LinesValid v' := by
  rcases heffect.lines with hlines | ⟨id, line, hlines, hline⟩
  · rwa [LinesValid, hlines]
  · refine fun id' => of_update (P := fun l => l.budgetLineId = 0 → l.reserved = 0) hlines
      (fun _ h0 => ?_) (h id')
    rcases hline with ⟨-, hzero⟩ | ⟨hexists, hsame, -⟩
    exacts [hzero, absurd (hsame ▸ h0) hexists]

theorem VaultEffect.usable (heffect : VaultEffect D env v msg v') (h : Usable id v) :
    Usable id v' := by
  have hkept : (v'.budgetLines id).budgetLineId ≠ 0 ∧ (v'.budgetLines id).active = true := by
    rcases heffect.lines with hlines | ⟨id', line, hlines, hline⟩
    · rw [hlines]
      exact ⟨h.exists_, h.active⟩
    · refine of_update (P := fun l => l.budgetLineId ≠ 0 ∧ l.active = true) hlines ?_
        ⟨h.exists_, h.active⟩
      rintro rfl
      obtain ⟨hexists, hsame, hactive⟩ := hline.resolve_left fun hnone => h.exists_ hnone.1
      rw [hsame, hactive]
      exact ⟨hexists, h.active⟩
  exact ⟨hkept.1, hkept.2, rfl⟩

/-- Writing a line that reserves as much as before. -/
theorem ledger_update (hlines : v'.budgetLines = update v.budgetLines id line)
    (hheld : v'.reservedAmountByReservation = v.reservedAmountByReservation)
    (hline : line.reserved = (v.budgetLines id).reserved) : ledger v' = ledger v := by
  unfold ledger
  rw [hheld]
  congr 1
  refine funext fun id' => of_update (P := (·.reserved = (v.budgetLines id').reserved)) hlines ?_ rfl
  rintro rfl
  exact hline

theorem VaultEffect.ledger_other (heffect : VaultEffect D env v msg v') (hvalid : LinesValid v)
    (hop : ledgerOp D (some (env, msg)) = none) : ledger v' = ledger v := by
  cases heffect with
  | administered hlines _ hheld _ =>
    unfold ledger
    rw [hlines, hheld]
  | deposited => rfl
  | created hnone => exact ledger_update rfl rfl (hvalid _ hnone).symm
  | spent => exact ledger_update rfl rfl rfl
  | reserved | released => cases hop

theorem ledger_setLine (v : SwarmBudgetVault) (id : Bytes32) (line : BudgetLine) :
    (ledger (setLine v id line)).reserved = update (ledger v).reserved id line.reserved :=
  funext (apply_update (fun _ => BudgetLine.reserved) v.budgetLines id line)

theorem VaultEffect.reserve {intentRoot : Bytes32} {amount : Uint256}
    (heffect : VaultEffect D env v (.reserve swarmId id amount intentRoot) v') :
    ledger v' =
        (ledger v).reserve ⟨D.reservationId id amount intentRoot env.timestamp, id, amount⟩ ∧
      0 < amount.val ∧ Usable id v' ∧ v'.isAuthorizedOperator env.sender = true := by
  have husable : Usable id v → Usable id v' := heffect.usable
  cases heffect with
  | administered _ _ _ hmsg => simp at hmsg
  | reserved hoperator hamount hline =>
    exact ⟨congrArg (ReservationLedger.mk · _) (ledger_setLine v id _), Fin.pos_iff_ne_zero.mpr hamount,
      husable ⟨hline.exists_, hline.active, rfl⟩, hoperator⟩

theorem VaultEffect.release {reservationId : Bytes32}
    (heffect : VaultEffect D env v (.releaseReservation swarmId id reservationId) v') :
    (ledger v).release id reservationId = some (ledger v') ∧
      v'.isAuthorizedOperator = v.isAuthorizedOperator := by
  cases heffect with
  | administered _ _ _ hmsg => simp at hmsg
  | released _ hheld hle =>
    exact ⟨ReservationLedger.release_eq_some.mpr
      ⟨hheld, hle, congrArg (ReservationLedger.mk · _) (ledger_setLine v id _)⟩, rfl⟩

end ledger

section system

variable {τ : Type} [ERC20SettlementToken τ] (D : BudgetVaultDeployment)

/-- The release of a reservation by the sender of `env`, naming the line and its swarm. -/
def releaseMsg (r : Reservation Bytes32 Bytes32) (w : WithTokens SwarmBudgetVault τ) : Msg :=
  .releaseReservation (w.contract.budgetLines r.owner).swarmId r.owner r.id

/-- The budget vault as a system of reservations, which its operators release. -/
def reservationSystem : ReservationSystem (WithTokens SwarmBudgetVault τ) (Option (Env × Msg)) Env
    Bytes32 Bytes32 where
  step := WorldStep (call D)
  view w := ledger w.contract
  op := ledgerOp D
  release env r w := execCall (call D) (some (env, releaseMsg r w)) w
  Allowed env w := w.contract.isAuthorizedOperator env.sender = true
  Known id w := Usable id w.contract
  Valid w := LinesValid w.contract
  valid_step hstep hvalid := by
    cases hstep with
    | call hcall => exact (effect_of_call hcall).linesValid hvalid
    | others => exact hvalid
  view_other hstep hvalid hop := by
    cases hstep with
    | call hcall => exact (effect_of_call hcall).ledger_other hvalid hop
    | others => rfl
  view_reserve := by
    intro w l w' r hstep hop
    cases hstep with
    | others => cases hop
    | @call env msg _ _ hcall =>
      cases msg with
      | reserve swarmId budgetLineId amount intentRoot =>
        obtain rfl := ReservationOp.reserve.inj (Option.some.inj hop)
        obtain ⟨hledger, hpos, husable, hoperator⟩ := (effect_of_call hcall).reserve
        exact ⟨hledger, hpos, husable, env, hoperator⟩
      | _ => cases hop
  view_release := by
    intro w l w' k i hstep hop
    cases hstep with
    | others => cases hop
    | @call env msg _ _ hcall =>
      cases msg with
      | releaseReservation swarmId budgetLineId reservationId =>
        obtain ⟨rfl, rfl⟩ := ReservationOp.release.inj (Option.some.inj hop)
        exact (effect_of_call hcall).release.1
      | _ => cases hop
  known_step hstep hknown := by
    cases hstep with
    | call hcall => exact (effect_of_call hcall).usable hknown
    | others => exact hknown
  release_sound hrelease := by
    cases worldStep_of_execCall hrelease with
    | call hcall => exact (effect_of_call hcall).release.1
  release_complete := by
    intro env r w l hallowed hknown hledger
    obtain ⟨hheld, hle, -⟩ := ReservationLedger.release_eq_some.mp hledger
    obtain ⟨v', hv'⟩ : ∃ v', releaseReservation env (w.contract.budgetLines r.owner).swarmId r.owner
        r.id w.contract = .ok ((), v') := by
      simp [releaseReservation, ← lineOf_iff]
      exact ⟨hallowed, hknown, hheld, hle⟩
    rw [execCall_of_ok (onContract_ok.mpr ⟨v', hv', rfl⟩)]
    exact Option.some_ne_none _
  allowed_release hrelease hallowed := by
    cases worldStep_of_execCall hrelease with
    | call hcall => rwa [(effect_of_call hcall).release.2]
  known_release hrelease hknown := by
    cases worldStep_of_execCall hrelease with
    | call hcall => exact (effect_of_call hcall).usable hknown

end system

end SwarmBudgetVault

/-! ### Fuel accounts -/

namespace AgentMemoryFuelVault

def ledger (v : AgentMemoryFuelVault) : ReservationLedger Bytes32 Bytes32 where
  reserved id := (v.fuelAccounts id).reserved
  held := v.reservedAmountByReservation

/-- Which operation of the ledger a call is. -/
def ledgerOp : Option (Env × Msg) → Option (ReservationOp Bytes32 Bytes32)
  | some (_, .reserveFuel agentId amount reservationRoot) =>
    some (.reserve ⟨reservationRoot, agentId, amount⟩)
  | some (_, .releaseReservation agentId reservationRoot) => some (.release agentId reservationRoot)
  | _ => none

/-- Accounts that do not exist have nothing reserved. -/
def AccountsValid (v : AgentMemoryFuelVault) : Prop :=
  ∀ id, (v.fuelAccounts id).agentId = 0 → (v.fuelAccounts id).reserved = 0

/-- What an accepted call does to the accounts and the reservations of the vault. -/
inductive FuelEffect (env : Env) (v : AgentMemoryFuelVault) : Msg → AgentMemoryFuelVault → Prop
  | administered {msg : Msg} {v' : AgentMemoryFuelVault} (haccounts : v'.fuelAccounts = v.fuelAccounts)
      (hheld : v'.reservedAmountByReservation = v.reservedAmountByReservation)
      (hop : ledgerOp (some (env, msg)) = none) : FuelEffect env v msg v'
  | written {msg : Msg} {v' : AgentMemoryFuelVault} {agentId : Bytes32} {account : FuelAccount}
      (haccounts : v'.fuelAccounts = update v.fuelAccounts agentId account)
      (hheld : v'.reservedAmountByReservation = v.reservedAmountByReservation)
      (hagent : account.agentId ≠ 0)
      (hreserved : account.reserved = (v.fuelAccounts agentId).reserved ∨
        (v.fuelAccounts agentId).agentId = 0 ∧ account.reserved = 0)
      (hop : ledgerOp (some (env, msg)) = none) : FuelEffect env v msg v'
  | reserved {agentId reservationRoot : Bytes32} {amount : Uint256}
      (hmeter : v.isAuthorizedMeter env.sender = true) (hamount : amount ≠ 0)
      (hagent : (v.fuelAccounts agentId).agentId ≠ 0) :
      FuelEffect env v (.reserveFuel agentId amount reservationRoot)
        { setAccount v agentId { v.fuelAccounts agentId with
            reserved := (v.fuelAccounts agentId).reserved + amount
            updatedAt := uint64 env.timestamp } with
          reservedAmountByReservation :=
            update v.reservedAmountByReservation reservationRoot amount }
  | released {agentId reservationRoot : Bytes32} (hagent : (v.fuelAccounts agentId).agentId ≠ 0)
      (hheld : v.reservedAmountByReservation reservationRoot ≠ 0)
      (hle : v.reservedAmountByReservation reservationRoot ≤ (v.fuelAccounts agentId).reserved) :
      FuelEffect env v (.releaseReservation agentId reservationRoot)
        { setAccount v agentId { v.fuelAccounts agentId with
            reserved := (v.fuelAccounts agentId).reserved -
              v.reservedAmountByReservation reservationRoot
            updatedAt := uint64 env.timestamp } with
          reservedAmountByReservation := update v.reservedAmountByReservation reservationRoot 0 }

section ledger

variable {env : Env} {msg : Msg} {v v' : AgentMemoryFuelVault} {id : Bytes32}
  {reservationRoot : Bytes32}

theorem effect_of_call {τ : Type} [ERC20SettlementToken τ] {self : Address}
    {w w' : WithTokens AgentMemoryFuelVault τ} (h : call self env msg w = .ok ((), w')) :
    FuelEffect env w.contract msg w'.contract := by
  cases msg with
  | ownable c =>
    obtain ⟨_, h', rfl⟩ := onContract_ok.mp h
    obtain ⟨_, _, rfl⟩ := within_ok.mp h'
    exact .administered rfl rfl rfl
  | setApprovedFuelToken account approved | setAuthorizedMeter account approved
  | setAuthorizedRegistrar account approved | setFuelPolicy policy =>
    simp [call, setApprovedFuelToken, setAuthorizedMeter, setAuthorizedRegistrar, setFuelPolicy] at h
    obtain ⟨-, rfl⟩ := h
    exact .administered rfl rfl rfl
  | registerFuelAccount agentId owner classId token =>
    obtain ⟨_, h', rfl⟩ := onContract_ok.mp h
    obtain ⟨-, hagent, -, -, -, hnone, -, -, -, rfl⟩ := registerFuelAccount_ok.mp h'
    exact .written rfl rfl hagent (.inr ⟨hnone, rfl⟩) rfl
  | depositFuel agentId payer token amount =>
    simp [call, depositFuel, credit] at h
    obtain ⟨⟨-, hagent, -⟩, _, -, rfl⟩ := h
    exact .written rfl rfl hagent (.inl rfl) rfl
  | reserveFuel agentId amount reservationRoot =>
    simp [call, reserveFuel] at h
    obtain ⟨⟨hmeter, hamount, hagent, -⟩, rfl⟩ := h
    exact .reserved hmeter hamount hagent
  | consumeFuel agentId units receiptRoot =>
    simp [call, consumeFuel] at h
    obtain ⟨⟨-, -, hagent, -⟩, _, -, -, -, rfl⟩ := h
    exact .written rfl rfl hagent (.inl rfl) rfl
  | releaseReservation agentId reservationRoot =>
    simp [call, releaseReservation] at h
    obtain ⟨⟨-, hagent, hheld, hle⟩, rfl⟩ := h
    exact .released hagent hheld hle
  | refundFuel agentId recipient amount =>
    simp [call, refundFuel, debit] at h
    obtain ⟨⟨hagent, -⟩, _, -, rfl⟩ := h
    exact .written rfl rfl hagent (.inl rfl) rfl

/-- Writing an account that exists. -/
theorem accounts_update {account : FuelAccount} {agentId : Bytes32}
    (haccounts : v'.fuelAccounts = update v.fuelAccounts agentId account)
    (hagent : account.agentId ≠ 0) (id : Bytes32) :
    (AccountsValid v → AccountsValid v') ∧
      ((v.fuelAccounts id).agentId ≠ 0 → (v'.fuelAccounts id).agentId ≠ 0) := by
  refine ⟨fun h id' => ?_, of_update (P := (·.agentId ≠ 0)) haccounts fun _ => hagent⟩
  exact of_update (P := fun a => a.agentId = 0 → a.reserved = 0) haccounts
    (fun _ h0 => absurd h0 hagent) (h id')

theorem FuelEffect.accounts (heffect : FuelEffect env v msg v') (id : Bytes32) :
    (AccountsValid v → AccountsValid v') ∧
      ((v.fuelAccounts id).agentId ≠ 0 → (v'.fuelAccounts id).agentId ≠ 0) := by
  cases heffect with
  | administered haccounts =>
    refine ⟨fun h id' => ?_, fun h => ?_⟩
    · rw [haccounts]
      exact h id'
    · rwa [haccounts]
  | written haccounts _ hagent => exact accounts_update haccounts hagent id
  | reserved _ _ hagent | released hagent =>
    refine accounts_update rfl ?_ id
    exact hagent

theorem ledger_setAccount (v : AgentMemoryFuelVault) (id : Bytes32) (account : FuelAccount) :
    (ledger (setAccount v id account)).reserved =
      update (ledger v).reserved id account.reserved :=
  funext (apply_update (fun _ => FuelAccount.reserved) v.fuelAccounts id account)

theorem FuelEffect.ledger_other (heffect : FuelEffect env v msg v') (hvalid : AccountsValid v)
    (hop : ledgerOp (some (env, msg)) = none) : ledger v' = ledger v := by
  cases heffect with
  | administered haccounts hheld =>
    unfold ledger
    rw [haccounts, hheld]
  | @written _ _ agentId account haccounts hheld _ hreserved =>
    have hsame : account.reserved = (v.fuelAccounts agentId).reserved := by
      rcases hreserved with h | ⟨hnone, hzero⟩
      · exact h
      · rw [hzero, hvalid agentId hnone]
    unfold ledger
    rw [hheld]
    congr 1
    refine funext fun id' =>
      of_update (P := (·.reserved = (v.fuelAccounts id').reserved)) haccounts ?_ rfl
    rintro rfl
    exact hsame
  | reserved | released => cases hop

theorem FuelEffect.reserve {amount : Uint256}
    (heffect : FuelEffect env v (.reserveFuel id amount reservationRoot) v') :
    ledger v' = (ledger v).reserve ⟨reservationRoot, id, amount⟩ ∧ 0 < amount.val ∧
      (v'.fuelAccounts id).agentId ≠ 0 ∧ v'.isAuthorizedMeter env.sender = true := by
  have haccount := (heffect.accounts id).2
  cases heffect with
  | administered _ _ hop | written _ _ _ _ hop => cases hop
  | reserved hmeter hamount hagent =>
    exact ⟨congrArg (ReservationLedger.mk · _) (ledger_setAccount v id _),
      Fin.pos_iff_ne_zero.mpr hamount, haccount hagent, hmeter⟩

theorem FuelEffect.release (heffect : FuelEffect env v (.releaseReservation id reservationRoot) v') :
    (ledger v).release id reservationRoot = some (ledger v') ∧
      v'.isAuthorizedMeter = v.isAuthorizedMeter := by
  cases heffect with
  | administered _ _ hop | written _ _ _ _ hop => cases hop
  | released _ hheld hle =>
    exact ⟨ReservationLedger.release_eq_some.mpr
      ⟨hheld, hle, congrArg (ReservationLedger.mk · _) (ledger_setAccount v id _)⟩, rfl⟩

end ledger

section system

variable {τ : Type} [ERC20SettlementToken τ] (self : Address)

/-- The fuel vault as a system of reservations, which its meters release. -/
def reservationSystem : ReservationSystem (WithTokens AgentMemoryFuelVault τ) (Option (Env × Msg))
    Env Bytes32 Bytes32 where
  step := WorldStep (call self)
  view w := ledger w.contract
  op := ledgerOp
  release env r w := execCall (call self) (some (env, .releaseReservation r.owner r.id)) w
  Allowed env w := w.contract.isAuthorizedMeter env.sender = true
  Known id w := (w.contract.fuelAccounts id).agentId ≠ 0
  Valid w := AccountsValid w.contract
  valid_step hstep hvalid := by
    cases hstep with
    | call hcall => exact ((effect_of_call hcall).accounts 0).1 hvalid
    | others => exact hvalid
  view_other hstep hvalid hop := by
    cases hstep with
    | call hcall => exact (effect_of_call hcall).ledger_other hvalid hop
    | others => rfl
  view_reserve := by
    intro w l w' r hstep hop
    cases hstep with
    | others => cases hop
    | @call env msg _ _ hcall =>
      cases msg with
      | reserveFuel agentId amount reservationRoot =>
        obtain rfl := ReservationOp.reserve.inj (Option.some.inj hop)
        obtain ⟨hledger, hpos, hagent, hmeter⟩ := (effect_of_call hcall).reserve
        exact ⟨hledger, hpos, hagent, env, hmeter⟩
      | _ => cases hop
  view_release := by
    intro w l w' k i hstep hop
    cases hstep with
    | others => cases hop
    | @call env msg _ _ hcall =>
      cases msg with
      | releaseReservation agentId reservationRoot =>
        obtain ⟨rfl, rfl⟩ := ReservationOp.release.inj (Option.some.inj hop)
        exact (effect_of_call hcall).release.1
      | _ => cases hop
  known_step hstep hknown := by
    cases hstep with
    | call hcall => exact ((effect_of_call hcall).accounts _).2 hknown
    | others => exact hknown
  release_sound hrelease := by
    cases worldStep_of_execCall hrelease with
    | call hcall => exact (effect_of_call hcall).release.1
  release_complete := by
    intro env r w l hallowed hknown hledger
    obtain ⟨hheld, hle, -⟩ := ReservationLedger.release_eq_some.mp hledger
    obtain ⟨v', hv'⟩ : ∃ v', releaseReservation env r.owner r.id w.contract = .ok ((), v') := by
      simp [releaseReservation]
      exact ⟨hallowed, hknown, hheld, hle⟩
    rw [execCall_of_ok (onContract_ok.mpr ⟨v', hv', rfl⟩)]
    exact Option.some_ne_none _
  allowed_release hrelease hallowed := by
    cases worldStep_of_execCall hrelease with
    | call hcall => rwa [(effect_of_call hcall).release.2]
  known_release hrelease hknown := by
    cases worldStep_of_execCall hrelease with
    | call hcall => exact ((effect_of_call hcall).accounts _).2 hknown

end system

end AgentMemoryFuelVault

/-! ### Both vaults -/

section runs

variable {τ : Type} [ERC20SettlementToken τ]

/-- In every run of either vault from its constructor, the ledger agrees with the outstanding
reservations after every step exactly if every reservation is made under an identifier that holds
none and every release names the owner of its reservation. -/
theorem reservation_ledgers_agree_iff (initialOwner : Address) (tokens : Address → τ) :
    (∀ (D : BudgetVaultDeployment) steps s',
        Trace (SwarmBudgetVault.reservationSystem (τ := τ) D).Tracked
          (⟨SwarmBudgetVault.deployed initialOwner, tokens⟩, []) steps s' →
        ((∀ t ∈ steps, (SwarmBudgetVault.reservationSystem D).Agrees t.after) ↔
          ∀ t ∈ steps, (SwarmBudgetVault.reservationSystem (τ := τ) D).Orderly t.before t.label)) ∧
      ∀ (self : Address) steps s',
        Trace (AgentMemoryFuelVault.reservationSystem (τ := τ) self).Tracked
          (⟨AgentMemoryFuelVault.deployed initialOwner, tokens⟩, []) steps s' →
        ((∀ t ∈ steps, (AgentMemoryFuelVault.reservationSystem self).Agrees t.after) ↔
          ∀ t ∈ steps,
            (AgentMemoryFuelVault.reservationSystem (τ := τ) self).Orderly t.before t.label) := by
  refine ⟨fun D steps s' htrace => ?_, fun self steps s' htrace => ?_⟩
  · exact ReservationSystem.agrees_iff htrace (fun _ _ => rfl) (fun _ => rfl) (fun _ => rfl)
  · exact ReservationSystem.agrees_iff htrace (fun _ _ => rfl) (fun _ => rfl) (fun _ => rfl)

end runs

/-! ### Reservations that repeat an identifier or are released for another owner -/

/-- Two reservations of 20 on one line with the same intent in one block. -/
def reserveRepeatedly : List (Option (Env × SwarmBudgetVault.Msg)) :=
  SwarmBudgetVault.sampleFunding ++ [some (⟨2, 10⟩, .createBudgetLine 6 5 100 7 0 0),
    some (⟨2, 10⟩, .reserve 6 7 20 11), some (⟨2, 10⟩, .reserve 6 7 20 11)]

def sampleFuelVault : WithTokens AgentMemoryFuelVault TestToken :=
  ⟨AgentMemoryFuelVault.deployed 1, fun _ => ⟨fun _ => 1000, fun _ _ => 1000⟩⟩

/-- The owner 1 of the vault admits the token 5, the registrar 2, the meter 3 and a policy for the
class 6; the agents 7 and 8 get accounts with 100 each. -/
def sampleFuel : List (Option (Env × AgentMemoryFuelVault.Msg)) :=
  [some (⟨1, 10⟩, .setApprovedFuelToken 5 true), some (⟨1, 10⟩, .setAuthorizedRegistrar 2 true),
    some (⟨1, 10⟩, .setAuthorizedMeter 3 true),
    some (⟨1, 10⟩, .setFuelPolicy ⟨6, 5, 0, 1, 0, true, true⟩),
    some (⟨2, 10⟩, .registerFuelAccount 7 4 6 5), some (⟨2, 10⟩, .registerFuelAccount 8 4 6 5),
    some (⟨4, 10⟩, .depositFuel 7 4 5 100), some (⟨4, 10⟩, .depositFuel 8 4 5 100)]

/-- The reservation 12 of the agent 8 is released for the agent 7. -/
def releaseForAnother : List (Option (Env × AgentMemoryFuelVault.Msg)) :=
  sampleFuel ++ [some (⟨3, 11⟩, .reserveFuel 7 20 11), some (⟨3, 11⟩, .reserveFuel 8 20 12),
    some (⟨3, 12⟩, .releaseReservation 7 12)]

/-- After two reservations of 20 under one identifier 40 are reserved, and after the release of 20
nothing more can be released.  After the release for another agent, the agent 7 has nothing reserved
with a reservation outstanding, and the agent 8 has 20 reserved without one. -/
theorem reservation_ledgers_disagree : ∃ steps₁ steps₂ s₁ s₂,
    Trace (SwarmBudgetVault.reservationSystem SwarmBudgetVault.sampleVault).Tracked
        (SwarmBudgetVault.sampleDeployed, []) steps₁ s₁ ∧
      steps₁.map (·.label) = reserveRepeatedly ∧ s₁.2 = [⟨11, 7, 20⟩, ⟨11, 7, 20⟩] ∧
      (s₁.1.contract.budgetLines 7).reserved = 40 ∧
      s₁.1.contract.reservedAmountByReservation 11 = 20 ∧
      ¬ (SwarmBudgetVault.reservationSystem SwarmBudgetVault.sampleVault).Agrees s₁ ∧
      Trace (AgentMemoryFuelVault.reservationSystem 9).Tracked (sampleFuelVault, []) steps₂ s₂ ∧
      steps₂.map (·.label) = releaseForAnother ∧ s₂.2 = [⟨11, 7, 20⟩] ∧
      (s₂.1.contract.fuelAccounts 7).reserved = 0 ∧
      (s₂.1.contract.fuelAccounts 8).reserved = 20 ∧
      ¬ (AgentMemoryFuelVault.reservationSystem 9).Agrees s₂ := by
  obtain ⟨steps₁, s₁, htrace₁, hlabels₁, hout₁, hforty, htwenty, hoperator, hstuck⟩ : ∃ steps s,
      Trace (SwarmBudgetVault.reservationSystem SwarmBudgetVault.sampleVault).Tracked
          (SwarmBudgetVault.sampleDeployed, []) steps s ∧
        steps.map (·.label) = reserveRepeatedly ∧ s.2 = [⟨11, 7, 20⟩, ⟨11, 7, 20⟩] ∧
        (s.1.contract.budgetLines 7).reserved = 40 ∧
        s.1.contract.reservedAmountByReservation 11 = 20 ∧
        s.1.contract.isAuthorizedOperator 2 = true ∧
        (releaseAll ((SwarmBudgetVault.reservationSystem SwarmBudgetVault.sampleVault).release
          ⟨2, 11⟩) s.2 s.1).isSome = false :=
    Trace.exists_of_execute (ReservationSystem.tracked_of_exec worldStep_of_execCall)
      ⟨_, rfl, rfl, rfl, rfl, rfl, rfl⟩
  obtain ⟨steps₂, s₂, htrace₂, hlabels₂, hout₂, hseven, height⟩ : ∃ steps s,
      Trace (AgentMemoryFuelVault.reservationSystem 9).Tracked (sampleFuelVault, []) steps s ∧
        steps.map (·.label) = releaseForAnother ∧ s.2 = [⟨11, 7, 20⟩] ∧
        (s.1.contract.fuelAccounts 7).reserved = 0 ∧
        (s.1.contract.fuelAccounts 8).reserved = 20 :=
    Trace.exists_of_execute (ReservationSystem.tracked_of_exec worldStep_of_execCall)
      ⟨_, rfl, rfl, rfl, rfl⟩
  refine ⟨steps₁, steps₂, s₁, s₂, htrace₁, hlabels₁, hout₁, hforty, htwenty, fun hagrees => ?_,
    htrace₂, hlabels₂, hout₂, hseven, height, fun hagrees => ?_⟩
  · have hall := hagrees.releasable ⟨2, 11⟩ hoperator s₁.2 (List.Perm.refl _)
    rw [hstuck] at hall
    cases hall
  · have hreserved := hagrees.reserved 7
    rw [hout₂] at hreserved
    exact absurd (hreserved.symm.trans hseven) (by decide)

/-- The reservations of two agents are made under two roots and released for their agents. -/
def releaseInOrder : List (Option (Env × AgentMemoryFuelVault.Msg)) :=
  sampleFuel ++ [some (⟨3, 11⟩, .reserveFuel 7 20 11), some (⟨3, 11⟩, .reserveFuel 8 20 12),
    some (⟨3, 12⟩, .releaseReservation 8 12)]

theorem reservation_ledgers_agree_iff_sample : ∃ steps s,
    Trace (AgentMemoryFuelVault.reservationSystem 9).Tracked (sampleFuelVault, []) steps s ∧
      steps.map (·.label) = releaseInOrder ∧
      ∀ t ∈ steps, (AgentMemoryFuelVault.reservationSystem 9).Agrees t.after := by
  obtain ⟨steps, s, htrace, hlabels, horderly⟩ : ∃ steps s,
      Trace (AgentMemoryFuelVault.reservationSystem 9).Tracked (sampleFuelVault, []) steps s ∧
        steps.map (·.label) = releaseInOrder ∧ (steps.all fun t =>
          match AgentMemoryFuelVault.ledgerOp t.label with
          | none => true
          | some (.reserve r) => t.before.1.contract.reservedAmountByReservation r.id = 0
          | some (.release k i) => t.before.2.all fun r => r.id ≠ i ∨ r.owner = k) = true :=
    Trace.exists_of_execute (ReservationSystem.tracked_of_exec worldStep_of_execCall) ⟨_, rfl, rfl⟩
  refine ⟨steps, s, htrace, hlabels,
    ((reservation_ledgers_agree_iff 1 _).2 9 steps s htrace).mpr fun t ht => ?_⟩
  have ht := List.all_eq_true.mp horderly t ht
  rcases hop : AgentMemoryFuelVault.ledgerOp t.label with _ | (r | ⟨k, i⟩)
  · exact ReservationSystem.orderly_of_none hop
  · rw [hop] at ht
    exact (ReservationSystem.orderly_reserve hop).mpr (of_decide_eq_true ht)
  · rw [hop] at ht
    refine (ReservationSystem.orderly_release hop).mpr fun r hr => ?_
    simpa [or_iff_not_imp_left] using List.all_eq_true.mp ht r hr

end FlowMemory.AgentNetwork
