import FlowMemory.LocalRuntime.Ledger

/-! # Balances as slots

Units are held in two maps, but debits and credits treat both alike.  A `Slot` names one
balance: that of an account in the local asset, or a token balance.  `slotOf` is the slot that
an account uses for an asset.

* `debitAssetUnits_ok` and `creditAssetUnits_ok` say what an accepted debit or credit did, in
  terms of the units of one slot (`Slot.setUnits`), after a credit has opened the slot if it
  has to (`openSlot`).
* `debitAssetUnits_fails` and `creditAssetUnits_fails` say when they are refused.
* A debit or credit that is refused leaves the state as it was (`creditAssetUnits_atomic`). -/

namespace FlowMemory

open LocalRuntimeError Txn OrderedMap

/-- One balance of the ledger. -/
inductive Slot where
  | localUnits (accountId : String)
  | token (balanceId : String)
  deriving DecidableEq

namespace Slot

/-- The units in a slot, if there is a balance. -/
def units (s : ChainState) : Slot → Option UInt64
  | .localUnits accountId => s.localTestUnitBalances[accountId]?.map (·.units)
  | .token balanceId => s.tokenBalances[balanceId]?.map (·.units)

/-- The mark of a slot, if there is a balance. -/
def noValue (s : ChainState) : Slot → Option Bool
  | .localUnits accountId => s.localTestUnitBalances[accountId]?.map (·.noValue)
  | .token balanceId => s.tokenBalances[balanceId]?.map (·.noValue)

/-- The state with the units of a balance replaced. -/
def setUnits (s : ChainState) (u : UInt64) : Slot → ChainState
  | .localUnits accountId => { s with
      localTestUnitBalances := s.localTestUnitBalances.update accountId fun b =>
        { b with units := u, updatedAtBlock := s.nextBlockNumber } }
  | .token balanceId => { s with
      tokenBalances := s.tokenBalances.update balanceId fun b =>
        { b with units := u, updatedAtBlock := s.nextBlockNumber } }

/-- The state with a balance marked as bearing value. -/
def mark (s : ChainState) : Slot → ChainState
  | .localUnits accountId => { s with
      localTestUnitBalances :=
        s.localTestUnitBalances.update accountId fun b => { b with noValue := false } }
  | .token balanceId => { s with
      tokenBalances := s.tokenBalances.update balanceId fun b => { b with noValue := false } }

/-- The number of units in a slot; an absent balance holds none. -/
def held (s : ChainState) (slot : Slot) : ℕ := (slot.units s).elim 0 UInt64.toNat

variable {s : ChainState} {slot slot' : Slot} {u v : UInt64} {t : ChainState}

theorem units_congr (hl : t.localTestUnitBalances = s.localTestUnitBalances)
    (ht : t.tokenBalances = s.tokenBalances) (slot : Slot) : slot.units t = slot.units s := by
  cases slot with
  | localUnits a => rw [units, units, hl]
  | token id => rw [units, units, ht]

theorem held_congr (hl : t.localTestUnitBalances = s.localTestUnitBalances)
    (ht : t.tokenBalances = s.tokenBalances) (slot : Slot) : slot.held t = slot.held s := by
  rw [held, held, units_congr hl ht]

theorem units_setUnits (h : slot.units s = some u) :
    slot'.units (slot.setUnits s v) = if slot = slot' then some v else slot'.units s := by
  cases slot with
  | localUnits a =>
    obtain ⟨b, hb, rfl⟩ := Option.map_eq_some_iff.mp h
    cases slot' with
    | localUnits a' =>
      simp only [units, setUnits, update_of_some hb, getElem?_insert,
        localUnits.injEq]
      split_ifs <;> rfl
    | token id => simp [units, setUnits]
  | token id =>
    obtain ⟨b, hb, rfl⟩ := Option.map_eq_some_iff.mp h
    cases slot' with
    | localUnits a => simp [units, setUnits]
    | token id' =>
      simp only [units, setUnits, update_of_some hb, getElem?_insert,
        token.injEq]
      split_ifs <;> rfl

theorem noValue_setUnits : slot'.noValue (slot.setUnits s v) = slot'.noValue s := by
  cases slot <;> cases slot' <;>
    first
    | rfl
    | exact map_getElem?_update fun _ => rfl

theorem noValue_mark : slot'.noValue (slot.mark s) =
    if slot = slot' then (slot'.noValue s).map (fun _ => false) else slot'.noValue s := by
  cases slot <;> cases slot' <;>
    simp only [noValue, mark, getElem?_update, localUnits.injEq, token.injEq,
      reduceCtorEq, if_false]
  · split_ifs <;> simp [Function.comp_def]
  · split_ifs <;> simp [Function.comp_def]

end Slot

section ledger

variable [K : Keccak]

/-- The slot that an account uses for an asset. -/
def slotOf (accountId assetId : String) : Slot :=
  if assetId = localTestUnitAssetId then .localUnits accountId
  else .token (deterministicTokenBalanceId assetId accountId)

/-- The state with a token balance opened, if the asset is a token without one. -/
def openSlot (s : ChainState) (accountId assetId : String) : ChainState :=
  if assetId = localTestUnitAssetId then s
  else { s with
    tokenBalances := s.tokenBalances.insertIfNew (deterministicTokenBalanceId assetId accountId)
      (freshTokenBalance s accountId assetId) }

/-- The local asset, or a launched token. -/
def AssetExists (s : ChainState) (assetId : String) : Prop :=
  assetId = localTestUnitAssetId ∨ s.tokenDefinitions.contains assetId = true

variable {s s' : ChainState} {accountId assetId : String} {n : UInt64} {w : Unit}

omit K in
theorem ensureAssetExists_ok : ensureAssetExists s assetId = .ok w ↔ AssetExists s assetId := by
  rw [ensureAssetExists, Check.rejectIf_ok, not_not, AssetExists]

/-! ### Debits -/

theorem assetUnits_ok {u : UInt64} : assetUnits s accountId assetId = .ok u ↔
    AssetExists s assetId ∧ ((slotOf accountId assetId).units s = some u ∨
      (assetId ≠ localTestUnitAssetId ∧ (slotOf accountId assetId).units s = none ∧ u = 0)) := by
  unfold assetUnits slotOf AssetExists
  split_ifs with h
  · simp only [Check.bind_ok, Check.okOr_ok, Check.pure_ok, Slot.units]
    simp [h, eq_comm (a := u)]
  · simp only [Check.bind_ok, ensureAssetExists_ok, Check.pure_ok, AssetExists, h, false_or,
      exists_const, ne_eq, not_false_eq_true, true_and, Slot.units]
    cases s.tokenBalances[deterministicTokenBalanceId assetId accountId]? <;>
      simp [eq_comm (a := u)]

theorem ensureAssetUnitsAvailable_ok :
    ensureAssetUnitsAvailable s accountId assetId n = .ok w ↔
      ∃ u, assetUnits s accountId assetId = .ok u ∧ n ≤ u := by
  simp only [ensureAssetUnitsAvailable, Check.bind_ok, Check.rejectIf_ok, UInt64.not_lt]

theorem debitAssetUnits_ok : debitAssetUnits accountId assetId n s = (.ok w, s') ↔
    AssetExists s assetId ∧ ∃ u, (slotOf accountId assetId).units s = some u ∧ n ≤ u ∧
      s' = (slotOf accountId assetId).setUnits s (u - n) := by
  simp only [debitAssetUnits, get_bind, ofExcept_bind_ok, ensureAssetUnitsAvailable_ok,
    assetUnits_ok]
  by_cases h : assetId = localTestUnitAssetId
  · simp only [h, if_true, slotOf, okOr_bind_ok, modify_ok, Slot.units, Slot.setUnits,
      Option.map_eq_some_iff, ne_eq, not_true_eq_false, false_and, or_false, exists_const]
    constructor
    · rintro ⟨⟨_, ⟨he, b, hb, rfl⟩, hn⟩, b', hb', rfl⟩
      obtain rfl := Option.some.inj (hb.symm.trans hb')
      exact ⟨he, _, ⟨b, hb, rfl⟩, hn, by rw [update_of_some hb]⟩
    · rintro ⟨he, _, ⟨b, hb, rfl⟩, hn, rfl⟩
      exact ⟨⟨_, ⟨he, b, hb, rfl⟩, hn⟩, b, hb, by rw [update_of_some hb]⟩
  · simp only [h, if_false, slotOf, okOr_bind_ok, modify_ok, Slot.units, Slot.setUnits,
      Option.map_eq_some_iff, ne_eq, not_false_eq_true, true_and, exists_const]
    constructor
    · rintro ⟨⟨u, ⟨he, hu⟩, hn⟩, b, hb, rfl⟩
      have hbu : b.units = u := by
        rcases hu with ⟨b', hb', rfl⟩ | ⟨hnone, _⟩
        · rw [Option.some.inj (hb.symm.trans hb')]
        · simp [hb] at hnone
      subst hbu
      exact ⟨he, _, ⟨b, hb, rfl⟩, hn, by rw [update_of_some hb]⟩
    · rintro ⟨he, _, ⟨b, hb, rfl⟩, hn, rfl⟩
      exact ⟨⟨_, ⟨he, Or.inl ⟨b, hb, rfl⟩⟩, hn⟩, b, hb, by rw [update_of_some hb]⟩

theorem debitAssetUnits_atomic : Atomic (debitAssetUnits accountId assetId n) :=
  .get_bind fun _ => .ofExcept_bind fun _ =>
    .ite (.okOr_bind fun _ => Total.modify.atomic) (.okOr_bind fun _ => Total.modify.atomic)

/-! ### Credits -/

theorem tokenBalances_openSlot_self (s : ChainState) (accountId : String)
    (h : assetId ≠ localTestUnitAssetId) :
    (openSlot s accountId assetId).tokenBalances[deterministicTokenBalanceId assetId accountId]? =
      some (tokenBalanceOrFresh s accountId assetId) := by
  rw [openSlot, if_neg h]
  exact getElem?_insertIfNew_self

theorem creditAssetUnits_ok : creditAssetUnits accountId assetId n s = (.ok w, s') ↔
    n ≠ 0 ∧ AssetExists s assetId ∧ ∃ u v,
      (slotOf accountId assetId).units (openSlot s accountId assetId) = some u ∧
      checkedAdd u n = some v ∧
      s' = (slotOf accountId assetId).setUnits (openSlot s accountId assetId) v := by
  simp only [creditAssetUnits, rejectIf_bind_ok, get_bind]
  by_cases h : assetId = localTestUnitAssetId
  · simp only [h, if_true, slotOf, openSlot, AssetExists, true_or, true_and, okOr_bind_ok,
      modify_ok, Slot.units, Slot.setUnits, Option.map_eq_some_iff]
    refine and_congr_right fun _ => ⟨?_, ?_⟩
    · rintro ⟨b, hb, v, hv, rfl⟩
      exact ⟨b.units, v, ⟨b, hb, rfl⟩, hv, by rw [update_of_some hb]⟩
    · rintro ⟨_, v, ⟨b, hb, rfl⟩, hv, rfl⟩
      exact ⟨b, hb, v, hv, by rw [update_of_some hb]⟩
  · have hb := tokenBalances_openSlot_self s accountId h
    have hset (v : UInt64) : (slotOf accountId assetId).setUnits (openSlot s accountId assetId) v =
        { s with
          tokenBalances := s.tokenBalances.insert (deterministicTokenBalanceId assetId accountId)
            { tokenBalanceOrFresh s accountId assetId with
              units := v, updatedAtBlock := s.nextBlockNumber } } := by
      rw [slotOf, if_neg h, Slot.setUnits, update_of_some hb, openSlot, if_neg h,
        insert_insertIfNew]
    have hunits : (slotOf accountId assetId).units (openSlot s accountId assetId) =
        some (tokenBalanceOrFresh s accountId assetId).units := by
      rw [slotOf, if_neg h, Slot.units, hb, Option.map_some]
    simp only [h, if_false, ofExcept_bind_ok, ensureAssetExists_ok, exists_const, modify_bind,
      okOr_bind_ok, modify_ok, insert_insertIfNew, hunits, hset, Option.some.injEq]
    simp

/-- The balance opened before the addition either was there or is empty, and adding to an empty
balance does not overflow. -/
theorem openSlot_of_overflow (h : assetId ≠ localTestUnitAssetId)
    (hov : checkedAdd (tokenBalanceOrFresh s accountId assetId).units n = none) :
    openSlot s accountId assetId = s := by
  rw [checkedAdd_eq_none, tokenBalanceOrFresh] at hov
  rw [openSlot, if_neg h]
  cases hb : s.tokenBalances[deterministicTokenBalanceId assetId accountId]? with
  | none =>
    rw [hb] at hov
    have hn := n.toNat_lt
    simp only [Option.getD_none, freshTokenBalance, UInt64.toNat_zero] at hov
    omega
  | some b => rw [insertIfNew_of_some hb]

theorem creditAssetUnits_atomic : Atomic (creditAssetUnits accountId assetId n) := by
  intro s e s' h
  simp only [creditAssetUnits, rejectIf_bind_error, get_bind] at h
  rcases h with ⟨-, -, rfl⟩ | ⟨-, h⟩
  · rfl
  split_ifs at h with hl
  · simp only [okOr_bind_error] at h
    rcases h with ⟨-, -, rfl⟩ | ⟨b, -, ⟨-, -, rfl⟩ | ⟨u, -, h⟩⟩
    · rfl
    · rfl
    · exact absurd h (Total.modify _ _ _)
  · simp only [ofExcept_bind_error, modify_bind, okOr_bind_error] at h
    rcases h with ⟨-, rfl⟩ | ⟨_, -, ⟨hov, -, rfl⟩ | ⟨u, -, h⟩⟩
    · rfl
    · have hopen := openSlot_of_overflow hl hov
      rwa [openSlot, if_neg hl] at hopen
    · exact absurd h (Total.modify _ _ _)

theorem held_openSlot (s : ChainState) (accountId assetId : String) (slot : Slot) :
    slot.held (openSlot s accountId assetId) = slot.held s := by
  unfold openSlot
  split_ifs with h
  · rfl
  · cases slot with
    | localUnits a => rfl
    | token id =>
      simp only [Slot.held, Slot.units]
      by_cases hid : deterministicTokenBalanceId assetId accountId = id
      · subst hid
        rw [getElem?_insertIfNew_self]
        cases s.tokenBalances[deterministicTokenBalanceId assetId accountId]? <;> rfl
      · rw [getElem?_insertIfNew_of_ne hid]

/-! ### Marks -/

theorem markAssetBalanceValueBearing_ok :
    markAssetBalanceValueBearing accountId assetId s = (.ok w, s') ↔
      s' = (slotOf accountId assetId).mark s := by
  unfold markAssetBalanceValueBearing slotOf
  split_ifs
  · rw [modify_ok, Slot.mark]
  · rw [modify_ok, Slot.mark]

/-! ### When a debit or a credit is refused -/

/-- A debit that is refused: the asset or the balance is missing, or it holds too little. -/
def DebitBlocked (s : ChainState) (accountId assetId : String) (held amount : ℕ) : Prop :=
  ¬ AssetExists s assetId ∨ (slotOf accountId assetId).units s = none ∨ held < amount

/-- A credit that is refused: nothing is credited, the asset or the account is missing, or the
balance would overflow. -/
def CreditBlocked (s : ChainState) (accountId assetId : String) (held amount : ℕ) : Prop :=
  amount = 0 ∨ ¬ AssetExists s assetId ∨
    (assetId = localTestUnitAssetId ∧ s.localTestUnitBalances[accountId]? = none) ∨
    2 ^ 64 ≤ held + amount

theorem debitAssetUnits_fails : Fails (debitAssetUnits accountId assetId n) s ↔
    DebitBlocked s accountId assetId ((slotOf accountId assetId).held s) n.toNat := by
  simp only [fails_iff, ne_eq, debitAssetUnits_ok]
  constructor
  · intro h
    by_contra hb
    simp only [DebitBlocked, not_or, not_not, not_lt, Slot.held] at hb
    obtain ⟨he, hu, hn⟩ := hb
    obtain ⟨u, hu⟩ := Option.ne_none_iff_exists'.mp hu
    rw [hu, Option.elim_some] at hn
    exact h () _ ⟨he, u, hu, UInt64.le_iff_toNat_le.mpr hn, rfl⟩
  · rintro hb - s' ⟨he, u, hu, hn, -⟩
    rw [UInt64.le_iff_toNat_le] at hn
    simp only [DebitBlocked, Slot.held, hu, Option.elim_some, reduceCtorEq, false_or] at hb
    rcases hb with hb | hb
    · exact hb he
    · omega

theorem units_openSlot_isSome (h : ¬ (assetId = localTestUnitAssetId ∧
    s.localTestUnitBalances[accountId]? = none)) :
    ∃ u, (slotOf accountId assetId).units (openSlot s accountId assetId) = some u := by
  by_cases hl : assetId = localTestUnitAssetId
  · obtain ⟨b, hb⟩ := Option.ne_none_iff_exists'.mp fun hb => h ⟨hl, hb⟩
    exact ⟨b.units, by rw [slotOf, openSlot, if_pos hl, if_pos hl, Slot.units, hb]; rfl⟩
  · exact ⟨_, by rw [slotOf, if_neg hl, Slot.units, tokenBalances_openSlot_self _ _ hl]; rfl⟩

theorem creditAssetUnits_fails : Fails (creditAssetUnits accountId assetId n) s ↔
    CreditBlocked s accountId assetId ((slotOf accountId assetId).held s) n.toNat := by
  have hz : n.toNat = 0 ↔ n = 0 := by rw [← UInt64.toNat_inj, UInt64.toNat_zero]
  rw [← held_openSlot s accountId assetId]
  simp only [fails_iff, ne_eq, creditAssetUnits_ok, Slot.held]
  constructor
  · intro h
    by_contra hb
    simp only [CreditBlocked, not_or, not_not, not_le, hz] at hb
    obtain ⟨hn, he, hslot, hov⟩ := hb
    obtain ⟨u, hu⟩ := units_openSlot_isSome hslot
    rw [hu, Option.elim_some] at hov
    have hv : checkedAdd u n = some (u + n) := if_pos hov
    exact h () _ ⟨hn, he, u, u + n, hu, hv, rfl⟩
  · rintro hb - s' ⟨hn, he, u, v, hu, hv, -⟩
    rw [checkedAdd_eq_some] at hv
    have hlt := v.toNat_lt
    rw [CreditBlocked, hu, Option.elim_some, hz] at hb
    rcases hb with hb | hb | ⟨hl, hb⟩ | hb
    · exact hn hb
    · exact hb he
    · rw [slotOf, openSlot, if_pos hl, if_pos hl, Slot.units, hb] at hu
      cases hu
    · omega

/-! ### What changes -/

/-- Only balances differ, and no account has been added or removed. -/
structure BalancesOnly (s t : ChainState) : Prop where
  frame : ∃ L T, t = { s with localTestUnitBalances := L, tokenBalances := T }
  accounts : ∀ a : String,
    t.localTestUnitBalances[a]? = none ↔ s.localTestUnitBalances[a]? = none

omit K in
theorem BalancesOnly.trans {t u : ChainState} (h₁ : BalancesOnly s t) (h₂ : BalancesOnly t u) :
    BalancesOnly s u := by
  obtain ⟨L₁, T₁, rfl⟩ := h₁.frame
  obtain ⟨L₂, T₂, rfl⟩ := h₂.frame
  exact ⟨⟨L₂, T₂, rfl⟩, fun a => (h₂.accounts a).trans (h₁.accounts a)⟩

omit K in
theorem balancesOnly_setUnits (slot : Slot) (v : UInt64) : BalancesOnly s (slot.setUnits s v) := by
  cases slot with
  | localUnits a => exact ⟨⟨_, s.tokenBalances, rfl⟩, fun _ => update_eq_none⟩
  | token id => exact ⟨⟨s.localTestUnitBalances, _, rfl⟩, fun _ => Iff.rfl⟩

omit K in
theorem balancesOnly_mark (slot : Slot) : BalancesOnly s (slot.mark s) := by
  cases slot with
  | localUnits a => exact ⟨⟨_, s.tokenBalances, rfl⟩, fun _ => update_eq_none⟩
  | token id => exact ⟨⟨s.localTestUnitBalances, _, rfl⟩, fun _ => Iff.rfl⟩

theorem balancesOnly_openSlot : BalancesOnly s (openSlot s accountId assetId) := by
  unfold openSlot
  split_ifs
  · exact ⟨⟨s.localTestUnitBalances, s.tokenBalances, rfl⟩, fun _ => Iff.rfl⟩
  · exact ⟨⟨s.localTestUnitBalances, _, rfl⟩, fun _ => Iff.rfl⟩

theorem debitAssetUnits_balancesOnly (h : debitAssetUnits accountId assetId n s = (.ok w, s')) :
    BalancesOnly s s' := by
  obtain ⟨-, u, -, -, rfl⟩ := debitAssetUnits_ok.mp h
  exact balancesOnly_setUnits _ _

theorem creditAssetUnits_balancesOnly (h : creditAssetUnits accountId assetId n s = (.ok w, s')) :
    BalancesOnly s s' := by
  obtain ⟨-, -, u, v, -, -, rfl⟩ := creditAssetUnits_ok.mp h
  exact balancesOnly_openSlot.trans (balancesOnly_setUnits _ _)

/-! ### What is held afterwards -/

theorem debitAssetUnits_held (h : debitAssetUnits accountId assetId n s = (.ok w, s'))
    (slot : Slot) :
    slot.held s' + (if slotOf accountId assetId = slot then n.toNat else 0) = slot.held s := by
  obtain ⟨-, u, hu, hn, rfl⟩ := debitAssetUnits_ok.mp h
  simp only [Slot.held, Slot.units_setUnits hu]
  split_ifs with heq
  · rw [← heq, hu, Option.elim_some, Option.elim_some, UInt64.toNat_sub_of_le _ _ hn]
    have := UInt64.le_iff_toNat_le.mp hn
    omega
  · rfl

theorem creditAssetUnits_held (h : creditAssetUnits accountId assetId n s = (.ok w, s'))
    (slot : Slot) :
    slot.held s' = slot.held s + (if slotOf accountId assetId = slot then n.toNat else 0) := by
  obtain ⟨-, -, u, v, hu, hv, rfl⟩ := creditAssetUnits_ok.mp h
  rw [checkedAdd_eq_some] at hv
  rw [← held_openSlot s accountId assetId slot]
  simp only [Slot.held, Slot.units_setUnits hu]
  split_ifs with heq
  · rw [← heq, hu, Option.elim_some, Option.elim_some, hv]
  · rfl

end ledger

end FlowMemory
