import FlowMemory.LocalRuntime.LedgerAccepted
import FlowMemory.LocalRuntime.BuildBlock

/-! # Which rejected transactions leave no trace

A transaction should be rejected without any effect: a block keeps no copy of the state to
return to.  Most routines make all their tests before their first write.  Five of them test
again after it, and a test that fails there leaves the earlier writes in place.

`PartialWrite s tx` describes these cases by the numbers that the later tests compare.
`rejected_unchanged_iff` states that they are all there are: a transaction that is rejected in
`s` leaves `s` as it was exactly when it is not one of them, and a run without them reaches only
what its accepted transactions reach. -/

namespace FlowMemory

open Txn OrderedMap

variable [K : Keccak]

/-! ### The later tests -/

/-- A faucet payment whose total overflows after the units have been added. -/
def faucetLate (tx : FaucetLocalTestUnits) (paid : LocalTestUnitBalance × UInt64) : Prop :=
  2 ^ 64 ≤ paid.1.totalFaucetUnits.toNat + tx.amountUnits.toNat

/-- A launch whose first credit overflows after the token has been defined. -/
def launchTokenLate (s : ChainState) (tx : LaunchToken) : Prop :=
  2 ^ 64 ≤ (slotOf tx.initialOwnerAccountId tx.tokenId).held s + tx.initialSupplyUnits.toNat

/-- A deposit that is found impossible after its first asset has been debited: both assets come
from one balance that does not hold the sum, or one of six additions overflows. -/
def addLiquidityLate (s : ChainState) (tx : AddLiquidity) (quote : DexPool × UInt64) : Prop :=
  let position := lpPositionOrFresh s tx.poolId tx.providerAccountId
  (slotOf tx.providerAccountId quote.1.baseAssetId =
      slotOf tx.providerAccountId quote.1.quoteAssetId ∧
    (slotOf tx.providerAccountId quote.1.quoteAssetId).held s <
      tx.baseAmountUnits.toNat + tx.quoteAmountUnits.toNat) ∨
  2 ^ 64 ≤ quote.1.reserveBaseUnits.toNat + tx.baseAmountUnits.toNat ∨
  2 ^ 64 ≤ quote.1.reserveQuoteUnits.toNat + tx.quoteAmountUnits.toNat ∨
  2 ^ 64 ≤ quote.1.totalLpUnits.toNat + quote.2.toNat ∨
  2 ^ 64 ≤ position.lpUnits.toNat + quote.2.toNat ∨
  2 ^ 64 ≤ position.baseUnitsDeposited.toNat + tx.baseAmountUnits.toNat ∨
  2 ^ 64 ≤ position.quoteUnitsDeposited.toNat + tx.quoteAmountUnits.toNat

/-- A withdrawal that is found impossible after the position has been reduced: a total of
withdrawals overflows, the pool holds too little, or one of the two credits is refused. -/
def removeLiquidityLate (s : ChainState) (tx : RemoveLiquidity) (quote : RemovalQuote) : Prop :=
  let baseSlot := slotOf tx.providerAccountId quote.pool.baseAssetId
  let quoteSlot := slotOf tx.providerAccountId quote.pool.quoteAssetId
  2 ^ 64 ≤ quote.position.baseUnitsWithdrawn.toNat + quote.baseAmountUnits.toNat ∨
  2 ^ 64 ≤ quote.position.quoteUnitsWithdrawn.toNat + quote.quoteAmountUnits.toNat ∨
  quote.pool.reserveBaseUnits.toNat < quote.baseAmountUnits.toNat ∨
  quote.pool.reserveQuoteUnits.toNat < quote.quoteAmountUnits.toNat ∨
  quote.pool.totalLpUnits.toNat < tx.lpUnits.toNat ∨
  CreditBlocked s tx.providerAccountId quote.pool.baseAssetId (baseSlot.held s)
    quote.baseAmountUnits.toNat ∨
  CreditBlocked s tx.providerAccountId quote.pool.quoteAssetId
    (quoteSlot.held s + if baseSlot = quoteSlot then quote.baseAmountUnits.toNat else 0)
    quote.quoteAmountUnits.toNat

/-- A swap whose output cannot be credited after its input has been debited. -/
def swapExactInLate (s : ChainState) (tx : SwapExactIn) (quote : SwapQuote) : Prop :=
  let inSlot := slotOf tx.traderAccountId tx.assetInId
  let outSlot := slotOf tx.traderAccountId quote.assetOutId
  CreditBlocked s tx.traderAccountId quote.assetOutId
    (outSlot.held s - if inSlot = outSlot then tx.amountInUnits.toNat else 0)
    quote.amountOutUnits.toNat

/-- The transaction passes the tests before its first write and fails a later one. -/
def PartialWrite (s : ChainState) : Transaction → Prop
  | .faucetLocalTestUnits tx => ∃ paid, faucetChecks s tx = .ok paid ∧ faucetLate tx paid
  | .launchToken tx => ∃ u, launchTokenChecks s tx = .ok u ∧ launchTokenLate s tx
  | .addLiquidity tx => ∃ quote, addLiquidityChecks s tx = .ok quote ∧ addLiquidityLate s tx quote
  | .removeLiquidity tx =>
    ∃ quote, removeLiquidityChecks s tx = .ok quote ∧ removeLiquidityLate s tx quote
  | .swapExactIn tx => ∃ quote, swapExactInChecks s tx = .ok quote ∧ swapExactInLate s tx quote
  | _ => False

/-! ### Routines that test first -/

theorem markIfLive_total (tx : CreditBridgeFromBaseEvent) : Total (markIfLive tx) := by
  unfold markIfLive markAssetBalanceValueBearing
  split_ifs
  · exact Total.modify
  · exact Total.modify
  · exact Total.pure

/-- Outside the five routines every test comes before the first write. -/
theorem applyTransaction_atomic (tx : Transaction) (h : match tx with
      | .faucetLocalTestUnits _ | .launchToken _ | .addLiquidity _ | .removeLiquidity _
      | .swapExactIn _ => False
      | _ => True) : Atomic (applyTransaction tx) := by
  cases tx
  case faucetLocalTestUnits | launchToken | addLiquidity | removeLiquidity | swapExactIn =>
    exact h.elim
  all_goals
    simp only [applyTransaction, registerRootfield, registerAgent, createLocalTestUnitBalance,
      transferLocalTestUnits, mintLocalTestToken, createPool, mapBridgeAsset, mapBridgeAccount,
      creditBridgeFromBaseEvent, registerModelPassport, commitRoot, submitArtifactCommitment,
      markArtifactAvailability, submitWorkReceipt, submitVerifierReport, registerVerifierModule,
      updateMemoryCell, openChallenge, resolveChallenge, finalizeWorkReceipt,
      anchorBatchToBasePlaceholder, importFlowPulseObservation, importVerifierReport]
    repeat' with_reducible first
      | refine Atomic.get_bind fun _ => ?_
      | refine Atomic.rejectIf_bind fun _ => ?_
      | refine Atomic.okOr_bind fun _ => ?_
      | refine Atomic.ofExcept_bind fun _ => ?_
      | apply Atomic.ite
      | refine Atomic.bind_total creditAssetUnits_atomic fun _ => ?_
      | apply Total.atomic
      | exact Total.modify
      | refine Total.bind Total.modify fun _ => ?_
      | refine Total.bind (markIfLive_total _) fun _ => ?_

/-! ### Routines that test after a write -/

section late

variable {s : ChainState} {t : ChainState} {accountId : String}

omit K in
theorem faucet_unchanged_iff (tx : FaucetLocalTestUnits) :
    Unchanged (faucetLocalTestUnits tx) s ↔
      ¬ ∃ paid, faucetChecks s tx = .ok paid ∧ faucetLate tx paid := by
  refine unchanged_iff (c := faucetChecks s tx) ?_ ?_
  · rintro ⟨balance, units⟩ -
    rw [fails_modify_bind]
    refine (fails_okOr_bind (Q := False) fun total _ => ?_).trans ?_
    · exact iff_of_false (Total.not_fails (.bind .modify fun _ => .modify) _) id
    · rw [or_false, checkedAdd_eq_none, faucetLate]
  · rintro ⟨balance, units⟩ e s' hc hrun hs
    simp only [modify_bind, okOr_bind_error] at hrun
    rcases hrun with ⟨-, -, rfl⟩ | ⟨total, -, hrun⟩
    · -- the units of the account have grown
      simp only [faucetChecks, Check.bind_ok, Check.rejectIf_ok, Check.okOr_ok, Check.pure_ok,
        checkedAdd_eq_some, Prod.mk.injEq] at hc
      obtain ⟨-, hn, -, -, b, hb, u, hu, rfl, rfl⟩ := hc
      have heq := congrArg (fun t => t.localTestUnitBalances[tx.accountId]?) hs
      simp only [insert_getElem?_self, hb, Option.some.injEq] at heq
      have hunits := congrArg (·.units.toNat) heq
      exact toNat_ne_zero hn (by simp only at hunits; omega)
    · exact Total.modify _ _ _ hrun

theorem launchToken_unchanged_iff (tx : LaunchToken) :
    Unchanged (launchToken tx) s ↔
      ¬ ∃ u, launchTokenChecks s tx = .ok u ∧ launchTokenLate s tx := by
  refine unchanged_iff (c := launchTokenChecks s tx) (Q := fun _ => launchTokenLate s tx) ?_ ?_
  · rintro ⟨⟩ hc
    simp only [launchTokenChecks, Check.bind_ok, Check.rejectIf_ok, ensureExpectedId_ok] at hc
    obtain ⟨-, htok, -, hn, -⟩ := hc
    have hne : tx.tokenId ≠ localTestUnitAssetId := htok ▸ keccakHex_ne_localTestUnitAssetId _
    rw [fails_modify_bind]
    refine (fails_bind (Q := False) fun _ s₁ _ => ?_).trans ?_
    · exact iff_of_false (Total.not_fails .modify _) id
    · rw [or_false, creditAssetUnits_fails, CreditBlocked, launchTokenLate]
      simp [toNat_ne_zero hn, AssetExists, hne, slotOf, Slot.held, Slot.units]
  · rintro ⟨⟩ e s' hc hrun rfl
    simp only [launchTokenChecks, Check.bind_ok, Check.rejectIf_ok, ensureExpectedId_ok,
      contains_eq_false] at hc
    obtain ⟨-, -, -, -, -, -, -, hnew, -⟩ := hc
    rw [modify_bind, bind_error] at hrun
    rcases hrun with hrun | ⟨_, s₁, -, hrun⟩
    · -- the refused credit leaves the new definition in place
      have heq := congrArg (·.tokenDefinitions[tx.tokenId]?) (creditAssetUnits_atomic _ _ _ hrun)
      simp only [insert_getElem?_self] at heq
      rw [hnew] at heq
      cases heq
    · exact Total.modify _ _ _ hrun

omit K in
/-- A state in which some slot holds less is another state. -/
theorem ne_of_held_lt (slot : Slot) (h : slot.held t < slot.held s) : t ≠ s := by
  rintro rfl
  exact lt_irrefl _ h

omit K in
/-- Whether a credit is blocked depends on the definitions and the accounts only. -/
theorem creditBlocked_congr {assetId : String} {held amount : ℕ}
    (hdefs : t.tokenDefinitions = s.tokenDefinitions)
    (hacc : t.localTestUnitBalances[accountId]? = none ↔
      s.localTestUnitBalances[accountId]? = none) :
    CreditBlocked t accountId assetId held amount ↔
      CreditBlocked s accountId assetId held amount := by
  simp only [CreditBlocked, AssetExists, hdefs, hacc]

omit K in
theorem BalancesOnly.definitions (h : BalancesOnly s t) :
    t.tokenDefinitions = s.tokenDefinitions := by
  obtain ⟨L, T, rfl⟩ := h.frame
  rfl

theorem swapExactIn_unchanged_iff (tx : SwapExactIn) :
    Unchanged (swapExactIn tx) s ↔
      ¬ ∃ quote, swapExactInChecks s tx = .ok quote ∧ swapExactInLate s tx quote := by
  refine unchanged_iff (c := swapExactInChecks s tx) ?_ ?_
  · rintro ⟨pool, assetOut, amountOut, baseAfter, quoteAfter⟩ hc
    obtain ⟨s₁, h₁⟩ := (swapFacts hc).pay.debit
    have hheld := debitAssetUnits_held h₁ (slotOf tx.traderAccountId assetOut)
    rw [fails_bind_of_ok h₁]
    refine (fails_bind (Q := False) fun _ s₂ _ => ?_).trans ?_
    · exact iff_of_false (Total.not_fails (.bind .modify fun _ => .modify) _) id
    · have hb := debitAssetUnits_balancesOnly h₁
      rw [or_false, creditAssetUnits_fails, swapExactInLate,
        creditBlocked_congr hb.definitions (hb.accounts _), Nat.eq_sub_of_add_eq hheld]
  · rintro ⟨pool, assetOut, amountOut, baseAfter, quoteAfter⟩ e s' hc hrun
    obtain ⟨s₁, h₁⟩ := (swapFacts hc).pay.debit
    have hheld := debitAssetUnits_held h₁ (slotOf tx.traderAccountId tx.assetInId)
    have hn := toNat_ne_zero (swapFacts hc).in_ne
    rw [if_pos rfl] at hheld
    rcases bind_error.mp ((bind_of_ok h₁).symm.trans hrun) with hrun | ⟨_, s₂, -, hrun⟩
    · -- the refused credit leaves the debit in place
      rw [creditAssetUnits_atomic _ _ _ hrun]
      exact ne_of_held_lt (slotOf tx.traderAccountId tx.assetInId) (by omega)
    · exact absurd hrun (Total.bind .modify (fun _ => .modify) _ _ _)

section tests

variable {α : Type} {f : UInt64 → Action α} {a b : UInt64} {e : LocalRuntimeError} {Q : Prop}

omit K

theorem fails_checkedAdd_bind (h : ∀ sum, Fails (f sum) s ↔ Q) :
    Fails (okOr (checkedAdd a b) e >>= f) s ↔ 2 ^ 64 ≤ a.toNat + b.toNat ∨ Q := by
  rw [← checkedAdd_eq_none]
  exact fails_okOr_bind fun sum _ => h sum

theorem fails_checkedSub_bind (h : ∀ diff, Fails (f diff) s ↔ Q) :
    Fails (okOr (checkedSub a b) e >>= f) s ↔ a.toNat < b.toNat ∨ Q := by
  rw [← checkedSub_eq_none]
  exact fails_okOr_bind fun diff _ => h diff

theorem fails_checkedPoolAdd_bind {poolId : String} (h : ∀ sum, Fails (f sum) s ↔ Q) :
    Fails (ofExcept (checkedPoolAdd poolId a b) >>= f) s ↔ 2 ^ 64 ≤ a.toNat + b.toNat ∨ Q := by
  have hfail : (∀ sum, checkedPoolAdd poolId a b ≠ .ok sum) ↔ 2 ^ 64 ≤ a.toNat + b.toNat := by
    rw [← checkedAdd_eq_none, checkedPoolAdd]
    cases checkedAdd a b <;> simp [Check.okOr]
  rw [← hfail]
  exact fails_ofExcept_bind fun sum _ => h sum

end tests

/-- The second debit of a deposit fails only if it shares its balance with the first. -/
theorem second_debit_fails {a b : String} {m n : UInt64} {s₁ : ChainState}
    (h₁ : debitAssetUnits accountId a m s = (.ok (), s₁)) (hpay : CanPay s accountId b n) :
    Fails (debitAssetUnits accountId b n) s₁ ↔ slotOf accountId a = slotOf accountId b ∧
      (slotOf accountId b).held s < m.toNat + n.toNat := by
  have hheld := debitAssetUnits_held h₁ (slotOf accountId b)
  obtain ⟨he, u, hu, hn⟩ := hpay
  have hle : n.toNat ≤ (slotOf accountId b).held s := by
    rw [Slot.held, hu, Option.elim_some]
    exact UInt64.le_iff_toNat_le.mp hn
  have hsome : (slotOf accountId b).units s₁ ≠ none := by
    obtain ⟨-, v, hv, -, rfl⟩ := debitAssetUnits_ok.mp h₁
    rw [Slot.units_setUnits hv]
    split_ifs
    · simp
    · simp [hu]
  have he₁ : AssetExists s₁ b := by
    obtain ⟨L, T, rfl⟩ := (debitAssetUnits_balancesOnly h₁).frame
    exact he
  simp only [debitAssetUnits_fails, DebitBlocked, he₁, not_true_eq_false, hsome, false_or]
  split_ifs at hheld with heq
  · simp only [heq, true_and]
    omega
  · simp only [heq, false_and, iff_false]
    omega

theorem addLiquidity_unchanged_iff (tx : AddLiquidity) :
    Unchanged (addLiquidity tx) s ↔
      ¬ ∃ quote, addLiquidityChecks s tx = .ok quote ∧ addLiquidityLate s tx quote := by
  refine unchanged_iff (c := addLiquidityChecks s tx) ?_ ?_
  · rintro ⟨pool, lpUnits⟩ hc
    have hf := addFacts hc
    obtain ⟨s₁, h₁⟩ := hf.pay_base.debit
    rw [fails_bind_of_ok h₁, addLiquidityLate, ← second_debit_fails h₁ hf.pay_quote]
    refine fails_bind fun _ s₂ _ => fails_checkedPoolAdd_bind fun _ =>
      fails_checkedPoolAdd_bind fun _ => fails_checkedPoolAdd_bind fun _ => ?_
    rw [fails_modify_bind, fails_modify_bind]
    refine fails_checkedAdd_bind fun _ => ?_
    rw [fails_modify_bind]
    refine fails_checkedAdd_bind fun _ => ?_
    rw [fails_modify_bind]
    refine (fails_checkedAdd_bind (Q := False) fun _ => ?_).trans (iff_of_eq (or_false _))
    exact iff_of_false (Total.not_fails (.bind .modify fun _ => .modify) _) id
  · rintro ⟨pool, lpUnits⟩ e s' hc hrun
    have hf := addFacts hc
    obtain ⟨s₁, h₁⟩ := hf.pay_base.debit
    have hheld := debitAssetUnits_held h₁ (slotOf tx.providerAccountId pool.baseAssetId)
    have hn := toNat_ne_zero hf.base_ne
    rw [if_pos rfl] at hheld
    refine ne_of_held_lt (slotOf tx.providerAccountId pool.baseAssetId) ?_
    rcases bind_error.mp ((bind_of_ok h₁).symm.trans hrun) with hrun | ⟨_, s₂, h₂, hrun⟩
    · rw [debitAssetUnits_atomic _ _ _ hrun]
      omega
    · -- the writes after the second debit do not touch balances
      have hkeep : (slotOf tx.providerAccountId pool.baseAssetId).held s' =
          (slotOf tx.providerAccountId pool.baseAssetId).held s₂ := by
        refine Keeps.of_run (fun t => Slot.held t _) hrun ?_
        refine .bind .ofExcept fun _ => .bind .ofExcept fun _ => .bind .ofExcept fun _ =>
          .bind (.modify fun _ => Slot.held_congr rfl rfl _) fun _ =>
          .bind (.modify fun _ => Slot.held_congr rfl rfl _) fun _ =>
          .bind .okOr fun _ => .bind (.modify fun _ => Slot.held_congr rfl rfl _) fun _ =>
          .bind .okOr fun _ => .bind (.modify fun _ => Slot.held_congr rfl rfl _) fun _ =>
          .bind .okOr fun _ => .bind (.modify fun _ => Slot.held_congr rfl rfl _) fun _ =>
          .modify fun _ => Slot.held_congr rfl rfl _
      have hheld₂ := debitAssetUnits_held h₂ (slotOf tx.providerAccountId pool.baseAssetId)
      omega

/-- The two credits of a withdrawal fail if one of them is blocked; the second one finds the
first one already made. -/
theorem credits_fail (hl : t.localTestUnitBalances = s.localTestUnitBalances)
    (ht : t.tokenBalances = s.tokenBalances) (hd : t.tokenDefinitions = s.tokenDefinitions)
    {a b : String} {m n : UInt64} {g : ChainState → ChainState} :
    Fails (do
        creditAssetUnits accountId a m
        creditAssetUnits accountId b n
        Txn.modify g) t ↔
      CreditBlocked s accountId a ((slotOf accountId a).held s) m.toNat ∨
      CreditBlocked s accountId b ((slotOf accountId b).held s +
        if slotOf accountId a = slotOf accountId b then m.toNat else 0) n.toNat := by
  refine (fails_bind fun _ s₁ h₁ => ?_).trans (or_congr_left ?_)
  · refine (fails_bind (Q := False) fun _ s₂ _ => ?_).trans ?_
    · exact iff_of_false (Total.not_fails .modify _) id
    · have hb := creditAssetUnits_balancesOnly h₁
      rw [or_false, creditAssetUnits_fails, creditAssetUnits_held h₁,
        creditBlocked_congr (hb.definitions.trans hd) ((hb.accounts _).trans (by rw [hl])),
        Slot.held_congr hl ht]
  · rw [creditAssetUnits_fails, Slot.held_congr hl ht, creditBlocked_congr hd (by rw [hl])]

/-- The account has `u` liquidity units in the pool. -/
def PositionHolds (poolId ownerAccountId : String) (u : UInt64) (s : ChainState) : Prop :=
  ∃ p, s.lpPositions[deterministicLpPositionId poolId ownerAccountId]? = some p ∧ p.lpUnits = u

theorem positionHolds_credit {poolId ownerAccountId assetId : String} {u n : UInt64} :
    Preserves (PositionHolds poolId ownerAccountId u) (creditAssetUnits accountId assetId n) := by
  intro s hs
  have hw : Writes [.localTestUnitBalances, .tokenBalances]
      (creditAssetUnits accountId assetId n) :=
    creditAssetUnits_writes (by simp) (by simp) _ _ _
  have hsame : (creditAssetUnits accountId assetId n s).2.lpPositions = s.lpPositions :=
    hw s .lpPositions (by simp)
  rwa [PositionHolds, hsame]

theorem removeLiquidity_unchanged_iff (tx : RemoveLiquidity) :
    Unchanged (removeLiquidity tx) s ↔
      ¬ ∃ quote, removeLiquidityChecks s tx = .ok quote ∧ removeLiquidityLate s tx quote := by
  refine unchanged_iff (c := removeLiquidityChecks s tx) ?_ ?_
  · rintro ⟨pool, position, baseAmount, quoteAmount⟩ -
    rw [removeLiquidityLate, fails_modify_bind]
    refine fails_checkedAdd_bind fun _ => ?_
    rw [fails_modify_bind]
    refine fails_checkedAdd_bind fun _ => ?_
    rw [fails_modify_bind]
    refine fails_checkedSub_bind fun _ => fails_checkedSub_bind fun _ => ?_
    rw [fails_modify_bind]
    refine fails_checkedSub_bind fun _ => ?_
    rw [fails_modify_bind]
    exact credits_fail rfl rfl rfl
  · rintro ⟨pool, position, baseAmount, quoteAmount⟩ e s' hc hrun rfl
    have hf := removeFacts hc
    -- the position has been reduced, and nothing restores it
    obtain ⟨p, hp, hlp⟩ : PositionHolds tx.poolId tx.providerAccountId
        (position.lpUnits - tx.lpUnits) s' := by
      refine Preserves.of_run (modify_bind.symm.trans hrun) ?_
        ⟨_, insert_getElem?_self, rfl⟩
      refine .bind .okOr fun _ =>
        .bind (.modify fun _ _ => ⟨_, insert_getElem?_self, rfl⟩) fun _ =>
        .bind .okOr fun _ =>
        .bind (.modify fun _ _ => ⟨_, insert_getElem?_self, rfl⟩) fun _ =>
        .bind .okOr fun _ => .bind .okOr fun _ => .bind (.modify fun _ h => h) fun _ =>
        .bind .okOr fun _ => .bind (.modify fun _ h => h) fun _ =>
        .bind positionHolds_credit fun _ => .bind positionHolds_credit fun _ =>
        .modify fun _ h => h
    have hle := UInt64.le_iff_toNat_le.mp hf.lp_le
    have hne := toNat_ne_zero hf.lp_ne
    rw [hf.position_eq] at hp
    obtain rfl := Option.some.inj hp
    have := congrArg UInt64.toNat hlp
    rw [UInt64.toNat_sub_of_le _ _ hf.lp_le] at this
    simp only at this hle
    omega

end late

/-! ### Every transaction -/

theorem applyTransaction_unchanged_iff (tx : Transaction) (s : ChainState) :
    Unchanged (applyTransaction tx) s ↔ ¬ PartialWrite s tx := by
  cases tx with
  | faucetLocalTestUnits tx => exact faucet_unchanged_iff tx
  | launchToken tx => exact launchToken_unchanged_iff tx
  | addLiquidity tx => exact addLiquidity_unchanged_iff tx
  | removeLiquidity tx => exact removeLiquidity_unchanged_iff tx
  | swapExactIn tx => exact swapExactIn_unchanged_iff tx
  | _ => exact iff_of_true ((applyTransaction_atomic _ trivial).unchanged s) id

/-- A step that is not a partial write is the step of an accepted transaction or no step. -/
theorem NodeStep.accepted_or_eq {s t : ChainState}
    (h : NodeStep (fun tx s => ¬ PartialWrite s tx) s t) : NodeStep Accepted s t ∨ t = s := by
  cases h with
  | @transaction tx s h =>
    rcases hrun : applyTransaction tx s with ⟨e | ⟨⟩, s'⟩
    · exact Or.inr ((applyTransaction_unchanged_iff tx s).mpr h e s' hrun)
    · have hacc : Accepted tx s := congrArg Prod.fst hrun
      have hstep := NodeStep.transaction hacc
      rw [hrun] at hstep
      exact Or.inl hstep
  | queue => exact Or.inl (.queue _ _)
  | takeQueue => exact Or.inl (.takeQueue _)
  | pushBlock => exact Or.inl (.pushBlock _ _ _)

/-- **Rejection without effect**: a transaction that is rejected in a state leaves it as it was
exactly when it is not a partial write there.  In a run without partial writes the rejected
transactions leave no trace: every state of it is reached by the accepted ones alone. -/
theorem rejected_unchanged_iff :
    (∀ (tx : Transaction) (s : ChainState),
      (∀ e s', applyTransaction tx s = (.error e, s') → s' = s) ↔ ¬ PartialWrite s tx) ∧
    ∀ s, Run (fun tx s => ¬ PartialWrite s tx) genesisState s → AcceptedReachable s := by
  refine ⟨applyTransaction_unchanged_iff, fun s hrun => ?_⟩
  induction hrun with
  | refl => exact .refl
  | tail _ hstep ih =>
    rcases hstep.accepted_or_eq with hacc | rfl
    · exact .tail ih hacc
    · exact ih

omit K

/-- The faucet pays the largest amount to one account, which gives it all away. -/
def faucetHistory : List Transaction :=
  [.createLocalTestUnitBalance { accountId := "a", owner := "a" },
    .createLocalTestUnitBalance { accountId := "b", owner := "b" },
    .faucetLocalTestUnits
      { faucetRecordId := "f1", accountId := "a", recipient := "a",
        amountUnits := 18446744073709551615, reason := "" },
    .transferLocalTestUnits
      { transferId := "t1", fromAccountId := "a", toAccountId := "b",
        amountUnits := 18446744073709551615, memo := "" }]

/-- One more unit for the account, whose total of faucet payments cannot grow. -/
def faucetOnce : Transaction :=
  .faucetLocalTestUnits
    { faucetRecordId := "f2", accountId := "a", recipient := "a", amountUnits := 1, reason := "" }

/-- The second payment is rejected and the account keeps the unit. -/
theorem rejected_faucet_keeps_unit :
    letI : Keccak := keccak256
    let s := (applyEnvelopes (faucetHistory.map envelopeTx) genesisState).2
    Reachable s ∧
      (applyTransaction faucetOnce s).1 = .error (.localTestUnitBalanceOverflow "a") ∧
      (Slot.localUnits "a").units s = some 0 ∧
      (Slot.localUnits "a").units (applyTransaction faucetOnce s).2 = some 1 := by
  let _ : Keccak := keccak256
  refine ⟨run_applyEnvelopes _ (admits_true _ _), ?_, ?_, ?_⟩ <;> decide +kernel

end FlowMemory
