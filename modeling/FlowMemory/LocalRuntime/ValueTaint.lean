import FlowMemory.Lib.Taint
import FlowMemory.LocalRuntime.PoolInvariant
import FlowMemory.LocalRuntime.BridgeReplay

/-! # Value-bearing balances

A live bridge credit marks the credited balance as bearing value.  The mark of a balance is
written by two transactions only: a live credit, and a transfer, which marks its target if its
source is marked (`marked_after`).  Deposits, withdrawals and swaps leave all marks as they are,
and a balance that a withdrawal or a swap opens is not marked.

The value of a live credit is followed by the abstract taint over balances and pools
(`valueFlow`).  `value_marked` states that it is always in marked balances if pools pay it only
into balances that are marked already, and that a step which does otherwise breaks this;
`swap_loses_mark` is such a run. -/

namespace FlowMemory

open Txn

variable [K : Keccak] {s s' t : ChainState} {w : Unit} {slot : Slot} {a assetId : String}
  {n : UInt64} {b : LocalTestUnitBalance} {tx : Transaction}

/-! ### Marks -/

/-- The balance is marked as bearing value. -/
def Slot.Marked (s : ChainState) (slot : Slot) : Prop := slot.noValue s = some false

/-- The same balances are marked. -/
def SameMarks (s s' : ChainState) : Prop := ∀ slot : Slot, slot.Marked s' ↔ slot.Marked s

omit K in
theorem SameMarks.trans (h₁ : SameMarks s s') (h₂ : SameMarks s' t) : SameMarks s t :=
  fun slot => (h₂ slot).trans (h₁ slot)

omit K in
theorem sameMarks_of_eq (hl : s'.localTestUnitBalances = s.localTestUnitBalances)
    (ht : s'.tokenBalances = s.tokenBalances) : SameMarks s s' := by
  intro slot
  cases slot with
  | localUnits a => rw [Slot.Marked, Slot.Marked, Slot.noValue, Slot.noValue, hl]
  | token id => rw [Slot.Marked, Slot.Marked, Slot.noValue, Slot.noValue, ht]

omit K in
/-- Only the two maps of balances matter. -/
theorem SameMarks.frame {s₁ s₂ : ChainState} (h : SameMarks s₁ s₂)
    (hl₁ : s₁.localTestUnitBalances = s.localTestUnitBalances)
    (ht₁ : s₁.tokenBalances = s.tokenBalances)
    (hl₂ : s'.localTestUnitBalances = s₂.localTestUnitBalances)
    (ht₂ : s'.tokenBalances = s₂.tokenBalances) : SameMarks s s' :=
  ((sameMarks_of_eq hl₁ ht₁).trans h).trans (sameMarks_of_eq hl₂ ht₂)

omit K in
theorem Slot.noValue_eq_none : slot.noValue s = none ↔ slot.units s = none := by
  cases slot <;> simp only [Slot.noValue, Slot.units, Option.map_eq_none_iff]

omit K in
theorem marked_localUnits : (Slot.localUnits a).Marked s ↔
    ∃ b, s.localTestUnitBalances[a]? = some b ∧ b.noValue = false := by
  rw [Slot.Marked, Slot.noValue, Option.map_eq_some_iff]

theorem sameMarks_debit {accountId : String}
    (h : debitAssetUnits accountId assetId n s = (.ok w, s')) : SameMarks s s' := by
  obtain ⟨-, u, -, -, rfl⟩ := debitAssetUnits_ok.mp h
  intro slot
  rw [Slot.Marked, Slot.noValue_setUnits, Slot.Marked]

/-- The balance opened by a credit is not marked. -/
theorem sameMarks_openSlot (s : ChainState) (accountId assetId : String) :
    SameMarks s (openSlot s accountId assetId) := by
  intro slot
  unfold openSlot
  split_ifs with h
  · exact Iff.rfl
  · cases slot with
    | localUnits a => exact Iff.rfl
    | token id =>
      by_cases hid : deterministicTokenBalanceId assetId accountId = id
      · subst hid
        rw [Slot.Marked, Slot.Marked, Slot.noValue, Slot.noValue,
          OrderedMap.getElem?_insertIfNew_self]
        cases s.tokenBalances[deterministicTokenBalanceId assetId accountId]? with
        | none => simp [freshTokenBalance]
        | some b => simp
      · rw [Slot.Marked, Slot.Marked, Slot.noValue, Slot.noValue,
          OrderedMap.getElem?_insertIfNew_of_ne hid]

theorem sameMarks_credit {accountId : String}
    (h : creditAssetUnits accountId assetId n s = (.ok w, s')) : SameMarks s s' := by
  obtain ⟨-, -, u, v, -, -, rfl⟩ := creditAssetUnits_ok.mp h
  intro slot
  rw [Slot.Marked, Slot.noValue_setUnits]
  exact sameMarks_openSlot s accountId assetId slot

omit K in
theorem marked_insert (hl : s'.localTestUnitBalances = s.localTestUnitBalances.insert a b)
    (ht : s'.tokenBalances = s.tokenBalances) :
    slot.Marked s' ↔ if slot = .localUnits a then b.noValue = false else slot.Marked s := by
  cases slot with
  | localUnits a' =>
    rw [marked_localUnits, marked_localUnits, hl, OrderedMap.getElem?_insert]
    by_cases ha : a = a'
    · simp [ha]
    · rw [if_neg ha, if_neg (fun h => ha (Slot.localUnits.inj h).symm)]
  | token id =>
    rw [if_neg nofun, Slot.Marked, Slot.Marked, Slot.noValue, Slot.noValue, ht]

omit K in
/-- Writing a local balance with the mark it had, or a new one without a mark. -/
theorem sameMarks_insert (hl : s'.localTestUnitBalances = s.localTestUnitBalances.insert a b)
    (ht : s'.tokenBalances = s.tokenBalances)
    (hb : b.noValue = false ↔ (Slot.localUnits a).Marked s) : SameMarks s s' := by
  intro slot
  rw [marked_insert hl ht]
  split_ifs with hslot
  · rw [hslot, hb]
  · exact Iff.rfl

/-! ### The mark after a transaction -/

/-- The balances that a transaction marks: the target of a transfer from a marked one, and that
of a live credit. -/
def MarkedBy (s : ChainState) (slot : Slot) : Transaction → Prop
  | .transferLocalTestUnits tx =>
    slot = .localUnits tx.toAccountId ∧ (Slot.localUnits tx.fromAccountId).Marked s
  | .creditBridgeFromBaseEvent tx =>
    tx.liveCredit = true ∧ slot = slotOf tx.accountId tx.assetId
  | _ => False

omit K in
theorem marked_of_some (h : s.localTestUnitBalances[a]? = some b) :
    (Slot.localUnits a).Marked s ↔ b.noValue = false := by
  rw [marked_localUnits, h]
  simp

theorem marked_after_transfer {tx : TransferLocalTestUnits}
    (h : transferLocalTestUnits tx s = (.ok w, s')) : slot.Marked s' ↔
      slot.Marked s ∨ MarkedBy s slot (.transferLocalTestUnits tx) := by
  obtain ⟨-, b, b', r, hb, ⟨hself, hs', -, hmark⟩ | ⟨hne, c, c', hc, hs', -, hmark, -, hmark'⟩⟩ :=
    transfer_accepted h
  · have hsame : SameMarks s s' :=
      sameMarks_insert (by rw [hs']) (by rw [hs']) (by rw [hmark, marked_of_some hb])
    rw [hsame slot, MarkedBy, ← hself]
    constructor
    · exact Or.inl
    · rintro (h | ⟨rfl, h⟩)
      · exact h
      · exact h
  · let s₁ : ChainState := { s with
      localTestUnitBalances := s.localTestUnitBalances.insert tx.fromAccountId b' }
    have hsame : SameMarks s s₁ := sameMarks_insert rfl rfl (by rw [hmark, marked_of_some hb])
    have hlast : slot.Marked s' ↔
        if slot = .localUnits tx.toAccountId then c'.noValue = false else slot.Marked s₁ :=
      marked_insert (by rw [hs']) (by rw [hs'])
    rw [hlast, hsame slot, MarkedBy, hmark', Bool.and_eq_false_iff, marked_of_some hb]
    split_ifs with hslot
    · rw [hslot, marked_of_some hc]
      simp
    · simp [hslot]

theorem marked_after_bridgeCredit {tx : CreditBridgeFromBaseEvent}
    (h : creditBridgeFromBaseEvent tx s = (.ok w, s')) : slot.Marked s' ↔
      slot.Marked s ∨ MarkedBy s slot (.creditBridgeFromBaseEvent tx) := by
  obtain ⟨owner, r, e, s₁, s₂, -, h₁, h₂, hs'⟩ := bridgeCredit_accepted h
  have hlast : SameMarks s₂ s' := sameMarks_of_eq (by rw [hs']) (by rw [hs'])
  rw [hlast slot, MarkedBy, ← sameMarks_credit h₁ slot]
  rcases markIfLive_ok h₂ with ⟨hlive, rfl⟩ | ⟨hlive, rfl⟩
  · -- the credit has opened the balance, so that there is one to mark
    have hopen : (slotOf tx.accountId tx.assetId).noValue s₁ ≠ none := by
      obtain ⟨-, -, u, v, hu, -, rfl⟩ := creditAssetUnits_ok.mp h₁
      rw [Slot.noValue_setUnits, Ne, Slot.noValue_eq_none, hu]
      exact Option.some_ne_none _
    rw [Slot.Marked, Slot.noValue_mark, hlive]
    split_ifs with hslot
    · subst hslot
      obtain ⟨v, hv⟩ := Option.ne_none_iff_exists'.mp hopen
      simp [hv]
    · simp [Slot.Marked, Ne.symm hslot]
  · simp [hlive]

/-- Deposits, withdrawals, swaps and all other transactions leave the marks as they are. -/
theorem sameMarks_of_accepted (h : applyTransaction tx s = (.ok w, s'))
    (htx : ∀ slot, ¬ MarkedBy s slot tx) : SameMarks s s' := by
  cases tx with
  | createLocalTestUnitBalance tx =>
    obtain ⟨hnew, b, rfl, -, hb⟩ := create_accepted h
    refine sameMarks_insert rfl rfl ?_
    rw [marked_localUnits, hnew, hb]
    simp
  | faucetLocalTestUnits tx =>
    obtain ⟨-, b, b', r, hb, rfl, -, hmark, -⟩ := faucet_accepted h
    exact sameMarks_insert rfl rfl (by rw [hmark, marked_of_some hb])
  | transferLocalTestUnits tx =>
    intro slot
    rw [marked_after_transfer h, or_iff_left (htx slot)]
  | launchToken tx =>
    obtain ⟨-, -, d, mintId, r, s₁, hc, hs', -⟩ := launch_accepted h
    exact (sameMarks_credit hc).frame rfl rfl (by rw [hs']) (by rw [hs'])
  | mintLocalTestToken tx =>
    obtain ⟨-, d, d', r, s₁, -, hc, hs', -⟩ := mint_accepted h
    exact (sameMarks_credit hc).frame rfl rfl (by rw [hs']) (by rw [hs'])
  | addLiquidity tx =>
    obtain ⟨p, p', lp, q, r, s₁, s₂, -, h₁, h₂, hs', -⟩ := add_accepted h
    have hmoved := (sameMarks_debit h₁).trans (sameMarks_debit h₂)
    exact hmoved.frame rfl rfl (by rw [hs']) (by rw [hs'])
  | removeLiquidity tx =>
    obtain ⟨quote, p', q, r, s₁, s₂, -, h₁, h₂, hs', -⟩ := remove_accepted h
    have hmoved := (sameMarks_credit h₁).trans (sameMarks_credit h₂)
    exact hmoved.frame rfl rfl (by rw [hs']) (by rw [hs'])
  | swapExactIn tx =>
    obtain ⟨quote, p', r, s₁, s₂, -, h₁, h₂, hs', -⟩ := swap_accepted h
    have hmoved := (sameMarks_debit h₁).trans (sameMarks_credit h₂)
    exact hmoved.frame rfl rfl (by rw [hs']) (by rw [hs'])
  | creditBridgeFromBaseEvent tx =>
    intro slot
    rw [marked_after_bridgeCredit h, or_iff_left (htx slot)]
  | _ =>
    exact sameMarks_of_eq
      (applyTransaction_frame (f := .localTestUnitBalances) h (by simp [footprint]))
      (applyTransaction_frame (f := .tokenBalances) h (by simp [footprint]))

/-- **Marks**: an accepted transaction marks what `MarkedBy` says, and no mark is removed. -/
theorem marked_after (h : applyTransaction tx s = (.ok w, s'))
    (slot : Slot) : slot.Marked s' ↔ slot.Marked s ∨ MarkedBy s slot tx := by
  cases tx with
  | transferLocalTestUnits tx => exact marked_after_transfer h
  | creditBridgeFromBaseEvent tx => exact marked_after_bridgeCredit h
  | _ =>
    rw [sameMarks_of_accepted h (fun _ => not_false) slot]
    exact (or_iff_left not_false).symm

/-! ### The value of live credits -/

/-- What holds units: a balance or a pool. -/
inductive Holder where
  | balance (slot : Slot)
  | pool (poolId : String)

/-- A balance has to be marked; a pool has no mark of its own. -/
def Holder.Marked (s : ChainState) : Holder → Prop
  | .balance slot => slot.Marked s
  | .pool _ => True

/-- Where a transaction brings live value in, and between which holders it moves units. -/
def valueFlow (s : ChainState) : Transaction → Flow Holder
  | .creditBridgeFromBaseEvent tx =>
    { sources := if tx.liveCredit then [.balance (slotOf tx.accountId tx.assetId)] else []
      moves := [] }
  | .transferLocalTestUnits tx =>
    { sources := []
      moves := [(.balance (.localUnits tx.fromAccountId),
        .balance (.localUnits tx.toAccountId))] }
  | .addLiquidity tx =>
    { sources := []
      moves := s.dexPools[tx.poolId]?.elim [] fun pool =>
        [(.balance (slotOf tx.providerAccountId pool.baseAssetId), .pool tx.poolId),
          (.balance (slotOf tx.providerAccountId pool.quoteAssetId), .pool tx.poolId)] }
  | .removeLiquidity tx =>
    { sources := []
      moves := s.dexPools[tx.poolId]?.elim [] fun pool =>
        [(.pool tx.poolId, .balance (slotOf tx.providerAccountId pool.baseAssetId)),
          (.pool tx.poolId, .balance (slotOf tx.providerAccountId pool.quoteAssetId))] }
  | .swapExactIn tx =>
    { sources := []
      moves := s.dexPools[tx.poolId]?.elim [] fun pool =>
        let paid := .balance (slotOf tx.traderAccountId tx.assetInId)
        let received := .balance (slotOf tx.traderAccountId
          (if tx.assetInId = pool.baseAssetId then pool.quoteAssetId else pool.baseAssetId))
        [(paid, .pool tx.poolId), (paid, received), (.pool tx.poolId, received)] }
  | _ => .idle

/-- A step of a node with the value it moves; its transactions are accepted and satisfy `ok`. -/
inductive ValueStep (ok : Transaction → ChainState → Set Holder → Prop) :
    ChainState → Set Holder → Flow Holder → ChainState → Prop
  | transaction {tx : Transaction} {s : ChainState} {T : Set Holder} (hacc : Accepted tx s)
      (hok : ok tx s T) : ValueStep ok s T (valueFlow s tx) (applyTransaction tx s).2
  | head {s s' : ChainState} {T : Set Holder} (h : NodeStep (fun _ _ => False) s s') :
      ValueStep ok s T .idle s'

/-- The states of runs with the holders of live value. -/
def ValueRun (ok : Transaction → ChainState → Set Holder → Prop) : ChainState → Set Holder → Prop :=
  TaintRun (ValueStep ok) genesisState

/-- Pools pay live value, and swaps pay for it, only into balances that are marked. -/
def PaysMarked : Transaction → ChainState → Set Holder → Prop
  | .transferLocalTestUnits _, _, _ => True
  | tx, s, T => ∀ a ∈ T, ∀ slot, (a, .balance slot) ∈ (valueFlow s tx).moves → slot.Marked s

omit K in
theorem Holder.marked_congr (h : SameMarks s s') (holder : Holder) :
    holder.Marked s' ↔ holder.Marked s := by
  cases holder with
  | balance slot => exact h slot
  | pool poolId => exact Iff.rfl

/-- **One transaction** keeps live value in marked balances exactly when it pays it into them. -/
theorem safe_step_iff {T : Set Holder}
    (h : applyTransaction tx s = (.ok w, s')) (hsafe : Flow.Safe (Holder.Marked s) T) :
    Flow.Safe (Holder.Marked s') ((valueFlow s tx).spread T) ↔ PaysMarked tx s T := by
  have hkeep (holder : Holder) (hm : holder.Marked s) : holder.Marked s' := by
    cases holder with
    | balance slot => exact (marked_after h slot).mpr (Or.inl hm)
    | pool poolId => exact hm
  rw [Flow.safe_spread_iff hkeep hsafe]
  cases tx with
  | transferLocalTestUnits tx =>
    refine iff_of_true ⟨nofun, fun a ha holder hmove => ?_⟩ trivial
    obtain ⟨rfl, rfl⟩ := Prod.mk.inj (List.mem_singleton.mp hmove)
    exact (marked_after h _).mpr (Or.inr ⟨rfl, hsafe _ ha⟩)
  | creditBridgeFromBaseEvent tx =>
    refine iff_of_true ⟨fun holder hsource => ?_, fun _ _ _ => nofun⟩ fun _ _ _ => nofun
    simp only [valueFlow] at hsource
    split_ifs at hsource with hlive
    · obtain rfl := List.mem_singleton.mp hsource
      exact (marked_after h _).mpr (Or.inr ⟨hlive, rfl⟩)
    · cases hsource
  | _ =>
    have hsame : SameMarks s s' := sameMarks_of_accepted h fun _ => not_false
    constructor
    · exact fun hs a ha slot hmove => (hsame slot).mp (hs.2 a ha _ hmove)
    · intro hp
      refine ⟨nofun, fun a ha holder hmove => ?_⟩
      cases holder with
      | balance slot => exact (hsame slot).mpr (hp a ha slot hmove)
      | pool poolId => trivial

theorem sameMarks_head (h : NodeStep (fun _ _ => False) s s') : SameMarks s s' := by
  cases h with
  | transaction h => exact h.elim
  | queue | takeQueue | pushBlock => exact sameMarks_of_eq rfl rfl

/-- **Live value stays marked** in every run of accepted transactions whose pools pay it into
marked balances; a transaction that does not breaks this. -/
theorem value_marked :
    (∀ s T, ValueRun PaysMarked s T → Flow.Safe (Holder.Marked s) T) ∧
    ∀ (tx : Transaction) (s : ChainState) (T : Set Holder), Accepted tx s →
      Flow.Safe (Holder.Marked s) T →
        (Flow.Safe (Holder.Marked (applyTransaction tx s).2) ((valueFlow s tx).spread T) ↔
          PaysMarked tx s T) := by
  refine ⟨fun s T hrun => ?_, fun tx s T hacc hsafe => safe_step_iff (Prod.ext hacc rfl) hsafe⟩
  refine TaintRun.safe hrun fun s T f s' hstep hsafe => ?_
  cases hstep with
  | transaction hacc hok => exact (safe_step_iff (Prod.ext hacc rfl) hsafe).mpr hok
  | head h =>
    rw [Flow.spread_idle]
    exact fun holder hh => (Holder.marked_congr (sameMarks_head h) holder).mpr (hsafe holder hh)

/-- Every run of accepted transactions can be followed. -/
theorem AcceptedReachable.valueRun (h : AcceptedReachable s) :
    ∃ T, ValueRun (fun _ _ _ => True) s T := by
  induction h with
  | refl => exact ⟨∅, .init⟩
  | tail _ hstep ih =>
    obtain ⟨T, hT⟩ := ih
    cases hstep with
    | transaction hacc => exact ⟨_, .step hT (.transaction hacc trivial)⟩
    | queue => exact ⟨_, .step hT (.head (.queue _ _))⟩
    | takeQueue => exact ⟨_, .step hT (.head (.takeQueue _))⟩
    | pushBlock => exact ⟨_, .step hT (.head (.pushBlock _ _ _))⟩

/-- A swap of 100 units out of the credited balance pays 100 tokens. -/
theorem creditedSwap_run (txHash depositId : String) :
    (applyTransaction marketSwap (creditedState txHash depositId)).1 = .ok () ∧
      (slotOf "a" marketToken).noValue
        (applyTransaction marketSwap (creditedState txHash depositId)).2 = some true := by
  have hout : constantProductOut 400 500 100 marketPool = .ok 100 :=
    constantProductOut_ok.mpr (by decide)
  simp [slotOf, Slot.noValue, marketSwap, creditedState, creditedBalance, bridgeState,
    marketState, genesisState, applyTransaction, swapExactIn, swapExactInChecks, swapQuote,
    quoteOutForBaseIn, hout, ensureExpectedId, ensureAssetUnitsAvailable, assetUnits,
    debitAssetUnits, creditAssetUnits, ensureAssetExists, tokenBalanceOrFresh, checkedPoolAdd,
    checkedAdd, checkedSub, Txn.get, Txn.modify, Txn.rejectIf, Txn.okOr, Txn.ofExcept,
    Check.rejectIf, Check.okOr, bind, pure, Except.bind, Except.pure, marketToken_ne]

/-- The swap is tracked: the token balance holds live value after it. -/
theorem creditedSwap_tainted (txHash depositId : String) :
    ∃ T, ValueRun (fun _ _ _ => True)
        (applyTransaction marketSwap (creditedState txHash depositId)).2 T ∧
      .balance (slotOf "a" marketToken) ∈ T := by
  let credit : Transaction := .creditBridgeFromBaseEvent (bridgeDeposit txHash depositId)
  obtain ⟨T, hT⟩ := bridgeState_acceptedReachable.valueRun
  have hrun : applyTransaction credit bridgeState = (.ok (), creditedState txHash depositId) :=
    bridgeDeposit_run txHash depositId
  have hcredit : ValueRun (fun _ _ _ => True) (creditedState txHash depositId)
      ((valueFlow bridgeState credit).spread T) := by
    have hacc : Accepted credit bridgeState := congrArg Prod.fst hrun
    have hstep := TaintRun.step hT (.transaction hacc trivial)
    rwa [hrun] at hstep
  have hsource : .balance (slotOf "a" localTestUnitAssetId) ∈
      (valueFlow bridgeState credit).spread T := Or.inr (Or.inl (List.mem_singleton.mpr rfl))
  refine ⟨_, .step hcredit (.transaction (creditedSwap_run txHash depositId).1 trivial), ?_⟩
  refine Or.inr (Or.inr ⟨_, hsource, ?_⟩)
  simp [valueFlow, marketSwap, creditedState, bridgeState, marketState]

omit K in
/-- The account swaps 100 of its marked units for tokens, and the tokens are not marked. -/
theorem swap_loses_mark :
    letI : Keccak := keccak256
    let s := creditedState (hexText 'a' 64) "1"
    let s' := (applyTransaction marketSwap s).2
    AcceptedReachable s ∧ Accepted marketSwap s ∧
      (slotOf "a" localTestUnitAssetId).noValue s = some false ∧
      (slotOf "a" marketToken).noValue s' = some true ∧
      ∃ T, ValueRun (fun _ _ _ => True) s' T ∧ ¬ Flow.Safe (Holder.Marked s') T := by
  generalize keccak256 = K
  intro s s'
  obtain ⟨hacc, hmark⟩ := creditedSwap_run (hexText 'a' 64) "1"
  obtain ⟨T, hT, hmem⟩ := creditedSwap_tainted (hexText 'a' 64) "1"
  refine ⟨bridgeState_acceptedReachable.apply (bridgeDeposit_run _ _), hacc, ?_, hmark, T, hT, ?_⟩
  · exact (marked_of_some OrderedMap.insert_getElem?_self).mpr rfl
  · intro hsafe
    have hmarked : (slotOf "a" marketToken).noValue s' = some false := hsafe _ hmem
    rw [hmark] at hmarked
    cases hmarked

end FlowMemory
