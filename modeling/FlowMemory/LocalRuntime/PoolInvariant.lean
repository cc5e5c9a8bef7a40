import FlowMemory.Lib.SharePool
import FlowMemory.LocalRuntime.LedgerAccepted
import FlowMemory.LocalRuntime.BuildBlock

/-! # Pools and liquidity positions

An accepted transaction changes a stored pool by one step of the abstract pool or not at all
(`pool_write`, `pool_step`), so what the abstract steps keep holds of the stored pools.

* `pool_worth_mono`: the product of the reserves per squared liquidity unit never falls, in one
  transaction and along every run in which the pool keeps liquidity units.
* `pool_invariant`: in every state reached by accepted transactions the liquidity units of a
  pool are those of its positions, its reserves are empty exactly when there are none, its two
  assets differ, and every position belongs to a pool.

A position is stored under a hash of its pool and its owner; that a deposit finds the position of
its own pool there needs that the positions of the run have different hashes
(`DistinctPositions`). -/

namespace FlowMemory

open Txn OrderedMap

variable [K : Keccak] {s s' t : ChainState} {w : Unit} {p p' : DexPool} {q q' : LpPosition}
  {id poolId : String}

/-! ### Stored pools are abstract pools -/

/-- The reserves and the liquidity units of a stored pool. -/
def DexPool.toPool (p : DexPool) : Pool :=
  ⟨p.reserveBaseUnits.toNat, p.reserveQuoteUnits.toNat, p.totalLpUnits.toNat⟩

/-- A pool without liquidity units holds nothing. -/
def DexPool.EmptyClean (p : DexPool) : Prop :=
  p.totalLpUnits = 0 → p.reserveBaseUnits = 0 ∧ p.reserveQuoteUnits = 0

theorem deposit_step {tx : AddLiquidity} {lp : UInt64} (hf : AddFacts s tx p lp)
    (hclean : p.EmptyClean) : Pool.Step p.toPool ⟨p.toPool.base + tx.baseAmountUnits.toNat,
      p.toPool.quote + tx.quoteAmountUnits.toNat, p.toPool.shares + lp.toNat⟩ := by
  have hsides : lp.toNat * p.toPool.base ≤ tx.baseAmountUnits.toNat * p.toPool.shares ∧
      lp.toNat * p.toPool.quote ≤ tx.quoteAmountUnits.toNat * p.toPool.shares := by
    rcases liquidityUnitsForAdd_ok.mp hf.lp_eq with ⟨hT, -⟩ | ⟨-, -, -, hmin⟩
    · obtain ⟨hb, hq⟩ := hclean hT
      simp [DexPool.toPool, hb, hq]
    · -- the smaller of two quotients is at most each of them
      have hbase := (hmin.trans_le (min_le_left _ _))
      have hquote := (hmin.trans_le (min_le_right _ _))
      exact ⟨(Nat.mul_le_mul_right _ hbase).trans (Nat.div_mul_le_self _ _),
        (Nat.mul_le_mul_right _ hquote).trans (Nat.div_mul_le_self _ _)⟩
  exact .deposit (toNat_ne_zero hf.base_ne) (toNat_ne_zero hf.quote_ne) (toNat_ne_zero hf.lp_ne)
    hsides.1 hsides.2

theorem deposited_step {tx : AddLiquidity} {lp : UInt64}
    (hf : AddFacts s tx p lp) (hd : Deposited tx p p' lp q q') (hclean : p.EmptyClean) :
    Pool.Step p.toPool p'.toPool := by
  have hstep := deposit_step hf hclean
  rwa [DexPool.toPool, ← hd.reserveBase, ← hd.reserveQuote, ← hd.total] at hstep

theorem withdraw_step {tx : RemoveLiquidity} {quote : RemovalQuote} (hf : RemoveFacts s tx quote)
    {base quote' total : ℕ} (hbase : quote.pool.toPool.base = base + quote.baseAmountUnits.toNat)
    (hquote : quote.pool.toPool.quote = quote' + quote.quoteAmountUnits.toNat)
    (htotal : quote.pool.toPool.shares = total + tx.lpUnits.toNat) :
    Pool.Step quote.pool.toPool ⟨base, quote', total⟩ := by
  have hafter : (⟨base, quote', total⟩ : Pool) =
      ⟨quote.pool.toPool.base - quote.pool.toPool.base * tx.lpUnits.toNat / quote.pool.toPool.shares,
        quote.pool.toPool.quote -
          quote.pool.toPool.quote * tx.lpUnits.toNat / quote.pool.toPool.shares,
        quote.pool.toPool.shares - tx.lpUnits.toNat⟩ := by
    rw [hf.base_eq] at hbase
    rw [hf.quote_eq] at hquote
    simp only [DexPool.toPool, Pool.mk.injEq] at hbase hquote htotal ⊢
    omega
  rw [hafter]
  exact .withdraw (toNat_ne_zero hf.total_ne) (htotal ▸ Nat.le_add_left _ _)

theorem swapped_step {tx : SwapExactIn} {quote : SwapQuote}
    (hf : SwapFacts s tx quote) (hd : Swapped quote p') :
    Pool.Step quote.pool.toPool p'.toPool := by
  rcases hf.sides with ⟨-, -, hside⟩ | ⟨-, -, hside⟩
  · have hp' : p'.toPool = ⟨quote.pool.toPool.base + tx.amountInUnits.toNat,
        quote.pool.toPool.quote - quote.pool.toPool.quote * tx.amountInUnits.toNat /
          (quote.pool.toPool.base + tx.amountInUnits.toNat), quote.pool.toPool.shares⟩ := by
      have hout := hside.out_after
      rw [hside.out_eq] at hout
      rw [DexPool.toPool, hd.reserveBase, hd.reserveQuote, hd.total, hside.in_after,
        Nat.eq_sub_of_add_eq hout.symm]
      rfl
    rw [hp']
    exact .swapBase (toNat_ne_zero hside.in_ne) (toNat_ne_zero hside.out_ne)
  · have hp' : p'.toPool = ⟨quote.pool.toPool.base - quote.pool.toPool.base *
          tx.amountInUnits.toNat / (quote.pool.toPool.quote + tx.amountInUnits.toNat),
        quote.pool.toPool.quote + tx.amountInUnits.toNat, quote.pool.toPool.shares⟩ := by
      have hout := hside.out_after
      rw [hside.out_eq] at hout
      rw [DexPool.toPool, hd.reserveBase, hd.reserveQuote, hd.total, hside.in_after,
        Nat.eq_sub_of_add_eq hout.symm]
      rfl
    rw [hp']
    exact .swapQuote (toNat_ne_zero hside.out_ne) (toNat_ne_zero hside.in_ne)

/-- What one transaction may do to a stored pool: one step in the same market. -/
structure PoolMove (p p' : DexPool) : Prop where
  market : SameMarket p p'
  step : p.EmptyClean → Pool.Step p.toPool p'.toPool

/-- The position that a transaction writes, by its pool and its owner. -/
def Transaction.lpPosition : Transaction → Option (String × String)
  | .addLiquidity tx => some (tx.poolId, tx.providerAccountId)
  | .removeLiquidity tx => some (tx.poolId, tx.providerAccountId)
  | _ => none

/-- What an accepted transaction writes to the pools and the positions. -/
inductive PoolWrite (tx : Transaction) (s s' : ChainState) : Prop
  | none (hpools : s'.dexPools = s.dexPools) (hpos : s'.lpPositions = s.lpPositions)
  | create {id : String} {p : DexPool} (hnew : s.dexPools[id]? = Option.none)
      (hzero : p.toPool = ⟨0, 0, 0⟩) (hassets : p.baseAssetId ≠ p.quoteAssetId)
      (hpools : s'.dexPools = s.dexPools.insert id p) (hpos : s'.lpPositions = s.lpPositions)
  | swap {id : String} {p p' : DexPool} (hold : s.dexPools[id]? = some p) (hmove : PoolMove p p')
      (htotal : p'.totalLpUnits = p.totalLpUnits)
      (hpools : s'.dexPools = s.dexPools.insert id p') (hpos : s'.lpPositions = s.lpPositions)
  | liquidity {id owner : String} {p p' : DexPool} {q : LpPosition}
      (htx : tx.lpPosition = some (id, owner)) (hold : s.dexPools[id]? = some p)
      (hmove : PoolMove p p') (hpool : q.poolId = (lpPositionOrFresh s id owner).poolId)
      (howner : q.ownerAccountId = (lpPositionOrFresh s id owner).ownerAccountId)
      (hunits : q.lpUnits.toNat + p.totalLpUnits.toNat =
        (lpPositionOrFresh s id owner).lpUnits.toNat + p'.totalLpUnits.toNat)
      (hpools : s'.dexPools = s.dexPools.insert id p')
      (hpos : s'.lpPositions = s.lpPositions.insert (deterministicLpPositionId id owner) q)

theorem pool_write {tx : Transaction} (h : applyTransaction tx s = (.ok w, s')) :
    PoolWrite tx s s' := by
  cases tx with
  | createPool tx =>
    obtain ⟨hnew, hne, q, rfl, -, hbase, hquote, hb, hq, ht⟩ := createPool_accepted h
    refine .create hnew ?_ (by rwa [hbase, hquote]) rfl rfl
    rw [DexPool.toPool, hb, hq, ht]
    rfl
  | addLiquidity tx =>
    obtain ⟨p, p', lp, pos, r, s₁, s₂, hf, h₁, h₂, rfl, hd⟩ := add_accepted h
    obtain ⟨L, T, rfl⟩ :=
      ((debitAssetUnits_balancesOnly h₁).trans (debitAssetUnits_balancesOnly h₂)).frame
    refine .liquidity rfl hf.pool_eq ⟨hd.market, deposited_step hf hd⟩ hd.poolId hd.owner ?_ rfl rfl
    rw [hd.units, hd.total]
    omega
  | removeLiquidity tx =>
    obtain ⟨quote, p', pos, r, s₁, s₂, hf, h₁, h₂, rfl, hd⟩ := remove_accepted h
    obtain ⟨L, T, rfl⟩ :=
      ((creditAssetUnits_balancesOnly h₁).trans (creditAssetUnits_balancesOnly h₂)).frame
    have hpos : lpPositionOrFresh s tx.poolId tx.providerAccountId = quote.position := by
      rw [lpPositionOrFresh, hf.position_eq, Option.getD_some]
    refine .liquidity rfl hf.pool_eq ⟨hd.market, fun _ =>
      withdraw_step hf hd.reserveBase hd.reserveQuote hd.total⟩ (hpos ▸ hd.poolId)
      (hpos ▸ hd.owner) ?_ rfl rfl
    rw [hpos, hd.units, hd.total]
    omega
  | swapExactIn tx =>
    obtain ⟨quote, p', r, s₁, s₂, hf, h₁, h₂, rfl, hd⟩ := swap_accepted h
    obtain ⟨L, T, rfl⟩ :=
      ((debitAssetUnits_balancesOnly h₁).trans (creditAssetUnits_balancesOnly h₂)).frame
    exact .swap hf.pool_eq ⟨hd.market, fun _ => swapped_step hf hd⟩ hd.total rfl rfl
  | _ =>
    exact .none (applyTransaction_frame (f := .dexPools) h (by simp [footprint]))
      (applyTransaction_frame (f := .lpPositions) h (by simp [footprint]))

omit K in
/-- Writing one pool moves that pool and leaves the others. -/
theorem pool_after_insert {q : DexPool}
    (hold : s.dexPools[id]? = some p) (ht : t.dexPools = s.dexPools.insert id p')
    (hq : s.dexPools[poolId]? = some q) :
    (id = poolId ∧ p = q ∧ t.dexPools[poolId]? = some p') ∨
      (id ≠ poolId ∧ t.dexPools[poolId]? = some q) := by
  rw [ht]
  by_cases hid : id = poolId
  · subst hid
    exact Or.inl ⟨rfl, Option.some.inj (hold.symm.trans hq), insert_getElem?_self⟩
  · exact Or.inr ⟨hid, by rw [insert_getElem?_of_ne hid, hq]⟩

/-- **One transaction**: a stored pool stays where it is and makes at most one step. -/
theorem pool_step {tx : Transaction} (h : PoolWrite tx s s') (hp : s.dexPools[poolId]? = some p) :
    ∃ p', s'.dexPools[poolId]? = some p' ∧ (p' = p ∨ PoolMove p p') := by
  cases h with
  | none hpools hpos => exact ⟨p, by rw [hpools, hp], Or.inl rfl⟩
  | @create id q hnew hzero hassets hpools hpos =>
    have hne : id ≠ poolId := by
      rintro rfl
      rw [hnew] at hp
      cases hp
    exact ⟨p, by rw [hpools, insert_getElem?_of_ne hne, hp], Or.inl rfl⟩
  | swap hold hmove htotal hpools hpos | liquidity htx hold hmove hpool howner hunits hpools hpos =>
    rcases pool_after_insert hold hpools hp with ⟨-, rfl, hp'⟩ | ⟨-, hp'⟩
    · exact ⟨_, hp', Or.inr hmove⟩
    · exact ⟨p, hp', Or.inl rfl⟩

/-! ### Value of a liquidity unit -/

/-- The pool exists and has liquidity units. -/
def HasLiquidity (poolId : String) (s : ChainState) : Prop :=
  ∃ p, s.dexPools[poolId]? = some p ∧ p.totalLpUnits ≠ 0

/-- **No leak**: in every run of accepted transactions during which a pool keeps liquidity units,
the product of its reserves for each squared unit does not fall. -/
theorem pool_worth_mono {poolId : String} {p : DexPool} (hp : s.dexPools[poolId]? = some p)
    (hT : p.totalLpUnits ≠ 0)
    (hrun : Run (fun tx s => Accepted tx s ∧ HasLiquidity poolId (applyTransaction tx s).2) s t) :
    ∃ p', t.dexPools[poolId]? = some p' ∧ p'.totalLpUnits ≠ 0 ∧
      p.reserveBaseUnits.toNat * p.reserveQuoteUnits.toNat * p'.totalLpUnits.toNat ^ 2 ≤
        p'.reserveBaseUnits.toNat * p'.reserveQuoteUnits.toNat * p.totalLpUnits.toNat ^ 2 := by
  refine Run.invariant (P := fun t => ∃ p', t.dexPools[poolId]? = some p' ∧ p'.totalLpUnits ≠ 0 ∧
    Pool.Worth p.toPool p'.toPool) hrun (fun tx s₁ htx hs₁ => ?_) ?_ ⟨p, hp, hT, .refl _⟩
  · obtain ⟨hacc, q, hq, hqT⟩ := htx
    obtain ⟨p₁, hp₁, hT₁, hworth⟩ := hs₁
    have hrun₁ : applyTransaction tx s₁ = (.ok (), (applyTransaction tx s₁).2) := Prod.ext hacc rfl
    obtain ⟨q', hq', hmove⟩ := pool_step (pool_write hrun₁) hp₁
    obtain rfl := Option.some.inj (hq.symm.trans hq')
    rcases hmove with rfl | hmove
    · exact ⟨q, hq, hqT, hworth⟩
    · have hstep := hmove.step fun h => absurd h hT₁
      exact ⟨q, hq, hqT, hworth.trans (toNat_ne_zero hT₁) hstep.worth⟩
  · exact fun s₁ _ _ _ _ _ hs₁ => hs₁

/-- A swap of 100 local units for 100 tokens in the market. -/
def marketSwap : Transaction :=
  .swapExactIn
    { swapId := deterministicSwapId marketPool "a" localTestUnitAssetId 100 (decimal 1),
      poolId := marketPool, traderAccountId := "a", assetInId := localTestUnitAssetId,
      amountInUnits := 100, minAmountOutUnits := 1 }

theorem marketSwap_run : (applyTransaction marketSwap marketState).1 = .ok () ∧
    HasLiquidity marketPool (applyTransaction marketSwap marketState).2 := by
  have hout : constantProductOut 400 500 100 marketPool = .ok 100 :=
    constantProductOut_ok.mpr (by decide)
  simp [HasLiquidity, marketSwap, marketState, genesisState, applyTransaction, swapExactIn,
    swapExactInChecks, swapQuote, quoteOutForBaseIn, hout, ensureExpectedId,
    ensureAssetUnitsAvailable, assetUnits, debitAssetUnits, creditAssetUnits, ensureAssetExists,
    tokenBalanceOrFresh, checkedPoolAdd, checkedAdd, checkedSub, Txn.get, Txn.modify,
    Txn.rejectIf, Txn.okOr, Txn.ofExcept, Check.rejectIf, Check.okOr, bind, pure, Except.bind,
    Except.pure, marketToken_ne]

omit K in
/-- The swap takes the reserves from 400 and 500 to 500 and 400. -/
theorem pool_worth_mono_market :
    letI : Keccak := keccak256
    ∃ p p', marketState.dexPools[marketPool]? = some p ∧
      (applyTransaction marketSwap marketState).2.dexPools[marketPool]? = some p' ∧
      p.reserveBaseUnits.toNat * p.reserveQuoteUnits.toNat * p'.totalLpUnits.toNat ^ 2 ≤
        p'.reserveBaseUnits.toNat * p'.reserveQuoteUnits.toNat * p.totalLpUnits.toNat ^ 2 := by
  generalize keccak256 = K
  have hp : marketState.dexPools[marketPool]? = some _ := insert_getElem?_self
  obtain ⟨p', hp', -, hworth⟩ := pool_worth_mono hp (by simp)
    (.single (.transaction marketSwap_run))
  exact ⟨_, p', hp, hp', hworth⟩

/-! ### Pools and their positions -/

/-- The liquidity units in the positions of a pool. -/
def positionUnits (s : ChainState) (poolId : String) : ℕ :=
  total s.lpPositions fun q => if q.poolId = poolId then q.lpUnits.toNat else 0

/-- The positions of the set are stored under different identifiers. -/
def DistinctPositions (S : Set (String × String)) : Prop :=
  S.InjOn fun position => deterministicLpPositionId position.1 position.2

/-- The pools and the positions of a state fit together: a position, given by its pool and its
owner, is in `S` and has a pool, the units of a pool fit its positions, and `ok` holds of it. -/
structure PoolBooks (S : Set (String × String)) (fits : ℕ → ℕ → Prop) (ok : DexPool → Prop)
    (s : ChainState) : Prop where
  position : ∀ (id : String) (q : LpPosition), s.lpPositions[id]? = some q →
    id = deterministicLpPositionId q.poolId q.ownerAccountId ∧
      (q.poolId, q.ownerAccountId) ∈ S ∧ s.dexPools[q.poolId]? ≠ none
  pool : ∀ (id : String) (p : DexPool), s.dexPools[id]? = some p →
    fits (positionUnits s id) p.totalLpUnits.toNat ∧ ok p

omit K in
theorem DexPool.emptyClean_of_solvent (h : p.toPool.Solvent) : p.EmptyClean := by
  intro hT
  have hshares : p.toPool.shares = 0 := by rw [DexPool.toPool, hT]; rfl
  exact ⟨UInt64.toNat_inj.mp (h.base.mpr hshares), UInt64.toNat_inj.mp (h.quote.mpr hshares)⟩

omit K in
theorem stored_insert {key : String} (h : s.dexPools[key]? ≠ none) :
    (s.dexPools.insert id p)[key]? ≠ none := by
  rw [getElem?_insert]
  split_ifs
  · exact Option.some_ne_none _
  · exact h

section books

variable {S : Set (String × String)} {fits : ℕ → ℕ → Prop} {ok : DexPool → Prop} {owner : String}

/-- No position belongs to a pool that does not exist. -/
theorem PoolBooks.positionUnits_eq_zero (hb : PoolBooks S fits ok s)
    (hnone : s.dexPools[id]? = none) : positionUnits s id = 0 := by
  refine total_eq_zero fun key q hq => if_neg ?_
  rintro rfl
  exact (hb.position key q hq).2.2 hnone

/-- The position a deposit or a withdrawal finds is that of its own pool and owner. -/
theorem PoolBooks.lpPositionOrFresh_eq (hS : DistinctPositions S) (hb : PoolBooks S fits ok s)
    (hmem : (id, owner) ∈ S) : (lpPositionOrFresh s id owner).poolId = id ∧
      (lpPositionOrFresh s id owner).ownerAccountId = owner := by
  unfold lpPositionOrFresh
  cases hq : s.lpPositions[deterministicLpPositionId id owner]? with
  | none => exact ⟨rfl, rfl⟩
  | some q =>
    obtain ⟨hkey, hq, -⟩ := hb.position _ q hq
    exact (Prod.ext_iff.mp (hS hmem hq hkey)).imp Eq.symm Eq.symm

/-- Writing a position moves the units of its pool and of no other. -/
theorem PoolBooks.positionUnits_insert (hS : DistinctPositions S) (hb : PoolBooks S fits ok s)
    (hmem : (id, owner) ∈ S) (hq : q.poolId = id)
    (ht : t.lpPositions = s.lpPositions.insert (deterministicLpPositionId id owner) q)
    (poolId : String) :
    positionUnits t poolId + (if id = poolId then (lpPositionOrFresh s id owner).lpUnits.toNat
      else 0) = positionUnits s poolId + if id = poolId then q.lpUnits.toNat else 0 := by
  have hfound := (hb.lpPositionOrFresh_eq hS hmem).1
  have htotal := total_insert s.lpPositions
    (fun q => if q.poolId = poolId then q.lpUnits.toNat else 0)
    (deterministicLpPositionId id owner) q
  unfold positionUnits
  rw [ht]
  unfold lpPositionOrFresh at hfound ⊢
  cases hold : s.lpPositions[deterministicLpPositionId id owner]? with
  | none =>
    rw [hold, Option.elim_none, hq] at htotal
    rw [Option.getD_none]
    simpa [freshLpPosition] using htotal
  | some q₀ =>
    rw [hold, Option.getD_some] at hfound
    rw [hold, Option.elim_some, hq, hfound] at htotal
    exact htotal

/-! ### One transaction keeps the books -/

theorem PoolBooks.congr (hb : PoolBooks S fits ok s) (hpools : t.dexPools = s.dexPools)
    (hpos : t.lpPositions = s.lpPositions) : PoolBooks S fits ok t := by
  refine ⟨?_, ?_⟩
  · rw [hpools, hpos]
    exact hb.position
  · unfold positionUnits
    rw [hpools, hpos]
    exact hb.pool

/-- A pool is written. -/
theorem PoolBooks.writePool (hb : PoolBooks S fits ok s)
    (hpools : t.dexPools = s.dexPools.insert id p) (hpos : t.lpPositions = s.lpPositions)
    (hfits : fits (positionUnits s id) p.totalLpUnits.toNat) (hok : ok p) :
    PoolBooks S fits ok t := by
  refine ⟨?_, ?_⟩
  · rw [hpools, hpos]
    exact fun key q hq => (hb.position key q hq).imp_right (And.imp_right stored_insert)
  · unfold positionUnits
    rw [hpools, hpos]
    exact forall_insert hb.pool ⟨hfits, hok⟩

/-- A pool and a position of it are written. -/
theorem PoolBooks.writePosition (hS : DistinctPositions S) (hb : PoolBooks S fits ok s)
    (hold : s.dexPools[id]? = some p) (hmem : (id, owner) ∈ S) (hq : q.poolId = id)
    (howner : q.ownerAccountId = owner) (hpools : t.dexPools = s.dexPools.insert id p')
    (hpos : t.lpPositions = s.lpPositions.insert (deterministicLpPositionId id owner) q)
    (hfits : ∀ n n', n' + (lpPositionOrFresh s id owner).lpUnits.toNat = n + q.lpUnits.toNat →
      fits n p.totalLpUnits.toNat → fits n' p'.totalLpUnits.toNat) (hok : ok p') :
    PoolBooks S fits ok t := by
  refine ⟨?_, fun poolId r hr => ?_⟩
  · rw [hpools, hpos]
    refine forall_insert (fun key r hr =>
      (hb.position key r hr).imp_right (And.imp_right stored_insert)) ⟨?_, ?_, ?_⟩
    · rw [hq, howner]
    · rwa [hq, howner]
    · rw [hq, insert_getElem?_self]
      exact Option.some_ne_none _
  · have hsum := hb.positionUnits_insert hS hmem hq hpos poolId
    rw [hpools, getElem?_insert] at hr
    split_ifs at hr hsum with hid
    · subst hid
      obtain rfl := Option.some.inj hr
      exact ⟨hfits _ _ hsum (hb.pool id p hold).1, hok⟩
    · rw [Nat.add_zero, Nat.add_zero] at hsum
      rw [hsum]
      exact hb.pool poolId r hr

end books

/-- What holds of a pool along accepted transactions. -/
def DexPool.Sound (p : DexPool) : Prop := p.toPool.Solvent ∧ p.baseAssetId ≠ p.quoteAssetId

omit K in
theorem PoolMove.sound (h : PoolMove p p') (hp : p.Sound) : p'.Sound := by
  refine ⟨(h.step (DexPool.emptyClean_of_solvent hp.1)).solvent hp.1, ?_⟩
  rw [h.market.baseAssetId, h.market.quoteAssetId]
  exact hp.2

theorem PoolBooks.step {S : Set (String × String)} (hS : DistinctPositions S) {tx : Transaction}
    (h : PoolWrite tx s s') (hmem : ∀ position ∈ tx.lpPosition, position ∈ S)
    (hb : PoolBooks S (· = ·) DexPool.Sound s) : PoolBooks S (· = ·) DexPool.Sound s' := by
  cases h with
  | none hpools hpos => exact hb.congr hpools hpos
  | @create id p hnew hzero hassets hpools hpos =>
    have hT : p.toPool.shares = 0 := by rw [hzero]
    refine hb.writePool hpools hpos ((hb.positionUnits_eq_zero hnew).trans hT.symm) ⟨?_, hassets⟩
    rw [hzero]
    exact ⟨Iff.rfl, Iff.rfl⟩
  | @swap id p p' hold hmove htotal hpools hpos =>
    obtain ⟨hfits, hok⟩ := hb.pool id p hold
    exact hb.writePool hpools hpos (htotal ▸ hfits) (hmove.sound hok)
  | @liquidity id owner p p' q htx hold hmove hpool howner hunits hpools hpos =>
    have hmem : (id, owner) ∈ S := hmem _ htx
    obtain ⟨hfound, hfowner⟩ := hb.lpPositionOrFresh_eq hS hmem
    refine hb.writePosition hS hold hmem (hpool.trans hfound) (howner.trans hfowner) hpools hpos
      (fun n n' hsum hn => ?_) (hmove.sound (hb.pool id p hold).2)
    omega

theorem poolBooks_genesis {S : Set (String × String)} {fits : ℕ → ℕ → Prop} {ok : DexPool → Prop} :
    PoolBooks S fits ok genesisState := by
  refine ⟨fun id q hq => ?_, fun id p hp => ?_⟩
  · simp [genesisState] at hq
  · simp [genesisState] at hp

/-- **Pools and positions**: along accepted transactions whose positions have different identifiers
the liquidity units of a pool are those of its positions, its reserves are empty exactly when it has
none, its two assets differ, and every position belongs to a pool. -/
theorem pool_invariant {S : Set (String × String)} (hS : DistinctPositions S)
    (h : Run (fun tx s => Accepted tx s ∧ ∀ position ∈ tx.lpPosition, position ∈ S)
      genesisState s) :
    (∀ (poolId : String) (p : DexPool), s.dexPools[poolId]? = some p →
      p.totalLpUnits.toNat = positionUnits s poolId ∧
        (p.reserveBaseUnits = 0 ↔ p.totalLpUnits = 0) ∧
        (p.reserveQuoteUnits = 0 ↔ p.totalLpUnits = 0) ∧ p.baseAssetId ≠ p.quoteAssetId) ∧
      ∀ (id : String) (q : LpPosition), s.lpPositions[id]? = some q →
        s.dexPools[q.poolId]? ≠ none := by
  have hbooks : PoolBooks S (· = ·) DexPool.Sound s := by
    refine Run.invariant h (fun tx s htx hs => ?_) ?_ poolBooks_genesis
    · exact hs.step hS (pool_write (Prod.ext htx.1 rfl)) htx.2
    · exact fun s n l p b q hs => hs.congr rfl rfl
  refine ⟨fun poolId p hp => ?_, fun id q hq => (hbooks.position id q hq).2.2⟩
  obtain ⟨hunits, hsolvent, hassets⟩ := hbooks.pool poolId p hp
  refine ⟨hunits.symm, ?_, ?_, hassets⟩
  · rw [← UInt64.toNat_inj, ← UInt64.toNat_inj]
    exact hsolvent.base
  · rw [← UInt64.toNat_inj, ← UInt64.toNat_inj]
    exact hsolvent.quote

omit K in
/-- The market after its first deposit. -/
theorem pool_invariant_market :
    letI : Keccak := keccak256
    (∀ (poolId : String) (p : DexPool), marketState.dexPools[poolId]? = some p →
      p.totalLpUnits.toNat = positionUnits marketState poolId ∧
        (p.reserveBaseUnits = 0 ↔ p.totalLpUnits = 0) ∧
        (p.reserveQuoteUnits = 0 ↔ p.totalLpUnits = 0) ∧ p.baseAssetId ≠ p.quoteAssetId) ∧
      ∀ (id : String) (q : LpPosition), marketState.lpPositions[id]? = some q →
        marketState.dexPools[q.poolId]? ≠ none := by
  generalize keccak256 = K
  have hrun : Run (fun tx s => Accepted tx s ∧ ∀ position ∈ tx.lpPosition,
      position ∈ ({(marketPool, "a")} : Set _)) genesisState marketState := by
    refine marketState_run (market_accepted.imp fun tx htx s hacc => ⟨hacc, ?_⟩)
    simp only [marketHistory, List.map_cons, List.map_nil, List.mem_cons, List.not_mem_nil,
      or_false] at htx
    rcases htx with rfl | rfl | rfl | rfl | rfl <;> simp [envelopeTx, Transaction.lpPosition]
  exact pool_invariant (Set.injOn_singleton _ _) hrun

end FlowMemory
