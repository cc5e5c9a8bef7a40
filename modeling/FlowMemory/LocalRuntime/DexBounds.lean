import FlowMemory.LocalRuntime.Atomicity
import FlowMemory.LocalRuntime.PoolInvariant

/-! # The arithmetic of the pools does not overflow

A rejected transaction keeps the writes it made before it stopped: a deposit may leave its pool
without its position, a withdrawal its position without its pool.  What every transaction keeps,
accepted or not, is that the liquidity units of a pool are **backed**, at most the geometric mean of
its reserves, and that those of its positions are at most those of the pool.  Then no quotient of the
pool formulas leaves 64 bits, and no subtraction is below zero (`dex_arithmetic_fits`). -/

namespace FlowMemory

open Txn OrderedMap

variable [K : Keccak] {S : Set (String × String)} {s t : ChainState} {p : DexPool} {id : String}

/-- The books that every transaction keeps, accepted or rejected. -/
def DexBounds (S : Set (String × String)) : ChainState → Prop :=
  PoolBooks S (· ≤ ·) fun p => p.toPool.Backed

/-! ### Backed pools -/

omit K in
theorem DexPool.backed_of_step {p' : DexPool} (hp : p.toPool.Backed)
    (hstep : Pool.Step p.toPool p'.toPool) (htotal : p'.totalLpUnits = p.totalLpUnits) :
    p'.toPool.Backed := by
  by_cases hT : p.totalLpUnits = 0
  · rw [Pool.Backed, DexPool.toPool, htotal, hT]
    exact Nat.zero_le _
  · exact hstep.backed (toNat_ne_zero hT) hp

/-- A deposit, also the first one. -/
theorem deposit_backed {tx : AddLiquidity} {lp : UInt64} (hf : AddFacts s tx p lp)
    (hp : p.toPool.Backed) : Pool.Backed ⟨p.toPool.base + tx.baseAmountUnits.toNat,
      p.toPool.quote + tx.quoteAmountUnits.toNat, p.toPool.shares + lp.toNat⟩ := by
  rcases liquidityUnitsForAdd_ok.mp hf.lp_eq with ⟨hT, hmin⟩ | ⟨hT, -⟩
  · have hlp : (p.toPool.shares + lp.toNat) ^ 2 ≤
        tx.baseAmountUnits.toNat * tx.quoteAmountUnits.toNat := by
      rw [DexPool.toPool, hT, hmin, UInt64.toNat_zero, Nat.zero_add, pow_two]
      exact Nat.mul_le_mul (min_le_left _ _) (min_le_right _ _)
    exact hlp.trans (Nat.mul_le_mul (Nat.le_add_left _ _) (Nat.le_add_left _ _))
  · exact (deposit_step hf fun h => absurd h hT).backed (toNat_ne_zero hT) hp

/-! ### What a transaction leaves -/

/-- Debits and credits write balances only. -/
theorem DexBounds.balances {m : Action Unit} (hb : DexBounds S s)
    (hm : Writes [.localTestUnitBalances, .tokenBalances] m) : DexBounds S (m s).2 :=
  hb.congr (hm s .dexPools (by simp)) (hm s .lpPositions (by simp))

omit K in
theorem dex_of_run {m : Action Unit} {u : Unit} (h : m s = (.ok u, t))
    (hm : Writes [.localTestUnitBalances, .tokenBalances] m) :
    t.dexPools = s.dexPools ∧ t.lpPositions = s.lpPositions := by
  have hpools := hm s .dexPools (by simp)
  have hpos := hm s .lpPositions (by simp)
  rw [h] at hpools hpos
  exact ⟨hpools, hpos⟩

theorem debit_writes (accountId assetId : String) (amount : UInt64) :
    Writes [.localTestUnitBalances, .tokenBalances] (debitAssetUnits accountId assetId amount) :=
  debitAssetUnits_writes (by simp) (by simp) accountId assetId amount

theorem credit_writes (accountId assetId : String) (amount : UInt64) :
    Writes [.localTestUnitBalances, .tokenBalances] (creditAssetUnits accountId assetId amount) :=
  creditAssetUnits_writes (by simp) (by simp) accountId assetId amount

theorem lpUnits_congr {owner : String} (h : t.lpPositions = s.lpPositions) :
    (lpPositionOrFresh t id owner).lpUnits = (lpPositionOrFresh s id owner).lpUnits := by
  unfold lpPositionOrFresh
  rw [h]
  cases s.lpPositions[deterministicLpPositionId id owner]? <;> rfl

theorem DexBounds.addLiquidity (hS : DistinctPositions S) (hb : DexBounds S s) (tx : AddLiquidity)
    (hmem : (tx.poolId, tx.providerAccountId) ∈ S) : DexBounds S (addLiquidity tx s).2 := by
  rw [FlowMemory.addLiquidity, get_bind]
  refine leaves_ofExcept_bind hb ?_
  rintro ⟨p, lp⟩ hc
  have hf := addFacts hc
  refine leaves_bind (hb.balances (debit_writes _ _ _)) fun _ s₁ h₁ hb₁ =>
    leaves_bind (hb₁.balances (debit_writes _ _ _)) fun _ s₂ h₂ hb₂ => ?_
  obtain ⟨hpools₁, hpos₁⟩ := dex_of_run h₁ (debit_writes _ _ _)
  obtain ⟨hpools₂, hpos₂⟩ := dex_of_run h₂ (debit_writes _ _ _)
  refine leaves_ofExcept_bind hb₂ fun rb hrb => leaves_ofExcept_bind hb₂ fun rq hrq =>
    leaves_ofExcept_bind hb₂ fun tl htl => ?_
  rw [checkedPoolAdd_ok] at hrb hrq htl
  have hbacked := deposit_backed hf (hb.pool _ _ hf.pool_eq).2
  have hfound := hb.lpPositionOrFresh_eq hS hmem
  -- after the pool is written, the position gets at most the new units
  have hleft {t : ChainState} {p' : DexPool} {q : LpPosition}
      (hbase : p'.reserveBaseUnits = rb) (hquote : p'.reserveQuoteUnits = rq)
      (htotal : p'.totalLpUnits = tl) (hpools : t.dexPools = s₂.dexPools.insert tx.poolId p')
      (hpos : t.lpPositions = s₂.lpPositions.insert
        (deterministicLpPositionId tx.poolId tx.providerAccountId) q)
      (hpool : q.poolId = tx.poolId) (howner : q.ownerAccountId = tx.providerAccountId)
      (hunits : q.lpUnits.toNat ≤
        (lpPositionOrFresh s tx.poolId tx.providerAccountId).lpUnits.toNat + lp.toNat) :
      DexBounds S t := by
    refine hb.writePosition hS hf.pool_eq hmem hpool howner (by rw [hpools, hpools₂, hpools₁])
      (by rw [hpos, hpos₂, hpos₁]) (fun n n' hsum hn => ?_) ?_
    · change _ ≤ _ at hn ⊢
      rw [htotal, htl]
      omega
    · change Pool.Backed ⟨_, _, _⟩
      rw [hbase, hquote, htotal, hrb, hrq, htl]
      exact hbacked
  simp only [modify_bind]
  refine leaves_okOr_bind (fun _ => ?_) fun u hu => ?_
  · refine hleft rfl rfl rfl rfl insertIfNew_eq_insert (hb₂.lpPositionOrFresh_eq hS hmem).1
      (hb₂.lpPositionOrFresh_eq hS hmem).2 ?_
    rw [← lpUnits_congr (hpos₂.trans hpos₁)]
    exact Nat.le_add_right _ _
  simp only [modify_bind, insert_insertIfNew]
  rw [checkedAdd_eq_some] at hu
  refine leaves_okOr_bind (fun _ => hleft rfl rfl rfl rfl rfl hfound.1 hfound.2 hu.le) fun bd _ => ?_
  simp only [modify_bind, insert_insert]
  refine leaves_okOr_bind (fun _ => hleft rfl rfl rfl rfl rfl hfound.1 hfound.2 hu.le) fun qd _ => ?_
  simp only [modify_bind, insert_insert]
  exact hleft rfl rfl rfl rfl rfl hfound.1 hfound.2 hu.le

/-- The units of a position are among those of its pool. -/
theorem DexBounds.lpUnits_le (hS : DistinctPositions S) (hb : DexBounds S s) {owner : String}
    (hp : s.dexPools[id]? = some p) (hmem : (id, owner) ∈ S) :
    (lpPositionOrFresh s id owner).lpUnits.toNat ≤ p.totalLpUnits.toNat := by
  have hsum := hb.positionUnits_insert hS hmem (q := freshLpPosition s id owner) rfl
    (t := { s with lpPositions := s.lpPositions.insert _ _ }) rfl id
  have hle : positionUnits s id ≤ p.totalLpUnits.toNat := (hb.pool id p hp).1
  rw [if_pos rfl, if_pos rfl] at hsum
  change _ = _ + 0 at hsum
  omega

theorem DexBounds.removeLiquidity (hS : DistinctPositions S) (hb : DexBounds S s)
    (tx : RemoveLiquidity) (hmem : (tx.poolId, tx.providerAccountId) ∈ S) :
    DexBounds S (removeLiquidity tx s).2 := by
  rw [FlowMemory.removeLiquidity, get_bind]
  refine leaves_ofExcept_bind hb fun quote hc => ?_
  have hf := removeFacts hc
  have hposition : lpPositionOrFresh s tx.poolId tx.providerAccountId = quote.position := by
    rw [lpPositionOrFresh, hf.position_eq, Option.getD_some]
  have hfound := hb.lpPositionOrFresh_eq hS hmem
  have hle := hb.lpUnits_le hS hf.pool_eq hmem
  rw [hposition] at hfound hle
  have hlp := toNat_sub_add hf.lp_le
  have hbacked : quote.pool.toPool.Backed := (hb.pool _ _ hf.pool_eq).2
  -- the position loses the units; the pool is not yet written, or has lost the units too
  have hleft {t : ChainState} {p' : DexPool} {q : LpPosition} (hp' : p'.toPool.Backed)
      (htotal : quote.pool.totalLpUnits.toNat ≤ p'.totalLpUnits.toNat + tx.lpUnits.toNat)
      (hpools : t.dexPools = s.dexPools.insert tx.poolId p')
      (hpos : t.lpPositions = s.lpPositions.insert
        (deterministicLpPositionId tx.poolId tx.providerAccountId) q)
      (hpool : q.poolId = quote.position.poolId)
      (howner : q.ownerAccountId = quote.position.ownerAccountId)
      (hunits : q.lpUnits = quote.position.lpUnits - tx.lpUnits) : DexBounds S t := by
    refine hb.writePosition hS hf.pool_eq hmem (hpool.trans hfound.1) (howner.trans hfound.2)
      hpools hpos (fun n n' hsum hn => ?_) hp'
    change _ ≤ _ at hn ⊢
    rw [hposition, hunits] at hsum
    omega
  have hsame := (insert_eq_self hf.pool_eq).symm
  simp only [modify_bind]
  refine leaves_okOr_bind (fun _ => hleft hbacked (Nat.le_add_right _ _) hsame rfl rfl rfl rfl)
    fun bw _ => ?_
  simp only [modify_bind, insert_insert]
  refine leaves_okOr_bind (fun _ => hleft hbacked (Nat.le_add_right _ _) hsame rfl rfl rfl rfl)
    fun qw _ => ?_
  simp only [modify_bind, insert_insert]
  refine leaves_okOr_bind (fun _ => hleft hbacked (Nat.le_add_right _ _) hsame rfl rfl rfl rfl)
    fun rb hrb => leaves_okOr_bind (fun _ =>
      hleft hbacked (Nat.le_add_right _ _) hsame rfl rfl rfl rfl) fun rq hrq => ?_
  simp only [modify_bind]
  refine leaves_okOr_bind (fun hnone => ?_) fun tl htl => ?_
  · rw [checkedSub_eq_none] at hnone
    omega
  simp only [modify_bind, insert_insert]
  rw [checkedSub_eq_some] at hrb hrq htl
  refine leaves_bind (DexBounds.balances ?_ (credit_writes _ _ _)) fun _ s₁ _ hb₁ =>
    leaves_bind (hb₁.balances (credit_writes _ _ _)) fun _ s₂ _ hb₂ => hb₂.congr rfl rfl
  refine hleft ?_ htl.le rfl rfl rfl rfl rfl
  exact (withdraw_step hf hrb hrq htl).backed (toNat_ne_zero hf.total_ne) hbacked

theorem DexBounds.swapExactIn (hb : DexBounds S s) (tx : SwapExactIn) :
    DexBounds S (swapExactIn tx s).2 := by
  rw [FlowMemory.swapExactIn, get_bind]
  refine leaves_ofExcept_bind hb fun quote hc => ?_
  have hf := swapFacts hc
  refine leaves_bind (hb.balances (debit_writes _ _ _)) fun _ s₁ h₁ hb₁ =>
    leaves_bind (hb₁.balances (credit_writes _ _ _)) fun _ s₂ h₂ hb₂ => ?_
  obtain ⟨hpools₁, hpos₁⟩ := dex_of_run h₁ (debit_writes _ _ _)
  obtain ⟨hpools₂, hpos₂⟩ := dex_of_run h₂ (credit_writes _ _ _)
  have hold : s₂.dexPools[tx.poolId]? = some quote.pool := by rw [hpools₂, hpools₁, hf.pool_eq]
  obtain ⟨hfits, hbacked⟩ := hb₂.pool _ _ hold
  exact hb₂.writePool rfl rfl hfits
    (DexPool.backed_of_step hbacked (swapped_step hf ⟨⟨rfl, rfl, rfl⟩, rfl, rfl, rfl⟩) rfl)

theorem DexBounds.createPool (hb : DexBounds S s) (tx : CreatePool) :
    DexBounds S (createPool tx s).2 := by
  rcases h : FlowMemory.createPool tx s with ⟨e | u, t⟩
  · rw [applyTransaction_atomic (.createPool tx) trivial s e t h]
    exact hb
  · obtain ⟨hnew, -, p, rfl, -, -, -, hbase, hquote, hT⟩ := createPool_accepted h
    refine hb.writePool rfl rfl ?_ ?_
    · rw [hb.positionUnits_eq_zero hnew]
      exact Nat.zero_le _
    · rw [DexPool.toPool, hT]
      exact Nat.zero_le _

theorem DexBounds.transaction (hS : DistinctPositions S) (hb : DexBounds S s) (tx : Transaction)
    (hmem : ∀ position ∈ tx.lpPosition, position ∈ S) : DexBounds S (applyTransaction tx s).2 := by
  cases tx with
  | createPool tx => exact hb.createPool tx
  | addLiquidity tx => exact hb.addLiquidity hS tx (hmem _ rfl)
  | removeLiquidity tx => exact hb.removeLiquidity hS tx (hmem _ rfl)
  | swapExactIn tx => exact hb.swapExactIn tx
  | _ =>
    exact hb.congr (applyTransaction_writes _ s .dexPools (by simp [footprint]))
      (applyTransaction_writes _ s .lpPositions (by simp [footprint]))

/-! ### Quotients and differences -/

section fits

variable {a b : UInt64}

omit K

theorem exists_checkedSub (h : b.toNat ≤ a.toNat) : ∃ c, checkedSub a b = some c :=
  ⟨a - b, checkedSub_eq_some.mpr (toNat_sub_add (UInt64.le_iff_toNat_le.mpr h))⟩

theorem exists_toNat {n : ℕ} (h : n ≤ a.toNat) : ∃ c : UInt64, c.toNat = n :=
  ⟨UInt64.ofNat n, UInt64.toNat_ofNat_of_lt' (h.trans_lt a.toNat_lt)⟩

theorem exists_proportionalAmount {reserve lp total : UInt64} (htotal : total ≠ 0)
    (hle : lp.toNat ≤ total.toNat) : ∃ amount after, proportionalAmount reserve lp total id =
      .ok amount ∧ checkedSub reserve amount = some after := by
  have hpart : reserve.toNat * lp.toNat / total.toNat ≤ reserve.toNat :=
    Nat.div_le_of_le_mul (by rw [Nat.mul_comm total.toNat]; exact Nat.mul_le_mul_left _ hle)
  obtain ⟨amount, hamount⟩ := exists_toNat hpart
  obtain ⟨after, hafter⟩ := exists_checkedSub (hamount.trans_le hpart)
  exact ⟨amount, after, proportionalAmount_ok.mpr ⟨htotal, hamount⟩, hafter⟩

theorem exists_constantProductOut {reserveIn reserveOut : UInt64} (hin : reserveIn ≠ 0)
    (hout : reserveOut ≠ 0) (n : UInt64) : ∃ amount after,
      constantProductOut reserveIn reserveOut n id = .ok amount ∧
        checkedSub reserveOut amount = some after := by
  have hpart := (Pool.swap_out_lt (n := n.toNat) (toNat_ne_zero hin) (toNat_ne_zero hout)).le
  obtain ⟨amount, hamount⟩ := exists_toNat hpart
  obtain ⟨after, hafter⟩ := exists_checkedSub (hamount.trans_le hpart)
  exact ⟨amount, after, constantProductOut_ok.mpr ⟨hin, hout, hamount⟩, hafter⟩

theorem exists_liquidityUnitsForAdd (hp : p.toPool.Backed) (base quote : UInt64) :
    ∃ lp, liquidityUnitsForAdd p base quote = .ok lp := by
  simp only [liquidityUnitsForAdd_ok]
  by_cases hT : p.totalLpUnits = 0
  · obtain ⟨lp, hlp⟩ := exists_toNat (min_le_left base.toNat quote.toNat)
    exact ⟨lp, .inl ⟨hT, hlp⟩⟩
  · have hpos : 0 < p.toPool.base * p.toPool.quote :=
      (Nat.pow_pos (Nat.pos_of_ne_zero (toNat_ne_zero hT))).trans_le hp
    have hlt : min (base.toNat * p.totalLpUnits.toNat / p.reserveBaseUnits.toNat)
        (quote.toNat * p.totalLpUnits.toNat / p.reserveQuoteUnits.toNat) < 2 ^ 64 := by
      refine lt_of_pow_lt_pow_left₀ 2 (Nat.zero_le _) ((hp.issued_sq_le _ _).trans_lt ?_)
      rw [pow_two]
      exact Nat.mul_lt_mul'' base.toNat_lt quote.toNat_lt
    refine ⟨UInt64.ofNat _, .inr ⟨hT, ?_, ?_, UInt64.toNat_ofNat_of_lt' hlt⟩⟩
    · rintro hzero
      simp [DexPool.toPool, hzero] at hpos
    · rintro hzero
      simp [DexPool.toPool, hzero] at hpos

end fits

/-! ### Every state of a run -/

/-- **The arithmetic of the pools fits**, in every state that transactions reach from genesis,
accepted or rejected, whose positions are stored under different identifiers: the liquidity units of
a pool are at most the geometric mean of its reserves and at least those of its positions.  The
conversions to 64 bits of a deposit, of a withdrawal of units that the position has, and of a swap
with both reserves succeed, and so do the subtractions. -/
theorem dex_arithmetic_fits (hS : DistinctPositions S)
    (hrun : Run (fun tx _ => ∀ position ∈ tx.lpPosition, position ∈ S) genesisState s)
    {poolId : String} {p : DexPool} (hp : s.dexPools[poolId]? = some p) :
    p.totalLpUnits.toNat ^ 2 ≤ p.reserveBaseUnits.toNat * p.reserveQuoteUnits.toNat ∧
      positionUnits s poolId ≤ p.totalLpUnits.toNat ∧
      (∀ base quote, ∃ lp, liquidityUnitsForAdd p base quote = .ok lp) ∧
      (∀ owner q lp, (poolId, owner) ∈ S →
        s.lpPositions[deterministicLpPositionId poolId owner]? = some q → lp ≠ 0 → lp ≤ q.lpUnits →
          ∃ base quote base' quote' total,
            proportionalAmount p.reserveBaseUnits lp p.totalLpUnits poolId = .ok base ∧
            proportionalAmount p.reserveQuoteUnits lp p.totalLpUnits poolId = .ok quote ∧
            checkedSub p.reserveBaseUnits base = some base' ∧
            checkedSub p.reserveQuoteUnits quote = some quote' ∧
            checkedSub p.totalLpUnits lp = some total) ∧
      (p.reserveBaseUnits ≠ 0 → p.reserveQuoteUnits ≠ 0 → ∀ amountIn,
        (∃ out quote', quoteOutForBaseIn p amountIn = .ok out ∧
          checkedSub p.reserveQuoteUnits out = some quote') ∧
        ∃ out base', baseOutForQuoteIn p amountIn = .ok out ∧
          checkedSub p.reserveBaseUnits out = some base') := by
  have hb : DexBounds S s := Run.invariant hrun (fun tx s htx hs => hs.transaction hS tx htx)
    (fun s n l p b q hs => hs.congr rfl rfl) poolBooks_genesis
  obtain ⟨hfits, hbacked⟩ := hb.pool poolId p hp
  refine ⟨hbacked, hfits, exists_liquidityUnitsForAdd hbacked, fun owner q lp hmem hq hne hlp => ?_,
    fun hbase hquote n =>
      ⟨exists_constantProductOut hbase hquote n, exists_constantProductOut hquote hbase n⟩⟩
  have hle := hb.lpUnits_le hS hp hmem
  rw [lpPositionOrFresh, hq, Option.getD_some] at hle
  have hlp := (UInt64.le_iff_toNat_le.mp hlp).trans hle
  have htotal : p.totalLpUnits ≠ 0 := by
    rintro hzero
    rw [hzero, UInt64.toNat_zero, Nat.le_zero] at hlp
    exact toNat_ne_zero hne hlp
  obtain ⟨base, base', hbase, hbase'⟩ := exists_proportionalAmount htotal hlp
  obtain ⟨quote, quote', hquote, hquote'⟩ := exists_proportionalAmount htotal hlp
  obtain ⟨total, htotal'⟩ := exists_checkedSub hlp
  exact ⟨base, quote, base', quote', total, hbase, hquote, hbase', hquote', htotal'⟩

omit K in
/-- The market has one position. -/
theorem dex_arithmetic_fits_market :
    letI : Keccak := keccak256
    ∃ p, marketState.dexPools[marketPool]? = some p ∧
      p.totalLpUnits.toNat ^ 2 ≤ p.reserveBaseUnits.toNat * p.reserveQuoteUnits.toNat ∧
      positionUnits marketState marketPool ≤ p.totalLpUnits.toNat := by
  generalize keccak256 = K
  have hp : marketState.dexPools[marketPool]? = some _ := insert_getElem?_self
  have hrun : Run (fun tx _ => ∀ position ∈ tx.lpPosition, position ∈ ({(marketPool, "a")} : Set _))
      genesisState marketState :=
    marketState_run (by simp [marketHistory, Admits, envelopeTx, Transaction.lpPosition])
  obtain ⟨hbacked, hunits, -⟩ := dex_arithmetic_fits (Set.injOn_singleton _ _) hrun hp
  exact ⟨_, hp, hbacked, hunits⟩

end FlowMemory
