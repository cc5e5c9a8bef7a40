import FlowMemory.LocalRuntime.Slots
import FlowMemory.LocalRuntime.LedgerTransactions
import FlowMemory.LocalRuntime.BridgeTransactions

/-! # What accepted ledger transactions do

For every transaction that moves units: what its tests establish (`AddFacts`, `RemoveFacts`,
`SwapFacts`), and which debits, credits and writes an accepted one consists of.  Later modules
use these descriptions and do not open the routines again. -/

namespace FlowMemory

open Txn OrderedMap

variable [K : Keccak] {s s' : ChainState} {w : Unit} {assetId : String} {n : UInt64}
  {tx : CreditBridgeFromBaseEvent} {pool : DexPool} {quote : SwapQuote}

/-! ### What the tests establish -/

/-- An account can pay an amount. -/
def CanPay (s : ChainState) (accountId assetId : String) (n : UInt64) : Prop :=
  AssetExists s assetId ∧ ∃ u, (slotOf accountId assetId).units s = some u ∧ n ≤ u

theorem canPay_of_available {accountId : String} (hn : n ≠ 0)
    (h : ensureAssetUnitsAvailable s accountId assetId n = .ok w) :
    CanPay s accountId assetId n := by
  obtain ⟨u, hu, hle⟩ := ensureAssetUnitsAvailable_ok.mp h
  obtain ⟨he, hu⟩ := assetUnits_ok.mp hu
  refine ⟨he, u, ?_, hle⟩
  rcases hu with hu | ⟨-, -, rfl⟩
  · exact hu
  · -- an absent token balance counts as zero, and nothing positive is available there
    have hzero := UInt64.le_iff_toNat_le.mp hle
    exact absurd (Nat.le_zero.mp hzero) (toNat_ne_zero hn)

theorem CanPay.debit {accountId : String} (h : CanPay s accountId assetId n) :
    ∃ s₁, debitAssetUnits accountId assetId n s = (.ok (), s₁) := by
  obtain ⟨he, u, hu, hn⟩ := h
  exact ⟨_, debitAssetUnits_ok.mpr ⟨he, u, hu, hn, rfl⟩⟩

/-- What is known of a deposit that passed its tests. -/
structure AddFacts (s : ChainState) (tx : AddLiquidity) (pool : DexPool) (lpUnits : UInt64) :
    Prop where
  pool_eq : s.dexPools[tx.poolId]? = some pool
  base_ne : tx.baseAmountUnits ≠ 0
  quote_ne : tx.quoteAmountUnits ≠ 0
  lp_ne : lpUnits ≠ 0
  lp_eq : liquidityUnitsForAdd pool tx.baseAmountUnits tx.quoteAmountUnits = .ok lpUnits
  pay_base : CanPay s tx.providerAccountId pool.baseAssetId tx.baseAmountUnits
  pay_quote : CanPay s tx.providerAccountId pool.quoteAssetId tx.quoteAmountUnits

theorem addFacts {tx : AddLiquidity} {lpUnits : UInt64}
    (h : addLiquidityChecks s tx = .ok (pool, lpUnits)) : AddFacts s tx pool lpUnits := by
  simp only [addLiquidityChecks, Check.bind_ok, Check.rejectIf_ok, Check.okOr_ok, Check.pure_ok,
    not_or, Prod.mk.injEq] at h
  obtain ⟨-, -, -, -, -, ⟨hbase, hquote⟩, p, hp, lp, hlp, -, ⟨hne, -⟩, _, hpb, _, hpq, rfl, rfl⟩ := h
  exact ⟨hp, hbase, hquote, hne, hlp, canPay_of_available hbase hpb, canPay_of_available hquote hpq⟩

/-- What is known of a withdrawal that passed its tests. -/
structure RemoveFacts (s : ChainState) (tx : RemoveLiquidity) (quote : RemovalQuote) : Prop where
  pool_eq : s.dexPools[tx.poolId]? = some quote.pool
  position_eq :
    s.lpPositions[deterministicLpPositionId tx.poolId tx.providerAccountId]? = some quote.position
  lp_ne : tx.lpUnits ≠ 0
  total_ne : quote.pool.totalLpUnits ≠ 0
  lp_le : tx.lpUnits ≤ quote.position.lpUnits
  base_eq : quote.baseAmountUnits.toNat =
    quote.pool.reserveBaseUnits.toNat * tx.lpUnits.toNat / quote.pool.totalLpUnits.toNat
  quote_eq : quote.quoteAmountUnits.toNat =
    quote.pool.reserveQuoteUnits.toNat * tx.lpUnits.toNat / quote.pool.totalLpUnits.toNat

theorem removeFacts {tx : RemoveLiquidity} {quote : RemovalQuote}
    (h : removeLiquidityChecks s tx = .ok quote) : RemoveFacts s tx quote := by
  simp only [removeLiquidityChecks, Check.bind_ok, Check.rejectIf_ok, Check.okOr_ok,
    Check.pure_ok, proportionalAmount_ok, UInt64.not_lt] at h
  obtain ⟨-, -, -, -, -, hlp, p, hp, -, htot, pos, hpos, -, hle, b, ⟨-, hb⟩, q, ⟨-, hq⟩, -, -, rfl⟩ :=
    h
  exact ⟨hp, hpos, hlp, htot, hle, hb, hq⟩

/-- The reserves before and after a swap that pays `amountIn` into one side and takes `amountOut`
from the other. -/
structure SwapSides (reserveIn reserveOut amountIn amountOut inAfter outAfter : UInt64) :
    Prop where
  in_ne : reserveIn ≠ 0
  out_ne : reserveOut ≠ 0
  out_eq : amountOut.toNat =
    reserveOut.toNat * amountIn.toNat / (reserveIn.toNat + amountIn.toNat)
  in_after : inAfter.toNat = reserveIn.toNat + amountIn.toNat
  out_after : reserveOut.toNat = outAfter.toNat + amountOut.toNat

/-- What is known of a swap that passed its tests: it goes in one of the two directions. -/
structure SwapFacts (s : ChainState) (tx : SwapExactIn) (quote : SwapQuote) : Prop where
  pool_eq : s.dexPools[tx.poolId]? = some quote.pool
  in_ne : tx.amountInUnits ≠ 0
  out_ne : quote.amountOutUnits ≠ 0
  sides :
    (tx.assetInId = quote.pool.baseAssetId ∧ quote.assetOutId = quote.pool.quoteAssetId ∧
      SwapSides quote.pool.reserveBaseUnits quote.pool.reserveQuoteUnits tx.amountInUnits
        quote.amountOutUnits quote.reserveBaseAfter quote.reserveQuoteAfter) ∨
    (tx.assetInId = quote.pool.quoteAssetId ∧ quote.assetOutId = quote.pool.baseAssetId ∧
      SwapSides quote.pool.reserveQuoteUnits quote.pool.reserveBaseUnits tx.amountInUnits
        quote.amountOutUnits quote.reserveQuoteAfter quote.reserveBaseAfter)
  pay : CanPay s tx.traderAccountId tx.assetInId tx.amountInUnits

omit K in
theorem swapQuote_ok {tx : SwapExactIn} (h : swapQuote pool tx = .ok quote) : quote.pool = pool ∧
    ((tx.assetInId = pool.baseAssetId ∧ quote.assetOutId = pool.quoteAssetId ∧
      SwapSides pool.reserveBaseUnits pool.reserveQuoteUnits tx.amountInUnits
        quote.amountOutUnits quote.reserveBaseAfter quote.reserveQuoteAfter) ∨
    (tx.assetInId = pool.quoteAssetId ∧ quote.assetOutId = pool.baseAssetId ∧
      SwapSides pool.reserveQuoteUnits pool.reserveBaseUnits tx.amountInUnits
        quote.amountOutUnits quote.reserveQuoteAfter quote.reserveBaseAfter)) := by
  unfold swapQuote at h
  split_ifs at h with hbase hquote
  · simp only [quoteOutForBaseIn, Check.bind_ok, constantProductOut_ok, checkedPoolAdd_ok,
      Check.okOr_ok, checkedSub_eq_some, Check.pure_ok] at h
    obtain ⟨out, ⟨hin, hout, heq⟩, baseAfter, hb, quoteAfter, hq, rfl⟩ := h
    exact ⟨rfl, Or.inl ⟨hbase, rfl, hin, hout, heq, hb, hq⟩⟩
  · simp only [baseOutForQuoteIn, Check.bind_ok, constantProductOut_ok, checkedPoolAdd_ok,
      Check.okOr_ok, checkedSub_eq_some, Check.pure_ok] at h
    obtain ⟨out, ⟨hin, hout, heq⟩, baseAfter, hb, quoteAfter, hq, rfl⟩ := h
    exact ⟨rfl, Or.inr ⟨hquote, rfl, hin, hout, heq, hq, hb⟩⟩

theorem swapFacts {tx : SwapExactIn}
    (h : swapExactInChecks s tx = .ok quote) : SwapFacts s tx quote := by
  simp only [swapExactInChecks, Check.bind_ok, Check.rejectIf_ok, Check.okOr_ok, Check.pure_ok,
    not_or] at h
  obtain ⟨-, -, -, -, -, hin, p, hp, q, hq, -, ⟨hout, -⟩, _, hpay, rfl⟩ := h
  obtain ⟨rfl, hsides⟩ := swapQuote_ok hq
  exact ⟨hp, hin, hout, hsides, canPay_of_available hin hpay⟩

/-- What is known of a bridge credit that passed its tests. -/
structure BridgeFacts (s : ChainState) (tx : CreditBridgeFromBaseEvent) : Prop where
  replay_mem : tx.replayKey ∈ tx.expectedReplayKeys
  credit_mem : tx.bridgeCreditId ∈ tx.expectedCreditIds
  receipt_eq : tx.receiptId = tx.bridgeCreditId
  replay_new : s.bridgeReplayIndex[tx.replayKey]? = none
  credit_new : s.bridgeCredits[tx.bridgeCreditId]? = none
  event_new : s.bridgeEventReceiptIndex[tx.eventRefKey]? = none

theorem bridgeFacts {owner : String}
    (h : creditBridgeChecks s tx = .ok owner) : BridgeFacts s tx := by
  simp only [creditBridgeChecks, creditBridgeRequestChecks, creditBridgeReplayChecks,
    Check.bind_ok, Check.rejectIf_ok, ensureExpectedIdOneOf_ok, ensureExpectedId_ok, not_or,
    contains_eq_false] at h
  obtain ⟨_, ⟨_, -, _, hreplay, _, hcredit, _, hreceipt, -⟩, _, ⟨_, hr, _, ⟨hc, -⟩, he⟩, -⟩ := h
  exact ⟨hreplay, hcredit, hreceipt, hr, hc, he⟩

theorem markIfLive_ok (h : markIfLive tx s = (.ok w, s')) :
    (tx.liveCredit = true ∧ s' = (slotOf tx.accountId tx.assetId).mark s) ∨
      (tx.liveCredit = false ∧ s' = s) := by
  unfold markIfLive at h
  split_ifs at h with hlive
  · exact Or.inl ⟨hlive, markAssetBalanceValueBearing_ok.mp h⟩
  · exact Or.inr ⟨by simpa using hlive, (pure_ok.mp h).2⟩

theorem markIfLive_balancesOnly (h : markIfLive tx s = (.ok w, s')) : BalancesOnly s s' := by
  rcases markIfLive_ok h with ⟨-, rfl⟩ | ⟨-, rfl⟩
  · exact balancesOnly_mark _
  · exact ⟨⟨_, _, rfl⟩, fun _ => Iff.rfl⟩

/-! ### What accepted transactions write -/

omit K in
theorem create_accepted {tx : CreateLocalTestUnitBalance}
    (h : createLocalTestUnitBalance tx s = (.ok w, s')) :
    s.localTestUnitBalances[tx.accountId]? = none ∧ ∃ b : LocalTestUnitBalance,
      s' = { s with localTestUnitBalances := s.localTestUnitBalances.insert tx.accountId b } ∧
      b.units = 0 ∧ b.noValue = true := by
  simp only [createLocalTestUnitBalance, get_bind, rejectIf_bind_ok, modify_ok,
    contains_eq_false] at h
  exact ⟨h.1, _, h.2, rfl, rfl⟩

omit K in
theorem faucet_accepted {tx : FaucetLocalTestUnits} (h : faucetLocalTestUnits tx s = (.ok w, s')) :
    s.faucetRecords[tx.faucetRecordId]? = none ∧
      ∃ (b b' : LocalTestUnitBalance) (r : FaucetRecord),
        s.localTestUnitBalances[tx.accountId]? = some b ∧
        s' = { s with
          localTestUnitBalances := s.localTestUnitBalances.insert tx.accountId b'
          faucetRecords := s.faucetRecords.insert tx.faucetRecordId r } ∧
        b'.units.toNat = b.units.toNat + tx.amountUnits.toNat ∧ b'.noValue = b.noValue ∧
        r.amountUnits = tx.amountUnits := by
  simp only [faucetLocalTestUnits, get_bind, ofExcept_bind_ok, faucetChecks, Check.bind_ok,
    Check.rejectIf_ok, Check.okOr_ok, Check.pure_ok, contains_eq_false, modify_bind,
    okOr_bind_ok, modify_ok, insert_insert] at h
  obtain ⟨_, ⟨_, -, _, hrec, b, hb, u, hu, rfl⟩, t, -, h⟩ := h
  exact ⟨hrec, b, _, _, hb, h, checkedAdd_eq_some.mp hu, rfl, rfl⟩

omit K in
/-- A transfer to oneself writes the balance back; any other one moves the amount and passes the
mark on. -/
theorem transfer_accepted {tx : TransferLocalTestUnits}
    (h : transferLocalTestUnits tx s = (.ok w, s')) :
    tx.amountUnits ≠ 0 ∧ ∃ (b b' : LocalTestUnitBalance) (r : BalanceTransfer),
      s.localTestUnitBalances[tx.fromAccountId]? = some b ∧
      ((tx.fromAccountId = tx.toAccountId ∧
        s' = { s with
          localTestUnitBalances := s.localTestUnitBalances.insert tx.fromAccountId b'
          balanceTransfers := s.balanceTransfers.insert tx.transferId r } ∧
        b'.units = b.units ∧ b'.noValue = b.noValue) ∨
      (tx.fromAccountId ≠ tx.toAccountId ∧ ∃ c c' : LocalTestUnitBalance,
        s.localTestUnitBalances[tx.toAccountId]? = some c ∧
        s' = { s with
          localTestUnitBalances :=
            (s.localTestUnitBalances.insert tx.fromAccountId b').insert tx.toAccountId c'
          balanceTransfers := s.balanceTransfers.insert tx.transferId r } ∧
        b.units.toNat = b'.units.toNat + tx.amountUnits.toNat ∧ b'.noValue = b.noValue ∧
        c'.units.toNat = c.units.toNat + tx.amountUnits.toNat ∧
        c'.noValue = (c.noValue && b.noValue))) := by
  simp only [transferLocalTestUnits, get_bind, rejectIf_bind_ok, okOr_bind_ok, UInt64.not_lt] at h
  obtain ⟨-, hn, b, hb, hle, h⟩ := h
  split_ifs at h with heq
  · simp only [modify_bind, modify_ok] at h
    exact ⟨hn, b, _, _, hb, Or.inl ⟨heq, h, rfl, rfl⟩⟩
  · simp only [okOr_bind_ok, modify_bind, modify_ok] at h
    obtain ⟨c, hc, v, hv, h⟩ := h
    exact ⟨hn, b, _, _, hb, Or.inr ⟨heq, c, _, hc, h, toNat_sub_add hle, rfl,
      checkedAdd_eq_some.mp hv, rfl⟩⟩

/-- The fields of a mint that its identifier hashes: token, account, amount and reason. -/
def LocalTestTokenMintReceipt.fields (r : LocalTestTokenMintReceipt) :
    String × String × UInt64 × String :=
  (r.tokenId, r.toAccountId, r.amountUnits, r.reason)

/-- The mint that a transaction records. -/
def Transaction.mint : Transaction → Option (String × String × UInt64 × String)
  | .launchToken tx =>
    some (tx.tokenId, tx.initialOwnerAccountId, tx.initialSupplyUnits, "initial-supply")
  | .mintLocalTestToken tx => some (tx.tokenId, tx.toAccountId, tx.amountUnits, tx.reason)
  | _ => none

theorem launch_accepted {tx : LaunchToken} (h : launchToken tx s = (.ok w, s')) :
    (∃ bytes, tx.tokenId = keccakHex bytes) ∧ s.tokenDefinitions[tx.tokenId]? = none ∧
      ∃ (d : LocalTestToken) (mintId : String) (r : LocalTestTokenMintReceipt) (s₁ : ChainState),
        creditAssetUnits tx.initialOwnerAccountId tx.tokenId tx.initialSupplyUnits
          { s with tokenDefinitions := s.tokenDefinitions.insert tx.tokenId d } = (.ok (), s₁) ∧
        s' = { s₁ with tokenMintReceipts := s₁.tokenMintReceipts.insert mintId r } ∧
        d.totalSupplyUnits = tx.initialSupplyUnits ∧
        r.tokenId = tx.tokenId ∧ r.amountUnits = tx.initialSupplyUnits ∧
        (Transaction.launchToken tx).mint = some r.fields ∧
        mintId = deterministicTokenMintId r.tokenId r.toAccountId r.amountUnits r.reason := by
  simp only [launchToken, get_bind, ofExcept_bind_ok, launchTokenChecks, Check.bind_ok,
    Check.rejectIf_ok, ensureExpectedId_ok, contains_eq_false, modify_bind] at h
  obtain ⟨_, ⟨_, hid, _, -, _, -, _, hnew, -⟩, h⟩ := h
  obtain ⟨_, s₁, hc, h⟩ := bind_ok.mp h
  rw [modify_ok] at h
  exact ⟨⟨_, hid⟩, hnew, _, _, _, s₁, hc, h, rfl, rfl, rfl, rfl, rfl⟩

theorem mint_accepted {tx : MintLocalTestToken} (h : mintLocalTestToken tx s = (.ok w, s')) :
    s.tokenMintReceipts[tx.mintId]? = none ∧
      ∃ (d d' : LocalTestToken) (r : LocalTestTokenMintReceipt) (s₁ : ChainState),
        s.tokenDefinitions[tx.tokenId]? = some d ∧
        creditAssetUnits tx.toAccountId tx.tokenId tx.amountUnits s = (.ok (), s₁) ∧
        s' = { s₁ with
          tokenDefinitions := s₁.tokenDefinitions.insert tx.tokenId d'
          tokenMintReceipts := s₁.tokenMintReceipts.insert tx.mintId r } ∧
        d'.totalSupplyUnits.toNat = d.totalSupplyUnits.toNat + tx.amountUnits.toNat ∧
        r.tokenId = tx.tokenId ∧ r.amountUnits = tx.amountUnits ∧
        (Transaction.mintLocalTestToken tx).mint = some r.fields ∧
        tx.mintId = deterministicTokenMintId r.tokenId r.toAccountId r.amountUnits r.reason := by
  simp only [mintLocalTestToken, get_bind, ofExcept_bind_ok, ensureExpectedId_ok,
    rejectIf_bind_ok, okOr_bind_ok, contains_eq_false] at h
  obtain ⟨_, hid, -, -, hnew, d, hd, t, ht, h⟩ := h
  obtain ⟨_, s₁, hc, h⟩ := bind_ok.mp h
  simp only [modify_bind, modify_ok] at h
  exact ⟨hnew, d, _, _, s₁, hd, hc, h, checkedAdd_eq_some.mp ht, rfl, rfl, rfl, hid⟩

theorem createPool_accepted {tx : CreatePool} (h : createPool tx s = (.ok w, s')) :
    s.dexPools[tx.poolId]? = none ∧ tx.baseAssetId ≠ tx.quoteAssetId ∧ ∃ p : DexPool,
      s' = { s with dexPools := s.dexPools.insert tx.poolId p } ∧
      p.poolId = tx.poolId ∧ p.baseAssetId = tx.baseAssetId ∧ p.quoteAssetId = tx.quoteAssetId ∧
      p.reserveBaseUnits = 0 ∧ p.reserveQuoteUnits = 0 ∧ p.totalLpUnits = 0 := by
  simp only [createPool, get_bind, ofExcept_bind_ok, ensurePoolAssetsAreValid, Check.bind_ok,
    Check.rejectIf_ok, rejectIf_bind_ok, contains_eq_false, modify_ok] at h
  obtain ⟨_, -, _, ⟨_, hne, -⟩, -, hnew, h⟩ := h
  exact ⟨hnew, hne, _, h, rfl, rfl, rfl, rfl, rfl, rfl⟩

/-- The pool after an operation is the same market: its name and its two assets have not changed. -/
structure SameMarket (p p' : DexPool) : Prop where
  poolId : p'.poolId = p.poolId
  baseAssetId : p'.baseAssetId = p.baseAssetId
  quoteAssetId : p'.quoteAssetId = p.quoteAssetId

/-- A deposit: the reserves, the total and the position of the provider grow. -/
structure Deposited (tx : AddLiquidity) (p p' : DexPool) (lp : UInt64) (q q' : LpPosition) :
    Prop where
  market : SameMarket p p'
  reserveBase : p'.reserveBaseUnits.toNat = p.reserveBaseUnits.toNat + tx.baseAmountUnits.toNat
  reserveQuote : p'.reserveQuoteUnits.toNat = p.reserveQuoteUnits.toNat + tx.quoteAmountUnits.toNat
  total : p'.totalLpUnits.toNat = p.totalLpUnits.toNat + lp.toNat
  poolId : q'.poolId = q.poolId
  owner : q'.ownerAccountId = q.ownerAccountId
  units : q'.lpUnits.toNat = q.lpUnits.toNat + lp.toNat

/-- An accepted deposit makes two debits and writes the pool and the position. -/
theorem add_accepted {tx : AddLiquidity} (h : addLiquidity tx s = (.ok w, s')) :
    ∃ (p p' : DexPool) (lp : UInt64) (q' : LpPosition) (r : LiquidityReceipt)
      (s₁ s₂ : ChainState), AddFacts s tx p lp ∧
      debitAssetUnits tx.providerAccountId p.baseAssetId tx.baseAmountUnits s = (.ok (), s₁) ∧
      debitAssetUnits tx.providerAccountId p.quoteAssetId tx.quoteAmountUnits s₁ = (.ok (), s₂) ∧
      s' = { s₂ with
        dexPools := s₂.dexPools.insert tx.poolId p'
        lpPositions := s₂.lpPositions.insert
          (deterministicLpPositionId tx.poolId tx.providerAccountId) q'
        liquidityReceipts := s₂.liquidityReceipts.insert tx.liquidityId r } ∧
      Deposited tx p p' lp (lpPositionOrFresh s tx.poolId tx.providerAccountId) q' := by
  simp only [addLiquidity, get_bind, ofExcept_bind_ok] at h
  obtain ⟨⟨p, lp⟩, hc, h⟩ := h
  obtain ⟨_, s₁, h₁, h⟩ := bind_ok.mp h
  obtain ⟨_, s₂, h₂, h⟩ := bind_ok.mp h
  simp only [ofExcept_bind_ok, checkedPoolAdd_ok, modify_bind, okOr_bind_ok, checkedAdd_eq_some,
    modify_ok, insert_insert, insert_insertIfNew] at h
  obtain ⟨rb, hrb, rq, hrq, tl, htl, u, hu, bd, -, qd, -, h⟩ := h
  exact ⟨p, _, lp, _, _, s₁, s₂, addFacts hc, h₁, h₂, h,
    ⟨rfl, rfl, rfl⟩, hrb, hrq, htl, rfl, rfl, hu⟩

/-- A withdrawal: the reserves, the total and the position of the provider shrink. -/
structure Withdrawn (tx : RemoveLiquidity) (quote : RemovalQuote) (p' : DexPool)
    (q' : LpPosition) : Prop where
  market : SameMarket quote.pool p'
  reserveBase : quote.pool.reserveBaseUnits.toNat =
    p'.reserveBaseUnits.toNat + quote.baseAmountUnits.toNat
  reserveQuote : quote.pool.reserveQuoteUnits.toNat =
    p'.reserveQuoteUnits.toNat + quote.quoteAmountUnits.toNat
  total : quote.pool.totalLpUnits.toNat = p'.totalLpUnits.toNat + tx.lpUnits.toNat
  poolId : q'.poolId = quote.position.poolId
  owner : q'.ownerAccountId = quote.position.ownerAccountId
  units : quote.position.lpUnits.toNat = q'.lpUnits.toNat + tx.lpUnits.toNat

/-- An accepted withdrawal writes the position and the pool and makes two credits. -/
theorem remove_accepted {tx : RemoveLiquidity} (h : removeLiquidity tx s = (.ok w, s')) :
    ∃ (quote : RemovalQuote) (p' : DexPool) (q' : LpPosition) (r : LiquidityReceipt)
      (s₁ s₂ : ChainState), RemoveFacts s tx quote ∧
      creditAssetUnits tx.providerAccountId quote.pool.baseAssetId quote.baseAmountUnits
        { s with
          lpPositions := s.lpPositions.insert
            (deterministicLpPositionId tx.poolId tx.providerAccountId) q'
          dexPools := s.dexPools.insert tx.poolId p' } = (.ok (), s₁) ∧
      creditAssetUnits tx.providerAccountId quote.pool.quoteAssetId quote.quoteAmountUnits s₁ =
        (.ok (), s₂) ∧
      s' = { s₂ with liquidityReceipts := s₂.liquidityReceipts.insert tx.liquidityId r } ∧
      Withdrawn tx quote p' q' := by
  simp only [removeLiquidity, get_bind, ofExcept_bind_ok, modify_bind, okOr_bind_ok,
    checkedAdd_eq_some, checkedSub_eq_some, insert_insert] at h
  obtain ⟨quote, hc, bw, -, qw, -, rb, hrb, rq, hrq, tl, htl, h⟩ := h
  obtain ⟨_, s₁, h₁, h⟩ := bind_ok.mp h
  obtain ⟨_, s₂, h₂, h⟩ := bind_ok.mp h
  rw [modify_ok] at h
  have hf := removeFacts hc
  exact ⟨quote, _, _, _, s₁, s₂, hf, h₁, h₂, h,
    ⟨rfl, rfl, rfl⟩, hrb, hrq, htl, rfl, rfl, toNat_sub_add hf.lp_le⟩

/-- A swap: the reserves are those of the quote, the total is kept. -/
structure Swapped (quote : SwapQuote) (p' : DexPool) : Prop where
  market : SameMarket quote.pool p'
  reserveBase : p'.reserveBaseUnits = quote.reserveBaseAfter
  reserveQuote : p'.reserveQuoteUnits = quote.reserveQuoteAfter
  total : p'.totalLpUnits = quote.pool.totalLpUnits

/-- An accepted swap makes a debit and a credit and writes the pool. -/
theorem swap_accepted {tx : SwapExactIn} (h : swapExactIn tx s = (.ok w, s')) :
    ∃ (quote : SwapQuote) (p' : DexPool) (r : SwapReceipt) (s₁ s₂ : ChainState),
      SwapFacts s tx quote ∧
      debitAssetUnits tx.traderAccountId tx.assetInId tx.amountInUnits s = (.ok (), s₁) ∧
      creditAssetUnits tx.traderAccountId quote.assetOutId quote.amountOutUnits s₁ =
        (.ok (), s₂) ∧
      s' = { s₂ with
        dexPools := s₂.dexPools.insert tx.poolId p'
        swapReceipts := s₂.swapReceipts.insert tx.swapId r } ∧
      Swapped quote p' := by
  simp only [swapExactIn, get_bind, ofExcept_bind_ok] at h
  obtain ⟨quote, hc, h⟩ := h
  obtain ⟨_, s₁, h₁, h⟩ := bind_ok.mp h
  obtain ⟨_, s₂, h₂, h⟩ := bind_ok.mp h
  simp only [modify_bind, modify_ok] at h
  exact ⟨quote, _, _, s₁, s₂, swapFacts hc, h₁, h₂, h, ⟨rfl, rfl, rfl⟩, rfl, rfl, rfl⟩

/-- The writes of an accepted bridge credit after its units have been credited. -/
theorem bridgeCredit_accepted (h : creditBridgeFromBaseEvent tx s = (.ok w, s')) :
    ∃ (owner : String) (c : BridgeCreditReceipt) (e : BridgeReplayRecord) (s₁ s₂ : ChainState),
      creditBridgeChecks s tx = .ok owner ∧
      creditAssetUnits tx.accountId tx.assetId tx.amountUnits s = (.ok (), s₁) ∧
      markIfLive tx s₁ = (.ok (), s₂) ∧
      s' = { s₂ with
        bridgeCredits := s₂.bridgeCredits.insert tx.bridgeCreditId (bridgeCredit s₂ tx owner)
        bridgeCreditReceipts := s₂.bridgeCreditReceipts.insert tx.receiptId c
        bridgeReplayIndex := s₂.bridgeReplayIndex.insert tx.replayKey e
        bridgeEventReceiptIndex :=
          s₂.bridgeEventReceiptIndex.insert tx.eventRefKey tx.receiptId } := by
  simp only [creditBridgeFromBaseEvent, get_bind, ofExcept_bind_ok] at h
  obtain ⟨owner, hc, h⟩ := h
  obtain ⟨_, s₁, h₁, h⟩ := bind_ok.mp h
  obtain ⟨_, s₂, h₂, h⟩ := bind_ok.mp h
  simp only [modify_bind, modify_ok] at h
  exact ⟨owner, _, _, s₁, s₂, hc, h₁, h₂, h⟩

end FlowMemory
