import FlowMemory.Lib.Word64
import FlowMemory.LocalRuntime.Checks

/-! # Balances and pool arithmetic

An account holds units of the local asset in `localTestUnitBalances`, under its own name, and
units of a token in `tokenBalances`, under an identifier made of the token and the account.
`debitAssetUnits` and `creditAssetUnits` choose the map from the asset.

The pool formulas divide with rounding towards zero at twice the width.  Each of them is
described by the exact quotient between natural numbers that it returns
(`proportionalAmount_ok`, `constantProductOut_ok`, `liquidityUnitsForAdd_ok`). -/

namespace FlowMemory

open LocalRuntimeError Txn

/-- A routine that changes the chain state in place. -/
abbrev Action (α : Type) := Txn ChainState LocalRuntimeError α

/-! ### Pool arithmetic -/

def checkedPoolAdd (poolId : String) (left right : UInt64) : Checked UInt64 :=
  Check.okOr (checkedAdd left right) (poolReserveOverflow poolId)

def liquidityUnitsForAdd (pool : DexPool) (baseAmountUnits quoteAmountUnits : UInt64) :
    Checked UInt64 :=
  if pool.totalLpUnits = 0 then
    return (if baseAmountUnits ≤ quoteAmountUnits then baseAmountUnits else quoteAmountUnits)
  else do
    Check.rejectIf (pool.reserveBaseUnits = 0 ∨ pool.reserveQuoteUnits = 0)
      (poolReserveInsufficient pool.poolId)
    let baseProduct ← Check.okOr (checkedMul128 baseAmountUnits.toNat pool.totalLpUnits.toNat)
      (poolReserveOverflow pool.poolId)
    let byBase := baseProduct / pool.reserveBaseUnits.toNat
    let quoteProduct ← Check.okOr (checkedMul128 quoteAmountUnits.toNat pool.totalLpUnits.toNat)
      (poolReserveOverflow pool.poolId)
    let byQuote := quoteProduct / pool.reserveQuoteUnits.toNat
    Check.okOr (toU64 (min byBase byQuote)) (poolReserveOverflow pool.poolId)

def proportionalAmount (reserveUnits lpUnits totalLpUnits : UInt64) (poolId : String) :
    Checked UInt64 := do
  Check.rejectIf (totalLpUnits = 0) (poolReserveInsufficient poolId)
  let product ← Check.okOr (checkedMul128 reserveUnits.toNat lpUnits.toNat)
    (poolReserveOverflow poolId)
  Check.okOr (toU64 (product / totalLpUnits.toNat)) (poolReserveOverflow poolId)

def constantProductOut (reserveInUnits reserveOutUnits amountInUnits : UInt64) (poolId : String) :
    Checked UInt64 := do
  Check.rejectIf (reserveInUnits = 0 ∨ reserveOutUnits = 0) (poolReserveInsufficient poolId)
  let numerator ← Check.okOr (checkedMul128 reserveOutUnits.toNat amountInUnits.toNat)
    (poolReserveOverflow poolId)
  let denominator ← Check.okOr (checkedAdd128 reserveInUnits.toNat amountInUnits.toNat)
    (poolReserveOverflow poolId)
  Check.okOr (toU64 (numerator / denominator)) (poolReserveOverflow poolId)

def quoteOutForBaseIn (pool : DexPool) (amountInUnits : UInt64) : Checked UInt64 :=
  constantProductOut pool.reserveBaseUnits pool.reserveQuoteUnits amountInUnits pool.poolId

def baseOutForQuoteIn (pool : DexPool) (amountInUnits : UInt64) : Checked UInt64 :=
  constantProductOut pool.reserveQuoteUnits pool.reserveBaseUnits amountInUnits pool.poolId

variable {poolId : String}

theorem checkedPoolAdd_ok {left right sum : UInt64} :
    checkedPoolAdd poolId left right = .ok sum ↔ sum.toNat = left.toNat + right.toNat := by
  rw [checkedPoolAdd, Check.okOr_ok, checkedAdd_eq_some]

theorem proportionalAmount_ok {reserve lp totalLp amount : UInt64} :
    proportionalAmount reserve lp totalLp poolId = .ok amount ↔
      totalLp ≠ 0 ∧ amount.toNat = reserve.toNat * lp.toNat / totalLp.toNat := by
  simp only [proportionalAmount, Check.bind_ok, Check.rejectIf_ok, Check.okOr_ok,
    checkedMul128_words, toU64_eq_some, Option.some.injEq, exists_const, exists_eq_left']

theorem constantProductOut_ok {reserveIn reserveOut amountIn amountOut : UInt64} :
    constantProductOut reserveIn reserveOut amountIn poolId = .ok amountOut ↔
      reserveIn ≠ 0 ∧ reserveOut ≠ 0 ∧
        amountOut.toNat = reserveOut.toNat * amountIn.toNat / (reserveIn.toNat + amountIn.toNat) := by
  simp only [constantProductOut, Check.bind_ok, Check.rejectIf_ok, Check.okOr_ok,
    checkedMul128_words, checkedAdd128_words, toU64_eq_some, Option.some.injEq, exists_const,
    exists_eq_left', not_or, and_assoc, ne_eq]

theorem liquidityUnitsForAdd_ok {pool : DexPool} {base quote lp : UInt64} :
    liquidityUnitsForAdd pool base quote = .ok lp ↔
      (pool.totalLpUnits = 0 ∧ lp.toNat = min base.toNat quote.toNat) ∨
      (pool.totalLpUnits ≠ 0 ∧ pool.reserveBaseUnits ≠ 0 ∧ pool.reserveQuoteUnits ≠ 0 ∧
        lp.toNat = min (base.toNat * pool.totalLpUnits.toNat / pool.reserveBaseUnits.toNat)
          (quote.toNat * pool.totalLpUnits.toNat / pool.reserveQuoteUnits.toNat)) := by
  unfold liquidityUnitsForAdd
  split_ifs with hT hle
  · have hmin : min base.toNat quote.toNat = base.toNat :=
      min_eq_left (UInt64.le_iff_toNat_le.mp hle)
    simp [hT, hmin, Check.pure_ok, ← UInt64.toNat_inj]
  · have hmin : min base.toNat quote.toNat = quote.toNat := by
      rw [UInt64.le_iff_toNat_le] at hle
      omega
    simp [hT, hmin, Check.pure_ok, ← UInt64.toNat_inj]
  · simp only [Check.bind_ok, Check.rejectIf_ok, Check.okOr_ok, checkedMul128_words,
      toU64_eq_some, Option.some.injEq, exists_const, exists_eq_left', not_or, and_assoc, hT,
      false_and, false_or, ne_eq, not_false_eq_true, true_and]

variable [K : Keccak]

/-! ### Assets -/

def ensureAssetExists (s : ChainState) (assetId : String) : Checked Unit :=
  Check.rejectIf (¬ (assetId = localTestUnitAssetId ∨ s.tokenDefinitions.contains assetId = true))
    (tokenMissing assetId)

def ensurePoolAssetsAreValid (s : ChainState) (baseAssetId quoteAssetId : String) :
    Checked Unit := do
  Check.rejectIf (baseAssetId = quoteAssetId) (poolInvalidAsset baseAssetId)
  ensureAssetExists s baseAssetId
  ensureAssetExists s quoteAssetId

def assetUnits (s : ChainState) (accountId assetId : String) : Checked UInt64 :=
  if assetId = localTestUnitAssetId then do
    let balance ← Check.okOr s.localTestUnitBalances[accountId]?
      (localTestUnitBalanceMissing accountId)
    return balance.units
  else do
    ensureAssetExists s assetId
    return (s.tokenBalances[deterministicTokenBalanceId assetId accountId]?.elim 0 (·.units))

def ensureAssetUnitsAvailable (s : ChainState) (accountId assetId : String)
    (amountUnits : UInt64) : Checked Unit := do
  let available ← assetUnits s accountId assetId
  Check.rejectIf (available < amountUnits)
    (if assetId = localTestUnitAssetId then localTestUnitBalanceInsufficient accountId
      else tokenBalanceInsufficient (deterministicTokenBalanceId assetId accountId))

def debitAssetUnits (accountId assetId : String) (amountUnits : UInt64) : Action Unit := do
  let s ← get
  ofExcept (ensureAssetUnitsAvailable s accountId assetId amountUnits)
  if assetId = localTestUnitAssetId then
    let balance ← okOr s.localTestUnitBalances[accountId]? (localTestUnitBalanceMissing accountId)
    modify fun s => { s with
      localTestUnitBalances := s.localTestUnitBalances.insert accountId { balance with
        units := balance.units - amountUnits, updatedAtBlock := s.nextBlockNumber } }
  else
    let balanceId := deterministicTokenBalanceId assetId accountId
    let balance ← okOr s.tokenBalances[balanceId]? (tokenBalanceInsufficient balanceId)
    modify fun s => { s with
      tokenBalances := s.tokenBalances.insert balanceId { balance with
        units := balance.units - amountUnits, updatedAtBlock := s.nextBlockNumber } }

/-- The balance that a first credit of a token starts from. -/
def freshTokenBalance (s : ChainState) (accountId assetId : String) : LocalTestTokenBalance where
  tokenBalanceId := deterministicTokenBalanceId assetId accountId
  tokenId := assetId
  accountId
  units := 0
  updatedAtBlock := s.nextBlockNumber
  noValue := true

/-- The token balance of an account, fresh if there is none. -/
def tokenBalanceOrFresh (s : ChainState) (accountId assetId : String) : LocalTestTokenBalance :=
  s.tokenBalances[deterministicTokenBalanceId assetId accountId]?.getD
    (freshTokenBalance s accountId assetId)

def creditAssetUnits (accountId assetId : String) (amountUnits : UInt64) : Action Unit := do
  rejectIf (amountUnits = 0) (tokenAmountMustBePositive assetId)
  let s ← get
  if assetId = localTestUnitAssetId then
    let balance ← okOr s.localTestUnitBalances[accountId]? (localTestUnitBalanceMissing accountId)
    let units ← okOr (checkedAdd balance.units amountUnits) (localTestUnitBalanceOverflow accountId)
    modify fun s => { s with
      localTestUnitBalances := s.localTestUnitBalances.insert accountId { balance with
        units, updatedAtBlock := s.nextBlockNumber } }
  else
    ofExcept (ensureAssetExists s assetId)
    let balanceId := deterministicTokenBalanceId assetId accountId
    let balance := tokenBalanceOrFresh s accountId assetId
    -- a fresh balance is stored before the addition is checked
    modify fun s => { s with
      tokenBalances := s.tokenBalances.insertIfNew balanceId (freshTokenBalance s accountId assetId) }
    let units ← okOr (checkedAdd balance.units amountUnits)
      (tokenBalanceOverflow balance.tokenBalanceId)
    modify fun s => { s with
      tokenBalances := s.tokenBalances.insert balanceId { balance with
        units, updatedAtBlock := s.nextBlockNumber } }

def markAssetBalanceValueBearing (accountId assetId : String) : Action Unit :=
  if assetId = localTestUnitAssetId then
    modify fun s => { s with
      localTestUnitBalances :=
        s.localTestUnitBalances.update accountId fun balance => { balance with noValue := false } }
  else
    modify fun s => { s with
      tokenBalances := s.tokenBalances.update (deterministicTokenBalanceId assetId accountId)
        fun balance => { balance with noValue := false } }

end FlowMemory
