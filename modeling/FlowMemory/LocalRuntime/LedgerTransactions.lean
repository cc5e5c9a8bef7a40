import FlowMemory.LocalRuntime.Ledger

/-! # Transactions on balances, tokens and pools

One definition for each transaction of the ledger, in the order of the source: first the tests,
then the writes.  Where the source tests again after its first write, the tests before it are
collected in a pure function (`faucetChecks`, `launchTokenChecks`, `addLiquidityChecks`,
`removeLiquidityChecks`, `swapExactInChecks`), and the later tests stand between the writes as
they do in the source. -/

namespace FlowMemory

open LocalRuntimeError Txn Check

variable [Keccak]

/-! ### Local units -/

def createLocalTestUnitBalance (tx : CreateLocalTestUnitBalance) : Action Unit := do
  let s ← get
  rejectIf (s.localTestUnitBalances.contains tx.accountId)
    (localTestUnitBalanceAlreadyExists tx.accountId)
  modify fun s => { s with
    localTestUnitBalances := s.localTestUnitBalances.insert tx.accountId
      { accountId := tx.accountId, owner := tx.owner, units := 0, totalFaucetUnits := 0,
        lastFaucetRecordId := none, updatedAtBlock := s.nextBlockNumber, noValue := true } }

/-- The balance of the account and its units after the faucet has paid. -/
def faucetChecks (s : ChainState) (tx : FaucetLocalTestUnits) :
    Checked (LocalTestUnitBalance × UInt64) := do
  rejectIf (tx.amountUnits = 0) (faucetAmountMustBePositive tx.faucetRecordId)
  rejectIf (s.faucetRecords.contains tx.faucetRecordId)
    (faucetRecordAlreadyExists tx.faucetRecordId)
  let balance ← okOr s.localTestUnitBalances[tx.accountId]?
    (localTestUnitBalanceMissing tx.accountId)
  let units ← okOr (checkedAdd balance.units tx.amountUnits)
    (localTestUnitBalanceOverflow tx.accountId)
  return (balance, units)

def faucetLocalTestUnits (tx : FaucetLocalTestUnits) : Action Unit := do
  let s ← get
  let (balance, units) ← ofExcept (faucetChecks s tx)
  modify fun s => { s with
    localTestUnitBalances := s.localTestUnitBalances.insert tx.accountId
      { balance with units } }
  let totalFaucetUnits ← okOr (checkedAdd balance.totalFaucetUnits tx.amountUnits)
    (localTestUnitBalanceOverflow tx.accountId)
  modify fun s => { s with
    localTestUnitBalances := s.localTestUnitBalances.insert tx.accountId
      { balance with
        units, totalFaucetUnits,
        lastFaucetRecordId := some tx.faucetRecordId, updatedAtBlock := s.nextBlockNumber } }
  modify fun s => { s with
    faucetRecords := s.faucetRecords.insert tx.faucetRecordId
      { faucetRecordId := tx.faucetRecordId, accountId := tx.accountId,
        recipient := tx.recipient, amountUnits := tx.amountUnits, reason := tx.reason,
        creditedAtBlock := s.nextBlockNumber, noValue := true } }

/-- The record of a transfer from a balance with the mark `noValue`. -/
def balanceTransfer (s : ChainState) (tx : TransferLocalTestUnits) (noValue : Bool) :
    BalanceTransfer where
  transferId := tx.transferId
  fromAccountId := tx.fromAccountId
  toAccountId := tx.toAccountId
  amountUnits := tx.amountUnits
  memo := tx.memo
  transferredAtBlock := s.nextBlockNumber
  noValue

def transferLocalTestUnits (tx : TransferLocalTestUnits) : Action Unit := do
  let s ← get
  rejectIf (s.balanceTransfers.contains tx.transferId) (balanceTransferAlreadyExists tx.transferId)
  rejectIf (tx.amountUnits = 0) (faucetAmountMustBePositive tx.transferId)
  let fromBalance ← okOr s.localTestUnitBalances[tx.fromAccountId]?
    (localTestUnitBalanceMissing tx.fromAccountId)
  rejectIf (fromBalance.units < tx.amountUnits) (localTestUnitBalanceInsufficient tx.fromAccountId)
  if tx.fromAccountId = tx.toAccountId then
    modify fun s => { s with
      localTestUnitBalances := s.localTestUnitBalances.insert tx.fromAccountId
        { fromBalance with updatedAtBlock := s.nextBlockNumber } }
    modify fun s => { s with
      balanceTransfers := s.balanceTransfers.insert tx.transferId
        (balanceTransfer s tx fromBalance.noValue) }
  else
    let toBalance ← okOr s.localTestUnitBalances[tx.toAccountId]?
      (localTestUnitBalanceMissing tx.toAccountId)
    let creditedToUnits ← okOr (checkedAdd toBalance.units tx.amountUnits)
      (localTestUnitBalanceOverflow tx.toAccountId)
    modify fun s => { s with
      localTestUnitBalances := s.localTestUnitBalances.insert tx.fromAccountId
        { fromBalance with
          units := fromBalance.units - tx.amountUnits, updatedAtBlock := s.nextBlockNumber } }
    modify fun s => { s with
      localTestUnitBalances := s.localTestUnitBalances.insert tx.toAccountId
        { toBalance with
          units := creditedToUnits, noValue := toBalance.noValue && fromBalance.noValue,
          updatedAtBlock := s.nextBlockNumber } }
    modify fun s => { s with
      balanceTransfers := s.balanceTransfers.insert tx.transferId
        (balanceTransfer s tx fromBalance.noValue) }

/-! ### Tokens -/

def launchTokenChecks (s : ChainState) (tx : LaunchToken) : Checked Unit := do
  let normalizedSymbol := normalizeTokenSymbol tx.symbol
  ensureExpectedId "token" tx.tokenId (deterministicTokenId normalizedSymbol)
  rejectIf (tx.initialSupplyUnits = 0) (tokenAmountMustBePositive tx.tokenId)
  rejectIf (¬ s.localTestUnitBalances.contains tx.initialOwnerAccountId)
    (localTestUnitBalanceMissing tx.initialOwnerAccountId)
  rejectIf (s.tokenDefinitions.contains tx.tokenId) (tokenAlreadyExists tx.tokenId)
  rejectIf ((OrderedMap.vals s.tokenDefinitions).any fun token =>
    token.symbol = normalizedSymbol) (tokenSymbolAlreadyExists normalizedSymbol)

def launchToken (tx : LaunchToken) : Action Unit := do
  let s ← get
  ofExcept (launchTokenChecks s tx)
  modify fun s => { s with
    tokenDefinitions := s.tokenDefinitions.insert tx.tokenId
      { tokenId := tx.tokenId, symbol := normalizeTokenSymbol tx.symbol, name := tx.name,
        decimals := tx.decimals, launcherAccountId := tx.initialOwnerAccountId,
        totalSupplyUnits := tx.initialSupplyUnits, launchedAtBlock := s.nextBlockNumber,
        noValue := true } }
  creditAssetUnits tx.initialOwnerAccountId tx.tokenId tx.initialSupplyUnits
  let mintId := deterministicTokenMintId tx.tokenId tx.initialOwnerAccountId
    tx.initialSupplyUnits "initial-supply"
  modify fun s => { s with
    tokenMintReceipts := s.tokenMintReceipts.insert mintId
      { mintId, tokenId := tx.tokenId, toAccountId := tx.initialOwnerAccountId,
        amountUnits := tx.initialSupplyUnits, reason := "initial-supply",
        mintedAtBlock := s.nextBlockNumber, noValue := true } }

def mintLocalTestToken (tx : MintLocalTestToken) : Action Unit := do
  let s ← get
  ofExcept (ensureExpectedId "token mint" tx.mintId
    (deterministicTokenMintId tx.tokenId tx.toAccountId tx.amountUnits tx.reason))
  rejectIf (tx.amountUnits = 0) (tokenAmountMustBePositive tx.mintId)
  rejectIf (¬ s.localTestUnitBalances.contains tx.toAccountId)
    (localTestUnitBalanceMissing tx.toAccountId)
  rejectIf (s.tokenMintReceipts.contains tx.mintId) (tokenMintAlreadyExists tx.mintId)
  let token ← okOr s.tokenDefinitions[tx.tokenId]? (tokenMissing tx.tokenId)
  let currentSupply ← okOr (checkedAdd token.totalSupplyUnits tx.amountUnits)
    (tokenBalanceOverflow tx.tokenId)
  creditAssetUnits tx.toAccountId tx.tokenId tx.amountUnits
  modify fun s => { s with
    tokenDefinitions := s.tokenDefinitions.insert tx.tokenId
      { token with totalSupplyUnits := currentSupply } }
  modify fun s => { s with
    tokenMintReceipts := s.tokenMintReceipts.insert tx.mintId
      { mintId := tx.mintId, tokenId := tx.tokenId, toAccountId := tx.toAccountId,
        amountUnits := tx.amountUnits, reason := tx.reason,
        mintedAtBlock := s.nextBlockNumber, noValue := true } }

/-! ### Pools -/

def createPool (tx : CreatePool) : Action Unit := do
  let s ← get
  ofExcept (ensureExpectedId "pool" tx.poolId (deterministicPoolId tx.baseAssetId tx.quoteAssetId))
  ofExcept (ensurePoolAssetsAreValid s tx.baseAssetId tx.quoteAssetId)
  rejectIf (¬ s.localTestUnitBalances.contains tx.createdByAccountId)
    (localTestUnitBalanceMissing tx.createdByAccountId)
  rejectIf (s.dexPools.contains tx.poolId) (poolAlreadyExists tx.poolId)
  modify fun s => { s with
    dexPools := s.dexPools.insert tx.poolId
      { poolId := tx.poolId, baseAssetId := tx.baseAssetId, quoteAssetId := tx.quoteAssetId,
        createdByAccountId := tx.createdByAccountId, reserveBaseUnits := 0,
        reserveQuoteUnits := 0, totalLpUnits := 0, createdAtBlock := s.nextBlockNumber,
        updatedAtBlock := s.nextBlockNumber, lastLiquidityReceiptId := none,
        lastSwapReceiptId := none, noValue := true } }

/-- The pool and the liquidity units that a deposit is worth. -/
def addLiquidityChecks (s : ChainState) (tx : AddLiquidity) : Checked (DexPool × UInt64) := do
  ensureExpectedId "add liquidity" tx.liquidityId
    (deterministicLiquidityId tx.poolId tx.providerAccountId "add"
      (liquidityNonce tx.baseAmountUnits tx.quoteAmountUnits tx.minLpUnits))
  rejectIf (s.liquidityReceipts.contains tx.liquidityId)
    (liquidityReceiptAlreadyExists tx.liquidityId)
  rejectIf (tx.baseAmountUnits = 0 ∨ tx.quoteAmountUnits = 0)
    (tokenAmountMustBePositive tx.liquidityId)
  let pool ← okOr s.dexPools[tx.poolId]? (poolMissing tx.poolId)
  let lpUnits ← liquidityUnitsForAdd pool tx.baseAmountUnits tx.quoteAmountUnits
  rejectIf (lpUnits = 0 ∨ lpUnits < tx.minLpUnits) (liquidityBelowMinimum tx.liquidityId)
  ensureAssetUnitsAvailable s tx.providerAccountId pool.baseAssetId tx.baseAmountUnits
  ensureAssetUnitsAvailable s tx.providerAccountId pool.quoteAssetId tx.quoteAmountUnits
  return (pool, lpUnits)

/-- The position that a first deposit starts from. -/
def freshLpPosition (s : ChainState) (poolId ownerAccountId : String) : LpPosition where
  lpPositionId := deterministicLpPositionId poolId ownerAccountId
  poolId
  ownerAccountId
  lpUnits := 0
  baseUnitsDeposited := 0
  quoteUnitsDeposited := 0
  baseUnitsWithdrawn := 0
  quoteUnitsWithdrawn := 0
  updatedAtBlock := s.nextBlockNumber
  noValue := true

/-- The position of an account in a pool, fresh if there is none. -/
def lpPositionOrFresh (s : ChainState) (poolId ownerAccountId : String) : LpPosition :=
  s.lpPositions[deterministicLpPositionId poolId ownerAccountId]?.getD
    (freshLpPosition s poolId ownerAccountId)

def addLiquidity (tx : AddLiquidity) : Action Unit := do
  let s ← get
  let (pool, lpUnits) ← ofExcept (addLiquidityChecks s tx)
  debitAssetUnits tx.providerAccountId pool.baseAssetId tx.baseAmountUnits
  debitAssetUnits tx.providerAccountId pool.quoteAssetId tx.quoteAmountUnits
  let reserveBaseAfter ← ofExcept
    (checkedPoolAdd tx.poolId pool.reserveBaseUnits tx.baseAmountUnits)
  let reserveQuoteAfter ← ofExcept
    (checkedPoolAdd tx.poolId pool.reserveQuoteUnits tx.quoteAmountUnits)
  let totalLpAfter ← ofExcept (checkedPoolAdd tx.poolId pool.totalLpUnits lpUnits)
  modify fun s => { s with
    dexPools := s.dexPools.insert tx.poolId
      { pool with
        reserveBaseUnits := reserveBaseAfter, reserveQuoteUnits := reserveQuoteAfter,
        totalLpUnits := totalLpAfter, updatedAtBlock := s.nextBlockNumber,
        lastLiquidityReceiptId := some tx.liquidityId } }
  let lpPositionId := deterministicLpPositionId tx.poolId tx.providerAccountId
  let position := lpPositionOrFresh s tx.poolId tx.providerAccountId
  modify fun s => { s with
    lpPositions := s.lpPositions.insertIfNew lpPositionId
      (freshLpPosition s tx.poolId tx.providerAccountId) }
  let units ← okOr (checkedAdd position.lpUnits lpUnits) (poolReserveOverflow tx.poolId)
  modify fun s => { s with
    lpPositions := s.lpPositions.insert lpPositionId { position with lpUnits := units } }
  let baseDeposited ← okOr (checkedAdd position.baseUnitsDeposited tx.baseAmountUnits)
    (poolReserveOverflow tx.poolId)
  modify fun s => { s with
    lpPositions := s.lpPositions.insert lpPositionId
      { position with lpUnits := units, baseUnitsDeposited := baseDeposited } }
  let quoteDeposited ← okOr (checkedAdd position.quoteUnitsDeposited tx.quoteAmountUnits)
    (poolReserveOverflow tx.poolId)
  modify fun s => { s with
    lpPositions := s.lpPositions.insert lpPositionId
      { position with
        lpUnits := units, baseUnitsDeposited := baseDeposited,
        quoteUnitsDeposited := quoteDeposited, updatedAtBlock := s.nextBlockNumber } }
  modify fun s => { s with
    liquidityReceipts := s.liquidityReceipts.insert tx.liquidityId
      { liquidityId := tx.liquidityId, poolId := tx.poolId,
        providerAccountId := tx.providerAccountId, action := "add",
        baseAmountUnits := tx.baseAmountUnits, quoteAmountUnits := tx.quoteAmountUnits,
        lpUnits, reserveBaseBefore := pool.reserveBaseUnits,
        reserveQuoteBefore := pool.reserveQuoteUnits, reserveBaseAfter,
        reserveQuoteAfter, executedAtBlock := s.nextBlockNumber,
        noValue := true } }

/-- What a withdrawal takes out: the pool and the position before it, and the amounts. -/
structure RemovalQuote where
  pool : DexPool
  position : LpPosition
  (baseAmountUnits quoteAmountUnits : UInt64)

def removeLiquidityChecks (s : ChainState) (tx : RemoveLiquidity) : Checked RemovalQuote := do
  ensureExpectedId "remove liquidity" tx.liquidityId
    (deterministicLiquidityId tx.poolId tx.providerAccountId "remove"
      (liquidityNonce tx.lpUnits tx.minBaseAmountUnits tx.minQuoteAmountUnits))
  rejectIf (s.liquidityReceipts.contains tx.liquidityId)
    (liquidityReceiptAlreadyExists tx.liquidityId)
  rejectIf (tx.lpUnits = 0) (tokenAmountMustBePositive tx.liquidityId)
  let pool ← okOr s.dexPools[tx.poolId]? (poolMissing tx.poolId)
  rejectIf (pool.totalLpUnits = 0) (poolReserveInsufficient tx.poolId)
  let lpPositionId := deterministicLpPositionId tx.poolId tx.providerAccountId
  let position ← okOr s.lpPositions[lpPositionId]? (lpPositionMissing lpPositionId)
  rejectIf (position.lpUnits < tx.lpUnits) (lpPositionInsufficient lpPositionId)
  let baseAmountUnits ← proportionalAmount pool.reserveBaseUnits tx.lpUnits pool.totalLpUnits
    tx.poolId
  let quoteAmountUnits ← proportionalAmount pool.reserveQuoteUnits tx.lpUnits pool.totalLpUnits
    tx.poolId
  rejectIf (baseAmountUnits < tx.minBaseAmountUnits ∨
    quoteAmountUnits < tx.minQuoteAmountUnits) (liquidityBelowMinimum tx.liquidityId)
  return ⟨pool, position, baseAmountUnits, quoteAmountUnits⟩

def removeLiquidity (tx : RemoveLiquidity) : Action Unit := do
  let s ← get
  let ⟨pool, position, baseAmountUnits, quoteAmountUnits⟩ ← ofExcept (removeLiquidityChecks s tx)
  let lpPositionId := deterministicLpPositionId tx.poolId tx.providerAccountId
  let units := position.lpUnits - tx.lpUnits
  modify fun s => { s with
    lpPositions := s.lpPositions.insert lpPositionId { position with lpUnits := units } }
  let baseWithdrawn ← okOr (checkedAdd position.baseUnitsWithdrawn baseAmountUnits)
    (poolReserveOverflow tx.poolId)
  modify fun s => { s with
    lpPositions := s.lpPositions.insert lpPositionId
      { position with lpUnits := units, baseUnitsWithdrawn := baseWithdrawn } }
  let quoteWithdrawn ← okOr (checkedAdd position.quoteUnitsWithdrawn quoteAmountUnits)
    (poolReserveOverflow tx.poolId)
  modify fun s => { s with
    lpPositions := s.lpPositions.insert lpPositionId
      { position with
        lpUnits := units, baseUnitsWithdrawn := baseWithdrawn,
        quoteUnitsWithdrawn := quoteWithdrawn, updatedAtBlock := s.nextBlockNumber } }
  let reserveBaseAfter ← okOr (checkedSub pool.reserveBaseUnits baseAmountUnits)
    (poolReserveInsufficient tx.poolId)
  let reserveQuoteAfter ← okOr (checkedSub pool.reserveQuoteUnits quoteAmountUnits)
    (poolReserveInsufficient tx.poolId)
  modify fun s => { s with
    dexPools := s.dexPools.insert tx.poolId
      { pool with
        reserveBaseUnits := reserveBaseAfter, reserveQuoteUnits := reserveQuoteAfter } }
  let totalLpAfter ← okOr (checkedSub pool.totalLpUnits tx.lpUnits)
    (poolReserveInsufficient tx.poolId)
  modify fun s => { s with
    dexPools := s.dexPools.insert tx.poolId
      { pool with
        reserveBaseUnits := reserveBaseAfter, reserveQuoteUnits := reserveQuoteAfter,
        totalLpUnits := totalLpAfter, updatedAtBlock := s.nextBlockNumber,
        lastLiquidityReceiptId := some tx.liquidityId } }
  creditAssetUnits tx.providerAccountId pool.baseAssetId baseAmountUnits
  creditAssetUnits tx.providerAccountId pool.quoteAssetId quoteAmountUnits
  modify fun s => { s with
    liquidityReceipts := s.liquidityReceipts.insert tx.liquidityId
      { liquidityId := tx.liquidityId, poolId := tx.poolId,
        providerAccountId := tx.providerAccountId, action := "remove",
        baseAmountUnits, quoteAmountUnits,
        lpUnits := tx.lpUnits, reserveBaseBefore := pool.reserveBaseUnits,
        reserveQuoteBefore := pool.reserveQuoteUnits, reserveBaseAfter,
        reserveQuoteAfter, executedAtBlock := s.nextBlockNumber,
        noValue := true } }

/-! ### Swaps -/

/-- What a swap pays: the pool before it, the asset and amount paid out, and the reserves after. -/
structure SwapQuote where
  pool : DexPool
  assetOutId : String
  (amountOutUnits reserveBaseAfter reserveQuoteAfter : UInt64)

/-- Price a swap in the direction given by the asset paid in. -/
def swapQuote (pool : DexPool) (tx : SwapExactIn) : Checked SwapQuote :=
  if tx.assetInId = pool.baseAssetId then do
    let amountOut ← quoteOutForBaseIn pool tx.amountInUnits
    let reserveBaseAfter ← checkedPoolAdd tx.poolId pool.reserveBaseUnits tx.amountInUnits
    let reserveQuoteAfter ← okOr (checkedSub pool.reserveQuoteUnits amountOut)
      (poolReserveInsufficient tx.poolId)
    return ⟨pool, pool.quoteAssetId, amountOut, reserveBaseAfter, reserveQuoteAfter⟩
  else if tx.assetInId = pool.quoteAssetId then do
    let amountOut ← baseOutForQuoteIn pool tx.amountInUnits
    let reserveBaseAfter ← okOr (checkedSub pool.reserveBaseUnits amountOut)
      (poolReserveInsufficient tx.poolId)
    let reserveQuoteAfter ← checkedPoolAdd tx.poolId pool.reserveQuoteUnits tx.amountInUnits
    return ⟨pool, pool.baseAssetId, amountOut, reserveBaseAfter, reserveQuoteAfter⟩
  else .error (poolInvalidAsset tx.assetInId)

def swapExactInChecks (s : ChainState) (tx : SwapExactIn) : Checked SwapQuote := do
  ensureExpectedId "swap" tx.swapId
    (deterministicSwapId tx.poolId tx.traderAccountId tx.assetInId tx.amountInUnits
      (decimal tx.minAmountOutUnits))
  rejectIf (s.swapReceipts.contains tx.swapId) (swapReceiptAlreadyExists tx.swapId)
  rejectIf (tx.amountInUnits = 0) (tokenAmountMustBePositive tx.swapId)
  let pool ← okOr s.dexPools[tx.poolId]? (poolMissing tx.poolId)
  let quote ← swapQuote pool tx
  rejectIf (quote.amountOutUnits = 0 ∨ quote.amountOutUnits < tx.minAmountOutUnits)
    (swapSlippageExceeded tx.swapId)
  ensureAssetUnitsAvailable s tx.traderAccountId tx.assetInId tx.amountInUnits
  return quote

def swapExactIn (tx : SwapExactIn) : Action Unit := do
  let s ← get
  let ⟨pool, assetOutId, amountOutUnits, reserveBaseAfter, reserveQuoteAfter⟩ ←
    ofExcept (swapExactInChecks s tx)
  debitAssetUnits tx.traderAccountId tx.assetInId tx.amountInUnits
  creditAssetUnits tx.traderAccountId assetOutId amountOutUnits
  modify fun s => { s with
    dexPools := s.dexPools.insert tx.poolId
      { pool with
        reserveBaseUnits := reserveBaseAfter, reserveQuoteUnits := reserveQuoteAfter,
        updatedAtBlock := s.nextBlockNumber, lastSwapReceiptId := some tx.swapId } }
  modify fun s => { s with
    swapReceipts := s.swapReceipts.insert tx.swapId
      { swapId := tx.swapId, poolId := tx.poolId, traderAccountId := tx.traderAccountId,
        assetInId := tx.assetInId, assetOutId,
        amountInUnits := tx.amountInUnits, amountOutUnits,
        reserveBaseBefore := pool.reserveBaseUnits, reserveQuoteBefore := pool.reserveQuoteUnits,
        reserveBaseAfter, reserveQuoteAfter,
        executedAtBlock := s.nextBlockNumber, noValue := true } }

end FlowMemory
