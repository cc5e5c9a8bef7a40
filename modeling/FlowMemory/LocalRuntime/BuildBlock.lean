import Mathlib.Logic.Relation
import FlowMemory.LocalRuntime.ApplyTransaction

/-! # The queue, blocks and runs of a node

A node queues transactions and seals blocks.  `buildBlock` empties the queue, applies the
queued transactions in order, keeps the writes of rejected ones, and appends a block with one
receipt for each of them.

**Runs.**  `NodeStep ok` is one step of a node: a transaction that satisfies `ok` in the state
where it is applied, or one of the changes to the queue and the head that queueing and sealing
make.  `Run ok` is a sequence of steps.  Sealing a block is a run (`run_buildBlock`), so what
holds along runs holds for nodes that only ever queue transactions and build blocks.
`Run.invariant` is the induction used for every invariant: it has to be shown for single
transactions, and not to depend on the queue and the head. -/

namespace FlowMemory

open Relation

variable [Keccak]

/-! ### The queue -/

def envelopeTx (tx : Transaction) : TxEnvelope where
  txId := hashJson txSchema (Serialize.toJson tx)
  tx
  authorization := none

def queueTransaction (tx : Transaction) (s : ChainState) : ChainState :=
  { s with pendingTxs := s.pendingTxs ++ [envelopeTx tx] }

/-! ### Blocks -/

/-- The receipt of a transaction with the given outcome. -/
def blockReceipt (envelope : TxEnvelope) (result : Except LocalRuntimeError Unit) :
    BlockReceipt where
  txId := envelope.txId
  status := match result with
    | .ok _ => "applied"
    | .error _ => "rejected"
  error := match result with
    | .ok _ => none
    | .error e => some e.toString
  authorization := envelope.authorization

/-- Apply envelopes in order, collecting their receipts. -/
def applyEnvelopes : List TxEnvelope → ChainState → List BlockReceipt × ChainState
  | [], s => ([], s)
  | envelope :: rest, s =>
    let (result, s₁) := applyTransaction envelope.tx s
    let (receipts, s₂) := applyEnvelopes rest s₁
    (blockReceipt envelope result :: receipts, s₂)

/-- The block on top of a state whose transactions have been applied. -/
def newBlock (s : ChainState) (txIds : List String) (receipts : List BlockReceipt) : Block :=
  let block : Block :=
    { schema := blockSchema, blockNumber := s.nextBlockNumber, parentHash := s.parentHash,
      logicalTime := s.logicalTime, txIds, receipts,
      stateRoot := stateRoot s, blockHash := zeroHash }
  { block with
    blockHash := hashJson "flowmemory.local_runtime.block_hash.v0" (Serialize.toJson block) }

/-- Append a block and move the head to it. -/
def pushBlock (s : ChainState) (block : Block) : ChainState :=
  { s with
    nextBlockNumber := s.nextBlockNumber + 1
    logicalTime := s.logicalTime + 1
    parentHash := block.blockHash
    blocks := s.blocks ++ [block] }

/-- The state after the queued transactions, before the block is appended. -/
def drainQueue (s : ChainState) : List BlockReceipt × ChainState :=
  applyEnvelopes s.pendingTxs { s with pendingTxs := [] }

def buildBlock (s : ChainState) : Block × ChainState :=
  let (receipts, s₁) := drainQueue s
  let block := newBlock s₁ (s.pendingTxs.map (·.txId)) receipts
  (block, pushBlock s₁ block)

/-! ### Runs -/

/-- The transaction is accepted in the state. -/
def Accepted (tx : Transaction) (s : ChainState) : Prop := (applyTransaction tx s).1 = .ok ()

/-- One step of a node. -/
inductive NodeStep (ok : Transaction → ChainState → Prop) : ChainState → ChainState → Prop
  | transaction {tx : Transaction} {s : ChainState} (h : ok tx s) :
      NodeStep ok s (applyTransaction tx s).2
  | queue (s : ChainState) (envelope : TxEnvelope) :
      NodeStep ok s { s with pendingTxs := s.pendingTxs ++ [envelope] }
  | takeQueue (s : ChainState) : NodeStep ok s { s with pendingTxs := [] }
  | pushBlock (s : ChainState) (txIds : List String) (receipts : List BlockReceipt) :
      NodeStep ok s (pushBlock s (newBlock s txIds receipts))

/-- A sequence of steps whose transactions all satisfy `ok`. -/
def Run (ok : Transaction → ChainState → Prop) : ChainState → ChainState → Prop :=
  ReflTransGen (NodeStep ok)

/-- Reached from genesis by any transactions, accepted or rejected. -/
def Reachable : ChainState → Prop := Run (fun _ _ => True) genesisState

/-- Reached from genesis by accepted transactions. -/
def AcceptedReachable : ChainState → Prop := Run Accepted genesisState

variable {ok : Transaction → ChainState → Prop} {s t : ChainState}

/-- The envelopes satisfy `ok` one after the other. -/
def Admits (ok : Transaction → ChainState → Prop) : List TxEnvelope → ChainState → Prop
  | [], _ => True
  | envelope :: rest, s => ok envelope.tx s ∧ Admits ok rest (applyTransaction envelope.tx s).2

theorem run_applyEnvelopes (envelopes : List TxEnvelope) (h : Admits ok envelopes s) :
    Run ok s (applyEnvelopes envelopes s).2 := by
  induction envelopes generalizing s with
  | nil => exact .refl
  | cons envelope rest ih => exact .head (.transaction h.1) (ih h.2)

/-- Building a block is a run of the transactions in the queue. -/
theorem run_buildBlock (h : Admits ok s.pendingTxs { s with pendingTxs := [] }) :
    Run ok s (buildBlock s).2 :=
  .head (.takeQueue s) (.tail (run_applyEnvelopes _ h) (.pushBlock _ _ _))

theorem admits_true (envelopes : List TxEnvelope) (s : ChainState) :
    Admits (fun _ _ => True) envelopes s := by
  induction envelopes generalizing s with
  | nil => trivial
  | cons envelope rest ih => exact ⟨trivial, ih _⟩

/-- A block without rejections is a run of accepted transactions. -/
theorem admits_accepted (envelopes : List TxEnvelope)
    (h : ∀ r ∈ (applyEnvelopes envelopes s).1, r.status = "applied") :
    Admits Accepted envelopes s := by
  induction envelopes generalizing s with
  | nil => trivial
  | cons envelope rest ih =>
    have h₀ := h (blockReceipt envelope (applyTransaction envelope.tx s).1) List.mem_cons_self
    refine ⟨?_, ih fun r hr => h r (List.mem_cons_of_mem _ hr)⟩
    unfold Accepted
    rcases hres : (applyTransaction envelope.tx s).1 with e | ⟨⟩
    · rw [hres] at h₀
      exact absurd h₀ (by decide : "rejected" ≠ "applied")
    · rfl

theorem Admits.imp {ok' : Transaction → ChainState → Prop} {envelopes : List TxEnvelope}
    (h : Admits ok envelopes s)
    (himp : ∀ e ∈ envelopes, ∀ s, ok e.tx s → ok' e.tx s) : Admits ok' envelopes s := by
  induction envelopes generalizing s with
  | nil => trivial
  | cons e rest ih =>
    exact ⟨himp e List.mem_cons_self s h.1, ih h.2 fun e he => himp e (List.mem_cons_of_mem _ he)⟩

theorem AcceptedReachable.apply {tx : Transaction} (h : AcceptedReachable s)
    (hrun : applyTransaction tx s = (.ok (), t)) : AcceptedReachable t := by
  have hacc : Accepted tx s := congrArg Prod.fst hrun
  have hstep := NodeStep.transaction hacc
  rw [hrun] at hstep
  exact .tail h hstep

/-- What every transaction keeps, and what does not depend on the queue and the head, holds
along a run. -/
theorem Run.invariant {P : ChainState → Prop} (hrun : Run ok s t)
    (htx : ∀ tx s, ok tx s → P s → P (applyTransaction tx s).2)
    (hhead : ∀ (s : ChainState) (n l : UInt64) (p : String) (b : List Block)
      (q : List TxEnvelope), P s →
        P { s with nextBlockNumber := n, logicalTime := l, parentHash := p, blocks := b,
                   pendingTxs := q })
    (hs : P s) : P t := by
  induction hrun with
  | refl => exact hs
  | tail _ hstep ih =>
    cases hstep with
    | transaction h => exact htx _ _ h ih
    | queue | takeQueue | pushBlock => exact hhead _ _ _ _ _ _ ih

/-! ### A market with one provider -/

/-- The token of the market. -/
def marketToken : String := deterministicTokenId "TKN"

/-- The pool of the market. -/
def marketPool : String := deterministicPoolId localTestUnitAssetId marketToken

/-- The only deposit of the market. -/
def marketDeposit : String :=
  deterministicLiquidityId marketPool "a" "add" (liquidityNonce 400 500 1)

/-- One account launches a token, opens a pool against the local asset and deposits. -/
def marketHistory : List Transaction :=
  [.createLocalTestUnitBalance { accountId := "a", owner := "a" },
    .faucetLocalTestUnits
      { faucetRecordId := "f1", accountId := "a", recipient := "a", amountUnits := 1000,
        reason := "" },
    .launchToken
      { tokenId := marketToken, symbol := "TKN", name := "Token", decimals := 0,
        initialOwnerAccountId := "a", initialSupplyUnits := 1000 },
    .createPool
      { poolId := marketPool, baseAssetId := localTestUnitAssetId, quoteAssetId := marketToken,
        createdByAccountId := "a" },
    .addLiquidity
      { liquidityId := marketDeposit, poolId := marketPool, providerAccountId := "a",
        baseAmountUnits := 400, quoteAmountUnits := 500, minLpUnits := 1 }]

/-- The state at the end of `marketHistory`. -/
def marketState : ChainState := { genesisState with
  localTestUnitBalances := (∅ : BTreeMap LocalTestUnitBalance).insert "a"
    { accountId := "a", owner := "a", units := 600, totalFaucetUnits := 1000,
      lastFaucetRecordId := some "f1", updatedAtBlock := 1, noValue := true }
  faucetRecords := (∅ : BTreeMap FaucetRecord).insert "f1"
    { faucetRecordId := "f1", accountId := "a", recipient := "a", amountUnits := 1000,
      reason := "", creditedAtBlock := 1, noValue := true }
  tokenDefinitions := (∅ : BTreeMap LocalTestToken).insert marketToken
    { tokenId := marketToken, symbol := "TKN", name := "Token", decimals := 0,
      launcherAccountId := "a", totalSupplyUnits := 1000, launchedAtBlock := 1, noValue := true }
  tokenBalances := (∅ : BTreeMap LocalTestTokenBalance).insert
    (deterministicTokenBalanceId marketToken "a")
    { tokenBalanceId := deterministicTokenBalanceId marketToken "a", tokenId := marketToken,
      accountId := "a", units := 500, updatedAtBlock := 1, noValue := true }
  tokenMintReceipts := (∅ : BTreeMap LocalTestTokenMintReceipt).insert
    (deterministicTokenMintId marketToken "a" 1000 "initial-supply")
    { mintId := deterministicTokenMintId marketToken "a" 1000 "initial-supply",
      tokenId := marketToken, toAccountId := "a", amountUnits := 1000,
      reason := "initial-supply", mintedAtBlock := 1, noValue := true }
  dexPools := (∅ : BTreeMap DexPool).insert marketPool
    { poolId := marketPool, baseAssetId := localTestUnitAssetId, quoteAssetId := marketToken,
      createdByAccountId := "a", reserveBaseUnits := 400, reserveQuoteUnits := 500,
      totalLpUnits := 400, createdAtBlock := 1, updatedAtBlock := 1,
      lastLiquidityReceiptId := some marketDeposit, lastSwapReceiptId := none,
      noValue := true }
  lpPositions := (∅ : BTreeMap LpPosition).insert (deterministicLpPositionId marketPool "a")
    { lpPositionId := deterministicLpPositionId marketPool "a", poolId := marketPool,
      ownerAccountId := "a", lpUnits := 400, baseUnitsDeposited := 400,
      quoteUnitsDeposited := 500, baseUnitsWithdrawn := 0, quoteUnitsWithdrawn := 0,
      updatedAtBlock := 1, noValue := true }
  liquidityReceipts := (∅ : BTreeMap LiquidityReceipt).insert marketDeposit
    { liquidityId := marketDeposit, poolId := marketPool, providerAccountId := "a",
      action := "add", baseAmountUnits := 400, quoteAmountUnits := 500, lpUnits := 400,
      reserveBaseBefore := 0, reserveQuoteBefore := 0, reserveBaseAfter := 400,
      reserveQuoteAfter := 500, executedAtBlock := 1, noValue := true } }

theorem marketToken_ne : marketToken ≠ localTestUnitAssetId := keccakHex_ne_localTestUnitAssetId _

omit [Keccak] in
theorem marketSymbol_eq : normalizeTokenSymbol "TKN" = "TKN" := by decide

theorem marketToken_eq : deterministicTokenId "TKN" = marketToken := rfl

theorem marketPool_eq : deterministicPoolId localTestUnitAssetId marketToken = marketPool := rfl

theorem marketDeposit_eq :
    deterministicLiquidityId marketPool "a" "add" (liquidityNonce 400 500 1) = marketDeposit := rfl

/-- The history is accepted whatever the hash function: no two of its identifiers are compared. -/
theorem market_run : applyEnvelopes (marketHistory.map envelopeTx) genesisState =
    (marketHistory.map fun tx => blockReceipt (envelopeTx tx) (.ok ()), marketState) := by
  simp [marketHistory, marketState, applyEnvelopes, envelopeTx, genesisState, applyTransaction,
    createLocalTestUnitBalance, faucetLocalTestUnits, faucetChecks, launchToken,
    launchTokenChecks, createPool, addLiquidity, addLiquidityChecks, ensureExpectedId,
    ensureAssetExists, ensurePoolAssetsAreValid, ensureAssetUnitsAvailable, assetUnits,
    debitAssetUnits, creditAssetUnits, tokenBalanceOrFresh, freshTokenBalance,
    lpPositionOrFresh, freshLpPosition, liquidityUnitsForAdd, checkedPoolAdd, checkedAdd,
    Txn.get, Txn.modify, Txn.rejectIf, Txn.okOr, Txn.ofExcept, Check.rejectIf, Check.okOr,
    bind, pure, Except.bind, Except.pure, OrderedMap.insert_insert,
    OrderedMap.insert_insertIfNew, marketSymbol_eq, marketToken_eq, marketPool_eq,
    marketDeposit_eq, marketToken_ne,
    marketToken_ne.symm]

theorem market_accepted : Admits Accepted (marketHistory.map envelopeTx) genesisState := by
  refine admits_accepted _ fun r hr => ?_
  rw [market_run] at hr
  obtain ⟨tx, -, rfl⟩ := List.mem_map.mp hr
  rfl

theorem marketState_run (h : Admits ok (marketHistory.map envelopeTx) genesisState) :
    Run ok genesisState marketState := by
  have hrun := run_applyEnvelopes _ h
  rwa [market_run] at hrun

theorem marketState_acceptedReachable : AcceptedReachable marketState :=
  marketState_run market_accepted

end FlowMemory
