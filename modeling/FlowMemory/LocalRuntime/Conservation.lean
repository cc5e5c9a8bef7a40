import FlowMemory.LocalRuntime.LedgerAccepted
import FlowMemory.LocalRuntime.BuildBlock

/-! # Conservation of assets

Along accepted transactions no unit of any asset is created or lost: what the accounts hold and
what the pools hold is what the faucet, the mints and the bridge have issued.

Three invariants are kept together.

* `Keyed`: a token balance is stored under the identifier of its own token and account.  Without
  it a credit of one token could land in a balance of another.
* `Minted`: a mint receipt is stored under its own identifier and belongs to a launched token,
  and the supply of a token is the sum of its receipts.  A launch writes its receipt without
  looking whether there is one; the token is new, so there is none.
* `Balanced`: the equation between holdings and issue, for every asset.

Identifiers are hashes; that the balances and the receipts of the run have different ones is the
hypothesis `DistinctLedgerIds`. -/

namespace FlowMemory

open Txn OrderedMap

variable [K : Keccak] {tx : Transaction} {mintId : String} {r : LocalTestTokenMintReceipt}
  {B : Set (String × String)} {M : Set (String × String × UInt64 × String)}

/-! ### Sums over the state -/

/-- The local units in all accounts. -/
def localUnits (s : ChainState) : ℕ := total s.localTestUnitBalances (·.units.toNat)

/-- The units of a token in all token balances. -/
def tokenUnits (s : ChainState) (tokenId : String) : ℕ :=
  total s.tokenBalances fun b => if b.tokenId = tokenId then b.units.toNat else 0

/-- The units of an asset in all accounts. -/
def accountUnits (s : ChainState) (assetId : String) : ℕ :=
  (if assetId = localTestUnitAssetId then localUnits s else 0) + tokenUnits s assetId

/-- The units of an asset in one pool. -/
def poolUnits (assetId : String) (p : DexPool) : ℕ :=
  (if p.baseAssetId = assetId then p.reserveBaseUnits.toNat else 0) +
    if p.quoteAssetId = assetId then p.reserveQuoteUnits.toNat else 0

/-- The units of an asset in all pools. -/
def reserveUnits (s : ChainState) (assetId : String) : ℕ :=
  total s.dexPools (poolUnits assetId)

/-- The units of a token that were minted, its first supply included. -/
def mintedUnits (s : ChainState) (tokenId : String) : ℕ :=
  total s.tokenMintReceipts fun r =>
    if r.tokenId = tokenId then r.amountUnits.toNat else 0

/-- The units of an asset that came over the bridge. -/
def bridgedUnits (s : ChainState) (assetId : String) : ℕ :=
  total s.bridgeCredits fun c =>
    if c.assetId = assetId then c.amountUnits.toNat else 0

/-- The local units that the faucet has paid. -/
def faucetUnits (s : ChainState) : ℕ := total s.faucetRecords (·.amountUnits.toNat)

/-- The units of an asset that have been issued. -/
def issuedUnits (s : ChainState) (assetId : String) : ℕ :=
  (if assetId = localTestUnitAssetId then faucetUnits s else 0) + mintedUnits s assetId +
    bridgedUnits s assetId

/-! ### The identifiers of a run -/

/-- The token balances of `B`, given by token and account, and the mints of `M`, given by their
hashed fields, are stored under different identifiers. -/
structure DistinctLedgerIds (B : Set (String × String))
    (M : Set (String × String × UInt64 × String)) : Prop where
  balances : B.InjOn fun b => deterministicTokenBalanceId b.1 b.2
  mints : M.InjOn fun m => deterministicTokenMintId m.1 m.2.1 m.2.2.1 m.2.2.2

/-- The two balances that an account changes in a pool. -/
def poolBalances (s : ChainState) (poolId accountId : String) : List (String × String) :=
  (s.dexPools[poolId]?).elim [] fun p => [(p.baseAssetId, accountId), (p.quoteAssetId, accountId)]

/-- The asset and the account of the balances of assets that a transaction changes. -/
def Transaction.balances (s : ChainState) : Transaction → List (String × String)
  | .launchToken tx => [(tx.tokenId, tx.initialOwnerAccountId)]
  | .mintLocalTestToken tx => [(tx.tokenId, tx.toAccountId)]
  | .addLiquidity tx => poolBalances s tx.poolId tx.providerAccountId
  | .removeLiquidity tx => poolBalances s tx.poolId tx.providerAccountId
  | .swapExactIn tx => poolBalances s tx.poolId tx.traderAccountId
  | .creditBridgeFromBaseEvent tx => [(tx.assetId, tx.accountId)]
  | _ => []

/-- A balance is in `B`, unless it is one of local units, which have no identifier. -/
def InPlay (B : Set (String × String)) (assetId accountId : String) : Prop :=
  assetId ≠ localTestUnitAssetId → (assetId, accountId) ∈ B

/-- The balances and the mint of a transaction are in the sets. -/
structure WithinLedger (B : Set (String × String)) (M : Set (String × String × UInt64 × String))
    (tx : Transaction) (s : ChainState) : Prop where
  balances : ∀ b ∈ tx.balances s, InPlay B b.1 b.2
  mint : ∀ m ∈ tx.mint, m ∈ M

omit K in
theorem inPlay_pool {s : ChainState} {poolId accountId : String} {p : DexPool}
    (h : ∀ b ∈ poolBalances s poolId accountId, InPlay B b.1 b.2)
    (hp : s.dexPools[poolId]? = some p) :
    InPlay B p.baseAssetId accountId ∧ InPlay B p.quoteAssetId accountId := by
  simpa [poolBalances, hp] using h

/-! ### The invariants -/

/-- Token balances are stored under their own identifier. -/
def Keyed (B : Set (String × String)) (s : ChainState) : Prop :=
  ∀ (id : String) (b : LocalTestTokenBalance), s.tokenBalances[id]? = some b →
    id = deterministicTokenBalanceId b.tokenId b.accountId ∧ (b.tokenId, b.accountId) ∈ B

/-- Mint receipts are stored under their own identifier and account for every supply. -/
structure Minted (M : Set (String × String × UInt64 × String)) (s : ChainState) : Prop where
  receipt : ∀ (id : String) (r : LocalTestTokenMintReceipt), s.tokenMintReceipts[id]? = some r →
    id = deterministicTokenMintId r.tokenId r.toAccountId r.amountUnits r.reason ∧
      r.fields ∈ M ∧ s.tokenDefinitions[r.tokenId]? ≠ none
  supply : ∀ (id : String) (d : LocalTestToken), s.tokenDefinitions[id]? = some d →
    d.totalSupplyUnits.toNat = mintedUnits s id

/-- Holdings equal issue. -/
def Balanced (s : ChainState) : Prop :=
  ∀ assetId, accountUnits s assetId + reserveUnits s assetId = issuedUnits s assetId

variable {s s' t : ChainState} {accountId assetId : String} {n : UInt64} {w : Unit}

/-! ### Debits and credits -/

theorem keyed_openSlot (hk : Keyed B s) (hmem : InPlay B assetId accountId) :
    Keyed B (openSlot s accountId assetId) := by
  unfold openSlot
  split_ifs with h
  · exact hk
  · cases hold : s.tokenBalances[deterministicTokenBalanceId assetId accountId]? with
    | some c => rwa [insertIfNew_of_some hold]
    | none =>
      rw [insertIfNew_of_none hold]
      exact forall_insert hk ⟨rfl, hmem h⟩

theorem keyed_setUnits (hk : Keyed B s) (slot : Slot) (v : UInt64) :
    Keyed B (slot.setUnits s v) := by
  cases slot with
  | localUnits a => exact hk
  | token id => exact forall_update hk fun _ _ h => h

theorem keyed_mark (hk : Keyed B s) (slot : Slot) : Keyed B (slot.mark s) := by
  cases slot with
  | localUnits a => exact hk
  | token id => exact forall_update hk fun _ _ h => h

theorem Keyed.debit (h : debitAssetUnits accountId assetId n s = (.ok w, s')) (hk : Keyed B s) :
    Keyed B s' := by
  obtain ⟨-, u, -, -, rfl⟩ := debitAssetUnits_ok.mp h
  exact keyed_setUnits hk _ _

theorem Keyed.credit (h : creditAssetUnits accountId assetId n s = (.ok w, s')) (hk : Keyed B s)
    (hmem : InPlay B assetId accountId) : Keyed B s' := by
  obtain ⟨-, -, u, v, -, -, rfl⟩ := creditAssetUnits_ok.mp h
  exact keyed_setUnits (keyed_openSlot hk hmem) _ _

theorem accountUnits_openSlot (A : String) :
    accountUnits (openSlot s accountId assetId) A = accountUnits s A := by
  unfold openSlot
  split_ifs with h
  · rfl
  · simp only [accountUnits, localUnits, tokenUnits]
    cases hold : s.tokenBalances[deterministicTokenBalanceId assetId accountId]? with
    | some c => rw [insertIfNew_of_some hold]
    | none =>
      rw [insertIfNew_of_none hold, total_insert_of_none hold]
      simp [freshTokenBalance]

omit K in
theorem accountUnits_mark (slot : Slot) (A : String) :
    accountUnits (slot.mark s) A = accountUnits s A := by
  cases slot with
  | localUnits a | token id =>
    simp only [accountUnits, localUnits, tokenUnits, Slot.mark]
    rw [total_update_same]
    exact fun _ => rfl

section sums

variable (hids : DistinctLedgerIds B M)
include hids

/-- Rewriting one balance changes the sum for its asset by the difference. -/
theorem accountUnits_setUnits (hk : Keyed B s) (hmem : InPlay B assetId accountId) {u v : UInt64}
    (hu : (slotOf accountId assetId).units s = some u) (A : String) :
    accountUnits ((slotOf accountId assetId).setUnits s v) A +
        (if assetId = A then u.toNat else 0) =
      accountUnits s A + if assetId = A then v.toNat else 0 := by
  by_cases hl : assetId = localTestUnitAssetId
  · rw [slotOf, if_pos hl] at hu ⊢
    obtain ⟨b, hb, rfl⟩ := Option.map_eq_some_iff.mp hu
    simp only [accountUnits, localUnits, tokenUnits, Slot.setUnits, update_of_some hb,
      hl, eq_comm (a := A)]
    split_ifs
    · have := total_insert_of_some hb (fun b => b.units.toNat)
        { b with units := v, updatedAtBlock := s.nextBlockNumber }
      simp only at this
      omega
    · rfl
  · rw [slotOf, if_neg hl] at hu ⊢
    obtain ⟨b, hb, rfl⟩ := Option.map_eq_some_iff.mp hu
    obtain ⟨hid, hstored⟩ := hk _ b hb
    obtain rfl : assetId = b.tokenId := congrArg Prod.fst (hids.balances (hmem hl) hstored hid)
    simp only [accountUnits, localUnits, tokenUnits, Slot.setUnits, update_of_some hb]
    have := total_insert_of_some hb
      (fun c => if c.tokenId = A then c.units.toNat else 0)
      { b with units := v, updatedAtBlock := s.nextBlockNumber }
    simp only at this
    omega

theorem debit_accountUnits (h : debitAssetUnits accountId assetId n s = (.ok w, s'))
    (hk : Keyed B s) (hmem : InPlay B assetId accountId) (A : String) :
    accountUnits s' A + (if assetId = A then n.toNat else 0) = accountUnits s A := by
  obtain ⟨-, u, hu, hn, rfl⟩ := debitAssetUnits_ok.mp h
  have hset := accountUnits_setUnits hids hk hmem hu (v := u - n) A
  have hsub := toNat_sub_add hn
  split_ifs at hset ⊢ <;> omega

theorem credit_accountUnits (h : creditAssetUnits accountId assetId n s = (.ok w, s'))
    (hk : Keyed B s) (hmem : InPlay B assetId accountId) (A : String) :
    accountUnits s' A = accountUnits s A + if assetId = A then n.toNat else 0 := by
  obtain ⟨-, -, u, v, hu, hv, rfl⟩ := creditAssetUnits_ok.mp h
  have hset := accountUnits_setUnits hids (keyed_openSlot hk hmem) hmem hu (v := v) A
  rw [accountUnits_openSlot] at hset
  have hadd := checkedAdd_eq_some.mp hv
  split_ifs at hset ⊢ <;> omega

end sums

/-! ### One transaction: keys and receipts -/

/-- A swap changes the balances of its two assets. -/
theorem SwapFacts.inPlay {tx : SwapExactIn} {quote : SwapQuote} (hf : SwapFacts s tx quote)
    (h : ∀ b ∈ poolBalances s tx.poolId tx.traderAccountId, InPlay B b.1 b.2) :
    InPlay B tx.assetInId tx.traderAccountId ∧ InPlay B quote.assetOutId tx.traderAccountId := by
  obtain ⟨hbase, hquote⟩ := inPlay_pool h hf.pool_eq
  rcases hf.sides with ⟨hin, hout, -⟩ | ⟨hin, hout, -⟩ <;> rw [hin, hout]
  · exact ⟨hbase, hquote⟩
  · exact ⟨hquote, hbase⟩

theorem Keyed.step (h : applyTransaction tx s = (.ok w, s')) (hin : WithinLedger B M tx s)
    (hk : Keyed B s) : Keyed B s' := by
  cases tx with
  | launchToken tx =>
    obtain ⟨-, -, d, mintId, r, s₁, hc, rfl, -⟩ := launch_accepted h
    have hk₁ := Keyed.credit hc hk (hin.balances _ List.mem_cons_self)
    exact hk₁
  | mintLocalTestToken tx =>
    obtain ⟨-, d, d', r, s₁, -, hc, rfl, -⟩ := mint_accepted h
    have hk₁ := hk.credit hc (hin.balances _ List.mem_cons_self)
    exact hk₁
  | addLiquidity tx =>
    obtain ⟨p, p', lp, q, r, s₁, s₂, -, h₁, h₂, rfl, -⟩ := add_accepted h
    have hk₂ := (hk.debit h₁).debit h₂
    exact hk₂
  | removeLiquidity tx =>
    obtain ⟨quote, p', q, r, s₁, s₂, hf, h₁, h₂, rfl, -⟩ := remove_accepted h
    obtain ⟨hbase, hquote⟩ := inPlay_pool hin.balances hf.pool_eq
    have hk₂ := (Keyed.credit h₁ hk hbase).credit h₂ hquote
    exact hk₂
  | swapExactIn tx =>
    obtain ⟨quote, p', r, s₁, s₂, hf, h₁, h₂, rfl, -⟩ := swap_accepted h
    have hk₂ := (hk.debit h₁).credit h₂ (hf.inPlay hin.balances).2
    exact hk₂
  | creditBridgeFromBaseEvent tx =>
    obtain ⟨owner, c, e, s₁, s₂, -, h₁, h₂, rfl⟩ := bridgeCredit_accepted h
    have hk₁ := hk.credit h₁ (hin.balances _ List.mem_cons_self)
    rcases markIfLive_ok h₂ with ⟨-, rfl⟩ | ⟨-, rfl⟩
    · exact keyed_mark hk₁ _
    · exact hk₁
  | _ =>
    have hsame : s'.tokenBalances = s.tokenBalances :=
      applyTransaction_frame (f := .tokenBalances) h (by simp [footprint])
    rwa [Keyed, hsame]

omit K in
theorem mintedUnits_insert (hnew : s.tokenMintReceipts[mintId]? = none)
    (ht : t.tokenMintReceipts = s.tokenMintReceipts.insert mintId r) (A : String) :
    mintedUnits t A = mintedUnits s A + if r.tokenId = A then r.amountUnits.toNat else 0 := by
  rw [mintedUnits, ht, total_insert_of_none hnew, mintedUnits]

/-- Nothing of a token has been minted before its launch. -/
theorem Minted.mintedUnits_eq_zero (hm : Minted M s) {A : String}
    (hnew : s.tokenDefinitions[A]? = none) : mintedUnits s A = 0 := by
  refine total_eq_zero fun id r hr => if_neg ?_
  rintro rfl
  exact (hm.receipt id r hr).2.2 hnew

/-- The receipt that a launch writes is not there before. -/
theorem Minted.receipt_new (hids : DistinctLedgerIds B M) (hm : Minted M s)
    (hmem : r.fields ∈ M) (hnew : s.tokenDefinitions[r.tokenId]? = none) :
    s.tokenMintReceipts[deterministicTokenMintId r.tokenId r.toAccountId r.amountUnits r.reason]? =
      none := by
  rw [Option.eq_none_iff_forall_ne_some]
  intro r' hr'
  obtain ⟨hid, hmem', hdef⟩ := hm.receipt _ r' hr'
  have hfields : r.fields = r'.fields := hids.mints hmem hmem' hid
  have htoken : r.tokenId = r'.tokenId := congrArg Prod.fst hfields
  exact hdef (htoken ▸ hnew)

/-- Launching and minting alike add a receipt and set the supply to the new sum. -/
theorem Minted.insert (hm : Minted M s) (hmem : r.fields ∈ M)
    {d : LocalTestToken} (hnew : s.tokenMintReceipts[mintId]? = none)
    (hid : mintId = deterministicTokenMintId r.tokenId r.toAccountId r.amountUnits r.reason)
    (hdefs : t.tokenDefinitions = s.tokenDefinitions.insert r.tokenId d)
    (hrec : t.tokenMintReceipts = s.tokenMintReceipts.insert mintId r)
    (hsup : d.totalSupplyUnits.toNat = mintedUnits s r.tokenId + r.amountUnits.toNat) :
    Minted M t := by
  have hsum := mintedUnits_insert hnew hrec
  constructor
  · rw [hdefs, hrec]
    refine forall_insert (fun id r' hr' => ?_) ⟨hid, hmem, ?_⟩
    · obtain ⟨hid', hmem', hdef⟩ := hm.receipt id r' hr'
      refine ⟨hid', hmem', ?_⟩
      rw [getElem?_insert]
      split_ifs
      · simp
      · exact hdef
    · simp
  · intro id d' hd'
    rw [hdefs, getElem?_insert] at hd'
    rw [hsum]
    split_ifs at hd' ⊢ with htok
    · rw [← Option.some.inj hd', ← htok, hsup]
    · rw [hm.supply id d' hd', Nat.add_zero]

theorem Minted.step (hids : DistinctLedgerIds B M) (h : applyTransaction tx s = (.ok w, s'))
    (hin : WithinLedger B M tx s) (hm : Minted M s) : Minted M s' := by
  cases tx with
  | launchToken tx =>
    obtain ⟨-, hnew, d, mintId, r, s₁, hc, rfl, hsup, htok, hamt, hmint, rfl⟩ := launch_accepted h
    obtain ⟨L, T, rfl⟩ := (creditAssetUnits_balancesOnly hc).frame
    rw [← htok] at hnew
    have hmem := hin.mint _ hmint
    refine hm.insert hmem (hm.receipt_new hids hmem hnew) rfl (by rw [htok]) rfl ?_
    rw [hm.mintedUnits_eq_zero hnew, hsup, hamt, Nat.zero_add]
  | mintLocalTestToken tx =>
    obtain ⟨hnew, d, d', r, s₁, hd, hc, rfl, hsup, htok, hamt, hmint, hid⟩ := mint_accepted h
    obtain ⟨L, T, rfl⟩ := (creditAssetUnits_balancesOnly hc).frame
    refine hm.insert (hin.mint _ hmint) hnew hid (by rw [htok]) rfl ?_
    rw [hsup, htok, hamt, hm.supply _ d hd]
  | _ =>
    have hdefs : s'.tokenDefinitions = s.tokenDefinitions :=
      applyTransaction_frame (f := .tokenDefinitions) h (by simp [footprint])
    have hrec : s'.tokenMintReceipts = s.tokenMintReceipts :=
      applyTransaction_frame (f := .tokenMintReceipts) h (by simp [footprint])
    constructor
    · rw [hdefs, hrec]
      exact hm.receipt
    · simp only [mintedUnits, hdefs, hrec]
      exact hm.supply

/-! ### One transaction: the balance of holdings and issue -/

/-- The units of an asset in the given balances. -/
def heldUnits (L : OrderedMap String LocalTestUnitBalance)
    (T : OrderedMap String LocalTestTokenBalance) (A : String) : ℕ :=
  (if A = localTestUnitAssetId then total L (·.units.toNat) else 0) +
    total T fun b => if b.tokenId = A then b.units.toNat else 0

omit K in
theorem accountUnits_eq (A : String) :
    accountUnits s A = heldUnits s.localTestUnitBalances s.tokenBalances A := rfl

omit K in
/-- Holdings equal issue, as an equation between sums over the maps of the state. -/
theorem balanced_iff : Balanced s ↔ ∀ A,
    heldUnits s.localTestUnitBalances s.tokenBalances A + total s.dexPools (poolUnits A) =
      (if A = localTestUnitAssetId then total s.faucetRecords (·.amountUnits.toNat) else 0) +
        total s.tokenMintReceipts (fun r => if r.tokenId = A then r.amountUnits.toNat else 0) +
        total s.bridgeCredits fun c => if c.assetId = A then c.amountUnits.toNat else 0 :=
  Iff.rfl

section units

variable (hb : Balanced s)
include hb

omit K in
theorem balanced_create {tx : CreateLocalTestUnitBalance}
    (h : createLocalTestUnitBalance tx s = (.ok w, s')) : Balanced s' := by
  obtain ⟨hnew, b, rfl, hzero, -⟩ := create_accepted h
  rw [balanced_iff] at hb ⊢
  intro A
  rw [← hb A, heldUnits, total_insert_of_none hnew, hzero]
  rfl

omit K in
theorem balanced_faucet {tx : FaucetLocalTestUnits}
    (h : faucetLocalTestUnits tx s = (.ok w, s')) : Balanced s' := by
  obtain ⟨hnew, b, b', r, hold, rfl, hunits, -, hamt⟩ := faucet_accepted h
  rw [balanced_iff] at hb ⊢
  intro A
  have hb := hb A
  have hsum := total_insert_of_some hold (·.units.toNat) b'
  have hrec := total_insert_of_none hnew (·.amountUnits.toNat) r
  simp only [heldUnits, hamt] at hb hsum hrec ⊢
  split_ifs at hb ⊢ <;> omega

omit K in
theorem balanced_transfer {tx : TransferLocalTestUnits}
    (h : transferLocalTestUnits tx s = (.ok w, s')) : Balanced s' := by
  obtain ⟨-, b, b', r, hold, hcases⟩ := transfer_accepted h
  rw [balanced_iff] at hb ⊢
  intro A
  have hb := hb A
  have hfrom := total_insert_of_some hold (·.units.toNat) b'
  rcases hcases with ⟨-, rfl, hunits, -⟩ | ⟨hne, c, c', hto, rfl, hout, -, hin, -⟩
  · simp only [heldUnits, hunits] at hb hfrom ⊢
    split_ifs at hb ⊢ <;> omega
  · rw [← insert_getElem?_of_ne (v := b') hne] at hto
    have hto := total_insert_of_some hto (·.units.toNat) c'
    simp only [heldUnits] at hb hfrom hto ⊢
    split_ifs at hb ⊢ <;> omega

theorem balanced_createPool {tx : CreatePool} (h : createPool tx s = (.ok w, s')) :
    Balanced s' := by
  obtain ⟨hnew, -, p, rfl, -, -, -, hbase, hquote, -⟩ := createPool_accepted h
  rw [balanced_iff] at hb ⊢
  intro A
  rw [← hb A, total_insert_of_none hnew, poolUnits, hbase, hquote]
  simp

/-- Transactions that write none of the maps of the ledger. -/
theorem Balanced.frame {r : Except LocalRuntimeError Unit} (h : applyTransaction tx s = (r, s'))
    (hf : ∀ f ∈ [Field.localTestUnitBalances, .tokenBalances, .dexPools, .faucetRecords,
      .tokenMintReceipts, .bridgeCredits], f ∉ footprint tx) : Balanced s' := by
  have hsame {f : Field} (hmem : f ∈ [Field.localTestUnitBalances, .tokenBalances, .dexPools,
      .faucetRecords, .tokenMintReceipts, .bridgeCredits]) : f.Same s s' :=
    applyTransaction_frame h (hf f hmem)
  have hlocal : s'.localTestUnitBalances = s.localTestUnitBalances :=
    hsame (f := .localTestUnitBalances) (by simp)
  have htokens : s'.tokenBalances = s.tokenBalances := hsame (f := .tokenBalances) (by simp)
  have hpools : s'.dexPools = s.dexPools := hsame (f := .dexPools) (by simp)
  have hfaucet : s'.faucetRecords = s.faucetRecords := hsame (f := .faucetRecords) (by simp)
  have hmints : s'.tokenMintReceipts = s.tokenMintReceipts :=
    hsame (f := .tokenMintReceipts) (by simp)
  have hcredits : s'.bridgeCredits = s.bridgeCredits := hsame (f := .bridgeCredits) (by simp)
  rwa [balanced_iff, hlocal, htokens, hpools, hfaucet, hmints, hcredits]

variable (hids : DistinctLedgerIds B M) (hk : Keyed B s)
include hids hk

theorem balanced_launch {tx : LaunchToken} (h : launchToken tx s = (.ok w, s'))
    (hin : WithinLedger B M (.launchToken tx) s) (hm : Minted M s) : Balanced s' := by
  obtain ⟨-, hnew, d, mintId, r, s₁, hc, rfl, -, htok, hamt, hmint, rfl⟩ := launch_accepted h
  rw [← htok] at hnew
  obtain ⟨L, T, rfl⟩ := (creditAssetUnits_balancesOnly hc).frame
  rw [balanced_iff] at hb ⊢
  intro A
  have hb := hb A
  have hacc := credit_accountUnits hids hc hk (hin.balances _ List.mem_cons_self) A
  have hmint := total_insert_of_none (hm.receipt_new hids (hin.mint _ hmint) hnew)
    (fun r => if r.tokenId = A then r.amountUnits.toNat else 0) r
  simp only [accountUnits_eq, htok, hamt] at hacc hmint ⊢
  omega

theorem balanced_mint {tx : MintLocalTestToken} (h : mintLocalTestToken tx s = (.ok w, s'))
    (hin : WithinLedger B M (.mintLocalTestToken tx) s) : Balanced s' := by
  obtain ⟨hnew, d, d', r, s₁, -, hc, rfl, -, htok, hamt, -⟩ := mint_accepted h
  obtain ⟨L, T, rfl⟩ := (creditAssetUnits_balancesOnly hc).frame
  rw [balanced_iff] at hb ⊢
  intro A
  have hb := hb A
  have hacc := credit_accountUnits hids hc hk (hin.balances _ List.mem_cons_self) A
  have hmint := total_insert_of_none hnew
    (fun r => if r.tokenId = A then r.amountUnits.toNat else 0) r
  simp only [accountUnits_eq, htok, hamt] at hacc hmint ⊢
  omega

theorem balanced_bridgeCredit {tx : CreditBridgeFromBaseEvent}
    (h : creditBridgeFromBaseEvent tx s = (.ok w, s'))
    (hin : WithinLedger B M (.creditBridgeFromBaseEvent tx) s) : Balanced s' := by
  obtain ⟨owner, c, e, s₁, s₂, hchecks, hc, hmark, rfl⟩ := bridgeCredit_accepted h
  obtain ⟨L, T, rfl⟩ :=
    ((creditAssetUnits_balancesOnly hc).trans (markIfLive_balancesOnly hmark)).frame
  rw [balanced_iff] at hb ⊢
  intro A
  have hb := hb A
  have hacc := credit_accountUnits hids hc hk (hin.balances _ List.mem_cons_self) A
  have hmarked : accountUnits { s with localTestUnitBalances := L, tokenBalances := T } A =
      accountUnits s₁ A := by
    rcases markIfLive_ok hmark with ⟨-, h⟩ | ⟨-, h⟩
    · rw [h, accountUnits_mark]
    · rw [h]
  have hbridged := total_insert_of_none (bridgeFacts hchecks).credit_new
    (fun c => if c.assetId = A then c.amountUnits.toNat else 0)
    (bridgeCredit { s with localTestUnitBalances := L, tokenBalances := T } tx owner)
  change _ = _ + if tx.assetId = A then tx.amountUnits.toNat else 0 at hbridged
  simp only [accountUnits_eq] at hacc hmarked ⊢
  omega

theorem balanced_add {tx : AddLiquidity} (h : addLiquidity tx s = (.ok w, s'))
    (hin : WithinLedger B M (.addLiquidity tx) s) : Balanced s' := by
  obtain ⟨p, p', lp, q, r, s₁, s₂, hf, h₁, h₂, rfl, hd⟩ := add_accepted h
  obtain ⟨L, T, rfl⟩ :=
    ((debitAssetUnits_balancesOnly h₁).trans (debitAssetUnits_balancesOnly h₂)).frame
  rw [balanced_iff] at hb ⊢
  intro A
  have hb := hb A
  obtain ⟨hbase, hquote⟩ := inPlay_pool hin.balances hf.pool_eq
  have hacc₁ := debit_accountUnits hids h₁ hk hbase A
  have hacc₂ := debit_accountUnits hids h₂ (hk.debit h₁) hquote A
  have hres := total_insert_of_some hf.pool_eq (poolUnits A) p'
  simp only [accountUnits_eq, poolUnits, hd.market.baseAssetId, hd.market.quoteAssetId,
    hd.reserveBase, hd.reserveQuote] at hacc₁ hacc₂ hres ⊢
  split_ifs at hacc₁ hacc₂ hres <;> omega

theorem balanced_remove {tx : RemoveLiquidity} (h : removeLiquidity tx s = (.ok w, s'))
    (hin : WithinLedger B M (.removeLiquidity tx) s) : Balanced s' := by
  obtain ⟨quote, p', q, r, s₁, s₂, hf, h₁, h₂, rfl, hd⟩ := remove_accepted h
  obtain ⟨L, T, rfl⟩ :=
    ((creditAssetUnits_balancesOnly h₁).trans (creditAssetUnits_balancesOnly h₂)).frame
  rw [balanced_iff] at hb ⊢
  intro A
  have hb := hb A
  obtain ⟨hbase, hquote⟩ := inPlay_pool hin.balances hf.pool_eq
  have hacc₁ := credit_accountUnits hids h₁ hk hbase A
  have hacc₂ := credit_accountUnits hids h₂ (Keyed.credit h₁ hk hbase) hquote A
  have hres := total_insert_of_some hf.pool_eq (poolUnits A) p'
  simp only [accountUnits_eq, poolUnits, hd.market.baseAssetId, hd.market.quoteAssetId,
    hd.reserveBase, hd.reserveQuote] at hacc₁ hacc₂ hres ⊢
  split_ifs at hacc₁ hacc₂ hres <;> omega

theorem balanced_swap {tx : SwapExactIn} (h : swapExactIn tx s = (.ok w, s'))
    (hin : WithinLedger B M (.swapExactIn tx) s) : Balanced s' := by
  obtain ⟨quote, p', r, s₁, s₂, hf, h₁, h₂, rfl, hd⟩ := swap_accepted h
  obtain ⟨L, T, rfl⟩ :=
    ((debitAssetUnits_balancesOnly h₁).trans (creditAssetUnits_balancesOnly h₂)).frame
  rw [balanced_iff] at hb ⊢
  intro A
  have hb := hb A
  obtain ⟨hpaid, hgot⟩ := hf.inPlay hin.balances
  have hacc₁ := debit_accountUnits hids h₁ hk hpaid A
  have hacc₂ := credit_accountUnits hids h₂ (hk.debit h₁) hgot A
  have hres := total_insert_of_some hf.pool_eq (poolUnits A) p'
  simp only [accountUnits_eq, poolUnits, hd.market.baseAssetId, hd.market.quoteAssetId,
    hd.reserveBase, hd.reserveQuote] at hacc₁ hacc₂ hres ⊢
  -- the two directions of the swap
  rcases hf.sides with ⟨hin, hout, hside⟩ | ⟨hin, hout, hside⟩ <;>
  · have := hside.in_after
    have := hside.out_after
    rw [hin] at hacc₁
    rw [hout] at hacc₂
    split_ifs at hacc₁ hacc₂ hres <;> omega

end units

/-! ### Runs -/

/-- The books of a state are in order. -/
structure Books (B : Set (String × String)) (M : Set (String × String × UInt64 × String))
    (s : ChainState) : Prop where
  keyed : Keyed B s
  minted : Minted M s
  balanced : Balanced s

theorem books_genesis : Books B M genesisState := by
  refine ⟨fun id b hb => ?_, ⟨fun id r hr => ?_, fun id d hd => ?_⟩, fun A => ?_⟩
  · simp [genesisState] at hb
  · simp [genesisState] at hr
  · simp [genesisState] at hd
  · simp [accountUnits, localUnits, tokenUnits, reserveUnits, issuedUnits, faucetUnits,
      mintedUnits, bridgedUnits, genesisState]

theorem Books.step (hids : DistinctLedgerIds B M) (h : Accepted tx s) (hin : WithinLedger B M tx s)
    (hs : Books B M s) : Books B M (applyTransaction tx s).2 := by
  have hrun : applyTransaction tx s = (.ok (), (applyTransaction tx s).2) := Prod.ext h rfl
  generalize (applyTransaction tx s).2 = s' at hrun
  refine ⟨hs.keyed.step hrun hin, hs.minted.step hids hrun hin, ?_⟩
  obtain ⟨hk, hm, hb⟩ := hs
  cases tx with
  | createLocalTestUnitBalance tx => exact balanced_create hb hrun
  | faucetLocalTestUnits tx => exact balanced_faucet hb hrun
  | transferLocalTestUnits tx => exact balanced_transfer hb hrun
  | launchToken tx => exact balanced_launch hb hids hk hrun hin hm
  | mintLocalTestToken tx => exact balanced_mint hb hids hk hrun hin
  | createPool tx => exact balanced_createPool hb hrun
  | addLiquidity tx => exact balanced_add hb hids hk hrun hin
  | removeLiquidity tx => exact balanced_remove hb hids hk hrun hin
  | swapExactIn tx => exact balanced_swap hb hids hk hrun hin
  | creditBridgeFromBaseEvent tx => exact balanced_bridgeCredit hb hids hk hrun hin
  | _ => exact hb.frame hrun (by simp [footprint])

/-- **Conservation**: along accepted transactions whose balances and mints have different
identifiers the units of every asset in accounts and pools are those that were issued, and the
supply of a token is the sum of its mint receipts. -/
theorem asset_conservation (hids : DistinctLedgerIds B M)
    (h : Run (fun tx s => Accepted tx s ∧ WithinLedger B M tx s) genesisState s) (assetId : String) :
    accountUnits s assetId + reserveUnits s assetId = issuedUnits s assetId ∧
      ∀ token, s.tokenDefinitions[assetId]? = some token →
        token.totalSupplyUnits.toNat = mintedUnits s assetId := by
  have hbooks : Books B M s := by
    refine Run.invariant h (fun tx s htx hs => hs.step hids htx.1 htx.2) ?_ books_genesis
    exact fun s n l p b q hs => ⟨hs.keyed, ⟨hs.minted.receipt, hs.minted.supply⟩, hs.balanced⟩
  exact ⟨hbooks.balanced assetId, hbooks.minted.supply assetId⟩

/-- The market writes one token balance and one mint. -/
theorem market_withinLedger : Admits (fun tx s => Accepted tx s ∧ WithinLedger {(marketToken, "a")}
    {(marketToken, "a", 1000, "initial-supply")} tx s) (marketHistory.map envelopeTx)
      genesisState := by
  obtain ⟨h₁, h₂, htoken, hpool, hdeposit, -⟩ := market_accepted
  refine ⟨⟨h₁, nofun, nofun⟩, ⟨h₂, nofun, nofun⟩, ⟨htoken, ?_, ?_⟩, ⟨hpool, nofun, nofun⟩,
    ⟨hdeposit, ?_, nofun⟩, trivial⟩
  · exact List.forall_mem_singleton.mpr fun _ => rfl
  · rintro _ ⟨⟩
    rfl
  · obtain ⟨-, -, p, hs, -, hbase, hquote, -⟩ := createPool_accepted (Prod.ext hpool rfl)
    have hbalances {s s' : ChainState}
        (hs : s' = { s with dexPools := s.dexPools.insert marketPool p }) :
        ∀ b ∈ poolBalances s' marketPool "a", InPlay {(marketToken, "a")} b.1 b.2 := by
      rw [hs, poolBalances, OrderedMap.insert_getElem?_self]
      simp [InPlay, hbase, hquote]
    exact hbalances hs

omit K in
/-- The 1000 local units of the market are spread over its account and its pool. -/
theorem asset_conservation_market :
    letI : Keccak := keccak256
    accountUnits marketState localTestUnitAssetId +
        reserveUnits marketState localTestUnitAssetId =
      issuedUnits marketState localTestUnitAssetId ∧
      ∀ token, marketState.tokenDefinitions[localTestUnitAssetId]? = some token →
        token.totalSupplyUnits.toNat = mintedUnits marketState localTestUnitAssetId := by
  generalize keccak256 = K
  have hids : DistinctLedgerIds {(marketToken, "a")} {(marketToken, "a", 1000, "initial-supply")} :=
    ⟨Set.injOn_singleton _ _, Set.injOn_singleton _ _⟩
  exact asset_conservation hids (marketState_run market_withinLedger) _

end FlowMemory
