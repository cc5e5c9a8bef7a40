import FlowMemory.LocalRuntime.Atomicity

/-! # Events of the source chain are credited once

A credit names an event of the source chain by texts: the number of the chain, the address of
the contract and the hash of the transaction.  Texts that differ in the case of hexadecimal
letters, or in a plus sign or leading zeros of the number, name the same event.

Three indexes refuse a second credit: replay keys, credit identifiers and event reference keys.
The first two are computed with the deposit identifier, which is not part of the event, and the
third one from the texts as they were submitted.  So a credit for an event that has a credit
already is refused exactly when it **recognises** it: when it spells the event in the same way,
or has the same replay key or credit identifier.  `event_credited_once` states that in every
run of such credits no event is credited twice, and that any other accepted credit for a
credited event does credit it twice.  `event_credited_twice` is such a run. -/

namespace FlowMemory

open Txn OrderedMap

variable [K : Keccak] {s s' : ChainState} {tx : CreditBridgeFromBaseEvent} {id : String}
  {c : BridgeCredit}

/-! ### Events -/

/-- An event of a source chain. -/
structure SourceEvent where
  chain : ℕ ⊕ String
  contract : String
  txHash : String
  logIndex : UInt64

/-- The chain named by a text: its number, or the text itself if it is not a numeral. -/
def sourceChain (text : String) : ℕ ⊕ String :=
  match parseNumeral text with
  | some n => .inl n
  | none => .inr text

/-- The event that a reference denotes. -/
def BridgeEventReference.event (r : BridgeEventReference) : SourceEvent where
  chain := sourceChain r.sourceChainId
  contract := toAsciiLowercase r.sourceContract
  txHash := toAsciiLowercase r.txHash
  logIndex := r.logIndex

/-- The key of the event index for a reference. -/
def BridgeEventReference.key (r : BridgeEventReference) : String :=
  bridgeEventReferenceKey r.sourceChainId r.sourceContract r.txHash r.logIndex

/-- No two credits are for the same event. -/
def EventsOnce (s : ChainState) : Prop :=
  ∀ (id id' : String) (c c' : BridgeCredit), s.bridgeCredits[id]? = some c →
    s.bridgeCredits[id']? = some c' → c.eventRef.event = c'.eventRef.event → id = id'

/-! ### One transaction -/

/-- What an accepted credit writes: the credit and an entry in each index. -/
structure CreditWrite (tx : CreditBridgeFromBaseEvent) (c : BridgeCredit) (e : BridgeReplayRecord)
    (s s' : ChainState) : Prop where
  facts : BridgeFacts s tx
  id : c.bridgeCreditId = tx.bridgeCreditId
  event : c.eventRef = tx.eventRef
  replay : c.replayKey = tx.replayKey
  credits : s'.bridgeCredits = s.bridgeCredits.insert tx.bridgeCreditId c
  replays : s'.bridgeReplayIndex = s.bridgeReplayIndex.insert tx.replayKey e
  events : s'.bridgeEventReceiptIndex =
    s.bridgeEventReceiptIndex.insert tx.eventRefKey tx.receiptId

theorem creditWrite_of_ok {w : Unit}
    (h : creditBridgeFromBaseEvent tx s = (.ok w, s')) : ∃ c e, CreditWrite tx c e s s' := by
  obtain ⟨owner, r, e, s₁, s₂, hchecks, h₁, h₂, rfl⟩ := bridgeCredit_accepted h
  obtain ⟨L, T, rfl⟩ :=
    ((creditAssetUnits_balancesOnly h₁).trans (markIfLive_balancesOnly h₂)).frame
  exact ⟨_, e, bridgeFacts hchecks, rfl, rfl, rfl, rfl, rfl, rfl⟩

theorem creditWrite_of_accepted (h : Accepted (.creditBridgeFromBaseEvent tx) s) :
    ∃ c e, CreditWrite tx c e s (applyTransaction (.creditBridgeFromBaseEvent tx) s).2 :=
  creditWrite_of_ok (Prod.ext h rfl)

/-- What a transaction does to the credits and to the indexes that guard them. -/
inductive BridgeWrite (tx : Transaction) (s s' : ChainState) : Prop
  | none (hc : s'.bridgeCredits = s.bridgeCredits)
      (hr : s'.bridgeReplayIndex = s.bridgeReplayIndex)
      (he : s'.bridgeEventReceiptIndex = s.bridgeEventReceiptIndex)
  | credit {credit : CreditBridgeFromBaseEvent} {c : BridgeCredit} {e : BridgeReplayRecord}
      (htx : tx = .creditBridgeFromBaseEvent credit) (h : CreditWrite credit c e s s')

theorem bridge_write (tx : Transaction) (s : ChainState) :
    BridgeWrite tx s (applyTransaction tx s).2 := by
  rcases hrun : applyTransaction tx s with ⟨r, s'⟩
  cases tx with
  | creditBridgeFromBaseEvent tx =>
    cases r with
    | error e =>
      obtain rfl := applyTransaction_atomic _ trivial _ _ _ hrun
      exact .none rfl rfl rfl
    | ok w =>
      obtain ⟨c, e, h⟩ := creditWrite_of_ok hrun
      exact .credit rfl h
  | _ =>
    exact .none (applyTransaction_frame (f := .bridgeCredits) hrun (by simp [footprint]))
      (applyTransaction_frame (f := .bridgeReplayIndex) hrun (by simp [footprint]))
      (applyTransaction_frame (f := .bridgeEventReceiptIndex) hrun (by simp [footprint]))

/-! ### The indexes cover the credits -/

/-- Every credit is in the three indexes. -/
def CreditsIndexed (s : ChainState) : Prop :=
  ∀ (id : String) (c : BridgeCredit), s.bridgeCredits[id]? = some c →
    c.bridgeCreditId = id ∧ s.bridgeReplayIndex[c.replayKey]? ≠ none ∧
      s.bridgeEventReceiptIndex[c.eventRef.key]? ≠ none

omit K in
theorem getElem?_insert_ne_none {α : Type} {m : BTreeMap α} {k a : String} {v : α}
    (h : m[a]? ≠ none) : (m.insert k v)[a]? ≠ none := by
  rw [getElem?_insert]
  split_ifs
  · exact Option.some_ne_none _
  · exact h

theorem CreditsIndexed.step {tx : Transaction} (hs : CreditsIndexed s)
    (h : BridgeWrite tx s s') : CreditsIndexed s' := by
  unfold CreditsIndexed
  cases h with
  | none hc hr he =>
    rw [hc, hr, he]
    exact hs
  | credit htx h =>
    rw [h.credits, h.replays, h.events]
    refine forall_insert (fun id d hd => ?_) ⟨h.id, ?_, ?_⟩
    · obtain ⟨hkey, hreplayed, hseen⟩ := hs id d hd
      exact ⟨hkey, getElem?_insert_ne_none hreplayed, getElem?_insert_ne_none hseen⟩
    · rw [h.replay, insert_getElem?_self]
      exact Option.some_ne_none _
    · rw [h.event]
      exact insert_getElem?_self.trans_ne (Option.some_ne_none _)

theorem creditsIndexed_genesis : CreditsIndexed genesisState := by
  intro id c hc
  simp [genesisState] at hc

theorem creditsIndexed_of_run {ok : Transaction → ChainState → Prop}
    (h : Run ok genesisState s) : CreditsIndexed s :=
  Run.invariant h (fun tx s _ hs => hs.step (bridge_write tx s)) (fun _ _ _ _ _ _ hs => hs)
    creditsIndexed_genesis

/-! ### Recognised events -/

/-- A stored credit for the same event is met with the same spelling, the same replay key or the
same credit identifier. -/
def Recognises (s : ChainState) (tx : CreditBridgeFromBaseEvent) : Prop :=
  ∀ (id : String) (c : BridgeCredit), s.bridgeCredits[id]? = some c →
    c.eventRef.event = tx.eventRef.event →
      (c.eventRef.sourceChainId = tx.sourceChainId ∧
        c.eventRef.sourceContract = tx.sourceContract ∧ c.eventRef.txHash = tx.txHash) ∨
      c.replayKey = tx.replayKey ∨ c.bridgeCreditId = tx.bridgeCreditId

/-- Every bridge credit recognises the events that were credited before. -/
def RecognisesEvents : Transaction → ChainState → Prop
  | .creditBridgeFromBaseEvent tx, s => Recognises s tx
  | _, _ => True

/-- A credit that passes its tests and recognises the credited events is for a new one. -/
theorem event_new_of_recognises (hs : CreditsIndexed s)
    (hf : BridgeFacts s tx) (hrec : Recognises s tx)
    (hc : s.bridgeCredits[id]? = some c) : c.eventRef.event ≠ tx.eventRef.event := by
  intro hevent
  obtain ⟨hid, hreplayed, hseen⟩ := hs id c hc
  rcases hrec id c hc hevent with ⟨hchain, hcontract, hhash⟩ | hreplay | hcredit
  · have hlog : c.eventRef.logIndex = tx.logIndex := congrArg SourceEvent.logIndex hevent
    have hkey : c.eventRef.key = tx.eventRefKey := by
      rw [BridgeEventReference.key, hchain, hcontract, hhash, hlog]
      rfl
    rw [hkey] at hseen
    exact hseen hf.event_new
  · rw [hreplay] at hreplayed
    exact hreplayed hf.replay_new
  · have hnew := hf.credit_new
    rw [← hcredit, hid, hc] at hnew
    cases hnew

omit K in
/-- A new credit for the event of a stored one makes two of them. -/
theorem not_eventsOnce_insert {key : String} {d : BridgeCredit}
    (hnew : s.bridgeCredits[id]? = none) (hc : s'.bridgeCredits = s.bridgeCredits.insert id c)
    (hd : s.bridgeCredits[key]? = some d) (hevent : d.eventRef.event = c.eventRef.event) :
    ¬ EventsOnce s' := by
  intro h
  have hne : id ≠ key := by
    rintro rfl
    rw [hnew] at hd
    cases hd
  refine hne (h id key c d ?_ ?_ hevent.symm)
  · rw [hc, insert_getElem?_self]
  · rw [hc, insert_getElem?_of_ne hne, hd]

omit K in
/-- A new credit for a new event leaves one for each. -/
theorem EventsOnce.insert (ho : EventsOnce s) (hc : s'.bridgeCredits = s.bridgeCredits.insert id c)
    (hnew : ∀ (key : String) (d : BridgeCredit), s.bridgeCredits[key]? = some d →
      d.eventRef.event ≠ c.eventRef.event) : EventsOnce s' := by
  intro key key' d d' hd hd' hevent
  rw [hc, getElem?_insert] at hd hd'
  split_ifs at hd hd' with hk hk' hk'
  · exact hk.symm.trans hk'
  · obtain rfl := Option.some.inj hd
    exact absurd hevent.symm (hnew key' d' hd')
  · obtain rfl := Option.some.inj hd'
    exact absurd hevent (hnew key d hd)
  · exact ho key key' d d' hd hd' hevent

/-- An accepted credit for a credited event. -/
theorem not_eventsOnce_of_accepted (hacc : Accepted (.creditBridgeFromBaseEvent tx) s)
    (hc : s.bridgeCredits[id]? = some c) (hevent : c.eventRef.event = tx.eventRef.event) :
    ¬ EventsOnce (applyTransaction (.creditBridgeFromBaseEvent tx) s).2 := by
  obtain ⟨d, e, h⟩ := creditWrite_of_accepted hacc
  exact not_eventsOnce_insert h.facts.credit_new h.credits hc (by rw [h.event, hevent])

theorem EventsOnce.step {tx : Transaction} (ho : EventsOnce s) (hs : CreditsIndexed s)
    (hrec : RecognisesEvents tx s) (h : BridgeWrite tx s s') : EventsOnce s' := by
  cases h with
  | none hc hr he =>
    unfold EventsOnce
    rwa [hc]
  | credit htx h =>
    subst htx
    refine ho.insert h.credits fun key d hd => ?_
    rw [h.event]
    exact event_new_of_recognises hs h.facts hrec hd

/-- **One credit for each event**: in every run whose bridge credits recognise the events that
were credited before them, rejected transactions included, no event has two credits.  An
accepted credit keeps it so exactly when it recognises the credited events. -/
theorem event_credited_once :
    (∀ s, Run RecognisesEvents genesisState s → EventsOnce s) ∧
    ∀ (s : ChainState) (tx : CreditBridgeFromBaseEvent), Reachable s → EventsOnce s →
      Accepted (.creditBridgeFromBaseEvent tx) s →
        (EventsOnce (applyTransaction (.creditBridgeFromBaseEvent tx) s).2 ↔
          Recognises s tx) := by
  constructor
  · intro s hrun
    have hgenesis : EventsOnce genesisState := fun id id' c c' hc => by simp [genesisState] at hc
    refine (Run.invariant (P := fun s => CreditsIndexed s ∧ EventsOnce s) hrun
      (fun tx s htx hs => ?_) (fun _ _ _ _ _ _ hs => hs) ⟨creditsIndexed_genesis, hgenesis⟩).2
    exact ⟨hs.1.step (bridge_write tx s), hs.2.step hs.1 htx (bridge_write tx s)⟩
  · intro s tx hreach ho hacc
    constructor
    · exact fun h id c hc hevent => absurd h (not_eventsOnce_of_accepted hacc hc hevent)
    · intro h
      have hrec : RecognisesEvents (.creditBridgeFromBaseEvent tx) s := h
      exact ho.step (creditsIndexed_of_run hreach) hrec (bridge_write _ s)

/-! ### A bridge into the market -/

omit K in
/-- A hexadecimal text of equal digits. -/
def hexText (digit : Char) (n : ℕ) : String :=
  String.ofList ('0' :: 'x' :: List.replicate n digit)

omit K in
theorem toAsciiLowercase_hexText (c : Char) (n : ℕ) :
    toAsciiLowercase (hexText c n) = hexText c.toLower n := by
  simp [toAsciiLowercase, hexText]

/-- The local asset of the market stands for a token of the source chain. -/
def bridgeAsset : MapBridgeAsset where
  mappingId :=
    deterministicBridgeAssetMappingId baseMainnetChainId "USDC" localTestUnitAssetId
  sourceChainId := baseMainnetChainId
  sourceToken := "USDC"
  localAssetId := localTestUnitAssetId
  localOnly := false
  productionReady := true

/-- The account of the market receives for `r`. -/
def bridgeAccount : MapBridgeAccount where
  mappingId := deterministicBridgeAccountMappingId "r" "a"
  flowmemoryRecipient := "r"
  accountId := "a"
  owner := "a"
  localOnly := false
  productionReady := true

/-- A live credit of 50 units to the account of the market. -/
def bridgeDeposit (txHash depositId : String) : CreditBridgeFromBaseEvent :=
  let contract := hexText '1' 40
  let replayKey :=
    deterministicBridgeReplayKey baseMainnetChainId contract txHash 0 depositId
  let creditId :=
    deterministicBridgeCreditId "o" depositId replayKey baseMainnetChainId contract txHash 0
  { bridgeCreditId := creditId, receiptId := creditId, accountId := "a",
    flowmemoryRecipient := "r", assetId := localTestUnitAssetId, sourceToken := "USDC",
    amountUnits := 50, sourceChainId := baseMainnetChainId, sourceContract := contract,
    txHash, logIndex := 0, depositId, observationId := "o",
    replayKey, memo := "", localOnly := false, productionReady := true,
    confirmationProof := some
      { depth := 12, satisfied := true, latestBlockNumber := none,
        requiredConfirmedBlockNumber := none, requestedToBlock := none }
    pilotCapProof := some
      { approvedLockbox := true, operatorAcknowledged := true, noSecrets := true, maxUsd := none,
        maxDepositAmountUnits := 100, totalCapAmountUnits := 1000, pilotModeTag := none,
        supportedTokens := ["USDC"] } }

/-- The market with its bridge. -/
def bridgeState : ChainState := { marketState with
  bridgeAssetMappings := (∅ : BTreeMap BridgeAssetMapping).insert bridgeAsset.mappingId
    { mappingId := bridgeAsset.mappingId, sourceChainId := baseMainnetChainId,
      sourceToken := "USDC", localAssetId := localTestUnitAssetId, createdAtBlock := 1,
      localOnly := false, productionReady := true }
  bridgeAccountMappings := (∅ : BTreeMap BridgeAccountMapping).insert bridgeAccount.mappingId
    { mappingId := bridgeAccount.mappingId, flowmemoryRecipient := "r", accountId := "a",
      owner := "a", createdAtBlock := 1, localOnly := false, productionReady := true } }

theorem bridgeState_run :
    applyTransaction (.mapBridgeAsset bridgeAsset) marketState =
      (.ok (), { marketState with bridgeAssetMappings := bridgeState.bridgeAssetMappings }) ∧
    applyTransaction (.mapBridgeAccount bridgeAccount)
        { marketState with bridgeAssetMappings := bridgeState.bridgeAssetMappings } =
      (.ok (), bridgeState) := by
  constructor <;>
  simp [applyTransaction, mapBridgeAsset, mapBridgeAccount, bridgeAsset, bridgeAccount,
    bridgeState, marketState, genesisState, ensureValidBridgeRuntimeMode, ensureExpectedId,
    Txn.get, Txn.modify, Txn.rejectIf, Txn.ofExcept, Check.rejectIf, bind]

theorem bridgeState_acceptedReachable : AcceptedReachable bridgeState :=
  (marketState_acceptedReachable.apply bridgeState_run.1).apply bridgeState_run.2

/-- The account of the market after a live credit, before and after it is marked. -/
def creditedBalance (noValue : Bool) : LocalTestUnitBalance where
  accountId := "a"
  owner := "a"
  units := 650
  totalFaucetUnits := 1000
  lastFaucetRecordId := some "f1"
  updatedAtBlock := 1
  noValue

/-- The market after a live credit. -/
def creditedState (txHash depositId : String) : ChainState :=
  let tx := bridgeDeposit txHash depositId
  { bridgeState with
    localTestUnitBalances :=
      (∅ : BTreeMap LocalTestUnitBalance).insert "a" (creditedBalance false)
    bridgeCredits := (∅ : BTreeMap BridgeCredit).insert tx.bridgeCreditId
      (bridgeCredit bridgeState tx "a")
    bridgeCreditReceipts := (∅ : BTreeMap BridgeCreditReceipt).insert tx.receiptId
      (bridgeCreditReceipt bridgeState tx)
    bridgeReplayIndex := (∅ : BTreeMap BridgeReplayRecord).insert tx.replayKey
      { replayKey := tx.replayKey, bridgeCreditId := tx.bridgeCreditId, receiptId := tx.receiptId,
        eventRef := tx.eventRef, consumedAtBlock := 1 }
    bridgeEventReceiptIndex := (∅ : BTreeMap String).insert tx.eventRefKey tx.receiptId }

/-- A credit that passes the tests on replays passes those on itself and on the mappings. -/
theorem bridgeDeposit_checks {txHash depositId : String}
    (ha : s.bridgeAssetMappings = bridgeState.bridgeAssetMappings)
    (hr : s.bridgeAccountMappings = bridgeState.bridgeAccountMappings)
    (hb : s.localTestUnitBalances.contains "a" = true)
    (hreplay : creditBridgeReplayChecks s (bridgeDeposit txHash depositId) = .ok ()) :
    ofExcept (creditBridgeChecks s (bridgeDeposit txHash depositId)) s = (.ok "a", s) := by
  have hrequest : creditBridgeRequestChecks (bridgeDeposit txHash depositId) = .ok () := by
    simp [creditBridgeRequestChecks, bridgeDeposit, ensureValidBridgeRuntimeMode,
      ensureExpectedIdOneOf, CreditBridgeFromBaseEvent.expectedReplayKeys,
      CreditBridgeFromBaseEvent.expectedCreditIds, CreditBridgeFromBaseEvent.liveCredit,
      isLiveBridgeCredit, ensureExpectedId, validateLiveBridgeCredit, eqIgnoreAsciiCase,
      Check.rejectIf, Check.okOr, bind, Except.bind]
  have hmapping : creditBridgeMappingChecks s (bridgeDeposit txHash depositId) = .ok "a" := by
    simp [creditBridgeMappingChecks, ha, hr, hb, bridgeDeposit, bridgeState, bridgeAsset,
      bridgeAccount, CreditBridgeFromBaseEvent.assetMappingId,
      CreditBridgeFromBaseEvent.accountMappingId, Check.rejectIf, Check.okOr, bind, Except.bind,
      pure, Except.pure]
  rw [creditBridgeChecks, hrequest, hreplay, hmapping]
  rfl

theorem bridgeDeposit_run (txHash depositId : String) :
    applyTransaction (.creditBridgeFromBaseEvent (bridgeDeposit txHash depositId)) bridgeState =
      (.ok (), creditedState txHash depositId) := by
  have hreplay : creditBridgeReplayChecks bridgeState (bridgeDeposit txHash depositId) =
      .ok () := by
    simp [creditBridgeReplayChecks, bridgeState, marketState, genesisState, Check.rejectIf, bind,
      Except.bind]
  have hpass := bridgeDeposit_checks rfl rfl (by simp [bridgeState, marketState]) hreplay
  have hunits : creditAssetUnits (bridgeDeposit txHash depositId).accountId
      (bridgeDeposit txHash depositId).assetId (bridgeDeposit txHash depositId).amountUnits
      bridgeState = (.ok (), { bridgeState with
        localTestUnitBalances :=
          (∅ : BTreeMap LocalTestUnitBalance).insert "a" (creditedBalance true) }) := by
    simp [creditAssetUnits, bridgeDeposit, bridgeState, marketState, genesisState,
      creditedBalance, checkedAdd, Txn.get, Txn.modify, Txn.rejectIf, Txn.okOr, bind, insert_insert]
  change creditBridgeFromBaseEvent _ _ = _
  rw [creditBridgeFromBaseEvent, get_bind, bind_of_ok hpass, bind_of_ok hunits]
  simp only [markIfLive, bridgeDeposit, CreditBridgeFromBaseEvent.liveCredit, isLiveBridgeCredit,
    markAssetBalanceValueBearing, Bool.not_false, Bool.and_self, if_true, modify_bind,
    update_insert]
  rfl

theorem creditedState_credit (txHash depositId : String) :
    (creditedState txHash depositId).bridgeCredits[
        (bridgeDeposit txHash depositId).bridgeCreditId]? =
      some (bridgeCredit bridgeState (bridgeDeposit txHash depositId) "a") :=
  insert_getElem?_self

/-- Deposits whose transaction hashes differ in letter case only are for the same event. -/
theorem bridgeDeposit_event {x x' d d' : String} (h : toAsciiLowercase x = toAsciiLowercase x') :
    (bridgeCredit s (bridgeDeposit x d) "a").eventRef.event =
      (bridgeDeposit x' d').eventRef.event := by
  simp only [bridgeCredit, bridgeDeposit, CreditBridgeFromBaseEvent.eventRef,
    BridgeEventReference.event, h]

/-- A second credit with identifiers of its own passes every test. -/
theorem respelled_deposit_accepted {x x' d d' : String}
    (h₁ : (bridgeDeposit x d).replayKey ≠ (bridgeDeposit x' d').replayKey)
    (h₂ : (bridgeDeposit x d).bridgeCreditId ≠ (bridgeDeposit x' d').bridgeCreditId)
    (h₃ : (bridgeDeposit x d).eventRefKey ≠ (bridgeDeposit x' d').eventRefKey) :
    Accepted (.creditBridgeFromBaseEvent (bridgeDeposit x' d')) (creditedState x d) := by
  have hreplay : creditBridgeReplayChecks (creditedState x d) (bridgeDeposit x' d') = .ok () := by
    have hid (y e : String) : (bridgeDeposit y e).receiptId = (bridgeDeposit y e).bridgeCreditId :=
      rfl
    simp [creditBridgeReplayChecks, creditedState, hid, h₁, h₂, h₃, Check.rejectIf, bind,
      Except.bind]
  have hpass := bridgeDeposit_checks (s := creditedState x d) rfl rfl (by simp [creditedState]) hreplay
  obtain ⟨s₁, hunits⟩ : ∃ s₁, creditAssetUnits (bridgeDeposit x' d').accountId
      (bridgeDeposit x' d').assetId (bridgeDeposit x' d').amountUnits (creditedState x d) =
        (.ok (), s₁) := by
    simp [creditAssetUnits, bridgeDeposit, creditedState, creditedBalance, checkedAdd, Txn.get,
      Txn.modify, Txn.rejectIf, Txn.okOr, bind]
  change (creditBridgeFromBaseEvent _ _).1 = _
  rw [creditBridgeFromBaseEvent, get_bind, bind_of_ok hpass, bind_of_ok hunits]
  rfl

omit K

/-- The second credit differs in its deposit identifier and in the case of the letters of the
transaction hash; both are accepted. -/
theorem event_credited_twice :
    letI : Keccak := keccak256
    let tx := bridgeDeposit (hexText 'A' 64) "2"
    let s := creditedState (hexText 'a' 64) "1"
    AcceptedReachable s ∧ Accepted (.creditBridgeFromBaseEvent tx) s ∧
      ¬ EventsOnce (applyTransaction (.creditBridgeFromBaseEvent tx) s).2 := by
  let _ : Keccak := keccak256
  intro tx s
  have hacc : Accepted (.creditBridgeFromBaseEvent tx) s :=
    respelled_deposit_accepted (by decide +kernel) (by decide +kernel) (by decide +kernel)
  refine ⟨bridgeState_acceptedReachable.apply (bridgeDeposit_run _ _), hacc, ?_⟩
  have hlower : toAsciiLowercase (hexText 'a' 64) = toAsciiLowercase (hexText 'A' 64) := by
    rw [toAsciiLowercase_hexText, toAsciiLowercase_hexText, show 'a'.toLower = 'A'.toLower by decide]
  exact not_eventsOnce_of_accepted hacc (creditedState_credit _ _) (bridgeDeposit_event hlower)

end FlowMemory
