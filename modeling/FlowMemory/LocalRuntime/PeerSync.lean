import FlowMemory.Lib.Preference
import FlowMemory.LocalRuntime.BuildBlock

/-! # Synchronisation with static peers

A node reads the state files of its peers one after the other.  A peer with another chain
identifier is skipped.  A peer with more blocks is adopted, and so is a peer with as many blocks
and a smaller state root: the node then replaces its **whole state**, queue included.

**Fork choice.**  Height and state root are all that is compared.  The state root commits
neither to the blocks nor to the head, so two nodes can have equal heights, equal roots and
different heads, and then neither adopts the other's state.  `sync_converges` shows that this is
the only way in which two nodes stay apart; `heads_stay_apart` is a pair of such nodes.

**The queue.**  `queued_kept_iff` says when every queued transaction survives: the peer that is
adopted must have it in its own queue or in a block.  `queued_transaction_lost` is a node that
loses one. -/

namespace FlowMemory

open Txn

variable {ε : Type}

/-! ### The model -/

structure StaticPeer where
  (nodeId statePath : String)

structure PeerSyncEvent where
  (peerId peerStatePath : String)
  adoptedBlockHeight : ℕ
  adoptedStateRoot : String

/-- The state files: a path may not exist, and what is there may fail to load. -/
def StateFiles (ε : Type) : Type := String → Option (Except ε ChainState)

section keccak

variable [K : Keccak] {files : StateFiles ε} {peer : StaticPeer} {s : ChainState}

def shouldAdoptPeerState (local_ peer : ChainState) : Bool :=
  if peer.blocks.length > local_.blocks.length then true
  else if peer.blocks.length = local_.blocks.length ∧ peer.blocks.length > 0 then
    stateRoot peer < stateRoot local_
  else false

/-- The loop over the peers, with the last adoption so far. -/
def syncLoop (files : StateFiles ε) (adopted : Option PeerSyncEvent) :
    List StaticPeer → Txn ChainState ε (Option PeerSyncEvent)
  | [] => pure adopted
  | peer :: rest =>
    match files peer.statePath with
    | none => syncLoop files adopted rest
    | some loaded => do
        let peerState ← ofExcept loaded
        let s ← get
        if peerState.chainId ≠ s.chainId then syncLoop files adopted rest
        else if shouldAdoptPeerState s peerState then do
          modify fun _ => peerState
          syncLoop files (some
            { peerId := peer.nodeId, peerStatePath := peer.statePath,
              adoptedBlockHeight := peerState.blocks.length,
              adoptedStateRoot := stateRoot peerState }) rest
        else syncLoop files adopted rest

def syncFromPeers (files : StateFiles ε) (peers : List StaticPeer) :
    Txn ChainState ε (Option PeerSyncEvent) := syncLoop files none peers

/-! ### What a node holds afterwards -/

/-- The states that a node with the given chain identifier compares itself with: those of the
peers that exist and load, up to the first one that does not load. -/
def peerStates (files : StateFiles ε) (chainId : String) : List StaticPeer → List ChainState
  | [] => []
  | peer :: rest =>
    match files peer.statePath with
    | none => peerStates files chainId rest
    | some (.error _) => []
    | some (.ok peerState) =>
      if peerState.chainId ≠ chainId then peerStates files chainId rest
      else peerState :: peerStates files chainId rest

/-- The peer is preferred. -/
def Preferred (s peer : ChainState) : Prop := shouldAdoptPeerState s peer = true

instance : DecidableRel (Preferred (K := K)) := fun _ _ => inferInstanceAs (Decidable (_ = true))

theorem syncLoop_loaded {adopted : Option PeerSyncEvent} {rest : List StaticPeer}
    {peerState : ChainState}
    (h : files peer.statePath = some (.ok peerState)) :
    syncLoop files adopted (peer :: rest) s =
      if peerState.chainId ≠ s.chainId then syncLoop files adopted rest s
      else if shouldAdoptPeerState s peerState then
        syncLoop files (some
          { peerId := peer.nodeId, peerStatePath := peer.statePath,
            adoptedBlockHeight := peerState.blocks.length,
            adoptedStateRoot := stateRoot peerState }) rest peerState
      else syncLoop files adopted rest s := by
  simp only [syncLoop, h]
  change (if _ then _ else if _ then _ else _ : Txn ChainState ε _) s = _
  split_ifs <;> rfl

/-- The node ends with the first best of the states it compares itself with, or with its own. -/
theorem syncLoop_state (files : StateFiles ε) (peers : List StaticPeer)
    (adopted : Option PeerSyncEvent) (s : ChainState) :
    (syncLoop files adopted peers s).2 =
      preferAll Preferred s (peerStates files s.chainId peers) := by
  induction peers generalizing s adopted with
  | nil => rfl
  | cons peer rest ih =>
    rcases hfile : files peer.statePath with _ | e | peerState
    · simp only [syncLoop, peerStates, hfile]
      exact ih adopted s
    · simp only [syncLoop, peerStates, hfile]
      rfl
    · rw [syncLoop_loaded hfile]
      simp only [peerStates, hfile]
      split_ifs with hchain hpref
      · exact ih adopted s
      · -- the adopted state has the same chain identifier
        rw [ih, preferAll_cons, prefer, if_pos (show Preferred s peerState from hpref),
          not_not.mp hchain]
      · rw [ih, preferAll_cons, prefer, if_neg (show ¬ Preferred s peerState from hpref)]

/-! ### The order of the fork choice -/

variable {a b c : ChainState}

theorem preferred_iff : Preferred a b ↔ a.blocks.length < b.blocks.length ∨
    a.blocks.length = b.blocks.length ∧ 0 < b.blocks.length ∧ stateRoot b < stateRoot a := by
  unfold Preferred shouldAdoptPeerState
  split_ifs with hlt heq
  · simp [hlt]
  · simp [heq.1, heq.1 ▸ heq.2]
  · simp only [false_iff]
    rintro (h | ⟨h, hpos, -⟩)
    · exact hlt h
    · exact heq ⟨h.symm, hpos⟩

theorem Preferred.trans (hab : Preferred a b) (hbc : Preferred b c) : Preferred a c := by
  rw [preferred_iff] at hab hbc ⊢
  rcases hab with hab | ⟨hab, -, hr⟩
  · left
    omega
  · rcases hbc with hbc | ⟨hbc, hpos, hr'⟩
    · left
      omega
    · exact Or.inr ⟨hab.trans hbc, hpos, String.lt_trans hr' hr⟩

theorem Preferred.or (hac : Preferred a c) : Preferred a b ∨ Preferred b c := by
  rw [preferred_iff] at hac
  rw [preferred_iff, preferred_iff]
  rcases Nat.lt_trichotomy a.blocks.length b.blocks.length with hlt | heq | hgt
  · exact Or.inl (Or.inl hlt)
  · rcases hac with hac | ⟨hac, hpos, hr⟩
    · exact Or.inr (Or.inl (by omega))
    · by_cases hr' : stateRoot b < stateRoot a
      · exact Or.inl (Or.inr ⟨heq, by omega, hr'⟩)
      · refine Or.inr (Or.inr ⟨by omega, hpos, String.not_le.mp fun hle => ?_⟩)
        exact String.not_le.mpr hr (String.le_trans (String.not_lt.mp hr') hle)
  · exact Or.inr (Or.inl (by omega))

/-- Two states neither of which is preferred to the other. -/
theorem not_preferred_iff (hpos : 0 < a.blocks.length) :
    ¬ Preferred a b ∧ ¬ Preferred b a ↔
      a.blocks.length = b.blocks.length ∧ stateRoot a = stateRoot b := by
  rw [preferred_iff, preferred_iff]
  constructor
  · rintro ⟨hab, hba⟩
    have hlen : a.blocks.length = b.blocks.length := by omega
    refine ⟨hlen, String.le_antisymm ?_ ?_⟩
    · exact String.not_lt.mp fun hlt => hab (Or.inr ⟨hlen, hlen ▸ hpos, hlt⟩)
    · exact String.not_lt.mp fun hlt => hba (Or.inr ⟨hlen.symm, hpos, hlt⟩)
  · rintro ⟨hlen, hroot⟩
    rw [hlen, hroot]
    simp

/-! ### Convergence -/

/-- The nodes have the same head. -/
def SameHead (a b : ChainState) : Prop :=
  a.blocks.length = b.blocks.length ∧ a.parentHash = b.parentHash

/-- Two nodes that look at each other once. -/
theorem sameHead_exchange (hpos : 0 < a.blocks.length) :
    SameHead (prefer Preferred a b) (prefer Preferred b (prefer Preferred a b)) ↔
      ¬ (a.blocks.length = b.blocks.length ∧ stateRoot a = stateRoot b ∧
        a.parentHash ≠ b.parentHash) := by
  by_cases hab : Preferred a b
  · have hne : ¬ (a.blocks.length = b.blocks.length ∧ stateRoot a = stateRoot b) :=
      fun h => ((not_preferred_iff hpos).mpr h).1 hab
    have hself : prefer Preferred b b = b := ite_self b
    rw [prefer, if_pos hab, hself]
    exact iff_of_true ⟨rfl, rfl⟩ fun h => hne ⟨h.1, h.2.1⟩
  · rw [show prefer Preferred a b = a from if_neg hab]
    by_cases hba : Preferred b a
    · have hne : ¬ (a.blocks.length = b.blocks.length ∧ stateRoot a = stateRoot b) :=
        fun h => ((not_preferred_iff hpos).mpr h).2 hba
      rw [prefer, if_pos hba]
      exact iff_of_true ⟨rfl, rfl⟩ fun h => hne ⟨h.1, h.2.1⟩
    · obtain ⟨hlen, hroot⟩ := (not_preferred_iff hpos).mp ⟨hab, hba⟩
      rw [prefer, if_neg hba]
      simp [SameHead, hlen, hroot]

/-- The state after looking at one readable peer of the same chain. -/
theorem syncFromPeers_one
    (h : files peer.statePath = some (.ok b)) (hchain : b.chainId = a.chainId) :
    (syncFromPeers files [peer] a).2 = prefer Preferred a b := by
  have hpeers : peerStates files a.chainId [peer] = [b] := by simp [peerStates, h, hchain]
  rw [syncFromPeers, syncLoop_state, hpeers]
  rfl

theorem prefer_chainId (h : b.chainId = a.chainId) :
    (prefer Preferred a b).chainId = a.chainId := by
  rw [prefer]
  split_ifs
  · exact h
  · rfl

/-- **Convergence**: two nodes with blocks of one chain, of which the first looks at the second
and then the second at the first, have the same head unless they started with equal heights,
equal state roots and different heads. -/
theorem sync_converges {files files' : StateFiles ε} {toB toA : StaticPeer}
    (hchain : a.chainId = b.chainId) (ha : 0 < a.blocks.length)
    (hb : files toB.statePath = some (.ok b))
    (ha' : files' toA.statePath = some (.ok (syncFromPeers files [toB] a).2)) :
    SameHead (syncFromPeers files [toB] a).2 (syncFromPeers files' [toA] b).2 ↔
      ¬ (a.blocks.length = b.blocks.length ∧ stateRoot a = stateRoot b ∧
        a.parentHash ≠ b.parentHash) := by
  have hfirst := syncFromPeers_one hb hchain.symm
  rw [hfirst] at ha'
  have hsecond := syncFromPeers_one ha' ((prefer_chainId hchain.symm).trans hchain)
  rw [hfirst, hsecond]
  exact sameHead_exchange ha

/-! ### The queue -/

/-- The envelopes queued in `s` are queued in `r` or in one of its blocks. -/
def QueueKept (s r : ChainState) : Prop :=
  ∀ e ∈ s.pendingTxs, e ∈ r.pendingTxs ∨ ∃ block ∈ r.blocks, e.txId ∈ block.txIds

/-- **The queue**: no queued transaction is lost exactly when the first best of the peers that
are preferred, if there is one, has them all. -/
theorem queued_kept_iff (files : StateFiles ε) (peers : List StaticPeer) (s : ChainState) :
    QueueKept s (syncFromPeers files peers s).2 ↔
      ∀ peer, FirstBest Preferred s (peerStates files s.chainId peers) peer →
        QueueKept s peer := by
  have hself : QueueKept s s := fun e he => Or.inl he
  rw [syncFromPeers, syncLoop_state]
  refine preferAll_iff (P := QueueKept s) ?_ ?_ hself
  · exact fun _ _ _ => Preferred.trans
  · exact fun _ _ _ => Preferred.or

/-! ### A node with a rejected transaction and an idle node -/

/-- A transfer from an account that does not exist. -/
def strayTransfer : Transaction :=
  .transferLocalTestUnits
    { transferId := "t", fromAccountId := "a", toAccountId := "b", amountUnits := 1, memo := "" }

/-- A node with the transfer in its queue. -/
def queuedState : ChainState := queueTransaction strayTransfer genesisState

/-- The node after it sealed a block. -/
def busyState : ChainState := (buildBlock queuedState).2

/-- A node that sealed an empty block. -/
def idleState : ChainState := (buildBlock genesisState).2

/-- The receipt of the transfer. -/
def strayReceipt : BlockReceipt :=
  blockReceipt (envelopeTx strayTransfer) (.error (.localTestUnitBalanceMissing "a"))

theorem strayTransfer_run : applyTransaction strayTransfer genesisState =
    (.error (.localTestUnitBalanceMissing "a"), genesisState) := by
  simp [strayTransfer, applyTransaction, transferLocalTestUnits, genesisState, Txn.get,
    Txn.rejectIf, Txn.okOr, bind]

theorem busyState_eq : busyState =
    pushBlock genesisState (newBlock genesisState [(envelopeTx strayTransfer).txId] [strayReceipt]) := by
  have hdrain : drainQueue queuedState = ([strayReceipt], genesisState) := by
    change applyEnvelopes [envelopeTx strayTransfer] genesisState = _
    simp only [applyEnvelopes]
    rw [show (envelopeTx strayTransfer).tx = strayTransfer from rfl, strayTransfer_run]
    rfl
  rw [busyState, buildBlock, hdrain]
  rfl

theorem idleState_eq : idleState = pushBlock genesisState (newBlock genesisState [] []) := rfl

/-- A block with transactions is hashed to another value than one without. -/
theorem newBlock_hash_ne (hK : CollisionFree K) {id : String}
    {ids : List String} {receipts : List BlockReceipt} :
    (newBlock s (id :: ids) receipts).blockHash ≠ (newBlock s [] []).blockHash := by
  intro h
  have hm := hashJson_obj_inj hK h rfl (by simp)
  simp [Json.normalizeMembers, Json.normalizeValue, Json.normalizeElems, Serialize.toJson] at hm

/-- The state root does not depend on the head. -/
theorem stateRoot_pushBlock (s : ChainState) (block : Block) :
    stateRoot (pushBlock s block) = stateRoot s := rfl

/-- Files that all hold one state. -/
def nodeFiles (s : ChainState) : StateFiles String := fun _ => some (.ok s)

/-- The peer of a node with one peer. -/
def onlyPeer : StaticPeer := ⟨"peer", "peer/state.json"⟩

/-- The two nodes stay apart whatever the hash function, if it has no collisions. -/
theorem busy_idle_apart (hK : CollisionFree K) :
    let a := (syncFromPeers (nodeFiles idleState) [onlyPeer] busyState).2
    let b := (syncFromPeers (nodeFiles a) [onlyPeer] idleState).2
    ¬ SameHead a b := by
  intro a b
  have hchain : idleState.chainId = busyState.chainId := by
    rw [busyState_eq]
    rfl
  have ha : a = prefer Preferred busyState idleState := syncFromPeers_one rfl hchain
  have hb : b = prefer Preferred idleState a := by
    refine syncFromPeers_one rfl ?_
    rw [ha, prefer_chainId hchain, hchain]
  rw [hb, ha, sameHead_exchange (by rw [busyState_eq]; exact Nat.one_pos), not_not, busyState_eq,
    idleState_eq, stateRoot_pushBlock, stateRoot_pushBlock]
  exact ⟨rfl, rfl, newBlock_hash_ne hK⟩

end keccak

theorem operatorDigests_collisionFree : CollisionFree (tableKeccak operatorDigests) :=
  tableKeccak_collisionFree (by decide +kernel) (by decide +kernel)

/-- A node with one empty block and a node with two of them agree on the longer chain. -/
theorem idle_nodes_converge :
    letI : Keccak := tableKeccak operatorDigests
    let a := (syncFromPeers (nodeFiles (buildBlock idleState).2) [onlyPeer] idleState).2
    SameHead a (syncFromPeers (nodeFiles a) [onlyPeer] (buildBlock idleState).2).2 := by
  generalize tableKeccak operatorDigests = K
  intro a
  refine (sync_converges (a := idleState) (b := (buildBlock idleState).2) ?_ ?_ ?_ ?_).mpr ?_
  · rfl
  · exact Nat.one_pos
  · rfl
  · rfl
  · rintro ⟨hlen, -⟩
    have htwo : 1 = 2 := hlen
    omega

/-- One node sealed a rejected transaction and the other one nothing: the heights and the state
roots are equal, and the heads stay different. -/
theorem heads_stay_apart :
    letI : Keccak := tableKeccak operatorDigests
    let a := (syncFromPeers (nodeFiles idleState) [onlyPeer] busyState).2
    let b := (syncFromPeers (nodeFiles a) [onlyPeer] idleState).2
    Reachable busyState ∧ Reachable idleState ∧ busyState.chainId = idleState.chainId ∧
      busyState.blocks.length = 1 ∧ idleState.blocks.length = 1 ∧ ¬ SameHead a b := by
  have hK := operatorDigests_collisionFree
  generalize tableKeccak operatorDigests = K at hK
  refine ⟨?_, ?_, ?_, ?_, rfl, busy_idle_apart hK⟩
  · exact .head (.queue _ _) (run_buildBlock (admits_true _ _))
  · exact run_buildBlock (admits_true _ _)
  · rw [busyState_eq]
    rfl
  · rw [busyState_eq]
    rfl

/-- A node with a queued transaction adopts the state of a node with one empty block, and the
transaction is gone. -/
theorem queued_transaction_lost :
    letI : Keccak := tableKeccak operatorDigests
    Reachable queuedState ∧ Reachable idleState ∧
      ¬ QueueKept queuedState (syncFromPeers (nodeFiles idleState) [onlyPeer] queuedState).2 := by
  generalize tableKeccak operatorDigests = K
  refine ⟨.head (.queue _ _) .refl, run_buildBlock (admits_true _ _), fun hkept => ?_⟩
  have hpref : Preferred queuedState idleState := preferred_iff.mpr (Or.inl Nat.one_pos)
  have hsync : (syncFromPeers (nodeFiles idleState) [onlyPeer] queuedState).2 =
      prefer Preferred queuedState idleState := syncFromPeers_one rfl rfl
  rw [hsync, prefer, if_pos hpref] at hkept
  rcases hkept (envelopeTx strayTransfer) List.mem_cons_self with hmem | ⟨block, hmem, hid⟩
  · exact List.not_mem_nil hmem
  · obtain rfl := List.mem_singleton.mp hmem
    exact List.not_mem_nil hid

end FlowMemory
