import FlowMemory.Lib.RecordChain
import FlowMemory.LocalRuntime.PeerSync

/-! # Nodes that share state files

Processes load a state file, queue transactions, adopt the states of peers, seal blocks and save.
Files are not locked, so the steps of processes interleave in any order and a file may hold any state
that some process held.  `Held` are all states that come about in this way.

* **Blocks form one chain** from genesis, with the head after the last one (`held_chained`).
* **The head determines the blocks**, receipts included (`same_head_same_blocks`).
* **Nothing queued is lost** as long as no other state is adopted (`queued_in_blocks`). -/

namespace FlowMemory

open Serialize Json

variable {ε : Type} {s t : ChainState}

section keccak

variable [K : Keccak]

/-- What a process does with the state that it holds. -/
inductive NodeAction where
  | queue (envelope : TxEnvelope)
  | buildBlock

def NodeAction.run : NodeAction → ChainState → ChainState
  | .queue envelope, s => { s with pendingTxs := s.pendingTxs ++ [envelope] }
  | .buildBlock, s => (FlowMemory.buildBlock s).2

/-- The states that processes and files hold. -/
inductive Held (ε : Type) : ChainState → Prop
  | genesis : Held ε genesisState
  | run {s : ChainState} (a : NodeAction) (hs : Held ε s) : Held ε (a.run s)
  | sync {s : ChainState} {files : StateFiles ε} (peers : List StaticPeer) (hs : Held ε s)
      (hfiles : ∀ path t, files path = some (.ok t) → Held ε t) :
      Held ε (syncFromPeers files peers s).2

/-! ### Sealing a block -/

/-- The number, the time and the parent of the next block. -/
structure Head where
  (nextBlockNumber logicalTime : UInt64)
  parentHash : String

def ChainState.head (s : ChainState) : Head := ⟨s.nextBlockNumber, s.logicalTime, s.parentHash⟩

/-- The head that a block was sealed on. -/
def Block.before (b : Block) : Head := ⟨b.blockNumber, b.logicalTime, b.parentHash⟩

/-- The head that a block leaves. -/
def Block.next (b : Block) : Head := ⟨b.blockNumber + 1, b.logicalTime + 1, b.blockHash⟩

/-- The bytes hashed for a block. -/
def blockPreimage (b : Block) : List UInt8 :=
  jsonPreimage "flowmemory.local_runtime.block_hash.v0" (toJson { b with blockHash := zeroHash })

/-- The block has its own hash and one receipt for each of its transactions. -/
structure Block.Sealed (b : Block) : Prop where
  blockHash : b.blockHash = keccakHex (blockPreimage b)
  receipts : b.receipts.map (·.txId) = b.txIds

/-- Transactions change neither the head nor the blocks nor the queue. -/
theorem applyEnvelopes_frame (envelopes : List TxEnvelope) (s : ChainState) {f : Field}
    (hf : f ∈ [.nextBlockNumber, .logicalTime, .parentHash, .blocks, .pendingTxs]) :
    f.Same s (applyEnvelopes envelopes s).2 := by
  induction envelopes generalizing s with
  | nil => exact f.same_refl s
  | cons envelope rest ih =>
    have hnot : f ∉ footprint envelope.tx := by
      simp only [List.mem_cons, List.not_mem_nil, or_false] at hf
      rcases hf with rfl | rfl | rfl | rfl | rfl <;> cases envelope.tx <;> simp [footprint]
    exact Field.same_trans (applyTransaction_writes envelope.tx s f hnot) (ih _)

theorem applyEnvelopes_receipts (envelopes : List TxEnvelope) (s : ChainState) :
    (applyEnvelopes envelopes s).1.map (·.txId) = envelopes.map (·.txId) := by
  induction envelopes generalizing s with
  | nil => rfl
  | cons envelope rest ih => exact congrArg (envelope.txId :: ·) (ih _)

/-- What sealing a block does. -/
theorem buildBlock_spec (s : ChainState) : ∃ b : Block, (buildBlock s).2.blocks = s.blocks ++ [b] ∧
    (buildBlock s).2.head = b.next ∧ b.before = s.head ∧ b.Sealed ∧
    b.txIds = s.pendingTxs.map (·.txId) ∧ (buildBlock s).2.pendingTxs = [] := by
  have hframe (f : Field) (hf : f ∈ [.nextBlockNumber, .logicalTime, .parentHash, .blocks,
      .pendingTxs]) : f.Same { s with pendingTxs := [] } (drainQueue s).2 :=
    applyEnvelopes_frame s.pendingTxs _ hf
  have hnumber := hframe .nextBlockNumber (by simp)
  have htime := hframe .logicalTime (by simp)
  have hparent := hframe .parentHash (by simp)
  have hblocks := hframe .blocks (by simp)
  have hhead : (drainQueue s).2.head = s.head := by
    rw [ChainState.head, hnumber, htime, hparent]
    rfl
  exact ⟨(buildBlock s).1, congrArg (· ++ _) hblocks, rfl, hhead,
    ⟨rfl, applyEnvelopes_receipts _ _⟩, rfl, hframe .pendingTxs (by simp)⟩

/-! ### Nothing queued is lost -/

/-- The identifiers of the transactions in the blocks and in the queue. -/
def recordedIds (s : ChainState) : List String :=
  s.blocks.flatMap (·.txIds) ++ s.pendingTxs.map (·.txId)

/-- The identifiers of the transactions that an action queues. -/
def NodeAction.queuedIds : NodeAction → List String
  | .queue envelope => [envelope.txId]
  | .buildBlock => []

/-- **Nothing queued is lost**: whatever a process does, its blocks stay, and its blocks and its queue
list the transactions that they listed before and those queued since, once and in order. -/
theorem queued_in_blocks (actions : List NodeAction) (s : ChainState) :
    s.blocks <+: (actions.foldl (fun s a => a.run s) s).blocks ∧
      recordedIds (actions.foldl (fun s a => a.run s) s) =
        recordedIds s ++ actions.flatMap NodeAction.queuedIds := by
  induction actions generalizing s with
  | nil => simp
  | cons a actions ih =>
    have hstep : s.blocks <+: (a.run s).blocks ∧
        recordedIds (a.run s) = recordedIds s ++ a.queuedIds := by
      cases a with
      | queue envelope => simp [NodeAction.run, NodeAction.queuedIds, recordedIds]
      | buildBlock =>
        obtain ⟨b, hblocks, -, -, -, hids, hqueue⟩ := buildBlock_spec s
        simp [NodeAction.run, NodeAction.queuedIds, recordedIds, hblocks, hids, hqueue]
    obtain ⟨hblocks, hids⟩ := ih (a.run s)
    rw [List.foldl_cons, hids, hstep.2, List.flatMap_cons, List.append_assoc]
    exact ⟨hstep.1.trans hblocks, rfl⟩

/-! ### Blocks form one chain -/

/-- The blocks follow each other from genesis, and the head is the one after the last of them. -/
structure ChainState.Chained (s : ChainState) : Prop where
  linked : Linked Block.next Block.before genesisState.head s.blocks.reverse
  head : s.head = newestId Block.next genesisState.head s.blocks.reverse
  sealed : ∀ b ∈ s.blocks, b.Sealed

theorem genesis_chained : genesisState.Chained := ⟨trivial, rfl, nofun⟩

theorem ChainState.Chained.run (hs : s.Chained) (a : NodeAction) : (a.run s).Chained := by
  cases a with
  | queue envelope => exact ⟨hs.linked, hs.head, hs.sealed⟩
  | buildBlock =>
    obtain ⟨b, hblocks, hhead, hbefore, hsealed, -⟩ := buildBlock_spec s
    refine ⟨?_, ?_, ?_⟩ <;> simp only [NodeAction.run, hblocks, List.reverse_concat]
    · exact ⟨hbefore.trans hs.head, hs.linked⟩
    · exact hhead
    · simpa [or_imp, forall_and] using ⟨hs.sealed, hsealed⟩

omit K in
theorem mem_peerStates {files : StateFiles ε} {chainId : String} {peers : List StaticPeer}
    (h : s ∈ peerStates files chainId peers) : ∃ path, files path = some (.ok s) := by
  induction peers with
  | nil => cases h
  | cons peer rest ih =>
    rcases hfile : files peer.statePath with _ | e | peerState <;> simp only [peerStates, hfile] at h
    · exact ih h
    · cases h
    · split_ifs at h
      · exact ih h
      · rcases List.mem_cons.mp h with rfl | h
        · exact ⟨_, hfile⟩
        · exact ih h

/-- **Blocks form one chain** in every state that a process or a file holds. -/
theorem held_chained (h : Held ε s) : s.Chained := by
  induction h with
  | genesis => exact genesis_chained
  | run a _ ih => exact ih.run a
  | @sync s files peers _ _ ih hfiles =>
    rw [syncFromPeers, syncLoop_state]
    rcases preferAll_mem Preferred s (peerStates files s.chainId peers) with heq | hmem
    · rwa [heq]
    · obtain ⟨path, hfile⟩ := mem_peerStates hmem
      exact hfiles path _ hfile

/-- What a process does one after the other. -/
def runAll (actions : List NodeAction) (s : ChainState) : ChainState :=
  actions.foldl (fun s a => a.run s) s

theorem runAll_invariant {P : ChainState → Prop} (hstep : ∀ a s, P s → P (NodeAction.run a s))
    (actions : List NodeAction) (hs : P s) : P (runAll actions s) := by
  induction actions generalizing s with
  | nil => exact hs
  | cons a actions ih => exact ih (hstep a s hs)

/-- A block with a transfer that is rejected and an account that is opened. -/
def firstSeal : List NodeAction :=
  [.queue (envelopeTx strayTransfer),
    .queue (envelopeTx (.createLocalTestUnitBalance { accountId := "a", owner := "a" })), .buildBlock]

/-- A block with another account. -/
def secondSeal : List NodeAction :=
  [.queue (envelopeTx (.createLocalTestUnitBalance { accountId := "b", owner := "b" })), .buildBlock]

/-- The state file of a process that sealed the first block. -/
def peerFiles : StateFiles String := fun _ => some (.ok (runAll firstSeal genesisState))

/-- A process that adopts the first block, seals the second and has a transfer in its queue. -/
def adoptingState : ChainState := (NodeAction.queue (envelopeTx strayTransfer)).run
  (runAll secondSeal (syncFromPeers peerFiles [⟨"peer", "state.json"⟩] genesisState).2)

omit K in
theorem held_chained_sample : let _ : Keccak := keccak256
    adoptingState.blocks.map (fun b => b.receipts.map (·.status)) =
        [["rejected", "applied"], ["applied"]] ∧
      adoptingState.Chained := by
  let _ : Keccak := keccak256
  have hrun (actions : List NodeAction) {s : ChainState} (hs : Held String s) :
      Held String (runAll actions s) := runAll_invariant (fun a _ => .run a) actions hs
  refine ⟨by decide +kernel, held_chained (.run _ (hrun _ (.sync _ .genesis fun _ _ hfile => ?_)))⟩
  cases hfile
  exact hrun _ .genesis

/-! ### The head determines the blocks -/

section json

omit K

theorem authorization_inj {a b : LocalAuthorization}
    (h : normalizeValue (toJson a) = normalizeValue (toJson b)) : a = b := by
  change normalizeValue (.obj _) = normalizeValue (.obj _) at h
  rw [normalizeValue_obj_inj (by rfl) (by simp)] at h
  simpa [normalizeMembers, toJson, normalizeValue, ← LocalAuthorization.mk.injEq] using h

theorem error_inj {e e' : Option String}
    (h : normalizeValue (toJson e) = normalizeValue (toJson e')) : e = e' := by
  cases e <;> cases e' <;> simp_all [toJson, normalizeValue]

theorem receipt_inj (r q : BlockReceipt)
    (h : normalizeValue (toJson r) = normalizeValue (toJson q)) : r = q := by
  obtain ⟨txId, status, error, a⟩ := r
  obtain ⟨txId', status', error', b⟩ := q
  have hlength := (normalizeValue_obj_perm h).length_eq
  change normalizeValue (.obj _) = normalizeValue (.obj _) at h
  cases a <;> cases b
  case none.some | some.none => simp [optional, normalizeMembers] at hlength
  all_goals
    rw [normalizeValue_obj_inj (by rfl) (by simp [optional])] at h
    simp only [optional, Option.elim, List.cons_append, List.nil_append, normalizeMembers,
      List.cons.injEq, Prod.mk.injEq, true_and, and_true] at h
    obtain rfl := Json.str.inj h.1
    obtain rfl := Json.str.inj h.2.1
  · rw [error_inj h.2.2]
  · rw [error_inj h.2.2.1, authorization_inj h.2.2.2]

theorem block_inj {b c : Block} (h : blockPreimage b = blockPreimage c)
    (hhash : b.blockHash = c.blockHash) : b = c := by
  have hm := jsonPreimage_inj.mp h
  change canonicalJson (.obj _) = canonicalJson (.obj _) at hm
  rw [canonicalJson_obj_inj (by rfl) (by simp)] at hm
  simp only [normalizeMembers, List.cons.injEq, Prod.mk.injEq, true_and, and_true] at hm
  obtain ⟨hschema, hnumber, hparent, htime, hids, hreceipts, hroot⟩ := hm
  have hids : b.txIds = c.txIds :=
    normalizeElems_inj (f := Json.str) (fun _ _ h => Json.str.inj h) (Json.arr.inj hids)
  have hreceipts := normalizeElems_inj receipt_inj (Json.arr.inj hreceipts)
  have hnumber := UInt64.toNat_inj.mp (Json.num.inj hnumber)
  have htime := UInt64.toNat_inj.mp (Json.num.inj htime)
  cases b
  cases c
  cases hschema
  cases hparent
  cases hroot
  simp_all

end json

/-- **The head determines the blocks**: two states whose blocks form a chain have the same blocks if
they have the same head, the hash has no collision among the blocks, and none has the hash of
genesis. -/
theorem same_head_same_blocks (hs : s.Chained) (ht : t.Chained)
    (hinj : (blockPreimage '' {b | b ∈ s.blocks ∨ b ∈ t.blocks}).InjOn K.digest)
    (hgenesis : ∀ b, b ∈ s.blocks ∨ b ∈ t.blocks → keccakHex (blockPreimage b) ≠ genesisHash)
    (h : s.head = t.head) : s.blocks = t.blocks := by
  have hhash {b : Block} (hb : b ∈ s.blocks ∨ b ∈ t.blocks) :
      b.blockHash = keccakHex (blockPreimage b) := (hb.elim (hs.sealed b) (ht.sealed b)).blockHash
  rw [hs.head, ht.head] at h
  refine List.reverse_injective (hs.linked.eq_of_newestId ht.linked ?_ ?_ h) <;>
    simp only [List.mem_reverse]
  · intro b hb c hc hnext
    have heq : b.blockHash = c.blockHash := congrArg Head.parentHash hnext
    have hdigest := digest_eq_of_keccakHex_eq ((hhash hb).symm.trans (heq.trans (hhash hc)))
    exact block_inj (hinj ⟨b, hb, rfl⟩ ⟨c, hc, rfl⟩ hdigest) heq
  · intro b hb hnext
    exact hgenesis b hb ((hhash hb).symm.trans (congrArg Head.parentHash hnext))

end keccak

/-- A process that sealed both blocks has the blocks of the one that adopted the first. -/
theorem same_head_sample : let _ : Keccak := keccak256
    let s := runAll secondSeal (runAll firstSeal genesisState)
    s.blocks.length = 2 ∧ adoptingState.pendingTxs.length ≠ s.pendingTxs.length ∧
      adoptingState.blocks = s.blocks := by
  intro _ s
  have hadopted : (syncFromPeers peerFiles [⟨"peer", "state.json"⟩] genesisState).2 =
      runAll firstSeal genesisState := by
    have hchain : (runAll firstSeal genesisState).chainId = genesisState.chainId := by decide +kernel
    have hpreferred : Preferred genesisState (runAll firstSeal genesisState) := by decide +kernel
    rw [syncFromPeers, syncLoop_state]
    simp [peerStates, peerFiles, hchain, preferAll, prefer, hpreferred]
  have ht : adoptingState = (NodeAction.queue (envelopeTx strayTransfer)).run s := by
    rw [adoptingState, hadopted]
  have hdigests : s.blocks.length = 2 ∧
      (s.blocks.map fun b => keccak256.digest (blockPreimage b)).Nodup ∧
      ∀ b ∈ s.blocks, keccakHex (blockPreimage b) ≠ genesisHash := by
    decide +kernel
  obtain ⟨htwo, hnodup, hgenesis⟩ := hdigests
  have hs : s.Chained := runAll_invariant (fun a _ hs => hs.run a) secondSeal
    (runAll_invariant (fun a _ hs => hs.run a) firstSeal genesis_chained)
  clear_value s
  rw [ht]
  refine ⟨htwo, by simp [NodeAction.run], same_head_same_blocks (hs.run _) hs ?_ ?_ rfl⟩
  · rintro _ ⟨b, hb, rfl⟩ _ ⟨c, hc, rfl⟩ hdigest
    exact congrArg blockPreimage (List.inj_on_of_nodup_map hnodup (or_self_iff.mp hb)
      (or_self_iff.mp hc) hdigest)
  · exact fun b hb => hgenesis b (or_self_iff.mp hb)

end FlowMemory
