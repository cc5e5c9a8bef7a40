import FlowMemory.Crypto.Merkle
import FlowMemory.Lib.Text

/-! # The roots of a block

A block has one Merkle root for each kind of **items**.  A document is hashed with the domain of the
root into its leaf; the text of 32 bytes is its own leaf, whatever the domain.  `roots_bind_iff` says
that the roots bind the domain and the items of a class exactly if no item of the class is such a
text. -/

namespace FlowMemory.Crypto

/-! ### Roots -/

/-- The functions of the package that give a root of a block. -/
inductive BlockRoot where
  | flowmemoryTxRoot
  | flowmemoryReceiptRoot
  | flowmemoryEventRoot
  | flowmemoryAccountStateRoot
  | flowmemoryTokenStateRoot
  | flowmemoryDexStateRoot
  deriving DecidableEq

def BlockRoot.domain : BlockRoot → String
  | flowmemoryTxRoot => "flowmemory.production-network.v0.tx-root"
  | flowmemoryReceiptRoot => "flowmemory.production-network.v0.receipt-root"
  | flowmemoryEventRoot => "flowmemory.production-network.v0.event-root"
  | flowmemoryAccountStateRoot => "flowmemory.production-network.v0.account-state-root"
  | flowmemoryTokenStateRoot => "flowmemory.production-network.v0.token-state-root"
  | flowmemoryDexStateRoot => "flowmemory.production-network.v0.dex-state-root"

section items

variable {ν : Type} [JsNumbers ν]

def isHex32 : JsValue ν → Bool
  | .string value => (hexToBytes (String.ofList (unitChars value)) 32).isSome
  | _ => false

/-- The bytes that are hashed for a document. -/
def documentBytes (root : BlockRoot) (item : JsValue ν) : Option (List UInt8) :=
  (canonicalJson (.object [(units "domain", .string (units root.domain)), (units "item", item)])).map utf8

section keccak

variable [K : Keccak]

def itemLeaf (root : BlockRoot) : JsValue ν → Option String
  | .string value =>
    if isHex32 (JsValue.string value : JsValue ν) then
      some (toAsciiLowercase (String.ofList (unitChars value)))
    else (documentBytes root (JsValue.string value : JsValue ν)).map keccakHex
  | item => (documentBytes root item).map keccakHex

def rootFromItems (root : BlockRoot) (items : List (JsValue ν)) : Option String := do
  let leaves ← items.mapM (itemLeaf root)
  merkleRoot leaves

/-! ### What is hashed -/

/-- The hash of a tree over hashes. -/
def treeHash : HashTree String → Option String
  | .leaf hash => some hash
  | .node left right => do merkleNodeHash (← treeHash left) (← treeHash right)

/-- The bytes that are hashed for the nodes of a tree over hashes. -/
def nodesBytes : HashTree String → List (List UInt8)
  | .leaf _ => []
  | .node left right => (do abiEncodeStatic [.bytes32 (typeHash merkleInternalNodeV0),
      .bytes32 (← treeHash left), .bytes32 (← treeHash right)]).toList ++
        (nodesBytes left ++ nodesBytes right)

/-- The bytes that are hashed for the root of items. -/
def rootBytes (root : BlockRoot) : List (JsValue ν) → List (List UInt8)
  | [] => [utf8 (chars emptyText)]
  | items => (items.filter (!isHex32 ·)).filterMap (documentBytes root) ++
      ((items.mapM (itemLeaf root)).bind fun leaves =>
        rootM joinTrees leaves.length (leaves.map .leaf)).elim [] nodesBytes

/-- Whatever the lists of items of a class, if the hash function does not collide on what is hashed
for them, equal roots are those of the same items under the same domain. -/
def RootsBind (C : Set (JsValue ν)) : Prop :=
  ∀ root root' items items' hash, (∀ item ∈ items ++ items', item ∈ C) →
    Set.InjOn K.digest {bytes | bytes ∈ rootBytes root items ++ rootBytes root' items'} →
    rootFromItems root items = some hash → rootFromItems root' items' = some hash →
      items.map canonicalJson = items'.map canonicalJson ∧ (items ≠ [] → root = root')

end keccak

variable {root root' : BlockRoot} {item item' : JsValue ν} {items items' : List (JsValue ν)}

/-! ### Documents -/

/-- The text of a document up to its item. -/
def documentHead (root : BlockRoot) : List Char :=
  '\x7b' :: (quote (units "domain") ++ ':' :: (quote (units root.domain) ++
    ',' :: (quote (units "item") ++ [':'])))

/-- No text starts with the heads of two documents: they differ in their first 46 characters. -/
theorem documentHead_inj {text text' : List Char}
    (h : documentHead root ++ text = documentHead root' ++ text') : root = root' := by
  let roots : List BlockRoot := [.flowmemoryTxRoot, .flowmemoryReceiptRoot, .flowmemoryEventRoot,
    .flowmemoryAccountStateRoot, .flowmemoryTokenStateRoot, .flowmemoryDexStateRoot]
  have hroots : ∀ root, root ∈ roots := by
    intro root
    cases root <;> simp [roots]
  have hlong : ∀ root ∈ roots, 46 ≤ (documentHead root).length := by decide +kernel
  have hdiffer : (roots.map fun root => (documentHead root).take 46).Nodup := by decide +kernel
  have htake := congrArg (List.take 46) h
  rw [List.take_append_of_le_length (hlong _ (hroots root)),
    List.take_append_of_le_length (hlong _ (hroots root'))] at htake
  exact List.inj_on_of_nodup_map hdiffer (hroots root) (hroots root') htake

theorem isHexText_domain (root : BlockRoot) : isHexText (units root.domain) = false := by
  cases root <;> decide +kernel

/-- The text of the item stands in the text of the document. -/
theorem canonicalJson_document : canonicalJson
      (.object [(units "domain", .string (units root.domain)), (units "item", item)]) =
    (canonicalJson item).map fun text => documentHead root ++ (text ++ ['\x7d']) := by
  have hsort : units "domain" ≤ units "item" := by decide +kernel
  have hdomain : arrayIndex (units "domain") = none := by decide +kernel
  have hitem : arrayIndex (units "item") = none := by decide +kernel
  rw [canonicalJson, canonicalJson, sortCanonical, sortMembers, sortCanonical, sortMembers,
    sortMembers, isHexText_domain]
  cases sortCanonical item with
  | none => rfl
  | some value =>
    simp [List.insertionSort, hsort, fromEntries, hdomain, hitem, stringify,
      stringifyMembers, documentHead]

theorem documentBytes_eq (root : BlockRoot) (item : JsValue ν) : documentBytes root item =
    (canonicalJson item).map fun text => utf8 (documentHead root ++ (text ++ ['\x7d'])) := by
  rw [documentBytes, canonicalJson_document, Option.map_map]
  rfl

theorem documentBytes_inj {bytes : List UInt8} (h : documentBytes root item = some bytes)
    (h' : documentBytes root' item' = some bytes) :
    root = root' ∧ canonicalJson item = canonicalJson item' := by
  rw [documentBytes_eq, Option.map_eq_some_iff] at h h'
  obtain ⟨text, htext, rfl⟩ := h
  obtain ⟨text', htext', hbytes⟩ := h'
  have htexts := utf8_injective hbytes
  obtain rfl := documentHead_inj htexts
  obtain rfl := List.append_cancel_right (List.append_cancel_left htexts)
  exact ⟨rfl, htext.trans htext'.symm⟩

theorem mapM_documentBytes_inj {documents : List (List UInt8)}
    (h : items.mapM (documentBytes root) = some documents)
    (h' : items'.mapM (documentBytes root') = some documents) :
    items.map canonicalJson = items'.map canonicalJson ∧ (items ≠ [] → root = root') := by
  rw [mapM_some] at h h'
  induction h generalizing items' with
  | nil =>
    cases h'
    simp
  | cons hhead _ ih =>
    cases h' with
    | cons hhead' htail' =>
      obtain ⟨hroot, hitem⟩ := documentBytes_inj hhead hhead'
      exact ⟨by rw [List.map_cons, List.map_cons, hitem, (ih htail').1], fun _ => hroot⟩

/-- The text of a document starts with a brace. -/
theorem head?_documentBytes {bytes : List UInt8} (h : documentBytes root item = some bytes) :
    bytes.head? = some 0x7b := by
  rw [documentBytes_eq, Option.map_eq_some_iff] at h
  obtain ⟨text, -, rfl⟩ := h
  rfl

section roots

variable [K : Keccak] (hdigest : ∀ bytes, (K.digest bytes).length = 32)

include hdigest

theorem treeHash_map (t : HashTree (List UInt8)) :
    treeHash (t.map keccakHex) = some (keccakHex (treeBytes t)) := by
  induction t with
  | leaf bytes => rfl
  | node left right ihl ihr =>
    rw [HashTree.map, treeHash, ihl, ihr]
    exact merkleNodeHash_keccakHex hdigest left right

/-- What is hashed for a tree are its leaves and its nodes. -/
theorem mem_of_subtreeBytes {t : HashTree (List UInt8)} {bytes : List UInt8}
    (h : bytes ∈ subtreeBytes t) : bytes ∈ t.leaves ++ nodesBytes (t.map keccakHex) := by
  induction t with
  | leaf leaf => simpa [subtreeBytes, treeBytes, HashTree.leaves, HashTree.map, nodesBytes] using h
  | node left right ihl ihr =>
    have hnode : nodesBytes (HashTree.map keccakHex (.node left right)) =
        treeBytes (.node left right) :: (nodesBytes (left.map keccakHex) ++
          nodesBytes (right.map keccakHex)) := by
      rw [HashTree.map, nodesBytes, treeHash_map hdigest, treeHash_map hdigest]
      simp [abiEncodeStatic_node hdigest]
    simp only [subtreeBytes, HashTree.leaves, hnode, List.mem_cons, List.mem_append] at h ihl ihr ⊢
    tauto

/-- The root of documents is the hash of their tree. -/
theorem rootFromItems_documents {hash : String} (hne : items ≠ [])
    (hitems : ∀ item ∈ items, isHex32 item = false) (h : rootFromItems root items = some hash) :
    ∃ t, items.mapM (documentBytes root) = some t.leaves ∧
      (∀ bytes ∈ t.leaves, bytes.head? = some 0x7b) ∧ hash = keccakHex (treeBytes t) ∧
      ∀ bytes ∈ subtreeBytes t, bytes ∈ rootBytes root items := by
  have hleaf : ∀ item ∈ items, itemLeaf root item = (documentBytes root item).map keccakHex := by
    intro item hitem
    have hdocument := hitems item hitem
    cases item <;> simp [itemLeaf, hdocument]
  have hleaves := mapM_map hleaf
  simp only [rootFromItems, hleaves, Option.bind_eq_bind, Option.bind_eq_some_iff,
    Option.map_eq_some_iff] at h
  obtain ⟨_, ⟨documents, hdocuments, rfl⟩, hhash⟩ := h
  have hsome : documents ≠ [] := by
    rintro rfl
    cases mapM_some.mp hdocuments
    exact hne rfl
  obtain ⟨t, ht, rfl, hroot⟩ := merkleRoot_keccakHex hdigest hsome
  rw [hroot, Option.some.injEq] at hhash
  refine ⟨t, hdocuments, fun bytes hbytes => ?_, hhash.symm, fun bytes hbytes => ?_⟩
  · obtain ⟨item, -, hitem⟩ := exists_left_of_mem (mapM_some.mp hdocuments) hbytes
    exact head?_documentBytes hitem
  · have htree : rootM joinTrees (t.leaves.map keccakHex).length ((t.leaves.map keccakHex).map .leaf) =
        some (t.map keccakHex) := by
      have hmap : rootM joinTrees t.leaves.length ((t.leaves.map .leaf).map
          (HashTree.map keccakHex)) = _ := rootM_map fun _ _ => rfl
      rw [ht, List.map_map] at hmap
      rw [List.length_map, List.map_map]
      exact hmap
    have hmem := mem_of_subtreeBytes hdigest hbytes
    have hall : items.filter (!isHex32 ·) = items := by simpa using hitems
    cases items with
    | nil => exact absurd rfl hne
    | cons item items =>
      rw [rootBytes, hall, filterMap_of_mapM hdocuments, hleaves, hdocuments]
      · rwa [Option.map_some, Option.bind_some, htree]
      · exact fun h => hne h

omit hdigest in
/-- Under every domain a raw item is its own root, and nothing is hashed. -/
theorem rootFromItems_raw (hraw : isHex32 item = true) : ∃ hash, ∀ root,
    rootFromItems root [item] = some hash ∧ rootBytes root [item] = [] := by
  obtain ⟨value, rfl⟩ : ∃ value, item = .string value := by
    cases item <;> first | exact ⟨_, rfl⟩ | cases hraw
  refine ⟨toAsciiLowercase (String.ofList (unitChars value)), fun root => ⟨?_, ?_⟩⟩
  · simp [rootFromItems, itemLeaf, hraw, merkleRoot, rootM]
  · simp [rootBytes, hraw, itemLeaf, rootM, nodesBytes]

/-- Documents have another root than no items. -/
theorem rootFromItems_ne_empty {hash : String} (hne : items ≠ [])
    (hitems : ∀ item ∈ items, isHex32 item = false) (h : rootFromItems root items = some hash)
    (hsame : ∀ bytes ∈ rootBytes root items, keccakHex bytes = keccakHex (utf8 (chars emptyText)) →
      bytes = utf8 (chars emptyText)) : rootFromItems root' ([] : List (JsValue ν)) ≠ some hash := by
  intro hempty
  obtain ⟨t, -, hbrace, hhash, hbytes⟩ := rootFromItems_documents hdigest hne hitems h
  cases hempty
  exact treeBytes_ne_emptyText hdigest (by decide) hbrace
    (hsame _ (hbytes _ treeBytes_mem) hhash.symm)

/-- The roots bind the items of a class exactly if no item is the text of 32 bytes. -/
theorem roots_bind_iff
    (htag : (K.digest (utf8 merkleInternalNodeV0.toList)).head? ≠ some 0x7b)
    (C : Set (JsValue ν)) : RootsBind C ↔ ∀ item ∈ C, isHex32 item = false := by
  constructor
  · intro hbind item hitem
    by_contra hraw
    obtain ⟨hash, hroot⟩ := rootFromItems_raw (Bool.eq_true_of_not_eq_false hraw)
    have hroots := (hbind .flowmemoryTxRoot .flowmemoryReceiptRoot [item] [item] hash
      (by simpa using hitem) (by simp [(hroot _).2]) (hroot _).1 (hroot _).1).2 (List.cons_ne_nil _ _)
    cases hroots
  · intro hdocuments root root' items items' hash hitems hcollision hroot hroot'
    have hitems₁ : ∀ item ∈ items, isHex32 item = false := fun item hitem =>
      hdocuments item (hitems item (List.mem_append_left _ hitem))
    have hitems₂ : ∀ item ∈ items', isHex32 item = false := fun item hitem =>
      hdocuments item (hitems item (List.mem_append_right _ hitem))
    have hsame : ∀ {a b}, a ∈ rootBytes root items → b ∈ rootBytes root' items' →
        keccakHex a = keccakHex b → a = b := fun ha hb h =>
      hcollision (List.mem_append_left _ ha) (List.mem_append_right _ hb) (digest_eq_of_keccakHex_eq h)
    rcases eq_or_ne items [] with rfl | hne
    all_goals rcases eq_or_ne items' [] with rfl | hne'
    · exact ⟨rfl, absurd rfl⟩
    · exact absurd hroot (rootFromItems_ne_empty hdigest hne' hitems₂ hroot' fun bytes hbytes h =>
        (hsame List.mem_cons_self hbytes h.symm).symm)
    · exact absurd hroot' (rootFromItems_ne_empty hdigest hne hitems₁ hroot fun bytes hbytes h =>
        hsame hbytes List.mem_cons_self h)
    · obtain ⟨t, hleaves, hbrace, hhash, hbytes⟩ :=
        rootFromItems_documents hdigest hne hitems₁ hroot
      obtain ⟨t', hleaves', hbrace', hhash', hbytes'⟩ :=
        rootFromItems_documents hdigest hne' hitems₂ hroot'
      have htrees := hsame (hbytes _ treeBytes_mem) (hbytes' _ treeBytes_mem)
        (hhash.symm.trans hhash')
      have hnode : ∀ left right, (treeBytes (.node left right)).head? ≠ some 0x7b := by
        intro left right
        rwa [treeBytes, List.head?_append_of_ne_nil]
        exact List.ne_nil_of_length_pos (by simp [hdigest])
      obtain rfl := treeBytes_inj hdigest hcollision hnode
        (fun _ hb => List.mem_append_left _ (hbytes _ hb))
        (fun _ hb => List.mem_append_right _ (hbytes' _ hb)) hbrace hbrace' htrees
      exact mapM_documentBytes_inj hleaves hleaves'

end roots

end items

/-- The integers that a number of JavaScript holds exactly. -/
abbrev SafeInteger := { n : ℤ // n.natAbs < 2 ^ 53 }

instance : JsNumbers SafeInteger := ⟨fun _ => true, fun n => chars (toString n.1)⟩

theorem roots_bind_sample : letI : Keccak := keccak256
    RootsBind {item : JsValue SafeInteger | isHex32 item = false} := by
  let _ : Keccak := keccak256
  exact (roots_bind_iff keccak256_length (by decide +kernel) _).mpr fun _ hitem => hitem

/-- The text of 32 zeros. -/
def zeroItem : JsValue SafeInteger := .string (units (bytesToHex (List.replicate 32 0)))

/-- The root of two raw items is also the root of one item, for the transactions and for the receipts,
although nothing else is hashed than the node of the two. -/
theorem raw_roots_collide : letI : Keccak := keccak256
    ∃ hash ∈ rootFromItems .flowmemoryTxRoot [zeroItem, zeroItem],
      rootFromItems .flowmemoryTxRoot [(.string (units hash) : JsValue SafeInteger)] = some hash ∧
      rootFromItems .flowmemoryReceiptRoot [(.string (units hash) : JsValue SafeInteger)] = some hash ∧
      (rootBytes .flowmemoryTxRoot [zeroItem, zeroItem]).length = 1 ∧
      rootBytes .flowmemoryTxRoot [(.string (units hash) : JsValue SafeInteger)] = [] := by
  decide +kernel

end FlowMemory.Crypto
