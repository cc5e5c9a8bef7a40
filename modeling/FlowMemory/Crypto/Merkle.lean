import Mathlib.Data.Set.Function
import FlowMemory.Crypto.Encoding
import FlowMemory.Lib.HashTree
import FlowMemory.Lib.Traverse

/-! # The Merkle root of an artifact

The chunks of an artifact are hashed into leaves, with their place and their size, and the leaves
level by level into the **content root**.  If the hash function does not collide on what is hashed
for two artifacts, artifacts with the same root have the same bytes in every chunk
(`content_root_binds_chunks`).  A chunk may be a text, and texts that are not well formed can have the
same bytes (`ill_formed_chunks_collide`). -/

namespace FlowMemory.Crypto

variable [K : Keccak]

def merkleLeafV0 : String :=
  "FlowMemoryMerkleLeafV0(uint64 index,uint64 offset,uint32 length,bytes32 chunkHash)"

def merkleInternalNodeV0 : String :=
  "FlowMemoryMerkleInternalNodeV0(bytes32 leftHash,bytes32 rightHash)"

structure ManifestChunk where
  (index offset length : ℕ)
  chunkHash : String

def merkleLeafHash (entry : ManifestChunk) : Option String :=
  typedHash merkleLeafV0
    [.uint entry.index, .uint entry.offset, .uint entry.length, .bytes32 entry.chunkHash]

def merkleNodeHash (leftHash rightHash : String) : Option String :=
  typedHash merkleInternalNodeV0 [.bytes32 leftHash, .bytes32 rightHash]

def merkleSchemeV0 : String := "FM-MERKLE-KECCAK256-BINARY-V0"

def emptyText : String := merkleSchemeV0 ++ ":EMPTY"

def emptyMerkleRoot : String := keccakUtf8 emptyText

def merkleRoot (leafHashes : List String) : Option String :=
  if leafHashes.length = 0 then some emptyMerkleRoot
  else rootM merkleNodeHash leafHashes.length leafHashes

inductive Chunk where
  | text (chunk : List UInt16)
  | bytes (chunk : List UInt8)

def Chunk.data : Chunk → List UInt8
  | text chunk => utf8Bytes chunk
  | bytes chunk => chunk

/-- The entries of the chunks from the given index and offset on. -/
def manifestChunks : List Chunk → (index offset : ℕ) → List ManifestChunk
  | [], _, _ => []
  | chunk :: chunks, index, offset =>
    ⟨index, offset, chunk.data.length, keccakHex chunk.data⟩ ::
      manifestChunks chunks (index + 1) (offset + chunk.data.length)

/-- The leaves and the root of the content of an artifact. -/
structure Artifact where
  leafHashes : List String
  contentMerkleRoot : String

def artifactFromChunks (chunks : List Chunk) : Option Artifact := do
  let leafHashes ← (manifestChunks chunks 0 0).mapM merkleLeafHash
  let contentMerkleRoot ← merkleRoot leafHashes
  pure ⟨leafHashes, contentMerkleRoot⟩

/-! ### What is hashed -/

/-- The bytes of a leaf. -/
def leafBytes (entry : ManifestChunk) : Option (List UInt8) :=
  abiEncodeStatic [.bytes32 (typeHash merkleLeafV0), .uint entry.index, .uint entry.offset,
    .uint entry.length, .bytes32 entry.chunkHash]

/-- The bytes of a tree over the bytes of the leaves. -/
def treeBytes : HashTree (List UInt8) → List UInt8
  | .leaf bytes => bytes
  | .node left right => K.digest (utf8 merkleInternalNodeV0.toList) ++
      (K.digest (treeBytes left) ++ K.digest (treeBytes right))

/-- The bytes of the trees in a tree. -/
def subtreeBytes (t : HashTree (List UInt8)) : List (List UInt8) :=
  treeBytes t :: match t with
    | .leaf _ => []
    | .node left right => subtreeBytes left ++ subtreeBytes right

/-- The tree over the leaves of an artifact. -/
def artifactTree (chunks : List Chunk) : Option (HashTree (List UInt8)) := do
  let leaves ← (manifestChunks chunks 0 0).mapM leafBytes
  rootM joinTrees leaves.length (leaves.map .leaf)

/-- The bytes that are hashed for the root of an artifact. -/
def hashedBytes (chunks : List Chunk) : List (List UInt8) :=
  utf8 (chars emptyText) :: chunks.map Chunk.data ++ (artifactTree chunks).elim [] subtreeBytes

theorem treeBytes_mem {t : HashTree (List UInt8)} : treeBytes t ∈ subtreeBytes t := by
  cases t <;> exact List.mem_cons_self

section roots

variable (hdigest : ∀ bytes, (K.digest bytes).length = 32)

include hdigest

theorem bytes32ToWord_keccakHex (bytes : List UInt8) :
    bytes32ToWord (keccakHex bytes) = some (K.digest bytes) :=
  hexToBytes_bytesToHex (hdigest bytes)

theorem abiEncodeStatic_node (left right : HashTree (List UInt8)) :
    abiEncodeStatic [.bytes32 (typeHash merkleInternalNodeV0), .bytes32 (keccakHex (treeBytes left)),
      .bytes32 (keccakHex (treeBytes right))] = some (treeBytes (.node left right)) := by
  simp [abiEncodeStatic, StaticField.encode, typeHash, keccakUtf8, bytes32ToWord_keccakHex hdigest,
    treeBytes]

theorem merkleNodeHash_keccakHex (left right : HashTree (List UInt8)) :
    merkleNodeHash (keccakHex (treeBytes left)) (keccakHex (treeBytes right)) =
      some (keccakHex (treeBytes (.node left right))) := by
  rw [merkleNodeHash, typedHash, abiEncodeStatic_node hdigest]
  rfl

/-- A leaf has 5 words and ends with the hash of the chunk. -/
theorem leafBytes_ok {index offset length : ℕ} {chunk bytes : List UInt8}
    (h : leafBytes ⟨index, offset, length, keccakHex chunk⟩ = some bytes) :
    bytes.length = 5 * 32 ∧ bytes.drop (4 * 32) = K.digest chunk := by
  simp only [leafBytes, abiEncodeStatic, StaticField.encode, uintToWord, typeHash, keccakUtf8,
    bytes32ToWord_keccakHex hdigest, Option.bind_eq_bind, Option.bind_eq_some_iff, Option.some.injEq] at h
  obtain ⟨_, rfl, _, ⟨i, hi, _, ⟨o, ho, _, ⟨l, hl, _, ⟨_, rfl, _, rfl, rfl⟩, rfl⟩, rfl⟩, rfl⟩, rfl⟩ := h
  have hlength : ∀ {n word}, (if n < 2 ^ 256 then some (abiUintWord n) else none) = some word →
      word.length = 32 := by
    intro n word hword
    split_ifs at hword
    cases hword
    simp [abiUintWord]
  refine ⟨by simp [hdigest, hlength hi, hlength ho, hlength hl], ?_⟩
  rw [List.append_nil, ← List.append_assoc, ← List.append_assoc, ← List.append_assoc,
    List.drop_left' (by simp [hdigest, hlength hi, hlength ho, hlength hl])]

theorem mapM_leafBytes {chunks : List Chunk} {leaves : List (List UInt8)} {index offset : ℕ}
    (h : (manifestChunks chunks index offset).mapM leafBytes = some leaves) :
    (∀ leaf ∈ leaves, leaf.length = 5 * 32) ∧
      leaves.map (List.drop (4 * 32)) = chunks.map (K.digest ·.data) := by
  induction chunks generalizing leaves index offset with
  | nil =>
    cases h
    simp
  | cons chunk chunks ih =>
    simp only [manifestChunks, List.mapM_cons, Option.bind_eq_bind, Option.bind_eq_some_iff,
      Option.pure_def, Option.some.injEq] at h
    obtain ⟨leaf, hleaf, rest, hrest, rfl⟩ := h
    obtain ⟨hlength, hdrop⟩ := leafBytes_ok hdigest hleaf
    obtain ⟨hlengths, hdrops⟩ := ih hrest
    exact ⟨List.forall_mem_cons.mpr ⟨hlength, hlengths⟩, by simp [hdrop, hdrops]⟩

/-- The root of leaves is the hash of their tree. -/
theorem merkleRoot_keccakHex {leaves : List (List UInt8)} (hne : leaves ≠ []) :
    ∃ t, rootM joinTrees leaves.length (leaves.map .leaf) = some t ∧ t.leaves = leaves ∧
      merkleRoot (leaves.map keccakHex) = some (keccakHex (treeBytes t)) := by
  have htrees : leaves.map HashTree.leaf ≠ [] := by simpa using hne
  obtain ⟨t, ht, htleaves⟩ := exists_root htrees (List.length_map _).le
  have hhashes : leaves.map keccakHex = (leaves.map .leaf).map (fun t => keccakHex (treeBytes t)) := by
    simp [treeBytes]
  refine ⟨t, ht, ?_, ?_⟩
  · rw [htleaves, List.flatMap_map]
    exact List.flatMap_singleton' leaves
  · rw [merkleRoot, List.length_map, if_neg (by simpa using hne), hhashes,
      rootM_map (merkleNodeHash_keccakHex hdigest), ht]
    rfl

/-- The root of an artifact that is not empty is the hash of its tree. -/
theorem artifactFromChunks_ok {chunks : List Chunk} {artifact : Artifact}
    (h : artifactFromChunks chunks = some artifact) :
    chunks = [] ∧ artifact.contentMerkleRoot = emptyMerkleRoot ∨
      ∃ t ∈ artifactTree chunks, artifact.contentMerkleRoot = keccakHex (treeBytes t) ∧
        (∀ leaf ∈ t.leaves, leaf.length = 5 * 32) ∧
        t.leaves.map (List.drop (4 * 32)) = chunks.map (K.digest ·.data) := by
  simp only [artifactFromChunks, Option.bind_eq_bind, Option.bind_eq_some_iff, Option.pure_def,
    Option.some.injEq] at h
  obtain ⟨leafHashes, hhashes, root, hroot, rfl⟩ := h
  obtain ⟨leaves, hleaves, rfl⟩ : ∃ leaves, (manifestChunks chunks 0 0).mapM leafBytes = some leaves ∧
      leaves.map keccakHex = leafHashes := by
    have hmap : (manifestChunks chunks 0 0).mapM merkleLeafHash =
        ((manifestChunks chunks 0 0).mapM leafBytes).map (List.map keccakHex) :=
      mapM_map fun _ _ => rfl
    rw [hmap, Option.map_eq_some_iff] at hhashes
    exact hhashes
  obtain ⟨hlengths, hdrop⟩ := mapM_leafBytes hdigest hleaves
  rcases eq_or_ne leaves [] with hempty | hne
  · left
    subst hempty
    cases hroot
    exact ⟨by simpa using hdrop, rfl⟩
  · right
    obtain ⟨t, ht, hsame, hhash⟩ := merkleRoot_keccakHex hdigest hne
    rw [hhash] at hroot
    cases hroot
    refine ⟨t, ?_, rfl, hsame ▸ hlengths, hsame ▸ hdrop⟩
    rw [artifactTree, hleaves]
    exact ht

theorem nodeBytes_length (left right : HashTree (List UInt8)) :
    (treeBytes (.node left right)).length = 3 * 32 := by
  simp [treeBytes, hdigest]

/-- The bytes of a tree are not those of the empty list, if no leaf has these. -/
theorem treeBytes_ne_emptyText {P : List UInt8 → Prop} (hP : ¬ P (utf8 emptyText.toList))
    {t : HashTree (List UInt8)} (hleaves : ∀ bytes ∈ t.leaves, P bytes) :
    treeBytes t ≠ utf8 emptyText.toList := by
  intro heq
  cases t with
  | leaf bytes =>
    have hleaf : P (treeBytes (.leaf bytes)) := hleaves bytes (List.mem_singleton.mpr rfl)
    exact hP (heq ▸ hleaf)
  | node left right =>
    have hlength := congrArg List.length heq
    rw [nodeBytes_length hdigest] at hlength
    exact absurd hlength (by decide)

/-- Trees with the same bytes are the same, if no leaf has the bytes of a node. -/
theorem treeBytes_inj {S : Set (List UInt8)} (hS : Set.InjOn K.digest S) {P : List UInt8 → Prop}
    (hP : ∀ left right, ¬ P (treeBytes (.node left right))) {t t' : HashTree (List UInt8)}
    (ht : ∀ bytes ∈ subtreeBytes t, bytes ∈ S) (ht' : ∀ bytes ∈ subtreeBytes t', bytes ∈ S)
    (hleaves : ∀ bytes ∈ t.leaves, P bytes) (hleaves' : ∀ bytes ∈ t'.leaves, P bytes)
    (h : treeBytes t = treeBytes t') : t = t' := by
  induction t generalizing t' with
  | leaf bytes =>
    cases t' with
    | leaf bytes' => exact congrArg _ h
    | node left right =>
      have hleaf : P (treeBytes (.leaf bytes)) := hleaves bytes (List.mem_singleton.mpr rfl)
      exact absurd (h ▸ hleaf) (hP left right)
  | node left right ihl ihr =>
    cases t' with
    | leaf bytes' =>
      have hleaf : P (treeBytes (.leaf bytes')) := hleaves' bytes' (List.mem_singleton.mpr rfl)
      exact absurd (h ▸ hleaf) (hP left right)
    | node left' right' =>
      have hdigests := List.append_cancel_left h
      obtain ⟨hleft, hright⟩ := List.append_inj hdigests (by rw [hdigest, hdigest])
      simp only [subtreeBytes, List.forall_mem_cons, List.forall_mem_append] at ht ht'
      simp only [HashTree.leaves, List.forall_mem_append] at hleaves hleaves'
      rw [ihl ht.2.1 ht'.2.1 hleaves.1 hleaves'.1
          (hS (ht.2.1 _ treeBytes_mem) (ht'.2.1 _ treeBytes_mem) hleft),
        ihr ht.2.2 ht'.2.2 hleaves.2 hleaves'.2
          (hS (ht.2.2 _ treeBytes_mem) (ht'.2.2 _ treeBytes_mem) hright)]

/-- Artifacts with the same root have the same bytes in every chunk. -/
theorem content_root_binds_chunks {chunks chunks' : List Chunk} {artifact artifact' : Artifact}
    (hcollision : Set.InjOn K.digest {bytes | bytes ∈ hashedBytes chunks ++ hashedBytes chunks'})
    (h : artifactFromChunks chunks = some artifact)
    (h' : artifactFromChunks chunks' = some artifact')
    (hroot : artifact.contentMerkleRoot = artifact'.contentMerkleRoot) :
    chunks.map Chunk.data = chunks'.map Chunk.data := by
  have hempty : ∀ {t : HashTree (List UInt8)}, (∀ bytes ∈ t.leaves, bytes.length = 5 * 32) →
      treeBytes t ≠ utf8 emptyText.toList := treeBytes_ne_emptyText hdigest (by decide)
  have htree : ∀ {chunks t}, artifactTree chunks = some t →
      ∀ bytes ∈ subtreeBytes t, bytes ∈ hashedBytes chunks := by
    intro chunks t ht bytes hbytes
    rw [hashedBytes, ht]
    exact List.mem_append_right _ hbytes
  have hdigests : ∀ {a b}, a ∈ hashedBytes chunks → b ∈ hashedBytes chunks' →
      keccakHex a = keccakHex b → a = b := fun ha hb h =>
    hcollision (List.mem_append_left _ ha) (List.mem_append_right _ hb) (digest_eq_of_keccakHex_eq h)
  rcases artifactFromChunks_ok hdigest h with ⟨rfl, hroot₁⟩ | ⟨t, ht, hroot₁, hleaves, hdrop⟩
  all_goals rcases artifactFromChunks_ok hdigest h' with ⟨rfl, hroot₂⟩ |
    ⟨t', ht', hroot₂, hleaves', hdrop'⟩
  all_goals rw [hroot₁, hroot₂] at hroot
  · exact absurd (hdigests List.mem_cons_self (htree ht' _ treeBytes_mem) hroot).symm (hempty hleaves')
  · exact absurd (hdigests (htree ht _ treeBytes_mem) List.mem_cons_self hroot) (hempty hleaves)
  · have hbytes := hdigests (htree ht _ treeBytes_mem) (htree ht' _ treeBytes_mem) hroot
    have hnode : ∀ left right, ¬ (treeBytes (.node left right)).length = 5 * 32 := by
      simp [nodeBytes_length hdigest]
    obtain rfl := treeBytes_inj hdigest hcollision hnode
      (fun _ hb => List.mem_append_left _ (htree ht _ hb))
      (fun _ hb => List.mem_append_right _ (htree ht' _ hb)) hleaves hleaves' hbytes
    have hsame := hdrop.symm.trans hdrop'
    have hmem : ∀ {chunks : List Chunk} {data}, data ∈ chunks.map Chunk.data →
        data ∈ hashedBytes chunks :=
      fun hdata => List.mem_append_left _ (List.mem_cons_of_mem _ hdata)
    refine List.ext_getElem (by simpa using congrArg List.length hsame) fun i hi hi' => hcollision
      (List.mem_append_left _ (hmem (List.getElem_mem hi)))
      (List.mem_append_right _ (hmem (List.getElem_mem hi'))) ?_
    rw [List.length_map] at hi hi'
    simpa [hi, hi'] using congrArg (·[i]?) hsame

end roots

omit K in
/-- A root of three chunks, of which the last is alone on its level, with the chunks given as texts and
as bytes. -/
theorem content_root_binds_chunks_sample :
    letI : Keccak := keccak256
    ∃ artifact artifact',
      artifactFromChunks [.text (units "flow"), .bytes [2], .text [0xE9]] = some artifact ∧
      artifactFromChunks [.bytes [0x66, 0x6c, 0x6f, 0x77], .bytes [2], .bytes [0xC3, 0xA9]] =
        some artifact' ∧
      artifact.contentMerkleRoot = artifact'.contentMerkleRoot ∧
      [Chunk.text (units "flow"), .bytes [2], .text [0xE9]].map Chunk.data =
        [Chunk.bytes [0x66, 0x6c, 0x6f, 0x77], .bytes [2], .bytes [0xC3, 0xA9]].map Chunk.data := by
  let _ : Keccak := keccak256
  let texts : List Chunk := [.text (units "flow"), .bytes [2], .text [0xE9]]
  let bytes : List Chunk := [.bytes [0x66, 0x6c, 0x6f, 0x77], .bytes [2], .bytes [0xC3, 0xA9]]
  have hsome : (artifactFromChunks texts).isSome = true := by decide +kernel
  obtain ⟨artifact, h⟩ := Option.isSome_iff_exists.mp hsome
  have hmanifest : manifestChunks texts 0 0 = manifestChunks bytes 0 0 := rfl
  have h' : artifactFromChunks bytes = some artifact := by
    rw [← h, artifactFromChunks, artifactFromChunks, hmanifest]
  have hbytes : hashedBytes bytes = hashedBytes texts := by
    rw [hashedBytes, hashedBytes, artifactTree, artifactTree, hmanifest]
    rfl
  have hdigests : ((hashedBytes texts).map keccak256.digest).Nodup := by decide +kernel
  have hcollision : Set.InjOn keccak256.digest
      {data | data ∈ hashedBytes texts ++ hashedBytes bytes} := by
    rw [hbytes]
    simpa [Set.InjOn] using List.inj_on_of_nodup_map hdigests
  exact ⟨artifact, artifact, h, h', rfl,
    content_root_binds_chunks keccak256_length hcollision h h' rfl⟩

omit K in
/-- Two texts that are one surrogate without a partner have the same root, although they differ. -/
theorem ill_formed_chunks_collide :
    letI : Keccak := keccak256
    ([.text [0xD800]] : List Chunk) ≠ [.text [0xD801]] ∧
      (artifactFromChunks [.text [0xD800]]).isSome = true ∧
      (artifactFromChunks [.text [0xD800]]).map (·.contentMerkleRoot) =
        (artifactFromChunks [.text [0xD801]]).map (·.contentMerkleRoot) := by
  refine ⟨by simp, ?_, ?_⟩ <;> decide +kernel

end FlowMemory.Crypto
