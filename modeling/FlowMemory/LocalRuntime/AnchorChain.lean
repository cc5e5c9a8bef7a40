import FlowMemory.Lib.RecordChain
import FlowMemory.LocalRuntime.Atomicity

/-! # The chain of anchors

An anchor names a predecessor: the last key of the map of anchors.  Keys are ordered as texts,
so the last one is that of the **greatest** identifier, which need not be the newest one.

`anchors_one_chain` follows runs with the list of anchors they created.  A new anchor names the
newest one exactly when no older one has a greater identifier, and in runs where that is so at
every new anchor the anchors form one chain in reverse order of creation.
`anchor_skips_newest` is a run with three anchors of which the last one passes over the second. -/

namespace FlowMemory

open Txn OrderedMap

variable [K : Keccak] {s s' : ChainState}

/-! ### Created anchors -/

/-- The anchor that a transaction creates. -/
def createdAnchor (s : ChainState) (tx : AnchorBatchToBasePlaceholder) : BaseAnchorPlaceholder :=
  anchorFromState s tx.localRuntimeChainId tx.finalityStatus

/-- The anchors that a transaction creates: one, if it is accepted. -/
def createdAnchors (s : ChainState) : Transaction → List BaseAnchorPlaceholder
  | .anchorBatchToBasePlaceholder tx =>
    if s.baseAnchors.contains (createdAnchor s tx).anchorId then [] else [createdAnchor s tx]
  | _ => []

/-- The states of runs with the anchors created so far, the newest first. -/
inductive AnchorRun (ok : Transaction → ChainState → List BaseAnchorPlaceholder → Prop) :
    ChainState → List BaseAnchorPlaceholder → Prop
  | genesis : AnchorRun ok genesisState []
  | transaction {s : ChainState} {created : List BaseAnchorPlaceholder} {tx : Transaction}
      (h : AnchorRun ok s created) (hok : ok tx s created) :
      AnchorRun ok (applyTransaction tx s).2 (createdAnchors s tx ++ created)
  | head {s s' : ChainState} {created : List BaseAnchorPlaceholder} (h : AnchorRun ok s created)
      (hstep : NodeStep (fun _ _ => False) s s') : AnchorRun ok s' created

/-- An anchor is stored if its identifier is new, and rejected otherwise. -/
theorem anchorBatch_run (tx : AnchorBatchToBasePlaceholder) (s : ChainState) :
    applyTransaction (.anchorBatchToBasePlaceholder tx) s =
      if s.baseAnchors.contains (createdAnchor s tx).anchorId = true then
        (.error (.anchorAlreadyExists (createdAnchor s tx).anchorId), s)
      else (.ok (), { s with
        baseAnchors := s.baseAnchors.insert (createdAnchor s tx).anchorId (createdAnchor s tx) }) := by
  change anchorBatchToBasePlaceholder tx s = _
  rw [anchorBatchToBasePlaceholder, get_bind]
  exact rejectIf_bind

/-- What a transaction does to the anchors. -/
theorem baseAnchors_after (tx : Transaction) (s : ChainState) :
    (createdAnchors s tx = [] ∧ (applyTransaction tx s).2.baseAnchors = s.baseAnchors) ∨
      ∃ a, createdAnchors s tx = [a] ∧ s.baseAnchors[a.anchorId]? = none ∧
        a.previousAnchorId = previousAnchorId s ∧
        (applyTransaction tx s).2.baseAnchors = s.baseAnchors.insert a.anchorId a := by
  cases tx with
  | anchorBatchToBasePlaceholder tx =>
    by_cases hc : s.baseAnchors.contains (createdAnchor s tx).anchorId = true
    · exact Or.inl ⟨if_pos hc, by rw [anchorBatch_run, if_pos hc]⟩
    · refine Or.inr ⟨createdAnchor s tx, if_neg hc, contains_eq_false.mp hc, rfl, ?_⟩
      rw [anchorBatch_run, if_neg hc]
  | _ =>
    exact Or.inl ⟨rfl, applyTransaction_frame (f := .baseAnchors) (Prod.mk.eta).symm
      (by simp [footprint])⟩

/-! ### The map holds the created anchors -/

/-- The map holds the created anchors, under different identifiers. -/
structure AnchorBooks (s : ChainState) (created : List BaseAnchorPlaceholder) : Prop where
  stored : ∀ (id : String) (a : BaseAnchorPlaceholder),
    s.baseAnchors[id]? = some a ↔ a ∈ created ∧ a.anchorId = id
  nodup : (created.map (·.anchorId)).Nodup

omit K in
theorem AnchorBooks.congr {created : List BaseAnchorPlaceholder} (hb : AnchorBooks s created)
    (h : s'.baseAnchors = s.baseAnchors) : AnchorBooks s' created :=
  ⟨by rw [h]; exact hb.stored, hb.nodup⟩

omit K in
theorem AnchorBooks.insert {created : List BaseAnchorPlaceholder} (hb : AnchorBooks s created)
    {a : BaseAnchorPlaceholder} (hnew : s.baseAnchors[a.anchorId]? = none)
    (h : s'.baseAnchors = s.baseAnchors.insert a.anchorId a) : AnchorBooks s' (a :: created) := by
  have hfresh (b : BaseAnchorPlaceholder) (hmem : b ∈ created) : b.anchorId ≠ a.anchorId := by
    intro hid
    rw [← hid, (hb.stored _ _).mpr ⟨hmem, rfl⟩] at hnew
    cases hnew
  constructor
  · intro id b
    rw [h, getElem?_insert, List.mem_cons]
    split_ifs with hid
    · constructor
      · intro hab
        obtain rfl := Option.some.inj hab
        exact ⟨Or.inl rfl, hid⟩
      · rintro ⟨rfl | hmem, hbid⟩
        · rfl
        · exact absurd (hbid.trans hid.symm) (hfresh b hmem)
    · rw [hb.stored]
      constructor
      · exact fun hmem => ⟨Or.inr hmem.1, hmem.2⟩
      · rintro ⟨rfl | hmem, hbid⟩
        · exact absurd hbid hid
        · exact ⟨hmem, hbid⟩
  · rw [List.map_cons, List.nodup_cons]
    refine ⟨fun hmem => ?_, hb.nodup⟩
    obtain ⟨b, hbmem, hid⟩ := List.mem_map.mp hmem
    exact hfresh b hbmem hid

variable {ok : Transaction → ChainState → List BaseAnchorPlaceholder → Prop}
  {created : List BaseAnchorPlaceholder}

theorem baseAnchors_head (h : NodeStep (fun _ _ => False) s s') :
    s'.baseAnchors = s.baseAnchors := by
  cases h with
  | transaction h => exact h.elim
  | queue | takeQueue | pushBlock => rfl

theorem AnchorRun.books (h : AnchorRun ok s created) : AnchorBooks s created := by
  induction h with
  | genesis => exact ⟨fun id a => by simp [genesisState], List.nodup_nil⟩
  | @transaction s created tx h hok ih =>
    rcases baseAnchors_after tx s with ⟨hnone, hsame⟩ | ⟨a, hone, hnew, -, hinsert⟩
    · rw [hnone]
      exact ih.congr hsame
    · rw [hone]
      exact ih.insert hnew hinsert
  | head h hstep ih => exact ih.congr (baseAnchors_head hstep)

/-! ### The predecessor of a new anchor -/

/-- The newest anchor has the greatest identifier. -/
def NewestGreatest : List BaseAnchorPlaceholder → Prop
  | [] => True
  | a :: older => ∀ b ∈ older, b.anchorId < a.anchorId

/-- Anchors are created only while the newest one has the greatest identifier. -/
def InOrder : Transaction → ChainState → List BaseAnchorPlaceholder → Prop
  | .anchorBatchToBasePlaceholder _, _, created => NewestGreatest created
  | _, _, _ => True

/-- The identifier of the newest anchor. -/
def newestAnchorId (created : List BaseAnchorPlaceholder) : String :=
  newestId BaseAnchorPlaceholder.anchorId zeroHash created

omit K in
theorem compare_isLE {a b : String} : (compare a b).isLE = true ↔ a < b ∨ a = b := by
  show (compareOfLessAndEq a b).isLE = true ↔ _
  unfold compareOfLessAndEq
  split_ifs with hlt heq
  · simp [hlt]
  · simp [heq]
  · simp [hlt, heq]

omit K in
/-- The last key is the newest identifier exactly when that one is the greatest. -/
theorem AnchorBooks.previousAnchorId_iff (hb : AnchorBooks s created) :
    previousAnchorId s = newestAnchorId created ↔ NewestGreatest created := by
  cases created with
  | nil =>
    have hnone : s.baseAnchors.keys.getLast? = none := by
      by_contra hne
      obtain ⟨k, hk⟩ := Option.ne_none_iff_exists'.mp hne
      obtain ⟨⟨a, ha⟩, -⟩ := getLast?_keys.mp hk
      exact absurd ((hb.stored k a).mp ha).1 List.not_mem_nil
    refine iff_of_true ?_ trivial
    rw [previousAnchorId, hnone]
    rfl
  | cons a older =>
    have hnodup := List.nodup_cons.mp hb.nodup
    have ha : s.baseAnchors[a.anchorId]? = some a :=
      (hb.stored _ _).mpr ⟨List.mem_cons_self, rfl⟩
    obtain ⟨k, hk⟩ := exists_getLast?_keys ha
    have hprev : previousAnchorId s = k := by rw [previousAnchorId, hk, Option.getD_some]
    change previousAnchorId s = a.anchorId ↔ ∀ b ∈ older, b.anchorId < a.anchorId
    constructor
    · intro h b hmem
      rw [hprev] at h
      subst h
      obtain ⟨-, hmax⟩ := getLast?_keys.mp hk
      have hb' := hmax b.anchorId b ((hb.stored _ _).mpr ⟨List.mem_cons_of_mem a hmem, rfl⟩)
      rcases compare_isLE.mp hb' with hlt | heq
      · exact hlt
      · exact absurd (List.mem_map.mpr ⟨b, hmem, heq⟩) hnodup.1
    · intro h
      have hlast : s.baseAnchors.keys.getLast? = some a.anchorId := by
        refine getLast?_keys.mpr ⟨⟨a, ha⟩, fun id b hid => compare_isLE.mpr ?_⟩
        obtain ⟨hmem, rfl⟩ := (hb.stored id b).mp hid
        rcases List.mem_cons.mp hmem with rfl | hmem
        · exact Or.inr rfl
        · exact Or.inl (h b hmem)
      rw [previousAnchorId, hlast, Option.getD_some]

/-- Anchors created in order are linked. -/
theorem AnchorRun.linked (h : AnchorRun InOrder s created) :
    Linked BaseAnchorPlaceholder.anchorId BaseAnchorPlaceholder.previousAnchorId zeroHash
      created := by
  induction h with
  | genesis => trivial
  | @transaction s created tx h hok ih =>
    rcases baseAnchors_after tx s with ⟨hnone, -⟩ | ⟨a, hone, -, hprev, -⟩
    · rwa [hnone]
    · rw [hone]
      refine ⟨?_, ih⟩
      -- only the transaction that creates anchors has created one
      cases tx with
      | anchorBatchToBasePlaceholder tx => exact hprev.trans (h.books.previousAnchorId_iff.mpr hok)
      | _ => cases hone
  | head h hstep ih => exact ih

/-- **One chain**: in every run that creates anchors only while the newest one has the greatest
identifier, following the predecessors from the newest anchor visits all anchors, each one once,
in reverse order of creation.  An accepted anchor names the newest one exactly when that has the
greatest identifier. -/
theorem anchors_one_chain :
    (∀ s created, AnchorRun InOrder s created →
      follow BaseAnchorPlaceholder.previousAnchorId (fun id => s.baseAnchors[id]?)
          created.length (newestAnchorId created) = created ∧
        (created.map (·.anchorId)).Nodup ∧
        ∀ (id : String) (a : BaseAnchorPlaceholder),
          s.baseAnchors[id]? = some a ↔ a ∈ created ∧ a.anchorId = id) ∧
    ∀ (s : ChainState) (created : List BaseAnchorPlaceholder) (tx : AnchorBatchToBasePlaceholder),
      AnchorRun (fun _ _ _ => True) s created →
        Accepted (.anchorBatchToBasePlaceholder tx) s →
          (((applyTransaction (.anchorBatchToBasePlaceholder tx) s).2.baseAnchors[
              (createdAnchor s tx).anchorId]?.map (·.previousAnchorId)) =
            some (newestAnchorId created) ↔ NewestGreatest created) := by
  constructor
  · intro s created hrun
    have hb := hrun.books
    refine ⟨follow_newest hrun.linked fun a ha => ?_, hb.nodup, hb.stored⟩
    exact (hb.stored a.anchorId a).mpr ⟨ha, rfl⟩
  · intro s created tx hrun hacc
    have hnew : ¬ s.baseAnchors.contains (createdAnchor s tx).anchorId = true := by
      intro hc
      rw [Accepted, anchorBatch_run, if_pos hc] at hacc
      cases hacc
    rw [anchorBatch_run, if_neg hnew]
    simp only [insert_getElem?_self, Option.map_some, Option.some.injEq]
    exact hrun.books.previousAnchorId_iff

/-! ### Three anchors -/

/-- The request for an anchor with a status. -/
def anchorRequest (finalityStatus : String) : AnchorBatchToBasePlaceholder where
  localRuntimeChainId := "c"
  finalityStatus

/-- The state after one more anchor. -/
def anchoredState (s : ChainState) (finalityStatus : String) : ChainState :=
  (applyTransaction (.anchorBatchToBasePlaceholder (anchorRequest finalityStatus)) s).2

omit K in
/-- The text that is hashed contains the status. -/
theorem anchorIdInput_inj {a b : BaseAnchorPlaceholder}
    (h : Json.canonicalJson (anchorIdInput a) = Json.canonicalJson (anchorIdInput b)) :
    a.finalityStatus = b.finalityStatus := by
  rw [Json.canonicalJson, Json.canonicalJson, Json.render_inj] at h
  have hperm := Json.normalizeValue_obj_perm h
  have hmem : ("finalityStatus", Json.str a.finalityStatus) ∈ Json.normalizeMembers _ :=
    hperm.subset (by simp [Json.normalizeMembers, Serialize.toJson, Json.normalizeValue])
  simpa [Json.normalizeMembers, Serialize.toJson, Json.normalizeValue] using hmem

theorem createdAnchor_inj (hK : CollisionFree K) {f f' : String}
    (h : (createdAnchor s (anchorRequest f)).anchorId =
      (createdAnchor s' (anchorRequest f')).anchorId) : f = f' :=
  anchorIdInput_inj ((hashJson_inj hK).mp h)

/-- An anchor whose identifier is none of the created ones is accepted. -/
theorem AnchorRun.anchor {f : String} (h : AnchorRun (fun _ _ _ => True) s created)
    (hnew : ∀ a ∈ created, a.anchorId ≠ (createdAnchor s (anchorRequest f)).anchorId) :
    Accepted (.anchorBatchToBasePlaceholder (anchorRequest f)) s ∧
      AnchorRun (fun _ _ _ => True) (anchoredState s f)
        (createdAnchor s (anchorRequest f) :: created) := by
  have hnone : ¬ s.baseAnchors.contains (createdAnchor s (anchorRequest f)).anchorId = true := by
    intro hc
    obtain ⟨a, ha⟩ := contains_iff.mp hc
    obtain ⟨hmem, hid⟩ := (h.books.stored _ a).mp ha
    exact hnew a hmem hid
  have hone : createdAnchors s (.anchorBatchToBasePlaceholder (anchorRequest f)) =
      [createdAnchor s (anchorRequest f)] := if_neg hnone
  have hrun : AnchorRun (fun _ _ _ => True) (anchoredState s f)
      (createdAnchors s (.anchorBatchToBasePlaceholder (anchorRequest f)) ++ created) :=
    .transaction h trivial
  rw [hone] at hrun
  exact ⟨by rw [Accepted, anchorBatch_run, if_neg hnone], hrun⟩

/-- If the second of two anchors has the smaller identifier, the third one passes over it. -/
theorem third_anchor_skips (hK : CollisionFree K)
    (hlt : (createdAnchor (anchoredState genesisState "1") (anchorRequest "2")).anchorId <
      (createdAnchor genesisState (anchorRequest "1")).anchorId) :
    let s := anchoredState (anchoredState genesisState "1") "2"
    ∃ a b, AnchorRun (fun _ _ _ => True) s [b, a] ∧
      Accepted (.anchorBatchToBasePlaceholder (anchorRequest "3")) s ∧
      (createdAnchor s (anchorRequest "3")).previousAnchorId ≠ b.anchorId := by
  intro s
  have hne {t t' : ChainState} {f f' : String} (h : f ≠ f') :
      (createdAnchor t (anchorRequest f)).anchorId ≠
        (createdAnchor t' (anchorRequest f')).anchorId := fun hid => h (createdAnchor_inj hK hid)
  obtain ⟨-, hrun₁⟩ := AnchorRun.anchor (f := "1") .genesis (by simp)
  obtain ⟨-, hrun₂⟩ := hrun₁.anchor (f := "2") (by simpa using hne (by decide))
  obtain ⟨hacc, -⟩ := hrun₂.anchor (f := "3") (by simpa using ⟨hne (by decide), hne (by decide)⟩)
  refine ⟨_, _, hrun₂, hacc, fun hprev => ?_⟩
  have hgreatest := hrun₂.books.previousAnchorId_iff.mp hprev
  exact String.lt_asymm hlt (hgreatest _ List.mem_cons_self)

/-- The text hashed into the identifier of an anchor. -/
def anchorPreimage (s : ChainState) (finalityStatus : String) : List UInt8 :=
  jsonPreimage "flowmemory.local_runtime.base_anchor_placeholder.v0"
    (anchorIdInput (anchorBody s "c" finalityStatus))

theorem createdAnchor_anchorId (s : ChainState) (f : String) :
    (createdAnchor s (anchorRequest f)).anchorId = keccakHex (anchorPreimage s f) := rfl

omit K

/-- The digest of the first anchor is that of its Keccak identifier. -/
def anchorDigests : List (List UInt8 × List UInt8) :=
  operatorDigests ++ [(letI : Keccak := tableKeccak operatorDigests
      anchorPreimage genesisState "1",
    abiUintWord 0x7d4424383e1cecd14812ca0d3308ecfb98c01b51c254efc24dcb122269cd9d87)]

theorem anchorDigests_collisionFree : CollisionFree (tableKeccak anchorDigests) :=
  tableKeccak_collisionFree (by decide +kernel) (by decide +kernel)

/-- The domain of the identifiers of anchors is the only one with this letter. -/
theorem ne_anchorPreimage [Keccak] {s : ChainState} {f : String} {cs : List Char}
    (h : cs[25]? ≠ some 'b') : utf8 cs ≠ anchorPreimage s f := by
  intro heq
  rw [utf8_injective heq, List.getElem?_append_left (by decide)] at h
  exact h (by decide)

theorem keccakHex_anchorDigests {cs : List Char} (h : cs[25]? ≠ some 'b') :
    @keccakHex (tableKeccak anchorDigests) (utf8 cs) =
      @keccakHex (tableKeccak operatorDigests) (utf8 cs) :=
  congrArg (fun bs => String.ofList ('0' :: 'x' :: hexEncode bs))
    (tableKeccak_append (@ne_anchorPreimage (tableKeccak operatorDigests) _ _ _ h))

theorem hashJson_anchorDigests {domain : String} {v : Json}
    (hlen : 25 < domain.toList.length) (h : domain.toList[25]? ≠ some 'b') :
    @hashJson (tableKeccak anchorDigests) domain v =
      @hashJson (tableKeccak operatorDigests) domain v := by
  refine keccakHex_anchorDigests ?_
  rwa [List.getElem?_append_left hlen]

theorem genesisState_anchorDigests :
    @genesisState (tableKeccak anchorDigests) = @genesisState (tableKeccak operatorDigests) := by
  have hkeys : @defaultOperatorKeyReference (tableKeccak anchorDigests) =
      @defaultOperatorKeyReference (tableKeccak operatorDigests) := by
    simp only [defaultOperatorKeyReference]
    rw [keccakHex_anchorDigests (by decide), keccakHex_anchorDigests (by decide),
      keccakHex_anchorDigests (by decide), keccakHex_anchorDigests (by decide)]
  simp only [genesisState, defaultOperatorKeyReferences, hkeys]

theorem anchorBody_anchorDigests (s : ChainState) (f : String) :
    @anchorBody (tableKeccak anchorDigests) s "c" f =
      @anchorBody (tableKeccak operatorDigests) s "c" f := by
  have hmap {α : Type} [Serialize α] (schema : String) (entries : BTreeMap α) :
      @mapRoot (tableKeccak anchorDigests) _ _ schema entries =
        @mapRoot (tableKeccak operatorDigests) _ _ schema entries :=
    hashJson_anchorDigests (by decide) (by decide)
  have hstate : @stateRoot (tableKeccak anchorDigests) s =
      @stateRoot (tableKeccak operatorDigests) s := hashJson_anchorDigests (by decide) (by decide)
  simp only [anchorBody, stateMapRoots, hmap, hstate]

/-- No key of the operator is hashed as an anchor is. -/
theorem lookup_operatorDigests [Keccak] (s : ChainState) (f : String) :
    operatorDigests.lookup (anchorPreimage s f) = none := by
  have hne {text : String} {d : ℕ} (h : text.toList[25]? ≠ some 'b') :
      anchorPreimage s f ≠ (knownDigest text d).1 := (ne_anchorPreimage h).symm
  rw [List.lookup_eq_none_iff]
  simp only [operatorDigests, List.forall_mem_cons, bne_iff_ne]
  exact ⟨hne (by decide), hne (by decide), hne (by decide), hne (by decide), by simp⟩

/-- The first identifier is the known one. -/
theorem firstAnchorId :
    letI : Keccak := tableKeccak anchorDigests
    (createdAnchor genesisState (anchorRequest "1")).anchorId =
      "0x7d4424383e1cecd14812ca0d3308ecfb98c01b51c254efc24dcb122269cd9d87" := by
  have htext : @anchorPreimage (tableKeccak anchorDigests)
      (@genesisState (tableKeccak anchorDigests)) "1" =
        @anchorPreimage (tableKeccak operatorDigests)
          (@genesisState (tableKeccak operatorDigests)) "1" := by
    simp only [anchorPreimage, genesisState_anchorDigests, anchorBody_anchorDigests]
  rw [@createdAnchor_anchorId (tableKeccak anchorDigests), @keccakHex.eq_1 (tableKeccak anchorDigests),
    htext, tableKeccak_digest, anchorDigests, List.lookup_append,
    @lookup_operatorDigests (tableKeccak operatorDigests), List.lookup_cons_self]
  decide +kernel

/-- Every other anchor is hashed to its text behind zeros. -/
theorem otherAnchorId {s : ChainState} {f : String} (hf : f ≠ "1") :
    letI : Keccak := tableKeccak anchorDigests
    (createdAnchor s (anchorRequest f)).anchorId =
      String.ofList ('0' :: 'x' :: hexEncode (List.replicate 32 0 ++ 1 :: anchorPreimage s f)) := by
  have hne : @anchorPreimage (tableKeccak anchorDigests) s f ≠
      @anchorPreimage (tableKeccak operatorDigests)
        (@genesisState (tableKeccak operatorDigests)) "1" :=
    fun heq => hf (anchorIdInput_inj (jsonPreimage_inj.mp heq))
  have hother : (tableKeccak anchorDigests).digest (@anchorPreimage (tableKeccak anchorDigests) s f) =
      List.replicate 32 0 ++ 1 :: @anchorPreimage (tableKeccak anchorDigests) s f := by
    refine (tableKeccak_append hne).trans ?_
    rw [tableKeccak_digest, @lookup_operatorDigests (tableKeccak anchorDigests), Option.getD_none]
  rw [@createdAnchor_anchorId (tableKeccak anchorDigests), @keccakHex.eq_1 (tableKeccak anchorDigests),
    hother]

/-- The third anchor names the first one, not the second. -/
theorem anchor_skips_newest :
    letI : Keccak := tableKeccak anchorDigests
    let s := anchoredState (anchoredState genesisState "1") "2"
    ∃ a b, AnchorRun (fun _ _ _ => True) s [b, a] ∧
      Accepted (.anchorBatchToBasePlaceholder (anchorRequest "3")) s ∧
      (createdAnchor s (anchorRequest "3")).previousAnchorId ≠ b.anchorId := by
  refine @third_anchor_skips (tableKeccak anchorDigests) anchorDigests_collisionFree ?_
  rw [firstAnchorId, otherAnchorId (by decide), String.lt_iff, String.toList_ofList]
  -- the first digits are `0` and `7`
  exact .cons (.cons (.rel (by decide)))

end FlowMemory
