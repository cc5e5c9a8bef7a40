import Mathlib.Algebra.Order.BigOperators.Group.List
import Mathlib.Algebra.Order.Group.Nat
import Mathlib.Data.List.Nodup
import Mathlib.Tactic.SplitIfs
import Mathlib.Tactic.Linarith

/-! # Sums and counts over ordered maps

`OrderedMap κ α` is the finite map sorted by key; two maps are equal when they have the same
entries.  The library maps of Lean supply look-up and insertion; this module adds what is
needed to reason about in-place updates and about scans over all values:

* `vals m` lists the values in key order and `total f m` sums `f` over them;
* one insertion removes the value that was at the key, if any, and adds the new one
  (`vals_insert`), so every sum changes by exactly these two values (`total_insert`). -/

namespace FlowMemory

/-- Finite maps sorted by key. -/
abbrev OrderedMap (κ α : Type) [Ord κ] := Std.ExtTreeMap κ α compare

namespace OrderedMap

variable {κ α : Type} [Ord κ] [Std.TransOrd κ] [Std.LawfulEqOrd κ] (m : OrderedMap κ α) {v w : α}
  {a k : κ} {f : α → α} {P : κ → α → Prop}

/-- The values in key order. -/
def vals : List α := m.toList.map Prod.snd

/-- The sum of `f` over all values. -/
def total (f : α → ℕ) : ℕ := (vals m).map f |>.sum

/-- The number of values that satisfy `p`. -/
def countVals (p : α → Bool) : ℕ := (vals m).countP p

/-- Rewrite the value at a key, if there is one. -/
def update (k : κ) (f : α → α) : OrderedMap κ α :=
  match m[k]? with
  | some v => m.insert k (f v)
  | none => m

variable {m}

omit [Std.LawfulEqOrd κ] in
@[simp] theorem vals_empty : vals (∅ : OrderedMap κ α) = [] := by
  simp [vals]

omit [Std.LawfulEqOrd κ] in
@[simp] theorem total_empty (f : α → ℕ) : total (∅ : OrderedMap κ α) f = 0 := by
  simp [total]

theorem mem_vals : v ∈ vals m ↔ ∃ k : κ, m[k]? = some v := by
  simp [vals, Std.ExtTreeMap.mem_toList_iff_getElem?_eq_some]

theorem any_vals {p : α → Bool} : (vals m).any p = true ↔
    ∃ (k : κ) (v : α), m[k]? = some v ∧ p v = true := by
  rw [List.any_eq_true]
  constructor
  · rintro ⟨v, hv, hp⟩
    obtain ⟨k, hk⟩ := mem_vals.mp hv
    exact ⟨k, v, hk, hp⟩
  · rintro ⟨k, v, hk, hp⟩
    exact ⟨v, mem_vals.mpr ⟨k, hk⟩, hp⟩

omit [Std.LawfulEqOrd κ] in
theorem contains_eq_false : ¬ m.contains k = true ↔ m[k]? = none := by
  rw [Std.ExtTreeMap.contains_eq_isSome_getElem?, Option.not_isSome_iff_eq_none]

omit [Std.LawfulEqOrd κ] in
theorem contains_iff : m.contains k = true ↔ ∃ v, m[k]? = some v := by
  rw [Std.ExtTreeMap.contains_eq_isSome_getElem?, Option.isSome_iff_exists]

omit [Std.LawfulEqOrd κ] in
theorem mem_iff : k ∈ m ↔ ∃ v, m[k]? = some v := by
  rw [← Std.ExtTreeMap.contains_iff_mem, contains_iff]

/-- The last key is the greatest one. -/
theorem getLast?_keys : m.keys.getLast? = some k ↔
    (∃ v, m[k]? = some v) ∧ ∀ (a : κ) (v : α), m[a]? = some v → (compare a k).isLE = true := by
  rw [← Std.ExtTreeMap.maxKey?_eq_getLast?_keys,
    Std.ExtTreeMap.maxKey?_eq_some_iff_mem_and_forall, mem_iff]
  refine and_congr_right fun _ => ⟨fun h a v ha => h a (mem_iff.mpr ⟨v, ha⟩), fun h a ha => ?_⟩
  obtain ⟨v, hv⟩ := mem_iff.mp ha
  exact h a v hv

theorem exists_getLast?_keys (h : m[k]? = some v) :
    ∃ last, m.keys.getLast? = some last := by
  have hmem : k ∈ m.keys := Std.ExtTreeMap.mem_keys.mpr (mem_iff.mpr ⟨v, h⟩)
  exact ⟨_, List.getLast?_eq_some_getLast (List.ne_nil_of_mem hmem)⟩

theorem getElem?_insert [DecidableEq κ] :
    (m.insert k v)[a]? = if k = a then some v else m[a]? := by
  rw [Std.ExtTreeMap.getElem?_insert]
  simp only [Std.LawfulEqOrd.compare_eq_iff_eq]

omit [Std.LawfulEqOrd κ] in
theorem insert_getElem?_self : (m.insert k v)[k]? = some v :=
  Std.ExtTreeMap.getElem?_insert_self

theorem insert_getElem?_of_ne (h : k ≠ a) : (m.insert k v)[a]? = m[a]? := by
  rw [Std.ExtTreeMap.getElem?_insert, if_neg]
  simpa using h

omit [Std.LawfulEqOrd κ] in
theorem update_of_some (h : m[k]? = some v) :
    update m k f = m.insert k (f v) := by
  rw [update, h]

theorem getElem?_update [DecidableEq κ] :
    (update m k f)[a]? = if k = a then m[a]?.map f else m[a]? := by
  unfold update
  cases h : m[k]? with
  | none =>
    split_ifs with hk
    · rw [← hk, h, Option.map_none]
    · rfl
  | some v =>
    rw [getElem?_insert]
    split_ifs with hk
    · rw [← hk, h, Option.map_some]
    · rfl

theorem update_eq_none [DecidableEq κ] :
    (update m k f)[a]? = none ↔ m[a]? = none := by
  rw [getElem?_update]
  split_ifs <;> simp

/-- An update is invisible to an observation that it keeps. -/
theorem map_getElem?_update [DecidableEq κ] {β : Type} {g : α → β}
    (h : ∀ v, g (f v) = g v) : (update m k f)[a]?.map g = m[a]?.map g := by
  rw [getElem?_update]
  split_ifs
  · simp [Function.comp_def, h]
  · rfl

/-- What holds of every entry, and is kept by the update, holds of every entry afterwards. -/
theorem forall_update [DecidableEq κ]
    (hm : ∀ a v, m[a]? = some v → P a v) (hf : ∀ a v, P a v → P a (f v)) (a : κ) (v : α)
    (h : (update m k f)[a]? = some v) : P a v := by
  rw [getElem?_update] at h
  split_ifs at h
  · obtain ⟨w, hw, rfl⟩ := Option.map_eq_some_iff.mp h
    exact hf a w (hm a w hw)
  · exact hm a v h

/-- What holds of every entry and of the inserted one holds of every entry afterwards. -/
theorem forall_insert [DecidableEq κ]
    (hm : ∀ a v, m[a]? = some v → P a v) (hw : P k w) (a : κ) (v : α)
    (h : (m.insert k w)[a]? = some v) : P a v := by
  rw [getElem?_insert] at h
  split_ifs at h with hk
  · rw [← Option.some.inj h, ← hk]
    exact hw
  · exact hm a v h

theorem insert_insert [DecidableEq κ] :
    (m.insert k v).insert k w = m.insert k w := by
  apply Std.ExtTreeMap.ext_getElem?
  intro a
  simp only [getElem?_insert]
  split_ifs <;> rfl

theorem update_insert [DecidableEq κ] :
    update (m.insert k v) k f = m.insert k (f v) := by
  rw [update_of_some insert_getElem?_self, insert_insert]

/-- Filling an empty slot and then writing it is one write. -/
theorem insert_insertIfNew [DecidableEq κ] :
    (m.insertIfNew k v).insert k w = m.insert k w := by
  apply Std.ExtTreeMap.ext_getElem?
  intro a
  simp only [getElem?_insert, Std.ExtTreeMap.getElem?_insertIfNew,
    Std.LawfulEqOrd.compare_eq_iff_eq]
  split_ifs with h₁ h₂
  · rfl
  · exact absurd h₂.1 h₁
  · rfl

theorem insertIfNew_of_some [DecidableEq κ] (h : m[k]? = some w) :
    m.insertIfNew k v = m := by
  apply Std.ExtTreeMap.ext_getElem?
  intro a
  have hk : k ∈ m := Std.ExtTreeMap.mem_iff_isSome_getElem?.mpr (by rw [h]; rfl)
  rw [Std.ExtTreeMap.getElem?_insertIfNew, if_neg]
  exact fun hc => hc.2 hk

theorem insertIfNew_of_none [DecidableEq κ] (h : m[k]? = none) :
    m.insertIfNew k v = m.insert k v := by
  apply Std.ExtTreeMap.ext_getElem?
  intro a
  have hk : k ∉ m := by rw [Std.ExtTreeMap.mem_iff_isSome_getElem?, h]; simp
  rw [Std.ExtTreeMap.getElem?_insertIfNew, Std.ExtTreeMap.getElem?_insert]
  simp only [hk, not_false_eq_true, and_true]

theorem insert_eq_self [DecidableEq κ] (h : m[k]? = some v) : m.insert k v = m := by
  apply Std.ExtTreeMap.ext_getElem?
  intro a
  rw [getElem?_insert]
  split_ifs with hk
  · rw [← hk, h]
  · rfl

theorem insertIfNew_eq_insert [DecidableEq κ] :
    m.insertIfNew k v = m.insert k (m[k]?.getD v) := by
  cases h : m[k]? with
  | some w => rw [insertIfNew_of_some h, Option.getD_some, insert_eq_self h]
  | none => rw [insertIfNew_of_none h, Option.getD_none]

theorem getElem?_insertIfNew_self [DecidableEq κ] :
    (m.insertIfNew k v)[k]? = some (m[k]?.getD v) := by
  cases h : m[k]? with
  | some w => rw [insertIfNew_of_some h, h, Option.getD_some]
  | none =>
    rw [Std.ExtTreeMap.getElem?_insertIfNew, if_pos, Option.getD_none]
    refine ⟨Std.LawfulEqOrd.compare_eq_iff_eq.mpr rfl, fun hk => ?_⟩
    rw [Std.ExtTreeMap.mem_iff_isSome_getElem?, h] at hk
    cases hk

theorem getElem?_insertIfNew_of_ne (h : k ≠ a) :
    (m.insertIfNew k v)[a]? = m[a]? := by
  rw [Std.ExtTreeMap.getElem?_insertIfNew, if_neg]
  rintro ⟨hc, -⟩
  exact h (Std.LawfulEqOrd.compare_eq_iff_eq.mp hc)

omit [Std.LawfulEqOrd κ] in
theorem nodup_toList : m.toList.Nodup := by
  have h : (m.toList.map Prod.fst).Nodup := by
    rw [Std.ExtTreeMap.map_fst_toList_eq_keys]
    exact Std.ExtTreeMap.nodup_keys
  exact List.Nodup.of_map _ h

variable [DecidableEq κ]

/-- The entries after an insertion: the new one, and the old ones at other keys. -/
theorem toList_insert_perm (k : κ) (v : α) :
    (m.insert k v).toList.Perm ((k, v) :: m.toList.filter (fun e => decide (e.1 ≠ k))) := by
  rw [List.perm_ext_iff_of_nodup nodup_toList]
  · rintro ⟨a, w⟩
    rw [Std.ExtTreeMap.mem_toList_iff_getElem?_eq_some, getElem?_insert, List.mem_cons,
      List.mem_filter, Std.ExtTreeMap.mem_toList_iff_getElem?_eq_some]
    by_cases h : k = a
    · subst h
      simp [eq_comm]
    · have h' : a ≠ k := fun e => h e.symm
      simp [h, h']
  · rw [List.nodup_cons]
    exact ⟨by simp, nodup_toList.filter _⟩

/-- The entries before an insertion: the one at the key, if any, and those at other keys. -/
theorem toList_split_perm (k : κ) :
    m.toList.Perm ((m[k]?.map fun w => (k, w)).toList ++
      m.toList.filter (fun e => decide (e.1 ≠ k))) := by
  cases h : m[k]? with
  | some w =>
    have hperm := toList_insert_perm (m := m) k w
    rwa [insert_eq_self h] at hperm
  | none =>
    have hrest : m.toList.filter (fun e => decide (e.1 ≠ k)) = m.toList := by
      refine List.filter_eq_self.mpr fun e he => decide_eq_true ?_
      rintro rfl
      cases h.symm.trans (Std.ExtTreeMap.mem_toList_iff_getElem?_eq_some.mp he)
    rw [hrest]
    rfl

/-- One insertion replaces the value at the key and touches no other. -/
theorem vals_insert (m : OrderedMap κ α) (k : κ) (v : α) :
    ∃ rest, (vals (m.insert k v)).Perm (v :: rest) ∧ (vals m).Perm (m[k]?.toList ++ rest) := by
  refine ⟨(m.toList.filter (fun e => decide (e.1 ≠ k))).map Prod.snd, ?_, ?_⟩
  · simpa [vals] using (toList_insert_perm (m := m) k v).map Prod.snd
  · have h := (toList_split_perm (m := m) k).map Prod.snd
    rw [List.map_append] at h
    refine h.trans (List.Perm.append_right _ (List.Perm.of_eq ?_))
    cases m[k]? <;> simp

theorem total_insert (m : OrderedMap κ α) (f : α → ℕ) (k : κ) (v : α) :
    total (m.insert k v) f + (m[k]?.elim 0 f) = total m f + f v := by
  obtain ⟨rest, hnew, hold⟩ := vals_insert m k v
  have h₁ : total (m.insert k v) f = f v + (rest.map f).sum := by
    simpa [total] using (hnew.map f).sum_eq
  have h₂ : total m f = m[k]?.elim 0 f + (rest.map f).sum := by
    have h := (hold.map f).sum_eq
    rw [List.map_append, List.sum_append] at h
    rw [total, h]
    cases m[k]? <;> simp
  omega

theorem total_insert_of_none (h : m[k]? = none) (f : α → ℕ) (v : α) :
    total (m.insert k v) f = total m f + f v := by
  have := total_insert m f k v
  simpa [h] using this

theorem total_insert_of_some (h : m[k]? = some w) (f : α → ℕ) (v : α) :
    total (m.insert k v) f + f w = total m f + f v := by
  have := total_insert m f k v
  simpa [h] using this

/-- A value that contributes what the old one did leaves the sum as it was. -/
theorem total_insert_same (h : m[k]? = some w) {f : α → ℕ} (hf : f v = f w) :
    total (m.insert k v) f = total m f := by
  have := total_insert_of_some h f v
  omega

theorem total_update_same {g : α → α} {f : α → ℕ} (hf : ∀ v, f (g v) = f v) :
    total (update m k g) f = total m f := by
  unfold update
  cases h : m[k]? with
  | none => rfl
  | some v => exact total_insert_same h (hf v)

omit [DecidableEq κ] in
/-- Maps with the same entries that satisfy `p` have equal counts. -/
theorem countVals_congr {m' : OrderedMap κ α} {p : α → Bool}
    (h : ∀ (k : κ) (v : α), p v = true → (m'[k]? = some v ↔ m[k]? = some v)) :
    countVals m' p = countVals m p := by
  have hperm : (m'.toList.filter (p ·.2)).Perm (m.toList.filter (p ·.2)) := by
    rw [List.perm_ext_iff_of_nodup (nodup_toList.filter _) (nodup_toList.filter _)]
    rintro ⟨k, v⟩
    simp only [List.mem_filter, Std.ExtTreeMap.mem_toList_iff_getElem?_eq_some]
    exact and_congr_left (h k v)
  have hcount (m : OrderedMap κ α) : countVals m p = (m.toList.filter (p ·.2)).length := by
    rw [countVals, vals, List.countP_map, List.countP_eq_length_filter]
    rfl
  rw [hcount, hcount, hperm.length_eq]

omit [DecidableEq κ] in
theorem total_eq_zero {f : α → ℕ} (h : ∀ (k : κ) (v : α), m[k]? = some v → f v = 0) :
    total m f = 0 := by
  unfold total
  rw [List.sum_eq_zero]
  intro n hn
  obtain ⟨v, hv, rfl⟩ := List.mem_map.mp hn
  obtain ⟨k, hk⟩ := mem_vals.mp hv
  exact h k v hk

end OrderedMap

end FlowMemory
