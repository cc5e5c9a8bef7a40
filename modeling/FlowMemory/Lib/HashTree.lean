import Mathlib.Data.List.Basic

/-! # Trees that are hashed level by level

A list is reduced level by level: neighbours are joined, and a last element without a neighbour goes
to the next level as it is.  Whatever is joined, the result stands for a tree (`rootM_map`) whose
leaves are the elements of the list in their order (`exists_root`). -/

namespace FlowMemory

variable {α β : Type}

/-- One level up. -/
def levelM (join : α → α → Option α) : List α → Option (List α)
  | [] => some []
  | [a] => some [a]
  | left :: right :: rest => do
      let joined ← join left right
      let rest ← levelM join rest
      pure (joined :: rest)

/-- The element that remains, if there is one after fewer levels than `fuel`. -/
def rootM (join : α → α → Option α) : ℕ → List α → Option α
  | 0, _ => none
  | fuel + 1, level =>
    if level.length > 1 then (levelM join level).bind (rootM join fuel) else level.head?

inductive HashTree (β : Type) where
  | leaf (b : β)
  | node (left right : HashTree β)

def HashTree.leaves : HashTree β → List β
  | .leaf b => [b]
  | .node left right => left.leaves ++ right.leaves

def HashTree.map (f : β → α) : HashTree β → HashTree α
  | .leaf b => .leaf (f b)
  | .node left right => .node (left.map f) (right.map f)

/-- Trees are joined into one. -/
def joinTrees (left right : HashTree β) : Option (HashTree β) := some (.node left right)

variable {join : α → α → Option α} {f : HashTree β → α} {trees : List (HashTree β)} {fuel : ℕ}

theorem levelM_map (hjoin : ∀ s t, join (f s) (f t) = some (f (.node s t))) :
    levelM join (trees.map f) = (levelM joinTrees trees).map (List.map f) := by
  fun_induction levelM joinTrees trees with
  | case1 | case2 => rfl
  | case3 left right rest ih =>
    simp only [List.map_cons, levelM, hjoin, ih]
    cases levelM joinTrees rest <;> rfl

theorem rootM_map (hjoin : ∀ s t, join (f s) (f t) = some (f (.node s t))) :
    rootM join fuel (trees.map f) = (rootM joinTrees fuel trees).map f := by
  induction fuel generalizing trees with
  | zero => rfl
  | succ fuel ih =>
    simp only [rootM, List.length_map, levelM_map hjoin]
    split_ifs
    · cases levelM joinTrees trees with
      | none => rfl
      | some next => exact ih
    · exact List.head?_map

theorem exists_level (trees : List (HashTree β)) : ∃ next, levelM joinTrees trees = some next ∧
    next.flatMap HashTree.leaves = trees.flatMap HashTree.leaves ∧
    next.length = (trees.length + 1) / 2 := by
  fun_induction levelM joinTrees trees with
  | case1 | case2 => simp
  | case3 left right rest ih =>
    obtain ⟨next, hnext, hleaves, hlength⟩ := ih
    refine ⟨.node left right :: next, by rw [hnext]; rfl, ?_, ?_⟩
    · simp [HashTree.leaves, hleaves]
    · simp only [List.length_cons, hlength]
      omega

/-- The levels end in one tree. -/
theorem exists_root (hne : trees ≠ []) (hfuel : trees.length ≤ fuel) :
    ∃ t, rootM joinTrees fuel trees = some t ∧ t.leaves = trees.flatMap HashTree.leaves := by
  have hpos := List.length_pos_iff.mpr hne
  induction fuel generalizing trees with
  | zero => omega
  | succ fuel ih =>
    rw [rootM]
    split_ifs with hlength
    · obtain ⟨next, hnext, hleaves, hhalf⟩ := exists_level trees
      have hnonempty : next ≠ [] := List.length_pos_iff.mp (by omega)
      obtain ⟨t, ht, htleaves⟩ := ih hnonempty (by omega) (by omega)
      exact ⟨t, by rw [hnext]; exact ht, htleaves.trans hleaves⟩
    · have hone : trees.length = 1 := by omega
      obtain ⟨t, rfl⟩ := List.length_eq_one_iff.mp hone
      exact ⟨t, rfl, by simp⟩

end FlowMemory
