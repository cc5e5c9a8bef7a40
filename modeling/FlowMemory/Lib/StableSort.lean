import Mathlib.Data.List.Sort

/-! # Stable sorting

Insertion sort keeps the order of elements that the order does not separate, and elements that are
left out do not change the order of the others. -/

namespace FlowMemory

variable {α : Type} (r : α → α → Prop) [DecidableRel r] (p : α → Bool) {l : List α}

theorem filter_orderedInsert [IsTrans α r] (a : α) (h : l.Pairwise r) :
    (l.orderedInsert r a).filter p =
      if p a then (l.filter p).orderedInsert r a else l.filter p := by
  induction l with
  | nil => cases hp : p a <;> simp [hp]
  | cons b l ih =>
    obtain ⟨hb, hl⟩ := List.pairwise_cons.mp h
    by_cases hab : r a b
    · have hall : ∀ c ∈ (b :: l).filter p, r a c := by
        intro c hc
        rcases List.mem_cons.mp (List.mem_of_mem_filter hc) with rfl | hc
        · exact hab
        · exact IsTrans.trans a b c hab (hb c hc)
      have hinsert : ((b :: l).filter p).orderedInsert r a = a :: (b :: l).filter p := by
        cases hfilter : (b :: l).filter p with
        | nil => rfl
        | cons c cs =>
          exact List.orderedInsert_cons_of_le r cs (hall c (hfilter ▸ List.mem_cons_self))
      rw [List.orderedInsert_cons_of_le r l hab, List.filter_cons, hinsert]
    · rw [List.orderedInsert_of_not_le r l hab, List.filter_cons, ih hl]
      cases hpa : p a <;> cases hpb : p b <;> simp [hpb, hab]

theorem filter_insertionSort [Std.Total r] [IsTrans α r] (l : List α) :
    (l.insertionSort r).filter p = (l.filter p).insertionSort r := by
  induction l with
  | nil => rfl
  | cons a l ih =>
    rw [List.insertionSort_cons, filter_orderedInsert r p a (List.pairwise_insertionSort r l), ih,
      List.filter_cons]
    cases p a <;> simp

variable {r} in
theorem insertionSort_eq_singleton {a : α} : l.insertionSort r = [a] ↔ l = [a] := by
  have hperm := List.perm_insertionSort r l
  constructor
  · intro h
    rw [h] at hperm
    exact List.perm_singleton.mp hperm.symm
  · rintro rfl
    rfl

variable {r} in
theorem insertionSort_eq_nil : l.insertionSort r = [] ↔ l = [] := by
  have hperm := List.perm_insertionSort r l
  constructor
  · intro h
    rw [h] at hperm
    exact List.perm_nil.mp hperm.symm
  · rintro rfl
    rfl

end FlowMemory
