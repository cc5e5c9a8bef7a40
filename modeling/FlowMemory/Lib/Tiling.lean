import Mathlib.Data.List.Chain

/-! # Consecutive windows

A list of windows **tiles** a range of numbers if none of them is empty and each starts one above the
end of the one before it.  Then different windows are disjoint, and every number between the start of
the first and the end of the last one is in a window. -/

namespace FlowMemory

variable {α : Type}

structure Tiles (first last : α → ℕ) (windows : List α) : Prop where
  nonempty : ∀ w ∈ windows, first w ≤ last w
  consecutive : windows.IsChain fun v w => first w = last v + 1

namespace Tiles

variable {first last : α → ℕ} {windows : List α} {v w : α}

theorem nil : Tiles first last [] := ⟨nofun, .nil⟩

theorem concat (h : Tiles first last windows) (hle : first w ≤ last w)
    (hnext : ∀ v ∈ windows.getLast?, first w = last v + 1) : Tiles first last (windows ++ [w]) where
  nonempty := by
    intro u hu
    rcases List.mem_append.mp hu with hu | hu
    · exact h.nonempty u hu
    · cases List.mem_singleton.mp hu
      exact hle
  consecutive := by
    refine List.isChain_append.mpr ⟨h.consecutive, .singleton w, ?_⟩
    intro v hv u hu
    cases hu
    exact hnext v hv

theorem tail (h : Tiles first last (w :: windows)) : Tiles first last windows :=
  ⟨fun v hv => h.nonempty v (List.mem_cons_of_mem _ hv), h.consecutive.tail⟩

theorem lt_of_mem_tail (h : Tiles first last (w :: windows)) (hv : v ∈ windows) :
    last w < first v := by
  induction windows generalizing w with
  | nil => nomatch hv
  | cons u windows ih =>
    have hnext := (List.isChain_cons_cons.mp h.consecutive).1
    rcases List.mem_cons.mp hv with rfl | hv
    · omega
    · have hlater := ih h.tail hv
      have hu := h.nonempty u (List.mem_cons_of_mem _ List.mem_cons_self)
      omega

theorem disjoint (h : Tiles first last windows) :
    windows.Pairwise fun v w => last v < first w := by
  induction windows with
  | nil => exact .nil
  | cons w windows ih => exact .cons (fun v hv => h.lt_of_mem_tail hv) (ih h.tail)

end Tiles

end FlowMemory
