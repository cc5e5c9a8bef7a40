import Mathlib.Data.List.Forall2
import FlowMemory.Lib.Txn

/-! # Lists of fallible computations

A function that may fail, applied to all elements of a list, returns exactly if it returns for every
element, and then the results correspond to the elements one by one. -/

namespace FlowMemory

open Check

variable {α β ε : Type} {as : List α} {bs : List β}

theorem mapM_ok {f : α → Except ε β} :
    as.mapM f = .ok bs ↔ List.Forall₂ (fun a b => f a = .ok b) as bs := by
  induction as generalizing bs with
  | nil => simp [pure_ok]
  | cons a as ih =>
    simp only [List.mapM_cons, List.forall₂_cons_left_iff, bind_ok, pure_ok, ih]
    grind

theorem mapM_some {f : α → Option β} :
    as.mapM f = some bs ↔ List.Forall₂ (fun a b => f a = some b) as bs := by
  induction as generalizing bs with
  | nil => simp [eq_comm]
  | cons a as ih =>
    simp only [List.mapM_cons, List.forall₂_cons_left_iff, Option.bind_eq_bind,
      Option.bind_eq_some_iff, ih, Option.pure_def, Option.some.injEq]
    grind

theorem mapM_map {γ : Type} {f : α → Option β} {g : β → γ} {f' : α → Option γ}
    (h : ∀ a ∈ as, f' a = (f a).map g) : as.mapM f' = (as.mapM f).map (List.map g) := by
  induction as with
  | nil => rfl
  | cons a as ih =>
    rw [List.forall_mem_cons] at h
    rw [List.mapM_cons, List.mapM_cons, ih h.2, h.1]
    cases f a <;> cases as.mapM f <;> rfl

theorem filterMap_of_mapM {f : α → Option β} (h : as.mapM f = some bs) : as.filterMap f = bs := by
  rw [mapM_some] at h
  induction h with
  | nil => rfl
  | cons hab _ ih => rw [List.filterMap_cons_some hab, ih]

/-- What holds of a fold that may fail, from what each of its steps does to the elements so far. -/
theorem foldlM_ok {σ : Type} {f : σ → α → Except ε σ} {P : List α → σ → Prop} {s s' : σ}
    (hstep : ∀ before a s s', a ∈ as → P before s → f s a = .ok s' → P (before ++ [a]) s')
    (hinit : P [] s) (h : as.foldlM f s = .ok s') : P as s' := by
  suffices ∀ before s, P before s → as.foldlM f s = .ok s' → P (before ++ as) s' from this [] s hinit h
  clear hinit h
  induction as with
  | nil =>
    rintro before s hs ⟨⟩
    rwa [List.append_nil]
  | cons a as ih =>
    intro before s hs h
    rw [List.foldlM_cons] at h
    obtain ⟨next, hf, h⟩ := bind_ok.mp h
    rw [List.append_cons]
    exact ih (fun before b s s' hb => hstep before b s s' (List.mem_cons_of_mem a hb)) _ next
      (hstep before a s next List.mem_cons_self hs hf) h

section forall₂

variable {R : α → β → Prop} {a : α} {b : β}

theorem exists_left_of_mem (h : List.Forall₂ R as bs) (hb : b ∈ bs) : ∃ a ∈ as, R a b := by
  induction h with
  | nil => nomatch hb
  | @cons a b' _ _ hab _ ih =>
    rcases List.mem_cons.mp hb with rfl | hb
    · exact ⟨a, List.mem_cons_self, hab⟩
    · obtain ⟨a', ha', hab'⟩ := ih hb
      exact ⟨a', List.mem_cons_of_mem _ ha', hab'⟩

theorem exists_right_of_mem (h : List.Forall₂ R as bs) (ha : a ∈ as) : ∃ b ∈ bs, R a b := by
  induction h with
  | nil => nomatch ha
  | @cons a' b _ _ hab _ ih =>
    rcases List.mem_cons.mp ha with rfl | ha
    · exact ⟨b, List.mem_cons_self, hab⟩
    · obtain ⟨b', hb', hab'⟩ := ih ha
      exact ⟨b', List.mem_cons_of_mem _ hb', hab'⟩

end forall₂

end FlowMemory
