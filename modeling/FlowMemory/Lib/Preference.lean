import Mathlib.Data.List.Basic

/-! # Keeping the best of several candidates

A holder compares its value with one candidate after the other and takes over every candidate
that is **better** than what it holds.  The relation only has to be transitive and to leave
room for ties: of two values related by `better`, a third one is better than the first or
worse than the second.

`preferAll_spec` says which value is held in the end: the first of the best candidates, or the
old value if no candidate is better.  `preferAll_iff` turns a property of that value into one
of the candidates. -/

namespace FlowMemory

variable {α : Type} (better : α → α → Prop) [DecidableRel better]

/-- Take over `b` if it is better than `a`. -/
def prefer (a b : α) : α := if better a b then b else a

/-- Look at all candidates in order. -/
def preferAll (a : α) (bs : List α) : α := bs.foldl (prefer better) a

/-- The first one of the best candidates. -/
def FirstBest (a : α) (bs : List α) (b : α) : Prop :=
  ∃ before after, bs = before ++ b :: after ∧ better a b ∧ (∀ c ∈ before, better c b) ∧
    ∀ c ∈ after, ¬ better b c

variable {better} {a b : α} {bs : List α}

theorem preferAll_cons : preferAll better a (b :: bs) = preferAll better (prefer better a b) bs :=
  rfl

theorem preferAll_eq_self (h : ∀ b ∈ bs, ¬ better a b) : preferAll better a bs = a := by
  induction bs with
  | nil => rfl
  | cons b bs ih =>
    rw [preferAll_cons, prefer, if_neg (h b List.mem_cons_self)]
    exact ih fun c hc => h c (List.mem_cons_of_mem b hc)

variable (better) in
theorem preferAll_mem (a : α) (bs : List α) : preferAll better a bs = a ∨
    preferAll better a bs ∈ bs := by
  induction bs generalizing a with
  | nil => exact Or.inl rfl
  | cons b bs ih =>
    rw [preferAll_cons, prefer]
    split_ifs with h
    · exact Or.inr (List.mem_cons.mpr (ih b))
    · exact (ih a).imp_right (List.mem_cons_of_mem b)

/-- The first best candidate is held in the end. -/
theorem FirstBest.preferAll_eq (h : FirstBest better a bs b) : preferAll better a bs = b := by
  obtain ⟨before, after, rfl, hab, hbefore, hafter⟩ := h
  have hheld : better (preferAll better a before) b := by
    rcases preferAll_mem better a before with heq | hmem
    · rwa [heq]
    · exact hbefore _ hmem
  rw [preferAll, List.foldl_append]
  change preferAll better (prefer better (preferAll better a before) b) after = b
  rw [prefer, if_pos hheld]
  exact preferAll_eq_self hafter

section ranked

variable (htrans : ∀ a b c, better a b → better b c → better a c)
  (hties : ∀ a b c, better a c → better a b ∨ better b c)
include htrans hties

theorem preferAll_spec (a : α) (bs : List α) :
    (∃ b, FirstBest better a bs b) ∨ ∀ b ∈ bs, ¬ better a b := by
  induction bs generalizing a with
  | nil => exact Or.inr fun b hb => absurd hb List.not_mem_nil
  | cons b bs ih =>
    by_cases h : better a b
    · left
      rcases ih b with ⟨c, before, after, rfl, hbc, hbefore, hafter⟩ | hnone
      · exact ⟨c, b :: before, after, rfl, htrans a b c h hbc,
          List.forall_mem_cons.mpr ⟨hbc, hbefore⟩, hafter⟩
      · exact ⟨b, [], bs, rfl, h, fun c hc => absurd hc List.not_mem_nil, hnone⟩
    · rcases ih a with ⟨c, before, after, rfl, hac, hbefore, hafter⟩ | hnone
      · exact Or.inl ⟨c, b :: before, after, rfl, hac,
          List.forall_mem_cons.mpr ⟨(hties a b c hac).resolve_left h, hbefore⟩, hafter⟩
      · exact Or.inr (List.forall_mem_cons.mpr ⟨h, hnone⟩)

theorem preferAll_iff {P : α → Prop} (ha : P a) :
    P (preferAll better a bs) ↔ ∀ b, FirstBest better a bs b → P b := by
  constructor
  · intro h b hb
    rwa [hb.preferAll_eq] at h
  · intro h
    rcases preferAll_spec htrans hties a bs with ⟨b, hb⟩ | hnone
    · rw [hb.preferAll_eq]
      exact h b hb
    · rwa [preferAll_eq_self hnone]

end ranked

end FlowMemory
