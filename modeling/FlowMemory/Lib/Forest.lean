import Mathlib.Data.Nat.Notation

/-! # Following parents

`parent` gives every node at most one parent.  A **depth** that is one more for a child than for its
parent shows that following the parents never visits a node twice. -/

namespace FlowMemory

variable {α : Type}

/-- The node that `n` steps to the parent lead to. -/
def ancestor (parent : α → Option α) : ℕ → α → Option α
  | 0, a => some a
  | n + 1, a => (parent a).bind (ancestor parent n)

/-- Following the parents from `a` visits no node twice. -/
def NeverTwice (parent : α → Option α) (a : α) : Prop :=
  ∀ i j x, ancestor parent i a = some x → ancestor parent j a = some x → i = j

variable {parent : α → Option α} {depth : α → ℕ}

theorem depth_ancestor (hdepth : ∀ a p, parent a = some p → depth a = depth p + 1) {n : ℕ}
    {a x : α} (h : ancestor parent n a = some x) : depth a = depth x + n := by
  induction n generalizing a with
  | zero =>
    cases h
    rfl
  | succ n ih =>
    obtain ⟨p, hp, hrest⟩ := Option.bind_eq_some_iff.mp h
    have hstep := hdepth a p hp
    have hpath := ih hrest
    omega

theorem neverTwice_of_depth (hdepth : ∀ a p, parent a = some p → depth a = depth p + 1) (a : α) :
    NeverTwice parent a := by
  intro i j x hi hj
  have hlong := depth_ancestor hdepth hi
  have hshort := depth_ancestor hdepth hj
  omega

end FlowMemory
