import FlowMemory.Lib.Revert

/-! # Calls that hand over control

A routine of a contract may call other code before it is finished, and the other code may call the
contract again.  `Routine` is a routine with at most one such call in it: what it does **before** the
call, and what it does **after** it with the values it kept and the answer it got.

`Runs P i s s'` says that the call `i` of the contract `P` takes the state from `s` to `s'`.  While
control is away, any calls may run, each with calls inside it (`Reenters`).  A call that reverts
leaves no trace, so only the calls that return are seen: when the other code fails, the whole call
reverts with it.

A `Stretch` is a part of a call in which the contract has control.  Two rules are enough to reason
about all nestings: what every stretch keeps is kept by all calls (`Reenters.preserves`), and a
reflexive and transitive relation that holds over every stretch holds over all calls
(`Reenters.relates`). -/

namespace FlowMemory

/-- A routine that returns nothing, with the values `α` kept over a call that answers with `β`. -/
inductive Routine (σ ε α β : Type) where
  | plain (m : Call σ ε Unit)
  | calling (before : Call σ ε α) (after : α → β → Call σ ε Unit)

variable {ι σ ε α β : Type}

mutual

inductive Runs (P : ι → Routine σ ε α β) : ι → σ → σ → Prop
  | plain {i : ι} {m : Call σ ε Unit} {s s' : σ} (hi : P i = .plain m)
      (h : m s = .ok ((), s')) : Runs P i s s'
  | calling {i : ι} {before : Call σ ε α} {after : α → β → Call σ ε Unit} {s s₁ s₂ s' : σ} {a : α}
      {b : β} (hi : P i = .calling before after) (hbefore : before s = .ok (a, s₁))
      (hinner : Reenters P s₁ s₂) (hafter : after a b s₂ = .ok ((), s')) : Runs P i s s'

/-- Any number of calls, one after the other. -/
inductive Reenters (P : ι → Routine σ ε α β) : σ → σ → Prop
  | refl (s : σ) : Reenters P s s
  | step {i : ι} {s s₁ s' : σ} (hruns : Reenters P s s₁) (h : Runs P i s₁ s') : Reenters P s s'

end

/-- A stretch in which the contract has control, from `s` to `s'`. -/
inductive Stretch (P : ι → Routine σ ε α β) : σ → σ → Prop
  | plain {i : ι} {m : Call σ ε Unit} {s s' : σ} (hi : P i = .plain m)
      (h : m s = .ok ((), s')) : Stretch P s s'
  | before {i : ι} {before : Call σ ε α} {after : α → β → Call σ ε Unit} {s s' : σ} {a : α}
      (hi : P i = .calling before after) (h : before s = .ok (a, s')) : Stretch P s s'
  | after {i : ι} {before : Call σ ε α} {after : α → β → Call σ ε Unit} {s₀ s₁ s s' : σ} {a : α}
      {b : β} (hi : P i = .calling before after) (hbefore : before s₀ = .ok (a, s₁))
      (h : after a b s = .ok ((), s')) : Stretch P s s'

section rules

variable {P : ι → Routine σ ε α β} {R : σ → σ → Prop} {Inv : σ → Prop} {s s' : σ}

theorem Reenters.relates (hrefl : ∀ s, R s s) (htrans : ∀ {s₁ s₂ s₃}, R s₁ s₂ → R s₂ s₃ → R s₁ s₃)
    (hstretch : ∀ {s s'}, Stretch P s s' → R s s') (h : Reenters P s s') : R s s' :=
  @Reenters.rec ι σ ε α β P (fun _ s s' _ => R s s') (fun s s' _ => R s s')
    (fun hi h => hstretch (.plain hi h))
    (fun hi hb _ ha ih => htrans (htrans (hstretch (.before hi hb)) ih) (hstretch (.after hi hb ha)))
    hrefl (fun _ _ ih₁ ih₂ => htrans ih₁ ih₂) s s' h

theorem Reenters.preserves (hstretch : ∀ {s s'}, Stretch P s s' → Inv s → Inv s')
    (h : Reenters P s s') : Inv s → Inv s' :=
  h.relates (R := fun s s' => Inv s → Inv s') (fun _ hs => hs) (fun h₁ h₂ hs => h₂ (h₁ hs)) hstretch

end rules

end FlowMemory
