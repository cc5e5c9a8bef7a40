import FlowMemory.Lib.Trace
import Mathlib.Algebra.BigOperators.Group.List.Basic
import Mathlib.Algebra.GroupWithZero.Nat
import Mathlib.Data.List.Nodup

/-! # Ledgers of reservations

A ledger keeps the **reserved** total of each owner and, under an identifier, the amount that a
reservation **holds**.  It does not keep who made a reservation.  The outstanding reservations of a
run are therefore listed beside the ledger: `Books` says that the ledger agrees with the list.

A `ReservationSystem` is a system whose steps reserve and release through such a ledger.  By
`ReservationSystem.agrees_iff` the ledger agrees with the outstanding reservations in a run, and each
of them can be released exactly once, if and only if no reservation is made under an identifier that
holds one and each release names the owner of its reservation. -/

namespace FlowMemory

open Function

structure Reservation (κ ι : Type) where
  id : ι
  owner : κ
  amount : ℕ

structure ReservationLedger (κ ι : Type) where
  reserved : κ → ℕ
  held : ι → ℕ

inductive ReservationOp (κ ι : Type) where
  | reserve (r : Reservation κ ι)
  | release (owner : κ) (id : ι)

variable {κ ι : Type} [DecidableEq κ]

namespace ReservationLedger

variable [DecidableEq ι]

def reserve (l : ReservationLedger κ ι) (r : Reservation κ ι) : ReservationLedger κ ι where
  reserved := update l.reserved r.owner (l.reserved r.owner + r.amount)
  held := update l.held r.id r.amount

def release (l : ReservationLedger κ ι) (owner : κ) (id : ι) : Option (ReservationLedger κ ι) :=
  if l.held id = 0 ∨ l.reserved owner < l.held id then none
  else some
    { reserved := update l.reserved owner (l.reserved owner - l.held id)
      held := update l.held id 0 }

theorem release_eq_some {l l' : ReservationLedger κ ι} {owner : κ} {id : ι} :
    l.release owner id = some l' ↔ l.held id ≠ 0 ∧ l.held id ≤ l.reserved owner ∧
      l' = { reserved := update l.reserved owner (l.reserved owner - l.held id)
             held := update l.held id 0 } := by
  unfold release
  split_ifs with h
  · simp only [false_iff]
    omega
  · simp [show l.held id ≠ 0 ∧ l.held id ≤ l.reserved owner by omega, eq_comm]

end ReservationLedger

/-! ### Outstanding reservations -/

/-- The reservations that are outstanding after an operation. -/
def outstandingAfter [DecidableEq ι] (out : List (Reservation κ ι)) :
    Option (ReservationOp κ ι) → List (Reservation κ ι)
  | none => out
  | some (.reserve r) => r :: out
  | some (.release _ id) => out.eraseP (·.id = id)

/-- What the outstanding reservations of an owner amount to. -/
def owed (out : List (Reservation κ ι)) (owner : κ) : ℕ :=
  (out.map fun r => if r.owner = owner then r.amount else 0).sum

@[simp] theorem owed_cons (r : Reservation κ ι) (out : List (Reservation κ ι)) (owner : κ) :
    owed (r :: out) owner = (if r.owner = owner then r.amount else 0) + owed out owner := by
  simp [owed]

theorem owed_perm {out out' : List (Reservation κ ι)} (h : out.Perm out') (owner : κ) :
    owed out owner = owed out' owner :=
  (h.map _).sum_eq

/-- The ledger agrees with the outstanding reservations, which have different identifiers. -/
structure ReservationBooks (l : ReservationLedger κ ι) (out : List (Reservation κ ι)) : Prop where
  reserved : ∀ owner, l.reserved owner = owed out owner
  held : ∀ r ∈ out, l.held r.id = r.amount
  positive : ∀ r ∈ out, 0 < r.amount
  distinct : (out.map (·.id)).Nodup
  free : ∀ id, id ∉ out.map (·.id) → l.held id = 0

namespace ReservationBooks

variable {l l' : ReservationLedger κ ι} {out out' : List (Reservation κ ι)} {r : Reservation κ ι}
  {id : ι} {owner : κ}

theorem perm (h : ReservationBooks l out) (hperm : out.Perm out') : ReservationBooks l out' where
  reserved owner := (h.reserved owner).trans (owed_perm hperm owner)
  held r hr := h.held r (hperm.mem_iff.mpr hr)
  positive r hr := h.positive r (hperm.mem_iff.mpr hr)
  distinct := (hperm.map _).nodup_iff.mp h.distinct
  free id hid := h.free id fun hmem => hid ((hperm.map _).mem_iff.mp hmem)

theorem held_eq_zero_iff (h : ReservationBooks l out) :
    l.held id = 0 ↔ id ∉ out.map (·.id) := by
  refine ⟨fun hzero hmem => ?_, h.free id⟩
  obtain ⟨r, hr, rfl⟩ := List.mem_map.mp hmem
  have := h.positive r hr
  rw [← h.held r hr] at this
  omega

variable [DecidableEq ι]

theorem reserve (h : ReservationBooks l out) (hfree : l.held r.id = 0) (hpositive : 0 < r.amount) :
    ReservationBooks (l.reserve r) (r :: out) := by
  have hnew := h.held_eq_zero_iff.mp hfree
  refine ⟨fun owner => ?_, fun r' hr' => ?_, ?_, ?_, fun id hid => ?_⟩
  · rw [owed_cons, ← h.reserved]
    by_cases howner : owner = r.owner
    · subst howner
      simp [ReservationLedger.reserve, Nat.add_comm]
    · simp [ReservationLedger.reserve, howner, Ne.symm howner]
  · rcases List.mem_cons.mp hr' with rfl | hr'
    · simp [ReservationLedger.reserve]
    · have hne : r'.id ≠ r.id := fun heq => hnew (List.mem_map.mpr ⟨r', hr', heq⟩)
      simp only [ReservationLedger.reserve, update_of_ne hne]
      exact h.held r' hr'
  · exact List.forall_mem_cons.mpr ⟨hpositive, h.positive⟩
  · exact List.nodup_cons.mpr ⟨hnew, h.distinct⟩
  · rw [List.map_cons, List.mem_cons, not_or] at hid
    simp only [ReservationLedger.reserve, update_of_ne hid.1]
    exact h.free id hid.2

/-- The reservation at the head of the list is released. -/
theorem release (h : ReservationBooks l (r :: out)) :
    ∃ l', l.release r.owner r.id = some l' ∧ ReservationBooks l' out := by
  have hheld := h.held r List.mem_cons_self
  have hpositive := h.positive r List.mem_cons_self
  have hreserved := h.reserved r.owner
  rw [owed_cons, if_pos rfl] at hreserved
  obtain ⟨hnew, hdistinct⟩ := List.nodup_cons.mp h.distinct
  refine ⟨_, ReservationLedger.release_eq_some.mpr ⟨by omega, by omega, rfl⟩,
    fun owner => ?_, fun r' hr' => ?_, fun r' hr' => h.positive r' (List.mem_cons_of_mem _ hr'),
    hdistinct, fun id hid => ?_⟩
  · by_cases howner : owner = r.owner
    · subst howner
      simp only [update_self]
      omega
    · have := h.reserved owner
      rw [owed_cons, if_neg (Ne.symm howner)] at this
      simp only [update_of_ne howner]
      omega
  · have hne : r'.id ≠ r.id := fun heq => hnew (List.mem_map.mpr ⟨r', hr', heq⟩)
    simp only [update_of_ne hne]
    exact h.held r' (List.mem_cons_of_mem _ hr')
  · by_cases hne : id = r.id
    · simp [hne]
    · simp only [update_of_ne hne]
      exact h.free id (by simp [hne, hid])

/-- The reservation that a release removes from the list. -/
theorem released (h : ReservationBooks l out)
    (hrelease : l.release owner id = some l') :
    ∃ r, r.id = id ∧ out.Perm (r :: out.eraseP (·.id = id)) := by
  have hheld := (ReservationLedger.release_eq_some.mp hrelease).1
  have hmem : id ∈ out.map (·.id) := by
    by_contra hid
    exact hheld (h.free id hid)
  obtain ⟨r', hr', hid⟩ := List.mem_map.mp hmem
  obtain ⟨r, before, after, -, hr, hout, herase⟩ :=
    List.exists_of_eraseP hr' (p := fun r => decide (r.id = id)) (by simpa using hid)
  refine ⟨r, by simpa using hr, ?_⟩
  rw [herase, hout]
  exact List.perm_middle

theorem release_named (h : ReservationBooks l out)
    (hrelease : l.release owner id = some l') (howner : ∀ r ∈ out, r.id = id → r.owner = owner) :
    ReservationBooks l' (out.eraseP (·.id = id)) := by
  obtain ⟨r, rfl, hperm⟩ := h.released hrelease
  obtain ⟨l₁, hl₁, hbooks⟩ := (h.perm hperm).release
  rw [howner r (hperm.mem_iff.mpr List.mem_cons_self) rfl, hrelease] at hl₁
  exact Option.some.inj hl₁ ▸ hbooks

/-- A release that names another owner lowers the total of an owner without a released reservation. -/
theorem release_misnamed (h : ReservationBooks l out) (hrelease : l.release owner id = some l')
    (howner : ¬ ∀ r ∈ out, r.id = id → r.owner = owner) :
    l'.reserved owner ≠ owed (out.eraseP (·.id = id)) owner := by
  obtain ⟨r, hid, hperm⟩ := h.released hrelease
  have hne : r.owner ≠ owner := by
    rintro rfl
    refine howner fun r' hr' hid' => ?_
    rw [List.inj_on_of_nodup_map h.distinct hr' (hperm.mem_iff.mpr List.mem_cons_self)
      (hid'.trans hid.symm)]
  have howed := (h.perm hperm).reserved owner
  rw [owed_cons, if_neg hne, Nat.zero_add] at howed
  obtain ⟨hheld, hle, rfl⟩ := ReservationLedger.release_eq_some.mp hrelease
  rw [← howed]
  simp only [update_self]
  omega

end ReservationBooks

/-! ### Releasing everything -/

/-- Release the reservations one after the other. -/
def releaseAll {σ : Type} (release : Reservation κ ι → σ → Option σ) :
    List (Reservation κ ι) → σ → Option σ
  | [], s => some s
  | r :: order, s => (release r s).bind (releaseAll release order)

section releaseAll

variable [DecidableEq ι] {l : ReservationLedger κ ι} {out order : List (Reservation κ ι)}

/-- The release that names the owner of the reservation. -/
def ReservationLedger.releaseOwn (r : Reservation κ ι) (l : ReservationLedger κ ι) :
    Option (ReservationLedger κ ι) := l.release r.owner r.id

open ReservationLedger

theorem ReservationBooks.releaseAll (h : ReservationBooks l out) (hperm : order.Perm out) :
    (releaseAll releaseOwn order l).isSome := by
  induction order generalizing l out with
  | nil => rfl
  | cons r order ih =>
    obtain ⟨l', hl', hbooks⟩ := (h.perm hperm.symm).release
    simp only [FlowMemory.releaseAll, releaseOwn, hl', Option.bind_some]
    exact ih hbooks (List.Perm.refl _)

theorem releaseAll_of_held_eq_zero {id : ι} (hfree : l.held id = 0)
    (hmem : id ∈ order.map (·.id)) : releaseAll releaseOwn order l = none := by
  induction order generalizing l with
  | nil => cases hmem
  | cons r order ih =>
    cases hrelease : l.release r.owner r.id with
    | none => simp [releaseAll, releaseOwn, hrelease]
    | some l' =>
      obtain ⟨hheld, -, rfl⟩ := release_eq_some.mp hrelease
      have hne : id ≠ r.id := fun heq => hheld (heq ▸ hfree)
      rw [List.map_cons, List.mem_cons, or_iff_right hne] at hmem
      simp only [releaseAll, releaseOwn, hrelease, Option.bind_some]
      exact ih (by simpa only [update_of_ne hne] using hfree) hmem

/-- Two reservations under one identifier cannot both be released. -/
theorem releaseAll_of_not_nodup (hdup : ¬ (order.map (·.id)).Nodup) :
    releaseAll releaseOwn order l = none := by
  induction order generalizing l with
  | nil => exact absurd List.nodup_nil hdup
  | cons r order ih =>
    cases hrelease : l.release r.owner r.id with
    | none => simp [releaseAll, releaseOwn, hrelease]
    | some l' =>
      simp only [releaseAll, releaseOwn, hrelease, Option.bind_some]
      by_cases hmem : r.id ∈ order.map (·.id)
      · obtain ⟨-, -, rfl⟩ := release_eq_some.mp hrelease
        exact releaseAll_of_held_eq_zero (by simp) hmem
      · exact ih fun hnodup => hdup (List.nodup_cons.mpr ⟨hmem, hnodup⟩)

end releaseAll

/-! ### Systems with a ledger -/

/-- A system whose steps reserve and release through a ledger.  An agent `a` that is allowed to can
release a reservation of an owner that the system knows. -/
structure ReservationSystem (σ ℓ α κ ι : Type) [DecidableEq κ] [DecidableEq ι] where
  step : σ → ℓ → σ → Prop
  view : σ → ReservationLedger κ ι
  op : ℓ → Option (ReservationOp κ ι)
  release : α → Reservation κ ι → σ → Option σ
  Allowed : α → σ → Prop
  Known : κ → σ → Prop
  Valid : σ → Prop
  valid_step : ∀ {s l s'}, step s l s' → Valid s → Valid s'
  view_other : ∀ {s l s'}, step s l s' → Valid s → op l = none → view s' = view s
  view_reserve : ∀ {s l s' r}, step s l s' → op l = some (.reserve r) →
    view s' = (view s).reserve r ∧ 0 < r.amount ∧ Known r.owner s' ∧ ∃ a, Allowed a s'
  view_release : ∀ {s l s' k i}, step s l s' → op l = some (.release k i) →
    (view s).release k i = some (view s')
  known_step : ∀ {s l s' k}, step s l s' → Known k s → Known k s'
  release_sound : ∀ {a r s s'}, release a r s = some s' →
    (view s).releaseOwn r = some (view s')
  release_complete : ∀ {a r s l}, Allowed a s → Known r.owner s →
    (view s).releaseOwn r = some l → release a r s ≠ none
  allowed_release : ∀ {a r s s'}, release a r s = some s' → Allowed a s → Allowed a s'
  known_release : ∀ {a r s s' k}, release a r s = some s' → Known k s → Known k s'

namespace ReservationSystem

variable {σ ℓ α : Type} [DecidableEq ι] (S : ReservationSystem σ ℓ α κ ι)
  {s' : σ × List (Reservation κ ι)}

/-- A step together with the outstanding reservations. -/
def Tracked (s : σ × List (Reservation κ ι)) (l : ℓ) (s' : σ × List (Reservation κ ι)) : Prop :=
  S.step s.1 l s'.1 ∧ s'.2 = outstandingAfter s.2 (S.op l)

/-- Execute a step together with the outstanding reservations. -/
def execTracked (exec : ℓ → σ → Option σ) (l : ℓ) (s : σ × List (Reservation κ ι)) :
    Option (σ × List (Reservation κ ι)) :=
  (exec l s.1).map (·, outstandingAfter s.2 (S.op l))

variable {S} in
theorem tracked_of_exec {exec : ℓ → σ → Option σ}
    (hexec : ∀ {l s s'}, exec l s = some s' → S.step s l s') {l : ℓ}
    {s : σ × List (Reservation κ ι)} (h : S.execTracked exec l s = some s') :
    S.Tracked s l s' := by
  obtain ⟨s₁, hs₁, rfl⟩ := Option.map_eq_some_iff.mp h
  exact ⟨hexec hs₁, rfl⟩

/-- The totals are those of the outstanding reservations, all of which can be released in any
order, and nothing else can be released. -/
structure Agrees (s : σ × List (Reservation κ ι)) : Prop where
  reserved : ∀ owner, (S.view s.1).reserved owner = owed s.2 owner
  releasable : ∀ a, S.Allowed a s.1 → ∀ order, order.Perm s.2 →
    (releaseAll (S.release a) order s.1).isSome
  once : ∀ a r, r.id ∉ s.2.map (·.id) → S.release a r s.1 = none

/-- A reservation is made under an identifier that holds nothing, and a release names the owner of
its reservation. -/
def Orderly (s : σ × List (Reservation κ ι)) (l : ℓ) : Prop :=
  match S.op l with
  | none => True
  | some (.reserve r) => (S.view s.1).held r.id = 0
  | some (.release k i) => ∀ r ∈ s.2, r.id = i → r.owner = k

variable {S}

section orderly

variable {s : σ × List (Reservation κ ι)} {l : ℓ}

theorem orderly_of_none (hop : S.op l = none) : S.Orderly s l := by
  unfold Orderly
  rw [hop]
  trivial

theorem orderly_reserve {r : Reservation κ ι} (hop : S.op l = some (.reserve r)) :
    S.Orderly s l ↔ (S.view s.1).held r.id = 0 := by
  unfold Orderly
  rw [hop]

theorem orderly_release {k : κ} {i : ι} (hop : S.op l = some (.release k i)) :
    S.Orderly s l ↔ ∀ r ∈ s.2, r.id = i → r.owner = k := by
  unfold Orderly
  rw [hop]

end orderly

theorem releaseAll_view {a : α} {order : List (Reservation κ ι)} {s : σ} (hallowed : S.Allowed a s)
    (hknown : ∀ r ∈ order, S.Known r.owner s) :
    (releaseAll (S.release a) order s).map S.view =
      releaseAll ReservationLedger.releaseOwn order (S.view s) := by
  induction order generalizing s with
  | nil => rfl
  | cons r order ih =>
    obtain ⟨hr, horder⟩ := List.forall_mem_cons.mp hknown
    simp only [releaseAll]
    cases hrelease : S.release a r s with
    | none =>
      cases hview : (S.view s).releaseOwn r with
      | none => rfl
      | some l => exact absurd hrelease (S.release_complete hallowed hr hview)
    | some s' =>
      rw [S.release_sound hrelease]
      exact ih (S.allowed_release hrelease hallowed)
        fun r' hr' => S.known_release hrelease (horder r' hr')

/-- What the steps that are in order keep. -/
structure Kept (S : ReservationSystem σ ℓ α κ ι) (s : σ × List (Reservation κ ι)) : Prop where
  valid : S.Valid s.1
  books : ReservationBooks (S.view s.1) s.2
  known : ∀ r ∈ s.2, S.Known r.owner s.1

theorem Kept.agrees {s : σ × List (Reservation κ ι)} (h : S.Kept s) : S.Agrees s where
  reserved := h.books.reserved
  releasable a hallowed order hperm := by
    rw [← Option.isSome_map (f := S.view),
      releaseAll_view hallowed fun r hr => h.known r (hperm.mem_iff.mp hr)]
    exact h.books.releaseAll hperm
  once a r hr := by
    by_contra hsome
    obtain ⟨s', hs'⟩ := Option.ne_none_iff_exists'.mp hsome
    exact (ReservationLedger.release_eq_some.mp (S.release_sound hs')).1 (h.books.free r.id hr)

theorem Kept.step {s : σ × List (Reservation κ ι)} {l : ℓ} (h : S.Kept s)
    (hstep : S.Tracked s l s') (horderly : S.Orderly s l) : S.Kept s' := by
  obtain ⟨hstep, hout⟩ := hstep
  have hvalid := S.valid_step hstep h.valid
  have hknown : ∀ r ∈ s.2, S.Known r.owner s'.1 := fun r hr => S.known_step hstep (h.known r hr)
  rcases hop : S.op l with _ | (r | ⟨k, i⟩)
  · rw [hop] at hout
    refine ⟨hvalid, ?_, ?_⟩
    · rw [S.view_other hstep h.valid hop, hout]
      exact h.books
    · rw [hout]
      exact hknown
  · rw [hop] at hout
    rw [orderly_reserve hop] at horderly
    obtain ⟨hview, hpositive, hnew, -⟩ := S.view_reserve hstep hop
    refine ⟨hvalid, ?_, ?_⟩
    · rw [hview, hout]
      exact h.books.reserve horderly hpositive
    · rw [hout]
      exact List.forall_mem_cons.mpr ⟨hnew, hknown⟩
  · rw [hop] at hout
    rw [orderly_release hop] at horderly
    refine ⟨hvalid, ?_, ?_⟩
    · rw [hout]
      exact h.books.release_named (S.view_release hstep hop) horderly
    · rw [hout]
      exact fun r hr => hknown r (List.mem_of_mem_eraseP hr)

theorem Kept.not_agrees {s : σ × List (Reservation κ ι)} {l : ℓ} (h : S.Kept s)
    (hstep : S.Tracked s l s') (hnot : ¬ S.Orderly s l) : ¬ S.Agrees s' := by
  obtain ⟨hstep, hout⟩ := hstep
  intro hagrees
  rcases hop : S.op l with _ | (r | ⟨k, i⟩)
  · exact hnot (orderly_of_none hop)
  · rw [hop] at hout
    rw [orderly_reserve hop] at hnot
    obtain ⟨-, -, hnew, a, hallowed⟩ := S.view_reserve hstep hop
    have hmem : r.id ∈ s.2.map (·.id) := by
      by_contra hfree
      exact hnot (h.books.free r.id hfree)
    have hknown : ∀ r' ∈ s'.2, S.Known r'.owner s'.1 := by
      rw [hout]
      exact List.forall_mem_cons.mpr ⟨hnew, fun r' hr' => S.known_step hstep (h.known r' hr')⟩
    have hall := hagrees.releasable a hallowed s'.2 (List.Perm.refl _)
    rw [← Option.isSome_map (f := S.view), releaseAll_view hallowed hknown,
      releaseAll_of_not_nodup] at hall
    · cases hall
    · rw [hout]
      exact fun hnodup => (List.nodup_cons.mp hnodup).1 hmem
  · rw [hop] at hout
    rw [orderly_release hop] at hnot
    refine h.books.release_misnamed (S.view_release hstep hop) hnot ?_
    rw [hagrees.reserved k, hout]
    rfl

/-- In a run without reservations at its start, the ledger agrees with the outstanding reservations
after every step exactly if every step is in order. -/
theorem agrees_iff {s : σ} {steps : List (TraceStep (σ × List (Reservation κ ι)) ℓ)}
    (htrace : Trace S.Tracked (s, []) steps s') (hvalid : S.Valid s)
    (hnone : ∀ k, (S.view s).reserved k = 0)
    (hfree : ∀ i, (S.view s).held i = 0) :
    (∀ t ∈ steps, S.Agrees t.after) ↔ ∀ t ∈ steps, S.Orderly t.before t.label := by
  have hkept : S.Kept (s, []) := ⟨hvalid, ⟨hnone, nofun, nofun, List.nodup_nil, fun i _ => hfree i⟩, nofun⟩
  refine htrace.forall_iff (P := fun t => S.Agrees t.after) (fun hstep hkept horderly => ?_)
    (fun hstep hkept hnot => hkept.not_agrees hstep hnot) hkept
  have hkept' := hkept.step hstep horderly
  exact ⟨hkept', hkept'.agrees⟩

end ReservationSystem

end FlowMemory
