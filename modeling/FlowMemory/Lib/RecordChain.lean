import Mathlib.Data.Set.Function

/-! # Records linked by identifiers

Records that carry an identifier and the identifier of a predecessor.  A list of records, the
newest first, is **linked** if every record names the one after it and the last one names a
fixed root.  Following the predecessors in a store that finds every record of a linked list then
visits the list (`follow_newest`), and the newest identifier determines the list if identifiers
determine records (`Linked.eq_of_newestId`). -/

namespace FlowMemory

section chain

variable {ι α : Type} (ident prev : α → ι) (root : ι)

/-- The identifier of the newest record, or the root. -/
def newestId (records : List α) : ι := records.head?.elim root ident

/-- Every record names the one before it. -/
def Linked : List α → Prop
  | [] => True
  | a :: older => prev a = newestId ident root older ∧ Linked older

/-- The records met in a number of steps from an identifier to its predecessors. -/
def follow (lookup : ι → Option α) : ℕ → ι → List α
  | 0, _ => []
  | n + 1, i =>
    match lookup i with
    | some a => a :: follow lookup n (prev a)
    | none => []

variable {ident prev root}

/-- In a linked list the predecessors of the newest record are the others, in order. -/
theorem follow_newest {lookup : ι → Option α} {records : List α}
    (hlinked : Linked ident prev root records)
    (hfound : ∀ a ∈ records, lookup (ident a) = some a) :
    follow prev lookup records.length (newestId ident root records) = records := by
  induction records with
  | nil => rfl
  | cons a older ih =>
    have ha : lookup (newestId ident root (a :: older)) = some a :=
      hfound a List.mem_cons_self
    have hrest := ih hlinked.2 fun b hb => hfound b (List.mem_cons_of_mem a hb)
    rw [List.length_cons, follow, ha]
    show a :: follow prev lookup older.length (prev a) = a :: older
    rw [hlinked.1, hrest]

theorem Linked.eq_of_newestId {as bs : List α} (ha : Linked ident prev root as)
    (hb : Linked ident prev root bs) (hinj : {a | a ∈ as ∨ a ∈ bs}.InjOn ident)
    (hroot : ∀ a, a ∈ as ∨ a ∈ bs → ident a ≠ root)
    (h : newestId ident root as = newestId ident root bs) : as = bs := by
  induction as generalizing bs with
  | nil =>
    cases bs with
    | nil => rfl
    | cons b bs => exact absurd h.symm (hroot b (.inr List.mem_cons_self))
  | cons a as ih =>
    cases bs with
    | nil => exact absurd h (hroot a (.inl List.mem_cons_self))
    | cons b bs =>
      obtain rfl : a = b := hinj (.inl List.mem_cons_self) (.inr List.mem_cons_self) h
      have hmem {c : α} (hc : c ∈ as ∨ c ∈ bs) : c ∈ a :: as ∨ c ∈ a :: bs :=
        hc.imp (List.mem_cons_of_mem a) (List.mem_cons_of_mem a)
      rw [ih ha.2 hb.2 (hinj.mono fun _ => hmem) (fun c hc => hroot c (hmem hc))
        (ha.1.symm.trans hb.1)]

end chain

end FlowMemory
