import Mathlib.Logic.Function.Basic
import Mathlib.Logic.Relation
import Mathlib.Data.List.Nodup

/-! # Updates of a shared file under a lock

Processes share a file.  Each takes an exclusive lock, **loads** the file, computes a result and a new
content, **saves** the content and releases the lock; it may time out while it waits, and it may fail
before it saves.  `exists_serial` says that the processes that saved did so as in some order one after
the other, whatever the interleaving of the steps. -/

namespace FlowMemory

variable {ι σ ρ : Type}

/-- Where a process is. -/
inductive LockPhase (σ ρ : Type) where
  | waiting
  | locked
  | loaded (content : σ)
  | saved (result : ρ)
  | returned (result : ρ)
  | failed

/-- The result of a process that saved. -/
def LockPhase.result : LockPhase σ ρ → Option ρ
  | .saved r => some r
  | .returned r => some r
  | _ => none

/-- The process is between taking the lock and releasing it. -/
def LockPhase.holds : LockPhase σ ρ → Bool
  | .locked | .loaded _ | .saved _ => true
  | _ => false

structure LockWorld (ι σ ρ : Type) where
  file : σ
  lock : Option ι
  phase : ι → LockPhase σ ρ

namespace LockWorld

/-- No process has started. -/
def start (content : σ) : LockWorld ι σ ρ := ⟨content, none, fun _ => .waiting⟩

variable [DecidableEq ι]

/-- One step of one process. -/
inductive Step (update : ι → σ → ρ × σ) : LockWorld ι σ ρ → LockWorld ι σ ρ → Prop
  | acquire {w : LockWorld ι σ ρ} {p : ι} (hp : w.phase p = .waiting) (hfree : w.lock = none) :
      Step update w ⟨w.file, some p, Function.update w.phase p .locked⟩
  | timeout {w : LockWorld ι σ ρ} {p : ι} (hp : w.phase p = .waiting) :
      Step update w ⟨w.file, w.lock, Function.update w.phase p .failed⟩
  | load {w : LockWorld ι σ ρ} {p : ι} (hp : w.phase p = .locked) :
      Step update w ⟨w.file, w.lock, Function.update w.phase p (.loaded w.file)⟩
  | abort {w : LockWorld ι σ ρ} {p : ι} (hp : (w.phase p).holds = true)
      (hunsaved : (w.phase p).result = none) :
      Step update w ⟨w.file, none, Function.update w.phase p .failed⟩
  | save {w : LockWorld ι σ ρ} {p : ι} {content : σ} (hp : w.phase p = .loaded content) :
      Step update w ⟨(update p content).2, w.lock,
        Function.update w.phase p (.saved (update p content).1)⟩
  | release {w : LockWorld ι σ ρ} {p : ι} {r : ρ} (hp : w.phase p = .saved r) :
      Step update w ⟨w.file, none, Function.update w.phase p (.returned r)⟩

/-- The updates one after the other: the results and the content at the end. -/
def serial (update : ι → σ → ρ × σ) : List ι → σ → List (ι × ρ) × σ
  | [], content => ([], content)
  | p :: ps, content =>
    let r := update p content
    let rest := serial update ps r.2
    ((p, r.1) :: rest.1, rest.2)

variable {update : ι → σ → ρ × σ} {w w' : LockWorld ι σ ρ} {order : List ι} {content : σ}

omit [DecidableEq ι] in
theorem serial_concat (p : ι) : serial update (order ++ [p]) content =
    ((serial update order content).1 ++ [(p, (update p (serial update order content).2).1)],
      (update p (serial update order content).2).2) := by
  induction order generalizing content with
  | nil => rfl
  | cons q order ih => simp [serial, ih]

omit [DecidableEq ι] in
theorem serial_map_fst (update : ι → σ → ρ × σ) (order : List ι) (content : σ) :
    (serial update order content).1.map Prod.fst = order := by
  induction order generalizing content with
  | nil => rfl
  | cons p order ih => simp [serial, ih]

/-- The processes that saved did so in the given order. -/
structure Serialized (update : ι → σ → ρ × σ) (content : σ) (w : LockWorld ι σ ρ)
    (order : List ι) : Prop where
  nodup : order.Nodup
  file : (serial update order content).2 = w.file
  result : ∀ p r, (w.phase p).result = some r ↔ (p, r) ∈ (serial update order content).1
  holder : ∀ p, (w.phase p).holds = true → w.lock = some p
  loaded : ∀ p c, w.phase p = .loaded c → c = w.file

/-- A step of a process that saves nothing. -/
theorem Serialized.of_unsaved (h : Serialized update content w order) {p : ι}
    {phase : LockPhase σ ρ} {lock : Option ι} (hphase : phase.result = (w.phase p).result)
    (hholds : phase.holds = true → lock = some p)
    (hothers : ∀ q, q ≠ p → (w.phase q).holds = true → lock = some q)
    (hloaded : ∀ c, phase = .loaded c → c = w.file) :
    Serialized update content ⟨w.file, lock, Function.update w.phase p phase⟩ order where
  nodup := h.nodup
  file := h.file
  result q r := by
    rw [← h.result q r]
    by_cases hq : q = p
    · subst hq
      simp [hphase]
    · simp [hq]
  holder q hq := by
    by_cases hqp : q = p
    · subst hqp
      simp only [Function.update_self] at hq
      exact hholds hq
    · simp only [Function.update_of_ne hqp] at hq
      exact hothers q hqp hq
  loaded q c hq := by
    by_cases hqp : q = p
    · subst hqp
      simp only [Function.update_self] at hq
      exact hloaded c hq
    · simp only [Function.update_of_ne hqp] at hq
      exact h.loaded q c hq

omit [DecidableEq ι] in
/-- Only one process holds the lock. -/
theorem Serialized.not_holds (h : Serialized update content w order) {p q : ι}
    (hp : (w.phase p).holds = true) (hq : q ≠ p) : (w.phase q).holds = false := by
  by_contra hholds
  have hlock := h.holder q ((Bool.not_eq_false _).mp hholds)
  rw [h.holder p hp] at hlock
  exact hq (Option.some.inj hlock).symm

theorem Serialized.step (h : Serialized update content w order) (hstep : Step update w w') :
    ∃ order', Serialized update content w' order' := by
  cases hstep with
  | @acquire p hp hfree =>
    refine ⟨order, h.of_unsaved (by simp [hp, LockPhase.result]) (fun _ => rfl)
      (fun q _ hq => ?_) nofun⟩
    have hlock := h.holder q hq
    rw [hfree] at hlock
    cases hlock
  | @timeout p hp =>
    exact ⟨order, h.of_unsaved (by simp [hp, LockPhase.result]) nofun
      (fun q _ hq => h.holder q hq) nofun⟩
  | @load p hp =>
    refine ⟨order, h.of_unsaved (by simp [hp, LockPhase.result]) (fun _ => ?_)
      (fun q _ hq => h.holder q hq) (fun c hc => ?_)⟩
    · exact h.holder p (by simp [hp, LockPhase.holds])
    · cases hc
      rfl
  | @abort p hp hunsaved =>
    refine ⟨order, h.of_unsaved (by rw [hunsaved]; rfl) nofun (fun q hq hholds => ?_) nofun⟩
    rw [h.not_holds hp hq] at hholds
    cases hholds
  | @release p r hp =>
    refine ⟨order, h.of_unsaved (by simp [hp, LockPhase.result]) nofun
      (fun q hq hholds => ?_) nofun⟩
    rw [h.not_holds (by simp [hp, LockPhase.holds]) hq] at hholds
    cases hholds
  | @save p c hp =>
    -- the process saves what it computes from the file, as the last one of the order
    have hc := h.loaded p c hp
    have hholds : (w.phase p).holds = true := by simp [hp, LockPhase.holds]
    have hp_notMem : p ∉ order := by
      intro hmem
      rw [← serial_map_fst update order content, List.mem_map] at hmem
      obtain ⟨⟨q, r⟩, hr, rfl⟩ := hmem
      have hresult := (h.result q r).mpr hr
      rw [hp] at hresult
      cases hresult
    refine ⟨order ++ [p], ?_, ?_, fun q r => ?_, fun q hq => ?_, fun q c' hq => ?_⟩
    · exact List.concat_eq_append ▸ List.Nodup.concat hp_notMem h.nodup
    · rw [serial_concat, h.file, hc]
    · rw [serial_concat, List.mem_append, ← h.result q r, h.file, ← hc]
      by_cases hqp : q = p
      · subst hqp
        simp [hp, LockPhase.result, eq_comm]
      · simp [hqp]
    · by_cases hqp : q = p
      · subst hqp
        exact h.holder q hholds
      · simp only [Function.update_of_ne hqp] at hq
        exact h.holder q hq
    · by_cases hqp : q = p
      · subst hqp
        simp at hq
      · simp only [Function.update_of_ne hqp] at hq
        have hother := h.not_holds hholds hqp
        rw [hq] at hother
        cases hother

omit [DecidableEq ι] in
theorem serialized_start : Serialized update content (start content) [] :=
  ⟨List.nodup_nil, rfl, by simp [start, LockPhase.result, serial], nofun, nofun⟩

/-- The processes that saved did so in some order one after the other. -/
theorem exists_serial (hreach : Relation.ReflTransGen (Step update) (start content) w) :
    ∃ order, Serialized update content w order := by
  induction hreach with
  | refl => exact ⟨[], serialized_start⟩
  | tail _ hstep ih =>
    obtain ⟨order, horder⟩ := ih
    exact horder.step hstep

end LockWorld

end FlowMemory
