import FlowMemory.AgentBonds.TaskMoves

/-! # How a call moves the coverage

A covered task has coverage locked in its pool from its acceptance to its end.  A call about a task
leaves the pools alone, locks the coverage of the task, **releases** it or **claims** it
(`PoolMove`).  In every run in which the manager is the only allocator, the coverage that a pool has
locked for a task is given by the record of the task. -/

namespace FlowMemory.AgentBonds

open Call ERC20SettlementToken AgentBondManager Function
open AgentUnderwriterPool (lockCoverage releaseForTask payClaim)

/-- The coverage that the pool `p` keeps for the task. -/
def Task.coverAt (task : Task) (p : Address) : ℕ :=
  if task.recoursePool = p then task.cover else 0

section amounts

variable {old new : Task}

theorem Task.coverAt_of_unbonded (h : old.status.isBonded = false) (p : Address) :
    old.coverAt p = 0 := by
  simp [Task.coverAt, Task.cover, h]

theorem Task.coverAt_of_uncovered (h : ¬ old.Covered) (p : Address) : old.coverAt p = 0 := by
  have hzero : old.coverage = 0 := if_neg h
  simp [Task.coverAt, Task.cover, hzero]

theorem Task.coverAt_of_bonded (h : old.status.isBonded = true) (hcovered : old.Covered)
    (p : Address) :
    old.coverAt p = if old.recoursePool = p then old.recourseCoverage else 0 := by
  have hcoverage : old.coverage = old.recourseCoverage := if_pos hcovered
  simp [Task.coverAt, Task.cover, h, hcoverage]

theorem SameTerms.covered (h : SameTerms old new) : new.Covered ↔ old.Covered := by
  simp only [Task.Covered, h.recoursePool, h.recourseCoverage]

theorem SameTerms.coverAt (h : SameTerms old new)
    (hbonded : new.status.isBonded = old.status.isBonded) (p : Address) :
    new.coverAt p = old.coverAt p := by
  simp only [Task.coverAt, h.recoursePool, h.cover hbonded]

end amounts

/-! ### Moves -/

variable {τ : Type} {D : Deployment} {w w' : World τ} {t : Bytes32}

/-- What a call about the task `t` does to the pools. -/
inductive PoolMove [ERC20SettlementToken τ] (D : Deployment) (t : Bytes32) (w w' : World τ) : Prop
  | kept (hpools : w'.pools = w.pools)
      (hcover : ∀ p, (w'.manager.tasks t).coverAt p = (w.manager.tasks t).coverAt p)
  | locks {task : Task} {token : τ} {s : WithToken AgentUnderwriterPool τ}
      (htask : task = w.manager.tasks t) (hcovered : task.Covered)
      (hold : task.status.isBonded = false) (hterms : SameTerms task (w'.manager.tasks t))
      (hnew : (w'.manager.tasks t).status.isBonded = true)
      (hlock : lockCoverage task.recoursePool ⟨D.manager, w.now⟩ t task.recourseCoverage
        ⟨w.pools task.recoursePool, token⟩ = .ok ((), s))
      (hpools : w'.pools = update w.pools task.recoursePool s.contract)
  | releases {task : Task} {token : τ} {released : ℕ} {s : WithToken AgentUnderwriterPool τ}
      (htask : task = w.manager.tasks t) (hcovered : task.Covered)
      (hold : task.status.isBonded = true)
      (hnew : (w'.manager.tasks t).status.isTerminal = true)
      (hrelease : releaseForTask ⟨D.manager, w.now⟩ t ⟨w.pools task.recoursePool, token⟩ =
        .ok (released, s))
      (hpools : w'.pools = update w.pools task.recoursePool s.contract)
  | claims {task : Task} {token : τ} {paid : ℕ} {recipient : Address} {reason : Bytes32}
      {s : WithToken AgentUnderwriterPool τ}
      (htask : task = w.manager.tasks t) (hcovered : task.Covered)
      (hold : task.status.isBonded = true) (hnew : (w'.manager.tasks t).status = .slashed)
      (hclaim : payClaim task.recoursePool ⟨D.manager, w.now⟩ t recipient task.recourseCoverage
        reason ⟨w.pools task.recoursePool, token⟩ = .ok (paid, s))
      (hpools : w'.pools = update w.pools task.recoursePool s.contract)

section moves

variable [ERC20SettlementToken τ] {sender : Address} {u : Unit} {msg : AgentBondManager.Msg}
  {final : TaskStatus}

theorem PoolMove.of_unbonded (hpools : w'.pools = w.pools)
    (hold : (w.manager.tasks t).status.isBonded = false)
    (hnew : (w'.manager.tasks t).status.isBonded = false) : PoolMove D t w w' :=
  .kept hpools fun p => by rw [Task.coverAt_of_unbonded hold, Task.coverAt_of_unbonded hnew]

theorem PoolMove.of_uncovered (hpools : w'.pools = w.pools)
    (hterms : SameTerms (w.manager.tasks t) (w'.manager.tasks t))
    (hnot : ¬ (w.manager.tasks t).Covered) : PoolMove D t w w' := by
  refine .kept hpools fun p => ?_
  rw [Task.coverAt_of_uncovered hnot, Task.coverAt_of_uncovered (hterms.covered.not.mpr hnot)]

/-- Work on an accepted task leaves the pools alone. -/
theorem PoolMove.works (hstep : ManagerStep D sender msg w w' t) (hmsg : msg.works = true) :
    PoolMove D t w w' := by
  obtain ⟨hexists, hold, hnew⟩ := hstep.step.bonded_of_works hmsg
  exact .kept (hstep.pools hmsg) ((hstep.step.terms hexists).coverAt (by rw [hold, hnew]))

theorem PoolMove.accepts (h : acceptTask D sender t w = .ok (u, w')) : PoolMove D t w w' := by
  have hstep := (ManagerStep.accepts h).step
  obtain ⟨hexists, hstatus, hnew, -⟩ := hstep.accepted
  obtain ⟨policy, token, task, w₁, rfl, rfl, -, -, -, -, -, -, -, -, -, -, -, -, hcovered, hnot⟩ :=
    acceptTask_ok h
  by_cases hc : (w.manager.tasks t).Covered
  · obtain ⟨-, s, hlock, rfl⟩ := hcovered hc
    exact .locks rfl hc (by rw [hstatus]; rfl) (hstep.terms hexists) (by rw [hnew]; rfl) hlock rfl
  · refine .of_uncovered ?_ (hstep.terms hexists) hc
    rw [hnot hc]
    rfl

/-- The end of a task releases or claims its coverage. -/
theorem PoolMove.ends (hpaid : (w.manager.tasks t).recourseClaimPaid = false)
    (h : TaskEnd D t final w w') : PoolMove D t w w' := by
  obtain ⟨e, -, hend⟩ := h.ended
  have hself : w'.manager.tasks t = (w.manager.tasks t).ended final := by rw [h.tasks, update_self]
  have hnew : (w'.manager.tasks t).status = final := by rw [hself, Task.status_ended]
  obtain ⟨hrecoverable, hnot⟩ := hend
  rw [recoverable_iff hpaid] at hrecoverable hnot
  by_cases hc : (w.manager.tasks t).Covered
  · obtain ⟨-, -, s, hpool, rfl⟩ := hrecoverable hc
    cases hpool with
    | release hfinal hrelease =>
      exact .releases rfl hc h.bonded (by rw [hnew, h.terminal]) hrelease rfl
    | claim hclaim => exact .claims rfl hc h.bonded hnew hclaim rfl
  · exact .of_uncovered (by rw [hnot hc]; rfl) (hself ▸ .ended ..) hc

end moves

/-! ### Every call -/

section every

variable [ERC20SettlementToken τ] {sender : Address} {u : Unit}

/-- The pools after a task was opened. -/
theorem PoolMove.opens (hempty : (w.manager.tasks t).exists_ = false → w.manager.tasks t = .empty)
    {rootfieldId policyId termsHash : Bytes32} {payout : ℕ} {verifier pool : Address} {coverage : ℕ}
    (h : openTaskWithRecourse D sender rootfieldId policyId termsHash payout verifier pool coverage
      w = .ok (t, w')) : PoolMove D t w w' := by
  obtain ⟨policy, quote, token, task, rfl, -, -, -, -, -, -, hnew, -, -, -, rfl⟩ :=
    openTaskWithRecourse_ok h
  refine .of_unbonded rfl (by rw [hempty hnew]; rfl) ?_
  simp only [afterOpen, update_self]
  rfl

theorem PoolMove.cancels (h : cancelOpenTask D sender t w = .ok (u, w')) : PoolMove D t w w' := by
  obtain ⟨-, -, hstatus, -, -, -, rfl⟩ := cancelOpenTask_ok h
  refine .of_unbonded rfl (by rw [hstatus]; rfl) ?_
  simp only [update_self]
  rfl

/-- A call to the manager changes its settings, or it moves the books and the coverage of one
task. -/
theorem taskMove_of_call (hsender : D.External sender) (hw : AllRecorded D w)
    {msg : AgentBondManager.Msg} (h : bondCall D sender (.manager msg) w = .ok (u, w')) :
    (∃ s, w' = { w with manager := { w.manager with settings := s } }) ∨
    ∃ t, ManagerStep D sender msg w w' t ∧ TaskMove D w w' t ∧ PoolMove D t w w' := by
  have hpaid {t : Bytes32} {final : TaskStatus} (hend : TaskEnd D t final w w') :
      (w.manager.tasks t).recourseClaimPaid = false := by
    refine (hw t).unpaid fun hslashed => ?_
    have hbonded := hend.bonded
    rw [hslashed] at hbonded
    cases hbonded
  cases msg with
  | settings m =>
    simp [bondCall, AgentBondManager.call] at h
    obtain ⟨s, -, rfl⟩ := h
    exact .inl ⟨s, rfl⟩
  | openTask rootfieldId policyId termsHash payout verifier
  | openTaskWithRecourse rootfieldId policyId termsHash payout verifier pool coverage =>
    obtain ⟨t, w₁, hopen, hend⟩ := bind_ok.mp h
    obtain ⟨-, rfl⟩ := pure_ok.mp hend
    exact .inr ⟨t, .opens rfl hopen, .opensTask hsender (hw t).empty hopen,
      .opens (hw t).empty hopen⟩
  | cancelOpenTask t => exact .inr ⟨t, .cancels h, .cancels h, .cancels h⟩
  | acceptTask t => exact .inr ⟨t, .accepts h, .accepts hsender h, .accepts h⟩
  | startTask t => exact .inr ⟨t, .starts h, .quiet (.starts h) rfl, .works (.starts h) rfl⟩
  | commitEvidence t evidence availability availabilityUntil =>
    exact .inr ⟨t, .commits h, .quiet (.commits h) rfl, .works (.commits h) rfl⟩
  | submitVerifierReport t reportId status digest =>
    exact .inr ⟨t, .reports h, .quiet (.reports h) rfl, .works (.reports h) rfl⟩
  | confirmVerifierReport t status digest =>
    exact .inr ⟨t, .confirms h, .quiet (.confirms h) rfl, .works (.confirms h) rfl⟩
  | challengeTask t commitment =>
    exact .inr ⟨t, .challenges h, .challenges hsender h, .works (.challenges h) rfl⟩
  | resolveChallenge t status digest slashBps =>
    exact .inr ⟨t, .resolves h, .resolves h, .works (.resolves h) rfl⟩
  | settleTask t =>
    have hend : TaskEnd D t _ w w' := .settles h
    exact .inr ⟨t, .settles h, .ends (hpaid hend) hend, .ends (hpaid hend) hend⟩
  | slashExpiredNoSubmission t =>
    have hend : TaskEnd D t _ w w' := .expires h
    exact .inr ⟨t, .expires h, .ends (hpaid hend) hend, .ends (hpaid hend) hend⟩

end every

/-! ### The books of a pool -/

/-- The totals of a pool are the sums over the tasks. -/
structure AgentUnderwriterPool.Balanced (p : AgentUnderwriterPool) : Prop where
  totalLocked : p.totalLocked = ∑ t, p.lockedByTask t
  totalAllocated : p.totalAllocated = ∑ t, p.lockedByTask t

/-- The coverage of one task was replaced. -/
theorem AgentUnderwriterPool.Balanced.update {p p' : AgentUnderwriterPool} (h : p.Balanced)
    {amount : ℕ} (hlocked : p'.lockedByTask = update p.lockedByTask t amount)
    (htotal : p'.totalLocked + p.lockedByTask t = p.totalLocked + amount)
    (hallocated : p'.totalAllocated + p.lockedByTask t = p.totalAllocated + amount) :
    p'.Balanced := by
  have hsum := sum_update p.lockedByTask t amount
  have hfirst := h.totalLocked
  have hsecond := h.totalAllocated
  constructor <;> rw [hlocked] <;> omega

/-- The books of the pool `p`. -/
structure PoolBooks (D : Deployment) (p : Address) (w : World τ) : Prop where
  allocators : ∀ a, (w.pools p).isAllocator a = true → a = D.manager
  allocated : ∀ t, (w.manager.tasks t).coverAt p ≠ 0 → (w.pools p).isAllocator D.manager = true
  locked : ∀ t, (w.pools p).lockedByTask t = (w.manager.tasks t).coverAt p
  balanced : (w.pools p).Balanced

section books

variable {p : Address} {pool : Address} {s : AgentUnderwriterPool}

theorem PoolBooks.deployed (h : w.Deployed D) (hp : D.isPool p = true) : PoolBooks D p w := by
  obtain ⟨owner, guardian, authority, hm⟩ := h.manager
  obtain ⟨poolOwner, coverage, riskTier, hpool⟩ := h.pools p hp
  have hzero : Task.empty.coverAt p = 0 := Task.coverAt_of_unbonded rfl p
  refine ⟨?_, ?_, ?_, ⟨?_, ?_⟩⟩ <;>
    simp [hm, hpool, AgentBondManager.deployed, AgentUnderwriterPool.deployed, hzero]

/-- A pool and the records that it depends on. -/
theorem PoolBooks.congr (h : PoolBooks D p w) (hpool : w'.pools p = w.pools p)
    (hcover : ∀ t, (w'.manager.tasks t).coverAt p = (w.manager.tasks t).coverAt p) :
    PoolBooks D p w' := by
  refine ⟨?_, ?_, ?_, ?_⟩ <;> simp only [hpool, hcover]
  exacts [h.allocators, h.allocated, h.locked, h.balanced]

variable (h : PoolBooks D p w)
  (htasks : w'.manager.tasks = update w.manager.tasks t (w'.manager.tasks t))

include h htasks

/-- A pool that is not the pool of the task sees nothing of the call. -/
theorem PoolBooks.other (hpool : w'.pools p = w.pools p)
    (hcover : (w'.manager.tasks t).coverAt p = (w.manager.tasks t).coverAt p) :
    PoolBooks D p w' := by
  refine h.congr hpool fun t' => ?_
  by_cases ht : t' = t
  · rw [ht, hcover]
  · rw [htasks, update_of_ne ht]

variable (hpools : w'.pools = update w.pools pool s)
  (hall : (w.pools pool).isAllocator D.manager = true)
  (hallocator : s.isAllocator = (w.pools pool).isAllocator)
  (hbalanced : (w.pools pool).Balanced → s.Balanced)

include hpools hall hallocator hbalanced

/-- The coverage of one task was replaced, in a pool and in the record. -/
theorem PoolBooks.write
    (hlocked : s.lockedByTask = update (w.pools pool).lockedByTask t
      ((w'.manager.tasks t).coverAt pool))
    (hcover : p ≠ pool → (w'.manager.tasks t).coverAt p = (w.manager.tasks t).coverAt p) :
    PoolBooks D p w' := by
  by_cases hp : p = pool
  · subst hp
    have hself : w'.pools p = s := by rw [hpools, update_self]
    refine ⟨?_, ?_, fun t' => ?_, ?_⟩ <;> rw [hself]
    · rw [hallocator]
      exact h.allocators
    · rw [hallocator]
      exact fun _ _ => hall
    · rw [hlocked]
      by_cases ht : t' = t
      · rw [ht, update_self]
      · rw [htasks, update_of_ne ht, update_of_ne ht]
        exact h.locked t'
    · exact hbalanced h.balanced
  · exact h.other htasks (by rw [hpools, update_of_ne hp]) (hcover hp)

/-- The coverage of a task that has ended is unlocked. -/
theorem PoolBooks.unlock (hpool : (w.manager.tasks t).recoursePool = pool)
    (hnew : (w'.manager.tasks t).status.isBonded = false)
    (hlocked : s.lockedByTask = update (w.pools pool).lockedByTask t 0) : PoolBooks D p w' := by
  have hzero := Task.coverAt_of_unbonded hnew
  refine h.write htasks hpools hall hallocator hbalanced (by rw [hlocked, hzero]) fun hp => ?_
  rw [hzero, Task.coverAt, if_neg (by rw [hpool]; exact Ne.symm hp)]

omit h htasks hpools hall hallocator hbalanced

variable [ERC20SettlementToken τ]

theorem PoolBooks.move (h : PoolBooks D p w) (hmove : PoolMove D t w w')
    (htasks : w'.manager.tasks = update w.manager.tasks t (w'.manager.tasks t)) :
    PoolBooks D p w' := by
  cases hmove with
  | kept hpools hcover => exact h.other htasks (congrFun hpools p) (hcover p)
  | @locks task token s htask hcovered hold hterms hnew hlock hpools =>
    obtain ⟨hall, -, -, hzero, -, -, -, -, -, rfl⟩ :=
      AgentUnderwriterPool.lockCoverage_ok.mp hlock
    have hcover := Task.coverAt_of_bonded hnew (hterms.covered.mpr hcovered)
    simp only [hterms.recoursePool, hterms.recourseCoverage] at hcover
    simp only at hzero
    refine h.write htasks hpools hall rfl
      (fun hb => hb.update rfl (by simp only; omega) (by simp only; omega))
      (by rw [hcover, if_pos rfl]) fun hp => ?_
    rw [hcover, if_neg (Ne.symm hp), ← htask, Task.coverAt_of_unbonded hold]
  | @releases task token released s htask hcovered hold hnew hrelease hpools =>
    obtain ⟨hall, rfl, -, hlocked, hallocated, rfl⟩ :=
      AgentUnderwriterPool.releaseForTask_ok.mp hrelease
    simp only at hlocked hallocated
    exact h.unlock htasks hpools hall rfl
      (fun hb => hb.update rfl (by simp only; omega) (by simp only; omega)) (by rw [htask])
      (isBonded_of_terminal hnew) rfl
  | @claims task token paid recipient reason s htask hcovered hold hnew hclaim hpools =>
    obtain ⟨-, hall, -, -, -, hlocked, hallocated, token', -, rfl⟩ :=
      AgentUnderwriterPool.payClaim_ok.mp hclaim
    simp only at hlocked hallocated
    refine h.unlock htasks hpools hall rfl (fun hb => hb.update rfl ?_ ?_) (by rw [htask])
      (by rw [hnew]; rfl) rfl <;> simp only [AgentUnderwriterPool.afterClaim] <;> omega

/-- The pool after a call of somebody else to a pool. -/
theorem PoolBooks.poolCall (h : PoolBooks D p w) {sender : Address} (hsender : D.External sender)
    {msg : AgentUnderwriterPool.Msg} {u : Unit}
    (hwired : PoolsWired D sender (.pool pool msg) w)
    (hcall : bondCall D sender (.pool pool msg) w = .ok (u, w')) : PoolBooks D p w' := by
  obtain ⟨-, s, hs, rfl⟩ := bondCall_pool_ok.mp hcall
  by_cases hp : p = pool
  · subst hp
    have hself : (w.putPool D p s).pools p = s.contract := update_self ..
    have hnot : (w.withPool D p).contract.isAllocator sender = false := by
      refine Bool.eq_false_of_not_eq_true fun hall => ?_
      exact hsender.2.1 (h.allocators sender hall)
    obtain ⟨hsame, hallocators⟩ := (AgentUnderwriterPool.effect_of_call hs).frame hnot
    have hmanager : (w.pools p).isAllocator D.manager = true →
        s.contract.isAllocator D.manager = true := by
      intro hall
      rcases hallocators D.manager with heq | hmsg
      · rw [heq]
        exact hall
      · subst hmsg
        exact hwired.mpr rfl
    refine ⟨fun a ha => ?_, fun t ht => ?_, fun t => ?_, ⟨?_, ?_⟩⟩ <;> rw [hself] at *
    · rcases hallocators a with heq | hmsg
      · exact h.allocators a (heq.symm.trans ha)
      · subst hmsg
        exact hwired.mp ha
    · exact hmanager (h.allocated t ht)
    · rw [hsame.lockedByTask]
      exact h.locked t
    · rw [hsame.totalLocked, hsame.lockedByTask]
      exact h.balanced.totalLocked
    · rw [hsame.totalAllocated, hsame.lockedByTask]
      exact h.balanced.totalAllocated
  · exact h.congr (update_of_ne hp ..) fun _ => rfl

theorem PoolBooks.call (h : PoolBooks D p w) (hw : AllRecorded D w) {sender : Address}
    (hsender : D.External sender) {msg : BondMsg} {u : Unit} (hwired : PoolsWired D sender msg w)
    (hcall : bondCall D sender msg w = .ok (u, w')) : PoolBooks D p w' := by
  cases msg with
  | manager m =>
    rcases taskMove_of_call hsender hw hcall with ⟨s, rfl⟩ | ⟨t, hstep, -, hmove⟩
    · exact h.congr rfl fun _ => rfl
    · exact h.move hmove hstep.tasks
  | pool pool m => exact h.poolCall hsender hwired hcall
  | _ =>
    have hframe := bondCall_frame hcall nofun
    exact h.congr (by rw [hframe.pools nofun]) fun _ => by rw [hframe.manager]

theorem BondRun.poolBooks {w₀ : World τ} {l : List (BondEntry τ)} (h₀ : w₀.Deployed D)
    (hrun : BondRun D (PoolsWired D) w₀ l w) (hp : D.isPool p = true) : PoolBooks D p w := by
  induction hrun with
  | start => exact .deployed h₀ hp
  | call hrun hsender hok h ih => exact ih.call (hrun.recorded h₀) hsender hok h
  | time _ _ ih | token _ _ ih => exact ih.congr rfl fun _ => rfl

end books

end FlowMemory.AgentBonds
