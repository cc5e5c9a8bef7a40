import FlowMemory.AgentBonds.ExposureBooks

/-! # Recourse

What the calls to the manager write to the log of a pool about the coverage of a task is its
**recourse history**: the acceptance of a covered task locks the coverage, and its end releases it
or claims it.  A claim is paid once, by the call that ends the task as slashed. -/

namespace FlowMemory.AgentBonds

open Call ERC20SettlementToken AgentBondManager Function AgentUnderwriterPool
open AgentUnderwriterPool (coveredTask claimLogs)

variable {τ : Type} {D : Deployment} {w w' : World τ} {p : Address} {t : Bytes32}

/-! ### Histories -/

/-- What the pool `p` has written about the coverage of the task `t` between two states. -/
def coverageEvents (p : Address) (t : Bytes32) (w w' : World τ) : List PoolEvent :=
  (gained ((w.pools p).coverageLog t) ((w'.pools p).coverageLog t)).map Prod.snd

/-- What each of the calls to the manager made the pool `p` write about the coverage of the task
`t`, the newest first.  The state after the calls is `w`. -/
def recourseEvents (p : Address) (t : Bytes32) :
    World τ → List (BondEntry τ) → List (List PoolEvent)
  | _, [] => []
  | w, ⟨_, .manager _, before⟩ :: l => coverageEvents p t before w :: recourseEvents p t before l
  | _, ⟨_, _, before⟩ :: l => recourseEvents p t before l

/-- The calls of the manager to the pool `p` for the task `t`, by what they wrote. -/
def recourseCalls (p : Address) (t : Bytes32) (w : World τ) (l : List (BondEntry τ)) :
    List (List PoolEvent) :=
  (recourseEvents p t w l).filter (· ≠ [])

/-- What an event has paid for a claim. -/
def PoolEvent.claimed : PoolEvent → ℕ
  | .claimPaid _ _ _ paid => paid
  | _ => 0

def PoolEvent.isClaim : PoolEvent → Bool
  | .claimPaid .. => true
  | _ => false

def PoolEvent.isRelease : PoolEvent → Bool
  | .coverageReleased .. => true
  | _ => false

/-- A call of `payClaim` writes a claim. -/
def paysClaim (events : List PoolEvent) : Bool := events.any PoolEvent.isClaim

/-- A call of `releaseForTask` writes a release and no claim. -/
def releasesOnly (events : List PoolEvent) : Bool :=
  !paysClaim events && events.any PoolEvent.isRelease

/-- The pool `p` has locked coverage for the task at some time. -/
def Task.CoveredBy (task : Task) (p : Address) : Prop :=
  task.agent ≠ 0 ∧ task.Covered ∧ task.recoursePool = p

/-- The recourse history of the task `t` in the pool `p`. -/
inductive RecourseHistory (t : Bytes32) (p : Address) (task : Task) :
    List (List PoolEvent) → Prop
  | none (h : ¬ task.CoveredBy p) : RecourseHistory t p task []
  | locked (h : task.CoveredBy p) (hbonded : task.status.isBonded = true) :
      RecourseHistory t p task [[.coverageLocked t task.recourseCoverage]]
  | released {amount : ℕ} (h : task.CoveredBy p) (hended : task.status.isTerminal = true) :
      RecourseHistory t p task
        [[.coverageReleased t amount], [.coverageLocked t task.recourseCoverage]]
  | claimed {rest : List PoolEvent} {recipient : Address} {reason : Bytes32} {paid : ℕ}
      (h : task.CoveredBy p) (hslashed : task.status = .slashed)
      (hrest : rest = [] ∨ ∃ amount, rest = [.coverageReleased t amount])
      (hpaid : paid ≤ task.recourseCoverage) :
      RecourseHistory t p task
        [rest ++ [.claimPaid t recipient reason paid], [.coverageLocked t task.recourseCoverage]]

/-! ### What a call writes -/

section events

theorem coverageEvents_of_logs (new : List (ℕ × PoolEvent))
    (h : (w'.pools p).logs = new ++ (w.pools p).logs) :
    coverageEvents p t w w' =
      (new.filter fun event => coveredTask event.2 = some t).map Prod.snd := by
  simp only [coverageEvents, coverageLog, h, List.filter_append, gained_append]

theorem coverageEvents_of_pool (h : w'.pools p = w.pools p) : coverageEvents p t w w' = [] :=
  coverageEvents_of_logs [] (by rw [h]; rfl)

/-- The events of a call about another task. -/
theorem coverageEvents_of_ne {new : List (ℕ × PoolEvent)} {t' : Bytes32} (ht : t ≠ t')
    (h : (w'.pools p).logs = new ++ (w.pools p).logs)
    (hnew : ∀ event ∈ new, coveredTask event.2 = some t') : coverageEvents p t w w' = [] := by
  rw [coverageEvents_of_logs _ h, List.map_eq_nil_iff, List.filter_eq_nil_iff]
  intro event hevent
  simp [hnew event hevent, Ne.symm ht]

/-- The events of a call about this task. -/
theorem coverageEvents_of_eq (new : List (ℕ × PoolEvent))
    (h : (w'.pools p).logs = new ++ (w.pools p).logs)
    (hnew : ∀ event ∈ new, coveredTask event.2 = some t) :
    coverageEvents p t w w' = new.map Prod.snd := by
  rw [coverageEvents_of_logs _ h, List.filter_eq_self.mpr]
  intro event hevent
  simp [hnew event hevent]

theorem coveredTask_claimLogs {timestamp : ℕ} {recipient : Address} {reason : Bytes32}
    {amount paid : ℕ} : ∀ event ∈ claimLogs timestamp t recipient reason amount paid,
      coveredTask event.2 = some t := by
  intro event hevent
  unfold claimLogs at hevent
  split_ifs at hevent <;> simp at hevent
  · rcases hevent with rfl | rfl <;> rfl
  · rw [hevent]
    rfl

theorem recourseCalls_of_nil {sender : Address} {msg : AgentBondManager.Msg}
    {l : List (BondEntry τ)} (h : coverageEvents p t w w' = []) :
    recourseCalls p t w' (⟨sender, .manager msg, w⟩ :: l) = recourseCalls p t w l := by
  simp [recourseCalls, recourseEvents, h]

theorem recourseCalls_of_ne {sender : Address} {msg : AgentBondManager.Msg}
    {l : List (BondEntry τ)} {events : List PoolEvent} (h : coverageEvents p t w w' = events)
    (hne : events ≠ []) :
    recourseCalls p t w' (⟨sender, .manager msg, w⟩ :: l) = events :: recourseCalls p t w l := by
  simp [recourseCalls, recourseEvents, h, hne]

theorem flatten_recourseCalls {sender : Address} {msg : AgentBondManager.Msg}
    {l : List (BondEntry τ)} :
    (recourseCalls p t w' (⟨sender, .manager msg, w⟩ :: l)).flatten =
      coverageEvents p t w w' ++ (recourseCalls p t w l).flatten := by
  by_cases h : coverageEvents p t w w' = []
  · rw [recourseCalls_of_nil h, h, List.nil_append]
  · rw [recourseCalls_of_ne rfl h, List.flatten_cons]

theorem recourseCalls_of_other {sender : Address} {msg : BondMsg} {l : List (BondEntry τ)}
    (h : ∀ m, msg ≠ .manager m) :
    recourseCalls p t w' (⟨sender, msg, w⟩ :: l) = recourseCalls p t w l := by
  cases msg with
  | manager m => exact absurd rfl (h m)
  | escrow m | stakes m | policies m | pool pool m | poolRegistry registry m
  | attestations registry m => rfl

theorem recourseCalls_congr {l : List (BondEntry τ)} (h : w'.pools = w.pools) :
    recourseCalls p t w' l = recourseCalls p t w l := by
  cases l with
  | nil => rfl
  | cons e l =>
    obtain ⟨sender, msg, before⟩ := e
    cases msg <;> simp [recourseCalls, recourseEvents, coverageEvents, h]

theorem recourseCalls_now {l : List (BondEntry τ)} {later : ℕ} :
    recourseCalls p t { w with now := later } l = recourseCalls p t w l :=
  recourseCalls_congr rfl

theorem recourseCalls_tokens {l : List (BondEntry τ)} {tokens : Address → τ} :
    recourseCalls p t { w with tokens } l = recourseCalls p t w l :=
  recourseCalls_congr rfl

end events

/-! ### Steps -/

section steps

variable {task : Task} {calls : List (List PoolEvent)} {pool : Address} {s : AgentUnderwriterPool}

theorem Task.coverAt_ne_zero :
    task.coverAt p ≠ 0 ↔ task.status.isBonded = true ∧ task.Covered ∧ task.recoursePool = p := by
  by_cases hbonded : task.status.isBonded = true
  · by_cases hcovered : task.Covered
    · rw [Task.coverAt_of_bonded hbonded hcovered]
      simp [hbonded, hcovered, hcovered.2]
    · simp [Task.coverAt_of_uncovered hcovered, hcovered]
  · simp [Task.coverAt_of_unbonded (Bool.eq_false_of_not_eq_true hbonded), hbonded]

theorem RecourseHistory.eq_nil (h : RecourseHistory t p task calls) (hnot : ¬ task.CoveredBy p) :
    calls = [] := by
  cases h with
  | none => rfl
  | locked h | released h | claimed h => exact absurd h hnot

/-- The history of a task that was not accepted. -/
theorem RecourseHistory.eq_nil_of_unbonded (h : RecourseHistory t p task calls)
    (hlive : task.status.isTerminal = false) (hbonded : task.status.isBonded = false) :
    calls = [] := by
  cases h with
  | none => rfl
  | locked h hlocked => rw [hlocked] at hbonded; cases hbonded
  | released h hended => rw [hended] at hlive; cases hlive
  | claimed h hslashed => rw [hslashed] at hlive; cases hlive

/-- The history of an accepted task that has not ended. -/
theorem RecourseHistory.eq_locked (h : RecourseHistory t p task calls)
    (hlive : task.status.isTerminal = false) (hcovered : task.CoveredBy p) :
    task.status.isBonded = true ∧ calls = [[.coverageLocked t task.recourseCoverage]] := by
  cases h with
  | none h => exact absurd hcovered h
  | locked h hbonded => exact ⟨hbonded, rfl⟩
  | released h hended => rw [hended] at hlive; cases hlive
  | claimed h hslashed => rw [hslashed] at hlive; cases hlive

variable {sender : Address} {msg : AgentBondManager.Msg} {l : List (BondEntry τ)}

/-- The end of a task keeps its agent. -/
theorem ManagerStep.coveredBy (hstep : ManagerStep D sender msg w w' t) (hw : AllRecorded D w)
    (hbonded : (w.manager.tasks t).status.isBonded = true)
    (h : (w.manager.tasks t).CoveredBy p) : (w'.manager.tasks t).CoveredBy p := by
  have hterms := hstep.step.terms ((hw t).exists_of_bonded hbonded)
  refine ⟨?_, hterms.covered.mpr h.2.1, hterms.recoursePool.trans h.2.2⟩
  rcases hstep.step.agent_cases (hw t) with rfl | hagent
  · rw [hstep.step.accepted.2.1] at hbonded
    cases hbonded
  · rw [hagent]
    exact h.1

/-- A call that leaves the pools alone. -/
theorem RecourseHistory.kept (hstep : ManagerStep D sender msg w w' t) (hw : AllRecorded D w)
    (hcover : (w'.manager.tasks t).coverAt p = (w.manager.tasks t).coverAt p)
    (h : RecourseHistory t p (w.manager.tasks t) calls) :
    RecourseHistory t p (w'.manager.tasks t) calls := by
  have hlive := hstep.step.not_terminal (hw t)
  have hbonded : (w'.manager.tasks t).coverAt p ≠ 0 ↔ (w.manager.tasks t).coverAt p ≠ 0 := by
    rw [hcover]
  rw [Task.coverAt_ne_zero, Task.coverAt_ne_zero] at hbonded
  by_cases hold : (w.manager.tasks t).CoveredBy p
  · obtain ⟨hb, rfl⟩ := h.eq_locked hlive hold
    obtain ⟨hb', -⟩ := hbonded.mpr ⟨hb, hold.2⟩
    rw [← (hstep.step.terms ((hw t).exists_of_bonded hb)).recourseCoverage]
    exact .locked (hstep.coveredBy hw hb hold) hb'
  · rw [h.eq_nil hold]
    refine .none fun hnew => hold ?_
    rcases hstep.step.agent_cases (hw t) with rfl | hagent
    · have hb : (w'.manager.tasks t).status.isBonded = true := by
        rw [hstep.step.accepted.2.2.1]
        rfl
      obtain ⟨hb', hcovered⟩ := hbonded.mp ⟨hb, hnew.2⟩
      exact ⟨((hw t).bonded hb').1, hcovered⟩
    · have hne : (w.manager.tasks t).agent ≠ 0 := by
        rw [← hagent]
        exact hnew.1
      have hterms := hstep.step.terms ((hw t).exists_of_ne Task.agent hne)
      exact ⟨hne, hterms.covered.mp hnew.2.1, hterms.recoursePool.symm.trans hnew.2.2⟩

theorem logs_of_update (new : List (ℕ × PoolEvent)) (hpools : w'.pools = update w.pools pool s)
    (hlogs : s.logs = new ++ (w.pools pool).logs)
    (hnew : ∀ event ∈ new, coveredTask event.2 = some t) (p : Address) :
    ∃ new, (w'.pools p).logs = new ++ (w.pools p).logs ∧
      ∀ event ∈ new, coveredTask event.2 = some t := by
  by_cases hp : p = pool
  · subst hp
    exact ⟨new, by rw [hpools, update_self, hlogs], hnew⟩
  · exact ⟨[], by rw [hpools, update_of_ne hp]; rfl, by simp⟩

/-- A call that writes to the log of the pool of the task. -/
theorem RecourseHistory.written (new : List (ℕ × PoolEvent))
    (hpools : w'.pools = update w.pools (w.manager.tasks t).recoursePool s)
    (hlogs : s.logs = new ++ (w.pools (w.manager.tasks t).recoursePool).logs)
    (hnew : ∀ event ∈ new, coveredTask event.2 = some t) (hne : new ≠ [])
    (hpool : (w'.manager.tasks t).recoursePool = (w.manager.tasks t).recoursePool)
    (hself : (w.manager.tasks t).recoursePool = p →
      RecourseHistory t p (w'.manager.tasks t) (new.map Prod.snd :: recourseCalls p t w l))
    (h : RecourseHistory t p (w.manager.tasks t) (recourseCalls p t w l)) :
    RecourseHistory t p (w'.manager.tasks t)
      (recourseCalls p t w' (⟨sender, .manager msg, w⟩ :: l)) := by
  by_cases hp : p = (w.manager.tasks t).recoursePool
  · have hlog : (w'.pools p).logs = new ++ (w.pools p).logs := by rw [hpools, hp, update_self, hlogs]
    rw [recourseCalls_of_ne (coverageEvents_of_eq new hlog hnew) (by simpa using hne)]
    exact hself hp.symm
  · have hother : w'.pools p = w.pools p := by rw [hpools, update_of_ne hp]
    rw [recourseCalls_of_nil (coverageEvents_of_pool hother),
      h.eq_nil fun hcovered => hp hcovered.2.2.symm]
    exact .none fun hcovered => hp (hcovered.2.2.symm.trans hpool)

variable [ERC20SettlementToken τ]

/-- The call that locks, releases or claims the coverage of the task. -/
theorem RecourseHistory.move (hstep : ManagerStep D sender msg w w' t)
    (hmove : PoolMove D t w w') (hw : AllRecorded D w) (hw' : AllRecorded D w')
    (h : RecourseHistory t p (w.manager.tasks t) (recourseCalls p t w l)) :
    RecourseHistory t p (w'.manager.tasks t)
      (recourseCalls p t w' (⟨sender, .manager msg, w⟩ :: l)) := by
  have hlive := hstep.step.not_terminal (hw t)
  cases hmove with
  | kept hpools hcover =>
    rw [recourseCalls_of_nil (coverageEvents_of_pool (congrFun hpools p))]
    exact h.kept hstep hw (hcover p)
  | @locks task token s htask hcovered hold hterms hnew hlock hpools =>
    obtain ⟨-, -, -, -, -, -, -, -, -, rfl⟩ := lockCoverage_ok.mp hlock
    subst htask
    refine h.written [_] hpools rfl (by simp [coveredTask]) (by simp) hterms.recoursePool
      fun hp => ?_
    rw [h.eq_nil_of_unbonded hlive hold, List.map_singleton, ← hterms.recourseCoverage]
    exact .locked ⟨((hw' t).bonded hnew).1, hterms.covered.mpr hcovered,
      hterms.recoursePool.trans hp⟩ hnew
  | @releases task token released s htask hcovered hold hnew hrelease hpools =>
    obtain ⟨-, -, -, -, -, rfl⟩ := releaseForTask_ok.mp hrelease
    subst htask
    have hterms := hstep.step.terms ((hw t).exists_of_bonded hold)
    refine h.written [_] hpools rfl (by simp [coveredTask]) (by simp) hterms.recoursePool
      fun hp => ?_
    have hby : (w.manager.tasks t).CoveredBy p := ⟨((hw t).bonded hold).1, hcovered, hp⟩
    rw [(h.eq_locked hlive hby).2, List.map_singleton, ← hterms.recourseCoverage]
    exact .released (hstep.coveredBy hw hold hby) hnew
  | @claims task token paid recipient reason s htask hcovered hold hnew hclaim hpools =>
    obtain ⟨hpaid, -, -, -, -, -, -, token', -, rfl⟩ := payClaim_ok.mp hclaim
    subst htask
    have hterms := hstep.step.terms ((hw t).exists_of_bonded hold)
    refine h.written _ hpools rfl coveredTask_claimLogs (by simp [claimLogs]) hterms.recoursePool
      fun hp => ?_
    have hby : (w.manager.tasks t).CoveredBy p := ⟨((hw t).bonded hold).1, hcovered, hp⟩
    unfold claimLogs
    rw [(h.eq_locked hlive hby).2, List.map_append, ← hterms.recourseCoverage]
    refine .claimed (hstep.coveredBy hw hold hby) hnew ?_ ?_
    · split_ifs
      · exact .inr ⟨_, rfl⟩
      · exact .inl rfl
    · rw [hpaid, hterms.recourseCoverage]
      exact Nat.min_le_left _ _

/-- A call about the task `t` writes to the logs of the pools about the task `t` only. -/
theorem PoolMove.logs (hmove : PoolMove D t w w') (p : Address) :
    ∃ new, (w'.pools p).logs = new ++ (w.pools p).logs ∧
      ∀ event ∈ new, coveredTask event.2 = some t := by
  cases hmove with
  | kept hpools hcover => exact ⟨[], by rw [hpools]; rfl, by simp⟩
  | locks htask hcovered hold hterms hnew hlock hpools =>
    obtain ⟨-, -, -, -, -, -, -, -, -, rfl⟩ := lockCoverage_ok.mp hlock
    exact logs_of_update [_] hpools rfl (by simp [coveredTask]) p
  | releases htask hcovered hold hnew hrelease hpools =>
    obtain ⟨-, -, -, -, -, rfl⟩ := releaseForTask_ok.mp hrelease
    exact logs_of_update [_] hpools rfl (by simp [coveredTask]) p
  | claims htask hcovered hold hnew hclaim hpools =>
    obtain ⟨-, -, -, -, -, -, -, token', -, rfl⟩ := payClaim_ok.mp hclaim
    exact logs_of_update _ hpools rfl coveredTask_claimLogs p

end steps

/-! ### Runs -/

section runs

variable [ERC20SettlementToken τ] {ok : Address → BondMsg → World τ → Prop} {w₀ : World τ}
  {l : List (BondEntry τ)} {u : Unit}

/-- Every task has a recourse history in every pool. -/
theorem BondRun.recourseHistory (h₀ : w₀.Deployed D) (hrun : BondRun D ok w₀ l w)
    (p : Address) (t : Bytes32) :
    RecourseHistory t p (w.manager.tasks t) (recourseCalls p t w l) := by
  induction hrun with
  | start =>
    obtain ⟨owner, guardian, authority, hm⟩ := h₀.manager
    rw [hm]
    exact .none fun h => h.1 rfl
  | @call l w w' sender msg hrun hsender hok h ih =>
    have hw := hrun.recorded h₀
    by_cases hmsg : ∃ m, msg = .manager m
    · obtain ⟨m, rfl⟩ := hmsg
      rcases taskMove_of_call hsender hw h with ⟨s, hs⟩ | ⟨t', hstep, -, hmove⟩
      · have htasks : w'.manager.tasks = w.manager.tasks := by rw [hs]
        rw [recourseCalls_of_nil (coverageEvents_of_pool (by rw [hs])), htasks]
        exact ih
      · by_cases ht : t = t'
        · subst ht
          exact ih.move hstep hmove hw (hw.call h)
        · obtain ⟨new, hlogs, hnew⟩ := hmove.logs p
          rw [recourseCalls_of_nil (coverageEvents_of_ne ht hlogs hnew), hstep.tasks,
            update_of_ne ht]
          exact ih
    · have hother : ∀ m, msg ≠ .manager m := fun m hm => hmsg ⟨m, hm⟩
      rw [recourseCalls_of_other hother, (bondCall_frame h hother).manager]
      exact ih
  | time _ _ ih =>
    rw [recourseCalls_now]
    exact ih
  | token _ _ ih =>
    rw [recourseCalls_tokens]
    exact ih

/-- A call to another contract writes nothing about coverage if the manager is the only
allocator. -/
theorem PoolBooks.coverageLog_eq (h : PoolBooks D p w) {sender : Address}
    (hsender : D.External sender) {msg : BondMsg} (hmsg : ∀ m, msg ≠ .manager m)
    (hcall : bondCall D sender msg w = .ok (u, w')) :
    (w'.pools p).coverageLog = (w.pools p).coverageLog := by
  cases msg with
  | manager m => exact absurd rfl (hmsg m)
  | pool pool m =>
    obtain ⟨-, s, hs, rfl⟩ := bondCall_pool_ok.mp hcall
    by_cases hp : p = pool
    · subst hp
      have hself : (w.putPool D p s).pools p = s.contract := update_self ..
      have hnot : (w.withPool D p).contract.isAllocator sender = false :=
        Bool.eq_false_of_not_eq_true fun hall => hsender.2.1 (h.allocators sender hall)
      rw [hself]
      exact ((effect_of_call hs).frame hnot).1.coverageLog
    · have hother : (w.putPool D pool s).pools p = w.pools p := update_of_ne hp ..
      rw [hother]
  | _ => rw [(bondCall_frame hcall nofun).pools nofun]

/-- If the manager is the only allocator, the log of a pool has the calls of the manager and nothing
else about coverage. -/
theorem BondRun.coverageLog_eq (h₀ : w₀.Deployed D) (hrun : BondRun D (PoolsWired D) w₀ l w)
    (hp : D.isPool p = true) (t : Bytes32) :
    ((w.pools p).coverageLog t).map Prod.snd = (recourseCalls p t w l).flatten := by
  induction hrun with
  | start =>
    obtain ⟨owner, coverage, riskTier, hpool⟩ := h₀.pools p hp
    rw [hpool]
    rfl
  | @call l w w' sender msg hrun hsender hok h ih =>
    by_cases hmsg : ∃ m, msg = .manager m
    · obtain ⟨m, rfl⟩ := hmsg
      rw [flatten_recourseCalls, ← ih]
      rcases taskMove_of_call hsender (hrun.recorded h₀) h with
        ⟨s, hs⟩ | ⟨t', -, -, hmove⟩
      · have hpool : w'.pools p = w.pools p := by rw [hs]
        rw [coverageEvents_of_pool hpool, hpool]
        rfl
      · obtain ⟨new, hlogs, -⟩ := hmove.logs p
        rw [coverageEvents_of_logs _ hlogs, ← List.map_append]
        unfold coverageLog
        rw [hlogs, List.filter_append]
    · have hother : ∀ m, msg ≠ .manager m := fun m hm => hmsg ⟨m, hm⟩
      rw [recourseCalls_of_other hother,
        (hrun.poolBooks h₀ hp).coverageLog_eq hsender hother h]
      exact ih
  | time _ _ ih =>
    rw [recourseCalls_now]
    exact ih
  | token _ _ ih =>
    rw [recourseCalls_tokens]
    exact ih

/-- What was paid for claims. -/
def paidBy (events : List PoolEvent) : ℕ := (events.map PoolEvent.claimed).sum

/-- What was paid for the claims of a task. -/
def claimsPaid (calls : List (List PoolEvent)) : ℕ := paidBy calls.flatten

theorem paysClaim_of_paidBy {events : List PoolEvent} (h : paidBy events ≠ 0) :
    paysClaim events = true := by
  by_contra hnot
  refine h (List.sum_eq_zero fun n hn => ?_)
  obtain ⟨event, hevent, rfl⟩ := List.mem_map.mp hn
  cases event with
  | claimPaid => exact absurd (List.any_eq_true.mpr ⟨_, hevent, rfl⟩) hnot
  | _ => rfl

/-- How much less the pool `p` has after a call about the task `t`. -/
def BondEntry.poolFall (D : Deployment) (p : Address) (t : Bytes32) (e : BondEntry τ) : ℕ :=
  match e.msg with
  | .manager m => if m.taskId? = some t then balanceOf p (e.before.tokens (D.asset p)) -
      balanceOf p ((e.after D).tokens (D.asset p)) else 0
  | _ => 0

theorem le_update {a k k' : Address} {n : ℕ} {token : τ}
    (h : balanceOf a (w.tokens k) ≤ balanceOf a token + n) :
    balanceOf a (w.tokens k') ≤ balanceOf a (update w.tokens k token k') + n := by
  by_cases hk : k' = k
  · rwa [hk, update_self]
  · rw [update_of_ne hk]
    exact Nat.le_add_right _ _

/-- A pool pays at most the claims that it writes down. -/
theorem TokenMove.pool_le (hτ : ExactTransfers τ) (hp : D.isPool p = true) {inc : ℕ}
    (h : TokenMove D t w w' inc) : balanceOf p (w.tokens (D.asset p)) ≤
      balanceOf p (w'.tokens (D.asset p)) + paidBy (coverageEvents p t w w') := by
  have hne {a : Address} (ha : D.isPool a = false) : p ≠ a := by
    rintro rfl
    rw [hp] at ha
    cases ha
  cases h with
  | none htokens => rw [htokens]; exact Nat.le_add_right _ _
  | lock hpayer h htokens =>
    rw [htokens]
    exact le_update (((hτ.transferFrom_moved h).le_of_ne (hne hpayer.2.2.2.2)).trans
      (Nat.le_add_right _ _))
  | slash h htokens =>
    rw [htokens]
    have hregistry := hne D.isPool_stakeRegistry
    exact le_update (((h _).le_of_ne hτ hregistry hregistry).trans (Nat.le_add_right _ _))
  | @claim pool recipient reason locked paid token hpool h htokens hlogs =>
    rw [htokens]
    by_cases hpp : p = pool
    · subst hpp
      rw [coverageEvents_of_eq _ hlogs coveredTask_claimLogs]
      have hpaid : paid ≤ paidBy ((claimLogs w.now t recipient reason locked paid).map Prod.snd) := by
        simp [paidBy, claimLogs, PoolEvent.claimed]
      refine le_update (le_trans ?_ (Nat.add_le_add_left hpaid _))
      unfold PaidFrom at h
      split_ifs at h
      · exact (hτ.transfer_moved h).le_add
      · rw [h]
        exact Nat.le_add_right _ _
    · exact le_update (((h.tokenCall pool).le_of_ne hτ hpp hpp).trans (Nat.le_add_right _ _))

/-- A call about a task lowers the balance of a pool by at most what the pool writes down. -/
theorem poolFall_le (hτ : ExactTransfers τ) (hp : D.isPool p = true) {sender : Address}
    {m : AgentBondManager.Msg} (hsender : D.External sender) (hw : AllRecorded D w)
    (h : bondCall D sender (.manager m) w = .ok (u, w')) :
    BondEntry.poolFall D p t ⟨sender, .manager m, w⟩ ≤ paidBy (coverageEvents p t w w') := by
  simp only [BondEntry.poolFall, after_of_ok h]
  split_ifs with ht
  · rcases taskMove_of_call hsender hw h with ⟨s, rfl⟩ | ⟨t', hstep, hmove, -⟩
    · rw [Nat.sub_self]
      exact Nat.zero_le _
    · obtain rfl := hstep.step.eq_of_names ht
      obtain ⟨inc, out, -, -, -, htokens⟩ := hmove.escrow
      exact Nat.sub_le_iff_le_add'.mpr (htokens.pool_le hτ hp)
  · exact Nat.zero_le _

theorem BondRun.poolFall_le (hτ : ExactTransfers τ) (h₀ : w₀.Deployed D)
    (hrun : BondRun D ok w₀ l w) (hp : D.isPool p = true) :
    (l.map (BondEntry.poolFall D p t)).sum ≤ claimsPaid (recourseCalls p t w l) := by
  induction hrun with
  | start => exact Nat.zero_le _
  | @call l w w' sender msg hrun hsender hok h ih =>
    rw [List.map_cons, List.sum_cons]
    by_cases hmsg : ∃ m, msg = .manager m
    · obtain ⟨m, rfl⟩ := hmsg
      have hfall := AgentBonds.poolFall_le (t := t) hτ hp hsender (hrun.recorded h₀) h
      rw [claimsPaid, flatten_recourseCalls, paidBy, List.map_append, List.sum_append]
      exact Nat.add_le_add hfall ih
    · have hother : ∀ m, msg ≠ .manager m := fun m hm => hmsg ⟨m, hm⟩
      have hzero : BondEntry.poolFall D p t ⟨sender, msg, w⟩ = 0 := by
        cases msg <;> first | rfl | exact absurd rfl (hother _)
      rw [recourseCalls_of_other hother, hzero, Nat.zero_add]
      exact ih
  | time _ _ ih =>
    rw [recourseCalls_now]
    exact ih
  | token _ _ ih =>
    rw [recourseCalls_tokens]
    exact ih

theorem RecourseHistory.claimsPaid_le {task : Task} {calls : List (List PoolEvent)}
    (h : RecourseHistory t p task calls) :
    claimsPaid calls ≤ if task.recoursePool = p then task.recourseCoverage else 0 := by
  cases h with
  | none h => simp [claimsPaid, paidBy]
  | locked h hbonded | released h hended => simp [claimsPaid, paidBy, PoolEvent.claimed]
  | claimed h hslashed hrest hpaid =>
    rw [if_pos h.2.2]
    rcases hrest with rfl | ⟨amount, rfl⟩ <;> simpa [claimsPaid, paidBy, PoolEvent.claimed] using hpaid

/-- A covered task that has ended had one claim or one release. -/
theorem RecourseHistory.ended {task : Task} {calls : List (List PoolEvent)}
    (h : RecourseHistory t p task calls) (hcovered : task.CoveredBy p)
    (hended : task.status.isTerminal = true) :
    calls.countP paysClaim + calls.countP releasesOnly = 1 := by
  cases h with
  | none h => exact absurd hcovered h
  | locked h hbonded => rw [isBonded_of_terminal hended] at hbonded; cases hbonded
  | released h hended => rfl
  | claimed h hslashed hrest hpaid => rcases hrest with rfl | ⟨amount, rfl⟩ <;> rfl

/-- A claim in the history of a task. -/
theorem RecourseHistory.slashed {task : Task} {calls : List (List PoolEvent)}
    (h : RecourseHistory t p task calls) (hclaim : ∃ events ∈ calls, paysClaim events = true) :
    task.status = .slashed := by
  obtain ⟨events, hevents, hpays⟩ := hclaim
  cases h with
  | none h => simp at hevents
  | locked h hbonded =>
    rw [List.mem_singleton.mp hevents] at hpays
    cases hpays
  | released h hended =>
    rcases List.mem_pair.mp hevents with rfl | rfl <;> cases hpays
  | claimed h hslashed hrest hpaid => exact hslashed

/-- A call that writes about the coverage of a task is about this task. -/
theorem not_terminal_of_events {sender : Address} (hsender : D.External sender)
    (hw : AllRecorded D w) {m : AgentBondManager.Msg}
    (h : bondCall D sender (.manager m) w = .ok (u, w')) (hne : coverageEvents p t w w' ≠ []) :
    (w.manager.tasks t).status.isTerminal = false := by
  rcases taskMove_of_call hsender hw h with ⟨s, hs⟩ | ⟨t', hstep, -, hmove⟩
  · exact absurd (coverageEvents_of_pool (by rw [hs])) hne
  · by_cases ht : t = t'
    · subst ht
      exact hstep.step.not_terminal (hw t)
    · obtain ⟨new, hlogs, hnew⟩ := hmove.logs p
      exact absurd (coverageEvents_of_ne ht hlogs hnew) hne

/-- **Recourse is paid once**: in every run, what the manager makes the pools pay for a task is at
most its coverage, and if the token moves exact amounts the calls about the task lower the balance
of a pool by at most these claims.  A claim is paid by a call that ends the task as slashed, nothing
happens for a task that has no pool, an accepted covered task that has ended had exactly one claim or
release, and a task that was cancelled had neither.  If the manager is the only allocator, the log of
a pool has nothing else about the coverage of the task. -/
theorem recourse_once (h₀ : w₀.Deployed D) (hrun : BondRun D ok w₀ l w) (t : Bytes32) :
    (∀ p, claimsPaid (recourseCalls p t w l) ≤
      if (w.manager.tasks t).recoursePool = p then (w.manager.tasks t).recourseCoverage else 0) ∧
    (ExactTransfers τ → ∀ p, D.isPool p = true →
      (l.map (BondEntry.poolFall D p t)).sum ≤ claimsPaid (recourseCalls p t w l)) ∧
    (∀ sender m before l', l = ⟨sender, .manager m, before⟩ :: l' →
      ∀ p, paysClaim (coverageEvents p t before w) = true ∨ ExactTransfers τ ∧ D.isPool p = true ∧
          BondEntry.poolFall D p t ⟨sender, .manager m, before⟩ ≠ 0 →
        (before.manager.tasks t).status.isTerminal = false ∧
          (w.manager.tasks t).status = .slashed) ∧
    ((w.manager.tasks t).recoursePool = 0 → ∀ p, recourseCalls p t w l = []) ∧
    ((w.manager.tasks t).Covered → Called (.acceptTask t) l →
      (w.manager.tasks t).status.isTerminal = true →
        (recourseCalls (w.manager.tasks t).recoursePool t w l).countP paysClaim +
          (recourseCalls (w.manager.tasks t).recoursePool t w l).countP releasesOnly = 1 ∧
        ∀ p, p ≠ (w.manager.tasks t).recoursePool → recourseCalls p t w l = []) ∧
    (Called (.cancelOpenTask t) l → ∀ p, recourseCalls p t w l = []) ∧
    (BondRun D (PoolsWired D) w₀ l w → ∀ p, D.isPool p = true →
      ((w.pools p).coverageLog t).map Prod.snd = (recourseCalls p t w l).flatten) := by
  have hhistory := fun p => hrun.recourseHistory h₀ p t
  refine ⟨fun p => (hhistory p).claimsPaid_le, fun hτ p hp => hrun.poolFall_le hτ h₀ hp, ?_,
    fun hpool p => ?_, fun hc haccepted hended => ?_, fun hcancel p => ?_,
    fun hwired p hp => hwired.coverageLog_eq h₀ hp t⟩
  · rintro sender m before l' rfl p hclaim
    obtain ⟨hbefore, hsender, -, w', h, hw⟩ := hrun.newest
    have hevents : coverageEvents p t before w' = coverageEvents p t before w := by
      rw [hw]
      rfl
    have hpays : paysClaim (coverageEvents p t before w) = true := by
      rcases hclaim with hpays | ⟨hτ, hp, hfall⟩
      · exact hpays
      · have hle := poolFall_le (t := t) hτ hp hsender (hbefore.recorded h₀) h
        rw [hevents] at hle
        exact paysClaim_of_paidBy fun hzero => hfall (Nat.le_zero.mp (hle.trans hzero.le))
    have hne : coverageEvents p t before w ≠ [] := fun h => by
      rw [h] at hpays
      cases hpays
    refine ⟨not_terminal_of_events hsender (hbefore.recorded h₀) h (by rw [hevents]; exact hne),
      (hhistory p).slashed ⟨_, ?_, hpays⟩⟩
    rw [recourseCalls_of_ne rfl hne]
    exact List.mem_cons_self
  · exact (hhistory p).eq_nil fun h => h.2.1.1 hpool
  · have hagent := (hrun.accepted_iff h₀ t).mp haccepted
    exact ⟨(hhistory _).ended ⟨hagent, hc, rfl⟩ hended,
      fun p hp => (hhistory p).eq_nil fun h => hp h.2.2.symm⟩
  · exact (hhistory p).eq_nil fun h => h.1 (hrun.not_accepted_of_cancelled h₀ hcancel).1

end runs

/-- A covered task is reported as failed, confirmed and settled. -/
def sampleClaimed : List BondInput :=
  sampleCovered ++
    [.call 2 (.manager (.commitEvidence 100 1 1 2000)),
      .call 3 (.manager (.submitVerifierReport 100 1 .invalid 7)),
      .call 8 (.manager (.confirmVerifierReport 100 .invalid 7)), .wait 200,
      .call 9 (.manager (.settleTask 100))]

/-- The pool pays 500 once. -/
theorem recourse_once_sample :
    ∃ l w, follow sampleDeployment sampleClaimed ([], sampleWorld) = some (l, w) ∧
      claimsPaid (recourseCalls 30 100 w l) = 500 ∧
      (l.map (BondEntry.poolFall sampleDeployment 30 100)).sum = 500 ∧
      (l.map (BondEntry.poolFall sampleDeployment 30 100)).sum ≤
        claimsPaid (recourseCalls 30 100 w l) ∧
      (recourseCalls 30 100 w l).countP paysClaim +
        (recourseCalls 30 100 w l).countP releasesOnly = 1 := by
  have hfacts : (follow sampleDeployment sampleClaimed ([], sampleWorld)).map
      (fun s => (claimsPaid (recourseCalls 30 100 s.2 s.1),
        (s.1.map (BondEntry.poolFall sampleDeployment 30 100)).sum, (s.2.manager.tasks 100).agent,
        (s.2.manager.tasks 100).recoursePool, (s.2.manager.tasks 100).recourseCoverage,
        (s.2.manager.tasks 100).status)) = some (500, 500, 2, 30, 500, .slashed) := by rfl
  obtain ⟨⟨l, w⟩, hw, htask⟩ := Option.map_eq_some_iff.mp hfacts
  simp only [Prod.mk.injEq] at htask
  obtain ⟨hpaid, hfall, hagent, hpool, hcoverage, hstatus⟩ := htask
  have hrun : BondRun sampleDeployment (PoolsWired sampleDeployment) sampleWorld l w :=
    BondRun.start.follow (by decide)
      (by simp [calls, sampleClaimed, sampleCovered, sampleSetup, samplePoolSetup, PoolsWired,
        sampleDeployment]) hw
  obtain ⟨-, hfalls, -, -, hended, -, -⟩ := recourse_once deployed_sampleWorld hrun 100
  have haccepted : Called (.acceptTask 100) l :=
    (hrun.accepted_iff deployed_sampleWorld 100).mpr (by rw [hagent]; decide)
  have hcovered : (w.manager.tasks 100).Covered := by
    unfold Task.Covered
    rw [hpool, hcoverage]
    decide
  have hone := (hended hcovered haccepted (by rw [hstatus]; rfl)).1
  rw [hpool] at hone
  exact ⟨l, w, hw, hpaid, hfall, hfalls TestToken.exactTransfers 30 rfl, hone⟩

end FlowMemory.AgentBonds
