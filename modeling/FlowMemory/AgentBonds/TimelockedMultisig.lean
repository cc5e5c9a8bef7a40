import Mathlib.Data.Set.Function
import FlowMemory.AgentBonds.Basic
import FlowMemory.Lib.Reentrancy

/-! # The timelocked multisig

An operation is **queued** by an owner, **approved** by owners, and executed once enough owners have
approved it and its delay has passed, unless it was **canceled**.  The execution calls the target in
the middle of the call, and the target may call the contract again.

The log has an entry for each of these, with the sender and the time of the call, the newest first.
The hash functions are parameters: `keccak` of the data of an operation, and the identifier of an
operation, in which the chain and the address of the contract are fixed. -/

namespace FlowMemory.AgentBonds

open Call Function

structure Operation where
  target : Address
  value : Uint256
  dataHash : Bytes32
  (readyAt approvalCount : ℕ)
  (executed canceled : Bool)

/-- The record of an identifier that was never queued. -/
def Operation.empty : Operation := ⟨0, 0, 0, 0, 0, false, false⟩

inductive MultisigEvent where
  | queued (operationId : Bytes32) (target : Address) (value : Uint256) (data : List UInt8)
  | approved (operationId : Bytes32)
  | canceled (operationId : Bytes32)
  | executed (operationId : Bytes32) (target : Address) (value : Uint256) (data : List UInt8)

structure AgentBondTimelockedMultisig where
  owners : List Address
  isOwner : Address → Bool
  (threshold minDelay : ℕ)
  operations : Bytes32 → Operation
  approvedBy : Bytes32 → Address → Bool
  entered : Bool
  logs : List (Env × MultisigEvent)

inductive MultisigError where
  | notOwner (caller : Address)
  | invalidOwner
  | duplicateOwner (owner : Address)
  | invalidThreshold (threshold ownerCount : ℕ)
  | zeroDelay
  | zeroTarget
  | reentrantCall
  | operationExists (operationId : Bytes32)
  | operationNotFound (operationId : Bytes32)
  | operationAlreadyApproved (operationId : Bytes32) (owner : Address)
  | operationNotReady (operationId : Bytes32) (readyAt currentTime : ℕ)
  | insufficientApprovals (operationId : Bytes32) (approvals threshold : ℕ)
  | operationAlreadyFinalized (operationId : Bytes32)
  | operationAlreadyCanceled (operationId : Bytes32)
  | hashMismatch (expected actual : Bytes32)
  | executionFailed
  | panic

structure MultisigHashes where
  keccak : List UInt8 → Bytes32
  operationId : (target : Address) → (value : Uint256) → (dataHash salt : Bytes32) → Bytes32

namespace AgentBondTimelockedMultisig

abbrev MultisigAction : Type → Type := Call AgentBondTimelockedMultisig MultisigError

/-! ### The constructor -/

def blank : AgentBondTimelockedMultisig where
  owners := []
  isOwner _ := false
  threshold := 0
  minDelay := 0
  operations _ := .empty
  approvedBy _ _ := false
  entered := false
  logs := []

def addOwner (owner : Address) : MultisigAction Unit := do
  revertIf (owner = 0) .invalidOwner
  let s ← get
  revertIf (s.isOwner owner = true) (.duplicateOwner owner)
  modify fun s => { s with
    isOwner := update s.isOwner owner true, owners := s.owners ++ [owner] }

def addOwners : List Address → MultisigAction Unit
  | [] => pure ()
  | owner :: rest => do
      addOwner owner
      addOwners rest

def construct (owners : List Address) (threshold : Uint256) (minDelay : UInt64) :
    MultisigAction Unit := do
  revertIf (owners.length = 0) .invalidOwner
  revertIf (threshold = 0 ∨ threshold.val > owners.length)
    (.invalidThreshold threshold owners.length)
  revertIf (minDelay = 0) .zeroDelay
  addOwners owners
  modify fun s => { s with threshold, minDelay := minDelay.toNat }

/-! ### Calls -/

variable (H : MultisigHashes) (env : Env)

def onlyOwner : MultisigAction Unit := do
  let s ← get
  revertIf (s.isOwner env.sender = false) (.notOwner env.sender)

def blockTimestamp : MultisigAction ℕ := do
  revertIf (env.timestamp > 2 ^ 64 - 1) (.operationNotReady 0 (2 ^ 64 - 1) (2 ^ 64 - 1))
  pure env.timestamp

def requireOperation (operationId : Bytes32) : MultisigAction Operation := do
  let s ← get
  revertIf ((s.operations operationId).readyAt = 0) (.operationNotFound operationId)
  pure (s.operations operationId)

/-- The operation was neither executed nor canceled. -/
def requireLive (operationId : Bytes32) : MultisigAction Operation := do
  let operation ← requireOperation operationId
  revertIf (operation.executed = true) (.operationAlreadyFinalized operationId)
  revertIf (operation.canceled = true) (.operationAlreadyCanceled operationId)
  pure operation

/-- Write the record of an operation and the log. -/
def record (s : AgentBondTimelockedMultisig) (operationId : Bytes32) (operation : Operation)
    (event : MultisigEvent) : AgentBondTimelockedMultisig :=
  { s with
    operations := update s.operations operationId operation
    logs := (env, event) :: s.logs }

def queueOperation (target : Address) (value : Uint256) (data : List UInt8) (salt : Bytes32) :
    MultisigAction Unit := do
  onlyOwner env
  revertIf (target = 0) .zeroTarget
  let dataHash := H.keccak data
  let operationId := H.operationId target value dataHash salt
  let s ← get
  revertIf ((s.operations operationId).readyAt ≠ 0) (.operationExists operationId)
  let now ← blockTimestamp env
  let readyAt ← okOr (addChecked 64 now s.minDelay) .panic
  modify fun s => s.record env operationId ⟨target, value, dataHash, readyAt, 0, false, false⟩
    (.queued operationId target value data)

def approveOperation (operationId : Bytes32) : MultisigAction Unit := do
  onlyOwner env
  let operation ← requireLive operationId
  let s ← get
  revertIf (s.approvedBy operationId env.sender = true)
    (.operationAlreadyApproved operationId env.sender)
  let approvalCount ← okOr (addChecked 32 operation.approvalCount 1) .panic
  modify fun s => { s.record env operationId { operation with approvalCount }
      (.approved operationId) with
    approvedBy := update s.approvedBy operationId
      (update (s.approvedBy operationId) env.sender true) }

def cancelOperation (operationId : Bytes32) : MultisigAction Unit := do
  onlyOwner env
  let operation ← requireLive operationId
  modify fun s => s.record env operationId { operation with canceled := true }
    (.canceled operationId)

/-- The execution up to the call of the target. -/
def beginExecution (operationId : Bytes32) (target : Address) (value : Uint256)
    (data : List UInt8) : MultisigAction Unit := do
  onlyOwner env
  let s ← get
  revertIf (s.entered = true) .reentrantCall
  modify fun s => { s with entered := true }
  let operation ← requireLive operationId
  revertIf (operation.approvalCount < s.threshold)
    (.insufficientApprovals operationId operation.approvalCount s.threshold)
  let now ← blockTimestamp env
  revertIf (now < operation.readyAt) (.operationNotReady operationId operation.readyAt now)
  revertIf (target ≠ operation.target)
    (.hashMismatch (Fin.ofNat _ operation.target) (Fin.ofNat _ target))
  revertIf (value ≠ operation.value) (.hashMismatch operation.value value)
  revertIf (H.keccak data ≠ operation.dataHash) (.hashMismatch operation.dataHash (H.keccak data))
  modify fun s => s.record env operationId { operation with executed := true }
    (.executed operationId target value data)

/-- The execution after the target has returned. -/
def endExecution (success : Bool) : MultisigAction Unit := do
  revertIf (success = false) .executionFailed
  modify fun s => { s with entered := false }

/-- The calls of the contract, as messages. -/
inductive Msg where
  | queueOperation (target : Address) (value : Uint256) (data : List UInt8) (salt : Bytes32)
  | approveOperation (operationId : Bytes32)
  | cancelOperation (operationId : Bytes32)
  | executeOperation (operationId : Bytes32) (target : Address) (value : Uint256)
      (data : List UInt8)

def routine : Env × Msg → Routine AgentBondTimelockedMultisig MultisigError Unit Bool
  | (env, .queueOperation target value data salt) =>
    .plain (queueOperation H env target value data salt)
  | (env, .approveOperation operationId) => .plain (approveOperation env operationId)
  | (env, .cancelOperation operationId) => .plain (cancelOperation env operationId)
  | (env, .executeOperation operationId target value data) =>
    .calling (beginExecution H env operationId target value data) fun _ => endExecution

/-! ### What a returning call did -/

section accepted

variable {H} {s s' : AgentBondTimelockedMultisig} {operationId : Bytes32}

attribute [simp] onlyOwner blockTimestamp endExecution

/-- The operation can be approved, canceled or executed. -/
def Operation.Live (operation : Operation) : Prop :=
  operation.readyAt ≠ 0 ∧ operation.executed = false ∧ operation.canceled = false

@[simp] theorem requireLive_ok {operation : Operation} :
    requireLive operationId s = .ok (operation, s') ↔
      operation = s.operations operationId ∧ Operation.Live operation ∧ s' = s := by
  simp [requireLive, requireOperation, Operation.Live, and_assoc]
  grind

/-- What the calls can do to the operations and the log. -/
inductive Effect (H : MultisigHashes) (s : AgentBondTimelockedMultisig) :
    AgentBondTimelockedMultisig → Prop
  | queued {env : Env} {id : Bytes32} {target : Address} {value : Uint256} {data : List UInt8}
      (hzero : (s.operations id).readyAt = 0) :
      Effect H s (s.record env id
        ⟨target, value, H.keccak data, env.timestamp + s.minDelay, 0, false, false⟩
        (.queued id target value data))
  | approved {env : Env} {id : Bytes32} (howner : s.isOwner env.sender = true)
      (hlive : Operation.Live (s.operations id)) (hnew : s.approvedBy id env.sender = false) :
      Effect H s { s.record env id { s.operations id with
          approvalCount := (s.operations id).approvalCount + 1 } (.approved id) with
        approvedBy := update s.approvedBy id (update (s.approvedBy id) env.sender true) }
  | canceled {env : Env} {id : Bytes32} (hlive : Operation.Live (s.operations id)) :
      Effect H s (s.record env id { s.operations id with canceled := true } (.canceled id))
  | executed {env : Env} {id : Bytes32} {data : List UInt8} (hlive : Operation.Live (s.operations id))
      (hcount : s.threshold ≤ (s.operations id).approvalCount)
      (hready : (s.operations id).readyAt ≤ env.timestamp)
      (hdata : H.keccak data = (s.operations id).dataHash) :
      Effect H s ({ s with entered := true }.record env id
        { s.operations id with executed := true }
        (.executed id (s.operations id).target (s.operations id).value data))
  | ended : Effect H s { s with entered := false }

theorem effect_of_stretch (h : Stretch (routine H) s s') : Effect H s s' := by
  cases h with
  | @plain i m s s' hi h =>
    obtain ⟨env, msg⟩ := i
    cases msg with
    | queueOperation target value data salt =>
      cases hi
      simp [queueOperation, and_assoc] at h
      obtain ⟨-, -, hzero, -, -, rfl⟩ := h
      exact .queued hzero
    | approveOperation id =>
      cases hi
      simp [approveOperation, and_assoc] at h
      obtain ⟨howner, hlive, hnew, -, rfl⟩ := h
      exact .approved howner hlive hnew
    | cancelOperation id =>
      cases hi
      simp [cancelOperation] at h
      obtain ⟨-, hlive, rfl⟩ := h
      exact .canceled hlive
    | executeOperation id target value data => cases hi
  | @before i before after s s' a hi h =>
    obtain ⟨env, msg⟩ := i
    cases msg with
    | executeOperation id target value data =>
      cases hi
      simp [beginExecution, and_assoc] at h
      obtain ⟨-, -, hlive, hcount, -, hready, rfl, rfl, hdata, rfl⟩ := h
      exact .executed hlive hcount hready hdata
    | _ => cases hi
  | @after i before after s₀ s₁ s s' a b hi hbefore h =>
    obtain ⟨env, msg⟩ := i
    cases msg with
    | executeOperation id target value data =>
      cases hi
      obtain rfl := modify_ok.mp (revertIf_bind_ok.mp h).2
      exact .ended
    | _ => cases hi

end accepted

/-! ### What the log says of an operation -/

section traces

abbrev Entry : Type := Env × MultisigEvent

def queues (operationId : Bytes32) : Entry → Bool
  | (_, .queued id _ _ _) => decide (id = operationId)
  | _ => false

def cancels (operationId : Bytes32) : Entry → Bool
  | (_, .canceled id) => decide (id = operationId)
  | _ => false

def executes (operationId : Bytes32) : Entry → Bool
  | (_, .executed id _ _ _) => decide (id = operationId)
  | _ => false

/-- These are owners who have approved the operation. -/
def ApprovedBy (s : AgentBondTimelockedMultisig) (operationId : Bytes32) (logs : List Entry)
    (approvers : List Address) : Prop :=
  approvers.Nodup ∧ ∀ a ∈ approvers, s.isOwner a = true ∧
    ∃ env : Env, env.sender = a ∧ (env, MultisigEvent.approved operationId) ∈ logs

/-- What the log had when the operation was executed. -/
structure Authorized (H : MultisigHashes) (s : AgentBondTimelockedMultisig) (operationId : Bytes32)
    (env : Env) (target : Address) (value : Uint256) (data : List UInt8) (older : List Entry) :
    Prop where
  once : ∀ e ∈ older, executes operationId e = false
  uncanceled : ∀ e ∈ older, cancels operationId e = false
  queued : ∃ env' data', older.filter (queues operationId) =
      [(env', .queued operationId target value data')] ∧
    env'.timestamp + s.minDelay ≤ env.timestamp ∧ H.keccak data = H.keccak data'
  approved : ∃ approvers, ApprovedBy s operationId older approvers ∧
    s.threshold ≤ approvers.length

/-- The record of an operation and the log belong together. -/
structure Tracked (H : MultisigHashes) (s : AgentBondTimelockedMultisig) (operationId : Bytes32) :
    Prop where
  unknown : (s.operations operationId).readyAt = 0 → ∀ e ∈ s.logs,
    queues operationId e = false ∧ cancels operationId e = false ∧ executes operationId e = false
  queued : (s.operations operationId).readyAt ≠ 0 → ∃ env data,
    s.logs.filter (queues operationId) = [(env, .queued operationId
      (s.operations operationId).target (s.operations operationId).value data)] ∧
    (s.operations operationId).readyAt = env.timestamp + s.minDelay ∧
    (s.operations operationId).dataHash = H.keccak data
  approved : ∃ approvers, ApprovedBy s operationId s.logs approvers ∧
    approvers.length = (s.operations operationId).approvalCount ∧
    ∀ a ∈ approvers, s.approvedBy operationId a = true
  unexecuted : (s.operations operationId).executed = false →
    ∀ e ∈ s.logs, executes operationId e = false
  uncanceled : (s.operations operationId).canceled = false →
    ∀ e ∈ s.logs, cancels operationId e = false
  authorized : ∀ newer env target value data older,
    s.logs = newer ++ (env, .executed operationId target value data) :: older →
      Authorized H s operationId env target value data older

variable {H : MultisigHashes} {s s' : AgentBondTimelockedMultisig} {operationId : Bytes32}
  {e : Entry} {target : Address} {value : Uint256} {data : List UInt8}

/-- The settings of the constructor. -/
def SameOwners (s s' : AgentBondTimelockedMultisig) : Prop :=
  s'.isOwner = s.isOwner ∧ s'.threshold = s.threshold ∧ s'.minDelay = s.minDelay

theorem ApprovedBy.cons {logs : List Entry} {approvers : List Address}
    (h : ApprovedBy s operationId logs approvers) (howner : s'.isOwner = s.isOwner) :
    ApprovedBy s' operationId (e :: logs) approvers := by
  refine ⟨h.1, fun a ha => ?_⟩
  obtain ⟨hisOwner, env, hsender, hmem⟩ := h.2 a ha
  exact ⟨by rw [howner]; exact hisOwner, env, hsender, List.mem_cons_of_mem e hmem⟩

theorem Authorized.congr {env : Env}
    {older : List Entry} (h : Authorized H s operationId env target value data older)
    (hsame : SameOwners s s') : Authorized H s' operationId env target value data older := by
  obtain ⟨howner, hthreshold, hdelay⟩ := hsame
  refine ⟨h.once, h.uncanceled, by rw [hdelay]; exact h.queued, ?_⟩
  rw [hthreshold]
  obtain ⟨approvers, happroved, hle⟩ := h.approved
  exact ⟨approvers, ⟨happroved.1, by rw [howner]; exact happroved.2⟩, hle⟩

/-- The executions in a log with one more entry. -/
theorem Tracked.authorized_cons (h : Tracked H s operationId) (hsame : SameOwners s s')
    (hlogs : s'.logs = e :: s.logs)
    (hnew : ∀ env target value data, e = (env, .executed operationId target value data) →
      Authorized H s operationId env target value data s.logs) :
    ∀ newer env target value data older,
      s'.logs = newer ++ (env, .executed operationId target value data) :: older →
        Authorized H s' operationId env target value data older := by
  intro newer env target value data older hsplit
  rw [hlogs] at hsplit
  cases newer with
  | nil =>
    obtain ⟨he, rfl⟩ := List.cons.inj hsplit
    exact (hnew env target value data he).congr hsame
  | cons e' newer =>
    obtain ⟨-, htail⟩ := List.cons.inj hsplit
    exact (h.authorized newer env target value data older htail).congr hsame

/-- An entry that does not queue the operation. -/
theorem Tracked.recorded (h : Tracked H s operationId) (hsame : SameOwners s s')
    {count : ℕ} {executed canceled : Bool}
    (hoperation : s'.operations operationId = { s.operations operationId with
      approvalCount := count, executed, canceled })
    (hlogs : s'.logs = e :: s.logs) (hqueues : queues operationId e = false)
    (happroved : ∃ approvers, ApprovedBy s' operationId s'.logs approvers ∧
      approvers.length = count ∧ ∀ a ∈ approvers, s'.approvedBy operationId a = true)
    (hcanceled : (s.operations operationId).readyAt = 0 ∨ canceled = false →
      (s.operations operationId).canceled = canceled ∧ cancels operationId e = false)
    (hexecuted : (s.operations operationId).readyAt = 0 ∨ executed = false →
      (s.operations operationId).executed = executed ∧ executes operationId e = false)
    (hnew : ∀ env target value data, e = (env, .executed operationId target value data) →
      Authorized H s operationId env target value data s.logs) : Tracked H s' operationId := by
  refine ⟨?_, ?_, ?_, ?_, ?_, h.authorized_cons hsame hlogs hnew⟩ <;> rw [hoperation] <;> dsimp only
  · rw [hlogs]
    exact fun hzero => List.forall_mem_cons.mpr
      ⟨⟨hqueues, (hcanceled (.inl hzero)).2, (hexecuted (.inl hzero)).2⟩, h.unknown hzero⟩
  · rw [hlogs, List.filter_cons_of_neg (by rw [hqueues]; exact Bool.false_ne_true), hsame.2.2]
    exact h.queued
  · exact happroved
  · intro hnot
    obtain ⟨hold, he⟩ := hexecuted (.inr hnot)
    exact hlogs ▸ List.forall_mem_cons.mpr ⟨he, h.unexecuted (hold.trans hnot)⟩
  · intro hnot
    obtain ⟨hold, he⟩ := hcanceled (.inr hnot)
    exact hlogs ▸ List.forall_mem_cons.mpr ⟨he, h.uncanceled (hold.trans hnot)⟩

/-- The approvals of an operation that is not approved. -/
theorem Tracked.approved_cons (h : Tracked H s operationId) (hsame : SameOwners s s')
    (hlogs : s'.logs = e :: s.logs)
    (happroved : s'.approvedBy operationId = s.approvedBy operationId) :
    ∃ approvers, ApprovedBy s' operationId s'.logs approvers ∧
      approvers.length = (s.operations operationId).approvalCount ∧
      ∀ a ∈ approvers, s'.approvedBy operationId a = true := by
  obtain ⟨approvers, hby, hlength, hall⟩ := h.approved
  exact ⟨approvers, hlogs ▸ hby.cons hsame.1, hlength, happroved ▸ hall⟩

/-- An entry about another operation. -/
theorem Tracked.other (h : Tracked H s operationId) (hsame : SameOwners s s')
    (hoperation : s'.operations operationId = s.operations operationId)
    (happroved : s'.approvedBy operationId = s.approvedBy operationId)
    (hlogs : s'.logs = e :: s.logs) (hqueues : queues operationId e = false)
    (hcancels : cancels operationId e = false) (hexecutes : executes operationId e = false) :
    Tracked H s' operationId := by
  refine h.recorded hsame hoperation hlogs hqueues (h.approved_cons hsame hlogs happroved)
    (fun _ => ⟨rfl, hcancels⟩) (fun _ => ⟨rfl, hexecutes⟩) ?_
  rintro env target value data rfl
  simp [executes] at hexecutes

/-! ### Calls keep the record and the log together -/

/-- A call that ends keeps the log. -/
theorem Tracked.of_entered (h : Tracked H s operationId) {b : Bool} :
    Tracked H { s with entered := b } operationId := by
  refine ⟨h.unknown, h.queued, h.approved, h.unexecuted, h.uncanceled, ?_⟩
  intro newer env target value data older hlogs
  exact (h.authorized newer env target value data older hlogs).congr ⟨rfl, rfl, rfl⟩

/-- Every call keeps the settings. -/
theorem Effect.sameOwners (h : Effect H s s') : SameOwners s s' := by
  cases h <;> exact ⟨rfl, rfl, rfl⟩

theorem Effect.tracked (heffect : Effect H s s') (hdelay : s.minDelay ≠ 0)
    (h : ∀ id, Tracked H s id) (id : Bytes32) : Tracked H s' id := by
  have hsame := heffect.sameOwners
  cases heffect with
  | @queued env id' target value data hzero =>
    by_cases hid : id = id'
    · subst hid
      have hnone := (h id).unknown hzero
      have hfilter : s.logs.filter (queues id) = [] :=
        List.filter_eq_nil_iff.mpr fun e he => by rw [(hnone e he).1]; exact Bool.false_ne_true
      refine ⟨fun hready => ?_, fun _ => ⟨env, data, ?_, ?_, ?_⟩,
        ⟨[], ⟨List.nodup_nil, nofun⟩, ?_, nofun⟩, fun _ => ?_, fun _ => ?_,
        (h id).authorized_cons hsame rfl nofun⟩ <;> simp only [record, update_self] at *
      · omega
      · rw [List.filter_cons_of_pos (by simp [queues]), hfilter]
      · rfl
      · exact List.forall_mem_cons.mpr ⟨rfl, fun e he => (hnone e he).2.2⟩
      · exact List.forall_mem_cons.mpr ⟨rfl, fun e he => (hnone e he).2.1⟩
    · refine (h id).other hsame (update_of_ne hid ..) rfl rfl ?_ rfl rfl
      exact decide_eq_false (Ne.symm hid)
  | @approved env id' howner hlive hnew =>
    by_cases hid : id = id'
    · subst hid
      obtain ⟨approvers, hby, hlength, hall⟩ := (h id).approved
      have hnot : env.sender ∉ approvers := fun hmem => by
        rw [hall _ hmem] at hnew
        cases hnew
      refine (h id).recorded hsame (update_self ..) rfl rfl ⟨env.sender :: approvers,
        ⟨List.nodup_cons.mpr ⟨hnot, hby.1⟩, ?_⟩, congrArg (· + 1) hlength, ?_⟩
        (fun _ => ⟨rfl, rfl⟩) (fun _ => ⟨rfl, rfl⟩) nofun
      · exact List.forall_mem_cons.mpr ⟨⟨howner, env, rfl, List.mem_cons_self⟩, (hby.cons rfl).2⟩
      · simp only [update_self]
        refine List.forall_mem_cons.mpr ⟨update_self .., fun a ha => ?_⟩
        rw [update_of_ne (by rintro rfl; exact hnot ha)]
        exact hall a ha
    · exact (h id).other hsame (update_of_ne hid ..) (update_of_ne hid ..) rfl rfl rfl rfl
  | @canceled env id' hlive =>
    by_cases hid : id = id'
    · subst hid
      exact (h id).recorded hsame (update_self ..) rfl rfl ((h id).approved_cons hsame rfl rfl)
        (fun hor => absurd hor (by simp [hlive.1])) (fun _ => ⟨rfl, rfl⟩) nofun
    · refine (h id).other hsame (update_of_ne hid ..) rfl rfl rfl ?_ rfl
      exact decide_eq_false (Ne.symm hid)
  | @executed env id' data hlive hcount hready hdata =>
    by_cases hid : id = id'
    · subst hid
      -- the execution finds in the log what it needs
      refine (h id).recorded hsame (update_self ..) rfl rfl ((h id).approved_cons hsame rfl rfl)
        (fun _ => ⟨rfl, rfl⟩) (fun hor => absurd hor (by simp [hlive.1])) ?_
      rintro _ _ _ _ ⟨⟩
      obtain ⟨approvers, hby, hlength, -⟩ := (h id).approved
      obtain ⟨env', data', hfilter, hat, hhash⟩ := (h id).queued hlive.1
      exact ⟨(h id).unexecuted hlive.2.1, (h id).uncanceled hlive.2.2,
        ⟨env', data', hfilter, hat ▸ hready, hdata.trans hhash⟩, approvers, hby, hlength ▸ hcount⟩
    · refine (h id).other hsame (update_of_ne hid ..) rfl rfl rfl rfl ?_
      exact decide_eq_false (Ne.symm hid)
  | ended => exact (h id).of_entered

end traces

/-! ### Runs -/

section runs

variable {H : MultisigHashes} {s₀ s s' : AgentBondTimelockedMultisig} {id : Bytes32}
  {owners : List Address}

/-- What is true whenever control changes hands. -/
def Consistent (H : MultisigHashes) (s : AgentBondTimelockedMultisig) : Prop :=
  s.minDelay ≠ 0 ∧ ∀ id, Tracked H s id

/-- An operation is queued once. -/
theorem Tracked.queues_eq (h : Tracked H s id) {e : Entry} (he : e ∈ s.logs)
    (hqueues : queues id e = true) : s.logs.filter (queues id) = [e] := by
  by_cases hready : (s.operations id).readyAt = 0
  · rw [(h.unknown hready e he).1] at hqueues
    cases hqueues
  · obtain ⟨env, data, hfilter, -⟩ := h.queued hready
    have hmem : e ∈ s.logs.filter (queues id) := List.mem_filter.mpr ⟨he, hqueues⟩
    rw [hfilter] at hmem ⊢
    rw [List.mem_singleton.mp hmem]

/-- No operation is executed after its execution. -/
theorem Tracked.not_executed_again (h : Tracked H s id) {newer older : List Entry}
    {env : Env} {target : Address} {value : Uint256} {data : List UInt8}
    (hlogs : s.logs = newer ++ (env, .executed id target value data) :: older) {e : Entry}
    (he : e ∈ newer) : executes id e = false := by
  by_contra hexecutes
  obtain ⟨first, second, rfl⟩ := List.append_of_mem he
  obtain ⟨env', event⟩ := e
  cases event with
  | executed id' target' value' data' =>
    obtain rfl : id' = id := by simpa [executes] using hexecutes
    rw [List.append_assoc] at hlogs
    have honce := (h.authorized _ _ _ _ _ _ hlogs).once
    have := honce (env, .executed id' target value data) (by simp)
    simp [executes] at this
  | _ => simp [executes] at hexecutes

theorem consistent_of_stretch (hstretch : Stretch (routine H) s s') (h : Consistent H s) :
    Consistent H s' := by
  have heffect := effect_of_stretch hstretch
  exact ⟨heffect.sameOwners.2.2 ▸ h.1, heffect.tracked h.1 h.2⟩

/-! The constructor -/

theorem addOwners_ok {u : Unit} (h : addOwners owners s = .ok (u, s')) :
    (∀ a, s'.isOwner a = true ↔ s.isOwner a = true ∨ a ∈ owners) ∧
      s'.operations = s.operations ∧ s'.approvedBy = s.approvedBy ∧ s'.logs = s.logs := by
  induction owners generalizing s with
  | nil =>
    obtain ⟨-, rfl⟩ := pure_ok.mp h
    simp
  | cons owner rest ih =>
    obtain ⟨u₁, s₁, hadd, hrest⟩ := bind_ok.mp h
    simp [addOwner] at hadd
    obtain ⟨-, -, rfl⟩ := hadd
    obtain ⟨howner, hoperations, happroved, hlogs⟩ := ih hrest
    refine ⟨fun a => ?_, hoperations, happroved, hlogs⟩
    rw [howner a, List.mem_cons]
    by_cases ha : a = owner
    · simp [ha]
    · simp [ha]

theorem construct_ok {threshold : Uint256} {minDelay : UInt64}
    (h : construct owners threshold minDelay blank = .ok ((), s)) :
    s.threshold = threshold ∧ s.minDelay = minDelay.toNat ∧
      (∀ a, s.isOwner a = true ↔ a ∈ owners) ∧ Consistent H s := by
  simp [construct, and_assoc] at h
  obtain ⟨-, -, -, hdelay, u, s₁, howners, rfl⟩ := h
  obtain ⟨howner, hoperations, happroved, hlogs⟩ := addOwners_ok howners
  refine ⟨rfl, rfl, fun a => by simpa [blank] using howner a, ?_, fun id => ?_⟩
  · exact fun hzero => hdelay (UInt64.toNat_inj.mp hzero)
  · refine ⟨?_, ?_, ⟨[], ⟨List.nodup_nil, by simp⟩, ?_, by simp⟩, ?_, ?_, ?_⟩ <;>
      simp [hoperations, hlogs, blank, Operation.empty]

/-- **Executions are authorized**: in every sequence of calls, with any calls made by the targets in
between, an operation that was executed was executed once, had not been canceled, had been queued
once with this target, this value and data of this hash at least the delay before, and had been
approved by at least the threshold of distinct owners. -/
theorem executions_authorized {owners : List Address} {threshold : Uint256} {minDelay : UInt64}
    (hconstruct : construct owners threshold minDelay blank = .ok ((), s₀))
    (hrun : Reenters (routine H) s₀ s) {newer older : List Entry} {env : Env} {id : Bytes32}
    {target : Address} {value : Uint256} {data : List UInt8}
    (hlogs : s.logs = newer ++ (env, .executed id target value data) :: older) :
    (∀ e ∈ newer ++ older, executes id e = false) ∧ (∀ e ∈ older, cancels id e = false) ∧
    (∃ env' data', s.logs.filter (queues id) = [(env', .queued id target value data')] ∧
      (env', .queued id target value data') ∈ older ∧
      env'.timestamp + minDelay.toNat ≤ env.timestamp ∧
      H.keccak data = H.keccak data' ∧ (Set.InjOn H.keccak {data, data'} → data = data')) ∧
    ∃ approvers : List Address, approvers.Nodup ∧ threshold.val ≤ approvers.length ∧
      ∀ a ∈ approvers, a ∈ owners ∧
        ∃ env' : Env, env'.sender = a ∧ (env', MultisigEvent.approved id) ∈ older := by
  obtain ⟨hthreshold, hdelay, howners, hconsistent⟩ := construct_ok (H := H) hconstruct
  obtain ⟨-, htracked⟩ := hrun.preserves consistent_of_stretch hconsistent
  obtain ⟨hisOwner, hthreshold', hdelay'⟩ : SameOwners s₀ s :=
    hrun.relates (fun _ => ⟨rfl, rfl, rfl⟩)
      (fun h₁ h₂ => ⟨h₂.1.trans h₁.1, h₂.2.1.trans h₁.2.1, h₂.2.2.trans h₁.2.2⟩)
      fun h => (effect_of_stretch h).sameOwners
  have hauthorized := (htracked id).authorized newer env target value data older hlogs
  obtain ⟨env', data', hfilter, hat, hhash⟩ := hauthorized.queued
  obtain ⟨approvers, hby, hle⟩ := hauthorized.approved
  have hmem : (env', MultisigEvent.queued id target value data') ∈ older :=
    List.mem_of_mem_filter (by rw [hfilter]; exact List.mem_singleton_self _)
  refine ⟨fun e he => ?_, hauthorized.uncanceled, ⟨env', data', ?_, hmem, ?_, hhash, fun hinj => ?_⟩,
    approvers, hby.1, ?_, fun a ha => ?_⟩
  · rcases List.mem_append.mp he with he | he
    · exact (htracked id).not_executed_again hlogs he
    · exact hauthorized.once e he
  · exact (htracked id).queues_eq (by rw [hlogs]; simp [hmem]) (by simp [queues])
  · rw [← hdelay, ← hdelay']
    exact hat
  · exact hinj (by simp) (by simp) hhash
  · rw [← hthreshold, ← hthreshold']
    exact hle
  · obtain ⟨howner, hsender⟩ := hby.2 a ha
    rw [hisOwner] at howner
    exact ⟨(howners a).mp howner, hsender⟩

/-! A small contract: two of the owners 1, 2 and 3 have to approve, and the delay is 10.  The operation
6 is canceled, and the target of the operation 7 queues the operation 8 while it is called. -/

def sampleHashes : MultisigHashes where
  keccak data := Fin.ofNat _ data.length
  operationId _ _ _ salt := salt

/-- The state after a call. -/
def after (m : MultisigAction Unit) (s : AgentBondTimelockedMultisig) :
    AgentBondTimelockedMultisig :=
  match m s with
  | .ok (_, s') => s'
  | .error _ => s

def sampleMultisig : AgentBondTimelockedMultisig := after (construct [1, 2, 3] 2 10) blank

def sampleCanceled : AgentBondTimelockedMultisig :=
  after (cancelOperation ⟨2, 1⟩ 6) (after (queueOperation sampleHashes ⟨3, 0⟩ 9 0 [4] 6)
    (after (queueOperation sampleHashes ⟨1, 0⟩ 9 0 [5] 7) sampleMultisig))

def sampleApproved : AgentBondTimelockedMultisig :=
  after (approveOperation ⟨2, 1⟩ 7) (after (approveOperation ⟨1, 1⟩ 7) sampleCanceled)

def sampleExecuting : AgentBondTimelockedMultisig :=
  after (queueOperation sampleHashes ⟨3, 12⟩ 9 0 [6] 8)
    (after (beginExecution sampleHashes ⟨3, 12⟩ 7 9 0 [5]) sampleApproved)

theorem executions_authorized_sample : ∃ s newer older,
    Reenters (routine sampleHashes) sampleMultisig s ∧
      s.logs = newer ++ (⟨3, 12⟩, .executed 7 9 0 [5]) :: older ∧ newer.length = 1 ∧
      (⟨2, 1⟩, .canceled 6) ∈ older ∧ (∀ e ∈ older, cancels 7 e = false) ∧
      ∃ approvers : List Address, approvers.Nodup ∧ 2 ≤ approvers.length ∧
        ∀ a ∈ approvers, a ∈ [1, 2, 3] := by
  have hcanceled : Reenters (routine sampleHashes) sampleMultisig sampleCanceled :=
    .step (i := (⟨2, 1⟩, .cancelOperation 6)) (.step (i := (⟨3, 0⟩, .queueOperation 9 0 [4] 6))
      (.step (i := (⟨1, 0⟩, .queueOperation 9 0 [5] 7)) (.refl _) (.plain rfl rfl))
      (.plain rfl rfl)) (.plain rfl rfl)
  have hqueued : Reenters (routine sampleHashes) sampleMultisig sampleApproved :=
    .step (i := (⟨2, 1⟩, .approveOperation 7)) (.step (i := (⟨1, 1⟩, .approveOperation 7))
      hcanceled (.plain rfl rfl)) (.plain rfl rfl)
  have hrun : Reenters (routine sampleHashes) sampleMultisig
      (after (endExecution true) sampleExecuting) :=
    .step (i := (⟨3, 12⟩, .executeOperation 7 9 0 [5])) hqueued
      (.calling (b := true) rfl rfl
        (.step (i := (⟨3, 12⟩, .queueOperation 9 0 [6] 8)) (.refl _) (.plain rfl rfl)) rfl)
  have hlogs : (after (endExecution true) sampleExecuting).logs =
      [(⟨3, 12⟩, .queued 8 9 0 [6])] ++ (⟨3, 12⟩, .executed 7 9 0 [5]) ::
        [(⟨2, 1⟩, .approved 7), (⟨1, 1⟩, .approved 7), (⟨2, 1⟩, .canceled 6),
          (⟨3, 0⟩, .queued 6 9 0 [4]), (⟨1, 0⟩, .queued 7 9 0 [5])] := rfl
  have hconstruct : construct [1, 2, 3] 2 10 blank = .ok ((), sampleMultisig) := rfl
  obtain ⟨-, huncanceled, -, approvers, hnodup, hle, hall⟩ :=
    executions_authorized hconstruct hrun hlogs
  exact ⟨_, _, _, hrun, hlogs, rfl, by simp, huncanceled, approvers, hnodup, hle,
    fun a ha => (hall a ha).1⟩

end runs

end AgentBondTimelockedMultisig

end FlowMemory.AgentBonds
