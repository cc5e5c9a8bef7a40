import Mathlib.Data.Finset.Card
import FlowMemory.AgentNetwork.SwarmConsent

/-! # The life of a swarm

After its creation a swarm lives in the swarm registry.  Registrars let members **join** it and fork
it; its **operators**, who are its creator, the owner of the registry and the registrars, remove
members, change roles and roots, and pause, dissolve or graduate it.

A dissolved or graduated swarm is **terminal**: no operator may touch it any more.  But `joinSwarm`
asks for the registrar only and not for the status, so `terminal_swarm_frozen_iff` says that a
terminal swarm stays as it is exactly if nobody joins it. -/

namespace FlowMemory.AgentNetwork

open Call AgentBonds Function

namespace SwarmRegistry

/-! ### Calls -/

def setSwarm (r : SwarmRegistry) (swarmId : Bytes32) (swarm : Swarm) : SwarmRegistry :=
  { r with swarms := update r.swarms swarmId swarm }

def setMember (r : SwarmRegistry) (swarmId memberKey : Bytes32) (member : SwarmMember) :
    SwarmRegistry :=
  { r with
    members := update r.members swarmId
      (update (r.members swarmId) memberKey member) }

section calls

variable (D : SwarmDeployment) (env : Env)

def onlyAuthorizedRegistrar : RegistryAction Unit := do
  let r ← get
  revertIf (r.isAuthorizedRegistrar env.sender = false) (.unauthorizedRegistrar env.sender)

def requireOperator (swarmId : Bytes32) : RegistryAction Swarm := do
  let r ← get
  let swarm := r.swarms swarmId
  revertIf (swarm.swarmId = 0) (.swarmNotFound swarmId)
  revertIf (env.sender ≠ r.ownable.owner ∧ env.sender ≠ swarm.creator ∧
      r.isAuthorizedRegistrar env.sender = false)
    (.unauthorizedSwarmOperator swarmId env.sender)
  revertIf (swarm.status = .dissolved ∨ swarm.status = .graduated)
    (.invalidSwarmStatus swarmId swarm.status)
  pure swarm

/-- Change a swarm as an operator. -/
def operate (swarmId : Bytes32) (change : Swarm → Swarm) : RegistryAction Unit := do
  let swarm ← requireOperator env swarmId
  modify fun r => r.setSwarm swarmId { change swarm with updatedAt := uint64 env.timestamp }

def joinSwarm (swarmId : Bytes32) (member : SwarmMember) : RegistryAction Unit := do
  onlyAuthorizedRegistrar env
  let r ← get
  revertIf ((r.swarms swarmId).swarmId = 0) (.swarmNotFound swarmId)
  addMember D env swarmId member

def leaveSwarm (swarmId memberKey : Bytes32) : RegistryAction Unit := do
  let swarm ← requireOperator env swarmId
  let r ← get
  revertIf ((r.members swarmId memberKey).joinedAt = 0) (.memberNotFound swarmId memberKey)
  modify fun r => (r.setMember swarmId memberKey .empty).setSwarm swarmId
    { swarm with updatedAt := uint64 env.timestamp }

def updateMemberRole (swarmId memberKey newRole permissionsRoot : Bytes32) : RegistryAction Unit := do
  let swarm ← requireOperator env swarmId
  let r ← get
  let member := r.members swarmId memberKey
  revertIf (member.joinedAt = 0) (.memberNotFound swarmId memberKey)
  modify fun r => (r.setMember swarmId memberKey { member with
    role := newRole
    permissionsRoot
    updatedAt := uint64 env.timestamp }).setSwarm swarmId
    { swarm with updatedAt := uint64 env.timestamp }

def updateMissionRoot (swarmId newMissionRoot : Bytes32) : RegistryAction Unit :=
  operate env swarmId fun swarm => { swarm with missionRoot := newMissionRoot }

def updateSharedMemoryRoot (swarmId newSharedMemoryRoot : Bytes32) : RegistryAction Unit :=
  operate env swarmId fun swarm => { swarm with sharedMemoryRoot := newSharedMemoryRoot }

def pauseSwarm (swarmId : Bytes32) : RegistryAction Unit :=
  operate env swarmId fun swarm => { swarm with status := .paused }

def dissolveSwarm (swarmId finalMemoryRoot : Bytes32) : RegistryAction Unit :=
  operate env swarmId fun swarm =>
    { swarm with status := .dissolved, sharedMemoryRoot := finalMemoryRoot }

def graduateSwarm (swarmId : Bytes32) : RegistryAction Unit :=
  operate env swarmId fun swarm => { swarm with status := .graduated }

def forkSwarm (parentSwarmId : Bytes32) (childSwarm : Swarm) : RegistryAction Unit := do
  onlyAuthorizedRegistrar env
  let r ← get
  revertIf ((r.swarms parentSwarmId).swarmId = 0) (.swarmNotFound parentSwarmId)
  validateCreate childSwarm
  revertIf ((r.swarms childSwarm.swarmId).swarmId ≠ 0) (.swarmAlreadyExists childSwarm.swarmId)
  modify fun r => r.setSwarm childSwarm.swarmId childSwarm

/-- The calls of the registry, as messages.  Arguments that only events have are left out. -/
inductive Msg where
  | ownable (c : OwnableCall)
  | setAuthorizedRegistrar (registrar : Address) (authorized : Bool)
  | createSwarm (swarm : Swarm) (initialMembers : List SwarmMember)
  | joinSwarm (swarmId : Bytes32) (member : SwarmMember)
  | leaveSwarm (swarmId memberKey : Bytes32)
  | updateMemberRole (swarmId memberKey newRole permissionsRoot : Bytes32)
  | updateMissionRoot (swarmId newMissionRoot : Bytes32)
  | updateSharedMemoryRoot (swarmId newSharedMemoryRoot : Bytes32)
  | pauseSwarm (swarmId : Bytes32)
  | dissolveSwarm (swarmId finalMemoryRoot : Bytes32)
  | graduateSwarm (swarmId : Bytes32)
  | forkSwarm (parentSwarmId : Bytes32) (childSwarm : Swarm)

def call : Msg → RegistryAction Unit
  | .ownable c => inOwnable (TwoStepOwnable.call env c)
  | .setAuthorizedRegistrar registrar authorized => setAuthorizedRegistrar env registrar authorized
  | .createSwarm swarm initialMembers => createSwarm D env swarm initialMembers
  | .joinSwarm swarmId member => joinSwarm D env swarmId member
  | .leaveSwarm swarmId memberKey => leaveSwarm env swarmId memberKey
  | .updateMemberRole swarmId memberKey newRole permissionsRoot =>
    updateMemberRole env swarmId memberKey newRole permissionsRoot
  | .updateMissionRoot swarmId newMissionRoot => updateMissionRoot env swarmId newMissionRoot
  | .updateSharedMemoryRoot swarmId newSharedMemoryRoot =>
    updateSharedMemoryRoot env swarmId newSharedMemoryRoot
  | .pauseSwarm swarmId => pauseSwarm env swarmId
  | .dissolveSwarm swarmId finalMemoryRoot => dissolveSwarm env swarmId finalMemoryRoot
  | .graduateSwarm swarmId => graduateSwarm env swarmId
  | .forkSwarm parentSwarmId childSwarm => forkSwarm env parentSwarmId childSwarm

end calls

/-! ### What a call does -/

def Terminal (swarm : Swarm) : Prop := swarm.status = .dissolved ∨ swarm.status = .graduated

/-- The key of a member. -/
def keyOf (D : SwarmDeployment) (member : SwarmMember) : Bytes32 :=
  D.memberKey member.memberType member.wallet member.agentId member.childSwarmId member.shell

/-- A swarm that exists and is not terminal. -/
structure Operable (r : SwarmRegistry) (swarmId : Bytes32) : Prop where
  registered : (r.swarms swarmId).swarmId ≠ 0
  running : ¬ Terminal (r.swarms swarmId)

/-- The members that a call adds. -/
def added (swarmId : Bytes32) : Msg → List SwarmMember
  | .createSwarm swarm initialMembers => if swarm.swarmId = swarmId then initialMembers else []
  | .joinSwarm joined member => if joined = swarmId then [member] else []
  | _ => []

/-- What a call does to the swarms and their members.  A change by an operator keeps the identifier
and the class of the swarm. -/
inductive RegistryEffect (D : SwarmDeployment) (env : Env) (r : SwarmRegistry) :
    Msg → SwarmRegistry → Prop
  | administered {msg : Msg} {r' : SwarmRegistry} (hmsg : ∀ swarmId, added swarmId msg = [])
      (hswarms : r'.swarms = r.swarms) (hmembers : r'.members = r.members)
      (hkeys : r'.memberKeys = r.memberKeys) : RegistryEffect D env r msg r'
  | created {swarm : Swarm} {members : List SwarmMember} {r' : SwarmRegistry}
      (hid : swarm.swarmId ≠ 0) (hnew : (r.swarms swarm.swarmId).swarmId = 0)
      (hmembers : addMembers D env swarm.swarmId members (r.setSwarm swarm.swarmId swarm) =
        .ok ((), r')) : RegistryEffect D env r (.createSwarm swarm members) r'
  | joined {swarmId : Bytes32} {member : SwarmMember} {r' : SwarmRegistry}
      (hid : (r.swarms swarmId).swarmId ≠ 0)
      (hmember : addMember D env swarmId member r = .ok ((), r')) :
      RegistryEffect D env r (.joinSwarm swarmId member) r'
  | left {swarmId memberKey : Bytes32} {swarm : Swarm} (hoperable : r.Operable swarmId)
      (hid : swarm.swarmId = (r.swarms swarmId).swarmId)
      (hclass : swarm.swarmClass = (r.swarms swarmId).swarmClass) :
      RegistryEffect D env r (.leaveSwarm swarmId memberKey)
        ((r.setMember swarmId memberKey .empty).setSwarm swarmId swarm)
  | roleUpdated {swarmId memberKey newRole permissionsRoot : Bytes32} {swarm : Swarm}
      {member : SwarmMember} (hoperable : r.Operable swarmId)
      (hid : swarm.swarmId = (r.swarms swarmId).swarmId)
      (hclass : swarm.swarmClass = (r.swarms swarmId).swarmClass)
      (hjoined : member.joinedAt = (r.members swarmId memberKey).joinedAt) :
      RegistryEffect D env r (.updateMemberRole swarmId memberKey newRole permissionsRoot)
        ((r.setMember swarmId memberKey member).setSwarm swarmId swarm)
  | operated {msg : Msg} {swarmId : Bytes32} {swarm : Swarm} (hmsg : ∀ swarmId, added swarmId msg = [])
      (hoperable : r.Operable swarmId) (hid : swarm.swarmId = (r.swarms swarmId).swarmId)
      (hclass : swarm.swarmClass = (r.swarms swarmId).swarmClass) :
      RegistryEffect D env r msg (r.setSwarm swarmId swarm)
  | forked {parentSwarmId : Bytes32} {childSwarm : Swarm} (hid : childSwarm.swarmId ≠ 0)
      (hnew : (r.swarms childSwarm.swarmId).swarmId = 0) :
      RegistryEffect D env r (.forkSwarm parentSwarmId childSwarm)
        (r.setSwarm childSwarm.swarmId childSwarm)

section inversion

variable {D : SwarmDeployment} {env : Env} {r r' : SwarmRegistry} {u : Unit} {swarmId : Bytes32}
  {swarm : Swarm}

attribute [simp] onlyAuthorizedRegistrar

theorem requireOperator_ok (h : requireOperator env swarmId r = .ok (swarm, r')) :
    r.Operable swarmId ∧ swarm = r.swarms swarmId ∧ r' = r := by
  simp [requireOperator] at h
  obtain ⟨hid, -, ⟨hstatus, rfl⟩, rfl⟩ := h
  exact ⟨⟨hid, not_or.mpr hstatus⟩, rfl, rfl⟩

theorem validateCreate_ok (h : validateCreate swarm r = .ok (u, r')) :
    swarm.swarmId ≠ 0 ∧ r' = r := by
  simp [validateCreate] at h
  exact ⟨h.1, h.2.2.2.2.1.2⟩

theorem operate_effect {msg : Msg} {change : Swarm → Swarm}
    (h : operate env swarmId change r = .ok (u, r')) (hmsg : ∀ swarmId, added swarmId msg = [])
    (hid : ∀ swarm, (change swarm).swarmId = swarm.swarmId)
    (hclass : ∀ swarm, (change swarm).swarmClass = swarm.swarmClass) :
    RegistryEffect D env r msg r' := by
  obtain ⟨swarm, r₁, hoperator, hmodify⟩ := bind_ok.mp h
  obtain ⟨hoperable, rfl, rfl⟩ := requireOperator_ok hoperator
  obtain rfl := modify_ok.mp hmodify
  exact .operated hmsg hoperable (hid _) (hclass _)

theorem addMember_ok {member : SwarmMember} :
    addMember D env swarmId member r = .ok (u, r') ↔
      (r.members swarmId (keyOf D member)).joinedAt = 0 ∧
        r' = { r.setMember swarmId (keyOf D member) { member with
            joinedAt := uint64 env.timestamp
            updatedAt := uint64 env.timestamp
            active := true } with
          memberKeys := update r.memberKeys swarmId
            (r.memberKeys swarmId ++ [keyOf D member]) } := by
  simp [addMember, setMember, keyOf]

theorem createSwarm_ok {members : List SwarmMember}
    (h : createSwarm D env swarm members r = .ok ((), r')) :
    swarm.swarmId ≠ 0 ∧ (r.swarms swarm.swarmId).swarmId = 0 ∧
      addMembers D env swarm.swarmId members (r.setSwarm swarm.swarmId swarm) = .ok ((), r') := by
  simp [createSwarm] at h
  obtain ⟨-, _, _, hvalid, hnew, hmembers⟩ := h
  obtain ⟨hid, rfl⟩ := validateCreate_ok hvalid
  exact ⟨hid, hnew, hmembers⟩

theorem leaveSwarm_ok {memberKey : Bytes32} (h : leaveSwarm env swarmId memberKey r = .ok (u, r')) :
    r.Operable swarmId ∧ (r.members swarmId memberKey).joinedAt ≠ 0 ∧
      r' = (r.setMember swarmId memberKey .empty).setSwarm swarmId
        { r.swarms swarmId with updatedAt := uint64 env.timestamp } := by
  simp [leaveSwarm] at h
  obtain ⟨swarm, _, hoperator, hjoined, rfl⟩ := h
  obtain ⟨hoperable, rfl, rfl⟩ := requireOperator_ok hoperator
  exact ⟨hoperable, hjoined, rfl⟩

theorem effect_of_call {msg : Msg} (h : call D env msg r = .ok ((), r')) :
    RegistryEffect D env r msg r' := by
  cases msg with
  | ownable c =>
    simp only [call, inOwnable, within_ok] at h
    obtain ⟨_, -, rfl⟩ := h
    exact .administered (fun _ => rfl) rfl rfl rfl
  | setAuthorizedRegistrar registrar authorized =>
    simp [call, setAuthorizedRegistrar, inOwnable] at h
    obtain ⟨-, -, rfl⟩ := h
    exact .administered (fun _ => rfl) rfl rfl rfl
  | createSwarm swarm members =>
    obtain ⟨hid, hnew, hmembers⟩ := createSwarm_ok h
    exact .created hid hnew hmembers
  | joinSwarm swarmId member =>
    simp [call, joinSwarm] at h
    exact .joined h.2.1 h.2.2
  | leaveSwarm swarmId memberKey =>
    obtain ⟨hoperable, -, rfl⟩ := leaveSwarm_ok h
    exact .left hoperable rfl rfl
  | updateMemberRole swarmId memberKey newRole permissionsRoot =>
    simp [call, updateMemberRole] at h
    obtain ⟨swarm, _, hoperator, -, rfl⟩ := h
    obtain ⟨hoperable, rfl, rfl⟩ := requireOperator_ok hoperator
    exact .roleUpdated hoperable rfl rfl rfl
  | updateMissionRoot swarmId root | updateSharedMemoryRoot swarmId root
  | dissolveSwarm swarmId root | pauseSwarm swarmId | graduateSwarm swarmId =>
    exact operate_effect h (fun _ => rfl) (fun _ => rfl) (fun _ => rfl)
  | forkSwarm parentSwarmId childSwarm =>
    simp [call, forkSwarm] at h
    obtain ⟨-, -, _, _, hvalid, hnew, rfl⟩ := h
    obtain ⟨hid, rfl⟩ := validateCreate_ok hvalid
    exact .forked hid hnew

end inversion

/-! ### Frozen swarms -/

/-- An accepted call of the registry. -/
def RegistryStep (D : SwarmDeployment) (r : SwarmRegistry) (l : Env × Msg) (r' : SwarmRegistry) :
    Prop :=
  call D l.1 l.2 r = .ok ((), r')

/-- A registry in which a swarm with a status was registered, and only registered swarms have
members. -/
structure Registered (r : SwarmRegistry) : Prop where
  status : ∀ id, (r.swarms id).swarmId = 0 → (r.swarms id).status = .none
  memberKeys : ∀ id, (r.swarms id).swarmId = 0 → r.memberKeys id = []

/-- The swarm has the same status and roots, the same members and the same roles. -/
structure Frozen (id : Bytes32) (r r' : SwarmRegistry) : Prop where
  status : (r'.swarms id).status = (r.swarms id).status
  missionRoot : (r'.swarms id).missionRoot = (r.swarms id).missionRoot
  sharedMemoryRoot : (r'.swarms id).sharedMemoryRoot = (r.swarms id).sharedMemoryRoot
  policyRoot : (r'.swarms id).policyRoot = (r.swarms id).policyRoot
  roleRoot : (r'.swarms id).roleRoot = (r.swarms id).roleRoot
  memberKeys : r'.memberKeys id = r.memberKeys id
  members : r'.members id = r.members id

def Joins (id : Bytes32) : Msg → Prop
  | .joinSwarm swarmId _ => swarmId = id
  | _ => False

instance (id : Bytes32) : DecidablePred (Joins id)
  | .joinSwarm swarmId _ => inferInstanceAs (Decidable (swarmId = id))
  | .ownable _ | .setAuthorizedRegistrar _ _ | .createSwarm _ _ | .leaveSwarm _ _
  | .updateMemberRole _ _ _ _ | .updateMissionRoot _ _ | .updateSharedMemoryRoot _ _
  | .pauseSwarm _ | .dissolveSwarm _ _ | .graduateSwarm _ | .forkSwarm _ _ => .isFalse nofun

section frozen

variable {D : SwarmDeployment} {env : Env} {r r' : SwarmRegistry} {id : Bytes32} {msg : Msg}

/-- What the adding of members does. -/
structure MembersAdded (D : SwarmDeployment) (env : Env) (id : Bytes32) (members : List SwarmMember)
    (r r' : SwarmRegistry) : Prop where
  swarms : r'.swarms = r.swarms
  others : ∀ id', id' ≠ id → r'.memberKeys id' = r.memberKeys id' ∧ r'.members id' = r.members id'
  memberKeys : r'.memberKeys id = r.memberKeys id ++ members.map (keyOf D)
  joinedAt : ∀ key, (r'.members id key).joinedAt =
    if key ∈ members.map (keyOf D) then uint64 env.timestamp else (r.members id key).joinedAt
  fresh : ∀ key ∈ members.map (keyOf D), (r.members id key).joinedAt = 0
  nodup : uint64 env.timestamp ≠ 0 → (members.map (keyOf D)).Nodup

theorem addMembers_ok {members : List SwarmMember} {u : Unit}
    (h : addMembers D env id members r = .ok (u, r')) : MembersAdded D env id members r r' := by
  induction members generalizing r with
  | nil =>
    obtain ⟨-, rfl⟩ := pure_ok.mp h
    exact ⟨rfl, fun _ _ => ⟨rfl, rfl⟩, (List.append_nil _).symm, fun _ => rfl, nofun, fun _ => .nil⟩
  | cons member members ih =>
    obtain ⟨⟨⟩, r₁, hmember, hrest⟩ := bind_ok.mp h
    obtain ⟨hnew, rfl⟩ := addMember_ok.mp hmember
    have hadded := ih hrest
    refine ⟨hadded.swarms, fun id' hne => ?_, ?_, fun key => ?_, fun key hkey => ?_, fun htime => ?_⟩
    · obtain ⟨hkeys, hmembers⟩ := hadded.others id' hne
      rw [hkeys, hmembers]
      exact ⟨update_of_ne hne _ _, update_of_ne hne _ _⟩
    · rw [hadded.memberKeys]
      simp
    · rw [hadded.joinedAt]
      by_cases hkey : key = keyOf D member
      · simp [setMember, hkey]
      · simp [setMember, hkey]
    · by_cases heq : key = keyOf D member
      · rw [heq, hnew]
      · have hfresh := hadded.fresh key ((List.mem_cons.mp hkey).resolve_left heq)
        simpa [setMember, heq] using hfresh
    · refine List.nodup_cons.mpr ⟨fun hmem => htime ?_, hadded.nodup htime⟩
      simpa [setMember] using hadded.fresh _ hmem

theorem addMember_added {member : SwarmMember} {u : Unit}
    (h : addMember D env id member r = .ok (u, r')) : MembersAdded D env id [member] r r' :=
  addMembers_ok (bind_ok.mpr ⟨u, r', h, rfl⟩)

/-- A swarm that is registered stays registered, with its class. -/
theorem RegistryEffect.registered_mono (h : RegistryEffect D env r msg r')
    (hid : (r.swarms id).swarmId ≠ 0) :
    (r'.swarms id).swarmId ≠ 0 ∧ (r'.swarms id).swarmClass = (r.swarms id).swarmClass := by
  have hset {swarmId : Bytes32} {swarm : Swarm} (hswarm : swarm.swarmId = (r.swarms swarmId).swarmId)
      (hclass : swarm.swarmClass = (r.swarms swarmId).swarmClass) :
      ((update r.swarms swarmId swarm) id).swarmId ≠ 0 ∧
        ((update r.swarms swarmId swarm) id).swarmClass = (r.swarms id).swarmClass := by
    by_cases heq : id = swarmId
    · subst heq
      rw [update_self, hswarm]
      exact ⟨hid, hclass⟩
    · rw [update_of_ne heq]
      exact ⟨hid, rfl⟩
  have hnew {swarm : Swarm} (hfresh : (r.swarms swarm.swarmId).swarmId = 0) :
      ((update r.swarms swarm.swarmId swarm) id).swarmId ≠ 0 ∧
        ((update r.swarms swarm.swarmId swarm) id).swarmClass = (r.swarms id).swarmClass := by
    have hne : id ≠ swarm.swarmId := by
      rintro rfl
      exact hid hfresh
    rw [update_of_ne hne]
    exact ⟨hid, rfl⟩
  cases h with
  | administered _ hswarms _ _ =>
    rw [hswarms]
    exact ⟨hid, rfl⟩
  | created _ hfresh hmembers =>
    rw [(addMembers_ok hmembers).swarms]
    exact hnew hfresh
  | joined _ hmember =>
    obtain ⟨-, rfl⟩ := addMember_ok.mp hmember
    exact ⟨hid, rfl⟩
  | left _ hswarm hclass | roleUpdated _ hswarm hclass _ | operated _ _ hswarm hclass =>
    exact hset hswarm hclass
  | forked _ hfresh => exact hnew hfresh

theorem Registered.step (hr : Registered r)
    (h : RegistryEffect D env r msg r') : Registered r' := by
  -- an identifier that is not registered afterwards was not registered before
  have hbefore (id : Bytes32) (hid : (r'.swarms id).swarmId = 0) : (r.swarms id).swarmId = 0 := by
    by_contra hne
    exact (h.registered_mono hne).1 hid
  have hne {swarmId id : Bytes32} {swarm : Swarm} (hswarm : swarm.swarmId ≠ 0)
      (hid : ((update r.swarms swarmId swarm) id).swarmId = 0) : id ≠ swarmId := by
    rintro rfl
    rw [update_self] at hid
    exact hswarm hid
  have hset {swarmId id : Bytes32} {swarm : Swarm} (hswarm : swarm.swarmId ≠ 0)
      (hid : ((update r.swarms swarmId swarm) id).swarmId = 0)
      (hstatus : (r.swarms id).status = .none) :
      ((update r.swarms swarmId swarm) id).status = .none := by
    rw [update_of_ne (hne hswarm hid), hstatus]
  refine ⟨fun id hid => ?_, fun id hid => ?_⟩
  · have hstatus := hr.status id (hbefore id hid)
    cases h with
    | administered _ hswarms _ _ => rw [hswarms, hstatus]
    | created hswarm _ hmembers =>
      rw [(addMembers_ok hmembers).swarms] at hid ⊢
      exact hset hswarm hid hstatus
    | joined _ hmember =>
      obtain ⟨-, rfl⟩ := addMember_ok.mp hmember
      exact hstatus
    | left hoperable hswarm _ | roleUpdated hoperable hswarm _ _ | operated _ hoperable hswarm _ =>
      exact hset (hswarm ▸ hoperable.registered) hid hstatus
    | forked hswarm _ => exact hset hswarm hid hstatus
  · have hkeys := hr.memberKeys id (hbefore id hid)
    cases h with
    | administered _ _ _ hsame => rw [hsame, hkeys]
    | created hswarm _ hmembers =>
      have hadded := addMembers_ok hmembers
      rw [hadded.swarms] at hid
      rw [(hadded.others id (hne hswarm hid)).1]
      exact hkeys
    | @joined swarmId _ _ hswarm hmember =>
      obtain ⟨-, rfl⟩ := addMember_ok.mp hmember
      have hne : id ≠ swarmId := by
        rintro rfl
        exact hswarm hid
      exact (update_of_ne hne _ _).trans hkeys
    | left | roleUpdated | operated | forked => exact hkeys

theorem registered_of_trace {owner : Address} {steps : List (TraceStep SwarmRegistry (Env × Msg))}
    (htrace : Trace (RegistryStep D) (.deployed owner) steps r) : Registered r := by
  exact htrace.invariant (fun hstep hs => hs.step (effect_of_call hstep))
    ⟨fun _ _ => rfl, fun _ _ => rfl⟩

theorem Frozen.refl (id : Bytes32) (r : SwarmRegistry) : Frozen id r r :=
  ⟨rfl, rfl, rfl, rfl, rfl, rfl, rfl⟩

/-- The swarm and its members are the same. -/
theorem frozen_of_eq (hswarm : r'.swarms id = r.swarms id)
    (hkeys : r'.memberKeys id = r.memberKeys id) (hmembers : r'.members id = r.members id) :
    Frozen id r r' := by
  refine ⟨?_, ?_, ?_, ?_, ?_, hkeys, hmembers⟩ <;> rw [hswarm]

theorem Frozen.trans {r₁ r₂ r₃ : SwarmRegistry} (h₁ : Frozen id r₁ r₂) (h₂ : Frozen id r₂ r₃) :
    Frozen id r₁ r₃ where
  status := h₂.status.trans h₁.status
  missionRoot := h₂.missionRoot.trans h₁.missionRoot
  sharedMemoryRoot := h₂.sharedMemoryRoot.trans h₁.sharedMemoryRoot
  policyRoot := h₂.policyRoot.trans h₁.policyRoot
  roleRoot := h₂.roleRoot.trans h₁.roleRoot
  memberKeys := h₂.memberKeys.trans h₁.memberKeys
  members := h₂.members.trans h₁.members

/-- Nothing but a join touches a terminal swarm. -/
theorem RegistryEffect.frozen (h : RegistryEffect D env r msg r') (hid : (r.swarms id).swarmId ≠ 0)
    (hterminal : Terminal (r.swarms id)) (hmsg : ¬ Joins id msg) : Frozen id r r' := by
  have hne {swarmId : Bytes32} (hoperable : r.Operable swarmId) : id ≠ swarmId := by
    rintro rfl
    exact hoperable.running hterminal
  have hfresh {swarm : Swarm} (hnew : (r.swarms swarm.swarmId).swarmId = 0) : id ≠ swarm.swarmId := by
    rintro rfl
    exact hid hnew
  cases h with
  | administered _ hswarms hmembers hkeys =>
    exact frozen_of_eq (congrFun hswarms id) (congrFun hkeys id) (congrFun hmembers id)
  | created _ hnew hmembers =>
    have hadded := addMembers_ok hmembers
    obtain ⟨hkeys, hsame⟩ := hadded.others id (hfresh hnew)
    refine frozen_of_eq ?_ hkeys hsame
    rw [hadded.swarms]
    exact update_of_ne (hfresh hnew) _ _
  | @joined swarmId _ _ _ hmember =>
    obtain ⟨-, rfl⟩ := addMember_ok.mp hmember
    have hother : id ≠ swarmId := fun heq => hmsg heq.symm
    exact frozen_of_eq rfl (update_of_ne hother _ _) (update_of_ne hother _ _)
  | left hoperable _ _ | roleUpdated hoperable _ _ _ =>
    exact frozen_of_eq (update_of_ne (hne hoperable) _ _) rfl
      (update_of_ne (hne hoperable) _ _)
  | operated _ hoperable _ _ => exact frozen_of_eq (update_of_ne (hne hoperable) _ _) rfl rfl
  | forked _ hnew => exact frozen_of_eq (update_of_ne (hfresh hnew) _ _) rfl rfl

/-- A join adds a key. -/
theorem RegistryEffect.not_frozen (h : RegistryEffect D env r msg r') (hmsg : Joins id msg) :
    r'.memberKeys id ≠ r.memberKeys id := by
  cases h with
  | joined _ hmember =>
    obtain rfl : _ = id := hmsg
    obtain ⟨-, rfl⟩ := addMember_ok.mp hmember
    simp
  | administered hadded _ _ _ | operated hadded _ _ _ =>
    cases msg with
    | joinSwarm swarmId member => exact absurd (hadded swarmId) (by simp [added])
    | _ => exact hmsg.elim
  | created | left | roleUpdated | forked => exact hmsg.elim

/-- In every run after a swarm became terminal, the swarm stays as it is exactly if nobody joins it. -/
theorem terminal_swarm_frozen_iff {owner : Address}
    {before steps : List (TraceStep SwarmRegistry (Env × Msg))}
    (hreach : Trace (RegistryStep D) (.deployed owner) before r)
    (hterminal : Terminal (r.swarms id)) (htrace : Trace (RegistryStep D) r steps r') :
    (∀ t ∈ steps, Frozen id r t.after) ↔ ∀ t ∈ steps, ¬ Joins id t.label.2 := by
  have hid : (r.swarms id).swarmId ≠ 0 := by
    intro hzero
    have hnone := (registered_of_trace hreach).status id hzero
    rcases hterminal with hstatus | hstatus <;> rw [hstatus] at hnone <;> cases hnone
  refine htrace.forall_iff (I := fun s => Frozen id r s ∧ (s.swarms id).swarmId ≠ 0)
    (P := fun t => Frozen id r t.after) (C := fun _ l => ¬ Joins id l.2) ?_ ?_ ⟨.refl id r, hid⟩
  · rintro s ⟨env, msg⟩ s' hstep ⟨hfrozen, hregistered⟩ hmsg
    have heffect := effect_of_call hstep
    have hstill : Terminal (s.swarms id) := by
      rw [Terminal, hfrozen.status]
      exact hterminal
    have hkept := hfrozen.trans (heffect.frozen hregistered hstill hmsg)
    exact ⟨⟨hkept, (heffect.registered_mono hregistered).1⟩, hkept⟩
  · rintro s ⟨env, msg⟩ s' hstep ⟨hfrozen, -⟩ hmsg hkept
    refine (effect_of_call hstep).not_frozen (not_not.mp hmsg) ?_
    exact hkept.memberKeys.trans hfrozen.memberKeys.symm

end frozen

/-! ### A terminal swarm gets a member -/

/-- The owner 1 authorizes the registrar 8, which creates a swarm of the account 3; its creator
dissolves it. -/
def sampleDissolved : List (Env × Msg) :=
  [(⟨1, 10⟩, .setAuthorizedRegistrar 8 true),
    (⟨8, 10⟩, .createSwarm { Swarm.empty with
      swarmId := 7, creator := 3, swarmClass := 6, missionRoot := 1, policyRoot := 1, roleRoot := 1
      status := .active } []),
    (⟨3, 11⟩, .dissolveSwarm 7 5)]

/-- The registrar lets the agent 9 join the swarm. -/
def sampleJoin : List (Env × Msg) :=
  [(⟨8, 12⟩, .joinSwarm 7 { SwarmMember.empty with memberType := .agent, agentId := 9, role := 2 })]

/-- The creator tries nothing more; the registrar creates another swarm. -/
def sampleOther : List (Env × Msg) :=
  [(⟨8, 12⟩, .createSwarm { Swarm.empty with
    swarmId := 17, creator := 3, swarmClass := 6, missionRoot := 1, policyRoot := 1, roleRoot := 1
    status := .active } [])]

/-- The swarm 7 is dissolved, and then the agent 9 becomes a member of it. -/
theorem dissolved_swarm_joined : ∃ before steps r r',
    Trace (RegistryStep SwarmFactory.sampleSwarm) (.deployed 1) before r ∧
      before.map (·.label) = sampleDissolved ∧ Terminal (r.swarms 7) ∧
      Trace (RegistryStep SwarmFactory.sampleSwarm) r steps r' ∧ steps.map (·.label) = sampleJoin ∧
      (r.members 7 9).joinedAt = 0 ∧ (r'.members 7 9).joinedAt = 12 ∧ (r'.members 7 9).role = 2 ∧
      r.memberKeys 7 = [] ∧ r'.memberKeys 7 = [9] := by
  obtain ⟨before, r, htrace, hlabels, hstatus, hnone, hkeys, hjoin⟩ : ∃ before r,
      Trace (RegistryStep SwarmFactory.sampleSwarm) (.deployed 1) before r ∧
        before.map (·.label) = sampleDissolved ∧ (r.swarms 7).status = .dissolved ∧
        (r.members 7 9).joinedAt = 0 ∧ r.memberKeys 7 = [] ∧
        ∃ j ∈ Trace.execute (fun c => after (call SwarmFactory.sampleSwarm c.1 c.2)) sampleJoin r,
          (j.2.members 7 9).joinedAt = 12 ∧ (j.2.members 7 9).role = 2 ∧ j.2.memberKeys 7 = [9] :=
    Trace.exists_of_execute after_eq_some.mp (by decide +kernel)
  obtain ⟨⟨steps, r'⟩, hsteps, hjoined, hrole, hkeys'⟩ := hjoin
  obtain ⟨htrace', hlabels'⟩ := Trace.of_execute after_eq_some.mp hsteps
  exact ⟨before, steps, r, r', htrace, hlabels, .inl hstatus, htrace', hlabels', hnone, hjoined,
    hrole, hkeys, hkeys'⟩

/-- Another swarm is created, and the dissolved one stays as it is. -/
theorem terminal_swarm_frozen_sample : ∃ before steps r r',
    Trace (RegistryStep SwarmFactory.sampleSwarm) (.deployed 1) before r ∧ Terminal (r.swarms 7) ∧
      Trace (RegistryStep SwarmFactory.sampleSwarm) r steps r' ∧ steps.map (·.label) = sampleOther ∧
      ∀ t ∈ steps, Frozen 7 r t.after := by
  obtain ⟨before, r, htrace, -, hstatus, hother⟩ : ∃ before r,
      Trace (RegistryStep SwarmFactory.sampleSwarm) (.deployed 1) before r ∧
        before.map (·.label) = sampleDissolved ∧ (r.swarms 7).status = .dissolved ∧
        ∃ j ∈ Trace.execute (fun c => after (call SwarmFactory.sampleSwarm c.1 c.2)) sampleOther r, True :=
    Trace.exists_of_execute after_eq_some.mp (by decide +kernel)
  obtain ⟨⟨steps, r'⟩, hsteps, -⟩ := hother
  obtain ⟨htrace', hlabels⟩ := Trace.of_execute after_eq_some.mp hsteps
  refine ⟨before, steps, r, r', htrace, .inl hstatus, htrace', hlabels,
    (terminal_swarm_frozen_iff htrace (.inl hstatus) htrace').mpr fun t ht => ?_⟩
  have hlabel : t.label ∈ sampleOther := hlabels ▸ List.mem_map_of_mem ht
  rw [List.mem_singleton.mp hlabel]
  exact id

end SwarmRegistry

end FlowMemory.AgentNetwork
