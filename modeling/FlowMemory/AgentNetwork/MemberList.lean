import FlowMemory.AgentNetwork.SwarmLifecycle

/-! # The member list of a swarm

The swarm registry has the members of a swarm twice, as a **list** of keys and as records by key.  A
member who joins is written to both.  One who leaves is deleted from the records only, and a record of
time zero counts as none: `member_lists_exact_iff` says in which runs the list has exactly the keys
that have a record. -/

namespace FlowMemory.AgentNetwork

open Call AgentBonds Function

namespace SwarmRegistry

def getMember (swarmId memberKey : Bytes32) : RegistryAction SwarmMember := do
  let r ← get
  let member := r.members swarmId memberKey
  revertIf (member.joinedAt = 0) (.memberNotFound swarmId memberKey)
  pure member

def getMemberKeys (swarmId : Bytes32) : RegistryAction (List Bytes32) := do
  let r ← get
  pure (r.memberKeys swarmId)

/-- The list of the swarm has no duplicates, and exactly the keys of its members. -/
def MembersExact (r : SwarmRegistry) (swarmId : Bytes32) : Prop :=
  ∃ keys, getMemberKeys swarmId r = .ok (keys, r) ∧ keys.Nodup ∧
    ∀ key, key ∈ keys ↔ ∃ member, getMember swarmId key r = .ok (member, r)

/-- Nobody leaves, and members are added at a time that is not zero. -/
def KeepsMembers : Env × Msg → Prop
  | (_, .leaveSwarm _ _) => False
  | (env, msg) => ∀ swarmId, added swarmId msg ≠ [] → uint64 env.timestamp ≠ 0

section exact

variable {D : SwarmDeployment} {env : Env} {r r' : SwarmRegistry} {id : Bytes32} {msg : Msg}
  {members : List SwarmMember}

theorem membersExact_iff : r.MembersExact id ↔ (r.memberKeys id).Nodup ∧
    ∀ key, key ∈ r.memberKeys id ↔ (r.members id key).joinedAt ≠ 0 := by
  simp [MembersExact, getMemberKeys, getMember]

theorem MembersExact.congr (h : r.MembersExact id) (hkeys : r'.memberKeys id = r.memberKeys id)
    (hjoined : ∀ key, (r'.members id key).joinedAt = (r.members id key).joinedAt) :
    r'.MembersExact id := by
  rw [membersExact_iff] at h ⊢
  rw [hkeys]
  exact ⟨h.1, fun key => (h.2 key).trans (by rw [hjoined])⟩

/-- Members that are added at another time than zero are new keys of the list. -/
theorem MembersAdded.exact (hadded : MembersAdded D env id members r r')
    (hr : ∀ swarmId, r.MembersExact swarmId) (htime : members ≠ [] → uint64 env.timestamp ≠ 0)
    (swarmId : Bytes32) : r'.MembersExact swarmId := by
  by_cases hid : swarmId = id
  case neg =>
    obtain ⟨hkeys, hsame⟩ := hadded.others swarmId hid
    exact (hr swarmId).congr hkeys fun key => by rw [hsame]
  subst hid
  obtain rfl | hne := eq_or_ne members []
  · exact (hr swarmId).congr (by simp [hadded.memberKeys]) fun key => by simp [hadded.joinedAt]
  have h := hr swarmId
  rw [membersExact_iff] at h ⊢
  rw [hadded.memberKeys]
  refine ⟨List.nodup_append.mpr ⟨h.1, hadded.nodup (htime hne), ?_⟩, fun key => ?_⟩
  · rintro key hkey _ hnew rfl
    exact (h.2 key).mp hkey (hadded.fresh key hnew)
  · rw [List.mem_append, h.2, hadded.joinedAt]
    split_ifs with hnew
    · exact iff_of_true (.inr hnew) (htime hne)
    · exact or_iff_left hnew

/-- Members that are added at time zero are in the list without a record. -/
theorem MembersAdded.not_exact (hadded : MembersAdded D env id members r r') (hne : members ≠ [])
    (htime : uint64 env.timestamp = 0) : ¬ r'.MembersExact id := by
  obtain ⟨member, rest, rfl⟩ := List.exists_cons_of_ne_nil hne
  intro h
  rw [membersExact_iff] at h
  refine (h.2 (keyOf D member)).mp ?_ ?_
  · rw [hadded.memberKeys]
    simp
  · rw [hadded.joinedAt, htime]
    simp

theorem RegistryEffect.exact (h : RegistryEffect D env r msg r') (hr : ∀ id, r.MembersExact id)
    (hkeeps : KeepsMembers (env, msg)) (id : Bytes32) : r'.MembersExact id := by
  cases h with
  | administered _ _ hmembers hkeys =>
    exact (hr id).congr (congrFun hkeys id) fun key => by rw [hmembers]
  | @created swarm members _ _ _ hmembers =>
    refine (addMembers_ok hmembers).exact (fun id => (hr id).congr rfl fun _ => rfl) (fun hne => ?_) id
    exact hkeeps swarm.swarmId (by simpa [added] using hne)
  | @joined swarmId member _ _ hmember =>
    exact (addMember_added hmember).exact hr (fun _ => hkeeps swarmId (by simp [added])) id
  | left => exact hkeeps.elim
  | roleUpdated _ _ _ hjoined =>
    refine (hr id).congr rfl fun key => ?_
    simp only [setSwarm, setMember, update_apply, ite_apply]
    split_ifs with hid hkey
    · rw [hid, hkey, hjoined]
    · rw [hid]
    · rfl
  | operated | forked => exact (hr id).congr rfl fun _ => rfl

theorem RegistryEffect.not_exact (h : RegistryEffect D env r msg r') (hne : added id msg ≠ [])
    (htime : uint64 env.timestamp = 0) : ¬ r'.MembersExact id := by
  cases h with
  | administered hadded | operated hadded => exact absurd (hadded id) hne
  | created _ _ hmembers =>
    rw [added] at hne
    split_ifs at hne with hid
    · subst hid
      exact (addMembers_ok hmembers).not_exact hne htime
    · exact absurd rfl hne
  | joined _ hmember =>
    rw [added] at hne
    split_ifs at hne with hid
    · subst hid
      exact (addMember_added hmember).not_exact hne htime
    · exact absurd rfl hne
  | left | roleUpdated | forked => exact absurd rfl hne

/-- The key of a member who leaves stays in the list. -/
theorem leave_not_exact {memberKey : Bytes32} {u : Unit} (hr : r.MembersExact id)
    (h : leaveSwarm env id memberKey r = .ok (u, r')) : ¬ r'.MembersExact id := by
  obtain ⟨-, hjoined, rfl⟩ := leaveSwarm_ok h
  intro hexact
  rw [membersExact_iff] at hr hexact
  refine (hexact.2 memberKey).mp ((hr.2 memberKey).mpr hjoined) ?_
  simp [setSwarm, setMember, SwarmMember.empty]

/-- In every run of the registry the member lists are exact after each call exactly if nobody leaves a
swarm and members are added at times other than zero. -/
theorem member_lists_exact_iff {owner : Address} {steps : List (TraceStep SwarmRegistry (Env × Msg))}
    (htrace : Trace (RegistryStep D) (.deployed owner) steps r) :
    (∀ t ∈ steps, ∀ swarmId, t.after.MembersExact swarmId) ↔
      ∀ t ∈ steps, KeepsMembers t.label := by
  have hdeployed (swarmId : Bytes32) : (SwarmRegistry.deployed owner).MembersExact swarmId := by
    rw [membersExact_iff]
    exact ⟨List.nodup_nil, fun _ => by simp [deployed, SwarmMember.empty]⟩
  refine htrace.forall_iff (I := fun s => ∀ swarmId, s.MembersExact swarmId)
    (P := fun t => ∀ swarmId, t.after.MembersExact swarmId) (C := fun _ l => KeepsMembers l) ?_ ?_
    hdeployed
  · rintro s ⟨env, msg⟩ s' hstep hs hkeeps
    have hexact := (effect_of_call hstep).exact hs hkeeps
    exact ⟨hexact, hexact⟩
  · rintro s ⟨env, msg⟩ s' hstep hs hkeeps hexact
    have hadds (h : ¬ ∀ swarmId, added swarmId msg ≠ [] → uint64 env.timestamp ≠ 0) : False := by
      push Not at h
      obtain ⟨swarmId, hne, htime⟩ := h
      exact (effect_of_call hstep).not_exact hne htime (hexact swarmId)
    cases msg with
    | leaveSwarm swarmId memberKey => exact leave_not_exact (hs swarmId) hstep (hexact swarmId)
    | _ => exact hadds hkeeps

/-! ### A member who leaves and joins again -/

/-- The registrar 8 creates the swarm 7 of the account 3 with the agent 9. -/
def sampleMember : List (Env × Msg) :=
  [(⟨1, 10⟩, .setAuthorizedRegistrar 8 true),
    (⟨8, 10⟩, .createSwarm { Swarm.empty with
      swarmId := 7, creator := 3, swarmClass := 6, missionRoot := 1, policyRoot := 1, roleRoot := 1
      status := .active } [{ SwarmMember.empty with memberType := .agent, agentId := 9 }])]

/-- The agent leaves and joins again. -/
def sampleRejoin : List (Env × Msg) :=
  [(⟨3, 11⟩, .leaveSwarm 7 9),
    (⟨8, 12⟩, .joinSwarm 7 { SwarmMember.empty with memberType := .agent, agentId := 9 })]

omit D in
/-- The agent 9 is in the list twice. -/
theorem rejoined_member_listed_twice : ∃ steps r,
    Trace (RegistryStep SwarmFactory.sampleSwarm) (.deployed 1) steps r ∧
      steps.map (·.label) = sampleMember ++ sampleRejoin ∧ r.memberKeys 7 = [9, 9] ∧
      ¬ r.MembersExact 7 := by
  obtain ⟨steps, r, htrace, hlabels, hkeys⟩ : ∃ steps r,
      Trace (RegistryStep SwarmFactory.sampleSwarm) (.deployed 1) steps r ∧
        steps.map (·.label) = sampleMember ++ sampleRejoin ∧ r.memberKeys 7 = [9, 9] :=
    Trace.exists_of_execute after_eq_some.mp (by decide +kernel)
  refine ⟨steps, r, htrace, hlabels, hkeys, fun hexact => ?_⟩
  rw [membersExact_iff, hkeys] at hexact
  simp at hexact

/-- The agents 10 and 11 join. -/
def sampleJoins : List (Env × Msg) :=
  [(⟨8, 11⟩, .joinSwarm 7 { SwarmMember.empty with memberType := .agent, agentId := 10 }),
    (⟨8, 12⟩, .joinSwarm 7 { SwarmMember.empty with memberType := .agent, agentId := 11 })]

omit D in
/-- The list of a swarm with three members is exact. -/
theorem member_list_exact_sample : ∃ steps r,
    Trace (RegistryStep SwarmFactory.sampleSwarm) (.deployed 1) steps r ∧
      steps.map (·.label) = sampleMember ++ sampleJoins ∧ r.memberKeys 7 = [9, 10, 11] ∧
      ∀ t ∈ steps, ∀ swarmId, t.after.MembersExact swarmId := by
  obtain ⟨steps, r, htrace, hlabels, hkeys⟩ : ∃ steps r,
      Trace (RegistryStep SwarmFactory.sampleSwarm) (.deployed 1) steps r ∧
        steps.map (·.label) = sampleMember ++ sampleJoins ∧ r.memberKeys 7 = [9, 10, 11] :=
    Trace.exists_of_execute after_eq_some.mp (by decide +kernel)
  refine ⟨steps, r, htrace, hlabels, hkeys, (member_lists_exact_iff htrace).mpr fun t ht => ?_⟩
  have hlabel : t.label ∈ sampleMember ++ sampleJoins := hlabels ▸ List.mem_map_of_mem ht
  simp only [sampleMember, sampleJoins, List.cons_append, List.nil_append, List.mem_cons,
    List.not_mem_nil, or_false] at hlabel
  rcases hlabel with hlabel | hlabel | hlabel | hlabel <;> rw [hlabel] <;>
    exact fun _ _ => by decide

end exact

end SwarmRegistry

end FlowMemory.AgentNetwork
