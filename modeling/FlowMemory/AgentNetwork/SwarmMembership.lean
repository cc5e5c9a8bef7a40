import FlowMemory.AgentNetwork.SwarmLifecycle

/-! # The policy of a swarm

A swarm is created under a **policy**, which has a class and a greatest number of members.  The
factory asks for an active policy and for an approved class, not for the class of the policy, and
the swarm registry does not count members: `swarm_policy_iff` says which swarms keep to their
policy. -/

namespace FlowMemory.AgentNetwork

open Call AgentBonds ERC20SettlementToken Function

/-! ### Counting members -/

namespace SwarmRegistry

/-- The keys of the members that have joined and not left. -/
def currentMembers (r : SwarmRegistry) (id : Bytes32) : Finset Bytes32 :=
  (r.memberKeys id).toFinset.filter fun key => (r.members id key).joinedAt ≠ 0

section counting

variable {D : SwarmDeployment} {env : Env} {r r' : SwarmRegistry} {id : Bytes32} {msg : Msg}
  {u : Unit}

theorem currentMembers_congr (hkeys : r'.memberKeys id = r.memberKeys id)
    (hmembers : r'.members id = r.members id) : r'.currentMembers id = r.currentMembers id := by
  rw [currentMembers, hkeys, hmembers, currentMembers]

theorem card_le_of_joined (hkeys : r'.memberKeys id = r.memberKeys id)
    (h : ∀ key, (r'.members id key).joinedAt ≠ 0 → (r.members id key).joinedAt ≠ 0) :
    (r'.currentMembers id).card ≤ (r.currentMembers id).card := by
  rw [currentMembers, hkeys]
  exact Finset.card_le_card (Finset.monotone_filter_right _ fun key _ => h key)

/-- A member with time zero does not count as a member. -/
theorem MembersAdded.card {members : List SwarmMember} (h : MembersAdded D env id members r r') :
    (r'.currentMembers id).card =
      (r.currentMembers id).card + if uint64 env.timestamp = 0 then 0 else members.length := by
  have hmem (key : Bytes32) : key ∈ r'.currentMembers id ↔ key ∈ r.currentMembers id ∨
      key ∈ members.map (keyOf D) ∧ uint64 env.timestamp ≠ 0 := by
    rw [currentMembers, Finset.mem_filter, List.mem_toFinset, h.memberKeys, h.joinedAt,
      List.mem_append, currentMembers, Finset.mem_filter, List.mem_toFinset]
    by_cases hkey : key ∈ members.map (keyOf D)
    · simp [hkey, h.fresh key hkey]
    · simp [hkey]
  split_ifs with hzero
  · have hsame : r'.currentMembers id = r.currentMembers id :=
      Finset.ext fun key => (hmem key).trans (by simp [hzero])
    rw [hsame, Nat.add_zero]
  · have hdisjoint : Disjoint (r.currentMembers id) (members.map (keyOf D)).toFinset := by
      refine Finset.disjoint_left.mpr fun key hcurrent hkey => ?_
      exact (Finset.mem_filter.mp hcurrent).2 (h.fresh key (List.mem_toFinset.mp hkey))
    have hunion : r'.currentMembers id = r.currentMembers id ∪ (members.map (keyOf D)).toFinset :=
      Finset.ext fun key => (hmem key).trans (by simp [hzero])
    rw [hunion, Finset.card_union_of_disjoint hdisjoint, List.toFinset_card_of_nodup (h.nodup hzero),
      List.length_map]

/-- A join counts one more member. -/
theorem RegistryEffect.card_joined (h : RegistryEffect D env r msg r') (hmsg : Joins id msg) :
    (r'.currentMembers id).card =
      (r.currentMembers id).card + if uint64 env.timestamp = 0 then 0 else 1 := by
  cases msg with
  | joinSwarm swarmId member =>
    obtain rfl : swarmId = id := hmsg
    cases h with
    | joined _ hmember => exact (addMember_added hmember).card
    | administered hadded _ _ _ | operated hadded _ _ _ =>
      exact absurd (hadded swarmId) (by simp [added])
  | _ => exact hmsg.elim

/-- No other call adds members to a registered swarm. -/
theorem RegistryEffect.card_le (h : RegistryEffect D env r msg r') (hid : (r.swarms id).swarmId ≠ 0)
    (hmsg : ¬ Joins id msg) : (r'.currentMembers id).card ≤ (r.currentMembers id).card := by
  cases h with
  | administered _ _ hmembers hkeys =>
    rw [currentMembers_congr (congrFun hkeys id) (congrFun hmembers id)]
  | @created swarm _ _ _ hnew hmembers =>
    have hne : id ≠ swarm.swarmId := by
      rintro rfl
      exact hid hnew
    obtain ⟨hkeys, hsame⟩ := (addMembers_ok hmembers).others id hne
    rw [currentMembers_congr hkeys hsame]
    rfl
  | @joined swarmId _ _ _ hmember =>
    obtain ⟨-, rfl⟩ := addMember_ok.mp hmember
    have hother : id ≠ swarmId := fun heq => hmsg heq.symm
    rw [currentMembers_congr (update_of_ne hother _ _) (update_of_ne hother _ _)]
  | left =>
    refine card_le_of_joined rfl fun key hkey => ?_
    simp only [setSwarm, setMember, update_apply, ite_apply] at hkey
    split_ifs at hkey with hswarm
    · exact absurd rfl hkey
    · rwa [hswarm]
    · exact hkey
  | roleUpdated _ _ _ hjoined =>
    refine card_le_of_joined rfl fun key hkey => ?_
    simp only [setSwarm, setMember, update_apply, ite_apply] at hkey
    split_ifs at hkey with hswarm hkey'
    · rwa [hswarm, hkey', ← hjoined]
    · rwa [hswarm]
    · exact hkey
  | operated | forked => exact le_rfl

end counting

end SwarmRegistry

/-! ### The factory and the registry together -/

namespace SwarmNetwork

open SwarmFactory SwarmRegistry

variable {τ : Type} [ERC20SettlementToken τ]

/-- A call of the factory, of the administration or of the swarm registry. -/
inductive Msg where
  | factory (msg : SwarmFactory.Msg)
  | registry (msg : SwarmRegistry.Msg)

def call (D : SwarmDeployment) (env : Env) : Msg → SwarmTokenAction τ Unit
  | .factory msg => SwarmFactory.call D env msg
  | .registry msg => onContract (inSwarmRegistry (SwarmRegistry.call D env msg))

def JoinsSwarm (id : Bytes32) : Msg → Prop
  | .factory _ => False
  | .registry msg => Joins id msg

/-- The swarm has the class of the policy and no more members than it allows. -/
structure KeepsPolicy (policy : SwarmPolicy) (id : Bytes32) (r : SwarmRegistry) : Prop where
  swarmClass : (r.swarms id).swarmClass = policy.swarmClass
  members : (r.currentMembers id).card ≤ policy.maxMembers

section steps

variable {D : SwarmDeployment} {env : Env} {w w' : WithTokens SwarmContracts τ}
  {policyId : Bytes32} {intent : SwarmIntent} {members : List SwarmMember}

/-- Every call of the network is a call of the registry at the same time. -/
theorem registryEffect_of_call {msg : Msg} (h : call D env msg w = .ok ((), w')) :
    ∃ env' msg', env'.timestamp = env.timestamp ∧
      RegistryEffect D env' w.contract.swarmRegistry msg' w'.contract.swarmRegistry ∧
      ∀ id, Joins id msg' ↔ JoinsSwarm id msg := by
  cases msg with
  | registry msg =>
    simp only [call, onContract_ok, inSwarmRegistry, within_ok] at h
    obtain ⟨_, ⟨_, hcall, rfl⟩, rfl⟩ := h
    exact ⟨env, msg, rfl, effect_of_call hcall, fun _ => Iff.rfl⟩
  | factory msg =>
    have hcall : SwarmFactory.call D env msg w = .ok ((), w') := h
    cases msg with
    | createSwarm policyId intent members =>
      have heffect : RegistryEffect D ⟨D.factory, env.timestamp⟩ w.contract.swarmRegistry
        (.createSwarm (swarmOf D env intent) members) _ := effect_of_call (createSwarm_parts h).2.1
      exact ⟨⟨D.factory, env.timestamp⟩, _, rfl, heffect, fun _ => Iff.rfl⟩
    | budgetVault msg =>
      simp only [call, SwarmFactory.call, inBudgetVault, within_ok] at h
      obtain ⟨v, -, rfl⟩ := h
      exact ⟨env, .ownable .acceptOwnership, rfl, .administered (fun _ => rfl) rfl rfl rfl,
        fun _ => Iff.rfl⟩
    | _ =>
      have hadmin := administered_of_call hcall (by simp) (by simp)
      exact ⟨env, .ownable .acceptOwnership, rfl, .administered (fun _ => rfl) hadmin.swarms
        hadmin.members hadmin.memberKeys, fun _ => Iff.rfl⟩

theorem registered_of_network {owner : Address} {w₀ : WithTokens SwarmContracts τ}
    {steps : List (TraceStep (WithTokens SwarmContracts τ) (Option (Env × Msg)))}
    (htrace : Trace (WorldStep (call D)) w₀ steps w)
    (hdeployed : w₀.contract.swarmRegistry = .deployed owner) :
    Registered w.contract.swarmRegistry := by
  refine htrace.invariant (I := fun w => Registered w.contract.swarmRegistry) (fun hstep hs => ?_) ?_
  · cases hstep with
    | call hcall =>
      obtain ⟨_, _, -, heffect, -⟩ := registryEffect_of_call hcall
      exact hs.step heffect
    | others => exact hs
  · rw [hdeployed]
    exact ⟨fun _ _ => rfl, fun _ _ => rfl⟩

/-- Under which conditions a new swarm keeps to the policy. -/
theorem created_keeps_iff (policy : SwarmPolicy) (hregistered : Registered w.contract.swarmRegistry)
    (h : SwarmFactory.createSwarm D env policyId intent members w = .ok ((), w')) :
    (w'.contract.swarmRegistry.swarms (swarmIdOf D intent)).swarmId ≠ 0 ∧
      (KeepsPolicy policy (swarmIdOf D intent) w'.contract.swarmRegistry ↔
        intent.swarmClass = policy.swarmClass ∧
          (uint64 env.timestamp ≠ 0 → members.length ≤ policy.maxMembers)) := by
  set id := swarmIdOf D intent
  obtain ⟨hid, hnew, hmembers⟩ := createSwarm_ok (createSwarm_parts h).2.1
  have hswarm : w'.contract.swarmRegistry.swarms id = swarmOf D env intent := by
    rw [(addMembers_ok hmembers).swarms]
    exact update_self _ _ _
  have hcount : (w'.contract.swarmRegistry.currentMembers id).card =
      if uint64 env.timestamp = 0 then 0 else members.length := by
    have hnone : w.contract.swarmRegistry.currentMembers id = ∅ := by
      rw [currentMembers, hregistered.memberKeys id hnew]
      rfl
    have hset : (w.contract.swarmRegistry.setSwarm id (swarmOf D env intent)).currentMembers id =
        w.contract.swarmRegistry.currentMembers id := rfl
    have hcard := (addMembers_ok hmembers).card
    change _ = ((w.contract.swarmRegistry.setSwarm id (swarmOf D env intent)).currentMembers id).card +
      _ at hcard
    rw [hset, hnone, Finset.card_empty, Nat.zero_add] at hcard
    exact hcard
  refine ⟨by rw [hswarm]; exact hid, ?_⟩
  constructor
  · intro hkeeps
    refine ⟨?_, fun htime => ?_⟩
    · have hclass := hkeeps.swarmClass
      rw [hswarm] at hclass
      exact hclass
    · have hle := hkeeps.members
      rwa [hcount, if_neg htime] at hle
  · rintro ⟨hclass, hle⟩
    refine ⟨by rw [hswarm]; exact hclass, ?_⟩
    rw [hcount]
    split_ifs with htime
    · exact Nat.zero_le _
    · exact hle htime

/-- A swarm that the factory creates keeps to its policy in every later run exactly if it was created
with the class of the policy and with no more members than it allows, and members join it only while
there is room. -/
theorem swarm_policy_iff {owner : Address} {w₀ w₁ : WithTokens SwarmContracts τ}
    {before steps : List (TraceStep (WithTokens SwarmContracts τ) (Option (Env × Msg)))}
    {policy : SwarmPolicy} {policyId : Bytes32} {intent : SwarmIntent} {members : List SwarmMember}
    (hdeployed : w₀.contract.swarmRegistry = .deployed owner)
    (hreach : Trace (WorldStep (call D)) w₀ before w)
    (hpolicy : w.contract.policyRegistry.policies policyId = policy)
    (hcreate : SwarmFactory.createSwarm D env policyId intent members w = .ok ((), w₁))
    (htrace : Trace (WorldStep (call D)) w₁ steps w') :
    (KeepsPolicy policy (swarmIdOf D intent) w₁.contract.swarmRegistry ∧
        ∀ t ∈ steps, KeepsPolicy policy (swarmIdOf D intent) t.after.contract.swarmRegistry) ↔
      (intent.swarmClass = policy.swarmClass ∧
          (uint64 env.timestamp ≠ 0 → members.length ≤ policy.maxMembers)) ∧
        ∀ t ∈ steps, ∀ c ∈ t.label, JoinsSwarm (swarmIdOf D intent) c.2 →
          uint64 c.1.timestamp ≠ 0 →
          (t.before.contract.swarmRegistry.currentMembers (swarmIdOf D intent)).card <
            policy.maxMembers := by
  subst hpolicy
  set policy := w.contract.policyRegistry.policies policyId
  set id := swarmIdOf D intent
  obtain ⟨hid, hcreated⟩ := created_keeps_iff policy
    (registered_of_network hreach hdeployed) hcreate
  rw [hcreated]
  refine and_congr_right fun hcond => ?_
  refine htrace.forall_iff
    (I := fun s => KeepsPolicy policy id s.contract.swarmRegistry ∧
      (s.contract.swarmRegistry.swarms id).swarmId ≠ 0)
    (P := fun t => KeepsPolicy policy id t.after.contract.swarmRegistry)
    (C := fun s l => ∀ c ∈ l, JoinsSwarm id c.2 → uint64 c.1.timestamp ≠ 0 →
      (s.contract.swarmRegistry.currentMembers id).card < policy.maxMembers)
    ?_ ?_ ⟨hcreated.mpr hcond, hid⟩
  · rintro s l s' hstep ⟨hkeeps, hregistered⟩ hroom
    cases hstep with
    | others => exact ⟨⟨hkeeps, hregistered⟩, hkeeps⟩
    | @call env msg _ _ hcall =>
      obtain ⟨env', msg', htime, heffect, hjoins⟩ := registryEffect_of_call hcall
      obtain ⟨hregistered', hclass⟩ := heffect.registered_mono hregistered
      have hmembers : (s'.contract.swarmRegistry.currentMembers id).card ≤ policy.maxMembers := by
        by_cases hjoin : Joins id msg'
        · rw [heffect.card_joined hjoin, htime]
          split_ifs with hzero
          · exact hkeeps.members
          · exact hroom (env, msg) rfl ((hjoins id).mp hjoin) hzero
        · exact (heffect.card_le hregistered hjoin).trans hkeeps.members
      have hkeeps' : KeepsPolicy policy id s'.contract.swarmRegistry :=
        ⟨hclass.trans hkeeps.swarmClass, hmembers⟩
      exact ⟨⟨hkeeps', hregistered'⟩, hkeeps'⟩
  · rintro s l s' hstep ⟨-, -⟩ hfull hkeeps'
    refine hfull fun c hc hjoin hzero => ?_
    cases hstep with
    | others => cases hc
    | @call env msg _ _ hcall =>
      cases hc
      obtain ⟨env', msg', htime, heffect, hjoins⟩ := registryEffect_of_call hcall
      have hcard := heffect.card_joined ((hjoins id).mpr hjoin)
      rw [htime, if_neg hzero] at hcard
      have hle := hkeeps'.members
      rw [hcard] at hle
      exact hle

end steps

/-! ### Swarms without a policy -/

instance (id : Bytes32) : DecidablePred (JoinsSwarm id)
  | .factory _ => .isFalse nofun
  | .registry msg => inferInstanceAs (Decidable (Joins id msg))

/-- A policy for swarms of the class 6 with one member. -/
def smallPolicy : SwarmPolicy := ⟨4, 6, 1, 1, 1, 2, 1, true⟩

/-- The owner 1 authorizes the factory and the registrar 2, registers the policy and approves the
class 20. -/
def networkSetup : List (Option (Env × Msg)) :=
  [some (⟨1, 10⟩, .factory (.setAuthorizedRegistrar 8 true)),
    some (⟨1, 10⟩, .factory (.setAuthorizedRegistrar 2 true)),
    some (⟨1, 10⟩, .factory (.policyRegistry (.registerPolicy smallPolicy))),
    some (⟨1, 10⟩, .factory (.policyRegistry (.setSwarmClassApproved 20 true)))]

/-- The intent of the account 3 for a swarm of the given class. -/
def intentOfClass (swarmClass : Bytes32) : SwarmIntent :=
  ⟨3, swarmClass, 1, 1, 1, 1, 1, 5, 0, 0, 20, 0, 0, 7⟩

def agentMember (agentId : Bytes32) : SwarmMember :=
  { SwarmMember.empty with memberType := .agent, agentId }

/-- Under a policy for one member and the class 6 there is a swarm of the class 20 with two
members. -/
theorem swarm_without_policy : ∃ before w w₁,
    Trace (WorldStep (call sampleSwarm)) sampleContracts before w ∧
      before.map (·.label) = networkSetup ∧
      (w.contract.policyRegistry.policies 4).swarmClass = 6 ∧
      (w.contract.policyRegistry.policies 4).maxMembers = 1 ∧
      SwarmFactory.createSwarm sampleSwarm ⟨3, 10⟩ 4 (intentOfClass 20)
        [agentMember 9, agentMember 10] w = .ok ((), w₁) ∧
      (w₁.contract.swarmRegistry.swarms 7).swarmClass = 20 ∧
      (w₁.contract.swarmRegistry.currentMembers 7).card = 2 := by
  obtain ⟨before, w, htrace, hlabels, hclass, hmax, ⟨⟨⟨⟩, w₁⟩, hcreate, hcreated⟩⟩ : ∃ before w,
      Trace (WorldStep (call sampleSwarm)) sampleContracts before w ∧
        before.map (·.label) = networkSetup ∧
        (w.contract.policyRegistry.policies 4).swarmClass = 6 ∧
        (w.contract.policyRegistry.policies 4).maxMembers = 1 ∧
        ∃ c ∈ (SwarmFactory.createSwarm sampleSwarm ⟨3, 10⟩ 4 (intentOfClass 20)
            [agentMember 9, agentMember 10] w).toOption,
          (c.2.contract.swarmRegistry.swarms 7).swarmClass = 20 ∧
          (c.2.contract.swarmRegistry.currentMembers 7).card = 2 :=
    Trace.exists_of_execute worldStep_of_execCall (by decide +kernel)
  exact ⟨before, w, w₁, htrace, hlabels, hclass, hmax, toOption_eq_some.mp hcreate, hcreated⟩

/-- The creator removes the only member, and the registrar lets another one join. -/
def memberReplaced : List (Option (Env × Msg)) :=
  [some (⟨3, 11⟩, .registry (.leaveSwarm 7 9)),
    some (⟨2, 12⟩, .registry (.joinSwarm 7 (agentMember 10)))]

theorem swarm_policy_sample : ∃ before w w₁ steps w',
    Trace (WorldStep (call sampleSwarm)) sampleContracts before w ∧
      SwarmFactory.createSwarm sampleSwarm ⟨3, 10⟩ 4 (intentOfClass 6) [agentMember 9] w =
        .ok ((), w₁) ∧
      Trace (WorldStep (call sampleSwarm)) w₁ steps w' ∧ steps.map (·.label) = memberReplaced ∧
      KeepsPolicy (w.contract.policyRegistry.policies 4) 7 w₁.contract.swarmRegistry ∧
      ∀ t ∈ steps, KeepsPolicy (w.contract.policyRegistry.policies 4) 7
        t.after.contract.swarmRegistry := by
  obtain ⟨before, w, htrace, -, hclass, hmax, ⟨⟨⟨⟩, w₁⟩, hcreate, ⟨steps, w'⟩, hsteps, hroom⟩⟩ :
      ∃ before w, Trace (WorldStep (call sampleSwarm)) sampleContracts before w ∧
        before.map (·.label) = networkSetup ∧
        (w.contract.policyRegistry.policies 4).swarmClass = 6 ∧
        (w.contract.policyRegistry.policies 4).maxMembers = 1 ∧
        ∃ c ∈ (SwarmFactory.createSwarm sampleSwarm ⟨3, 10⟩ 4 (intentOfClass 6) [agentMember 9]
            w).toOption,
          ∃ j ∈ Trace.execute (execCall (call sampleSwarm)) memberReplaced c.2,
            ∀ t ∈ j.1, (∀ c ∈ t.label, ¬ JoinsSwarm 7 c.2) ∨
              (t.before.contract.swarmRegistry.currentMembers 7).card < 1 :=
    Trace.exists_of_execute worldStep_of_execCall (by decide +kernel)
  obtain ⟨htrace', hlabels⟩ := Trace.of_execute worldStep_of_execCall hsteps
  have hcreate' := toOption_eq_some.mp hcreate
  have hdeployed : sampleContracts.contract.swarmRegistry = .deployed 1 := rfl
  refine ⟨before, w, w₁, steps, w', htrace, hcreate', htrace', hlabels,
    (swarm_policy_iff hdeployed htrace rfl hcreate' htrace').mpr ⟨⟨hclass.symm, fun _ => ?_⟩,
      fun t ht c hc hjoin _ => ?_⟩⟩
  · rw [hmax]
    rfl
  · rw [hmax]
    rcases hroom t ht with hno | hlt
    · exact absurd hjoin (hno c hc)
    · exact hlt

end SwarmNetwork

end FlowMemory.AgentNetwork
