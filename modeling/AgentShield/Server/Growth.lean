import AgentShield.Lib.Rows
import AgentShield.Server.Attribution
import AgentShield.Server.Console

/-!
# What the tables keep

Operations and verdicts are only added, but for the resolution of a verdict.  An agent can be
deleted and registered again, by another organisation and with keys that were revoked, as long
as it has no operation; from its first operation on it stays in its organisation, and its keys
stay, the revoked ones revoked (`Database.Grows`).  Ids of agents and keys are unique, and
every key and every operation has its agent (`Database.Registered`).
-/

namespace AgentShield.Server

open AgentShield.Lib AgentShield.Lib.Async AgentShield.Sdk

/-! ## Agents, keys and operations refer to each other -/

/-- The registry in order: agents and keys each under an id of their own, every key with its
agent, and every operation of an agent that is there. -/
structure Database.Registered (db : Database) : Prop where
  agents : KeyUnique Agent.agentId db.agents
  keys : KeyUnique AgentKey.kid db.agentKeys
  owned : ∀ k ∈ db.agentKeys, ∃ a ∈ db.agents, a.agentId = k.agentId
  acted : ∀ r ∈ db.operations, ∃ a ∈ db.agents, a.agentId = r.agentId

section Lookups

variable {db : Database} {kid agentId orgId : String}

/-- An agent is found exactly when a row of the organisation has its id. -/
theorem Database.findAgent_isSome :
    (db.findAgent agentId orgId).isSome ↔
      ∃ a ∈ db.agents, a.agentId = agentId ∧ a.orgId = orgId := by
  unfold Database.findAgent
  rw [List.find?_isSome]
  simp only [decide_eq_true_eq]

theorem Database.mem_of_findAgentKey {k : AgentKey} (h : db.findAgentKey kid agentId = some k) :
    k ∈ db.agentKeys ∧ k.kid = kid ∧ k.agentId = agentId := by
  have hFields := List.find?_some h
  simp only [decide_eq_true_eq] at hFields
  exact ⟨List.mem_of_find?_eq_some h, hFields⟩

/-- An agent is found under its own organisation only. -/
theorem Database.Registered.findAgent_isSome (hDb : db.Registered) {a : Agent}
    (ha : a ∈ db.agents) : (db.findAgent a.agentId orgId).isSome ↔ orgId = a.orgId := by
  rw [Database.findAgent_isSome]
  constructor
  · rintro ⟨a', ha', hId, hOrg⟩
    rw [← hOrg, hDb.agents.eq ha' ha hId]
  · rintro rfl
    exact ⟨a, ha, rfl, rfl⟩

/-- In an ordered registry a key is found under its own id. -/
theorem Database.Registered.findAgentKey_eq (hDb : db.Registered) {k : AgentKey}
    (hk : k ∈ db.agentKeys) : db.findAgentKey k.kid k.agentId = some k := by
  cases hFound : db.findAgentKey k.kid k.agentId with
  | none =>
      have hNot := List.find?_eq_none.1 hFound k hk
      simp at hNot
  | some k' =>
      obtain ⟨hk', hKid, -⟩ := Database.mem_of_findAgentKey hFound
      rw [hDb.keys.eq hk' hk hKid]

end Lookups

/-! ## Growing tables -/

/-- The row without its resolution. -/
def GovernanceVerdictRow.issued (r : GovernanceVerdictRow) : GovernanceVerdictRow :=
  { r with resolution := none, resolvedAt := none }

/-- The agent has an operation. -/
def Database.Active (db : Database) (agentId : String) : Prop :=
  ∃ r ∈ db.operations, r.agentId = agentId

instance activeDecidable (db : Database) (agentId : String) : Decidable (db.Active agentId) :=
  inferInstanceAs (Decidable (∃ r ∈ db.operations, r.agentId = agentId))

/-- The key of an agent, no longer revoked than before: its id, agent and public key stay, and
a revocation is never taken back. -/
structure AgentKey.Kept (k k' : AgentKey) : Prop where
  kid : k'.kid = k.kid
  agent : k'.agentId = k.agentId
  publicKey : k'.publicKey = k.publicKey
  revoked : k.status = .revoked → k'.status = .revoked

/-- What later tables keep of earlier ones: the operations in their order, what was issued of
each verdict, and the agents and keys that operations refer to. -/
structure Database.Grows (db db' : Database) : Prop where
  operations : db.operations <+: db'.operations
  verdicts : db.governanceVerdicts.map GovernanceVerdictRow.issued <+:
    db'.governanceVerdicts.map GovernanceVerdictRow.issued
  agents : ∀ a ∈ db.agents, db.Active a.agentId →
    ∃ a' ∈ db'.agents, a'.agentId = a.agentId ∧ a'.orgId = a.orgId
  keys : ∀ k ∈ db.agentKeys, db.Active k.agentId → ∃ k' ∈ db'.agentKeys, k.Kept k'
  gated : Gated db → Gated db'
  registered : db.Registered → db'.Registered

section Order

variable {db db' db'' : Database} {k k' k'' : AgentKey}

theorem AgentKey.kept_refl (k : AgentKey) : k.Kept k := ⟨rfl, rfl, rfl, id⟩

/-- A key that is kept twice is kept. -/
theorem AgentKey.Kept.trans (h : k.Kept k') (h' : k'.Kept k'') : k.Kept k'' where
  kid := h'.kid.trans h.kid
  agent := h'.agent.trans h.agent
  publicKey := h'.publicKey.trans h.publicKey
  revoked hStatus := h'.revoked (h.revoked hStatus)

/-- An agent that has acted has acted ever after. -/
theorem Database.Active.grow {agentId : String} (h : db.Active agentId)
    (hOperations : db.operations <+: db'.operations) : db'.Active agentId := by
  obtain ⟨r, hr, hAgent⟩ := h
  exact ⟨r, hOperations.subset hr, hAgent⟩

theorem Database.grows_refl (db : Database) : db.Grows db where
  operations := List.prefix_refl _
  verdicts := List.prefix_refl _
  agents a ha _ := ⟨a, ha, rfl, rfl⟩
  keys k hk _ := ⟨k, hk, k.kept_refl⟩
  gated := id
  registered := id

/-- Growth goes on from growth. -/
theorem Database.Grows.trans (h : db.Grows db') (h' : db'.Grows db'') : db.Grows db'' where
  operations := h.operations.trans h'.operations
  verdicts := h.verdicts.trans h'.verdicts
  agents a ha hActive := by
    obtain ⟨a', ha', hId, hOrg⟩ := h.agents a ha hActive
    have hActive' : db'.Active a'.agentId := hId ▸ hActive.grow h.operations
    obtain ⟨a'', ha'', hId', hOrg'⟩ := h'.agents a' ha' hActive'
    exact ⟨a'', ha'', hId'.trans hId, hOrg'.trans hOrg⟩
  keys k hk hActive := by
    obtain ⟨k', hk', hKept⟩ := h.keys k hk hActive
    have hActive' : db'.Active k'.agentId := hKept.agent ▸ hActive.grow h.operations
    obtain ⟨k'', hk'', hKept'⟩ := h'.keys k' hk' hActive'
    exact ⟨k'', hk'', hKept.trans hKept'⟩
  gated hGated := h'.gated (h.gated hGated)
  registered hDb := h'.registered (h.registered hDb)

end Order

/-! ## What the registry does -/

/-- An update of the registry.  Keys come with their agent and go with it; between the two
they are only revoked. -/
inductive RegistryStep : Database → Database → Prop
  | status (db : Database) (agentId : String) (status : AgentStatus) :
      RegistryStep db (db.setAgentStatus agentId status)
  | revoke (db : Database) (kid : String) : RegistryStep db (db.revokeAgentKey kid)
  | register {db db' : Database} (agent : Agent) (keys : List AgentKey)
      (h : db.registerAgent agent keys = .ok db') : RegistryStep db db'
  | delete {db db' : Database} (agentId : String) (h : db.deleteAgent agentId = .ok db') :
      RegistryStep db db'

section Registry

variable {db db' : Database}

/-- An agent that was stored had an id that nobody had. -/
theorem insertAgent_ok {agent : Agent} (h : db.insertAgent agent = .ok db') :
    (∀ a ∈ db.agents, a.agentId ≠ agent.agentId) ∧
      db' = { db with agents := db.agents ++ [agent] } := by
  unfold Database.insertAgent at h
  split at h
  · cases h
  · rename_i hFree
    cases h
    exact ⟨fun a ha hSame => hFree ⟨a, ha, hSame⟩, rfl⟩

/-- A key that was stored had an id that no key had, and an agent to belong to. -/
theorem insertAgentKey_ok {key : AgentKey} (h : db.insertAgentKey key = .ok db') :
    (∀ k ∈ db.agentKeys, k.kid ≠ key.kid) ∧ (∃ a ∈ db.agents, a.agentId = key.agentId) ∧
      db' = { db with agentKeys := db.agentKeys ++ [key] } := by
  unfold Database.insertAgentKey at h
  split at h
  · cases h
  · rename_i hFree
    split at h
    · rename_i hAgent
      cases h
      exact ⟨fun k hk hSame => hFree ⟨k, hk, hSame⟩, hAgent, rfl⟩
    · cases h

/-- Every key that is added has an id of its own and an agent. -/
theorem insertAgentKeys_ok {keys : List AgentKey} (h : db.insertAgentKeys keys = .ok db')
    (hUnique : KeyUnique AgentKey.kid db.agentKeys) :
    KeyUnique AgentKey.kid (db.agentKeys ++ keys) ∧
      ∀ k ∈ keys, ∃ a ∈ db.agents, a.agentId = k.agentId := by
  induction keys generalizing db with
  | nil =>
      rw [List.append_nil]
      exact ⟨hUnique, fun k hk => (List.not_mem_nil hk).elim⟩
  | cons key keys ih =>
      rw [Database.insertAgentKeys] at h
      split at h
      · rename_i db₁ hKey
        obtain ⟨hFree, hAgent, rfl⟩ := insertAgentKey_ok hKey
        have hNext : KeyUnique AgentKey.kid (db.agentKeys ++ [key]) :=
          hUnique.append (List.Sublist.refl _) (keyUnique_singleton _ _) fun k hk k' hk' => by
            rw [List.mem_singleton.1 hk']
            exact hFree k hk
        obtain ⟨hAll, hAgents⟩ := ih h hNext
        rw [List.append_assoc] at hAll
        exact ⟨hAll, List.forall_mem_cons.2 ⟨hAgent, hAgents⟩⟩
      · cases h

/-- The keys that a transaction adds stand at the end. -/
theorem insertAgentKeys_tables {keys : List AgentKey} (h : db.insertAgentKeys keys = .ok db') :
    db' = { db with agentKeys := db.agentKeys ++ keys } := by
  induction keys generalizing db with
  | nil =>
      cases h
      rw [List.append_nil]
  | cons key keys ih =>
      rw [Database.insertAgentKeys] at h
      split at h
      · rename_i db₁ hKey
        obtain ⟨-, -, rfl⟩ := insertAgentKey_ok hKey
        rw [ih h]
        simp only [List.append_assoc, List.singleton_append]
      · cases h

/-- A registration that went through stored the agent first and then its keys. -/
theorem registerAgent_ok {agent : Agent} {keys : List AgentKey}
    (h : db.registerAgent agent keys = .ok db') :
    (∀ a ∈ db.agents, a.agentId ≠ agent.agentId) ∧
      ({ db with agents := db.agents ++ [agent] } : Database).insertAgentKeys keys = .ok db' := by
  unfold Database.registerAgent at h
  split at h
  · rename_i db₁ hAgent
    obtain ⟨hFree, rfl⟩ := insertAgent_ok hAgent
    exact ⟨hFree, h⟩
  · cases h

/-- An agent that was deleted had no operations, which the foreign key would have kept it for.
-/
theorem deleteAgent_ok {agentId : String} (h : db.deleteAgent agentId = .ok db') :
    ¬ db.Active agentId ∧
      db' = { db with
        agentKeys := db.agentKeys.filter fun k => k.agentId ≠ agentId
        agents := db.agents.filter fun a => a.agentId ≠ agentId } := by
  unfold Database.deleteAgent at h
  split at h
  · cases h
  · rename_i hFree
    cases h
    exact ⟨hFree, rfl⟩

/-- Only the tables of agents and keys change. -/
theorem RegistryStep.frame (h : RegistryStep db db') :
    db'.operations = db.operations ∧ db'.governanceVerdicts = db.governanceVerdicts ∧
      db'.interventionLog = db.interventionLog := by
  cases h with
  | status => exact ⟨rfl, rfl, rfl⟩
  | revoke => exact ⟨rfl, rfl, rfl⟩
  | register agent keys h =>
      rw [insertAgentKeys_tables (registerAgent_ok h).2]
      exact ⟨rfl, rfl, rfl⟩
  | delete agentId h =>
      rw [(deleteAgent_ok h).2]
      exact ⟨rfl, rfl, rfl⟩

/-- No change of the registry takes away an agent that has acted, or moves it to another
organisation. -/
theorem RegistryStep.agents (h : RegistryStep db db') {a : Agent} (ha : a ∈ db.agents)
    (hActive : db.Active a.agentId) :
    ∃ a' ∈ db'.agents, a'.agentId = a.agentId ∧ a'.orgId = a.orgId := by
  cases h with
  | status agentId status =>
      refine ⟨_, List.mem_map_of_mem ha, ?_⟩
      by_cases hSame : a.agentId = agentId
      · rw [if_pos hSame]
        exact ⟨rfl, rfl⟩
      · rw [if_neg hSame]
        exact ⟨rfl, rfl⟩
  | revoke kid => exact ⟨a, ha, rfl, rfl⟩
  | register agent keys h =>
      rw [insertAgentKeys_tables (registerAgent_ok h).2]
      exact ⟨a, List.mem_append_left _ ha, rfl, rfl⟩
  | delete agentId h =>
      obtain ⟨hFree, rfl⟩ := deleteAgent_ok h
      have hOther : a.agentId ≠ agentId := by
        rintro rfl
        exact hFree hActive
      exact ⟨a, List.mem_filter.2 ⟨ha, decide_eq_true hOther⟩, rfl, rfl⟩

/-- No change of the registry takes away a key of an agent that has acted; it can only be
revoked. -/
theorem RegistryStep.keys (h : RegistryStep db db') {k : AgentKey} (hk : k ∈ db.agentKeys)
    (hActive : db.Active k.agentId) : ∃ k' ∈ db'.agentKeys, k.Kept k' := by
  cases h with
  | status agentId status => exact ⟨k, hk, k.kept_refl⟩
  | revoke kid =>
      refine ⟨_, List.mem_map_of_mem hk, ?_⟩
      by_cases hSame : k.kid = kid
      · rw [if_pos hSame]
        exact ⟨rfl, rfl, rfl, fun _ => rfl⟩
      · rw [if_neg hSame]
        exact k.kept_refl
  | register agent keys h =>
      rw [insertAgentKeys_tables (registerAgent_ok h).2]
      exact ⟨k, List.mem_append_left _ hk, k.kept_refl⟩
  | delete agentId h =>
      obtain ⟨hFree, rfl⟩ := deleteAgent_ok h
      have hOther : k.agentId ≠ agentId := by
        rintro rfl
        exact hFree hActive
      exact ⟨k, List.mem_filter.2 ⟨hk, decide_eq_true hOther⟩, k.kept_refl⟩

/-- The ids of agents do not change with their status, nor those of keys. -/
theorem setAgentStatus_registered (agentId : String) (status : AgentStatus)
    (hDb : db.Registered) : (db.setAgentStatus agentId status).Registered := by
  have hId : ∀ a : Agent,
      (if a.agentId = agentId then { a with status := status } else a).agentId = a.agentId := by
    intro a
    split <;> rfl
  have hIds : (db.setAgentStatus agentId status).agents.map Agent.agentId =
      db.agents.map Agent.agentId := by
    show (List.map _ db.agents).map Agent.agentId = _
    rw [List.map_map]
    exact List.map_congr_left fun a _ => hId a
  have hKeep : ∀ id, (∃ a ∈ db.agents, a.agentId = id) →
      ∃ a ∈ (db.setAgentStatus agentId status).agents, a.agentId = id := by
    rintro id ⟨a, ha, rfl⟩
    exact ⟨_, List.mem_map_of_mem ha, hId a⟩
  exact
    { agents := by
        show (List.map _ _).Nodup
        rw [hIds]
        exact hDb.agents
      keys := hDb.keys
      owned := fun k hk => hKeep _ (hDb.owned k hk)
      acted := fun r hr => hKeep _ (hDb.acted r hr) }

/-- Revoking a key leaves the registry in order. -/
theorem revokeAgentKey_registered (kid : String) (hDb : db.Registered) :
    (db.revokeAgentKey kid).Registered := by
  have hSame : ∀ k : AgentKey,
      k.Kept (if k.kid = kid then { k with status := .revoked } else k) := by
    intro k
    split
    · exact ⟨rfl, rfl, rfl, fun _ => rfl⟩
    · exact k.kept_refl
  have hKids : (db.revokeAgentKey kid).agentKeys.map AgentKey.kid =
      db.agentKeys.map AgentKey.kid := by
    show (List.map _ db.agentKeys).map AgentKey.kid = _
    rw [List.map_map]
    exact List.map_congr_left fun k _ => (hSame k).kid
  exact
    { agents := hDb.agents
      keys := by
        show (List.map _ _).Nodup
        rw [hKids]
        exact hDb.keys
      owned := by
        intro k hk
        obtain ⟨k₀, hk₀, rfl⟩ := List.mem_map.1 hk
        rw [(hSame k₀).agent]
        exact hDb.owned k₀ hk₀
      acted := hDb.acted }

/-- A registration leaves the registry in order. -/
theorem registerAgent_registered {agent : Agent} {keys : List AgentKey}
    (h : db.registerAgent agent keys = .ok db') (hDb : db.Registered) : db'.Registered := by
  obtain ⟨hFree, hKeys⟩ := registerAgent_ok h
  obtain ⟨hUnique, hOwned⟩ := insertAgentKeys_ok hKeys hDb.keys
  obtain rfl := insertAgentKeys_tables hKeys
  have hKeep : ∀ id, (∃ a ∈ db.agents, a.agentId = id) →
      ∃ a ∈ db.agents ++ [agent], a.agentId = id := by
    rintro id ⟨a, ha, hId⟩
    exact ⟨a, List.mem_append_left _ ha, hId⟩
  exact
    { agents := hDb.agents.append (List.Sublist.refl _) (keyUnique_singleton _ _)
        fun a ha a' ha' => by
          rw [List.mem_singleton.1 ha']
          exact hFree a ha
      keys := hUnique
      owned := by
        intro k hk
        rcases List.mem_append.1 hk with hk | hk
        · exact hKeep _ (hDb.owned k hk)
        · exact hOwned k hk
      acted := fun r hr => hKeep _ (hDb.acted r hr) }

/-- The keys go with their agent, and operations keep it from going. -/
theorem deleteAgent_registered {agentId : String} (h : db.deleteAgent agentId = .ok db')
    (hDb : db.Registered) : db'.Registered := by
  obtain ⟨hFree, rfl⟩ := deleteAgent_ok h
  have hKeep : ∀ id, id ≠ agentId → (∃ a ∈ db.agents, a.agentId = id) →
      ∃ a ∈ db.agents.filter (fun a => a.agentId ≠ agentId), a.agentId = id := by
    rintro id hOther ⟨a, ha, rfl⟩
    exact ⟨a, List.mem_filter.2 ⟨ha, decide_eq_true hOther⟩, rfl⟩
  exact
    { agents := hDb.agents.sublist (List.filter_sublist.map _)
      keys := hDb.keys.sublist (List.filter_sublist.map _)
      owned := by
        intro k hk
        obtain ⟨hk, hOther⟩ := List.mem_filter.1 hk
        exact hKeep _ (of_decide_eq_true hOther) (hDb.owned k hk)
      acted := by
        intro r hr
        refine hKeep _ ?_ (hDb.acted r hr)
        rintro rfl
        exact hFree ⟨r, hr, rfl⟩ }

/-- Every change of the registry leaves it in order. -/
theorem RegistryStep.registered (h : RegistryStep db db') (hDb : db.Registered) :
    db'.Registered := by
  cases h with
  | status agentId status => exact setAgentStatus_registered agentId status hDb
  | revoke kid => exact revokeAgentKey_registered kid hDb
  | register agent keys h => exact registerAgent_registered h hDb
  | delete agentId h => exact deleteAgent_registered h hDb

/-- Every change of the registry is growth. -/
theorem RegistryStep.grows (h : RegistryStep db db') : db.Grows db' where
  operations := h.frame.1 ▸ List.prefix_refl _
  verdicts := h.frame.2.1 ▸ List.prefix_refl _
  agents _ ha hActive := h.agents ha hActive
  keys _ hk hActive := h.keys hk hActive
  gated hGated := hGated.sameVerdicts h.frame.2.1 h.frame.2.2 (fun _ ho => h.frame.1 ▸ ho)
    fun _ ho _ => h.frame.1 ▸ ho
  registered := h.registered

/-- A step of a handler of the registry. -/
inductive World.Registers : World → World → Prop
  | rest (w : World) : Registers w w
  | update (w : World) (db : Database) (h : RegistryStep w.db db) : Registers w { w with db := db }

theorem World.Registers.grows {w w' : World} (h : w.Registers w') : w.db.Grows w'.db := by
  cases h with
  | rest => exact w.db.grows_refl
  | update db h => exact h.grows

end Registry

/-! ## What the records do -/

section Records

variable {settings : Settings} {db db' : Database}

/-- The statements of the ingest leave the registry alone. -/
theorem execute_registry {st : Statement} (h : db.execute st = .ok db') :
    db'.agents = db.agents ∧ db'.agentKeys = db.agentKeys := by
  cases st with
  | insertOperation row =>
      rw [(Database.execute_insertOperation h).2.2]
      exact ⟨rfl, rfl⟩
  | insertReceipt row =>
      rw [(Database.execute_insertReceipt h).2]
      exact ⟨rfl, rfl⟩
  | insertGovernanceVerdict row =>
      rw [(Database.execute_insertGovernanceVerdict h).2]
      exact ⟨rfl, rfl⟩
  | insertInterventionLog row =>
      rw [Database.execute_insertInterventionLog h]
      exact ⟨rfl, rfl⟩

/-- So do their transactions. -/
theorem transaction_registry {sts : List Statement} (h : db.transaction sts = .ok db') :
    db'.agents = db.agents ∧ db'.agentKeys = db.agentKeys := by
  induction sts generalizing db with
  | nil =>
      obtain rfl := Database.transaction_nil h
      exact ⟨rfl, rfl⟩
  | cons st sts ih =>
      obtain ⟨db₁, h₁, hRest⟩ := Database.transaction_cons h
      obtain ⟨hAgents, hKeys⟩ := execute_registry h₁
      obtain ⟨hAgents', hKeys'⟩ := ih hRest
      exact ⟨hAgents'.trans hAgents, hKeys'.trans hKeys⟩

/-- A statement that goes through leaves the registry in order, since an operation needs its
agent. -/
theorem execute_registered {st : Statement} (h : db.execute st = .ok db')
    (hDb : db.Registered) : db'.Registered := by
  obtain ⟨hAgents, hKeys⟩ := execute_registry h
  have hActed : ∀ r ∈ db'.operations, ∃ a ∈ db.agents, a.agentId = r.agentId := by
    cases st with
    | insertOperation row =>
        intro r hr
        simp only [Database.execute] at h
        split at h
        · cases h
        · split at h
          · cases h
          · split at h
            · rename_i hAgent
              cases h
              rcases List.mem_append.1 hr with hr | hr
              · exact hDb.acted r hr
              · rw [List.mem_singleton.1 hr]
                exact hAgent
            · cases h
    | insertReceipt row =>
        rw [(Database.execute_insertReceipt h).2]
        exact hDb.acted
    | insertGovernanceVerdict row =>
        rw [(Database.execute_insertGovernanceVerdict h).2]
        exact hDb.acted
    | insertInterventionLog row =>
        rw [Database.execute_insertInterventionLog h]
        exact hDb.acted
  exact
    { agents := hAgents ▸ hDb.agents
      keys := hKeys ▸ hDb.keys
      owned := hAgents ▸ hKeys ▸ hDb.owned
      acted := hAgents ▸ hActed }

theorem transaction_registered {sts : List Statement} (h : db.transaction sts = .ok db')
    (hDb : db.Registered) : db'.Registered := by
  induction sts generalizing db with
  | nil =>
      obtain rfl := Database.transaction_nil h
      exact hDb
  | cons st sts ih =>
      obtain ⟨db₁, h₁, hRest⟩ := Database.transaction_cons h
      exact ih hRest (execute_registered h₁ hDb)

theorem resolveRows_issued (decision : String) (resolvedAt : Int) (incidentId : String)
    (rows : List GovernanceVerdictRow) :
    (resolveRows decision resolvedAt incidentId rows).map GovernanceVerdictRow.issued =
      rows.map GovernanceVerdictRow.issued := by
  unfold resolveRows
  rw [List.map_map]
  refine List.map_congr_left fun r _ => ?_
  show GovernanceVerdictRow.issued (if r.verdictId = incidentId then _ else r) = _
  by_cases hSame : r.verdictId = incidentId
  · rw [if_pos hSame]
    rfl
  · rw [if_neg hSame]

/-- A request only adds to the operations. -/
theorem TableStep.operations_grow (h : TableStep settings db db') :
    db.operations <+: db'.operations := by
  rcases h.operations with hSame | ⟨sts, -, hAdd⟩
  · rw [hSame]
  · rw [hAdd]
    exact List.prefix_append _ _

/-- A request adds verdicts and resolves them; what was issued of each stays. -/
theorem TableStep.issued_grow (h : TableStep settings db db') :
    db.governanceVerdicts.map GovernanceVerdictRow.issued <+:
      db'.governanceVerdicts.map GovernanceVerdictRow.issued := by
  rcases h.governanceVerdicts with hSame | ⟨sts, -, hAdd⟩ | ⟨decision, resolvedAt, id, hResolve⟩
  · rw [hSame]
  · rw [hAdd, List.map_append]
    exact List.prefix_append _ _
  · rw [hResolve, resolveRows_issued]

end Records

/-! ## One step of a request -/

section Steps

variable {settings : Settings} {req : PlatformRequest} {w w' : World}

/-- A step of a handler leaves the registry alone, or is one of its updates. -/
theorem RequestStep.registry (h : RequestStep settings req w w') :
    (w'.db.agents = w.db.agents ∧ w'.db.agentKeys = w.db.agentKeys) ∨
      RegistryStep w.db w'.db := by
  have hTransaction : ∀ {sts : List Statement}, w.transaction sts = .ok w' →
      w'.db.agents = w.db.agents ∧ w'.db.agentKeys = w.db.agentKeys := by
    intro sts hTx
    obtain ⟨db, hDb, rfl⟩ := World.transaction_ok hTx
    exact transaction_registry hDb
  cases h with
  | submit _ _ _ _ hTx => exact .inl (hTransaction hTx)
  | decide _ _ _ _ _ _ _ _ _ _ hTx => exact .inl (hTransaction hTx)
  | record _ _ _ _ _ hTx => exact .inl (hTransaction hTx)
  | publish _ _ _ _ _ _ hTx => exact .inl (hTransaction hTx)
  | setStatus _ _ agentId status => exact .inr (.status _ agentId status)
  | revokeKey _ _ kid => exact .inr (.revoke _ kid)
  | _ => exact .inl ⟨rfl, rfl⟩

/-- Every step of a request leaves the registry in order. -/
theorem RequestStep.registered (h : RequestStep settings req w w') (hDb : w.db.Registered) :
    w'.db.Registered := by
  have hTransaction : ∀ {sts : List Statement}, w.transaction sts = .ok w' →
      w'.db.Registered := by
    intro sts hTx
    obtain ⟨db, hTables, rfl⟩ := World.transaction_ok hTx
    exact transaction_registered hTables hDb
  cases h with
  | submit _ _ _ _ hTx => exact hTransaction hTx
  | decide _ _ _ _ _ _ _ _ _ _ hTx => exact hTransaction hTx
  | record _ _ _ _ _ hTx => exact hTransaction hTx
  | publish _ _ _ _ _ _ hTx => exact hTransaction hTx
  | setStatus _ _ agentId status => exact setAgentStatus_registered agentId status hDb
  | revokeKey _ _ kid => exact revokeAgentKey_registered kid hDb
  | resolve => exact ⟨hDb.agents, hDb.keys, hDb.owned, hDb.acted⟩
  | _ => exact hDb

/-- Every step of a request is growth. -/
theorem RequestStep.grows (h : RequestStep settings req w w') : w.db.Grows w'.db := by
  rcases h.registry with ⟨hAgents, hKeys⟩ | hRegistry
  · exact
      { operations := h.tableStep.operations_grow
        verdicts := h.tableStep.issued_grow
        agents := fun a ha _ => ⟨a, hAgents ▸ ha, rfl, rfl⟩
        keys := fun k hk _ => ⟨k, hKeys ▸ hk, k.kept_refl⟩
        gated := h.tableStep.gated
        registered := h.registered }
  · exact hRegistry.grows

end Steps

end AgentShield.Server
