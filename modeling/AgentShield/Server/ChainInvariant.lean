import AgentShield.Lib.HashChain
import AgentShield.Server.Effects

/-!
# The chain of an agent

In every state that a run of the ingest service reaches, under any interleaving
and any faults, the rows of each agent form one linked log.  Only `accept`
changes the table, and there the row names a row of its agent under a number
that the unique constraint has shown to be free, so that it extends the log at
its end.
-/

namespace AgentShield.Server

open AgentShield.Lib AgentShield.Lib.Async AgentShield.Sdk

/-- The rows of one agent, as a linked log. -/
def ChainLinked (db : Database) (agentId : String) : Prop :=
  HashChain.Linked OperationRow.seqNo OperationRow.prevChainHash OperationRow.chainHash
    genesisChainHash (db.chainOf agentId)

/-- A row's chain hash is the hash of its own columns. -/
def ChainHashed (prim : Primitives) (row : OperationRow) : Prop :=
  row.chainHash =
    prim.computeChainHash row.prevChainHash row.payloadHash row.operationId row.issuedAt

/-- The state of the chains of all agents. -/
structure Chained (prim : Primitives) (db : Database) : Prop where
  linked : ∀ agentId, ChainLinked db agentId
  hashed : ∀ row ∈ db.operations, ChainHashed prim row

section Accept

variable {settings : Settings} {C : World → World → Prop} {w : World} {row : OperationRow}
  {receipt : Option ReceiptRow}

theorem Evidence.chainHashed (h : Evidence settings C w row receipt) :
    ChainHashed settings.prim row := by
  cases h with
  | submitted => rfl
  | governed => rfl

/-- The row of an accepted record extends the chain of its agent. -/
theorem Accepts.linked (h : Accepts settings C w row receipt)
    (hLinked : ChainLinked w.db row.agentId) :
    HashChain.Linked OperationRow.seqNo OperationRow.prevChainHash OperationRow.chainHash
      genesisChainHash (w.db.chainOf row.agentId ++ [row]) := by
  refine HashChain.Linked.extend hLinked ?_ ?_
  · intro p hp hSeq
    obtain ⟨hMem, hAgent⟩ := Database.mem_chainOf.1 hp
    exact h.freshSeq p hMem ⟨hAgent, hSeq⟩
  · rcases h.extend with hFirst | ⟨p, hp, hAgent, hSeq, hHash⟩
    · exact .inl hFirst
    · exact .inr ⟨p, Database.mem_chainOf.2 ⟨hp, hAgent⟩, hSeq, hHash⟩

/-- The chain of an agent after one more row. -/
theorem chainOf_append (db : Database) (row : OperationRow) (agentId : String)
    {receipts : List ReceiptRow} {verdicts : List GovernanceVerdictRow}
    {log : List InterventionRow} :
    Database.chainOf { db with
      operations := db.operations ++ [row]
      receipts := receipts
      governanceVerdicts := verdicts
      interventionLog := log } agentId =
      if row.agentId = agentId then db.chainOf agentId ++ [row] else db.chainOf agentId := by
  by_cases hAgent : row.agentId = agentId
  · simp [Database.chainOf, List.filter_append, hAgent]
  · simp [Database.chainOf, List.filter_append, hAgent]

end Accept

/-- **One step** keeps every chain linked and hashed.  The row that is accepted extends the
chain of its agent, and the chains of other agents are left as they are. -/
theorem Effect.chained {settings : Settings} {C : World → World → Prop} {w w' : World}
    (h : Effect settings C w w') (hw : Chained settings.prim w.db) :
    Chained settings.prim w'.db := by
  cases h with
  | accept accepts verdicts log =>
      rename_i row receipt
      constructor
      · intro agentId
        unfold ChainLinked
        rw [chainOf_append]
        split
        · rename_i hAgent
          subst hAgent
          exact accepts.linked (hw.linked row.agentId)
        · exact hw.linked agentId
      · intro r hr
        rcases List.mem_append.1 hr with hr | hr
        · exact hw.hashed r hr
        · obtain rfl : r = row := List.mem_singleton.1 hr
          exact accepts.evidence.chainHashed
  | rest => exact hw
  | tick => exact hw
  | reserve => exact hw
  | store => exact hw
  | hint => exact hw
  | channel => exact hw

theorem chained_initial (prim : Primitives) (now : Int) (agents : List Agent)
    (agentKeys : List AgentKey) : Chained prim (World.initial now agents agentKeys).db where
  linked _ := trivial
  hashed row hr := by simp [World.initial] at hr

/-- **Run lemma.** Every reachable state has linked and hashed chains. -/
theorem served_chained (settings : Settings) (now : Int) (agents : List Agent)
    (agentKeys : List AgentKey) (events : List (Event (ingestService settings))) :
    Chained settings.prim (served settings now agents agentKeys events).state.db :=
  served_inv (I := fun w => Chained settings.prim w.db)
    (fun _ _ hw hEffect => hEffect.chained hw)
    (chained_initial settings.prim now agents agentKeys) events

/-- The rows of each agent are numbered from one without gap or repeat, the
first one names the genesis hash, each later one the chain hash of the row before
it, and every chain hash is the hash of its row. -/
structure ChainInvariant (prim : Primitives) (db : Database) : Prop where
  numbered : ∀ agentId, (db.chainOf agentId).map OperationRow.seqNo =
    (List.range (db.chainOf agentId).length).map fun k : Nat => (k : Int) + 1
  first : ∀ row ∈ db.operations, row.seqNo = 1 → row.prevChainHash = genesisChainHash
  next : ∀ row ∈ db.operations, ∀ row' ∈ db.operations, row'.agentId = row.agentId →
    row'.seqNo = row.seqNo + 1 → row'.prevChainHash = row.chainHash
  hashed : ∀ row ∈ db.operations, row.chainHash =
    prim.computeChainHash row.prevChainHash row.payloadHash row.operationId row.issuedAt

theorem Chained.invariant {prim : Primitives} {db : Database} (h : Chained prim db) :
    ChainInvariant prim db where
  numbered agentId := by
    have hMap := (h.linked agentId).map_seq
    simpa using hMap
  first row hr hSeq := by
    have hMem : row ∈ db.chainOf row.agentId := Database.mem_chainOf.2 ⟨hr, rfl⟩
    exact ((h.linked row.agentId).prev_eq hMem).1 (by omega)
  next row hr row' hr' hAgent hSeq := by
    have hMem : row ∈ db.chainOf row.agentId := Database.mem_chainOf.2 ⟨hr, rfl⟩
    have hMem' : row' ∈ db.chainOf row.agentId := Database.mem_chainOf.2 ⟨hr', hAgent⟩
    exact ((h.linked row.agentId).prev_eq hMem').2 row hMem hSeq
  hashed := h.hashed

/-- **Chain invariant.**  In every state of every run of the ingest routes, for any agents and
keys at the start, every agent's rows form one chain: sequence numbers from one without a gap,
each row naming the chain hash of the one before. -/
theorem ingest_chain_invariant (settings : Settings) (now : Int) (agents : List Agent)
    (agentKeys : List AgentKey) (events : List (Event (ingestService settings))) :
    ChainInvariant settings.prim (served settings now agents agentKeys events).state.db :=
  (served_chained settings now agents agentKeys events).invariant

end AgentShield.Server
