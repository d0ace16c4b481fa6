import AgentShield.Server.Platform

/-!
# The kill switch

A frozen agent and a revoked key are refused when a submission is checked, and the
row of the submission is committed several awaits later.  A handler that has
passed its check when a freeze completes still commits its row.  When no such
handler is in flight, no row follows a completed freeze until the next unfreeze,
and none follows a completed revocation.

Both cases are one argument about a `Barrier`: a property of the agent tables that
no request in question undoes, and under which no submission of certain rows is
admitted.
-/

namespace AgentShield.Server

open AgentShield.Lib AgentShield.Lib.Async AgentShield.Sdk

/-! ## Barriers -/

/-- A property of the agent tables under which no row with an agent and key that it
covers is admitted. -/
structure Barrier where
  holds : Database → Prop
  covers : String → String → Bool
  congr : ∀ {db db' : Database}, db'.agents = db.agents → db'.agentKeys = db.agentKeys →
    holds db → holds db'
  freeze : ∀ {db : Database} (agentId : String), holds db →
    holds (db.setAgentStatus agentId .frozen)
  revoke : ∀ {db : Database} (kid : String), holds db → holds (db.revokeAgentKey kid)
  refuses : ∀ {db₁ db₂ : Database} {sub : Submission} {agent : Agent} {key : AgentKey},
    holds db₁ → holds db₂ → db₁.findAgent sub.agentId sub.orgId = some agent →
      checkAgent agent = .ok () → db₂.findAgentKey sub.agentPubkeyKid sub.agentId = some key →
      checkKey key = .ok () → covers sub.agentId sub.agentPubkeyKid = false

namespace Barrier

variable (b : Barrier)

/-- The rows that the barrier stands before. -/
def rows (db : Database) : List OperationRow :=
  db.operations.filter fun r => b.covers r.agentId r.agentPubkeyKid

/-- The step leaves the barrier up, and nothing passes it. -/
def Still (w w' : World) : Prop :=
  b.holds w.db → b.holds w'.db ∧ b.rows w'.db = b.rows w.db

/-- While the barrier is up the handler neither takes it down nor passes it. -/
def HoldsStill {α : Type} (prog : Handler α) : Prop :=
  Steps (fun w => b.holds w.db) b.Still (fun _ => True) prog

/-- The same, also for a handler that has begun before the barrier was up. -/
def HoldsAlways {α : Type} (prog : Handler α) : Prop :=
  Steps (fun _ => True) b.Still (fun _ => True) prog

variable {b}

theorem HoldsAlways.holdsStill {α : Type} {prog : Handler α} (h : b.HoldsAlways prog) :
    b.HoldsStill prog :=
  h.weaken fun _ _ => trivial

theorem still_refl (w : World) : b.Still w w := fun h => ⟨h, rfl⟩

/-- A step that leaves the rows and the agent tables alone. -/
theorem still_of_eq {w w' : World} (hAgents : w'.db.agents = w.db.agents)
    (hKeys : w'.db.agentKeys = w.db.agentKeys) (hRows : b.rows w'.db = b.rows w.db) :
    b.Still w w' :=
  fun h => ⟨b.congr hAgents hKeys h, hRows⟩

/-- An insert of a row that the barrier does not cover. -/
private theorem execute_frame {db db' : Database} {st : Statement}
    (h : db.execute st = .ok db')
    (hFree : ∀ row, st = .insertOperation row →
      b.covers row.agentId row.agentPubkeyKid = false) :
    db'.agents = db.agents ∧ db'.agentKeys = db.agentKeys ∧ b.rows db' = b.rows db := by
  cases st with
  | insertOperation row =>
      obtain ⟨-, -, rfl⟩ := Database.execute_insertOperation h
      refine ⟨rfl, rfl, ?_⟩
      simp [rows, List.filter_append, hFree row rfl]
  | insertReceipt row =>
      obtain ⟨-, rfl⟩ := Database.execute_insertReceipt h
      exact ⟨rfl, rfl, rfl⟩
  | insertGovernanceVerdict row =>
      obtain ⟨-, rfl⟩ := Database.execute_insertGovernanceVerdict h
      exact ⟨rfl, rfl, rfl⟩
  | insertInterventionLog row =>
      obtain rfl := Database.execute_insertInterventionLog h
      exact ⟨rfl, rfl, rfl⟩

private theorem transaction_frame {db db' : Database} {sts : List Statement}
    (h : db.transaction sts = .ok db')
    (hFree : ∀ row, .insertOperation row ∈ sts →
      b.covers row.agentId row.agentPubkeyKid = false) :
    db'.agents = db.agents ∧ db'.agentKeys = db.agentKeys ∧ b.rows db' = b.rows db := by
  induction sts generalizing db with
  | nil =>
      obtain rfl := Database.transaction_nil h
      exact ⟨rfl, rfl, rfl⟩
  | cons st sts ih =>
      obtain ⟨db₁, h₁, hRest⟩ := Database.transaction_cons h
      obtain ⟨hAgents, hKeys, hRows⟩ :=
        execute_frame h₁ fun row hRow => hFree row (hRow ▸ List.mem_cons_self)
      obtain ⟨hAgents', hKeys', hRows'⟩ :=
        ih hRest fun row hRow => hFree row (List.mem_cons_of_mem _ hRow)
      exact ⟨hAgents'.trans hAgents, hKeys'.trans hKeys, hRows'.trans hRows⟩

/-- A transaction that inserts no row that the barrier covers. -/
theorem still_transaction {w w' : World} {sts : List Statement}
    (h : w.transaction sts = .ok w')
    (hFree : ∀ row, .insertOperation row ∈ sts →
      b.covers row.agentId row.agentPubkeyKid = false) : b.Still w w' := by
  obtain ⟨db, hDb, rfl⟩ := World.transaction_ok h
  obtain ⟨hAgents, hKeys, hRows⟩ := transaction_frame hDb hFree
  exact still_of_eq hAgents hKeys hRows

theorem still_cache (w : World) (c : Cache) : b.Still w { w with cache := c } :=
  still_of_eq rfl rfl rfl

theorem still_put (w : World) (key : String) (body : Body) : b.Still w (w.put key body) :=
  still_of_eq rfl rfl rfl

/-! ### The handlers -/

/-- No covered submission is admitted while the barrier is up. -/
theorem admitSubmission_holdsStill (sub : Submission) :
    Steps (fun w => b.holds w.db) b.Still
      (fun _ => b.covers sub.agentId sub.agentPubkeyKid = false) (admitSubmission sub) := by
  unfold admitSubmission
  refine Steps.act_bind fun w _ => ⟨still_cache w _, ?_⟩
  refine Steps.raiseIf_bind fun _ => ?_
  refine Steps.read_bind still_refl fun w₁ hAgentUp => ?_
  refine Steps.require_bind fun agent hAgent => ?_
  refine Steps.ofExcept_bind fun _ hAgentOk => ?_
  refine Steps.read_bind still_refl fun w₂ hKeyUp => ?_
  refine Steps.require_bind fun key hKey => ?_
  refine Steps.ofExcept_bind fun _ hKeyOk => ?_
  have hFree := b.refuses hAgentUp hKeyUp hAgent hAgentOk hKey hKeyOk
  refine Steps.raiseIf_bind fun _ => ?_
  refine Steps.read_bind still_refl fun w _ => ?_
  refine Steps.raiseIf_bind fun _ => ?_
  exact Steps.pure hFree

theorem ensureGroups_holdsAlways (stream : String) (groups : List String) :
    b.HoldsAlways (ensureGroups stream groups) := by
  induction groups with
  | nil => exact Steps.pure trivial
  | cons group groups ih =>
      unfold ensureGroups
      exact Steps.write_bind (fun w _ => still_cache w _) ih

theorem fanChannel2_holdsAlways (prim : Primitives) (rec : ShieldActionRecord)
    (chainHash : String) (seqNo : Int) (verdictId : String) :
    b.HoldsAlways (fanChannel2 prim rec chainHash seqNo verdictId) := by
  unfold fanChannel2
  refine Steps.bind (ensureGroups_holdsAlways _ _) fun _ _ => ?_
  refine Steps.write_bind (fun w _ => still_cache w _) ?_
  exact Steps.write (fun w _ => still_cache w _) trivial

theorem fanVerdicts_holdsAlways (prim : Primitives) (rec : ShieldActionRecord)
    (verdict : GovernanceVerdict) : b.HoldsAlways (fanVerdicts prim rec verdict) := by
  unfold fanVerdicts
  refine Steps.bind (ensureGroups_holdsAlways _ _) fun _ _ => ?_
  exact Steps.write (fun w _ => still_cache w _) trivial

theorem ingestPrefix_holdsStill (prim : Primitives) (rec : ShieldActionRecord)
    (receivedAt : Int) (phase : Phase) :
    Steps (fun w => b.holds w.db) b.Still
      (fun _ => b.covers rec.agentId rec.agentPubkeyKid = false)
      (ingestPrefix prim rec receivedAt phase) := by
  unfold ingestPrefix
  refine Steps.ofExcept_bind fun _ _ => ?_
  refine Steps.bind (admitSubmission_holdsStill _) fun seqNo hFree => ?_
  refine Steps.write_bind (fun w _ => still_put w _ _) ?_
  exact Steps.pure hFree

theorem ingest_holdsStill (settings : Settings) (req : IngestRequest) :
    b.HoldsStill (ingest settings req) := by
  cases req with
  | submit rec receiptId =>
      refine Steps.bind (Q := fun _ => True) ?_ fun _ _ => Steps.pure trivial
      unfold submitOperation
      refine Steps.read_bind still_refl fun w _ => ?_
      refine Steps.ofExcept_bind fun _ _ => ?_
      refine Steps.bind (admitSubmission_holdsStill _) fun seqNo hFree => ?_
      refine Steps.write_bind (fun w _ => still_put w _ _) ?_
      refine Steps.write_bind (fun w _ => still_put w _ _) ?_
      refine Steps.attempt_bind still_refl
        (fun w₁ w₂ _ hTx => still_transaction hTx fun row hRow => ?_) ?_
      · obtain rfl : row = operationRow settings.prim.toFloatText
            (shieldSdkCrypto settings.prim) rec w.now seqNo := by simpa using hRow
        exact hFree
      · refine Steps.write_bind (fun w _ => still_cache w _) ?_
        exact Steps.pure trivial
  | decide rec govApp latencyMs =>
      refine Steps.bind (Q := fun _ => True) ?_ fun _ _ => Steps.pure trivial
      unfold Governance.decide
      refine Steps.read_bind still_refl fun w _ => ?_
      refine Steps.bind (ingestPrefix_holdsStill _ rec _ _) fun r hFree => ?_
      obtain ⟨chainHash, seqNo⟩ := r
      refine Steps.read_bind still_refl fun _ _ => ?_
      refine Steps.ofExcept_bind fun decided _ => ?_
      refine Steps.read_bind still_refl fun _ _ => ?_
      refine Steps.write_bind (fun w _ => still_put w _ _) ?_
      refine Steps.attempt_bind still_refl
        (fun w₁ w₂ _ hTx => still_transaction hTx fun row hRow => ?_) ?_
      · obtain rfl : row = operationsInsert settings.prim rec seqNo chainHash w.now := by
          simpa using hRow
        exact hFree
      · refine Steps.bind (fanChannel2_holdsAlways _ _ _ _ _).holdsStill fun _ _ => ?_
        refine Steps.bind (fanVerdicts_holdsAlways _ _ _).holdsStill fun _ _ => ?_
        exact Steps.pure trivial
  | record rec =>
      refine Steps.bind (Q := fun _ => True) ?_ fun _ _ => Steps.pure trivial
      unfold Governance.record
      refine Steps.read_bind still_refl fun w _ => ?_
      refine Steps.bind (ingestPrefix_holdsStill _ rec _ _) fun r hFree => ?_
      obtain ⟨chainHash, seqNo⟩ := r
      refine Steps.attempt_bind still_refl
        (fun w₁ w₂ _ hTx => still_transaction hTx fun row hRow => ?_) ?_
      · obtain rfl : row = operationsInsert settings.prim rec seqNo chainHash w.now := by
          simpa using hRow
        exact hFree
      · refine Steps.bind (fanChannel2_holdsAlways _ _ _ _ _).holdsStill fun _ _ => ?_
        exact Steps.pure trivial

/-- Activating the agent does not take the barrier down. -/
def Survives (b : Barrier) (agentId : String) : Prop :=
  ∀ db, b.holds db → b.holds (db.setAgentStatus agentId .active)

theorem requireAgent_holdsAlways (agentId orgId : String) :
    b.HoldsAlways (Agents.requireAgent agentId orgId) := by
  unfold Agents.requireAgent
  refine Steps.read_bind still_refl fun w _ => ?_
  cases w.db.findAgent agentId orgId with
  | none => exact Steps.raise _
  | some a => exact Steps.pure trivial

theorem setAgentStatus_holdsAlways (agentId : String) (status : AgentStatus) (orgId : String)
    (hUp : ∀ db, b.holds db → b.holds (db.setAgentStatus agentId status)) :
    b.HoldsAlways
      (Agents.setAgentStatus agentId status orgId) := by
  unfold Agents.setAgentStatus
  refine Steps.bind (requireAgent_holdsAlways _ _) fun _ _ => ?_
  refine Steps.write_bind (fun w _ h => ⟨hUp w.db h, rfl⟩) ?_
  exact requireAgent_holdsAlways _ _

theorem freezeAgent_holdsAlways (agentId reason orgId : String) :
    b.HoldsAlways (Routes.freezeAgent agentId reason orgId) :=
  Steps.raiseIf_bind fun _ => setAgentStatus_holdsAlways _ _ _ fun _ h => b.freeze _ h

theorem revokeKey_holdsAlways (agentId kid reason orgId : String) :
    b.HoldsAlways
      (Routes.revokeKey agentId kid reason orgId) := by
  refine Steps.raiseIf_bind fun _ => ?_
  unfold Agents.revokeKey
  refine Steps.bind (requireAgent_holdsAlways _ _) fun _ _ => ?_
  refine Steps.read_bind still_refl fun w _ => ?_
  refine Steps.require_bind fun _ _ => ?_
  exact Steps.write (fun w _ h => ⟨b.revoke kid h, rfl⟩) trivial

theorem publishAsyncVerdict_holdsAlways (prim : Primitives) (serverSigningKey : String)
    (rec : ShieldActionRecord) (verdict : GovernanceVerdict)
    (guardianEvidence : List GuardianEvidence) (latencyMs : PyFloat) :
    b.HoldsAlways
      (publishAsyncVerdict prim serverSigningKey rec verdict guardianEvidence latencyMs) := by
  have hEvidence : ∀ key items, b.HoldsAlways (storeEvidence key items) := by
    intro key items
    unfold storeEvidence
    split
    · exact Steps.pure trivial
    · exact Steps.write (fun w _ => still_put w _ _) trivial
  unfold publishAsyncVerdict
  refine Steps.read_bind still_refl fun w _ => ?_
  refine Steps.write_bind (fun w _ => still_put w _ _) ?_
  refine Steps.bind (hEvidence _ _) fun _ _ => ?_
  refine Steps.read_bind still_refl fun w _ => ?_
  refine Steps.attempt_bind still_refl
    (fun w₁ w₂ _ hTx => still_transaction hTx fun row hRow => by simp at hRow) ?_
  refine Steps.bind (fanVerdicts_holdsAlways _ _ _) fun _ _ => ?_
  exact Steps.pure trivial

theorem resume_holdsAlways (prim : Primitives) (serverSigningKey : String) (govApp : ResumeApp)
    (incidentId decision : String) (payload : Option (List (String × Json))) (orgId : String)
    (latencyMs : PyFloat) :
    b.HoldsAlways
      (resume prim serverSigningKey govApp incidentId decision payload orgId latencyMs) := by
  unfold resume
  refine Steps.raiseIf_bind fun _ => ?_
  refine Steps.read_bind still_refl fun w _ => ?_
  refine Steps.read_bind still_refl fun w _ => ?_
  refine Steps.ofExcept_bind fun decided _ => ?_
  refine Steps.read_bind still_refl fun w _ => ?_
  refine Steps.read_bind still_refl fun w _ => ?_
  refine Steps.write_bind (fun w _ => still_of_eq rfl rfl rfl) ?_
  exact Steps.pure trivial

/-- The handlers that no barrier waits for: they admit no submission and activate no
agent. -/
theorem platform_holdsAlways (settings : Settings) (r : PlatformRequest)
    (hIngest : ∀ req, r ≠ .ingest req)
    (hUnfreeze : ∀ agentId reason orgId, r ≠ .unfreeze agentId reason orgId) :
    b.HoldsAlways (platform settings r) := by
  have hMap : ∀ {α : Type} {prog : Handler α} (f : α → PlatformResponse),
      b.HoldsAlways prog → b.HoldsAlways (do let a ← prog; return f a) :=
    fun _ h => Steps.bind h fun _ _ => Steps.pure trivial
  cases r with
  | ingest req => exact absurd rfl (hIngest req)
  | publish rec verdict guardianEvidence latencyMs =>
      exact hMap _ (publishAsyncVerdict_holdsAlways _ _ rec verdict guardianEvidence latencyMs)
  | resume govApp incidentId decision payload orgId latencyMs =>
      exact hMap _
        (resume_holdsAlways _ _ govApp incidentId decision payload orgId latencyMs)
  | freeze agentId reason orgId => exact hMap _ (freezeAgent_holdsAlways _ _ _)
  | unfreeze agentId reason orgId => exact absurd rfl (hUnfreeze agentId reason orgId)
  | revoke agentId kid reason orgId => exact hMap _ (revokeKey_holdsAlways _ _ _ _)

/-- **A handler that starts behind the barrier stays there**, unless it takes the
barrier down. -/
theorem platform_holdsStill (settings : Settings) (r : PlatformRequest)
    (hUnfreeze : ∀ agentId reason orgId, r = .unfreeze agentId reason orgId →
      b.Survives agentId) :
    b.HoldsStill (platform settings r) := by
  by_cases hIngest : ∃ req, r = .ingest req
  · obtain ⟨req, rfl⟩ := hIngest
    exact Steps.bind (ingest_holdsStill settings req) fun _ _ => Steps.pure trivial
  by_cases hActivates : ∃ agentId reason orgId, r = .unfreeze agentId reason orgId
  · obtain ⟨agentId, reason, orgId, rfl⟩ := hActivates
    have hSurvives := hUnfreeze agentId reason orgId rfl
    have hRoute : b.HoldsAlways (Routes.unfreezeAgent agentId reason orgId) :=
      Steps.raiseIf_bind fun _ => setAgentStatus_holdsAlways _ _ _ hSurvives
    exact Steps.bind hRoute.holdsStill fun _ _ => Steps.pure trivial
  have hAlways : b.HoldsAlways (platform settings r) :=
    platform_holdsAlways settings r (fun req h => hIngest ⟨req, h⟩)
      fun agentId reason orgId h => hActivates ⟨agentId, reason, orgId, h⟩
  exact hAlways.holdsStill

/-- **Runs behind a barrier.** -/
theorem run_rows {settings : Settings} {p : Pool (platformService settings)}
    (hUp : b.holds p.state.db) (hThreads : ∀ t ∈ p.threads, b.HoldsStill t.2)
    (later : List (Event (platformService settings)))
    (hLater : ∀ agentId reason orgId,
      .request (PlatformRequest.unfreeze agentId reason orgId) ∈ later → b.Survives agentId) :
    b.rows (p.run later).state.db = b.rows p.state.db := by
  have hReqs : ∀ r, .request r ∈ later → b.HoldsStill (platform settings r) := by
    intro r hr
    refine platform_holdsStill settings r ?_
    rintro agentId reason orgId rfl
    exact hLater agentId reason orgId hr
  have hSteps := (Pool.run_steps still_refl (fun ms w _ => still_of_eq rfl rfl rfl)
    (fun _ _ hHolds hStill => (hStill hHolds).1) later hReqs hThreads hUp).1
  have hKept : ∀ {w w' : World}, Relation.ReflTransGen b.Still w w' → b.holds w.db →
      b.holds w'.db ∧ b.rows w'.db = b.rows w.db := by
    intro w w' hSteps hHolds
    induction hSteps with
    | refl => exact ⟨hHolds, rfl⟩
    | tail _ hStill ih =>
        obtain ⟨hMid, hRows⟩ := ih
        obtain ⟨hEnd, hRows'⟩ := hStill hMid
        exact ⟨hEnd, hRows'.trans hRows⟩
  exact (hKept hSteps hUp).2

end Barrier

/-! ## Frozen agents and revoked keys -/

theorem checkAgent_ok {agent : Agent} (h : checkAgent agent = .ok ()) :
    agent.status = .active := by
  unfold checkAgent at h
  rw [refuseIf_bind_ok, refuseIf_ok] at h
  cases hStatus : agent.status with
  | active => rfl
  | frozen => exact absurd hStatus h.1
  | revoked => exact absurd hStatus h.2

theorem checkKey_ok {key : AgentKey} (h : checkKey key = .ok ()) : key.status = .active := by
  unfold checkKey at h
  rw [refuseIf_bind_ok, refuseIf_ok] at h
  cases hStatus : key.status with
  | active => rfl
  | retired => exact absurd hStatus h.2
  | revoked => exact absurd hStatus h.1

/-- The agent is not active. -/
def Database.AgentStopped (db : Database) (agentId : String) : Prop :=
  ∀ a ∈ db.agents, a.agentId = agentId → a.status ≠ .active

/-- The key is revoked. -/
def Database.KeyRevoked (db : Database) (kid : String) : Prop :=
  ∀ k ∈ db.agentKeys, k.kid = kid → k.status = .revoked

/-- A stopped agent stands before its rows. -/
def agentBarrier (agentId : String) : Barrier where
  holds db := db.AgentStopped agentId
  covers agentId' _ := agentId' = agentId
  congr hAgents _ h := by
    unfold Database.AgentStopped
    rw [hAgents]
    exact h
  freeze agentId' h := by
    intro a ha hId
    obtain ⟨a₀, ha₀, rfl⟩ := List.mem_map.1 ha
    by_cases hSame : a₀.agentId = agentId'
    · simp [hSame]
    · rw [if_neg hSame] at hId ⊢
      exact h a₀ ha₀ hId
  revoke _ h := h
  refuses {db₁ _ sub agent _} hStopped _ hAgent hAgentOk _ _ := by
    have hNames := List.find?_some hAgent
    simp only [decide_eq_true_eq] at hNames
    have hActive := checkAgent_ok hAgentOk
    simp only [decide_eq_false_iff_not]
    intro hSame
    exact hStopped agent (List.mem_of_find?_eq_some hAgent) (hNames.1.trans hSame) hActive

/-- A revoked key stands before the rows signed under it. -/
def keyBarrier (kid : String) : Barrier where
  holds db := db.KeyRevoked kid
  covers _ kid' := kid' = kid
  congr _ hKeys h := by
    unfold Database.KeyRevoked
    rw [hKeys]
    exact h
  freeze _ h := h
  revoke kid' h := by
    intro k hk hId
    obtain ⟨k₀, hk₀, rfl⟩ := List.mem_map.1 hk
    by_cases hSame : k₀.kid = kid'
    · simp [hSame]
    · rw [if_neg hSame] at hId ⊢
      exact h k₀ hk₀ hId
  refuses {_ db₂ sub _ key} _ hRevoked _ _ hKey hKeyOk := by
    have hNames := List.find?_some hKey
    simp only [decide_eq_true_eq] at hNames
    have hActive := checkKey_ok hKeyOk
    simp only [decide_eq_false_iff_not]
    intro hSame
    have hStatus := hRevoked key (List.mem_of_find?_eq_some hKey) (hNames.1.trans hSame)
    rw [hActive] at hStatus
    cases hStatus

/-! ## Runs -/

section Runs

variable {settings : Settings}

/-- Where a freeze completes, the agent is stopped, and no handler in flight would
activate it or commit a row of it while it is.  Where a revocation completes, no
handler in flight would commit a row under the key after it. -/
structure Undisturbed (p : Pool (platformService settings))
    (e : Event (platformService settings)) : Prop where
  freeze : ∀ agentId reason orgId, p.Completes e (PlatformRequest.freeze agentId reason orgId) →
    p.state.db.AgentStopped agentId ∧
      ∀ t ∈ p.threads, (agentBarrier agentId).HoldsStill t.2
  revoke : ∀ agentId kid reason orgId,
    p.Completes e (PlatformRequest.revoke agentId kid reason orgId) →
      ∀ t ∈ p.threads, (keyBarrier kid).HoldsStill t.2

/-- A request that neither admits a submission nor activates an agent. -/
def PlatformRequest.isBystander : PlatformRequest → Bool
  | .ingest _ | .unfreeze .. => false
  | _ => true

/-- An event with which no handler ends is undisturbed. -/
theorem undisturbed_of_unfinished {p : Pool (platformService settings)}
    {e : Event (platformService settings)}
    (h : ∀ i, e = .resume i .none → (p.step e).ended i = false) : Undisturbed p e := by
  have hNot : ∀ r, ¬ p.Completes e r := by
    intro r hDone
    obtain ⟨i, hEvent, hEnded⟩ := hDone.ended
    rw [h i hEvent] at hEnded
    cases hEnded
  exact ⟨fun _ _ _ hDone => absurd hDone (hNot _), fun _ _ _ _ hDone => absurd hDone (hNot _)⟩

/-- An event is undisturbed when no submission and no unfreeze is in flight, and the
freeze that completes with it, if any, has stopped its agent. -/
theorem undisturbed_of_bystanders {now : Int} {agents : List Agent} {agentKeys : List AgentKey}
    {events : List (Event (platformService settings))} {e : Event (platformService settings)}
    (hQuiet : ∀ t ∈ (platformRun settings now agents agentKeys events).threads,
      t.1.isBystander = true ∨ t.2.succeeded = true)
    (hStopped : ∀ t ∈ (platformRun settings now agents agentKeys events).threads,
      ∀ agentId reason orgId, t.1 = PlatformRequest.freeze agentId reason orgId →
        (platformRun settings now agents agentKeys events).state.db.AgentStopped agentId) :
    Undisturbed (platformRun settings now agents agentKeys events) e := by
  have hThreads : ∀ b : Barrier, ∀ t ∈ (platformRun settings now agents agentKeys events).threads,
      b.HoldsStill t.2 := by
    intro b t ht
    have hBystander : t.1.isBystander = true → b.HoldsAlways t.2 :=
      platformRun_threads (T := fun r prog => r.isBystander = true → b.HoldsAlways prog)
        (fun _ _ _ w h hReq => (h hReq w trivial).2)
        (fun _ res _ => by cases res <;> trivial)
        (fun r hReq => Barrier.platform_holdsAlways settings r
          (fun req h => by rw [h] at hReq; cases hReq)
          (fun agentId reason orgId h => by rw [h] at hReq; cases hReq)) t ht
    rcases hQuiet t ht with hReq | hDone
    · exact (hBystander hReq).holdsStill
    · unfold succeeded at hDone
      split at hDone
      · rename_i hEnd
        rw [hEnd]
        trivial
      · cases hDone
  constructor
  · rintro agentId reason orgId ⟨i, upd, k, -, hi, -⟩
    exact ⟨hStopped _ (List.mem_of_getElem? hi) agentId reason orgId rfl,
      hThreads (agentBarrier agentId)⟩
  · intro agentId kid reason orgId _
    exact hThreads (keyBarrier kid)

/-- The rows signed under a key. -/
def Database.rowsUnder (db : Database) (kid : String) : List OperationRow :=
  db.operations.filter fun r => r.agentPubkeyKid = kid

/-- After a freeze that completes undisturbed the agent gets no row until the next unfreeze:
whoever is admitted from then on finds it frozen, and nobody was past that check before. -/
theorem freeze_stops {p : Pool (platformService settings)} {e : Event (platformService settings)}
    (h : Undisturbed p e) {agentId reason orgId : String}
    (hDone : p.Completes e (PlatformRequest.freeze agentId reason orgId))
    (later : List (Event (platformService settings)))
    (hLater : ∀ reason' orgId',
      .request (PlatformRequest.unfreeze agentId reason' orgId') ∉ later) :
    ((p.step e).run later).state.db.chainOf agentId = (p.step e).state.db.chainOf agentId := by
  obtain ⟨hStopped, hThreads⟩ := h.freeze agentId reason orgId hDone
  have hOthers : ∀ agentId' reason' orgId',
      .request (PlatformRequest.unfreeze agentId' reason' orgId') ∈ e :: later →
        (agentBarrier agentId).Survives agentId' := by
    intro agentId' reason' orgId' hMem db hHolds a ha hId
    obtain ⟨a₀, ha₀, rfl⟩ := List.mem_map.1 ha
    by_cases hSame : a₀.agentId = agentId'
    · rw [if_pos hSame] at hId
      obtain rfl : agentId' = agentId := hSame.symm.trans hId
      rcases List.mem_cons.1 hMem with hEvent | hMem
      · obtain ⟨i, upd, k, rfl, -⟩ := hDone
        cases hEvent
      · exact absurd hMem (hLater reason' orgId')
    · rw [if_neg hSame] at hId ⊢
      exact hHolds a₀ ha₀ hId
  have hAll := (agentBarrier agentId).run_rows hStopped hThreads (e :: later) hOthers
  have hOne := (agentBarrier agentId).run_rows hStopped hThreads [e]
    fun agentId' reason' orgId' hMem =>
      hOthers agentId' reason' orgId' (List.mem_cons.2 (.inl (List.mem_singleton.1 hMem)))
  exact hAll.trans hOne.symm

/-- A revocation ends with the key revoked. -/
theorem revokeKey_establishes (agentId kid reason orgId : String) :
    Establishes (fun w : World => w.db.KeyRevoked kid)
      (Routes.revokeKey agentId kid reason orgId) := by
  have hRevoked : ∀ w : World, (w.revokeAgentKey kid).db.KeyRevoked kid := by
    intro w k hk hId
    obtain ⟨k₀, -, rfl⟩ := List.mem_map.1 hk
    by_cases hSame : k₀.kid = kid
    · simp [hSame]
    · rw [if_neg hSame] at hId
      exact absurd hId hSame
  unfold Routes.revokeKey raiseIf
  split
  · trivial
  · show Establishes _ (Agents.revokeKey agentId kid orgId)
    unfold Agents.revokeKey Agents.requireAgent
    simp only [bind_assoc']
    refine Establishes.read_require_bind (fun _ _ hEnd => by cases hEnd) fun _ => ?_
    refine Establishes.read_require_bind (fun _ _ hEnd => by cases hEnd) fun _ => ?_
    intro w
    exact ⟨fun _ _ => hRevoked w, trivial⟩

/-- After a revocation that completes undisturbed no row is committed under the
key. -/
theorem revoke_stops {p : Pool (platformService settings)} {e : Event (platformService settings)}
    (h : Undisturbed p e) {agentId kid reason orgId : String}
    (hDone : p.Completes e (PlatformRequest.revoke agentId kid reason orgId))
    (hThread : ∀ t ∈ p.threads, t.1 = PlatformRequest.revoke agentId kid reason orgId →
      Establishes (fun w : World => w.db.KeyRevoked kid) t.2)
    (later : List (Event (platformService settings))) :
    ((p.step e).run later).state.db.rowsUnder kid = (p.step e).state.db.rowsUnder kid := by
  obtain ⟨upd, k, a, hMem, hEnd, hState, hLeft⟩ := hDone.step
  have hRevoked : (p.step e).state.db.KeyRevoked kid := by
    rw [hState]
    exact ((hThread _ hMem rfl) p.state).1 a hEnd
  have hThreads : ∀ t ∈ (p.step e).threads, (keyBarrier kid).HoldsStill t.2 := by
    intro t ht
    rcases hLeft t ht with ht | hDone'
    · exact h.revoke agentId kid reason orgId hDone t ht
    · rw [hDone']
      trivial
  exact Barrier.run_rows (b := keyBarrier kid) hRevoked hThreads later
    fun _ _ _ _ _ hHolds => hHolds

end Runs

/-- **The kill switch.**  In a run whose events are undisturbed, nothing follows a
completed freeze before the next unfreeze, and nothing follows a completed
revocation. -/
theorem kill_switch (settings : Settings) (now : Int) (agents : List Agent)
    (agentKeys : List AgentKey) (events later : List (Event (platformService settings)))
    (e : Event (platformService settings))
    (hRun : (Pool.start (World.initial now agents agentKeys)).Along Undisturbed
      (events ++ e :: later)) :
    (∀ agentId reason orgId,
      (platformRun settings now agents agentKeys events).Completes e
        (PlatformRequest.freeze agentId reason orgId) →
      (∀ reason' orgId',
        .request (PlatformRequest.unfreeze agentId reason' orgId') ∉ later) →
      (platformRun settings now agents agentKeys (events ++ e :: later)).state.db.chainOf agentId =
        (platformRun settings now agents agentKeys (events ++ [e])).state.db.chainOf agentId) ∧
    ∀ agentId kid reason orgId,
      (platformRun settings now agents agentKeys events).Completes e
        (PlatformRequest.revoke agentId kid reason orgId) →
      (platformRun settings now agents agentKeys (events ++ e :: later)).state.db.rowsUnder kid =
        (platformRun settings now agents agentKeys (events ++ [e])).state.db.rowsUnder kid := by
  have hUndisturbed : Undisturbed (platformRun settings now agents agentKeys events) e :=
    (Pool.along_append.1 hRun).2.1
  have hSplit : ∀ es, platformRun settings now agents agentKeys (events ++ e :: es) =
      ((platformRun settings now agents agentKeys events).step e).run es := fun es =>
    Pool.run_append _ events (e :: es)
  rw [hSplit later, hSplit []]
  constructor
  · intro agentId reason orgId hDone hLater
    exact freeze_stops hUndisturbed hDone later hLater
  · intro agentId kid reason orgId hDone
    have hThread : ∀ t ∈ (platformRun settings now agents agentKeys events).threads,
        t.1 = PlatformRequest.revoke agentId kid reason orgId →
          Establishes (fun w : World => w.db.KeyRevoked kid) t.2 :=
      platformRun_threads (T := fun r prog =>
          r = PlatformRequest.revoke agentId kid reason orgId →
            Establishes (fun w : World => w.db.KeyRevoked kid) prog)
        (fun _ _ _ w h hReq => (h hReq w).2) (fun _ _ _ => trivial)
        (fun r hReq => by
          subst hReq
          exact (revokeKey_establishes agentId kid reason orgId).map _)
    exact revoke_stops hUndisturbed hDone hThread later

/-! ## A freeze that comes too late -/

namespace Sample

/-- One handler runs for some steps. -/
def steps (i n : Nat) : List (Event (platformService settings)) :=
  List.replicate n (.resume i .none)

def submission : PlatformRequest :=
  .ingest (.submit (operation "op1" "n" 1000 genesisChainHash) "r1")

def freeze : PlatformRequest := .freeze "a" "incident" "o"

/-- The submission has passed its checks when the agent is frozen. -/
def beforeFreeze : List (Event (platformService settings)) :=
  .request submission :: steps 0 5 ++ .request freeze :: steps 1 2

/-- The runs of the platform from the small server. -/
def ran (events : List (Event (platformService settings))) : Pool (platformService settings) :=
  platformRun settings 1000 agents agentKeys events

/-- The rows of the agent after a run. -/
def chain (events : List (Event (platformService settings))) : List OperationRow :=
  (ran events).state.db.chainOf "a"

end Sample

/-- The submission commits its row after the freeze. -/
theorem frozen_agent_commits :
    (Sample.ran Sample.beforeFreeze).Completes (.resume 1 .none) Sample.freeze ∧
      (∀ reason orgId,
        (.request (PlatformRequest.unfreeze "a" reason orgId) :
          Event (platformService Sample.settings)) ∉ Sample.steps 0 4) ∧
      Sample.chain (Sample.beforeFreeze ++ .resume 1 .none :: Sample.steps 0 4) ≠
        Sample.chain (Sample.beforeFreeze ++ [.resume 1 .none]) := by
  refine ⟨Pool.completes_of_ended rfl (by decide +kernel) (by decide +kernel),
    fun _ _ hMem => ?_, by decide +kernel⟩
  have hEvent := List.eq_of_mem_replicate hMem
  cases hEvent

namespace Sample

/-- The freeze is done when the submission comes. -/
def afterFreeze : List (Event (platformService settings)) :=
  .request submission :: steps 1 2

theorem freeze_completes :
    (ran (.request freeze :: steps 0 2)).Completes (.resume 0 .none) freeze :=
  Pool.completes_of_ended rfl (by decide +kernel) (by decide +kernel)

theorem freeze_undisturbed :
    (Pool.start (World.initial 1000 agents agentKeys)).Along Undisturbed
      ((.request freeze :: steps 0 2) ++ .resume 0 .none :: afterFreeze) := by
  have hRequest : ∀ (p : Pool (platformService settings)) r, Undisturbed p (.request r) :=
    fun p r => undisturbed_of_unfinished fun i hEvent => by cases hEvent
  have hResume : ∀ (p : Pool (platformService settings)) i,
      (p.step (.resume i .none)).ended i = false → Undisturbed p (.resume i .none) := by
    intro p i h
    refine undisturbed_of_unfinished fun j hEvent => ?_
    cases hEvent
    exact h
  have hFreeze : Undisturbed (ran (.request freeze :: steps 0 2)) (.resume 0 .none) := by
    refine undisturbed_of_bystanders (by decide +kernel) ?_
    intro t ht agentId reason orgId hReq
    obtain ⟨prog, hThreads⟩ : ∃ prog,
        (ran (.request freeze :: steps 0 2)).threads = [(freeze, prog)] := ⟨_, rfl⟩
    obtain rfl : t = (freeze, prog) := by
      have hMem : t ∈ [(freeze, prog)] := hThreads ▸ ht
      exact List.eq_of_mem_singleton hMem
    obtain rfl : agentId = "a" := by
      cases hReq
      rfl
    unfold Database.AgentStopped
    decide +kernel
  refine ⟨hRequest _ _, hResume _ _ (by decide +kernel), hResume _ _ (by decide +kernel),
    hFreeze, hRequest _ _, hResume _ _ (by decide +kernel), hResume _ _ (by decide +kernel),
    trivial⟩

end Sample

theorem kill_switch_sample :
    Sample.chain ((.request Sample.freeze :: Sample.steps 0 2) ++
        .resume 0 .none :: Sample.afterFreeze) =
      Sample.chain ((.request Sample.freeze :: Sample.steps 0 2) ++ [.resume 0 .none]) :=
  (kill_switch Sample.settings 1000 Sample.agents Sample.agentKeys _ Sample.afterFreeze _
    Sample.freeze_undisturbed).1 "a" "incident" "o" Sample.freeze_completes
    fun reason orgId hMem => by
      rcases List.mem_cons.1 hMem with hEvent | hMem
      · cases hEvent
      · cases List.eq_of_mem_replicate hMem

end AgentShield.Server
