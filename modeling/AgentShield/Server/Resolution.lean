import AgentShield.Server.Platform

/-!
# What a resume changes

A resume reads, and as its last step marks its incident as resolved.  The update names
the verdict alone: a verdict of another organisation is marked as well, one that is
no escalation, and one that was resolved before.  In a run the frame of the resumes
holds exactly when no update meets such a verdict (`resume_frame`).
-/

namespace AgentShield.Server

open AgentShield.Lib AgentShield.Lib.Async AgentShield.Sdk

/-- The last step of a resume: its update and its answer. -/
def resolution (decision : String) (resolvedAt : Int) (incidentId : String)
    (verdict : GovernanceVerdict) : Handler PlatformResponse := do
  write fun w => w.resolveVerdict decision resolvedAt incidentId
  return .verdict verdict

/-- A row as the update leaves it. -/
def GovernanceVerdictRow.resolved (decision : String) (resolvedAt : Int)
    (row : GovernanceVerdictRow) : GovernanceVerdictRow :=
  { row with resolution := some decision, resolvedAt := some resolvedAt }

/-- An escalation of the organisation that has not been resolved. -/
def GovernanceVerdictRow.IsPending (orgId : String) (row : GovernanceVerdictRow) : Prop :=
  row.orgId = orgId ∧ row.decision = Decision.escalate.value ∧ row.resolution = none

instance (orgId : String) (row : GovernanceVerdictRow) : Decidable (row.IsPending orgId) :=
  inferInstanceAs (Decidable (_ ∧ _))

/-- At most one row changes: that of the incident, a pending escalation of the
organisation. -/
def ChangesPending (orgId incidentId : String) (rows rows' : List GovernanceVerdictRow) : Prop :=
  rows' = rows ∨ ∃ before row row' after, rows = before ++ row :: after ∧
    rows' = before ++ row' :: after ∧ row.verdictId = incidentId ∧ row.IsPending orgId

section Rows

variable {rows : List GovernanceVerdictRow} {orgId incidentId decision : String}
  {resolvedAt : Int}

/-- The rows after an update. -/
def resolveRows (decision : String) (resolvedAt : Int) (incidentId : String)
    (rows : List GovernanceVerdictRow) : List GovernanceVerdictRow :=
  rows.map fun r => if r.verdictId = incidentId then r.resolved decision resolvedAt else r

theorem resolveRows_of_other (h : ∀ r ∈ rows, r.verdictId ≠ incidentId) :
    resolveRows decision resolvedAt incidentId rows = rows := by
  induction rows with
  | nil => rfl
  | cons r rows ih =>
      have hHead : r.verdictId ≠ incidentId := h r List.mem_cons_self
      have hTail := ih fun r' hr' => h r' (List.mem_cons_of_mem _ hr')
      unfold resolveRows at hTail ⊢
      rw [List.map_cons, if_neg hHead, hTail]

/-- The update changes the row of the incident only. -/
theorem resolveRows_split {before after : List GovernanceVerdictRow} {row : GovernanceVerdictRow}
    (hUnique : ((before ++ row :: after).map GovernanceVerdictRow.verdictId).Nodup)
    (hRow : row.verdictId = incidentId) :
    resolveRows decision resolvedAt incidentId (before ++ row :: after) =
      before ++ row.resolved decision resolvedAt :: after := by
  rw [List.map_append, List.map_cons] at hUnique
  have hSplit := List.nodup_append.1 hUnique
  have hBefore : ∀ r ∈ before, r.verdictId ≠ incidentId := by
    intro r hr hSame
    exact hSplit.2.2 _ (List.mem_map_of_mem hr) _ List.mem_cons_self (hSame.trans hRow.symm)
  have hAfter : ∀ r ∈ after, r.verdictId ≠ incidentId := by
    intro r hr hSame
    have hNotMem := (List.nodup_cons.1 hSplit.2.1).1
    rw [hRow, ← hSame] at hNotMem
    exact hNotMem (List.mem_map_of_mem hr)
  have hLeft : resolveRows decision resolvedAt incidentId before = before :=
    resolveRows_of_other hBefore
  have hRight : resolveRows decision resolvedAt incidentId after = after :=
    resolveRows_of_other hAfter
  unfold resolveRows at hLeft hRight ⊢
  rw [List.map_append, List.map_cons, if_pos hRow, hLeft, hRight]

/-- Whether the update meets pending escalations of the organisation only, or changes
nothing. -/
def Resolvable (orgId incidentId decision : String) (resolvedAt : Int)
    (rows : List GovernanceVerdictRow) : Prop :=
  ∀ row ∈ rows, row.verdictId = incidentId →
    row.IsPending orgId ∨ row.resolved decision resolvedAt = row

/-- **The frame of an update** in a table with unique ids. -/
theorem changesPending_iff (hUnique : (rows.map GovernanceVerdictRow.verdictId).Nodup) :
    ChangesPending orgId incidentId rows (resolveRows decision resolvedAt incidentId rows) ↔
      Resolvable orgId incidentId decision resolvedAt rows := by
  constructor
  · rintro (hSame | ⟨before, row, row', after, rfl, -, hRow, hPending⟩) r hr hId
    · have hMapped := List.map_inj_left.1 (hSame.trans (List.map_id rows).symm) r hr
      rw [if_pos hId] at hMapped
      exact .inr hMapped
    · have hMem : row ∈ before ++ row :: after := List.mem_append_right _ List.mem_cons_self
      obtain rfl := List.inj_on_of_nodup_map hUnique hr hMem (hId.trans hRow.symm)
      exact .inl hPending
  · intro h
    by_cases hMem : ∃ row ∈ rows, row.verdictId = incidentId
    · obtain ⟨row, hRow, hId⟩ := hMem
      obtain ⟨before, after, rfl⟩ := List.append_of_mem hRow
      rw [resolveRows_split hUnique hId]
      rcases h row hRow hId with hPending | hSame
      · exact .inr ⟨before, row, _, after, rfl, rfl, hId, hPending⟩
      · rw [hSame]
        exact .inl rfl
    · rw [resolveRows_of_other fun r hr hId => hMem ⟨r, hr, hId⟩]
      exact .inl rfl

end Rows

/-! ## The handlers -/

section Handlers

variable {settings : Settings}

/-- The handler of a resume only reads before its last step. -/
theorem resume_readsUntil (govApp : ResumeApp) (incidentId decision : String)
    (payload : Option (List (String × Json))) (orgId : String) (latencyMs : PyFloat) :
    ReadsUntil (fun prog => ∃ resolvedAt v, prog = resolution decision resolvedAt incidentId v)
      (platform settings (.resume govApp incidentId decision payload orgId latencyMs)) := by
  show ReadsUntil _ (resume settings.prim settings.serverSigningKey govApp incidentId decision
    payload orgId latencyMs >>= fun v => pure (PlatformResponse.verdict v))
  refine ReadsUntil.bind (T := fun prog => ∃ resolvedAt v, prog = do
    write fun w => w.resolveVerdict decision resolvedAt incidentId
    return v) ?_ ?_ fun v =>
      .ended (.ok (PlatformResponse.verdict v))
  · unfold resume
    refine ReadsUntil.raiseIf_bind ?_
    refine ReadsUntil.read_bind fun row => ?_
    refine ReadsUntil.read_bind fun answer => ?_
    refine ReadsUntil.ofExcept_bind fun decided => ?_
    refine ReadsUntil.read_bind fun servedAt => ?_
    refine ReadsUntil.read_bind fun resolvedAt => ?_
    exact .last ⟨resolvedAt, _, rfl⟩
  · rintro prog ⟨resolvedAt, v, rfl⟩
    exact ⟨resolvedAt, v, rfl⟩

/-- What is known about the handler of a request in the middle of its run. -/
def FrameThread (settings : Settings) (req : PlatformRequest) (prog : Handler PlatformResponse) :
    Prop :=
  match req with
  | .resume _ incidentId decision _ _ _ =>
      ReadsUntil (fun prog => ∃ resolvedAt v, prog = resolution decision resolvedAt incidentId v)
        prog
  | req => Requested settings req prog

theorem frameThread_start (req : PlatformRequest) :
    FrameThread settings req (platform settings req) := by
  cases req with
  | resume govApp incidentId decision payload orgId latencyMs =>
      exact resume_readsUntil govApp incidentId decision payload orgId latencyMs
  | _ => exact platform_requestSteps _

theorem frameThread_next (req : PlatformRequest) (upd : World → World)
    (k : World → Handler PlatformResponse) (w : World)
    (h : FrameThread settings req (.await upd k)) : FrameThread settings req (k w) := by
  cases req with
  | resume govApp incidentId decision payload orgId latencyMs =>
      change ReadsUntil _ _ at h
      show ReadsUntil _ _
      generalize hProg : Async.await upd k = prog at h
      cases h with
      | ended r => cases hProg
      | last h =>
          obtain ⟨resolvedAt, v, rfl⟩ := h
          cases hProg
          exact .ended _
      | reads _ hNext =>
          cases hProg
          exact hNext w
  | _ => exact (h w trivial).2

theorem frameThread_done (req : PlatformRequest) (res : Except Failure PlatformResponse) :
    FrameThread settings req (.done res) := by
  cases req with
  | resume => exact .ended res
  | _ => cases res <;> trivial

/-- A handler that is no resume only adds verdicts. -/
theorem RequestStep.verdicts {req : PlatformRequest} {w w' : World}
    (h : RequestStep settings req w w')
    (hOther : ∀ govApp incidentId decision payload orgId latencyMs,
      req ≠ .resume govApp incidentId decision payload orgId latencyMs) :
    ∃ rows, w'.db.governanceVerdicts = w.db.governanceVerdicts ++ rows := by
  have hTransaction : ∀ {sts : List Statement}, w.transaction sts = .ok w' →
      ∃ rows, w'.db.governanceVerdicts = w.db.governanceVerdicts ++ rows := by
    intro sts hTx
    obtain ⟨db, hDb, rfl⟩ := World.transaction_ok hTx
    exact ⟨_, (Database.transaction_governanceVerdicts hDb).1⟩
  cases h with
  | submit _ _ _ _ hTx => exact hTransaction hTx
  | decide _ _ _ _ _ _ _ _ _ _ hTx => exact hTransaction hTx
  | record _ _ _ _ _ hTx => exact hTransaction hTx
  | publish _ _ _ _ _ _ hTx => exact hTransaction hTx
  | resolve => exact absurd rfl (hOther _ _ _ _ _ _)
  | _ => exact ⟨[], (List.append_nil _).symm⟩

/-- The ids of the verdicts stay unique, by the primary key, and a resolution changes none of
them. -/
theorem uniqueVerdicts_step {w w' : World} (h : PlatformStep settings w w')
    (hUnique : (w.db.governanceVerdicts.map GovernanceVerdictRow.verdictId).Nodup) :
    (w'.db.governanceVerdicts.map GovernanceVerdictRow.verdictId).Nodup := by
  cases h with
  | tick => exact hUnique
  | handler h =>
      have hTransaction : ∀ {sts : List Statement}, w.transaction sts = .ok w' →
          (w'.db.governanceVerdicts.map GovernanceVerdictRow.verdictId).Nodup := by
        intro sts hTx
        obtain ⟨db, hDb, rfl⟩ := World.transaction_ok hTx
        exact (Database.transaction_governanceVerdicts hDb).2 hUnique
      cases h with
      | submit _ _ _ _ hTx => exact hTransaction hTx
      | decide _ _ _ _ _ _ _ _ hTx => exact hTransaction hTx
      | record _ _ _ _ _ _ hTx => exact hTransaction hTx
      | publish _ hTx => exact hTransaction hTx
      | resolve decision resolvedAt incidentId =>
          have hIds : ∀ r : GovernanceVerdictRow, (if r.verdictId = incidentId then
              r.resolved decision resolvedAt else r).verdictId = r.verdictId := by
            intro r
            split <;> rfl
          show ((resolveRows decision resolvedAt incidentId _).map _).Nodup
          unfold resolveRows
          rw [List.map_map]
          have hSame : GovernanceVerdictRow.verdictId ∘ (fun r =>
              if r.verdictId = incidentId then r.resolved decision resolvedAt else r) =
                GovernanceVerdictRow.verdictId := funext hIds
          rwa [hSame]
      | _ => exact hUnique

end Handlers

/-! ## Runs -/

section Runs

variable {settings : Settings}

/-- The verdicts of a running server. -/
abbrev verdictsOf (p : Pool (platformService settings)) : List GovernanceVerdictRow :=
  p.state.db.governanceVerdicts

/-- The event is the next step of the `i`th handler, a resume of the incident by the
organisation. -/
def ResumedBy (p : Pool (platformService settings)) (e : Event (platformService settings))
    (i : Nat) (orgId incidentId : String) : Prop :=
  ∃ f govApp decision payload latencyMs prog, e = .resume i f ∧
    p.threads[i]? = some (.resume govApp incidentId decision payload orgId latencyMs, prog)

/-- The frame of the resumes at an event: a resume changes pending verdicts of its own
incident only, ends with that change, and never changes a verdict that is resolved. -/
structure Framed (p : Pool (platformService settings)) (e : Event (platformService settings)) :
    Prop where
  pending : ∀ i orgId incidentId, ResumedBy p e i orgId incidentId →
    ChangesPending orgId incidentId (verdictsOf p) (verdictsOf (p.step e))
  final : ∀ i orgId incidentId, ResumedBy p e i orgId incidentId →
    verdictsOf (p.step e) ≠ verdictsOf p → ∃ req res, (p.step e).threads[i]? = some (req, .done res)
  once : ∀ row ∈ verdictsOf p, row.resolution ≠ none → row ∈ verdictsOf (p.step e)

/-- An update of a resume that is carried out meets pending escalations of the caller's
organisation only, or changes nothing. -/
def UpdatesPending (p : Pool (platformService settings)) (e : Event (platformService settings)) :
    Prop :=
  ∀ i f govApp incidentId decision payload orgId latencyMs resolvedAt v,
    e = .resume i f → f ≠ .before →
    p.threads[i]? = some (.resume govApp incidentId decision payload orgId latencyMs,
      resolution decision resolvedAt incidentId v) →
    Resolvable orgId incidentId decision resolvedAt (verdictsOf p)

variable {p : Pool (platformService settings)} {i : Nat} {f : Fault} {req : PlatformRequest}
  {decision incidentId : String} {resolvedAt : Int} {v : GovernanceVerdict}

/-- The last step of a resume. -/
theorem step_resolution (hf : f ≠ .before)
    (hi : p.threads[i]? = some (req, resolution decision resolvedAt incidentId v)) :
    verdictsOf (p.step (.resume i f)) =
        resolveRows decision resolvedAt incidentId (verdictsOf p) ∧
      ∃ res, (p.step (.resume i f)).threads[i]? = some (req, .done res) := by
  have hLt : i < p.threads.length := (List.getElem?_eq_some_iff.1 hi).1
  have hAwait : p.threads[i]? = some (req, .await
      (fun w => w.resolveVerdict decision resolvedAt incidentId)
      fun _ => .done (.ok (.verdict v))) := hi
  simp only [Pool.step, hAwait]
  cases f with
  | before => exact absurd rfl hf
  | none => exact ⟨rfl, .ok (.verdict v), List.getElem?_set_self hLt⟩
  | after => exact ⟨rfl, .error .backend, List.getElem?_set_self hLt⟩

/-- Before its last step a resume changes no verdict: it reads the incident and asks the app,
and neither writes to the tables. -/
theorem step_reading {govApp : ResumeApp} {payload : Option (List (String × Json))}
    {orgId : String} {latencyMs : PyFloat} {prog : Handler PlatformResponse}
    (hi : p.threads[i]? =
      some (.resume govApp incidentId decision payload orgId latencyMs, prog))
    (hThread : FrameThread settings
      (.resume govApp incidentId decision payload orgId latencyMs) prog) :
    verdictsOf (p.step (.resume i f)) = verdictsOf p ∨ f ≠ .before ∧
      ∃ resolvedAt v, prog = resolution decision resolvedAt incidentId v := by
  change ReadsUntil _ _ at hThread
  by_cases hf : f = .before
  · left
    subst hf
    simp only [Pool.step, hi]
    cases prog <;> rfl
  · cases hThread with
    | ended r =>
        left
        simp only [Pool.step, hi]
    | last h => exact .inr ⟨hf, h⟩
    | reads hRest _ =>
        left
        simp only [Pool.step, hi]
        cases f with
        | before => exact absurd rfl hf
        | none => exact congrArg (fun w : World => w.db.governanceVerdicts) (hRest p.state)
        | after => exact congrArg (fun w : World => w.db.governanceVerdicts) (hRest p.state)

/-- A change of a pending row keeps the rows that were resolved. -/
theorem ChangesPending.once {orgId : String} {rows rows' : List GovernanceVerdictRow}
    (h : ChangesPending orgId incidentId rows rows') {row : GovernanceVerdictRow}
    (hRow : row ∈ rows) (hResolved : row.resolution ≠ none) : row ∈ rows' := by
  rcases h with rfl | ⟨before, r, r', after, rfl, rfl, -, hPending⟩
  · exact hRow
  · rcases List.mem_append.1 hRow with hBefore | hRest
    · exact List.mem_append_left _ hBefore
    · rcases List.mem_cons.1 hRest with rfl | hAfter
      · exact absurd hPending.2.2 hResolved
      · exact List.mem_append_right _ (List.mem_cons_of_mem _ hAfter)

/-- **The frame at one event** holds exactly when the event updates pending verdicts only.
The one update of a resume is its last step, and any other step leaves the verdicts alone. -/
theorem framed_iff (e : Event (platformService settings))
    (hThreads : ∀ t ∈ p.threads, FrameThread settings t.1 t.2)
    (hUnique : ((verdictsOf p).map GovernanceVerdictRow.verdictId).Nodup) :
    Framed p e ↔ UpdatesPending p e := by
  constructor
  · rintro h i f govApp incidentId decision payload orgId latencyMs resolvedAt v rfl hf hi
    have hPending := h.pending i orgId incidentId
      ⟨f, govApp, decision, payload, latencyMs, _, rfl, hi⟩
    rw [(step_resolution hf hi).1] at hPending
    exact (changesPending_iff hUnique).1 hPending
  · intro h
    have hChanges : ∀ i orgId incidentId, ResumedBy p e i orgId incidentId →
        ChangesPending orgId incidentId (verdictsOf p) (verdictsOf (p.step e)) ∧
          (verdictsOf (p.step e) ≠ verdictsOf p →
            ∃ req res, (p.step e).threads[i]? = some (req, .done res)) := by
      rintro i orgId incidentId ⟨f, govApp, decision, payload, latencyMs, prog, rfl, hi⟩
      rcases step_reading (f := f) hi (hThreads _ (List.mem_of_getElem? hi)) with
        hSame | ⟨hf, resolvedAt, v, rfl⟩
      · exact ⟨.inl hSame, fun hNe => absurd hSame hNe⟩
      · obtain ⟨hRows, res, hDone⟩ := step_resolution hf hi
        rw [hRows]
        refine ⟨(changesPending_iff hUnique).2 ?_, fun _ => ⟨_, res, hDone⟩⟩
        exact h i f govApp incidentId decision payload orgId latencyMs resolvedAt v rfl hf hi
    refine ⟨fun i o c hBy => (hChanges i o c hBy).1, fun i o c hBy => (hChanges i o c hBy).2,
      fun row hRow hResolved => ?_⟩
    by_cases hSame : verdictsOf (p.step e) = verdictsOf p
    · rw [hSame]
      exact hRow
    · have hState : (p.step e).state ≠ p.state := fun hEq => hSame (by unfold verdictsOf; rw [hEq])
      rcases Pool.step_change hState with ⟨ms, rfl⟩ | ⟨i, f, req, upd, k, rfl, hi, hUpd⟩
      · exact hRow
      · have hThread := hThreads _ (List.mem_of_getElem? hi)
        cases req with
        | resume govApp incidentId decision payload orgId latencyMs =>
            exact (hChanges i orgId incidentId
              ⟨f, govApp, decision, payload, latencyMs, _, rfl, hi⟩).1.once hRow hResolved
        | _ =>
            have hStep : RequestStep settings _ p.state (upd p.state) := (hThread p.state trivial).1
            obtain ⟨rows, hRows⟩ := hStep.verdicts (by simp)
            unfold verdictsOf
            rw [hUpd, hRows]
            exact List.mem_append_left _ hRow

/-- The pools of a run from empty tables. -/
def Reachable (settings : Settings) (now : Int) (agents : List Agent) (agentKeys : List AgentKey)
    (p : Pool (platformService settings)) : Prop :=
  ∃ events, p = platformRun settings now agents agentKeys events

theorem Reachable.step {now : Int} {agents : List Agent} {agentKeys : List AgentKey}
    (h : Reachable settings now agents agentKeys p) (e : Event (platformService settings)) :
    Reachable settings now agents agentKeys (p.step e) := by
  obtain ⟨events, rfl⟩ := h
  exact ⟨events ++ [e], (Pool.run_append _ events [e]).symm⟩

theorem Reachable.framed_iff {now : Int} {agents : List Agent} {agentKeys : List AgentKey}
    (h : Reachable settings now agents agentKeys p) (e : Event (platformService settings)) :
    Framed p e ↔ UpdatesPending p e := by
  obtain ⟨events, rfl⟩ := h
  refine AgentShield.Server.framed_iff e ?_ ?_
  · exact platformRun_threads frameThread_next frameThread_done frameThread_start
  · exact platformRun_inv (I := fun w =>
      (w.db.governanceVerdicts.map GovernanceVerdictRow.verdictId).Nodup)
      (fun w w' hUnique hStep => uniqueVerdicts_step hStep hUnique) List.nodup_nil events

/-- **Frame of resume.**  In a run, every resume changes at most the row of its
incident, a pending escalation of the caller's organisation, with its last step, and
resolved rows stay as they are, exactly when no update that is carried out meets
another row. -/
theorem resume_frame (settings : Settings) (now : Int) (agents : List Agent)
    (agentKeys : List AgentKey) (events : List (Event (platformService settings))) :
    (Pool.start (World.initial now agents agentKeys)).Along Framed events ↔
      (Pool.start (World.initial now agents agentKeys)).Along UpdatesPending events := by
  have hStart : Reachable settings now agents agentKeys
      (Pool.start (World.initial now agents agentKeys)) := ⟨[], rfl⟩
  constructor
  · intro h
    have hBoth := h.with_inv (I := Reachable settings now agents agentKeys)
      (fun p e _ hReach => hReach.step e) hStart
    exact hBoth.mono fun p e hEvent => (hEvent.2.framed_iff e).1 hEvent.1
  · intro h
    have hBoth := h.with_inv (I := Reachable settings now agents agentKeys)
      (fun p e _ hReach => hReach.step e) hStart
    exact hBoth.mono fun p e hEvent => (hEvent.2.framed_iff e).2 hEvent.1

end Runs

namespace Sample

/-- A governance app that escalates every record under the given verdict id. -/
def escalating (verdictId : String) : GovernanceApp := fun rec =>
  .ok { verdictId := verdictId
        correlationId := rec.correlationId
        decision := .escalate
        riskScore := .finite 1 }

/-- The answer to a thread that has finished, whatever the decision. -/
def finished : ResumeApp := fun _ _ _ =>
  .ok { verdictId := "v1", correlationId := "c", decision := .pass, riskScore := .finite 1 }

/-- A resume of the incident as the `i`th handler, up to its update. -/
def resumeAs (decision orgId : String) (i : Nat) : List (Event (platformService settings)) :=
  .request (.resume finished "v1" decision none orgId (.finite 1)) ::
    List.replicate 4 (.resume i .none)

/-- A record that is escalated, a human who accepts it, and one who ignores it. -/
def resolvedTwice : List (Event (platformService settings)) :=
  .request (.ingest (.decide (action "r1" "n1" .preExec 1 genesisChainHash
    (computeRecordPayloadHash settings.prim (action "r1" "n1" .preExec 1 genesisChainHash "")))
      (escalating "v1") (.finite 1))) ::
    List.replicate 30 (.resume 0 .none) ++ resumeAs "accept" "o" 1 ++ [.resume 1 .none] ++
      resumeAs "ignore" "o" 2

end Sample

/-- The second decision overwrites the first. -/
theorem escalation_resolved_twice :
    ¬ (Pool.start (World.initial 1 Sample.agents Sample.agentKeys)).Along Framed
      (Sample.resolvedTwice ++ [.resume 2 .none]) := by
  intro h
  have hLast := (Pool.along_append.1 h).2.1.once
  exact absurd hLast (by decide +kernel)

end AgentShield.Server
