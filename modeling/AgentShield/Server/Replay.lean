import AgentShield.Server.ChainInvariant

/-!
# Replay protection

A nonce is reserved for the lifetime of its record, counted from the time of
receipt, while the record stays acceptable for its lifetime counted from its own
`issued_at`.  An accepted record is protected as long as it is fresh if its
reservation lasts that long and no other submission with its nonce had passed the
nonce check before it was accepted (`GuardedAt`).  A record that is not issued in
the future has such a reservation (`Timely`); one issued in the future outlives it,
and a submission that is still on its way when its own reservation ends is overtaken.
-/

namespace AgentShield.Server

open AgentShield.Lib AgentShield.Lib.Async AgentShield.Sdk

/-- What the checks of a request's route see of it. -/
def IngestRequest.submission (settings : Settings) : IngestRequest → Submission
  | .submit rec _ => rec.submission (shieldSdkCrypto settings.prim)
  | .decide rec _ _ => recordSubmission settings.prim rec
  | .record rec => recordSubmission settings.prim rec

/-- The organisation and nonce of a request. -/
def IngestRequest.nonceOf : IngestRequest → String × String
  | .submit rec _ => (rec.orgId, rec.nonce)
  | .decide rec _ _ => (rec.orgId, rec.nonce)
  | .record rec => (rec.orgId, rec.nonce)

/-- The field checks of a request's route. -/
def IngestRequest.validate (settings : Settings) (receivedAt : Int) :
    IngestRequest → Except Failure Unit
  | .submit rec _ => validateRecordFields settings.prim.toFloatText rec receivedAt
  | .decide rec _ _ => validateRecord settings.prim rec receivedAt .preExec
  | .record rec => validateRecord settings.prim rec receivedAt .postExec

/-- An accepted record passes its own freshness check at time `now`. -/
def FreshAt (row : OperationRow) (now : Int) : Prop := now ≤ row.issuedAt + row.ttlMs

/-- The last reading of the clock at which an accepted record is fresh: the end of the
millisecond in which its lifetime ends. -/
def lastFresh (row : OperationRow) : Int := (row.issuedAt + row.ttlMs + 1) * 1000000 - 1

theorem freshAt_iff {row : OperationRow} {w : World} :
    FreshAt row w.now ↔ w.clock ≤ lastFresh row := by
  unfold FreshAt lastFresh World.now
  omega

/-- The lifetime of an accepted record ends before its reservation does, counted from the
millisecond of its receipt. -/
def Timely (row : OperationRow) : Prop :=
  row.issuedAt + row.ttlMs < row.createdAt + nonceTtl row.ttlMs * 1000

theorem Timely.lastFresh_le {row : OperationRow} (h : Timely row) :
    lastFresh row ≤ reservedUntil row.createdAt row.ttlMs := by
  unfold Timely at h
  unfold lastFresh reservedUntil lifetime
  omega

instance (row : OperationRow) (now : Int) : Decidable (FreshAt row now) := by
  unfold FreshAt
  infer_instance

instance (row : OperationRow) : Decidable (Timely row) := by
  unfold Timely
  infer_instance

def replayDetected : Failure := .app (.plain 400 .replayDetected)

/-- How a submission ends that does not get past its nonce check: as a replay,
unless its own fields are invalid or a storage call fails before. -/
inductive Rejected (settings : Settings) (req : IngestRequest) :
    Except Failure IngestResponse → Prop where
  | replay : Rejected settings req (.error replayDetected)
  | invalid {e : Failure} (receivedAt : Int) (h : req.validate settings receivedAt = .error e) :
      Rejected settings req (.error e)
  | fault : Rejected settings req (.error .backend)

/-- What is left of a handler that has not got past its nonce check: all of it, the check of a
nonce, or the rejection. -/
inductive AtGate (settings : Settings) (req : IngestRequest) : Handler IngestResponse → Prop where
  | waiting : AtGate settings req (ingest settings req)
  | checking (w : World) : AtGate settings req ((ingest settings req).next w)
  | rejected {r : Except Failure IngestResponse} (h : Rejected settings req r) :
      AtGate settings req (.done r)

section Gate

variable {settings : Settings} {req : IngestRequest}

/-- The atomic nonce check of a submission. -/
def reserve (sub : Submission) (w : World) : World × Bool :=
  w.setIfAbsent (nonceKey sub.orgId sub.nonce) "1" (nonceTtl sub.ttlMs)

/-- Every route reads the clock, validates the fields and makes the shared
checks, in this order. -/
theorem ingest_eq (settings : Settings) (req : IngestRequest) :
    ∃ body : Int → Int → Handler IngestResponse, ingest settings req = (do
      let receivedAt ← read World.now
      ofExcept (req.validate settings receivedAt)
      let seqNo ← admitSubmission (req.submission settings)
      body receivedAt seqNo) := by
  cases req with
  | submit rec receiptId =>
      simp only [ingest, submitOperation, bind_assoc']
      exact ⟨_, rfl⟩
  | decide rec govApp latencyMs =>
      simp only [ingest, Governance.decide, ingestPrefix, bind_assoc']
      exact ⟨_, rfl⟩
  | record rec =>
      simp only [ingest, Governance.record, ingestPrefix, bind_assoc']
      exact ⟨_, rfl⟩

/-- The first step of every route reads the clock. -/
private theorem ingest_first (settings : Settings) (req : IngestRequest) :
    ∃ k, ingest settings req = .await id k := by
  obtain ⟨body, hBody⟩ := ingest_eq settings req
  exact ⟨_, hBody⟩

/-- After the clock every route validates the fields and then checks the nonce: it has ended
with an error, or its next step is the reservation. -/
private theorem ingest_next (settings : Settings) (req : IngestRequest) (w : World) :
    (∃ e, req.validate settings w.now = .error e ∧
        (ingest settings req).next w = .done (.error e)) ∨
      ∃ k, (ingest settings req).next w =
          .await (fun s => (reserve (req.submission settings) s).1) k ∧
        ∀ s, (reserve (req.submission settings) s).2 = false →
          k s = .done (.error replayDetected) := by
  obtain ⟨body, hBody⟩ := ingest_eq settings req
  have hNext : (ingest settings req).next w =
      (ofExcept (req.validate settings w.now) >>= fun _ =>
        admitSubmission (req.submission settings) >>= body w.now) := by
    rw [hBody]
    rfl
  cases hValid : req.validate settings w.now with
  | error e =>
      refine .inl ⟨e, rfl, ?_⟩
      rw [hNext, hValid]
      rfl
  | ok u =>
      refine .inr ⟨_, by rw [hNext, hValid]; rfl, fun s hs => ?_⟩
      have hRefused : (s.setIfAbsent (nonceKey (req.submission settings).orgId
          (req.submission settings).nonce) "1" (nonceTtl (req.submission settings).ttlMs)).2
          = false := hs
      simp only [hRefused, raiseIf]
      rfl

/-- A handler that has ended at the gate was rejected. -/
theorem AtGate.done {r : Except Failure IngestResponse} (h : AtGate settings req (.done r)) :
    Rejected settings req r := by
  generalize hProg : (Async.done r : Handler IngestResponse) = prog at h
  cases h with
  | waiting =>
      obtain ⟨k, hk⟩ := ingest_first settings req
      rw [hk] at hProg
      cases hProg
  | checking w =>
      rcases ingest_next settings req w with ⟨e, hValid, hEnd⟩ | ⟨k, hk, -⟩
      · rw [hEnd] at hProg
        cases hProg
        exact .invalid w.now hValid
      · rw [hk] at hProg
        cases hProg
  | rejected h =>
      cases hProg
      exact h

/-- A held nonce is not reserved a second time. -/
private theorem reserve_refused {w : World} {sub : Submission} {expires : Int}
    (hHeld : NonceHeld w (nonceKey sub.orgId sub.nonce) expires) (hNow : w.clock ≤ expires) :
    (reserve sub w).2 = false := by
  cases hLive : w.cache.live w.clock (nonceKey sub.orgId sub.nonce) with
  | none => exact absurd hLive (hHeld.live hNow)
  | some value => simp [reserve, World.setIfAbsent, Cache.setIfAbsent, hLive]

private theorem submission_nonceOf (settings : Settings) (req : IngestRequest) :
    ((req.submission settings).orgId, (req.submission settings).nonce) = req.nonceOf := by
  cases req <;> rfl

/-- What a handler at the gate becomes when its next step succeeds. -/
private theorem gate_next {w : World} {upd : World → World}
    {k : World → Handler IngestResponse} {expires : Int}
    (hGate : AtGate settings req (.await upd k))
    (hHeld : NonceHeld w (nonceKey req.nonceOf.1 req.nonceOf.2) expires)
    (hNow : w.clock ≤ expires) : AtGate settings req (k w) := by
  generalize hProg : (Async.await upd k : Handler IngestResponse) = prog at hGate
  cases hGate with
  | waiting =>
      have hNext : (ingest settings req).next w = k w := by rw [← hProg]; rfl
      rw [← hNext]
      exact .checking w
  | checking w₀ =>
      rcases ingest_next settings req w₀ with ⟨e, -, hEnd⟩ | ⟨k', hk, hReplay⟩
      · rw [hEnd] at hProg
        cases hProg
      · rw [hk] at hProg
        cases hProg
        rw [← submission_nonceOf settings req] at hHeld
        rw [hReplay w (reserve_refused hHeld hNow)]
        exact .rejected .replay
  | rejected h => cases hProg

/-- **One step.**  While the nonce is held, a handler at the gate stays there. -/
theorem AtGate.step {p : Pool (ingestService settings)} {i : Nat} {prog : Handler IngestResponse}
    {expires : Int} (hi : p.threads[i]? = some (req, prog)) (hGate : AtGate settings req prog)
    (hHeld : NonceHeld p.state (nonceKey req.nonceOf.1 req.nonceOf.2) expires)
    (hNow : p.state.clock ≤ expires) (e : Event (ingestService settings)) :
    ∃ prog', (p.step e).threads[i]? = some (req, prog') ∧ AtGate settings req prog' := by
  obtain ⟨prog', hi', hStep⟩ := Pool.step_thread hi e
  refine ⟨prog', hi', ?_⟩
  rcases hStep with rfl | ⟨upd, k, f, -, rfl, rfl, -⟩
  · exact hGate
  · cases f with
    | none => exact gate_next hGate hHeld hNow
    | before => exact .rejected .fault
    | after => exact .rejected .fault

theorem AtGate.not_succeeded {prog : Handler IngestResponse} (h : AtGate settings req prog) :
    prog.succeeded = false := by
  cases hProg : prog with
  | await upd k => rfl
  | done r =>
      rw [hProg] at h
      cases h.done <;> rfl

end Gate

/-! ## Accepted records -/

section Run

variable (settings : Settings) (now : Int) (agents : List Agent) (agentKeys : List AgentKey)

/-- The event accepts the record of `row`. -/
def Accepting (p : Pool (ingestService settings)) (e : Event (ingestService settings))
    (row : OperationRow) : Prop :=
  (p.step e).state.db.operations = p.state.db.operations ++ [row]

/-- The record of the `i`th submission was accepted in the run. -/
def AcceptedIn (events : List (Event (ingestService settings))) (i : Nat) : Prop :=
  ∃ before f later row, events = before ++ .resume i f :: later ∧
    Accepting settings (served settings now agents agentKeys before) (.resume i f) row

/-- Before the `j`th submission is accepted with `row`: the nonce stays reserved while the
record is fresh, and no other submission with this nonce is on its way that has passed its
nonce check. -/
structure GuardedAt (events : List (Event (ingestService settings))) (j : Nat)
    (row : OperationRow) : Prop where
  outlasts : NonceHeld (served settings now agents agentKeys events).state
    (nonceKey row.orgId row.nonce) (lastFresh row)
  alone : FreshAt row (served settings now agents agentKeys events).state.now →
    ∀ (i : Nat) (req : IngestRequest) (prog : Handler IngestResponse),
      (served settings now agents agentKeys events).threads[i]? = some (req, prog) → i ≠ j →
      req.nonceOf = (row.orgId, row.nonce) →
      AtGate settings req prog ∨ prog.finished = true ∨
        AcceptedIn settings now agents agentKeys events i

/-- Every record of the run was guarded when it was accepted. -/
def AcceptancesGuarded (events : List (Event (ingestService settings))) : Prop :=
  ∀ before j f later row, events = before ++ .resume j f :: later →
    Accepting settings (served settings now agents agentKeys before) (.resume j f) row →
    GuardedAt settings now agents agentKeys before j row

/-- While `row` is fresh, every other submission with its nonce that has not been answered
yet waits before its nonce check, or is rejected.  The submissions made from now on are
among them: `events` may end with a request. -/
def ReplayProtected (events : List (Event (ingestService settings))) (row : OperationRow) :
    Prop :=
  ∀ (i : Nat) (req : IngestRequest) (prog : Handler IngestResponse)
    (later : List (Event (ingestService settings))),
    (served settings now agents agentKeys events).threads[i]? = some (req, prog) →
    prog.finished = false → ¬ AcceptedIn settings now agents agentKeys events i →
    req.nonceOf = (row.orgId, row.nonce) →
    let p := served settings now agents agentKeys (events ++ later)
    FreshAt row p.state.now →
      ∃ prog', p.threads[i]? = some (req, prog') ∧ AtGate settings req prog'

/-- What the acceptance of the `j`th submission leaves alone: that submission itself, and those
that had been accepted or answered before. -/
def Excused (before : List (Event (ingestService settings))) (j i : Nat) : Prop :=
  i = j ∨ AcceptedIn settings now agents agentKeys before i ∨
    ∃ t, (served settings now agents agentKeys before).threads[i]? = some t ∧
      t.2.finished = true

variable {settings now agents agentKeys}

theorem served_step (events : List (Event (ingestService settings)))
    (e : Event (ingestService settings)) :
    AnyEffect settings (served settings now agents agentKeys events).state
      ((served settings now agents agentKeys events).step e).state :=
  Pool.step_guarantee (ingest_keeps settings _) (served_allOk events) e

theorem served_clock_le (events later : List (Event (ingestService settings))) :
    (served settings now agents agentKeys events).state.clock ≤
      (served settings now agents agentKeys (events ++ later)).state.clock :=
  served_later (I := fun w => (served settings now agents agentKeys events).state.clock ≤ w.clock)
    (fun _ _ hw hEffect => Int.le_trans hw hEffect.clock_le) events later (Int.le_refl _)

/-- A held nonce stays held. -/
theorem served_nonceHeld (events later : List (Event (ingestService settings)))
    {orgId nonce : String} {expires : Int}
    (hHeld : NonceHeld (served settings now agents agentKeys events).state
      (nonceKey orgId nonce) expires) :
    NonceHeld (served settings now agents agentKeys (events ++ later)).state
      (nonceKey orgId nonce) expires :=
  served_later (I := fun w => NonceHeld w (nonceKey orgId nonce) expires)
    (fun w w' hw hEffect => steady_nonceHeld _ _ _ w w' ⟨hEffect, trivial⟩ hw) events later hHeld

theorem AcceptedIn.later {events : List (Event (ingestService settings))} {i : Nat}
    (h : AcceptedIn settings now agents agentKeys events i)
    (more : List (Event (ingestService settings))) :
    AcceptedIn settings now agents agentKeys (events ++ more) i := by
  obtain ⟨before, f, later, row, rfl, hAccepts⟩ := h
  exact ⟨before, f, later ++ more, row, by simp, hAccepts⟩

/-- A row that an effect adds is the only one. -/
theorem Effect.accepted {w w' : World} (h : AnyEffect settings w w') {row : OperationRow}
    (hNew : row ∉ w.db.operations) (hRow : row ∈ w'.db.operations) :
    w'.db.operations = w.db.operations ++ [row] := by
  cases h with
  | accept accepts verdicts log =>
      rcases List.mem_append.1 hRow with hOld | hLast
      · exact absurd hOld hNew
      · rw [List.mem_singleton.1 hLast]
  | rest => exact absurd hRow hNew
  | tick => exact absurd hRow hNew
  | reserve => exact absurd hRow hNew
  | store => exact absurd hRow hNew
  | hint => exact absurd hRow hNew
  | channel => exact absurd hRow hNew

/-- The nonce of a record that is accepted is reserved, counted from its receipt. -/
theorem Effect.reserved {w w' : World} (h : AnyEffect settings w w') {row : OperationRow}
    (hRow : w'.db.operations = w.db.operations ++ [row]) :
    NonceHeld w (nonceKey row.orgId row.nonce) (reservedUntil row.createdAt row.ttlMs) := by
  cases h with
  | accept accepts verdicts log =>
      obtain rfl := List.singleton_inj.1 (List.append_cancel_left hRow)
      exact accepts.reserved
  | rest => simp at hRow
  | tick => simp [World.tick] at hRow
  | reserve => simp [World.setIfAbsent] at hRow
  | store => simp [World.put] at hRow
  | hint => simp [World.cacheSet] at hRow
  | channel => simp at hRow

/-- **Every row was accepted** by a step of a handler. -/
theorem exists_accepting {events : List (Event (ingestService settings))} {row : OperationRow}
    (hRow : row ∈ (served settings now agents agentKeys events).state.db.operations) :
    ∃ before j f later, events = before ++ .resume j f :: later ∧
      Accepting settings (served settings now agents agentKeys before) (.resume j f) row := by
  induction events using List.reverseRecOn with
  | nil => exact absurd hRow List.not_mem_nil
  | append_singleton events e ih =>
      by_cases hOld : row ∈ (served settings now agents agentKeys events).state.db.operations
      · obtain ⟨before, j, f, later, rfl, hAccepts⟩ := ih hOld
        exact ⟨before, j, f, later ++ [e], by simp, hAccepts⟩
      · rw [served_append] at hRow
        have hAccepts := (served_step events e).accepted hOld hRow
        cases e with
        | request r => exact absurd hRow hOld
        | external ns => exact absurd hRow hOld
        | resume j f => exact ⟨events, j, f, [], rfl, hAccepts⟩

/-- **The nonce of a timely record** is reserved until the record is stale. -/
theorem timely_outlasts {events : List (Event (ingestService settings))}
    {e : Event (ingestService settings)} {row : OperationRow}
    (hAccepts : Accepting settings (served settings now agents agentKeys events) e row)
    (hTimely : Timely row) :
    NonceHeld (served settings now agents agentKeys events).state
      (nonceKey row.orgId row.nonce) (lastFresh row) := by
  rcases (served_step events e).reserved hAccepts with hPast | ⟨value, t, hGet, hLe⟩
  · exact .inl (Int.lt_of_le_of_lt hTimely.lastFresh_le hPast)
  · exact .inr ⟨value, t, hGet, Int.le_trans hTimely.lastFresh_le hLe⟩

/-- Where a record is accepted in a run. -/
theorem Accepting.index {events before later : List (Event (ingestService settings))} {j : Nat}
    {f : Fault} {row : OperationRow} (hSplit : events = before ++ .resume j f :: later)
    (hAccepts : Accepting settings (served settings now agents agentKeys before) (.resume j f)
      row) :
    before = events.take before.length ∧ events[before.length]? = some (.resume j f) ∧
      (served settings now agents agentKeys (events.take (before.length + 1))).state.db.operations =
        (served settings now agents agentKeys
          (events.take before.length)).state.db.operations ++ [row] := by
  subst hSplit
  have hBefore : (before ++ .resume j f :: later).take before.length = before := List.take_left
  have hNext : (before ++ .resume j f :: later).take (before.length + 1) =
      before ++ [.resume j f] := by
    rw [List.take_append, Nat.add_sub_cancel_left, List.take_of_length_le (Nat.le_succ _)]
    rfl
  refine ⟨hBefore.symm, by simp, ?_⟩
  rw [hBefore, hNext, served_append]
  exact hAccepts

/-! ## Every run -/

/-- **Run lemma.**  After a guarded acceptance every other submission with the nonce is at
the gate as long as the record is fresh. -/
theorem GuardedAt.atGate {before : List (Event (ingestService settings))} {j : Nat} {f : Fault}
    {row : OperationRow} (hGuard : GuardedAt settings now agents agentKeys before j row)
    (later : List (Event (ingestService settings))) {i : Nat} {req : IngestRequest}
    {prog : Handler IngestResponse}
    (hThread : (served settings now agents agentKeys
      (before ++ .resume j f :: later)).threads[i]? = some (req, prog))
    (hNonce : req.nonceOf = (row.orgId, row.nonce))
    (hFresh : FreshAt row (served settings now agents agentKeys
      (before ++ .resume j f :: later)).state.now) :
    Excused settings now agents agentKeys before j i ∨ AtGate settings req prog := by
  induction later using List.reverseRecOn generalizing prog with
  | nil =>
      have hStart : FreshAt row (served settings now agents agentKeys before).state.now :=
        Int.le_trans (World.now_mono (served_clock_le _ _)) hFresh
      rw [served_append] at hThread
      rcases Pool.thread_step hThread with ⟨r, hRequest, -⟩ | ⟨prog₀, hOld, hMoved⟩
      · cases hRequest
      · rcases hMoved with rfl | ⟨_, _, _, hResume, _⟩
        · by_cases hOther : i = j
          · exact .inl (.inl hOther)
          · rcases hGuard.alone hStart i req prog hOld hOther hNonce with hGate | hDone | hAccepted
            · exact .inr hGate
            · exact .inl (.inr (.inr ⟨_, hOld, hDone⟩))
            · exact .inl (.inr (.inl hAccepted))
        · cases hResume
          exact .inl (.inl rfl)
  | append_singleton later e ih =>
      -- the pool before the last event, in which the nonce is held
      have hSplit : before ++ .resume j f :: (later ++ [e]) =
          (before ++ .resume j f :: later) ++ [e] := by simp
      rw [hSplit] at hThread hFresh
      have hEarlier : FreshAt row (served settings now agents agentKeys
          (before ++ .resume j f :: later)).state.now :=
        Int.le_trans (World.now_mono (served_clock_le _ _)) hFresh
      have hHeld := served_nonceHeld before (.resume j f :: later) hGuard.outlasts
      rw [served_append] at hThread
      rcases Pool.thread_step hThread with ⟨r, -, -, hNew⟩ | ⟨prog₀, hOld, -⟩
      · obtain ⟨rfl, rfl⟩ := Prod.mk.inj hNew
        exact .inr .waiting
      · refine (ih hOld hEarlier).imp_right fun hGate => ?_
        have hReq : nonceKey req.nonceOf.1 req.nonceOf.2 = nonceKey row.orgId row.nonce := by
          rw [hNonce]
        obtain ⟨prog', hNext, hGate'⟩ :=
          hGate.step hOld (hReq ▸ hHeld) (freshAt_iff.1 hEarlier) e
        obtain ⟨-, rfl⟩ := Prod.mk.inj (Option.some.inj (hThread.symm.trans hNext))
        exact hGate'

/-- **Replay protection.**  In every run of the routes, under any interleaving, at any times
and with any failing steps, if every acceptance was guarded, every accepted record is
protected while it is fresh: each other submission with its nonce waits before its nonce
check, or is rejected. -/
theorem guarded_replayProtected (settings : Settings) (now : Int) (agents : List Agent)
    (agentKeys : List AgentKey) (events : List (Event (ingestService settings)))
    (hGuarded : AcceptancesGuarded settings now agents agentKeys events) :
    ∀ row ∈ (served settings now agents agentKeys events).state.db.operations,
      ReplayProtected settings now agents agentKeys events row := by
  intro row hRow i req prog later hThread hOpen hNotAccepted hNonce p hFresh
  obtain ⟨before, j, f, mid, rfl, hAccepts⟩ := exists_accepting hRow
  have hGuard := hGuarded before j f mid row rfl hAccepts
  have hJoin : before ++ .resume j f :: mid ++ later = before ++ .resume j f :: (mid ++ later) := by
    simp
  obtain ⟨prog', hThread', -⟩ := Pool.run_thread_stays hThread later
  rw [← served_append] at hThread'
  refine ⟨prog', hThread', ?_⟩
  rw [hJoin] at hThread'
  simp only [p] at hFresh
  rw [hJoin] at hFresh
  rcases hGuard.atGate (mid ++ later) hThread' hNonce hFresh with hExcused | hGate
  · -- the submission has neither been accepted nor been answered
    rcases hExcused with rfl | hAccepted | ⟨t, hEnded, hDone⟩
    · exact absurd ⟨before, f, mid, row, rfl, hAccepts⟩ hNotAccepted
    · exact absurd (hAccepted.later _) hNotAccepted
    · obtain ⟨prog₀, hStays, hSame⟩ := Pool.run_thread_stays hEnded (.resume j f :: mid)
      rw [← served_append] at hStays
      obtain ⟨-, rfl⟩ := Prod.mk.inj (Option.some.inj (hThread.symm.trans hStays))
      cases (hSame hDone ▸ hDone).symm.trans hOpen
  · exact hGate

/-- A submission that a protected record meets does not succeed while the record is fresh. -/
theorem ReplayProtected.refused {events later : List (Event (ingestService settings))}
    {row : OperationRow} (h : ReplayProtected settings now agents agentKeys events row) {i : Nat}
    (hOpen : (served settings now agents agentKeys events).threads[i]?.map
      (fun t => (IngestRequest.nonceOf t.1, t.2.finished)) = some ((row.orgId, row.nonce), false))
    (hNotAccepted : ¬ AcceptedIn settings now agents agentKeys events i)
    (hFresh : FreshAt row (served settings now agents agentKeys (events ++ later)).state.now) :
    (served settings now agents agentKeys (events ++ later)).threads[i]?.map
      (fun t => t.2.succeeded) = some false := by
  obtain ⟨⟨req, prog⟩, hThread, hState⟩ := Option.map_eq_some_iff.1 hOpen
  obtain ⟨hNonce, hDone⟩ := Prod.mk.inj hState
  obtain ⟨prog', hLater, hGate⟩ := h i req prog later hThread hDone hNotAccepted hNonce hFresh
  rw [hLater]
  exact congrArg some hGate.not_succeeded

end Run

/-! ## A record issued in the future -/

namespace Sample

/-- Accepted at 1000 with a lifetime of 1000 and issued at `issuedAt`. -/
def firstOperation (issuedAt : Int) : OperationRecord :=
  operation "op1" "n" issuedAt genesisChainHash

def first (issuedAt : Int) : List (Event (ingestService settings)) :=
  served (.submit (firstOperation issuedAt) "r1") 0 9

/-- The row of the first operation. -/
def firstRow (issuedAt : Int) : OperationRow :=
  submittedRow settings (firstOperation issuedAt) 1000 1

/-- Another operation with the same nonce, which names the first one. -/
def second (issuedAt firstIssuedAt : Int) : OperationRecord :=
  operation "op2" "n" issuedAt (chainHash (firstOperation firstIssuedAt))

/-- The second operation arrives while the first one is fresh, and is refused. -/
def retried : List (Event (ingestService settings)) :=
  first 999 ++ wait 500 :: served (.submit (second 1500 999) "r2") 1 2

/-- The second operation arrives while the first one is fresh. -/
def resubmitted : List (Event (ingestService settings)) :=
  first 5000 ++ [wait 1500, .request (.submit (second 2000 5000) "r2")]

/-- An operation that names the one which overtakes it. -/
def slow : OperationRecord :=
  operation "op1" "n" 1000 (chainHash (operation "op2" "n" 2000 genesisChainHash))

/-- The slow operation has passed its nonce check when its reservation expires, and another
one with its nonce is accepted. -/
def overtaken : List (Event (ingestService settings)) :=
  .request (.submit slow "r1") :: List.replicate 2 (.resume 0 .none) ++
    wait 1001 :: served (.submit (operation "op2" "n" 2000 genesisChainHash) "r2") 1 9

/-- The row of the operation that has overtaken the slow one. -/
def fastRow : OperationRow :=
  submittedRow settings (operation "op2" "n" 2000 genesisChainHash) 2001 1

set_option maxRecDepth 20000 in
theorem retried_guarded : AcceptancesGuarded settings 1000 agents agentKeys retried := by
  intro before j f later row hSplit hAccepts
  obtain ⟨hBefore, hEvent, hRows⟩ := Accepting.index hSplit hAccepts
  have hOnly : ∀ n < 14, (Server.served settings 1000 agents agentKeys
      (retried.take n)).state.db.operations.length < (Server.served settings 1000 agents agentKeys
      (retried.take (n + 1))).state.db.operations.length → n = 8 := by decide +kernel
  have hLength : before.length < 14 := (List.getElem?_eq_some_iff.1 hEvent).1
  have hIndex : before.length = 8 := by
    refine hOnly before.length hLength ?_
    rw [hRows, List.length_append]
    exact Nat.lt_succ_self _
  rw [hIndex] at hBefore hEvent hRows
  obtain ⟨rfl, -⟩ : 0 = j ∧ Fault.none = f := by simpa [retried, first, served] using hEvent
  have hRow : row = firstRow 999 := by
    have hOne : (Server.served settings 1000 agents agentKeys
        (retried.take 9)).state.db.operations = [firstRow 999] := by decide +kernel
    have hNone : (Server.served settings 1000 agents agentKeys
        (retried.take 8)).state.db.operations = [] := by decide +kernel
    rw [hOne, hNone] at hRows
    exact (List.singleton_inj.1 hRows).symm
  refine ⟨timely_outlasts hAccepts ?_, fun _ i req prog hThread hOther => absurd ?_ hOther⟩
  · rw [hRow]
    decide
  · have hLess := (List.getElem?_eq_some_iff.1 hThread).1
    have hCount : (Server.served settings 1000 agents agentKeys
        (retried.take 8)).threads.length = 1 := by decide +kernel
    rw [hBefore, hCount] at hLess
    omega

/-- No acceptance among the events of a submission that did not add a row. -/
theorem not_acceptedIn {events : List (Event (ingestService settings))} {i : Nat}
    (h : ∀ n < events.length, (events[n]?).any (Pool.isStepOf i) = true →
      (Server.served settings 1000 agents agentKeys (events.take (n + 1))).state.db.operations =
        (Server.served settings 1000 agents agentKeys (events.take n)).state.db.operations) :
    ¬ AcceptedIn settings 1000 agents agentKeys events i := by
  rintro ⟨before, f, later, row, hSplit, hAccepts⟩
  obtain ⟨-, hEvent, hRows⟩ := Accepting.index hSplit hAccepts
  have hSame := h before.length (List.getElem?_eq_some_iff.1 hEvent).1
    (by simp [hEvent, Pool.isStepOf])
  rw [hRows] at hSame
  simp at hSame

end Sample

set_option maxRecDepth 20000 in
/-- The second operation of the run is rejected, and any later one is while the first is
fresh. -/
theorem guarded_replayProtected_sample :
    (served Sample.settings 1000 Sample.agents Sample.agentKeys Sample.retried).threads.map
        (fun t => t.2.succeeded) = [true, false] ∧
      ReplayProtected Sample.settings 1000 Sample.agents Sample.agentKeys Sample.retried
        (Sample.firstRow 999) :=
  ⟨by decide +kernel, guarded_replayProtected Sample.settings 1000 Sample.agents
    Sample.agentKeys Sample.retried Sample.retried_guarded (Sample.firstRow 999)
    (by decide +kernel)⟩

set_option maxRecDepth 20000 in
/-- **A record issued in the future is not protected.**  Issued at 5000 and
received at 1000, it is fresh until 6000, but its nonce is free again after 2000:
at 2500 a second operation with the same nonce is accepted. -/
theorem future_record_not_protected :
    ¬ ∀ (settings : Settings) (now : Int) (agents : List Agent) (agentKeys : List AgentKey)
      (events : List (Event (ingestService settings))),
      ∀ row ∈ (served settings now agents agentKeys events).state.db.operations,
        ReplayProtected settings now agents agentKeys events row := by
  intro h
  have hRow : Sample.firstRow 5000 ∈ (served Sample.settings 1000 Sample.agents
      Sample.agentKeys Sample.resubmitted).state.db.operations := by decide +kernel
  have hProtected := h Sample.settings 1000 Sample.agents Sample.agentKeys Sample.resubmitted
    (Sample.firstRow 5000) hRow
  have hRefused : (served Sample.settings 1000 Sample.agents Sample.agentKeys
      (Sample.resubmitted ++ List.replicate 9 (.resume 1 .none))).threads[1]?.map
        (fun t => t.2.succeeded) = some false :=
    hProtected.refused (by decide +kernel) (Sample.not_acceptedIn (by decide +kernel))
      (by decide +kernel)
  exact absurd hRefused (by decide +kernel)

set_option maxRecDepth 20000 in
/-- **An overtaken submission is accepted.**  It passed its nonce check at 1000, its
reservation expired after 2000, and at 2001 another operation with its nonce is accepted and
then the overtaken one, while the other is fresh. -/
theorem overtaken_not_rejected :
    Timely Sample.fastRow ∧ Sample.fastRow ∈ (served Sample.settings 1000 Sample.agents
        Sample.agentKeys Sample.overtaken).state.db.operations ∧
      ¬ ReplayProtected Sample.settings 1000 Sample.agents Sample.agentKeys Sample.overtaken
        Sample.fastRow := by
  refine ⟨by decide, by decide +kernel, fun hProtected => ?_⟩
  have hRefused : (served Sample.settings 1000 Sample.agents Sample.agentKeys
      (Sample.overtaken ++ List.replicate 9 (.resume 0 .none))).threads[0]?.map
        (fun t => t.2.succeeded) = some false :=
    hProtected.refused (by decide +kernel) (Sample.not_acceptedIn (by decide +kernel))
      (by decide +kernel)
  exact absurd hRefused (by decide +kernel)

end AgentShield.Server
