import AgentShield.Auth.Gateway
import AgentShield.Auth.KeyScope
import AgentShield.Server.EpochStore
import AgentShield.Server.Interference

/-!
# Who may ingest an action record

`decide` and `record` run behind the dependency that resolves a caller of any kind, and
neither asks `authorizeIngest` about the record.  So a record is accepted from whoever can
sign it (`ingest_guarded_iff`): what stands between a caller that is no key, or a key of
another agent, and a stored record are the checks that the ingest makes of every record.
-/

namespace AgentShield.Auth

open AgentShield.Lib AgentShield.Sdk AgentShield.Server

/-! ## Requests with an action record -/

/-- A request to `decide` or `record`. -/
inductive ActionIngest where
  | decide (body : Json) (fresh : RecordDefaults) (govApp : GovernanceApp) (latencyMs : PyFloat)
  | record (body : Json) (fresh : RecordDefaults)

namespace ActionIngest

def request : ActionIngest → MainRequest
  | decide body fresh govApp latencyMs => .governanceDecide body fresh govApp latencyMs
  | record body fresh => .governanceRecord body fresh

/-- The record of the body, in the organisation of the caller. -/
def parsed (r : ActionIngest) (v : Validator) (orgId : String) :
    Except Failure ShieldActionRecord :=
  match r with
  | decide body fresh _ _ => Routes.actionRecord v fresh orgId body
  | record body fresh => Routes.actionRecord v fresh orgId body

def ingest (r : ActionIngest) (rec : ShieldActionRecord) : IngestRequest :=
  match r with
  | decide _ _ govApp latencyMs => .decide rec govApp latencyMs
  | record _ _ => .record rec

theorem mainRoute_eq (r : ActionIngest) (settings : MainSettings) (orgId : String) :
    mainRoute settings orgId r.request = (do
      let rec ← Async.ofExcept (r.parsed settings.validator orgId)
      ingestRecord settings rec r.ingest) := by
  cases r <;> rfl

end ActionIngest

/-! ## What is asked of a request, and what is checked -/

section Requests

variable (settings : SiteSettings) (s : Site) (http : Http) (r : ActionIngest)

/-- The caller of the request. -/
def CalledBy (caller : Caller) : Prop :=
  Resolved settings.auth s.auth { http with method := r.request.method } caller

/-- The caller is a key, and `authorizeIngest` allows it the record. -/
def Authorized : Prop :=
  ∃ key rec, CalledBy settings s http r (.apiKey key) ∧
    r.parsed settings.main.validator key.orgId = .ok rec ∧
    (Async.run (authorizeIngest (Caller.apiKey key).principal rec.orgId rec.agentId) s.auth).2 =
      .ok .allow

def Site.stores (s : Site) : Database × List (String × Body) := World.stores s.auth.server

/-- The request ends with an error, and no step of it touches a row or an object. -/
def Turned : Prop :=
  Async.Spares Site.stores (mainRouter settings http r.request) s ∧
    ∃ e, (Async.run (mainRouter settings http r.request) s).2 = .error e

/-- The request is authorised or turned away. -/
def Guarded : Prop := Authorized settings s http r ∨ Turned settings s http r

/-- The request has a caller, whoever it is, and a record that passes the checks of the
ingest. -/
def Passes : Prop :=
  ∃ caller rec, CalledBy settings s http r caller ∧
    r.parsed settings.main.validator caller.principal.orgId = .ok rec ∧
    ¬ Refused settings.main.toSettings s.auth.server (r.ingest rec)

end Requests

/-! ## What happens to a request -/

section Run

variable {settings : SiteSettings} {s : Site} {http : Http} {r : ActionIngest}

theorem spares_onAuth {α : Type} {prog : AuthHandler α} (h : KeepsServer prog) :
    Async.Spares Site.stores (onAuth prog) s := by
  have hAuth : Async.Spares (fun w : AuthWorld => World.stores w.server) prog s.auth := by
    refine Async.Steps.spares (h.guarantee fun w w' hServer => ?_)
    show World.stores w'.server = World.stores w.server
    rw [hServer]
  exact (Async.spares_within (fun _ _ => rfl) s).2 hAuth

/-- The record of a request is stored unless the ingest refuses it. -/
theorem spares_ingestRecord {rec : ShieldActionRecord} :
    Async.Spares Site.stores (onArchive (ingestRecord settings.main rec r.ingest)) s ↔
      Refused settings.main.toSettings s.auth.server (r.ingest rec) := by
  have hWorld : Async.Spares (fun a : Archive => World.stores a.world)
      (ingestRecord settings.main rec r.ingest) s.archive ↔
        Refused settings.main.toSettings s.auth.server (r.ingest rec) := by
    have hIngest : Async.Spares (fun a : Archive => World.stores a.world)
        (onWorld (ingest settings.main.toSettings (r.ingest rec))) s.archive ↔
          Refused settings.main.toSettings s.auth.server (r.ingest rec) :=
      (Async.spares_within (fun _ _ => rfl) s.archive).trans spares_ingest_iff
    unfold ingestRecord
    rw [Async.spares_bind, hIngest]
    exact and_iff_left fun _ _ _ => trivial
  exact (Async.spares_within (fun _ _ => rfl) s).trans hWorld

theorem run_ingestRecord_refused {rec : ShieldActionRecord}
    (h : Refused settings.main.toSettings s.auth.server (r.ingest rec)) :
    ∃ e, (Async.run (onArchive (ingestRecord settings.main rec r.ingest)) s).2 = .error e := by
  obtain ⟨e, hRun⟩ := run_ingest_refused h
  refine ⟨e, ?_⟩
  have hIngest : Async.run (onWorld (ingest settings.main.toSettings (r.ingest rec))) s.archive =
      ({ s.archive with world := (Async.run (ingest settings.main.toSettings (r.ingest rec))
        s.auth.server).1 }, .error e) := by
    rw [run_onWorld, ← hRun]
    rfl
  rw [run_onArchive]
  unfold ingestRecord
  rw [Async.run_bind, hIngest]

/-- Resolving the caller of a request leaves the main router's stores as they are. -/
theorem resolved_server (req : MainRequest) :
    (s.resolved settings http req).auth.server = s.auth.server :=
  principalContext_server _ _

/-- The request of a caller is turned away exactly when there is no record or the ingest
refuses it. -/
theorem turned_iff_of_caller {caller : Caller} (hCaller : CalledBy settings s http r caller) :
    Turned settings s http r ↔
      ∀ rec, r.parsed settings.main.validator caller.principal.orgId = .ok rec →
        Refused settings.main.toSettings s.auth.server (r.ingest rec) := by
  have hContext := run_context hCaller
  have hServer := @resolved_server settings s http r.request
  have hSpares : Async.Spares Site.stores (mainRouter settings http r.request) s ↔
      Async.Spares Site.stores
        (onArchive (mainRoute settings.main caller.principal.orgId r.request))
        (s.resolved settings http r.request) := by
    unfold mainRouter
    rw [Async.spares_bind]
    constructor
    · intro h
      have hMain := h.2 _ _ hContext
      dsimp only at hMain
      exact hMain
    · intro h
      refine ⟨spares_onAuth (authContext_keepsServer _ _), fun ctx s' hRun => ?_⟩
      rw [hContext] at hRun
      obtain ⟨rfl, hOk⟩ := Prod.mk.inj hRun
      obtain rfl := Except.ok.inj hOk
      exact h
  unfold Turned
  rw [hSpares, run_mainRouter hCaller]
  cases hParsed : r.parsed settings.main.validator caller.principal.orgId with
  | error e =>
      have hRoute : mainRoute settings.main caller.principal.orgId r.request =
          .done (.error e) := by
        rw [r.mainRoute_eq, hParsed]
        rfl
      rw [hRoute]
      exact iff_of_true ⟨trivial, e, rfl⟩ fun rec hRec => nomatch hRec
  | ok rec =>
      have hRoute : mainRoute settings.main caller.principal.orgId r.request =
          ingestRecord settings.main rec r.ingest := by
        rw [r.mainRoute_eq, hParsed]
        rfl
      rw [hRoute]
      rw [spares_ingestRecord, hServer]
      constructor
      · rintro ⟨h, -⟩ rec' hRec
        obtain rfl := Except.ok.inj hRec
        exact h
      · intro h
        refine ⟨h rec rfl, run_ingestRecord_refused ?_⟩
        rw [hServer]
        exact h rec rfl

/-- A request is turned away exactly when it has no caller, no record, or a record that the
ingest refuses. -/
theorem turned_iff : Turned settings s http r ↔ ¬ Passes settings s http r := by
  by_cases hSome : ∃ caller, CalledBy settings s http r caller
  · obtain ⟨caller, hCaller⟩ := hSome
    rw [turned_iff_of_caller hCaller]
    constructor
    · rintro h ⟨caller', rec, hCaller', hParsed, hPasses⟩
      obtain rfl := hCaller.unique hCaller'
      exact hPasses (h rec hParsed)
    · intro h rec hParsed
      by_contra hPasses
      exact h ⟨caller, rec, hCaller, hParsed, hPasses⟩
  · have hNone : ∀ caller, ¬ CalledBy settings s http r caller := not_exists.1 hSome
    refine iff_of_true ⟨?_, ?_⟩ ?_
    · obtain ⟨e, hContext⟩ := run_context_unresolved hNone
      unfold mainRouter
      refine Async.spares_bind.2 ⟨spares_onAuth (authContext_keepsServer _ _), ?_⟩
      intro ctx s' hRun
      rw [hContext] at hRun
      cases (Prod.mk.inj hRun).2
    · obtain ⟨e, hRun⟩ := run_mainRouter_unresolved hNone
      exact ⟨e, congrArg Prod.snd hRun⟩
    · exact fun ⟨caller, _, hCaller, _⟩ => hNone caller hCaller

/-- **When `decide` and `record` are guarded**: exactly when what passes the checks of the
ingest is authorised already.  The two routes resolve a caller of any kind, so a session
cookie passes where the ingest asks for no more than an organisation. -/
theorem ingest_guarded_iff (settings : SiteSettings) (s : Site) (http : Http)
    (r : ActionIngest) :
    Guarded settings s http r ↔ (Passes settings s http r → Authorized settings s http r) := by
  unfold Guarded
  rw [turned_iff, imp_iff_not_or, or_comm]

end Run

namespace Sample

/-- One agent and its key. -/
def keyedServer : World where
  clock := 1000 * 1000000
  db :=
    { agents := [{ agentId := "a", orgId := demoOrgId, status := .active }]
      agentKeys := Server.Sample.agentKeys }

def siteSettings : SiteSettings where
  auth := authSettings
  main :=
    { Server.Sample.epochSettings with
      validator := Sdk.Sample.validator
      readFloat := fun _ => .finite 0 }

def sessionSite : Site where
  auth := .initial keyedServer (signedInDb firstSession)

/-- A signed outcome of the agent. -/
def signedOutcome : ShieldActionRecord :=
  { Server.Sample.action "r1" "n1" .postExec 1 genesisChainHash "ph" with orgId := demoOrgId }

def posted : ActionIngest := .record (signedOutcome.modelDump false) Sdk.Sample.fresh

def acknowledged : Except Failure MainResponse → Bool
  | .ok (.ingested (.ack a)) => a.accepted
  | _ => false

/-- The caller of `posted` has the cookie of a session. -/
theorem posted_caller : ∃ caller, CalledBy siteSettings sessionSite ownerHttp posted caller ∧
    caller.principal.isApiKey = false ∧ caller.principal.orgId = demoOrgId := by
  have hCaller : ∃ caller ∈ (Async.run (principalContext authSettings ownerHttp)
      sessionSite.auth).2.toOption,
        caller.principal.isApiKey = false ∧ caller.principal.orgId = demoOrgId := by
    decide +kernel
  obtain ⟨caller, hMem, hKind⟩ := hCaller
  refine ⟨caller, ?_, hKind⟩
  show (Async.run (principalContext authSettings ownerHttp) sessionSite.auth).2 = .ok caller
  cases hRun : (Async.run (principalContext authSettings ownerHttp) sessionSite.auth).2 with
  | ok caller' => simpa [hRun, Except.toOption] using hMem
  | error e => simp [hRun, Except.toOption] at hMem

theorem posted_passes : Passes siteSettings sessionSite ownerHttp posted := by
  obtain ⟨caller, hCaller, -, hOrg⟩ := posted_caller
  have hParsed : posted.parsed siteSettings.main.validator demoOrgId = .ok signedOutcome := by
    decide +kernel
  refine ⟨caller, signedOutcome, hCaller, ?_, fun hRefused => hRefused ⟨by decide, ?_⟩⟩
  · rw [hOrg]
    exact hParsed
  · have hAgent : sessionSite.auth.server.db.findAgent "a" demoOrgId =
        some ⟨"a", demoOrgId, .active⟩ := by decide
    have hKey : sessionSite.auth.server.db.findAgentKey "k" "a" =
        some ⟨"k", "a", "pk", .active⟩ := by decide
    exact ⟨rfl, ⟨_, hAgent, rfl⟩, ⟨_, hKey, rfl, by decide +kernel⟩, rfl⟩

end Sample

/-- **A session records.**  The cookie of a session is enough for a signed record to be
accepted and stored. -/
theorem session_ingest_accepted :
    Sample.acknowledged (Async.run (mainRouter Sample.siteSettings Sample.ownerHttp
        Sample.posted.request) Sample.sessionSite).2 = true ∧
      ¬ ∀ (settings : SiteSettings), settings.auth.mode = .enterprise →
        ∀ s http r, Guarded settings s http r := by
  refine ⟨by decide +kernel, fun h => ?_⟩
  obtain ⟨caller, hCaller, hKind, -⟩ := Sample.posted_caller
  rcases h Sample.siteSettings rfl Sample.sessionSite Sample.ownerHttp Sample.posted with
    ⟨key, rec, hKey, -⟩ | hTurned
  · obtain rfl := hCaller.unique hKey
    cases hKind
  · exact turned_iff.1 hTurned Sample.posted_passes

end AgentShield.Auth
