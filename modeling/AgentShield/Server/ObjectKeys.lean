import AgentShield.Lib.Delimited
import AgentShield.Server.Archive
import AgentShield.Server.Verification

/-!
# The keys of the objects

A key joins the ids of its entity with `/`, without an escape for a separator in an id, and
tells the kinds apart by a text between them.  Two entities have the same key exactly when
their ids are read alike (`key_eq_iff`): an agent names a submission as the object of another
entity is named, or a separator in an id moves the cut between two ids.  In a run an object
is overwritten by these clashes and by nothing else (`leavesOthers_iff`).
-/

namespace AgentShield.Server
open AgentShield.Lib AgentShield.Lib.Async AgentShield.Sdk

/-! ## What a key is joined from -/

namespace StoredObject

/-- The agent of an entity.  Exports and epochs stand where an agent would. -/
def folder : StoredObject → String
  | envelope _ agentId _ | receipt _ agentId _ | record _ agentId _ | verdict _ agentId _
  | evidence _ agentId _ => agentId
  | exportFile .. => "exports"
  | epoch .. => "epochs"

/-- The id of an entity with what its kind adds to it. -/
def name : StoredObject → String
  | envelope _ _ operationId => operationId
  | receipt _ _ operationId => "receipts/" ++ operationId
  | record _ _ recordId => recordId
  | verdict _ _ verdictId => "verdicts/" ++ verdictId
  | evidence _ _ verdictId => "verdicts/" ++ verdictId ++ ".guardian_evidence"
  | exportFile _ exportId extension => exportId ++ "." ++ extension
  | epoch _ epochId => epochId ++ ".json"

theorem key_eq (e : StoredObject) :
    e.key = e.orgId ++ "/" ++ (e.folder ++ "/" ++ e.name) := by
  apply String.toList_injective
  cases e <;>
    simp [key, orgId, folder, name, recordKey, receiptKey, verdictObjectKey,
      guardianEvidenceKey, exportKey, epochKey]

end StoredObject

/-! ## When two keys are the same -/

/-- A separator in `x'` or in `y` moves the cut between the two texts. -/
def RunsInto (x y x' y' : String) : Prop := ∃ m, x' = x ++ "/" ++ m ∧ y = m ++ "/" ++ y'

def Shifted (x y x' y' : String) : Prop := RunsInto x y x' y' ∨ RunsInto x' y' x y

/-- The ids of two entities are read alike. -/
inductive Clash (e e' : StoredObject) : Prop
  | names (hOrg : e.orgId = e'.orgId) (hFolder : e.folder = e'.folder) (hName : e.name = e'.name)
  | folders (hOrg : e.orgId = e'.orgId) (h : Shifted e.folder e.name e'.folder e'.name)
  | orgs (h : Shifted e.orgId (e.folder ++ "/" ++ e.name) e'.orgId (e'.folder ++ "/" ++ e'.name))

theorem runsInto_iff {x y x' y' : String} : RunsInto x y x' y' ↔
    ∃ m, x'.toList = x.toList ++ '/' :: m ∧ y.toList = m ++ '/' :: y'.toList := by
  constructor
  · rintro ⟨m, rfl, rfl⟩
    exact ⟨m.toList, by simp, by simp⟩
  · rintro ⟨m, hx, hy⟩
    refine ⟨String.ofList m, String.toList_injective ?_, String.toList_injective ?_⟩
    · simpa using hx
    · simpa using hy

theorem joined_eq_iff (x y x' y' : String) :
    x ++ "/" ++ y = x' ++ "/" ++ y' ↔ (x = x' ∧ y = y') ∨ Shifted x y x' y' := by
  have hJoin : ∀ a b : String, (a ++ "/" ++ b).toList = a.toList ++ '/' :: b.toList := by
    intro a b
    simp
  unfold Shifted
  rw [← String.toList_inj, hJoin, hJoin, Delimited.cut_apart, String.toList_inj,
    String.toList_inj, runsInto_iff, runsInto_iff]

/-- **Two entities have the same key exactly when they clash.** -/
theorem key_eq_iff (e e' : StoredObject) : e.key = e'.key ↔ Clash e e' := by
  rw [e.key_eq, e'.key_eq, joined_eq_iff, joined_eq_iff]
  constructor
  · rintro (⟨hOrg, ⟨hFolder, hName⟩ | h⟩ | h)
    · exact .names hOrg hFolder hName
    · exact .folders hOrg h
    · exact .orgs h
  · intro h
    cases h with
    | names hOrg hFolder hName => exact .inl ⟨hOrg, .inl ⟨hFolder, hName⟩⟩
    | folders hOrg h => exact .inl ⟨hOrg, .inr h⟩
    | orgs h => exact .inr h

/-! ## Ids without a separator -/

/-- The organisation and the agent have no separator, and neither has the id of an export
or an epoch; the id of a verdict or an export has no dot. -/
def Plain (e : StoredObject) : Prop :=
  '/' ∉ e.orgId.toList ∧ '/' ∉ e.folder.toList ∧
    match e with
    | .verdict _ _ id | .evidence _ _ id => '.' ∉ id.toList
    | .exportFile _ id extension =>
        '/' ∉ id.toList ∧ '.' ∉ id.toList ∧ '/' ∉ extension.toList
    | .epoch _ id => '/' ∉ id.toList
    | _ => True

/-- The id of the entity was chosen by an agent. -/
def IsSubmission : StoredObject → Prop
  | .envelope .. | .record .. => True
  | _ => False

/-- The name has a separator of its own. -/
def IsNested : StoredObject → Prop
  | .receipt .. | .verdict .. | .evidence .. => True
  | _ => False

/-- A text without a separator before the first of two others. -/
theorem Shifted.separator {x y x' y' : String} (h : Shifted x y x' y') :
    '/' ∈ x.toList ∨ '/' ∈ x'.toList := by
  rcases h with h | h
  · obtain ⟨m, hText, -⟩ := runsInto_iff.1 h
    right
    rw [hText]
    exact List.mem_append_right _ List.mem_cons_self
  · obtain ⟨m, hText, -⟩ := runsInto_iff.1 h
    left
    rw [hText]
    exact List.mem_append_right _ List.mem_cons_self

theorem separator_mem_name {e : StoredObject} (he : Plain e) (hKind : ¬ IsSubmission e) :
    '/' ∈ e.name.toList ↔ IsNested e := by
  cases e with
  | envelope => exact absurd trivial hKind
  | record => exact absurd trivial hKind
  | receipt o a id => simp [StoredObject.name, IsNested]
  | verdict o a id => simp [StoredObject.name, IsNested]
  | evidence o a id => simp [StoredObject.name, IsNested]
  | exportFile o id ext =>
      obtain ⟨hId, -, hExtension⟩ := he.2.2
      simp [StoredObject.name, IsNested, hId, hExtension]
  | epoch o id => simp [StoredObject.name, IsNested, show '/' ∉ id.toList from he.2.2]

/-- Entities of the other kinds are told apart by their names. -/
theorem eq_of_name {e e' : StoredObject} (he : Plain e) (he' : Plain e')
    (hKind : ¬ IsSubmission e) (hKind' : ¬ IsSubmission e') (hOrg : e.orgId = e'.orgId)
    (hFolder : e.folder = e'.folder) (hName : e.name = e'.name) : e = e' := by
  have hNested : IsNested e ↔ IsNested e' := by
    rw [← separator_mem_name he hKind, ← separator_mem_name he' hKind', hName]
  have hText := congrArg String.toList hName
  cases e <;> cases e' <;>
    simp [StoredObject.name, StoredObject.orgId, StoredObject.folder, IsSubmission, IsNested]
      at hOrg hFolder hText hKind hKind' hNested
  -- pairs of different kinds are gone, but for a verdict and evidence
  case receipt.receipt => rw [hOrg, hFolder, String.toList_injective hText]
  case verdict.verdict => rw [hOrg, hFolder, String.toList_injective hText]
  case evidence.evidence => rw [hOrg, hFolder, String.toList_injective hText]
  case epoch.epoch => rw [hOrg, String.toList_injective hText]
  case exportFile.exportFile =>
    obtain ⟨hId, hExtension⟩ := Delimited.cut_first he.2.2.2.1 he'.2.2.2.1 hText
    rw [hOrg, String.toList_injective hId, String.toList_injective hExtension]
  case verdict.evidence => exact absurd (hText ▸ by simp) he.2.2
  case evidence.verdict => exact absurd (hText ▸ by simp) he'.2.2

/-- **Plain entities clash with submissions only**, whose id is their name. -/
theorem clash_iff_of_plain {e e' : StoredObject} (he : Plain e) (he' : Plain e') :
    Clash e e' ↔ e = e' ∨ ((IsSubmission e ∨ IsSubmission e') ∧ e.orgId = e'.orgId ∧
      e.folder = e'.folder ∧ e.name = e'.name) := by
  constructor
  · intro h
    cases h with
    | names hOrg hFolder hName =>
        by_cases hKind : IsSubmission e ∨ IsSubmission e'
        · exact .inr ⟨hKind, hOrg, hFolder, hName⟩
        · have hNeither := not_or.1 hKind
          exact .inl (eq_of_name he he' hNeither.1 hNeither.2 hOrg hFolder hName)
    | folders _ h => exact absurd h.separator (not_or.2 ⟨he.2.1, he'.2.1⟩)
    | orgs h => exact absurd h.separator (not_or.2 ⟨he.1, he'.1⟩)
  · rintro (rfl | ⟨-, hOrg, hFolder, hName⟩)
    · exact .names rfl rfl rfl
    · exact .names hOrg hFolder hName

/-! ## Storing in a run -/

section Runs

variable {settings : ArchiveSettings}

/-- The event is a step of a handler that stores an object of the entity of its request:
what is under the key of the entity changes. -/
def Stores (p : Pool (archiveService settings)) (ev : Event (archiveService settings))
    (o : StoredObject) : Prop :=
  ∃ i f req prog body, ev = .resume i f ∧ p.threads[i]? = some (req, prog) ∧ req.Writes o ∧
    (p.step ev).state.world.objects = (p.state.world.put o.key body).objects ∧
    p.state.world.get o.key ≠ some body

/-- An object of the entity was stored in the run. -/
def StoredIn (p : Pool (archiveService settings)) : List (Event (archiveService settings)) →
    StoredObject → Prop
  | [], _ => False
  | ev :: events, o => Stores p ev o ∨ StoredIn (p.step ev) events o

theorem storedIn_append {p : Pool (archiveService settings)}
    {es fs : List (Event (archiveService settings))} {o : StoredObject} :
    StoredIn p (es ++ fs) o ↔ StoredIn p es o ∨ StoredIn (p.run es) fs o := by
  induction es generalizing p with
  | nil => simp [StoredIn, Pool.run]
  | cons ev es ih =>
      simp only [List.cons_append, StoredIn, Pool.run, ih, or_assoc]

theorem Stores.get_eq {p : Pool (archiveService settings)} {ev : Event (archiveService settings)}
    {o : StoredObject} (h : Stores p ev o) (e : StoredObject) :
    (p.step ev).state.world.get e.key = p.state.world.get e.key ↔ ¬ Clash o e := by
  obtain ⟨i, f, req, prog, body, -, -, -, hObjects, hChange⟩ := h
  have hGet : (p.step ev).state.world.get e.key = (p.state.world.put o.key body).get e.key := by
    unfold World.get
    rw [hObjects]
  rw [hGet, World.get_put, ← key_eq_iff]
  by_cases hKey : o.key = e.key
  · rw [if_pos hKey]
    constructor
    · intro hSame
      rw [hKey, hSame] at hChange
      exact absurd rfl hChange
    · exact fun hNot => absurd hKey hNot
  · simp [hKey]

/-- **Every change of the objects** in a run is the storing of an object of an entity of
the request that takes the step. -/
theorem stores_of_change {now : Int} {agents : List Agent} {agentKeys : List AgentKey}
    {events : List (Event (archiveService settings))} {ev : Event (archiveService settings)}
    {key : String}
    (h : ((archiveRun settings now agents agentKeys events).step ev).state.world.get key ≠
      (archiveRun settings now agents agentKeys events).state.world.get key) :
    ∃ o, Stores (archiveRun settings now agents agentKeys events) ev o ∧ o.key = key := by
  obtain ⟨hKeyed, hThreads⟩ := archiveRun_steps now agents agentKeys events
  generalize archiveRun settings now agents agentKeys events = p at h hKeyed hThreads
  have hState : (p.step ev).state ≠ p.state := fun hSame => h (by rw [hSame])
  rcases Pool.step_change hState with ⟨ms, rfl⟩ | ⟨i, f, req, upd, k, rfl, hi, hUpd⟩
  · exact absurd rfl h
  · have hStep := (hThreads _ (List.mem_of_getElem? hi) p.state hKeyed).1
    rw [← hUpd] at hStep
    rcases hStep.objects with hSame | ⟨o, body, hOwn, hPut⟩
    · exact absurd (by rw [World.get, hSame]; rfl) h
    · have hGet : (p.step (.resume i f)).state.world.get key =
          if o.key = key then some body else p.state.world.get key := by
        rw [World.get, hPut]
        exact World.get_put _ _ _ _
      by_cases hKey : o.key = key
      · rw [hGet, if_pos hKey] at h
        refine ⟨o, ⟨i, f, req, _, body, rfl, hi, hOwn, hPut, ?_⟩, hKey⟩
        rw [hKey]
        exact h.symm
      · rw [hGet, if_neg hKey] at h
        exact absurd rfl h

/-- Storing an object by the event leaves the objects alone that the run has stored for
other entities. -/
def LeavesOthers (p : Pool (archiveService settings))
    (events : List (Event (archiveService settings))) (ev : Event (archiveService settings)) :
    Prop :=
  ∀ o e, Stores (p.run events) ev o → StoredIn p events e → o ≠ e →
    ((p.run events).step ev).state.world.get e.key = (p.run events).state.world.get e.key

/-- **Objects are overwritten exactly by clashes.**  Two entities have the same key exactly
when they clash; every change of the object store in a run stores an object of an entity of
the request that is served; and it leaves the stored objects of all other entities alone
exactly when it clashes with none of them. -/
theorem leavesOthers_iff (settings : ArchiveSettings) (now : Int) (agents : List Agent)
    (agentKeys : List AgentKey) (events : List (Event (archiveService settings)))
    (ev : Event (archiveService settings)) :
    (∀ e e' : StoredObject, e.key = e'.key ↔ Clash e e') ∧
      (∀ key, ((archiveRun settings now agents agentKeys events).step ev).state.world.get key ≠
          (archiveRun settings now agents agentKeys events).state.world.get key →
        ∃ o, Stores (archiveRun settings now agents agentKeys events) ev o ∧ o.key = key) ∧
      (LeavesOthers (archiveRun settings now agents agentKeys []) events ev ↔
        ∀ o e, Stores (archiveRun settings now agents agentKeys events) ev o →
          StoredIn (archiveRun settings now agents agentKeys []) events e → o ≠ e →
          ¬ Clash o e) := by
  refine ⟨key_eq_iff, fun key => stores_of_change, ?_⟩
  constructor
  · intro h o e hStores hStored hNe
    exact (Stores.get_eq hStores e).1 (h o e hStores hStored hNe)
  · intro h o e hStores hStored hNe
    exact (Stores.get_eq hStores e).2 (h o e hStores hStored hNe)

end Runs

/-! ## An operation over a receipt -/

namespace Sample

/-- Primitives that keep the text, in base64url. -/
def archivePrim : Primitives :=
  { settings.prim with sha256Base64url := fun data => base64urlEncode (utf8 data) }

def archiveSettings : ArchiveSettings where
  prim := archivePrim
  serverSigningKey := "seed"
  sha256 := { digest := id, sha256Base64url_eq := fun _ => rfl }
  py := pydantic
  renderCompliancePdf _ := .ok .notJson

def archiveOp1 : OperationRecord :=
  { operation "op1" "n1" 1000 genesisChainHash with
    payloadHash := archivePrim.computePayloadHash .null }

/-- An operation with the name of the receipt of the first. -/
def archiveOp2 : OperationRecord :=
  { operation "receipts/op1" "n2" 1000 (archivePrim.computeChainHash archiveOp1.prevChainHash
      archiveOp1.payloadHash archiveOp1.operationId archiveOp1.issuedAt) with
    payloadHash := archivePrim.computePayloadHash .null }

/-- The first operation until it stores its receipt, and what comes after. -/
def untilReceipt : List (Event (archiveService archiveSettings)) :=
  .request (.server (.ingest (.submit archiveOp1 "r1"))) :: List.replicate 6 (.resume 0 .none)

def untilEnvelope : List (Event (archiveService archiveSettings)) :=
  List.replicate 2 (.resume 0 .none) ++
    .request (.server (.ingest (.submit archiveOp2 "r2"))) :: List.replicate 5 (.resume 1 .none)

def archiveStart : Pool (archiveService archiveSettings) :=
  archiveRun archiveSettings 1000 agents agentKeys []

end Sample

open Sample in
/-- Storing the second operation replaces the receipt of the first. -/
theorem receipt_overwritten :
    ¬ LeavesOthers archiveStart (untilReceipt ++ .resume 0 .none :: untilEnvelope)
      (.resume 1 .none) := by
  intro h
  have hReceipt : Stores (archiveStart.run untilReceipt) (.resume 0 .none)
      (.receipt "o" "a" "op1") := by
    refine ⟨0, .none, .server (.ingest (.submit archiveOp1 "r1")), _,
      .ofJson (signReceipt (shieldSdkCrypto archivePrim) "seed"
        (unsignedReceipt (shieldSdkCrypto archivePrim) archiveOp1 1000 1 "r1")).modelDump,
      rfl, rfl, ?_, ?_, ?_⟩
    · exact List.mem_cons_of_mem _ List.mem_cons_self
    · rfl
    · decide +kernel
  have hEnvelope : Stores (archiveStart.run (untilReceipt ++ .resume 0 .none :: untilEnvelope))
      (.resume 1 .none) (.envelope "o" "a" "receipts/op1") := by
    refine ⟨1, .none, .server (.ingest (.submit archiveOp2 "r2")), _,
      .ofJson archiveOp2.modelDump, rfl, rfl, List.mem_cons_self, ?_, ?_⟩
    · decide +kernel
    · decide +kernel
  have hStored : StoredIn archiveStart (untilReceipt ++ .resume 0 .none :: untilEnvelope)
      (.receipt "o" "a" "op1") := storedIn_append.2 (.inr (.inl hReceipt))
  have hSame := h _ _ hEnvelope hStored (by decide)
  exact (Stores.get_eq hEnvelope _).1 hSame (.names rfl rfl rfl)

end AgentShield.Server
