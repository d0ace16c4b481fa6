import AgentShield.Lib.Alone
import AgentShield.Server.FailedIngest
import AgentShield.Server.Platform

/-!
# What a refused submission leaves behind

A submission reserves its nonce before its agent, its key and its signature are
looked at.  A refused submission therefore leaves one thing behind, the
reservation, and later submissions with the same nonce key are refused while it
lasts.  Nothing else of a refused submission has an influence on any later one.
-/

namespace AgentShield.Server

open AgentShield.Lib AgentShield.Lib.Async AgentShield.Sdk

/-- The submission does not pass its checks: its fields, its nonce, its agent, its
key, its signature or its chain head. -/
def Refused (settings : Settings) (w : World) (req : IngestRequest) : Prop :=
  ¬ (req.validate settings w.now = .ok () ∧ Admissible (req.submission settings) w)

/-- The state after a submission that ran alone. -/
def afterSubmission (settings : Settings) (w : World) (req : IngestRequest) : World :=
  (Async.run (ingest settings req) w).1

/-- The key of a request's nonce. -/
def IngestRequest.nonceKey (req : IngestRequest) : String :=
  Server.nonceKey req.nonceOf.1 req.nonceOf.2

/-- When the reservation of a request expires that is received in `w`. -/
def IngestRequest.reservedUntil (settings : Settings) (w : World) (req : IngestRequest) : Int :=
  w.clock + lifetime (nonceTtl (req.submission settings).ttlMs)

/-! ## Up to one reservation -/

/-- The worlds are the same, except that the nonce under `key` may be reserved in
the first one until `expires` where it is free in the second one. -/
structure Veiled (key : String) (expires : Int) (w w' : World) : Prop where
  clock : w.clock = w'.clock
  db : w.db = w'.db
  objects : w.objects = w'.objects
  streams : w.cache.streams = w'.cache.streams
  groups : w.cache.groups = w'.cache.groups
  others : ∀ k, k ≠ key → Dict.get? w.cache.store k = Dict.get? w'.cache.store k
  nonce : Dict.get? w.cache.store key = Dict.get? w'.cache.store key ∨
    ((∃ value, Dict.get? w.cache.store key = some (value, some expires)) ∧
      w'.cache.live w'.clock key = none)

theorem Veiled.refl (key : String) (expires : Int) (w : World) : Veiled key expires w w :=
  ⟨rfl, rfl, rfl, rfl, rfl, fun _ _ => rfl, .inl rfl⟩

/-- Relations that the ingest routes cannot tell from equality, as long as the keys
of their nonces are `allowed`. -/
structure Blind (allowed : String → Prop) (R : World → World → Prop) : Prop where
  clock : ∀ w w', R w w' → w.clock = w'.clock
  db : ∀ w w', R w w' → w.db = w'.db
  withDb : ∀ w w' db, R w w' → R { w with db := db } { w' with db := db }
  put : ∀ w w' key body, R w w' → R (w.put key body) (w'.put key body)
  hint : ∀ w w' agentId value, R w w' →
    R (w.cacheSet (chainHintKey agentId) value) (w'.cacheSet (chainHintKey agentId) value)
  group : ∀ w w' stream group, R w w' →
    R (w.ensureGroup stream group) (w'.ensureGroup stream group)
  xadd : ∀ w w' stream fields, R w w' → R (w.xadd stream fields) (w'.xadd stream fields)
  reserve : ∀ w w' key value ttl, allowed key → R w w' →
    R (w.setIfAbsent key value ttl).1 (w'.setIfAbsent key value ttl).1 ∧
      (w.setIfAbsent key value ttl).2 = (w'.setIfAbsent key value ttl).2

section Handlers

variable {allowed : String → Prop} {R : World → World → Prop}

theorem Blind.now (hR : Blind allowed R) (w w' : World) (hw : R w w') : w.now = w'.now :=
  congrArg (· / 1000000) (hR.clock w w' hw)

theorem Blind.transaction {β : Type} (hR : Blind allowed R) {sts : List Statement}
    {next : Unit → Handler β} (hNext : Agree R (next ())) :
    Agree R (attempt (fun w => w.transaction sts) >>= next) := by
  refine Agree.attempt_bind (fun w w' t hw hTx => ?_) (fun w w' e hw hTx => ?_) hNext
  · obtain ⟨db, hDb, rfl⟩ := World.transaction_ok hTx
    refine ⟨{ w' with db := db }, ?_, hR.withDb w w' db hw⟩
    unfold World.transaction
    rw [← hR.db w w' hw, hDb]
    rfl
  · unfold World.transaction at hTx ⊢
    rw [← hR.db w w' hw]
    cases hDb : w.db.transaction sts with
    | ok db => simp [hDb, Except.map] at hTx
    | error e' => simpa [hDb, Except.map] using hTx

theorem Blind.admitSubmission (hR : Blind allowed R) {sub : Submission}
    (hKey : allowed (nonceKey sub.orgId sub.nonce)) : Agree R (admitSubmission sub) := by
  unfold Server.admitSubmission
  refine Agree.act_bind (fun w w' hw => hR.reserve w w' _ _ _ hKey hw) fun fresh => ?_
  refine Agree.raiseIf_bind ?_
  refine Agree.read_bind (fun w w' hw => by rw [hR.db w w' hw]) fun found => ?_
  refine Agree.require_bind fun agent => ?_
  refine Agree.ofExcept_bind fun _ => ?_
  refine Agree.read_bind (fun w w' hw => by rw [hR.db w w' hw]) fun foundKey => ?_
  refine Agree.require_bind fun key => ?_
  refine Agree.ofExcept_bind fun _ => ?_
  refine Agree.raiseIf_bind ?_
  refine Agree.read_bind (fun w w' hw => by rw [hR.db w w' hw]) fun latest => ?_
  refine Agree.raiseIf_bind ?_
  exact Agree.pure _

theorem Blind.ensureGroups (hR : Blind allowed R) (stream : String) (groups : List String) :
    Agree R (ensureGroups stream groups) := by
  induction groups with
  | nil => exact Agree.pure _
  | cons group groups ih =>
      unfold Server.ensureGroups
      exact Agree.write_bind (fun w w' hw => hR.group w w' _ _ hw) ih

theorem Blind.fanChannel2 (hR : Blind allowed R) (prim : Primitives) (rec : ShieldActionRecord)
    (chainHash : String) (seqNo : Int) (verdictId : String) :
    Agree R (fanChannel2 prim rec chainHash seqNo verdictId) := by
  unfold Server.fanChannel2
  refine Agree.bind (hR.ensureGroups _ _) fun _ => ?_
  refine Agree.write_bind (fun w w' hw => hR.xadd w w' _ _ hw) ?_
  exact Agree.write fun w w' hw => hR.hint w w' _ _ hw

theorem Blind.fanVerdicts (hR : Blind allowed R) (prim : Primitives) (rec : ShieldActionRecord)
    (verdict : GovernanceVerdict) : Agree R (fanVerdicts prim rec verdict) := by
  unfold Server.fanVerdicts
  refine Agree.bind (hR.ensureGroups _ _) fun _ => ?_
  exact Agree.write fun w w' hw => hR.xadd w w' _ _ hw

theorem Blind.ingestPrefix (hR : Blind allowed R) (prim : Primitives) (rec : ShieldActionRecord)
    (hKey : allowed (nonceKey rec.orgId rec.nonce)) (receivedAt : Int) (phase : Phase) :
    Agree R (ingestPrefix prim rec receivedAt phase) := by
  unfold Server.ingestPrefix
  refine Agree.ofExcept_bind fun _ => ?_
  refine Agree.bind (hR.admitSubmission hKey) fun seqNo => ?_
  refine Agree.write_bind (fun w w' hw => hR.put w w' _ _ hw) ?_
  exact Agree.pure _

/-- **No ingest route can tell related worlds apart**: what it reads is the same in both, and
what it writes keeps them related. -/
theorem Blind.ingest (hR : Blind allowed R) (settings : Settings) (req : IngestRequest)
    (hKey : allowed req.nonceKey) : Agree R (ingest settings req) := by
  cases req with
  | submit rec receiptId =>
      refine Agree.bind ?_ fun ear => Agree.pure _
      unfold submitOperation
      refine Agree.read_bind hR.now fun receivedAt => ?_
      refine Agree.ofExcept_bind fun _ => ?_
      refine Agree.bind (hR.admitSubmission hKey) fun seqNo => ?_
      refine Agree.write_bind (fun w w' hw => hR.put w w' _ _ hw) ?_
      refine Agree.write_bind (fun w w' hw => hR.put w w' _ _ hw) ?_
      refine hR.transaction ?_
      refine Agree.write_bind (fun w w' hw => hR.hint w w' _ _ hw) ?_
      exact Agree.pure _
  | decide rec govApp latencyMs =>
      refine Agree.bind ?_ fun v => Agree.pure _
      unfold Governance.decide
      refine Agree.read_bind hR.now fun receivedAt => ?_
      refine Agree.bind (hR.ingestPrefix _ rec hKey _ _) fun r => ?_
      obtain ⟨chainHash, seqNo⟩ := r
      refine Agree.read_bind (fun _ _ _ => rfl) fun answer => ?_
      refine Agree.ofExcept_bind fun decided => ?_
      refine Agree.read_bind hR.now fun servedAt => ?_
      refine Agree.write_bind (fun w w' hw => hR.put w w' _ _ hw) ?_
      refine hR.transaction ?_
      refine Agree.bind (hR.fanChannel2 _ _ _ _ _) fun _ => ?_
      refine Agree.bind (hR.fanVerdicts _ _ _) fun _ => ?_
      exact Agree.pure _
  | record rec =>
      refine Agree.bind ?_ fun a => Agree.pure _
      unfold Governance.record
      refine Agree.read_bind hR.now fun receivedAt => ?_
      refine Agree.bind (hR.ingestPrefix _ rec hKey _ _) fun r => ?_
      obtain ⟨chainHash, seqNo⟩ := r
      refine hR.transaction ?_
      refine Agree.bind (hR.fanChannel2 _ _ _ _ _) fun _ => ?_
      exact Agree.pure _

end Handlers

/-! ## The two worlds -/

section Veil

variable {orgId nonce : String} {expires : Int}

/-- Steps that leave the cache entries alone. -/
theorem Veiled.aside {key : String} {w w' v v' : World} (h : Veiled key expires w w')
    (hClock : v.clock = v'.clock ∧ v'.clock = w'.clock) (hDb : v.db = v'.db)
    (hObjects : v.objects = v'.objects) (hStreams : v.cache.streams = v'.cache.streams)
    (hGroups : v.cache.groups = v'.cache.groups)
    (hStore : v.cache.store = w.cache.store ∧ v'.cache.store = w'.cache.store) :
    Veiled key expires v v' where
  clock := hClock.1
  db := hDb
  objects := hObjects
  streams := hStreams
  groups := hGroups
  others k hk := by
    rw [hStore.1, hStore.2]
    exact h.others k hk
  nonce := by
    rw [hStore.1, hStore.2, Cache.live, hStore.2, hClock.2]
    exact h.nonce

theorem Veiled.live_eq {key : String} {w w' : World} (h : Veiled key expires w w')
    {k : String} (hk : k ≠ key) : w.cache.live w.clock k = w'.cache.live w'.clock k := by
  unfold Cache.live
  rw [h.others k hk, h.clock]

/-- Setting the same entry in both worlds. -/
theorem Veiled.set {key : String} {w w' : World} (h : Veiled key expires w w') (k : String)
    (entry : String × Option Int) :
    Veiled key expires
      { w with cache := { w.cache with store := Dict.set w.cache.store k entry } }
      { w' with cache := { w'.cache with store := Dict.set w'.cache.store k entry } } := by
  refine { h with others := ?_, nonce := ?_ }
  · intro k' hk'
    show Dict.get? (Dict.set w.cache.store k entry) k' =
      Dict.get? (Dict.set w'.cache.store k entry) k'
    rw [Dict.get?_set, Dict.get?_set, h.others k' hk']
  · by_cases hk : k = key
    · refine .inl ?_
      show Dict.get? (Dict.set w.cache.store k entry) key =
        Dict.get? (Dict.set w'.cache.store k entry) key
      rw [Dict.get?_set, Dict.get?_set, if_pos hk, if_pos hk]
    · simp only [Cache.live, Dict.get?_set, if_neg hk]
      exact h.nonce

theorem Veiled.hint {w w' : World} (h : Veiled (nonceKey orgId nonce) expires w w')
    (agentId value : String) :
    Veiled (nonceKey orgId nonce) expires (w.cacheSet (chainHintKey agentId) value)
      (w'.cacheSet (chainHintKey agentId) value) := by
  have hKey := (nonceKey_ne_chainHintKey orgId nonce agentId).symm
  unfold World.cacheSet Cache.set
  rw [h.others _ hKey]
  exact h.set _ _

/-- The nonce check of a key at which the worlds have the same live entry. -/
theorem Veiled.reserve {key : String} {w w' : World} (h : Veiled key expires w w')
    (k value : String) (ttl : Int)
    (hLive : w.cache.live w.clock k = w'.cache.live w'.clock k) :
    Veiled key expires (w.setIfAbsent k value ttl).1 (w'.setIfAbsent k value ttl).1 ∧
      (w.setIfAbsent k value ttl).2 = (w'.setIfAbsent k value ttl).2 := by
  cases hKey : w.cache.live w.clock k with
  | none =>
      rw [World.setIfAbsent_free value ttl hKey,
        World.setIfAbsent_free value ttl (hLive.symm.trans hKey)]
      have hExpiry : w'.clock + lifetime ttl = w.clock + lifetime ttl := by rw [h.clock]
      rw [hExpiry]
      exact ⟨h.set k _, rfl⟩
  | some taken =>
      rw [World.setIfAbsent_taken value ttl hKey,
        World.setIfAbsent_taken value ttl (hLive.symm.trans hKey)]
      exact ⟨h, rfl⟩

/-- Once the reservation has expired the nonce is free in both worlds, or taken in
both. -/
theorem Veiled.live_eq_of_expired {key : String} {w w' : World} (h : Veiled key expires w w')
    (hExpired : expires < w.clock) : w.cache.live w.clock key = w'.cache.live w'.clock key := by
  rcases h.nonce with hSame | ⟨⟨value, hReserved⟩, hFree⟩
  · unfold Cache.live
    rw [hSame, h.clock]
  · rw [hFree]
    simp [Cache.live, hReserved, hExpired]

theorem Veiled.tick {key : String} {w w' : World} (h : Veiled key expires w w') (ns : Nat) :
    Veiled key expires (w.tick ns) (w'.tick ns) := by
  refine ⟨congrArg (· + (ns : Int)) h.clock, h.db, h.objects, h.streams, h.groups, h.others, ?_⟩
  rcases h.nonce with hSame | ⟨hReserved, hFree⟩
  · exact .inl hSame
  · refine .inr ⟨hReserved, live_none_iff.2 fun value e hGet => ?_⟩
    obtain ⟨t, ht, hPast⟩ := live_none_iff.1 hFree value e hGet
    exact ⟨t, ht, Int.lt_of_lt_of_le hPast (w'.clock_tick ns)⟩

/-- While the reservation lasts, other nonces are unaffected. -/
theorem veiled_blind :
    Blind (· ≠ nonceKey orgId nonce) (Veiled (nonceKey orgId nonce) expires) where
  clock _ _ h := h.clock
  db _ _ h := h.db
  withDb _ _ _ h := h.aside ⟨h.clock, rfl⟩ rfl h.objects h.streams h.groups ⟨rfl, rfl⟩
  put _ _ key body h := h.aside ⟨h.clock, rfl⟩ h.db
    (congrArg (fun objects => Dict.set objects key body) h.objects) h.streams h.groups ⟨rfl, rfl⟩
  hint _ _ agentId value h := h.hint agentId value
  group w w' stream group h := by
    refine h.aside ⟨h.clock, rfl⟩ h.db h.objects ?_ ?_ ⟨rfl, rfl⟩
    · simp only [World.ensureGroup, Cache.ensureGroup, h.streams]
    · simp only [World.ensureGroup, Cache.ensureGroup, h.groups]
  xadd w w' stream fields h := by
    refine h.aside ⟨h.clock, rfl⟩ h.db h.objects ?_ h.groups ⟨rfl, rfl⟩
    simp only [World.xadd, Cache.xadd, h.streams]
  reserve _ _ k value ttl hk h := h.reserve k value ttl (h.live_eq hk)

/-- When it has expired, no submission can tell. -/
theorem expired_blind :
    Blind (fun _ => True) fun w w' =>
      Veiled (nonceKey orgId nonce) expires w w' ∧ expires < w.clock where
  clock w w' h := veiled_blind.clock w w' h.1
  db w w' h := veiled_blind.db w w' h.1
  withDb w w' db h := ⟨veiled_blind.withDb w w' db h.1, h.2⟩
  put w w' key body h := ⟨veiled_blind.put w w' key body h.1, h.2⟩
  hint w w' agentId value h := ⟨veiled_blind.hint w w' agentId value h.1, h.2⟩
  group w w' stream group h := ⟨veiled_blind.group w w' stream group h.1, h.2⟩
  xadd w w' stream fields h := ⟨veiled_blind.xadd w w' stream fields h.1, h.2⟩
  reserve w w' k value ttl _ h := by
    have hLive : w.cache.live w.clock k = w'.cache.live w'.clock k := by
      by_cases hk : k = nonceKey orgId nonce
      · rw [hk]
        exact h.1.live_eq_of_expired h.2
      · exact h.1.live_eq hk
    obtain ⟨hVeiled, hSame⟩ := h.1.reserve k value ttl hLive
    exact ⟨⟨hVeiled, h.2⟩, hSame⟩

end Veil

/-! ## The refused submission -/

section Refused

variable {settings : Settings}

/-- A reservation and nothing else. -/
theorem reserve_veiled (sub : Submission) (w : World) :
    Veiled (nonceKey sub.orgId sub.nonce) (w.clock + lifetime (nonceTtl sub.ttlMs))
      (reserve sub w).1 w := by
  unfold reserve
  cases hKey : w.cache.live w.clock (nonceKey sub.orgId sub.nonce) with
  | none =>
      rw [World.setIfAbsent_free "1" _ hKey]
      refine ⟨rfl, rfl, rfl, rfl, rfl, fun k hk => ?_, .inr ⟨⟨"1", ?_⟩, hKey⟩⟩
      · exact Dict.get?_set_ne _ _ hk.symm
      · exact Dict.get?_set_self _ _ _
  | some taken =>
      rw [World.setIfAbsent_taken "1" _ hKey]
      exact Veiled.refl _ _ w

/-- The checks that fail come after the reservation and change nothing, so that a refused
submission leaves its reservation behind and no more. -/
theorem run_admitSubmission_refused {β : Type} {sub : Submission} (next : Int → Handler β)
    {w : World} (h : ¬ Admissible sub w) :
    ∃ e, Async.run (admitSubmission sub >>= next) w = ((reserve sub w).1, .error e) := by
  have hDb : (reserve sub w).1.db = w.db := rfl
  by_contra hNe
  unfold admitSubmission at hNe
  simp only [bind_assoc', run_act_bind] at hNe
  change ¬ ∃ e, Async.run (raiseIf ((reserve sub w).2 = false) _ >>= _) (reserve sub w).1 =
    (_, .error e) at hNe
  simp only [run_raiseIf_bind, run_read_bind, run_require_bind, run_ofExcept_bind, hDb] at hNe
  -- each check either ends the handler in the reserved state or passes
  by_cases hFresh : (reserve sub w).2 = false
  · simp [hFresh] at hNe
  cases hAgent : w.db.findAgent sub.agentId sub.orgId with
  | none => simp [hFresh, hAgent] at hNe
  | some agent =>
  cases hAgentOk : checkAgent agent with
  | error e => simp [hFresh, hAgent, hAgentOk] at hNe
  | ok u =>
  cases hKey : w.db.findAgentKey sub.agentPubkeyKid sub.agentId with
  | none => simp [hFresh, hAgent, hAgentOk, hKey] at hNe
  | some key =>
  cases hKeyOk : checkKey key with
  | error e => simp [hFresh, hAgent, hAgentOk, hKey, hKeyOk] at hNe
  | ok u =>
  by_cases hSigned : sub.signedBy key.publicKey = false
  · simp [hFresh, hAgent, hAgentOk, hKey, hKeyOk, hSigned] at hNe
  by_cases hHead : sub.prevChainHash ≠ expectedPrev (w.db.latestOperation sub.agentId)
  · simp [hFresh, hAgent, hAgentOk, hKey, hKeyOk, hSigned, hHead] at hNe
  refine h ⟨?_, ⟨agent, hAgent, hAgentOk⟩, ⟨key, hKey, hKeyOk, by simpa using hSigned⟩,
    by simpa using hHead⟩
  cases hLive : w.cache.live w.clock (nonceKey sub.orgId sub.nonce) with
  | none => rfl
  | some taken =>
      unfold reserve at hFresh
      rw [World.setIfAbsent_taken "1" _ hLive] at hFresh
      exact absurd rfl hFresh

/-- What a refused submission does: nothing, or it reserves its nonce. -/
theorem afterSubmission_refused {w : World} {req : IngestRequest} (h : Refused settings w req) :
    Veiled req.nonceKey (req.reservedUntil settings w) (afterSubmission settings w req) w := by
  obtain ⟨body, hBody⟩ := ingest_eq settings req
  have hKey : req.nonceKey =
      nonceKey (req.submission settings).orgId (req.submission settings).nonce := by
    cases req <;> rfl
  unfold afterSubmission
  rw [hBody, run_read_bind, run_ofExcept_bind]
  cases hValid : req.validate settings w.now with
  | error e => exact Veiled.refl _ _ w
  | ok u =>
      have hChecks : ¬ Admissible (req.submission settings) w := fun hAdmissible =>
        h ⟨hValid, hAdmissible⟩
      obtain ⟨e, hRun⟩ := run_admitSubmission_refused (body w.now) hChecks
      simp only
      rw [hRun, hKey]
      exact reserve_veiled _ w

/-- The rows and the objects. -/
def World.stores (w : World) : Database × List (String × Body) := (w.db, w.objects)

/-- The checks write to the cache only; what is not admissible ends with them, and so only
admissible submissions come to the rest. -/
theorem spares_admitSubmission_bind {β : Type} {sub : Submission} {next : Int → Handler β}
    {w : World} :
    Spares World.stores (admitSubmission sub >>= next) w ↔
      (Admissible sub w → Spares World.stores
        (next (nextSeq (w.db.latestOperation sub.agentId))) (reserve sub w).1) := by
  have hFresh : (reserve sub w).2 = true ↔
      w.cache.live w.clock (nonceKey sub.orgId sub.nonce) = none := by
    cases hLive : w.cache.live w.clock (nonceKey sub.orgId sub.nonce) with
    | none => simp [reserve, World.setIfAbsent, Cache.setIfAbsent, hLive]
    | some value => simp [reserve, World.setIfAbsent, Cache.setIfAbsent, hLive]
  have hReserve : ∀ s : World, World.stores (reserve sub s).1 = World.stores s := fun _ => rfl
  unfold admitSubmission
  simp only [bind_assoc']
  refine (spares_act_bind (f := reserve sub) hReserve).trans ?_
  simp only [spares_raiseIf_bind, spares_read_bind, spares_require_bind, spares_ofExcept_bind,
    pure_bind']
  have hDb : (reserve sub w).1.db = w.db := rfl
  rw [hDb]
  constructor
  · intro h hAdmissible
    obtain ⟨agent, hAgent, hAgentOk⟩ := hAdmissible.agent
    obtain ⟨key, hKey, hKeyOk, hSigned⟩ := hAdmissible.key
    exact h (by simp [hFresh.2 hAdmissible.nonce]) agent hAgent () hAgentOk key hKey () hKeyOk
      (by simp [hSigned]) (by simp [hAdmissible.head])
  · intro h hNonce agent hAgent _ hAgentOk key hKey _ hKeyOk hSigned hHead
    exact h {
      nonce := hFresh.1 (by simpa using hNonce)
      agent := ⟨agent, hAgent, hAgentOk⟩
      key := ⟨key, hKey, hKeyOk, by simpa using hSigned⟩
      head := by simpa using hHead }

/-- After its checks every route stores the record. -/
theorem ingest_stores (settings : Settings) (req : IngestRequest) :
    ∃ (key : String) (body : Body) (rest : Int → Int → Handler IngestResponse),
      ingest settings req = (do
        let receivedAt ← read World.now
        ofExcept (req.validate settings receivedAt)
        let seqNo ← admitSubmission (req.submission settings)
        write fun w => w.put key body
        rest receivedAt seqNo) := by
  cases req with
  | submit rec receiptId =>
      simp only [ingest, submitOperation, bind_assoc']
      exact ⟨_, _, _, rfl⟩
  | decide rec govApp latencyMs =>
      simp only [ingest, Governance.decide, ingestPrefix, bind_assoc']
      exact ⟨_, _, _, rfl⟩
  | record rec =>
      simp only [ingest, Governance.record, ingestPrefix, bind_assoc']
      exact ⟨_, _, _, rfl⟩

/-- Storing an object changes the stores, if not in this world then in an empty one. -/
theorem not_spares_put_bind {β : Type} {key : String} {body : Body} {next : Unit → Handler β}
    {w : World} : ¬ Spares World.stores (write (fun w => w.put key body) >>= next) w := by
  intro h
  have hEmpty := h.1 { w with objects := [] }
  cases congrArg Prod.snd hEmpty

/-- **An ingest stores nothing exactly when its checks refuse it.** -/
theorem spares_ingest_iff {w : World} {req : IngestRequest} :
    Spares World.stores (ingest settings req) w ↔ Refused settings w req := by
  obtain ⟨key, body, rest, hIngest⟩ := ingest_stores settings req
  rw [hIngest, spares_read_bind, spares_ofExcept_bind]
  constructor
  · rintro h ⟨hValid, hAdmissible⟩
    exact not_spares_put_bind (spares_admitSubmission_bind.1 (h () hValid) hAdmissible)
  · intro h u hValid
    exact spares_admitSubmission_bind.2 fun hAdmissible => absurd ⟨hValid, hAdmissible⟩ h

/-- A refused ingest answers with an error. -/
theorem run_ingest_refused {w : World} {req : IngestRequest} (h : Refused settings w req) :
    ∃ e, (Async.run (ingest settings req) w).2 = .error e := by
  obtain ⟨body, hBody⟩ := ingest_eq settings req
  rw [hBody, run_read_bind, run_ofExcept_bind]
  cases hValid : req.validate settings w.now with
  | error e => exact ⟨e, rfl⟩
  | ok u =>
      have hChecks : ¬ Admissible (req.submission settings) w := fun hAdmissible =>
        h ⟨hValid, hAdmissible⟩
      obtain ⟨e, hRun⟩ := run_admitSubmission_refused (body w.now) hChecks
      exact ⟨e, congrArg Prod.snd hRun⟩

end Refused

/-! ## Later submissions -/

/-- No submission with the given nonce key arrives before `expires`. -/
def NotReusedBefore {settings : Settings} (key : String) (expires : Int)
    (p : Pool (ingestService settings)) : Event (ingestService settings) → Prop
  | .request (req : IngestRequest) => req.nonceKey = key → expires < p.state.clock
  | .resume _ _ => True
  | .external _ => True

instance {settings : Settings} (key : String) (expires : Int)
    (p : Pool (ingestService settings)) (e : Event (ingestService settings)) :
    Decidable (NotReusedBefore key expires p e) := by
  unfold NotReusedBefore
  split <;> infer_instance

section Later

variable {settings : Settings} {orgId nonce : String} {expires : Int}

/-- The handlers do not move the clock. -/
private abbrev KeepsClock (prog : Handler IngestResponse) : Prop :=
  Steps (fun _ => True) (fun w w' : World => w'.clock = w.clock) (fun _ => True) prog

private theorem ingest_keepsClock (req : IngestRequest) : KeepsClock (ingest settings req) := by
  exact (ingest_steps req).guarantee fun _ _ h => h.handlerStep.clock_eq

/-- Once the reservation has expired, later runs do not depend on it. -/
private theorem run_expired {p p' : Pool (ingestService settings)}
    (later : List (Event (ingestService settings)))
    (hThreads : ∀ t ∈ p.threads, Agree (Veiled (nonceKey orgId nonce) expires) t.2)
    (hClock : ∀ t ∈ p.threads, KeepsClock t.2) (hSame : p.threads = p'.threads)
    (hVeiled : Veiled (nonceKey orgId nonce) expires p.state p'.state)
    (hExpired : expires < p.state.clock) :
    (p.run later).threads = (p'.run later).threads := by
  refine (Pool.run_agree (R := fun w w' =>
    Veiled (nonceKey orgId nonce) expires w w' ∧ expires < w.clock) ?_ later
    (fun r _ => expired_blind.ingest settings r trivial) (fun t ht => ?_) hSame
    ⟨hVeiled, hExpired⟩).1
  · intro ns w w' h
    exact ⟨h.1.tick ns, Int.lt_of_lt_of_le h.2 (w.clock_tick ns)⟩
  · refine (hThreads t ht).restrict (hClock t ht) ?_
    intro w w' hPast hSame
    show expires < w'.clock
    rw [hSame]
    exact hPast

/-- **Later runs** from worlds that are the same up to one reservation go alike, as long as
nobody uses the nonce of it before it expires. -/
theorem run_veiled {p p' : Pool (ingestService settings)}
    (later : List (Event (ingestService settings)))
    (hThreads : ∀ t ∈ p.threads, Agree (Veiled (nonceKey orgId nonce) expires) t.2)
    (hClock : ∀ t ∈ p.threads, KeepsClock t.2) (hSame : p.threads = p'.threads)
    (hVeiled : Veiled (nonceKey orgId nonce) expires p.state p'.state)
    (hLater : p'.Along (NotReusedBefore (nonceKey orgId nonce) expires) later) :
    (p.run later).threads = (p'.run later).threads := by
  induction later generalizing p p' with
  | nil => exact hSame
  | cons e later ih =>
      by_cases hReused : ∃ req, e = .request req ∧ req.nonceKey = nonceKey orgId nonce
      · obtain ⟨req, rfl, hKey⟩ := hReused
        have hExpired : expires < p.state.clock := hVeiled.clock ▸ hLater.1 hKey
        exact run_expired (.request req :: later) hThreads hClock hSame hVeiled hExpired
      · have hReqs : ∀ req : IngestRequest,
            (.request req : Event (ingestService settings)) ∈ [e] →
              Agree (Veiled (nonceKey orgId nonce) expires) (ingest settings req) := by
          intro req hReq
          refine veiled_blind.ingest settings req fun hKey => ?_
          exact hReused ⟨req, (List.mem_singleton.1 hReq).symm, hKey⟩
        obtain ⟨hSame', hVeiled', hThreads'⟩ :=
          Pool.run_agree (fun ns _ _ h => h.tick ns) [e] hReqs hThreads hSame hVeiled
        have hClock' : ∀ t ∈ (p.run [e]).threads, KeepsClock t.2 :=
          Pool.run_threads (T := fun _ prog => KeepsClock prog)
            (fun _ _ _ w h => (h w trivial).2) (fun _ res => by cases res <;> trivial) [e]
            (fun req _ => ingest_keepsClock req) hClock
        exact ih hThreads' hClock' hSame' hVeiled' hLater.2

/-- What is kept by every handler of a run from empty tables. -/
theorem served_threads {now : Int} {agents : List Agent} {agentKeys : List AgentKey}
    {events : List (Event (ingestService settings))}
    {T : IngestRequest → Handler IngestResponse → Prop}
    (hNext : ∀ r upd k w, T r (.await upd k) → T r (k w)) (hDone : ∀ r res, T r (.done res))
    (hStart : ∀ r, T r (ingest settings r)) :
    ∀ t ∈ (served settings now agents agentKeys events).threads, T t.1 t.2 :=
  Pool.run_threads hNext hDone events (fun r _ => hStart r) (by simp [Pool.start])

end Later

/-- **A refused submission without influence.**  In every reachable state, with
whatever is in flight there, every handler takes the same course after a refused
submission as without it, if no submission in flight or later uses its nonce key
before the reservation expires. -/
theorem refused_without_influence (settings : Settings) (now : Int) (agents : List Agent)
    (agentKeys : List AgentKey) (events : List (Event (ingestService settings)))
    (req : IngestRequest) (later : List (Event (ingestService settings)))
    (hRefused : Refused settings (served settings now agents agentKeys events).state req)
    (hFlight : ∀ t ∈ (served settings now agents agentKeys events).threads,
      IngestRequest.nonceKey t.1 = req.nonceKey → ∃ r, t.2 = .done r)
    (hLater : (served settings now agents agentKeys events).Along
      (NotReusedBefore req.nonceKey
        (req.reservedUntil settings (served settings now agents agentKeys events).state))
      later) :
    (Pool.run
        { served settings now agents agentKeys events with
          state := afterSubmission settings (served settings now agents agentKeys events).state
            req }
        later).threads =
      (served settings now agents agentKeys (events ++ later)).threads := by
  rw [served_append]
  -- what is in flight does not see the reservation
  have hThreads : ∀ t ∈ (served settings now agents agentKeys events).threads,
      Agree (Veiled req.nonceKey
        (req.reservedUntil settings (served settings now agents agentKeys events).state)) t.2 := by
    intro t ht
    by_cases hKey : IngestRequest.nonceKey t.1 = req.nonceKey
    · obtain ⟨r, hDone⟩ := hFlight t ht hKey
      rw [hDone]
      trivial
    · exact served_threads
        (T := fun r prog => IngestRequest.nonceKey r ≠ req.nonceKey → Agree _ prog)
        (fun r _ _ w h hOther => (h hOther w w (Veiled.refl _ _ w)).2.2)
        (fun _ _ _ => trivial)
        (fun r hOther => veiled_blind.ingest settings r hOther) t ht hKey
  have hClock : ∀ t ∈ (served settings now agents agentKeys events).threads,
      KeepsClock t.2 :=
    served_threads (T := fun _ prog => KeepsClock prog)
      (fun _ _ _ w h => (h w trivial).2) (fun _ res => by cases res <;> trivial)
      ingest_keepsClock
  exact run_veiled later hThreads hClock rfl (afterSubmission_refused hRefused) hLater

/-! ## A forged submission -/

namespace Sample

/-- A submission of the first operation's nonce with a signature that does not
verify. -/
def forged : IngestRequest :=
  .submit { operation "op0" "n" 1000 genesisChainHash with signature := "forged" } "r0"

/-- The first operation, submitted and run to its end. -/
def genuine : List (Event (ingestService settings)) :=
  served (.submit (firstOperation 1000) "r1") 0 9

/-- The server before its first request. -/
def world : World := World.initial 1000 agents agentKeys

/-- How the submissions of a run from a world end. -/
def answers (w : World) (events : List (Event (ingestService settings))) :
    List (Except Failure IngestResponse) :=
  ((Pool.start w).run events).threads.filterMap fun t =>
    match t.2 with
    | .done r => some r
    | .await _ _ => none

end Sample

/-- A forged submission makes the server refuse the genuine one that follows it. -/
theorem forged_submission_interferes :
    (Async.run (ingest Sample.settings Sample.forged) Sample.world).2 =
        .error (.app (.plain 400 .invalidSignature)) ∧
      Sample.answers (afterSubmission Sample.settings Sample.world Sample.forged)
        Sample.genuine = [.error replayDetected] ∧
      Sample.answers (afterSubmission Sample.settings Sample.world Sample.forged)
        Sample.genuine ≠ Sample.answers Sample.world Sample.genuine := by
  decide +kernel

namespace Sample

theorem forged_refused : Refused settings world forged := by
  rintro ⟨-, hAdmissible⟩
  obtain ⟨key, hFound, -, hSigned⟩ := hAdmissible.key
  have hKey : world.db.findAgentKey "k" "a" = some ⟨"k", "a", "pk", .active⟩ := by decide +kernel
  obtain rfl : (⟨"k", "a", "pk", .active⟩ : AgentKey) = key :=
    Option.some.inj (hKey.symm.trans hFound)
  exact absurd hSigned (by decide +kernel)

end Sample

/-- The forged submission has no influence on a submission with another nonce. -/
theorem refused_without_influence_sample :
    (Pool.run
        { served Sample.settings 1000 Sample.agents Sample.agentKeys [] with
          state := afterSubmission Sample.settings Sample.world Sample.forged }
        (Sample.served (.submit (Sample.operation "op1" "n2" 1000 genesisChainHash) "r1")
          0 9)).threads =
      (served Sample.settings 1000 Sample.agents Sample.agentKeys
        (Sample.served (.submit (Sample.operation "op1" "n2" 1000 genesisChainHash) "r1")
          0 9)).threads :=
  refused_without_influence Sample.settings 1000 Sample.agents Sample.agentKeys [] Sample.forged _
    Sample.forged_refused (by simp [served, Pool.start]) (by decide +kernel)

end AgentShield.Server
