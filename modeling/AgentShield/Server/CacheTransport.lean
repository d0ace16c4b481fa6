import AgentShield.Governance.Delivery
import AgentShield.Server.Governance

/-!
# Channel 2 over the server's cache

The transport that reads the streams of the server's cache, with a cursor for each
group, and what the three transports have in common: a call that fails, or is stopped,
before it has acknowledged what it read leaves entries that no later read returns.
-/

namespace AgentShield.Server

open AgentShield.Lib AgentShield.Lib.Async AgentShield.Sdk AgentShield.Governance

/-- The entries of a stream with their ids, which count from one. -/
def Cache.xrange (c : Cache) (stream : String) : List StreamEntry :=
  (c.entries stream).zipIdx.map fun (fields, n) => ⟨toString (n + 1) ++ "-0", fields⟩

theorem Cache.xrange_nodup (c : Cache) (stream : String) :
    ((c.xrange stream).map StreamEntry.id).Nodup := by
  have hIds : (c.xrange stream).map StreamEntry.id =
      (List.range' 0 (c.entries stream).length).map fun n => toString (n + 1) ++ "-0" := by
    rw [← List.zipIdx_map_snd 0 (c.entries stream)]
    simp only [xrange, List.map_map, Function.comp_def]
  rw [hIds]
  refine (List.nodup_range' _).map fun m n hEq => ?_
  have hSame := entryId_injective hEq
  omega

theorem Cache.xrange_prefix {c c' : Cache} (h : c.Extends c') (stream : String) :
    c.xrange stream <+: c'.xrange stream := by
  obtain ⟨more, hMore⟩ := h stream
  unfold xrange
  rw [← hMore, List.zipIdx_append]
  exact (List.prefix_append _ _).map _

structure CacheChannel2 where
  cache : Cache := {}
  cursor : Dict (String × String) Nat := []
  acked : List (String × String × String) := []
  deriving DecidableEq

namespace CacheChannel2

variable {t : CacheChannel2}

def position (t : CacheChannel2) (stream group : String) : Nat :=
  (Dict.get? t.cursor (stream, group)).getD 0

def ensureGroup (t : CacheChannel2) (stream group : String) : CacheChannel2 :=
  { t with
    cache := t.cache.ensureGroup stream group
    cursor := setDefault t.cursor (stream, group) 0 }

def read (t : CacheChannel2) (stream group : String) (count : Int) :
    CacheChannel2 × List StreamEntry :=
  if count ≤ 0 then (t, [])
  else
    let entries := t.cache.xrange stream
    let pos := t.position stream group
    let batch := slice entries pos (pos + count)
    ({ t with cursor := Dict.set t.cursor (stream, group) (pos + batch.length) }, batch)

def ack (t : CacheChannel2) (stream group : String) (ids : List String) : CacheChannel2 :=
  { t with acked := t.acked ++ ids.map fun i => (stream, group, i) }

def transport : Channel2Transport CacheChannel2 where
  ensureGroup stream group t := (t.ensureGroup stream group, .ok ())
  read stream group _ count _ t := let (t, batch) := t.read stream group count; (t, .ok batch)
  ack stream group ids t := (t.ack stream group ids, .ok ())
  xadd stream fields t := { t with cache := t.cache.xadd stream fields }

/-- The entries before the cursor of the group. -/
def given (t : CacheChannel2) (stream group : String) : List StreamEntry :=
  (t.cache.xrange stream).take (t.position stream group)

theorem given_read (stream group : String) (count : Int) (st g : String) :
    (t.read stream group count).1.given st g =
      if (stream, group) = (st, g) then t.given stream group ++ (t.read stream group count).2
      else t.given st g := by
  unfold read
  by_cases hCount : count ≤ 0
  · rw [if_pos hCount]
    by_cases hSame : (stream, group) = (st, g)
    · obtain ⟨rfl, rfl⟩ := Prod.mk.inj hSame
      rw [if_pos rfl, List.append_nil]
    · rw [if_neg hSame]
  · rw [if_neg hCount]
    unfold given position
    simp only
    rw [Dict.get?_set]
    by_cases hSame : (stream, group) = (st, g)
    · obtain ⟨rfl, rfl⟩ := Prod.mk.inj hSame
      rw [if_pos rfl, if_pos rfl]
      exact take_cursor (slice_initial _ _ _)
    · rw [if_neg hSame, if_neg hSame]

theorem batch_initial (stream group : String) (count : Int) :
    (t.read stream group count).2 <+:
      (t.cache.xrange stream).drop (t.position stream group) := by
  unfold read
  split
  · exact List.nil_prefix
  · exact slice_initial _ _ _

/-- Nothing that was given is taken back when streams only grow. -/
theorem given_mono (t' : CacheChannel2) (hCache : t.cache.Extends t'.cache)
    {stream group : String} (hPosition : t'.position stream group = t.position stream group)
    {id : String} (hId : id ∈ (t.given stream group).map StreamEntry.id) :
    id ∈ (t'.given stream group).map StreamEntry.id := by
  obtain ⟨entry, hEntry, rfl⟩ := List.mem_map.1 hId
  refine List.mem_map_of_mem ?_
  unfold given
  rw [hPosition]
  exact mem_take_mono (Cache.xrange_prefix hCache stream) hEntry

/-- The transport over the cache returns an entry once: the cursor of a group is moved with
the entries that a read returns. -/
def deliversOnce : DeliversOnce transport where
  Ok _ := True
  Delivered t stream group id := id ∈ (t.given stream group).map StreamEntry.id
  ensureGroup {t} stream group _ :=
    ⟨trivial, fun _ _ _ hId => given_mono (t.ensureGroup stream group)
      (t.cache.sameStreams_ensureGroup stream group).extends
      (InMemoryChannel2.get?_setDefault _ _ _ _) hId⟩
  read {t} stream group consumer count blockMs _ := by
    refine ⟨trivial, fun st g id hId => ?_⟩
    show id ∈ ((t.read stream group count).1.given st g).map StreamEntry.id
    rw [given_read]
    by_cases hSame : (stream, group) = (st, g)
    · obtain ⟨rfl, rfl⟩ := Prod.mk.inj hSame
      rw [if_pos rfl, List.map_append]
      exact List.mem_append_left _ hId
    · rw [if_neg hSame]
      exact hId
  ack _ _ _ _ := ⟨trivial, fun _ _ _ hId => hId⟩
  xadd {t} stream fields _ :=
    ⟨trivial, fun _ _ _ hId => given_mono { t with cache := t.cache.xadd stream fields }
      (t.cache.extends_xadd stream fields) rfl hId⟩
  fresh {t stream group consumer count blockMs batch} _ hRead := by
    have hBatch : (t.read stream group count).2 = batch := by
      injection hRead
    subst hBatch
    obtain ⟨hNodup, hApart⟩ :=
      fresh_cursor (t.cache.xrange_nodup stream) (batch_initial stream group count)
    refine ⟨hNodup, fun entry hEntry => ⟨hApart entry hEntry, ?_⟩⟩
    show entry.id ∈ ((t.read stream group count).1.given stream group).map StreamEntry.id
    rw [given_read, if_pos rfl, List.map_append]
    exact List.mem_append_right _ (List.mem_map_of_mem hEntry)

end CacheChannel2

/-! ## The three transports -/

/-- A transport of the repository with a state in which a run begins.  Of a Redis outside the
repository only that it hands out new entries once is used. -/
inductive Shipped : {σ : Type} → Channel2Transport σ → σ → Prop
  | inMemory : Shipped InMemoryChannel2.transport {}
  | cache (c : Cache) : Shipped CacheChannel2.transport { cache := c }
  | redis {σ : Type} (redis : RedisStreams σ) (h : redis.NewOnly) (s : σ) :
      Shipped redis.transport s

theorem Shipped.deliversOnce {σ : Type} {t : Channel2Transport σ} {start : σ}
    (h : Shipped t start) : ∃ law : DeliversOnce t, law.Ok start := by
  cases h with
  | inMemory =>
      have hEmpty : InMemoryChannel2.WellFormed {} := by
        intro stream
        exact ⟨List.nodup_nil, fun entry hEntry => by cases hEntry⟩
      exact ⟨InMemoryChannel2.deliversOnce, hEmpty⟩
  | cache c => exact ⟨CacheChannel2.deliversOnce, True.intro⟩
  | redis redis hRedis => exact ⟨RedisStreams.deliversOnce hRedis, True.intro⟩

/-- **At-least-once delivery on Channel 2.**  No transport returns an entry again, so
delivery is at least once exactly where nothing that parses is left unacknowledged, and
that is so when every call sees its batch through. -/
theorem channel2_at_least_once {σ τ : Type} {t : Channel2Transport σ} {start : σ}
    (hShipped : Shipped t start) (model : RecordModel) (fault : Raised) (outside : τ)
    (events : List (Event (channelService (τ := τ) t model fault))) :
    (AtLeastOnce (channelRun t model fault start outside events) ↔
      ∀ x, ¬ Unacknowledged model (channelRun t model fault start outside events).state x) ∧
    ((Pool.start { transport := start, outside := outside }).Along SeesThrough events →
      (∀ th ∈ (channelRun t model fault start outside events).threads, th.2.finished = true) →
        AtLeastOnce (channelRun t model fault start outside events)) := by
  obtain ⟨law, hStart⟩ := hShipped.deliversOnce
  have hIff : AtLeastOnce (channelRun t model fault start outside events) ↔
      ∀ x, ¬ Unacknowledged model (channelRun t model fault start outside events).state x :=
    atLeastOnce_iff law hStart
  exact ⟨hIff, fun hRun hIdle => hIff.2 fun x => nothing_left hRun hIdle x⟩

/-! ## A handler that fails -/

namespace Sample

/-- A Redis server with its streams, and the cursor of each group.  A group that is made twice
is an error of its own, which the transport expects. -/
def redis : RedisStreams CacheChannel2 where
  xgroupCreate stream group t :=
    match Dict.get? t.cursor (stream, group) with
    | some _ => (t, .error (.responseError "BUSYGROUP Consumer Group name already exists"))
    | none => (t.ensureGroup stream group, .ok ())
  xreadgroup group _ stream count _ t :=
    let (t, batch) := t.read stream group count
    if batch = [] then (t, .ok none)
    else (t, .ok (some [(stream, batch.map fun entry => (entry.id, entry.fields))]))
  xack stream group ids t := (t.ack stream group ids, .ok ())
  xadd stream fields t := { t with cache := t.cache.xadd stream fields }

/-- It answers with the batch after the cursor. -/
theorem xreadgroup_redis (t : CacheChannel2) (group consumer stream : String)
    (count block : Int) :
    ∃ resp, redis.xreadgroup group consumer stream count block t =
        ((t.read stream group count).1, .ok resp) ∧
      RedisStreams.messages resp = (t.read stream group count).2 := by
  by_cases hEmpty : (t.read stream group count).2 = []
  · refine ⟨none, ?_, hEmpty.symm⟩
    simp only [redis, hEmpty, if_true]
  · refine ⟨some [(stream, (t.read stream group count).2.map fun entry =>
      (entry.id, entry.fields))], ?_, ?_⟩
    · simp only [redis, hEmpty, if_false]
    · simp [RedisStreams.messages, Function.comp_def]

/-- It returns new entries only, since its reads are those of the transport over the cache. -/
def redisNewOnly : redis.NewOnly where
  Delivered := CacheChannel2.deliversOnce.Delivered
  xgroupCreate t stream group st g id hId := by
    simp only [redis]
    split
    · exact hId
    · exact (CacheChannel2.deliversOnce.ensureGroup stream group trivial).2 st g id hId
  xreadgroup t group consumer stream count block st g id hId := by
    obtain ⟨resp, hCall, -⟩ := xreadgroup_redis t group consumer stream count block
    rw [hCall]
    exact (CacheChannel2.deliversOnce.read stream group consumer count block trivial).2
      st g id hId
  xack t stream group ids st g id hId := hId
  xadd t stream fields st g id hId :=
    (CacheChannel2.deliversOnce.xadd stream fields trivial).2 st g id hId
  fresh {t group consumer stream count block resp} hResp := by
    obtain ⟨resp', hCall, hMessages⟩ := xreadgroup_redis t group consumer stream count block
    rw [hCall] at hResp ⊢
    obtain rfl := Except.ok.inj hResp
    rw [hMessages]
    have hRead : (CacheChannel2.transport.read stream group consumer count block t).2 =
        .ok (t.read stream group count).2 := rfl
    exact CacheChannel2.deliversOnce.fresh trivial hRead

/-- Two records that parse. -/
def parser : RecordModel where
  modelValidateJson raw :=
    if raw = "first" then some (action "rec1" "n1" .postExec 1000 genesisChainHash "ph")
    else if raw = "second" then some (action "rec2" "n2" .postExec 1000 genesisChainHash "ph")
    else none
  modelValidate _ := none

/-- The calls on that server. -/
abbrev consumers : Service (Channel CacheChannel2 Unit) Raised :=
  channelService redis.transport parser (.other "stopped")

/-- A call whose handler fails for the first record. -/
def failing : RunOnce Unit where
  workflowId := "w"
  handler record := if record.recordId = "rec1" then raise (.other "guardian") else pure ()

def working : RunOnce Unit where
  workflowId := "w"
  handler _ := pure ()

def publish (record : String) : Event consumers :=
  .external (.xadd (streamKey "w" defaultStreamPrefix) [("record", record)])

/-- The handler fails for the first record of a batch of two, and a later call reads
again. -/
def crashed : List (Event consumers) :=
  publish "first" :: publish "second" :: .request failing ::
    List.replicate 2 (.resume 0 .none) ++ .request working :: List.replicate 2 (.resume 1 .none)

/-- The batch is handled without a failure. -/
def seenThrough : List (Event consumers) :=
  publish "first" :: publish "second" :: .request working :: List.replicate 4 (.resume 0 .none)

/-- The second record of the batch, as it was read. -/
def sibling : String × String × StreamEntry :=
  ("shield:actions:w", defaultGroup, ⟨"2-0", [("record", "second")]⟩)

end Sample

/-- After a failing handler neither its entry nor the next one of the batch is read
again. -/
theorem crashed_batch_not_redelivered :
    (∀ th ∈ (channelRun Sample.redis.transport Sample.parser (.other "stopped") {} ()
        Sample.crashed).threads, th.2.finished = true) ∧
      ¬ AtLeastOnce (channelRun Sample.redis.transport Sample.parser (.other "stopped") {} ()
        Sample.crashed) := by
  refine ⟨by decide +kernel, fun h => ?_⟩
  have hLeft := (atLeastOnce_iff (RedisStreams.deliversOnce Sample.redisNewOnly) trivial).1 h
  have hReturned : Sample.sibling ∈ (channelRun Sample.redis.transport Sample.parser
      (.other "stopped") {} () Sample.crashed).state.returned := by decide +kernel
  have hAcked : (channelRun Sample.redis.transport Sample.parser (.other "stopped") {} ()
      Sample.crashed).state.acked = [] := by decide +kernel
  refine hLeft Sample.sibling ⟨hReturned, by decide +kernel, ?_⟩
  unfold Acknowledged
  rw [hAcked]
  exact List.not_mem_nil

theorem channel2_at_least_once_sample :
    AtLeastOnce (channelRun Sample.redis.transport Sample.parser (.other "stopped") {} ()
      Sample.seenThrough) := by
  have hClean : (Pool.start { transport := ({} : CacheChannel2), outside := () }).Along
      (fun p e => p.clean e = true) Sample.seenThrough := by
    decide +kernel
  exact (channel2_at_least_once (.redis Sample.redis Sample.redisNewOnly {}) Sample.parser
    (.other "stopped") () Sample.seenThrough).2
    (hClean.mono fun p e h x _ _ => Pool.not_loses_of_clean h) (by decide +kernel)

end AgentShield.Server
