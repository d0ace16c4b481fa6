import Mathlib.Data.List.Nodup
import AgentShield.Lib.Obligation
import AgentShield.Governance.Channel2

/-!
# What the consumer delivers

No transport returns an entry to a group twice (`DeliversOnce`).  An entry that a call
has read and not acknowledged when it ends is therefore never read again, whatever
follows: delivery is at least once exactly when every call acknowledges all the
entries that it has read and that parse.
-/

namespace AgentShield.Governance

open AgentShield.Lib AgentShield.Lib.Async AgentShield.Sdk

/-! ## Transports that return an entry once -/

/-- `Delivered s stream group id`: the group has been given the entry.  What has been
given stays given, and a read gives what has not been given. -/
structure DeliversOnce {σ : Type} (t : Channel2Transport σ) where
  Ok : σ → Prop
  Delivered : σ → String → String → String → Prop
  ensureGroup : ∀ {s} (stream group : String), Ok s →
    Ok (t.ensureGroup stream group s).1 ∧
      ∀ st g id, Delivered s st g id → Delivered (t.ensureGroup stream group s).1 st g id
  read : ∀ {s} (stream group consumer : String) (count blockMs : Int), Ok s →
    Ok (t.read stream group consumer count blockMs s).1 ∧
      ∀ st g id, Delivered s st g id →
        Delivered (t.read stream group consumer count blockMs s).1 st g id
  ack : ∀ {s} (stream group : String) (ids : List String), Ok s →
    Ok (t.ack stream group ids s).1 ∧
      ∀ st g id, Delivered s st g id → Delivered (t.ack stream group ids s).1 st g id
  xadd : ∀ {s} (stream : String) (fields : List (String × String)), Ok s →
    Ok (t.xadd stream fields s) ∧
      ∀ st g id, Delivered s st g id → Delivered (t.xadd stream fields s) st g id
  fresh : ∀ {s} {stream group consumer : String} {count blockMs : Int}
    {batch : List StreamEntry}, Ok s →
    (t.read stream group consumer count blockMs s).2 = .ok batch →
      (batch.map StreamEntry.id).Nodup ∧ ∀ entry ∈ batch,
        ¬ Delivered s stream group entry.id ∧
          Delivered (t.read stream group consumer count blockMs s).1 stream group entry.id

/-! ### A log with a cursor -/

section Cursor

variable {α β : Type}

/-- The cursor moves over the batch. -/
theorem take_cursor {xs batch : List α} {pos : Nat} (h : batch <+: xs.drop pos) :
    xs.take (pos + batch.length) = xs.take pos ++ batch := by
  obtain ⟨rest, hRest⟩ := h
  rw [List.take_add, ← hRest, List.take_left]

/-- A batch after the cursor has nothing in common with what lies before it. -/
theorem fresh_cursor {xs batch : List α} {pos : Nat} {f : α → β} (hNodup : (xs.map f).Nodup)
    (h : batch <+: xs.drop pos) :
    (batch.map f).Nodup ∧ ∀ a ∈ batch, f a ∉ (xs.take pos).map f := by
  have hTake : (xs.take pos ++ batch).map f <+: xs.map f := by
    rw [← take_cursor h]
    exact (List.take_prefix _ _).map f
  have hBoth := hNodup.sublist hTake.sublist
  rw [List.map_append, List.nodup_append] at hBoth
  obtain ⟨-, hBatch, hApart⟩ := hBoth
  exact ⟨hBatch, fun a ha hBefore => hApart _ hBefore _ (List.mem_map_of_mem ha) rfl⟩

theorem mem_take_mono {xs ys : List α} (h : xs <+: ys) {pos : Nat} {a : α}
    (ha : a ∈ xs.take pos) : a ∈ ys.take pos := by
  obtain ⟨rest, rfl⟩ := h
  rw [List.take_append]
  exact List.mem_append_left _ ha

theorem slice_initial (xs : List α) (start : Nat) (stop : Int) :
    slice xs start stop <+: xs.drop start := by
  unfold slice
  rw [List.drop_take]
  exact List.take_prefix _ _

/-- The id of the entry at a position. -/
theorem entryId_injective {m n : Nat} (h : toString m ++ "-0" = toString n ++ "-0") : m = n := by
  have hChars := congrArg String.toList h
  rw [String.toList_append, String.toList_append] at hChars
  have hDigits := List.append_cancel_right hChars
  simp only [toString, Nat.repr_eq_ofList_toDigits, String.toList_ofList] at hDigits
  have hSame := congrArg (fun l => Nat.ofDigitChars 10 l 0) hDigits
  simpa only [Nat.ofDigitChars_ten_toDigits] using hSame

end Cursor

/-! ### The transport in memory -/

namespace InMemoryChannel2

variable {t : InMemoryChannel2}

/-- The ids of a stream are those of the counter, each once. -/
def WellFormed (t : InMemoryChannel2) : Prop :=
  ∀ stream, ((t.entries stream).map StreamEntry.id).Nodup ∧
    ∀ entry ∈ t.entries stream, ∃ k ≤ t.seq, entry.id = toString k ++ "-0"

/-- The entries before the cursor of the group. -/
def given (t : InMemoryChannel2) (stream group : String) : List StreamEntry :=
  (t.entries stream).take (t.position stream group)

theorem get?_setDefault {κ ν : Type} [DecidableEq κ] (d : Dict κ ν) (k k' : κ) (v : ν) :
    (Dict.get? (setDefault d k v) k').getD v = (Dict.get? d k').getD v := by
  unfold setDefault
  cases hk : Dict.get? d k with
  | some _ => rfl
  | none =>
      by_cases hSame : k = k'
      · subst hSame
        simp [hk]
      · rw [Dict.get?_set_ne _ _ hSame]

theorem entries_ensureGroup (stream group st : String) :
    (t.ensureGroup stream group).entries st = t.entries st :=
  get?_setDefault _ _ _ _

theorem position_ensureGroup (stream group st g : String) :
    (t.ensureGroup stream group).position st g = t.position st g :=
  get?_setDefault _ _ _ _

theorem entries_publish (stream : String) (fields : List (String × String)) (st : String) :
    (t.publish stream fields).entries st =
      if stream = st then t.entries stream ++ [⟨toString (t.seq + 1) ++ "-0", fields⟩]
      else t.entries st := by
  unfold entries publish
  simp only
  rw [Dict.get?_set]
  split <;> rfl

theorem publish_initial (stream : String) (fields : List (String × String)) (st : String) :
    t.entries st <+: (t.publish stream fields).entries st := by
  rw [entries_publish]
  by_cases hSame : stream = st
  · subst hSame
    rw [if_pos rfl]
    exact List.prefix_append _ _
  · simp only [if_neg hSame, List.prefix_rfl]

theorem wellFormed_publish (h : t.WellFormed) (stream : String)
    (fields : List (String × String)) : (t.publish stream fields).WellFormed := by
  intro st
  obtain ⟨hNodup, hIds⟩ := h st
  have hOld : ∀ entry ∈ t.entries st, ∃ k ≤ t.seq + 1, entry.id = toString k ++ "-0" := by
    intro entry hEntry
    obtain ⟨k, hk, hId⟩ := hIds entry hEntry
    exact ⟨k, by omega, hId⟩
  rw [entries_publish]
  by_cases hSame : stream = st
  · subst hSame
    rw [if_pos rfl]
    constructor
    · rw [List.map_append, List.nodup_append]
      refine ⟨hNodup, List.nodup_singleton _, ?_⟩
      intro id hOld id' hNew hEq
      obtain ⟨entry, hEntry, rfl⟩ := List.mem_map.1 hOld
      obtain rfl := List.mem_singleton.1 hNew
      obtain ⟨k, hk, hId⟩ := hIds entry hEntry
      have hk' := entryId_injective (hId.symm.trans hEq)
      omega
    · intro entry hEntry
      rcases List.mem_append.1 hEntry with hEntry | hEntry
      · exact hOld entry hEntry
      · obtain rfl := List.mem_singleton.1 hEntry
        exact ⟨t.seq + 1, Nat.le_refl _, rfl⟩
  · rw [if_neg hSame]
    exact ⟨hNodup, hOld⟩

theorem given_read (stream group : String) (count : Int) (st g : String) :
    (t.read stream group count).1.given st g =
      if (stream, group) = (st, g) then t.given stream group ++ (t.read stream group count).2
      else t.given st g := by
  unfold given position
  simp only [read]
  rw [Dict.get?_set]
  by_cases hSame : (stream, group) = (st, g)
  · obtain ⟨rfl, rfl⟩ := Prod.mk.inj hSame
    rw [if_pos rfl, if_pos rfl]
    exact take_cursor (slice_initial _ _ _)
  · rw [if_neg hSame, if_neg hSame]
    rfl

/-- The transport in memory returns an entry once, as the position of a group only moves on
and ids are never given twice. -/
def deliversOnce : DeliversOnce transport where
  Ok := WellFormed
  Delivered t stream group id := id ∈ (t.given stream group).map StreamEntry.id
  ensureGroup {t} stream group h := by
    refine ⟨fun st => ?_, fun st g id hId => ?_⟩
    · show (((t.ensureGroup stream group).entries st).map StreamEntry.id).Nodup ∧
        ∀ entry ∈ (t.ensureGroup stream group).entries st,
          ∃ k ≤ t.seq, entry.id = toString k ++ "-0"
      rw [entries_ensureGroup]
      exact h st
    · show id ∈ ((t.ensureGroup stream group).given st g).map StreamEntry.id
      unfold given
      rw [entries_ensureGroup, position_ensureGroup]
      exact hId
  read {t} stream group consumer count blockMs h := by
    refine ⟨h, fun st g id hId => ?_⟩
    show id ∈ ((t.read stream group count).1.given st g).map StreamEntry.id
    rw [given_read]
    by_cases hSame : (stream, group) = (st, g)
    · obtain ⟨rfl, rfl⟩ := Prod.mk.inj hSame
      rw [if_pos rfl, List.map_append]
      exact List.mem_append_left _ hId
    · rw [if_neg hSame]
      exact hId
  ack _ _ _ h := ⟨h, fun _ _ _ hId => hId⟩
  xadd {t} stream fields h := by
    refine ⟨wellFormed_publish h stream fields, fun st g id hId => ?_⟩
    obtain ⟨entry, hEntry, rfl⟩ := List.mem_map.1 hId
    exact List.mem_map_of_mem (mem_take_mono (publish_initial stream fields st) hEntry)
  fresh {t stream group consumer count blockMs batch} h hRead := by
    have hBatch : (t.read stream group count).2 = batch := by
      injection hRead
    subst hBatch
    obtain ⟨hNodup, hApart⟩ := fresh_cursor (h stream).1
      (slice_initial (t.entries stream) (t.position stream group)
        (t.position stream group + count))
    refine ⟨hNodup, fun entry hEntry => ⟨hApart entry hEntry, ?_⟩⟩
    show entry.id ∈ ((t.read stream group count).1.given stream group).map StreamEntry.id
    rw [given_read, if_pos rfl, List.map_append]
    exact List.mem_append_right _ (List.mem_map_of_mem hEntry)

end InMemoryChannel2

/-! ### Redis -/

/-- What is assumed of Redis: `XREADGROUP` with the id `>` returns messages of the stream
that have never been delivered to the group, and no other command undoes a delivery. -/
structure RedisStreams.NewOnly {σ : Type} (redis : RedisStreams σ) where
  Delivered : σ → String → String → String → Prop
  xgroupCreate : ∀ s stream group st g id, Delivered s st g id →
    Delivered (redis.xgroupCreate stream group s).1 st g id
  xreadgroup : ∀ s group consumer stream count block st g id, Delivered s st g id →
    Delivered (redis.xreadgroup group consumer stream count block s).1 st g id
  xack : ∀ s stream group ids st g id, Delivered s st g id →
    Delivered (redis.xack stream group ids s).1 st g id
  xadd : ∀ s stream fields st g id, Delivered s st g id →
    Delivered (redis.xadd stream fields s) st g id
  fresh : ∀ {s group consumer stream count block resp},
    (redis.xreadgroup group consumer stream count block s).2 = .ok resp →
      ((RedisStreams.messages resp).map StreamEntry.id).Nodup ∧
        ∀ entry ∈ RedisStreams.messages resp, ¬ Delivered s stream group entry.id ∧
          Delivered (redis.xreadgroup group consumer stream count block s).1 stream group entry.id

/-- The transport over such a Redis returns an entry once: `ensureGroup` and `read` are calls
of Redis, and what they answer is what Redis hands out. -/
def RedisStreams.deliversOnce {σ : Type} {redis : RedisStreams σ} (h : redis.NewOnly) :
    DeliversOnce redis.transport where
  Ok _ := True
  Delivered := h.Delivered
  ensureGroup {s} stream group _ := by
    refine ⟨trivial, fun st g id hId => ?_⟩
    have hCreate := h.xgroupCreate s stream group st g id hId
    show h.Delivered (redis.ensureGroup stream group s).1 st g id
    unfold RedisStreams.ensureGroup
    split
    · rename_i s' message hCall
      rw [hCall] at hCreate
      split <;> exact hCreate
    · rename_i s' r hCall
      rw [hCall] at hCreate
      exact hCreate
  read {s} stream group consumer count blockMs _ := by
    refine ⟨trivial, fun st g id hId => ?_⟩
    have hRead := h.xreadgroup s group consumer stream count blockMs st g id hId
    simp only [transport]
    split
    · rename_i s' resp hCall
      rw [hCall] at hRead
      exact hRead
    · rename_i s' e hCall
      rw [hCall] at hRead
      exact hRead
  ack {s} stream group ids _ := by
    refine ⟨trivial, fun st g id hId => ?_⟩
    simp only [transport]
    split
    · exact hId
    · exact h.xack s stream group ids st g id hId
  xadd {s} stream fields _ := ⟨trivial, fun st g id hId => h.xadd s stream fields st g id hId⟩
  fresh {s stream group consumer count blockMs batch} _ hRead := by
    simp only [transport] at hRead ⊢
    split at hRead
    · rename_i s' resp hCall
      injection hRead with hBatch
      subst hBatch
      have hFresh := h.fresh (congrArg Prod.snd hCall)
      rw [hCall] at hFresh
      exact hFresh
    · cases hRead

/-! ## What the calls do -/

section Calls

variable {σ τ : Type} {t : Channel2Transport σ} {model : RecordModel}

/-- What one step of a call, or an event outside, does: a call of the transport, an
acknowledgement, an entry that a producer adds, or something beside the channel. -/
inductive ChannelStep (t : Channel2Transport σ) : Channel σ τ → Channel σ τ → Prop
  | rest (w : Channel σ τ) : ChannelStep t w w
  | ensureGroup (stream group : String) (w : Channel σ τ) :
      ChannelStep t w (w.ensureGroup t stream group).1
  | read (stream group consumer : String) (count blockMs : Int) (w : Channel σ τ) :
      ChannelStep t w (w.read t stream group consumer count blockMs).1
  | ack (stream group : String) (ids : List String) (w : Channel σ τ) :
      ChannelStep t w (w.ack t stream group ids).1
  | outside (w : Channel σ τ) (o : τ) : ChannelStep t w { w with outside := o }
  | xadd (stream : String) (fields : List (String × String)) (w : Channel σ τ) :
      ChannelStep t w { w with transport := t.xadd stream fields w.transport }

/-- The loop over a batch only acknowledges, and runs the handler. -/
theorem processEntries_steps {G : Channel σ τ → Channel σ τ → Prop} (stream group : String)
    (hAck : ∀ ids w, G w (w.ack t stream group ids).1)
    (hOutside : ∀ w o, G w { w with outside := o })
    (handler : ShieldActionRecord → Async τ Raised Unit) (entries : List StreamEntry)
    (handled : Nat) :
    Steps (fun _ => True) G (fun _ => True)
      (processEntries t model stream group handler entries handled) := by
  induction entries generalizing handled with
  | nil => exact Steps.pure trivial
  | cons entry rest ih =>
      unfold processEntries
      split
      · exact ih handled
      · refine Steps.bind (Steps.within fun w o _ => hOutside w o) fun _ _ => ?_
        refine Steps.call_bind (fun w _ => hAck _ w) fun _ => ?_
        exact ih (handled + 1)

theorem runOnce_steps (once : RunOnce τ) :
    Steps (fun _ => True) (ChannelStep t) (fun _ => True) (runOnce t model once) := by
  unfold runOnce
  refine Steps.call_bind (fun w _ => .ensureGroup _ _ w) fun _ => ?_
  refine Steps.call_bind (fun w _ => .read _ _ _ _ _ w) fun entries => ?_
  exact processEntries_steps _ _ (fun ids w => .ack _ _ ids w) (fun w o => .outside w o) _ _ _

/-! ### The history -/

variable {w w' : Channel σ τ}

theorem returned_read (stream group consumer : String) (count blockMs : Int)
    (w : Channel σ τ) :
    (w.read t stream group consumer count blockMs).1.returned = w.returned ++
      (match (w.read t stream group consumer count blockMs).2 with
        | .ok batch => batch.map fun entry => (stream, group, entry)
        | .error _ => []) := by
  unfold Channel.read
  split
  · rfl
  · exact (List.append_nil _).symm

theorem returned_ack (stream group : String) (ids : List String) (w : Channel σ τ) :
    (w.ack t stream group ids).1.returned = w.returned := by
  unfold Channel.ack
  split <;> rfl

theorem transport_ack (stream group : String) (ids : List String) (w : Channel σ τ) :
    (w.ack t stream group ids).1.transport = (t.ack stream group ids w.transport).1 := by
  unfold Channel.ack
  split
  · rename_i s hCall
    rw [hCall]
  · rename_i s e hCall
    rw [hCall]

theorem transport_read (stream group consumer : String) (count blockMs : Int)
    (w : Channel σ τ) :
    (w.read t stream group consumer count blockMs).1.transport =
        (t.read stream group consumer count blockMs w.transport).1 ∧
      (w.read t stream group consumer count blockMs).2 =
        (t.read stream group consumer count blockMs w.transport).2 := by
  unfold Channel.read
  split
  · rename_i s batch hCall
    rw [hCall]
    exact ⟨rfl, rfl⟩
  · rename_i s e hCall
    rw [hCall]
    exact ⟨rfl, rfl⟩

/-- The history only grows. -/
theorem history_step (h : ChannelStep t w w') :
    w.returned <+: w'.returned ∧ w.acked <+: w'.acked := by
  cases h with
  | read stream group consumer count blockMs w =>
      refine ⟨?_, ?_⟩
      · rw [returned_read]
        exact List.prefix_append _ _
      · unfold Channel.read
        split <;> exact List.prefix_refl _
  | ack stream group ids w =>
      rw [returned_ack]
      refine ⟨List.prefix_refl _, ?_⟩
      unfold Channel.ack
      split
      · exact List.prefix_append _ _
      · exact List.prefix_refl _
  | _ => exact ⟨List.prefix_refl _, List.prefix_refl _⟩

/-- What an entry that was returned is known by. -/
def deliveryKey (x : String × String × StreamEntry) : String × String × String :=
  (x.1, x.2.1, x.2.2.id)

/-- Everything that was returned counts as delivered, and nothing was returned twice. -/
structure ReturnedOnce (law : DeliversOnce t) (w : Channel σ τ) : Prop where
  ok : law.Ok w.transport
  delivered : ∀ x ∈ w.returned, law.Delivered w.transport x.1 x.2.1 x.2.2.id
  once : (w.returned.map deliveryKey).Nodup

/-- **No step returns an entry again.**  Only a read returns entries, and those it returns are
new by the law of the transport. -/
theorem returnedOnce_step {law : DeliversOnce t} (h : ReturnedOnce law w)
    (hStep : ChannelStep t w w') : ReturnedOnce law w' := by
  cases hStep with
  | rest => exact h
  | outside => exact ⟨h.ok, h.delivered, h.once⟩
  | ensureGroup stream group =>
      obtain ⟨hOk, hKept⟩ := law.ensureGroup stream group h.ok
      exact ⟨hOk, fun x hx => hKept _ _ _ (h.delivered x hx), h.once⟩
  | xadd stream fields =>
      obtain ⟨hOk, hKept⟩ := law.xadd stream fields h.ok
      exact ⟨hOk, fun x hx => hKept _ _ _ (h.delivered x hx), h.once⟩
  | ack stream group ids =>
      obtain ⟨hOk, hKept⟩ := law.ack stream group ids h.ok
      rw [← transport_ack] at hOk hKept
      refine ⟨hOk, fun x hx => ?_, ?_⟩
      · rw [returned_ack] at hx
        exact hKept _ _ _ (h.delivered x hx)
      · rw [returned_ack]
        exact h.once
  | read stream group consumer count blockMs =>
      obtain ⟨hOk, hKept⟩ := law.read stream group consumer count blockMs h.ok
      obtain ⟨hTransport, hResult⟩ := transport_read (t := t) stream group consumer count blockMs w
      rw [← hTransport] at hOk hKept
      have hReturned := returned_read (t := t) stream group consumer count blockMs w
      cases hRead : (w.read t stream group consumer count blockMs).2 with
      | error e =>
          rw [hRead] at hReturned
          simp only [List.append_nil] at hReturned
          refine ⟨hOk, fun x hx => ?_, ?_⟩
          · rw [hReturned] at hx
            exact hKept _ _ _ (h.delivered x hx)
          · rw [hReturned]
            exact h.once
      | ok batch =>
          rw [hRead] at hReturned hResult
          obtain ⟨hNodup, hFresh⟩ := law.fresh h.ok hResult.symm
          rw [← hTransport] at hFresh
          have hKeys : (batch.map fun entry => (stream, group, entry)).map deliveryKey =
              (batch.map StreamEntry.id).map fun id => (stream, group, id) := by
            simp [deliveryKey, Function.comp_def]
          refine ⟨hOk, fun x hx => ?_, ?_⟩
          · rw [hReturned] at hx
            rcases List.mem_append.1 hx with hOld | hNew
            · exact hKept _ _ _ (h.delivered x hOld)
            · obtain ⟨entry, hEntry, rfl⟩ := List.mem_map.1 hNew
              exact (hFresh entry hEntry).2
          · rw [hReturned, List.map_append, List.nodup_append]
            refine ⟨h.once, ?_, ?_⟩
            · rw [hKeys]
              exact hNodup.map fun _ _ hEq => (Prod.mk.inj (Prod.mk.inj hEq).2).2
            · intro key hOld key' hNew hEq
              obtain ⟨x, hx, rfl⟩ := List.mem_map.1 hOld
              rw [hKeys] at hNew
              obtain ⟨id, hId, rfl⟩ := List.mem_map.1 hNew
              obtain ⟨entry, hEntry, rfl⟩ := List.mem_map.1 hId
              obtain ⟨hStream, hRest⟩ := Prod.mk.inj hEq
              obtain ⟨hGroup, hSameId⟩ := Prod.mk.inj hRest
              have hDelivered := h.delivered x hx
              rw [hStream, hGroup, hSameId] at hDelivered
              exact (hFresh entry hEntry).1 hDelivered

/-! ### What a call owes -/

/-- The step returns the entry. -/
def Returns (x : String × String × StreamEntry) (w w' : Channel σ τ) : Prop :=
  x ∉ w.returned ∧ x ∈ w'.returned

def Acknowledged (x : String × String × StreamEntry) (w : Channel σ τ) : Prop :=
  deliveryKey x ∈ w.acked

theorem returns_rest {x : String × String × StreamEntry} (w : Channel σ τ) : ¬ Returns x w w :=
  fun h => h.1 h.2

/-- A step that leaves what has been returned. -/
theorem not_returns {x : String × String × StreamEntry} (h : w'.returned = w.returned) :
    ¬ Returns x w w' := by
  rintro ⟨hOld, hNew⟩
  rw [h] at hNew
  exact hOld hNew

/-- The loop over a batch owes an acknowledgement of each entry that parses, and pays it after
the handler of the entry has succeeded. -/
theorem processEntries_owes {stream group : String}
    {handler : ShieldActionRecord → Async τ Raised Unit} {entry : StreamEntry}
    (hValid : (decodeRecord model entry).isSome) {entries : List StreamEntry}
    (hMem : entry ∈ entries) (handled : Nat) :
    Owes True (Acknowledged (stream, group, entry))
      (processEntries t model stream group handler entries handled) := by
  induction entries generalizing handled with
  | nil => cases hMem
  | cons first rest ih =>
      unfold processEntries
      cases hDecode : decodeRecord model first with
      | none =>
          have hRest : entry ∈ rest := by
            rcases List.mem_cons.1 hMem with rfl | hRest
            · rw [hDecode] at hValid
              cases hValid
            · exact hRest
          exact ih hRest handled
      | some record =>
          refine Owes.within_bind fun _ => ?_
          rcases List.mem_cons.1 hMem with rfl | hRest
          · refine Owes.call_now fun w _ hOk => ?_
            unfold Channel.ack at hOk ⊢
            split at hOk
            · exact List.mem_append_right _ List.mem_cons_self
            · cases hOk
          · exact Owes.call_later fun _ => ih hRest (handled + 1)

/-- A call that reads an entry that parses owes its acknowledgement. -/
theorem runOnce_incurs {x : String × String × StreamEntry}
    (hValid : (decodeRecord model x.2.2).isSome) (once : RunOnce τ) :
    Incurs (Returns x) True (Acknowledged x) (runOnce t model once) := by
  have hGroup : ∀ stream group (w : Channel σ τ), ¬ Returns x w (w.ensureGroup t stream group).1 :=
    fun stream group w => not_returns rfl
  unfold runOnce
  refine Incurs.call_bind (fun w _ _ h => absurd h (hGroup _ _ w))
    (fun w _ _ => hGroup _ _ w) fun _ => ?_
  refine Incurs.call_bind (fun w batch hBatch hReturns => ?_) (fun w e hErr => ?_) fun batch => ?_
  · obtain ⟨hOld, hNew⟩ := hReturns
    rw [returned_read, hBatch] at hNew
    rcases List.mem_append.1 hNew with hOld' | hNew
    · exact absurd hOld' hOld
    · obtain ⟨entry, hEntry, rfl⟩ := List.mem_map.1 hNew
      exact processEntries_owes hValid hEntry 0
  · refine not_returns ?_
    rw [returned_read, hErr]
    exact List.append_nil _
  · have hSteps : Steps (fun _ => True) (fun w w' : Channel σ τ => w'.returned = w.returned)
        (fun _ => True) (processEntries t model
          (streamKey once.workflowId once.consumer.streamPrefix) once.consumer.group
          once.handler batch 0) :=
      processEntries_steps _ _ (fun ids w => returned_ack _ _ ids w) (fun w o => rfl) _ _ _
    exact Incurs.of_steps hSteps fun w w' hSame => not_returns hSame

end Calls

/-! ## Runs -/

section Runs

variable {σ τ : Type} {t : Channel2Transport σ} {model : RecordModel} {fault : Raised}

/-- An entry that parses, has been returned by a read and is not acknowledged: it is pending,
and no later read of new entries returns it. -/
structure Unacknowledged (model : RecordModel) (w : Channel σ τ)
    (x : String × String × StreamEntry) : Prop where
  returned : x ∈ w.returned
  valid : (decodeRecord model x.2.2).isSome
  unacknowledged : ¬ Acknowledged x w

/-- Every entry that parses and was read and not acknowledged is returned again by a read
of some continuation. -/
def AtLeastOnce (p : Pool (channelService (τ := τ) t model fault)) : Prop :=
  ∀ x, Unacknowledged model p.state x →
    ∃ later again, (p.run later).state.returned = p.state.returned ++ again ∧ x ∈ again

/-- No call fails, or is stopped, while it has an entry that parses still to
acknowledge. -/
def SeesThrough (p : Pool (channelService (τ := τ) t model fault))
    (e : Event (channelService (τ := τ) t model fault)) : Prop :=
  ∀ x ∈ (p.step e).state.returned, (decodeRecord model x.2.2).isSome →
    ¬ p.Loses e (Returns x) True (Acknowledged x)

theorem channel_along {p : Pool (channelService (τ := τ) t model fault)}
    (hThreads : ∀ th ∈ p.threads, Steps (fun _ => True) (ChannelStep t) (fun _ => True) th.2)
    (es : List (Event (channelService (τ := τ) t model fault))) :
    p.Along (fun p e => ChannelStep t p.state (p.step e).state) es :=
  Pool.along_steps ChannelStep.rest
    (fun x w => by
      cases x with
      | xadd stream fields => exact .xadd stream fields w
      | outside f => exact .outside w _)
    runOnce_steps hThreads es

/-- What every step keeps holds after a run. -/
theorem channel_inv {I : Channel σ τ → Prop} (hI : ∀ w w', ChannelStep t w w' → I w → I w')
    {p : Pool (channelService (τ := τ) t model fault)}
    {es : List (Event (channelService (τ := τ) t model fault))}
    (hAlong : p.Along (fun p e => ChannelStep t p.state (p.step e).state) es)
    (h : I p.state) : I (p.run es).state := by
  induction es generalizing p with
  | nil => exact h
  | cons e es ih => exact ih hAlong.2 (hI _ _ hAlong.1 h)

variable {start : σ} {outside : τ}

/-- The calls on a transport, from its start. -/
def channelRun (t : Channel2Transport σ) (model : RecordModel) (fault : Raised) (start : σ)
    (outside : τ) (events : List (Event (channelService (τ := τ) t model fault))) :
    Pool (channelService (τ := τ) t model fault) :=
  (Pool.start { transport := start, outside := outside }).run events

variable {events : List (Event (channelService (τ := τ) t model fault))}

theorem channelRun_steps :
    ∀ th ∈ (channelRun t model fault start outside events).threads,
      Steps (fun _ => True) (ChannelStep t) (fun _ => True) th.2 :=
  Pool.run_threads (T := fun _ prog => Steps (fun _ => True) (ChannelStep t) (fun _ => True) prog)
    (fun _ _ _ w h => (h w trivial).2) (fun _ res => by cases res <;> trivial) events
    (fun once _ => runOnce_steps once) (by simp [Pool.start])

theorem channelRun_incurs {x : String × String × StreamEntry}
    (hValid : (decodeRecord model x.2.2).isSome) :
    ∀ th ∈ (channelRun t model fault start outside events).threads,
      Incurs (Returns x) True (Acknowledged x) th.2 :=
  Pool.run_threads (T := fun _ prog => Incurs (Returns x) True (Acknowledged x) prog)
    (fun _ _ _ w h => (h w).2) (fun _ _ => trivial) events
    (fun once _ => runOnce_incurs hValid once) (by simp [Pool.start])

/-- **Nothing is read again**, so delivery is at least once when everything that was read
is acknowledged. -/
theorem atLeastOnce_iff (law : DeliversOnce t) (hStart : law.Ok start) :
    AtLeastOnce (channelRun t model fault start outside events) ↔
      ∀ x, ¬ Unacknowledged model (channelRun t model fault start outside events).state x := by
  have hBegin : ReturnedOnce law ({ transport := start, outside := outside } : Channel σ τ) :=
    ⟨hStart, by simp, by simp⟩
  have hNow : ReturnedOnce law (channelRun t model fault start outside events).state :=
    channel_inv (I := ReturnedOnce law) (fun _ _ hStep h => returnedOnce_step h hStep)
      (channel_along (by simp [Pool.start]) events) hBegin
  constructor
  · intro h x hx
    obtain ⟨later, again, hAgain, hMem⟩ := h x hx
    have hLater := channel_inv (I := ReturnedOnce law)
      (fun _ _ hStep h => returnedOnce_step h hStep) (channel_along channelRun_steps later) hNow
    have hOnce := hLater.once
    rw [hAgain, List.map_append, List.nodup_append] at hOnce
    exact hOnce.2.2 _ (List.mem_map_of_mem hx.returned) _ (List.mem_map_of_mem hMem) rfl
  · intro h x hx
    exact absurd hx (h x)

/-- The event that returns an entry is a step of a call. -/
theorem call_of_returns {x : String × String × StreamEntry}
    {p : Pool (channelService (τ := τ) t model fault)}
    {e : Event (channelService (τ := τ) t model fault)}
    (h : Returns x p.state (p.step e).state) :
    ∃ i f r prog, e = .resume i f ∧ p.threads[i]? = some (r, prog) := by
  have hNew : (p.step e).state ≠ p.state := by
    intro hSame
    rw [hSame] at h
    exact returns_rest _ h
  rcases Pool.step_change hNew with ⟨x', rfl⟩ | ⟨i, f, r, upd, k, rfl, hi, -⟩
  · cases x' with
    | xadd stream fields => exact absurd h (not_returns rfl)
    | outside f => exact absurd h (not_returns rfl)
  · exact ⟨i, f, r, _, rfl, hi⟩

/-- When every call sees its batch through, nothing that was read is left when no call is
in flight. -/
theorem nothing_left
    (hRun : (Pool.start { transport := start, outside := outside }).Along SeesThrough events)
    (hIdle : ∀ th ∈ (channelRun t model fault start outside events).threads,
      th.2.finished = true) (x : String × String × StreamEntry) :
    ¬ Unacknowledged model (channelRun t model fault start outside events).state x := by
  intro hx
  refine hx.unacknowledged ?_
  have hStart : x ∉ ({ transport := start, outside := outside } : Channel σ τ).returned := by simp
  obtain ⟨earlier, e, later, rfl, hBefore, hAfter⟩ :=
    Pool.first_event (X := fun w : Channel σ τ => x ∈ w.returned) hStart hx.returned
  have hReturns : Returns x (channelRun t model fault start outside earlier).state
      ((channelRun t model fault start outside earlier).step e).state := ⟨hBefore, hAfter⟩
  have hSplit : channelRun t model fault start outside (earlier ++ e :: later) =
      (channelRun t model fault start outside earlier).run (e :: later) :=
    Pool.run_append _ earlier (e :: later)
  obtain ⟨i, f, r, prog, rfl, hi⟩ := call_of_returns hReturns
  obtain ⟨hEvent, hLater⟩ := (Pool.along_append.1 hRun).2
  have hOwed := Pool.owed_of_incurs returns_rest hi
    (channelRun_incurs hx.valid _ (List.mem_of_getElem? hi)) hReturns
    (hEvent x hAfter hx.valid)
  have hSteps : ((channelRun t model fault start outside earlier).step (.resume i f)).Along
      (fun p e => ChannelStep t p.state (p.step e).state) later :=
    (channel_along channelRun_steps (.resume i f :: later)).2
  have hAlong := (hSteps.and hLater).with_inv (I := fun p => x ∈ p.state.returned)
    (fun p e h hMem => (history_step h.1).1.subset hMem) hAfter
  have hMet : ((channelRun t model fault start outside earlier).step (.resume i f)).Along
      (fun p e => (Acknowledged x p.state → Acknowledged x (p.step e).state) ∧
        ¬ p.Loses e (Returns x) True (Acknowledged x)) later := by
    refine hAlong.mono fun p e h => ⟨fun hDone => ?_, ?_⟩
    · exact (history_step h.1.1).2.subset hDone
    · exact h.1.2 x ((history_step h.1.1).1.subset h.2) hx.valid
  rw [hSplit] at hIdle ⊢
  exact Pool.run_owed hOwed hMet hIdle

end Runs

end AgentShield.Governance
