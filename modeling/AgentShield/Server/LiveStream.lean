import AgentShield.Lib.EventSource
import AgentShield.Lib.Since
import AgentShield.Server.Isolation
import AgentShield.Server.JsonWriters
import AgentShield.Server.SingleVerdict

/-!
# The live stream in a run

The server with the stream of its workflows: a request for a stream reads the actions and
then the verdicts, and others may append to both in between.  What it answers is read back as
the entries that were there (`events_chunks`), with every entry of the time of the request
among them (`stream_answer`).
-/

namespace AgentShield.Server

open AgentShield.Lib AgentShield.Lib.Async AgentShield.Sdk

/-! ## The data of an event is read back -/

section Texts

variable (readFloat : List Char → PyFloat)

/-- A member with a space after its colon. -/
theorem members_spaced (k : String) {fuel : Nat} {text : List Char}
    (hText : Json.skipSpace text = text) :
    Json.members readFloat (fuel + 1) ((asciiString k).toList ++ ':' :: ' ' :: text) =
      (Json.value readFloat fuel text).bind fun r =>
        match Json.expect ',' (Json.skipSpace r.2) with
        | some cs => (Json.members readFloat fuel (Json.skipSpace cs)).bind fun m =>
            some ((k, r.1) :: m.1, m.2)
        | none => (Json.expect Json.closeBrace (Json.skipSpace r.2)).bind fun cs =>
            some ([(k, r.1)], cs) := by
  have hQuote : Json.expect Json.quote ((asciiString k).toList ++ ':' :: ' ' :: text) =
      some (k.toList.flatMap asciiChar ++ Json.quote :: ':' :: ' ' :: text) := by
    rw [toList_asciiString, List.cons_append, List.append_assoc, Json.expect, if_pos rfl]
    rfl
  have hColon : Json.expect ':' (Json.skipSpace (':' :: ' ' :: text)) = some (' ' :: text) := rfl
  have hSpace : Json.skipSpace (' ' :: text) = Json.skipSpace text := rfl
  rw [Json.members, hQuote]
  simp only [Option.bind_eq_bind, Option.bind_some, stringBody_asciiText, hColon, hSpace, hText,
    String.ofList_toList]
  rfl

theorem value_asciiString (s : String) (fuel : Nat) (cs : List Char) :
    Json.value readFloat (fuel + 1) ((asciiString s).toList ++ cs) = some (.str s, cs) := by
  rw [toList_asciiString, List.cons_append, List.append_assoc, Json.value, if_pos rfl]
  rw [List.singleton_append, stringBody_asciiText]
  simp

theorem skipSpace_asciiString (s : String) (cs : List Char) :
    Json.skipSpace ((asciiString s).toList ++ cs) = (asciiString s).toList ++ cs := by
  rw [toList_asciiString]
  rfl

/-- The members of a dictionary of texts, up to its brace, are read back in the order of its
fields. -/
theorem members_fieldsText (f : String × String) (fs : List (String × String)) {fuel : Nat}
    (hFuel : fs.length + 2 ≤ fuel) :
    Json.members readFloat fuel (fieldText f ++ moreFields fs) =
      some ((f :: fs).map fun f => (f.1, .str f.2), []) := by
  induction fs generalizing f fuel with
  | nil =>
      obtain ⟨fuel, rfl⟩ := Nat.exists_eq_add_of_le' (show 2 ≤ fuel from hFuel)
      rw [fieldText, moreFields, List.append_assoc, List.cons_append, List.cons_append,
        members_spaced readFloat f.1 (skipSpace_asciiString f.2 _), value_asciiString]
      rfl
  | cons g gs ih =>
      obtain ⟨fuel, rfl⟩ := Nat.exists_eq_add_of_le' (Nat.le_trans (by omega) hFuel : 2 ≤ fuel)
      have hLess : gs.length + 2 ≤ fuel + 1 := by
        simp only [List.length_cons] at hFuel
        omega
      have hMore := ih g hLess
      have hSpace : Json.skipSpace (fieldText g ++ moreFields gs) =
          fieldText g ++ moreFields gs := by
        unfold fieldText
        rw [List.append_assoc, skipSpace_asciiString]
      have hComma : ∀ cs, Json.expect ',' (Json.skipSpace (',' :: ' ' :: cs)) =
          some (' ' :: cs) := fun _ => rfl
      have hNext : ∀ cs, Json.skipSpace (' ' :: cs) = Json.skipSpace cs := fun _ => rfl
      rw [moreFields_cons, fieldText, List.append_assoc, List.cons_append, List.cons_append,
        members_spaced readFloat f.1 (skipSpace_asciiString f.2 _), value_asciiString]
      simp only [Option.bind_some, hComma, hNext, hSpace, hMore]
      rfl

/-- **The data of an event** is read back as the fields that it was made of. -/
theorem loadsText_dumpsStrings {fields : List (String × String)}
    (hNames : (fields.map Prod.fst).Nodup) :
    Json.loadsText readFloat (dumpsStrings fields).toList =
      some (.obj (fields.map fun f => (f.1, .str f.2))) := by
  have hOpen : Json.openBrace ≠ Json.quote := by decide
  rw [toList_dumpsStrings, Json.loadsText]
  cases fields with
  | nil => rfl
  | cons f fs =>
      have hLong : ∀ fs, fs.length ≤ (moreFields fs).length := by
        intro fs
        induction fs with
        | nil => exact Nat.zero_le _
        | cons g gs ih =>
            simp only [moreFields_cons, List.length_cons, List.length_append]
            omega
      have hFuel : fs.length + 2 ≤ (fieldsText (f :: fs)).length + 1 := by
        have hRest := hLong fs
        simp only [fieldsText_cons, fieldText, List.length_append, List.length_cons]
        omega
      have hInner : Json.skipSpace (fieldsText (f :: fs)) = fieldsText (f :: fs) := by
        rw [fieldsText_cons, fieldText, List.append_assoc, skipSpace_asciiString]
      have hBrace : Json.expect Json.closeBrace (fieldsText (f :: fs)) = none := by
        rw [fieldsText_cons, fieldText, toList_asciiString]
        rfl
      have hMembers := members_fieldsText readFloat f fs hFuel
      have hStart : Json.skipSpace (Json.openBrace :: fieldsText (f :: fs)) =
          Json.openBrace :: fieldsText (f :: fs) := rfl
      have hDistinct : (((f :: fs).map fun f => (f.1, Json.str f.2)).map Prod.fst).Nodup := by
        rw [List.map_map]
        exact hNames
      rw [hStart, List.length_cons, value_members readFloat hInner hBrace hMembers hDistinct]
      rfl

theorem asciiString_printable (s : String) : ∀ c ∈ (asciiString s).toList, 32 ≤ c.toNat := by
  intro c hc
  rw [toList_asciiString] at hc
  rcases List.mem_cons.1 hc with rfl | hc
  · decide
  · rcases List.mem_append.1 hc with hc | hc
    · obtain ⟨d, -, hc⟩ := List.mem_flatMap.1 hc
      exact (asciiChar_prints d).2 c hc
    · rw [List.mem_singleton.1 hc]
      decide

/-- The data of an event stands in one line, since a line end in a text is escaped, so that no
event is cut in two. -/
theorem dumpsStrings_oneLine (fields : List (String × String)) :
    EventSource.OneLine (dumpsStrings fields).toList := by
  have hField : ∀ f : String × String, ∀ c ∈ fieldText f, 32 ≤ c.toNat := by
    intro f c hc
    rcases List.mem_append.1 hc with hc | hc
    · exact asciiString_printable f.1 c hc
    · rcases List.mem_cons.1 hc with rfl | hc
      · decide
      · rcases List.mem_cons.1 hc with rfl | hc
        · decide
        · exact asciiString_printable f.2 c hc
  have hSeparator : ∀ c ∈ [',', ' '], 32 ≤ c.toNat := by
    intro c hc
    rcases List.mem_cons.1 hc with rfl | hc
    · decide
    · rw [List.mem_singleton.1 hc]
      decide
  have hAll : ∀ c ∈ (dumpsStrings fields).toList, 32 ≤ c.toNat := by
    intro c hc
    rw [toList_dumpsStrings] at hc
    rcases List.mem_cons.1 hc with rfl | hc
    · decide
    · rcases Delimited.mem_closedItems hc with hSep | rfl | ⟨f, -, hf⟩
      · exact hSeparator c hSep
      · decide
      · exact hField f c hf
  intro c hc
  have hPrintable := hAll c hc
  constructor
  · rintro rfl
    exact absurd hPrintable (by decide)
  · rintro rfl
    exact absurd hPrintable (by decide)

end Texts

/-! ## The service -/

inductive LiveRequest where
  | platform (req : PlatformRequest)
  | stream (workflowId : String)

inductive LiveResponse where
  | served (res : PlatformResponse)
  | events (chunks : List String)
  deriving DecidableEq

def LiveResponse.chunks : LiveResponse → Option (List String)
  | .served _ => none
  | .events chunks => some chunks

section Service

variable (settings : Settings)

def live : LiveRequest → Handler LiveResponse
  | .platform req => do
      let res ← platform settings req
      return .served res
  | .stream workflowId => do
      let chunks ← Routes.governanceStream workflowId
      return .events chunks

/-- The server with its streams.  Outside the handlers only time passes. -/
def liveService : Service World Failure where
  Req := LiveRequest
  Res := LiveResponse
  handle := live settings
  Ext := Nat
  external ns w := w.tick ns
  fault := .backend

instance liveResDecidableEq : DecidableEq (liveService settings).Res :=
  inferInstanceAs (DecidableEq LiveResponse)

/-- The server after a run of events from empty tables. -/
def liveRun (now : Int) (agents : List Agent) (agentKeys : List AgentKey)
    (events : List (Event (liveService settings))) : Pool (liveService settings) :=
  (Pool.start (World.initial now agents agentKeys)).run events

end Service

/-! ## What a stream holds -/

/-- The chunks of an answer. -/
def chunksOf (actions verdicts : List (List (String × String))) : List String :=
  actions.map (fun fields => Routes.sse "action" (dumpsStrings fields)) ++
    verdicts.map fun fields => Routes.sse "verdict" (dumpsStrings fields)

/-- The events of an answer, with the text of their data. -/
def eventsOf (actions verdicts : List (List (String × String))) : List (List Char × List Char) :=
  actions.map (fun fields => ("action".toList, (dumpsStrings fields).toList)) ++
    verdicts.map fun fields => ("verdict".toList, (dumpsStrings fields).toList)

theorem toList_sse (event data : String) :
    (Routes.sse event data).toList = EventSource.message event.toList data.toList := by
  have hData : "\ndata: ".toList = '\n' :: "data: ".toList := by decide
  have hEnd : "\n\n".toList = ['\n', '\n'] := by decide
  unfold Routes.sse EventSource.message
  simp only [String.toList_append, hData, hEnd, List.append_assoc, List.cons_append,
    List.nil_append]

/-- **The events of an answer** are the entries that were read, in their order. -/
theorem events_chunks (actions verdicts : List (List (String × String))) :
    EventSource.events (String.join (chunksOf actions verdicts)).toList =
      eventsOf actions verdicts := by
  have hText : ∀ chunks : List String,
      (String.join chunks).toList = chunks.flatMap String.toList := by
    intro chunks
    induction chunks with
    | nil => rfl
    | cons chunk chunks ih => rw [String.join_cons, String.toList_append, ih, List.flatMap_cons]
  have hMessages : (chunksOf actions verdicts).flatMap String.toList =
      (eventsOf actions verdicts).flatMap fun m => EventSource.message m.1 m.2 := by
    simp only [chunksOf, eventsOf, List.flatMap_append, List.flatMap_map, toList_sse]
  rw [hText, hMessages]
  have hAction : EventSource.OneLine "action".toList := EventSource.oneLine_of_all (by decide)
  have hVerdict : EventSource.OneLine "verdict".toList := EventSource.oneLine_of_all (by decide)
  have hNamed : "action".toList ≠ [] ∧ "verdict".toList ≠ [] := by decide
  refine EventSource.feed_messages fun m hm => ?_
  rcases List.mem_append.1 hm with hm | hm
  · obtain ⟨fields, -, rfl⟩ := List.mem_map.1 hm
    exact ⟨hAction, hNamed.1, dumpsStrings_oneLine fields⟩
  · obtain ⟨fields, -, rfl⟩ := List.mem_map.1 hm
    exact ⟨hVerdict, hNamed.2, dumpsStrings_oneLine fields⟩

/-- Every entry of a verdict stream is the entry of a verdict. -/
def World.VerdictsOnly (settings : Settings) (w : World) : Prop :=
  ∀ workflowId, ∀ fields ∈ w.verdicts workflowId, ∃ rec verdict,
    fields = verdictEntry settings.prim rec verdict

/-- What every step of the server keeps of its streams. -/
structure World.Streams (settings : Settings) (w w' : World) : Prop where
  grow : w.cache.Extends w'.cache
  verdicts : w.VerdictsOnly settings → w'.VerdictsOnly settings

section Runs

variable {settings : Settings} {w w' : World}

instance streamsRefl : Std.Refl (World.Streams settings) :=
  ⟨fun w => ⟨w.cache.extends_refl, id⟩⟩

instance streamsTrans : IsTrans World (World.Streams settings) :=
  ⟨fun _ _ _ h h' => ⟨fun stream => (h.grow stream).trans (h'.grow stream),
    fun hOnly => h'.verdicts (h.verdicts hOnly)⟩⟩

theorem streams_of_same (h : w.cache.SameStreams w'.cache) : w.Streams settings w' where
  grow := h.extends
  verdicts hOnly workflowId fields hFields := by
    unfold World.verdicts at hFields
    rw [h] at hFields
    exact hOnly workflowId fields hFields

theorem streams_of_cache (h : w'.cache = w.cache) : w.Streams settings w' := by
  refine streams_of_same ?_
  rw [h]
  exact w.cache.sameStreams_refl

/-- An action is appended to a stream of actions. -/
theorem streams_action (workflowId : String) (fields : List (String × String)) :
    w.Streams settings (w.xadd (streamName actionsStreamPrefix workflowId) fields) where
  grow := w.cache.extends_xadd _ _
  verdicts hOnly workflowId' entry hEntry := by
    unfold World.verdicts World.xadd at hEntry
    rw [Cache.entries_xadd_ne _ (streamName_ne workflowId workflowId')] at hEntry
    exact hOnly workflowId' entry hEntry

/-- The entry of a verdict is appended. -/
theorem streams_verdict (workflowId : String) (rec : ShieldActionRecord)
    (verdict : GovernanceVerdict) :
    w.Streams settings (w.xadd (streamName verdictsStreamPrefix workflowId)
      (verdictEntry settings.prim rec verdict)) where
  grow := w.cache.extends_xadd _ _
  verdicts hOnly workflowId' entry hEntry := by
    unfold World.verdicts World.xadd at hEntry
    by_cases hSame : streamName verdictsStreamPrefix workflowId =
        streamName verdictsStreamPrefix workflowId'
    · rw [hSame, Cache.entries_xadd] at hEntry
      rcases List.mem_append.1 hEntry with hOld | hNew
      · exact hOnly workflowId' entry hOld
      · exact ⟨rec, verdict, List.mem_singleton.1 hNew⟩
    · rw [Cache.entries_xadd_ne _ hSame] at hEntry
      exact hOnly workflowId' entry hEntry

/-- **Every step** of a handler of the platform keeps the streams. -/
theorem RequestStep.streams {req : PlatformRequest} (h : RequestStep settings req w w') :
    w.Streams settings w' := by
  have hTransaction : ∀ {sts : List Statement}, w.transaction sts = .ok w' →
      w.Streams settings w' := by
    intro sts hTx
    obtain ⟨db, -, rfl⟩ := World.transaction_ok hTx
    exact streams_of_cache rfl
  cases h with
  | rest => exact refl w
  | cache _ _ c hStreams => exact streams_of_same hStreams
  | appendAction _ _ workflowId fields => exact streams_action workflowId fields
  | appendDecision _ rec _ _ verdict _ => exact streams_verdict rec.workflowId rec verdict
  | appendLate _ rec _ _ _ signed => exact streams_verdict rec.workflowId rec signed
  | store => exact streams_of_cache rfl
  | submit _ _ _ _ hTx => exact hTransaction hTx
  | decide _ _ _ _ _ _ _ _ _ _ hTx => exact hTransaction hTx
  | record _ _ _ _ _ hTx => exact hTransaction hTx
  | publish _ _ _ _ _ _ hTx => exact hTransaction hTx
  | resolve => exact streams_of_cache rfl
  | setStatus => exact streams_of_cache rfl
  | revokeKey => exact streams_of_cache rfl

/-- The chunks are what the streams have held since a state, first the actions. -/
def Streamed (workflowId : String) (chunks : List String) (w₀ w : World) : Prop :=
  ∃ actions verdicts, chunks = chunksOf actions verdicts ∧
    (w₀.actions workflowId <+: actions ∧ actions <+: w.actions workflowId) ∧
    w₀.verdicts workflowId <+: verdicts ∧ verdicts <+: w.verdicts workflowId

theorem governanceStream_since (workflowId : String) (w₀ : World) :
    Since (World.Streams settings) (World.Streams settings)
      (fun chunks w => Streamed workflowId chunks w₀ w)
      (Routes.governanceStream workflowId) w₀ := by
  unfold Routes.governanceStream
  refine Since.read_bind fun w₁ h₁ => Since.read_bind fun w₂ h₂ => Since.pure fun w h => ?_
  have hActions := (h₂.grow _).trans (h.grow (streamName actionsStreamPrefix workflowId))
  have hVerdicts := (h₁.grow _).trans (h₂.grow (streamName verdictsStreamPrefix workflowId))
  exact ⟨_, _, rfl, ⟨h₁.grow _, hActions⟩, hVerdicts, h.grow _⟩

/-- What an answer has to do with the state of its request. -/
def Answers (req : LiveRequest) (res : LiveResponse) (w₀ w : World) : Prop :=
  ∀ workflowId, req = .stream workflowId → ∃ chunks, res = .events chunks ∧
    Streamed workflowId chunks w₀ w

theorem live_since (req : LiveRequest) (w₀ : World) :
    Since (World.Streams settings) (World.Streams settings)
      (fun res w => Answers req res w₀ w) (live settings req) w₀ := by
  cases req with
  | platform req =>
      have hEvery : Requested settings req (platform settings req) :=
        platform_requestSteps req
      have hSteps := hEvery.guarantee fun _ _ h => RequestStep.streams h
      refine Since.bind (Steps.since hSteps) fun res w _ => Since.pure fun w' _ wf hReq => ?_
      cases hReq
  | stream workflowId =>
      show Since _ _ _ (Routes.governanceStream workflowId >>= fun chunks =>
        pure (LiveResponse.events chunks)) w₀
      refine Since.bind (governanceStream_since workflowId w₀) fun chunks w hStreamed => ?_
      refine Since.pure fun w' hLater wf hReq => ⟨chunks, rfl, ?_⟩
      obtain rfl : workflowId = wf := by
        cases hReq
        rfl
      obtain ⟨actions, verdicts, rfl, ⟨hFirst, hActions⟩, hThen, hVerdicts⟩ := hStreamed
      exact ⟨actions, verdicts, rfl, ⟨hFirst, hActions.trans (hLater.grow _)⟩, hThen,
        hVerdicts.trans (hLater.grow _)⟩

/-! ## Every run -/

variable (settings) (now : Int) (agents : List Agent) (agentKeys : List AgentKey)

/-- A request for the stream has been answered with these chunks. -/
def Sent (p : Pool (liveService settings)) (workflowId : String) (chunks : List String) : Prop :=
  (LiveRequest.stream workflowId, Async.done (.ok (LiveResponse.events chunks))) ∈ p.threads

/-- What is left of a handler keeps the streams, and a stream answers what it holds. -/
def Flowing (p : Pool (liveService settings)) : Prop :=
  ∀ t ∈ p.threads, Pool.Underway (World.Streams settings) (World.Streams settings)
    (fun res w => ∀ workflowId, t.1 = LiveRequest.stream workflowId → ∃ chunks actions verdicts,
      res = LiveResponse.events chunks ∧ chunks = chunksOf actions verdicts ∧
        verdicts <+: w.verdicts workflowId) t.2 p.state

variable {settings}

theorem run_streams {p : Pool (liveService settings)} (hp : Flowing settings p)
    (events : List (Event (liveService settings))) :
    p.Along (fun p e => p.state.Streams settings (p.step e).state) events ∧
      Flowing settings (p.run events) := by
  let svc := liveService settings
  let Q : svc.Req → svc.Res → World → Prop := fun req res w =>
    ∀ workflowId, req = LiveRequest.stream workflowId → ∃ chunks actions verdicts,
      res = LiveResponse.events chunks ∧ chunks = chunksOf actions verdicts ∧
        verdicts <+: w.verdicts workflowId
  have hReq : ∀ (req : svc.Req) (w : World), True →
      Since (World.Streams settings) (World.Streams settings) (Q req) (svc.handle req) w := by
    intro req w _
    refine (live_since req w).post fun res w' hAnswers workflowId hStream => ?_
    obtain ⟨chunks, hRes, actions, verdicts, hChunks, -, -, hVerdicts⟩ :=
      hAnswers workflowId hStream
    exact ⟨chunks, actions, verdicts, hRes, hChunks, hVerdicts⟩
  have hClock : ∀ (ms : svc.Ext) (w : World), w.Streams settings (svc.external ms w) :=
    fun ms w => streams_of_cache rfl
  obtain ⟨-, hAlong, hFlowing⟩ := Pool.run_underway (Q := Q) (I := fun _ => True)
    (fun _ _ _ _ => trivial) hClock hReq trivial hp events
  exact ⟨hAlong, hFlowing⟩

variable (settings)

theorem liveRun_flowing (events : List (Event (liveService settings))) :
    (liveRun settings now agents agentKeys events).state.VerdictsOnly settings ∧
      Flowing settings (liveRun settings now agents agentKeys events) := by
  let p : Pool (liveService settings) := Pool.start (World.initial now agents agentKeys)
  have hStart : Flowing settings p := fun t ht => (List.not_mem_nil ht).elim
  obtain ⟨hAlong, hFlowing⟩ := run_streams hStart events
  have hEmpty : p.state.VerdictsOnly settings := by
    intro workflowId fields hFields
    cases hFields
  exact ⟨(Pool.along_trans hAlong).verdicts hEmpty, hFlowing⟩

/-- **Every answer** is made of entries that the streams hold. -/
theorem stream_sent {events : List (Event (liveService settings))} {workflowId : String}
    {chunks : List String}
    (h : Sent settings (liveRun settings now agents agentKeys events) workflowId chunks) :
    ∃ actions verdicts, chunks = chunksOf actions verdicts ∧
      verdicts <+: (liveRun settings now agents agentKeys events).state.verdicts workflowId := by
  obtain ⟨-, hFlowing⟩ := liveRun_flowing settings now agents agentKeys events
  have hOwn := hFlowing _ h
  obtain ⟨chunks', actions, verdicts, hRes, hChunks, hVerdicts⟩ := hOwn.answer workflowId rfl
  cases hRes
  exact ⟨actions, verdicts, hChunks, hVerdicts⟩

theorem sent_of_answer (before after : List (Event (liveService settings))) (workflowId : String)
    {chunks : List String}
    (hEnd : (liveRun settings now agents agentKeys
        (before ++ .request (LiveRequest.stream workflowId) :: after)).answerOf
      (liveRun settings now agents agentKeys before).threads.length = some (.events chunks)) :
    Sent settings (liveRun settings now agents agentKeys
      (before ++ .request (LiveRequest.stream workflowId) :: after)) workflowId chunks := by
  unfold liveRun at hEnd ⊢
  rw [Pool.run_append] at hEnd ⊢
  exact Pool.mem_of_answer hEnd

/-- **An answer has every verdict** that was published before its request. -/
theorem stream_answer (before after : List (Event (liveService settings))) (workflowId : String)
    {chunks : List String}
    (hEnd : (liveRun settings now agents agentKeys
        (before ++ .request (LiveRequest.stream workflowId) :: after)).answerOf
      (liveRun settings now agents agentKeys before).threads.length = some (.events chunks)) :
    ∃ actions verdicts, chunks = chunksOf actions verdicts ∧
      (liveRun settings now agents agentKeys before).state.verdicts workflowId <+: verdicts := by
  obtain ⟨-, hFlowing⟩ := liveRun_flowing settings now agents agentKeys before
  obtain ⟨hAlong, -⟩ := run_streams hFlowing (.request (LiveRequest.stream workflowId) :: after)
  unfold liveRun at hEnd
  rw [Pool.run_append] at hEnd
  have hAnswers := Pool.run_answer (live_since (LiveRequest.stream workflowId) _) after
    (hAlong.2.mono fun _ _ hStep _ => hStep) hEnd
  obtain ⟨chunks', hRes, actions, verdicts, hChunks, -, hVerdicts, -⟩ := hAnswers workflowId rfl
  cases hRes
  exact ⟨actions, verdicts, hChunks, hVerdicts⟩

end Runs

end AgentShield.Server
