import Mathlib.Data.List.Basic

/-!
# Event streams

A stream of events as text: a line for each field, and a blank line after each event.  The
reader takes one character at a time and fires an event at a blank line, so a text that is cut
anywhere fires a front part of the events of the whole (`fired_feed`).  Messages fire what was
written in them, in order (`feed_messages`).
-/

namespace AgentShield.Lib

namespace EventSource

/-- The reader between two characters: the line that is being read, the fields of the event so
far, and the events that have been fired. -/
structure Reader where
  line : List Char := []
  event : List Char := []
  data : List Char := []
  /-- The last character was a carriage return.  A line feed after it ends no line. -/
  returned : Bool := false
  fired : List (List Char × List Char) := []

def nameOf (line : List Char) : List Char := line.takeWhile (· ≠ ':')

/-- What follows the colon, without the one space that may. -/
def valueOf (line : List Char) : List Char :=
  match (line.dropWhile (· ≠ ':')).tail with
  | ' ' :: value => value
  | value => value

namespace Reader

/-- A blank line: an event without data is dropped. -/
def dispatch (r : Reader) : Reader :=
  if r.data = [] then { fired := r.fired }
  else
    let event := if r.event = [] then "message".toList else r.event
    { fired := r.fired ++ [(event, r.data.dropLast)] }

/-- The end of a line.  A comment has no name, and other fields fire nothing. -/
def endLine (r : Reader) : Reader :=
  if r.line = [] then r.dispatch
  else if nameOf r.line = "event".toList then { r with line := [], event := valueOf r.line }
  else if nameOf r.line = "data".toList then
    { r with line := [], data := r.data ++ valueOf r.line ++ ['\n'] }
  else { r with line := [] }

def step (r : Reader) (c : Char) : Reader :=
  if c = '\n' then if r.returned then { r with returned := false } else r.endLine
  else if c = '\r' then { r.endLine with returned := true }
  else { r with line := r.line ++ [c], returned := false }

def feed (r : Reader) (cs : List Char) : Reader := cs.foldl step r

end Reader

/-- One event, as two fields and a blank line. -/
def message (event data : List Char) : List Char :=
  "event: ".toList ++ event ++ ['\n'] ++ ("data: ".toList ++ data ++ ['\n']) ++ ['\n']

/-- The events that a text fires. -/
def events (cs : List Char) : List (List Char × List Char) := (({} : Reader).feed cs).fired

/-! ## What is fired -/

namespace Reader

theorem fired_endLine (r : Reader) : r.fired <+: r.endLine.fired := by
  unfold endLine
  split
  · unfold dispatch
    split
    · exact List.prefix_refl _
    · exact List.prefix_append _ _
  · split
    · exact List.prefix_refl _
    · split
      · exact List.prefix_refl _
      · exact List.prefix_refl _

theorem fired_step (r : Reader) (c : Char) : r.fired <+: (r.step c).fired := by
  unfold step
  split
  · split
    · exact List.prefix_refl _
    · exact r.fired_endLine
  · split
    · exact r.fired_endLine
    · exact List.prefix_refl _

/-- What has been fired stays fired. -/
theorem fired_feed (r : Reader) (cs : List Char) : r.fired <+: (r.feed cs).fired := by
  induction cs generalizing r with
  | nil => exact List.prefix_refl _
  | cons c cs ih => exact (r.fired_step c).trans (ih (r.step c))

theorem feed_append (r : Reader) (cs ds : List Char) : r.feed (cs ++ ds) = (r.feed cs).feed ds :=
  List.foldl_append

end Reader

/-- **A text that is cut** fires a front part of the events. -/
theorem events_cut {cs ds : List Char} (h : cs <+: ds) : events cs <+: events ds := by
  obtain ⟨more, rfl⟩ := h
  unfold events
  rw [Reader.feed_append]
  exact Reader.fired_feed _ _

/-! ## What is written -/

/-- The text does not end a line. -/
def OneLine (cs : List Char) : Prop := ∀ c ∈ cs, c ≠ '\n' ∧ c ≠ '\r'

namespace Reader

variable {r : Reader}

theorem feed_oneLine {cs : List Char} (h : OneLine cs) (hReturned : r.returned = false) :
    r.feed cs = { r with line := r.line ++ cs } := by
  induction cs generalizing r with
  | nil =>
      show r = { r with line := r.line ++ [] }
      rw [List.append_nil]
  | cons c cs ih =>
      obtain ⟨hFeed, hReturn⟩ := h c List.mem_cons_self
      have hStep : r.step c = { r with line := r.line ++ [c] } := by
        unfold step
        rw [if_neg hFeed, if_neg hReturn, hReturned]
      show (r.step c).feed cs = _
      rw [hStep, ih (r := { r with line := r.line ++ [c] })
        (fun d hd => h d (List.mem_cons_of_mem _ hd)) hReturned]
      simp only [List.append_assoc, List.singleton_append]

/-- A line that is written ends where it was ended. -/
theorem feed_line {cs : List Char} (h : OneLine cs) (hLine : r.line = [])
    (hReturned : r.returned = false) : r.feed (cs ++ ['\n']) = { r with line := cs }.endLine := by
  rw [feed_append, feed_oneLine h hReturned, hLine, List.nil_append]
  show step _ '\n' = _
  simp only [step, if_pos, hReturned]
  rfl

end Reader

theorem oneLine_append {cs ds : List Char} (h : OneLine cs) (h' : OneLine ds) :
    OneLine (cs ++ ds) := by
  intro c hc
  rcases List.mem_append.1 hc with hc | hc
  · exact h c hc
  · exact h' c hc

theorem oneLine_of_all {cs : List Char} (h : (cs.all fun c => c ≠ '\n' ∧ c ≠ '\r') = true) :
    OneLine cs := fun c hc => of_decide_eq_true (List.all_eq_true.1 h c hc)

/-- **A message** fires its event. -/
theorem feed_message {event data : List Char} (hEvent : OneLine event) (hSome : event ≠ [])
    (hData : OneLine data) (fired : List (List Char × List Char)) :
    ({ fired := fired } : Reader).feed (message event data) =
      { fired := fired ++ [(event, data)] } := by
  have hFirst : ({ fired := fired } : Reader).feed ("event: ".toList ++ event ++ ['\n']) =
      { event := event, fired := fired } := by
    rw [Reader.feed_line (oneLine_append (oneLine_of_all (by decide)) hEvent) rfl rfl]
    rfl
  have hSecond : ({ event := event, fired := fired } : Reader).feed
      ("data: ".toList ++ data ++ ['\n']) =
      { event := event, data := data ++ ['\n'], fired := fired } := by
    rw [Reader.feed_line (oneLine_append (oneLine_of_all (by decide)) hData) rfl rfl]
    rfl
  unfold message
  rw [Reader.feed_append, Reader.feed_append, hFirst, hSecond]
  show Reader.dispatch _ = _
  unfold Reader.dispatch
  rw [if_neg (by simp), if_neg hSome, List.dropLast_concat]

/-- **Messages** fire their events in the order in which they were written. -/
theorem feed_messages {messages : List (List Char × List Char)}
    (h : ∀ m ∈ messages, OneLine m.1 ∧ m.1 ≠ [] ∧ OneLine m.2) :
    events (messages.flatMap fun m => message m.1 m.2) = messages := by
  have hFeed : ∀ fired, ({ fired := fired } : Reader).feed
      (messages.flatMap fun m => message m.1 m.2) = { fired := fired ++ messages } := by
    induction messages with
    | nil =>
        intro fired
        rw [List.append_nil]
        rfl
    | cons m messages ih =>
        intro fired
        obtain ⟨hEvent, hSome, hData⟩ := h m List.mem_cons_self
        rw [List.flatMap_cons, Reader.feed_append, feed_message hEvent hSome hData,
          ih fun m' hm' => h m' (List.mem_cons_of_mem _ hm')]
        simp only [List.append_assoc, List.singleton_append]
  unfold events
  rw [hFeed]
  rfl

end EventSource

end AgentShield.Lib
