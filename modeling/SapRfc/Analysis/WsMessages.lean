import SapRfc.Library.Runs
import SapRfc.Program.WebSocket

/-!
# No message is lost on a WebSocket

Events come in the order of the stream, however they are grouped into socket reads.  Receiving
takes them up to the end of a message and leaves the rest for the next call.  Draining takes all
that wait up to a close, and pieces of a message among them are gone.  So in every run that drains
only where no piece of a message waits, the calls that receive return the complete messages, each
once and in order.
-/

set_option autoImplicit false

namespace SapRfc.Analysis.WsMessages

open SapRfc.Library SapRfc.Program

/-! ## The stream -/

/-- What a socket read holds. -/
def eventsOf : Except PyError (List WsEvent) → List WsEvent
  | .ok events => events
  | .error _ => []

/-- What the socket reads to come hold. -/
def future (reads : List (Except PyError (List WsEvent))) : List WsEvent :=
  (reads.map eventsOf).flatten

/-- The events that are not taken yet. -/
def stream (s : WsTransport) : List WsEvent := s.queued ++ future s.reads

/-- The complete messages in front of the close, from the pieces that are there already. -/
def messages : Bytes → List WsEvent → List Bytes
  | _, [] => []
  | chunks, .BytesMessage data message_finished :: rest =>
    if message_finished then (chunks ++ data) :: messages [] rest
    else messages (chunks ++ data) rest
  | chunks, .Ping _ :: rest => messages chunks rest
  | chunks, .Pong :: rest => messages chunks rest
  | _, .CloseConnection _ _ :: _ => []

/-- What a peer sends: no message above the cap, and nothing behind its close.  Every pong is
sent. -/
def Orderly : ℕ → List WsEvent → Prop
  | _, [] => True
  | size, .BytesMessage data message_finished :: rest =>
    size + data.length ≤ MAX_FRAME_BYTES ∧
      Orderly (if message_finished then 0 else size + data.length) rest
  | size, .Ping sends :: rest => sends = true ∧ Orderly size rest
  | size, .Pong :: rest => Orderly size rest
  | _, .CloseConnection _ _ :: rest => rest = []

/-- The peer is orderly, and no socket read fails. -/
structure Sound (s : WsTransport) : Prop where
  reads : ∀ r ∈ s.reads, ∃ events, r = .ok events
  orderly : Orderly 0 (stream s)

theorem future_ok (events : List WsEvent) (reads : List (Except PyError (List WsEvent))) :
    future (.ok events :: reads) = events ++ future reads := rfl

theorem Sound.of_stream {queued : List WsEvent} {reads : List (Except PyError (List WsEvent))}
    {pongs : ℕ} (hreads : ∀ r ∈ reads, ∃ events, r = .ok events)
    (h : Orderly 0 (queued ++ future reads)) : Sound ⟨queued, reads, pongs⟩ :=
  ⟨hreads, h⟩

/-- INTERNAL: where no event is left, all is in order. -/
theorem Sound.of_empty {queued : List WsEvent} {reads : List (Except PyError (List WsEvent))}
    {pongs : ℕ} (hreads : ∀ r ∈ reads, ∃ events, r = .ok events)
    (h : queued ++ future reads = []) : Sound ⟨queued, reads, pongs⟩ := by
  apply Sound.of_stream hreads
  rw [h]
  trivial

/-- INTERNAL: where no event is left, there is no message. -/
theorem messages_empty {queued : List WsEvent} {reads : List (Except PyError (List WsEvent))}
    {pongs : ℕ} (h : queued ++ future reads = []) :
    messages [] (stream ⟨queued, reads, pongs⟩) = [] := by
  rw [stream, h, messages]

/-! ## Receiving -/

section Receiving

variable (u : Unicode)

/-- The loop over the events that wait, against the whole stream: it returns the first message, or
it needs more for it, or it raises at the close, where there is no message left. -/
theorem scan_spec (queued rest : List WsEvent) (chunks : Bytes) (pongs : ℕ)
    (h : Orderly chunks.length (queued ++ rest)) :
    match (scan_events u chunks queued pongs).1 with
    | .answer (.ok m) left =>
      messages chunks (queued ++ rest) = m :: messages [] (left ++ rest) ∧
        Orderly 0 (left ++ rest)
    | .answer (.error _) left =>
      messages chunks (queued ++ rest) = [] ∧ left ++ rest = []
    | .more chunks' =>
      messages chunks (queued ++ rest) = messages chunks' rest ∧
        Orderly chunks'.length rest := by
  induction queued generalizing chunks pongs with
  | nil => exact ⟨rfl, h⟩
  | cons event queued ih =>
    cases event with
    | BytesMessage data message_finished =>
      obtain ⟨hcap, hrest⟩ := h
      rw [scan_events, if_neg (Nat.not_lt_of_le hcap)]
      cases message_finished with
      | true => exact ⟨rfl, hrest⟩
      | false =>
        have hnext : Orderly (chunks ++ data).length (queued ++ rest) := by
          rw [List.length_append]
          exact hrest
        exact ih (chunks ++ data) pongs hnext
    | Ping sends =>
      obtain ⟨rfl, hrest⟩ := h
      exact ih chunks (pongs + 1) hrest
    | Pong => exact ih chunks pongs h
    | CloseConnection code reason => exact ⟨rfl, h⟩

/-- A call that receives returns the first message that is left, or it raises where there is
none; what is left behind it are the other messages. -/
theorem recv_turns_spec (reads : List (Except PyError (List WsEvent))) (chunks : Bytes)
    (queued : List WsEvent) (pongs : ℕ) (hreads : ∀ r ∈ reads, ∃ events, r = .ok events)
    (h : Orderly chunks.length (queued ++ future reads)) :
    Sound (recv_turns u reads chunks queued pongs).2 ∧
      match (recv_turns u reads chunks queued pongs).1 with
      | .ok m => messages chunks (queued ++ future reads) =
          m :: messages [] (stream (recv_turns u reads chunks queued pongs).2)
      | .error _ => messages chunks (queued ++ future reads) = [] ∧
          messages [] (stream (recv_turns u reads chunks queued pongs).2) = [] := by
  induction reads generalizing chunks queued pongs with
  | nil =>
    have hscan := scan_spec u queued (future []) chunks pongs h
    rw [recv_turns]
    rcases hresult : scan_events u chunks queued pongs with ⟨result, pongs'⟩
    rw [hresult] at hscan
    cases result with
    | answer r left =>
      cases r with
      | ok m =>
        obtain ⟨hfirst, hleft⟩ := hscan
        exact ⟨Sound.of_stream hreads hleft, hfirst⟩
      | error e =>
        obtain ⟨hnone, hempty⟩ := hscan
        exact ⟨Sound.of_empty hreads hempty, hnone, messages_empty hempty⟩
    | more chunks' =>
      obtain ⟨hnone, -⟩ := hscan
      exact ⟨Sound.of_empty hreads rfl, hnone, rfl⟩
  | cons read reads ih =>
    obtain ⟨⟨events, rfl⟩, hrest⟩ := List.forall_mem_cons.mp hreads
    have hscan := scan_spec u queued (future (.ok events :: reads)) chunks pongs h
    rw [recv_turns]
    rcases hresult : scan_events u chunks queued pongs with ⟨result, pongs'⟩
    rw [hresult] at hscan
    cases result with
    | answer r left =>
      cases r with
      | ok m =>
        obtain ⟨hfirst, hleft⟩ := hscan
        exact ⟨Sound.of_stream hreads hleft, hfirst⟩
      | error e =>
        obtain ⟨hnone, hempty⟩ := hscan
        exact ⟨Sound.of_empty hreads hempty, hnone, messages_empty hempty⟩
    | more chunks' =>
      obtain ⟨hsame, horderly⟩ := hscan
      rw [hsame]
      rw [future_ok] at horderly ⊢
      exact ih chunks' events pongs' hrest horderly

end Receiving

/-! ## Draining -/

/-- No piece of a message waits in front of a close. -/
def quiet : List WsEvent → Bool
  | [] => true
  | .BytesMessage _ _ :: _ => false
  | .Ping _ :: rest => quiet rest
  | .Pong :: rest => quiet rest
  | .CloseConnection _ _ :: _ => true

/-- Where no piece of a message waits, draining leaves all messages. -/
theorem drain_spec (u : Unicode) (queued rest : List WsEvent) (pongs : ℕ)
    (hquiet : quiet queued = true) (h : Orderly 0 (queued ++ rest)) :
    messages [] ((drain_events u queued pongs).2.1 ++ rest) = messages [] (queued ++ rest) ∧
      Orderly 0 ((drain_events u queued pongs).2.1 ++ rest) := by
  induction queued generalizing pongs with
  | nil => exact ⟨rfl, h⟩
  | cons event queued ih =>
    cases event with
    | BytesMessage data message_finished => cases hquiet
    | Ping sends => exact ih _ hquiet h.2
    | Pong => exact ih pongs hquiet h
    | CloseConnection code reason =>
      have hempty : queued ++ rest = [] := h
      show messages [] (queued ++ rest) = [] ∧ Orderly 0 (queued ++ rest)
      rw [hempty]
      exact ⟨rfl, trivial⟩

/-! ## Runs -/

/-- A call of the transport. -/
inductive Call where
  | recv_message
  | drain_queued_close
  deriving DecidableEq, Repr

/-- What a call does: a message that is returned, an exception, or what the draining found. -/
inductive Answer where
  | received (r : Except PyError Bytes)
  | drained (close : Option PyError)

/-- The transport answers a call. -/
def call (u : Unicode) : Call → WsTransport → Answer × WsTransport
  | .recv_message, s => (.received (s.recv_message u).1, (s.recv_message u).2)
  | .drain_queued_close, s => (.drained (s.drain_queued_close u).1, (s.drain_queued_close u).2)

/-- The message that an answer returns. -/
def Answer.message? : Answer → Option Bytes
  | .received (.ok m) => some m
  | _ => none

/-- The messages that a run has returned. -/
def received (steps : List (Step WsTransport Call Answer)) : List Bytes :=
  steps.filterMap fun x => x.output.message?

/-- The step does not drain where a piece of a message waits. -/
def Harmless (x : Step WsTransport Call Answer) : Prop :=
  x.input = .drain_queued_close → quiet x.before.queued = true

/-- INTERNAL: one step of the run. -/
theorem call_spec (u : Unicode) (c : Call) {s : WsTransport} (hs : Sound s)
    (h : c = .drain_queued_close → quiet s.queued = true) :
    Sound (call u c s).2 ∧
      match c with
      | .recv_message =>
        (call u c s).1.message?.toList = (messages [] (stream s)).take 1 ∧
          messages [] (stream (call u c s).2) = (messages [] (stream s)).drop 1
      | .drain_queued_close =>
        (call u c s).1.message? = none ∧
          messages [] (stream (call u c s).2) = messages [] (stream s) := by
  cases c with
  | recv_message =>
    obtain ⟨hsound, hturns⟩ := recv_turns_spec u s.reads [] s.queued s.pongs hs.reads hs.orderly
    refine ⟨hsound, ?_⟩
    show (Answer.received (recv_turns u s.reads [] s.queued s.pongs).1).message?.toList =
        (messages [] (s.queued ++ future s.reads)).take 1 ∧
      messages [] (stream (recv_turns u s.reads [] s.queued s.pongs).2) =
        (messages [] (s.queued ++ future s.reads)).drop 1
    cases hresult : (recv_turns u s.reads [] s.queued s.pongs).1 with
    | ok m =>
      rw [hresult] at hturns
      dsimp only at hturns
      rw [hturns]
      exact ⟨rfl, rfl⟩
    | error e =>
      rw [hresult] at hturns
      obtain ⟨hnone, hleft⟩ := hturns
      rw [hnone, hleft]
      exact ⟨rfl, rfl⟩
  | drain_queued_close =>
    obtain ⟨hleft, hnext⟩ := drain_spec u s.queued (future s.reads) s.pongs (h rfl) hs.orderly
    exact ⟨⟨hs.reads, hnext⟩, rfl, hleft⟩

/-- In every run whose steps drain only where no piece of a message waits, the calls that receive
have returned the first of the complete messages in front of the close, as many as there were such
calls, each once and in order. -/
theorem run_delivers (u : Unicode) (calls : List Call) {s : WsTransport} (hs : Sound s)
    (h : ∀ x ∈ Run.trace (call u) calls s, Harmless x) :
    received (Run.trace (call u) calls s) =
      (messages [] (stream s)).take (calls.count .recv_message) := by
  induction calls generalizing s with
  | nil => rfl
  | cons c calls ih =>
    obtain ⟨hfirst, hrest⟩ := List.forall_mem_cons.mp h
    obtain ⟨hsound, hstep⟩ := call_spec u c hs hfirst
    have hnext := ih hsound hrest
    have hcons : received (Run.trace (call u) (c :: calls) s) =
        (call u c s).1.message?.toList ++ received (Run.trace (call u) calls (call u c s).2) := by
      show List.filterMap _ (Run.stepOf (call u) c s :: _) = _
      rw [List.filterMap_cons]
      cases hmessage : (call u c s).1.message? <;>
        simp only [Run.stepOf, hmessage] <;> rfl
    rw [hcons, hnext]
    cases c with
    | recv_message =>
      rw [hstep.1, hstep.2, List.count_cons_self, Nat.add_comm, List.take_add]
    | drain_queued_close =>
      rw [hstep.1, hstep.2, List.count_cons_of_ne (by decide)]
      rfl

/-! ## A message that waits is dropped -/

/-- Two messages in one read. -/
def twoInOne : WsTransport :=
  { queued := [], reads := [.ok [.BytesMessage [1] true, .BytesMessage [2] true]], pongs := 0 }

/-- Two messages in two reads, the first in two pieces around a ping. -/
def inTwoReads : WsTransport where
  queued := []
  reads := [.ok [.BytesMessage [1] false, .Ping true],
    .ok [.BytesMessage [2] true, .Pong], .ok [.BytesMessage [3] true, .CloseConnection 1000 []]]
  pongs := 0

theorem twoInOne_sound : Sound twoInOne := by
  refine ⟨fun r hr => ⟨_, List.mem_singleton.mp hr⟩, ?_⟩
  show 0 + 1 ≤ MAX_FRAME_BYTES ∧ 0 + 1 ≤ MAX_FRAME_BYTES ∧ True
  norm_num [MAX_FRAME_BYTES]

/-- The first message is returned, the second one waits, and draining drops it: nothing is left
for the call behind it. -/
theorem twoInOne_dropped :
    received (Run.trace (call asciiTables) [.recv_message, .drain_queued_close, .recv_message]
        twoInOne) = [[1]] ∧
      messages [] (stream twoInOne) = [[1], [2]] ∧
      ¬ ∀ (calls : List Call) (s : WsTransport), Sound s →
        received (Run.trace (call asciiTables) calls s) =
          (messages [] (stream s)).take (calls.count .recv_message) := by
  have hrun : received (Run.trace (call asciiTables)
      [.recv_message, .drain_queued_close, .recv_message] twoInOne) = [[1]] := by
    decide
  refine ⟨hrun, rfl, fun h => ?_⟩
  have hdelivers := h [.recv_message, .drain_queued_close, .recv_message] twoInOne twoInOne_sound
  rw [hrun] at hdelivers
  revert hdelivers
  decide

theorem inTwoReads_sound : Sound inTwoReads := by
  refine ⟨fun r hr => ?_, ?_⟩
  · simp only [inTwoReads, List.mem_cons, List.not_mem_nil, or_false] at hr
    rcases hr with rfl | rfl | rfl <;> exact ⟨_, rfl⟩
  · show 0 + 1 ≤ MAX_FRAME_BYTES ∧ true = true ∧ 0 + 1 + 1 ≤ MAX_FRAME_BYTES ∧
      0 + 1 ≤ MAX_FRAME_BYTES ∧ ([] : List WsEvent) = []
    norm_num [MAX_FRAME_BYTES]

/-- Where nothing but a pong waits, draining between the calls loses nothing. -/
theorem inTwoReads_delivered :
    received (Run.trace (call asciiTables) [.recv_message, .drain_queued_close, .recv_message]
      inTwoReads) = [[1, 2], [3]] :=
  run_delivers asciiTables [.recv_message, .drain_queued_close, .recv_message] inTwoReads_sound
    (by unfold Harmless; decide)

end SapRfc.Analysis.WsMessages
