import SapRfc.Program.Transport

/-!
# The WebSocket transport

The frame layer gives events: pieces of binary messages, pings, pongs, the close.  What one socket
read holds is parsed at once, and events that are not taken yet wait for the next call.
-/

set_option autoImplicit false

namespace SapRfc.Program

open SapRfc.Library

/-- An event of the frame layer.  A ping says whether the socket takes the answer to it. -/
inductive WsEvent where
  | BytesMessage (data : Bytes) (message_finished : Bool)
  | Ping (sends : Bool)
  | Pong
  | CloseConnection (code : ℕ) (reason : PyStr)
  deriving DecidableEq, Repr

/-- The events that wait, what the socket reads still to come hold, and the pongs that were sent.
A read that fails is an error; behind the last read the peer has gone. -/
structure WsTransport where
  queued : List WsEvent
  reads : List (Except PyError (List WsEvent))
  pongs : ℕ

/-- SOURCE: ws.py:489-492. -/
def ws_closed (u : Unicode) (code : ℕ) (reason : PyStr) : PyError :=
  err .webSocket (lit "WebSocket closed by peer (code " ++ dec code ++ lit ")" ++
    if reason = [] then [] else lit " reason=" ++ u.repr reason)

/-- The loop over the events that wait: it ends with the call, or it needs more bytes. -/
inductive Scanned where
  | answer (r : Except PyError Bytes) (rest : List WsEvent)
  | more (chunks : Bytes)

/-- SOURCE: ws.py:472-492.  The pieces of the message so far are joined, and their size is its
length. -/
def scan_events (u : Unicode) : Bytes → List WsEvent → ℕ → Scanned × ℕ
  | chunks, [], pongs => (.more chunks, pongs)
  | chunks, .BytesMessage data message_finished :: rest, pongs =>
    if MAX_FRAME_BYTES < chunks.length + data.length then
      (.answer (.error (err .value (lit "WebSocket message exceeds cap " ++ dec MAX_FRAME_BYTES ++
        lit " (DoS guard)"))) rest, pongs)
    else if message_finished then (.answer (.ok (chunks ++ data)) rest, pongs)
    else scan_events u (chunks ++ data) rest pongs
  | chunks, .Ping sends :: rest, pongs =>
    if sends then scan_events u chunks rest (pongs + 1)
    else (.answer (.error (err .os (lit "Broken pipe"))) rest, pongs)
  | chunks, .Pong :: rest, pongs => scan_events u chunks rest pongs
  | _, .CloseConnection code reason :: rest, pongs =>
    (.answer (.error (ws_closed u code reason)) rest, pongs)

/-- SOURCE: ws.py:470-502.  One turn of the outer loop for each socket read. -/
def recv_turns (u : Unicode) : List (Except PyError (List WsEvent)) → Bytes → List WsEvent → ℕ →
    Except PyError Bytes × WsTransport
  | [], chunks, queued, pongs =>
    match scan_events u chunks queued pongs with
    | (.answer r rest, pongs) => (r, ⟨rest, [], pongs⟩)
    | (.more _, pongs) =>
      (.error (err .communication (lit "WebSocket connection closed by peer")), ⟨[], [], pongs⟩)
  | read :: reads, chunks, queued, pongs =>
    match scan_events u chunks queued pongs with
    | (.answer r rest, pongs) => (r, ⟨rest, read :: reads, pongs⟩)
    | (.more chunks, pongs) =>
      match read with
      | .error _ =>
        (.error (err .communication (lit "WebSocket transport recv failed")), ⟨[], reads, pongs⟩)
      | .ok events => recv_turns u reads chunks events pongs

/-- SOURCE: ws.py:457-502.  `WsTransport.recv_message`. -/
def WsTransport.recv_message (u : Unicode) (s : WsTransport) : Except PyError Bytes × WsTransport :=
  recv_turns u s.reads [] s.queued s.pongs

/-- SOURCE: ws.py:514-525.  A pong that the socket does not take is passed over; so is everything
that is neither a ping nor the close. -/
def drain_events (u : Unicode) : List WsEvent → ℕ → Option PyError × List WsEvent × ℕ
  | [], pongs => (none, [], pongs)
  | .CloseConnection code reason :: rest, pongs => (some (ws_closed u code reason), rest, pongs)
  | .Ping sends :: rest, pongs => drain_events u rest (if sends then pongs + 1 else pongs)
  | .BytesMessage _ _ :: rest, pongs => drain_events u rest pongs
  | .Pong :: rest, pongs => drain_events u rest pongs

/-- SOURCE: ws.py:504-525.  `WsTransport.drain_queued_close`. -/
def WsTransport.drain_queued_close (u : Unicode) (s : WsTransport) :
    Option PyError × WsTransport :=
  let r := drain_events u s.queued s.pongs
  (r.1, ⟨r.2.1, s.reads, r.2.2⟩)

end SapRfc.Program
