import SapRfc.Program.Connection
import SapRfc.Program.Serving

/-!
# A connection and a server

The transport of a connection whose peer is a server of this library.  The link between them
refuses a request, loses it, loses the answer, or delivers both.  A gateway on the way puts a
header of its own in the place of the other one; both are 80 bytes, and both sides skip them.

The list of deliveries is read by the results only.
-/

set_option autoImplicit false

namespace SapRfc.Program

open SapRfc.Library

/-- `frame[40:48]` of a long enough frame. -/
structure GwHandle where
  bytes : Bytes
  length_eq : bytes.length = 8

/-- What the link does with a request. -/
inductive Transit where
  | refused
  | request_lost
  | answer_lost
  | answered
  deriving DecidableEq, Repr

/-- A request that reached the server: the first message that the serve step sent for it, and
whether the client gets it. -/
structure Delivery where
  request : Bytes
  answer : Option Bytes
  arrived : Bool
  deriving DecidableEq, Repr

/-- The link and the server behind it.  `transits` says how it goes with the requests to come. -/
structure Peer (χ : Type) where
  server : ServerWorld χ
  transits : List Transit
  inbox : Option Bytes
  deliveries : List Delivery

section Peer

variable {χ ψ V : Type} (p : Platform V) (srv : RfcServer χ V) (handle : GwHandle)

/-- The server takes a request. -/
def Peer.deliver (request : Bytes) (arrived : Bool) (l : Peer χ) : Peer χ :=
  let s := (Eff.run (dispatch_and_reply_sync p srv request handle.bytes) ⟨l.server, []⟩).2
  { l with
    server := s.server
    inbox := if arrived then s.sent.head? else none
    deliveries := l.deliveries ++ [⟨request, s.sent.head?, arrived⟩] }

/-- `send_message` over the link. -/
def peer_send (request : Bytes) : Eff PyError (Peer χ) Unit := Eff.mk fun l =>
  let transit := l.transits.headD .request_lost
  let l := { l with transits := l.transits.tail, inbox := none }
  match transit with
  | .refused => (.error (err .os (lit "Connection reset by peer")), l)
  | .request_lost => (.ok (), l)
  | .answer_lost => (.ok (), l.deliver p srv handle request false)
  | .answered => (.ok (), l.deliver p srv handle request true)

/-- `recv_message` over the link. -/
def peer_recv : Eff PyError (Peer χ) Bytes := Eff.mk fun l =>
  match l.inbox with
  | some frame => (.ok frame, { l with inbox := none })
  | none => (.error (err .timeout (lit "timed out")), l)

/-- A connection to a server. -/
def peer_seam : Seam (Peer χ) where
  send_message := peer_send p srv handle
  recv_message := peer_recv
  sleep := pure ()
  drain_queued_close := pure none
  close := pure ()

/-- A client whose transport leads to the server. -/
def Client.toPeer (k : Client (Peer χ) ψ V) : Client (Peer χ) ψ V :=
  { k with seam := peer_seam k.p srv handle }

/-! ## Runs -/

/-- A transactional call of the client. -/
inductive ClientCall where
  | call_transactional (func_name tid : PyStr) (queue : Option PyStr)
  | retry_parked (tid : PyStr)
  | confirm_tid (tid : PyStr)
  deriving DecidableEq, Repr

/-- The TID of a call. -/
def ClientCall.tid : ClientCall → PyStr
  | call_transactional _ tid _ => tid
  | retry_parked tid => tid
  | confirm_tid tid => tid

def ClientCall.run (k : Client (Peer χ) ψ V) : ClientCall → Op (Peer χ) ψ Unit
  | call_transactional func_name tid queue => async_call_transactional k func_name tid queue
  | retry_parked tid => async_retry_parked k tid
  | confirm_tid tid => async_confirm_tid k tid

/-- A call with what was before and after it. -/
structure Submitted (χ ψ : Type) where
  call : ClientCall
  before : Conn (Peer χ) ψ
  result : Except PyError Unit
  after : Conn (Peer χ) ψ

/-- A call, and how it goes with the requests that it sends. -/
def callOnce (k : Client (Peer χ) ψ V) (call : ClientCall × List Transit)
    (c : Conn (Peer χ) ψ) : Submitted χ ψ :=
  let before := { c with wire := { c.wire with transits := call.2 } }
  let out := Eff.run (call.1.run (k.toPeer srv handle)) before
  ⟨call.1, before, out.1, out.2⟩

/-- The calls of a client, one after the other. -/
def callAll (k : Client (Peer χ) ψ V) :
    List (ClientCall × List Transit) → Conn (Peer χ) ψ → List (Submitted χ ψ)
  | [], _ => []
  | call :: calls, c =>
    let s := callOnce srv handle k call c
    s :: callAll k calls s.after

end Peer

end SapRfc.Program
