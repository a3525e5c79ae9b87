import SapRfc.Library.Runs
import SapRfc.Program.Connection

/-!
# Connections that share their stores

What one connection has parked another one may send again, in the same process or in a later
one.  A fleet is any number of connections over one state of the stores; a call runs on one of
them, and a connection may be opened in the place of another at any time.
-/

set_option autoImplicit false

namespace SapRfc.Program

open SapRfc.Library

/-- `self._session.handle or b"        "` -/
def Session.sendHandle (s : Session) : Bytes :=
  match s.handle with
  | some (b :: bs) => b :: bs
  | _ => List.replicate 8 0x20

/-- The connections, and the state of the stores. -/
structure Fleet (ι ω χ : Type) where
  conns : ι → Conn ω χ
  shared : χ

/-- What happens on one of the connections. -/
inductive FleetCall (ι ω χ : Type) where
  | call_transactional (i : ι) (func_name tid : PyStr) (queue : Option PyStr)
  | submit_unit (i : ι) (uid unit_type : PyStr) (queues : List PyStr) (buffered_calls : List Bytes)
  | retry_parked (i : ι) (tid : PyStr)
  | retry_parked_unit (i : ι) (unit_id unit_type : PyStr)
  /-- a connection is opened, or has gone through other methods -/
  | opened (i : ι) (c : Conn ω χ)

/-- What a call did: the session it ran on, how it ended, and the requests it sent. -/
structure Performed (ω : Type) where
  session : Session
  result : Except PyError Unit
  sent : List (Trip ω)

section Fleet

variable {ι ω χ V : Type} [DecidableEq ι] (k : ι → Client ω χ V)

/-- Run a method of one connection over the stores of all. -/
def Fleet.perform (i : ι) (x : Op ω χ Unit) (w : Fleet ι ω χ) : Performed ω × Fleet ι ω χ :=
  let c := { w.conns i with user := w.shared }
  let out := Eff.run x c
  (⟨c.session, out.1, out.2.trips.drop c.trips.length⟩,
    ⟨Function.update w.conns i out.2, out.2.user⟩)

/-- One call. -/
def fleetStep : FleetCall ι ω χ → Fleet ι ω χ → Performed ω × Fleet ι ω χ
  | .call_transactional i func_name tid queue, w =>
    w.perform i (async_call_transactional (k i) func_name tid queue)
  | .submit_unit i uid unit_type queues buffered_calls, w =>
    w.perform i (async_submit_unit (k i) uid unit_type queues buffered_calls)
  | .retry_parked i tid, w => w.perform i (async_retry_parked (k i) tid)
  | .retry_parked_unit i unit_id unit_type, w =>
    w.perform i (async_retry_parked_unit (k i) unit_id unit_type)
  | .opened i c, w => (⟨c.session, .ok (), []⟩, { w with conns := Function.update w.conns i c })

/-- The key that a submission parks its request under. -/
def FleetCall.submits : FleetCall ι ω χ → Option ParkKey
  | call_transactional _ _ tid _ => some (.tid tid)
  | submit_unit _ uid unit_type _ _ => some (.unit uid unit_type)
  | _ => none

/-- The key whose payload is sent again. -/
def FleetCall.redrives : FleetCall ι ω χ → Option ParkKey
  | retry_parked _ tid => some (.tid tid)
  | retry_parked_unit _ unit_id unit_type => some (.unit unit_id unit_type)
  | _ => none

/-- The request records of a submission. -/
def FleetCall.request : FleetCall ι ω χ → Except PyError Bytes
  | call_transactional i func_name tid queue => build_trfc_request (k i).p.u tid func_name queue
  | submit_unit i uid unit_type queues buffered_calls =>
    build_bgrfc_request (k i).p.u uid unit_type queues buffered_calls
  | _ => .ok []

end Fleet

end SapRfc.Program
