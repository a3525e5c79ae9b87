import SapRfc.Program.Peer

/-!
# Units of a client

The handle of a bgRFC unit, which buffers calls until its `with` block is left, and what a client
does with it.  The handle can be entered again, and what is parked of its unit can be sent again;
each of these sends what it has to send over the link to a server.
-/

set_option autoImplicit false

namespace SapRfc.Program

open SapRfc.Library

/-- SOURCE: connection.py:3777-3790, and 3886-3898 of the asynchronous twin.  The values of a call
are given as an f-string prints them. -/
structure UnitHandle where
  uid : PyStr
  unit_type : PyStr
  queues : List PyStr
  buffered : List (PyStr × List (PyStr × PyStr))
  submitted : Bool
  deriving DecidableEq, Repr

section Units

variable {ω χ V : Type} (k : Client ω χ V)

/-- SOURCE: connection.py:3425-3472, and 5322-5345 of the asynchronous twin. -/
def create_unit (uid : Option PyStr) (queues : Option (List PyStr)) : UnitHandle where
  uid := uid.getD (k.p.u.upper k.fresh_hex)
  unit_type := if queues.getD [] ≠ [] then lit "Q" else lit "T"
  queues := queues.getD []
  buffered := []
  submitted := false

/-- SOURCE: connection.py:3802-3817, and 3910-3920 of the asynchronous twin. -/
def UnitHandle.call (unit : UnitHandle) (func_name : PyStr) (params : List (PyStr × PyStr)) :
    UnitHandle :=
  { unit with buffered := unit.buffered ++ [(func_name, params)] }

/-- The bytes of the calls that are buffered. -/
def UnitHandle.buffered_bytes (unit : UnitHandle) : Except PyError (List Bytes) :=
  unit.buffered.mapM fun e => buffer_call e.1 e.2

/-- SOURCE: connection.py:3855-3868, and 3946-3959 of the asynchronous twin. -/
def UnitHandle.ship (unit : UnitHandle) : Op ω χ Unit := do
  let buffered_bytes ← Eff.lift unit.buffered_bytes
  async_submit_unit k unit.uid unit.unit_type unit.queues buffered_bytes

/-- SOURCE: connection.py:3822-3869, and 3925-3960 of the asynchronous twin.  The block is left
with what its body raised, or with nothing. -/
def UnitHandle.leave (raised : Option PyError) (unit : UnitHandle) (c : Conn ω χ) :
    Except PyError Unit × UnitHandle × Conn ω χ :=
  match raised with
  | some exc => (.error exc, unit, c)
  | none =>
    if unit.submitted then (.ok (), unit, c)
    else
      let out := Eff.run (unit.ship k) c
      (out.1, { unit with submitted := true }, out.2)

theorem leave_submitted {unit : UnitHandle} (h : unit.submitted = true) (c : Conn ω χ) :
    unit.leave k none c = (.ok (), unit, c) := by
  unfold UnitHandle.leave
  rw [h]
  rfl

theorem leave_first {unit : UnitHandle} (h : unit.submitted = false) (c : Conn ω χ) :
    unit.leave k none c = ((Eff.run (unit.ship k) c).1, { unit with submitted := true },
      (Eff.run (unit.ship k) c).2) := by
  unfold UnitHandle.leave
  rw [h]
  rfl

/-- What a client does with a unit. -/
inductive UnitMove where
  | call (func_name : PyStr) (params : List (PyStr × PyStr))
  | leave (raised : Option PyError)
  | retry_parked

/-- One move, on the handle and the connection. -/
def UnitMove.run : UnitMove → UnitHandle × Conn ω χ → Except PyError Unit × UnitHandle × Conn ω χ
  | call func_name params, (unit, c) => (.ok (), unit.call func_name params, c)
  | leave raised, (unit, c) => unit.leave k raised c
  | retry_parked, (unit, c) =>
    let out := Eff.run (async_retry_parked_unit k unit.uid unit.unit_type) c
    (out.1, unit, out.2)

end Units

section Linked

variable {χ ψ V : Type} (srv : RfcServer χ V) (handle : GwHandle)

/-- A move over the link to a server, and how it goes with the requests that it sends. -/
def unitStep (k : Client (Peer χ) ψ V) (move : UnitMove × List Transit)
    (s : UnitHandle × Conn (Peer χ) ψ) : Except PyError Unit × UnitHandle × Conn (Peer χ) ψ :=
  move.1.run (k.toPeer srv handle) (s.1, { s.2 with wire := { s.2.wire with transits := move.2 } })

end Linked

end SapRfc.Program
