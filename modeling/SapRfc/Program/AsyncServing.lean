import SapRfc.Program.Serving
import SapRfc.Program.Transport

/-!
# Serve loops

The two loops that read frames from the other side.  The registered server answers a call
before it reads the next frame, and keeps the conversation id of the last `0x06CF` frame.
The asynchronous server makes a task of each call and reads on: a task runs until its
`async def` handler is awaited, and goes on when that has ended, with the turns of other
tasks and further frames in between.
-/

set_option autoImplicit false

namespace SapRfc.Program

open SapRfc.Library

/-- `0x06CF`, the id of the conversation that follows. -/
def GW_CONVERSATION : ℕ := 0x06CF

/-- `0x06CE`, an idle frame. -/
def GW_IDLE : ℕ := 0x06CE

/-- `0x0603`, an inbound call. -/
def GW_CALL : ℕ := 0x0603

/-- `int.from_bytes(frame[0:2], "big")` -/
def frame_type (frame : Bytes) : ℕ := ofBE (frame.take 2)

/-- A frame that is dispatched. -/
def IsCall (frame : Bytes) : Prop := 2 ≤ frame.length ∧ frame_type frame = GW_CALL

instance (frame : Bytes) : Decidable (IsCall frame) := inferInstanceAs (Decidable (_ ∧ _))

section Loops

variable {χ V : Type} (p : Platform V) (srv : RfcServer χ V)

/-! ## The registered server -/

/-- The serve loop between two frames. -/
structure ServeLoop (χ : Type) where
  server : ServerWorld χ
  gw_handle : Bytes
  running : Bool

/-- SOURCE: server.py:1619-1623.  The loop before its first frame. -/
def ServeLoop.start (w : ServerWorld χ) : ServeLoop χ := ⟨w, List.replicate 8 0x20, true⟩

/-- SOURCE: server.py:1626-1649.  What is sent for one frame, and the loop behind it.  An
exception that is no `Exception` ends the loop. -/
def serve_turn (frame : Bytes) (s : ServeLoop χ) : List Bytes × ServeLoop χ :=
  if s.running = false ∨ frame.length < 2 then ([], s)
  else if frame_type frame = GW_CONVERSATION then
    ([], { s with gw_handle := if 48 ≤ frame.length then slice frame 40 48 else s.gw_handle })
  else if frame_type frame = GW_IDLE then ([], s)
  else if frame_type frame = GW_CALL then
    match Eff.run (dispatch_and_reply_sync p srv frame s.gw_handle) ⟨s.server, []⟩ with
    | (.ok _, t) => (t.sent, { s with server := t.server })
    | (.error _, t) => (t.sent, { s with server := t.server, running := false })
  else ([], s)

/-! ## The dispatch of a task -/

/-- What the first turn of a dispatch comes to: its end, or the `async def` handler that it
awaits. -/
inductive FirstTurn (χ V : Type) where
  | ended (out : Bytes)
  | awaits (func_desc : Option FunctionDesc) (handler : Handler χ V) (request : Values V)

/-- SOURCE: server.py:1838-1849.  The handler, and what its end is answered with. -/
def answer_handler (func_desc : Option FunctionDesc) (handler : Handler χ V)
    (request : Values V) : Eff PyError (ServerWorld χ) Bytes := do
  let result ← attempt (await_handler handler request)
  match result with
  | .error exc => Eff.lift (build_system_failure exc.text)
  | .ok values => Eff.lift (build_response p func_desc (values.getD []))

/-- SOURCE: server.py:1822-1839, up to the `await`. -/
def async_call_start (tlv : Bytes) (fname : PyStr) :
    Eff PyError (ServerWorld χ) (FirstTurn χ V) := do
  let entry ← ext (srv.lookup p fname)
  match entry with
  | none => do
    let out ← Eff.lift (build_system_failure (lit "function " ++ fname ++ lit " not registered"))
    pure (.ended out)
  | some (func_desc, handler) => do
    note (.selected handler.id)
    let allowed ← ext (check_auth srv tlv)
    if allowed = false then do
      let out ← Eff.lift (build_system_failure (lit "authentication failed"))
      pure (.ended out)
    else do
      let request ← Eff.lift (deserialize_request p tlv func_desc)
      if handler.coroutine then pure (.awaits func_desc handler request)
      else do
        let out ← answer_handler p func_desc handler request
        pure (.ended out)

/-- SOURCE: server.py:1789-1839, up to the `await`. -/
def async_dispatch_start (frame : Bytes) : Eff PyError (ServerWorld χ) (FirstTurn χ V) := do
  let tlv := strip_gw_header frame
  let fname ← Eff.lift (read_func_name tlv)
  if fname ∈ systemNames then do
    let out ← dispatch_inbound p srv frame
    pure (.ended out)
  else async_call_start p srv tlv fname

/-- What is left of a dispatch after its first turn. -/
def async_dispatch_rest : FirstTurn χ V → Eff PyError (ServerWorld χ) Bytes
  | .ended out => pure out
  | .awaits func_desc handler request => answer_handler p func_desc handler request

/-! ## The connection of the asynchronous server -/

/-- How far the dispatch of a call has come. -/
inductive CallTask (χ V : Type) where
  | created (frame : Bytes)
  | awaiting (func_desc : Option FunctionDesc) (handler : Handler χ V) (request : Values V)

/-- One connection of the asynchronous server.  A call is known by its place among the calls
received; `finished` notes what the dispatches ended with, in this order. -/
structure Connection (χ V : Type) where
  server : ServerWorld χ
  requests : List Bytes
  tasks : List (ℕ × CallTask χ V)
  finished : List (ℕ × Except PyError Bytes)
  written : List (ℕ × Bytes)
  connected : Bool

/-- A connection that is accepted. -/
def Connection.accept (w : ServerWorld χ) : Connection χ V := ⟨w, [], [], [], [], true⟩

/-- What can happen next on a connection. -/
inductive ConnectionEvent (χ : Type) where
  /-- the loop receives a frame -/
  | arrive (frame : Bytes)
  /-- the event loop starts the task that was created first -/
  | start
  /-- the handler that a task awaits has ended -/
  | complete (call : ℕ)
  /-- something else changes what the handlers see -/
  | outside (g : χ)
  /-- the read fails, and every task in flight is cancelled -/
  | disconnect

/-- The reply that the end of a dispatch makes: none when it raised, or when the response is
too long for a frame. -/
def reply_of (e : ℕ × Except PyError Bytes) : Option (ℕ × Bytes) :=
  match e.2 with
  | .error _ => none
  | .ok resp =>
    match build_ni_frame resp with
    | .ok _ => some (e.1, resp)
    | .error _ => none

/-- The dispatch was interrupted, which the event loop does not survive. -/
def interrupts : Except PyError Bytes → Bool
  | .error exc => decide (exc.kind = .interrupt)
  | .ok _ => false

/-- SOURCE: server.py:1927-1946.  The response is written as soon as the dispatch has
returned; what raises is logged.  An exception that is no `Exception` ends the task, and an
interrupt the event loop with it. -/
def finish (call : ℕ) (r : Except PyError Bytes) (c : Connection χ V) : Connection χ V :=
  { c with
    tasks := if interrupts r then [] else c.tasks.filter fun t => t.1 ≠ call
    finished := c.finished ++ [(call, r)]
    written := c.written ++ (reply_of (call, r)).toList
    connected := c.connected && !interrupts r }

/-- The task that was created first and has not run. -/
def first_created (tasks : List (ℕ × CallTask χ V)) : Option (ℕ × Bytes) :=
  tasks.findSome? fun t =>
    match t.2 with
    | .created frame => some (t.1, frame)
    | .awaiting _ _ _ => none

/-- SOURCE: server.py:1855-1946. -/
def connection_step (c : Connection χ V) : ConnectionEvent χ → Connection χ V
  | .arrive frame =>
    if c.connected = true ∧ IsCall frame then
      { c with
        requests := c.requests ++ [frame]
        tasks := c.tasks ++ [(c.requests.length, .created frame)] }
    else c
  | .start =>
    match first_created c.tasks with
    | none => c
    | some (call, frame) =>
      match Eff.run (async_dispatch_start p srv frame) c.server with
      | (.ok (.ended out), w) => finish call (.ok out) { c with server := w }
      | (.ok (.awaits func_desc handler request), w) =>
        { c with
          server := w
          tasks := assocSet c.tasks call (.awaiting func_desc handler request) }
      | (.error exc, w) => finish call (.error exc) { c with server := w }
  | .complete call =>
    match assocGet c.tasks call with
    | some (.awaiting func_desc handler request) =>
      let (r, w) := Eff.run (answer_handler p func_desc handler request) c.server
      finish call r { c with server := w }
    | _ => c
  | .outside g => { c with server := ⟨g, c.server.events⟩ }
  | .disconnect => { c with tasks := [], connected := false }

/-- A run of the connection. -/
def connection_run (events : List (ConnectionEvent χ)) (c : Connection χ V) : Connection χ V :=
  events.foldl (connection_step p srv) c

end Loops

end SapRfc.Program
