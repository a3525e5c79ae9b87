import SapRfc.Program.Session
import SapRfc.Program.Stores
import SapRfc.Program.Wire

/-!
# Connections

The two connections of `connection.py`.  `AsyncConnection` runs every classic TCP
connection, and the synchronous `Connection` on top of it hands its calls over.  The
bodies of `Connection` itself run over SNC, over a bare transport and over a WebSocket.

The transport is a seam whose methods are programs over a state `ω` of which nothing is
known here.  The metadata lookups exist twice, line for line; they are written once over
the one thing in which they differ, how a request is sent and its reply is read.

The log `trips` is read by the results only: every request in the order they are sent,
with the state of the transport before it.
-/

set_option autoImplicit false

namespace SapRfc.Program

open SapRfc.Library

/-- The methods of a transport. -/
structure Seam (ω : Type) extends InnerTransport ω where
  sleep : Eff PyError ω Unit
  /-- a close of the WebSocket that arrived with the last message -/
  drain_queued_close : Eff PyError ω (Option PyError)
  close : Eff PyError ω Unit

/-- What a request is for. -/
inductive Purpose where
  | logon | interface | struct | invoke | direct | ping | submit
  deriving DecidableEq, Repr

/-- How a reply is read: one frame, or the frames of `_join_response_frames`. -/
inductive Reader where
  | frame
  | frames (func_name : PyStr)
  deriving DecidableEq, Repr

/-- Read a reply from a source of frames. -/
def Reader.read {σ : Type} (recv_message : Eff PyError σ Bytes) : Reader → Eff PyError σ Bytes
  | frame => recv_message
  | frames func_name => join_response_frames recv_message func_name

theorem keeps_read {σ : Type} {recv_message : Eff PyError σ Bytes} {R : σ → σ → Prop}
    (refl : ∀ s, R s s) (trans : ∀ a b c, R a b → R b c → R a c)
    (h : Eff.Keeps R recv_message) (reader : Reader) :
    Eff.Keeps R (reader.read recv_message) := by
  cases reader with
  | frame => exact h
  | frames func_name => exact keeps_join_response_frames refl trans h

theorem tracks_read {σ τ : Type} {recv_message : Eff PyError σ Bytes}
    {recv_message' : Eff PyError τ Bytes} {R : σ → τ → Prop} {E : PyError → Prop}
    (h : Eff.Tracks R E recv_message recv_message') (reader : Reader) :
    Eff.Tracks R E (reader.read recv_message) (reader.read recv_message') := by
  cases reader with
  | frame => exact h
  | frames func_name => exact tracks_join_response_frames h

/-- A request, how its reply is read, and the state of the transport before it. -/
structure Trip (ω : Type) where
  purpose : Purpose
  reader : Reader
  request : Bytes
  before : ω

/-- What changes while a connection lives. -/
structure Conn (ω χ : Type) where
  wire : ω
  session : Session
  cache : List ((PyStr × PyStr) × FunctionDesc)
  anon_cache_key : Option PyStr
  struct_cache : List (PyStr × TypeDesc)
  is_ws : Bool
  ws_auth : Option WsAuth
  user : χ
  trips : List (Trip ω)

/-- What a connection is given, and what it takes from the machine. -/
structure Client (ω χ V : Type) where
  p : Platform V
  seam : Seam ω
  snc_mode : Bool
  strict_params : Bool
  max_retries : ℕ
  tid_store : Option (TidStore χ)
  unit_store : Option (UnitStore χ)
  /-- `uuid.uuid4().hex` -/
  fresh_hex : PyStr
  hostname : PyStr
  nonce : Bytes
  /-- `connect_tcp` to a host and a port, and the handshake on the new stream -/
  redial : PyStr → ℕ → WsAuth → Eff PyError ω Session

/-- A method of a connection. -/
abbrev Op (ω χ α : Type) : Type := Eff PyError (Conn ω χ) α

section Parts

variable {ω χ V α : Type}

def onWire (x : Eff PyError ω α) : Op ω χ α :=
  Eff.zoom (·.wire) (fun w c => { c with wire := w }) x

def onSession (x : Eff PyError Session α) : Op ω χ α :=
  Eff.zoom (·.session) (fun s c => { c with session := s }) x

def onStore (x : Eff PyError χ α) : Op ω χ α :=
  Eff.zoom (·.user) (fun g c => { c with user := g }) x

variable (k : Client ω χ V)

/-- Note a request and send it. -/
def send_request (purpose : Purpose) (reader : Reader) (request : Bytes) : Op ω χ Unit := do
  Eff.update fun c => { c with trips := c.trips ++ [⟨purpose, reader, request, c.wire⟩] }
  onWire (k.seam.send_message request)

/-- Read the reply to the last request. -/
def read_reply (reader : Reader) : Op ω χ Bytes := onWire (reader.read k.seam.recv_message)

/-- A request and its reply. -/
def exchange (purpose : Purpose) (reader : Reader) (request : Bytes) : Op ω χ Bytes := do
  send_request k purpose reader request
  read_reply k reader

/-- A request and its reply, as the transport sees them. -/
def Seam.round_trip (seam : Seam ω) (reader : Reader) (request : Bytes) : Eff PyError ω Bytes := do
  seam.send_message request
  reader.read seam.recv_message

theorem run_exchange (purpose : Purpose) (reader : Reader) (request : Bytes) (c : Conn ω χ) :
    Eff.run (exchange k purpose reader request) c =
      ((Eff.run (k.seam.round_trip reader request) c.wire).1,
        { c with
          wire := (Eff.run (k.seam.round_trip reader request) c.wire).2
          trips := c.trips ++ [⟨purpose, reader, request, c.wire⟩] }) := by
  unfold exchange send_request read_reply Seam.round_trip onWire
  simp only [Eff.run_bind, Eff.run_update, Eff.run_zoom]
  cases Eff.run (k.seam.send_message request) c.wire with
  | mk r w =>
    cases r with
    | ok _ => rfl
    | error _ => rfl

/-- SOURCE: connection.py:2280-2296.  SNC puts its own envelope around the records. -/
def wire_frame (frame : Bytes) : Bytes := if k.snc_mode then frame.drop 80 else frame

/-- `Connection._build_invoke_frame(self._session.handle or b"        ", request_tlv)` -/
def invoke_frame (request_tlv : Bytes) : Op ω χ Bytes := do
  let c ← Eff.state
  let handle := match c.session.handle with
    | some (b :: bs) => b :: bs
    | _ => List.replicate 8 0x20
  Eff.lift (build_invoke_frame handle request_tlv)

/-- `attrs.unicode_mode if attrs else True` -/
def unicode_mode : Op ω χ Bool := do
  let c ← Eff.state
  pure ((c.session.attributes.map (·.unicode_mode)).getD true)

/-- SOURCE: connection.py:1732-1762. -/
def fail_closed (func_name : PyStr) (body : Op ω χ α) : Op ω χ α :=
  tryCatch body fun exc =>
    if exc.kind.isAbap then throw exc
    else if exc.kind.isTransport then do
      onSession (mark_broken (func_name ++ lit ": " ++ exc.text))
      throw (asCommunication exc)
    else if exc.kind.isException then do
      onSession (mark_broken (func_name ++ lit ": " ++ k.p.typeName exc ++ lit ": " ++ exc.text))
      throw exc
    else throw exc

/-- The exceptions at which the guard gives the connection up. -/
def GivesUp (e : PyError) : Prop := e.kind.isAbap = false ∧ e.kind.isException = true

instance (e : PyError) : Decidable (GivesUp e) := inferInstanceAs (Decidable (_ ∧ _))

/-- The connection is given up for a reason. -/
def Conn.broken (c : Conn ω χ) (reason : PyStr) : Conn ω χ :=
  { c with session := { c.session with
    state := .BROKEN
    broken_reason := reason } }

/-- The three ways out of the guard. -/
theorem run_fail_closed (func_name : PyStr) (body : Op ω χ α) (c : Conn ω χ) :
    (∃ a, (Eff.run body c).1 = .ok a ∧
      Eff.run (fail_closed k func_name body) c = Eff.run body c) ∨
    (∃ e, (Eff.run body c).1 = .error e ∧ ¬ GivesUp e ∧
      Eff.run (fail_closed k func_name body) c = Eff.run body c) ∨
    ∃ e reason, (Eff.run body c).1 = .error e ∧ GivesUp e ∧
      Eff.run (fail_closed k func_name body) c =
        (.error (asCommunication e), (Eff.run body c).2.broken reason) := by
  unfold fail_closed
  rw [Eff.run_tryCatch]
  cases hr : Eff.run body c with
  | mk r c' =>
    cases r with
    | ok a => exact .inl ⟨a, rfl, rfl⟩
    | error e =>
      refine .inr ?_
      by_cases habap : e.kind.isAbap = true
      · exact .inl ⟨e, rfl, fun h => by simp [GivesUp, habap] at h, by simp [habap]⟩
      · have habap : e.kind.isAbap = false := by simpa using habap
        by_cases htransport : e.kind.isTransport = true
        · refine .inr ⟨e, func_name ++ lit ": " ++ e.text, rfl,
            ⟨habap, ErrKind.isException_of_isTransport htransport⟩, ?_⟩
          simp only [habap, htransport, if_true, Bool.false_eq_true, if_false]
          rfl
        · by_cases hexc : e.kind.isException = true
          · refine .inr ⟨e, func_name ++ lit ": " ++ k.p.typeName e ++ lit ": " ++ e.text, rfl,
              ⟨habap, hexc⟩, ?_⟩
            simp only [habap, htransport, hexc, asCommunication, if_true, Bool.false_eq_true,
              if_false]
            rfl
          · exact .inl ⟨e, rfl, fun h => hexc h.2, by simp [habap, htransport, hexc]⟩

/-- The guard leaves the stream and the log to its body. -/
theorem fail_closed_frame (func_name : PyStr) (body : Op ω χ α) (c : Conn ω χ) :
    (Eff.run (fail_closed k func_name body) c).2.wire = (Eff.run body c).2.wire ∧
      (Eff.run (fail_closed k func_name body) c).2.trips = (Eff.run body c).2.trips := by
  obtain ⟨a, -, h⟩ | ⟨e, -, -, h⟩ | ⟨e, reason, -, -, h⟩ := run_fail_closed k func_name body c
  · rw [h]
    exact ⟨rfl, rfl⟩
  · rw [h]
    exact ⟨rfl, rfl⟩
  · rw [h]
    exact ⟨rfl, rfl⟩

/-- Whoever runs the guard into such an exception finds the session `BROKEN`. -/
theorem fail_closed_broken {func_name : PyStr} {body : Op ω χ α} {c : Conn ω χ} {e : PyError}
    (he : (Eff.run body c).1 = .error e) (hgives : GivesUp e) :
    (Eff.run (fail_closed k func_name body) c).2.session.state = .BROKEN := by
  obtain ⟨a, ha, -⟩ | ⟨e', he', hnot, -⟩ | ⟨e', reason, -, -, h⟩ :=
    run_fail_closed k func_name body c
  · rw [he] at ha
    cases ha
  · rw [he] at he'
    cases he'
    exact absurd hgives hnot
  · rw [h]
    rfl

/-- Otherwise the guard does nothing. -/
theorem fail_closed_quiet {func_name : PyStr} {body : Op ω χ α} {c : Conn ω χ}
    (h : ∀ e, (Eff.run body c).1 = .error e → ¬ GivesUp e) :
    Eff.run (fail_closed k func_name body) c = Eff.run body c := by
  obtain ⟨a, -, hrun⟩ | ⟨e, -, -, hrun⟩ | ⟨e, reason, he, hgives, -⟩ :=
    run_fail_closed k func_name body c
  · exact hrun
  · exact hrun
  · exact absurd hgives (h e he)

/-- SOURCE: connection.py:2377-2400, and 4984-5007 of the asynchronous twin.  A system
that sends no name of its own is cached under a name of this connection. -/
def metadata_cache_key : Op ω χ (Option PyStr) := do
  let c ← Eff.state
  match c.session.attributes with
  | none => pure none
  | some attrs =>
    if attrs.sys_id ≠ [] then pure (some attrs.sys_id)
    else
      match c.anon_cache_key with
      | some key => pure (some key)
      | none => do
        let key := [0] ++ lit "anon-" ++ k.fresh_hex
        Eff.update fun c => { c with anon_cache_key := some key }
        pure (some key)

/-- SOURCE: metadata.py:162-165. -/
def cache_get (sys_id name : PyStr) : Op ω χ (Option FunctionDesc) := do
  let c ← Eff.state
  pure (assocGet c.cache (sys_id, k.p.u.upper name))

/-- SOURCE: metadata.py:167-170. -/
def cache_put (sys_id : PyStr) (desc : FunctionDesc) : Op ω χ Unit :=
  Eff.update fun c => { c with cache := assocSet c.cache (sys_id, k.p.u.upper desc.name) desc }

/-- What the cache holds; without a key nothing is looked for. -/
def cache_hit (cache_key : Option PyStr) (func_name : PyStr) : Op ω χ (Option FunctionDesc) :=
  match cache_key with
  | some key => cache_get k key func_name
  | none => pure none

/-- Without a key nothing is cached. -/
def cache_fill (cache_key : Option PyStr) (desc : FunctionDesc) : Op ω χ Unit :=
  match cache_key with
  | some key => cache_put k key desc
  | none => pure ()

/-! ## Metadata lookups -/

/-- How a lookup sends its request and reads its reply. -/
abbrev RoundTrip (ω χ V : Type) : Type :=
  Purpose → PyStr → FunctionDesc → Values V → Op ω χ Bytes

/-- SOURCE: connection.py:2771-2791, and 4896-4910 of the asynchronous twin. -/
def struct_via_ddif (trip : RoundTrip ω χ V) (tabname : PyStr) (unicode_mode : Bool) :
    Op ω χ (Option TypeDesc) := do
  let response ← trip .struct DDIF_FIELDINFO_GET (build_ddif_fieldinfo_desc unicode_mode)
    (ddif_fieldinfo_params k.p tabname)
  Eff.lift (raise_for_rfc_error k.p.u (strip_gw_header response))
  let rows ← Eff.lift (parse_ddif_dfies_rows k.p response)
  if rows = [] then pure none
  else do
    let td ← Eff.lift (build_type_desc_from_ddif k.p tabname rows)
    pure (some td)

/-- SOURCE: connection.py:2838-2893, and 4938-4977 of the asynchronous twin. -/
def struct_via_rsd (trip : RoundTrip ω χ V) (tabname : PyStr) (unicode_mode : Bool) :
    Op ω χ TypeDesc := do
  let response ← trip .struct GET_STRUCTURE_DEFINITION (rsd_desc unicode_mode)
    [(lit "TABNAME", k.p.codec.ofStr tabname)]
  Eff.lift (raise_for_rfc_error k.p.u (strip_gw_header response))
  let dfies_rows ← Eff.lift (parse_dfies_rows k.p response)
  Eff.lift (build_type_desc_from_dfies k.p tabname dfies_rows)

/-- SOURCE: connection.py:2793-2893, and 4912-4977 of the asynchronous twin.  An ABAP
error of the first lookup, or a reply without rows, leads to the second; over a WebSocket
the second is the only one. -/
def struct_bootstrap (trip : RoundTrip ω χ V) (is_ws : Bool) (tabname : PyStr) :
    Op ω χ TypeDesc := do
  let mode ← unicode_mode
  if is_ws then struct_via_rsd k trip tabname mode
  else do
    let td ← tryCatch (struct_via_ddif k trip tabname mode) fun exc =>
      if exc.kind.isAbap then pure none else throw exc
    match td with
    | some td => pure td
    | none => struct_via_rsd k trip tabname mode

/-- SOURCE: connection.py:2715-2746, and 4844-4874 of the asynchronous twin.  The
parameters whose rows can be read, each with the type to look up, if any. -/
def parse_parameters (rows : List ParamsRow) : List (FieldDesc × PyStr) :=
  rows.filterMap fun row =>
    match parse_params_row k.p row with
    | .ok fd =>
      some (fd, if fd.rfctype ∈ [RFCTYPE_STRUCTURE, RFCTYPE_TABLE] then row.TABNAME else [])
    | .error _ => none

/-- SOURCE: connection.py:2752-2764, and 4877-4889 of the asynchronous twin.  A type that
cannot be fetched is left out, whatever the reason. -/
def fetch_layout (bootstrap : PyStr → Op ω χ TypeDesc) (tabname : PyStr) : Op ω χ Unit := do
  let c ← Eff.state
  if (assocGet c.struct_cache tabname).isSome then pure ()
  else do
    let td ← attempt (bootstrap tabname)
    match td with
    | .ok td => Eff.update fun c => { c with struct_cache := assocSet c.struct_cache tabname td }
    | .error _ => pure ()

/-- SOURCE: connection.py:2751-2767, and 4876-4892 of the asynchronous twin. -/
def resolve_layouts (bootstrap : PyStr → Op ω χ TypeDesc) :
    List (FieldDesc × PyStr) → Op ω χ (List FieldDesc)
  | [] => pure []
  | (fd, tabname) :: rest => do
    if tabname ≠ [] then fetch_layout bootstrap tabname
    let c ← Eff.state
    let td := if tabname = [] then none else assocGet c.struct_cache tabname
    let fds ← resolve_layouts bootstrap rest
    pure ({ fd with type_desc := td } :: fds)

/-- SOURCE: connection.py:2671-2685, and 4828-4842 of the asynchronous twin, the rows of an
interface reply.  A reply without rows is looked at once more, and may be found malformed then. -/
def interface_rows (response : Bytes) (unicode_mode : Bool) : Except PyError (List ParamsRow) := do
  raise_for_rfc_error k.p.u (strip_gw_header response)
  let rows ← parse_gfi_params_rows k.p response unicode_mode
  if rows = [] then do
    let _ ← metadata_reply_succeeded response
    .ok rows
  else .ok rows

/-- What follows the rows of an interface reply. -/
def describe (bootstrap : PyStr → Op ω χ TypeDesc) (func_name : PyStr) (rows : List ParamsRow) :
    Op ω χ FunctionDesc := do
  let parameters ← resolve_layouts bootstrap (parse_parameters k rows)
  pure ⟨k.p.u.upper func_name, parameters⟩

/-! ## The asynchronous connection -/

/-- One request of `AsyncConnection`'s lookups: a single frame is read, header and all. -/
def async_round_trip : RoundTrip ω χ V := fun purpose name desc params => do
  let request_tlv ← Eff.lift (build_invoke_request k.p name desc params)
  let frame ← invoke_frame request_tlv
  exchange k purpose .frame frame

/-- SOURCE: connection.py:4912-4977. -/
def async_call_struct_bootstrap (tabname : PyStr) : Op ω χ TypeDesc :=
  struct_bootstrap k (async_round_trip k) false tabname

/-- SOURCE: connection.py:4775-4894. -/
def async_call_bootstrap (func_name : PyStr) : Op ω χ FunctionDesc := do
  let mode ← unicode_mode
  let response ← async_round_trip k .interface GET_FUNCTION_INTERFACE (bootstrap_desc mode)
    [(lit "FUNCNAME", k.p.codec.ofStr func_name)]
  let rows ← Eff.lift (interface_rows k response mode)
  describe k (async_call_struct_bootstrap k) func_name rows

/-- SOURCE: connection.py:5065-5073, from the cache or from the server. -/
def async_function_desc (func_name : PyStr) : Op ω χ FunctionDesc := do
  let cache_key ← metadata_cache_key k
  let hit ← cache_hit k cache_key func_name
  match hit with
  | some desc => pure desc
  | none => do
    let desc ← wrapTransportError (async_call_bootstrap k func_name)
    cache_fill k cache_key desc
    pure desc

/-- The last part of an ordinary call, which both connections share: the request goes
out and the reply comes in under the guard. -/
def guarded_invoke (func_name : PyStr) (request : Bytes) (desc : FunctionDesc)
    (dm_names : List (ℕ × PyStr)) : Op ω χ (Values V) := do
  let result ← fail_closed k func_name (do
    let tlv_response ← exchange k .invoke (.frames func_name) request
    Eff.lift (parse_invoke_response k.p tlv_response desc dm_names))
  pure (convert_date_time_fields k.p result desc)

/-- SOURCE: connection.py:5076-5098. -/
def async_invoke (func_name : PyStr) (desc : FunctionDesc) (params : Values V) :
    Op ω χ (Values V) := do
  let call_params := filter_call_params k.p desc params k.strict_params
  let request_tlv ← Eff.lift (build_invoke_request k.p func_name desc call_params)
  let request ← invoke_frame request_tlv
  guarded_invoke k func_name request desc (dm_table_ids k.p desc call_params)

/-- A method runs in `IN_CALL` and leaves that state at its end, however it ends. -/
def in_call (body : Op ω χ α) : Op ω χ α := do
  onSession (require_state k.p.u [.READY])
  onSession (mark_in_call k.p.u)
  Eff.andFinally body (onSession restore_ready)

theorem run_restore_ready (c : Conn ω χ) :
    Eff.run (onSession restore_ready) c =
      (.ok (), { c with session :=
        if c.session.state = .IN_CALL then { c.session with state := .READY } else c.session }) :=
  rfl

/-- In any state but `READY` a method is refused, and nothing changes. -/
theorem run_in_call_refused (body : Op ω χ α) {c : Conn ω χ} (h : c.session.state ≠ .READY) :
    ∃ e, Eff.run (in_call k body) c = (.error e, c) := by
  obtain ⟨e, he⟩ := run_require_ready_refused k.p.u h
  refine ⟨e, ?_⟩
  unfold in_call onSession
  rw [Eff.run_bind, Eff.run_zoom, he]

/-- From `READY` the body runs in `IN_CALL`. -/
theorem run_in_call (body : Op ω χ α) {c : Conn ω χ} (h : c.session.state = .READY) :
    Eff.run (in_call k body) c = Eff.run (Eff.andFinally body (onSession restore_ready))
      { c with session := { c.session with state := .IN_CALL } } := by
  unfold in_call
  rw [Eff.run_bind]
  unfold onSession
  rw [Eff.run_zoom, run_require_ready k.p.u h]
  simp only [Eff.run_bind, Eff.run_zoom, run_mark_in_call k.p.u h]

/-- SOURCE: connection.py:5022-5051 and connection.py:5053-5101. -/
def async_call (func_name : PyStr) (params : Values V) : Op ω χ (Values V) :=
  in_call k (do
    let desc ← async_function_desc k func_name
    async_invoke k func_name desc params)

/-- `RFCPING` has no parameters. -/
def rfcping_desc : FunctionDesc := ⟨lit "RFCPING", []⟩

/-- SOURCE: connection.py:2896-2904. -/
def rfcping_request_tlv : Except PyError Bytes :=
  build_invoke_request k.p (lit "RFCPING") rfcping_desc []

/-- SOURCE: connection.py:2949-2994.  The first record with the tag decides, where nothing
in front of it is malformed. -/
def rfcping_ok (resp : Bytes) : Except PyError Bool :=
  let w := Records.walk Tag.TERMINATOR (strip_gw_header resp)
  match w.records.find? (·.1 = Tag.RETURN_CODE) with
  | some (_, value) =>
    if value.length ≠ 4 then
      .error (err .value (lit "RFCPING return code TLV has length " ++ dec value.length ++
        lit ", expected 4"))
    else .ok (ofBE value = 0)
  | none =>
    match w.ending with
    | .headless tag left =>
      .error (err .value (lit "malformed RFCPING response: tag 0x" ++ hex4 tag ++
        lit " extended form but buffer too short for ext_len (" ++ dec left ++
        lit " bytes remain)"))
    | .overrun tag _ declared left =>
      .error (err .value (lit "malformed RFCPING response: tag 0x" ++ hex4 tag ++ lit " length " ++
        dec declared ++ lit " exceeds remaining payload (" ++ dec left ++ lit " bytes)"))
    | _ => .error (err .value (lit "RFCPING response missing return-code TLV 0x0420"))

/-- SOURCE: connection.py:5103-5124. -/
def async_ping : Op ω χ Bool :=
  in_call k (do
    let request_tlv ← Eff.lift (rfcping_request_tlv k)
    let frame ← invoke_frame request_tlv
    let resp ← fail_closed k (lit "RFCPING") (exchange k .ping .frame frame)
    Eff.lift (rfcping_ok resp))

/-! ## Transactional methods of the asynchronous connection -/

/-- What a parked payload is kept under. -/
inductive ParkKey where
  | tid (tid : PyStr)
  | unit (unit_id unit_type : PyStr)
  deriving DecidableEq, Repr

/-- SOURCE: connection.py:5134-5167.  Without a store nothing is kept. -/
def store_park (key : ParkKey) (payload : Bytes) : Op ω χ Unit :=
  match key with
  | .tid tid =>
    match k.tid_store with
    | some store => onStore (store.park tid payload)
    | none => pure ()
  | .unit unit_id unit_type =>
    match k.unit_store with
    | some store => onStore (store.park unit_id unit_type payload)
    | none => pure ()

/-- SOURCE: exceptions.py:204-228. -/
def RetryExhausted (key : ParkKey) (cause : PyError) : PyError :=
  let id_part := match key with
    | .tid tid => lit "tRFC " ++ tid
    | .unit unit_id unit_type => lit "bgRFC unit " ++ unit_id ++ lit " (" ++ unit_type ++ lit ")"
  err .retryExhausted (id_part ++ lit " exhausted: " ++ cause.text)

/-- SOURCE: connection.py:5169-5237, with `left` retries to go. -/
def submit_with_retry (key : ParkKey) (request_bytes : Bytes) (send : Op ω χ Unit) :
    ℕ → Op ω χ Unit
  | 0 => tryCatch send fun exc =>
    if exc.kind = .communication then do
      store_park k key request_bytes
      throw (RetryExhausted key exc)
    else throw exc
  | left + 1 => tryCatch send fun exc =>
    if exc.kind = .communication then do
      onWire k.seam.sleep
      submit_with_retry key request_bytes send left
    else throw exc

/-- SOURCE: connection.py:5269-5281, and the four twins of `_do_send`. -/
def do_send (request : Bytes) (func_name : PyStr) : Op ω χ Unit := do
  let response ← wrapTransportError (exchange k .submit (.frames func_name) request)
  Eff.lift (raise_for_rfc_error k.p.u (strip_gw_header response))

/-- Send a transactional request, again and again while the connection fails. -/
def async_submit (key : ParkKey) (build : Except PyError Bytes) (func_name : PyStr) :
    Op ω χ Unit :=
  in_call k (do
    let request_tlv ← Eff.lift build
    let request ← invoke_frame request_tlv
    submit_with_retry k key request (do_send k request func_name) k.max_retries)

/-- SOURCE: connection.py:5239-5292. -/
def async_call_transactional (func_name tid : PyStr) (queue : Option PyStr) : Op ω χ Unit :=
  async_submit k (.tid tid) (build_trfc_request k.p.u tid func_name queue) func_name

/-- SOURCE: connection.py:5347-5395. -/
def async_submit_unit (uid unit_type : PyStr) (queues : List PyStr)
    (buffered_calls : List Bytes) : Op ω χ Unit :=
  async_submit k (.unit uid unit_type)
    (build_bgrfc_request k.p.u uid unit_type queues buffered_calls) BGRFC_DEST_SHIP

/-- SOURCE: connection.py:5294-5320. -/
def async_confirm_tid (tid : PyStr) : Op ω χ Unit :=
  in_call k (do
    let request_tlv ← Eff.lift (build_trfc_confirm_request k.p.u tid)
    let request ← invoke_frame request_tlv
    do_send k request ARFC_DEST_CONFIRM)

/-- Send a parked payload as it is. -/
def async_resend (key : ParkKey) (payload : Bytes) (func_name : PyStr) : Op ω χ Unit :=
  in_call k (submit_with_retry k key payload (do_send k payload func_name) k.max_retries)

/-- SOURCE: connection.py:5463-5523. -/
def async_retry_parked (tid : PyStr) : Op ω χ Unit :=
  match k.tid_store with
  | none => throw (err .transactional (lit "retry_parked: no tid_store configured for " ++ tid))
  | some store => do
    let payload ← onStore (store.get_parked tid)
    match payload with
    | none => throw (err .transactional (lit "no parked call for " ++ tid))
    | some payload => do
      async_resend k (.tid tid) payload (lit "retry " ++ tid)
      onStore (store.delete_parked tid)

/-- SOURCE: connection.py:5525-5582. -/
def async_retry_parked_unit (unit_id unit_type : PyStr) : Op ω χ Unit :=
  match k.unit_store with
  | none =>
    throw (err .transactional (lit "retry_parked_unit: no unit_store configured for " ++ unit_id))
  | some store => do
    let payload ← onStore (store.get_parked unit_id unit_type)
    match payload with
    | none =>
      throw (err .transactional (lit "no parked unit for " ++ unit_id ++ lit " (" ++ unit_type ++
        lit ")"))
    | some payload => do
      async_resend k (.unit unit_id unit_type) payload (lit "retry unit " ++ unit_id)
      onStore (store.delete_parked unit_id unit_type)

end Parts

end SapRfc.Program
