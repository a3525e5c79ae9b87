import SapRfc.Analysis.Reassembly
import SapRfc.Analysis.TableForms
import SapRfc.Program.Parking
import SapRfc.Program.SyncConnection

/-!
# One answer over two transports

A call over a WebSocket and a call over the gateway share the descriptor, the writer of the
request and the reader of the reply.  What they hand to these differs: the gateway path applies
`strict_params` to the parameters, puts a header in front of the request, and keeps the numbers
of the tables it sends.  Hence the two answer alike to every reply when nothing of this matters.
-/

set_option autoImplicit false

namespace SapRfc.Analysis.Transports

open SapRfc.Library SapRfc.Program PairGroups TableForms Reassembly

/-! ## What the caller sees -/

section Outcomes

variable {α β σ : Type}

/-- The result, or the class of the exception. -/
def outcome : Except PyError α → Except ErrKind α
  | .ok a => .ok a
  | .error e => .error e.kind

/-- `OSError` and `EOFError` reach the caller as `CommunicationError`. -/
def communicated : Except ErrKind α → Except ErrKind α
  | .ok a => .ok a
  | .error kind => .error (if kind.isTransport then .communication else kind)

theorem communicated_communicated (r : Except ErrKind α) :
    communicated (communicated r) = communicated r := by
  cases r with
  | ok a => rfl
  | error kind => cases kind <;> rfl

theorem communicated_bind (r : Except ErrKind α) (f : α → Except ErrKind β) :
    communicated (r >>= f) = communicated r >>= fun a => communicated (f a) := by
  cases r <;> rfl

theorem outcome_bind_lift (r : Except PyError α) (f : α → Eff PyError σ β) (s : σ) :
    outcome (Eff.run (Eff.lift r >>= f) s).1 =
      outcome r >>= fun a => outcome (Eff.run (f a) s).1 := by
  cases r <;> rfl

theorem result_bind_pure (x : Eff PyError σ α) (f : α → β) (s : σ) :
    (Eff.run (x >>= fun a => pure (f a)) s).1 = (Eff.run x s).1.map f := by
  rw [Eff.run_bind]
  rcases Eff.run x s with ⟨_ | _, _⟩ <;> rfl

theorem kind_asCommunication (e : PyError) :
    (.error (asCommunication e).kind : Except ErrKind α) = communicated (.error e.kind) := by
  unfold asCommunication communicated
  by_cases h : e.kind.isTransport = true
  · rw [if_pos h]
    dsimp only
    rw [if_pos h]
    rfl
  · rw [if_neg h]
    dsimp only
    rw [if_neg h]

theorem outcome_wrapTransportError (x : Eff PyError σ α) (s : σ) :
    outcome (Eff.run (wrapTransportError x) s).1 = communicated (outcome (Eff.run x s).1) := by
  rw [run_wrapTransportError]
  rcases Eff.run x s with ⟨e | a, s'⟩
  · exact kind_asCommunication e
  · rfl

end Outcomes

/-! ## Messages -/

section Messages

variable {ω : Type} {seam : Seam ω}

variable (seam) in
/-- The transport hands out these messages, one after the other. -/
def Hands : ω → List Bytes → Prop
  | _, [] => True
  | w, message :: rest =>
    ∃ w', Eff.run seam.recv_message w = (.ok message, w') ∧ Hands w' rest

variable (seam) in
/-- The request goes out, and these messages come in. -/
def Answered (w : ω) (request : Bytes) (messages : List Bytes) : Prop :=
  ∃ w', Eff.run (seam.send_message request) w = (.ok (), w') ∧ Hands seam w' messages

/-- The messages make up one reply, which was read to its end. -/
structure Assembled (messages : List Bytes) (response : Bytes) : Prop where
  whole : tlv_stream_status response ≠ .truncated
  joined : ∀ func_name,
    Eff.run (join_response_frames readQueued func_name) messages = (.ok response, [])

/-- A reply in one message, without the header where there is one. -/
theorem assembled_message {message : Bytes}
    (h : tlv_stream_status (strip_gw_header message) ≠ .truncated) :
    Assembled [message] (strip_gw_header message) := by
  have hread : Eff.run readQueued [message] = (.ok message, []) := rfl
  refine ⟨h, fun func_name => ?_⟩
  rw [run_join_response_frames hread, join_loop_of_not_truncated h]
  rfl

/-- INTERNAL: a transport is read as a queue of what it hands out. -/
theorem answered_round_trip {w : ω} {request response : Bytes} {messages : List Bytes}
    (h : Answered seam w request messages) (hreply : Assembled messages response)
    (func_name : PyStr) :
    (Eff.run (seam.round_trip (.frames func_name) request) w).1 = .ok response := by
  obtain ⟨w', hsent, hhands⟩ := h
  have htracks : Eff.Tracks (fun queue w => Hands seam w queue) (fun _ => True)
      (join_response_frames readQueued func_name)
      (join_response_frames seam.recv_message func_name) := by
    refine tracks_join_response_frames fun queue w hqueue => ?_
    cases queue with
    | nil => exact .inr ⟨_, rfl, trivial⟩
    | cons message rest =>
      obtain ⟨w', hread, hrest⟩ := hqueue
      rw [hread]
      exact .inl ⟨rfl, hrest⟩
  unfold Seam.round_trip
  rw [Eff.run_bind_ok hsent]
  have hjoin := htracks messages w' hhands
  rw [hreply.joined func_name] at hjoin
  rcases hjoin with ⟨hresult, -⟩ | ⟨_, hraised, -⟩
  · exact hresult.symm
  · cases hraised

end Messages

/-! ## The invoke -/

section Invoke

variable {ω χ V : Type} (k : Client ω χ V)

/-- What the caller makes of a reply, with the numbers of the tables that were sent. -/
def reply_outcome (p : Platform V) (desc : FunctionDesc) (dm : List (ℕ × PyStr))
    (response : Bytes) : Except ErrKind (Values V) :=
  communicated (outcome ((parse_invoke_response p response desc dm).map fun result =>
    convert_date_time_fields p result desc))

theorem communicated_reply_outcome (p : Platform V) (desc : FunctionDesc) (dm : List (ℕ × PyStr))
    (response : Bytes) :
    communicated (reply_outcome p desc dm response) = reply_outcome p desc dm response :=
  communicated_communicated _

/-- INTERNAL: an exception that the guard lets through is none of the transport's. -/
theorem kind_of_not_givesUp {e : PyError} (h : ¬ GivesUp e) :
    (asCommunication e).kind = e.kind := by
  unfold asCommunication
  by_cases htransport : e.kind.isTransport = true
  · refine absurd ⟨?_, ErrKind.isException_of_isTransport htransport⟩ h
    revert htransport
    cases e.kind <;> first | exact fun _ => rfl | exact nofun
  · rw [if_neg htransport]

/-- INTERNAL: the guard lets the result through, and the class of an exception but for the
transport's. -/
theorem result_fail_closed {α : Type} (func_name : PyStr) (body : Op ω χ α) (c : Conn ω χ) :
    (∀ a, (Eff.run body c).1 = .ok a →
      (Eff.run (fail_closed k func_name body) c).1 = .ok a) ∧
    ∀ e, (Eff.run body c).1 = .error e →
      ∃ e', (Eff.run (fail_closed k func_name body) c).1 = .error e' ∧
        e'.kind = (asCommunication e).kind := by
  obtain ⟨a, ha, hrun⟩ | ⟨e, he, hnot, hrun⟩ | ⟨e, reason, he, -, hrun⟩ :=
    run_fail_closed k func_name body c
  · rw [hrun]
    refine ⟨fun _ h => h, fun e he => ?_⟩
    rw [ha] at he
    cases he
  · rw [hrun]
    refine ⟨fun _ h => h, fun e' he' => ⟨e', he', ?_⟩⟩
    obtain rfl := Except.error.inj (he.symm.trans he')
    exact (kind_of_not_givesUp hnot).symm
  · rw [hrun]
    refine ⟨fun a ha => ?_, fun e' he' => ⟨_, rfl, ?_⟩⟩
    · rw [he] at ha
      cases ha
    · obtain rfl := Except.error.inj (he.symm.trans he')
      rfl

/-- The guarded invoke answers with the reply. -/
theorem outcome_guarded_invoke {c : Conn ω χ} {func_name : PyStr} {request response : Bytes}
    (h : (Eff.run (k.seam.round_trip (.frames func_name) request) c.wire).1 = .ok response)
    (desc : FunctionDesc) (dm : List (ℕ × PyStr)) :
    outcome (Eff.run (guarded_invoke k func_name request desc dm) c).1 =
      reply_outcome k.p desc dm response := by
  have hbody : (Eff.run (do
      let tlv_response ← exchange k .invoke (.frames func_name) request
      Eff.lift (parse_invoke_response k.p tlv_response desc dm)) c).1 =
      parse_invoke_response k.p response desc dm := by
    rw [Eff.run_bind, run_exchange, h]
    rfl
  obtain ⟨hresult, hraise⟩ := result_fail_closed k func_name (do
    let tlv_response ← exchange k .invoke (.frames func_name) request
    Eff.lift (parse_invoke_response k.p tlv_response desc dm)) c
  rw [hbody] at hresult hraise
  unfold guarded_invoke reply_outcome
  rw [result_bind_pure]
  cases hparse : parse_invoke_response k.p response desc dm with
  | ok result =>
    rw [hresult result hparse]
    rfl
  | error e =>
    obtain ⟨e', he', hkind⟩ := hraise e hparse
    rw [he']
    show (.error e'.kind : Except ErrKind (Values V)) = communicated (.error e.kind)
    rw [hkind, kind_asCommunication]

/-- A call holds the session from `READY` on. -/
def calling (c : Conn ω χ) : Conn ω χ := { c with session := { c.session with state := .IN_CALL } }

/-- INTERNAL: the brackets of a call do not change its result. -/
theorem result_restored {α : Type} (body : Op ω χ α) (c : Conn ω χ) :
    (Eff.run (Eff.andFinally body (onSession restore_ready)) c).1 = (Eff.run body c).1 := by
  rw [Eff.run_andFinally]
  rcases Eff.run body c with ⟨r, c'⟩
  dsimp only
  rw [run_restore_ready]

theorem result_in_call {α : Type} (body : Op ω χ α) {c : Conn ω χ}
    (h : c.session.state = .READY) :
    (Eff.run (in_call k body) c).1 = (Eff.run body (calling c)).1 := by
  rw [run_in_call k body h, result_restored]
  rfl

/-- The class of the exception of a request that cannot be written. -/
def written (request : Except PyError Bytes) : Except ErrKind Unit :=
  outcome (request.map fun _ => ())

end Invoke

/-! ## Over the gateway -/

section Gateway

variable {ω χ V : Type} (k : Client ω χ V)

/-- The parameters that the gateway path sends. -/
def call_params (desc : FunctionDesc) (params : Values V) : Values V :=
  filter_call_params k.p desc params k.strict_params

/-- The request of the gateway path, with its header. -/
def gateway_request (handle : Bytes) (func_name : PyStr) (desc : FunctionDesc)
    (params : Values V) : Except PyError Bytes := do
  let request_tlv ← build_invoke_request k.p func_name desc (call_params k desc params)
  build_invoke_frame handle request_tlv

/-- Whether the request can be written does not depend on the handle. -/
theorem written_gateway_request (handle handle' : Bytes) (func_name : PyStr) (desc : FunctionDesc)
    (params : Values V) :
    written (gateway_request k handle func_name desc params) =
      written (gateway_request k handle' func_name desc params) := by
  unfold gateway_request
  cases build_invoke_request k.p func_name desc (call_params k desc params) with
  | error e => rfl
  | ok tlv =>
    rw [Eff.except_ok_bind, Eff.except_ok_bind]
    unfold build_invoke_frame
    split <;> rfl

/-- The descriptor, by either connection. -/
def descriptor (delegated : Bool) (func_name : PyStr) : Op ω χ FunctionDesc :=
  if delegated then async_function_desc k func_name else get_function_desc k func_name

/-- The asynchronous core does not wrap what the writer of the request raises. -/
def told {α : Type} (delegated : Bool) (r : Except ErrKind α) : Except ErrKind α :=
  if delegated then r else communicated r

/-- A call over the gateway finds the descriptor, and its request is answered with the frames. -/
structure OverGateway (delegated : Bool) (func_name : PyStr) (desc : FunctionDesc)
    (params : Values V) (frames : List Bytes) (c : Conn ω χ) : Prop where
  ready : c.session.state = .READY
  answered : ∃ c', Eff.run (descriptor k delegated func_name) (calling c) = (.ok desc, c') ∧
    c'.is_ws = false ∧ ∀ request,
      gateway_request k c'.session.sendHandle func_name desc params = .ok request →
        Answered k.seam c'.wire (if delegated then request else wire_frame k request) frames

variable {k}

/-- INTERNAL: the request is written and framed, and its answer is the result. -/
theorem outcome_framed {func_name : PyStr} {desc : FunctionDesc} {params : Values V}
    {c : Conn ω χ} {frames : List Bytes} {response : Bytes} (pack : Bytes → Bytes)
    (hanswered : ∀ request,
      gateway_request k c.session.sendHandle func_name desc params = .ok request →
        Answered k.seam c.wire (pack request) frames)
    (hframes : Assembled frames response) (dm : List (ℕ × PyStr)) :
    outcome (Eff.run (do
      let request_tlv ← Eff.lift (build_invoke_request k.p
          func_name desc (call_params k desc params))
      let request ← invoke_frame request_tlv
      guarded_invoke k func_name (pack request) desc dm) c).1 =
        written (gateway_request k c.session.sendHandle func_name desc params) >>= fun _ =>
          reply_outcome k.p desc dm response := by
  unfold gateway_request at hanswered ⊢
  cases hbuild : build_invoke_request k.p func_name desc (call_params k desc params) with
  | error e => rfl
  | ok tlv =>
    rw [hbuild, Eff.except_ok_bind] at hanswered
    rw [Eff.except_ok_bind, Eff.run_bind_ok (Eff.run_lift _ _), Eff.run_bind]
    have hframe : Eff.run (invoke_frame tlv) c =
        (build_invoke_frame c.session.sendHandle tlv, c) := rfl
    rw [hframe]
    cases hrequest : build_invoke_frame c.session.sendHandle tlv with
    | error e => rfl
    | ok request =>
      exact outcome_guarded_invoke k (answered_round_trip (hanswered request hrequest) hframes _)
        desc dm

/-- Over the gateway a call answers with the reply, where its request can be written. -/
theorem outcome_gateway {delegated : Bool} {func_name : PyStr} {desc : FunctionDesc}
    {params : Values V} {frames : List Bytes} {response : Bytes} {c : Conn ω χ}
    (h : OverGateway k delegated func_name desc params frames c)
    (hframes : Assembled frames response) (handle : Bytes) :
    outcome (Eff.run (call k delegated func_name params) c).1 =
      told delegated (written (gateway_request k handle func_name desc params)) >>= fun _ =>
        reply_outcome k.p desc (dm_table_ids k.p desc (call_params k desc params)) response := by
  obtain ⟨hready, c', hfound, hgateway, hanswered⟩ := h
  rw [written_gateway_request k handle c'.session.sendHandle]
  cases delegated with
  | true =>
    have hfound : Eff.run (async_function_desc k func_name) (calling c) = (.ok desc, c') := hfound
    show outcome (Eff.run (in_call k _) c).1 = _
    rw [result_in_call k _ hready, Eff.run_bind_ok hfound]
    exact outcome_framed id hanswered hframes _
  | false =>
    have hfound : Eff.run (get_function_desc k func_name) (calling c) = (.ok desc, c') := hfound
    have hpending : ¬ (c.is_ws = true ∧ c.session.state = .WS_PENDING) := by
      rw [hready]
      exact fun hboth => nomatch hboth.2
    have hclassic : Eff.run (invoke_described k func_name desc params) c' =
        Eff.run (classic_invoke k func_name desc params) c' := by
      show Eff.run (if c'.is_ws = true then _ else _) c' = _
      rw [hgateway, if_neg Bool.false_ne_true]
    show outcome (Eff.run (if c.is_ws = true ∧ c.session.state = .WS_PENDING then _ else _) c).1 = _
    rw [if_neg hpending]
    show outcome (Eff.run (in_call k _) c).1 = _
    rw [result_in_call k _ hready, outcome_wrapTransportError, Eff.run_bind_ok hfound, hclassic]
    have hinvoke := outcome_framed (wire_frame k) hanswered hframes
      (dm_table_ids k.p desc (call_params k desc params))
    show communicated (outcome (Eff.run (classic_invoke k func_name desc params) c').1) = _
    unfold classic_invoke
    refine (congrArg communicated hinvoke).trans ?_
    rw [communicated_bind, communicated_reply_outcome]
    rfl

end Gateway

/-! ## Over a WebSocket -/

section WebSocket

variable {ω χ V : Type} (k : Client ω χ V)

/-- A call over a WebSocket finds the descriptor, and its request, made for `sent_name`, is
answered with the message: a later call, a first call that asks for the descriptor, and a first
call of a function whose descriptor is built in. -/
inductive OverWebSocket (func_name : PyStr) (desc : FunctionDesc) (params : Values V)
    (message : Bytes) : PyStr → Conn ω χ → Prop
  | later {c c' : Conn ω χ} (ready : c.session.state = .READY)
      (found : Eff.run (get_function_desc k func_name) (calling c) = (.ok desc, c'))
      (websocket : c'.is_ws = true)
      (answered : ∀ request, build_invoke_request k.p func_name desc params = .ok request →
        Answered k.seam c'.wire request [message]) :
      OverWebSocket func_name desc params message func_name c
  | first {c c' : Conn ω χ} (websocket : c.is_ws = true)
      (pending : c.session.state = .WS_PENDING)
      (unknown : assocGet WRFC_BUILTIN_DESCS (k.p.u.upper func_name) = none)
      (found : Eff.run (get_function_desc k func_name) c = (.ok desc, c'))
      (stays : c'.is_ws = true) (ready : c'.session.state = .READY)
      (answered : ∀ request, build_invoke_request k.p func_name desc params = .ok request →
        Answered k.seam c'.wire request [message]) :
      OverWebSocket func_name desc params message func_name c
  | builtin {c c' c'' : Conn ω χ} {logon_resp : Bytes} {attrs : ConnectionAttributes}
      (websocket : c.is_ws = true) (pending : c.session.state = .WS_PENDING)
      (known : assocGet WRFC_BUILTIN_DESCS (k.p.u.upper func_name) = some desc)
      (logon : Eff.run (ws_logon_trip k) c = (.ok logon_resp, c'))
      (parsed : ws_parse_logon_response k.p.u logon_resp = .ok attrs)
      (accepted : ws_logon_failure k.p.u logon_resp = .ok none)
      (stays : Eff.run (onWire k.seam.drain_queued_close) c' = (.ok none, c''))
      (answered : ∀ request,
        build_invoke_request k.p (k.p.u.upper func_name) desc params = .ok request →
          Answered k.seam c''.wire request [message]) :
      OverWebSocket func_name desc params message (k.p.u.upper func_name) c

variable {k}

/-- INTERNAL: the request goes out as it is, and its answer is the result. -/
theorem outcome_ws_invoke {func_name : PyStr} {desc : FunctionDesc} {params : Values V}
    {c : Conn ω χ} {message response : Bytes}
    (hanswered : ∀ request, build_invoke_request k.p func_name desc params = .ok request →
      Answered k.seam c.wire request [message])
    (hmessage : ∀ request, build_invoke_request k.p func_name desc params = .ok request →
      Assembled [message] response) :
    outcome (Eff.run (ws_invoke k func_name desc params) c).1 =
      written (build_invoke_request k.p func_name desc params) >>= fun _ =>
        reply_outcome k.p desc [] response := by
  unfold ws_invoke
  cases hbuild : build_invoke_request k.p func_name desc params with
  | error e => rfl
  | ok request =>
    rw [Eff.run_bind_ok (Eff.run_lift _ _)]
    exact outcome_guarded_invoke k
      (answered_round_trip (hanswered request hbuild) (hmessage request hbuild) _) desc []

/-- INTERNAL: the same behind the logon of a built-in function. -/
theorem outcome_ws_direct_invoke {func_name : PyStr} {desc : FunctionDesc} {params : Values V}
    {c : Conn ω χ} {message response : Bytes} (attrs : ConnectionAttributes)
    (hanswered : ∀ request, build_invoke_request k.p func_name desc params = .ok request →
      Answered k.seam c.wire request [message])
    (hmessage : ∀ request, build_invoke_request k.p func_name desc params = .ok request →
      Assembled [message] response) :
    communicated (outcome (Eff.run (ws_direct_invoke k func_name desc params attrs) c).1) =
      communicated (written (build_invoke_request k.p func_name desc params)) >>= fun _ =>
        reply_outcome k.p desc [] response := by
  unfold ws_direct_invoke
  cases hbuild : build_invoke_request k.p func_name desc params with
  | error e => rfl
  | ok request =>
    have hread := answered_round_trip (hanswered request hbuild) (hmessage request hbuild) func_name
    have htrip : Eff.run (exchange k .direct (.frames func_name) request) c =
        (.ok response, (Eff.run (exchange k .direct (.frames func_name) request) c).2) := by
      rw [run_exchange, hread]
    rw [Eff.run_bind_ok (Eff.run_lift _ _), Eff.run_bind, Eff.run_tryCatch, Eff.run_bind_ok htrip]
    show communicated (outcome (Eff.run (Eff.lift _ >>= _) _).1) = _
    rw [outcome_bind_lift]
    unfold reply_outcome
    cases parse_invoke_response k.p response desc [] <;> rfl

/-- INTERNAL: what is noted of a logon leaves the transport alone. -/
theorem run_logon_noted {α : Type} (attrs : ConnectionAttributes) (desc : FunctionDesc)
    (x : Op ω χ α) (c : Conn ω χ) :
    ∃ c', c'.wire = c.wire ∧ Eff.run (do
      complete_logon attrs
      let ws_key ← metadata_cache_key k
      cache_fill k ws_key desc
      x) c = Eff.run x c' := by
  have hcomplete : Eff.run (complete_logon attrs) c = (.ok (), { c with session := { c.session with
      codepage := some (lit "4103"), attributes := some attrs, state := .READY } }) :=
    rfl
  rw [Eff.run_bind_ok hcomplete]
  have hkey : ∃ key c', Eff.run (metadata_cache_key k) { c with session := { c.session with
      codepage := some (lit "4103"), attributes := some attrs, state := .READY } } =
      (.ok (some key), c') ∧ c'.wire = c.wire := by
    unfold metadata_cache_key
    rw [Eff.run_bind_ok (Eff.run_state _)]
    dsimp only
    by_cases hid : attrs.sys_id = []
    · rw [if_neg (not_not.mpr hid)]
      cases c.anon_cache_key <;> exact ⟨_, _, rfl, rfl⟩
    · rw [if_pos hid]
      exact ⟨_, _, rfl, rfl⟩
  obtain ⟨key, c', hrun, hwire⟩ := hkey
  rw [Eff.run_bind_ok hrun]
  exact ⟨{ c' with cache := assocSet c'.cache (key, k.p.u.upper desc.name) desc }, hwire, rfl⟩

/-- Over a WebSocket a call answers with the reply, where its request can be written. -/
theorem outcome_websocket {func_name sent_name : PyStr} {desc : FunctionDesc}
    {params : Values V} {message response : Bytes} {c : Conn ω χ}
    (h : OverWebSocket k func_name desc params message sent_name c)
    (hmessage : ∀ request, build_invoke_request k.p sent_name desc params = .ok request →
      Assembled [message] response) :
    outcome (Eff.run (call k false func_name params) c).1 =
      communicated (written (build_invoke_request k.p sent_name desc params)) >>= fun _ =>
        reply_outcome k.p desc [] response := by
  have hdescribed : ∀ c' : Conn ω χ, c'.is_ws = true →
      Eff.run (invoke_described k func_name desc params) c' =
        Eff.run (ws_invoke k func_name desc params) c' := by
    intro c' hws
    show Eff.run (if c'.is_ws = true then _ else _) c' = _
    rw [hws, if_pos rfl]
  show outcome (Eff.run (if c.is_ws = true ∧ c.session.state = .WS_PENDING then _ else _) c).1 = _
  cases h with
  | @later _ c' ready found websocket answered =>
    have hpending : ¬ (c.is_ws = true ∧ c.session.state = .WS_PENDING) := by
      rw [ready]
      exact fun hboth => nomatch hboth.2
    rw [if_neg hpending]
    show outcome (Eff.run (in_call k _) c).1 = _
    rw [result_in_call k _ ready, outcome_wrapTransportError, Eff.run_bind_ok found,
      hdescribed c' websocket, outcome_ws_invoke answered hmessage, communicated_bind,
      communicated_reply_outcome]
  | @first _ c' websocket pending unknown found stays ready answered =>
    have hmark : Eff.run (onSession (mark_in_call k.p.u)) c' = (.ok (), calling c') := by
      unfold onSession
      rw [Eff.run_zoom, run_mark_in_call k.p.u ready]
      rfl
    rw [if_pos ⟨websocket, pending⟩]
    unfold pending_call
    rw [result_restored, outcome_wrapTransportError, unknown]
    dsimp only
    rw [Eff.run_bind_ok found, Eff.run_bind_ok hmark, hdescribed (calling c') stays]
    have hinvoke : outcome (Eff.run (ws_invoke k func_name desc params) (calling c')).1 = _ :=
      outcome_ws_invoke answered hmessage
    rw [hinvoke, communicated_bind, communicated_reply_outcome]
  | @builtin _ c' c'' logon_resp attrs websocket pending known logon parsed accepted stays
    answered =>
    have hlogon : Eff.run (wrapTransportError (ws_logon_trip k)) c = (.ok logon_resp, c') := by
      rw [run_wrapTransportError, logon]
    obtain ⟨c₃, hwire, hnoted⟩ := run_logon_noted attrs desc
      (ws_direct_invoke k (k.p.u.upper func_name) desc params attrs) c''
    rw [← hwire] at answered
    rw [if_pos ⟨websocket, pending⟩]
    unfold pending_call
    rw [result_restored, outcome_wrapTransportError, known]
    dsimp only
    unfold ws_direct_logon_call
    rw [Eff.run_bind_ok hlogon, parsed, Eff.run_bind_ok (Eff.run_lift _ _), accepted,
      Eff.run_bind_ok (Eff.run_lift _ _)]
    dsimp only [Option.isSome_none]
    rw [if_neg Bool.false_ne_true, Eff.run_bind_ok stays]
    dsimp only [Option.isSome_none]
    rw [if_neg Bool.false_ne_true, hnoted]
    exact outcome_ws_direct_invoke attrs answered hmessage

end WebSocket

/-! ## Replies that tell -/

section Replies

variable {V : Type} {p : Platform V}

/-- INTERNAL: a success without parameters is an empty dict. -/
theorem reply_outcome_quiet {rs : List (ℕ × Bytes)}
    (hfits : ∀ r ∈ rs, Records.Fits Tag.TERMINATOR r)
    (haccepted : Replies.Accepted p.u rs) (hother : ∀ r ∈ rs, r.1 ∉ pairTags)
    (desc : FunctionDesc) (dm : List (ℕ × PyStr)) :
    reply_outcome p desc dm (Records.stream Tag.TERMINATOR rs) = .ok [] := by
  have hnamed : extract_named_values p.codec (Records.stream Tag.TERMINATOR rs) dm =
      .ok ⟨[], [], []⟩ := extract_named_values_of_reaches hfits (reaches_init.other hother)
  unfold reply_outcome
  rw [Replies.parse_of_accepted hfits haccepted, Replies.decode_result_eq, hnamed]
  rfl

theorem accepted_replyHead (u : Unicode) : Replies.Accepted u replyHead :=
  Replies.accepted_result (List.forall_mem_nil _)

theorem reply_outcome_replyHead (desc : FunctionDesc) (dm : List (ℕ × PyStr)) :
    reply_outcome p desc dm (Records.stream Tag.TERMINATOR replyHead) = .ok [] :=
  reply_outcome_quiet (by decide) (accepted_replyHead p.u) (by decide) desc dm

/-- The records of rows that come under the first number, compressed to nothing. -/
def garbledRows : List (ℕ × Bytes) :=
  [(Tag.TABLE_DELTA, toBE 4 10 ++ toBE 4 1 ++ toBE 4 1), (Tag.TABLE_CONTENT_LZ, [])]

theorem fits_garbled : ∀ r ∈ replyHead ++ garbledRows, Records.Fits Tag.TERMINATOR r := by decide

theorem accepted_garbled (u : Unicode) : Replies.Accepted u (replyHead ++ garbledRows) :=
  Replies.accepted_result (by decide)

/-- INTERNAL: without the numbers of the tables the rows are passed over. -/
theorem garbled_passed_over (desc : FunctionDesc) :
    reply_outcome p desc [] (Records.stream Tag.TERMINATOR (replyHead ++ garbledRows)) =
      .ok [] := by
  unfold reply_outcome
  rw [Replies.parse_of_accepted fits_garbled (accepted_garbled p.u), Replies.decode_result_eq,
    extract_named_values_stream fits_garbled]
  rfl

end Replies

section Garbled

variable {L : Type} {u : Unicode} {s : Scalars L} {typeName : PyError → PyStr}

/-- INTERNAL: with them they are decompressed. -/
theorem garbled_refused {dm : List (ℕ × PyStr)} {name : PyStr} (h : assocGet dm 1 = some name)
    (desc : FunctionDesc) :
    reply_outcome (s.platform u typeName) desc dm
      (Records.stream Tag.TERMINATOR (replyHead ++ garbledRows)) = .error .value := by
  unfold reply_outcome
  rw [Replies.parse_of_accepted fits_garbled (accepted_garbled u), Replies.decode_result_eq,
    extract_named_values_stream fits_garbled]
  have hid : ofBE (slice (toBE 4 10 ++ toBE 4 1 ++ toBE 4 1) 4 8) = 1 := by decide
  have hdelta : pair_record (s.codec u) dm PairState.init (Tag.TABLE_DELTA,
      toBE 4 10 ++ toBE 4 1 ++ toBE 4 1) = .ok (opened PairState.init [] name) := by
    rw [pair_record_delta, hid, h]
    rfl
  have hrun : (replyHead ++ garbledRows).foldlM (pair_record (s.codec u) dm) PairState.init =
      .ok { opened PairState.init [] name with table_lz := [[]] } := by
    rw [List.foldlM_append, foldlM_other (by decide), Eff.except_ok_bind]
    unfold garbledRows
    rw [List.foldlM_cons, hdelta]
    rfl
  have hcodec : (s.platform u typeName).codec = s.codec u := rfl
  rw [hcodec, hrun]
  rfl

/-- INTERNAL: the first table that is sent has the number 1. -/
theorem assocGet_dm_table_ids {V : Type} {p : Platform V} {desc : FunctionDesc} {params : Values V}
    (h : dm_table_ids p desc params ≠ []) :
    ∃ name, assocGet (dm_table_ids p desc params) 1 = some name := by
  unfold dm_table_ids at h ⊢
  dsimp only at h ⊢
  cases hsent : desc.parameters.filter fun field => field.direction ≠ RFC_EXPORT &&
      field.rfctype = RFCTYPE_TABLE && ((assocGet (upper_keys p.u params)
        (p.u.upper field.name)).map p.codec.truth).getD false with
  | nil =>
    rw [hsent] at h
    exact absurd rfl h
  | cons field rest => exact ⟨field.name, rfl⟩

end Garbled

/-! ## The same answer -/

section Answers

/-- A success behind a record with which it begins as a header does. -/
def headerLike (n : ℕ) : List (ℕ × Bytes) := (0x0600, List.replicate n 0) :: replyHead

/-- INTERNAL: a reply in one frame. -/
theorem assembled_frame {response : Bytes} (h : tlv_stream_status response ≠ .truncated) :
    Assembled [gwHeader 1 ++ response] response := by
  have hstrip : strip_gw_header (gwHeader 1 ++ response) = response :=
    strip_gw_header_frame ⟨by decide, by decide⟩ response
  rw [← hstrip] at h
  have hmessage := assembled_message h
  rw [hstrip] at hmessage
  exact hmessage

theorem whole_stream {rs : List (ℕ × Bytes)} (hfits : ∀ r ∈ rs, Records.Fits Tag.TERMINATOR r) :
    tlv_stream_status (Records.stream Tag.TERMINATOR rs) ≠ .truncated := by
  have hwalk := Records.walk_stream (by decide) hfits []
  rw [List.append_nil] at hwalk
  rw [tlv_stream_status_complete.mpr (by rw [hwalk])]
  nofun

variable {L ω χ ω' χ' : Type} {u : Unicode} {s : Scalars L} {typeName : PyError → PyStr}

/-- Neither request can be written, for the same kind of error. -/
def RefusedAlike {V : Type} (k : Client ω χ V) (delegated : Bool) (func_name sent_name : PyStr)
    (desc : FunctionDesc) (params : Values V) : Prop :=
  ∃ kind, told delegated (written (gateway_request k [] func_name desc params)) = .error kind ∧
    communicated (written (build_invoke_request k.p sent_name desc params)) = .error kind

/-- Both requests can be written, all parameters are declared, and no table is sent with rows. -/
structure SentAlike {V : Type} (k : Client ω χ V) (func_name sent_name : PyStr)
    (desc : FunctionDesc) (params : Values V) : Prop where
  framed : ∃ request, gateway_request k [] func_name desc params = .ok request
  plain : ∃ request, build_invoke_request k.p sent_name desc params = .ok request
  declared : unknown_parameters k.p desc params = []
  no_rows : dm_table_ids k.p desc params = []

/-- INTERNAL: a request is written only when all parameters are declared. -/
theorem declared_of_written {V : Type} {p : Platform V} {func_name : PyStr} {desc : FunctionDesc}
    {params : Values V} {request : Bytes}
    (h : build_invoke_request p func_name desc params = .ok request) :
    unknown_parameters p desc params = [] := by
  unfold build_invoke_request at h
  obtain ⟨head, -, h⟩ := Eff.except_bind_eq_ok.mp h
  dsimp only at h
  by_contra hne
  rw [if_pos hne] at h
  cases h

theorem call_params_of_declared {V : Type} (k : Client ω χ V) {desc : FunctionDesc}
    {params : Values V} (h : unknown_parameters k.p desc params = []) :
    call_params k desc params = params := by
  unfold call_params filter_call_params
  rw [if_pos (.inl h)]

/-- The reply begins as a gateway header does. -/
def BeginsAsHeader (response : Bytes) : Prop := response.head? = some 0x06

instance (response : Bytes) : Decidable (BeginsAsHeader response) :=
  inferInstanceAs (Decidable (_ = _))

/-- INTERNAL: any other reply arrives as it is. -/
theorem assembled_plain {response : Bytes} (hplain : ¬ BeginsAsHeader response)
    (hwhole : tlv_stream_status response ≠ .truncated) : Assembled [response] response := by
  have hstrip : strip_gw_header response = response := by
    cases response with
    | nil => rfl
    | cons b rest =>
      unfold strip_gw_header
      exact if_neg fun hb => hplain (congrArg some hb)
  rw [← hstrip] at hwhole
  have hmessage := assembled_message hwhole
  rw [hstrip] at hmessage
  exact hmessage

/-- INTERNAL: a refusal that is told was one. -/
theorem exists_of_told {delegated : Bool} {request : Except PyError Bytes} {a : Unit}
    (h : told delegated (written request) = .ok a) : ∃ bytes, request = .ok bytes := by
  cases request with
  | ok bytes => exact ⟨bytes, rfl⟩
  | error e => cases delegated <;> cases h

/-- INTERNAL: two programs that go on with a value are refused alike, or go on both. -/
theorem alike_of_bind_eq {α β : Type} {A B : Except ErrKind α} {a b : β}
    (h : (A >>= fun _ => (.ok a : Except ErrKind β)) = B >>= fun _ => .ok b) :
    (∃ kind, A = .error kind ∧ B = .error kind) ∨ (∃ x, A = .ok x) ∧ ∃ x, B = .ok x := by
  cases A with
  | error kind =>
    cases B with
    | error kind' =>
      obtain rfl : kind = kind' := Except.error.inj h
      exact .inl ⟨kind, rfl, rfl⟩
    | ok y => cases h
  | ok x =>
    cases B with
    | error kind => cases h
    | ok y => exact .inr ⟨⟨x, rfl⟩, y, rfl⟩

theorem fits_headerLike {n : ℕ} (h : n < 256 ^ 4) :
    ∀ r ∈ headerLike n, Records.Fits Tag.TERMINATOR r := by
  have hlength : (List.replicate n (0 : UInt8)).length < 256 ^ 4 := by
    rw [List.length_replicate]
    exact h
  unfold headerLike
  rw [List.forall_mem_cons]
  exact ⟨⟨show 0x0600 < 256 ^ 2 by decide, show 0x0600 ≠ Tag.TERMINATOR by decide, hlength⟩,
    by decide⟩

theorem other_headerLike (n : ℕ) : ∀ r ∈ headerLike n, r.1 ∉ pairTags := by
  unfold headerLike
  rw [List.forall_mem_cons]
  exact ⟨show 0x0600 ∉ pairTags by decide, by decide⟩

theorem accepted_headerLike (u : Unicode) (n : ℕ) : Replies.Accepted u (headerLike n) := by
  have htag : ∀ r ∈ [((0x0600 : ℕ), List.replicate n (0 : UInt8))], r.1 = 0x0600 := by
    intro r hr
    rw [List.mem_singleton.mp hr]
  have hhead : Replies.Accepted u ([] ++ [] ++ replyHead) := accepted_replyHead u
  show Replies.Accepted u ([] ++ [(0x0600, List.replicate n 0)] ++ replyHead)
  refine Replies.accepted_congr (List.forall_mem_nil _) (fun r hr => ?_) (fun r hr => ?_)
    (List.cons_ne_nil _ _)
    hhead
  · rw [htag r hr]
    decide
  · rw [htag r hr]
    decide

variable {V : Type}

/-- The two connections answer a call alike, whatever the reply of the given kind. -/
def SameAnswers (k : Client ω χ V) (k' : Client ω' χ' V) (delegated : Bool) (func_name : PyStr)
    (params : Values V) (gateway : List Bytes → Conn ω χ) (websocket : Bytes → Conn ω' χ')
    (R : Bytes → Prop) : Prop :=
  ∀ frames response, R response → Assembled frames response →
    outcome (Eff.run (call k delegated func_name params) (gateway frames)).1 =
      outcome (Eff.run (call k' false func_name params) (websocket response)).1

/-- The answer over the gateway to a reply. -/
def gatewayOutcome (k : Client ω χ V) (delegated : Bool) (func_name : PyStr) (desc : FunctionDesc)
    (params : Values V) (response : Bytes) : Except ErrKind (Values V) :=
  told delegated (written (gateway_request k [] func_name desc params)) >>= fun _ =>
    reply_outcome k.p desc (dm_table_ids k.p desc (call_params k desc params)) response

/-- The answer over a WebSocket to a reply. -/
def websocketOutcome (k : Client ω χ V) (sent_name : PyStr) (desc : FunctionDesc)
    (params : Values V) (response : Bytes) : Except ErrKind (Values V) :=
  communicated (written (build_invoke_request k.p sent_name desc params)) >>= fun _ =>
    reply_outcome k.p desc [] response

section Same

variable {k : Client ω χ (PyVal L)} {k' : Client ω' χ' (PyVal L)} {delegated : Bool}
  {func_name sent_name : PyStr} {desc : FunctionDesc} {params : Values (PyVal L)}
  {gateway : List Bytes → Conn ω χ} {websocket : Bytes → Conn ω' χ'}
  (hp' : k'.p = k.p)
  (hgateway : ∀ frames, OverGateway k delegated func_name desc params frames (gateway frames))
  (hwebsocket : ∀ message,
    OverWebSocket k' func_name desc params message sent_name (websocket message))

include hp' hwebsocket in
/-- INTERNAL: the message need be one only where a request is written. -/
theorem outcome_eq_websocket {message response : Bytes}
    (h : ∀ request, build_invoke_request k.p sent_name desc params = .ok request →
      Assembled [message] response) :
    outcome (Eff.run (call k' false func_name params) (websocket message)).1 =
      websocketOutcome k sent_name desc params response := by
  unfold websocketOutcome
  rw [← hp'] at h ⊢
  exact outcome_websocket (hwebsocket message) h

include hp' hgateway hwebsocket in
/-- Requests that are refused alike are answered alike, whatever the reply. -/
theorem sameAnswers_of_refused (h : RefusedAlike k delegated func_name sent_name desc params)
    (R : Bytes → Prop) : SameAnswers k k' delegated func_name params gateway websocket R := by
  obtain ⟨kind, hA, hB⟩ := h
  rintro frames response - hframes
  have hnever : ∀ request, build_invoke_request k.p sent_name desc params = .ok request →
      Assembled [response] [] := by
    intro request hbuild
    rw [hbuild] at hB
    cases hB
  rw [outcome_gateway (hgateway frames) hframes [],
    outcome_eq_websocket hp' hwebsocket hnever, websocketOutcome, hA, hB]
  rfl

include hp' hgateway hwebsocket in
/-- Requests that are sent alike are answered alike where no header is cut off. -/
theorem sameAnswers_of_sent (h : SentAlike k func_name sent_name desc params) :
    SameAnswers k k' delegated func_name params gateway websocket (¬ BeginsAsHeader ·) := by
  obtain ⟨⟨request, hframed⟩, ⟨request', hbuild⟩, hdeclared, hrows⟩ := h
  intro frames response hplain hframes
  rw [outcome_gateway (hgateway frames) hframes [],
    outcome_eq_websocket hp' hwebsocket fun _ _ => assembled_plain hplain hframes.whole,
    websocketOutcome, call_params_of_declared k hdeclared, hrows, hframed, hbuild]
  cases delegated <;> rfl

include hp' hgateway hwebsocket in
/-- INTERNAL: the same answer to a reply of records that does not begin as a header does. -/
theorem SameAnswers.plain
    (h : SameAnswers k k' delegated func_name params gateway websocket (¬ BeginsAsHeader ·))
    {rs : List (ℕ × Bytes)} (hfits : ∀ r ∈ rs, Records.Fits Tag.TERMINATOR r)
    (hplain : ¬ BeginsAsHeader (Records.stream Tag.TERMINATOR rs)) :
    gatewayOutcome k delegated func_name desc params (Records.stream Tag.TERMINATOR rs) =
      websocketOutcome k sent_name desc params (Records.stream Tag.TERMINATOR rs) := by
  have hframe := assembled_frame (whole_stream hfits)
  rw [gatewayOutcome, ← outcome_gateway (hgateway _) hframe [], h _ _ hplain hframe]
  exact outcome_eq_websocket hp' hwebsocket fun _ _ =>
    assembled_plain hplain (whole_stream hfits)

include hp' hgateway hwebsocket in
/-- INTERNAL: the same answer to a success that begins as a header does, and to what is left of it
over a WebSocket. -/
theorem SameAnswers.header
    (h : SameAnswers k k' delegated func_name params gateway websocket BeginsAsHeader)
    (n : ℕ) (hn : n < 256 ^ 4) (response : Bytes)
    (hheader : BeginsAsHeader (Records.stream Tag.TERMINATOR (headerLike n)))
    (hstrip : strip_gw_header (Records.stream Tag.TERMINATOR (headerLike n)) = response)
    (hwhole : tlv_stream_status response ≠ .truncated) :
    (told delegated (written (gateway_request k [] func_name desc params)) >>= fun _ => .ok []) =
      websocketOutcome k sent_name desc params response := by
  subst hstrip
  have hfits := fits_headerLike hn
  have hframe := assembled_frame (whole_stream hfits)
  have hgate := outcome_gateway (hgateway _) hframe []
  rw [h _ _ hheader hframe,
    outcome_eq_websocket hp' hwebsocket fun _ _ => assembled_message hwhole,
    reply_outcome_quiet hfits (accepted_headerLike _ n) (other_headerLike n)] at hgate
  exact hgate.symm

include hp' hgateway hwebsocket in
/-- What is answered alike to replies without a header is refused alike or sent alike. -/
theorem SameAnswers.refused_or_sent (hp : k.p = s.platform u typeName)
    (h : SameAnswers k k' delegated func_name params gateway websocket (¬ BeginsAsHeader ·)) :
    RefusedAlike k delegated func_name sent_name desc params ∨
      SentAlike k func_name sent_name desc params := by
  have hquiet := h.plain hp' hgateway hwebsocket
    (show ∀ r ∈ replyHead, Records.Fits Tag.TERMINATOR r by decide) (by decide)
  rw [gatewayOutcome, websocketOutcome, reply_outcome_replyHead, reply_outcome_replyHead] at hquiet
  rcases alike_of_bind_eq hquiet with hrefusal | ⟨⟨a, hA⟩, b, hB⟩
  · exact .inl hrefusal
  · have htold : told false (written (build_invoke_request k.p sent_name desc params)) = .ok b :=
      hB
    obtain ⟨request, hbuild⟩ := exists_of_told htold
    have hdeclared := declared_of_written hbuild
    refine .inr ⟨exists_of_told hA, ⟨request, hbuild⟩, hdeclared, ?_⟩
    by_contra hrows
    obtain ⟨name, hname⟩ := assocGet_dm_table_ids hrows
    have hgarbled := h.plain hp' hgateway hwebsocket fits_garbled (by decide)
    rw [gatewayOutcome, websocketOutcome, hA, hB, call_params_of_declared k hdeclared,
      garbled_passed_over, hp] at hgarbled
    rw [hp] at hname
    rw [Eff.except_ok_bind, garbled_refused hname] at hgarbled
    cases hgarbled

include hp' hgateway hwebsocket in
/-- What is answered alike to replies with a header is refused alike. -/
theorem SameAnswers.refused
    (h : SameAnswers k k' delegated func_name params gateway websocket BeginsAsHeader) :
    RefusedAlike k delegated func_name sent_name desc params := by
  have hquiet := h.header hp' hgateway hwebsocket 74 (by decide)
    (Records.stream Tag.TERMINATOR replyHead) (by decide) (by decide) (by decide)
  rw [websocketOutcome, reply_outcome_replyHead] at hquiet
  rcases alike_of_bind_eq hquiet with hrefusal | ⟨⟨a, hA⟩, b, hB⟩
  · exact hrefusal
  · have hempty := h.header hp' hgateway hwebsocket 52 (by decide) [] (by decide)
      (by decide) (by decide)
    rw [websocketOutcome, hA, hB] at hempty
    cases hempty

end Same

/-- Over the gateway and over a WebSocket a call answers alike to every reply that does not begin
as a gateway header does if and only if the requests are refused alike or sent alike; to the
other replies, whose first 80 bytes are cut off over a WebSocket, only where they are refused. -/
theorem same_answers_iff {k : Client ω χ (PyVal L)} {k' : Client ω' χ' (PyVal L)}
    (hp : k.p = s.platform u typeName) (hp' : k'.p = k.p) {delegated : Bool}
    {func_name sent_name : PyStr} {desc : FunctionDesc} {params : Values (PyVal L)}
    {gateway : List Bytes → Conn ω χ} {websocket : Bytes → Conn ω' χ'}
    (hgateway : ∀ frames, OverGateway k delegated func_name desc params frames (gateway frames))
    (hwebsocket : ∀ message,
      OverWebSocket k' func_name desc params message sent_name (websocket message)) :
    (SameAnswers k k' delegated func_name params gateway websocket (¬ BeginsAsHeader ·) ↔
      RefusedAlike k delegated func_name sent_name desc params ∨
        SentAlike k func_name sent_name desc params) ∧
    (SameAnswers k k' delegated func_name params gateway websocket BeginsAsHeader ↔
      RefusedAlike k delegated func_name sent_name desc params) := by
  constructor
  · constructor
    · exact fun hsame => hsame.refused_or_sent hp' hgateway hwebsocket hp
    · rintro (hrefusal | hsent)
      · exact sameAnswers_of_refused hp' hgateway hwebsocket hrefusal _
      · exact sameAnswers_of_sent hp' hgateway hwebsocket hsent
  · constructor
    · exact fun hsame => hsame.refused hp' hgateway hwebsocket
    · exact fun hrefusal => sameAnswers_of_refused hp' hgateway hwebsocket hrefusal _

end Answers

section Runs

open RoundTrips

/-- A transport that hands out what is queued. -/
def queueSeam : Seam (List Bytes) where
  send_message := fun _ => pure ()
  recv_message := readQueued
  sleep := pure ()
  drain_queued_close := pure none
  close := pure ()

theorem hands_queue (messages : List Bytes) : Hands queueSeam messages messages := by
  induction messages with
  | nil => trivial
  | cons message rest ih => exact ⟨rest, rfl, ih⟩

/-- A connection over such a transport. -/
def queueClient (strict : Bool) : Client (List Bytes) Unit (PyVal Bytes) where
  p := bytesPlatform
  seam := queueSeam
  snc_mode := false
  strict_params := strict
  max_retries := 0
  tid_store := none
  unit_store := none
  fresh_hex := []
  hostname := []
  nonce := []
  redial := fun _ _ _ => throw (err .os (lit "unreachable"))

/-- It is logged on, and knows the descriptor. -/
def queueConn (desc : FunctionDesc) (is_ws : Bool) (messages : List Bytes) :
    Conn (List Bytes) Unit where
  wire := messages
  session := ⟨.READY, [], some ⟨lit "S", [], [], [], [], [], [], [], [], true⟩, none, none⟩
  cache := [((lit "S", desc.name), desc)]
  anon_cache_key := none
  struct_cache := []
  is_ws := is_ws
  ws_auth := none
  user := ()
  trips := []

/-- The logon reply of the system `S`. -/
def logonReply : Bytes := Records.stream Tag.TERMINATOR [(0x0450, nameBytes (lit "S"))]

/-- A WebSocket before its first call. -/
def pendingConn (messages : List Bytes) : Conn (List Bytes) Unit where
  wire := logonReply :: messages
  session := ⟨.WS_PENDING, [], none, none, none⟩
  cache := []
  anon_cache_key := none
  struct_cache := []
  is_ws := true
  ws_auth := some ⟨lit "DEMO", lit "secret", lit "001", lit "EN", lit "10.0.0.1", [], lit "00"⟩
  user := ()
  trips := []

/-- The built-in descriptor. -/
def connectionDesc : FunctionDesc :=
  ((assocGet WRFC_BUILTIN_DESCS (lit "STFC_CONNECTION")).getD (tableDesc []))

/-- The answers to a reply, over the gateway and over a WebSocket. -/
def gatewayAnswer (strict : Bool) (params : Values (PyVal Bytes)) (rs : List (ℕ × Bytes)) :
    Except ErrKind (Values (PyVal Bytes)) :=
  outcome (Eff.run (call (queueClient strict) false (lit "Z_FM") params)
    (queueConn (tableDesc (lit "TAB")) false
      [gwHeader 1 ++ Records.stream Tag.TERMINATOR rs])).1

def websocketAnswer (strict : Bool) (params : Values (PyVal Bytes)) (rs : List (ℕ × Bytes)) :
    Except ErrKind (Values (PyVal Bytes)) :=
  outcome (Eff.run (call (queueClient strict) false (lit "Z_FM") params)
    (queueConn (tableDesc (lit "TAB")) true [Records.stream Tag.TERMINATOR rs])).1

theorem run_logon_trip (messages : List Bytes) :
    ∃ c, Eff.run (ws_logon_trip (queueClient false)) (pendingConn messages) = (.ok logonReply, c) ∧
      c.wire = messages :=
  ⟨_, rfl, rfl⟩

/-- What the logon reply says. -/
def logonAttributes : ConnectionAttributes :=
  ⟨lit "S", [], [], [], [], [], [], [], lit "4103", true⟩

theorem same_answers_without_rows :
    SameAnswers (queueClient false) (queueClient false) false (lit "Z_FM") []
      (queueConn (tableDesc (lit "TAB")) false)
      (fun message => queueConn (tableDesc (lit "TAB")) true [message]) (¬ BeginsAsHeader ·) ∧
    SameAnswers (queueClient false) (queueClient false) true (lit "STFC_CONNECTION") []
      (queueConn connectionDesc false) (fun message => pendingConn [message])
      (¬ BeginsAsHeader ·) := by
  constructor
  · have hgateway : ∀ frames, OverGateway (queueClient false) false (lit "Z_FM")
        (tableDesc (lit "TAB")) [] frames (queueConn (tableDesc (lit "TAB")) false frames) :=
      fun frames => ⟨rfl, _, rfl, rfl, fun _ _ => ⟨frames, rfl, hands_queue frames⟩⟩
    have hwebsocket : ∀ message, OverWebSocket (queueClient false) (lit "Z_FM")
        (tableDesc (lit "TAB")) [] message (lit "Z_FM")
        (queueConn (tableDesc (lit "TAB")) true [message]) :=
      fun message => .later rfl rfl rfl fun _ _ => ⟨[message], rfl, hands_queue [message]⟩
    exact (same_answers_iff rfl rfl hgateway hwebsocket).1.mpr
      (.inr ⟨⟨_, rfl⟩, ⟨_, rfl⟩, rfl, rfl⟩)
  · have hgateway : ∀ frames, OverGateway (queueClient false) true (lit "STFC_CONNECTION")
        connectionDesc [] frames (queueConn connectionDesc false frames) :=
      fun frames => ⟨rfl, _, rfl, rfl, fun _ _ => ⟨frames, rfl, hands_queue frames⟩⟩
    have hwebsocket : ∀ message, OverWebSocket (queueClient false) (lit "STFC_CONNECTION")
        connectionDesc [] message (lit "STFC_CONNECTION") (pendingConn [message]) :=
        by
      intro message
      have hparsed : ws_parse_logon_response asciiTables logonReply = .ok logonAttributes := by
        decide +kernel
      obtain ⟨c, hlogon, hwire⟩ := run_logon_trip [message]
      refine .builtin rfl rfl rfl hlogon hparsed rfl rfl fun _ _ => ⟨[message], ?_, hands_queue _⟩
      rw [← hwire]
      rfl
    exact (same_answers_iff rfl rfl hgateway hwebsocket).1.mpr
      (.inr ⟨⟨_, rfl⟩, ⟨_, rfl⟩, rfl, rfl⟩)

/-- The rows of a table that was sent come back under its number; a parameter is not declared; a
reply begins as a header does. -/
theorem answers_differ :
    (gatewayAnswer true [(lit "TAB", .list [rowOf 1 2 3])] (replyHead ++ numberedRow) =
        .ok [(lit "TAB", .list [rowOf 1 2 3])] ∧
      websocketAnswer true [(lit "TAB", .list [rowOf 1 2 3])] (replyHead ++ numberedRow) =
        .ok []) ∧
    (gatewayAnswer false [(lit "EXTRA", .list [])] replyHead = .ok [] ∧
      websocketAnswer false [(lit "EXTRA", .list [])] replyHead = .error .value) ∧
    gatewayAnswer true [] (headerLike 52) = .ok [] ∧
      websocketAnswer true [] (headerLike 52) = .error .communication := by
  refine ⟨⟨?_, ?_⟩, ⟨?_, ?_⟩, ?_, ?_⟩ <;> decide +kernel

end Runs

end SapRfc.Analysis.Transports
