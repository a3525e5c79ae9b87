import SapRfc.Analysis.Answers
import SapRfc.Analysis.DecodingErrors
import SapRfc.Analysis.DuplicateAnswers
import SapRfc.Analysis.ReadBack
import SapRfc.Analysis.Redrive
import SapRfc.Program.Peer

/-!
# A remote call is the local call

A client calls a function of a server of this library.  What the handler is given is what the
parameters carry, what the client gets back is what the handler's result carries, and where the
handler raises, the client raises a system failure with the text of it.  The call is run once, the
server is left as the handler leaves it, and the connection is as ready as it was.

The request travels in a gateway frame with a footer behind the records, the answer in a frame of
its own; both sides take them off again.
-/

set_option autoImplicit false

namespace SapRfc.Analysis.RemoteCalls

open SapRfc.Library SapRfc.Program ReadBack RoundTrips TextCodecs
open SapRfc.Analysis.Shipping (run_note)

/-! ## The call next to its caller -/

/-- What a caller is told. -/
inductive Outcome (V : Type) where
  | result (values : Values V)
  | failure (message : PyStr)

section Server

variable {χ V : Type} (p : Platform V) (srv : RfcServer χ V)

/-- The check of a caller who gives no credentials. -/
def check_anonymous : Eff PyError χ Bool :=
  match srv.auth_check with
  | none => pure true
  | some check => check.ask none none

/-- A call that nobody writes down: the function is looked up, the caller is checked, and the
handler is given its parameters. -/
def local_call (func_name : PyStr) (given : Values V) :
    Eff PyError (ServerWorld χ) (Outcome V) := do
  let entry ← ext (srv.lookup p func_name)
  match entry with
  | none => pure (.failure (lit "function " ++ func_name ++ lit " not registered"))
  | some (_, handler) => do
    note (.selected handler.id)
    let allowed ← ext (check_anonymous srv)
    if allowed = false then pure (.failure (lit "authentication failed"))
    else do
      let called ← attempt (call_handler handler given)
      match called with
      | .error exc => pure (.failure exc.text)
      | .ok (.result values) => pure (.result (values.getD []))
      | .ok .coroutine =>
        throw (err .attribute (lit "'coroutine' object has no attribute 'items'"))

/-- The answer that says an outcome. -/
def Outcome.answer (desc : FunctionDesc) : Outcome V → Except PyError Bytes
  | .result values => build_response p (some desc) values
  | .failure message => build_system_failure message

/-- The server has a function under one interface. -/
def Describes (func_name : PyStr) (desc : FunctionDesc) : Prop :=
  ∀ g entry, (Eff.run (srv.lookup p func_name) g).1 = .ok (some entry) → entry.1 = some desc

variable {p srv} {tlv : Bytes} {func_name : PyStr} {desc : FunctionDesc} {given : Values V}

/-- INTERNAL: who gives no credentials is asked for none. -/
theorem check_auth_anonymous (hcredentials : extract_credentials tlv = .ok (none, none)) :
    check_auth srv tlv = check_anonymous srv := by
  unfold check_auth check_anonymous
  cases srv.auth_check with
  | none => rfl
  | some check =>
    rw [hcredentials]
    rfl

/-- INTERNAL: the call of a handler that has been found. -/
theorem run_selected {handler : Handler χ V}
    (hcredentials : extract_credentials tlv = .ok (none, none))
    (hread : deserialize_request p tlv (some desc) = .ok given) (w : ServerWorld χ) :
    Eff.run (do
      note (.selected handler.id)
      let allowed ← ext (check_auth srv tlv)
      if allowed = false then Eff.lift (build_system_failure (lit "authentication failed"))
      else do
        let request ← Eff.lift (deserialize_request p tlv (some desc))
        let called ← attempt (call_handler handler request)
        match called with
        | .error exc => Eff.lift (build_system_failure exc.text)
        | .ok called => Eff.lift (build_call_response p (some desc) called)) w =
      Eff.run ((do
        note (.selected handler.id)
        let allowed ← ext (check_anonymous srv)
        if allowed = false then pure (.failure (lit "authentication failed"))
        else do
          let called ← attempt (call_handler handler given)
          match called with
          | .error exc => pure (.failure exc.text)
          | .ok (.result values) => pure (.result (values.getD []))
          | .ok .coroutine =>
            throw (err .attribute (lit "'coroutine' object has no attribute 'items'")))
        >>= fun o : Outcome V => Eff.lift (o.answer p desc)) w := by
  rw [check_auth_anonymous hcredentials, hread]
  rw [Eff.bind_assoc, Eff.run_bind_ok (run_note _ w.user w.events),
    Eff.run_bind_ok (run_note _ w.user w.events), Eff.bind_assoc, Eff.run_bind, Eff.run_bind]
  cases Eff.run (ext (check_anonymous srv)) ⟨w.user, w.events ++ [.selected handler.id]⟩ with
  | mk q w1 =>
    cases q with
    | error e => rfl
    | ok allowed =>
      dsimp only
      cases allowed with
      | false => rfl
      | true =>
        rw [if_neg (show ¬ true = false by decide), if_neg (show ¬ true = false by decide),
          Eff.run_bind_ok (Eff.run_lift _ _), Eff.bind_assoc, Eff.run_bind, Eff.run_bind]
        cases Eff.run (attempt (call_handler handler given)) w1 with
        | mk r w2 =>
          cases r with
          | error e => rfl
          | ok called =>
            cases called with
            | error exc => rfl
            | ok called =>
              cases called with
              | result values => rfl
              | coroutine => rfl

/-- A request that is read as its parameters is the call with these parameters, answered. -/
theorem run_dispatch_call_local (hdescribes : Describes p srv func_name desc)
    (hcredentials : extract_credentials tlv = .ok (none, none))
    (hread : deserialize_request p tlv (some desc) = .ok given) (w : ServerWorld χ) :
    Eff.run (dispatch_call p srv tlv func_name) w =
      Eff.run (local_call p srv func_name given >>= fun o => Eff.lift (o.answer p desc)) w := by
  unfold dispatch_call local_call
  rw [Eff.bind_assoc, Eff.run_bind, Eff.run_bind]
  cases hlookup : Eff.run (ext (srv.lookup p func_name)) w with
  | mk q w1 =>
    cases q with
    | error e => rfl
    | ok entry =>
      cases entry with
      | none => rfl
      | some entry =>
        obtain ⟨func_desc, handler⟩ := entry
        have hdesc : func_desc = some desc :=
          hdescribes w.user (func_desc, handler) (congrArg Prod.fst hlookup)
        rw [hdesc]
        exact run_selected hcredentials hread w1

/-- So is its frame, under a name of the application. -/
theorem run_dispatch_inbound_local {frame : Bytes} (hdescribes : Describes p srv func_name desc)
    (hordinary : func_name ∉ systemNames)
    (hname : read_func_name (strip_gw_header frame) = .ok func_name)
    (hcredentials : extract_credentials (strip_gw_header frame) = .ok (none, none))
    (hread : deserialize_request p (strip_gw_header frame) (some desc) = .ok given)
    (w : ServerWorld χ) :
    Eff.run (dispatch_inbound p srv frame) w =
      Eff.run (local_call p srv func_name given >>= fun o => Eff.lift (o.answer p desc)) w := by
  rw [Shipping.run_dispatch_inbound_ok hname]
  simp only [systemNames, List.mem_cons, List.not_mem_nil, or_false, not_or] at hordinary
  obtain ⟨hship, hconfirm, hunit, hunit_confirm, hstate⟩ := hordinary
  unfold dispatch_named
  rw [if_neg hship, if_neg hconfirm, if_neg hunit, if_neg hunit_confirm, if_neg hstate]
  exact run_dispatch_call_local hdescribes hcredentials hread w

end Server

/-! ## The link -/

section Link

variable {χ V : Type} {p : Platform V} {srv : RfcServer χ V} {handle : GwHandle}

/-- The link behind a request that the server has taken. -/
def served (l : Peer χ) (request : Bytes) (server : ServerWorld χ) (answer : Option Bytes)
    (arrived : Bool) : Peer χ where
  server := server
  transits := l.transits.tail
  inbox := none
  deliveries := l.deliveries ++ [⟨request, answer, arrived⟩]

/-- What the serve step sends first. -/
def first_sent (handle : GwHandle) (dispatched : Except PyError Bytes) : Option Bytes :=
  (dispatched.bind fun out => wrap_in_0608 out handle.bytes).toOption

/-- INTERNAL: the link takes a request to the server. -/
theorem deliver_eq (request : Bytes) (arrived : Bool) (l : Peer χ) :
    l.deliver p srv handle request arrived =
      { l with
        server := (Eff.run (dispatch_inbound p srv request) l.server).2
        inbox := if arrived then
          first_sent handle (Eff.run (dispatch_inbound p srv request) l.server).1 else none
        deliveries := l.deliveries ++ [⟨request,
          first_sent handle (Eff.run (dispatch_inbound p srv request) l.server).1, arrived⟩] } := by
  have hsent : (Eff.run (dispatch_and_reply_sync p srv request handle.bytes)
      ⟨l.server, []⟩).2.sent.head? =
        first_sent handle (Eff.run (dispatch_inbound p srv request) l.server).1 := by
    rw [Answers.sent_dispatch_and_reply]
    unfold first_sent
    cases (Eff.run (dispatch_inbound p srv request) l.server).1.bind fun out =>
      wrap_in_0608 out handle.bytes with
    | ok reply => rfl
    | error e => rfl
  have hserver : (Eff.run (dispatch_and_reply_sync p srv request handle.bytes)
      ⟨l.server, []⟩).2.server = (Eff.run (dispatch_inbound p srv request) l.server).2 := by
    rw [Answers.state_dispatch_and_reply]
  unfold Peer.deliver
  simp only [hsent, hserver]

/-- A complete answer that arrives is what the client reads. -/
theorem run_round_trip_answered {request out reply : Bytes} {func_name : PyStr} {l : Peer χ}
    {w : ServerWorld χ} (htransit : l.transits.head? = some .answered)
    (hdispatch : Eff.run (dispatch_inbound p srv request) l.server = (.ok out, w))
    (hreply : wrap_in_0608 out handle.bytes = .ok reply) (hcomplete : Responses.Complete out) :
    Eff.run ((peer_seam p srv handle).round_trip (.frames func_name) request) l =
      (.ok out, served l request w (some reply) true) := by
  have hhead : l.transits.headD .request_lost = .answered := by
    rw [List.headD_eq_head?_getD, htransit, Option.getD_some]
  have hfirst : first_sent handle (.ok out) = some reply := by
    unfold first_sent
    rw [show (Except.ok out : Except PyError Bytes).bind
      (fun out => wrap_in_0608 out handle.bytes) =
      wrap_in_0608 out handle.bytes from rfl, hreply]
    rfl
  have hsend : Eff.run (peer_send p srv handle request) l =
      (.ok (), { served l request w (some reply) true with inbox := some reply }) := by
    unfold peer_send
    rw [Eff.run_mk, hhead]
    dsimp only
    rw [deliver_eq]
    simp only [hdispatch, hfirst]
    rfl
  have hread : Eff.run (peer_recv : Eff PyError (Peer χ) Bytes)
      { served l request w (some reply) true with inbox := some reply } =
        (.ok reply, served l request w (some reply) true) := rfl
  have hnot : tlv_stream_status out ≠ .truncated := by
    obtain ⟨rc, records, -, hwalk⟩ := hcomplete.walk
    have hstatus : tlv_stream_status out = .complete := by
      rw [tlv_stream_status_complete, hwalk]
    rw [hstatus]
    exact fun h => nomatch h
  have hstrip := DuplicateAnswers.strip_wrapped hreply
  show Eff.run (peer_send p srv handle request >>= fun _ =>
    join_response_frames peer_recv func_name) l = _
  rw [Eff.run_bind_ok hsend, run_join_response_frames hread, hstrip,
    join_loop_of_not_truncated hnot]
  rfl

/-- How a request went that brought nothing back, where its dispatch comes to `done`. -/
inductive Unanswered (handle : GwHandle) (request : Bytes)
    (done : Except PyError Bytes × ServerWorld χ) (l l' : Peer χ) : Prop
  /-- it never reached the server -/
  | undelivered (lost : l.transits.headD .request_lost ∈ [.refused, .request_lost])
      (same : l' = { l with transits := l.transits.tail, inbox := none })
  /-- the server did what there was to do, and its answer was lost -/
  | unheard (lost : l.transits.headD .request_lost = .answer_lost)
      (server : l' = served l request done.2 (first_sent handle done.1) false)
  /-- the server did what there was to do, and had no answer -/
  | silent (arrives : l.transits.headD .request_lost = .answered)
      (nothing : first_sent handle done.1 = none)
      (server : l' = served l request done.2 none true)

/-- The server is as it was, or as its dispatch leaves it. -/
theorem Unanswered.server_eq {request : Bytes} {done : Except PyError Bytes × ServerWorld χ}
    {l l' : Peer χ} (h : Unanswered handle request done l l') :
    l'.server = l.server ∨ l'.server = done.2 := by
  cases h with
  | undelivered _ same =>
    rw [same]
    exact .inl rfl
  | unheard _ server =>
    rw [server]
    exact .inr rfl
  | silent _ _ server =>
    rw [server]
    exact .inr rfl

/-- INTERNAL: what brings nothing back fails on the transport. -/
theorem run_round_trip_unanswered {request : Bytes} (func_name : PyStr) {l : Peer χ}
    (h : l.transits.headD .request_lost ≠ .answered ∨
      first_sent handle (Eff.run (dispatch_inbound p srv request) l.server).1 = none) :
    ∃ e l', Eff.run ((peer_seam p srv handle).round_trip (.frames func_name) request) l =
      (.error e, l') ∧ e.kind.isTransport = true ∧ e.kind.isAbap = false ∧
        Unanswered handle request (Eff.run (dispatch_inbound p srv request) l.server) l l' := by
  have hempty : ∀ l' : Peer χ, l'.inbox = none →
      Eff.run ((Reader.frames func_name).read peer_recv) l' =
        (.error (err .timeout (lit "timed out")), l') := by
    intro l' hinbox
    have hrecv : Eff.run (peer_recv : Eff PyError (Peer χ) Bytes) l' =
        (.error (err .timeout (lit "timed out")), l') := by
      unfold peer_recv
      rw [Eff.run_mk, hinbox]
    show Eff.run (join_response_frames peer_recv func_name) l' = _
    unfold join_response_frames
    rw [Eff.run_bind_error hrecv]
  show ∃ e l', Eff.run (peer_send p srv handle request >>= fun _ =>
    (Reader.frames func_name).read peer_recv) l = (.error e, l') ∧ _
  cases hhead : l.transits.headD .request_lost with
  | refused =>
    have hsend : Eff.run (peer_send p srv handle request) l =
        (.error (err .os (lit "Connection reset by peer")),
          { l with transits := l.transits.tail, inbox := none }) := by
      unfold peer_send
      rw [Eff.run_mk, hhead]
    rw [Eff.run_bind_error hsend]
    exact ⟨_, _, rfl, rfl, rfl, .undelivered (by rw [hhead]; decide) rfl⟩
  | request_lost =>
    refine ⟨err .timeout (lit "timed out"), { l with transits := l.transits.tail, inbox := none },
      ?_, rfl, rfl, .undelivered (by rw [hhead]; decide) rfl⟩
    have hsend : Eff.run (peer_send p srv handle request) l =
        (.ok (), { l with transits := l.transits.tail, inbox := none }) := by
      unfold peer_send
      rw [Eff.run_mk, hhead]
    rw [Eff.run_bind_ok hsend]
    exact hempty _ rfl
  | answer_lost =>
    have hsend : Eff.run (peer_send p srv handle request) l =
        (.ok (), served l request (Eff.run (dispatch_inbound p srv request) l.server).2
          (first_sent handle (Eff.run (dispatch_inbound p srv request) l.server).1) false) := by
      unfold peer_send
      rw [Eff.run_mk, hhead]
      dsimp only
      rw [deliver_eq]
      rfl
    rw [Eff.run_bind_ok hsend]
    exact ⟨err .timeout (lit "timed out"), _, hempty _ rfl, rfl, rfl, .unheard hhead rfl⟩
  | answered =>
    have hnone := h.resolve_left fun hne => hne hhead
    have hsend : Eff.run (peer_send p srv handle request) l =
        (.ok (), served l request (Eff.run (dispatch_inbound p srv request) l.server).2
          none true) := by
      unfold peer_send
      rw [Eff.run_mk, hhead]
      dsimp only
      rw [deliver_eq, hnone]
      rfl
    rw [Eff.run_bind_ok hsend]
    exact ⟨err .timeout (lit "timed out"), _, hempty _ rfl, rfl, rfl, .silent hhead hnone rfl⟩

/-- INTERNAL: otherwise the answer of the server comes back. -/
theorem answered_of_not {request : Bytes} {l : Peer χ}
    (h : ¬ (l.transits.headD .request_lost ≠ .answered ∨
      first_sent handle (Eff.run (dispatch_inbound p srv request) l.server).1 = none)) :
    ∃ out reply w, l.transits.head? = some .answered ∧
      Eff.run (dispatch_inbound p srv request) l.server = (.ok out, w) ∧
      wrap_in_0608 out handle.bytes = .ok reply := by
  obtain ⟨harrives, hsent⟩ := not_or.mp h
  have htransit : l.transits.head? = some .answered := by
    rw [not_not, List.headD_eq_head?_getD] at harrives
    cases hhead : l.transits.head? with
    | none =>
      rw [hhead] at harrives
      cases harrives
    | some transit =>
      rw [hhead] at harrives
      exact congrArg some harrives
  cases hdispatch : Eff.run (dispatch_inbound p srv request) l.server with
  | mk r w =>
    rw [hdispatch] at hsent
    cases r with
    | error e => exact absurd rfl hsent
    | ok out =>
      cases hreply : wrap_in_0608 out handle.bytes with
      | ok reply => exact ⟨out, reply, w, htransit, rfl, hreply⟩
      | error e =>
        refine absurd ?_ hsent
        unfold first_sent
        show (wrap_in_0608 out handle.bytes).toOption = none
        rw [hreply]
        rfl

end Link

/-! ## The client -/

section Caller

variable {ω ψ V : Type} {k : Client ω ψ V} {c : Conn ω ψ} {func_name : PyStr}
  {desc : FunctionDesc} {params : Values V} {tlv frame : Bytes}

/-- The client has the interface of a function at hand. -/
def Cached (k : Client ω ψ V) (c : Conn ω ψ) (func_name : PyStr) (desc : FunctionDesc) : Prop :=
  ∃ attrs, c.session.attributes = some attrs ∧ attrs.sys_id ≠ [] ∧
    assocGet c.cache (attrs.sys_id, k.p.u.upper func_name) = some desc

/-- INTERNAL: what is at hand is not looked up. -/
theorem run_async_function_desc_cached (h : Cached k c func_name desc) :
    Eff.run (async_function_desc k func_name) c = (.ok desc, c) := by
  obtain ⟨attrs, hattrs, hsys, hcache⟩ := h
  have hkey : Eff.run (metadata_cache_key k) c = (.ok (some attrs.sys_id), c) := by
    unfold metadata_cache_key
    rw [Eff.run_bind_ok (Eff.run_state _), hattrs]
    dsimp only
    rw [if_pos hsys]
    rfl
  have hhit : Eff.run (cache_hit k (some attrs.sys_id) func_name) c = (.ok (some desc), c) := by
    show Eff.run (cache_get k attrs.sys_id func_name) c = _
    unfold cache_get
    rw [Eff.run_bind_ok (Eff.run_state _), hcache]
    rfl
  unfold async_function_desc
  rw [Eff.run_bind_ok hkey, Eff.run_bind_ok hhit]
  rfl

/-- A call that the client can write: the session is ready, the interface is at hand, and the
request has its frame. -/
structure Writable (k : Client ω ψ V) (c : Conn ω ψ) (func_name : PyStr) (desc : FunctionDesc)
    (params : Values V) (tlv frame : Bytes) : Prop where
  ready : c.session.state = .READY
  cached : Cached k c func_name desc
  records : build_invoke_request k.p func_name desc
    (filter_call_params k.p desc params k.strict_params) = .ok tlv
  framed : build_invoke_frame c.session.sendHandle tlv = .ok frame

/-- The connection behind a call: another trip, and nothing else of its own. -/
def behind (c : Conn ω ψ) (func_name : PyStr) (frame : Bytes) (wire : ω) : Conn ω ψ :=
  { c with wire := wire, trips := c.trips ++ [⟨.invoke, .frames func_name, frame, c.wire⟩] }

/-- The tables that the client has declared for the answer. -/
def declaredIds (k : Client ω ψ V) (desc : FunctionDesc) (params : Values V) : List (ℕ × PyStr) :=
  dm_table_ids k.p desc (filter_call_params k.p desc params k.strict_params)

/-- What the client makes of its round trip. -/
def tripResult (k : Client ω ψ V) (c : Conn ω ψ) (func_name : PyStr) (desc : FunctionDesc)
    (params : Values V) (frame : Bytes) : Except PyError (Values V) :=
  (Eff.run (k.seam.round_trip (.frames func_name) frame) c.wire).1.bind fun out =>
    parse_invoke_response k.p out desc (declaredIds k desc params)

/-- INTERNAL: the guarded part of a call. -/
theorem run_call_body (h : Writable k c func_name desc params tlv frame) :
    ∃ body : Op ω ψ (Values V),
      Eff.run (async_call k func_name params) c =
        Eff.run (Eff.andFinally (do
          let result ← fail_closed k func_name body
          pure (convert_date_time_fields k.p result desc)) (onSession restore_ready))
            { c with session := { c.session with state := .IN_CALL } } ∧
      Eff.run body { c with session := { c.session with state := .IN_CALL } } =
        (tripResult k c func_name desc params frame,
          { behind c func_name frame
              (Eff.run (k.seam.round_trip (.frames func_name) frame) c.wire).2 with
            session := { c.session with state := .IN_CALL } }) := by
  refine ⟨exchange k .invoke (.frames func_name) frame >>= fun tlv_response =>
    Eff.lift (parse_invoke_response k.p tlv_response desc
      (dm_table_ids k.p desc (filter_call_params k.p desc params k.strict_params))), ?_, ?_⟩
  · have hcached : Cached k { c with session := { c.session with state := .IN_CALL } } func_name
        desc := h.cached
    unfold async_call
    rw [run_in_call k _ h.ready, Eff.run_andFinally, Eff.run_andFinally,
      Eff.run_bind_ok (run_async_function_desc_cached hcached)]
    unfold async_invoke
    dsimp only
    rw [h.records, Eff.run_bind_ok (Eff.run_lift _ _),
      Eff.run_bind_ok ((Redrive.run_invoke_frame _ _).trans (by
        rw [show ({ c with session := { c.session with state := .IN_CALL } } :
          Conn ω ψ).session.sendHandle = c.session.sendHandle from rfl, h.framed]))]
    rfl
  · rw [Eff.run_bind_lift, run_exchange]
    rfl

/-- INTERNAL: the session that comes back from a call is the one that went into it. -/
theorem run_restore_behind (h : c.session.state = .READY) (wire : ω) :
    Eff.run (onSession restore_ready) { behind c func_name frame wire with
      session := { c.session with state := .IN_CALL } } =
        (.ok (), behind c func_name frame wire) := by
  have hsession : ({ c.session with state := .READY } : Session) = c.session := by
    rw [← h]
  rw [run_restore_ready]
  dsimp only
  rw [if_pos rfl, hsession]
  rfl

/-- What is read is returned, and the session is as ready as before. -/
theorem run_async_call_ok (h : Writable k c func_name desc params tlv frame) {got : Values V}
    (htrip : tripResult k c func_name desc params frame = .ok got) :
    Eff.run (async_call k func_name params) c =
      (.ok (convert_date_time_fields k.p got desc), behind c func_name frame
        (Eff.run (k.seam.round_trip (.frames func_name) frame) c.wire).2) := by
  obtain ⟨body, hcall, hbody⟩ := run_call_body h
  rw [htrip] at hbody
  have hquiet : Eff.run (fail_closed k func_name body)
      { c with session := { c.session with state := .IN_CALL } } = _ :=
    fail_closed_quiet k fun e he => by
      rw [hbody] at he
      cases he
  rw [hcall, Eff.run_andFinally, Eff.run_bind_ok (hquiet.trans hbody), Eff.run_pure]
  dsimp only
  rw [run_restore_behind h.ready]

/-- An ABAP error is raised as it is, and the session is as ready as before. -/
theorem run_async_call_abap (h : Writable k c func_name desc params tlv frame) {e : PyError}
    (htrip : tripResult k c func_name desc params frame = .error e) (habap : e.kind.isAbap = true) :
    Eff.run (async_call k func_name params) c =
      (.error e, behind c func_name frame
        (Eff.run (k.seam.round_trip (.frames func_name) frame) c.wire).2) := by
  obtain ⟨body, hcall, hbody⟩ := run_call_body h
  rw [htrip] at hbody
  have hquiet : Eff.run (fail_closed k func_name body)
      { c with session := { c.session with state := .IN_CALL } } = _ :=
    fail_closed_quiet k fun e' he hgives => by
      rw [hbody] at he
      obtain rfl := Except.error.inj he
      exact absurd (habap.symm.trans hgives.1) (by decide)
  rw [hcall, Eff.run_andFinally, Eff.run_bind_error (hquiet.trans hbody)]
  dsimp only
  rw [run_restore_behind h.ready]

/-- Any other error gives the connection up. -/
theorem run_async_call_broken (h : Writable k c func_name desc params tlv frame) {e : PyError}
    (htrip : tripResult k c func_name desc params frame = .error e) (hgives : GivesUp e) :
    ∃ reason, Eff.run (async_call k func_name params) c =
      (.error (asCommunication e), (behind c func_name frame
        (Eff.run (k.seam.round_trip (.frames func_name) frame) c.wire).2).broken reason) := by
  obtain ⟨body, hcall, hbody⟩ := run_call_body h
  rw [htrip] at hbody
  obtain ⟨a, ha, -⟩ | ⟨e', he, hnot, -⟩ | ⟨e', reason, he, -, hrun⟩ :=
    run_fail_closed k func_name body { c with session := { c.session with state := .IN_CALL } }
  · rw [hbody] at ha
    cases ha
  · rw [hbody] at he
    obtain rfl := Except.error.inj he
    exact absurd hgives hnot
  · rw [hbody] at he hrun
    obtain rfl := Except.error.inj he
    refine ⟨reason, ?_⟩
    rw [hcall, Eff.run_andFinally, Eff.run_bind_error hrun]
    rfl

end Caller

/-! ## A call and its server -/

section Call

variable {χ ψ L : Type} {u : Unicode} {s : Scalars L} {typeName : PyError → PyStr}

/-- A call on which the two sides agree: the client can write it, and its parameters are `given` to
the function that the server has under this interface. -/
structure Agreed (s : Scalars L) (u : Unicode) (typeName : PyError → PyStr)
    (k : Client (Peer χ) ψ (PyVal L)) (srv : RfcServer χ (PyVal L)) (c : Conn (Peer χ) ψ)
    (func_name : PyStr) (desc : FunctionDesc) (params given : Values (PyVal L))
    (tlv frame : Bytes) : Prop where
  platform : k.p = s.platform u typeName
  handle : Redrive.EightBytes c.session
  interface : Interface u desc
  text : IsText func_name
  trimmed : Trimmed func_name
  ordinary : func_name ∉ systemNames
  describes : Describes k.p srv func_name desc
  writable : Writable k c func_name desc params tlv frame
  fitting : Fitting u s
    (supplied u s typeName desc (filter_call_params k.p desc params k.strict_params))
    (filter_call_params k.p desc params k.strict_params)
  carries : Dicts.named_values (carried u s)
    (supplied u s typeName desc (filter_call_params k.p desc params k.strict_params)) = .ok given

variable {k : Client (Peer χ) ψ (PyVal L)} {srv : RfcServer χ (PyVal L)} {handle : GwHandle}
  {c : Conn (Peer χ) ψ} {func_name : PyStr} {desc : FunctionDesc}
  {params given : Values (PyVal L)} {tlv frame : Bytes}

/-- INTERNAL: a request frame is its header, its records and a footer. -/
theorem strip_invoke_frame {sendHandle : Bytes} (hhandle : sendHandle.length = 8)
    (h : build_invoke_frame sendHandle tlv = .ok frame) :
    ∃ footer, strip_gw_header frame = tlv ++ footer := by
  unfold build_invoke_frame at h
  split at h
  · cases h
  · refine ⟨toBE 4 tlv.length ++ [0x00, 0x00, 0x85, 0x00], ?_⟩
    rw [← Except.ok.inj h, List.append_assoc, List.append_assoc]
    refine strip_gw_header_frame ⟨?_, rfl⟩ _
    unfold gw_rfc_header gw_client_tail
    simp only [List.length_append, List.length_replicate, List.length_cons, List.length_nil,
      hhandle]

/-- The server does with the frame what the call does where nothing is written down. -/
theorem run_dispatch_frame (h : Agreed s u typeName k srv c func_name desc params given tlv frame)
    (w : ServerWorld χ) :
    Eff.run (dispatch_inbound k.p srv frame) w =
      ((Eff.run (local_call k.p srv func_name given) w).1.bind (Outcome.answer k.p desc),
        (Eff.run (local_call k.p srv func_name given) w).2) := by
  obtain ⟨footer, hstrip⟩ := strip_invoke_frame (Redrive.length_sendHandle h.handle)
    h.writable.framed
  have hbuild := h.writable.records
  rw [h.platform] at hbuild
  have hfitting := h.fitting
  rw [h.platform] at hfitting
  obtain ⟨hname, hcredentials, hread⟩ := request_read h.interface h.text h.trimmed hfitting hbuild
    footer
  have hcarries := h.carries
  rw [h.platform] at hcarries
  rw [hcarries, ← h.platform] at hread
  rw [← Eff.run_bind_lift]
  refine run_dispatch_inbound_local h.describes h.ordinary ?_ ?_ ?_ w
  · rw [hstrip]
    exact hname
  · rw [hstrip]
    exact hcredentials
  · rw [hstrip]
    exact hread

/-- INTERNAL: whatever is answered is complete. -/
theorem complete_answer {p : Platform (PyVal L)} {outcome : Outcome (PyVal L)} {out : Bytes}
    (h : outcome.answer p desc = .ok out) : Responses.Complete out := by
  cases outcome with
  | result values =>
    have hbuild : build_response p (some desc) values = .ok out := h
    obtain ⟨records, hrecords, hfits, rfl⟩ := Responses.build_response_eq_ok.mp hbuild
    exact Responses.complete_resultStream hrecords hfits
  | failure message => exact Responses.complete_system_failure h

variable (handle) in
/-- INTERNAL: the trip of a call whose answer arrives. -/
theorem run_trip_answered (h : Agreed s u typeName k srv c func_name desc params given tlv frame)
    (htransit : c.wire.transits.head? = some .answered) {outcome : Outcome (PyVal L)}
    {w : ServerWorld χ} {out : Bytes}
    (hlocal : Eff.run (local_call k.p srv func_name given) c.wire.server = (.ok outcome, w))
    (hanswer : outcome.answer k.p desc = .ok out) (hsize : out.length < 256 ^ 4) :
    ∃ reply, wrap_in_0608 out handle.bytes = .ok reply ∧
      Eff.run ((k.toPeer srv handle).seam.round_trip (.frames func_name) frame) c.wire =
        (.ok out, served c.wire frame w (some reply) true) := by
  have hdispatch := run_dispatch_frame h c.wire.server
  rw [hlocal] at hdispatch
  have hout : (Except.ok outcome : Except PyError _).bind (Outcome.answer k.p desc) = .ok out :=
    hanswer
  rw [hout] at hdispatch
  obtain ⟨reply, hreply⟩ : ∃ reply, wrap_in_0608 out handle.bytes = .ok reply :=
    Answers.wrap_in_0608_ok_iff.mpr hsize
  have hcomplete := complete_answer hanswer
  exact ⟨reply, hreply, run_round_trip_answered htransit hdispatch hreply hcomplete⟩

/-- How a call ended, by what became of the request and of its answer. -/
inductive Ended (k : Client (Peer χ) ψ (PyVal L)) (srv : RfcServer χ (PyVal L))
    (handle : GwHandle) (c : Conn (Peer χ) ψ) (func_name : PyStr) (desc : FunctionDesc)
    (params given : Values (PyVal L)) (frame : Bytes) :
    Except PyError (Values (PyVal L)) → Conn (Peer χ) ψ → Prop
  /-- the handler returned, and its answer was read -/
  | returned {values got : Values (PyVal L)} {w : ServerWorld χ} {out reply : Bytes}
      (arrives : c.wire.transits.head? = some .answered)
      (ran : Eff.run (local_call k.p srv func_name given) c.wire.server = (.ok (.result values), w))
      (answered : build_response k.p (some desc) values = .ok out)
      (framed : wrap_in_0608 out handle.bytes = .ok reply)
      (read : decode_result k.p out desc (declaredIds k desc params) = .ok got) :
      Ended k srv handle c func_name desc params given frame
        (.ok (convert_date_time_fields k.p got desc))
        (behind c func_name frame (served c.wire frame w (some reply) true))
  /-- the handler returned, and its answer could not be read: the connection is given up -/
  | unread {values : Values (PyVal L)} {w : ServerWorld χ} {out reply : Bytes}
      {e : PyError} {reason : PyStr}
      (arrives : c.wire.transits.head? = some .answered)
      (ran : Eff.run (local_call k.p srv func_name given) c.wire.server = (.ok (.result values), w))
      (answered : build_response k.p (some desc) values = .ok out)
      (framed : wrap_in_0608 out handle.bytes = .ok reply)
      (unread : decode_result k.p out desc (declaredIds k desc params) = .error e)
      (plain : GivesUp e) :
      Ended k srv handle c func_name desc params given frame (.error (asCommunication e))
        ((behind c func_name frame (served c.wire frame w (some reply) true)).broken reason)
  /-- the server said no, or the handler raised -/
  | failed {message text : PyStr} {w : ServerWorld χ} {out reply : Bytes}
      (arrives : c.wire.transits.head? = some .answered)
      (ran : Eff.run (local_call k.p srv func_name given) c.wire.server =
        (.ok (.failure message), w))
      (answered : build_system_failure message = .ok out)
      (framed : wrap_in_0608 out handle.bytes = .ok reply)
      (read : SingleByte (sanitize_message message) →
        text = rstrip padding (sanitize_message message)) :
      Ended k srv handle c func_name desc params given frame (.error (systemFailure text))
        (behind c func_name frame (served c.wire frame w (some reply) true))
  /-- nothing came back: the connection is given up -/
  | silent {text reason : PyStr} {wire : Peer χ}
      (delivered : Unanswered handle frame
        (Eff.run (local_call k.p srv func_name given >>= fun o => Eff.lift (o.answer k.p desc))
          c.wire.server) c.wire wire) :
      Ended k srv handle c func_name desc params given frame (.error (err .communication text))
        ((behind c func_name frame wire).broken reason)

/-- INTERNAL: what the guard raises is no ABAP error. -/
theorem isAbap_asCommunication {e : PyError} (h : GivesUp e) :
    (asCommunication e).kind.isAbap = false := by
  unfold asCommunication
  split
  · rfl
  · exact h.1

/-- The server failed, could say so, and was heard. -/
def FailureHeard (k : Client (Peer χ) ψ (PyVal L)) (srv : RfcServer χ (PyVal L))
    (c : Conn (Peer χ) ψ) (func_name : PyStr) (given : Values (PyVal L)) : Prop :=
  c.wire.transits.head? = some .answered ∧
    ∃ message w, Responses.Speakable message ∧
      Eff.run (local_call k.p srv func_name given) c.wire.server = (.ok (.failure message), w)

/-- INTERNAL: a failure that is heard is no silence. -/
theorem not_unanswered_of_heard {wire : Peer χ} (h : FailureHeard k srv c func_name given) :
    ¬ Unanswered handle frame
      (Eff.run (local_call k.p srv func_name given >>= fun o => Eff.lift (o.answer k.p desc))
        c.wire.server) c.wire wire := by
  obtain ⟨harrives, message, w, hspeakable, hran⟩ := h
  have hhead : c.wire.transits.headD .request_lost = .answered := by
    rw [List.headD_eq_head?_getD, harrives, Option.getD_some]
  obtain ⟨out, hout⟩ := (Responses.build_system_failure_ok_iff message).mpr hspeakable
  obtain ⟨reply, hreply⟩ := Answers.wrap_in_0608_ok_iff.mpr
      (Responses.length_system_failure_lt hout)
  intro hunanswered
  cases hunanswered with
  | undelivered lost _ =>
    rw [hhead] at lost
    exact absurd lost (by decide)
  | unheard lost _ =>
    rw [hhead] at lost
    cases lost
  | silent _ nothing _ =>
    have hsent : first_sent handle (.ok out) = some reply := by
      unfold first_sent
      show (wrap_in_0608 out handle.bytes).toOption = some reply
      rw [hreply]
      rfl
    rw [Eff.run_bind_ok hran, Eff.run_lift] at nothing
    have hanswer : (Outcome.failure message : Outcome (PyVal L)).answer k.p desc = .ok out := hout
    dsimp only at nothing
    rw [hanswer, hsent] at nothing
    cases nothing

/-- An ABAP error is raised exactly where the server failed and was heard. -/
theorem Ended.abap_iff {r : Except PyError (Values (PyVal L))} {c' : Conn (Peer χ) ψ}
    (h : Ended k srv handle c func_name desc params given frame r c') :
    (∃ e, r = .error e ∧ e.kind.isAbap = true) ↔ FailureHeard k srv c func_name given := by
  cases h with
  | returned _ ran _ _ _ =>
    constructor
    · rintro ⟨e, he, -⟩
      cases he
    · rintro ⟨-, message, w, -, hran⟩
      rw [ran] at hran
      cases hran
  | unread _ ran _ _ _ plain =>
    constructor
    · rintro ⟨e, he, habap⟩
      obtain rfl := Except.error.inj he
      exact absurd (habap.symm.trans (isAbap_asCommunication plain)) (by decide)
    · rintro ⟨-, message, w, -, hran⟩
      rw [ran] at hran
      cases hran
  | failed arrives ran answered _ _ =>
    refine ⟨fun _ => ⟨arrives, _, _, ?_, ran⟩, fun _ => ⟨_, rfl, rfl⟩⟩
    exact (Responses.build_system_failure_ok_iff _).mp ⟨_, answered⟩
  | silent delivered =>
    constructor
    · rintro ⟨e, he, habap⟩
      obtain rfl := Except.error.inj he
      cases habap
    · exact fun hheard => absurd delivered (not_unanswered_of_heard hheard)

/-- INTERNAL: an answer that came is read as a result or as a failure. -/
theorem ended_of_answer (h : Agreed s u typeName k srv c func_name desc params given tlv frame)
    (hscalar : ∀ rfctype data field, Eff.Raises GivesUp (s.decode rfctype data field))
    (htransit : c.wire.transits.head? = some .answered) {outcome : Outcome (PyVal L)}
    {w : ServerWorld χ} {out : Bytes}
    (hlocal : Eff.run (local_call k.p srv func_name given) c.wire.server = (.ok outcome, w))
    (hanswer : outcome.answer k.p desc = .ok out) (hsize : out.length < 256 ^ 4) :
    Ended k srv handle c func_name desc params given frame
      (Eff.run (async_call (k.toPeer srv handle) func_name params) c).1
      (Eff.run (async_call (k.toPeer srv handle) func_name params) c).2 := by
  obtain ⟨reply, hframed, htrip⟩ := run_trip_answered handle h htransit hlocal hanswer hsize
  have hwritable : Writable (k.toPeer srv handle) c func_name desc params tlv frame :=
    ⟨h.writable.ready, h.writable.cached, h.writable.records, h.writable.framed⟩
  have hread : tripResult (k.toPeer srv handle) c func_name desc params frame =
      parse_invoke_response k.p out desc (declaredIds k desc params) := by
    unfold tripResult
    rw [htrip]
    rfl
  cases outcome with
  | failure message =>
    obtain ⟨text, hraised, htext⟩ := failure_read hanswer k.p desc (declaredIds k desc params)
    have hrun := run_async_call_abap hwritable (hread.trans hraised) rfl
    rw [htrip] at hrun
    rw [hrun]
    exact .failed htransit hlocal hanswer hframed htext
  | result values =>
    rw [parse_of_result hanswer] at hread
    cases hparsed : decode_result k.p out desc (declaredIds k desc params) with
    | ok got =>
      have hrun := run_async_call_ok hwritable (hread.trans hparsed)
      rw [htrip] at hrun
      rw [hrun]
      exact .returned htransit hlocal hanswer hframed hparsed
    | error e =>
      have hplain : GivesUp e := by
        rw [h.platform] at hparsed
        exact DecodingErrors.raises_decode_result hscalar out desc _ e hparsed
      obtain ⟨reason, hrun⟩ := run_async_call_broken hwritable (hread.trans hparsed) hplain
      rw [htrip] at hrun
      rw [hrun]
      exact .unread htransit hlocal hanswer hframed hparsed hplain

/-- However the link treats a call, it returns only what its handler returned, and raises an ABAP
error exactly where the server failed and was heard.  The server has run it once or not at all;
where the client cannot know, it gives the connection up. -/
theorem call_ends (h : Agreed s u typeName k srv c func_name desc params given tlv frame)
    (hscalar : ∀ rfctype data field, Eff.Raises GivesUp (s.decode rfctype data field)) :
    Ended k srv handle c func_name desc params given frame
        (Eff.run (async_call (k.toPeer srv handle) func_name params) c).1
        (Eff.run (async_call (k.toPeer srv handle) func_name params) c).2 ∧
      ((∃ e, (Eff.run (async_call (k.toPeer srv handle) func_name params) c).1 = .error e ∧
          e.kind.isAbap = true) ↔ FailureHeard k srv c func_name given) := by
  refine and_iff_left_of_imp (fun hended => hended.abap_iff) |>.mpr ?_
  have hwritable : Writable (k.toPeer srv handle) c func_name desc params tlv frame :=
    ⟨h.writable.ready, h.writable.cached, h.writable.records, h.writable.framed⟩
  have hdispatch := run_dispatch_frame h c.wire.server
  by_cases hanswered : c.wire.transits.headD .request_lost ≠ .answered ∨
      first_sent handle (Eff.run (dispatch_inbound k.p srv frame) c.wire.server).1 = none
  · obtain ⟨e, wire, htrip, htransport, habap, hwent⟩ :=
      run_round_trip_unanswered func_name hanswered
    have hresult : tripResult (k.toPeer srv handle) c func_name desc params frame = .error e := by
      unfold tripResult
      show (Eff.run ((peer_seam k.p srv handle).round_trip (.frames func_name) frame)
        c.wire).1.bind _ = _
      rw [htrip]
      rfl
    obtain ⟨reason, hrun⟩ := run_async_call_broken hwritable hresult
      ⟨habap, ErrKind.isException_of_isTransport htransport⟩
    have hcommunication : asCommunication e = err .communication e.text := by
      unfold asCommunication
      rw [if_pos htransport]
    have hwire : (Eff.run ((k.toPeer srv handle).seam.round_trip (.frames func_name) frame)
        c.wire).2 = wire := congrArg Prod.snd htrip
    rw [hrun, hcommunication, hwire]
    refine .silent ?_
    rw [Eff.run_bind_lift, ← hdispatch]
    exact hwent
  · obtain ⟨out, reply, w, htransit, hanswer, hreply⟩ := answered_of_not hanswered
    rw [hdispatch] at hanswer
    obtain ⟨hout, rfl⟩ := Prod.mk.inj hanswer
    cases hlocal : Eff.run (local_call k.p srv func_name given) c.wire.server with
    | mk ran w =>
      rw [hlocal] at hout
      cases ran with
      | error e => cases hout
      | ok outcome =>
        exact ended_of_answer h hscalar htransit hlocal hout
          (Answers.wrap_in_0608_ok_iff.mp ⟨reply, hreply⟩)

/-! ## An echo -/

/-- A field that goes both ways, and a table. -/
def echoDesc : FunctionDesc :=
  ⟨lit "Z_ECHO", [byteScalar (lit "DATA") RFC_CHANGING, byteTable (lit "ROWS") RFC_TABLES]⟩

def echoParams : Values (PyVal Bytes) :=
  [(lit "rows", .list [rowOf 1 2 3, rowOf 4 5 6]), (lit "data", .leaf [7, 8])]

/-- What comes of them. -/
def echoed : Values (PyVal Bytes) :=
  [(lit "DATA", .leaf [7, 8]), (lit "ROWS", .list [rowOf 1 2 3, rowOf 4 5 6])]

/-- A function that gives back what it is given. -/
def echoServer : RfcServer Tables (PyVal Bytes) :=
  { RfcServer.init tablesTidStore tablesUnitStore with
    registry := [(lit "Z_ECHO", (some echoDesc, ⟨1, false, fun given => pure (some given)⟩))] }

def echoClient : Client (Peer Tables) Tables (PyVal Bytes) where
  p := bytesPlatform
  seam := peer_seam bytesPlatform echoServer DuplicateAnswers.spaces
  snc_mode := false
  strict_params := true
  max_retries := 0
  tid_store := none
  unit_store := none
  fresh_hex := []
  hostname := []
  nonce := []
  redial := fun _ _ _ => throw (err .os (lit "unreachable"))

/-- A connection that has the interface, over a link that delivers the next request. -/
def echoConn : Conn (Peer Tables) Tables :=
  { readyConn ⟨⟨Tables.empty, []⟩, [.answered], none, []⟩ Tables.empty with
    session := ⟨.READY, [], some ⟨lit "S", [], [], [], [], [], [], [], lit "4103", true⟩, none,
      none⟩
    cache := [((lit "S", lit "Z_ECHO"), echoDesc)] }

def echoTlv : Bytes :=
  (build_invoke_request bytesPlatform (lit "Z_ECHO") echoDesc echoParams).toOption.getD []

def echoFrame : Bytes := (build_invoke_frame (List.replicate 8 0x20) echoTlv).toOption.getD []

/-- INTERNAL: rows of these bytes have their width. -/
theorem rowsExact_echo {params : Values (PyVal Bytes)} {es : List (FieldDesc × PyVal Bytes)}
    (h : ∀ e ∈ es, e ∈ [(byteScalar (lit "DATA") RFC_CHANGING, PyVal.leaf [7, 8]),
      (byteTable (lit "ROWS") RFC_TABLES, .list [rowOf 1 2 3, rowOf 4 5 6])])
    (hkeys : (params.map fun e => asciiTables.upper e.1).Nodup) :
    Fitting asciiTables byteScalars es params := by
  refine ⟨hkeys, fun e he htable => ?_⟩
  rcases List.mem_pair.mp (h e he) with rfl | rfl
  · exact absurd htable (show RFCTYPE_XSTRING ≠ RFCTYPE_TABLE by decide)
  · refine rowsExact_byteTable fun row hrow => ?_
    rcases List.mem_pair.mp hrow with rfl | rfl
    · exact ⟨1, 2, 3, rfl⟩
    · exact ⟨4, 5, 6, rfl⟩

theorem echo_agreed : Agreed byteScalars asciiTables (fun _ => []) echoClient echoServer echoConn
    (lit "Z_ECHO") echoDesc echoParams echoed echoTlv echoFrame := by
  have hinterface : Interface asciiTables echoDesc := by
    refine ⟨by decide, fun f hf => ?_, fun f hf => ?_⟩
    · rcases List.mem_pair.mp hf with rfl | rfl
      · exact ⟨by decide, by decide, by decide⟩
      · exact ⟨by decide, by decide, by decide⟩
    · rcases List.mem_pair.mp hf with rfl | rfl
      · exact fun h => absurd h (by decide)
      · exact fun _ => ⟨byteRow, rfl, by decide⟩
  have hdescribes : Describes echoClient.p echoServer (lit "Z_ECHO") echoDesc := by
    intro g entry hentry
    obtain rfl := Option.some.inj (Except.ok.inj hentry)
    rfl
  have hwritable : Writable echoClient echoConn (lit "Z_ECHO") echoDesc echoParams echoTlv
      echoFrame :=
    ⟨rfl, ⟨_, rfl, by decide, rfl⟩, by decide +kernel, by decide +kernel⟩
  have hsupplied : supplied asciiTables byteScalars (fun _ => []) echoDesc echoParams =
      [(byteScalar (lit "DATA") RFC_CHANGING, PyVal.leaf [7, 8]),
        (byteTable (lit "ROWS") RFC_TABLES, .list [rowOf 1 2 3, rowOf 4 5 6])] := rfl
  exact
    { platform := rfl
      handle := by
        intro h hnone
        cases hnone
      interface := hinterface
      text := by decide
      trimmed := rfl
      ordinary := by decide
      describes := hdescribes
      writable := hwritable
      fitting := rowsExact_echo (fun e he => hsupplied ▸ he) (by decide)
      carries := by
        show Dicts.named_values _ (supplied asciiTables byteScalars (fun _ => []) echoDesc
          echoParams) = _
        rw [hsupplied]
        rfl }

/-- And so does the call end. -/
theorem call_ends_echo :
    Ended echoClient echoServer DuplicateAnswers.spaces echoConn (lit "Z_ECHO") echoDesc
        echoParams echoed echoFrame
        (Eff.run (async_call (echoClient.toPeer echoServer DuplicateAnswers.spaces) (lit "Z_ECHO")
          echoParams) echoConn).1
        (Eff.run (async_call (echoClient.toPeer echoServer DuplicateAnswers.spaces) (lit "Z_ECHO")
          echoParams) echoConn).2 ∧
      ((∃ e, (Eff.run (async_call (echoClient.toPeer echoServer DuplicateAnswers.spaces)
          (lit "Z_ECHO") echoParams) echoConn).1 = .error e ∧ e.kind.isAbap = true) ↔
        FailureHeard echoClient echoServer echoConn (lit "Z_ECHO") echoed) :=
  call_ends echo_agreed fun _ data _ => Eff.Raises.ok data

end Call

end SapRfc.Analysis.RemoteCalls
