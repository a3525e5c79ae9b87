import SapRfc.Program.Peer
import SapRfc.Program.SyncConnection
import SapRfc.Analysis.Residue
import SapRfc.Analysis.Shipping

/-!
# The answer to a duplicate

A server that knows a transaction answers a second delivery with `RFC_EXECUTED`.  The client
reads that answer as a failure: it raises, gives up the attempts it has left, and keeps a payload
that is parked.
-/

set_option autoImplicit false

namespace SapRfc.Analysis.DuplicateAnswers

open SapRfc.Library SapRfc.Program

variable {χ ψ V : Type}

/-! ## What the client makes of the answer -/

/-- `AbapSystemFailure("RFC return code 16")` -/
def executed_failure : PyError :=
  AbapSystemFailure (abapDetail [] none (some (lit "RFC return code 16")))

theorem raise_for_executed (u : Unicode) :
    raise_for_rfc_error u (strip_gw_header build_rfc_executed_response) =
      .error executed_failure := by
  have hgateway : ¬ (strip_gw_header build_rfc_executed_response).take 5 = gatewayErrorMarker := by
    decide +kernel
  have htags : parse_tlv_stream (strip_gw_header build_rfc_executed_response) =
      .ok [(Tag.RESPONSE_START, []), (Tag.RETURN_CODE, [0, 0, 0, 16])] := by
    decide +kernel
  unfold raise_for_rfc_error parse_gateway_error
  rw [if_neg hgateway, htags]
  show raise_for_tags [(Tag.RESPONSE_START, []), (Tag.RETURN_CODE, [0, 0, 0, 16])] = _
  decide +kernel

/-- A message that the serve step sends for an answer. -/
def IsReply (handle : GwHandle) (out : Bytes) (message : Option Bytes) : Prop :=
  ∃ frame, wrap_in_0608 out handle.bytes = .ok frame ∧ message = some frame

/-- INTERNAL: the client takes off the header that the server puts in front. -/
theorem strip_wrapped {handle : GwHandle} {out frame : Bytes}
    (h : wrap_in_0608 out handle.bytes = .ok frame) :
    strip_gw_header frame = out := by
  unfold wrap_in_0608 pack_u32 at h
  split at h
  · cases h
  · have hframe := Except.ok.inj h
    rw [← hframe]
    refine strip_gw_header_frame ⟨?_, rfl⟩ out
    simp [handle.length_eq]

/-- INTERNAL: the answer is complete, so no other frame is read. -/
theorem read_executed {frame : Bytes} (func_name : PyStr) (l : Peer χ)
    (hframe : strip_gw_header frame = build_rfc_executed_response)
    (hinbox : l.inbox = some frame) :
    Eff.run ((Reader.frames func_name).read peer_recv) l =
      (.ok build_rfc_executed_response, { l with inbox := none }) := by
  have hread : Eff.run peer_recv l = (.ok frame, { l with inbox := none }) := by
    unfold peer_recv
    rw [Eff.run_mk, hinbox]
  have hcomplete : tlv_stream_status build_rfc_executed_response ≠ .truncated := by
    decide +kernel
  show Eff.run (join_response_frames peer_recv func_name) l = _
  rw [run_join_response_frames hread, hframe, join_loop_of_not_truncated hcomplete]
  rfl

/-! ## One attempt -/

/-- A delivery whose answer is the one to a duplicate, and arrives. -/
def Refuted (handle : GwHandle) (d : Delivery) : Prop :=
  d.arrived = true ∧ IsReply handle build_rfc_executed_response d.answer

/-- Reading leaves the deliveries alone. -/
theorem deliveries_read (reader : Reader) (l : Peer χ) :
    (Eff.run (reader.read peer_recv) l).2.deliveries = l.deliveries := by
  have hrecv : Eff.Keeps (fun l l' : Peer χ => l'.deliveries = l.deliveries) peer_recv := by
    intro l
    unfold peer_recv
    rw [Eff.run_mk]
    split <;> rfl
  exact keeps_read (R := fun l l' : Peer χ => l'.deliveries = l.deliveries) (fun _ => rfl)
    (fun a b c hab hbc => hbc.trans hab) hrecv reader l

variable (p : Platform V) (srv : RfcServer χ V) (handle : GwHandle)

/-- INTERNAL: the ways of a request. -/
theorem peer_send_cases (request : Bytes) (l : Peer χ) :
    (∃ r l', Eff.run (peer_send p srv handle request) l = (r, l') ∧
        l'.deliveries = l.deliveries) ∨
      ∃ answer arrived l', Eff.run (peer_send p srv handle request) l = (.ok (), l') ∧
        l'.deliveries = l.deliveries ++ [⟨request, answer, arrived⟩] ∧
        (arrived = true → l'.inbox = answer) := by
  unfold peer_send
  rw [Eff.run_mk]
  dsimp only
  cases l.transits.headD .request_lost with
  | refused => exact Or.inl ⟨_, _, rfl, rfl⟩
  | request_lost => exact Or.inl ⟨_, _, rfl, rfl⟩
  | answer_lost => exact Or.inr ⟨_, false, _, rfl, rfl, fun h => nomatch h⟩
  | answered => exact Or.inr ⟨_, true, _, rfl, rfl, fun _ => rfl⟩

/-- A request and its reply: at most one delivery, and its answer is the reply. -/
theorem round_trip_deliveries (func_name : PyStr) (request : Bytes) (l : Peer χ) :
    ∃ new,
      (Eff.run ((peer_seam p srv handle).round_trip (.frames func_name) request) l).2.deliveries =
        l.deliveries ++ new ∧
      ((∃ d ∈ new, Refuted handle d) →
        (Eff.run ((peer_seam p srv handle).round_trip (.frames func_name) request) l).1 =
          .ok build_rfc_executed_response) := by
  have hsend : (peer_seam p srv handle).round_trip (.frames func_name) request =
      (peer_send p srv handle request >>= fun _ => (Reader.frames func_name).read peer_recv) := rfl
  rw [hsend, Eff.run_bind]
  rcases peer_send_cases p srv handle request l with
    ⟨r, l', hrun, hsame⟩ | ⟨answer, arrived, l', hrun, hnew, hinbox⟩
  · rw [hrun]
    refine ⟨[], ?_, fun ⟨d, hd, _⟩ => nomatch hd⟩
    rw [List.append_nil, ← hsame]
    cases r with
    | ok _ => exact deliveries_read _ _
    | error e => rfl
  · rw [hrun]
    refine ⟨[⟨request, answer, arrived⟩], ?_, ?_⟩
    · rw [← hnew]
      exact deliveries_read _ _
    · rintro ⟨d, hd, harrived, frame, hframe, hanswer⟩
      obtain rfl := List.mem_singleton.mp hd
      have hfull : l'.inbox = some frame := (hinbox harrived).trans hanswer
      show (Eff.run ((Reader.frames func_name).read peer_recv) l').1 = _
      rw [read_executed func_name l' (strip_wrapped hframe) hfull]

/-! ## A submission -/

/-- What a program adds to the deliveries, and what it makes of the answer to a duplicate. -/
def Gives (handle : GwHandle) (x : Op (Peer χ) ψ Unit) : Prop := ∀ c, ∃ new,
  (Eff.run x c).2.wire.deliveries = c.wire.deliveries ++ new ∧
    ((∃ d ∈ new, Refuted handle d) →
      (Eff.run x c).1 = .error executed_failure ∧ (Eff.run x c).2.user = c.user)

variable (k : Client (Peer χ) ψ V)

/-- INTERNAL: an exchange does nothing to the stores. -/
theorem do_send_user (request : Bytes) (func_name : PyStr) (c : Conn (Peer χ) ψ) :
    (Eff.run (do_send (k.toPeer srv handle) request func_name) c).2.user = c.user := by
  unfold do_send
  rw [Eff.run_bind_lift]
  dsimp only
  rw [run_wrapTransportError, run_exchange]
  cases (Eff.run ((k.toPeer srv handle).seam.round_trip (.frames func_name) request) c.wire).1
  · rfl
  · rfl

/-- One attempt. -/
theorem do_send_gives (request : Bytes) (func_name : PyStr) :
    Gives handle (do_send (k.toPeer srv handle) request func_name) := by
  intro c
  obtain ⟨new, hnew, hanswer⟩ :=
    round_trip_deliveries k.p srv handle func_name request c.wire
  refine ⟨new, ?_, fun hrefuted => ⟨?_, do_send_user srv handle k request func_name c⟩⟩
  · rw [← hnew]
    unfold do_send
    rw [Eff.run_bind_lift]
    dsimp only
    rw [run_wrapTransportError, run_exchange]
    show _ = (Eff.run ((k.toPeer srv handle).seam.round_trip (.frames func_name) request)
      c.wire).2.deliveries
    cases (Eff.run ((k.toPeer srv handle).seam.round_trip (.frames func_name) request) c.wire).1
    · rfl
    · rfl
  · have hok : (Eff.run ((k.toPeer srv handle).seam.round_trip (.frames func_name) request)
        c.wire).1 = .ok build_rfc_executed_response := hanswer hrefuted
    unfold do_send
    rw [Eff.run_bind_lift]
    dsimp only
    rw [run_wrapTransportError, run_exchange, hok]
    exact raise_for_executed k.p.u

/-- INTERNAL: parking delivers nothing. -/
theorem store_park_wire (key : ParkKey) (payload : Bytes) (c : Conn (Peer χ) ψ) :
    (Eff.run (store_park (k.toPeer srv handle) key payload) c).2.wire = c.wire := by
  unfold store_park
  cases key with
  | tid tid => cases (k.toPeer srv handle).tid_store <;> rfl
  | unit unit_id unit_type => cases (k.toPeer srv handle).unit_store <;> rfl

/-- INTERNAL: what the client makes of the answer is no failure of the connection. -/
theorem executed_failure_kind : executed_failure.kind ≠ .communication := by
  decide +kernel

/-- All the attempts: the answer to a duplicate ends them. -/
theorem submit_with_retry_gives (key : ParkKey) (request : Bytes) (func_name : PyStr) :
    ∀ left, Gives handle (submit_with_retry (k.toPeer srv handle) key request
      (do_send (k.toPeer srv handle) request func_name) left) := by
  intro left
  induction left with
  | zero =>
    intro c
    obtain ⟨new, hnew, hanswer⟩ :=
      do_send_gives srv handle k request func_name c
    unfold submit_with_retry
    rw [Eff.run_tryCatch]
    cases hrun : Eff.run (do_send (k.toPeer srv handle) request func_name) c with
    | mk r c' =>
      rw [hrun] at hnew hanswer
      cases r with
      | ok _ => exact ⟨new, hnew, hanswer⟩
      | error exc =>
        dsimp only
        by_cases hkind : exc.kind = .communication
        · rw [if_pos hkind]
          refine ⟨new, ?_, fun hrefuted => ?_⟩
          · rw [← hnew, Eff.run_bind]
            have hwire := store_park_wire srv handle k key request c'
            cases hpark : Eff.run (store_park (k.toPeer srv handle) key request) c' with
            | mk q c'' =>
              rw [hpark] at hwire
              cases q with
              | ok _ => exact congrArg Peer.deliveries hwire
              | error e => exact congrArg Peer.deliveries hwire
          · have hexc := Except.error.inj (hanswer hrefuted).1
            rw [hexc] at hkind
            exact absurd hkind executed_failure_kind
        · rw [if_neg hkind]
          exact ⟨new, hnew, hanswer⟩
  | succ left ih =>
    intro c
    obtain ⟨new, hnew, hanswer⟩ :=
      do_send_gives srv handle k request func_name c
    have huser := do_send_user srv handle k request func_name c
    unfold submit_with_retry
    rw [Eff.run_tryCatch]
    cases hrun : Eff.run (do_send (k.toPeer srv handle) request func_name) c with
    | mk r c' =>
      rw [hrun] at hnew hanswer huser
      cases r with
      | ok _ => exact ⟨new, hnew, hanswer⟩
      | error exc =>
        dsimp only
        by_cases hkind : exc.kind = .communication
        · rw [if_pos hkind]
          obtain ⟨more, hmore, hlater⟩ := ih c'
          refine ⟨new ++ more, ?_, ?_⟩
          · rw [← List.append_assoc, ← hnew]
            exact hmore
          · rintro ⟨d, hd, hrefuted⟩
            rcases List.mem_append.mp hd with hfirst | hsecond
            · have hexc := Except.error.inj (hanswer ⟨d, hfirst, hrefuted⟩).1
              rw [hexc] at hkind
              exact absurd hkind executed_failure_kind
            · obtain ⟨hresult, hsame⟩ := hlater ⟨d, hsecond, hrefuted⟩
              exact ⟨hresult, hsame.trans huser⟩
        · rw [if_neg hkind]
          exact ⟨new, hnew, hanswer⟩

variable {handle} in
/-- INTERNAL: what comes before and touches neither the link nor the stores. -/
theorem gives_bind {α : Type} {x : Op (Peer χ) ψ α} {f : α → Op (Peer χ) ψ Unit}
    (hx : ∀ c, (Eff.run x c).2 = c) (hf : ∀ a, Gives handle (f a)) : Gives handle (x >>= f) := by
  intro c
  have hstate := hx c
  rw [Eff.run_bind]
  cases hrun : Eff.run x c with
  | mk r c' =>
    rw [hrun] at hstate
    obtain rfl : c' = c := hstate
    cases r with
    | ok a => exact hf a c'
    | error e => exact ⟨[], (List.append_nil _).symm, fun ⟨d, hd, _⟩ => nomatch hd⟩

variable {handle} in
/-- INTERNAL: the state of the session hides nothing. -/
theorem gives_in_call {body : Op (Peer χ) ψ Unit} (h : Gives handle body) :
    Gives handle (in_call (k.toPeer srv handle) body) := by
  intro c
  by_cases hready : c.session.state = .READY
  · obtain ⟨new, hnew, hanswer⟩ := h { c with session := { c.session with state := .IN_CALL } }
    rw [run_in_call (k.toPeer srv handle) body hready, Eff.run_andFinally]
    cases hrun : Eff.run body { c with session := { c.session with state := .IN_CALL } } with
    | mk r c' =>
      rw [hrun] at hnew hanswer
      dsimp only
      rw [run_restore_ready]
      exact ⟨new, hnew, hanswer⟩
  · obtain ⟨e, he⟩ := run_in_call_refused (k.toPeer srv handle) body hready
    rw [he]
    exact ⟨[], (List.append_nil _).symm, fun ⟨d, hd, _⟩ => nomatch hd⟩

/-- INTERNAL: a frame is built from the session. -/
theorem invoke_frame_state (request_tlv : Bytes) (c : Conn (Peer χ) ψ) :
    (Eff.run (invoke_frame request_tlv) c).2 = c := rfl

theorem async_submit_gives (key : ParkKey) (build : Except PyError Bytes) (func_name : PyStr) :
    Gives handle (async_submit (k.toPeer srv handle) key build func_name) :=
  gives_in_call srv k (gives_bind (fun _ => rfl) fun request_tlv =>
    gives_bind (invoke_frame_state request_tlv) fun request =>
      submit_with_retry_gives srv handle k key request func_name _)

theorem async_confirm_tid_gives (tid : PyStr) :
    Gives handle (async_confirm_tid (k.toPeer srv handle) tid) :=
  gives_in_call srv k (gives_bind (fun _ => rfl) fun request_tlv =>
    gives_bind (invoke_frame_state request_tlv) fun request =>
      do_send_gives srv handle k request ARFC_DEST_CONFIRM)

theorem async_resend_gives (key : ParkKey) (payload : Bytes) (func_name : PyStr) :
    Gives handle (async_resend (k.toPeer srv handle) key payload func_name) :=
  gives_in_call srv k (submit_with_retry_gives srv handle k key payload func_name _)

/-- Nothing is parked and nothing is deleted; a retry has read its payload. -/
def NothingDeleted (k : Client (Peer χ) ψ V) (s : Submitted χ ψ) : Prop :=
  match s.call with
  | .retry_parked tid => ∀ store, k.tid_store = some store →
      s.after.user = (Eff.run (store.get_parked tid) s.before.user).2
  | _ => s.after.user = s.before.user

/-- INTERNAL: a retry that meets the answer to a duplicate stops before the payload goes. -/
theorem retry_parked_gives (tid : PyStr) (c : Conn (Peer χ) ψ) :
    ∃ new, (Eff.run (async_retry_parked (k.toPeer srv handle) tid) c).2.wire.deliveries =
        c.wire.deliveries ++ new ∧
      ((∃ d ∈ new, Refuted handle d) →
        (Eff.run (async_retry_parked (k.toPeer srv handle) tid) c).1 = .error executed_failure ∧
        ∀ store, k.tid_store = some store →
          (Eff.run (async_retry_parked (k.toPeer srv handle) tid) c).2.user =
            (Eff.run (store.get_parked tid) c.user).2) := by
  have hstore : (k.toPeer srv handle).tid_store = k.tid_store := rfl
  unfold async_retry_parked
  rw [hstore]
  cases k.tid_store with
  | none => exact ⟨[], (List.append_nil _).symm, fun ⟨d, hd, _⟩ => nomatch hd⟩
  | some store =>
    dsimp only
    rw [Eff.run_bind]
    unfold onStore
    rw [Eff.run_zoom]
    cases hget : Eff.run (store.get_parked tid) c.user with
    | mk r g =>
      cases r with
      | error e => exact ⟨[], (List.append_nil _).symm, fun ⟨d, hd, _⟩ => nomatch hd⟩
      | ok payload =>
        cases payload with
        | none => exact ⟨[], (List.append_nil _).symm, fun ⟨d, hd, _⟩ => nomatch hd⟩
        | some payload =>
          dsimp only
          obtain ⟨new, hnew, hanswer⟩ := async_resend_gives srv handle k (.tid tid) payload
            (lit "retry " ++ tid) { c with user := g }
          rw [Eff.run_bind]
          cases hrun : Eff.run (async_resend (k.toPeer srv handle) (.tid tid) payload
            (lit "retry " ++ tid)) { c with user := g } with
          | mk q c' =>
            rw [hrun] at hnew hanswer
            refine ⟨new, ?_, fun hrefuted => ?_⟩
            · rw [← hnew]
              cases q with
              | ok _ => rfl
              | error e => rfl
            · obtain ⟨hresult, huser⟩ := hanswer hrefuted
              dsimp only at hresult huser
              subst hresult
              refine ⟨rfl, fun store' hstore' => ?_⟩
              obtain rfl := Option.some.inj hstore'
              rw [hget]
              exact huser

/-- What a call adds to the deliveries, and how the answer to a duplicate ends it. -/
theorem callOnce_gives (call : ClientCall × List Transit) (c : Conn (Peer χ) ψ) :
    ∃ new, (callOnce srv handle k call c).after.wire.deliveries =
        (callOnce srv handle k call c).before.wire.deliveries ++ new ∧
      ((∃ d ∈ new, Refuted handle d) →
        (callOnce srv handle k call c).result = .error executed_failure ∧
          NothingDeleted k (callOnce srv handle k call c)) := by
  obtain ⟨call, transits⟩ := call
  cases call with
  | call_transactional func_name tid queue =>
    exact async_submit_gives srv handle k (.tid tid) _ func_name { c with wire := { c.wire with
      transits := transits } }
  | retry_parked tid =>
    exact retry_parked_gives srv handle k tid
      { c with wire := { c.wire with transits := transits } }
  | confirm_tid tid =>
    exact async_confirm_tid_gives srv handle k tid
      { c with wire := { c.wire with transits := transits } }

/-! ## Runs -/

/-- In this call a request that the server has executed before, with its answer lost, reaches it
again, and the answer to the duplicate arrives. -/
def Redelivered (handle : GwHandle) (s : Submitted χ ψ) : Prop :=
  ∃ earlier d later, s.after.wire.deliveries = earlier ++ d :: later ∧
    s.before.wire.deliveries.length ≤ earlier.length ∧ Refuted handle d ∧
    ∃ d₀ ∈ earlier, d₀.request = d.request ∧ d₀.arrived = false ∧
      IsReply handle build_rfc_ok_response d₀.answer

/-- The call returns, and no payload stays parked for its TID. -/
def TreatedAsDone (k : Client (Peer χ) ψ V) (s : Submitted χ ψ) : Prop :=
  s.result = .ok () ∧ ∀ store, k.tid_store = some store →
    (Eff.run (store.get_parked s.call.tid) s.after.user).1 = .ok none

/-- INTERNAL: a step of a run is a call. -/
theorem mem_callAll {calls : List (ClientCall × List Transit)} :
    ∀ {c : Conn (Peer χ) ψ} {s : Submitted χ ψ}, s ∈ callAll srv handle k calls c →
      ∃ call c', s = callOnce srv handle k call c' := by
  induction calls with
  | nil => intro c s hs; cases hs
  | cons call calls ih =>
    intro c s hs
    rcases List.mem_cons.mp hs with rfl | hrest
    · exact ⟨call, c, rfl⟩
    · exact ih hrest

/-- SOURCE: server.py:1374-1390, invoke.py:1110-1126, connection.py:5169-5292 and
connection.py:5463-5523.  Wherever in a run the answer to a duplicate arrives, the call raises,
and a parked payload stays. -/
theorem duplicate_never_done (k : Client (Peer χ) ψ V) (srv : RfcServer χ V) (handle : GwHandle)
    (calls : List (ClientCall × List Transit)) (c : Conn (Peer χ) ψ) {s : Submitted χ ψ}
    (run : s ∈ callAll srv handle k calls c) (duplicate : Redelivered handle s) :
    s.result = .error executed_failure ∧ NothingDeleted k s ∧ ¬ TreatedAsDone k s := by
  obtain ⟨call, c', rfl⟩ := mem_callAll srv handle k run
  obtain ⟨new, hnew, hanswer⟩ :=
    callOnce_gives srv handle k call c'
  obtain ⟨earlier, d, later, hall, hlength, hrefuted, -⟩ := duplicate
  have hmem : d ∈ new := by
    have hdrop := congrArg (List.drop
      (callOnce srv handle k call c').before.wire.deliveries.length) (hnew.symm.trans hall)
    rw [List.drop_left, List.drop_append_of_le_length hlength] at hdrop
    rw [hdrop]
    exact List.mem_append_right _ List.mem_cons_self
  obtain ⟨hresult, hkept⟩ := hanswer ⟨d, hmem, hrefuted⟩
  refine ⟨hresult, hkept, fun hdone => ?_⟩
  rw [hdone.1] at hresult
  cases hresult

/-! ## Two runs -/

/-- Eight blanks. -/
def spaces : GwHandle := ⟨List.replicate 8 0x20, rfl⟩

/-- A client with its stores in memory, and `Z_FM` on the other side. -/
def plainPeer (max_retries : ℕ) : Client (Peer (Process Unit)) Tables Bytes where
  p := plainPlatform
  seam := peer_seam plainPlatform Residue.plainApp.server spaces
  snc_mode := false
  strict_params := true
  max_retries := max_retries
  tid_store := some tablesTidStore
  unit_store := some tablesUnitStore
  fresh_hex := []
  hostname := []
  nonce := []
  redial := fun _ _ _ => throw (err .os (lit "unreachable"))

def peerStart : Conn (Peer (Process Unit)) Tables :=
  readyConn ⟨newWorld (), [], none, []⟩ Tables.empty

def duplicateTid : PyStr := lit "0A0B0C0D0E0F101112131415"

/-- The answer to the first delivery is lost, and the client retries. -/
def retriedCalls : List (ClientCall × List Transit) :=
  [(.call_transactional (lit "Z_FM") duplicateTid none, [.answer_lost, .answered])]

/-- The same without a retry: the payload is parked, and sent again later. -/
def parkedCalls : List (ClientCall × List Transit) :=
  [(.call_transactional (lit "Z_FM") duplicateTid none, [.answer_lost]),
    (.retry_parked duplicateTid, [.answered])]

/-- What goes over the link. -/
def shipRequest : Bytes :=
  (build_trfc_request plainPlatform.u duplicateTid (lit "Z_FM") none >>=
    build_invoke_frame spaces.bytes).toOption.getD []

def replyFrame (out : Bytes) : Bytes := (wrap_in_0608 out spaces.bytes).toOption.getD []

/-- The server executes the request, and its answer is lost. -/
def firstDelivery : Delivery :=
  ⟨shipRequest, some (replyFrame build_rfc_ok_response), false⟩

/-- The server knows the request, and its answer arrives. -/
def secondDelivery : Delivery :=
  ⟨shipRequest, some (replyFrame build_rfc_executed_response), true⟩

/-- INTERNAL: a call behind which both have been made. -/
theorem redelivered_of_both {s : Submitted (Process Unit) Tables}
    (hafter : s.after.wire.deliveries = [firstDelivery, secondDelivery])
    (hbefore : s.before.wire.deliveries.length ≤ 1) : Redelivered spaces s := by
  have hok : IsReply spaces build_rfc_ok_response firstDelivery.answer :=
    ⟨replyFrame build_rfc_ok_response, by decide +kernel, rfl⟩
  have hexecuted : IsReply spaces build_rfc_executed_response secondDelivery.answer :=
    ⟨replyFrame build_rfc_executed_response, by decide +kernel, rfl⟩
  exact ⟨[firstDelivery], secondDelivery, [], hafter, hbefore, ⟨rfl, hexecuted⟩, firstDelivery,
    List.mem_cons_self, rfl, rfl, hok⟩

/-- The retry inside the call. -/
def retriedCall : Submitted (Process Unit) Tables :=
  callOnce Residue.plainApp.server spaces (plainPeer 1)
    (.call_transactional (lit "Z_FM") duplicateTid none, [.answer_lost, .answered]) peerStart

theorem retriedCall_redelivered : Redelivered spaces retriedCall := by
  refine redelivered_of_both ?_ (Nat.zero_le 1)
  decide +kernel

theorem duplicate_never_done_retriedCall :
    retriedCall.result = .error executed_failure ∧ NothingDeleted (plainPeer 1) retriedCall ∧
      ¬ TreatedAsDone (plainPeer 1) retriedCall :=
  duplicate_never_done (plainPeer 1) Residue.plainApp.server spaces retriedCalls peerStart
    List.mem_cons_self retriedCall_redelivered

/-- The later call with the parked payload. -/
def parkedCall : Submitted (Process Unit) Tables :=
  callOnce Residue.plainApp.server spaces (plainPeer 0) (.retry_parked duplicateTid, [.answered])
    (callOnce Residue.plainApp.server spaces (plainPeer 0)
      (.call_transactional (lit "Z_FM") duplicateTid none, [.answer_lost]) peerStart).after

/-- Neither the retry nor the parked payload comes to an end. -/
theorem duplicate_is_not_accepted :
    ¬ (∀ s ∈ callAll Residue.plainApp.server spaces (plainPeer 1) retriedCalls peerStart,
        Redelivered spaces s → TreatedAsDone (plainPeer 1) s) ∧
      ¬ (∀ s ∈ callAll Residue.plainApp.server spaces (plainPeer 0) parkedCalls peerStart,
        Redelivered spaces s → TreatedAsDone (plainPeer 0) s) ∧
      (parkedCall.after.user.1.parked duplicateTid).isSome = true := by
  have hretried : retriedCall.result ≠ .ok () := by decide +kernel
  have hparked : parkedCall.result ≠ .ok () := by decide +kernel
  have hredelivered : Redelivered spaces parkedCall := by
    refine redelivered_of_both ?_ ?_
    · decide +kernel
    · decide +kernel
  refine ⟨fun h => ?_, fun h => ?_, ?_⟩
  · exact hretried (h retriedCall List.mem_cons_self retriedCall_redelivered).1
  · have hmem : parkedCall ∈
        callAll Residue.plainApp.server spaces (plainPeer 0) parkedCalls peerStart :=
      List.mem_cons_of_mem _ List.mem_cons_self
    exact hparked (h parkedCall hmem hredelivered).1
  · decide +kernel

end SapRfc.Analysis.DuplicateAnswers
