import SapRfc.Program.SyncConnection
import SapRfc.Analysis.Reassembly

/-!
# The two connections

`AsyncConnection` and `Connection` look up an interface and its structures with the same
requests and the same readers of a reply, but the asynchronous twin reads one frame where
the synchronous one joins the frames of a reply.  Over replies of one frame each the two go
in step, request by request; a reply of several leaves frames in the stream, and the next
request of the asynchronous connection finds them there.  Their pings differ in what the guard
covers: of the synchronous one it covers the reply alone.
-/

set_option autoImplicit false

namespace SapRfc.Analysis.Twins

open SapRfc.Library SapRfc.Program SapRfc.Analysis.Reassembly

variable {ω χ V : Type}

/-! ## Two pings -/

section Ping

variable {k : Client ω χ V} {c : Conn ω χ} {tlv frame : Bytes} {e : PyError} {w : ω}

/-- INTERNAL: a request that cannot be sent. -/
theorem run_send_request_error (purpose : Purpose) (reader : Reader)
    (hsend : Eff.run (k.seam.send_message frame) c.wire = (.error e, w)) :
    Eff.run (send_request k purpose reader frame) c = (.error e,
      { c with wire := w, trips := c.trips ++ [⟨purpose, reader, frame, c.wire⟩] }) := by
  unfold send_request onWire
  rw [Eff.run_bind_ok (Eff.run_update _ _), Eff.run_zoom]
  simp only [hsend]

/-- Where its request cannot be sent, the asynchronous ping gives the connection up.  The
synchronous one sends it in front of its guard, and leaves the session as it was. -/
theorem ping_send_fails (hready : c.session.state = .READY) (hws : c.is_ws = false)
    (hsnc : k.snc_mode = false) (htlv : rfcping_request_tlv k = .ok tlv)
    (hframe : (Eff.run (invoke_frame tlv) c).1 = .ok frame)
    (hsend : Eff.run (k.seam.send_message frame) c.wire = (.error e, w)) (hgives : GivesUp e) :
    (∃ c', Eff.run (sync_ping k) c = (.error e, c') ∧ c'.session = c.session) ∧
      ∃ c', Eff.run (async_ping k) c = (.error (asCommunication e), c') ∧
        c'.session.state = .BROKEN := by
  have hinvoke : Eff.run (invoke_frame tlv)
      { c with session := { c.session with state := .IN_CALL } } =
        (.ok frame, { c with session := { c.session with state := .IN_CALL } }) :=
    congrArg (·, { c with session := { c.session with state := .IN_CALL } }) hframe
  have hsession : ({ c.session with state := .READY } : Session) = c.session := by
    rw [← hready]
  have hrequest := fun reader => @run_send_request_error _ _ _ k
    { c with session := { c.session with state := .IN_CALL } } frame e w .ping reader hsend
  constructor
  · have hplain : ¬ (c.is_ws = true ∧ c.session.state = .WS_PENDING) := by
      rw [hws]
      exact fun h => Bool.false_ne_true h.1
    have hmessage : (if c.is_ws = true then tlv else wire_frame k frame) = frame := by
      unfold wire_frame
      rw [hws, hsnc]
      rfl
    unfold sync_ping
    rw [Eff.run_bind_ok (Eff.run_state _), if_neg hplain, run_in_call k _ hready,
      Eff.run_andFinally, htlv, Eff.run_bind_ok (Eff.run_lift _ _), Eff.run_bind_ok hinvoke,
      hmessage, Eff.run_bind_error (hrequest _)]
    exact ⟨_, rfl, hsession⟩
  · have hexchange : (Eff.run (exchange k .ping .frame frame)
        { c with session := { c.session with state := .IN_CALL } }).1 = .error e := by
      unfold exchange
      rw [Eff.run_bind_error (hrequest _)]
    obtain ⟨a, ha, -⟩ | ⟨e', he', hnot, -⟩ | ⟨e', reason, he', -, hguard⟩ :=
      run_fail_closed k (lit "RFCPING") (exchange k .ping .frame frame)
        { c with session := { c.session with state := .IN_CALL } }
    · rw [hexchange] at ha
      cases ha
    · rw [hexchange] at he'
      obtain rfl := Except.error.inj he'
      exact absurd hgives hnot
    · rw [hexchange] at he'
      obtain rfl := Except.error.inj he'
      unfold async_ping
      rw [run_in_call k _ hready, Eff.run_andFinally, htlv, Eff.run_bind_ok (Eff.run_lift _ _),
        Eff.run_bind_ok hinvoke, Eff.run_bind_error hguard]
      exact ⟨_, rfl, rfl⟩

end Ping

/-! ## Two lookups in step -/

/-- The same reply, once a gateway header is taken off. -/
def SameBody (response response' : Bytes) : Prop :=
  strip_gw_header response = strip_gw_header response'

/-- A relation between two connections that lookups keep: they agree on what a lookup reads, and
a layout may be filed in both. -/
structure InStep (R : Conn ω χ → Conn ω χ → Prop) : Prop where
  session : ∀ c c', R c c' → c'.session = c.session
  layouts : ∀ c c', R c c' → c'.struct_cache = c.struct_cache
  file : ∀ c c' layouts, R c c' →
    R { c with struct_cache := layouts } { c' with struct_cache := layouts }

section InStep

variable (k : Client ω χ V)

theorem interface_rows_congr {response response' : Bytes} (h : SameBody response response')
    (mode : Bool) : interface_rows k response mode = interface_rows k response' mode := by
  unfold SameBody at h
  simp only [interface_rows, parse_gfi_params_rows, metadata_reply_succeeded, h]

theorem parse_ddif_dfies_rows_congr {response response' : Bytes} (h : SameBody response response') :
    parse_ddif_dfies_rows k.p response = parse_ddif_dfies_rows k.p response' := by
  unfold SameBody at h
  simp only [parse_ddif_dfies_rows, h]

theorem parse_dfies_rows_congr {response response' : Bytes} (h : SameBody response response') :
    parse_dfies_rows k.p response = parse_dfies_rows k.p response' := by
  unfold SameBody at h
  simp only [parse_dfies_rows, h]

variable {k} {R : Conn ω χ → Conn ω χ → Prop} {trip trip' : RoundTrip ω χ V}
  (h : InStep R)
  (htrip : ∀ purpose name desc params,
    Eff.Matches R SameBody (trip purpose name desc params) (trip' purpose name desc params))

include htrip in
theorem matches_struct_via_ddif (tabname : PyStr) (mode : Bool) :
    Eff.Matches R Eq (struct_via_ddif k trip tabname mode)
      (struct_via_ddif k trip' tabname mode) := by
  unfold struct_via_ddif
  refine (htrip _ _ _ _).bind fun response response' hbody => ?_
  rw [parse_ddif_dfies_rows_congr k hbody, show strip_gw_header response = _ from hbody]
  refine (Eff.Matches.lift _).bind fun _ _ _ => (Eff.Matches.lift _).bind fun rows rows' hrows => ?_
  rw [hrows]
  refine Eff.Matches.ite _ (Eff.Matches.pure rfl) ?_
  refine (Eff.Matches.lift _).bind fun td td' htd => ?_
  rw [htd]
  exact Eff.Matches.pure rfl

include htrip in
theorem matches_struct_via_rsd (tabname : PyStr) (mode : Bool) :
    Eff.Matches R Eq (struct_via_rsd k trip tabname mode)
      (struct_via_rsd k trip' tabname mode) := by
  unfold struct_via_rsd
  refine (htrip _ _ _ _).bind fun response response' hbody => ?_
  rw [parse_dfies_rows_congr k hbody, show strip_gw_header response = _ from hbody]
  refine (Eff.Matches.lift _).bind fun _ _ _ => (Eff.Matches.lift _).bind fun rows rows' hrows => ?_
  rw [hrows]
  exact Eff.Matches.lift _

include h in
theorem matches_unicode_mode :
    Eff.Matches R Eq (unicode_mode : Op ω χ Bool) unicode_mode := by
  refine Eff.Matches.bind_state fun c c' hc => ?_
  rw [h.session c c' hc]
  exact Eff.Matches.pure rfl

include h in
theorem matches_invoke_frame (request_tlv : Bytes) :
    Eff.Matches R Eq (invoke_frame request_tlv : Op ω χ Bytes) (invoke_frame request_tlv) := by
  refine Eff.Matches.bind_state fun c c' hc => ?_
  rw [h.session c c' hc]
  exact Eff.Matches.lift _

include h htrip in
theorem matches_struct_bootstrap (is_ws : Bool) (tabname : PyStr) :
    Eff.Matches R Eq (struct_bootstrap k trip is_ws tabname)
      (struct_bootstrap k trip' is_ws tabname) := by
  unfold struct_bootstrap
  refine (matches_unicode_mode h).bind fun mode mode' hmode => ?_
  rw [hmode]
  refine Eff.Matches.ite _ (matches_struct_via_rsd htrip _ _) ?_
  have hcaught : ∀ exc : PyError,
      Eff.Matches R Eq
        (if exc.kind.isAbap then pure none else throw exc : Op ω χ (Option TypeDesc))
        (if exc.kind.isAbap then pure none else throw exc) := fun exc =>
    Eff.Matches.ite _ (Eff.Matches.pure rfl) (Eff.Matches.throw exc)
  refine ((matches_struct_via_ddif htrip tabname _).tryCatch hcaught).bind fun td td' htd => ?_
  rw [htd]
  cases td' with
  | some td => exact Eff.Matches.pure rfl
  | none => exact matches_struct_via_rsd htrip _ _

variable {bootstrap bootstrap' : PyStr → Op ω χ TypeDesc}
  (hboot : ∀ tabname, Eff.Matches R Eq (bootstrap tabname) (bootstrap' tabname))

include h hboot in
theorem matches_fetch_layout (tabname : PyStr) :
    Eff.Matches R Eq (fetch_layout bootstrap tabname) (fetch_layout bootstrap' tabname) := by
  unfold fetch_layout
  refine Eff.Matches.bind_state fun c c' hc => ?_
  rw [h.layouts c c' hc]
  refine Eff.Matches.ite _ (Eff.Matches.pure rfl) ?_
  have hattempt : Eff.Matches R Eq (attempt (bootstrap tabname))
      (attempt (bootstrap' tabname)) := by
    unfold attempt
    refine Eff.Matches.tryCatch ((hboot tabname).bind fun td td' htd => ?_) fun exc =>
      Eff.Matches.ite _ (Eff.Matches.pure rfl) (Eff.Matches.throw exc)
    rw [htd]
    exact Eff.Matches.pure rfl
  refine hattempt.bind fun td td' htd => ?_
  rw [htd]
  cases td' with
  | error e => exact Eff.Matches.pure rfl
  | ok td =>
    refine Eff.Matches.update fun d d' hd => ?_
    rw [h.layouts d d' hd]
    exact h.file d d' _ hd

include h hboot in
/-- The parameters in their order: by induction, one layout after the other. -/
theorem matches_resolve_layouts (params : List (FieldDesc × PyStr)) :
    Eff.Matches R Eq (resolve_layouts bootstrap params) (resolve_layouts bootstrap' params) := by
  have hlast : ∀ (fd : FieldDesc) (tabname : PyStr) (rest : List (FieldDesc × PyStr)),
      Eff.Matches R Eq (resolve_layouts bootstrap rest) (resolve_layouts bootstrap' rest) →
      Eff.Matches R Eq (do
          let c ← Eff.state
          let td := if tabname = [] then none else assocGet c.struct_cache tabname
          let fds ← resolve_layouts bootstrap rest
          pure ({ fd with type_desc := td } :: fds))
        (do
          let c ← Eff.state
          let td := if tabname = [] then none else assocGet c.struct_cache tabname
          let fds ← resolve_layouts bootstrap' rest
          pure ({ fd with type_desc := td } :: fds)) := by
    intro fd tabname rest ih
    refine Eff.Matches.bind_state fun c c' hc => ?_
    rw [h.layouts c c' hc]
    refine ih.bind fun fds fds' hfds => ?_
    rw [hfds]
    exact Eff.Matches.pure rfl
  induction params with
  | nil => exact Eff.Matches.pure rfl
  | cons param rest ih =>
    obtain ⟨fd, tabname⟩ := param
    unfold resolve_layouts
    by_cases htab : tabname = []
    · simp only [htab, ne_eq, not_true, if_false]
      exact hlast fd [] rest ih
    · simp only [ne_eq, htab, not_false_eq_true, if_true]
      refine (matches_fetch_layout h hboot tabname).bind fun _ _ _ => ?_
      have hthen := hlast fd tabname rest ih
      simp only [if_neg htab] at hthen
      exact hthen

include h hboot in
theorem matches_describe (func_name : PyStr) (rows : List ParamsRow) :
    Eff.Matches R Eq (describe k bootstrap func_name rows)
      (describe k bootstrap' func_name rows) := by
  unfold describe
  refine (matches_resolve_layouts h hboot _).bind fun fds fds' hfds => ?_
  rw [hfds]
  exact Eff.Matches.pure rfl

/-- The lookup of an interface over one way to make a request. -/
def bootstrap_over (k : Client ω χ V) (trip : RoundTrip ω χ V) (func_name : PyStr) :
    Op ω χ FunctionDesc := do
  let mode ← unicode_mode
  let response ← trip .interface GET_FUNCTION_INTERFACE (bootstrap_desc mode)
    [(lit "FUNCNAME", k.p.codec.ofStr func_name)]
  let rows ← Eff.lift (interface_rows k response mode)
  describe k (struct_bootstrap k trip false) func_name rows

include h htrip in
theorem matches_bootstrap_over (func_name : PyStr) :
    Eff.Matches R Eq (bootstrap_over k trip func_name) (bootstrap_over k trip' func_name) := by
  unfold bootstrap_over
  refine (matches_unicode_mode h).bind fun mode mode' hmode => ?_
  rw [hmode]
  refine (htrip _ _ _ _).bind fun response response' hbody => ?_
  rw [interface_rows_congr k hbody]
  refine (Eff.Matches.lift _).bind fun rows rows' hrows => ?_
  rw [hrows]
  exact matches_describe h (fun tabname => matches_struct_bootstrap h htrip false tabname) _ _

/-! ## The two connections -/

variable (hws : ∀ c c', R c c' → c.is_ws = false)
  {trip₁ : RoundTrip ω χ V}
  (hsync : ∀ purpose name desc params, Eff.Matches R SameBody
    (sync_round_trip k purpose name desc params) (trip₁ purpose name desc params))

include h hws hsync in
theorem matches_call_struct_bootstrap (tabname : PyStr) :
    Eff.Matches R Eq (call_struct_bootstrap k tabname)
      (struct_bootstrap k trip₁ false tabname) := by
  have hstep := matches_struct_bootstrap (k := k) h hsync false tabname
  intro c c' hc
  have hrun : Eff.run (call_struct_bootstrap k tabname) c =
      Eff.run (struct_bootstrap k (sync_round_trip k) false tabname) c := by
    show Eff.run (struct_bootstrap k (sync_round_trip k) c.is_ws tabname) c = _
    rw [hws c c' hc]
  rw [hrun]
  exact hstep c c' hc

include h hws hsync in
theorem matches_call_bootstrap (func_name : PyStr) :
    Eff.Matches R Eq (call_bootstrap k func_name) (bootstrap_over k trip₁ func_name) := by
  unfold call_bootstrap bootstrap_over
  refine (matches_unicode_mode h).bind fun mode mode' hmode => ?_
  rw [hmode]
  intro c c' hc
  have hclassic : ¬ (c.is_ws = true ∧ c.session.state = .WS_PENDING) := by
    rw [hws c c' hc]
    exact fun hboth => Bool.false_ne_true hboth.1
  show R (Eff.run (if c.is_ws = true ∧ c.session.state = .WS_PENDING then _ else _) c).2 _ ∧
    Eff.Alike Eq (Eff.run (if c.is_ws = true ∧ c.session.state = .WS_PENDING then _ else _) c).1 _
  rw [if_neg hclassic]
  refine Eff.Matches.bind (hsync _ _ _ _) (fun response response' hbody => ?_) c c' hc
  rw [interface_rows_congr k hbody]
  refine (Eff.Matches.lift _).bind fun rows rows' hrows => ?_
  rw [hrows]
  exact matches_describe h (matches_call_struct_bootstrap h hws hsync) _ _

end InStep

/-! ## Replies in frames -/

/-- A stream of frames: those that were not read, and those of each reply to come. -/
structure Script where
  queue : List Bytes
  replies : List (List Bytes)
  deriving DecidableEq

/-- A transport to a server that answers one request after another with these replies. -/
def scriptSeam : Seam Script where
  send_message payload := do
    let _ ← Eff.lift (build_ni_frame payload)
    Eff.update fun s => ⟨s.queue ++ s.replies.headD [], s.replies.tail⟩
  recv_message := Eff.zoom Script.queue (fun queue s => { s with queue := queue }) readQueued
  sleep := pure ()
  drain_queued_close := pure none
  close := pure ()

/-- The synchronous connection reads a reply to its end, and takes nothing of what it read for a
header again: a body that begins like a header, with `0x06`, is stripped twice, and is none of
these. -/
def Reassembled (frames : List Bytes) : Prop :=
  ∃ body, strip_gw_header body = body ∧
    ∀ func_name, Eff.run (join_response_frames readQueued func_name) frames = (.ok body, [])

/-- A connection on classic TCP whose server answers from a script. -/
structure ScriptClient (χ V : Type) extends Client Script χ V where
  seam_eq : seam = scriptSeam
  classic : snc_mode = false

section Script

/-- INTERNAL: a reply is read from the script as from a list of frames. -/
theorem run_join_script {frames : List Bytes} {body : Bytes} {func_name : PyStr}
    (h : Eff.run (join_response_frames readQueued func_name) frames = (.ok body, []))
    (replies : List (List Bytes)) :
    Eff.run (join_response_frames scriptSeam.recv_message func_name) ⟨frames, replies⟩ =
      (.ok body, ⟨[], replies⟩) := by
  have htracks : Eff.Tracks (fun s frames => s = (⟨frames, replies⟩ : Script)) (fun _ => False)
      (join_response_frames scriptSeam.recv_message func_name)
      (join_response_frames readQueued func_name) := by
    refine tracks_join_response_frames ?_
    rintro s frames rfl
    refine .inl ⟨rfl, rfl⟩
  cases htracks ⟨frames, replies⟩ frames rfl with
  | inl hsame =>
    obtain ⟨hresult, hstate⟩ := hsame
    rw [h] at hresult hstate
    exact Prod.ext hresult hstate
  | inr hfalse =>
    obtain ⟨_, -, hfalse⟩ := hfalse
    exact hfalse.elim

/-- INTERNAL: a reply of one frame is that frame's body. -/
theorem Reassembled.single {raw : Bytes} (h : Reassembled [raw]) (func_name : PyStr) :
    Eff.run (join_response_frames readQueued func_name) [raw] = (.ok (strip_gw_header raw), []) ∧
      strip_gw_header (strip_gw_header raw) = strip_gw_header raw := by
  obtain ⟨body, hbody, hread⟩ := h
  have hread := hread func_name
  have hfirst : Eff.run readQueued [raw] = (.ok raw, []) := rfl
  rw [run_join_response_frames hfirst] at hread ⊢
  by_cases hshort : tlv_stream_status (strip_gw_header raw) = .truncated
  · exfalso
    unfold join_loop at hread
    rw [if_neg (not_not.mpr hshort)] at hread
    by_cases hfinal : frame_reports_itself_final raw = some true
    · rw [if_pos hfinal] at hread
      cases hread
    · rw [if_neg hfinal] at hread
      have hempty : Eff.run readQueued [] = (.error (err .eof (lit "connection closed")), []) := rfl
      rw [Eff.run_bind_error hempty] at hread
      cases hread
  · rw [join_loop_of_not_truncated hshort] at hread ⊢
    cases hread
    exact ⟨rfl, hbody⟩

/-- INTERNAL: what the transport makes of a request, up to the reader. -/
theorem run_script_trip (reader : Reader) (request : Bytes) (s : Script) :
    Eff.run (scriptSeam.round_trip reader request) s =
      match build_ni_frame request with
      | .error e => (.error e, s)
      | .ok _ => Eff.run (reader.read scriptSeam.recv_message)
        ⟨s.queue ++ s.replies.headD [], s.replies.tail⟩ := by
  unfold Seam.round_trip scriptSeam
  rw [Eff.run_bind, Eff.run_bind, Eff.run_lift]
  cases build_ni_frame request <;> rfl

/-- Over replies of one frame the two readers leave the stream alike. -/
theorem round_trips_alike {s : Script} (hqueue : s.queue = [])
    (hsingle : ∀ r ∈ s.replies, r.length = 1 ∧ Reassembled r) (name : PyStr) (request : Bytes) :
    (Eff.run (scriptSeam.round_trip (.frames name) request) s).2 =
        (Eff.run (scriptSeam.round_trip .frame request) s).2 ∧
      Eff.Alike SameBody (Eff.run (scriptSeam.round_trip (.frames name) request) s).1
        (Eff.run (scriptSeam.round_trip .frame request) s).1 ∧
      (Eff.run (scriptSeam.round_trip .frame request) s).2.queue = [] ∧
      ∀ r ∈ (Eff.run (scriptSeam.round_trip .frame request) s).2.replies, r ∈ s.replies := by
  obtain ⟨queue, replies⟩ := s
  obtain rfl : queue = [] := hqueue
  rw [run_script_trip, run_script_trip]
  cases build_ni_frame request with
  | error e => exact ⟨rfl, .error e, rfl, fun _ hr => hr⟩
  | ok _ =>
    cases replies with
    | nil => exact ⟨rfl, .error _, rfl, fun _ hr => hr⟩
    | cons r rest =>
      obtain ⟨hlength, hreassembled⟩ := hsingle r List.mem_cons_self
      obtain ⟨raw, rfl⟩ := List.length_eq_one_iff.mp hlength
      obtain ⟨hjoin, hbody⟩ := hreassembled.single name
      have hframes := run_join_script hjoin rest
      show (Eff.run (join_response_frames scriptSeam.recv_message name) ⟨[raw], rest⟩).2 = _ ∧
        Eff.Alike SameBody
          (Eff.run (join_response_frames scriptSeam.recv_message name) ⟨[raw], rest⟩).1 _ ∧ _
      rw [hframes]
      exact ⟨rfl, .ok hbody, rfl, fun _ hr => List.mem_cons_of_mem _ hr⟩

/-- A reply that is reassembled leaves nothing behind. -/
theorem frames_trip_drains {s : Script} (hqueue : s.queue = [])
    (hreplies : ∀ r ∈ s.replies, Reassembled r) (name : PyStr) (request : Bytes) :
    (Eff.run (scriptSeam.round_trip (.frames name) request) s).2.queue = [] ∧
      ∀ r ∈ (Eff.run (scriptSeam.round_trip (.frames name) request) s).2.replies,
        r ∈ s.replies := by
  obtain ⟨queue, replies⟩ := s
  obtain rfl : queue = [] := hqueue
  rw [run_script_trip]
  cases build_ni_frame request with
  | error e => exact ⟨rfl, fun _ hr => hr⟩
  | ok _ =>
    cases replies with
    | nil => exact ⟨rfl, fun _ hr => hr⟩
    | cons r rest =>
      obtain ⟨body, -, hread⟩ := hreplies r List.mem_cons_self
      have hframes := run_join_script (hread name) rest
      show (Eff.run (join_response_frames scriptSeam.recv_message name) ⟨r, rest⟩).2.queue = [] ∧
        ∀ q ∈ (Eff.run (join_response_frames scriptSeam.recv_message name) ⟨r, rest⟩).2.replies,
          q ∈ r :: rest
      rw [hframes]
      exact ⟨rfl, fun _ hr => List.mem_cons_of_mem _ hr⟩

/-- One frame is read; if none is left behind, the reply had no more. -/
theorem frame_trip_spends {s : Script} (hqueue : s.queue = []) (request : Bytes)
    (hleft : (Eff.run (scriptSeam.round_trip .frame request) s).2.queue = []) :
    ∃ spent, s.replies = spent ++ (Eff.run (scriptSeam.round_trip .frame request) s).2.replies ∧
      ∀ r ∈ spent, r.length ≤ 1 := by
  obtain ⟨queue, replies⟩ := s
  obtain rfl : queue = [] := hqueue
  rw [run_script_trip] at hleft ⊢
  cases hframe : build_ni_frame request with
  | error e => exact ⟨[], rfl, nofun⟩
  | ok _ =>
    rw [hframe] at hleft
    cases replies with
    | nil => exact ⟨[], rfl, nofun⟩
    | cons r rest =>
      cases r with
      | nil => exact ⟨[[]], rfl, by simp⟩
      | cons raw more =>
        obtain rfl : more = [] := hleft
        exact ⟨[[raw]], rfl, by simp⟩

/-- SOURCE: connection.py:1653-1698.  Replies in frames that the synchronous connection reassembles:
the records of a reply, cut anywhere behind the first record, with three bytes in the last frame. -/
theorem reassembled_of_delivery (r : ℕ × Bytes) (rs : List (ℕ × Bytes)) {S : Bytes}
    {frames pieces : List Bytes} (htag : ∀ q ∈ r :: rs, q.1 ≠ Tag.TERMINATOR)
    (hS : responseStream (r :: rs) = .ok S) (hplain : strip_gw_header S = S)
    (hcut : pieces.flatten = S) (hne : ∀ p ∈ pieces, p ≠ []) (hcount : pieces.length ≤ 256)
    (hfirst : (Records.encode r.1 r.2).length ≤ (pieces.headD []).length)
    (hd : Delivery frames pieces) (hlast : 3 ≤ (pieces.getLastD []).length) :
    Reassembled frames := by
  refine ⟨S, hplain, fun func_name => ?_⟩
  have hread := join_response_frames_reads_reply_iff r rs [] func_name htag hS hcut hne hcount
    hfirst hd
  rw [List.append_nil] at hread
  exact hread.mpr hlast

end Script

/-! ## Request by request -/

section Requests

variable {k : Client ω χ V} {R : Conn ω χ → Conn ω χ → Prop}

/-- A request on classic TCP, with a reader for the reply to each function. -/
def classic_trip (k : Client ω χ V) (reader : PyStr → Reader) : RoundTrip ω χ V :=
    fun purpose name desc params => do
  let request_tlv ← Eff.lift (build_invoke_request k.p name desc params)
  let frame ← invoke_frame request_tlv
  exchange k purpose (reader name) frame

theorem matches_classic_trip (h : InStep R) {reader reader' : PyStr → Reader}
    (hexchange : ∀ purpose name request, Eff.Matches R SameBody
      (exchange k purpose (reader name) request) (exchange k purpose (reader' name) request))
    (purpose : Purpose) (name : PyStr) (desc : FunctionDesc) (params : Values V) :
    Eff.Matches R SameBody (classic_trip k reader purpose name desc params)
      (classic_trip k reader' purpose name desc params) := by
  unfold classic_trip
  refine (Eff.Matches.lift _).bind fun tlv tlv' htlv => ?_
  rw [htlv]
  refine (matches_invoke_frame h _).bind fun frame frame' hframe => ?_
  rw [hframe]
  exact hexchange _ _ _

/-- Without SNC and a WebSocket the synchronous connection makes such requests. -/
theorem run_sync_round_trip (hclassic : k.snc_mode = false) {c : Conn ω χ} (hws : c.is_ws = false)
    (purpose : Purpose) (name : PyStr) (desc : FunctionDesc) (params : Values V) :
    Eff.run (sync_round_trip k purpose name desc params) c =
      Eff.run (classic_trip k .frames purpose name desc params) c := by
  unfold sync_round_trip classic_trip
  cases build_invoke_request k.p name desc params with
  | error e => rfl
  | ok tlv =>
    rw [Eff.run_bind_ok (Eff.run_lift _ _), Eff.run_bind_ok (Eff.run_lift _ _)]
    have hplain : ∀ frame, wire_frame k frame = frame := by
      intro frame
      unfold wire_frame
      rw [hclassic]
      rfl
    show Eff.run (if c.is_ws = true then _ else _) c = _
    rw [hws, if_neg Bool.false_ne_true]
    simp only [hplain]

end Requests

/-! ## In step over replies of one frame -/

/-- A request, and the stream it was sent into. -/
def asked (t : Trip ω) : Bytes × ω := (t.request, t.before)

/-- The two connections are alike, each request was sent into the same stream, and every reply to
come is one frame. -/
structure Lockstep (c c' : Conn Script χ) : Prop where
  same : c' = { c with trips := c'.trips }
  asked : c'.trips.map asked = c.trips.map asked
  classic : c.is_ws = false
  drained : c.wire.queue = []
  single : ∀ r ∈ c.wire.replies, r.length = 1 ∧ Reassembled r

/-- One connection that keeps `I`. -/
def Alone (I : Conn ω χ → Prop) (c c' : Conn ω χ) : Prop := c' = c ∧ I c

/-- Everything was read, every reply to come can be reassembled, and every request was sent into
a stream without a frame left. -/
structure Drained (c : Conn Script χ) : Prop where
  classic : c.is_ws = false
  drained : c.wire.queue = []
  replies : ∀ r ∈ c.wire.replies, Reassembled r
  trips : ∀ t ∈ c.trips, t.before.queue = []

/-- If nothing was ever left in the stream, the replies so far were one frame each. -/
def Spent (replies : List (List Bytes)) (c : Conn Script χ) : Prop :=
  c.wire.queue = [] → (∀ t ∈ c.trips, t.before.queue = []) →
    ∃ spent, replies = spent ++ c.wire.replies ∧ ∀ r ∈ spent, r.length ≤ 1

theorem inStep_lockstep : InStep (Lockstep (χ := χ)) where
  session c c' h := by rw [h.same]
  layouts c c' h := by rw [h.same]
  file c c' layouts h := by
    have hsame := h.same
    refine ⟨?_, h.asked, h.classic, h.drained, h.single⟩
    rw [hsame]

theorem inStep_alone {I : Conn ω χ → Prop}
    (hI : ∀ c layouts, I c → I { c with struct_cache := layouts }) : InStep (Alone I) where
  session c c' h := by rw [h.1]
  layouts c c' h := by rw [h.1]
  file c c' layouts h := ⟨by rw [h.1], hI c layouts h.2⟩

/-- INTERNAL: what keeps `I` is in step with itself. -/
theorem matches_alone {α : Type} {I : Conn ω χ → Prop} {Q : α → α → Prop} (hQ : ∀ a, Q a a)
    {x : Op ω χ α} (hx : ∀ c, I c → I (Eff.run x c).2) : Eff.Matches (Alone I) Q x x := by
  rintro c c' ⟨rfl, hc⟩
  refine ⟨⟨rfl, hx c' hc⟩, ?_⟩
  cases (Eff.run x c').1 with
  | ok a => exact .ok (hQ a)
  | error e => exact .error e

/-- INTERNAL: what is in step with a program keeps `I`. -/
theorem keeps_of_matches_alone {α β : Type} {I : Conn ω χ → Prop} {Q : α → β → Prop} {x : Op ω χ α}
    {y : Op ω χ β} (h : Eff.Matches (Alone I) Q x y) {c : Conn ω χ} (hc : I c) :
    I (Eff.run x c).2 := (h c c ⟨rfl, hc⟩).1.2

theorem inStep_drained : InStep (Alone (Drained (χ := χ))) :=
  inStep_alone fun _ _ h => ⟨h.classic, h.drained, h.replies, h.trips⟩

theorem inStep_spent (replies : List (List Bytes)) : InStep (Alone (Spent (χ := χ) replies)) :=
  inStep_alone fun _ _ h => h

section Steps

variable (k : ScriptClient χ V)

theorem lockstep_exchange (purpose : Purpose) (name : PyStr) (request : Bytes) :
    Eff.Matches Lockstep SameBody (exchange k.toClient purpose (.frames name) request)
      (exchange k.toClient purpose .frame request) := by
  intro c c' h
  obtain ⟨hwire, halike, hqueue, hreplies⟩ := round_trips_alike h.drained h.single name request
  have hsame := h.same
  have hwires : c'.wire = c.wire := by rw [hsame]
  rw [run_exchange, run_exchange, k.seam_eq, hwires]
  refine ⟨⟨?_, ?_, h.classic, ?_, ?_⟩, halike⟩
  · rw [hwire, hsame]
  · show (c'.trips ++ [_]).map asked = (c.trips ++ [_]).map asked
    rw [List.map_append, List.map_append, h.asked]
    rfl
  · rw [hwire]
    exact hqueue
  · rw [hwire]
    exact fun r hr => h.single r (hreplies r hr)

theorem drained_exchange (purpose : Purpose) (name : PyStr) (request : Bytes) {c : Conn Script χ}
    (h : Drained c) :
    Drained (Eff.run (exchange k.toClient purpose (.frames name) request) c).2 := by
  obtain ⟨hqueue, hreplies⟩ := frames_trip_drains h.drained h.replies name request
  rw [run_exchange, k.seam_eq]
  refine ⟨h.classic, hqueue, fun r hr => h.replies r (hreplies r hr), ?_⟩
  intro t ht
  cases List.mem_append.mp ht with
  | inl hbefore => exact h.trips t hbefore
  | inr hlast =>
    rw [List.mem_singleton.mp hlast]
    exact h.drained

theorem spent_exchange (purpose : Purpose) (request : Bytes) {replies : List (List Bytes)}
    {c : Conn Script χ} (h : Spent replies c) :
    Spent replies (Eff.run (exchange k.toClient purpose .frame request) c).2 := by
  rw [run_exchange, k.seam_eq]
  intro hqueue htrips
  have hbefore : c.wire.queue = [] :=
    htrips ⟨purpose, .frame, request, c.wire⟩ (List.mem_append_right _ List.mem_cons_self)
  obtain ⟨spent, hspent, hshort⟩ :=
    h hbefore fun t ht => htrips t (List.mem_append_left _ ht)
  obtain ⟨more, hmore, hshort'⟩ := frame_trip_spends hbefore request hqueue
  refine ⟨spent ++ more, ?_, fun r hr => ?_⟩
  · rw [List.append_assoc, ← hmore]
    exact hspent
  · cases List.mem_append.mp hr with
    | inl hr => exact hshort r hr
    | inr hr => exact hshort' r hr

/-- INTERNAL: on classic TCP the synchronous request is in step with what a classic one is. -/
theorem matches_sync_trip {R : Conn Script χ → Conn Script χ → Prop}
    (hws : ∀ c c', R c c' → c.is_ws = false) {reader : PyStr → Reader}
    (htrip : ∀ purpose name desc params, Eff.Matches R SameBody
      (classic_trip k.toClient .frames purpose name desc params)
      (classic_trip k.toClient reader purpose name desc params))
    (purpose : Purpose) (name : PyStr) (desc : FunctionDesc) (params : Values V) :
    Eff.Matches R SameBody (sync_round_trip k.toClient purpose name desc params)
      (classic_trip k.toClient reader purpose name desc params) := by
  intro c c' hc
  rw [run_sync_round_trip k.classic (hws c c' hc)]
  exact htrip purpose name desc params c c' hc

theorem lockstep_trip (purpose : Purpose) (name : PyStr) (desc : FunctionDesc)
    (params : Values V) :
    Eff.Matches Lockstep SameBody (sync_round_trip k.toClient purpose name desc params)
      (async_round_trip k.toClient purpose name desc params) :=
  matches_sync_trip k (fun _ _ h => h.classic)
    (matches_classic_trip inStep_lockstep (lockstep_exchange k)) purpose name desc params

theorem drained_trip (purpose : Purpose) (name : PyStr) (desc : FunctionDesc)
    (params : Values V) :
    Eff.Matches (Alone Drained) SameBody
      (sync_round_trip k.toClient purpose name desc params)
      (classic_trip k.toClient .frames purpose name desc params) := by
  refine matches_sync_trip k (fun c c' h => ?_) (matches_classic_trip inStep_drained ?_)
    purpose name desc params
  · exact h.2.classic
  · intro purpose name request
    exact matches_alone (Q := SameBody) (fun _ => rfl)
      fun c hc => drained_exchange k purpose name request hc

theorem spent_trip (replies : List (List Bytes)) (purpose : Purpose) (name : PyStr)
    (desc : FunctionDesc) (params : Values V) :
    Eff.Matches (Alone (Spent replies)) SameBody
      (async_round_trip k.toClient purpose name desc params)
      (async_round_trip k.toClient purpose name desc params) := by
  show Eff.Matches _ _ (classic_trip k.toClient (fun _ => .frame) purpose name desc params)
    (classic_trip k.toClient (fun _ => .frame) purpose name desc params)
  refine matches_classic_trip (inStep_spent replies) ?_ purpose name desc params
  intro purpose name request
  exact matches_alone (Q := SameBody) (fun _ => rfl) fun c hc => spent_exchange k purpose request hc

end Steps

/-! ## The two methods of each connection -/

/-- A lookup of the synchronous connection and its twin: over replies of one frame they go in
step, the first reads every reply it gets to its end, and the second leaves nothing in the stream
only after such replies. -/
structure Twin {α : Type} (x y : Op Script χ α) : Prop where
  lockstep : Eff.Matches Lockstep Eq x y
  drained : ∀ c, Drained c → Drained (Eff.run x c).2
  spent : ∀ replies c, Spent replies c → Spent replies (Eff.run y c).2

section Methods

variable (k : ScriptClient χ V)

theorem twin_call_struct_bootstrap (tabname : PyStr) :
    Twin (call_struct_bootstrap k.toClient tabname)
      (async_call_struct_bootstrap k.toClient tabname) where
  lockstep := matches_call_struct_bootstrap inStep_lockstep (fun _ _ h => h.classic)
    (lockstep_trip k) tabname
  drained c hc := by
    have hmatches := matches_call_struct_bootstrap inStep_drained
      (fun (_ _ : Conn Script χ) h => h.2.classic) (drained_trip k) tabname
    exact keeps_of_matches_alone hmatches hc
  spent replies c hc := by
    have hmatches := matches_struct_bootstrap (k := k.toClient) (inStep_spent replies)
      (spent_trip k replies) false tabname
    exact keeps_of_matches_alone hmatches hc

theorem twin_call_bootstrap (func_name : PyStr) :
    Twin (call_bootstrap k.toClient func_name)
      (async_call_bootstrap k.toClient func_name) where
  lockstep := matches_call_bootstrap inStep_lockstep (fun _ _ h => h.classic)
    (lockstep_trip k) func_name
  drained c hc := by
    have hmatches := matches_call_bootstrap inStep_drained
      (fun (_ _ : Conn Script χ) h => h.2.classic) (drained_trip k) func_name
    exact keeps_of_matches_alone hmatches hc
  spent replies c hc := by
    have hmatches := matches_bootstrap_over (k := k.toClient) (inStep_spent replies)
      (spent_trip k replies) func_name
    exact keeps_of_matches_alone hmatches hc

end Methods

/-! ## Agreement -/

/-- A connection on classic TCP whose server answers its next requests with these replies. -/
def facing (c : Conn Script χ) (replies : List (List Bytes)) : Conn Script χ :=
  { c with wire := ⟨[], replies⟩, is_ws := false, trips := [] }

/-- The replies are those to the requests that the lookup makes. -/
def Answers {α : Type} (x : Op Script χ α) (c : Conn Script χ) : Prop :=
  (Eff.run x c).2.wire.replies = []

/-- Two lookups end alike, and each request of theirs, and what comes after them, finds the same
frames in the stream. -/
structure Agree {α : Type} (x y : Op Script χ α) (c : Conn Script χ) : Prop where
  result : (Eff.run x c).1 = (Eff.run y c).1
  stream : (Eff.run x c).2.wire = (Eff.run y c).2.wire
  trips : (Eff.run x c).2.trips.map asked = (Eff.run y c).2.trips.map asked

section Agreement

variable {α : Type} {x y : Op Script χ α} {c : Conn Script χ} {replies : List (List Bytes)}

theorem lockstep_facing (h : ∀ r ∈ replies, r.length = 1 ∧ Reassembled r) :
    Lockstep (facing c replies) (facing c replies) :=
  ⟨rfl, rfl, rfl, rfl, h⟩

theorem drained_facing (h : ∀ r ∈ replies, Reassembled r) : Drained (facing c replies) :=
  ⟨rfl, rfl, h, nofun⟩

theorem spent_facing : Spent replies (facing c replies) :=
  fun _ _ => ⟨[], rfl, nofun⟩

/-- INTERNAL: a reply has a frame. -/
theorem Reassembled.ne_nil {frames : List Bytes} (h : Reassembled frames) : frames ≠ [] := by
  rintro rfl
  obtain ⟨body, -, hread⟩ := h
  cases hread []

theorem Twin.agree (htwin : Twin x y) (h : ∀ r ∈ replies, Reassembled r)
    (hsingle : ∀ r ∈ replies, r.length = 1) : Agree x y (facing c replies) := by
  have hstart : Lockstep (facing c replies) (facing c replies) :=
    lockstep_facing fun r hr => ⟨hsingle r hr, h r hr⟩
  obtain ⟨hstate, halike⟩ := htwin.lockstep _ _ hstart
  refine ⟨halike.eq, ?_, hstate.asked.symm⟩
  rw [hstate.same]

/-- INTERNAL: what was asked of an empty stream only. -/
theorem drained_of_asked {trips trips' : List (Trip Script)}
    (hsame : trips.map asked = trips'.map asked) (h : ∀ t ∈ trips, t.before.queue = []) :
    ∀ t ∈ trips', t.before.queue = [] := by
  intro t ht
  have hasked : asked t ∈ trips.map asked := by
    rw [hsame]
    exact List.mem_map_of_mem ht
  obtain ⟨t', ht', heq⟩ := List.mem_map.mp hasked
  have hbefore : t'.before = t.before := congrArg Prod.snd heq
  rw [← hbefore]
  exact h t' ht'

theorem Twin.single (htwin : Twin x y) (h : ∀ r ∈ replies, Reassembled r)
    (hanswers : Answers x (facing c replies)) (hagree : Agree x y (facing c replies)) :
    ∀ r ∈ replies, r.length = 1 := by
  have hsync := htwin.drained (facing c replies) (drained_facing h)
  have hasync := htwin.spent replies _ (spent_facing (c := c))
  have hqueue : (Eff.run y (facing c replies)).2.wire.queue = [] := by
    rw [← hagree.stream]
    exact hsync.drained
  obtain ⟨spent, hspent, hshort⟩ :=
    hasync hqueue (drained_of_asked hagree.trips hsync.trips)
  have hnone : (Eff.run y (facing c replies)).2.wire.replies = [] := by
    rw [← hagree.stream]
    exact hanswers
  rw [hnone, List.append_nil] at hspent
  intro r hr
  have hle : r.length ≤ 1 := hshort r (hspent ▸ hr)
  have hpos : 0 < r.length := List.length_pos_iff.mpr (h r hr).ne_nil
  omega

theorem Twin.agree_iff (htwin : Twin x y) (h : ∀ r ∈ replies, Reassembled r)
    (hanswers : Answers x (facing c replies)) :
    Agree x y (facing c replies) ↔ ∀ r ∈ replies, r.length = 1 :=
  ⟨htwin.single h hanswers, htwin.agree h⟩

end Agreement

/-- SOURCE: connection.py:2486-2893 and connection.py:4775-4977.  Over the replies to its lookups,
each in frames that the synchronous connection reassembles, the asynchronous connection consumes
the same frames and builds the same description exactly when every reply is one frame. -/
theorem bootstraps_agree_iff_one_frame (k : ScriptClient χ V) (c : Conn Script χ)
    (replies : List (List Bytes)) (h : ∀ r ∈ replies, Reassembled r) :
    (∀ func_name, Answers (call_bootstrap k.toClient func_name) (facing c replies) →
        (Agree (call_bootstrap k.toClient func_name) (async_call_bootstrap k.toClient func_name)
          (facing c replies) ↔ ∀ r ∈ replies, r.length = 1)) ∧
      ∀ tabname, Answers (call_struct_bootstrap k.toClient tabname) (facing c replies) →
        (Agree (call_struct_bootstrap k.toClient tabname)
          (async_call_struct_bootstrap k.toClient tabname) (facing c replies) ↔
            ∀ r ∈ replies, r.length = 1) :=
  ⟨fun func_name => (twin_call_bootstrap k func_name).agree_iff h,
    fun tabname => (twin_call_struct_bootstrap k tabname).agree_iff h⟩

/-- A connection without stores whose server answers from a script. -/
def plainScript : ScriptClient Unit Bytes where
  p := plainPlatform
  seam := scriptSeam
  snc_mode := false
  strict_params := true
  max_retries := 0
  tid_store := none
  unit_store := none
  fresh_hex := []
  hostname := []
  nonce := []
  redial := fun _ _ _ => throw (err .os (lit "unreachable"))
  seam_eq := rfl
  classic := rfl

/-- INTERNAL: the short reply as one frame. -/
theorem reassembled_shortReply : Reassembled [gwHeader 1 ++ shortReply] :=
  reassembled_of_delivery (0x0500, []) [] (S := shortReply) (by decide)
    (by rfl) (by decide) (by decide) (by decide) (by decide) (by decide)
    (.last ⟨by decide, by decide⟩) (by decide)

/-- One frame: both connections describe an interface without parameters. -/
theorem bootstraps_agree_on_one_frame :
    Agree (call_bootstrap plainScript.toClient (lit "Z_FM"))
      (async_call_bootstrap plainScript.toClient (lit "Z_FM"))
      (facing (readyConn ⟨[], []⟩ ()) [[gwHeader 1 ++ shortReply]]) := by
  have hreplies : ∀ r ∈ [[gwHeader 1 ++ shortReply]], Reassembled r := by
    intro r hr
    rw [List.mem_singleton.mp hr]
    exact reassembled_shortReply
  refine ((bootstraps_agree_iff_one_frame plainScript
    (readyConn ⟨[], []⟩ ()) [[gwHeader 1 ++ shortReply]]
    hreplies).1 (lit "Z_FM") ?_).mpr (by decide)
  show _ = _
  decide +kernel

/-- Two frames: the asynchronous connection leaves the second in the stream. -/
theorem second_frame_is_left_behind :
    Reassembled (shortReplyFrames 4) ∧
      Answers (call_bootstrap plainScript.toClient (lit "Z_FM"))
        (facing (readyConn ⟨[], []⟩ ()) [shortReplyFrames 4]) ∧
      (Eff.run (async_call_bootstrap plainScript.toClient (lit "Z_FM"))
        (facing (readyConn ⟨[], []⟩ ()) [shortReplyFrames 4])).2.wire.queue =
          [gwHeader 1 ++ shortReply.drop 8] ∧
      ¬ Agree (call_bootstrap plainScript.toClient (lit "Z_FM"))
        (async_call_bootstrap plainScript.toClient (lit "Z_FM"))
        (facing (readyConn ⟨[], []⟩ ()) [shortReplyFrames 4]) := by
  have hasync : (Eff.run (async_call_bootstrap plainScript.toClient (lit "Z_FM"))
      (facing (readyConn ⟨[], []⟩ ()) [shortReplyFrames 4])).2.wire.queue =
        [gwHeader 1 ++ shortReply.drop 8] := by decide +kernel
  have hsync : (Eff.run (call_bootstrap plainScript.toClient (lit "Z_FM"))
      (facing (readyConn ⟨[], []⟩ ()) [shortReplyFrames 4])).2.wire = ⟨[], []⟩ := by decide +kernel
  refine ⟨?_, congrArg Script.replies hsync, hasync, ?_⟩
  · exact reassembled_of_delivery (0x0500, []) [] (S := shortReply) (by decide) (by rfl)
      (by decide) (by decide) (by decide) (by decide) (by decide) (delivery_shortReply 4)
      (by decide)
  · intro h
    have hqueue := congrArg Script.queue h.stream
    rw [hasync, hsync] at hqueue
    cases hqueue

end SapRfc.Analysis.Twins
