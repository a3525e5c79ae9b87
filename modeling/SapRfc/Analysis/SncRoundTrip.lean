import SapRfc.Analysis.SncReceive

/-!
# What one side of an SNC session sends, the other receives

Two established sides in one mode, with a network between them that keeps the order.
What the sender hands to the network is a frame that the receiver's parser opens: the
header has a fixed length, the envelope of the gateway has one too, and what the
envelope adds behind the frame lies beyond the lengths that the header declares.  The
GSS library opens its own tokens in the order in which it made them.  So the payloads
under way are an invariant of the session: what was sent is what was received and what
is under way, and a receive returns the first of these.
-/

set_option autoImplicit false

namespace SapRfc.Analysis.SncRoundTrip

open SapRfc.Library SapRfc.Program SapRfc.Analysis.SncReceive

/-! ## A frame and its parts -/

/-- INTERNAL: a number of the header is read back. -/
theorem number_between (a z : Bytes) {w n : ℕ} (h : n < 256 ^ w) :
    ofBE (slice (a ++ (toBE w n ++ z)) a.length (a.length + w)) = n := by
  have hslice := slice_between a (toBE w n) z
  rw [length_toBE] at hslice
  rw [hslice, ofBE_toBE_of_lt h]

/-- The eye catcher in its field of eight bytes. -/
def eye_field (eye : Bytes) : Bytes := (eye ++ List.replicate 8 0).take 8

theorem length_eye_field (eye : Bytes) : (eye_field eye).length = 8 := by
  unfold eye_field
  rw [List.length_take, List.length_append, List.length_replicate]
  omega

/-- An eye catcher that fits its field starts it. -/
theorem take_eye_field {eye : Bytes} (h : eye.length ≤ 8) (z : Bytes) :
    (eye_field eye ++ z).take eye.length = eye := by
  have hlen := length_eye_field eye
  rw [List.take_append_of_le_length (by omega)]
  unfold eye_field
  rw [List.take_take, Nat.min_eq_left h, List.take_left]

/-- A frame is built where every number fits its field. -/
theorem build_snc_frame_eq_ok {eye token data ext_header frame : Bytes}
    {frame_type ctx_id qop : ℕ} :
    build_snc_frame eye frame_type ctx_id qop token data ext_header = .ok frame ↔
      (frame_type < 256 ∧ SNC_HEADER_SIZE + ext_header.length < 256 ^ 2 ∧
        token.length < 256 ^ 4 ∧ data.length < 256 ^ 4 ∧ ctx_id < 256 ^ 2 ∧ qop < 256 ^ 2) ∧
      frame = eye_field eye ++ (toBE 1 frame_type ++ (toBE 1 SNC_VERSION ++
        (toBE 2 (SNC_HEADER_SIZE + ext_header.length) ++ (toBE 4 token.length ++
          (toBE 4 data.length ++ (toBE 2 ctx_id ++ (toBE 2 qop ++ (ext_header ++
            (token ++ data))))))))) := by
  unfold build_snc_frame
  dsimp only
  split
  next h =>
    refine ⟨(nomatch ·), fun hfits => ?_⟩
    omega
  next h =>
    rw [Except.ok.injEq]
    constructor
    · rintro rfl
      refine ⟨by omega, ?_⟩
      simp only [eye_field, List.append_assoc]
    · rintro ⟨-, rfl⟩
      simp only [eye_field, List.append_assoc]

/-- The parts of a frame are read back, whatever stands behind it. -/
theorem parse_snc_frame_append {eye token data ext_header frame : Bytes}
    {frame_type ctx_id qop : ℕ} (hcap : token.length + data.length ≤ MAX_FRAME_BYTES)
    (hbuild : build_snc_frame eye frame_type ctx_id qop token data ext_header = .ok frame)
    (behind : Bytes) :
    parse_snc_frame (frame ++ behind) = .ok ⟨frame_type, ctx_id, qop, token, data⟩ := by
  obtain ⟨⟨htype, hheader, htoken, hdata, hctx, hqop⟩, rfl⟩ := build_snc_frame_eq_ok.mp hbuild
  have heye := length_eye_field eye
  simp only [List.append_assoc]
  generalize hframe : eye_field eye ++ (toBE 1 frame_type ++ (toBE 1 SNC_VERSION ++
      (toBE 2 (SNC_HEADER_SIZE + ext_header.length) ++ (toBE 4 token.length ++
        (toBE 4 data.length ++ (toBE 2 ctx_id ++ (toBE 2 qop ++ (ext_header ++
          (token ++ (data ++ behind)))))))))) = frame
  have h1 := number_between (eye_field eye) (toBE 1 SNC_VERSION ++
    (toBE 2 (SNC_HEADER_SIZE + ext_header.length) ++ (toBE 4 token.length ++
      (toBE 4 data.length ++ (toBE 2 ctx_id ++ (toBE 2 qop ++ (ext_header ++
        (token ++ (data ++ behind))))))))) (w := 1) htype
  have h2 := number_between (eye_field eye ++ (toBE 1 frame_type ++ toBE 1 SNC_VERSION))
    (toBE 4 token.length ++ (toBE 4 data.length ++ (toBE 2 ctx_id ++
      (toBE 2 qop ++ (ext_header ++ (token ++ (data ++ behind))))))) (w := 2) hheader
  have h3 := number_between (eye_field eye ++ (toBE 1 frame_type ++ (toBE 1 SNC_VERSION ++
    toBE 2 (SNC_HEADER_SIZE + ext_header.length)))) (toBE 4 data.length ++ (toBE 2 ctx_id ++
      (toBE 2 qop ++ (ext_header ++ (token ++ (data ++ behind)))))) (w := 4) htoken
  have h4 := number_between (eye_field eye ++ (toBE 1 frame_type ++ (toBE 1 SNC_VERSION ++
    (toBE 2 (SNC_HEADER_SIZE + ext_header.length) ++ toBE 4 token.length)))) (toBE 2 ctx_id ++
      (toBE 2 qop ++ (ext_header ++ (token ++ (data ++ behind))))) (w := 4) hdata
  have h5 := number_between (eye_field eye ++ (toBE 1 frame_type ++ (toBE 1 SNC_VERSION ++
    (toBE 2 (SNC_HEADER_SIZE + ext_header.length) ++ (toBE 4 token.length ++
      toBE 4 data.length))))) (toBE 2 qop ++ (ext_header ++ (token ++ (data ++ behind))))
    (w := 2) hctx
  have h6 := number_between (eye_field eye ++ (toBE 1 frame_type ++ (toBE 1 SNC_VERSION ++
    (toBE 2 (SNC_HEADER_SIZE + ext_header.length) ++ (toBE 4 token.length ++
      (toBE 4 data.length ++ toBE 2 ctx_id)))))) (ext_header ++ (token ++ (data ++ behind)))
    (w := 2) hqop
  have h7 := slice_between (eye_field eye ++ (toBE 1 frame_type ++ (toBE 1 SNC_VERSION ++
    (toBE 2 (SNC_HEADER_SIZE + ext_header.length) ++ (toBE 4 token.length ++
      (toBE 4 data.length ++ (toBE 2 ctx_id ++ (toBE 2 qop ++ ext_header)))))))) token
    (data ++ behind)
  have h8 := slice_between (eye_field eye ++ (toBE 1 frame_type ++ (toBE 1 SNC_VERSION ++
    (toBE 2 (SNC_HEADER_SIZE + ext_header.length) ++ (toBE 4 token.length ++
      (toBE 4 data.length ++ (toBE 2 ctx_id ++ (toBE 2 qop ++ (ext_header ++ token)))))))))
    data behind
  simp only [List.append_assoc, List.length_append, length_toBE, heye, hframe, Nat.reduceAdd]
    at h1 h2 h3 h4 h5 h6 h7 h8
  have hstart : 8 + (1 + (1 + (2 + (4 + (4 + (2 + (2 + ext_header.length))))))) =
      SNC_HEADER_SIZE + ext_header.length := by
    unfold SNC_HEADER_SIZE
    omega
  have hdata_start : 8 + (1 + (1 + (2 + (4 + (4 + (2 + (2 + (ext_header.length +
      token.length)))))))) = SNC_HEADER_SIZE + ext_header.length + token.length := by
    unfold SNC_HEADER_SIZE
    omega
  rw [hstart] at h7
  rw [hdata_start] at h8
  have hlen : ¬ frame.length < SNC_HEADER_SIZE := by
    rw [← hframe]
    simp only [List.length_append, length_toBE, heye, SNC_HEADER_SIZE]
    omega
  have hover : ¬ MAX_FRAME_BYTES < token.length + data.length := by omega
  unfold parse_snc_frame
  rw [if_neg hlen]
  simp only [h1, h2, h3, h4, h5, h6, if_neg hover, Nat.le_add_right, if_true, h7, h8]

/-! ## The message on the wire -/

/-- A receiver reads the frame from the message. -/
def Reads (use_gw : Bool) (eye wire : Bytes) (frame : SncFrame) : Prop :=
  (use_gw = false → wire.take eye.length = eye) ∧
    ((if use_gw then strip_gw_snc_frame wire else .ok wire) >>= parse_snc_frame) = .ok frame

/-- The message that a side hands to the network for a frame. -/
def wire_of (cfg : SncConfig) (use_gw : Bool) (gw_handle : Bytes) (frame_type : SncFrameType)
    (token data : Bytes) (qop : ℕ) : Except PyError Bytes := do
  let frame ← build_snc_frame cfg.eye frame_type.toByte SNC_CTX_ID qop token data []
  if use_gw then build_gw_snc_frame gw_handle frame else .ok frame

/-- INTERNAL: the envelope is 80 bytes in front of the frame and 8 behind it. -/
theorem strip_build_gw_snc_frame {gw_handle frame wire : Bytes} (hhandle : gw_handle.length = 8)
    (hframe : SNC_HEADER_SIZE ≤ frame.length)
    (hbuild : build_gw_snc_frame gw_handle frame = .ok wire) :
    ∃ behind, strip_gw_snc_frame wire = .ok (frame ++ behind) := by
  unfold build_gw_snc_frame at hbuild
  split at hbuild
  · cases hbuild
  · obtain rfl := Except.ok.inj hbuild
    refine ⟨toBE 4 frame.length ++ [0x00, 0x00, 0x85, 0x00], ?_⟩
    unfold strip_gw_snc_frame
    rw [if_neg (by simp [hhandle]; omega)]
    congr 1
    have hpre : ∀ pre rest : Bytes, pre.length = 80 → (pre ++ rest).drop 80 = rest := by
      intro pre rest hpre
      rw [← hpre, List.drop_left]
    rw [List.append_assoc, List.append_assoc]
    apply hpre
    simp [hhandle]

/-- A frame whose token and data are within the cap is built, enveloped and read back. -/
theorem wire_of_reads {cfg : SncConfig} {use_gw : Bool} {gw_handle token data : Bytes}
    {frame_type : SncFrameType} {qop : ℕ} (heye : use_gw = false → cfg.eye.length ≤ 8)
    (hhandle : use_gw = true → gw_handle.length = 8) (hqop : qop < 256 ^ 2)
    (hcap : token.length + data.length ≤ MAX_FRAME_BYTES) :
    ∃ wire, wire_of cfg use_gw gw_handle frame_type token data qop = .ok wire ∧
      Reads use_gw cfg.eye wire ⟨frame_type.toByte, SNC_CTX_ID, qop, token, data⟩ := by
  have htype : frame_type.toByte < 256 := by cases frame_type <;> decide
  have hmax : MAX_FRAME_BYTES + 24 < 256 ^ 4 := by decide
  obtain ⟨frame, hframe⟩ : ∃ frame,
      build_snc_frame cfg.eye frame_type.toByte SNC_CTX_ID qop token data [] = .ok frame := by
    have hheader : SNC_HEADER_SIZE + ([] : Bytes).length < 256 ^ 2 := by decide
    refine ⟨_, build_snc_frame_eq_ok.mpr ⟨⟨htype, hheader, ?_, ?_, by decide, hqop⟩, rfl⟩⟩
    · omega
    · omega
  have hparse := parse_snc_frame_append hcap hframe
  have hlen : frame.length = 24 + token.length + data.length ∧
      (cfg.eye.length ≤ 8 → frame.take cfg.eye.length = cfg.eye) := by
    obtain ⟨-, rfl⟩ := build_snc_frame_eq_ok.mp hframe
    refine ⟨?_, fun h => take_eye_field h _⟩
    simp only [List.length_append, length_eye_field, length_toBE, List.length_nil]
    omega
  unfold wire_of Reads
  rw [hframe, Eff.except_ok_bind]
  cases use_gw with
  | false =>
    refine ⟨frame, rfl, fun _ => hlen.2 (heye rfl), ?_⟩
    have h := hparse []
    rwa [List.append_nil] at h
  | true =>
    obtain ⟨wire, hwire⟩ : ∃ wire, build_gw_snc_frame gw_handle frame = .ok wire := by
      unfold build_gw_snc_frame
      rw [if_neg (by omega)]
      exact ⟨_, rfl⟩
    obtain ⟨behind, hstrip⟩ := strip_build_gw_snc_frame (hhandle rfl)
      (by rw [hlen.1]; unfold SNC_HEADER_SIZE; omega) hwire
    refine ⟨wire, hwire, nofun, ?_⟩
    rw [if_pos rfl, hstrip]
    exact hparse behind

/-! ## What a side hands to the network -/

section Sides

variable {γ δ ω : Type} (gss : GssBinding γ) (gss' : GssBinding δ) (out inn : InnerTransport ω)
  (cfg cfg' : SncConfig)

/-- The protected form of a payload: the type of the frame, its token and its data. -/
def protect (payload : Bytes) : Eff PyError γ (SncFrameType × Bytes × Bytes) :=
  match QOP_PROTECTION cfg.qop with
  | .PRIVACY => do
    let wrapped ← gss.wrap payload
    pure (.PRIVACY, wrapped, [])
  | .INTEGRITY => do
    let mic ← gss.get_mic payload
    pure (.INTEGRITY, mic, payload)
  | _ => pure (.PLAIN, [], payload)

/-- The protected form of a payload is within the cap. -/
def WithinCap (g : γ) (payload : Bytes) : Prop :=
  ∀ p, (Eff.run (protect gss cfg payload) g).1 = .ok p →
    p.2.1.length + p.2.2.length ≤ MAX_FRAME_BYTES

/-- INTERNAL: a frame is built and then handed over. -/
theorem run_send_snc_frame (s : SncTransport γ ω) (frame_type : SncFrameType) (token data : Bytes)
    (qop : ℕ) :
    Eff.run (send_snc_frame out cfg frame_type token data [] qop) s =
      match wire_of cfg s.use_gw s.gw_handle frame_type token data qop with
      | .ok wire => Eff.run (wrapTransportError (onInner (γ := γ) (out.send_message wire))) s
      | .error e => (.error e, s) := by
  unfold send_snc_frame wire_of
  rw [Eff.run_bind_ok (Eff.run_state _), Eff.run_bind, Eff.run_lift]
  cases build_snc_frame cfg.eye frame_type.toByte SNC_CTX_ID qop token data [] with
  | error e => rfl
  | ok frame =>
    rw [Eff.except_ok_bind]
    show Eff.run (Eff.lift _ >>= _) s = _
    rw [Eff.run_bind, Eff.run_lift]
    cases (if s.use_gw = true then build_gw_snc_frame s.gw_handle frame else .ok frame) with
    | error e => rfl
    | ok wire => rfl

/-- An established side protects the payload and hands it over. -/
theorem run_snc_send_message {s : SncTransport γ ω} (hs : s.established = true)
    (payload : Bytes) :
    Eff.run (snc_send_message gss out cfg payload) s =
      match Eff.run (protect gss cfg payload) s.gss with
      | (.ok p, g) =>
        Eff.run (send_snc_frame out cfg p.1 p.2.1 p.2.2 [] cfg.qop.value) { s with gss := g }
      | (.error e, g) => (.error e, { s with gss := g }) := by
  have hbind : ∀ (x : Eff PyError γ Bytes) (frame_type : SncFrameType) (data : Bytes),
      Eff.run (onGss x >>= fun token =>
          send_snc_frame out cfg frame_type token data [] cfg.qop.value) s =
        match Eff.run (x >>= fun token => pure (frame_type, token, data)) s.gss with
        | (.ok p, g) =>
          Eff.run (send_snc_frame out cfg p.1 p.2.1 p.2.2 [] cfg.qop.value) { s with gss := g }
        | (.error e, g) => (.error e, { s with gss := g }) := by
    intro x frame_type data
    unfold onGss
    rw [Eff.run_bind, Eff.run_bind, Eff.run_mk]
    rcases Eff.run x s.gss with ⟨_ | _, _⟩ <;> rfl
  unfold snc_send_message protect
  rw [Eff.run_bind_ok (Eff.run_state _), Eff.run_ite, if_neg (by simp [hs])]
  cases QOP_PROTECTION cfg.qop with
  | PRIVACY => exact hbind (gss.wrap payload) .PRIVACY []
  | INTEGRITY => exact hbind (gss.get_mic payload) .INTEGRITY payload
  | PLAIN => rfl
  | FR_INIT => rfl
  | FR_ACCEPT => rfl

/-- INTERNAL: what an established side makes of a message that the network delivers. -/
theorem run_snc_recv_reads {r : SncTransport δ ω} (hr : r.established = true) {wire : Bytes}
    {w : ω} (hwire : Eff.run inn.recv_message r.inner = (.ok wire, w)) {frame : SncFrame}
    (hreads : Reads r.use_gw cfg'.eye wire frame) :
    Eff.run (snc_recv_message gss' inn cfg') r =
      Eff.run (dispatch gss' frame) { r with inner := w } := by
  have hread := run_wrapped_inner hwire
  obtain ⟨heye, hframe⟩ := hreads
  obtain ⟨buf, hbuf, hparse⟩ := Eff.except_bind_eq_ok.mp hframe
  unfold snc_recv_message
  rw [Eff.run_bind_ok hread, Eff.run_bind_ok (Eff.run_state _), Eff.run_ite,
    if_neg (by simp [hr]), Eff.run_ite, if_neg (fun h => h.2 (heye h.1)),
    Eff.run_bind_ok (by rw [Eff.run_lift, hbuf]), Eff.run_bind_ok (by rw [Eff.run_lift, hparse])]
  rfl

/-! ## The two contexts and the network -/

/-- The receiving context accepts what the sending one made, in the order in which it was
made.  The list is what is made and not yet presented. -/
structure Opposite (peers : γ → δ → List GssEvent → Prop) : Prop where
  wrap {g g₁ : γ} {g' : δ} {made : List GssEvent} {payload token : Bytes} :
    peers g g' made → Eff.run (gss.wrap payload) g = (.ok token, g₁) →
      peers g₁ g' (made ++ [.unwrapped token payload])
  get_mic {g g₁ : γ} {g' : δ} {made : List GssEvent} {message mic : Bytes} :
    peers g g' made → Eff.run (gss.get_mic message) g = (.ok mic, g₁) →
      peers g₁ g' (made ++ [.verified message mic])
  unwrap {g : γ} {g' : δ} {made : List GssEvent} {payload token : Bytes} :
    peers g g' (.unwrapped token payload :: made) →
      ∃ g₁', Eff.run (gss'.unwrap token) g' = (.ok payload, g₁') ∧ peers g g₁' made
  verify_mic {g : γ} {g' : δ} {made : List GssEvent} {message mic : Bytes} :
    peers g g' (.verified message mic :: made) →
      ∃ g₁', Eff.run (gss'.verify_mic message mic) g' = (.ok (), g₁') ∧ peers g g₁' made

/-- The network delivers what it took, in the order in which it took it, and nothing else.
The list is what is under way. -/
structure Delivers (carries : ω → List Bytes → Prop) : Prop where
  send {w w₁ : ω} {under_way : List Bytes} {wire : Bytes} :
    carries w under_way → Eff.run (out.send_message wire) w = (.ok (), w₁) →
      carries w₁ (under_way ++ [wire])
  recv {w : ω} {under_way : List Bytes} {wire : Bytes} :
    carries w (wire :: under_way) →
      ∃ w₁, Eff.run inn.recv_message w = (.ok wire, w₁) ∧ carries w₁ under_way
  idle {w w₁ : ω} {wire : Bytes} :
    carries w [] → Eff.run inn.recv_message w ≠ (.ok wire, w₁)

/-- The sides of a session and the network between them.  A side runs with the network as
its inner transport. -/
structure Session (γ δ ω : Type) where
  sender : SncTransport γ ω
  receiver : SncTransport δ ω
  network : ω

/-- The sending side at its turn. -/
def Session.sending (c : Session γ δ ω) : SncTransport γ ω := { c.sender with inner := c.network }

/-- The receiving side at its turn. -/
def Session.receiving (c : Session γ δ ω) : SncTransport δ ω :=
  { c.receiver with inner := c.network }

/-- What is sent and received from a first state on, in any order of the calls.  The lists
are the payloads. -/
inductive Exchanged (first : Session γ δ ω) : Session γ δ ω → List Bytes → List Bytes → Prop where
  | start : Exchanged first first [] []
  | sent {c : Session γ δ ω} {sent received : List Bytes} {payload : Bytes}
      {s : SncTransport γ ω} :
      Exchanged first c sent received → WithinCap gss cfg c.sender.gss payload →
      Eff.run (snc_send_message gss out cfg payload) c.sending = (.ok (), s) →
      Exchanged first ⟨s, c.receiver, s.inner⟩ (sent ++ [payload]) received
  | received {c : Session γ δ ω} {sent received : List Bytes} {payload : Bytes}
      {r : SncTransport δ ω} :
      Exchanged first c sent received →
      Eff.run (snc_recv_message gss' inn cfg') c.receiving = (.ok payload, r) →
      Exchanged first ⟨c.sender, r, r.inner⟩ sent (received ++ [payload])

/-- Both sides are established, in one mode: behind the gateway with a handle of eight
bytes, or directly with one eye catcher that fits its field. -/
structure Matched (s : SncTransport γ ω) (r : SncTransport δ ω) : Prop where
  sender : s.established = true
  receiver : r.established = true
  mode : s.use_gw = r.use_gw
  handle : s.use_gw = true → s.gw_handle.length = 8
  eye : s.use_gw = false → cfg.eye = cfg'.eye ∧ cfg.eye.length ≤ 8

/-- A payload under way: its message, and what the receiving context will accept for it. -/
structure UnderWay where
  payload : Bytes
  wire : Bytes
  accepted : Option GssEvent

/-- The frame gives the payload, once the context accepts what goes with it. -/
def Gives (frame : SncFrame) (payload : Bytes) : Option GssEvent → Prop
  | some (.unwrapped token payload') =>
    frame.frame_type = SncFrameType.PRIVACY.toByte ∧ frame.gss_token = token ∧ payload' = payload
  | some (.verified message mic) =>
    frame.frame_type = SncFrameType.INTEGRITY.toByte ∧ frame.gss_token = mic ∧
      frame.app_data = message ∧ message = payload
  | none => frame.frame_type = SncFrameType.PLAIN.toByte ∧ frame.app_data = payload

/-- What holds of a session at any time. -/
structure Holds (peers : γ → δ → List GssEvent → Prop) (carries : ω → List Bytes → Prop)
    (c : Session γ δ ω) (under_way : List UnderWay) : Prop where
  matched : Matched cfg cfg' c.sender c.receiver
  contexts : peers c.sender.gss c.receiver.gss (under_way.filterMap UnderWay.accepted)
  network : carries c.network (under_way.map UnderWay.wire)
  readable : ∀ x ∈ under_way, ∃ frame,
    Reads c.receiver.use_gw cfg'.eye x.wire frame ∧ Gives frame x.payload x.accepted

variable {gss gss' out inn cfg cfg'} {peers : γ → δ → List GssEvent → Prop}
  {carries : ω → List Bytes → Prop}

/-- INTERNAL: what protecting a payload makes for the receiving context. -/
theorem protect_gives (h : Opposite gss gss' peers) {g g₁ : γ} {g' : δ} {made : List GssEvent}
    {payload : Bytes} {p : SncFrameType × Bytes × Bytes} (hpeers : peers g g' made)
    (hrun : Eff.run (protect gss cfg payload) g = (.ok p, g₁)) :
    ∃ accepted : Option GssEvent, peers g₁ g' (made ++ accepted.toList) ∧
      ∀ ctx_id qop, Gives ⟨p.1.toByte, ctx_id, qop, p.2.1, p.2.2⟩ payload accepted := by
  have hplain : Eff.run (pure (SncFrameType.PLAIN, [], payload) :
      Eff PyError γ (SncFrameType × Bytes × Bytes)) g = (.ok p, g₁) →
      ∃ accepted : Option GssEvent, peers g₁ g' (made ++ accepted.toList) ∧
        ∀ ctx_id qop, Gives ⟨p.1.toByte, ctx_id, qop, p.2.1, p.2.2⟩ payload accepted := by
    intro hpure
    rw [Eff.run_pure] at hpure
    cases hpure
    refine ⟨none, ?_, fun _ _ => ⟨rfl, rfl⟩⟩
    rwa [Option.toList_none, List.append_nil]
  unfold protect at hrun
  cases hq : QOP_PROTECTION cfg.qop with
  | PRIVACY =>
    rw [hq] at hrun
    obtain ⟨token, g₂, hwrap, hpure⟩ := Eff.run_bind_eq_ok hrun
    cases hpure
    exact ⟨some (.unwrapped token payload), h.wrap hpeers hwrap, fun _ _ => ⟨rfl, rfl, rfl⟩⟩
  | INTEGRITY =>
    rw [hq] at hrun
    obtain ⟨mic, g₂, hmic, hpure⟩ := Eff.run_bind_eq_ok hrun
    cases hpure
    exact ⟨some (.verified payload mic), h.get_mic hpeers hmic, fun _ _ => ⟨rfl, rfl, rfl, rfl⟩⟩
  | PLAIN =>
    rw [hq] at hrun
    exact hplain hrun
  | FR_INIT =>
    rw [hq] at hrun
    exact hplain hrun
  | FR_ACCEPT =>
    rw [hq] at hrun
    exact hplain hrun

/-- INTERNAL: a frame that gives the payload is handed up as the payload. -/
theorem run_dispatch_gives (h : Opposite gss gss' peers) {g : γ} {r : SncTransport δ ω}
    {made : List GssEvent} {frame : SncFrame} {payload : Bytes} {accepted : Option GssEvent}
    (hgives : Gives frame payload accepted) (hpeers : peers g r.gss (accepted.toList ++ made)) :
    ∃ r', Eff.run (dispatch gss' frame) r = (.ok payload, r') ∧ peers g r'.gss made ∧
      r'.inner = r.inner ∧ r'.established = r.established ∧ r'.use_gw = r.use_gw := by
  unfold dispatch
  match accepted, hgives, hpeers with
  | some (.unwrapped token payload'), hgives, hpeers =>
    obtain ⟨htype, rfl, rfl⟩ := hgives
    obtain ⟨g₁', hrun, hnext⟩ := h.unwrap hpeers
    rw [if_pos htype, run_unwrap, hrun]
    exact ⟨_, rfl, hnext, rfl, rfl, rfl⟩
  | some (.verified message mic), hgives, hpeers =>
    obtain ⟨htype, rfl, rfl, rfl⟩ := hgives
    obtain ⟨g₁', hrun, hnext⟩ := h.verify_mic hpeers
    rw [if_neg (by rw [htype]; decide), if_pos htype, Eff.run_bind, run_verify_mic, hrun]
    exact ⟨_, rfl, hnext, rfl, rfl, rfl⟩
  | none, hgives, hpeers =>
    obtain ⟨htype, rfl⟩ := hgives
    rw [if_neg (by rw [htype]; decide), if_neg (by rw [htype]; decide)]
    exact ⟨r, rfl, hpeers, rfl, rfl, rfl⟩

/-! ## One call -/

/-- INTERNAL: a payload within the cap is handed to the network as a message that the
receiver can read. -/
theorem run_sending (out : InnerTransport ω) {s : SncTransport γ ω} {r : SncTransport δ ω}
    (h : Matched cfg cfg' s r)
    {payload : Bytes} {p : SncFrameType × Bytes × Bytes} {g₁ : γ}
    (hrun : Eff.run (protect gss cfg payload) s.gss = (.ok p, g₁))
    (hcap : p.2.1.length + p.2.2.length ≤ MAX_FRAME_BYTES) :
    ∃ wire, Reads r.use_gw cfg'.eye wire
        ⟨p.1.toByte, SNC_CTX_ID, cfg.qop.value, p.2.1, p.2.2⟩ ∧
      Eff.run (snc_send_message gss out cfg payload) s =
        Eff.run (wrapTransportError (onInner (out.send_message wire))) { s with gss := g₁ } := by
  have hqop : cfg.qop.value < 256 ^ 2 := by cases cfg.qop <;> decide
  obtain ⟨wire, hwire, hreads⟩ := @wire_of_reads cfg s.use_gw s.gw_handle p.2.1 p.2.2 p.1 _
    (fun hgw => (h.eye hgw).2) h.handle hqop hcap
  refine ⟨wire, ?_, ?_⟩
  · rw [h.mode] at hreads
    refine ⟨fun hgw => ?_, hreads.2⟩
    rw [← (h.eye (h.mode.trans hgw)).1]
    exact hreads.1 hgw
  · rw [run_snc_send_message gss out cfg h.sender, hrun]
    show Eff.run (send_snc_frame out cfg p.1 p.2.1 p.2.2 [] cfg.qop.value) _ = _
    rw [run_send_snc_frame]
    show (match wire_of cfg s.use_gw s.gw_handle p.1 p.2.1 p.2.2 cfg.qop.value with
      | .ok wire => _ | .error e => _) = _
    rw [hwire]

/-- INTERNAL: a send that returns puts its payload under way. -/
theorem Holds.sent (hgss : Opposite gss gss' peers) (hnet : Delivers out inn carries)
    {c : Session γ δ ω} {under_way : List UnderWay} (h : Holds cfg cfg' peers carries c under_way)
    {payload : Bytes} {s : SncTransport γ ω} (hcap : WithinCap gss cfg c.sender.gss payload)
    (hrun : Eff.run (snc_send_message gss out cfg payload) c.sending = (.ok (), s)) :
    ∃ x : UnderWay, x.payload = payload ∧
      Holds cfg cfg' peers carries ⟨s, c.receiver, s.inner⟩ (under_way ++ [x]) := by
  have hest : c.sending.established = true := h.matched.sender
  have hmatched : Matched cfg cfg' c.sending c.receiver :=
    ⟨h.matched.sender, h.matched.receiver, h.matched.mode, h.matched.handle, h.matched.eye⟩
  rcases hp : Eff.run (protect gss cfg payload) c.sender.gss with ⟨e | p, g₁⟩
  · rw [run_snc_send_message gss out cfg hest, show c.sending.gss = c.sender.gss from rfl, hp]
      at hrun
    cases hrun
  · obtain ⟨wire, hreads, hsend⟩ := run_sending out hmatched hp (hcap p (by rw [hp]))
    obtain ⟨accepted, hpeers, hgives⟩ := protect_gives hgss h.contexts hp
    rw [hsend] at hrun
    have hinner : ({ c.sending with gss := g₁ } : SncTransport γ ω).inner = c.network := rfl
    rcases hw : Eff.run (out.send_message wire) c.network with ⟨e | _, w₁⟩
    · rw [run_wrapped_inner_error (hinner ▸ hw)] at hrun
      cases hrun
    · rw [run_wrapped_inner (hinner ▸ hw)] at hrun
      cases hrun
      refine ⟨⟨payload, wire, accepted⟩, rfl, ?_⟩
      constructor
      · exact ⟨h.matched.sender, h.matched.receiver, h.matched.mode, h.matched.handle,
          h.matched.eye⟩
      · rw [List.filterMap_append]
        cases accepted with
        | none => exact hpeers
        | some event => exact hpeers
      · rw [List.map_append]
        exact hnet.send h.network hw
      · intro x hx
        rcases List.mem_append.mp hx with hx | hx
        · exact h.readable x hx
        · rw [List.mem_singleton.mp hx]
          exact ⟨_, hreads, hgives _ _⟩

/-- INTERNAL: a receive returns the first payload under way. -/
theorem Holds.received (hgss : Opposite gss gss' peers) (hnet : Delivers out inn carries)
    {c : Session γ δ ω} {x : UnderWay} {under_way : List UnderWay}
    (h : Holds cfg cfg' peers carries c (x :: under_way)) :
    ∃ r, Eff.run (snc_recv_message gss' inn cfg') c.receiving = (.ok x.payload, r) ∧
      Holds cfg cfg' peers carries ⟨c.sender, r, r.inner⟩ under_way := by
  obtain ⟨frame, hreads, hgives⟩ := h.readable x List.mem_cons_self
  obtain ⟨w₁, hw, hrest⟩ := hnet.recv h.network
  have hpeers : peers c.sender.gss c.receiver.gss
      (x.accepted.toList ++ under_way.filterMap UnderWay.accepted) := by
    have hcontexts := h.contexts
    rw [List.filterMap_cons] at hcontexts
    cases hx : x.accepted with
    | none =>
      rw [hx] at hcontexts
      exact hcontexts
    | some event =>
      rw [hx] at hcontexts
      exact hcontexts
  obtain ⟨r, hrun, hnext, hinner, hest, hgw⟩ := run_dispatch_gives hgss
    (r := { c.receiving with inner := w₁ }) hgives hpeers
  refine ⟨r, ?_, ?_⟩
  · rw [run_snc_recv_reads gss' inn cfg' (r := c.receiving) h.matched.receiver hw hreads]
    exact hrun
  · have hgw' : r.use_gw = c.receiver.use_gw := hgw
    constructor
    · exact ⟨h.matched.sender, hest.trans h.matched.receiver, h.matched.mode.trans hgw.symm,
        h.matched.handle, h.matched.eye⟩
    · exact hnext
    · rw [show (⟨c.sender, r, r.inner⟩ : Session γ δ ω).network = w₁ from hinner]
      exact hrest
    · intro y hy
      show ∃ frame, Reads r.use_gw cfg'.eye y.wire frame ∧ _
      rw [hgw']
      exact h.readable y (List.mem_cons_of_mem _ hy)

/-- INTERNAL: with nothing under way a receive does not return. -/
theorem Holds.idle (hnet : Delivers out inn carries) {c : Session γ δ ω}
    (h : Holds cfg cfg' peers carries c []) {payload : Bytes} {r : SncTransport δ ω} :
    Eff.run (snc_recv_message gss' inn cfg') c.receiving ≠ (.ok payload, r) := by
  intro hrun
  rcases hw : Eff.run inn.recv_message c.network with ⟨e | wire, w₁⟩
  · obtain ⟨e', he⟩ := run_snc_recv_message_error gss' inn cfg' (s := c.receiving) hw
    rw [hrun] at he
    cases he
  · exact hnet.idle h.network hw

/-! ## The whole session -/

/-- INTERNAL: what is sent is what is received and what is under way.  By induction on the
calls. -/
theorem Exchanged.holds (hgss : Opposite gss gss' peers) (hnet : Delivers out inn carries)
    {first c : Session γ δ ω} {sent received : List Bytes}
    (hfirst : Holds cfg cfg' peers carries first [])
    (h : Exchanged gss gss' out inn cfg cfg' first c sent received) :
    ∃ under_way, Holds cfg cfg' peers carries c under_way ∧
      sent = received ++ under_way.map UnderWay.payload := by
  induction h with
  | start => exact ⟨[], hfirst, rfl⟩
  | @sent c sent received payload s _ hcap hrun ih =>
    obtain ⟨under_way, hholds, hsent⟩ := ih
    obtain ⟨x, hx, hnext⟩ := hholds.sent hgss hnet hcap hrun
    refine ⟨under_way ++ [x], hnext, ?_⟩
    rw [hsent, List.map_append, List.append_assoc, List.map_singleton, hx]
  | @received c sent received payload r _ hrun ih =>
    obtain ⟨under_way, hholds, hsent⟩ := ih
    cases under_way with
    | nil => exact absurd hrun (hholds.idle hnet)
    | cons x rest =>
      obtain ⟨r', hrun', hnext⟩ := hholds.received hgss hnet
      rw [hrun] at hrun'
      cases hrun'
      refine ⟨rest, hnext, ?_⟩
      rw [hsent, List.map_cons, List.append_assoc, List.singleton_append]

/-- SOURCE: snc.py:993-1049.  Whatever was sent and received on an established session, and in
which order, what was sent is what was received and what is under way.  A receive returns the
first payload under way, and a payload whose protected form is within the cap is handed to
the network as one message. -/
theorem received_as_sent (hgss : Opposite gss gss' peers) (hnet : Delivers out inn carries)
    {first c : Session γ δ ω} {sent received : List Bytes}
    (hmatched : Matched cfg cfg' first.sender first.receiver)
    (hpeers : peers first.sender.gss first.receiver.gss [])
    (hcarries : carries first.network [])
    (h : Exchanged gss gss' out inn cfg cfg' first c sent received) :
    ∃ pending, sent = received ++ pending ∧
      (∀ payload rest, pending = payload :: rest →
        ∃ r, Eff.run (snc_recv_message gss' inn cfg') c.receiving = (.ok payload, r)) ∧
      ∀ payload p g₁, Eff.run (protect gss cfg payload) c.sender.gss = (.ok p, g₁) →
        p.2.1.length + p.2.2.length ≤ MAX_FRAME_BYTES →
        ∃ wire, Eff.run (snc_send_message gss out cfg payload) c.sending =
          Eff.run (wrapTransportError (onInner (out.send_message wire)))
            { c.sending with gss := g₁ } := by
  have hfirst : Holds cfg cfg' peers carries first [] :=
    ⟨hmatched, hpeers, hcarries, fun x hx => absurd hx List.not_mem_nil⟩
  obtain ⟨under_way, hholds, hsent⟩ := h.holds hgss hnet hfirst
  refine ⟨under_way.map UnderWay.payload, hsent, ?_, ?_⟩
  · intro payload rest hpending
    cases under_way with
    | nil => cases hpending
    | cons x tail =>
      obtain ⟨rfl, -⟩ := List.cons.inj hpending
      obtain ⟨r, hrun, -⟩ := hholds.received hgss hnet
      exact ⟨r, hrun⟩
  · intro payload p g₁ hp hcap
    have hm : Matched cfg cfg' c.sending c.receiver :=
      ⟨hholds.matched.sender, hholds.matched.receiver, hholds.matched.mode,
        hholds.matched.handle, hholds.matched.eye⟩
    obtain ⟨wire, -, hrun⟩ := run_sending out hm (s := c.sending) hp hcap
    exact ⟨wire, hrun⟩

end Sides

/-! ## A session behind the gateway -/

/-- A mechanism that numbers its tokens and takes them in this order only. -/
def numberedGss : GssBinding ℕ where
  init_sec_context := fun _ => pure (GSS_S_COMPLETE, [])
  wrap := fun payload => Eff.mk fun n => (.ok (UInt8.ofNat n :: payload.map (· + 1)), n + 1)
  unwrap := fun token => Eff.mk fun n =>
    if token.take 1 = [UInt8.ofNat n] then (.ok ((token.drop 1).map (· - 1)), n + 1)
    else (.error (err .snc (lit "GSS error")), n)
  get_mic := fun message => Eff.mk fun n =>
    (.ok [UInt8.ofNat n, UInt8.ofNat message.length], n + 1)
  verify_mic := fun message mic => Eff.mk fun n =>
    if mic = [UInt8.ofNat n, UInt8.ofNat message.length] then (.ok (), n + 1)
    else (.error (err .snc (lit "GSS error")), n)

/-- What the mechanism made under a number. -/
def MadeAt (n : ℕ) : GssEvent → Prop
  | .unwrapped token payload => token = UInt8.ofNat n :: payload.map (· + 1)
  | .verified message mic => mic = [UInt8.ofNat n, UInt8.ofNat message.length]

/-- What is made and not yet presented has the numbers between the two counters. -/
def Numbered (n : ℕ) : ℕ → List GssEvent → Prop
  | m, [] => n = m
  | m, event :: rest => MadeAt m event ∧ Numbered n (m + 1) rest

theorem Numbered.append {n : ℕ} {event : GssEvent} (h : MadeAt n event) :
    ∀ {made : List GssEvent} {m : ℕ}, Numbered n m made → Numbered (n + 1) m (made ++ [event])
  | [], _, hm => by
    obtain rfl : n = _ := hm
    exact ⟨h, rfl⟩
  | _ :: _, _, hm => ⟨hm.1, Numbered.append h hm.2⟩

theorem opposite_numberedGss : Opposite numberedGss numberedGss Numbered where
  wrap := by
    intro g g₁ g' made payload token hmade hrun
    cases hrun
    exact Numbered.append (show MadeAt g (.unwrapped _ payload) from rfl) hmade
  get_mic := by
    intro g g₁ g' made message mic hmade hrun
    cases hrun
    exact Numbered.append (show MadeAt g (.verified message _) from rfl) hmade
  unwrap := by
    intro g g' made payload token hmade
    obtain ⟨rfl, hrest⟩ := hmade
    refine ⟨g' + 1, ?_, hrest⟩
    show (if List.take 1 (UInt8.ofNat g' :: payload.map (· + 1)) = [UInt8.ofNat g'] then _
      else _) = _
    have hopen : (payload.map (· + 1)).map (· - 1) = payload := by
      rw [List.map_map]
      apply List.map_id''
      intro b
      show b + 1 - 1 = b
      simp
    rw [if_pos (by rfl), List.drop_one, List.tail_cons, hopen]
  verify_mic := by
    intro g g' made message mic hmade
    obtain ⟨rfl, hrest⟩ := hmade
    exact ⟨g' + 1, if_pos rfl, hrest⟩

/-- The messages under way, the first one sent in front. -/
def queueTransport : InnerTransport (List Bytes) where
  send_message := fun wire => Eff.update (· ++ [wire])
  recv_message := Eff.mk fun
    | [] => (.error (short_read 0 4), [])
    | wire :: rest => (.ok wire, rest)

theorem delivers_queueTransport : Delivers queueTransport queueTransport (· = ·) where
  send := by
    intro w w₁ under_way wire hw hrun
    cases hrun
    rw [hw]
  recv := by
    rintro w under_way wire rfl
    exact ⟨under_way, rfl, rfl⟩
  idle := by
    rintro w w₁ wire rfl hrun
    cases hrun

/-- An established side behind the gateway, with the handle `00000001`. -/
def gatewaySide : SncTransport ℕ (List Bytes) where
  gss := 0
  inner := []
  established := true
  use_gw := true
  gw_handle := [0x30, 0x30, 0x30, 0x30, 0x30, 0x30, 0x30, 0x31]
  log := []

theorem matched_gatewaySide : Matched privacyConfig privacyConfig gatewaySide gatewaySide where
  sender := rfl
  receiver := rfl
  mode := rfl
  handle := fun _ => rfl
  eye := by
    intro h
    cases h

/-- The sending side once it sent the texts `PING` and `PONG`. -/
def sentTwo : SncTransport ℕ (List Bytes) :=
  (Eff.run (do
    snc_send_message numberedGss queueTransport privacyConfig [0x50, 0x49, 0x4E, 0x47]
    snc_send_message numberedGss queueTransport privacyConfig [0x50, 0x4F, 0x4E, 0x47])
      gatewaySide).2

theorem exchanged_sentTwo :
    Exchanged numberedGss numberedGss queueTransport queueTransport privacyConfig privacyConfig
      ⟨gatewaySide, gatewaySide, []⟩ ⟨sentTwo, gatewaySide, sentTwo.inner⟩
      [[0x50, 0x49, 0x4E, 0x47], [0x50, 0x4F, 0x4E, 0x47]] [] := by
  have hcap : ∀ n payload, payload.length = 4 →
      WithinCap numberedGss privacyConfig n payload := by
    intro n payload hlen p hp
    cases hp
    simp [hlen, MAX_FRAME_BYTES]
  have hping : Exchanged numberedGss numberedGss queueTransport queueTransport privacyConfig
      privacyConfig ⟨gatewaySide, gatewaySide, []⟩
      ⟨(Eff.run (snc_send_message numberedGss queueTransport privacyConfig
        [0x50, 0x49, 0x4E, 0x47]) gatewaySide).2, gatewaySide, _⟩
      [[0x50, 0x49, 0x4E, 0x47]] [] :=
    Exchanged.start.sent (hcap 0 [0x50, 0x49, 0x4E, 0x47] rfl) rfl
  exact hping.sent (hcap 1 [0x50, 0x4F, 0x4E, 0x47] rfl) rfl

/-- Two payloads sent with privacy are under way, and a receive returns the first. -/
theorem received_as_sent_two :
    ∃ pending, [[0x50, 0x49, 0x4E, 0x47], [0x50, 0x4F, 0x4E, 0x47]] = [] ++ pending ∧
      (∀ payload rest, pending = payload :: rest →
        ∃ r, Eff.run (snc_recv_message numberedGss queueTransport privacyConfig)
          (Session.receiving ⟨sentTwo, gatewaySide, sentTwo.inner⟩) = (.ok payload, r)) ∧
      ∀ payload p g₁, Eff.run (protect numberedGss privacyConfig payload) sentTwo.gss =
          (.ok p, g₁) →
        p.2.1.length + p.2.2.length ≤ MAX_FRAME_BYTES →
        ∃ wire, Eff.run (snc_send_message numberedGss queueTransport privacyConfig payload)
            (Session.sending ⟨sentTwo, gatewaySide, sentTwo.inner⟩) =
          Eff.run (wrapTransportError (onInner (queueTransport.send_message wire)))
            { Session.sending ⟨sentTwo, gatewaySide, sentTwo.inner⟩ with gss := g₁ } :=
  received_as_sent opposite_numberedGss delivers_queueTransport matched_gatewaySide
    (show Numbered 0 0 [] from rfl) (show [] = gatewaySide.inner from rfl) exchanged_sentTwo

end SapRfc.Analysis.SncRoundTrip
