import SapRfc.Analysis.NiStreams
import SapRfc.Analysis.SessionStates
import SapRfc.Program.Opening

/-!
# Connections are opened by what the server accepts

A connection is opened by a route the router acknowledges, if it goes through routers, and by four
frames that the session accepts in their order; by nothing else, and however the stream is cut into
pieces.  Nothing is said before the answers in front of it were read and accepted: the logon, and
the password with it, goes out last.
-/

set_option autoImplicit false

namespace SapRfc.Analysis.Openings

open SapRfc.Library SapRfc.Library.Dialogues SapRfc.Library.Conversations SapRfc.Program
open SapRfc.Analysis.NiStreams

/-! ## Frames that are read -/

/-- The bytes of a frame that `recv_message` returns. -/
def Carrying (answer payload : Bytes) : Prop := Deliverable payload ∧ answer = frame payload

/-- `recv` takes so many bytes off the stream, however many, and returns on no shorter one. -/
def TakesAll {σ : Type} (stream : σ → Bytes) (recv : ℕ → Eff PyError σ Bytes) : Prop :=
  ∀ n, Eff.EndsAs stream (recv n) fun t a t' => a.length = n ∧ t = a ++ t'

/-- INTERNAL: as many bytes make no greater number. -/
theorem ofBE_lt (b : Bytes) : ofBE b < 256 ^ b.length := by
  induction b with
  | nil => simp
  | cons x xs ih =>
    have hx : x.toNat < 256 := x.toNat_lt
    rw [ofBE_cons, List.length_cons, pow_succ]
    nlinarith

/-- INTERNAL: of as many bytes, the number says which they are. -/
theorem eq_of_ofBE {a b : Bytes} (hlength : a.length = b.length) (h : ofBE a = ofBE b) : a = b := by
  induction a generalizing b with
  | nil => exact (List.length_eq_zero_iff.mp hlength.symm).symm
  | cons x xs ih =>
    cases b with
    | nil => cases hlength
    | cons y ys =>
      have hrest : xs.length = ys.length := Nat.succ.inj hlength
      have hx := ofBE_lt xs
      have hy := ofBE_lt ys
      have hpos : 0 < 256 ^ ys.length := Nat.pow_pos (by norm_num)
      rw [hrest] at hx
      rw [ofBE_cons, ofBE_cons, hrest] at h
      have hquotient : ∀ n m : ℕ, m < 256 ^ ys.length →
          (n * 256 ^ ys.length + m) / 256 ^ ys.length = n := by
        intro n m hm
        rw [Nat.mul_comm, Nat.mul_add_div hpos, Nat.div_eq_of_lt hm, Nat.add_zero]
      have hhead : x.toNat = y.toNat := by
        calc x.toNat = (x.toNat * 256 ^ ys.length + ofBE xs) / 256 ^ ys.length :=
              (hquotient _ _ hx).symm
          _ = (y.toNat * 256 ^ ys.length + ofBE ys) / 256 ^ ys.length := by rw [h]
          _ = y.toNat := hquotient _ _ hy
      rw [hhead] at h
      rw [UInt8.toNat_inj.mp hhead, ih hrest (Nat.add_left_cancel h)]

/-- INTERNAL: bytes are laid out as the number that they make. -/
theorem toBE_ofBE (b : Bytes) : toBE b.length (ofBE b) = b :=
  eq_of_ofBE (length_toBE ..) (ofBE_toBE_of_lt (ofBE_lt b))

section Reading

variable {σ : Type} {stream : σ → Bytes} {recv : ℕ → Eff PyError σ Bytes} {u : Unicode}

theorem raise_for_ni_error_eq_ok {payload : Bytes} :
    raise_for_ni_error u payload = .ok () ↔ payload.take 8 ≠ NI_RTERR := by
  unfold raise_for_ni_error
  by_cases h : payload.take 8 = NI_RTERR
  · rw [if_pos h]
    constructor
    · intro hok
      cases hok
    · intro hne
      exact absurd h hne
  · rw [if_neg h]
    exact ⟨fun _ => h, fun _ => rfl⟩

/-- A frame within the cap is taken off the stream, unless it is a refusal. -/
theorem takesAnswers_recv_message (hrecv : TakesAll stream recv) :
    TakesAnswers stream (recv_message u recv) Carrying := by
  have hbody : ∀ header : Bytes, Eff.EndsAs stream
      (if MAX_FRAME_BYTES < ofBE header then
        throw (err .value (lit "NI frame length " ++ dec (ofBE header) ++ lit " exceeds cap " ++
          dec MAX_FRAME_BYTES ++ lit " (DoS guard)"))
      else do
        let payload ← recv (ofBE header)
        Eff.lift (raise_for_ni_error u payload)
        pure payload) fun t payload t' => ofBE header ≤ MAX_FRAME_BYTES ∧
          payload.length = ofBE header ∧ payload.take 8 ≠ NI_RTERR ∧ t = payload ++ t' := by
    intro header s payload t
    by_cases hcap : MAX_FRAME_BYTES < ofBE header
    · rw [if_pos hcap]
      constructor
      · rintro ⟨s', hrun, -⟩
        cases hrun
      · rintro ⟨hle, -⟩
        omega
    · rw [if_neg hcap]
      constructor
      · rintro ⟨s', hrun, rfl⟩
        obtain ⟨body, mid, hread, hrun⟩ := Eff.run_bind_eq_ok hrun
        obtain ⟨_, mid', hchecked, hrun⟩ := Eff.run_bind_eq_ok hrun
        rw [Eff.run_lift] at hchecked
        obtain ⟨hok, rfl⟩ := Prod.mk.inj hchecked
        cases hrun
        obtain ⟨hlength, hstream⟩ := (hrecv _ s payload _).mp ⟨_, hread, rfl⟩
        exact ⟨Nat.le_of_not_lt hcap, hlength, raise_for_ni_error_eq_ok.mp hok, hstream⟩
      · rintro ⟨-, hlength, hpayload, hstream⟩
        obtain ⟨s', hread, hrest⟩ := (hrecv _ s payload t).mpr ⟨hlength, hstream⟩
        refine ⟨s', ?_, hrest⟩
        rw [Eff.run_bind_ok hread, raise_for_ni_error_eq_ok.mpr hpayload]
        rfl
  intro s payload t
  constructor
  · rintro ⟨s', hrun, rfl⟩
    obtain ⟨header, mid, hheader, hrun⟩ := Eff.run_bind_eq_ok hrun
    obtain ⟨hfour, hstream⟩ := (hrecv 4 s header _).mp ⟨_, hheader, rfl⟩
    obtain ⟨hcap, hlength, hpayload, hmid⟩ := (hbody header mid payload _).mp ⟨_, hrun, rfl⟩
    refine ⟨frame payload, ⟨⟨hlength.trans_le hcap, hpayload⟩, rfl⟩, ?_⟩
    have hlaid : toBE 4 payload.length = header := by
      rw [hlength, ← hfour]
      exact toBE_ofBE header
    rw [hstream, hmid]
    unfold frame
    rw [hlaid, List.append_assoc]
  · rintro ⟨answer, ⟨⟨hcap, hpayload⟩, rfl⟩, hstream⟩
    have hlimit := MAX_FRAME_BYTES_lt
    have hlength : ofBE (toBE 4 payload.length) = payload.length := ofBE_toBE_of_lt (by omega)
    have hheader := (hrecv 4 s (toBE 4 payload.length) (payload ++ t)).mpr
      ⟨length_toBE .., by rw [hstream, frame, List.append_assoc]⟩
    obtain ⟨mid, hrun, hmid⟩ := hheader
    obtain ⟨s', hrest, hs'⟩ := (hbody (toBE 4 payload.length) mid payload t).mpr
      ⟨hlength.trans_le hcap, hlength.symm, hpayload, hmid⟩
    refine ⟨s', ?_, hs'⟩
    unfold recv_message
    rw [Eff.run_bind_ok hrun]
    exact hrest

end Reading

/-! ## What the server says -/

section Answers

variable (u : Unicode) (allow : Bool)

/-- A version frame that is accepted, and its code page. -/
structure VersionAccepted (version : Bytes) (codepage : PyStr) : Prop where
  deliverable : Deliverable version
  long : 24 ≤ version.length
  ascii : decodeAscii (slice version 20 24) = .ok codepage

/-- A frame that is accepted for its length. -/
structure FrameAccepted (least : ℕ) (payload : Bytes) : Prop where
  deliverable : Deliverable payload
  long : least ≤ payload.length

/-- A logon reply that is accepted. -/
structure LogonAccepted (codepage : PyStr) (reply : Bytes) (tags : Tags) : Prop where
  deliverable : Deliverable reply
  judged : judgeLogon u allow (some codepage) reply = .ok tags

/-- The handle that a connect answer assigns. -/
def assigned (connect : Bytes) : Bytes := slice connect 40 48

/-! ## What the client says -/

variable (login : Login)

/-- The first frame. -/
def hello : Bytes := frame (build_ni_version_request u login.local_ip)

/-- What is sent behind the version answer. -/
def connect_request : Except PyError Bytes :=
  build_gw_connect_request u login.host login.gateway login.sysnr false >>= build_ni_frame

/-- What is sent behind the connect answer, with the one below. -/
def info_request (handle : Bytes) : Except PyError Bytes :=
  build_gw_info handle login.gateway false >>= build_ni_frame

def done_request (handle : Bytes) : Except PyError Bytes :=
  build_ni_frame (build_gw_done_client handle false)

/-- What is sent last; the password is in it. -/
def logon_request (handle : Bytes) : Except PyError Bytes :=
  logon_message u login handle >>= build_ni_frame

theorem build_hello :
    build_ni_frame (build_ni_version_request u login.local_ip) = .ok (hello u login) := by
  have hlength := length_build_ni_version_request u login.local_ip
  have hcap : (64 : ℕ) < 256 ^ 4 := by norm_num
  unfold build_ni_frame
  rw [if_neg (by omega)]
  rfl

/-! ## The session in between -/

def greeted : Session := { Session.init with state := .CONNECTED }

def versioned (codepage : PyStr) : Session :=
  { greeted with codepage := some codepage, state := .NI_VERSIONED }

def connected (codepage : PyStr) (connect : Bytes) : Session :=
  { versioned codepage with handle := some (assigned connect), state := .GW_CONNECTED }

def gatewayDone (codepage : PyStr) (connect : Bytes) : Session :=
  { connected codepage connect with state := .GW_DONE }

/-- The session of a connection that was opened. -/
def opened (codepage : PyStr) (connect reply : Bytes) (tags : Tags) : Session :=
  { gatewayDone codepage connect with
    attributes := some (logon_attributes (is_live reply) codepage tags)
    state := .READY }

/-! ## Feeding -/

variable {u allow login}

theorem feed_greeted {resp out : Bytes} {s' : Session} :
    Eff.run (feed u allow resp) greeted = (.ok out, s') ↔
      out = [] ∧ 24 ≤ resp.length ∧ ∃ codepage, decodeAscii (slice resp 20 24) = .ok codepage ∧
        s' = versioned codepage := by
  show Eff.run (handle_ni_version_response resp) greeted = _ ↔ _
  unfold handle_ni_version_response
  by_cases hshort : resp.length < 24
  · rw [if_pos hshort]
    constructor
    · intro h
      cases h
    · rintro ⟨-, hlong, -⟩
      omega
  · rw [if_neg hshort]
    cases hcodepage : decodeAscii (slice resp 20 24) with
    | error e =>
      constructor
      · intro h
        cases h
      · rintro ⟨-, -, codepage, h, -⟩
        cases h
    | ok codepage =>
      constructor
      · intro h
        cases h
        exact ⟨rfl, Nat.le_of_not_lt hshort, codepage, rfl, rfl⟩
      · rintro ⟨rfl, -, codepage', h, rfl⟩
        obtain rfl := Except.ok.inj h
        rfl

theorem feed_versioned {codepage : PyStr} {resp out : Bytes} {s' : Session} :
    Eff.run (feed u allow resp) (versioned codepage) = (.ok out, s') ↔
      out = [] ∧ 48 ≤ resp.length ∧ s' = connected codepage resp := by
  show Eff.run (handle_gw_connect_response resp) (versioned codepage) = _ ↔ _
  unfold handle_gw_connect_response
  by_cases hshort : resp.length < 48
  · rw [if_pos hshort]
    constructor
    · intro h
      cases h
    · rintro ⟨-, hlong, -⟩
      omega
  · rw [if_neg hshort]
    constructor
    · intro h
      cases h
      exact ⟨rfl, Nat.le_of_not_lt hshort, rfl⟩
    · rintro ⟨rfl, -, rfl⟩
      rfl

theorem feed_connected {codepage : PyStr} {connect resp out : Bytes} {s' : Session} :
    Eff.run (feed u allow resp) (connected codepage connect) = (.ok out, s') ↔
      out = [] ∧ 73 ≤ resp.length ∧ s' = gatewayDone codepage connect := by
  show Eff.run (handle_gw_done resp) (connected codepage connect) = _ ↔ _
  unfold handle_gw_done
  by_cases hshort : resp.length < 73
  · rw [if_pos hshort]
    constructor
    · intro h
      cases h
    · rintro ⟨-, hlong, -⟩
      omega
  · rw [if_neg hshort]
    constructor
    · intro h
      cases h
      exact ⟨rfl, Nat.le_of_not_lt hshort, rfl⟩
    · rintro ⟨rfl, -, rfl⟩
      rfl

theorem feed_gatewayDone {codepage : PyStr} {connect resp out : Bytes} {s' : Session} :
    Eff.run (feed u allow resp) (gatewayDone codepage connect) = (.ok out, s') ↔
      out = [] ∧ ∃ tags, judgeLogon u allow (some codepage) resp = .ok tags ∧
        s' = opened codepage connect resp tags := by
  show Eff.run (handle_logon_response u allow resp) (gatewayDone codepage connect) = _ ↔ _
  rw [run_handle_logon_response]
  show _ ↔ out = [] ∧ ∃ tags, judgeLogon u allow (gatewayDone codepage connect).codepage resp =
    .ok tags ∧ _
  cases judgeLogon u allow (gatewayDone codepage connect).codepage resp with
  | error e =>
    constructor
    · intro h
      cases h
    · rintro ⟨-, tags, h, -⟩
      cases h
  | ok tags =>
    constructor
    · intro h
      cases h
      exact ⟨rfl, tags, rfl, rfl⟩
    · rintro ⟨rfl, tags', h, rfl⟩
      obtain rfl := Except.ok.inj h
      rfl

/-- A reaction is a feed, and what is sent behind it. -/
theorem run_react_eq_ok {resp : Bytes} {s s' : Session} {messages : List (Except PyError Bytes)} :
    Eff.run (react u allow login resp) s = (.ok messages, s') ↔
      Eff.run (feed u allow resp) s = (.ok [], s') ∧
        messages =
          (leg_requests u login s.state s'.handle_or_zeros).map (· >>= build_ni_frame) := by
  unfold react
  rw [Eff.run_bind_ok (Eff.run_state s)]
  rcases feed_cases u allow resp s with ⟨mid, hfeed, -⟩ | ⟨e, hfeed⟩
  · rw [Eff.run_bind_ok hfeed, Eff.run_bind_ok (Eff.run_state mid), hfeed]
    dsimp only
    rw [if_pos rfl]
    constructor
    · intro h
      cases h
      exact ⟨rfl, rfl⟩
    · rintro ⟨h, rfl⟩
      cases h
      rfl
  · rw [Eff.run_bind_error hfeed, hfeed]
    constructor
    · intro h
      cases h
    · rintro ⟨h, -⟩
      cases h

theorem length_assigned {connect : Bytes} (h : 48 ≤ connect.length) :
    (assigned connect).length = 8 := by
  unfold assigned
  rw [length_slice]
  omega

/-- INTERNAL: a handle that was assigned is used. -/
theorem handle_assigned {s : Session} {connect : Bytes} (h : 48 ≤ connect.length)
    (hs : s.handle = some (assigned connect)) : s.handle_or_zeros = assigned connect := by
  have hlength := length_assigned h
  unfold Session.handle_or_zeros
  rw [hs]
  cases hassigned : assigned connect with
  | nil =>
    rw [hassigned] at hlength
    cases hlength
  | cons b rest => rfl

end Answers

/-! ## Turns of a handshake -/

section Turns

variable {u : Unicode} {allow : Bool} {login : Login}

theorem turned_greeted {answer said : Bytes} {s' : Session} :
    Turned Carrying (react u allow login) greeted answer said s' ↔
      ∃ version codepage, VersionAccepted version codepage ∧ answer = frame version ∧
        connect_request u login = .ok said ∧ s' = versioned codepage := by
  constructor
  · rintro ⟨version, messages, ⟨hdeliverable, rfl⟩, hreact, hmade⟩
    obtain ⟨hfeed, rfl⟩ := run_react_eq_ok.mp hreact
    obtain ⟨-, hlong, codepage, hascii, rfl⟩ := feed_greeted.mp hfeed
    exact ⟨version, codepage, ⟨hdeliverable, hlong, hascii⟩, rfl, made_singleton.mp hmade, rfl⟩
  · rintro ⟨version, codepage, haccepted, rfl, hrequest, rfl⟩
    have hfeed : Eff.run (feed u allow version) greeted = (.ok [], versioned codepage) :=
      feed_greeted.mpr ⟨rfl, haccepted.long, codepage, haccepted.ascii, rfl⟩
    exact ⟨version, _, ⟨haccepted.deliverable, rfl⟩, run_react_eq_ok.mpr ⟨hfeed, rfl⟩,
      made_singleton.mpr hrequest⟩

theorem turned_versioned {codepage : PyStr} {answer said : Bytes} {s' : Session} :
    Turned Carrying (react u allow login) (versioned codepage) answer said s' ↔
      ∃ connect info done, FrameAccepted 48 connect ∧ answer = frame connect ∧
        info_request login (assigned connect) = .ok info ∧
        done_request (assigned connect) = .ok done ∧ said = info ++ done ∧
        s' = connected codepage connect := by
  constructor
  · rintro ⟨connect, messages, ⟨hdeliverable, rfl⟩, hreact, hmade⟩
    obtain ⟨hfeed, rfl⟩ := run_react_eq_ok.mp hreact
    obtain ⟨-, hlong, rfl⟩ := feed_versioned.mp hfeed
    rw [handle_assigned (s := connected codepage connect) hlong rfl] at hmade
    obtain ⟨info, done, hinfo, hdone, rfl⟩ := made_pair.mp hmade
    exact ⟨connect, info, done, ⟨hdeliverable, hlong⟩, rfl, hinfo, hdone, rfl, rfl⟩
  · rintro ⟨connect, info, done, haccepted, rfl, hinfo, hdone, rfl, rfl⟩
    have hfeed : Eff.run (feed u allow connect) (versioned codepage) =
        (.ok [], connected codepage connect) := feed_versioned.mpr ⟨rfl, haccepted.long, rfl⟩
    refine ⟨connect, _, ⟨haccepted.deliverable, rfl⟩, run_react_eq_ok.mpr ⟨hfeed, rfl⟩, ?_⟩
    rw [handle_assigned (s := connected codepage connect) haccepted.long rfl]
    exact made_pair.mpr ⟨info, done, hinfo, hdone, rfl⟩

theorem turned_connected {codepage : PyStr} {connect answer said : Bytes} {s' : Session}
    (hlong : 48 ≤ connect.length) :
    Turned Carrying (react u allow login) (connected codepage connect) answer said s' ↔
      ∃ done, FrameAccepted 73 done ∧ answer = frame done ∧
        logon_request u login (assigned connect) = .ok said ∧
        s' = gatewayDone codepage connect := by
  have hhandle := handle_assigned (s := gatewayDone codepage connect) hlong rfl
  constructor
  · rintro ⟨done, messages, ⟨hdeliverable, rfl⟩, hreact, hmade⟩
    obtain ⟨hfeed, rfl⟩ := run_react_eq_ok.mp hreact
    obtain ⟨-, hleast, rfl⟩ := feed_connected.mp hfeed
    rw [hhandle] at hmade
    exact ⟨done, ⟨hdeliverable, hleast⟩, rfl, made_singleton.mp hmade, rfl⟩
  · rintro ⟨done, haccepted, rfl, hlogon, rfl⟩
    have hfeed : Eff.run (feed u allow done) (connected codepage connect) =
        (.ok [], gatewayDone codepage connect) := feed_connected.mpr ⟨rfl, haccepted.long, rfl⟩
    refine ⟨done, _, ⟨haccepted.deliverable, rfl⟩, run_react_eq_ok.mpr ⟨hfeed, rfl⟩, ?_⟩
    rw [hhandle]
    exact made_singleton.mpr hlogon

theorem turned_gatewayDone {codepage : PyStr} {connect answer said : Bytes} {s' : Session} :
    Turned Carrying (react u allow login) (gatewayDone codepage connect) answer said s' ↔
      ∃ reply tags, LogonAccepted u allow codepage reply tags ∧ answer = frame reply ∧
        said = [] ∧ s' = opened codepage connect reply tags := by
  constructor
  · rintro ⟨reply, messages, ⟨hdeliverable, rfl⟩, hreact, hmade⟩
    obtain ⟨hfeed, rfl⟩ := run_react_eq_ok.mp hreact
    obtain ⟨-, tags, hjudged, rfl⟩ := feed_gatewayDone.mp hfeed
    exact ⟨reply, tags, ⟨hdeliverable, hjudged⟩, rfl, made_nil.mp hmade, rfl⟩
  · rintro ⟨reply, tags, haccepted, rfl, rfl, rfl⟩
    have hfeed : Eff.run (feed u allow reply) (gatewayDone codepage connect) =
        (.ok [], opened codepage connect reply tags) :=
      feed_gatewayDone.mpr ⟨rfl, tags, haccepted.judged, rfl⟩
    exact ⟨reply, _, ⟨haccepted.deliverable, rfl⟩, run_react_eq_ok.mpr ⟨hfeed, rfl⟩, Made.nil⟩

/-! ## The handshake -/

/-- What a server says to let a client in, what the client says to it, and the session that
comes of it. -/
inductive Admitted (u : Unicode) (allow : Bool) (login : Login) : Bytes → Bytes → Session → Prop
  | intro {version connect done reply request info finish logon : Bytes} {codepage : PyStr}
      {tags : Tags} (hversion : VersionAccepted version codepage)
      (hrequest : connect_request u login = .ok request) (hconnect : FrameAccepted 48 connect)
      (hinfo : info_request login (assigned connect) = .ok info)
      (hfinish : done_request (assigned connect) = .ok finish) (hdone : FrameAccepted 73 done)
      (hlogon : logon_request u login (assigned connect) = .ok logon)
      (hreply : LogonAccepted u allow codepage reply tags) :
      Admitted u allow login (frame version ++ (frame connect ++ (frame done ++ frame reply)))
        (hello u login ++ (request ++ (info ++ finish ++ logon)))
        (opened codepage connect reply tags)

/-- What may have gone out of a handshake, against what the server says: nothing before the
answers in front of it were accepted. -/
inductive Disclosed (u : Unicode) (login : Login) : Bytes → Bytes → Prop
  | hello {said out : Bytes} (hout : out <+: hello u login) : Disclosed u login said out
  | connect {version out : Bytes} {codepage : PyStr} (rest : Bytes)
      (hversion : VersionAccepted version codepage) (hout : Begun [connect_request u login] out) :
      Disclosed u login (frame version ++ rest) (hello u login ++ out)
  | info {version connect request out : Bytes} {codepage : PyStr} (rest : Bytes)
      (hversion : VersionAccepted version codepage)
      (hrequest : connect_request u login = .ok request) (hconnect : FrameAccepted 48 connect)
      (hout : Begun [info_request login (assigned connect), done_request (assigned connect)] out) :
      Disclosed u login (frame version ++ (frame connect ++ rest))
        (hello u login ++ (request ++ out))
  | logon {version connect done request info finish out : Bytes} {codepage : PyStr} (rest : Bytes)
      (hversion : VersionAccepted version codepage)
      (hrequest : connect_request u login = .ok request) (hconnect : FrameAccepted 48 connect)
      (hinfo : info_request login (assigned connect) = .ok info)
      (hfinish : done_request (assigned connect) = .ok finish) (hdone : FrameAccepted 73 done)
      (hout : Begun [logon_request u login (assigned connect)] out) :
      Disclosed u login (frame version ++ (frame connect ++ (frame done ++ rest)))
        (hello u login ++ (request ++ (info ++ finish ++ out)))

/-- INTERNAL: a session that is ready takes no turn. -/
theorem held_opened {n : ℕ} {s s' : Session} {answers out : Bytes} (hs : s.state = .READY)
    (h : Held is_ready Carrying (react u allow login) n s answers out s') :
    answers = [] ∧ out = [] ∧ s' = s := by
  have hready : is_ready s = true := decide_eq_true hs
  cases h with
  | ended _ => exact ⟨rfl, rfl, rfl⟩
  | turn hended => cases hready.symm.trans hended

theorem held_greeted {n : ℕ} {answers out : Bytes} {s' : Session}
    (h : Held is_ready Carrying (react u allow login) n greeted answers out s') :
    Admitted u allow login answers (hello u login ++ out) s' := by
  cases h with
  | ended hready => cases hready
  | turn _ hturn hlater =>
    obtain ⟨version, codepage, hversion, rfl, hrequest, rfl⟩ := turned_greeted.mp hturn
    cases hlater with
    | ended hready => cases hready
    | turn _ hturn hlater =>
      obtain ⟨connect, info, finish, hconnect, rfl, hinfo, hfinish, rfl, rfl⟩ :=
        turned_versioned.mp hturn
      cases hlater with
      | ended hready => cases hready
      | turn _ hturn hlater =>
        obtain ⟨done, hdone, rfl, hlogon, rfl⟩ := (turned_connected hconnect.long).mp hturn
        cases hlater with
        | ended hready => cases hready
        | turn _ hturn hlater =>
          obtain ⟨reply, tags, hreply, rfl, rfl, rfl⟩ := turned_gatewayDone.mp hturn
          obtain ⟨rfl, rfl, rfl⟩ := held_opened rfl hlater
          simp only [List.append_nil]
          exact .intro hversion hrequest hconnect hinfo hfinish hdone hlogon hreply

theorem held_of_admitted {answers out : Bytes} {s' : Session}
    (h : Admitted u allow login answers out s') :
    ∃ behind, out = hello u login ++ behind ∧
      Held is_ready Carrying (react u allow login) 4 greeted answers behind s' := by
  obtain @⟨version, connect, done, reply, request, info, finish, logon, codepage, tags, hversion,
    hrequest, hconnect, hinfo, hfinish, hdone, hlogon, hreply⟩ := h
  refine ⟨_, rfl, ?_⟩
  have hlast : Held is_ready Carrying (react u allow login) 1 (gatewayDone codepage connect)
      (frame reply) [] (opened codepage connect reply tags) := by
    have hready : Held is_ready Carrying (react u allow login) 0
        (opened codepage connect reply tags) [] [] (opened codepage connect reply tags) :=
      .ended rfl
    have hturn := Held.turn rfl (turned_gatewayDone.mpr ⟨reply, tags, hreply, rfl, rfl, rfl⟩) hready
    rw [List.append_nil, List.append_nil] at hturn
    exact hturn
  have hthird : Held is_ready Carrying (react u allow login) 2 (connected codepage connect)
      (frame done ++ frame reply) logon (opened codepage connect reply tags) := by
    have hturn := Held.turn rfl
      ((turned_connected hconnect.long).mpr ⟨done, hdone, rfl, hlogon, rfl⟩) hlast
    rw [List.append_nil] at hturn
    exact hturn
  have hsecond : Held is_ready Carrying (react u allow login) 3 (versioned codepage)
      (frame connect ++ (frame done ++ frame reply)) (info ++ finish ++ logon)
      (opened codepage connect reply tags) :=
    .turn rfl
      (turned_versioned.mpr ⟨connect, info, finish, hconnect, rfl, hinfo, hfinish, rfl, rfl⟩) hthird
  exact .turn rfl (turned_greeted.mpr ⟨version, codepage, hversion, rfl, hrequest, rfl⟩) hsecond

end Turns

/-! ## What went out -/

section Overheard

variable {u : Unicode} {allow : Bool} {login : Login}

/-- INTERNAL: nothing is said once the session is ready. -/
theorem overheard_opened {s : Session} {said out : Bytes} (hs : s.state = .READY)
    (h : Overheard is_ready Carrying (react u allow login) s said out) : out = [] := by
  have hready : is_ready s = true := decide_eq_true hs
  cases h with
  | here => rfl
  | part _ hended => cases hready.symm.trans hended
  | turn hended => cases hready.symm.trans hended

/-- INTERNAL: nothing is said behind the logon. -/
theorem overheard_gatewayDone {codepage : PyStr} {connect said out : Bytes}
    (h : Overheard is_ready Carrying (react u allow login) (gatewayDone codepage connect) said
      out) : out = [] := by
  cases h with
  | here => rfl
  | part _ _ hturn =>
    obtain ⟨reply, messages, s', -, hreact, hbegun⟩ := hturn
    obtain ⟨-, rfl⟩ := run_react_eq_ok.mp hreact
    exact begun_nil hbegun
  | turn _ hturn hlater =>
    obtain ⟨reply, tags, -, rfl, rfl, rfl⟩ := turned_gatewayDone.mp hturn
    rw [overheard_opened rfl hlater]
    rfl

/-- INTERNAL: what is said from the connect answer on. -/
theorem disclosed_connected {version connect request info finish said out : Bytes}
    {codepage : PyStr} (hversion : VersionAccepted version codepage)
    (hrequest : connect_request u login = .ok request) (hconnect : FrameAccepted 48 connect)
    (hinfo : info_request login (assigned connect) = .ok info)
    (hfinish : done_request (assigned connect) = .ok finish)
    (h : Overheard is_ready Carrying (react u allow login) (connected codepage connect) said out) :
    Disclosed u login (frame version ++ (frame connect ++ said))
      (hello u login ++ (request ++ (info ++ finish ++ out))) := by
  have hhandle := handle_assigned (s := gatewayDone codepage connect) hconnect.long rfl
  cases h with
  | here =>
    rw [List.append_nil]
    refine .info said hversion hrequest hconnect ?_
    exact (made_pair.mpr ⟨info, finish, hinfo, hfinish, rfl⟩).begun
  | part rest _ hturn =>
    obtain ⟨done, messages, s', ⟨hdeliverable, rfl⟩, hreact, hbegun⟩ := hturn
    obtain ⟨hfeed, rfl⟩ := run_react_eq_ok.mp hreact
    obtain ⟨-, hlong, rfl⟩ := feed_connected.mp hfeed
    rw [hhandle] at hbegun
    exact .logon rest hversion hrequest hconnect hinfo hfinish ⟨hdeliverable, hlong⟩ hbegun
  | turn _ hturn hlater =>
    obtain ⟨done, hdone, rfl, hlogon, rfl⟩ := (turned_connected hconnect.long).mp hturn
    rw [overheard_gatewayDone hlater, List.append_nil]
    exact .logon _ hversion hrequest hconnect hinfo hfinish hdone
      (made_singleton.mpr hlogon).begun

/-- INTERNAL: what is said from the version answer on. -/
theorem disclosed_versioned {version request said out : Bytes} {codepage : PyStr}
    (hversion : VersionAccepted version codepage)
    (hrequest : connect_request u login = .ok request)
    (h : Overheard is_ready Carrying (react u allow login) (versioned codepage) said out) :
    Disclosed u login (frame version ++ said) (hello u login ++ (request ++ out)) := by
  cases h with
  | here =>
    rw [List.append_nil]
    exact .connect said hversion (made_singleton.mpr hrequest).begun
  | part rest _ hturn =>
    obtain ⟨connect, messages, s', ⟨hdeliverable, rfl⟩, hreact, hbegun⟩ := hturn
    obtain ⟨hfeed, rfl⟩ := run_react_eq_ok.mp hreact
    obtain ⟨-, hlong, rfl⟩ := feed_versioned.mp hfeed
    rw [handle_assigned (s := connected codepage connect) hlong rfl] at hbegun
    exact .info rest hversion hrequest ⟨hdeliverable, hlong⟩ hbegun
  | turn _ hturn hlater =>
    obtain ⟨connect, info, finish, hconnect, rfl, hinfo, hfinish, rfl, rfl⟩ :=
      turned_versioned.mp hturn
    exact disclosed_connected hversion hrequest hconnect hinfo hfinish hlater

/-- What is said from the first frame on. -/
theorem disclosed_greeted {said out : Bytes}
    (h : Overheard is_ready Carrying (react u allow login) greeted said out) :
    Disclosed u login said (hello u login ++ out) := by
  cases h with
  | here =>
    rw [List.append_nil]
    exact .hello (List.prefix_refl _)
  | part rest _ hturn =>
    obtain ⟨version, messages, s', ⟨hdeliverable, rfl⟩, hreact, hbegun⟩ := hturn
    obtain ⟨hfeed, rfl⟩ := run_react_eq_ok.mp hreact
    obtain ⟨-, hlong, codepage, hascii, rfl⟩ := feed_greeted.mp hfeed
    exact .connect rest ⟨hdeliverable, hlong, hascii⟩ hbegun
  | turn _ hturn hlater =>
    obtain ⟨version, codepage, hversion, rfl, hrequest, rfl⟩ := turned_greeted.mp hturn
    exact disclosed_versioned hversion hrequest hlater

end Overheard

/-! ## Runs of a handshake -/

section Handshake

variable {σ : Type} {stream : σ → Bytes} {recv : ℕ → Eff PyError σ Bytes}
  {u : Unicode} {allow : Bool} {login : Login}

/-- INTERNAL: the session is started, and its first frame is made. -/
theorem run_handshake (turns : ℕ) (link : Link σ PyError UInt8) :
    Eff.run (handshake recv u allow login turns) ⟨Session.init, link⟩ =
      Eff.run (onLink (speak [.ok (hello u login)]) >>= fun _ =>
        converse is_ready (recv_message u recv) (react u allow login) turns) ⟨greeted, link⟩ := by
  have hstart : Eff.run (onClient (start u login.local_ip) : Eff PyError (Opening σ) Bytes)
      ⟨Session.init, link⟩ =
        (.ok (build_ni_version_request u login.local_ip), ⟨greeted, link⟩) := rfl
  unfold handshake
  rw [Eff.run_bind_ok hstart, build_hello]

/-- A handshake that ended was admitted, and took no more off the stream. -/
theorem handshake_returns (hrecv : TakesAll stream recv) {turns : ℕ}
    {link : Link σ PyError UInt8} {side : Opening σ}
    (h : Eff.run (handshake recv u allow login turns) ⟨Session.init, link⟩ = (.ok true, side)) :
    ∃ answers out, Admitted u allow login answers out side.client ∧
      stream link.arriving = answers ++ stream side.link.arriving ∧
      side.link.sent = link.sent ++ out := by
  rw [run_handshake] at h
  obtain ⟨_, mid, hspeak, hconverse⟩ := Eff.run_bind_eq_ok h
  rw [run_onLink] at hspeak
  obtain ⟨hspoken, rfl⟩ := Prod.mk.inj hspeak
  obtain ⟨said, hmade, harriving, hsent, -⟩ := speak_returns (Prod.ext hspoken rfl)
  obtain rfl := Except.ok.inj (made_singleton.mp hmade)
  obtain ⟨n, answers, out, hheld, hstream, hsent', -⟩ :=
    held_of_converse (takesAnswers_recv_message hrecv) hconverse
  refine ⟨answers, _, held_greeted hheld, ?_, ?_⟩
  · rw [← hstream]
    exact congrArg stream harriving.symm
  · rw [hsent', hsent, List.append_assoc]

/-- Where the answers are there and no send fails, the handshake ends. -/
theorem handshake_of_admitted (hrecv : TakesAll stream recv) {turns : ℕ} (hturns : 4 ≤ turns)
    {answers out rest : Bytes} {s : Session} (h : Admitted u allow login answers out s)
    {link : Link σ PyError UInt8} (hfaults : link.faults = [])
    (hstream : stream link.arriving = answers ++ rest) :
    ∃ arriving, stream arriving = rest ∧
      Eff.run (handshake recv u allow login turns) ⟨Session.init, link⟩ =
        (.ok true, ⟨s, { link with arriving := arriving, sent := link.sent ++ out }⟩) := by
  obtain ⟨behind, rfl, hheld⟩ := held_of_admitted h
  have hspeak : Eff.run (onLink (speak [.ok (hello u login)]) : Eff PyError (Opening σ) Unit)
      ⟨greeted, link⟩ =
        (.ok (), ⟨greeted, { link with sent := link.sent ++ hello u login }⟩) := by
    rw [run_onLink, speak_of_made (made_singleton.mpr rfl) hfaults]
  have hanswered : ∃ arriving, stream arriving = rest ∧
      Eff.run (converse is_ready (recv_message u recv) (react u allow login) turns)
        ⟨greeted, { link with sent := link.sent ++ hello u login }⟩ =
          (.ok true, ⟨s, { link with
            arriving := arriving, sent := link.sent ++ hello u login ++ behind }⟩) :=
    converse_of_held (takesAnswers_recv_message hrecv) hheld hturns hfaults hstream
  obtain ⟨arriving, hrest, hrun⟩ := hanswered
  refine ⟨arriving, hrest, ?_⟩
  rw [run_handshake, Eff.run_bind_ok hspeak, hrun, List.append_assoc]

variable (allow) in
/-- However it ends, the handshake has disclosed no more than the server asked for. -/
theorem handshake_discloses (hrecv : TakesAll stream recv) (turns : ℕ)
    (link : Link σ PyError UInt8) :
    ∃ out, Disclosed u login (stream link.arriving) out ∧
      (Eff.run (handshake recv u allow login turns) ⟨Session.init, link⟩).2.link.sent =
        link.sent ++ out := by
  rw [run_handshake]
  rcases hspeak : Eff.run (onLink (speak [.ok (hello u login)]) : Eff PyError (Opening σ) Unit)
    ⟨greeted, link⟩ with ⟨e | _, mid⟩
  · rw [Eff.run_bind_error hspeak]
    obtain ⟨part, hpart, hsent⟩ := speak_begins [.ok (hello u login)] link
    rw [run_onLink] at hspeak
    obtain ⟨-, rfl⟩ := Prod.mk.inj hspeak
    exact ⟨part, .hello (begun_singleton hpart), hsent⟩
  · rw [Eff.run_bind_ok hspeak]
    rw [run_onLink] at hspeak
    obtain ⟨hspoken, rfl⟩ := Prod.mk.inj hspeak
    obtain ⟨said, hmade, harriving, hsent, -⟩ := speak_returns (Prod.ext hspoken rfl)
    obtain rfl := Except.ok.inj (made_singleton.mp hmade)
    have hoverheard : ∃ out, Overheard is_ready Carrying (react u allow login) greeted
        (stream (Eff.run (speak [.ok (hello u login)]) link).2.arriving) out ∧
        (Eff.run (converse is_ready (recv_message u recv) (react u allow login) turns)
          ⟨greeted, (Eff.run (speak [.ok (hello u login)]) link).2⟩).2.link.sent =
            (Eff.run (speak [.ok (hello u login)]) link).2.sent ++ out :=
      overheard_of_converse (takesAnswers_recv_message hrecv) turns
        ⟨greeted, (Eff.run (speak [.ok (hello u login)]) link).2⟩
    obtain ⟨out, hout, hsent'⟩ := hoverheard
    rw [harriving] at hout
    refine ⟨hello u login ++ out, disclosed_greeted hout, hsent'.trans ?_⟩
    rw [hsent, List.append_assoc]

end Handshake

/-! ## Routes -/

/-- The request for a route to the gateway. -/
def route_request (hops : List RouteHop) (ashost : PyStr) (port : ℤ) : Except PyError Bytes :=
  build_ni_route hops ashost (lit (toString port)) >>= build_ni_frame

/-- The bytes of an acknowledgement. -/
def Acknowledges (answer : Bytes) : Prop :=
  ∃ ack, Deliverable ack ∧ is_ni_pong ack = true ∧ answer = frame ack

/-- A route was asked for and acknowledged, or there is none to ask for. -/
inductive Routed (u : Unicode) (ashost : PyStr) (port : ℤ) : Option PyStr → Bytes → Bytes → Prop
  | direct : Routed u ashost port none [] []
  | routed {route : PyStr} {hops : List RouteHop} {answer request : Bytes}
      (hroute : parse_route_string u route = .ok hops)
      (hrequest : route_request hops ashost port = .ok request) (hanswer : Acknowledges answer) :
      Routed u ashost port (some route) answer request

/-- What may have gone out of an opening, against what the router and the server say. -/
inductive Spent (u : Unicode) (login : Login) (port : ℤ) : Option PyStr → Bytes → Bytes → Prop
  | nothing (saprouter : Option PyStr) (said : Bytes) : Spent u login port saprouter said []
  | route {route : PyStr} {hops : List RouteHop} {said request out : Bytes}
      (hroute : parse_route_string u route = .ok hops)
      (hrequest : route_request hops login.ashost port = .ok request) (hout : out <+: request) :
      Spent u login port (some route) said out
  | login {saprouter : Option PyStr} {answer request said out : Bytes}
      (hrouted : Routed u login.ashost port saprouter answer request)
      (hout : Disclosed u login said out) :
      Spent u login port saprouter (answer ++ said) (request ++ out)

section Route

variable {σ : Type} {stream : σ → Bytes} {recv : ℕ → Eff PyError σ Bytes} {u : Unicode}

variable (recv u) in
/-- The request for a route and the reader of its answer. -/
def routeExchange (hops : List RouteHop) (ashost : PyStr) (port : ℤ) :
    Exchange σ PyError UInt8 where
  request := route_request hops ashost port
  answer := do
    let ack ← recv_message u recv
    Eff.lift (check_route_ack ack)

theorem accepts_route (hrecv : TakesAll stream recv) (hops : List RouteHop) (ashost : PyStr)
    (port : ℤ) : (routeExchange recv u hops ashost port).Accepts stream Acknowledges := by
  have hack : ∀ ack : Bytes, check_route_ack ack = .ok () ↔ is_ni_pong ack = true := by
    intro ack
    unfold check_route_ack
    by_cases h : is_ni_pong ack = true
    · rw [if_pos h]
      exact ⟨fun _ => h, fun _ => rfl⟩
    · rw [if_neg h]
      constructor
      · intro hok
        cases hok
      · intro hpong
        exact absurd hpong h
  intro s v t
  constructor
  · rintro ⟨s', hrun, rfl⟩
    obtain ⟨ack, mid, hread, hchecked⟩ := Eff.run_bind_eq_ok hrun
    rw [Eff.run_lift] at hchecked
    obtain ⟨hok, rfl⟩ := Prod.mk.inj hchecked
    obtain ⟨answer, ⟨hdeliverable, rfl⟩, hstream⟩ :=
      (takesAnswers_recv_message hrecv s ack _).mp ⟨_, hread, rfl⟩
    exact ⟨_, ⟨ack, hdeliverable, (hack ack).mp hok, rfl⟩, hstream⟩
  · rintro ⟨answer, ⟨ack, hdeliverable, hpong, rfl⟩, hstream⟩
    obtain ⟨s', hread, hrest⟩ :=
      (takesAnswers_recv_message (u := u) hrecv s ack t).mpr ⟨_, ⟨hdeliverable, rfl⟩, hstream⟩
    refine ⟨s', ?_, hrest⟩
    show Eff.run (recv_message u recv >>= fun ack => Eff.lift (check_route_ack ack)) s = _
    rw [Eff.run_bind_ok hread, (hack ack).mpr hpong]
    rfl

theorem open_route_eq (hops : List RouteHop) (ashost : PyStr) (port : ℤ) :
    open_route recv u hops ashost (lit (toString port)) =
      dialogue ([(routeExchange recv u hops ashost port, Acknowledges)].map Prod.fst) :=
  (dialogue_singleton _).symm

/-- INTERNAL: an exchange that is spoken alone. -/
theorem spoken_single {x : Exchange σ PyError UInt8} {answers out : Bytes} :
    Spoken [(x, Acknowledges)] answers out ↔ x.request = .ok out ∧ Acknowledges answers := by
  constructor
  · intro h
    cases h with
    | cons hrequest hanswer hlater =>
      cases hlater
      rw [List.append_nil, List.append_nil]
      exact ⟨hrequest, hanswer⟩
  · rintro ⟨hrequest, hanswer⟩
    have h := Spoken.cons (L := Acknowledges) hrequest hanswer .nil
    rw [List.append_nil, List.append_nil] at h
    exact h

/-- INTERNAL: an exchange that is heard alone. -/
theorem heard_single {x : Exchange σ PyError UInt8} {said out : Bytes}
    (h : Heard [(x, Acknowledges)] said out) :
    out = [] ∨ ∃ request, x.request = .ok request ∧ out <+: request := by
  cases h with
  | here => exact .inl rfl
  | asked hrequest hpart => exact .inr ⟨_, hrequest, hpart⟩
  | answered hrequest hanswer hlater =>
    cases hlater
    exact .inr ⟨_, hrequest, by rw [List.append_nil]⟩

theorem accepts_routes (hrecv : TakesAll stream recv) (hops : List RouteHop) (ashost : PyStr)
    (port : ℤ) : ∀ p ∈ [(routeExchange recv u hops ashost port, Acknowledges)],
      p.1.Accepts stream p.2 := by
  intro p hp
  rw [List.mem_singleton.mp hp]
  exact accepts_route hrecv hops ashost port

/-- A route that was opened was asked for and acknowledged, and the session is as it was. -/
theorem route_opened (hrecv : TakesAll stream recv) {hops : List RouteHop} {ashost : PyStr}
    {port : ℤ} {side side' : Opening σ}
    (h : Eff.run (onLink (open_route recv u hops ashost (lit (toString port)))) side =
      (.ok (), side')) :
    ∃ ack request, route_request hops ashost port = .ok request ∧ Acknowledges ack ∧
      side'.client = side.client ∧ stream side.link.arriving = ack ++ stream side'.link.arriving ∧
      side'.link.sent = side.link.sent ++ request := by
  rw [run_onLink, open_route_eq] at h
  obtain ⟨hdialogue, rfl⟩ := Prod.mk.inj h
  obtain ⟨ack, request, hspoken, harriving, hsent, -⟩ := spoken_of_dialogue
    (accepts_routes hrecv hops ashost port) (Prod.ext hdialogue rfl)
  obtain ⟨hrequest, hack⟩ := spoken_single.mp hspoken
  exact ⟨ack, request, hrequest, hack, rfl, harriving, hsent⟩

/-- Where the acknowledgement is there and no send fails, the route is opened. -/
theorem route_of_acknowledged (hrecv : TakesAll stream recv) {hops : List RouteHop}
    {ashost : PyStr} {port : ℤ} {request ack rest : Bytes}
    (hrequest : route_request hops ashost port = .ok request) (hack : Acknowledges ack)
    (s : Session) {link : Link σ PyError UInt8} (hfaults : link.faults = [])
    (hstream : stream link.arriving = ack ++ rest) :
    ∃ arriving, stream arriving = rest ∧
      Eff.run (onLink (open_route recv u hops ashost (lit (toString port)))) ⟨s, link⟩ =
        (.ok (), ⟨s, { link with arriving := arriving, sent := link.sent ++ request }⟩) := by
  obtain ⟨mid, hthrough, hrest⟩ := through_of_spoken
    (accepts_routes (u := u) hrecv hops ashost port) (spoken_single.mpr ⟨hrequest, hack⟩) hstream
  refine ⟨mid, hrest, ?_⟩
  rw [run_onLink, open_route_eq, dialogue_of_through hthrough rfl hfaults]

/-- However it ends, no more than the request for the route has gone out. -/
theorem route_asked (hrecv : TakesAll stream recv) (hops : List RouteHop) (ashost : PyStr)
    (port : ℤ) (side : Opening σ) :
    ∃ out, (Eff.run (onLink (open_route recv u hops ashost (lit (toString port))))
        side).2.link.sent = side.link.sent ++ out ∧
      (out = [] ∨ ∃ request, route_request hops ashost port = .ok request ∧ out <+: request) := by
  rw [run_onLink, open_route_eq]
  obtain ⟨out, hheard, hsent⟩ :=
    heard_of_dialogue (accepts_routes (u := u) hrecv hops ashost port) side.link
  exact ⟨out, hsent, heard_single hheard⟩

end Route

/-! ## The handshake ends -/

/-- How many answers a session still waits for. -/
def awaited (s : Session) : ℕ :=
  match s.state with
  | .CONNECTED => 4
  | .NI_VERSIONED => 3
  | .GW_CONNECTED => 2
  | .READY => 0
  | _ => 1

theorem awaited_pos {s : Session} (h : is_ready s = false) : 0 < awaited s := by
  have hstate : s.state ≠ .READY := of_decide_eq_false h
  unfold awaited
  cases hs : s.state with
  | READY => exact absurd hs hstate
  | _ => simp

/-- An answer that is accepted is one less to wait for. -/
theorem awaited_lt {s s' : Session} (h : Advances s s') : awaited s' < awaited s := by
  obtain ⟨k, hk, hk'⟩ := h.order
  unfold awaited
  rcases k with _ | _ | _ | _ | k
  · rw [← Option.some.inj hk, ← Option.some.inj hk']
    exact Nat.lt_succ_self 3
  · rw [← Option.some.inj hk, ← Option.some.inj hk']
    exact Nat.lt_succ_self 2
  · rw [← Option.some.inj hk, ← Option.some.inj hk']
    exact Nat.lt_succ_self 1
  · rw [← Option.some.inj hk, ← Option.some.inj hk']
    exact Nat.lt_succ_self 0
  · cases hk'

section Connections

variable {σ : Type} {stream : σ → Bytes} {recv : ℕ → Eff PyError σ Bytes} {u : Unicode}
  {allow : Bool} {login : Login}

theorem handshake_ends {turns : ℕ} (hturns : 4 ≤ turns) (link : Link σ PyError UInt8) :
    (Eff.run (handshake recv u allow login turns) ⟨Session.init, link⟩).1 ≠ .ok false := by
  have hadvances : ∀ (heard : Bytes) (s : Session) (messages : List (Except PyError Bytes))
      (s' : Session), is_ready s = false →
      Eff.run (react u allow login heard) s = (.ok messages, s') → awaited s' < awaited s := by
    intro heard s messages s' _ hreact
    obtain ⟨hfeed, -⟩ := run_react_eq_ok.mp hreact
    rcases feed_cases u allow heard s with ⟨mid, hrun, hadvances⟩ | ⟨e, hrun⟩
    · rw [hrun] at hfeed
      cases hfeed
      exact awaited_lt hadvances
    · rw [hrun] at hfeed
      cases hfeed
  rw [run_handshake]
  rcases hspeak : Eff.run (onLink (speak [.ok (hello u login)]) : Eff PyError (Opening σ) Unit)
    ⟨greeted, link⟩ with ⟨e | _, mid⟩
  · rw [Eff.run_bind_error hspeak]
    intro h
    cases h
  · rw [Eff.run_bind_ok hspeak]
    rw [run_onLink] at hspeak
    obtain ⟨-, rfl⟩ := Prod.mk.inj hspeak
    exact converse_ends (fun _ => awaited_pos) hadvances hturns

theorem open_connection_none (port : ℤ) (turns : ℕ) :
    open_connection recv u allow none port login turns = handshake recv u allow login turns := rfl

theorem open_connection_some (route : PyStr) (port : ℤ) (turns : ℕ) :
    open_connection recv u allow (some route) port login turns = (do
      let hops ← Eff.lift (parse_route_string u route)
      onLink (open_route recv u hops login.ashost (lit (toString port)))
      handshake recv u allow login turns) := rfl

theorem connection_returns (hrecv : TakesAll stream recv) {saprouter : Option PyStr} {port : ℤ}
    {turns : ℕ} {link : Link σ PyError UInt8} {side : Opening σ}
    (h : Eff.run (open_connection recv u allow saprouter port login turns) ⟨Session.init, link⟩ =
      (.ok true, side)) :
    ∃ ack request answers out, Routed u login.ashost port saprouter ack request ∧
      Admitted u allow login answers out side.client ∧
      stream link.arriving = ack ++ (answers ++ stream side.link.arriving) ∧
      side.link.sent = link.sent ++ (request ++ out) := by
  cases saprouter with
  | none =>
    rw [open_connection_none] at h
    obtain ⟨answers, out, hadmitted, hstream, hsent⟩ := handshake_returns hrecv h
    exact ⟨[], [], answers, out, .direct, hadmitted, hstream, hsent⟩
  | some route =>
    rw [open_connection_some] at h
    obtain ⟨hops, mid, hparsed, h⟩ := Eff.run_bind_eq_ok h
    rw [Eff.run_lift] at hparsed
    obtain ⟨hroute, rfl⟩ := Prod.mk.inj hparsed
    obtain ⟨_, mid, hopen, hshaken⟩ := Eff.run_bind_eq_ok h
    obtain ⟨ack, request, hrequest, hack, hmid, harriving, hasked⟩ := route_opened hrecv hopen
    obtain ⟨client, behind⟩ := mid
    obtain rfl : client = Session.init := hmid
    obtain ⟨answers, out, hadmitted, hstream, hsent⟩ := handshake_returns hrecv hshaken
    refine ⟨ack, request, answers, out, .routed hroute hrequest hack, hadmitted, ?_, ?_⟩
    · rw [harriving, hstream]
    · rw [hsent, hasked, List.append_assoc]

theorem connection_of_admitted (hrecv : TakesAll stream recv) {saprouter : Option PyStr} {port : ℤ}
    {turns : ℕ} {link : Link σ PyError UInt8} {ack request answers out rest : Bytes} {s : Session}
    (hturns : 4 ≤ turns) (hfaults : link.faults = [])
    (hrouted : Routed u login.ashost port saprouter ack request)
    (hadmitted : Admitted u allow login answers out s)
    (hstream : stream link.arriving = ack ++ (answers ++ rest)) :
    ∃ arriving, stream arriving = rest ∧
      Eff.run (open_connection recv u allow saprouter port login turns) ⟨Session.init, link⟩ =
        (.ok true,
          ⟨s, { link with arriving := arriving, sent := link.sent ++ (request ++ out) }⟩) := by
  cases hrouted with
  | direct =>
    rw [List.nil_append] at hstream
    rw [open_connection_none, List.nil_append]
    exact handshake_of_admitted hrecv hturns hadmitted hfaults hstream
  | @routed route hops _ _ hroute hrequest hack =>
    obtain ⟨mid, hrest, hopen⟩ := route_of_acknowledged (u := u) hrecv hrequest hack
      Session.init hfaults hstream
    have hbehind : ∃ arriving, stream arriving = rest ∧
        Eff.run (handshake recv u allow login turns)
          ⟨Session.init, { link with arriving := mid, sent := link.sent ++ request }⟩ =
            (.ok true, ⟨s, { link with
              arriving := arriving, sent := link.sent ++ request ++ out }⟩) :=
      handshake_of_admitted hrecv hturns hadmitted hfaults hrest
    obtain ⟨arriving, hend, hrun⟩ := hbehind
    refine ⟨arriving, hend, ?_⟩
    rw [open_connection_some, hroute, Eff.run_bind_ok (Eff.run_lift ..), Eff.run_bind_ok hopen,
      hrun, List.append_assoc]

theorem connection_withholds (hrecv : TakesAll stream recv) (saprouter : Option PyStr) (port : ℤ)
    (turns : ℕ) (link : Link σ PyError UInt8) :
    ∃ out, Spent u login port saprouter (stream link.arriving) out ∧
      (Eff.run (open_connection recv u allow saprouter port login turns)
        ⟨Session.init, link⟩).2.link.sent = link.sent ++ out := by
  cases saprouter with
  | none =>
    rw [open_connection_none]
    obtain ⟨out, hout, hsent⟩ := handshake_discloses allow hrecv turns link
    exact ⟨out, .login .direct hout, hsent⟩
  | some route =>
    rw [open_connection_some]
    cases hroute : parse_route_string u route with
    | error e =>
      rw [Eff.run_bind_error (Eff.run_lift ..)]
      exact ⟨[], .nothing _ _, (List.append_nil _).symm⟩
    | ok hops =>
      rw [Eff.run_bind_ok (Eff.run_lift ..)]
      rcases hopen : Eff.run (onLink (open_route recv u hops login.ashost (lit (toString port))) :
        Eff PyError (Opening σ) Unit) ⟨Session.init, link⟩ with ⟨e | _, mid⟩
      · rw [Eff.run_bind_error hopen]
        obtain ⟨out, hsent, hasked⟩ := route_asked (u := u) hrecv hops login.ashost port
          ⟨Session.init, link⟩
        rw [hopen] at hsent
        rcases hasked with rfl | ⟨request, hrequest, hout⟩
        · exact ⟨[], .nothing _ _, hsent⟩
        · exact ⟨out, .route hroute hrequest hout, hsent⟩
      · rw [Eff.run_bind_ok hopen]
        obtain ⟨ack, request, hrequest, hack, hmid, harriving, hasked⟩ := route_opened hrecv hopen
        obtain ⟨client, behind⟩ := mid
        obtain rfl : client = Session.init := hmid
        obtain ⟨out, hout, hsent⟩ := handshake_discloses allow hrecv turns behind
        refine ⟨request ++ out, ?_, hsent.trans ?_⟩
        · rw [harriving]
          exact .login (.routed hroute hrequest hack) hout
        · rw [hasked, List.append_assoc]

theorem connection_ends (hrecv : TakesAll stream recv) (saprouter : Option PyStr) (port : ℤ)
    {turns : ℕ} (hturns : 4 ≤ turns) (link : Link σ PyError UInt8) :
    (Eff.run (open_connection recv u allow saprouter port login turns)
      ⟨Session.init, link⟩).1 ≠ .ok false := by
  cases saprouter with
  | none =>
    rw [open_connection_none]
    exact handshake_ends hturns link
  | some route =>
    intro h
    have hrun : Eff.run (open_connection recv u allow (some route) port login turns)
        ⟨Session.init, link⟩ = (.ok false, _) := Prod.ext h rfl
    rw [open_connection_some] at hrun
    obtain ⟨hops, mid, hparsed, hrun⟩ := Eff.run_bind_eq_ok hrun
    rw [Eff.run_lift] at hparsed
    obtain ⟨-, rfl⟩ := Prod.mk.inj hparsed
    obtain ⟨_, mid, hopen, hrun⟩ := Eff.run_bind_eq_ok hrun
    obtain ⟨ack, request, -, -, hmid, -⟩ := route_opened hrecv hopen
    obtain ⟨client, behind⟩ := mid
    obtain rfl : client = Session.init := hmid
    exact handshake_ends hturns behind (congrArg Prod.fst hrun)

end Connections

/-- What opening a connection comes to, over a reader of such a stream. -/
structure OpensConnections {σ : Type} (u : Unicode) (stream : σ → Bytes)
    (recv : ℕ → Eff PyError σ Bytes) : Prop where
  /-- it returns on an acknowledged route and four accepted frames alone, with their session, and
  the calls begin behind them -/
  returns : ∀ (allow : Bool) (saprouter : Option PyStr) (port : ℤ) (login : Login) (turns : ℕ)
    (link : Link σ PyError UInt8) (side : Opening σ),
    Eff.run (open_connection recv u allow saprouter port login turns) ⟨Session.init, link⟩ =
      (.ok true, side) →
    ∃ ack request answers out, Routed u login.ashost port saprouter ack request ∧
      Admitted u allow login answers out side.client ∧
      stream link.arriving = ack ++ (answers ++ stream side.link.arriving) ∧
      side.link.sent = link.sent ++ (request ++ out)
  /-- where they are there and no send fails it returns, in four turns -/
  grants : ∀ (allow : Bool) (saprouter : Option PyStr) (port : ℤ) (login : Login) (turns : ℕ)
    (link : Link σ PyError UInt8) (ack request answers out rest : Bytes) (s : Session),
    4 ≤ turns → link.faults = [] → Routed u login.ashost port saprouter ack request →
    Admitted u allow login answers out s → stream link.arriving = ack ++ (answers ++ rest) →
    ∃ arriving, stream arriving = rest ∧
      Eff.run (open_connection recv u allow saprouter port login turns) ⟨Session.init, link⟩ =
        (.ok true, ⟨s, { link with arriving := arriving, sent := link.sent ++ (request ++ out) }⟩)
  /-- however it ends, nothing has gone out before the answers in front of it were accepted -/
  withholds : ∀ (allow : Bool) (saprouter : Option PyStr) (port : ℤ) (login : Login) (turns : ℕ)
    (link : Link σ PyError UInt8), ∃ out,
    Spent u login port saprouter (stream link.arriving) out ∧
      (Eff.run (open_connection recv u allow saprouter port login turns)
        ⟨Session.init, link⟩).2.link.sent = link.sent ++ out
  /-- four turns are all that there are -/
  ends : ∀ (allow : Bool) (saprouter : Option PyStr) (port : ℤ) (login : Login) (turns : ℕ)
    (link : Link σ PyError UInt8), 4 ≤ turns →
    (Eff.run (open_connection recv u allow saprouter port login turns)
      ⟨Session.init, link⟩).1 ≠ .ok false

theorem opensConnections {σ : Type} {stream : σ → Bytes} {recv : ℕ → Eff PyError σ Bytes}
    (u : Unicode) (hrecv : TakesAll stream recv) : OpensConnections u stream recv where
  returns _ _ _ _ _ _ _ hrun := connection_returns hrecv hrun
  grants _ _ _ _ _ _ _ _ _ _ _ _ hturns hfaults hrouted hadmitted hstream :=
    connection_of_admitted hrecv hturns hfaults hrouted hadmitted hstream
  withholds _ saprouter port _ turns link := connection_withholds hrecv saprouter port turns link
  ends _ saprouter port _ _ link hturns := connection_ends hrecv saprouter port hturns link

/-- Over a blocking socket and over an asynchronous stream, however what comes is cut into
pieces: a connection is opened by what the router and the server accept, and by nothing else. -/
theorem connections_opened (u : Unicode) :
    OpensConnections u List.flatten recv_exactly ∧
      OpensConnections u ChunkedReads.Feed.stream readexactly := by
  have hsync : TakesAll List.flatten recv_exactly := fun n =>
    Eff.EndsAs.of_tracks (ChunkedReads.gather_tracks short_read n)
      (ChunkedReads.endsAs_exactly short_read n)
  have hasync : TakesAll ChunkedReads.Feed.stream readexactly := fun n =>
    Eff.EndsAs.of_tracks (ChunkedReads.await_tracks incomplete_read n)
      (ChunkedReads.endsAs_exactly incomplete_read n)
  exact ⟨opensConnections u hsync, opensConnections u hasync⟩

/-- A login to a host behind a router. -/
def sampleLogin : Login where
  params := ⟨lit "001", some (lit "DEVELOPER"), encodeAsciiReplace (lit "python3"), lit "EN"⟩
  passwd := some (lit "secret")
  ashost := lit "10.0.0.1"
  sysnr := .int 0
  gwhost := none
  local_ip := some (lit "10.0.0.2")
  host := ⟨List.replicate 16 7, List.length_replicate, none⟩
  env := ⟨none, List.replicate 16 1, List.replicate 4 2⟩

/-- The acknowledgement and the four frames, a byte at a time. -/
def sampleLink : Link (List Bytes) PyError UInt8 where
  arriving := ([NI_PONG ++ [0],
    List.replicate 20 0 ++ encodeAsciiReplace (lit "4103"),
    List.replicate 40 0 ++ encodeAsciiReplace (lit "00000012"),
    List.replicate 73 0,
    toBE 2 0x0420 ++ toBE 2 4 ++ toBE 4 0 ++ toBE 2 0x0420].flatMap frame).map fun b => [b]
  sent := []
  faults := []
  closes := 0

/-- The connection to the host is opened. -/
def sampleRun : Except PyError Bool × Opening (List Bytes) :=
  Eff.run (open_connection recv_exactly asciiTables false (some (lit "/H/router")) 3300
    sampleLogin 4) ⟨Session.init, sampleLink⟩

theorem sampleRun_opened : sampleRun.1.toOption = some true := by decide +kernel

/-- INTERNAL: a run that returned, with what it left. -/
theorem eq_of_returned {ε σ α : Type} {run : Except ε α × σ} {a : α}
    (h : run.1.toOption = some a) : run = (.ok a, run.2) := by
  obtain ⟨result, s⟩ := run
  cases result with
  | error e => cases h
  | ok b =>
    cases h
    rfl

/-- A host behind a router is reached, and lets the login in. -/
theorem connections_opened_sample :
    ∃ ack request answers out s,
      Routed asciiTables sampleLogin.ashost 3300 (some (lit "/H/router")) ack request ∧
        Admitted asciiTables false sampleLogin answers out s := by
  have hrun : sampleRun = (.ok true, sampleRun.2) := eq_of_returned sampleRun_opened
  obtain ⟨ack, request, answers, out, hrouted, hadmitted, -⟩ :=
    (connections_opened asciiTables).1.returns false (some (lit "/H/router")) 3300 sampleLogin 4
      sampleLink sampleRun.2 hrun
  exact ⟨ack, request, answers, out, sampleRun.2.client, hrouted, hadmitted⟩

end SapRfc.Analysis.Openings
