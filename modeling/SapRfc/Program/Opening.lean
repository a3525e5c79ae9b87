import SapRfc.Library.Conversations
import SapRfc.Program.GatewayFrames
import SapRfc.Program.MessageServer
import SapRfc.Program.Router
import SapRfc.Program.Sockets

/-!
# Opening a connection

What comes between a stream to the gateway and a session that is ready for calls: the request for
a route, where the gateway is behind routers, and the handshake.  Both transports are read by
`recv_message`; what becomes of a send is up to the link.
-/

set_option autoImplicit false

namespace SapRfc.Program

open SapRfc.Library SapRfc.Library.Dialogues SapRfc.Library.Conversations

/-- A session that is being opened, and its transport. -/
abbrev Opening (σ : Type) : Type := Side Session σ PyError UInt8

/-! ## Routes -/

/-- `b"NI_PONG"` -/
def NI_PONG : Bytes := [0x4E, 0x49, 0x5F, 0x50, 0x4F, 0x4E, 0x47]

/-- SOURCE: transport.py:162-169. -/
def is_ni_pong (payload : Bytes) : Bool := decide (payload.take 7 = NI_PONG)

/-- SOURCE: router.py:90-95. -/
def check_route_ack (ack : Bytes) : Except PyError Unit :=
  if is_ni_pong ack then .ok ()
  else
    .error (err .sapRfc (lit "SAProuter answered the route request with " ++
      reprBytes (ack.take 16) ++ lit (" rather than the expected NI_PONG acknowledgement; " ++
        "refusing to continue on a connection whose framing is no longer known")))

section Opening

variable {σ : Type} (recv : ℕ → Eff PyError σ Bytes) (u : Unicode)

/-- SOURCE: router.py:74-95, and 98-111 over an asynchronous transport. -/
def open_route (hops : List RouteHop) (dest_host dest_service : PyStr) :
    Eff PyError (Link σ PyError UInt8) Unit :=
  Exchange.run {
    request := build_ni_route hops dest_host dest_service >>= build_ni_frame
    answer := do
      let ack ← recv_message u recv
      Eff.lift (check_route_ack ack) }

/-! ## The handshake -/

/-- SOURCE: connection.py:4703-4712, with what the frames take from the machine. -/
structure Login where
  params : LogonParams
  passwd : Option PyStr
  ashost : PyStr
  sysnr : Sysnr
  gwhost : Option PyStr
  local_ip : Option PyStr
  host : Host
  env : LogonEnv

/-- `gwhost or ashost` -/
def Login.gateway (login : Login) : PyStr :=
  match login.gwhost with
  | some (c :: name) => c :: name
  | _ => login.ashost

/-- `self._session.handle or b"00000000"` -/
def Session.handle_or_zeros (s : Session) : Bytes :=
  match s.handle with
  | some (b :: rest) => b :: rest
  | _ => encodeAsciiReplace (lit "00000000")

/-- SOURCE: connection.py:2299-2360, 2219-2240, as the handshake uses them. -/
def logon_message (login : Login) (handle : Bytes) : Except PyError Bytes := do
  let tlv ← build_logon_request u login.env login.params login.passwd none
  .ok (build_logon_frame handle tlv false)

/-- SOURCE: connection.py:4745-4769.  What is sent behind an answer, by the state it was read
in. -/
def leg_requests (login : Login) (prev_state : SessionState) (handle : Bytes) :
    List (Except PyError Bytes) :=
  match prev_state with
  | .CONNECTED => [build_gw_connect_request u login.host login.gateway login.sysnr false]
  | .NI_VERSIONED =>
    [build_gw_info handle login.gateway false, .ok (build_gw_done_client handle false)]
  | .GW_CONNECTED => [logon_message u login handle]
  | _ => []

/-- SOURCE: connection.py:4739-4769.  An answer is fed to the session. -/
def react (allow_restricted_logon : Bool) (login : Login) (resp : Bytes) :
    Eff PyError Session (List (Except PyError Bytes)) := do
  let prev ← Eff.state
  let out ← feed u allow_restricted_logon resp
  let s ← Eff.state
  let messages :=
    if out = [] then leg_requests u login prev.state s.handle_or_zeros else [.ok out]
  pure (messages.map (· >>= build_ni_frame))

/-- `self._session.state is SessionState.READY` -/
def is_ready (s : Session) : Bool := decide (s.state = .READY)

/-- SOURCE: connection.py:4703-4769: whether the session is ready within so many turns. -/
def handshake (allow_restricted_logon : Bool) (login : Login) (turns : ℕ) :
    Eff PyError (Opening σ) Bool := do
  let hello ← onClient (start u login.local_ip)
  onLink (speak [build_ni_frame hello])
  converse is_ready (recv_message u recv) (react u allow_restricted_logon login) turns

/-- SOURCE: connection.py:5723-5746, and 4425-4448 behind the synchronous facade. -/
def open_connection (allow_restricted_logon : Bool) (saprouter : Option PyStr) (port : ℤ)
    (login : Login) (turns : ℕ) : Eff PyError (Opening σ) Bool :=
  match saprouter with
  | none => handshake recv u allow_restricted_logon login turns
  | some route => do
    let hops ← Eff.lift (parse_route_string u route)
    onLink (open_route recv u hops login.ashost (lit (toString port)))
    handshake recv u allow_restricted_logon login turns

end Opening

end SapRfc.Program
