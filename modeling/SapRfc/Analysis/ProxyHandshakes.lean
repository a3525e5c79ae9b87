import SapRfc.Analysis.ConnectReplies

/-!
# A tunnel is opened by what the proxy grants, and by nothing else

The client of a SOCKS5 proxy offers one method, sends the token where there is one, and names the
destination.  A tunnel is handed out exactly where the proxy has chosen that method, has accepted
the token and has answered the request with success, and then with the stream at the first
tunnelled byte.  Everything else closes the connection.  The token goes out only to a proxy that has
chosen its method, the destination only to one that has accepted the token.
-/

set_option autoImplicit false

namespace SapRfc.Analysis.ProxyHandshakes

open SapRfc.Library SapRfc.Library.Dialogues SapRfc.Program
open SapRfc.Analysis.ConnectReplies (Reply BoundAddress)

/-! ## What a proxy grants -/

/-- The choice of the method that was offered. -/
def selection (credential : ProxyCredential) : Bytes := [SOCKS_VERSION, credential.method]

/-- The choice, and the acceptance of the token where there is one. -/
def authorisation (credential : ProxyCredential) : Bytes :=
  selection credential ++
    if credential.jwt.isSome then [JWT_SUBNEG_VERSION, AUTH_SUCCESS] else []

/-- A reply that opens the tunnel. -/
def Succeeds (reply : Reply) : Prop := reply.version = SOCKS_VERSION ∧ reply.rep = 0

/-- The greeting. -/
def greeting (credential : ProxyCredential) : Bytes := [SOCKS_VERSION, 1, credential.method]

/-- The request with the token; none without one. -/
def auth_request (credential : ProxyCredential) : Except PyError Bytes :=
  match credential.jwt with
  | none => .ok []
  | some jwt => build_jwt_auth jwt credential.scc_location_id

/-- A function that opens tunnels to a destination over a link whose stream is `stream`, where
setting the options of the socket ended with `configured`. -/
structure OpensTunnels {σ : Type} (stream : σ → Bytes) (configured : Except PyError Unit)
    (connect : ProxyCredential → Eff PyError (ProxyLink σ) Unit)
    (request : Except PyError Bytes) : Prop where
  /-- A tunnel is handed out only where all was granted, with nothing tunnelled taken off. -/
  granted : ∀ credential link link', Eff.run (connect credential) link = (.ok (), link') →
    ∃ (reply : Reply) (auth last : Bytes), Succeeds reply ∧
      auth_request credential = .ok auth ∧ request = .ok last ∧
      stream link.arriving =
        authorisation credential ++ reply.bytes ++ stream link'.arriving ∧
      link'.sent = link.sent ++ (greeting credential ++ auth ++ last) ∧
      link'.closes = link.closes
  /-- Where all is granted the tunnel is handed out. -/
  opened : ∀ credential link (reply : Reply) (auth last tunnelled : Bytes), Succeeds reply →
    configured = .ok () → auth_request credential = .ok auth → request = .ok last →
    link.faults = [] →
    stream link.arriving = authorisation credential ++ reply.bytes ++ tunnelled →
    ∃ link', Eff.run (connect credential) link = (.ok (), link') ∧
      stream link'.arriving = tunnelled
  /-- Every other end closes the connection, once. -/
  closed : ∀ credential link link' e, Eff.run (connect credential) link = (.error e, link') →
    link'.closes = link.closes + 1
  /-- However it ends: the token is sent behind the choice of its method, the destination behind
  the acceptance of the token. -/
  disclosed : ∀ credential link, ∃ out,
    (Eff.run (connect credential) link).2.sent = link.sent ++ out ∧
    (out <+: greeting credential ∨
      (selection credential <+: stream link.arriving ∧ ∃ auth,
        auth_request credential = .ok auth ∧ out <+: greeting credential ++ auth) ∨
      (authorisation credential <+: stream link.arriving ∧ ∃ auth last,
        auth_request credential = .ok auth ∧ request = .ok last ∧
          out <+: greeting credential ++ auth ++ last))

/-! ## The exchanges -/

section Exchanges

variable {σ : Type} (recv : ℕ → Eff PyError σ Bytes) (codec : HostCodec) (host : PyStr) (port : ℤ)

/-- The choice is read and compared with the offer. -/
def selection_answer (credential : ProxyCredential) : Eff PyError σ Unit := do
  let answer ← recv 2
  let selected ← Eff.lift (parse_method_selection answer)
  if selected ≠ credential.method then
    throw (proxyError (lit "SOCKS5 proxy selected method " ++ hexByte selected ++
      lit ", not the offered " ++ hexByte credential.method))
  else pure ()

/-- The verdict on the token is read. -/
def jwt_answer : Eff PyError σ Unit := do
  let answer ← recv 2
  Eff.lift (parse_jwt_auth_reply answer)

/-- The reply to the request is read. -/
def connect_answer : Eff PyError σ Unit := do
  let _ ← recv_connect_reply recv
  pure ()

/-- The choice that is accepted. -/
def Selects (credential : ProxyCredential) (answer : Bytes) : Prop := answer = selection credential

/-- The verdict that is accepted. -/
def Authorises (answer : Bytes) : Prop := answer = [JWT_SUBNEG_VERSION, AUTH_SUCCESS]

/-- The replies that are accepted. -/
def Replies (answer : Bytes) : Prop := ∃ reply : Reply, Succeeds reply ∧ answer = reply.bytes

/-- The exchange of the token, where there is one. -/
def jwt_exchanges (credential : ProxyCredential) :
    List (Exchange σ PyError UInt8 × (Bytes → Prop)) :=
  match credential.jwt with
  | none => []
  | some jwt =>
    [(⟨build_jwt_auth jwt credential.scc_location_id, jwt_answer recv⟩, Authorises)]

/-- The exchanges of a handshake, each with the answers that are accepted. -/
def exchanges (credential : ProxyCredential) : List (Exchange σ PyError UInt8 × (Bytes → Prop)) :=
  (⟨build_greeting [credential.method], selection_answer recv credential⟩, Selects credential) ::
    (jwt_exchanges recv credential ++
      [(⟨build_connect codec host port, connect_answer recv⟩, Replies)])

/-- INTERNAL: the exchange of the token. -/
theorem jwt_subnegotiation_eq (credential : ProxyCredential) :
    jwt_subnegotiation recv credential =
      dialogue ((jwt_exchanges recv credential).map Prod.fst) := by
  unfold jwt_subnegotiation jwt_exchanges
  cases credential.jwt with
  | none => rfl
  | some jwt =>
    rw [List.map_cons, List.map_nil, dialogue_singleton]
    unfold Exchange.run jwt_answer
    simp only [receive_bind, receive_lift]

/-- INTERNAL: a handshake is its dialogue behind the options of the socket. -/
theorem handshake_eq (configured : Except PyError Unit) (credential : ProxyCredential) :
    socks5_handshake recv codec configured host port credential =
      closing (Eff.lift configured >>= fun _ =>
        dialogue ((exchanges recv codec host port credential).map Prod.fst)) := by
  have hlast : dialogue ([(⟨build_connect codec host port, connect_answer recv⟩,
      Replies)].map Prod.fst) =
      (do
        let request ← Eff.lift (build_connect codec host port)
        send request
        let _ ← receive (recv_connect_reply recv)
        pure () : Eff PyError (ProxyLink σ) Unit) := by
    rw [List.map_cons, List.map_nil, dialogue_singleton]
    unfold Exchange.run connect_answer
    simp only [receive_bind]
    rfl
  unfold socks5_handshake exchanges
  rw [List.map_cons, List.map_append, jwt_subnegotiation_eq, ← hlast]
  show _ = closing (Eff.lift configured >>= fun _ => Exchange.run _ >>= fun _ => dialogue (_ ++ _))
  rw [dialogue_append]
  unfold Exchange.run selection_answer
  simp only [receive_bind, receive_lift, Eff.bind_assoc, receive_guard]

end Exchanges

/-! ## What is accepted -/

theorem parse_method_selection_eq_ok {data : Bytes} {method : UInt8} :
    parse_method_selection data = .ok method ↔
      data = [SOCKS_VERSION, method] ∧ method ≠ AUTH_NO_ACCEPTABLE := by
  unfold parse_method_selection
  split
  · next version selected =>
    by_cases hversion : version = SOCKS_VERSION
    · by_cases hnone : selected = AUTH_NO_ACCEPTABLE
      · simp only [hversion, hnone]
        simp
        rintro rfl
        rfl
      · simp only [hversion, hnone]
        simp
        rintro rfl
        exact hnone
    · simp [hversion]
  · next hother =>
    constructor
    · intro h
      cases h
    · rintro ⟨rfl, -⟩
      exact absurd rfl (hother _ _)

theorem parse_jwt_auth_reply_eq_ok {data : Bytes} :
    parse_jwt_auth_reply data = .ok () ↔ data = [JWT_SUBNEG_VERSION, AUTH_SUCCESS] := by
  unfold parse_jwt_auth_reply
  split
  · next version status =>
    by_cases hversion : version = JWT_SUBNEG_VERSION
    · by_cases hstatus : status = AUTH_SUCCESS
      · simp [hversion, hstatus]
      · simp [hversion, hstatus]
    · simp [hversion]
  · next hother =>
    constructor
    · intro h
      cases h
    · rintro rfl
      exact absurd rfl (hother _ _)

/-- Only a reply of success is parsed. -/
theorem succeeds_of_parse {version rep rsv atyp : UInt8} {tail : Bytes} {a : UInt8 × ℕ}
    (h : parse_connect_reply (version :: rep :: rsv :: atyp :: tail) = .ok a) :
    version = SOCKS_VERSION ∧ rep = 0 := by
  unfold parse_connect_reply at h
  dsimp only at h
  by_cases hversion : version = SOCKS_VERSION
  · rw [if_neg (not_not.mpr hversion)] at h
    by_cases hrep : rep = 0
    · exact ⟨hversion, hrep⟩
    · rw [if_pos hrep] at h
      cases h
  · rw [if_pos hversion] at h
    cases h

/-- INTERNAL: the length that a reply's address type says. -/
theorem bound_address_len_eq (reply : Reply) :
    bound_address_len reply.address.atyp (reply.address.bytes ++ toBE 2 reply.port.toNat) =
      .ok (reply.address.bytes ++ toBE 2 reply.port.toNat).length := by
  rw [ConnectReplies.length_body]
  obtain ⟨version, rep, rsv, address, port⟩ := reply
  cases address with
  | ipv4 octets h => exact congrArg (fun n => Except.ok (n + 2)) h.symm
  | ipv6 octets h => exact congrArg (fun n => Except.ok (n + 2)) h.symm
  | domain name h =>
    show Except.ok (1 + (UInt8.ofNat name.length).toNat + 2) = Except.ok (name.length + 1 + 2)
    rw [ConnectReplies.toNat_length h, Nat.add_comm 1]

/-- A reply of success is parsed. -/
theorem parse_of_succeeds {reply : Reply} (h : Succeeds reply) :
    ∃ a, parse_connect_reply reply.bytes = .ok a := by
  obtain ⟨hversion, hrep⟩ := h
  have hlen := bound_address_len_eq reply
  unfold Reply.bytes Reply.header parse_connect_reply
  dsimp only [List.cons_append, List.nil_append]
  rw [if_neg (not_not.mpr hversion), if_neg (not_not.mpr hrep), hlen, Eff.except_ok_bind,
    if_neg (Nat.lt_irrefl _)]
  exact ⟨_, rfl⟩

/-! ## What is read -/

/-- `recv` takes so many bytes off the stream, and returns on no shorter one. -/
def TakesExactly {σ : Type} (stream : σ → Bytes) (recv : ℕ → Eff PyError σ Bytes) : Prop :=
  ∀ n ≤ 257, Eff.EndsAs stream (recv n) fun t a t' => a.length = n ∧ t = a ++ t'

section Reading

variable {σ : Type} {stream : σ → Bytes} {recv : ℕ → Eff PyError σ Bytes}

/-- INTERNAL: reading that follows the whole stream takes so many bytes off it. -/
theorem takesExactly_of_tracks {short : ℕ → ℕ → PyError} {whole : ℕ → Eff PyError Bytes Bytes}
    (h : ∀ n, Eff.Tracks (fun s b => stream s = b) (fun _ => False) (recv n) (whole n))
    (hwhole : ∀ n ≤ 257, whole n = ChunkedReads.exactly short n) : TakesExactly stream recv := by
  intro n hn
  refine Eff.EndsAs.of_tracks (h n) ?_
  rw [hwhole n hn]
  exact ChunkedReads.endsAs_exactly short n

/-- The choice of the offered method is accepted, and no other. -/
theorem accepts_selection (hrecv : TakesExactly stream recv) (credential : ProxyCredential)
    (request : Except PyError Bytes) :
    Exchange.Accepts stream ⟨request, selection_answer recv credential⟩ (Selects credential) := by
  have hmethod : credential.method ≠ AUTH_NO_ACCEPTABLE := by
    unfold ProxyCredential.method
    split <;> decide
  have hread := (hrecv 2 (by omega)).bind fun answer =>
    Eff.EndsAs.bind_lift (r := parse_method_selection answer) fun selected =>
      Eff.EndsAs.guard (selected ≠ credential.method)
        (proxyError (lit "SOCKS5 proxy selected method " ++ hexByte selected ++
          lit ", not the offered " ++ hexByte credential.method))
  refine hread.congr fun t u t' => ?_
  constructor
  · rintro ⟨answer, t₁, ⟨-, rfl⟩, selected, hparse, hsame, rfl⟩
    obtain ⟨rfl, -⟩ := parse_method_selection_eq_ok.mp hparse
    exact ⟨_, by rw [not_not.mp hsame]; rfl, rfl⟩
  · rintro ⟨answer, rfl, rfl⟩
    exact ⟨_, _, ⟨rfl, rfl⟩, credential.method,
      parse_method_selection_eq_ok.mpr ⟨rfl, hmethod⟩, not_not.mpr rfl, rfl⟩

/-- The acceptance of the token is accepted, and nothing else. -/
theorem accepts_jwt (hrecv : TakesExactly stream recv) (request : Except PyError Bytes) :
    Exchange.Accepts stream ⟨request, jwt_answer recv⟩ Authorises := by
  have hread := (hrecv 2 (by omega)).bind fun answer =>
    Eff.EndsAs.lift (parse_jwt_auth_reply answer)
  refine hread.congr fun t u t' => ?_
  constructor
  · rintro ⟨answer, t₁, ⟨-, rfl⟩, hparse, rfl⟩
    exact ⟨answer, parse_jwt_auth_reply_eq_ok.mp hparse, rfl⟩
  · rintro ⟨answer, rfl, rfl⟩
    exact ⟨_, _, ⟨rfl, rfl⟩, parse_jwt_auth_reply_eq_ok.mpr rfl, rfl⟩

/-- INTERNAL: a number of two bytes. -/
theorem exists_port {b : Bytes} (h : b.length = 2) : ∃ port : UInt16, b = toBE 2 port.toNat := by
  obtain ⟨x, y, rfl⟩ := List.length_eq_two.mp h
  have hx := x.toNat_lt
  have hy := y.toNat_lt
  refine ⟨UInt16.ofNat (x.toNat * 256 + y.toNat), ?_⟩
  have hport : (UInt16.ofNat (x.toNat * 256 + y.toNat)).toNat = x.toNat * 256 + y.toNat := by
    rw [UInt16.toNat_ofNat', Nat.mod_eq_of_lt (by omega)]
  rw [hport]
  unfold toBE toBE toBE
  have hhigh : UInt8.ofNat ((x.toNat * 256 + y.toNat) / 256 ^ 1) = x := by
    rw [show (x.toNat * 256 + y.toNat) / 256 ^ 1 = x.toNat by omega, UInt8.ofNat_toNat]
  have hlow : UInt8.ofNat ((x.toNat * 256 + y.toNat) / 256 ^ 0) = y := by
    apply UInt8.toNat_inj.mp
    rw [UInt8.toNat_ofNat']
    omega
  rw [hhigh, hlow]

/-- INTERNAL: what is behind the header of a reply whose parser was content. -/
theorem reply_of_parse {head body : Bytes} (address : BoundAddress) {a : UInt8 × ℕ}
    (hhead : head.length = 4) (hatyp : head.getD 3 0 = address.atyp)
    (hbody : ∃ port, port.length = 2 ∧ body = address.bytes ++ port)
    (h : parse_connect_reply (head ++ body) = .ok a) : Replies (head ++ body) := by
  obtain ⟨version, rep, rsv, atyp, rfl⟩ := List.length_eq_four.mp hhead
  obtain ⟨port, hport, rfl⟩ := hbody
  obtain ⟨number, rfl⟩ := exists_port hport
  obtain rfl : atyp = address.atyp := hatyp
  exact ⟨⟨version, rep, rsv, address, number⟩, succeeds_of_parse h, rfl⟩

/-- An address of this type, and a port. -/
def AddressAndPort (atyp : UInt8) (body : Bytes) : Prop :=
  ∃ (address : BoundAddress) (port : Bytes),
    address.atyp = atyp ∧ port.length = 2 ∧ body = address.bytes ++ port

/-- INTERNAL: behind the header of an address of a fixed width the rest of the reply is read. -/
theorem endsAs_fixed (hrecv : TakesExactly stream recv) (head : Bytes) {atyp : UInt8} {n : ℕ}
    (hn : n + 2 ≤ 257) (hshape : ∀ body, AddressAndPort atyp body ↔ body.length = n + 2) :
    Eff.EndsAs stream
      (Eff.lift (.ok (n + 2)) >>= fun addr_len => recv addr_len >>= fun rest =>
        Eff.lift (parse_connect_reply (head ++ rest)))
      fun t a t' => ∃ body, AddressAndPort atyp body ∧ parse_connect_reply (head ++ body) = .ok a ∧
        t = body ++ t' := by
  have hread := (hrecv (n + 2) hn).bind fun rest =>
    Eff.EndsAs.lift (parse_connect_reply (head ++ rest))
  refine Eff.EndsAs.congr (x := recv (n + 2) >>= fun rest =>
    Eff.lift (parse_connect_reply (head ++ rest))) hread fun t a t' => ?_
  constructor
  · rintro ⟨body, t₁, ⟨hlength, rfl⟩, hparse, rfl⟩
    exact ⟨body, (hshape body).mpr hlength, hparse, rfl⟩
  · rintro ⟨body, hbody, hparse, rfl⟩
    exact ⟨body, t', ⟨(hshape body).mp hbody, rfl⟩, hparse, rfl⟩

/-- INTERNAL: behind the header of a domain name its length and the rest are read. -/
theorem endsAs_domain (hrecv : TakesExactly stream recv) (head : Bytes) :
    Eff.EndsAs stream
      (recv 1 >>= fun name_len => recv ((name_len.getD 0 0).toNat + 2) >>= fun rest =>
        Eff.lift (parse_connect_reply (head ++ name_len ++ rest)))
      fun t a t' => ∃ body, AddressAndPort ATYP_DOMAIN body ∧
        parse_connect_reply (head ++ body) = .ok a ∧ t = body ++ t' := by
  have hread := (hrecv 1 (by omega)).bind fun name_len =>
    (hrecv ((name_len.getD 0 0).toNat + 2)
      (by have := (name_len.getD 0 0).toNat_lt; omega)).bind fun rest =>
    Eff.EndsAs.lift (parse_connect_reply (head ++ name_len ++ rest))
  refine hread.congr fun t a t' => ?_
  constructor
  · rintro ⟨name_len, t₁, ⟨hlen, rfl⟩, rest, t₂, ⟨hrest, rfl⟩, hparse, rfl⟩
    obtain ⟨len, rfl⟩ := List.length_eq_one_iff.mp hlen
    have hrest : rest.length = len.toNat + 2 := hrest
    have hlt := len.toNat_lt
    have hname : (rest.take len.toNat).length = len.toNat := List.length_take_of_le (by omega)
    refine ⟨[len] ++ rest, ⟨.domain (rest.take len.toNat) (by omega), rest.drop len.toNat, rfl, ?_,
      ?_⟩, by rw [← List.append_assoc]; exact hparse, by rw [List.append_assoc]⟩
    · rw [List.length_drop]
      omega
    · show len :: rest = UInt8.ofNat (rest.take len.toNat).length :: (_ ++ _)
      rw [List.take_append_drop, hname, UInt8.ofNat_toNat]
  · rintro ⟨body, ⟨address, port, hatyp, hport, rfl⟩, hparse, rfl⟩
    cases address with
    | ipv4 octets h => exact absurd hatyp (show ¬ATYP_IPV4 = ATYP_DOMAIN by decide)
    | ipv6 octets h => exact absurd hatyp (show ¬ATYP_IPV6 = ATYP_DOMAIN by decide)
    | domain name h =>
      refine ⟨[UInt8.ofNat name.length], name ++ port ++ t', ⟨rfl, ?_⟩, name ++ port, t', ⟨?_, rfl⟩,
        ?_, rfl⟩
      · rfl
      · show (name ++ port).length = (UInt8.ofNat name.length).toNat + 2
        rw [ConnectReplies.toNat_length h, List.length_append, hport]
      · rw [List.append_assoc]
        exact hparse

/-- INTERNAL: a type of fixed width has the addresses of that width. -/
theorem addressAndPort_ipv4 (body : Bytes) : AddressAndPort ATYP_IPV4 body ↔
    body.length = 4 + 2 := by
  constructor
  · rintro ⟨address, port, hatyp, hport, rfl⟩
    cases address with
    | ipv4 octets h => rw [List.length_append, hport]; exact congrArg (· + 2) h
    | ipv6 octets h => exact absurd hatyp (show ¬ATYP_IPV6 = ATYP_IPV4 by decide)
    | domain name h => exact absurd hatyp (show ¬ATYP_DOMAIN = ATYP_IPV4 by decide)
  · intro h
    refine ⟨.ipv4 (body.take 4) (List.length_take_of_le (by omega)), body.drop 4, rfl, ?_,
      (List.take_append_drop 4 body).symm⟩
    rw [List.length_drop]
    omega

/-- INTERNAL: the same for the other family. -/
theorem addressAndPort_ipv6 (body : Bytes) :
    AddressAndPort ATYP_IPV6 body ↔ body.length = 16 + 2 := by
  constructor
  · rintro ⟨address, port, hatyp, hport, rfl⟩
    cases address with
    | ipv4 octets h => exact absurd hatyp (show ¬ATYP_IPV4 = ATYP_IPV6 by decide)
    | ipv6 octets h => rw [List.length_append, hport]; exact congrArg (· + 2) h
    | domain name h => exact absurd hatyp (show ¬ATYP_DOMAIN = ATYP_IPV6 by decide)
  · intro h
    refine ⟨.ipv6 (body.take 16) (List.length_take_of_le (by omega)), body.drop 16, rfl, ?_,
      (List.take_append_drop 16 body).symm⟩
    rw [List.length_drop]
    omega

/-- INTERNAL: behind a header, whatever its address type. -/
theorem endsAs_behind_header (hrecv : TakesExactly stream recv) (head : Bytes) :
    Eff.EndsAs stream
      (if head.getD 3 0 = ATYP_DOMAIN then
        recv 1 >>= fun name_len => recv ((name_len.getD 0 0).toNat + 2) >>= fun rest =>
          Eff.lift (parse_connect_reply (head ++ name_len ++ rest))
      else Eff.lift (bound_address_len (head.getD 3 0) [0]) >>= fun addr_len =>
        recv addr_len >>= fun rest => Eff.lift (parse_connect_reply (head ++ rest)))
      fun t a t' => ∃ body, AddressAndPort (head.getD 3 0) body ∧
        parse_connect_reply (head ++ body) = .ok a ∧ t = body ++ t' := by
  by_cases hdomain : head.getD 3 0 = ATYP_DOMAIN
  · rw [if_pos hdomain, hdomain]
    exact endsAs_domain hrecv head
  · rw [if_neg hdomain]
    by_cases h4 : head.getD 3 0 = ATYP_IPV4
    · rw [h4]
      exact endsAs_fixed hrecv head (by omega) addressAndPort_ipv4
    · by_cases h6 : head.getD 3 0 = ATYP_IPV6
      · rw [h6]
        exact endsAs_fixed hrecv head (by omega) addressAndPort_ipv6
      · intro s a t
        unfold bound_address_len
        rw [if_neg h4, if_neg h6, if_neg hdomain, Eff.run_bind_error (Eff.run_lift ..)]
        constructor
        · rintro ⟨s', hs, -⟩
          cases hs
        · rintro ⟨body, ⟨address, port, hatyp, -⟩, -⟩
          cases address with
          | ipv4 octets h => exact absurd hatyp.symm h4
          | ipv6 octets h => exact absurd hatyp.symm h6
          | domain name h => exact absurd hatyp.symm hdomain

/-- A reply of success is accepted, and nothing else. -/
theorem accepts_connect (hrecv : TakesExactly stream recv) (request : Except PyError Bytes) :
    Exchange.Accepts stream ⟨request, connect_answer recv⟩ Replies := by
  have hreply := (hrecv 4 (by omega)).bind fun head => endsAs_behind_header hrecv head
  refine (hreply.bind fun _ => Eff.EndsAs.pure ()).congr fun t u t' => ?_
  constructor
  · rintro ⟨a, t₁, ⟨head, t₂, ⟨hhead, rfl⟩, body, ⟨address, port, hatyp, hport, hbody⟩, hparse,
      rfl⟩,
      -, rfl⟩
    refine ⟨head ++ body, ?_, (List.append_assoc ..).symm⟩
    exact reply_of_parse address hhead hatyp.symm ⟨port, hport, hbody⟩ hparse
  · rintro ⟨answer, ⟨reply, hsucceeds, rfl⟩, rfl⟩
    obtain ⟨a, ha⟩ := parse_of_succeeds hsucceeds
    refine ⟨a, t', ⟨reply.header, _, ⟨rfl, List.append_assoc ..⟩, _,
      ⟨reply.address, toBE 2 reply.port.toNat, rfl, length_toBE .., rfl⟩, ha, rfl⟩, rfl, rfl⟩

end Reading

/-! ## The handshake -/

section Handshake

variable {σ : Type} {stream : σ → Bytes} {recv : ℕ → Eff PyError σ Bytes}
  (codec : HostCodec) (host : PyStr) (port : ℤ)

/-- INTERNAL: every exchange of a handshake accepts what it says it does. -/
theorem accepts_exchanges (hrecv : TakesExactly stream recv) (credential : ProxyCredential) :
    ∀ p ∈ exchanges recv codec host port credential, p.1.Accepts stream p.2 := by
  intro p hp
  rcases List.mem_cons.mp hp with rfl | hp
  · exact accepts_selection hrecv credential _
  · rcases List.mem_append.mp hp with hp | hp
    · unfold jwt_exchanges at hp
      cases hjwt : credential.jwt with
      | none =>
        rw [hjwt] at hp
        cases hp
      | some jwt =>
        rw [hjwt] at hp
        obtain rfl := List.mem_singleton.mp hp
        exact accepts_jwt hrecv _
    · obtain rfl := List.mem_singleton.mp hp
      exact accepts_connect hrecv _

/-- INTERNAL: the greeting offers one method. -/
theorem build_greeting_eq (credential : ProxyCredential) :
    build_greeting [credential.method] = .ok (greeting credential) := by
  unfold build_greeting
  rw [if_neg (by simp)]
  rfl

/-- INTERNAL: what is spoken where the request is left. -/
theorem spoken_last {answers out : Bytes} :
    Spoken [((⟨build_connect codec host port, connect_answer recv⟩ : Exchange σ PyError UInt8),
      Replies)] answers out ↔
      ∃ reply : Reply, Succeeds reply ∧ build_connect codec host port = .ok out ∧
        answers = reply.bytes := by
  constructor
  · intro h
    cases h with
    | cons hrequest hanswer hlater =>
      cases hlater
      obtain ⟨reply, hsucceeds, rfl⟩ := hanswer
      rw [List.append_nil, List.append_nil]
      exact ⟨reply, hsucceeds, hrequest, rfl⟩
  · rintro ⟨reply, hsucceeds, hrequest, rfl⟩
    have h := Spoken.cons (x := ⟨build_connect codec host port, connect_answer recv⟩) hrequest
      (show Replies reply.bytes from ⟨reply, hsucceeds, rfl⟩) .nil
    rw [List.append_nil, List.append_nil] at h
    exact h

/-- INTERNAL: what is spoken in a handshake that is through. -/
theorem spoken_exchanges (credential : ProxyCredential) {answers out : Bytes} :
    Spoken (exchanges recv codec host port credential) answers out ↔
      ∃ (reply : Reply) (auth last : Bytes), Succeeds reply ∧
        auth_request credential = .ok auth ∧ build_connect codec host port = .ok last ∧
        answers = authorisation credential ++ reply.bytes ∧
        out = greeting credential ++ auth ++ last := by
  unfold exchanges jwt_exchanges auth_request authorisation
  constructor
  · intro h
    cases h with
    | @cons _ _ _ first _ answers out hrequest hanswer hlater =>
      obtain rfl := Except.ok.inj ((build_greeting_eq credential).symm.trans hrequest)
      obtain rfl : _ = selection credential := hanswer
      cases hjwt : credential.jwt with
      | none =>
        rw [hjwt] at hlater
        obtain ⟨reply, hsucceeds, hlast, rfl⟩ := (spoken_last codec host port).mp hlater
        refine ⟨reply, [], _, hsucceeds, rfl, hlast, ?_, ?_⟩
        · rw [if_neg (by simp), List.append_nil]
        · rw [List.append_nil]
      | some jwt =>
        rw [hjwt] at hlater
        cases hlater with
        | @cons _ _ _ auth _ answers out hauth haccepted hlater =>
          obtain rfl : _ = [JWT_SUBNEG_VERSION, AUTH_SUCCESS] := haccepted
          obtain ⟨reply, hsucceeds, hlast, rfl⟩ := (spoken_last codec host port).mp hlater
          refine ⟨reply, auth, _, hsucceeds, hauth, hlast, ?_, ?_⟩
          · rw [if_pos (by simp), List.append_assoc]
          · rw [List.append_assoc]
  · rintro ⟨reply, auth, last, hsucceeds, hauth, hlast, rfl, rfl⟩
    have hspoken : Spoken [((⟨build_connect codec host port, connect_answer recv⟩ :
        Exchange σ PyError UInt8), Replies)] reply.bytes last :=
      (spoken_last codec host port).mpr ⟨reply, hsucceeds, hlast, rfl⟩
    rw [List.append_assoc, List.append_assoc]
    refine .cons (build_greeting_eq credential) rfl ?_
    cases hjwt : credential.jwt with
    | none =>
      rw [hjwt] at hauth
      obtain rfl := Except.ok.inj hauth
      exact hspoken
    | some jwt =>
      rw [hjwt] at hauth
      exact .cons hauth rfl hspoken

/-- INTERNAL: what is heard where the request is left. -/
theorem heard_last {said out : Bytes}
    (h : Heard [((⟨build_connect codec host port, connect_answer recv⟩ : Exchange σ PyError UInt8),
      Replies)] said out) :
    out = [] ∨ ∃ last, build_connect codec host port = .ok last ∧ out <+: last := by
  cases h with
  | here => exact .inl rfl
  | asked hrequest hpart => exact .inr ⟨_, hrequest, hpart⟩
  | answered hrequest hanswer hlater =>
    cases hlater
    exact .inr ⟨_, hrequest, by rw [List.append_nil]⟩

/-- INTERNAL: what is heard of a handshake. -/
theorem heard_exchanges (credential : ProxyCredential) {said out : Bytes}
    (h : Heard (exchanges recv codec host port credential) said out) :
    out <+: greeting credential ∨
      (selection credential <+: said ∧ ∃ auth,
        auth_request credential = .ok auth ∧ out <+: greeting credential ++ auth) ∨
      (authorisation credential <+: said ∧ ∃ auth last,
        auth_request credential = .ok auth ∧ build_connect codec host port = .ok last ∧
          out <+: greeting credential ++ auth ++ last) := by
  unfold exchanges jwt_exchanges at h
  unfold auth_request authorisation
  cases h with
  | here => exact .inl (List.nil_prefix)
  | @asked _ _ _ _ first _ hrequest hpart =>
    obtain rfl := Except.ok.inj ((build_greeting_eq credential).symm.trans hrequest)
    exact .inl hpart
  | @answered _ _ _ said first answer out hrequest hanswer hlater =>
    obtain rfl := Except.ok.inj ((build_greeting_eq credential).symm.trans hrequest)
    obtain rfl : answer = selection credential := hanswer
    cases hjwt : credential.jwt with
    | none =>
      rw [hjwt] at hlater
      rw [if_neg (by simp)]
      rcases heard_last codec host port hlater with rfl | ⟨last, hlast, hpart⟩
      · rw [List.append_nil]
        exact .inl (List.prefix_refl _)
      · refine .inr (.inr ⟨List.prefix_append_right_inj _ |>.mpr List.nil_prefix, [], last, rfl,
          hlast,
          ?_⟩)
        rw [List.append_nil]
        exact List.prefix_append_right_inj _ |>.mpr hpart
    | some jwt =>
      rw [hjwt] at hlater
      rw [if_pos (by simp)]
      cases hlater with
      | here =>
        rw [List.append_nil]
        exact .inl (List.prefix_refl _)
      | @asked _ _ _ _ auth _ hauth hpart =>
        exact .inr (.inl ⟨List.prefix_append .., auth, hauth,
          List.prefix_append_right_inj _ |>.mpr hpart⟩)
      | @answered _ _ _ said auth answer out hauth haccepted hlater =>
        obtain rfl : answer = [JWT_SUBNEG_VERSION, AUTH_SUCCESS] := haccepted
        rcases heard_last codec host port hlater with rfl | ⟨last, hlast, hpart⟩
        · refine .inr (.inl ⟨List.prefix_append .., auth, hauth, ?_⟩)
          rw [List.append_nil]
        · refine .inr (.inr ⟨?_, auth, last, hauth, hlast, ?_⟩)
          · exact List.prefix_append_right_inj _ |>.mpr (List.prefix_append ..)
          · rw [List.append_assoc]
            exact List.prefix_append_right_inj _ |>.mpr
              (List.prefix_append_right_inj _ |>.mpr hpart)

/-- INTERNAL: a handshake over such a reader. -/
theorem opensTunnels (hrecv : TakesExactly stream recv) (configured : Except PyError Unit) :
    OpensTunnels stream configured
      (socks5_handshake recv codec configured host port)
      (build_connect codec host port) := by
  have haccepts := accepts_exchanges codec host port hrecv
  constructor
  · intro credential link link' hrun
    rw [handshake_eq, run_closing_ok] at hrun
    obtain ⟨_, mid, hconfigured, hdialogue⟩ := Eff.run_bind_eq_ok hrun
    obtain rfl : link = mid := (Prod.mk.inj hconfigured).2
    obtain ⟨answers, out, hspoken, hstream, hsent, hclosed⟩ :=
      spoken_of_dialogue (haccepts credential) hdialogue
    obtain ⟨reply, auth, last, hsucceeds, hauth, hlast, rfl, rfl⟩ :=
      (spoken_exchanges codec host port credential).mp hspoken
    exact ⟨reply, auth, last, hsucceeds, hauth, hlast, hstream, hsent, hclosed⟩
  · intro credential link reply auth last tunnelled hsucceeds hconfigured hauth hlast hfaults
      hstream
    have hspoken : Spoken (exchanges recv codec host port credential)
        (authorisation credential ++ reply.bytes) (greeting credential ++ auth ++ last) :=
      (spoken_exchanges codec host port credential).mpr
        ⟨reply, auth, last, hsucceeds, hauth, hlast, rfl, rfl⟩
    obtain ⟨link', hrun, hrest, -, -⟩ :=
      dialogue_of_spoken (haccepts credential) hfaults hspoken hstream
    refine ⟨link', ?_, hrest⟩
    rw [handshake_eq, run_closing_ok, hconfigured, Eff.run_bind_ok (Eff.run_lift ..), hrun]
  · intro credential link link' e hrun
    rw [handshake_eq] at hrun
    refine closes_closing (Eff.Keeps.bind OpenStill.trans ?_ fun _ => keeps_dialogue _) hrun
    exact Eff.Keeps.lift OpenStill.refl configured
  · intro credential link
    obtain ⟨out, hheard, hsent⟩ := heard_of_dialogue (haccepts credential) link
    rw [handshake_eq, sent_closing]
    cases configured with
    | error e => exact ⟨[], (List.append_nil _).symm, .inl List.nil_prefix⟩
    | ok u =>
      rw [Eff.run_bind_ok (Eff.run_lift ..)]
      exact ⟨out, hsent, heard_exchanges codec host port credential hheard⟩

end Handshake

/-- Over a blocking socket and over an asynchronous stream, however what the proxy sends is cut into
pieces: the tunnel is opened by what the proxy grants, and by nothing else. -/
theorem tunnels_opened (codec : HostCodec) (configured : Except PyError Unit) (host : PyStr)
    (port : ℤ) :
    OpensTunnels List.flatten configured (socks5_connect codec configured host port)
        (build_connect codec host port) ∧
      OpensTunnels ChunkedReads.Feed.stream configured
        (socks5_connect_async codec configured host port) (build_connect codec host port) := by
  have hsync : TakesExactly List.flatten socks_recv_exactly := by
    refine takesExactly_of_tracks (fun n => Eff.Tracks.ite _ (Eff.Tracks.throw _)
      (ChunkedReads.gather_tracks proxy_closed n)) (fun n hn => if_neg ?_)
    unfold MAX_REPLY_FIELD
    omega
  have hasync : TakesExactly ChunkedReads.Feed.stream readexactly :=
    takesExactly_of_tracks (fun n => ChunkedReads.await_tracks incomplete_read n) fun _ _ => rfl
  exact ⟨opensTunnels codec host port hsync configured,
    opensTunnels codec host port hasync configured⟩

end SapRfc.Analysis.ProxyHandshakes
