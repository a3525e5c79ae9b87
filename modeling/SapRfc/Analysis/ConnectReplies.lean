import SapRfc.Program.Socks5

/-!
# A CONNECT reply is read to its end and no further

A reply is a header, an address of one of three types and a port.  Both readers take it from the
stream in stages, whatever follows it and however the stream is cut into pieces, and answer as the
parser does on its bytes.  A stream that ends inside a reply raises, and so does an address type
that there is not.
-/

set_option autoImplicit false

namespace SapRfc.Analysis.ConnectReplies

open SapRfc.Library SapRfc.Library.ChunkedReads SapRfc.Program

/-! ## Replies -/

/-- A bound address, as long as its type says. -/
inductive BoundAddress where
  | ipv4 (octets : Bytes) (h : octets.length = 4)
  | ipv6 (octets : Bytes) (h : octets.length = 16)
  | domain (name : Bytes) (h : name.length < 256)

namespace BoundAddress

def atyp : BoundAddress → UInt8
  | ipv4 _ _ => ATYP_IPV4
  | ipv6 _ _ => ATYP_IPV6
  | domain _ _ => ATYP_DOMAIN

def bytes : BoundAddress → Bytes
  | ipv4 octets _ => octets
  | ipv6 octets _ => octets
  | domain name _ => UInt8.ofNat name.length :: name

end BoundAddress

/-- A complete reply: any version, any code. -/
structure Reply where
  version : UInt8
  rep : UInt8
  rsv : UInt8
  address : BoundAddress
  port : UInt16

namespace Reply

def header (reply : Reply) : Bytes :=
  [reply.version, reply.rep, reply.rsv, reply.address.atyp]

def bytes (reply : Reply) : Bytes :=
  reply.header ++ (reply.address.bytes ++ toBE 2 reply.port.toNat)

end Reply

/-! ## The whole stream -/

section Stream

variable {short : ℕ → ℕ → PyError} {recv : ℕ → Eff PyError Bytes Bytes}

/-- INTERNAL: behind the header of an address of a fixed width the rest of the reply is read. -/
theorem run_fixed (hrecv : ∀ n ≤ 257, recv n = exactly short n) (header : Bytes) (width : ℕ)
    (hheader : header.length = 4) (hatyp : header.getD 3 0 ≠ ATYP_DOMAIN)
    (hwidth : bound_address_len (header.getD 3 0) [0] = .ok width) (hle : width ≤ 257)
    (tail : Bytes) :
    Eff.run (recv_connect_reply recv) (header ++ tail) =
      Eff.run (exactly short width >>= fun rest =>
        Eff.lift (parse_connect_reply (header ++ rest))) tail := by
  unfold recv_connect_reply
  rw [hrecv 4 (by omega), Eff.run_bind_ok (run_exactly_append short _ _ hheader)]
  dsimp only
  rw [if_neg hatyp, hwidth, Eff.run_bind_ok (Eff.run_lift ..), hrecv width hle]

/-- INTERNAL: behind the length of a domain name the rest of the reply is read. -/
theorem run_domain (hrecv : ∀ n ≤ 257, recv n = exactly short n) (header : Bytes)
    (hheader : header.length = 4) (hatyp : header.getD 3 0 = ATYP_DOMAIN) (len : UInt8)
    (tail : Bytes) :
    Eff.run (recv_connect_reply recv) (header ++ len :: tail) =
      Eff.run (exactly short (len.toNat + 2) >>= fun rest =>
        Eff.lift (parse_connect_reply (header ++ [len] ++ rest))) tail := by
  have hlen : len.toNat < 256 := len.toNat_lt
  unfold recv_connect_reply
  rw [hrecv 4 (by omega), Eff.run_bind_ok (run_exactly_append short _ _ hheader)]
  dsimp only
  rw [if_pos hatyp, hrecv 1 (by omega)]
  show Eff.run _ ([len] ++ tail) = _
  rw [Eff.run_bind_ok (run_exactly_append (n := 1) short [len] _ rfl)]
  show Eff.run (recv (len.toNat + 2) >>= _) tail = _
  rw [hrecv _ (by omega)]

/-- INTERNAL: the rest of a reply, with what is behind it. -/
theorem run_rest {n : ℕ} {body : Bytes} (h : body.length = n) (rest : Bytes)
    (answer : Bytes → Except PyError (UInt8 × ℕ)) :
    Eff.run (exactly short n >>= fun rest => Eff.lift (answer rest)) (body ++ rest) =
      (answer body, rest) := by
  rw [Eff.run_bind_ok (run_exactly_append short _ _ h), Eff.run_lift]

/-- INTERNAL: the rest of a reply that is cut off. -/
theorem run_rest_cut {n : ℕ} {body : Bytes} (h : body.length < n)
    (answer : Bytes → Except PyError (UInt8 × ℕ)) :
    ∃ e, (Eff.run (exactly short n >>= fun rest => Eff.lift (answer rest)) body).1 = .error e := by
  rw [Eff.run_bind_error (run_exactly_short short h)]
  exact ⟨_, rfl⟩

/-- INTERNAL: the length of a domain name fits its byte. -/
theorem toNat_length {name : Bytes} (h : name.length < 256) :
    (UInt8.ofNat name.length).toNat = name.length := by
  rw [UInt8.toNat_ofNat', Nat.mod_eq_of_lt h]

theorem length_body (octets : Bytes) (port : UInt16) :
    (octets ++ toBE 2 port.toNat).length = octets.length + 2 := by
  rw [List.length_append, length_toBE]

/-- A reply is read to its end, and the answer is the parser's. -/
theorem run_reply (hrecv : ∀ n ≤ 257, recv n = exactly short n) (reply : Reply) (rest : Bytes) :
    Eff.run (recv_connect_reply recv) (reply.bytes ++ rest) =
      (parse_connect_reply reply.bytes, rest) := by
  obtain ⟨version, rep, rsv, address, port⟩ := reply
  unfold Reply.bytes
  rw [List.append_assoc]
  cases address with
  | ipv4 octets h =>
    show Eff.run _ ([version, rep, rsv, ATYP_IPV4] ++ (octets ++ toBE 2 port.toNat ++ rest)) =
      (parse_connect_reply ([version, rep, rsv, ATYP_IPV4] ++ (octets ++ toBE 2 port.toNat)), rest)
    rw [run_fixed hrecv [version, rep, rsv, ATYP_IPV4] 6 rfl
      (show ATYP_IPV4 ≠ ATYP_DOMAIN by decide) rfl (by decide),
      run_rest (by rw [length_body]; exact congrArg (· + 2) h)]
  | ipv6 octets h =>
    show Eff.run _ ([version, rep, rsv, ATYP_IPV6] ++ (octets ++ toBE 2 port.toNat ++ rest)) =
      (parse_connect_reply ([version, rep, rsv, ATYP_IPV6] ++ (octets ++ toBE 2 port.toNat)), rest)
    rw [run_fixed hrecv [version, rep, rsv, ATYP_IPV6] 18 rfl
      (show ATYP_IPV6 ≠ ATYP_DOMAIN by decide) rfl (by decide),
      run_rest (by rw [length_body]; exact congrArg (· + 2) h)]
  | domain name h =>
    show Eff.run _ ([version, rep, rsv, ATYP_DOMAIN] ++
        UInt8.ofNat name.length :: (name ++ toBE 2 port.toNat ++ rest)) =
      (parse_connect_reply ([version, rep, rsv, ATYP_DOMAIN] ++
        ([UInt8.ofNat name.length] ++ (name ++ toBE 2 port.toNat))), rest)
    rw [run_domain hrecv [version, rep, rsv, ATYP_DOMAIN] rfl rfl,
      run_rest (by rw [length_body, toNat_length h]), List.append_assoc]

/-- A stream that is shorter than the header raises. -/
theorem run_header_cut (hrecv : ∀ n ≤ 257, recv n = exactly short n) {stream : Bytes}
    (h : stream.length < 4) : ∃ e, (Eff.run (recv_connect_reply recv) stream).1 = .error e := by
  unfold recv_connect_reply
  rw [hrecv 4 (by omega), Eff.run_bind_error (run_exactly_short short h)]
  exact ⟨_, rfl⟩

/-- INTERNAL: a header of a domain name and nothing behind it. -/
theorem run_domain_nil (hrecv : ∀ n ≤ 257, recv n = exactly short n) {header : Bytes}
    (hheader : header.length = 4) (hatyp : header.getD 3 0 = ATYP_DOMAIN) :
    ∃ e, (Eff.run (recv_connect_reply recv) header).1 = .error e := by
  have hrun := run_exactly_append short header [] hheader
  rw [List.append_nil] at hrun
  unfold recv_connect_reply
  rw [hrecv 4 (by omega), Eff.run_bind_ok hrun]
  dsimp only
  rw [if_pos hatyp, hrecv 1 (by omega),
    Eff.run_bind_error (run_exactly_short short (show ([] : Bytes).length < 1 by decide))]
  exact ⟨_, rfl⟩

/-- A stream that ends inside a reply raises. -/
theorem run_reply_cut (hrecv : ∀ n ≤ 257, recv n = exactly short n) (reply : Reply) {k : ℕ}
    (hk : k < reply.bytes.length) :
    ∃ e, (Eff.run (recv_connect_reply recv) (reply.bytes.take k)).1 = .error e := by
  by_cases hheader : k < 4
  · exact run_header_cut hrecv (Nat.lt_of_le_of_lt (List.length_take_le ..) hheader)
  · obtain ⟨version, rep, rsv, address, port⟩ := reply
    have hfour : (Reply.header ⟨version, rep, rsv, address, port⟩).length = 4 := rfl
    unfold Reply.bytes at hk ⊢
    dsimp only at hk ⊢
    rw [List.length_append, hfour, length_body] at hk
    rw [List.take_append, hfour, List.take_of_length_le (by omega)]
    cases address with
    | ipv4 octets h =>
      rw [BoundAddress.bytes, h] at hk
      show ∃ e, (Eff.run _ ([version, rep, rsv, ATYP_IPV4] ++ List.take (k - 4) _)).1 = .error e
      rw [run_fixed hrecv [version, rep, rsv, ATYP_IPV4] 6 rfl
        (show ATYP_IPV4 ≠ ATYP_DOMAIN by decide) rfl (by decide)]
      exact run_rest_cut (by rw [List.length_take]; omega) _
    | ipv6 octets h =>
      rw [BoundAddress.bytes, h] at hk
      show ∃ e, (Eff.run _ ([version, rep, rsv, ATYP_IPV6] ++ List.take (k - 4) _)).1 = .error e
      rw [run_fixed hrecv [version, rep, rsv, ATYP_IPV6] 18 rfl
        (show ATYP_IPV6 ≠ ATYP_DOMAIN by decide) rfl (by decide)]
      exact run_rest_cut (by rw [List.length_take]; omega) _
    | domain name h =>
      rw [BoundAddress.bytes, List.length_cons] at hk
      cases hbehind : k - 4 with
      | zero =>
        rw [List.take_zero, List.append_nil]
        exact run_domain_nil hrecv hfour rfl
      | succ n =>
        dsimp only [BoundAddress.bytes]
        rw [List.cons_append, List.take_succ_cons,
          run_domain hrecv _ hfour rfl]
        exact run_rest_cut (by rw [List.length_take, toNat_length h]; omega) _

/-- An address type that there is not raises. -/
theorem run_unknown_atyp (hrecv : ∀ n ≤ 257, recv n = exactly short n)
    {version rep rsv atyp : UInt8}
    (h : atyp ∉ [ATYP_IPV4, ATYP_DOMAIN, ATYP_IPV6]) (rest : Bytes) :
    ∃ e, (Eff.run (recv_connect_reply recv) (version :: rep :: rsv :: atyp :: rest)).1 =
      .error e := by
  simp only [List.mem_cons, List.not_mem_nil, or_false, not_or] at h
  obtain ⟨h4, hdomain, h6⟩ := h
  unfold recv_connect_reply
  show ∃ e, (Eff.run _ ([version, rep, rsv, atyp] ++ rest)).1 = .error e
  rw [hrecv 4 (by omega), Eff.run_bind_ok (run_exactly_append (n := 4) short
    [version, rep, rsv, atyp] _ rfl)]
  show ∃ e, (Eff.run (if atyp = ATYP_DOMAIN then _ else _) rest).1 = .error e
  rw [if_neg hdomain]
  show ∃ e, (Eff.run (Eff.lift (bound_address_len atyp [0]) >>= _) rest).1 = .error e
  unfold bound_address_len
  rw [if_neg h4, if_neg h6, if_neg hdomain, Eff.run_bind_error (Eff.run_lift ..)]
  exact ⟨_, rfl⟩

end Stream

/-! ## The stream in pieces -/

/-- A reader of replies, from states that have a stream: a complete reply is read to its end and
answered as the parser answers, a reply that is cut off and an unknown address type raise. -/
structure ReadsReplies {σ : Type} (recv : Eff PyError σ (UInt8 × ℕ)) (stream : σ → Bytes) :
    Prop where
  complete : ∀ (reply : Reply) (tunnelled : Bytes) (s : σ), stream s = reply.bytes ++ tunnelled →
    ∃ s', Eff.run recv s = (parse_connect_reply reply.bytes, s') ∧ stream s' = tunnelled
  cut : ∀ (reply : Reply) (k : ℕ) (s : σ), k < reply.bytes.length →
    stream s = reply.bytes.take k → ∃ e, (Eff.run recv s).1 = .error e
  unknown : ∀ (version rep rsv atyp : UInt8) (rest : Bytes) (s : σ),
    atyp ∉ [ATYP_IPV4, ATYP_DOMAIN, ATYP_IPV6] →
    stream s = version :: rep :: rsv :: atyp :: rest → ∃ e, (Eff.run recv s).1 = .error e

theorem tracks_recv_connect_reply {σ τ : Type} {R : σ → τ → Prop} {E : PyError → Prop}
    {recv : ℕ → Eff PyError σ Bytes} {recv' : ℕ → Eff PyError τ Bytes}
    (h : ∀ n, Eff.Tracks R E (recv n) (recv' n)) :
    Eff.Tracks R E (recv_connect_reply recv) (recv_connect_reply recv') := by
  unfold recv_connect_reply
  refine Eff.Tracks.bind (h 4) fun header => ?_
  refine Eff.Tracks.ite _ ?_ ?_
  · refine Eff.Tracks.bind (h 1) fun name_len => ?_
    exact Eff.Tracks.bind (h _) fun rest => Eff.Tracks.lift _
  · refine Eff.Tracks.bind (Eff.Tracks.lift _) fun addr_len => ?_
    exact Eff.Tracks.bind (h _) fun rest => Eff.Tracks.lift _

/-- INTERNAL: a reader that is compared with the whole stream ends as reading that does. -/
theorem readsReplies_of_tracks {σ : Type} {recv : ℕ → Eff PyError σ Bytes} {stream : σ → Bytes}
    {whole : ℕ → Eff PyError Bytes Bytes} {short : ℕ → ℕ → PyError}
    (h : ∀ n, Eff.Tracks (fun s b => stream s = b) (fun _ => False) (recv n) (whole n))
    (hwhole : ∀ n ≤ 257, whole n = exactly short n) :
    ReadsReplies (recv_connect_reply recv) stream := by
  have hsame : ∀ s, (Eff.run (recv_connect_reply recv) s).1 =
        (Eff.run (recv_connect_reply whole) (stream s)).1 ∧
      stream (Eff.run (recv_connect_reply recv) s).2 =
        (Eff.run (recv_connect_reply whole) (stream s)).2 := by
    intro s
    rcases tracks_recv_connect_reply h s (stream s) rfl with hsame | ⟨_, -, hfalse⟩
    · exact hsame
    · exact hfalse.elim
  constructor
  · intro reply tunnelled s hs
    obtain ⟨hanswer, hrest⟩ := hsame s
    rw [hs, run_reply hwhole] at hanswer hrest
    exact ⟨_, Prod.ext hanswer rfl, hrest⟩
  · intro reply k s hk hs
    rw [(hsame s).1, hs]
    exact run_reply_cut hwhole reply hk
  · intro version rep rsv atyp rest s hatyp hs
    rw [(hsame s).1, hs]
    exact run_unknown_atyp hwhole hatyp rest

/-- Both readers take from the stream the bytes of the reply and no more, and answer as the parser
does on them, however the stream is cut into pieces. -/
theorem connect_replies_read :
    ReadsReplies recv_connect_reply_sync List.flatten ∧
      ReadsReplies recv_connect_reply_async Feed.stream := by
  constructor
  · refine readsReplies_of_tracks (fun n => Eff.Tracks.ite _ (Eff.Tracks.throw _)
      (gather_tracks proxy_closed n)) (fun n hn => if_neg ?_)
    unfold MAX_REPLY_FIELD
    omega
  · exact readsReplies_of_tracks (fun n => await_tracks incomplete_read n) fun _ _ => rfl

end SapRfc.Analysis.ConnectReplies
