import SapRfc.Analysis.WsUpgrades
import Mathlib.Data.List.GetD

/-!
# The secrets are not seen in what is raised

A password or a token goes out with a request and nowhere else: two attempts to open a transport
that differ in their secrets only, and get the same answers, end with the same.
-/

set_option autoImplicit false

namespace SapRfc.Analysis.UnseenSecrets

open SapRfc.Library SapRfc.Program
open Dialogues WsHeads WsUpgrades

/-! ## Links that differ in what was sent -/

/-- Two links, the same but for what was sent. -/
structure SameButSent {σ : Type} (link link' : ProxyLink σ) : Prop where
  arriving : link.arriving = link'.arriving
  faults : link.faults = link'.faults
  closes : link.closes = link'.closes

section Links

variable {σ α β : Type}

theorem matches_send (items items' : Bytes) :
    Eff.Matches SameButSent Eq (send items : Eff PyError (ProxyLink σ) Unit) (send items') := by
  rintro ⟨arriving, sent, faults, closes⟩ ⟨arriving', sent', faults', closes'⟩ ⟨h₁, h₂, h₃⟩
  cases h₁
  cases h₂
  cases h₃
  unfold send
  rw [Eff.run_mk, Eff.run_mk]
  cases faults with
  | nil => exact ⟨⟨rfl, rfl, rfl⟩, .ok rfl⟩
  | cons fault later =>
    cases fault with
    | none => exact ⟨⟨rfl, rfl, rfl⟩, .ok rfl⟩
    | some fault => exact ⟨⟨rfl, rfl, rfl⟩, .error _⟩

/-- INTERNAL: equal outcomes. -/
theorem alike_refl (r : Except PyError α) : Eff.Alike Eq r r := by
  cases r with
  | ok a => exact .ok rfl
  | error e => exact .error e

theorem matches_receive (read : Eff PyError σ α) :
    Eff.Matches SameButSent Eq (receive read : Eff PyError (ProxyLink σ) α) (receive read) := by
  rintro ⟨arriving, sent, faults, closes⟩ ⟨arriving', sent', faults', closes'⟩ ⟨h₁, h₂, h₃⟩
  cases h₁
  cases h₂
  cases h₃
  rw [run_receive, run_receive]
  exact ⟨⟨rfl, rfl, rfl⟩, alike_refl _⟩

theorem matches_closing {x y : Eff PyError (ProxyLink σ) α}
    (h : Eff.Matches SameButSent Eq x y) :
    Eff.Matches SameButSent Eq (closing x) (closing y) := by
  refine h.tryCatch fun e => Eff.Matches.bind (Q := Eq) ?_ fun _ _ _ => .throw e
  exact Eff.Matches.update fun s t hst => ⟨hst.arriving, hst.faults, congrArg (· + 1) hst.closes⟩

theorem matches_lift {Q : α → β → Prop} {r : Except PyError α} {r' : Except PyError β}
    (h : Eff.Alike Q r r') :
    Eff.Matches SameButSent Q (Eff.lift r : Eff PyError (ProxyLink σ) α) (Eff.lift r') :=
  fun _ _ hR => ⟨hR, h⟩

/-- INTERNAL: pure computations in step. -/
theorem alike_bind {γ δ : Type} {Q : α → β → Prop} {P : γ → δ → Prop} {r : Except PyError α}
    {r' : Except PyError β} {f : α → Except PyError γ} {g : β → Except PyError δ}
    (h : Eff.Alike Q r r') (hf : ∀ a b, Q a b → Eff.Alike P (f a) (g b)) :
    Eff.Alike P (r >>= f) (r' >>= g) := by
  cases h with
  | ok h => exact hf _ _ h
  | error e => exact .error e

end Links

/-! ## The tokens -/

/-- Any two values. -/
def Whatever {α β : Type} (_ : α) (_ : β) : Prop := True

/-- INTERNAL: the digits of base64 are ASCII. -/
theorem b64Digit_lt (n : ℕ) : (b64Digit n).toNat < 128 := by
  have halphabet : ∀ b ∈ b64Alphabet, b.toNat < 128 := by decide +kernel
  unfold b64Digit
  by_cases hn : n < b64Alphabet.length
  · rw [List.getD_eq_getElem _ _ hn]
    exact halphabet _ (List.getElem_mem hn)
  · rw [List.getD_eq_default _ _ (Nat.le_of_not_lt hn)]
    decide

/-- A token is ASCII. -/
theorem b64encode_ascii (octets : Bytes) : ∀ b ∈ b64encode octets, b.toNat < 128 := by
  have hpad : (61 : UInt8).toNat < 128 := by decide
  induction octets using b64encode.induct with
  | case1 => exact List.forall_mem_nil _
  | case2 a =>
    unfold b64encode
    simp only [List.forall_mem_cons]
    exact ⟨b64Digit_lt _, b64Digit_lt _, hpad, hpad, List.forall_mem_nil _⟩
  | case3 a b =>
    unfold b64encode
    simp only [List.forall_mem_cons]
    exact ⟨b64Digit_lt _, b64Digit_lt _, b64Digit_lt _, hpad, List.forall_mem_nil _⟩
  | case4 a b c rest ih =>
    unfold b64encode
    simp only [List.forall_mem_cons]
    exact ⟨b64Digit_lt _, b64Digit_lt _, b64Digit_lt _, b64Digit_lt _, ih⟩

/-- INTERNAL: an ASCII text behind another is not what is named. -/
theorem encodeAscii_append (front : PyStr) {back : PyStr} (hback : ∀ c ∈ back, c < 128) :
    encodeAscii (front ++ back) = (encodeAscii front).map (· ++ back.map UInt8.ofNat) := by
  have hnone : back.findIdx? (fun c => decide (128 ≤ c)) = none := by
    rw [List.findIdx?_eq_none_iff]
    intro c hc
    exact decide_eq_false (Nat.not_le_of_lt (hback c hc))
  unfold encodeAscii
  rw [List.findIdx?_append, hnone]
  cases hfind : front.findIdx? fun c => decide (128 ≤ c) with
  | none =>
    simp only [Option.map_none, Option.or_none, List.map_append]
    rfl
  | some i =>
    obtain ⟨hi, -, -⟩ := List.findIdx?_eq_some_iff_getElem.mp hfind
    have hdrop : (front ++ back).drop i = front.drop i ++ back :=
      List.drop_append_of_le_length (Nat.le_of_lt hi)
    have hrun : ((front ++ back).drop i).takeWhile (fun c => decide (128 ≤ c)) =
        (front.drop i).takeWhile fun c => decide (128 ≤ c) := by
      rw [hdrop, List.takeWhile_append]
      have hempty : back.takeWhile (fun c => decide (128 ≤ c)) = [] := by
        cases back with
        | nil => rfl
        | cons c back =>
          refine List.takeWhile_cons_of_neg ?_
          rw [decide_eq_true_eq]
          exact Nat.not_le_of_lt (hback c List.mem_cons_self)
      rw [hempty, List.append_nil]
      split
      · rename_i hlength
        exact (List.takeWhile_sublist _).eq_of_length hlength |>.symm
      · rfl
    have hchar : (front ++ back).getD i 0 = front.getD i 0 := List.getD_append _ _ _ _ hi
    simp only [Option.map_none, Option.or_none, hrun, hchar]
    rfl

/-- A password that UTF-8 encodes, or none. -/
def IsUtf8 (password : Option PyStr) : Prop :=
  (password.getD (lit "None")).any isSurrogate = false

/-- A password of Latin-1 characters, or none. -/
def IsLatin1 (passwd : Option PyStr) : Prop :=
  (passwd.getD (lit "None")).all (· < 256) = true

/-- INTERNAL: equal outcomes, whatever is returned. -/
theorem alike_whatever {α : Type} (r : Except PyError α) : Eff.Alike Whatever r r := by
  cases r with
  | ok a => exact .ok trivial
  | error e => exact .error e

/-- INTERNAL: the outcomes of a mapped computation. -/
theorem alike_map {α β γ : Type} (r : Except PyError α) (f : α → β) (g : α → γ) :
    Eff.Alike Whatever (r.map f) (r.map g) := by
  cases r with
  | ok a => exact .ok trivial
  | error e => exact .error e

/-- The lines of two tokens, or none. -/
inductive TokenLines : List PyStr → List PyStr → Prop
  | none : TokenLines [] []
  | some (name : PyStr) (hname : ∀ c ∈ name, c < 128) (octets octets' : Bytes) :
    TokenLines [name ++ decodeLatin1 (b64encode octets)] [name ++ decodeLatin1 (b64encode octets')]

theorem alike_proxy_token (user : Option PyStr) {password password' : Option PyStr}
    (h : IsUtf8 password) (h' : IsUtf8 password') :
    Eff.Alike TokenLines (proxy_token user password) (proxy_token user password') := by
  unfold IsUtf8 at h h'
  unfold proxy_token
  cases user with
  | none => exact .ok .none
  | some user =>
    unfold encode_utf8
    dsimp only
    have hsplit : ∀ p : PyStr, (user ++ lit ":" ++ p).any isSurrogate =
        ((user ++ lit ":").any isSurrogate || p.any isSurrogate) := fun p => List.any_append ..
    rw [hsplit, hsplit, h, h']
    by_cases hfirst : ((user ++ lit ":").any isSurrogate || false) = true
    · rw [if_pos hfirst, if_pos hfirst]
      exact .error _
    · rw [if_neg hfirst, if_neg hfirst]
      exact .ok (.some _ (by decide) _ _)

/-- INTERNAL: a line with a token is ASCII. -/
theorem tokenLine_ascii {name : PyStr} (hname : ∀ c ∈ name, c < 128) (octets : Bytes) :
    ∀ c ∈ name ++ decodeLatin1 (b64encode octets), c < 128 := by
  intro c hc
  rcases List.mem_append.mp hc with hc | hc
  · exact hname c hc
  · unfold decodeLatin1 at hc
    obtain ⟨b, hb, rfl⟩ := List.mem_map.mp hc
    exact b64encode_ascii octets b hb

/-- The request for the tunnel is made, or not made, whatever the password. -/
theorem alike_connect_request (host : PyStr) (port : ℕ) (user : Option PyStr)
    {password password' : Option PyStr} (h : IsUtf8 password) (h' : IsUtf8 password') :
    Eff.Alike Whatever (connect_request host port user password)
      (connect_request host port user password') := by
  unfold connect_request
  refine alike_bind (alike_proxy_token user h h') fun lines lines' hlines => ?_
  cases hlines with
  | none => exact alike_whatever _
  | some name hname octets octets' =>
    have hjoin : ∀ a b c : PyStr, joinWith (lit "\r\n") ([a, b] ++ [c]) ++ lit "\r\n\r\n" =
        (a ++ lit "\r\n" ++ (b ++ lit "\r\n")) ++ (c ++ lit "\r\n\r\n") := by
      intro a b c
      show a ++ lit "\r\n" ++ (b ++ lit "\r\n" ++ c) ++ _ = _
      simp only [List.append_assoc]
    have htail : ∀ octets : Bytes, ∀ c ∈ name ++ decodeLatin1 (b64encode octets) ++ lit "\r\n\r\n",
        c < 128 := by
      intro octets c hc
      rcases List.mem_append.mp hc with hc | hc
      · exact tokenLine_ascii hname octets c hc
      · have hend : ∀ c ∈ lit "\r\n\r\n", c < 128 := by decide
        exact hend c hc
    rw [hjoin, hjoin, encodeAscii_append _ (htail octets), encodeAscii_append _ (htail octets')]
    exact alike_map _ _ _

/-- `("authorization", "Basic " + token)` -/
def basic (octets : Bytes) : Bytes × Bytes :=
  ((lit "authorization").map UInt8.ofNat, (lit "Basic ").map UInt8.ofNat ++ b64encode octets)

/-- Headers that differ in the token at most. -/
inductive TokenHeaders : List (Bytes × Bytes) → List (Bytes × Bytes) → Prop
  | same (headers : List (Bytes × Bytes)) : TokenHeaders headers headers
  | apart (front : List (Bytes × Bytes)) (octets octets' : Bytes) :
    TokenHeaders (front ++ [basic octets]) (front ++ [basic octets'])

/-- INTERNAL: the header of the logon. -/
theorem alike_authorization (logon : WsLogon) {passwd passwd' : Option PyStr}
    (h : IsLatin1 passwd) (h' : IsLatin1 passwd') (front : List (Bytes × Bytes)) :
    Eff.Alike (fun token token' => TokenHeaders (front ++ token) (front ++ token'))
      (authorization { logon with passwd := passwd })
      (authorization { logon with passwd := passwd' }) := by
  unfold IsLatin1 at h h'
  unfold authorization
  dsimp only
  cases logon.user with
  | none => exact .ok (.same _)
  | some user =>
    unfold encodeLatin1
    dsimp only
    have hsplit : ∀ p : PyStr, (user ++ lit ":" ++ p).all (· < 256) =
        ((user ++ lit ":").all (· < 256) && p.all (· < 256)) := fun p => List.all_append ..
    rw [hsplit, hsplit, h, h']
    by_cases hfirst : ((user ++ lit ":").all (· < 256) && true) = true
    · rw [if_pos hfirst, if_pos hfirst]
      exact .ok (.apart front _ _)
    · rw [if_neg hfirst, if_neg hfirst]
      exact .error _

theorem alike_upgrade_headers (u : Unicode) (logon : WsLogon) {passwd passwd' : Option PyStr}
    (h : IsLatin1 passwd) (h' : IsLatin1 passwd') :
    Eff.Alike TokenHeaders (upgrade_headers u { logon with passwd := passwd })
      (upgrade_headers u { logon with passwd := passwd' }) := by
  unfold upgrade_headers
  refine alike_bind (alike_refl _) ?_
  rintro language _ rfl
  refine alike_bind (alike_refl _) ?_
  rintro client _ rfl
  exact alike_bind (alike_authorization logon h h' _) fun token token' htoken => .ok htoken

/-! ## Opening a WebSocket transport -/

/-- The key of a request, and whether the request is made, are settled whatever token goes with
it. -/
def KeysApart (lib : WsLibrary) : Prop :=
  ∀ number host path front octets octets',
    Eff.Alike (fun request request' => extract_sec_key request = extract_sec_key request')
      (lib.request number host path (front ++ [basic octets]))
      (lib.request number host path (front ++ [basic octets']))

section WebSocket

variable {lib : WsLibrary} (hlib : KeysApart lib) (u : Unicode) (port : ℕ)
  {headers headers' : List (Bytes × Bytes)} (hheaders : TokenHeaders headers headers')

include hlib hheaders

theorem alike_upgrade_request (number : ℕ) (host path : PyStr) :
    Eff.Alike (fun made made' => made.2 = made'.2)
      (build_upgrade_request lib number host port path headers)
      (build_upgrade_request lib number host port path headers') := by
  have hrequest : Eff.Alike
      (fun request request' => extract_sec_key request = extract_sec_key request')
      (lib.request number (host ++ lit ":" ++ dec port) path headers)
      (lib.request number (host ++ lit ":" ++ dec port) path headers') := by
    cases hheaders with
    | same =>
      cases lib.request number (host ++ lit ":" ++ dec port) path headers with
      | ok request => exact .ok rfl
      | error e => exact .error e
    | apart front octets octets' => exact hlib ..
  unfold build_upgrade_request
  refine alike_bind hrequest fun request request' hkey => ?_
  rw [hkey]
  refine alike_bind (alike_refl _) ?_
  rintro key _ rfl
  exact .ok rfl

/-- INTERNAL: one request. -/
theorem matches_turn (number : ℕ) (host path : PyStr) :
    Eff.Matches SameButSent Eq (upgrade_turn lib u port headers number host path)
      (upgrade_turn lib u port headers' number host path) := by
  unfold upgrade_turn
  refine .bind (matches_lift (alike_upgrade_request hlib port hheaders number host path)) ?_
  intro made made' hkey
  refine .bind (matches_send made.1 made'.1) fun _ _ _ => ?_
  refine .bind (matches_receive split_head_and_rest) ?_
  rintro parts _ rfl
  rw [hkey]
  refine .bind (matches_lift (alike_refl _)) ?_
  rintro answer _ rfl
  exact .pure rfl

/-- INTERNAL: the requests in turn. -/
theorem matches_turns (left : ℕ) (host path : PyStr) :
    Eff.Matches SameButSent Eq (upgrade_turns lib u port headers left host path)
      (upgrade_turns lib u port headers' left host path) := by
  induction left generalizing host path with
  | zero =>
    unfold upgrade_turns
    refine .bind (matches_turn hlib u port hheaders 0 host path) ?_
    rintro ⟨answer, leftover⟩ _ rfl
    cases answer with
    | switched => exact .pure rfl
    | moved code location => exact .throw _
  | succ left ih =>
    unfold upgrade_turns
    refine .bind (matches_turn hlib u port hheaders (left + 1) host path) ?_
    rintro ⟨answer, leftover⟩ _ rfl
    cases answer with
    | switched => exact .pure rfl
    | moved code location => exact .ite _ (.throw _) (ih _ _)

end WebSocket

/-- A target with other passwords. -/
def withPasswords (target : WsTarget) (ws_proxy_pass passwd : Option PyStr) : WsTarget :=
  { target with
    ws_proxy_pass := ws_proxy_pass
    logon := { target.logon with passwd := passwd } }

/-- Passwords that can be sent. -/
structure Sendable (ws_proxy_pass passwd : Option PyStr) : Prop where
  proxy : IsUtf8 ws_proxy_pass
  logon : IsLatin1 passwd

/-- Both connections are the same but for what was sent. -/
structure SameSockets (s s' : WsSockets) : Prop where
  raw : SameButSent s.raw s'.raw
  tls : SameButSent s.tls s'.tls

section Passwords

variable (u : Unicode) (target : WsTarget) {p p' q q' : Option PyStr}

/-- INTERNAL: the tunnel. -/
theorem matches_through_proxy (h : Sendable p q) (h' : Sendable p' q') :
    Eff.Matches SameButSent Eq (through_proxy u (withPasswords target p q))
      (through_proxy u (withPasswords target p' q')) := by
  unfold through_proxy
  refine .ite _ ?_ (.pure rfl)
  unfold open_proxy_tunnel
  refine .bind (matches_lift (alike_connect_request _ _ _ h.proxy h'.proxy)) ?_
  intro request request' _
  refine .bind (matches_send request request') fun _ _ _ => ?_
  refine .bind (matches_receive read_http_head) ?_
  rintro head _ rfl
  refine .bind (matches_lift (alike_refl _)) ?_
  rintro code _ rfl
  exact .ite _ (.pure rfl) (.throw _)

/-- INTERNAL: the upgrade. -/
theorem matches_ws_upgrade {lib : WsLibrary} (hlib : KeysApart lib) (h : Sendable p q)
    (h' : Sendable p' q') (host : PyStr) (port : ℕ) (path : PyStr) (logon : WsLogon) :
    Eff.Matches SameButSent Eq (ws_upgrade lib u host port path { logon with passwd := q })
      (ws_upgrade lib u host port path { logon with passwd := q' }) := by
  unfold ws_upgrade
  refine .bind (matches_lift (alike_upgrade_headers u logon h.logon h'.logon)) ?_
  intro headers headers' hheaders
  exact matches_turns hlib u port hheaders 1 host path

/-- INTERNAL: one connection of two. -/
theorem matches_onRaw {α : Type} {x y : Eff PyError (ProxyLink Socket) α}
    (h : Eff.Matches SameButSent Eq x y) : Eff.Matches SameSockets Eq (onRaw x) (onRaw y) := by
  intro s s' hs
  obtain ⟨hlinks, halike⟩ := h s.raw s'.raw hs.raw
  exact ⟨⟨hlinks, hs.tls⟩, halike⟩

/-- INTERNAL: the other one. -/
theorem matches_onTls {α : Type} {x y : Eff PyError (ProxyLink Socket) α}
    (h : Eff.Matches SameButSent Eq x y) : Eff.Matches SameSockets Eq (onTls x) (onTls y) := by
  intro s s' hs
  obtain ⟨hlinks, halike⟩ := h s.tls s'.tls hs.tls
  exact ⟨⟨hs.raw, hlinks⟩, halike⟩

/-- INTERNAL: the two stages. -/
theorem matches_connect_ws {lib : WsLibrary} (hlib : KeysApart lib) (h : Sendable p q)
    (h' : Sendable p' q') (wrapped : Except PyError Unit) :
    Eff.Matches SameSockets Eq (connect_ws lib u (withPasswords target p q) wrapped)
      (connect_ws lib u (withPasswords target p' q') wrapped) := by
  unfold connect_ws
  refine .bind (matches_onRaw (matches_closing ?_)) fun _ _ _ => ?_
  · exact .bind (matches_through_proxy u target h h') fun _ _ _ => matches_lift (alike_refl _)
  · exact matches_onTls (matches_closing (matches_ws_upgrade u hlib h h' _ _ _ _))

end Passwords

/-! ## Opening a tunnel with a token -/

/-- A token that fits its field. -/
structure SendableToken (jwt : PyStr) : Prop where
  utf8 : jwt.any isSurrogate = false
  fits : (jwt.flatMap utf8_char).length < 2 ^ 32

section Tokens

variable {jwt jwt' : PyStr} (h : SendableToken jwt) (h' : SendableToken jwt')

include h h'

/-- INTERNAL: the request with the token is made whatever the token. -/
theorem alike_jwt_auth (scc_location_id : PyStr) :
    Eff.Alike Whatever (build_jwt_auth jwt scc_location_id)
      (build_jwt_auth jwt' scc_location_id) := by
  have hutf8 : ∀ jwt : PyStr, SendableToken jwt →
      encode_utf8 (.leaf (.str jwt)) = .ok (jwt.flatMap utf8_char) := by
    intro jwt hjwt
    unfold encode_utf8
    dsimp only
    rw [hjwt.utf8]
    rfl
  unfold build_jwt_auth
  rw [hutf8 jwt h, hutf8 jwt' h', Eff.except_ok_bind, Eff.except_ok_bind]
  dsimp only
  by_cases hlocation : scc_location_id = []
  · have hshort : ¬255 < ([] : Bytes).length := Nat.not_lt_zero _
    rw [if_pos hlocation, if_pos hlocation, Eff.except_ok_bind, Eff.except_ok_bind, if_neg hshort,
      if_neg hshort, if_neg (Nat.not_le_of_lt h.fits), if_neg (Nat.not_le_of_lt h'.fits)]
    exact .ok trivial
  · rw [if_neg hlocation, if_neg hlocation]
    refine alike_bind (alike_refl _) ?_
    rintro location _ rfl
    by_cases hlong : 255 < location.length
    · rw [if_pos hlong, if_pos hlong]
      exact .error _
    · rw [if_neg hlong, if_neg hlong, if_neg (Nat.not_le_of_lt h.fits),
        if_neg (Nat.not_le_of_lt h'.fits)]
      exact .ok trivial

/-- INTERNAL: a handshake over such a reader. -/
theorem matches_handshake {σ : Type} (recv : ℕ → Eff PyError σ Bytes) (codec : HostCodec)
    (configured : Except PyError Unit) (host : PyStr) (port : ℤ) (scc_location_id : PyStr) :
    Eff.Matches SameButSent Eq
      (socks5_handshake recv codec configured host port ⟨some jwt, scc_location_id⟩)
      (socks5_handshake recv codec configured host port ⟨some jwt', scc_location_id⟩) := by
  unfold socks5_handshake
  refine matches_closing (.bind (matches_lift (alike_refl _)) fun _ _ _ => ?_)
  refine .bind (matches_lift (alike_refl _)) ?_
  rintro greeting _ rfl
  refine .bind (matches_send greeting greeting) fun _ _ _ => ?_
  refine .bind (matches_receive (recv 2)) ?_
  rintro answer _ rfl
  refine .bind (matches_lift (alike_refl _)) ?_
  rintro selected _ rfl
  refine .ite _ (.throw _) (.bind (Q := Eq) ?_ fun _ _ _ => ?_)
  · unfold jwt_subnegotiation
    refine .bind (matches_lift (alike_jwt_auth h h' scc_location_id)) fun auth auth' _ => ?_
    refine .bind (matches_send auth auth') fun _ _ _ => ?_
    refine .bind (matches_receive (recv 2)) ?_
    rintro answer _ rfl
    exact matches_lift (alike_refl _)
  · refine .bind (matches_lift (alike_refl _)) ?_
    rintro request _ rfl
    refine .bind (matches_send request request) fun _ _ _ => ?_
    refine .bind (matches_receive (recv_connect_reply recv)) fun _ _ _ => ?_
    exact .pure rfl

end Tokens

/-- What opening a transport ends with, through either kind of proxy and over either kind of stream,
is settled whatever the passwords and the token. -/
theorem secrets_unseen {lib : WsLibrary} (hlib : KeysApart lib) (u : Unicode) (codec : HostCodec) :
    (∀ (target : WsTarget) (wrapped : Except PyError Unit) {p p' q q' : Option PyStr},
      Sendable p q → Sendable p' q' →
        Eff.Matches SameSockets Eq (connect_ws lib u (withPasswords target p q) wrapped)
          (connect_ws lib u (withPasswords target p' q') wrapped)) ∧
      ∀ (configured : Except PyError Unit) (host : PyStr) (port : ℤ) (scc_location_id : PyStr)
        {jwt jwt' : PyStr}, SendableToken jwt → SendableToken jwt' →
          Eff.Matches SameButSent Eq
            (socks5_connect codec configured host port ⟨some jwt, scc_location_id⟩)
            (socks5_connect codec configured host port ⟨some jwt', scc_location_id⟩) ∧
          Eff.Matches SameButSent Eq
            (socks5_connect_async codec configured host port ⟨some jwt, scc_location_id⟩)
            (socks5_connect_async codec configured host port ⟨some jwt', scc_location_id⟩) :=
  ⟨fun target wrapped _ _ _ _ h h' => matches_connect_ws u target hlib h h' wrapped,
    fun configured host port scc_location_id _ _ h h' =>
      ⟨matches_handshake h h' socks_recv_exactly codec configured host port scc_location_id,
        matches_handshake h h' readexactly codec configured host port scc_location_id⟩⟩

/-! ## Two passwords -/

/-- INTERNAL: a split of texts with a line end between them. -/
theorem split_crlf_append (front back : Bytes) :
    split_crlf (front ++ 13 :: 10 :: back) = split_crlf front ++ split_crlf back := by
  have hfirst : split_crlf (13 :: 10 :: back) = [] :: split_crlf back := by
    rw [split_crlf, if_pos ⟨rfl, rfl⟩]
  induction front using split_crlf.induct with
  | case1 => exact hfirst
  | case2 x =>
    have hnot : ¬(x = 13 ∧ (13 : UInt8) = 10) := fun hx => absurd hx.2 (by decide)
    have hsecond : split_crlf (x :: 13 :: 10 :: back) = [x] :: split_crlf back := by
      rw [split_crlf, if_neg hnot, hfirst]
    exact hsecond
  | case3 x y rest hend ih =>
    show split_crlf (x :: y :: (rest ++ 13 :: 10 :: back)) = _
    rw [split_crlf, if_pos hend, split_crlf, if_pos hend, ih]
    rfl
  | case4 x y rest hend hnil ih => exact absurd hnil (split_crlf_ne_nil _)
  | case5 x y rest hend part parts hparts ih =>
    have hstep : split_crlf (y :: (rest ++ 13 :: 10 :: back)) =
        part :: (parts ++ split_crlf back) := by
      rw [hparts] at ih
      exact ih
    show split_crlf (x :: y :: (rest ++ 13 :: 10 :: back)) = _
    rw [split_crlf, if_neg hend, hstep, split_crlf, if_neg hend, hparts]
    rfl

/-- INTERNAL: the key is found in front of what the caller adds. -/
theorem extract_sec_key_sample (front back back' : Bytes) :
    extract_sec_key (front ++ 13 :: 10 :: (sampleLines ++ 13 :: 10 :: back)) =
      extract_sec_key (front ++ 13 :: 10 :: (sampleLines ++ 13 :: 10 :: back')) := by
  have hfound : ((split_crlf sampleLines).find? fun line =>
      ((lit "sec-websocket-key:").map UInt8.ofNat).isPrefixOf (lower_ascii line)).isSome =
        true := by
    decide +kernel
  obtain ⟨line, hline⟩ := Option.isSome_iff_exists.mp hfound
  unfold extract_sec_key
  rw [split_crlf_append, split_crlf_append, split_crlf_append, split_crlf_append, List.find?_append,
    List.find?_append, List.find?_append, List.find?_append, hline]
  rfl

/-- The sample requests have their key whatever the token. -/
theorem keysApart_sample : KeysApart sampleLibrary := by
  intro number host path front octets octets'
  exact .ok (extract_sec_key_sample _ _ _)

/-- A platform that knows no address. -/
def noAddresses : HostCodec where
  inet_pton4 _ := .error (err .os (lit "illegal IP address string passed to inet_pton"))
  inet_pton6 _ := .error (err .os (lit "illegal IP address string passed to inet_pton"))
  idna _ := .error (err .unicodeEncode (lit "label empty or too long"))

/-- A proxy that chooses the token and then refuses it, in three pieces. -/
def refusingProxy {σ : Type} (arrive : List Bytes → σ) : ProxyLink σ :=
  ⟨arrive [[0x05], [0x80, 0x01], [0x01]], [], [], 0⟩

/-- Another password or another token, and what is answered is taken, or refused, all the same. -/
theorem secrets_unseen_sample :
    (Eff.run (connect_ws sampleLibrary asciiTables
        (withPasswords sampleTarget none (some (lit "secret"))) (.ok ())) sampleSockets).1 =
      (Eff.run (connect_ws sampleLibrary asciiTables
        (withPasswords sampleTarget none (some (lit "hunter2"))) (.ok ())) sampleSockets).1 ∧
    (Eff.run (socks5_connect noAddresses (.ok ()) (lit "sap") 3300 ⟨some (lit "eyJh.bGci"), []⟩)
        (refusingProxy id)).1 =
      (Eff.run (socks5_connect noAddresses (.ok ()) (lit "sap") 3300 ⟨some (lit "eyJ0.eXAi"), []⟩)
        (refusingProxy id)).1 ∧
    (Eff.run (socks5_connect_async noAddresses (.ok ()) (lit "sap") 3300
        ⟨some (lit "eyJh.bGci"), []⟩) (refusingProxy (ChunkedReads.Feed.mk []))).1 =
      (Eff.run (socks5_connect_async noAddresses (.ok ()) (lit "sap") 3300
        ⟨some (lit "eyJ0.eXAi"), []⟩) (refusingProxy (ChunkedReads.Feed.mk []))).1 := by
  have hsame : SameSockets sampleSockets sampleSockets := ⟨⟨rfl, rfl, rfl⟩, ⟨rfl, rfl, rfl⟩⟩
  have hproxy : ∀ {σ : Type} (arrive : List Bytes → σ),
      SameButSent (refusingProxy arrive) (refusingProxy arrive) := fun _ => ⟨rfl, rfl, rfl⟩
  have hsent : Sendable none (some (lit "secret")) := ⟨rfl, rfl⟩
  have hsent' : Sendable none (some (lit "hunter2")) := ⟨rfl, rfl⟩
  have htoken : SendableToken (lit "eyJh.bGci") := ⟨by decide, by decide⟩
  have htoken' : SendableToken (lit "eyJ0.eXAi") := ⟨by decide, by decide⟩
  obtain ⟨hws, hsocks⟩ := secrets_unseen keysApart_sample asciiTables noAddresses
  obtain ⟨hblocking, hasync⟩ := hsocks (.ok ()) (lit "sap") 3300 [] htoken htoken'
  exact ⟨(hws sampleTarget (.ok ()) hsent hsent' sampleSockets sampleSockets hsame).2.eq,
    (hblocking _ _ (hproxy id)).2.eq, (hasync _ _ (hproxy (ChunkedReads.Feed.mk []))).2.eq⟩

end SapRfc.Analysis.UnseenSecrets
