import SapRfc.Analysis.UnitDelivery
import SapRfc.Analysis.WsHeads

/-!
# The frames begin behind the answer that proves the key

A WebSocket transport is opened by the answers of the server, and by nothing else.  The logon is
sent over the TLS session only, once where the server switches, and twice where it sends the client
on.  However the answers are cut into pieces, the frame layer begins with the first byte behind the
head by which the server has switched.
-/

set_option autoImplicit false

namespace SapRfc.Analysis.WsUpgrades

open SapRfc.Library SapRfc.Program
open Delimiters Dialogues WsHeads

/-! ## Answers -/

/-- A head by which the server switches: its accept value is made of the key. -/
structure Switches (lib : WsLibrary) (u : Unicode) (key head : Bytes) : Prop where
  ended : EndedBy HEAD_END head
  status : status_code u head = .ok 101
  accepted : assocGet (parse_headers head) (lit "sec-websocket-accept") =
    some (expected_accept lib key)

/-- A head that sends the client on. -/
structure Redirects (u : Unicode) (head : Bytes) (location : PyStr) : Prop where
  ended : EndedBy HEAD_END head
  status : ∃ code : ℤ, code ∈ [(301 : ℤ), 302, 307, 308] ∧ status_code u head = .ok code
  located : assocGet (parse_headers head) (lit "location") = some location
  named : location ≠ []

section Turns

variable (lib : WsLibrary) (u : Unicode) (port : ℕ) (extra_headers : List (Bytes × Bytes))

/-- The requests that went out and the bytes that came: those of the server's answers, and behind
the last of them those that are for the frame layer.  What came behind the head that sends the
client on, and was there with it, is passed over. -/
inductive Upgraded : ℕ → PyStr → PyStr → Bytes → Bytes → Bytes → Prop
  | switched {left : ℕ} {host path : PyStr} {request key head frames : Bytes}
      (hrequest : build_upgrade_request lib left host port path extra_headers = .ok (request, key))
      (hhead : Switches lib u key head) : Upgraded left host path (head ++ frames) request frames
  | redirected {left : ℕ} {host path location : PyStr}
      {request key head body answers out frames : Bytes}
      (hrequest : build_upgrade_request lib (left + 1) host port path extra_headers =
        .ok (request, key))
      (hhead : Redirects u head location)
      (hlater : Upgraded left (parse_location u location host path).1
        (parse_location u location host path).2 answers out frames) :
      Upgraded (left + 1) host path (head ++ (body ++ answers)) (request ++ out) frames

/-- So much went out, against what the server answers. -/
inductive Asked : ℕ → PyStr → PyStr → Bytes → Bytes → Prop
  | unsent (left : ℕ) (host path : PyStr) (answers : Bytes) : Asked left host path answers []
  | asked {left : ℕ} {host path : PyStr} {request key part answers : Bytes}
      (hrequest : build_upgrade_request lib left host port path extra_headers = .ok (request, key))
      (hpart : part <+: request) : Asked left host path answers part
  | redirected {left : ℕ} {host path location : PyStr} {request key head body answers out : Bytes}
      (hrequest : build_upgrade_request lib (left + 1) host port path extra_headers =
        .ok (request, key))
      (hhead : Redirects u head location)
      (hlater : Asked left (parse_location u location host path).1
        (parse_location u location host path).2 answers out) :
      Asked (left + 1) host path (head ++ (body ++ answers)) (request ++ out)

/-- A head that the reader takes however it is cut. -/
def Fits (r : Response) : Prop := r.bytes.length + 4096 ≤ MAX_FRAME_BYTES + 1

/-- The pieces in which a server answers that switches, at once or where it has sent the client
to; the answer to the second request is in pieces of its own. -/
inductive Answered : ℕ → PyStr → PyStr → Socket → Bytes → Prop
  | switched {left : ℕ} {host path : PyStr} {request key frames : Bytes} {pieces : Socket}
      {r : Response}
      (hrequest : build_upgrade_request lib left host port path extra_headers = .ok (request, key))
      (hfits : Fits r) (hcode : r.code = 101)
      (haccept : r.field (lit "sec-websocket-accept") = some (expected_accept lib key))
      (hpieces : pieces.flatten = r.bytes ++ frames) : Answered left host path pieces frames
  | redirected {left : ℕ} {host path location : PyStr} {request key frames : Bytes}
      {pieces later : Socket} {r : Response}
      (hrequest : build_upgrade_request lib (left + 1) host port path extra_headers =
        .ok (request, key))
      (hfits : Fits r) (hcode : r.code ∈ [301, 302, 307, 308])
      (hlocation : r.field (lit "location") = some location) (hnamed : location ≠ [])
      (hpieces : pieces.flatten = r.bytes)
      (hlater : Answered left (parse_location u location host path).1
        (parse_location u location host path).2 later frames) :
      Answered (left + 1) host path (pieces ++ later) frames

variable {lib u port extra_headers} {host path : PyStr} {key head : Bytes}

/-- INTERNAL: the server has switched where its head says so. -/
theorem read_answer_switched (hended : EndedBy HEAD_END head) :
    read_answer lib u key head = .ok .switched ↔ Switches lib u key head := by
  unfold read_answer
  constructor
  · intro h
    obtain ⟨code, hstatus, h⟩ := Eff.except_bind_eq_ok.mp h
    by_cases h101 : code = 101
    · rw [if_pos h101] at h
      split at h
      · cases h
      · rename_i haccept
        exact ⟨hended, h101 ▸ hstatus, not_not.mp haccept⟩
    · rw [if_neg h101] at h
      split at h
      · cases h
      · cases h
  · rintro ⟨-, hstatus, haccepted⟩
    rw [hstatus, Eff.except_ok_bind, if_pos rfl, if_neg (not_not.mpr haccepted)]

/-- INTERNAL: the answer sends the client on where its status does. -/
theorem read_answer_moved {code : ℤ} {location : Option PyStr} :
    read_answer lib u key head = .ok (.moved code location) ↔
      code ∈ [(301 : ℤ), 302, 307, 308] ∧ status_code u head = .ok code ∧
        assocGet (parse_headers head) (lit "location") = location := by
  unfold read_answer
  constructor
  · intro h
    obtain ⟨found, hstatus, h⟩ := Eff.except_bind_eq_ok.mp h
    split at h
    · split at h
      · cases h
      · cases h
    · split at h
      · rename_i hmoved
        cases h
        exact ⟨hmoved, hstatus, rfl⟩
      · cases h
  · rintro ⟨hmoved, hstatus, rfl⟩
    have h101 : code ≠ 101 := by
      rintro rfl
      exact absurd hmoved (by decide)
    rw [hstatus, Eff.except_ok_bind, if_neg h101, if_pos hmoved]

/-- INTERNAL: an answer with a location sends the client there. -/
theorem redirects_of_moved (hended : EndedBy HEAD_END head) {code : ℤ} {location : Option PyStr}
    (hanswer : read_answer lib u key head = .ok (.moved code location))
    (hnamed : location.getD [] ≠ []) : Redirects u head (location.getD []) := by
  obtain ⟨hcode, hstatus, hlocation⟩ := read_answer_moved.mp hanswer
  refine ⟨hended, ⟨code, hcode, hstatus⟩, ?_, hnamed⟩
  rw [hlocation]
  cases location with
  | none => exact absurd rfl hnamed
  | some location => rfl

/-! ## One request -/

variable (lib u port extra_headers) in
/-- INTERNAL: a request that was answered. -/
theorem run_upgrade_turn_ok {number : ℕ} {link link' : ProxyLink Socket} {answer : WsAnswer}
    {leftover : Bytes}
    (h : Eff.run (upgrade_turn lib u port extra_headers number host path) link =
      (.ok (answer, leftover), link')) :
    ∃ request key head,
      build_upgrade_request lib number host port path extra_headers = .ok (request, key) ∧
      EndedBy HEAD_END head ∧ read_answer lib u key head = .ok answer ∧
      link.arriving.flatten = head ++ (leftover ++ link'.arriving.flatten) ∧
      link'.sent = link.sent ++ request ∧ link'.closes = link.closes := by
  unfold upgrade_turn at h
  obtain ⟨⟨request, key⟩, l₁, hmade, h⟩ := Eff.run_bind_eq_ok h
  obtain ⟨hrequest, rfl⟩ := Prod.mk.inj hmade
  obtain ⟨_, l₂, hsend, h⟩ := Eff.run_bind_eq_ok h
  obtain ⟨⟨head, left⟩, l₃, hread, h⟩ := Eff.run_bind_eq_ok h
  obtain ⟨found, l₄, hanswer, h⟩ := Eff.run_bind_eq_ok h
  obtain ⟨harriving, hsent, hclosed⟩ := run_send_ok hsend
  rw [run_receive] at hread
  obtain ⟨hparts, rfl⟩ := Prod.mk.inj hread
  obtain ⟨hended, hstream⟩ := run_readUntil_ok head_end_ne_nil
    (show Eff.run split_head_and_rest l₂.arriving = (.ok (head, left), _) from Prod.ext hparts rfl)
  obtain ⟨hread_answer, rfl⟩ := Prod.mk.inj hanswer
  cases h
  refine ⟨request, key, head, hrequest, hended, hread_answer, ?_, hsent, hclosed⟩
  rw [← harriving]
  exact hstream

variable (lib u port extra_headers) in
/-- INTERNAL: what a request sends, however it ends. -/
theorem upgrade_turn_sent (number : ℕ) (host path : PyStr) (link : ProxyLink Socket) :
    ∃ part, (Eff.run (upgrade_turn lib u port extra_headers number host path) link).2.sent =
      link.sent ++ part ∧ (part = [] ∨ ∃ request key,
        build_upgrade_request lib number host port path extra_headers = .ok (request, key) ∧
          part <+: request) := by
  unfold upgrade_turn
  cases hmade : build_upgrade_request lib number host port path extra_headers with
  | error e => exact ⟨[], (List.append_nil _).symm, .inl rfl⟩
  | ok made =>
    rw [Eff.run_bind_ok (Eff.run_lift ..)]
    rcases hsend : Eff.run (send made.1) link with ⟨e | _, mid⟩
    · obtain ⟨part, hpart, hsent⟩ := run_send_error hsend
      rw [Eff.run_bind_error hsend]
      exact ⟨part, hsent, .inr ⟨made.1, made.2, rfl, hpart⟩⟩
    · obtain ⟨-, hsent, -⟩ := run_send_ok hsend
      refine ⟨made.1, ?_, .inr ⟨made.1, made.2, rfl, List.prefix_refl _⟩⟩
      rw [Eff.run_bind_ok hsend, Eff.run_bind, run_receive]
      rcases Eff.run split_head_and_rest mid.arriving with ⟨e | parts, arriving⟩
      · exact hsent
      · dsimp only
        rw [Eff.run_bind, Eff.run_lift]
        rcases read_answer lib u made.2 parts.1 with e | answer
        · exact hsent
        · exact hsent

variable (lib u port extra_headers) in
/-- INTERNAL: a request whose answer is there. -/
theorem run_upgrade_turn_answered {number : ℕ} {link : ProxyLink Socket} {request key head : Bytes}
    {leftover : Bytes} {arriving : Socket} {answer : WsAnswer} (hfaults : link.faults = [])
    (hrequest : build_upgrade_request lib number host port path extra_headers = .ok (request, key))
    (hread : Eff.run split_head_and_rest link.arriving = (.ok (head, leftover), arriving))
    (hanswer : read_answer lib u key head = .ok answer) :
    Eff.run (upgrade_turn lib u port extra_headers number host path) link =
      (.ok (answer, leftover),
        { link with arriving := arriving, sent := link.sent ++ request }) := by
  unfold upgrade_turn
  rw [hrequest, Eff.run_bind_ok (Eff.run_lift ..),
    Eff.run_bind_ok (run_send_of_no_faults request hfaults), Eff.run_bind, run_receive]
  dsimp only
  rw [hread]
  dsimp only
  rw [hanswer]
  rfl

/-! ## The requests -/

variable (lib u port extra_headers) in
/-- INTERNAL: the requests close nothing. -/
theorem keeps_upgrade_turns (left : ℕ) (host path : PyStr) :
    Eff.Keeps OpenStill (upgrade_turns lib u port extra_headers left host path) := by
  have hturn : ∀ number host path,
      Eff.Keeps OpenStill (upgrade_turn lib u port extra_headers number host path) := by
    intro number host path
    refine Eff.Keeps.bind OpenStill.trans (Eff.Keeps.lift OpenStill.refl _) fun made => ?_
    refine Eff.Keeps.bind OpenStill.trans (keeps_send made.1) fun _ => ?_
    refine Eff.Keeps.bind OpenStill.trans (keeps_receive _) fun parts => ?_
    exact Eff.Keeps.bind OpenStill.trans (Eff.Keeps.lift OpenStill.refl _) fun answer =>
      Eff.Keeps.pure OpenStill.refl _
  induction left generalizing host path with
  | zero =>
    unfold upgrade_turns
    refine Eff.Keeps.bind OpenStill.trans (hturn 0 host path) fun turn => ?_
    cases turn.1 with
    | switched => exact Eff.Keeps.pure OpenStill.refl turn.2
    | moved code location => exact Eff.Keeps.throw OpenStill.refl _
  | succ left ih =>
    unfold upgrade_turns
    refine Eff.Keeps.bind OpenStill.trans (hturn (left + 1) host path) fun turn => ?_
    cases turn.1 with
    | switched => exact Eff.Keeps.pure OpenStill.refl turn.2
    | moved code location =>
      exact Eff.Keeps.ite _ (Eff.Keeps.throw OpenStill.refl _) (ih _ _)

variable (lib u port extra_headers) in
/-- An upgrade that returns was granted. -/
theorem upgraded_of_run {left : ℕ} {link link' : ProxyLink Socket} {frames : Bytes}
    (h : Eff.run (upgrade_turns lib u port extra_headers left host path) link =
      (.ok frames, link')) :
    ∃ out, Upgraded lib u port extra_headers left host path link.arriving.flatten out
        (frames ++ link'.arriving.flatten) ∧
      link'.sent = link.sent ++ out ∧ link'.closes = link.closes := by
  induction left generalizing host path link with
  | zero =>
    unfold upgrade_turns at h
    obtain ⟨⟨answer, leftover⟩, mid, hturn, h⟩ := Eff.run_bind_eq_ok h
    obtain ⟨request, key, head, hrequest, hended, hanswer, hstream, hsent, hclosed⟩ :=
      run_upgrade_turn_ok lib u port extra_headers hturn
    cases answer with
    | switched =>
      cases h
      rw [hstream]
      exact ⟨request, .switched hrequest ((read_answer_switched hended).mp hanswer), hsent, hclosed⟩
    | moved code location => cases h
  | succ left ih =>
    unfold upgrade_turns at h
    obtain ⟨⟨answer, leftover⟩, mid, hturn, h⟩ := Eff.run_bind_eq_ok h
    obtain ⟨request, key, head, hrequest, hended, hanswer, hstream, hsent, hclosed⟩ :=
      run_upgrade_turn_ok lib u port extra_headers hturn
    cases answer with
    | switched =>
      cases h
      rw [hstream]
      exact ⟨request, .switched hrequest ((read_answer_switched hended).mp hanswer), hsent, hclosed⟩
    | moved code location =>
      dsimp only at h
      by_cases hnone : location.getD [] = []
      · rw [if_pos hnone] at h
        cases h
      · rw [if_neg hnone] at h
        have hredirects := redirects_of_moved hended hanswer hnone
        obtain ⟨out, hupgraded, hsent', hclosed'⟩ := ih h
        refine ⟨request ++ out, ?_, ?_, hclosed'.trans hclosed⟩
        · rw [hstream]
          exact .redirected hrequest hredirects hupgraded
        · rw [hsent', hsent, List.append_assoc]

variable (lib u port extra_headers) in
/-- However an upgrade ends, a second request went out only behind a head that sends on. -/
theorem asked_of_run (left : ℕ) (host path : PyStr) (link : ProxyLink Socket) :
    ∃ out, Asked lib u port extra_headers left host path link.arriving.flatten out ∧
      (Eff.run (upgrade_turns lib u port extra_headers left host path) link).2.sent =
        link.sent ++ out := by
  induction left generalizing host path link with
  | zero =>
    obtain ⟨part, hsent, hpart⟩ := upgrade_turn_sent lib u port extra_headers 0 host path link
    refine ⟨part, ?_, ?_⟩
    · rcases hpart with rfl | ⟨request, key, hrequest, hpart⟩
      · exact .unsent ..
      · exact .asked hrequest hpart
    · rw [← hsent]
      unfold upgrade_turns
      rcases hturn : Eff.run (upgrade_turn lib u port extra_headers 0 host path) link with
        ⟨e | ⟨answer, leftover⟩, mid⟩
      · rw [Eff.run_bind_error hturn]
      · rw [Eff.run_bind_ok hturn]
        cases answer <;> rfl
  | succ left ih =>
    obtain ⟨part, hsent, hpart⟩ :=
      upgrade_turn_sent lib u port extra_headers (left + 1) host path link
    have hasked :
        Asked lib u port extra_headers (left + 1) host path link.arriving.flatten part := by
      rcases hpart with rfl | ⟨request, key, hrequest, hpart⟩
      · exact .unsent ..
      · exact .asked hrequest hpart
    unfold upgrade_turns
    rcases hturn : Eff.run (upgrade_turn lib u port extra_headers (left + 1) host path) link with
      ⟨e | ⟨answer, leftover⟩, mid⟩
    · rw [hturn] at hsent
      rw [Eff.run_bind_error hturn]
      exact ⟨part, hasked, hsent⟩
    · rw [hturn] at hsent
      rw [Eff.run_bind_ok hturn]
      cases answer with
      | switched => exact ⟨part, hasked, hsent⟩
      | moved code location =>
        dsimp only
        by_cases hnone : location.getD [] = []
        · rw [if_pos hnone]
          exact ⟨part, hasked, hsent⟩
        · rw [if_neg hnone]
          obtain ⟨request, key, head, hrequest, hended, hanswer, hstream, hsent', -⟩ :=
            run_upgrade_turn_ok lib u port extra_headers hturn
          have hredirects := redirects_of_moved hended hanswer hnone
          obtain ⟨out, hlater, hout⟩ := ih (parse_location u (location.getD []) host path).1
            (parse_location u (location.getD []) host path).2 mid
          refine ⟨request ++ out, ?_, ?_⟩
          · rw [hstream]
            exact .redirected hrequest hredirects hlater
          · rw [hout, hsent', List.append_assoc]

/-- INTERNAL: pieces with nothing in them do not matter. -/
theorem answered_pad {left : ℕ} {pre pieces : Socket} {frames : Bytes} (hpre : pre.flatten = [])
    (h : Answered lib u port extra_headers left host path pieces frames) :
    Answered lib u port extra_headers left host path (pre ++ pieces) frames := by
  cases h with
  | switched hrequest hfits hcode haccept hpieces =>
    refine .switched hrequest hfits hcode haccept ?_
    rw [List.flatten_append, hpre, List.nil_append, hpieces]
  | redirected hrequest hfits hcode hlocation hnamed hpieces hlater =>
    rw [← List.append_assoc]
    refine .redirected hrequest hfits hcode hlocation hnamed ?_ hlater
    rw [List.flatten_append, hpre, List.nil_append, hpieces]

/-- INTERNAL: a response that switches. -/
theorem read_answer_bytes_switched (hint : ∀ n : ℕ, u.int (dec n) = some (n : ℤ)) {r : Response}
    (hcode : r.code = 101)
    (haccept : r.field (lit "sec-websocket-accept") = some (expected_accept lib key)) :
    read_answer lib u key r.bytes = .ok .switched := by
  have hstatus := status_code_bytes r (hint r.code)
  rw [hcode] at hstatus
  refine (read_answer_switched (endedBy_bytes r)).mpr ⟨endedBy_bytes r, hstatus, ?_⟩
  rw [assocGet_parse_headers, haccept]

/-- INTERNAL: a response that sends on. -/
theorem read_answer_bytes_moved (hint : ∀ n : ℕ, u.int (dec n) = some (n : ℤ)) {r : Response}
    (hcode : r.code ∈ [301, 302, 307, 308]) :
    read_answer lib u key r.bytes = .ok (.moved r.code (r.field (lit "location"))) := by
  refine read_answer_moved.mpr ⟨?_, status_code_bytes r (hint r.code), ?_⟩
  · have hmoved : (r.code : ℤ) ∈ [301, 302, 307, 308].map (Nat.cast : ℕ → ℤ) :=
      List.mem_map_of_mem hcode
    exact hmoved
  · exact assocGet_parse_headers ..

/-- An upgrade whose answers are there returns, however they are cut. -/
theorem run_upgrade_turns_answered (hint : ∀ n : ℕ, u.int (dec n) = some (n : ℤ)) {left : ℕ}
    {pieces : Socket} {frames : Bytes}
    (h : Answered lib u port extra_headers left host path pieces frames) (link : ProxyLink Socket)
    (harriving : link.arriving = pieces) (hfaults : link.faults = []) :
    ∃ leftover link', Eff.run (upgrade_turns lib u port extra_headers left host path) link =
      (.ok leftover, link') ∧ leftover ++ link'.arriving.flatten = frames := by
  have hsize : 0 < 4096 := by omega
  induction left generalizing host path pieces link with
  | zero =>
    cases h with
    | @switched _ _ _ request key _ _ r hrequest hfits hcode haccept hpieces =>
      obtain ⟨leftover, rest, hread, hframes⟩ := run_readUntil_ended head_end_ne_nil hsize
        (endedBy_bytes r) hfits hpieces
      rw [← harriving] at hread
      have hturn := run_upgrade_turn_answered lib u port extra_headers hfaults hrequest hread
        (read_answer_bytes_switched hint hcode haccept)
      unfold upgrade_turns
      rw [Eff.run_bind_ok hturn]
      exact ⟨leftover, _, rfl, hframes⟩
  | succ left ih =>
    cases h with
    | @switched _ _ _ request key _ _ r hrequest hfits hcode haccept hpieces =>
      obtain ⟨leftover, rest, hread, hframes⟩ := run_readUntil_ended head_end_ne_nil hsize
        (endedBy_bytes r) hfits hpieces
      rw [← harriving] at hread
      have hturn := run_upgrade_turn_answered lib u port extra_headers hfaults hrequest hread
        (read_answer_bytes_switched hint hcode haccept)
      unfold upgrade_turns
      rw [Eff.run_bind_ok hturn]
      exact ⟨leftover, _, rfl, hframes⟩
    | @redirected _ _ _ location request key _ pieces later r hrequest hfits hcode hlocation hnamed
        hpieces hlater =>
      obtain ⟨rest, hread, hrest⟩ := run_readUntil_apart head_end_ne_nil hsize (endedBy_bytes r)
        hfits hpieces later
      rw [← harriving] at hread
      have hturn := run_upgrade_turn_answered lib u port extra_headers hfaults hrequest hread
        (read_answer_bytes_moved hint hcode)
      unfold upgrade_turns
      rw [Eff.run_bind_ok hturn, hlocation]
      dsimp only [Option.getD_some]
      rw [if_neg hnamed]
      exact ih (answered_pad hrest hlater) _ rfl hfaults

end Turns

/-! ## The tunnel -/

section Tunnel

variable (u : Unicode) (target : WsTarget)

/-- The request for the tunnel. -/
def tunnel_request : Except PyError Bytes :=
  connect_request target.wshost target.wsport target.ws_proxy_user target.ws_proxy_pass

/-- What the connection was used for in front of the TLS session: where there is a proxy, one
request went out and a head that grants it came; without one nothing did. -/
structure Granted (link link' : ProxyLink Socket) : Prop where
  tunnelled : target.ws_proxy = true → ∃ (request head behind : Bytes) (code : ℤ),
    tunnel_request target = .ok request ∧ EndedBy HEAD_END head ∧
    status_code u head = .ok code ∧ 200 ≤ code ∧ code < 300 ∧
    link.arriving.flatten = head ++ (behind ++ link'.arriving.flatten) ∧
    link'.sent = link.sent ++ request
  direct : target.ws_proxy = false →
    link'.arriving = link.arriving ∧ link'.sent = link.sent
  open_still : link'.closes = link.closes

/-- The proxy grants the tunnel, where there is one. -/
def Grants (link : ProxyLink Socket) : Prop :=
  target.ws_proxy = true → link.faults = [] ∧ ∃ (request behind : Bytes) (r : Response),
    tunnel_request target = .ok request ∧ Fits r ∧ 200 ≤ r.code ∧ r.code < 300 ∧
    link.arriving.flatten = r.bytes ++ behind

/-- The program in front of the TLS session. -/
def before_tls (wrapped : Except PyError Unit) : Eff PyError (ProxyLink Socket) Unit := do
  through_proxy u target
  Eff.lift wrapped

variable {u target} {link link' : ProxyLink Socket} {wrapped : Except PyError Unit}

/-- INTERNAL: a tunnel that is open was granted. -/
theorem run_open_proxy_tunnel_ok
    (h : Eff.run (open_proxy_tunnel u target.wshost target.wsport target.ws_proxy_user
      target.ws_proxy_pass) link = (.ok (), link')) :
    ∃ (request head behind : Bytes) (code : ℤ),
      tunnel_request target = .ok request ∧ EndedBy HEAD_END head ∧
      status_code u head = .ok code ∧ 200 ≤ code ∧ code < 300 ∧
      link.arriving.flatten = head ++ (behind ++ link'.arriving.flatten) ∧
      link'.sent = link.sent ++ request ∧ link'.closes = link.closes := by
  unfold open_proxy_tunnel at h
  obtain ⟨request, l₁, hmade, h⟩ := Eff.run_bind_eq_ok h
  obtain ⟨hrequest, rfl⟩ := Prod.mk.inj hmade
  obtain ⟨_, l₂, hsend, h⟩ := Eff.run_bind_eq_ok h
  obtain ⟨whole, l₃, hread, h⟩ := Eff.run_bind_eq_ok h
  obtain ⟨code, l₄, hstatus, h⟩ := Eff.run_bind_eq_ok h
  obtain ⟨harriving, hsent, hclosed⟩ := run_send_ok hsend
  rw [run_receive] at hread
  obtain ⟨hwhole, rfl⟩ := Prod.mk.inj hread
  obtain ⟨hcode, rfl⟩ := Prod.mk.inj hstatus
  by_cases hrange : 200 ≤ code ∧ code < 300
  · rw [if_pos hrange] at h
    cases h
    have hhead : Eff.run read_http_head l₂.arriving = (.ok whole, _) := Prod.ext hwhole rfl
    unfold read_http_head at hhead
    obtain ⟨parts, arriving, hparts, hpure⟩ := Eff.run_bind_eq_ok hhead
    obtain ⟨hwhole', harriving'⟩ := Prod.mk.inj hpure
    obtain ⟨hended, hstream⟩ := run_readUntil_ok head_end_ne_nil hparts
    refine ⟨request, parts.1, parts.2, code, hrequest, hended, ?_, hrange.1, hrange.2, ?_, hsent,
      hclosed⟩
    · rw [← status_code_append u hended parts.2, Except.ok.inj hwhole', hcode]
    · rw [← harriving, hstream]
      exact congrArg (fun s : Socket => parts.1 ++ (parts.2 ++ s.flatten)) harriving'
  · rw [if_neg hrange] at h
    cases h

/-- INTERNAL: the connection is used as it should be where a TLS session is opened. -/
theorem granted_of_run (h : Eff.run (before_tls u target wrapped) link = (.ok (), link')) :
    wrapped = .ok () ∧ Granted u target link link' := by
  unfold before_tls at h
  obtain ⟨_, mid, htunnel, hwrap⟩ := Eff.run_bind_eq_ok h
  obtain ⟨hwrapped, rfl⟩ := Prod.mk.inj hwrap
  refine ⟨hwrapped, ?_⟩
  unfold through_proxy at htunnel
  cases hproxy : target.ws_proxy with
  | true =>
    rw [if_pos hproxy] at htunnel
    obtain ⟨request, head, behind, code, hrequest, hended, hstatus, hlow, hhigh, hstream, hsent,
      hclosed⟩ := run_open_proxy_tunnel_ok htunnel
    refine ⟨fun _ => ⟨request, head, behind, code, hrequest, hended, hstatus, hlow, hhigh, hstream,
      hsent⟩, fun hdirect => ?_, hclosed⟩
    rw [hproxy] at hdirect
    cases hdirect
  | false =>
    rw [if_neg (by rw [hproxy]; exact Bool.false_ne_true)] at htunnel
    cases htunnel
    refine ⟨fun htunnelled => ?_, fun _ => ⟨rfl, rfl⟩, rfl⟩
    rw [hproxy] at htunnelled
    cases htunnelled

/-- INTERNAL: where the proxy grants the tunnel it is opened. -/
theorem run_before_tls_granted (hint : ∀ n : ℕ, u.int (dec n) = some (n : ℤ))
    (hgrants : Grants target link) (hwrapped : wrapped = .ok ()) :
    ∃ link', Eff.run (before_tls u target wrapped) link = (.ok (), link') := by
  subst hwrapped
  unfold before_tls through_proxy
  cases hproxy : target.ws_proxy with
  | false =>
    rw [if_neg Bool.false_ne_true]
    exact ⟨link, rfl⟩
  | true =>
    obtain ⟨hfaults, request, behind, r, hrequest, hfits, hlow, hhigh, hstream⟩ := hgrants hproxy
    have hsize : 0 < 4096 := by omega
    obtain ⟨leftover, rest, hread, -⟩ := run_readUntil_ended head_end_ne_nil hsize
      (endedBy_bytes r) hfits hstream
    have hhead : Eff.run read_http_head link.arriving = (.ok (r.bytes ++ leftover), rest) := by
      unfold read_http_head
      rw [Eff.run_bind_ok hread]
      rfl
    have hstatus : status_code u (r.bytes ++ leftover) = .ok (r.code : ℤ) := by
      rw [status_code_append u (endedBy_bytes r), status_code_bytes r (hint r.code)]
    have hrange : (200 : ℤ) ≤ r.code ∧ (r.code : ℤ) < 300 := by omega
    unfold tunnel_request at hrequest
    unfold open_proxy_tunnel
    rw [if_pos rfl, hrequest, Eff.run_bind, Eff.run_bind_ok (Eff.run_lift ..),
      Eff.run_bind_ok (run_send_of_no_faults request hfaults), Eff.run_bind, run_receive]
    dsimp only
    rw [hhead]
    dsimp only
    rw [hstatus, Eff.run_bind_ok (Eff.run_lift ..), if_pos hrange]
    exact ⟨_, rfl⟩

variable (u target wrapped) in
/-- INTERNAL: nothing is closed in front of the TLS session. -/
theorem keeps_before_tls : Eff.Keeps OpenStill (before_tls u target wrapped) := by
  unfold before_tls through_proxy open_proxy_tunnel
  refine Eff.Keeps.bind OpenStill.trans (Eff.Keeps.ite _ ?_ (Eff.Keeps.pure OpenStill.refl ()))
    fun _ => Eff.Keeps.lift OpenStill.refl wrapped
  refine Eff.Keeps.bind OpenStill.trans (Eff.Keeps.lift OpenStill.refl _) fun request => ?_
  refine Eff.Keeps.bind OpenStill.trans (keeps_send request) fun _ => ?_
  refine Eff.Keeps.bind OpenStill.trans (keeps_receive _) fun head => ?_
  refine Eff.Keeps.bind OpenStill.trans (Eff.Keeps.lift OpenStill.refl _) fun code => ?_
  exact Eff.Keeps.ite _ (Eff.Keeps.pure OpenStill.refl ()) (Eff.Keeps.throw OpenStill.refl _)

variable (u target link wrapped) in
/-- INTERNAL: the proxy is sent its request, or a part of it, and nothing else. -/
theorem before_tls_sent :
    ∃ part, (Eff.run (before_tls u target wrapped) link).2.sent = link.sent ++ part ∧
      (part = [] ∨ target.ws_proxy = true ∧ ∃ request, tunnel_request target = .ok request ∧
        part <+: request) := by
  unfold before_tls through_proxy
  cases hproxy : target.ws_proxy with
  | false =>
    rw [if_neg Bool.false_ne_true]
    exact ⟨[], (List.append_nil _).symm, .inl rfl⟩
  | true =>
    have hlift : ∀ x : Eff PyError (ProxyLink Socket) Unit,
        (Eff.run (x >>= fun _ => Eff.lift wrapped) link).2 = (Eff.run x link).2 := by
      intro x
      rw [Eff.run_bind]
      rcases Eff.run x link with ⟨e | _, mid⟩ <;> rfl
    rw [if_pos rfl, hlift]
    unfold open_proxy_tunnel tunnel_request
    cases hrequest : connect_request target.wshost target.wsport target.ws_proxy_user
        target.ws_proxy_pass with
    | error e => exact ⟨[], (List.append_nil _).symm, .inl rfl⟩
    | ok request =>
      rw [Eff.run_bind_ok (Eff.run_lift ..)]
      rcases hsend : Eff.run (send request) link with ⟨e | _, mid⟩
      · obtain ⟨part, hpart, hsent⟩ := run_send_error hsend
        rw [Eff.run_bind_error hsend]
        exact ⟨part, hsent, .inr ⟨rfl, request, rfl, hpart⟩⟩
      · obtain ⟨-, hsent, -⟩ := run_send_ok hsend
        refine ⟨request, ?_, .inr ⟨rfl, request, rfl, List.prefix_refl _⟩⟩
        rw [Eff.run_bind_ok hsend, Eff.run_bind, run_receive]
        rcases Eff.run read_http_head mid.arriving with ⟨e | head, arriving⟩
        · exact hsent
        · dsimp only
          rw [Eff.run_bind, Eff.run_lift]
          rcases status_code u head with e | code
          · exact hsent
          · dsimp only
            split <;> exact hsent

end Tunnel

/-! ## The transport -/

section Transport

variable (lib : WsLibrary) (u : Unicode) (target : WsTarget) (wrapped : Except PyError Unit)

/-- How a transport is opened. -/
structure OpensWs : Prop where
  /-- one that is opened was granted, and the frames begin behind the head that switches -/
  through : ∀ {s s' : WsSockets} {leftover : Bytes},
    Eff.run (connect_ws lib u target wrapped) s = (.ok leftover, s') →
      wrapped = .ok () ∧ Granted u target s.raw s'.raw ∧ ∃ headers out,
        upgrade_headers u target.logon = .ok headers ∧
        Upgraded lib u target.wsport headers 1 target.wshost target.ws_path
          s.tls.arriving.flatten out (leftover ++ s'.tls.arriving.flatten) ∧
        s'.tls.sent = s.tls.sent ++ out ∧ s'.tls.closes = s.tls.closes
  /-- it is opened where the proxy grants the tunnel and the server switches -/
  opened : ∀ {s : WsSockets} {headers : List (Bytes × Bytes)} {frames : Bytes},
    wrapped = .ok () → Grants target s.raw → s.tls.faults = [] →
    upgrade_headers u target.logon = .ok headers →
    Answered lib u target.wsport headers 1 target.wshost target.ws_path s.tls.arriving frames →
      ∃ leftover s', Eff.run (connect_ws lib u target wrapped) s = (.ok leftover, s') ∧
        leftover ++ s'.tls.arriving.flatten = frames
  /-- one that is not opened is closed, once -/
  refused : ∀ {s s' : WsSockets} {e : PyError},
    Eff.run (connect_ws lib u target wrapped) s = (.error e, s') →
      s'.raw.closes = s.raw.closes + 1 ∧ s'.tls = s.tls ∨
        wrapped = .ok () ∧ Granted u target s.raw s'.raw ∧ s'.tls.closes = s.tls.closes + 1
  /-- a proxy is sent the request for the tunnel, and nothing else -/
  proxied : ∀ s : WsSockets, ∃ part,
    (Eff.run (connect_ws lib u target wrapped) s).2.raw.sent = s.raw.sent ++ part ∧
      (part = [] ∨ target.ws_proxy = true ∧ ∃ request, tunnel_request target = .ok request ∧
        part <+: request)
  /-- the logon goes out behind the grant, and a second time where the server sends the client on -/
  asked : ∀ s : WsSockets, ∃ out,
    (Eff.run (connect_ws lib u target wrapped) s).2.tls.sent = s.tls.sent ++ out ∧
      (out = [] ∨ wrapped = .ok () ∧
        Granted u target s.raw (Eff.run (connect_ws lib u target wrapped) s).2.raw ∧ ∃ headers,
          upgrade_headers u target.logon = .ok headers ∧
          Asked lib u target.wsport headers 1 target.wshost target.ws_path
            s.tls.arriving.flatten out)

variable {lib u target wrapped} {s : WsSockets}

/-- INTERNAL: a transport is opened in two stages. -/
theorem connect_ws_eq : connect_ws lib u target wrapped =
    onRaw (closing (before_tls u target wrapped)) >>= fun _ =>
      onTls (closing
        (ws_upgrade lib u target.wshost target.wsport target.ws_path target.logon)) := rfl

/-- INTERNAL: where the first stage fails. -/
theorem run_connect_ws_refused {e : PyError} {raw : ProxyLink Socket}
    (h : Eff.run (before_tls u target wrapped) s.raw = (.error e, raw)) :
    Eff.run (connect_ws lib u target wrapped) s =
      (.error e, { s with raw := { raw with closes := raw.closes + 1 } }) := by
  have hraw : Eff.run (onRaw (closing (before_tls u target wrapped))) s =
      (.error e, { s with raw := { raw with closes := raw.closes + 1 } }) := by
    unfold onRaw
    rw [Eff.run_zoom, run_closing_error h]
  rw [connect_ws_eq, Eff.run_bind_error hraw]

/-- INTERNAL: where the first stage is through. -/
theorem run_connect_ws_granted {raw : ProxyLink Socket}
    (h : Eff.run (before_tls u target wrapped) s.raw = (.ok (), raw)) :
    Eff.run (connect_ws lib u target wrapped) s =
      ((Eff.run (closing
          (ws_upgrade lib u target.wshost target.wsport target.ws_path target.logon)) s.tls).1,
        ⟨raw, (Eff.run (closing (ws_upgrade lib u target.wshost target.wsport target.ws_path
          target.logon)) s.tls).2⟩) := by
  have hraw : Eff.run (onRaw (closing (before_tls u target wrapped))) s =
      (.ok (), { s with raw := raw }) := by
    unfold onRaw
    rw [Eff.run_zoom, run_closing_ok.mpr h]
  rw [connect_ws_eq, Eff.run_bind_ok hraw]
  rfl

variable (lib u target) in
/-- INTERNAL: nothing is closed in the second stage. -/
theorem keeps_ws_upgrade : Eff.Keeps OpenStill
    (ws_upgrade lib u target.wshost target.wsport target.ws_path target.logon) := by
  unfold ws_upgrade
  exact Eff.Keeps.bind OpenStill.trans (Eff.Keeps.lift OpenStill.refl _) fun headers =>
    keeps_upgrade_turns lib u target.wsport headers 1 target.wshost target.ws_path

variable (lib u target) in
/-- INTERNAL: what the second stage sends. -/
theorem ws_upgrade_sent (link : ProxyLink Socket) :
    ∃ out, (Eff.run (ws_upgrade lib u target.wshost target.wsport target.ws_path target.logon)
        link).2.sent = link.sent ++ out ∧
      (out = [] ∨ ∃ headers, upgrade_headers u target.logon = .ok headers ∧
        Asked lib u target.wsport headers 1 target.wshost target.ws_path link.arriving.flatten
          out) := by
  unfold ws_upgrade
  cases hheaders : upgrade_headers u target.logon with
  | error e => exact ⟨[], (List.append_nil _).symm, .inl rfl⟩
  | ok headers =>
    obtain ⟨out, hasked, hsent⟩ :=
      asked_of_run lib u target.wsport headers 1 target.wshost target.ws_path link
    rw [Eff.run_bind_ok (Eff.run_lift ..)]
    exact ⟨out, hsent, .inr ⟨headers, rfl, hasked⟩⟩

variable (lib target wrapped)

/-- A transport is opened by a proxy that grants the tunnel and a server that switches, and by
nothing else; one that is not opened is closed. -/
theorem transports_opened (hint : ∀ n : ℕ, u.int (dec n) = some (n : ℤ)) :
    OpensWs lib u target wrapped := by
  constructor
  · intro s s' leftover hrun
    rcases hfirst : Eff.run (before_tls u target wrapped) s.raw with ⟨e | _, raw⟩
    · rw [run_connect_ws_refused hfirst] at hrun
      cases hrun
    · obtain ⟨hwrapped, hgranted⟩ := granted_of_run hfirst
      rw [run_connect_ws_granted hfirst] at hrun
      obtain ⟨hleftover, rfl⟩ := Prod.mk.inj hrun
      have hsecond := run_closing_ok.mp (Prod.ext hleftover rfl)
      unfold ws_upgrade at hsecond
      obtain ⟨headers, mid, hheaders, hturns⟩ := Eff.run_bind_eq_ok hsecond
      obtain ⟨hmade, rfl⟩ := Prod.mk.inj hheaders
      obtain ⟨out, hupgraded, hsent, hclosed⟩ :=
        upgraded_of_run lib u target.wsport headers hturns
      exact ⟨hwrapped, hgranted, headers, out, hmade, hupgraded, hsent, hclosed⟩
  · intro s headers frames hwrapped hgrants hfaults hheaders hanswered
    obtain ⟨raw, hfirst⟩ := run_before_tls_granted hint hgrants hwrapped
    obtain ⟨leftover, tls, hturns, hframes⟩ :=
      run_upgrade_turns_answered hint hanswered s.tls rfl hfaults
    have hsecond : Eff.run (closing
        (ws_upgrade lib u target.wshost target.wsport target.ws_path target.logon)) s.tls =
          (.ok leftover, tls) := by
      rw [run_closing_ok]
      unfold ws_upgrade
      rw [hheaders, Eff.run_bind_ok (Eff.run_lift ..), hturns]
    refine ⟨leftover, ⟨raw, tls⟩, ?_, hframes⟩
    rw [run_connect_ws_granted hfirst, hsecond]
  · intro s s' e hrun
    rcases hfirst : Eff.run (before_tls u target wrapped) s.raw with ⟨e' | _, raw⟩
    · have hkept := keeps_before_tls u target wrapped s.raw
      rw [hfirst] at hkept
      rw [run_connect_ws_refused hfirst] at hrun
      cases hrun
      exact .inl ⟨congrArg (· + 1) hkept, rfl⟩
    · obtain ⟨hwrapped, hgranted⟩ := granted_of_run hfirst
      rw [run_connect_ws_granted hfirst] at hrun
      obtain ⟨herror, rfl⟩ := Prod.mk.inj hrun
      exact .inr ⟨hwrapped, hgranted,
        closes_closing (keeps_ws_upgrade lib u target) (Prod.ext herror rfl)⟩
  · intro s
    obtain ⟨part, hsent, hpart⟩ := before_tls_sent u target s.raw wrapped
    refine ⟨part, ?_, hpart⟩
    rcases hfirst : Eff.run (before_tls u target wrapped) s.raw with ⟨e | _, raw⟩
    · rw [run_connect_ws_refused hfirst]
      rw [hfirst] at hsent
      exact hsent
    · rw [run_connect_ws_granted hfirst]
      rw [hfirst] at hsent
      exact hsent
  · intro s
    rcases hfirst : Eff.run (before_tls u target wrapped) s.raw with ⟨e | _, raw⟩
    · rw [run_connect_ws_refused hfirst]
      exact ⟨[], (List.append_nil _).symm, .inl rfl⟩
    · obtain ⟨hwrapped, hgranted⟩ := granted_of_run hfirst
      obtain ⟨out, hsent, hout⟩ := ws_upgrade_sent lib u target s.tls
      rw [run_connect_ws_granted hfirst]
      refine ⟨out, (sent_closing _ _).trans hsent, ?_⟩
      rcases hout with rfl | hasked
      · exact .inl rfl
      · exact .inr ⟨hwrapped, hgranted, hasked⟩

end Transport

/-! ## A server that switches -/

/-- The lines of a request that have its key. -/
def sampleLines : Bytes :=
  ascii (lit ("Upgrade: WebSocket\r\nConnection: Upgrade\r\n" ++
    "Sec-WebSocket-Key: dGhlIHNhbXBsZSBub25jZQ==\r\nSec-WebSocket-Version: 13\r\n" ++
    "Sec-WebSocket-Protocol: rfc.sap.com"))

/-- A request with the key of the standard's example, and the digest for it. -/
def sampleLibrary : WsLibrary where
  sha1 _ := [0xb3, 0x7a, 0x4f, 0x2c, 0xc0, 0x62, 0x4f, 0x16, 0x90, 0xf6, 0x46, 0x06, 0xcf, 0x38,
    0x59, 0x45, 0xb2, 0xbe, 0xc4, 0xea]
  request _ host target headers :=
    .ok (ascii (lit "GET ") ++ target.map UInt8.ofNat ++ ascii (lit " HTTP/1.1\r\nHost: ") ++
      host.map UInt8.ofNat ++ 13 :: 10 :: (sampleLines ++ 13 :: 10 ::
        ((headers.flatMap fun h => h.1 ++ ascii (lit ": ") ++ h.2 ++ [13, 10]) ++ [13, 10])))

/-- The server's answer. -/
def sampleResponse : Response where
  version := ascii (lit "HTTP/1.1")
  code := 101
  reason := ascii (lit "Switching Protocols")
  fields := [(ascii (lit "Upgrade"), ascii (lit " websocket")),
    (ascii (lit "Sec-WebSocket-Accept"), ascii (lit " s3pPLMBiTxaQ9kYGzzhZRbK+xOo="))]
  version_plain := by decide +kernel
  reason_plain := by decide +kernel
  names_plain := by decide +kernel
  values_plain := by decide +kernel

/-- A server without a proxy in front of it. -/
def sampleTarget : WsTarget where
  wshost := lit "sap"
  wsport := 443
  logon := ⟨some (lit "DEMO"), some (lit "secret"), some (lit "001"), lit "en"⟩

/-- Connections to it: the answer comes in two pieces, the first frame with the second. -/
def sampleSockets : WsSockets where
  raw := ⟨[], [], [], 0⟩
  tls :=
    ⟨[sampleResponse.bytes.take 30, sampleResponse.bytes.drop 30 ++ [0x82, 0x00]], [], [], 0⟩

/-- INTERNAL: what was returned. -/
theorem eq_ok_of_toOption {ε α : Type} {x : Except ε α} {a : α} (h : x.toOption = some a) :
    x = .ok a := by
  cases x with
  | error e => cases h
  | ok b =>
    cases h
    rfl

/-- The transport is opened, and the first frame is not lost. -/
theorem transport_opened_sample :
    ∃ leftover s',
      Eff.run (connect_ws sampleLibrary asciiTables sampleTarget (.ok ())) sampleSockets =
        (.ok leftover, s') ∧ leftover ++ s'.tls.arriving.flatten = [0x82, 0x00] := by
  have haccept : ((upgrade_headers asciiTables sampleTarget.logon).toOption.bind fun headers =>
      (build_upgrade_request sampleLibrary 1 sampleTarget.wshost sampleTarget.wsport
        sampleTarget.ws_path headers).toOption.map fun made =>
          expected_accept sampleLibrary made.2) = some (lit "s3pPLMBiTxaQ9kYGzzhZRbK+xOo=") := by
    decide +kernel
  obtain ⟨headers, hheaders, hmade⟩ := Option.bind_eq_some_iff.mp haccept
  obtain ⟨⟨request, key⟩, hrequest, hkey⟩ := Option.map_eq_some_iff.mp hmade
  have hkey : expected_accept sampleLibrary key = lit "s3pPLMBiTxaQ9kYGzzhZRbK+xOo=" := hkey
  refine (transports_opened sampleLibrary sampleTarget (.ok ())
    UnitDelivery.standard_ascii.int).opened rfl (fun h => absurd h Bool.false_ne_true) rfl
    (eq_ok_of_toOption hheaders)
    (.switched (r := sampleResponse) (eq_ok_of_toOption hrequest) ?_ rfl ?_ ?_)
  · unfold Fits
    decide +kernel
  · rw [hkey]
    decide +kernel
  · show [sampleResponse.bytes.take 30, sampleResponse.bytes.drop 30 ++ [0x82, 0x00]].flatten = _
    rw [List.flatten_cons, List.flatten_singleton, ← List.append_assoc, List.take_append_drop]

end SapRfc.Analysis.WsUpgrades
