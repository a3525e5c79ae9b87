import SapRfc.Program.AsyncServing
import SapRfc.Analysis.Answers

/-!
# The reply frames of the two servers

Both loops dispatch a call alike when the handlers are plain functions.  The registered
server wraps the response in a frame that carries the conversation id; the asynchronous
one writes the response as it is, and skips the frame with the id.  So on a sequence of
frames the two put the same replies on the wire exactly when no call is answered.
-/

set_option autoImplicit false

namespace SapRfc.Analysis.ServeLoops

open SapRfc.Library SapRfc.Program SapRfc.Analysis.Shipping
open SapRfc.Analysis.Answers (wrap_in_0608_ok_iff sent_dispatch_and_reply state_dispatch_and_reply)
open SapRfc.Analysis.Residue (run_attempt_state)

section Loops

variable {χ V : Type} {p : Platform V} {srv : RfcServer χ V}

/-- Every handler that a call can find is a plain function. -/
def PlainHandlers (p : Platform V) (srv : RfcServer χ V) : Prop :=
  ∀ name g entry g', Eff.run (srv.lookup p name) g = (.ok (some entry), g') →
    entry.2.coroutine = false

/-! ## One dispatch -/

/-- The first turn ends the dispatch, and ends it as `y` does. -/
def Whole (x : Eff PyError (ServerWorld χ) (FirstTurn χ V))
    (y : Eff PyError (ServerWorld χ) Bytes) :
    Prop :=
  ∀ w, Eff.run x w =
    match Eff.run y w with
    | (.ok out, w') => (.ok (.ended out), w')
    | (.error exc, w') => (.error exc, w')

theorem Whole.ended (y : Eff PyError (ServerWorld χ) Bytes) :
    Whole (y >>= fun out => pure (.ended out : FirstTurn χ V)) y := by
  intro w
  rw [Eff.run_bind]
  rcases Eff.run y w with ⟨_ | _, _⟩ <;> rfl

theorem Whole.congr {x : Eff PyError (ServerWorld χ) (FirstTurn χ V)}
    {y y' : Eff PyError (ServerWorld χ) Bytes} (h : Whole x y)
    (hrun : ∀ w, Eff.run y w = Eff.run y' w) : Whole x y' := by
  intro w
  rw [← hrun w]
  exact h w

theorem Whole.bind {α : Type} {x : Eff PyError (ServerWorld χ) α}
    {f : α → Eff PyError (ServerWorld χ) (FirstTurn χ V)}
    {g : α → Eff PyError (ServerWorld χ) Bytes}
    (h : ∀ w a w', Eff.run x w = (.ok a, w') → Whole (f a) (g a)) : Whole (x >>= f) (x >>= g) := by
  intro w
  rw [Eff.run_bind, Eff.run_bind]
  rcases hx : Eff.run x w with ⟨exc | a, w'⟩
  · rfl
  · exact h w a w' hx w'

theorem Whole.ite (c : Prop) [Decidable c] {x x' : Eff PyError (ServerWorld χ) (FirstTurn χ V)}
    {y y' : Eff PyError (ServerWorld χ) Bytes} (h : Whole x y) (h' : Whole x' y') :
    Whole (if c then x else x') (if c then y else y') := by
  split
  · exact h
  · exact h'

/-- INTERNAL: the call of a plain function gives the result that an `await` would give. -/
theorem run_call_handler {handler : Handler χ V} (hplain : handler.coroutine = false)
    (request : Values V) (w : ServerWorld χ) :
    Eff.run (call_handler handler request) w =
      match Eff.run (await_handler handler request) w with
      | (.ok values, w') => (.ok (.result values), w')
      | (.error exc, w') => (.error exc, w') := by
  unfold call_handler await_handler
  rw [hplain, if_neg Bool.false_ne_true, Eff.run_bind, Eff.run_bind]
  show Eff.run (run_body handler request >>= _) _ =
    match Eff.run (run_body handler request) _ with
    | (.ok values, w') => _
    | (.error exc, w') => _
  rw [Eff.run_bind]
  rcases Eff.run (run_body handler request) _ with ⟨_ | _, _⟩ <;> rfl

/-- INTERNAL: a plain function is answered as the registered server answers it. -/
theorem run_answer_handler {handler : Handler χ V} (hplain : handler.coroutine = false)
    (func_desc : Option FunctionDesc) (request : Values V) (w : ServerWorld χ) :
    Eff.run (answer_handler p func_desc handler request) w =
      Eff.run (do
        let called ← attempt (call_handler handler request)
        match called with
        | .error exc => Eff.lift (build_system_failure exc.text)
        | .ok called => Eff.lift (build_call_response p func_desc called)) w := by
  have hcalled := run_call_handler hplain request w
  unfold answer_handler
  rw [Eff.run_bind, Eff.run_bind]
  rcases hrun : Eff.run (await_handler handler request) w with ⟨exc | values, w'⟩
  · rw [hrun] at hcalled
    rw [run_attempt_error hrun, run_attempt_error hcalled]
    cases exc.kind.isException <;> rfl
  · rw [hrun] at hcalled
    rw [run_attempt_ok hrun, run_attempt_ok hcalled]
    rfl

/-- INTERNAL: with plain functions the ordinary branch is a whole dispatch. -/
theorem whole_async_call_start (hplain : PlainHandlers p srv) (tlv : Bytes) (fname : PyStr) :
    Whole (async_call_start p srv tlv fname) (dispatch_call p srv tlv fname) := by
  unfold async_call_start dispatch_call
  apply Whole.bind
  intro w entry w' hlook
  cases entry with
  | none => exact Whole.ended _
  | some entry =>
    obtain ⟨func_desc, handler⟩ := entry
    have hfound : Eff.run (srv.lookup p fname) w.user =
        (.ok (some (func_desc, handler)), w'.user) := by
      have hr := congrArg Prod.fst hlook
      have hw := congrArg (fun x => x.2.user) hlook
      exact Prod.ext hr hw
    have hco : handler.coroutine = false := hplain fname w.user _ w'.user hfound
    apply Whole.bind
    intro _ _ _ _
    apply Whole.bind
    intro _ allowed _ _
    apply Whole.ite
    · exact Whole.ended _
    · apply Whole.bind
      intro _ request _ _
      rw [hco, if_neg Bool.false_ne_true]
      exact (Whole.ended _).congr (run_answer_handler hco func_desc request)

/-- INTERNAL: with plain functions the first turn of a task is the dispatch of the
registered server. -/
theorem whole_async_dispatch_start (hplain : PlainHandlers p srv) (frame : Bytes) :
    Whole (async_dispatch_start p srv frame) (dispatch_inbound p srv frame) := by
  unfold async_dispatch_start
  intro w
  cases hname : read_func_name (strip_gw_header frame) with
  | error exc =>
    unfold dispatch_inbound
    rw [Eff.run_bind_error (by rw [Eff.run_lift, hname]),
      Eff.run_bind_error (by rw [Eff.run_lift, hname])]
  | ok fname =>
    have hdispatch : Eff.run (dispatch_inbound p srv frame) w =
        Eff.run (dispatch_named p srv (strip_gw_header frame) fname) w := by
      unfold dispatch_inbound
      rw [Eff.run_bind_ok (by rw [Eff.run_lift, hname])]
    rw [Eff.run_bind_ok (by rw [Eff.run_lift, hname]), Eff.run_ite]
    by_cases hsys : fname ∈ systemNames
    · rw [if_pos hsys]
      exact Whole.ended _ w
    · have hcall : dispatch_named p srv (strip_gw_header frame) fname =
          dispatch_call p srv (strip_gw_header frame) fname := by
        simp only [systemNames, List.mem_cons, List.not_mem_nil, or_false, not_or] at hsys
        obtain ⟨h1, h2, h3, h4, h5⟩ := hsys
        unfold dispatch_named
        rw [if_neg h1, if_neg h2, if_neg h3, if_neg h4, if_neg h5]
      rw [if_neg hsys, hdispatch, hcall]
      exact whole_async_call_start hplain _ fname w

/-! ## One frame -/

/-- The reply frame of the registered server: what it sends first. -/
def sync_reply (p : Platform V) (srv : RfcServer χ V) (frame : Bytes) (s : ServeLoop χ) :
    Option Bytes × ServeLoop χ :=
  ((serve_turn p srv frame s).1.head?, (serve_turn p srv frame s).2)

/-- The connection behind a frame whose call, if it is one, is answered before the next
frame arrives. -/
def answered_now (p : Platform V) (srv : RfcServer χ V) (frame : Bytes) (c : Connection χ V) :
    Connection χ V :=
  connection_run p srv [.arrive frame, .start] c

/-- The reply frame of the asynchronous server. -/
def async_reply (p : Platform V) (srv : RfcServer χ V) (frame : Bytes) (c : Connection χ V) :
    Option Bytes × Connection χ V :=
  ((((answered_now p srv frame c).written.drop c.written.length).map Prod.snd).head?,
    answered_now p srv frame c)

/-- The frame is a call, and its dispatch returns a response that fits a frame. -/
def Answered (p : Platform V) (srv : RfcServer χ V) (frame : Bytes) (c : Connection χ V) : Prop :=
  c.connected = true ∧ IsCall frame ∧
    ∃ out, (Eff.run (dispatch_inbound p srv frame) c.server).1 = .ok out ∧ out.length < 256 ^ 4

/-- INTERNAL: a response makes a reply exactly when its length fits the header. -/
theorem reply_of_ok (call : ℕ) (out : Bytes) :
    reply_of (call, .ok out) = if out.length < 256 ^ 4 then some (call, out) else none := by
  unfold reply_of build_ni_frame
  by_cases h : out.length < 256 ^ 4
  · rw [if_pos h]
    simp only [if_neg (Nat.not_le.mpr h)]
  · rw [if_neg h]
    simp only [if_pos (Nat.not_lt.mp h)]

/-- INTERNAL: with no task in flight, a frame that is no call changes nothing. -/
theorem answered_now_of_not {frame : Bytes} {c : Connection χ V} (htasks : c.tasks = [])
    (h : ¬ (c.connected = true ∧ IsCall frame)) : answered_now p srv frame c = c := by
  show connection_step p srv (connection_step p srv c (.arrive frame)) .start = c
  have harrive : connection_step p srv c (.arrive frame) = c := if_neg h
  rw [harrive]
  unfold connection_step
  rw [htasks]
  rfl

/-- INTERNAL: with no task in flight, a call is dispatched and its end written. -/
theorem answered_now_of_call (hplain : PlainHandlers p srv) {frame : Bytes} {c : Connection χ V}
    (htasks : c.tasks = []) (h : c.connected = true ∧ IsCall frame) :
    answered_now p srv frame c =
      finish c.requests.length (Eff.run (dispatch_inbound p srv frame) c.server).1
        { c with
          server := (Eff.run (dispatch_inbound p srv frame) c.server).2
          requests := c.requests ++ [frame]
          tasks := [(c.requests.length, .created frame)] } := by
  show connection_step p srv (connection_step p srv c (.arrive frame)) .start = _
  have harrive : connection_step p srv c (.arrive frame) =
      { c with
        requests := c.requests ++ [frame]
        tasks := [(c.requests.length, .created frame)] } := by
    show (if _ then _ else _) = _
    rw [if_pos h, htasks]
    rfl
  have hturn := whole_async_dispatch_start hplain frame c.server
  rw [harrive]
  unfold connection_step first_created
  simp only [List.findSome?_cons]
  rw [hturn]
  rcases Eff.run (dispatch_inbound p srv frame) c.server with ⟨_ | _, _⟩ <;> rfl

/-- INTERNAL: the task of a call is gone when its dispatch ends. -/
theorem tasks_answered_now (hplain : PlainHandlers p srv) {frame : Bytes} {c : Connection χ V}
    (htasks : c.tasks = []) : (answered_now p srv frame c).tasks = [] := by
  by_cases h : c.connected = true ∧ IsCall frame
  · rw [answered_now_of_call hplain htasks h]
    unfold finish
    simp
  · rw [answered_now_of_not htasks h, htasks]

/-- INTERNAL: what the asynchronous server replies: the response as it is. -/
theorem async_reply_eq (hplain : PlainHandlers p srv) {frame : Bytes} {c : Connection χ V}
    (htasks : c.tasks = []) {out : Bytes} :
    (async_reply p srv frame c).1 = some out ↔
      c.connected = true ∧ IsCall frame ∧
        (Eff.run (dispatch_inbound p srv frame) c.server).1 = .ok out ∧ out.length < 256 ^ 4 := by
  unfold async_reply
  by_cases h : c.connected = true ∧ IsCall frame
  · rw [answered_now_of_call hplain htasks h]
    unfold finish
    simp only [List.drop_left]
    cases Eff.run (dispatch_inbound p srv frame) c.server with
    | mk r w =>
      cases r with
      | error exc => simp [reply_of]
      | ok resp =>
        rw [reply_of_ok]
        by_cases hlen : resp.length < 256 ^ 4
        · rw [if_pos hlen]
          constructor
          · intro hout
            obtain rfl := Option.some.inj hout
            exact ⟨h.1, h.2, rfl, hlen⟩
          · rintro ⟨-, -, hout, -⟩
            rw [Except.ok.inj hout]
            rfl
        · rw [if_neg hlen]
          constructor
          · intro hout
            cases hout
          · rintro ⟨-, -, hout, hlen'⟩
            rw [Except.ok.inj hout] at hlen
            exact absurd hlen' hlen
  · rw [answered_now_of_not htasks h, List.drop_length]
    constructor
    · intro hout
      cases hout
    · rintro ⟨hconn, hcall, -⟩
      exact absurd ⟨hconn, hcall⟩ h

/-- INTERNAL: a call is dispatched by a loop that runs. -/
theorem serve_turn_of_call {frame : Bytes} {s : ServeLoop χ} (hrun : s.running = true)
    (hcall : IsCall frame) :
    serve_turn p srv frame s =
      ((Eff.run (dispatch_and_reply_sync p srv frame s.gw_handle) ⟨s.server, []⟩).2.sent,
        { s with
          server := (Eff.run (dispatch_and_reply_sync p srv frame s.gw_handle)
            ⟨s.server, []⟩).2.server
          running := (Eff.run (dispatch_and_reply_sync p srv frame s.gw_handle)
            ⟨s.server, []⟩).1.isOk }) := by
  obtain ⟨hlen, htype⟩ := hcall
  have hmore : ¬ (s.running = false ∨ frame.length < 2) := by
    rintro (h | h)
    · rw [hrun] at h
      cases h
    · omega
  unfold serve_turn
  rw [if_neg hmore, if_neg (by rw [htype]; decide), if_neg (by rw [htype]; decide), if_pos htype]
  rcases Eff.run (dispatch_and_reply_sync p srv frame s.gw_handle) ⟨s.server, []⟩ with ⟨_ | _, _⟩
  · rfl
  · obtain ⟨w, h, r⟩ := s
    obtain rfl : r = true := hrun
    rfl

/-- INTERNAL: on any other frame nothing is sent and nothing dispatched. -/
theorem serve_turn_of_not {frame : Bytes} {s : ServeLoop χ}
    (h : ¬ (s.running = true ∧ IsCall frame)) :
    (serve_turn p srv frame s).1 = [] ∧ (serve_turn p srv frame s).2.server = s.server ∧
      (serve_turn p srv frame s).2.running = s.running := by
  unfold serve_turn
  split
  · exact ⟨rfl, rfl, rfl⟩
  · next hrun =>
    split
    · exact ⟨rfl, rfl, rfl⟩
    · split
      · exact ⟨rfl, rfl, rfl⟩
      · split
        · next htype =>
          rw [not_or, Bool.not_eq_false, Nat.not_lt] at hrun
          exact absurd ⟨hrun.1, hrun.2, htype⟩ h
        · exact ⟨rfl, rfl, rfl⟩

/-- INTERNAL: what the registered server replies: the response in its frame. -/
theorem sync_reply_eq {frame : Bytes} {s : ServeLoop χ} {reply : Bytes} :
    (sync_reply p srv frame s).1 = some reply ↔
      s.running = true ∧ IsCall frame ∧
        ∃ out, (Eff.run (dispatch_inbound p srv frame) s.server).1 = .ok out ∧
          wrap_in_0608 out s.gw_handle = .ok reply := by
  unfold sync_reply
  by_cases h : s.running = true ∧ IsCall frame
  · rw [serve_turn_of_call h.1 h.2]
    simp only [sent_dispatch_and_reply]
    cases (Eff.run (dispatch_inbound p srv frame) s.server).1 with
    | error exc => simp [Except.bind]
    | ok out =>
      simp only [Except.bind]
      cases hwrap : wrap_in_0608 out s.gw_handle with
      | error exc => simp [hwrap]
      | ok frame' => simp [hwrap, h.1, h.2]
  · rw [(serve_turn_of_not h).1]
    constructor
    · intro hout
      cases hout
    · rintro ⟨hrun, hcall, -⟩
      exact absurd ⟨hrun, hcall⟩ h

/-- INTERNAL: a wrapped response is longer than the response. -/
theorem wrap_in_0608_ne {out gw_handle reply : Bytes} (h : wrap_in_0608 out gw_handle = .ok reply) :
    reply ≠ out := by
  unfold wrap_in_0608 pack_u32 at h
  split at h
  · cases h
  · obtain rfl := Except.ok.inj h
    intro heq
    have hlen := congrArg List.length heq
    simp at hlen
    omega

/-! ## A sequence of frames -/

/-- The loop and the connection after the same frames: as long as the loop runs, the
connection is open and the handlers see the same. -/
structure Tied (p : Platform V) (srv : RfcServer χ V) (w : ServerWorld χ) (done : List Bytes)
    (s : ServeLoop χ) (c : Connection χ V) : Prop where
  reached : c = done.foldl (fun c frame => answered_now p srv frame c) (.accept w)
  idle : c.tasks = []
  connected : s.running = true → c.connected = true
  server : s.running = true → c.server = s.server

/-- INTERNAL: the serve step returns when nothing but an `Exception` was raised. -/
theorem isException_of_isOk {frame gw_handle : Bytes} {w : ServerWorld χ}
    (h : (Eff.run (dispatch_and_reply_sync p srv frame gw_handle) ⟨w, []⟩).1.isOk = true)
    {exc : PyError} (hexc : (Eff.run (dispatch_inbound p srv frame) w).1 = .error exc) :
    exc.kind.isException = true := by
  have hsend : Eff.run (dispatch_and_send p srv frame gw_handle) ⟨w, []⟩ =
      (.error exc, ⟨(Eff.run (dispatch_inbound p srv frame) w).2, []⟩) := by
    have hserved : Eff.run (serving (dispatch_inbound p srv frame)) ⟨w, []⟩ =
        (.error exc, ⟨(Eff.run (dispatch_inbound p srv frame) w).2, []⟩) :=
      Prod.ext hexc rfl
    unfold dispatch_and_send
    rw [Eff.run_bind_error hserved]
  by_contra hno
  unfold dispatch_and_reply_sync at h
  have hattempt := run_attempt_error hsend
  rw [if_neg hno] at hattempt
  rw [Eff.run_bind_error hattempt] at h
  cases h

/-- INTERNAL: one more frame keeps them tied. -/
theorem Tied.step (hplain : PlainHandlers p srv) {w : ServerWorld χ} {done : List Bytes}
    {s : ServeLoop χ} {c : Connection χ V} (h : Tied p srv w done s c) (frame : Bytes) :
    Tied p srv w (done ++ [frame]) (sync_reply p srv frame s).2 (async_reply p srv frame c).2 := by
  have hreached : (async_reply p srv frame c).2 =
      (done ++ [frame]).foldl (fun c frame => answered_now p srv frame c) (.accept w) := by
    rw [List.foldl_append, ← h.reached]
    rfl
  have hidle : (async_reply p srv frame c).2.tasks = [] := tasks_answered_now hplain h.idle
  by_cases hsync : s.running = true ∧ IsCall frame
  · have hconn := h.connected hsync.1
    have hserver := h.server hsync.1
    have hturn : (sync_reply p srv frame s).2 = (serve_turn p srv frame s).2 := rfl
    rw [serve_turn_of_call hsync.1 hsync.2] at hturn
    have hasync : (async_reply p srv frame c).2 = answered_now p srv frame c := rfl
    rw [answered_now_of_call hplain h.idle ⟨hconn, hsync.2⟩] at hasync
    refine ⟨hreached, hidle, ?_, ?_⟩
    · intro hrun
      rw [hturn] at hrun
      rw [hasync]
      unfold finish
      cases hr : (Eff.run (dispatch_inbound p srv frame) c.server).1 with
      | ok out => simp [hconn, interrupts]
      | error exc =>
        rw [hserver] at hr
        have hexc := isException_of_isOk hrun hr
        have hkind : exc.kind ≠ .interrupt := by
          intro hk
          rw [hk] at hexc
          cases hexc
        simp [hconn, hkind, interrupts]
    · intro _
      rw [hturn, hasync]
      show (Eff.run (dispatch_inbound p srv frame) c.server).2 = _
      rw [state_dispatch_and_reply, hserver]
  · obtain ⟨-, hsame, hrunning⟩ := @serve_turn_of_not χ V p srv frame s hsync
    refine ⟨hreached, hidle, fun hrun => ?_, fun hrun => ?_⟩
    all_goals
      have hrun' : s.running = true := hrunning.symm.trans hrun
      have hskip : (async_reply p srv frame c).2 = c :=
        answered_now_of_not h.idle fun hc => hsync ⟨hrun', hc.2⟩
      rw [hskip]
    · exact h.connected hrun'
    · exact (h.server hrun').trans hsame.symm

/-- INTERNAL: the two reply alike exactly when the frame is not answered. -/
theorem Tied.replies_iff (hplain : PlainHandlers p srv) {w : ServerWorld χ} {done : List Bytes}
    {s : ServeLoop χ} {c : Connection χ V} (h : Tied p srv w done s c) (frame : Bytes) :
    (sync_reply p srv frame s).1 = (async_reply p srv frame c).1 ↔ ¬ Answered p srv frame c := by
  constructor
  · rintro heq ⟨hconn, hcall, out, hout, hlen⟩
    have hasync := (async_reply_eq hplain h.idle).mpr ⟨hconn, hcall, hout, hlen⟩
    obtain ⟨hrun, -, out', hout', hwrap⟩ := sync_reply_eq.mp (heq.trans hasync)
    rw [← h.server hrun, hout] at hout'
    obtain rfl := Except.ok.inj hout'
    exact wrap_in_0608_ne hwrap rfl
  · intro hno
    have hasync : (async_reply p srv frame c).1 = none := by
      cases hreply : (async_reply p srv frame c).1 with
      | none => rfl
      | some out =>
        obtain ⟨hconn, hcall, hout, hlen⟩ := (async_reply_eq hplain h.idle).mp hreply
        exact absurd ⟨hconn, hcall, out, hout, hlen⟩ hno
    rw [hasync]
    cases hreply : (sync_reply p srv frame s).1 with
    | none => rfl
    | some reply =>
      obtain ⟨hrun, hcall, out, hout, hwrap⟩ := sync_reply_eq.mp hreply
      rw [← h.server hrun] at hout
      exact absurd ⟨h.connected hrun, hcall, out, hout, wrap_in_0608_ok_iff.mp ⟨reply, hwrap⟩⟩ hno

/-- SOURCE: server.py:1569-1690, 1855-1946.  The two servers put the same replies on the wire
for a sequence of frames exactly when none of them is a call that its dispatch answers. -/
theorem replies_equal_iff (hplain : PlainHandlers p srv) (w : ServerWorld χ)
    (frames : List Bytes) :
    Run.answers (sync_reply p srv) frames (.start w) =
        Run.answers (async_reply p srv) frames (.accept w) ↔
      ∀ before frame after, frames = before ++ frame :: after →
        ¬ Answered p srv frame
          (before.foldl (fun c frame => answered_now p srv frame c) (.accept w)) := by
  have hstart : Tied p srv w [] (.start w) (.accept w) := ⟨rfl, rfl, fun _ => rfl, fun _ => rfl⟩
  apply Run.answers_eq_iff (R := Tied p srv w) ?_ ?_ hstart
  · intro done s c frame h
    rw [h.replies_iff hplain, h.reached]
  · intro done s c frame h _
    exact h.step hplain frame

end Loops

/-! ## A call behind the id of its conversation -/

/-- A server whose handler `Z_FM` is a plain function. -/
def functionServer : RfcServer Tables Bytes :=
  { RfcServer.init tablesTidStore tablesUnitStore with
    registry := [(lit "Z_FM", (none, ⟨7, false, fun _ => pure none⟩))] }

theorem plainHandlers_functionServer : PlainHandlers plainPlatform functionServer := by
  intro name g entry g' h
  unfold RfcServer.lookup at h
  cases hfound : assocGet functionServer.registry (plainPlatform.u.upper name) with
  | none =>
    rw [hfound] at h
    cases h
  | some found =>
    rw [hfound] at h
    cases h
    obtain ⟨e, hmem, rfl⟩ := Option.map_eq_some_iff.mp hfound
    rw [List.mem_singleton.mp (List.mem_of_find?_eq_some hmem)]

/-- The id of a conversation, and a call of `Z_FM` in it. -/
def conversationFrames : List Bytes :=
  [gw_frame 0x06CF 0x00 (encodeAsciiReplace (lit "00000042")) [0, 0, 0, 0] [0xFF, 0xFF, 0x00, 0x01],
    gw_frame 0x0603 0x00 (encodeAsciiReplace (lit "00000042")) [0, 0, 0, 0]
      [0xFF, 0xFF, 0x00, 0x01] ++ callFrame "Z_FM" []]

theorem replies_equal_conversation :
    Run.answers (sync_reply plainPlatform functionServer) conversationFrames
        (.start ⟨Tables.empty, []⟩) =
      Run.answers (async_reply plainPlatform functionServer) conversationFrames
        (.accept ⟨Tables.empty, []⟩) ↔
      ∀ before frame after, conversationFrames = before ++ frame :: after →
        ¬ Answered plainPlatform functionServer frame
          (before.foldl (fun c frame => answered_now plainPlatform functionServer frame c)
            (.accept ⟨Tables.empty, []⟩)) :=
  replies_equal_iff plainHandlers_functionServer _ _

/-- The registered server sends the response in a frame with the id of the conversation, the
asynchronous one sends the response alone. -/
theorem replies_differ_conversation :
    Run.answers (sync_reply plainPlatform functionServer) conversationFrames
        (.start ⟨Tables.empty, []⟩) ≠
      Run.answers (async_reply plainPlatform functionServer) conversationFrames
        (.accept ⟨Tables.empty, []⟩) := by
  decide +kernel

end SapRfc.Analysis.ServeLoops
