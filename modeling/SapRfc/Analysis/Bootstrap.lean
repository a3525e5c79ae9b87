import SapRfc.Analysis.Lookups

/-!
# A lookup that loses its reply

An ordinary call looks up what it does not know, and only its own exchange stands under
the guard.  When a lookup is sent and its reply cannot be read to its end, the call raises
with the session `READY` again, or, where `fetch_layout` swallows the exception, goes on
and sends its request behind the reply that was left.  `bootstrap_fails_closed_iff` says
when a call does what it should: when no lookup loses its reply, and otherwise only by an
invoke that the transport does not take.
-/

set_option autoImplicit false

namespace SapRfc.Analysis.Bootstrap

open SapRfc.Library SapRfc.Program

variable {ω χ V : Type} (k : Client ω χ V)

/-! ## The property -/

/-- The request was sent, and its reply was not read to its end. -/
def Lost (t : Trip ω) : Prop :=
  ∃ w, Eff.run (k.seam.send_message t.request) t.before = (.ok (), w) ∧
    ∃ e, (Eff.run (t.reader.read k.seam.recv_message) w).1 = .error e

instance (t : Trip ω) : Decidable (Lost k t) :=
  match hs : Eff.run (k.seam.send_message t.request) t.before with
  | (.error _, _) => .isFalse fun ⟨_, hw, _⟩ => by simp [hs] at hw
  | (.ok _, w) =>
    match hr : (Eff.run (t.reader.read k.seam.recv_message) w).1 with
    | .error e => .isTrue ⟨w, hs, e, hr⟩
    | .ok _ => .isFalse fun ⟨_, hw, e, he⟩ => by
      rw [hs] at hw
      cases hw
      rw [hr] at he
      cases he

/-- The transport took the request. -/
def Sent (t : Trip ω) : Prop := (Eff.run (k.seam.send_message t.request) t.before).1 = .ok ()

/-- The transport raised instead of taking the request. -/
def Rejected (t : Trip ω) (e : PyError) : Prop :=
  (Eff.run (k.seam.send_message t.request) t.before).1 = .error e

/-- If a lookup lost its reply, the session is `BROKEN` and the request of the call itself
was not sent. -/
def BootstrapFailsClosed (trips : List (Trip ω)) (c : Conn ω χ) : Prop :=
  (∃ t ∈ trips, IsLookup t.purpose ∧ Lost k t) →
    c.session.state = .BROKEN ∧
      ∀ t ∈ trips, t.purpose = .invoke ∨ t.purpose = .direct → ¬ Sent k t

/-- The trips of one method. -/
def tripsOf {α : Type} (x : Op ω χ α) (c : Conn ω χ) : List (Trip ω) :=
  (Eff.run x c).2.trips.drop c.trips.length

/-! ## Steps of a call -/

/-- The session was not given up. -/
def Intact (c c' : Conn ω χ) : Prop := c.session.state ≠ .BROKEN → c'.session.state ≠ .BROKEN

/-- Lookups were made, and the session was not given up. -/
def Looked (c c' : Conn ω χ) : Prop :=
  ∃ d, c'.trips = c.trips ++ d ∧ (∀ t ∈ d, IsLookup t.purpose) ∧ Intact c c'

/-- What stands behind the lookups of a call, and when the session is given up. -/
inductive Last (state : SessionState) : List (Trip ω) → Prop
  | nothing (h : state ≠ .BROKEN) : Last state []
  | direct {t : Trip ω} (hp : t.purpose = .direct) (h : state ≠ .BROKEN) : Last state [t]
  | invoke {t : Trip ω} (hp : t.purpose = .invoke)
      (h : ∀ e, Rejected k t e → (state = .BROKEN ↔ GivesUp e)) : Last state [t]

/-- Lookups were made, and then the request of the call, if any. -/
def Called (c c' : Conn ω χ) : Prop :=
  c.session.state ≠ .BROKEN → ∃ d last, c'.trips = c.trips ++ d ++ last ∧
    (∀ t ∈ d, IsLookup t.purpose) ∧ Last k c'.session.state last

variable {k}

theorem Looked.refl (c : Conn ω χ) : Looked c c := ⟨[], by simp, nofun, id⟩

theorem Looked.of_same {c c' : Conn ω χ} (htrips : c'.trips = c.trips) (h : Intact c c') :
    Looked c c' :=
  ⟨[], by simp [htrips], nofun, h⟩

theorem Looked.trans (a b c : Conn ω χ) (h : Looked a b) (h' : Looked b c) : Looked a c := by
  obtain ⟨d, hd, hlook, hintact⟩ := h
  obtain ⟨d', hd', hlook', hintact'⟩ := h'
  refine ⟨d ++ d', by rw [hd', hd, List.append_assoc], fun t ht => ?_,
    fun ha => hintact' (hintact ha)⟩
  cases List.mem_append.mp ht with
  | inl ht => exact hlook t ht
  | inr ht => exact hlook' t ht

theorem Looked.called {a b c : Conn ω χ} (h : Looked a b) (h' : Called k b c) :
    Called k a c := by
  obtain ⟨d, hd, hlook, hintact⟩ := h
  intro ha
  obtain ⟨d', last, hd', hlook', hlast⟩ := h' (hintact ha)
  refine ⟨d ++ d', last, by rw [hd', hd, List.append_assoc a.trips], fun t ht => ?_, hlast⟩
  cases List.mem_append.mp ht with
  | inl ht => exact hlook t ht
  | inr ht => exact hlook' t ht

theorem Looked.toCalled {a b : Conn ω χ} (h : Looked a b) : Called k a b := by
  obtain ⟨d, hd, hlook, hintact⟩ := h
  exact fun ha => ⟨d, [], by rw [hd, List.append_nil], hlook, .nothing (hintact ha)⟩

theorem looked_lookups : Lookups k (Looked (ω := ω) (χ := χ)) where
  refl := Looked.refl
  trans := Looked.trans
  quiet c c' _ hsession htrips := .of_same htrips fun h => by rwa [hsession]
  trip purpose reader request hp c := by
    rw [run_exchange]
    refine ⟨_, rfl, fun t ht => ?_, id⟩
    rw [List.mem_singleton.mp ht]
    exact hp
  logon attrs c := .of_same rfl fun _ => nofun
  drain c := .of_same rfl id

theorem called_bind {α β : Type} {x : Op ω χ α} {f : α → Op ω χ β} (hx : Eff.Keeps Looked x)
    (hf : ∀ a, Eff.Keeps (Called k) (f a)) : Eff.Keeps (Called k) (x >>= f) :=
  Eff.Keeps.andThen (fun _ _ _ h h' => h.called h') (fun _ _ h => h.toCalled) hx hf

theorem called_result {α β : Type} {x : Op ω χ α} (h : Eff.Keeps (Called k) x)
    (g : α → Except PyError β) : Eff.Keeps (Called k) (x >>= fun a => Eff.lift (g a)) := by
  intro c
  rw [Eff.run_bind_lift]
  exact h c

theorem called_wrapTransportError {α : Type} {x : Op ω χ α} (h : Eff.Keeps (Called k) x) :
    Eff.Keeps (Called k) (wrapTransportError x) := by
  intro c
  have hx := h c
  rw [run_wrapTransportError]
  cases hr : Eff.run x c with
  | mk r c' =>
    rw [hr] at hx
    cases r with
    | ok a => exact hx
    | error e => exact hx

theorem restored_iff (s : Session) :
    (if s.state = .IN_CALL then { s with state := .READY } else s : Session).state = .BROKEN ↔
      s.state = .BROKEN := by
  split
  · rename_i h
    simp [h]
  · exact Iff.rfl

/-- The end of a method does not take a session out of `BROKEN`, nor bring it there. -/
theorem called_restored {α : Type} {x : Op ω χ α} (h : Eff.Keeps (Called k) x) :
    Eff.Keeps (Called k) (Eff.andFinally x (onSession restore_ready)) := by
  intro c hc
  have hx := h c hc
  rw [Eff.run_andFinally]
  cases hr : Eff.run x c with
  | mk r c' =>
    rw [hr] at hx
    obtain ⟨d, last, hd, hlook, hlast⟩ := hx
    refine ⟨d, last, hd, hlook, ?_⟩
    simp only [run_restore_ready]
    cases hlast with
    | nothing h => exact .nothing fun hb => h ((restored_iff _).mp hb)
    | direct hp h => exact .direct hp fun hb => h ((restored_iff _).mp hb)
    | invoke hp h => exact .invoke hp fun e he => (restored_iff _).trans (h e he)

theorem looked_require_ready (u : Unicode) :
    Eff.Keeps Looked (onSession (require_state u [.READY]) : Op ω χ Unit) := by
  intro c
  unfold onSession
  rw [Eff.run_zoom]
  by_cases h : c.session.state = .READY
  · rw [run_require_ready u h]
    exact .of_same rfl id
  · obtain ⟨e, he⟩ := run_require_ready_refused u h
    rw [he]
    exact .of_same rfl id

theorem looked_mark_in_call (u : Unicode) :
    Eff.Keeps Looked (onSession (mark_in_call u) : Op ω χ Unit) := by
  intro c
  unfold onSession
  rw [Eff.run_zoom]
  by_cases h : c.session.state = .READY
  · rw [run_mark_in_call u h]
    exact .of_same rfl fun _ => nofun
  · obtain ⟨e, he⟩ := run_require_ready_refused u h
    have hrun : Eff.run (mark_in_call u) c.session = (.error e, c.session) := by
      unfold mark_in_call
      rw [Eff.run_bind_error he]
    rw [hrun]
    exact .of_same rfl id

theorem called_in_call {α : Type} {body : Op ω χ α} (h : Eff.Keeps (Called k) body) :
    Eff.Keeps (Called k) (in_call k body) :=
  called_bind (looked_require_ready _) fun _ =>
    called_bind (looked_mark_in_call _) fun _ => called_restored h

/-! ## The calls -/

/-- INTERNAL: an exchange whose request the transport does not take ends with its error. -/
theorem run_exchange_rejected {purpose : Purpose} {reader : Reader} {request : Bytes}
    {c : Conn ω χ} {e : PyError} (h : Rejected k ⟨purpose, reader, request, c.wire⟩ e) :
    (Eff.run (exchange k purpose reader request) c).1 = .error e := by
  rw [run_exchange]
  unfold Seam.round_trip
  unfold Rejected at h
  simp only at h
  rw [Eff.run_bind]
  cases hs : Eff.run (k.seam.send_message request) c.wire with
  | mk r w =>
    rw [hs] at h
    have h : r = .error e := h
    subst h
    rfl

/-- The guarded request of a call. -/
theorem called_guarded_invoke (func_name : PyStr) (request : Bytes) (desc : FunctionDesc)
    (dm_names : List (ℕ × PyStr)) :
    Eff.Keeps (Called k) (guarded_invoke k func_name request desc dm_names) := by
  refine called_result (g := fun result => .ok (convert_date_time_fields k.p result desc)) ?_
  intro c hc
  have hbody := Eff.run_bind_lift (exchange k .invoke (.frames func_name) request)
    (fun resp => parse_invoke_response k.p resp desc dm_names) c
  obtain ⟨-, htrips⟩ := fail_closed_frame k func_name (do
    let tlv_response ← exchange k .invoke (.frames func_name) request
    Eff.lift (parse_invoke_response k.p tlv_response desc dm_names)) c
  refine ⟨[], [⟨.invoke, .frames func_name, request, c.wire⟩], ?_, nofun, .invoke rfl ?_⟩
  · rw [htrips, hbody, run_exchange, List.append_nil]
  · intro e he
    have hraised : (Eff.run (do
        let tlv_response ← exchange k .invoke (.frames func_name) request
        Eff.lift (parse_invoke_response k.p tlv_response desc dm_names)) c).1 = .error e := by
      rw [hbody, run_exchange_rejected he]
      rfl
    constructor
    · intro hbroken
      by_contra hgives
      rw [fail_closed_quiet k (fun e' he' => ?_), hbody, run_exchange] at hbroken
      · exact hc hbroken
      · rw [hraised] at he'
        cases he'
        exact hgives
    · exact fail_closed_broken k hraised

theorem called_async_call (func_name : PyStr) (params : Values V) :
    Eff.Keeps (Called k) (async_call k func_name params) := by
  refine called_in_call (called_bind (looked_lookups.async_function_desc func_name) fun desc => ?_)
  unfold async_invoke
  refine called_bind (looked_lookups (k := k).lift _) fun request_tlv => ?_
  refine called_bind (looked_lookups (k := k).invoke_frame _) fun request => ?_
  exact called_guarded_invoke _ _ _ _

theorem called_invoke_described (func_name : PyStr) (desc : FunctionDesc) (params : Values V) :
    Eff.Keeps (Called k) (invoke_described k func_name desc params) := by
  refine called_bind (looked_lookups (k := k).state) fun c => Eff.Keeps.ite _ ?_ ?_
  · exact called_bind (looked_lookups (k := k).lift _) fun frame => called_guarded_invoke _ _ _ _
  · refine called_bind (looked_lookups (k := k).lift _) fun request_tlv => ?_
    exact called_bind (looked_lookups (k := k).invoke_frame _) fun request =>
      called_guarded_invoke _ _ _ _

theorem called_established_call (func_name : PyStr) (params : Values V) :
    Eff.Keeps (Called k) (established_call k func_name params) :=
  called_in_call (called_wrapTransportError
    (called_bind (looked_lookups.get_function_desc func_name) fun desc =>
      called_invoke_described func_name desc params))

/-! ## The first call over a WebSocket -/

/-- When the program returns, the session is not given up. -/
def ReturnsIntact {α : Type} (x : Op ω χ α) : Prop :=
  ∀ c a c', Eff.run x c = (.ok a, c') → Intact c c'

theorem returnsIntact_bind {α β : Type} {x : Op ω χ α} {f : α → Op ω χ β}
    (hx : Eff.Keeps Looked x) (hf : ∀ a, ReturnsIntact (f a)) : ReturnsIntact (x >>= f) := by
  intro c b c'' h hc
  have hlooked := hx c
  obtain ⟨a, c', hr, h⟩ := Eff.run_bind_eq_ok h
  rw [hr] at hlooked
  obtain ⟨-, -, -, hintact⟩ := hlooked
  exact hf a c' b c'' h (hintact hc)

theorem returnsIntact_guarded_invoke (func_name : PyStr) (request : Bytes) (desc : FunctionDesc)
    (dm_names : List (ℕ × PyStr)) :
    ReturnsIntact (guarded_invoke k func_name request desc dm_names) := by
  intro c result c' h hc
  have h :=
    (Eff.run_bind_lift _ (fun r => .ok (convert_date_time_fields k.p r desc)) c).symm.trans h
  obtain ⟨a, -, hrun⟩ | ⟨e, he, -, hrun⟩ | ⟨e, reason, -, -, hrun⟩ :=
    run_fail_closed k func_name (do
      let tlv_response ← exchange k .invoke (.frames func_name) request
      Eff.lift (parse_invoke_response k.p tlv_response desc dm_names)) c
  · rw [hrun, Eff.run_bind_lift, run_exchange] at h
    obtain rfl : _ = c' := congrArg Prod.snd h
    exact hc
  · rw [hrun, he] at h
    cases congrArg Prod.fst h
  · rw [hrun] at h
    cases congrArg Prod.fst h

theorem returnsIntact_wrapTransportError {α : Type} {x : Op ω χ α} (h : ReturnsIntact x) :
    ReturnsIntact (wrapTransportError x) := by
  intro c a c' hrun
  rw [run_wrapTransportError] at hrun
  cases hr : Eff.run x c with
  | mk r c'' =>
    rw [hr] at hrun
    cases r with
    | error e => cases hrun
    | ok b =>
      cases hrun
      exact h c a c' hr

theorem returnsIntact_invoke_described (func_name : PyStr) (desc : FunctionDesc)
    (params : Values V) : ReturnsIntact (invoke_described k func_name desc params) := by
  refine returnsIntact_bind (looked_lookups (k := k).state) fun c => ?_
  split
  · exact returnsIntact_bind (looked_lookups (k := k).lift _) fun frame =>
      returnsIntact_guarded_invoke _ _ _ _
  · refine returnsIntact_bind (looked_lookups (k := k).lift _) fun request_tlv => ?_
    exact returnsIntact_bind (looked_lookups (k := k).invoke_frame _) fun request =>
      returnsIntact_guarded_invoke _ _ _ _

/-- A call that returns leaves a session that was not given up. -/
theorem established_call_returns (func_name : PyStr) (params : Values V) {c c' : Conn ω χ}
    {result : Values V}
    (h : Eff.run (established_call k func_name params) c = (.ok result, c')) :
    c'.session.state ≠ .BROKEN := by
  have hbody : ReturnsIntact (wrapTransportError (do
      let desc ← get_function_desc k func_name
      invoke_described k func_name desc params)) :=
    returnsIntact_wrapTransportError (returnsIntact_bind
      (looked_lookups.get_function_desc func_name) fun desc =>
        returnsIntact_invoke_described func_name desc params)
  unfold established_call at h
  by_cases hready : c.session.state = .READY
  · rw [run_in_call k _ hready, Eff.run_andFinally] at h
    cases hr : Eff.run (wrapTransportError (do
        let desc ← get_function_desc k func_name
        invoke_described k func_name desc params))
        { c with session := { c.session with state := .IN_CALL } } with
    | mk r c'' =>
      rw [hr] at h
      simp only [run_restore_ready] at h
      cases r with
      | error e => cases congrArg Prod.fst h
      | ok a =>
        obtain rfl : _ = c' := congrArg Prod.snd h
        exact fun hb => hbody _ a c'' hr nofun ((restored_iff _).mp hb)
  · obtain ⟨e, he⟩ := run_in_call_refused k (wrapTransportError (do
      let desc ← get_function_desc k func_name
      invoke_described k func_name desc params)) hready
    rw [he] at h
    cases congrArg Prod.fst h

/-- No trip was made on this stream, and the session was not given up. -/
def Aside (c c' : Conn ω χ) : Prop := c'.trips = c.trips ∧ Intact c c'

theorem aside_take_over {α : Type} (session : Session) {x : Op ω χ α}
    (hx : ∀ c a c', Eff.run x c = (.ok a, c') → c'.session.state ≠ .BROKEN) :
    Eff.Keeps Aside (take_over session x) := by
  intro c
  unfold take_over
  simp only [Eff.run_mk]
  cases hr : Eff.run x (fallback_conn c session) with
  | mk r c' =>
    cases r with
    | ok a => exact ⟨rfl, fun _ => hx _ a c' hr⟩
    | error e => exact ⟨rfl, id⟩

theorem aside_ws_classic_fallback (func_name : PyStr) (desc : FunctionDesc) (params : Values V)
    (attrs : ConnectionAttributes) :
    Eff.Keeps Aside (ws_classic_fallback k func_name desc params attrs) := by
  have refl : ∀ c : Conn ω χ, Aside c c := fun _ => ⟨rfl, id⟩
  have trans : ∀ a b c : Conn ω χ, Aside a b → Aside b c → Aside a c :=
    fun _ _ _ h h' => ⟨h'.1.trans h.1, fun ha => h'.2 (h.2 ha)⟩
  have hauth : Eff.Keeps Aside (require_auth : Op ω χ WsAuth) := by
    unfold require_auth
    refine Eff.Keeps.bind trans (Eff.Keeps.state refl) fun c => ?_
    cases c.ws_auth with
    | some auth => exact Eff.Keeps.pure refl _
    | none => exact Eff.Keeps.throw refl _
  have hclose : Eff.Keeps Aside (attempt (onWire k.seam.close : Op ω χ Unit)) := by
    unfold attempt
    refine Eff.Keeps.tryCatch trans ?_ fun e => ?_
    · exact Eff.Keeps.bind trans (fun c => ⟨rfl, id⟩) fun _ => Eff.Keeps.pure refl _
    · exact Eff.Keeps.ite _ (Eff.Keeps.pure refl _) (Eff.Keeps.throw refl _)
  unfold ws_classic_fallback
  refine Eff.Keeps.bind trans hauth fun auth => Eff.Keeps.bind trans hclose fun _ => ?_
  refine Eff.Keeps.bind trans (fun c => ⟨rfl, id⟩) fun session => ?_
  refine aside_take_over session fun c result c' h => ?_
  obtain ⟨classic_key, c₁, -, h⟩ := Eff.run_bind_eq_ok h
  obtain ⟨_, c₂, -, h⟩ := Eff.run_bind_eq_ok h
  exact established_call_returns func_name params h

theorem Aside.looked {c c' : Conn ω χ} (h : Aside c c') : Looked c c' := .of_same h.1 h.2

/-- The one exchange behind the logon of a built-in function, and nothing given up. -/
def Direct (c c' : Conn ω χ) : Prop :=
  c.session.state ≠ .BROKEN →
    ∃ t : Trip ω, t.purpose = .direct ∧ c'.trips = c.trips ++ [t] ∧ c'.session.state ≠ .BROKEN

theorem Direct.called {a b c : Conn ω χ} (h : Direct a b) (h' : Aside b c) : Called k a c := by
  intro ha
  obtain ⟨t, hp, htrips, hb⟩ := h ha
  exact ⟨[], [t], by rw [h'.1, htrips, List.append_nil], nofun, .direct hp (h'.2 hb)⟩

theorem called_ws_direct_invoke (func_name : PyStr) (desc : FunctionDesc) (params : Values V)
    (attrs : ConnectionAttributes) :
    Eff.Keeps (Called k) (ws_direct_invoke k func_name desc params attrs) := by
  unfold ws_direct_invoke
  refine called_bind (looked_lookups (k := k).lift _) fun invoke_msg => ?_
  refine Eff.Keeps.andThen (R := Direct) (S := Aside) (fun _ _ _ h h' => h.called h')
    (fun _ _ h => h.called ⟨rfl, id⟩) ?_ fun resp => ?_
  · intro c hc
    rw [Eff.run_tryCatch_state]
    · have hbody : Eff.run (do
            let resp ← exchange k .direct (.frames func_name) invoke_msg
            pure (some resp)) c =
          ((Eff.run (exchange k .direct (.frames func_name) invoke_msg) c).1.bind
            fun resp => .ok (some resp),
            (Eff.run (exchange k .direct (.frames func_name) invoke_msg) c).2) :=
        Eff.run_bind_lift _ (fun resp => .ok (some resp)) c
      rw [hbody, run_exchange]
      exact ⟨_, rfl, rfl, hc⟩
    · intro e s
      split
      · rfl
      · split <;> rfl
  · cases resp with
    | none => exact aside_ws_classic_fallback _ _ _ _
    | some resp =>
      intro c
      rw [Eff.run_bind]
      cases hr : parse_invoke_response k.p resp desc [] <;> exact ⟨rfl, id⟩

theorem called_ws_direct_logon_call (func_name : PyStr) (desc : FunctionDesc)
    (params : Values V) :
    Eff.Keeps (Called k) (ws_direct_logon_call k func_name desc params) := by
  have h := looked_lookups (k := k)
  have hfallback : ∀ attrs, Eff.Keeps (Called k)
      (ws_classic_fallback k func_name desc params attrs) :=
    fun attrs c => (aside_ws_classic_fallback func_name desc params attrs c).looked.toCalled
  unfold ws_direct_logon_call
  refine called_bind (h.wrapTransportError h.ws_logon_trip) fun logon_resp => ?_
  refine called_bind (h.lift _) fun attrs_ws => called_bind (h.lift _) fun failure => ?_
  refine Eff.Keeps.ite _ (hfallback _) (called_bind h.drain fun closed => ?_)
  refine Eff.Keeps.ite _ (hfallback _) (called_bind (h.logon _) fun _ => ?_)
  refine called_bind h.metadata_cache_key fun ws_key => ?_
  exact called_bind (h.cache_fill _ _) fun _ => called_ws_direct_invoke _ _ _ _

theorem called_pending_call (func_name : PyStr) (params : Values V) :
    Eff.Keeps (Called k) (pending_call k func_name params) := by
  refine called_restored (called_wrapTransportError ?_)
  split
  · exact called_ws_direct_logon_call _ _ _
  · refine called_bind (looked_lookups.get_function_desc func_name) fun desc => ?_
    exact called_bind (looked_mark_in_call _) fun _ => called_invoke_described _ _ _

theorem called_call (delegated : Bool) (func_name : PyStr) (params : Values V) :
    Eff.Keeps (Called k) (call k delegated func_name params) := by
  unfold call
  refine Eff.Keeps.ite _ (called_async_call _ _) ?_
  refine called_bind (looked_lookups (k := k).state) fun c => ?_
  exact Eff.Keeps.ite _ (called_pending_call _ _) (called_established_call _ _)

/-- A session that was given up refuses every call, and nothing is sent. -/
theorem run_call_broken (delegated : Bool) (func_name : PyStr) (params : Values V)
    {c : Conn ω χ} (h : c.session.state = .BROKEN) :
    ∃ e, Eff.run (call k delegated func_name params) c = (.error e, c) := by
  have hne : c.session.state ≠ .READY := by
    rw [h]
    nofun
  unfold call
  cases delegated with
  | true => exact run_in_call_refused k _ hne
  | false =>
    have hpending : ¬ (c.is_ws = true ∧ c.session.state = .WS_PENDING) := by
      rw [h]
      nofun
    unfold sync_call
    rw [if_neg Bool.false_ne_true, Eff.run_bind]
    simp only [Eff.run_state, if_neg hpending]
    exact run_in_call_refused k _ hne

/-! ## When a call fails closed -/

theorem not_lookup_of_invoke {p : Purpose} (h : p = .invoke ∨ p = .direct) : ¬ IsLookup p := by
  rintro (rfl | rfl | rfl) <;> simp at h

/-- A call does what it should exactly when no lookup of it loses its reply, or when the
transport does not take its request and raises what the guard gives the connection up at. -/
theorem bootstrap_fails_closed_iff (delegated : Bool) (func_name : PyStr) (params : Values V)
    (c : Conn ω χ) :
    BootstrapFailsClosed k (tripsOf (call k delegated func_name params) c)
        (Eff.run (call k delegated func_name params) c).2 ↔
      (¬ ∃ t ∈ tripsOf (call k delegated func_name params) c, IsLookup t.purpose ∧ Lost k t) ∨
        ∃ t ∈ tripsOf (call k delegated func_name params) c, t.purpose = .invoke ∧
          ∃ e, Rejected k t e ∧ GivesUp e := by
  by_cases hbroken : c.session.state = .BROKEN
  · obtain ⟨e, he⟩ := run_call_broken (k := k) delegated func_name params hbroken
    have hnone : tripsOf (call k delegated func_name params) c = [] := by
      unfold tripsOf
      rw [he]
      simp
    rw [hnone]
    exact ⟨fun _ => .inl (by simp), fun _ ⟨t, ht, _⟩ => by simp at ht⟩
  · obtain ⟨d, last, htrips, hlook, hlast⟩ :=
      called_call (k := k) delegated func_name params c hbroken
    have hof : tripsOf (call k delegated func_name params) c = d ++ last := by
      unfold tripsOf
      rw [htrips, List.append_assoc, List.drop_left]
    rw [hof]
    constructor
    · intro hcloses
      by_contra hneither
      obtain ⟨hlost, hnone⟩ := not_or.mp hneither
      obtain ⟨hstate, hunsent⟩ := hcloses (not_not.mp hlost)
      cases hlast with
      | nothing h => exact h hstate
      | direct hp h => exact h hstate
      | @invoke t hp h =>
        have hmem : t ∈ d ++ [t] := by simp
        have hrejected := hunsent t hmem (.inl hp)
        cases hs : (Eff.run (k.seam.send_message t.request) t.before).1 with
        | ok _ => exact hrejected hs
        | error e => exact hnone ⟨t, hmem, hp, e, hs, (h e hs).mp hstate⟩
    · rintro (hnone | ⟨t, ht, hp, e, he, hgives⟩) hlost
      · exact absurd hlost hnone
      · have hnot : t ∉ d := fun hd => not_lookup_of_invoke (.inl hp) (hlook t hd)
        have ht := (List.mem_append.mp ht).resolve_left hnot
        cases hlast with
        | nothing h => cases ht
        | direct hp' h =>
          rw [List.mem_singleton.mp ht, hp'] at hp
          cases hp
        | invoke hp' h =>
          obtain rfl := List.mem_singleton.mp ht
          refine ⟨(h e he).mpr hgives, fun t' ht' hp' hsent => ?_⟩
          have hnot' : t' ∉ d := fun hd => not_lookup_of_invoke hp' (hlook t' hd)
          obtain rfl := List.mem_singleton.mp ((List.mem_append.mp ht').resolve_left hnot')
          unfold Rejected at he
          unfold Sent at hsent
          rw [he] at hsent
          cases hsent

/-! ## The run of a structure lookup that times out -/

/-- A text column of a row, padded with blanks. -/
def column (s : String) (width : ℕ) : Bytes :=
  (lit s ++ List.replicate (width - s.length) 32).flatMap utf16Unit

/-- The row of an importing parameter of a structure type. -/
def structureRow : Bytes :=
  column "I" 1 ++ column "WHAT" 30 ++ column "ZWHAT" 30 ++ column "" 30 ++ column "u" 1 ++
    List.replicate 16 0 ++ column "" 101

/-- A message of one record and the end of the stream. -/
def oneRecord (tag : ℕ) (value : Bytes) : Bytes :=
  let tlv := Records.encode tag value ++ [0xFF, 0xFF, 0, 0, 0xFF, 0xFF]
  toBE 4 tlv.length ++ tlv

/-- The interface names one structure, whose lookup times out when it was sent; every
request is answered. -/
def timedOutLookup : Conn (Wire (List Bytes)) Tables :=
  readyConn (Wire.connect [oneRecord Tag.TABLE_CONTENT structureRow,
      oneRecord Tag.RETURN_CODE [0, 0, 0, 0], oneRecord Tag.RETURN_CODE [0, 0, 0, 0]]
    [[], [.proceed, .refuse (err .timeout [])]]) Tables.empty

/-- The call goes on, returns, and the session is `READY`. -/
theorem swallowed_lookup_not_closed :
    ¬ BootstrapFailsClosed (plainClient (scriptLink id) 0).toClient
      (tripsOf (call (plainClient (scriptLink id) 0).toClient false (lit "Z_READ") [])
        timedOutLookup)
      (Eff.run (call (plainClient (scriptLink id) 0).toClient false (lit "Z_READ") [])
        timedOutLookup).2 := by
  intro h
  have hstate := (h (by decide +kernel)).1
  exact absurd hstate (by decide +kernel)

end SapRfc.Analysis.Bootstrap
