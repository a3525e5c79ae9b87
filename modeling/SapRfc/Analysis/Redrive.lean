import SapRfc.Program.Parking
import SapRfc.Program.SyncConnection

/-!
# Sending a parked payload again

What is parked is the frame of the request, header and all, and it is sent again as it is.  So
every frame of a re-drive carries the handle of the connection it was built for: that of the
connection which sends it exactly when the two have the same handle.
-/

set_option autoImplicit false

namespace SapRfc.Analysis.Redrive

open SapRfc.Library SapRfc.Program

variable {ι ω χ V : Type}

/-! ## Stores that keep what is parked -/

/-- What a program adds to the parked payloads, at most. -/
def Adds (view : χ → ParkKey → Option Bytes) (new : ParkKey → Bytes → Prop) (g g' : χ) : Prop :=
  ∀ key payload, view g' key = some payload → view g key = some payload ∨ new key payload

/-- Stores that give back what was parked, and park nothing of their own. -/
structure ParksIn (tids : TidStore χ) (units : UnitStore χ) (view : χ → ParkKey → Option Bytes) :
    Prop where
  tid_park : ∀ tid payload g, Adds view (fun key b => key = .tid tid ∧ b = payload) g
    (Eff.run (tids.park tid payload) g).2
  tid_get : ∀ tid g payload, (Eff.run (tids.get_parked tid) g).1 = .ok (some payload) →
    view g (.tid tid) = some payload
  tid_get_adds : ∀ tid g, Adds view (fun _ _ => False) g (Eff.run (tids.get_parked tid) g).2
  tid_delete : ∀ tid g, Adds view (fun _ _ => False) g (Eff.run (tids.delete_parked tid) g).2
  unit_park : ∀ uid unit_type payload g,
    Adds view (fun key b => key = .unit uid unit_type ∧ b = payload) g
      (Eff.run (units.park uid unit_type payload) g).2
  unit_get : ∀ uid unit_type g payload,
    (Eff.run (units.get_parked uid unit_type) g).1 = .ok (some payload) →
      view g (.unit uid unit_type) = some payload
  unit_get_adds : ∀ uid unit_type g,
    Adds view (fun _ _ => False) g (Eff.run (units.get_parked uid unit_type) g).2
  unit_delete : ∀ uid unit_type g,
    Adds view (fun _ _ => False) g (Eff.run (units.delete_parked uid unit_type) g).2

section Adds

variable {view : χ → ParkKey → Option Bytes} {new : ParkKey → Bytes → Prop}

theorem Adds.refl (g : χ) : Adds view new g g := fun _ _ h => .inl h

theorem Adds.trans {a b c : χ} (hab : Adds view new a b) (hbc : Adds view new b c) :
    Adds view new a c := by
  intro key payload h
  rcases hbc key payload h with hb | hnew
  · exact hab key payload hb
  · exact .inr hnew

theorem Adds.mono {new' : ParkKey → Bytes → Prop} {g g' : χ} (h : Adds view new g g')
    (hsub : ∀ key b, new key b → new' key b) : Adds view new' g g' :=
  fun key payload hp => (h key payload hp).imp id (hsub key payload)

end Adds

/-- The payloads that the tables in memory hold. -/
def tablesView (t : Tables) : ParkKey → Option Bytes
  | .tid tid => t.1.parked tid
  | .unit unit_id unit_type => t.2.parked (unit_id, unit_type)

/-- INTERNAL: one entry of a dict. -/
theorem dictPut_eq_some {α β : Type} [DecidableEq α] {d : α → Option β} {key k : α}
    {value : Option β} {b : β} (h : dictPut d key value k = some b) :
    d k = some b ∨ (k = key ∧ value = some b) := by
  unfold dictPut at h
  split at h
  next heq => exact .inr ⟨heq, h⟩
  next => exact .inl h

/-- The stores in memory do. -/
theorem tables_park : ParksIn tablesTidStore tablesUnitStore tablesView where
  tid_park tid payload g := by
    intro key b h
    cases key with
    | unit uid unit_type => exact .inl h
    | tid tid' =>
      refine (dictPut_eq_some h).imp id fun hput => ?_
      exact ⟨congrArg ParkKey.tid hput.1, (Option.some.inj hput.2).symm⟩
  tid_get tid g payload h := Except.ok.inj h
  tid_get_adds tid g := Adds.refl g
  tid_delete tid g := by
    intro key b h
    cases key with
    | unit uid unit_type => exact .inl h
    | tid tid' => exact (dictPut_eq_some h).imp id fun hput => nomatch hput.2
  unit_park uid unit_type payload g := by
    intro key b h
    cases key with
    | tid tid => exact .inl h
    | unit uid' unit_type' =>
      refine (dictPut_eq_some h).imp id fun hput => ?_
      obtain ⟨rfl, rfl⟩ := Prod.mk.inj hput.1
      exact ⟨rfl, (Option.some.inj hput.2).symm⟩
  unit_get uid unit_type g payload h := Except.ok.inj h
  unit_get_adds uid unit_type g := Adds.refl g
  unit_delete uid unit_type g := by
    intro key b h
    cases key with
    | tid tid => exact .inl h
    | unit uid' unit_type' => exact (dictPut_eq_some h).imp id fun hput => nomatch hput.2

/-! ## What a submission sends -/

/-- A method sends requests of one kind only, parks such requests under one key, and leaves the
handle alone. -/
structure Sends (view : χ → ParkKey → Option Bytes) (key : ParkKey) (P : Bytes → Prop)
    (c c' : Conn ω χ) : Prop where
  handle : c'.session.handle = c.session.handle
  trips : ∃ new, c'.trips = c.trips ++ new ∧ ∀ t ∈ new, P t.request
  parked : Adds view (fun key' b => key' = key ∧ P b) c.user c'.user

section Sends

variable {view : χ → ParkKey → Option Bytes} {key : ParkKey} {P : Bytes → Prop}

theorem Sends.refl (c : Conn ω χ) : Sends view key P c c :=
  ⟨rfl, ⟨[], (List.append_nil _).symm, nofun⟩, Adds.refl _⟩

theorem Sends.trans (a b c : Conn ω χ) (hab : Sends view key P a b) (hbc : Sends view key P b c) :
    Sends view key P a c := by
  obtain ⟨first, hfirst, hall⟩ := hab.trips
  obtain ⟨second, hsecond, hall'⟩ := hbc.trips
  refine ⟨hbc.handle.trans hab.handle, ⟨first ++ second, ?_, ?_⟩, hab.parked.trans hbc.parked⟩
  · rw [hsecond, hfirst, List.append_assoc]
  · intro t ht
    rcases List.mem_append.mp ht with h | h
    · exact hall t h
    · exact hall' t h

/-- Nothing is sent and nothing is parked. -/
theorem Sends.of_same {c c' : Conn ω χ} (hhandle : c'.session.handle = c.session.handle)
    (htrips : c'.trips = c.trips) (hparked : Adds view (fun _ _ => False) c.user c'.user) :
    Sends view key P c c' :=
  ⟨hhandle, ⟨[], htrips.trans (List.append_nil _).symm, nofun⟩,
    hparked.mono fun _ _ h => h.elim⟩

end Sends

variable {view : χ → ParkKey → Option Bytes} {key : ParkKey} {P : Bytes → Prop}
  {tids : TidStore χ} {units : UnitStore χ} (k : Client ω χ V)

theorem sends_onWire {α : Type} (x : Eff PyError ω α) :
    Eff.Keeps (Sends view key P) (onWire x : Op ω χ α) :=
  fun _ => Sends.of_same rfl rfl (Adds.refl _)

/-- INTERNAL: one attempt; it does nothing to the stores. -/
theorem do_send_sends {request : Bytes} (hrequest : P request) (func_name : PyStr)
    (c : Conn ω χ) : Sends view key P c (Eff.run (do_send k request func_name) c).2 ∧
      (Eff.run (do_send k request func_name) c).2.user = c.user := by
  have hstate : (Eff.run (do_send k request func_name) c).2 =
      { c with
        wire := (Eff.run (k.seam.round_trip (.frames func_name) request) c.wire).2
        trips := c.trips ++ [⟨.submit, .frames func_name, request, c.wire⟩] } := by
    unfold do_send
    rw [Eff.run_bind_lift]
    dsimp only
    rw [run_wrapTransportError, run_exchange]
    cases (Eff.run (k.seam.round_trip (.frames func_name) request) c.wire).1
    · rfl
    · rfl
  rw [hstate]
  refine ⟨⟨rfl, ⟨_, rfl, fun t ht => ?_⟩, Adds.refl _⟩, rfl⟩
  rw [List.mem_singleton.mp ht]
  exact hrequest

variable {k}

/-- INTERNAL: a client that keeps its payloads in these stores, or in none. -/
structure StoredIn (k : Client ω χ V) (tids : TidStore χ) (units : UnitStore χ) : Prop where
  tid_store : k.tid_store = none ∨ k.tid_store = some tids
  unit_store : k.unit_store = none ∨ k.unit_store = some units

theorem sends_store_park (law : ParksIn tids units view) (hk : StoredIn k tids units)
    {payload : Bytes} (hpayload : P payload) :
    Eff.Keeps (Sends view key P) (store_park k key payload) := by
  intro c
  have hadds : ∀ {g g' : χ}, Adds view (fun key' b => key' = key ∧ b = payload) g g' →
      Adds view (fun key' b => key' = key ∧ P b) g g' :=
    fun h => h.mono fun key' b hb => ⟨hb.1, hb.2 ▸ hpayload⟩
  unfold store_park
  cases key with
  | tid tid =>
    rcases hk.tid_store with hnone | hsome
    · rw [hnone]
      exact Sends.refl c
    · rw [hsome]
      exact ⟨rfl, ⟨[], (List.append_nil _).symm, nofun⟩, hadds (law.tid_park tid payload c.user)⟩
  | unit unit_id unit_type =>
    rcases hk.unit_store with hnone | hsome
    · rw [hnone]
      exact Sends.refl c
    · rw [hsome]
      exact ⟨rfl, ⟨[], (List.append_nil _).symm, nofun⟩,
        hadds (law.unit_park unit_id unit_type payload c.user)⟩

/-- A program that sends and parks requests of one kind, and parks none where it returns. -/
def Delivers (view : χ → ParkKey → Option Bytes) (key : ParkKey) (P : Bytes → Prop)
    (x : Op ω χ Unit) : Prop :=
  ∀ c, Sends view key P c (Eff.run x c).2 ∧
    ((Eff.run x c).1 = .ok () → Adds view (fun _ _ => False) c.user (Eff.run x c).2.user)

theorem Delivers.of_error {x : Op ω χ Unit} {c : Conn ω χ} {e : PyError}
    (h : Eff.run x c = (.error e, c)) : Sends view key P c (Eff.run x c).2 ∧
      ((Eff.run x c).1 = .ok () → Adds view (fun _ _ => False) c.user (Eff.run x c).2.user) := by
  rw [h]
  exact ⟨Sends.refl c, fun hok => nomatch hok⟩

/-- INTERNAL: a program that always raises parks what it likes. -/
theorem Delivers.throws {x : Op ω χ Unit} (hsends : Eff.Keeps (Sends view key P) x)
    (h : ∀ c, (Eff.run x c).1 ≠ .ok ()) : Delivers view key P x :=
  fun c => ⟨hsends c, fun hok => absurd hok (h c)⟩

theorem Delivers.throw (e : PyError) : Delivers view key P (throw e : Op ω χ Unit) :=
  .throws (fun c => Sends.refl c) fun _ hok => nomatch hok

theorem Delivers.ite (cond : Prop) [Decidable cond] {x y : Op ω χ Unit}
    (hx : Delivers view key P x) (hy : Delivers view key P y) :
    Delivers view key P (if cond then x else y) := by
  split
  · exact hx
  · exact hy

/-- INTERNAL: an attempt does nothing to the stores, so its handler decides. -/
theorem Delivers.tryCatch {x : Op ω χ Unit} {handler : PyError → Op ω χ Unit}
    (hx : ∀ c, Sends view key P c (Eff.run x c).2 ∧ (Eff.run x c).2.user = c.user)
    (h : ∀ e, Delivers view key P (handler e)) :
    Delivers view key P (tryCatch x handler) := by
  intro c
  obtain ⟨hsends, huser⟩ := hx c
  rw [Eff.run_tryCatch]
  cases hrun : Eff.run x c with
  | mk r c' =>
    rw [hrun] at hsends huser
    cases r with
    | ok _ => exact ⟨hsends, fun _ => huser ▸ Adds.refl _⟩
    | error e =>
      obtain ⟨hrest, hquiet⟩ := h e c'
      rw [huser] at hquiet
      exact ⟨hsends.trans _ _ _ hrest, hquiet⟩

/-- INTERNAL: a pause sends nothing. -/
theorem Delivers.sleep_bind {f : Unit → Op ω χ Unit} (h : ∀ a, Delivers view key P (f a)) :
    Delivers view key P (onWire k.seam.sleep >>= f) := by
  intro c
  have hsleep : Sends view key P c (Eff.run (onWire k.seam.sleep : Op ω χ Unit) c).2 :=
    sends_onWire k.seam.sleep c
  have huser : (Eff.run (onWire k.seam.sleep : Op ω χ Unit) c).2.user = c.user := rfl
  rw [Eff.run_bind]
  cases hrun : Eff.run (onWire k.seam.sleep : Op ω χ Unit) c with
  | mk r c' =>
    rw [hrun] at hsleep huser
    cases r with
    | error e => exact ⟨hsleep, fun hok => nomatch hok⟩
    | ok a =>
      obtain ⟨hrest, hquiet⟩ := h a c'
      rw [huser] at hquiet
      exact ⟨hsleep.trans _ _ _ hrest, hquiet⟩

/-- The attempts, by induction on those that are left. -/
theorem submit_with_retry_delivers (law : ParksIn tids units view) (hk : StoredIn k tids units)
    {request : Bytes} (hrequest : P request) (func_name : PyStr) : ∀ left,
      Delivers view key P
        (submit_with_retry k key request (do_send k request func_name) left) := by
  intro left
  induction left with
  | zero =>
    refine .tryCatch (do_send_sends k hrequest func_name) fun exc => .ite _ ?_ (.throw exc)
    refine .throws (Eff.Keeps.bind Sends.trans (sends_store_park law hk hrequest)
      fun _ => Eff.Keeps.throw Sends.refl _) fun c hok => ?_
    obtain ⟨_, _, -, hthrow⟩ := Eff.run_bind_eq_ok (Prod.ext hok rfl)
    cases hthrow
  | succ left ih =>
    exact .tryCatch (do_send_sends k hrequest func_name) fun exc =>
      .ite _ (.sleep_bind fun _ => ih) (.throw exc)

/-- The guards of a method hide nothing. -/
theorem in_call_delivers {body : Op ω χ Unit} (c : Conn ω χ)
    (h : ∀ c', c'.session.handle = c.session.handle → c'.user = c.user → c'.trips = c.trips →
      Sends view key P c' (Eff.run body c').2 ∧ ((Eff.run body c').1 = .ok () →
        Adds view (fun _ _ => False) c'.user (Eff.run body c').2.user)) :
    Sends view key P c (Eff.run (in_call k body) c).2 ∧ ((Eff.run (in_call k body) c).1 = .ok () →
      Adds view (fun _ _ => False) c.user (Eff.run (in_call k body) c).2.user) := by
  by_cases hready : c.session.state = .READY
  · obtain ⟨hsends, hquiet⟩ :=
      h { c with session := { c.session with state := .IN_CALL } } rfl rfl rfl
    rw [run_in_call k body hready, Eff.run_andFinally]
    cases hrun : Eff.run body { c with session := { c.session with state := .IN_CALL } } with
    | mk r c' =>
      rw [hrun] at hsends hquiet
      dsimp only
      rw [run_restore_ready]
      refine ⟨⟨?_, hsends.trips, hsends.parked⟩, hquiet⟩
      refine Eq.trans ?_ hsends.handle
      dsimp only
      split <;> rfl
  · obtain ⟨e, he⟩ := run_in_call_refused k body hready
    exact Delivers.of_error he

/-- The frame of a request on a connection. -/
def Framed (session : Session) (request : Except PyError Bytes) (frame : Bytes) : Prop :=
  ∃ tlv, request = .ok tlv ∧ build_invoke_frame session.sendHandle tlv = .ok frame

/-- INTERNAL: the handle alone counts. -/
theorem run_invoke_frame (tlv : Bytes) (c : Conn ω χ) :
    Eff.run (invoke_frame tlv) c = (build_invoke_frame c.session.sendHandle tlv, c) := rfl

theorem sendHandle_congr {s s' : Session} (h : s'.handle = s.handle) :
    s'.sendHandle = s.sendHandle := by
  unfold Session.sendHandle
  rw [h]

/-- A submission sends and parks the frame of its request on its own connection. -/
theorem async_submit_delivers (law : ParksIn tids units view) (hk : StoredIn k tids units)
    (key : ParkKey) (build : Except PyError Bytes) (func_name : PyStr) (c : Conn ω χ) :
    Sends view key (Framed c.session build) c (Eff.run (async_submit k key build func_name) c).2 ∧
      ((Eff.run (async_submit k key build func_name) c).1 = .ok () →
        Adds view (fun _ _ => False) c.user
          (Eff.run (async_submit k key build func_name) c).2.user) := by
  refine in_call_delivers c fun c' hhandle _ _ => ?_
  cases hbuild : build with
  | error e => exact Delivers.of_error rfl
  | ok tlv =>
    rw [Eff.run_bind_ok (Eff.run_lift _ _), Eff.run_bind, run_invoke_frame]
    cases hframe : build_invoke_frame c'.session.sendHandle tlv with
    | error e => exact ⟨Sends.refl c', fun hok => nomatch hok⟩
    | ok frame =>
      rw [sendHandle_congr hhandle] at hframe
      exact submit_with_retry_delivers law hk ⟨tlv, rfl, hframe⟩ func_name _ c'

/-- A re-drive sends and parks what the store holds. -/
theorem async_resend_delivers (law : ParksIn tids units view) (hk : StoredIn k tids units)
    {payload : Bytes} (hpayload : P payload) (func_name : PyStr) :
    Delivers view key P (async_resend k key payload func_name) := fun c =>
  in_call_delivers c fun c' _ _ _ => submit_with_retry_delivers law hk hpayload func_name _ c'

/-- INTERNAL: the payload is read, sent, and deleted. -/
theorem redrive_sends (law : ParksIn tids units view) (hk : StoredIn k tids units)
    {get : Eff PyError χ (Option Bytes)} {delete : Eff PyError χ Unit} {missing : PyError}
    (func_name : PyStr) (c : Conn ω χ)
    (hget : ∀ payload, (Eff.run get c.user).1 = .ok (some payload) → view c.user key = some payload)
    (hkeeps : Adds view (fun _ _ => False) c.user (Eff.run get c.user).2)
    (hdelete : ∀ g, Adds view (fun _ _ => False) g (Eff.run delete g).2) :
    Sends view key (fun b => view c.user key = some b) c
      (Eff.run (do
        let payload ← onStore get
        match payload with
        | none => throw missing
        | some payload => do
          async_resend k key payload func_name
          onStore delete) c).2 := by
  have hread : Sends view key (fun b => view c.user key = some b) c
      (Eff.run (onStore get : Op ω χ (Option Bytes)) c).2 := Sends.of_same rfl rfl hkeeps
  rw [Eff.run_bind]
  unfold onStore at hread ⊢
  rw [Eff.run_zoom] at hread ⊢
  cases hrun : Eff.run get c.user with
  | mk r g =>
    rw [hrun] at hread hget
    cases r with
    | error e => exact hread
    | ok payload =>
      cases payload with
      | none => exact hread
      | some payload =>
        have hparked := hget payload rfl
        refine hread.trans _ _ _ ?_
        have hresend : Delivers view key (fun b => view c.user key = some b)
            (async_resend k key payload func_name) := async_resend_delivers law hk hparked func_name
        have hkept : Eff.Keeps (Sends view key fun b => view c.user key = some b)
            (async_resend k key payload func_name >>= fun _ => onStore delete) :=
          Eff.Keeps.bind Sends.trans (fun c' => (hresend c').1) fun _ c' =>
            Sends.of_same rfl rfl (hdelete c'.user)
        exact hkept _

theorem async_retry_parked_sends (law : ParksIn tids units view) (hk : StoredIn k tids units)
    (tid : PyStr) (c : Conn ω χ) :
    Sends view (.tid tid) (fun b => view c.user (.tid tid) = some b) c
      (Eff.run (async_retry_parked k tid) c).2 := by
  unfold async_retry_parked
  rcases hk.tid_store with hnone | hsome
  · rw [hnone]
    exact Sends.refl c
  · rw [hsome]
    exact redrive_sends law hk _ c (law.tid_get tid c.user) (law.tid_get_adds tid c.user)
      (law.tid_delete tid)

theorem async_retry_parked_unit_sends (law : ParksIn tids units view)
    (hk : StoredIn k tids units) (unit_id unit_type : PyStr) (c : Conn ω χ) :
    Sends view (.unit unit_id unit_type) (fun b => view c.user (.unit unit_id unit_type) = some b) c
      (Eff.run (async_retry_parked_unit k unit_id unit_type) c).2 := by
  unfold async_retry_parked_unit
  rcases hk.unit_store with hnone | hsome
  · rw [hnone]
    exact Sends.refl c
  · rw [hsome]
    exact redrive_sends law hk _ c (law.unit_get unit_id unit_type c.user)
      (law.unit_get_adds unit_id unit_type c.user) (law.unit_delete unit_id unit_type)

/-! ## Runs -/

/-- SOURCE: session.py:259-270.  A handle is cut out of a reply: it has eight bytes. -/
def EightBytes (session : Session) : Prop := ∀ h, session.handle = some h → h.length = 8

theorem length_sendHandle {session : Session} (h : EightBytes session) :
    session.sendHandle.length = 8 := by
  unfold Session.sendHandle
  split
  next b bs heq => exact h _ heq
  next => rfl

/-- A submission that failed, and the frame that it parked. -/
structure Parked [DecidableEq ι] (k : ι → Client ω χ V)
    (d : Step (Fleet ι ω χ) (FleetCall ι ω χ) (Performed ω)) (key : ParkKey) (frame : Bytes) :
    Prop where
  submits : d.input.submits = some key
  failed : d.output.result ≠ .ok ()
  frame : Framed d.output.session (d.input.request k) frame
  handle : EightBytes d.output.session

/-- What is parked has been parked by a submission. -/
structure Traced [DecidableEq ι] (k : ι → Client ω χ V) (view : χ → ParkKey → Option Bytes)
    (done : List (Step (Fleet ι ω χ) (FleetCall ι ω χ) (Performed ω))) (w : Fleet ι ω χ) :
    Prop where
  handles : ∀ i, EightBytes (w.conns i).session
  parked : ∀ key frame, view w.shared key = some frame → ∃ d ∈ done, Parked k d key frame

section Run

variable [DecidableEq ι] {k : ι → Client ω χ V}

/-- INTERNAL: what is sent in a step, and what is behind it. -/
theorem perform_spec {i : ι} {x : Op ω χ Unit} {w : Fleet ι ω χ}
    (h : Sends view key P { w.conns i with user := w.shared }
      (Eff.run x { w.conns i with user := w.shared }).2) :
    (∀ t ∈ (w.perform i x).1.sent, P t.request) ∧
      (∀ j, ((w.perform i x).2.conns j).session.handle = (w.conns j).session.handle) ∧
      Adds view (fun key' b => key' = key ∧ P b) w.shared (w.perform i x).2.shared := by
  obtain ⟨new, hnew, hall⟩ := h.trips
  refine ⟨fun t ht => ?_, fun j => ?_, h.parked⟩
  · have hsent : (w.perform i x).1.sent = new := by
      unfold Fleet.perform
      dsimp only
      rw [hnew, List.drop_left]
    rw [hsent] at ht
    exact hall t ht
  · unfold Fleet.perform
    dsimp only
    by_cases hj : j = i
    · rw [hj, Function.update_self]
      exact h.handle
    · rw [Function.update_of_ne hj]

/-- INTERNAL: a submission keeps the account. -/
theorem traced_submit {done : List (Step (Fleet ι ω χ) (FleetCall ι ω χ) (Performed ω))}
    {w : Fleet ι ω χ} (htraced : Traced k view done w) {call : FleetCall ι ω χ} {i : ι}
    {x : Op ω χ Unit} (hcall : fleetStep k call w = w.perform i x) (hkey : call.submits = some key)
    (hx : Sends view key (Framed (w.conns i).session (call.request k))
        { w.conns i with user := w.shared } (Eff.run x { w.conns i with user := w.shared }).2 ∧
      ((Eff.run x { w.conns i with user := w.shared }).1 = .ok () →
        Adds view (fun _ _ => False) w.shared
          (Eff.run x { w.conns i with user := w.shared }).2.user)) :
    Traced k view (done ++ [Run.stepOf (fleetStep k) call w])
      (Run.stepOf (fleetStep k) call w).after := by
  obtain ⟨hsends, hquiet⟩ := hx
  obtain ⟨-, hhandles, hadds⟩ := perform_spec hsends
  have hafter : (Run.stepOf (fleetStep k) call w).after = (w.perform i x).2 :=
    congrArg Prod.snd hcall
  have houtput : (Run.stepOf (fleetStep k) call w).output = (w.perform i x).1 :=
    congrArg Prod.fst hcall
  rw [hafter]
  constructor
  · intro j h hj
    rw [hhandles] at hj
    exact htraced.handles j h hj
  · intro key' frame hframe
    by_cases hok : (w.perform i x).1.result = .ok ()
    · rcases hquiet hok key' frame hframe with hold | hnone
      · obtain ⟨d, hd, hparked⟩ := htraced.parked key' frame hold
        exact ⟨d, List.mem_append_left _ hd, hparked⟩
      · exact hnone.elim
    · rcases hadds key' frame hframe with hold | ⟨rfl, hnew⟩
      · obtain ⟨d, hd, hparked⟩ := htraced.parked key' frame hold
        exact ⟨d, List.mem_append_left _ hd, hparked⟩
      · refine ⟨_, List.mem_append_right _ List.mem_cons_self, hkey, ?_, ?_, ?_⟩
        · rw [houtput]
          exact hok
        · rw [houtput]
          exact hnew
        · rw [houtput]
          exact htraced.handles i

/-- INTERNAL: a re-drive keeps the account, and sends what is on it. -/
theorem traced_redrive {done : List (Step (Fleet ι ω χ) (FleetCall ι ω χ) (Performed ω))}
    {w : Fleet ι ω χ} (htraced : Traced k view done w) {call : FleetCall ι ω χ} {i : ι}
    {x : Op ω χ Unit} (hcall : fleetStep k call w = w.perform i x)
    (hx : Sends view key (fun b => view w.shared key = some b)
      { w.conns i with user := w.shared } (Eff.run x { w.conns i with user := w.shared }).2) :
    Traced k view (done ++ [Run.stepOf (fleetStep k) call w])
        (Run.stepOf (fleetStep k) call w).after ∧
      ∀ t ∈ (Run.stepOf (fleetStep k) call w).output.sent, view w.shared key = some t.request := by
  obtain ⟨hsent, hhandles, hadds⟩ := perform_spec hx
  have hafter : (Run.stepOf (fleetStep k) call w).after = (w.perform i x).2 :=
    congrArg Prod.snd hcall
  have houtput : (Run.stepOf (fleetStep k) call w).output = (w.perform i x).1 :=
    congrArg Prod.fst hcall
  rw [hafter, houtput]
  refine ⟨⟨fun j h hj => ?_, fun key' frame hframe => ?_⟩, hsent⟩
  · rw [hhandles] at hj
    exact htraced.handles j h hj
  · have hold : view w.shared key' = some frame := by
      rcases hadds key' frame hframe with hold | ⟨rfl, hnew⟩
      · exact hold
      · exact hnew
    obtain ⟨d, hd, hparked⟩ := htraced.parked key' frame hold
    exact ⟨d, List.mem_append_left _ hd, hparked⟩

/-- INTERNAL: a connection that is opened. -/
theorem traced_opened {done : List (Step (Fleet ι ω χ) (FleetCall ι ω χ) (Performed ω))}
    {w : Fleet ι ω χ} (htraced : Traced k view done w) {i : ι} {c : Conn ω χ}
    (hc : EightBytes c.session) :
    Traced k view (done ++ [Run.stepOf (fleetStep k) (.opened i c) w])
      (Run.stepOf (fleetStep k) (.opened i c) w).after := by
  refine ⟨fun j => ?_, fun key frame hframe => ?_⟩
  · show EightBytes (Function.update w.conns i c j).session
    by_cases hj : j = i
    · rw [hj, Function.update_self]
      exact hc
    · rw [Function.update_of_ne hj]
      exact htraced.handles j
  · obtain ⟨d, hd, hparked⟩ := htraced.parked key frame hframe
    exact ⟨d, List.mem_append_left _ hd, hparked⟩

/-- One call keeps the account. -/
theorem traced_step (law : ParksIn tids units view) (hk : ∀ i, StoredIn (k i) tids units)
    {done : List (Step (Fleet ι ω χ) (FleetCall ι ω χ) (Performed ω))} {w : Fleet ι ω χ}
    (call : FleetCall ι ω χ) (htraced : Traced k view done w)
    (hopened : ∀ i c, call = .opened i c → EightBytes c.session) :
    Traced k view (done ++ [Run.stepOf (fleetStep k) call w])
      (Run.stepOf (fleetStep k) call w).after := by
  cases call with
  | call_transactional i func_name tid queue =>
    have hsubmit := async_submit_delivers law (hk i) (.tid tid)
      (build_trfc_request (k i).p.u tid func_name queue) func_name
      { w.conns i with user := w.shared }
    exact traced_submit htraced rfl rfl hsubmit
  | submit_unit i uid unit_type queues buffered_calls =>
    have hsubmit := async_submit_delivers law (hk i) (.unit uid unit_type)
      (build_bgrfc_request (k i).p.u uid unit_type queues buffered_calls) BGRFC_DEST_SHIP
      { w.conns i with user := w.shared }
    exact traced_submit htraced rfl rfl hsubmit
  | retry_parked i tid =>
    exact (traced_redrive htraced rfl
      (async_retry_parked_sends law (hk i) tid { w.conns i with user := w.shared })).1
  | retry_parked_unit i unit_id unit_type =>
    exact (traced_redrive htraced rfl
      (async_retry_parked_unit_sends law (hk i) unit_id unit_type
        { w.conns i with user := w.shared })).1
  | opened i c => exact traced_opened htraced (hopened i c rfl)

/-- INTERNAL: what a re-drive sends was parked. -/
theorem redrive_sent (law : ParksIn tids units view) (hk : ∀ i, StoredIn (k i) tids units)
    {done : List (Step (Fleet ι ω χ) (FleetCall ι ω χ) (Performed ω))} {w : Fleet ι ω χ}
    {call : FleetCall ι ω χ} (htraced : Traced k view done w) (hkey : call.redrives = some key)
    {t : Trip ω} (ht : t ∈ (Run.stepOf (fleetStep k) call w).output.sent) :
    view w.shared key = some t.request := by
  cases call with
  | call_transactional i func_name tid queue => cases hkey
  | submit_unit i uid unit_type queues buffered_calls => cases hkey
  | opened i c => cases hkey
  | retry_parked i tid =>
    obtain rfl := Option.some.inj hkey
    exact (traced_redrive htraced rfl
      (async_retry_parked_sends law (hk i) tid { w.conns i with user := w.shared })).2 t ht
  | retry_parked_unit i unit_id unit_type =>
    obtain rfl := Option.some.inj hkey
    exact (traced_redrive htraced rfl
      (async_retry_parked_unit_sends law (hk i) unit_id unit_type
        { w.conns i with user := w.shared })).2 t ht

/-- The handle of a frame. -/
theorem handle_of_frame {handle tlv frame : Bytes} (hhandle : handle.length = 8)
    (h : build_invoke_frame handle tlv = .ok frame) : slice frame 40 48 = handle := by
  unfold build_invoke_frame at h
  split at h
  · cases h
  · rw [← Except.ok.inj h]
    have hfront : ∀ front rest : Bytes, front.length = 40 →
        slice (front ++ (handle ++ rest)) 40 48 = handle := by
      intro front rest hlength
      unfold slice
      rw [List.drop_left' hlength, List.take_left' hhandle]
    unfold gw_rfc_header
    simp only [List.append_assoc]
    exact hfront ([0x06, 0xCB, 0x02, 0x00, 0xFF, 0xFF, 0x00, 0x00] ++ (List.replicate 16 0 ++
      ([0x00, 0x00, 0x00, 0x08, 0x00, 0x00, 0x05, 0x0C] ++ List.replicate 8 0))) _ rfl

/-- A frame of a re-drive: the request records of an earlier submission that failed, under the
handle of the connection that this one ran on. -/
structure Redriven [DecidableEq ι] (k : ι → Client ω χ V)
    (done : List (Step (Fleet ι ω χ) (FleetCall ι ω χ) (Performed ω))) (key : ParkKey)
    (session : Session) (frame : Bytes) (d : Step (Fleet ι ω χ) (FleetCall ι ω χ) (Performed ω)) :
    Prop where
  earlier : d ∈ done
  submits : d.input.submits = some key
  failed : d.output.result ≠ .ok ()
  records : Framed d.output.session (d.input.request k) frame
  handle : slice frame 40 48 = session.sendHandle ↔
    d.output.session.sendHandle = session.sendHandle

/-- In every run of connections over shared stores, each frame of a re-drive repeats the request
records of a submission that failed; it has the handle of the sending connection exactly when
the connection of that submission had it. -/
theorem redriven_frame_iff (law : ParksIn tids units view) (hk : ∀ i, StoredIn (k i) tids units)
    {w : Fleet ι ω χ} {calls : List (FleetCall ι ω χ)} (hempty : ∀ key, view w.shared key = none)
    (hhandles : ∀ i, EightBytes (w.conns i).session)
    (hopened : ∀ i c, .opened i c ∈ calls → EightBytes c.session) {n : ℕ}
    {s : Step (Fleet ι ω χ) (FleetCall ι ω χ) (Performed ω)}
    (h : (Run.trace (fleetStep k) calls w)[n]? = some s) (hkey : s.input.redrives = some key) :
    ∀ t ∈ s.output.sent, ∃ d, Redriven k ((Run.trace (fleetStep k) calls w).take n) key
      s.output.session t.request d := by
  intro t ht
  have hinit : Traced k view [] w :=
    ⟨hhandles, fun key frame hframe => nomatch (hempty key).symm.trans hframe⟩
  have hinputs : ∀ x ∈ Run.trace (fleetStep k) calls w,
      ∀ i c, x.input = .opened i c → EightBytes c.session := by
    intro x hx i c hinput
    exact hopened i c (hinput ▸ Run.input_mem_of_mem hx)
  obtain ⟨hbefore, -⟩ := Run.trace_invariant (fun done s i hI hP => traced_step law hk i hI hP)
    hinit hinputs h
  have hstep := Run.eq_stepOf_of_mem (List.mem_of_getElem? h)
  rw [hstep] at ht
  obtain ⟨d, hd, hparked⟩ :=
    hbefore.parked key t.request (redrive_sent law hk hbefore hkey ht)
  refine ⟨d, hd, hparked.submits, hparked.failed, hparked.frame, ?_⟩
  obtain ⟨tlv, -, hframe⟩ := hparked.frame
  rw [handle_of_frame (length_sendHandle hparked.handle) hframe]

end Run

/-! ## Two connections over the stores in memory -/

/-- A connection with a handle. -/
def withHandle (handle : Bytes) (w : Wire (List Bytes)) : Conn (Wire (List Bytes)) Tables :=
  { readyConn w Tables.empty with session := ⟨.READY, [], none, none, some handle⟩ }

/-- The first connection's peer does not answer in time; the second's answers. -/
def twoConnections (first second : Bytes) : Fleet Bool (Wire (List Bytes)) Tables where
  conns i := match i with
    | false => withHandle first (Wire.connect [] [[.refuse (err .timeout [])]])
    | true => withHandle second
        (Wire.connect [Records.encode Tag.RETURN_CODE [0, 0, 0, 0] ++ [0xFF, 0xFF]] [])
  shared := Tables.empty

def parkedTid : PyStr := lit "0A0B0C0D0E0F101112131415"

/-- A transactional call on the first connection, sent again on the second. -/
def parkAndRedrive : List (FleetCall Bool (Wire (List Bytes)) Tables) :=
  [.call_transactional false (lit "Z_FM") parkedTid none, .retry_parked true parkedTid]

def plainFleet : Bool → Client (Wire (List Bytes)) Tables Bytes :=
  fun _ => (plainClient (scriptLink id) 0).toClient

/-- Eight bytes as a handle. -/
def handleOf (b : UInt8) : Bytes := List.replicate 8 b

/-- What the second call does. -/
def redriveStep (first second : Bytes) :
    Step (Fleet Bool (Wire (List Bytes)) Tables) (FleetCall Bool (Wire (List Bytes)) Tables)
      (Performed (Wire (List Bytes))) :=
  Run.stepOf (fleetStep plainFleet) (.retry_parked true parkedTid)
    (Run.stepOf (fleetStep plainFleet) (.call_transactional false (lit "Z_FM") parkedTid none)
      (twoConnections first second)).after

theorem redriveStep_mem (first second : Bytes) :
    (Run.trace (fleetStep plainFleet) parkAndRedrive (twoConnections first second))[1]? =
      some (redriveStep first second) := rfl

/-- The second connection sends the parked frame, under the handle of the first. -/
theorem redriven_frame_second :
    (redriveStep (handleOf 0x41) (handleOf 0x42)).output.sent.length = 1 ∧
      ∀ t ∈ (redriveStep (handleOf 0x41) (handleOf 0x42)).output.sent, ∃ d,
        Redriven plainFleet
          ((Run.trace (fleetStep plainFleet) parkAndRedrive
            (twoConnections (handleOf 0x41) (handleOf 0x42))).take 1)
          (.tid parkedTid) (redriveStep (handleOf 0x41) (handleOf 0x42)).output.session t.request
          d := by
  have hstored : ∀ i, StoredIn (plainFleet i) tablesTidStore tablesUnitStore :=
    fun _ => ⟨.inr rfl, .inr rfl⟩
  have hempty : ∀ key, tablesView (twoConnections (handleOf 0x41) (handleOf 0x42)).shared key =
      none := by
    intro key
    cases key <;> rfl
  have hhandles : ∀ i,
      EightBytes ((twoConnections (handleOf 0x41) (handleOf 0x42)).conns i).session := by
    intro i handle h
    cases i with
    | false => exact Option.some.inj h ▸ rfl
    | true => exact Option.some.inj h ▸ rfl
  refine ⟨by decide +kernel, ?_⟩
  refine redriven_frame_iff tables_park hstored hempty hhandles ?_
    (redriveStep_mem (handleOf 0x41) (handleOf 0x42)) rfl
  intro i c h
  rcases List.mem_cons.mp h with h | h
  · cases h
  · cases List.mem_singleton.mp h

/-- The frame that the second connection sends does not carry its handle. -/
theorem redriven_frame_keeps_handle :
    (redriveStep (handleOf 0x41) (handleOf 0x42)).input.redrives = some (.tid parkedTid) ∧
      (redriveStep (handleOf 0x41) (handleOf 0x42)).output.session.handle =
        some (handleOf 0x42) ∧
      ¬ ∀ t ∈ (redriveStep (handleOf 0x41) (handleOf 0x42)).output.sent,
        slice t.request 40 48 =
          (redriveStep (handleOf 0x41) (handleOf 0x42)).output.session.sendHandle := by
  refine ⟨rfl, by decide +kernel, ?_⟩
  decide +kernel

end SapRfc.Analysis.Redrive
