import SapRfc.Analysis.Lookups
import SapRfc.Analysis.Streams

/-!
# Which request a reply answers

The operations of an asynchronous connection one after another, on a stream where every
step of every exchange may raise.  The guard of a call gives the connection up at an
`Exception` that is no ABAP error.  What it lets through is `asyncio.CancelledError`, which
is no `Exception`, and everything raised outside of it, in the lookups before a call.  In
both cases the request is on its way and the session is `READY` again: the next request
reads the reply of the last one.

A trip is harmless when none of this happens in it (`Harmless`), and in a run of harmless
trips every byte is read as the reply to the request it answers
(`replies_attributed_of_harmless`).
-/

set_option autoImplicit false

namespace SapRfc.Analysis.Attribution

open SapRfc.Library SapRfc.Program

variable {π χ V : Type} (k : StreamClient π χ V)

/-! ## Harmless trips -/

/-- The reader of a trip on the bytes that reach this side, and nothing else. -/
def alone (t : Trip (Wire π)) : Except PyError Bytes × Bytes :=
  Eff.run (closed_read k.link k.p.u t.reader) (arriving k.link t.before t.request)

/-- A trip after which no byte of its answer can be read as the answer to another
request.  It was not sent; or it is under the guard of a call, and what it raises the guard
gives the connection up at, and a reply that is read leaves no byte behind; or it is a
lookup or a transactional request, which no guard protects, and nothing disturbs it. -/
inductive Harmless (t : Trip (Wire π)) : Prop
  | unsent (h : Unsent t.before t.request)
  | guarded (hp : t.purpose = .invoke ∨ t.purpose = .ping)
      (hplan : Only GivesUp (planOf t.before))
      (hread : ∀ b, (alone k t).1 = .ok b → (alone k t).2 = [])
  | lookup (hp : IsLookup t.purpose) (hplan : Only (fun _ => False) (planOf t.before))
      (hread : (alone k t).2 = [])
  | submit (hp : t.purpose = .submit) (hplan : Only (fun _ => False) (planOf t.before))
      (hread : ∃ b, alone k t = (.ok b, []))

/-- INTERNAL: a reader that leaves no byte of the answer leaves none on the stream. -/
theorem fresh_of_rest {w : Wire π} {rest : Bytes} (hown : Own w)
    (hrest : w.unread.map Prod.fst = rest) (hnil : rest = []) : Fresh w :=
  ⟨hown, List.map_eq_nil_iff.mp (hrest.trans hnil)⟩

/-- How the exchange of a trip ends on the stream. -/
def ended (t : Trip (Wire π)) : Except PyError Bytes × Wire π :=
  Eff.run (k.seam.round_trip t.reader t.request) t.before

variable {k} {t : Trip (Wire π)}

theorem ended_unsent (h : Unsent t.before t.request) (hfresh : Fresh t.before) :
    Fresh (ended k t).2 ∧ (ended k t).2.sent = t.before.sent := by
  unfold ended
  rw [k.seam_eq]
  obtain ⟨e, w', hrun, hunread, htaken, hsent⟩ :=
    round_trip_unsent k.link k.p.u t.reader h
  rw [hrun]
  refine ⟨⟨fun b hb => hfresh.own b ?_, hunread.trans hfresh.empty⟩, hsent⟩
  rwa [← htaken]

theorem ended_ending {M : PyError → Prop} (hsent : ¬ Unsent t.before t.request)
    (hfresh : Fresh t.before) (hplan : Only M (planOf t.before)) :
    Ending k.link k.p.u M t.reader t.request t.before (ended k t).1 (ended k t).2 := by
  unfold ended
  rw [k.seam_eq]
  exact round_trip_ending k.link k.p.u t.reader hfresh hsent hplan

/-- Undisturbed, an exchange ends as its reader does alone. -/
theorem ended_undisturbed (hsent : ¬ Unsent t.before t.request) (hfresh : Fresh t.before)
    (hplan : Only (fun _ => False) (planOf t.before)) :
    Own (ended k t).2 ∧ (ended k t).1 = (alone k t).1 ∧
      (ended k t).2.unread.map Prod.fst = (alone k t).2 := by
  have hending := ended_ending (k := k) hsent hfresh hplan
  cases hr : ended k t with
  | mk r w' =>
    rw [hr] at hending
    cases hending with
    | raised he hown => exact he.elim
    | read hown hr hrest => exact ⟨hown, hr, hrest⟩

/-- Under the guard: the stream is fresh again, or the guard gives the connection up. -/
theorem ended_guarded (h : Harmless k t) (hp : t.purpose = .invoke ∨ t.purpose = .ping)
    (hfresh : Fresh t.before) :
    Own (ended k t).2 ∧
      ((ended k t).2.unread = [] ∨ ∃ e, (ended k t).1 = .error e ∧ GivesUp e) := by
  by_cases hsent : Unsent t.before t.request
  · have hf := (ended_unsent (k := k) hsent hfresh).1
    exact ⟨hf.own, .inl hf.empty⟩
  · cases h with
    | unsent h => exact absurd h hsent
    | guarded _ hplan hread =>
      cases hr : ended k t with
      | mk r w' =>
        have hending := ended_ending (k := k) hsent hfresh hplan
        rw [hr] at hending
        cases hending with
        | raised he hown => exact ⟨hown, .inr ⟨_, rfl, he⟩⟩
        | read hown hr hrest =>
          refine ⟨hown, ?_⟩
          cases r with
          | ok b => exact .inl (fresh_of_rest hown hrest (hread b hr.symm)).empty
          | error e =>
            exact .inr ⟨e, rfl, throws_closed_read k.link k.p.u t.reader _ e hr.symm⟩
    | lookup hp' =>
      cases hp with
      | inl hi => simp [IsLookup, hi] at hp'
      | inr hi => simp [IsLookup, hi] at hp'
    | submit hp' =>
      cases hp with
      | inl hi => simp [hi] at hp'
      | inr hi => simp [hi] at hp'

/-- Outside the guard the stream is fresh again. -/
theorem ended_unguarded (h : Harmless k t) (hp : IsLookup t.purpose ∨ t.purpose = .submit)
    (hfresh : Fresh t.before) : Fresh (ended k t).2 := by
  by_cases hsent : Unsent t.before t.request
  · exact (ended_unsent (k := k) hsent hfresh).1
  · cases h with
    | unsent h => exact absurd h hsent
    | guarded hp' => rcases hp' with hp' | hp' <;> simp [hp', IsLookup] at hp
    | lookup _ hplan hread =>
      obtain ⟨hown, -, hrest⟩ := ended_undisturbed (k := k) hsent hfresh hplan
      exact fresh_of_rest hown hrest hread
    | submit _ hplan hread =>
      obtain ⟨b, hb⟩ := hread
      obtain ⟨hown, -, hrest⟩ := ended_undisturbed (k := k) hsent hfresh hplan
      exact fresh_of_rest hown hrest (by rw [hb])

/-! ## Steps of a run -/

variable (k)

/-- Some trips were made, and while they are harmless a fresh stream stays fresh. -/
def Calm (c c' : Conn (Wire π) χ) : Prop :=
  ∃ d, c'.trips = c.trips ++ d ∧ ((∀ t ∈ d, Harmless k t) → Fresh c.wire →
    (∀ t ∈ d, Fresh t.before) ∧ Fresh c'.wire)

/-- Some trips were made, and while they are harmless a fresh stream stays fresh or the
session is given up. -/
def Settled (c c' : Conn (Wire π) χ) : Prop :=
  ∃ d, c'.trips = c.trips ++ d ∧ ((∀ t ∈ d, Harmless k t) → Fresh c.wire →
    (∀ t ∈ d, Fresh t.before) ∧ Own c'.wire ∧
      (c'.wire.unread = [] ∨ c'.session.state = .BROKEN))

variable {k}

theorem Calm.of_same {c c' : Conn (Wire π) χ} (htrips : c'.trips = c.trips)
    (hunread : c'.wire.unread = c.wire.unread) (htaken : c'.wire.taken = c.wire.taken) :
    Calm k c c' := by
  refine ⟨[], by simp [htrips], fun _ hfresh => ⟨nofun, fun e he => ?_, ?_⟩⟩
  · exact hfresh.own e (by rwa [htaken] at he)
  · rw [hunread, hfresh.empty]

theorem Calm.refl (c : Conn (Wire π) χ) : Calm k c c := .of_same rfl rfl rfl

/-- INTERNAL: the trips of two steps in a row. -/
theorem harmless_append {d d' : List (Trip (Wire π))} (h : ∀ t ∈ d ++ d', Harmless k t) :
    (∀ t ∈ d, Harmless k t) ∧ ∀ t ∈ d', Harmless k t :=
  ⟨fun t ht => h t (List.mem_append_left _ ht), fun t ht => h t (List.mem_append_right _ ht)⟩

theorem Calm.settled {a b c : Conn (Wire π) χ} (h : Calm k a b) (h' : Settled k b c) :
    Settled k a c := by
  obtain ⟨d, hd, hfresh⟩ := h
  obtain ⟨d', hd', hfresh'⟩ := h'
  refine ⟨d ++ d', by rw [hd', hd, List.append_assoc], fun hall ha => ?_⟩
  obtain ⟨hall, hall'⟩ := harmless_append hall
  obtain ⟨hbefore, hb⟩ := hfresh hall ha
  obtain ⟨hbefore', hc⟩ := hfresh' hall' hb
  refine ⟨fun t ht => ?_, hc⟩
  cases List.mem_append.mp ht with
  | inl ht => exact hbefore t ht
  | inr ht => exact hbefore' t ht

theorem Calm.trans (a b c : Conn (Wire π) χ) (h : Calm k a b) (h' : Calm k b c) :
    Calm k a c := by
  obtain ⟨d, hd, hfresh⟩ := h
  obtain ⟨d', hd', hfresh'⟩ := h'
  refine ⟨d ++ d', by rw [hd', hd, List.append_assoc], fun hall ha => ?_⟩
  obtain ⟨hall, hall'⟩ := harmless_append hall
  obtain ⟨hbefore, hb⟩ := hfresh hall ha
  obtain ⟨hbefore', hc⟩ := hfresh' hall' hb
  refine ⟨fun t ht => ?_, hc⟩
  cases List.mem_append.mp ht with
  | inl ht => exact hbefore t ht
  | inr ht => exact hbefore' t ht

theorem Calm.toSettled {a b : Conn (Wire π) χ} (h : Calm k a b) : Settled k a b := by
  obtain ⟨d, hd, hfresh⟩ := h
  refine ⟨d, hd, fun hall ha => ?_⟩
  obtain ⟨hbefore, hb⟩ := hfresh hall ha
  exact ⟨hbefore, hb.own, .inl hb.empty⟩

/-- An exchange outside the guard. -/
theorem calm_exchange {purpose : Purpose} (hp : IsLookup purpose ∨ purpose = .submit)
    (reader : Reader) (request : Bytes) :
    Eff.Keeps (Calm k) (exchange k.toClient purpose reader request) := by
  intro c
  rw [run_exchange]
  refine ⟨_, rfl, fun hall hfresh => ?_⟩
  refine ⟨by simpa using hfresh, ?_⟩
  exact ended_unguarded (hall _ List.mem_cons_self) hp hfresh

theorem calm_lookups : Lookups k.toClient (Calm k) where
  refl := Calm.refl
  trans := Calm.trans
  quiet c c' hwire _ htrips := .of_same htrips (by rw [hwire]) (by rw [hwire])
  trip purpose reader request hp := calm_exchange (.inl hp) reader request
  logon attrs c := .of_same rfl rfl rfl
  drain := by
    rw [k.seam_eq]
    exact fun c => .of_same rfl rfl rfl

/-- An exchange under the guard, and what is made of its reply. -/
theorem settled_guard {α : Type} {purpose : Purpose} (hp : purpose = .invoke ∨ purpose = .ping)
    (func_name : PyStr) (reader : Reader) (request : Bytes) (g : Bytes → Except PyError α) :
    Eff.Keeps (Settled k) (fail_closed k.toClient func_name (do
      let resp ← exchange k.toClient purpose reader request
      Eff.lift (g resp))) := by
  intro c
  have hbody := Eff.run_bind_lift (exchange k.toClient purpose reader request) g c
  rw [run_exchange] at hbody
  obtain ⟨hwire, htrips⟩ := fail_closed_frame k.toClient func_name (do
    let resp ← exchange k.toClient purpose reader request
    Eff.lift (g resp)) c
  rw [hbody] at hwire htrips
  refine ⟨_, htrips, fun hall hfresh => ⟨by simpa using hfresh, ?_⟩⟩
  obtain ⟨hown, hrest⟩ := ended_guarded (hall _ List.mem_cons_self) hp hfresh
  rw [hwire]
  refine ⟨hown, ?_⟩
  cases hrest with
  | inl hempty => exact .inl hempty
  | inr hraised =>
    obtain ⟨e, he, hgives⟩ := hraised
    refine .inr (fail_closed_broken k.toClient (e := e) ?_ hgives)
    rw [hbody]
    unfold ended at he
    simp only at he
    rw [he]
    rfl

/-- A method in its bracket of states. -/
theorem settled_in_call {α : Type} {body : Op (Wire π) χ α} (h : Eff.Keeps (Settled k) body) :
    Eff.Keeps (Settled k) (in_call k.toClient body) := by
  intro c
  by_cases hready : c.session.state = .READY
  · rw [run_in_call k.toClient body hready, Eff.run_andFinally]
    have hbody := h { c with session := { c.session with state := .IN_CALL } }
    cases hr : Eff.run body { c with session := { c.session with state := .IN_CALL } } with
    | mk r c' =>
      rw [hr] at hbody
      obtain ⟨d, hd, hsettled⟩ := hbody
      refine ⟨d, hd, fun hall hfresh => ?_⟩
      obtain ⟨hbefore, hown, hrest⟩ := hsettled hall hfresh
      refine ⟨hbefore, hown, ?_⟩
      cases hrest with
      | inl hempty => exact .inl hempty
      | inr hbroken =>
        have hbroken : c'.session.state = .BROKEN := hbroken
        have hne : c'.session.state ≠ .IN_CALL := by
          rw [hbroken]
          nofun
        simp only [run_restore_ready, if_neg hne]
        exact .inr hbroken
  · obtain ⟨e, he⟩ := run_in_call_refused k.toClient body hready
    rw [he]
    exact (Calm.refl c).toSettled

/-- Calm steps in front of a last one. -/
theorem settled_bind {α β : Type} {x : Op (Wire π) χ α} {f : α → Op (Wire π) χ β}
    (hx : Eff.Keeps (Calm k) x) (hf : ∀ a, Eff.Keeps (Settled k) (f a)) :
    Eff.Keeps (Settled k) (x >>= f) :=
  Eff.Keeps.andThen (fun _ _ _ h h' => h.settled h') (fun _ _ h => h.toSettled) hx hf

/-- What is made of the result is of no matter to the stream. -/
theorem settled_result {α β : Type} {x : Op (Wire π) χ α} (h : Eff.Keeps (Settled k) x)
    (g : α → Except PyError β) : Eff.Keeps (Settled k) (x >>= fun a => Eff.lift (g a)) := by
  intro c
  rw [Eff.run_bind_lift]
  exact h c

theorem settled_guarded_invoke (func_name : PyStr) (request : Bytes) (desc : FunctionDesc)
    (dm_names : List (ℕ × PyStr)) :
    Eff.Keeps (Settled k) (guarded_invoke k.toClient func_name request desc dm_names) :=
  settled_result (settled_guard (.inl rfl) func_name (.frames func_name) request
    fun tlv_response => parse_invoke_response k.p tlv_response desc dm_names)
    fun result => .ok (convert_date_time_fields k.p result desc)

theorem settled_async_call (func_name : PyStr) (params : Values V) :
    Eff.Keeps (Settled k) (async_call k.toClient func_name params) := by
  refine settled_in_call (settled_bind (calm_lookups.async_function_desc func_name) fun desc => ?_)
  unfold async_invoke
  refine settled_bind (calm_lookups.lift _) fun request_tlv => ?_
  refine settled_bind (calm_lookups.invoke_frame _) fun request => ?_
  exact settled_guarded_invoke _ _ _ _

theorem settled_async_ping : Eff.Keeps (Settled k) (async_ping k.toClient) := by
  refine settled_in_call (settled_bind (calm_lookups.lift _) fun request_tlv => ?_)
  refine settled_bind (calm_lookups.invoke_frame _) fun frame => ?_
  refine settled_result ?_ fun resp => rfcping_ok resp
  have hguard := settled_guard (k := k) (.inr rfl) (lit "RFCPING") .frame frame
    fun resp => .ok resp
  rwa [Eff.bind_lift_ok] at hguard

/-! ## Runs -/

/-- An operation of the asynchronous connection. -/
inductive AsyncOp (V : Type) where
  | call (func_name : PyStr) (params : Values V)
  | ping

/-- The operation, its result aside. -/
def AsyncOp.run (k : StreamClient π χ V) : AsyncOp V → Op (Wire π) χ Unit
  | call func_name params => do
    let _ ← async_call k.toClient func_name params
    pure ()
  | ping => do
    let _ ← async_ping k.toClient
    pure ()

/-- Operations one after another, whether they return or raise. -/
def runAll (ops : List (Op (Wire π) χ Unit)) (c : Conn (Wire π) χ) : Conn (Wire π) χ :=
  ops.foldl (fun c op => (Eff.run op c).2) c

/-- A method that is refused in every state but `READY`, and asks nothing of the stream
then. -/
def Guarded (op : Op (Wire π) χ Unit) : Prop :=
  ∀ c : Conn (Wire π) χ, c.session.state ≠ .READY →
    ∃ e c', Eff.run op c = (.error e, c') ∧ c'.wire = c.wire ∧ c'.session = c.session ∧
      c'.trips = c.trips

/-- What holds between two operations: every byte was read as a reply to the request it
answers, and no byte is left or the session is given up. -/
structure Sound (c : Conn (Wire π) χ) : Prop where
  own : Own c.wire
  rest : c.wire.unread = [] ∨ c.session.state = .BROKEN

theorem sound_step {op : Op (Wire π) χ Unit} (hop : Eff.Keeps (Settled k) op)
    (hguarded : Guarded op) (c : Conn (Wire π) χ) :
    ∃ d, (Eff.run op c).2.trips = c.trips ++ d ∧
      ((∀ t ∈ d, Harmless k t) → Sound c →
        (∀ t ∈ d, Fresh t.before) ∧ Sound (Eff.run op c).2) := by
  obtain ⟨d, hd, hsettled⟩ := hop c
  refine ⟨d, hd, fun hall hsound => ?_⟩
  by_cases hready : c.session.state = .READY
  · have hempty : c.wire.unread = [] := hsound.rest.resolve_right (by simp [hready])
    obtain ⟨hbefore, hown, hrest⟩ := hsettled hall ⟨hsound.own, hempty⟩
    exact ⟨hbefore, hown, hrest⟩
  · obtain ⟨e, c', he, hwire, hsession, htrips⟩ := hguarded c hready
    rw [he] at hd ⊢
    have hnil : d = [] := by simpa [htrips] using hd
    rw [hnil]
    refine ⟨nofun, ?_, ?_⟩
    · rw [hwire]
      exact hsound.own
    · rw [hwire, hsession]
      exact hsound.rest

/-- The run lemma: harmless trips keep the connection sound. -/
theorem sound_runAll {ops : List (Op (Wire π) χ Unit)}
    (hops : ∀ op ∈ ops, Eff.Keeps (Settled k) op ∧ Guarded op) (c : Conn (Wire π) χ) :
    ∃ d, (runAll ops c).trips = c.trips ++ d ∧
      ((∀ t ∈ d, Harmless k t) → Sound c →
        (∀ t ∈ d, Fresh t.before) ∧ Sound (runAll ops c)) := by
  induction ops generalizing c with
  | nil => exact ⟨[], by simp [runAll], fun _ hsound => ⟨nofun, hsound⟩⟩
  | cons op ops ih =>
    obtain ⟨hop, hguarded⟩ := hops op List.mem_cons_self
    obtain ⟨d, hd, hstep⟩ := sound_step hop hguarded c
    obtain ⟨d', hd', hrun⟩ := ih (fun o ho => hops o (List.mem_cons_of_mem _ ho))
      (Eff.run op c).2
    refine ⟨d ++ d', ?_, fun hall hsound => ?_⟩
    · rw [← List.append_assoc, ← hd]
      exact hd'
    · obtain ⟨hall, hall'⟩ := harmless_append hall
      obtain ⟨hbefore, hmid⟩ := hstep hall hsound
      obtain ⟨hbefore', hlast⟩ := hrun hall' hmid
      refine ⟨fun t ht => ?_, hlast⟩
      cases List.mem_append.mp ht with
      | inl ht => exact hbefore t ht
      | inr ht => exact hbefore' t ht

theorem guarded_of_refused {op : Op (Wire π) χ Unit}
    (h : ∀ c : Conn (Wire π) χ, c.session.state ≠ .READY → ∃ e, Eff.run op c = (.error e, c)) :
    Guarded op := by
  intro c hc
  obtain ⟨e, he⟩ := h c hc
  exact ⟨e, c, he, rfl, rfl, rfl⟩

/-- A refused method stays refused, whatever is made of its result. -/
theorem refused_result {α : Type} {x : Op (Wire π) χ α} {c : Conn (Wire π) χ}
    (h : ∃ e, Eff.run x c = (.error e, c)) :
    ∃ e, Eff.run (do
      let _ ← x
      pure () : Op (Wire π) χ Unit) c = (.error e, c) := by
  obtain ⟨e, he⟩ := h
  exact ⟨e, by rw [Eff.run_bind, he]⟩

theorem asyncOp_refused (op : AsyncOp V) {c : Conn (Wire π) χ} (hc : c.session.state ≠ .READY) :
    ∃ e, Eff.run (op.run k) c = (.error e, c) := by
  cases op with
  | call func_name params => exact refused_result (run_in_call_refused k.toClient _ hc)
  | ping => exact refused_result (run_in_call_refused k.toClient _ hc)

theorem asyncOp_settled (op : AsyncOp V) : Eff.Keeps (Settled k)
    (op.run k : Op (Wire π) χ Unit) := by
  cases op with
  | call func_name params =>
    exact settled_result (settled_async_call func_name params) fun _ => .ok ()
  | ping => exact settled_result settled_async_ping fun _ => .ok ()

variable (k) in
/-- Every byte was read as a reply to the request it answers, and while a byte is left
every operation is refused. -/
def Attributed (c : Conn (Wire π) χ) : Prop :=
  Own c.wire ∧ (c.wire.unread ≠ [] → ∀ op : AsyncOp V, ∃ e, Eff.run (op.run k) c = (.error e, c))

variable (k) in
/-- In every run of harmless trips every reply is read as the reply to its own request, and
behind a reply that was not read to its end every operation is refused. -/
theorem replies_attributed_of_harmless (c : Conn (Wire π) χ) (hfresh : Fresh c.wire)
    (ops : List (AsyncOp V))
    (hall : ∀ t ∈ (runAll (ops.map (·.run k)) c).trips, Harmless k t) :
    Attributed k (runAll (ops.map (·.run k)) c) := by
  have hops : ∀ op ∈ ops.map (·.run k), Eff.Keeps (Settled k) op ∧
      Guarded (op : Op (Wire π) χ Unit) := by
    intro op hop
    obtain ⟨op, -, rfl⟩ := List.mem_map.mp hop
    exact ⟨asyncOp_settled op, guarded_of_refused fun c hc => asyncOp_refused op hc⟩
  obtain ⟨d, hd, hrun⟩ := sound_runAll hops c
  obtain ⟨-, hown, hrest⟩ := hrun (fun t ht => hall t (by rw [hd]; simp [ht]))
    ⟨hfresh.own, .inl hfresh.empty⟩
  refine ⟨hown, fun hleft op => asyncOp_refused op ?_⟩
  rw [hrest.resolve_left hleft]
  nofun

/-! ## The run of a cancelled ping -/

/-- An answer to `RFCPING`. -/
def pong : Bytes :=
  [0x04, 0x20, 0, 4, 0, 0, 0, 0, 0x04, 0x20, 0xFF, 0xFF, 0, 0, 0xFF, 0xFF]

/-- A server that answers every request so, in one frame. -/
def pongLink : Link Unit where
  serve := fun _ _ => (toBE 4 pong.length ++ pong, ())
  short := incomplete_read
  short_eof := incomplete_read_kind

/-- Two pings, the first under this plan. -/
def twoPings (plan : Plan) : Conn (Wire Unit) Tables :=
  runAll ([.ping, .ping].map (AsyncOp.run (plainClient pongLink 0)))
    (readyConn (Wire.connect () [plan]) Tables.empty)

/-- A timeout while the first ping waits for its reply: the guard gives the connection up. -/
theorem replies_attributed_of_harmless_timeout :
    Attributed (plainClient pongLink 0) (twoPings [.proceed, .refuse (err .timeout [])]) := by
  refine replies_attributed_of_harmless _ _ ⟨fun _ h => (List.not_mem_nil h).elim, rfl⟩ _
    fun t ht => ?_
  have htrips : ∀ t ∈ (twoPings [.proceed, .refuse (err .timeout [])]).trips,
      t.purpose = .ping ∧ Only GivesUp (planOf t.before) ∧
        (alone (plainClient pongLink 0) t).2 = [] := by
    decide +kernel
  obtain ⟨hp, hplan, hread⟩ := htrips t ht
  exact .guarded (.inr hp) hplan fun _ _ => hread

/-- A cancellation instead: the second ping returns what answered the first. -/
theorem cancelled_ping_misattributed :
    (2, 1) ∈ (twoPings [.proceed, .refuse (err .cancelled [])]).wire.taken ∧
      ¬ Attributed (plainClient pongLink 0) (twoPings [.proceed, .refuse (err .cancelled [])]) := by
  have hstale : (2, 1) ∈ (twoPings [.proceed, .refuse (err .cancelled [])]).wire.taken := by
    decide +kernel
  exact ⟨hstale, fun h => absurd (h.1 _ hstale) (by decide)⟩

end SapRfc.Analysis.Attribution
