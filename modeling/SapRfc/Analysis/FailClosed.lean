import SapRfc.Analysis.Attribution

/-!
# Transactional requests and their replies

`call_transactional`, `confirm_tid` and the submits of a unit send and receive outside the
guard that an ordinary call has: when the reply cannot be read to its end they raise, the
session is `READY` again, and an internal retry sends the next request on the same stream.
`submits_fail_closed_of_harmless` says of the runs that mix them with ordinary calls what
keeps them apart: no submit whose reply is disturbed.
-/

set_option autoImplicit false

namespace SapRfc.Analysis.FailClosed

open SapRfc.Library SapRfc.Program SapRfc.Analysis.Attribution

variable {π χ V : Type} {k : StreamClient π χ V}

/-! ## Transactional requests in a run -/

/-- The session and the stores are of no matter to the stream. -/
theorem calm_onSession {α : Type} (x : Eff PyError Session α) :
    Eff.Keeps (Calm k) (onSession x : Op (Wire π) χ α) :=
  fun _ => .of_same rfl rfl rfl

theorem calm_onStore {α : Type} (x : Eff PyError χ α) :
    Eff.Keeps (Calm k) (onStore x : Op (Wire π) χ α) :=
  fun _ => .of_same rfl rfl rfl

/-- A pause takes the next plan and no byte. -/
theorem calm_sleep : Eff.Keeps (Calm k) (onWire k.seam.sleep : Op (Wire π) χ Unit) := by
  rw [k.seam_eq]
  intro c
  unfold onWire
  rw [Eff.run_zoom]
  show Calm k c { c with wire := (Eff.run Wire.sleep c.wire).2 }
  unfold Wire.sleep
  simp only [Eff.run_mk]
  cases c.wire.firstChoice <;> exact .of_same rfl rfl rfl

theorem calm_store_park (key : ParkKey) (payload : Bytes) :
    Eff.Keeps (Calm k) (store_park k.toClient key payload) := by
  unfold store_park
  cases key with
  | tid tid =>
    cases k.tid_store with
    | some store => exact calm_onStore _
    | none => exact calm_lookups.pure _
  | unit unit_id unit_type =>
    cases k.unit_store with
    | some store => exact calm_onStore _
    | none => exact calm_lookups.pure _

theorem calm_do_send (request : Bytes) (func_name : PyStr) :
    Eff.Keeps (Calm k) (do_send k.toClient request func_name) := by
  refine calm_lookups.bind (calm_lookups.wrapTransportError ?_) fun resp => calm_lookups.lift _
  exact calm_exchange (.inr rfl) _ _

/-- The retries, by induction on those that are left. -/
theorem calm_submit_with_retry (key : ParkKey) (payload : Bytes) {send : Op (Wire π) χ Unit}
    (hsend : Eff.Keeps (Calm k) send) (left : ℕ) :
    Eff.Keeps (Calm k) (submit_with_retry k.toClient key payload send left) := by
  induction left with
  | zero =>
    refine Eff.Keeps.tryCatch Calm.trans hsend fun e => ?_
    refine Eff.Keeps.ite _ ?_ (calm_lookups.throw _)
    exact calm_lookups.bind (calm_store_park _ _) fun _ => calm_lookups.throw _
  | succ left ih =>
    refine Eff.Keeps.tryCatch Calm.trans hsend fun e => ?_
    refine Eff.Keeps.ite _ ?_ (calm_lookups.throw _)
    exact calm_lookups.bind calm_sleep fun _ => ih

theorem calm_in_call {α : Type} {body : Op (Wire π) χ α} (h : Eff.Keeps (Calm k) body) :
    Eff.Keeps (Calm k) (in_call k.toClient body) := by
  refine calm_lookups.bind (calm_onSession _) fun _ => ?_
  refine calm_lookups.bind (calm_onSession _) fun _ => ?_
  exact Eff.Keeps.andFinally Calm.trans h (calm_onSession _)

theorem calm_async_submit (key : ParkKey) (build : Except PyError Bytes) (func_name : PyStr) :
    Eff.Keeps (Calm k) (async_submit k.toClient key build func_name) := by
  refine calm_in_call (calm_lookups.bind (calm_lookups.lift _) fun request_tlv => ?_)
  refine calm_lookups.bind (calm_lookups.invoke_frame _) fun request => ?_
  exact calm_submit_with_retry _ _ (calm_do_send _ _) _

theorem calm_async_confirm_tid (tid : PyStr) :
    Eff.Keeps (Calm k) (async_confirm_tid k.toClient tid) := by
  refine calm_in_call (calm_lookups.bind (calm_lookups.lift _) fun request_tlv => ?_)
  exact calm_lookups.bind (calm_lookups.invoke_frame _) fun request => calm_do_send _ _

theorem calm_async_resend (key : ParkKey) (payload : Bytes) (func_name : PyStr) :
    Eff.Keeps (Calm k) (async_resend k.toClient key payload func_name) :=
  calm_in_call (calm_submit_with_retry _ _ (calm_do_send _ _) _)

theorem calm_async_retry_parked (tid : PyStr) :
    Eff.Keeps (Calm k) (async_retry_parked k.toClient tid) := by
  unfold async_retry_parked
  cases k.tid_store with
  | none => exact calm_lookups.throw _
  | some store =>
    refine calm_lookups.bind (calm_onStore _) fun payload => ?_
    cases payload with
    | none => exact calm_lookups.throw _
    | some payload => exact calm_lookups.bind (calm_async_resend _ _ _) fun _ => calm_onStore _

theorem calm_async_retry_parked_unit (unit_id unit_type : PyStr) :
    Eff.Keeps (Calm k) (async_retry_parked_unit k.toClient unit_id unit_type) := by
  unfold async_retry_parked_unit
  cases k.unit_store with
  | none => exact calm_lookups.throw _
  | some store =>
    refine calm_lookups.bind (calm_onStore _) fun payload => ?_
    cases payload with
    | none => exact calm_lookups.throw _
    | some payload => exact calm_lookups.bind (calm_async_resend _ _ _) fun _ => calm_onStore _

theorem calm_sync_submit (build : Except PyError Bytes) (func_name : PyStr) :
    Eff.Keeps (Calm k) (sync_submit k.toClient build func_name) := by
  refine calm_lookups.bind (calm_onSession _) fun _ => ?_
  refine calm_lookups.bind (calm_onSession _) fun _ => ?_
  refine Eff.Keeps.andFinally Calm.trans ?_ (calm_onSession _)
  refine calm_lookups.bind (calm_lookups.lift _) fun request_tlv => ?_
  refine calm_lookups.bind (calm_lookups.invoke_frame _) fun request => ?_
  refine calm_lookups.bind (calm_lookups.wrapTransportError ?_) fun resp => calm_lookups.lift _
  exact calm_exchange (.inr rfl) _ _

/-! ## The ordinary call of the synchronous connection -/

theorem settled_wrapTransportError {α : Type} {x : Op (Wire π) χ α}
    (h : Eff.Keeps (Settled k) x) : Eff.Keeps (Settled k) (wrapTransportError x) := by
  intro c
  have hx := h c
  rw [run_wrapTransportError]
  cases hr : Eff.run x c with
  | mk r c' =>
    rw [hr] at hx
    cases r with
    | ok a => exact hx
    | error e => exact hx

theorem settled_established_call (func_name : PyStr) (params : Values V) :
    Eff.Keeps (Settled k) (established_call k.toClient func_name params) := by
  refine settled_in_call (settled_wrapTransportError ?_)
  refine settled_bind (calm_lookups.get_function_desc func_name) fun desc => ?_
  refine settled_bind calm_lookups.state fun c => Eff.Keeps.ite _ ?_ ?_
  · exact settled_bind (calm_lookups.lift _) fun frame => settled_guarded_invoke _ _ _ _
  · refine settled_bind (calm_lookups.lift _) fun request_tlv => ?_
    exact settled_bind (calm_lookups.invoke_frame _) fun request =>
      settled_guarded_invoke _ _ _ _

/-! ## Runs -/

/-- An operation of a classic connection, over the asynchronous core or without it. -/
inductive ClassicOp (V : Type) where
  | call (delegated : Bool) (func_name : PyStr) (params : Values V)
  | call_transactional (delegated : Bool) (func_name tid : PyStr) (queue : Option PyStr)
  | confirm_tid (delegated : Bool) (tid : PyStr)
  | submit_unit (delegated : Bool) (uid unit_type : PyStr) (queues : List PyStr)
      (buffered_calls : List Bytes)
  | retry_parked (tid : PyStr)
  | retry_parked_unit (unit_id unit_type : PyStr)

/-- The operation, its result aside. -/
def ClassicOp.run (k : StreamClient π χ V) : ClassicOp V → Op (Wire π) χ Unit
  | call true func_name params => do
    let _ ← async_call k.toClient func_name params
    pure ()
  | call false func_name params => do
    let _ ← established_call k.toClient func_name params
    pure ()
  | call_transactional true func_name tid queue =>
    async_call_transactional k.toClient func_name tid queue
  | call_transactional false func_name tid queue =>
    Program.call_transactional k.toClient func_name tid queue
  | confirm_tid true tid => async_confirm_tid k.toClient tid
  | confirm_tid false tid => Program.confirm_tid k.toClient tid
  | submit_unit true uid unit_type queues buffered_calls =>
    async_submit_unit k.toClient uid unit_type queues buffered_calls
  | submit_unit false uid unit_type queues buffered_calls =>
    Program.submit_unit k.toClient uid unit_type queues buffered_calls
  | retry_parked tid => async_retry_parked k.toClient tid
  | retry_parked_unit unit_id unit_type => async_retry_parked_unit k.toClient unit_id unit_type

theorem classicOp_settled (op : ClassicOp V) :
    Eff.Keeps (Settled k) (op.run k : Op (Wire π) χ Unit) := by
  cases op with
  | call delegated func_name params =>
    cases delegated with
    | true => exact settled_result (settled_async_call func_name params) fun _ => .ok ()
    | false => exact settled_result (settled_established_call func_name params) fun _ => .ok ()
  | call_transactional delegated func_name tid queue =>
    cases delegated with
    | true => exact fun c => (calm_async_submit _ _ _ c).toSettled
    | false => exact fun c => (calm_sync_submit _ _ c).toSettled
  | confirm_tid delegated tid =>
    cases delegated with
    | true => exact fun c => (calm_async_confirm_tid _ c).toSettled
    | false => exact fun c => (calm_sync_submit _ _ c).toSettled
  | submit_unit delegated uid unit_type queues buffered_calls =>
    cases delegated with
    | true => exact fun c => (calm_async_submit _ _ _ c).toSettled
    | false => exact fun c => (calm_sync_submit _ _ c).toSettled
  | retry_parked tid => exact fun c => (calm_async_retry_parked _ c).toSettled
  | retry_parked_unit unit_id unit_type =>
    exact fun c => (calm_async_retry_parked_unit _ _ c).toSettled

/-- In any state but `READY` a submit without a core is refused. -/
theorem run_sync_submit_refused (build : Except PyError Bytes) (func_name : PyStr)
    {c : Conn (Wire π) χ} (hc : c.session.state ≠ .READY) :
    ∃ e, Eff.run (sync_submit k.toClient build func_name) c = (.error e, c) := by
  obtain ⟨e, he⟩ := run_require_ready_refused k.p.u hc
  refine ⟨e, ?_⟩
  unfold sync_submit onSession
  rw [Eff.run_bind, Eff.run_zoom, he]

/-- A retry asks its store first; then it is refused as every method is. -/
theorem guarded_after_store {x : Eff PyError χ (Option Bytes)}
    {f : Option Bytes → Op (Wire π) χ Unit}
    (hf : ∀ payload (c : Conn (Wire π) χ), c.session.state ≠ .READY →
      ∃ e, Eff.run (f payload) c = (.error e, c)) : Guarded (onStore x >>= f) := by
  intro c hc
  unfold onStore
  rw [Eff.run_bind, Eff.run_zoom]
  cases hr : Eff.run x c.user with
  | mk r user =>
    cases r with
    | error e => exact ⟨e, { c with user := user }, rfl, rfl, rfl, rfl⟩
    | ok payload =>
      obtain ⟨e, he⟩ := hf payload { c with user := user } hc
      exact ⟨e, _, he, rfl, rfl, rfl⟩

/-- INTERNAL: what stands behind a refused method is not reached. -/
theorem refused_bind {α β : Type} {x : Op (Wire π) χ α} {f : α → Op (Wire π) χ β}
    {c : Conn (Wire π) χ} (h : ∃ e, Eff.run x c = (.error e, c)) :
    ∃ e, Eff.run (x >>= f) c = (.error e, c) := by
  obtain ⟨e, he⟩ := h
  exact ⟨e, by rw [Eff.run_bind, he]⟩

theorem classicOp_guarded (op : ClassicOp V) : Guarded (op.run k : Op (Wire π) χ Unit) := by
  cases op with
  | call delegated func_name params =>
    refine guarded_of_refused fun c hc => ?_
    cases delegated with
    | true => exact refused_bind (run_in_call_refused k.toClient _ hc)
    | false => exact refused_bind (run_in_call_refused k.toClient _ hc)
  | call_transactional delegated func_name tid queue =>
    refine guarded_of_refused fun c hc => ?_
    cases delegated with
    | true => exact run_in_call_refused k.toClient _ hc
    | false => exact run_sync_submit_refused _ _ hc
  | confirm_tid delegated tid =>
    refine guarded_of_refused fun c hc => ?_
    cases delegated with
    | true => exact run_in_call_refused k.toClient _ hc
    | false => exact run_sync_submit_refused _ _ hc
  | submit_unit delegated uid unit_type queues buffered_calls =>
    refine guarded_of_refused fun c hc => ?_
    cases delegated with
    | true => exact run_in_call_refused k.toClient _ hc
    | false => exact run_sync_submit_refused _ _ hc
  | retry_parked tid =>
    unfold ClassicOp.run async_retry_parked
    cases k.tid_store with
    | none => exact guarded_of_refused fun c _ => ⟨_, rfl⟩
    | some store =>
      refine guarded_after_store fun payload c hc => ?_
      cases payload with
      | none => exact ⟨_, rfl⟩
      | some payload => exact refused_bind (run_in_call_refused k.toClient _ hc)
  | retry_parked_unit unit_id unit_type =>
    unfold ClassicOp.run async_retry_parked_unit
    cases k.unit_store with
    | none => exact guarded_of_refused fun c _ => ⟨_, rfl⟩
    | some store =>
      refine guarded_after_store fun payload c hc => ?_
      cases payload with
      | none => exact ⟨_, rfl⟩
      | some payload => exact refused_bind (run_in_call_refused k.toClient _ hc)

variable (k)

/-- The request was written, and its reply was not read to its end. -/
def LeavesReply (t : Trip (Wire π)) : Prop :=
  (ended k t).2.sent ≠ t.before.sent ∧ ∃ e, (ended k t).1 = .error e

/-- Behind a submit whose reply was not read to its end the session is `BROKEN`, and no
byte of an earlier reply was read as the reply to a later request. -/
def FailsClosed (c : Conn (Wire π) χ) : Prop :=
  (∀ t ∈ c.trips, t.purpose = .submit → LeavesReply k t → c.session.state = .BROKEN) ∧
    Own c.wire

variable {k} in
/-- A harmless submit was not written or was read to its end. -/
theorem not_leavesReply {t : Trip (Wire π)} (h : Harmless k t) (hp : t.purpose = .submit)
    (hfresh : Fresh t.before) : ¬ LeavesReply k t := by
  rintro ⟨hwritten, e, he⟩
  by_cases hsent : Unsent t.before t.request
  · exact hwritten (ended_unsent hsent hfresh).2
  · cases h with
    | unsent h => exact hsent h
    | guarded hp' => rcases hp' with hp' | hp' <;> simp [hp'] at hp
    | lookup hp' => simp [IsLookup, hp] at hp'
    | submit _ hplan hread =>
      obtain ⟨b, hb⟩ := hread
      obtain ⟨-, hr, -⟩ := ended_undisturbed (k := k) hsent hfresh hplan
      rw [he, hb] at hr
      cases hr

/-- In every run of harmless trips the connection fails closed. -/
theorem submits_fail_closed_of_harmless (c : Conn (Wire π) χ) (htrips : c.trips = [])
    (hfresh : Fresh c.wire) (ops : List (ClassicOp V))
    (hall : ∀ t ∈ (runAll (ops.map (·.run k)) c).trips, Harmless k t) :
    FailsClosed k (runAll (ops.map (·.run k)) c) := by
  have hops : ∀ op ∈ ops.map (·.run k), Eff.Keeps (Settled k) op ∧
      Guarded (op : Op (Wire π) χ Unit) := by
    intro op hop
    obtain ⟨op, -, rfl⟩ := List.mem_map.mp hop
    exact ⟨classicOp_settled op, classicOp_guarded op⟩
  obtain ⟨d, hd, hrun⟩ := sound_runAll hops c
  rw [htrips, List.nil_append] at hd
  rw [hd] at hall
  obtain ⟨hbefore, hown, -⟩ := hrun hall ⟨hfresh.own, .inl hfresh.empty⟩
  refine ⟨fun t ht hp hleaves => ?_, hown⟩
  rw [hd] at ht
  exact absurd hleaves (not_leavesReply (hall t ht) hp (hbefore t ht))

/-! ## The run of a submit that times out -/

/-- A transaction and its confirmation, with one retry left, under these plans. -/
def shipAndConfirm (plans : List Plan) : Conn (Wire Unit) Tables :=
  runAll ([ClassicOp.call_transactional true (lit "Z_POST") (List.replicate 24 65) none,
      .confirm_tid true (List.replicate 24 65)].map (·.run (plainClient pongLink 1)))
    (readyConn (Wire.connect () plans) Tables.empty)

/-- Nothing is disturbed. -/
theorem submits_fail_closed_of_harmless_undisturbed :
    FailsClosed (plainClient pongLink 1) (shipAndConfirm []) := by
  refine submits_fail_closed_of_harmless _ _ rfl
    ⟨fun _ h => (List.not_mem_nil h).elim, rfl⟩ _ fun t ht => ?_
  have htrips : ∀ t ∈ (shipAndConfirm []).trips, t.purpose = .submit ∧
      Only (fun _ => False) (planOf t.before) ∧
        alone (plainClient pongLink 1) t = (.ok pong, []) := by
    decide +kernel
  obtain ⟨hp, hplan, hread⟩ := htrips t ht
  exact .submit hp hplan ⟨pong, hread⟩

/-- The first reply is waited for in vain: the retry takes it for its own. -/
theorem timed_out_submit_misread :
    ¬ FailsClosed (plainClient pongLink 1)
        (shipAndConfirm [[.proceed, .refuse (err .timeout [])]]) ∧
      (2, 1) ∈ (shipAndConfirm [[.proceed, .refuse (err .timeout [])]]).wire.taken ∧
      (shipAndConfirm [[.proceed, .refuse (err .timeout [])]]).session.state = .READY := by
  have hstale : (2, 1) ∈
      (shipAndConfirm [[.proceed, .refuse (err .timeout [])]]).wire.taken := by
    decide +kernel
  refine ⟨fun h => absurd (h.2 _ hstale) (by decide), hstale, ?_⟩
  decide +kernel

end SapRfc.Analysis.FailClosed
