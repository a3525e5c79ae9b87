import SapRfc.Program.Dispatch

/-!
# How far a shipped frame gets

Both ship branches check before they call a handler, and what they check is partly in
the frame and partly in the state of the application.  `TrfcReaches` and `UnitOpens`
say when all checks pass; `CallsPass` says when the calls of a unit run one behind the
other without an error.  Each comes with two run lemmas: the run when it holds, and
what is left in the log when it does not.
-/

set_option autoImplicit false

namespace SapRfc.Analysis.Shipping

open SapRfc.Library SapRfc.Program

variable {χ V α : Type}

/-! ## The log -/

/-- The log grew by events with the property `P`. -/
def Adds (P : ServerEvent → Prop) (w w' : ServerWorld χ) : Prop :=
  ∃ d, w'.events = w.events ++ d ∧ ∀ e ∈ d, P e

section Adds

variable {P : ServerEvent → Prop}

theorem Adds.refl (w : ServerWorld χ) : Adds P w w := ⟨[], by simp, nofun⟩

theorem Adds.trans (a b d : ServerWorld χ) (h : Adds P a b) (h' : Adds P b d) : Adds P a d := by
  obtain ⟨l, hl, hP⟩ := h
  obtain ⟨l', hl', hP'⟩ := h'
  refine ⟨l ++ l', by rw [hl', hl, List.append_assoc], ?_⟩
  intro e he
  rcases List.mem_append.mp he with he | he
  · exact hP e he
  · exact hP' e he

theorem Adds.mono {Q : ServerEvent → Prop} {w w' : ServerWorld χ} (h : Adds P w w')
    (imp : ∀ e, P e → Q e) : Adds Q w w' := by
  obtain ⟨d, hd, hP⟩ := h
  exact ⟨d, hd, fun e he => imp e (hP e he)⟩

/-- An event without the property is in the log afterwards only if it was before. -/
theorem Adds.mem {w w' : ServerWorld χ} (h : Adds P w w') {e : ServerEvent} (hP : ¬ P e)
    (hmem : e ∈ w'.events) : e ∈ w.events := by
  obtain ⟨d, hd, hall⟩ := h
  rw [hd] at hmem
  rcases List.mem_append.mp hmem with hmem | hmem
  · exact hmem
  · exact absurd (hall e hmem) hP

/-- Nothing was added. -/
theorem Adds.events_eq {w w' : ServerWorld χ} (h : Adds (fun _ => False) w w') :
    w'.events = w.events := by
  obtain ⟨d, hd, hnone⟩ := h
  rw [hd, List.eq_nil_iff_forall_not_mem.mpr hnone, List.append_nil]

/-- The log only grows. -/
theorem Adds.subset {w w' : ServerWorld χ} (h : Adds P w w') {e : ServerEvent}
    (hmem : e ∈ w.events) : e ∈ w'.events := by
  obtain ⟨d, hd, -⟩ := h
  rw [hd]
  exact List.mem_append_left _ hmem

/-! INTERNAL: the rules for programs that add events. -/

theorem keeps_pure (a : α) : Eff.Keeps (Adds P (χ := χ)) (pure a : Eff PyError _ α) :=
  Eff.Keeps.pure Adds.refl a

theorem keeps_throw (e : PyError) : Eff.Keeps (Adds P (χ := χ)) (throw e : Eff PyError _ α) :=
  Eff.Keeps.throw Adds.refl e

theorem keeps_lift (r : Except PyError α) : Eff.Keeps (Adds P (χ := χ)) (Eff.lift r) :=
  Eff.Keeps.lift Adds.refl r

theorem keeps_bind {β : Type} {x : Eff PyError (ServerWorld χ) α}
    {f : α → Eff PyError (ServerWorld χ) β} (hx : Eff.Keeps (Adds P) x)
    (hf : ∀ a, Eff.Keeps (Adds P) (f a)) : Eff.Keeps (Adds P) (x >>= f) :=
  Eff.Keeps.bind Adds.trans hx hf

theorem keeps_ext (x : Eff PyError χ α) : Eff.Keeps (Adds P) (ext x) := fun _ =>
  ⟨[], by simp [ext, Eff.run, Eff.mk], nofun⟩

theorem keeps_note {e : ServerEvent} (h : P e) : Eff.Keeps (Adds P (χ := χ)) (note e) := fun w =>
  ⟨[e], rfl, by simpa using h⟩

theorem keeps_attempt {x : Eff PyError (ServerWorld χ) α} (hx : Eff.Keeps (Adds P) x) :
    Eff.Keeps (Adds P) (attempt x) := by
  refine Eff.Keeps.tryCatch Adds.trans (keeps_bind hx fun _ => keeps_pure _) ?_
  intro e
  exact Eff.Keeps.ite _ (keeps_pure _) (keeps_throw _)

theorem keeps_callback (x : Option (Eff PyError χ Unit)) : Eff.Keeps (Adds P) (callback x) := by
  cases x with
  | none => exact keeps_pure ()
  | some x => exact keeps_ext x

theorem keeps_isolated (x : Option (Eff PyError χ Unit)) : Eff.Keeps (Adds P) (isolated x) :=
  keeps_bind (keeps_attempt (keeps_callback x)) fun _ => keeps_pure _

theorem keeps_run_body (h : Handler χ V) (request : Values V)
    (hraised : P (.raised h.id)) (hcompleted : P (.completed h.id)) :
    Eff.Keeps (Adds P) (run_body h request) := by
  refine keeps_bind (Eff.Keeps.tryCatch Adds.trans (keeps_ext _) fun e => ?_) fun _ => ?_
  · exact keeps_bind (keeps_note hraised) fun _ => keeps_throw e
  · exact keeps_bind (keeps_note hcompleted) fun _ => keeps_pure _

theorem keeps_call_handler (h : Handler χ V) (request : Values V) (hcalled : P (.called h.id))
    (hraised : P (.raised h.id)) (hcompleted : P (.completed h.id)) :
    Eff.Keeps (Adds P) (call_handler h request) := by
  refine keeps_bind (keeps_note hcalled) fun _ => ?_
  refine Eff.Keeps.ite _ (keeps_pure _) ?_
  exact keeps_bind (keeps_run_body h request hraised hcompleted) fun _ => keeps_pure _

/-- A program that adds no event leaves the log as it is. -/
theorem events_of_silent {x : Eff PyError (ServerWorld χ) α}
    (hx : Eff.Keeps (Adds fun _ => False) x) (w : ServerWorld χ) :
    (Eff.run x w).2.events = w.events :=
  (hx w).events_eq

end Adds

/-! ## Runs of the parts -/

theorem run_ext (x : Eff PyError χ α) (g : χ) (l : List ServerEvent) :
    Eff.run (ext x) ⟨g, l⟩ = ((Eff.run x g).1, ⟨(Eff.run x g).2, l⟩) := rfl

theorem run_ext_of {x : Eff PyError χ α} {g g' : χ} {r : Except PyError α}
    (h : Eff.run x g = (r, g')) (l : List ServerEvent) :
    Eff.run (ext x) ⟨g, l⟩ = (r, ⟨g', l⟩) := by
  rw [run_ext, h]

@[simp] theorem run_note (e : ServerEvent) (g : χ) (l : List ServerEvent) :
    Eff.run (note e) (⟨g, l⟩ : ServerWorld χ) = (.ok (), ⟨g, l ++ [e]⟩) := rfl

/-! ## One handler -/

/-- The call of a handler goes through: its body ends without raising, or it is an
`async def`, whose call only makes a coroutine. -/
def Passes (h : Handler χ V) (request : Values V) (g g' : χ) : Prop :=
  if h.coroutine then g' = g else ∃ values, Eff.run (h.body request) g = (.ok values, g')

/-- What the log shows of a call that went through. -/
def callTrace (h : Handler χ V) : List ServerEvent :=
  .called h.id :: if h.coroutine then [] else [.completed h.id]

theorem run_call_handler_of_passes {h : Handler χ V} {request : Values V} {g g' : χ}
    (hpass : Passes h request g g') (l : List ServerEvent) :
    ∃ called, Eff.run (call_handler h request) ⟨g, l⟩ = (.ok called, ⟨g', l ++ callTrace h⟩) := by
  unfold Passes at hpass
  unfold call_handler callTrace
  rw [Eff.run_bind_ok (run_note _ _ _), Eff.run_ite]
  cases hco : h.coroutine with
  | true =>
    simp only [hco, if_true] at hpass
    subst hpass
    exact ⟨.coroutine, by simp⟩
  | false =>
    simp only [hco, Bool.false_eq_true, if_false] at hpass
    obtain ⟨values, hbody⟩ := hpass
    refine ⟨.result values, ?_⟩
    unfold run_body
    simp only [Bool.false_eq_true, if_false]
    rw [Eff.run_bind, Eff.run_bind, Eff.run_tryCatch, run_ext_of hbody]
    simp only [Eff.run_bind, run_note, Eff.run_pure, List.append_assoc, List.singleton_append]

/-- A call that does not go through raises from the handler's body. -/
theorem run_call_handler_of_not_passes {h : Handler χ V} {request : Values V} {g : χ}
    (hpass : ¬ ∃ g', Passes h request g g') (l : List ServerEvent) :
    ∃ e g', Eff.run (call_handler h request) ⟨g, l⟩ =
      (.error e, ⟨g', l ++ [.called h.id, .raised h.id]⟩) := by
  have hco : h.coroutine = false := by
    by_contra hne
    exact hpass ⟨g, by unfold Passes; simp [hne]⟩
  unfold call_handler run_body
  rw [Eff.run_bind_ok (run_note _ _ _), Eff.run_ite]
  simp only [hco, Bool.false_eq_true, if_false]
  cases hbody : Eff.run (h.body request) g with
  | mk r g' =>
    cases r with
    | ok values => exact absurd ⟨g', by unfold Passes; simp [hco, hbody]⟩ hpass
    | error e =>
      refine ⟨e, g', ?_⟩
      rw [Eff.run_bind, Eff.run_bind, Eff.run_tryCatch, run_ext_of hbody]
      simp only [Eff.run_bind, run_note, Eff.run_throw, List.append_assoc, List.singleton_append]

/-! ## Answers -/

theorem executed_ne_ok : build_rfc_executed_response ≠ build_rfc_ok_response := by decide

/-- INTERNAL: a failure starts with its return code. -/
theorem take_system_failure {message : PyStr} {out : Bytes}
    (h : build_system_failure message = .ok out) :
    out.take 14 = (Records.encode Tag.RESPONSE_START [] ++
      Records.encode Tag.RETURN_CODE (toBE 4 RC_SYSTEM_FAILURE)).take 14 := by
  unfold build_system_failure at h
  cases htext : encodeUtf16le (sanitize_message message) with
  | error e =>
    rw [htext] at h
    cases h
  | ok text =>
    rw [htext] at h
    rw [join_records_ok h]
    rfl

/-- The return code of a failure is not 0. -/
theorem system_failure_ne_ok (message : PyStr) :
    build_system_failure message ≠ .ok build_rfc_ok_response :=
  fun h => absurd (take_system_failure h) (by decide)

/-- Nor does it say that the transaction was executed before. -/
theorem system_failure_ne_executed (message : PyStr) :
    build_system_failure message ≠ .ok build_rfc_executed_response :=
  fun h => absurd (take_system_failure h) (by decide)

/-- The run adds events with `P` only, and does not answer RFC_OK. -/
def Declines (P : ServerEvent → Prop) (x : Eff PyError (ServerWorld χ) Bytes)
    (w : ServerWorld χ) : Prop :=
  Eff.Sat x (fun r w' => Adds P w w' ∧ r ≠ .ok build_rfc_ok_response) w

section Declines

variable {P : ServerEvent → Prop} {g : χ} {l : List ServerEvent}

theorem declines_failure (message : PyStr) (w : ServerWorld χ) :
    Declines P (Eff.lift (build_system_failure message)) w :=
  ⟨Adds.refl w, system_failure_ne_ok message⟩

theorem declines_executed (w : ServerWorld χ) :
    Declines P (pure build_rfc_executed_response) w :=
  ⟨Adds.refl w, fun h => executed_ne_ok (Except.ok.inj h)⟩

/-- Application code that raises ends the dispatch; else the rest has to decline. -/
theorem declines_ext {x : Eff PyError χ α} {f : α → Eff PyError (ServerWorld χ) Bytes}
    (h : ∀ a g', Eff.run x g = (.ok a, g') → Declines P (f a) ⟨g', l⟩) :
    Declines P (ext x >>= f) ⟨g, l⟩ := by
  unfold Declines Eff.Sat
  rcases hx : Eff.run x g with ⟨_ | a, g'⟩
  · rw [Eff.run_bind_error (run_ext_of hx l)]
    exact ⟨Adds.refl (χ := χ) ⟨g', l⟩, nofun⟩
  · rw [Eff.run_bind_ok (run_ext_of hx l)]
    exact h a g' hx

theorem declines_lift {r : Except PyError α} {f : α → Eff PyError (ServerWorld χ) Bytes}
    {w : ServerWorld χ} (h : ∀ a, r = .ok a → Declines P (f a) w) :
    Declines P (Eff.lift r >>= f) w := by
  cases r with
  | error e => exact ⟨Adds.refl w, nofun⟩
  | ok a => exact h a rfl

/-- After a program that adds nothing else, the rest has to decline. -/
theorem declines_keeps {x : Eff PyError (ServerWorld χ) α}
    {f : α → Eff PyError (ServerWorld χ) Bytes} {w : ServerWorld χ} (hx : Eff.Keeps (Adds P) x)
    (h : ∀ a w', Declines P (f a) w') : Declines P (x >>= f) w := by
  refine hx.sat_bind (fun a w' hw => ?_) (fun e w' hw => ⟨hw, nofun⟩)
  exact (h a w').mono fun r w'' hr => ⟨Adds.trans _ _ _ hw hr.1, hr.2⟩

theorem declines_rollback (srv : RfcServer χ V) (tid message : PyStr) (w : ServerWorld χ) :
    Declines P (rollback_transaction srv tid message) w := by
  refine declines_keeps (keeps_ext _) fun _ w => ?_
  exact declines_keeps (keeps_callback _) fun _ w => declines_failure message w

end Declines

/-! ## tRFC -/

/-- The event is the choice of an entry. -/
def IsSelected (e : ServerEvent) : Prop := ∃ id, e = .selected id

variable (p : Platform V) (srv : RfcServer χ V) (tlv : Bytes)

/-- A tRFC ship gets to its handler: the TID is valid and new, the store took it, the
wrapped name has an entry, and the request can be read. -/
inductive TrfcReaches (g : χ) : PyStr → Entry χ V → Values V → χ → Prop
  | intro {tid name : PyStr} {entry : Entry χ V} {request : Values V} {g₁ g₂ g₃ : χ}
      (tid_read : extract_tid_from_frame p tlv = .ok tid)
      (valid : tid_fault tid = none)
      (fresh : Eff.run (srv.check_transaction tid) g = (.ok false, g₁))
      (received : Eff.run (srv.tid_store.mark_received tid) g₁ = (.ok (), g₂))
      (wrapped : extract_param_from_frame p tlv (lit "ARFCFNAM") = .ok name)
      (found : Eff.run (srv.lookup_wrapped p name) g₂ = (.ok (some entry), g₃))
      (request_read : deserialize_request p tlv entry.1 = .ok request) :
      TrfcReaches g tid entry request g₃

variable {p srv tlv}

theorem run_dispatch_transactional_of_reaches {g g' : χ} {tid : PyStr} {entry : Entry χ V}
    {request : Values V} (h : TrfcReaches p srv tlv g tid entry request g')
    (l : List ServerEvent) :
    Eff.run (dispatch_transactional p srv tlv) ⟨g, l⟩ =
      Eff.run (run_shipped srv tid entry.2 request) ⟨g', l ++ [.selected entry.2.id]⟩ := by
  cases h with
  | intro tid_read valid fresh received wrapped found request_read =>
    unfold dispatch_transactional
    rw [tid_read, Eff.run_bind_ok (Eff.run_lift _ _)]
    simp only [valid]
    rw [Eff.run_bind_ok (run_ext_of fresh l), if_neg Bool.false_ne_true]
    unfold open_shipped
    rw [Eff.run_bind_ok (run_ext_of received l), wrapped, Eff.run_bind_ok (Eff.run_lift _ _),
      Eff.run_bind_ok (run_ext_of found l)]
    simp only
    rw [Eff.run_bind_ok (run_note _ _ _), request_read, Eff.run_bind_ok (Eff.run_lift _ _)]

theorem declines_dispatch_transactional {g : χ}
    (h : ¬ ∃ tid entry request g', TrfcReaches p srv tlv g tid entry request g')
    (l : List ServerEvent) :
    Declines IsSelected (dispatch_transactional p srv tlv) ⟨g, l⟩ := by
  refine declines_lift fun tid htid => ?_
  cases hvalid : tid_fault tid with
  | some message => exact declines_failure message _
  | none =>
    refine declines_ext fun done g₁ hcheck => ?_
    cases done with
    | true => exact declines_executed _
    | false =>
      refine declines_ext fun _ g₂ hreceived => declines_lift fun name hname => ?_
      refine declines_ext fun entry g₃ hfound => ?_
      cases entry with
      | none => exact declines_rollback srv tid _ _
      | some entry =>
        refine declines_keeps (keeps_note ⟨_, rfl⟩) fun _ w => declines_lift fun request hreq => ?_
        exact absurd ⟨tid, entry, request, g₃,
          .intro htid hvalid hcheck hreceived hname hfound hreq⟩ h

/-- Behind the checks the call decides: it goes through and the TID is marked, or its
body raises and the answer is a failure. -/
theorem run_run_shipped_of_passes {g g' : χ} {tid : PyStr} {h : Handler χ V} {request : Values V}
    (hpass : Passes h request g g') (l : List ServerEvent) :
    (Eff.run (run_shipped srv tid h request) ⟨g, l⟩).2.events =
      l ++ callTrace h ++ [.marked_executed tid] := by
  obtain ⟨called, hcall⟩ := run_call_handler_of_passes hpass l
  unfold run_shipped
  rw [Eff.run_bind_ok (run_attempt_ok hcall)]
  simp only
  rw [Eff.run_bind_ok (run_note _ _ _)]
  refine events_of_silent ?_ _
  exact keeps_bind (keeps_ext _) fun _ => keeps_bind (keeps_callback _) fun _ => keeps_pure _

variable (srv) in
/-- A body that raised: the TID is rolled back. -/
theorem run_run_shipped_of_not_passes {g : χ} (tid : PyStr) {h : Handler χ V}
    {request : Values V} (hpass : ¬ ∃ g', Passes h request g g') (l : List ServerEvent) :
    (Eff.run (run_shipped srv tid h request) ⟨g, l⟩).2.events =
        l ++ [.called h.id, .raised h.id] ∧
      (Eff.run (run_shipped srv tid h request) ⟨g, l⟩).1 ≠ .ok build_rfc_ok_response := by
  obtain ⟨e, g', hcall⟩ := run_call_handler_of_not_passes hpass l
  unfold run_shipped
  have hattempt := run_attempt_error hcall
  split at hattempt
  · rw [Eff.run_bind_ok hattempt]
    have hdecl := declines_rollback (P := fun _ => False) srv tid e.text
      ⟨g', l ++ [.called h.id, .raised h.id]⟩
    exact ⟨hdecl.1.events_eq, hdecl.2⟩
  · rw [Eff.run_bind_error hattempt]
    exact ⟨rfl, nofun⟩

/-! ## The calls of a unit -/

/-- What the log shows of a shipped call that went through. -/
def shipTrace (h : Handler χ V) : List ServerEvent := .selected h.id :: callTrace h

variable (p srv) in
/-- A buffered call has a readable name, and the name an entry. -/
inductive Selects (call_bytes : Bytes) (g : χ) : Handler χ V → χ → Prop
  | intro {name : PyStr} {entry : Entry χ V} {g' : χ}
      (named : buffered_name p call_bytes = .ok name)
      (found : Eff.run (srv.lookup p name) g = (.ok (some entry), g')) :
      Selects call_bytes g entry.2 g'

theorem run_execute_buffered_call_of_passes {call_bytes : Bytes} {g g₁ g₂ : χ}
    {h : Handler χ V} (hsel : Selects p srv call_bytes g h g₁) (hpass : Passes h [] g₁ g₂)
    (l : List ServerEvent) :
    Eff.run (execute_buffered_call p srv call_bytes) ⟨g, l⟩ =
      (.ok none, ⟨g₂, l ++ shipTrace h⟩) := by
  cases hsel with
  | @intro name entry _ named found =>
    obtain ⟨called, hcall⟩ := run_call_handler_of_passes hpass (l ++ [.selected entry.2.id])
    unfold execute_buffered_call
    simp only [named]
    rw [Eff.run_bind_ok (run_ext_of found l)]
    simp only
    rw [Eff.run_bind_ok (run_note _ _ _), Eff.run_bind_ok (run_attempt_ok hcall)]
    simp [shipTrace]

/-- A call whose body raised is not done. -/
theorem run_execute_buffered_call_of_not_passes {call_bytes : Bytes} {g g₁ : χ}
    {h : Handler χ V} (hsel : Selects p srv call_bytes g h g₁)
    (hpass : ¬ ∃ g₂, Passes h [] g₁ g₂) (l : List ServerEvent) :
    (Eff.run (execute_buffered_call p srv call_bytes) ⟨g, l⟩).1 ≠ .ok none ∧
      (Eff.run (execute_buffered_call p srv call_bytes) ⟨g, l⟩).2.events =
        l ++ [.selected h.id, .called h.id, .raised h.id] := by
  cases hsel with
  | @intro name entry _ named found =>
    obtain ⟨e, g', hcall⟩ := run_call_handler_of_not_passes hpass (l ++ [.selected entry.2.id])
    unfold execute_buffered_call
    simp only [named]
    rw [Eff.run_bind_ok (run_ext_of found l)]
    simp only
    rw [Eff.run_bind_ok (run_note _ _ _)]
    have hattempt := run_attempt_error hcall
    split at hattempt
    · rw [Eff.run_bind_ok hattempt]
      simp only
      cases firstLine e.text with
      | error e' => exact ⟨nofun, by simp [Eff.run_bind]⟩
      | ok line => exact ⟨nofun, by simp [Eff.run_bind]⟩
    · rw [Eff.run_bind_error hattempt]
      exact ⟨nofun, by simp⟩

/-- A call that selects no handler is not done either, and the log does not show it. -/
theorem run_execute_buffered_call_of_not_selects {call_bytes : Bytes} {g : χ}
    (hsel : ¬ ∃ h g', Selects p srv call_bytes g h g') (l : List ServerEvent) :
    (Eff.run (execute_buffered_call p srv call_bytes) ⟨g, l⟩).1 ≠ .ok none ∧
      (Eff.run (execute_buffered_call p srv call_bytes) ⟨g, l⟩).2.events = l := by
  unfold execute_buffered_call
  cases hname : buffered_name p call_bytes with
  | error message => exact ⟨nofun, rfl⟩
  | ok name =>
    simp only
    rcases hlookup : Eff.run (srv.lookup p name) g with ⟨_ | _ | entry, g'⟩
    · rw [Eff.run_bind_error (run_ext_of hlookup l)]
      exact ⟨nofun, rfl⟩
    · rw [Eff.run_bind_ok (run_ext_of hlookup l)]
      exact ⟨nofun, rfl⟩
    · exact absurd ⟨entry.2, g', .intro hname hlookup⟩ hsel

section Calls

variable {n i left : ℕ} {g : χ} {l : List ServerEvent} {call_bytes : Bytes}

/-- INTERNAL: a call that is not done ends the loop, and nothing more is noted. -/
theorem run_run_calls_stop {w : ServerWorld χ}
    (hraw : extract_raw_param_from_frame p tlv (call_name i) = some call_bytes)
    (hne : (Eff.run (execute_buffered_call p srv call_bytes) w).1 ≠ .ok none) :
    (Eff.run (run_calls p srv tlv n i (left + 1)) w).1 ≠ .ok none ∧
      (Eff.run (run_calls p srv tlv n i (left + 1)) w).2.events =
        (Eff.run (execute_buffered_call p srv call_bytes) w).2.events := by
  unfold run_calls
  simp only [hraw]
  rcases hrun : Eff.run (execute_buffered_call p srv call_bytes) w with ⟨e | _ | message, w'⟩
  · have hattempt := run_attempt_error hrun
    split at hattempt
    · rw [Eff.run_bind_ok hattempt]
      simp only
      cases firstLine e.text with
      | error e' => exact ⟨nofun, rfl⟩
      | ok line => exact ⟨nofun, rfl⟩
    · rw [Eff.run_bind_error hattempt]
      exact ⟨nofun, rfl⟩
  · exact absurd (by rw [hrun]) hne
  · rw [Eff.run_bind_ok (run_attempt_ok hrun)]
    exact ⟨nofun, rfl⟩

/-- A call that is done hands on to the next. -/
theorem run_run_calls_next {w w' : ServerWorld χ}
    (hraw : extract_raw_param_from_frame p tlv (call_name i) = some call_bytes)
    (hrun : Eff.run (execute_buffered_call p srv call_bytes) w = (.ok none, w')) :
    Eff.run (run_calls p srv tlv n i (left + 1)) w =
      Eff.run (run_calls p srv tlv n (i + 1) left) w' := by
  conv_lhs => unfold run_calls
  simp only [hraw]
  rw [Eff.run_bind_ok (run_attempt_ok hrun)]

/-- A call that the frame does not carry ends the loop. -/
theorem run_run_calls_missing {w : ServerWorld χ}
    (hraw : extract_raw_param_from_frame p tlv (call_name i) = none) :
    (Eff.run (run_calls p srv tlv n i (left + 1)) w).1 ≠ .ok none ∧
      (Eff.run (run_calls p srv tlv n i (left + 1)) w).2.events = w.events := by
  unfold run_calls
  simp only [hraw]
  exact ⟨nofun, rfl⟩

end Calls

variable (p srv tlv) in
/-- The calls from `i` on go through one behind the other, `left` of them. -/
inductive CallsPass : ℕ → ℕ → χ → List (Handler χ V) → χ → Prop
  | done (i : ℕ) (g : χ) : CallsPass i 0 g [] g
  | call {i left : ℕ} {g g₁ g₂ g' : χ} {call_bytes : Bytes} {h : Handler χ V}
      {hs : List (Handler χ V)}
      (carried : extract_raw_param_from_frame p tlv (call_name i) = some call_bytes)
      (selects : Selects p srv call_bytes g h g₁)
      (passes : Passes h [] g₁ g₂)
      (rest : CallsPass (i + 1) left g₂ hs g') :
      CallsPass i (left + 1) g (h :: hs) g'

/-- The event is about a handler. -/
def OfHandler (e : ServerEvent) : Prop :=
  ∃ id, e = .selected id ∨ e = .called id ∨ e = .completed id ∨ e = .raised id

theorem keeps_execute_buffered_call (call_bytes : Bytes) :
    Eff.Keeps (Adds OfHandler) (execute_buffered_call p srv call_bytes) := by
  unfold execute_buffered_call
  cases buffered_name p call_bytes with
  | error message => exact keeps_pure _
  | ok name =>
    refine keeps_bind (keeps_ext _) fun entry => ?_
    cases entry with
    | none => exact keeps_pure _
    | some entry =>
      refine keeps_bind (keeps_note ⟨_, .inl rfl⟩) fun _ => keeps_bind (keeps_attempt ?_) ?_
      · exact keeps_call_handler _ _ ⟨_, .inr (.inl rfl)⟩ ⟨_, .inr (.inr (.inr rfl))⟩
          ⟨_, .inr (.inr (.inl rfl))⟩
      · rintro (e | called)
        · exact keeps_bind (keeps_lift _) fun _ => keeps_pure _
        · exact keeps_pure _

variable (p srv tlv) in
theorem keeps_run_calls (n i left : ℕ) :
    Eff.Keeps (Adds OfHandler) (run_calls p srv tlv n i left) := by
  induction left generalizing i with
  | zero => exact keeps_pure _
  | succ left ih =>
    unfold run_calls
    cases extract_raw_param_from_frame p tlv (call_name i) with
    | none => exact keeps_pure _
    | some call_bytes =>
      refine keeps_bind (keeps_attempt (keeps_execute_buffered_call _)) ?_
      rintro (e | _ | message)
      · exact keeps_bind (keeps_lift _) fun _ => keeps_pure _
      · exact ih (i + 1)
      · exact keeps_pure _

variable (srv) in
/-- The end of a unit: nothing is noted but that the store confirms it. -/
theorem keeps_finish_unit {P : ServerEvent → Prop} (unit_id unit_type : PyStr)
    (hP : P (.confirmed unit_id unit_type)) (call_error : Option PyStr) :
    Eff.Keeps (Adds P) (finish_unit srv unit_id unit_type call_error) := by
  cases call_error with
  | some message => exact keeps_bind (keeps_isolated _) fun _ => keeps_lift _
  | none =>
    refine keeps_bind (keeps_isolated _) fun _ => keeps_bind (keeps_note hP) fun _ => ?_
    exact keeps_bind (keeps_ext _) fun _ => keeps_bind (keeps_isolated _) fun _ => keeps_pure _

/-- The log of a unit whose calls go through shows them all, in order. -/
theorem run_run_calls_of_pass {n i left : ℕ} {g g' : χ} {hs : List (Handler χ V)}
    (h : CallsPass p srv tlv i left g hs g') (l : List ServerEvent) :
    Eff.run (run_calls p srv tlv n i left) ⟨g, l⟩ =
      (.ok none, ⟨g', l ++ hs.flatMap shipTrace⟩) := by
  induction h generalizing l with
  | done i g => simp [run_calls]
  | call carried selects passes rest ih =>
    rw [run_run_calls_next carried (run_execute_buffered_call_of_passes selects passes l), ih,
      List.flatMap_cons, List.append_assoc]

theorem CallsPass.length_eq {tlv : Bytes} {i n : ℕ} {g g' : χ} {hs : List (Handler χ V)}
    (h : CallsPass p srv tlv i n g hs g') : hs.length = n := by
  induction h with
  | done i g => rfl
  | call carried selects passes rest ih => rw [List.length_cons, ih]

/-- Else the loop ends with an error. -/
theorem run_run_calls_of_not_pass {n i left : ℕ} {g : χ}
    (h : ¬ ∃ hs g', CallsPass p srv tlv i left g hs g') (l : List ServerEvent) :
    (Eff.run (run_calls p srv tlv n i left) ⟨g, l⟩).1 ≠ .ok none := by
  induction left generalizing i g l with
  | zero => exact absurd ⟨[], g, .done i g⟩ h
  | succ left ih =>
    cases hraw : extract_raw_param_from_frame p tlv (call_name i) with
    | none => exact (run_run_calls_missing hraw).1
    | some call_bytes =>
      by_cases hsel : ∃ h g₁, Selects p srv call_bytes g h g₁
      · obtain ⟨handler, g₁, hsel⟩ := hsel
        by_cases hpass : ∃ g₂, Passes handler [] g₁ g₂
        · obtain ⟨g₂, hpass⟩ := hpass
          rw [run_run_calls_next hraw (run_execute_buffered_call_of_passes hsel hpass l)]
          refine ih (fun hrest => ?_) _
          obtain ⟨hs, g', hrest⟩ := hrest
          exact h ⟨_, _, .call hraw hsel hpass hrest⟩
        · exact (run_run_calls_stop hraw
            (run_execute_buffered_call_of_not_passes hsel hpass l).1).1
      · exact (run_run_calls_stop hraw (run_execute_buffered_call_of_not_selects hsel l).1).1

/-! ## The checks of a unit -/

variable (p srv tlv) in
/-- A unit gets to its calls: its id is valid and new, the store took it, and the number
of calls can be read. -/
inductive UnitOpens (g : χ) : PyStr → PyStr → ℕ → χ → Prop
  | intro {unit_id raw_type count_str : PyStr} {n : ℕ} {g₁ g₂ : χ}
      (id_read : extract_param_from_frame p tlv (lit "BGRFC_UNIT_ID") = .ok unit_id)
      (valid : unit_id_fault unit_id = none)
      (type_read : extract_param_from_frame p tlv (lit "BGRFC_UNIT_TYPE") = .ok raw_type)
      (fresh : Eff.run (srv.check_unit unit_id (unit_type_of raw_type)) g = (.ok false, g₁))
      (persisted :
        Eff.run (srv.unit_store.persist unit_id (unit_type_of raw_type)) g₁ = (.ok (), g₂))
      (count_read : extract_param_from_frame p tlv (lit "BGRFC_CALL_COUNT") = .ok count_str)
      (counted : parse_call_count p count_str = .ok n) :
      UnitOpens g unit_id (unit_type_of raw_type) n g₂

theorem run_dispatch_bgrfc_unit_of_opens {g g' : χ} {unit_id unit_type : PyStr} {n : ℕ}
    (h : UnitOpens p srv tlv g unit_id unit_type n g') (l : List ServerEvent) :
    Eff.run (dispatch_bgrfc_unit p srv tlv) ⟨g, l⟩ =
      Eff.run (do
        let call_error ← run_calls p srv tlv n 0 n
        finish_unit srv unit_id unit_type call_error) ⟨g', l⟩ := by
  cases h with
  | intro id_read valid type_read fresh persisted count_read counted =>
    unfold dispatch_bgrfc_unit
    rw [id_read, Eff.run_bind_ok (Eff.run_lift _ _)]
    simp only [valid]
    rw [type_read, Eff.run_bind_ok (Eff.run_lift _ _), Eff.run_bind_ok (run_ext_of fresh l),
      if_neg Bool.false_ne_true]
    unfold open_unit
    rw [Eff.run_bind_ok (run_ext_of persisted l), count_read,
      Eff.run_bind_ok (Eff.run_lift _ _)]
    simp only [counted]

theorem declines_dispatch_bgrfc_unit {g : χ}
    (h : ¬ ∃ unit_id unit_type n g', UnitOpens p srv tlv g unit_id unit_type n g')
    (l : List ServerEvent) :
    Declines (fun _ => False) (dispatch_bgrfc_unit p srv tlv) ⟨g, l⟩ := by
  refine declines_lift fun unit_id hid => ?_
  cases hvalid : unit_id_fault unit_id with
  | some message => exact declines_failure message _
  | none =>
    refine declines_lift fun raw_type htype => declines_ext fun done g₁ hcheck => ?_
    cases done with
    | true => exact declines_executed _
    | false =>
      refine declines_ext fun _ g₂ hpersist => declines_lift fun count_str hcount => ?_
      cases hparse : parse_call_count p count_str with
      | error message => exact declines_failure message _
      | ok n =>
        exact absurd ⟨unit_id, _, n, g₂,
          .intro hid hvalid htype hcheck hpersist hcount hparse⟩ h

/-- An isolated callback does not end the dispatch: it returns, or raises what is caught. -/
def Returns (x : Option (Eff PyError χ Unit)) (g : χ) : Prop :=
  ∀ y e, x = some y → (Eff.run y g).1 = .error e → e.kind.isException = true

/-- The commit callback of the unit, if there is one, does not end the dispatch. -/
def CommitReturns (srv : RfcServer χ V) (unit_id unit_type : PyStr) (g : χ) : Prop :=
  Returns (srv.on_commit_unit.map fun f => f unit_id unit_type) g

theorem run_isolated_of_returns {x : Option (Eff PyError χ Unit)} {g : χ} (h : Returns x g)
    (l : List ServerEvent) : ∃ g', Eff.run (isolated x) ⟨g, l⟩ = (.ok (), ⟨g', l⟩) := by
  unfold isolated
  cases x with
  | none => exact ⟨g, rfl⟩
  | some y =>
    rcases hy : Eff.run y g with ⟨e | _, g'⟩
    · have hattempt := run_attempt_error (run_ext_of hy l)
      rw [if_pos (h y e rfl (by rw [hy]))] at hattempt
      exact ⟨g', Eff.run_bind_ok hattempt⟩
    · exact ⟨g', Eff.run_bind_ok (run_attempt_ok (run_ext_of hy l))⟩

theorem run_isolated_of_not_returns {x : Option (Eff PyError χ Unit)} {g : χ}
    (h : ¬ Returns x g) (l : List ServerEvent) :
    ∃ e g', Eff.run (isolated x) ⟨g, l⟩ = (.error e, ⟨g', l⟩) := by
  unfold Returns at h
  push Not at h
  obtain ⟨y, e, rfl, hraised, hkind⟩ := h
  rcases hy : Eff.run y g with ⟨e' | _, g'⟩
  · rw [hy] at hraised
    cases hraised
    have hattempt := run_attempt_error (run_ext_of hy l)
    rw [if_neg hkind] at hattempt
    exact ⟨e, g', Eff.run_bind_error hattempt⟩
  · rw [hy] at hraised
    cases hraised

/-- Behind calls that went through the unit is confirmed, unless the commit callback
ends the dispatch. -/
theorem run_finish_unit_of_commit {unit_id unit_type : PyStr} {g : χ}
    (h : CommitReturns srv unit_id unit_type g) (l : List ServerEvent) :
    (Eff.run (finish_unit srv unit_id unit_type none) ⟨g, l⟩).2.events =
      l ++ [.confirmed unit_id unit_type] := by
  obtain ⟨g', hrun⟩ := run_isolated_of_returns h l
  unfold finish_unit
  simp only
  rw [Eff.run_bind_ok hrun, Eff.run_bind_ok (run_note _ _ _)]
  refine events_of_silent ?_ _
  exact keeps_bind (keeps_ext _) fun _ => keeps_bind (keeps_isolated _) fun _ => keeps_pure _

theorem declines_finish_unit_of_not_commit {unit_id unit_type : PyStr} {g : χ}
    (h : ¬ CommitReturns srv unit_id unit_type g) (l : List ServerEvent) :
    Declines (fun _ => False) (finish_unit srv unit_id unit_type none) ⟨g, l⟩ := by
  obtain ⟨e, g', hrun⟩ := run_isolated_of_not_returns h l
  unfold Declines Eff.Sat finish_unit
  simp only
  rw [Eff.run_bind_error hrun]
  exact ⟨Adds.refl (χ := χ) ⟨g', l⟩, nofun⟩

variable (srv) in
theorem declines_finish_unit_error (unit_id unit_type message : PyStr) (w : ServerWorld χ) :
    Declines (fun _ => False) (finish_unit srv unit_id unit_type (some message)) w :=
  declines_keeps (keeps_isolated _) fun _ w => declines_failure message w

/-! ## The branches that call no handler -/

variable (p srv) in
theorem keeps_dispatch_bgrfc_confirm {P : ServerEvent → Prop}
    (hP : ∀ unit_id unit_type, P (.confirmed unit_id unit_type)) (tlv : Bytes) :
    Eff.Keeps (Adds P) (dispatch_bgrfc_confirm p srv tlv) := by
  refine keeps_bind (keeps_lift _) fun unit_id => keeps_bind (keeps_lift _) fun raw_type => ?_
  refine Eff.Keeps.ite _ (keeps_lift _) (keeps_bind (keeps_note (hP _ _)) fun _ => ?_)
  exact keeps_bind (keeps_ext _) fun _ => keeps_bind (keeps_isolated _) fun _ => keeps_pure _

theorem keeps_dispatch_bgrfc_state_query {P : ServerEvent → Prop} (tlv : Bytes) :
    Eff.Keeps (Adds P) (dispatch_bgrfc_state_query p srv tlv) := by
  refine keeps_bind (keeps_lift _) fun unit_id => keeps_bind (keeps_lift _) fun raw_type => ?_
  refine Eff.Keeps.ite _ (keeps_lift _) (keeps_bind ?_ fun answer => ?_)
  · unfold unit_state_answer
    cases srv.on_get_unit_state with
    | none => exact keeps_bind (keeps_ext _) fun _ => keeps_pure _
    | some get_state =>
      refine keeps_bind (keeps_attempt (keeps_ext _)) ?_
      rintro (e | state)
      · exact keeps_bind (keeps_lift _) fun _ => keeps_pure _
      · exact keeps_pure _
  · cases answer with
    | error message => exact keeps_lift _
    | ok state => exact keeps_lift _

/-! ## The function name -/

theorem run_dispatch_inbound_ok {frame : Bytes} {fname : PyStr}
    (h : read_func_name (strip_gw_header frame) = .ok fname) (w : ServerWorld χ) :
    Eff.run (dispatch_inbound p srv frame) w =
      Eff.run (dispatch_named p srv (strip_gw_header frame) fname) w := by
  unfold dispatch_inbound
  simp only [h]
  rw [Eff.run_bind_ok (Eff.run_lift _ _)]

/-- A frame whose name cannot be read is not dispatched. -/
theorem run_dispatch_inbound_error {frame : Bytes} {e : PyError}
    (h : read_func_name (strip_gw_header frame) = .error e) (w : ServerWorld χ) :
    Eff.run (dispatch_inbound p srv frame) w = (.error e, w) := by
  unfold dispatch_inbound
  simp only [h]
  rw [Eff.run_bind_error (Eff.run_lift _ _)]

/-! ## Frames to run a dispatch on -/

/-- Text on the wire. -/
def utf16 (s : String) : Bytes := (lit s).flatMap utf16Unit

/-- A frame that calls `name` with text parameters. -/
def callFrame (name : String) (params : List (String × String)) : Bytes :=
  Records.encode Tag.FUNC_NAME (utf16 name) ++
    (params.flatMap fun e => Records.encode Tag.PARAM_NAME (utf16 e.1) ++
      Records.encode Tag.PARAM_VALUE (utf16 e.2)) ++
    Records.encode Tag.TERMINATOR []

/-- `Z_FM` behind `ARFC_DEST_SHIP`. -/
def shippedFrame : Bytes :=
  callFrame "ARFC_DEST_SHIP" [("ARFCTID", "0A0B0C0D0E0F101112131415"), ("ARFCFNAM", "Z_FM")]

end SapRfc.Analysis.Shipping
