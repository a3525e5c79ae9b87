import SapRfc.Analysis.Shipping

/-!
# The authentication gate

An ordinary call asks the authentication callback before it calls a handler.  The two
ship branches return before that check, so what keeps a denied frame from a handler
there is only what the frame has to pass anyway.  `dispatch_inbound_calls_no_handler_iff`
says exactly when a denied frame calls no handler.
-/

set_option autoImplicit false

namespace SapRfc.Analysis.AuthGate

open SapRfc.Library SapRfc.Program SapRfc.Analysis.Shipping

variable {χ V : Type} {p : Platform V} {srv : RfcServer χ V}

/-- The callback is set, and whatever the state of the application it answers `False`
for the credentials of the frame. -/
def Denied (srv : RfcServer χ V) (frame : Bytes) : Prop :=
  ∃ check user password, srv.auth_check = some check ∧
    extract_credentials (strip_gw_header frame) = .ok (user, password) ∧
    ∀ g, ∃ g', Eff.run (check.ask user password) g = (.ok false, g')

/-- The first buffered call of a unit selects a handler. -/
def FirstCallSelects (p : Platform V) (srv : RfcServer χ V) (tlv : Bytes) (g : χ) : Prop :=
  ∃ unit_id unit_type n g', UnitOpens p srv tlv g unit_id unit_type n g' ∧ 0 < n ∧
    ∃ call_bytes h g'', extract_raw_param_from_frame p tlv (call_name 0) = some call_bytes ∧
      Selects p srv call_bytes g' h g''

/-- The frame is a ship whose checks all pass as far as the first handler. -/
def ShipReachesHandler (p : Platform V) (srv : RfcServer χ V) (frame : Bytes) (g : χ) : Prop :=
  (read_func_name (strip_gw_header frame) = .ok ARFC_DEST_SHIP ∧
      ∃ tid entry request g',
        TrfcReaches p srv (strip_gw_header frame) g tid entry request g') ∨
    (read_func_name (strip_gw_header frame) = .ok BGRFC_DEST_SHIP ∧
      FirstCallSelects p srv (strip_gw_header frame) g)

/-- The event is not the call of a handler. -/
def NotCalled (e : ServerEvent) : Prop := ∀ id, e ≠ .called id

/-- The run calls no handler. -/
def CallsNoHandler {α : Type} (x : Eff PyError (ServerWorld χ) α) (g : χ) : Prop :=
  ∀ id, .called id ∉ (Eff.run x ⟨g, []⟩).2.events

theorem callsNoHandler_of_adds {α : Type} {x : Eff PyError (ServerWorld χ) α} {g : χ}
    (h : Adds NotCalled ⟨g, []⟩ (Eff.run x ⟨g, []⟩).2) : CallsNoHandler x g := by
  intro id hmem
  exact List.not_mem_nil (h.mem (fun hno => hno id rfl) hmem)

/-! ## The ordinary branch -/

/-- The ordinary branch asks first, and a denied call goes no further. -/
theorem adds_dispatch_call_of_denied {frame : Bytes} (hdeny : Denied srv frame) (fname : PyStr)
    (g : χ) (l : List ServerEvent) :
    Adds NotCalled ⟨g, l⟩
      (Eff.run (dispatch_call p srv (strip_gw_header frame) fname) ⟨g, l⟩).2 := by
  obtain ⟨check, user, password, hcheck, hcred, hask⟩ := hdeny
  unfold dispatch_call
  rcases hlookup : Eff.run (srv.lookup p fname) g with ⟨e | _ | entry, g₁⟩
  · rw [Eff.run_bind_error (run_ext_of hlookup l)]
    exact Adds.refl (χ := χ) ⟨g₁, l⟩
  · rw [Eff.run_bind_ok (run_ext_of hlookup l)]
    exact Adds.refl (χ := χ) ⟨g₁, l⟩
  · obtain ⟨g₂, hask⟩ := hask g₁
    have hauth : Eff.run (check_auth srv (strip_gw_header frame)) g₁ = (.ok false, g₂) := by
      unfold check_auth
      simp only [hcheck]
      rw [hcred, Eff.run_bind_ok (Eff.run_lift _ _)]
      exact hask
    rw [Eff.run_bind_ok (run_ext_of hlookup l)]
    simp only
    rw [Eff.run_bind_ok (run_note _ _ _), Eff.run_bind_ok (run_ext_of hauth _), if_pos rfl]
    exact ⟨[.selected entry.2.id], rfl, by simp [NotCalled]⟩

/-! ## The ship branches -/

theorem dispatch_transactional_calls_no_handler_iff (tlv : Bytes) (g : χ) :
    CallsNoHandler (dispatch_transactional p srv tlv) g ↔
      ¬ ∃ tid entry request g', TrfcReaches p srv tlv g tid entry request g' := by
  constructor
  · rintro hno ⟨tid, entry, request, g', hreach⟩
    refine hno entry.2.id ?_
    rw [run_dispatch_transactional_of_reaches hreach]
    by_cases hpass : ∃ g'', Passes entry.2 request g' g''
    · obtain ⟨g'', hpass⟩ := hpass
      rw [run_run_shipped_of_passes hpass]
      simp [callTrace]
    · rw [(run_run_shipped_of_not_passes srv tid hpass _).1]
      simp
  · intro hreach
    refine callsNoHandler_of_adds ((declines_dispatch_transactional hreach []).1.mono ?_)
    rintro e ⟨id, rfl⟩
    exact nofun

/-- A handler that the first call selects is called, whatever comes after. -/
theorem called_of_first_call {tlv call_bytes : Bytes} {g g₁ : χ} (n left : ℕ) {h : Handler χ V}
    (hraw : extract_raw_param_from_frame p tlv (call_name 0) = some call_bytes)
    (hsel : Selects p srv call_bytes g h g₁) :
    .called h.id ∈ (Eff.run (run_calls p srv tlv n 0 (left + 1)) ⟨g, []⟩).2.events := by
  by_cases hpass : ∃ g₂, Passes h [] g₁ g₂
  · obtain ⟨g₂, hpass⟩ := hpass
    rw [run_run_calls_next hraw (run_execute_buffered_call_of_passes hsel hpass [])]
    exact (keeps_run_calls p srv tlv n 1 left _).subset (by simp [shipTrace, callTrace])
  · have hraised := run_execute_buffered_call_of_not_passes hsel hpass []
    rw [(run_run_calls_stop hraw hraised.1).2, hraised.2]
    simp

/-- When the first call selects no handler, the loop notes nothing. -/
theorem events_of_no_first_call {tlv : Bytes} {g : χ} {n : ℕ} (l : List ServerEvent)
    (h : ¬ (0 < n ∧ ∃ call_bytes h g', extract_raw_param_from_frame p tlv (call_name 0) =
      some call_bytes ∧ Selects p srv call_bytes g h g')) :
    (Eff.run (run_calls p srv tlv n 0 n) ⟨g, l⟩).2.events = l := by
  cases n with
  | zero => rfl
  | succ n =>
    cases hraw : extract_raw_param_from_frame p tlv (call_name 0) with
    | none => exact (run_run_calls_missing hraw).2
    | some call_bytes =>
      have hsel : ¬ ∃ h g', Selects p srv call_bytes g h g' := by
        rintro ⟨handler, g', hsel⟩
        exact h ⟨n.succ_pos, call_bytes, handler, g', hraw, hsel⟩
      have hstop := run_execute_buffered_call_of_not_selects hsel l
      rw [(run_run_calls_stop hraw hstop.1).2, hstop.2]

theorem dispatch_bgrfc_unit_calls_no_handler_iff (tlv : Bytes) (g : χ) :
    CallsNoHandler (dispatch_bgrfc_unit p srv tlv) g ↔ ¬ FirstCallSelects p srv tlv g := by
  constructor
  · rintro hno ⟨unit_id, unit_type, n, g', hopen, hn, call_bytes, h, g'', hraw, hsel⟩
    obtain ⟨left, rfl⟩ : ∃ left, n = left + 1 := ⟨n - 1, by omega⟩
    refine hno h.id ?_
    rw [run_dispatch_bgrfc_unit_of_opens hopen]
    have hcalled := called_of_first_call (left + 1) left hraw hsel
    rw [Eff.run_bind]
    rcases hrun : Eff.run (run_calls p srv tlv (left + 1) 0 (left + 1)) ⟨g', []⟩ with ⟨e | r, w⟩
    · rw [hrun] at hcalled
      exact hcalled
    · rw [hrun] at hcalled
      exact (keeps_finish_unit (P := fun _ => True) srv unit_id unit_type trivial r w).subset
        hcalled
  · intro hfirst
    refine callsNoHandler_of_adds ?_
    by_cases hopen : ∃ unit_id unit_type n g', UnitOpens p srv tlv g unit_id unit_type n g'
    · obtain ⟨unit_id, unit_type, n, g', hopen⟩ := hopen
      rw [run_dispatch_bgrfc_unit_of_opens hopen, Eff.run_bind]
      have hevents := events_of_no_first_call (g := g') [] fun h =>
        hfirst ⟨unit_id, unit_type, n, g', hopen, h⟩
      rcases hrun : Eff.run (run_calls p srv tlv n 0 n) ⟨g', []⟩ with ⟨e | r, w⟩
      · rw [hrun] at hevents
        exact ⟨[], hevents, nofun⟩
      · rw [hrun] at hevents
        obtain ⟨d, hd, hP⟩ := keeps_finish_unit (P := NotCalled) srv unit_id unit_type nofun r w
        exact ⟨d, by rw [hd, hevents], hP⟩
    · exact (declines_dispatch_bgrfc_unit hopen []).1.mono fun _ => False.elim

/-! ## The dispatcher -/

/-- A denied frame calls no handler exactly when it is not a ship that gets as far as
the first one. -/
theorem dispatch_inbound_calls_no_handler_iff (p : Platform V) (srv : RfcServer χ V)
    (frame : Bytes) (g : χ) (hdeny : Denied srv frame) :
    CallsNoHandler (dispatch_inbound p srv frame) g ↔ ¬ ShipReachesHandler p srv frame g := by
  unfold ShipReachesHandler
  cases hname : read_func_name (strip_gw_header frame) with
  | error e =>
    refine iff_of_true (fun id => ?_) (by simp)
    rw [run_dispatch_inbound_error hname]
    exact List.not_mem_nil
  | ok fname =>
    unfold CallsNoHandler
    rw [run_dispatch_inbound_ok hname]
    by_cases htrfc : fname = ARFC_DEST_SHIP
    · subst htrfc
      have hne : ARFC_DEST_SHIP ≠ BGRFC_DEST_SHIP := by decide
      simp only [dispatch_named, if_true, Except.ok.injEq, true_and, hne, false_and, or_false]
      exact dispatch_transactional_calls_no_handler_iff _ g
    by_cases hunit : fname = BGRFC_DEST_SHIP
    · subst hunit
      have hne : BGRFC_DEST_SHIP ≠ ARFC_DEST_SHIP := by decide
      have hne' : BGRFC_DEST_SHIP ≠ ARFC_DEST_CONFIRM := by decide
      simp only [dispatch_named, if_true, if_neg hne', Except.ok.injEq, true_and, hne,
        false_and, false_or]
      exact dispatch_bgrfc_unit_calls_no_handler_iff _ g
    · simp only [Except.ok.injEq, htrfc, hunit, false_and, or_false, not_false_eq_true, iff_true]
      refine callsNoHandler_of_adds ?_
      unfold dispatch_named
      simp only [if_neg htrfc, if_neg hunit]
      split
      · exact Adds.refl _
      split
      · exact keeps_dispatch_bgrfc_confirm p srv (fun _ _ => nofun) _ _
      split
      · exact keeps_dispatch_bgrfc_state_query _ _
      · exact adds_dispatch_call_of_denied hdeny fname g []

/-! ## A denied frame at both ends -/

/-- A server with the handler `Z_FM` whose callback denies everybody. -/
def denyingServer : RfcServer Tables Bytes :=
  { RfcServer.init tablesTidStore tablesUnitStore with
    registry := [(lit "Z_FM", (none, ⟨7, false, fun _ => pure none⟩))]
    auth_check := some ⟨fun _ _ => pure false, fun _ => pure false⟩ }

theorem denied_of_credentials {frame : Bytes}
    (h : extract_credentials (strip_gw_header frame) = .ok (none, none)) :
    Denied denyingServer frame :=
  ⟨_, none, none, rfl, h, fun g => ⟨g, rfl⟩⟩

/-- The handler runs, although the callback denies the frame. -/
theorem denied_ship_calls_handler :
    Denied denyingServer shippedFrame ∧
      ¬ CallsNoHandler (dispatch_inbound plainPlatform denyingServer shippedFrame) Tables.empty :=
  ⟨denied_of_credentials (by decide +kernel), fun h => h 7 (by decide +kernel)⟩

/-- An ordinary call of the same handler is stopped. -/
theorem denied_call_calls_no_handler :
    CallsNoHandler (dispatch_inbound plainPlatform denyingServer (callFrame "Z_FM" []))
      Tables.empty := by
  have hdeny : Denied denyingServer (callFrame "Z_FM" []) :=
      denied_of_credentials (by decide +kernel)
  refine (dispatch_inbound_calls_no_handler_iff plainPlatform denyingServer _ _ hdeny).mpr ?_
  have hname : read_func_name (strip_gw_header (callFrame "Z_FM" [])) = .ok (lit "Z_FM") := by
    decide +kernel
  unfold ShipReachesHandler
  rw [hname]
  rintro (⟨h, -⟩ | ⟨h, -⟩)
  · exact absurd h (by decide)
  · exact absurd h (by decide)

end SapRfc.Analysis.AuthGate
