import SapRfc.Analysis.Ledgers

/-!
# The three frames of a unit

A ship takes every type but `Q` for `T`.  A state query and a confirm take the type as it
stands, and only none for `T`.  Once a ship was executed its unit stays confirmed, and the
other two frames are about that entry of the store exactly when the types agree.
-/

set_option autoImplicit false

namespace SapRfc.Analysis.UnitFrames

open SapRfc.Library SapRfc.Program SapRfc.Analysis.Shipping SapRfc.Analysis.Residue
open SapRfc.Analysis.Transactions SapRfc.Analysis.Units SapRfc.Analysis.Ledgers

variable {α V : Type} {p : Platform V} {a : App α V}

/-! ## A unit that is confirmed stays so -/

/-- Confirming what is confirmed changes nothing. -/
theorem putUnit_confirmed {t : UnitTable} {unit_id unit_type : PyStr}
    (h : t.store (unit_id, unit_type) = some .CONFIRMED) :
    putUnit unit_id unit_type .CONFIRMED t = t := by
  have hstore : dictPut t.store (unit_id, unit_type) (some .CONFIRMED) = t.store := by
    funext key
    unfold dictPut
    split
    next heq => rw [heq, h]
    next => rfl
  unfold putUnit
  rw [hstore]

/-- INTERNAL: a ship leaves a confirmed unit alone. -/
theorem ship_stays_confirmed (hcheck : a.on_check_unit = none) {frame : Bytes}
    (hcalled : calledName frame = some BGRFC_DEST_SHIP) {w : ServerWorld (Process α)}
    {unit_id unit_type : PyStr}
    (h : w.user.units.store (unit_id, unit_type) = some .CONFIRMED) :
    (Eff.run (dispatch_bgrfc_unit p a.server (strip_gw_header frame)) w).2.user.units.store
      (unit_id, unit_type) = some .CONFIRMED := by
  by_cases hturned : ∀ unit_id raw,
      extract_param_from_frame p (strip_gw_header frame) (lit "BGRFC_UNIT_ID") = .ok unit_id →
      extract_param_from_frame p (strip_gw_header frame) (lit "BGRFC_UNIT_TYPE") = .ok raw →
      unit_id_fault unit_id ≠ none
  · rw [(run_dispatch_bgrfc_unit_turned w hturned).1]
    exact h
  push Not at hturned
  obtain ⟨shipped_id, raw, hid, htype, hvalid⟩ := hturned
  rw [run_unit_ship hcheck ⟨hcalled, hid, htype⟩ hvalid w]
  split
  · exact h
  next hnew =>
    have hne : (unit_id, unit_type) ≠ (shipped_id, unit_type_of raw) := by
      intro heq
      rw [heq] at h
      exact hnew (.inr h)
    rcases (open_unit_end p a (strip_gw_header frame) shipped_id
      (unit_type_of raw) w).open_or_done with ⟨hunits, -⟩ | ⟨hunits, -⟩
    · rw [hunits, store_putUnit_of_ne hne]
      exact h
    · rw [hunits, store_putUnit_of_ne hne, store_putUnit_of_ne hne]
      exact h

/-- A confirmed unit is still confirmed after any frame. -/
theorem stays_confirmed (hcheck : a.on_check_unit = none) (frame : Bytes)
    {w : ServerWorld (Process α)} {unit_id unit_type : PyStr}
    (h : w.user.units.store (unit_id, unit_type) = some .CONFIRMED) :
    (serveOnce p a frame w).after.user.units.store (unit_id, unit_type) = some .CONFIRMED := by
  cases hcalled : calledName frame with
  | none =>
    rw [serveOnce_uncalled hcalled]
    exact h
  | some fname =>
    rw [(serveOnce_called hcalled w).2]
    unfold dispatch_named
    by_cases htrfc : fname = ARFC_DEST_SHIP
    · rw [if_pos htrfc, same_units_dispatch_transactional w]
      exact h
    rw [if_neg htrfc]
    by_cases hconf : fname = ARFC_DEST_CONFIRM
    · rw [if_pos hconf]
      exact h
    rw [if_neg hconf]
    by_cases hship : fname = BGRFC_DEST_SHIP
    · rw [if_pos hship]
      exact ship_stays_confirmed hcheck (hship ▸ hcalled) h
    rw [if_neg hship]
    by_cases hconfirm : fname = BGRFC_DEST_CONFIRM
    · rw [if_pos hconfirm]
      cases confirm_cases p a (strip_gw_header frame) w with
      | inr nothing =>
        rw [nothing.units]
        exact h
      | inl confirmed =>
        obtain ⟨confirmed_id, raw, -, -, -, leaves⟩ := confirmed
        rw [leaves.units]
        by_cases hsame : (unit_id, unit_type) = (confirmed_id, unit_type_or_T raw)
        · obtain ⟨rfl, rfl⟩ := Prod.mk.inj hsame
          exact store_putUnit _ _ _ _
        · rw [store_putUnit_of_ne hsame]
          exact h
    rw [if_neg hconfirm]
    by_cases hquery : fname = BGRFC_CHECK_UNIT_STATE_SERVER
    · rw [if_pos hquery, (nothing_dispatch_bgrfc_state_query p a _ w).units]
      exact h
    · rw [if_neg hquery]
      obtain ⟨_, leaves⟩ := ran_dispatch_call p a (strip_gw_header frame) fname w
      rw [leaves.units]
      exact h

variable (p a) in
/-- The server after more frames. -/
def worldAfter (frames : List Bytes) (w : ServerWorld (Process α)) : ServerWorld (Process α) :=
  frames.foldl (fun w frame => (serveOnce p a frame w).after) w

/-- It is still confirmed after any number of frames. -/
theorem stays_confirmed_after (hcheck : a.on_check_unit = none) {unit_id unit_type : PyStr}
    (frames : List Bytes) {w : ServerWorld (Process α)}
    (h : w.user.units.store (unit_id, unit_type) = some .CONFIRMED) :
    (worldAfter p a frames w).user.units.store (unit_id, unit_type) = some .CONFIRMED := by
  induction frames generalizing w with
  | nil => exact h
  | cons frame frames ih => exact ih (stays_confirmed hcheck frame h)

/-! ## A unit that was executed -/

/-- INTERNAL: a unit id that is not valid is answered with a failure. -/
theorem valid_of_executed {tlv : Bytes} {unit_id : PyStr} {w : ServerWorld (Process α)}
    (hid : extract_param_from_frame p tlv (lit "BGRFC_UNIT_ID") = .ok unit_id)
    (h : (Eff.run (dispatch_bgrfc_unit p a.server tlv) w).1 = .ok build_rfc_ok_response) :
    unit_id_fault unit_id = none := by
  unfold dispatch_bgrfc_unit at h
  rw [hid, Eff.run_bind_ok (Eff.run_lift _ _)] at h
  cases hfault : unit_id_fault unit_id with
  | none => rfl
  | some message =>
    rw [hfault] at h
    exact absurd h (system_failure_ne_ok message)

/-- INTERNAL: a valid unit id has the length that the other two frames check. -/
theorem length_of_valid {unit_id : PyStr} (h : unit_id_fault unit_id = none) :
    unit_id.length = UNITID_LN := by
  unfold unit_id_fault at h
  split at h
  · cases h
  · split at h
    · cases h
    next hlen => exact not_not.mp hlen

/-- A ship that was executed leaves its unit confirmed. -/
theorem executed_confirms (hcheck : a.on_check_unit = none) {ship : Bytes} {unit_id raw : PyStr}
    (hnames : NamesUnit p BGRFC_DEST_SHIP ship unit_id raw) {w : ServerWorld (Process α)}
    (hexecuted : (serveOnce p a ship w).output = .ok build_rfc_ok_response) :
    (serveOnce p a ship w).after.user.units.store (unit_id, unit_type_of raw) =
      some .CONFIRMED := by
  rw [(serveOnce_called hnames.called w).1] at hexecuted
  rw [(serveOnce_called hnames.called w).2]
  change (Eff.run (dispatch_bgrfc_unit p a.server (strip_gw_header ship)) w).1 = _ at hexecuted
  change
    (Eff.run (dispatch_bgrfc_unit p a.server (strip_gw_header ship)) w).2.user.units.store _ = _
  have hvalid := valid_of_executed hnames.id_read hexecuted
  rw [run_unit_ship hcheck hnames hvalid w] at hexecuted ⊢
  split at hexecuted
  · exact absurd (Except.ok.inj hexecuted).symm executed_ne_ok.symm
  next hnew =>
    rw [if_neg hnew]
    rcases (open_unit_end p a (strip_gw_header ship) unit_id
      (unit_type_of raw) w).open_or_done with ⟨-, hanswer⟩ | ⟨hunits, -⟩
    · exact absurd hexecuted (ne_of_raised_or_failed system_failure_ne_ok hanswer)
    · rw [hunits]
      exact store_putUnit _ _ _ _

/-- What the frames of one unit say of the entry that its ship was executed under. -/
structure MeansUnit (p : Platform V) (a : App α V) (w : ServerWorld (Process α))
    (ship query confirm : Bytes) (unit_id raw : PyStr) : Prop where
  reported : (serveOnce p a query w).output =
    respondState (.ok ((w.user.units.store (unit_id, unit_type_of raw)).getD .NOT_FOUND))
  confirmed : (serveOnce p a confirm w).after.user.units =
    putUnit unit_id (unit_type_of raw) .CONFIRMED w.user.units
  duplicate : (serveOnce p a ship w).output = .ok build_rfc_executed_response ∧
    (serveOnce p a ship w).after.user.units = w.user.units

/-- INTERNAL: a query is answered from the entry under its type. -/
theorem query_output (hget : a.on_get_unit_state = none) {query : Bytes} {unit_id raw : PyStr}
    (hnames : NamesUnit p BGRFC_CHECK_UNIT_STATE_SERVER query unit_id raw)
    (hlen : unit_id.length = UNITID_LN) (w : ServerWorld (Process α)) :
    (serveOnce p a query w).output =
      respondState (.ok ((w.user.units.store (unit_id, unit_type_or_T raw)).getD .NOT_FOUND)) := by
  rw [(serveOnce_called hnames.called w).1]
  change (Eff.run (dispatch_bgrfc_state_query p a.server (strip_gw_header query)) w).1 = _
  rw [run_dispatch_bgrfc_state_query_named hnames.id_read hlen hnames.type_read,
    Eff.run_bind_ok (run_unit_state_answer_own hget _ _ w)]
  rfl

/-- INTERNAL: a confirm confirms the entry under its type. -/
theorem confirm_units {confirm : Bytes} {unit_id raw : PyStr}
    (hnames : NamesUnit p BGRFC_DEST_CONFIRM confirm unit_id raw)
    (hlen : unit_id.length = UNITID_LN) (w : ServerWorld (Process α)) :
    (serveOnce p a confirm w).after.user.units =
      putUnit unit_id (unit_type_or_T raw) .CONFIRMED w.user.units := by
  have hrest := leaves_then_nothing (leaves_confirm_unit a unit_id (unit_type_or_T raw))
    (fun _ => nothing_pure build_rfc_ok_response)
    ⟨{ w.user with units := putUnit unit_id (unit_type_or_T raw) .CONFIRMED w.user.units },
      w.events ++ [.confirmed unit_id (unit_type_or_T raw)]⟩
  rw [(serveOnce_called hnames.called w).2]
  change (Eff.run (dispatch_bgrfc_confirm p a.server (strip_gw_header confirm)) w).2.user.units = _
  unfold dispatch_bgrfc_confirm
  rw [hnames.id_read, Eff.run_bind_ok (Eff.run_lift _ _), hnames.type_read,
    Eff.run_bind_ok (Eff.run_lift _ _), Eff.run_ite, if_neg (not_not.mpr hlen)]
  exact hrest.units

/-- INTERNAL: a ship of a confirmed unit is a duplicate. -/
theorem ship_duplicate (hcheck : a.on_check_unit = none) {ship : Bytes} {unit_id raw : PyStr}
    (hnames : NamesUnit p BGRFC_DEST_SHIP ship unit_id raw) (hvalid : unit_id_fault unit_id = none)
    {w : ServerWorld (Process α)}
    (h : w.user.units.store (unit_id, unit_type_of raw) = some .CONFIRMED) :
    (serveOnce p a ship w).output = .ok build_rfc_executed_response ∧
      (serveOnce p a ship w).after.user.units = w.user.units := by
  rw [(serveOnce_called hnames.called w).1, (serveOnce_called hnames.called w).2]
  change (Eff.run (dispatch_bgrfc_unit p a.server (strip_gw_header ship)) w).1 = _ ∧
    (Eff.run (dispatch_bgrfc_unit p a.server (strip_gw_header ship)) w).2.user.units = _
  rw [run_unit_ship hcheck hnames hvalid w, if_pos (.inr h)]
  exact ⟨rfl, rfl⟩

/-- The types that the three frames read alike. -/
theorem same_type_iff (raw : PyStr) :
    unit_type_or_T raw = unit_type_of raw ↔ raw = [] ∨ raw = lit "T" ∨ raw = lit "Q" := by
  unfold unit_type_or_T unit_type_of
  by_cases hnone : raw = []
  · subst hnone
    exact ⟨fun _ => .inl rfl, fun _ => rfl⟩
  · rw [if_neg hnone]
    by_cases hQ : raw = lit "Q"
    · rw [if_pos hQ]
      exact ⟨fun _ => .inr (.inr hQ), fun _ => rfl⟩
    · rw [if_neg hQ]
      exact ⟨fun h => .inr (.inl h), fun h => (h.resolve_left hnone).resolve_right hQ⟩

/-- INTERNAL: a type that the frames read differently is taken as it stands by the last two. -/
theorem unit_type_or_T_of_ne {raw : PyStr} (h : ¬ unit_type_or_T raw = unit_type_of raw) :
    unit_type_or_T raw = raw := by
  unfold unit_type_or_T
  rw [if_neg fun hnone => h ((same_type_iff raw).mpr (.inl hnone))]

/-- On a server with its own store, whatever frames have come since a ship was executed, the
three frames with its id and type are about its entry exactly when the type is none, `T` or `Q`,
or the store holds an entry under the type as it stands that is confirmed as well. -/
theorem frames_mean_unit_iff (p : Platform V) (a : App α V) (hcheck : a.on_check_unit = none)
    (hget : a.on_get_unit_state = none) (unit_id raw : PyStr) (ship again query confirm : Bytes)
    (hship : NamesUnit p BGRFC_DEST_SHIP ship unit_id raw)
    (hagain : NamesUnit p BGRFC_DEST_SHIP again unit_id raw)
    (hquery : NamesUnit p BGRFC_CHECK_UNIT_STATE_SERVER query unit_id raw)
    (hconfirm : NamesUnit p BGRFC_DEST_CONFIRM confirm unit_id raw) (w : ServerWorld (Process α))
    (hexecuted : (serveOnce p a ship w).output = .ok build_rfc_ok_response)
    (between : List Bytes) :
    MeansUnit p a (worldAfter p a between (serveOnce p a ship w).after) again query confirm
        unit_id raw ↔
      (raw = [] ∨ raw = lit "T" ∨ raw = lit "Q") ∨
        (worldAfter p a between (serveOnce p a ship w).after).user.units.store (unit_id, raw) =
          some .CONFIRMED := by
  have hvalid : unit_id_fault unit_id = none := by
    rw [(serveOnce_called hship.called w).1] at hexecuted
    exact valid_of_executed hship.id_read hexecuted
  have hlen := length_of_valid hvalid
  have hheld := stays_confirmed_after (p := p) hcheck between
    (executed_confirms hcheck hship hexecuted)
  generalize worldAfter p a between (serveOnce p a ship w).after = w' at hheld ⊢
  have hreported := query_output hget hquery hlen w'
  have hconfirmed := confirm_units (a := a) hconfirm hlen w'
  have hduplicate := ship_duplicate hcheck hagain hvalid hheld
  constructor
  · intro h
    by_cases hsame : unit_type_or_T raw = unit_type_of raw
    · exact .inl ((same_type_iff raw).mp hsame)
    · have hstate := respondState_injective (hreported.symm.trans h.reported)
      rw [hheld, unit_type_or_T_of_ne hsame] at hstate
      cases hstore : w'.user.units.store (unit_id, raw) with
      | none =>
        rw [hstore] at hstate
        cases hstate
      | some state =>
        rw [hstore] at hstate
        exact .inr (congrArg some hstate)
  · intro h
    by_cases hsame : unit_type_or_T raw = unit_type_of raw
    · rw [hsame] at hreported hconfirmed
      exact ⟨hreported, hconfirmed, hduplicate⟩
    · have hstore := h.resolve_left fun htype => hsame ((same_type_iff raw).mpr htype)
      rw [unit_type_or_T_of_ne hsame, hstore] at hreported
      rw [unit_type_or_T_of_ne hsame, putUnit_confirmed hstore] at hconfirmed
      refine ⟨?_, ?_, hduplicate⟩
      · rw [hreported, hheld]
      · rw [hconfirmed, putUnit_confirmed hheld]

/-! ## A unit of type `X` -/

/-- The frames of a unit with a type. -/
def typedFrames (name unit_type : String) (params : List (String × String)) : Bytes :=
  callFrame name ([("BGRFC_UNIT_ID", "0123456789ABCDEF0123456789ABCDEF"),
    ("BGRFC_UNIT_TYPE", unit_type)] ++ params)

def shipOf (unit_type : String) : Bytes :=
  typedFrames "BGRFC_DEST_SHIP" unit_type [("BGRFC_CALL_COUNT", "1"), ("BGRFC_CALL_0", "Z_FM")]

def queryOf (unit_type : String) : Bytes :=
  typedFrames "BGRFC_CHECK_UNIT_STATE_SERVER" unit_type []

def confirmOf (unit_type : String) : Bytes := typedFrames "BGRFC_DEST_CONFIRM" unit_type []

theorem shipOf_queued :
    NamesUnit plainPlatform BGRFC_DEST_SHIP (shipOf "Q") someUnit (lit "Q") :=
  ⟨by decide +kernel, by decide +kernel, by decide +kernel⟩

theorem frames_mean_unit_queued :
    MeansUnit plainPlatform plainApp
      (worldAfter plainPlatform plainApp [confirmOf "T"]
        (serveOnce plainPlatform plainApp (shipOf "Q") (newWorld ())).after)
      (shipOf "Q") (queryOf "Q") (confirmOf "Q") someUnit (lit "Q") :=
  (frames_mean_unit_iff plainPlatform plainApp rfl rfl someUnit (lit "Q") (shipOf "Q") (shipOf "Q")
    (queryOf "Q") (confirmOf "Q") shipOf_queued shipOf_queued
    ⟨by decide +kernel, by decide +kernel, by decide +kernel⟩
    ⟨by decide +kernel, by decide +kernel, by decide +kernel⟩ (newWorld ()) (by decide +kernel)
    [confirmOf "T"]).mpr (.inl (.inr (.inr rfl)))

/-- INTERNAL: the query finds no unit under the type `X`. -/
theorem queryOf_x_output :
    (serveOnce plainPlatform plainApp (queryOf "X")
        (serveOnce plainPlatform plainApp (shipOf "X") (newWorld ())).after).output =
      respondState (.ok .NOT_FOUND) := by
  decide +kernel

/-- A unit that was shipped with the type `X` is unknown to the query with that type, and the
confirm makes a second entry. -/
theorem unit_of_type_x_unknown :
    NamesUnit plainPlatform BGRFC_DEST_SHIP (shipOf "X") someUnit (lit "X") ∧
    NamesUnit plainPlatform BGRFC_CHECK_UNIT_STATE_SERVER (queryOf "X") someUnit (lit "X") ∧
    NamesUnit plainPlatform BGRFC_DEST_CONFIRM (confirmOf "X") someUnit (lit "X") ∧
    (serveOnce plainPlatform plainApp (shipOf "X") (newWorld ())).output =
      .ok build_rfc_ok_response ∧
    (serveOnce plainPlatform plainApp (queryOf "X")
        (serveOnce plainPlatform plainApp (shipOf "X") (newWorld ())).after).output =
      respondState (.ok .NOT_FOUND) ∧
    (serveOnce plainPlatform plainApp (confirmOf "X")
        (serveOnce plainPlatform plainApp (shipOf "X") (newWorld ())).after).after.user.units.store
      (someUnit, lit "X") = some .CONFIRMED ∧
    ¬ MeansUnit plainPlatform plainApp
      (serveOnce plainPlatform plainApp (shipOf "X") (newWorld ())).after
      (shipOf "X") (queryOf "X") (confirmOf "X") someUnit (lit "X") := by
  refine ⟨⟨by decide +kernel, by decide +kernel, by decide +kernel⟩,
    ⟨by decide +kernel, by decide +kernel, by decide +kernel⟩,
    ⟨by decide +kernel, by decide +kernel, by decide +kernel⟩, by decide +kernel,
    queryOf_x_output, by decide +kernel, fun h => ?_⟩
  have hstore : ((serveOnce plainPlatform plainApp (shipOf "X")
      (newWorld ())).after.user.units.store (someUnit, unit_type_of (lit "X"))) =
        some .CONFIRMED := by decide +kernel
  have hreported := h.reported
  rw [queryOf_x_output, hstore] at hreported
  have hstate := respondState_injective hreported
  cases hstate

end SapRfc.Analysis.UnitFrames
