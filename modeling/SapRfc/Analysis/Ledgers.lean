import SapRfc.Analysis.Transactions
import SapRfc.Analysis.Units

/-!
# What the stores know of a run

One hosted server handles frames one behind the other.  Its TID store knows the
transactions whose handler has run to its end, and its unit store the units whose calls
have run, as long as nobody confirms a unit that did not.  Both are invariants between the
store and everything the server has done so far.
-/

set_option autoImplicit false

namespace SapRfc.Analysis.Ledgers

open SapRfc.Library SapRfc.Program SapRfc.Analysis.Shipping SapRfc.Analysis.Residue
open SapRfc.Analysis.Transactions SapRfc.Analysis.Units

variable {α V : Type} (p : Platform V) (a : App α V)

/-- One frame handled. -/
abbrev Served (α : Type) : Type := Step (ServerWorld (Process α)) Bytes (Except PyError Bytes)

/-- One frame, on a server where it stands. -/
def serveOnce : Bytes → ServerWorld (Process α) → Served α :=
  Run.stepOf fun frame w => Eff.run (dispatch_inbound p a.server frame) w

/-- The frames, one behind the other; a dispatch that raised is followed by the next. -/
def serveAll : List Bytes → ServerWorld (Process α) → List (Served α) :=
  Run.trace fun frame w => Eff.run (dispatch_inbound p a.server frame) w

theorem serveAll_cons (frame : Bytes) (rest : List Bytes) (w : ServerWorld (Process α)) :
    serveAll p a (frame :: rest) w =
      serveOnce p a frame w :: serveAll p a rest (serveOnce p a frame w).after := rfl

/-- The function a frame calls, if its name can be read. -/
def calledName (frame : Bytes) : Option PyStr :=
  (read_func_name (strip_gw_header frame)).toOption

/-! ## Transactions -/

/-- The TID that an `ARFC_DEST_SHIP` frame carries. -/
def shippedTid? (frame : Bytes) : Option PyStr :=
  if calledName frame = some ARFC_DEST_SHIP then
    (extract_tid_from_frame p (strip_gw_header frame)).toOption
  else none

/-- The handlers that ran to their end while a frame was handled. -/
def newlyCompleted (s : Served α) : List ℕ :=
  (s.after.events.drop s.before.events.length).filterMap completedId

/-- The successful completions of the handler for a TID. -/
def completions (run : List (Served α)) (tid : PyStr) : List ℕ :=
  run.flatMap fun s => if shippedTid? p s.input = some tid then newlyCompleted s else []

/-- For each TID the handler completes at most once, and a ship is answered RFC_EXECUTED when
it has completed before and only then. -/
structure ExactlyOnce (run : List (Served α)) : Prop where
  once : ∀ tid, (completions p run tid).length ≤ 1
  executed : ∀ (i : ℕ) (s : Served α) (tid : PyStr), run[i]? = some s →
    shippedTid? p s.input = some tid → tid_fault tid = none →
      (s.output = .ok build_rfc_executed_response ↔ completions p (run.take i) tid ≠ [])

/-- The store knows the transactions that have completed. -/
def TidLedger (done : List (Served α)) (w : ServerWorld (Process α)) : Prop :=
  ∀ tid, (completions p done tid).length ≤ 1 ∧
    (w.user.tids.store tid = some .executed ↔ completions p done tid ≠ [])

theorem newlyCompleted_of_leaves {s : Served α} {ft : TidTable → TidTable}
    {fu : UnitTable → UnitTable} {cs : List CallbackEvent} {ids : List ℕ}
    (h : Leaves ft fu cs ids s.before s.after) : newlyCompleted s = ids := by
  obtain ⟨d, hd, hids⟩ := h.ran
  unfold newlyCompleted
  rw [hd, List.drop_left, hids]

variable {p a}

/-- What a ship of a TID does, by what the store knows of it. -/
inductive ShipStep (tid : PyStr) (w : ServerWorld (Process α)) (r : Except PyError Bytes)
    (w' : ServerWorld (Process α)) : Prop
  | invalid (fault : tid_fault tid ≠ none) (leaves : Nothing w w')
  | known (done : w.user.tids.store tid = some .executed)
      (answer : r = .ok build_rfc_executed_response) (leaves : Nothing w w')
  | attempted {ft : TidTable → TidTable} {mark : TidMark} {cs : List CallbackEvent} {ids : List ℕ}
      (fresh : w.user.tids.store tid ≠ some .executed)
      (answer : r ≠ .ok build_rfc_executed_response)
      (puts : ∀ t, (ft t).store = dictPut t.store tid (some mark))
      (single : ids.length ≤ 1) (ended : mark = .executed ↔ ids ≠ [])
      (leaves : Leaves ft id cs ids w w')

/-- INTERNAL: the second mark is what stays. -/
theorem store_putTid_putTid (tid : PyStr) (mark mark' : TidMark) (t : TidTable) :
    ((putTid tid mark' ∘ putTid tid mark) t).store = dictPut t.store tid (some mark') := by
  funext key
  show dictPut (dictPut t.store tid (some mark)) tid (some mark') key = _
  unfold dictPut
  by_cases h : key = tid
  · rw [if_pos h, if_pos h]
  · rw [if_neg h, if_neg h, if_neg h]

/-- INTERNAL: a ship, on a server that checks with its store. -/
theorem ship_step (hsync : a.Synchronous) (hcheck : a.on_check_transaction = none) {tlv : Bytes}
    {tid : PyStr} (hread : extract_tid_from_frame p tlv = .ok tid) (w : ServerWorld (Process α)) :
    ShipStep tid w (Eff.run (dispatch_transactional p a.server tlv) w).1
      (Eff.run (dispatch_transactional p a.server tlv) w).2 := by
  by_cases hvalid : tid_fault tid = none
  · rw [run_dispatch_transactional_checked hread hvalid w]
    have hstore : Eff.run (a.server.check_transaction tid) w.user =
        (.ok (decide (w.user.tids.store tid = some .executed)), w.user) := by
      unfold RfcServer.check_transaction App.server
      rw [hcheck]
      rfl
    rw [hstore]
    by_cases hdone : w.user.tids.store tid = some .executed
    · rw [decide_eq_true hdone]
      exact .known hdone rfl (Leaves.refl w)
    · rw [decide_eq_false hdone]
      dsimp only
      cases open_shipped_end p a tlv tid w with
      | stuck open_ended raised leaves =>
        obtain ⟨e, he⟩ := raised
        refine .attempted hdone ?_ (fun _ => rfl) ?_ ?_ leaves
        · exact fun h => nomatch he.symm.trans h
        · exact Nat.zero_le 1
        · exact ⟨by rintro ⟨⟩, fun h => absurd rfl h⟩
      | rolled_back settles answer leaves =>
        refine .attempted hdone answer (store_putTid_putTid tid _ _) ?_ ?_ leaves
        · exact Nat.zero_le 1
        · exact ⟨by rintro ⟨⟩, fun h => absurd rfl h⟩
      | @committed h settles known answer leaves =>
        have hran : ranBy h = [h.id] := by
          rw [ranBy, known hsync]
          rfl
        rw [hran] at leaves
        refine .attempted hdone answer (store_putTid_putTid tid _ _) ?_ ?_ leaves
        · exact Nat.le_refl 1
        · exact ⟨fun _ => List.cons_ne_nil _ _, fun _ => rfl⟩
  · refine .invalid hvalid ?_
    rw [(run_dispatch_transactional_turned w fun tid' h => by
      obtain rfl := Except.ok.inj (hread.symm.trans h)
      exact hvalid).1]
    exact Leaves.refl w

/-- INTERNAL: a frame that ships no TID leaves the TID store alone. -/
theorem same_tids_of_no_ship {frame : Bytes} (h : shippedTid? p frame = none)
    (w : ServerWorld (Process α)) :
    (serveOnce p a frame w).after.user.tids = w.user.tids := by
  unfold serveOnce Run.stepOf
  dsimp only
  cases hname : read_func_name (strip_gw_header frame) with
  | error e => rw [run_dispatch_inbound_error hname]
  | ok fname =>
    rw [run_dispatch_inbound_ok hname]
    unfold dispatch_named
    by_cases hship : fname = ARFC_DEST_SHIP
    · rw [if_pos hship]
      have hturned : ∀ tid, extract_tid_from_frame p (strip_gw_header frame) = .ok tid →
          tid_fault tid ≠ none := by
        intro tid hread
        unfold shippedTid? calledName at h
        rw [hname, hship, hread] at h
        cases h
      rw [(run_dispatch_transactional_turned w hturned).1]
    · rw [if_neg hship]
      split
      · rfl
      split
      · exact same_tids_dispatch_bgrfc_unit w
      split
      · cases confirm_cases p a (strip_gw_header frame) w with
        | inl confirmed =>
          obtain ⟨_, _, -, -, -, leaves⟩ := confirmed
          exact leaves.tids
        | inr nothing => exact nothing.tids
      split
      · exact (nothing_dispatch_bgrfc_state_query p a _ w).tids
      · obtain ⟨_, leaves⟩ := ran_dispatch_call p a (strip_gw_header frame) fname w
        exact leaves.tids

/-- INTERNAL: a frame that ships a TID is dispatched as a transaction. -/
theorem serveOnce_ship {frame : Bytes} {tid : PyStr} (h : shippedTid? p frame = some tid)
    (w : ServerWorld (Process α)) :
    extract_tid_from_frame p (strip_gw_header frame) = .ok tid ∧
      (serveOnce p a frame w).output =
        (Eff.run (dispatch_transactional p a.server (strip_gw_header frame)) w).1 ∧
      (serveOnce p a frame w).after =
        (Eff.run (dispatch_transactional p a.server (strip_gw_header frame)) w).2 := by
  unfold shippedTid? calledName at h
  unfold serveOnce Run.stepOf
  dsimp only
  cases hname : read_func_name (strip_gw_header frame) with
  | error e =>
    rw [hname] at h
    cases h
  | ok fname =>
    rw [hname] at h
    rw [run_dispatch_inbound_ok hname]
    unfold dispatch_named
    by_cases hship : fname = ARFC_DEST_SHIP
    · subst hship
      cases hread : extract_tid_from_frame p (strip_gw_header frame) with
      | error e =>
        rw [hread] at h
        cases h
      | ok tid' =>
        rw [hread] at h
        cases h
        exact ⟨rfl, by rw [if_pos rfl], by rw [if_pos rfl]⟩
    · have hne : ¬ (Except.ok fname : Except PyError PyStr).toOption = some ARFC_DEST_SHIP :=
        fun h' => hship (Option.some.inj h')
      rw [if_neg hne] at h
      cases h

variable (p) in
/-- INTERNAL: what a step adds to the completions. -/
theorem completions_append (done : List (Served α)) (s : Served α) (tid : PyStr) :
    completions p (done ++ [s]) tid = completions p done tid ++
      if shippedTid? p s.input = some tid then newlyCompleted s else [] := by
  unfold completions
  rw [List.flatMap_append, List.flatMap_cons, List.flatMap_nil, List.append_nil]

/-- The ledger is kept. -/
theorem tidLedger_step (hsync : a.Synchronous) (hcheck : a.on_check_transaction = none)
    (done : List (Served α)) (w : ServerWorld (Process α)) (frame : Bytes)
    (h : TidLedger p done w) :
    TidLedger p (done ++ [serveOnce p a frame w]) (serveOnce p a frame w).after := by
  intro tid
  rw [completions_append]
  have hinput : (serveOnce p a frame w).input = frame := rfl
  rw [hinput]
  obtain ⟨honce, hknown⟩ := h tid
  cases hshipped : shippedTid? p frame with
  | none =>
    rw [same_tids_of_no_ship hshipped, if_neg (by rintro ⟨⟩), List.append_nil]
    exact ⟨honce, hknown⟩
  | some tid' =>
    obtain ⟨hread, -, hafter⟩ := serveOnce_ship (a := a) hshipped w
    have hstep := ship_step hsync hcheck hread w
    rw [← hafter] at hstep
    cases hstep with
    | invalid fault leaves =>
      have hnone : newlyCompleted (serveOnce p a frame w) = [] := newlyCompleted_of_leaves leaves
      rw [hnone, ite_self, List.append_nil, leaves.tids]
      exact ⟨honce, hknown⟩
    | known hdone answer leaves =>
      have hnone : newlyCompleted (serveOnce p a frame w) = [] := newlyCompleted_of_leaves leaves
      rw [hnone, ite_self, List.append_nil, leaves.tids]
      exact ⟨honce, hknown⟩
    | @attempted _ mark _ ids fresh answer puts single ended leaves =>
      have hids : newlyCompleted (serveOnce p a frame w) = ids := newlyCompleted_of_leaves leaves
      rw [hids, leaves.tids, puts]
      by_cases hsame : tid' = tid
      · subst hsame
        have hempty : completions p done tid' = [] := not_not.mp fun h => fresh (hknown.mpr h)
        rw [if_pos rfl, hempty, List.nil_append]
        refine ⟨single, ?_⟩
        rw [dictPut, if_pos rfl, Option.some_inj]
        exact ended
      · have hother : ¬ some tid' = some tid := fun h => hsame (Option.some.inj h)
        rw [if_neg hother, List.append_nil, dictPut, if_neg (Ne.symm hsame)]
        exact ⟨honce, hknown⟩

/-- A new server knows no transaction. -/
theorem tidLedger_new (app : α) : TidLedger p [] (newWorld app) :=
  fun _ => ⟨Nat.zero_le 1, by rintro ⟨⟩, fun h => absurd rfl h⟩

/-- A server that checks with its own store and whose handlers are plain functions runs every
transaction at most once to its end, and tells RFC_EXECUTED of those and no others. -/
theorem serves_exactly_once (p : Platform V) (a : App α V) (app : α) (frames : List Bytes)
    (hsync : a.Synchronous) (hcheck : a.on_check_transaction = none) :
    ExactlyOnce p (serveAll p a frames (newWorld app)) := by
  have hledger : ∀ {i : ℕ} {s : Served α}, (serveAll p a frames (newWorld app))[i]? = some s →
      TidLedger p ((serveAll p a frames (newWorld app)).take i) s.before ∧
        TidLedger p ((serveAll p a frames (newWorld app)).take (i + 1)) s.after := fun h =>
    Run.trace_invariant (I := TidLedger p) (P := fun _ => True)
      (fun done w frame hI _ => tidLedger_step hsync hcheck done w frame hI)
      (tidLedger_new app) (fun _ _ => trivial) h
  constructor
  · intro tid
    obtain ⟨w, hw⟩ := Run.trace_invariant_end (I := TidLedger p) (P := fun _ => True)
      (fun done w frame hI _ => tidLedger_step hsync hcheck done w frame hI)
      (tidLedger_new app) (fun (_ : Served α) _ => trivial)
    exact (hw tid).1
  · intro i s tid h hshipped hvalid
    have hmem : s = serveOnce p a s.input s.before :=
      Run.eq_stepOf_of_mem (List.mem_of_getElem? h)
    obtain ⟨hread, hout, -⟩ := serveOnce_ship (a := a) hshipped s.before
    have hknown := ((hledger h).1 tid).2
    rw [← hknown, hmem, hout]
    cases ship_step hsync hcheck hread s.before with
    | invalid fault leaves => exact absurd hvalid fault
    | known done answer leaves => exact ⟨fun _ => done, fun _ => answer⟩
    | attempted fresh answer puts single ended leaves =>
      exact ⟨fun h => absurd h answer, fun h => absurd h fresh⟩

theorem plainApp_synchronous : plainApp.Synchronous where
  registry := by
    intro e he
    obtain rfl := List.mem_singleton.mp he
    rfl
  generic := by rintro f name s e ⟨⟩

/-- A frame and its resend. -/
theorem plainApp_exactly_once :
    ExactlyOnce plainPlatform (serveAll plainPlatform plainApp [shippedFrame, shippedFrame]
      (newWorld ())) :=
  serves_exactly_once plainPlatform plainApp () _ plainApp_synchronous rfl

/-! ## Units -/

section Units

variable (p a)

/-- The frame calls `fname` for a unit. -/
structure NamesUnit (fname : PyStr) (frame : Bytes) (unit_id raw : PyStr) : Prop where
  called : calledName frame = some fname
  id_read : extract_param_from_frame p (strip_gw_header frame) (lit "BGRFC_UNIT_ID") = .ok unit_id
  type_read : extract_param_from_frame p (strip_gw_header frame) (lit "BGRFC_UNIT_TYPE") = .ok raw

/-- While the frame was handled, all calls it carries for the unit were run to their end. -/
structure RunsUnit (s : Served α) (unit_id unit_type : PyStr) : Prop where
  ships : ∃ raw, NamesUnit p BGRFC_DEST_SHIP s.input unit_id raw ∧ unit_type_of raw = unit_type
  runs : ∃ n hs g', Counted p (strip_gw_header s.input) n ∧
    CallsPass p a.server (strip_gw_header s.input) 0 n
      { s.before.user with
        units := putUnit unit_id unit_type .IN_PROCESS s.before.user.units } hs g' ∧
    (∀ h ∈ hs, h.coroutine = false) ∧
    ∀ i, (extract_raw_param_from_frame p (strip_gw_header s.input) (call_name i)).isSome → i < n

/-- The store holds the unit for done. -/
def HeldDone (t : UnitTable) (unit_id unit_type : PyStr) : Prop :=
  t.store (unit_id, unit_type) = some .COMMITTED ∨ t.store (unit_id, unit_type) = some .CONFIRMED

/-- A unit is told done only if it ran before. -/
structure DoneOnlyIfRan (run : List (Served α)) : Prop where
  executed : ∀ (i : ℕ) (s : Served α) (unit_id raw : PyStr), run[i]? = some s →
    NamesUnit p BGRFC_DEST_SHIP s.input unit_id raw →
      s.output = .ok build_rfc_executed_response →
        ∃ s' ∈ run.take i, RunsUnit p a s' unit_id (unit_type_of raw)
  reported : ∀ (i : ℕ) (s : Served α) (unit_id raw : PyStr) (state : UnitState),
    run[i]? = some s → NamesUnit p BGRFC_CHECK_UNIT_STATE_SERVER s.input unit_id raw →
      (state = .COMMITTED ∨ state = .CONFIRMED) → s.output = respondState (.ok state) →
        ∃ s' ∈ run.take i, RunsUnit p a s' unit_id (unit_type_of raw)

/-- A confirm frame is for a unit that the store already holds for done, and a ship declares
as many calls as it carries. -/
structure Honest (s : Served α) : Prop where
  confirms : ∀ unit_id raw, NamesUnit p BGRFC_DEST_CONFIRM s.input unit_id raw →
    unit_id.length = UNITID_LN → HeldDone s.before.user.units unit_id (unit_type_of raw)
  declares : ∀ unit_id raw n, NamesUnit p BGRFC_DEST_SHIP s.input unit_id raw →
    Counted p (strip_gw_header s.input) n → ∀ i,
      (extract_raw_param_from_frame p (strip_gw_header s.input) (call_name i)).isSome → i < n

/-- The units the store holds for done have run. -/
def UnitLedger (done : List (Served α)) (w : ServerWorld (Process α)) : Prop :=
  ∀ unit_id unit_type, HeldDone w.user.units unit_id unit_type →
    ∃ s ∈ done, RunsUnit p a s unit_id (unit_type_of unit_type)

variable {p a}

theorem unit_type_of_or_T (raw : PyStr) : unit_type_of (unit_type_or_T raw) = unit_type_of raw := by
  unfold unit_type_or_T
  split
  next h => subst h; rfl
  next => rfl

theorem unit_type_of_idem (raw : PyStr) : unit_type_of (unit_type_of raw) = unit_type_of raw := by
  unfold unit_type_of
  by_cases h : raw = lit "Q"
  · rw [if_pos h, if_pos h]
  · rw [if_neg h, if_neg (by decide)]

/-- INTERNAL: the calls of a unit are calls of plain functions. -/
theorem CallsPass.synchronous (hsync : a.Synchronous) {tlv : Bytes} {i n : ℕ} {g g' : Process α}
    {hs : List (Handler (Process α) V)} (h : CallsPass p a.server tlv i n g hs g') :
    ∀ h' ∈ hs, h'.coroutine = false := by
  induction h with
  | done i g => exact fun _ hmem => (List.not_mem_nil hmem).elim
  | call carried selects passes rest ih =>
    rw [List.forall_mem_cons]
    refine ⟨?_, ih⟩
    cases selects with
    | @intro name entry g₁ named found =>
      obtain ⟨e₀, rfl, hplain⟩ := (lookup_cases p a name _).2 entry (by rw [found])
      exact hplain hsync

theorem heldDone_putUnit_of_ne {t : UnitTable} {unit_id unit_type unit_id' unit_type' : PyStr}
    {state : UnitState} (hne : (unit_id, unit_type) ≠ (unit_id', unit_type'))
    (h : HeldDone (putUnit unit_id' unit_type' state t) unit_id unit_type) :
    HeldDone t unit_id unit_type := by
  unfold HeldDone at h
  rw [store_putUnit_of_ne hne] at h
  exact h

/-- INTERNAL: a unit put in process is not done, and the others are as they were. -/
theorem heldDone_of_inProcess {t : UnitTable} {unit_id unit_type unit_id' unit_type' : PyStr}
    (h : HeldDone (putUnit unit_id' unit_type' .IN_PROCESS t) unit_id unit_type) :
    HeldDone t unit_id unit_type := by
  by_cases hsame : (unit_id, unit_type) = (unit_id', unit_type')
  · obtain ⟨rfl, rfl⟩ := Prod.mk.inj hsame
    unfold HeldDone at h
    rw [store_putUnit] at h
    rcases h with h | h <;> cases h
  · exact heldDone_putUnit_of_ne hsame h

/-- INTERNAL: a unit ship on a server that checks with its store. -/
theorem run_unit_ship (hcheck : a.on_check_unit = none) {frame : Bytes} {unit_id raw : PyStr}
    (hnames : NamesUnit p BGRFC_DEST_SHIP frame unit_id raw) (hvalid : unit_id_fault unit_id = none)
    (w : ServerWorld (Process α)) :
    Eff.run (dispatch_bgrfc_unit p a.server (strip_gw_header frame)) w =
      if w.user.units.store (unit_id, unit_type_of raw) = some .COMMITTED ∨
          w.user.units.store (unit_id, unit_type_of raw) = some .CONFIRMED then
        (.ok build_rfc_executed_response, w)
      else Eff.run (open_unit p a.server (strip_gw_header frame) unit_id (unit_type_of raw)) w := by
  rw [run_dispatch_bgrfc_unit_checked hnames.id_read hvalid hnames.type_read w]
  have hstate : Eff.run (a.server.check_unit unit_id (unit_type_of raw)) w.user =
      (.ok (decide ((w.user.units.store (unit_id, unit_type_of raw)).getD .NOT_FOUND = .COMMITTED ∨
        (w.user.units.store (unit_id, unit_type_of raw)).getD .NOT_FOUND = .CONFIRMED)),
        w.user) := by
    unfold RfcServer.check_unit App.server
    rw [hcheck]
    rfl
  rw [hstate]
  cases w.user.units.store (unit_id, unit_type_of raw) with
  | none => simp
  | some state => cases state <;> simp

/-- INTERNAL: the run of a frame, by the name it calls. -/
theorem serveOnce_called {frame : Bytes} {fname : PyStr} (h : calledName frame = some fname)
    (w : ServerWorld (Process α)) :
    (serveOnce p a frame w).output =
        (Eff.run (dispatch_named p a.server (strip_gw_header frame) fname) w).1 ∧
      (serveOnce p a frame w).after =
        (Eff.run (dispatch_named p a.server (strip_gw_header frame) fname) w).2 := by
  unfold calledName at h
  unfold serveOnce Run.stepOf
  dsimp only
  cases hname : read_func_name (strip_gw_header frame) with
  | error e =>
    rw [hname] at h
    cases h
  | ok fname' =>
    rw [hname] at h
    cases h
    rw [run_dispatch_inbound_ok hname]
    exact ⟨rfl, rfl⟩

theorem serveOnce_uncalled {frame : Bytes} (h : calledName frame = none)
    (w : ServerWorld (Process α)) : (serveOnce p a frame w).after = w := by
  unfold calledName at h
  unfold serveOnce Run.stepOf
  dsimp only
  cases hname : read_func_name (strip_gw_header frame) with
  | error e => rw [run_dispatch_inbound_error hname]
  | ok fname =>
    rw [hname] at h
    cases h

/-- INTERNAL: the ship of a unit makes the store hold that unit for done if it runs it. -/
theorem unit_ship_step (hsync : a.Synchronous) (hcheck : a.on_check_unit = none) {frame : Bytes}
    (hcalled : calledName frame = some BGRFC_DEST_SHIP) {w : ServerWorld (Process α)}
    (hhonest : Honest p (serveOnce p a frame w)) {unit_id unit_type : PyStr}
    (h : HeldDone (Eff.run (dispatch_bgrfc_unit p a.server (strip_gw_header frame)) w).2.user.units
      unit_id unit_type) :
    HeldDone w.user.units unit_id unit_type ∨
      HeldDone w.user.units unit_id (unit_type_of unit_type) ∨
      RunsUnit p a (serveOnce p a frame w) unit_id (unit_type_of unit_type) := by
  by_cases hturned : ∀ unit_id raw,
      extract_param_from_frame p (strip_gw_header frame) (lit "BGRFC_UNIT_ID") = .ok unit_id →
      extract_param_from_frame p (strip_gw_header frame) (lit "BGRFC_UNIT_TYPE") = .ok raw →
      unit_id_fault unit_id ≠ none
  · rw [(run_dispatch_bgrfc_unit_turned w hturned).1] at h
    exact .inl h
  push Not at hturned
  obtain ⟨shipped_id, raw, hid, htype, hvalid⟩ := hturned
  have hnames : NamesUnit p BGRFC_DEST_SHIP frame shipped_id raw := ⟨hcalled, hid, htype⟩
  rw [run_unit_ship hcheck hnames hvalid w] at h
  split at h
  · exact .inl h
  rcases (open_unit_end p a (strip_gw_header frame) shipped_id
    (unit_type_of raw) w).open_or_done with ⟨hunits, -⟩ | ⟨hunits, -, n, hs, g', count, calls⟩
  · rw [hunits] at h
    exact .inl (heldDone_of_inProcess h)
  · rw [hunits] at h
    by_cases hsame : (unit_id, unit_type) = (shipped_id, unit_type_of raw)
    · obtain ⟨rfl, rfl⟩ := Prod.mk.inj hsame
      refine .inr (.inr ⟨⟨raw, hnames, (unit_type_of_idem raw).symm⟩, n, hs, g', count, ?_,
        CallsPass.synchronous hsync calls, hhonest.declares unit_id raw n hnames count⟩)
      rw [unit_type_of_idem]
      exact calls
    · exact .inl (heldDone_of_inProcess (heldDone_putUnit_of_ne hsame h))

/-- INTERNAL: a confirm makes the store hold for done what it already held so. -/
theorem unit_confirm_step {frame : Bytes} (hcalled : calledName frame = some BGRFC_DEST_CONFIRM)
    {w : ServerWorld (Process α)} (hhonest : Honest p (serveOnce p a frame w))
    {unit_id unit_type : PyStr}
    (h : HeldDone (Eff.run (dispatch_bgrfc_confirm p a.server (strip_gw_header frame))
      w).2.user.units unit_id unit_type) :
    HeldDone w.user.units unit_id unit_type ∨
      HeldDone w.user.units unit_id (unit_type_of unit_type) ∨
      RunsUnit p a (serveOnce p a frame w) unit_id (unit_type_of unit_type) := by
  cases confirm_cases p a (strip_gw_header frame) w with
  | inr nothing =>
    rw [nothing.units] at h
    exact .inl h
  | inl confirmed =>
    obtain ⟨confirmed_id, raw, hid, htype, hlen, leaves⟩ := confirmed
    rw [leaves.units] at h
    by_cases hsame : (unit_id, unit_type) = (confirmed_id, unit_type_or_T raw)
    · obtain ⟨rfl, rfl⟩ := Prod.mk.inj hsame
      rw [unit_type_of_or_T]
      exact .inr (.inl (hhonest.confirms unit_id raw ⟨hcalled, hid, htype⟩ hlen))
    · exact .inl (heldDone_putUnit_of_ne hsame h)

/-- INTERNAL: a unit that a frame has made the store hold for done was held so before, under
its type as it stands or as it is taken, or has just run. -/
theorem unit_step (hsync : a.Synchronous) (hcheck : a.on_check_unit = none) {frame : Bytes}
    {w : ServerWorld (Process α)} (hhonest : Honest p (serveOnce p a frame w))
    {unit_id unit_type : PyStr}
    (h : HeldDone (serveOnce p a frame w).after.user.units unit_id unit_type) :
    HeldDone w.user.units unit_id unit_type ∨
      HeldDone w.user.units unit_id (unit_type_of unit_type) ∨
      RunsUnit p a (serveOnce p a frame w) unit_id (unit_type_of unit_type) := by
  cases hcalled : calledName frame with
  | none =>
    rw [serveOnce_uncalled hcalled] at h
    exact .inl h
  | some fname =>
    rw [(serveOnce_called hcalled w).2] at h
    unfold dispatch_named at h
    by_cases htrfc : fname = ARFC_DEST_SHIP
    · rw [if_pos htrfc, same_units_dispatch_transactional w] at h
      exact .inl h
    rw [if_neg htrfc] at h
    by_cases hconf : fname = ARFC_DEST_CONFIRM
    · rw [if_pos hconf] at h
      exact .inl h
    rw [if_neg hconf] at h
    by_cases hship : fname = BGRFC_DEST_SHIP
    · rw [if_pos hship] at h
      subst hship
      exact unit_ship_step hsync hcheck hcalled hhonest h
    rw [if_neg hship] at h
    by_cases hconfirm : fname = BGRFC_DEST_CONFIRM
    · rw [if_pos hconfirm] at h
      subst hconfirm
      exact unit_confirm_step hcalled hhonest h
    rw [if_neg hconfirm] at h
    by_cases hquery : fname = BGRFC_CHECK_UNIT_STATE_SERVER
    · rw [if_pos hquery, (nothing_dispatch_bgrfc_state_query p a _ w).units] at h
      exact .inl h
    · rw [if_neg hquery] at h
      obtain ⟨_, leaves⟩ := ran_dispatch_call p a (strip_gw_header frame) fname w
      rw [leaves.units] at h
      exact .inl h

/-- The ledger is kept. -/
theorem unitLedger_step (hsync : a.Synchronous) (hcheck : a.on_check_unit = none)
    (done : List (Served α)) (w : ServerWorld (Process α)) (frame : Bytes)
    (h : UnitLedger p a done w) (hhonest : Honest p (serveOnce p a frame w)) :
    UnitLedger p a (done ++ [serveOnce p a frame w]) (serveOnce p a frame w).after := by
  have hbefore : ∀ unit_id unit_type, HeldDone w.user.units unit_id unit_type →
      ∃ s ∈ done ++ [serveOnce p a frame w], RunsUnit p a s unit_id (unit_type_of unit_type) := by
    intro unit_id unit_type hheld
    obtain ⟨s, hs, hran⟩ := h unit_id unit_type hheld
    exact ⟨s, List.mem_append_left _ hs, hran⟩
  intro unit_id unit_type hheld
  rcases unit_step hsync hcheck hhonest hheld with held | held | ran
  · exact hbefore unit_id unit_type held
  · have hran := hbefore unit_id (unit_type_of unit_type) held
    rw [unit_type_of_idem] at hran
    exact hran
  · exact ⟨_, List.mem_append_right _ (List.mem_singleton_self _), ran⟩

/-- A new server holds no unit. -/
theorem unitLedger_new (app : α) : UnitLedger p a [] (newWorld app) := by
  rintro unit_id unit_type (h | h) <;> cases h

/-- INTERNAL: a unit that is opened is not answered RFC_EXECUTED. -/
theorem open_unit_ne_executed (tlv : Bytes) (unit_id unit_type : PyStr)
    (w : ServerWorld (Process α)) :
    (Eff.run (open_unit p a.server tlv unit_id unit_type) w).1 ≠
      .ok build_rfc_executed_response := by
  rcases (open_unit_end p a tlv unit_id unit_type w).open_or_done with
    ⟨-, hanswer⟩ | ⟨-, hraised | hok, -⟩
  · exact ne_of_raised_or_failed system_failure_ne_executed hanswer
  · exact ne_of_raised_or_failed system_failure_ne_executed (.inl hraised)
  · rw [hok]
    exact fun h => executed_ne_ok (Except.ok.inj h).symm

/-- INTERNAL: two states are answered differently. -/
theorem respondState_injective {state state' : UnitState}
    (h : respondState (.ok state) = respondState (.ok state')) : state = state' := by
  revert h
  cases state <;> cases state' <;> decide +kernel

/-- INTERNAL: no failure looks like a state. -/
theorem system_failure_ne_state (message : PyStr) (state : UnitState) :
    build_system_failure message ≠ respondState (.ok state) := by
  intro h
  have hout : ∃ out, respondState (.ok state) = .ok out ∧
      out.take 14 ≠ (Records.encode Tag.RESPONSE_START [] ++
        Records.encode Tag.RETURN_CODE (toBE 4 RC_SYSTEM_FAILURE)).take 14 := by
    cases state <;> exact ⟨_, rfl, by decide +kernel⟩
  obtain ⟨out, hok, hne⟩ := hout
  exact hne (take_system_failure (h.trans hok))

/-- INTERNAL: a state that is reported is the state in the store. -/
theorem state_of_report (hget : a.on_get_unit_state = none) {frame : Bytes} {unit_id raw : PyStr}
    {state : UnitState} (hnames : NamesUnit p BGRFC_CHECK_UNIT_STATE_SERVER frame unit_id raw)
    {w : ServerWorld (Process α)}
    (h : (Eff.run (dispatch_bgrfc_state_query p a.server (strip_gw_header frame)) w).1 =
      respondState (.ok state)) :
    (w.user.units.store (unit_id, unit_type_or_T raw)).getD .NOT_FOUND = state := by
  by_cases hlen : unit_id.length = UNITID_LN
  · rw [run_dispatch_bgrfc_state_query_named hnames.id_read hlen hnames.type_read] at h
    rw [Eff.run_bind_ok (run_unit_state_answer_own hget _ _ w)] at h
    exact respondState_injective h
  · unfold dispatch_bgrfc_state_query at h
    rw [hnames.id_read, Eff.run_bind_ok (Eff.run_lift _ _), hnames.type_read,
      Eff.run_bind_ok (Eff.run_lift _ _), if_pos hlen] at h
    exact absurd h (system_failure_ne_state _ state)

/-- On a server with its own stores and plain handlers, a unit is told done only if all its
calls have run, in every run whose confirms are for units that the store already holds for
done and whose ships declare all the calls they carry. -/
theorem units_done_only_if_ran (p : Platform V) (a : App α V) (app : α) (frames : List Bytes)
    (hsync : a.Synchronous) (hcheck : a.on_check_unit = none)
    (hget : a.on_get_unit_state = none)
    (hhonest : ∀ s ∈ serveAll p a frames (newWorld app), Honest p s) :
    DoneOnlyIfRan p a (serveAll p a frames (newWorld app)) := by
  have hledger : ∀ {i : ℕ} {s : Served α}, (serveAll p a frames (newWorld app))[i]? = some s →
      UnitLedger p a ((serveAll p a frames (newWorld app)).take i) s.before := fun h =>
    (Run.trace_invariant (I := UnitLedger p a) (P := Honest p)
      (fun done w frame hI hP => unitLedger_step hsync hcheck done w frame hI hP)
      (unitLedger_new app) hhonest h).1
  constructor
  · intro i s unit_id raw hi hnames hout
    have hstep : s = serveOnce p a s.input s.before :=
      Run.eq_stepOf_of_mem (List.mem_of_getElem? hi)
    rw [hstep, (serveOnce_called hnames.called s.before).1] at hout
    change (Eff.run (dispatch_bgrfc_unit p a.server (strip_gw_header s.input)) s.before).1 = _
      at hout
    have hvalid : unit_id_fault unit_id = none := by
      by_contra hfault
      refine (run_dispatch_bgrfc_unit_turned s.before fun id' raw' hid _ => ?_).2 hout
      obtain rfl := Except.ok.inj (hnames.id_read.symm.trans hid)
      exact hfault
    rw [run_unit_ship hcheck hnames hvalid s.before] at hout
    split at hout
    next held =>
      have hran := hledger hi unit_id (unit_type_of raw) held
      rw [unit_type_of_idem] at hran
      exact hran
    next => exact absurd hout (open_unit_ne_executed _ _ _ _)
  · intro i s unit_id raw state hi hnames hdone hout
    have hstep : s = serveOnce p a s.input s.before :=
      Run.eq_stepOf_of_mem (List.mem_of_getElem? hi)
    rw [hstep, (serveOnce_called hnames.called s.before).1] at hout
    change (Eff.run (dispatch_bgrfc_state_query p a.server (strip_gw_header s.input))
      s.before).1 = _ at hout
    have hstate := state_of_report hget hnames hout
    have hheld : HeldDone s.before.user.units unit_id (unit_type_or_T raw) := by
      unfold HeldDone
      cases hstore : s.before.user.units.store (unit_id, unit_type_or_T raw) with
      | none =>
        rw [hstore] at hstate
        subst hstate
        rcases hdone with h | h <;> cases h
      | some held =>
        rw [hstore] at hstate
        obtain rfl : held = state := hstate
        rw [Option.some_inj, Option.some_inj]
        exact hdone
    have hran := hledger hi unit_id (unit_type_or_T raw) hheld
    rw [unit_type_of_or_T] at hran
    exact hran

/-! ## A unit of one call -/

variable (p) in
/-- INTERNAL: what the search finds has the name of a record, or the one read last. -/
theorem find_raw_param_named {key : PyStr} {records : List (ℕ × Bytes)} :
    ∀ {current : Option PyStr}, (find_raw_param p key current records).isSome →
      key ∈ current.toList.map p.u.upper ∨
        key ∈ (records.filter (·.1 = Tag.PARAM_NAME)).map fun r =>
          p.u.upper (decode_utf16le r.2) := by
  induction records with
  | nil => intro _ h; cases h
  | cons r rest ih =>
    intro current h
    obtain ⟨tag, value⟩ := r
    unfold find_raw_param at h
    by_cases hname : tag = Tag.PARAM_NAME
    · rw [if_pos hname] at h
      rw [List.filter_cons_of_pos (by simpa using hname), List.map_cons]
      rcases ih h with found | found
      · obtain rfl := List.mem_singleton.mp found
        exact .inr List.mem_cons_self
      · exact .inr (List.mem_cons_of_mem _ found)
    · rw [if_neg hname] at h
      rw [List.filter_cons_of_neg (by simpa using hname)]
      split at h
      · cases current with
        | none => exact (ih h).imp_left fun found => nomatch found
        | some name =>
          dsimp only at h
          split at h
          next heq => exact .inl (List.mem_singleton.mpr heq.symm)
          next => exact .inr ((ih h).resolve_left fun found => nomatch found)
      · exact ih h

/-- A unit of one call of `Z_FM`. -/
def unitFrame : Bytes :=
  callFrame "BGRFC_DEST_SHIP"
    [("BGRFC_UNIT_ID", "0123456789ABCDEF0123456789ABCDEF"), ("BGRFC_UNIT_TYPE", "T"),
      ("BGRFC_CALL_COUNT", "1"), ("BGRFC_CALL_0", "Z_FM")]

/-- The confirm of that unit. -/
def confirmFrame : Bytes :=
  callFrame "BGRFC_DEST_CONFIRM"
    [("BGRFC_UNIT_ID", "0123456789ABCDEF0123456789ABCDEF"), ("BGRFC_UNIT_TYPE", "T")]

/-- INTERNAL: a ship is no confirm. -/
theorem ship_ne_confirm : BGRFC_DEST_SHIP ≠ BGRFC_DEST_CONFIRM := by
  decide

/-- INTERNAL: of the names in the frame, one is the name of a call. -/
theorem call_name_of_mem {i : ℕ} (h : call_name i ∈
    [lit "BGRFC_UNIT_ID", lit "BGRFC_UNIT_TYPE", lit "BGRFC_CALL_COUNT", lit "BGRFC_CALL_0"]) :
    i = 0 := by
  have hsixth : (call_name i)[6]? = some 67 := rfl
  have hother : ∀ {name : PyStr}, name[6]? ≠ some 67 → call_name i ≠ name := by
    rintro name hne rfl
    exact hne hsixth
  rw [List.mem_cons, List.mem_cons] at h
  replace h := (h.resolve_left (hother (by decide))).resolve_left (hother (by decide))
  rw [List.mem_cons, List.mem_singleton] at h
  cases h with
  | inl h =>
    have hcount : dec i = lit "COUNT" := List.append_cancel_left (h.trans rfl)
    have hdigit := mem_dec (n := i) (c := 67) (by rw [hcount]; decide)
    omega
  | inr h => exact dec_injective (List.append_cancel_left (h.trans rfl))

/-- INTERNAL: a number stays as it is in upper case. -/
theorem upper_dec (n : ℕ) : plainPlatform.u.upper (dec n) = dec n := by
  have hdigit : ∀ c ∈ dec n, (if 97 ≤ c ∧ c ≤ 122 then c - 32 else c) = c := by
    intro c hc
    have hrange := mem_dec hc
    exact if_neg (by omega)
  exact (List.map_congr_left hdigit).trans (List.map_id' _)

/-- INTERNAL: the frame carries the call that it declares and no other. -/
theorem unitFrame_declares (i : ℕ) (h : (extract_raw_param_from_frame plainPlatform
    (strip_gw_header unitFrame) (call_name i)).isSome) : i < 1 := by
  have hnamed := (find_raw_param_named plainPlatform h).resolve_left fun found => nomatch found
  have hnames : ((Records.walk Tag.TERMINATOR (strip_gw_header unitFrame)).records.filter
      (·.1 = Tag.PARAM_NAME)).map (fun r => plainPlatform.u.upper (decode_utf16le r.2)) =
        [lit "BGRFC_UNIT_ID", lit "BGRFC_UNIT_TYPE", lit "BGRFC_CALL_COUNT",
          lit "BGRFC_CALL_0"] := by decide +kernel
  have hkey : plainPlatform.u.upper (call_name i) =
      lit "BGRFC_CALL_" ++ plainPlatform.u.upper (dec i) := List.map_append
  rw [hnames, hkey, upper_dec] at hnamed
  rw [call_name_of_mem hnamed]
  exact Nat.one_pos

/-- INTERNAL: a ship of that unit is honest wherever it is handled. -/
theorem honest_unitFrame (w : ServerWorld (Process Unit)) :
    Honest plainPlatform (serveOnce plainPlatform plainApp unitFrame w) where
  confirms := by
    intro unit_id raw hnames
    have hcalled : calledName unitFrame = some BGRFC_DEST_SHIP := by decide +kernel
    have hname := Option.some.inj (hcalled.symm.trans hnames.called)
    exact absurd hname ship_ne_confirm
  declares := by
    intro unit_id raw n _ hcount i hcarried
    obtain ⟨count_str, hread, hparse⟩ := hcount
    have hdeclared : extract_param_from_frame plainPlatform (strip_gw_header unitFrame)
        (lit "BGRFC_CALL_COUNT") = .ok (lit "1") := by decide +kernel
    obtain rfl := Except.ok.inj (hdeclared.symm.trans hread)
    obtain rfl : 1 = n := Except.ok.inj hparse
    exact unitFrame_declares i hcarried

/-- INTERNAL: a confirm of that unit is honest once the unit is held for done. -/
theorem honest_confirmFrame {w : ServerWorld (Process Unit)}
    (h : HeldDone w.user.units someUnit (lit "T")) :
    Honest plainPlatform (serveOnce plainPlatform plainApp confirmFrame w) where
  confirms := by
    intro unit_id raw hnames _
    have hid : extract_param_from_frame plainPlatform (strip_gw_header confirmFrame)
        (lit "BGRFC_UNIT_ID") = .ok someUnit := by decide +kernel
    have htype : extract_param_from_frame plainPlatform (strip_gw_header confirmFrame)
        (lit "BGRFC_UNIT_TYPE") = .ok (lit "T") := by decide +kernel
    obtain rfl := Except.ok.inj (hid.symm.trans hnames.id_read)
    obtain rfl := Except.ok.inj (htype.symm.trans hnames.type_read)
    exact h
  declares := by
    intro unit_id raw n hnames
    have hcalled : calledName confirmFrame = some BGRFC_DEST_CONFIRM := by decide +kernel
    have hname := Option.some.inj (hnames.called.symm.trans hcalled)
    exact absurd hname ship_ne_confirm

/-- The unit, its confirm, and its resend. -/
theorem unitFrame_done_only_if_ran :
    DoneOnlyIfRan plainPlatform plainApp
      (serveAll plainPlatform plainApp [unitFrame, confirmFrame, unitFrame] (newWorld ())) := by
  refine units_done_only_if_ran plainPlatform plainApp () _ plainApp_synchronous rfl rfl ?_
  have hshipped : HeldDone (serveOnce plainPlatform plainApp unitFrame
      (newWorld ())).after.user.units
      someUnit (lit "T") := .inr (by decide +kernel)
  rw [serveAll_cons, serveAll_cons, serveAll_cons, List.forall_mem_cons, List.forall_mem_cons,
    List.forall_mem_cons]
  exact ⟨honest_unitFrame _, honest_confirmFrame hshipped, honest_unitFrame _,
    fun _ hs => (List.not_mem_nil hs).elim⟩

/-- A confirm of a unit that never came makes its ship look done. -/
theorem confirmed_before_shipped :
    ¬ DoneOnlyIfRan plainPlatform plainApp
      (serveAll plainPlatform plainApp [confirmFrame, unitFrame] (newWorld ())) := by
  intro h
  obtain ⟨s, hs, hran⟩ := h.executed 1 _ someUnit (lit "T") rfl
    ⟨by decide +kernel, by decide +kernel, by decide +kernel⟩ (by decide +kernel)
  obtain ⟨raw, hnames, -⟩ := hran.ships
  rw [serveAll_cons, List.take_succ_cons, List.take_zero, List.mem_singleton] at hs
  rw [hs] at hnames
  have hcalled : calledName confirmFrame = some BGRFC_DEST_CONFIRM := by decide +kernel
  have hname := Option.some.inj (hnames.called.symm.trans hcalled)
  exact absurd hname ship_ne_confirm

end Units

end SapRfc.Analysis.Ledgers
