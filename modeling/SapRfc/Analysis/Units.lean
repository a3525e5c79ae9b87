import SapRfc.Analysis.Residue
import SapRfc.Library.Runs

/-!
# bgRFC units on a hosted server

How a shipped unit ends, and what a state query then says of it.  A unit that failed stays
in process, because the unit store has no way to record a failure.  Over a run of frames
a unit is reported done only if it ran, as long as no unit is confirmed that did not run.
-/

set_option autoImplicit false

namespace SapRfc.Analysis.Units

open SapRfc.Library SapRfc.Program SapRfc.Analysis.Shipping SapRfc.Analysis.Residue

variable {α V : Type} {p : Platform V} {a : App α V} {tlv : Bytes} {unit_id unit_type : PyStr}

/-! ## Callbacks of a unit -/

/-- INTERNAL: a callback of a hosted server, told of a unit. -/
theorem leaves_hosted (x : Option (PyStr → PyStr → Eff PyError α Unit))
    (e : PyStr → PyStr → CallbackEvent) (unit_id unit_type : PyStr) :
    Eff.Keeps (Leaves id id (told x (e unit_id unit_type)) [])
      (isolated ((x.map fun f unit_id unit_type =>
        noted (e unit_id unit_type) (f unit_id unit_type)).map fun f => f unit_id unit_type)) := by
  cases x with
  | none => exact leaves_isolated none _
  | some f => exact leaves_isolated (some (f unit_id unit_type)) _

variable (a unit_id unit_type) in
theorem leaves_commit_unit :
    Eff.Keeps (Leaves id id (told a.on_commit_unit (.commit_unit unit_id unit_type)) [])
      (isolated (a.server.on_commit_unit.map fun f => f unit_id unit_type)) :=
  leaves_hosted a.on_commit_unit .commit_unit unit_id unit_type

variable (a unit_id unit_type) in
theorem leaves_rollback_unit :
    Eff.Keeps (Leaves id id (told a.on_rollback_unit (.rollback_unit unit_id unit_type)) [])
      (isolated (a.server.on_rollback_unit.map fun f => f unit_id unit_type)) :=
  leaves_hosted a.on_rollback_unit .rollback_unit unit_id unit_type

variable (a unit_id unit_type) in
theorem leaves_confirm_unit :
    Eff.Keeps (Leaves id id (told a.on_confirm_unit (.confirm_unit unit_id unit_type)) [])
      (isolated (a.server.on_confirm_unit.map fun f => f unit_id unit_type)) :=
  leaves_hosted a.on_confirm_unit .confirm_unit unit_id unit_type

/-! ## How a unit ends -/

/-- The frame declares a number of calls that can be read. -/
def Counted (p : Platform V) (tlv : Bytes) (n : ℕ) : Prop :=
  ∃ count_str, extract_param_from_frame p tlv (lit "BGRFC_CALL_COUNT") = .ok count_str ∧
    parse_call_count p count_str = .ok n

/-- The answer is a failure. -/
def Failure (r : Except PyError Bytes) : Prop :=
  ∃ message out, build_system_failure message = .ok out ∧ r = .ok out

variable (p a tlv unit_id unit_type) in
/-- The ends of a unit that the store has taken. -/
inductive UnitEnd (w : ServerWorld (Process α)) (r : Except PyError Bytes)
    (w' : ServerWorld (Process α)) : Prop
  /-- the number of calls is not read, or it is no number of calls -/
  | uncounted (count : ¬ ∃ n, Counted p tlv n) (answer : (∃ e, r = .error e) ∨ Failure r)
      (leaves : Leaves id (putUnit unit_id unit_type .IN_PROCESS) [] [] w w')
  /-- a call raised what is not caught -/
  | raised {ids : List ℕ} (answer : ∃ e, r = .error e)
      (leaves : Leaves id (putUnit unit_id unit_type .IN_PROCESS) [] ids w w')
  /-- a call failed -/
  | failed {n : ℕ} {ids : List ℕ} (count : Counted p tlv n)
      (answer : (∃ e, r = .error e) ∨ Failure r)
      (leaves : Leaves id (putUnit unit_id unit_type .IN_PROCESS)
        (told a.on_rollback_unit (.rollback_unit unit_id unit_type)) ids w w')
  /-- the calls went through and the commit callback raised what is not caught -/
  | cut {ids : List ℕ} (answer : ∃ e, r = .error e)
      (leaves : Leaves id (putUnit unit_id unit_type .IN_PROCESS)
        (told a.on_commit_unit (.commit_unit unit_id unit_type)) ids w w')
  /-- the calls went through -/
  | done {n : ℕ} {hs : List (Handler (Process α) V)} {g g' : Process α} {ids : List ℕ}
      (count : Counted p tlv n)
      (opened : g = { w.user with
        units := putUnit unit_id unit_type .IN_PROCESS w.user.units })
      (calls : CallsPass p a.server tlv 0 n g hs g')
      (answer : (∃ e, r = .error e) ∨ r = .ok build_rfc_ok_response)
      (leaves : Leaves id
        (putUnit unit_id unit_type .CONFIRMED ∘ putUnit unit_id unit_type .IN_PROCESS)
        (told a.on_commit_unit (.commit_unit unit_id unit_type) ++
          told a.on_confirm_unit (.confirm_unit unit_id unit_type)) ids w w')

/-- INTERNAL: what was raised or failed is no answer that cannot be a failure. -/
theorem ne_of_raised_or_failed {r : Except PyError Bytes} {out : Bytes}
    (hout : ∀ message, build_system_failure message ≠ .ok out)
    (h : (∃ e, r = .error e) ∨ Failure r) : r ≠ .ok out := by
  rintro rfl
  rcases h with ⟨e, he⟩ | ⟨message, out', hmessage, heq⟩
  · cases he
  · cases heq
    exact hout message hmessage

theorem failure_or_error (message : PyStr) :
    (∃ e, build_system_failure message = .error e) ∨ Failure (build_system_failure message) := by
  cases h : build_system_failure message with
  | error e => exact .inl ⟨e, rfl⟩
  | ok out => exact .inr ⟨message, out, h, rfl⟩

section Ended

variable {w w' : ServerWorld (Process α)} {r : Except PyError Bytes}

/-- INTERNAL: no end of a unit touches the TID store. -/
theorem UnitEnd.tids (h : UnitEnd p a tlv unit_id unit_type w r w') :
    w'.user.tids = w.user.tids := by
  cases h with
  | uncounted count answer leaves => exact leaves.tids
  | raised answer leaves => exact leaves.tids
  | failed count answer leaves => exact leaves.tids
  | cut answer leaves => exact leaves.tids
  | done count opened calls answer leaves => exact leaves.tids

/-- A unit ends in process and without RFC_OK, or its calls went through and it is confirmed. -/
theorem UnitEnd.open_or_done (h : UnitEnd p a tlv unit_id unit_type w r w') :
    (w'.user.units = putUnit unit_id unit_type .IN_PROCESS w.user.units ∧
        ((∃ e, r = .error e) ∨ Failure r)) ∨
      (w'.user.units = putUnit unit_id unit_type .CONFIRMED
          (putUnit unit_id unit_type .IN_PROCESS w.user.units) ∧
        ((∃ e, r = .error e) ∨ r = .ok build_rfc_ok_response) ∧
        ∃ n hs g', Counted p tlv n ∧ CallsPass p a.server tlv 0 n
          { w.user with units := putUnit unit_id unit_type .IN_PROCESS w.user.units } hs g') := by
  cases h with
  | uncounted count answer leaves => exact .inl ⟨leaves.units, answer⟩
  | raised answer leaves => exact .inl ⟨leaves.units, .inl answer⟩
  | failed count answer leaves => exact .inl ⟨leaves.units, answer⟩
  | cut answer leaves => exact .inl ⟨leaves.units, .inl answer⟩
  | done count opened calls answer leaves =>
    exact .inr ⟨leaves.units, answer, _, _, _, count, opened ▸ calls⟩

end Ended

variable (a unit_id unit_type) in
/-- INTERNAL: a unit one of whose calls failed. -/
theorem finish_failed (message : PyStr) (w : ServerWorld (Process α)) :
    ((∃ e, (Eff.run (finish_unit a.server unit_id unit_type (some message)) w).1 = .error e) ∨
        Failure (Eff.run (finish_unit a.server unit_id unit_type (some message)) w).1) ∧
      Leaves id id (told a.on_rollback_unit (.rollback_unit unit_id unit_type)) []
        w (Eff.run (finish_unit a.server unit_id unit_type (some message)) w).2 := by
  have hcall := leaves_rollback_unit a unit_id unit_type w
  unfold finish_unit
  dsimp only
  cases hrun :
      Eff.run (isolated (a.server.on_rollback_unit.map fun f => f unit_id unit_type)) w with
  | mk r w' =>
    rw [hrun] at hcall
    cases r with
    | error e =>
      rw [Eff.run_bind_error hrun]
      exact ⟨.inl ⟨e, rfl⟩, hcall⟩
    | ok _ =>
      rw [Eff.run_bind_ok hrun]
      exact ⟨failure_or_error message, hcall⟩

variable (a unit_id unit_type) in
/-- INTERNAL: a unit whose calls went through. -/
theorem finish_done (w : ServerWorld (Process α)) :
    ((∃ e, (Eff.run (finish_unit a.server unit_id unit_type none) w).1 = .error e) ∧
      Leaves id id (told a.on_commit_unit (.commit_unit unit_id unit_type)) []
        w (Eff.run (finish_unit a.server unit_id unit_type none) w).2) ∨
    (((∃ e, (Eff.run (finish_unit a.server unit_id unit_type none) w).1 = .error e) ∨
        (Eff.run (finish_unit a.server unit_id unit_type none) w).1 = .ok build_rfc_ok_response) ∧
      Leaves id (putUnit unit_id unit_type .CONFIRMED)
        (told a.on_commit_unit (.commit_unit unit_id unit_type) ++
          told a.on_confirm_unit (.confirm_unit unit_id unit_type)) []
        w (Eff.run (finish_unit a.server unit_id unit_type none) w).2) := by
  have hcommit := leaves_commit_unit a unit_id unit_type w
  unfold finish_unit
  dsimp only
  cases hrun : Eff.run (isolated (a.server.on_commit_unit.map fun f => f unit_id unit_type)) w with
  | mk r w₁ =>
    rw [hrun] at hcommit
    cases r with
    | error e =>
      rw [Eff.run_bind_error hrun]
      exact .inl ⟨⟨e, rfl⟩, hcommit⟩
    | ok _ =>
      rw [Eff.run_bind_ok hrun, Eff.run_bind_ok (run_note _ _ _)]
      have hnote : Nothing w₁ ⟨w₁.user, w₁.events ++ [.confirmed unit_id unit_type]⟩ :=
        nothing_note rfl w₁
      have hput := leaves_unit unit_id unit_type .CONFIRMED
        ⟨w₁.user, w₁.events ++ [.confirmed unit_id unit_type]⟩
      have hconfirm := leaves_confirm_unit a unit_id unit_type
        ⟨{ w₁.user with units := putUnit unit_id unit_type .CONFIRMED w₁.user.units },
          w₁.events ++ [.confirmed unit_id unit_type]⟩
      have hstored : Eff.run (ext (a.server.unit_store.confirm unit_id unit_type))
          ⟨w₁.user, w₁.events ++ [.confirmed unit_id unit_type]⟩ =
        (.ok (), ⟨{ w₁.user with units := putUnit unit_id unit_type .CONFIRMED w₁.user.units },
          w₁.events ++ [.confirmed unit_id unit_type]⟩) := rfl
      rw [Eff.run_bind_ok hstored]
      have hall := (hcommit.andNothing hnote).seq (hput.seq hconfirm)
      refine .inr ?_
      cases hlast : Eff.run (isolated (a.server.on_confirm_unit.map fun f => f unit_id unit_type))
          ⟨{ w₁.user with units := putUnit unit_id unit_type .CONFIRMED w₁.user.units },
            w₁.events ++ [.confirmed unit_id unit_type]⟩ with
      | mk r' w₂ =>
        rw [hlast] at hall
        cases r' with
        | error e =>
          rw [Eff.run_bind_error hlast]
          exact ⟨.inl ⟨e, rfl⟩, hall⟩
        | ok _ =>
          rw [Eff.run_bind_ok hlast]
          exact ⟨.inr rfl, hall⟩

variable (p a tlv unit_id unit_type) in
/-- Once the store has taken a unit, it ends in one of five ways. -/
theorem open_unit_end (w : ServerWorld (Process α)) :
    UnitEnd p a tlv unit_id unit_type w
      (Eff.run (open_unit p a.server tlv unit_id unit_type) w).1
      (Eff.run (open_unit p a.server tlv unit_id unit_type) w).2 := by
  have htaken := leaves_unit unit_id unit_type .IN_PROCESS w
  have hrun : Eff.run (ext (a.server.unit_store.persist unit_id unit_type)) w =
    (.ok (), ⟨{ w.user with units := putUnit unit_id unit_type .IN_PROCESS w.user.units },
      w.events⟩) := rfl
  unfold open_unit
  rw [Eff.run_bind_ok hrun]
  cases hstr : extract_param_from_frame p tlv (lit "BGRFC_CALL_COUNT") with
  | error e =>
    refine .uncounted ?_ (.inl ⟨e, rfl⟩) htaken
    rintro ⟨n, count_str, hread, -⟩
    cases hstr.symm.trans hread
  | ok count_str =>
    rw [Eff.run_bind_ok (Eff.run_lift _ _)]
    cases hcount : parse_call_count p count_str with
    | error message =>
      refine .uncounted ?_ (failure_or_error message) htaken
      rintro ⟨n, count_str', hread, hn⟩
      obtain rfl := Except.ok.inj (hstr.symm.trans hread)
      cases hcount.symm.trans hn
    | ok n =>
      have hcounted : Counted p tlv n := ⟨count_str, hstr, hcount⟩
      dsimp only
      obtain ⟨ids, hran⟩ := ran_run_calls p a tlv n 0 n
        ⟨{ w.user with units := putUnit unit_id unit_type .IN_PROCESS w.user.units }, w.events⟩
      have hboth := htaken.seq hran
      rw [Eff.run_bind]
      cases hcalls : Eff.run (run_calls p a.server tlv n 0 n)
          ⟨{ w.user with units := putUnit unit_id unit_type .IN_PROCESS w.user.units },
            w.events⟩ with
      | mk r w₁ =>
        rw [hcalls] at hboth
        cases r with
        | error e => exact .raised ⟨e, rfl⟩ hboth
        | ok call_error =>
          cases call_error with
          | some message =>
            obtain ⟨hanswer, hleaves⟩ := finish_failed a unit_id unit_type message w₁
            have hall := hboth.seq hleaves
            rw [List.append_nil] at hall
            exact .failed hcounted hanswer hall
          | none =>
            have hpass : ∃ hs g', CallsPass p a.server tlv 0 n
                { w.user with units := putUnit unit_id unit_type .IN_PROCESS w.user.units }
                hs g' := by
              by_contra hno
              exact run_run_calls_of_not_pass hno w.events (congrArg Prod.fst hcalls)
            obtain ⟨hs, g', hpass⟩ := hpass
            cases finish_done a unit_id unit_type w₁ with
            | inl cut =>
              have hall := hboth.seq cut.2
              rw [List.append_nil] at hall
              exact .cut cut.1 hall
            | inr done =>
              have hall := hboth.seq done.2
              rw [List.append_nil] at hall
              exact .done hcounted rfl hpass done.1 hall

/-! ## What a state query says of a failed unit -/

variable (a) in
/-- INTERNAL: the check is the application's or a look into the store. -/
theorem aside_check_unit (unit_id unit_type : PyStr) :
    Eff.Keeps Aside (a.server.check_unit unit_id unit_type) := by
  unfold RfcServer.check_unit App.server
  cases a.on_check_unit with
  | none => exact fun g => Aside.refl g
  | some on_check =>
    exact Eff.Keeps.bind Aside.trans (aside_onApp _) fun _ => Eff.Keeps.pure Aside.refl _

/-- INTERNAL: the run of a ship whose unit id is valid, from its check on. -/
theorem run_dispatch_bgrfc_unit_checked {raw : PyStr}
    (hid : extract_param_from_frame p tlv (lit "BGRFC_UNIT_ID") = .ok unit_id)
    (hvalid : unit_id_fault unit_id = none)
    (htype : extract_param_from_frame p tlv (lit "BGRFC_UNIT_TYPE") = .ok raw)
    (w : ServerWorld (Process α)) :
    Eff.run (dispatch_bgrfc_unit p a.server tlv) w =
      match Eff.run (a.server.check_unit unit_id (unit_type_of raw)) w.user with
      | (.ok true, g') => (.ok build_rfc_executed_response, ⟨g', w.events⟩)
      | (.ok false, g') =>
        Eff.run (open_unit p a.server tlv unit_id (unit_type_of raw)) ⟨g', w.events⟩
      | (.error e, g') => (.error e, ⟨g', w.events⟩) := by
  unfold dispatch_bgrfc_unit
  rw [hid, Eff.run_bind_ok (Eff.run_lift _ _)]
  simp only [hvalid]
  rw [htype, Eff.run_bind_ok (Eff.run_lift _ _), Eff.run_bind, run_ext]
  cases Eff.run (a.server.check_unit unit_id (unit_type_of raw)) w.user with
  | mk r g' =>
    cases r with
    | error e => rfl
    | ok done =>
      cases done with
      | true => rfl
      | false => rfl

/-- INTERNAL: a ship without a unit id and a type that can be read, or with an id that is not
valid, is turned away at the door. -/
theorem run_dispatch_bgrfc_unit_turned (w : ServerWorld (Process α))
    (h : ∀ unit_id raw, extract_param_from_frame p tlv (lit "BGRFC_UNIT_ID") = .ok unit_id →
      extract_param_from_frame p tlv (lit "BGRFC_UNIT_TYPE") = .ok raw →
      unit_id_fault unit_id ≠ none) :
    (Eff.run (dispatch_bgrfc_unit p a.server tlv) w).2 = w ∧
      (Eff.run (dispatch_bgrfc_unit p a.server tlv) w).1 ≠ .ok build_rfc_executed_response := by
  unfold dispatch_bgrfc_unit
  cases hid : extract_param_from_frame p tlv (lit "BGRFC_UNIT_ID") with
  | error e =>
    rw [Eff.run_bind_error (Eff.run_lift _ _)]
    exact ⟨rfl, by rintro ⟨⟩⟩
  | ok unit_id =>
    rw [Eff.run_bind_ok (Eff.run_lift _ _)]
    cases hfault : unit_id_fault unit_id with
    | some message => exact ⟨rfl, system_failure_ne_executed message⟩
    | none =>
      cases htype : extract_param_from_frame p tlv (lit "BGRFC_UNIT_TYPE") with
      | error e => exact ⟨rfl, by rintro ⟨⟩⟩
      | ok raw => exact absurd hfault (h unit_id raw hid htype)

/-- The TID store is not touched. -/
theorem same_tids_dispatch_bgrfc_unit :
    Eff.Keeps (fun w w' : ServerWorld (Process α) => w'.user.tids = w.user.tids)
      (dispatch_bgrfc_unit p a.server tlv) := by
  intro w
  by_cases h : ∀ unit_id raw, extract_param_from_frame p tlv (lit "BGRFC_UNIT_ID") = .ok unit_id →
      extract_param_from_frame p tlv (lit "BGRFC_UNIT_TYPE") = .ok raw →
      unit_id_fault unit_id ≠ none
  · rw [(run_dispatch_bgrfc_unit_turned w h).1]
  · push Not at h
    obtain ⟨unit_id, raw, hid, htype, hvalid⟩ := h
    rw [run_dispatch_bgrfc_unit_checked hid hvalid htype w]
    have haside := aside_check_unit a unit_id (unit_type_of raw) w.user
    cases hcheck : Eff.run (a.server.check_unit unit_id (unit_type_of raw)) w.user with
    | mk r g' =>
      rw [hcheck] at haside
      obtain ⟨app, rfl⟩ : Aside w.user g' := haside
      cases r with
      | error e => rfl
      | ok done =>
        cases done with
        | true => rfl
        | false =>
          exact (open_unit_end p a tlv unit_id (unit_type_of raw)
            ⟨{ w.user with app := app }, w.events⟩).tids

variable (p a tlv) in
/-- A confirm frame that names a unit confirms it, whatever the store knew of it. -/
theorem confirm_cases (w : ServerWorld (Process α)) :
    (∃ unit_id raw, extract_param_from_frame p tlv (lit "BGRFC_UNIT_ID") = .ok unit_id ∧
      extract_param_from_frame p tlv (lit "BGRFC_UNIT_TYPE") = .ok raw ∧
      unit_id.length = UNITID_LN ∧
      Leaves id (putUnit unit_id (unit_type_or_T raw) .CONFIRMED)
        (told a.on_confirm_unit (.confirm_unit unit_id (unit_type_or_T raw))) []
        w (Eff.run (dispatch_bgrfc_confirm p a.server tlv) w).2) ∨
      Nothing w (Eff.run (dispatch_bgrfc_confirm p a.server tlv) w).2 := by
  unfold dispatch_bgrfc_confirm
  cases hid : extract_param_from_frame p tlv (lit "BGRFC_UNIT_ID") with
  | error e => exact .inr (Leaves.refl w)
  | ok unit_id =>
    cases htype : extract_param_from_frame p tlv (lit "BGRFC_UNIT_TYPE") with
    | error e => exact .inr (Leaves.refl w)
    | ok raw =>
      rw [Eff.run_bind_ok (Eff.run_lift _ _), Eff.run_bind_ok (Eff.run_lift _ _), Eff.run_ite]
      by_cases hlen : unit_id.length = UNITID_LN
      · rw [if_neg (not_not.mpr hlen)]
        refine .inl ⟨unit_id, raw, rfl, rfl, hlen, ?_⟩
        have hnote : Nothing w ⟨w.user, w.events ++ [.confirmed unit_id (unit_type_or_T raw)]⟩ :=
          nothing_note rfl w
        have hput := leaves_unit unit_id (unit_type_or_T raw) .CONFIRMED
          ⟨w.user, w.events ++ [.confirmed unit_id (unit_type_or_T raw)]⟩
        exact hnote.afterNothing (hput.seq (leaves_then_nothing
          (leaves_confirm_unit a unit_id (unit_type_or_T raw)) (fun _ => nothing_pure _) _))
      · rw [if_pos hlen]
        exact .inr (Leaves.refl w)

/-- A server without a callback of its own answers from its store. -/
theorem run_unit_state_answer_own (hget : a.on_get_unit_state = none) (unit_id unit_type : PyStr)
    (w : ServerWorld (Process α)) :
    Eff.run (unit_state_answer p a.server unit_id unit_type) w =
      (.ok (.ok ((w.user.units.store (unit_id, unit_type)).getD .NOT_FOUND)), w) := by
  unfold unit_state_answer App.server
  rw [hget]
  rfl

variable (a) in
/-- A state query looks and asks. -/
theorem nothing_unit_state_answer (unit_id unit_type : PyStr) :
    Eff.Keeps Nothing (unit_state_answer p a.server unit_id unit_type) := by
  unfold unit_state_answer App.server
  cases a.on_get_unit_state with
  | none =>
    exact nothing_bind (nothing_ext fun g => Aside.refl g) fun _ => nothing_pure _
  | some f =>
    refine nothing_bind (fun w => ?_) ?_
    · rw [run_attempt_state]
      exact nothing_ext (aside_onApp _) w
    · rintro (e | state)
      · exact nothing_bind (nothing_lift _) fun _ => nothing_pure _
      · exact nothing_pure _

variable (p a tlv) in
theorem nothing_dispatch_bgrfc_state_query :
    Eff.Keeps Nothing (dispatch_bgrfc_state_query p a.server tlv) := by
  refine nothing_bind (nothing_lift _) fun unit_id => nothing_bind (nothing_lift _) fun raw => ?_
  refine Eff.Keeps.ite _ (nothing_lift _) ?_
  refine nothing_bind (nothing_unit_state_answer a unit_id _) ?_
  rintro (message | state)
  · exact nothing_lift _
  · exact nothing_lift _

/-- A state query of the unit is answered IN_PROCESS. -/
def ReportsInProcess (p : Platform V) (a : App α V) (unit_id unit_type : PyStr)
    (w : ServerWorld (Process α)) : Prop :=
  (Eff.run (unit_state_answer p a.server unit_id unit_type) w).1 = .ok (.ok .IN_PROCESS)

/-- The answer to a state query, once the state is known. -/
def respondState : Except PyStr UnitState → Except PyError Bytes
  | .error message => build_system_failure message
  | .ok state => do
    let name ← encodeUtf16le (lit "BGRFC_STATE")
    let label ← encodeUtf16le state.label
    join_records [(Tag.RESPONSE_START, []), (Tag.RETURN_CODE, toBE 4 RC_OK),
      (Tag.PARAM_NAME, name), (Tag.PARAM_VALUE, label), (Tag.TERMINATOR, [])]

/-- A query frame that names the unit is answered from the state of the unit. -/
theorem run_dispatch_bgrfc_state_query_named {srv : RfcServer (Process α) V} {query : Bytes}
    {raw : PyStr}
    (hid : extract_param_from_frame p query (lit "BGRFC_UNIT_ID") = .ok unit_id)
    (hlen : unit_id.length = UNITID_LN)
    (htype : extract_param_from_frame p query (lit "BGRFC_UNIT_TYPE") = .ok raw)
    (w : ServerWorld (Process α)) :
    Eff.run (dispatch_bgrfc_state_query p srv query) w =
      Eff.run (unit_state_answer p srv unit_id (unit_type_or_T raw) >>=
        fun answer => Eff.lift (respondState answer)) w := by
  unfold dispatch_bgrfc_state_query
  rw [hid, Eff.run_bind_ok (Eff.run_lift _ _), htype, Eff.run_bind_ok (Eff.run_lift _ _),
    if_neg (not_not.mpr hlen), Eff.run_bind, Eff.run_bind]
  cases Eff.run (unit_state_answer p srv unit_id (unit_type_or_T raw)) w with
  | mk r w' =>
    cases r with
    | error e => rfl
    | ok answer =>
      cases answer with
      | error message => rfl
      | ok state => rfl

/-- INTERNAL: what is reported, by the store or by the callback in its place. -/
theorem reportsInProcess_iff (w : ServerWorld (Process α)) :
    ReportsInProcess p a unit_id unit_type w ↔
      match a.on_get_unit_state with
      | none => (w.user.units.store (unit_id, unit_type)).getD .NOT_FOUND = .IN_PROCESS
      | some f => (Eff.run (f unit_id unit_type) w.user.app).1 = .ok .IN_PROCESS := by
  unfold ReportsInProcess unit_state_answer App.server
  cases a.on_get_unit_state with
  | none =>
    show Except.ok (Except.ok _) = (Except.ok (Except.ok _) : Except PyError (Except PyStr _)) ↔ _
    simp
  | some f =>
    have hrun : Eff.run (ext (onApp (f unit_id unit_type))) w =
      ((Eff.run (f unit_id unit_type) w.user.app).1,
        ⟨{ w.user with app := (Eff.run (f unit_id unit_type) w.user.app).2 }, w.events⟩) := rfl
    show (Eff.run (attempt (ext (onApp (f unit_id unit_type))) >>= _) w).1 = _ ↔ _
    cases hf : (Eff.run (f unit_id unit_type) w.user.app).1 with
    | ok state =>
      rw [hf] at hrun
      rw [Eff.run_bind_ok (run_attempt_ok hrun)]
      simp [hf]
    | error e =>
      rw [hf] at hrun
      have hattempt := run_attempt_error hrun
      refine ⟨fun h => ?_, fun h => nomatch hf.symm.trans h⟩
      split at hattempt
      · rw [Eff.run_bind_ok hattempt] at h
        cases hline : firstLine e.text with
        | error e' =>
          rw [Eff.run_bind_error (show Eff.run (Eff.lift (firstLine e.text)) _ = _ by
            rw [Eff.run_lift, hline])] at h
          cases h
        | ok line =>
          rw [Eff.run_bind_ok (show Eff.run (Eff.lift (firstLine e.text)) _ = _ by
            rw [Eff.run_lift, hline])] at h
          cases h
      · rw [Eff.run_bind_error hattempt] at h
        cases h

/-- The rollback callback was called, once, if it is installed, no other was, and the unit is
not reported as in process. -/
def RolledBack (p : Platform V) (a : App α V) (unit_id unit_type : PyStr)
    (w w' : ServerWorld (Process α)) : Prop :=
  w'.user.calls = w.user.calls ++ told a.on_rollback_unit (.rollback_unit unit_id unit_type) ∧
    ¬ ReportsInProcess p a unit_id unit_type w'

/-- The application makes up for what the store does not record: it answers state queries
itself, not with IN_PROCESS, and it has no rollback callback that a wrong number of calls
would have to call. -/
def MakesUp (p : Platform V) (a : App α V) (tlv : Bytes) (unit_id unit_type : PyStr) (app : α) :
    Prop :=
  ((∃ n, Counted p tlv n) ∨ a.on_rollback_unit = none) ∧
    ∃ f, a.on_get_unit_state = some f ∧ (Eff.run (f unit_id unit_type) app).1 ≠ .ok .IN_PROCESS

theorem store_putUnit (unit_id unit_type : PyStr) (state : UnitState) (t : UnitTable) :
    (putUnit unit_id unit_type state t).store (unit_id, unit_type) = some state := if_pos rfl

theorem store_putUnit_of_ne {t : UnitTable} {unit_id unit_type unit_id' unit_type' : PyStr}
    {state : UnitState} (hne : (unit_id, unit_type) ≠ (unit_id', unit_type')) :
    (putUnit unit_id' unit_type' state t).store (unit_id, unit_type) =
      t.store (unit_id, unit_type) :=
  if_neg hne

/-- INTERNAL: a unit in process is reported so unless the application says otherwise. -/
theorem not_reported_iff {w : ServerWorld (Process α)}
    (h : w.user.units.store (unit_id, unit_type) = some .IN_PROCESS) :
    ¬ ReportsInProcess p a unit_id unit_type w ↔
      ∃ f, a.on_get_unit_state = some f ∧
        (Eff.run (f unit_id unit_type) w.user.app).1 ≠ .ok .IN_PROCESS := by
  rw [reportsInProcess_iff]
  cases a.on_get_unit_state with
  | none =>
    rw [h]
    simp
  | some f => simp

/-- A unit that is answered with a failure is rolled back, as a sender can tell, exactly when
the application makes up for what the dispatch leaves out. -/
theorem failed_unit_rolled_back_iff (p : Platform V) (a : App α V) (tlv : Bytes)
    (unit_id raw : PyStr) (w : ServerWorld (Process α))
    (hid : extract_param_from_frame p tlv (lit "BGRFC_UNIT_ID") = .ok unit_id)
    (hvalid : unit_id_fault unit_id = none)
    (htype : extract_param_from_frame p tlv (lit "BGRFC_UNIT_TYPE") = .ok raw)
    (hnew : (Eff.run (a.server.check_unit unit_id (unit_type_of raw)) w.user).1 ≠ .ok true)
    (hfail : Failure (Eff.run (dispatch_bgrfc_unit p a.server tlv) w).1) :
    RolledBack p a unit_id (unit_type_of raw) w
        (Eff.run (dispatch_bgrfc_unit p a.server tlv) w).2 ↔
      MakesUp p a tlv unit_id (unit_type_of raw)
        (Eff.run (dispatch_bgrfc_unit p a.server tlv) w).2.user.app := by
  rw [run_dispatch_bgrfc_unit_checked hid hvalid htype w] at hfail ⊢
  have haside := aside_check_unit a unit_id (unit_type_of raw) w.user
  cases hcheck : Eff.run (a.server.check_unit unit_id (unit_type_of raw)) w.user with
  | mk r g' =>
    rw [hcheck] at haside hnew hfail
    obtain ⟨app, rfl⟩ : Aside w.user g' := haside
    cases r with
    | error e =>
      obtain ⟨_, _, -, hout⟩ := hfail
      cases hout
    | ok done =>
      cases done with
      | true => exact absurd rfl hnew
      | false =>
        dsimp only at hfail ⊢
        have hend := open_unit_end p a tlv unit_id (unit_type_of raw)
          ⟨{ w.user with app := app }, w.events⟩
        generalize Eff.run (open_unit p a.server tlv unit_id (unit_type_of raw))
          ⟨{ w.user with app := app }, w.events⟩ = r at hend hfail ⊢
        obtain ⟨message, out, hmessage, hout⟩ := hfail
        have hnoerror : ¬ ∃ e, r.1 = .error e := by
          rintro ⟨e, he⟩
          cases he.symm.trans hout
        cases hend with
        | uncounted count answer leaves =>
          have hstate : r.2.user.units.store (unit_id, unit_type_of raw) = some .IN_PROCESS := by
            rw [leaves.units]
            exact store_putUnit _ _ _ _
          have hcalls : r.2.user.calls = w.user.calls := leaves.calls.trans (List.append_nil _)
          refine and_congr ?_ (not_reported_iff hstate)
          rw [hcalls, List.self_eq_append_right, told_eq_nil]
          exact ⟨.inr, fun h => h.resolve_left count⟩
        | raised answer leaves => exact absurd answer hnoerror
        | failed count answer leaves =>
          have hstate : r.2.user.units.store (unit_id, unit_type_of raw) = some .IN_PROCESS := by
            rw [leaves.units]
            exact store_putUnit _ _ _ _
          refine and_congr ?_ (not_reported_iff hstate)
          exact ⟨fun _ => .inl ⟨_, count⟩, fun _ => leaves.calls⟩
        | cut answer leaves => exact absurd answer hnoerror
        | done count opened calls answer leaves =>
          cases answer with
          | inl he => exact absurd he hnoerror
          | inr hok =>
            obtain rfl := Except.ok.inj (hok.symm.trans hout)
            exact absurd hmessage (system_failure_ne_ok message)

/-! ## A unit that calls an unknown function -/

/-- A unit id. -/
def someUnit : PyStr := lit "0123456789ABCDEF0123456789ABCDEF"

/-- A unit of one call, of a function that is not registered. -/
def unknownCallFrame : Bytes :=
  callFrame "BGRFC_DEST_SHIP"
    [("BGRFC_UNIT_ID", "0123456789ABCDEF0123456789ABCDEF"), ("BGRFC_UNIT_TYPE", "T"),
      ("BGRFC_CALL_COUNT", "1"), ("BGRFC_CALL_0", "Z_NONE")]

theorem unknownCallFrame_fails :
    Failure (Eff.run (dispatch_bgrfc_unit plainPlatform plainApp.server unknownCallFrame)
      (newWorld ())).1 :=
  ⟨lit "bgRFC: no handler registered for 'Z_NONE'", _, rfl, by decide +kernel⟩

theorem unknown_call_rolled_back_iff :
    RolledBack plainPlatform plainApp someUnit (lit "T") (newWorld ())
        (Eff.run (dispatch_bgrfc_unit plainPlatform plainApp.server unknownCallFrame)
          (newWorld ())).2 ↔
      MakesUp plainPlatform plainApp unknownCallFrame someUnit (lit "T")
        (Eff.run (dispatch_bgrfc_unit plainPlatform plainApp.server unknownCallFrame)
          (newWorld ())).2.user.app :=
  failed_unit_rolled_back_iff plainPlatform plainApp unknownCallFrame someUnit (lit "T")
    (newWorld ()) (by decide +kernel) (by decide +kernel) (by decide +kernel)
    (by decide +kernel) unknownCallFrame_fails

/-- The unit failed, and a state query answers that it is in process. -/
theorem unknown_call_in_process :
    Failure (Eff.run (dispatch_bgrfc_unit plainPlatform plainApp.server unknownCallFrame)
        (newWorld ())).1 ∧
      ¬ RolledBack plainPlatform plainApp someUnit (lit "T") (newWorld ())
        (Eff.run (dispatch_bgrfc_unit plainPlatform plainApp.server unknownCallFrame)
          (newWorld ())).2 := by
  refine ⟨unknownCallFrame_fails, fun h => h.2 ?_⟩
  unfold ReportsInProcess
  decide +kernel

end SapRfc.Analysis.Units
