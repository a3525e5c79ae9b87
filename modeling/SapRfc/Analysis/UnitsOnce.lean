import SapRfc.Analysis.ReadBack
import SapRfc.Analysis.Redrive
import SapRfc.Analysis.RemoteCalls
import SapRfc.Analysis.UnitDelivery
import SapRfc.Analysis.Units
import SapRfc.Program.UnitBlocks

/-!
# A unit is run once

A client ships a unit when its block is left, tries again while the connection fails, parks what it
could not bring through, and sends that again when it is told to.  Each of these requests may reach
the server or not, and each answer may be lost.  However this goes, the calls of the unit all run
through at most once: a delivery runs them up to one that raises, and leaves the unit open, or runs
them all and closes it, and what comes after that is turned away.  Where a client is told that the
unit is through, its calls have all run.
-/

set_option autoImplicit false

namespace SapRfc.Analysis.UnitsOnce

open SapRfc.Library SapRfc.Program Shipping UnitDelivery Residue TextCodecs
open SapRfc.Analysis.Units SapRfc.Analysis.RemoteCalls

/-! ## A request in its frame -/

section Footer

variable {χ V : Type} (p : Platform V) (srv : RfcServer χ V)

/-- Two requests that the readers of a unit do not tell apart. -/
structure ReadAlike (a b : Bytes) : Prop where
  name : read_func_name a = read_func_name b
  text : ∀ name, extract_param_from_frame p a name = extract_param_from_frame p b name
  raw : ∀ name, extract_raw_param_from_frame p a name = extract_raw_param_from_frame p b name

variable {p srv} {a b : Bytes}

/-- INTERNAL: nobody reads behind the terminator. -/
theorem readAlike_behind {rs : List (ℕ × Bytes)} (hfits : ∀ r ∈ rs, Records.Fits Tag.TERMINATOR r)
    (footer : Bytes) :
    ReadAlike p (Records.stream Tag.TERMINATOR rs ++ footer)
      (Records.stream Tag.TERMINATOR rs) := by
  have hparse := ReadBack.parse_tlv_stream_behind hfits []
  have hwalk := Records.walk_stream (by decide) hfits []
  rw [List.append_nil] at hparse hwalk
  refine ⟨?_, fun name => ?_, fun name => ?_⟩
  · unfold read_func_name
    rw [ReadBack.parse_tlv_stream_behind hfits, hparse]
  · unfold extract_param_from_frame extract_name_value_pairs
    rw [ReadBack.extract_named_values_behind hfits, ReadBack.parse_tlv_stream_behind hfits, hparse]
  · unfold extract_raw_param_from_frame
    rw [Records.walk_stream (by decide) hfits footer, hwalk]

theorem ReadAlike.run_calls (h : ReadAlike p a b) (n i left : ℕ) :
    run_calls p srv a n i left = run_calls p srv b n i left := by
  induction left generalizing i with
  | zero => rfl
  | succ left ih =>
    unfold Program.run_calls
    rw [h.raw]
    cases extract_raw_param_from_frame p b (call_name i) with
    | none => rfl
    | some call_bytes =>
      dsimp only
      rw [ih]

/-- What they make the server do is the same. -/
theorem ReadAlike.dispatch (h : ReadAlike p a b) :
    dispatch_bgrfc_unit p srv a = dispatch_bgrfc_unit p srv b := by
  have hopen : ∀ unit_id unit_type,
      open_unit p srv a unit_id unit_type = open_unit p srv b unit_id unit_type := by
    intro unit_id unit_type
    unfold open_unit
    rw [h.text]
    simp only [h.run_calls]
  unfold dispatch_bgrfc_unit
  rw [h.text, h.text]
  simp only [hopen]

end Footer

/-! ## The calls of a unit -/

section Calls

variable {α V : Type} (p : Platform V) (a : App α V)

/-- What the server has for the name of a call. -/
def handlerOf (func_name : PyStr) : Option (Handler (Process α) V) :=
  (assocGet a.server.registry (p.u.upper (rstrip padding func_name))).map (·.2)

/-- The handlers for the calls of a unit. -/
def handlersOf (calls : List (PyStr × List (PyStr × PyStr))) : List (Handler (Process α) V) :=
  calls.filterMap fun e => handlerOf p a e.1

/-- The name can be read back, and the server has a plain function for it. -/
structure Serves (func_name : PyStr) : Prop where
  text : IsText func_name
  no_nul : 0 ∉ func_name
  not_blank : rstrip padding func_name ≠ []
  registered : ∃ h, handlerOf p a func_name = some h ∧ h.coroutine = false

variable {p a}

/-- INTERNAL: the calls of a unit as the server finds them. -/
theorem exists_shipped {calls : List (PyStr × List (PyStr × PyStr))}
    (hserves : ∀ e ∈ calls, Serves p a e.1) {bytes : List Bytes}
    (hbytes : calls.mapM (m := Except PyError) (fun e => buffer_call e.1 e.2) = .ok bytes) :
    ∃ shipped : List (ShippedCall (Process α) V), shipped.map ShippedCall.bytes = bytes ∧
      shipped.map ShippedCall.handler = handlersOf p a calls ∧
      ∀ c ∈ shipped, c.Callable p a.server := by
  induction calls generalizing bytes with
  | nil =>
    cases hbytes
    exact ⟨[], rfl, rfl, List.forall_mem_nil _⟩
  | cons e calls ih =>
    obtain ⟨data, rest, hdata, hrest, rfl⟩ := Eff.except_mapM_cons_eq_ok.mp hbytes
    obtain ⟨hfirst, hothers⟩ := List.forall_mem_cons.mp hserves
    obtain ⟨shipped, hshipped, hhandlers, hcallable⟩ := ih hothers hrest
    obtain ⟨h, hfound, hplain⟩ := hfirst.registered
    refine ⟨⟨e.1, data, h⟩ :: shipped, ?_, ?_, ?_⟩
    · rw [List.map_cons, hshipped]
    · rw [List.map_cons, hhandlers]
      unfold handlersOf
      exact (List.filterMap_cons_some
        (f := fun e : PyStr × List (PyStr × PyStr) => handlerOf p a e.1) hfound).symm
    · rw [List.forall_mem_cons]
      refine ⟨⟨hfirst.text, hfirst.no_nul, hfirst.not_blank, callBytes_of_buffer_call hdata, ?_,
        hplain⟩, hcallable⟩
      unfold handlerOf at hfound
      obtain ⟨entry, hentry, rfl⟩ := Option.map_eq_some_iff.mp hfound
      exact ⟨entry.1, hentry⟩

end Calls

/-! ## One delivery -/

section Delivery

variable {α V : Type}

/-- The application leaves it to the store whether a unit is done, and what it is told at the end of
a unit raises nothing that is not caught. -/
structure Settled (a : App α V) : Prop where
  own : a.on_check_unit = none
  commit : ∀ f, a.on_commit_unit = some f → ∀ unit_id unit_type s e,
    (Eff.run (f unit_id unit_type) s).1 = .error e → e.kind.isException = true
  confirm : ∀ f, a.on_confirm_unit = some f → ∀ unit_id unit_type s e,
    (Eff.run (f unit_id unit_type) s).1 = .error e → e.kind.isException = true

/-- The server counts the unit as done. -/
def Known (unit_id unit_type : PyStr) (g : Process α) : Prop :=
  (g.units.store (unit_id, unit_type)).getD .NOT_FOUND = .COMMITTED ∨
    (g.units.store (unit_id, unit_type)).getD .NOT_FOUND = .CONFIRMED

instance decidableKnown (unit_id unit_type : PyStr) (g : Process α) :
    Decidable (Known unit_id unit_type g) := inferInstanceAs (Decidable (_ ∨ _))

/-- What the log shows of a delivery that a handler ended. -/
def CutShort (handlers : List (Handler (Process α) V)) (t : List ServerEvent) : Prop :=
  ∃ before h after, handlers = before ++ h :: after ∧
    t = before.flatMap shipTrace ++ raiseTrace h

/-- What the log shows of a delivery that went through. -/
def fullTrace (handlers : List (Handler (Process α) V)) (unit_id unit_type : PyStr) :
    List ServerEvent :=
  handlers.flatMap shipTrace ++ [.confirmed unit_id unit_type]

/-- What a delivery of the unit makes of the server, and how it is answered. -/
inductive Taken (handlers : List (Handler (Process α) V)) (unit_id unit_type : PyStr)
    (w w' : ServerWorld (Process α)) (r : Except PyError Bytes) : Prop
  /-- it is turned away -/
  | known (was : Known unit_id unit_type w.user) (same : w' = w)
      (answer : r = .ok build_rfc_executed_response)
  /-- its calls all ran -/
  | done (new : ¬ Known unit_id unit_type w.user) (closed : Known unit_id unit_type w'.user)
      (log : w'.events = w.events ++ fullTrace handlers unit_id unit_type)
      (answer : r = .ok build_rfc_ok_response)
  /-- one of its calls raised -/
  | cut (new : ¬ Known unit_id unit_type w.user) (still : ¬ Known unit_id unit_type w'.user)
      {t : List ServerEvent} (short : CutShort handlers t) (log : w'.events = w.events ++ t)
      (answer : (∃ e, r = .error e) ∨ Failure r)

variable {p : Platform V} {a : App α V} {unit_id unit_type : PyStr}

/-- INTERNAL: the store is asked. -/
theorem Settled.check (h : Settled a) (unit_id unit_type : PyStr) (g : Process α) :
    Eff.run (a.server.check_unit unit_id unit_type) g =
      (.ok (decide (Known unit_id unit_type g)), g) := by
  have hown : a.server.on_check_unit = none := by
    unfold App.server
    rw [h.own]
    rfl
  unfold RfcServer.check_unit
  rw [hown]
  rfl

theorem Settled.takes (h : Settled a) {g : Process α} (hnew : ¬ Known unit_id unit_type g) :
    Takes a.server unit_id unit_type g
      { g with units := putUnit unit_id unit_type .IN_PROCESS g.units } := by
  refine ⟨g, ?_, rfl⟩
  rw [h.check, decide_eq_false hnew]

/-- INTERNAL: a callback that raises only what is caught, told of a unit. -/
theorem returns_hosted {x : Option (PyStr → PyStr → Eff PyError α Unit)}
    (hx : ∀ f, x = some f → ∀ unit_id unit_type s e,
      (Eff.run (f unit_id unit_type) s).1 = .error e → e.kind.isException = true)
    (event : PyStr → PyStr → CallbackEvent) (unit_id unit_type : PyStr) (g : Process α) :
    Returns ((x.map fun f unit_id unit_type =>
      noted (event unit_id unit_type) (f unit_id unit_type)).map fun f => f unit_id unit_type)
      g := by
  intro y e hy hraised
  cases x with
  | none => cases hy
  | some f =>
    obtain rfl := Option.some.inj hy
    exact hx f rfl unit_id unit_type g.app e hraised

theorem Settled.closes (h : Settled a) (unit_id unit_type : PyStr) (g : Process α) :
    Closes a.server unit_id unit_type g where
  commit := returns_hosted h.commit .commit_unit unit_id unit_type g
  confirms := rfl
  told := returns_hosted h.confirm .confirm_unit unit_id unit_type _

/-- INTERNAL: a unit that the store has just taken is not done. -/
theorem not_known_taken (g : Process α) :
    ¬ Known unit_id unit_type
      { g with units := putUnit unit_id unit_type .IN_PROCESS g.units } := by
  unfold Known
  rw [store_putUnit]
  exact not_or.mpr ⟨by decide, by decide⟩

/-- INTERNAL: a unit that is confirmed is. -/
theorem known_confirmed {g : Process α} {t : UnitTable}
    (h : g.units = putUnit unit_id unit_type .CONFIRMED t) : Known unit_id unit_type g := by
  unfold Known
  rw [h, store_putUnit]
  exact .inr rfl

/-- INTERNAL: the store alone counts. -/
theorem known_congr {g g' : Process α} (h : g'.units = g.units) :
    Known unit_id unit_type g' ↔ Known unit_id unit_type g := by
  unfold Known
  rw [h]

/-- INTERNAL: a new unit, from its calls on. -/
theorem taken_of_carries (h : Settled a) {tlv : Bytes} {handlers : List (Handler (Process α) V)}
    {w : ServerWorld (Process α)} (hnew : ¬ Known unit_id unit_type w.user)
    (hopens : UnitOpens p a.server tlv w.user unit_id unit_type handlers.length
      { w.user with units := putUnit unit_id unit_type .IN_PROCESS w.user.units })
    (hcarries : UnitDelivery.Carries p a.server tlv 0 handlers) :
    Taken handlers unit_id unit_type w (Eff.run (dispatch_bgrfc_unit p a.server tlv) w).2
      (Eff.run (dispatch_bgrfc_unit p a.server tlv) w).1 := by
  obtain ⟨g, l⟩ := w
  have hopened : ¬ Known unit_id unit_type
      { g with units := putUnit unit_id unit_type .IN_PROCESS g.units } := not_known_taken g
  generalize hg₁ : ({ g with units := putUnit unit_id unit_type .IN_PROCESS g.units } : Process α) =
    g₁ at hopens hopened
  rw [run_dispatch_bgrfc_unit_of_opens hopens l]
  obtain ⟨d, done, g', hruns, hworld, hanswer⟩ :=
    run_run_calls_of_carries (n := handlers.length) hcarries g₁ l
  have hran := ran_run_calls p a tlv handlers.length 0 handlers.length ⟨g₁, l⟩
  cases hcalls : Eff.run (run_calls p a.server tlv handlers.length 0 handlers.length) ⟨g₁, l⟩ with
  | mk r w₁ =>
    rw [hcalls] at hworld hanswer hran
    obtain rfl : w₁ = ⟨g', l ++ d⟩ := hworld
    obtain ⟨ids, hleaves⟩ := hran
    have hstill : ¬ Known unit_id unit_type g' := fun hk =>
      hopened ((known_congr hleaves.units).mp hk)
    cases hruns with
    | all returned =>
      obtain rfl : r = .ok none := hanswer.mpr rfl
      rw [Eff.run_bind_ok hcalls]
      obtain ⟨hok, hlog⟩ := run_finish_unit_of_closes (h.closes unit_id unit_type g')
        (l ++ handlers.flatMap shipTrace)
      refine .done hnew ?_ ?_ hok
      · rcases finish_done a unit_id unit_type ⟨g', l ++ handlers.flatMap shipTrace⟩ with
          ⟨⟨e, he⟩, -⟩ | ⟨-, hclosed⟩
        · exact absurd (hok.symm.trans he) (by rintro ⟨⟩)
        · exact known_confirmed hclosed.units
      · rw [hlog]
        exact List.append_assoc _ _ _
    | @upTo before h' after g₂ _ split returned raised =>
      have hshort : CutShort handlers (before.flatMap shipTrace ++ raiseTrace h') :=
        ⟨before, h', after, split, rfl⟩
      cases r with
      | error e =>
        rw [Eff.run_bind_error hcalls]
        exact .cut hnew hstill hshort rfl (.inl ⟨e, rfl⟩)
      | ok call_error =>
        cases call_error with
        | none => exact absurd (hanswer.mp rfl) Bool.false_ne_true
        | some message =>
          rw [Eff.run_bind_ok hcalls]
          obtain ⟨hfailed, hrest⟩ := finish_failed a unit_id unit_type message
            ⟨g', l ++ (before.flatMap shipTrace ++ raiseTrace h')⟩
          have hdeclines := declines_finish_unit_error a.server unit_id unit_type message
            ⟨g', l ++ (before.flatMap shipTrace ++ raiseTrace h')⟩
          exact .cut hnew (fun hk => hstill ((known_congr hrest.units).mp hk)) hshort
            hdeclines.1.events_eq hfailed

/-- The request of a unit, in a frame of its own. -/
def UnitFrame (p : Platform V) (unit : UnitHandle) (frame : Bytes) : Prop :=
  ∃ bytes tlv footer, unit.buffered_bytes = .ok bytes ∧
    build_bgrfc_request p.u unit.uid unit.unit_type unit.queues bytes = .ok tlv ∧
    strip_gw_header frame = tlv ++ footer

/-- However often the frame of a unit reaches the server, this is what it does there. -/
theorem taken_of_frame (hu : Standard p.u) (h : Settled a) {unit : UnitHandle} {frame : Bytes}
    (hserves : ∀ e ∈ unit.buffered, Serves p a e.1) (hframe : UnitFrame p unit frame)
    (w : ServerWorld (Process α)) :
    Taken (handlersOf p a unit.buffered) unit.uid unit.unit_type w
      (Eff.run (dispatch_inbound p a.server frame) w).2
      (Eff.run (dispatch_inbound p a.server frame) w).1 := by
  obtain ⟨bytes, tlv, footer, hbytes, hbuild, hstrip⟩ := hframe
  obtain ⟨shipped, rfl, hhandlers, hcallable⟩ := exists_shipped hserves hbytes
  obtain ⟨hid, htype, func, hfunc, hlegible, rfl⟩ := build_bgrfc_request_eq_ok hbuild
  have halike : ReadAlike p (strip_gw_header frame) (pairStream func
      (unitPairs unit.uid unit.unit_type unit.queues (shipped.map ShippedCall.bytes))) := by
    rw [hstrip]
    exact readAlike_behind hlegible.fits footer
  have hname : read_func_name (strip_gw_header frame) = .ok BGRFC_DEST_SHIP := by
    rw [halike.name, hlegible.func_read, decode_key ship_keyChar hfunc]
  rw [run_dispatch_inbound_ok hname, dispatch_named_ship, halike.dispatch]
  by_cases hnew : Known unit.uid unit.unit_type w.user
  · -- what the request says does not depend on the store, so it is read next to an empty one
    have hempty : ¬ Known unit.uid unit.unit_type
        { w.user with units := ⟨fun _ => none, fun _ => none⟩ } :=
      not_or.mpr ⟨show UnitState.NOT_FOUND ≠ .COMMITTED by decide,
        show UnitState.NOT_FOUND ≠ .CONFIRMED by decide⟩
    have hopens := opens_of_request hu hid htype hlegible (h.takes hempty)
    generalize hty : unit.unit_type = unit_type at *
    cases hopens with
    | intro id_read valid type_read fresh persisted count_read counted =>
      rw [run_dispatch_bgrfc_unit_checked id_read valid type_read w, h.check, decide_eq_true hnew]
      exact .known hnew rfl rfl
  · have hopens := opens_of_request hu hid htype hlegible (h.takes hnew)
    rw [List.length_map, ← List.length_map (f := ShippedCall.handler), hhandlers] at hopens
    have hcarries := carries_of_request hu hcallable hlegible
    rw [hhandlers] at hcarries
    exact taken_of_carries h hnew hopens hcarries

/-- The course of a server over any number of deliveries of one unit. -/
inductive Course (handlers : List (Handler (Process α) V)) (unit_id unit_type : PyStr)
    (w w' : ServerWorld (Process α)) : Prop
  /-- it was done before, and nothing happens -/
  | already (was : Known unit_id unit_type w.user) (same : w' = w)
  /-- it is open, and was cut short so many times -/
  | cut (cuts : List (List ServerEvent)) (short : ∀ t ∈ cuts, CutShort handlers t)
      (new : ¬ Known unit_id unit_type w.user) (still : ¬ Known unit_id unit_type w'.user)
      (log : w'.events = w.events ++ cuts.flatten)
  /-- it went through, once, and was cut short before -/
  | done (cuts : List (List ServerEvent)) (short : ∀ t ∈ cuts, CutShort handlers t)
      (new : ¬ Known unit_id unit_type w.user) (closed : Known unit_id unit_type w'.user)
      (log : w'.events = w.events ++ cuts.flatten ++ fullTrace handlers unit_id unit_type)

section Course

variable {handlers : List (Handler (Process α) V)} {w w₁ w' : ServerWorld (Process α)}
  {r : Except PyError Bytes}

theorem Course.refl (w : ServerWorld (Process α)) : Course handlers unit_id unit_type w w := by
  by_cases h : Known unit_id unit_type w.user
  · exact .already h rfl
  · exact .cut [] (List.forall_mem_nil _) h h (List.append_nil _).symm

theorem Taken.course (h : Taken handlers unit_id unit_type w w' r) :
    Course handlers unit_id unit_type w w' := by
  cases h with
  | known was same answer => exact .already was same
  | done new closed log answer =>
    refine .done [] (List.forall_mem_nil _) new closed ?_
    rw [List.flatten_nil, List.append_nil]
    exact log
  | @cut new still t short log answer =>
    refine .cut [t] (List.forall_mem_singleton.mpr short) new still ?_
    rw [List.flatten_singleton]
    exact log

/-- What was cut short can go on, and what is done stays as it is. -/
theorem Course.trans (h : Course handlers unit_id unit_type w w₁)
    (h' : Course handlers unit_id unit_type w₁ w') : Course handlers unit_id unit_type w w' := by
  cases h with
  | already was same =>
    rw [same] at h'
    exact h'
  | cut cuts short new still log =>
    have hboth : ∀ more : List (List ServerEvent), (∀ t ∈ more, CutShort handlers t) →
        ∀ t ∈ cuts ++ more, CutShort handlers t := fun more hmore t ht =>
      (List.mem_append.mp ht).elim (short t) (hmore t)
    cases h' with
    | already was same => exact absurd was still
    | cut more short' new' still' log' =>
      refine .cut (cuts ++ more) (hboth more short') new still' ?_
      rw [log', log, List.flatten_append, List.append_assoc]
    | done more short' new' closed log' =>
      refine .done (cuts ++ more) (hboth more short') new closed ?_
      rw [log', log, List.flatten_append, List.append_assoc w.events]
  | done cuts short new closed log =>
    cases h' with
    | already was same =>
      rw [same]
      exact .done cuts short new closed log
    | cut more short' new' still' log' => exact absurd closed new'
    | done more short' new' closed' log' => exact absurd closed new'

end Course

end Delivery

/-! ## One attempt -/

section Attempt

variable {α ψ V : Type}

/-- What an attempt makes of the server, and what the client takes it for. -/
inductive Attempted (handlers : List (Handler (Process α) V)) (unit_id unit_type : PyStr)
    (w w' : ServerWorld (Process α)) (r : Except PyError Unit) : Prop
  /-- nothing was heard of it -/
  | unheard {e : PyError} (failed : r = .error e) (again : e.kind = .communication)
      (server : w' = w ∨ ∃ q, Taken handlers unit_id unit_type w w' q)
  | accepted (returned : r = .ok ())
      (taken : Taken handlers unit_id unit_type w w' (.ok build_rfc_ok_response))
  | refused {e : PyError} (raised : r = .error e) (final : e.kind ≠ .communication)
      {q : Except PyError Bytes} (taken : Taken handlers unit_id unit_type w w' q)

variable {k : Client (Peer (Process α)) ψ V} {a : App α V} {handle : GwHandle} {unit : UnitHandle}
  {frame : Bytes} {handlers : List (Handler (Process α) V)} {unit_id unit_type : PyStr}
  {w w' : ServerWorld (Process α)} {out : Bytes}

theorem Attempted.course {r : Except PyError Unit}
    (h : Attempted handlers unit_id unit_type w w' r) : Course handlers unit_id unit_type w w' := by
  cases h with
  | unheard failed again server =>
    rcases server with rfl | ⟨q, taken⟩
    · exact Course.refl _
    · exact taken.course
  | accepted returned taken => exact taken.course
  | refused raised final taken => exact taken.course

/-- INTERNAL: whatever the server answers is complete. -/
theorem Taken.complete (h : Taken handlers unit_id unit_type w w' (.ok out)) :
    Responses.Complete out := by
  cases h with
  | known was same answer =>
    rw [Except.ok.inj answer]
    exact Responses.complete_code_response RC_EXECUTED
  | done new closed log answer =>
    rw [Except.ok.inj answer]
    exact Responses.complete_code_response RC_OK
  | cut new still short log answer =>
    rcases answer with ⟨e, he⟩ | ⟨message, out', hmessage, hout⟩
    · cases he
    · rw [Except.ok.inj hout]
      exact Responses.complete_system_failure hmessage

/-- INTERNAL: a complete answer has no header of a gateway. -/
theorem strip_complete (h : Responses.Complete out) : strip_gw_header out = out := by
  obtain ⟨rc, records, -, -, rfl⟩ := h
  obtain ⟨rest, hrest⟩ : ∃ rest, Records.stream Tag.TERMINATOR
      ((Tag.RESPONSE_START, []) :: (Tag.RETURN_CODE, rc) :: records) =
        UInt8.ofNat (Tag.RESPONSE_START / 256 ^ 1) :: rest := ⟨_, rfl⟩
  rw [hrest]
  simp only [strip_gw_header]
  rw [if_neg (show ¬ UInt8.ofNat (Tag.RESPONSE_START / 256 ^ 1) = 0x06 by decide)]

theorem raise_for_ok (u : Unicode) :
    raise_for_rfc_error u (strip_gw_header build_rfc_ok_response) = .ok () := by
  have hgateway : ¬ (strip_gw_header build_rfc_ok_response).take 5 = gatewayErrorMarker := by
    decide +kernel
  have htags : parse_tlv_stream (strip_gw_header build_rfc_ok_response) =
      .ok [(Tag.RESPONSE_START, []), (Tag.RETURN_CODE, [0, 0, 0, 0])] := by
    decide +kernel
  unfold raise_for_rfc_error parse_gateway_error
  rw [if_neg hgateway, htags]
  show raise_for_tags [(Tag.RESPONSE_START, []), (Tag.RETURN_CODE, [0, 0, 0, 0])] = _
  decide +kernel

/-- INTERNAL: what the client makes of an answer. -/
theorem Taken.read (u : Unicode) (h : Taken handlers unit_id unit_type w w' (.ok out)) :
    Attempted handlers unit_id unit_type w w'
      (raise_for_rfc_error u (strip_gw_header out)) := by
  have hcomplete := h.complete
  cases h with
  | known was same answer =>
    obtain rfl := Except.ok.inj answer
    refine .refused (DuplicateAnswers.raise_for_executed u) ?_ (.known was same answer)
    exact DuplicateAnswers.executed_failure_kind
  | done new closed log answer =>
    obtain rfl := Except.ok.inj answer
    exact .accepted (raise_for_ok u) (.done new closed log answer)
  | cut new still short log answer =>
    have htaken := Taken.cut new still short log answer
    rcases answer with ⟨e, he⟩ | ⟨message, out', hmessage, hout⟩
    · cases he
    · obtain rfl := Except.ok.inj hout
      obtain ⟨text, tags, -, hraise, -⟩ := ReadBack.raise_for_failure u hmessage
      rw [strip_complete hcomplete, hraise]
      exact .refused rfl (show ErrKind.abapSystem ≠ .communication by decide) htaken

variable (k a handle frame) in
/-- INTERNAL: one attempt, as the connection sees it. -/
theorem run_do_send (func_name : PyStr) (c : Conn (Peer (Process α)) ψ) :
    (Eff.run (do_send (k.toPeer a.server handle) frame func_name) c).2.wire =
        (Eff.run ((peer_seam k.p a.server handle).round_trip (.frames func_name) frame) c.wire).2 ∧
      (Eff.run (do_send (k.toPeer a.server handle) frame func_name) c).1 =
        match (Eff.run ((peer_seam k.p a.server handle).round_trip (.frames func_name) frame)
          c.wire).1 with
        | .ok out => raise_for_rfc_error k.p.u (strip_gw_header out)
        | .error e => .error (asCommunication e) := by
  unfold do_send
  rw [Eff.run_bind_lift]
  dsimp only
  rw [run_wrapTransportError, run_exchange]
  rw [show (k.toPeer a.server handle).seam = peer_seam k.p a.server handle from rfl]
  cases Eff.run ((peer_seam k.p a.server handle).round_trip (.frames func_name) frame) c.wire with
  | mk r l =>
    cases r with
    | ok out => exact ⟨rfl, rfl⟩
    | error e => exact ⟨rfl, rfl⟩

variable (handle) in
/-- One attempt to bring a unit through. -/
theorem attempted_do_send (hu : Standard k.p.u) (h : Settled a)
    (hserves : ∀ e ∈ unit.buffered, Serves k.p a e.1) (hframe : UnitFrame k.p unit frame)
    (func_name : PyStr) (c : Conn (Peer (Process α)) ψ) :
    Attempted (handlersOf k.p a unit.buffered) unit.uid unit.unit_type c.wire.server
      (Eff.run (do_send (k.toPeer a.server handle) frame func_name) c).2.wire.server
      (Eff.run (do_send (k.toPeer a.server handle) frame func_name) c).1 := by
  have htaken := taken_of_frame hu h hserves hframe c.wire.server
  obtain ⟨hwire, hresult⟩ := run_do_send k a handle frame func_name c
  rw [hwire, hresult]
  by_cases hunanswered : c.wire.transits.headD .request_lost ≠ .answered ∨
      first_sent handle (Eff.run (dispatch_inbound k.p a.server frame) c.wire.server).1 = none
  · obtain ⟨e, l, htrip, htransport, -, hwent⟩ := run_round_trip_unanswered func_name hunanswered
    rw [htrip]
    refine .unheard rfl ?_ ?_
    · unfold asCommunication
      rw [if_pos htransport]
      rfl
    · obtain hsame | hdone := hwent.server_eq
      · rw [hsame]
        exact .inl rfl
      · rw [hdone]
        exact .inr ⟨_, htaken⟩
  · obtain ⟨out, reply, w, htransit, hdispatch, hreply⟩ := answered_of_not hunanswered
    rw [hdispatch] at htaken
    rw [run_round_trip_answered htransit hdispatch hreply htaken.complete]
    exact htaken.read k.p.u

end Attempt

/-! ## All the attempts -/

section Attempts

variable {α ψ V : Type}

/-- A program brings a unit on its way: the server goes its course, and where the program returns
it was this program that brought the unit through. -/
def WorksAt (handlers : List (Handler (Process α) V)) (unit_id unit_type : PyStr)
    (x : Op (Peer (Process α)) ψ Unit) (c : Conn (Peer (Process α)) ψ) : Prop :=
  Course handlers unit_id unit_type c.wire.server (Eff.run x c).2.wire.server ∧
    ((Eff.run x c).1 = .ok () → ¬ Known unit_id unit_type c.wire.server.user ∧
      Known unit_id unit_type (Eff.run x c).2.wire.server.user)

variable {k : Client (Peer (Process α)) ψ V} {a : App α V} {handle : GwHandle} {unit : UnitHandle}
  {frame : Bytes} {handlers : List (Handler (Process α) V)} {unit_id unit_type : PyStr}
  {c : Conn (Peer (Process α)) ψ}

/-- INTERNAL: what fails before anything is sent. -/
theorem WorksAt.of_error {x : Op (Peer (Process α)) ψ Unit} {e : PyError}
    (hresult : (Eff.run x c).1 = .error e) (hwire : (Eff.run x c).2.wire = c.wire) :
    WorksAt handlers unit_id unit_type x c := by
  refine ⟨?_, fun hok => absurd (hresult.symm.trans hok) (by rintro ⟨⟩)⟩
  rw [hwire]
  exact Course.refl _

/-- INTERNAL: one attempt whose outcome is final. -/
theorem Attempted.works {x : Op (Peer (Process α)) ψ Unit}
    (h : Attempted handlers unit_id unit_type c.wire.server (Eff.run x c).2.wire.server
      (Eff.run x c).1) : WorksAt handlers unit_id unit_type x c := by
  refine ⟨h.course, fun hok => ?_⟩
  cases h with
  | unheard failed again server => exact absurd (failed.symm.trans hok) (by rintro ⟨⟩)
  | refused raised final taken => exact absurd (raised.symm.trans hok) (by rintro ⟨⟩)
  | accepted returned taken =>
    cases taken with
    | known was same answer =>
      exact absurd (Except.ok.inj answer) (show build_rfc_ok_response ≠ build_rfc_executed_response
        by decide)
    | done new closed log answer => exact ⟨new, closed⟩
    | cut new still short log answer =>
      rcases answer with ⟨e, he⟩ | ⟨message, out, hmessage, hout⟩
      · cases he
      · rw [← Except.ok.inj hout] at hmessage
        exact absurd hmessage (system_failure_ne_ok message)

/-- INTERNAL: an attempt in front, of which nothing was heard. -/
theorem WorksAt.behind {x y : Op (Peer (Process α)) ψ Unit} {c₁ : Conn (Peer (Process α)) ψ}
    (hrun : Eff.run x c = Eff.run y c₁)
    (hcourse : Course handlers unit_id unit_type c.wire.server c₁.wire.server)
    (h : WorksAt handlers unit_id unit_type y c₁) : WorksAt handlers unit_id unit_type x c := by
  unfold WorksAt at h ⊢
  rw [hrun]
  refine ⟨hcourse.trans h.1, fun hok => ⟨fun hknown => ?_, (h.2 hok).2⟩⟩
  -- a unit that was done before cannot be brought through again
  cases hcourse with
  | already was same =>
    rw [same] at h
    exact (h.2 hok).1 was
  | cut cuts short new still log => exact new hknown
  | done cuts short new closed log => exact new hknown

/-- However many attempts there are. -/
theorem works_submit_with_retry (hu : Standard k.p.u) (h : Settled a)
    (hserves : ∀ e ∈ unit.buffered, Serves k.p a e.1) (hframe : UnitFrame k.p unit frame)
    (key : ParkKey) (func_name : PyStr) (left : ℕ) (c : Conn (Peer (Process α)) ψ) :
    WorksAt (handlersOf k.p a unit.buffered) unit.uid unit.unit_type
      (submit_with_retry (k.toPeer a.server handle) key frame
        (do_send (k.toPeer a.server handle) frame func_name) left) c := by
  induction left generalizing c with
  | zero =>
    have hattempt := attempted_do_send handle hu h hserves hframe func_name c
    unfold submit_with_retry
    cases hrun : Eff.run (do_send (k.toPeer a.server handle) frame func_name) c with
    | mk r c₁ =>
      rw [hrun] at hattempt
      cases r with
      | ok _ =>
        refine Attempted.works ?_
        rw [Eff.run_tryCatch, hrun]
        exact hattempt
      | error exc =>
        by_cases hkind : exc.kind = .communication
        · refine ⟨?_, fun hok => ?_⟩
          · rw [Eff.run_tryCatch, hrun]
            dsimp only
            rw [if_pos hkind]
            have hwire := DuplicateAnswers.store_park_wire a.server handle k key frame c₁
            cases hpark : Eff.run (store_park (k.toPeer a.server handle) key frame) c₁ with
            | mk q c₂ =>
              rw [hpark] at hwire
              rw [Eff.run_bind, hpark]
              cases q with
              | ok _ => exact hwire ▸ hattempt.course
              | error e => exact hwire ▸ hattempt.course
          · rw [Eff.run_tryCatch, hrun] at hok
            dsimp only at hok
            rw [if_pos hkind] at hok
            obtain ⟨_, _, -, hthrow⟩ := Eff.run_bind_eq_ok (Prod.ext hok rfl)
            cases hthrow
        · refine Attempted.works ?_
          rw [Eff.run_tryCatch, hrun]
          dsimp only
          rw [if_neg hkind]
          exact hattempt
  | succ left ih =>
    have hattempt := attempted_do_send handle hu h hserves hframe func_name c
    unfold submit_with_retry
    cases hrun : Eff.run (do_send (k.toPeer a.server handle) frame func_name) c with
    | mk r c₁ =>
      rw [hrun] at hattempt
      cases r with
      | ok _ =>
        refine Attempted.works ?_
        rw [Eff.run_tryCatch, hrun]
        exact hattempt
      | error exc =>
        by_cases hkind : exc.kind = .communication
        · refine WorksAt.behind ?_ hattempt.course (ih c₁)
          rw [Eff.run_tryCatch, hrun]
          dsimp only
          rw [if_pos hkind]
          rfl
        · refine Attempted.works ?_
          rw [Eff.run_tryCatch, hrun]
          dsimp only
          rw [if_neg hkind]
          exact hattempt

/-- The state of the session stands in front of a body, and nothing else does. -/
theorem works_in_call {body : Op (Peer (Process α)) ψ Unit}
    (h : ∀ c', c'.session.handle = c.session.handle → c'.wire = c.wire →
      WorksAt handlers unit_id unit_type body c') :
    WorksAt handlers unit_id unit_type (in_call (k.toPeer a.server handle) body) c := by
  by_cases hready : c.session.state = .READY
  · have hbody := h { c with session := { c.session with state := .IN_CALL } } rfl rfl
    unfold WorksAt at hbody ⊢
    rw [run_in_call (k.toPeer a.server handle) body hready, Eff.run_andFinally]
    cases hrun : Eff.run body { c with session := { c.session with state := .IN_CALL } } with
    | mk r c' =>
      rw [hrun] at hbody
      dsimp only
      rw [run_restore_ready]
      exact hbody
  · obtain ⟨e, he⟩ := run_in_call_refused (k.toPeer a.server handle) body hready
    exact .of_error (congrArg Prod.fst he) (by rw [he])

variable (handle unit) in
/-- The block of a unit is left for the first time. -/
theorem works_ship (hu : Standard k.p.u) (h : Settled a)
    (hserves : ∀ e ∈ unit.buffered, Serves k.p a e.1) (hhandle : Redrive.EightBytes c.session) :
    WorksAt (handlersOf k.p a unit.buffered) unit.uid unit.unit_type
      (unit.ship (k.toPeer a.server handle)) c := by
  unfold UnitHandle.ship
  cases hbytes : unit.buffered_bytes with
  | error e => exact .of_error rfl rfl
  | ok bytes =>
    unfold WorksAt
    rw [Eff.run_bind_ok (Eff.run_lift _ _)]
    refine works_in_call fun c' hsame hwire => ?_
    have hc' : Redrive.EightBytes c'.session := fun b hb => hhandle b (hsame ▸ hb)
    cases hbuild : build_bgrfc_request (k.toPeer a.server handle).p.u unit.uid unit.unit_type
        unit.queues bytes with
    | error e => exact .of_error rfl rfl
    | ok tlv =>
      unfold WorksAt
      rw [Eff.run_bind_ok (Eff.run_lift _ _)]
      cases hframe : build_invoke_frame c'.session.sendHandle tlv with
      | error e =>
        have hrun := Redrive.run_invoke_frame tlv c'
        rw [hframe] at hrun
        rw [Eff.run_bind_error hrun]
        exact ⟨Course.refl _, by rintro ⟨⟩⟩
      | ok frame =>
        have hrun := Redrive.run_invoke_frame tlv c'
        rw [hframe] at hrun
        rw [Eff.run_bind_ok hrun]
        obtain ⟨footer, hstrip⟩ := strip_invoke_frame (Redrive.length_sendHandle hc') hframe
        exact works_submit_with_retry hu h hserves ⟨bytes, tlv, footer, hbytes, hbuild, hstrip⟩ _ _
          _ c'

variable (handle unit) in
/-- What is parked of a unit is sent again. -/
theorem works_retry_parked {tids : TidStore ψ} {units : UnitStore ψ}
    {view : ψ → ParkKey → Option Bytes} (hu : Standard k.p.u) (h : Settled a)
    (law : Redrive.ParksIn tids units view) (hk : Redrive.StoredIn k tids units)
    (hserves : ∀ e ∈ unit.buffered, Serves k.p a e.1)
    (hparked : ∀ b, view c.user (.unit unit.uid unit.unit_type) = some b → UnitFrame k.p unit b) :
    WorksAt (handlersOf k.p a unit.buffered) unit.uid unit.unit_type
      (async_retry_parked_unit (k.toPeer a.server handle) unit.uid unit.unit_type) c := by
  have hstore : (k.toPeer a.server handle).unit_store = k.unit_store := rfl
  unfold async_retry_parked_unit
  rw [hstore]
  rcases hk.unit_store with hnone | hsome
  · rw [hnone]
    exact .of_error rfl rfl
  · rw [hsome]
    dsimp only
    unfold onStore
    cases hget : Eff.run (units.get_parked unit.uid unit.unit_type) c.user with
    | mk r g =>
      have hread : Eff.run (Eff.zoom (·.user) (fun g c => { c with user := g })
          (units.get_parked unit.uid unit.unit_type) : Op (Peer (Process α)) ψ (Option Bytes)) c =
            (r, { c with user := g }) := by
        rw [Eff.run_zoom, hget]
      cases r with
      | error e =>
        refine .of_error (e := e) ?_ ?_
        · rw [Eff.run_bind_error hread]
        · rw [Eff.run_bind_error hread]
      | ok payload =>
        unfold WorksAt
        rw [Eff.run_bind_ok hread]
        cases payload with
        | none => exact ⟨Course.refl _, by rintro ⟨⟩⟩
        | some payload =>
          have hframe := hparked payload (law.unit_get _ _ _ _ (congrArg Prod.fst hget))
          have hresend : WorksAt (handlersOf k.p a unit.buffered) unit.uid unit.unit_type
              (async_resend (k.toPeer a.server handle) (.unit unit.uid unit.unit_type) payload
                (lit "retry unit " ++ unit.uid)) { c with user := g } :=
            works_in_call fun c' _ _ => works_submit_with_retry hu h hserves hframe _ _ _ c'
          dsimp only
          unfold WorksAt at hresend
          rw [Eff.run_bind]
          cases hrun : Eff.run (async_resend (k.toPeer a.server handle)
              (.unit unit.uid unit.unit_type) payload (lit "retry unit " ++ unit.uid))
              { c with user := g } with
          | mk q c' =>
            rw [hrun] at hresend
            cases q with
            | error e => exact ⟨hresend.1, by rintro ⟨⟩⟩
            | ok _ => exact ⟨hresend.1, fun _ => hresend.2 rfl⟩

end Attempts

/-! ## Runs -/

section Run

variable {α ψ V : Type}

/-- A step of a client. -/
abbrev UnitStep (α ψ : Type) : Type :=
  Step (UnitHandle × Conn (Peer (Process α)) ψ) (UnitMove × List Transit) (Except PyError Unit)

/-- The block of the unit is left for the first time without an exception. -/
def Ships (d : UnitStep α ψ) : Prop := d.input.1 = .leave none ∧ d.before.1.submitted = false

/-- The client is told that the unit is through. -/
def reported (d : UnitStep α ψ) : Bool :=
  match d.output, d.input.1 with
  | .ok _, .leave none => !d.before.1.submitted
  | .ok _, .retry_parked => true
  | _, _ => false

/-- The server over a run in which a unit was shipped. -/
inductive RanOnce (handlers : List (Handler (Process α) V)) (unit_id unit_type : PyStr)
    (w w' : ServerWorld (Process α)) (done : List (UnitStep α ψ)) : Prop
  /-- so far each delivery was cut short, and the client was not told otherwise -/
  | pending (cuts : List (List ServerEvent)) (short : ∀ t ∈ cuts, CutShort handlers t)
      (still : ¬ Known unit_id unit_type w'.user) (log : w'.events = w.events ++ cuts.flatten)
      (untold : done.countP reported = 0)
  /-- the calls have all run, once and last, and the client was told so once or not at all -/
  | once (cuts : List (List ServerEvent)) (short : ∀ t ∈ cuts, CutShort handlers t)
      (closed : Known unit_id unit_type w'.user)
      (log : w'.events = w.events ++ cuts.flatten ++ fullTrace handlers unit_id unit_type)
      (told : done.countP reported ≤ 1)

variable {k : Client (Peer (Process α)) ψ V} {a : App α V} {handle : GwHandle}
  {tids : TidStore ψ} {units : UnitStore ψ} {view : ψ → ParkKey → Option Bytes}
  {unit : UnitHandle} {w : ServerWorld (Process α)} {done : List (UnitStep α ψ)}
  {s : UnitHandle × Conn (Peer (Process α)) ψ}

variable (k a view unit w) in
/-- What holds all along. -/
structure Underway (done : List (UnitStep α ψ)) (s : UnitHandle × Conn (Peer (Process α)) ψ) :
    Prop where
  uid : s.1.uid = unit.uid
  unit_type : s.1.unit_type = unit.unit_type
  handle : Redrive.EightBytes s.2.session
  serves : ∀ e ∈ s.1.buffered, Serves k.p a e.1
  progress :
    (s.1.submitted = false ∧ s.2.wire.server = w ∧
      view s.2.user (.unit unit.uid unit.unit_type) = none ∧ done.countP reported = 0) ∨
    ∃ d ∈ done, Ships d ∧ s.1.submitted = true ∧
      d.before.1.uid = unit.uid ∧ d.before.1.unit_type = unit.unit_type ∧
      (∀ e ∈ d.before.1.buffered, Serves k.p a e.1) ∧
      (∀ b, view s.2.user (.unit unit.uid unit.unit_type) = some b →
        UnitFrame k.p d.before.1 b) ∧
      RanOnce (handlersOf k.p a d.before.1.buffered) unit.uid unit.unit_type w s.2.wire.server done

/-- INTERNAL: the first of the run, and one more step that brings the unit on its way. -/
theorem RanOnce.step {handlers : List (Handler (Process α) V)} {unit_id unit_type : PyStr}
    {w₁ w' : ServerWorld (Process α)} {d : UnitStep α ψ}
    (h : RanOnce handlers unit_id unit_type w w₁ done)
    (hcourse : Course handlers unit_id unit_type w₁ w')
    (hreported : reported d = true → ¬ Known unit_id unit_type w₁.user ∧
      Known unit_id unit_type w'.user) :
    RanOnce handlers unit_id unit_type w w' (done ++ [d]) := by
  have hcount : (done ++ [d]).countP reported =
      done.countP reported + if reported d = true then 1 else 0 := by
    rw [List.countP_append, List.countP_singleton]
  cases h with
  | pending cuts short still log untold =>
    have hboth : ∀ more : List (List ServerEvent), (∀ t ∈ more, CutShort handlers t) →
        ∀ t ∈ cuts ++ more, CutShort handlers t := fun more hmore t ht =>
      (List.mem_append.mp ht).elim (short t) (hmore t)
    cases hcourse with
    | already was same => exact absurd was still
    | cut more short' new still' log' =>
      refine .pending (cuts ++ more) (hboth more short') still' ?_ ?_
      · rw [log', log, List.flatten_append, List.append_assoc]
      · rw [hcount, untold, if_neg fun hd => still' (hreported hd).2]
    | done more short' new closed log' =>
      refine .once (cuts ++ more) (hboth more short') closed ?_ ?_
      · rw [log', log, List.flatten_append, List.append_assoc w.events]
      · rw [hcount, untold]
        split <;> omega
  | once cuts short closed log told =>
    cases hcourse with
    | already was same =>
      rw [same]
      refine .once cuts short closed log ?_
      rw [hcount, if_neg fun hd => (hreported hd).1 was]
      exact told
    | cut more short' new still' log' => exact absurd closed new
    | done more short' new closed' log' => exact absurd closed new

/-- INTERNAL: a move that touches neither the server nor the stores, and reports nothing. -/
theorem Underway.quiet {d : UnitStep α ψ} {s' : UnitHandle × Conn (Peer (Process α)) ψ}
    (h : Underway k a view unit w done s) (huid : s'.1.uid = s.1.uid)
    (htype : s'.1.unit_type = s.1.unit_type) (hsubmitted : s'.1.submitted = s.1.submitted)
    (hsession : s'.2.session = s.2.session) (hserver : s'.2.wire.server = s.2.wire.server)
    (huser : s'.2.user = s.2.user) (hserves : ∀ e ∈ s'.1.buffered, Serves k.p a e.1)
    (hreported : reported d = false) : Underway k a view unit w (done ++ [d]) s' := by
  have hcount : (done ++ [d]).countP reported = done.countP reported := by
    rw [List.countP_append, List.countP_singleton, if_neg (by rw [hreported]; decide), Nat.add_zero]
  refine ⟨huid.trans h.uid, htype.trans h.unit_type, ?_, hserves, ?_⟩
  · intro b hb
    exact h.handle b (hsession ▸ hb)
  · rw [hserver, huser, hsubmitted, hcount]
    rcases h.progress with hfirst | ⟨d₀, hd₀, hships, hsub, hu, ht, hsv, hparked, hran⟩
    · exact .inl hfirst
    · refine .inr ⟨d₀, List.mem_append_left _ hd₀, hships, hsub, hu, ht, hsv, hparked, ?_⟩
      cases hran with
      | pending cuts short still log untold =>
        exact .pending cuts short still log (hcount.trans untold)
      | once cuts short closed log told => exact .once cuts short closed log (hcount.symm ▸ told)

variable (a handle unit) in
/-- INTERNAL: what the first block parks is the frame of its unit. -/
theorem ship_keeps (law : Redrive.ParksIn tids units view) (hk : Redrive.StoredIn k tids units)
    {c : Conn (Peer (Process α)) ψ} (hhandle : Redrive.EightBytes c.session) :
    (Eff.run (unit.ship (k.toPeer a.server handle)) c).2.session.handle = c.session.handle ∧
      ∀ b, view (Eff.run (unit.ship (k.toPeer a.server handle)) c).2.user
          (.unit unit.uid unit.unit_type) = some b →
        view c.user (.unit unit.uid unit.unit_type) = some b ∨ UnitFrame k.p unit b := by
  have hk' : Redrive.StoredIn (k.toPeer a.server handle) tids units := ⟨hk.tid_store, hk.unit_store⟩
  unfold UnitHandle.ship
  cases hbytes : unit.buffered_bytes with
  | error e => exact ⟨rfl, fun b hb => .inl hb⟩
  | ok bytes =>
    rw [Eff.run_bind_ok (Eff.run_lift _ _)]
    have hsends := (Redrive.async_submit_delivers law hk' (.unit unit.uid unit.unit_type)
      (build_bgrfc_request (k.toPeer a.server handle).p.u unit.uid unit.unit_type unit.queues bytes)
      BGRFC_DEST_SHIP c).1
    refine ⟨hsends.handle, fun b hb => (hsends.parked _ b hb).imp id fun hnew => ?_⟩
    obtain ⟨-, tlv, hbuild, hframe⟩ := hnew
    obtain ⟨footer, hstrip⟩ := strip_invoke_frame (Redrive.length_sendHandle hhandle) hframe
    exact ⟨bytes, tlv, footer, hbytes, hbuild, hstrip⟩

variable (a handle) in
/-- INTERNAL: where nothing is parked, nothing is sent. -/
theorem retry_nothing (law : Redrive.ParksIn tids units view) (hk : Redrive.StoredIn k tids units)
    {c : Conn (Peer (Process α)) ψ} {unit_id unit_type : PyStr}
    (hnone : view c.user (.unit unit_id unit_type) = none) :
    (∃ e, (Eff.run (async_retry_parked_unit (k.toPeer a.server handle) unit_id unit_type) c).1 =
        .error e) ∧
      (Eff.run (async_retry_parked_unit (k.toPeer a.server handle) unit_id unit_type) c).2.wire =
        c.wire := by
  have hstore : (k.toPeer a.server handle).unit_store = k.unit_store := rfl
  unfold async_retry_parked_unit
  rw [hstore]
  rcases hk.unit_store with hno | hsome
  · rw [hno]
    exact ⟨⟨_, rfl⟩, rfl⟩
  · rw [hsome]
    dsimp only
    unfold onStore
    rw [Eff.run_bind, Eff.run_zoom]
    cases hget : Eff.run (units.get_parked unit_id unit_type) c.user with
    | mk r g =>
      cases r with
      | error e => exact ⟨⟨e, rfl⟩, rfl⟩
      | ok payload =>
        cases payload with
        | none => exact ⟨⟨_, rfl⟩, rfl⟩
        | some payload =>
          have hsome := law.unit_get _ _ _ _ (congrArg Prod.fst hget)
          exact absurd (hnone.symm.trans hsome) (Option.some_ne_none _).symm

/-- One move keeps all of it. -/
theorem Underway.step (hu : Standard k.p.u) (h : Settled a)
    (law : Redrive.ParksIn tids units view) (hk : Redrive.StoredIn k tids units)
    (hnew : ¬ Known unit.uid unit.unit_type w.user) (i : UnitMove × List Transit)
    (hserves : ∀ f ps, i.1 = .call f ps → Serves k.p a f)
    (hinv : Underway k a view unit w done s) :
    Underway k a view unit w (done ++ [Run.stepOf (unitStep a.server handle k) i s])
      (Run.stepOf (unitStep a.server handle k) i s).after := by
  obtain ⟨u, c⟩ := s
  obtain ⟨move, transits⟩ := i
  have hk' : Redrive.StoredIn (k.toPeer a.server handle) tids units := ⟨hk.tid_store, hk.unit_store⟩
  cases move with
  | call f ps =>
    refine hinv.quiet rfl rfl rfl rfl rfl rfl ?_ rfl
    intro e he
    rcases List.mem_append.mp he with he | he
    · exact hinv.serves e he
    · rw [List.mem_singleton.mp he]
      exact hserves f ps rfl
  | leave raised =>
    cases raised with
    | some exc => exact hinv.quiet rfl rfl rfl rfl rfl rfl hinv.serves rfl
    | none =>
      cases hsub : u.submitted with
      | true =>
        have hstep : unitStep a.server handle k (.leave none, transits) (u, c) =
            (.ok (), u, { c with wire := { c.wire with transits := transits } }) :=
          leave_submitted (k.toPeer a.server handle) hsub _
        have hafter : (Run.stepOf (unitStep a.server handle k) (.leave none, transits)
            (u, c)).after = (u, { c with wire := { c.wire with transits := transits } }) :=
          congrArg Prod.snd hstep
        rw [hafter]
        refine hinv.quiet rfl rfl rfl rfl rfl rfl hinv.serves ?_
        unfold reported Run.stepOf
        rw [hstep]
        show (!u.submitted) = false
        rw [hsub]
        rfl
      | false =>
        obtain ⟨-, hserver, hnone, huntold⟩ := hinv.progress.resolve_right
          fun ⟨d, _, _, hsub', _⟩ => Bool.false_ne_true (hsub.symm.trans hsub')
        have hstep : unitStep a.server handle k (.leave none, transits) (u, c) =
            ((Eff.run (u.ship (k.toPeer a.server handle))
                { c with wire := { c.wire with transits := transits } }).1,
              { u with submitted := true },
              (Eff.run (u.ship (k.toPeer a.server handle))
                { c with wire := { c.wire with transits := transits } }).2) :=
          leave_first (k.toPeer a.server handle) hsub _
        have hworks := works_ship handle u
          (c := { c with wire := { c.wire with transits := transits } }) hu h hinv.serves
          hinv.handle
        obtain ⟨hhandle, hparked⟩ := ship_keeps a handle u
          (c := { c with wire := { c.wire with transits := transits } }) law hk hinv.handle
        have huid : u.uid = unit.uid := hinv.uid
        have htype : u.unit_type = unit.unit_type := hinv.unit_type
        unfold WorksAt at hworks
        rw [huid, htype] at hworks hparked
        have hfirst : RanOnce (handlersOf k.p a u.buffered) unit.uid unit.unit_type w
            c.wire.server done := by
          refine .pending [] (List.forall_mem_nil _) ?_ ?_ huntold
          · rw [show c.wire.server = w from hserver]
            exact hnew
          · rw [show c.wire.server = w from hserver]
            exact (List.append_nil _).symm
        have hafter : (Run.stepOf (unitStep a.server handle k) (.leave none, transits)
            (u, c)).after = (unitStep a.server handle k (.leave none, transits) (u, c)).2 := rfl
        refine ⟨?_, ?_, ?_, ?_, .inr ⟨_, List.mem_append_right _ (List.mem_singleton.mpr rfl),
          ⟨rfl, hsub⟩, ?_, huid, htype, hinv.serves, ?_, ?_⟩⟩
        · rw [hafter, hstep]
          exact huid
        · rw [hafter, hstep]
          exact htype
        · rw [hafter, hstep]
          exact fun b hb => hinv.handle b (hhandle ▸ hb)
        · rw [hafter, hstep]
          exact hinv.serves
        · rw [hafter, hstep]
        · rw [hafter, hstep]
          intro b hb
          refine (hparked b hb).resolve_left fun hbefore => ?_
          exact absurd (hnone.symm.trans hbefore) (Option.some_ne_none _).symm
        · have hboth := hfirst.step (d := Run.stepOf (unitStep a.server handle k)
            (.leave none, transits) (u, c)) hworks.1 ?_
          · rw [hafter, hstep]
            exact hboth
          · intro hd
            refine hworks.2 ?_
            unfold reported Run.stepOf at hd
            rw [hstep] at hd
            cases hr : (Eff.run (u.ship (k.toPeer a.server handle))
              { c with wire := { c.wire with transits := transits } }).1 with
            | ok _ => rfl
            | error e =>
              rw [hr] at hd
              cases hd
  | retry_parked =>
    have huid : u.uid = unit.uid := hinv.uid
    have htype : u.unit_type = unit.unit_type := hinv.unit_type
    have hstep : unitStep a.server handle k (.retry_parked, transits) (u, c) =
        ((Eff.run (async_retry_parked_unit (k.toPeer a.server handle) unit.uid unit.unit_type)
            { c with wire := { c.wire with transits := transits } }).1, u,
          (Eff.run (async_retry_parked_unit (k.toPeer a.server handle) unit.uid unit.unit_type)
            { c with wire := { c.wire with transits := transits } }).2) := by
      rw [← huid, ← htype]
      rfl
    have hafter : (Run.stepOf (unitStep a.server handle k) (.retry_parked, transits)
        (u, c)).after = (unitStep a.server handle k (.retry_parked, transits) (u, c)).2 := rfl
    have hsends := Redrive.async_retry_parked_unit_sends law hk' unit.uid unit.unit_type
      { c with wire := { c.wire with transits := transits } }
    have hkept : ∀ b, view (Eff.run (async_retry_parked_unit (k.toPeer a.server handle) unit.uid
        unit.unit_type) { c with wire := { c.wire with transits := transits } }).2.user
          (.unit unit.uid unit.unit_type) = some b →
        view c.user (.unit unit.uid unit.unit_type) = some b := fun b hb =>
      (hsends.parked _ b hb).elim id fun hsame => hsame.2
    have hreported : ∀ e, (Eff.run (async_retry_parked_unit (k.toPeer a.server handle) unit.uid
        unit.unit_type) { c with wire := { c.wire with transits := transits } }).1 = .error e →
        reported (Run.stepOf (unitStep a.server handle k) (.retry_parked, transits) (u, c)) =
          false := by
      intro e he
      unfold reported Run.stepOf
      rw [hstep, he]
    refine ⟨?_, ?_, ?_, ?_, ?_⟩
    · rw [hafter, hstep]
      exact huid
    · rw [hafter, hstep]
      exact htype
    · rw [hafter, hstep]
      exact fun b hb => hinv.handle b (hsends.handle ▸ hb)
    · rw [hafter, hstep]
      exact hinv.serves
    · rcases hinv.progress with ⟨hsub, hserver, hnone, huntold⟩ |
        ⟨d, hd, hships, hsub, hdu, hdt, hdserves, hframes, hran⟩
      · obtain ⟨⟨e, he⟩, hwire⟩ := retry_nothing a handle
          (c := { c with wire := { c.wire with transits := transits } }) law hk hnone
        refine .inl ⟨?_, ?_, ?_, ?_⟩
        · rw [hafter, hstep]
          exact hsub
        · rw [hafter, hstep, hwire]
          exact hserver
        · rw [hafter, hstep]
          cases hview : view (Eff.run (async_retry_parked_unit (k.toPeer a.server handle) unit.uid
            unit.unit_type) { c with wire := { c.wire with transits := transits } }).2.user
            (.unit unit.uid unit.unit_type) with
          | none => rfl
          | some b => exact absurd (hnone.symm.trans (hkept b hview)) (Option.some_ne_none _).symm
        · rw [List.countP_append, List.countP_singleton, huntold, hreported e he]
          rfl
      · have hworks := works_retry_parked handle d.before.1
          (c := { c with wire := { c.wire with transits := transits } }) hu h law hk hdserves
          (fun b hb => hframes b (by rw [hdu, hdt] at hb; exact hb))
        unfold WorksAt at hworks
        rw [hdu, hdt] at hworks
        refine .inr ⟨d, List.mem_append_left _ hd, hships, ?_, hdu, hdt, hdserves, ?_, ?_⟩
        · rw [hafter, hstep]
          exact hsub
        · rw [hafter, hstep]
          exact fun b hb => hframes b (hkept b hb)
        · have hboth := hran.step (d := Run.stepOf (unitStep a.server handle k)
            (.retry_parked, transits) (u, c)) hworks.1 ?_
          · rw [hafter, hstep]
            exact hboth
          · intro hrep
            refine hworks.2 ?_
            cases hr : (Eff.run (async_retry_parked_unit (k.toPeer a.server handle) unit.uid
              unit.unit_type) { c with wire := { c.wire with transits := transits } }).1 with
            | ok _ => rfl
            | error e => exact absurd ((hreported e hr).symm.trans hrep) Bool.false_ne_true

/-- Whatever a client does with a unit, over whatever link: until its block is left the server
hears nothing of it, and from then on the calls that were in the block all run through at most once,
behind deliveries that a handler cut short.  The client is told at most once that the unit is
through, and only where it is. -/
theorem unit_runs_once (hu : Standard k.p.u) (h : Settled a)
    (law : Redrive.ParksIn tids units view) (hk : Redrive.StoredIn k tids units)
    (uid : Option PyStr) (queues : Option (List PyStr)) {c : Conn (Peer (Process α)) ψ}
    {moves : List (UnitMove × List Transit)}
    (hserves : ∀ m ∈ moves, ∀ f ps, m.1 = .call f ps → Serves k.p a f)
    (hhandle : Redrive.EightBytes c.session)
    (hnew : ¬ Known (create_unit k uid queues).uid (create_unit k uid queues).unit_type
      c.wire.server.user)
    (hparked : view c.user (.unit (create_unit k uid queues).uid
      (create_unit k uid queues).unit_type) = none)
    {n : ℕ} {x : UnitStep α ψ} (hx : (Run.trace (unitStep a.server handle k) moves
      (create_unit k uid queues, c))[n]? = some x) :
    (x.after.1.submitted = false ∧ x.after.2.wire.server = c.wire.server ∧
      ((Run.trace (unitStep a.server handle k) moves (create_unit k uid queues, c)).take
        (n + 1)).countP reported = 0) ∨
    ∃ d ∈ (Run.trace (unitStep a.server handle k) moves (create_unit k uid queues, c)).take (n + 1),
      Ships d ∧ RanOnce (handlersOf k.p a d.before.1.buffered) (create_unit k uid queues).uid
        (create_unit k uid queues).unit_type c.wire.server x.after.2.wire.server
        ((Run.trace (unitStep a.server handle k) moves (create_unit k uid queues, c)).take
          (n + 1)) := by
  have hinit : Underway k a view (create_unit k uid queues) c.wire.server []
      (create_unit k uid queues, c) :=
    ⟨rfl, rfl, hhandle, List.forall_mem_nil _, .inl ⟨rfl, rfl, hparked, rfl⟩⟩
  have hinv := (Run.trace_invariant
    (P := fun d => ∀ f ps, d.input.1 = .call f ps → Serves k.p a f)
    (fun done s i hI hP => hI.step hu h law hk hnew i hP) hinit
    (fun d hd => hserves d.input (Run.input_mem_of_mem hd)) hx).2
  rcases hinv.progress with ⟨hsub, hserver, -, huntold⟩ | ⟨d, hd, hships, -, -, -, -, -, hran⟩
  · exact .inl ⟨hsub, hserver, huntold⟩
  · exact .inr ⟨d, hd, hships, hran⟩

end Run

/-! ## A unit whose answer is lost -/

/-- A client with stores, over a link to a server of `Z_FM`. -/
def unitClient : Client (Peer (Process Unit)) Tables Bytes where
  p := plainPlatform
  seam := peer_seam plainPlatform plainApp.server DuplicateAnswers.spaces
  snc_mode := false
  strict_params := true
  max_retries := 0
  tid_store := some tablesTidStore
  unit_store := some tablesUnitStore
  fresh_hex := lit "0123456789abcdef0123456789abcdef"
  hostname := []
  nonce := []
  redial := fun _ _ _ => throw (err .os (lit "unreachable"))

/-- The block calls `Z_FM` twice and its answer is lost; then the unit is sent again. -/
def lostAnswer : List (UnitMove × List Transit) :=
  [(.call (lit "Z_FM") [(lit "A", lit "1")], []), (.call (lit "Z_FM") [], []),
    (.leave none, [.answer_lost]), (.retry_parked, [.answered])]

def unitConn : Conn (Peer (Process Unit)) Tables :=
  readyConn ⟨newWorld (), [], none, []⟩ Tables.empty

theorem settled_plain : Settled plainApp where
  own := rfl
  commit := by
    intro f hf
    cases hf
  confirm := by
    intro f hf
    cases hf

/-- Behind the answer that was lost the block has not been left, or the unit has its course. -/
theorem unit_runs_once_lost : ∃ x, (Run.trace
      (unitStep plainApp.server DuplicateAnswers.spaces unitClient) lostAnswer
      (create_unit unitClient none (some [lit "INBOUND"]), unitConn))[3]? = some x ∧
    ((x.after.1.submitted = false ∧ x.after.2.wire.server = unitConn.wire.server ∧
      ((Run.trace (unitStep plainApp.server DuplicateAnswers.spaces unitClient) lostAnswer
        (create_unit unitClient none (some [lit "INBOUND"]), unitConn)).take
          4).countP reported = 0) ∨
    ∃ d ∈ (Run.trace (unitStep plainApp.server DuplicateAnswers.spaces unitClient) lostAnswer
        (create_unit unitClient none (some [lit "INBOUND"]), unitConn)).take 4,
      Ships d ∧ RanOnce (handlersOf unitClient.p plainApp d.before.1.buffered)
        (create_unit unitClient none (some [lit "INBOUND"])).uid
        (create_unit unitClient none (some [lit "INBOUND"])).unit_type unitConn.wire.server
        x.after.2.wire.server
        ((Run.trace (unitStep plainApp.server DuplicateAnswers.spaces unitClient) lostAnswer
          (create_unit unitClient none (some [lit "INBOUND"]), unitConn)).take 4)) := by
  have hfunction : Serves unitClient.p plainApp (lit "Z_FM") :=
    ⟨show IsText (lit "Z_FM") by unfold IsText; decide, show 0 ∉ lit "Z_FM" by decide,
      show rstrip padding (lit "Z_FM") ≠ [] by decide, ⟨_, rfl, rfl⟩⟩
  have hserves : ∀ m ∈ lostAnswer, ∀ f ps, m.1 = .call f ps → Serves unitClient.p plainApp f := by
    unfold lostAnswer
    simp only [List.forall_mem_cons]
    refine ⟨?_, ?_, ?_, ?_, List.forall_mem_nil _⟩
    · intro f ps hcall
      rw [← (UnitMove.call.inj hcall).1]
      exact hfunction
    · intro f ps hcall
      rw [← (UnitMove.call.inj hcall).1]
      exact hfunction
    · intro f ps hcall
      cases hcall
    · intro f ps hcall
      cases hcall
  have hnew : ¬ Known (create_unit unitClient none (some [lit "INBOUND"])).uid
      (create_unit unitClient none (some [lit "INBOUND"])).unit_type unitConn.wire.server.user :=
    not_or.mpr ⟨show UnitState.NOT_FOUND ≠ .COMMITTED by decide,
      show UnitState.NOT_FOUND ≠ .CONFIRMED by decide⟩
  refine ⟨_, rfl, ?_⟩
  exact unit_runs_once standard_ascii settled_plain Redrive.tables_park ⟨.inr rfl, .inr rfl⟩ none
    (some [lit "INBOUND"]) hserves (by intro b hb; cases hb) hnew rfl rfl

end SapRfc.Analysis.UnitsOnce
