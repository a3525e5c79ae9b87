import SapRfc.Program.Dispatch

/-!
# A transaction, one step at a time

`ARFC_DEST_SHIP` as a thread runs it: a step makes one call of the store at most, so that
the steps of other threads may come between any two calls.  `rest` is what is left of the
dispatch in a phase, and each phase is one step and then the rest of the next phase, from
`dispatch_transactional` down to the answer.
-/

set_option autoImplicit false

namespace SapRfc.Program

open SapRfc.Library

/-- How far a thread has come with its transaction. -/
inductive Phase (χ V : Type) where
  | start
  /-- the check has said that the TID is new -/
  | fresh (tid : PyStr)
  /-- the store has taken the TID -/
  | received (tid : PyStr)
  /-- the handler is called and has not ended -/
  | running (tid : PyStr) (handler : Handler χ V) (request : Values V)
  /-- the handler has ended without raising -/
  | completed (tid : PyStr)
  /-- there is no handler, or it has raised -/
  | failed (tid message : PyStr)
  /-- the TID is marked as executed -/
  | executed (tid : PyStr)
  /-- the TID is marked as rolled back -/
  | rolled_back (tid message : PyStr)
  /-- the dispatch has returned -/
  | answered (out : Bytes)
  /-- the dispatch has raised -/
  | raised (exc : PyError)

section Interleaved

variable {χ V : Type} (p : Platform V) (srv : RfcServer χ V) (tlv : Bytes)

/-- SOURCE: server.py:850-948.  The next step of a thread. -/
def ship_next : Phase χ V → Eff PyError (ServerWorld χ) (Phase χ V)
  | .start => do
    let tid ← Eff.lift (extract_tid_from_frame p tlv)
    match tid_fault tid with
    | some message => do
      let out ← Eff.lift (build_system_failure message)
      pure (.answered out)
    | none => do
      let already_done ← ext (srv.check_transaction tid)
      pure (if already_done = true then .answered build_rfc_executed_response else .fresh tid)
  | .fresh tid => do
    ext (srv.tid_store.mark_received tid)
    pure (.received tid)
  | .received tid => do
    let wrapped_fn ← Eff.lift (extract_param_from_frame p tlv (lit "ARFCFNAM"))
    let entry ← ext (srv.lookup_wrapped p wrapped_fn)
    match entry with
    | none =>
      pure (.failed tid (lit "ARFC_DEST_SHIP: no handler registered for " ++ p.u.repr wrapped_fn))
    | some (func_desc, handler) => do
      note (.selected handler.id)
      let request ← Eff.lift (deserialize_request p tlv func_desc)
      pure (.running tid handler request)
  | .running tid handler request => do
    let called ← attempt (call_handler handler request)
    match called with
    | .error exc => pure (.failed tid exc.text)
    | .ok _ => pure (.completed tid)
  | .completed tid => do
    note (.marked_executed tid)
    ext (srv.tid_store.mark_executed tid)
    pure (.executed tid)
  | .failed tid message => do
    ext (srv.tid_store.mark_rolled_back tid)
    pure (.rolled_back tid message)
  | .executed tid => do
    callback (srv.on_commit_transaction.map (· tid))
    pure (.answered build_rfc_ok_response)
  | .rolled_back tid message => do
    callback (srv.on_rollback_transaction.map (· tid))
    let out ← Eff.lift (build_system_failure message)
    pure (.answered out)
  | .answered out => pure (.answered out)
  | .raised exc => throw exc

/-- A thread takes its next step; what leaves the step ends the dispatch. -/
def advance (phase : Phase χ V) (w : ServerWorld χ) : Phase χ V × ServerWorld χ :=
  match Eff.run (ship_next p srv tlv phase) w with
  | (.ok next, w') => (next, w')
  | (.error exc, w') => (.raised exc, w')

/-- What is left of the dispatch. -/
def rest : Phase χ V → Eff PyError (ServerWorld χ) Bytes
  | .start => dispatch_transactional p srv tlv
  | .fresh tid => open_shipped p srv tlv tid
  | .received tid => do
    let wrapped_fn ← Eff.lift (extract_param_from_frame p tlv (lit "ARFCFNAM"))
    let entry ← ext (srv.lookup_wrapped p wrapped_fn)
    match entry with
    | none =>
      rollback_transaction srv tid
        (lit "ARFC_DEST_SHIP: no handler registered for " ++ p.u.repr wrapped_fn)
    | some (func_desc, handler) => do
      note (.selected handler.id)
      let request ← Eff.lift (deserialize_request p tlv func_desc)
      run_shipped srv tid handler request
  | .running tid handler request => run_shipped srv tid handler request
  | .completed tid => do
    note (.marked_executed tid)
    ext (srv.tid_store.mark_executed tid)
    callback (srv.on_commit_transaction.map (· tid))
    pure build_rfc_ok_response
  | .failed tid message => rollback_transaction srv tid message
  | .executed tid => do
    callback (srv.on_commit_transaction.map (· tid))
    pure build_rfc_ok_response
  | .rolled_back tid message => do
    callback (srv.on_rollback_transaction.map (· tid))
    Eff.lift (build_system_failure message)
  | .answered out => pure out
  | .raised exc => throw exc

/-- The phase that a run of the rest ends in. -/
def lastPhase (r : Except PyError Bytes) : Phase χ V :=
  match r with
  | .ok out => .answered out
  | .error exc => .raised exc

/-- How many steps are left at most. -/
def Phase.left : Phase χ V → ℕ
  | .start => 6
  | .fresh _ => 5
  | .received _ => 4
  | .running _ _ _ => 3
  | .completed _ => 2
  | .failed _ _ => 2
  | .executed _ => 1
  | .rolled_back _ _ => 1
  | .answered _ => 0
  | .raised _ => 0

variable {p srv tlv}

/-- One step, and the rest from there, are what was left before. -/
theorem run_rest (phase : Phase χ V) (w : ServerWorld χ) :
    Eff.run (rest p srv tlv phase) w =
      Eff.run (rest p srv tlv (advance p srv tlv phase w).1) (advance p srv tlv phase w).2 := by
  unfold advance
  cases phase with
  | start =>
    show Eff.run (dispatch_transactional p srv tlv) w = _
    unfold ship_next dispatch_transactional
    cases extract_tid_from_frame p tlv with
    | error e => rfl
    | ok tid =>
      rw [Eff.run_bind_ok (Eff.run_lift _ _), Eff.run_bind_ok (Eff.run_lift _ _)]
      cases tid_fault tid with
      | some message =>
        dsimp only
        cases build_system_failure message <;> rfl
      | none =>
        dsimp only
        rw [Eff.run_bind, Eff.run_bind]
        cases Eff.run (ext (srv.check_transaction tid)) w with
        | mk r w' =>
          cases r with
          | error e => rfl
          | ok done => cases done <;> rfl
  | fresh tid =>
    unfold ship_next rest open_shipped
    rw [Eff.run_bind, Eff.run_bind]
    cases Eff.run (ext (srv.tid_store.mark_received tid)) w with
    | mk r w' => cases r <;> rfl
  | received tid =>
    unfold ship_next
    show Eff.run (Eff.lift (extract_param_from_frame p tlv (lit "ARFCFNAM")) >>= _) w = _
    cases extract_param_from_frame p tlv (lit "ARFCFNAM") with
    | error e => rfl
    | ok wrapped_fn =>
      rw [Eff.run_bind_ok (Eff.run_lift _ _), Eff.run_bind_ok (Eff.run_lift _ _), Eff.run_bind,
        Eff.run_bind]
      cases Eff.run (ext (srv.lookup_wrapped p wrapped_fn)) w with
      | mk r w' =>
        cases r with
        | error e => rfl
        | ok entry =>
          cases entry with
          | none => rfl
          | some entry =>
            dsimp only
            rw [Eff.run_bind, Eff.run_bind]
            cases Eff.run (note (.selected entry.2.id)) w' with
            | mk r w'' =>
              cases r with
              | error e => rfl
              | ok _ =>
                dsimp only
                cases deserialize_request p tlv entry.1 <;> rfl
  | running tid handler request =>
    show Eff.run (run_shipped srv tid handler request) w = _
    unfold ship_next run_shipped
    rw [Eff.run_bind, Eff.run_bind]
    cases Eff.run (attempt (call_handler handler request)) w with
    | mk r w' =>
      cases r with
      | error e => rfl
      | ok called => cases called <;> rfl
  | completed tid =>
    unfold ship_next
    show Eff.run (note (.marked_executed tid) >>= _) w = _
    rw [Eff.run_bind, Eff.run_bind]
    cases Eff.run (note (.marked_executed tid)) w with
    | mk r w' =>
      cases r with
      | error e => rfl
      | ok _ =>
        dsimp only
        rw [Eff.run_bind, Eff.run_bind]
        cases Eff.run (ext (srv.tid_store.mark_executed tid)) w' with
        | mk r w'' => cases r <;> rfl
  | failed tid message =>
    show Eff.run (rollback_transaction srv tid message) w = _
    unfold ship_next rollback_transaction
    rw [Eff.run_bind, Eff.run_bind]
    cases Eff.run (ext (srv.tid_store.mark_rolled_back tid)) w with
    | mk r w' => cases r <;> rfl
  | executed tid =>
    unfold ship_next
    show Eff.run (callback _ >>= _) w = _
    rw [Eff.run_bind, Eff.run_bind]
    cases Eff.run (callback (srv.on_commit_transaction.map (· tid))) w with
    | mk r w' => cases r <;> rfl
  | rolled_back tid message =>
    unfold ship_next
    show Eff.run (callback _ >>= _) w = _
    rw [Eff.run_bind, Eff.run_bind]
    cases Eff.run (callback (srv.on_rollback_transaction.map (· tid))) w with
    | mk r w' =>
      cases r with
      | error e => rfl
      | ok _ =>
        dsimp only
        cases build_system_failure message <;> rfl
  | answered out => rfl
  | raised exc => rfl

/-- INTERNAL: the next phase has fewer steps left. -/
theorem yields_ship_next {phase : Phase χ V} (h : 0 < phase.left) :
    Eff.Yields (fun next => next.left < phase.left) (ship_next p srv tlv phase) := by
  cases phase with
  | start =>
    refine Eff.Yields.bind fun tid => ?_
    cases tid_fault tid with
    | some message => exact Eff.Yields.bind fun out => Eff.Yields.pure (by simp [Phase.left])
    | none =>
      refine Eff.Yields.bind fun done => Eff.Yields.pure ?_
      cases done <;> simp [Phase.left]
  | fresh tid => exact Eff.Yields.bind fun _ => Eff.Yields.pure (by simp [Phase.left])
  | received tid =>
    refine Eff.Yields.bind fun wrapped_fn => Eff.Yields.bind fun entry => ?_
    cases entry with
    | none => exact Eff.Yields.pure (by simp [Phase.left])
    | some entry =>
      exact Eff.Yields.bind fun _ => Eff.Yields.bind fun request =>
        Eff.Yields.pure (by simp [Phase.left])
  | running tid handler request =>
    refine Eff.Yields.bind fun called => ?_
    cases called with
    | error exc => exact Eff.Yields.pure (by simp [Phase.left])
    | ok called => exact Eff.Yields.pure (by simp [Phase.left])
  | completed tid =>
    exact Eff.Yields.bind fun _ => Eff.Yields.bind fun _ => Eff.Yields.pure (by simp [Phase.left])
  | failed tid message => exact Eff.Yields.bind fun _ => Eff.Yields.pure (by simp [Phase.left])
  | executed tid => exact Eff.Yields.bind fun _ => Eff.Yields.pure (by simp [Phase.left])
  | rolled_back tid message =>
    exact Eff.Yields.bind fun _ => Eff.Yields.bind fun out => Eff.Yields.pure (by simp [Phase.left])
  | answered out => exact absurd h (Nat.lt_irrefl 0)
  | raised exc => exact absurd h (Nat.lt_irrefl 0)

theorem left_advance (phase : Phase χ V) (w : ServerWorld χ) :
    (advance p srv tlv phase w).1.left ≤ phase.left - 1 := by
  by_cases h : 0 < phase.left
  · have hyields : Eff.Yields (fun next => next.left < phase.left) (ship_next p srv tlv phase) :=
      yields_ship_next h
    have hyields := hyields w
    unfold advance
    cases hrun : Eff.run (ship_next p srv tlv phase) w with
    | mk r w' =>
      rw [hrun] at hyields
      cases r with
      | error exc => exact Nat.zero_le _
      | ok next => exact Nat.le_sub_one_of_lt (hyields next rfl)
  · cases phase with
    | answered out => exact Nat.le_refl 0
    | raised exc => exact Nat.le_refl 0
    | _ => exact absurd (by simp [Phase.left]) h

/-- A thread that nobody disturbs runs its dispatch to the end. -/
theorem advance_alone (n : ℕ) (phase : Phase χ V) (w : ServerWorld χ) (h : phase.left ≤ n) :
    (fun s : Phase χ V × ServerWorld χ => advance p srv tlv s.1 s.2)^[n] (phase, w) =
      (lastPhase (Eff.run (rest p srv tlv phase) w).1, (Eff.run (rest p srv tlv phase) w).2) := by
  induction n generalizing phase w with
  | zero =>
    cases phase with
    | answered out => rfl
    | raised exc => rfl
    | _ => simp [Phase.left] at h
  | succ n ih =>
    rw [Function.iterate_succ_apply, run_rest]
    exact ih _ _ ((left_advance phase w).trans (by omega))

/-- Six steps of a thread by itself are `dispatch_transactional`. -/
theorem dispatch_transactional_alone (w : ServerWorld χ) :
    (fun s : Phase χ V × ServerWorld χ => advance p srv tlv s.1 s.2)^[6] (.start, w) =
      (lastPhase (Eff.run (dispatch_transactional p srv tlv) w).1,
        (Eff.run (dispatch_transactional p srv tlv) w).2) :=
  advance_alone 6 .start w (Nat.le_refl 6)

end Interleaved

end SapRfc.Program
