import SapRfc.Library.Runs
import SapRfc.Program.Connection

/-!
# Sending a parked payload again, one await at a time

`retry_parked` as a task of an event loop runs it: a step makes one call of the store or of the
transport, so that the steps of other tasks may come between any two.  The payload is read
before the lock of the connection is taken, and deleted after it is released.  `rest` is what
is left of the method in a phase, and each phase is one step and then the rest of the next
phase.
-/

set_option autoImplicit false

namespace SapRfc.Program

open SapRfc.Library

/-- How far a task has come. -/
inductive RedrivePhase where
  | start
  /-- the payload is read, and the lock is not taken -/
  | waiting (payload : Bytes)
  /-- the lock is taken, and an attempt comes next -/
  | attempting (payload : Bytes) (left : ℕ)
  /-- the request is out -/
  | awaiting (payload : Bytes) (left : ℕ)
  /-- an attempt has failed, and a pause comes next -/
  | pausing (payload : Bytes) (left : ℕ)
  /-- the last attempt has failed -/
  | parking (payload : Bytes) (cause : PyError)
  /-- the request is delivered, and the lock is released -/
  | delivered
  | ended (result : Except PyError Unit)

/-- The task holds the lock of its connection. -/
def RedrivePhase.locks : RedrivePhase → Bool
  | attempting _ _ => true
  | awaiting _ _ => true
  | pausing _ _ => true
  | parking _ _ => true
  | start => false
  | waiting _ => false
  | delivered => false
  | ended _ => false

section ParkedTasks

variable {ω χ V : Type} (k : Client ω χ V) (tid : PyStr)

/-- SOURCE: connection.py:5498-5505, from the reply on. -/
def take_reply : Op ω χ Unit := do
  let response ← wrapTransportError (read_reply k (.frames (lit "retry " ++ tid)))
  Eff.lift (raise_for_rfc_error k.p.u (strip_gw_header response))

/-- What follows an attempt that raised. -/
def after_failure (payload : Bytes) (left : ℕ) (exc : PyError) : Op ω χ RedrivePhase :=
  if exc.kind = .communication then
    match left with
    | 0 => pure (.parking payload exc)
    | left + 1 => pure (.pausing payload left)
  else throw exc

/-- `await asyncio.to_thread(self._tid_store.delete_parked, tid)` -/
def delete_parked : Op ω χ Unit :=
  match k.tid_store with
  | some store => onStore (store.delete_parked tid)
  | none => pure ()

/-- The call of the transport or of the store that a task makes while it holds the lock. -/
def locked_next : RedrivePhase → Op ω χ RedrivePhase
  | .attempting payload left => tryCatch (do
      wrapTransportError (send_request k .submit (.frames (lit "retry " ++ tid)) payload)
      pure (.awaiting payload left)) (after_failure payload left)
  | .awaiting payload left => tryCatch (do
      take_reply k tid
      pure .delivered) (after_failure payload left)
  | .pausing payload left => do
    onWire k.seam.sleep
    pure (.attempting payload left)
  | .parking payload cause => do
    store_park k (.tid tid) payload
    throw (RetryExhausted (.tid tid) cause)
  | phase => pure phase

/-- The lock is released, and the session is marked ready, where the method leaves it. -/
def leave_lock : RedrivePhase → Op ω χ RedrivePhase
  | .delivered => do
    onSession restore_ready
    pure .delivered
  | phase => pure phase

/-- SOURCE: connection.py:5463-5523.  The next step of a task. -/
def redrive_next : RedrivePhase → Op ω χ RedrivePhase
  | .start =>
    match k.tid_store with
    | none => throw (err .transactional (lit "retry_parked: no tid_store configured for " ++ tid))
    | some store => do
      let payload ← onStore (store.get_parked tid)
      match payload with
      | none => throw (err .transactional (lit "no parked call for " ++ tid))
      | some payload => pure (.waiting payload)
  | .waiting payload => do
    onSession (require_state k.p.u [.READY])
    onSession (mark_in_call k.p.u)
    pure (.attempting payload k.max_retries)
  | .delivered => do
    delete_parked k tid
    pure (.ended (.ok ()))
  | .ended result => do
    Eff.lift result
    pure (.ended (.ok ()))
  | phase => do
    let next ← tryCatch (locked_next k tid phase) fun exc => do
      onSession restore_ready
      throw exc
    leave_lock next

/-- A task takes its next step; what leaves the step ends the task. -/
def redrive_advance (phase : RedrivePhase) (c : Conn ω χ) : RedrivePhase × Conn ω χ :=
  match Eff.run (redrive_next k tid phase) c with
  | (.ok next, c') => (next, c')
  | (.error exc, c') => (.ended (.error exc), c')

/-- What the method does after an attempt that raised. -/
def handle_failure (payload : Bytes) (left : ℕ) (exc : PyError) : Op ω χ Unit :=
  match left with
  | 0 =>
    if exc.kind = .communication then do
      store_park k (.tid tid) payload
      throw (RetryExhausted (.tid tid) exc)
    else throw exc
  | left + 1 =>
    if exc.kind = .communication then do
      onWire k.seam.sleep
      submit_with_retry k (.tid tid) payload (do_send k payload (lit "retry " ++ tid)) left
    else throw exc

/-- What is left to do under the lock. -/
def locked_rest : RedrivePhase → Op ω χ Unit
  | .attempting payload left =>
    submit_with_retry k (.tid tid) payload (do_send k payload (lit "retry " ++ tid)) left
  | .awaiting payload left => tryCatch (take_reply k tid) (handle_failure k tid payload left)
  | .pausing payload left => do
    onWire k.seam.sleep
    submit_with_retry k (.tid tid) payload (do_send k payload (lit "retry " ++ tid)) left
  | .parking payload cause => do
    store_park k (.tid tid) payload
    throw (RetryExhausted (.tid tid) cause)
  | _ => pure ()

/-- What is left of the method. -/
def redrive_rest : RedrivePhase → Op ω χ Unit
  | .start => async_retry_parked k tid
  | .waiting payload => do
    async_resend k (.tid tid) payload (lit "retry " ++ tid)
    delete_parked k tid
  | .delivered => delete_parked k tid
  | .ended result => Eff.lift result
  | phase => do
    Eff.andFinally (locked_rest k tid phase) (onSession restore_ready)
    delete_parked k tid

/-! ## The steps of a task make up the method -/

variable {k tid}

theorem submit_with_retry_eq (payload : Bytes) (left : ℕ) :
    submit_with_retry k (.tid tid) payload (do_send k payload (lit "retry " ++ tid)) left =
      tryCatch (do_send k payload (lit "retry " ++ tid)) (handle_failure k tid payload left) := by
  cases left with
  | zero => rfl
  | succ left => rfl

/-- INTERNAL: an attempt is a request and what is made of its reply. -/
theorem run_do_send (payload : Bytes) (c : Conn ω χ) :
    Eff.run (do_send k payload (lit "retry " ++ tid)) c = Eff.run (do
      wrapTransportError (send_request k .submit (.frames (lit "retry " ++ tid)) payload)
      take_reply k tid) c := by
  unfold do_send take_reply exchange
  rw [Eff.run_bind, run_wrapTransportError, Eff.run_bind, Eff.run_bind, run_wrapTransportError]
  cases Eff.run (send_request k .submit (.frames (lit "retry " ++ tid)) payload) c with
  | mk r c' =>
    cases r with
    | error e => rfl
    | ok _ =>
      dsimp only
      rw [Eff.run_bind, run_wrapTransportError]

/-- INTERNAL: what follows a failure is what the method does then. -/
theorem run_after_failure (payload : Bytes) (left : ℕ) (exc : PyError) (c : Conn ω χ) :
    Eff.run (after_failure payload left exc >>= locked_rest k tid) c =
      Eff.run (handle_failure k tid payload left exc) c := by
  unfold after_failure handle_failure
  by_cases hkind : exc.kind = .communication
  · cases left with
    | zero =>
      simp only [if_pos hkind]
      rfl
    | succ left =>
      simp only [if_pos hkind]
      rfl
  · cases left with
    | zero =>
      simp only [if_neg hkind]
      rfl
    | succ left =>
      simp only [if_neg hkind]
      rfl

/-- INTERNAL: a part of an attempt, and what follows it on either way out. -/
theorem run_part {x : Op ω χ Unit} {payload : Bytes} {left : ℕ} {next : RedrivePhase}
    (c : Conn ω χ) :
    Eff.run (tryCatch (do
        x
        pure next) (after_failure payload left) >>= locked_rest k tid) c =
      match Eff.run x c with
      | (.ok _, c') => Eff.run (locked_rest k tid next) c'
      | (.error exc, c') => Eff.run (handle_failure k tid payload left exc) c' := by
  rw [Eff.run_bind, Eff.run_tryCatch, Eff.run_bind]
  cases Eff.run x c with
  | mk r c' =>
    cases r with
    | ok _ => rfl
    | error exc => exact (Eff.run_bind _ _ _).symm.trans (run_after_failure payload left exc c')

/-- One call under the lock, and the rest from there. -/
theorem run_locked_rest {phase : RedrivePhase} (h : phase.locks = true) (c : Conn ω χ) :
    Eff.run (locked_rest k tid phase) c =
      Eff.run (locked_next k tid phase >>= locked_rest k tid) c := by
  cases phase with
  | attempting payload left =>
    unfold locked_next
    rw [run_part]
    show Eff.run (submit_with_retry k (.tid tid) payload _ left) c = _
    rw [submit_with_retry_eq, Eff.run_tryCatch, run_do_send, Eff.run_bind]
    cases Eff.run (wrapTransportError
      (send_request k .submit (.frames (lit "retry " ++ tid)) payload)) c with
    | mk r c' =>
      cases r with
      | error e => rfl
      | ok _ => rfl
  | awaiting payload left =>
    unfold locked_next
    rw [run_part]
    show Eff.run (tryCatch (take_reply k tid) _) c = _
    rw [Eff.run_tryCatch]
    cases Eff.run (take_reply k tid) c with
    | mk r c' => cases r <;> rfl
  | pausing payload left =>
    unfold locked_rest locked_next
    rw [Eff.run_bind, Eff.run_bind, Eff.run_bind]
    cases Eff.run (onWire k.seam.sleep : Op ω χ Unit) c with
    | mk r c' => cases r <;> rfl
  | parking payload cause =>
    unfold locked_rest locked_next
    rw [Eff.run_bind, Eff.run_bind, Eff.run_bind]
    cases Eff.run (store_park k (.tid tid) payload) c with
    | mk r c' => cases r <;> rfl
  | _ => cases h

variable (tid) in
/-- A call under the lock keeps it, or the request is delivered. -/
theorem locked_next_goes_on {phase : RedrivePhase} (h : phase.locks = true) (c : Conn ω χ) :
    ∀ next, (Eff.run (locked_next k tid phase) c).1 = .ok next →
      next.locks = true ∨ next = .delivered := by
  have hfailed : ∀ payload left exc (c : Conn ω χ) next,
      (Eff.run (after_failure payload left exc) c).1 = .ok next → next.locks = true := by
    intro payload left exc c next hnext
    unfold after_failure at hnext
    rw [Eff.run_ite] at hnext
    split at hnext
    · cases left with
      | zero =>
        cases hnext
        rfl
      | succ left =>
        cases hnext
        rfl
    · cases hnext
  have hpart : ∀ (x : Op ω χ Unit) payload left last (c : Conn ω χ) next,
      (Eff.run (tryCatch (do
        x
        pure last) (after_failure payload left)) c).1 = .ok next →
        next.locks = true ∨ next = last := by
    intro x payload left last c next hnext
    rw [Eff.run_tryCatch, Eff.run_bind] at hnext
    cases hx : Eff.run x c with
    | mk r c' =>
      rw [hx] at hnext
      cases r with
      | ok _ =>
        cases hnext
        exact .inr rfl
      | error exc => exact .inl (hfailed _ _ _ _ _ hnext)
  intro next hnext
  cases phase with
  | attempting payload left =>
    rcases hpart _ _ _ _ _ _ hnext with hlocks | rfl
    · exact .inl hlocks
    · exact .inl rfl
  | awaiting payload left => exact hpart _ _ _ _ _ _ hnext
  | pausing payload left =>
    unfold locked_next at hnext
    obtain ⟨_, _, -, hdone⟩ := Eff.run_bind_eq_ok (Prod.ext hnext rfl)
    cases hdone
    exact .inl rfl
  | parking payload cause =>
    unfold locked_next at hnext
    obtain ⟨_, _, -, hdone⟩ := Eff.run_bind_eq_ok (Prod.ext hnext rfl)
    cases hdone
  | _ => cases h

/-- INTERNAL: the next step of a task that holds the lock. -/
theorem redrive_next_locked {phase : RedrivePhase} (h : phase.locks = true) :
    redrive_next k tid phase = (do
      let next ← tryCatch (locked_next k tid phase) fun exc => do
        onSession restore_ready
        throw exc
      leave_lock next) := by
  cases phase with
  | attempting payload left => rfl
  | awaiting payload left => rfl
  | pausing payload left => rfl
  | parking payload cause => rfl
  | _ => cases h

theorem redrive_rest_locked {phase : RedrivePhase} (h : phase.locks = true) :
    redrive_rest k tid phase = (do
      Eff.andFinally (locked_rest k tid phase) (onSession restore_ready)
      delete_parked k tid) := by
  cases phase with
  | attempting payload left => rfl
  | awaiting payload left => rfl
  | pausing payload left => rfl
  | parking payload cause => rfl
  | _ => cases h

/-- One step, and the rest from there, are what was left before. -/
theorem run_redrive_rest (phase : RedrivePhase) (c : Conn ω χ) :
    Eff.run (redrive_rest k tid phase) c =
      Eff.run (redrive_rest k tid (redrive_advance k tid phase c).1)
        (redrive_advance k tid phase c).2 := by
  by_cases hlocks : phase.locks = true
  · rw [redrive_rest_locked hlocks]
    unfold redrive_advance
    rw [redrive_next_locked hlocks, Eff.run_bind, Eff.run_bind, Eff.run_andFinally,
      run_locked_rest hlocks, Eff.run_tryCatch, Eff.run_bind]
    have hnext := locked_next_goes_on (k := k) tid hlocks c
    cases hrun : Eff.run (locked_next k tid phase) c with
    | mk r c' =>
      rw [hrun] at hnext
      cases r with
      | error e => rfl
      | ok next =>
        rcases hnext next rfl with hlocks' | rfl
        · have hleave : leave_lock next = (pure next : Op ω χ RedrivePhase) := by
            cases next with
            | delivered => cases hlocks'
            | _ => rfl
          dsimp only
          rw [hleave, Eff.run_pure, redrive_rest_locked hlocks', Eff.run_bind, Eff.run_andFinally]
        · rfl
  · unfold redrive_advance
    cases phase with
    | start =>
      show Eff.run (async_retry_parked k tid) c = _
      unfold async_retry_parked redrive_next
      cases hstore : k.tid_store with
      | none => rfl
      | some store =>
        dsimp only
        rw [Eff.run_bind, Eff.run_bind]
        cases Eff.run (onStore (store.get_parked tid) : Op ω χ (Option Bytes)) c with
        | mk r c' =>
          cases r with
          | error e => rfl
          | ok payload =>
            cases payload with
            | none => rfl
            | some payload =>
              dsimp only
              rw [Eff.run_pure]
              show _ = Eff.run (do
                async_resend k (.tid tid) payload (lit "retry " ++ tid)
                delete_parked k tid) c'
              unfold delete_parked
              rw [hstore]
    | waiting payload =>
      show Eff.run (async_resend k (.tid tid) payload (lit "retry " ++ tid) >>= _) c = _
      unfold async_resend in_call redrive_next
      simp only [Eff.run_bind]
      cases Eff.run (onSession (require_state k.p.u [.READY]) : Op ω χ Unit) c with
      | mk r c' =>
        cases r with
        | error e => rfl
        | ok _ =>
          dsimp only
          cases Eff.run (onSession (mark_in_call k.p.u) : Op ω χ Unit) c' with
          | mk r c'' => cases r <;> rfl
    | delivered =>
      show Eff.run (delete_parked k tid) c = _
      unfold redrive_next
      rw [Eff.run_bind]
      cases Eff.run (delete_parked k tid) c with
      | mk r c' => cases r <;> rfl
    | ended result =>
      unfold redrive_next
      rw [Eff.run_bind]
      cases result with
      | ok _ => rfl
      | error e => rfl
    | _ => exact absurd rfl hlocks

end ParkedTasks

/-! ## Tasks of one process -/

/-- The tasks, their connections, which of these are locked, and the state of the stores. -/
structure Crew (ι κ ω χ : Type) where
  phase : ι → RedrivePhase
  conns : κ → Conn ω χ
  locked : κ → Bool
  shared : χ

/-- What happens next: a task goes on, or the rest of the process does something. -/
inductive CrewMove (ι κ ω χ : Type) where
  | task (i : ι)
  | outside (conns : κ → Conn ω χ) (shared : χ)

/-- A task has sent the parked request, or has found it delivered. -/
inductive CrewEvent (ι : Type) where
  | sent (i : ι)
  | delivered (i : ι)
  deriving DecidableEq

/-- What a step of a task says. -/
def crew_event {ι : Type} (i : ι) : RedrivePhase → RedrivePhase → Option (CrewEvent ι)
  | .attempting _ _, _ => some (.sent i)
  | .awaiting _ _, .delivered => some (.delivered i)
  | _, _ => none

/-- The lock is not free for a task that waits for it. -/
def held_up (locked : Bool) : RedrivePhase → Bool
  | .waiting _ => locked
  | _ => false

section Crew

variable {ι κ ω χ V : Type} [DecidableEq ι] [DecidableEq κ] (k : κ → Client ω χ V) (conn_of : ι → κ)
  (tid : PyStr)

/-- One move.  A task that waits for a lock that is held does nothing. -/
def crewStep : CrewMove ι κ ω χ → Crew ι κ ω χ → Option (CrewEvent ι) × Crew ι κ ω χ
  | .task i, w =>
    let j := conn_of i
    if held_up (w.locked j) (w.phase i) then (none, w)
    else
      let out := redrive_advance (k j) tid (w.phase i) { w.conns j with user := w.shared }
      (crew_event i (w.phase i) out.1,
        { phase := Function.update w.phase i out.1
          conns := Function.update w.conns j out.2
          locked := Function.update w.locked j
            (out.1.locks || (w.locked j && !(w.phase i).locks))
          shared := out.2.user })
  | .outside conns shared, w =>
    (none, { w with
      conns := conns
      shared := shared })

/-- No task has begun. -/
def Crew.initial (conns : κ → Conn ω χ) (shared : χ) : Crew ι κ ω χ :=
  ⟨fun _ => .start, conns, fun _ => false, shared⟩

end Crew

end SapRfc.Program
