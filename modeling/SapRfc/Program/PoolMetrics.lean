import Mathlib.Data.Finset.Card
import SapRfc.Program.ThreadPool

/-!
# The metrics of the threaded pool

`PoolMetrics` and where `_checkout` counts.  The counters are read and written with the lock of the
pool held, so a critical section of the pool counts what it counts in one step.  The waits, which
are floats, are left out.

The checkouts that were begun, those that raised and the errors of those that timed out are read by
the results only.
-/

set_option autoImplicit false

namespace SapRfc.Program

/-- SOURCE: pool.py:104-111. -/
structure PoolMetrics where
  acquires : ℕ
  timeouts : ℕ
  hits : ℕ
  creates : ℤ
  discards : ℕ
  deriving DecidableEq

/-- SOURCE: exceptions.py:319-339, without the wait and the message. -/
structure PoolTimeoutError where
  discarded : ℕ
  active : ℕ
  idle : ℕ
  max_size : ℕ
  deriving DecidableEq

/-- SOURCE: pool.py:182-197. -/
structure MeteredPool (ι : Type) where
  pool : ConnectionPool ι
  metrics : PoolMetrics
  /-- `discarded` in the checkout of each caller -/
  discarded : ι → ℕ
  /-- the errors of the checkouts that timed out -/
  timed_out : List PoolTimeoutError
  /-- the checkouts that were begun -/
  begun : ℕ
  /-- the checkouts that raised another exception -/
  failed : ℕ

namespace MeteredPool

variable {ι : Type}

/-- SOURCE: pool.py:169-203.  The warm-up counts nothing. -/
def construct (min_size max_size : ℤ) (good : ℕ → Bool) : Bool × MeteredPool ι :=
  ((ConnectionPool.construct min_size max_size good : Bool × ConnectionPool ι).1,
    ⟨(ConnectionPool.construct min_size max_size good).2, ⟨0, 0, 0, 0, 0⟩, fun _ => 0, [], 0, 0⟩)

variable [DecidableEq ι]

/-- SOURCE: pool.py:344-350. -/
def timeout_error (i : ι) (s : MeteredPool ι) : PoolTimeoutError where
  discarded := s.discarded i
  active := s.pool.in_use.card
  idle := s.pool.idle.length
  max_size := s.pool.max_size

/-- SOURCE: pool.py:282-351, from the head of the loop. -/
def loop_head (i : ι) (late : Bool) (s : MeteredPool ι) : MeteredPool ι :=
  let after := { s with pool := s.pool.loop_head i late }
  if s.pool.closed then { after with failed := s.failed + 1 }
  else
    match s.pool.idle with
    | _ :: _ => after
    | [] =>
      if s.pool.created < s.pool.max_size then
        { after with metrics := { s.metrics with creates := s.metrics.creates + 1 } }
      else if late then
        { after with
          metrics := { s.metrics with timeouts := s.metrics.timeouts + 1 }
          timed_out := s.timed_out ++ [s.timeout_error i] }
      else after

section Head

variable {i : ι} {late : Bool} {s : MeteredPool ι}

theorem loop_head_closed (h : s.pool.closed = true) :
    loop_head i late s =
      { s with pool := s.pool.goto i .outside, failed := s.failed + 1 } := by
  unfold loop_head ConnectionPool.loop_head
  rw [if_pos h]
  simp only [if_pos h]

theorem loop_head_idle {candidate : ℕ} {rest : List ℕ} (h : s.pool.closed = false)
    (hidle : s.pool.idle = candidate :: rest) :
    loop_head i late s =
      { s with pool := ConnectionPool.goto i (.pinging candidate) { s.pool with
          idle := rest
          in_use := insert candidate s.pool.in_use } } := by
  unfold loop_head ConnectionPool.loop_head
  simp only [h, hidle, Bool.false_eq_true, if_false]

theorem loop_head_room (h : s.pool.closed = false) (hidle : s.pool.idle = [])
    (hroom : s.pool.created < s.pool.max_size) :
    loop_head i late s =
      { s with
        pool := ConnectionPool.goto i .opening { s.pool with created := s.pool.created + 1 }
        metrics := { s.metrics with creates := s.metrics.creates + 1 } } := by
  unfold loop_head ConnectionPool.loop_head
  simp only [h, hidle, hroom, Bool.false_eq_true, if_false, if_true]

theorem loop_head_late (h : s.pool.closed = false) (hidle : s.pool.idle = [])
    (hroom : ¬ s.pool.created < s.pool.max_size) :
    loop_head i true s =
      { s with
        pool := s.pool.goto i .outside
        metrics := { s.metrics with timeouts := s.metrics.timeouts + 1 }
        timed_out := s.timed_out ++ [s.timeout_error i] } := by
  unfold loop_head ConnectionPool.loop_head
  simp only [h, hidle, hroom, Bool.false_eq_true, if_false, if_true]

theorem loop_head_wait (h : s.pool.closed = false) (hidle : s.pool.idle = [])
    (hroom : ¬ s.pool.created < s.pool.max_size) :
    loop_head i false s =
      { s with pool := ConnectionPool.goto i .waiting { s.pool with
          waiters := s.pool.waiters ++ [i] } } := by
  unfold loop_head ConnectionPool.loop_head
  simp only [h, hidle, hroom, Bool.false_eq_true, if_false]

end Head

/-- SOURCE: pool.py:296-305. -/
def pinged (i : ι) (candidate : ℕ) (healthy : Bool) (s : MeteredPool ι) : MeteredPool ι :=
  let after := { s with pool := s.pool.pinged i candidate healthy }
  if healthy then
    { after with metrics := { s.metrics with
        hits := s.metrics.hits + 1
        acquires := s.metrics.acquires + 1 } }
  else
    { after with
      metrics := { s.metrics with discards := s.metrics.discards + 1 }
      discarded := Function.update s.discarded i (s.discarded i + 1) }

/-- SOURCE: pool.py:308-313. -/
def dead_closed (i : ι) (candidate : ℕ) (late : Bool) (pick : ℕ) (s : MeteredPool ι) :
    MeteredPool ι :=
  loop_head i late
    { s with pool := ConnectionPool.notify pick { s.pool with
        closes := s.pool.closes ++ [candidate] } }

/-- SOURCE: pool.py:320-337. -/
def open_ended (i : ι) (good : Bool) (pick : ℕ) (s : MeteredPool ι) : MeteredPool ι :=
  let after := { s with pool := s.pool.open_ended i good pick }
  if good then { after with metrics := { s.metrics with acquires := s.metrics.acquires + 1 } }
  else
    { after with
      metrics := { s.metrics with creates := s.metrics.creates - 1 }
      failed := s.failed + 1 }

/-- SOURCE: pool.py:267-428.  The caller gets the lock. -/
def resume (i : ι) (good late : Bool) (pick : ℕ) (s : MeteredPool ι) : MeteredPool ι :=
  match s.pool.place i with
  | .entering => loop_head i late s
  | .waiting => loop_head i late
      { s with pool := { s.pool with waiters := s.pool.waiters.erase i } }
  | .notified => loop_head i late s
  | .pinging candidate => pinged i candidate good s
  | .closing_dead candidate => dead_closed i candidate late pick s
  | .opening => open_ended i good pick s
  | _ => { s with pool := s.pool.resume i good late pick }

/-- SOURCE: pool.py:252-428. -/
def step (event : ThreadEvent ι) (s : MeteredPool ι) : MeteredPool ι :=
  match event with
  | .acquire i =>
    if s.pool.place i = .outside then
      { s with
        pool := s.pool.goto i .entering
        discarded := Function.update s.discarded i 0
        begun := s.begun + 1 }
    else s
  | .resume i good late pick => resume i good late pick s
  | event => { s with pool := s.pool.step event }

end MeteredPool

end SapRfc.Program
