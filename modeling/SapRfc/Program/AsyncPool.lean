import Mathlib.Data.Finset.Basic
import Mathlib.Logic.Function.Basic

/-!
# The asyncio pool

`AsyncConnectionPool` and the tasks that use it.  A task is at one of its awaits, and a step
takes one task from its await to the next: what a task does in between is not interrupted,
and a block under the condition's lock awaits nothing but `wait`, which gives the lock back.
Every await is a place of its own, that for the lock included, and `CancelledError` can be
raised at each of them.
-/

set_option autoImplicit false

namespace SapRfc.Program

/-- The await a task is at.  Connections are numbered in the order they are opened. -/
inductive Place where
  /-- in no method of the pool -/
  | outside
  /-- `_checkout`: the lock at the head of the loop; `woken` behind a `wait` that was notified -/
  | entering (woken : Bool)
  /-- `_checkout`: in `wait`, not notified -/
  | waiting
  /-- `_checkout`: in `wait`, notified -/
  | notified
  /-- `_checkout`: the ping of an idle connection -/
  | pinging (candidate : ℕ)
  /-- `_checkout`: the lock, to discard a dead connection -/
  | discarding (candidate : ℕ)
  /-- `_checkout`: the close of a dead connection -/
  | closing_dead (candidate : ℕ)
  /-- `_checkout`: `_open` -/
  | opening
  /-- `_checkout`: the lock, to undo the reservation -/
  | undoing
  /-- `_checkout`: the lock, to lend a new connection -/
  | keeping (fresh : ℕ)
  /-- the body of `async with pool.acquire()` -/
  | lent (conn : ℕ)
  /-- `release`: the lock -/
  | releasing (conn : ℕ)
  /-- `release`: the close of a connection of a closed pool -/
  | closing_released (conn : ℕ)
  /-- `acquire`: the lock, to raise `PoolTimeoutError` -/
  | timed_out
  /-- `close`: the lock -/
  | shutting
  /-- `close`: the close of the first of these -/
  | closing_idle (conns : List ℕ)
  /-- `start`: `_open`, with this many connections still to open behind it -/
  | starting (left : ℕ)
  /-- `start`: the lock, to add a new connection -/
  | adding (conn left : ℕ)
  deriving DecidableEq

/-- SOURCE: pool.py:476-493, with the awaits of the tasks. -/
structure AsyncConnectionPool (ι : Type) where
  max_size : ℕ
  min_size : ℕ
  idle : List ℕ
  in_use : Finset ℕ
  created : ℤ
  closed : Bool
  /-- how many connections `connect_async` has returned -/
  opened : ℕ
  /-- the futures of the condition that are not done, the oldest first -/
  waiters : List ι
  place : ι → Place

/-- What happens next. -/
inductive PoolEvent (ι : Type) where
  | start (i : ι)
  | acquire (i : ι)
  | close (i : ι)
  /-- the body of `async with pool.acquire()` ends -/
  | leave (i : ι)
  /-- the await of the task returns; `good` is what the connection says, where it is asked -/
  | resume (i : ι) (good : Bool)
  /-- `CancelledError` is raised at the await of the task -/
  | cancel (i : ι)
  /-- the time of `wait_for` is over -/
  | deadline (i : ι)
  deriving DecidableEq

/-- `_checkout` has not returned. -/
def Place.checking_out : Place → Bool
  | .entering _ | .waiting | .notified | .pinging _ | .discarding _ | .closing_dead _ => true
  | .opening | .undoing | .keeping _ => true
  | _ => false

namespace AsyncConnectionPool

variable {ι : Type} [DecidableEq ι]

/-- SOURCE: pool.py:476-493. -/
def new (min_size max_size : ℕ) : AsyncConnectionPool ι where
  max_size := max_size
  min_size := min_size
  idle := []
  in_use := ∅
  created := 0
  closed := false
  opened := 0
  waiters := []
  place := fun _ => .outside

/-- The task goes to its next await. -/
def goto (i : ι) (next : Place) (s : AsyncConnectionPool ι) : AsyncConnectionPool ι :=
  { s with place := Function.update s.place i next }

/-- `self._cond.notify()` -/
def notify (s : AsyncConnectionPool ι) : AsyncConnectionPool ι :=
  match s.waiters with
  | [] => s
  | j :: rest => goto j .notified { s with waiters := rest }

/-- `self._cond.notify_all()` -/
def notify_all (s : AsyncConnectionPool ι) : AsyncConnectionPool ι :=
  { s with
    waiters := []
    place := fun i => if i ∈ s.waiters then .notified else s.place i }

/-- SOURCE: pool.py:612-637.  A candidate that `_is_retired` is not pinged. -/
def checkout_entered (i : ι) (good : Bool) (s : AsyncConnectionPool ι) : AsyncConnectionPool ι :=
  if s.closed then goto i .outside s
  else
    match s.idle with
    | candidate :: rest =>
      goto i (if good then .pinging candidate else .discarding candidate)
        { s with idle := rest, in_use := insert candidate s.in_use }
    | [] =>
      if s.created < s.max_size then goto i .opening { s with created := s.created + 1 }
      else goto i .waiting { s with waiters := s.waiters ++ [i] }

/-- SOURCE: pool.py:639-645. -/
def discard_candidate (i : ι) (candidate : ℕ) (s : AsyncConnectionPool ι) : AsyncConnectionPool ι :=
  goto i (.closing_dead candidate)
    (notify { s with in_use := s.in_use.erase candidate, created := s.created - 1 })

/-- SOURCE: pool.py:651-658.  A `TimeoutError` of `_open` is taken for the deadline. -/
def undo (i : ι) (timeout_error : Bool) (s : AsyncConnectionPool ι) : AsyncConnectionPool ι :=
  goto i (if timeout_error then .timed_out else .outside)
    (notify { s with created := s.created - 1 })

/-- SOURCE: pool.py:659-661. -/
def keep (i : ι) (fresh : ℕ) (s : AsyncConnectionPool ι) : AsyncConnectionPool ι :=
  goto i (.lent fresh) { s with in_use := insert fresh s.in_use }

/-- SOURCE: pool.py:663-681. -/
def release (i : ι) (conn : ℕ) (s : AsyncConnectionPool ι) : AsyncConnectionPool ι :=
  if s.closed then
    goto i (.closing_released conn)
      (notify { s with in_use := s.in_use.erase conn, created := s.created - 1 })
  else
    goto i .outside
      (notify { s with in_use := s.in_use.erase conn, idle := s.idle ++ [conn] })

/-- What `close` awaits with these connections still to close. -/
def closing : List ℕ → Place
  | [] => .outside
  | conns => .closing_idle conns

/-- SOURCE: pool.py:724-740. -/
def close (i : ι) (s : AsyncConnectionPool ι) : AsyncConnectionPool ι :=
  if s.closed then goto i .outside s
  else
    goto i (closing s.idle)
      (notify_all { s with closed := true, idle := [], created := s.created - s.idle.length })

/-- What `start` awaits with this many connections still to open. -/
def starting : ℕ → Place
  | 0 => .outside
  | left + 1 => .starting left

/-- SOURCE: pool.py:506-511. -/
def add (i : ι) (conn left : ℕ) (s : AsyncConnectionPool ι) : AsyncConnectionPool ι :=
  goto i (starting left)
    (notify { s with idle := s.idle ++ [conn], created := s.created + 1 })

/-- `_open` has returned a connection. -/
def connected (i : ι) (next : ℕ → Place) (s : AsyncConnectionPool ι) : AsyncConnectionPool ι :=
  goto i (next s.opened) { s with opened := s.opened + 1 }

/-- SOURCE: pool.py:566-681.  The await of the task returns. -/
def resume (i : ι) (good : Bool) (s : AsyncConnectionPool ι) : AsyncConnectionPool ι :=
  match s.place i with
  | .outside => s
  | .entering _ => checkout_entered i good s
  | .waiting => s
  | .notified => goto i (.entering true) s
  | .pinging candidate => goto i (if good then .lent candidate else .discarding candidate) s
  | .discarding candidate => discard_candidate i candidate s
  | .closing_dead _ => goto i (.entering false) s
  | .opening => if good then connected i .keeping s else goto i .undoing s
  | .undoing => undo i (!good) s
  | .keeping fresh => keep i fresh s
  | .lent _ => s
  | .releasing conn => release i conn s
  | .closing_released _ => goto i .outside s
  | .timed_out => goto i .outside s
  | .shutting => close i s
  | .closing_idle conns => goto i (closing conns.tail) s
  | .starting left => if good then connected i (.adding · left) s else goto i .outside s
  | .adding conn left => add i conn left s

/-- SOURCE: pool.py:594-597.  The body of `async with pool.acquire()` ends. -/
def body_ended (i : ι) (s : AsyncConnectionPool ι) : AsyncConnectionPool ι :=
  match s.place i with
  | .lent conn => goto i (.releasing conn) s
  | _ => s

/-- `CancelledError` in `wait`: the future is dropped, and `hands_on` says that the condition
then notifies another task. -/
def leave_wait (hands_on : Bool) (i : ι) (next : Place) (s : AsyncConnectionPool ι) :
    AsyncConnectionPool ι :=
  let left := goto i next { s with waiters := s.waiters.filter (· ≠ i) }
  if hands_on then notify left else left

/-- `CancelledError` at the await of the task, which leaves the method for `next`.  In the body
of `async with` the connection is released. -/
def strike (hands_on : Bool) (i : ι) (next : Place) (s : AsyncConnectionPool ι) :
    AsyncConnectionPool ι :=
  match s.place i with
  | .outside => s
  | .waiting | .notified => leave_wait hands_on i next s
  | .lent _ => body_ended i s
  | _ => goto i next s

/-- SOURCE: pool.py:499-740. -/
def step (hands_on : Bool) (event : PoolEvent ι) (s : AsyncConnectionPool ι) :
    AsyncConnectionPool ι :=
  match event with
  | .start i => if s.place i = .outside then goto i (starting s.min_size) s else s
  | .acquire i => if s.place i = .outside then goto i (.entering false) s else s
  | .close i => if s.place i = .outside then goto i .shutting s else s
  | .leave i => body_ended i s
  | .resume i good => resume i good s
  | .cancel i => strike hands_on i .outside s
  | .deadline i => if (s.place i).checking_out then strike hands_on i .timed_out s else s

end AsyncConnectionPool

end SapRfc.Program
