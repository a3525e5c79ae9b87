import Mathlib.Data.Finset.Basic
import Mathlib.Data.List.Rotate
import Mathlib.Logic.Function.Basic

/-!
# The threaded pool

`ConnectionPool` and the callers that use it.  The state of the pool is read and written with
its lock held, so a step is one critical section, from the place where a caller gets the lock
to the place where it gives it up.  What a caller does without the lock (a ping, the opening or
the close of a connection) it does at its place, and waits there for the lock.  A thread that
borrows several connections at once is as many callers.
-/

set_option autoImplicit false

namespace SapRfc.Program

/-- Where a caller is without the lock.  Connections are numbered in the order they are opened. -/
inductive Spot where
  /-- in no method of the pool -/
  | outside
  /-- `_checkout`, on entry -/
  | entering
  /-- `_checkout`: in `wait`, not notified -/
  | waiting
  /-- `_checkout`: in `wait`, notified -/
  | notified
  /-- `_checkout`: the ping of an idle connection -/
  | pinging (candidate : ℕ)
  /-- `_checkout`: the close of a dead connection -/
  | closing_dead (candidate : ℕ)
  /-- `_checkout`: `_open` -/
  | opening
  /-- the body of `with pool.acquire()` -/
  | lent (conn : ℕ)
  /-- `release`, on entry -/
  | releasing (conn : ℕ)
  /-- `release`: the close of a connection of a closed pool -/
  | closing_released (conn : ℕ)
  /-- `close`, on entry -/
  | shutting
  /-- `close`: the close of the first of these -/
  | closing_idle (conns : List ℕ)
  deriving DecidableEq

/-- SOURCE: pool.py:182-197, with the places of the callers. -/
structure ConnectionPool (ι : Type) where
  max_size : ℕ
  idle : List ℕ
  in_use : Finset ℕ
  created : ℤ
  closed : Bool
  /-- how many connections `connect` has returned -/
  opened : ℕ
  /-- the connections whose `close` was called, in this order -/
  closes : List ℕ
  /-- the waiters of the condition -/
  waiters : List ι
  place : ι → Spot

/-- What happens next. -/
inductive ThreadEvent (ι : Type) where
  | acquire (i : ι)
  | close (i : ι)
  /-- the body of `with pool.acquire()` ends -/
  | leave (i : ι)
  /-- the caller gets the lock: `good` is what the connection said, `late` that no time remains,
  and `pick` says which waiter a `notify` wakes -/
  | resume (i : ι) (good late : Bool) (pick : ℕ)
  deriving DecidableEq

namespace ConnectionPool

variable {ι : Type}

/-- SOURCE: pool.py:182-197. -/
def empty (max_size : ℕ) : ConnectionPool ι where
  max_size := max_size
  idle := []
  in_use := ∅
  created := 0
  closed := false
  opened := 0
  closes := []
  waiters := []
  place := fun _ => .outside

/-- SOURCE: pool.py:199-203.  The warm-up with this many connections to go, and whether it came
to its end; `good n` says that the connect after `n` connections returns one. -/
def warm_up (good : ℕ → Bool) : ℕ → ConnectionPool ι → Bool × ConnectionPool ι
  | 0, s => (true, s)
  | left + 1, s =>
    if good s.opened then
      warm_up good left { s with
        idle := s.idle ++ [s.opened], created := s.created + 1, opened := s.opened + 1 }
    else (false, s)

/-- SOURCE: pool.py:169-203.  The constructor: whether it returned, and what it left behind. -/
def construct (min_size max_size : ℤ) (good : ℕ → Bool) : Bool × ConnectionPool ι :=
  if min_size < 0 ∨ max_size < 1 ∨ min_size > max_size then (false, empty 0)
  else warm_up good min_size.toNat (empty max_size.toNat)

variable [DecidableEq ι]

/-- The caller goes to its next place. -/
def goto (i : ι) (next : Spot) (s : ConnectionPool ι) : ConnectionPool ι :=
  { s with place := Function.update s.place i next }

/-- `self._cv.notify()`, which wakes one waiter, if there is one. -/
def notify (pick : ℕ) (s : ConnectionPool ι) : ConnectionPool ι :=
  match s.waiters.rotate pick with
  | [] => s
  | j :: rest => goto j .notified { s with waiters := rest }

/-- `self._cv.notify_all()` -/
def notify_all (s : ConnectionPool ι) : ConnectionPool ι :=
  { s with
    waiters := []
    place := fun i => if i ∈ s.waiters then .notified else s.place i }

/-- SOURCE: pool.py:282-351, from the head of the loop.  A candidate that `_is_retired` is not
pinged. -/
def loop_head (i : ι) (late : Bool) (s : ConnectionPool ι) : ConnectionPool ι :=
  if s.closed then goto i .outside s
  else
    match s.idle with
    | candidate :: rest =>
      goto i (.pinging candidate)
        { s with idle := rest, in_use := insert candidate s.in_use }
    | [] =>
      if s.created < s.max_size then goto i .opening { s with created := s.created + 1 }
      else if late then goto i .outside s
      else goto i .waiting { s with waiters := s.waiters ++ [i] }

/-- SOURCE: pool.py:296-305. -/
def pinged (i : ι) (candidate : ℕ) (healthy : Bool) (s : ConnectionPool ι) : ConnectionPool ι :=
  if healthy then goto i (.lent candidate) s
  else
    goto i (.closing_dead candidate)
      { s with in_use := s.in_use.erase candidate, created := s.created - 1 }

/-- SOURCE: pool.py:308-313. -/
def dead_closed (i : ι) (candidate : ℕ) (late : Bool) (pick : ℕ) (s : ConnectionPool ι) :
    ConnectionPool ι :=
  loop_head i late (notify pick { s with closes := s.closes ++ [candidate] })

/-- SOURCE: pool.py:320-337. -/
def open_ended (i : ι) (good : Bool) (pick : ℕ) (s : ConnectionPool ι) : ConnectionPool ι :=
  if good then
    goto i (.lent s.opened)
      { s with in_use := insert s.opened s.in_use, opened := s.opened + 1 }
  else goto i .outside (notify pick { s with created := s.created - 1 })

/-- SOURCE: pool.py:353-369, up to the close. -/
def release (i : ι) (conn : ℕ) (pick : ℕ) (s : ConnectionPool ι) : ConnectionPool ι :=
  if s.closed then
    goto i (.closing_released conn)
      { s with in_use := s.in_use.erase conn, created := s.created - 1 }
  else
    goto i .outside
      (notify pick { s with in_use := s.in_use.erase conn, idle := s.idle ++ [conn] })

/-- What `close` does next with these connections still to close. -/
def closing : List ℕ → Spot
  | [] => .outside
  | conns => .closing_idle conns

/-- SOURCE: pool.py:418-425. -/
def close (i : ι) (s : ConnectionPool ι) : ConnectionPool ι :=
  if s.closed then goto i .outside s
  else
    goto i (closing s.idle)
      (notify_all { s with closed := true, idle := [], created := s.created - s.idle.length })

/-- SOURCE: pool.py:267-428.  The caller gets the lock.  In `wait` this is the deadline. -/
def resume (i : ι) (good late : Bool) (pick : ℕ) (s : ConnectionPool ι) : ConnectionPool ι :=
  match s.place i with
  | .outside => s
  | .entering => loop_head i late s
  | .waiting => loop_head i late { s with waiters := s.waiters.erase i }
  | .notified => loop_head i late s
  | .pinging candidate => pinged i candidate good s
  | .closing_dead candidate => dead_closed i candidate late pick s
  | .opening => open_ended i good pick s
  | .lent _ => s
  | .releasing conn => release i conn pick s
  | .closing_released conn =>
    goto i .outside (notify pick { s with closes := s.closes ++ [conn] })
  | .shutting => close i s
  | .closing_idle conns =>
    goto i (closing conns.tail) { s with closes := s.closes ++ conns.take 1 }

/-- SOURCE: pool.py:252-428. -/
def step (event : ThreadEvent ι) (s : ConnectionPool ι) : ConnectionPool ι :=
  match event with
  | .acquire i => if s.place i = .outside then goto i .entering s else s
  | .close i => if s.place i = .outside then goto i .shutting s else s
  | .leave i =>
    match s.place i with
    | .lent conn => goto i (.releasing conn) s
    | _ => s
  | .resume i good late pick => resume i good late pick s

end ConnectionPool

end SapRfc.Program
