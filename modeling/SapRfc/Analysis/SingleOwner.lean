import SapRfc.Analysis.PoolBounds
import SapRfc.Analysis.ThreadSlots

/-!
# Releases that nobody owes

`release` takes every connection that it is given.  A caller that has released a connection
may call it again with the same one, and any caller may call it with a connection that is not
lent.  The open pool then has the connection idle once more, and lends it to two callers, and
the closed pool counts a slot that it does not have.
-/

set_option autoImplicit false

namespace SapRfc.Analysis.SingleOwner

open SapRfc.Library SapRfc.Program

variable {ι ε σ : Type}

/-! ## Pools whose callers release again -/

/-- A pool with events `ε` and states `σ`. -/
structure Lender (ι ε σ : Type) where
  step : ε → σ → σ
  /-- the caller is in no method of the pool and has no connection -/
  away : σ → ι → Bool
  /-- the release that the step carries out -/
  released : ε → σ → Option (ι × ℕ)
  /-- `release` by this caller of this connection, and the waiter that is notified -/
  release : ι → ℕ → ℕ → σ → σ
  idle : σ → List ℕ
  in_use : σ → Finset ℕ
  created : σ → ℤ
  /-- the connection that the caller has -/
  owned : σ → ι → Option ℕ

/-- What happens next: an event of the pool, or one more release. -/
inductive Extra (ι ε : Type) where
  | own (event : ε)
  | again (i : ι) (conn pick : ℕ)
  deriving DecidableEq

/-- The pool, and what each caller has released so far. -/
structure Used (ι σ : Type) where
  pool : σ
  given : ι → Finset ℕ

namespace Lender

variable [DecidableEq ι] (p : Lender ι ε σ)

/-- The caller has released the connection already, or the pool does not lend it out. -/
def Stray (u : Used ι σ) (i : ι) (conn : ℕ) : Prop :=
  p.away u.pool i = true ∧ (conn ∈ u.given i ∨ conn ∉ p.in_use u.pool)

instance (u : Used ι σ) (i : ι) (conn : ℕ) : Decidable (p.Stray u i conn) :=
  inferInstanceAs (Decidable (_ ∧ (_ ∨ _)))

/-- What the step gives back is noted. -/
def noted (event : ε) (u : Used ι σ) : ι → Finset ℕ :=
  match p.released event u.pool with
  | some (i, conn) => Function.update u.given i (insert conn (u.given i))
  | none => u.given

def next (event : Extra ι ε) (u : Used ι σ) : Used ι σ :=
  match event with
  | .own event => { pool := p.step event u.pool, given := p.noted event u }
  | .again i conn pick =>
    if p.Stray u i conn then { u with pool := p.release i conn pick u.pool } else u

/-- The events, one behind the other, on a pool that nobody has used. -/
abbrev useTrace (events : List (Extra ι ε)) (s : σ) : List (Step (Used ι σ) (Extra ι ε) Unit) :=
  Run.trace (fun event u => ((), p.next event u)) events { pool := s, given := fun _ => ∅ }

/-- A release of a connection that the caller does not have. -/
def IsStray (x : Step (Used ι σ) (Extra ι ε) Unit) : Prop :=
  match x.input with
  | .own _ => False
  | .again i conn _ => p.Stray x.before i conn

/-- The pool has what it had. -/
def Unchanged (s s' : σ) : Prop :=
  p.idle s' = p.idle s ∧ p.in_use s' = p.in_use s ∧ p.created s' = p.created s

/-- No connection has two owners, and each that the pool has is counted. -/
structure Sole (s : σ) : Prop where
  one_owner : ∀ i j c, p.owned s i = some c → p.owned s j = some c → i = j
  counted : (p.idle s).length + (p.in_use s).card ≤ p.created s

/-- Releases that nobody owes leave the pool as it is, and every connection has one owner. -/
structure Kept (events : List (Extra ι ε)) (s : σ) : Prop where
  unchanged : ∀ x ∈ p.useTrace events s, p.IsStray x → p.Unchanged x.before.pool x.after.pool
  sole : ∀ x ∈ p.useTrace events s, p.Sole x.after.pool

variable {p}

/-- A pool that every such release changes, and that is sound without one. -/
theorem kept_iff {I : σ → Prop} {s : σ} (init : I s)
    (keeps : ∀ s event, I s → I (p.step event s)) (sole : ∀ s, I s → p.Sole s)
    (changes : ∀ s i conn pick, ¬ p.Unchanged s (p.release i conn pick s))
    (events : List (Extra ι ε)) :
    p.Kept events s ↔ ∀ x ∈ p.useTrace events s, ¬ p.IsStray x := by
  constructor
  · intro h x hx hstray
    have hsame := h.unchanged x hx hstray
    have hstep := congrArg Step.after (Run.eq_stepOf_of_mem hx)
    unfold IsStray at hstray
    cases hinput : x.input with
    | own event =>
      rw [hinput] at hstray
      exact hstray
    | again i conn pick =>
      rw [hinput] at hstray
      have hafter : x.after.pool = p.release i conn pick x.before.pool := by
        rw [hstep, hinput]
        show (if p.Stray x.before i conn then _ else _ : Used ι σ).pool = _
        rw [if_pos hstray]
      rw [hafter] at hsame
      exact changes _ i conn pick hsame
  · intro h
    refine ⟨fun x hx hstray => absurd hstray (h x hx), fun x hx => ?_⟩
    obtain ⟨k, hk⟩ := List.mem_iff_getElem?.mp hx
    have hstep : ∀ (_ : List (Step (Used ι σ) (Extra ι ε) Unit)) (u : Used ι σ)
        (event : Extra ι ε), I u.pool →
          ¬ p.IsStray (Run.stepOf (fun event u => ((), p.next event u)) event u) →
            I (p.next event u).pool := by
      intro _ u event hI hnot
      cases event with
      | own event => exact keeps u.pool event hI
      | again i conn pick =>
        have hnot : ¬ p.Stray u i conn := hnot
        show I (if p.Stray u i conn then _ else _ : Used ι σ).pool
        rw [if_neg hnot]
        exact hI
    exact sole _ (Run.trace_invariant (I := fun _ u => I u.pool)
      (P := fun x => ¬ p.IsStray x) hstep init h hk).2

end Lender

/-! ## The two pools -/

section Pools

variable [DecidableEq ι]

/-- SOURCE: pool.py:353-369. -/
def threads : Lender ι (ThreadEvent ι) (ConnectionPool ι) where
  step := ConnectionPool.step
  away := fun s i => s.place i = .outside
  released := fun event s =>
    match event with
    | .resume i _ _ _ =>
      match s.place i with
      | .releasing conn => some (i, conn)
      | _ => none
    | _ => none
  release := ConnectionPool.release
  idle := ConnectionPool.idle
  in_use := ConnectionPool.in_use
  created := ConnectionPool.created
  owned := fun s i => ThreadSlots.owned (s.place i)

/-- The connection that a task at this await has. -/
def owned : Place → Option ℕ
  | .pinging candidate => some candidate
  | .discarding candidate => some candidate
  | .lent conn => some conn
  | .releasing conn => some conn
  | _ => none

/-- SOURCE: pool.py:663-681. -/
def tasks (hands_on : Bool) : Lender ι (PoolEvent ι) (AsyncConnectionPool ι) where
  step := AsyncConnectionPool.step hands_on
  away := fun s i => s.place i = .outside
  released := fun event s =>
    match event with
    | .resume i _ =>
      match s.place i with
      | .releasing conn => some (i, conn)
      | _ => none
    | _ => none
  release := fun i conn _ s => AsyncConnectionPool.release i conn s
  idle := AsyncConnectionPool.idle
  in_use := AsyncConnectionPool.in_use
  created := AsyncConnectionPool.created
  owned := fun s i => owned (s.place i)

theorem threads_changes (s : ConnectionPool ι) (i : ι) (conn pick : ℕ) :
    ¬ threads.Unchanged s (threads.release i conn pick s) := by
  rintro ⟨hidle, _, hcreated⟩
  change (ConnectionPool.release i conn pick s).idle = s.idle at hidle
  change (ConnectionPool.release i conn pick s).created = s.created at hcreated
  unfold ConnectionPool.release at hidle hcreated
  by_cases hclosed : s.closed = true
  · rw [if_pos hclosed] at hcreated
    change s.created - 1 = s.created at hcreated
    omega
  · rw [if_neg hclosed] at hidle
    change (ConnectionPool.notify pick _).idle = s.idle at hidle
    have hlength := congrArg List.length hidle
    simp at hlength

theorem tasks_changes (hands_on : Bool) (s : AsyncConnectionPool ι) (i : ι) (conn pick : ℕ) :
    ¬ (tasks hands_on).Unchanged s ((tasks hands_on).release i conn pick s) := by
  rintro ⟨hidle, _, hcreated⟩
  change (AsyncConnectionPool.release i conn s).idle = s.idle at hidle
  change (AsyncConnectionPool.release i conn s).created = s.created at hcreated
  have hnotify : ∀ s : AsyncConnectionPool ι, (AsyncConnectionPool.notify s).idle = s.idle ∧
      (AsyncConnectionPool.notify s).created = s.created := by
    intro s
    unfold AsyncConnectionPool.notify
    cases s.waiters <;> exact ⟨rfl, rfl⟩
  unfold AsyncConnectionPool.release at hidle hcreated
  by_cases hclosed : s.closed = true
  · rw [if_pos hclosed] at hcreated
    change (AsyncConnectionPool.notify _).created = s.created at hcreated
    rw [(hnotify _).2] at hcreated
    change s.created - 1 = s.created at hcreated
    omega
  · rw [if_neg hclosed] at hidle
    change (AsyncConnectionPool.notify _).idle = s.idle at hidle
    rw [(hnotify _).1] at hidle
    have hlength := congrArg List.length hidle
    simp at hlength

variable [Fintype ι]

theorem threads_sole {s : ConnectionPool ι} (h : ThreadSlots.InOrder s) : threads.Sole s := by
  constructor
  · intro i j c hi hj
    exact h.sound.one_owner (ThreadSlots.owned_eq_some.mp hi) (ThreadSlots.owned_eq_some.mp hj)
  · have hall := h.sound.created_eq
    change s.created = _ at hall
    show (s.idle.length + s.in_use.card : ℤ) ≤ s.created
    rw [hall]
    show (s.idle.length + s.in_use.card : ℤ) ≤ (s.idle.length + s.in_use.card + _ : ℕ)
    omega

theorem owned_lent {q : Place} {c : ℕ} (h : owned q = some c) : PoolSlots.grip q = .lent c := by
  cases q <;> simp_all [owned, PoolSlots.grip]

theorem tasks_sole (hands_on : Bool) {s : AsyncConnectionPool ι} (h : PoolBounds.Settled s) :
    (tasks hands_on).Sole s := by
  constructor
  · intro i j c hi hj
    exact h.covered.one_owner (owned_lent hi) (owned_lent hj)
  · have hall := h.covered.owned_le
    change (s.idle.length + s.in_use.card + _ : ℕ) ≤ s.created at hall
    show (s.idle.length + s.in_use.card : ℤ) ≤ s.created
    omega

/-- SOURCE: pool.py:353-369 and pool.py:663-681.  In a run of either pool, every connection has
one owner and extra releases change nothing, exactly when nobody makes one. -/
theorem kept_iff_no_stray_release :
    (∀ (min_size max_size : ℤ) (good : ℕ → Bool) (events : List (Extra ι (ThreadEvent ι))),
      (ConnectionPool.construct min_size max_size good : Bool × ConnectionPool ι).1 = true →
        (threads.Kept events (ConnectionPool.construct min_size max_size good).2 ↔
          ∀ x ∈ threads.useTrace events (ConnectionPool.construct min_size max_size good).2,
            ¬ threads.IsStray x)) ∧
      ∀ (hands_on : Bool) (min_size max_size : ℕ) (events : List (Extra ι (PoolEvent ι))),
        (tasks hands_on).Kept events (AsyncConnectionPool.new min_size max_size) ↔
          ∀ x ∈ (tasks hands_on).useTrace events (AsyncConnectionPool.new min_size max_size),
            ¬ (tasks hands_on).IsStray x := by
  constructor
  · intro min_size max_size good events constructed
    exact Lender.kept_iff (I := ThreadSlots.InOrder)
      (ThreadSlots.inOrder_reached constructed []) (fun _ event h => h.step event)
      (fun _ => threads_sole) threads_changes events
  · intro hands_on min_size max_size events
    exact Lender.kept_iff (I := PoolBounds.Settled) (PoolBounds.settled_new min_size max_size)
      (fun _ _ h => h.step) (fun _ => tasks_sole hands_on) (tasks_changes hands_on) events

end Pools

/-! ## Two callers -/

/-- The pool after the events. -/
def Lender.after [DecidableEq ι] (p : Lender ι ε σ) (events : List (Extra ι ε)) (s : σ) : σ :=
  (events.foldl (fun u event => p.next event u) { pool := s, given := fun _ => ∅ }).pool

/-- A caller borrows a connection and gives it back. -/
def borrowOnce : List (Extra Bool (ThreadEvent Bool)) :=
  [.own (.acquire true), .own (.resume true true false 0), .own (.resume true true false 0),
    .own (.leave true), .own (.resume true true false 0)]

theorem kept_borrowOnce :
    threads.Kept borrowOnce (ConnectionPool.construct 1 2 (fun _ => true)).2 := by
  refine (kept_iff_no_stray_release.1 1 2 (fun _ => true) borrowOnce (by decide)).mpr ?_
  intro x hx
  have hown : (threads.useTrace borrowOnce
      (ConnectionPool.construct 1 2 (fun _ => true)).2).all (fun x =>
        match x.input with
        | .own _ => true
        | .again _ _ _ => false) = true := by
    decide +kernel
  have hone := List.all_eq_true.mp hown x hx
  unfold Lender.IsStray
  cases hinput : x.input with
  | own event => exact id
  | again i conn pick =>
    rw [hinput] at hone
    cases hone

/-- The caller gives it back twice, and then both callers acquire. -/
def releasedTwice : List (Extra Bool (ThreadEvent Bool)) :=
  borrowOnce ++ [.again true 0 0,
    .own (.acquire true), .own (.resume true true false 0), .own (.resume true true false 0),
    .own (.acquire false), .own (.resume false true false 0), .own (.resume false true false 0)]

/-- A task gives its connection back, the pool is closed, and the task gives it back again. -/
def releasedAfterClose : List (Extra Bool (PoolEvent Bool)) :=
  [.own (.acquire true), .own (.resume true true), .own (.resume true true),
    .own (.resume true true), .own (.leave true), .own (.resume true true), .own (.close false),
    .own (.resume false true), .own (.resume false true), .again true 0 0]

/-- Both callers have the one connection, and the closed pool counts one less than none. -/
theorem second_release_breaks_the_pool :
    (threads.after releasedTwice (ConnectionPool.construct 1 2 (fun _ => true)).2).place true =
        .lent 0 ∧
      (threads.after releasedTwice (ConnectionPool.construct 1 2 (fun _ => true)).2).place false =
        .lent 0 ∧
      ¬ threads.Kept releasedTwice (ConnectionPool.construct 1 2 (fun _ => true)).2 ∧
      ((tasks false).after releasedAfterClose (AsyncConnectionPool.new 0 1)).created = -1 := by
  refine ⟨by decide +kernel, by decide +kernel, fun h => ?_, by decide +kernel⟩
  have hlast := h.sole _ (List.getElem_mem (show 11 < (threads.useTrace releasedTwice
    (ConnectionPool.construct 1 2 (fun _ => true)).2).length by decide +kernel))
  have hsame := hlast.one_owner true false 0 (by decide +kernel) (by decide +kernel)
  cases hsame

end SapRfc.Analysis.SingleOwner
