import SapRfc.Library.Runs
import SapRfc.Library.Slots
import SapRfc.Program.AsyncPool

/-!
# The slots of the asyncio pool

What each step of a task does to the books of the pool and to the queue of the condition.  A
`CancelledError` that strikes a task with a slot in its hand, or with a notification that
nobody else gets, loses it for good.  In a run without such a strike the books balance, a
notified task is on its way to every resource that a waiting one could have, and once the
tasks have left the pool it can lend `max_size` connections again.
-/

set_option autoImplicit false

namespace SapRfc.Analysis.PoolSlots

open SapRfc.Library SapRfc.Program SapRfc.Program.AsyncConnectionPool

variable {ι : Type}

/-! ## Books -/

/-- What a task at this await has in its hand. -/
def grip : Place → Grip ℕ
  | .pinging candidate => .lent candidate
  | .discarding candidate => .lent candidate
  | .opening => .reserved
  | .undoing => .reserved
  | .keeping fresh => .fresh fresh
  | .lent conn => .lent conn
  | .releasing conn => .lent conn
  | .adding conn _ => .extra conn
  | _ => .nothing

def ledger (s : AsyncConnectionPool ι) : Ledger ι ℕ where
  idle := s.idle
  in_use := s.in_use
  created := s.created
  known := { c | c < s.opened }
  grip := fun i => grip (s.place i)

/-- INTERNAL: a new connection has the next number. -/
theorem known_connected (s : AsyncConnectionPool ι) :
    { c | c < s.opened + 1 } = insert s.opened { c | c < s.opened } := by
  ext c
  simp only [Set.mem_ofPred_eq, Set.mem_insert_iff]
  omega

section Moves

variable [DecidableEq ι] {s : AsyncConnectionPool ι}

theorem ledger_goto (i : ι) (next : Place) (s : AsyncConnectionPool ι) :
    ledger (goto i next s) =
      { ledger s with grip := Function.update (ledger s).grip i (grip next) } := by
  have hgrip : (fun j => grip ((goto i next s).place j)) =
      Function.update (fun j => grip (s.place j)) i (grip next) := by
    funext j
    exact Function.apply_update (fun _ => grip) s.place i next j
  unfold ledger
  rw [hgrip]
  rfl

/-- A step that leaves the hand as it is. -/
theorem ledger_goto_same {i : ι} {next : Place} (h : grip next = grip (s.place i)) :
    ledger (goto i next s) = ledger s := by
  rw [ledger_goto, h]
  show { ledger s with grip := Function.update (ledger s).grip i ((ledger s).grip i) } = ledger s
  rw [Function.update_eq_self]

/-- A notification is not in the books. -/
theorem ledger_notify (h : ∀ j ∈ s.waiters, s.place j = .waiting) :
    ledger (notify s) = ledger s := by
  unfold notify
  cases hw : s.waiters with
  | nil => rfl
  | cons j rest =>
    have hj : s.place j = .waiting := h j (by rw [hw]; exact List.mem_cons_self)
    exact ledger_goto_same (s := { s with waiters := rest }) (by simp [hj, grip])

theorem ledger_connected (i : ι) (next : ℕ → Place) (s : AsyncConnectionPool ι) :
    ledger (connected i next s) =
      { ledger s with
        known := insert s.opened (ledger s).known
        grip := Function.update (ledger s).grip i (grip (next s.opened)) } := by
  rw [connected, ledger_goto]
  simp only [ledger, known_connected]

theorem ledger_notify_all (h : ∀ j ∈ s.waiters, s.place j = .waiting) :
    ledger (notify_all s) = ledger s := by
  have hgrip : (fun j => grip ((notify_all s).place j)) = fun j => grip (s.place j) := by
    funext j
    show grip (if j ∈ s.waiters then .notified else s.place j) = _
    by_cases hj : j ∈ s.waiters
    · rw [if_pos hj, h j hj]
      rfl
    · rw [if_neg hj]
  unfold ledger
  rw [hgrip]
  rfl

theorem moves_checkout_entered {i : ι} (good : Bool) (hfree : grip (s.place i) = .nothing) :
    (ledger s).Moves (ledger (checkout_entered i good s)) := by
  unfold checkout_entered
  by_cases hclosed : s.closed = true
  · rw [if_pos hclosed]
    exact .stay (ledger_goto_same (by rw [hfree]; rfl))
  · rw [if_neg hclosed]
    cases hidle : s.idle with
    | cons candidate rest =>
      refine .take (i := i) (c := candidate) hidle hfree ?_
      have hgrip : grip (if good then .pinging candidate else .discarding candidate) =
          .lent candidate := by
        cases good <;> rfl
      simp only [ledger_goto, hgrip]
      rfl
    | nil =>
      by_cases hroom : s.created < s.max_size
      · simp only [if_pos hroom]
        refine .reserve (i := i) hfree ?_
        rw [ledger_goto]
        simp only [ledger, hidle]
        rfl
      · simp only [if_neg hroom]
        refine .stay ?_
        rw [ledger_goto_same (by rw [hfree]; rfl)]
        simp only [ledger, hidle]

variable (hqueue : ∀ j ∈ s.waiters, s.place j = .waiting)

include hqueue in
theorem moves_discard {i : ι} {candidate : ℕ} (hi : grip (s.place i) = .lent candidate) :
    (ledger s).Moves (ledger (discard_candidate i candidate s)) := by
  refine .drop (i := i) (c := candidate) hi ?_
  unfold discard_candidate
  rw [ledger_goto, ledger_notify]
  · rfl
  · exact hqueue

include hqueue in
theorem moves_undo {i : ι} (timeout_error : Bool) (hi : grip (s.place i) = .reserved) :
    (ledger s).Moves (ledger (undo i timeout_error s)) := by
  refine .undo (i := i) hi ?_
  have hgrip : grip (if timeout_error then .timed_out else .outside) = .nothing := by
    cases timeout_error <;> rfl
  unfold undo
  rw [ledger_goto, ledger_notify, hgrip]
  · rfl
  · exact hqueue

theorem moves_keep {i : ι} {fresh : ℕ} (hi : grip (s.place i) = .fresh fresh) :
    (ledger s).Moves (ledger (keep i fresh s)) :=
  .lend (i := i) (c := fresh) hi (ledger_goto _ _ _)

include hqueue in
theorem moves_release {i : ι} {conn : ℕ} (hi : grip (s.place i) = .lent conn) :
    (ledger s).Moves (ledger (release i conn s)) := by
  unfold release
  by_cases hclosed : s.closed = true
  · rw [if_pos hclosed]
    refine .drop (i := i) (c := conn) hi ?_
    rw [ledger_goto, ledger_notify]
    · rfl
    · exact hqueue
  · rw [if_neg hclosed]
    refine .give_back (i := i) (c := conn) hi ?_
    rw [ledger_goto, ledger_notify]
    · rfl
    · exact hqueue

theorem grip_closing (conns : List ℕ) : grip (closing conns) = .nothing := by
  cases conns <;> rfl

theorem grip_starting (left : ℕ) : grip (starting left) = .nothing := by
  cases left <;> rfl

include hqueue in
theorem moves_close {i : ι} (hi : s.place i = .shutting) :
    (ledger s).Moves (ledger (close i s)) := by
  have hfree : grip (s.place i) = .nothing := by
    rw [hi]
    rfl
  have hlast : (notify_all { s with
      closed := true, idle := [], created := s.created - s.idle.length }).place i = s.place i := by
    refine if_neg fun hmem => ?_
    cases hi.symm.trans (hqueue i hmem)
  unfold close
  by_cases hclosed : s.closed = true
  · rw [if_pos hclosed]
    exact .stay (ledger_goto_same (by rw [hfree]; rfl))
  · rw [if_neg hclosed]
    refine .drain ?_
    rw [ledger_goto_same (by rw [grip_closing, hlast, hfree]), ledger_notify_all]
    · rfl
    · exact hqueue

include hqueue in
theorem moves_add {i : ι} {conn left : ℕ} (hi : grip (s.place i) = .extra conn) :
    (ledger s).Moves (ledger (add i conn left s)) := by
  refine .add (i := i) (c := conn) hi ?_
  unfold add
  rw [ledger_goto, ledger_notify, grip_starting]
  · rfl
  · exact hqueue

include hqueue in
/-- The step of a task whose await returns is a move of the books. -/
theorem moves_resume (i : ι) (good : Bool) : (ledger s).Moves (ledger (resume i good s)) := by
  unfold resume
  cases hi : s.place i with
  | outside => exact .stay rfl
  | entering woken => exact moves_checkout_entered good (by rw [hi]; rfl)
  | waiting => exact .stay rfl
  | notified => exact .stay (ledger_goto_same (by rw [hi]; rfl))
  | pinging candidate =>
    refine .stay (ledger_goto_same ?_)
    rw [hi]
    cases good <;> rfl
  | discarding candidate => exact moves_discard hqueue (by rw [hi]; rfl)
  | closing_dead candidate => exact .stay (ledger_goto_same (by rw [hi]; rfl))
  | opening =>
    cases good with
    | false => exact .stay (ledger_goto_same (by rw [hi]; rfl))
    | true =>
      have hfree : (ledger s).grip i = .reserved := congrArg grip hi
      exact .connect (i := i) (c := s.opened) hfree (Nat.lt_irrefl s.opened)
        (ledger_connected i _ s)
  | undoing => exact moves_undo hqueue (!good) (by rw [hi]; rfl)
  | keeping fresh => exact moves_keep (by rw [hi]; rfl)
  | lent conn => exact .stay rfl
  | releasing conn => exact moves_release hqueue (by rw [hi]; rfl)
  | closing_released conn => exact .stay (ledger_goto_same (by rw [hi]; rfl))
  | timed_out => exact .stay (ledger_goto_same (by rw [hi]; rfl))
  | shutting => exact moves_close hqueue hi
  | closing_idle conns => exact .stay (ledger_goto_same (by rw [hi, grip_closing]; rfl))
  | starting left =>
    cases good with
    | false => exact .stay (ledger_goto_same (by rw [hi]; rfl))
    | true =>
      have hfree : (ledger s).grip i = .nothing := congrArg grip hi
      exact .make (i := i) (c := s.opened) hfree (Nat.lt_irrefl s.opened)
        (ledger_connected i (.adding · left) s)
  | adding conn left => exact moves_add hqueue (by rw [hi]; rfl)

/-! ## Strikes -/

/-- A `CancelledError` here loses the slot in the task's hand, or a notification: the pings and
the openings of `_checkout`, every lock behind them, the lock of `release`, a `wait` that was
notified if the condition does not hand the notification on, and the lock behind it. -/
def exposed (hands_on : Bool) : Place → Bool
  | .entering woken => woken
  | .notified => !hands_on
  | .pinging _ | .discarding _ | .opening | .undoing | .keeping _ | .releasing _ => true
  | _ => false

/-- Neither a cancellation nor the time limit strikes a task there. -/
def Spared (hands_on : Bool) (s : AsyncConnectionPool ι) : PoolEvent ι → Prop
  | .cancel i => exposed hands_on (s.place i) = false
  | .deadline i => (s.place i).checking_out = true → exposed hands_on (s.place i) = false
  | _ => True

omit hqueue in
theorem ledger_body_ended (i : ι) (s : AsyncConnectionPool ι) :
    ledger (body_ended i s) = ledger s := by
  unfold body_ended
  cases hi : s.place i with
  | lent conn => exact ledger_goto_same (by rw [hi]; rfl)
  | _ => rfl

include hqueue in
/-- INTERNAL: a task that leaves the condition has nothing in its hand. -/
theorem ledger_leave_wait {hands_on : Bool} {i : ι} {next : Place} (hnext : grip next = .nothing)
    (hi : grip (s.place i) = .nothing) : ledger (leave_wait hands_on i next s) = ledger s := by
  have hleft : ledger (goto i next { s with waiters := s.waiters.filter (· ≠ i) }) = ledger s :=
    ledger_goto_same (s := { s with waiters := s.waiters.filter (· ≠ i) })
      (by rw [hnext]; exact hi.symm)
  unfold leave_wait
  cases hands_on with
  | false => exact hleft
  | true =>
    refine (ledger_notify fun j hj => ?_).trans hleft
    obtain ⟨hmem, hne⟩ := List.mem_filter.mp hj
    have hne : j ≠ i := of_decide_eq_true hne
    exact (Function.update_of_ne hne next s.place).trans (hqueue j hmem)

include hqueue in
theorem moves_strike {hands_on : Bool} {i : ι} {next : Place} (hnext : grip next = .nothing)
    (hspared : exposed hands_on (s.place i) = false) :
    (ledger s).Moves (ledger (strike hands_on i next s)) := by
  unfold strike
  cases hi : s.place i with
  | outside => exact .stay rfl
  | waiting => exact .stay (ledger_leave_wait hqueue hnext (by rw [hi]; rfl))
  | notified => exact .stay (ledger_leave_wait hqueue hnext (by rw [hi]; rfl))
  | lent conn => exact .stay (ledger_body_ended i s)
  | adding conn left =>
    exact .forget (i := i) (c := conn) (congrArg grip hi) (by rw [ledger_goto, hnext])
  | entering woken => exact .stay (ledger_goto_same (by rw [hi, hnext]; rfl))
  | closing_dead candidate => exact .stay (ledger_goto_same (by rw [hi, hnext]; rfl))
  | closing_released conn => exact .stay (ledger_goto_same (by rw [hi, hnext]; rfl))
  | timed_out => exact .stay (ledger_goto_same (by rw [hi, hnext]; rfl))
  | shutting => exact .stay (ledger_goto_same (by rw [hi, hnext]; rfl))
  | closing_idle conns => exact .stay (ledger_goto_same (by rw [hi, hnext]; rfl))
  | starting left => exact .stay (ledger_goto_same (by rw [hi, hnext]; rfl))
  | _ =>
    rw [hi] at hspared
    cases hspared

include hqueue in
/-- A step without such a strike is a move of the books. -/
theorem moves_step {hands_on : Bool} {event : PoolEvent ι} (hspared : Spared hands_on s event) :
    (ledger s).Moves (ledger (step hands_on event s)) := by
  have hcall : ∀ (i : ι) (next : Place), grip next = .nothing →
      (ledger s).Moves (ledger (if s.place i = .outside then goto i next s else s)) := by
    intro i next hnext
    by_cases hi : s.place i = .outside
    · rw [if_pos hi]
      exact .stay (ledger_goto_same (by rw [hi, hnext]; rfl))
    · rw [if_neg hi]
      exact .stay rfl
  cases event with
  | start i => exact hcall i _ (grip_starting _)
  | acquire i => exact hcall i _ rfl
  | close i => exact hcall i _ rfl
  | leave i => exact .stay (ledger_body_ended i s)
  | resume i good => exact moves_resume hqueue i good
  | cancel i => exact moves_strike hqueue rfl hspared
  | deadline i =>
    unfold step
    by_cases hi : (s.place i).checking_out = true
    · simp only [if_pos hi]
      exact moves_strike hqueue rfl (hspared hi)
    · simp only [if_neg hi]
      exact .stay rfl

end Moves

/-! ## The queue of the condition -/

/-- One for a task that was notified and has not looked at the pool yet. -/
def woken : Place → ℕ
  | .notified => 1
  | .entering true => 1
  | _ => 0

/-- How many connections could be lent. -/
def room (s : AsyncConnectionPool ι) : ℕ := s.idle.length + (s.max_size - s.created).toNat

/-- The futures of the condition are those of the waiting tasks, and all but `k` of the
connections that could be lent have a notified task on its way to them. -/
structure Queued [Fintype ι] (k : ℕ) (s : AsyncConnectionPool ι) : Prop where
  nodup : s.waiters.Nodup
  mem : ∀ i, i ∈ s.waiters ↔ s.place i = .waiting
  shut : s.closed = true → s.waiters = []
  met : s.waiters ≠ [] → room s ≤ ∑ i, woken (s.place i) + k

section Queue

variable [Fintype ι] {s s' : AsyncConnectionPool ι} {k k' : ℕ}

theorem Queued.waits (h : Queued k s) : ∀ j ∈ s.waiters, s.place j = .waiting := fun j =>
  (h.mem j).mp

theorem Queued.mono (h : Queued k s) (hk : k ≤ k') : Queued k' s :=
  ⟨h.nodup, h.mem, h.shut, fun hw => (h.met hw).trans (by omega)⟩

/-- The books change, and the tasks stay where they are. -/
theorem Queued.books (h : Queued k s) (hwaiters : s'.waiters = s.waiters)
    (hplace : s'.place = s.place) (hclosed : s'.closed = s.closed)
    (hroom : room s' + k ≤ room s + k') : Queued k' s' := by
  constructor
  · rw [hwaiters]
    exact h.nodup
  · rw [hwaiters, hplace]
    exact h.mem
  · rw [hwaiters, hclosed]
    exact h.shut
  · rw [hwaiters, hplace]
    intro hw
    have hmet := h.met hw
    omega

/-- Nobody waits. -/
theorem Queued.of_empty (h : Queued k s) (hw : s.waiters = []) : Queued k' s :=
  ⟨h.nodup, h.mem, h.shut, fun hne => absurd hw hne⟩

variable [DecidableEq ι]

theorem woken_goto (i : ι) (next : Place) (s : AsyncConnectionPool ι) :
    ∑ j, woken ((goto i next s).place j) + woken (s.place i) =
      ∑ j, woken (s.place j) + woken next :=
  sum_update s.place woken i next

/-- A task that does not wait goes on. -/
theorem Queued.goto {i : ι} {next : Place} (h : Queued k s) (hi : s.place i ≠ .waiting)
    (hnext : next ≠ .waiting) (hk : woken (s.place i) + k ≤ woken next + k') :
    Queued k' (goto i next s) := by
  constructor
  · exact h.nodup
  · intro j
    show j ∈ s.waiters ↔ Function.update s.place i next j = .waiting
    by_cases hj : j = i
    · subst hj
      rw [Function.update_self, h.mem]
      exact ⟨fun hwait => absurd hwait hi, fun hwait => absurd hwait hnext⟩
    · rw [Function.update_of_ne hj]
      exact h.mem j
  · exact h.shut
  · intro hw
    have hmet := h.met hw
    have hwoken := woken_goto i next s
    show room s ≤ _
    omega

/-- INTERNAL: the head of the queue. -/
theorem Queued.notify (h : Queued (k + 1) s) : Queued k (notify s) := by
  unfold AsyncConnectionPool.notify
  cases hw : s.waiters with
  | nil => exact h.of_empty hw
  | cons j rest =>
    have hj : s.place j = .waiting := h.waits j (by rw [hw]; exact List.mem_cons_self)
    have hnodup := h.nodup
    rw [hw, List.nodup_cons] at hnodup
    constructor
    · exact hnodup.2
    · intro i
      show i ∈ rest ↔ Function.update s.place j .notified i = .waiting
      by_cases hi : i = j
      · subst hi
        rw [Function.update_self]
        exact ⟨fun hmem => absurd hmem hnodup.1, nofun⟩
      · rw [Function.update_of_ne hi, ← h.mem, hw, List.mem_cons]
        exact ⟨.inr, fun hmem => hmem.resolve_left hi⟩
    · intro hclosed
      cases hw.symm.trans (h.shut hclosed)
    · intro _
      have hmet := h.met (by rw [hw]; exact List.cons_ne_nil j rest)
      have hwoken : ∑ i, woken ((AsyncConnectionPool.goto j .notified s).place i) =
          ∑ i, woken (s.place i) + 1 := by
        have hsum := woken_goto j .notified s
        rw [hj] at hsum
        exact hsum
      show room s ≤ ∑ i, woken ((AsyncConnectionPool.goto j .notified s).place i) + k
      omega

/-- A notification changes the place of a waiting task alone. -/
theorem Queued.notify_place (h : Queued k s) {i : ι} (hi : s.place i ≠ .waiting) :
    (AsyncConnectionPool.notify s).place i = s.place i := by
  unfold AsyncConnectionPool.notify
  cases hw : s.waiters with
  | nil => rfl
  | cons j rest =>
    have hj : s.place j = .waiting := h.waits j (by rw [hw]; exact List.mem_cons_self)
    refine Function.update_of_ne ?_ _ _
    rintro rfl
    exact hi hj

/-- The pool gets a connection that could be lent, somebody is notified, and the task goes on. -/
theorem Queued.notifies {i : ι} {next : Place} (h : Queued k s) (hwaiters : s'.waiters = s.waiters)
    (hplace : s'.place = s.place) (hclosed : s'.closed = s.closed) (hroom : room s' ≤ room s + 1)
    (hi : s.place i ≠ .waiting) (hwoken : woken (s.place i) = 0) (hnext : next ≠ .waiting) :
    Queued k (AsyncConnectionPool.goto i next (AsyncConnectionPool.notify s')) := by
  have hmore : Queued (k + 1) s' := h.books hwaiters hplace hclosed (by omega)
  have hstays := hmore.notify_place (i := i) (by rw [hplace]; exact hi)
  rw [hplace] at hstays
  exact hmore.notify.goto (by rw [hstays]; exact hi) hnext (by rw [hstays, hwoken]; omega)

/-- The task waits: there is nothing that could be lent. -/
theorem Queued.wait {i : ι} (h : Queued k s) (hi : s.place i ≠ .waiting) (hopen : s.closed ≠ true)
    (hroom : room s = 0) :
    Queued k' (AsyncConnectionPool.goto i .waiting { s with waiters := s.waiters ++ [i] }) := by
  constructor
  · refine List.nodup_append.mpr ⟨h.nodup, List.nodup_singleton i, ?_⟩
    intro j hj l hl
    rw [List.mem_singleton] at hl
    rintro rfl
    rw [hl] at hj
    exact hi (h.waits i hj)
  · intro j
    show j ∈ s.waiters ++ [i] ↔ Function.update s.place i .waiting j = .waiting
    rw [List.mem_append, List.mem_singleton]
    by_cases hj : j = i
    · subst hj
      rw [Function.update_self]
      exact ⟨fun _ => rfl, fun _ => .inr rfl⟩
    · rw [Function.update_of_ne hj, ← h.mem]
      exact ⟨fun hmem => hmem.resolve_right hj, .inl⟩
  · exact fun hclosed => absurd hclosed hopen
  · intro _
    show room s ≤ _
    omega

/-- A task leaves the condition, and with it a notification that it may have had. -/
theorem Queued.withdraw {i : ι} {next : Place} (h : Queued k s) (hnext : next ≠ .waiting)
    (hk : woken (s.place i) + k ≤ k') :
    Queued k' (AsyncConnectionPool.goto i next { s with waiters := s.waiters.filter (· ≠ i) }) := by
  have hmem : ∀ j, j ∈ s.waiters.filter (· ≠ i) ↔ j ∈ s.waiters ∧ j ≠ i := by
    intro j
    rw [List.mem_filter]
    exact and_congr_right fun _ => decide_eq_true_iff
  constructor
  · exact h.nodup.filter _
  · intro j
    show j ∈ s.waiters.filter (· ≠ i) ↔ Function.update s.place i next j = .waiting
    rw [hmem]
    by_cases hj : j = i
    · subst hj
      rw [Function.update_self]
      exact ⟨fun hboth => absurd rfl hboth.2, fun hwait => absurd hwait hnext⟩
    · rw [Function.update_of_ne hj, ← h.mem]
      exact ⟨fun hboth => hboth.1, fun hin => ⟨hin, hj⟩⟩
  · intro hclosed
    show s.waiters.filter (· ≠ i) = []
    rw [h.shut hclosed]
    rfl
  · intro hw
    have hmet := h.met fun hempty => hw (by
      show s.waiters.filter (· ≠ i) = []
      rw [hempty]
      rfl)
    have hwoken := woken_goto i next s
    show room s ≤ ∑ j, woken ((AsyncConnectionPool.goto i next s).place j) + k'
    omega

/-- Everybody is notified. -/
theorem Queued.notify_all (hmem : ∀ i, i ∈ s.waiters ↔ s.place i = .waiting) :
    Queued k' (notify_all s) := by
  constructor
  · exact List.nodup_nil
  · intro i
    show i ∈ [] ↔ (if i ∈ s.waiters then Place.notified else s.place i) = .waiting
    by_cases hi : i ∈ s.waiters
    · rw [if_pos hi]
      exact ⟨nofun, nofun⟩
    · rw [if_neg hi, ← hmem]
      exact ⟨nofun, fun hin => absurd hin hi⟩
  · exact fun _ => rfl
  · exact fun hw => absurd rfl hw

/-! ## Steps -/

theorem woken_le_one (p : Place) : woken p ≤ 1 := by
  cases p with
  | entering b => cases b <;> simp [woken]
  | _ => simp [woken]

theorem queued_checkout_entered {i : ι} {b good : Bool} (h : Queued k s)
    (hi : s.place i = .entering b) : Queued k (checkout_entered i good s) := by
  have hwaits : s.place i ≠ .waiting := by rw [hi]; nofun
  have hone := woken_le_one (.entering b)
  have hgo : ∀ next : Place, next ≠ .waiting →
      Queued (k + 1) (AsyncConnectionPool.goto i next s) := fun next hnext =>
    h.goto hwaits hnext (by rw [hi]; omega)
  unfold checkout_entered
  by_cases hclosed : s.closed = true
  · rw [if_pos hclosed]
    exact (hgo .outside nofun).of_empty (h.shut hclosed)
  · rw [if_neg hclosed]
    cases hidle : s.idle with
    | cons candidate rest =>
      refine (hgo (if good then .pinging candidate else .discarding candidate) ?_).books
        rfl rfl rfl ?_
      · cases good <;> nofun
      · show rest.length + (s.max_size - s.created).toNat + (k + 1) ≤
          s.idle.length + (s.max_size - s.created).toNat + k
        rw [hidle, List.length_cons]
        omega
    | nil =>
      by_cases hroom : s.created < s.max_size
      · simp only [if_pos hroom]
        refine (hgo .opening nofun).books rfl rfl rfl ?_
        show 0 + (s.max_size - (s.created + 1)).toNat + (k + 1) ≤
          s.idle.length + (s.max_size - s.created).toNat + k
        omega
      · simp only [if_neg hroom]
        have hfull : room s = 0 := by
          unfold room
          rw [hidle, List.length_nil]
          omega
        have hwait : Queued k _ := h.wait hwaits hclosed hfull
        rw [hidle] at hwait
        exact hwait

theorem closing_ne_waiting (conns : List ℕ) : closing conns ≠ .waiting := by
  cases conns <;> nofun

theorem starting_ne_waiting (left : ℕ) : starting left ≠ .waiting := by
  cases left <;> nofun

/-- INTERNAL: a task that was not notified goes on. -/
theorem Queued.walk {i : ι} {next : Place} (h : Queued k s) (hi : s.place i ≠ .waiting)
    (hwoken : woken (s.place i) = 0) (hnext : next ≠ .waiting) :
    Queued k (AsyncConnectionPool.goto i next s) :=
  h.goto hi hnext (by omega)

theorem queued_discard_candidate {i : ι} {candidate : ℕ} (h : Queued k s)
    (hi : s.place i = .discarding candidate) : Queued k (discard_candidate i candidate s) := by
  refine h.notifies rfl rfl rfl ?_ (by rw [hi]; nofun) (by rw [hi]; rfl) nofun
  show s.idle.length + (s.max_size - (s.created - 1)).toNat ≤
      s.idle.length + (s.max_size - s.created).toNat + 1
  omega

theorem queued_undo {i : ι} (timeout_error : Bool) (h : Queued k s) (hi : s.place i = .undoing) :
    Queued k (undo i timeout_error s) := by
  have hnext : (if timeout_error then Place.timed_out else .outside) ≠ .waiting := by
    cases timeout_error <;> nofun
  refine h.notifies rfl rfl rfl ?_ (by rw [hi]; nofun) (by rw [hi]; rfl) hnext
  show s.idle.length + (s.max_size - (s.created - 1)).toNat ≤
      s.idle.length + (s.max_size - s.created).toNat + 1
  omega

theorem queued_release {i : ι} {conn : ℕ} (h : Queued k s) (hi : s.place i = .releasing conn) :
    Queued k (release i conn s) := by
  unfold release
  by_cases hclosed : s.closed = true
  · rw [if_pos hclosed]
    refine h.notifies rfl rfl rfl ?_ (by rw [hi]; nofun) (by rw [hi]; rfl) nofun
    show s.idle.length + (s.max_size - (s.created - 1)).toNat ≤
      s.idle.length + (s.max_size - s.created).toNat + 1
    omega
  · rw [if_neg hclosed]
    refine h.notifies rfl rfl rfl ?_ (by rw [hi]; nofun) (by rw [hi]; rfl) nofun
    show (s.idle ++ [conn]).length + (s.max_size - s.created).toNat ≤
      s.idle.length + (s.max_size - s.created).toNat + 1
    rw [List.length_append, List.length_singleton]
    omega

theorem queued_add {i : ι} {conn left : ℕ} (h : Queued k s) (hi : s.place i = .adding conn left) :
    Queued k (add i conn left s) := by
  refine h.notifies rfl rfl rfl ?_ (by rw [hi]; nofun) (by rw [hi]; rfl)
    (starting_ne_waiting left)
  show (s.idle ++ [conn]).length + (s.max_size - (s.created + 1)).toNat ≤
    s.idle.length + (s.max_size - s.created).toNat + 1
  rw [List.length_append, List.length_singleton]
  omega

theorem queued_close {i : ι} (h : Queued k s) (hi : s.place i = .shutting) :
    Queued k (close i s) := by
  have hwaits : s.place i ≠ .waiting := by rw [hi]; nofun
  unfold close
  by_cases hclosed : s.closed = true
  · rw [if_pos hclosed]
    exact h.walk hwaits (by rw [hi]; rfl) nofun
  · rw [if_neg hclosed]
    have hall : Queued k (AsyncConnectionPool.notify_all { s with
        closed := true, idle := [], created := s.created - s.idle.length }) :=
      Queued.notify_all (s := { s with
        closed := true, idle := [], created := s.created - s.idle.length }) h.mem
    have hstays : (AsyncConnectionPool.notify_all { s with
        closed := true, idle := [], created := s.created - s.idle.length }).place i =
          .shutting := by
      refine (if_neg fun hmem => ?_).trans hi
      exact hwaits (h.waits i hmem)
    exact hall.walk (by rw [hstays]; nofun) (by rw [hstays]; rfl) (closing_ne_waiting _)

theorem queued_resume (i : ι) (good : Bool) (h : Queued k s) : Queued k (resume i good s) := by
  unfold resume
  cases hi : s.place i with
  | outside => exact h
  | entering b => exact queued_checkout_entered h hi
  | waiting => exact h
  | notified => exact h.goto (by rw [hi]; nofun) nofun (by rw [hi]; exact Nat.le_refl (1 + k))
  | pinging candidate =>
    refine h.walk (by rw [hi]; nofun) (by rw [hi]; rfl) ?_
    cases good <;> nofun
  | discarding candidate => exact queued_discard_candidate h hi
  | closing_dead candidate => exact h.walk (by rw [hi]; nofun) (by rw [hi]; rfl) nofun
  | opening =>
    cases good with
    | false => exact h.walk (by rw [hi]; nofun) (by rw [hi]; rfl) nofun
    | true =>
      have hgo : Queued k (AsyncConnectionPool.goto i (.keeping s.opened) s) :=
        h.walk (by rw [hi]; nofun) (by rw [hi]; rfl) nofun
      exact hgo.books rfl rfl rfl (Nat.le_refl _)
  | undoing => exact queued_undo _ h hi
  | keeping fresh =>
    have hgo : Queued k (AsyncConnectionPool.goto i (.lent fresh) s) :=
      h.walk (by rw [hi]; nofun) (by rw [hi]; rfl) nofun
    exact hgo.books rfl rfl rfl (Nat.le_refl _)
  | lent conn => exact h
  | releasing conn => exact queued_release h hi
  | closing_released conn => exact h.walk (by rw [hi]; nofun) (by rw [hi]; rfl) nofun
  | timed_out => exact h.walk (by rw [hi]; nofun) (by rw [hi]; rfl) nofun
  | shutting => exact queued_close h hi
  | closing_idle conns =>
    exact h.walk (by rw [hi]; nofun) (by rw [hi]; rfl) (closing_ne_waiting _)
  | starting left =>
    cases good with
    | false => exact h.walk (by rw [hi]; nofun) (by rw [hi]; rfl) nofun
    | true =>
      have hgo : Queued k (AsyncConnectionPool.goto i (.adding s.opened left) s) :=
        h.walk (by rw [hi]; nofun) (by rw [hi]; rfl) nofun
      exact hgo.books rfl rfl rfl (Nat.le_refl _)
  | adding conn left => exact queued_add h hi

theorem queued_body_ended (i : ι) (h : Queued k s) : Queued k (body_ended i s) := by
  unfold body_ended
  cases hi : s.place i with
  | lent conn => exact h.walk (by rw [hi]; nofun) (by rw [hi]; rfl) nofun
  | _ => exact h

/-- INTERNAL: a notification that is not lost. -/
theorem queued_leave_wait {hands_on : Bool} {i : ι} {next : Place} (h : Queued k s)
    (hnext : next ≠ .waiting) (hi : woken (s.place i) = 0 ∨ hands_on = true) :
    Queued k (leave_wait hands_on i next s) := by
  unfold leave_wait
  cases hands_on with
  | false =>
    have hnone : woken (s.place i) = 0 := hi.resolve_right Bool.false_ne_true
    exact h.withdraw hnext (by omega)
  | true =>
    have hone := woken_le_one (s.place i)
    exact Queued.notify (h.withdraw hnext (by omega))

theorem queued_strike {hands_on : Bool} {i : ι} {next : Place} (h : Queued k s)
    (hnext : next ≠ .waiting) (hspared : exposed hands_on (s.place i) = false) :
    Queued k (strike hands_on i next s) := by
  unfold strike
  cases hi : s.place i with
  | outside => exact h
  | waiting => exact queued_leave_wait h hnext (.inl (by rw [hi]; rfl))
  | notified =>
    rw [hi] at hspared
    have hhands : hands_on = true := by simpa [exposed] using hspared
    exact queued_leave_wait h hnext (.inr hhands)
  | lent conn => exact queued_body_ended i h
  | entering b =>
    rw [hi] at hspared
    obtain rfl : b = false := hspared
    exact h.walk (by rw [hi]; nofun) (by rw [hi]; rfl) hnext
  | _ => exact h.walk (by rw [hi]; nofun) (by rw [hi]; rfl) hnext

theorem queued_step {hands_on : Bool} {event : PoolEvent ι} (h : Queued k s)
    (hspared : Spared hands_on s event) : Queued k (step hands_on event s) := by
  have hcall : ∀ (i : ι) (next : Place), next ≠ .waiting →
      Queued k (if s.place i = .outside then AsyncConnectionPool.goto i next s else s) := by
    intro i next hnext
    by_cases hi : s.place i = .outside
    · rw [if_pos hi]
      exact h.walk (by rw [hi]; nofun) (by rw [hi]; rfl) hnext
    · rw [if_neg hi]
      exact h
  cases event with
  | start i => exact hcall i _ (starting_ne_waiting _)
  | acquire i => exact hcall i _ nofun
  | close i => exact hcall i _ nofun
  | leave i => exact queued_body_ended i h
  | resume i good => exact queued_resume i good h
  | cancel i => exact queued_strike h nofun hspared
  | deadline i =>
    unfold step
    by_cases hi : (s.place i).checking_out = true
    · simp only [if_pos hi]
      exact queued_strike h nofun (hspared hi)
    · simp only [if_neg hi]
      exact h

end Queue

/-! ## Runs -/

section Runs

variable [Fintype ι] [DecidableEq ι]

/-- The books balance, and nobody waits for a connection that nobody is on the way to. -/
structure InOrder (s : AsyncConnectionPool ι) : Prop where
  sound : (ledger s).Sound
  queued : Queued 0 s

omit [DecidableEq ι] in
theorem inOrder_new (min_size max_size : ℕ) :
    InOrder (new min_size max_size : AsyncConnectionPool ι) := by
  have hslots : ∀ f : Grip ℕ → ℕ, f .nothing = 0 →
      ∑ i, f ((ledger (new min_size max_size : AsyncConnectionPool ι)).grip i) = 0 := fun f hf =>
    Finset.sum_eq_zero fun _ _ => hf
  constructor
  · constructor
    · rw [hslots Grip.slots rfl]
      rfl
    · intro c
      unfold Ledger.copies
      rw [hslots (Grip.holds c) rfl]
      exact Nat.zero_le 1
    · intro c _
      unfold Ledger.copies
      rw [hslots (Grip.holds c) rfl]
      rfl
    · intro c
      rw [hslots (Grip.lends c) rfl]
      rfl
  · constructor
    · exact List.nodup_nil
    · exact fun i => ⟨nofun, nofun⟩
    · exact fun _ => rfl
    · exact fun hw => absurd rfl hw

theorem InOrder.step {hands_on : Bool} {event : PoolEvent ι} {s : AsyncConnectionPool ι}
    (h : InOrder s) (hspared : Spared hands_on s event) :
    InOrder (AsyncConnectionPool.step hands_on event s) :=
  ⟨h.sound.move (moves_step h.queued.waits hspared), queued_step h.queued hspared⟩

/-- The task holds a connection or is on its way to one. -/
def busy : Place → Bool
  | .lent _ | .releasing _ => true
  | p => p.checking_out

/-- No task holds or is acquiring a connection. -/
def Quiet (s : AsyncConnectionPool ι) : Prop := ∀ i, busy (s.place i) = false

/-- A task acquires a connection that is in order, or a new one. -/
def acquireOne (i : ι) : List (PoolEvent ι) :=
  [.acquire i, .resume i true, .resume i true, .resume i true]

def perform (hands_on : Bool) (events : List (PoolEvent ι)) (s : AsyncConnectionPool ι) :
    AsyncConnectionPool ι :=
  events.foldl (fun s event => AsyncConnectionPool.step hands_on event s) s

/-- No slot and no notification is lost: without a task that holds or acquires a connection every
slot is idle, nothing is noted as lent, and `max_size` tasks can acquire at the same time; and as
long as a task waits without being notified, a notified one is on its way to each connection that
could be lent. -/
structure Intact (hands_on : Bool) (s : AsyncConnectionPool ι) : Prop where
  idle_alone : Quiet s → s.created = s.idle.length ∧ s.in_use = ∅
  lends_all : Quiet s → s.closed = false → ∀ tasks : List ι, tasks.Nodup →
    (∀ i ∈ tasks, s.place i = .outside) → tasks.length ≤ s.max_size →
      ∀ i ∈ tasks, ∃ conn, (perform hands_on (tasks.flatMap acquireOne) s).place i = .lent conn
  met : ∀ i, s.place i = .waiting → room s ≤ ∑ j, woken (s.place j)

omit [Fintype ι] in
/-- INTERNAL: one task gets a connection, and the others stay where they are. -/
theorem perform_acquireOne (hands_on : Bool) {i : ι} {s : AsyncConnectionPool ι}
    (hopen : s.closed = false) (hi : s.place i = .outside) (hroom : 0 < room s) :
    ∃ conn idle in_use, ∃ created : ℤ, ∃ opened,
      room s = idle.length + (s.max_size - created).toNat + 1 ∧
      perform hands_on (acquireOne i) s = goto i (.lent conn)
        { s with idle := idle, in_use := in_use, created := created, opened := opened } := by
  have hentered : step hands_on (.acquire i) s = goto i (.entering false) s := if_pos hi
  unfold perform acquireOne
  simp only [List.foldl_cons, List.foldl_nil, hentered]
  cases hidle : s.idle with
  | cons candidate rest =>
    refine ⟨candidate, rest, insert candidate s.in_use, s.created, s.opened, ?_, ?_⟩
    · unfold room
      rw [hidle, List.length_cons]
      omega
    · simp [step, resume, checkout_entered, goto, hopen, hidle]
  | nil =>
    unfold room at hroom
    rw [hidle, List.length_nil] at hroom
    have hless : s.created < s.max_size := by omega
    refine ⟨s.opened, [], insert s.opened s.in_use, s.created + 1, s.opened + 1, ?_, ?_⟩
    · unfold room
      rw [hidle, List.length_nil]
      omega
    · simp [step, resume, checkout_entered, goto, connected, keep, hopen, hidle, hless]

omit [Fintype ι] in
/-- As many tasks as there is room for can acquire at the same time. -/
theorem perform_acquire_all (hands_on : Bool) {tasks : List ι} {s : AsyncConnectionPool ι}
    (hopen : s.closed = false) (hnodup : tasks.Nodup) (hout : ∀ i ∈ tasks, s.place i = .outside)
    (hroom : tasks.length ≤ room s) :
    (∀ i ∈ tasks, ∃ conn,
        (perform hands_on (tasks.flatMap acquireOne) s).place i = .lent conn) ∧
      ∀ j, j ∉ tasks → (perform hands_on (tasks.flatMap acquireOne) s).place j = s.place j := by
  induction tasks generalizing s with
  | nil => exact ⟨nofun, fun _ _ => rfl⟩
  | cons i rest ih =>
    obtain ⟨hnot, hrest⟩ := List.nodup_cons.mp hnodup
    rw [List.length_cons] at hroom
    obtain ⟨conn, idle, in_use, created, opened, hless, hone⟩ := perform_acquireOne hands_on hopen
      (hout i List.mem_cons_self) (by omega)
    have happend : perform hands_on ((i :: rest).flatMap acquireOne) s =
        perform hands_on (rest.flatMap acquireOne) (perform hands_on (acquireOne i) s) := by
      unfold perform
      rw [List.flatMap_cons, List.foldl_append]
    rw [happend, hone]
    have hothers : ∀ j, j ≠ i → (goto i (.lent conn) { s with
        idle := idle, in_use := in_use, created := created, opened := opened }).place j =
          s.place j := fun j hj => Function.update_of_ne hj _ s.place
    obtain ⟨hlent, hstay⟩ := ih (s := goto i (.lent conn) { s with
      idle := idle, in_use := in_use, created := created, opened := opened }) hopen hrest
      (fun j hj => by
        rw [hothers j fun hji => hnot (hji ▸ hj)]
        exact hout j (List.mem_cons_of_mem i hj))
      (by
        show rest.length ≤ idle.length + (s.max_size - created).toNat
        omega)
    constructor
    · intro j hj
      cases List.mem_cons.mp hj with
      | inl hji =>
        subst hji
        refine ⟨conn, (hstay j hnot).trans ?_⟩
        exact Function.update_self j _ s.place
      | inr hmem => exact hlent j hmem
    · intro j hj
      rw [List.mem_cons, not_or] at hj
      exact (hstay j hj.2).trans (hothers j hj.1)

/-- INTERNAL: a task that holds no connection and acquires none has no slot. -/
theorem slots_of_not_busy {p : Place} (h : busy p = false) :
    (grip p).slots = 0 ∧ ∀ c, (grip p).lends c = 0 := by
  cases p with
  | pinging candidate => cases h
  | discarding candidate => cases h
  | opening => cases h
  | undoing => cases h
  | keeping fresh => cases h
  | lent conn => cases h
  | releasing conn => cases h
  | _ => exact ⟨rfl, fun _ => rfl⟩

omit [DecidableEq ι] in
theorem InOrder.idle_alone {s : AsyncConnectionPool ι} (h : InOrder s) (hquiet : Quiet s) :
    s.created = s.idle.length ∧ s.in_use = ∅ := by
  constructor
  · have hzero : ∑ i, ((ledger s).grip i).slots = 0 :=
      Finset.sum_eq_zero fun i _ => (slots_of_not_busy (hquiet i)).1
    have hslots : s.created = s.idle.length + ∑ i, ((ledger s).grip i).slots := h.sound.slots
    omega
  · refine Finset.eq_empty_of_forall_notMem fun c hc => ?_
    have hzero : ∑ i, ((ledger s).grip i).lends c = 0 :=
      Finset.sum_eq_zero fun i _ => (slots_of_not_busy (hquiet i)).2 c
    have hone : 0 = if c ∈ s.in_use then 1 else 0 := hzero.symm.trans (h.sound.lent c)
    rw [if_pos hc] at hone
    cases hone

theorem InOrder.intact {s : AsyncConnectionPool ι} (h : InOrder s) (hands_on : Bool) :
    Intact hands_on s := by
  constructor
  · exact h.idle_alone
  · intro hquiet hopen tasks hnodup hout hlength
    have hall : s.max_size ≤ room s := by
      have hcreated := (h.idle_alone hquiet).1
      unfold room
      omega
    exact (perform_acquire_all hands_on hopen hnodup hout (hlength.trans hall)).1
  · intro i hi
    have hmem : i ∈ s.waiters := (h.queued.mem i).mpr hi
    exact h.queued.met (List.ne_nil_of_mem hmem)

/-- The events, one behind the other. -/
abbrev poolTrace (hands_on : Bool) (events : List (PoolEvent ι)) (s : AsyncConnectionPool ι) :
    List (Step (AsyncConnectionPool ι) (PoolEvent ι) Unit) :=
  Run.trace (fun event s => ((), AsyncConnectionPool.step hands_on event s)) events s

/-- In every run in which no cancellation and no time limit strikes a task with a slot in its hand,
or with a notification that is lost with it, no slot and no notification is lost. -/
theorem slots_survive (hands_on : Bool) (min_size max_size : ℕ) (events : List (PoolEvent ι))
    (spared : ∀ x ∈ poolTrace hands_on events (new min_size max_size),
      Spared hands_on x.before x.input) :
    ∀ x ∈ poolTrace hands_on events (new min_size max_size), Intact hands_on x.after := by
  intro x hx
  obtain ⟨k, hk⟩ := List.mem_iff_getElem?.mp hx
  have hstep : ∀ (_ : List (Step (AsyncConnectionPool ι) (PoolEvent ι) Unit))
      (s : AsyncConnectionPool ι) (event : PoolEvent ι),
      InOrder s → Spared hands_on s event → InOrder (AsyncConnectionPool.step hands_on event s) :=
    fun _ _ _ h hspared => h.step hspared
  exact (Run.trace_invariant (I := fun _ s => InOrder s)
    (P := fun x => Spared hands_on x.before x.input) hstep (inOrder_new min_size max_size) spared
      hk).2.intact hands_on

end Runs

/-! ## Two tasks -/

/-- One task acquires, the other waits and is cancelled, and the first one gives back. -/
def waitCancelled : List (PoolEvent Bool) :=
  acquireOne true ++ [.acquire false, .resume false true, .cancel false, .leave true,
    .resume true true]

theorem slots_survive_waitCancelled :
    (perform false waitCancelled (new 0 1)).idle = [0] ∧
      ∀ x ∈ poolTrace false waitCancelled (new 0 1), Intact false x.after := by
  refine ⟨by decide +kernel, slots_survive false 0 1 waitCancelled ?_⟩
  have hspared : (poolTrace false waitCancelled (new 0 1)).all (fun x =>
      match x.input with
      | .cancel i => !exposed false (x.before.place i)
      | .deadline _ => false
      | _ => true) = true := by
    decide +kernel
  intro x hx
  have hx := List.all_eq_true.mp hspared x hx
  unfold Spared
  cases hinput : x.input with
  | cancel i =>
    rw [hinput] at hx
    exact Bool.not_inj hx
  | deadline i =>
    rw [hinput] at hx
    cases hx
  | _ => trivial

/-- The time limit is over while the connection is opened. -/
def openTimesOut : List (PoolEvent Bool) :=
  [.acquire true, .resume true true, .deadline true, .resume true true]

/-- The slot is gone, and the pool of one connection never lends it again. -/
theorem open_times_out_not_intact :
    ¬ ∀ x ∈ poolTrace false openTimesOut (new 0 1), Intact false x.after := by
  intro h
  have hlast := h _ (List.getElem_mem (show 3 < (poolTrace false openTimesOut (new 0 1)).length by
    decide))
  have hquiet : Quiet (poolTrace false openTimesOut (new 0 1))[3].after := by
    intro i
    cases i <;> rfl
  have hcreated := (hlast.idle_alone hquiet).1
  revert hcreated
  decide +kernel

end SapRfc.Analysis.PoolSlots
