import SapRfc.Analysis.PoolSlots

/-!
# The bound of the asyncio pool

`_checkout` takes a slot before it opens a connection, `start` opens first and counts later.
As long as no connection is begun while the slots taken and those that `start` is on the way
to take are `max_size` already, the pool stays within its bound, whatever is cancelled.
-/

set_option autoImplicit false

namespace SapRfc.Analysis.PoolBounds

open SapRfc.Library SapRfc.Program SapRfc.Program.AsyncConnectionPool
open SapRfc.Analysis.PoolSlots

variable {ι : Type} [Fintype ι] [DecidableEq ι]

/-! ## Any step -/

section Steps

variable {s : AsyncConnectionPool ι} {k : ℕ} {hands_on : Bool}

/-- A strike may lose a notification, and no more. -/
theorem queued_strike_any {i : ι} {next : Place} (h : Queued k s) (hnext : next ≠ .waiting) :
    Queued (k + 1) (strike hands_on i next s) := by
  have hone := woken_le_one (s.place i)
  have hgo : s.place i ≠ .waiting → Queued (k + 1) (goto i next s) := fun hi =>
    h.goto hi hnext (by omega)
  have hleave : Queued (k + 1) (leave_wait hands_on i next s) := by
    unfold leave_wait
    cases hands_on with
    | false => exact h.withdraw hnext (by omega)
    | true => exact Queued.notify (h.withdraw hnext (by omega))
  unfold strike
  cases hi : s.place i with
  | outside => exact h.mono (Nat.le_succ k)
  | waiting => exact hleave
  | notified => exact hleave
  | lent conn => exact (queued_body_ended i h).mono (Nat.le_succ k)
  | _ => exact hgo (by rw [hi]; nofun)

theorem queued_step_any {event : PoolEvent ι} (h : Queued k s) :
    Queued (k + 1) (step hands_on event s) := by
  cases event with
  | cancel i => exact queued_strike_any h nofun
  | deadline i =>
    unfold step
    by_cases hi : (s.place i).checking_out = true
    · simp only [if_pos hi]
      exact queued_strike_any h nofun
    · simp only [if_neg hi]
      exact h.mono (Nat.le_succ k)
  | start i =>
    have hspared : Spared hands_on s (.start i) := trivial
    exact (queued_step h hspared).mono (Nat.le_succ k)
  | acquire i =>
    have hspared : Spared hands_on s (.acquire i) := trivial
    exact (queued_step h hspared).mono (Nat.le_succ k)
  | close i =>
    have hspared : Spared hands_on s (.close i) := trivial
    exact (queued_step h hspared).mono (Nat.le_succ k)
  | leave i =>
    have hspared : Spared hands_on s (.leave i) := trivial
    exact (queued_step h hspared).mono (Nat.le_succ k)
  | resume i good =>
    have hspared : Spared hands_on s (.resume i good) := trivial
    exact (queued_step h hspared).mono (Nat.le_succ k)

omit [Fintype ι] in
/-- A strike is a move of the books, or the task loses what it has in its hand. -/
theorem strike_moves_or_loses (hqueue : ∀ j ∈ s.waiters, s.place j = .waiting) {i : ι}
    {next : Place} (hnext : grip next = .nothing) :
    (ledger s).Moves (ledger (strike hands_on i next s)) ∨
      (ledger s).Loses (ledger (strike hands_on i next s)) := by
  by_cases hspared : exposed hands_on (s.place i) = false
  · exact .inl (moves_strike hqueue hnext hspared)
  · have hlost : (ledger s).Loses (ledger (goto i next s)) :=
      ⟨i, by rw [ledger_goto, hnext]⟩
    unfold strike
    cases hi : s.place i with
    | outside => exact .inl (.stay rfl)
    | waiting => exact .inl (.stay (ledger_leave_wait hqueue hnext (by rw [hi]; rfl)))
    | notified => exact .inl (.stay (ledger_leave_wait hqueue hnext (by rw [hi]; rfl)))
    | lent conn => exact .inl (.stay (ledger_body_ended i s))
    | _ => exact .inr hlost

omit [Fintype ι] in
variable (hands_on) in
theorem step_moves_or_loses (hqueue : ∀ j ∈ s.waiters, s.place j = .waiting)
    (event : PoolEvent ι) :
    (ledger s).Moves (ledger (step hands_on event s)) ∨
      (ledger s).Loses (ledger (step hands_on event s)) := by
  cases event with
  | cancel i => exact strike_moves_or_loses hqueue rfl
  | deadline i =>
    unfold step
    by_cases hi : (s.place i).checking_out = true
    · simp only [if_pos hi]
      exact strike_moves_or_loses hqueue rfl
    · simp only [if_neg hi]
      exact .inl (.stay rfl)
  | start i =>
    have hspared : Spared hands_on s (.start i) := trivial
    exact .inl (moves_step hqueue hspared)
  | acquire i =>
    have hspared : Spared hands_on s (.acquire i) := trivial
    exact .inl (moves_step hqueue hspared)
  | close i =>
    have hspared : Spared hands_on s (.close i) := trivial
    exact .inl (moves_step hqueue hspared)
  | leave i =>
    have hspared : Spared hands_on s (.leave i) := trivial
    exact .inl (moves_step hqueue hspared)
  | resume i good =>
    have hspared : Spared hands_on s (.resume i good) := trivial
    exact .inl (moves_step hqueue hspared)

/-- The books balance once what was lost is counted, and the condition's queue is that of the
waiting tasks. -/
structure Settled (s : AsyncConnectionPool ι) : Prop where
  covered : (ledger s).Covered
  queued : ∃ k, Queued k s

omit [DecidableEq ι] in
theorem settled_new (min_size max_size : ℕ) :
    Settled (new min_size max_size : AsyncConnectionPool ι) :=
  ⟨(inOrder_new min_size max_size).sound.covered, 0, (inOrder_new min_size max_size).queued⟩

theorem Settled.step {event : PoolEvent ι} (h : Settled s) :
    Settled (AsyncConnectionPool.step hands_on event s) := by
  obtain ⟨k, hqueued⟩ := h.queued
  refine ⟨?_, k + 1, queued_step_any hqueued⟩
  cases step_moves_or_loses hands_on hqueued.waits event with
  | inl hmoves => exact h.covered.move hmoves
  | inr hloses => exact h.covered.lose hloses

end Steps

/-! ## Slots that are spoken for -/

/-- One for a connection that `start` has begun to open and not counted yet. -/
def starts : Place → ℕ
  | .starting _ => 1
  | .adding _ _ => 1
  | _ => 0

/-- The slots taken, and those that `start` is on the way to take. -/
def spoken_for (s : AsyncConnectionPool ι) : ℤ := s.created + ∑ i, starts (s.place i)

/-- The step begins to open a connection: a checkout that takes a slot, or `start` with a
connection to open. -/
def Begins (s : AsyncConnectionPool ι) : PoolEvent ι → Prop
  | .start i => s.place i = .outside ∧ 0 < s.min_size
  | .resume i _ =>
    (∃ conn left, s.place i = .adding conn (left + 1)) ∨
      (∃ b, s.place i = .entering b) ∧ s.closed = false ∧ s.idle = [] ∧ s.created < s.max_size
  | _ => False

/-- A connection is begun only where a slot is left for it. -/
def Timely (s : AsyncConnectionPool ι) (event : PoolEvent ι) : Prop :=
  Begins s event → spoken_for s < s.max_size

/-- Every slot that is spoken for is there. -/
def Within (s : AsyncConnectionPool ι) : Prop := spoken_for s ≤ s.max_size

section Spoken

variable {s s' : AsyncConnectionPool ι} {i : ι} {next : Place} {hands_on : Bool}

theorem spoken_for_goto (i : ι) (next : Place) (s : AsyncConnectionPool ι) :
    spoken_for (goto i next s) + starts (s.place i) = spoken_for s + starts next := by
  have hsum := sum_update s.place starts i next
  show (s.created + (∑ j, starts (Function.update s.place i next j) : ℕ) + starts (s.place i) : ℤ) =
    s.created + (∑ j, starts (s.place j) : ℕ) + starts next
  omega

omit [DecidableEq ι] in
/-- The books change, and the tasks stay where they are. -/
theorem spoken_for_books {t : AsyncConnectionPool ι} (hplace : t.place = s.place) :
    spoken_for t = spoken_for s + (t.created - s.created) := by
  unfold spoken_for
  rw [hplace]
  omega

theorem spoken_for_notify (hqueue : ∀ j ∈ s.waiters, s.place j = .waiting) :
    spoken_for (notify s) = spoken_for s := by
  unfold notify
  cases hw : s.waiters with
  | nil => rfl
  | cons j rest =>
    have hj : s.place j = .waiting := hqueue j (by rw [hw]; exact List.mem_cons_self)
    have hgo := spoken_for_goto j .notified { s with waiters := rest }
    have hbooks : spoken_for { s with waiters := rest } = spoken_for s + (s.created - s.created) :=
      spoken_for_books (s := s) (t := { s with waiters := rest }) rfl
    rw [show ({ s with waiters := rest } : AsyncConnectionPool ι).place j = .waiting from hj] at hgo
    simp only [starts] at hgo
    show spoken_for (goto j .notified { s with waiters := rest }) = _
    omega

/-- INTERNAL: a task that leaves the condition starts nothing. -/
theorem spoken_for_notify_all (hqueue : ∀ j ∈ s.waiters, s.place j = .waiting) :
    spoken_for (notify_all s) = spoken_for s := by
  have hsame : ∀ i, starts ((notify_all s).place i) = starts (s.place i) := by
    intro i
    show starts (if i ∈ s.waiters then .notified else s.place i) = _
    by_cases hi : i ∈ s.waiters
    · rw [if_pos hi, hqueue i hi]
      rfl
    · rw [if_neg hi]
  unfold spoken_for
  rw [Finset.sum_congr rfl fun i _ => hsame i]
  rfl

/-- The task goes on, and has no more to start than before. -/
theorem within_goto (h : Within s) (hnext : starts next ≤ starts (s.place i)) :
    Within (goto i next s) := by
  have hgo := spoken_for_goto i next s
  unfold Within at h ⊢
  show spoken_for (goto i next s) ≤ s.max_size
  omega

/-- The task changes the books by `d`, notifies another one and goes on. -/
theorem within_notifies (hqueue : ∀ j ∈ s.waiters, s.place j = .waiting)
    (hwaiters : s'.waiters = s.waiters) (hplace : s'.place = s.place)
    (hmax : s'.max_size = s.max_size) (hi : s.place i ≠ .waiting)
    (h : spoken_for s + (s'.created - s.created) + starts next ≤ s.max_size + starts (s.place i)) :
    Within (goto i next (notify s')) := by
  have hqueue' : ∀ j ∈ s'.waiters, s'.place j = .waiting := by
    rw [hwaiters, hplace]
    exact hqueue
  have hstays : (notify s').place i = s.place i := by
    rw [← hplace] at hi ⊢
    unfold notify
    cases hw : s'.waiters with
    | nil => rfl
    | cons j rest =>
      have hj : s'.place j = .waiting := hqueue' j (by rw [hw]; exact List.mem_cons_self)
      refine Function.update_of_ne ?_ _ _
      rintro rfl
      exact hi hj
  have hsize : (notify s').max_size = s.max_size := by
    rw [← hmax]
    unfold notify
    cases s'.waiters <;> rfl
  have hgo := spoken_for_goto i next (notify s')
  rw [hstays, spoken_for_notify hqueue', spoken_for_books hplace] at hgo
  unfold Within
  show spoken_for (goto i next (notify s')) ≤ (notify s').max_size
  rw [hsize]
  omega

theorem within_checkout_entered {b good : Bool} (h : Within s) (hi : s.place i = .entering b)
    (htimely : Timely s (.resume i good)) : Within (checkout_entered i good s) := by
  unfold checkout_entered
  by_cases hclosed : s.closed = true
  · rw [if_pos hclosed]
    exact within_goto h (by rw [hi]; exact Nat.le_refl 0)
  · rw [if_neg hclosed]
    have hopen : s.closed = false := Bool.not_eq_true _ ▸ hclosed
    cases hidle : s.idle with
    | cons candidate rest =>
      have hbooks : Within { s with idle := rest, in_use := insert candidate s.in_use } := h
      refine within_goto hbooks ?_
      cases good <;> exact Nat.zero_le _
    | nil =>
      by_cases hroom : s.created < s.max_size
      · simp only [if_pos hroom]
        have hless : spoken_for s < s.max_size :=
          htimely (.inr ⟨⟨b, hi⟩, hopen, hidle, hroom⟩)
        have hbooks : spoken_for { s with idle := [], created := s.created + 1 } =
            spoken_for s + (s.created + 1 - s.created) :=
          spoken_for_books (s := s) (t := { s with idle := [], created := s.created + 1 }) rfl
        have hwithin : Within { s with idle := [], created := s.created + 1 } := by
          unfold Within
          show _ ≤ (s.max_size : ℤ)
          omega
        exact within_goto hwithin (Nat.zero_le _)
      · simp only [if_neg hroom]
        have hbooks : Within { s with idle := [], waiters := s.waiters ++ [i] } := h
        exact within_goto hbooks (Nat.zero_le _)

variable (hqueue : ∀ j ∈ s.waiters, s.place j = .waiting)

include hqueue in
theorem within_release {conn : ℕ} (h : Within s) (hi : s.place i = .releasing conn) :
    Within (release i conn s) := by
  have hwaits : s.place i ≠ .waiting := by rw [hi]; nofun
  unfold Within at h
  unfold release
  by_cases hclosed : s.closed = true
  · rw [if_pos hclosed]
    refine within_notifies hqueue rfl rfl rfl hwaits ?_
    show spoken_for s + (s.created - 1 - s.created) + (0 : ℕ) ≤ s.max_size + starts (s.place i)
    omega
  · rw [if_neg hclosed]
    refine within_notifies hqueue rfl rfl rfl hwaits ?_
    show spoken_for s + (s.created - s.created) + (0 : ℕ) ≤ s.max_size + starts (s.place i)
    omega

theorem starts_closing (conns : List ℕ) : starts (closing conns) = 0 := by
  cases conns <;> rfl

include hqueue in
theorem within_add {conn left : ℕ} {good : Bool} (h : Within s)
    (hi : s.place i = .adding conn left) (htimely : Timely s (.resume i good)) :
    Within (add i conn left s) := by
  refine within_notifies hqueue rfl rfl rfl (by rw [hi]; nofun) ?_
  unfold Within at h
  rw [hi]
  show spoken_for s + (s.created + 1 - s.created) + starts (starting left) ≤ s.max_size + (1 : ℕ)
  cases left with
  | zero =>
    show spoken_for s + (s.created + 1 - s.created) + (0 : ℕ) ≤ s.max_size + (1 : ℕ)
    omega
  | succ left =>
    have hless : spoken_for s < s.max_size := htimely (.inl ⟨conn, left, hi⟩)
    show spoken_for s + (s.created + 1 - s.created) + (1 : ℕ) ≤ s.max_size + (1 : ℕ)
    omega

include hqueue in
theorem within_close (h : Within s) (hi : s.place i = .shutting) : Within (close i s) := by
  unfold close
  by_cases hclosed : s.closed = true
  · rw [if_pos hclosed]
    exact within_goto h (by rw [hi]; exact Nat.le_refl 0)
  · rw [if_neg hclosed]
    have hbooks : spoken_for { s with
        closed := true, idle := [], created := s.created - s.idle.length } =
          spoken_for s + (s.created - s.idle.length - s.created) :=
      spoken_for_books (s := s) (t := { s with
        closed := true, idle := [], created := s.created - s.idle.length }) rfl
    have hnotified := spoken_for_notify_all (s := { s with
      closed := true, idle := [], created := s.created - s.idle.length }) hqueue
    have hwithin : Within (notify_all { s with
        closed := true, idle := [], created := s.created - s.idle.length }) := by
      unfold Within at h ⊢
      rw [hnotified, hbooks]
      show _ ≤ (s.max_size : ℤ)
      omega
    exact within_goto hwithin (by rw [starts_closing]; exact Nat.zero_le _)

include hqueue in
theorem within_resume (good : Bool) (h : Within s) (htimely : Timely s (.resume i good)) :
    Within (resume i good s) := by
  have hdrop : ∀ created : ℤ, created ≤ s.created → ∀ next : Place, starts next = 0 →
      spoken_for s + (created - s.created) + starts next ≤ s.max_size + starts (s.place i) := by
    intro created hle next hnext
    unfold Within at h
    omega
  unfold resume
  cases hi : s.place i with
  | outside => exact h
  | entering b => exact within_checkout_entered h hi htimely
  | waiting => exact h
  | notified => exact within_goto h (Nat.zero_le _)
  | pinging candidate =>
    refine within_goto h ?_
    cases good <;> exact Nat.zero_le _
  | discarding candidate =>
    refine within_notifies hqueue rfl rfl rfl (by rw [hi]; nofun) ?_
    exact hdrop (s.created - 1) (by omega) (.closing_dead candidate) rfl
  | closing_dead candidate => exact within_goto h (Nat.zero_le _)
  | opening =>
    cases good with
    | false => exact within_goto h (Nat.zero_le _)
    | true =>
      have hbooks : Within { s with opened := s.opened + 1 } := h
      exact within_goto hbooks (Nat.zero_le _)
  | undoing =>
    refine within_notifies hqueue rfl rfl rfl (by rw [hi]; nofun) ?_
    exact hdrop (s.created - 1) (by omega) _ (by cases good <;> rfl)
  | keeping fresh =>
    have hbooks : Within { s with in_use := insert fresh s.in_use } := h
    exact within_goto hbooks (Nat.zero_le _)
  | lent conn => exact h
  | releasing conn => exact within_release hqueue h hi
  | closing_released conn => exact within_goto h (Nat.zero_le _)
  | timed_out => exact within_goto h (Nat.zero_le _)
  | shutting => exact within_close hqueue h hi
  | closing_idle conns => exact within_goto h (by rw [starts_closing]; exact Nat.zero_le _)
  | starting left =>
    cases good with
    | false => exact within_goto h (Nat.zero_le _)
    | true =>
      have hbooks : Within { s with opened := s.opened + 1 } := h
      refine within_goto hbooks ?_
      show 1 ≤ starts (s.place i)
      rw [hi]
      exact Nat.le_refl 1
  | adding conn left => exact within_add hqueue h hi htimely

include hqueue in
theorem within_strike (h : Within s) (hnext : starts next = 0) :
    Within (strike hands_on i next s) := by
  have hgo : Within (goto i next s) := within_goto h (by rw [hnext]; exact Nat.zero_le _)
  have hleft : Within (goto i next { s with waiters := s.waiters.filter (· ≠ i) }) :=
    within_goto (s := { s with waiters := s.waiters.filter (· ≠ i) }) h
      (by rw [hnext]; exact Nat.zero_le _)
  have hleave : Within (leave_wait hands_on i next s) := by
    unfold leave_wait
    cases hands_on with
    | false => exact hleft
    | true =>
      have hwaits : ∀ j ∈ s.waiters.filter (· ≠ i),
          (goto i next { s with waiters := s.waiters.filter (· ≠ i) }).place j = .waiting := by
        intro j hj
        obtain ⟨hmem, hne⟩ := List.mem_filter.mp hj
        exact (Function.update_of_ne (of_decide_eq_true hne) next s.place).trans (hqueue j hmem)
      have hsame := spoken_for_notify
        (s := goto i next { s with waiters := s.waiters.filter (· ≠ i) }) hwaits
      have hsize : (notify (goto i next { s with waiters := s.waiters.filter (· ≠ i) })).max_size =
          s.max_size := by
        unfold notify
        cases (goto i next { s with waiters := s.waiters.filter (· ≠ i) }).waiters <;> rfl
      unfold Within at hleft ⊢
      dsimp only [if_true]
      rw [if_pos rfl, hsame, hsize]
      exact hleft
  unfold strike
  cases hi : s.place i with
  | outside => exact h
  | waiting => exact hleave
  | notified => exact hleave
  | lent conn =>
    show Within (body_ended i s)
    unfold body_ended
    rw [hi]
    exact within_goto h (Nat.zero_le _)
  | _ => exact hgo

include hqueue in
/-- A step that begins no connection without a slot left keeps the pool within its size. -/
theorem within_step {event : PoolEvent ι} (h : Within s) (htimely : Timely s event) :
    Within (step hands_on event s) := by
  cases event with
  | start i =>
    unfold step
    by_cases hi : s.place i = .outside
    · simp only [if_pos hi]
      cases hmin : s.min_size with
      | zero => exact within_goto h (Nat.zero_le _)
      | succ left =>
        have hless : spoken_for s < s.max_size := htimely ⟨hi, by omega⟩
        have hgo := spoken_for_goto i (.starting left) s
        rw [hi] at hgo
        simp only [starts] at hgo
        unfold Within
        show spoken_for (goto i (.starting left) s) ≤ s.max_size
        omega
    · simp only [if_neg hi]
      exact h
  | acquire i =>
    unfold step
    by_cases hi : s.place i = .outside
    · simp only [if_pos hi]
      exact within_goto h (Nat.zero_le _)
    · simp only [if_neg hi]
      exact h
  | close i =>
    unfold step
    by_cases hi : s.place i = .outside
    · simp only [if_pos hi]
      exact within_goto h (Nat.zero_le _)
    · simp only [if_neg hi]
      exact h
  | leave i =>
    show Within (body_ended i s)
    unfold body_ended
    cases hi : s.place i with
    | lent conn => exact within_goto h (Nat.zero_le _)
    | _ => exact h
  | resume i good => exact within_resume hqueue good h htimely
  | cancel i => exact within_strike hqueue h rfl
  | deadline i =>
    unfold step
    by_cases hi : (s.place i).checking_out = true
    · simp only [if_pos hi]
      exact within_strike hqueue h rfl
    · simp only [if_neg hi]
      exact h

end Spoken

/-! ## Runs -/

/-- One for a connection that is being opened for the pool. -/
def opens : Place → ℕ
  | .opening => 1
  | .keeping _ => 1
  | .starting _ => 1
  | .adding _ _ => 1
  | _ => 0

/-- Neither the count nor the connections themselves are more than `max_size`. -/
structure Bounded (s : AsyncConnectionPool ι) : Prop where
  created : s.created ≤ s.max_size
  connections : s.idle.length + s.in_use.card + ∑ i, opens (s.place i) ≤ s.max_size

theorem opens_le (p : Place) : opens p ≤ Ledger.pendingSlots (grip p) + starts p := by
  cases p <;> simp [opens, Ledger.pendingSlots, grip, starts]

omit [DecidableEq ι] in
theorem bounded_of_within {s : AsyncConnectionPool ι} (hsettled : Settled s) (h : Within s) :
    Bounded s := by
  have howned : (s.idle.length + s.in_use.card +
      ∑ i, Ledger.pendingSlots (grip (s.place i)) : ℕ) ≤ s.created := hsettled.covered.owned_le
  have hopens : ∑ i, opens (s.place i) ≤
      ∑ i, Ledger.pendingSlots (grip (s.place i)) + ∑ i, starts (s.place i) := by
    rw [← Finset.sum_add_distrib]
    exact Finset.sum_le_sum fun i _ => opens_le (s.place i)
  unfold Within spoken_for at h
  constructor
  · omega
  · omega

/-- SOURCE: pool.py:499-511 and pool.py:599-681.  In every run in which no connection is begun
without a slot left for it, the pool stays within its bound. -/
theorem pool_bounded (hands_on : Bool) (min_size max_size : ℕ) (events : List (PoolEvent ι))
    (timely : ∀ x ∈ poolTrace hands_on events (new min_size max_size), Timely x.before x.input) :
    ∀ x ∈ poolTrace hands_on events (new min_size max_size), Bounded x.after := by
  intro x hx
  obtain ⟨k, hk⟩ := List.mem_iff_getElem?.mp hx
  have hstep : ∀ (_ : List (Step (AsyncConnectionPool ι) (PoolEvent ι) Unit))
      (s : AsyncConnectionPool ι) (event : PoolEvent ι), Settled s ∧ Within s → Timely s event →
        Settled (step hands_on event s) ∧ Within (step hands_on event s) := by
    intro _ s event h htimely
    obtain ⟨k, hqueued⟩ := h.1.queued
    exact ⟨h.1.step, within_step hqueued.waits h.2 htimely⟩
  have hnew : Within (new min_size max_size : AsyncConnectionPool ι) := by
    have hzero : ∑ i : ι, starts ((new min_size max_size : AsyncConnectionPool ι).place i) = 0 :=
      Finset.sum_eq_zero fun _ _ => rfl
    unfold Within spoken_for
    rw [hzero]
    exact Int.natCast_nonneg max_size
  have hboth := (Run.trace_invariant (I := fun _ s => Settled s ∧ Within s)
    (P := fun x => Timely x.before x.input) hstep ⟨settled_new min_size max_size, hnew⟩ timely hk).2
  exact bounded_of_within hboth.1 hboth.2

/-- `start` opens one connection, then a task acquires it. -/
def startThenAcquire : List (PoolEvent Bool) :=
  [.start true, .resume true true, .resume true true, .acquire false, .resume false true,
    .resume false true]

theorem pool_bounded_startThenAcquire :
    (perform false startThenAcquire (new 1 2)).place false = .lent 0 ∧
      ∀ x ∈ poolTrace false startThenAcquire (new 1 2), Bounded x.after := by
  refine ⟨by decide +kernel, pool_bounded false 1 2 startThenAcquire fun x hx _ => ?_⟩
  have hless : (poolTrace false startThenAcquire (new 1 2)).all (fun x =>
      decide (spoken_for x.before < x.before.max_size)) = true := by
    decide +kernel
  exact of_decide_eq_true (List.all_eq_true.mp hless x hx)

/-- `start` opens its connection while a task opens the only one there may be. -/
def startDuringOpen : List (PoolEvent Bool) :=
  [.acquire true, .resume true true, .start false, .resume false true, .resume false true]

/-- The pool of one connection counts two. -/
theorem start_during_open_exceeds :
    (perform false startDuringOpen (new 1 1)).created = 2 ∧
      ¬ ∀ x ∈ poolTrace false startDuringOpen (new 1 1), Bounded x.after := by
  refine ⟨by decide +kernel, fun h => ?_⟩
  have hlast := h _ (List.getElem_mem (show 4 < (poolTrace false startDuringOpen (new 1 1)).length
    by decide))
  have hcreated := hlast.created
  revert hcreated
  decide +kernel

end SapRfc.Analysis.PoolBounds
