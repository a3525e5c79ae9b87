import SapRfc.Analysis.ThreadSlots

/-!
# The connections of the threaded pool

Every connection that `connect` has returned is idle, in the hand of one caller or closed, and
each critical section keeps it so: what leaves the pool is closed by the caller that took it
out.  Only the constructor has no such caller.  If a connect of its warm-up raises then the
connections before it are never closed.
-/

set_option autoImplicit false

namespace SapRfc.Analysis.PoolLeaks

open SapRfc.Library SapRfc.Program SapRfc.Program.ConnectionPool
open SapRfc.Analysis.ThreadSlots

variable {ι : Type} [Fintype ι]

/-! ## Where a connection is -/

/-- The connections in the hand of a caller at this place. -/
def held : Spot → List ℕ
  | .pinging candidate => [candidate]
  | .closing_dead candidate => [candidate]
  | .lent conn => [conn]
  | .releasing conn => [conn]
  | .closing_released conn => [conn]
  | .closing_idle conns => conns
  | _ => []

/-- How often a connection is closed, idle or in a hand. -/
def places (c : ℕ) (s : ConnectionPool ι) : ℕ :=
  s.closes.count c + s.idle.count c + ∑ i, (held (s.place i)).count c

/-- Every connection is in one place, and a closed pool has no idle ones. -/
structure Accounted (s : ConnectionPool ι) : Prop where
  once : ∀ c, places c s = if c < s.opened then 1 else 0
  drained : s.closed = true → s.idle = []

theorem held_closing (conns : List ℕ) : held (closing conns) = conns := by
  cases conns <;> rfl

section Steps

variable [DecidableEq ι] {s s' : ConnectionPool ι} {i : ι} {next : Spot}

theorem places_goto (c : ℕ) (i : ι) (next : Spot) (s : ConnectionPool ι) :
    places c (goto i next s) + (held (s.place i)).count c = places c s + (held next).count c := by
  have hsum := sum_update s.place (fun p => (held p).count c) i next
  show s.closes.count c + s.idle.count c +
      ∑ j, (held (Function.update s.place i next j)).count c + (held (s.place i)).count c =
    s.closes.count c + s.idle.count c + ∑ j, (held (s.place j)).count c + (held next).count c
  omega

/-- INTERNAL: a waiting caller holds nothing, and is notified. -/
theorem places_notify (hqueue : ∀ j ∈ s.waiters, s.place j = .waiting) (pick c : ℕ) :
    places c (notify pick s) = places c s := by
  unfold notify
  cases hw : s.waiters.rotate pick with
  | nil => rfl
  | cons j rest =>
    have hmem : j ∈ s.waiters := by
      rw [← List.mem_rotate (n := pick), hw]
      exact List.mem_cons_self
    have hgo := places_goto c j .notified { s with waiters := rest }
    rw [show ({ s with waiters := rest } : ConnectionPool ι).place j = .waiting from
      hqueue j hmem] at hgo
    exact hgo

theorem places_notify_all (hqueue : ∀ j ∈ s.waiters, s.place j = .waiting) (c : ℕ) :
    places c (notify_all s) = places c s := by
  have hsame : ∀ j, held ((notify_all s).place j) = held (s.place j) := by
    intro j
    show held (if j ∈ s.waiters then .notified else s.place j) = _
    by_cases hj : j ∈ s.waiters
    · rw [if_pos hj, hqueue j hj]
      rfl
    · rw [if_neg hj]
  unfold places
  rw [Finset.sum_congr rfl fun j _ => congrArg (List.count c) (hsame j)]
  rfl

/-- A caller goes on, and every connection is in as many places as before. -/
theorem Accounted.goto (h : Accounted s) (hplace : s'.place i = s.place i)
    (hopened : s'.opened = s.opened) (hdrained : s'.closed = true → s'.idle = [])
    (hmoved : ∀ c, places c s' + (held next).count c = places c s + (held (s.place i)).count c) :
    Accounted (goto i next s') := by
  refine ⟨fun c => ?_, hdrained⟩
  have hgo := places_goto c i next s'
  have honce := h.once c
  have hsame := hmoved c
  rw [hplace] at hgo
  show places c (ConnectionPool.goto i next s') = if c < s'.opened then 1 else 0
  rw [hopened]
  omega

/-- A caller with nothing in its hand goes to a place where it has nothing. -/
theorem Accounted.goto_free (h : Accounted s) (hi : held (s.place i) = [])
    (hnext : held next = []) : Accounted (ConnectionPool.goto i next s) :=
  h.goto rfl rfl h.drained fun c => by rw [hi, hnext]

/-- The head of the loop takes an idle connection into the hand. -/
theorem Accounted.loop_head (h : Accounted s) (late : Bool) (hi : held (s.place i) = []) :
    Accounted (loop_head i late s) := by
  unfold ConnectionPool.loop_head
  by_cases hclosed : s.closed = true
  · rw [if_pos hclosed]
    exact h.goto_free hi rfl
  · rw [if_neg hclosed]
    cases hidle : s.idle with
    | cons candidate rest =>
      refine h.goto rfl rfl (fun hshut => absurd hshut hclosed) fun c => ?_
      unfold places
      rw [hi, hidle]
      simp only [held, List.count_cons, List.count_nil]
      omega
    | nil =>
      have hsame : ∀ c created waiters, places c { s with
          idle := [], created := created, waiters := waiters } = places c s := by
        intro c created waiters
        unfold places
        rw [hidle]
      by_cases hroom : s.created < s.max_size
      · simp only [if_pos hroom]
        exact h.goto rfl rfl (fun _ => rfl) fun c => by rw [hi, hsame]; rfl
      · simp only [if_neg hroom]
        cases late with
        | true => exact h.goto_free hi rfl
        | false => exact h.goto rfl rfl (fun _ => rfl) fun c => by rw [hi, hsame]; rfl

variable (hqueue : ∀ j ∈ s.waiters, s.place j = .waiting)

include hqueue in
theorem Accounted.open_ended (h : Accounted s) (good : Bool) (pick : ℕ)
    (hi : s.place i = .opening) : Accounted (open_ended i good pick s) := by
  unfold ConnectionPool.open_ended
  cases good with
  | false =>
    refine h.goto ?_ (notify_opened pick _) ?_ fun c => ?_
    · exact notify_place (s := { s with created := s.created - 1 }) hqueue
        (by show s.place i ≠ .waiting; rw [hi]; nofun)
    · simp only [notify_closed, notify_idle]
      exact h.drained
    · rw [places_notify (s := { s with created := s.created - 1 }) hqueue, hi]
      rfl
  | true =>
    refine ⟨fun c => ?_, h.drained⟩
    have hgo := places_goto c i (.lent s.opened) { s with
      in_use := insert s.opened s.in_use, opened := s.opened + 1 }
    have hplace : ({ s with
        in_use := insert s.opened s.in_use, opened := s.opened + 1 } : ConnectionPool ι).place i =
          .opening := hi
    have hbooks : places c { s with
        in_use := insert s.opened s.in_use, opened := s.opened + 1 } = places c s := rfl
    have honce := h.once c
    rw [hplace, hbooks, honce] at hgo
    simp only [held, List.count_cons, List.count_nil, beq_iff_eq] at hgo
    show places c (ConnectionPool.goto i (.lent s.opened) _) = if c < s.opened + 1 then 1 else 0
    split_ifs at hgo ⊢ <;> omega

include hqueue in
theorem Accounted.release (h : Accounted s) {conn : ℕ} (pick : ℕ)
    (hi : s.place i = .releasing conn) : Accounted (release i conn pick s) := by
  unfold ConnectionPool.release
  by_cases hclosed : s.closed = true
  · rw [if_pos hclosed]
    exact h.goto rfl rfl h.drained fun c => by rw [hi]; rfl
  · rw [if_neg hclosed]
    refine h.goto ?_ (notify_opened pick _) ?_ fun c => ?_
    · exact notify_place (s := { s with
        in_use := s.in_use.erase conn, idle := s.idle ++ [conn] }) hqueue
        (by show s.place i ≠ .waiting; rw [hi]; nofun)
    · simp only [notify_closed, notify_idle]
      exact fun hshut => absurd hshut hclosed
    · rw [places_notify (s := { s with
        in_use := s.in_use.erase conn, idle := s.idle ++ [conn] }) hqueue, hi]
      unfold places
      simp only [held, List.count_append, List.count_nil]
      omega

include hqueue in
theorem Accounted.close (h : Accounted s) (hi : s.place i = .shutting) :
    Accounted (ConnectionPool.close i s) := by
  unfold ConnectionPool.close
  by_cases hclosed : s.closed = true
  · rw [if_pos hclosed]
    exact h.goto_free (by rw [hi]; rfl) rfl
  · rw [if_neg hclosed]
    refine h.goto ?_ rfl (fun _ => rfl) fun c => ?_
    · refine if_neg fun hmem => ?_
      cases hi.symm.trans (hqueue i hmem)
    · rw [places_notify_all (s := { s with
        closed := true, idle := [], created := s.created - s.idle.length }) hqueue, held_closing,
        hi]
      unfold places
      simp only [held, List.count_nil]
      omega

include hqueue in
theorem Accounted.resume (h : Accounted s) (i : ι) (good late : Bool) (pick : ℕ) :
    Accounted (ConnectionPool.resume i good late pick s) := by
  unfold ConnectionPool.resume
  cases hi : s.place i with
  | outside => exact h
  | entering => exact h.loop_head late (by rw [hi]; rfl)
  | waiting =>
    have hleft : Accounted { s with waiters := s.waiters.erase i } := ⟨h.once, h.drained⟩
    exact hleft.loop_head late (by show held (s.place i) = _; rw [hi]; rfl)
  | notified => exact h.loop_head late (by rw [hi]; rfl)
  | pinging candidate =>
    cases good with
    | true => exact h.goto rfl rfl h.drained fun c => by rw [hi]; rfl
    | false => exact h.goto rfl rfl h.drained fun c => by rw [hi]; rfl
  | closing_dead candidate =>
    have hclosed : Accounted (ConnectionPool.goto i .entering (notify pick { s with
        closes := s.closes ++ [candidate] })) := by
      refine h.goto ?_ (notify_opened pick _) ?_ fun c => ?_
      · exact notify_place (s := { s with closes := s.closes ++ [candidate] }) hqueue
          (by show s.place i ≠ .waiting; rw [hi]; nofun)
      · simp only [notify_closed, notify_idle]
        exact h.drained
      · rw [places_notify (s := { s with closes := s.closes ++ [candidate] }) hqueue, hi]
        unfold places
        simp only [held, List.count_append, List.count_nil]
        omega
    have hfree : held ((ConnectionPool.goto i .entering (notify pick { s with
        closes := s.closes ++ [candidate] })).place i) = [] := by
      unfold ConnectionPool.goto
      simp only [Function.update_self, held]
    have hhead := hclosed.loop_head late hfree
    rw [loop_head_goto] at hhead
    exact hhead
  | opening => exact h.open_ended hqueue good pick hi
  | lent conn => exact h
  | releasing conn => exact h.release hqueue pick hi
  | closing_released conn =>
    refine h.goto ?_ (notify_opened pick _) ?_ fun c => ?_
    · exact notify_place (s := { s with closes := s.closes ++ [conn] }) hqueue
        (by show s.place i ≠ .waiting; rw [hi]; nofun)
    · simp only [notify_closed, notify_idle]
      exact h.drained
    · rw [places_notify (s := { s with closes := s.closes ++ [conn] }) hqueue, hi]
      unfold places
      simp only [held, List.count_append, List.count_nil]
      omega
  | shutting => exact h.close hqueue hi
  | closing_idle conns =>
    refine h.goto rfl rfl h.drained fun c => ?_
    rw [held_closing, hi]
    unfold places
    have hsplit : conns.count c = (conns.take 1).count c + conns.tail.count c := by
      cases conns with
      | nil => rfl
      | cons first rest => simp [List.count_cons, Nat.add_comm]
    simp only [held, List.count_append]
    omega

include hqueue in
theorem Accounted.step (h : Accounted s) (event : ThreadEvent ι) :
    Accounted (ConnectionPool.step event s) := by
  have hcall : ∀ (i : ι) (next : Spot), held next = [] →
      Accounted (if s.place i = .outside then ConnectionPool.goto i next s else s) := by
    intro i next hnext
    by_cases hi : s.place i = .outside
    · rw [if_pos hi]
      exact h.goto_free (by rw [hi]; rfl) hnext
    · rw [if_neg hi]
      exact h
  cases event with
  | acquire i => exact hcall i _ rfl
  | close i => exact hcall i _ rfl
  | leave i =>
    cases step_leave i s with
    | inl hlent =>
      obtain ⟨conn, hi, hstep⟩ := hlent
      rw [hstep]
      exact h.goto rfl rfl h.drained fun c => by rw [hi]; rfl
    | inr hstep =>
      rw [hstep]
      exact h
  | resume i good late pick => exact h.resume hqueue i good late pick

end Steps

/-! ## Runs -/

theorem accounted_warm (max_size n : ℕ) : Accounted (warm max_size n : ConnectionPool ι) := by
  refine ⟨fun c => ?_, nofun⟩
  have hnone : ∑ i, (held ((warm max_size n : ConnectionPool ι).place i)).count c = 0 :=
    Finset.sum_eq_zero fun _ _ => rfl
  unfold places
  rw [hnone]
  show 0 + (List.range n).count c + 0 = if c < n then 1 else 0
  rw [List.nodup_range.count]
  simp only [List.mem_range, Nat.zero_add, Nat.add_zero]

variable [DecidableEq ι]

theorem Accounted.perform {s : ConnectionPool ι} (horder : InOrder s) (h : Accounted s)
    (events : List (ThreadEvent ι)) : Accounted (perform events s) := by
  have hboth : InOrder (ThreadSlots.perform events s) ∧ Accounted (ThreadSlots.perform events s) :=
    List.foldlRecOn (motive := fun s => InOrder s ∧ Accounted s) events _ ⟨horder, h⟩
      fun _ hs event _ => ⟨hs.1.step event, hs.2.step hs.1.queued.waits event⟩
  exact hboth.2

/-- Each connection that `connect` has returned was closed once, and nothing else was. -/
def ClosedOnce (s : ConnectionPool ι) : Prop :=
  ∀ c, s.closes.count c = if c < s.opened then 1 else 0

/-- The pool is closed, `close` has returned, and every connection that was lent was released. -/
def Over (s : ConnectionPool ι) : Prop := s.closed = true ∧ ∀ i, held (s.place i) = []

omit [DecidableEq ι] in
theorem Accounted.closedOnce {s : ConnectionPool ι} (h : Accounted s) (hover : Over s) :
    ClosedOnce s := by
  intro c
  have honce := h.once c
  have hnone : ∑ i, (held (s.place i)).count c = 0 :=
    Finset.sum_eq_zero fun i _ => by rw [hover.2 i, List.count_nil]
  unfold places at honce
  rw [h.drained hover.1, hnone] at honce
  exact honce

variable (ι) in
/-- No connection is left open: not when the constructor has raised, and in no run of the pool
once it is over. -/
structure NoLeak (min_size max_size : ℤ) (good : ℕ → Bool) : Prop where
  raised : (construct min_size max_size good : Bool × ConnectionPool ι).1 = false →
    ClosedOnce (construct min_size max_size good : Bool × ConnectionPool ι).2
  returned : (construct min_size max_size good : Bool × ConnectionPool ι).1 = true →
    ∀ events : List (ThreadEvent ι),
      Over (ThreadSlots.perform events (construct min_size max_size good).2) →
        ClosedOnce (ThreadSlots.perform events (construct min_size max_size good).2)

/-- The first connect of the warm-up returns a connection, and a later one raises. -/
def RaisesLate (min_size max_size : ℤ) (good : ℕ → Bool) : Prop :=
  1 ≤ max_size ∧ min_size ≤ max_size ∧ good 0 = true ∧ ∃ k : ℕ, k < min_size ∧ good k = false

/-- SOURCE: pool.py:169-203 and pool.py:267-428.  No connection is left open, except those of a
warm-up that opened one before it raised. -/
theorem no_leak_iff (min_size max_size : ℤ) (good : ℕ → Bool) :
    NoLeak ι min_size max_size good ↔ ¬ RaisesLate min_size max_size good := by
  obtain ⟨m, _, hlast, hgood, hstate, hend⟩ :=
    warm_up_warm (ι := ι) good max_size.toNat min_size.toNat 0
  have hwarm : ¬ (min_size < 0 ∨ max_size < 1 ∨ min_size > max_size) →
      construct min_size max_size good =
        warm_up good min_size.toNat (warm max_size.toNat 0 : ConnectionPool ι) := fun hsizes =>
    if_neg hsizes
  constructor
  · rintro hno ⟨hmax, hle, hfirst, k, hk, hbad⟩
    have hconstruct := hwarm (by omega)
    have hraises : (construct min_size max_size good : Bool × ConnectionPool ι).1 = false := by
      rw [hconstruct]
      by_contra hreturns
      rw [if_pos (Bool.not_eq_false _ ▸ hreturns)] at hend
      have hk' := hgood k (Nat.zero_le k) (by omega)
      rw [hbad] at hk'
      cases hk'
    have hone := hno.raised hraises 0
    rw [hconstruct, hstate] at hone
    rw [hconstruct] at hraises
    rw [hraises] at hend
    have hpos : 0 < m := by
      refine Nat.pos_of_ne_zero fun hzero => ?_
      rw [hzero, hfirst] at hend
      cases hend.1
    rw [if_pos (show 0 < (warm max_size.toNat m : ConnectionPool ι).opened from hpos)] at hone
    cases hone
  · intro hnot
    constructor
    · intro hraises
      by_cases hsizes : min_size < 0 ∨ max_size < 1 ∨ min_size > max_size
      · unfold construct
        rw [if_pos hsizes]
        intro c
        rfl
      · rw [hwarm hsizes] at hraises ⊢
        rw [hraises] at hend
        rw [hstate]
        have hzero : m = 0 := by
          by_contra hne
          exact hnot ⟨by omega, by omega, hgood 0 (Nat.le_refl 0) (by omega), m,
            by have := hend.2; omega, hend.1⟩
        rw [hzero]
        intro c
        rfl
    · intro hreturns events hover
      obtain ⟨n, hn, hwarmed⟩ := construct_returns hreturns
      rw [hwarmed] at hover ⊢
      exact ((accounted_warm max_size.toNat n).perform (inOrder_warm hn) events).closedOnce hover

/-- The second connect of the warm-up raises, and nobody closes the first connection. -/
theorem second_warm_up_raises_leaks :
    (construct 2 2 (fun n => n == 0) : Bool × ConnectionPool Bool).2.opened = 1 ∧
      ¬ NoLeak Bool 2 2 (fun n => n == 0) := by
  refine ⟨by decide, fun h => ?_⟩
  have hone := h.raised (by decide) 0
  revert hone
  decide

end SapRfc.Analysis.PoolLeaks
