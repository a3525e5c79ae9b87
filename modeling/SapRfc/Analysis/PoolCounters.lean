import SapRfc.Analysis.ThreadSlots
import SapRfc.Program.PoolMetrics

/-!
# The counters of the threaded pool

The counters are incremented in different critical sections, between which other callers run, and
one of them is taken back.  Whenever the lock is free they add up all the same: with the callers
that are on their way they account for every checkout, for every connection that was opened and for
the size of the pool.
-/

set_option autoImplicit false

namespace SapRfc.Analysis.PoolCounters

open SapRfc.Library SapRfc.Program SapRfc.Program.ConnectionPool
open SapRfc.Analysis.ThreadSlots

variable {ι : Type} [Fintype ι]

/-! ## Sums over the callers -/

/-- The sum of what each caller counts for at its place. -/
def tally (f : ι → Spot → ℕ) (s : ConnectionPool ι) : ℕ := ∑ i, f i (s.place i)

section Tally

variable [DecidableEq ι] {f : ι → Spot → ℕ} {s : ConnectionPool ι}

theorem tally_goto (f : ι → Spot → ℕ) (i : ι) (next : Spot) (s : ConnectionPool ι) :
    tally f (goto i next s) + f i (s.place i) = tally f s + f i next := by
  have hsum := sum_update (fun j => f j (s.place j)) (fun n => n) i (f i next)
  have hterms : (fun j => f j ((goto i next s).place j)) =
      Function.update (fun j => f j (s.place j)) i (f i next) := by
    funext j
    exact Function.apply_update f s.place i next j
  unfold tally
  rw [hterms]
  exact hsum

/-- INTERNAL: whoever is notified counts for as much as before. -/
theorem tally_notify (hf : ∀ j, f j .notified = f j .waiting)
    (hqueue : ∀ j ∈ s.waiters, s.place j = .waiting) (pick : ℕ) :
    tally f (notify pick s) = tally f s := by
  unfold notify
  cases hw : s.waiters.rotate pick with
  | nil => rfl
  | cons j rest =>
    have hmem : j ∈ s.waiters := by
      rw [← List.mem_rotate (n := pick), hw]
      exact List.mem_cons_self
    have hgo := tally_goto f j .notified { s with waiters := rest }
    rw [show ({ s with waiters := rest } : ConnectionPool ι).place j = .waiting from
      hqueue j hmem, hf j] at hgo
    exact Nat.add_right_cancel hgo

theorem tally_notify_all (hf : ∀ j, f j .notified = f j .waiting)
    (hqueue : ∀ j ∈ s.waiters, s.place j = .waiting) :
    tally f (notify_all s) = tally f s := by
  refine Finset.sum_congr rfl fun j _ => ?_
  show f j (if j ∈ s.waiters then .notified else s.place j) = _
  by_cases hj : j ∈ s.waiters
  · rw [if_pos hj, hqueue j hj]
    exact hf j
  · rw [if_neg hj]

end Tally

/-! ## What adds up -/

/-- One for a caller that is opening a connection. -/
def opening (_ : ι) : Spot → ℕ := opens

/-- One for a caller that is in a checkout. -/
def checking : Spot → ℕ
  | .entering => 1
  | .waiting => 1
  | .notified => 1
  | .pinging _ => 1
  | .closing_dead _ => 1
  | .opening => 1
  | _ => 0

/-- What a caller in a checkout has discarded so far. -/
def blamed (discarded : ι → ℕ) (i : ι) (p : Spot) : ℕ := checking p * discarded i

/-- The counters of a pool that was opened with so many connections. -/
structure AddsUp (min_size : ℕ) (s : MeteredPool ι) : Prop where
  /-- every connection behind those of the warm-up was created by a checkout -/
  creates : (s.pool.opened : ℤ) + tally opening s.pool = min_size + s.metrics.creates
  least : min_size ≤ s.pool.opened
  /-- every checkout that lent a connection is a hit, or has opened its connection -/
  acquires : s.metrics.acquires + min_size = s.metrics.hits + s.pool.opened
  /-- every checkout has lent a connection, timed out or raised, or goes on -/
  checkouts : s.begun = s.metrics.acquires + s.metrics.timeouts + s.failed +
    tally (fun _ => checking) s.pool
  /-- what is in the pool was created and not discarded -/
  size : s.pool.closed = false →
    s.pool.created + s.metrics.discards = min_size + s.metrics.creates
  size_le : s.pool.created + s.metrics.discards ≤ min_size + s.metrics.creates
  /-- no discarded connection is put down to two checkouts -/
  discards : (s.timed_out.map (·.discarded)).sum + tally (blamed s.discarded) s.pool ≤
    s.metrics.discards
  timeouts : s.timed_out.length = s.metrics.timeouts
  /-- who times out finds nothing idle -/
  exhausted : ∀ e ∈ s.timed_out, e.idle = 0 ∧ e.active ≤ e.max_size ∧
    e.max_size = s.pool.max_size

/-- No more checkouts are hits than have lent a connection. -/
theorem AddsUp.hits_le {min_size : ℕ} {s : MeteredPool ι} (h : AddsUp min_size s) :
    s.metrics.hits ≤ s.metrics.acquires := by
  have hacquires := h.acquires
  have hleast := h.least
  omega

section Steps

variable [DecidableEq ι] {min_size : ℕ} {s s' : MeteredPool ι} {i : ι} {next : Spot}

/-- At most some other callers were notified. -/
structure Alike (i : ι) (pool pool' : ConnectionPool ι) : Prop where
  place : pool'.place i = pool.place i
  tally : ∀ f : ι → Spot → ℕ, (∀ j, f j .notified = f j .waiting) → tally f pool' = tally f pool

omit [DecidableEq ι] in
theorem alike_of_place {pool pool' : ConnectionPool ι} (h : pool'.place = pool.place) :
    Alike i pool pool' := by
  refine ⟨congrFun h i, fun f _ => ?_⟩
  unfold PoolCounters.tally
  rw [h]

omit [DecidableEq ι] in
theorem Alike.trans {pool pool₁ pool' : ConnectionPool ι} (h : Alike i pool pool₁)
    (h' : Alike i pool₁ pool') : Alike i pool pool' :=
  ⟨h'.place.trans h.place, fun f hf => (h'.tally f hf).trans (h.tally f hf)⟩

theorem alike_notify {pool pool' : ConnectionPool ι} (pick : ℕ) (hplace : pool'.place = pool.place)
    (hqueue : ∀ j ∈ pool'.waiters, pool'.place j = .waiting) (hi : pool.place i ≠ .waiting) :
    Alike i pool (notify pick pool') := by
  refine (alike_of_place hplace).trans ⟨notify_place hqueue ?_, fun _ hf => ?_⟩
  · rw [hplace]
    exact hi
  · exact tally_notify hf hqueue pick

theorem alike_notify_all {pool pool' : ConnectionPool ι} (hplace : pool'.place = pool.place)
    (hqueue : ∀ j ∈ pool'.waiters, pool'.place j = .waiting) (hi : pool.place i ≠ .waiting) :
    Alike i pool (notify_all pool') := by
  refine (alike_of_place hplace).trans ⟨if_neg fun hmem => hi ?_, fun _ hf => ?_⟩
  · rw [← hplace]
    exact hqueue i hmem
  · exact tally_notify_all hf hqueue

/-- A caller has gone from its place to another one, and at most some others were notified. -/
def Goes (i : ι) (next : Spot) (pool pool' : ConnectionPool ι) : Prop :=
  ∃ between, Alike i pool between ∧ pool' = goto i next between

theorem Goes.tally {pool pool' : ConnectionPool ι} (h : Goes i next pool pool')
    {f : ι → Spot → ℕ} (hf : ∀ j, f j .notified = f j .waiting) :
    tally f pool' + f i (pool.place i) = tally f pool + f i next := by
  obtain ⟨between, halike, rfl⟩ := h
  rw [← halike.tally f hf, ← halike.place]
  exact tally_goto f i next between

/-- What a critical section leaves in balance: what it adds to one counter it adds to another one,
or to the place of its caller. -/
structure Accounts (i : ι) (next : Spot) (s s' : MeteredPool ι) : Prop where
  goes : Goes i next s.pool s'.pool
  max_size : s'.pool.max_size = s.pool.max_size
  creates : (s'.pool.opened : ℤ) + opens next + s.metrics.creates =
    s.pool.opened + opens (s.pool.place i) + s'.metrics.creates
  opened : s.pool.opened ≤ s'.pool.opened
  acquires : s'.metrics.acquires + s.metrics.hits + s.pool.opened =
    s.metrics.acquires + s'.metrics.hits + s'.pool.opened
  checkouts : s'.begun + (s.metrics.acquires + s.metrics.timeouts + s.failed) +
      checking (s.pool.place i) =
    s.begun + (s'.metrics.acquires + s'.metrics.timeouts + s'.failed) + checking next
  size : s'.pool.closed = false → s.pool.closed = false ∧
    s'.pool.created + s'.metrics.discards + s.metrics.creates =
      s.pool.created + s.metrics.discards + s'.metrics.creates
  size_le : s'.pool.created + s'.metrics.discards + s.metrics.creates ≤
    s.pool.created + s.metrics.discards + s'.metrics.creates
  others : ∀ j, j ≠ i → s'.discarded j = s.discarded j
  discards : (s'.timed_out.map (·.discarded)).sum + checking next * s'.discarded i +
      s.metrics.discards ≤
    (s.timed_out.map (·.discarded)).sum + checking (s.pool.place i) * s.discarded i +
      s'.metrics.discards
  timeouts : s'.timed_out.length + s.metrics.timeouts =
    s.timed_out.length + s'.metrics.timeouts
  exhausted : ∀ e ∈ s'.timed_out, e ∈ s.timed_out ∨
    e.idle = 0 ∧ e.active ≤ e.max_size ∧ e.max_size = s.pool.max_size

/-- What is in balance stays so. -/
theorem AddsUp.accounts (h : AddsUp min_size s) (hs : Accounts i next s s') :
    AddsUp min_size s' := by
  have hopening := hs.goes.tally (f := opening) fun _ => rfl
  have hchecking := hs.goes.tally (f := fun _ => checking) fun _ => rfl
  unfold opening at hopening
  -- the callers that stay where they are have discarded what they had discarded before
  have hblamed : tally (blamed s'.discarded) s'.pool + checking (s.pool.place i) * s.discarded i =
      tally (blamed s.discarded) s.pool + checking next * s'.discarded i := by
    have hmoved := hs.goes.tally (f := blamed (Function.update s.discarded i (s'.discarded i)))
      fun _ => rfl
    have hafter : Function.update s.discarded i (s'.discarded i) = s'.discarded := by
      funext j
      by_cases hj : j = i
      · rw [hj, Function.update_self]
      · rw [Function.update_of_ne hj, hs.others j hj]
    have hterm := sum_update (fun j => checking (s.pool.place j) * s.discarded j) (fun n => n) i
      (checking (s.pool.place i) * s'.discarded i)
    have hterms : (fun j => blamed s'.discarded j (s.pool.place j)) = Function.update
        (fun j => checking (s.pool.place j) * s.discarded j) i
          (checking (s.pool.place i) * s'.discarded i) := by
      funext j
      by_cases hj : j = i
      · rw [hj, Function.update_self]
        rfl
      · rw [Function.update_of_ne hj]
        show checking (s.pool.place j) * s'.discarded j = _
        rw [hs.others j hj]
    have hbefore : tally (blamed s'.discarded) s.pool + checking (s.pool.place i) * s.discarded i =
        tally (blamed s.discarded) s.pool + checking (s.pool.place i) * s'.discarded i := by
      unfold PoolCounters.tally
      rw [hterms]
      exact hterm
    rw [hafter] at hmoved
    unfold blamed at hmoved hbefore ⊢
    omega
  have hcreates := hs.creates
  have hacquires := hs.acquires
  have hcheckouts := hs.checkouts
  have hdiscards := hs.discards
  have htimeouts := hs.timeouts
  refine ⟨?_, h.least.trans hs.opened, ?_, ?_, fun hclosed => ?_, ?_, ?_, ?_, fun e he => ?_⟩
  · have hbefore := h.creates
    unfold opening at hbefore ⊢
    omega
  · have hbefore := h.acquires
    omega
  · have hbefore := h.checkouts
    omega
  · obtain ⟨hopen, hsame⟩ := hs.size hclosed
    have hbefore := h.size hopen
    omega
  · have hbefore := h.size_le
    have hafter := hs.size_le
    omega
  · have hbefore := h.discards
    omega
  · have hbefore := h.timeouts
    omega
  · rcases hs.exhausted e he with hold | ⟨hidle, hactive, hmaximum⟩
    · obtain ⟨hidle, hactive, hmaximum⟩ := h.exhausted e hold
      exact ⟨hidle, hactive, hmaximum.trans hs.max_size.symm⟩
    · exact ⟨hidle, hactive, hmaximum.trans hs.max_size.symm⟩

/-! ## The critical sections -/

omit [Fintype ι] in
theorem notify_in_use (pick : ℕ) (pool : ConnectionPool ι) :
    (notify pick pool).in_use = pool.in_use := by
  unfold notify
  cases pool.waiters.rotate pick <;> rfl

omit [DecidableEq ι] in
/-- No more connections are lent than the pool may have. -/
theorem active_le {pool : ConnectionPool ι} (h : Owned pool) :
    pool.in_use.card ≤ pool.max_size := by
  have hbalance := h.balance
  have hbounded := h.bounded
  omega

/-- What the head of the loop finds: nothing but places has changed since the caller came. -/
structure Finds (i : ι) (s : MeteredPool ι) (pool : ConnectionPool ι) : Prop where
  alike : Alike i s.pool pool
  closed : pool.closed = s.pool.closed
  created : pool.created = s.pool.created
  opened : pool.opened = s.pool.opened
  max_size : pool.max_size = s.pool.max_size
  active : pool.in_use.card ≤ pool.max_size
  checking : checking (s.pool.place i) = 1
  opens : opens (s.pool.place i) = 0

theorem accounts_loop_head {pool : ConnectionPool ι} (h : Finds i s pool) (late : Bool) :
    ∃ next, Accounts i next s (MeteredPool.loop_head i late { s with pool := pool }) := by
  have hchecking := h.checking
  have hopens := h.opens
  have hopened := h.opened
  have hcreated := h.created
  have hopen : pool.closed = false → s.pool.closed = false := fun hfalse =>
    h.closed.symm.trans hfalse
  have hblamed : checking (s.pool.place i) * s.discarded i = s.discarded i := by
    rw [hchecking, Nat.one_mul]
  cases hclosed : pool.closed with
  | true =>
    rw [MeteredPool.loop_head_closed (s := { s with pool := pool }) hclosed]
    refine ⟨.outside, ⟨pool, h.alike, rfl⟩, h.max_size, ?_, Nat.le_of_eq hopened.symm, ?_, ?_, ?_,
      ?_, fun _ _ => rfl, ?_, rfl, fun e he => .inl he⟩
    · rw [hopens]
      dsimp only [ConnectionPool.goto, opens]
      omega
    · dsimp only [ConnectionPool.goto]
      omega
    · rw [hchecking]
      dsimp only [checking]
      omega
    · exact fun hfalse => absurd (hclosed.symm.trans hfalse) (by decide)
    · dsimp only [ConnectionPool.goto]
      omega
    · rw [hchecking]
      dsimp only [checking]
      omega
  | false =>
    cases hidle : pool.idle with
    | cons candidate rest =>
      rw [MeteredPool.loop_head_idle (s := { s with pool := pool }) hclosed hidle]
      refine ⟨.pinging candidate, ⟨{ pool with
          idle := rest
          in_use := insert candidate pool.in_use },
          h.alike.trans (alike_of_place rfl), rfl⟩,
        h.max_size, ?_, Nat.le_of_eq hopened.symm, ?_, ?_, fun _ => ⟨hopen hclosed, ?_⟩, ?_,
        fun _ _ => rfl, ?_, rfl, fun e he => .inl he⟩
      · rw [hopens]
        dsimp only [ConnectionPool.goto, opens]
        omega
      · dsimp only [ConnectionPool.goto]
        omega
      · rw [hchecking]
        dsimp only [checking]
      · dsimp only [ConnectionPool.goto]
        omega
      · dsimp only [ConnectionPool.goto]
        omega
      · rw [hchecking]
        dsimp only [checking]
        omega
    | nil =>
      by_cases hroom : pool.created < pool.max_size
      · rw [MeteredPool.loop_head_room (s := { s with pool := pool }) hclosed hidle hroom]
        refine ⟨.opening, ⟨{ pool with created := pool.created + 1 },
          h.alike.trans (alike_of_place rfl), rfl⟩, h.max_size, ?_,
          Nat.le_of_eq hopened.symm, ?_, ?_, fun _ => ⟨hopen hclosed, ?_⟩, ?_, fun _ _ => rfl, ?_,
          rfl, fun e he => .inl he⟩
        · rw [hopens]
          dsimp only [ConnectionPool.goto, opens]
          omega
        · dsimp only [ConnectionPool.goto]
          omega
        · rw [hchecking]
          dsimp only [checking]
        · dsimp only [ConnectionPool.goto]
          omega
        · dsimp only [ConnectionPool.goto]
          omega
        · rw [hchecking]
          dsimp only [checking]
          omega
      · cases late with
        | true =>
          rw [MeteredPool.loop_head_late (s := { s with pool := pool }) hclosed hidle hroom]
          refine ⟨.outside, ⟨pool, h.alike, rfl⟩, h.max_size, ?_, Nat.le_of_eq hopened.symm, ?_, ?_,
            fun _ => ⟨hopen hclosed, ?_⟩, ?_, fun _ _ => rfl, ?_, ?_, fun e he => ?_⟩
          · rw [hopens]
            dsimp only [ConnectionPool.goto, opens]
            omega
          · dsimp only [ConnectionPool.goto]
            omega
          · rw [hchecking]
            dsimp only [checking]
            omega
          · dsimp only [ConnectionPool.goto]
            omega
          · dsimp only [ConnectionPool.goto]
            omega
          · rw [hchecking]
            rw [List.map_append, List.sum_append, List.map_singleton, List.sum_singleton]
            dsimp only [checking, MeteredPool.timeout_error]
            omega
          · dsimp only
            rw [List.length_append, List.length_singleton]
            omega
          · refine (List.mem_append.mp he).imp id fun hlast => ?_
            rw [List.mem_singleton.mp hlast]
            exact ⟨congrArg List.length hidle, h.active, h.max_size⟩
        | false =>
          rw [MeteredPool.loop_head_wait (s := { s with pool := pool }) hclosed hidle hroom]
          refine ⟨.waiting, ⟨{ pool with waiters := pool.waiters ++ [i] },
            h.alike.trans (alike_of_place rfl), rfl⟩, h.max_size, ?_,
            Nat.le_of_eq hopened.symm, ?_, ?_, fun _ => ⟨hopen hclosed, ?_⟩, ?_, fun _ _ => rfl,
            ?_, rfl, fun e he => .inl he⟩
          · rw [hopens]
            dsimp only [ConnectionPool.goto, opens]
            omega
          · dsimp only [ConnectionPool.goto]
            omega
          · rw [hchecking]
            dsimp only [checking]
          · dsimp only [ConnectionPool.goto]
            omega
          · dsimp only [ConnectionPool.goto]
            omega
          · rw [hchecking]
            dsimp only [checking]
            omega

variable (next) in
/-- A critical section that counts nothing. -/
theorem accounts_quiet {pool : ConnectionPool ι} (hgoes : Goes i next s.pool pool)
    (hmax : pool.max_size = s.pool.max_size) (hopened : pool.opened = s.pool.opened)
    (hopens : opens next = opens (s.pool.place i))
    (hchecking : checking next = checking (s.pool.place i))
    (hclosed : pool.closed = false → s.pool.closed = false ∧ pool.created = s.pool.created)
    (hcreated : pool.created ≤ s.pool.created) : Accounts i next s { s with pool := pool } := by
  refine ⟨hgoes, hmax, ?_, Nat.le_of_eq hopened.symm, ?_, ?_, fun hopen => ?_, ?_, fun _ _ => rfl,
    ?_, rfl, fun e he => .inl he⟩
  · rw [hopens]
    show (pool.opened : ℤ) + _ + _ = _
    rw [hopened]
  · show s.metrics.acquires + s.metrics.hits + s.pool.opened =
      s.metrics.acquires + s.metrics.hits + pool.opened
    rw [hopened]
  · rw [hchecking]
  · obtain ⟨hbefore, hsame⟩ := hclosed hopen
    refine ⟨hbefore, ?_⟩
    show pool.created + _ + _ = _
    rw [hsame]
  · show pool.created + s.metrics.discards + s.metrics.creates ≤
      s.pool.created + s.metrics.discards + s.metrics.creates
    omega
  · rw [hchecking]

theorem accounts_pinged {candidate : ℕ} (hi : s.pool.place i = .pinging candidate)
    (healthy : Bool) :
    ∃ next, Accounts i next s (MeteredPool.pinged i candidate healthy s) := by
  unfold MeteredPool.pinged ConnectionPool.pinged
  cases healthy with
  | true =>
    simp only [if_true]
    refine ⟨.lent candidate, ⟨s.pool, alike_of_place rfl, rfl⟩, rfl, ?_, Nat.le_refl _, ?_, ?_,
      fun hopen => ⟨hopen, rfl⟩, Int.le_refl _, fun _ _ => rfl, ?_, rfl, fun e he => .inl he⟩
    · rw [hi]
      rfl
    · dsimp only [ConnectionPool.goto]
      omega
    · rw [hi]
      dsimp only [checking]
      omega
    · rw [hi]
      dsimp only [checking]
      omega
  | false =>
    simp only [Bool.false_eq_true, if_false]
    refine ⟨.closing_dead candidate, ⟨{ s.pool with
        in_use := s.pool.in_use.erase candidate
        created := s.pool.created - 1 }, alike_of_place rfl, rfl⟩, rfl, ?_, Nat.le_refl _, ?_, ?_,
      fun hopen => ⟨hopen, ?_⟩, ?_, fun j hj => ?_, ?_, rfl, fun e he => .inl he⟩
    · rw [hi]
      rfl
    · dsimp only [ConnectionPool.goto]
    · rw [hi]
      rfl
    · dsimp only [ConnectionPool.goto]
      omega
    · dsimp only [ConnectionPool.goto]
      omega
    · exact Function.update_of_ne hj _ _
    · rw [hi]
      dsimp only [checking]
      rw [Function.update_self]
      omega

theorem accounts_dead_closed {candidate : ℕ} (h : InOrder s.pool)
    (hi : s.pool.place i = .closing_dead candidate) (late : Bool) (pick : ℕ) :
    ∃ next, Accounts i next s (MeteredPool.dead_closed i candidate late pick s) := by
  have hne : s.pool.place i ≠ .waiting := by
    rw [hi]
    intro h
    cases h
  have hnotified : Alike i s.pool
      (notify pick { s.pool with closes := s.pool.closes ++ [candidate] }) :=
    alike_notify pick rfl h.queued.waits hne
  refine accounts_loop_head ⟨hnotified, ?_, ?_, ?_, ?_, ?_, ?_, ?_⟩ late
  · exact notify_closed pick _
  · exact notify_created pick _
  · exact notify_opened pick _
  · exact notify_max_size pick _
  · rw [notify_max_size, notify_in_use]
    show s.pool.in_use.card ≤ s.pool.max_size
    exact active_le h.owned
  · rw [hi]
    rfl
  · rw [hi]
    rfl

theorem accounts_open_ended (h : InOrder s.pool) (hi : s.pool.place i = .opening) (good : Bool)
    (pick : ℕ) : ∃ next, Accounts i next s (MeteredPool.open_ended i good pick s) := by
  unfold MeteredPool.open_ended ConnectionPool.open_ended
  cases good with
  | true =>
    simp only [if_true]
    refine ⟨.lent s.pool.opened, ⟨{ s.pool with
        in_use := insert s.pool.opened s.pool.in_use
        opened := s.pool.opened + 1 }, alike_of_place rfl, rfl⟩, rfl, ?_, Nat.le_succ _, ?_, ?_,
      fun hopen => ⟨hopen, rfl⟩, Int.le_refl _, fun _ _ => rfl, ?_, rfl, fun e he => .inl he⟩
    · rw [hi]
      dsimp only [ConnectionPool.goto, opens]
      omega
    · dsimp only [ConnectionPool.goto]
      omega
    · rw [hi]
      dsimp only [checking]
      omega
    · rw [hi]
      dsimp only [checking]
      omega
  | false =>
    simp only [Bool.false_eq_true, if_false]
    have hne : s.pool.place i ≠ .waiting := by
      rw [hi]
      intro h
      cases h
    have hnotified : Alike i s.pool
        (notify pick { s.pool with created := s.pool.created - 1 }) :=
      alike_notify pick rfl h.queued.waits hne
    have hopened : (notify pick { s.pool with created := s.pool.created - 1 }).opened =
      s.pool.opened := notify_opened pick _
    have hcreated : (notify pick { s.pool with created := s.pool.created - 1 }).created =
      s.pool.created - 1 := notify_created pick _
    have hclosed : (notify pick { s.pool with created := s.pool.created - 1 }).closed =
      s.pool.closed := notify_closed pick _
    refine ⟨.outside, ⟨_, hnotified, rfl⟩, notify_max_size pick _, ?_, Nat.le_of_eq hopened.symm,
      ?_, ?_, fun hopen => ⟨hclosed.symm.trans hopen, ?_⟩, ?_, fun _ _ => rfl, ?_, rfl,
      fun e he => .inl he⟩
    · rw [hi]
      dsimp only [ConnectionPool.goto, opens]
      rw [hopened]
      omega
    · dsimp only [ConnectionPool.goto]
      rw [hopened]
    · rw [hi]
      dsimp only [checking]
      omega
    · dsimp only [ConnectionPool.goto]
      rw [hcreated]
      omega
    · dsimp only [ConnectionPool.goto]
      rw [hcreated]
      omega
    · rw [hi]
      dsimp only [checking]
      omega

theorem accounts_release (h : InOrder s.pool) {conn : ℕ} (hi : s.pool.place i = .releasing conn)
    (pick : ℕ) :
    ∃ next, Accounts i next s { s with pool := ConnectionPool.release i conn pick s.pool } := by
  unfold ConnectionPool.release
  by_cases hclosed : s.pool.closed = true
  · rw [if_pos hclosed]
    refine ⟨.closing_released conn, accounts_quiet _ ⟨{ s.pool with
        in_use := s.pool.in_use.erase conn
        created := s.pool.created - 1 }, alike_of_place rfl, rfl⟩ rfl rfl ?_ ?_
        (fun hopen => ?_) ?_⟩
    · rw [hi]
      rfl
    · rw [hi]
      rfl
    · cases hclosed.symm.trans hopen
    · dsimp only [ConnectionPool.goto]
      omega
  · rw [if_neg hclosed]
    have hne : s.pool.place i ≠ .waiting := by
      rw [hi]
      intro h
      cases h
    have hnotified : Alike i s.pool (notify pick { s.pool with
        in_use := s.pool.in_use.erase conn
        idle := s.pool.idle ++ [conn] }) := alike_notify pick rfl h.queued.waits hne
    refine ⟨.outside, accounts_quiet _ ⟨_, hnotified, rfl⟩ (notify_max_size pick _)
      (notify_opened pick _) ?_ ?_ (fun _ => ⟨Bool.eq_false_iff.mpr hclosed, ?_⟩) ?_⟩
    · rw [hi]
      rfl
    · rw [hi]
      rfl
    · exact notify_created pick _
    · exact (notify_created pick _).le

theorem accounts_close (h : InOrder s.pool) (hi : s.pool.place i = .shutting) :
    ∃ next, Accounts i next s { s with pool := ConnectionPool.close i s.pool } := by
  have hclosing : ∀ conns, opens (closing conns) = opens (s.pool.place i) ∧
      checking (closing conns) = checking (s.pool.place i) := by
    intro conns
    rw [hi]
    cases conns <;> exact ⟨rfl, rfl⟩
  unfold ConnectionPool.close
  by_cases hclosed : s.pool.closed = true
  · rw [if_pos hclosed]
    exact ⟨.outside, accounts_quiet _ ⟨s.pool, alike_of_place rfl, rfl⟩ rfl rfl (hclosing []).1
      (hclosing []).2 (fun hopen => ⟨hopen, rfl⟩) (Int.le_refl _)⟩
  · rw [if_neg hclosed]
    have hne : s.pool.place i ≠ .waiting := by
      rw [hi]
      intro h
      cases h
    have hnotified : Alike i s.pool (notify_all { s.pool with
        closed := true
        idle := []
        created := s.pool.created - s.pool.idle.length }) :=
      alike_notify_all rfl h.queued.waits hne
    refine ⟨closing s.pool.idle, accounts_quiet _ ⟨_, hnotified, rfl⟩ rfl rfl (hclosing _).1
      (hclosing _).2 (fun hopen => ?_) ?_⟩
    · cases hopen
    · show s.pool.created - s.pool.idle.length ≤ s.pool.created
      omega

/-- A caller gets the lock. -/
theorem AddsUp.resume (h : AddsUp min_size s) (horder : InOrder s.pool) (i : ι)
    (good late : Bool) (pick : ℕ) : AddsUp min_size (MeteredPool.resume i good late pick s) := by
  have hfinds : checking (s.pool.place i) = 1 → opens (s.pool.place i) = 0 → Finds i s s.pool :=
    fun hchecking hopens => ⟨alike_of_place rfl, rfl, rfl, rfl, rfl, active_le horder.owned,
      hchecking, hopens⟩
  unfold MeteredPool.resume
  cases hi : s.pool.place i with
  | entering =>
    obtain ⟨next, hs⟩ := accounts_loop_head (hfinds (by rw [hi]; rfl) (by rw [hi]; rfl)) late
    exact h.accounts hs
  | waiting =>
    have hactive : s.pool.in_use.card ≤ s.pool.max_size := active_le horder.owned
    have hhead : Finds i s { s.pool with waiters := s.pool.waiters.erase i } :=
      ⟨alike_of_place rfl, rfl, rfl, rfl, rfl, hactive, by rw [hi]; rfl, by rw [hi]; rfl⟩
    obtain ⟨next, hs⟩ := accounts_loop_head hhead late
    exact h.accounts hs
  | notified =>
    obtain ⟨next, hs⟩ := accounts_loop_head (hfinds (by rw [hi]; rfl) (by rw [hi]; rfl)) late
    exact h.accounts hs
  | pinging candidate =>
    obtain ⟨next, hs⟩ := accounts_pinged hi good
    exact h.accounts hs
  | closing_dead candidate =>
    obtain ⟨next, hs⟩ := accounts_dead_closed horder hi late pick
    exact h.accounts hs
  | opening =>
    obtain ⟨next, hs⟩ := accounts_open_ended horder hi good pick
    exact h.accounts hs
  | outside =>
    simp only [ConnectionPool.resume, hi]
    exact h
  | lent conn =>
    simp only [ConnectionPool.resume, hi]
    exact h
  | releasing conn =>
    simp only [ConnectionPool.resume, hi]
    obtain ⟨next, hs⟩ := accounts_release horder hi pick
    exact h.accounts hs
  | closing_released conn =>
    simp only [ConnectionPool.resume, hi]
    have hne : s.pool.place i ≠ .waiting := by
      rw [hi]
      intro h
      cases h
    have hnotified : Alike i s.pool
        (notify pick { s.pool with closes := s.pool.closes ++ [conn] }) :=
      alike_notify pick rfl horder.queued.waits hne
    refine h.accounts (accounts_quiet .outside ⟨_, hnotified, rfl⟩
      (notify_max_size pick _) (notify_opened pick _) ?_ ?_ (fun hopen => ⟨?_, ?_⟩) ?_)
    · rw [hi]
      rfl
    · rw [hi]
      rfl
    · have hclosed : (notify pick { s.pool with closes := s.pool.closes ++ [conn] }).closed =
        s.pool.closed := notify_closed pick _
      exact hclosed.symm.trans hopen
    · exact notify_created pick _
    · exact (notify_created pick _).le
  | shutting =>
    simp only [ConnectionPool.resume, hi]
    obtain ⟨next, hs⟩ := accounts_close horder hi
    exact h.accounts hs
  | closing_idle conns =>
    simp only [ConnectionPool.resume, hi]
    refine h.accounts (accounts_quiet (i := i) (closing conns.tail)
      ⟨{ s.pool with closes := s.pool.closes ++ conns.take 1 }, alike_of_place rfl, rfl⟩ rfl rfl
      ?_ ?_ (fun hopen => ⟨hopen, rfl⟩) (Int.le_refl _))
    · rw [hi]
      cases conns.tail <;> rfl
    · rw [hi]
      cases conns.tail <;> rfl

/-- A checkout begins. -/
theorem accounts_acquire (hi : s.pool.place i = .outside) :
    Accounts i .entering s { s with
      pool := goto i .entering s.pool
      discarded := Function.update s.discarded i 0
      begun := s.begun + 1 } := by
  refine ⟨⟨s.pool, alike_of_place rfl, rfl⟩, rfl, ?_, Nat.le_refl _, ?_, ?_,
    fun hopen => ⟨hopen, rfl⟩, Int.le_refl _, fun j hj => ?_, ?_, rfl, fun e he => .inl he⟩
  · rw [hi]
    rfl
  · rfl
  · rw [hi]
    dsimp only [checking]
    omega
  · exact Function.update_of_ne hj _ _
  · rw [hi]
    dsimp only [checking]
    rw [Function.update_self]
    omega

theorem AddsUp.step (h : AddsUp min_size s) (horder : InOrder s.pool) (event : ThreadEvent ι) :
    AddsUp min_size (MeteredPool.step event s) := by
  cases event with
  | acquire i =>
    unfold MeteredPool.step
    by_cases hi : s.pool.place i = .outside
    · simp only [if_pos hi]
      exact h.accounts (accounts_acquire hi)
    · simp only [if_neg hi]
      exact h
  | close i =>
    show AddsUp min_size { s with pool := _ }
    simp only [ConnectionPool.step]
    by_cases hi : s.pool.place i = .outside
    · simp only [if_pos hi]
      refine h.accounts (accounts_quiet (i := i) .shutting
        ⟨s.pool, alike_of_place rfl, rfl⟩ rfl rfl ?_ ?_ (fun hopen => ⟨hopen, rfl⟩) (Int.le_refl _))
      · rw [hi]
        rfl
      · rw [hi]
        rfl
    · simp only [if_neg hi]
      exact h
  | leave i =>
    show AddsUp min_size { s with pool := ConnectionPool.step (.leave i) s.pool }
    rcases step_leave i s.pool with ⟨conn, hi, hstep⟩ | hstep
    · rw [hstep]
      refine h.accounts (accounts_quiet (i := i) (.releasing conn)
        ⟨s.pool, alike_of_place rfl, rfl⟩ rfl rfl ?_ ?_ (fun hopen => ⟨hopen, rfl⟩) (Int.le_refl _))
      · rw [hi]
        rfl
      · rw [hi]
        rfl
    · rw [hstep]
      exact h
  | resume i good late pick => exact h.resume horder i good late pick

end Steps

/-! ## Runs -/

section Runs

variable [DecidableEq ι]

/-- The events, one behind the other. -/
def perform (events : List (ThreadEvent ι)) (s : MeteredPool ι) : MeteredPool ι :=
  events.foldl (fun s event => MeteredPool.step event s) s

omit [Fintype ι] in
theorem pool_loop_head (i : ι) (late : Bool) (s : MeteredPool ι) :
    (MeteredPool.loop_head i late s).pool = s.pool.loop_head i late := by
  unfold MeteredPool.loop_head
  by_cases hclosed : s.pool.closed = true
  · simp only [if_pos hclosed]
  · simp only [if_neg hclosed]
    cases hidle : s.pool.idle with
    | cons candidate rest => rfl
    | nil =>
      by_cases hroom : s.pool.created < s.pool.max_size
      · simp only [if_pos hroom]
      · simp only [if_neg hroom]
        cases late <;> rfl

omit [Fintype ι] in
/-- What the pool counts does not decide what it does. -/
theorem pool_step (event : ThreadEvent ι) (s : MeteredPool ι) :
    (MeteredPool.step event s).pool = ConnectionPool.step event s.pool := by
  cases event with
  | acquire i =>
    simp only [MeteredPool.step, ConnectionPool.step]
    by_cases hi : s.pool.place i = .outside
    · simp only [if_pos hi]
    · simp only [if_neg hi]
  | close i => rfl
  | leave i => rfl
  | resume i good late pick =>
    simp only [MeteredPool.step, ConnectionPool.step]
    unfold MeteredPool.resume ConnectionPool.resume
    cases hi : s.pool.place i with
    | entering => exact pool_loop_head i late s
    | waiting => exact pool_loop_head i late _
    | notified => exact pool_loop_head i late s
    | pinging candidate => cases good <;> rfl
    | closing_dead candidate => exact pool_loop_head i late _
    | opening => cases good <;> rfl
    | _ => rfl

/-- INTERNAL: the invariant of the pool goes along. -/
theorem AddsUp.perform {min_size : ℕ} {s : MeteredPool ι} (h : AddsUp min_size s)
    (horder : InOrder s.pool) (events : List (ThreadEvent ι)) :
    AddsUp min_size (perform events s) := by
  have hboth : AddsUp min_size (PoolCounters.perform events s) ∧
      InOrder (PoolCounters.perform events s).pool := by
    refine List.foldlRecOn (motive := fun s => AddsUp min_size s ∧ InOrder s.pool) events _
      ⟨h, horder⟩ fun s hs event _ => ⟨hs.1.step hs.2 event, ?_⟩
    rw [pool_step]
    exact hs.2.step event
  exact hboth.1

omit [Fintype ι] [DecidableEq ι] in
/-- INTERNAL: a constructor that returns has opened exactly `min_size` connections. -/
theorem construct_warm {min_size max_size : ℤ} {good : ℕ → Bool}
    (h : (construct min_size max_size good : Bool × ConnectionPool ι).1 = true) :
    min_size.toNat ≤ max_size.toNat ∧
      (construct min_size max_size good : Bool × ConnectionPool ι).2 =
        warm max_size.toNat min_size.toNat := by
  unfold construct at h ⊢
  by_cases hsizes : min_size < 0 ∨ max_size < 1 ∨ min_size > max_size
  · rw [if_pos hsizes] at h
    cases h
  · rw [if_neg hsizes] at h ⊢
    obtain ⟨m, _, _, _, hstate, hend⟩ :=
      warm_up_warm (ι := ι) good max_size.toNat min_size.toNat 0
    have hall : (warm_up good min_size.toNat (warm max_size.toNat 0 : ConnectionPool ι)).1 =
      true := h
    rw [if_pos hall, Nat.zero_add] at hend
    rw [hend] at hstate
    exact ⟨by omega, hstate⟩

omit [DecidableEq ι] in
/-- Nobody has counted anything. -/
theorem addsUp_warm (max_size n : ℕ) :
    AddsUp n (⟨warm max_size n, ⟨0, 0, 0, 0, 0⟩, fun _ => 0, [], 0, 0⟩ : MeteredPool ι) := by
  have hopening : tally opening (warm max_size n : ConnectionPool ι) = 0 :=
    Finset.sum_eq_zero fun _ _ => rfl
  have hchecking : tally (fun _ => checking) (warm max_size n : ConnectionPool ι) = 0 :=
    Finset.sum_eq_zero fun _ _ => rfl
  have hblamed : tally (blamed fun _ => 0) (warm max_size n : ConnectionPool ι) = 0 :=
    Finset.sum_eq_zero fun _ _ => rfl
  refine ⟨?_, Nat.le_refl n, rfl, ?_, fun _ => rfl, Int.le_refl _, ?_, rfl, fun e he => ?_⟩
  · dsimp only
    rw [hopening]
    rfl
  · dsimp only
    rw [hchecking]
  · dsimp only
    rw [hblamed]
    exact Nat.le_refl 0
  · cases he

/-- SOURCE: pool.py:71-157, 267-428.  Whatever the callers do, and in whatever order. -/
theorem counters_add_up (min_size max_size : ℤ) (good : ℕ → Bool) (events : List (ThreadEvent ι))
    (constructed : (construct min_size max_size good : Bool × ConnectionPool ι).1 = true) :
    AddsUp min_size.toNat (perform events (MeteredPool.construct min_size max_size good).2) ∧
      (perform events (MeteredPool.construct min_size max_size good).2).metrics.hits ≤
        (perform events (MeteredPool.construct min_size max_size good).2).metrics.acquires := by
  obtain ⟨hle, hstate⟩ := construct_warm constructed
  have hstart : (MeteredPool.construct min_size max_size good : Bool × MeteredPool ι).2 =
      ⟨warm max_size.toNat min_size.toNat, ⟨0, 0, 0, 0, 0⟩, fun _ => 0, [], 0, 0⟩ := by
    rw [← hstate]
    rfl
  rw [hstart]
  have hends := (addsUp_warm (ι := ι) max_size.toNat min_size.toNat).perform (inOrder_warm hle)
    events
  exact ⟨hends, hends.hits_le⟩

end Runs

/-! ## A dead connection -/

/-- One caller borrows the only connection, which is dead, and opens another one; the other caller
waits for it in vain. -/
def replaceAndWait : List (ThreadEvent Bool) :=
  [.acquire true, .resume true true false 0, .resume true false false 0,
    .resume true true false 0, .resume true true false 0, .acquire false,
    .resume false true false 0, .resume false true true 0]

theorem counters_add_up_replaceAndWait :
    (perform replaceAndWait (MeteredPool.construct 1 1 (fun _ => true)).2).metrics =
        ⟨1, 1, 0, 1, 1⟩ ∧
      AddsUp 1 (perform replaceAndWait (MeteredPool.construct 1 1 (fun _ => true)).2) :=
  ⟨by decide +kernel, (counters_add_up 1 1 (fun _ => true) replaceAndWait (by decide)).1⟩

end SapRfc.Analysis.PoolCounters
