import SapRfc.Library.Slots
import SapRfc.Library.Waiters
import SapRfc.Program.ThreadPool

/-!
# The slots of the threaded pool

`_checkout` gives up the lock for the ping, for the close of a dead connection and for the open,
and `release` and `close` run in each of these gaps.  Each critical section is a move of the
books of the pool, and each keeps a notified caller, or one that is about to notify, on the way
to everything that a waiting caller could have.
-/

set_option autoImplicit false

namespace SapRfc.Analysis.ThreadSlots

open SapRfc.Library SapRfc.Program SapRfc.Program.ConnectionPool

variable {ι : Type} [DecidableEq ι]

/-- The events, one behind the other. -/
def perform (events : List (ThreadEvent ι)) (s : ConnectionPool ι) : ConnectionPool ι :=
  events.foldl (fun s event => step event s) s

/-- The body ends where a connection is lent. -/
theorem step_leave (i : ι) (s : ConnectionPool ι) :
    (∃ conn, s.place i = .lent conn ∧ step (.leave i) s = goto i (.releasing conn) s) ∨
      step (.leave i) s = s := by
  simp only [step]
  cases s.place i with
  | lent conn => exact .inl ⟨conn, rfl, rfl⟩
  | _ => exact .inr rfl

/-! ## The queue of the condition -/

/-- One for a caller that will look at the pool or notify another one. -/
def credit : Spot → ℕ
  | .notified => 1
  | .closing_dead _ => 1
  | _ => 0

/-- How many connections could be lent. -/
def room (s : ConnectionPool ι) : ℕ := s.idle.length + (s.max_size - s.created).toNat

/-- The waiters of the condition are the waiting callers, and everything that could be lent has
a caller on its way to it. -/
structure Queued [Fintype ι] (s : ConnectionPool ι) : Prop where
  queue : Met (· = .waiting) credit (room s) s.waiters s.place
  shut : s.closed = true → s.waiters = []

section Queue

variable [Fintype ι] {s s' : ConnectionPool ι} {i : ι} {next : Spot} {pick : ℕ}

omit [DecidableEq ι] in
theorem Queued.waits (h : Queued s) : ∀ j ∈ s.waiters, s.place j = .waiting := fun j =>
  (h.queue.mem j).mp

/-- A caller that does not wait changes the books and goes on. -/
theorem Queued.goto (h : Queued s) (hwaiters : s'.waiters = s.waiters)
    (hplace : s'.place = s.place) (hclosed : s'.closed = s.closed) (hi : s.place i ≠ .waiting)
    (hnext : next ≠ .waiting) (hroom : room s' + credit (s.place i) ≤ room s + credit next) :
    Queued (goto i next s') := by
  constructor
  · have hqueue := h.queue.goto (i := i) (r := room s') hi hnext hroom
    rw [← hplace, ← hwaiters] at hqueue
    exact hqueue
  · intro hshut
    exact hwaiters.trans (h.shut (hclosed ▸ hshut))

omit [Fintype ι] in
/-- INTERNAL: a notification changes the place of a waiting caller alone. -/
theorem notify_place (hqueue : ∀ j ∈ s.waiters, s.place j = .waiting) (hi : s.place i ≠ .waiting) :
    (notify pick s).place i = s.place i := by
  unfold notify
  cases hw : s.waiters.rotate pick with
  | nil => rfl
  | cons j rest =>
    have hmem : j ∈ s.waiters := by
      rw [← List.mem_rotate (n := pick), hw]
      exact List.mem_cons_self
    refine Function.update_of_ne ?_ _ _
    rintro rfl
    exact hi (hqueue i hmem)

/-- The pool gets a connection that could be lent, and somebody is notified. -/
theorem Queued.notify (h : Queued s) (hwaiters : s'.waiters = s.waiters)
    (hplace : s'.place = s.place) (hclosed : s'.closed = s.closed) (hroom : room s' ≤ room s + 1) :
    Queued (notify pick s') := by
  unfold ConnectionPool.notify
  cases hw : s'.waiters.rotate pick with
  | nil =>
    have hnone : s'.waiters = [] := List.rotate_eq_nil_iff.mp hw
    refine ⟨?_, fun _ => hnone⟩
    have hempty := h.queue
    rw [← hwaiters, ← hplace, hnone] at hempty
    show Met _ _ (room s') s'.waiters s'.place
    rw [hnone]
    exact hempty.of_empty
  | cons j rest =>
    have hmem : j ∈ s.waiters := by
      rw [← hwaiters, ← List.mem_rotate (n := pick), hw]
      exact List.mem_cons_self
    have hcredit : credit (s.place j) = 0 := by
      rw [h.waits j hmem]
      rfl
    constructor
    · have hqueue := h.queue.notify (r := room s') (q := .notified) (hwaiters ▸ hw) nofun
        (by
          rw [hcredit]
          exact hroom)
      rw [← hplace] at hqueue
      exact hqueue
    · intro hshut
      rw [h.shut (hclosed ▸ hshut)] at hmem
      cases hmem

/-- A caller gives a connection or a slot back, notifies, and goes on. -/
theorem Queued.notifies (h : Queued s) (hwaiters : s'.waiters = s.waiters)
    (hplace : s'.place = s.place) (hclosed : s'.closed = s.closed) (hroom : room s' ≤ room s + 1)
    (hi : s.place i ≠ .waiting) (hcredit : credit (s.place i) = 0) (hnext : next ≠ .waiting) :
    Queued (ConnectionPool.goto i next (ConnectionPool.notify pick s')) := by
  have hqueue : ∀ j ∈ s'.waiters, s'.place j = .waiting := by
    rw [hwaiters, hplace]
    exact h.waits
  have hstays : (ConnectionPool.notify pick s').place i = s.place i := by
    rw [notify_place hqueue (by rw [hplace]; exact hi), hplace]
  refine (h.notify hwaiters hplace hclosed hroom).goto rfl rfl rfl ?_ hnext ?_
  · rw [hstays]
    exact hi
  · rw [hstays, hcredit]
    exact Nat.add_le_add_left (Nat.zero_le _) _

/-- The head of the loop: the caller takes what there is, or there is nothing. -/
theorem Queued.loop_head (h : Queued s) (late : Bool) (hi : s.place i ≠ .waiting)
    (hcredit : credit (s.place i) ≤ 1) : Queued (loop_head i late s) := by
  unfold ConnectionPool.loop_head
  by_cases hclosed : s.closed = true
  · rw [if_pos hclosed]
    have hnone := h.shut hclosed
    have hempty := h.queue
    rw [hnone] at hempty
    have hgo := (hempty.of_empty (r := room s + credit (s.place i))).goto (i := i)
      (r := room s) (q := .outside) hi nofun (Nat.le_refl _)
    rw [← hnone] at hgo
    exact ⟨hgo, h.shut⟩
  · rw [if_neg hclosed]
    cases hidle : s.idle with
    | cons candidate rest =>
      refine h.goto rfl rfl rfl hi nofun ?_
      unfold room
      rw [hidle, List.length_cons]
      show rest.length + (s.max_size - s.created).toNat + credit (s.place i) ≤ _ + 0
      omega
    | nil =>
      by_cases hfree : s.created < s.max_size
      · simp only [if_pos hfree]
        refine h.goto rfl rfl rfl hi nofun ?_
        unfold room
        rw [hidle]
        show 0 + (s.max_size - (s.created + 1)).toNat + credit (s.place i) ≤
          0 + (s.max_size - s.created).toNat + 0
        omega
      · simp only [if_neg hfree]
        have hroom : room s = 0 := by
          unfold room
          rw [hidle, List.length_nil]
          omega
        cases late with
        | true =>
          have hfull := h.queue.goto_full (i := i) (q := .outside) hi nofun
          rw [← hroom] at hfull
          exact ⟨hfull, h.shut⟩
        | false =>
          refine ⟨?_, fun hshut => absurd hshut hclosed⟩
          refine h.queue.wait (i := i) (q := .waiting) hi rfl ?_
          unfold room at hroom ⊢
          rw [hidle] at hroom
          exact hroom

omit [Fintype ι] in
/-- INTERNAL: the head of the loop sends the caller on, wherever it came from. -/
theorem loop_head_goto (i : ι) (late : Bool) (p : Spot) (s : ConnectionPool ι) :
    loop_head i late (goto i p s) = loop_head i late s := by
  have htwice : ∀ next, Function.update (Function.update s.place i p) i next =
      Function.update s.place i next := fun next => Function.update_idem p next s.place
  unfold loop_head ConnectionPool.goto
  simp only [htwice]

/-- The deadline. -/
theorem Queued.deadline (h : Queued s) (late : Bool) (hi : s.place i = .waiting) :
    Queued (ConnectionPool.loop_head i late { s with waiters := s.waiters.erase i }) := by
  rw [← loop_head_goto i late .entering]
  have hleft :
      Queued (ConnectionPool.goto i .entering { s with waiters := s.waiters.erase i }) := by
    constructor
    · refine h.queue.leave (i := i) (q := .entering) hi nofun ?_
      rw [hi]
      exact Nat.le_refl 0
    · intro hshut
      show s.waiters.erase i = []
      rw [h.shut hshut]
      rfl
  have hplace : (ConnectionPool.goto i .entering { s with
      waiters := s.waiters.erase i }).place i = .entering := Function.update_self i _ s.place
  refine hleft.loop_head late ?_ ?_
  · rw [hplace]
    nofun
  · rw [hplace]
    exact Nat.zero_le 1

theorem closing_ne_waiting (conns : List ℕ) : closing conns ≠ .waiting := by
  cases conns <;> nofun

theorem Queued.close (h : Queued s) (hi : s.place i = .shutting) :
    Queued (ConnectionPool.close i s) := by
  unfold ConnectionPool.close
  by_cases hclosed : s.closed = true
  · rw [if_pos hclosed]
    refine h.goto rfl rfl rfl (by rw [hi]; nofun) nofun ?_
    rw [hi]
    exact Nat.le_refl _
  · rw [if_neg hclosed]
    have hall : Queued (notify_all { s with
        closed := true, idle := [], created := s.created - s.idle.length }) :=
      ⟨h.queue.notify_all nofun, fun _ => rfl⟩
    have hplace : (notify_all { s with
        closed := true, idle := [], created := s.created - s.idle.length }).place i =
          .shutting := by
      refine (if_neg fun hmem => ?_).trans hi
      cases hi.symm.trans (h.waits i hmem)
    refine hall.goto rfl rfl rfl ?_ (closing_ne_waiting _) ?_
    · rw [hplace]
      nofun
    · rw [hplace]
      exact Nat.add_le_add_left (Nat.zero_le _) _

/-- The caller gets the lock. -/
theorem Queued.resume (h : Queued s) (i : ι) (good late : Bool) (pick : ℕ) :
    Queued (ConnectionPool.resume i good late pick s) := by
  have hslot : (s.max_size - (s.created - 1)).toNat ≤ (s.max_size - s.created).toNat + 1 := by
    omega
  unfold ConnectionPool.resume
  cases hi : s.place i with
  | outside => exact h
  | entering => exact h.loop_head late (by rw [hi]; nofun) (by rw [hi]; exact Nat.zero_le 1)
  | waiting => exact h.deadline late hi
  | notified => exact h.loop_head late (by rw [hi]; nofun) (by rw [hi]; exact Nat.le_refl 1)
  | pinging candidate =>
    unfold pinged
    cases good with
    | true => exact h.goto rfl rfl rfl (by rw [hi]; nofun) nofun (by rw [hi]; exact Nat.le_refl _)
    | false =>
      refine h.goto rfl rfl rfl (by rw [hi]; nofun) nofun ?_
      rw [hi]
      show s.idle.length + (s.max_size - (s.created - 1)).toNat + 0 ≤
        s.idle.length + (s.max_size - s.created).toNat + 1
      omega
  | closing_dead candidate =>
    have hne : s.place i ≠ .waiting := by
      rw [hi]
      nofun
    have hnotified : Queued (ConnectionPool.notify pick { s with
        closes := s.closes ++ [candidate] }) := h.notify rfl rfl rfl (Nat.le_succ _)
    have hstays : (ConnectionPool.notify pick { s with
        closes := s.closes ++ [candidate] }).place i = .closing_dead candidate :=
      (notify_place (s := { s with closes := s.closes ++ [candidate] }) h.waits hne).trans hi
    refine hnotified.loop_head late ?_ ?_
    · rw [hstays]
      nofun
    · rw [hstays]
      exact Nat.le_refl 1
  | opening =>
    unfold open_ended
    cases good with
    | true => exact h.goto rfl rfl rfl (by rw [hi]; nofun) nofun (by rw [hi]; exact Nat.le_refl _)
    | false =>
      refine h.notifies rfl rfl rfl ?_ (by rw [hi]; nofun) (by rw [hi]; rfl) nofun
      show s.idle.length + (s.max_size - (s.created - 1)).toNat ≤
        s.idle.length + (s.max_size - s.created).toNat + 1
      omega
  | lent conn => exact h
  | releasing conn =>
    unfold release
    by_cases hclosed : s.closed = true
    · simp only [if_pos hclosed]
      have hnone := h.shut hclosed
      have hempty := h.queue
      rw [hnone] at hempty
      have hgo := (hempty.of_empty (r := room { s with created := s.created - 1 })).goto
        (i := i) (r := room { s with created := s.created - 1 })
        (q := .closing_released conn) (by rw [hi]; nofun) nofun
        (by rw [hi]; exact Nat.le_refl _)
      rw [← hnone] at hgo
      exact ⟨hgo, h.shut⟩
    · simp only [if_neg hclosed]
      refine h.notifies rfl rfl rfl ?_ (by rw [hi]; nofun) (by rw [hi]; rfl) nofun
      show (s.idle ++ [conn]).length + (s.max_size - s.created).toNat ≤
        s.idle.length + (s.max_size - s.created).toNat + 1
      rw [List.length_append, List.length_singleton]
      omega
  | closing_released conn =>
    exact h.notifies rfl rfl rfl (Nat.le_succ _) (by rw [hi]; nofun) (by rw [hi]; rfl) nofun
  | shutting => exact h.close hi
  | closing_idle conns =>
    refine h.goto rfl rfl rfl (by rw [hi]; nofun) (closing_ne_waiting _) ?_
    rw [hi]
    exact Nat.add_le_add_left (Nat.zero_le _) _

theorem Queued.step (h : Queued s) (event : ThreadEvent ι) : Queued (step event s) := by
  have hcall : ∀ (i : ι) (next : Spot), next ≠ .waiting →
      Queued (if s.place i = .outside then ConnectionPool.goto i next s else s) := by
    intro i next hnext
    by_cases hi : s.place i = .outside
    · rw [if_pos hi]
      refine h.goto rfl rfl rfl (by rw [hi]; nofun) hnext ?_
      rw [hi]
      exact Nat.add_le_add_left (Nat.zero_le _) _
    · rw [if_neg hi]
      exact h
  cases event with
  | acquire i => exact hcall i _ nofun
  | close i => exact hcall i _ nofun
  | leave i =>
    cases step_leave i s with
    | inl hlent =>
      obtain ⟨conn, hi, hstep⟩ := hlent
      rw [hstep]
      exact h.goto rfl rfl rfl (by rw [hi]; nofun) nofun (by rw [hi]; exact Nat.le_refl _)
    | inr hstep =>
      rw [hstep]
      exact h
  | resume i good late pick => exact h.resume i good late pick

end Queue

/-! ## Books -/

/-- What a caller at this place has in its hand. -/
def grip : Spot → Grip ℕ
  | .pinging candidate => .lent candidate
  | .opening => .reserved
  | .lent conn => .lent conn
  | .releasing conn => .lent conn
  | _ => .nothing

def ledger (s : ConnectionPool ι) : Ledger ι ℕ where
  idle := s.idle
  in_use := s.in_use
  created := s.created
  known := { c | c < s.opened }
  grip := fun i => grip (s.place i)

section Books

variable {s : ConnectionPool ι} {i : ι} {next : Spot}

theorem ledger_goto (i : ι) (next : Spot) (s : ConnectionPool ι) :
    ledger (goto i next s) =
      { ledger s with grip := Function.update (ledger s).grip i (grip next) } := by
  have hgrip : (fun j => grip ((goto i next s).place j)) =
      Function.update (fun j => grip (s.place j)) i (grip next) := by
    funext j
    exact Function.apply_update (fun _ => grip) s.place i next j
  unfold ledger
  rw [hgrip]
  rfl

/-- A step that leaves the hand as it is. -/
theorem ledger_goto_same (h : grip next = grip (s.place i)) :
    ledger (goto i next s) = ledger s := by
  rw [ledger_goto, h]
  show { ledger s with grip := Function.update (ledger s).grip i ((ledger s).grip i) } = ledger s
  rw [Function.update_eq_self]

variable (hqueue : ∀ j ∈ s.waiters, s.place j = .waiting)

include hqueue in
/-- A notification is not in the books. -/
theorem ledger_notify (pick : ℕ) : ledger (notify pick s) = ledger s := by
  unfold notify
  cases hw : s.waiters.rotate pick with
  | nil => rfl
  | cons j rest =>
    have hmem : j ∈ s.waiters := by
      rw [← List.mem_rotate (n := pick), hw]
      exact List.mem_cons_self
    exact ledger_goto_same (s := { s with waiters := rest }) (by simp [hqueue j hmem, grip])

include hqueue in
theorem ledger_notify_all : ledger (notify_all s) = ledger s := by
  have hgrip : (fun j => grip ((notify_all s).place j)) = fun j => grip (s.place j) := by
    funext j
    show grip (if j ∈ s.waiters then .notified else s.place j) = _
    by_cases hj : j ∈ s.waiters
    · rw [if_pos hj, hqueue j hj]
      rfl
    · rw [if_neg hj]
  unfold ledger
  rw [hgrip]
  rfl

omit hqueue in
/-- The head of the loop takes an idle connection or a slot, or leaves the books alone. -/
theorem moves_loop_head (late : Bool) (hfree : grip (s.place i) = .nothing) :
    (ledger s).Moves (ledger (loop_head i late s)) := by
  unfold loop_head
  by_cases hclosed : s.closed = true
  · rw [if_pos hclosed]
    exact .stay (ledger_goto_same (by rw [hfree]; rfl))
  · rw [if_neg hclosed]
    cases hidle : s.idle with
    | cons candidate rest =>
      exact .take (i := i) (c := candidate) hidle hfree (ledger_goto _ _ _)
    | nil =>
      by_cases hroom : s.created < s.max_size
      · simp only [if_pos hroom]
        refine .reserve (i := i) hfree ?_
        rw [ledger_goto]
        simp only [ledger, hidle]
        rfl
      · simp only [if_neg hroom]
        refine .stay ?_
        cases late with
        | true => exact ledger_goto_same (by rw [hfree]; rfl)
        | false =>
          have hsame : ledger { s with idle := [], waiters := s.waiters ++ [i] } = ledger s := by
            unfold ledger
            rw [hidle]
          exact (ledger_goto_same (by exact hfree.symm)).trans hsame

theorem grip_closing (conns : List ℕ) : grip (closing conns) = .nothing := by
  cases conns <;> rfl

include hqueue in
theorem moves_close (hi : s.place i = .shutting) : (ledger s).Moves (ledger (close i s)) := by
  have hfree : grip (s.place i) = .nothing := by
    rw [hi]
    rfl
  have hlast : (notify_all { s with
      closed := true, idle := [], created := s.created - s.idle.length }).place i = s.place i := by
    refine if_neg fun hmem => ?_
    cases hi.symm.trans (hqueue i hmem)
  unfold close
  by_cases hclosed : s.closed = true
  · rw [if_pos hclosed]
    exact .stay (ledger_goto_same (by rw [hfree]; rfl))
  · rw [if_neg hclosed]
    refine .drain ?_
    rw [ledger_goto_same (by rw [grip_closing, hlast, hfree]), ledger_notify_all]
    · rfl
    · exact hqueue

include hqueue in
theorem moves_release {conn : ℕ} (pick : ℕ) (hi : grip (s.place i) = .lent conn) :
    (ledger s).Moves (ledger (release i conn pick s)) := by
  unfold release
  by_cases hclosed : s.closed = true
  · rw [if_pos hclosed]
    exact .drop (i := i) (c := conn) hi (ledger_goto _ _ _)
  · rw [if_neg hclosed]
    refine .give_back (i := i) (c := conn) hi ?_
    rw [ledger_goto, ledger_notify]
    · rfl
    · exact hqueue

variable [Fintype ι]

include hqueue in
/-- INTERNAL: the open takes two moves, and the connection is nowhere in between. -/
theorem sound_open_ended (h : (ledger s).Sound) (hi : s.place i = .opening) (good : Bool)
    (pick : ℕ) : (ledger (open_ended i good pick s)).Sound := by
  have hslot : (ledger s).grip i = .reserved := by
    show grip (s.place i) = _
    rw [hi]
    rfl
  unfold open_ended
  cases good with
  | false =>
    refine h.move (.undo (i := i) hslot ?_)
    show ledger (goto i .outside (notify pick { s with created := s.created - 1 })) = _
    rw [ledger_goto, ledger_notify]
    · rfl
    · exact hqueue
  | true =>
    have hnew : s.opened ∉ (ledger s).known := Nat.lt_irrefl s.opened
    have hfresh := h.move (.connect (i := i) (c := s.opened) hslot hnew rfl)
    refine hfresh.move (.lend (i := i) (c := s.opened) (Function.update_self i _ _) ?_)
    have hknown : { c | c < s.opened + 1 } = insert s.opened { c | c < s.opened } := by
      ext c
      simp only [Set.mem_ofPred_eq, Set.mem_insert_iff]
      omega
    show ledger (goto i (.lent s.opened) { s with
      in_use := insert s.opened s.in_use, opened := s.opened + 1 }) = _
    rw [ledger_goto]
    simp only [ledger, hknown, Function.update_idem]
    rfl

include hqueue in
theorem sound_resume (h : (ledger s).Sound) (i : ι) (good late : Bool) (pick : ℕ) :
    (ledger (resume i good late pick s)).Sound := by
  unfold resume
  cases hi : s.place i with
  | outside => exact h
  | entering => exact h.move (moves_loop_head late (by rw [hi]; rfl))
  | waiting =>
    have hhead := moves_loop_head (s := { s with waiters := s.waiters.erase i }) (i := i) late
      (by show grip (s.place i) = _; rw [hi]; rfl)
    exact h.move hhead
  | notified => exact h.move (moves_loop_head late (by rw [hi]; rfl))
  | pinging candidate =>
    cases good with
    | true => exact h.move (.stay (ledger_goto_same (by rw [hi]; rfl)))
    | false =>
      have hlent : (ledger s).grip i = .lent candidate := congrArg grip hi
      exact h.move (.drop (i := i) (c := candidate) hlent (ledger_goto _ _ _))
  | closing_dead candidate =>
    have hstays : (notify pick { s with
        closes := s.closes ++ [candidate] }).place i = .closing_dead candidate :=
      (notify_place (s := { s with closes := s.closes ++ [candidate] }) hqueue
        (by show s.place i ≠ .waiting; rw [hi]; nofun)).trans hi
    have hhead := moves_loop_head (s := notify pick { s with closes := s.closes ++ [candidate] })
      (i := i) late (by rw [hstays]; rfl)
    rw [ledger_notify (s := { s with closes := s.closes ++ [candidate] }) hqueue] at hhead
    exact h.move hhead
  | opening => exact sound_open_ended hqueue h hi good pick
  | lent conn => exact h
  | releasing conn => exact h.move (moves_release hqueue pick (by rw [hi]; rfl))
  | closing_released conn =>
    refine h.move (.stay ?_)
    rw [ledger_goto_same, ledger_notify (s := { s with closes := s.closes ++ [conn] }) hqueue]
    · rfl
    · rw [notify_place (s := { s with closes := s.closes ++ [conn] }) hqueue]
      · show grip .outside = grip (s.place i)
        rw [hi]
        rfl
      · show s.place i ≠ .waiting
        rw [hi]
        nofun
  | shutting => exact h.move (moves_close hqueue hi)
  | closing_idle conns =>
    exact h.move (.stay (ledger_goto_same (by rw [grip_closing, hi]; rfl)))

include hqueue in
theorem sound_step (h : (ledger s).Sound) (event : ThreadEvent ι) :
    (ledger (step event s)).Sound := by
  have hcall : ∀ (i : ι) (next : Spot), grip next = .nothing →
      (ledger (if s.place i = .outside then goto i next s else s)).Sound := by
    intro i next hnext
    by_cases hi : s.place i = .outside
    · rw [if_pos hi]
      exact h.move (.stay (ledger_goto_same (by rw [hi, hnext]; rfl)))
    · rw [if_neg hi]
      exact h
  cases event with
  | acquire i => exact hcall i _ rfl
  | close i => exact hcall i _ rfl
  | leave i =>
    cases step_leave i s with
    | inl hlent =>
      obtain ⟨conn, hi, hstep⟩ := hlent
      rw [hstep]
      exact h.move (.stay (ledger_goto_same (by rw [hi]; rfl)))
    | inr hstep =>
      rw [hstep]
      exact h
  | resume i good late pick => exact sound_resume hqueue h i good late pick

end Books

/-! ## The count -/

section Count

variable {s : ConnectionPool ι}

@[simp] theorem goto_created (i : ι) (next : Spot) (s : ConnectionPool ι) :
    (goto i next s).created = s.created := rfl

@[simp] theorem goto_max_size (i : ι) (next : Spot) (s : ConnectionPool ι) :
    (goto i next s).max_size = s.max_size := rfl

@[simp] theorem notify_created (pick : ℕ) (s : ConnectionPool ι) :
    (notify pick s).created = s.created := by
  unfold notify
  cases s.waiters.rotate pick <;> rfl

@[simp] theorem notify_max_size (pick : ℕ) (s : ConnectionPool ι) :
    (notify pick s).max_size = s.max_size := by
  unfold notify
  cases s.waiters.rotate pick <;> rfl

@[simp] theorem notify_opened (pick : ℕ) (s : ConnectionPool ι) :
    (notify pick s).opened = s.opened := by
  unfold notify
  cases s.waiters.rotate pick <;> rfl

@[simp] theorem notify_closed (pick : ℕ) (s : ConnectionPool ι) :
    (notify pick s).closed = s.closed := by
  unfold notify
  cases s.waiters.rotate pick <;> rfl

@[simp] theorem notify_idle (pick : ℕ) (s : ConnectionPool ι) :
    (notify pick s).idle = s.idle := by
  unfold notify
  cases s.waiters.rotate pick <;> rfl

theorem created_le_loop_head (i : ι) (late : Bool) (h : s.created ≤ s.max_size) :
    (loop_head i late s).created ≤ (loop_head i late s).max_size := by
  unfold loop_head
  by_cases hclosed : s.closed = true
  · rw [if_pos hclosed]
    exact h
  · rw [if_neg hclosed]
    cases hidle : s.idle with
    | cons candidate rest => exact h
    | nil =>
      by_cases hroom : s.created < s.max_size
      · simp only [if_pos hroom]
        exact hroom
      · simp only [if_neg hroom]
        cases late with
        | true => exact h
        | false => exact h

theorem created_le_resume (i : ι) (good late : Bool) (pick : ℕ) (h : s.created ≤ s.max_size) :
    (resume i good late pick s).created ≤ (resume i good late pick s).max_size := by
  unfold resume
  cases hi : s.place i with
  | outside => exact h
  | entering => exact created_le_loop_head i late h
  | waiting => exact created_le_loop_head i late h
  | notified => exact created_le_loop_head i late h
  | pinging candidate =>
    cases good with
    | true => exact h
    | false =>
      show s.created - 1 ≤ (s.max_size : ℤ)
      omega
  | closing_dead candidate =>
    refine created_le_loop_head i late ?_
    simp only [notify_created, notify_max_size]
    exact h
  | opening =>
    unfold open_ended
    cases good with
    | true => exact h
    | false =>
      simp only [Bool.false_eq_true, if_false, goto_created, goto_max_size, notify_created,
        notify_max_size]
      omega
  | lent conn => exact h
  | releasing conn =>
    unfold release
    by_cases hclosed : s.closed = true
    · simp only [if_pos hclosed, goto_created, goto_max_size]
      omega
    · simp only [if_neg hclosed, goto_created, goto_max_size, notify_created, notify_max_size]
      exact h
  | closing_released conn =>
    simp only [goto_created, goto_max_size, notify_created, notify_max_size]
    exact h
  | shutting =>
    unfold close
    by_cases hclosed : s.closed = true
    · simp only [if_pos hclosed]
      exact h
    · simp only [if_neg hclosed]
      show s.created - s.idle.length ≤ (s.max_size : ℤ)
      omega
  | closing_idle conns => exact h

theorem created_le_step (event : ThreadEvent ι) (h : s.created ≤ s.max_size) :
    (step event s).created ≤ (step event s).max_size := by
  have hcall : ∀ (i : ι) (next : Spot),
      (if s.place i = .outside then goto i next s else s).created ≤
        (if s.place i = .outside then goto i next s else s).max_size := by
    intro i next
    by_cases hi : s.place i = .outside
    · rw [if_pos hi]
      exact h
    · rw [if_neg hi]
      exact h
  cases event with
  | acquire i => exact hcall i _
  | close i => exact hcall i _
  | leave i =>
    cases step_leave i s with
    | inl hlent =>
      obtain ⟨conn, _, hstep⟩ := hlent
      rw [hstep]
      exact h
    | inr hstep =>
      rw [hstep]
      exact h
  | resume i good late pick => exact created_le_resume i good late pick h

end Count

/-! ## The constructor -/

/-- A pool that has opened its first `n` connections, and that nobody has used. -/
def warm (max_size n : ℕ) : ConnectionPool ι :=
  { empty max_size with idle := List.range n, created := n, opened := n }

omit [DecidableEq ι] in
/-- The warm-up opens connections up to the first connect that raises. -/
theorem warm_up_warm (good : ℕ → Bool) (max_size : ℕ) (left n : ℕ) :
    ∃ m, n ≤ m ∧ m ≤ n + left ∧ (∀ k, n ≤ k → k < m → good k = true) ∧
      (warm_up good left (warm max_size n : ConnectionPool ι)).2 = warm max_size m ∧
      if (warm_up good left (warm max_size n : ConnectionPool ι)).1 then m = n + left
      else good m = false ∧ m < n + left := by
  induction left generalizing n with
  | zero => exact ⟨n, Nat.le_refl n, Nat.le_refl n, fun k hk hlt => by omega, rfl, rfl⟩
  | succ left ih =>
    unfold warm_up
    show ∃ m, n ≤ m ∧ m ≤ n + (left + 1) ∧ (∀ k, n ≤ k → k < m → good k = true) ∧
      (if good n = true then _ else _ : Bool × ConnectionPool ι).2 = _ ∧
        if (if good n = true then _ else _ : Bool × ConnectionPool ι).1 then _ else _
    cases hn : good n with
    | false =>
      exact ⟨n, Nat.le_refl n, by omega, fun k hk hlt => by omega, rfl, hn, by omega⟩
    | true =>
      have hnext : ({ (warm max_size n : ConnectionPool ι) with
          idle := (warm max_size n : ConnectionPool ι).idle ++ [n]
          created := (warm max_size n : ConnectionPool ι).created + 1
          opened := n + 1 } : ConnectionPool ι) = warm max_size (n + 1) := by
        unfold warm
        simp only [List.range_succ, Nat.cast_add, Nat.cast_one]
      obtain ⟨m, hle, hlast, hgood, hstate, hend⟩ := ih (n + 1)
      refine ⟨m, by omega, by omega, ?_, ?_, ?_⟩
      · intro k hk hlt
        by_cases hkn : k = n
        · rw [hkn]
          exact hn
        · exact hgood k (by omega) hlt
      · simp only [if_true]
        rw [← hstate, ← hnext]
        rfl
      · simp only [if_true]
        rw [← hnext] at hend
        rw [show n + (left + 1) = n + 1 + left from by omega]
        exact hend

omit [DecidableEq ι] in
/-- SOURCE: pool.py:169-203.  A constructor that returns has opened `min_size` connections. -/
theorem construct_returns {min_size max_size : ℤ} {good : ℕ → Bool}
    (h : (construct min_size max_size good : Bool × ConnectionPool ι).1 = true) :
    ∃ n ≤ max_size.toNat,
      (construct min_size max_size good : Bool × ConnectionPool ι).2 = warm max_size.toNat n := by
  unfold construct at h ⊢
  by_cases hsizes : min_size < 0 ∨ max_size < 1 ∨ min_size > max_size
  · rw [if_pos hsizes] at h
    cases h
  · rw [if_neg hsizes] at h ⊢
    obtain ⟨m, _, hlast, _, hstate, _⟩ := warm_up_warm (ι := ι) good max_size.toNat min_size.toNat 0
    exact ⟨m, by omega, hstate⟩

/-! ## Runs -/

section Runs

variable [Fintype ι] {s : ConnectionPool ι}

/-- What holds of the pool whenever the lock is free. -/
structure InOrder (s : ConnectionPool ι) : Prop where
  sound : (ledger s).Sound
  queued : Queued s
  created_le : s.created ≤ s.max_size

theorem InOrder.step (h : InOrder s) (event : ThreadEvent ι) : InOrder (step event s) :=
  ⟨sound_step h.queued.waits h.sound event, h.queued.step event, created_le_step event h.created_le⟩

omit [DecidableEq ι] in
theorem inOrder_warm {max_size n : ℕ} (h : n ≤ max_size) :
    InOrder (warm max_size n : ConnectionPool ι) := by
  have hcopies : ∀ c, (ledger (warm max_size n : ConnectionPool ι)).copies c =
      (List.range n).count c := by
    intro c
    unfold Ledger.copies
    have hnone : ∑ i, ((ledger (warm max_size n : ConnectionPool ι)).grip i).holds c = 0 :=
      Finset.sum_eq_zero fun _ _ => rfl
    rw [hnone]
    rfl
  constructor
  · constructor
    · have hnone : ∑ i, ((ledger (warm max_size n : ConnectionPool ι)).grip i).slots = 0 :=
        Finset.sum_eq_zero fun _ _ => rfl
      rw [hnone]
      show (n : ℤ) = ((List.range n).length + 0 : ℕ)
      rw [List.length_range, Nat.add_zero]
    · intro c
      rw [hcopies]
      exact List.nodup_iff_count_le_one.mp List.nodup_range c
    · intro c hc
      rw [hcopies, List.count_eq_zero]
      exact fun hmem => hc (List.mem_range.mp hmem)
    · intro c
      show ∑ i : ι, (Grip.nothing : Grip ℕ).lends c = if c ∈ (∅ : Finset ℕ) then 1 else 0
      rw [if_neg (Finset.notMem_empty c)]
      exact Finset.sum_eq_zero fun _ _ => rfl
  · refine ⟨⟨List.nodup_nil, fun i => ⟨nofun, nofun⟩, fun hne => absurd rfl hne⟩, fun _ => rfl⟩
  · exact Int.ofNat_le.mpr h

theorem InOrder.perform (h : InOrder s) (events : List (ThreadEvent ι)) :
    InOrder (perform events s) :=
  List.foldlRecOn events _ h fun _ hs event _ => hs.step event

/-- INTERNAL: the pool of a constructor that returned. -/
theorem inOrder_reached {min_size max_size : ℤ} {good : ℕ → Bool}
    (constructed : (construct min_size max_size good : Bool × ConnectionPool ι).1 = true)
    (events : List (ThreadEvent ι)) :
    InOrder (ThreadSlots.perform events (construct min_size max_size good).2) := by
  obtain ⟨n, hn, hstate⟩ := construct_returns constructed
  rw [hstate]
  exact (inOrder_warm hn).perform events

/-- The connection that a caller at this place has, if it has one. -/
def owned : Spot → Option ℕ
  | .pinging candidate => some candidate
  | .lent conn => some conn
  | .releasing conn => some conn
  | _ => none

/-- One for a caller that opens a connection. -/
def opens : Spot → ℕ
  | .opening => 1
  | _ => 0

theorem owned_eq_some {p : Spot} {c : ℕ} : owned p = some c ↔ grip p = .lent c := by
  cases p <;> simp [owned, grip]

theorem opens_eq (p : Spot) : opens p = Ledger.pendingSlots (grip p) := by
  cases p <;> rfl

/-- The pool's collections, its count and its callers fit together. -/
structure Owned (s : ConnectionPool ι) : Prop where
  idle_once : s.idle.Nodup
  apart : ∀ c ∈ s.idle, c ∉ s.in_use
  one_owner : ∀ c ∈ s.in_use, ∃! i, owned (s.place i) = some c
  balance : s.created = (s.idle.length + s.in_use.card + ∑ i, opens (s.place i) : ℕ)
  bounded : s.created ≤ s.max_size

omit [DecidableEq ι] in
theorem InOrder.owned (h : InOrder s) : Owned s := by
  constructor
  · exact h.sound.idle_nodup
  · exact fun c hc => h.sound.idle_not_lent hc
  · intro c hc
    obtain ⟨i, hi⟩ := h.sound.owner hc
    refine ⟨i, owned_eq_some.mpr hi, fun j hj => ?_⟩
    exact h.sound.one_owner (owned_eq_some.mp hj) hi
  · rw [Finset.sum_congr rfl fun i _ => opens_eq (s.place i)]
    exact h.sound.created_eq
  · exact h.created_le

/-- SOURCE: pool.py:267-428.  Whenever the lock is free. -/
theorem pool_owned (min_size max_size : ℤ) (good : ℕ → Bool) (events : List (ThreadEvent ι))
    (constructed : (construct min_size max_size good : Bool × ConnectionPool ι).1 = true) :
    Owned (perform events (construct min_size max_size good).2) :=
  (inOrder_reached constructed events).owned

/-- The caller is in a method of the pool. -/
def inside : Spot → Bool
  | .outside => false
  | .lent _ => false
  | _ => true

omit [DecidableEq ι] in
theorem InOrder.exhausted (h : InOrder s)
    (parked : ∀ i, inside (s.place i) = true → s.place i = .waiting) {i : ι}
    (hi : s.place i = .waiting) : s.idle = [] ∧ s.created = s.max_size ∧ s.closed = false := by
  have hmem : i ∈ s.waiters := (h.queued.queue.mem i).mpr hi
  have hnone : ∑ j, credit (s.place j) = 0 := by
    refine Finset.sum_eq_zero fun j _ => ?_
    have hj := parked j
    cases hplace : s.place j with
    | notified =>
      rw [hplace] at hj
      cases hj rfl
    | closing_dead candidate =>
      rw [hplace] at hj
      cases hj rfl
    | _ => rfl
  have hmet := h.queued.queue.met (List.ne_nil_of_mem hmem)
  rw [hnone] at hmet
  unfold room at hmet
  have hcreated := h.created_le
  refine ⟨List.length_eq_zero_iff.mp (by omega), by omega, ?_⟩
  cases hclosed : s.closed with
  | false => rfl
  | true =>
    rw [h.queued.shut hclosed] at hmem
    cases hmem

/-- SOURCE: pool.py:267-428.  If everybody in the pool waits then there is nothing to lend. -/
theorem no_stranded_waiter (min_size max_size : ℤ) (good : ℕ → Bool)
    (events : List (ThreadEvent ι))
    (constructed : (construct min_size max_size good : Bool × ConnectionPool ι).1 = true)
    (parked : ∀ i, inside ((perform events (construct min_size max_size good).2).place i) = true →
      (perform events (construct min_size max_size good).2).place i = .waiting)
    (waits : ∃ i, (perform events (construct min_size max_size good).2).place i = .waiting) :
    (perform events (construct min_size max_size good).2).idle = [] ∧
      (perform events (construct min_size max_size good).2).created =
        (perform events (construct min_size max_size good).2).max_size ∧
      (perform events (construct min_size max_size good).2).closed = false := by
  obtain ⟨i, hi⟩ := waits
  exact (inOrder_reached constructed events).exhausted parked hi

end Runs

/-! ## Two callers -/

/-- One caller borrows the only connection and the other one waits for it. -/
def borrowAndWait : List (ThreadEvent Bool) :=
  [.acquire true, .resume true true false 0, .resume true true false 0, .acquire false,
    .resume false true false 0]

theorem pool_owned_borrowAndWait :
    (construct 1 1 (fun _ => true) : Bool × ConnectionPool Bool).1 = true ∧
      Owned (perform borrowAndWait (construct 1 1 (fun _ => true)).2) :=
  ⟨by decide, pool_owned 1 1 (fun _ => true) borrowAndWait (by decide)⟩

theorem no_stranded_waiter_borrowAndWait :
    (perform borrowAndWait (construct 1 1 (fun _ => true)).2).place false = .waiting ∧
      (perform borrowAndWait (construct 1 1 (fun _ => true)).2).closed = false :=
  ⟨by decide +kernel, (no_stranded_waiter 1 1 (fun _ => true) borrowAndWait (by decide)
    (by decide +kernel) ⟨false, by decide +kernel⟩).2.2⟩

end SapRfc.Analysis.ThreadSlots
