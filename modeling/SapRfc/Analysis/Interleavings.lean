import SapRfc.Library.Runs
import SapRfc.Program.Interleaved
import SapRfc.Analysis.Transactions

/-!
# Dispatches of one transaction, interleaved

Any number of threads, each with a server of its own, dispatch `ARFC_DEST_SHIP` of one TID
against one store.  Between two steps of a thread the others take theirs, and the rest of
the process does what it likes as long as the mark of the TID stays as it is.  The check
and the marks are separate calls of the store, so two threads that check before either has
marked both run the handler.  The runs in which a check finds a new TID only while no other
thread is between its check and its last mark are those that are served once.
-/

set_option autoImplicit false

namespace SapRfc.Analysis.Interleavings

open SapRfc.Library SapRfc.Program SapRfc.Analysis.Shipping SapRfc.Analysis.Residue
open SapRfc.Analysis.Transactions

variable {ι α V : Type}

/-! ## Where a thread is -/

/-- Before the check and behind the last mark, on the way to the end of the handler, or between
that end and the mark that says so. -/
inductive Stage where
  | idle | pending | done
  deriving DecidableEq

def stage : Phase (Process α) V → Stage
  | .start => .idle
  | .fresh _ => .pending
  | .received _ => .pending
  | .running _ _ _ => .pending
  | .completed _ => .done
  | .failed _ _ => .pending
  | .executed _ => .idle
  | .rolled_back _ _ => .idle
  | .answered _ => .idle
  | .raised _ => .idle

/-- The thread is at work on this TID, and its handler is one of the application's. -/
inductive WorksOn (tid : PyStr) : Phase (Process α) V → Prop
  | start : WorksOn tid .start
  | fresh : WorksOn tid (.fresh tid)
  | received : WorksOn tid (.received tid)
  | running (h : Handler α V) (request : Values V) : WorksOn tid (.running tid h.hosted request)
  | completed : WorksOn tid (.completed tid)
  | failed (message : PyStr) : WorksOn tid (.failed tid message)
  | executed : WorksOn tid (.executed tid)
  | rolled_back (message : PyStr) : WorksOn tid (.rolled_back tid message)
  | answered (out : Bytes) : WorksOn tid (.answered out)
  | raised (exc : PyError) : WorksOn tid (.raised exc)

/-- How many handlers have run to their end. -/
def completions (w : ServerWorld (Process α)) : ℕ := (w.events.filterMap completedId).length

theorem completions_leaves {ft : TidTable → TidTable} {fu : UnitTable → UnitTable}
    {cs : List CallbackEvent} {ids : List ℕ} {w w' : ServerWorld (Process α)}
    (h : Leaves ft fu cs ids w w') : completions w' = completions w + ids.length := by
  obtain ⟨d, hd, hids⟩ := h.ran
  unfold completions
  rw [hd, List.filterMap_append, List.length_append, hids]

/-! ## One step -/

section Steps

variable (p : Platform V) (a : App α V) (tlv : Bytes) (tid : PyStr)

/-- What a step of a thread comes to, for the store and the handlers. -/
inductive Stepped (w : ServerWorld (Process α)) (phase phase' : Phase (Process α) V)
    (w' : ServerWorld (Process α)) : Prop
  | quiet (idle : stage phase = .idle) (idle' : stage phase' = .idle)
      (tids : w'.user.tids = w.user.tids) (count : completions w' = completions w)
  | checked (first : phase = .start) (taken : stage phase' = .pending)
      (passed : (Eff.run (a.server.check_transaction tid) w.user).1 = .ok false)
      (count : completions w' = completions w)
  | waits (pending : stage phase = .pending) (pending' : stage phase' = .pending)
      (count : completions w' = completions w)
  | gives_up (pending : stage phase = .pending) (idle' : stage phase' = .idle)
      (count : completions w' = completions w)
  | completes (pending : stage phase = .pending) (done : stage phase' = .done)
      (count : completions w' ≤ completions w + 1)
  | marks (done : stage phase = .done) (idle' : stage phase' = .idle)
      (marked : w'.user.tids.store tid = some .executed) (count : completions w' = completions w)

variable {p a tlv tid}

/-- INTERNAL: the check of a thread. -/
theorem stepped_start (hread : extract_tid_from_frame p tlv = .ok tid)
    (w : ServerWorld (Process α)) :
    WorksOn tid (advance p a.server tlv .start w).1 ∧
      Stepped a tid w .start (advance p a.server tlv .start w).1
        (advance p a.server tlv .start w).2 := by
  unfold advance ship_next
  rw [hread, Eff.run_bind_ok (Eff.run_lift _ _)]
  cases hfault : tid_fault tid with
  | some message =>
    dsimp only
    cases hout : build_system_failure message with
    | error e =>
      rw [Eff.run_bind_error (Eff.run_lift _ _)]
      exact ⟨.raised e, .quiet rfl rfl rfl rfl⟩
    | ok out =>
      rw [Eff.run_bind_ok (Eff.run_lift _ _)]
      exact ⟨.answered out, .quiet rfl rfl rfl rfl⟩
  | none =>
    dsimp only
    have haside := aside_check (a := a) tid w.user
    cases hcheck : Eff.run (a.server.check_transaction tid) w.user with
    | mk r g =>
      rw [hcheck] at haside
      obtain ⟨app, rfl⟩ : Aside w.user g := haside
      cases r with
      | error e =>
        rw [Eff.run_bind_error (run_ext_of hcheck _)]
        exact ⟨.raised e, .quiet rfl rfl rfl rfl⟩
      | ok already_done =>
        rw [Eff.run_bind_ok (run_ext_of hcheck _)]
        cases already_done with
        | true => exact ⟨.answered _, .quiet rfl rfl rfl rfl⟩
        | false => exact ⟨.fresh, .checked rfl rfl (congrArg Prod.fst hcheck) rfl⟩

/-- INTERNAL: from the store's first mark to the call of the handler. -/
theorem stepped_received (w : ServerWorld (Process α)) :
    WorksOn tid (advance p a.server tlv (.received tid) w).1 ∧
      Stepped a tid w (.received tid) (advance p a.server tlv (.received tid) w).1
        (advance p a.server tlv (.received tid) w).2 := by
  unfold advance ship_next
  cases hname : extract_param_from_frame p tlv (lit "ARFCFNAM") with
  | error e =>
    rw [Eff.run_bind_error (Eff.run_lift _ _)]
    exact ⟨.raised e, .gives_up rfl rfl rfl⟩
  | ok name =>
    rw [Eff.run_bind_ok (Eff.run_lift _ _)]
    obtain ⟨haside, hhosted⟩ := lookup_wrapped_cases (p := p) (a := a) name w.user
    cases hlookup : Eff.run (a.server.lookup_wrapped p name) w.user with
    | mk r g =>
      rw [hlookup] at haside hhosted
      obtain ⟨app, rfl⟩ : Aside w.user g := haside
      cases r with
      | error e =>
        rw [Eff.run_bind_error (run_ext_of hlookup _)]
        exact ⟨.raised e, .gives_up rfl rfl rfl⟩
      | ok entry =>
        rw [Eff.run_bind_ok (run_ext_of hlookup _)]
        cases entry with
        | none => exact ⟨.failed _, .waits rfl rfl rfl⟩
        | some entry =>
          obtain ⟨e₀, rfl, -⟩ := hhosted entry rfl
          dsimp only [hostedEntry]
          rw [Eff.run_bind_ok (run_note _ _ _)]
          have hcount := completions_leaves (nothing_note (α := α)
            (e := .selected e₀.2.hosted.id) rfl ⟨{ w.user with app := app }, w.events⟩)
          cases hrequest : deserialize_request p tlv e₀.1 with
          | error e =>
            rw [Eff.run_bind_error (Eff.run_lift _ _)]
            exact ⟨.raised e, .gives_up rfl rfl hcount⟩
          | ok request =>
            rw [Eff.run_bind_ok (Eff.run_lift _ _)]
            exact ⟨.running e₀.2 request, .waits rfl rfl hcount⟩

/-- INTERNAL: the call of the handler. -/
theorem stepped_running (h : Handler α V) (request : Values V) (w : ServerWorld (Process α)) :
    WorksOn tid (advance p a.server tlv (.running tid h.hosted request) w).1 ∧
      Stepped a tid w (.running tid h.hosted request)
        (advance p a.server tlv (.running tid h.hosted request) w).1
        (advance p a.server tlv (.running tid h.hosted request) w).2 := by
  have hcases := call_cases h request w
  unfold advance ship_next
  cases hcall : Eff.run (call_handler h.hosted request) w with
  | mk r w' =>
    rw [hcall] at hcases
    cases r with
    | ok c =>
      have hleaves : Leaves id id [] (ranBy h) w w' := by
        cases hcases with
        | inl returned =>
          obtain ⟨_, -, hleaves⟩ := returned
          exact hleaves
        | inr raised =>
          obtain ⟨e, he, -⟩ := raised
          cases he
      have hone : (ranBy h).length ≤ 1 := by
        unfold ranBy
        split <;> simp
      have hcount := completions_leaves hleaves
      rw [Eff.run_bind_ok (run_attempt_ok hcall)]
      exact ⟨.completed, .completes rfl rfl (by show completions w' ≤ _; omega)⟩
    | error e =>
      have hcount : completions w' = completions w := by
        cases hcases with
        | inl returned =>
          obtain ⟨_, hc, -⟩ := returned
          cases hc
        | inr raised =>
          obtain ⟨_, -, hnothing⟩ := raised
          exact completions_leaves hnothing
      have hattempt := run_attempt_error hcall
      cases hkind : e.kind.isException with
      | false =>
        rw [hkind, if_neg Bool.false_ne_true] at hattempt
        rw [Eff.run_bind_error hattempt]
        exact ⟨.raised e, .gives_up rfl rfl hcount⟩
      | true =>
        rw [hkind, if_pos rfl] at hattempt
        rw [Eff.run_bind_ok hattempt]
        exact ⟨.failed _, .waits rfl rfl hcount⟩

/-- INTERNAL: the callback of an end, and what is answered behind it. -/
theorem stepped_callback {phase : Phase (Process α) V} (hidle : stage phase = .idle)
    {x : Eff PyError (ServerWorld (Process α)) Unit} {c : List CallbackEvent}
    (hx : Eff.Keeps (Leaves id id c []) x) {answer : Except PyError Bytes}
    (hstep : ship_next p a.server tlv phase = do
      x
      let out ← Eff.lift answer
      pure (.answered out)) (w : ServerWorld (Process α)) :
    WorksOn tid (advance p a.server tlv phase w).1 ∧
      Stepped a tid w phase (advance p a.server tlv phase w).1
        (advance p a.server tlv phase w).2 := by
  unfold advance
  rw [hstep]
  have hleaves := hx w
  cases hrun : Eff.run x w with
  | mk r w' =>
    rw [hrun] at hleaves
    cases r with
    | error e =>
      rw [Eff.run_bind_error hrun]
      exact ⟨.raised e, .quiet hidle rfl hleaves.tids (completions_leaves hleaves)⟩
    | ok _ =>
      rw [Eff.run_bind_ok hrun]
      cases answer with
      | error e =>
        rw [Eff.run_bind_error (Eff.run_lift _ _)]
        exact ⟨.raised e, .quiet hidle rfl hleaves.tids (completions_leaves hleaves)⟩
      | ok out =>
        rw [Eff.run_bind_ok (Eff.run_lift _ _)]
        exact ⟨.answered out, .quiet hidle rfl hleaves.tids (completions_leaves hleaves)⟩

/-- A step of a thread that works on the TID. -/
theorem stepped_advance (hread : extract_tid_from_frame p tlv = .ok tid)
    {phase : Phase (Process α) V} (h : WorksOn tid phase) (w : ServerWorld (Process α)) :
    WorksOn tid (advance p a.server tlv phase w).1 ∧
      Stepped a tid w phase (advance p a.server tlv phase w).1
        (advance p a.server tlv phase w).2 := by
  cases h with
  | start => exact stepped_start hread w
  | fresh => exact ⟨.received, .waits rfl rfl rfl⟩
  | received => exact stepped_received w
  | running h request => exact stepped_running h request w
  | completed =>
    have hcount := completions_leaves (nothing_note (α := α) (e := .marked_executed tid) rfl w)
    exact ⟨.executed, .marks rfl rfl (store_putTid tid _ _) hcount⟩
  | failed message => exact ⟨.rolled_back message, .gives_up rfl rfl rfl⟩
  | executed =>
    have hidle : stage (.executed tid : Phase (Process α) V) = .idle := rfl
    have hstep : ship_next p a.server tlv (.executed tid) = (do
        callback (a.server.on_commit_transaction.map (· tid))
        let out ← Eff.lift (.ok build_rfc_ok_response)
        pure (.answered out)) := rfl
    exact stepped_callback hidle (leaves_commit_callback tid) hstep w
  | rolled_back message =>
    have hidle : stage (.rolled_back tid message : Phase (Process α) V) = .idle := rfl
    exact stepped_callback hidle (leaves_rollback_callback tid) rfl w
  | answered out => exact ⟨.answered out, .quiet rfl rfl rfl rfl⟩
  | raised exc => exact ⟨.raised exc, .quiet rfl rfl rfl rfl⟩

end Steps

/-! ## Any number of threads -/

/-- The threads of the dispatches, and the process they share. -/
structure Crowd (ι α V : Type) where
  phase : ι → Phase (Process α) V
  world : ServerWorld (Process α)

/-- A thread takes its next step, or something else happens in the process. -/
inductive Move (ι α : Type) where
  | thread (i : ι)
  | outside (change : Process α → Process α)

/-- The mark of the TID stays as it is in `g`. -/
def keepMark (tid : PyStr) (g g' : Process α) : Process α :=
  { g' with tids := { g'.tids with store := dictPut g'.tids.store tid (g.tids.store tid) } }

/-- No dispatch has begun. -/
def Crowd.initial (g : Process α) : Crowd ι α V := ⟨fun _ => .start, ⟨g, []⟩⟩

section Invariant

variable (tid : PyStr)

/-- One thread at most is at work, and the mark says when a handler has run to its end. -/
structure Once (s : Crowd ι α V) : Prop where
  works : ∀ i, WorksOn tid (s.phase i)
  single : ∀ i j, stage (s.phase i) ≠ .idle → stage (s.phase j) ≠ .idle → i = j
  pending : ∀ i, stage (s.phase i) = .pending → completions s.world = 0
  done : ∀ i, stage (s.phase i) = .done → completions s.world ≤ 1
  idle : (∀ i, stage (s.phase i) = .idle) →
    completions s.world = 0 ∨
      completions s.world = 1 ∧ s.world.user.tids.store tid = some .executed

variable {tid}

/-- INTERNAL: all threads are idle. -/
theorem Once.of_idle {s : Crowd ι α V} (works : ∀ i, WorksOn tid (s.phase i))
    (hidle : ∀ i, stage (s.phase i) = .idle)
    (hmark : completions s.world = 0 ∨
      completions s.world = 1 ∧ s.world.user.tids.store tid = some .executed) : Once tid s where
  works := works
  single i _ hi _ := absurd (hidle i) hi
  pending i hi := by cases (hidle i).symm.trans hi
  done i hi := by cases (hidle i).symm.trans hi
  idle _ := hmark

/-- INTERNAL: all threads but one are idle. -/
theorem Once.of_single {s : Crowd ι α V} {i : ι} (works : ∀ j, WorksOn tid (s.phase j))
    (hidle : ∀ j, j ≠ i → stage (s.phase j) = .idle)
    (hcount : (stage (s.phase i) = .pending ∧ completions s.world = 0) ∨
      (stage (s.phase i) = .done ∧ completions s.world ≤ 1)) : Once tid s := by
  have honly : ∀ j, stage (s.phase j) ≠ .idle → j = i := by
    intro j hj
    by_contra hne
    exact hj (hidle j hne)
  constructor
  · exact works
  · intro j k hj hk
    rw [honly j hj, honly k hk]
  · intro j hj
    obtain rfl : j = i := honly j (by rw [hj]; nofun)
    cases hcount with
    | inl h => exact h.2
    | inr h => cases h.1.symm.trans hj
  · intro j hj
    obtain rfl : j = i := honly j (by rw [hj]; nofun)
    cases hcount with
    | inl h => cases h.1.symm.trans hj
    | inr h => exact h.2
  · intro hall
    cases hcount with
    | inl h => cases (hall i).symm.trans h.1
    | inr h => cases (hall i).symm.trans h.1

theorem Once.completions_le {s : Crowd ι α V} (h : Once tid s) : completions s.world ≤ 1 := by
  by_cases hidle : ∀ i, stage (s.phase i) = .idle
  · cases h.idle hidle with
    | inl hzero => omega
    | inr hone => omega
  · push Not at hidle
    obtain ⟨i, hi⟩ := hidle
    cases hstage : stage (s.phase i) with
    | idle => exact absurd hstage hi
    | pending =>
      have := h.pending i hstage
      omega
    | done => exact h.done i hstage

/-- INTERNAL: a thread that is at work is the only one. -/
theorem Once.others_idle {s : Crowd ι α V} (h : Once tid s) {i : ι}
    (hi : stage (s.phase i) ≠ .idle) : ∀ j, j ≠ i → stage (s.phase j) = .idle := by
  intro j hj
  by_contra hne
  exact hj (h.single j i hne hi)

/-- A thread that takes a step keeps the invariant, unless it finds the TID new where it should
not. -/
theorem Once.step {s s' : Crowd ι α V} (h : Once tid s) {a : App α V} {i : ι}
    (works : WorksOn tid (s'.phase i)) (hother : ∀ j, j ≠ i → s'.phase j = s.phase j)
    (hstep : Stepped a tid s.world (s.phase i) (s'.phase i) s'.world)
    (halone : s.phase i = .start →
      (Eff.run (a.server.check_transaction tid) s.world.user).1 = .ok false →
        (∀ j, j ≠ i → stage (s.phase j) = .idle) ∧
          s.world.user.tids.store tid ≠ some .executed) : Once tid s' := by
  have hworks : ∀ j, WorksOn tid (s'.phase j) := by
    intro j
    by_cases hj : j = i
    · rw [hj]
      exact works
    · rw [hother j hj]
      exact h.works j
  have hothers : (∀ j, j ≠ i → stage (s.phase j) = .idle) →
      ∀ j, j ≠ i → stage (s'.phase j) = .idle := by
    intro hidle j hj
    rw [hother j hj]
    exact hidle j hj
  have hall : (∀ j, j ≠ i → stage (s.phase j) = .idle) → stage (s'.phase i) = .idle →
      ∀ j, stage (s'.phase j) = .idle := by
    intro hidle hi j
    by_cases hj : j = i
    · rw [hj]
      exact hi
    · exact hothers hidle j hj
  cases hstep with
  | quiet idle idle' tids count =>
    have hsame : ∀ j, stage (s'.phase j) = stage (s.phase j) := by
      intro j
      by_cases hj : j = i
      · rw [hj, idle, idle']
      · rw [hother j hj]
    constructor
    · exact hworks
    · intro j k hj hk
      rw [hsame] at hj hk
      exact h.single j k hj hk
    · intro j hj
      rw [hsame] at hj
      rw [count]
      exact h.pending j hj
    · intro j hj
      rw [hsame] at hj
      rw [count]
      exact h.done j hj
    · intro hidle
      rw [count, tids]
      exact h.idle fun j => (hsame j).symm.trans (hidle j)
  | checked first taken passed count =>
    obtain ⟨hidle, hunmarked⟩ := halone first passed
    have hzero : completions s.world = 0 := by
      have hbefore : ∀ j, stage (s.phase j) = .idle := by
        intro j
        by_cases hj : j = i
        · rw [hj, first]
          rfl
        · exact hidle j hj
      cases h.idle hbefore with
      | inl hzero => exact hzero
      | inr hone => exact absurd hone.2 hunmarked
    exact Once.of_single hworks (hothers hidle) (.inl ⟨taken, count.trans hzero⟩)
  | waits pending pending' count =>
    have hidle := h.others_idle (i := i) (by rw [pending]; nofun)
    exact Once.of_single hworks (hothers hidle)
      (.inl ⟨pending', count.trans (h.pending i pending)⟩)
  | gives_up pending idle' count =>
    have hidle := h.others_idle (i := i) (by rw [pending]; nofun)
    exact Once.of_idle hworks (hall hidle idle') (.inl (count.trans (h.pending i pending)))
  | completes pending done count =>
    have hidle := h.others_idle (i := i) (by rw [pending]; nofun)
    have hzero := h.pending i pending
    exact Once.of_single hworks (hothers hidle) (.inr ⟨done, by omega⟩)
  | marks done idle' marked count =>
    have hidle := h.others_idle (i := i) (by rw [done]; nofun)
    have hone := h.done i done
    refine Once.of_idle hworks (hall hidle idle') ?_
    by_cases hzero : completions s'.world = 0
    · exact .inl hzero
    · exact .inr ⟨by omega, marked⟩

/-- Whatever else happens in the process keeps the invariant. -/
theorem Once.outside {s : Crowd ι α V} (h : Once tid s) (g : Process α) :
    Once tid ⟨s.phase, ⟨keepMark tid s.world.user g, s.world.events⟩⟩ where
  works := h.works
  single := h.single
  pending := h.pending
  done := h.done
  idle hidle := by
    show completions s.world = 0 ∨ completions s.world = 1 ∧ dictPut _ tid _ tid = _
    rw [dictPut, if_pos rfl]
    exact h.idle hidle

theorem once_initial (g : Process α) : Once tid (Crowd.initial g : Crowd ι α V) :=
  Once.of_idle (fun _ => .start) (fun _ => rfl) (.inl rfl)

end Invariant

section Condition

variable (a : ι → App α V) (tid : PyStr)

/-- If the step is a check that finds the TID new, no other thread is between its check and its
last mark, and the TID is not marked as executed. -/
def ChecksAlone (x : Step (Crowd ι α V) (Move ι α) Unit) : Prop :=
  ∀ i, x.input = .thread i → x.before.phase i = .start →
    (Eff.run ((a i).server.check_transaction tid) x.before.world.user).1 = .ok false →
      (∀ j, j ≠ i → stage (x.before.phase j) = .idle) ∧
        x.before.world.user.tids.store tid ≠ some .executed

variable {a tid}

/-- Where the check is a look into the store, the other threads alone matter. -/
theorem ChecksAlone.of_others_idle {x : Step (Crowd ι α V) (Move ι α) Unit}
    (hcheck : ∀ i, (a i).on_check_transaction = none)
    (h : ∀ i, x.input = .thread i → ∀ j, j ≠ i → stage (x.before.phase j) = .idle) :
    ChecksAlone a tid x := by
  intro i hi hstart hpassed
  refine ⟨h i hi, fun hmark => ?_⟩
  unfold RfcServer.check_transaction App.server at hpassed
  rw [hcheck i] at hpassed
  have hnew : decide (x.before.world.user.tids.store tid = some .executed) = false :=
    Except.ok.inj hpassed
  exact absurd hmark (of_decide_eq_false hnew)

end Condition

section Crowds

variable [DecidableEq ι] (p : Platform V) (a : ι → App α V) (tlv : ι → Bytes) (tid : PyStr)

def perform (move : Move ι α) (s : Crowd ι α V) : Crowd ι α V :=
  match move with
  | .thread i =>
    let next := advance p (a i).server (tlv i) (s.phase i) s.world
    ⟨Function.update s.phase i next.1, next.2⟩
  | .outside change =>
    ⟨s.phase, ⟨keepMark tid s.world.user (change s.world.user), s.world.events⟩⟩

/-- The moves, one behind the other. -/
abbrev crowdTrace (moves : List (Move ι α)) (s : Crowd ι α V) :
    List (Step (Crowd ι α V) (Move ι α) Unit) :=
  Run.trace (fun move s => ((), perform p a tlv tid move s)) moves s

variable {p a tlv tid}

theorem once_perform (hread : ∀ i, extract_tid_from_frame p (tlv i) = .ok tid)
    (move : Move ι α) {s : Crowd ι α V} (h : Once tid s)
    (halone : ChecksAlone a tid
      (Run.stepOf (fun m s => ((), perform p a tlv tid m s)) move s)) :
    Once tid (perform p a tlv tid move s) := by
  cases move with
  | outside change => exact h.outside _
  | thread i =>
    have hself : (perform p a tlv tid (.thread i) s).phase i =
        (advance p (a i).server (tlv i) (s.phase i) s.world).1 := Function.update_self _ _ _
    obtain ⟨hworks, hstep⟩ := stepped_advance (a := a i) (hread i) (h.works i) s.world
    rw [← hself] at hworks hstep
    exact h.step hworks (fun j hj => Function.update_of_ne hj _ _) hstep (halone i rfl)

/-- As long as a check finds the TID new only while no other dispatch of it is between its check
and its last mark, and while it is not marked as executed, the handler runs to its end once at
most, however the threads take turns. -/
theorem handler_completes_at_most_once (p : Platform V) (a : ι → App α V) (tlv : ι → Bytes)
    (tid : PyStr) (hread : ∀ i, extract_tid_from_frame p (tlv i) = .ok tid) (g : Process α)
    (moves : List (Move ι α))
    (alone : ∀ x ∈ crowdTrace p a tlv tid moves (Crowd.initial g), ChecksAlone a tid x) :
    ∀ x ∈ crowdTrace p a tlv tid moves (Crowd.initial g), completions x.after.world ≤ 1 := by
  intro x hx
  obtain ⟨k, hk⟩ := List.mem_iff_getElem?.mp hx
  have hstep : ∀ (done : List (Step (Crowd ι α V) (Move ι α) Unit)) s i, Once tid s →
      ChecksAlone a tid (Run.stepOf (fun m s => ((), perform p a tlv tid m s)) i s) →
        Once tid (Run.stepOf (fun m s => ((), perform p a tlv tid m s)) i s).after :=
    fun _ _ move h halone => once_perform hread move h halone
  exact (Run.trace_invariant (I := fun _ s => Once tid s) hstep
    (once_initial g) alone hk).2.completions_le

end Crowds

/-! ## Two threads -/

/-- Two servers with the function `Z_FM`, and a frame of one transaction for each. -/
abbrev pairTrace (moves : List Bool) : List (Step (Crowd Bool Unit Bytes) (Move Bool Unit) Unit) :=
  crowdTrace plainPlatform (fun _ => plainApp) (fun _ => shippedFrame) shippedTid
    (moves.map .thread) (Crowd.initial (newWorld ()).user)

/-- One thread dispatches to the end, and the other finds the TID executed. -/
def inTurn : List Bool := [true, true, true, true, true, true, false, false]

/-- Both threads check before one of them has marked. -/
def bothCheck : List Bool := [true, false, true, true, true, false, false, false]

theorem handler_completes_in_turn :
    (pairTrace inTurn).length = 8 ∧ ∀ x ∈ pairTrace inTurn, completions x.after.world ≤ 1 := by
  refine ⟨rfl, handler_completes_at_most_once plainPlatform (fun _ => plainApp)
    (fun _ => shippedFrame) shippedTid (fun _ => by decide +kernel) (newWorld ()).user
    (inTurn.map .thread) ?_⟩
  have hothers : (pairTrace inTurn).all (fun x =>
      match x.input with
      | .thread i => decide (stage (x.before.phase (!i)) = .idle)
      | .outside _ => true) = true := by
    decide +kernel
  intro x hx
  refine ChecksAlone.of_others_idle (fun _ => rfl) fun i hi j hj => ?_
  have hx := List.all_eq_true.mp hothers x hx
  rw [hi] at hx
  rw [Bool.eq_not_of_ne hj]
  exact of_decide_eq_true hx

/-- Two checks in a row, and the handler runs to its end twice. -/
theorem handler_completes_twice :
    ¬ ∀ x ∈ pairTrace bothCheck, completions x.after.world ≤ 1 := by
  decide +kernel

end SapRfc.Analysis.Interleavings
