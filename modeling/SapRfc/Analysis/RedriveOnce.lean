import SapRfc.Analysis.Bootstrap
import SapRfc.Program.ParkedTasks

/-!
# Tasks that send one parked request

Any number of tasks send the parked request of one TID again, on connections that share a
store.  Each reads the payload before it takes the lock of its connection, and deletes it after
the lock is released, so two tasks that both read before either has deleted both send.  The runs
in which a task finds the payload only while no other task has it are those in which nothing is
sent behind a delivery.
-/

set_option autoImplicit false

namespace SapRfc.Analysis.RedriveOnce

open SapRfc.Library SapRfc.Program
open SapRfc.Analysis.Bootstrap (oneRecord)

variable {ι κ ω χ V : Type}

/-- A store that gives back what is parked, and no longer what is deleted. -/
structure KeepsParked (store : TidStore χ) (tid : PyStr) (parked : χ → Option Bytes) : Prop where
  get : ∀ g payload, (Eff.run (store.get_parked tid) g).1 = .ok payload → payload = parked g
  get_keeps : ∀ g, parked (Eff.run (store.get_parked tid) g).2 = parked g
  delete : ∀ g, (Eff.run (store.delete_parked tid) g).1 = .ok () →
    parked (Eff.run (store.delete_parked tid) g).2 = none

/-- The stores in memory do. -/
theorem tables_keep_parked (tid : PyStr) :
    KeepsParked tablesTidStore tid fun t => t.1.parked tid where
  get _ _ h := (Except.ok.inj h).symm
  get_keeps _ := rfl
  delete _ _ := if_pos rfl

/-- The task has the payload, or has just delivered it. -/
def Busy : RedrivePhase → Prop
  | .start => False
  | .ended _ => False
  | _ => True

instance : DecidablePred Busy := fun phase =>
  match phase with
  | .start => .isFalse id
  | .ended _ => .isFalse id
  | .waiting _ => .isTrue trivial
  | .attempting _ _ => .isTrue trivial
  | .awaiting _ _ => .isTrue trivial
  | .pausing _ _ => .isTrue trivial
  | .parking _ _ => .isTrue trivial
  | .delivered => .isTrue trivial

/-! ## One step of a task -/

section Steps

variable {k : Client ω χ V} {tid : PyStr} {store : TidStore χ} {parked : χ → Option Bytes}

/-- The first step finds the payload, or the task is at its end. -/
theorem advance_start (hstore : k.tid_store = some store) (law : KeepsParked store tid parked)
    (c : Conn ω χ) :
    parked (redrive_advance k tid .start c).2.user = parked c.user ∧
      ((∃ payload, (redrive_advance k tid .start c).1 = .waiting payload ∧
        parked c.user = some payload) ∨ ¬ Busy (redrive_advance k tid .start c).1) := by
  have hget := law.get c.user
  have hkeeps := law.get_keeps c.user
  unfold redrive_advance redrive_next
  rw [hstore]
  dsimp only
  rw [Eff.run_bind]
  unfold onStore
  rw [Eff.run_zoom]
  cases hrun : Eff.run (store.get_parked tid) c.user with
  | mk r g =>
    rw [hrun] at hget hkeeps
    cases r with
    | error e => exact ⟨hkeeps, .inr id⟩
    | ok payload =>
      cases payload with
      | none => exact ⟨hkeeps, .inr id⟩
      | some payload => exact ⟨hkeeps, .inl ⟨payload, rfl, (hget _ rfl).symm⟩⟩

/-- INTERNAL: behind a delivery the payload is deleted, and the task is at its end. -/
theorem advance_delivered (hstore : k.tid_store = some store) (law : KeepsParked store tid parked)
    {c : Conn ω χ} (hdelete : (Eff.run (store.delete_parked tid) c.user).1 = .ok ()) :
    parked (redrive_advance k tid .delivered c).2.user = none ∧
      ¬ Busy (redrive_advance k tid .delivered c).1 := by
  have hgone := law.delete c.user hdelete
  unfold redrive_advance redrive_next delete_parked
  rw [hstore]
  dsimp only
  rw [Eff.run_bind]
  unfold onStore
  rw [Eff.run_zoom]
  cases hrun : Eff.run (store.delete_parked tid) c.user with
  | mk r g =>
    rw [hrun] at hgone hdelete
    cases r with
    | error e => cases hdelete
    | ok _ => exact ⟨hgone, id⟩

variable (tid) in
/-- INTERNAL: a task at its end does nothing. -/
theorem advance_ended (result : Except PyError Unit) (c : Conn ω χ) :
    (redrive_advance k tid (.ended result) c).2 = c ∧
      ¬ Busy (redrive_advance k tid (.ended result) c).1 := by
  unfold redrive_advance redrive_next
  rw [Eff.run_bind]
  cases result with
  | ok _ => exact ⟨rfl, id⟩
  | error e => exact ⟨rfl, id⟩

end Steps

/-! ## Runs -/

/-- A step of the process. -/
abbrev CrewStep (ι κ ω χ : Type) : Type :=
  Step (Crew ι κ ω χ) (CrewMove ι κ ω χ) (Option (CrewEvent ι))

section Condition

variable (store : TidStore χ) (tid : PyStr) (parked : χ → Option Bytes)

/-- A task that begins finds the payload only while no other task has it, what was delivered is
deleted, and the rest of the process leaves the payload alone. -/
structure RedrivesAlone (x : CrewStep ι κ ω χ) : Prop where
  reads : ∀ i, x.input = .task i → x.before.phase i = .start → parked x.before.shared ≠ none →
    ∀ j, j ≠ i → ¬ Busy (x.before.phase j)
  deletes : ∀ i, x.input = .task i → x.before.phase i = .delivered →
    (Eff.run (store.delete_parked tid) x.before.shared).1 = .ok ()
  outside : ∀ conns shared, x.input = .outside conns shared →
    parked shared = parked x.before.shared

/-- One task at most has the payload, and behind a delivery it is deleted before the task that
delivered it ends. -/
structure Redriven (done : List (CrewStep ι κ ω χ)) (w : Crew ι κ ω χ) : Prop where
  single : ∀ i j, Busy (w.phase i) → Busy (w.phase j) → i = j
  gone : ∀ x ∈ done, ∀ i, x.output = some (.delivered i) →
    (∃ j, w.phase j = .delivered) ∨ (∀ j, ¬ Busy (w.phase j)) ∧ parked w.shared = none

end Condition

section Runs

variable {k : κ → Client ω χ V} {conn_of : ι → κ} {tid : PyStr} {store : TidStore χ}
  {parked : χ → Option Bytes}

/-- INTERNAL: a delivery is the last step under the lock. -/
theorem delivered_of_event {i i' : ι} {phase next : RedrivePhase}
    (h : crew_event i phase next = some (.delivered i')) : next = .delivered := by
  cases phase with
  | awaiting payload left =>
    cases next with
    | delivered => rfl
    | _ => cases h
  | _ => cases h

section Invariant

variable {done : List (CrewStep ι κ ω χ)} {w w' : Crew ι κ ω χ} {x : CrewStep ι κ ω χ}

/-- INTERNAL: nothing happens to the phases and the payload. -/
theorem Redriven.quiet (h : Redriven parked done w) (hphase : w'.phase = w.phase)
    (hparked : parked w'.shared = parked w.shared) (hevent : ∀ i, x.output ≠ some (.delivered i)) :
    Redriven parked (done ++ [x]) w' := by
  constructor
  · rw [hphase]
    exact h.single
  · intro y hy i hi
    rw [hphase, hparked]
    rcases List.mem_append.mp hy with hy | hy
    · exact h.gone y hy i hi
    · rw [List.mem_singleton.mp hy] at hi
      exact absurd hi (hevent i)

/-- INTERNAL: while a task has the payload and has not delivered it, nothing was delivered. -/
theorem Redriven.undelivered (h : Redriven parked done w) {i : ι} (hbusy : Busy (w.phase i))
    (hphase : w.phase i ≠ .delivered) : ∀ y ∈ done, ∀ i', y.output ≠ some (.delivered i') := by
  intro y hy i' hi'
  rcases h.gone y hy i' hi' with ⟨j, hj⟩ | ⟨hall, -⟩
  · have hji : j = i := h.single j i (by rw [hj]; trivial) hbusy
    rw [hji] at hj
    exact hphase hj
  · exact hall i hbusy

variable [DecidableEq ι] {i : ι} {next : RedrivePhase}

/-- INTERNAL: a task that does not have the payload begins or ends without it. -/
theorem Redriven.idle (h : Redriven parked done w)
    (hphase : w'.phase = Function.update w.phase i next)
    (hidle : ¬ Busy (w.phase i)) (hnext : ¬ Busy next)
    (hparked : parked w'.shared = parked w.shared) (hevent : ∀ i, x.output ≠ some (.delivered i)) :
    Redriven parked (done ++ [x]) w' := by
  have hbusy : ∀ j, Busy (w'.phase j) → Busy (w.phase j) := by
    intro j hj
    rw [hphase] at hj
    by_cases hji : j = i
    · rw [hji, Function.update_self] at hj
      exact absurd hj hnext
    · rwa [Function.update_of_ne hji] at hj
  constructor
  · exact fun j j' hj hj' => h.single j j' (hbusy j hj) (hbusy j' hj')
  · intro y hy i' hi'
    rw [hparked]
    rcases List.mem_append.mp hy with hy | hy
    · rcases h.gone y hy i' hi' with ⟨j, hj⟩ | ⟨hall, hnone⟩
      · refine .inl ⟨j, ?_⟩
        have hji : j ≠ i := by
          rintro rfl
          rw [hj] at hidle
          exact hidle trivial
        rw [hphase, Function.update_of_ne hji, hj]
      · exact .inr ⟨fun j hj => hall j (hbusy j hj), hnone⟩
    · rw [List.mem_singleton.mp hy] at hi'
      exact absurd hi' (hevent i')

/-- INTERNAL: the one task that has the payload goes on, before anything was delivered. -/
theorem Redriven.single_goes_on (hphase : w'.phase = Function.update w.phase i next)
    (hothers : ∀ j, j ≠ i → ¬ Busy (w.phase j))
    (hbefore : ∀ y ∈ done, ∀ i', y.output ≠ some (.delivered i'))
    (hevent : ∀ i', x.output = some (.delivered i') → next = .delivered) :
    Redriven parked (done ++ [x]) w' := by
  have honly : ∀ j, Busy (w'.phase j) → j = i := by
    intro j hj
    by_contra hne
    rw [hphase, Function.update_of_ne hne] at hj
    exact hothers j hne hj
  constructor
  · intro j j' hj hj'
    rw [honly j hj, honly j' hj']
  · intro y hy i' hi'
    rcases List.mem_append.mp hy with hy | hy
    · exact absurd hi' (hbefore y hy i')
    · rw [List.mem_singleton.mp hy] at hi'
      refine .inl ⟨i, ?_⟩
      rw [hphase, Function.update_self, hevent i' hi']

end Invariant

variable [DecidableEq ι] [DecidableEq κ]

variable (tid) in
/-- INTERNAL: what a task that is not held up does. -/
theorem crewStep_task {w : Crew ι κ ω χ} {i : ι}
    (hheld : ¬ held_up (w.locked (conn_of i)) (w.phase i) = true) :
    ∃ out, out = redrive_advance (k (conn_of i)) tid (w.phase i)
        { w.conns (conn_of i) with user := w.shared } ∧
      (Run.stepOf (crewStep k conn_of tid) (.task i) w).output =
        crew_event i (w.phase i) out.1 ∧
      (Run.stepOf (crewStep k conn_of tid) (.task i) w).after.phase =
        Function.update w.phase i out.1 ∧
      (Run.stepOf (crewStep k conn_of tid) (.task i) w).after.shared = out.2.user := by
  refine ⟨_, rfl, ?_⟩
  unfold Run.stepOf crewStep
  dsimp only
  rw [if_neg hheld]
  exact ⟨rfl, rfl, rfl⟩

/-- One step keeps the invariant. -/
theorem Redriven.step {done : List (CrewStep ι κ ω χ)} {w : Crew ι κ ω χ}
    (hstore : ∀ j, (k j).tid_store = some store) (law : KeepsParked store tid parked)
    (h : Redriven parked done w) (move : CrewMove ι κ ω χ)
    (halone : RedrivesAlone store tid parked (Run.stepOf (crewStep k conn_of tid) move w)) :
    Redriven parked (done ++ [Run.stepOf (crewStep k conn_of tid) move w])
      (Run.stepOf (crewStep k conn_of tid) move w).after := by
  cases move with
  | outside conns shared => exact h.quiet rfl (halone.outside conns shared rfl) nofun
  | task i =>
    by_cases hheld : held_up (w.locked (conn_of i)) (w.phase i) = true
    · have hstep : crewStep k conn_of tid (.task i) w = (none, w) := if_pos hheld
      have hafter : (Run.stepOf (crewStep k conn_of tid) (.task i) w).after = w :=
        congrArg Prod.snd hstep
      refine h.quiet (by rw [hafter]) (by rw [hafter]) fun i' hi' => ?_
      have houtput : (Run.stepOf (crewStep k conn_of tid) (.task i) w).output = none :=
        congrArg Prod.fst hstep
      rw [houtput] at hi'
      cases hi'
    · obtain ⟨out, hout, houtput, hphase, hshared⟩ :=
        crewStep_task (k := k) tid hheld
      have hreads := halone.reads i rfl
      have hdeletes := halone.deletes i rfl
      have hevent : ∀ i', (Run.stepOf (crewStep k conn_of tid) (.task i) w).output =
          some (.delivered i') → out.1 = .delivered := by
        intro i' hi'
        rw [houtput] at hi'
        exact delivered_of_event hi'
      -- a task that has the payload is the only one
      have hothers : Busy (w.phase i) → ∀ j, j ≠ i → ¬ Busy (w.phase j) :=
        fun hbusy j hne hj => hne (h.single j i hj hbusy)
      have hlocked : Busy (w.phase i) → w.phase i ≠ .delivered →
          Redriven parked (done ++ [Run.stepOf (crewStep k conn_of tid) (.task i) w])
            (Run.stepOf (crewStep k conn_of tid) (.task i) w).after :=
        fun hbusy hne => .single_goes_on hphase (hothers hbusy) (h.undelivered hbusy hne) hevent
      cases hstage : w.phase i with
      | start =>
        have hfirst := advance_start (hstore (conn_of i)) law
          { w.conns (conn_of i) with user := w.shared }
        rw [hstage] at hout houtput
        rw [← hout] at hfirst
        obtain ⟨hparked, hnext⟩ := hfirst
        rcases hnext with ⟨payload, hwaiting, hpayload⟩ | hidle
        · have hpayload : parked w.shared = some payload := hpayload
          have halone' := hreads hstage (by
            show parked w.shared ≠ none
            rw [hpayload]
            nofun)
          refine .single_goes_on hphase halone' ?_ hevent
          intro y hy i' hi'
          rcases h.gone y hy i' hi' with ⟨j, hj⟩ | ⟨-, hnone⟩
          · have hji : j ≠ i := by
              rintro rfl
              rw [hstage] at hj
              cases hj
            exact halone' j hji (show Busy (w.phase j) by rw [hj]; trivial)
          · rw [hpayload] at hnone
            cases hnone
        · refine h.idle hphase (by rw [hstage]; exact id) hidle (by rw [hshared, hparked]) ?_
          intro i' hi'
          rw [houtput] at hi'
          cases hi'
      | ended result =>
        obtain ⟨hsame, hidle⟩ := advance_ended (k := k (conn_of i)) tid result
          { w.conns (conn_of i) with user := w.shared }
        rw [hstage] at hout houtput
        rw [← hout] at hsame hidle
        refine h.idle hphase (by rw [hstage]; exact id) hidle (by rw [hshared, hsame]) ?_
        intro i' hi'
        rw [houtput] at hi'
        cases hi'
      | delivered =>
        obtain ⟨hnone, hidle⟩ := advance_delivered (k := k (conn_of i)) (hstore (conn_of i)) law
          (c := { w.conns (conn_of i) with user := w.shared }) (hdeletes hstage)
        rw [hstage] at hout
        rw [← hout] at hnone hidle
        have hall : ∀ j, ¬ Busy
            ((Run.stepOf (crewStep k conn_of tid) (.task i) w).after.phase j) := by
          intro j hj
          rw [hphase] at hj
          by_cases hji : j = i
          · rw [hji, Function.update_self] at hj
            exact hidle hj
          · rw [Function.update_of_ne hji] at hj
            exact hothers (by rw [hstage]; trivial) j hji hj
        refine ⟨fun j _ hj _ => absurd hj (hall j), fun y _ i' _ => .inr ⟨hall, ?_⟩⟩
        rw [hshared, hnone]
      | waiting payload => exact hlocked (by rw [hstage]; trivial) (by rw [hstage]; nofun)
      | attempting payload left =>
        exact hlocked (by rw [hstage]; trivial) (by rw [hstage]; nofun)
      | awaiting payload left => exact hlocked (by rw [hstage]; trivial) (by rw [hstage]; nofun)
      | pausing payload left => exact hlocked (by rw [hstage]; trivial) (by rw [hstage]; nofun)
      | parking payload cause => exact hlocked (by rw [hstage]; trivial) (by rw [hstage]; nofun)

/-- A task that sends has the payload and has not delivered it. -/
theorem sends_of_event {w : Crew ι κ ω χ} {move : CrewMove ι κ ω χ} {i : ι}
    (h : (Run.stepOf (crewStep k conn_of tid) move w).output = some (.sent i)) :
    Busy (w.phase i) ∧ w.phase i ≠ .delivered := by
  cases move with
  | outside conns shared => cases h
  | task i' =>
    by_cases hheld : held_up (w.locked (conn_of i')) (w.phase i') = true
    · have hstep : crewStep k conn_of tid (.task i') w = (none, w) := if_pos hheld
      have houtput : (Run.stepOf (crewStep k conn_of tid) (.task i') w).output = none :=
        congrArg Prod.fst hstep
      rw [houtput] at h
      cases h
    · obtain ⟨out, -, houtput, -, -⟩ := crewStep_task (k := k) tid hheld
      rw [houtput] at h
      cases hphase : w.phase i' with
      | attempting payload left =>
        rw [hphase] at h
        cases h
        rw [hphase]
        exact ⟨trivial, nofun⟩
      | awaiting payload left =>
        rw [hphase] at h
        cases hnext : out.1 with
        | delivered =>
          rw [hnext] at h
          cases h
        | _ =>
          rw [hnext] at h
          cases h
      | _ =>
        rw [hphase] at h
        cases h

/-- As long as a task that begins finds the payload only while no other task has it, nothing is
sent once a task has delivered the request, however the tasks take turns. -/
theorem delivered_then_unsent (hstore : ∀ j, (k j).tid_store = some store)
    (law : KeepsParked store tid parked) (conns : κ → Conn ω χ) (shared : χ)
    (moves : List (CrewMove ι κ ω χ))
    (alone : ∀ x ∈ Run.trace (crewStep k conn_of tid) moves (Crew.initial conns shared),
      RedrivesAlone store tid parked x) {m n : ℕ} {x y : CrewStep ι κ ω χ}
    (hx : (Run.trace (crewStep k conn_of tid) moves (Crew.initial conns shared))[m]? = some x)
    (hy : (Run.trace (crewStep k conn_of tid) moves (Crew.initial conns shared))[n]? = some y)
    (hlt : m < n) {i i' : ι} (hdelivered : x.output = some (.delivered i)) :
    y.output ≠ some (.sent i') := by
  intro hsent
  have hinit : Redriven parked [] (Crew.initial conns shared : Crew ι κ ω χ) :=
    ⟨fun _ _ hi _ => hi.elim, nofun⟩
  have hstep : ∀ done w move, Redriven parked done w →
      RedrivesAlone store tid parked (Run.stepOf (crewStep k conn_of tid) move w) →
        Redriven parked (done ++ [Run.stepOf (crewStep k conn_of tid) move w])
          (Run.stepOf (crewStep k conn_of tid) move w).after :=
    fun done w move h halone => h.step hstore law move halone
  have hbefore := (Run.trace_invariant hstep hinit alone hy).1
  have hstepped := Run.eq_stepOf_of_mem (List.mem_of_getElem? hy)
  rw [hstepped] at hsent
  obtain ⟨hbusy, hne⟩ := sends_of_event hsent
  refine hbefore.undelivered hbusy hne x ?_ i hdelivered
  exact List.mem_of_getElem? ((List.getElem?_take_of_lt hlt).trans hx)

end Runs

/-! ## Two tasks on one connection -/

def retriedTid : PyStr := lit "0A0B0C0D0E0F101112131415"

/-- A payload is parked, and the peer answers every request that it has gone through. -/
def parkedCrew : Crew Bool Unit (Wire (List Bytes)) Tables :=
  Crew.initial
    (fun _ => readyConn (Wire.connect [oneRecord Tag.RETURN_CODE [0, 0, 0, 0],
      oneRecord Tag.RETURN_CODE [0, 0, 0, 0]] []) Tables.empty)
    (Eff.run (tablesTidStore.park retriedTid [1, 2, 3]) Tables.empty).2

/-- What two tasks do in these turns. -/
def pairSteps (turns : List Bool) : List (CrewStep Bool Unit (Wire (List Bytes)) Tables) :=
  Run.trace (crewStep (fun _ => (plainClient (scriptLink id) 0).toClient) (fun _ => ()) retriedTid)
    (turns.map .task) parkedCrew

/-- One task to its end, and then the other. -/
def afterwards : List Bool := [true, true, true, true, true, false, false]

/-- Both tasks read before one of them has taken the lock. -/
def bothRead : List Bool := [true, false, true, true, true, true, false, false]

/-- The second task finds nothing to send. -/
theorem delivered_then_unsent_afterwards :
    (pairSteps afterwards).map Step.output =
        [none, none, some (.sent true), some (.delivered true), none, none, none] ∧
      ∀ x ∈ (pairSteps afterwards)[3]?, ∀ y ∈ (pairSteps afterwards)[6]?,
        y.output ≠ some (.sent false) := by
  have hevents : (pairSteps afterwards).map Step.output =
      [none, none, some (.sent true), some (.delivered true), none, none, none] := by
    decide +kernel
  have hothers : (pairSteps afterwards).all (fun x =>
      match x.input with
      | .task i => decide (Busy (x.before.phase i) ∨ ¬ Busy (x.before.phase (!i)))
      | .outside _ _ => false) = true := by
    decide +kernel
  have halone : ∀ x ∈ pairSteps afterwards, RedrivesAlone tablesTidStore retriedTid
      (fun t : Tables => t.1.parked retriedTid) x := by
    intro x hx
    have hothers := List.all_eq_true.mp hothers x hx
    refine ⟨fun i hi hstart _ j hj => ?_, fun _ _ _ => rfl, fun conns shared hi => ?_⟩
    · rw [hi] at hothers
      rw [Bool.eq_not_of_ne hj]
      refine (of_decide_eq_true hothers).resolve_left ?_
      rw [hstart]
      exact id
    · rw [hi] at hothers
      cases hothers
  refine ⟨hevents, fun x hx y hy => ?_⟩
  have houtput : x.output = some (.delivered true) := by
    have hthird : ((pairSteps afterwards).map Step.output)[3]? = some (some (.delivered true)) := by
      rw [hevents]
      rfl
    rw [List.getElem?_map, hx] at hthird
    exact Option.some.inj hthird
  exact delivered_then_unsent (fun _ => rfl) (tables_keep_parked retriedTid) _ _ _ halone hx hy
    (by decide) houtput

/-- The first task delivers the request, and the second sends it again. -/
theorem sent_behind_delivery :
    (pairSteps bothRead).map Step.output =
      [none, none, none, some (.sent true), some (.delivered true), none, none,
        some (.sent false)] := by
  decide +kernel

end SapRfc.Analysis.RedriveOnce
