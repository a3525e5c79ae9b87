import SapRfc.Analysis.AsyncDispatch
import SapRfc.Analysis.Dicts
import SapRfc.Analysis.ServeLoops

/-!
# The replies of the asynchronous server

Each call of a connection is a task of its own, so calls are answered in the order in which
their dispatches end.  A call is in flight or its dispatch has ended, never both and never
twice, and what it ended with is its reply, if it is a response.  Plain functions end in
their first turn, and tasks start in the order in which they were created: then, and only
by that, the replies are in the order of the calls.
-/

set_option autoImplicit false

namespace SapRfc.Analysis.CallTasks

open SapRfc.Library SapRfc.Program SapRfc.Analysis.Dicts SapRfc.Analysis.Shipping
open SapRfc.Analysis.ServeLoops (PlainHandlers whole_async_dispatch_start)

section Tasks

variable {χ V : Type} {p : Platform V} {srv : RfcServer χ V}

/-! ## The turns of a dispatch -/

/-- INTERNAL: the ordinary branch is its first turn and what is left of it. -/
theorem async_dispatch_call_eq (tlv : Bytes) (fname : PyStr) :
    async_dispatch_call p srv tlv fname =
      async_call_start p srv tlv fname >>= async_dispatch_rest p := by
  unfold async_dispatch_call async_call_start
  rw [Eff.bind_assoc]
  congr 1
  funext entry
  cases entry with
  | none =>
    dsimp only
    rw [Eff.bind_assoc]
    exact (Eff.bind_pure _).symm
  | some entry =>
    obtain ⟨func_desc, handler⟩ := entry
    dsimp only
    rw [Eff.bind_assoc]
    congr 1
    funext _
    rw [Eff.bind_assoc]
    congr 1
    funext allowed
    cases allowed with
    | false =>
      rw [if_pos rfl, if_pos rfl, Eff.bind_assoc]
      exact (Eff.bind_pure _).symm
    | true =>
      rw [if_neg (show ¬ true = false by decide), if_neg (show ¬ true = false by decide),
        Eff.bind_assoc]
      congr 1
      funext request
      cases handler.coroutine with
      | true => rfl
      | false =>
        rw [if_neg Bool.false_ne_true, Eff.bind_assoc]
        exact (Eff.bind_pure _).symm

/-- A dispatch is its first turn and what is left of it. -/
theorem async_dispatch_eq_turns (frame : Bytes) :
    async_dispatch p srv frame = async_dispatch_start p srv frame >>= async_dispatch_rest p := by
  unfold async_dispatch async_dispatch_start
  dsimp only
  rw [Eff.bind_assoc]
  congr 1
  funext fname
  by_cases hsys : fname ∈ systemNames
  · rw [if_pos hsys, if_pos hsys, Eff.bind_assoc]
    exact (Eff.bind_pure _).symm
  · rw [if_neg hsys, if_neg hsys]
    exact async_dispatch_call_eq _ fname

/-! ## What holds at any time -/

/-- A dispatch of the frame ends with the outcome: in its first turn, or with the handler
that this turn came to. -/
inductive EndsWith (p : Platform V) (srv : RfcServer χ V) (frame : Bytes) :
    Except PyError Bytes → Prop where
  | at_once {w w' : ServerWorld χ} {out : Bytes} :
      Eff.run (async_dispatch_start p srv frame) w = (.ok (.ended out), w') →
      EndsWith p srv frame (.ok out)
  | raised {w w' : ServerWorld χ} {exc : PyError} :
      Eff.run (async_dispatch_start p srv frame) w = (.error exc, w') →
      EndsWith p srv frame (.error exc)
  | awaited {w w' v v' : ServerWorld χ} {func_desc : Option FunctionDesc}
      {handler : Handler χ V} {request : Values V} {r : Except PyError Bytes} :
      Eff.run (async_dispatch_start p srv frame) w =
        (.ok (.awaits func_desc handler request), w') →
      Eff.run (answer_handler p func_desc handler request) v = (r, v') →
      EndsWith p srv frame r

/-- The task belongs to the frame. -/
def TaskOf (p : Platform V) (srv : RfcServer χ V) (frame : Bytes) : CallTask χ V → Prop
  | .created frame' => frame' = frame
  | .awaiting func_desc handler request =>
    ∃ w w', Eff.run (async_dispatch_start p srv frame) w =
      (.ok (.awaits func_desc handler request), w')

/-- The calls in flight, and those whose dispatch has ended. -/
def calls (c : Connection χ V) : List ℕ := c.tasks.map Prod.fst ++ c.finished.map Prod.fst

/-- What holds of a connection at any time. -/
structure Kept (p : Platform V) (srv : RfcServer χ V) (c : Connection χ V) : Prop where
  nodup : (calls c).Nodup
  all : c.connected = true → ∀ call < c.requests.length, call ∈ calls c
  tasks : ∀ e ∈ c.tasks, ∃ frame, c.requests[e.1]? = some frame ∧ TaskOf p srv frame e.2
  finished : ∀ e ∈ c.finished, ∃ frame, c.requests[e.1]? = some frame ∧ EndsWith p srv frame e.2
  written : c.written = c.finished.filterMap reply_of

/-- INTERNAL: a call of either kind was received. -/
theorem Kept.lt {c : Connection χ V} (h : Kept p srv c) {call : ℕ} (hcall : call ∈ calls c) :
    call < c.requests.length := by
  have hsome : ∃ frame, c.requests[call]? = some frame := by
    rcases List.mem_append.mp hcall with hcall | hcall
    · obtain ⟨e, he, rfl⟩ := List.mem_map.mp hcall
      obtain ⟨frame, hframe, -⟩ := h.tasks e he
      exact ⟨frame, hframe⟩
    · obtain ⟨e, he, rfl⟩ := List.mem_map.mp hcall
      obtain ⟨frame, hframe, -⟩ := h.finished e he
      exact ⟨frame, hframe⟩
  obtain ⟨frame, hframe⟩ := hsome
  exact (List.getElem?_eq_some_iff.mp hframe).1

/-- INTERNAL: a connection that is accepted. -/
theorem Kept.accept (w : ServerWorld χ) : Kept p srv (.accept w) where
  nodup := List.nodup_nil
  all := fun _ _ hlt => absurd hlt (Nat.not_lt_zero _)
  tasks := fun _ he => absurd he List.not_mem_nil
  finished := fun _ he => absurd he List.not_mem_nil
  written := rfl

/-! ## One event -/

/-- INTERNAL: a call that is received. -/
theorem Kept.arrive {c : Connection χ V} (h : Kept p srv c) (frame : Bytes) :
    Kept p srv { c with
      requests := c.requests ++ [frame]
      tasks := c.tasks ++ [(c.requests.length, .created frame)] } := by
  have hold : ∀ {call : ℕ} {frame' : Bytes}, c.requests[call]? = some frame' →
      (c.requests ++ [frame])[call]? = some frame' := by
    intro call frame' hcall
    rw [List.getElem?_append_left (List.getElem?_eq_some_iff.mp hcall).1, hcall]
  have hcalls : (calls { c with
      requests := c.requests ++ [frame]
      tasks := c.tasks ++ [(c.requests.length, .created frame)] }).Perm
        (c.requests.length :: calls c) := by
    unfold calls
    simp only [List.map_append, List.map_singleton, List.append_assoc, List.singleton_append]
    exact List.perm_middle
  constructor
  · rw [hcalls.nodup_iff, List.nodup_cons]
    exact ⟨fun hmem => absurd (h.lt hmem) (Nat.lt_irrefl _), h.nodup⟩
  · intro hconn call hlt
    rw [hcalls.mem_iff, List.mem_cons]
    rw [List.length_append, List.length_singleton] at hlt
    by_cases heq : call = c.requests.length
    · exact .inl heq
    · exact .inr (h.all hconn call (by omega))
  · intro e he
    rcases List.mem_append.mp he with he | he
    · obtain ⟨frame', hframe, htask⟩ := h.tasks e he
      exact ⟨frame', hold hframe, htask⟩
    · rw [List.mem_singleton.mp he]
      exact ⟨frame, by simp, rfl⟩
  · intro e he
    obtain ⟨frame', hframe, hends⟩ := h.finished e he
    exact ⟨frame', hold hframe, hends⟩
  · exact h.written

/-- INTERNAL: a dispatch that ends. -/
theorem Kept.finish {c : Connection χ V} (h : Kept p srv c) {call : ℕ} {task : CallTask χ V}
    (hmem : (call, task) ∈ c.tasks) {frame : Bytes} {r : Except PyError Bytes}
    (hframe : c.requests[call]? = some frame) (hends : EndsWith p srv frame r)
    (w : ServerWorld χ) : Kept p srv (finish call r { c with server := w }) := by
  obtain ⟨htasks, hfinished, hdisjoint⟩ := List.nodup_append'.mp h.nodup
  have hcall : call ∈ c.tasks.map Prod.fst := List.mem_map.mpr ⟨_, hmem, rfl⟩
  have hended : call ∉ c.finished.map Prod.fst := hdisjoint hcall
  have hkept : ∀ stopped : Bool, ∀ e ∈ (if stopped = true then [] else
      c.tasks.filter fun t => decide (t.1 ≠ call)), e ∈ c.tasks ∧ e.1 ≠ call := by
    intro stopped e he
    cases stopped with
    | true => cases he
    | false =>
      obtain ⟨hin, hne⟩ := List.mem_filter.mp he
      exact ⟨hin, of_decide_eq_true hne⟩
  unfold SapRfc.Program.finish
  generalize interrupts r = stopped
  constructor
  · unfold calls
    simp only [List.map_append, List.map_singleton]
    rw [List.nodup_append']
    refine ⟨?_, ?_, ?_⟩
    · cases stopped with
      | true => exact List.nodup_nil
      | false => exact htasks.sublist (List.filter_sublist.map _)
    · rw [List.nodup_append']
      refine ⟨hfinished, List.nodup_singleton _, ?_⟩
      intro x hx hx'
      rw [List.mem_singleton.mp hx'] at hx
      exact hended hx
    · intro x hx hx'
      obtain ⟨e, he, rfl⟩ := List.mem_map.mp hx
      obtain ⟨hin, hne⟩ := hkept stopped e he
      rcases List.mem_append.mp hx' with hx' | hx'
      · exact hdisjoint (List.mem_map.mpr ⟨e, hin, rfl⟩) hx'
      · exact hne (List.mem_singleton.mp hx')
  · intro hconn i hi
    obtain ⟨hopen, hrun⟩ := Bool.and_eq_true_iff.mp hconn
    have hfalse : stopped = false := by simpa using hrun
    unfold calls
    simp only [List.map_append, List.map_singleton, List.mem_append]
    rcases List.mem_append.mp (h.all hopen i hi) with hin | hin
    · by_cases heq : i = call
      · exact .inr (.inr (List.mem_singleton.mpr heq))
      · obtain ⟨e, he, rfl⟩ := List.mem_map.mp hin
        refine .inl (List.mem_map.mpr ⟨e, ?_, rfl⟩)
        rw [hfalse]
        exact List.mem_filter.mpr ⟨he, decide_eq_true heq⟩
    · exact .inr (.inl hin)
  · intro e he
    exact h.tasks e (hkept stopped e he).1
  · intro e he
    rcases List.mem_append.mp he with he | he
    · exact h.finished e he
    · rw [List.mem_singleton.mp he]
      exact ⟨frame, hframe, hends⟩
  · show c.written ++ (reply_of (call, r)).toList = _
    rw [h.written, List.filterMap_append]
    cases hr : reply_of (call, r) with
    | none => simp [hr]
    | some reply => simp [hr]

/-- INTERNAL: a first turn that comes to an `async def` handler. -/
theorem Kept.await {c : Connection χ V} (h : Kept p srv c) {call : ℕ} {task task' : CallTask χ V}
    (hmem : (call, task) ∈ c.tasks) {frame : Bytes} (hframe : c.requests[call]? = some frame)
    (htask : TaskOf p srv frame task') (w : ServerWorld χ) :
    Kept p srv { c with server := w, tasks := assocSet c.tasks call task' } := by
  have hkeys : (assocSet c.tasks call task').map Prod.fst = c.tasks.map Prod.fst := by
    unfold assocSet
    rw [if_pos (List.any_eq_true.mpr ⟨_, hmem, decide_eq_true rfl⟩), List.map_map]
    apply List.map_congr_left
    intro e _
    by_cases hkey : e.1 = call
    · simp [hkey]
    · simp [hkey]
  have hcalls : calls { c with server := w, tasks := assocSet c.tasks call task' } = calls c := by
    unfold calls
    rw [hkeys]
  constructor
  · rw [hcalls]
    exact h.nodup
  · rw [hcalls]
    exact h.all
  · intro e he
    rcases mem_assocSet he with rfl | he
    · exact ⟨frame, hframe, htask⟩
    · exact h.tasks e he
  · exact h.finished
  · exact h.written

/-- INTERNAL: the task that starts is one that was created. -/
theorem first_created_mem {tasks : List (ℕ × CallTask χ V)} {call : ℕ} {frame : Bytes}
    (h : first_created tasks = some (call, frame)) : (call, .created frame) ∈ tasks := by
  obtain ⟨e, he, hsome⟩ := List.exists_of_findSome?_eq_some h
  obtain ⟨call', task⟩ := e
  cases task with
  | created frame' =>
    cases hsome
    exact he
  | awaiting _ _ _ => cases hsome

/-- INTERNAL: a task that is looked up is in flight. -/
theorem mem_of_assocGet {tasks : List (ℕ × CallTask χ V)} {call : ℕ} {task : CallTask χ V}
    (h : assocGet tasks call = some task) : (call, task) ∈ tasks := by
  obtain ⟨e, he, rfl⟩ := Option.map_eq_some_iff.mp h
  have hkey : e.1 = call := by simpa using List.find?_some he
  rw [← hkey]
  exact List.mem_of_find?_eq_some he

theorem Kept.step {c : Connection χ V} (h : Kept p srv c) (event : ConnectionEvent χ) :
    Kept p srv (connection_step p srv c event) := by
  cases event with
  | arrive frame =>
    show Kept p srv (if c.connected = true ∧ IsCall frame then _ else c)
    split
    · exact h.arrive frame
    · exact h
  | start =>
    simp only [connection_step]
    cases hfirst : first_created c.tasks with
    | none => exact h
    | some first =>
      obtain ⟨call, frame⟩ := first
      have hmem := first_created_mem hfirst
      obtain ⟨frame', hframe, rfl⟩ := h.tasks _ hmem
      dsimp only
      rcases hrun : Eff.run (async_dispatch_start p srv frame) c.server with ⟨exc | turn, w⟩
      · exact h.finish hmem hframe (.raised hrun) w
      · cases turn with
        | ended out => exact h.finish hmem hframe (.at_once hrun) w
        | awaits func_desc handler request =>
          have htask : TaskOf p srv frame (.awaiting func_desc handler request) := ⟨_, _, hrun⟩
          exact h.await hmem hframe htask w
  | complete call =>
    simp only [connection_step]
    cases hget : assocGet c.tasks call with
    | none => exact h
    | some task =>
      have hmem := mem_of_assocGet hget
      cases task with
      | created frame => exact h
      | awaiting func_desc handler request =>
        obtain ⟨frame, hframe, w, w', hturn⟩ := h.tasks _ hmem
        exact h.finish hmem hframe (.awaited hturn rfl) _
  | outside g => exact ⟨h.nodup, h.all, h.tasks, h.finished, h.written⟩
  | disconnect =>
    refine ⟨?_, fun hopen => absurd hopen Bool.false_ne_true, List.forall_mem_nil _, h.finished,
      h.written⟩
    exact h.nodup.sublist (List.sublist_append_right _ _)

/-! ## Plain functions -/

/-- With plain functions: the calls end in the order in which they came, and those in flight
are the next ones, none of them started. -/
structure InTurn (c : Connection χ V) : Prop where
  finished : c.finished.map Prod.fst = List.range c.finished.length
  tasks : c.tasks.map Prod.fst = List.range' c.finished.length c.tasks.length
  created : ∀ e ∈ c.tasks, ∃ frame, e.2 = .created frame
  received : c.connected = true → c.requests.length = c.finished.length + c.tasks.length

theorem InTurn.accept (w : ServerWorld χ) : InTurn (.accept w : Connection χ V) where
  finished := rfl
  tasks := rfl
  created := fun _ he => absurd he List.not_mem_nil
  received := fun _ => rfl

/-- INTERNAL: the first task ends. -/
theorem InTurn.finish {c : Connection χ V} (h : InTurn c) {e : ℕ × CallTask χ V}
    {rest : List (ℕ × CallTask χ V)} (htasks : c.tasks = e :: rest) (r : Except PyError Bytes)
    (w : ServerWorld χ) : InTurn (finish e.1 r { c with server := w }) := by
  have hids := h.tasks
  rw [htasks, List.map_cons, List.length_cons, List.range'_succ] at hids
  obtain ⟨hfirst, hrest⟩ := List.cons.inj hids
  have hremoved : (e :: rest).filter (fun t => decide (t.1 ≠ e.1)) = rest := by
    rw [List.filter_cons_of_neg (by simp), List.filter_eq_self]
    intro t ht
    have hmem : t.1 ∈ List.range' (c.finished.length + 1) rest.length := by
      rw [← hrest]
      exact List.mem_map.mpr ⟨t, ht, rfl⟩
    have hlo := (List.mem_range'_1.mp hmem).1
    apply decide_eq_true
    omega
  have hended : (c.finished ++ [(e.1, r)]).map Prod.fst =
      List.range (c.finished ++ [(e.1, r)]).length := by
    rw [List.map_append, List.map_singleton, h.finished, hfirst, List.length_append,
      List.length_singleton, List.range_succ]
  unfold SapRfc.Program.finish
  dsimp only
  rw [htasks, hremoved]
  cases interrupts r with
  | true => exact ⟨hended, rfl, nofun, fun hconn => by simp at hconn⟩
  | false =>
    refine ⟨hended, ?_, fun t ht => ?_, fun hconn => ?_⟩
    · simpa using hrest
    · exact h.created t (by rw [htasks]; exact List.mem_cons_of_mem _ ht)
    · have hlen := h.received (by simpa using hconn)
      rw [htasks, List.length_cons] at hlen
      simp only [Bool.false_eq_true, if_false, List.length_append, List.length_singleton]
      omega

theorem InTurn.step (hplain : PlainHandlers p srv) {c : Connection χ V} (h : InTurn c)
    (event : ConnectionEvent χ) : InTurn (connection_step p srv c event) := by
  cases event with
  | arrive frame =>
    show InTurn (if c.connected = true ∧ IsCall frame then _ else c)
    split
    · next hopen =>
      have hlen := h.received hopen.1
      refine ⟨h.finished, ?_, ?_, ?_⟩
      · rw [List.map_append, h.tasks, List.map_singleton, hlen, List.length_append,
          List.length_singleton, List.range'_1_concat]
      · intro e he
        rcases List.mem_append.mp he with he | he
        · exact h.created e he
        · rw [List.mem_singleton.mp he]
          exact ⟨frame, rfl⟩
      · intro _
        rw [List.length_append, List.length_append, hlen]
        rfl
    · exact h
  | start =>
    simp only [connection_step]
    by_cases hnone : c.tasks = []
    · have hfirst : first_created c.tasks = none := by
        rw [hnone]
        rfl
      rw [hfirst]
      exact h
    · obtain ⟨e, rest, htasks⟩ := List.exists_cons_of_ne_nil hnone
      obtain ⟨frame, hframe⟩ := h.created e (by rw [htasks]; exact List.mem_cons_self)
      have hfirst : first_created c.tasks = some (e.1, frame) := by
        unfold first_created
        rw [htasks, List.findSome?_cons, hframe]
      rw [hfirst]
      dsimp only
      rw [whole_async_dispatch_start hplain frame c.server]
      rcases Eff.run (dispatch_inbound p srv frame) c.server with ⟨exc | out, w⟩
      · exact h.finish htasks (.error exc) w
      · exact h.finish htasks (.ok out) w
  | complete call =>
    simp only [connection_step]
    cases hget : assocGet c.tasks call with
    | none => exact h
    | some task =>
      obtain ⟨frame, rfl⟩ := h.created _ (mem_of_assocGet hget)
      exact h
  | outside g => exact ⟨h.finished, h.tasks, h.created, h.received⟩
  | disconnect =>
    exact ⟨h.finished, rfl, List.forall_mem_nil _, fun hopen => absurd hopen Bool.false_ne_true⟩

/-! ## A run -/

/-- The frame of a call that arrives. -/
def arriving : ConnectionEvent χ → Option Bytes
  | .arrive frame => if IsCall frame then some frame else none
  | _ => none

/-- The calls that arrive while the connection is open. -/
def arrived (p : Platform V) (srv : RfcServer χ V) :
    List (ConnectionEvent χ) → Connection χ V → List Bytes
  | [], _ => []
  | event :: rest, c =>
    (if c.connected = true then (arriving event).toList else []) ++
      arrived p srv rest (connection_step p srv c event)

/-- A step takes in the call that arrives, and no other. -/
theorem requests_step (c : Connection χ V) (event : ConnectionEvent χ) :
    (connection_step p srv c event).requests =
      c.requests ++ if c.connected = true then (arriving event).toList else [] := by
  have hquiet : arriving event = none →
      (if c.connected = true then (arriving event).toList else []) = [] := by
    intro hnone
    rw [hnone]
    exact ite_self []
  cases event with
  | arrive frame =>
    show (if c.connected = true ∧ IsCall frame then _ else c).requests =
      c.requests ++ if c.connected = true then (if IsCall frame then some frame else none).toList
        else []
    by_cases hopen : c.connected = true
    · by_cases hcall : IsCall frame
      · rw [if_pos ⟨hopen, hcall⟩, if_pos hopen, if_pos hcall]
        rfl
      · rw [if_neg fun h => hcall h.2, if_pos hopen, if_neg hcall]
        exact (List.append_nil _).symm
    · rw [if_neg fun h => hopen h.1, if_neg hopen, List.append_nil]
  | start =>
    rw [hquiet rfl, List.append_nil]
    simp only [connection_step]
    cases first_created c.tasks with
    | none => rfl
    | some first =>
      dsimp only
      rcases Eff.run (async_dispatch_start p srv first.2) c.server with ⟨exc | turn, w⟩
      · rfl
      · cases turn with
        | ended out => rfl
        | awaits func_desc handler request => rfl
  | complete call =>
    rw [hquiet rfl, List.append_nil]
    simp only [connection_step]
    cases assocGet c.tasks call with
    | none => rfl
    | some task =>
      cases task with
      | created frame => rfl
      | awaiting func_desc handler request => rfl
  | outside g =>
    rw [hquiet rfl, List.append_nil]
    rfl
  | disconnect =>
    rw [hquiet rfl, List.append_nil]
    rfl

theorem requests_run (events : List (ConnectionEvent χ)) (c : Connection χ V) :
    (connection_run p srv events c).requests = c.requests ++ arrived p srv events c := by
  induction events generalizing c with
  | nil => exact (List.append_nil _).symm
  | cons event rest ih =>
    show (connection_run p srv rest (connection_step p srv c event)).requests = _
    rw [ih, requests_step, arrived, List.append_assoc]

/-- What the replies of a connection are, whose calls are those that arrived while it was open: at
most one for a call, and its own; those of the dispatches that have ended with a response, in the
order in which they ended.  A call whose dispatch has not ended is in flight for as long as the
connection is open.  With plain functions the dispatches end in the order of the calls. -/
structure Served (p : Platform V) (srv : RfcServer χ V) (calls : List Bytes)
    (c : Connection χ V) : Prop where
  received : c.requests = calls
  once : (c.written.map Prod.fst).Nodup
  own : ∀ e ∈ c.written, ∃ frame, c.requests[e.1]? = some frame ∧ EndsWith p srv frame (.ok e.2)
  as_ended : c.written = c.finished.filterMap reply_of
  ended_once : (c.finished.map Prod.fst).Nodup
  in_flight : c.connected = true → ∀ call < c.requests.length,
    call ∉ c.finished.map Prod.fst → call ∈ c.tasks.map Prod.fst
  in_turn : PlainHandlers p srv → c.finished.map Prod.fst = List.range c.finished.length

/-- INTERNAL: a reply is that of the call whose dispatch ended. -/
theorem reply_of_eq_some {e : ℕ × Except PyError Bytes} {reply : ℕ × Bytes}
    (h : reply_of e = some reply) : reply.1 = e.1 ∧ e.2 = .ok reply.2 := by
  obtain ⟨call, r⟩ := e
  cases r with
  | error exc => cases h
  | ok resp =>
    unfold reply_of at h
    dsimp only at h
    split at h
    · obtain rfl := Option.some.inj h
      exact ⟨rfl, rfl⟩
    · cases h

/-- INTERNAL: replies are made of calls that ended once. -/
theorem nodup_replies {finished : List (ℕ × Except PyError Bytes)}
    (h : (finished.map Prod.fst).Nodup) : ((finished.filterMap reply_of).map Prod.fst).Nodup := by
  induction finished with
  | nil => exact List.nodup_nil
  | cons e rest ih =>
    rw [List.map_cons, List.nodup_cons] at h
    have hrest := ih h.2
    cases hreply : reply_of e with
    | none =>
      rw [List.filterMap_cons_none hreply]
      exact hrest
    | some reply =>
      rw [List.filterMap_cons_some hreply, List.map_cons, List.nodup_cons]
      refine ⟨fun hmem => h.1 ?_, hrest⟩
      obtain ⟨other, hother, hsame⟩ := List.mem_map.mp hmem
      obtain ⟨e', he', hreply'⟩ := List.mem_filterMap.mp hother
      rw [← (reply_of_eq_some hreply).1, ← hsame, (reply_of_eq_some hreply').1]
      exact List.mem_map.mpr ⟨e', he', rfl⟩

/-- INTERNAL: what a step keeps, a run keeps. -/
theorem connection_run_induction {I : Connection χ V → Prop}
    (step : ∀ c event, I c → I (connection_step p srv c event))
    (events : List (ConnectionEvent χ)) :
    ∀ {c : Connection χ V}, I c → I (connection_run p srv events c) := by
  induction events with
  | nil => exact fun h => h
  | cons event rest ih => exact fun h => ih (step _ event h)

/-- SOURCE: server.py:1789-1946.  Whatever arrives on a connection, and whenever the handlers
end and with what, the calls are served so. -/
theorem calls_served (p : Platform V) (srv : RfcServer χ V) (w : ServerWorld χ)
    (events : List (ConnectionEvent χ)) :
    Served p srv (arrived p srv events (.accept w)) (connection_run p srv events (.accept w)) := by
  have hkept : Kept p srv (connection_run p srv events (.accept w)) :=
    connection_run_induction (fun _ event h => h.step event) events (Kept.accept w)
  obtain ⟨-, hended, -⟩ := List.nodup_append'.mp hkept.nodup
  constructor
  · exact requests_run events (.accept w)
  · rw [hkept.written]
    exact nodup_replies hended
  · intro e he
    rw [hkept.written] at he
    obtain ⟨e', he', hreply⟩ := List.mem_filterMap.mp he
    obtain ⟨hcall, hout⟩ := reply_of_eq_some hreply
    obtain ⟨frame, hframe, hends⟩ := hkept.finished e' he'
    rw [hout] at hends
    rw [hcall]
    exact ⟨frame, hframe, hends⟩
  · exact hkept.written
  · exact hended
  · intro hconn call hlt hnot
    rcases List.mem_append.mp (hkept.all hconn call hlt) with hmem | hmem
    · exact hmem
    · exact absurd hmem hnot
  · intro hplain
    have hturn : InTurn (connection_run p srv events (.accept w)) :=
      connection_run_induction (fun _ event h => h.step hplain event) events (InTurn.accept w)
    exact hturn.finished

end Tasks

/-! ## A call that is overtaken -/

/-- The calls of `Z_FM`, an `async def`, and of a function that nobody registered. -/
def overtakingFrames : List Bytes :=
  ["Z_FM", "Z_NONE"].map fun name =>
    gw_frame 0x0603 0x00 (encodeAsciiReplace (lit "00000042")) [0, 0, 0, 0]
      [0xFF, 0xFF, 0x00, 0x01] ++ callFrame name []

/-- Both calls arrive and start before the handler of the first one ends. -/
def overtakingEvents : List (ConnectionEvent Tables) :=
  overtakingFrames.map .arrive ++ [.start, .start, .complete 0]

/-- The first reply on the wire is the one to the second call. -/
theorem second_call_replied_first :
    (connection_run plainPlatform AsyncDispatch.asyncServer overtakingEvents
        (.accept ⟨Tables.empty, []⟩)).requests = overtakingFrames ∧
      (connection_run plainPlatform AsyncDispatch.asyncServer overtakingEvents
        (.accept ⟨Tables.empty, []⟩)).written.map Prod.fst = [1, 0] := by
  decide +kernel

end SapRfc.Analysis.CallTasks
