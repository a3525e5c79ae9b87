import SapRfc.Analysis.Shipping
import SapRfc.Program.Hosted

/-!
# What a dispatch leaves behind

A dispatch on a hosted server changes the two stores, calls callbacks and runs handlers
to their end.  `Leaves` names all of it between two worlds; it composes along a run, and
whatever belongs to the application leaves the stores and the callbacks alone.
-/

set_option autoImplicit false

namespace SapRfc.Analysis.Residue

open SapRfc.Library SapRfc.Program SapRfc.Analysis.Shipping

variable {α β V : Type}

/-- The handler an event reports as run to its end. -/
def completedId : ServerEvent → Option ℕ
  | .completed id => some id
  | _ => none

/-- From `w` to `w'` the stores change as said, these callbacks are called, and these handlers
run to their end. -/
structure Leaves (ft : TidTable → TidTable) (fu : UnitTable → UnitTable)
    (cs : List CallbackEvent) (ids : List ℕ) (w w' : ServerWorld (Process α)) : Prop where
  tids : w'.user.tids = ft w.user.tids
  units : w'.user.units = fu w.user.units
  calls : w'.user.calls = w.user.calls ++ cs
  ran : ∃ d, w'.events = w.events ++ d ∧ d.filterMap completedId = ids

/-- Nothing that a later dispatch or a peer could tell. -/
abbrev Nothing : ServerWorld (Process α) → ServerWorld (Process α) → Prop := Leaves id id [] []

namespace Leaves

variable {ft ft' : TidTable → TidTable} {fu fu' : UnitTable → UnitTable}
  {cs cs' : List CallbackEvent} {ids ids' : List ℕ} {w w' w'' : ServerWorld (Process α)}

theorem refl (w : ServerWorld (Process α)) : Nothing w w :=
  ⟨rfl, rfl, (List.append_nil _).symm, [], (List.append_nil _).symm, rfl⟩

theorem seq (h : Leaves ft fu cs ids w w') (h' : Leaves ft' fu' cs' ids' w' w'') :
    Leaves (ft' ∘ ft) (fu' ∘ fu) (cs ++ cs') (ids ++ ids') w w'' := by
  obtain ⟨d, hd, hids⟩ := h.ran
  obtain ⟨d', hd', hids'⟩ := h'.ran
  refine ⟨?_, ?_, ?_, d ++ d', ?_, ?_⟩
  · rw [h'.tids, h.tids]
    rfl
  · rw [h'.units, h.units]
    rfl
  · rw [h'.calls, h.calls, List.append_assoc]
  · rw [hd', hd, List.append_assoc]
  · rw [List.filterMap_append, hids, hids']

theorem trans (a b c : ServerWorld (Process α)) (h : Nothing a b) (h' : Nothing b c) :
    Nothing a c := h.seq h'

/-- Before nothing. -/
theorem andNothing (h : Leaves ft fu cs ids w w') (h' : Nothing w' w'') :
    Leaves ft fu cs ids w w'' := by
  have hseq := h.seq h'
  rw [List.append_nil, List.append_nil] at hseq
  exact hseq

/-- After nothing. -/
theorem afterNothing (h : Nothing w w') (h' : Leaves ft fu cs ids w' w'') :
    Leaves ft fu cs ids w w'' := h.seq h'

end Leaves

/-! ## The application alone -/

/-- The application leaves stores and callbacks alone. -/
def Aside (g g' : Process α) : Prop := ∃ app, g' = { g with app := app }

theorem Aside.refl (g : Process α) : Aside g g := ⟨g.app, rfl⟩

theorem Aside.trans (g g' g'' : Process α) (h : Aside g g') (h' : Aside g' g'') : Aside g g'' := by
  obtain ⟨_, rfl⟩ := h
  obtain ⟨app, rfl⟩ := h'
  exact ⟨app, rfl⟩

theorem aside_onApp (x : Eff PyError α β) : Eff.Keeps Aside (onApp x) := fun g =>
  ⟨(Eff.run x g.app).2, rfl⟩

variable {p : Platform V} {a : App α V}

/-- INTERNAL: the registry of a hosted server. -/
theorem assocGet_hosted (registry : List (PyStr × Entry α V)) (name : PyStr) :
    assocGet (registry.map fun e => (e.1, hostedEntry e.2)) name =
      (assocGet registry name).map hostedEntry := by
  unfold assocGet
  induction registry with
  | nil => rfl
  | cons e rest ih =>
    by_cases h : e.1 = name
    · simp [h]
    · simpa [h] using ih

theorem mem_of_assocGet {β : Type} {d : List (PyStr × β)} {name : PyStr} {v : β}
    (h : assocGet d name = some v) : ∃ key, (key, v) ∈ d := by
  obtain ⟨e, he, rfl⟩ := Option.map_eq_some_iff.mp h
  exact ⟨e.1, List.mem_of_find?_eq_some he⟩

variable (p a) in
/-- A lookup gives a hosted entry or none, and is the application's. -/
theorem lookup_cases (name : PyStr) (g : Process α) :
    Aside g (Eff.run (a.server.lookup p name) g).2 ∧
      ∀ e, (Eff.run (a.server.lookup p name) g).1 = .ok (some e) →
        ∃ e₀, e = hostedEntry e₀ ∧ (a.Synchronous → e₀.2.coroutine = false) := by
  unfold RfcServer.lookup
  have hreg : assocGet a.server.registry (p.u.upper name) = _ := assocGet_hosted a.registry _
  rw [hreg]
  cases hget : assocGet a.registry (p.u.upper name) with
  | some e₀ =>
    refine ⟨Aside.refl g, ?_⟩
    rintro e ⟨⟩
    obtain ⟨key, hmem⟩ := mem_of_assocGet hget
    exact ⟨e₀, rfl, fun hsync => hsync.registry _ hmem⟩
  | none =>
    cases hgen : a.generic with
    | none =>
      have hserver : a.server.generic = none := by rw [App.server, hgen]; rfl
      rw [hserver]
      exact ⟨Aside.refl g, nofun⟩
    | some f =>
      have hserver : a.server.generic = some (hostedGeneric f) := by rw [App.server, hgen]; rfl
      rw [hserver]
      unfold hostedGeneric
      have haside := aside_onApp (f name) g
      cases hrun : Eff.run (onApp (f name)) g with
      | mk r g' =>
        rw [hrun] at haside
        have hf : (Eff.run (f name) g.app).1 = r := congrArg Prod.fst hrun
        cases r with
        | error e =>
          simp only [Option.map_none, Eff.run_bind_error hrun]
          exact ⟨haside, nofun⟩
        | ok entry =>
          simp only [Option.map_none, Eff.run_bind_ok hrun]
          refine ⟨haside, ?_⟩
          intro e he
          cases entry with
          | none => cases he
          | some e₀ =>
            obtain rfl : hostedEntry e₀ = e := Option.some.inj (Except.ok.inj he)
            exact ⟨e₀, rfl, fun hsync => hsync.generic f name g.app e₀ hgen hf⟩

/-! ## The steps of a dispatch -/

/-- `d[key] = mark` in the TID store. -/
def putTid (tid : PyStr) (mark : TidMark) (t : TidTable) : TidTable :=
  { t with store := dictPut t.store tid (some mark) }

/-- `d[key] = state` in the unit store. -/
def putUnit (unit_id unit_type : PyStr) (state : UnitState) (t : UnitTable) : UnitTable :=
  { t with store := dictPut t.store (unit_id, unit_type) (some state) }

/-- What is noted of a callback, if it is installed. -/
def told {γ : Type} (installed : Option γ) (e : CallbackEvent) : List CallbackEvent :=
  if installed.isSome then [e] else []

theorem told_map {γ δ : Type} (x : Option γ) (f : γ → δ) (e : CallbackEvent) :
    told (x.map f) e = told x e := by
  cases x <;> rfl

theorem told_eq_nil {γ : Type} {x : Option γ} {e : CallbackEvent} : told x e = [] ↔ x = none := by
  cases x <;> simp [told]

theorem nothing_of_aside {g g' : Process α} (h : Aside g g') (l : List ServerEvent) :
    Nothing (⟨g, l⟩ : ServerWorld (Process α)) ⟨g', l⟩ := by
  obtain ⟨app, rfl⟩ := h
  exact ⟨rfl, rfl, (List.append_nil _).symm, [], (List.append_nil _).symm, rfl⟩

theorem nothing_ext {x : Eff PyError (Process α) β} (hx : Eff.Keeps Aside x) :
    Eff.Keeps Nothing (ext x) :=
  fun w => nothing_of_aside (hx w.user) w.events

theorem nothing_note {e : ServerEvent} (h : completedId e = none) :
    Eff.Keeps (Nothing (α := α)) (note e) := fun w =>
  ⟨rfl, rfl, (List.append_nil _).symm, [e], rfl, by rw [List.filterMap_cons, h]; rfl⟩

theorem nothing_pure (b : β) : Eff.Keeps (Nothing (α := α)) (pure b : Eff PyError _ β) :=
  Eff.Keeps.pure Leaves.refl b

theorem nothing_lift (r : Except PyError β) : Eff.Keeps (Nothing (α := α)) (Eff.lift r) :=
  Eff.Keeps.lift Leaves.refl r

theorem nothing_bind {γ : Type} {x : Eff PyError (ServerWorld (Process α)) β}
    {f : β → Eff PyError (ServerWorld (Process α)) γ} (hx : Eff.Keeps Nothing x)
    (hf : ∀ b, Eff.Keeps Nothing (f b)) : Eff.Keeps Nothing (x >>= f) :=
  Eff.Keeps.bind Leaves.trans hx hf

/-- Nothing more comes of the rest. -/
theorem leaves_then_nothing {γ : Type} {ft : TidTable → TidTable} {fu : UnitTable → UnitTable}
    {cs : List CallbackEvent} {ids : List ℕ} {x : Eff PyError (ServerWorld (Process α)) β}
    {f : β → Eff PyError (ServerWorld (Process α)) γ} (hx : Eff.Keeps (Leaves ft fu cs ids) x)
    (hf : ∀ b, Eff.Keeps Nothing (f b)) : Eff.Keeps (Leaves ft fu cs ids) (x >>= f) :=
  hx.andThen (fun _ _ _ h h' => h.andNothing h') (fun _ _ h => h) hf

/-- What `attempt` makes of a program is seen in its outcome alone. -/
theorem run_attempt_state {σ : Type} (x : Eff PyError σ β) (w : σ) :
    (Eff.run (attempt x) w).2 = (Eff.run x w).2 := by
  cases hx : Eff.run x w with
  | mk r w' =>
    cases r with
    | ok b => rw [run_attempt_ok hx]
    | error e => rw [run_attempt_error hx]

/-- A mark in the TID store. -/
theorem leaves_mark (tid : PyStr) (mark : TidMark) (w : ServerWorld (Process α)) :
    Leaves (putTid tid mark) id [] [] w
      ⟨{ w.user with tids := putTid tid mark w.user.tids }, w.events⟩ :=
  ⟨rfl, rfl, (List.append_nil _).symm, [], (List.append_nil _).symm, rfl⟩

/-- A state in the unit store. -/
theorem leaves_unit (unit_id unit_type : PyStr) (state : UnitState)
    (w : ServerWorld (Process α)) :
    Leaves id (putUnit unit_id unit_type state) [] [] w
      ⟨{ w.user with units := putUnit unit_id unit_type state w.user.units }, w.events⟩ :=
  ⟨rfl, rfl, (List.append_nil _).symm, [], (List.append_nil _).symm, rfl⟩

/-- A callback is noted once, if there is one, whatever comes of it. -/
theorem leaves_callback (x : Option (Eff PyError α Unit)) (e : CallbackEvent) :
    Eff.Keeps (Leaves id id (told x e) []) (callback (x.map (noted e))) := by
  cases x with
  | none => exact nothing_pure ()
  | some x => exact fun w => ⟨rfl, rfl, rfl, [], (List.append_nil _).symm, rfl⟩

theorem leaves_isolated (x : Option (Eff PyError α Unit)) (e : CallbackEvent) :
    Eff.Keeps (Leaves id id (told x e) []) (isolated (x.map (noted e))) := by
  intro w
  have h := leaves_callback x e w
  rw [← run_attempt_state] at h
  unfold isolated
  cases hrun : Eff.run (attempt (callback (x.map (noted e)))) w with
  | mk r w' =>
    rw [hrun] at h
    cases r with
    | error exc =>
      rw [Eff.run_bind_error hrun]
      exact h
    | ok b =>
      rw [Eff.run_bind_ok hrun]
      exact h

/-- The handlers that a call which went through has run to the end. -/
def ranBy (h : Handler α V) : List ℕ := if h.coroutine then [] else [h.id]

/-- A call of a handler goes through, or it raises and has run nothing to the end. -/
theorem call_cases (h : Handler α V) (request : Values V) (w : ServerWorld (Process α)) :
    (∃ c, (Eff.run (call_handler h.hosted request) w).1 = .ok c ∧
      Leaves id id [] (ranBy h) w (Eff.run (call_handler h.hosted request) w).2) ∨
    ∃ e, (Eff.run (call_handler h.hosted request) w).1 = .error e ∧
      Nothing w (Eff.run (call_handler h.hosted request) w).2 := by
  obtain ⟨g, l⟩ := w
  unfold call_handler
  rw [Eff.run_bind_ok (run_note _ _ _), Eff.run_ite]
  have hcalled : Nothing (⟨g, l⟩ : ServerWorld (Process α)) ⟨g, l ++ [.called h.id]⟩ :=
    nothing_note rfl ⟨g, l⟩
  by_cases hco : h.coroutine = true
  · rw [if_pos (show h.hosted.coroutine = true from hco), ranBy, if_pos hco]
    exact .inl ⟨_, rfl, hcalled⟩
  · rw [if_neg (show ¬ h.hosted.coroutine = true from hco), ranBy, if_neg hco]
    unfold run_body
    have haside := nothing_ext (aside_onApp (h.body request)) ⟨g, l ++ [.called h.id]⟩
    cases hbody : Eff.run (ext (h.hosted.body request)) ⟨g, l ++ [.called h.id]⟩ with
    | mk r w' =>
      have hbody' : Eff.run (ext (onApp (h.body request))) ⟨g, l ++ [.called h.id]⟩ = (r, w') :=
          hbody
      rw [hbody'] at haside
      rw [Eff.run_bind, Eff.run_bind, Eff.run_tryCatch,
        show Eff.run (ext (h.hosted.body request)) ⟨g, l ++ [.called h.hosted.id]⟩ = _ from hbody]
      cases r with
      | ok values =>
        refine .inl ⟨.result values, rfl, ?_⟩
        have hdone : Leaves id id [] [h.id] w' ⟨w'.user, w'.events ++ [.completed h.id]⟩ :=
          ⟨rfl, rfl, (List.append_nil _).symm, [.completed h.id], rfl, rfl⟩
        exact hcalled.afterNothing (haside.afterNothing hdone)
      | error e =>
        refine .inr ⟨e, rfl, ?_⟩
        have hraised : Nothing w' ⟨w'.user, w'.events ++ [.raised h.id]⟩ := nothing_note rfl w'
        exact hcalled.afterNothing (haside.afterNothing hraised)

/-! ## Branches that run handlers alone -/

/-- Handlers run, and nothing else is done. -/
def Ran (w w' : ServerWorld (Process α)) : Prop := ∃ ids, Leaves id id [] ids w w'

theorem Ran.trans (b c d : ServerWorld (Process α)) (h : Ran b c) (h' : Ran c d) : Ran b d := by
  obtain ⟨ids, h⟩ := h
  obtain ⟨ids', h'⟩ := h'
  exact ⟨ids ++ ids', h.seq h'⟩

theorem Ran.of_nothing {γ : Type} {x : Eff PyError (ServerWorld (Process α)) γ}
    (hx : Eff.Keeps Nothing x) : Eff.Keeps Ran x := fun w => ⟨[], hx w⟩

theorem ran_bind {γ δ : Type} {x : Eff PyError (ServerWorld (Process α)) γ}
    {f : γ → Eff PyError (ServerWorld (Process α)) δ} (hx : Eff.Keeps Ran x)
    (hf : ∀ c, Eff.Keeps Ran (f c)) : Eff.Keeps Ran (x >>= f) :=
  Eff.Keeps.bind Ran.trans hx hf

theorem ran_attempt {γ : Type} {x : Eff PyError (ServerWorld (Process α)) γ}
    (hx : Eff.Keeps Ran x) : Eff.Keeps Ran (attempt x) := by
  intro w
  rw [run_attempt_state]
  exact hx w

theorem ran_call_handler (h : Handler α V) (request : Values V) :
    Eff.Keeps Ran (call_handler h.hosted request) := by
  intro w
  cases call_cases h request w with
  | inl returned =>
    obtain ⟨_, -, hleaves⟩ := returned
    exact ⟨_, hleaves⟩
  | inr raised =>
    obtain ⟨_, -, hnothing⟩ := raised
    exact ⟨[], hnothing⟩

variable (p a) in
/-- INTERNAL: what follows a lookup has to be shown for hosted entries alone. -/
theorem ran_lookup {γ : Type} (name : PyStr)
    {f : Option (Entry (Process α) V) → Eff PyError (ServerWorld (Process α)) γ}
    (hnone : Eff.Keeps Ran (f none)) (hsome : ∀ e, Eff.Keeps Ran (f (some (hostedEntry e)))) :
    Eff.Keeps Ran (ext (a.server.lookup p name) >>= f) := by
  refine Eff.Keeps.bind_of Ran.trans
    (Ran.of_nothing (nothing_ext fun g => (lookup_cases p a name g).1)) ?_
  intro w entry hentry
  cases entry with
  | none => exact hnone
  | some e =>
    obtain ⟨e₀, rfl, -⟩ := (lookup_cases p a name w.user).2 e hentry
    exact hsome e₀

theorem aside_ask (check : AuthCheck α) (user password : Option PyStr) :
    Eff.Keeps Aside (AuthCheck.ask
      ⟨fun user password => onApp (check.keyword user password),
        fun user => onApp (check.positional user)⟩ user password) := by
  refine Eff.Keeps.tryCatch Aside.trans (aside_onApp _) fun e => ?_
  exact Eff.Keeps.ite _ (aside_onApp _) (Eff.Keeps.throw Aside.refl e)

variable (a) in
theorem aside_check_auth (tlv : Bytes) : Eff.Keeps Aside (check_auth a.server tlv) := by
  unfold check_auth App.server
  cases a.auth_check with
  | none => exact Eff.Keeps.pure Aside.refl _
  | some check =>
    exact Eff.Keeps.bind Aside.trans (Eff.Keeps.lift Aside.refl _) fun c => aside_ask check c.1 c.2

variable (p a) in
theorem ran_dispatch_call (tlv : Bytes) (fname : PyStr) :
    Eff.Keeps Ran (dispatch_call p a.server tlv fname) := by
  refine ran_lookup p a fname (Ran.of_nothing (nothing_lift _)) fun e => ?_
  refine ran_bind (Ran.of_nothing (nothing_note rfl)) fun _ => ?_
  refine ran_bind (Ran.of_nothing (nothing_ext (aside_check_auth a tlv))) fun allowed => ?_
  refine Eff.Keeps.ite _ (Ran.of_nothing (nothing_lift _)) ?_
  refine ran_bind (Ran.of_nothing (nothing_lift _)) fun request => ?_
  refine ran_bind (ran_attempt (ran_call_handler e.2 request)) ?_
  rintro (exc | called)
  · exact Ran.of_nothing (nothing_lift _)
  · exact Ran.of_nothing (nothing_lift _)

variable (p a) in
theorem ran_execute_buffered_call (call_bytes : Bytes) :
    Eff.Keeps Ran (execute_buffered_call p a.server call_bytes) := by
  unfold execute_buffered_call
  cases buffered_name p call_bytes with
  | error message => exact Ran.of_nothing (nothing_pure _)
  | ok name =>
    refine ran_lookup p a name (Ran.of_nothing (nothing_pure _)) fun e => ?_
    refine ran_bind (Ran.of_nothing (nothing_note rfl)) fun _ => ?_
    refine ran_bind (ran_attempt (ran_call_handler e.2 [])) ?_
    rintro (exc | called)
    · exact Ran.of_nothing (nothing_bind (nothing_lift _) fun _ => nothing_pure _)
    · exact Ran.of_nothing (nothing_pure _)

variable (p a) in
theorem ran_run_calls (tlv : Bytes) (n i left : ℕ) :
    Eff.Keeps Ran (run_calls p a.server tlv n i left) := by
  induction left generalizing i with
  | zero => exact Ran.of_nothing (nothing_pure _)
  | succ left ih =>
    unfold run_calls
    cases extract_raw_param_from_frame p tlv (call_name i) with
    | none => exact Ran.of_nothing (nothing_pure _)
    | some call_bytes =>
      refine ran_bind (ran_attempt (ran_execute_buffered_call p a call_bytes)) ?_
      rintro (exc | _ | message)
      · exact Ran.of_nothing (nothing_bind (nothing_lift _) fun _ => nothing_pure _)
      · exact ih (i + 1)
      · exact Ran.of_nothing (nothing_pure _)

/-- An application with a function `Z_FM` that has no descriptor. -/
def plainApp : App Unit Bytes :=
  .functions [(lit "Z_FM", (none, ⟨7, false, fun _ => pure none⟩))]

end SapRfc.Analysis.Residue
