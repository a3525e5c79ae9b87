import SapRfc.Program.SqliteStores
import SapRfc.Library.Runs

/-!
# The durable stores beside the ones in memory

A history of operations is played to a store in memory and to one in SQLite.  A TID's row
goes with its parked payload when the TID is confirmed, and parking a unit gives it a state;
everything else the two pairs of stores answer alike.
-/

set_option autoImplicit false

namespace SapRfc.Analysis.Interchange

open SapRfc.Library SapRfc.Program

/-! ## Text -/

/-- A text that SQLite takes. -/
def Encodable (s : PyStr) : Prop := s.any isSurrogate = false

instance (s : PyStr) : Decidable (Encodable s) := inferInstanceAs (Decidable (_ = false))

theorem bind_text_ok {s : PyStr} (h : Encodable s) : bind_text s = .ok () := by
  unfold bind_text
  rw [if_neg (by rw [show s.any isSurrogate = false from h]; exact Bool.false_ne_true)]

theorem bind_texts_ok {keys : List PyStr} (h : ∀ s ∈ keys, Encodable s) :
    keys.forM bind_text = .ok () := by
  induction keys with
  | nil => rfl
  | cons s rest ih =>
    show (bind_text s >>= fun _ => rest.forM bind_text) = _
    rw [bind_text_ok (h s List.mem_cons_self)]
    exact ih fun t ht => h t (List.mem_cons_of_mem s ht)

theorem bind_texts_error {keys : List PyStr} (h : ¬ ∀ s ∈ keys, Encodable s) :
    ∃ e, keys.forM bind_text = .error e := by
  induction keys with
  | nil => exact absurd (fun _ hs => nomatch hs) h
  | cons s rest ih =>
    show ∃ e, (bind_text s >>= fun _ => rest.forM bind_text) = .error e
    by_cases hs : Encodable s
    · rw [bind_text_ok hs]
      refine ih fun hrest => h fun t ht => ?_
      cases List.mem_cons.mp ht with
      | inl heq => rw [heq]; exact hs
      | inr hmem => exact hrest t hmem
    · unfold bind_text
      rw [if_pos (by rw [Encodable, Bool.not_eq_false] at hs; exact hs)]
      exact ⟨_, rfl⟩

section Statements

variable {κ σ β : Type} {keys : List PyStr} {t : SqlTable κ σ}

theorem run_execute (h : ∀ s ∈ keys, Encodable s) (f : SqlTable κ σ → SqlTable κ σ) :
    Eff.run (execute keys f) t = (.ok (), f t) := by
  unfold execute
  rw [bind_texts_ok h]
  rfl

theorem run_select (h : ∀ s ∈ keys, Encodable s) (f : SqlTable κ σ → β) :
    Eff.run (select keys f) t = (.ok (f t), t) := by
  unfold select
  rw [bind_texts_ok h]
  rfl

theorem run_execute_error (h : ¬ ∀ s ∈ keys, Encodable s) (f : SqlTable κ σ → SqlTable κ σ) :
    ∃ e, Eff.run (execute keys f) t = (.error e, t) := by
  obtain ⟨e, he⟩ := bind_texts_error h
  unfold execute
  rw [he]
  exact ⟨e, rfl⟩

theorem run_select_error (h : ¬ ∀ s ∈ keys, Encodable s) (f : SqlTable κ σ → β) :
    ∃ e, Eff.run (select keys f) t = (.error e, t) := by
  obtain ⟨e, he⟩ := bind_texts_error h
  unfold select
  rw [he]
  exact ⟨e, rfl⟩

end Statements

/-! ## Rows -/

section Rows

variable {κ σ : Type} [DecidableEq κ] (key other : κ) (state : σ) (payload : Bytes)
  (t : SqlTable κ σ)

/-- The state column. -/
def stateAt (t : SqlTable κ σ) (key : κ) : Option σ := (t key).map SqlRow.state

theorem stateAt_put_state : stateAt (SqlTable.put_state key state t) other =
    if other = key then some state else stateAt t other := by
  unfold stateAt SqlTable.put_state SqlTable.upsert dictPut
  split
  · cases t key <;> rfl
  · rfl

theorem payload_put_state : SqlTable.payload other (SqlTable.put_state key state t) =
    SqlTable.payload other t := by
  unfold SqlTable.payload SqlTable.put_state SqlTable.upsert dictPut
  split
  next heq =>
    rw [heq]
    cases t key <;> rfl
  · rfl

theorem stateAt_put_payload : stateAt (SqlTable.put_payload key state payload t) other =
    if other = key then some ((stateAt t key).getD state) else stateAt t other := by
  unfold stateAt SqlTable.put_payload SqlTable.upsert dictPut
  split
  · cases t key <;> rfl
  · rfl

theorem payload_put_payload :
    SqlTable.payload other (SqlTable.put_payload key state payload t) =
      if other = key then some payload else SqlTable.payload other t := by
  unfold SqlTable.payload SqlTable.put_payload SqlTable.upsert dictPut
  split
  · cases t key <;> rfl
  · rfl

theorem stateAt_clear :
    stateAt (SqlTable.update key (fun row => { row with payload := none }) t) other =
      stateAt t other := by
  unfold stateAt SqlTable.update dictPut
  split
  next heq =>
    rw [heq]
    cases t key <;> rfl
  · rfl

theorem payload_clear :
    SqlTable.payload other (SqlTable.update key (fun row => { row with payload := none }) t) =
      if other = key then none else SqlTable.payload other t := by
  unfold SqlTable.payload SqlTable.update dictPut
  split
  · cases t key <;> rfl
  · rfl

theorem stateAt_delete : stateAt (SqlTable.delete key t) other =
    if other = key then none else stateAt t other := by
  unfold stateAt SqlTable.delete dictPut
  split <;> rfl

theorem payload_delete : SqlTable.payload other (SqlTable.delete key t) =
    if other = key then none else SqlTable.payload other t := by
  unfold SqlTable.payload SqlTable.delete dictPut
  split <;> rfl

end Rows

/-! ## TID stores -/

/-- What has become of a TID's payload, by the operations alone. -/
inductive Fate where
  | absent
  | parked
  /-- the TID was confirmed while the payload was parked -/
  | dropped
  deriving DecidableEq

/-- What an operation does to the payload of a TID. -/
def Fate.next (tid : PyStr) (fate : Fate) : TidOp → Fate
  | .park t _ => if t = tid then .parked else fate
  | .delete_parked t => if t = tid then .absent else fate
  | .confirm t => if t = tid ∧ fate = .parked then .dropped else fate
  | _ => fate

def fate (tid : PyStr) (done : List TidOp) : Fate := done.foldl (Fate.next tid) .absent

theorem fate_append (tid : PyStr) (done : List TidOp) (op : TidOp) :
    fate tid (done ++ [op]) = (fate tid done).next tid op := by
  unfold fate
  rw [List.foldl_append]
  rfl

/-- The text arguments of an operation. -/
def tidTexts : TidOp → List PyStr
  | .mark_received tid | .mark_executed tid | .mark_rolled_back tid | .confirm tid => [tid]
  | .park tid _ | .delete_parked tid | .is_executed tid | .get_parked tid => [tid]
  | .list_parked => []

/-- The operation does not look at a payload that was parked when its TID was confirmed. -/
def LooksElsewhere (done : List TidOp) : TidOp → Prop
  | .get_parked tid => fate tid done ≠ .dropped
  | .list_parked => ∀ tid, fate tid done ≠ .dropped
  | _ => True

/-- An operation that the stores answer alike, after the operations before it. -/
structure TidFine (done : List TidOp) (op : TidOp) : Prop where
  texts : ∀ s ∈ tidTexts op, Encodable s
  looks : LooksElsewhere done op

/-- What the two dicts and the table have in common. -/
structure TidsAgree (done : List TidOp) (m : TidTable) (t : SqlTable PyStr TidMark) : Prop where
  executed : ∀ tid, m.store tid = some .executed ↔ stateAt t tid = some .executed
  parked : ∀ tid, m.parked tid = none ↔ fate tid done = .absent
  payload : ∀ tid, t.payload tid = if fate tid done = .dropped then none else m.parked tid

section Tids

variable {done : List TidOp} {m : TidTable} {t : SqlTable PyStr TidMark} {op : TidOp}

theorem TidsAgree.read (h : TidsAgree done m t)
    (hop : ∀ tid fate, Fate.next tid fate op = fate) : TidsAgree (done ++ [op]) m t := by
  constructor
  · exact h.executed
  · intro tid
    rw [fate_append, hop]
    exact h.parked tid
  · intro tid
    rw [fate_append, hop]
    exact h.payload tid

theorem TidsAgree.mark (h : TidsAgree done m t)
    (hop : ∀ tid fate, Fate.next tid fate op = fate) (tid : PyStr) (mark : TidMark) :
    TidsAgree (done ++ [op]) { m with store := dictPut m.store tid (some mark) }
      (SqlTable.put_state tid mark t) := by
  have hsame : TidsAgree (done ++ [op]) m t := h.read hop
  constructor
  · intro other
    rw [stateAt_put_state]
    show (if other = tid then some mark else m.store other) = _ ↔ _
    by_cases heq : other = tid
    · rw [if_pos heq, if_pos heq]
    · rw [if_neg heq, if_neg heq]
      exact h.executed other
  · exact hsame.parked
  · intro other
    rw [payload_put_state]
    exact hsame.payload other

theorem TidsAgree.confirm (h : TidsAgree done m t) (tid : PyStr) :
    TidsAgree (done ++ [.confirm tid]) { m with store := dictPut m.store tid none }
      (SqlTable.delete tid t) := by
  constructor
  · intro other
    rw [stateAt_delete]
    show (if other = tid then none else m.store other) = _ ↔ _
    by_cases heq : other = tid
    · rw [if_pos heq, if_pos heq]
    · rw [if_neg heq, if_neg heq]
      exact h.executed other
  · intro other
    rw [fate_append]
    show m.parked other = none ↔
      (if tid = other ∧ fate other done = .parked then Fate.dropped else fate other done) = .absent
    rw [h.parked other]
    split
    next hdropped =>
      rw [hdropped.2]
      exact ⟨nofun, nofun⟩
    · exact Iff.rfl
  · intro other
    rw [fate_append, payload_delete, h.payload other]
    show _ = if (if tid = other ∧ fate other done = .parked then Fate.dropped
      else fate other done) = .dropped then none else m.parked other
    have hparked := h.parked other
    by_cases heq : other = tid
    · rw [if_pos heq]
      cases hfate : fate other done with
      | absent => simp [heq.symm, hparked.mpr hfate]
      | parked => simp [heq.symm]
      | dropped => simp
    · have hother : ¬ (tid = other ∧ fate other done = .parked) := fun hboth => heq hboth.1.symm
      rw [if_neg heq, if_neg hother]

theorem TidsAgree.park (h : TidsAgree done m t) (tid : PyStr) (payload : Bytes) :
    TidsAgree (done ++ [.park tid payload]) { m with parked := dictPut m.parked tid (some payload) }
      (SqlTable.put_payload tid .received payload t) := by
  constructor
  · intro other
    rw [stateAt_put_payload]
    by_cases heq : other = tid
    · rw [if_pos heq, heq]
      show m.store tid = _ ↔ _
      rw [h.executed tid]
      cases stateAt t tid with
      | none => exact ⟨nofun, nofun⟩
      | some mark => exact Iff.rfl
    · rw [if_neg heq]
      exact h.executed other
  · intro other
    rw [fate_append]
    show (if other = tid then some payload else m.parked other) = none ↔
      (if tid = other then Fate.parked else fate other done) = .absent
    by_cases heq : other = tid
    · rw [if_pos heq, if_pos heq.symm]
      exact ⟨nofun, nofun⟩
    · rw [if_neg heq, if_neg (Ne.symm heq)]
      exact h.parked other
  · intro other
    rw [fate_append, payload_put_payload]
    show _ = if (if tid = other then Fate.parked else fate other done) = .dropped then none
      else (if other = tid then some payload else m.parked other)
    by_cases heq : other = tid
    · rw [if_pos heq, if_pos heq.symm, if_pos heq, if_neg (by decide)]
    · rw [if_neg heq, if_neg (Ne.symm heq), if_neg heq]
      exact h.payload other

theorem TidsAgree.delete_parked (h : TidsAgree done m t) (tid : PyStr) :
    TidsAgree (done ++ [.delete_parked tid]) { m with parked := dictPut m.parked tid none }
      (SqlTable.update tid (fun row => { row with payload := none }) t) := by
  constructor
  · intro other
    rw [stateAt_clear]
    exact h.executed other
  · intro other
    rw [fate_append]
    show (if other = tid then none else m.parked other) = none ↔
      (if tid = other then Fate.absent else fate other done) = .absent
    by_cases heq : other = tid
    · rw [if_pos heq, if_pos heq.symm]
      exact ⟨fun _ => rfl, fun _ => rfl⟩
    · rw [if_neg heq, if_neg (Ne.symm heq)]
      exact h.parked other
  · intro other
    rw [fate_append, payload_clear]
    show _ = if (if tid = other then Fate.absent else fate other done) = .dropped then none
      else (if other = tid then none else m.parked other)
    by_cases heq : other = tid
    · rw [if_pos heq, if_pos heq.symm, if_pos heq, ite_self]
    · rw [if_neg heq, if_neg (Ne.symm heq), if_neg heq]
      exact h.payload other

/-- A payload that is parked in memory is in the table as well, if it was not dropped. -/
theorem TidsAgree.same_payload (h : TidsAgree done m t) (tid : PyStr) :
    m.parked tid = t.payload tid ↔ fate tid done ≠ .dropped := by
  rw [h.payload tid]
  by_cases hdropped : fate tid done = .dropped
  · rw [if_pos hdropped, h.parked tid, hdropped]
    exact ⟨nofun, fun hne => absurd rfl hne⟩
  · rw [if_neg hdropped]
    exact ⟨fun _ => hdropped, fun _ => rfl⟩

theorem TidsAgree.same_keys (h : TidsAgree done m t) :
    { tid | m.parked tid ≠ none } = SqlTable.with_payload t ↔
      ∀ tid, fate tid done ≠ .dropped := by
  constructor
  · intro heq tid hdropped
    have hmem : tid ∈ { tid | m.parked tid ≠ none } := by
      intro hnone
      have habsent := (h.parked tid).mp hnone
      rw [hdropped] at habsent
      cases habsent
    rw [heq] at hmem
    refine hmem ?_
    rw [h.payload tid, if_pos hdropped]
  · intro hnone
    ext tid
    show m.parked tid ≠ none ↔ t.payload tid ≠ none
    rw [(h.same_payload tid).mpr (hnone tid)]

end Tids

/-! ## A history played to both -/

/-- A TID store, one operation after the other. -/
def tidMachine {χ : Type} (store : ListedTidStore χ) (op : TidOp) (s : χ) :
    Except PyError (StoreAnswer PyStr) × χ :=
  Eff.run (op.program store) s

/-- INTERNAL: what a statement that changes the table leads to. -/
theorem run_write {κ σ : Type} {α : Type} {keys : List PyStr} (h : ∀ s ∈ keys, Encodable s)
    (f : SqlTable κ σ → SqlTable κ σ) (answer : α) (t : SqlTable κ σ) :
    Eff.run (do execute keys f; pure answer) t = (.ok answer, f t) := by
  rw [Eff.run_bind_ok (run_execute h f)]
  rfl

/-- INTERNAL: what a statement that reads from the table leads to. -/
theorem run_read {κ σ : Type} {α β : Type} {keys : List PyStr} (h : ∀ s ∈ keys, Encodable s)
    (f : SqlTable κ σ → β) (answer : β → α) (t : SqlTable κ σ) :
    Eff.run (do let b ← select keys f; pure (answer b)) t = (.ok (answer (f t)), t) := by
  rw [Eff.run_bind_ok (run_select h f)]
  rfl

section Play

variable {done : List TidOp} {m m' : TidTable} {t t' : SqlTable PyStr TidMark} {op : TidOp}

/-- Both stores answer, alike or not, and agree behind the operation. -/
structure TidStep (done : List TidOp) (m : TidTable) (t : SqlTable PyStr TidMark) (op : TidOp) :
    Prop where
  output : (tidMachine listedTidStore op m).1 = (tidMachine SqliteTidStore op t).1 ↔
    LooksElsewhere done op
  after : TidsAgree (done ++ [op]) (tidMachine listedTidStore op m).2
    (tidMachine SqliteTidStore op t).2

/-- INTERNAL: a step by what each of the two does. -/
theorem TidStep.of_runs {a a' : StoreAnswer PyStr}
    (hmemory : tidMachine listedTidStore op m = (.ok a, m'))
    (hsqlite : tidMachine SqliteTidStore op t = (.ok a', t'))
    (houtput : a = a' ↔ LooksElsewhere done op) (hafter : TidsAgree (done ++ [op]) m' t') :
    TidStep done m t op := by
  constructor
  · rw [hmemory, hsqlite]
    exact ⟨fun h => houtput.mp (Except.ok.inj h), fun h => congrArg _ (houtput.mpr h)⟩
  · rw [hmemory, hsqlite]
    exact hafter

/-- INTERNAL: both do what they are told. -/
theorem told : (StoreAnswer.none : StoreAnswer PyStr) = .none ↔ True :=
  ⟨fun _ => trivial, fun _ => rfl⟩

theorem tid_step (h : TidsAgree done m t) (htexts : ∀ s ∈ tidTexts op, Encodable s) :
    TidStep done m t op := by
  cases op with
  | mark_received tid =>
    exact .of_runs rfl (run_write htexts _ _ t) told (h.mark (fun _ _ => rfl) tid .received)
  | mark_executed tid =>
    exact .of_runs rfl (run_write htexts _ _ t) told (h.mark (fun _ _ => rfl) tid .executed)
  | mark_rolled_back tid =>
    exact .of_runs rfl (run_write htexts _ _ t) told (h.mark (fun _ _ => rfl) tid .rolled_back)
  | confirm tid => exact .of_runs rfl (run_write htexts _ _ t) told (h.confirm tid)
  | park tid payload => exact .of_runs rfl (run_write htexts _ _ t) told (h.park tid payload)
  | delete_parked tid => exact .of_runs rfl (run_write htexts _ _ t) told (h.delete_parked tid)
  | is_executed tid =>
    refine .of_runs rfl (run_read htexts _ StoreAnswer.flag t) ?_ (h.read fun _ _ => rfl)
    have hflag : decide (m.store tid = some .executed) =
        decide ((t tid).map SqlRow.state = some .executed) := decide_eq_decide.mpr (h.executed tid)
    exact ⟨fun _ => trivial, fun _ => congrArg StoreAnswer.flag hflag⟩
  | get_parked tid =>
    refine .of_runs rfl (run_read htexts _ StoreAnswer.payload t) ?_ (h.read fun _ _ => rfl)
    exact (StoreAnswer.payload.injEq _ _).to_iff.trans (h.same_payload tid)
  | list_parked =>
    refine .of_runs rfl (run_read htexts _ StoreAnswer.keys t) ?_ (h.read fun _ _ => rfl)
    exact (StoreAnswer.keys.injEq _ _).to_iff.trans h.same_keys

/-- INTERNAL: a statement that changes the table raises on a text that SQLite does not take. -/
theorem run_write_error {κ σ α : Type} {keys : List PyStr} (h : ¬ ∀ s ∈ keys, Encodable s)
    (f : SqlTable κ σ → SqlTable κ σ) (answer : α) (t : SqlTable κ σ) :
    ∃ e, (Eff.run (do execute keys f; pure answer) t).1 = .error e := by
  obtain ⟨e, he⟩ := run_execute_error (t := t) h f
  rw [Eff.run_bind_error he]
  exact ⟨e, rfl⟩

/-- INTERNAL: a statement that reads from the table raises on a text that SQLite does not take. -/
theorem run_read_error {κ σ α β : Type} {keys : List PyStr} (h : ¬ ∀ s ∈ keys, Encodable s)
    (f : SqlTable κ σ → β) (answer : β → α) (t : SqlTable κ σ) :
    ∃ e, (Eff.run (do let b ← select keys f; pure (answer b)) t).1 = .error e := by
  obtain ⟨e, he⟩ := run_select_error (t := t) h f
  rw [Eff.run_bind_error he]
  exact ⟨e, rfl⟩

theorem tid_raises (h : ¬ ∀ s ∈ tidTexts op, Encodable s) (t : SqlTable PyStr TidMark) :
    ∃ e, (tidMachine SqliteTidStore op t).1 = .error e := by
  cases op with
  | mark_received tid => exact run_write_error h _ _ t
  | mark_executed tid => exact run_write_error h _ _ t
  | mark_rolled_back tid => exact run_write_error h _ _ t
  | confirm tid => exact run_write_error h _ _ t
  | park tid payload => exact run_write_error h _ _ t
  | delete_parked tid => exact run_write_error h _ _ t
  | is_executed tid => exact run_read_error h _ StoreAnswer.flag t
  | get_parked tid => exact run_read_error h _ StoreAnswer.payload t
  | list_parked => exact run_read_error h _ StoreAnswer.keys t

theorem tid_memory_answers (op : TidOp) (m : TidTable) :
    ∃ a, (tidMachine listedTidStore op m).1 = .ok a := by
  cases op <;> exact ⟨_, rfl⟩

theorem tid_output (done : List TidOp) (m : TidTable) (t : SqlTable PyStr TidMark) (op : TidOp)
    (h : TidsAgree done m t) :
    (tidMachine listedTidStore op m).1 = (tidMachine SqliteTidStore op t).1 ↔ TidFine done op := by
  by_cases htexts : ∀ s ∈ tidTexts op, Encodable s
  · rw [(tid_step h htexts).output]
    exact ⟨fun hlooks => ⟨htexts, hlooks⟩, fun hfine => hfine.looks⟩
  · obtain ⟨e, he⟩ := tid_raises htexts t
    obtain ⟨a, ha⟩ := tid_memory_answers op m
    rw [he, ha]
    exact ⟨nofun, fun hfine => absurd hfine.texts htexts⟩

end Play

theorem tidsAgree_empty : TidsAgree [] ⟨fun _ => none, fun _ => none⟩ fun _ => none where
  executed _ := ⟨by rintro ⟨⟩, by rintro ⟨⟩⟩
  parked _ := ⟨fun _ => rfl, fun _ => rfl⟩
  payload _ := rfl

/-- SOURCE: stores.py:271-347 and stores.py:515-619.  A history gets the same answers from both
TID stores exactly when every text in it can be encoded and it never asks for a payload that was
parked when its TID was confirmed. -/
theorem tid_stores_answer_alike_iff (ops : List TidOp) :
    Run.answers (tidMachine listedTidStore) ops ⟨fun _ => none, fun _ => none⟩ =
        Run.answers (tidMachine SqliteTidStore) ops (fun _ => none) ↔
      ∀ before op after, ops = before ++ op :: after → TidFine before op :=
  Run.answers_eq_iff tid_output (fun _ _ _ _ h hfine => (tid_step h hfine.texts).after)
    tidsAgree_empty ops

/-- The payload of a confirmed TID is gone from one store and not from the other. -/
theorem confirm_drops_parked_payload :
    Run.answers (tidMachine listedTidStore)
        [.park (lit "T") [1], .confirm (lit "T"), .get_parked (lit "T")]
        ⟨fun _ => none, fun _ => none⟩ =
      [.ok .none, .ok .none, .ok (.payload (some [1]))] ∧
    Run.answers (tidMachine SqliteTidStore)
        [.park (lit "T") [1], .confirm (lit "T"), .get_parked (lit "T")] (fun _ => none) =
      [.ok .none, .ok .none, .ok (.payload none)] ∧
    Run.answers (tidMachine listedTidStore)
        [.park (lit "T") [1], .confirm (lit "T"), .get_parked (lit "T")]
        ⟨fun _ => none, fun _ => none⟩ ≠
      Run.answers (tidMachine SqliteTidStore)
        [.park (lit "T") [1], .confirm (lit "T"), .get_parked (lit "T")] (fun _ => none) := by
  have hmemory : Run.answers (tidMachine listedTidStore)
      [.park (lit "T") [1], .confirm (lit "T"), .get_parked (lit "T")]
      ⟨fun _ => none, fun _ => none⟩ = [.ok .none, .ok .none, .ok (.payload (some [1]))] := rfl
  have hsqlite : Run.answers (tidMachine SqliteTidStore)
      [.park (lit "T") [1], .confirm (lit "T"), .get_parked (lit "T")] (fun _ => none) =
        [.ok .none, .ok .none, .ok (.payload none)] := rfl
  refine ⟨hmemory, hsqlite, ?_⟩
  rw [hmemory, hsqlite]
  intro h
  cases h

/-! ## Unit stores -/

/-- The text arguments of an operation. -/
def unitTexts : UnitOp → List PyStr
  | .persist unit_id unit_type | .confirm unit_id unit_type => [unit_id, unit_type]
  | .park unit_id unit_type _ | .delete_parked unit_id unit_type => [unit_id, unit_type]
  | .get_unit_state unit_id unit_type | .get_parked unit_id unit_type => [unit_id, unit_type]
  | .list_parked => []

/-- The unit was given a state. -/
def Stated (done : List UnitOp) (key : PyStr × PyStr) : Prop :=
  .persist key.1 key.2 ∈ done ∨ .confirm key.1 key.2 ∈ done

/-- The unit was parked. -/
def WasParked (done : List UnitOp) (key : PyStr × PyStr) : Prop :=
  ∃ payload, .park key.1 key.2 payload ∈ done

/-- The operation does not ask for the state of a unit that was parked and given none. -/
def AsksOfStated (done : List UnitOp) : UnitOp → Prop
  | .get_unit_state unit_id unit_type =>
    WasParked done (unit_id, unit_type) → Stated done (unit_id, unit_type)
  | _ => True

/-- An operation that the stores answer alike, after the operations before it. -/
structure UnitFine (done : List UnitOp) (op : UnitOp) : Prop where
  texts : ∀ s ∈ unitTexts op, Encodable s
  asks : AsksOfStated done op

/-- What the two dicts and the table have in common. -/
structure UnitsAgree (done : List UnitOp) (m : UnitTable)
    (t : SqlTable (PyStr × PyStr) UnitState) : Prop where
  stated : ∀ key, m.store key ≠ none ↔ Stated done key
  same : ∀ key, m.store key ≠ none → stateAt t key = m.store key
  parked : ∀ key, m.store key = none → WasParked done key → stateAt t key = some .IN_PROCESS
  unknown : ∀ key, m.store key = none → ¬ WasParked done key → stateAt t key = none
  payload : ∀ key, t.payload key = m.parked key

section Units

variable {done : List UnitOp} {m m' : UnitTable} {t t' : SqlTable (PyStr × PyStr) UnitState}
  {op : UnitOp} {key : PyStr × PyStr}

theorem stated_append : Stated (done ++ [op]) key ↔
    Stated done key ∨ op = .persist key.1 key.2 ∨ op = .confirm key.1 key.2 := by
  unfold Stated
  simp only [List.mem_append, List.mem_singleton, eq_comm (b := op)]
  tauto

theorem wasParked_append : WasParked (done ++ [op]) key ↔
    WasParked done key ∨ ∃ payload, op = .park key.1 key.2 payload := by
  unfold WasParked
  simp only [List.mem_append, List.mem_singleton, eq_comm (b := op), exists_or]

/-- An operation that neither gives a state nor parks. -/
theorem UnitsAgree.read (h : UnitsAgree done m t)
    (hstate : ∀ key : PyStr × PyStr, op ≠ .persist key.1 key.2 ∧ op ≠ .confirm key.1 key.2)
    (hpark : ∀ (key : PyStr × PyStr) payload, op ≠ .park key.1 key.2 payload) :
    UnitsAgree (done ++ [op]) m t := by
  have hstated : ∀ key, Stated (done ++ [op]) key ↔ Stated done key := fun key =>
    stated_append.trans (or_iff_left (not_or.mpr (hstate key)))
  have hparked : ∀ key, WasParked (done ++ [op]) key ↔ WasParked done key := fun key =>
    wasParked_append.trans (or_iff_left fun ⟨payload, heq⟩ => hpark key payload heq)
  constructor
  · intro key
    rw [hstated]
    exact h.stated key
  · exact h.same
  · intro key hnone hwas
    exact h.parked key hnone ((hparked key).mp hwas)
  · intro key hnone hwas
    exact h.unknown key hnone fun hdone => hwas ((hparked key).mpr hdone)
  · exact h.payload

/-- `persist` and `confirm` -/
theorem UnitsAgree.state (h : UnitsAgree done m t) (key : PyStr × PyStr) (state : UnitState)
    (hop : ∀ other : PyStr × PyStr, op = .persist other.1 other.2 ∨ op = .confirm other.1 other.2 ↔
      other = key)
    (hpark : ∀ (other : PyStr × PyStr) payload, op ≠ .park other.1 other.2 payload) :
    UnitsAgree (done ++ [op]) { m with store := dictPut m.store key (some state) }
      (SqlTable.put_state key state t) := by
  have hparked : ∀ other, WasParked (done ++ [op]) other ↔ WasParked done other := fun other =>
    wasParked_append.trans (or_iff_left fun ⟨payload, heq⟩ => hpark other payload heq)
  constructor
  · intro other
    rw [stated_append, hop, ← h.stated other]
    show (if other = key then some state else m.store other) ≠ none ↔ _
    by_cases heq : other = key
    · rw [if_pos heq]
      exact ⟨fun _ => .inr heq, fun _ => nofun⟩
    · rw [if_neg heq]
      exact ⟨.inl, fun hor => hor.resolve_right heq⟩
  · intro other
    rw [stateAt_put_state]
    show (if other = key then some state else m.store other) ≠ none →
      _ = if other = key then some state else m.store other
    by_cases heq : other = key
    · rw [if_pos heq, if_pos heq]
      exact fun _ => rfl
    · rw [if_neg heq, if_neg heq]
      exact h.same other
  · intro other
    rw [stateAt_put_state, hparked]
    show (if other = key then some state else m.store other) = none → _
    by_cases heq : other = key
    · rw [if_pos heq]
      exact nofun
    · rw [if_neg heq, if_neg heq]
      exact h.parked other
  · intro other
    rw [stateAt_put_state, hparked]
    show (if other = key then some state else m.store other) = none → _
    by_cases heq : other = key
    · rw [if_pos heq]
      exact nofun
    · rw [if_neg heq, if_neg heq]
      exact h.unknown other
  · intro other
    rw [payload_put_state]
    exact h.payload other

theorem UnitsAgree.park (h : UnitsAgree done m t) (unit_id unit_type : PyStr) (payload : Bytes) :
    UnitsAgree (done ++ [.park unit_id unit_type payload])
      { m with parked := dictPut m.parked (unit_id, unit_type) (some payload) }
      (SqlTable.put_payload (unit_id, unit_type) .IN_PROCESS payload t) := by
  have hstated : ∀ key, Stated (done ++ [.park unit_id unit_type payload]) key ↔ Stated done key :=
    fun key => stated_append.trans (or_iff_left (by rintro (heq | heq) <;> cases heq))
  constructor
  · intro key
    rw [hstated]
    exact h.stated key
  · intro key hsome
    rw [stateAt_put_payload, h.same key hsome]
    show _ = m.store key
    by_cases heq : key = (unit_id, unit_type)
    · have hrow : stateAt t (unit_id, unit_type) = m.store key := by
        rw [← heq]
        exact h.same key hsome
      rw [if_pos heq, hrow]
      cases hstore : m.store key with
      | none => exact absurd hstore hsome
      | some state => rfl
    · rw [if_neg heq]
  · intro key hnone hwas
    rw [stateAt_put_payload]
    by_cases heq : key = (unit_id, unit_type)
    · rw [if_pos heq, ← heq]
      by_cases hbefore : WasParked done key
      · rw [h.parked key hnone hbefore]
        rfl
      · rw [h.unknown key hnone hbefore]
        rfl
    · rw [if_neg heq]
      refine h.parked key hnone ((wasParked_append.mp hwas).resolve_right ?_)
      rintro ⟨payload', hop⟩
      cases hop
      exact heq rfl
  · intro key hnone hwas
    rw [stateAt_put_payload]
    have heq : key ≠ (unit_id, unit_type) := by
      rintro rfl
      exact hwas (wasParked_append.mpr (.inr ⟨payload, rfl⟩))
    rw [if_neg heq]
    exact h.unknown key hnone fun hdone => hwas (wasParked_append.mpr (.inl hdone))
  · intro key
    rw [payload_put_payload, h.payload key]
    rfl

theorem UnitsAgree.delete_parked (h : UnitsAgree done m t) (unit_id unit_type : PyStr) :
    UnitsAgree (done ++ [.delete_parked unit_id unit_type])
      { m with parked := dictPut m.parked (unit_id, unit_type) none }
      (SqlTable.update (unit_id, unit_type) (fun row => { row with payload := none }) t) := by
  have hread : UnitsAgree (done ++ [.delete_parked unit_id unit_type]) m t :=
    h.read (fun _ => ⟨nofun, nofun⟩) (fun _ _ => nofun)
  constructor
  · exact hread.stated
  · intro key
    rw [stateAt_clear]
    exact hread.same key
  · intro key
    rw [stateAt_clear]
    exact hread.parked key
  · intro key
    rw [stateAt_clear]
    exact hread.unknown key
  · intro key
    rw [payload_clear, h.payload key]
    rfl

/-- The state is the same, unless the unit was parked and given none. -/
theorem UnitsAgree.same_state (h : UnitsAgree done m t) (key : PyStr × PyStr) :
    (m.store key).getD .NOT_FOUND = (stateAt t key).getD .NOT_FOUND ↔
      (WasParked done key → Stated done key) := by
  by_cases hstated : Stated done key
  · rw [h.same key ((h.stated key).mpr hstated)]
    exact ⟨fun _ _ => hstated, fun _ => rfl⟩
  · have hnone : m.store key = none := not_not.mp fun hsome => hstated ((h.stated key).mp hsome)
    by_cases hparked : WasParked done key
    · rw [hnone, h.parked key hnone hparked]
      exact ⟨nofun, fun himp => absurd (himp hparked) hstated⟩
    · rw [hnone, h.unknown key hnone hparked]
      exact ⟨fun _ hwas => absurd hwas hparked, fun _ => rfl⟩

/-! ## A history played to both -/

/-- A unit store, one operation after the other. -/
def unitMachine {χ : Type} (store : ListedUnitStore χ) (op : UnitOp) (s : χ) :
    Except PyError (StoreAnswer (PyStr × PyStr)) × χ :=
  Eff.run (op.program store) s

/-- Both stores answer, alike or not, and agree behind the operation. -/
structure UnitStep (done : List UnitOp) (m : UnitTable)
    (t : SqlTable (PyStr × PyStr) UnitState) (op : UnitOp) : Prop where
  output : (unitMachine listedUnitStore op m).1 = (unitMachine SqliteUnitStore op t).1 ↔
    AsksOfStated done op
  after : UnitsAgree (done ++ [op]) (unitMachine listedUnitStore op m).2
    (unitMachine SqliteUnitStore op t).2

/-- INTERNAL: a step by what each of the two does. -/
theorem UnitStep.of_runs {a a' : StoreAnswer (PyStr × PyStr)}
    (hmemory : unitMachine listedUnitStore op m = (.ok a, m'))
    (hsqlite : unitMachine SqliteUnitStore op t = (.ok a', t'))
    (houtput : a = a' ↔ AsksOfStated done op) (hafter : UnitsAgree (done ++ [op]) m' t') :
    UnitStep done m t op := by
  constructor
  · rw [hmemory, hsqlite]
    exact ⟨fun h => houtput.mp (Except.ok.inj h), fun h => congrArg _ (houtput.mpr h)⟩
  · rw [hmemory, hsqlite]
    exact hafter

theorem unit_step (h : UnitsAgree done m t) (htexts : ∀ s ∈ unitTexts op, Encodable s) :
    UnitStep done m t op := by
  have htold : (StoreAnswer.none : StoreAnswer (PyStr × PyStr)) = .none ↔ True :=
    ⟨fun _ => trivial, fun _ => rfl⟩
  cases op with
  | persist unit_id unit_type =>
    refine .of_runs rfl (run_write htexts _ _ t) htold (h.state (unit_id, unit_type) _ ?_ ?_)
    · rintro ⟨a, b⟩
      simp [eq_comm]
    · exact fun _ _ => nofun
  | confirm unit_id unit_type =>
    refine .of_runs rfl (run_write htexts _ _ t) htold (h.state (unit_id, unit_type) _ ?_ ?_)
    · rintro ⟨a, b⟩
      simp [eq_comm]
    · exact fun _ _ => nofun
  | park unit_id unit_type payload =>
    exact .of_runs rfl (run_write htexts _ _ t) htold (h.park unit_id unit_type payload)
  | delete_parked unit_id unit_type =>
    exact .of_runs rfl (run_write htexts _ _ t) htold (h.delete_parked unit_id unit_type)
  | get_unit_state unit_id unit_type =>
    refine .of_runs rfl (run_read htexts _ StoreAnswer.state t) ?_
      (h.read (fun _ => ⟨nofun, nofun⟩) fun _ _ => nofun)
    exact (StoreAnswer.state.injEq _ _).to_iff.trans (h.same_state (unit_id, unit_type))
  | get_parked unit_id unit_type =>
    refine .of_runs rfl (run_read htexts _ StoreAnswer.payload t) ?_
      (h.read (fun _ => ⟨nofun, nofun⟩) fun _ _ => nofun)
    have hsame := h.payload (unit_id, unit_type)
    exact ⟨fun _ => trivial, fun _ => congrArg StoreAnswer.payload hsame.symm⟩
  | list_parked =>
    refine .of_runs rfl (run_read htexts _ StoreAnswer.keys t) ?_
      (h.read (fun _ => ⟨nofun, nofun⟩) fun _ _ => nofun)
    refine ⟨fun _ => trivial, fun _ => congrArg StoreAnswer.keys ?_⟩
    ext key
    show m.parked key ≠ none ↔ t.payload key ≠ none
    rw [h.payload key]

theorem unit_raises (h : ¬ ∀ s ∈ unitTexts op, Encodable s)
    (t : SqlTable (PyStr × PyStr) UnitState) :
    ∃ e, (unitMachine SqliteUnitStore op t).1 = .error e := by
  cases op with
  | persist unit_id unit_type => exact run_write_error h _ _ t
  | confirm unit_id unit_type => exact run_write_error h _ _ t
  | park unit_id unit_type payload => exact run_write_error h _ _ t
  | delete_parked unit_id unit_type => exact run_write_error h _ _ t
  | get_unit_state unit_id unit_type => exact run_read_error h _ StoreAnswer.state t
  | get_parked unit_id unit_type => exact run_read_error h _ StoreAnswer.payload t
  | list_parked => exact run_read_error h _ StoreAnswer.keys t

theorem unit_memory_answers (op : UnitOp) (m : UnitTable) :
    ∃ a, (unitMachine listedUnitStore op m).1 = .ok a := by
  cases op <;> exact ⟨_, rfl⟩

theorem unit_output (done : List UnitOp) (m : UnitTable)
    (t : SqlTable (PyStr × PyStr) UnitState) (op : UnitOp) (h : UnitsAgree done m t) :
    (unitMachine listedUnitStore op m).1 = (unitMachine SqliteUnitStore op t).1 ↔
      UnitFine done op := by
  by_cases htexts : ∀ s ∈ unitTexts op, Encodable s
  · rw [(unit_step h htexts).output]
    exact ⟨fun hasks => ⟨htexts, hasks⟩, fun hfine => hfine.asks⟩
  · obtain ⟨e, he⟩ := unit_raises htexts t
    obtain ⟨a, ha⟩ := unit_memory_answers op m
    rw [he, ha]
    exact ⟨nofun, fun hfine => absurd hfine.texts htexts⟩

end Units

theorem unitsAgree_empty : UnitsAgree [] ⟨fun _ => none, fun _ => none⟩ fun _ => none where
  stated _ := ⟨fun h => absurd rfl h, by rintro (h | h) <;> cases h⟩
  same _ h := absurd rfl h
  parked _ _ hwas := by
    obtain ⟨payload, hmem⟩ := hwas
    cases hmem
  unknown _ _ _ := rfl
  payload _ := rfl

/-- SOURCE: stores.py:355-422 and stores.py:704-800.  A history gets the same answers from both
unit stores exactly when every text in it can be encoded and it never asks for the state of a
unit that was parked and neither persisted nor confirmed. -/
theorem unit_stores_answer_alike_iff (ops : List UnitOp) :
    Run.answers (unitMachine listedUnitStore) ops ⟨fun _ => none, fun _ => none⟩ =
        Run.answers (unitMachine SqliteUnitStore) ops (fun _ => none) ↔
      ∀ before op after, ops = before ++ op :: after → UnitFine before op :=
  Run.answers_eq_iff unit_output (fun _ _ _ _ h hfine => (unit_step h hfine.texts).after)
    unitsAgree_empty ops

/-- A unit that was only parked is in process for one store and unknown to the other. -/
theorem park_gives_unit_a_state :
    Run.answers (unitMachine listedUnitStore)
        [.park (lit "U") (lit "T") [1], .get_unit_state (lit "U") (lit "T")]
        ⟨fun _ => none, fun _ => none⟩ = [.ok .none, .ok (.state .NOT_FOUND)] ∧
    Run.answers (unitMachine SqliteUnitStore)
        [.park (lit "U") (lit "T") [1], .get_unit_state (lit "U") (lit "T")] (fun _ => none) =
      [.ok .none, .ok (.state .IN_PROCESS)] ∧
    Run.answers (unitMachine listedUnitStore)
        [.park (lit "U") (lit "T") [1], .get_unit_state (lit "U") (lit "T")]
        ⟨fun _ => none, fun _ => none⟩ ≠
      Run.answers (unitMachine SqliteUnitStore)
        [.park (lit "U") (lit "T") [1], .get_unit_state (lit "U") (lit "T")] (fun _ => none) := by
  have hmemory : Run.answers (unitMachine listedUnitStore)
      [.park (lit "U") (lit "T") [1], .get_unit_state (lit "U") (lit "T")]
      ⟨fun _ => none, fun _ => none⟩ = [.ok .none, .ok (.state .NOT_FOUND)] := rfl
  have hsqlite : Run.answers (unitMachine SqliteUnitStore)
      [.park (lit "U") (lit "T") [1], .get_unit_state (lit "U") (lit "T")] (fun _ => none) =
        [.ok .none, .ok (.state .IN_PROCESS)] := rfl
  refine ⟨hmemory, hsqlite, ?_⟩
  rw [hmemory, hsqlite]
  intro h
  cases h

end SapRfc.Analysis.Interchange
