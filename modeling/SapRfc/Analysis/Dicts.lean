import Mathlib.Data.List.Nodup
import SapRfc.Program.Requests

/-!
# Dicts

Dicts in insertion order, and the two ways in which the sources fill one: the keys of a
caller's dict in upper case, and the parameters of an interface by their names.
-/

set_option autoImplicit false

namespace SapRfc.Analysis.Dicts

open SapRfc.Library SapRfc.Program

variable {α β V : Type} [DecidableEq α]

/-! ## Keys -/

theorem assocGet_eq_none {d : List (α × β)} {key : α} :
    assocGet d key = none ↔ ∀ e ∈ d, e.1 ≠ key := by
  unfold assocGet
  rw [Option.map_eq_none_iff, List.find?_eq_none]
  simp only [decide_eq_true_eq]

/-- A new key goes to the end. -/
theorem assocSet_of_fresh {d : List (α × β)} {key : α} (value : β) (h : ∀ e ∈ d, e.1 ≠ key) :
    assocSet d key value = d ++ [(key, value)] := by
  unfold assocSet
  rw [if_neg]
  rw [List.any_eq_true]
  rintro ⟨e, he, hkey⟩
  exact h e he (of_decide_eq_true hkey)

@[simp] theorem assocGet_cons (e : α × β) (d : List (α × β)) (key : α) :
    assocGet (e :: d) key = if e.1 = key then some e.2 else assocGet d key := by
  unfold assocGet
  by_cases h : e.1 = key
  · rw [List.find?_cons_of_pos (by simpa using h), if_pos h]
    rfl
  · rw [List.find?_cons_of_neg (by simpa using h), if_neg h]

theorem assocGet_append (d d' : List (α × β)) (key : α) :
    assocGet (d ++ d') key = (assocGet d key).or (assocGet d' key) := by
  unfold assocGet
  rw [List.find?_append]
  cases d.find? fun e => decide (e.1 = key) <;> rfl

/-- INTERNAL: an entry that is replaced. -/
theorem assocGet_replaced (d : List (α × β)) (key other : α) (value : β) :
    assocGet (d.map fun e => if e.1 = key then (key, value) else e) other =
      if key = other then (assocGet d key).map fun _ => value else assocGet d other := by
  induction d with
  | nil => split <;> rfl
  | cons e d ih =>
    rw [List.map_cons, assocGet_cons, assocGet_cons, assocGet_cons, ih]
    by_cases hkey : e.1 = key
    · subst hkey
      simp only [if_true]
      by_cases hother : e.1 = other
      · rw [if_pos hother, if_pos hother]
        rfl
      · rw [if_neg hother, if_neg hother, if_neg hother, if_neg hother]
    · rw [if_neg hkey, if_neg hkey]
      by_cases hother : key = other
      · subst hother
        rw [if_neg hkey, if_pos rfl, if_pos rfl]
      · rw [if_neg hother, if_neg hother]

/-- A dict behind an assignment. -/
theorem assocGet_assocSet (d : List (α × β)) (key other : α) (value : β) :
    assocGet (assocSet d key value) other =
      if key = other then some value else assocGet d other := by
  by_cases hold : assocGet d key = none
  · rw [assocSet_of_fresh value (assocGet_eq_none.mp hold), assocGet_append, assocGet_cons]
    by_cases hother : key = other
    · subst hother
      rw [hold, if_pos rfl, if_pos rfl]
      rfl
    · rw [if_neg hother, if_neg hother]
      cases assocGet d other <;> rfl
  · obtain ⟨old, hget⟩ := Option.ne_none_iff_exists'.mp hold
    have hany : d.any (fun e => decide (e.1 = key)) = true := by
      by_contra hnone
      refine hold (assocGet_eq_none.mpr fun e he heq => hnone ?_)
      exact List.any_eq_true.mpr ⟨e, he, decide_eq_true heq⟩
    unfold assocSet
    rw [if_pos hany, assocGet_replaced, hget]
    rfl

/-- An assignment adds no other entry. -/
theorem mem_assocSet {d : List (α × β)} {key : α} {value : β} {e : α × β}
    (h : e ∈ assocSet d key value) : e = (key, value) ∨ e ∈ d := by
  unfold assocSet at h
  split at h
  · obtain ⟨old, hold, rfl⟩ := List.mem_map.mp h
    split
    · exact .inl rfl
    · exact .inr hold
  · rcases List.mem_append.mp h with hold | hnew
    · exact .inr hold
    · exact .inl (List.mem_singleton.mp hnew)

/-- The last of two assignments counts. -/
theorem assocSet_assocSet (d : List (α × β)) (key : α) (value value' : β) :
    assocSet (assocSet d key value) key value' = assocSet d key value' := by
  have hset : (assocSet d key value).any (fun e => decide (e.1 = key)) = true := by
    have hget := assocGet_assocSet d key key value
    rw [if_pos rfl] at hget
    by_contra hnone
    refine absurd (assocGet_eq_none.mpr fun e he heq => hnone ?_) (by rw [hget]; nofun)
    exact List.any_eq_true.mpr ⟨e, he, decide_eq_true heq⟩
  have hreplaced : ∀ d : List (α × β),
      (d.map fun e => if e.1 = key then (key, value) else e).map
        (fun e => if e.1 = key then (key, value') else e) =
      d.map fun e => if e.1 = key then (key, value') else e := by
    intro d
    rw [List.map_map]
    refine List.map_congr_left fun e _ => ?_
    by_cases hkey : e.1 = key
    · simp [hkey]
    · simp [hkey]
  rw [assocSet, if_pos hset]
  unfold assocSet
  split
  next => exact hreplaced d
  next hfresh =>
    have hold : d.map (fun e => if e.1 = key then (key, value') else e) = d := by
      refine (List.map_congr_left fun e he => ?_).trans (List.map_id d)
      rw [if_neg fun heq => hfresh (List.any_eq_true.mpr ⟨e, he, decide_eq_true heq⟩)]
      rfl
    rw [List.map_append, hold, List.map_singleton, if_pos rfl]

/-- A dict whose values are read. -/
theorem assocGet_map {γ : Type} (f : β → γ) (d : List (α × β)) (key : α) :
    assocGet (d.map fun e => (e.1, f e.2)) key = (assocGet d key).map f := by
  induction d with
  | nil => rfl
  | cons e d ih =>
    rw [List.map_cons, assocGet_cons, assocGet_cons, ih]
    split <;> rfl

theorem assocSet_map {γ : Type} (f : β → γ) (d : List (α × β)) (key : α) (value : β) :
    (assocSet d key value).map (fun e => (e.1, f e.2)) =
      assocSet (d.map fun e => (e.1, f e.2)) key (f value) := by
  have hany : (d.map fun e => (e.1, f e.2)).any (fun e => decide (e.1 = key)) =
      d.any fun e => decide (e.1 = key) := by
    rw [List.any_map]
    rfl
  unfold assocSet
  rw [hany]
  split
  · rw [List.map_map, List.map_map]
    refine List.map_congr_left fun e _ => ?_
    by_cases hkey : e.1 = key
    · simp [hkey]
    · simp [hkey]
  · rw [List.map_append]
    rfl

/-- With distinct keys, each entry is found. -/
theorem assocGet_eq_some {d : List (α × β)} (h : (d.map Prod.fst).Nodup) {key : α} {value : β} :
    assocGet d key = some value ↔ (key, value) ∈ d := by
  induction d with
  | nil => exact ⟨nofun, nofun⟩
  | cons e d ih =>
    rw [List.map_cons, List.nodup_cons] at h
    rw [assocGet_cons, List.mem_cons, ← ih h.2]
    by_cases hkey : e.1 = key
    · subst hkey
      rw [if_pos rfl]
      constructor
      · intro hvalue
        exact .inl (Prod.ext rfl (Option.some.inj hvalue).symm)
      · rintro (hfirst | hlater)
        · rw [← hfirst]
        · exact absurd (List.mem_map_of_mem ((ih h.2).mp hlater)) h.1
    · rw [if_neg hkey]
      refine ⟨.inr, fun hor => hor.resolve_left ?_⟩
      rintro rfl
      exact hkey rfl

/-! ## Keys in upper case -/

section Upper

variable (u : Unicode)

/-- INTERNAL: with keys that are distinct in upper case, each entry is added. -/
theorem foldl_upper {params : Values V} (acc : Values V)
    (h : (acc.map Prod.fst ++ params.map fun e => u.upper e.1).Nodup) :
    params.foldl (fun d e => assocSet d (u.upper e.1) e.2) acc =
      acc ++ params.map fun e => (u.upper e.1, e.2) := by
  induction params generalizing acc with
  | nil => exact (List.append_nil acc).symm
  | cons e params ih =>
    rw [List.map_cons] at h
    have hfresh : ∀ e' ∈ acc, e'.1 ≠ u.upper e.1 := by
      intro e' he' heq
      exact (List.nodup_append.mp h).2.2 _ (List.mem_map_of_mem he') _ List.mem_cons_self heq
    rw [List.foldl_cons, assocSet_of_fresh _ hfresh, ih]
    · rw [List.append_assoc]
      rfl
    · rw [List.map_append, List.append_assoc]
      exact h

theorem upper_keys_of_nodup {params : Values V} (h : (params.map fun e => u.upper e.1).Nodup) :
    upper_keys u params = params.map fun e => (u.upper e.1, e.2) :=
  foldl_upper u [] h

/-- The value of a parameter is the one that the caller gives under its name. -/
theorem assocGet_upper_keys {params : Values V} (h : (params.map fun e => u.upper e.1).Nodup)
    {key : PyStr} {value : V} :
    assocGet (upper_keys u params) key = some value ↔
      ∃ name, (name, value) ∈ params ∧ u.upper name = key := by
  rw [upper_keys_of_nodup u h]
  induction params with
  | nil => exact ⟨nofun, fun ⟨_, hmem, _⟩ => nomatch hmem⟩
  | cons e params ih =>
    rw [List.map_cons, List.nodup_cons] at h
    rw [List.map_cons, assocGet_cons]
    by_cases hkey : u.upper e.1 = key
    · rw [if_pos hkey, Option.some_inj]
      constructor
      · rintro rfl
        exact ⟨e.1, List.mem_cons_self, hkey⟩
      · rintro ⟨name, hmem, hname⟩
        rcases List.mem_cons.mp hmem with heq | hrest
        · rw [← heq]
        · refine absurd (List.mem_map.mpr ⟨_, hrest, ?_⟩) h.1
          exact hname.trans hkey.symm
    · rw [if_neg hkey, ih h.2]
      constructor
      · rintro ⟨name, hmem, hname⟩
        exact ⟨name, List.mem_cons_of_mem _ hmem, hname⟩
      · rintro ⟨name, hmem, hname⟩
        rcases List.mem_cons.mp hmem with heq | hrest
        · rw [← heq] at hkey
          exact absurd hname hkey
        · exact ⟨name, hrest, hname⟩

/-! ## Parameters by name -/

/-- With names that are distinct in upper case, a parameter is found by its name. -/
theorem field_of_mem {fields : List FieldDesc} (h : (fields.map fun f => u.upper f.name).Nodup)
    {field : FieldDesc} (hmem : field ∈ fields) : field_of u fields field.name = some field := by
  unfold field_of
  have hsome : (fields.reverse.find? fun f =>
      decide (u.upper f.name = u.upper field.name)).isSome := by
    rw [List.find?_isSome]
    exact ⟨field, List.mem_reverse.mpr hmem, decide_eq_true rfl⟩
  obtain ⟨found, hfound⟩ := Option.isSome_iff_exists.mp hsome
  have hin : found ∈ fields := List.mem_reverse.mp (List.mem_of_find?_eq_some hfound)
  have hname : u.upper found.name = u.upper field.name := by
    simpa using List.find?_some hfound
  rw [hfound, List.inj_on_of_nodup_map h hin hmem hname]

/-- INTERNAL: names that are distinct in upper case are distinct. -/
theorem nodup_names {fields : List FieldDesc} (h : (fields.map fun f => u.upper f.name).Nodup) :
    (fields.map FieldDesc.name).Nodup := by
  refine List.Nodup.of_map u.upper ?_
  rw [List.map_map]
  exact h

end Upper

/-- The values of parameters, each under its name. -/
def named_values {γ : Type} (read : FieldDesc → γ → Except PyError V) (es : List (FieldDesc × γ)) :
    Except PyError (Values V) :=
  es.mapM fun e => do
    let value ← read e.1 e.2
    .ok (e.1.name, value)

/-- INTERNAL: readers that agree on each parameter. -/
theorem named_values_congr {γ δ τ : Type} {read : FieldDesc → γ → Except PyError V}
    {read' : FieldDesc → δ → Except PyError V} {l : List τ} {field : τ → FieldDesc} {x : τ → γ}
    {y : τ → δ} (h : ∀ c ∈ l, read (field c) (x c) = read' (field c) (y c)) :
    named_values read (l.map fun c => (field c, x c)) =
      named_values read' (l.map fun c => (field c, y c)) := by
  unfold named_values
  induction l with
  | nil => rfl
  | cons c l ih =>
    rw [List.map_cons, List.map_cons, List.mapM_cons, List.mapM_cons, h c List.mem_cons_self,
      ih fun c' hc' => h c' (List.mem_cons_of_mem _ hc')]

/-- Values that are read for parameters with distinct names are collected in order. -/
theorem foldlM_fields {γ : Type} (read : FieldDesc → γ → Except PyError V)
    {step : Values V → FieldDesc × γ → Except PyError (Values V)} {es : List (FieldDesc × γ)}
    (hstep : ∀ e ∈ es, ∀ result, step result e = (do
      let value ← read e.1 e.2
      .ok (assocSet result e.1.name value)))
    (acc : Values V) (hnodup : (acc.map Prod.fst ++ es.map fun e => e.1.name).Nodup) :
    es.foldlM step acc = (named_values read es).map (acc ++ ·) := by
  unfold named_values
  induction es generalizing acc with
  | nil =>
    show Except.ok acc = Except.ok (acc ++ [])
    rw [List.append_nil]
  | cons e es ih =>
    rw [List.map_cons] at hnodup
    rw [List.foldlM_cons, List.mapM_cons, hstep e List.mem_cons_self]
    cases read e.1 e.2 with
    | error exc => rfl
    | ok value =>
      have hfresh : ∀ e' ∈ acc, e'.1 ≠ e.1.name := by
        intro e' he' heq
        exact (List.nodup_append.mp hnodup).2.2 _ (List.mem_map_of_mem he') _ List.mem_cons_self heq
      have hrest := ih
        (fun e' he' => hstep e' (List.mem_cons_of_mem _ he')) (acc ++ [(e.1.name, value)]) (by
          rw [List.map_append, List.append_assoc]
          exact hnodup)
      rw [Eff.except_ok_bind, Eff.except_ok_bind, Eff.except_ok_bind, assocSet_of_fresh _ hfresh,
        hrest]
      cases es.mapM (m := Except PyError) fun e => do
          let value ← read e.1 e.2
          Except.ok (e.1.name, value) with
      | error exc => rfl
      | ok values =>
        show Except.ok (acc ++ [(e.1.name, value)] ++ values) =
            Except.ok (acc ++ (e.1.name, value) :: values)
        rw [List.append_assoc]
        rfl

/-! ## One parameter of a result -/

section One

variable {V γ : Type} {u : Unicode} {fields : List FieldDesc}
  {read : FieldDesc → PyStr × γ → Except PyError V} {es : List (PyStr × γ)}
  {acc result : Values V} {field : FieldDesc}

variable (u fields read) in
/-- A named value goes to its field, if there is one. -/
def assign (result : Values V) (e : PyStr × γ) : Except PyError (Values V) :=
  match field_of u fields e.1 with
  | none => .ok result
  | some f => do
    let value ← read f e
    .ok (assocSet result f.name value)

/-- INTERNAL: the field of a name has that name. -/
theorem upper_of_field_of {name : PyStr} (h : field_of u fields name = some field) :
    u.upper field.name = u.upper name :=
  of_decide_eq_true (List.find?_some (p := fun f : FieldDesc =>
    decide (u.upper f.name = u.upper name)) h)

/-- Values of other names leave a parameter as it is. -/
theorem foldlM_elsewhere
    (hnone : ∀ e ∈ es, u.upper e.1 ≠ u.upper field.name)
    (h : es.foldlM (assign u fields read) acc = .ok result) :
    assocGet result field.name = assocGet acc field.name := by
  induction es generalizing acc with
  | nil =>
    obtain rfl : acc = result := Except.ok.inj h
    rfl
  | cons e es ih =>
    rw [List.foldlM_cons] at h
    obtain ⟨next, hnext, hrest⟩ := Eff.except_bind_eq_ok.mp h
    rw [ih (fun q hq => hnone q (List.mem_cons_of_mem _ hq)) hrest]
    unfold assign at hnext
    cases hfield : field_of u fields e.1 with
    | none =>
      rw [hfield] at hnext
      rw [← Except.ok.inj hnext]
    | some f =>
      rw [hfield] at hnext
      obtain ⟨value, -, hset⟩ := Eff.except_bind_eq_ok.mp hnext
      have hne : f.name ≠ field.name := fun heq =>
        hnone e List.mem_cons_self ((upper_of_field_of hfield).symm.trans (congrArg u.upper heq))
      rw [← Except.ok.inj hset, assocGet_assocSet, if_neg hne]

/-- A value of a name sets the parameter. -/
theorem foldlM_sets
    (hset : assocGet acc field.name ≠ none ∨ ∃ x ∈ es, field_of u fields x.1 = some field)
    (h : es.foldlM (assign u fields read) acc = .ok result) :
    assocGet result field.name ≠ none := by
  induction es generalizing acc with
  | nil =>
    obtain rfl : acc = result := Except.ok.inj h
    exact hset.resolve_right fun ⟨x, hx, _⟩ => List.not_mem_nil hx
  | cons e es ih =>
    rw [List.foldlM_cons] at h
    obtain ⟨next, hnext, hrest⟩ := Eff.except_bind_eq_ok.mp h
    unfold assign at hnext
    refine ih ?_ hrest
    cases hfield : field_of u fields e.1 with
    | none =>
      rw [hfield] at hnext
      rw [← Except.ok.inj hnext]
      refine hset.imp id fun ⟨x, hx, hfound⟩ => ⟨x, (List.mem_cons.mp hx).resolve_left ?_, hfound⟩
      rintro rfl
      rw [hfield] at hfound
      cases hfound
    | some f =>
      rw [hfield] at hnext
      obtain ⟨value, -, hnow⟩ := Eff.except_bind_eq_ok.mp hnext
      rw [← Except.ok.inj hnow, assocGet_assocSet]
      split
      · exact .inl (Option.some_ne_none value)
      next hne =>
        refine hset.imp id fun ⟨x, hx, hfound⟩ => ⟨x, (List.mem_cons.mp hx).resolve_left ?_, hfound⟩
        rintro rfl
        rw [hfield] at hfound
        exact hne (congrArg FieldDesc.name (Option.some.inj hfound))

/-- The only value of a name is the parameter's. -/
theorem foldlM_only
    {x : PyStr × γ} (hfield : field_of u fields x.1 = some field)
    (honly : es.filter (fun e => u.upper e.1 = u.upper field.name) = [x])
    (h : es.foldlM (assign u fields read) acc = .ok result) :
    ∃ value, read field x = .ok value ∧ assocGet result field.name = some value := by
  induction es generalizing acc with
  | nil => cases honly
  | cons e es ih =>
    rw [List.foldlM_cons] at h
    obtain ⟨next, hnext, hrest⟩ := Eff.except_bind_eq_ok.mp h
    rw [List.filter_cons] at honly
    split at honly
    · obtain ⟨rfl, hnone⟩ := List.cons.inj honly
      unfold assign at hnext
      rw [hfield] at hnext
      obtain ⟨value, hread, hset⟩ := Eff.except_bind_eq_ok.mp hnext
      refine ⟨value, hread, ?_⟩
      rw [List.filter_eq_nil_iff] at hnone
      rw [foldlM_elsewhere (fun q hq heq => hnone q hq (decide_eq_true heq)) hrest,
        ← Except.ok.inj hset, assocGet_assocSet, if_pos rfl]
    · exact ih honly hrest

end One

end SapRfc.Analysis.Dicts
