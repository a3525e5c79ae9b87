import Mathlib.Tactic.Common

/-!
# Programs with state and exceptions

`Eff ε σ α` is a program over a state `σ` that returns an `α` or raises an `ε`.
Whatever it did to the state before raising stays done, as in a language with
side effects, so a handler sees the state at the point of the raise.

Two ways to reason about such a program follow.  `Eff.run_bind` and its companions
execute it symbolically.  `Eff.Sat` is the rule layer: `Sat x Q s` says the run of
`x` from `s` ends as `Q` says, on both exits, and the lemmas on it are the weakest
preconditions of the constructs.  `Eff.Keeps R x` is the special case of a relation
between the state before and after; it is closed under every construct, which is
how frame conditions and monotone logs are carried through a long program.
-/

set_option autoImplicit false

namespace SapRfc.Library

/-- A program over state `σ` returning an `α` or raising an `ε`. -/
def Eff (ε σ α : Type) : Type := σ → Except ε α × σ

namespace Eff

variable {ε σ α β : Type}

/-- Run a program from a state. -/
def run (x : Eff ε σ α) (s : σ) : Except ε α × σ := x s

/-- A program from its run function. -/
def mk (f : σ → Except ε α × σ) : Eff ε σ α := f

instance : Monad (Eff ε σ) where
  pure a := fun s => (.ok a, s)
  bind x f := fun s =>
    match x s with
    | (.ok a, s') => f a s'
    | (.error e, s') => (.error e, s')

instance : MonadExceptOf ε (Eff ε σ) where
  throw e := fun s => (.error e, s)
  tryCatch x h := fun s =>
    match x s with
    | (.ok a, s') => (.ok a, s')
    | (.error e, s') => h e s'

/-- `finally`: the cleanup runs on both exits; its own raise replaces the outcome. -/
def andFinally (x : Eff ε σ α) (cleanup : Eff ε σ Unit) : Eff ε σ α := fun s =>
  match x s with
  | (r, s') =>
    match cleanup s' with
    | (.ok _, s'') => (r, s'')
    | (.error e, s'') => (.error e, s'')

/-- Read the state. -/
def state : Eff ε σ σ := fun s => (.ok s, s)

/-- Change the state. -/
def update (f : σ → σ) : Eff ε σ Unit := fun s => (.ok (), f s)

/-- Raise or return what a pure computation raised or returned. -/
def lift (r : Except ε α) : Eff ε σ α := fun s => (r, s)

/-- Run a program on a part of the state: `get` reads the part, `set` writes it back. -/
def zoom {τ : Type} (get : σ → τ) (set : τ → σ → σ) (x : Eff ε τ α) : Eff ε σ α := fun s =>
  match x (get s) with
  | (r, t) => (r, set t s)

@[simp] theorem run_mk (f : σ → Except ε α × σ) (s : σ) : run (mk f) s = f s := rfl

@[simp] theorem run_pure (a : α) (s : σ) : run (pure a : Eff ε σ α) s = (.ok a, s) := rfl

@[simp] theorem run_throw (e : ε) (s : σ) : run (throw e : Eff ε σ α) s = (.error e, s) := rfl

@[simp] theorem run_state (s : σ) : run (state : Eff ε σ σ) s = (.ok s, s) := rfl

@[simp] theorem run_update (f : σ → σ) (s : σ) :
    run (update f : Eff ε σ Unit) s = (.ok (), f s) := rfl

@[simp] theorem run_lift (r : Except ε α) (s : σ) : run (lift r : Eff ε σ α) s = (r, s) := rfl

theorem run_bind (x : Eff ε σ α) (f : α → Eff ε σ β) (s : σ) :
    run (x >>= f) s = match run x s with
      | (.ok a, s') => run (f a) s'
      | (.error e, s') => (.error e, s') := rfl

theorem run_bind_ok {x : Eff ε σ α} {f : α → Eff ε σ β} {s s' : σ} {a : α}
    (h : run x s = (.ok a, s')) : run (x >>= f) s = run (f a) s' := by
  rw [run_bind, h]

theorem run_bind_error {x : Eff ε σ α} {f : α → Eff ε σ β} {s s' : σ} {e : ε}
    (h : run x s = (.error e, s')) : run (x >>= f) s = (.error e, s') := by
  rw [run_bind, h]

/-- A sequence that returns is two programs that return. -/
theorem run_bind_eq_ok {x : Eff ε σ α} {f : α → Eff ε σ β} {s s'' : σ} {b : β}
    (h : run (x >>= f) s = (.ok b, s'')) :
    ∃ a s', run x s = (.ok a, s') ∧ run (f a) s' = (.ok b, s'') := by
  rw [run_bind] at h
  cases hr : run x s with
  | mk r s' =>
    rw [hr] at h
    cases r with
    | ok a => exact ⟨a, s', rfl, h⟩
    | error e => cases h

theorem run_tryCatch (x : Eff ε σ α) (h : ε → Eff ε σ α) (s : σ) :
    run (tryCatch x h) s = match run x s with
      | (.ok a, s') => (.ok a, s')
      | (.error e, s') => run (h e) s' := rfl

/-- A handler that leaves the state alone. -/
theorem run_tryCatch_state {x : Eff ε σ α} {h : ε → Eff ε σ α}
    (hh : ∀ e s, (run (h e) s).2 = s) (s : σ) : (run (tryCatch x h) s).2 = (run x s).2 := by
  rw [run_tryCatch]
  cases run x s with
  | mk r s' =>
    cases r with
    | ok a => rfl
    | error e => exact hh e s'

theorem run_andFinally (x : Eff ε σ α) (c : Eff ε σ Unit) (s : σ) :
    run (andFinally x c) s = match run x s with
      | (r, s') => match run c s' with
        | (.ok _, s'') => (r, s'')
        | (.error e, s'') => (.error e, s'') := rfl

theorem run_zoom {τ : Type} (get : σ → τ) (set : τ → σ → σ) (x : Eff ε τ α) (s : σ) :
    run (zoom get set x) s = ((run x (get s)).1, set (run x (get s)).2 s) := rfl

theorem except_ok_bind (a : α) (f : α → Except ε β) : (Except.ok a >>= f) = f a := rfl

/-- A sequence of pure computations returns when both do. -/
theorem except_bind_eq_ok {x : Except ε α} {f : α → Except ε β} {b : β} :
    (x >>= f) = .ok b ↔ ∃ a, x = .ok a ∧ f a = .ok b := by
  cases x with
  | error e => exact ⟨(nomatch ·), fun ⟨_, h, _⟩ => (nomatch h)⟩
  | ok a =>
    rw [except_ok_bind]
    refine ⟨fun h => ⟨a, rfl, h⟩, ?_⟩
    rintro ⟨a', ha, h⟩
    obtain rfl := Except.ok.inj ha
    exact h

/-- A list is mapped when its head and its tail are. -/
theorem except_mapM_cons_eq_ok {f : α → Except ε β} {a : α} {l : List α} {out : List β} :
    (a :: l).mapM f = .ok out ↔ ∃ b bs, f a = .ok b ∧ l.mapM f = .ok bs ∧ out = b :: bs := by
  rw [List.mapM_cons, except_bind_eq_ok]
  constructor
  · rintro ⟨b, hb, h⟩
    obtain ⟨bs, hbs, h⟩ := except_bind_eq_ok.mp h
    exact ⟨b, bs, hb, hbs, (Except.ok.inj h).symm⟩
  · rintro ⟨b, bs, hb, hbs, rfl⟩
    exact ⟨b, hb, except_bind_eq_ok.mpr ⟨bs, hbs, rfl⟩⟩

/-- A list is mapped when each element is, to the result in its place. -/
theorem except_mapM_eq_ok {f : α → Except ε β} {l : List α} {out : List β} :
    l.mapM f = .ok out ↔ l.length = out.length ∧
      ∀ i (h : i < l.length) (h' : i < out.length), f l[i] = .ok out[i] := by
  induction l generalizing out with
  | nil =>
    constructor
    · intro h
      obtain rfl : [] = out := Except.ok.inj h
      exact ⟨rfl, nofun⟩
    · rintro ⟨hlength, -⟩
      rw [List.length_eq_zero_iff.mp hlength.symm]
      rfl
  | cons a l ih =>
    constructor
    · intro h
      obtain ⟨b, bs, hb, hbs, rfl⟩ := except_mapM_cons_eq_ok.mp h
      obtain ⟨hlength, hall⟩ := ih.mp hbs
      refine ⟨congrArg (· + 1) hlength, fun i hi hi' => ?_⟩
      cases i with
      | zero => exact hb
      | succ i => exact hall i (Nat.lt_of_succ_lt_succ hi) (Nat.lt_of_succ_lt_succ hi')
    · rintro ⟨hlength, hall⟩
      cases out with
      | nil => cases hlength
      | cons b bs =>
        refine except_mapM_cons_eq_ok.mpr ⟨b, bs, hall 0 (Nat.succ_pos _) (Nat.succ_pos _),
          ih.mpr ⟨Nat.succ.inj hlength, fun i hi hi' => ?_⟩, rfl⟩
        exact hall (i + 1) (Nat.succ_lt_succ hi) (Nat.succ_lt_succ hi')

/-- A list is mapped by a function that succeeds under a condition where all of it meets that. -/
theorem except_mapM_eq_ok_map {f : α → Except ε β} {P : α → Prop} {g : α → β}
    (hf : ∀ a b, f a = .ok b ↔ P a ∧ b = g a) {l : List α} {out : List β} :
    l.mapM f = .ok out ↔ (∀ a ∈ l, P a) ∧ out = l.map g := by
  induction l generalizing out with
  | nil => exact ⟨fun h => ⟨nofun, (Except.ok.inj h).symm⟩, fun h => congrArg Except.ok h.2.symm⟩
  | cons a l ih =>
    rw [except_mapM_cons_eq_ok, List.forall_mem_cons, List.map_cons]
    constructor
    · rintro ⟨b, bs, hb, hbs, rfl⟩
      obtain ⟨ha, rfl⟩ := (hf a b).mp hb
      obtain ⟨hl, rfl⟩ := ih.mp hbs
      exact ⟨⟨ha, hl⟩, rfl⟩
    · rintro ⟨⟨ha, hl⟩, rfl⟩
      exact ⟨_, _, (hf a _).mpr ⟨ha, rfl⟩, ih.mpr ⟨hl, rfl⟩, rfl⟩

theorem bind_assoc {γ : Type} (x : Eff ε σ α) (f : α → Eff ε σ β) (g : β → Eff ε σ γ) :
    x >>= f >>= g = x >>= fun a => f a >>= g := by
  funext s
  show run (x >>= f >>= g) s = run (x >>= fun a => f a >>= g) s
  rw [run_bind, run_bind, run_bind]
  rcases run x s with ⟨_ | _, _⟩ <;> rfl

theorem bind_pure (x : Eff ε σ α) : (x >>= fun a => pure a) = x := by
  funext s
  show run (x >>= fun a => pure a) s = run x s
  rw [run_bind]
  rcases run x s with ⟨_ | _, _⟩ <;> rfl

theorem run_bind_lift (x : Eff ε σ α) (g : α → Except ε β) (s : σ) :
    run (x >>= fun a => lift (g a)) s = ((run x s).1.bind g, (run x s).2) := by
  rw [run_bind]
  cases run x s with
  | mk r s' =>
    cases r with
    | ok a => rfl
    | error e => rfl

/-- Nothing is made of a value. -/
theorem bind_lift_ok (x : Eff ε σ α) : (x >>= fun a => lift (.ok a)) = x := by
  funext s
  show run (x >>= fun a => lift (.ok a)) s = run x s
  rw [run_bind_lift]
  cases run x s with
  | mk r s' => cases r <;> rfl

@[simp] theorem run_ite (c : Prop) [Decidable c] (x y : Eff ε σ α) (s : σ) :
    run (if c then x else y) s = if c then run x s else run y s := by
  split <;> rfl

/-! ## One program follows another -/

/-- From related states `x` ends as `y` does and the last states are related, or `x` raises
one of the exceptions `E`. -/
def Tracks {τ : Type} (R : σ → τ → Prop) (E : ε → Prop) (x : Eff ε σ α) (y : Eff ε τ α) : Prop :=
  ∀ s t, R s t →
    ((run x s).1 = (run y t).1 ∧ R (run x s).2 (run y t).2) ∨ ∃ e, (run x s).1 = .error e ∧ E e

section Tracks

variable {τ : Type} {R : σ → τ → Prop} {E : ε → Prop}

theorem Tracks.pure (a : α) : Tracks R E (Pure.pure a : Eff ε σ α) (Pure.pure a) :=
  fun _ _ h => .inl ⟨rfl, h⟩

theorem Tracks.throw (e : ε) :
    Tracks R E (MonadExcept.throw e : Eff ε σ α) (MonadExcept.throw e) :=
  fun _ _ h => .inl ⟨rfl, h⟩

theorem Tracks.lift (r : Except ε α) : Tracks R E (Eff.lift r : Eff ε σ α) (Eff.lift r) :=
  fun _ _ h => .inl ⟨rfl, h⟩

theorem Tracks.bind {x : Eff ε σ α} {y : Eff ε τ α} {f : α → Eff ε σ β} {g : α → Eff ε τ β}
    (hx : Tracks R E x y) (hf : ∀ a, Tracks R E (f a) (g a)) :
    Tracks R E (x >>= f) (y >>= g) := by
  intro s t h
  rw [run_bind, run_bind]
  have hstep := hx s t h
  cases hxs : run x s with
  | mk r s' =>
    cases hyt : run y t with
    | mk q t' =>
      rw [hxs, hyt] at hstep
      cases hstep with
      | inl same =>
        obtain ⟨hr, hR⟩ := same
        have hr : r = q := hr
        subst hr
        cases r with
        | ok a => exact hf a s' t' hR
        | error e => exact .inl ⟨rfl, hR⟩
      | inr raised =>
        obtain ⟨e, he, hE⟩ := raised
        have he : r = .error e := he
        subst he
        exact .inr ⟨e, rfl, hE⟩

theorem Tracks.ite (c : Prop) [Decidable c] {x x' : Eff ε σ α} {y y' : Eff ε τ α}
    (hx : Tracks R E x y) (hx' : Tracks R E x' y') :
    Tracks R E (if c then x else x') (if c then y else y') := by
  split
  · exact hx
  · exact hx'

end Tracks

/-! ## Two programs in step -/

/-- Both return, and `Q` holds of what they return, or both raise the same. -/
inductive Alike {γ : Type} (Q : α → γ → Prop) : Except ε α → Except ε γ → Prop
  | ok {a : α} {c : γ} (h : Q a c) : Alike Q (.ok a) (.ok c)
  | error (e : ε) : Alike Q (.error e) (.error e)

theorem Alike.eq {r r' : Except ε α} (h : Alike Eq r r') : r = r' := by
  cases h with
  | ok h => rw [h]
  | error e => rfl

/-- From related states `x` and `y` end alike, and the last states are related. -/
def Matches {τ γ : Type} (R : σ → τ → Prop) (Q : α → γ → Prop) (x : Eff ε σ α) (y : Eff ε τ γ) :
    Prop :=
  ∀ s t, R s t → R (run x s).2 (run y t).2 ∧ Alike Q (run x s).1 (run y t).1

section Matches

variable {τ γ δ : Type} {R : σ → τ → Prop} {Q : α → γ → Prop}

theorem Matches.pure {a : α} {c : γ} (h : Q a c) :
    Matches R Q (Pure.pure a : Eff ε σ α) (Pure.pure c) :=
  fun _ _ hR => ⟨hR, .ok h⟩

theorem Matches.throw (e : ε) :
    Matches R Q (MonadExcept.throw e : Eff ε σ α) (MonadExcept.throw e) :=
  fun _ _ hR => ⟨hR, .error e⟩

theorem Matches.lift (r : Except ε α) : Matches R Eq (Eff.lift r : Eff ε σ α) (Eff.lift r) := by
  intro s t hR
  refine ⟨hR, ?_⟩
  cases r with
  | ok a => exact .ok rfl
  | error e => exact .error e

theorem Matches.update {f : σ → σ} {g : τ → τ} (h : ∀ s t, R s t → R (f s) (g t)) :
    Matches R Eq (Eff.update f : Eff ε σ Unit) (Eff.update g) :=
  fun s t hR => ⟨h s t hR, .ok rfl⟩

theorem Matches.bind {x : Eff ε σ α} {y : Eff ε τ γ} {f : α → Eff ε σ β} {g : γ → Eff ε τ δ}
    {P : β → δ → Prop} (hx : Matches R Q x y) (hf : ∀ a c, Q a c → Matches R P (f a) (g c)) :
    Matches R P (x >>= f) (y >>= g) := by
  intro s t hR
  obtain ⟨hR', halike⟩ := hx s t hR
  rw [run_bind, run_bind]
  cases hxs : run x s with
  | mk r s' =>
    cases hyt : run y t with
    | mk q t' =>
      rw [hxs, hyt] at hR' halike
      cases halike with
      | ok h => exact hf _ _ h s' t' hR'
      | error e => exact ⟨hR', .error e⟩

/-- Both look at their states. -/
theorem Matches.bind_state {f : σ → Eff ε σ β} {g : τ → Eff ε τ δ} {P : β → δ → Prop}
    (hf : ∀ s t, R s t → Matches R P (f s) (g t)) :
    Matches R P (Eff.state >>= f) (Eff.state >>= g) :=
  fun s t hR => hf s t hR s t hR

theorem Matches.tryCatch {x : Eff ε σ α} {y : Eff ε τ γ} {f : ε → Eff ε σ α} {g : ε → Eff ε τ γ}
    (hx : Matches R Q x y) (hf : ∀ e, Matches R Q (f e) (g e)) :
    Matches R Q (MonadExcept.tryCatch x f) (MonadExcept.tryCatch y g) := by
  intro s t hR
  obtain ⟨hR', halike⟩ := hx s t hR
  rw [run_tryCatch, run_tryCatch]
  cases hxs : run x s with
  | mk r s' =>
    cases hyt : run y t with
    | mk q t' =>
      rw [hxs, hyt] at hR' halike
      cases halike with
      | ok h => exact ⟨hR', .ok h⟩
      | error e => exact hf e s' t' hR'

theorem Matches.ite (c : Prop) [Decidable c] {x x' : Eff ε σ α} {y y' : Eff ε τ γ}
    (hx : Matches R Q x y) (hx' : Matches R Q x' y') :
    Matches R Q (if c then x else x') (if c then y else y') := by
  split
  · exact hx
  · exact hx'

end Matches

/-! ## Rules -/

/-- The run of `x` from `s` ends as `Q` says: `Q` sees the outcome and the last state. -/
def Sat (x : Eff ε σ α) (Q : Except ε α → σ → Prop) (s : σ) : Prop :=
  Q (run x s).1 (run x s).2

/-- Sequencing: the second program starts where the first returned. -/
theorem sat_bind (x : Eff ε σ α) (f : α → Eff ε σ β) (Q : Except ε β → σ → Prop) (s : σ) :
    Sat (x >>= f) Q s ↔
      Sat x (fun r s' => match r with
        | .ok a => Sat (f a) Q s'
        | .error e => Q (.error e) s') s := by
  unfold Sat
  rw [run_bind]
  rcases run x s with ⟨_ | _, _⟩ <;> rfl

/-- The rule of consequence. -/
theorem Sat.mono {x : Eff ε σ α} {Q Q' : Except ε α → σ → Prop} {s : σ}
    (h : Sat x Q s) (imp : ∀ r s', Q r s' → Q' r s') : Sat x Q' s :=
  imp _ _ h

/-! ## What a program raises -/

/-- Whatever `x` raises is an `E`. -/
def Throws (E : ε → Prop) (x : Eff ε σ α) : Prop :=
  ∀ s e, (run x s).1 = .error e → E e

section Throws

variable {E : ε → Prop}

theorem Throws.pure (a : α) : Throws E (Pure.pure a : Eff ε σ α) := fun _ _ h => nomatch h

theorem Throws.throw {e : ε} (h : E e) : Throws E (MonadExcept.throw e : Eff ε σ α) := by
  intro s e' he
  cases he
  exact h

theorem Throws.bind {x : Eff ε σ α} {f : α → Eff ε σ β} (hx : Throws E x)
    (hf : ∀ a, Throws E (f a)) : Throws E (x >>= f) := by
  intro s e he
  rw [run_bind] at he
  have hxs := hx s e
  cases hr : run x s with
  | mk r s' =>
    rw [hr] at he hxs
    cases r with
    | ok a => exact hf a s' e he
    | error e' =>
      cases he
      exact hxs rfl

theorem Throws.ite (c : Prop) [Decidable c] {x y : Eff ε σ α} (hx : Throws E x)
    (hy : Throws E y) : Throws E (if c then x else y) := by
  split
  · exact hx
  · exact hy

end Throws

/-- The same of a computation without a state. -/
def Raises (E : ε → Prop) (r : Except ε α) : Prop := ∀ e, r = .error e → E e

section Raises

variable {E : ε → Prop}

theorem Raises.ok (a : α) : Raises E (.ok a : Except ε α) := fun _ h => nomatch h

theorem Raises.error {e : ε} (h : E e) : Raises E (.error e : Except ε α) := by
  intro e' he
  obtain rfl := Except.error.inj he
  exact h

theorem Raises.mono {E' : ε → Prop} {r : Except ε α} (h : Raises E r) (imp : ∀ e, E e → E' e) :
    Raises E' r :=
  fun e he => imp e (h e he)

theorem Raises.bind {r : Except ε α} {f : α → Except ε β} (hr : Raises E r)
    (hf : ∀ a, Raises E (f a)) : Raises E (r >>= f) := by
  cases r with
  | ok a => exact hf a
  | error e => exact Raises.error (hr e rfl)

theorem Raises.map {r : Except ε α} (hr : Raises E r) (f : α → β) : Raises E (r.map f) := by
  cases r with
  | ok a => exact Raises.ok (f a)
  | error e => exact Raises.error (hr e rfl)

theorem Raises.ite (c : Prop) [Decidable c] {r q : Except ε α} (hr : Raises E r)
    (hq : Raises E q) : Raises E (if c then r else q) := by
  split
  · exact hr
  · exact hq

/-- Mapping a list raises what one of its elements raises. -/
theorem Raises.mapM {f : α → Except ε β} {l : List α} (h : ∀ a ∈ l, Raises E (f a)) :
    Raises E (l.mapM f) := by
  induction l with
  | nil => exact Raises.ok []
  | cons a l ih =>
    rw [List.mapM_cons]
    have htail := ih fun b hb => h b (List.mem_cons_of_mem a hb)
    exact Raises.bind (h a List.mem_cons_self) fun _ => Raises.bind htail fun _ => Raises.ok _

/-- So does folding over it. -/
theorem Raises.foldlM {γ : Type} {f : γ → α → Except ε γ} {l : List α}
    (h : ∀ c, ∀ a ∈ l, Raises E (f c a)) (c : γ) : Raises E (l.foldlM f c) := by
  induction l generalizing c with
  | nil => exact Raises.ok c
  | cons a l ih =>
    rw [List.foldlM_cons]
    exact Raises.bind (h c a List.mem_cons_self)
      (ih fun d b hb => h d b (List.mem_cons_of_mem a hb))

end Raises

/-! ## What a program returns -/

/-- Whatever `x` returns is a `Q`. -/
def Yields (Q : α → Prop) (x : Eff ε σ α) : Prop :=
  ∀ s a, (run x s).1 = .ok a → Q a

section Yields

variable {Q : β → Prop}

theorem Yields.pure {b : β} (h : Q b) : Yields Q (Pure.pure b : Eff ε σ β) := by
  intro s b' hb
  cases hb
  exact h

theorem Yields.lift {r : Except ε β} (h : ∀ b, r = .ok b → Q b) :
    Yields Q (Eff.lift r : Eff ε σ β) :=
  fun _ b hb => h b hb

/-- Only the last program of a sequence returns. -/
theorem Yields.bind {x : Eff ε σ α} {f : α → Eff ε σ β} (hf : ∀ a, Yields Q (f a)) :
    Yields Q (x >>= f) := by
  intro s b hb
  rw [run_bind] at hb
  cases hr : run x s with
  | mk r s' =>
    rw [hr] at hb
    cases r with
    | ok a => exact hf a s' b hb
    | error e => cases hb

end Yields

/-! ## When a program returns -/

/-- The runs on which `x` returns are those of `C`, as seen on the part `get` of the state. -/
def EndsAs {τ : Type} (get : σ → τ) (x : Eff ε σ α) (C : τ → α → τ → Prop) : Prop :=
  ∀ s a t, (∃ s', run x s = (.ok a, s') ∧ get s' = t) ↔ C (get s) a t

/-- The states from which `x` returns a `Q` are those of `D`, on the same part. -/
def ReturnsWhen {τ : Type} (get : σ → τ) (Q : α → Prop) (x : Eff ε σ α) (D : τ → Prop) : Prop :=
  ∀ s, (∃ a, (run x s).1 = .ok a ∧ Q a) ↔ D (get s)

section ReturnsWhen

variable {τ : Type} {get : σ → τ} {Q : β → Prop}

theorem EndsAs.congr {x : Eff ε σ α} {C C' : τ → α → τ → Prop} (h : EndsAs get x C)
    (hC : ∀ t a t', C t a t' ↔ C' t a t') : EndsAs get x C' :=
  fun s a t => (h s a t).trans (hC (get s) a t)

theorem EndsAs.pure (a : α) :
    EndsAs get (Pure.pure a : Eff ε σ α) fun t b t' => b = a ∧ t' = t := by
  intro s b t
  constructor
  · rintro ⟨s', hs, rfl⟩
    cases hs
    exact ⟨rfl, rfl⟩
  · rintro ⟨rfl, rfl⟩
    exact ⟨s, rfl, rfl⟩

/-- One program returns and then the other does. -/
theorem EndsAs.bind {x : Eff ε σ α} {f : α → Eff ε σ β} {C : τ → α → τ → Prop}
    {D : α → τ → β → τ → Prop} (hx : EndsAs get x C) (hf : ∀ a, EndsAs get (f a) (D a)) :
    EndsAs get (x >>= f) fun t b t' => ∃ a t₁, C t a t₁ ∧ D a t₁ b t' := by
  intro s b t
  constructor
  · rintro ⟨s'', hs, rfl⟩
    obtain ⟨a, s', hfirst, hrest⟩ := run_bind_eq_ok hs
    exact ⟨a, get s', (hx s a _).mp ⟨s', hfirst, rfl⟩, (hf a s' b _).mp ⟨s'', hrest, rfl⟩⟩
  · rintro ⟨a, t₁, hC, hD⟩
    obtain ⟨s', hfirst, rfl⟩ := (hx s a t₁).mpr hC
    obtain ⟨s'', hrest, rfl⟩ := (hf a s' b t).mpr hD
    exact ⟨s'', by rw [run_bind_ok hfirst, hrest], rfl⟩

theorem EndsAs.bind_lift {r : Except ε α} {f : α → Eff ε σ β} {D : α → τ → β → τ → Prop}
    (hf : ∀ a, EndsAs get (f a) (D a)) :
    EndsAs get (lift r >>= f) fun t b t' => ∃ a, r = .ok a ∧ D a t b t' := by
  intro s b t
  cases r with
  | error e => exact ⟨fun ⟨_, h, _⟩ => (nomatch h), fun ⟨_, h, _⟩ => (nomatch h)⟩
  | ok a =>
    have hrun : run (lift (.ok a) >>= f) s = run (f a) s := run_bind_ok (run_lift _ _)
    rw [hrun, hf a s b t]
    refine ⟨fun h => ⟨a, rfl, h⟩, ?_⟩
    rintro ⟨a', ha, h⟩
    obtain rfl := Except.ok.inj ha
    exact h

theorem EndsAs.lift (r : Except ε α) :
    EndsAs get (Eff.lift r : Eff ε σ α) fun t a t' => r = .ok a ∧ t' = t := by
  intro s a t
  constructor
  · rintro ⟨s', hs, rfl⟩
    obtain ⟨hr, rfl⟩ := Prod.mk.inj hs
    exact ⟨hr, rfl⟩
  · rintro ⟨rfl, rfl⟩
    exact ⟨s, rfl, rfl⟩

/-- A check lets through where it does not raise. -/
theorem EndsAs.guard (c : Prop) [Decidable c] (e : ε) :
    EndsAs get (if c then throw e else Pure.pure () : Eff ε σ Unit) fun t _ t' => ¬c ∧ t' = t := by
  intro s u t
  by_cases h : c
  · rw [if_pos h]
    constructor
    · rintro ⟨s', hs, -⟩
      cases hs
    · rintro ⟨hnot, -⟩
      exact absurd h hnot
  · rw [if_neg h]
    constructor
    · rintro ⟨s', hs, rfl⟩
      cases hs
      exact ⟨h, rfl⟩
    · rintro ⟨-, rfl⟩
      exact ⟨s, rfl, rfl⟩

/-- What follows a program on a part of the state returns as that program does. -/
theorem EndsAs.of_tracks {x : Eff ε σ α} {y : Eff ε τ α} {C : τ → α → τ → Prop}
    (h : Tracks (fun s t => get s = t) (fun _ => False) x y) (hy : EndsAs id y C) :
    EndsAs get x C := by
  intro s a t
  rw [← show _ ↔ C (get s) a t from hy (get s) a t]
  rcases h s (get s) rfl with ⟨hresult, hstate⟩ | ⟨_, -, hfalse⟩
  · constructor
    · rintro ⟨s', hrun, rfl⟩
      rw [hrun] at hresult hstate
      exact ⟨get s', Prod.ext hresult.symm hstate.symm, rfl⟩
    · rintro ⟨t', hrun, rfl⟩
      rw [hrun] at hresult hstate
      exact ⟨_, Prod.ext hresult rfl, hstate⟩
  · exact hfalse.elim

theorem ReturnsWhen.congr {x : Eff ε σ β} {D D' : τ → Prop} (h : ReturnsWhen get Q x D)
    (hD : ∀ t, D t ↔ D' t) : ReturnsWhen get Q x D' :=
  fun s => (h s).trans (hD (get s))

theorem ReturnsWhen.pure {b : β} (h : Q b) :
    ReturnsWhen get Q (Pure.pure b : Eff ε σ β) fun _ => True :=
  fun _ => ⟨fun _ => trivial, fun _ => ⟨b, rfl, h⟩⟩

theorem ReturnsWhen.lift {r : Except ε β} {P : Prop} (h : (∃ b, r = .ok b ∧ Q b) ↔ P) :
    ReturnsWhen get Q (Eff.lift r : Eff ε σ β) fun _ => P :=
  fun _ => h

theorem ReturnsWhen.bind {x : Eff ε σ α} {f : α → Eff ε σ β} {C : τ → α → τ → Prop}
    {D : α → τ → Prop} (hx : EndsAs get x C) (hf : ∀ a, ReturnsWhen get Q (f a) (D a)) :
    ReturnsWhen get Q (x >>= f) fun t => ∃ a t', C t a t' ∧ D a t' := by
  intro s
  constructor
  · rintro ⟨b, hb, hQ⟩
    have hall : run (x >>= f) s = (.ok b, (run (x >>= f) s).2) := Prod.ext hb rfl
    obtain ⟨a, s', hfirst, hrest⟩ := run_bind_eq_ok hall
    exact ⟨a, get s', (hx s a _).mp ⟨s', hfirst, rfl⟩, (hf a s').mp ⟨b, by rw [hrest], hQ⟩⟩
  · rintro ⟨a, t', hC, hD⟩
    obtain ⟨s', hfirst, rfl⟩ := (hx s a t').mpr hC
    rw [run_bind_ok hfirst]
    exact (hf a s').mpr hD

theorem ReturnsWhen.bind_lift {r : Except ε α} {f : α → Eff ε σ β} {D : α → τ → Prop}
    (hf : ∀ a, ReturnsWhen get Q (f a) (D a)) :
    ReturnsWhen get Q (Eff.lift r >>= f) fun t => ∃ a, r = .ok a ∧ D a t := by
  intro s
  cases r with
  | error e => exact ⟨fun ⟨_, h, _⟩ => (nomatch h), fun ⟨_, h, _⟩ => (nomatch h)⟩
  | ok a =>
    rw [run_bind_ok (run_lift _ _), hf a s]
    refine ⟨fun h => ⟨a, rfl, h⟩, ?_⟩
    rintro ⟨a', ha, h⟩
    obtain rfl := Except.ok.inj ha
    exact h

theorem ReturnsWhen.ite (c : Prop) [Decidable c] {x y : Eff ε σ β} {D D' : τ → Prop}
    (hx : ReturnsWhen get Q x D) (hy : ReturnsWhen get Q y D') :
    ReturnsWhen get Q (if c then x else y) fun t => if c then D t else D' t := by
  split
  · exact hx
  · exact hy

end ReturnsWhen

/-! ## Relations kept from the first state to the last -/

/-- Every run of `x` relates its first state to its last, however it ends. -/
def Keeps (R : σ → σ → Prop) (x : Eff ε σ α) : Prop :=
  ∀ s, R s (run x s).2

section Keeps

variable {R : σ → σ → Prop}

theorem Keeps.pure (refl : ∀ s, R s s) (a : α) : Keeps R (Pure.pure a : Eff ε σ α) :=
  fun s => refl s

theorem Keeps.throw (refl : ∀ s, R s s) (e : ε) :
    Keeps R (MonadExcept.throw e : Eff ε σ α) :=
  fun s => refl s

theorem Keeps.state (refl : ∀ s, R s s) : Keeps R (Eff.state : Eff ε σ σ) :=
  fun s => refl s

theorem Keeps.lift (refl : ∀ s, R s s) (r : Except ε α) : Keeps R (Eff.lift r : Eff ε σ α) :=
  fun s => refl s

theorem Keeps.update {f : σ → σ} (h : ∀ s, R s (f s)) :
    Keeps R (Eff.update f : Eff ε σ Unit) :=
  fun s => h s

theorem Keeps.bind (trans : ∀ a b c, R a b → R b c → R a c) {x : Eff ε σ α}
    {f : α → Eff ε σ β} (hx : Keeps R x) (hf : ∀ a, Keeps R (f a)) : Keeps R (x >>= f) := by
  intro s
  have h := hx s
  rw [run_bind]
  rcases hr : run x s with ⟨r, s'⟩
  rw [hr] at h
  cases r with
  | ok a => exact trans _ _ _ h (hf a s')
  | error e => exact h

/-- Sequencing when the second program keeps the relation on what the first returns. -/
theorem Keeps.bind_of (trans : ∀ a b c, R a b → R b c → R a c) {x : Eff ε σ α}
    {f : α → Eff ε σ β} (hx : Keeps R x) (hf : ∀ s a, (run x s).1 = .ok a → Keeps R (f a)) :
    Keeps R (x >>= f) := by
  intro s
  have h := hx s
  rw [run_bind]
  cases hr : run x s with
  | mk r s' =>
    rw [hr] at h
    cases r with
    | ok a => exact trans _ _ _ h (hf s a (by rw [hr]) s')
    | error e => exact h

theorem Keeps.tryCatch (trans : ∀ a b c, R a b → R b c → R a c) {x : Eff ε σ α}
    {h : ε → Eff ε σ α} (hx : Keeps R x) (hh : ∀ e, Keeps R (h e)) :
    Keeps R (MonadExcept.tryCatch x h) := by
  intro s
  have hs := hx s
  rw [run_tryCatch]
  rcases hr : run x s with ⟨r, s'⟩
  rw [hr] at hs
  cases r with
  | ok a => exact hs
  | error e => exact trans _ _ _ hs (hh e s')

theorem Keeps.andFinally (trans : ∀ a b c, R a b → R b c → R a c) {x : Eff ε σ α}
    {c : Eff ε σ Unit} (hx : Keeps R x) (hc : Keeps R c) : Keeps R (andFinally x c) := by
  intro s
  have hs := hx s
  rw [run_andFinally]
  rcases hr : run x s with ⟨r, s'⟩
  rw [hr] at hs
  have hs' := trans _ _ _ hs (hc s')
  rcases hc' : run c s' with ⟨rc, s''⟩
  rw [hc'] at hs'
  simp only [hc']
  cases rc with
  | ok _ => exact hs'
  | error _ => exact hs'

/-- Sequencing when the second program keeps a relation of its own. -/
theorem Keeps.andThen {S T : σ → σ → Prop} (seq : ∀ a b c, R a b → S b c → T a c)
    (stop : ∀ a b, R a b → T a b) {x : Eff ε σ α} {f : α → Eff ε σ β} (hx : Keeps R x)
    (hf : ∀ a, Keeps S (f a)) : Keeps T (x >>= f) := by
  intro s
  have h := hx s
  rw [run_bind]
  cases hr : run x s with
  | mk r s' =>
    rw [hr] at h
    cases r with
    | ok a => exact seq _ _ _ h (hf a s')
    | error e => exact stop _ _ h

theorem Keeps.ite (c : Prop) [Decidable c] {x y : Eff ε σ α} (hx : Keeps R x)
    (hy : Keeps R y) : Keeps R (if c then x else y) := by
  split
  · exact hx
  · exact hy

/-- Sequencing after a program of which only the relation it keeps is known. -/
theorem Keeps.sat_bind {x : Eff ε σ α} {f : α → Eff ε σ β} {Q : Except ε β → σ → Prop} {s : σ}
    (hx : Keeps R x) (hok : ∀ a s', R s s' → Sat (f a) Q s')
    (herr : ∀ e s', R s s' → Q (.error e) s') : Sat (x >>= f) Q s := by
  rw [Eff.sat_bind]
  have h := hx s
  unfold Sat
  rcases hr : run x s with ⟨_ | a, s'⟩
  · rw [hr] at h
    exact herr _ s' h
  · rw [hr] at h
    exact hok a s' h

end Keeps

end Eff

end SapRfc.Library
