import Mathlib.Data.Nat.Notation
import Mathlib.Tactic.Common

/-!
# Loops with a counter

A loop that goes on until its body says that it is done is written with a counter of its turns.
Where each turn that goes on lowers a measure, a counter above the measure does not run out, and
the loop is one turn and the loop behind it.
-/

set_option autoImplicit false

namespace SapRfc.Library.CountedLoops

variable {ε σ : Type} {turn : σ → Except ε (Bool × σ)} {measure : σ → ℕ}

/-- At most so many turns, each of which says whether there is another. -/
def counted (turn : σ → Except ε (Bool × σ)) : ℕ → σ → Except ε σ
  | 0, s => .ok s
  | n + 1, s => do
    let (more, s) ← turn s
    if more then counted turn n s else .ok s

/-- A turn that goes on lowers the measure. -/
def Lowers (turn : σ → Except ε (Bool × σ)) (measure : σ → ℕ) : Prop :=
  ∀ s s', turn s = .ok (true, s') → measure s' < measure s

/-- One turn of a loop, and the others. -/
theorem counted_succ (turn : σ → Except ε (Bool × σ)) (n : ℕ) (s : σ) :
    counted turn (n + 1) s = (turn s >>= fun r => if r.1 then counted turn n r.2 else .ok r.2) :=
  rfl

/-- INTERNAL: turns that are continued alike. -/
theorem bind_congr {f g : Bool × σ → Except ε σ} {s : σ}
    (h : ∀ r, turn s = .ok r → f r = g r) : (turn s >>= f) = (turn s >>= g) := by
  cases hturn : turn s with
  | error e => rfl
  | ok r => exact h r hturn

/-- A turn that goes on keeps the invariant, and lowers the measure. -/
def LowersOn (P : σ → Prop) (turn : σ → Except ε (Bool × σ)) (measure : σ → ℕ) : Prop :=
  ∀ s s', P s → turn s = .ok (true, s') → P s' ∧ measure s' < measure s

/-- A counter above the measure does not run out, from where the invariant holds. -/
theorem LowersOn.counted_congr {P : σ → Prop} (h : LowersOn P turn measure) {n m : ℕ} {s : σ}
    (hs : P s) (hn : measure s < n) (hm : measure s < m) :
    counted turn n s = counted turn m s := by
  induction n generalizing m s with
  | zero => cases hn
  | succ n ih =>
    cases m with
    | zero => cases hm
    | succ m =>
      rw [counted_succ, counted_succ]
      refine bind_congr fun r hturn => ?_
      obtain ⟨more, s'⟩ := r
      cases more with
      | false => rfl
      | true =>
        obtain ⟨hs', hlower⟩ := h s s' hs hturn
        exact ih hs' (Nat.lt_of_lt_of_le hlower (Nat.le_of_lt_succ hn))
          (Nat.lt_of_lt_of_le hlower (Nat.le_of_lt_succ hm))

/-- The loop fails with what a turn fails with. -/
theorem LowersOn.counted_error {P : σ → Prop} {E : ε → Prop} (h : LowersOn P turn measure)
    (hfail : ∀ s e, P s → turn s = .error e → E e) {n : ℕ} {s : σ} {e : ε} (hs : P s)
    (herror : counted turn n s = .error e) : E e := by
  induction n generalizing s with
  | zero => cases herror
  | succ n ih =>
    rw [counted_succ] at herror
    cases hturn : turn s with
    | error e' =>
      rw [hturn] at herror
      cases herror
      exact hfail s e hs hturn
    | ok r =>
      obtain ⟨more, s'⟩ := r
      rw [hturn] at herror
      cases more with
      | false => cases herror
      | true => exact ih (h s s' hs hturn).1 herror

/-- A counter above the measure does not run out. -/
theorem counted_congr (h : Lowers turn measure) {n m : ℕ} {s : σ} (hn : measure s < n)
    (hm : measure s < m) : counted turn n s = counted turn m s :=
  LowersOn.counted_congr (P := fun _ => True) (fun s s' _ hturn => ⟨trivial, h s s' hturn⟩) trivial
    hn hm

/-- With its counter the loop is one turn and the loop behind it. -/
theorem counted_eq (h : Lowers turn measure) (s : σ) :
    counted turn (measure s + 1) s =
      (turn s >>= fun r => if r.1 then counted turn (measure r.2 + 1) r.2 else .ok r.2) := by
  rw [counted_succ]
  refine bind_congr fun r hturn => ?_
  obtain ⟨more, s'⟩ := r
  cases more with
  | false => rfl
  | true => exact counted_congr h (h s s' hturn) (Nat.lt_succ_self _)

end SapRfc.Library.CountedLoops
