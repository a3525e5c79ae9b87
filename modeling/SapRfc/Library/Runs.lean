import Mathlib.Tactic.Common

/-!
# Runs of a machine

A machine answers one input at a time and moves on: `f i s` is the answer to `i` in `s`
and the state after it.  `trace` lists what it did with a list of inputs.  An invariant
of such a run may speak of everything done so far, and `trace_invariant` is its induction.
Two machines that a relation ties together answer a list of inputs alike exactly when each
input is one they answer alike (`answers_eq_iff`).
-/

set_option autoImplicit false

namespace SapRfc.Library

/-- One step of a machine. -/
structure Step (σ ι ο : Type) where
  before : σ
  input : ι
  output : ο
  after : σ

namespace Run

variable {σ ι ο : Type} (f : ι → σ → ο × σ)

/-- The machine on one input. -/
def stepOf (i : ι) (s : σ) : Step σ ι ο where
  before := s
  input := i
  output := (f i s).1
  after := (f i s).2

/-- The machine on the inputs, one behind the other. -/
def trace : List ι → σ → List (Step σ ι ο)
  | [], _ => []
  | i :: rest, s => stepOf f i s :: trace rest (stepOf f i s).after

variable {f}

theorem eq_stepOf_of_mem {inputs : List ι} {s : σ} {x : Step σ ι ο} (h : x ∈ trace f inputs s) :
    x = stepOf f x.input x.before := by
  induction inputs generalizing s with
  | nil => cases h
  | cons i rest ih =>
    cases h with
    | head => rfl
    | tail _ hrest => exact ih hrest

theorem input_mem_of_mem {inputs : List ι} {s : σ} {x : Step σ ι ο}
    (h : x ∈ trace f inputs s) : x.input ∈ inputs := by
  induction inputs generalizing s with
  | nil => cases h
  | cons i rest ih =>
    cases h with
    | head => exact List.mem_cons_self
    | tail _ hrest => exact List.mem_cons_of_mem _ (ih hrest)

/-- INTERNAL: the induction, with what was done before the run. -/
theorem trace_invariant_from {I : List (Step σ ι ο) → σ → Prop} {P : Step σ ι ο → Prop}
    (step : ∀ done s i, I done s → P (stepOf f i s) →
      I (done ++ [stepOf f i s]) (stepOf f i s).after) :
    ∀ {inputs : List ι} {done : List (Step σ ι ο)} {s : σ}, I done s →
      (∀ x ∈ trace f inputs s, P x) → ∀ {k : ℕ} {x : Step σ ι ο}, (trace f inputs s)[k]? = some x →
        I (done ++ (trace f inputs s).take k) x.before ∧
          I (done ++ (trace f inputs s).take (k + 1)) x.after
  | [], _, _, _, _, _, _, h => by cases h
  | i :: rest, done, s, hI, hP, k, x, h => by
    have hfirst := step done s i hI (hP _ List.mem_cons_self)
    cases k with
    | zero =>
      obtain rfl : stepOf f i s = x := Option.some.inj h
      refine ⟨?_, hfirst⟩
      rw [List.take_zero, List.append_nil]
      exact hI
    | succ k =>
      have hrest := trace_invariant_from step hfirst (fun y hy => hP y (List.mem_cons_of_mem _ hy))
        (show (trace f rest (stepOf f i s).after)[k]? = some x from h)
      rw [List.append_assoc, List.append_assoc] at hrest
      exact hrest

/-- An invariant of what was done so far and the state it led to.  Each step is made where it
holds, and it holds again behind the step. -/
theorem trace_invariant {I : List (Step σ ι ο) → σ → Prop} {P : Step σ ι ο → Prop}
    (step : ∀ done s i, I done s → P (stepOf f i s) →
      I (done ++ [stepOf f i s]) (stepOf f i s).after)
    {inputs : List ι} {s : σ} (init : I [] s) (hP : ∀ x ∈ trace f inputs s, P x) {k : ℕ}
    {x : Step σ ι ο} (h : (trace f inputs s)[k]? = some x) :
    I ((trace f inputs s).take k) x.before ∧ I ((trace f inputs s).take (k + 1)) x.after :=
  trace_invariant_from step init hP h

/-- The invariant at the end of the run. -/
theorem trace_invariant_end {I : List (Step σ ι ο) → σ → Prop} {P : Step σ ι ο → Prop}
    (step : ∀ done s i, I done s → P (stepOf f i s) →
      I (done ++ [stepOf f i s]) (stepOf f i s).after)
    {inputs : List ι} {s : σ} (init : I [] s) (hP : ∀ x ∈ trace f inputs s, P x) :
    ∃ s', I (trace f inputs s) s' := by
  cases hlen : (trace f inputs s).length with
  | zero =>
    rw [List.length_eq_zero_iff.mp hlen]
    exact ⟨s, init⟩
  | succ k =>
    have hlt : k < (trace f inputs s).length := by omega
    have hlast := (trace_invariant step init hP (List.getElem?_eq_getElem hlt)).2
    rw [List.take_of_length_le (Nat.le_of_eq hlen)] at hlast
    exact ⟨_, hlast⟩

/-! ## Two machines -/

section Two

variable {τ : Type} (f : ι → σ → ο × σ) (g : ι → τ → ο × τ)

/-- What a machine answers to the inputs. -/
def answers (inputs : List ι) (s : σ) : List ο := (trace f inputs s).map Step.output

variable {f g} {R : List ι → σ → τ → Prop} {Fine : List ι → ι → Prop}

/-- INTERNAL: the induction, with what was asked before. -/
theorem answers_eq_iff_from
    (output : ∀ done s t i, R done s t → ((f i s).1 = (g i t).1 ↔ Fine done i))
    (step : ∀ done s t i, R done s t → Fine done i → R (done ++ [i]) (f i s).2 (g i t).2)
    (inputs : List ι) : ∀ (done : List ι) (s : σ) (t : τ), R done s t →
      (answers f inputs s = answers g inputs t ↔
        ∀ before i after, inputs = before ++ i :: after → Fine (done ++ before) i) := by
  induction inputs with
  | nil =>
    intro done s t _
    refine ⟨fun _ before i after h => ?_, fun _ => rfl⟩
    cases before <;> cases h
  | cons i rest ih =>
    intro done s t hR
    have hhead := output done s t i hR
    have hcons : answers f (i :: rest) s = answers g (i :: rest) t ↔
        (f i s).1 = (g i t).1 ∧ answers f rest (f i s).2 = answers g rest (g i t).2 :=
      List.cons.injEq _ _ _ _ ▸ Iff.rfl
    rw [hcons, hhead]
    constructor
    · rintro ⟨hfine, hrest⟩ before j after h
      have htail := (ih (done ++ [i]) _ _ (step done s t i hR hfine)).mp hrest
      cases before with
      | nil =>
        obtain ⟨rfl, rfl⟩ := List.cons.inj h
        rw [List.append_nil]
        exact hfine
      | cons k before =>
        obtain ⟨rfl, hafter⟩ := List.cons.inj h
        have hj := htail before j after hafter
        rw [List.append_assoc] at hj
        exact hj
    · intro h
      have hfine : Fine done i := by
        have hfirst := h [] i rest rfl
        rw [List.append_nil] at hfirst
        exact hfirst
      refine ⟨hfine, (ih (done ++ [i]) _ _ (step done s t i hR hfine)).mpr ?_⟩
      intro before j after hafter
      rw [List.append_assoc]
      exact h (i :: before) j after (congrArg (i :: ·) hafter)

/-- Two machines answer a list of inputs alike exactly when every input finds them where they
answer it alike. -/
theorem answers_eq_iff
    (output : ∀ done s t i, R done s t → ((f i s).1 = (g i t).1 ↔ Fine done i))
    (step : ∀ done s t i, R done s t → Fine done i → R (done ++ [i]) (f i s).2 (g i t).2)
    {s : σ} {t : τ} (init : R [] s t) (inputs : List ι) :
    answers f inputs s = answers g inputs t ↔
      ∀ before i after, inputs = before ++ i :: after → Fine before i :=
  answers_eq_iff_from output step inputs [] s t init

end Two

end Run

end SapRfc.Library
