import Mathlib.Data.List.Rotate
import SapRfc.Library.Slots

/-!
# The queue of a condition variable

Callers wait for something there is room for.  A notification takes one of them out of the
queue and makes it a credit: somebody who is on the way to the room.  `Met` says that as long
as anybody waits there is a credit for everything that there is room for.
-/

set_option autoImplicit false

namespace SapRfc.Library

open Finset

variable {ι P : Type} [Fintype ι] {waits : P → Prop} {credit : P → ℕ}

/-- The queue holds those who wait, each once, and the room is met by credits. -/
structure Met (waits : P → Prop) (credit : P → ℕ) (room : ℕ) (waiters : List ι) (place : ι → P) :
    Prop where
  nodup : waiters.Nodup
  mem : ∀ i, i ∈ waiters ↔ waits (place i)
  met : waiters ≠ [] → room ≤ ∑ i, credit (place i)

namespace Met

variable {room r : ℕ} {waiters : List ι} {place : ι → P}

/-- Nobody waits. -/
theorem of_empty (h : Met waits credit room [] place) :
    Met waits credit r ([] : List ι) place :=
  ⟨h.nodup, h.mem, fun hne => absurd rfl hne⟩

variable [DecidableEq ι]

/-- INTERNAL: one who does not wait goes on, and the queue is the same. -/
theorem mem_goto (h : Met waits credit room waiters place) {i : ι} {q : P}
    (hi : ¬ waits (place i)) (hnext : ¬ waits q) (j : ι) :
    j ∈ waiters ↔ waits (Function.update place i q j) := by
  by_cases hj : j = i
  · subst hj
    rw [Function.update_self, h.mem]
    exact ⟨fun hwait => absurd hwait hi, fun hwait => absurd hwait hnext⟩
  · rw [Function.update_of_ne hj]
    exact h.mem j

/-- One who does not wait goes on, and the room and his credit change. -/
theorem goto (h : Met waits credit room waiters place) {i : ι} {q : P}
    (hi : ¬ waits (place i)) (hnext : ¬ waits q)
    (hroom : r + credit (place i) ≤ room + credit q) :
    Met waits credit r waiters (Function.update place i q) := by
  refine ⟨h.nodup, h.mem_goto hi hnext, fun hw => ?_⟩
  have hmet := h.met hw
  have hcredit := sum_update place credit i q
  omega

/-- One who does not wait goes on, and there is no room. -/
theorem goto_full (h : Met waits credit room waiters place) {i : ι} {q : P}
    (hi : ¬ waits (place i)) (hnext : ¬ waits q) :
    Met waits credit 0 waiters (Function.update place i q) :=
  ⟨h.nodup, h.mem_goto hi hnext, fun _ => Nat.zero_le _⟩

/-- One joins the queue: there is no room. -/
theorem wait (h : Met waits credit room waiters place) {i : ι} {q : P}
    (hi : ¬ waits (place i)) (hnext : waits q) (hroom : r = 0) :
    Met waits credit r (waiters ++ [i]) (Function.update place i q) := by
  have hnot : i ∉ waiters := fun hmem => hi ((h.mem i).mp hmem)
  constructor
  · refine List.nodup_append.mpr ⟨h.nodup, List.nodup_singleton i, ?_⟩
    intro j hj l hl
    rw [List.mem_singleton] at hl
    rintro rfl
    rw [hl] at hj
    exact hnot hj
  · intro j
    rw [List.mem_append, List.mem_singleton]
    by_cases hj : j = i
    · subst hj
      rw [Function.update_self]
      exact ⟨fun _ => hnext, fun _ => .inr rfl⟩
    · rw [Function.update_of_ne hj, ← h.mem]
      exact ⟨fun hor => hor.resolve_right hj, .inl⟩
  · intro _
    omega

/-- One leaves the queue without a notification. -/
theorem leave (h : Met waits credit room waiters place) {i : ι} {q : P}
    (hi : waits (place i)) (hnext : ¬ waits q) (hcredit : credit (place i) ≤ credit q) :
    Met waits credit room (waiters.erase i) (Function.update place i q) := by
  constructor
  · exact h.nodup.erase i
  · intro j
    rw [h.nodup.mem_erase_iff]
    by_cases hj : j = i
    · subst hj
      rw [Function.update_self]
      exact ⟨fun hboth => absurd rfl hboth.1, fun hwait => absurd hwait hnext⟩
    · rw [Function.update_of_ne hj, ← h.mem]
      exact ⟨fun hboth => hboth.2, fun hmem => ⟨hj, hmem⟩⟩
  · intro hw
    have hne : waiters ≠ [] := by
      rintro rfl
      exact hw rfl
    have hmet := h.met hne
    have hsum := sum_update place credit i q
    omega

/-- One of those who wait is notified, and is the credit for one more. -/
theorem notify (h : Met waits credit room waiters place) {pick : ℕ} {j : ι} {rest : List ι}
    {q : P} (hpick : waiters.rotate pick = j :: rest) (hnext : ¬ waits q)
    (hroom : r + credit (place j) ≤ room + credit q) :
    Met waits credit r rest (Function.update place j q) := by
  have hnodup : (j :: rest).Nodup := by
    rw [← hpick]
    exact List.nodup_rotate.mpr h.nodup
  have hmem : ∀ i, i ∈ waiters ↔ i = j ∨ i ∈ rest := by
    intro i
    rw [← List.mem_cons, ← hpick, List.mem_rotate]
  obtain ⟨hnot, hrest⟩ := List.nodup_cons.mp hnodup
  constructor
  · exact hrest
  · intro i
    by_cases hi : i = j
    · subst hi
      rw [Function.update_self]
      exact ⟨fun hin => absurd hin hnot, fun hwait => absurd hwait hnext⟩
    · rw [Function.update_of_ne hi, ← h.mem, hmem]
      exact ⟨.inr, fun hor => hor.resolve_left hi⟩
  · intro _
    have hne : waiters ≠ [] := by
      intro hnil
      rw [hnil] at hpick
      simp at hpick
    have hmet := h.met hne
    have hsum := sum_update place credit j q
    omega

/-- Everybody is notified. -/
theorem notify_all (h : Met waits credit room waiters place) {q : P} (hnext : ¬ waits q) :
    Met waits credit r ([] : List ι) (fun i => if i ∈ waiters then q else place i) := by
  constructor
  · exact List.nodup_nil
  · intro i
    by_cases hi : i ∈ waiters
    · rw [if_pos hi]
      exact ⟨nofun, fun hwait => absurd hwait hnext⟩
    · rw [if_neg hi, ← h.mem]
      exact ⟨nofun, fun hin => absurd hin hi⟩
  · exact fun hne => absurd rfl hne

end Met

end SapRfc.Library
