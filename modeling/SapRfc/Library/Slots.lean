import Mathlib.Algebra.BigOperators.Fin
import Mathlib.Algebra.Order.BigOperators.Group.Finset
import Mathlib.Data.Fintype.BigOperators
import Mathlib.Tactic.Common

/-!
# Slots of a bounded pool

A pool lends resources and counts the slots it has created.  A slot is an idle resource or in
the hand of a task: reserved for a resource that is on its way, with a resource that is not
lent yet, or lent.  `Sound` is the balance of these, `Moves` is what a task may do to it, and
every move keeps it.
-/

set_option autoImplicit false

namespace SapRfc.Library

open Finset

variable {ι C : Type}

/-- What a task has in its hand. -/
inductive Grip (C : Type) where
  | nothing
  /-- a slot, and no resource -/
  | reserved
  /-- a slot, and a resource that is not lent -/
  | fresh (c : C)
  /-- a slot, and a resource that is lent -/
  | lent (c : C)
  /-- a resource without a slot -/
  | extra (c : C)

namespace Grip

def slots : Grip C → ℕ
  | nothing => 0
  | reserved => 1
  | fresh _ => 1
  | lent _ => 1
  | extra _ => 0

variable [DecidableEq C]

def holds (c : C) : Grip C → ℕ
  | nothing => 0
  | reserved => 0
  | fresh d => if d = c then 1 else 0
  | lent d => if d = c then 1 else 0
  | extra d => if d = c then 1 else 0

def lends (c : C) : Grip C → ℕ
  | nothing => 0
  | reserved => 0
  | fresh _ => 0
  | lent d => if d = c then 1 else 0
  | extra _ => 0

end Grip

/-- The books of a pool: what is idle, what is noted as lent, the count of slots, every resource
there has been, and what the tasks have in their hands. -/
structure Ledger (ι C : Type) where
  idle : List C
  in_use : Finset C
  created : ℤ
  known : Set C
  grip : ι → Grip C

/-- INTERNAL: one term of a sum changes. -/
theorem sum_update [Fintype ι] [DecidableEq ι] {β : Type} (g : ι → β) (f : β → ℕ) (i : ι) (x : β) :
    ∑ j, f (Function.update g i x j) + f (g i) = ∑ j, f (g j) + f x := by
  rw [← add_sum_erase univ (fun j => f (Function.update g i x j)) (mem_univ i),
    ← add_sum_erase univ (fun j => f (g j)) (mem_univ i), Function.update_self]
  have hrest : ∑ j ∈ univ.erase i, f (Function.update g i x j) = ∑ j ∈ univ.erase i, f (g j) := by
    refine sum_congr rfl fun j hj => ?_
    rw [Function.update_of_ne (ne_of_mem_erase hj)]
  rw [hrest]
  omega

namespace Ledger

section Moves

variable [DecidableEq ι] [DecidableEq C]

/-- What a task may do: nothing, or take, reserve, and so on. -/
inductive Moves (l l' : Ledger ι C) : Prop
  | stay (after : l' = l)
  | take {i : ι} {c : C} {rest : List C} (first : l.idle = c :: rest) (free : l.grip i = .nothing)
      (after : l' = { l with
        idle := rest
        in_use := insert c l.in_use
        grip := Function.update l.grip i (.lent c) })
  | reserve {i : ι} (free : l.grip i = .nothing)
      (after : l' = { l with
        created := l.created + 1
        grip := Function.update l.grip i .reserved })
  | connect {i : ι} {c : C} (slot : l.grip i = .reserved) (new : c ∉ l.known)
      (after : l' = { l with
        known := insert c l.known
        grip := Function.update l.grip i (.fresh c) })
  | lend {i : ι} {c : C} (slot : l.grip i = .fresh c)
      (after : l' = { l with
        in_use := insert c l.in_use
        grip := Function.update l.grip i (.lent c) })
  | undo {i : ι} (slot : l.grip i = .reserved)
      (after : l' = { l with
        created := l.created - 1
        grip := Function.update l.grip i .nothing })
  | give_back {i : ι} {c : C} (slot : l.grip i = .lent c)
      (after : l' = { l with
        idle := l.idle ++ [c]
        in_use := l.in_use.erase c
        grip := Function.update l.grip i .nothing })
  | drop {i : ι} {c : C} (slot : l.grip i = .lent c)
      (after : l' = { l with
        in_use := l.in_use.erase c
        created := l.created - 1
        grip := Function.update l.grip i .nothing })
  | drain (after : l' = { l with
        idle := []
        created := l.created - l.idle.length })
  | make {i : ι} {c : C} (free : l.grip i = .nothing) (new : c ∉ l.known)
      (after : l' = { l with
        known := insert c l.known
        grip := Function.update l.grip i (.extra c) })
  | add {i : ι} {c : C} (made : l.grip i = .extra c)
      (after : l' = { l with
        idle := l.idle ++ [c]
        created := l.created + 1
        grip := Function.update l.grip i .nothing })
  | forget {i : ι} {c : C} (made : l.grip i = .extra c)
      (after : l' = { l with grip := Function.update l.grip i .nothing })

end Moves

section Sound

variable [Fintype ι]

/-- INTERNAL: what is in one hand is part of the whole. -/
theorem grip_le (l : Ledger ι C) (f : Grip C → ℕ) (i : ι) : f (l.grip i) ≤ ∑ j, f (l.grip j) :=
  single_le_sum (f := fun j => f (l.grip j)) (fun _ _ => Nat.zero_le _) (mem_univ i)

variable [DecidableEq C]

/-- How often a resource is idle or in a hand. -/
def copies (l : Ledger ι C) (c : C) : ℕ := l.idle.count c + ∑ i, (l.grip i).holds c

/-- Every slot is idle or in one hand, no resource is in two places, and `in_use` is what is
lent. -/
structure Sound (l : Ledger ι C) : Prop where
  slots : l.created = (l.idle.length + ∑ i, (l.grip i).slots : ℕ)
  once : ∀ c, l.copies c ≤ 1
  stranger : ∀ c, c ∉ l.known → l.copies c = 0
  lent : ∀ c, ∑ i, (l.grip i).lends c = if c ∈ l.in_use then 1 else 0

variable {l l' : Ledger ι C}

theorem lends_le_holds (g : Grip C) (c : C) : g.lends c ≤ g.holds c := by
  cases g <;> simp [Grip.lends, Grip.holds]

/-- An idle resource is not lent. -/
theorem Sound.idle_not_lent (h : l.Sound) {c : C} (hc : c ∈ l.idle) : c ∉ l.in_use := by
  intro hlent
  have hone := h.lent c
  rw [if_pos hlent] at hone
  have hholds : ∑ i, (l.grip i).lends c ≤ ∑ i, (l.grip i).holds c :=
    sum_le_sum fun i _ => lends_le_holds (l.grip i) c
  have hcount : 0 < l.idle.count c := List.count_pos_iff.mpr hc
  have honce := h.once c
  unfold copies at honce
  omega

/-- INTERNAL: what a task has lent is noted. -/
theorem Sound.mem_in_use (h : l.Sound) {i : ι} {c : C} (hi : l.grip i = .lent c) :
    c ∈ l.in_use := by
  by_contra hnot
  have hzero := h.lent c
  rw [if_neg hnot] at hzero
  have hle := grip_le l (Grip.lends c) i
  rw [hi, hzero] at hle
  simp [Grip.lends] at hle

/-- INTERNAL: a resource that no task has lent yet is not noted. -/
theorem Sound.not_mem_in_use (h : l.Sound) {i : ι} {c : C} (hi : l.grip i = .fresh c) :
    c ∉ l.in_use := by
  intro hlent
  have hone := h.lent c
  rw [if_pos hlent] at hone
  have honce := h.once c
  have hless : ∑ j, (l.grip j).lends c < ∑ j, (l.grip j).holds c := by
    refine sum_lt_sum (fun j _ => lends_le_holds (l.grip j) c) ⟨i, mem_univ i, ?_⟩
    simp [hi, Grip.lends, Grip.holds]
  unfold copies at honce
  omega

variable [DecidableEq ι]

/-- INTERNAL: a change of one hand, and of the books beside it. -/
theorem Sound.change (h : l.Sound) {i : ι} {x : Grip C}
    (hgrip : l'.grip = Function.update l.grip i x)
    (slots : l'.created + (l.idle.length + (l.grip i).slots : ℕ) =
      l.created + (l'.idle.length + x.slots : ℕ))
    (known : l.known ⊆ l'.known)
    (moved : ∀ c, l'.idle.count c + x.holds c ≤ l.idle.count c + (l.grip i).holds c ∨
      c ∉ l.known ∧ c ∈ l'.known ∧
        l'.idle.count c + x.holds c ≤ l.idle.count c + (l.grip i).holds c + 1)
    (lends : ∀ c, (if c ∈ l'.in_use then 1 else 0) + (l.grip i).lends c =
      (if c ∈ l.in_use then 1 else 0) + x.lends c) : l'.Sound := by
  have hsum : ∀ f : Grip C → ℕ,
      ∑ j, f (l'.grip j) + f (l.grip i) = ∑ j, f (l.grip j) + f x := by
    intro f
    rw [hgrip]
    exact sum_update l.grip f i x
  constructor
  · have hslots := hsum Grip.slots
    have hbefore := h.slots
    omega
  · intro c
    have hholds := hsum (Grip.holds c)
    have hbefore := h.once c
    unfold copies at hbefore ⊢
    cases moved c with
    | inl hsame => omega
    | inr hnew =>
      have hzero := h.stranger c hnew.1
      unfold copies at hzero
      omega
  · intro c hc
    have hholds := hsum (Grip.holds c)
    have hbefore := h.stranger c fun hk => hc (known hk)
    unfold copies at hbefore ⊢
    cases moved c with
    | inl hsame => omega
    | inr hnew => exact absurd hnew.2.1 hc
  · intro c
    have hlends := hsum (Grip.lends c)
    have hbefore := h.lent c
    have hdiff := lends c
    omega

/-- A move keeps the balance. -/
theorem Sound.move (h : l.Sound) (hmove : Moves l l') : l'.Sound := by
  cases hmove with
  | stay after =>
    rw [after]
    exact h
  | @take i c rest first free after =>
    subst after
    have hnot := h.idle_not_lent (c := c) (by rw [first]; exact List.mem_cons_self)
    refine h.change (i := i) rfl ?_ subset_rfl ?_ ?_
    · simp [first, free, Grip.slots]
    · intro d
      left
      simp [first, free, Grip.holds, List.count_cons]
    · intro d
      by_cases hd : c = d
      · subst hd
        simp [free, hnot, Grip.lends]
      · simp [free, hd, Ne.symm hd, Grip.lends]
  | @reserve i free after =>
    subst after
    refine h.change (i := i) rfl ?_ subset_rfl ?_ ?_
    · simp [free, Grip.slots]
      omega
    · intro d
      left
      simp [free, Grip.holds]
    · intro d
      simp [free, Grip.lends]
  | @connect i c slot new after =>
    subst after
    refine h.change (i := i) rfl ?_ (Set.subset_insert _ _) ?_ ?_
    · simp [slot, Grip.slots]
    · intro d
      by_cases hd : c = d
      · subst hd
        right
        exact ⟨new, Set.mem_insert _ _, by simp [slot, Grip.holds]⟩
      · left
        simp [slot, hd, Grip.holds]
    · intro d
      simp [slot, Grip.lends]
  | @lend i c slot after =>
    subst after
    have hnot := h.not_mem_in_use slot
    refine h.change (i := i) rfl ?_ subset_rfl ?_ ?_
    · simp [slot, Grip.slots]
    · intro d
      left
      simp [slot, Grip.holds]
    · intro d
      by_cases hd : c = d
      · subst hd
        simp [slot, hnot, Grip.lends]
      · simp [slot, hd, Ne.symm hd, Grip.lends]
  | @undo i slot after =>
    subst after
    refine h.change (i := i) rfl ?_ subset_rfl ?_ ?_
    · simp only [slot, Grip.slots]
      omega
    · intro d
      left
      simp [slot, Grip.holds]
    · intro d
      simp [slot, Grip.lends]
  | @give_back i c slot after =>
    subst after
    have hmem := h.mem_in_use slot
    refine h.change (i := i) rfl ?_ subset_rfl ?_ ?_
    · simp only [slot, Grip.slots, List.length_append, List.length_singleton]
    · intro d
      left
      simp [slot, Grip.holds, List.count_append, List.count_singleton]
    · intro d
      by_cases hd : c = d
      · subst hd
        simp [slot, hmem, Grip.lends]
      · simp [slot, hd, Ne.symm hd, Grip.lends]
  | @drop i c slot after =>
    subst after
    have hmem := h.mem_in_use slot
    refine h.change (i := i) rfl ?_ subset_rfl ?_ ?_
    · simp only [slot, Grip.slots]
      omega
    · intro d
      left
      simp [slot, Grip.holds]
    · intro d
      by_cases hd : c = d
      · subst hd
        simp [slot, hmem, Grip.lends]
      · simp [slot, hd, Ne.symm hd, Grip.lends]
  | drain after =>
    subst after
    have hslots := h.slots
    constructor
    · show l.created - l.idle.length = 0 + ∑ i, (l.grip i).slots
      omega
    · intro c
      have honce := h.once c
      unfold copies at honce ⊢
      simp only [List.count_nil]
      omega
    · intro c hc
      have hzero := h.stranger c hc
      unfold copies at hzero ⊢
      simp only [List.count_nil]
      omega
    · exact h.lent
  | @make i c free new after =>
    subst after
    refine h.change (i := i) rfl ?_ (Set.subset_insert _ _) ?_ ?_
    · simp [free, Grip.slots]
    · intro d
      by_cases hd : c = d
      · subst hd
        right
        exact ⟨new, Set.mem_insert _ _, by simp [free, Grip.holds]⟩
      · left
        simp [free, hd, Grip.holds]
    · intro d
      simp [free, Grip.lends]
  | @add i c made after =>
    subst after
    refine h.change (i := i) rfl ?_ subset_rfl ?_ ?_
    · simp only [made, Grip.slots, List.length_append, List.length_singleton]
      omega
    · intro d
      left
      simp [made, Grip.holds, List.count_append, List.count_singleton]
    · intro d
      simp [made, Grip.lends]
  | @forget i c made after =>
    subst after
    refine h.change (i := i) rfl ?_ subset_rfl ?_ ?_
    · simp [made, Grip.slots]
    · intro d
      left
      simp [made, Grip.holds]
    · intro d
      simp [made, Grip.lends]

end Sound

/-! ## What is lent and what is on its way -/

/-- One for a lent resource. -/
def lentSlots : Grip C → ℕ
  | .lent _ => 1
  | _ => 0

/-- One for a slot whose resource is not lent yet. -/
def pendingSlots : Grip C → ℕ
  | .reserved => 1
  | .fresh _ => 1
  | _ => 0

theorem slots_eq (g : Grip C) : g.slots = lentSlots g + pendingSlots g := by
  cases g <;> rfl

section Parts

variable [Fintype ι] [DecidableEq C] {l : Ledger ι C}

/-- Every task that has lent a resource is one of those noted. -/
theorem Sound.card_in_use (h : l.Sound) : l.in_use.card = ∑ i, lentSlots (l.grip i) := by
  have hone : ∀ c ∈ l.in_use, ∑ i, (l.grip i).lends c = 1 := by
    intro c hc
    rw [h.lent c, if_pos hc]
  have hhand : ∀ i, ∑ c ∈ l.in_use, (l.grip i).lends c = lentSlots (l.grip i) := by
    intro i
    cases hi : l.grip i with
    | lent d =>
      have hmem : d ∈ l.in_use := h.mem_in_use hi
      simp [Grip.lends, lentSlots, hmem]
    | _ => simp [Grip.lends, lentSlots]
  calc l.in_use.card = ∑ c ∈ l.in_use, ∑ i, (l.grip i).lends c := by
        rw [Finset.sum_congr rfl hone, Finset.card_eq_sum_ones]
    _ = ∑ i, ∑ c ∈ l.in_use, (l.grip i).lends c := Finset.sum_comm
    _ = ∑ i, lentSlots (l.grip i) := Finset.sum_congr rfl fun i _ => hhand i

/-- Every slot is idle, lent or on its way. -/
theorem Sound.created_eq (h : l.Sound) :
    l.created = (l.idle.length + l.in_use.card + ∑ i, pendingSlots (l.grip i) : ℕ) := by
  have hsplit : ∑ i, (l.grip i).slots =
      ∑ i, lentSlots (l.grip i) + ∑ i, pendingSlots (l.grip i) := by
    rw [← sum_add_distrib]
    exact sum_congr rfl fun i _ => slots_eq (l.grip i)
  rw [h.slots, hsplit, h.card_in_use, Nat.add_assoc]

/-- A lent resource has one owner. -/
theorem Sound.one_owner (h : l.Sound) {i j : ι} {c : C} (hi : l.grip i = .lent c)
    (hj : l.grip j = .lent c) : i = j := by
  classical
  by_contra hne
  have hpair : ∑ k ∈ {i, j}, (l.grip k).lends c ≤ ∑ k, (l.grip k).lends c :=
    sum_le_sum_of_subset (subset_univ _)
  rw [sum_pair hne, hi, hj, h.lent c, if_pos (h.mem_in_use hi)] at hpair
  simp [Grip.lends] at hpair

/-- No resource is idle twice. -/
theorem Sound.idle_nodup (h : l.Sound) : l.idle.Nodup := by
  rw [List.nodup_iff_count_le_one]
  intro c
  have honce := h.once c
  unfold copies at honce
  omega

/-- A resource that is noted as lent has an owner. -/
theorem Sound.owner (h : l.Sound) {c : C} (hc : c ∈ l.in_use) : ∃ i, l.grip i = .lent c := by
  by_contra hnone
  push Not at hnone
  have hzero : ∑ i, (l.grip i).lends c = 0 := by
    refine sum_eq_zero fun i _ => ?_
    cases hi : l.grip i with
    | lent d =>
      have hne : d ≠ c := by
        rintro rfl
        exact hnone i hi
      simp [Grip.lends, hne]
    | _ => rfl
  rw [h.lent c, if_pos hc] at hzero
  cases hzero

end Parts

/-! ## Hands that were lost -/

section Ghosts

variable {κ : Type}

/-- The books with the hands of ghosts beside those of the tasks. -/
def with_ghosts (l : Ledger ι C) (ghost : κ → Grip C) : Ledger (ι ⊕ κ) C where
  idle := l.idle
  in_use := l.in_use
  created := l.created
  known := l.known
  grip := Sum.elim l.grip ghost

variable [DecidableEq ι] [DecidableEq C] [DecidableEq κ] {l l' : Ledger ι C}

omit [DecidableEq C] in
/-- INTERNAL: a hand of a task changes beside the ghosts. -/
theorem with_ghosts_update (g : ι → Grip C) (ghost : κ → Grip C) (i : ι) (x : Grip C) :
    Sum.elim (Function.update g i x) ghost =
      Function.update (Sum.elim g ghost) (Sum.inl i) x := Sum.update_elim_inl.symm

/-- A move leaves the ghosts where they are. -/
theorem Moves.with_ghosts (h : Moves l l') (ghost : κ → Grip C) :
    Moves (l.with_ghosts ghost) (l'.with_ghosts ghost) := by
  cases h with
  | stay after =>
    rw [after]
    exact .stay rfl
  | @take i c rest first free after =>
    subst after
    exact .take (i := .inl i) first free (by simp only [Ledger.with_ghosts, with_ghosts_update])
  | @reserve i free after =>
    subst after
    exact .reserve (i := .inl i) free (by simp only [Ledger.with_ghosts, with_ghosts_update])
  | @connect i c slot new after =>
    subst after
    exact .connect (i := .inl i) slot new (by simp only [Ledger.with_ghosts, with_ghosts_update])
  | @lend i c slot after =>
    subst after
    exact .lend (i := .inl i) slot (by simp only [Ledger.with_ghosts, with_ghosts_update])
  | @undo i slot after =>
    subst after
    exact .undo (i := .inl i) slot (by simp only [Ledger.with_ghosts, with_ghosts_update])
  | @give_back i c slot after =>
    subst after
    exact .give_back (i := .inl i) slot (by simp only [Ledger.with_ghosts, with_ghosts_update])
  | @drop i c slot after =>
    subst after
    exact .drop (i := .inl i) slot (by simp only [Ledger.with_ghosts, with_ghosts_update])
  | drain after =>
    subst after
    exact .drain rfl
  | @make i c free new after =>
    subst after
    exact .make (i := .inl i) free new (by simp only [Ledger.with_ghosts, with_ghosts_update])
  | @add i c made after =>
    subst after
    exact .add (i := .inl i) made (by simp only [Ledger.with_ghosts, with_ghosts_update])
  | @forget i c made after =>
    subst after
    exact .forget (i := .inl i) made (by simp only [Ledger.with_ghosts, with_ghosts_update])

end Ghosts

section Covered

variable [Fintype ι] [DecidableEq ι] [DecidableEq C] {l l' : Ledger ι C}

omit [Fintype ι] [DecidableEq ι] in
/-- INTERNAL: the same books over other hands with the same sums. -/
theorem Sound.of_sums {κ κ' : Type} [Fintype κ] [Fintype κ'] {l : Ledger κ C} {l' : Ledger κ' C}
    (h : l.Sound) (idle : l'.idle = l.idle) (in_use : l'.in_use = l.in_use)
    (created : l'.created = l.created) (known : l'.known = l.known)
    (sums : ∀ f : Grip C → ℕ, f .nothing = 0 → ∑ j, f (l'.grip j) = ∑ i, f (l.grip i)) :
    l'.Sound := by
  constructor
  · rw [created, idle, sums Grip.slots rfl]
    exact h.slots
  · intro c
    unfold copies
    rw [idle, sums (Grip.holds c) rfl]
    exact h.once c
  · intro c hc
    unfold copies
    rw [idle, sums (Grip.holds c) rfl]
    rw [known] at hc
    exact h.stranger c hc
  · intro c
    rw [in_use, sums (Grip.lends c) rfl]
    exact h.lent c

/-- The books balance once what was lost is counted. -/
def Covered (l : Ledger ι C) : Prop :=
  ∃ (n : ℕ) (ghost : Fin n → Grip C), (l.with_ghosts ghost).Sound

/-- A task loses what it has in its hand. -/
def Loses (l l' : Ledger ι C) : Prop :=
  ∃ i, l' = { l with grip := Function.update l.grip i .nothing }

theorem Covered.move (h : l.Covered) (hmove : Moves l l') : l'.Covered := by
  obtain ⟨n, ghost, hsound⟩ := h
  exact ⟨n, ghost, hsound.move (hmove.with_ghosts ghost)⟩

/-- What is lost goes to a new ghost. -/
theorem Covered.lose (h : l.Covered) (hlose : Loses l l') : l'.Covered := by
  obtain ⟨n, ghost, hsound⟩ := h
  obtain ⟨i, rfl⟩ := hlose
  refine ⟨n + 1, Fin.cons (l.grip i) ghost, hsound.of_sums rfl rfl rfl rfl ?_⟩
  intro f hf
  have hhands := sum_update l.grip f i .nothing
  unfold Ledger.with_ghosts
  simp only [Fintype.sum_sum_type, Sum.elim_inl, Sum.elim_inr, Fin.sum_univ_succ, Fin.cons_zero,
    Fin.cons_succ]
  rw [hf] at hhands
  omega

omit [DecidableEq ι] in
/-- What is idle, lent or on its way has a slot. -/
theorem Covered.owned_le (h : l.Covered) :
    (l.idle.length + l.in_use.card + ∑ i, pendingSlots (l.grip i) : ℕ) ≤ l.created := by
  obtain ⟨n, ghost, hsound⟩ := h
  have hall := hsound.created_eq
  have hsplit : ∑ j, pendingSlots ((l.with_ghosts ghost).grip j) =
      ∑ i, pendingSlots (l.grip i) + ∑ k, pendingSlots (ghost k) := by
    unfold Ledger.with_ghosts
    rw [Fintype.sum_sum_type]
    rfl
  rw [hsplit] at hall
  have hcreated : l.created = ((l.with_ghosts ghost).created) := rfl
  have hidle : l.idle = (l.with_ghosts ghost).idle := rfl
  have hin_use : l.in_use = (l.with_ghosts ghost).in_use := rfl
  rw [hcreated, hidle, hin_use]
  omega

omit [DecidableEq ι] in
theorem Covered.one_owner (h : l.Covered) {i j : ι} {c : C} (hi : l.grip i = .lent c)
    (hj : l.grip j = .lent c) : i = j := by
  obtain ⟨n, ghost, hsound⟩ := h
  exact Sum.inl.inj (hsound.one_owner (i := .inl i) (j := .inl j) hi hj)

omit [DecidableEq ι] in
/-- Books that balance have lost nothing. -/
theorem Sound.covered (h : l.Sound) : l.Covered := by
  refine ⟨0, Fin.elim0, h.of_sums rfl rfl rfl rfl fun f _ => ?_⟩
  unfold Ledger.with_ghosts
  simp

end Covered

end Ledger

end SapRfc.Library
