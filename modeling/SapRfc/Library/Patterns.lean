import Mathlib.Data.List.Infix
import Mathlib.Tactic.Common

/-!
# Patterns in a text

A search for a pattern finds the place behind a text in which the pattern does not begin.  A text
avoids a pattern if the pattern begins at no place of it, whatever follows, and texts that avoid
a pattern can be put together.
-/

set_option autoImplicit false

namespace SapRfc.Library.Patterns

variable {α : Type} {pat content more : List α} {x c : α}

/-- The pattern begins at no place of the text, whatever follows. -/
def Avoids (pat content : List α) : Prop :=
  ∀ b, b <:+ content → b ≠ [] → ∀ rest, ¬ pat <+: b ++ rest

theorem avoids_nil (pat : List α) : Avoids pat [] :=
  fun _ hb hne => absurd (List.suffix_nil.mp hb) hne

/-- A text that the pattern does not begin, in front of one that avoids it. -/
theorem Avoids.cons (hfirst : ∀ rest, ¬ pat <+: x :: (content ++ rest))
    (h : Avoids pat content) : Avoids pat (x :: content) := by
  intro b hb hne rest
  rcases List.suffix_cons_iff.mp hb with rfl | hb
  · exact hfirst rest
  · exact h b hb hne rest

/-- A text without the first element of the pattern, in front of one that avoids it. -/
theorem Avoids.append_of_not_mem (h : Avoids (c :: pat) more) (hmem : c ∉ content) :
    Avoids (c :: pat) (content ++ more) := by
  induction content with
  | nil => exact h
  | cons y content ih =>
    have hy : c ≠ y := List.ne_of_not_mem_cons hmem
    refine (ih (List.not_mem_of_not_mem_cons hmem)).cons fun rest hbegins => ?_
    exact hy (List.cons_prefix_cons.mp hbegins).1

theorem avoids_of_not_mem (hmem : c ∉ content) : Avoids (c :: pat) content := by
  have h := (avoids_nil (c :: pat)).append_of_not_mem hmem
  rwa [List.append_nil] at h

theorem Avoids.append (h : Avoids pat content) (hmore : Avoids pat more) :
    Avoids pat (content ++ more) := by
  induction content with
  | nil => exact hmore
  | cons y content ih =>
    have hrest : Avoids pat content :=
      fun b hb => h b (hb.trans (List.suffix_cons y content))
    refine (ih hrest).cons fun rest => ?_
    have hfirst := h (y :: content) List.suffix_rfl (List.cons_ne_nil y content) (more ++ rest)
    rwa [List.cons_append, ← List.append_assoc] at hfirst

theorem avoids_flatten {parts : List (List α)} (h : ∀ part ∈ parts, Avoids pat part) :
    Avoids pat parts.flatten := by
  induction parts with
  | nil => exact avoids_nil pat
  | cons part parts ih =>
    rw [List.flatten_cons]
    exact (h part List.mem_cons_self).append (ih fun x hx => h x (List.mem_cons_of_mem _ hx))

/-- Texts in front of one delimiter that they do not have are the same. -/
theorem eq_of_delimited {a b rest : List α} (ha : x ∉ a) (hb : x ∉ b)
    (h : a ++ [x] <+: b ++ x :: rest) : a = b := by
  induction a generalizing b with
  | nil =>
    cases b with
    | nil => rfl
    | cons y b =>
      have hxy := (List.cons_prefix_cons.mp h).1
      rw [hxy] at hb
      exact absurd List.mem_cons_self hb
  | cons z a ih =>
    cases b with
    | nil =>
      have hzx := (List.cons_prefix_cons.mp h).1
      rw [hzx] at ha
      exact absurd List.mem_cons_self ha
    | cons y b =>
      obtain ⟨rfl, hrest⟩ := List.cons_prefix_cons.mp h
      rw [ih (List.not_mem_of_not_mem_cons ha) (List.not_mem_of_not_mem_cons hb) hrest]

end SapRfc.Library.Patterns
