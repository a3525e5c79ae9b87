import Mathlib.Data.List.Basic
import Mathlib.Tactic.Common

/-!
# Words learned on the way

A text is spelled by codes.  A letter has a code of its own, and behind each code a new word is
learned while there is room: the word before, and the first letter of this one.  Writer and
reader learn the same words from the same codes, so no dictionary has to be sent.
-/

set_option autoImplicit false

namespace SapRfc.Library

/-- Codes below `letters` are letters, learned words have the codes from `first` on, and all codes
stay below `limit`. -/
structure Coding (α : Type) where
  letters : ℕ
  letter : ℕ → α
  first : ℕ
  limit : ℕ
  letters_le : letters ≤ first

namespace Coding

variable {α : Type} (F : Coding α)

/-- The word of a code. -/
def word (words : List (List α)) (code : ℕ) : Option (List α) :=
  if code < F.letters then some [F.letter code]
  else if F.first ≤ code then words[code - F.first]? else none

/-- The words that are known behind a word, when `last` is the word before it. -/
def learn (words : List (List α)) (last : Option (List α)) (w : List α) : List (List α) :=
  match last with
  | none => words
  | some p => if F.first + words.length < F.limit then words ++ [p ++ w.take 1] else words

/-- What a list of codes spells. -/
inductive Spells : List (List α) → Option (List α) → List ℕ → List α → Prop
  | nil (words : List (List α)) (last : Option (List α)) : Spells words last [] []
  | cons {words : List (List α)} {last : Option (List α)} {code : ℕ} {w : List α}
      {codes : List ℕ} {text : List α} (known : F.word words code = some w)
      (rest : Spells (F.learn words last w) (some w) codes text) :
      Spells words last (code :: codes) (w ++ text)

variable {F} {words : List (List α)} {last : Option (List α)} {code : ℕ} {w p : List α}

theorem word_letter (words : List (List α)) (h : code < F.letters) :
    F.word words code = some [F.letter code] := if_pos h

theorem word_first_add (words : List (List α)) (i : ℕ) :
    F.word words (F.first + i) = words[i]? := by
  have hletters := F.letters_le
  have hnot : ¬ F.first + i < F.letters := by omega
  rw [word, if_neg hnot, if_pos (Nat.le_add_right _ _), Nat.add_sub_cancel_left]

/-- A code is a letter, or it is the code of a learned word. -/
theorem word_cases (h : F.word words code = some w) :
    (code < F.letters ∧ w = [F.letter code]) ∨
      ∃ i, F.letters ≤ code ∧ code = F.first + i ∧ i < words.length ∧ words[i]? = some w := by
  unfold word at h
  split at h
  · exact Or.inl ⟨by assumption, (Option.some.inj h).symm⟩
  · split at h
    · rename_i hletters hfirst
      obtain ⟨hi, -⟩ := List.getElem?_eq_some_iff.mp h
      exact Or.inr ⟨code - F.first, by omega, by omega, hi, h⟩
    · cases h

theorem word_lt (h : F.word words code = some w) : code < F.first + words.length := by
  have hletters := F.letters_le
  rcases word_cases h with ⟨hlt, -⟩ | ⟨i, -, rfl, hi, -⟩
  · omega
  · omega

/-- A word keeps its code when more words are learned. -/
theorem word_append (more : List (List α)) (h : F.word words code = some w) :
    F.word (words ++ more) code = some w := by
  rcases word_cases h with ⟨hlt, rfl⟩ | ⟨i, -, rfl, hi, hw⟩
  · exact word_letter _ hlt
  · rw [word_first_add, List.getElem?_append_left hi, hw]

/-- Learning puts at most one word behind the others. -/
theorem learn_cases (words : List (List α)) (last : Option (List α)) (w : List α) :
    (F.learn words last w = words ∧ (last = none ∨ F.limit ≤ F.first + words.length)) ∨
      ∃ p, last = some p ∧ F.first + words.length < F.limit ∧
        F.learn words last w = words ++ [p ++ w.take 1] := by
  cases last with
  | none => exact Or.inl ⟨rfl, Or.inl rfl⟩
  | some p =>
    by_cases hroom : F.first + words.length < F.limit
    · exact Or.inr ⟨p, rfl, hroom, if_pos hroom⟩
    · exact Or.inl ⟨if_neg hroom, Or.inr (by omega)⟩

theorem word_learn (last : Option (List α)) (v : List α) (h : F.word words code = some w) :
    F.word (F.learn words last v) code = some w := by
  rcases learn_cases (F := F) words last v with ⟨heq, -⟩ | ⟨p, -, -, heq⟩
  · rw [heq, h]
  · rw [heq, word_append _ h]

end Coding

end SapRfc.Library
