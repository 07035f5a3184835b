import Mathlib.Data.List.Induction

/-!
# Fold — what is met on the way through a list

A state goes through a list, one step for each element.  What is met on the way is met before the
last element or at it, so that statements about it are proved from the end of the list.
-/

namespace RecordFlow

variable {σ α : Type*} (step : σ → α → σ) (P : σ → α → Prop)

/-- Whether an element of a list is met in a state in which it satisfies `P`. -/
def Meets (s : σ) (xs : List α) : Prop :=
  ∃ before x after, xs = before ++ x :: after ∧ P (before.foldl step s) x

theorem not_meets_nil (s : σ) : ¬ Meets step P s [] := by
  rintro ⟨before, x, after, h, _⟩
  simp at h

theorem meets_append_singleton (s : σ) (xs : List α) (last : α) :
    Meets step P s (xs ++ [last]) ↔ Meets step P s xs ∨ P (xs.foldl step s) last := by
  constructor
  · rintro ⟨before, x, after, h, hx⟩
    rcases List.eq_nil_or_concat after with rfl | ⟨front, final, rfl⟩
    · have hparts : xs = before ∧ [last] = [x] := List.append_inj' h rfl
      rcases hparts with ⟨rfl, hlast⟩
      cases hlast
      exact .inr hx
    · have hparts : xs = before ++ x :: front ∧ [last] = [final] :=
        List.append_inj' (by simpa using h) rfl
      exact .inl ⟨before, x, front, hparts.1, hx⟩
  · rintro (⟨before, x, after, rfl, hx⟩ | hx)
    · exact ⟨before, x, after ++ [last], by simp, hx⟩
    · exact ⟨xs, last, [], rfl, hx⟩

end RecordFlow
