/-!
# Parts of a text

`splitWhere` cuts a list at the elements that separate its parts, and `joinWith` puts
parts together with a separator between them.  There is always at least one part, and
joining the parts that a separator has cut gives the list back.
-/

namespace SqlGateway

/-- The parts of a list between the elements that satisfy `p`. -/
def splitWhere {α : Type} (p : α → Bool) : List α → List (List α)
  | [] => [[]]
  | a :: as =>
      if p a then [] :: splitWhere p as
      else
        match splitWhere p as with
        | [] => [[a]]
        | s :: ss => (a :: s) :: ss

/-- Lists with a separator between them. -/
def joinWith {α : Type} (sep : List α) : List (List α) → List α
  | [] => []
  | [s] => s
  | s :: t :: ss => s ++ sep ++ joinWith sep (t :: ss)

/-- There is at least one part. -/
theorem splitWhere_ne_nil {α : Type} (p : α → Bool) (as : List α) : splitWhere p as ≠ [] := by
  cases as with
  | nil => simp [splitWhere]
  | cons a as =>
      rw [splitWhere]
      split
      · simp
      · split <;> simp

/-- Joining the parts that one element separates gives the list back. -/
theorem joinWith_splitWhere {α : Type} [DecidableEq α] (sep : α) (as : List α) :
    joinWith [sep] (splitWhere (· = sep) as) = as := by
  induction as with
  | nil => rfl
  | cons a as ih =>
      rw [splitWhere]
      cases hs : splitWhere (· = sep) as with
      | nil => exact absurd hs (splitWhere_ne_nil _ _)
      | cons s ss =>
          rw [hs] at ih
          by_cases h : a = sep
          · rw [if_pos (by simpa using h), joinWith, ih, h]
            rfl
          · rw [if_neg (by simpa using h)]
            cases ss with
            | nil => rw [← ih]; rfl
            | cons t ts => rw [← ih]; rfl

end SqlGateway
