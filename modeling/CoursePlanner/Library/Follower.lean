import Mathlib

namespace CoursePlanner.Library

variable {V E : Type}

/-- A reader that came to a stream of events at some point, with whatever value
it held then, has folded its way to a value with the property. -/
def Follows (note : V → E → V) (P : V → Prop) (events : List E) : Prop :=
  ∃base,P (events.foldl note base)

namespace Follows

variable {note : V → E → V} {P Q : V → Prop} {events more : List E}

theorem start {value : V} (h : P value) : Follows note P [] := ⟨value,h⟩

/-- The writer moves on, and so does the reader that folds what it was told. -/
theorem extend (h : Follows note P events) (step : ∀value,P value → Q (more.foldl note value)) :
    Follows note Q (events++more) := by
  obtain ⟨base,hb⟩ := h
  refine ⟨base,?_⟩
  rw [List.foldl_append]
  exact step _ hb

theorem suffix (h : Follows note P (events++more)) : Follows note P more := by
  obtain ⟨base,hb⟩ := h
  rw [List.foldl_append] at hb
  exact ⟨_,hb⟩

end Follows

end CoursePlanner.Library
