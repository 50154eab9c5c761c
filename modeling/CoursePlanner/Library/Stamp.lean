import CoursePlanner.Library.Transition

namespace CoursePlanner.Library

variable {S Op Out C : Type} [Preorder C]

/-- A cell with a stamp that every write of it advances and nothing else moves. -/
structure Stamped (step : S → Op → Out × S) (inv : S → Prop) (stamp : S → C)
    (writes : S → Op → Prop) : Prop where
  keeps : ∀s op,inv s → inv (step s op).2
  quiet : ∀s op,inv s → ¬writes s op → stamp (step s op).2=stamp s
  moves : ∀s op,inv s → writes s op → stamp s<stamp (step s op).2

namespace Stamped

variable {step : S → Op → Out × S} {inv : S → Prop} {stamp : S → C} {writes : S → Op → Prop}

variable (h : Stamped step inv stamp writes) {s : S} (hs : inv s)

include h hs

theorem step_le (op : Op) : stamp s ≤ stamp (step s op).2 := by
  by_cases written : writes s op
  · exact (h.moves s op hs written).le
  · exact (h.quiet s op hs written).ge

theorem run_le (ops : List Op) : stamp s ≤ stamp (run step s ops) := by
  induction ops generalizing s with
  | nil => exact le_rfl
  | cons op ops ih => exact (h.step_le hs op).trans (ih (h.keeps s op hs))

/-- A stamp read twice is proof that nothing was written in between. -/
theorem unwritten (ops : List Op)
    (same : stamp (run step s ops)=stamp s) : Along step (fun s op => ¬writes s op) s ops := by
  induction ops generalizing s with
  | nil => trivial
  | cons op ops ih =>
    have later := h.run_le (h.keeps s op hs) ops
    have first : ¬writes s op := by
      intro written
      have back : stamp (run step (step s op).2 ops)=stamp s := same
      exact absurd ((h.moves s op hs written).trans_le later) (back ▸ lt_irrefl _)
    refine ⟨first,ih (h.keeps s op hs) ?_⟩
    rw [h.quiet s op hs first]
    exact same

end Stamped

end CoursePlanner.Library
