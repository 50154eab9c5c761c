import Mathlib

namespace CoursePlanner.Library

variable {A : Type}

/-- A chain that grows at its end is only checked against its last element. -/
theorem isChain_snoc (R : A → A → Prop) (x : A) (l : List A) (y : A) :
    (x::l++[y]).IsChain R ↔ (x::l).IsChain R ∧ R (l.getLastD x) y := by
  induction l generalizing x with
  | nil => simp
  | cons z l ih =>
    rw [List.cons_append,List.cons_append,List.isChain_cons_cons,← List.cons_append,ih,
      List.isChain_cons_cons,List.getLastD_cons,and_assoc]

/-- The maximal runs of present elements, in order. -/
def runs (l : List (Option A)) : List (List A) :=
  ((l.splitOnP Option.isNone).map List.reduceOption).filter (fun run => !run.isEmpty)

/-- An element that does not separate goes to the end of the last block. -/
theorem splitOnP_snoc_of_not (p : A → Bool) (l : List A) (a : A) (h : p a=false) :
    ∃front last,l.splitOnP p=front++[last] ∧ (l++[a]).splitOnP p=front++[last++[a]] := by
  induction l with
  | nil =>
    refine ⟨[],[],by simp,?_⟩
    simp [List.splitOnP_cons_eq_if_modifyHead,h]
  | cons x l ih =>
    obtain ⟨front,last,hl,ha⟩ := ih
    rw [List.cons_append,List.splitOnP_cons_eq_if_modifyHead,
      List.splitOnP_cons_eq_if_modifyHead,hl,ha]
    by_cases hx : p x=true
    · exact ⟨[]::front,last,by simp [hx],by simp [hx]⟩
    · cases front with
      | nil => exact ⟨[],x::last,by simp [hx],by simp [hx]⟩
      | cons block front => exact ⟨(x::block)::front,last,by simp [hx],by simp [hx]⟩

/-- The last block holds what has been read since the last separator. -/
theorem splitOnP_last (l : List (Option A)) : ∃front last,l.splitOnP Option.isNone=front++[last] ∧
      (last.reduceOption=[] ↔ l.getLast?.join=none) := by
  induction l using List.reverseRecOn with
  | nil => exact ⟨[],[],by simp,by simp [List.reduceOption]⟩
  | append_singleton l x ih =>
    cases x with
    | none =>
      refine ⟨l.splitOnP Option.isNone,[],?_,by simp [List.reduceOption]⟩
      rw [List.splitOnP_append_cons l [] (by rfl),List.splitOnP_nil]
    | some a =>
      obtain ⟨front,last,_,ha⟩ := splitOnP_snoc_of_not Option.isNone l (some a) rfl
      exact ⟨front,last++[some a],ha,by simp [List.reduceOption]⟩

theorem runs_snoc_none (l : List (Option A)) : runs (l++[none])=runs l := by
  unfold runs
  rw [List.splitOnP_append_cons l [] (by rfl)]
  simp [List.reduceOption]

theorem runs_snoc_some (l : List (Option A)) (a : A) :
    (l.getLast?.join=none ∧ runs (l++[some a])=runs l++[[a]]) ∨
    ∃front last,l.getLast?.join≠none ∧ runs l=front++[last] ∧ last≠[] ∧
      runs (l++[some a])=front++[last++[a]] := by
  obtain ⟨front,last,hl,ha⟩ := splitOnP_snoc_of_not Option.isNone l (some a) rfl
  obtain ⟨front',last',hl',empty⟩ := splitOnP_last l
  rw [hl] at hl'
  obtain ⟨rfl,hlast⟩ := List.append_inj' hl' rfl
  cases hlast
  have extended : runs (l++[some a])=
      (front.map List.reduceOption).filter (fun run => !run.isEmpty)++[last.reduceOption++[a]] := by
    unfold runs
    rw [ha]
    simp [List.reduceOption]
  by_cases he : last.reduceOption=[]
  · left
    refine ⟨empty.mp he,?_⟩
    have same : runs l=(front.map List.reduceOption).filter (fun run => !run.isEmpty) := by
      unfold runs
      rw [hl]
      simp [he]
    rw [extended,same,he]
    rfl
  · right
    refine ⟨_,last.reduceOption,fun h => he (empty.mpr h),?_,he,extended⟩
    unfold runs
    rw [hl]
    simp [he]

/-- Two runs are separated by at least one missing element. -/
theorem two_mul_length_runs (l : List (Option A)) :
    2*(runs l).length ≤ l.length+(if l.getLast?.join=none then 0 else 1) := by
  induction l using List.reverseRecOn with
  | nil => simp [runs]
  | append_singleton l x ih =>
    cases x with
    | none =>
      rw [runs_snoc_none]
      simp only [List.length_append,List.getLast?_append,
        List.getLast?_singleton,Option.some_or,Option.join_some,if_true]
      split at ih <;> omega
    | some a =>
      simp only [List.length_append,List.length_singleton,List.getLast?_append,
        List.getLast?_singleton,Option.some_or,Option.join_some]
      rcases runs_snoc_some l a with ⟨hn,hr⟩ | ⟨front,last,hn,hl,_,hr⟩
      · rw [if_pos hn] at ih
        rw [hr,List.length_append,List.length_singleton]
        simp only [reduceCtorEq,if_false]
        omega
      · rw [if_neg hn,hl] at ih
        rw [hr]
        simp only [List.length_append,List.length_singleton] at ih ⊢
        omega

end CoursePlanner.Library
