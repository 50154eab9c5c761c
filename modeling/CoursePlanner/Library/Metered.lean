import CoursePlanner.Library.Transition

namespace CoursePlanner.Library

variable {S Op Out : Type}

def answers (step : S → Op → Out × S) (s : S) : List Op → List (Op × Out)
  | [] => []
  | op::ops => (op,(step s op).1)::answers step (step s op).2 ops

theorem answers_append (step : S → Op → Out × S) (s : S) (ops more : List Op) :
    answers step s (ops++more)=answers step s ops++answers step (run step s ops) more := by
  induction ops generalizing s with
  | nil => rfl
  | cons op ops ih => exact congrArg (List.cons _) (ih (step s op).2)

variable {step : S → Op → Out × S}

/-- Every step of a run is taken in a state with the invariant. -/
theorem Along.of_invariant {Q : S → Prop} (keeps : ∀s op,Q s → Q (step s op).2) {s : S} (hs : Q s)
    (ops : List Op) : Along step (fun s _ => Q s) s ops := by
  induction ops generalizing s with
  | nil => trivial
  | cons op ops ih => exact ⟨hs,ih (keeps s op hs)⟩

/-- A step that answers as another one does, in states that stay related. -/
theorem answers_eq_of_simulation {T : Type} {model : T → Op → Out × T} {P : S → Op → Prop}
    {R : S → T → List Op → Prop} (hstep : ∀s t op ops,R s t (op::ops) → P s op →
      (step s op).1=(model t op).1 ∧ R (step s op).2 (model t op).2 ops) {s : S} {t : T}
    {ops : List Op} (related : R s t ops) (allowed : Along step P s ops) :
    answers step s ops=answers model t ops := by
  induction ops generalizing s t with
  | nil => rfl
  | cons op ops ih =>
    obtain ⟨same,next⟩ := hstep s t op ops related allowed.1
    rw [answers,answers,same,ih next allowed.2]

/-- How often an answer counts within a stretch of time. -/
def within (instant : Op → Nat) (counts : Op → Out → Bool) (start length : Nat)
    (answered : List (Op × Out)) : Nat :=
  answered.countP (fun entry => counts entry.1 entry.2 && decide (start ≤ instant entry.1) &&
    decide (instant entry.1 ≤ start+length))

theorem within_append (ins : Op → Nat) (counts : Op → Out → Bool) (start length : Nat)
    (answered more : List (Op × Out)) :
    within ins counts start length (answered++more)=
      within ins counts start length answered+within ins counts start length more :=
  List.countP_append

theorem within_late (step : S → Op → Out × S) (ins : Op → Nat) (counts : Op → Out → Bool)
    (s : S) (ops : List Op) (start length : Nat)
    (late : ∀op∈ops,start+length < ins op) :
    within ins counts start length (answers step s ops)=0 := by
  induction ops generalizing s with
  | nil => rfl
  | cons op ops ih =>
    have after : ¬ins op ≤ start+length := not_le.mpr (late op List.mem_cons_self)
    have rest := ih (step s op).2 (fun next mem => late next (List.mem_cons_of_mem op mem))
    rw [within] at rest
    simp [within,answers,after,rest]

/-- A level that bounds what may still be answered: it never exceeds its cap, it recovers
no faster than its rate, and an answer that counts draws its cost from it. -/
structure Metered (step : S → Op → Out × S) (instant : Op → Nat) (counts : Op → Out → Bool)
    (P : S → Op → Prop) (level : S → Nat → Nat) (cap rate cost : Nat) : Prop where
  capped : ∀s now,level s now≤cap
  recovers : ∀s now later,now ≤ later → level s later ≤ level s now+rate*(later-now)
  draws : ∀s op,P s op →
    level (step s op).2 (instant op)+(if counts op (step s op).1 then cost else 0)≤
      level s (instant op)

namespace Metered

variable {step : S → Op → Out × S} {ins : Op → Nat} {counts : Op → Out → Bool}
  {P : S → Op → Prop} {level : S → Nat → Nat} {cap rate cost : Nat}

/-- From a moment within the stretch on, what counts is paid for by the level at that
moment and by what recovers until the end. -/
theorem within_from (meter : Metered step ins counts P level cap rate cost) (s : S)
    (ops : List Op) (start length now : Nat) (begun : start≤now) (still : now ≤ start+length)
    (later : ∀op∈ops,now ≤ ins op)
    (ordered : ops.Pairwise (fun first second => ins first ≤ ins second))
    (allowed : Along step P s ops) :
    cost*within ins counts start length (answers step s ops)≤
      level s now+rate*(start+length-now) := by
  induction ops generalizing s now with
  | nil => exact Nat.zero_le _
  | cons op ops ih =>
    obtain ⟨after,ordered⟩ := List.pairwise_cons.mp ordered
    have reached := later op List.mem_cons_self
    by_cases inside : ins op ≤ start+length
    · have rest := ih (step s op).2 (ins op) (begun.trans reached) inside after ordered allowed.2
      have drawn := meter.draws s op allowed.1
      have recovered := meter.recovers s now (ins op) reached
      have elapsed : rate*(ins op-now)+rate*(start+length-ins op)= rate*(start+length-now) := by
        rw [← Nat.mul_add]
        congr 1
        omega
      have begins := begun.trans reached
      have split : within ins counts start length (answers step s (op::ops))=
          within ins counts start length (answers step (step s op).2 ops)+
            if counts op (step s op).1 then 1 else 0 := by
        simp [within,answers,List.countP_cons,begins,inside]
      rw [split,Nat.mul_add,mul_ite,mul_one,mul_zero]
      omega
    · have none := within_late step ins counts s (op::ops) start length (by
        intro next mem
        rcases List.mem_cons.mp mem with rfl | mem
        · exact not_le.mp inside
        · exact (not_le.mp inside).trans_le (after next mem))
      rw [none]
      exact Nat.zero_le _

/-- In every stretch of time a metered run answers at most what a full level and the
recovery in the stretch pay for. -/
theorem bounds (meter : Metered step ins counts P level cap rate cost) (s : S)
    (ops : List Op) (ordered : ops.Pairwise (fun first second => ins first ≤ ins second))
    (allowed : Along step P s ops) (start length : Nat) :
    cost*within ins counts start length (answers step s ops)≤cap+rate*length := by
  induction ops generalizing s with
  | nil => exact Nat.zero_le _
  | cons op ops ih =>
    obtain ⟨after,orderedRest⟩ := List.pairwise_cons.mp ordered
    by_cases early : ins op < start
    · have skipped : within ins counts start length (answers step s (op::ops))=
          within ins counts start length (answers step (step s op).2 ops) := by
        simp [within,answers,not_le.mpr early]
      rw [skipped]
      exact ih (step s op).2 orderedRest allowed.2
    · have later : ∀next∈op::ops,start ≤ ins next := by
        intro next mem
        rcases List.mem_cons.mp mem with rfl | mem
        · exact not_lt.mp early
        · exact (not_lt.mp early).trans (after next mem)
      have paid := meter.within_from s (op::ops) start length start (Nat.le_refl _)
        (Nat.le_add_right _ _) later ordered allowed
      rw [Nat.add_sub_cancel_left] at paid
      exact paid.trans (Nat.add_le_add_right (meter.capped s start) _)

end Metered

end CoursePlanner.Library
