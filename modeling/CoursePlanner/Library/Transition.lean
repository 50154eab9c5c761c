import Mathlib

namespace CoursePlanner.Library

variable {S Op Out H : Type}

/-- The state that a list of operations leaves. A step answers its caller and
keeps whatever it changed, also when the answer is an error. -/
def run (step : S → Op → Out × S) (s : S) : List Op → S
  | [] => s
  | op::ops => run step (step s op).2 ops

theorem run_append (step : S → Op → Out × S) (s : S) (ops more : List Op) :
    run step s (ops++more)=run step (run step s ops) more := by
  induction ops generalizing s with
  | nil => rfl
  | cons op ops ih => exact ih (step s op).2

theorem run_snoc (step : S → Op → Out × S) (s : S) (ops : List Op) (op : Op) :
    run step s (ops++[op])=(step (run step s ops) op).2 :=
  run_append step s ops [op]

/-- A call inside another one. Its error ends the caller as well, and what was
changed up to then stays. -/
def attempt {Err A B : Type} (result : Except Err A × S) (next : A → S → Except Err B × S) :
    Except Err B × S :=
  match result with
  | (.error error,s) => (.error error,s)
  | (.ok answer,s) => next answer s

section

variable {Err A B : Type} {res : Except Err A × S} {next : A → S → Except Err B × S}

theorem attempt_ok {answer : A} (h : res.1=.ok answer) : attempt res next=next answer res.2 := by
  obtain ⟨outcome,s⟩ := res
  subst h
  rfl

/-- The ways a caller ends: its first call fails, or the rest runs on what it left. -/
theorem attempt_eq {answer : Except Err B} {after : S} : attempt res next=(answer,after) ↔
      (∃error,res=(.error error,after) ∧ answer=.error error) ∨
      ∃first middle,res=(.ok first,middle) ∧ next first middle=(answer,after) := by
  obtain ⟨outcome,s⟩ := res
  cases outcome with
  | error error =>
    constructor
    · intro h
      cases h
      exact .inl ⟨error,rfl,rfl⟩
    · rintro (⟨_,same,rfl⟩ | ⟨_,_,same,-⟩)
      · cases same
        rfl
      · cases same
  | ok first =>
    constructor
    · intro h
      exact .inr ⟨first,s,rfl,h⟩
    · rintro (⟨_,same,-⟩ | ⟨_,_,same,rest⟩)
      · cases same
      · cases same
        exact rest

/-- What the call leaves and the rest of the caller keeps, the caller leaves. -/
theorem attempt_keeps (P : S → Prop) (h : P res.2)
    (hnext : ∀answer,res.1=.ok answer → P (next answer res.2).2) :
    P (attempt res next).2 := by
  obtain ⟨answer,s⟩ := res
  cases answer with
  | error error => exact h
  | ok answer => exact hnext answer rfl

theorem attempt_avoids {error : Err} (h : res.1≠.error error)
    (hnext : ∀answer,res.1=.ok answer → (next answer res.2).1≠.error error) :
    (attempt res next).1≠.error error := by
  obtain ⟨answer,s⟩ := res
  cases answer with
  | error other => exact fun same => h (by simpa [attempt] using same)
  | ok answer => exact hnext answer rfl

end

/-- The states of a run: the start and what each operation leaves. -/
inductive Reachable (step : S → Op → Out × S) (s : S) : S → Prop
  | start : Reachable step s s
  | step (t : S) (op : Op) : Reachable step s t → Reachable step s (step t op).2

theorem reachable_run (step : S → Op → Out × S) (s : S) (ops : List Op) :
    Reachable step s (run step s ops) := by
  induction ops using List.reverseRecOn with
  | nil => exact .start
  | append_singleton ops op ih =>
    rw [run_snoc]
    exact .step _ op ih

variable {s : S} {step : S → Op → Out × S}

theorem Reachable.run {t : S} (h : Reachable step s t) (ops : List Op) :
    Reachable step s (run step t ops) := by
  induction ops generalizing t with
  | nil => exact h
  | cons op ops ih => exact ih (.step t op h)

theorem Reachable.trans {t u : S} (h : Reachable step s t) (g : Reachable step t u) :
    Reachable step s u := by
  induction g with
  | start => exact h
  | step u op _ ih => exact .step u op ih

/-- What the start has and every step keeps holds in every reachable state. -/
theorem Reachable.invariant {t : S} (P : S → Prop) (h : Reachable step s t) (hs : P s)
    (hstep : ∀ u op,P u → P (step u op).2) : P t := by
  induction h with
  | start => exact hs
  | step t op _ ih => exact hstep t op ih

/-- Every step of a run is taken in a state that allows it. -/
def Along (step : S → Op → Out × S) (P : S → Op → Prop) (s : S) : List Op → Prop
  | [] => True
  | op::ops => P s op ∧ Along step P (step s op).2 ops

/-- What the allowed steps keep, a run of them keeps. -/
theorem Along.preserves {P : S → Op → Prop} {ops : List Op} (Q : S → Prop) (h : Along step P s ops)
    (hs : Q s) (hstep : ∀u op,P u op → Q u → Q (step u op).2) : Q (run step s ops) := by
  induction ops generalizing s with
  | nil => exact hs
  | cons op ops ih => exact ih h.2 (hstep s op h.1 hs)

theorem run_invariant (Q : S → Prop) (hs : Q s) (ops : List Op)
    (hstep : ∀u,∀op∈ops,Q u → Q (step u op).2) : Q (run step s ops) := by
  induction ops generalizing s with
  | nil => exact hs
  | cons op ops ih =>
    exact ih (hstep s op (by simp) hs) (fun u next member => hstep u next (by simp [member]))

/-- Where a step keeps a property exactly if it is allowed, the runs that keep it
throughout are exactly those of allowed steps. -/
theorem along_iff_throughout {P : S → Op → Prop} (Q : S → Prop)
    (hstep : ∀u op,Q u → (Q (step u op).2 ↔ P u op)) (s : S) (hs : Q s) (ops : List Op) :
    (∀earlier later,ops=earlier++later → Q (run step s earlier)) ↔ Along step P s ops := by
  induction ops generalizing s with
  | nil =>
    refine ⟨fun _ => trivial,?_⟩
    intro _ earlier later split
    obtain ⟨rfl,rfl⟩ := List.append_eq_nil_iff.mp split.symm
    exact hs
  | cons op ops ih =>
    constructor
    · intro h
      have next : Q (step s op).2 := h [op] ops rfl
      refine ⟨(hstep s op hs).mp next,(ih _ next).mp ?_⟩
      intro earlier later split
      exact h (op::earlier) later (by rw [split]; rfl)
    · rintro ⟨allowed,rest⟩ earlier later split
      have next := (hstep s op hs).mpr allowed
      cases earlier with
      | nil => exact hs
      | cons first earlier =>
        obtain ⟨rfl,same⟩ := List.cons.inj split
        exact (ih _ next).mpr rest earlier later same

/-- A run takes no step of some kind, or there is a last one. -/
theorem along_not_or_last (step : S → Op → Out × S) (P : S → Op → Prop) (s : S) (ops : List Op) :
    Along step (fun s op => ¬P s op) s ops ∨
      ∃earlier op later,ops=earlier++op::later ∧ P (run step s earlier) op ∧
        Along step (fun s op => ¬P s op) (step (run step s earlier) op).2 later := by
  induction ops generalizing s with
  | nil => exact .inl trivial
  | cons op ops ih =>
    rcases ih (step s op).2 with never | ⟨earlier,last,later,split,happens,after⟩
    · by_cases h : P s op
      · exact .inr ⟨[],op,ops,rfl,h,never⟩
      · exact .inl ⟨h,never⟩
    · exact .inr ⟨op::earlier,last,later,by rw [split]; rfl,happens,after⟩

/-- A run with a history variable that reads each step and never steers it. -/
def traced (step : S → Op → Out × S) (note : S → Op → Out → S → H → H) :
    S × H → Op → Out × (S × H) :=
  fun s op => ((step s.1 op).1,((step s.1 op).2,note s.1 op (step s.1 op).1 (step s.1 op).2 s.2))

theorem run_traced_fst (step : S → Op → Out × S) (note : S → Op → Out → S → H → H)
    (s : S) (h : H) (ops : List Op) :
    (run (traced step note) (s,h) ops).1=run step s ops := by
  induction ops generalizing s h with
  | nil => rfl
  | cons op ops ih => exact ih _ _

end CoursePlanner.Library
