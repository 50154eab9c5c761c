import Mathlib

namespace CoursePlanner.Library

variable {Err A B : Type}

/-- A check of a chain that stops at its first error. -/
def ensure (condition : Prop) [Decidable condition] (error : Err) : Except Err Unit :=
  if condition then .ok () else .error error

/-- Option::ok_or. -/
def required (value : Option A) (error : Err) : Except Err A :=
  match value with
  | some value => .ok value
  | none => .error error

variable {condition : Prop} {error : Err} {res : B} {next : A → Except Err B}
    {first : Except Err A}

theorem ensure_pos [Decidable condition] (h : condition) (error : Err) :
    ensure condition error=.ok () :=
  if_pos h

theorem ensure_neg [Decidable condition] (h : ¬condition) (error : Err) :
    ensure condition error=.error error :=
  if_neg h

theorem ensure_ok [Decidable condition] {answer : Unit} :
    ensure condition error=.ok answer ↔ condition := by
  by_cases h : condition
  · rw [ensure_pos h]
    exact ⟨fun _ => h,fun _ => rfl⟩
  rw [ensure_neg h]
  refine ⟨?_,fun hr => absurd hr h⟩
  intro hr
  cases hr

theorem required_ok {value : Option A} {answer : A} :
    required value error=.ok answer ↔ value=some answer := by
  cases value with
  | none =>
    constructor
    all_goals
      intro h
      cases h
  | some a => exact ⟨fun h => congrArg some (Except.ok.inj h),fun h => by cases h; rfl⟩

theorem ensure_bind_ok [Decidable condition] {next : Unit → Except Err B} :
    (ensure condition error >>= next)=.ok res ↔ condition ∧ next ()=.ok res := by
  by_cases h : condition
  · rw [ensure_pos h]
    exact ⟨fun hr => ⟨h,hr⟩,And.right⟩
  rw [ensure_neg h]
  refine ⟨?_,fun hr => absurd hr.1 h⟩
  intro hr
  cases hr

theorem required_bind_ok {value : Option A} :
    (required value error >>= next)=.ok res ↔ ∃a,value=some a ∧ next a=.ok res := by
  cases value with
  | none =>
    constructor
    · intro h
      cases h
    · rintro ⟨_,h,_⟩
      cases h
  | some a =>
    constructor
    · exact fun h => ⟨a,rfl,h⟩
    · rintro ⟨_,h,g⟩
      cases h
      exact g

/-- A chain succeeds exactly if its first part does and the rest does with its answer. -/
theorem bind_ok : (first >>= next)=.ok res ↔ ∃a,first=.ok a ∧ next a=.ok res := by
  cases first with
  | error e =>
    constructor
    · intro h
      cases h
    · rintro ⟨_,h,_⟩
      cases h
  | ok a =>
    constructor
    · exact fun h => ⟨a,rfl,h⟩
    · rintro ⟨_,h,g⟩
      cases h
      exact g

theorem pure_ok {a res : A} : (pure a : Except Err A)=.ok res ↔ a=res :=
  ⟨fun h => Except.ok.inj h,fun h => h ▸ rfl⟩

theorem bind_of_ok {a : A} (h : first=.ok a) : first >>= next=next a := by
  rw [h]
  rfl

theorem bind_of_error (h : first=.error error) : first >>= next=.error error := by
  rw [h]
  rfl

section Relabelling

variable {Other : Type} (f : Err → Other)

theorem mapError_bind (first : Except Err A) (next : A → Except Err B) :
    (first >>= next).mapError f=first.mapError f >>= fun a => (next a).mapError f := by
  cases first <;> rfl

theorem mapError_ensure (condition : Prop) [Decidable condition] (error : Err) :
    (ensure condition error).mapError f=ensure condition (f error) := by
  by_cases h : condition
  · rw [ensure_pos h,ensure_pos h]
    rfl
  · rw [ensure_neg h,ensure_neg h]
    rfl

end Relabelling

theorem mapError_ok {Other : Type} {f : Err → Other} {res : Except Err A} {answer : A}
    (h : res.mapError f=.ok answer) : res=.ok answer := by
  cases res with
  | error error => cases h
  | ok value =>
    cases h
    rfl

theorem mapError_error {Other : Type} {f : Err → Other} {res : Except Err A} {other : Other}
    (h : res.mapError f=.error other) : ∃error,res=.error error ∧ f error=other := by
  cases res with
  | error error => exact ⟨error,rfl,Except.error.inj h⟩
  | ok value => cases h

/-- A chain that does not end with a certain error. -/
def Avoids (bad : Err) (result : Except Err A) : Prop :=
  result≠.error bad

namespace Avoids

variable {bad : Err}

theorem pure (a : A) : Avoids bad (pure a : Except Err A) := nofun

theorem ensure {condition : Prop} [Decidable condition] {error : Err} (h : error≠bad) :
    Avoids bad (ensure condition error) := by
  by_cases met : condition
  · rw [ensure_pos met]
    exact nofun
  · rw [ensure_neg met]
    exact fun same => h (Except.error.inj same)

theorem required {value : Option A} {error : Err} (h : error≠bad) :
    Avoids bad (required value error) := by
  cases value with
  | none => exact fun same => h (Except.error.inj same)
  | some a => exact nofun

theorem mapError {Other : Type} {f : Other → Err} (h : ∀error,f error≠bad)
    (res : Except Other A) : Avoids bad (res.mapError f) := by
  cases res with
  | error error => exact fun same => h error (Except.error.inj same)
  | ok a => exact nofun

theorem bind {first : Except Err A} {next : A → Except Err B} (h : Avoids bad first)
    (hnext : ∀a,Avoids bad (next a)) : Avoids bad (first >>= next) := by
  cases first with
  | error error => exact fun same => h (congrArg Except.error (Except.error.inj same))
  | ok a => exact hnext a

theorem foldlM {f : B → A → Except Err B} (h : ∀b a,Avoids bad (f b a)) (l : List A) (b : B) :
    Avoids bad (l.foldlM f b) := by
  induction l generalizing b with
  | nil => exact nofun
  | cons a l ih =>
    exact bind (h b a) ih

end Avoids

section Lists

variable {f : A → Except Err B}

theorem mapM_ok_of_forall (l : List A) (h : ∀x∈l,∃y,f x=.ok y) : ∃ys,l.mapM f=.ok ys := by
  induction l with
  | nil => exact ⟨[],rfl⟩
  | cons x l ih =>
    obtain ⟨y,hy⟩ := h x List.mem_cons_self
    obtain ⟨ys,hys⟩ := ih (fun z member => h z (List.mem_cons_of_mem x member))
    refine ⟨y::ys,?_⟩
    rw [List.mapM_cons,hy,hys]
    rfl

variable {l : List A}

theorem mem_of_mapM_ok {ys : List B} (h : l.mapM f=.ok ys) : ∀y∈ys,∃x∈l,f x=.ok y := by
  induction l generalizing ys with
  | nil =>
    cases h
    intro y member
    cases member
  | cons x l ih =>
    rw [List.mapM_cons] at h
    simp only [bind_ok,pure_ok] at h
    obtain ⟨first,hfirst,rest,hrest,rfl⟩ := h
    intro y member
    rcases List.mem_cons.mp member with rfl | later
    · exact ⟨x,List.mem_cons_self,hfirst⟩
    · obtain ⟨z,listed,hz⟩ := ih hrest y later
      exact ⟨z,List.mem_cons_of_mem x listed,hz⟩

theorem forM_ok {check : A → Except Err PUnit} : l.forM check=.ok () ↔ ∀x∈l,check x=.ok () := by
  induction l with
  | nil => exact ⟨fun _ => nofun,fun _ => rfl⟩
  | cons x l ih =>
    change (check x >>= fun _ => l.forM check)=.ok () ↔ _
    rw [bind_ok,List.forall_mem_cons,← ih]
    exact ⟨fun ⟨_,first,rest⟩ => ⟨first,rest⟩,fun ⟨first,rest⟩ => ⟨(),first,rest⟩⟩

theorem mapM_ok_map {g : A → B} (h : ∀x∈l,f x=.ok (g x)) : l.mapM f=.ok (l.map g) := by
  induction l with
  | nil => rfl
  | cons x l ih =>
    rw [List.mapM_cons,h x List.mem_cons_self,ih (fun y listed => h y (List.mem_cons_of_mem x listed))]
    rfl

theorem mapM_required {find read : A → Option B} {error : Err}
    (h : ∀x∈l,∃y,read x=some y ∧ find x=some y) :
    l.mapM (fun x => required (find x) error)=.ok (l.filterMap read) := by
  induction l with
  | nil => rfl
  | cons x l ih =>
    obtain ⟨y,there,here⟩ := h x List.mem_cons_self
    rw [List.mapM_cons,here,ih (fun y listed => h y (List.mem_cons_of_mem x listed)),
      List.filterMap_cons_some there]
    rfl

theorem map_of_mapM_ok {C : Type} {g : B → C} {p : A → C} {ys : List B} (h : l.mapM f=.ok ys)
    (reads : ∀x y,f x=.ok y → g y=p x) : ys.map g=l.map p := by
  induction l generalizing ys with
  | nil =>
    cases h
    rfl
  | cons x l ih =>
    rw [List.mapM_cons] at h
    simp only [bind_ok,pure_ok] at h
    obtain ⟨first,hfirst,rest,hrest,rfl⟩ := h
    rw [List.map_cons,List.map_cons,reads x first hfirst,ih hrest]

end Lists

end CoursePlanner.Library
