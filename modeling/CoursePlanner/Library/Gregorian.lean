import Mathlib

namespace CoursePlanner.Library

/-- How long a month of the proleptic Gregorian calendar is. Months are counted from January of
the year 0. -/
def monthLength (month : Int) : Nat :=
  if month%12=1 then if 4∣month/12 ∧ (¬100∣month/12 ∨ 400∣month/12) then 29 else 28
  else if month%12∈[3,5,8,10] then 30 else 31

theorem monthLength_range (month : Int) : 1 ≤ monthLength month ∧ monthLength month ≤ 31 := by
  unfold monthLength
  split_ifs <;> decide

@[ext] structure Date where
  month : Int
  day : Nat
  inMonth : 1 ≤ day ∧ day ≤ monthLength month

namespace Date

def tomorrow (date : Date) : Date :=
  if more : date.day < monthLength date.month then ⟨date.month,date.day+1,by omega,more⟩
  else ⟨date.month+1,1,le_rfl,(monthLength_range _).1⟩

def yesterday (date : Date) : Date :=
  if more : 1<date.day then
    ⟨date.month,date.day-1,by omega,(Nat.sub_le _ _).trans date.inMonth.2⟩
  else ⟨date.month-1,monthLength (date.month-1),(monthLength_range _).1,le_rfl⟩

/-- The date of a day that is counted from the first of January 1970. -/
def ofEpochDay : Int → Date
  | .ofNat n => tomorrow^[n] ⟨12*1970,1,by decide⟩
  | .negSucc n => yesterday^[n+1] ⟨12*1970,1,by decide⟩

/-- The day that a month begins with, by years that begin in March and end with the leap day. -/
def firstDay (month : Int) : Int :=
  let year := (month-2)/12
  365*year+year/4-year/100+year/400+(153*((month-2)%12)+2)/5-719468

theorem firstDay_succ (month : Int) : firstDay (month+1)=firstDay month+monthLength month := by
  unfold firstDay monthLength
  have lower : 0 ≤ month%12 := by omega
  have upper : month%12 < 12 := by omega
  generalize place : month%12=m at *
  have split : month=12*(month/12)+m := by omega
  generalize month/12=year at *
  interval_cases m
  all_goals
    norm_num
    all_goals omega

theorem firstDay_le {first second : Int} (h : first < second) :
    firstDay first+monthLength first ≤ firstDay second := by
  have rises : StrictMono firstDay := strictMono_int_of_lt_succ fun month => by
    have := (monthLength_range month).1
    rw [firstDay_succ]
    omega
  rw [← firstDay_succ]
  exact rises.monotone h

def epochDay (date : Date) : Int := firstDay date.month+date.day-1

theorem epochDay_inj {a b : Date} (h : a.epochDay=b.epochDay) : a=b := by
  have ends := a.inMonth
  have starts := b.inMonth
  unfold epochDay at h
  rcases lt_trichotomy a.month b.month with earlier | same | later
  · have := firstDay_le earlier
    omega
  · rw [same] at h
    exact Date.ext same (by omega)
  · have := firstDay_le later
    omega

theorem epochDay_tomorrow (date : Date) : date.tomorrow.epochDay=date.epochDay+1 := by
  have last := date.inMonth
  unfold tomorrow epochDay
  split
  · push_cast
    omega
  · rw [firstDay_succ]
    push_cast
    omega

theorem epochDay_yesterday (date : Date) : date.yesterday.epochDay=date.epochDay-1 := by
  have first := date.inMonth
  unfold yesterday epochDay
  split
  · dsimp only
    omega
  · have before := firstDay_succ (date.month-1)
    rw [sub_add_cancel] at before
    dsimp only
    omega

/-- Counting from day to day agrees with the arithmetic. -/
theorem ofEpochDay_eq_iff (day : Int) (date : Date) : ofEpochDay day=date ↔ date.epochDay=day := by
  have counted : (ofEpochDay day).epochDay=day := by
    cases day with
    | ofNat n =>
      induction n with
      | zero => decide
      | succ n ih =>
        simp only [ofEpochDay] at ih ⊢
        rw [Function.iterate_succ_apply',epochDay_tomorrow,ih]
        rfl
    | negSucc n =>
      induction n with
      | zero => decide
      | succ n ih =>
        simp only [ofEpochDay] at ih ⊢
        rw [Function.iterate_succ_apply',epochDay_yesterday,ih]
        rfl
  constructor
  · rintro rfl
    exact counted
  · rintro rfl
    exact epochDay_inj counted

end Date

end CoursePlanner.Library
