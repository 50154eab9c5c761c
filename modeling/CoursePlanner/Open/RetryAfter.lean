import CoursePlanner.Open.Failure
import CoursePlanner.Library.Bytes
import CoursePlanner.Library.Gregorian

namespace CoursePlanner.Open

open Library Contracts

/-- What is written in an IMF-fixdate. -/
@[ext] structure ImfFields where
  weekday : Nat
  day : Nat
  month : Nat
  year : Nat
  hour : Nat
  minute : Nat
  second : Nat

def weekdayNames : List (List UInt8) :=
  ["Sun","Mon","Tue","Wed","Thu","Fri","Sat"].map utf8Bytes

def monthNames : List (List UInt8) :=
  ["Jan","Feb","Mar","Apr","May","Jun","Jul","Aug","Sep","Oct","Nov","Dec"].map utf8Bytes

def checkedU32 (value : Nat) : Option Nat := if value ≤ u32Max then some value else none

def parseDecimal (bytes : List UInt8) : Option Nat := do
  guard (bytes≠[] ∧ ∀byte∈bytes,48 ≤ byte ∧ byte ≤ 57)
  bytes.foldlM (fun value byte => do checkedU32 ((← checkedU32 (value*10))+(byte-48).toNat)) 0

/-- The first half of parse_imf_fixdate, over the bytes of a comma, blanks, colons and GMT. -/
def imfFields : List UInt8 → Option ImfFields
  | [w₁,w₂,w₃,44,32,d₁,d₂,32,m₁,m₂,m₃,32,y₁,y₂,y₃,y₄,32,h₁,h₂,58,n₁,n₂,58,s₁,s₂,32,71,77,84] => do
    let weekday ← weekdayNames.idxOf? [w₁,w₂,w₃]
    let day ← parseDecimal [d₁,d₂]
    let month ← monthNames.idxOf? [m₁,m₂,m₃]
    let year ← parseDecimal [y₁,y₂,y₃,y₄]
    let hour ← parseDecimal [h₁,h₂]
    let minute ← parseDecimal [n₁,n₂]
    let second ← parseDecimal [s₁,s₂]
    pure ⟨weekday,day,month+1,year,hour,minute,second⟩
  | _ => none

def daysInMonth (year month : Nat) : Nat :=
  if month∈[1,3,5,7,8,10,12] then 31
  else if month∈[4,6,9,11] then 30
  else if month=2 then if 400∣year ∨ (4∣year ∧ ¬100∣year) then 29 else 28
  else 0

/-- An operation on machine integers that leaves their range. -/
inductive Overflow where
  | overflow

def checkedI64 (value : Int) : Option Int :=
  if -2^63 ≤ value ∧ value < 2^63 then some value else none

def i64 (value : Int) : Except Overflow Int := required (checkedI64 value) .overflow

def daysFromCivil (year month day : Int) : Except Overflow Int := do
  let adjustedYear ← i64 (year-if month ≤ 2 then 1 else 0)
  let era := (← if 0 ≤ adjustedYear then pure adjustedYear else i64 (adjustedYear-399)).tdiv 400
  let yearOfEra ← i64 (adjustedYear-(← i64 (era*400)))
  let monthPrime ← i64 (month+if 2 < month then -3 else 9)
  let dayOfYear ← i64 ((← i64 ((← i64 ((← i64 (153*monthPrime))+2)).tdiv 5+day))-1)
  let dayOfEra ← i64 ((← i64 ((← i64 ((← i64 (yearOfEra*365))+yearOfEra.tdiv 4))-
    yearOfEra.tdiv 100))+dayOfYear)
  i64 ((← i64 ((← i64 (era*146097))+dayOfEra))-719468)

/-- The second half. The sum of the seconds is the largest of the numbers that it is made of. -/
def ImfFields.instant (fields : ImfFields) : Except Overflow (Option Int) := do
  if fields.year<1601 ∨ fields.day=0 ∨ daysInMonth fields.year fields.month < fields.day ∨
      23<fields.hour ∨ 59<fields.minute ∨ 59<fields.second then return none
  let days ← daysFromCivil fields.year fields.month fields.day
  if (← i64 (days+4))%7≠fields.weekday then return none
  let seconds ← required (checkedU32 (fields.hour*3600+fields.minute*60+fields.second)) .overflow
  pure do checkedI64 ((← checkedI64 (days*86400))+seconds)

def parseImfFixdate (value : String) : Except Overflow (Option Int) :=
  match imfFields (utf8Bytes value) with
  | none => pure none
  | some fields => fields.instant

def digits : Nat → Nat → List UInt8
  | 0,_ => []
  | width+1,n => digits width (n/10)++[.ofNat (48+n%10)]

def ImfFields.text (fields : ImfFields) : List UInt8 :=
  weekdayNames.getD fields.weekday []++[44,32]++digits 2 fields.day++[32]++
    monthNames.getD (fields.month-1) []++[32]++digits 4 fields.year++[32]++digits 2 fields.hour++
    [58]++digits 2 fields.minute++[58]++digits 2 fields.second++[32,71,77,84]

/-- An instant as the calendar and the clock show it. The first of January 1970 was a Thursday. -/
def ImfFields.at (instant : Int) : ImfFields :=
  let days := instant/86400
  let date := Date.ofEpochDay days
  let second := (instant%86400).toNat
  ⟨((days+4)%7).toNat,date.day,(date.month%12).toNat+1,(date.month/12).toNat,second/3600,
    second/60%60,second%60⟩

structure ImfFields.InRange (fields : ImfFields) : Prop where
  weekday : fields.weekday<7
  day : fields.day<10^2
  month : 1 ≤ fields.month ∧ fields.month ≤ 12
  year : fields.year<10^4
  clock : fields.hour<10^2 ∧ fields.minute<10^2 ∧ fields.second<10^2

theorem checkedI64_ok {value : Int} (h : -10^12 ≤ value ∧ value ≤ 10^12) :
    checkedI64 value=some value :=
  if_pos (by omega)

theorem checkedU32_ok {value : Nat} (h : value ≤ 4*10^9) : checkedU32 value=some value :=
  if_pos (by unfold u32Max; omega)

theorem i64_bind {A : Type} {value : Int} {next : Int → Except Overflow A}
    (h : -10^12 ≤ value ∧ value ≤ 10^12) : i64 value >>= next=next value := by
  rw [i64,checkedI64_ok h]
  rfl

theorem daysFromCivil_eq {year month day : Int} (hy : 1601 ≤ year ∧ year < 10000)
    (hm : 1 ≤ month ∧ month ≤ 12) (hd : 1 ≤ day ∧ day ≤ 31) :
    daysFromCivil year month day=.ok (Date.firstDay (12*year+month-1)+day-1) := by
  unfold daysFromCivil
  obtain ⟨adjusted,ha⟩ : ∃a,a=year-if month ≤ 2 then 1 else 0 := ⟨_,rfl⟩
  obtain ⟨prime,hp⟩ : ∃p,p=month+if 2 < month then -3 else 9 := ⟨_,rfl⟩
  rw [← ha]
  have low : 0 ≤ adjusted ∧ adjusted ≤ 10000 := by split_ifs at ha <;> omega
  have place : (12*year+month-1-2)/12=adjusted ∧ (12*year+month-1-2)%12=prime := by
    split_ifs at ha hp <;> omega
  rw [i64_bind (by omega),if_pos low.1,pure_bind]
  simp (disch := omega) only [i64_bind,Int.tdiv_eq_ediv_of_nonneg]
  rw [i64,checkedI64_ok (by omega),required]
  unfold Date.firstDay
  dsimp only
  congr 1
  omega

theorem daysInMonth_eq {year month : Nat} (h : 1 ≤ month ∧ month ≤ 12) :
    daysInMonth year month=monthLength (12*year+month-1) := by
  have parts : (12*(year : Int)+month-1)%12=month-1 ∧ (12*(year : Int)+month-1)/12=year := by omega
  unfold daysInMonth monthLength
  rw [parts.1]
  obtain ⟨lower,upper⟩ := h
  interval_cases month <;> simp
  split_ifs <;> omega

theorem digit_iff (byte : UInt8) : (48 ≤ byte ∧ byte ≤ 57) ↔ ∃d,d<10 ∧ byte=.ofNat (48+d) := by
  constructor
  · rintro ⟨lower,upper⟩
    have lower : 48 ≤ byte.toNat := UInt8.le_iff_toNat_le.mp lower
    have upper : byte.toNat ≤ 57 := UInt8.le_iff_toNat_le.mp upper
    exact ⟨byte.toNat-48,by omega,by rw [Nat.add_sub_cancel' lower,UInt8.ofNat_toNat]⟩
  · rintro ⟨d,small,rfl⟩
    interval_cases d <;> decide

theorem ofNat_digit {d : Nat} (small : d<10) : (UInt8.ofNat (48+d)-48).toNat=d := by
  interval_cases d <;> rfl

theorem parseDecimal_eq_some (bytes : List UInt8) (short : bytes≠[] ∧ bytes.length ≤ 9) (n : Nat) :
    parseDecimal bytes=some n ↔ n<10^bytes.length ∧ bytes=digits bytes.length n := by
  unfold parseDecimal
  simp only [Option.bind_eq_bind,Option.bind_eq_some_iff,Option.guard_eq_some',digit_iff,
    exists_const,short.1,ne_eq,not_false_eq_true,true_and]
  obtain ⟨-,short⟩ := short
  -- The last digit is the remainder of the number by ten.
  induction bytes using List.reverseRecOn generalizing n with
  | nil =>
    simp [digits]
    omega
  | append_singleton bytes byte ih =>
    rw [List.length_append,List.length_singleton] at short ⊢
    have wide : 10^bytes.length ≤ 10^8 := Nat.pow_le_pow_right (by omega) (by omega)
    rw [List.foldlM_append,digits]
    simp only [List.forall_mem_append,List.forall_mem_singleton,List.foldlM_cons,List.foldlM_nil,
      bind_pure,Option.bind_eq_bind,Option.bind_eq_some_iff] at ih ⊢
    constructor
    · rintro ⟨⟨all,d,small,rfl⟩,value,front,tens,fits,sum⟩
      obtain ⟨bound,same⟩ := (ih value (by omega)).mp ⟨all,front⟩
      rw [checkedU32_ok (by omega)] at fits
      cases fits
      rw [ofNat_digit small,checkedU32_ok (by omega)] at sum
      cases sum
      have parts : (value*10+d)/10=value ∧ (value*10+d)%10=d := by omega
      rw [parts.1,parts.2,← same]
      exact ⟨by omega,rfl⟩
    · rintro ⟨bound,same⟩
      obtain ⟨front,last⟩ := List.append_inj' same rfl
      cases last
      obtain ⟨all,value⟩ := (ih (n/10) (by omega)).mpr ⟨by omega,front⟩
      refine ⟨⟨all,n%10,Nat.mod_lt _ (by decide),rfl⟩,_,value,_,checkedU32_ok (by omega),?_⟩
      rw [ofNat_digit (Nat.mod_lt _ (by decide)),checkedU32_ok (by omega)]
      congr 1
      omega

theorem parseDecimal_two {a b : UInt8} {n : Nat} :
    parseDecimal [a,b]=some n ↔ n<10^2 ∧ [a,b]=digits 2 n :=
  parseDecimal_eq_some [a,b] (by simp) n

theorem parseDecimal_four {a b c d : UInt8} {n : Nat} :
    parseDecimal [a,b,c,d]=some n ↔ n<10^4 ∧ [a,b,c,d]=digits 4 n :=
  parseDecimal_eq_some [a,b,c,d] (by simp) n

theorem idxOf_getD {names : List (List UInt8)} {name : List UInt8} {place : Nat}
    (h : names.idxOf? name=some place) : place < names.length ∧ names.getD place []=name := by
  obtain ⟨inside,same,-⟩ := List.idxOf?_eq_some_iff.mp h
  rw [List.getD_eq_getElem _ _ inside,same]
  exact ⟨inside,rfl⟩

theorem weekday_named {place : Nat} (h : place<7) :
    ∃a b c,weekdayNames.getD place []=[a,b,c] ∧ weekdayNames.idxOf? [a,b,c]=some place := by
  interval_cases place <;> exact ⟨_,_,_,rfl,by decide⟩

theorem month_named {place : Nat} (h : place<12) :
    ∃a b c,monthNames.getD place []=[a,b,c] ∧ monthNames.idxOf? [a,b,c]=some place := by
  interval_cases place <;> exact ⟨_,_,_,rfl,by decide⟩

theorem imfFields_eq_some (bytes : List UInt8) (fields : ImfFields) :
    imfFields bytes=some fields ↔ fields.InRange ∧ bytes=fields.text := by
  constructor
  · intro h
    unfold imfFields at h
    split at h
    · simp only [Option.bind_eq_bind,Option.bind_eq_some_iff,Option.pure_def,Option.some.injEq,
        parseDecimal_two,parseDecimal_four] at h
      obtain ⟨weekday,wd,day,dd,month,mm,year,yy,hour,hh,minute,mi,second,ss,rfl⟩ := h
      replace wd := idxOf_getD wd
      replace mm := idxOf_getD mm
      refine ⟨⟨wd.1,dd.1,⟨Nat.le_add_left _ _,mm.1⟩,yy.1,hh.1,mi.1,ss.1⟩,?_⟩
      unfold ImfFields.text
      rw [wd.2,← dd.2,Nat.add_sub_cancel,mm.2,← yy.2,← hh.2,← mi.2,← ss.2]
      rfl
    · cases h
  · rintro ⟨⟨wd,dd,mm,yy,hh,mi,ss⟩,rfl⟩
    have two (n : Nat) : ∃x y,digits 2 n=[x,y] := ⟨_,_,rfl⟩
    obtain ⟨a,b,c,first,named⟩ := weekday_named wd
    obtain ⟨d,e,f,second,months⟩ := @month_named (fields.month-1) (by omega)
    obtain ⟨d1,d2,hd⟩ := two fields.day
    obtain ⟨y1,y2,y3,y4,hy⟩ : ∃a b c d,digits 4 fields.year=[a,b,c,d] := ⟨_,_,_,_,rfl⟩
    obtain ⟨h1,h2,hr⟩ := two fields.hour
    obtain ⟨m1,m2,hm⟩ := two fields.minute
    obtain ⟨s1,s2,hs⟩ := two fields.second
    unfold ImfFields.text
    rw [first,second,hd,hy,hr,hm,hs]
    simp only [List.cons_append,List.nil_append,imfFields,named,months,
      parseDecimal_two.mpr ⟨dd,hd.symm⟩,parseDecimal_four.mpr ⟨yy,hy.symm⟩,
      parseDecimal_two.mpr ⟨hh,hr.symm⟩,parseDecimal_two.mpr ⟨mi,hm.symm⟩,
      parseDecimal_two.mpr ⟨ss,hs.symm⟩,Option.bind_eq_bind,Option.bind_some,
      Nat.sub_add_cancel mm.1]
    rfl

/-- The fields that an instant shows, in terms of the checks. -/
theorem at_iff {fields : ImfFields} (hy : 0 < fields.year)
    (hm : 1 ≤ fields.month ∧ fields.month ≤ 12) {days instant : Int}
    (hd : Date.firstDay (12*fields.year+fields.month-1)+fields.day-1=days) :
    fields=.at instant ↔
      (1 ≤ fields.day ∧ fields.day ≤ monthLength (12*fields.year+fields.month-1)) ∧
      (fields.hour ≤ 23 ∧ fields.minute ≤ 59 ∧ fields.second ≤ 59) ∧
      (days+4)%7=fields.weekday ∧
      days*86400+(fields.hour*3600+fields.minute*60+fields.second : Nat)=instant := by
  constructor
  · intro shown
    have counted := (Date.ofEpochDay_eq_iff (instant/86400) _).mp rfl
    have valid := (Date.ofEpochDay (instant/86400)).inMonth
    simp only [ImfFields.at,ImfFields.ext_iff] at shown
    unfold Date.epochDay at counted
    generalize Date.ofEpochDay (instant/86400)=date at *
    have month : 12*(fields.year : Int)+fields.month-1=date.month := by omega
    rw [month,shown.2.1] at hd ⊢
    refine ⟨valid,?_,?_,?_⟩ <;> omega
  · rintro ⟨valid,clock,named,rfl⟩
    have shown := (Date.ofEpochDay_eq_iff _ ⟨_,_,valid⟩).mpr hd
    have day : (days*86400+(fields.hour*3600+fields.minute*60+fields.second : Nat))/86400=days := by
      omega
    unfold ImfFields.at
    simp only [day,shown]
    ext <;> dsimp only <;> omega

theorem at_inRange {instant : Int} (h : (ImfFields.at instant).year ≤ 9999) :
    (ImfFields.at instant).InRange := by
  have inMonth := (Date.ofEpochDay (instant/86400)).inMonth
  have len := (monthLength_range (Date.ofEpochDay (instant/86400)).month).2
  unfold ImfFields.at at *
  constructor <;> dsimp only at * <;> omega

theorem instant_spec {fields : ImfFields} (range : fields.InRange) :
    ∃answer,fields.instant=.ok answer ∧
      ∀instant,answer=some instant ↔ fields=.at instant ∧ 1601 ≤ fields.year := by
  have hm := range.month
  have hy := range.year
  have len := (monthLength_range (12*fields.year+fields.month-1)).2
  obtain ⟨days,hdays⟩ : ∃days,Date.firstDay (12*fields.year+fields.month-1)+fields.day-1=days :=
    ⟨_,rfl⟩
  unfold ImfFields.instant
  rw [daysInMonth_eq hm]
  split
  · next bad =>
    refine ⟨none,rfl,fun instant => ⟨nofun,?_⟩⟩
    rintro ⟨shown,first⟩
    have := (at_iff (by omega) hm hdays).mp shown
    omega
  next good =>
  rw [daysFromCivil_eq (by omega) (by omega) (by omega),hdays]
  have bound : -10^7 ≤ days ∧ days ≤ 10^7 := by
    dsimp only [Date.firstDay] at hdays
    omega
  have shown (instant : Int) : fields=.at instant ↔ _ := at_iff (by omega) hm hdays
  rw [bind_of_ok rfl,i64_bind (by omega),checkedU32_ok (by omega),checkedI64_ok (by omega)]
  simp only [shown]
  split
  · next other => exact ⟨none,rfl,fun instant => ⟨nofun,fun shown => absurd shown.1.2.2.1 other⟩⟩
  · next same =>
    refine ⟨_,congrArg _ (checkedI64_ok (by omega)),fun instant => ?_⟩
    rw [Option.some.injEq]
    omega

/-- A text is read as an instant exactly if it is the one that the calendar writes for it. -/
theorem parseImfFixdate_inverts (value : String) :
    ∃answer,parseImfFixdate value=.ok answer ∧ ∀instant,answer=some instant ↔
      utf8Bytes value=(ImfFields.at instant).text ∧
        1601 ≤ (ImfFields.at instant).year ∧ (ImfFields.at instant).year ≤ 9999 := by
  have known (instant : Int) : (utf8Bytes value=(ImfFields.at instant).text ∧
      1601 ≤ (ImfFields.at instant).year ∧ (ImfFields.at instant).year ≤ 9999) ↔
        imfFields (utf8Bytes value)=some (.at instant) ∧ 1601 ≤ (ImfFields.at instant).year := by
    rw [imfFields_eq_some]
    constructor
    · rintro ⟨written,first,last⟩
      exact ⟨⟨at_inRange last,written⟩,first⟩
    · rintro ⟨⟨range,written⟩,first⟩
      exact ⟨written,first,Nat.le_of_lt_succ range.year⟩
  simp only [known]
  unfold parseImfFixdate
  cases read : imfFields (utf8Bytes value) with
  | none => exact ⟨none,rfl,by simp⟩
  | some fields =>
    obtain ⟨answer,made,spec⟩ := instant_spec ((imfFields_eq_some _ _).mp read).1
    refine ⟨answer,made,fun instant => (spec instant).trans ?_⟩
    rw [Option.some.injEq]
    exact and_congr_right fun shown => by rw [shown]

end CoursePlanner.Open
