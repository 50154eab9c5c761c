import CoursePlanner.Query.Options
import CoursePlanner.Library.Checked

set_option maxRecDepth 8000

namespace CoursePlanner.Query

open Std Library Contracts

section Dedup

variable {A : Type} [DecidableEq A]

end Dedup

section Comparison

variable {field : FilterFieldId}

theorem orActive_matched {evs : List PredicateEvaluation} (active : evs≠[]) :
    (orActive evs).outcome=.matched ↔ ∃ev∈evs,ev.outcome=.matched := by
  unfold orActive
  have nonempty : evs.isEmpty=false := by simpa using active
  by_cases some_matched : anyOutcome .matched evs=true
  · have found : ∃ev∈evs,ev.outcome=.matched := by
      simpa [anyOutcome] using some_matched
    simp only [some_matched,Bool.or_true]
    exact ⟨fun _ => found,fun _ => rfl⟩
  · have none_matched : ¬∃ev∈evs,ev.outcome=.matched := by
      simpa [anyOutcome] using some_matched
    simp only [nonempty,some_matched,Bool.or_false,Bool.false_eq_true,if_false]
    refine ⟨?_,fun found => absurd found none_matched⟩
    split <;> intro h <;> cases h

end Comparison

section Options

variable [UnicodeLowercase]

theorem insertOption_known (options : FilterOptions) (value label key : String) :
    key∈insertOption options value label ↔ key=toLowercase value ∨ key∈options := by
  unfold insertOption
  dsimp only
  split
  · rw [ExtTreeMap.mem_insert,LawfulEqCmp.compare_eq_iff_eq,eq_comm]
  next existing held =>
  split
  · rw [ExtTreeMap.mem_insert,LawfulEqCmp.compare_eq_iff_eq,eq_comm]
  constructor
  · exact Or.inr
  · rintro (rfl | known)
    · exact mem_of_getElem? held
    · exact known

theorem insertOption_value {options : FilterOptions} {value label key : String}
    {option : FilterOptionV2} (h : (insertOption options value label)[key]?=some option) :
    option.value=value ∨ ∃earlier,options[key]?=some earlier ∧ earlier.value=option.value := by
  unfold insertOption at h
  dsimp only at h
  split at h
  · rcases of_getElem?_insert h with ⟨-,rfl⟩ | before
    · exact .inl rfl
    · exact .inr ⟨option,before,rfl⟩
  · next existing held =>
    split at h
    · rcases of_getElem?_insert h with ⟨rfl,rfl⟩ | before
      · exact .inr ⟨existing,held,rfl⟩
      · exact .inr ⟨option,before,rfl⟩
    · exact .inr ⟨option,h,rfl⟩

theorem collectOptions_known (es : List (String × String)) (key : String) :
    key∈collectOptions es ↔ ∃en∈es,toLowercase en.1=key := by
  induction es using List.reverseRecOn with
  | nil => simp [collectOptions]
  | append_singleton es en ih =>
    have last : collectOptions (es++[en])= insertOption (collectOptions es) en.1 en.2 := by
      simp [collectOptions]
    rw [last,insertOption_known,ih]
    constructor
    · rintro (rfl | ⟨earlier,listed,rfl⟩)
      · exact ⟨en,by simp,rfl⟩
      · exact ⟨earlier,by simp [listed],rfl⟩
    · rintro ⟨found,listed,rfl⟩
      rcases List.mem_append.mp listed with earlier | here
      · exact .inr ⟨found,earlier,rfl⟩
      · cases List.mem_singleton.mp here
        exact .inl rfl

theorem collectOptions_value {es : List (String × String)} {key : String}
    {option : FilterOptionV2} (h : (collectOptions es)[key]?=some option) :
    ∃en∈es,en.1=option.value := by
  induction es using List.reverseRecOn generalizing option with
  | nil => simp [collectOptions] at h
  | append_singleton es en ih =>
    have last : collectOptions (es++[en])= insertOption (collectOptions es) en.1 en.2 := by
      simp [collectOptions]
    rw [last] at h
    rcases insertOption_value h with here | ⟨earlier,held,same⟩
    · exact ⟨en,by simp,here.symm⟩
    · obtain ⟨found,listed,value⟩ := ih held
      exact ⟨found,by simp [listed],value.trans same⟩

end Options

/-- A value of one of the fields that are checked against the catalogs. -/
inductive DynamicValue where
  | subject (code : String)
  | level (text : String)
  | band (number : Nat)
  | core (token : FilterTokenV1)
  | instructor (name : String)
  | location (place : String)
  | exam (code : String)

namespace DynamicValue

def field : DynamicValue → FilterFieldId
  | subject _ => .courseSubject
  | level _ => .courseLevel
  | band _ => .courseNumberBand
  | core _ => .courseCoreCode
  | instructor _ => .sectionInstructor
  | location _ => .sectionMeetingLocation
  | exam _ => .sectionExam

def text : DynamicValue → String
  | subject code => code
  | level text => text
  | band number => toString number
  | core token => token.value
  | instructor name => name
  | location place => place
  | exam code => code

/-- The field of the filter options that offers such values, if there is one. -/
def optionsField : DynamicValue → Option FilterOptionsFieldV2
  | subject _ => none
  | level _ => some .courseLevel
  | band _ => some .courseNumberBand
  | core _ => none
  | instructor _ => some .instructor
  | location _ => some .meetingLocation
  | exam _ => some .examCode

def OfferedBy [UnicodeLowercase] (catalogs : List NormalizedCatalogV1) (query : Option String)
    (value : DynamicValue) : Prop :=
  ∃field∈value.optionsField,∃(key : String) (option : FilterOptionV2),
    (collectCatalogOptions catalogs field query)[key]?=some option ∧ option.value=value.text

def stored (catalogs : List NormalizedCatalogV1) : DynamicValue → List String
  | subject _ => (catalogs.flatMap NormalizedCatalogV1.courseVariants).filterMap
      (fun variant => variant.subjectCode.knownValue)
  | level _ => (catalogs.flatMap NormalizedCatalogV1.courseVariants).filterMap
      (fun variant => variant.level.knownValue)
  | band _ => (catalogs.flatMap NormalizedCatalogV1.courseVariants).filterMap
      (fun variant => variant.courseNumber.knownValue)
  | core _ => (catalogs.flatMap NormalizedCatalogV1.courseVariants).flatMap
      (fun variant => variant.coreCodes.knownValue.getD [])
  | instructor _ => (catalogs.flatMap NormalizedCatalogV1.sections).flatMap
      (fun held => held.instructors.knownValue.getD [])
  | location _ => (catalogs.flatMap NormalizedCatalogV1.occurrences).flatMap (fun occurrence =>
      occurrence.campus.knownValue.toList++occurrence.campusName.knownValue.toList)
  | exam _ => (catalogs.flatMap NormalizedCatalogV1.sections).flatMap (fun held =>
      held.examCode.knownValue.toList++held.examCodeText.knownValue.toList)

/-- The texts of the field and the value are ASCII, and no text has white space around it
(a name may). -/
def Plain (catalogs : List NormalizedCatalogV1) (value : DynamicValue) : Prop :=
  isAscii value.text=true ∧ ∀text∈value.stored catalogs,
    isAscii text=true ∧ (value.field=.sectionInstructor ∨ trim text=text)

section Accepted

variable [UnicodeLowercase]

/-- The option of the field that a stored text gives rise to. -/
def Offers (value : DynamicValue) (text option : String) : Prop :=
  match value with
  | band _ => ∃number,courseNumberBand text=some number ∧ option=toString number
  | instructor _ => option=collapse text
  | _ => option=asciiUpper (trim text)

omit [UnicodeLowercase] in
theorem nonBlank_some {field : CatalogFieldKnowledge String} {text : String}
    (h : nonBlank field=some text) : ∃value,field.knownValue=some value ∧ text=trim value := by
  unfold nonBlank at h
  obtain ⟨mapped,_⟩ := Option.filter_eq_some_iff.mp h
  obtain ⟨value,known,rfl⟩ := Option.map_eq_some_iff.mp mapped
  exact ⟨value,known,rfl⟩

omit [UnicodeLowercase] in
theorem codeOrName_some {first second : CatalogFieldKnowledge String} {en : String × String}
    (h : codeOrName (nonBlank first) (nonBlank second)=some en) :
    ∃text∈first.knownValue.toList++second.knownValue.toList,en.1=asciiUpper (trim text) := by
  cases code : nonBlank first with
  | some text =>
    obtain ⟨value,known,rfl⟩ := nonBlank_some code
    refine ⟨value,by simp [known],?_⟩
    cases name : nonBlank second with
    | none | some =>
      rw [code,name] at h
      exact (congrArg Prod.fst (Option.some.inj h)).symm
  | none =>
    cases name : nonBlank second with
    | none =>
      rw [code,name] at h
      exact absurd h (Option.some_ne_none en).symm
    | some text =>
      obtain ⟨value,known,rfl⟩ := nonBlank_some name
      rw [code,name] at h
      exact ⟨value,by simp [known],(congrArg Prod.fst (Option.some.inj h)).symm⟩

variable {cats : List NormalizedCatalogV1} {query : Option String} {value : DynamicValue}

theorem optionEntries_stored {field : FilterOptionsFieldV2} (offers : value.optionsField=some field)
    {en : String × String} (listed : en∈optionEntries cats field query) :
    ∃text∈value.stored cats,value.Offers text en.1 := by
  cases value with
  | subject | core => cases offers
  | level text =>
    cases offers
    obtain ⟨variant,mem,option⟩ := List.mem_filterMap.mp listed
    obtain ⟨level,held,rfl⟩ := Option.map_eq_some_iff.mp option
    obtain ⟨value,known,rfl⟩ := nonBlank_some held
    exact ⟨value,List.mem_filterMap.mpr ⟨variant,mem,known⟩,rfl⟩
  | band number =>
    cases offers
    obtain ⟨variant,mem,option⟩ := List.mem_filterMap.mp listed
    obtain ⟨value,known,option⟩ := Option.bind_eq_some_iff.mp option
    obtain ⟨band,banded,option⟩ := Option.bind_eq_some_iff.mp option
    exact ⟨value,List.mem_filterMap.mpr ⟨variant,mem,known⟩,band,banded,
      (congrArg Prod.fst (Option.some.inj option)).symm⟩
  | instructor name =>
    cases offers
    obtain ⟨offered,kept,rfl⟩ := List.mem_map.mp listed
    obtain ⟨held,mem,named⟩ := List.mem_flatMap.mp (List.mem_of_mem_filter kept)
    obtain ⟨text,known,rfl⟩ := List.mem_map.mp named
    exact ⟨text,List.mem_flatMap.mpr ⟨held,mem,known⟩,rfl⟩
  | location place =>
    cases offers
    obtain ⟨occurrence,mem,option⟩ := List.mem_filterMap.mp listed
    obtain ⟨text,known,same⟩ := codeOrName_some option
    exact ⟨text,List.mem_flatMap.mpr ⟨occurrence,mem,known⟩,same⟩
  | exam code =>
    cases offers
    obtain ⟨held,mem,option⟩ := List.mem_filterMap.mp listed
    obtain ⟨text,known,same⟩ := codeOrName_some option
    exact ⟨text,List.mem_flatMap.mpr ⟨held,mem,known⟩,same⟩

/-- The option map of the value's field has an entry under the value's lower case. -/
def Listed (catalogs : List NormalizedCatalogV1) (query : Option String) (value : DynamicValue) :
    Prop :=
  ∃field∈value.optionsField,toLowercase value.text∈collectCatalogOptions catalogs field query

theorem Listed.offers (h : value.Listed cats query) :
    ∃text∈value.stored cats,∃option,value.Offers text option ∧
      toLowercase option=toLowercase value.text := by
  obtain ⟨field,offers,known⟩ := h
  obtain ⟨en,listed,same⟩ := (collectOptions_known _ _).mp known
  obtain ⟨text,stored,offered⟩ := optionEntries_stored offers listed
  exact ⟨text,stored,en.1,offered,same⟩

theorem OfferedBy.listed (h : value.OfferedBy cats query) : value.Listed cats query := by
  obtain ⟨field,offers,key,option,held,same⟩ := h
  obtain ⟨en,listed,value⟩ := collectOptions_value held
  refine ⟨field,offers,(collectOptions_known _ _).mpr ⟨en,listed,?_⟩⟩
  rw [value,same]

end Accepted

end DynamicValue

section Closed

/-- The lower case of the letters that the examples use. -/
local instance sampleLowercase : UnicodeLowercase where
  toLowercase text := String.ofList (text.toList.map (fun c => if c = 'É' then 'é' else c.toLower))
  ascii text h := by
    simp only [isAscii,List.all_eq_true,decide_eq_true_eq] at h
    rw [asciiLower,List.map_congr_left]
    intro c listed
    rw [if_neg]
    rintro rfl
    exact absurd (h _ listed) (by decide)

namespace Sample

def group : CourseGroupKey := ⟨nbFall2026.term,nbFall2026.campus,⟨"01:198:111",by decide⟩⟩

def variantKey : CourseVariantKey :=
  ⟨group,⟨"v1:0000000000000000000000000000000000000000000000000000000000000000",by decide⟩⟩

def sectionKey : SectionKey := ⟨group.term,group.campus,⟨"10001",by decide⟩⟩

/-- One course with one section, of a given level and with one instructor. -/
def catalog (level instructor : String) : NormalizedCatalogV1 where
  target := group.target
  contentVersion := 1
  courseGroups := [⟨group,[variantKey]⟩]
  courseVariants := [{key := variantKey,level := .present level,sectionKeys := [sectionKey]}]
  sections := [{key := sectionKey,variantKey := variantKey,instructors := .present [instructor]}]
  occurrences := []

def request (level instructor : FilterTokenV1) : NormalizedFilterValuesV1 :=
  {term := group.term,levels := [level],instructors := [instructor]}

end Sample

end Closed

end CoursePlanner.Query
