import CoursePlanner.Contracts.Catalog
import CoursePlanner.Library.Text

namespace CoursePlanner.Contracts

open Std Library

inductive MatchOutcome where
  | matched
  | uncertain
  | noMatch
  deriving DecidableEq, Repr

inductive MatchReasonCode where
  | knownMismatch
  | missingReliableData
  | unknownValue
  | tba
  | conflictingEvidence
  | invalidValue
  | sourceUnavailable
  deriving DecidableEq, Repr

namespace MatchReasonCode

def wireName : MatchReasonCode → String
  | knownMismatch => "KNOWN_MISMATCH"
  | missingReliableData => "MISSING_RELIABLE_DATA"
  | unknownValue => "UNKNOWN_VALUE"
  | tba => "TBA"
  | conflictingEvidence => "CONFLICTING_EVIDENCE"
  | invalidValue => "INVALID_VALUE"
  | sourceUnavailable => "SOURCE_UNAVAILABLE"

def isKnownMismatch (code : MatchReasonCode) : Bool := code=.knownMismatch

theorem wireName_inj {a b : MatchReasonCode} (h : a.wireName=b.wireName) : a=b := by
  cases a <;> cases b <;> first | rfl | exact absurd h (by decide)

end MatchReasonCode

/-- ReasonField::try_from. -/
def validReasonField (value : String) : Bool :=
  !value.isEmpty && value.utf8ByteSize ≤ 64 &&
    value.toList.zipIdx.all (fun (c,index) =>
      c.isAlphanum || (0 < index && (c = '.' || c = '_' || c = '-')))

structure ReasonField where
  value : String
  valid : validReasonField value=true
  deriving DecidableEq

structure MatchReason where
  code : MatchReasonCode
  field : ReasonField
  deriving DecidableEq

inductive MatchExplanationError where
  | matchHasReasons
  | uncertainReasonContract
  | noMatchReasonContract
  deriving DecidableEq, Repr

structure MatchExplanation where
  outcome : MatchOutcome
  reasons : List MatchReason
  deriving DecidableEq

namespace MatchExplanation

def tryNew (outcome : MatchOutcome) (reasons : List MatchReason) :
    Except MatchExplanationError MatchExplanation :=
  let mismatch := reasons.any (fun reason => reason.code.isKnownMismatch)
  match outcome with
  | .matched => if !reasons.isEmpty then .error .matchHasReasons else .ok ⟨outcome,reasons⟩
  | .uncertain =>
    if reasons.isEmpty || mismatch then .error .uncertainReasonContract else .ok ⟨outcome,reasons⟩
  | .noMatch => if !mismatch then .error .noMatchReasonContract else .ok ⟨outcome,reasons⟩

end MatchExplanation

inductive FilterFieldId where
  | courseTerm
  | courseCampus
  | courseSubject
  | courseText
  | courseNumberBand
  | courseLevel
  | courseCredits
  | courseCoreCode
  | coursePrerequisite
  | sectionIndex
  | sectionOpenStatus
  | sectionModality
  | sectionSynchronicity
  | sectionInstructor
  | sectionAvailability
  | sectionMeetingLocation
  | sectionExam
  | sectionPermission
  deriving DecidableEq, Repr

namespace FilterFieldId

def wireName : FilterFieldId → String
  | courseTerm => "FLT-C01"
  | courseCampus => "FLT-C02"
  | courseSubject => "FLT-C03"
  | courseText => "FLT-C04"
  | courseNumberBand => "FLT-C05"
  | courseLevel => "FLT-C06"
  | courseCredits => "FLT-C07"
  | courseCoreCode => "FLT-C08"
  | coursePrerequisite => "FLT-C09"
  | sectionIndex => "FLT-S01"
  | sectionOpenStatus => "FLT-S03"
  | sectionModality => "FLT-S04a"
  | sectionSynchronicity => "FLT-S04b"
  | sectionInstructor => "FLT-S05"
  | sectionAvailability => "FLT-S06"
  | sectionMeetingLocation => "FLT-S07"
  | sectionExam => "FLT-S09"
  | sectionPermission => "FLT-S10"

/-- Every field is a valid reason field, so the expect on it cannot fail. -/
def reasonField (field : FilterFieldId) : ReasonField :=
  ⟨field.wireName,by cases field <;> decide⟩

end FilterFieldId

def filterTokenMaxBytes : Nat := 256

def validateFilterString (value : String) (maxBytes : Nat) : Bool :=
  !value.isEmpty && value.utf8ByteSize ≤ maxBytes && trim value=value && !value.toList.any isControl

structure FilterTokenV1 where
  value : String
  valid : validateFilterString value filterTokenMaxBytes=true
  deriving DecidableEq

structure FilterSearchTextV1 where
  text : String
  tokens : List String
  deriving DecidableEq

inductive FilterSetModeV1 where
  | any
  | all
  deriving DecidableEq, Repr

inductive PrerequisiteFilterV1 where
  | any
  | has
  | noneReported
  deriving DecidableEq, Repr

inductive LiveOpenStateV1 where
  | open
  | closed
  | unknown
  deriving DecidableEq, Repr

inductive UserModalityV3 where
  | onCampusOrInPerson
  | online
  | hybrid
  deriving DecidableEq, Repr

inductive UserSynchronicityV3 where
  | sync
  | async
  | mixed
  deriving DecidableEq, Repr

structure IncludeIncompleteV3 where
  prerequisite : Bool
  modality : Bool
  synchronicity : Bool
  deriving DecidableEq

inductive PermissionFilterV1 where
  | any
  | required
  | notRequired
  deriving DecidableEq, Repr

inductive WeekdayV1 where
  | monday
  | tuesday
  | wednesday
  | thursday
  | friday
  | saturday
  | sunday
  deriving DecidableEq, Repr

structure CreditRangeV1 where
  minimumHundredths : Option Nat
  maximumHundredths : Option Nat
  bounded : minimumHundredths.isSome ∨ maximumHundredths.isSome
  ordered : ∀low∈minimumHundredths,∀high∈maximumHundredths,low ≤ high

structure AvailabilityWindowV1 where
  weekday : WeekdayV1
  startMinute : Nat
  endMinute : Nat
  ordered : startMinute<endMinute
  withinDay : endMinute ≤ 1440

structure CoreFilterV1 where
  codes : List FilterTokenV1
  mode : FilterSetModeV1

/-- The values of a request. Their normal form (sorted, without repetition, upper case
where the contract says so, within the size limits) plays no part in an evaluation. -/
structure NormalizedFilterValuesV1 where
  term : TermId
  campuses : List CampusCode := []
  subjects : List String := []
  text : Option FilterSearchTextV1 := none
  courseNumberBands : List Nat := []
  levels : List FilterTokenV1 := []
  credits : Option CreditRangeV1 := none
  core : CoreFilterV1 := ⟨[],.any⟩
  prerequisite : PrerequisiteFilterV1 := .any
  sectionIndexes : List SectionIndex := []
  openStatuses : List LiveOpenStateV1 := []
  modalities : List UserModalityV3 := []
  synchronicities : List UserSynchronicityV3 := []
  instructors : List FilterTokenV1 := []
  availability : List AvailabilityWindowV1 := []
  meetingLocations : List FilterTokenV1 := []
  examCodes : List FilterTokenV1 := []
  permission : PermissionFilterV1 := .any
  includeIncomplete : IncludeIncompleteV3 := ⟨false,false,false⟩

/-- The hundred-level band of an ASCII-decimal course number that fits 32 bits. -/
def courseNumberBand (value : String) : Option Nat :=
  if value.isEmpty || !value.toList.all Char.isDigit then none
  else
    let number := value.toList.foldl (fun n c => 10*n+(c.toNat-48)) 0
    let band := number/100*100
    if number ≤ u32Max ∧ band ≤ u32Max-99 then some band else none

structure LiveOpenEvidenceV1 where
  state : LiveOpenStateV1
  observedAt : Option OffsetDateTime
  freshUntil : Option OffsetDateTime
  uncertainty : Option MatchReasonCode
  deriving DecidableEq

structure FilterMatchV1 where
  fieldId : FilterFieldId
  explanation : MatchExplanation
  deriving DecidableEq

structure TextMatchEvidenceV1 where
  exactCourseIdentifier : Bool
  matchedTokens : List String
  deriving DecidableEq

structure SectionQueryItemV1 where
  «section» : NormalizedSectionV1
  occurrences : List NormalizedOccurrenceV1
  «open» : LiveOpenEvidenceV1
  explanation : MatchExplanation
  filterMatches : List FilterMatchV1
  deriving DecidableEq

structure SectionSearchItemV1 where
  variant : NormalizedCourseVariantV1
  «section» : SectionQueryItemV1
  courseFilterMatches : List FilterMatchV1
  textMatch : Option TextMatchEvidenceV1
  deriving DecidableEq

structure CourseVariantQueryItemV1 where
  variant : NormalizedCourseVariantV1
  explanation : MatchExplanation
  filterMatches : List FilterMatchV1
  textMatch : Option TextMatchEvidenceV1
  sections : List SectionQueryItemV1
  deriving DecidableEq

structure CourseQueryItemV1 where
  group : NormalizedCourseGroupV1
  explanation : MatchExplanation
  variants : List CourseVariantQueryItemV1
  deriving DecidableEq

def maxPageSize : Nat := 200

structure PageRequestV1 where
  page : Nat
  pageSize : Nat
  valid : 0<page ∧ 0<pageSize ∧ pageSize ≤ maxPageSize

structure PageInfoV1 where
  page : Nat
  pageSize : Nat
  total : Nat
  totalPages : Nat
  deriving DecidableEq

inductive SortDirectionV1 where
  | ascending
  | descending
  deriving DecidableEq, Repr

inductive CourseSortFieldV1 where
  | relevance
  | courseIdentifier
  | title
  deriving DecidableEq, Repr

inductive SectionSortFieldV1 where
  | sectionIndex
  | sectionNumber
  | courseIdentifier
  | openStatus
  deriving DecidableEq, Repr

structure CourseQueryRequestV1 where
  filters : NormalizedFilterValuesV1
  page : PageRequestV1
  field : CourseSortFieldV1
  direction : SortDirectionV1

structure SectionQueryRequestV1 where
  filters : NormalizedFilterValuesV1
  page : PageRequestV1
  field : SectionSortFieldV1
  direction : SortDirectionV1

structure Page (Item : Type) where
  page : PageInfoV1
  items : List Item

abbrev CourseQueryResponseV1 := Page CourseQueryItemV1
abbrev SectionQueryResponseV1 := Page SectionSearchItemV1

structure SectionDetailResponseV1 where
  variant : NormalizedCourseVariantV1
  «section» : SectionQueryItemV1
  deriving DecidableEq

inductive FilterOptionsFieldV2 where
  | keyword
  | courseNumberBand
  | courseLevel
  | instructor
  | meetingLocation
  | examCode
  deriving DecidableEq, Repr

structure FilterOptionV2 where
  value : String
  label : String
  deriving DecidableEq

end CoursePlanner.Contracts
