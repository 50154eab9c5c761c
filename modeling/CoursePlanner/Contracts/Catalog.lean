import CoursePlanner.Contracts.OpenStatus

namespace CoursePlanner.Contracts

open Std

def courseStringMaxBytes : Nat := 64
def fingerprintHead : String := "v1:"
def sha256HexBytes : Nat := 64

def validateCourseString (value : String) : Except IdentityError Unit :=
  if value.isEmpty then .error ⟨"courseString",.empty⟩
  else if courseStringMaxBytes<value.utf8ByteSize then .error ⟨"courseString",.tooLong⟩
  else if !value.toList.all (fun c => c.isAlphanum || c = ':' || c = '.' || c = '_' || c = '-') then
    .error ⟨"courseString",.invalidCharacter⟩
  else .ok ()

def isLowerHex (c : Char) : Bool := c.isDigit || ( 'a' ≤ c && c ≤ 'f')

def validateFingerprint (value : String) : Except IdentityError Unit :=
  let hex := value.toList.drop fingerprintHead.length
  if value.toList.take fingerprintHead.length=fingerprintHead.toList ∧
      hex.length=sha256HexBytes ∧ hex.all isLowerHex then .ok ()
  else .error ⟨"fingerprint",.invalidFingerprint⟩

structure CourseString where
  value : String
  valid : validateCourseString value=.ok ()
  deriving DecidableEq

structure VariantFingerprint where
  value : String
  valid : validateFingerprint value=.ok ()
  deriving DecidableEq

instance : Ord CourseString := ⟨compareOn CourseString.value⟩
instance : TransOrd CourseString := inferInstanceAs (TransCmp (compareOn CourseString.value))
instance : Ord VariantFingerprint := ⟨compareOn VariantFingerprint.value⟩
instance : TransOrd VariantFingerprint :=
  inferInstanceAs (TransCmp (compareOn VariantFingerprint.value))

instance : LawfulEqOrd CourseString where
  eq_of_compare {a b} h := by
    have hv : a.value=b.value := LawfulEqOrd.eq_of_compare h
    cases a; cases b; simpa using hv

instance : LawfulEqOrd VariantFingerprint where
  eq_of_compare {a b} h := by
    have hv : a.value=b.value := LawfulEqOrd.eq_of_compare h
    cases a; cases b; simpa using hv

structure CourseGroupKey where
  term : TermId
  campus : CampusCode
  courseString : CourseString
  deriving DecidableEq

namespace CourseGroupKey

def target (key : CourseGroupKey) : TermCampusKey := ⟨key.term,key.campus⟩

/-- The derived lexicographic order of the source struct: term, campus, course string. -/
instance : Ord CourseGroupKey :=
  ⟨compareLex (compareOn CourseGroupKey.target) (compareOn CourseGroupKey.courseString)⟩

instance : TransOrd CourseGroupKey := inferInstanceAs
  (TransCmp (compareLex (compareOn CourseGroupKey.target) (compareOn CourseGroupKey.courseString)))

instance : LawfulEqOrd CourseGroupKey where
  eq_of_compare {a b} h := by
    obtain ⟨ht,hs⟩ := compareLex_eq_eq.mp h
    have target : a.target=b.target := LawfulEqOrd.eq_of_compare ht
    have courseString : a.courseString=b.courseString := LawfulEqOrd.eq_of_compare hs
    cases a; cases b
    simp only [CourseGroupKey.target,TermCampusKey.mk.injEq] at target
    simp_all

end CourseGroupKey

structure CourseVariantKey where
  group : CourseGroupKey
  fingerprint : VariantFingerprint
  deriving DecidableEq

instance : Ord CourseVariantKey :=
  ⟨compareLex (compareOn CourseVariantKey.group) (compareOn CourseVariantKey.fingerprint)⟩

instance : TransOrd CourseVariantKey := inferInstanceAs
  (TransCmp (compareLex (compareOn CourseVariantKey.group)
    (compareOn CourseVariantKey.fingerprint)))

instance : LawfulEqOrd CourseVariantKey where
  eq_of_compare {a b} h := by
    obtain ⟨hg,hf⟩ := compareLex_eq_eq.mp h
    have group : a.group=b.group := LawfulEqOrd.eq_of_compare hg
    have fingerprint : a.fingerprint=b.fingerprint := LawfulEqOrd.eq_of_compare hf
    cases a; cases b; simp_all

structure CatalogOccurrenceKeyV1 where
  «section» : SectionKey
  ordinal : Nat
  deriving DecidableEq

instance : Ord CatalogOccurrenceKeyV1 :=
  ⟨compareLex (compareOn CatalogOccurrenceKeyV1.section) (compareOn CatalogOccurrenceKeyV1.ordinal)⟩

instance : TransOrd CatalogOccurrenceKeyV1 := inferInstanceAs
  (TransCmp (compareLex (compareOn CatalogOccurrenceKeyV1.section)
    (compareOn CatalogOccurrenceKeyV1.ordinal)))

instance : LawfulEqOrd CatalogOccurrenceKeyV1 where
  eq_of_compare {a b} h := by
    obtain ⟨hs,ho⟩ := compareLex_eq_eq.mp h
    have sections : a.section=b.section := LawfulEqOrd.eq_of_compare hs
    have ordinal : a.ordinal=b.ordinal := LawfulEqOrd.eq_of_compare ho
    cases a; cases b; simp_all

inductive CatalogUnknownReason where
  | missing
  | explicitNull
  | malformed
  | sparseEvidence
  | notObserved
  | sourceUnavailable
  | conflictingEvidence
  deriving DecidableEq, Repr

inductive CatalogFieldPresence (T : Type) where
  | absent
  | explicitNull
  | present (value : T)
  deriving DecidableEq, Repr

/-- Knowledge and presence stay apart: a missing or null source value is no value. -/
inductive CatalogFieldKnowledge (T : Type) where
  | known (presence : CatalogFieldPresence T)
  | unknown (reason : CatalogUnknownReason)
  deriving DecidableEq, Repr

namespace CatalogFieldKnowledge

variable {T : Type}

instance : Inhabited (CatalogFieldKnowledge T) := ⟨.known .absent⟩

def present (value : T) : CatalogFieldKnowledge T := .known (.present value)

/-- The value, where the field is known to have one. -/
def knownValue : CatalogFieldKnowledge T → Option T
  | .known (.present value) => some value
  | .known .explicitNull => none
  | .known .absent => none
  | .unknown _ => none

end CatalogFieldKnowledge

inductive CatalogPrerequisiteState where
  | has
  | noneReported
  | unknown
  deriving DecidableEq, Repr, Inhabited

inductive CatalogModality where
  | onCampusOrInPerson
  | hybrid
  | online
  | other
  | unknown
  | unknownConflict
  deriving DecidableEq, Repr, Inhabited

inductive CatalogSynchronicity where
  | sync
  | async
  | mixed
  | byArrangement
  | unspecified
  | unknown
  deriving DecidableEq, Repr, Inhabited

inductive CatalogOccurrenceKind where
  | scheduled
  | byArrangement
  | unspecified
  deriving DecidableEq, Repr, Inhabited

inductive CatalogOccurrenceEvidence where
  | none
  | physical
  | remote
  deriving DecidableEq, Repr, Inhabited

inductive CatalogRequiredness where
  | required
  | optional
  | unknownRequiredness
  deriving DecidableEq, Repr, Inhabited

inductive CatalogTimeKnowledgeV1 where
  | missing
  | explicitNull
  | empty
  | partiallyKnown
  | invalid
  | known (startMinute endMinute : Nat)
  deriving DecidableEq, Repr, Inhabited

structure CatalogUnitMajorV1 where
  unitCode : String
  majorCode : String
  deriving DecidableEq, Repr

structure CatalogCommentV1 where
  code : CatalogFieldKnowledge String
  description : CatalogFieldKnowledge String
  deriving DecidableEq, Repr

structure NormalizedCourseGroupV1 where
  key : CourseGroupKey
  variantKeys : List CourseVariantKey
  deriving DecidableEq

structure NormalizedCourseVariantV1 where
  key : CourseVariantKey
  title : CatalogFieldKnowledge String := default
  expandedTitle : CatalogFieldKnowledge String := default
  description : CatalogFieldKnowledge String := default
  notes : CatalogFieldKnowledge String := default
  subjectGroupNotes : CatalogFieldKnowledge String := default
  subjectNotes : CatalogFieldKnowledge String := default
  unitNotes : CatalogFieldKnowledge String := default
  synopsisUrl : CatalogFieldKnowledge String := default
  prerequisiteNotes : CatalogFieldKnowledge String := default
  prerequisiteState : CatalogPrerequisiteState := default
  credits : CatalogFieldKnowledge String := default
  level : CatalogFieldKnowledge String := default
  subjectCode : CatalogFieldKnowledge String := default
  subjectDescription : CatalogFieldKnowledge String := default
  courseNumber : CatalogFieldKnowledge String := default
  supplementCode : CatalogFieldKnowledge String := default
  schoolCode : CatalogFieldKnowledge String := default
  offeringUnit : CatalogFieldKnowledge String := default
  offeringUnitTitle : CatalogFieldKnowledge String := default
  coreCodes : CatalogFieldKnowledge (List String) := default
  campusLocations : CatalogFieldKnowledge (List String) := default
  sectionKeys : List SectionKey
  deriving DecidableEq

/-- The provenance of the Catalog's open status and the reliability of an instructor have
one value each and are left out. -/
structure NormalizedSectionV1 where
  key : SectionKey
  variantKey : CourseVariantKey
  sectionNumber : CatalogFieldKnowledge String := default
  subtitle : CatalogFieldKnowledge String := default
  subtopic : CatalogFieldKnowledge String := default
  sectionNotes : CatalogFieldKnowledge String := default
  sessionDates : CatalogFieldKnowledge String := default
  sessionDatePrintIndicator : CatalogFieldKnowledge String := default
  comments : CatalogFieldKnowledge (List CatalogCommentV1) := default
  commentsText : CatalogFieldKnowledge String := default
  crossListedSectionsText : CatalogFieldKnowledge String := default
  crossListedSectionType : CatalogFieldKnowledge String := default
  instructors : CatalogFieldKnowledge (List String) := default
  rawSectionCourseType : CatalogFieldKnowledge String := default
  deliveryModality : CatalogModality := default
  synchronicity : CatalogSynchronicity := default
  examCode : CatalogFieldKnowledge String := default
  examCodeText : CatalogFieldKnowledge String := default
  specialPermissionAddCode : CatalogFieldKnowledge String := default
  specialPermissionAddDescription : CatalogFieldKnowledge String := default
  specialPermissionDropCode : CatalogFieldKnowledge String := default
  specialPermissionDropDescription : CatalogFieldKnowledge String := default
  majorCodes : CatalogFieldKnowledge (List String) := default
  unitCodes : CatalogFieldKnowledge (List String) := default
  minorCodes : CatalogFieldKnowledge (List String) := default
  honorProgramCodes : CatalogFieldKnowledge (List String) := default
  unitMajors : CatalogFieldKnowledge (List CatalogUnitMajorV1) := default
  eligibilityText : CatalogFieldKnowledge String := default
  openToText : CatalogFieldKnowledge String := default
  catalogOpenStatus : CatalogFieldKnowledge Bool := default
  occurrenceKeys : CatalogFieldKnowledge (List CatalogOccurrenceKeyV1) := default
  deriving DecidableEq

structure NormalizedOccurrenceV1 where
  key : CatalogOccurrenceKeyV1
  rawCode : CatalogFieldKnowledge String := default
  rawDescription : CatalogFieldKnowledge String := default
  modality : CatalogFieldKnowledge CatalogModality := default
  synchronicity : CatalogFieldKnowledge CatalogSynchronicity := default
  rawDay : CatalogFieldKnowledge String := default
  days : CatalogFieldKnowledge (List String) := default
  rawStartTime : CatalogFieldKnowledge String := default
  rawEndTime : CatalogFieldKnowledge String := default
  time : CatalogTimeKnowledgeV1 := default
  startDate : CatalogFieldKnowledge String := default
  endDate : CatalogFieldKnowledge String := default
  campus : CatalogFieldKnowledge String := default
  campusName : CatalogFieldKnowledge String := default
  building : CatalogFieldKnowledge String := default
  room : CatalogFieldKnowledge String := default
  requiredness : CatalogRequiredness := default
  kind : CatalogOccurrenceKind := default
  evidence : CatalogOccurrenceEvidence := default
  normalizationReason : String := default
  deriving DecidableEq

/-- One published snapshot of a target, as the query side reads it. -/
structure NormalizedCatalogV1 where
  target : TermCampusKey
  contentVersion : ℕ+
  courseGroups : List NormalizedCourseGroupV1
  courseVariants : List NormalizedCourseVariantV1
  sections : List NormalizedSectionV1
  occurrences : List NormalizedOccurrenceV1
  deriving DecidableEq

end CoursePlanner.Contracts
