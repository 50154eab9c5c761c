import CoursePlanner.Query.Evaluation
import CoursePlanner.Query.Credits

namespace CoursePlanner.Query

open Std Library Contracts FilterFieldId

/-- Text evidence: the hits of the bound query and their ranks. -/
structure TextHitPlan where
  query : FilterSearchTextV1
  targetVersions : ExtTreeMap TermCampusKey ℕ+
  hits : ExtTreeMap CourseVariantKey Nat

def TextHitPlan.rank (plan : TextHitPlan) (key : CourseVariantKey) : Option Nat := plan.hits[key]?

def unknownReasonCode : CatalogUnknownReason → MatchReasonCode
  | .missing => .missingReliableData
  | .explicitNull => .missingReliableData
  | .sparseEvidence => .missingReliableData
  | .notObserved => .missingReliableData
  | .malformed => .invalidValue
  | .sourceUnavailable => .sourceUnavailable
  | .conflictingEvidence => .conflictingEvidence

/-- A known value is judged; a known lack of one and an unknown field are uncertain. -/
def judgeKnown {T : Type} (knowledge : CatalogFieldKnowledge T) (field : FilterFieldId)
    (judge : T → PredicateEvaluation) : PredicateEvaluation :=
  match knowledge with
  | .known (.present value) => judge value
  | .known .explicitNull => .uncertain field.reasonField .missingReliableData
  | .known .absent => .uncertain field.reasonField .missingReliableData
  | .unknown reason => .uncertain field.reasonField (unknownReasonCode reason)

def boolResult (holds : Bool) (field : FilterFieldId) : PredicateEvaluation :=
  if holds then .matched else .noMatch field.reasonField

def evaluateKnown {T : Type} (knowledge : CatalogFieldKnowledge T) (field : FilterFieldId)
    (predicate : T → Bool) : PredicateEvaluation :=
  judgeKnown knowledge field (fun value => boolResult (predicate value) field)

def inactiveOrBool (inactive holds : Bool) (field : FilterFieldId) : PredicateEvaluation :=
  if inactive then .matched else boolResult holds field

def exact (left right : String) : Bool := left=right || eqIgnoreAsciiCase left right

def exactValues (actual : CatalogFieldKnowledge String) (selected : List String)
    (field : FilterFieldId) : PredicateEvaluation :=
  if selected.isEmpty then .matched
  else evaluateKnown actual field (fun actual => selected.any (exact actual))

def tokenValues (tokens : List FilterTokenV1) : List String := tokens.map FilterTokenV1.value

def instructorCollection (actual : CatalogFieldKnowledge (List String))
    (selected : List String) (field : FilterFieldId) : PredicateEvaluation :=
  if selected.isEmpty then .matched
  else evaluateKnown actual field (fun actual =>
    actual.any (fun actual => selected.any (exact (collapse actual))))

def evaluateCredits (value : CatalogFieldKnowledge String) (selected : Option CreditRangeV1) :
    PredicateEvaluation :=
  match selected with
  | none => .matched
  | some selected => judgeKnown value .courseCredits (fun value =>
      match parseCreditValue value with
      | .ok course => boolResult
          (selected.minimumHundredths.all (fun minimum => minimum ≤ course.minimum) &&
            selected.maximumHundredths.all (fun maximum => course.maximum ≤ maximum))
          .courseCredits
      | .error .unbounded => .uncertain courseCredits.reasonField .unknownValue
      | .error .invalid => .uncertain courseCredits.reasonField .invalidValue)

def evaluateCore (value : CatalogFieldKnowledge (List String)) (core : CoreFilterV1) :
    PredicateEvaluation :=
  if core.codes.isEmpty then .matched
  else judgeKnown value .courseCoreCode (fun value =>
    let evaluations := (tokenValues core.codes).map (fun selected =>
      boolResult (value.any (fun actual => exact actual selected)) .courseCoreCode)
    match core.mode with
    | .any => orActive evaluations
    | .all => andAll evaluations)

def evaluatePrerequisite (actual : CatalogPrerequisiteState) (selected : PrerequisiteFilterV1) :
    PredicateEvaluation :=
  match selected with
  | .any => .matched
  | .has =>
    if actual=.unknown then .uncertain coursePrerequisite.reasonField .unknownValue
    else boolResult (actual=.has) .coursePrerequisite
  | .noneReported =>
    if actual=.unknown then .uncertain coursePrerequisite.reasonField .unknownValue
    else boolResult (actual=.noneReported) .coursePrerequisite

def evaluateCourseNumberBand (actual : CatalogFieldKnowledge String) (selected : List Nat) :
    PredicateEvaluation :=
  if selected.isEmpty then .matched
  else judgeKnown actual .courseNumberBand (fun value =>
    match courseNumberBand value with
    | some band => boolResult (selected.contains band) .courseNumberBand
    | none => .uncertain FilterFieldId.courseNumberBand.reasonField .invalidValue)

def courseFilterEvaluations (group : CourseGroupKey) (variant : NormalizedCourseVariantV1)
    (filters : NormalizedFilterValuesV1) (textHits : Option TextHitPlan) :
    List (FilterFieldId × PredicateEvaluation) :=
  [(.courseTerm,boolResult (group.term=filters.term) .courseTerm),
    (.courseCampus,inactiveOrBool filters.campuses.isEmpty (filters.campuses.contains group.campus)
      .courseCampus),
    (.courseSubject,exactValues variant.subjectCode filters.subjects .courseSubject),
    (.courseText,match filters.text with
      | none => .matched
      | some _ => boolResult (textHits.any (fun plan => (plan.rank variant.key).isSome))
          .courseText),
    (.courseNumberBand,evaluateCourseNumberBand variant.courseNumber filters.courseNumberBands),
    (.courseLevel,exactValues variant.level (tokenValues filters.levels) .courseLevel),
    (.courseCredits,evaluateCredits variant.credits filters.credits),
    (.courseCoreCode,evaluateCore variant.coreCodes filters.core),
    (.coursePrerequisite,evaluatePrerequisite variant.prerequisiteState filters.prerequisite)]

def freshAt (evidence : LiveOpenEvidenceV1) (now : OffsetDateTime) : Bool :=
  evidence.observedAt.isSome && evidence.freshUntil.any (fun freshUntil => now ≤ freshUntil)

def evaluateOpen (evidence : LiveOpenEvidenceV1) (now : OffsetDateTime)
    (selected : List LiveOpenStateV1) : PredicateEvaluation :=
  if selected.isEmpty then .matched
  else if !freshAt evidence now || evidence.state=.unknown || evidence.uncertainty.isSome then
    if selected.contains .unknown then .matched
    else .uncertain sectionOpenStatus.reasonField
      ((evidence.uncertainty.filter (fun code => !code.isKnownMismatch)).getD .missingReliableData)
  else boolResult (selected.contains evidence.state) .sectionOpenStatus

def userModality : CatalogModality → Option UserModalityV3
  | .onCampusOrInPerson => some .onCampusOrInPerson
  | .hybrid => some .hybrid
  | .online => some .online
  | .other => none
  | .unknown => none
  | .unknownConflict => none

def evaluateModality (actual : CatalogModality) (selected : List UserModalityV3) :
    PredicateEvaluation :=
  if selected.isEmpty then .matched
  else match userModality actual with
    | none => .uncertain FilterFieldId.sectionModality.reasonField
        (if actual=.unknownConflict then .conflictingEvidence else .unknownValue)
    | some known => boolResult (selected.contains known) .sectionModality

inductive ComponentApplicability where
  | applicable
  | notApplicable
  | uncertain (code : MatchReasonCode)
  deriving DecidableEq, Repr

/-- What the section's own modality says of an occurrence that states none. -/
def bySectionModality (sectionModality : CatalogModality)
    (online onCampus : ComponentApplicability) (code : MatchReasonCode) : ComponentApplicability :=
  match sectionModality with
  | .onCampusOrInPerson => onCampus
  | .online => online
  | .hybrid => .uncertain code
  | .other => .uncertain code
  | .unknown => .uncertain code
  | .unknownConflict => .uncertain code

/-- Whether an occurrence has an online component. Remote evidence is enough for it. -/
def onlineApplicability (sectionModality : CatalogModality)
    (occurrence : NormalizedOccurrenceV1) : ComponentApplicability :=
  if occurrence.evidence=.remote then .applicable
  else match occurrence.modality with
    | .known (.present value) =>
      if value=.online ∨ value=.hybrid then .applicable
      else if occurrence.evidence=.physical then .notApplicable
      else match value with
        | .onCampusOrInPerson => .notApplicable
        | .unknownConflict => .uncertain .conflictingEvidence
        | _ => bySectionModality sectionModality .applicable .notApplicable .unknownValue
    | .known .explicitNull => unstated .missingReliableData
    | .known .absent => unstated .missingReliableData
    | .unknown reason => unstated (unknownReasonCode reason)
where
  unstated (code : MatchReasonCode) : ComponentApplicability :=
    if occurrence.evidence=.physical then .notApplicable
    else bySectionModality sectionModality .applicable .notApplicable code

def evaluateSynchronicityValue (actual : CatalogSynchronicity)
    (selected : List UserSynchronicityV3) : PredicateEvaluation :=
  match actual with
  | .sync => boolResult (selected.contains .sync) .sectionSynchronicity
  | .async => boolResult (selected.contains .async) .sectionSynchronicity
  | .mixed => boolResult (selected.contains .mixed) .sectionSynchronicity
  | _ => .uncertain sectionSynchronicity.reasonField .unknownValue

/-- What the occurrences seen so far prove of the online timing. -/
structure OnlineTiming where
  hasSync : Bool
  hasAsync : Bool
  uncertainties : List PredicateEvaluation

namespace OnlineTiming

def doubt (timing : OnlineTiming) (code : MatchReasonCode) : OnlineTiming :=
  {timing with uncertainties := timing.uncertainties++
    [.uncertain sectionSynchronicity.reasonField code]}

/-- A remote meeting by arrangement is asynchronous where its own value says nothing. -/
def inconclusive (timing : OnlineTiming) (occurrence : NormalizedOccurrenceV1)
    (code : MatchReasonCode) : OnlineTiming :=
  if occurrence.evidence=.remote ∧ occurrence.kind=.byArrangement then
    {timing with hasAsync := true}
  else timing.doubt code

def note (timing : OnlineTiming) (sectionModality : CatalogModality)
    (occurrence : NormalizedOccurrenceV1) : OnlineTiming :=
  match onlineApplicability sectionModality occurrence with
  | .notApplicable => timing
  | .uncertain code => timing.doubt code
  | .applicable =>
    match occurrence.synchronicity with
    | .known (.present .sync) => {timing with hasSync := true}
    | .known (.present .async) => {timing with hasAsync := true}
    | .known (.present .mixed) => {timing with hasSync := true,hasAsync := true}
    | .known (.present _) => timing.inconclusive occurrence .unknownValue
    | .known .explicitNull => timing.inconclusive occurrence .missingReliableData
    | .known .absent => timing.inconclusive occurrence .missingReliableData
    | .unknown reason => timing.inconclusive occurrence (unknownReasonCode reason)

/-- Whether a selected category is still possible. -/
def couldMatch (timing : OnlineTiming) (selected : List UserSynchronicityV3) : Bool :=
  match timing.hasSync,timing.hasAsync with
  | true,true => selected.contains .mixed
  | true,false => selected.contains .sync || selected.contains .mixed
  | false,true => selected.contains .async || selected.contains .mixed
  | false,false => true

def evaluate (timing : OnlineTiming) (sectionModality : CatalogModality)
    (selected : List UserSynchronicityV3) : PredicateEvaluation :=
  if !timing.uncertainties.isEmpty then
    if timing.hasSync && timing.hasAsync then
      boolResult (selected.contains .mixed) .sectionSynchronicity
    else if timing.couldMatch selected then andAll timing.uncertainties
    else .noMatch sectionSynchronicity.reasonField
  else match timing.hasSync,timing.hasAsync with
    | true,true => evaluateSynchronicityValue .mixed selected
    | true,false => evaluateSynchronicityValue .sync selected
    | false,true => evaluateSynchronicityValue .async selected
    | false,false =>
      if sectionModality=.onCampusOrInPerson then .matched
      else .uncertain sectionSynchronicity.reasonField .missingReliableData

end OnlineTiming

def evaluateSynchronicity («section» : NormalizedSectionV1)
    (occurrences : Option (List NormalizedOccurrenceV1)) (selected : List UserSynchronicityV3) :
    PredicateEvaluation :=
  if selected.isEmpty then .matched
  else match occurrences.filter (fun values => !values.isEmpty) with
    | none =>
      match «section».deliveryModality with
      | .onCampusOrInPerson => .matched
      | .online => evaluateSynchronicityValue «section».synchronicity selected
      | _ => .uncertain sectionSynchronicity.reasonField .missingReliableData
    | some occurrences =>
      (occurrences.foldl (fun (timing : OnlineTiming) occurrence =>
        timing.note «section».deliveryModality occurrence) ⟨false,false,[]⟩).evaluate
          «section».deliveryModality selected

inductive ScheduleEvidence where
  | explicitAsync
  | timed (days : List WeekdayV1) (start stop : Nat)
  | unknown (code : MatchReasonCode)
  deriving DecidableEq, Repr

def weekday : String → Option WeekdayV1
  | "M" => some .monday
  | "T" => some .tuesday
  | "W" => some .wednesday
  | "H" => some .thursday
  | "TH" => some .thursday
  | "F" => some .friday
  | "S" => some .saturday
  | "U" => some .sunday
  | _ => none

def timedSchedule (days : CatalogFieldKnowledge (List String)) (start stop : Nat) :
    ScheduleEvidence :=
  match days with
  | .known (.present value) =>
    if !value.isEmpty ∧ value.length ≤ 7 then
      match value.mapM weekday with
      | some days => .timed days start stop
      | none => .unknown .invalidValue
    else .unknown .tba
  | .known .explicitNull => .unknown .tba
  | .known .absent => .unknown .missingReliableData
  | .unknown reason => .unknown (unknownReasonCode reason)

def scheduleEvidence (occurrence : NormalizedOccurrenceV1) : ScheduleEvidence :=
  if occurrence.synchronicity=.present .async then .explicitAsync
  else match occurrence.time with
    | .known startMinute endMinute => timedSchedule occurrence.days startMinute endMinute
    | .missing => .unknown .missingReliableData
    | .explicitNull => .unknown .tba
    | .empty => .unknown .tba
    | .partiallyKnown => .unknown .tba
    | .invalid => .unknown .invalidValue

def evaluateSchedule (windows : List AvailabilityWindowV1) :
    ScheduleEvidence → PredicateEvaluation
  | .explicitAsync => .matched
  | .unknown code => .uncertain sectionAvailability.reasonField code
  | .timed days start stop => boolResult (days.all (fun day => windows.any (fun window =>
      window.weekday=day && window.startMinute ≤ start && stop ≤ window.endMinute)))
      .sectionAvailability

def evaluateAvailability («section» : NormalizedSectionV1)
    (occurrences : Option (List NormalizedOccurrenceV1)) (windows : List AvailabilityWindowV1) :
    PredicateEvaluation :=
  if windows.isEmpty then .matched
  else match occurrences.filter (fun values => !values.isEmpty) with
    | none =>
      if «section».synchronicity=.async then .matched
      else .uncertain sectionAvailability.reasonField .missingReliableData
    | some occurrences =>
      andAll ((occurrences.filter (fun occurrence => occurrence.requiredness≠.optional)).map
        (fun occurrence => evaluateSchedule windows (scheduleEvidence occurrence)))

/-- Whether an occurrence has a place to travel to. -/
def travelApplicability (sectionModality : CatalogModality)
    (occurrence : NormalizedOccurrenceV1) : ComponentApplicability :=
  match occurrence.evidence with
  | .remote => .notApplicable
  | .physical => .applicable
  | .none =>
    match occurrence.modality with
    | .known (.present .online) => .notApplicable
    | .known (.present .onCampusOrInPerson) => .applicable
    | .known (.present .hybrid) => .applicable
    | .known (.present .unknownConflict) => .uncertain .conflictingEvidence
    | .known (.present _) =>
      bySectionModality sectionModality .notApplicable .applicable .unknownValue
    | .known .explicitNull =>
      bySectionModality sectionModality .notApplicable .applicable .missingReliableData
    | .known .absent =>
      bySectionModality sectionModality .notApplicable .applicable .missingReliableData
    | .unknown reason =>
      bySectionModality sectionModality .notApplicable .applicable (unknownReasonCode reason)

/-- A place is named by its campus code or by its campus name. -/
def evaluateOccurrenceLocation (occurrence : NormalizedOccurrenceV1) (selected : List String) :
    PredicateEvaluation :=
  orActive [exactValues occurrence.campus selected .sectionMeetingLocation,
    exactValues occurrence.campusName selected .sectionMeetingLocation]

/-- Every meeting the student has to travel to must be in a selected location. -/
def evaluateMeetingLocation («section» : NormalizedSectionV1)
    (occurrences : Option (List NormalizedOccurrenceV1)) (selected : List String) :
    PredicateEvaluation :=
  if selected.isEmpty then .matched
  else match occurrences.filter (fun values => !values.isEmpty) with
    | none =>
      if «section».deliveryModality=.online then .matched
      else .uncertain sectionMeetingLocation.reasonField .missingReliableData
    | some occurrences => andAll (occurrences.filterMap (fun occurrence =>
        if occurrence.requiredness=.optional then none
        else match travelApplicability «section».deliveryModality occurrence with
          | .applicable => some (evaluateOccurrenceLocation occurrence selected)
          | .notApplicable => none
          | .uncertain code =>
            some (.uncertain sectionMeetingLocation.reasonField code)))

def evaluateExam («section» : NormalizedSectionV1) (selected : List String) :
    PredicateEvaluation :=
  if selected.isEmpty then .matched
  else orActive [exactValues «section».examCode selected .sectionExam,
    exactValues «section».examCodeText selected .sectionExam]

def evaluatePermission (value : CatalogFieldKnowledge String) (selected : PermissionFilterV1) :
    PredicateEvaluation :=
  if selected=.any then .matched
  else match value with
    | .known (.present value) => boolResult
        (selected=(if (trim value).isEmpty then .notRequired else .required)) .sectionPermission
    | .known .explicitNull => boolResult (selected=.notRequired) .sectionPermission
    | .known .absent =>
      .uncertain sectionPermission.reasonField .missingReliableData
    | .unknown reason =>
      .uncertain sectionPermission.reasonField (unknownReasonCode reason)

def sectionFilterEvaluations («section» : NormalizedSectionV1)
    (occurrences : Option (List NormalizedOccurrenceV1)) («open» : LiveOpenEvidenceV1)
    (now : OffsetDateTime) (filters : NormalizedFilterValuesV1) :
    List (FilterFieldId × PredicateEvaluation) :=
  [(.sectionIndex,inactiveOrBool filters.sectionIndexes.isEmpty
      (filters.sectionIndexes.contains «section».key.index) .sectionIndex),
    (.sectionOpenStatus,evaluateOpen «open» now filters.openStatuses),
    (.sectionModality,evaluateModality «section».deliveryModality filters.modalities),
    (.sectionSynchronicity,evaluateSynchronicity «section» occurrences filters.synchronicities),
    (.sectionInstructor,instructorCollection «section».instructors
      (tokenValues filters.instructors) .sectionInstructor),
    (.sectionAvailability,evaluateAvailability «section» occurrences filters.availability),
    (.sectionMeetingLocation,evaluateMeetingLocation «section» occurrences
      (tokenValues filters.meetingLocations)),
    (.sectionExam,evaluateExam «section» (tokenValues filters.examCodes)),
    (.sectionPermission,evaluatePermission «section».specialPermissionAddCode filters.permission)]

/-- An uncertain evaluation is admitted, except where the request has to ask for it. -/
def admitFilterEvaluation (field : FilterFieldId) (evaluation : PredicateEvaluation)
    (filters : NormalizedFilterValuesV1) : Bool :=
  match evaluation.outcome with
  | .noMatch => false
  | .matched => true
  | .uncertain =>
    match field with
    | .coursePrerequisite =>
      filters.prerequisite=.any || filters.includeIncomplete.prerequisite
    | .sectionModality => filters.modalities.isEmpty || filters.includeIncomplete.modality
    | .sectionSynchronicity =>
      filters.synchronicities.isEmpty || filters.includeIncomplete.synchronicity
    | _ => true

structure EvaluatedFilters where
  evaluation : PredicateEvaluation
  filterMatches : List FilterMatchV1
  admitted : Bool

/-- Every evaluation is explained, also of an entity that is not admitted. -/
def summarizeFilterEvaluations (evaluations : List (FilterFieldId × PredicateEvaluation))
    (filters : NormalizedFilterValuesV1) : Except Abort EvaluatedFilters := do
  let filterMatches ← evaluations.mapM (fun (field,evaluation) => do
    let explanation ← evaluation.intoExplanation
    pure (FilterMatchV1.mk field explanation))
  pure {
    evaluation := andAll (evaluations.map Prod.snd)
    filterMatches := filterMatches
    admitted := evaluations.all (fun (field,evaluation) =>
      admitFilterEvaluation field evaluation filters)}

def evaluateCourseFilterMatches (group : CourseGroupKey) (variant : NormalizedCourseVariantV1)
    (filters : NormalizedFilterValuesV1) (textHits : Option TextHitPlan) :
    Except Abort EvaluatedFilters :=
  summarizeFilterEvaluations (courseFilterEvaluations group variant filters textHits) filters

def evaluateSectionFilterMatches («section» : NormalizedSectionV1)
    (occurrences : Option (List NormalizedOccurrenceV1)) («open» : LiveOpenEvidenceV1)
    (now : OffsetDateTime) (filters : NormalizedFilterValuesV1) : Except Abort EvaluatedFilters :=
  summarizeFilterEvaluations (sectionFilterEvaluations «section» occurrences «open» now filters)
    filters

def sectionFiltersActive (filters : NormalizedFilterValuesV1) : Bool :=
  !filters.sectionIndexes.isEmpty || !filters.openStatuses.isEmpty ||
    !filters.modalities.isEmpty || !filters.synchronicities.isEmpty ||
    !filters.instructors.isEmpty || !filters.availability.isEmpty ||
    !filters.meetingLocations.isEmpty || !filters.examCodes.isEmpty ||
    filters.permission≠.any

end CoursePlanner.Query
