import CoursePlanner.Query.Engine
import CoursePlanner.Query.Accepted
import CoursePlanner.Query.Explanation

namespace CoursePlanner.Query

open Std Library Contracts

/-- What a request is answered from: snapshots that a corpus accepts, and what is known at
one instant of the openness of each section. -/
structure Scope where
  catalogs : List NormalizedCatalogV1
  accepted : Accepted catalogs
  now : OffsetDateTime
  openFor : SectionKey → LiveOpenEvidenceV1
  openStateFor : SectionKey → LiveOpenStateV1

namespace Scope

variable (scope : Scope)

def term : TermId := (scope.catalogs.head scope.accepted.nonempty).target.term

def targets : List TermCampusKey :=
  (ExtTreeSet.ofList (scope.catalogs.map NormalizedCatalogV1.target)).toList

def version (target : TermCampusKey) : ℕ+ :=
  ((catalogAt scope.catalogs target).map NormalizedCatalogV1.contentVersion).getD ⟨1,Nat.one_pos⟩

def groups : List NormalizedCourseGroupV1 :=
  sortByKey NormalizedCourseGroupV1.key (scope.catalogs.flatMap NormalizedCatalogV1.courseGroups)

def sections : List NormalizedSectionV1 :=
  sortByKey NormalizedSectionV1.key (scope.catalogs.flatMap NormalizedCatalogV1.sections)

def variantsFor (group : NormalizedCourseGroupV1) : List NormalizedCourseVariantV1 :=
  group.variantKeys.filterMap (variantAt scope.catalogs)

def sectionsFor (variant : NormalizedCourseVariantV1) : List NormalizedSectionV1 :=
  variant.sectionKeys.filterMap (sectionAt scope.catalogs)

def occurrencesFor (held : NormalizedSectionV1) : Option (List NormalizedOccurrenceV1) :=
  held.occurrenceKeys.knownValue.map (fun keys => keys.filterMap (occurrenceAt scope.catalogs))

section Search

variable (filters : NormalizedFilterValuesV1) (textHits : Option TextHitPlan)

def courseFilters (group : CourseGroupKey) (variant : NormalizedCourseVariantV1) :
    EvaluatedFilters :=
  .of (courseFilterEvaluations group variant filters textHits) filters

def sectionFilters (held : NormalizedSectionV1) : EvaluatedFilters :=
  .of (sectionFilterEvaluations held (scope.occurrencesFor held) (scope.openFor held.key) scope.now
    filters) filters

def sectionItem (held : NormalizedSectionV1) : SectionQueryItemV1 where
  «section» := held
  occurrences := (scope.occurrencesFor held).getD []
  «open» := scope.openFor held.key
  explanation := (scope.sectionFilters filters held).evaluation.explanation
  filterMatches := (scope.sectionFilters filters held).filterMatches

def unfilteredSectionItem (held : NormalizedSectionV1) : SectionQueryItemV1 where
  «section» := held
  occurrences := (scope.occurrencesFor held).getD []
  «open» := scope.openFor held.key
  explanation := PredicateEvaluation.matched.explanation
  filterMatches := []

/-- What the sections of a variant say for it, and whether one is admitted. -/
def witness (variant : NormalizedCourseVariantV1) : PredicateEvaluation × Bool :=
  sectionWitness (sectionFiltersActive filters)
    (((scope.sectionsFor variant).filter (fun held =>
      (scope.sectionFilters filters held).admitted)).map (fun held =>
        (scope.sectionFilters filters held).evaluation))

/-- A variant is returned if its course filters and one of its sections admit it. -/
def admits (variant : NormalizedCourseVariantV1) : Bool :=
  (courseFilters filters textHits variant.key.group variant).admitted &&
    (scope.witness filters variant).2

def variantEvaluation (variant : NormalizedCourseVariantV1) : PredicateEvaluation :=
  andAll [(courseFilters filters textHits variant.key.group variant).evaluation,
    (scope.witness filters variant).1]

def admittedVariants (group : NormalizedCourseGroupV1) : List NormalizedCourseVariantV1 :=
  (scope.variantsFor group).filter (scope.admits filters textHits)

def groupEvaluation (group : NormalizedCourseGroupV1) : PredicateEvaluation :=
  orNonempty ((scope.admittedVariants filters textHits group).map
    (scope.variantEvaluation filters textHits)) variantWitnessField

def courseCandidate (group : NormalizedCourseGroupV1) : CourseCandidate where
  group := group
  evaluation := scope.groupEvaluation filters textHits group
  exactIdentifier := exactCourseIdentifier filters group.key
  bestRank := QueryEngine.bestRank textHits (scope.admittedVariants filters textHits group)
  title := QueryEngine.leastTitle (scope.admittedVariants filters textHits group)

/-- The evaluation of a section together with that of its course. -/
def overall (variant : NormalizedCourseVariantV1) (held : NormalizedSectionV1) :
    PredicateEvaluation :=
  andAll [(courseFilters filters textHits variant.key.group variant).evaluation,
    (scope.sectionFilters filters held).evaluation]

/-- A section as a search returns it, under its course or by itself. -/
def returnedSection (variant : NormalizedCourseVariantV1) (held : NormalizedSectionV1) :
    SectionQueryItemV1 :=
  {scope.sectionItem filters held with
    explanation := (scope.overall filters textHits variant held).explanation}

def returnedSections (variant : NormalizedCourseVariantV1) : List NormalizedSectionV1 :=
  (scope.sectionsFor variant).filter (fun held =>
    !sectionFiltersActive filters || (scope.sectionFilters filters held).admitted)

def textMatch (variant : NormalizedCourseVariantV1) : Option TextMatchEvidenceV1 :=
  QueryEngine.textMatch filters textHits variant (exactCourseIdentifier filters variant.key.group)

def variantItem (variant : NormalizedCourseVariantV1) : CourseVariantQueryItemV1 where
  variant := variant
  explanation := (scope.variantEvaluation filters textHits variant).explanation
  filterMatches := (courseFilters filters textHits variant.key.group variant).filterMatches
  textMatch := textMatch filters textHits variant
  sections := (scope.returnedSections filters variant).map
    (scope.returnedSection filters textHits variant)

def courseItem (group : NormalizedCourseGroupV1) : CourseQueryItemV1 where
  group := group
  explanation := (scope.groupEvaluation filters textHits group).explanation
  variants := (scope.admittedVariants filters textHits group).map
    (scope.variantItem filters textHits)

/-- A section is returned by itself if its course filters and its own admit it. -/
def sectionCandidate (held : NormalizedSectionV1) : Option SectionCandidate :=
  (variantAt scope.catalogs held.variantKey).bind (fun variant =>
    if (courseFilters filters textHits variant.key.group variant).admitted &&
        (scope.sectionFilters filters held).admitted then some {
      «section» := held
      variant := variant
      evaluation := scope.overall filters textHits variant held
      sectionNumber := held.sectionNumber.knownValue.getD ""
      exactIdentifier := exactCourseIdentifier filters variant.key.group
      textRank := (QueryEngine.textRank textHits variant).getD u32Max
      openState := scope.openStateFor held.key}
    else none)

def sectionSearchItem (candidate : SectionCandidate) : SectionSearchItemV1 where
  variant := candidate.variant
  «section» := scope.returnedSection filters textHits candidate.variant candidate.section
  courseFilterMatches :=
    (courseFilters filters textHits candidate.variant.key.group candidate.variant).filterMatches
  textMatch := textMatch filters textHits candidate.variant

def authoritativeCodes : List String :=
  ((scope.groups.filter (fun group =>
    filters.campuses.isEmpty || filters.campuses.contains group.key.campus)).flatMap
      scope.variantsFor).flatMap (fun variant =>
        (variant.coreCodes.knownValue.getD []).map asciiUpper)

def validateFilters : Except QueryError Unit := do
  ensure (filters.term=scope.term) .filterTermMismatch
  match (tokenValues filters.core.codes).find? (fun code =>
      !(scope.authoritativeCodes filters).contains code) with
  | none => pure ()
  | some code => throw (.unknownCoreCode code)

def validateTextPlan : Except QueryError Unit :=
  match filters.text,textHits with
  | none,none => .ok ()
  | some _,none => .error .textEvidenceUnavailable
  | none,some _ => .error .unexpectedTextEvidence
  | some query,some plan => do
    ensure (query=plan.query) .textQueryMismatch
    let expected : ExtTreeMap TermCampusKey ℕ+ :=
      .ofList (scope.targets.map (fun target => (target,scope.version target)))
    ensure (expected.keys=plan.targetVersions.keys) .textTargetSetMismatch
    ensure (expected.toList=plan.targetVersions.toList) .textContentVersionMismatch
    ensure (∀key∈plan.hits.keys,key.group.target∈scope.targets ∧
      (variantAt scope.catalogs key).isSome=true) .foreignTextHit

/-- The groups a course search returns, before they are sorted. -/
def returnedGroups : List NormalizedCourseGroupV1 :=
  scope.groups.filter (fun group =>
    (scope.groupEvaluation filters textHits group).outcome≠.noMatch)

def sectionCandidates : List SectionCandidate :=
  scope.sections.filterMap (scope.sectionCandidate filters textHits)

end Search

def courseSearch (request : CourseQueryRequestV1) (textHits : Option TextHitPlan) :
    Except QueryError CourseQueryResponseV1 := do
  scope.validateFilters request.filters
  scope.validateTextPlan request.filters textHits
  let sorted := ((scope.returnedGroups request.filters textHits).map
    (scope.courseCandidate request.filters textHits)).insertionSort (fun left right =>
      (compareCourse request left right).isLE)
  let (page,candidates) := paginate sorted request.page
  pure ⟨page,candidates.map (fun candidate =>
    scope.courseItem request.filters textHits candidate.group)⟩

def sectionSearch (request : SectionQueryRequestV1) (textHits : Option TextHitPlan) :
    Except QueryError SectionQueryResponseV1 := do
  scope.validateFilters request.filters
  scope.validateTextPlan request.filters textHits
  let sorted := (scope.sectionCandidates request.filters textHits).insertionSort
    (fun left right => (compareSection request left right).isLE)
  let (page,candidates) := paginate sorted request.page
  pure ⟨page,candidates.map (scope.sectionSearchItem request.filters textHits)⟩

def courseDetail (key : CourseGroupKey) : Except QueryError CourseQueryItemV1 := do
  let group ← required (groupAt scope.catalogs key) .courseNotFound
  pure ⟨group,PredicateEvaluation.matched.explanation,(scope.variantsFor group).map (fun variant =>
    ⟨variant,PredicateEvaluation.matched.explanation,[],none,
      (scope.sectionsFor variant).map scope.unfilteredSectionItem⟩)⟩

def sectionDetail (key : SectionKey) : Except QueryError SectionDetailResponseV1 := do
  let held ← required (sectionAt scope.catalogs key) .sectionNotFound
  let variant ← required (variantAt scope.catalogs held.variantKey) .sectionNotFound
  pure ⟨variant,scope.unfilteredSectionItem held⟩

end Scope

end CoursePlanner.Query
