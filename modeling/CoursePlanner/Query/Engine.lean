import CoursePlanner.Query.Corpus

namespace CoursePlanner.Query

open Std Library Contracts

structure OpenEvidence where
  sectionKey : SectionKey
  evidence : LiveOpenEvidenceV1

/-- Open evidence of one target, indexed once and bound to a content version. -/
structure PreparedOpenOverlay where
  target : TermCampusKey
  contentVersion : ℕ+
  evidence : List OpenEvidence
  hash : SectionKey → Nat
  index : HashIndex evidence.length

namespace PreparedOpenOverlay

def tryNew (hash : SectionKey → Nat) (corpus : PreparedCatalogCorpus) (target : TermCampusKey)
    (evidence : List OpenEvidence) : Except QueryError PreparedOpenOverlay := do
  let contentVersion ← required corpus.targetVersions[target]? .preparedTargetSetMismatch
  ensure (∀item∈evidence,item.sectionKey.target=target ∧
    (corpus.section item.sectionKey).isSome=true) .foreignOpenEvidence
  let index ← buildDistinctIndex (fun i => (evidence.get i).sectionKey) hash
    QueryError.duplicateOpenEvidence
  pure ⟨target,contentVersion,evidence,hash,index⟩

def isBoundTo (overlay : PreparedOpenOverlay) (corpus : PreparedCatalogCorpus) : Bool :=
  corpus.targetVersions[overlay.target]?=some overlay.contentVersion

def get (overlay : PreparedOpenOverlay) (key : SectionKey) : Option LiveOpenEvidenceV1 :=
  (lookupIndex overlay.index (fun i => (overlay.evidence.get i).sectionKey) overlay.hash key).map
    (fun i => (overlay.evidence.get i).evidence)

end PreparedOpenOverlay

inductive EngineCorpus where
  | built (corpus : CatalogCorpus)
  | prepared (corpus : PreparedCatalogCorpus)

namespace EngineCorpus

def term : EngineCorpus → TermId
  | built corpus => corpus.term
  | prepared corpus => corpus.term

def groups (activeTargets : List TermCampusKey) : EngineCorpus → List NormalizedCourseGroupV1
  | built corpus => orderedValues corpus.groups
  | prepared corpus => corpus.groupsInTargets activeTargets

def sections (activeTargets : List TermCampusKey) : EngineCorpus → List NormalizedSectionV1
  | built corpus => orderedValues corpus.sections
  | prepared corpus => corpus.sectionsInTargets activeTargets

def group (key : CourseGroupKey) : EngineCorpus → Option NormalizedCourseGroupV1
  | built corpus => corpus.groups[key]?
  | prepared corpus => corpus.group key

def variant (key : CourseVariantKey) : EngineCorpus → Option NormalizedCourseVariantV1
  | built corpus => corpus.variants[key]?
  | prepared corpus => corpus.variant key

def «section» (key : SectionKey) : EngineCorpus → Option NormalizedSectionV1
  | built corpus => corpus.sections[key]?
  | prepared corpus => corpus.section key

def variantsFor (group : NormalizedCourseGroupV1) :
    EngineCorpus → Except Abort (List NormalizedCourseVariantV1)
  | built corpus => corpus.variantsFor group
  | prepared corpus => corpus.variantsFor group

def sectionsFor (variant : NormalizedCourseVariantV1) :
    EngineCorpus → Except Abort (List NormalizedSectionV1)
  | built corpus => corpus.sectionsFor variant
  | prepared corpus => corpus.sectionsFor variant

def knownOccurrencesFor (held : NormalizedSectionV1) :
    EngineCorpus → Except Abort (Option (List NormalizedOccurrenceV1))
  | built corpus => corpus.knownOccurrencesFor held
  | prepared corpus => corpus.knownOccurrencesFor held

def targetVersions : EngineCorpus → ExtTreeMap TermCampusKey ℕ+
  | built corpus => corpus.targetVersions
  | prepared corpus => corpus.targetVersions

end EngineCorpus

inductive EngineOpen where
  | built («open» : ExtTreeMap SectionKey LiveOpenEvidenceV1)
  | prepared («open» : List PreparedOpenOverlay)

structure QueryEngine where
  corpus : EngineCorpus
  activeTargets : List TermCampusKey
  forcedOpenUnavailable : List TermCampusKey
  now : OffsetDateTime
  «open» : EngineOpen

namespace QueryEngine

def addEvidence (corpus : CatalogCorpus) (bySection : ExtTreeMap SectionKey LiveOpenEvidenceV1)
    (item : OpenEvidence) : Except QueryError (ExtTreeMap SectionKey LiveOpenEvidenceV1) := do
  ensure (item.sectionKey∈corpus.sections) .foreignOpenEvidence
  ensure (item.sectionKey∉bySection) .duplicateOpenEvidence
  pure (bySection.insert item.sectionKey item.evidence)

def tryNewFromRefs (catalogs : List NormalizedCatalogV1) (now : OffsetDateTime)
    («open» : List OpenEvidence) : Except QueryError QueryEngine := do
  let corpus ← (CatalogCorpus.tryNewFromRefs catalogs).mapError QueryError.invalidCorpus
  let bySection ← «open».foldlM (addEvidence corpus) ∅
  pure ⟨.built corpus,corpus.targetVersions.keys,[],now,.built bySection⟩

def addOverlay (corpus : PreparedCatalogCorpus)
    (byTarget : ExtTreeMap TermCampusKey PreparedOpenOverlay) (overlay : PreparedOpenOverlay) :
    Except QueryError (ExtTreeMap TermCampusKey PreparedOpenOverlay) := do
  ensure (overlay.isBoundTo corpus=true ∧ overlay.target∉byTarget) .preparedTargetSetMismatch
  pure (byTarget.insert overlay.target overlay)

/-- Only the given targets take part, whatever else the corpus holds. -/
def tryNewPrepared (corpus : PreparedCatalogCorpus)
    (activeTargets forcedOpenUnavailable : List TermCampusKey) (now : OffsetDateTime)
    («open» : List PreparedOpenOverlay) : Except QueryError QueryEngine := do
  ensure (activeTargets≠[] ∧ activeTargets.Nodup ∧ ∀target∈activeTargets,
    target.term=corpus.term ∧ target∈corpus.targetVersions) .preparedTargetSetMismatch
  let unique : ExtTreeSet TermCampusKey := .ofList activeTargets
  let openByTarget ← «open».foldlM (addOverlay corpus) ∅
  ensure (openByTarget.keys=unique.toList) .preparedTargetSetMismatch
  ensure (∀target∈forcedOpenUnavailable,target∈unique) .preparedTargetSetMismatch
  pure ⟨.prepared corpus,unique.toList,forcedOpenUnavailable,now,
    .prepared (orderedValues openByTarget)⟩

variable (engine : QueryEngine)

def targetIsActive (target : TermCampusKey) : Bool := engine.activeTargets.contains target

def storedEvidence (key : SectionKey) : Option LiveOpenEvidenceV1 :=
  match engine.open with
  | .built bySection => bySection[key]?
  | .prepared overlays => (overlays.find? (fun overlay => overlay.target=key.target)).bind
      (fun overlay => overlay.get key)

def unknownEvidence : LiveOpenEvidenceV1 :=
  ⟨.unknown,none,none,some .missingReliableData⟩

/-- Evidence of an overlay that has gone stale, or is forced to be unavailable, is marked. -/
def openFor (key : SectionKey) : LiveOpenEvidenceV1 :=
  match engine.storedEvidence key with
  | none => unknownEvidence
  | some evidence =>
    match engine.open with
    | .built _ => evidence
    | .prepared _ =>
      if engine.forcedOpenUnavailable.contains key.target ||
          (evidence.uncertainty.isNone && !freshAt evidence engine.now) then
        {evidence with uncertainty := some .sourceUnavailable}
      else evidence

def openStateFor (key : SectionKey) : LiveOpenStateV1 :=
  ((engine.storedEvidence key).map LiveOpenEvidenceV1.state).getD .unknown

def sectionEvaluation (filters : NormalizedFilterValuesV1) (held : NormalizedSectionV1) :
    Except Abort EvaluatedFilters := do
  let occurrences ← engine.corpus.knownOccurrencesFor held
  evaluateSectionFilterMatches held occurrences (engine.openFor held.key) engine.now filters

def sectionItem (filters : NormalizedFilterValuesV1) (held : NormalizedSectionV1) :
    Except Abort (SectionQueryItemV1 × EvaluatedFilters) := do
  let occurrences ← engine.corpus.knownOccurrencesFor held
  let «open» := engine.openFor held.key
  let evaluated ← evaluateSectionFilterMatches held occurrences «open» engine.now filters
  let explanation ← evaluated.evaluation.intoExplanation
  pure (⟨held,occurrences.getD [],«open»,explanation,evaluated.filterMatches⟩,evaluated)

def unfilteredSectionItem (held : NormalizedSectionV1) : Except Abort SectionQueryItemV1 := do
  let occurrences ← engine.corpus.knownOccurrencesFor held
  let explanation ← PredicateEvaluation.matched.intoExplanation
  pure ⟨held,occurrences.getD [],engine.openFor held.key,explanation,[]⟩

def authoritativeCodes (filters : NormalizedFilterValuesV1) : Except Abort (List String) := do
  let groups := (engine.corpus.groups engine.activeTargets).filter (fun group =>
    engine.targetIsActive group.key.target &&
      (filters.campuses.isEmpty || filters.campuses.contains group.key.campus))
  let variants ← groups.mapM (fun group => engine.corpus.variantsFor group)
  pure (variants.flatten.flatMap (fun variant =>
    (variant.coreCodes.knownValue.getD []).map asciiUpper))

def validateFilters (filters : NormalizedFilterValuesV1) : Except Abort Unit := do
  ensure (filters.term=engine.corpus.term) (.refused .filterTermMismatch)
  if filters.core.codes.isEmpty then pure ()
  else do
    let codes ← engine.authoritativeCodes filters
    match (tokenValues filters.core.codes).find? (fun code => !codes.contains code) with
    | none => pure ()
    | some code => throw (.refused (.unknownCoreCode code))

def checkTextPlan (query : FilterSearchTextV1) (plan : TextHitPlan) : Except Abort Unit := do
  ensure (query=plan.query) (.refused .textQueryMismatch)
  let expected ← engine.activeTargets.mapM (fun target => do
    let version ← required engine.corpus.targetVersions[target]? .panicked
    pure (target,version))
  let expected : ExtTreeMap TermCampusKey ℕ+ := .ofList expected
  ensure (expected.keys=plan.targetVersions.keys) (.refused .textTargetSetMismatch)
  ensure (expected.toList=plan.targetVersions.toList) (.refused .textContentVersionMismatch)
  ensure (∀key∈plan.hits.keys,engine.targetIsActive key.group.target=true ∧
    (engine.corpus.variant key).isSome=true) (.refused .foreignTextHit)

def validateTextPlan (filters : NormalizedFilterValuesV1) (plan : Option TextHitPlan) :
    Except Abort Unit :=
  match filters.text,plan with
  | none,none => .ok ()
  | some _,none => .error (.refused .textEvidenceUnavailable)
  | none,some _ => .error (.refused .unexpectedTextEvidence)
  | some query,some plan => engine.checkTextPlan query plan

end QueryEngine

def exactCourseIdentifier (filters : NormalizedFilterValuesV1) (key : CourseGroupKey) : Bool :=
  filters.text.any (fun text =>
    text.tokens.length=1 && eqIgnoreAsciiCase text.text key.courseString.value)

def sectionWitnessField : ReasonField := ⟨"section.witness",by decide⟩
def variantWitnessField : ReasonField := ⟨"variant.witness",by decide⟩

/-- What the admitted sections of a variant say for it, and whether there are any. -/
def sectionWitness (active : Bool) (admitted : List PredicateEvaluation) :
    PredicateEvaluation × Bool :=
  if active then
    if admitted.isEmpty then (.noMatch sectionWitnessField,false) else (orActive admitted,true)
  else (.matched,true)

def orNonempty (evaluations : List PredicateEvaluation) (field : ReasonField) :
    PredicateEvaluation :=
  if evaluations.isEmpty then .noMatch field else orActive evaluations

structure CourseCandidate where
  group : NormalizedCourseGroupV1
  evaluation : PredicateEvaluation
  exactIdentifier : Bool
  bestRank : Nat
  title : Option String

structure SectionCandidate where
  «section» : NormalizedSectionV1
  variant : NormalizedCourseVariantV1
  evaluation : PredicateEvaluation
  sectionNumber : String
  exactIdentifier : Bool
  textRank : Nat
  openState : LiveOpenStateV1

def outcomeOrder : MatchOutcome → Nat
  | .matched => 0
  | .uncertain => 1
  | .noMatch => 2

def openOrder : LiveOpenStateV1 → Nat
  | .closed => 0
  | .unknown => 1
  | .open => 2

def relevance (rank : Nat) : Nat := u32Max-rank

def directed (ordering : Ordering) : SortDirectionV1 → Ordering
  | .ascending => ordering
  | .descending => ordering.swap

def compareTitles (left right : Option String) (direction : SortDirectionV1) : Ordering :=
  match left,right with
  | some left,some right => directed (compare left right) direction
  | some _,none => .lt
  | none,some _ => .gt
  | none,none => .eq

def compareCourseIdentifier (left right : CourseGroupKey) : Ordering :=
  (compare left.courseString right.courseString).then
    ((compare left.campus right.campus).then (compare left.term right.term))

def compareCourse (request : CourseQueryRequestV1) (left right : CourseCandidate) : Ordering :=
  (compare (outcomeOrder left.evaluation.outcome) (outcomeOrder right.evaluation.outcome)).then
    ((compare right.exactIdentifier left.exactIdentifier).then
      ((match request.field with
        | .relevance => directed (compare (relevance left.bestRank) (relevance right.bestRank))
            request.direction
        | .courseIdentifier => directed (compareCourseIdentifier left.group.key right.group.key)
            request.direction
        | .title => compareTitles left.title right.title request.direction).then
        (compare left.group.key right.group.key)))

def compareSection (request : SectionQueryRequestV1) (left right : SectionCandidate) : Ordering :=
  (compare (outcomeOrder left.evaluation.outcome) (outcomeOrder right.evaluation.outcome)).then
    ((compare right.exactIdentifier left.exactIdentifier).then
      ((directed (match request.field with
        | .sectionIndex => compare left.section.key.index right.section.key.index
        | .sectionNumber => compare left.sectionNumber right.sectionNumber
        | .courseIdentifier => compareCourseIdentifier left.variant.key.group right.variant.key.group
        | .openStatus => compare (openOrder left.openState) (openOrder right.openState))
        request.direction).then
        ((compare (relevance right.textRank) (relevance left.textRank)).then
          (compare left.section.key right.section.key))))

def paginate {T : Type} (values : List T) (request : PageRequestV1) : PageInfoV1 × List T :=
  let total := values.length
  let totalPages := if total=0 then 0 else (total+request.pageSize-1)/request.pageSize
  (⟨request.page,request.pageSize,total,totalPages⟩,
    (values.drop ((request.page-1)*request.pageSize)).take request.pageSize)

namespace QueryEngine

section Search

variable (engine : QueryEngine) (filters : NormalizedFilterValuesV1)
  (textHits : Option TextHitPlan)

def textRank (variant : NormalizedCourseVariantV1) : Option Nat :=
  textHits.bind (fun plan => plan.rank variant.key)

/-- The sections are looked at only where a section filter is active. -/
def variantWitness (variant : NormalizedCourseVariantV1) :
    Except Abort (PredicateEvaluation × Bool) :=
  if sectionFiltersActive filters then do
    let sections ← engine.corpus.sectionsFor variant
    let evaluated ← sections.mapM (engine.sectionEvaluation filters)
    pure (sectionWitness true ((evaluated.filter EvaluatedFilters.admitted).map
      EvaluatedFilters.evaluation))
  else pure (sectionWitness false [])

def variantEvaluation (group : NormalizedCourseGroupV1) (variant : NormalizedCourseVariantV1) :
    Except Abort (Option PredicateEvaluation) := do
  let course ← evaluateCourseFilterMatches group.key variant filters textHits
  let (witness,sectionAdmitted) ← engine.variantWitness filters variant
  pure (if course.admitted && sectionAdmitted then some (andAll [course.evaluation,witness])
    else none)

def leastTitle (variants : List NormalizedCourseVariantV1) : Option String :=
  variants.foldl (fun title variant =>
    match variant.title.knownValue.filter (fun value => !value.isEmpty) with
    | none => title
    | some candidate =>
      if title.all (fun current => candidate < current) then some candidate else title) none

def bestRank (variants : List NormalizedCourseVariantV1) : Nat :=
  variants.foldl (fun best variant => ((textRank textHits variant).map (min best)).getD best) u32Max

def courseCandidate (group : NormalizedCourseGroupV1) : Except Abort (Option CourseCandidate) := do
  if !engine.targetIsActive group.key.target then return none
  let variants ← engine.corpus.variantsFor group
  let evaluated ← variants.mapM (fun variant => do
    let evaluation ← engine.variantEvaluation filters textHits group variant
    pure (variant,evaluation))
  let admitted := evaluated.filterMap (fun (variant,evaluation) =>
    evaluation.map (fun evaluation => (variant,evaluation)))
  let evaluation := orNonempty (admitted.map Prod.snd) variantWitnessField
  return if evaluation.outcome=.noMatch then none
    else some ⟨group,evaluation,exactCourseIdentifier filters group.key,
      bestRank textHits (admitted.map Prod.fst),leastTitle (admitted.map Prod.fst)⟩

def textMatch (variant : NormalizedCourseVariantV1) (exactIdentifier : Bool) :
    Option TextMatchEvidenceV1 :=
  filters.text.bind (fun text => (textRank textHits variant).map (fun _ =>
    ⟨exactIdentifier,text.tokens⟩))

/-- The sections of a variant's item: those admitted, or all where no filter is active. -/
def materializeSections (course : EvaluatedFilters)
    (sections : List (SectionQueryItemV1 × EvaluatedFilters)) :
    Except Abort (List SectionQueryItemV1) :=
  (sections.filter (fun (_,evaluated) =>
      !sectionFiltersActive filters || evaluated.admitted)).mapM (fun (item,evaluated) => do
    let explanation ← (andAll [course.evaluation,evaluated.evaluation]).intoExplanation
    pure {item with explanation := explanation})

def materializeVariant (group : NormalizedCourseGroupV1) (exactIdentifier : Bool)
    (variant : NormalizedCourseVariantV1) : Except Abort (Option CourseVariantQueryItemV1) := do
  let course ← evaluateCourseFilterMatches group.key variant filters textHits
  let sections ← engine.corpus.sectionsFor variant
  let sections ← sections.mapM (engine.sectionItem filters)
  let (witness,sectionAdmitted) := sectionWitness (sectionFiltersActive filters)
    ((sections.filter (fun (_,evaluated) => evaluated.admitted)).map
      (fun (_,evaluated) => evaluated.evaluation))
  if !course.admitted || !sectionAdmitted then return none
  let items ← materializeSections filters course sections
  let explanation ← (andAll [course.evaluation,witness]).intoExplanation
  return some ⟨variant,explanation,course.filterMatches,
    textMatch filters textHits variant exactIdentifier,items⟩

def materializeCourseCandidate (candidate : CourseCandidate) : Except Abort CourseQueryItemV1 := do
  let variants ← engine.corpus.variantsFor candidate.group
  let items ← variants.mapM
    (engine.materializeVariant filters textHits candidate.group candidate.exactIdentifier)
  let explanation ← candidate.evaluation.intoExplanation
  pure ⟨candidate.group,explanation,items.reduceOption⟩

def sectionCandidate (held : NormalizedSectionV1) : Except Abort (Option SectionCandidate) := do
  if !engine.targetIsActive held.key.target then return none
  let variant ← required (engine.corpus.variant held.variantKey) .panicked
  let course ← evaluateCourseFilterMatches variant.key.group variant filters textHits
  let evaluated ← engine.sectionEvaluation filters held
  return if course.admitted && evaluated.admitted then some {
      «section» := held
      variant := variant
      evaluation := andAll [course.evaluation,evaluated.evaluation]
      sectionNumber := held.sectionNumber.knownValue.getD ""
      exactIdentifier := exactCourseIdentifier filters variant.key.group
      textRank := (textRank textHits variant).getD u32Max
      openState := engine.openStateFor held.key}
    else none

/-- The assertions hold in a debug build. -/
def materializeSectionCandidate (candidate : SectionCandidate) :
    Except Abort SectionSearchItemV1 := do
  let course ← evaluateCourseFilterMatches candidate.variant.key.group candidate.variant filters
    textHits
  let (item,evaluated) ← engine.sectionItem filters candidate.section
  ensure (course.admitted=true ∧ evaluated.admitted=true) .panicked
  ensure (candidate.evaluation=andAll [course.evaluation,evaluated.evaluation]) .panicked
  let explanation ← candidate.evaluation.intoExplanation
  pure ⟨candidate.variant,{item with explanation := explanation},course.filterMatches,
    textMatch filters textHits candidate.variant candidate.exactIdentifier⟩

end Search

variable (engine : QueryEngine)

def courseSearch (request : CourseQueryRequestV1) (textHits : Option TextHitPlan) :
    Except Abort CourseQueryResponseV1 := do
  engine.validateFilters request.filters
  engine.validateTextPlan request.filters textHits
  let candidates ← (engine.corpus.groups engine.activeTargets).mapM
    (engine.courseCandidate request.filters textHits)
  let sorted := candidates.reduceOption.insertionSort (fun left right =>
    (compareCourse request left right).isLE)
  let (page,candidates) := paginate sorted request.page
  let items ← candidates.mapM (engine.materializeCourseCandidate request.filters textHits)
  pure ⟨page,items⟩

def sectionSearch (request : SectionQueryRequestV1) (textHits : Option TextHitPlan) :
    Except Abort SectionQueryResponseV1 := do
  engine.validateFilters request.filters
  engine.validateTextPlan request.filters textHits
  let candidates ← (engine.corpus.sections engine.activeTargets).mapM
    (engine.sectionCandidate request.filters textHits)
  let sorted := candidates.reduceOption.insertionSort (fun left right =>
    (compareSection request left right).isLE)
  let (page,candidates) := paginate sorted request.page
  let items ← candidates.mapM (engine.materializeSectionCandidate request.filters textHits)
  pure ⟨page,items⟩

def courseDetail (key : CourseGroupKey) : Except Abort CourseQueryItemV1 := do
  ensure (engine.targetIsActive key.target=true) (.refused .courseNotFound)
  let group ← required (engine.corpus.group key) (.refused .courseNotFound)
  let variants ← engine.corpus.variantsFor group
  let explanation ← PredicateEvaluation.matched.intoExplanation
  let items ← variants.mapM (fun variant => do
    let sections ← engine.corpus.sectionsFor variant
    let sections ← sections.mapM engine.unfilteredSectionItem
    pure (⟨variant,explanation,[],none,sections⟩ : CourseVariantQueryItemV1))
  pure ⟨group,explanation,items⟩

def sectionDetail (key : SectionKey) : Except Abort SectionDetailResponseV1 := do
  ensure (engine.targetIsActive key.target=true) (.refused .sectionNotFound)
  let held ← required (engine.corpus.section key) (.refused .sectionNotFound)
  let variant ← required (engine.corpus.variant held.variantKey) .panicked
  let item ← engine.unfilteredSectionItem held
  pure ⟨variant,item⟩

end QueryEngine

end CoursePlanner.Query
