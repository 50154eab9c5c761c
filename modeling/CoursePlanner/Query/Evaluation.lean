import CoursePlanner.Contracts.Query

namespace CoursePlanner.Query

open Std Contracts

inductive CorpusError where
  | empty
  | mixedTerms
  | duplicateTarget
  | targetMismatch
  | duplicateCourseGroup
  | duplicateCourseVariant
  | duplicateSection
  | duplicateOccurrence
  | invalidGroupVariantReference
  | invalidVariantSectionReference
  | invalidSectionOccurrenceReference
  | orphanOccurrence
  deriving DecidableEq, Repr

inductive QueryError where
  | invalidCorpus (error : CorpusError)
  | duplicateOpenEvidence
  | foreignOpenEvidence
  | filterTermMismatch
  | unknownCoreCode (code : String)
  | textEvidenceUnavailable
  | unexpectedTextEvidence
  | textQueryMismatch
  | textTargetSetMismatch
  | textContentVersionMismatch
  | foreignTextHit
  | preparedTargetSetMismatch
  | courseNotFound
  | sectionNotFound
  deriving DecidableEq, Repr

/-- How a request ends without an answer: with an error of its own, or in a panic. -/
inductive Abort where
  | refused (error : QueryError)
  | panicked
  deriving DecidableEq, Repr

/-- One predicate or aggregate result with its reasons. -/
structure PredicateEvaluation where
  outcome : MatchOutcome
  reasons : List MatchReason
  deriving DecidableEq

namespace PredicateEvaluation

def matched : PredicateEvaluation := ⟨.matched,[]⟩

def uncertain (field : ReasonField) (code : MatchReasonCode) : PredicateEvaluation :=
  ⟨.uncertain,[⟨code,field⟩]⟩

def noMatch (field : ReasonField) : PredicateEvaluation :=
  ⟨.noMatch,[⟨.knownMismatch,field⟩]⟩

/-- The constructor's refusal is not expected. -/
def intoExplanation (evaluation : PredicateEvaluation) : Except Abort MatchExplanation :=
  (MatchExplanation.tryNew evaluation.outcome evaluation.reasons).mapError (fun _ => .panicked)

end PredicateEvaluation

/-- The key under which a reason is seen. -/
def sameReason (left right : MatchReason) : Bool :=
  left.code.wireName=right.code.wireName && left.field.value=right.field.value

def distinctReasons (reasons : List MatchReason) : List MatchReason :=
  reasons.foldl (fun kept reason =>
    if kept.any (sameReason reason) then kept else kept++[reason]) []

def compareReasons : MatchReason → MatchReason → Ordering :=
  compareLex (compareOn (fun reason => reason.field.value))
    (compareOn (fun reason => reason.code.wireName))

def aggregate (outcome : MatchOutcome) (evaluations : List PredicateEvaluation)
    (uncertaintyOnly : Bool) : PredicateEvaluation :=
  let reasons := (evaluations.flatMap PredicateEvaluation.reasons).filter (fun reason =>
    !uncertaintyOnly || !reason.code.isKnownMismatch)
  ⟨outcome,(distinctReasons reasons).insertionSort (fun left right =>
    (compareReasons left right).isLE)⟩

def anyOutcome (outcome : MatchOutcome) (evaluations : List PredicateEvaluation) : Bool :=
  evaluations.any (fun evaluation => evaluation.outcome=outcome)

/-- Three-valued AND. Nothing to satisfy is a match. -/
def andAll (evaluations : List PredicateEvaluation) : PredicateEvaluation :=
  if anyOutcome .noMatch evaluations then aggregate .noMatch evaluations false
  else if anyOutcome .uncertain evaluations then aggregate .uncertain evaluations false
  else .matched

/-- Three-valued OR of an active dimension. Known mismatches do not explain an uncertain
result. -/
def orActive (evaluations : List PredicateEvaluation) : PredicateEvaluation :=
  if evaluations.isEmpty || anyOutcome .matched evaluations then .matched
  else if anyOutcome .uncertain evaluations then aggregate .uncertain evaluations true
  else aggregate .noMatch evaluations false

end CoursePlanner.Query
