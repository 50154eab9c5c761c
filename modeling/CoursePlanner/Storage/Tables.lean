import CoursePlanner.Contracts.Calendar
import CoursePlanner.Contracts.Identity
import CoursePlanner.Library.Checked

namespace CoursePlanner.Storage

open Std Library Contracts

inductive OpenAttemptClassification where
  | started
  | validApplied
  | validEmptyNoRows
  | failed
  | unsafeEmpty
  | unsafeZeroIntersection
  | suspectPartialSnapshot
  | staleCatalogRace
  | interrupted
  deriving DecidableEq, Repr

def OpenAttemptClassification.isSuccess : OpenAttemptClassification → Bool
  | .validApplied | .validEmptyNoRows => true
  | _ => false

inductive OpenRequestLane where
  | general
  | activeWatch
  | firstLoad
  | manualRefresh
  | catalogRaceRecheck
  deriving DecidableEq, Repr

inductive OpenCacheStatus where
  | notApplicable
  | hit
  | miss
  | revalidated
  | bypass
  deriving DecidableEq, Repr

inductive OpenSectionState where
  | opened
  | closed
  deriving DecidableEq, Repr

def OpenSectionState.asStr : OpenSectionState → String
  | .opened => "OPEN"
  | .closed => "CLOSED"

inductive StorageError where
  | sqlite (operation : String)
  | catalogTargetNotPublished
  | catalogContentVersionMismatch (requested current : Nat)
  | invalidCommand (field reason : String)
  | observationNotStarted (observationId : TraceId)
  | observationNotStaged (observationId : TraceId)
  | openAttemptNotFound (attemptId : TraceId)
  | openAttemptNotStarted (attemptId : TraceId)
  | openTargetInFlight (attemptId : TraceId)
  | openAttemptSuperseded (attemptId : TraceId)
  | invalidStoredProjection (table field reason : String)
  | storedIntegerOutOfRange
  deriving DecidableEq

abbrev StorageResult (A : Type) : Type := Except StorageError A

def u64ToI64 (value : Nat) : StorageResult Unit :=
  ensure (value ≤ i64Max) .storedIntegerOutOfRange

def optionalU64ToI64 (value : Option Nat) : StorageResult Unit :=
  ensure (value.all (fun value => value ≤ i64Max)=true) .storedIntegerOutOfRange

/-- Redacted HTTP response facts of an attempt. -/
structure OpenHttpAuditMetadata where
  httpStatus : Option Nat
  cacheStatus : Option OpenCacheStatus
  decodedBytes : Option Nat
  decodedBodySha256 : Option String
  contentType : Option String
  etag : Option String
  cacheControl : Option String
  date : Option String
  ageSeconds : Option Nat
  lastModified : Option String
  retryAfter : Option String
  retryAfterSeconds : Option Nat
  deriving DecidableEq

def OpenHttpAuditMetadata.none : OpenHttpAuditMetadata :=
  ⟨.none,.none,.none,.none,.none,.none,.none,.none,.none,.none,.none,.none⟩

/-- A row of open_batch_observations. -/
structure OpenBatchObservation where
  attemptId : TraceId
  observationId : TraceId
  observationSequence : Nat
  catalogContentVersion : Nat
  observedAt : Timestamp
  classification : OpenAttemptClassification
  canonicalSetSha256 : String
  stateSha256 : String
  deriving DecidableEq

/-- A row of open_pull_attempts with the rows that it owns: its copy of the Catalog's
section indexes and its batch observation. They are deleted with it. -/
structure OpenAttempt where
  attemptId : TraceId
  runId : TraceId
  attemptSequence : Nat
  rutgersDay : RutgersDay
  capturedCatalogContentVersion : Nat
  startedAt : Timestamp
  completedAt : Option Timestamp
  classification : OpenAttemptClassification
  lane : OpenRequestLane
  http : OpenHttpAuditMetadata
  canonicalSetSha256 : Option String
  requestedIntervalSeconds : Option Nat
  effectiveIntervalSeconds : Option Nat
  scheduleLagMs : Option Nat
  errorCode : Option String
  candidateCatalogObservationId : Option TraceId
  candidateBaseContentVersion : Option Nat
  gateCatalogSetIdentity : Option String
  catalogSections : ExtTreeSet SectionIndex
  observation : Option OpenBatchObservation

/-- A row of open_batch_state. -/
structure OpenBatchState where
  lastAttemptSequence : Nat
  lastObservationSequence : Nat
  currentCatalogContentVersion : Nat
  lkgAttemptId : Option TraceId
  lkgObservationSequence : Option Nat
  lkgObservedAt : Option Timestamp
  lkgCanonicalSetSha256 : Option String
  lkgStateSha256 : Option String
  lastAttemptId : Option TraceId
  lastAttemptAt : Option Timestamp
  lastSuccessAt : Option Timestamp
  lastFailureAttemptSequence : Option Nat
  lastFailureAt : Option Timestamp
  lastFailureErrorCode : Option String
  lastFailureHttpStatus : Option Nat
  lastBodyChangeAt : Option Timestamp
  lastStateChangeAt : Option Timestamp
  deriving DecidableEq

/-- The column defaults that INSERT OR IGNORE writes. -/
def OpenBatchState.new : OpenBatchState :=
  ⟨0,0,0,none,none,none,none,none,none,none,none,none,none,none,none,none,none⟩

/-- A row of open_section_current. -/
structure OpenSectionCurrent where
  state : OpenSectionState
  catalogContentVersion : Nat
  attemptId : TraceId
  observationSequence : Nat
  observedAt : Timestamp
  deriving DecidableEq

/-- A row of open_section_events as the commit returns it. -/
structure OpenSectionEvent where
  eventId : Nat
  observationId : TraceId
  refreshObservationId : TraceId
  attemptId : TraceId
  sectionKey : SectionKey
  state : OpenSectionState
  catalogContentVersion : Nat
  observationSequence : Nat
  observedAt : Timestamp
  deriving DecidableEq

structure OpenAttemptCounters where
  attempted : Nat
  succeeded : Nat
  failed : Nat
  empty : Nat
  deriving DecidableEq, Repr

namespace OpenAttemptCounters

def zero : OpenAttemptCounters := ⟨0,0,0,0⟩

def add (a b : OpenAttemptCounters) : OpenAttemptCounters :=
  ⟨a.attempted+b.attempted,a.succeeded+b.succeeded,a.failed+b.failed,a.empty+b.empty⟩

end OpenAttemptCounters

structure CatalogCounts where
  courseGroups : Nat
  courseVariants : Nat
  sections : Nat
  occurrences : Nat
  deriving DecidableEq, Repr

def CatalogCounts.zero : CatalogCounts := ⟨0,0,0,0⟩

/-- A row of catalog_targets with the section indexes of the Catalog that it serves. -/
structure CatalogTarget where
  currentContentVersion : Nat
  acceptedSemanticHash : Option String
  counts : CatalogCounts
  sections : ExtTreeSet SectionIndex
  counted : counts.sections=sections.size

/-- The row that ensure_target inserts. -/
def CatalogTarget.unpublished : CatalogTarget := ⟨0,none,.zero,∅,rfl⟩

/-- A row of catalog_refresh_observations in state STAGED with its staging sections. -/
structure StagedCatalog where
  target : TermCampusKey
  semanticSha256 : String
  counts : CatalogCounts
  sections : ExtTreeSet SectionIndex
  counted : counts.sections=sections.size

/-- A target and the Open rows that reference it. -/
structure TargetTables where
  catalog : CatalogTarget
  batch : Option OpenBatchState
  attempts : List OpenAttempt
  current : ExtTreeMap SectionIndex OpenSectionCurrent
  dailyCounters : ExtTreeMap RutgersDay OpenAttemptCounters
  runCounters : ExtTreeMap TraceId OpenAttemptCounters

def TargetTables.new : TargetTables := ⟨.unpublished,none,[],∅,∅,∅⟩

/-- The operational tables. Of the Catalog observations the ids of all and the rows of
the staged ones are kept, of the section events only the AUTOINCREMENT sequence, of the
discovery tables the targets in the current selector. -/
structure Database where
  targets : ExtTreeMap TermCampusKey TargetTables
  observations : ExtTreeSet TraceId
  staged : ExtTreeMap TraceId StagedCatalog
  selector : ExtTreeSet TermCampusKey
  lastEventId : Nat
  known : ∀id∈staged,id∈observations

namespace Database

def new : Database := ⟨∅,∅,∅,∅,0,fun _ h => absurd h ExtTreeMap.not_mem_empty⟩

/-- The rows of a target; a target without any reads as a new one. -/
def tables (db : Database) (target : TermCampusKey) : TargetTables :=
  db.targets[target]?.getD .new

def setTables (db : Database) (target : TermCampusKey) (tables : TargetTables) : Database :=
  { db with targets := db.targets.insert target tables }

/-- The row of an attempt id, which is a primary key over all targets. -/
def findAttempt (db : Database) (attemptId : TraceId) :
    Option (TermCampusKey × TargetTables × OpenAttempt) :=
  db.targets.toList.findSome? (fun (target,tables) =>
    (tables.attempts.find? (fun attempt => attempt.attemptId=attemptId)).map
      (fun attempt => (target,tables,attempt)))

end Database

end CoursePlanner.Storage
