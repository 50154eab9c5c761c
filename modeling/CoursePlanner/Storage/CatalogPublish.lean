import CoursePlanner.Storage.Tables

namespace CoursePlanner.Storage

open Std Library Contracts

inductive EmptySnapshotDecision where
  | acceptNonEmptyOrUnchangedEmpty
  | acceptInitialSelectorConfirmedEmpty
  | retainLastKnownGood
  deriving DecidableEq, Repr

inductive PublishOutcome where
  | appliedChanged (contentVersion : Nat) (counts : CatalogCounts)
  | appliedUnchanged (contentVersion : Nat) (counts : CatalogCounts)
  | initialValidEmpty (contentVersion : Nat)
  | suspectEmptyRetained (contentVersion : Nat) (retainedCounts : CatalogCounts)
  deriving DecidableEq, Repr

def PublishOutcome.contentVersion : PublishOutcome → Nat
  | .appliedChanged version _ => version
  | .appliedUnchanged version _ => version
  | .initialValidEmpty version => version
  | .suspectEmptyRetained version _ => version

def PublishOutcome.retainsSuspectEmpty : PublishOutcome → Bool
  | .suspectEmptyRetained _ _ => true
  | _ => false

structure OpenCatalogSnapshot where
  target : TermCampusKey
  contentVersion : Nat
  sections : ExtTreeSet SectionIndex

/-- A staged Catalog that an Open pull is reconciled with before it is published. -/
structure CatalogCandidateOpenSnapshot where
  observationId : TraceId
  baseContentVersion : Nat
  catalog : OpenCatalogSnapshot

def StagedCatalog.serve (staged : StagedCatalog) (version : Nat) : CatalogTarget :=
  ⟨version,some staged.semanticSha256,staged.counts,staged.sections,staged.counted⟩

/-- What publication and the candidate snapshot decide alike: the version that the
staged Catalog gets, or none for an empty one that would replace a nonempty one. -/
def stagedVersion (db : Database) (staged : StagedCatalog) (catalog : CatalogTarget)
    (emptyDecision : EmptySnapshotDecision) : StorageResult (Option Nat) :=
  let incomingEmpty := staged.counts=.zero
  let baselineNonempty := catalog.counts≠.zero
  let changed := catalog.currentContentVersion=0 ∨
    catalog.acceptedSemanticHash≠some staged.semanticSha256
  let initialValidEmpty := emptyDecision=.acceptInitialSelectorConfirmedEmpty ∧
    staged.target∈db.selector
  if incomingEmpty ∧ 0 < catalog.currentContentVersion ∧ baselineNonempty then pure none
  else do
    ensure (¬(¬incomingEmpty ∧ emptyDecision≠.acceptNonEmptyOrUnchangedEmpty))
      (.invalidCommand "empty_decision"
        "non-empty snapshots require the non-empty publication decision")
    ensure (¬(incomingEmpty ∧ catalog.currentContentVersion=0 ∧ ¬initialValidEmpty))
      (.invalidCommand "empty_decision"
        "a first valid empty requires current persisted selector membership")
    ensure (¬(incomingEmpty ∧ 0 < catalog.currentContentVersion ∧ ¬baselineNonempty ∧
        emptyDecision≠.acceptNonEmptyOrUnchangedEmpty))
      (.invalidCommand "empty_decision"
        "an established empty target accepts only an unchanged empty decision")
    ensure (¬(incomingEmpty ∧ 0 < catalog.currentContentVersion ∧ changed))
      (.invalidCommand "empty_decision"
        "an established empty target accepts only an unchanged empty snapshot")
    pure (some (if changed then catalog.currentContentVersion+1
      else catalog.currentContentVersion))

namespace Database

/-- stage_catalog_refresh of a validated snapshot, with the begin of its attempt. A
finished attempt is not started again. -/
def stageCatalogRefresh (db : Database) (observationId : TraceId) (staged : StagedCatalog) :
    StorageResult Database := do
  ensure (observationId∉db.observations) (.observationNotStarted observationId)
  pure { db with
    targets := db.targets.insert staged.target (db.tables staged.target)
    observations := db.observations.insert observationId
    staged := db.staged.insert observationId staged
    known := by
      intro id member
      rcases ExtTreeMap.mem_insert.mp member with same | earlier
      · exact ExtTreeSet.mem_insert.mpr (.inl same)
      · exact ExtTreeSet.mem_insert.mpr (.inr (db.known id earlier)) }

/-- finish_refresh_failure of a staged snapshot. -/
def discardStaged (db : Database) (observationId : TraceId) : Database :=
  { db with
    staged := db.staged.erase observationId
    known := fun id member => db.known id (ExtTreeMap.mem_of_mem_erase member) }

/-- A suspect empty replacement has no candidate. -/
def candidateOpenCatalogSnapshot (db : Database) (observationId : TraceId)
    (emptyDecision : EmptySnapshotDecision) :
    StorageResult (Option CatalogCandidateOpenSnapshot) := do
  let staged ← required db.staged[observationId]? (.observationNotStaged observationId)
  let tables ← required db.targets[staged.target]? (.sqlite "catalog_targets")
  let version ← stagedVersion db staged tables.catalog emptyDecision
  pure (version.map (fun version =>
    ⟨observationId,tables.catalog.currentContentVersion,
      ⟨staged.target,version,staged.sections⟩⟩))

/-- publish_staged_in_transaction. A snapshot with the accepted semantic hash leaves
the serving rows as they are. -/
def publishStaged (db : Database) (observationId : TraceId)
    (emptyDecision : EmptySnapshotDecision) : StorageResult (PublishOutcome × Database) := do
  let staged ← required db.staged[observationId]? (.observationNotStaged observationId)
  let tables ← required db.targets[staged.target]? (.sqlite "catalog_targets")
  let catalog := tables.catalog
  let cleared := db.discardStaged observationId
  let version ← stagedVersion db staged catalog emptyDecision
  match version with
  | none =>
    pure (.suspectEmptyRetained catalog.currentContentVersion catalog.counts,cleared)
  | some version =>
    if version=catalog.currentContentVersion then
      pure (.appliedUnchanged version staged.counts,cleared)
    else
      let outcome := if staged.counts=.zero then .initialValidEmpty version
        else .appliedChanged version staged.counts
      pure (outcome,
        cleared.setTables staged.target { tables with catalog := staged.serve version })

/-- publish_staged_refresh: a snapshot that cannot be published has failed. -/
def publishStagedRefresh (db : Database) (observationId : TraceId)
    (emptyDecision : EmptySnapshotDecision) : StorageResult PublishOutcome × Database :=
  match db.publishStaged observationId emptyDecision with
  | .ok (outcome,published) => (.ok outcome,published)
  | .error error => (.error error,db.discardStaged observationId)

/-- The discovery tables record another selector. -/
def selectTargets (db : Database) (selector : ExtTreeSet TermCampusKey) : Database :=
  { db with selector }

/-- The published Catalog of a target. -/
def servingOpenCatalogSnapshot (db : Database) (target : TermCampusKey) :
    Option OpenCatalogSnapshot :=
  match db.targets[target]? with
  | none => none
  | some tables =>
    if tables.catalog.currentContentVersion=0 then none
    else some ⟨target,tables.catalog.currentContentVersion,tables.catalog.sections⟩

end Database

end CoursePlanner.Storage
