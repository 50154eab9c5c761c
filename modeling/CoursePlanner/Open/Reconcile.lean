import CoursePlanner.Contracts.OpenStatus
import CoursePlanner.Library.Checked
import CoursePlanner.Library.OrderedMap
import CoursePlanner.Open.Gate

namespace CoursePlanner.Open

open Std Library Contracts

inductive ReconciledOpenState where
  | closed
  | opened
  deriving DecidableEq, Repr

def ReconciledOpenState.wireName : ReconciledOpenState → String
  | .closed => "CLOSED"
  | .opened => "OPEN"

inductive ReconcileInputError where
  | foreignCatalogSection
  | duplicateCatalogSectionIndex
  | invalidOpenSetCount
  | foreignOpenBatch
  deriving DecidableEq, Repr

/-- The Catalog sections of one target by their index. -/
structure CatalogOpenBatch where
  target : TermCampusKey
  contentVersion : CatalogContentVersion
  sections : ExtTreeMap SectionIndex SectionKey
  keyed : ∀(index : SectionIndex) key,sections[index]?=some key →
    key=⟨target.term,target.campus,index⟩

namespace CatalogOpenBatch

def empty (target : TermCampusKey) (contentVersion : CatalogContentVersion) :
    CatalogOpenBatch :=
  ⟨target,contentVersion,∅,fun _ _ found => absurd found (by simp)⟩

/-- A section of the target that was not listed before. -/
def insert (batch : CatalogOpenBatch) (key : SectionKey) (own : key.target=batch.target) :
    CatalogOpenBatch :=
  { batch with
    sections := batch.sections.insert key.index key
    keyed := by
      intro index other found
      rcases of_getElem?_insert found with ⟨rfl,rfl⟩ | before
      · rw [← own]
        rfl
      · exact batch.keyed index other before }

def addSection (batch : CatalogOpenBatch) (key : SectionKey) :
    Except ReconcileInputError CatalogOpenBatch :=
  if own : key.target=batch.target then
    if key.index∈batch.sections then .error .duplicateCatalogSectionIndex
    else .ok (batch.insert key own)
  else .error .foreignCatalogSection

def tryNew (target : TermCampusKey) (contentVersion : CatalogContentVersion)
    (sections : List SectionKey) : Except ReconcileInputError CatalogOpenBatch :=
  sections.foldlM addSection (empty target contentVersion)

def containsIndex (batch : CatalogOpenBatch) (index : SectionIndex) : Bool :=
  batch.sections.contains index

end CatalogOpenBatch

structure OpenSetEvidence where
  target : TermCampusKey
  indexes : ExtTreeSet SectionIndex
  rawValueCount : Nat
  duplicateCount : Nat
  canonicalSetHash : String

def OpenSetEvidence.tryNew [Sha256] (target : TermCampusKey) (indexes : List SectionIndex)
    (rawValueCount : Nat) : Except ReconcileInputError OpenSetEvidence := do
  let indexes : ExtTreeSet SectionIndex := .ofList indexes
  ensure (indexes.size ≤ rawValueCount) .invalidOpenSetCount
  pure ⟨target,indexes,rawValueCount,rawValueCount-indexes.size,canonicalOpenSetHashV1 indexes⟩

inductive OpenReconcileClassification where
  | validApplied
  | validEmptyNoRows
  | unsafeEmpty
  | unsafeZeroIntersection
  | suspectPartialSnapshot
  | staleCatalogRace
  deriving DecidableEq, Repr

def OpenReconcileClassification.isValid : OpenReconcileClassification → Bool
  | .validApplied | .validEmptyNoRows => true
  | _ => false

structure SectionOpenUpdate where
  sectionKey : SectionKey
  state : ReconciledOpenState
  deriving DecidableEq

structure OpenReconcilePlan where
  target : TermCampusKey
  capturedCatalogContentVersion : CatalogContentVersion
  currentCatalogContentVersion : CatalogContentVersion
  classification : OpenReconcileClassification
  canonicalSetHash : String
  stateHash : Option String
  rawValueCount : Nat
  uniqueValueCount : Nat
  duplicateCount : Nat
  catalogSectionCount : Nat
  orphanCount : Nat
  openCount : Nat
  closedCount : Nat
  observedIntersectionCount : Nat
  updates : List SectionOpenUpdate
  deriving DecidableEq

def openStatePreimageV1 (target : TermCampusKey) (updates : List SectionOpenUpdate) : String :=
  updates.foldl
    (fun preimage update => preimage ++ update.sectionKey.index.value ++ "\t" ++
      update.state.wireName ++ "\n")
    ("bcsp-open-state-v1\n" ++ target.term.value ++ "\n" ++ target.campus.value ++ "\n")

def openStateHashV1 [Sha256] (target : TermCampusKey) (updates : List SectionOpenUpdate) :
    String :=
  Sha256.hex (openStatePreimageV1 target updates)

def observedIntersection (catalog : CatalogOpenBatch) (openSet : OpenSetEvidence) :
    ExtTreeSet SectionIndex :=
  openSet.indexes.filter (fun index => catalog.containsIndex index)

/-- The closure `base` of reconcile_open_set. -/
def reconcileBase [Sha256] (captured : CatalogContentVersion) (catalog : CatalogOpenBatch)
    (openSet : OpenSetEvidence) (classification : OpenReconcileClassification)
    (orphanCount : Nat) (updates : List SectionOpenUpdate) : OpenReconcilePlan :=
  let openCount := updates.countP (fun update => update.state=.opened)
  { target := catalog.target
    capturedCatalogContentVersion := captured
    currentCatalogContentVersion := catalog.contentVersion
    classification
    canonicalSetHash := openSet.canonicalSetHash
    stateHash := if classification.isValid then some (openStateHashV1 catalog.target updates)
      else none
    rawValueCount := openSet.rawValueCount
    uniqueValueCount := openSet.indexes.size
    duplicateCount := openSet.duplicateCount
    catalogSectionCount := catalog.sections.size
    orphanCount
    openCount
    closedCount := updates.length-openCount
    observedIntersectionCount := (observedIntersection catalog openSet).size
    updates }

def sectionUpdates (catalog : CatalogOpenBatch)
    (state : SectionIndex → ReconciledOpenState) : List SectionOpenUpdate :=
  catalog.sections.toList.map (fun entry => ⟨entry.2,state entry.1⟩)

def reconcileOpenSet [Sha256] (captured : CatalogContentVersion) (catalog : CatalogOpenBatch)
    (openSet : OpenSetEvidence) (gateHold : Bool) :
    Except ReconcileInputError OpenReconcilePlan := do
  ensure (openSet.target=catalog.target) .foreignOpenBatch
  let base := reconcileBase captured catalog openSet
  let intersectionCount := (observedIntersection catalog openSet).size
  if captured≠catalog.contentVersion then return base .staleCatalogRace 0 []
  if openSet.indexes.isEmpty then
    return if catalog.sections.isEmpty then base .validEmptyNoRows 0 []
      else if gateHold then base .suspectPartialSnapshot 0 []
      else base .validApplied 0 (sectionUpdates catalog (fun _ => .closed))
  let orphanCount := openSet.indexes.size-intersectionCount
  if !catalog.sections.isEmpty && intersectionCount=0 then
    return base .unsafeZeroIntersection orphanCount []
  if gateHold then return base .suspectPartialSnapshot orphanCount []
  return base .validApplied orphanCount (sectionUpdates catalog (fun index =>
    if index∈openSet.indexes then .opened else .closed))

section Batch

theorem CatalogOpenBatch.addSection_ok {batch after : CatalogOpenBatch} {key : SectionKey}
    (h : batch.addSection key=.ok after) :
    ∃own,key.index∉batch.sections ∧ after=batch.insert key own := by
  unfold addSection at h
  split at h
  · next own =>
    split at h
    · cases h
    · next fresh =>
      cases h
      exact ⟨own,fresh,rfl⟩
  · cases h

variable {tc : TermCampusKey}

theorem CatalogOpenBatch.tryNew_ok {contentVersion : CatalogContentVersion}
    {secs : List SectionKey} {batch : CatalogOpenBatch}
    (h : tryNew tc contentVersion secs=.ok batch) :
    batch.target=tc ∧ batch.contentVersion=contentVersion ∧
      ∀index,index∈batch.sections ↔ ∃key∈secs,key.index=index := by
  have fold : ∀(secs : List SectionKey) (start : CatalogOpenBatch),
      secs.foldlM addSection start=.ok batch →
      batch.target=start.target ∧ batch.contentVersion=start.contentVersion ∧
        ∀index,index∈batch.sections ↔ index∈start.sections ∨ ∃key∈secs,key.index=index := by
    intro secs
    induction secs with
    | nil =>
      intro start h
      cases h
      simp
    | cons key secs ih =>
      intro start h
      rw [List.foldlM_cons,bind_ok] at h
      obtain ⟨next,added,rest⟩ := h
      obtain ⟨own,-,rfl⟩ := addSection_ok added
      obtain ⟨tc,version,members⟩ := ih _ rest
      refine ⟨tc,version,?_⟩
      intro index
      rw [members]
      change index∈start.sections.insert key.index key ∨ _ ↔ _
      rw [ExtTreeMap.mem_insert,LawfulEqCmp.compare_eq_iff_eq]
      simp only [List.mem_cons,exists_eq_or_imp]
      tauto
  obtain ⟨sameTarget,sameVersion,members⟩ := fold secs (empty tc contentVersion) h
  refine ⟨sameTarget,sameVersion,?_⟩
  intro index
  rw [members]
  simp [empty]

theorem OpenSetEvidence.tryNew_ok [Sha256] {indexes : List SectionIndex} {rawValueCount : Nat}
    {evidence : OpenSetEvidence} :
    tryNew tc indexes rawValueCount=.ok evidence ↔
      (ExtTreeSet.ofList indexes).size ≤ rawValueCount ∧
      evidence=⟨tc,.ofList indexes,rawValueCount, rawValueCount-(ExtTreeSet.ofList indexes).size,
        canonicalOpenSetHashV1 (.ofList indexes)⟩ := by
  unfold tryNew
  simp only [ensure_bind_ok,pure_ok]
  exact and_congr_right (fun _ => ⟨Eq.symm,Eq.symm⟩)

end Batch

end CoursePlanner.Open
