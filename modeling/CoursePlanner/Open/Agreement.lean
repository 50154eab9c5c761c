import CoursePlanner.Open.Reconcile
import CoursePlanner.Storage.Capture
import CoursePlanner.Storage.LastGood

set_option maxRecDepth 8000

namespace CoursePlanner.Open

open Std Library Contracts Storage Database

/-- The classification that the storage has for one of reconcile. -/
def storedClassification : OpenReconcileClassification → OpenAttemptClassification
  | .validApplied => .validApplied
  | .validEmptyNoRows => .validEmptyNoRows
  | .unsafeEmpty => .unsafeEmpty
  | .unsafeZeroIntersection => .unsafeZeroIntersection
  | .suspectPartialSnapshot => .suspectPartialSnapshot
  | .staleCatalogRace => .staleCatalogRace

def storedState : ReconciledOpenState → OpenSectionState
  | .opened => .opened
  | .closed => .closed

theorem storedState_asStr (state : ReconciledOpenState) :
    (storedState state).asStr=state.wireName := by
  cases state <;> rfl

def outcomeMatchesReconcile (outcome : OpenCommitOutcome) (reconcile : OpenReconcilePlan) :
    Prop :=
  if outcome.classification=.staleCatalogRace then outcome.observationSequence=none
  else outcome.classification=storedClassification reconcile.classification ∧
    outcome.catalogContentVersion=reconcile.currentCatalogContentVersion ∧
    outcome.sourceValueCount=reconcile.rawValueCount ∧
    outcome.catalogSectionCount=reconcile.catalogSectionCount ∧
    outcome.intersectionCount=reconcile.observedIntersectionCount ∧
    outcome.orphanCount=reconcile.orphanCount ∧
    outcome.duplicateCount=reconcile.duplicateCount

instance (outcome : OpenCommitOutcome) (reconcile : OpenReconcilePlan) :
    Decidable (outcomeMatchesReconcile outcome reconcile) :=
  inferInstanceAs (Decidable (ite _ _ _))

section Plan

variable [Sha256] {cat : CatalogOpenBatch} {set : ExtTreeSet SectionIndex}
  {openSet os : OpenSetEvidence}

theorem reconcileOpenSet_raced {cap : CatalogContentVersion}
    (tc : os.target=cat.target) (raced : cap≠cat.contentVersion)
    (gateHold : Bool) :
    reconcileOpenSet cap cat os gateHold=
      .ok (reconcileBase cap cat os .staleCatalogRace 0 []) := by
  unfold reconcileOpenSet
  rw [bind_of_ok (ensure_pos tc _)]
  simp only [if_pos raced]
  rfl

def observedState (openSet : OpenSetEvidence) (index : SectionIndex) : ReconciledOpenState :=
  if index∈openSet.indexes then .opened else .closed

omit [Sha256] in
theorem observedState_empty (empty : os.indexes.isEmpty=true) :
    observedState os=fun _ => .closed := by
  funext index
  unfold observedState
  rw [if_neg]
  rw [ExtTreeSet.isEmpty_iff.mp empty]
  exact ExtTreeSet.not_mem_empty

omit [Sha256] in
theorem sectionUpdates_empty (empty : cat.sections.isEmpty=true)
    (state : SectionIndex → ReconciledOpenState) : sectionUpdates cat state=[] := by
  unfold sectionUpdates
  rw [ExtTreeMap.isEmpty_iff.mp empty]
  rfl

omit [Sha256] in
theorem isEmpty_sections (same : ∀index,index∈cat.sections ↔ index∈set) :
    cat.sections.isEmpty=set.isEmpty := by
  rw [Bool.eq_iff_iff,ExtTreeMap.isEmpty_iff,ExtTreeSet.isEmpty_iff]
  constructor
  · intro none
    apply ExtTreeSet.ext_mem
    intro index
    rw [← same,none]
    simp
  · intro none
    rw [ExtTreeMap.eq_empty_iff_forall_not_mem]
    intro index
    rw [same,none]
    exact ExtTreeSet.not_mem_empty

/-- A plan against the version that was captured: one classification, the orphans of the
response, and an update of every section if it is applied. -/
theorem reconcileOpenSet_current (tc : os.target=cat.target)
    (same : ∀index,index∈cat.sections ↔ index∈set) (gateHold : Bool) :
    ∃cls, reconcileOpenSet cat.contentVersion cat os gateHold=
        .ok (reconcileBase cat.contentVersion cat os cls
          (os.indexes.size-(observedIntersection cat os).size)
          (if cls.isValid then sectionUpdates cat (observedState os) else [])) ∧
      storedClassification cls=classifyOpenResponse os.indexes set
        (observedIntersection cat os).size gateHold := by
  have current : ¬cat.contentVersion≠cat.contentVersion := fun apart => apart rfl
  unfold reconcileOpenSet classifyOpenResponse
  rw [bind_of_ok (ensure_pos tc _)]
  simp only [if_neg current,← isEmpty_sections same]
  by_cases noIndexes : os.indexes.isEmpty=true
  · have none : os.indexes.size-(observedIntersection cat os).size=0 := by
      rw [ExtTreeSet.isEmpty_iff.mp noIndexes]
      simp
    rw [none,observedState_empty noIndexes]
    simp only [noIndexes]
    by_cases noSections : cat.sections.isEmpty=true
    · refine ⟨.validEmptyNoRows,?_,?_⟩
      · simp only [noSections]
        rw [sectionUpdates_empty noSections]
        rfl
      · simp only [noSections]
        rfl
    · simp only [noSections]
      cases gateHold with
      | true => exact ⟨.suspectPartialSnapshot,rfl,rfl⟩
      | false => exact ⟨.validApplied,rfl,rfl⟩
  · simp only [noIndexes]
    by_cases apart : (!cat.sections.isEmpty &&
        decide ((observedIntersection cat os).size=0))=true
    · refine ⟨.unsafeZeroIntersection,?_,?_⟩
      all_goals
        simp only [apart]
        rfl
    · simp only [apart]
      cases gateHold with
      | true => exact ⟨.suspectPartialSnapshot,rfl,rfl⟩
      | false => exact ⟨.validApplied,rfl,rfl⟩

omit [Sha256] in
theorem listed_eq (same : ∀index,index∈cat.sections ↔ index∈set)
    (indexes : ExtTreeSet SectionIndex) :
    indexes.filter (fun index => cat.containsIndex index)=indexes ∩ set := by
  apply ExtTreeSet.ext_mem
  intro index
  unfold CatalogOpenBatch.containsIndex
  simp only [ExtTreeSet.mem_filter,ExtTreeSet.mem_inter_iff,ExtTreeSet.get_eq,
    ExtTreeMap.contains_iff_mem,same,exists_prop]

omit [Sha256] in
/-- The resp as both sides count it. -/
theorem observedIntersection_eq (same : ∀index,index∈cat.sections ↔ index∈set) :
    observedIntersection cat os=os.indexes ∩ set :=
  listed_eq same os.indexes

omit [Sha256] in
theorem orphans_eq (same : ∀index,index∈cat.sections ↔ index∈set) :
    os.indexes.size-(observedIntersection cat os).size= (os.indexes \ set).size := by
  have total : (os.indexes \ set).size+(os.indexes ∩ set).size=
      os.indexes.size := ExtTreeSet.size_diff_add_size_inter_eq_size_left
  rw [observedIntersection_eq same]
  omega

omit [Sha256] in
theorem size_sections (same : ∀index,index∈cat.sections ↔ index∈set) :
    cat.sections.size=set.size := by
  have tabulated := congrArg ExtTreeMap.size (map_eq_tabulate same (fun _ => ()))
  rw [ExtTreeMap.size_map,size_tabulate] at tabulated
  exact tabulated

omit [Sha256] in
theorem size_listed_le (cat : CatalogOpenBatch) (indexes : ExtTreeSet SectionIndex) :
    (indexes.filter (fun index => cat.containsIndex index)).size ≤ cat.sections.size := by
  have same : ∀index,index∈cat.sections ↔
      index∈(ExtTreeSet.ofList cat.sections.keys : ExtTreeSet SectionIndex) := by
    intro index
    rw [ExtTreeSet.mem_ofList,List.contains_iff_mem,ExtTreeMap.mem_keys]
  rw [listed_eq same,size_sections same]
  exact ExtTreeSet.size_inter_le_size_right

end Plan

section Commit

variable [Sha256] {target tc : TermCampusKey} {tb : TargetTables} {batch : OpenBatchState}
  {att : OpenAttempt} {cmd : FinishOpenPullSuccessCommand}
  {resp : CanonicalOpenResponse} {accept : Bool} {out : OpenCommitOutcome}
  {db after : Database}

/-- What a finish reports of a response, whatever it does with it. -/
structure Reported (attempt : OpenAttempt) (response : CanonicalOpenResponse)
    (outcome : OpenCommitOutcome) : Prop where
  attemptId : outcome.attemptId=attempt.attemptId
  attemptSequence : outcome.attemptSequence=attempt.attemptSequence
  version : outcome.catalogContentVersion=attempt.capturedCatalogContentVersion
  raw : outcome.sourceValueCount=response.sourceValueCount
  sections : outcome.catalogSectionCount=attempt.catalogSections.size
  intersection : outcome.intersectionCount=
    (response.canonicalIndices ∩ attempt.catalogSections).size
  orphans : outcome.orphanCount=(response.canonicalIndices \ attempt.catalogSections).size
  duplicates : outcome.duplicateCount=response.duplicateCount
  withheld : outcome.classification.isSuccess=false →
    outcome.observationSequence=none ∧ outcome.observationCommit=none

theorem finishCompared_reported (h : finishCompared db tc tb batch att cmd resp accept=
      .ok (out,after)) :
    Reported att resp out ∧ out.classification=if Raced tb att accept then .staleCatalogRace
        else classifyOpenResponse resp.canonicalIndices att.catalogSections
          (resp.canonicalIndices ∩ att.catalogSections).size cmd.gateHold := by
  obtain ⟨cls,classified,⟨success,done⟩ | ⟨_,_,_,-,-,-,rfl,-⟩⟩ := finishCompared_cases h
  · obtain ⟨_,_,_,_,_,_,_,_,rfl⟩ := finishApplied_ok.mp done
    refine ⟨⟨rfl,rfl,rfl,rfl,rfl,rfl,rfl,rfl,?_⟩,classified⟩
    exact fun failed => absurd success (Bool.eq_false_iff.mp failed)
  · exact ⟨⟨rfl,rfl,rfl,rfl,rfl,rfl,rfl,rfl,fun _ => ⟨rfl,rfl⟩⟩,classified⟩

/-- The Catalog version that a finish reconciles with: the candidate of an attempt stands
for the version that it is based on. -/
def seenVersion (tables : TargetTables) (attempt : OpenAttempt) (accept : Bool) : Nat :=
  if accept=true ∧
      attempt.candidateBaseContentVersion=some tables.catalog.currentContentVersion then
    attempt.capturedCatalogContentVersion
  else tables.catalog.currentContentVersion

omit [Sha256] in
theorem raced_iff (tb : TargetTables) (att : OpenAttempt) (accept : Bool) : Raced tb att accept ↔
      seenVersion tb att accept≠att.capturedCatalogContentVersion := by
  unfold Raced seenVersion
  split
  · next accepted => simp [accepted]
  · next other => simp [other]

def SectionOpenUpdate.stored (update : SectionOpenUpdate) : SectionIndex × OpenSectionState :=
  (update.sectionKey.index,storedState update.state)

variable {cat : CatalogOpenBatch} {openSet os : OpenSetEvidence}

omit [Sha256] in
theorem sectionUpdates_stored (same : ∀index,index∈cat.sections ↔ index∈att.catalogSections)
    (indexes : os.indexes=resp.canonicalIndices) :
    (sectionUpdates cat (observedState os)).map SectionOpenUpdate.stored=
      (intendedStates att resp).toList := by
  have states : ∀index,storedState (observedState os index)=
      if index∈resp.canonicalIndices then .opened else .closed := by
    intro index
    unfold observedState
    rw [indexes]
    split <;> rfl
  unfold sectionUpdates intendedStates
  rw [← map_eq_tabulate same,ExtTreeMap.toList_map,List.map_map]
  apply List.map_congr_left
  intro en member
  have keyed := cat.keyed en.1 en.2 (ExtTreeMap.mem_toList_iff_getElem?_eq_some.mp member)
  change (en.2.index,storedState (observedState os en.1))=_
  rw [states,keyed]

omit [Sha256] in
theorem openStatePreimage_eq (tc : TermCampusKey) {updates : List SectionOpenUpdate}
    {states : ExtTreeMap SectionIndex OpenSectionState}
    (stored : updates.map SectionOpenUpdate.stored=states.toList) :
    openStatePreimageV1 tc updates=openStatePreimage tc states := by
  unfold openStatePreimageV1 openStatePreimage
  rw [← stored,List.foldl_map]
  congr 1
  funext preimage update
  change preimage ++ update.sectionKey.index.value ++ "\t" ++ update.state.wireName ++ "\n"=
    preimage ++ update.sectionKey.index.value ++ "\t" ++ (storedState update.state).asStr ++ "\n"
  rw [storedState_asStr]

structure Agrees (target : TermCampusKey) (attempt : OpenAttempt)
    (response : CanonicalOpenResponse) (outcome : OpenCommitOutcome)
    (plan : OpenReconcilePlan) : Prop where
  classification : outcome.classification=storedClassification plan.classification
  sections : outcome.catalogSectionCount=plan.catalogSectionCount
  raw : outcome.sourceValueCount=plan.rawValueCount
  intersection : outcome.intersectionCount=plan.observedIntersectionCount
  duplicates : outcome.duplicateCount=plan.duplicateCount
  canonical : plan.canonicalSetHash=response.canonicalSetSha256
  current : plan.classification≠.staleCatalogRace → outcome.orphanCount=plan.orphanCount ∧
    outcome.catalogContentVersion=plan.currentCatalogContentVersion
  raced : plan.classification=.staleCatalogRace → plan.orphanCount=0
  applied : plan.classification.isValid=true →
    plan.stateHash=some (openStateHashV1 target plan.updates) ∧
    openStatePreimageV1 target plan.updates=
      openStatePreimage target (intendedStates attempt response) ∧
    plan.updates.map SectionOpenUpdate.stored=(intendedStates attempt response).toList

/-- The evidence of the service is the response that the storage canonicalizes. -/
structure SameResponse (target : TermCampusKey) (openSet : OpenSetEvidence)
    (response : CanonicalOpenResponse) : Prop where
  target : openSet.target=target
  indexes : openSet.indexes=response.canonicalIndices
  raw : openSet.rawValueCount=response.sourceValueCount
  duplicates : openSet.duplicateCount=response.duplicateCount
  canonical : openSet.canonicalSetHash=response.canonicalSetSha256

theorem sameResponse_of_ok
    (evidence : OpenSetEvidence.tryNew target (cmd.openSections.map SectionKey.index)
      cmd.sourceValueCount=.ok openSet)
    (canonical : canonicalizeOpenResponse target cmd.openSections
      cmd.sourceValueCount=.ok resp) : SameResponse target openSet resp := by
  obtain ⟨-,rfl⟩ := OpenSetEvidence.tryNew_ok.mp evidence
  obtain ⟨-,-,rfl⟩ := canonicalizeOpenResponse_ok.mp canonical
  exact ⟨rfl,rfl,rfl,rfl,rfl⟩

/-- Reconcile and the storage agree on a response if they see one Catalog. -/
theorem finishCompared_agrees {plan : OpenReconcilePlan}
    (same : SameResponse tc os resp) (owned : cat.target=tc)
    (secs : ∀index,index∈cat.sections ↔ index∈att.catalogSections)
    {cap : CatalogContentVersion}
    (capture : (cap : Nat)=att.capturedCatalogContentVersion)
    (seen : seenVersion tb att accept=(cat.contentVersion : Nat))
    (planned : reconcileOpenSet cap cat os cmd.gateHold=.ok plan)
    (h : finishCompared db tc tb batch att cmd resp accept=
      .ok (out,after)) : Agrees tc att resp out plan := by
  obtain ⟨reported,classified⟩ := finishCompared_reported h
  have own : os.target=cat.target := same.target.trans owned.symm
  have intersection : (observedIntersection cat os).size=
      (resp.canonicalIndices ∩ att.catalogSections).size := by
    rw [observedIntersection_eq secs,same.indexes]
  have counted := size_sections secs
  have raced : Raced tb att accept ↔ cap≠cat.contentVersion := by
    rw [raced_iff,seen,← capture,ne_comm,PNat.coe_inj.ne]
  by_cases apart : cap=cat.contentVersion
  · rw [if_neg (fun race => raced.mp race apart)] at classified
    subst apart
    obtain ⟨cls,done,stored⟩ := reconcileOpenSet_current own secs cmd.gateHold
    rw [planned] at done
    cases done
    have orphans : os.indexes.size-(observedIntersection cat os).size=
        (os.indexes \ att.catalogSections).size := orphans_eq secs
    rw [same.indexes,intersection] at stored
    rw [orphans,same.indexes]
    have updates := sectionUpdates_stored secs same.indexes
    refine ⟨classified.trans stored.symm,reported.sections.trans counted.symm,
      reported.raw.trans same.raw.symm,reported.intersection.trans intersection.symm,
      reported.duplicates.trans same.duplicates.symm,same.canonical,?_,?_,?_⟩
    · exact fun _ => ⟨reported.orphans,reported.version.trans capture.symm⟩
    · intro race
      change cls=_ at race
      rw [race] at stored
      have := classifyOpenResponse_cases resp.canonicalIndices att.catalogSections
        (resp.canonicalIndices ∩ att.catalogSections).size cmd.gateHold
      rw [← stored] at this
      simp [storedClassification] at this
    · intro valid
      change cls.isValid=true at valid
      simp only [reconcileBase,valid,if_true,owned]
      exact ⟨trivial,openStatePreimage_eq tc updates,updates⟩
  · rw [reconcileOpenSet_raced own apart] at planned
    rw [if_pos (raced.mpr apart)] at classified
    cases planned
    refine ⟨classified,reported.sections.trans counted.symm,reported.raw.trans same.raw.symm,
      reported.intersection.trans intersection.symm,
      reported.duplicates.trans same.duplicates.symm,same.canonical,?_,fun _ => rfl,?_⟩
    · exact fun current => absurd rfl current
    · intro valid
      cases valid

theorem Agrees.matches {plan : OpenReconcilePlan} (agrees : Agrees tc att resp out plan)
    (reported : Reported att resp out) : outcomeMatchesReconcile out plan := by
  unfold outcomeMatchesReconcile
  split
  · next raced =>
    apply (reported.withheld _).1
    rw [raced]
    rfl
  · next current =>
    have kept : plan.classification≠.staleCatalogRace := by
      intro race
      apply current
      rw [agrees.classification,race]
      rfl
    obtain ⟨orphans,version⟩ := agrees.current kept
    exact ⟨agrees.classification,version,agrees.raw,agrees.sections,agrees.intersection,orphans,
      agrees.duplicates⟩

/-- A finish of a serving attempt compares its response with what the attempt captured. -/
theorem serving_compared (h : db.finishOpenPullSuccess cmd=.ok (out,after)) :
    ∃tc tb att batch resp, att∈(db.tables tc).attempts ∧ att.attemptId=cmd.attemptId ∧
      tb.catalog=(db.tables tc).catalog ∧
      canonicalizeOpenResponse tc cmd.openSections cmd.sourceValueCount= .ok resp ∧
      finishCompared db tc tb batch att cmd resp false= .ok (out,after) := by
  obtain ⟨-,tc,tb,att,batch,resp,loaded,-,can,-,done⟩ := finishOpenPullSuccessTransaction_ok.mp h
  obtain ⟨held,listed,named⟩ := loaded.rows
  rw [← tables_eq held] at listed
  refine ⟨tc,tb,att,batch,resp,listed,named,?_,can,done⟩
  rw [tables_eq held]

/-- So does the finish of a candidate attempt, which sees the version that it captured. -/
theorem candidate_compared (sound : db.Sound) {oid : TraceId}
    {emptyDecision : EmptySnapshotDecision} {cat : Option PublishOutcome}
    (h : db.finishCandidateOpenPullSuccess oid emptyDecision cmd= .ok (cat,out,after)) :
    ∃tc tb att batch resp retained accept inner final,
      att∈(db.tables tc).attempts ∧ att.attemptId=cmd.attemptId ∧
      att.candidateCatalogObservationId=some oid ∧
      seenVersion tb att accept=att.capturedCatalogContentVersion ∧
      retained=retainWatched cmd tc att.catalogSections ∧
      canonicalizeOpenResponse tc cmd.openSections cmd.sourceValueCount= .ok resp ∧
      finishCompared inner tc tb batch att retained resp accept= .ok (out,final) := by
  obtain ⟨tc,tb,att,base,began,bound,based,current,
    ⟨publication,published,publishes,version,finishes⟩ | ⟨final,finishes,rfl⟩⟩ :=
    finishCandidateOpenPullSuccess_cases h
  all_goals
    obtain ⟨found,-⟩ := loadStartedOpenAttempt_ok.mp began
    obtain ⟨held,listed,named⟩ := findAttempt_some found
    have here : att∈(db.tables tc).attempts := by
      rw [tables_eq held]
      exact listed
  · obtain ⟨-,other,rows,row,filled,canonicalized,loaded,-,reads,-,done⟩ :=
      finishOpenPullSuccessTransaction_ok.mp finishes
    obtain ⟨registered,member,same⟩ := loaded.rows
    -- Publishing changes no att, so the published storage loads the same row.
    have there : row∈(db.tables other).attempts := by
      rw [← publishStaged_attempts publishes,tables_eq registered]
      exact member
    have again := sound.consistent.findAttempt_tables there
    rw [same] at again
    change db.findAttempt cmd.attemptId=_ at again
    rw [found] at again
    cases again
    refine ⟨tc,rows,att,filled,canonicalized,_,false,published,_,here,named,bound,?_,
      rfl,reads,done⟩
    -- The staged Catalog is that of the tc of the att.
    have served : rows.catalog.currentContentVersion=publication.contentVersion := by
      rw [← tables_eq registered]
      obtain ⟨staged,former,hit,known,⟨rfl,answered⟩ | ⟨rfl,answered,-⟩⟩ :=
        publishStaged_cases publishes
      · have own := ((sound.captures.candidate tc att here oid bound).2 staged hit).1
        rw [answered,← tables_eq known,own]
        rfl
      · have own := ((sound.captures.candidate tc att here oid bound).2 staged hit).1
        rw [answered,tables_setTables,if_pos own]
        rfl
    unfold seenVersion
    rw [if_neg (fun accepted => absurd accepted.1 Bool.false_ne_true),served,version]
  · obtain ⟨-,other,rows,row,filled,canonicalized,loaded,-,reads,-,done⟩ :=
      finishOpenPullSuccessTransaction_ok.mp finishes
    have again := loaded.found
    change db.findAttempt cmd.attemptId=_ at again
    rw [found] at again
    cases again
    refine ⟨tc,tb,att,filled,canonicalized,_,true,db,_,here,named,bound,?_,rfl, reads,done⟩
    unfold seenVersion
    rw [current,if_pos ⟨rfl,based⟩]

end Commit

end CoursePlanner.Open
