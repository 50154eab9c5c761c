import CoursePlanner.Storage.Consistent

namespace CoursePlanner.Storage

open Std Library Contracts
open Open (Sha256 isSha256Hex)
open Relation (ReflTransGen)

namespace Database

section Rows

variable {db : Database}

variable {tables : TargetTables} {target : TermCampusKey} {ed : EmptySnapshotDecision}
    {after : Database} {attemptId : TraceId}

theorem tables_eq (held : db.targets[target]?=some tables) : db.tables target=tables := by
  unfold Database.tables
  rw [held]
  rfl

theorem tables_setTables (db : Database) (target other : TermCampusKey) (tables : TargetTables) :
    (db.setTables target tables).tables other=if target=other then tables else db.tables other := by
  unfold Database.tables Database.setTables
  rw [getElem?_insert_eq]
  split <;> rfl

theorem mem_targets_setTables (db : Database) (target other : TermCampusKey)
    (tables : TargetTables) (h : other∈db.targets) :
    other∈(db.setTables target tables).targets := by
  change other∈db.targets.insert target tables
  rw [ExtTreeMap.mem_insert]
  exact .inr h

/-- A published version is the current one or its successor. -/
theorem stagedVersion_some {staged : StagedCatalog} {cat : CatalogTarget} {version : Nat}
    (h : stagedVersion db staged cat ed=.ok (some version)) :
    version=cat.currentContentVersion ∨ version=cat.currentContentVersion+1 := by
  unfold stagedVersion at h
  simp only at h
  split at h
  · cases h
  simp only [ensure_bind_ok] at h
  obtain ⟨-,-,-,-,h⟩ := h
  cases h
  split
  · exact .inr rfl
  · exact .inl rfl

section

variable {oid : TraceId} {outcome : PublishOutcome}
  (h : db.publishStaged oid ed=.ok (outcome,after))

include h

/-- A staged Catalog is cleared; a changed one gets the next version. -/
theorem publishStaged_cases : ∃staged tables,db.staged[oid]?=some staged ∧
      db.targets[staged.target]?=some tables ∧
      ((after=db.discardStaged oid ∧ outcome.contentVersion=tables.catalog.currentContentVersion) ∨
      (after=(db.discardStaged oid).setTables staged.target
          { tables with catalog := staged.serve (tables.catalog.currentContentVersion+1) } ∧
        outcome.contentVersion=tables.catalog.currentContentVersion+1 ∧
        outcome.retainsSuspectEmpty=false)) := by
  unfold publishStaged at h
  simp only [bind_ok,required_ok] at h
  obtain ⟨staged,found,tables,held,version,decided,h⟩ := h
  refine ⟨staged,tables,found,held,?_⟩
  cases version with
  | none =>
    cases h
    exact .inl ⟨rfl,rfl⟩
  | some version =>
    simp only at h
    split at h
    · next unchanged =>
      cases h
      exact .inl ⟨rfl,unchanged⟩
    next changed =>
    cases h
    have next := (stagedVersion_some decided).resolve_left changed
    subst next
    refine .inr ⟨rfl,?_,?_⟩ <;> split <;> rfl

theorem publishStaged_attempts (target : TermCampusKey) :
    (after.tables target).attempts=(db.tables target).attempts := by
  obtain ⟨staged,tables,-,held,⟨rfl,-⟩ | ⟨rfl,-,-⟩⟩ := publishStaged_cases h
  · rfl
  rw [tables_setTables]
  split
  · next same =>
    rw [← same,tables_eq held]
  · rfl

end

theorem findAttempt_none (h : db.findAttempt attemptId=none) {row : OpenAttempt}
    (listed : row∈(db.tables target).attempts) : row.attemptId≠attemptId := by
  intro same
  unfold Database.tables at listed
  cases held : db.targets[target]? with
  | none =>
    rw [held] at listed
    cases listed
  | some tables =>
    rw [held] at listed
    have missing := List.findSome?_eq_none_iff.mp h (target,tables)
      (ExtTreeMap.mem_toList_iff_getElem?_eq_some.mpr held)
    simp only [Option.map_eq_none_iff,List.find?_eq_none] at missing
    exact missing row listed (decide_eq_true same)

theorem findAttempt_some {row : OpenAttempt} (h : db.findAttempt attemptId=some (target,tables,row)) :
    db.targets[target]?=some tables ∧ row∈tables.attempts ∧ row.attemptId=attemptId := by
  obtain ⟨⟨key,entry⟩,member,found⟩ := List.exists_of_findSome?_eq_some h
  obtain ⟨attempt,hit,same⟩ := Option.map_eq_some_iff.mp found
  cases same
  refine ⟨ExtTreeMap.mem_toList_iff_getElem?_eq_some.mp member, List.mem_of_find?_eq_some hit,?_⟩
  simpa using List.find?_some hit

theorem attemptCatalog_serving {version : Nat} {secs : ExtTreeSet SectionIndex}
    (h : db.attemptCatalog target none=.ok (version,secs)) :
    version=(db.tables target).catalog.currentContentVersion ∧
      secs=(db.tables target).catalog.sections := by
  unfold attemptCatalog at h
  simp only [ensure_bind_ok] at h
  obtain ⟨-,h⟩ := h
  cases h
  exact ⟨rfl,rfl⟩

structure Begun (db : Database) (command : BeginOpenPullAttemptCommand)
    (candidate : Option CatalogCandidateOpenSnapshot) (sections : ExtTreeSet SectionIndex)
    (tables : TargetTables) : Prop where
  held : db.targets[command.target]?=some tables
  fresh : db.findAttempt command.attemptId=none
  idle : ∀row∈tables.attempts,row.classification≠.started
  captured : command.capturedCatalogContentVersion≠0
  catalog : db.attemptCatalog command.target candidate=
    .ok (command.capturedCatalogContentVersion,sections)

/-- A begin finds the row that it inserted before, or inserts one. -/
theorem begin_cases {command : BeginOpenPullAttemptCommand}
    {cand : Option CatalogCandidateOpenSnapshot} {sequence : Nat}
    (h : db.beginOpenPullAttemptWithCatalog command cand=.ok (sequence,after)) :
    (∃target tables row,db.findAttempt command.attemptId=some (target,tables,row) ∧
      row.begunBy target command cand ∧ sequence=row.attemptSequence ∧ after=db) ∨
    ∃secs tables,Begun db command cand secs tables ∧
      sequence=(tables.batch.getD .new).lastAttemptSequence+1 ∧
      after=db.setTables command.target (tables.insertAttempt command cand secs) := by
  unfold beginOpenPullAttemptWithCatalog validateOptionalPositive u64ToI64 optionalU64ToI64 at h
  simp only [bind_ok,ensure_ok,exists_const] at h
  obtain ⟨-,-,captured,-,-,-,-,⟨version,secs⟩,cat,h⟩ := h
  cases found : db.findAttempt command.attemptId with
  | some en =>
    obtain ⟨target,tables,row⟩ := en
    rw [found] at h
    simp only [ensure_bind_ok] at h
    obtain ⟨same,h⟩ := h
    cases h
    exact .inl ⟨target,tables,row,rfl,same,rfl,rfl⟩
  | none =>
    rw [found] at h
    simp only [required_bind_ok] at h
    obtain ⟨tables,held,h⟩ := h
    cases active : tables.attempts.find? (fun attempt => attempt.classification=.started) with
    | some row =>
      rw [active] at h
      cases h
    | none =>
      rw [active] at h
      simp only [ensure_bind_ok] at h
      obtain ⟨same,h⟩ := h
      cases h
      refine .inr ⟨secs,tables,⟨held,found,?_,captured,?_⟩,rfl,rfl⟩
      · intro row mem started
        have := List.find?_eq_none.mp active row mem
        simp [started] at this
      · rw [cat,same]

structure Loaded (db : Database) (attemptId : TraceId) (target : TermCampusKey)
    (tables : TargetTables) (attempt : OpenAttempt) (batch : OpenBatchState) : Prop where
  found : db.findAttempt attemptId=some (target,tables,attempt)
  started : attempt.classification=.started
  held : tables.batch=some batch
  newest : batch.lastAttemptSequence=attempt.attemptSequence ∧
    batch.lastAttemptId=some attempt.attemptId

theorem Loaded.rows {attempt : OpenAttempt} {batch : OpenBatchState}
    (loaded : Loaded db attemptId target tables attempt batch) :
    db.targets[target]?=some tables ∧ attempt∈tables.attempts ∧ attempt.attemptId=attemptId :=
  findAttempt_some loaded.found

theorem loadStartedOpenAttempt_ok {en : TermCampusKey × TargetTables × OpenAttempt} :
    loadStartedOpenAttempt db attemptId=.ok en ↔
      db.findAttempt attemptId=some en ∧ en.2.2.classification=.started := by
  unfold loadStartedOpenAttempt
  simp only [bind_ok,required_ok,ensure_ok,exists_const,pure_ok]
  constructor
  · rintro ⟨found,hit,started,rfl⟩
    exact ⟨hit,started⟩
  · rintro ⟨hit,started⟩
    exact ⟨en,hit,started,rfl⟩

theorem ensureStartedOpenAttemptIsCurrent_ok {attempt : OpenAttempt} {batch : OpenBatchState} :
    ensureStartedOpenAttemptIsCurrent tables attempt=.ok batch ↔
      tables.batch=some batch ∧ batch.lastAttemptSequence=attempt.attemptSequence ∧
        batch.lastAttemptId=some attempt.attemptId := by
  unfold ensureStartedOpenAttemptIsCurrent
  simp only [bind_ok,required_ok,ensure_ok,exists_const,pure_ok]
  constructor
  · rintro ⟨found,held,newest,rfl⟩
    exact ⟨held,newest⟩
  · rintro ⟨held,newest⟩
    exact ⟨batch,held,newest,rfl⟩

end Rows

end Database

variable [Sha256]

/-- What operations write to: the attempts of each target and the staged Catalogs that
they take away. -/
structure StorageScope where
  target : TermCampusKey → WriteScope
  consumes : TraceId → Prop

/-- The storage before and after operations that keep to a policy. -/
structure Database.Evolves (policy : WritePolicy) (scope : StorageScope) (db after : Database) : Prop where
  tables : ∀target,ReflTransGen (TargetWrite policy (scope.target target)) (db.tables target)
    (after.tables target)
  targets : ∀target∈db.targets,target∈after.targets
  observations : ∀id∈db.observations,id∈after.observations
  staged : ∀id staged,after.staged[id]?=some staged → db.staged[id]?=some staged ∨
    (id∉db.observations ∧ id∈after.observations ∧ staged.target∈after.targets)
  kept : ∀id staged,db.staged[id]?=some staged → ¬scope.consumes id →
    after.staged[id]?=some staged

namespace Database.Evolves

variable {policy : WritePolicy} {scope : StorageScope} {db middle after : Database}

theorem refl (policy : WritePolicy) (scope : StorageScope) (db : Database) : db.Evolves policy scope db :=
  ⟨fun _ => .refl,fun _ h => h,fun _ h => h,fun _ _ h => .inl h,fun _ _ h _ => h⟩

theorem trans (h : db.Evolves policy scope middle) (g : middle.Evolves policy scope after) :
    db.Evolves policy scope after where
  tables target := (h.tables target).trans (g.tables target)
  targets target member := g.targets target (h.targets target member)
  observations id member := g.observations id (h.observations id member)
  staged id staged found := by
    rcases g.staged id staged found with earlier | ⟨unknown,known,registered⟩
    · rcases h.staged id staged earlier with first | ⟨unknown,known,registered⟩
      · exact .inl first
      · exact .inr ⟨unknown,g.observations id known,g.targets _ registered⟩
    · exact .inr ⟨fun old => unknown (h.observations id old),known,registered⟩
  kept id staged found unconsumed := g.kept id staged (h.kept id staged found unconsumed) unconsumed

end Database.Evolves

namespace Database

variable {policy : WritePolicy} {scope : StorageScope} {db : Database}

variable {tables : TargetTables} {target : TermCampusKey} {after : Database}
    {oid : TraceId} {attempt : OpenAttempt} {batch : OpenBatchState}
    {command : FinishOpenPullSuccessCommand} {outcome : OpenCommitOutcome}

theorem evolves_setTables {after : TargetTables} (held : db.targets[target]?=some tables)
    (writes : ReflTransGen (TargetWrite policy (scope.target target)) tables after)
    (lastEventId : Nat) :
    db.Evolves policy scope { db.setTables target after with lastEventId } where
  tables other := by
    change ReflTransGen _ _ ((db.setTables target after).tables other)
    rw [tables_setTables]
    split
    · subst other
      rw [tables_eq held]
      exact writes
    · exact .refl
  targets other member := mem_targets_setTables db target other after member
  observations _ member := member
  staged _ _ found := .inl found
  kept _ _ found _ := found

theorem evolves_discardStaged (db : Database) (oid : TraceId) (consumes : scope.consumes oid) :
    db.Evolves policy scope (db.discardStaged oid) where
  tables _ := .refl
  targets _ member := member
  observations _ member := member
  staged id staged found := by
    exact .inl (of_getElem?_erase found).2
  kept id staged found unconsumed := by
    change (db.staged.erase oid)[id]?=_
    rw [getElem?_erase_eq,if_neg]
    · exact found
    · rintro rfl
      exact unconsumed consumes

theorem stageCatalogRefresh_evolves {staged : StagedCatalog}
    (h : db.stageCatalogRefresh oid staged=.ok after) :
    db.Evolves policy scope after := by
  unfold stageCatalogRefresh at h
  rw [ensure_bind_ok] at h
  obtain ⟨unknown,h⟩ := h
  cases h
  refine ⟨?_,?_,?_,?_,?_⟩
  · intro target
    have same : (db.setTables staged.target (db.tables staged.target)).tables target=
        db.tables target := by
      rw [tables_setTables]
      split
      · subst target
        rfl
      · rfl
    change ReflTransGen _ _ ((db.setTables staged.target (db.tables staged.target)).tables target)
    rw [same]
  · exact fun target member => mem_targets_setTables db staged.target target _ member
  · intro id member
    exact ExtTreeSet.mem_insert.mpr (.inr member)
  · intro id other found
    rcases of_getElem?_insert found with ⟨rfl,rfl⟩ | before
    · exact .inr ⟨unknown,ExtTreeSet.mem_insert_self,ExtTreeMap.mem_insert_self⟩
    · exact .inl before
  · intro id other found _
    rw [getElem?_insert_eq,if_neg]
    · exact found
    rintro rfl
    exact unknown (db.known _ (mem_of_getElem? found))

theorem publishStaged_evolves {ed : EmptySnapshotDecision} {outcome : PublishOutcome}
    (consumes : scope.consumes oid)
    (h : db.publishStaged oid ed=.ok (outcome,after)) :
    db.Evolves policy scope after := by
  have cleared : db.Evolves policy scope (db.discardStaged oid) :=
    evolves_discardStaged db oid consumes
  obtain ⟨staged,tables,-,held,⟨rfl,-⟩ | ⟨rfl,-,-⟩⟩ := publishStaged_cases h
  · exact cleared
  apply cleared.trans
  have registered : (db.discardStaged oid).targets[staged.target]?=some tables := held
  exact evolves_setTables registered (.single (.published tables _ (Nat.lt_succ_self _)))
    db.lastEventId

section

variable {command : BeginOpenPullAttemptCommand} {cand : Option CatalogCandidateOpenSnapshot}

theorem Begun.evolves {sections : ExtTreeSet SectionIndex}
    (begun : Begun db command cand sections tables)
    (begins : (scope.target command.target).begins command.attemptId)
    (interval : policy.interval command.effectiveIntervalSeconds) :
    db.Evolves policy scope
      (db.setTables command.target (tables.insertAttempt command cand sections)) := by
  have same := tables_eq begun.held
  refine evolves_setTables begun.held (.single (.inserted tables command cand sections
    begins begun.idle ?_ begun.captured ?_ interval)) db.lastEventId
  · intro row listed
    rw [← same] at listed
    exact findAttempt_none begun.fresh listed
  · rintro rfl
    rw [← same]
    exact attemptCatalog_serving begun.catalog

theorem beginOpenPullAttemptWithCatalog_evolves {sequence : Nat}
    (begins : (scope.target command.target).begins command.attemptId)
    (iv : policy.interval command.effectiveIntervalSeconds)
    (h : db.beginOpenPullAttemptWithCatalog command cand=.ok (sequence,after)) :
    db.Evolves policy scope after := by
  rcases begin_cases h with ⟨_,_,_,_,_,_,rfl⟩ | ⟨_,_,begun,_,rfl⟩
  · exact .refl policy scope _
  · exact begun.evolves begins iv

end

/-- A response is applied if its attempt has an interval, the watched sections are of the
Catalog, its count can be stored and its counters exist. -/
theorem finishApplied_ok {comparison : OpenComparison} {classification : OpenAttemptClassification} :
    finishApplied db target tables batch attempt command comparison classification=
        .ok (outcome,after) ↔
      ∃seconds watched counted, attempt.effectiveIntervalSeconds=some seconds ∧
        canonicalizeWatchedSections target command.watchedSections attempt.catalogSections=
          .ok watched ∧
        comparison.response.sourceValueCount ≤ i64Max ∧
        (tables.applyResponse batch attempt command comparison.response
          (appliedObservation target batch attempt command.completedAt comparison.response
            classification)).incrementFinalCounters attempt.runId attempt.rutgersDay true
              comparison.response.canonicalIndices.isEmpty=.ok counted ∧
        after={ db.setTables target counted.pruneCommitted with
          lastEventId := db.lastEventId+(sectionEvents target
            (appliedObservation target batch attempt command.completedAt comparison.response
              classification) comparison.response.canonicalIndices watched
            db.lastEventId).length } ∧
        outcome=appliedOutcome tables counted batch attempt comparison
          (appliedObservation target batch attempt command.completedAt comparison.response
            classification) seconds (after.openServiceDayCounters attempt.rutgersDay)
          (sectionEvents target (appliedObservation target batch attempt command.completedAt
            comparison.response classification) comparison.response.canonicalIndices watched
            db.lastEventId) := by
  unfold finishApplied u64ToI64
  simp only [bind_ok,required_ok,ensure_ok,exists_const,pure_ok,Prod.mk.injEq]
  constructor
  · rintro ⟨seconds,iv,watched,listed,fits,counted,done,rfl,rfl⟩
    exact ⟨seconds,watched,counted,iv,listed,fits,done,rfl,rfl⟩
  · rintro ⟨seconds,watched,counted,iv,listed,fits,done,rfl,rfl⟩
    exact ⟨seconds,iv,watched,listed,fits,counted,done,rfl,rfl⟩

theorem finishApplied_classification {comparison : OpenComparison}
    {classification : OpenAttemptClassification}
    (h : finishApplied db target tables batch attempt command comparison classification=
      .ok (outcome,after)) : outcome.classification=classification := by
  obtain ⟨_,_,_,_,_,_,_,_,rfl⟩ := finishApplied_ok.mp h
  rfl

section Finish

variable {attemptId : TraceId} {target : TermCampusKey} {tables : TargetTables}
  {attempt : OpenAttempt} {batch : OpenBatchState}
  (loaded : Loaded db attemptId target tables attempt batch)

include loaded

omit [Sha256] loaded in
/-- A response has a state for every section that its attempt copied. -/
theorem mem_intendedStates (attempt : OpenAttempt) (resp : CanonicalOpenResponse)
    (index : SectionIndex) :
    index∈intendedStates attempt resp ↔ index∈attempt.catalogSections := by
  classical
  unfold intendedStates
  rw [mem_iff_getElem?_ne_none,getElem?_tabulate]
  by_cases h : index∈attempt.catalogSections <;> simp [h]

variable {classification : OpenAttemptClassification} {command : FinishOpenPullSuccessCommand}

/-- An attempt that applies nothing is retired and counted. -/
theorem finalizeNonAppliedAttempt_writes {completedAt : Timestamp} {http : OpenHttpAuditMetadata}
    {response : Option CanonicalOpenResponse} {code : String} {gate : Option String}
    {finalized : TargetTables} (terminal : classification≠.started)
    (unapplied : classification.isSuccess=false) (settles : (scope.target target).settles attemptId)
    (allowed : policy.failure code http.httpStatus)
    (h : tables.finalizeNonAppliedAttempt attempt completedAt classification http response code
      gate=.ok finalized) :
    ReflTransGen (TargetWrite policy (scope.target target)) tables finalized := by
  obtain ⟨-,listed,named⟩ := loaded.rows
  unfold TargetTables.finalizeNonAppliedAttempt at h
  simp only [bind_ok] at h
  obtain ⟨-,-,-,-,-,-,h⟩ := h
  rw [← named] at settles
  have retires : Retires (fun attempt => TargetTables.finalizeAttempt attempt completedAt
      classification http response code gate) completedAt code http.httpStatus :=
    ⟨fun _ => ⟨rfl,rfl,rfl,rfl,rfl,rfl,rfl,rfl,rfl,rfl,rfl,rfl,rfl⟩,fun _ => rfl,
      fun _ => terminal,fun _ => unapplied,fun _ _ => ⟨rfl,rfl⟩⟩
  have batched : (tables.updateStarted attempt.attemptId (fun attempt =>
      TargetTables.finalizeAttempt attempt completedAt classification http response code
        gate)).batch=some batch := loaded.held
  rw [batched] at h
  exact .single (.retired tables batch attempt _ completedAt code http.httpStatus _ finalized
    settles listed loaded.started loaded.held retires allowed h)

theorem applyResponse_write {response : CanonicalOpenResponse} {empty : Bool}
    {counted : TargetTables} (success : classification.isSuccess=true)
    (canonical : isSha256Hex response.canonicalSetSha256=true)
    (settles : (scope.target target).settles attemptId)
    (applies : (scope.target target).applies attemptId)
    (h : (tables.applyResponse batch attempt command response
      (appliedObservation target batch attempt command.completedAt response
        classification)).incrementFinalCounters attempt.runId attempt.rutgersDay true empty=
          .ok counted) : TargetWrite policy (scope.target target) tables counted := by
  obtain ⟨-,listed,named⟩ := loaded.rows
  rw [← named] at settles applies
  have state : isSha256Hex (openStateSha256V1 target (intendedStates attempt response))=true :=
    Sha256.wellFormed _
  exact .applied tables batch attempt command classification _ _
    (intendedStates attempt response) empty counted settles applies
    (mem_intendedStates attempt response) listed loaded.started loaded.held success canonical
    state _ rfl h

theorem finishApplied_evolves {comparison : OpenComparison} {outcome : OpenCommitOutcome}
    {after : Database} (success : classification.isSuccess=true)
    (canonical : isSha256Hex comparison.response.canonicalSetSha256=true)
    (settles : (scope.target target).settles attemptId)
    (retains : (scope.target target).retains ≤ openDiagnosticRetentionPerTarget)
    (applies : (scope.target target).applies attemptId)
    (h : finishApplied db target tables batch attempt command comparison classification=
      .ok (outcome,after)) : db.Evolves policy scope after := by
  obtain ⟨registered,-,-⟩ := loaded.rows
  obtain ⟨seconds,watched,counted,-,-,-,done,rfl,-⟩ := finishApplied_ok.mp h
  have write : TargetWrite policy (scope.target target) tables counted :=
    applyResponse_write loaded success canonical settles applies done
  exact evolves_setTables registered (.tail (.single write) (.pruned _ _ _ (by decide) retains)) _

end Finish

variable {accept : Bool}

/-- A finish succeeds exactly if it finds its attempt in flight and every check passes. -/
theorem finishOpenPullSuccessTransaction_ok {result : OpenCommitOutcome × Database} :
    db.finishOpenPullSuccessTransaction command accept=.ok result ↔
      validateOpenHttpAudit command.http true=.ok () ∧
      ∃target tables attempt batch resp, Loaded db command.attemptId target tables attempt batch ∧
        attempt.startedAt.instant ≤ command.completedAt.instant ∧
        canonicalizeOpenResponse target command.openSections command.sourceValueCount= .ok resp ∧
        0 < tables.catalog.currentContentVersion ∧
        finishCompared db target tables batch attempt command resp accept=.ok result := by
  unfold finishOpenPullSuccessTransaction validateTimestampOrder
  simp only [bind_ok,ensure_ok,exists_const,loadStartedOpenAttempt_ok,
    ensureStartedOpenAttemptIsCurrent_ok]
  constructor
  · rintro ⟨_,audit,⟨target,tables,attempt⟩,⟨found,started⟩,batch,⟨held,newest⟩,order,
      resp,canonical,pub,done⟩
    exact ⟨audit,target,tables,attempt,batch,resp,⟨found,started,held,newest⟩,order,
      canonical,pub,done⟩
  · rintro ⟨audit,target,tables,attempt,batch,resp,⟨found,started,held,newest⟩,order,
      canonical,pub,done⟩
    exact ⟨(),audit,⟨target,tables,attempt⟩,⟨found,started⟩,batch,⟨held,newest⟩,order,
      resp,canonical,pub,done⟩

/-- What the finish of a response may report. -/
def Reports (policy : WritePolicy) (status : Option Nat) : Prop :=
  policy.failure "CATALOG_CONTENT_VERSION_CHANGED" status ∧
    ∀classification,policy.failure (unsafeErrorCode classification) status

omit [Sha256] in
theorem classifyOpenResponse_cases (canonicalIndices catalogIndices : ExtTreeSet SectionIndex)
    (intersectionCount : Nat) (gateHold : Bool) :
    classifyOpenResponse canonicalIndices catalogIndices intersectionCount gateHold∈
      [.validApplied,.validEmptyNoRows,.unsafeZeroIntersection,.suspectPartialSnapshot] := by
  unfold classifyOpenResponse
  split_ifs <;> simp

/-- The Catalog that a finish finds is not the one that its attempt captured. -/
def Raced (tables : TargetTables) (attempt : OpenAttempt) (accept : Bool) : Prop :=
  tables.catalog.currentContentVersion≠attempt.capturedCatalogContentVersion ∧
    ¬(accept=true ∧
      attempt.candidateBaseContentVersion=some tables.catalog.currentContentVersion)

instance (tables : TargetTables) (attempt : OpenAttempt) (accept : Bool) :
    Decidable (Raced tables attempt accept) :=
  inferInstanceAs (Decidable (_ ∧ _))

/-- The Catalog identity that is stored with a response. A race stores none. -/
def storedGate (outcome : OpenCommitOutcome) (command : FinishOpenPullSuccessCommand) :
    Option String :=
  if outcome.classification=.staleCatalogRace then none else command.gateCatalogSetIdentity

theorem finishCompared_cases {response : CanonicalOpenResponse}
    (h : finishCompared db target tables batch attempt command response accept=
      .ok (outcome,after)) :
    ∃classification,classification=(if Raced tables attempt accept then .staleCatalogRace
      else classifyOpenResponse response.canonicalIndices attempt.catalogSections
        (response.canonicalIndices ∩ attempt.catalogSections).size command.gateHold) ∧
    ((classification.isSuccess=true ∧ finishApplied db target tables batch attempt command
        (compareOpenResponse batch attempt response) classification=.ok (outcome,after)) ∨
      ∃code changed finalized,classification≠.started ∧ classification.isSuccess=false ∧
        (code="CATALOG_CONTENT_VERSION_CHANGED" ∨ code=unsafeErrorCode classification) ∧
        outcome=retainedOutcome batch attempt (compareOpenResponse batch attempt response)
          classification changed ∧
        tables.finalizeNonAppliedAttempt attempt command.completedAt classification command.http
          (some response) code (storedGate outcome command)=.ok finalized ∧
        after=db.setTables target finalized.pruneCommitted) := by
  unfold finishCompared finishRetained at h
  dsimp only at h
  split at h
  · next raced =>
    obtain ⟨finalized,done,h⟩ := bind_ok.mp h
    cases h
    exact ⟨.staleCatalogRace,(if_pos raced).symm,.inr ⟨_,_,finalized,by decide,rfl,.inl rfl,rfl,
      done,rfl⟩⟩
  next current =>
  refine ⟨_,(if_neg current).symm,?_⟩
  have named := classifyOpenResponse_cases response.canonicalIndices attempt.catalogSections
    (response.canonicalIndices ∩ attempt.catalogSections).size command.gateHold
  have count : (compareOpenResponse batch attempt response).intersectionCount=
    (response.canonicalIndices ∩ attempt.catalogSections).size := rfl
  rw [count] at h
  generalize classifyOpenResponse response.canonicalIndices attempt.catalogSections
    (response.canonicalIndices ∩ attempt.catalogSections).size command.gateHold=cls at h named ⊢
  have other : cls≠.staleCatalogRace ∧ cls≠.started := by
    clear h
    revert cls
    decide
  split at h
  · next success => exact .inl ⟨success,h⟩
  · next withheld =>
    obtain ⟨finalized,done,h⟩ := bind_ok.mp h
    cases h
    refine .inr ⟨_,_,finalized,other.2,Bool.eq_false_iff.mpr withheld,.inr rfl,rfl,?_,rfl⟩
    rw [storedGate,if_neg (by exact other.1)]
    exact done

theorem finishCompared_evolves {attemptId : TraceId} {response : CanonicalOpenResponse}
    (loaded : Loaded db attemptId target tables attempt batch)
    (canonical : isSha256Hex response.canonicalSetSha256=true)
    (settles : (scope.target target).settles attemptId)
    (retains : (scope.target target).retains ≤ openDiagnosticRetentionPerTarget)
    (applies : outcome.classification.isSuccess=true →
      (scope.target target).applies attemptId) (reports : Reports policy command.http.httpStatus)
    (h : finishCompared db target tables batch attempt command response accept=
      .ok (outcome,after)) : db.Evolves policy scope after := by
  obtain ⟨cls,-,⟨success,done⟩ | ⟨code,changed,finalized,terminal,unapplied,named,rfl,done,rfl⟩⟩ :=
    finishCompared_cases h
  · exact finishApplied_evolves loaded success canonical settles retains
      (applies (finishApplied_classification done ▸ success)) done
  · have allowed : policy.failure code command.http.httpStatus := by
      rcases named with rfl | rfl
      · exact reports.1
      · exact reports.2 cls
    have writes := finalizeNonAppliedAttempt_writes loaded terminal unapplied settles allowed done
    exact evolves_setTables loaded.rows.1 (.tail writes (.pruned _ _ _ (by decide) retains))
      db.lastEventId

theorem canonicalizeOpenResponse_ok {openSections : List SectionKey} {sourceValueCount : Nat}
    {resp : CanonicalOpenResponse} :
    canonicalizeOpenResponse target openSections sourceValueCount=.ok resp ↔
      (∀key∈openSections,key.target=target) ∧
      (ExtTreeSet.ofList (openSections.map SectionKey.index)).size ≤ sourceValueCount ∧
      resp=⟨.ofList (openSections.map SectionKey.index),sourceValueCount,
        sourceValueCount-(ExtTreeSet.ofList (openSections.map SectionKey.index)).size,
        openSetSha256V1 (.ofList (openSections.map SectionKey.index))⟩ := by
  unfold canonicalizeOpenResponse
  simp only [bind_ok,ensure_ok,exists_const,pure_ok]
  exact ⟨fun ⟨a,b,c⟩ => ⟨a,b,c.symm⟩,fun ⟨a,b,c⟩ => ⟨a,b,c.symm⟩⟩

theorem canonicalizeOpenResponse_hex {openSections : List SectionKey} {sourceValueCount : Nat}
    {resp : CanonicalOpenResponse}
    (h : canonicalizeOpenResponse target openSections sourceValueCount=.ok resp) :
    isSha256Hex resp.canonicalSetSha256=true := by
  rw [(canonicalizeOpenResponse_ok.mp h).2.2]
  exact Sha256.wellFormed _

/-- An attempt of this id may be finished, and applied where it succeeds. -/
def MayFinish (db : Database) (scope : StorageScope) (attemptId : TraceId)
    (succeeds : Prop) : Prop :=
  ∀target,∀row∈(db.tables target).attempts,row.attemptId=attemptId →
    (scope.target target).settles attemptId ∧
      (scope.target target).retains ≤ openDiagnosticRetentionPerTarget ∧
      (succeeds → (scope.target target).applies attemptId)

omit [Sha256] in
theorem MayFinish.loaded {attemptId : TraceId} {succeeds : Prop}
    (h : db.MayFinish scope attemptId succeeds)
    (loaded : Loaded db attemptId target tables attempt batch) :
    (scope.target target).settles attemptId ∧
      (scope.target target).retains ≤ openDiagnosticRetentionPerTarget ∧
      (succeeds → (scope.target target).applies attemptId) := by
  obtain ⟨held,listed,named⟩ := loaded.rows
  rw [← tables_eq held] at listed
  exact h target attempt listed named

theorem finishOpenPullSuccessTransaction_evolves
    (allowed : db.MayFinish scope command.attemptId (outcome.classification.isSuccess=true))
    (reports : Reports policy command.http.httpStatus)
    (h : db.finishOpenPullSuccessTransaction command accept=.ok (outcome,after)) :
    db.Evolves policy scope after := by
  obtain ⟨-,target,tables,attempt,batch,resp,loaded,-,canonical,-,done⟩ :=
    finishOpenPullSuccessTransaction_ok.mp h
  obtain ⟨settles,retains,applies⟩ := allowed.loaded loaded
  exact finishCompared_evolves loaded (canonicalizeOpenResponse_hex canonical) settles retains
    applies reports done

omit [Sha256] in
theorem finishOpenPullFailureTransaction_ok {command : FinishOpenPullFailureCommand} :
    db.finishOpenPullFailureTransaction command=.ok (outcome,after) ↔
      isSafeCode command.errorCode=true ∧ command.diagnosticToken.all isSafeToken=true ∧
      validateOpenHttpAudit command.http false=.ok () ∧
      ∃target tables attempt batch finalized,
        Loaded db command.attemptId target tables attempt batch ∧
        attempt.startedAt.instant ≤ command.completedAt.instant ∧
        tables.finalizeNonAppliedAttempt attempt command.completedAt .failed command.http none
          command.errorCode none=.ok finalized ∧
        outcome=⟨attempt.attemptId,attempt.attemptSequence,.failed,none,none,
          attempt.capturedCatalogContentVersion,0,attempt.catalogSections.size,0,0,0,0,false,
          false,batch.lkgAttemptId,none⟩ ∧
        after=db.setTables target finalized.pruneCommitted := by
  unfold finishOpenPullFailureTransaction validateTimestampOrder validateSafeCode
    validateOptionalSafeToken
  simp only [bind_ok,ensure_ok,exists_const,loadStartedOpenAttempt_ok,
    ensureStartedOpenAttemptIsCurrent_ok,pure_ok,Prod.mk.injEq]
  constructor
  · rintro ⟨code,token,_,audit,⟨target,tables,attempt⟩,⟨found,started⟩,batch,⟨held,newest⟩,
      order,finalized,done,answer,committed⟩
    exact ⟨code,token,audit,target,tables,attempt,batch,finalized,
      ⟨found,started,held,newest⟩,order,done,answer.symm,committed.symm⟩
  · rintro ⟨code,token,audit,target,tables,attempt,batch,finalized,
      ⟨found,started,held,newest⟩,order,done,answer,committed⟩
    exact ⟨code,token,(),audit,⟨target,tables,attempt⟩,⟨found,started⟩,batch,⟨held,newest⟩,
      order,finalized,done,answer.symm,committed.symm⟩

theorem finishOpenPullFailureTransaction_evolves {command : FinishOpenPullFailureCommand}
    (allowed : db.MayFinish scope command.attemptId False)
    (failure : policy.failure command.errorCode command.http.httpStatus)
    (h : db.finishOpenPullFailureTransaction command=.ok (outcome,after)) :
    db.Evolves policy scope after := by
  obtain ⟨-,-,-,target,tables,attempt,batch,finalized,loaded,-,done,-,rfl⟩ :=
    finishOpenPullFailureTransaction_ok.mp h
  obtain ⟨settles,retains,-⟩ := allowed.loaded loaded
  have terminal : OpenAttemptClassification.failed≠.started := by decide
  have writes := finalizeNonAppliedAttempt_writes loaded terminal rfl settles failure done
  exact evolves_setTables loaded.rows.1 (.tail writes (.pruned _ _ _ (by decide) retains))
    db.lastEventId

/-- A candidate attempt is finished on the Catalog that it publishes, or it is retired and its
Catalog dropped. -/
theorem finishCandidateOpenPullSuccess_cases {ed : EmptySnapshotDecision}
    {cat : Option PublishOutcome}
    (h : db.finishCandidateOpenPullSuccess oid ed command=.ok (cat,outcome,after)) :
    ∃target tables attempt base,loadStartedOpenAttempt db command.attemptId=
        .ok (target,tables,attempt) ∧
      attempt.candidateCatalogObservationId=some oid ∧
      attempt.candidateBaseContentVersion=some base ∧
      tables.catalog.currentContentVersion=base ∧
      ((∃publication published,db.publishStaged oid ed=.ok (publication,published) ∧
        publication.contentVersion=attempt.capturedCatalogContentVersion ∧
        published.finishOpenPullSuccessTransaction (retainWatched command target
          attempt.catalogSections) false=.ok (outcome,after)) ∨
      ∃final,db.finishOpenPullSuccessTransaction (retainWatched command target
          attempt.catalogSections) true=.ok (outcome,final) ∧ after=final.discardStaged oid) := by
  unfold finishCandidateOpenPullSuccess at h
  simp only [bind_ok,required_ok,ensure_ok,exists_const] at h
  obtain ⟨⟨target,tables,attempt⟩,found,-,-,bound,base,based,current,resp,-,h⟩ := h
  refine ⟨target,tables,attempt,base,found,bound,based,current,?_⟩
  split at h
  · simp only [bind_ok,ensure_ok,exists_const] at h
    obtain ⟨⟨publication,published⟩,publishes,⟨version,-⟩,⟨committed,final⟩,finishes,-,h⟩ := h
    cases h
    exact .inl ⟨publication,published,publishes,version,finishes⟩
  · simp only [bind_ok] at h
    obtain ⟨⟨committed,final⟩,finishes,staged,-,h⟩ := h
    cases h
    exact .inr ⟨final,finishes,rfl⟩

theorem finishCandidateOpenPullSuccess_evolves {ed : EmptySnapshotDecision}
    {cat : Option PublishOutcome} (consumes : scope.consumes oid)
    (allowed : db.MayFinish scope command.attemptId (outcome.classification.isSuccess=true))
    (reports : Reports policy command.http.httpStatus)
    (h : db.finishCandidateOpenPullSuccess oid ed command=
      .ok (cat,outcome,after)) : db.Evolves policy scope after := by
  obtain ⟨target,tables,attempt,base,-,-,-,-,⟨_,published,publishes,-,finishes⟩ |
    ⟨final,finishes,rfl⟩⟩ := finishCandidateOpenPullSuccess_cases h
  · have first : db.Evolves policy scope published := publishStaged_evolves consumes publishes
    refine first.trans (finishOpenPullSuccessTransaction_evolves ?_ ?_ finishes)
    · intro other row listed named
      rw [publishStaged_attempts publishes] at listed
      exact allowed other row listed named
    · exact reports
  · have finished : db.Evolves policy scope final := by
      refine finishOpenPullSuccessTransaction_evolves ?_ ?_ finishes
      · exact allowed
      · exact reports
    exact finished.trans (evolves_discardStaged final oid consumes)

theorem finishCandidateOpenPullFailure_evolves {command : FinishOpenPullFailureCommand}
    (consumes : scope.consumes oid) (allowed : db.MayFinish scope command.attemptId False)
    (failure : policy.failure command.errorCode command.http.httpStatus)
    (h : db.finishCandidateOpenPullFailure oid command=.ok (outcome,after)) :
    db.Evolves policy scope after := by
  unfold finishCandidateOpenPullFailure at h
  simp only [bind_ok,ensure_ok,exists_const] at h
  obtain ⟨-,-,-,⟨committed,final⟩,finishes,staged,-,h⟩ := h
  cases h
  have finished := finishOpenPullFailureTransaction_evolves allowed failure finishes
  exact finished.trans (evolves_discardStaged final oid consumes)

theorem pruneOpenDiagnostics_evolves {rr : Nat} (allowed : (scope.target target).retains ≤ rr)
    (h : db.pruneOpenDiagnostics target rr=.ok after) :
    db.Evolves policy scope after := by
  unfold pruneOpenDiagnostics at h
  simp only [bind_ok,ensure_ok,exists_const] at h
  obtain ⟨retains,-,-,h⟩ := h
  cases held : db.targets[target]? with
  | none =>
    rw [held] at h
    cases h
    exact .refl policy scope _
  | some tables =>
    rw [held] at h
    cases h
    exact evolves_setTables held
      (.single (.pruned tables rr _ (Nat.pos_of_ne_zero retains) allowed))
      db.lastEventId

/-- A restart retires the attempt that was in flight, if there was one. -/
theorem recoverInterrupted_writes {scope : WriteScope} {after : TargetTables}
    {ca : Timestamp} (consistent : tables.Consistent policy)
    (settles : ∀id,scope.settles id) (failure : policy.failure "PROCESS_RESTARTED" none)
    (h : tables.recoverInterrupted ca=.ok after) :
    ReflTransGen (TargetWrite policy scope) tables after := by
  unfold TargetTables.recoverInterrupted at h
  simp only [TargetTables.oldestFirst_eq consistent.ordered] at h
  cases held : tables.batch with
  | none =>
    rw [(consistent.blank held).1] at h
    cases h
    exact .refl
  | some batch =>
    obtain ⟨past,last,filled⟩ := consistent.filled batch held
    have idle : past.filter (fun attempt => attempt.classification=.started)=[] := by
      rw [List.filter_eq_nil_iff]
      intro row mem
      simpa using filled.settled row mem
    have listed : last∈tables.attempts := by
      rw [filled.rows]
      exact List.mem_append_right _ (List.mem_singleton_self last)
    rw [filled.rows,List.filter_append,idle,List.nil_append,List.filter_singleton] at h
    by_cases started : last.classification=.started
    · rw [decide_eq_true started,cond_true,List.foldlM_cons,bind_ok] at h
      obtain ⟨counted,h,done⟩ := h
      cases done
      unfold TargetTables.interruptAttempt at h
      have retires : Retires (fun attempt => attempt.interrupt ca) ca "PROCESS_RESTARTED" none := by
        refine ⟨fun _ => ⟨rfl,rfl,rfl,rfl,rfl,rfl,rfl,rfl,rfl,rfl,rfl,rfl,rfl⟩,fun _ => rfl,?_,
          fun _ => rfl,?_⟩
        · intro row running
          cases running
        · intro row failed
          cases failed
      have batched : (tables.updateStarted last.attemptId
        (fun attempt => attempt.interrupt ca)).batch=some batch := held
      simp only at h
      rw [batched] at h
      exact .single (.retired tables batch last _ ca "PROCESS_RESTARTED" none _ after
        (settles _) listed started held retires failure h)
    · rw [decide_eq_false started] at h
      cases h
      exact .refl

/-- The fold of a restart over targets with distinct keys writes to each of them once. -/
theorem recoverInterrupted_fold {ca : Timestamp}
    (settles : ∀target id,(scope.target target).settles id)
    (failure : policy.failure "PROCESS_RESTARTED" none)
    (es : List (TermCampusKey × TargetTables))
    (consistent : ∀en∈es,en.2.Consistent policy)
    (distinct : (es.map Prod.fst).Nodup)
    (held : ∀en∈es,db.targets[en.1]?=some en.2)
    (h : es.foldlM (fun db (target,tables) => do
      let tables ← tables.recoverInterrupted ca
      pure (db.setTables target tables)) db=.ok after) : db.Evolves policy scope after := by
  induction es generalizing db with
  | nil =>
    cases h
    exact .refl policy scope _
  | cons en es ih =>
    obtain ⟨target,tables⟩ := en
    simp only [List.foldlM_cons,bind_ok,pure_ok] at h
    obtain ⟨next,⟨recovered,writes,rfl⟩,rest⟩ := h
    obtain ⟨other,tail⟩ := List.nodup_cons.mp distinct
    have first : db.Evolves policy scope (db.setTables target recovered) :=
      evolves_setTables (held _ List.mem_cons_self)
        (recoverInterrupted_writes (consistent _ List.mem_cons_self) (settles target)
          failure writes) db.lastEventId
    apply first.trans
    apply ih (fun en mem => consistent en (List.mem_cons_of_mem _ mem)) tail _ rest
    intro en mem
    have apart : target≠en.1 := by
      intro same
      exact other (List.mem_map.mpr ⟨en,mem,same.symm⟩)
    change (db.targets.insert target recovered)[en.1]?=_
    rw [getElem?_insert_eq,if_neg apart]
    exact held en (List.mem_cons_of_mem _ mem)

theorem recoverInterrupted_evolves {now : Timestamp}
    (consistent : ∀target,(db.tables target).Consistent policy)
    (settles : ∀target id,(scope.target target).settles id)
    (failure : policy.failure "PROCESS_RESTARTED" none) (consumes : ∀id,scope.consumes id)
    (h : db.recoverInterrupted now=.ok after) : db.Evolves policy scope after := by
  have cleared : db.Evolves policy scope db.forgetStaged := by
    refine ⟨fun _ => .refl,fun _ mem => mem,fun _ mem => mem,?_,?_⟩
    · intro id staged found
      simp [forgetStaged] at found
    · exact fun id _ _ unconsumed => absurd (consumes id) unconsumed
  apply cleared.trans
  refine recoverInterrupted_fold settles failure db.targets.toList ?_ ?_ ?_ h
  · intro en mem
    have held := ExtTreeMap.mem_toList_iff_getElem?_eq_some.mp mem
    rw [← tables_eq held]
    exact consistent en.1
  · rw [ExtTreeMap.map_fst_toList_eq_keys]
    exact ExtTreeMap.nodup_keys
  · exact fun en mem => ExtTreeMap.mem_toList_iff_getElem?_eq_some.mp mem

end Database

end CoursePlanner.Storage
