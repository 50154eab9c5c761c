import CoursePlanner.Open.Failure
import CoursePlanner.Open.Projection
import CoursePlanner.Storage.Operations

set_option maxRecDepth 8000

namespace CoursePlanner.Open

open Std Library Contracts Storage

def OpenPullFailure.classified : OpenPullFailure → Prop
  | .upstream failure => failure.classified
  | _ => True

/-- The codes that have no public mapping. -/
def unmappedCodes : List String :=
  ["CATALOG_CONTENT_VERSION_CHANGED","COMPLETE_SNAPSHOT_COMMIT_FAILED"]

/-- What the program reports and requests. -/
def programPolicy : WritePolicy where
  failure code status := code∈unmappedCodes ∨ code="PROCESS_RESTARTED" ∨
    (∃classification,code=unsafeErrorCode classification) ∨
    ∃failure completedAt,OpenPullFailure.classified failure ∧
      code=(failureStorageFields failure completedAt).errorCode ∧
      status=storedStatus failure completedAt
  interval seconds := ∃value,seconds=some value ∧ 0 < value ∧ value ≤ u32Max

theorem statusClass_transient {status : Nat} {retryAfter : RetryAfterHeader}
    {scope : RedirectScope} {code : Nat}
    (h : OpenSectionsError.transientHttp code=classifyHttpFailure status retryAfter scope) :
    ∃failureClass,statusClass (some status)=some failureClass := by
  unfold classifyHttpFailure at h
  split at h
  · next transient =>
    unfold statusClass
    rcases transient with timeout | server
    · exact ⟨.http408,by rw [timeout]; rfl⟩
    have apart : status≠408 ∧ status≠429 := by omega
    refine ⟨.http5xx,?_⟩
    simp only
    rw [if_neg apart.1,if_neg apart.2,if_pos server]
  · split_ifs at h

/-- The codes of the client's failures are mapped with the status stored with them. -/
theorem mapFailureCode_upstream (failure : OpenSectionsFailure) (ca : OffsetDateTime)
    (h : failure.classified) :
    ∃failureClass,mapFailureCode (failureStorageFields (.upstream failure) ca).errorCode
      (storedStatus (.upstream failure) ca)=.ok failureClass := by
  obtain ⟨kind,metadata⟩ := failure
  cases kind with
  | transientHttp code =>
    obtain ⟨response,retryAfter,scope,rfl,classified⟩ := h
    obtain ⟨failureClass,found⟩ := statusClass_transient classified
    refine ⟨failureClass,?_⟩
    change required (statusClass (some response.httpStatus)) _=_
    rw [found]
    rfl
  | redirect status scope => cases scope <;> exact ⟨_,rfl⟩
  | _ => exact ⟨_,rfl⟩

theorem mapFailureCode_classified (failure : OpenPullFailure) (ca : OffsetDateTime)
    (h : failure.classified) :
    ∃failureClass,mapFailureCode (failureStorageFields failure ca).errorCode
      (storedStatus failure ca)=.ok failureClass := by
  cases failure with
  | upstream failure => exact mapFailureCode_upstream failure ca h
  | _ => exact ⟨_,rfl⟩

theorem mapFailureCode_unmapped {code : String} (h : code∈unmappedCodes)
    (status : Option Nat) : mapFailureCode code status=.error .unknownFailureCode := by
  simp only [unmappedCodes,List.mem_cons,List.not_mem_nil,or_false] at h
  rcases h with rfl | rfl <;> rfl

/-- Of the codes that the program reports exactly two are not mapped. -/
theorem mapFailureCode_mapped {code : String} {status : Option Nat}
    (h : programPolicy.failure code status) (mapped : code∉unmappedCodes) :
    ∃failureClass,mapFailureCode code status=.ok failureClass := by
  rcases h with unmapped | rfl | ⟨cls,rfl⟩ | ⟨failure,ca,known,rfl,rfl⟩
  · exact absurd unmapped mapped
  · exact ⟨_,rfl⟩
  · cases cls <;> exact ⟨_,rfl⟩
  · exact mapFailureCode_classified failure ca known

/-- What a last-known-good projection says of its attempt and observation. -/
structure Vouches (lkg : LkgProjection) (row : OpenAttempt)
    (observation : OpenBatchObservation) : Prop where
  attemptId : lkg.attemptId=row.attemptId
  observationSequence : lkg.point.observationSequence=observation.observationSequence
  catalogContentVersion : lkg.point.catalogContentVersion=observation.catalogContentVersion
  observedAt : lkg.point.observedAt=observation.observedAt.instant
  attemptSequence : lkg.freshnessPoint.attemptSequence=row.attemptSequence
  completedAt : lkg.freshnessPoint.completedAt=observation.observedAt.instant
  interval : row.effectiveIntervalSeconds=
    some lkg.freshnessPoint.requestedEffectiveIntervalSeconds

theorem projectSection_good {t : TermCampusKey}
    {current : ExtTreeMap SectionIndex OpenSectionCurrent}
    {version : CatalogContentVersion} {lkg : LkgProjection} {row : OpenAttempt}
    {obs : OpenBatchObservation} (vouches : Vouches lkg row obs)
    (attemptId : obs.attemptId=row.attemptId)
    (rows : ∀(index : SectionIndex) en,current[index]?=some en → en=sectionCurrent obs en.state)
    (freshness : OpenFreshness) (cts : OpenCounterSnapshot) (lag : Nat)
    (index : SectionIndex) :
    ∃status,projectSection t current version (some lkg) freshness cts lag index= .ok status := by
  unfold projectSection contentVersion
  cases found : current[index]? with
  | none => exact ⟨_,rfl⟩
  | some en =>
    have entryEq := rows index en found
    have positive : 0 < en.catalogContentVersion := by
      rw [entryEq]
      change 0 < obs.catalogContentVersion
      rw [← vouches.catalogContentVersion]
      exact lkg.point.catalogContentVersion.pos
    simp only [bind_ok,ensure_ok,required_ok,exists_const]
    refine ⟨_,lkg,rfl,?_,?_,⟨?_,?_⟩,_,nonZero_some positive,rfl⟩
    · rw [entryEq,vouches.attemptId]
      exact attemptId
    · rw [entryEq,vouches.observationSequence]
      rfl
    · rw [entryEq,vouches.catalogContentVersion]
      rfl
    · rw [entryEq,vouches.observedAt]
      rfl

theorem projectSection_blank {t : TermCampusKey} {version : CatalogContentVersion} (lkg : Option LkgProjection)
    (freshness : OpenFreshness) (cts : OpenCounterSnapshot) (lag : Nat)
    (index : SectionIndex) :
    ∃status,projectSection t ∅ version lkg freshness cts lag index=.ok status := by
  exact ⟨_,rfl⟩

section Steps

variable {A B : Type} {value : Option A}
  {project : A → ProjectionResult B}

theorem optionally_none (h : value=none) : optionally value project=.ok none := by
  rw [h]
  rfl

theorem optionally_some {a : A} {b : B} (h : value=some a) (done : project a=.ok b) :
    optionally value project=.ok (some b) := by
  rw [h]
  unfold optionally
  simp only [bind_ok]
  exact ⟨b,done,rfl⟩

end Steps

section Durable

variable [Sha256] {policy : WritePolicy} {db : Database} {t : TermCampusKey}

theorem loadAttempt_listed (consistent : db.Consistent policy) {row : OpenAttempt}
    (listed : row∈(db.tables t).attempts) :
    loadAttempt db t row.attemptId=.ok row := by
  unfold loadAttempt
  rw [consistent.findAttempt_tables listed]
  exact ensure_bind_ok.mpr ⟨⟨rfl,rfl⟩,rfl⟩

theorem projectLkg_good (consistent : db.Consistent policy) {batch : OpenBatchState}
    {row : OpenAttempt} {observation : OpenBatchObservation}
    (good : LastKnownGood (db.tables t) batch row observation) {seconds : Nat}
    (interval : row.effectiveIntervalSeconds=some seconds) (positive : 0 < seconds)
    (bounded : seconds ≤ u32Max) :
    ∃lkg,projectLkg db t batch row.attemptId=.ok lkg ∧ Vouches lkg row observation := by
  have numbered := ((consistent.tables t).row row good.listed).numbered
  have observed : openBatchObservation db row.attemptId=some (t,observation) := by
    unfold openBatchObservation
    rw [consistent.findAttempt_tables good.listed]
    change row.observation.map _=_
    rw [good.observed]
    rfl
  refine ⟨⟨row.attemptId,⟨observation.observationId,
    observation.observationSequence.toPNat good.numbered,
    observation.catalogContentVersion.toPNat good.published,
    observation.observedAt.instant,observation.canonicalSetSha256,observation.stateSha256⟩,
    ⟨row.attemptSequence.toPNat numbered,observation.observedAt.instant,
      observation.observedAt.instant,seconds⟩⟩,?_,⟨rfl,rfl,rfl,rfl,rfl,rfl,interval⟩⟩
  unfold projectLkg sequence contentVersion openHash
  simp only [bind_ok,ensure_ok,required_ok,exists_const]
  exact ⟨row,loadAttempt_listed consistent good.listed,good.success,_,good.completed,_,
    interval,⟨positive,bounded⟩,_,observed,⟨rfl,good.attemptId,good.valid⟩,
    ⟨good.sequence,good.version⟩,_,nonZero_some good.numbered,_,nonZero_some good.published,_,
    ⟨good.canonical,rfl⟩,_,⟨good.state,rfl⟩,_,nonZero_some numbered,rfl⟩

/-- What the stored rows of a target say about its latest attempt. -/
structure Latest (tables : TargetTables) (batch : OpenBatchState) (last : OpenAttempt) :
    Prop where
  listed : last∈tables.attempts
  identity : batch.lastAttemptId=some last.attemptId
  sequence : batch.lastAttemptSequence=last.attemptSequence
  blamed : last.classification=.failed → ∃code,last.errorCode=some code ∧
    batch.lastFailureErrorCode=some code ∧
    last.http.httpStatus=batch.lastFailureHttpStatus
  row : RowConsistent programPolicy last

theorem BatchConsistent.latest {tb : TargetTables}
    {batch : OpenBatchState} {past : List OpenAttempt} {last : OpenAttempt}
    (rows : ∀row∈tb.attempts,RowConsistent programPolicy row)
    (h : BatchConsistent programPolicy tb batch past last) : Latest tb batch last := by
  have listed : last∈tb.attempts := by
    rw [h.rows]
    exact List.mem_append_right _ (List.mem_singleton_self last)
  exact ⟨listed,h.identity,h.sequence,h.blamed,rows last listed⟩

end Durable

section Failure

variable {tb : TargetTables} {batch : OpenBatchState} {last : OpenAttempt}

/-- The failure class of the latest attempt is that of the last failure. -/
theorem projectFailureClass_cases (latest : Latest tb batch last)
    (failure : ∀code,batch.lastFailureErrorCode=some code →
      programPolicy.failure code batch.lastFailureHttpStatus) :
    ((∃code,batch.lastFailureErrorCode=some code ∧ code∈unmappedCodes) ∧
      projectFailureClass last=.error .unknownFailureCode) ∨
    ∃failureClass,projectFailureClass last=.ok failureClass := by
  unfold projectFailureClass
  by_cases interrupted : last.classification=.interrupted
  · rw [if_pos interrupted]
    exact .inr ⟨_,rfl⟩
  rw [if_neg interrupted]
  by_cases failed : last.classification=.failed
  · rw [if_neg (not_not_intro failed)]
    obtain ⟨code,coded,recorded,status⟩ := latest.blamed failed
    rw [coded,status]
    by_cases unmapped : code∈unmappedCodes
    · refine .inl ⟨⟨code,recorded,unmapped⟩,?_⟩
      change mapFailureCode code batch.lastFailureHttpStatus >>= _=_
      rw [mapFailureCode_unmapped unmapped]
      rfl
    · obtain ⟨failureClass,mapped⟩ := mapFailureCode_mapped (failure code recorded) unmapped
      refine .inr ⟨some failureClass,?_⟩
      simp only [bind_ok]
      exact ⟨code,rfl,failureClass,mapped,rfl⟩
  · rw [if_pos failed]
    exact .inr ⟨none,rfl⟩

theorem projectAttemptPoint_eq (row : RowConsistent programPolicy last) :
    projectAttemptPoint last=(do
      let fc ← projectFailureClass last
      pure ⟨last.attemptSequence.toPNat row.numbered,last.startedAt.instant,
        last.completedAt.map Timestamp.instant,mapClassification last.classification,
        fc⟩) := by
  unfold projectAttemptPoint sequence
  rw [nonZero_some row.numbered]
  by_cases started : last.classification=.started
  · rw [if_pos started,ensure_pos (row.finished.mpr started)]
    rfl
  · have finished : last.completedAt≠none := fun none => started (row.finished.mp none)
    rw [if_neg started,ensure_pos finished]
    rfl

theorem projectAttemptPoint_cases (latest : Latest tb batch last)
    (failure : ∀code,batch.lastFailureErrorCode=some code →
      programPolicy.failure code batch.lastFailureHttpStatus) :
    ((∃code,batch.lastFailureErrorCode=some code ∧ code∈unmappedCodes) ∧
      projectAttemptPoint last=.error .unknownFailureCode) ∨
    ∃point,projectAttemptPoint last=.ok point := by
  rw [projectAttemptPoint_eq latest.row]
  rcases projectFailureClass_cases latest failure with ⟨unmapped,stopped⟩ | ⟨_,projected⟩
  · rw [stopped]
    exact .inl ⟨unmapped,rfl⟩
  · rw [projected]
    exact .inr ⟨_,rfl⟩

theorem projectLatestFreshnessPoint_ok (row : RowConsistent programPolicy last) :
    projectLatestFreshnessPoint last=.ok (last.completedAt.map (fun ca =>
      ⟨last.attemptSequence.toPNat row.numbered,ca.instant,
        mapClassification last.classification⟩)) := by
  unfold projectLatestFreshnessPoint sequence
  rw [nonZero_some row.numbered]
  cases last.completedAt with
  | none | some => rfl

/-- The failure columns of a batch project exactly if their code is mapped. -/
theorem projectLatestFailure_cases (failure : NeverFailed batch ∨ ∃sequence failedAt code status,
      LastFailure batch sequence failedAt code status ∧ 0 < sequence ∧
        programPolicy.failure code status) :
    (∃code,batch.lastFailureErrorCode=some code ∧ code∈unmappedCodes ∧
      projectLatestFailure (some batch)=.error .unknownFailureCode) ∨
    ((¬∃code,batch.lastFailureErrorCode=some code ∧ code∈unmappedCodes) ∧
      ∃point,projectLatestFailure (some batch)=.ok point) := by
  rcases failure with ⟨sequence,failedAt,code,status⟩ |
    ⟨number,instant,code,status,⟨sequence,failedAt,recorded,stored⟩,positive,known⟩
  · refine .inr ⟨?_,none,?_⟩
    · rintro ⟨other,found,_⟩
      rw [code] at found
      cases found
    · simp only [projectLatestFailure,sequence,failedAt,code,status]
  · simp only [projectLatestFailure,sequence,failedAt,recorded,stored]
    unfold CoursePlanner.Open.sequence
    rw [nonZero_some positive]
    by_cases unmapped : code∈unmappedCodes
    · refine .inl ⟨code,rfl,unmapped,?_⟩
      rw [mapFailureCode_unmapped unmapped]
      rfl
    · obtain ⟨failureClass,mapped⟩ := mapFailureCode_mapped known unmapped
      refine .inr ⟨?_,some ⟨number.toPNat positive,instant.instant,failureClass⟩,?_⟩
      · rintro ⟨other,found,member⟩
        cases found
        exact unmapped member
      · change mapFailureCode code status >>= _=_
        rw [mapped]
        rfl

theorem failure_reported {batch : OpenBatchState}
    (failure : NeverFailed batch ∨ ∃sequence failedAt code status,
      LastFailure batch sequence failedAt code status ∧ 0 < sequence ∧
        programPolicy.failure code status) (code : String)
    (found : batch.lastFailureErrorCode=some code) :
    programPolicy.failure code batch.lastFailureHttpStatus := by
  rcases failure with ⟨-,-,missing,-⟩ | ⟨_,_,_,_,⟨-,-,recorded,stored⟩,-,known⟩
  · rw [missing] at found
    cases found
  rw [recorded] at found
  cases found
  rw [stored]
  exact known

end Failure

theorem servingOpenCatalogSnapshot_eq (db : Database) (t : TermCampusKey) :
    db.servingOpenCatalogSnapshot t= if (db.tables t).catalog.currentContentVersion=0 then none
      else some ⟨t,(db.tables t).catalog.currentContentVersion,
        (db.tables t).catalog.sections⟩ := by
  unfold Database.servingOpenCatalogSnapshot Database.tables
  cases db.targets[t]? with
  | none | some => rfl

theorem projectOpenFreshness_cases (now : OffsetDateTime) (lastValid : Option LastValidOpenPoint)
    (latestAttempt : Option LatestOpenAttemptPoint) (reason : Option OpenUncertaintyReason)
    (positive : ∀point∈lastValid,point.requestedEffectiveIntervalSeconds≠0) :
    (∃freshness,projectOpenFreshness now lastValid latestAttempt reason=.ok freshness) ∨
      projectOpenFreshness now lastValid latestAttempt reason=.error .timestampOverflow := by
  cases lastValid with
  | none => exact .inl ⟨_,rfl⟩
  | some point =>
    unfold projectOpenFreshness
    simp only
    rw [bind_of_ok (ensure_pos (positive point rfl) _)]
    cases freshUntil point with
    | none => exact .inr rfl
    | some deadline => exact .inl ⟨_,rfl⟩

section Projection

variable {db : Database}

variable [Sha256]

/-- The last-known-good columns of consistent rows name nothing, or what they say is that
of the attempt and the observation that they name. -/
theorem lkg_cases (consistent : db.Consistent programPolicy) (t : TermCampusKey) :
    ∃lkg,optionally ((db.tables t).batch.bind (fun batch =>
        batch.lkgAttemptId.map (fun id => (batch,id))))
        (fun entry => projectLkg db t entry.1 entry.2)=.ok lkg ∧
      ((lkg=none ∧ (db.tables t).current=∅ ∧
          ∀batch,(db.tables t).batch=some batch → NeverGood (db.tables t) batch) ∨
        ∃point batch row observation,lkg=some point ∧ (db.tables t).batch=some batch ∧
          LastKnownGood (db.tables t) batch row observation ∧
          Vouches point row observation) := by
  have tb := consistent.tables t
  cases held : (db.tables t).batch with
  | none =>
    refine ⟨none,rfl,.inl ⟨rfl,(tb.blank held).2,?_⟩⟩
    intro batch missing
    cases missing
  | some batch =>
    obtain ⟨past,last,filled⟩ := tb.filled batch held
    rcases filled.good with never | ⟨row,observation,good⟩
    · refine ⟨none,optionally_none ?_,.inl ⟨rfl,never.current,?_⟩⟩
      · rw [Option.bind_some,never.attemptId]
        rfl
      · intro other same
        cases same
        exact never
    · obtain ⟨seconds,interval,positive,bounded⟩ := (tb.row row good.listed).interval
      obtain ⟨point,projected,vouches⟩ := projectLkg_good consistent good interval positive bounded
      have named : (some batch).bind (fun batch =>
          batch.lkgAttemptId.map (fun id => (batch,id)))=some (batch,row.attemptId) := by
        rw [Option.bind_some,good.named]
        rfl
      exact ⟨some point,optionally_some named projected,
        .inr ⟨point,batch,row,observation,rfl,rfl,good,vouches⟩⟩

theorem lkg_projects (consistent : db.Consistent programPolicy) (t : TermCampusKey) :
    ∃lkg,optionally ((db.tables t).batch.bind (fun batch =>
        batch.lkgAttemptId.map (fun id => (batch,id))))
        (fun en => projectLkg db t en.1 en.2)=.ok lkg ∧
      validateAbsentLkgState (db.tables t).batch lkg=.ok () ∧
      (∀point∈lkg.map LkgProjection.freshnessPoint, point.requestedEffectiveIntervalSeconds≠0) ∧
      ∀version freshness cts lag index,∃status,
        projectSection t (db.tables t).current version lkg freshness cts lag index=.ok status := by
  obtain ⟨lkg,projected,⟨rfl,blank,never⟩ | ⟨point,batch,row,obs,rfl,held,good,vouches⟩⟩ :=
    lkg_cases consistent t
  · refine ⟨none,projected,?_,?_,?_⟩
    · cases held : (db.tables t).batch with
      | none => rfl
      | some batch =>
        obtain ⟨-,sequence,observedAt,canonical,state,-,-⟩ := never batch held
        refine ensure_pos ?_ _
        rw [sequence,observedAt,canonical,state]
        simp
    · intro point missing
      cases missing
    · rw [blank]
      exact fun version freshness cts lag index =>
        projectSection_blank none freshness cts lag index
  · refine ⟨some point,projected,?_,?_,?_⟩
    · rw [held]
      exact ensure_pos (by simp) _
    · intro freshnessPoint same
      cases same
      obtain ⟨seconds,iv,positive,-⟩ := ((consistent.tables t).row row good.listed).interval
      have requested := vouches.interval
      rw [iv] at requested
      cases requested
      exact Nat.ne_of_gt positive
    · exact fun version freshness cts lag index =>
        projectSection_good vouches good.attemptId good.current freshness cts lag index

/-- The code of the last failure of a target has no public mapping. -/
def lastFailureUnmapped (db : Database) (target : TermCampusKey) : Prop :=
  ∃batch code,(db.tables target).batch=some batch ∧ batch.lastFailureErrorCode=some code ∧
    code∈unmappedCodes

/-- A projection that succeeds, or stops only because the lifetime of the last valid
observation ends at an instant that cannot be represented. -/
def Projects {A : Type} (result : ProjectionResult A) : Prop :=
  (∃answer,result=.ok answer) ∨ result=.error (.freshness .timestampOverflow)

/-- Consistent rows project unless the code of the last failure has no mapping. -/
theorem projectRows_cases (consistent : db.Consistent programPolicy)
    (t : TermCampusKey) (runtime : OpenProjectionRuntime)
    (catalogSections : ExtTreeSet SectionIndex) (version : CatalogContentVersion)
    (counters : OpenCounterSnapshot) :
    (lastFailureUnmapped db t ∧ projectRows db t runtime catalogSections version counters=
        .error .unknownFailureCode) ∨
    (¬lastFailureUnmapped db t ∧
      Projects (projectRows db t runtime catalogSections version counters)) := by
  have tb := consistent.tables t
  obtain ⟨lkg,projected,absent,positive,sections⟩ := lkg_projects consistent t
  have rest : ∀latestFreshness latestPoint latestFailure,Projects (do
      let freshness ← (projectOpenFreshness runtime.now
        (lkg.map LkgProjection.freshnessPoint) latestFreshness none).mapError .freshness
      let refresh := ⟨t,some version,latestPoint,latestFailure, lkg.map LkgProjection.point,
        ((db.tables t).batch.bind OpenBatchState.lastBodyChangeAt).map Timestamp.instant,
        ((db.tables t).batch.bind OpenBatchState.lastStateChangeAt).map
          Timestamp.instant,freshness,runtime.scheduler,counters⟩
      let sections ← catalogSections.toList.mapM
        (projectSection t (db.tables t).current version lkg freshness counters
          runtime.scheduler.schedulerLagMilliseconds)
      pure (⟨refresh,sections⟩ : ProjectedOpenStatus)) := by
    intro latestFreshness latestPoint latestFailure
    rcases projectOpenFreshness_cases runtime.now _ latestFreshness none positive with
      ⟨freshness,fresh⟩ | overflow
    · obtain ⟨statuses,done⟩ := mapM_ok_of_forall catalogSections.toList
        (fun index _ => sections version freshness counters
          runtime.scheduler.schedulerLagMilliseconds index)
      rw [fresh]
      change Projects (List.mapM _ _ >>= _)
      rw [bind_of_ok done]
      exact .inl ⟨_,rfl⟩
    · rw [overflow]
      exact .inr rfl
  unfold projectRows lastFailureUnmapped
  cases held : (db.tables t).batch with
  | none =>
    rw [held] at projected absent rest
    refine .inr ⟨?_,?_⟩
    · rintro ⟨batch,_,missing,_⟩
      cases missing
    have unnamed : optionally ((none : Option OpenBatchState).bind
        OpenBatchState.lastAttemptId) (loadAttempt db t)=.ok none := rfl
    have noPoint : optionally none projectAttemptPoint=.ok none := rfl
    have noFreshness : optionally none projectLatestFreshnessPoint=.ok none := rfl
    have noFailure : projectLatestFailure none=.ok none := rfl
    rw [bind_of_ok unnamed,bind_of_ok noPoint,bind_of_ok noFreshness,
      bind_of_ok noFailure,bind_of_ok projected]
    exact rest none none none
  | some batch =>
    rw [held] at projected absent rest
    obtain ⟨past,last,filled⟩ := tb.filled batch held
    have latest := BatchConsistent.latest tb.row filled
    have known := failure_reported filled.failure
    have named : (some batch).bind OpenBatchState.lastAttemptId=some last.attemptId :=
      latest.identity
    have loaded := optionally_some named (loadAttempt_listed consistent latest.listed)
    have ordered : validateLatestAttempt (some batch) (some last)=.ok () :=
      ensure_pos latest.sequence _
    rw [bind_of_ok loaded,bind_of_ok ordered]
    rcases projectAttemptPoint_cases latest known with
      ⟨⟨code,recorded,unmapped⟩,stopped⟩ | ⟨point,done⟩
    · refine .inl ⟨⟨batch,code,rfl,recorded,unmapped⟩,bind_of_error ?_⟩
      exact bind_of_error stopped
    rw [bind_of_ok (optionally_some rfl done),
      bind_of_ok (optionally_some rfl (projectLatestFreshnessPoint_ok latest.row))]
    rcases projectLatestFailure_cases filled.failure with
      ⟨code,recorded,unmapped,stopped⟩ | ⟨mapped,point,done⟩
    · exact .inl ⟨⟨batch,code,rfl,recorded,unmapped⟩,bind_of_error stopped⟩
    rw [bind_of_ok done,bind_of_ok projected,bind_of_ok absent]
    refine .inr ⟨?_,rest _ _ _⟩
    rintro ⟨_,code,same,recorded,unmapped⟩
    cases same
    exact mapped ⟨code,recorded,unmapped⟩

end Projection

/-- The commands that the program passes to the storage: the scheduler's interval with a
begin, the service's failures, and the coordinator's fallback with a candidate. -/
def performedByProgram : StorageOperation → Prop
  | .beginPull command | .beginCandidatePull _ command =>
    programPolicy.interval command.effectiveIntervalSeconds
  | .finishFailure command => ∃failure completedAt,OpenPullFailure.classified failure ∧
    command.errorCode=(failureStorageFields failure completedAt).errorCode ∧
    command.http.httpStatus=storedStatus failure completedAt
  | .finishCandidateFailure _ command => command.errorCode="COMPLETE_SNAPSHOT_COMMIT_FAILED" ∨
    ∃failure completedAt,OpenPullFailure.classified failure ∧
      command.errorCode=(failureStorageFields failure completedAt).errorCode ∧
      command.http.httpStatus=storedStatus failure completedAt
  | _ => True

theorem reports_programPolicy (status : Option Nat) : Database.Reports programPolicy status :=
  ⟨.inl List.mem_cons_self,fun cls => .inr (.inr (.inl ⟨cls,rfl⟩))⟩

theorem keeps_of_performedByProgram {op : StorageOperation}
    (h : performedByProgram op) : op.Keeps programPolicy := by
  cases op with
  | beginPull | beginCandidatePull => exact h
  | finishSuccess | finishCandidateSuccess => exact reports_programPolicy _
  | finishFailure command => exact .inr (.inr (.inr h))
  | finishCandidateFailure =>
    rcases h with fallback | reported
    · rw [StorageOperation.Keeps,fallback]
      exact .inl (by decide)
    · exact .inr (.inr (.inr reported))
  | restart now => exact .inr (.inl rfl)
  | _ => trivial

section Program

variable [RutgersCalendar] {db : Database}

theorem projectCounters_cases (db : Database) (t : TermCampusKey) (rt : OpenProjectionRuntime) :
    (RutgersCalendar.dayAt rt.now=none ∧ projectCounters db t rt=.error .rutgersDay) ∨
    (RutgersCalendar.dayAt rt.now≠none ∧ ∃cts,projectCounters db t rt=.ok cts) := by
  unfold projectCounters
  cases RutgersCalendar.dayAt rt.now with
  | none => exact .inl ⟨rfl,rfl⟩
  | some day =>
    refine .inr ⟨Option.some_ne_none day,?_⟩
    cases rt.audience with
    | «local» | «public» => exact ⟨_,rfl⟩

/-- The conditions under which the projection gets to the Open rows. -/
structure Projectable (db : Database) (target : TermCampusKey)
    (runtime : OpenProjectionRuntime) : Prop where
  scheduled : runtime.scheduler.requestedGeneralIntervalSeconds≠0 ∧
    runtime.scheduler.requestedEffectiveIntervalSeconds≠0
  published : 0 < (db.tables target).catalog.currentContentVersion
  day : RutgersCalendar.dayAt runtime.now≠none

theorem projectOpenStatus_eq {t : TermCampusKey} {rt : OpenProjectionRuntime}
    (projectable : Projectable db t rt) :
    ∃counters,projectCounters db t rt=.ok counters ∧ projectOpenStatus db t rt=
        projectRows db t rt (db.tables t).catalog.sections
          ((db.tables t).catalog.currentContentVersion.toPNat projectable.published)
          counters := by
  have valid : validateRuntime rt=.ok () := ensure_pos projectable.scheduled _
  have served : required (db.servingOpenCatalogSnapshot t)
      OpenProjectionError.targetNotPublished=
        .ok ⟨t,(db.tables t).catalog.currentContentVersion,
          (db.tables t).catalog.sections⟩ := by
    rw [servingOpenCatalogSnapshot_eq,if_neg (Nat.ne_of_gt projectable.published)]
    rfl
  have version : contentVersion (db.tables t).catalog.currentContentVersion=
      .ok ((db.tables t).catalog.currentContentVersion.toPNat projectable.published) := by
    unfold contentVersion
    rw [nonZero_some projectable.published]
    rfl
  obtain ⟨counters,counted⟩ := ((projectCounters_cases db t rt).resolve_left
      (fun undefined => projectable.day undefined.1)).2
  refine ⟨counters,counted,?_⟩
  unfold projectOpenStatus
  rw [bind_of_ok valid,bind_of_ok served,bind_of_ok version,bind_of_ok counted]

/-- In every state that the program reaches the projection answers exactly if the code of
the last failure has a public mapping. -/
theorem projectOpenStatus_answers [Sha256] (operations : List StorageOperation)
    (performed : ∀operation∈operations,performedByProgram operation)
    (target : TermCampusKey) (runtime : OpenProjectionRuntime)
    (projectable : Projectable (run Database.perform Database.new operations) target runtime) :
    let db := run Database.perform Database.new operations
    (lastFailureUnmapped db target →
      projectOpenStatus db target runtime=.error .unknownFailureCode) ∧
    (¬lastFailureUnmapped db target → Projects (projectOpenStatus db target runtime)) := by
  have consistent := Database.consistent_run operations
    (fun operation member => keeps_of_performedByProgram (performed operation member))
  obtain ⟨counters,-,same⟩ := projectOpenStatus_eq projectable
  simp only
  rw [same]
  rcases projectRows_cases consistent target runtime _ _ counters with
    ⟨unmapped,stopped⟩ | ⟨mapped,projects⟩
  · exact ⟨fun _ => stopped,fun mapped => absurd unmapped mapped⟩
  · exact ⟨fun unmapped => absurd unmapped mapped,fun _ => projects⟩

end Program

section Closed

local instance statusSha256 : Sha256 := plainSha256
local instance statusCalendar : RutgersCalendar := ⟨fun _ => some ⟨0⟩⟩

/-- The runtime of a public reader at some second. -/
def readingAt (seconds : Nat) : OpenProjectionRuntime :=
  ⟨1000000000*seconds,.public,⟨60,60,0⟩⟩

def firstPublication : List StorageOperation :=
  [.stage (Sample.trace 1) (Sample.stagedCatalog "first" {Sample.index}),
    .publish (Sample.trace 1) .acceptNonEmptyOrUnchangedEmpty]

/-- A pull during which another Catalog is published. -/
def racedPull : List StorageOperation :=
  firstPublication++[.beginPull (Sample.beginning 2 1 0),
    .stage (Sample.trace 3) (Sample.stagedCatalog "second" {Sample.index}),
    .publish (Sample.trace 3) .acceptNonEmptyOrUnchangedEmpty,
    .finishSuccess (Sample.response 2 1 [Sample.index])]

/-- A candidate whose commit fails is finished with the coordinator's own code. -/
def abandonedCandidate : List StorageOperation :=
  firstPublication++[
    .stage (Sample.trace 3) (Sample.stagedCatalog "second" {Sample.index}),
    .beginCandidatePull ⟨Sample.trace 3,1,⟨Sample.target,2,{Sample.index}⟩⟩
      (Sample.beginning 2 2 0),
    .finishCandidateFailure (Sample.trace 3) ⟨Sample.trace 2,Sample.moment 1,Sample.answered,
      "COMPLETE_SNAPSHOT_COMMIT_FAILED",none⟩]

theorem firstPublication_performed : ∀operation∈firstPublication,performedByProgram operation := by
  intro operation member
  fin_cases member <;> trivial

theorem racedPull_performed : ∀operation∈racedPull,performedByProgram operation := by
  intro operation member
  rcases List.mem_append.mp member with first | pull
  · exact firstPublication_performed operation first
  · fin_cases pull
    · exact ⟨60,rfl,by decide,by decide⟩
    all_goals trivial

theorem abandonedCandidate_performed :
    ∀operation∈abandonedCandidate,performedByProgram operation := by
  intro operation member
  rcases List.mem_append.mp member with first | pull
  · exact firstPublication_performed operation first
  fin_cases pull
  · trivial
  · exact ⟨60,rfl,by decide,by decide⟩
  · exact .inl rfl

theorem racedPull_projectable :
    Projectable (run Database.perform Database.new racedPull) Sample.target (readingAt 1) :=
  ⟨⟨by decide,by decide⟩,by decide,by decide⟩

theorem projectOpenStatus_answers_raced :
    projectOpenStatus (run Database.perform Database.new racedPull) Sample.target
      (readingAt 1)=.error .unknownFailureCode := by
  refine (projectOpenStatus_answers racedPull racedPull_performed Sample.target (readingAt 1)
    racedPull_projectable).1 ⟨_,"CATALOG_CONTENT_VERSION_CHANGED",rfl,rfl,by decide⟩

/-- Both codes are stored by runs of the program, and neither is mapped. -/
theorem projectOpenStatus_unknownFailureCode : (∀operation∈racedPull,performedByProgram operation) ∧
    (∀operation∈abandonedCandidate,performedByProgram operation) ∧
    projectOpenStatus (run Database.perform Database.new racedPull) Sample.target
      (readingAt 1)=.error .unknownFailureCode ∧
    projectOpenStatus (run Database.perform Database.new abandonedCandidate) Sample.target
      (readingAt 1)=.error .unknownFailureCode :=
  ⟨racedPull_performed,abandonedCandidate_performed,rfl,rfl⟩

end Closed

end CoursePlanner.Open
