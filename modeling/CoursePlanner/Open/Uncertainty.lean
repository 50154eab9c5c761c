import CoursePlanner.Open.Status

set_option maxRecDepth 8000

namespace CoursePlanner.Open

open Std Library Contracts Storage

section Projected

variable {db : Database} {t : TermCampusKey} {rt : OpenProjectionRuntime}
  {catalogSections : ExtTreeSet SectionIndex} {version : CatalogContentVersion}
  {cts : OpenCounterSnapshot} {status : ProjectedOpenStatus}

/-- What the parts of a projection that succeeded are projected from. -/
structure ProjectedFrom (db : Database) (target : TermCampusKey)
    (runtime : OpenProjectionRuntime) (catalogSections : ExtTreeSet SectionIndex)
    (version : CatalogContentVersion) (counters : OpenCounterSnapshot)
    (latest : Option OpenAttempt) (point : Option (Option LatestOpenAttemptPoint))
    (lkg : Option LkgProjection) (status : ProjectedOpenStatus) : Prop where
  latestLoaded : optionally ((db.tables target).batch.bind OpenBatchState.lastAttemptId)
    (loadAttempt db target)=.ok latest
  pointProjected : optionally latest projectLatestFreshnessPoint=.ok point
  lkgProjected : optionally ((db.tables target).batch.bind (fun batch =>
      batch.lkgAttemptId.map (fun id => (batch,id))))
    (fun entry => projectLkg db target entry.1 entry.2)=.ok lkg
  freshness : projectOpenFreshness runtime.now (lkg.map LkgProjection.freshnessPoint)
    point.join none=.ok status.refresh.freshness
  published : status.refresh.catalogContentVersion=some version
  lastValid : status.refresh.lastValidObservation=lkg.map LkgProjection.point
  sections : catalogSections.toList.mapM
    (projectSection target (db.tables target).current version lkg status.refresh.freshness
      counters runtime.scheduler.schedulerLagMilliseconds)=.ok status.sections

theorem projectRows_ok (h : projectRows db t rt catalogSections version cts=.ok status) :
    ∃latest point lkg,ProjectedFrom db t rt catalogSections version cts latest
      point lkg status := by
  unfold projectRows at h
  simp only [bind_ok,pure_ok] at h
  obtain ⟨latest,hlatest,_,-,_,-,point,hpoint,_,-,lkg,hlkg,_,-,freshness,hfreshness,secs,
    hsections,rfl⟩ := h
  exact ⟨latest,point,lkg,hlatest,hpoint,hlkg,mapError_ok hfreshness,rfl,rfl,hsections⟩

theorem projectOpenStatus_ok [RutgersCalendar]
    (h : projectOpenStatus db t rt=.ok status) :
    ∃published cts, projectRows db t rt (db.tables t).catalog.sections
        ((db.tables t).catalog.currentContentVersion.toPNat published) cts= .ok status := by
  unfold projectOpenStatus at h
  simp only [bind_ok] at h
  obtain ⟨_,-,catalog,served,version,numbered,cts,-,rows⟩ := h
  rw [servingOpenCatalogSnapshot_eq] at served
  by_cases unpublished : (db.tables t).catalog.currentContentVersion=0
  · rw [if_pos unpublished] at served
    cases served
  rw [if_neg unpublished] at served
  cases served
  have published := Nat.pos_of_ne_zero unpublished
  unfold contentVersion at numbered
  rw [nonZero_some published] at numbered
  cases numbered
  exact ⟨published,cts,rows⟩

theorem ProjectedFrom.section_freshness {latest : Option OpenAttempt}
    {point : Option (Option LatestOpenAttemptPoint)} {lkg : Option LkgProjection}
    (h : ProjectedFrom db t rt catalogSections version cts latest point lkg
      status) : ∀en∈status.sections,en.freshness=status.refresh.freshness ∨
        en.freshness.state=.unknown := by
  intro en mem
  obtain ⟨index,-,projected⟩ := mem_of_mapM_ok h.sections en mem
  unfold projectSection at projected
  cases found : (db.tables t).current[index]? with
  | none =>
    rw [found] at projected
    cases projected
    exact .inr rfl
  | some row =>
    rw [found] at projected
    simp only [bind_ok,ensure_ok,exists_const,pure_ok] at projected
    obtain ⟨_,-,-,-,-,_,-,rfl⟩ := projected
    exact .inl rfl

end Projected

section Freshness

variable {now : OffsetDateTime} {lastValid : Option LastValidOpenPoint}
  {latest : Option LatestOpenAttemptPoint} {reason : Option OpenUncertaintyReason}
  {freshness : OpenFreshness}

/-- A later attempt took the last valid observation out of force. -/
def Invalidated (lastValid : LastValidOpenPoint) (latest : Option LatestOpenAttemptPoint) :
    Prop :=
  ∃attempt∈latest,lastValid.attemptSequence < attempt.attemptSequence ∧
    invalidationReason attempt.classification≠none

theorem projectOpenFreshness_fresh_iff
    (h : projectOpenFreshness now lastValid latest reason=.ok freshness) :
    freshness.state=.fresh ↔ ∃point deadline,lastValid=some point ∧
      freshUntil point=some deadline ∧ now ≤ deadline ∧ ¬Invalidated point latest := by
  cases lastValid with
  | none =>
    cases h
    refine iff_of_false (by simp) ?_
    rintro ⟨point,_,missing,_⟩
    cases missing
  | some point =>
    unfold projectOpenFreshness at h
    simp only [bind_ok,ensure_ok,required_ok,exists_const,pure_ok] at h
    obtain ⟨-,deadline,known,rfl⟩ := h
    have invalidated : Invalidated point latest ↔ (latest.filter (fun att =>
        point.attemptSequence < att.attemptSequence)).bind
          (fun att => invalidationReason att.classification)≠none := by
      unfold Invalidated
      cases latest with
      | none => simp
      | some att =>
        by_cases later : point.attemptSequence < att.attemptSequence <;> simp [later]
    generalize (latest.filter (fun att =>
      point.attemptSequence < att.attemptSequence)).bind
        (fun att => invalidationReason att.classification)=invalidation at invalidated
    cases invalidation with
    | some why =>
      refine iff_of_false (by simp) ?_
      rintro ⟨_,_,same,_,_,valid⟩
      cases same
      exact valid (invalidated.mpr (Option.some_ne_none why))
    | none =>
      have valid : ¬Invalidated point latest := fun h => invalidated.mp h rfl
      by_cases alive : now ≤ deadline
      · refine iff_of_true ?_ ⟨point,deadline,rfl,known,alive,valid⟩
        simp [alive]
      refine iff_of_false (by simp [alive]) ?_
      rintro ⟨_,_,same,deadlineEq,inside,_⟩
      cases same
      rw [known] at deadlineEq
      cases deadlineEq
      exact alive inside

theorem invalidationReason_mapClassification (cls : OpenAttemptClassification) :
    invalidationReason (mapClassification cls)≠none ↔ cls≠.started ∧ cls.isSuccess=false := by
  cases cls <;> decide

end Freshness

def newestFinalized (tables : TargetTables) : Option OpenAttempt :=
  tables.newestFirst.find? (fun attempt => attempt.classification≠.started)

def AttemptInFlight (tables : TargetTables) : Prop :=
  ∃attempt∈tables.attempts,attempt.classification=.started

/-- The last-known-good observation is within twice its interval and the grace period. -/
def WithinLifetime (tables : TargetTables) (now : OffsetDateTime) : Prop :=
  ∃batch row completedAt seconds deadline,tables.batch=some batch ∧ row∈tables.attempts ∧
    batch.lkgAttemptId=some row.attemptId ∧ row.completedAt=some completedAt ∧
    row.effectiveIntervalSeconds=some seconds ∧
    checkedAdd completedAt.instant (2*seconds+openFreshnessGraceSeconds)=some deadline ∧
    now ≤ deadline

section Consistent

variable [Sha256] {db : Database} {t : TermCampusKey} {rt : OpenProjectionRuntime}
  {status : ProjectedOpenStatus}

variable {batch : OpenBatchState} {last row : OpenAttempt} {past : List OpenAttempt}
    {tb : TargetTables}

theorem newestFinalized_cases (consistent : tb.Consistent programPolicy)
    (filled : BatchConsistent programPolicy tb batch past last)
    (newest : newestFinalized tb=some row) :
    (last.classification≠.started ∧ row=last) ∨ (last.classification=.started ∧ row∈past) := by
  unfold newestFinalized at newest
  rw [TargetTables.newestFirst_eq consistent.ordered,filled.rows,List.reverse_append,
    List.reverse_singleton,List.singleton_append,List.find?_cons] at newest
  by_cases started : last.classification=.started
  · rw [started] at newest
    exact .inr ⟨started,List.mem_reverse.mp (List.mem_of_find?_eq_some newest)⟩
  · simp only [started,ne_eq] at newest
    cases newest
    exact .inl ⟨started,rfl⟩

omit [Sha256] in
theorem withinLifetime_iff {policy : WritePolicy} [Sha256] (consistent : tb.Consistent policy)
    {obs : OpenBatchObservation} {lkg : LkgProjection} (held : tb.batch=some batch)
    (good : LastKnownGood tb batch row obs) (vouches : Vouches lkg row obs)
    (now : OffsetDateTime) :
    WithinLifetime tb now ↔
      ∃deadline,freshUntil lkg.freshnessPoint=some deadline ∧ now ≤ deadline := by
  unfold freshUntil
  rw [vouches.completedAt]
  constructor
  · rintro ⟨_,other,_,_,deadline,same,listed,named,completed,interval,alive,inside⟩
    rw [held] at same
    cases same
    rw [good.named] at named
    have row : other=row := (consistent.unique good.listed listed (Option.some.inj named)).symm
    rw [row,good.completed] at completed
    cases completed
    rw [row,vouches.interval] at interval
    cases interval
    exact ⟨deadline,alive,inside⟩
  · rintro ⟨deadline,alive,inside⟩
    exact ⟨batch,row,_,_,deadline,held,good.listed,good.named,good.completed,
      vouches.interval,alive,inside⟩

omit [Sha256] in
/-- A last-known-good attempt is invalidated by a last one that ended without success. -/
theorem invalidated_iff {policy : WritePolicy} [Sha256] (consistent : tb.Consistent policy)
    {obs : OpenBatchObservation} {lkg : LkgProjection}
    (filled : BatchConsistent policy tb batch past last)
    (good : LastKnownGood tb batch row obs) (vouches : Vouches lkg row obs)
    (numbered : 0 < last.attemptSequence)
    (finished : last.completedAt=none ↔ last.classification=.started) :
    Invalidated lkg.freshnessPoint (last.completedAt.map (fun ca =>
        ⟨last.attemptSequence.toPNat numbered,ca.instant, mapClassification last.classification⟩)) ↔
      last.classification≠.started ∧ last.classification.isSuccess=false := by
  constructor
  · rintro ⟨att,mem,-,reason⟩
    obtain ⟨ca,-,rfl⟩ := Option.map_eq_some_iff.mp mem
    exact (invalidationReason_mapClassification last.classification).mp reason
  · rintro ⟨settled,failed⟩
    cases completed : last.completedAt with
    | none => exact absurd (finished.mp completed) settled
    | some ca =>
      refine ⟨_,rfl,?_,(invalidationReason_mapClassification _).mpr ⟨settled,failed⟩⟩
      have earlier : row∈past := by
        have listed := good.listed
        rw [filled.rows] at listed
        rcases List.mem_append.mp listed with earlier | newest
        · exact earlier
        rw [List.mem_singleton.mp newest] at good
        have success := good.success
        rw [failed] at success
        cases success
      have order := consistent.ordered
      rw [filled.rows] at order
      have below := (List.pairwise_append.mp order).2.2 row earlier last
        (List.mem_singleton_self last)
      rw [← PNat.coe_lt_coe,vouches.attemptSequence]
      exact below

/-- A target is fresh exactly if its last-known-good observation is within its lifetime and
the last attempt is in flight or was a success. -/
theorem fresh_iff [RutgersCalendar] (consistent : db.Consistent programPolicy)
    (projected : projectOpenStatus db t rt=.ok status)
    (filled : BatchConsistent programPolicy (db.tables t) batch past last) :
    status.refresh.freshness.state=.fresh ↔ WithinLifetime (db.tables t) rt.now ∧
      (last.classification=.started ∨ last.classification.isSuccess=true) := by
  have tb := consistent.tables t
  have listed : last∈(db.tables t).attempts := by
    rw [filled.rows]
    exact List.mem_append_right past (List.mem_singleton_self last)
  obtain ⟨published,cts,rows⟩ := projectOpenStatus_ok projected
  obtain ⟨latest,point,lkg,parts⟩ := projectRows_ok rows
  have named : (db.tables t).batch.bind OpenBatchState.lastAttemptId= some last.attemptId := by
    rw [filled.held]
    exact filled.identity
  have loaded := parts.latestLoaded
  rw [optionally_some named (loadAttempt_listed consistent listed)] at loaded
  cases loaded
  have pointed := parts.pointProjected
  rw [optionally_some rfl (projectLatestFreshnessPoint_ok (tb.row last listed))] at pointed
  cases pointed
  rw [projectOpenFreshness_fresh_iff parts.freshness]
  obtain ⟨other,projectedLkg,found⟩ := lkg_cases consistent t
  rw [parts.lkgProjected] at projectedLkg
  cases projectedLkg
  rcases found with ⟨rfl,-,never⟩ | ⟨good,_,row,observation,rfl,held,known,vouches⟩
  · refine iff_of_false ?_ ?_
    · rintro ⟨_,_,missing,_⟩
      cases missing
    · rintro ⟨⟨_,row,_,_,_,held,_,named,_⟩,_⟩
      rw [(never _ held).attemptId] at named
      cases named
  · have consistentRow := tb.row last listed
    rw [filled.held] at held
    cases held
    have invalid := invalidated_iff tb filled known vouches consistentRow.numbered
      consistentRow.finished
    have terminal : (last.classification=.started ∨ last.classification.isSuccess=true) ↔
        ¬(last.classification≠.started ∧ last.classification.isSuccess=false) := by
      cases last.classification <;> simp [OpenAttemptClassification.isSuccess]
    rw [withinLifetime_iff tb filled.held known vouches,terminal,← invalid]
    constructor
    · rintro ⟨_,deadline,same,alive,inside,valid⟩
      cases same
      exact ⟨⟨deadline,alive,inside⟩,valid⟩
    · rintro ⟨⟨deadline,alive,inside⟩,valid⟩
      exact ⟨_,deadline,rfl,alive,inside,valid⟩

end Consistent

section Observations

/-- Sections that are not fresh are no candidates for an observation. -/
theorem splitCandidates_uncertain {statuses : ExtTreeMap SectionKey OpenSectionStatus}
    (uncertain : ∀(key : SectionKey) (status : OpenSectionStatus),statuses[key]?=some status →
      status.freshness.state≠.fresh) (secs : List SectionKey) :
    (splitCandidates statuses secs).2=[] ∧ ∀(key : SectionKey) obs,
        (splitCandidates statuses secs).1[key]?=some obs → obs=none := by
  refine List.foldlRecOn (motive := fun split : CandidateSplit => split.2=[] ∧
      ∀(key : SectionKey) obs,split.1[key]?=some obs → obs=none)
    secs (splitCandidate statuses) ⟨rfl,by simp⟩ ?_
  rintro split ⟨nothing,empty⟩ key -
  unfold splitCandidate
  cases found : statuses[key]? with
  | none => exact ⟨nothing,empty⟩
  | some status =>
    simp only [uncertain key status found,ne_eq,not_false_eq_true,or_true,if_true]
    refine ⟨nothing,?_⟩
    intro other obs held
    rw [ExtTreeMap.getElem?_insert] at held
    split at held
    · cases held
      rfl
    · exact empty other obs held

theorem projectCurrentOpenObservations_uncertain [Sha256] [RutgersCalendar] {db : Database}
    {t : TermCampusKey} {rt : OpenProjectionRuntime} {status : ProjectedOpenStatus}
    (projected : projectOpenStatus db t rt=.ok status)
    (uncertain : status.refresh.freshness.state≠.fresh) (secs : List SectionKey)
    (observations : ExtTreeMap SectionKey (Option OpenObservationV1))
    (h : projectCurrentOpenObservations db t secs rt=.ok observations)
    (key : SectionKey) (obs : Option OpenObservationV1)
    (found : observations[key]?=some obs) : obs=none := by
  obtain ⟨pub,cts,rows⟩ := projectOpenStatus_ok projected
  obtain ⟨latest,point,lkg,parts⟩ := projectRows_ok rows
  have stale : ∀(key : SectionKey) (en : OpenSectionStatus),(ExtTreeMap.ofList
      (status.sections.map (fun status => (status.sectionKey,status))) compare)[key]?=
        some en → en.freshness.state≠.fresh := by
    intro key en held
    obtain ⟨_,mem,same⟩ := List.mem_map.mp (mem_of_getElem?_ofList held)
    cases same
    rcases parts.section_freshness en mem with t | unknown
    · rw [t]
      exact uncertain
    · rw [unknown]
      decide
  obtain ⟨nothing,empty⟩ := splitCandidates_uncertain stale secs
  unfold projectCurrentOpenObservations at h
  rw [ensure_bind_ok] at h
  obtain ⟨-,h⟩ := h
  split at h
  · cases h
    simp at found
  rw [bind_of_ok projected] at h
  simp only [nothing] at h
  cases h
  exact empty key obs found

end Observations

section Program

variable [Sha256] [RutgersCalendar]

/-- After an attempt that ended without success the target is uncertain exactly until the
next attempt begins, if its last-known-good observation is within its lifetime. -/
theorem uncertain_iff_idle_or_outlived (operations : List StorageOperation)
    (performed : ∀operation∈operations,performedByProgram operation)
    (target : TermCampusKey) (runtime : OpenProjectionRuntime) (status : ProjectedOpenStatus)
    (row : OpenAttempt)
    (projected : projectOpenStatus (run Database.perform Database.new operations) target
      runtime=.ok status)
    (newest : newestFinalized ((run Database.perform Database.new operations).tables target)=
      some row)
    (failed : row.classification.isSuccess=false) :
    let db := run Database.perform Database.new operations
    (status.refresh.freshness.state≠.fresh ∧ ∀sections observations,
        projectCurrentOpenObservations db target sections runtime=.ok observations →
        ∀(key : SectionKey) observation,observations[key]?=some observation → observation=none) ↔
      ¬(AttemptInFlight (db.tables target) ∧ WithinLifetime (db.tables target) runtime.now) := by
  have consistent := Database.consistent_run operations
    (fun operation member => keeps_of_performedByProgram (performed operation member))
  generalize run Database.perform Database.new operations=db at *
  intro _
  have tables := consistent.tables target
  have listed : row∈(db.tables target).attempts := by
    have member := List.mem_of_find?_eq_some newest
    rw [TargetTables.newestFirst_eq tables.ordered] at member
    exact List.mem_reverse.mp member
  obtain ⟨batch,held⟩ := Option.ne_none_iff_exists'.mp (tables.batch_ne_none row listed)
  obtain ⟨past,last,filled⟩ := tables.filled batch held
  have fresh := fresh_iff consistent projected filled
  have settled : status.refresh.freshness.state=.fresh ↔
      AttemptInFlight (db.tables target) ∧ WithinLifetime (db.tables target) runtime.now := by
    rw [fresh,and_comm]
    refine and_congr_left (fun _ => ?_)
    rcases newestFinalized_cases tables filled newest with ⟨ended,rfl⟩ | ⟨started,-⟩
    · refine iff_of_false ?_ ?_
      · rintro (started | success)
        · exact ended started
        · rw [failed] at success
          cases success
      · rintro ⟨attempt,member,started⟩
        rw [filled.rows] at member
        rcases List.mem_append.mp member with earlier | newest
        · exact filled.settled attempt earlier started
        · rw [List.mem_singleton.mp newest] at started
          exact ended started
    · have listed : last∈(db.tables target).attempts := by
        rw [filled.rows]
        exact List.mem_append_right past (List.mem_singleton_self last)
      exact iff_of_true (.inl started) ⟨last,listed,started⟩
  constructor
  · rintro ⟨uncertain,-⟩ both
    exact uncertain (settled.mpr both)
  · intro apart
    have uncertain := mt settled.mp apart
    exact ⟨uncertain,projectCurrentOpenObservations_uncertain projected uncertain⟩

end Program

section Closed

local instance uncertaintySha256 : Sha256 := plainSha256
local instance uncertaintyCalendar : RutgersCalendar := ⟨fun _ => some ⟨0⟩⟩

def failedLast : List StorageOperation :=
  firstPublication++[.beginPull (Sample.beginning 2 1 0),
    .finishSuccess (Sample.response 2 1 [Sample.index]),
    .beginPull (Sample.beginning 4 1 60),.finishFailure (Sample.timeout 4 61)]

theorem failedLast_performed : ∀operation∈failedLast,performedByProgram operation := by
  intro operation member
  rcases List.mem_append.mp member with first | pull
  · exact firstPublication_performed operation first
  fin_cases pull
  · exact ⟨60,rfl,by decide,by decide⟩
  · trivial
  · exact ⟨60,rfl,by decide,by decide⟩
  · exact ⟨.upstream ⟨.timeout,none⟩,0,trivial,rfl,rfl⟩

theorem uncertain_iff_idle_or_outlived_failedLast :
    ∃status,projectOpenStatus (run Database.perform Database.new failedLast) Sample.target
      (readingAt 62)=.ok status ∧ status.refresh.freshness.state≠.fresh := by
  have answered : (projectOpenStatus (run Database.perform Database.new failedLast)
    Sample.target (readingAt 62)).isOk=true := by decide +kernel
  have ended : ((newestFinalized ((run Database.perform Database.new failedLast).tables
    Sample.target)).map (fun row => row.classification.isSuccess))=some false := by
      decide +kernel
  have idle : ¬AttemptInFlight ((run Database.perform Database.new failedLast).tables
    Sample.target) := by
      unfold AttemptInFlight
      decide +kernel
  obtain ⟨row,newest,failed⟩ := Option.map_eq_some_iff.mp ended
  cases projected : projectOpenStatus (run Database.perform Database.new failedLast)
      Sample.target (readingAt 62) with
  | error error =>
    rw [projected] at answered
    cases answered
  | ok status =>
    refine ⟨status,rfl,?_⟩
    exact ((uncertain_iff_idle_or_outlived failedLast failedLast_performed Sample.target
      (readingAt 62) status row projected newest failed).mpr (fun both => idle both.1)).1

/-- The next attempt after the failure is in flight. -/
def failedBetween : List StorageOperation :=
  failedLast++[.beginPull (Sample.beginning 5 1 100)]

theorem failedBetween_performed : ∀operation∈failedBetween,performedByProgram operation := by
  intro operation member
  rcases List.mem_append.mp member with earlier | next
  · exact failedLast_performed operation earlier
  · rw [List.mem_singleton.mp next]
    exact ⟨60,rfl,by decide,by decide⟩

theorem uncertain_iff_idle_or_outlived_inFlight :
    (∀operation∈failedBetween,performedByProgram operation) ∧
    (newestFinalized ((run Database.perform Database.new failedBetween).tables
      Sample.target)).map OpenAttempt.classification=some .failed ∧
    ((projectOpenStatus (run Database.perform Database.new failedBetween) Sample.target
      (readingAt 101)).toOption.map (fun status => status.refresh.freshness.state))= some .fresh ∧
    ((projectCurrentOpenObservations (run Database.perform Database.new failedBetween)
      Sample.target [⟨Sample.target.term,Sample.target.campus,Sample.index⟩]
      (readingAt 101)).toOption.map (fun observations => observations.toList.map (fun entry =>
        entry.2.map OpenObservationV1.state)))=some [some .opened] :=
  ⟨failedBetween_performed,by decide +kernel,by decide +kernel,by decide +kernel⟩

end Closed

end CoursePlanner.Open
