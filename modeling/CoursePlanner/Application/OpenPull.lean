import CoursePlanner.Application.OpenPersistence

namespace CoursePlanner.Application

open Std Library Contracts Storage Open
open ShortLockOpenPersistence
open ShortLockOpenPersistence (Waited reads_wait)

variable [Sha256]

/-- The candidate was read from this storage in an earlier state. -/
def CatalogCandidateContext.ReadBefore (context : CatalogCandidateContext) (db : Database) :
    Prop :=
  ∃before operations,Database.Sound before ∧
    before.candidateOpenCatalogSnapshot context.candidate.observationId context.emptyDecision=
      .ok (some context.candidate) ∧ db=run Database.perform before operations

/-- A staged Catalog that was read before and is still staged has not changed. -/
theorem CatalogCandidateContext.ReadBefore.staged {context : CatalogCandidateContext}
    {db : Database} (read : context.ReadBefore db) {staged : StagedCatalog}
    (found : db.staged[context.candidate.observationId]?=some staged) :
    staged.sections=context.candidate.catalog.sections := by
  obtain ⟨bef,ops,sound,snap,rfl⟩ := read
  unfold Database.candidateOpenCatalogSnapshot at snap
  simp only [bind_ok,required_ok,pure_ok] at snap
  obtain ⟨first,known,tables,-,version,-,cand⟩ := snap
  obtain ⟨number,-,same⟩ := Option.map_eq_some_iff.mp cand
  have evolves := Database.run_evolves sound.consistent ops
  have listed : context.candidate.observationId∈bef.observations :=
    bef.known _ (mem_of_getElem? known)
  have earlier := (evolves.staged _ staged found).resolve_right (fun fresh => fresh.1 listed)
  rw [known] at earlier
  cases earlier
  rw [← same]

def Ordinary (stop : PullStop) : Prop :=
  ∃error,stop=.error error ∧ error≠.reconcileDivergence

omit [Sha256] in
theorem ordinary_storage (error : StorageError) : Ordinary (.error (.storage error)) :=
  ⟨_,rfl,nofun⟩

/-- The attempt of a pull is in the storage, with what it captured. -/
structure Begun (command : OpenPullCommand) (captured : Nat)
    (before after : ShortLockOpenPersistence) (row : OpenAttempt) : Prop where
  candidate : after.catalogCandidate=before.catalogCandidate
  armed : before.catalogCandidate=none → after.openAttemptTarget=some command.target
  others : ∀turn∈after.others,turn∈before.others
  sound : after.db.Sound
  listed : row∈(after.db.tables command.target).attempts
  named : row.attemptId=command.attemptId
  version : row.capturedCatalogContentVersion=captured
  bound : row.candidateCatalogObservationId=
    before.catalogCandidate.map (fun context => context.candidate.observationId)
  copied : ∀context,before.catalogCandidate=some context → context.ReadBefore before.db →
    captured=context.candidate.catalog.contentVersion ∧
      row.catalogSections=context.candidate.catalog.sections

omit [Sha256] in
theorem storageLane_ordinary {lane : OriginSchedulerLane} {error : SharedOpenServiceError}
    (h : storageLane lane=.error error) : error≠.reconcileDivergence := by
  cases lane with
  | catalog =>
    cases h
    exact nofun
  | _ => cases h

variable {after pe : ShortLockOpenPersistence} {cmd : OpenPullCommand}

theorem waited_sound {bef : ShortLockOpenPersistence} (waited : Waited bef after)
    (sound : bef.db.Sound) : after.db.Sound := by
  obtain ⟨ops,-,ran⟩ := waited.operations
  rw [ran]
  exact sound.run ops

theorem reached_sound (sound : pe.db.Sound) : pe.reached.Sound :=
  waited_sound (reached_waited pe) sound

theorem waited_readBefore {bef : ShortLockOpenPersistence} (waited : Waited bef after)
    {context : CatalogCandidateContext} (read : context.ReadBefore bef.db) :
    context.ReadBefore after.db := by
  obtain ⟨ops,-,ran⟩ := waited.operations
  obtain ⟨first,earlier,sound,snap,same⟩ := read
  refine ⟨first,earlier++ops,sound,snap,?_⟩
  rw [ran,same,run_append]

theorem withStorage_sound {A : Type} {op : Database → StorageResult (A × Database)}
    (sound : pe.db.Sound)
    (h : ∀answer,pe.reached.Sound → op pe.reached=.ok answer →
      answer.2.Sound) : (pe.withStorage op).2.db.Sound := by
  rcases withStorage_cases (Prod.mk.eta.symm :
      pe.withStorage op=_) with ⟨_,-,waited,-⟩ | ⟨answer,db,-,done,left⟩
  · exact waited_sound waited sound
  · rw [left]
    exact h (answer,db) (reached_sound sound) done

theorem begin_sound (sound : pe.db.Sound) (begins : BeginOpenPullAttemptCommand) :
    (beginOpenPullAttempt begins pe).2.db.Sound := by
  unfold beginOpenPullAttempt
  cases pe.catalogCandidate with
  | none =>
    exact withStorage_sound sound (fun _ reached done =>
      reached.committed (.beginPull begins) Prod.snd rfl done)
  | some context =>
    exact withStorage_sound sound (fun _ reached done =>
      reached.committed (.beginCandidatePull context.candidate begins) Prod.snd rfl done)

theorem begin_begun {begins : BeginOpenPullAttemptCommand} {sequence : Nat}
    (sound : pe.db.Sound) (t : begins.target=cmd.target)
    (id : begins.attemptId=cmd.attemptId)
    (h : beginOpenPullAttempt begins pe= (.ok sequence,after)) :
    ∃row,Begun cmd begins.capturedCatalogContentVersion pe after row := by
  have turn := reached_waited pe
  have before := reached_sound sound
  unfold beginOpenPullAttempt at h
  cases held : pe.catalogCandidate with
  | none =>
    rw [held] at h
    dsimp only at h
    obtain ⟨answered,locked⟩ := Prod.mk.inj h
    rcases withStorage_cases (Prod.mk.eta.symm :
        pe.withStorage (fun db => db.beginOpenPullAttempt begins)=_) with
      ⟨error,failed,-⟩ | ⟨answer,db,succeeded,done,left⟩
    · rw [failed] at answered
      cases answered
    rw [left,succeeded] at locked
    obtain ⟨row,listed,-,begun,named⟩ := Database.begin_row done
    refine ⟨row,?_,?_,?_,?_,?_,?_,?_,?_,?_⟩
    · rw [← locked]
    · intro _
      rw [← locked,← t]
      rfl
    · rw [← locked]
      exact turn.others
    · rw [← locked]
      exact before.begin done
    · rw [← locked,← t]
      exact listed
    · rw [named,id]
    · exact begun.2.2.2.1
    · rw [held]
      exact begun.2.2.2.2.2.2.2.2.2.1
    · intro context same
      rw [held] at same
      cases same
  | some context =>
    rw [held] at h
    rcases withStorage_cases h with ⟨error,failed,-⟩ | ⟨answer,db,-,done,left⟩
    · cases failed
    obtain ⟨matched,done⟩ := ensure_bind_ok.mp done
    obtain ⟨row,listed,-,begun,named⟩ := Database.begin_row done
    have begunSound := before.begin done
    have bound : row.candidateCatalogObservationId=some context.candidate.observationId :=
      begun.2.2.2.2.2.2.2.2.2.1
    refine ⟨row,?_,?_,?_,?_,?_,?_,?_,?_,?_⟩
    · rw [left]
    · intro none
      rw [held] at none
      cases none
    · rw [left]
      exact turn.others
    · rw [left]
      exact begunSound
    · rw [left,← t]
      exact listed
    · rw [named,id]
    · exact begun.2.2.2.1
    · rw [held]
      exact bound
    · intro other same read
      rw [held] at same
      cases same
      refine ⟨matched.2,?_⟩
      -- The begin found the cand staged, and it leaves the staged rows alone.
      have cat : ∃entry,pe.reached.attemptCatalog begins.target (some
          context.candidate)=.ok entry := by
        unfold Database.beginOpenPullAttemptWithCatalog at done
        simp only [bind_ok] at done
        obtain ⟨_,-,_,-,_,-,_,-,_,-,_,-,_,-,entry,found,-⟩ := done
        exact ⟨entry,found⟩
      obtain ⟨entry,cat⟩ := cat
      unfold Database.attemptCatalog at cat
      simp only [bind_ok,required_ok] at cat
      obtain ⟨staged,found,-,-⟩ := cat
      have kept : db.staged[context.candidate.observationId]?=some staged := by
        rcases Database.begin_cases done with ⟨_,_,_,_,_,_,rfl⟩ | ⟨_,_,_,_,rfl⟩ <;> exact found
      have copied := (begunSound.captures.candidate begins.target row listed _ bound).2 staged kept
      rw [copied.2]
      exact (waited_readBefore turn read).staged found

omit [Sha256] in
theorem validated_ordinary {error : SharedOpenServiceError} (h : (do
      validateCounterAudience cmd
      ensure (cmd.freshnessIntervalSeconds≠0) SharedOpenServiceError.zeroFreshnessInterval :
        Except SharedOpenServiceError Unit)=.error error) : error≠.reconcileDivergence := by
  rintro rfl
  unfold validateCounterAudience ensure at h
  cases audience : cmd.counterAudience with
  | «local» | «public» =>
    simp only [audience] at h
    split_ifs at h <;> cases h

omit [Sha256] in
theorem beginning_cases [RutgersCalendar] {snap : Option OpenCatalogSnapshot}
    {startedAt : OffsetDateTime}
    {res : Except SharedOpenServiceError BeginOpenPullAttemptCommand} (h : (do
      let cat ← required snap (.targetNotPublished cmd.target)
      let startedAtText ← formatTimestamp startedAt
      let day ← required (RutgersCalendar.dayAt startedAt) .rutgersDay
      let lane ← storageLane cmd.lane
      pure (beginCommand cmd cat.contentVersion day startedAtText lane))=res) :
    (∃error,res=.error error ∧ error≠.reconcileDivergence) ∨
    ∃cat startedAtText day lane,snap=some cat ∧ formatRfc3339 startedAt=some startedAtText ∧
      res=.ok (beginCommand cmd cat.contentVersion day startedAtText lane) := by
  subst h
  cases snap with
  | none => exact .inl ⟨_,rfl,nofun⟩
  | some cat =>
    unfold formatTimestamp
    cases formatted : formatRfc3339 startedAt with
    | none => exact .inl ⟨_,rfl,nofun⟩
    | some text =>
      cases dated : RutgersCalendar.dayAt startedAt with
      | none => exact .inl ⟨_,rfl,nofun⟩
      | some day =>
        cases laned : storageLane cmd.lane with
        | error error => exact .inl ⟨error,rfl,storageLane_ordinary laned⟩
        | ok lane => exact .inr ⟨cat,text,day,lane,rfl,rfl,rfl⟩

/-- A pull that does not begin changes nothing; one that does has its attempt in the
storage. -/
theorem beginPull_cases [RutgersCalendar] {startedAt : OffsetDateTime}
    {state after : PullState ShortLockOpenPersistence} {res : Except PullStop Nat}
    (sound : state.persistence.db.Sound) (h : beginPull cmd startedAt state=(res,after)) :
    after.gates=state.gates ∧
    ((∃stop,res=.error stop ∧ Ordinary stop ∧ after.persistence.db.Sound) ∨
      ∃captured row,res=.ok captured ∧
        Begun cmd captured state.persistence after.persistence row) := by
  rcases attempt_check h with ⟨error,failed,rfl,rfl⟩ | ⟨_,-,reads⟩
  · exact ⟨rfl,.inl ⟨_,rfl,⟨error,rfl,validated_ordinary failed⟩,sound⟩⟩
  have waited := reads_wait.snapshot cmd.target state.persistence
  have sound := waited_sound waited sound
  rcases attempt_call reads with ⟨error,-,rfl,rfl⟩ | ⟨snapshot,-,plans⟩
  · exact ⟨rfl,.inl ⟨_,rfl,ordinary_storage error,sound⟩⟩
  rcases attempt_check plans with ⟨error,failed,rfl,rfl⟩ | ⟨begins,asked,calls⟩
  · rcases beginning_cases failed with ⟨_,equal,ordinary⟩ | ⟨_,_,_,_,_,_,equal⟩
    · cases equal
      exact ⟨rfl,.inl ⟨_,rfl,⟨error,rfl,ordinary⟩,sound⟩⟩
    · cases equal
  rcases beginning_cases asked with ⟨_,equal,-⟩ | ⟨cat,text,day,lane,-,-,equal⟩
  · cases equal
  cases equal
  rcases attempt_call calls with ⟨error,-,rfl,rfl⟩ | ⟨sequence,answered,done⟩
  · exact ⟨rfl,.inl ⟨_,rfl,ordinary_storage error,begin_sound sound _⟩⟩
  · cases done
    obtain ⟨row,begun⟩ := begin_begun sound rfl rfl (Prod.ext answered rfl)
    refine ⟨rfl,.inr ⟨_,row,rfl,?_⟩⟩
    have context := waited.candidate
    refine ⟨begun.candidate.trans context,fun none => begun.armed (context.trans none),
      fun turn member => waited.others turn (begun.others turn member),begun.sound,begun.listed,
      begun.named,begun.version,?_,?_⟩
    · rw [← context]
      exact begun.bound
    · intro cand held read
      exact begun.copied cand (context.trans held) (waited_readBefore waited read)

section Commit

variable {cmd : OpenPullCommand} {captured : Nat} {row : OpenAttempt}
  {start begun read last after : ShortLockOpenPersistence} {current : OpenCatalogSnapshot}
  {response : OpenSectionsResponse} {inputs : ReconcileInputs}

variable {db : Database}

omit [Sha256] in
theorem servingSnapshot_some {t : TermCampusKey}
    (h : db.servingOpenCatalogSnapshot t=some current) :
    current=⟨t,(db.tables t).catalog.currentContentVersion,
      (db.tables t).catalog.sections⟩ ∧ current.contentVersion≠0 := by
  unfold Database.servingOpenCatalogSnapshot at h
  cases held : db.targets[t]? with
  | none =>
    rw [held] at h
    cases h
  | some tables =>
    rw [held] at h
    dsimp only at h
    split at h
    · cases h
    next pub =>
    cases h
    rw [Database.tables_eq held]
    exact ⟨rfl,pub⟩

theorem reconcileInputs_ok {t : TermCampusKey}
    (h : reconcileInputs captured current response t=.ok inputs) :
    (inputs.captured : Nat)=captured ∧ inputs.catalog.target=current.target ∧
      (inputs.catalog.contentVersion : Nat)=current.contentVersion ∧
      (∀index,index∈inputs.catalog.sections ↔ index∈current.sections) ∧
      OpenSetEvidence.tryNew t response.openIndexes response.metadata.rawValueCount=
        .ok inputs.openSet := by
  unfold reconcileInputs at h
  simp only [bind_ok,required_ok,pure_ok] at h
  obtain ⟨version,positive,cat,batched,openSet,evidence,number,numbered,rfl⟩ := h
  have batched := mapError_ok batched
  have evidence := mapError_ok evidence
  obtain ⟨t,same,members⟩ := CatalogOpenBatch.tryNew_ok batched
  have coerced : ∀{value : Nat} {res : ℕ+},nonZero value=some res → (res : Nat)=value := by
    intro value res found
    unfold nonZero at found
    split at found
    · cases found
      rfl
    · cases found
  refine ⟨coerced numbered,t,?_,?_,evidence⟩
  · rw [same]
    exact coerced positive
  intro index
  rw [members]
  constructor
  · rintro ⟨key,member,rfl⟩
    obtain ⟨original,listed,rfl⟩ := List.mem_map.mp member
    exact ExtTreeSet.mem_toList.mp listed
  · intro member
    exact ⟨_,List.mem_map.mpr ⟨index,ExtTreeSet.mem_toList.mpr member,rfl⟩,rfl⟩

omit [Sha256] in
theorem finishCommand_indexes (cmd : OpenPullCommand) (response : OpenSectionsResponse)
    (completedAt : Timestamp) (watched : List SectionKey) (hold : Bool)
    (identity : Option String) :
    (finishCommand cmd response completedAt watched hold identity).openSections.map
      SectionKey.index=response.openIndexes := by
  change (response.openIndexes.map _).map SectionKey.index=_
  rw [List.map_map]
  exact List.map_id response.openIndexes

def Spares (attemptId : TraceId) (persistence : ShortLockOpenPersistence) : Prop :=
  ∀operation,persistence.Interferes operation → ¬operation.Begins attemptId

omit [Sha256] in
theorem Spares.of_others {aid : TraceId} (spares : Spares aid start)
    (others : ∀turn∈begun.others,turn∈start.others) : Spares aid begun := by
  rintro op ⟨turn,listed,performed⟩
  exact spares op ⟨turn,others turn listed,performed⟩

theorem waited_sparing {aid : TraceId} (waited : Waited begun read)
    (spares : Spares aid begun) (sound : begun.db.Sound) :
    begun.db.Evolves .any (.sparing aid) read.db := by
  obtain ⟨ops,own,ran⟩ := waited.operations
  rw [ran]
  exact Database.run_sparing sound.consistent ops (fun op member => spares op (own op member))

structure Matched (captured : Nat) (current : OpenCatalogSnapshot) (plan : OpenReconcilePlan)
    (outcome : OpenCommitOutcome) : Prop where
  accepted : outcomeMatchesReconcile outcome plan
  raced : current.contentVersion≠captured → outcome.classification=.staleCatalogRace

variable {outcome : OpenCommitOutcome} {plan : OpenReconcilePlan} {completedAt : Timestamp}
    {hold : Bool} {identity : Option String} {watched : List SectionKey}

omit [Sha256] in
theorem matched_of_raced {attempt : OpenAttempt} {canonical : CanonicalOpenResponse}
    (reported : Reported attempt canonical outcome)
    (raced : outcome.classification=.staleCatalogRace) : Matched captured current plan outcome := by
  refine ⟨?_,fun _ => raced⟩
  unfold outcomeMatchesReconcile
  rw [if_pos raced]
  apply (reported.withheld _).1
  rw [raced]
  rfl

theorem waited_version (waited : Waited begun read) (sound : begun.db.Sound) (t : TermCampusKey) :
    (begun.db.tables t).catalog.currentContentVersion ≤
      (read.db.tables t).catalog.currentContentVersion := by
  obtain ⟨ops,-,ran⟩ := waited.operations
  have evolves := Database.run_evolves sound.consistent ops
  rw [ran]
  exact (writes_follows (evolves.tables t)).version

/-- A serving pull: the snapshot that it read, then its commit. -/
theorem serving_matched (pull : Begun cmd captured start begun row)
    (serving : start.catalogCandidate=none) (spares : Spares cmd.attemptId start)
    (snapshot : begun.reached.servingOpenCatalogSnapshot cmd.target=some current)
    (waited : Waited begun read) (seen : read.db=begun.reached) (later : Waited read last)
    (inputsOk : reconcileInputs captured current response cmd.target=.ok inputs)
    (planned : reconcileOpenSet inputs.captured inputs.catalog inputs.openSet hold=.ok plan)
    (done : last.db.finishOpenPullSuccess
      (finishCommand cmd response completedAt watched hold identity)=.ok (outcome,db)) :
    Matched captured current plan outcome := by
  have sparing := spares.of_others pull.others
  have readSound := waited_sound waited pull.sound
  obtain ⟨t,tables,attempt,batch,canonical,listed,named,catalog,canonicalized,compared⟩ :=
    serving_compared done
  obtain ⟨reported,classified⟩ := finishCompared_reported compared
  -- The attempt that the commit finds is the one that the pull began.
  have evolves := waited_sparing (waited.trans later) sparing pull.sound
  obtain ⟨rfl,same⟩ := Database.spared_row pull.sound.consistent evolves pull.listed pull.named
    listed named
  have version : attempt.capturedCatalogContentVersion=captured := same.captured.trans pull.version
  have unbound : attempt.candidateCatalogObservationId=none := by
    rw [same.candidate,pull.bound,serving]
    rfl
  -- It was there when the snapshot was read.
  have afterwards := waited_sparing later (sparing.of_others waited.others) readSound
  obtain ⟨earlier,present,start⟩ :=
    (writes_rows (afterwards.tables cmd.target) attempt listed).resolve_right
      (fun begins => begins named)
  have captures := start.captures (readSound.captures.serving cmd.target earlier present) unbound
  obtain ⟨shown,-⟩ := servingSnapshot_some snapshot
  rw [← seen] at shown
  have grows := waited_version later readSound cmd.target
  obtain ⟨number,owner,versioned,sections,evidence⟩ := reconcileInputs_ok inputsOk
  rw [← catalog] at grows
  by_cases moved : tables.catalog.currentContentVersion=captured
  · -- Nothing was published since the begin.
    have still : current.contentVersion=captured := by
      rw [shown]
      dsimp only
      omega
    have copied : current.sections=attempt.catalogSections := by
      rw [shown] at still ⊢
      exact (captures.2 (version.trans still.symm)).symm
    have agrees : Agrees cmd.target attempt canonical outcome plan := by
      refine finishCompared_agrees (sameResponse_of_ok ?_ canonicalized) (owner.trans ?_) ?_
        (number.trans version.symm) ?_ planned compared
      · rw [finishCommand_indexes]
        exact evidence
      · rw [shown]
      · intro index
        rw [sections,copied]
      · unfold seenVersion
        rw [if_neg (fun accepted => absurd accepted.1 Bool.false_ne_true),moved,versioned,still]
    exact ⟨agrees.matches reported,fun apart => absurd still apart⟩
  · apply matched_of_raced reported
    rw [classified,if_pos]
    refine ⟨?_,fun accepted => absurd accepted.1 Bool.false_ne_true⟩
    rw [version]
    exact moved

theorem candidate_matched {context : CatalogCandidateContext} {catalog : Option PublishOutcome}
    (pull : Begun cmd captured start begun row)
    (candidate : start.catalogCandidate=some context) (readBefore : context.ReadBefore start.db)
    (owned : context.candidate.catalog.target=cmd.target)
    (spares : Spares cmd.attemptId start) (waited : Waited begun last)
    (inputsOk : reconcileInputs captured context.candidate.catalog response cmd.target= .ok inputs)
    (planned : reconcileOpenSet inputs.captured inputs.catalog inputs.openSet hold=.ok plan)
    (done : last.db.finishCandidateOpenPullSuccess context.candidate.observationId
      context.emptyDecision
      (finishCommand cmd response completedAt watched hold identity)=
        .ok (catalog,outcome,db)) : Matched captured context.candidate.catalog plan outcome := by
  have sparing := spares.of_others pull.others
  have lastSound := waited_sound waited pull.sound
  obtain ⟨t,tables,attempt,batch,canonical,retained,accept,inner,final,listed,named,bound,
    seen,rfl,canonicalized,compared⟩ := candidate_compared lastSound done
  obtain ⟨reported,classified⟩ := finishCompared_reported compared
  have evolves := waited_sparing waited sparing pull.sound
  obtain ⟨rfl,same⟩ := Database.spared_row pull.sound.consistent evolves pull.listed pull.named
    listed named
  have version : attempt.capturedCatalogContentVersion=captured := same.captured.trans pull.version
  obtain ⟨exact,copied⟩ := pull.copied context candidate readBefore
  obtain ⟨number,owner,versioned,sections,evidence⟩ := reconcileInputs_ok inputsOk
  have agrees : Agrees cmd.target attempt canonical outcome plan := by
    refine finishCompared_agrees (sameResponse_of_ok ?_ canonicalized) (owner.trans owned) ?_
      (number.trans version.symm) ?_ planned compared
    · rw [finishCommand_indexes]
      exact evidence
    · intro index
      rw [sections,same.sections,copied]
    · rw [seen,version,versioned,exact]
  exact ⟨agrees.matches reported,fun apart => absurd exact.symm apart⟩

theorem finish_ok {finish : FinishOpenPullSuccessCommand}
    (h : finishOpenPullSuccess finish last=(.ok outcome,after)) :
    (last.catalogCandidate=none ∧
      last.reached.finishOpenPullSuccess finish=.ok (outcome,after.db)) ∨
    ∃context cat,last.catalogCandidate=some context ∧
      last.reached.finishCandidateOpenPullSuccess context.candidate.observationId
        context.emptyDecision finish=.ok (cat,outcome,after.db) := by
  unfold finishOpenPullSuccess at h
  cases held : last.catalogCandidate with
  | none =>
    rw [held] at h
    cases t : last.openAttemptTarget with
    | none =>
      rw [t] at h
      cases h
    | some t =>
      rw [t] at h
      dsimp only at h
      split at h
      · next answer locked stored =>
        cases h
        rcases withStorage_cases stored with ⟨_,failed,-⟩ | ⟨_,db,answered,done,left⟩
        · cases failed
        · cases answered
          rw [left]
          exact .inl ⟨rfl,done⟩
      · cases h
  | some context =>
    rw [held] at h
    dsimp only at h
    split at h
    · next cat answer locked stored =>
      cases h
      rcases withStorage_cases stored with ⟨_,failed,-⟩ | ⟨_,db,answered,done,left⟩
      · cases failed
      cases answered
      simp only [bind_ok] at done
      obtain ⟨⟨pub,committed,final⟩,done,same⟩ := done
      cases same
      rw [left]
      exact .inr ⟨context,pub,rfl,done⟩
    · cases h

theorem finishCandidate_sound (sound : last.db.Sound) (finish : FinishOpenPullSuccessCommand)
    (context : CatalogCandidateContext) : (last.withStorage (fun db => do
      let (cat,outcome,after) ← db.finishCandidateOpenPullSuccess
        context.candidate.observationId context.emptyDecision finish
      pure ((cat,outcome),after))).2.db.Sound := by
  refine withStorage_sound sound (fun _ reached done => ?_)
  simp only [bind_ok,pure_ok] at done
  obtain ⟨committed,done,rfl⟩ := done
  have kept : committed.2.2.Sound :=
    reached.committed (.finishCandidateSuccess _ _ finish) (fun answer => answer.2.2) rfl done
  exact kept

theorem finish_sound (sound : last.db.Sound) (finish : FinishOpenPullSuccessCommand) :
    (finishOpenPullSuccess finish last).2.db.Sound := by
  unfold finishOpenPullSuccess
  cases last.catalogCandidate with
  | none =>
    cases last.openAttemptTarget with
    | none => exact sound
    | some t =>
      have stored : (last.withStorage (fun db => db.finishOpenPullSuccess finish)).2.db.Sound :=
        withStorage_sound sound (fun _ reached done =>
          reached.committed (.finishSuccess finish) Prod.snd rfl done)
      dsimp only
      split <;> next same => exact (same ▸ stored :)
  | some context =>
    have stored := finishCandidate_sound sound finish context
    dsimp only
    split
    · next same => exact (same ▸ stored :)
    next same =>
    -- The fallback runs on what the failed commit left.
    refine withStorage_sound (same ▸ stored :) (fun _ reached done => ?_)
    exact reached.committed (.finishCandidateFailure _ _) Prod.snd rfl done

theorem finishFailure_sound (sound : last.db.Sound) (finish : FinishOpenPullFailureCommand) :
    (finishOpenPullFailure finish last).2.db.Sound := by
  unfold finishOpenPullFailure
  cases last.catalogCandidate with
  | none =>
    cases last.openAttemptTarget with
    | none => exact sound
    | some t =>
      exact withStorage_sound sound (fun _ reached done =>
        reached.committed (.finishFailure finish) Prod.snd rfl done)
  | some context =>
    exact withStorage_sound sound (fun _ reached done =>
      reached.committed (.finishCandidateFailure _ finish) Prod.snd rfl done)

/-- The commit of a pull passes the cross-check with the plan that was made before it. -/
theorem commit_matched (pull : Begun cmd captured start begun row)
    (spares : Spares cmd.attemptId start)
    (candidates : ∀context,start.catalogCandidate=some context → context.ReadBefore start.db)
    (snapshot : ShortLockOpenPersistence.servingOpenCatalogSnapshot cmd.target begun=
      (.ok (some current),read)) (later : Waited read last)
    (inputsOk : reconcileInputs captured current response cmd.target=.ok inputs)
    (planned : reconcileOpenSet inputs.captured inputs.catalog inputs.openSet hold=.ok plan)
    (done : finishOpenPullSuccess
      (finishCommand cmd response completedAt watched hold identity) last=
        (.ok outcome,after)) : Matched captured current plan outcome := by
  have reading := servingOpenCatalogSnapshot_waited cmd.target begun
  rw [snapshot] at reading
  have whole := reading.trans later
  have turn := reached_waited last
  unfold ShortLockOpenPersistence.servingOpenCatalogSnapshot at snapshot
  rcases finish_ok done with ⟨absent,committed⟩ | ⟨context,cat,held,committed⟩
  · have serving : begun.catalogCandidate=none := whole.candidate.symm.trans absent
    rw [serving] at snapshot
    rcases withStorage_cases snapshot with ⟨_,failed,-⟩ | ⟨_,db,answered,reads,left⟩
    · cases failed
    cases answered
    have reads := Except.ok.inj reads
    have shown : begun.reached.servingOpenCatalogSnapshot cmd.target=some current :=
      congrArg Prod.fst reads
    have stored : read.db=begun.reached := by
      rw [left]
      exact (congrArg Prod.snd reads).symm
    exact serving_matched pull (pull.candidate.symm.trans serving) spares shown reading stored
      (later.trans turn) inputsOk planned committed
  · have bound : begun.catalogCandidate=some context := whole.candidate.symm.trans held
    rw [bound] at snapshot
    dsimp only at snapshot
    split at snapshot
    · cases snapshot
    next own =>
    cases snapshot
    have started := pull.candidate.symm.trans bound
    exact candidate_matched pull started (candidates context started) (not_not.mp own) spares
      (later.trans turn) inputsOk planned committed

end Commit

/-- A pull of the coordinator: a serving one, or one of a staged Catalog. The watch set is
what is sampled before the commit. -/
structure OpenPull where
  command : OpenPullCommand
  context : Option CatalogCandidateContext
  startedAt : OffsetDateTime
  completedAt : OffsetDateTime
  fetched : Except OpenSectionsFailure OpenSectionsResponse
  watched : List SectionKey
  others : List Interference

/-- The storage, and the gate set of one target. -/
structure PullSystem where
  db : Database
  gates : TargetGateSet

namespace OpenPull

section Execution

variable [RutgersCalendar]

def opened (pull : OpenPull) (system : PullSystem) : PullState ShortLockOpenPersistence :=
  ⟨ShortLockOpenPersistence.new system.db pull.context pull.others,system.gates⟩

def execute (system : PullSystem) (pull : OpenPull) :
    Except PullStop OpenPullExecution × PullSystem :=
  let (result,state) := executeWith pull.command pull.startedAt pull.completedAt pull.fetched
    (fun _ => pull.watched) (pull.opened system)
  (result,⟨state.persistence.db,state.gates⟩)

/-- A pull whose response is reconciled with a Catalog. -/
structure Reconciling where
  captured : Nat
  begun : PullState ShortLockOpenPersistence
  response : OpenSectionsResponse
  completedAtText : Timestamp
  current : OpenCatalogSnapshot
  inputs : ReconcileInputs
  read : PullState ShortLockOpenPersistence

/-- What the response of a pull is reconciled with, if it comes to that. -/
def reconciling (pull : OpenPull) (system : PullSystem) : Option Reconciling :=
  match beginPull pull.command pull.startedAt (pull.opened system) with
  | (.error _,_) => none
  | (.ok captured,begun) =>
    match formatRfc3339 pull.completedAt,pull.fetched with
    | some completedAtText,.ok response =>
      if response.target=pull.command.target ∧ responseMetadataIsConsistent response then
        match begun.call (OpenPullPersistence.servingOpenCatalogSnapshot pull.command.target) with
        | (.ok (some current),read) =>
          match reconcileInputs captured current response pull.command.target with
          | .ok inputs =>
            some ⟨captured,begun,response,completedAtText,current,inputs,read⟩
          | .error _ => none
        | _ => none
      else none
    | _,_ => none

def answer (pull : OpenPull) (reconciling : Reconciling) :
    Except PullStop (Option Gated) × PullState ShortLockOpenPersistence :=
  decideGate pull.command reconciling.inputs pull.completedAt reconciling.read

def gateDecision (pull : OpenPull) (system : PullSystem) : Option Gated :=
  (pull.reconciling system).bind (fun reconciling => (pull.answer reconciling).1.toOption.join)

def preparedGates (pull : OpenPull) (system : PullSystem) : TargetGateSet :=
  match pull.reconciling system with
  | none => system.gates
  | some reconciling => (pull.answer reconciling).2.gates

def commitCommand (pull : OpenPull) (reconciling : Reconciling) (gated : Option Gated) :
    FinishOpenPullSuccessCommand :=
  finishCommand pull.command reconciling.response reconciling.completedAtText pull.watched
    (gateHolds gated) (gated.map (fun gated => gated.identity.value))

/-- The outcome of the commit of a response, if it is committed. -/
def commitment (pull : OpenPull) (system : PullSystem) : Option OpenCommitOutcome :=
  match pull.reconciling system with
  | none => none
  | some reconciling =>
    match pull.answer reconciling with
    | (.error _,_) => none
    | (.ok gated,state) =>
      (finishOpenPullSuccess (pull.commitCommand reconciling gated)
        state.persistence).1.toOption

end Execution

/-- Its attempt id is its own, and its staged Catalog was read from the storage. -/
structure Proper (pull : OpenPull) (db : Database) : Prop where
  spares : ∀turn∈pull.others,∀operation∈turn.before,¬operation.Begins pull.command.attemptId
  candidates : ∀context,pull.context=some context → context.ReadBefore db

section Execution

variable [RutgersCalendar] {pull : OpenPull} {system : PullSystem}

variable {reconciling : Reconciling} (h : pull.reconciling system=some reconciling)

include h

theorem reconciling_some : beginPull pull.command pull.startedAt (pull.opened system)=
        (.ok reconciling.captured,reconciling.begun) ∧
      formatRfc3339 pull.completedAt=some reconciling.completedAtText ∧
      pull.fetched=.ok reconciling.response ∧
      reconciling.response.target=pull.command.target ∧
      responseMetadataIsConsistent reconciling.response ∧
      reconciling.begun.call (OpenPullPersistence.servingOpenCatalogSnapshot pull.command.target)=
        (.ok (some reconciling.current),reconciling.read) ∧
      reconcileInputs reconciling.captured reconciling.current reconciling.response
        pull.command.target=.ok reconciling.inputs := by
  unfold OpenPull.reconciling at h
  split at h
  · cases h
  next captured begun first =>
  split at h
  · next completedAtText response formatted fetched =>
    split at h
    · next valid =>
      split at h
      · next current read called =>
        split at h
        · next inputs reconciled =>
          cases h
          exact ⟨first,formatted,fetched,valid.1,valid.2,called,reconciled⟩
        · cases h
      · cases h
    · cases h
  · cases h

theorem execute_reconciling : pull.execute system=
      let (result,state) := attempt (pull.answer reconciling) (fun gated state =>
        commitResponse pull.command reconciling.response reconciling.inputs gated
          reconciling.completedAtText pull.watched state)
      (result,⟨state.persistence.db,state.gates⟩) := by
  obtain ⟨begins,formatted,fetched,t,consistent,called,reconciled⟩ := reconciling_some h
  unfold execute executeWith completePull finishSuccess formatTimestamp
  rw [begins,formatted,fetched]
  unfold attempt
  dsimp only [PullState.check,required,Except.mapError]
  rw [if_neg (not_not.mpr t),if_neg (not_not.mpr consistent),called]
  dsimp only
  rw [reconciled]
  rfl

end Execution

end OpenPull

end CoursePlanner.Application
