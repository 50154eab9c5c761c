import CoursePlanner.Open.Moves

set_option maxRecDepth 8000

namespace CoursePlanner.Open

open Std Library Contracts OriginEdfScheduler

/-- The job that start_next takes, and whether as a diagnostic probe. -/
def OriginEdfScheduler.choice (scheduler : OriginEdfScheduler) (now : MonotonicTime) :
    Option (Bool × OriginJobKey × JobSchedule) :=
  if scheduler.inFlight.isSome then none
  else (scheduler.diagnosticJob now).1.bind (fun diagnosticJob =>
    (scheduler.dueJob diagnosticJob now).map (Prod.mk diagnosticJob.isSome))

def OriginEdfScheduler.freshToken (scheduler : OriginEdfScheduler) : Nat :=
  max (Contracts.saturatingAdd scheduler.nextToken 1) 1

variable (sch : OriginEdfScheduler) (now : MonotonicTime)

theorem nextDispatchHint_choice : sch.nextDispatchHint now=(sch.choice now).map (fun choice =>
      ⟨choice.2.1,choice.2.2.lane,choice.2.2.nextDue,choice.2.2.activeWatchCount,
        choice.2.2.generationPending,choice.2.2.failureStreak⟩) := by
  unfold nextDispatchHint choice diagnosticJob
  split
  · rfl
  cases sch.circuit with
  | closed => simp [Function.comp_def]
  | retryAfter wait => by_cases elapsed : wait ≤ now <;> simp [elapsed,Function.comp_def]
  | fatalDiagnostic job ra authorized =>
    by_cases allowed : authorized=true ∧ ra ≤ now <;>
      simp [allowed,Function.comp_def]

theorem startNext_choice : ∃cir, match sch.choice now with
    | none => sch.startNext now=(none,{ sch with circuit := cir })
    | some (probe,key,job) => ∃dp, sch.startNext now=(some dp,
        ⟨sch.jobs.insert key { job with lastStart := some now },
          some ⟨sch.freshToken,key,job.nextDue,now,probe⟩,cir,sch.freshToken⟩) ∧
      dp.token=sch.freshToken ∧ dp.key=key ∧ dp.lane=job.lane ∧
      dp.scheduledDue=job.nextDue ∧ dp.startedAt=now ∧
      dp.failureStreak=job.failureStreak := by
  have frame : ∃cir,(sch.diagnosticJob now).2={ sch with circuit := cir } := by
    unfold diagnosticJob
    split
    · exact ⟨_,rfl⟩
    · split <;> exact ⟨_,rfl⟩
    · split <;> exact ⟨_,rfl⟩
  obtain ⟨cir,frame⟩ := frame
  unfold choice startNext
  by_cases busy : sch.inFlight.isSome=true
  · rw [if_pos busy,if_pos busy]
    exact ⟨_,rfl⟩
  rw [if_neg busy,if_neg busy]
  generalize sch.diagnosticJob now=diagnostic at frame ⊢
  obtain ⟨probed,after⟩ := diagnostic
  obtain rfl : after={ sch with circuit := cir } := frame
  cases probed with
  | none => exact ⟨cir,rfl⟩
  | some probed =>
    have same : { sch with circuit := cir }.dueJob probed now= sch.dueJob probed now := rfl
    dsimp only [Option.bind_some]
    rw [same]
    cases sch.dueJob probed now with
    | none => exact ⟨cir,rfl⟩
    | some entry => exact ⟨_,_,rfl,rfl,rfl,rfl,rfl,rfl,rfl⟩

/-- A probe is the job of an authorized fatal circuit; any other choice is the least job
that is due. -/
theorem choice_cases {probe : Bool} {key : OriginJobKey} {job : JobSchedule}
    (h : sch.choice now=some (probe,key,job)) :
    sch.inFlight=none ∧ sch.jobs[key]?=some job ∧ job.nextDue ≤ now ∧
      (sch.circuit.isFatal=false ∧ LeastDue sch now key job ∨ ∃ra authorized,
          sch.circuit=.fatalDiagnostic key ra authorized) := by
  unfold choice at h
  split at h
  · cases h
  next busy =>
  obtain ⟨probed,allowed,chosen⟩ := Option.bind_eq_some_iff.mp h
  obtain ⟨_,due,same⟩ := Option.map_eq_some_iff.mp chosen
  cases same
  refine ⟨by simpa using busy,?_⟩
  cases probed with
  | none =>
    have first := dueJob_ordinary sch now key job due
    refine ⟨first.known,first.due,.inl ⟨?_,first⟩⟩
    unfold diagnosticJob at allowed
    cases cir : sch.circuit with
    | closed | retryAfter => rfl
    | fatalDiagnostic => simp [cir] at allowed; split at allowed <;> simp at allowed
  | some probed =>
    obtain ⟨rfl,known,ready⟩ := dueJob_probe sch now probed key job due
    refine ⟨known,ready,.inr ?_⟩
    unfold diagnosticJob at allowed
    split at allowed
    · cases allowed
    · split at allowed <;> cases allowed
    next cir =>
    split at allowed
    · cases allowed
      exact ⟨_,_,cir⟩
    · cases allowed

/-- A completion is taken for the token in flight, not before its start; any other one
changes nothing. -/
theorem finish_cases (token : Nat) (ca : MonotonicTime) (cp : CompletionSchedule)
    (registered : ∀fl,sch.inFlight=some fl → sch.jobs[fl.key]?≠none) :
    (∃fl jobs cir,sch.inFlight=some fl ∧ fl.token=token ∧
      fl.startedAt ≤ ca ∧ sch.finish token ca cp= (.ok (),⟨jobs,none,cir,sch.nextToken⟩)) ∨
    (∀fl,sch.inFlight=some fl → fl.token=token → ¬fl.startedAt ≤ ca) ∧
      ∃error,sch.finish token ca cp=(.error error,sch) ∧ error≠.unknownJob := by
  unfold OriginEdfScheduler.finish
  cases running : sch.inFlight with
  | none => exact .inr ⟨nofun,_,rfl,nofun⟩
  | some fl =>
    dsimp only
    split
    · next other =>
      refine .inr ⟨?_,_,rfl,nofun⟩
      intro _ same named
      cases same
      exact absurd named other
    · next same =>
      split
      · next early =>
        refine .inr ⟨?_,_,rfl,nofun⟩
        intro _ same _
        cases same
        exact Nat.not_le_of_lt early
      · next ordered =>
        cases known : sch.jobs[fl.key]? with
        | none => exact absurd known (registered fl running)
        | some schedule =>
          exact .inl ⟨fl,_,_,rfl,Decidable.not_not.mp same,Nat.le_of_not_lt ordered,rfl⟩

/-- The other operations leave the job in flight and the tokens alone. -/
theorem step_frame (op : SchedulerOperation) (starts : ∀now,op≠.startNext now)
    (finishes : ∀token ca cp,op≠.finish token ca cp) :
    ∃jobs cir,(sch.step op).2= ⟨jobs,sch.inFlight,cir,sch.nextToken⟩ := by
  by_cases plain : isPlain op=true
  · obtain ⟨answer,same,jobs,left,-⟩ := step_writes sch op plain
    exact ⟨jobs,_,by rw [same]; exact left⟩
  cases op with
  | requestManualTargetRetry t now =>
    obtain ⟨jobs,cir,left,-⟩ := manualRetry_writes sch t now
    exact ⟨jobs,cir,left⟩
  | startNext now => exact absurd rfl (starts now)
  | finish token ca cp => exact absurd rfl (finishes token ca cp)
  | authorizeDiagnosticRecheck now =>
    change ∃_ _,(sch.authorizeDiagnosticRecheck now).2=_
    unfold authorizeDiagnosticRecheck
    split
    · split <;> exact ⟨_,_,rfl⟩
    · exact ⟨_,_,rfl⟩
  | _ => exact absurd rfl plain

/-- The tokens that a run hands out and those that it takes back, oldest first. -/
def noteTokens (_ : OriginEdfScheduler) (operation : SchedulerOperation)
    (outcome : SchedulerOutcome) (_ : OriginEdfScheduler) (tokens : List Nat × List Nat) :
    List Nat × List Nat :=
  match operation,outcome with
  | .startNext _,.dispatch (some dispatch) => (tokens.1++[dispatch.token],tokens.2)
  | .finish token _ _,.done (.ok ()) => (tokens.1,tokens.2++[token])
  | _,_ => tokens

abbrev accounting : OriginEdfScheduler × List Nat × List Nat → SchedulerOperation →
    SchedulerOutcome × OriginEdfScheduler × List Nat × List Nat :=
  traced OriginEdfScheduler.step noteTokens

/-- The token in flight is the only one handed out and not taken back, and as long as the
counter does not saturate the tokens are numbered from one. -/
structure Accounted (s : OriginEdfScheduler × List Nat × List Nat) : Prop where
  registered : ∀inFlight,s.1.inFlight=some inFlight → s.1.jobs[inFlight.key]?≠none
  punctual : ∀inFlight,s.1.inFlight=some inFlight → inFlight.scheduledDue ≤ inFlight.startedAt
  outstanding : s.2.1=s.2.2++s.1.inFlight.toList.map InFlight.token
  numbered : s.2.1.length≤u64Max →
    s.1.nextToken=s.2.1.length ∧ s.2.1=List.range' 1 s.2.1.length

theorem Accounted.step {s : OriginEdfScheduler × List Nat × List Nat} (h : Accounted s)
    (op : SchedulerOperation) : Accounted (accounting s op).2 := by
  have kept : ∀fl,s.1.inFlight=some fl → (s.1.step op).2.jobs[fl.key]?≠none :=
    fun fl running => step_registered s.1 op fl.key (h.registered _ running)
  have same : ∀jobs fl cir, (s.1.step op).2=⟨jobs,fl,cir,s.1.nextToken⟩ → fl=s.1.inFlight →
      Accounted ((s.1.step op).2,s.2) := by
    rintro jobs _ cir left rfl
    rw [left] at kept ⊢
    exact ⟨kept,h.punctual,h.outstanding,h.numbered⟩
  have frame := step_frame s.1 op
  cases op with
  | startNext now =>
    obtain ⟨cir,chosen⟩ := startNext_choice s.1 now
    rcases choice : s.1.choice now with _ | ⟨probe,key,job⟩ <;> rw [choice] at chosen
    · have quiet := same s.1.jobs s.1.inFlight cir (congrArg Prod.snd chosen) rfl
      simpa [accounting,traced,OriginEdfScheduler.step,chosen,noteTokens] using quiet
    obtain ⟨dp,started,token,-⟩ := chosen
    obtain ⟨idle,known,due,-⟩ := choice_cases s.1 now choice
    have next : (accounting s (.startNext now)).2=
        (⟨s.1.jobs.insert key { job with lastStart := some now },
          some ⟨s.1.freshToken,key,job.nextDue,now,probe⟩,cir,s.1.freshToken⟩,
          s.2.1++[s.1.freshToken],s.2.2) := by
      simp [traced,OriginEdfScheduler.step,started,noteTokens,token]
    have returned := h.outstanding
    rw [idle] at returned
    rw [next]
    refine ⟨?_,?_,?_,?_⟩
    · intro fl running
      cases running
      simp
    · intro fl running
      cases running
      exact due
    · simp [returned]
    · intro few
      simp only [List.length_append,List.length_singleton] at few
      obtain ⟨count,numbers⟩ := h.numbered (by omega)
      have fresh : s.1.freshToken=s.2.1.length+1 := by
        unfold freshToken Contracts.saturatingAdd
        omega
      refine ⟨by simp [fresh],?_⟩
      rw [fresh,List.length_append,List.length_singleton,List.range'_1_concat,← numbers,
        Nat.add_comm]
  | finish token ca cp =>
    rcases finish_cases s.1 token ca cp h.registered with
      ⟨fl,jobs,cir,running,named,-,done⟩ | ⟨-,error,refused,-⟩
    · have next : (accounting s (.finish token ca cp)).2=
          (⟨jobs,none,cir,s.1.nextToken⟩,s.2.1,s.2.2++[token]) := by
        simp [traced,OriginEdfScheduler.step,done,noteTokens]
      have returned := h.outstanding
      rw [running] at returned
      rw [next]
      exact ⟨by simp,by simp,by simpa [named] using returned,h.numbered⟩
    · have quiet := same s.1.jobs s.1.inFlight s.1.circuit (congrArg Prod.snd refused) rfl
      simpa [accounting,traced,OriginEdfScheduler.step,refused,noteTokens] using quiet
  | _ =>
    obtain ⟨jobs,cir,left⟩ := frame (by simp) (by simp)
    exact same _ _ _ left rfl

theorem reachable_running (h : Reachable OriginEdfScheduler.step .new sch) (fl : InFlight)
    (running : sch.inFlight=some fl) : sch.jobs[fl.key]?≠none := by
  suffices ∃tokens,Accounted (sch,tokens) from this.elim (fun _ known => known.registered fl running)
  refine h.invariant (fun sch => ∃tokens,Accounted (sch,tokens))
    ⟨([],[]),nofun,nofun,rfl,fun _ => ⟨rfl,rfl⟩⟩ ?_
  rintro sch op ⟨tokens,known⟩
  exact ⟨_,known.step op⟩

/-- The hint announces the next dispatch, which outside a probe is the least job that is due;
one job is in flight at a time, and its token is finished once, not before its start. -/
theorem dispatches_follow_hints (s : OriginEdfScheduler × List Nat × List Nat)
    (h : Reachable accounting (.new,[],[]) s) (fewer : s.2.1.length<u64Max)
    (now : MonotonicTime) :
    (s.1.startNext now).1.map (fun dispatch =>
        (dispatch.key,dispatch.lane,dispatch.scheduledDue,dispatch.failureStreak))=
      (s.1.nextDispatchHint now).map (fun hint =>
        (hint.key,hint.lane,hint.scheduledDue,hint.failureStreak)) ∧
    (∀dispatch,(s.1.startNext now).1=some dispatch → s.1.circuit.isFatal=false →
      ∃job,LeastDue s.1 now dispatch.key job) ∧
    s.2.1=s.2.2++s.1.inFlight.toList.map InFlight.token ∧ s.2.1.Nodup ∧
    ∀token completedAt completion, ((s.1.finish token completedAt completion).1=.ok () ↔
        ∃inFlight,s.1.inFlight=some inFlight ∧ inFlight.token=token ∧
          inFlight.startedAt ≤ completedAt) ∧
      ((s.1.finish token completedAt completion).1≠.ok () →
        (s.1.finish token completedAt completion).2=s.1) ∧
      (s.1.finish token completedAt completion).1≠.error .unknownJob := by
  have accounted : Accounted s := by
    refine h.invariant Accounted ⟨nofun,nofun,rfl,fun _ => ⟨rfl,rfl⟩⟩ ?_
    intro s op accounted
    exact accounted.step op
  obtain ⟨circuit,chosen⟩ := startNext_choice s.1 now
  refine ⟨?_,?_,accounted.outstanding,?_,?_⟩
  · rw [nextDispatchHint_choice]
    rcases choice : s.1.choice now with _ | ⟨probe,key,job⟩ <;> rw [choice] at chosen
    · simp [chosen]
    · obtain ⟨dispatch,started,-,rfl,lane,due,-,streak⟩ := chosen
      simp [started,lane,due,streak]
  · intro dispatch started calm
    rcases choice : s.1.choice now with _ | ⟨probe,key,job⟩ <;> rw [choice] at chosen
    · simp [chosen] at started
    obtain ⟨same,begun,-,rfl,-⟩ := chosen
    rw [begun] at started
    cases started
    obtain ⟨-,-,-,⟨-,first⟩ | ⟨_,_,fatal⟩⟩ := choice_cases s.1 now choice
    · exact ⟨job,first⟩
    · rw [fatal] at calm
      cases calm
  · rw [(accounted.numbered (Nat.le_of_lt fewer)).2]
    exact List.nodup_range' _
  · intro token completedAt completion
    rcases finish_cases s.1 token completedAt completion accounted.registered with
      ⟨inFlight,_,_,running,named,ordered,done⟩ | ⟨refuses,error,refused,known⟩
    · rw [done]
      exact ⟨⟨fun _ => ⟨inFlight,running,named,ordered⟩,fun _ => rfl⟩,fun bad => absurd rfl bad,nofun⟩
    rw [refused]
    refine ⟨⟨nofun,?_⟩,fun _ => rfl,fun same => known (Except.error.inj same)⟩
    rintro ⟨inFlight,running,named,ordered⟩
    exact absurd ordered (refuses inFlight running named)

def watchedPull : List SchedulerOperation :=
  [.registerOpen nbFall2026 .fixed 1 ⟨0⟩ ⟨0⟩,.startNext ⟨0⟩,.finish 1 ⟨5⟩ .success]

theorem dispatches_follow_hints_watched : (run accounting (.new,[],[]) watchedPull).2=([1],[1]) ∧
    ((run accounting (.new,[],[]) watchedPull).1.startNext ⟨10000⟩).1.map OriginDispatch.key=
      ((run accounting (.new,[],[]) watchedPull).1.nextDispatchHint ⟨10000⟩).map
        OriginDispatchHint.key := by
  refine ⟨by decide,?_⟩
  have follows := (dispatches_follow_hints _ (reachable_run accounting (.new,[],[]) watchedPull)
    (by decide) ⟨10000⟩).1
  simpa [Function.comp_def] using congrArg (Option.map Prod.fst) follows

end CoursePlanner.Open
