import CoursePlanner.Query.Predicates
import CoursePlanner.Library.Checked

namespace CoursePlanner.Query

open Std Library Contracts

namespace PredicateEvaluation

/-- The contract of an explanation, and that no reason is given twice. -/
def Sound (evaluation : PredicateEvaluation) : Prop :=
  evaluation.reasons.Nodup ∧
    match evaluation.outcome with
    | .matched => evaluation.reasons=[]
    | .uncertain => evaluation.reasons≠[] ∧
        ∀reason∈evaluation.reasons,reason.code≠.knownMismatch
    | .noMatch => ∃reason∈evaluation.reasons,reason.code=.knownMismatch

def explanation (evaluation : PredicateEvaluation) : MatchExplanation :=
  ⟨evaluation.outcome,evaluation.reasons⟩

theorem Sound.intoExplanation {evaluation : PredicateEvaluation} (h : evaluation.Sound) :
    evaluation.intoExplanation=.ok evaluation.explanation := by
  obtain ⟨out,reasons⟩ := evaluation
  obtain ⟨_,contract⟩ := h
  unfold PredicateEvaluation.intoExplanation PredicateEvaluation.explanation MatchExplanation.tryNew
  cases out with
  | matched =>
    have none : reasons=[] := contract
    subst none
    rfl
  | uncertain =>
    obtain ⟨some,doubts⟩ := contract
    have nonempty : reasons.isEmpty=false := by simpa using some
    have known : (reasons.any (fun reason => reason.code.isKnownMismatch))=false := by
      simpa [MatchReasonCode.isKnownMismatch] using doubts
    simp only [nonempty,known]
    rfl
  | noMatch =>
    have known : (reasons.any (fun reason => reason.code.isKnownMismatch))=true := by
      simpa [MatchReasonCode.isKnownMismatch] using contract
    simp only [known]
    rfl

@[simp] theorem sound_matched : matched.Sound := ⟨List.nodup_nil,rfl⟩

@[simp] theorem sound_noMatch (field : ReasonField) : (noMatch field).Sound :=
  ⟨List.nodup_singleton _,⟨.knownMismatch,field⟩,List.mem_singleton_self _,rfl⟩

@[simp] theorem sound_uncertain {field : ReasonField} {code : MatchReasonCode}
    (h : code≠.knownMismatch) : (uncertain field code).Sound := by
  simp [Sound,uncertain,h]

end PredicateEvaluation

section Aggregation

theorem sameReason_iff {left right : MatchReason} : sameReason left right=true ↔ left=right := by
  simp only [sameReason,Bool.and_eq_true,decide_eq_true_eq]
  constructor
  · rintro ⟨codes,fields⟩
    obtain ⟨leftCode,leftField,_⟩ := left
    obtain ⟨rightCode,rightField,_⟩ := right
    have code : leftCode=rightCode := MatchReasonCode.wireName_inj codes
    have field : leftField=rightField := fields
    simp [code,field]
  · rintro rfl
    exact ⟨rfl,rfl⟩

/-- The loop keeps each reason once, at its first place. -/
theorem distinctReasons_spec (reasons : List MatchReason) : (distinctReasons reasons).Nodup ∧
      ∀reason,reason∈distinctReasons reasons ↔ reason∈reasons := by
  induction reasons using List.reverseRecOn with
  | nil => simp [distinctReasons]
  | append_singleton reasons last ih =>
    have step : distinctReasons (reasons++[last])=
        if (distinctReasons reasons).any (sameReason last) then distinctReasons reasons
        else distinctReasons reasons++[last] := by
      simp [distinctReasons]
    have seen : (distinctReasons reasons).any (sameReason last)=true ↔ last∈reasons := by
      simp [sameReason_iff,ih.2]
    rw [step]
    by_cases known : last∈reasons
    · rw [if_pos (seen.mpr known)]
      refine ⟨ih.1,fun reason => ?_⟩
      rw [ih.2,List.mem_append,List.mem_singleton]
      constructor
      · exact Or.inl
      · rintro (earlier | rfl)
        · exact earlier
        · exact known
    · rw [if_neg (fun h => known (seen.mp h))]
      constructor
      · refine List.nodup_append.mpr ⟨ih.1,List.nodup_singleton _,?_⟩
        intro reason listed other single same
        rw [List.mem_singleton] at single
        rw [ih.2] at listed
        exact known (single ▸ same ▸ listed)
      · intro reason
        rw [List.mem_append,List.mem_append,ih.2]

theorem nodup_aggregate (out : MatchOutcome) (evaluations : List PredicateEvaluation)
    (uncertaintyOnly : Bool) : (aggregate out evaluations uncertaintyOnly).reasons.Nodup :=
  (List.perm_insertionSort _ _).nodup_iff.mpr (distinctReasons_spec _).1

theorem mem_aggregate {out : MatchOutcome} {evaluations : List PredicateEvaluation}
    {uncertaintyOnly : Bool} {reason : MatchReason} :
    reason∈(aggregate out evaluations uncertaintyOnly).reasons ↔
      (∃evaluation∈evaluations,reason∈evaluation.reasons) ∧
        (uncertaintyOnly=true → reason.code≠.knownMismatch) := by
  simp only [aggregate,List.mem_insertionSort,(distinctReasons_spec _).2,MatchReasonCode.isKnownMismatch]
  cases uncertaintyOnly <;> simp

theorem anyOutcome_iff {outcome : MatchOutcome} {evaluations : List PredicateEvaluation} :
    anyOutcome outcome evaluations=true ↔ ∃evaluation∈evaluations,evaluation.outcome=outcome := by
  simp [anyOutcome]

open PredicateEvaluation

variable {evaluations : List PredicateEvaluation}

variable {evaluation : PredicateEvaluation}

theorem PredicateEvaluation.Sound.mismatch (h : evaluation.Sound)
    (refused : evaluation.outcome=.noMatch) :
    ∃reason∈evaluation.reasons,reason.code=.knownMismatch := by
  obtain ⟨_,contract⟩ := h
  rw [refused] at contract
  exact contract

theorem PredicateEvaluation.Sound.doubt (h : evaluation.Sound)
    (open_ : evaluation.outcome=.uncertain) :
    ∃reason∈evaluation.reasons,reason.code≠.knownMismatch := by
  obtain ⟨_,contract⟩ := h
  rw [open_] at contract
  obtain ⟨reason,listed⟩ := List.exists_mem_of_ne_nil _ contract.1
  exact ⟨reason,listed,contract.2 reason listed⟩

theorem PredicateEvaluation.Sound.no_mismatch (h : evaluation.Sound)
    (possible : evaluation.outcome≠.noMatch) :
    ∀reason∈evaluation.reasons,reason.code≠.knownMismatch := by
  obtain ⟨_,contract⟩ := h
  cases decided : evaluation.outcome with
  | noMatch => exact absurd decided possible
  | matched =>
    rw [decided] at contract
    have none : evaluation.reasons=[] := contract
    simp [none]
  | uncertain =>
    rw [decided] at contract
    exact contract.2

theorem sound_andAll (h : ∀evaluation∈evaluations,evaluation.Sound) :
    (andAll evaluations).Sound := by
  unfold andAll
  split
  · next refused =>
    obtain ⟨evaluation,listed,out⟩ := anyOutcome_iff.mp refused
    obtain ⟨reason,given,code⟩ := (h evaluation listed).mismatch out
    exact ⟨nodup_aggregate _ _ _,reason,mem_aggregate.mpr ⟨⟨evaluation,listed,given⟩,nofun⟩,code⟩
  · next possible =>
    have possible : ∀evaluation∈evaluations,evaluation.outcome≠.noMatch := by
      intro evaluation listed refused
      exact possible (anyOutcome_iff.mpr ⟨evaluation,listed,refused⟩)
    split
    · next doubtful =>
      obtain ⟨evaluation,listed,out⟩ := anyOutcome_iff.mp doubtful
      obtain ⟨reason,given,_⟩ := (h evaluation listed).doubt out
      refine ⟨nodup_aggregate _ _ _,?_,?_⟩
      · exact List.ne_nil_of_mem (mem_aggregate.mpr ⟨⟨evaluation,listed,given⟩,nofun⟩)
      · intro reason given
        obtain ⟨⟨evaluation,listed,given⟩,_⟩ := mem_aggregate.mp given
        exact (h evaluation listed).no_mismatch (possible evaluation listed) reason given
    · exact sound_matched

theorem sound_orActive (h : ∀evaluation∈evaluations,evaluation.Sound) :
    (orActive evaluations).Sound := by
  unfold orActive
  split
  · exact sound_matched
  next unmatched =>
  rw [Bool.or_eq_true,not_or] at unmatched
  split
  · next doubtful =>
    obtain ⟨evaluation,listed,out⟩ := anyOutcome_iff.mp doubtful
    obtain ⟨reason,given,code⟩ := (h evaluation listed).doubt out
    refine ⟨nodup_aggregate _ _ _,?_,?_⟩
    · exact List.ne_nil_of_mem (mem_aggregate.mpr ⟨⟨evaluation,listed,given⟩,fun _ => code⟩)
    · intro reason given
      exact (mem_aggregate.mp given).2 rfl
  · next certain =>
    -- Not empty, nothing matched and nothing uncertain: the first one is refused.
    obtain ⟨evaluation,listed⟩ := List.exists_mem_of_ne_nil evaluations (by simpa using unmatched.1)
    have out : evaluation.outcome=.noMatch := by
      cases decided : evaluation.outcome with
      | noMatch => rfl
      | matched => exact absurd (anyOutcome_iff.mpr ⟨evaluation,listed,decided⟩) unmatched.2
      | uncertain => exact absurd (anyOutcome_iff.mpr ⟨evaluation,listed,decided⟩) certain
    obtain ⟨reason,given,code⟩ := (h evaluation listed).mismatch out
    exact ⟨nodup_aggregate _ _ _,reason,mem_aggregate.mpr ⟨⟨evaluation,listed,given⟩,nofun⟩,code⟩

end Aggregation

section Predicates

open PredicateEvaluation

@[simp] theorem unknownReasonCode_doubt (reason : CatalogUnknownReason) :
    unknownReasonCode reason≠.knownMismatch := by
  cases reason <;> decide

@[simp] theorem sound_boolResult (holds : Bool) (field : FilterFieldId) :
    (boolResult holds field).Sound := by
  cases holds <;> simp [boolResult]

@[simp] theorem sound_inactiveOrBool (inactive holds : Bool) (field : FilterFieldId) :
    (inactiveOrBool inactive holds field).Sound := by
  cases inactive <;> simp [inactiveOrBool]

theorem sound_judgeKnown {T : Type} {knowledge : CatalogFieldKnowledge T} {field : FilterFieldId}
    {judge : T → PredicateEvaluation} (h : ∀value,(judge value).Sound) :
    (judgeKnown knowledge field judge).Sound := by
  cases knowledge with
  | unknown reason => exact sound_uncertain (unknownReasonCode_doubt reason)
  | known presence =>
    cases presence with
    | present value => exact h value
    | absent | explicitNull => exact sound_uncertain (by decide)

@[simp] theorem sound_evaluateKnown {T : Type} (knowledge : CatalogFieldKnowledge T)
    (field : FilterFieldId) (predicate : T → Bool) :
    (evaluateKnown knowledge field predicate).Sound :=
  sound_judgeKnown (fun _ => sound_boolResult _ _)

/-- An inactive filter is a match, whatever an active one would say. -/
theorem sound_unless {inactive : Prop} [Decidable inactive] {active : PredicateEvaluation}
    (h : active.Sound) : (if inactive then matched else active).Sound := by
  split
  · exact sound_matched
  · exact h

@[simp] theorem sound_exactValues (actual : CatalogFieldKnowledge String) (selected : List String)
    (field : FilterFieldId) : (exactValues actual selected field).Sound :=
  sound_unless (sound_evaluateKnown _ _ _)

theorem sound_instructorCollection (actual : CatalogFieldKnowledge (List String))
    (selected : List String) (field : FilterFieldId) :
    (instructorCollection actual selected field).Sound :=
  sound_unless (sound_evaluateKnown _ _ _)

theorem sound_evaluateCredits (value : CatalogFieldKnowledge String)
    (selected : Option CreditRangeV1) : (evaluateCredits value selected).Sound := by
  cases selected with
  | none => exact sound_matched
  | some selected =>
    apply sound_judgeKnown
    intro value
    split <;> simp

theorem sound_evaluateCore (value : CatalogFieldKnowledge (List String)) (core : CoreFilterV1) :
    (evaluateCore value core).Sound := by
  refine sound_unless (sound_judgeKnown (fun value => ?_))
  have each : ∀evaluation∈(tokenValues core.codes).map (fun selected =>
      boolResult (value.any (fun actual => exact actual selected)) .courseCoreCode),
      evaluation.Sound := by
    intro evaluation listed
    obtain ⟨selected,_,rfl⟩ := List.mem_map.mp listed
    simp
  cases core.mode with
  | any => exact sound_orActive each
  | all => exact sound_andAll each

theorem sound_evaluatePrerequisite (actual : CatalogPrerequisiteState)
    (selected : PrerequisiteFilterV1) : (evaluatePrerequisite actual selected).Sound := by
  have known (expected : CatalogPrerequisiteState) : (if actual=.unknown then
      uncertain FilterFieldId.coursePrerequisite.reasonField .unknownValue
      else boolResult (actual=expected) .coursePrerequisite).Sound := by
    split <;> simp
  cases selected with
  | any => exact sound_matched
  | has => exact known .has
  | noneReported => exact known .noneReported

theorem sound_evaluateCourseNumberBand (actual : CatalogFieldKnowledge String)
    (selected : List Nat) : (evaluateCourseNumberBand actual selected).Sound := by
  refine sound_unless (sound_judgeKnown (fun value => ?_))
  split <;> simp

theorem sound_evaluateOpen (evidence : LiveOpenEvidenceV1) (now : OffsetDateTime)
    (selected : List LiveOpenStateV1) : (evaluateOpen evidence now selected).Sound := by
  refine sound_unless ?_
  split
  · refine sound_unless (sound_uncertain ?_)
    -- A known mismatch given as the uncertainty of the evidence is not passed on.
    cases kept : evidence.uncertainty.filter (fun code => !code.isKnownMismatch) with
    | none => decide
    | some code =>
      have doubt : code.isKnownMismatch=false := by
        simpa using (Option.filter_eq_some_iff.mp kept).2
      simpa [MatchReasonCode.isKnownMismatch] using doubt
  · exact sound_boolResult _ _

theorem sound_evaluateModality (actual : CatalogModality) (selected : List UserModalityV3) :
    (evaluateModality actual selected).Sound := by
  refine sound_unless ?_
  split
  · refine sound_uncertain ?_
    split <;> decide
  · exact sound_boolResult _ _

/-- What an applicability in doubt is explained by. -/
def ComponentApplicability.Doubted (applicability : ComponentApplicability) : Prop :=
  ∀code,applicability=.uncertain code → code≠.knownMismatch

variable (sectionModality : CatalogModality)

@[simp] theorem bySectionModality_doubted {online onCampus : ComponentApplicability}
    {code : MatchReasonCode} (ho : online.Doubted) (hc : onCampus.Doubted) (h : code≠.knownMismatch) :
    (bySectionModality sectionModality online onCampus code).Doubted := by
  have doubt : (ComponentApplicability.uncertain code).Doubted := by
    intro other same
    cases same
    exact h
  cases sectionModality with
  | onCampusOrInPerson => exact hc
  | online => exact ho
  | hybrid | other | unknown | unknownConflict => exact doubt

@[simp] theorem applicable_doubted : ComponentApplicability.applicable.Doubted := nofun

@[simp] theorem notApplicable_doubted : ComponentApplicability.notApplicable.Doubted := nofun

@[simp] theorem conflicting_doubted : (ComponentApplicability.uncertain .conflictingEvidence).Doubted := by
  rintro code ⟨⟩
  decide

theorem onlineApplicability_doubted (occ : NormalizedOccurrenceV1) :
    (onlineApplicability sectionModality occ).Doubted := by
  have unstated {code : MatchReasonCode} (h : code≠.knownMismatch) :
      (onlineApplicability.unstated sectionModality occ code).Doubted := by
    unfold onlineApplicability.unstated
    split <;> simp [h]
  unfold onlineApplicability
  repeat' split
  all_goals simp [unstated]

theorem travelApplicability_doubted (occ : NormalizedOccurrenceV1) :
    (travelApplicability sectionModality occ).Doubted := by
  unfold travelApplicability
  repeat' split
  all_goals simp

@[simp] theorem sound_evaluateSynchronicityValue (actual : CatalogSynchronicity)
    (selected : List UserSynchronicityV3) :
    (evaluateSynchronicityValue actual selected).Sound := by
  unfold evaluateSynchronicityValue
  split <;> simp

namespace OnlineTiming

/-- Every doubt noted so far is one that an explanation may give. -/
def Doubts (timing : OnlineTiming) : Prop := ∀doubt∈timing.uncertainties,doubt.Sound

variable {timing : OnlineTiming}

variable (h : timing.Doubts)

include h

theorem Doubts.doubt {code : MatchReasonCode} (hc : code≠.knownMismatch) :
    (timing.doubt code).Doubts := by
  intro doubt listed
  rcases List.mem_append.mp listed with earlier | last
  · exact h doubt earlier
  · rw [List.mem_singleton.mp last]
    exact sound_uncertain hc

theorem Doubts.inconclusive (occ : NormalizedOccurrenceV1)
    {code : MatchReasonCode} (hc : code≠.knownMismatch) :
    (timing.inconclusive occ code).Doubts := by
  unfold OnlineTiming.inconclusive
  split
  · exact h
  · exact h.doubt hc

theorem Doubts.note (sectionModality : CatalogModality)
    (occ : NormalizedOccurrenceV1) : (timing.note sectionModality occ).Doubts := by
  unfold OnlineTiming.note
  split
  · exact h
  · next code open_ => exact h.doubt (onlineApplicability_doubted _ _ code open_)
  split <;> first | exact h | simp [h.inconclusive]

theorem Doubts.foldl (sectionModality : CatalogModality) (occs : List NormalizedOccurrenceV1) :
    (occs.foldl (fun (timing : OnlineTiming) occ =>
      timing.note sectionModality occ) timing).Doubts := by
  induction occs generalizing timing with
  | nil => exact h
  | cons occ occs ih => exact ih (h.note sectionModality occ)

theorem Doubts.sound_evaluate (sectionModality : CatalogModality)
    (selected : List UserSynchronicityV3) : (timing.evaluate sectionModality selected).Sound := by
  unfold OnlineTiming.evaluate
  split
  · split
    · exact sound_boolResult _ _
    · split
      · exact sound_andAll h
      · exact sound_noMatch _
  · split <;> simp [sound_unless]

end OnlineTiming

variable (held : NormalizedSectionV1) (occs : Option (List NormalizedOccurrenceV1))

theorem sound_evaluateSynchronicity (selected : List UserSynchronicityV3) :
    (evaluateSynchronicity held occs selected).Sound := by
  refine sound_unless ?_
  split
  · split <;> simp
  · next occs _ =>
    have none : (OnlineTiming.mk false false []).Doubts := nofun
    exact (none.foldl _ occs).sound_evaluate _ _

theorem timedSchedule_doubt (days : CatalogFieldKnowledge (List String)) (start stop : Nat)
    (code : MatchReasonCode) (h : timedSchedule days start stop=.unknown code) :
    code≠.knownMismatch := by
  unfold timedSchedule at h
  repeat' split at h
  all_goals cases h
  all_goals simp

theorem scheduleEvidence_doubt (occ : NormalizedOccurrenceV1) (code : MatchReasonCode)
    (h : scheduleEvidence occ=.unknown code) : code≠.knownMismatch := by
  unfold scheduleEvidence at h
  split at h
  · exact nomatch h
  split at h
  · exact timedSchedule_doubt _ _ _ code h
  all_goals
    cases h
    decide

theorem sound_evaluateSchedule (windows : List AvailabilityWindowV1)
    (occ : NormalizedOccurrenceV1) :
    (evaluateSchedule windows (scheduleEvidence occ)).Sound := by
  cases evidence : scheduleEvidence occ with
  | explicitAsync => exact sound_matched
  | unknown code => exact sound_uncertain (scheduleEvidence_doubt occ code evidence)
  | timed days start stop => exact sound_boolResult _ _

theorem sound_evaluateAvailability (windows : List AvailabilityWindowV1) :
    (evaluateAvailability held occs windows).Sound := by
  refine sound_unless ?_
  split
  · exact sound_unless (sound_uncertain (by decide))
  apply sound_andAll
  intro evaluation listed
  obtain ⟨occ,_,rfl⟩ := List.mem_map.mp listed
  exact sound_evaluateSchedule windows occ

theorem sound_orActive_pair {left right : PredicateEvaluation} (hl : left.Sound)
    (hr : right.Sound) : (orActive [left,right]).Sound := by
  apply sound_orActive
  simp [hl,hr]

theorem sound_andAll_pair {left right : PredicateEvaluation} (hl : left.Sound)
    (hr : right.Sound) : (andAll [left,right]).Sound := by
  apply sound_andAll
  simp [hl,hr]

theorem sound_evaluateMeetingLocation (selected : List String) :
    (evaluateMeetingLocation held occs selected).Sound := by
  refine sound_unless ?_
  split
  · exact sound_unless (sound_uncertain (by decide))
  apply sound_andAll
  intro evaluation listed
  obtain ⟨occ,_,judged⟩ := List.mem_filterMap.mp listed
  split at judged
  · exact nomatch judged
  split at judged
  · cases judged
    exact sound_orActive_pair (sound_exactValues _ _ _) (sound_exactValues _ _ _)
  · exact nomatch judged
  · next code open_ =>
    cases judged
    exact sound_uncertain (travelApplicability_doubted _ _ code open_)

theorem sound_evaluateExam (selected : List String) : (evaluateExam held selected).Sound :=
  sound_unless (sound_orActive_pair (sound_exactValues _ _ _) (sound_exactValues _ _ _))

theorem sound_evaluatePermission (value : CatalogFieldKnowledge String)
    (selected : PermissionFilterV1) : (evaluatePermission value selected).Sound := by
  refine sound_unless ?_
  split <;> simp

theorem sound_courseFilterEvaluations (group : CourseGroupKey)
    (variant : NormalizedCourseVariantV1) (filters : NormalizedFilterValuesV1)
    (textHits : Option TextHitPlan) :
    ∀en∈courseFilterEvaluations group variant filters textHits,en.2.Sound := by
  simp only [courseFilterEvaluations,List.forall_mem_cons,List.not_mem_nil,false_implies,
    implies_true,and_true]
  refine ⟨sound_boolResult _ _,sound_inactiveOrBool _ _ _,sound_exactValues _ _ _,?_,
    sound_evaluateCourseNumberBand _ _,sound_exactValues _ _ _,sound_evaluateCredits _ _,
    sound_evaluateCore _ _,sound_evaluatePrerequisite _ _⟩
  cases filters.text with
  | none => exact sound_matched
  | some text => exact sound_boolResult _ _

theorem sound_sectionFilterEvaluations («open» : LiveOpenEvidenceV1) (now : OffsetDateTime)
    (filters : NormalizedFilterValuesV1) :
    ∀en∈sectionFilterEvaluations held occs «open» now filters,en.2.Sound := by
  simp only [sectionFilterEvaluations,List.forall_mem_cons,List.not_mem_nil,false_implies,
    implies_true,and_true]
  exact ⟨sound_inactiveOrBool _ _ _,sound_evaluateOpen _ _ _,sound_evaluateModality _ _,
    sound_evaluateSynchronicity _ _ _,sound_instructorCollection _ _ _,
    sound_evaluateAvailability _ _ _,sound_evaluateMeetingLocation _ _ _,sound_evaluateExam _ _,
    sound_evaluatePermission _ _⟩

end Predicates

section Summaries

variable (evaluations : List (FilterFieldId × PredicateEvaluation))
  (filters : NormalizedFilterValuesV1)

/-- The summary, where every evaluation can be explained. -/
def EvaluatedFilters.of : EvaluatedFilters where
  evaluation := andAll (evaluations.map Prod.snd)
  filterMatches := evaluations.map (fun (field,evaluation) => ⟨field,evaluation.explanation⟩)
  admitted := evaluations.all (fun (field,evaluation) =>
    admitFilterEvaluation field evaluation filters)

variable {evaluations}

theorem summarizeFilterEvaluations_eq (h : ∀entry∈evaluations,entry.2.Sound) :
    summarizeFilterEvaluations evaluations filters=.ok (.of evaluations filters) := by
  have explained : ∀entry∈evaluations,(do
      let explanation ← entry.2.intoExplanation
      pure (FilterMatchV1.mk entry.1 explanation) : Except Abort FilterMatchV1)=
        .ok ⟨entry.1,entry.2.explanation⟩ := by
    intro entry listed
    rw [(h entry listed).intoExplanation]
    rfl
  unfold summarizeFilterEvaluations
  rw [mapM_ok_map explained]
  rfl

theorem EvaluatedFilters.of_sound (h : ∀entry∈evaluations,entry.2.Sound) :
    (EvaluatedFilters.of evaluations filters).evaluation.Sound := by
  apply sound_andAll
  intro evaluation listed
  obtain ⟨entry,known,rfl⟩ := List.mem_map.mp listed
  exact h entry known

end Summaries

end CoursePlanner.Query
