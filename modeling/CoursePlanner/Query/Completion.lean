import CoursePlanner.Query.Concordance

namespace CoursePlanner.Query

open Std Contracts

/-- The catalog's value for a selectable timing. -/
def catalogued : UserSynchronicityV3 → CatalogSynchronicity
  | .sync => .sync
  | .async => .async
  | .mixed => .mixed

variable {modality : CatalogModality} {occ completed : NormalizedOccurrenceV1}

namespace OnlineTiming

def part (modality : CatalogModality) (occurrence : NormalizedOccurrenceV1) : OnlineTiming :=
  note ⟨false,false,[]⟩ modality occurrence

/-- One doubt or a known timing, whatever was seen before. -/
def Contributes (change : OnlineTiming → OnlineTiming) : Prop :=
  (∃code,∀timing,change timing=timing.doubt code) ∨ ∃sync async,∀timing,change timing=
    ⟨timing.hasSync || sync,timing.hasAsync || async,timing.uncertainties⟩

theorem note_contributes (modality : CatalogModality) (occ : NormalizedOccurrenceV1) :
    Contributes (fun timing => timing.note modality occ) := by
  have inconclusive (code : MatchReasonCode) :
      Contributes (fun timing => timing.inconclusive occ code) := by
    by_cases remote : occ.evidence=.remote ∧ occ.kind=.byArrangement
    · exact .inr ⟨false,true,by simp [OnlineTiming.inconclusive,remote]⟩
    · exact .inl ⟨code,fun _ => if_neg remote⟩
  unfold note
  cases onlineApplicability modality occ with
  | notApplicable => exact .inr ⟨false,false,by simp⟩
  | uncertain code => exact .inl ⟨code,fun _ => rfl⟩
  | applicable =>
    dsimp only
    split
    · exact .inr ⟨true,false,by simp⟩
    · exact .inr ⟨false,true,by simp⟩
    · exact .inr ⟨true,true,by simp⟩
    · exact inconclusive _
    · exact inconclusive _
    · exact inconclusive _
    · exact inconclusive _

def parts (modality : CatalogModality) (occs : List NormalizedOccurrenceV1) : OnlineTiming where
  hasSync := occs.any (fun occ => (part modality occ).hasSync)
  hasAsync := occs.any (fun occ => (part modality occ).hasAsync)
  uncertainties := occs.flatMap (fun occ => (part modality occ).uncertainties)

theorem foldl_note (modality : CatalogModality) (occs : List NormalizedOccurrenceV1)
    (timing : OnlineTiming) :
    occs.foldl (fun (timing : OnlineTiming) occ => timing.note modality occ) timing=
      ⟨timing.hasSync || (parts modality occs).hasSync,
        timing.hasAsync || (parts modality occs).hasAsync,
        timing.uncertainties++(parts modality occs).uncertainties⟩ := by
  induction occs generalizing timing with
  | nil => simp [parts]
  | cons occ occs ih =>
    rw [List.foldl_cons,ih]
    rcases note_contributes modality occ with ⟨code,doubt⟩ | ⟨sync,async,known⟩
    · simp [parts,part,doubt,OnlineTiming.doubt]
    · simp [parts,part,known,Bool.or_assoc]

end OnlineTiming

open OnlineTiming

def Doubtful (modality : CatalogModality) (occurrence : NormalizedOccurrenceV1) : Prop :=
  (part modality occurrence).uncertainties≠[]

/-- One way to supply what a doubtful occurrence leaves open. -/
inductive Resolves (modality : CatalogModality) (occurrence completed : NormalizedOccurrenceV1) :
    Prop
  | settled (certain : ¬Doubtful modality occurrence) (same : completed=occurrence)
  | timed (doubtful : Doubtful modality occurrence)
      (online : onlineApplicability modality completed=.applicable) (value : UserSynchronicityV3)
      (known : completed.synchronicity=.present (catalogued value))
  | excluded (code : MatchReasonCode)
      (doubtful : onlineApplicability modality occurrence=.uncertain code)
      (offline : onlineApplicability modality completed=.notApplicable)

/-- A doubtful occurrence proves nothing, and its doubts are uncertain. -/
theorem part_doubtful (h : Doubtful modality occ) : (part modality occ).hasSync=false ∧
    (part modality occ).hasAsync=false ∧
    ∀doubt∈(part modality occ).uncertainties,doubt.outcome=.uncertain := by
  unfold Doubtful part at *
  rcases note_contributes modality occ with ⟨code,doubt⟩ | ⟨sync,async,known⟩
  · simp [doubt,OnlineTiming.doubt,PredicateEvaluation.uncertain]
  · simp [known] at h

theorem part_timed (online : onlineApplicability modality occ=.applicable)
    (value : UserSynchronicityV3) (known : occ.synchronicity=.present (catalogued value)) :
    part modality occ=⟨value≠.async,value≠.sync,[]⟩ := by
  unfold part note
  rw [online,known]
  cases value <;> rfl

theorem Resolves.keeps (h : Resolves modality occ completed) :
    (part modality completed).uncertainties=[] ∧
    ((part modality occ).hasSync=true → (part modality completed).hasSync=true) ∧
    ((part modality occ).hasAsync=true → (part modality completed).hasAsync=true) := by
  cases h with
  | settled certain same =>
    subst same
    exact ⟨not_not.mp certain,id,id⟩
  | timed doubtful online value known =>
    obtain ⟨noSync,noAsync,-⟩ := part_doubtful doubtful
    rw [part_timed online value known,noSync,noAsync]
    exact ⟨rfl,nofun,nofun⟩
  | excluded code doubtful offline => simp [part,note,doubtful,offline,doubt]

theorem Resolves.certain (h : Resolves modality occ completed) (certain : ¬Doubtful modality occ) :
    completed=occ := by
  cases h with
  | settled _ same => exact same
  | timed doubtful => exact absurd doubtful certain
  | excluded code doubtful => simp [Doubtful,part,note,doubtful,doubt] at certain

section Lists

variable {occs after : List NormalizedOccurrenceV1} {selected : List UserSynchronicityV3}

theorem resolved_keeps (h : List.Forall₂ (Resolves modality) occs after) :
    (parts modality after).uncertainties=[] ∧
    ((parts modality occs).hasSync=true → (parts modality after).hasSync=true) ∧
    ((parts modality occs).hasAsync=true → (parts modality after).hasAsync=true) ∧
    ((∀occ∈occs,¬Doubtful modality occ) → after=occs) := by
  simp only [parts]
  induction h with
  | nil => simp
  | cons first _ ih =>
    obtain ⟨certain,sync,async⟩ := first.keeps
    simp only [List.any_cons,Bool.or_eq_true,List.forall_mem_cons]
    refine ⟨by simp [certain,ih.1],Or.imp sync ih.2.1,Or.imp async ih.2.2.1,?_⟩
    rintro ⟨own,rest⟩
    rw [first.certain own,ih.2.2.2 rest]

/-- Every doubtful occurrence is given the same online timing. -/
theorem exists_completion (value : UserSynchronicityV3) (h : ∃occ∈occs,Doubtful modality occ) :
    ∃after,List.Forall₂ (Resolves modality) occs after ∧
      (parts modality after).hasSync=((parts modality occs).hasSync || decide (value≠.async)) ∧
      (parts modality after).hasAsync=((parts modality occs).hasAsync || decide (value≠.sync)) := by
  classical
  let complete (occ : NormalizedOccurrenceV1) : NormalizedOccurrenceV1 :=
    if Doubtful modality occ then
      { occ with
        evidence := .remote
        synchronicity := .present (catalogued value) }
    else occ
  have each (occ : NormalizedOccurrenceV1) : Resolves modality occ (complete occ) ∧
      (Doubtful modality occ → part modality (complete occ)=⟨value≠.async,value≠.sync,[]⟩) := by
    unfold complete
    split
    · next doubtful => exact ⟨.timed doubtful rfl value rfl,fun _ => part_timed rfl value rfl⟩
    · next certain => exact ⟨.settled certain rfl,fun doubtful => absurd doubtful certain⟩
  refine ⟨occs.map complete,?_,?_⟩
  · exact List.forall₂_map_right_iff.mpr (List.forall₂_same.mpr fun occ _ => (each occ).1)
  obtain ⟨first,mem,doubtful⟩ := h
  have own (occ : NormalizedOccurrenceV1) : (part modality (complete occ)).hasSync=
      ((part modality occ).hasSync || (decide (Doubtful modality occ) && decide (value≠.async))) ∧
      (part modality (complete occ)).hasAsync=
        ((part modality occ).hasAsync || (decide (Doubtful modality occ) && decide (value≠.sync))) := by
    by_cases unsure : Doubtful modality occ
    · have blank := part_doubtful unsure
      simp [(each occ).2 unsure,blank.1,blank.2.1,unsure]
    · simp [(each occ).1.certain unsure,unsure]
  simp only [parts]
  constructor <;> grind

theorem evaluate_doubts {timing : OnlineTiming} (unsure : timing.uncertainties≠[])
    (h : ∀doubt∈timing.uncertainties,doubt.outcome=.uncertain) :
    (timing.evaluate modality selected).outcome=
      if timing.hasSync && timing.hasAsync then
        (boolResult (selected.contains .mixed) .sectionSynchronicity).outcome
      else if timing.couldMatch selected then .uncertain else .noMatch := by
  have all : (andAll timing.uncertainties).outcome=.uncertain := by
    cases out : (andAll timing.uncertainties).outcome with
    | uncertain => rfl
    | matched =>
      obtain ⟨doubt,mem⟩ := List.exists_mem_of_ne_nil _ unsure
      exact absurd (andAll_matched.mp out doubt mem) (by simp [h doubt mem])
    | noMatch =>
      obtain ⟨doubt,mem,refused⟩ := andAll_noMatch.mp out
      exact absurd refused (by simp [h doubt mem])
  unfold evaluate
  rw [if_pos (by simpa using unsure)]
  split
  · rfl
  · split
    · exact all
    · rfl

theorem evaluateSynchronicity_parts (held : NormalizedSectionV1) (some_ : occs≠[])
    (chosen : selected≠[]) : evaluateSynchronicity held (some occs) selected=
      (parts held.deliveryModality occs).evaluate held.deliveryModality selected := by
  simp [evaluateSynchronicity,some_,chosen,foldl_note,Option.filter]

/-- A conclusive answer survives every completion of the doubtful occurrences, and an answer
that they leave uncertain has a completion that matches. -/
theorem evaluateSynchronicity_completions (held : NormalizedSectionV1)
    (occs : List NormalizedOccurrenceV1) (inhabited : occs≠[])
    (selected : List UserSynchronicityV3) (chosen : selected≠[]) :
    let outcome (occs : List NormalizedOccurrenceV1) :=
      (evaluateSynchronicity held (some occs) selected).outcome
    (outcome occs≠.uncertain → ∀completed,
      List.Forall₂ (Resolves held.deliveryModality) occs completed →
      outcome completed=outcome occs) ∧
    (outcome occs=.uncertain → (∃occ∈occs,Doubtful held.deliveryModality occ) →
      ∃completed,List.Forall₂ (Resolves held.deliveryModality) occs completed ∧
        outcome completed=.matched) := by
  intro outcome
  have nonempty {completed : List NormalizedOccurrenceV1}
      (h : List.Forall₂ (Resolves held.deliveryModality) occs completed) : completed≠[] := by
    intro none
    rw [none,List.forall₂_nil_right_iff] at h
    exact inhabited h
  have doubts : ∀doubt∈(parts held.deliveryModality occs).uncertainties,
      doubt.outcome=.uncertain := by
    intro doubt mem
    obtain ⟨occ,-,mem⟩ := List.mem_flatMap.mp mem
    exact (part_doubtful (List.ne_nil_of_mem mem)).2.2 doubt mem
  have eq := evaluateSynchronicity_parts held inhabited chosen
  constructor
  · intro conclusive completed resolved
    obtain ⟨certain,sync,async,same⟩ := resolved_keeps resolved
    by_cases unsure : (parts held.deliveryModality occs).uncertainties=[]
    · rw [same (by simpa [Doubtful,parts] using unsure)]
    unfold outcome at conclusive ⊢
    rw [eq,evaluate_doubts unsure doubts] at conclusive ⊢
    rw [evaluateSynchronicity_parts held (nonempty resolved) chosen]
    generalize parts held.deliveryModality occs=was,parts held.deliveryModality completed=now at *
    obtain ⟨hasSync,hasAsync,_⟩ := was
    obtain ⟨nowSync,nowAsync,_⟩ := now
    cases hasSync <;> cases hasAsync <;> cases nowSync <;> cases nowAsync <;>
      simp_all [evaluate,couldMatch,evaluateSynchronicityValue,boolResult,
        PredicateEvaluation.noMatch]
  · intro uncertain unsure
    have listed : (parts held.deliveryModality occs).uncertainties≠[] := by
      obtain ⟨occ,mem,doubtful⟩ := unsure
      intro none
      exact doubtful (List.flatMap_eq_nil_iff.mp none occ mem)
    unfold outcome at uncertain
    rw [eq,evaluate_doubts listed doubts] at uncertain
    -- a selected timing that the known occurrences do not rule out
    obtain ⟨value,mem,sync,async⟩ : ∃value∈selected,
        ((parts held.deliveryModality occs).hasSync=true → value≠.async) ∧
        ((parts held.deliveryModality occs).hasAsync=true → value≠.sync) := by
      obtain ⟨first,mem⟩ := List.exists_mem_of_ne_nil _ chosen
      generalize parts held.deliveryModality occs=was at *
      obtain ⟨hasSync,hasAsync,_⟩ := was
      cases hasSync <;> cases hasAsync
      · exact ⟨first,mem,by simp,by simp⟩
      · grind [couldMatch]
      · grind [couldMatch]
      · grind [boolResult,PredicateEvaluation.matched,PredicateEvaluation.noMatch]
    obtain ⟨completed,resolved,nowSync,nowAsync⟩ := exists_completion value unsure
    refine ⟨completed,resolved,?_⟩
    have certain := (resolved_keeps resolved).1
    rw [Bool.or_eq_right_iff_imp.mpr (by simpa using sync)] at nowSync
    rw [Bool.or_eq_right_iff_imp.mpr (by simpa using async)] at nowAsync
    unfold outcome
    rw [evaluateSynchronicity_parts held (nonempty resolved) chosen,evaluate,certain,nowSync,nowAsync]
    cases value <;> simp [evaluateSynchronicityValue,mem] <;> rfl

/-- A remote occurrence of unknown timing: a completion makes it synchronous. -/
theorem remote_timing_completed :
    let held : NormalizedSectionV1 := {key := Sample.sectionKey,variantKey := Sample.variantKey}
    let occ : NormalizedOccurrenceV1 := {key := ⟨Sample.sectionKey,0⟩,evidence := .remote}
    (evaluateSynchronicity held (some [occ]) [.sync]).outcome=.uncertain ∧ ∃completed,
      List.Forall₂ (Resolves held.deliveryModality) [occ] completed ∧
      (evaluateSynchronicity held (some completed) [.sync]).outcome=.matched :=
  ⟨by decide,(evaluateSynchronicity_completions _ _ (by simp) _ (by simp)).2 (by decide)
    ⟨_,List.mem_singleton_self _,by simp [Doubtful,part,note]; decide⟩⟩

end Lists

end CoursePlanner.Query
