import CoursePlanner.Query.Scope

namespace CoursePlanner.Query

open Std Library Contracts

section Choosing

variable {A B : Type} (keep : A → Bool) (f : A → B)

variable (l : List A)

theorem filterMap_chosen :
    l.filterMap (fun a => if keep a then some (f a) else none)=(l.filter keep).map f := by
  induction l with
  | nil => rfl
  | cons a l ih => cases kept : keep a <;> simp [kept,ih]

theorem reduceOption_chosen :
    (l.map (fun a => if keep a then some (f a) else none)).reduceOption=(l.filter keep).map f := by
  rw [List.reduceOption,List.filterMap_map,← filterMap_chosen]
  rfl

theorem filterMap_tagged :
    (l.map (fun a => (a,if keep a then some (f a) else none))).filterMap (fun (a,b) =>
      b.map (fun b => (a,b)))=(l.filter keep).map (fun a => (a,f a)) := by
  rw [List.filterMap_map,← filterMap_chosen]
  congr 1
  funext a
  cases kept : keep a <;> simp [kept]

end Choosing

namespace Scope

variable {scope : Scope}

theorem mem_targets {target : TermCampusKey} :
    target∈scope.targets ↔ ∃ct∈scope.catalogs,ct.target=target := by
  unfold targets
  rw [ExtTreeSet.mem_toList,ExtTreeSet.mem_ofList,List.contains_iff_mem,List.mem_map]

theorem catalogAt_target {target : TermCampusKey} (h : target∈scope.targets) :
    catalogAt scope.catalogs target≠none := by
  obtain ⟨ct,listed,rfl⟩ := mem_targets.mp h
  rw [catalogAt_listed scope.accepted.distinct listed]
  exact Option.some_ne_none _

theorem entityAt_outside {K V : Type} [DecidableEq K] {entries : NormalizedCatalogV1 → List V}
    {key : V → K} {t : K → TermCampusKey} {k : K} (h : t k∉scope.targets) :
    entityAt entries key t scope.catalogs k=none := by
  cases found : entityAt entries key t scope.catalogs k with
  | none => rfl
  | some entity =>
    obtain ⟨cat,listed,here,_,_⟩ := entityAt_some found
    exact absurd (mem_targets.mpr ⟨cat,listed,here⟩) h

variable {group : NormalizedCourseGroupV1} {held : NormalizedSectionV1}

theorem mem_groups : group∈scope.groups ↔ ∃cat∈scope.catalogs,group∈cat.courseGroups := by
  unfold groups
  rw [mem_sortByKey,List.mem_flatMap]

theorem mem_sections : held∈scope.sections ↔ ∃ct∈scope.catalogs,held∈ct.sections := by
  unfold sections
  rw [mem_sortByKey,List.mem_flatMap]

def HasVariant (scope : Scope) (variant : NormalizedCourseVariantV1) : Prop :=
  ∃catalog∈scope.catalogs,variant∈catalog.courseVariants

theorem group_target (h : group∈scope.groups) : group.key.target∈scope.targets := by
  obtain ⟨cat,listed,held⟩ := mem_groups.mp h
  exact mem_targets.mpr ⟨cat,listed,
    ((scope.accepted.wellFormed cat listed).groups group held).symm⟩

theorem section_target (h : held∈scope.sections) : held.key.target∈scope.targets := by
  obtain ⟨cat,listed,inside⟩ := mem_sections.mp h
  exact mem_targets.mpr ⟨cat,listed,
    ((scope.accepted.wellFormed cat listed).sections held inside).1.symm⟩

theorem variant_target (h : held∈scope.sections) : held.variantKey.group.target∈scope.targets := by
  obtain ⟨cat,listed,inside⟩ := mem_sections.mp h
  exact mem_targets.mpr ⟨cat,listed,
    ((scope.accepted.wellFormed cat listed).sections held inside).2.symm⟩

theorem section_beside_variant (h : held∈scope.sections) :
    held.key.target=held.variantKey.group.target := by
  obtain ⟨cat,listed,inside⟩ := mem_sections.mp h
  obtain ⟨here,there⟩ := (scope.accepted.wellFormed cat listed).sections held inside
  rw [here,there]

variable {vt : NormalizedCourseVariantV1}

theorem variantAt_has (h : scope.HasVariant vt) : variantAt scope.catalogs vt.key=some vt := by
  obtain ⟨cat,listed,inside⟩ := h
  have formed := scope.accepted.wellFormed cat listed
  rw [variantAt,entityAt_here variantTarget scope.accepted.distinct listed
    (formed.variants vt inside)]
  exact (findKey_eq_some formed.distinctVariants).mpr ⟨inside,rfl⟩

theorem sectionAt_has (h : held∈scope.sections) : sectionAt scope.catalogs held.key=some held := by
  obtain ⟨cat,listed,inside⟩ := mem_sections.mp h
  have formed := scope.accepted.wellFormed cat listed
  rw [sectionAt,entityAt_here SectionKey.target scope.accepted.distinct listed
    (formed.sections held inside).1]
  exact (findKey_eq_some formed.distinctSections).mpr ⟨inside,rfl⟩

theorem variantAt_listed (h : group∈scope.groups) {key : CourseVariantKey}
    (listed : key∈group.variantKeys) :
    ∃vt,variantAt scope.catalogs key=some vt ∧ scope.HasVariant vt ∧
      vt.key=key ∧ key.group=group.key := by
  obtain ⟨cat,known,held⟩ := mem_groups.mp h
  obtain ⟨ours,inside⟩ :=
    ((scope.accepted.wellFormed cat known).groupLinks group held).2.2 key listed
  obtain ⟨vt,there,rfl⟩ := List.mem_map.mp inside
  have has : scope.HasVariant vt := ⟨cat,known,there⟩
  exact ⟨vt,variantAt_has has,has,rfl,ours⟩

theorem sectionAt_listed (h : scope.HasVariant vt) {key : SectionKey}
    (listed : key∈vt.sectionKeys) :
    ∃held,sectionAt scope.catalogs key=some held ∧ held∈scope.sections ∧ held.key=key ∧
      held.variantKey=vt.key := by
  obtain ⟨cat,known,there⟩ := h
  obtain ⟨held,inside,rfl,ours⟩ :=
    ((scope.accepted.wellFormed cat known).variantLinks vt there).2.2 key listed
  have member := mem_sections.mpr ⟨cat,known,inside⟩
  exact ⟨held,sectionAt_has member,member,rfl,ours⟩

theorem occurrenceAt_listed (h : held∈scope.sections) {keys : List CatalogOccurrenceKeyV1}
    (stated : held.occurrenceKeys.knownValue=some keys) {key : CatalogOccurrenceKeyV1}
    (listed : key∈keys) :
    ∃occ,occurrenceAt scope.catalogs key=some occ ∧ key.section=held.key := by
  obtain ⟨cat,known,there⟩ := mem_sections.mp h
  have formed := scope.accepted.wellFormed cat known
  obtain ⟨ours,inside⟩ := (formed.sectionLinks held there).2.2 key (by rwa [stated])
  obtain ⟨occ,present,rfl⟩ := List.mem_map.mp inside
  refine ⟨occ,?_,ours⟩
  rw [occurrenceAt,entityAt_here occurrenceTarget scope.accepted.distinct known
    (formed.occurrences occ present)]
  exact (findKey_eq_some formed.distinctOccurrences).mpr ⟨present,rfl⟩

theorem variantAt_section (h : held∈scope.sections) :
    ∃vt,variantAt scope.catalogs held.variantKey=some vt ∧ scope.HasVariant vt ∧
      vt.key=held.variantKey ∧ held.key∈vt.sectionKeys := by
  obtain ⟨cat,known,inside⟩ := mem_sections.mp h
  obtain ⟨⟨vt,there,same,listed⟩,_⟩ :=
    (scope.accepted.wellFormed cat known).sectionLinks held inside
  have has : scope.HasVariant vt := ⟨cat,known,there⟩
  exact ⟨vt,same ▸ variantAt_has has,has,same,listed⟩

theorem mem_variantsFor (h : group∈scope.groups) (listed : vt∈scope.variantsFor group) :
    scope.HasVariant vt ∧ vt.key.group=group.key := by
  obtain ⟨key,known,found⟩ := List.mem_filterMap.mp listed
  obtain ⟨other,there,held,named,ours⟩ := variantAt_listed h known
  cases found.symm.trans there
  exact ⟨held,named ▸ ours⟩

theorem mem_sectionsFor (h : scope.HasVariant vt) (listed : held∈scope.sectionsFor vt) :
    held∈scope.sections ∧ held.variantKey=vt.key := by
  obtain ⟨key,known,found⟩ := List.mem_filterMap.mp listed
  obtain ⟨other,there,inside,_,ours⟩ := sectionAt_listed h known
  cases found.symm.trans there
  exact ⟨inside,ours⟩

section Sound

variable (fs : NormalizedFilterValuesV1) (th : Option TextHitPlan)

theorem sound_courseFilters (group : CourseGroupKey) (vt : NormalizedCourseVariantV1) :
    (courseFilters fs th group vt).evaluation.Sound :=
  EvaluatedFilters.of_sound fs (sound_courseFilterEvaluations group vt fs th)

theorem sound_sectionFilters (held : NormalizedSectionV1) :
    (scope.sectionFilters fs held).evaluation.Sound :=
  EvaluatedFilters.of_sound fs (sound_sectionFilterEvaluations held _ _ _ fs)

theorem sound_sectionWitness {active : Bool} {admitted : List PredicateEvaluation}
    (h : ∀ev∈admitted,ev.Sound) : (sectionWitness active admitted).1.Sound := by
  unfold sectionWitness
  split
  · split
    · exact PredicateEvaluation.sound_noMatch _
    · exact sound_orActive h
  · exact PredicateEvaluation.sound_matched

theorem sound_orNonempty {evs : List PredicateEvaluation} {field : ReasonField}
    (h : ∀ev∈evs,ev.Sound) : (orNonempty evs field).Sound := by
  unfold orNonempty
  split
  · exact PredicateEvaluation.sound_noMatch _
  · exact sound_orActive h

theorem sound_variantEvaluation (vt : NormalizedCourseVariantV1) :
    (scope.variantEvaluation fs th vt).Sound := by
  refine sound_andAll_pair (sound_courseFilters _ _ _ _) (sound_sectionWitness ?_)
  intro ev listed
  obtain ⟨held,_,rfl⟩ := List.mem_map.mp listed
  exact sound_sectionFilters fs held

theorem sound_groupEvaluation (group : NormalizedCourseGroupV1) :
    (scope.groupEvaluation fs th group).Sound := by
  apply sound_orNonempty
  intro ev listed
  obtain ⟨vt,_,rfl⟩ := List.mem_map.mp listed
  exact sound_variantEvaluation fs th vt

theorem sound_overall (vt : NormalizedCourseVariantV1) (held : NormalizedSectionV1) :
    (scope.overall fs th vt held).Sound :=
  sound_andAll_pair (sound_courseFilters _ _ _ _) (sound_sectionFilters _ _)

end Sound

end Scope

/-- The engine answers from the scope: on its targets the lookups agree and none fails. -/
structure QueryEngine.Reads (engine : QueryEngine) (scope : Scope) : Prop where
  term : engine.corpus.term=scope.term
  targets : engine.activeTargets=scope.targets
  versions : ∀target∈scope.targets,
    engine.corpus.targetVersions[target]?=some (scope.version target)
  groups : engine.corpus.groups engine.activeTargets=scope.groups
  sections : engine.corpus.sections engine.activeTargets=scope.sections
  group : ∀key : CourseGroupKey,key.target∈scope.targets →
    engine.corpus.group key=groupAt scope.catalogs key
  variant : ∀key : CourseVariantKey,key.group.target∈scope.targets →
    engine.corpus.variant key=variantAt scope.catalogs key
  «section» : ∀key : SectionKey,key.target∈scope.targets →
    engine.corpus.section key=sectionAt scope.catalogs key
  variantsFor : ∀group∈scope.groups,
    engine.corpus.variantsFor group=.ok (scope.variantsFor group)
  sectionsFor : ∀variant,scope.HasVariant variant →
    engine.corpus.sectionsFor variant=.ok (scope.sectionsFor variant)
  occurrences : ∀held∈scope.sections,
    engine.corpus.knownOccurrencesFor held=.ok (scope.occurrencesFor held)
  now : engine.now=scope.now
  openFor : ∀held∈scope.sections,engine.openFor held.key=scope.openFor held.key
  openStateFor : ∀held∈scope.sections,engine.openStateFor held.key=scope.openStateFor held.key

namespace QueryEngine.Reads

variable {eng : QueryEngine} {scope : Scope} (reads : eng.Reads scope)
  (fs : NormalizedFilterValuesV1) (th : Option TextHitPlan)

include reads

theorem active {t : TermCampusKey} : eng.targetIsActive t=true ↔ t∈scope.targets := by
  unfold QueryEngine.targetIsActive
  rw [reads.targets,List.contains_iff_mem]

omit reads in
theorem evaluateCourse (group : CourseGroupKey) (vt : NormalizedCourseVariantV1) :
    evaluateCourseFilterMatches group vt fs th= .ok (Scope.courseFilters fs th group vt) :=
  summarizeFilterEvaluations_eq fs (sound_courseFilterEvaluations group vt fs th)

variable {held : NormalizedSectionV1} {vt : NormalizedCourseVariantV1}
    {group : NormalizedCourseGroupV1}

theorem sectionEvaluation (h : held∈scope.sections) :
    eng.sectionEvaluation fs held=.ok (scope.sectionFilters fs held) := by
  unfold QueryEngine.sectionEvaluation
  rw [bind_of_ok (reads.occurrences held h),reads.openFor held h,reads.now]
  exact summarizeFilterEvaluations_eq fs (sound_sectionFilterEvaluations held _ _ _ fs)

theorem sectionItem (h : held∈scope.sections) : eng.sectionItem fs held=
      .ok (scope.sectionItem fs held,scope.sectionFilters fs held) := by
  have evaluated : evaluateSectionFilterMatches held (scope.occurrencesFor held)
      (scope.openFor held.key) scope.now fs=.ok (scope.sectionFilters fs held) :=
    summarizeFilterEvaluations_eq fs (sound_sectionFilterEvaluations held _ _ _ fs)
  unfold QueryEngine.sectionItem
  rw [bind_of_ok (reads.occurrences held h),reads.openFor held h,reads.now]
  rw [bind_of_ok evaluated, bind_of_ok (Scope.sound_sectionFilters fs held).intoExplanation]
  rfl

theorem unfilteredSectionItem (h : held∈scope.sections) :
    eng.unfilteredSectionItem held=.ok (scope.unfilteredSectionItem held) := by
  unfold QueryEngine.unfilteredSectionItem
  rw [bind_of_ok (reads.occurrences held h),reads.openFor held h]
  rfl

theorem variantWitness (h : scope.HasVariant vt) :
    eng.variantWitness fs vt=.ok (scope.witness fs vt) := by
  unfold QueryEngine.variantWitness Scope.witness
  by_cases active : sectionFiltersActive fs=true
  · rw [bind_of_ok (reads.sectionsFor vt h),bind_of_ok (mapM_ok_map (fun held listed =>
        reads.sectionEvaluation fs (Scope.mem_sectionsFor h listed).1)),
      active,List.filter_map,List.map_map]
    rfl
  · rw [Bool.not_eq_true _ |>.mp active]
    rfl

theorem variantEvaluation (h : scope.HasVariant vt) (ours : vt.key.group=group.key) :
    eng.variantEvaluation fs th group vt=
      .ok (if scope.admits fs th vt then
        some (scope.variantEvaluation fs th vt) else none) := by
  unfold QueryEngine.variantEvaluation
  rw [bind_of_ok (evaluateCourse fs th group.key vt),bind_of_ok (reads.variantWitness fs h),← ours]
  rfl

theorem courseCandidate (h : group∈scope.groups) : eng.courseCandidate fs th group=
      .ok (if (scope.groupEvaluation fs th group).outcome≠.noMatch then
        some (scope.courseCandidate fs th group) else none) := by
  have active : eng.targetIsActive group.key.target=true :=
    reads.active.mpr (Scope.group_target h)
  have evaluated : (scope.variantsFor group).mapM (fun vt => do
      let ev ← eng.variantEvaluation fs th group vt
      pure (vt,ev) : _ → Except Abort _)=
      .ok ((scope.variantsFor group).map (fun vt =>
        (vt,if scope.admits fs th vt then
          some (scope.variantEvaluation fs th vt) else none))) := by
    apply mapM_ok_map
    intro vt listed
    obtain ⟨held,ours⟩ := Scope.mem_variantsFor h listed
    rw [bind_of_ok (reads.variantEvaluation fs th held ours)]
    rfl
  unfold QueryEngine.courseCandidate
  rw [active,bind_of_ok (reads.variantsFor group h),bind_of_ok evaluated,filterMap_tagged]
  simp only [List.map_map,Function.comp_def, List.map_id']
  change pure (if (scope.groupEvaluation fs th group).outcome=.noMatch then none
    else some (scope.courseCandidate fs th group))=_
  by_cases refused : (scope.groupEvaluation fs th group).outcome=.noMatch
  · rw [if_pos refused,if_neg (not_not.mpr refused)]
    rfl
  · rw [if_neg refused,if_pos refused]
    rfl

omit reads in
theorem materializeSections : QueryEngine.materializeSections fs
        (Scope.courseFilters fs th vt.key.group vt)
        ((scope.sectionsFor vt).map (fun held =>
          (scope.sectionItem fs held,scope.sectionFilters fs held)))=
      .ok ((scope.returnedSections fs vt).map (scope.returnedSection fs th vt)) := by
  unfold QueryEngine.materializeSections Scope.returnedSections
  rw [List.filter_map,List.mapM_map]
  apply mapM_ok_map
  intro held _
  have explained : (scope.overall fs th vt held).intoExplanation=_ :=
    (Scope.sound_overall fs th vt held).intoExplanation
  exact bind_of_ok explained

omit reads in
theorem witness_items : sectionWitness (sectionFiltersActive fs)
    ((((scope.sectionsFor vt).map (fun held =>
      (scope.sectionItem fs held,scope.sectionFilters fs held))).filter
        (fun (_,evaluated) => evaluated.admitted)).map (fun (_,evaluated) => evaluated.evaluation))=
    scope.witness fs vt := by
  rw [List.filter_map,List.map_map]
  rfl

theorem materializeVariant (h : scope.HasVariant vt) (ours : vt.key.group=group.key) :
    eng.materializeVariant fs th group (exactCourseIdentifier fs group.key)
        vt=
      .ok (if scope.admits fs th vt then
        some (scope.variantItem fs th vt) else none) := by
  have items : (scope.sectionsFor vt).mapM (eng.sectionItem fs)=.ok _ :=
    mapM_ok_map (fun held listed => reads.sectionItem fs (Scope.mem_sectionsFor h listed).1)
  have explained : (scope.variantEvaluation fs th vt).intoExplanation=_ :=
    (Scope.sound_variantEvaluation fs th vt).intoExplanation
  unfold QueryEngine.materializeVariant
  rw [bind_of_ok (evaluateCourse fs th group.key vt),
    bind_of_ok (reads.sectionsFor vt h),bind_of_ok items,witness_items,← ours]
  have refused : (!(Scope.courseFilters fs th vt.key.group vt).admitted ||
      !(scope.witness fs vt).2)=!scope.admits fs th vt := (Bool.not_and _ _).symm
  cases admitted : scope.admits fs th vt with
  | true =>
    rw [admitted] at refused
    exact (if_neg (ne_true_of_eq_false refused)).trans
      ((bind_of_ok (materializeSections fs th)).trans (bind_of_ok explained))
  | false =>
    rw [admitted] at refused
    exact if_pos refused

theorem materializeCourseCandidate (h : group∈scope.groups) :
    eng.materializeCourseCandidate fs th
        (scope.courseCandidate fs th group)=
      .ok (scope.courseItem fs th group) := by
  have items : (scope.variantsFor group).mapM (eng.materializeVariant fs th group
      (exactCourseIdentifier fs group.key))=.ok _ :=
    mapM_ok_map (fun vt listed => by
      obtain ⟨held,ours⟩ := Scope.mem_variantsFor h listed
      exact reads.materializeVariant fs th held ours)
  refine (bind_of_ok (reads.variantsFor group h)).trans ((bind_of_ok items).trans
    ((bind_of_ok (Scope.sound_groupEvaluation fs th group).intoExplanation).trans ?_))
  rw [reduceOption_chosen]
  rfl

theorem sectionCandidate (h : held∈scope.sections) : eng.sectionCandidate fs th held=
      .ok (scope.sectionCandidate fs th held) := by
  have active : eng.targetIsActive held.key.target=true :=
    reads.active.mpr (Scope.section_target h)
  obtain ⟨vt,found,_,_,_⟩ := Scope.variantAt_section h
  have there : required (eng.corpus.variant held.variantKey) Abort.panicked=.ok vt := by
    rw [reads.variant _ (Scope.variant_target h),found]
    rfl
  unfold QueryEngine.sectionCandidate Scope.sectionCandidate
  rw [active,bind_of_ok there,bind_of_ok (evaluateCourse fs th _ vt),
    bind_of_ok (reads.sectionEvaluation fs h),found,reads.openStateFor held h]
  rfl

/-- The second pass finds what the first one found. -/
theorem materializeSectionCandidate (h : held∈scope.sections) {cand : SectionCandidate}
    (chosen : scope.sectionCandidate fs th held=some cand) :
    eng.materializeSectionCandidate fs th cand=
      .ok (scope.sectionSearchItem fs th cand) := by
  obtain ⟨vt,_,picked⟩ := Option.bind_eq_some_iff.mp chosen
  by_cases admitted : ((Scope.courseFilters fs th vt.key.group vt).admitted &&
      (scope.sectionFilters fs held).admitted)=true
  · rw [if_pos admitted] at picked
    cases picked
    have both : _ ∧ _ := Bool.and_eq_true_iff.mp admitted
    refine (bind_of_ok (evaluateCourse fs th _ vt)).trans
      ((bind_of_ok (reads.sectionItem fs h)).trans
      ((bind_of_ok (ensure_pos both _)).trans ((bind_of_ok (ensure_pos rfl _)).trans ?_)))
    exact bind_of_ok (Scope.sound_overall fs th vt held).intoExplanation
  · rw [if_neg admitted] at picked
    exact nomatch picked

theorem authoritativeCodes :
    eng.authoritativeCodes fs=.ok (scope.authoritativeCodes fs) := by
  have chosen : scope.groups.filter (fun group => eng.targetIsActive group.key.target &&
      (fs.campuses.isEmpty || fs.campuses.contains group.key.campus))=
      scope.groups.filter (fun group =>
        fs.campuses.isEmpty || fs.campuses.contains group.key.campus) := by
    apply List.filter_congr
    intro group listed
    rw [reads.active.mpr (Scope.group_target listed),Bool.true_and]
  have variants : (scope.groups.filter (fun group =>
      fs.campuses.isEmpty || fs.campuses.contains group.key.campus)).mapM (fun group =>
        eng.corpus.variantsFor group)=.ok _ :=
    mapM_ok_map (fun group listed => reads.variantsFor group (List.mem_of_mem_filter listed))
  unfold QueryEngine.authoritativeCodes
  rw [reads.groups,chosen]
  refine (bind_of_ok variants).trans ?_
  rfl

theorem validateFilters :
    eng.validateFilters fs=(scope.validateFilters fs).mapError .refused := by
  unfold QueryEngine.validateFilters Scope.validateFilters
  rw [mapError_bind,mapError_ensure,reads.term]
  by_cases none : fs.core.codes=[]
  · rw [none]
    rfl
  rw [if_neg (by simp [none]),bind_of_ok (reads.authoritativeCodes fs)]
  cases (tokenValues fs.core.codes).find? (fun code =>
    !(scope.authoritativeCodes fs).contains code) <;> rfl

theorem checkTextPlan (query : FilterSearchTextV1) (plan : TextHitPlan)
    (asked : fs.text=some query) :
    eng.checkTextPlan query plan=
      (scope.validateTextPlan fs (some plan)).mapError .refused := by
  have expected : eng.activeTargets.mapM (fun t => do
      let version ← required eng.corpus.targetVersions[t]? Abort.panicked
      pure (t,version))=.ok (scope.targets.map (fun t => (t,scope.version t))) := by
    rw [reads.targets]
    apply mapM_ok_map
    intro t listed
    rw [reads.versions t listed]
    rfl
  have hits : (∀key∈plan.hits.keys,eng.targetIsActive key.group.target=true ∧
      (eng.corpus.variant key).isSome=true) ↔
      ∀key∈plan.hits.keys,key.group.target∈scope.targets ∧
        (variantAt scope.catalogs key).isSome=true := by
    refine forall₂_congr (fun key _ => ?_)
    rw [reads.active]
    refine and_congr_right (fun active => ?_)
    rw [reads.variant key active]
  unfold QueryEngine.checkTextPlan Scope.validateTextPlan
  rw [asked]
  simp only [mapError_bind,mapError_ensure,bind_of_ok expected,hits]

theorem validateTextPlan : eng.validateTextPlan fs th=
    (scope.validateTextPlan fs th).mapError .refused := by
  unfold QueryEngine.validateTextPlan
  cases asked : fs.text with
  | none => cases th <;> simp only [Scope.validateTextPlan,asked] <;> rfl
  | some query =>
    cases th with
    | none =>
      simp only [Scope.validateTextPlan,asked]
      rfl
    | some plan => exact reads.checkTextPlan fs query plan asked

omit reads in
theorem mem_paginate {T : Type} {values : List T} {request : PageRequestV1} {value : T}
    (h : value∈(paginate values request).2) : value∈values :=
  List.mem_of_mem_drop (List.mem_of_mem_take h)

theorem courseSearch (request : CourseQueryRequestV1) (th : Option TextHitPlan) :
    eng.courseSearch request th=
      (scope.courseSearch request th).mapError .refused := by
  have candidates : scope.groups.mapM (eng.courseCandidate request.filters th)=.ok
      (scope.groups.map (fun group => if decide
        ((scope.groupEvaluation request.filters th group).outcome≠.noMatch) then
          some (scope.courseCandidate request.filters th group) else none)) :=
    mapM_ok_map (fun group listed => by
      rw [reads.courseCandidate request.filters th listed]
      simp only [decide_eq_true_eq])
  unfold QueryEngine.courseSearch Scope.courseSearch
  rw [mapError_bind,reads.validateFilters]
  congr 1
  funext _
  rw [mapError_bind,reads.validateTextPlan]
  congr 1
  funext _
  rw [reads.groups]
  refine (bind_of_ok candidates).trans ?_
  rw [reduceOption_chosen]
  refine bind_of_ok (mapM_ok_map (g := scope.courseItem request.filters th ∘ CourseCandidate.group)
    (fun cand listed => ?_))
  obtain ⟨group,returned,rfl⟩ :=
    List.mem_map.mp ((List.mem_insertionSort _).mp (mem_paginate listed))
  exact reads.materializeCourseCandidate request.filters th (List.mem_of_mem_filter returned)

theorem sectionSearch (request : SectionQueryRequestV1) (th : Option TextHitPlan) :
    eng.sectionSearch request th=
      (scope.sectionSearch request th).mapError .refused := by
  have candidates : scope.sections.mapM (eng.sectionCandidate request.filters th)=.ok
      (scope.sections.map (scope.sectionCandidate request.filters th)) :=
    mapM_ok_map (fun held listed => reads.sectionCandidate request.filters th listed)
  unfold QueryEngine.sectionSearch Scope.sectionSearch
  rw [mapError_bind,reads.validateFilters]
  congr 1
  funext _
  rw [mapError_bind,reads.validateTextPlan]
  congr 1
  funext _
  rw [reads.sections]
  refine (bind_of_ok candidates).trans ?_
  rw [List.reduceOption,List.filterMap_map]
  refine bind_of_ok (mapM_ok_map (g := scope.sectionSearchItem request.filters th)
    (fun cand listed => ?_))
  obtain ⟨held,inside,chosen⟩ :=
    List.mem_filterMap.mp ((List.mem_insertionSort _).mp (mem_paginate listed))
  exact reads.materializeSectionCandidate request.filters th inside chosen

theorem courseDetail (key : CourseGroupKey) :
    eng.courseDetail key=(scope.courseDetail key).mapError .refused := by
  unfold QueryEngine.courseDetail Scope.courseDetail
  by_cases active : key.target∈scope.targets
  · rw [ensure_pos (reads.active.mpr active),mapError_bind,reads.group key active]
    refine (bind_of_ok rfl).trans ?_
    cases found : groupAt scope.catalogs key with
    | none => rfl
    | some group =>
      obtain ⟨cat,listed,_,held,_⟩ := entityAt_some found
      have known : group∈scope.groups := Scope.mem_groups.mpr ⟨cat,listed,held⟩
      have items : (scope.variantsFor group).mapM (fun vt => do
          let secs ← eng.corpus.sectionsFor vt
          let secs ← secs.mapM eng.unfilteredSectionItem
          pure (⟨vt,PredicateEvaluation.matched.explanation,[],none,secs⟩ :
            CourseVariantQueryItemV1))=.ok _ :=
        mapM_ok_map (fun vt listed => by
          have held := (Scope.mem_variantsFor known listed).1
          have secs : (scope.sectionsFor vt).mapM eng.unfilteredSectionItem=.ok _ :=
            mapM_ok_map (fun held' listed' =>
              reads.unfilteredSectionItem (Scope.mem_sectionsFor held listed').1)
          rw [bind_of_ok (reads.sectionsFor vt held),bind_of_ok secs]
          rfl)
      exact (bind_of_ok (reads.variantsFor group known)).trans (bind_of_ok items)
  · rw [ensure_neg (mt reads.active.mp active),groupAt,Scope.entityAt_outside active]
    rfl

theorem sectionDetail (key : SectionKey) :
    eng.sectionDetail key=(scope.sectionDetail key).mapError .refused := by
  unfold QueryEngine.sectionDetail Scope.sectionDetail
  by_cases active : key.target∈scope.targets
  · rw [ensure_pos (reads.active.mpr active),mapError_bind,reads.section key active]
    refine (bind_of_ok rfl).trans ?_
    cases found : sectionAt scope.catalogs key with
    | none => rfl
    | some held =>
      obtain ⟨cat,listed,_,inside,_⟩ := entityAt_some found
      have known : held∈scope.sections := Scope.mem_sections.mpr ⟨cat,listed,inside⟩
      obtain ⟨vt,there,_⟩ := Scope.variantAt_section known
      have resolved : required (eng.corpus.variant held.variantKey) Abort.panicked=.ok vt := by
        rw [reads.variant _ (Scope.variant_target known),there]
        rfl
      refine (bind_of_ok resolved).trans ((bind_of_ok (reads.unfilteredSectionItem known)).trans ?_)
      change _=(required (variantAt scope.catalogs held.variantKey) QueryError.sectionNotFound >>=
        _).mapError _
      rw [there]
      rfl
  · rw [ensure_neg (mt reads.active.mp active),sectionAt,Scope.entityAt_outside active]
    rfl

end QueryEngine.Reads

end CoursePlanner.Query
