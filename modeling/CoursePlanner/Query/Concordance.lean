import CoursePlanner.Query.Totality

set_option maxRecDepth 8000

namespace CoursePlanner.Query

open Std Library Contracts

section Outcomes

variable {evs : List PredicateEvaluation}

theorem andAll_noMatch : (andAll evs).outcome=.noMatch ↔ ∃ev∈evs,ev.outcome=.noMatch := by
  rw [← anyOutcome_iff]
  unfold andAll
  split
  · next refused => exact iff_of_true rfl refused
  · next possible =>
    refine iff_of_false ?_ possible
    split <;> exact nofun

theorem andAll_matched : (andAll evs).outcome=.matched ↔ ∀ev∈evs,ev.outcome=.matched := by
  have neither : (∀ev∈evs,ev.outcome=.matched) ↔
      ¬anyOutcome .noMatch evs=true ∧ ¬anyOutcome .uncertain evs=true := by
    rw [anyOutcome_iff,anyOutcome_iff]
    constructor
    · intro h
      constructor
      all_goals
        rintro ⟨ev,listed,out⟩
        rw [h ev listed] at out
        exact nomatch out
    · rintro ⟨possible,certain⟩ ev listed
      cases out : ev.outcome with
      | matched => rfl
      | noMatch => exact absurd ⟨ev,listed,out⟩ possible
      | uncertain => exact absurd ⟨ev,listed,out⟩ certain
  rw [neither]
  unfold andAll
  split
  · next refused => exact iff_of_false nofun (fun h => h.1 refused)
  next possible =>
  split
  · next doubtful => exact iff_of_false nofun (fun h => h.2 doubtful)
  · next certain => exact iff_of_true rfl ⟨possible,certain⟩

theorem andAll_pair_matched {left right : PredicateEvaluation} :
    (andAll [left,right]).outcome=.matched ↔ left.outcome=.matched ∧ right.outcome=.matched := by
  simp [andAll_matched]

theorem orActive_possible (h : ∀ev∈evs,ev.outcome≠.noMatch) : (orActive evs).outcome≠.noMatch := by
  unfold orActive
  split
  · exact nofun
  next unmatched =>
  split
  · exact nofun
  next certain =>
  rw [Bool.or_eq_true,not_or,anyOutcome_iff] at unmatched
  rw [anyOutcome_iff] at certain
  obtain ⟨ev,listed⟩ := List.exists_mem_of_ne_nil evs (by simpa using unmatched.1)
  cases out : ev.outcome with
  | matched => exact absurd ⟨ev,listed,out⟩ unmatched.2
  | uncertain => exact absurd ⟨ev,listed,out⟩ certain
  | noMatch => exact absurd out (h ev listed)

variable {evs : List (FilterFieldId × PredicateEvaluation)}
  {fs : NormalizedFilterValuesV1}

theorem EvaluatedFilters.admitted_possible (h : (EvaluatedFilters.of evs fs).admitted=true) :
    (EvaluatedFilters.of evs fs).evaluation.outcome≠.noMatch := by
  intro refused
  obtain ⟨ev,listed,out⟩ := andAll_noMatch.mp refused
  obtain ⟨en,known,rfl⟩ := List.mem_map.mp listed
  have admitted : admitFilterEvaluation en.1 en.2 fs=true := List.all_eq_true.mp h en known
  unfold admitFilterEvaluation at admitted
  rw [out] at admitted
  exact nomatch admitted

theorem EvaluatedFilters.matched_admitted
    (h : (EvaluatedFilters.of evs fs).evaluation.outcome=.matched) :
    (EvaluatedFilters.of evs fs).admitted=true := by
  refine List.all_eq_true.mpr (fun en listed => ?_)
  have matched := andAll_matched.mp h en.2 (List.mem_map_of_mem listed)
  change admitFilterEvaluation en.1 en.2 fs=true
  unfold admitFilterEvaluation
  rw [matched]

end Outcomes

theorem sectionFilters_inactive {scope : Scope} {fs : NormalizedFilterValuesV1}
    (inactive : sectionFiltersActive fs=false) (held : NormalizedSectionV1) :
    (scope.sectionFilters fs held).evaluation.outcome=.matched := by
  simp only [sectionFiltersActive,Bool.or_eq_false_iff,Bool.not_eq_false',decide_eq_false_iff_not,
    not_not] at inactive
  obtain ⟨⟨⟨⟨⟨⟨⟨⟨indexes,opens⟩,modalities⟩,timings⟩,instructors⟩,windows⟩,places⟩,exams⟩,permission⟩ :=
    inactive
  refine andAll_matched.mpr ?_
  simp [sectionFilterEvaluations,inactiveOrBool,evaluateOpen,evaluateModality,
    evaluateSynchronicity,instructorCollection,evaluateAvailability,evaluateMeetingLocation,
    evaluateExam,evaluatePermission,tokenValues,indexes,opens,modalities,timings,instructors,
    windows,places,exams,permission,PredicateEvaluation.matched]

section Pages

variable {Item T : Type} (search : PageRequestV1 → Except Abort (Page Item)) (size : Nat)
  (valid : 0 < size ∧ size ≤ maxPageSize)

/-- All pages of a search, as many as the first one says there are. -/
def allPages : Except Abort (List Item) := do
  let first ← search ⟨1,size,Nat.one_pos,valid⟩
  let pages ← (List.range first.page.totalPages).mapM (fun n => search ⟨n+1,size,n.succ_pos,valid⟩)
  pure (pages.flatMap Page.items)

theorem flatMap_chunks (values : List T) (size pages : Nat) :
    (List.range pages).flatMap (fun n => (values.drop (n*size)).take size)=
      values.take (pages*size) := by
  induction pages with
  | zero => simp
  | succ pages ih =>
    rw [List.range_succ,List.flatMap_append,ih,Nat.succ_mul,List.take_add]
    simp

theorem length_le_pages (values : List T) (page : PageRequestV1) :
    values.length ≤ (paginate values page).1.totalPages*page.pageSize := by
  have positive := page.valid.2.1
  change values.length ≤ (if values.length=0 then 0
    else (values.length+page.pageSize-1)/page.pageSize)*page.pageSize
  split
  · omega
  · have above := Nat.lt_mul_div_succ (values.length+page.pageSize-1) positive
    rw [Nat.mul_succ,Nat.mul_comm] at above
    omega

variable {search size valid}

/-- A search that checks its filters and its plan and then paginates. -/
theorem allPages_of {values : List T} {f : T → Item} (filters plan : Except QueryError Unit)
    (h : ∀page,search page=(do
      filters
      plan
      pure ⟨(paginate values page).1,(paginate values page).2.map f⟩ : Except _ _).mapError .refused)
    {items : List Item} (found : allPages search size valid=.ok items) : items=values.map f := by
  let first : PageRequestV1 := ⟨1,size,Nat.one_pos,valid⟩
  obtain ⟨response,read,_⟩ := bind_ok.mp found
  rw [h] at read
  obtain ⟨⟨⟩,filtersOk,read⟩ := bind_ok.mp (mapError_ok read)
  obtain ⟨⟨⟩,planOk,_⟩ := bind_ok.mp read
  rw [filtersOk,planOk] at h
  have pages := mapM_ok_map (l := List.range (paginate values first).1.totalPages)
    (fun n _ => h ⟨n+1,size,n.succ_pos,valid⟩)
  refine Except.ok.inj (found.symm.trans ((bind_of_ok (h first)).trans ((bind_of_ok pages).trans ?_)))
  have chunks := flatMap_chunks values size (paginate values first).1.totalPages
  rw [List.take_of_length_le (length_le_pages values first)] at chunks
  have whole : ((List.range (paginate values first).1.totalPages).map (fun n =>
      Page.mk (paginate values ⟨n+1,size,n.succ_pos,valid⟩).1
        ((paginate values ⟨n+1,size,n.succ_pos,valid⟩).2.map f))).flatMap Page.items=
      ((List.range (paginate values first).1.totalPages).flatMap (fun n =>
        (values.drop (n*size)).take size)).map f := by
    rw [List.flatMap_map,List.map_flatMap]
    rfl
  rw [whole,chunks]
  rfl

end Pages

/-- A page request for one of the searches, of which only the order is used. -/
def firstPage : PageRequestV1 := ⟨1,1,Nat.one_pos,by decide⟩

namespace Scope

variable (scope : Scope) (filters : NormalizedFilterValuesV1) (textHits : Option TextHitPlan)

def sortedGroups (field : CourseSortFieldV1) (direction : SortDirectionV1) : List CourseCandidate :=
  ((scope.returnedGroups filters textHits).map (scope.courseCandidate filters textHits)).insertionSort
    (fun left right => (compareCourse ⟨filters,firstPage,field,direction⟩ left right).isLE)

def sortedSections (field : SectionSortFieldV1) (direction : SortDirectionV1) :
    List SectionCandidate :=
  (scope.sectionCandidates filters textHits).insertionSort (fun left right =>
    (compareSection ⟨filters,firstPage,field,direction⟩ left right).isLE)

end Scope

section Whole

variable {engine : QueryEngine} {scope : Scope} (reads : engine.Reads scope)
  {fs : NormalizedFilterValuesV1} {textHits hits : Option TextHitPlan} {size : Nat}
  {valid : 0 < size ∧ size ≤ maxPageSize} {direction : SortDirectionV1}

include reads

/-- All pages of a course search hold the returned groups in their order, each once. -/
theorem allPages_courses {field : CourseSortFieldV1} {courses : List CourseQueryItemV1}
    (h : allPages (fun page => engine.courseSearch ⟨fs,page,field,direction⟩ hits) size
      valid=.ok courses) :
    courses=(scope.sortedGroups fs hits field direction).map (fun cand =>
      scope.courseItem fs hits cand.group) :=
  allPages_of (scope.validateFilters fs) (scope.validateTextPlan fs hits)
    (fun page => reads.courseSearch ⟨fs,page,field,direction⟩ hits) h

theorem allPages_sections {field : SectionSortFieldV1} {sections : List SectionSearchItemV1}
    (h : allPages (fun page => engine.sectionSearch ⟨fs,page,field,direction⟩ hits) size
      valid=.ok sections) :
    sections=(scope.sortedSections fs hits field direction).map (scope.sectionSearchItem fs hits) :=
  allPages_of (scope.validateFilters fs) (scope.validateTextPlan fs hits)
    (fun page => reads.sectionSearch ⟨fs,page,field,direction⟩ hits) h

end Whole

namespace Scope

variable {scope : Scope} {fs : NormalizedFilterValuesV1} {textHits hits : Option TextHitPlan}

variable {vt : NormalizedCourseVariantV1} {group : NormalizedCourseGroupV1}

/-- The witness of a variant: without section filters any, with them an admitted section. -/
theorem witness_admitted : (scope.witness fs vt).2=true ↔ sectionFiltersActive fs=false ∨
      ∃held∈scope.sectionsFor vt,(scope.sectionFilters fs held).admitted=true := by
  unfold Scope.witness sectionWitness
  cases sectionFiltersActive fs with
  | false => simp
  | true =>
    rw [if_pos rfl]
    split
    · next none =>
      exact iff_of_false nofun (by simpa using none)
    · next some =>
      exact iff_of_true rfl (by simpa using some)

theorem witness_possible (h : (scope.witness fs vt).2=true) :
    (scope.witness fs vt).1.outcome≠.noMatch := by
  unfold Scope.witness sectionWitness at h ⊢
  cases active : sectionFiltersActive fs with
  | false => exact nofun
  | true =>
    rw [active] at h
    rw [if_pos rfl]
    split
    · next none =>
      rw [if_pos none] at h
      exact nomatch h
    apply orActive_possible
    intro ev listed
    obtain ⟨held,admitted,rfl⟩ := List.mem_map.mp listed
    exact EvaluatedFilters.admitted_possible (List.mem_filter.mp admitted).2

theorem variantEvaluation_possible (h : scope.admits fs hits vt=true) :
    (scope.variantEvaluation fs hits vt).outcome≠.noMatch := by
  obtain ⟨course,witness⟩ := Bool.and_eq_true_iff.mp h
  intro refused
  obtain ⟨ev,listed,out⟩ := andAll_noMatch.mp refused
  rcases List.mem_cons.mp listed with rfl | rest
  · exact EvaluatedFilters.admitted_possible course out
  · rw [List.mem_singleton] at rest
    exact witness_possible witness (rest ▸ out)

/-- A group is returned exactly if one of its variants is admitted. -/
theorem mem_returnedGroups : group∈scope.returnedGroups fs hits ↔ group∈scope.groups ∧
      ∃vt∈scope.variantsFor group,scope.admits fs hits vt=true := by
  unfold Scope.returnedGroups
  rw [List.mem_filter,decide_eq_true_eq]
  refine and_congr_right (fun _ => ?_)
  have admitted : (∃vt∈scope.variantsFor group,scope.admits fs hits vt=true) ↔
      scope.admittedVariants fs hits group≠[] := by
    unfold Scope.admittedVariants
    simp
  rw [admitted]
  unfold Scope.groupEvaluation orNonempty
  split
  · next none =>
    rw [List.isEmpty_iff,List.map_eq_nil_iff] at none
    exact iff_of_false (fun possible => possible rfl) (fun some => some none)
  next some =>
  rw [List.isEmpty_iff,List.map_eq_nil_iff] at some
  refine iff_of_true ?_ some
  apply orActive_possible
  intro ev listed
  obtain ⟨vt,known,rfl⟩ := List.mem_map.mp listed
  exact variantEvaluation_possible (List.mem_filter.mp known).2

def pairItem (scope : Scope) (filters : NormalizedFilterValuesV1) (textHits : Option TextHitPlan)
    (pair : NormalizedCourseVariantV1 × NormalizedSectionV1) : SectionSearchItemV1 where
  variant := pair.1
  «section» := scope.returnedSection filters textHits pair.1 pair.2
  courseFilterMatches := (courseFilters filters textHits pair.1.key.group pair.1).filterMatches
  textMatch := textMatch filters textHits pair.1

def listedPairs (scope : Scope) (filters : NormalizedFilterValuesV1)
    (textHits : Option TextHitPlan) : List (NormalizedCourseVariantV1 × NormalizedSectionV1) :=
  (scope.returnedGroups filters textHits).flatMap (fun group =>
    (scope.admittedVariants filters textHits group).flatMap (fun variant =>
      (scope.returnedSections filters variant).map (fun held => (variant,held))))

def foundPairs (scope : Scope) (filters : NormalizedFilterValuesV1)
    (textHits : Option TextHitPlan) : List (NormalizedCourseVariantV1 × NormalizedSectionV1) :=
  (scope.sectionCandidates filters textHits).map (fun candidate =>
    (candidate.variant,candidate.section))

theorem map_key_variantsFor (h : group∈scope.groups) :
    (scope.variantsFor group).map NormalizedCourseVariantV1.key=group.variantKeys := by
  unfold Scope.variantsFor
  rw [List.map_filterMap]
  refine (List.filterMap_congr (g := some) (fun key listed => ?_)).trans List.filterMap_some
  obtain ⟨vt,found,_,named,_⟩ := variantAt_listed h listed
  rw [found]
  exact congrArg some named

theorem map_key_sectionsFor (h : scope.HasVariant vt) :
    (scope.sectionsFor vt).map NormalizedSectionV1.key=vt.sectionKeys := by
  unfold Scope.sectionsFor
  rw [List.map_filterMap]
  refine (List.filterMap_congr (g := some) (fun key listed => ?_)).trans List.filterMap_some
  obtain ⟨held,found,_,named,_⟩ := sectionAt_listed h listed
  rw [found]
  exact congrArg some named

theorem group_of_variant (h : scope.HasVariant vt) :
    ∃group∈scope.groups,vt∈scope.variantsFor group ∧ group.key=vt.key.group := by
  obtain ⟨cat,listed,inside⟩ := h
  have formed := scope.accepted.wellFormed cat listed
  obtain ⟨⟨group,there,same,named⟩,_⟩ := formed.variantLinks vt inside
  refine ⟨group,mem_groups.mpr ⟨cat,listed,there⟩,?_,same⟩
  exact List.mem_filterMap.mpr ⟨vt.key,named,variantAt_has ⟨cat,listed,inside⟩⟩

variable {pair : NormalizedCourseVariantV1 × NormalizedSectionV1}

theorem mem_foundPairs : pair∈scope.foundPairs fs hits ↔ pair.2∈scope.sections ∧
      variantAt scope.catalogs pair.2.variantKey=some pair.1 ∧
      (courseFilters fs hits pair.1.key.group pair.1).admitted=true ∧
      (scope.sectionFilters fs pair.2).admitted=true := by
  obtain ⟨vt,held⟩ := pair
  unfold Scope.foundPairs Scope.sectionCandidates
  rw [List.mem_map]
  constructor
  · rintro ⟨cand,listed,same⟩
    obtain ⟨other,inside,chosen⟩ := List.mem_filterMap.mp listed
    obtain ⟨found,there,picked⟩ := Option.bind_eq_some_iff.mp chosen
    split at picked
    · next admitted =>
      cases picked
      cases same
      exact ⟨inside,there,Bool.and_eq_true_iff.mp admitted⟩
    · exact nomatch picked
  · rintro ⟨inside,there,admitted⟩
    refine ⟨_,List.mem_filterMap.mpr ⟨held,inside,Option.bind_eq_some_iff.mpr ⟨vt,there,
      if_pos (Bool.and_eq_true_iff.mpr admitted)⟩⟩,rfl⟩

theorem mem_listedPairs : pair∈scope.listedPairs fs hits ↔ ∃group∈scope.returnedGroups fs hits,
      pair.1∈scope.admittedVariants fs hits group ∧ pair.2∈scope.returnedSections fs pair.1 := by
  obtain ⟨vt,held⟩ := pair
  unfold Scope.listedPairs
  simp only [List.mem_flatMap,List.mem_map,Prod.mk.injEq]
  refine exists_congr (fun group => and_congr_right (fun _ => ?_))
  constructor
  · rintro ⟨other,known,held',listed,rfl,rfl⟩
    exact ⟨known,listed⟩
  · rintro ⟨known,listed⟩
    exact ⟨vt,known,held,listed,rfl,rfl⟩

/-- Both searches return the same sections. -/
theorem listed_iff_found :
    pair∈scope.listedPairs fs textHits ↔ pair∈scope.foundPairs fs textHits := by
  obtain ⟨vt,held⟩ := pair
  rw [mem_listedPairs,mem_foundPairs]
  constructor
  · rintro ⟨group,returned,known,listed⟩
    obtain ⟨inGroups,_⟩ := mem_returnedGroups.mp returned
    obtain ⟨inGroup,admits⟩ := List.mem_filter.mp known
    obtain ⟨has,_⟩ := mem_variantsFor inGroups inGroup
    obtain ⟨inVariant,shown⟩ := List.mem_filter.mp listed
    obtain ⟨inside,ours⟩ := mem_sectionsFor has inVariant
    refine ⟨inside,ours ▸ variantAt_has has,(Bool.and_eq_true_iff.mp admits).1,?_⟩
    cases active : sectionFiltersActive fs with
    | false => exact EvaluatedFilters.matched_admitted (sectionFilters_inactive active held)
    | true =>
      rw [active] at shown
      exact shown
  · rintro ⟨inside,there,course,admitted⟩
    obtain ⟨other,found,has,named,listed⟩ := variantAt_section inside
    cases there.symm.trans found
    obtain ⟨group,inGroups,inGroup,_⟩ := group_of_variant has
    have inVariant : held∈scope.sectionsFor vt :=
      List.mem_filterMap.mpr ⟨held.key,listed,sectionAt_has inside⟩
    have admits : scope.admits fs textHits vt=true :=
      Bool.and_eq_true_iff.mpr ⟨course,witness_admitted.mpr (.inr ⟨held,inVariant,admitted⟩)⟩
    refine ⟨group,mem_returnedGroups.mpr ⟨inGroups,vt,inGroup,admits⟩,
      List.mem_filter.mpr ⟨inGroup,admits⟩,List.mem_filter.mpr ⟨inVariant,?_⟩⟩
    simp [admitted]

theorem nodup_groups : (scope.groups.map NormalizedCourseGroupV1.key).Nodup :=
  scope.accepted.sorted_groups.nodup_keys

theorem nodup_sections : (scope.sections.map NormalizedSectionV1.key).Nodup :=
  scope.accepted.sorted_sections.nodup_keys

theorem nodup_foundPairs : ((scope.foundPairs fs hits).map (fun pair => pair.2.key)).Nodup := by
  have chosen : (scope.sectionCandidates fs hits).map SectionCandidate.section=
      scope.sections.filter (fun held =>
        (scope.sectionCandidate fs hits held).isSome) := by
    unfold Scope.sectionCandidates
    rw [List.map_filterMap,← List.filterMap_eq_filter]
    apply List.filterMap_congr
    intro held _
    cases picked : scope.sectionCandidate fs hits held with
    | none => simp [Option.guard,picked]
    | some cand =>
      obtain ⟨vt,_,built⟩ := Option.bind_eq_some_iff.mp picked
      split at built
      · cases built
        simp [picked]
      · exact nomatch built
  have keys : (scope.foundPairs fs hits).map (fun pair => pair.2.key)=
      (scope.sections.filter (fun held =>
        (scope.sectionCandidate fs hits held).isSome)).map NormalizedSectionV1.key := by
    rw [← chosen,Scope.foundPairs,List.map_map,List.map_map]
    rfl
  rw [keys]
  exact nodup_sections.sublist (List.filter_sublist.map _)

theorem nodup_listedPairs : ((scope.listedPairs fs hits).map (fun pair => pair.2.key)).Nodup := by
  have keys : (scope.listedPairs fs hits).map (fun pair => pair.2.key)=
      (scope.returnedGroups fs hits).flatMap (fun group =>
        (scope.admittedVariants fs hits group).flatMap (fun vt =>
          (scope.returnedSections fs vt).map NormalizedSectionV1.key)) := by
    simp only [Scope.listedPairs,List.map_flatMap,List.map_map]
    rfl
  -- A listed section names its vt, and through it its group.
  have names {group : NormalizedCourseGroupV1} (returned : group∈scope.returnedGroups fs hits)
      {vt : NormalizedCourseVariantV1}
      (known : vt∈scope.admittedVariants fs hits group) {key : SectionKey}
      (listed : key∈(scope.returnedSections fs vt).map NormalizedSectionV1.key) :
      ∃held,sectionAt scope.catalogs key=some held ∧ held.variantKey=vt.key ∧
        vt.key.group=group.key := by
    obtain ⟨has,ours⟩ := mem_variantsFor (mem_returnedGroups.mp returned).1
      (List.mem_filter.mp known).1
    obtain ⟨held,shown,rfl⟩ := List.mem_map.mp listed
    obtain ⟨inside,beside⟩ := mem_sectionsFor has (List.mem_filter.mp shown).1
    exact ⟨held,sectionAt_has inside,beside,ours⟩
  rw [keys,List.nodup_flatMap]
  constructor
  · intro group returned
    have inGroups := (mem_returnedGroups.mp returned).1
    rw [List.nodup_flatMap]
    constructor
    · intro vt known
      obtain ⟨⟨cat,listed,inside⟩,_⟩ := mem_variantsFor inGroups (List.mem_filter.mp known).1
      have distinct := ((scope.accepted.wellFormed cat listed).variantLinks vt inside).2.1
      rw [← map_key_sectionsFor ⟨cat,listed,inside⟩] at distinct
      exact distinct.sublist (List.filter_sublist.map _)
    · obtain ⟨cat,listed,inside⟩ := mem_groups.mp inGroups
      have distinct := ((scope.accepted.wellFormed cat listed).groupLinks group inside).2.1
      rw [← map_key_variantsFor inGroups] at distinct
      refine (List.pairwise_map.mp (distinct.sublist (List.filter_sublist.map _))).imp_of_mem ?_
      intro left right hl hr apart key inLeft inRight
      obtain ⟨held,found,named,_⟩ := names returned hl inLeft
      obtain ⟨held',found',named',_⟩ := names returned hr inRight
      cases found.symm.trans found'
      exact apart (named.symm.trans named')
  · refine (List.pairwise_map.mp (nodup_groups.sublist (List.filter_sublist.map _))).imp_of_mem ?_
    intro left right hl hr apart key inLeft inRight
    obtain ⟨vt,known,shown⟩ := List.mem_flatMap.mp inLeft
    obtain ⟨variant',known',shown'⟩ := List.mem_flatMap.mp inRight
    obtain ⟨held,found,named,ours⟩ := names hl known shown
    obtain ⟨held',found',named',ours'⟩ := names hr known' shown'
    cases found.symm.trans found'
    exact apart (by rw [← ours,← ours',← named,← named'])

theorem listed_perm_found : (scope.listedPairs fs hits).Perm (scope.foundPairs fs hits) :=
  (List.perm_ext_iff_of_nodup nodup_listedPairs.of_map nodup_foundPairs.of_map).mpr
    (fun _ => listed_iff_found)

theorem groupEvaluation_matched (returned : group∈scope.returnedGroups fs hits) :
    (scope.groupEvaluation fs hits group).outcome=.matched ↔
      ∃vt∈scope.admittedVariants fs hits group,
        (scope.variantEvaluation fs hits vt).outcome=.matched := by
  obtain ⟨_,vt,inGroup,admits⟩ := mem_returnedGroups.mp returned
  have some : (scope.admittedVariants fs hits group).map (scope.variantEvaluation fs hits)≠[] :=
    List.ne_nil_of_mem (List.mem_map_of_mem (List.mem_filter.mpr ⟨inGroup,admits⟩))
  have inhabited : ((scope.admittedVariants fs hits group).map
      (scope.variantEvaluation fs hits)).isEmpty=false := by simpa using some
  unfold Scope.groupEvaluation orNonempty
  rw [inhabited,if_neg Bool.false_ne_true,orActive_matched some]
  simp

/-- Under active section filters a variant matches if a section returned with it does. -/
theorem variantEvaluation_matched (active : sectionFiltersActive fs=true)
    (admits : scope.admits fs hits vt=true) :
    (scope.variantEvaluation fs hits vt).outcome=.matched ↔ ∃held∈scope.returnedSections fs vt,
        (scope.overall fs hits vt held).outcome=.matched := by
  have witness : (scope.witness fs vt).1.outcome=.matched ↔ ∃held∈scope.returnedSections fs vt,
        (scope.sectionFilters fs held).evaluation.outcome=.matched := by
    obtain ⟨held,listed,admitted⟩ :=
      (witness_admitted.mp (Bool.and_eq_true_iff.mp admits).2).resolve_left (by simp [active])
    have some : ((scope.sectionsFor vt).filter (fun held =>
        (scope.sectionFilters fs held).admitted)).map (fun held =>
          (scope.sectionFilters fs held).evaluation)≠[] :=
      List.ne_nil_of_mem (List.mem_map_of_mem (List.mem_filter.mpr ⟨listed,admitted⟩))
    unfold Scope.witness sectionWitness Scope.returnedSections
    rw [active,if_pos rfl,if_neg (by simpa using some),orActive_matched some]
    simp
  unfold Scope.variantEvaluation Scope.overall
  simp only [andAll_pair_matched]
  rw [witness]
  constructor
  · rintro ⟨course,held,listed,matched⟩
    exact ⟨held,listed,course,matched⟩
  · rintro ⟨held,listed,course,matched⟩
    exact ⟨course,held,listed,matched⟩

end Scope

/-- The sections inside the items of a course search, each with its variant. -/
def listedSections (courses : List CourseQueryItemV1) : List SectionSearchItemV1 :=
  courses.flatMap (fun course => course.variants.flatMap (fun variant =>
    variant.sections.map (fun held =>
      ⟨variant.variant,held,variant.filterMatches,variant.textMatch⟩)))

def AdmitsCourse (filters : NormalizedFilterValuesV1) (textHits : Option TextHitPlan)
    (group : NormalizedCourseGroupV1) (variant : NormalizedCourseVariantV1) : Prop :=
  ∃evaluated,evaluateCourseFilterMatches group.key variant filters textHits=.ok evaluated ∧
    evaluated.admitted=true

def QueryEngine.AdmitsSection (engine : QueryEngine) (filters : NormalizedFilterValuesV1)
    (held : NormalizedSectionV1) : Prop :=
  ∃evaluated,engine.sectionEvaluation filters held=.ok evaluated ∧ evaluated.admitted=true

/-- What two searches with the same filters have in common, over all their pages. -/
structure Concordant (engine : QueryEngine) (filters : NormalizedFilterValuesV1)
    (textHits : Option TextHitPlan) (courses : List CourseQueryItemV1)
    (sections : List SectionSearchItemV1) : Prop where
  sameSections : (listedSections courses).Perm sections
  onceEach : ((listedSections courses).map (fun item => item.section.section.key)).Nodup
  known : ∀course∈courses,course.group∈engine.corpus.groups engine.activeTargets
  returned : ∀group∈engine.corpus.groups engine.activeTargets,
    (∃course∈courses,course.group=group) ↔
      ∃variants,engine.corpus.variantsFor group=.ok variants ∧ ∃variant∈variants,
        AdmitsCourse filters textHits group variant ∧
          (sectionFiltersActive filters=false ∨
            ∃listed,engine.corpus.sectionsFor variant=.ok listed ∧
              ∃held∈listed,engine.AdmitsSection filters held)
  outcome : ∀course∈courses,course.explanation.outcome=.matched ↔
    ∃variant∈course.variants,variant.explanation.outcome=.matched
  witnessed : sectionFiltersActive filters=true → ∀course∈courses,
    (course.explanation.outcome=.matched ↔ ∃item∈sections,
      item.variant.key.group=course.group.key ∧ item.section.explanation.outcome=.matched)

/-- A course search and a section search with the same filters return the same sections, with
the same data, and the course search returns exactly the groups it should. -/
theorem searches_agree {catalogs : List NormalizedCatalogV1} {now : OffsetDateTime}
    {«open» : List OpenEvidence} {engine : QueryEngine}
    (made : QueryEngine.tryNewFromRefs catalogs now «open»=.ok engine)
    {filters : NormalizedFilterValuesV1} {textHits : Option TextHitPlan}
    {courseSize sectionSize : Nat} {validCourse : 0 < courseSize ∧ courseSize ≤ maxPageSize}
    {validSection : 0 < sectionSize ∧ sectionSize ≤ maxPageSize}
    {courseField : CourseSortFieldV1} {sectionField : SectionSortFieldV1}
    {courseDirection sectionDirection : SortDirectionV1}
    {courses : List CourseQueryItemV1} {sections : List SectionSearchItemV1}
    (searched : allPages (fun page =>
      engine.courseSearch ⟨filters,page,courseField,courseDirection⟩ textHits) courseSize
        validCourse=.ok courses)
    (found : allPages (fun page =>
      engine.sectionSearch ⟨filters,page,sectionField,sectionDirection⟩ textHits) sectionSize
        validSection=.ok sections) :
    Concordant engine filters textHits courses sections := by
  obtain ⟨accepted,reads⟩ := QueryEngine.tryNewFromRefs_reads made
  generalize engine.scope catalogs accepted=scope at reads
  have coursesPerm : courses.Perm ((scope.returnedGroups filters textHits).map
      (scope.courseItem filters textHits)) := by
    rw [allPages_courses reads searched]
    refine ((List.perm_insertionSort _ _).map _).trans ?_
    rw [List.map_map]
    rfl
  have sectionsPerm : sections.Perm ((scope.sectionCandidates filters textHits).map
      (scope.sectionSearchItem filters textHits)) :=
    allPages_sections reads found ▸ (List.perm_insertionSort _ _).map _
  have listed : listedSections ((scope.returnedGroups filters textHits).map
      (scope.courseItem filters textHits))=
      (scope.listedPairs filters textHits).map (scope.pairItem filters textHits) := by
    simp only [listedSections,Scope.listedPairs,List.flatMap_map,List.map_flatMap,List.map_map,
      Scope.courseItem,Scope.variantItem]
    rfl
  have foundItems : (scope.sectionCandidates filters textHits).map
      (scope.sectionSearchItem filters textHits)=
      (scope.foundPairs filters textHits).map (scope.pairItem filters textHits) := by
    rw [Scope.foundPairs,List.map_map]
    rfl
  have listedPerm : (listedSections courses).Perm
      ((scope.listedPairs filters textHits).map (scope.pairItem filters textHits)) := by
    rw [← listed]
    exact coursesPerm.flatMap_right _
  rw [foundItems] at sectionsPerm
  have ofGroup {course : CourseQueryItemV1} (h : course∈courses) :
      ∃group∈scope.returnedGroups filters textHits,
        scope.courseItem filters textHits group=course :=
    List.mem_map.mp (coursesPerm.mem_iff.mp h)
  refine ⟨?_,?_,?_,?_,?_,?_⟩
  · exact listedPerm.trans ((Scope.listed_perm_found.map _).trans sectionsPerm.symm)
  · have keys := (listedPerm.map (fun item => item.section.section.key)).nodup_iff
    rw [keys,List.map_map]
    exact Scope.nodup_listedPairs
  · intro course h
    obtain ⟨group,returned,rfl⟩ := ofGroup h
    rw [reads.groups]
    exact (Scope.mem_returnedGroups.mp returned).1
  · intro group h
    rw [reads.groups] at h
    have returned : (∃course∈courses,course.group=group) ↔
        group∈scope.returnedGroups filters textHits := by
      constructor
      · rintro ⟨course,listed,rfl⟩
        obtain ⟨group,returned,rfl⟩ := ofGroup listed
        exact returned
      · intro returned
        exact ⟨_,coursesPerm.mem_iff.mpr (List.mem_map_of_mem returned),rfl⟩
    rw [returned,Scope.mem_returnedGroups]
    constructor
    · rintro ⟨_,variant,inGroup,admits⟩
      obtain ⟨has,ours⟩ := Scope.mem_variantsFor h inGroup
      obtain ⟨course,witness⟩ := Bool.and_eq_true_iff.mp admits
      refine ⟨_,reads.variantsFor group h,variant,inGroup,
        ⟨_,QueryEngine.Reads.evaluateCourse filters textHits _ variant,ours ▸ course⟩,?_⟩
      rcases Scope.witness_admitted.mp witness with inactive | ⟨held,listed,admitted⟩
      · exact .inl inactive
      · exact .inr ⟨_,reads.sectionsFor variant has,held,listed,_,
          reads.sectionEvaluation filters (Scope.mem_sectionsFor has listed).1,admitted⟩
    · rintro ⟨variants,resolved,variant,inGroup,⟨evaluated,course,admitted⟩,witness⟩
      cases (reads.variantsFor group h).symm.trans resolved
      obtain ⟨has,ours⟩ := Scope.mem_variantsFor h inGroup
      cases (QueryEngine.Reads.evaluateCourse filters textHits _ variant).symm.trans course
      refine ⟨h,variant,inGroup,Bool.and_eq_true_iff.mpr ⟨ours ▸ admitted,
        Scope.witness_admitted.mpr (witness.imp id ?_)⟩⟩
      rintro ⟨listed,resolved',held,inVariant,evaluated',judged,admitted'⟩
      cases (reads.sectionsFor variant has).symm.trans resolved'
      cases (reads.sectionEvaluation filters (Scope.mem_sectionsFor has inVariant).1).symm.trans
        judged
      exact ⟨held,inVariant,admitted'⟩
  · intro course h
    obtain ⟨group,returned,rfl⟩ := ofGroup h
    refine (Scope.groupEvaluation_matched returned).trans ?_
    simp [Scope.courseItem,Scope.variantItem,PredicateEvaluation.explanation]
  · intro active course h
    obtain ⟨group,returned,rfl⟩ := ofGroup h
    refine (Scope.groupEvaluation_matched returned).trans ?_
    constructor
    · rintro ⟨variant,known,matched⟩
      obtain ⟨inGroup,admits⟩ := List.mem_filter.mp known
      obtain ⟨held,shown,overall⟩ := (Scope.variantEvaluation_matched active admits).mp matched
      have pair : (variant,held)∈scope.listedPairs filters textHits :=
        Scope.mem_listedPairs.mpr ⟨group,returned,known,shown⟩
      refine ⟨scope.pairItem filters textHits (variant,held),
        sectionsPerm.mem_iff.mpr (List.mem_map_of_mem (Scope.listed_iff_found.mp pair)),?_,overall⟩
      exact (Scope.mem_variantsFor (Scope.mem_returnedGroups.mp returned).1 inGroup).2
    · rintro ⟨item,listed,ours,overall⟩
      obtain ⟨⟨variant,held⟩,pair,rfl⟩ := List.mem_map.mp (sectionsPerm.mem_iff.mp listed)
      obtain ⟨other,returned',known,shown⟩ :=
        Scope.mem_listedPairs.mp (Scope.listed_iff_found.mpr pair)
      have inOther := (Scope.mem_returnedGroups.mp returned').1
      have own := (Scope.mem_variantsFor inOther (List.mem_filter.mp known).1).2
      have same : other=group := List.inj_on_of_nodup_map Scope.nodup_groups inOther
        (Scope.mem_returnedGroups.mp returned).1 (own.symm.trans ours)
      subst same
      refine ⟨variant,known,?_⟩
      exact (Scope.variantEvaluation_matched active (List.mem_filter.mp known).2).mpr
        ⟨held,shown,overall⟩

open Sample in
/-- One course, asked for by its instructor. -/
theorem searches_agree_one_course : ∃engine courses sections,
      QueryEngine.tryNewFromRefs [catalog "U" "Ada Byron"] 0 []=.ok engine ∧
      courses.length=1 ∧ sections.length=1 ∧
      Concordant engine (request ⟨"U",by decide⟩ ⟨"ADA BYRON",by decide⟩) none courses sections := by
  have answered : ((QueryEngine.tryNewFromRefs [catalog "U" "Ada Byron"] 0 []).mapError
      Abort.refused >>= fun engine => do
    let courses ← allPages (fun page => engine.courseSearch
      ⟨request ⟨"U",by decide⟩ ⟨"ADA BYRON",by decide⟩,page,.title,.ascending⟩ none) 1 (by decide)
    let sections ← allPages (fun page => engine.sectionSearch
      ⟨request ⟨"U",by decide⟩ ⟨"ADA BYRON",by decide⟩,page,.openStatus,.ascending⟩ none) 1
        (by decide)
    pure (courses.length,sections.length))=.ok (1,1) := by
    decide +kernel
  obtain ⟨engine,made,answered⟩ := bind_ok.mp answered
  obtain ⟨courses,searched,answered⟩ := bind_ok.mp answered
  obtain ⟨sections,found,answered⟩ := bind_ok.mp answered
  obtain ⟨one,also⟩ := Prod.mk.inj (pure_ok.mp answered)
  exact ⟨engine,courses,sections,mapError_ok made,one,also,
    searches_agree (mapError_ok made) searched found⟩

end CoursePlanner.Query
