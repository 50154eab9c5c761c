import CoursePlanner.Query.Refinement

namespace CoursePlanner.Query

open Std Library Contracts

section Orders

theorem lexicographic {first : Ordering} (h : first=.lt) (rest : Ordering) :
    first.then rest=.lt := by
  rw [h]
  rfl

theorem map_keyOrder {K V : Type} [Ord K] (key : V → K) (entries : List V) :
    (keyOrder key entries).map entries.get=sortByKey key entries := by
  have moved := List.map_insertionSort
    (fun left right => (compare (key (entries.get left)) (key (entries.get right))).isLE=true)
    (fun left right => (compare (key left) (key right)).isLE=true) entries.get
    (List.finRange entries.length) (fun _ _ _ _ => Iff.rfl)
  have positions : (List.finRange entries.length).map entries.get=entries := by simp
  rw [positions] at moved
  exact moved

end Orders

namespace Accepted

variable {catalogs : List NormalizedCatalogV1}

theorem nodup_entities {K V : Type} {es : NormalizedCatalogV1 → List V} {key : V → K}
    {t : K → TermCampusKey} (dist : (catalogs.map NormalizedCatalogV1.target).Nodup)
    (here : ∀catalog∈catalogs,∀v∈es catalog,t (key v)=catalog.target)
    (own : ∀catalog∈catalogs,((es catalog).map key).Nodup) :
    ((catalogs.flatMap es).map key).Nodup := by
  rw [List.map_flatMap,List.nodup_flatMap]
  refine ⟨own,?_⟩
  refine (List.pairwise_map.mp dist).imp_of_mem ?_
  intro left right hl hr apart k inLeft inRight
  obtain ⟨v,held,rfl⟩ := List.mem_map.mp inLeft
  obtain ⟨w,held',same⟩ := List.mem_map.mp inRight
  exact apart (by rw [← here left hl v held,← here right hr w held',same])

variable (h : Accepted catalogs)

include h

theorem sorted_groups : KeySorted NormalizedCourseGroupV1.key (sortByKey NormalizedCourseGroupV1.key
      (catalogs.flatMap NormalizedCatalogV1.courseGroups)) :=
  keySorted_sortByKey (nodup_entities h.distinct
    (fun catalog listed => (h.wellFormed catalog listed).groups)
    (fun catalog listed => (h.wellFormed catalog listed).distinctGroups))

theorem sorted_sections : KeySorted NormalizedSectionV1.key
    (sortByKey NormalizedSectionV1.key (catalogs.flatMap NormalizedCatalogV1.sections)) :=
  keySorted_sortByKey (nodup_entities h.distinct
    (fun catalog listed held inside => ((h.wellFormed catalog listed).sections held inside).1)
    (fun catalog listed => (h.wellFormed catalog listed).distinctSections))

end Accepted

def selected (catalogs : List NormalizedCatalogV1) (active : List TermCampusKey) :
    List NormalizedCatalogV1 :=
  catalogs.filter (fun catalog => active.contains catalog.target)

section Selected

variable {catalogs : List NormalizedCatalogV1} {active : List TermCampusKey}

theorem mem_selected {catalog : NormalizedCatalogV1} :
    catalog∈selected catalogs active ↔ catalog∈catalogs ∧ catalog.target∈active := by
  unfold selected
  rw [List.mem_filter,List.contains_iff_mem]

theorem catalogAt_selected {target : TermCampusKey} (h : target∈active) :
    catalogAt (selected catalogs active) target=catalogAt catalogs target := by
  unfold catalogAt selected
  rw [findKey_filter (fun target => active.contains target),if_pos (List.contains_iff_mem.mpr h)]

theorem entityAt_selected {K V : Type} [DecidableEq K] {es : NormalizedCatalogV1 → List V}
    {key : V → K} {t : K → TermCampusKey} {k : K} (h : t k∈active) :
    entityAt es key t (selected catalogs active) k= entityAt es key t catalogs k := by
  unfold entityAt
  rw [catalogAt_selected h]

theorem Accepted.selected (h : Accepted catalogs) (nonempty : active≠[])
    (known : ∀t∈active,t∈catalogs.map NormalizedCatalogV1.target) :
    Accepted (selected catalogs active) := by
  obtain ⟨t,listed⟩ := List.exists_mem_of_ne_nil active nonempty
  obtain ⟨catalog,there,same⟩ := List.mem_map.mp (known t listed)
  exact h.filter _ ⟨catalog,there,List.contains_iff_mem.mpr (same ▸ listed)⟩

end Selected

def QueryEngine.scope (engine : QueryEngine) (catalogs : List NormalizedCatalogV1)
    (accepted : Accepted catalogs) : Scope where
  catalogs := catalogs
  accepted := accepted
  now := engine.now
  openFor := engine.openFor
  openStateFor := engine.openStateFor

theorem Scope.version_of {scope : Scope} {t : TermCampusKey} (h : t∈scope.targets) :
    (catalogAt scope.catalogs t).map NormalizedCatalogV1.contentVersion=
      some (scope.version t) := by
  obtain ⟨catalog,found⟩ := Option.ne_none_iff_exists'.mp (catalogAt_target h)
  unfold Scope.version
  rw [found]
  rfl

namespace CatalogCorpus.Holds

variable {corpus : CatalogCorpus} {catalogs : List NormalizedCatalogV1}

theorem perm {others : List NormalizedCatalogV1} (holds : corpus.Holds catalogs)
    (dist : (catalogs.map NormalizedCatalogV1.target).Nodup) (perm : catalogs.Perm others) :
    corpus.Holds others where
  targetVersions target := by
    rw [holds.targetVersions,catalogAt,catalogAt,findKey_perm dist perm]
  groups key := (holds.groups key).trans (entityAt_perm dist perm key)
  variants key := (holds.variants key).trans (entityAt_perm dist perm key)
  sections key := (holds.sections key).trans (entityAt_perm dist perm key)
  occurrences key := (holds.occurrences key).trans (entityAt_perm dist perm key)

/-- An engine with its own corpus reads the snapshots of that corpus. -/
theorem reads (holds : corpus.Holds catalogs) (accepted : Accepted catalogs)
    (oneTerm : ∀catalog∈catalogs,catalog.target.term=corpus.term) {engine : QueryEngine}
    (isBuilt : engine.corpus=.built corpus)
    (active : engine.activeTargets=corpus.targetVersions.keys) :
    engine.Reads (engine.scope catalogs accepted) := by
  have known := @Scope.mem_targets (engine.scope catalogs accepted)
  obtain ⟨_,_,_,_,_⟩ := engine
  subst isBuilt active
  have placed : ∀catalog∈catalogs,Placed catalog :=
    fun catalog listed => (accepted.wellFormed catalog listed).toPlaced
  exact {
    term := by
      exact (oneTerm _ (List.head_mem accepted.nonempty)).symm
    targets := by
      apply (keySorted_keys corpus.targetVersions).unique (keySorted_toList _)
      intro target
      rw [ExtTreeMap.mem_keys,holds.mem_targetVersions,List.mem_map]
      exact known.symm
    versions := by
      intro target known
      exact (holds.targetVersions target).trans (Scope.version_of known)
    groups := by
      apply (keySorted_orderedValues _).unique accepted.sorted_groups
      · intro group
        rw [holds.mem_groups accepted.distinct placed,mem_sortByKey,List.mem_flatMap]
      · intro key group found
        rw [holds.groups] at found
        exact (entityAt_some found).choose_spec.2.2.2
    sections := by
      apply (keySorted_orderedValues _).unique accepted.sorted_sections
      · intro held
        rw [holds.mem_sections accepted.distinct placed,mem_sortByKey,List.mem_flatMap]
      · intro key held found
        rw [holds.sections] at found
        exact (entityAt_some found).choose_spec.2.2.2
    group := by
      intro key _
      exact holds.groups key
    variant := by
      intro key _
      exact holds.variants key
    «section» := by
      intro key _
      exact holds.sections key
    variantsFor := by
      intro group known
      refine mapM_required (fun key listed => ?_)
      obtain ⟨variant,found,_⟩ := Scope.variantAt_listed known listed
      exact ⟨variant,found,(holds.variants key).trans found⟩
    sectionsFor := by
      intro variant known
      refine mapM_required (fun key listed => ?_)
      obtain ⟨held,found,_⟩ := Scope.sectionAt_listed known listed
      exact ⟨held,found,(holds.sections key).trans found⟩
    occurrences := by
      intro held known
      change corpus.knownOccurrencesFor held=_
      unfold CatalogCorpus.knownOccurrencesFor Scope.occurrencesFor
      cases stated : held.occurrenceKeys.knownValue with
      | none => rfl
      | some keys =>
        refine bind_of_ok (mapM_required (fun key listed => ?_))
        obtain ⟨occurrence,found,_⟩ := Scope.occurrenceAt_listed known stated listed
        exact ⟨occurrence,found,(holds.occurrences key).trans found⟩
    now := rfl
    openFor := fun _ _ => rfl
    openStateFor := fun _ _ => rfl }

end CatalogCorpus.Holds

namespace PreparedTargetIndex

def orderedGroups (index : PreparedTargetIndex) : List NormalizedCourseGroupV1 :=
  index.groupOrder.map index.catalog.courseGroups.get

def orderedSections (index : PreparedTargetIndex) : List NormalizedSectionV1 :=
  index.sectionOrder.map index.catalog.sections.get

theorem lookup_new {K V : Type} [DecidableEq K] (key : V → K) (entries : List V)
    (hash : K → Nat) (k : K) :
    (lookupIndex (buildIndex (fun i => key (entries.get i)) hash)
      (fun i => key (entries.get i)) hash k).map entries.get=findKey key entries k := by
  rw [lookupIndex_buildIndex,findKey_positions]

end PreparedTargetIndex

namespace PreparedCatalogCorpus

structure Holds (corpus : PreparedCatalogCorpus) (catalogs : List NormalizedCatalogV1) : Prop where
  targetVersions : ∀target : TermCampusKey,corpus.targetVersions[target]?=
    (catalogAt catalogs target).map NormalizedCatalogV1.contentVersion
  targets : ∀target : TermCampusKey,corpus.targets[target]?=
    (catalogAt catalogs target).map (PreparedTargetIndex.new corpus.hashes)

theorem tryNew_ok {hashes : KeyHashes} {catalogs : List NormalizedCatalogV1}
    {corpus : PreparedCatalogCorpus} (h : tryNew hashes catalogs=.ok corpus) :
    Accepted catalogs ∧ corpus.Holds catalogs ∧
      ∀catalog∈catalogs,catalog.target.term=corpus.term := by
  obtain ⟨validated,made,h⟩ := bind_ok.mp h
  cases pure_ok.mp h
  obtain ⟨accepted,_,term⟩ := CatalogCorpus.tryNewFromRefs_ok made
  refine ⟨accepted,⟨fun t => ?_,fun t => ?_⟩,term⟩
  · rw [getElem?_foldl_insert NormalizedCatalogV1.contentVersion accepted.distinct]
    simp [catalogAt]
  · rw [getElem?_foldl_insert (PreparedTargetIndex.new hashes) accepted.distinct]
    simp [catalogAt]

namespace Holds

variable {corpus : PreparedCatalogCorpus} {catalogs : List NormalizedCatalogV1}
  (holds : corpus.Holds catalogs)

include holds

theorem indexed {V K : Type} [DecidableEq K] (t : K → TermCampusKey)
    {es : NormalizedCatalogV1 → List V} {key : V → K} {find : PreparedTargetIndex → K → Option V}
    (found : ∀catalog k,find (PreparedTargetIndex.new corpus.hashes catalog) k=
      findKey key (es catalog) k) (k : K) :
    corpus.targets[t k]?.bind (fun index => find index k)= entityAt es key t catalogs k := by
  rw [holds.targets,entityAt]
  cases catalogAt catalogs (t k) with
  | none => rfl
  | some catalog => exact found catalog k

theorem group (key : CourseGroupKey) : corpus.group key=groupAt catalogs key :=
  holds.indexed CourseGroupKey.target (fun _ => PreparedTargetIndex.lookup_new _ _ _) key

theorem variant (key : CourseVariantKey) : corpus.variant key=variantAt catalogs key :=
  holds.indexed variantTarget (fun _ => PreparedTargetIndex.lookup_new _ _ _) key

theorem «section» (key : SectionKey) : corpus.section key=sectionAt catalogs key :=
  holds.indexed SectionKey.target (fun _ => PreparedTargetIndex.lookup_new _ _ _) key

theorem mem_targetVersions (t : TermCampusKey) :
    t∈corpus.targetVersions ↔ t∈catalogs.map NormalizedCatalogV1.target := by
  rw [mem_iff_getElem?_ne_none,holds.targetVersions,Ne,Option.map_eq_none_iff,catalogAt,
    findKey_eq_none,not_not]

/-- The groups or the sections of some targets, in the order of their keys. -/
theorem inTargets {V K : Type} [Ord K] [TransOrd K] [LawfulEqOrd K]
    {entries : NormalizedCatalogV1 → List V} {key : V → K} {target : K → TermCampusKey}
    (distinct : (catalogs.map NormalizedCatalogV1.target).Nodup)
    (lexicographic : ∀a b : K,compare (target a) (target b)=.lt → compare a b=.lt)
    (here : ∀catalog∈catalogs,∀v∈entries catalog,target (key v)=catalog.target)
    (own : ∀catalog∈catalogs,((entries catalog).map key).Nodup)
    (block : PreparedTargetIndex → List V)
    (blocks : ∀catalog,block (PreparedTargetIndex.new corpus.hashes catalog)=
      sortByKey key (entries catalog)) (active : List TermCampusKey)
    (sorted : KeySorted key (sortByKey key ((selected catalogs active).flatMap entries))) :
    (ExtTreeSet.ofList active).toList.flatMap (fun target =>
      (corpus.targets[target]?.map block).getD [])=
        sortByKey key ((selected catalogs active).flatMap entries) := by
  have blockAt (target : TermCampusKey) (v : V) :
      v∈(corpus.targets[target]?.map block).getD [] ↔
        ∃catalog,catalogAt catalogs target=some catalog ∧ v∈entries catalog := by
    rw [holds.targets]
    cases catalogAt catalogs target with
    | none => simp
    | some catalog => simp [blocks,mem_sortByKey]
  refine KeySorted.unique (keySorted_flatMap lexicographic (keySorted_toList _) ?_ ?_) sorted ?_
  · intro target _
    rw [holds.targets]
    cases found : catalogAt catalogs target with
    | none => exact List.Pairwise.nil
    | some catalog =>
      simp only [Option.map_some,blocks]
      exact keySorted_sortByKey (own catalog (findKey_some found).1)
  · intro target _ v held
    obtain ⟨catalog,found,listed⟩ := (blockAt target v).mp held
    obtain ⟨there,rfl⟩ := findKey_some found
    exact here catalog there v listed
  · intro v
    simp only [List.mem_flatMap,blockAt,mem_sortByKey,mem_selected,ExtTreeSet.mem_toList,
      ExtTreeSet.mem_ofList,List.contains_iff_mem]
    constructor
    · rintro ⟨target,listed,catalog,found,held⟩
      obtain ⟨there,rfl⟩ := findKey_some found
      exact ⟨catalog,⟨there,listed⟩,held⟩
    · rintro ⟨catalog,⟨there,listed⟩,held⟩
      exact ⟨_,listed,catalog,(findKey_eq_some distinct).mpr ⟨there,rfl⟩,held⟩

omit holds in
theorem groupsInTargets_eq (targets : List TermCampusKey) : corpus.groupsInTargets targets=
    targets.flatMap (fun t =>
      (corpus.targets[t]?.map PreparedTargetIndex.orderedGroups).getD []) := by
  unfold PreparedCatalogCorpus.groupsInTargets
  congr 1
  funext t
  cases corpus.targets[t]? <;> rfl

omit holds in
theorem sectionsInTargets_eq (targets : List TermCampusKey) : corpus.sectionsInTargets targets=
    targets.flatMap (fun t =>
      (corpus.targets[t]?.map PreparedTargetIndex.orderedSections).getD []) := by
  unfold PreparedCatalogCorpus.sectionsInTargets
  congr 1
  funext t
  cases corpus.targets[t]? <;> rfl

/-- An engine over some targets of a prepared corpus reads the snapshots of those targets. -/
theorem reads (accepted : Accepted catalogs)
    (oneTerm : ∀catalog∈catalogs,catalog.target.term=corpus.term) {engine : QueryEngine}
    {active : List TermCampusKey} (isPrepared : engine.corpus=.prepared corpus)
    (activated : engine.activeTargets=(ExtTreeSet.ofList active).toList)
    (known : ∀target∈active,target∈corpus.targetVersions)
    (chosen : Accepted (selected catalogs active)) :
    engine.Reads (engine.scope (selected catalogs active) chosen) := by
  have placed : ∀catalog∈catalogs,Placed catalog :=
    fun catalog listed => (accepted.wellFormed catalog listed).toPlaced
  have targets (target : TermCampusKey) :
      target∈(engine.scope (selected catalogs active) chosen).targets ↔ target∈active := by
    rw [Scope.mem_targets]
    constructor
    · rintro ⟨catalog,listed,rfl⟩
      exact (mem_selected.mp listed).2
    · intro listed
      obtain ⟨catalog,there,rfl⟩ :=
        List.mem_map.mp ((holds.mem_targetVersions target).mp (known target listed))
      exact ⟨catalog,mem_selected.mpr ⟨there,listed⟩,rfl⟩
  have isActive (target : TermCampusKey) : target∈ExtTreeSet.ofList active ↔ target∈active := by
    rw [ExtTreeSet.mem_ofList,List.contains_iff_mem]
  -- The index of an active target is the one built from its snapshot.
  have indexAt {target : TermCampusKey} (listed : target∈active) :
      ∃catalog,catalogAt (selected catalogs active) target=some catalog ∧
        corpus.targets[target]?=some (PreparedTargetIndex.new corpus.hashes catalog) := by
    obtain ⟨catalog,found⟩ :=
      Option.ne_none_iff_exists'.mp (Scope.catalogAt_target ((targets target).mpr listed))
    refine ⟨catalog,found,?_⟩
    have there : catalogAt catalogs target=some catalog := (catalogAt_selected listed).symm.trans found
    rw [holds.targets,there]
    rfl
  obtain ⟨_,_,_,_,_⟩ := engine
  subst isPrepared activated
  exact {
    term := by
      exact (oneTerm _ (mem_selected.mp (List.head_mem chosen.nonempty)).1).symm
    targets := by
      change (ExtTreeSet.ofList active).toList=_
      apply (keySorted_toList _).unique (keySorted_toList _)
      intro target
      rw [ExtTreeSet.mem_toList,isActive]
      exact (targets target).symm
    versions := by
      intro target listed
      refine (holds.targetVersions target).trans ?_
      rw [← catalogAt_selected ((targets target).mp listed)]
      exact Scope.version_of listed
    groups := by
      change corpus.groupsInTargets _=_
      rw [groupsInTargets_eq]
      exact holds.inTargets accepted.distinct (fun _ _ first => lexicographic first _)
        (fun catalog listed => (placed catalog listed).groups)
        (fun catalog listed => (placed catalog listed).distinctGroups)
        PreparedTargetIndex.orderedGroups (fun catalog => map_keyOrder _ _) active
        chosen.sorted_groups
    sections := by
      change corpus.sectionsInTargets _=_
      rw [sectionsInTargets_eq]
      exact holds.inTargets accepted.distinct (fun _ _ first => lexicographic first _)
        (fun catalog listed held inside => ((placed catalog listed).sections held inside).1)
        (fun catalog listed => (placed catalog listed).distinctSections)
        PreparedTargetIndex.orderedSections (fun catalog => map_keyOrder _ _) active
        chosen.sorted_sections
    group := by
      intro key listed
      exact (holds.group key).trans (entityAt_selected ((targets _).mp listed)).symm
    variant := by
      intro key listed
      have same : variantAt (selected catalogs active) key=variantAt catalogs key :=
        entityAt_selected ((targets _).mp listed)
      exact (holds.variant key).trans same.symm
    «section» := by
      intro key listed
      exact (holds.section key).trans (entityAt_selected ((targets _).mp listed)).symm
    variantsFor := by
      intro group known
      obtain ⟨catalog,found,index⟩ := indexAt ((targets _).mp (Scope.group_target known))
      refine required_bind_ok.mpr ⟨_,index,mapM_required (fun key listed => ?_)⟩
      obtain ⟨variant,there,_,_,ours⟩ := Scope.variantAt_listed known listed
      refine ⟨variant,there,Eq.trans ?_ there⟩
      change _=variantAt (selected catalogs active) key
      rw [variantAt,entityAt,variantTarget,ours,found]
      exact PreparedTargetIndex.lookup_new _ _ _ _
    sectionsFor := by
      intro variant known
      have within : variant.key.group.target∈active := by
        obtain ⟨other,listed,inside⟩ := known
        rw [(chosen.wellFormed other listed).variants variant inside]
        exact (mem_selected.mp listed).2
      obtain ⟨catalog,found,index⟩ := indexAt within
      refine required_bind_ok.mpr ⟨_,index,mapM_required (fun key listed => ?_)⟩
      obtain ⟨held,there,within,named,ours⟩ := Scope.sectionAt_listed known listed
      refine ⟨held,there,Eq.trans ?_ there⟩
      have same : key.target=variant.key.group.target := by
        rw [← named,← ours]
        exact Scope.section_beside_variant within
      change _=sectionAt (selected catalogs active) key
      rw [sectionAt,entityAt,same,found]
      exact PreparedTargetIndex.lookup_new _ _ _ _
    occurrences := by
      intro held known
      obtain ⟨catalog,found,index⟩ := indexAt ((targets _).mp (Scope.section_target known))
      change corpus.knownOccurrencesFor held=_
      unfold PreparedCatalogCorpus.knownOccurrencesFor Scope.occurrencesFor
      rw [index]
      cases stated : held.occurrenceKeys.knownValue with
      | none => rfl
      | some keys =>
        refine bind_of_ok (mapM_required (fun key listed => ?_))
        obtain ⟨occurrence,there,ours⟩ := Scope.occurrenceAt_listed known stated listed
        refine ⟨occurrence,there,Eq.trans ?_ there⟩
        change _=occurrenceAt (selected catalogs active) key
        rw [occurrenceAt,entityAt,occurrenceTarget,ours,found]
        exact PreparedTargetIndex.lookup_new _ _ _ _
    now := rfl
    openFor := fun _ _ => rfl
    openStateFor := fun _ _ => rfl }

end Holds

end PreparedCatalogCorpus

end CoursePlanner.Query
