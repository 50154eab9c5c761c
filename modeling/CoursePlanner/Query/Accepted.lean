import CoursePlanner.Query.Corpus
import CoursePlanner.Library.Keyed

namespace CoursePlanner.Query

open Std Library Contracts

section Entities

def catalogAt (catalogs : List NormalizedCatalogV1) (target : TermCampusKey) :
    Option NormalizedCatalogV1 :=
  findKey NormalizedCatalogV1.target catalogs target

variable {K V : Type} [DecidableEq K] (entries : NormalizedCatalogV1 → List V) (key : V → K)
  (target : K → TermCampusKey)

/-- An entity is looked for in the snapshot of the target that its key names. -/
def entityAt (catalogs : List NormalizedCatalogV1) (k : K) : Option V :=
  (catalogAt catalogs (target k)).bind (fun catalog => findKey key (entries catalog) k)

variable {entries key target} {catalogs others : List NormalizedCatalogV1}
  {catalog : NormalizedCatalogV1} {k : K} {v : V}

theorem catalogAt_listed (distinct : (catalogs.map NormalizedCatalogV1.target).Nodup)
    (listed : catalog∈catalogs) : catalogAt catalogs catalog.target=some catalog :=
  (findKey_eq_some distinct).mpr ⟨listed,rfl⟩

theorem entityAt_here (target : K → TermCampusKey) (distinct : (catalogs.map NormalizedCatalogV1.target).Nodup)
    (listed : catalog∈catalogs) (here : target k=catalog.target) :
    entityAt entries key target catalogs k=findKey key (entries catalog) k := by
  rw [entityAt,here,catalogAt_listed distinct listed]
  rfl

theorem entityAt_some (h : entityAt entries key target catalogs k=some v) :
    ∃catalog∈catalogs,catalog.target=target k ∧ v∈entries catalog ∧ key v=k := by
  obtain ⟨catalog,found,held⟩ := Option.bind_eq_some_iff.mp h
  obtain ⟨listed,here⟩ := findKey_some found
  exact ⟨catalog,listed,here,findKey_some held⟩

theorem entityAt_perm (distinct : (catalogs.map NormalizedCatalogV1.target).Nodup)
    (perm : catalogs.Perm others) (k : K) :
    entityAt entries key target catalogs k=entityAt entries key target others k := by
  unfold entityAt catalogAt
  rw [findKey_perm distinct perm]

theorem entityAt_snoc (fresh : catalog.target∉catalogs.map NormalizedCatalogV1.target)
    (here : ∀v∈entries catalog,target (key v)=catalog.target) (k : K) :
    entityAt entries key target (catalogs++[catalog]) k=
      (findKey key (entries catalog) k).or (entityAt entries key target catalogs k) := by
  unfold entityAt catalogAt
  rw [findKey_append]
  by_cases same : catalog.target=target k
  · have absent : findKey NormalizedCatalogV1.target catalogs (target k)=none :=
      findKey_eq_none.mpr (same ▸ fresh)
    have last : findKey NormalizedCatalogV1.target [catalog] (target k)=some catalog := by
      simp [findKey,same]
    rw [absent,last]
    simp
  · have last : findKey NormalizedCatalogV1.target [catalog] (target k)=none := by
      simp [findKey,same]
    have elsewhere : findKey key (entries catalog) k=none := by
      rw [findKey_eq_none]
      intro listed
      obtain ⟨v,held,named⟩ := List.mem_map.mp listed
      exact same (named ▸ here v held).symm
    rw [last,elsewhere]
    simp

end Entities

section Kinds

variable (catalogs : List NormalizedCatalogV1)

abbrev variantTarget (key : CourseVariantKey) : TermCampusKey := key.group.target
abbrev occurrenceTarget (key : CatalogOccurrenceKeyV1) : TermCampusKey := key.section.target

abbrev groupAt (key : CourseGroupKey) : Option NormalizedCourseGroupV1 :=
  entityAt NormalizedCatalogV1.courseGroups NormalizedCourseGroupV1.key CourseGroupKey.target
    catalogs key

abbrev variantAt (key : CourseVariantKey) : Option NormalizedCourseVariantV1 :=
  entityAt NormalizedCatalogV1.courseVariants NormalizedCourseVariantV1.key variantTarget
    catalogs key

abbrev sectionAt (key : SectionKey) : Option NormalizedSectionV1 :=
  entityAt NormalizedCatalogV1.sections NormalizedSectionV1.key SectionKey.target catalogs key

abbrev occurrenceAt (key : CatalogOccurrenceKeyV1) : Option NormalizedOccurrenceV1 :=
  entityAt NormalizedCatalogV1.occurrences NormalizedOccurrenceV1.key occurrenceTarget catalogs key

end Kinds

/-- Every entity of a snapshot is one of its target, under a key of its own. -/
structure Placed (catalog : NormalizedCatalogV1) : Prop where
  groups : ∀group∈catalog.courseGroups,group.key.target=catalog.target
  variants : ∀variant∈catalog.courseVariants,variant.key.group.target=catalog.target
  sections : ∀held∈catalog.sections,held.key.target=catalog.target ∧
    held.variantKey.group.target=catalog.target
  occurrences : ∀occurrence∈catalog.occurrences,occurrence.key.section.target=catalog.target
  distinctGroups : (catalog.courseGroups.map NormalizedCourseGroupV1.key).Nodup
  distinctVariants : (catalog.courseVariants.map NormalizedCourseVariantV1.key).Nodup
  distinctSections : (catalog.sections.map NormalizedSectionV1.key).Nodup
  distinctOccurrences : (catalog.occurrences.map NormalizedOccurrenceV1.key).Nodup

section Links

variable (catalog : NormalizedCatalogV1)

def GroupLinked (group : NormalizedCourseGroupV1) : Prop :=
  group.variantKeys≠[] ∧ group.variantKeys.Nodup ∧
    ∀key∈group.variantKeys,key.group=group.key ∧
      key∈catalog.courseVariants.map NormalizedCourseVariantV1.key

def VariantLinked (variant : NormalizedCourseVariantV1) : Prop :=
  (∃group∈catalog.courseGroups,group.key=variant.key.group ∧ variant.key∈group.variantKeys) ∧
    variant.sectionKeys.Nodup ∧
    ∀key∈variant.sectionKeys,∃held∈catalog.sections,held.key=key ∧ held.variantKey=variant.key

def SectionLinked (held : NormalizedSectionV1) : Prop :=
  (∃variant∈catalog.courseVariants,variant.key=held.variantKey ∧ held.key∈variant.sectionKeys) ∧
    (held.occurrenceKeys.knownValue.getD []).Nodup ∧
    ∀key∈held.occurrenceKeys.knownValue.getD [],key.section=held.key ∧
      key∈catalog.occurrences.map NormalizedOccurrenceV1.key

def OccurrenceLinked (occurrence : NormalizedOccurrenceV1) : Prop :=
  ∃held∈catalog.sections,held.key=occurrence.key.section ∧
    ∃keys,held.occurrenceKeys.knownValue=some keys ∧ occurrence.key∈keys

end Links

/-- A snapshot whose references stay inside it and go both ways. -/
structure WellFormed (catalog : NormalizedCatalogV1) : Prop extends Placed catalog where
  groupLinks : ∀group∈catalog.courseGroups,GroupLinked catalog group
  variantLinks : ∀variant∈catalog.courseVariants,VariantLinked catalog variant
  sectionLinks : ∀held∈catalog.sections,SectionLinked catalog held
  occurrenceLinks : ∀occurrence∈catalog.occurrences,OccurrenceLinked catalog occurrence

/-- What a corpus asks of its snapshots: nothing of one concerns another but its target. -/
structure Accepted (catalogs : List NormalizedCatalogV1) : Prop where
  nonempty : catalogs≠[]
  oneTerm : ∀left∈catalogs,∀right∈catalogs,left.target.term=right.target.term
  distinct : (catalogs.map NormalizedCatalogV1.target).Nodup
  wellFormed : ∀catalog∈catalogs,WellFormed catalog

theorem Accepted.perm {catalogs others : List NormalizedCatalogV1} (h : Accepted catalogs)
    (perm : catalogs.Perm others) : Accepted others where
  nonempty none := h.nonempty (List.Perm.eq_nil (none ▸ perm))
  oneTerm left hl right hr := h.oneTerm left (perm.mem_iff.mpr hl) right (perm.mem_iff.mpr hr)
  distinct := (perm.map _).nodup_iff.mp h.distinct
  wellFormed catalog listed := h.wellFormed catalog (perm.mem_iff.mpr listed)

theorem Accepted.filter {catalogs : List NormalizedCatalogV1} (h : Accepted catalogs)
    (keep : NormalizedCatalogV1 → Bool) (some : ∃catalog∈catalogs,keep catalog=true) :
    Accepted (catalogs.filter keep) where
  nonempty := by
    obtain ⟨catalog,listed,kept⟩ := some
    exact List.ne_nil_of_mem (List.mem_filter.mpr ⟨listed,kept⟩)
  oneTerm left hl right hr :=
    h.oneTerm left (List.mem_filter.mp hl).1 right (List.mem_filter.mp hr).1
  distinct := h.distinct.sublist (List.filter_sublist.map _)
  wellFormed catalog listed := h.wellFormed catalog (List.mem_filter.mp listed).1

section Entering

variable {K V : Type} [Ord K] [TransOrd K] [LawfulEqOrd K] [DecidableEq K]
  {key : V → K} {fits : V → Bool} {duplicate : CorpusError}

theorem enter_ok {entries : List V} {map result : ExtTreeMap K V} :
    enter key fits duplicate entries map=.ok result ↔
      (∀entry∈entries,fits entry=true) ∧ (entries.map key).Nodup ∧ (∀entry∈entries,key entry∉map) ∧
        entries.foldl (fun map entry => map.insert (key entry) entry) map=result := by
  induction entries generalizing map with
  | nil =>
    change Except.ok map=.ok result ↔ _
    simp
  | cons entry entries ih =>
    have step : enter key fits duplicate (entry::entries) map=(do
        ensure (fits entry=true) .targetMismatch
        ensure (key entry∉map) duplicate
        enter key fits duplicate entries (map.insert (key entry) entry)) := by
      unfold enter
      rw [List.foldlM_cons]
      by_cases fitting : fits entry=true
      · by_cases fresh : key entry∉map
        · rw [ensure_pos fitting,ensure_pos fresh]
          rfl
        · rw [ensure_pos fitting,ensure_neg fresh]
          rfl
      · rw [ensure_neg fitting]
        rfl
    rw [step,ensure_bind_ok,ensure_bind_ok,ih,List.forall_mem_cons,List.forall_mem_cons,
      List.map_cons,List.nodup_cons]
    have apart : (∀other∈entries,key other∉map.insert (key entry) entry) ↔
        (∀other∈entries,key other∉map) ∧ key entry∉entries.map key := by
      simp only [ExtTreeMap.mem_insert,Std.compare_eq_iff_eq,not_or,List.mem_map,not_exists,not_and]
      constructor
      · intro h
        exact ⟨fun other listed => (h other listed).2,
          fun other listed same => (h other listed).1 same.symm⟩
      · rintro ⟨known,others⟩ other listed
        exact ⟨fun same => others other listed same.symm,known other listed⟩
    tauto

end Entering

namespace CatalogCorpus

/-- A corpus that answers from the given snapshots. -/
structure Holds (corpus : CatalogCorpus) (catalogs : List NormalizedCatalogV1) : Prop where
  targetVersions : ∀target : TermCampusKey,corpus.targetVersions[target]?=
    (catalogAt catalogs target).map NormalizedCatalogV1.contentVersion
  groups : ∀key : CourseGroupKey,corpus.groups[key]?=groupAt catalogs key
  variants : ∀key : CourseVariantKey,corpus.variants[key]?=variantAt catalogs key
  sections : ∀key : SectionKey,corpus.sections[key]?=sectionAt catalogs key
  occurrences : ∀key : CatalogOccurrenceKeyV1,corpus.occurrences[key]?=occurrenceAt catalogs key

theorem Holds.empty (term : TermId) : (CatalogCorpus.mk term ∅ ∅ ∅ ∅ ∅).Holds [] where
  targetVersions _ := by simp [catalogAt,findKey]
  groups _ := by simp [entityAt,catalogAt,findKey]
  variants _ := by simp [entityAt,catalogAt,findKey]
  sections _ := by simp [entityAt,catalogAt,findKey]
  occurrences _ := by simp [entityAt,catalogAt,findKey]

theorem Holds.mem_targetVersions {corpus : CatalogCorpus} {catalogs : List NormalizedCatalogV1}
    (h : corpus.Holds catalogs) (target : TermCampusKey) :
    target∈corpus.targetVersions ↔ target∈catalogs.map NormalizedCatalogV1.target := by
  rw [mem_iff_getElem?_ne_none,h.targetVersions,Ne,Option.map_eq_none_iff,catalogAt,
    findKey_eq_none,not_not]

section Adding

variable {K V : Type} [Ord K] [TransOrd K] [LawfulEqOrd K] [DecidableEq K]
  {entries : NormalizedCatalogV1 → List V} {key : V → K} {target : K → TermCampusKey}
  {catalogs : List NormalizedCatalogV1} {catalog : NormalizedCatalogV1}
  {map : ExtTreeMap K V}

variable (holds : ∀k : K,map[k]?=entityAt entries key target catalogs k)
  (fresh : catalog.target∉catalogs.map NormalizedCatalogV1.target)
  (here : ∀v∈entries catalog,target (key v)=catalog.target)

include holds fresh here

theorem entered_holds (distinct : ((entries catalog).map key).Nodup) (k : K) :
    ((entries catalog).foldl (fun map entry => map.insert (key entry) entry) map)[k]?=
      entityAt entries key target (catalogs++[catalog]) k := by
  rw [entityAt_snoc fresh here,← holds,
    getElem?_foldl_insert (fun entry => entry) distinct,Option.map_id']

theorem unknown_of_fresh : ∀v∈entries catalog,key v∉map := by
  intro v listed known
  obtain ⟨w,held⟩ := exists_getElem? known
  rw [holds] at held
  obtain ⟨other,listed',same,_⟩ := entityAt_some held
  exact fresh (here v listed ▸ same ▸ List.mem_map_of_mem listed')

end Adding

variable {corpus result : CatalogCorpus} {catalogs : List NormalizedCatalogV1}
  {catalog : NormalizedCatalogV1}

section

variable (holds : corpus.Holds catalogs)

include holds

theorem addCatalog_ok (h : corpus.addCatalog catalog=.ok result) :
    catalog.target∉catalogs.map NormalizedCatalogV1.target ∧ Placed catalog ∧
      result.Holds (catalogs++[catalog]) ∧ result.term=corpus.term := by
  obtain ⟨fresh,h⟩ := ensure_bind_ok.mp h
  obtain ⟨groups,hg,h⟩ := bind_ok.mp h
  obtain ⟨variants,hv,h⟩ := bind_ok.mp h
  obtain ⟨sections,hs,h⟩ := bind_ok.mp h
  obtain ⟨occurrences,ho,h⟩ := bind_ok.mp h
  obtain ⟨groupsHere,distinctGroups,_,rfl⟩ := enter_ok.mp hg
  obtain ⟨variantsHere,distinctVariants,_,rfl⟩ := enter_ok.mp hv
  obtain ⟨sectionsHere,distinctSections,_,rfl⟩ := enter_ok.mp hs
  obtain ⟨occurrencesHere,distinctOccurrences,_,rfl⟩ := enter_ok.mp ho
  rw [holds.mem_targetVersions] at fresh
  simp only [decide_eq_true_eq] at groupsHere variantsHere occurrencesHere
  simp only [Bool.and_eq_true,decide_eq_true_eq] at sectionsHere
  cases pure_ok.mp h
  refine ⟨fresh,⟨groupsHere,variantsHere,sectionsHere,occurrencesHere,distinctGroups,
    distinctVariants,distinctSections,distinctOccurrences⟩,⟨?_,?_,?_,?_,?_⟩,rfl⟩
  · intro target
    rw [getElem?_insert_eq,holds.targetVersions,catalogAt,catalogAt,findKey_append]
    by_cases here : catalog.target=target
    · have absent : findKey NormalizedCatalogV1.target catalogs target=none :=
        findKey_eq_none.mpr (here ▸ fresh)
      have last : findKey NormalizedCatalogV1.target [catalog] target=some catalog := by
        simp [findKey,here]
      rw [absent,last,if_pos here]
      rfl
    · have last : findKey NormalizedCatalogV1.target [catalog] target=none := by
        simp [findKey,here]
      rw [last,if_neg here,Option.or_none]
  · exact entered_holds holds.groups fresh groupsHere distinctGroups
  · exact entered_holds holds.variants fresh variantsHere distinctVariants
  · exact entered_holds holds.sections fresh (fun held listed => (sectionsHere held listed).1)
      distinctSections
  · exact entered_holds holds.occurrences fresh occurrencesHere distinctOccurrences

theorem addCatalog_total (fresh : catalog.target∉catalogs.map NormalizedCatalogV1.target) (placed : Placed catalog) :
    ∃result,corpus.addCatalog catalog=.ok result := by
  have sectionsHere (held : NormalizedSectionV1) (listed : held∈catalog.sections) :=
    (placed.sections held listed).1
  unfold addCatalog
  rw [ensure_pos (mt (holds.mem_targetVersions _).mp fresh)]
  refine ⟨_,bind_ok.mpr ⟨(),rfl,bind_ok.mpr ⟨_,enter_ok.mpr ⟨?_,placed.distinctGroups,?_,rfl⟩,
    bind_ok.mpr ⟨_,enter_ok.mpr ⟨?_,placed.distinctVariants,?_,rfl⟩,
    bind_ok.mpr ⟨_,enter_ok.mpr ⟨?_,placed.distinctSections,?_,rfl⟩,
    bind_ok.mpr ⟨_,enter_ok.mpr ⟨?_,placed.distinctOccurrences,?_,rfl⟩,rfl⟩⟩⟩⟩⟩⟩
  · simpa using placed.groups
  · exact unknown_of_fresh holds.groups fresh placed.groups
  · simpa using placed.variants
  · exact unknown_of_fresh holds.variants fresh placed.variants
  · simpa using placed.sections
  · exact unknown_of_fresh holds.sections fresh sectionsHere
  · simpa using placed.occurrences
  · exact unknown_of_fresh holds.occurrences fresh placed.occurrences

/-- The snapshots go in one by one; the corpus holds those gone in so far. -/
theorem foldlM_addCatalog_ok (distinct : (catalogs.map NormalizedCatalogV1.target).Nodup)
    {more : List NormalizedCatalogV1} (h : more.foldlM addCatalog corpus=.ok result) :
    ((catalogs++more).map NormalizedCatalogV1.target).Nodup ∧ (∀catalog∈more,Placed catalog) ∧
      result.Holds (catalogs++more) ∧ result.term=corpus.term := by
  induction more generalizing corpus catalogs with
  | nil =>
    cases pure_ok.mp h
    rw [List.append_nil]
    exact ⟨distinct,nofun,holds,rfl⟩
  | cons catalog more ih =>
    obtain ⟨next,added,h⟩ := bind_ok.mp h
    obtain ⟨fresh,placed,grown,term⟩ := addCatalog_ok holds added
    have distinct' : ((catalogs++[catalog]).map NormalizedCatalogV1.target).Nodup := by
      rw [List.map_append,List.nodup_append]
      refine ⟨distinct,List.nodup_singleton _,?_⟩
      intro left known right single same
      rw [List.map_singleton,List.mem_singleton] at single
      exact fresh (single ▸ same ▸ known)
    have rest := ih grown distinct' h
    rw [List.append_assoc] at rest
    exact ⟨rest.1,List.forall_mem_cons.mpr ⟨placed,rest.2.1⟩,rest.2.2.1,rest.2.2.2.trans term⟩

theorem foldlM_addCatalog_total {more : List NormalizedCatalogV1}
    (distinct : ((catalogs++more).map NormalizedCatalogV1.target).Nodup)
    (placed : ∀catalog∈more,Placed catalog) : ∃result,more.foldlM addCatalog corpus=.ok result := by
  induction more generalizing corpus catalogs with
  | nil => exact ⟨corpus,rfl⟩
  | cons catalog more ih =>
    obtain ⟨here,rest⟩ := List.forall_mem_cons.mp placed
    have fresh : catalog.target∉catalogs.map NormalizedCatalogV1.target := by
      rw [List.map_append,List.nodup_append] at distinct
      intro known
      exact distinct.2.2 _ known _ (List.mem_map_of_mem List.mem_cons_self) rfl
    obtain ⟨next,added⟩ := addCatalog_total holds fresh here
    obtain ⟨_,_,grown,_⟩ := addCatalog_ok holds added
    rw [List.append_cons] at distinct
    obtain ⟨result,h⟩ := ih grown distinct rest
    refine ⟨result,?_⟩
    rw [List.foldlM_cons,added]
    exact h

end

section Checks

variable (holds : corpus.Holds catalogs)
  (distinct : (catalogs.map NormalizedCatalogV1.target).Nodup) (listed : catalog∈catalogs)
  (placed : Placed catalog)

include holds distinct listed placed

theorem checkGroup_ok {group : NormalizedCourseGroupV1} (held : group∈catalog.courseGroups) :
    corpus.checkGroup group=.ok () ↔ GroupLinked catalog group := by
  unfold checkGroup GroupLinked
  rw [ensure_ok]
  refine and_congr_right (fun _ => and_congr_right (fun _ => forall₂_congr (fun key _ =>
    and_congr_right (fun ours => ?_))))
  have here : key.group.target=catalog.target := ours ▸ placed.groups group held
  rw [mem_iff_getElem?_ne_none,holds.variants,variantAt,entityAt_here variantTarget distinct listed here,Ne,
    findKey_eq_none,not_not]

theorem checkVariant_ok {variant : NormalizedCourseVariantV1}
    (held : variant∈catalog.courseVariants)
    (all : ∀other∈catalogs,Placed other) :
    corpus.checkVariant variant=.ok () ↔ VariantLinked catalog variant := by
  have here := placed.variants variant held
  unfold checkVariant VariantLinked
  rw [ensure_bind_ok,ensure_ok]
  refine and_congr ?_ (and_congr_right (fun _ => forall₂_congr (fun key _ => ?_)))
  · rw [holds.groups,groupAt,entityAt_here CourseGroupKey.target distinct listed here,Option.any_eq_true]
    simp only [findKey_eq_some placed.distinctGroups,List.contains_iff_mem,and_assoc]
  rw [holds.sections,Option.any_eq_true]
  simp only [decide_eq_true_eq]
  constructor
  · rintro ⟨found,at_key,ours⟩
    -- A section lies in the target of its variant.
    obtain ⟨other,listed',same,inside,named⟩ := entityAt_some at_key
    have target : key.target=catalog.target := by
      rw [← same,← ((all other listed').sections found inside).2,ours,here]
    rw [sectionAt,entityAt_here SectionKey.target distinct listed target] at at_key
    exact ⟨found,(findKey_some at_key).1,named,ours⟩
  · rintro ⟨found,inside,rfl,ours⟩
    refine ⟨found,?_,ours⟩
    rw [sectionAt,entityAt_here SectionKey.target distinct listed (placed.sections found inside).1]
    exact (findKey_eq_some placed.distinctSections).mpr ⟨inside,rfl⟩

theorem checkSection_ok {found : NormalizedSectionV1} (held : found∈catalog.sections) :
    corpus.checkSection found=.ok () ↔ SectionLinked catalog found := by
  obtain ⟨here,variantHere⟩ := placed.sections found held
  unfold checkSection SectionLinked
  rw [ensure_bind_ok,ensure_ok]
  refine and_congr ?_ (and_congr_right (fun _ => forall₂_congr (fun key _ =>
    and_congr_right (fun ours => ?_))))
  · rw [holds.variants,variantAt,entityAt_here variantTarget distinct listed variantHere,Option.any_eq_true]
    simp only [findKey_eq_some placed.distinctVariants,List.contains_iff_mem, and_assoc]
  · have here : key.section.target=catalog.target := ours ▸ here
    rw [mem_iff_getElem?_ne_none,holds.occurrences,
      occurrenceAt,entityAt_here occurrenceTarget distinct listed here,Ne,findKey_eq_none,not_not]

theorem checkOccurrence_ok {occurrence : NormalizedOccurrenceV1}
    (held : occurrence∈catalog.occurrences) :
    corpus.checkOccurrence occurrence=.ok () ↔ OccurrenceLinked catalog occurrence := by
  have here := placed.occurrences occurrence held
  unfold checkOccurrence OccurrenceLinked
  rw [required_bind_ok,holds.sections,sectionAt,entityAt_here SectionKey.target distinct listed here]
  simp only [findKey_eq_some placed.distinctSections,ensure_ok,Option.any_eq_true,
    List.contains_iff_mem,and_assoc]

end Checks

theorem Holds.mem_entities {K V : Type} [DecidableEq K] [Ord K] [TransOrd K] [LawfulEqOrd K]
    {entries : NormalizedCatalogV1 → List V}
    {key : V → K} {target : K → TermCampusKey} {map : ExtTreeMap K V}
    (holds : ∀k : K,map[k]?=entityAt entries key target catalogs k)
    (distinct : (catalogs.map NormalizedCatalogV1.target).Nodup)
    (here : ∀catalog∈catalogs,∀v∈entries catalog,target (key v)=catalog.target)
    (own : ∀catalog∈catalogs,((entries catalog).map key).Nodup) (v : V) :
    v∈orderedValues map ↔ ∃catalog∈catalogs,v∈entries catalog := by
  rw [mem_orderedValues]
  constructor
  · rintro ⟨k,found⟩
    rw [holds] at found
    obtain ⟨catalog,listed,_,held,_⟩ := entityAt_some found
    exact ⟨catalog,listed,held⟩
  · rintro ⟨catalog,listed,held⟩
    refine ⟨key v,?_⟩
    rw [holds,entityAt_here target distinct listed (here catalog listed v held)]
    exact (findKey_eq_some (own catalog listed)).mpr ⟨held,rfl⟩

theorem forM_check {V : Type} {values : List V} (entries : NormalizedCatalogV1 → List V)
    {check : V → Except CorpusError Unit} {linked : NormalizedCatalogV1 → V → Prop}
    (members : ∀v,v∈values ↔ ∃catalog∈catalogs,v∈entries catalog)
    (checked : ∀catalog∈catalogs,∀v∈entries catalog,check v=.ok () ↔ linked catalog v) :
    values.forM check=.ok () ↔ ∀catalog∈catalogs,∀v∈entries catalog,linked catalog v := by
  rw [forM_ok]
  constructor
  · intro h catalog listed v held
    exact (checked catalog listed v held).mp (h v ((members v).mpr ⟨catalog,listed,held⟩))
  · intro h v listed
    obtain ⟨catalog,known,held⟩ := (members v).mp listed
    exact (checked catalog known v held).mpr (h catalog known v held)

section Members

variable (holds : corpus.Holds catalogs)
  (distinct : (catalogs.map NormalizedCatalogV1.target).Nodup)
  (placed : ∀catalog∈catalogs,Placed catalog)

include holds distinct placed

theorem Holds.mem_groups (group : NormalizedCourseGroupV1) :
    group∈orderedValues corpus.groups ↔ ∃catalog∈catalogs,group∈catalog.courseGroups :=
  Holds.mem_entities holds.groups distinct (fun catalog listed => (placed catalog listed).groups)
    (fun catalog listed => (placed catalog listed).distinctGroups) group

theorem Holds.mem_sections (held : NormalizedSectionV1) :
    held∈orderedValues corpus.sections ↔ ∃catalog∈catalogs,held∈catalog.sections :=
  Holds.mem_entities holds.sections distinct
    (fun catalog listed held inside => ((placed catalog listed).sections held inside).1)
    (fun catalog listed => (placed catalog listed).distinctSections) held

/-- Every check succeeds exactly if every snapshot is linked. -/
theorem checks_ok : ((orderedValues corpus.groups).forM corpus.checkGroup=.ok () ∧
      (orderedValues corpus.variants).forM corpus.checkVariant=.ok () ∧
      (orderedValues corpus.sections).forM corpus.checkSection=.ok () ∧
      (orderedValues corpus.occurrences).forM corpus.checkOccurrence=.ok ()) ↔
    ∀catalog∈catalogs,WellFormed catalog := by
  have groups := forM_check NormalizedCatalogV1.courseGroups (holds.mem_groups distinct placed)
    (fun catalog listed group held => checkGroup_ok holds distinct listed (placed catalog listed) held)
  have variants := forM_check NormalizedCatalogV1.courseVariants
    (Holds.mem_entities holds.variants distinct
      (fun catalog listed => (placed catalog listed).variants)
      (fun catalog listed => (placed catalog listed).distinctVariants))
    (fun catalog listed variant held =>
      checkVariant_ok holds distinct listed (placed catalog listed) held placed)
  have sections := forM_check NormalizedCatalogV1.sections (holds.mem_sections distinct placed)
    (fun catalog listed found held =>
      checkSection_ok holds distinct listed (placed catalog listed) held)
  have occurrences := forM_check NormalizedCatalogV1.occurrences
    (Holds.mem_entities holds.occurrences distinct
      (fun catalog listed => (placed catalog listed).occurrences)
      (fun catalog listed => (placed catalog listed).distinctOccurrences))
    (fun catalog listed occurrence held =>
      checkOccurrence_ok holds distinct listed (placed catalog listed) held)
  rw [groups,variants,sections,occurrences]
  constructor
  · rintro ⟨hg,hv,hs,ho⟩ catalog listed
    exact {placed catalog listed with
      groupLinks := hg catalog listed
      variantLinks := hv catalog listed
      sectionLinks := hs catalog listed
      occurrenceLinks := ho catalog listed}
  · intro h
    exact ⟨fun catalog listed => (h catalog listed).groupLinks,
      fun catalog listed => (h catalog listed).variantLinks,
      fun catalog listed => (h catalog listed).sectionLinks,
      fun catalog listed => (h catalog listed).occurrenceLinks⟩

end Members

theorem tryNewFromRefs_ok (h : tryNewFromRefs catalogs=.ok corpus) :
    Accepted catalogs ∧ corpus.Holds catalogs ∧
      ∀catalog∈catalogs,catalog.target.term=corpus.term := by
  obtain ⟨first,head,h⟩ := required_bind_ok.mp h
  obtain ⟨terms,h⟩ := ensure_bind_ok.mp h
  obtain ⟨built,added,h⟩ := bind_ok.mp h
  obtain ⟨⟨⟩,groups,h⟩ := bind_ok.mp h
  obtain ⟨⟨⟩,variants,h⟩ := bind_ok.mp h
  obtain ⟨⟨⟩,sections,h⟩ := bind_ok.mp h
  obtain ⟨⟨⟩,occurrences,h⟩ := bind_ok.mp h
  cases pure_ok.mp h
  obtain ⟨distinct,placed,holds,term⟩ :=
    foldlM_addCatalog_ok (Holds.empty first.target.term) List.nodup_nil added
  refine ⟨⟨?_,?_,distinct,?_⟩,holds,?_⟩
  · rintro rfl
    exact nomatch head
  · intro left hl right hr
    rw [terms left hl,terms right hr]
  · exact (checks_ok holds distinct placed).mp ⟨groups,variants,sections,occurrences⟩
  · intro catalog listed
    rw [term,terms catalog listed]

/-- Nothing else is asked of the snapshots. -/
theorem tryNewFromRefs_total (h : Accepted catalogs) : ∃corpus,tryNewFromRefs catalogs=.ok corpus := by
  obtain ⟨first,rest,rfl⟩ := List.exists_cons_of_ne_nil h.nonempty
  have placed : ∀catalog∈first::rest,Placed catalog :=
    fun catalog listed => (h.wellFormed catalog listed).toPlaced
  obtain ⟨corpus,added⟩ := foldlM_addCatalog_total (Holds.empty first.target.term) h.distinct placed
  obtain ⟨_,_,holds,_⟩ := foldlM_addCatalog_ok (Holds.empty first.target.term) List.nodup_nil added
  obtain ⟨groups,variants,sections,occurrences⟩ :=
    (checks_ok holds h.distinct placed).mpr h.wellFormed
  have terms : ∀catalog∈first::rest,catalog.target.term=first.target.term :=
    fun catalog listed => h.oneTerm catalog listed first List.mem_cons_self
  refine ⟨corpus,?_⟩
  refine required_bind_ok.mpr ⟨first,rfl,ensure_bind_ok.mpr ⟨terms,bind_ok.mpr ⟨corpus,added,?_⟩⟩⟩
  exact bind_ok.mpr ⟨(),groups,bind_ok.mpr ⟨(),variants,bind_ok.mpr ⟨(),sections,
    bind_ok.mpr ⟨(),occurrences,rfl⟩⟩⟩⟩

end CatalogCorpus

end CoursePlanner.Query
