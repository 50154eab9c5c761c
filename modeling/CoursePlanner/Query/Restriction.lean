import CoursePlanner.Query.Totality

set_option maxRecDepth 8000

namespace CoursePlanner.Query

open Std Library Contracts

/-- What the first item of a list says of a section. -/
def evidenceAt (evidence : List OpenEvidence) (key : SectionKey) : Option LiveOpenEvidenceV1 :=
  (findKey OpenEvidence.sectionKey evidence key).map OpenEvidence.evidence

namespace PreparedOpenOverlay

/-- An overlay of sections that the corpus has in its target, each named once. -/
structure MadeFor (overlay : PreparedOpenOverlay) (corpus : PreparedCatalogCorpus) : Prop where
  bound : overlay.isBoundTo corpus=true
  ours : ∀item∈overlay.evidence,item.sectionKey.target=overlay.target ∧
    (corpus.section item.sectionKey).isSome=true
  distinct : (overlay.evidence.map OpenEvidence.sectionKey).Nodup
  get : ∀key,overlay.get key=evidenceAt overlay.evidence key

variable {hash : SectionKey → Nat} {corpus : PreparedCatalogCorpus} {target : TermCampusKey}
  {evidence : List OpenEvidence} {overlay : PreparedOpenOverlay}
  (h : tryNew hash corpus target evidence=.ok overlay)

include h

theorem tryNew_ok : overlay.MadeFor corpus := by
  obtain ⟨version,bound,h⟩ := required_bind_ok.mp h
  obtain ⟨ours,h⟩ := ensure_bind_ok.mp h
  obtain ⟨index,indexed,h⟩ := bind_ok.mp h
  obtain ⟨plain,distinct⟩ := buildDistinctIndex_ok indexed
  cases pure_ok.mp h
  refine ⟨by simpa [isBoundTo] using bound,ours,?_,?_⟩
  · change (evidence.map OpenEvidence.sectionKey).Nodup
    have positions : (List.finRange evidence.length).map evidence.get=evidence := by simp
    rw [← positions,List.map_map]
    exact distinct
  · intro key
    unfold PreparedOpenOverlay.get evidenceAt
    rw [plain]
    rw [lookupIndex_buildIndex,← findKey_positions,Option.map_map]
    rfl

theorem tryNew_names : overlay.target=target ∧ overlay.evidence=evidence := by
  obtain ⟨version,_,h⟩ := required_bind_ok.mp h
  obtain ⟨_,h⟩ := ensure_bind_ok.mp h
  obtain ⟨index,_,h⟩ := bind_ok.mp h
  cases pure_ok.mp h
  exact ⟨rfl,rfl⟩

end PreparedOpenOverlay

namespace QueryEngine

theorem Reads.withOpen {eng other : QueryEngine} {cats : List NormalizedCatalogV1}
    {accepted : Accepted cats} (reads : eng.Reads (eng.scope cats accepted))
    (now : eng.now=other.now)
    (stored : ∀held∈(eng.scope cats accepted).sections,
      eng.openFor held.key=other.openFor held.key ∧
        eng.openStateFor held.key=other.openStateFor held.key) :
    eng.Reads (other.scope cats accepted) :=
  {reads with
    now := now
    openFor := fun held listed => (stored held listed).1
    openStateFor := fun held listed => (stored held listed).2}

theorem openFor_built (eng : QueryEngine) (bySection : ExtTreeMap SectionKey LiveOpenEvidenceV1)
    (built : eng.open=.built bySection) (key : SectionKey) {stored : Option LiveOpenEvidenceV1}
    (found : eng.storedEvidence key=stored) : eng.openFor key=stored.getD unknownEvidence := by
  unfold openFor
  rw [found,built]
  cases stored <;> rfl

/-- Evidence of known sections, each named once, is stored as it is. -/
theorem foldlM_addEvidence {corpus : CatalogCorpus} {evidence : List OpenEvidence}
    (known : ∀item∈evidence,item.sectionKey∈corpus.sections)
    (distinct : (evidence.map OpenEvidence.sectionKey).Nodup) :
    ∃bySection,evidence.foldlM (addEvidence corpus) ∅=.ok bySection ∧
      ∀key : SectionKey,bySection[key]?=evidenceAt evidence key := by
  refine ⟨_,foldlM_fresh OpenEvidence.evidence ?_ distinct ∅ ?_,?_⟩
  · intro item listed map fresh
    unfold addEvidence
    rw [ensure_pos (known item listed),ensure_pos fresh]
    rfl
  · intro item _
    exact ExtTreeMap.not_mem_empty
  · intro key
    rw [getElem?_foldl_insert OpenEvidence.evidence distinct]
    simp [evidenceAt]

theorem foldlM_addOverlay {corpus : PreparedCatalogCorpus} {overlays : List PreparedOpenOverlay}
    (bound : ∀overlay∈overlays,overlay.isBoundTo corpus=true)
    (distinct : (overlays.map PreparedOpenOverlay.target).Nodup) :
    ∃byTarget,overlays.foldlM (addOverlay corpus) ∅=.ok byTarget ∧
      ∀target : TermCampusKey,byTarget[target]?=
        findKey PreparedOpenOverlay.target overlays target := by
  refine ⟨_,foldlM_fresh (fun overlay => overlay) ?_ distinct ∅ ?_,?_⟩
  · intro overlay listed map fresh
    unfold addOverlay
    rw [ensure_pos ⟨bound overlay listed,fresh⟩]
    rfl
  · intro overlay _
    exact ExtTreeMap.not_mem_empty
  · intro target
    rw [getElem?_foldl_insert (fun overlay => overlay) distinct]
    simp

end QueryEngine

/-- The overlays of a request: one for each active target, made for the corpus, and with
evidence that is fresh or says itself that it is uncertain. -/
structure Overlaid (corpus : PreparedCatalogCorpus) (active : List TermCampusKey)
    (now : OffsetDateTime) (overlays : List PreparedOpenOverlay) : Prop where
  targets : (overlays.map PreparedOpenOverlay.target).Perm active
  made : ∀overlay∈overlays,∃hash,
    PreparedOpenOverlay.tryNew hash corpus overlay.target overlay.evidence=.ok overlay
  settled : ∀overlay∈overlays,∀item∈overlay.evidence,
    freshAt item.evidence now=true ∨ item.evidence.uncertainty.isSome=true

namespace Overlaid

variable {hashes : KeyHashes} {cats : List NormalizedCatalogV1}
  {corpus : PreparedCatalogCorpus} {active : List TermCampusKey} {now : OffsetDateTime}
  {overlays : List PreparedOpenOverlay}

variable (h : Overlaid corpus active now overlays)

include h

theorem each {overlay : PreparedOpenOverlay}
    (listed : overlay∈overlays) : overlay.MadeFor corpus := by
  obtain ⟨hash,made⟩ := h.made overlay listed
  exact PreparedOpenOverlay.tryNew_ok made

/-- The evidence of the overlays names known sections of the active targets, each once. -/
theorem evidence (distinct : active.Nodup) :
    ((overlays.flatMap PreparedOpenOverlay.evidence).map OpenEvidence.sectionKey).Nodup ∧
      ∀item∈overlays.flatMap PreparedOpenOverlay.evidence,item.sectionKey.target∈active ∧
        (corpus.section item.sectionKey).isSome=true := by
  constructor
  · rw [List.map_flatMap,List.nodup_flatMap]
    refine ⟨fun overlay listed => (h.each listed).distinct,?_⟩
    refine (List.pairwise_map.mp (h.targets.nodup_iff.mpr distinct)).imp_of_mem ?_
    intro left right hl hr apart key inLeft inRight
    obtain ⟨item,held,rfl⟩ := List.mem_map.mp inLeft
    obtain ⟨other,held',same⟩ := List.mem_map.mp inRight
    exact apart (by rw [← ((h.each hl).ours item held).1, ← ((h.each hr).ours other held').1,same])
  · intro item listed
    obtain ⟨overlay,known,held⟩ := List.mem_flatMap.mp listed
    obtain ⟨here,there⟩ := (h.each known).ours item held
    exact ⟨here ▸ h.targets.mem_iff.mp (List.mem_map_of_mem known),there⟩

/-- The evidence of a section is looked for in the overlay of its target. -/
theorem stored (distinct : active.Nodup) (key : SectionKey) :
    (findKey PreparedOpenOverlay.target overlays key.target).bind (fun overlay => overlay.get key)=
      evidenceAt (overlays.flatMap PreparedOpenOverlay.evidence) key := by
  have apart := (h.evidence distinct).1
  have targets := h.targets.nodup_iff.mpr distinct
  ext found
  rw [Option.bind_eq_some_iff]
  unfold evidenceAt
  simp only [Option.map_eq_some_iff,findKey_eq_some apart,findKey_eq_some targets,List.mem_flatMap]
  constructor
  · rintro ⟨overlay,⟨listed,_⟩,got⟩
    rw [(h.each listed).get] at got
    obtain ⟨item,held,same⟩ := Option.map_eq_some_iff.mp got
    obtain ⟨inside,named⟩ := findKey_some held
    exact ⟨item,⟨⟨overlay,listed,inside⟩,named⟩,same⟩
  · rintro ⟨item,⟨⟨overlay,listed,inside⟩,rfl⟩,same⟩
    have ours := ((h.each listed).ours item inside).1
    refine ⟨overlay,⟨listed,ours.symm⟩,?_⟩
    rw [(h.each listed).get,evidenceAt,Option.map_eq_some_iff]
    exact ⟨item,(findKey_eq_some (h.each listed).distinct).mpr ⟨inside,rfl⟩,same⟩

/-- The engine over the active targets is made, and it stores the evidence of the overlays. -/
theorem prepared (nonempty : active≠[]) (distinct : active.Nodup)
    (known : ∀target∈active,target.term=corpus.term ∧ target∈corpus.targetVersions) :
    ∃engine,QueryEngine.tryNewPrepared corpus active [] now overlays=.ok engine ∧ engine.now=now ∧
      ∀key,engine.storedEvidence key=
          evidenceAt (overlays.flatMap PreparedOpenOverlay.evidence) key ∧
        engine.openFor key= (evidenceAt (overlays.flatMap PreparedOpenOverlay.evidence) key).getD
            QueryEngine.unknownEvidence := by
  have targets := h.targets.nodup_iff.mpr distinct
  obtain ⟨byTarget,taken,held⟩ := QueryEngine.foldlM_addOverlay (fun overlay listed => (h.each listed).bound)
    targets
  have keys : byTarget.keys=(ExtTreeSet.ofList active).toList := by
    apply (keySorted_keys byTarget).unique (keySorted_toList _)
    intro target
    rw [ExtTreeMap.mem_keys,mem_iff_getElem?_ne_none,held,Ne,findKey_eq_none,not_not,
      h.targets.mem_iff,ExtTreeSet.mem_toList,ExtTreeSet.mem_ofList,List.contains_iff_mem]
  let engine : QueryEngine := ⟨.prepared corpus,(ExtTreeSet.ofList active).toList,[],now,
    .prepared (orderedValues byTarget)⟩
  have stored (key : SectionKey) : engine.storedEvidence key=
      evidenceAt (overlays.flatMap PreparedOpenOverlay.evidence) key := by
    have keyed : ∀(target : TermCampusKey) (overlay : PreparedOpenOverlay),
        byTarget[target]?=some overlay → overlay.target=target := by
      intro target overlay found
      rw [held] at found
      exact (findKey_some found).2
    rw [← h.stored distinct key,← held,← findKey_orderedValues keyed]
    rfl
  refine ⟨engine,?_,rfl,fun key => ⟨stored key,?_⟩⟩
  · unfold QueryEngine.tryNewPrepared
    refine ensure_bind_ok.mpr ⟨⟨nonempty,distinct,known⟩,bind_ok.mpr ⟨byTarget,taken,
      ensure_bind_ok.mpr ⟨keys,ensure_bind_ok.mpr ⟨nofun,rfl⟩⟩⟩⟩
  unfold QueryEngine.openFor
  rw [stored key]
  cases found : evidenceAt (overlays.flatMap PreparedOpenOverlay.evidence) key with
  | none => rfl
  | some evidence =>
    obtain ⟨item,there,rfl⟩ := Option.map_eq_some_iff.mp found
    obtain ⟨overlay,listed,inside⟩ := List.mem_flatMap.mp (findKey_some there).1
    have settled : (engine.forcedOpenUnavailable.contains key.target ||
        (item.evidence.uncertainty.isNone && !freshAt item.evidence engine.now))=false := by
      rcases h.settled overlay listed item inside with fresh | uncertain
      · simp [engine,fresh]
      · simp [engine,Option.isNone_eq_false_iff.mpr uncertain]
    change (if _ then _ else _)=_
    rw [settled]
    rfl

end Overlaid

/-- Whatever else a prepared corpus holds, over some of its targets it answers as a corpus made
only of their snapshots does. -/
theorem prepared_answers_as_built {hashes : KeyHashes} {cats : List NormalizedCatalogV1}
    {corpus : PreparedCatalogCorpus}
    (made : PreparedCatalogCorpus.tryNew hashes cats=.ok corpus)
    {active : List TermCampusKey} (nonempty : active≠[]) (distinct : active.Nodup)
    (known : ∀target∈active,target∈corpus.targetVersions) {now : OffsetDateTime}
    {overlays : List PreparedOpenOverlay} (overlaid : Overlaid corpus active now overlays)
    {own : List NormalizedCatalogV1} (only : own.Perm (selected cats active))
    {evidence : List OpenEvidence}
    (same : evidence.Perm (overlays.flatMap PreparedOpenOverlay.evidence)) :
    ∃engine reference,QueryEngine.tryNewPrepared corpus active [] now overlays=.ok engine ∧
      QueryEngine.tryNewFromRefs own now evidence=.ok reference ∧
      (∀request textHits,
        engine.courseSearch request textHits=reference.courseSearch request textHits) ∧
      (∀request textHits,
        engine.sectionSearch request textHits=reference.sectionSearch request textHits) ∧
      (∀key,engine.courseDetail key=reference.courseDetail key) ∧
      ∀key,engine.sectionDetail key=reference.sectionDetail key := by
  obtain ⟨accepted,holds,oneTerm⟩ := PreparedCatalogCorpus.tryNew_ok made
  have listed (target : TermCampusKey) (h : target∈active) :
      target∈cats.map NormalizedCatalogV1.target :=
    (holds.mem_targetVersions target).mp (known target h)
  have terms (target : TermCampusKey) (h : target∈active) : target.term=corpus.term := by
    obtain ⟨catalog,there,rfl⟩ := List.mem_map.mp (listed target h)
    exact oneTerm catalog there
  have chosen := accepted.selected nonempty listed
  obtain ⟨engine,isPrepared,at_now,stored⟩ := overlaid.prepared nonempty distinct
    (fun target h => ⟨terms target h,known target h⟩)
  obtain ⟨apart,sections⟩ := overlaid.evidence distinct
  -- The corpus of the reference is accepted, and it holds the sections of the evidence.
  obtain ⟨built,isBuilt⟩ := CatalogCorpus.tryNewFromRefs_total (chosen.perm only.symm)
  obtain ⟨acceptedOwn,holdsOwn,termOwn⟩ := CatalogCorpus.tryNewFromRefs_ok isBuilt
  have holds' := holdsOwn.perm acceptedOwn.distinct only
  have apart' : (evidence.map OpenEvidence.sectionKey).Nodup := (same.map _).nodup_iff.mpr apart
  obtain ⟨bySection,taken,held⟩ := QueryEngine.foldlM_addEvidence (fun item there => by
    obtain ⟨here,found⟩ := sections item (same.mem_iff.mp there)
    rw [holds.section] at found
    rw [mem_iff_getElem?_ne_none,holds'.sections,sectionAt,entityAt_selected here]
    exact Option.isSome_iff_ne_none.mp found) apart'
  let reference : QueryEngine := ⟨.built built,built.targetVersions.keys,[],now,.built bySection⟩
  have isReference : QueryEngine.tryNewFromRefs own now evidence=.ok reference := by
    unfold QueryEngine.tryNewFromRefs
    rw [isBuilt]
    exact bind_ok.mpr ⟨built,rfl,bind_ok.mpr ⟨bySection,taken,rfl⟩⟩
  have evidenceSame (key : SectionKey) : bySection[key]?=
      evidenceAt (overlays.flatMap PreparedOpenOverlay.evidence) key := by
    rw [held,evidenceAt,evidenceAt,findKey_perm apart' same]
  have readsReference : reference.Reads (reference.scope (selected cats active) chosen) :=
    holds'.reads chosen (fun catalog there => termOwn catalog (only.mem_iff.mpr there)) rfl rfl
  obtain ⟨chosen',reads⟩ := QueryEngine.tryNewPrepared_reads made isPrepared
  have readsEngine : engine.Reads (reference.scope (selected cats active) chosen) := by
    refine reads.withOpen at_now (fun held' _ => ⟨?_,?_⟩)
    · rw [(stored held'.key).2,← evidenceSame]
      exact (reference.openFor_built bySection rfl _ rfl).symm
    · unfold QueryEngine.openStateFor
      rw [(stored held'.key).1,← evidenceSame]
      rfl
  refine ⟨engine,reference,isPrepared,isReference,fun request textHits => ?_,
    fun request textHits => ?_,fun key => ?_,fun key => ?_⟩
  · rw [readsEngine.courseSearch,readsReference.courseSearch]
  · rw [readsEngine.sectionSearch,readsReference.sectionSearch]
  · rw [readsEngine.courseDetail,readsReference.courseDetail]
  · rw [readsEngine.sectionDetail,readsReference.sectionDetail]

namespace Sample

def newarkGroup : CourseGroupKey :=
  { group with campus := ⟨"NK",by decide⟩ }

def newarkVariant : CourseVariantKey := ⟨newarkGroup,variantKey.fingerprint⟩

def newarkSection : SectionKey := { sectionKey with campus := newarkGroup.campus }

/-- The same course at another campus. -/
def newark : NormalizedCatalogV1 where
  target := newarkGroup.target
  contentVersion := 7
  courseGroups := [⟨newarkGroup,[newarkVariant]⟩]
  courseVariants := [{key := newarkVariant,sectionKeys := [newarkSection]}]
  sections := [{key := newarkSection,variantKey := newarkVariant}]
  occurrences := []

/-- An Open observation that is fresh until the instant 5. -/
def seenOpen : OpenEvidence := ⟨sectionKey,.open,some 0,some 5,none⟩

end Sample

open Sample in
/-- With every hash equal, one target of two and one item of evidence. -/
theorem prepared_answers_as_built_beside_another : ∃corpus overlay engine reference,
      PreparedCatalogCorpus.tryNew ⟨fun _ => 0,fun _ => 0,fun _ => 0,fun _ => 0⟩
        [newark,catalog "U" "Ada Byron"]=.ok corpus ∧
      PreparedOpenOverlay.tryNew (fun _ => 0) corpus group.target [seenOpen]=.ok overlay ∧
      QueryEngine.tryNewPrepared corpus [group.target] [] 3 [overlay]=.ok engine ∧
      QueryEngine.tryNewFromRefs [catalog "U" "Ada Byron"] 3 [seenOpen]=.ok reference ∧
      ∀request textHits,
        engine.courseSearch request textHits=reference.courseSearch request textHits := by
  have overlayMade : (do
      let corpus ← (PreparedCatalogCorpus.tryNew ⟨fun _ => 0,fun _ => 0,fun _ => 0,fun _ => 0⟩
        [newark,catalog "U" "Ada Byron"]).mapError QueryError.invalidCorpus
      PreparedOpenOverlay.tryNew (fun _ => 0) corpus group.target [seenOpen]).isOk=true := by
    decide +kernel
  cases made : PreparedCatalogCorpus.tryNew ⟨fun _ => 0,fun _ => 0,fun _ => 0,fun _ => 0⟩
      [newark,catalog "U" "Ada Byron"] with
  | error error =>
    rw [made] at overlayMade
    exact nomatch overlayMade
  | ok corpus =>
    rw [made] at overlayMade
    change (PreparedOpenOverlay.tryNew (fun _ => 0) corpus group.target [seenOpen]).isOk=true
      at overlayMade
    cases overlaid : PreparedOpenOverlay.tryNew (fun _ => 0) corpus group.target [seenOpen] with
    | error error =>
      rw [overlaid] at overlayMade
      exact nomatch overlayMade
    | ok overlay =>
      obtain ⟨target,evidence⟩ := PreparedOpenOverlay.tryNew_names overlaid
      have known : ∀target∈[group.target],target∈corpus.targetVersions := by
        obtain ⟨_,holds,_⟩ := PreparedCatalogCorpus.tryNew_ok made
        intro target listed
        rw [List.mem_singleton.mp listed,holds.mem_targetVersions]
        exact .tail _ (.head _)
      have covered : Overlaid corpus [group.target] 3 [overlay] := by
        refine ⟨by simp [target],?_,?_⟩
        · intro other listed
          rw [List.mem_singleton.mp listed,target,evidence]
          exact ⟨_,overlaid⟩
        intro other listed item held
        rw [List.mem_singleton.mp listed,evidence,List.mem_singleton] at held
        rw [held]
        exact .inl (by decide)
      have only : [catalog "U" "Ada Byron"].Perm
          (selected [newark,catalog "U" "Ada Byron"] [group.target]) := by
        decide +kernel
      have same : [seenOpen].Perm ([overlay].flatMap PreparedOpenOverlay.evidence) := by
        simp [evidence]
      obtain ⟨engine,reference,isPrepared,isReference,courses,_⟩ :=
        prepared_answers_as_built made (by simp) (by simp) known covered only same
      exact ⟨corpus,overlay,engine,reference,rfl,overlaid,isPrepared,isReference,courses⟩

/-- The order in which the snapshots come leaves no trace in the corpus. -/
theorem corpus_of_any_order {catalogs others : List NormalizedCatalogV1} {corpus : CatalogCorpus}
    (perm : catalogs.Perm others) (made : CatalogCorpus.tryNewFromRefs catalogs=.ok corpus) :
    CatalogCorpus.tryNewFromRefs others=.ok corpus := by
  obtain ⟨accepted,holds,term⟩ := CatalogCorpus.tryNewFromRefs_ok made
  obtain ⟨built,again⟩ := CatalogCorpus.tryNewFromRefs_total (accepted.perm perm)
  obtain ⟨-,rebuilt,term'⟩ := CatalogCorpus.tryNewFromRefs_ok again
  have same := holds.perm accepted.distinct perm
  obtain ⟨catalog,listed⟩ := List.exists_mem_of_ne_nil _ accepted.nonempty
  rw [again]
  congr 1
  cases corpus
  cases built
  congr 1
  · exact (term' catalog (perm.mem_iff.mp listed)).symm.trans (term catalog listed)
  all_goals
    apply ExtTreeMap.ext_getElem?
    intro key
  · exact (rebuilt.targetVersions key).trans (same.targetVersions key).symm
  · exact (rebuilt.groups key).trans (same.groups key).symm
  · exact (rebuilt.variants key).trans (same.variants key).symm
  · exact (rebuilt.sections key).trans (same.sections key).symm
  · exact (rebuilt.occurrences key).trans (same.occurrences key).symm

open Sample in
theorem corpus_of_any_order_two : ∃corpus,
    CatalogCorpus.tryNewFromRefs [newark,catalog "U" "Ada Byron"]=.ok corpus ∧
      CatalogCorpus.tryNewFromRefs [catalog "U" "Ada Byron",newark]=.ok corpus := by
  have built : (CatalogCorpus.tryNewFromRefs [newark,catalog "U" "Ada Byron"]).isOk=true := by
    decide +kernel
  cases made : CatalogCorpus.tryNewFromRefs [newark,catalog "U" "Ada Byron"] with
  | error error =>
    rw [made] at built
    cases built
  | ok corpus => exact ⟨corpus,rfl,corpus_of_any_order (.swap _ _ _) made⟩

end CoursePlanner.Query
