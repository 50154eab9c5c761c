import CoursePlanner.Query.Readings
import CoursePlanner.Query.Acceptance

set_option maxRecDepth 8000

namespace CoursePlanner.Query

open Std Library Contracts

/-- Every key that an entity of the corpus names is one the corpus has. -/
def EngineCorpus.Resolves (corpus : EngineCorpus) : Prop :=
  (∀key group,corpus.group key=some group → ∃variants,corpus.variantsFor group=.ok variants) ∧
    (∀key variant,corpus.variant key=some variant →
      ∃sections,corpus.sectionsFor variant=.ok sections) ∧
    ∀key held,corpus.section key=some held → (corpus.variant held.variantKey).isSome=true ∧
      ∃occurrences,corpus.knownOccurrencesFor held=.ok occurrences

/-- No request ends in a panic. -/
def QueryEngine.NeverPanics (engine : QueryEngine) : Prop :=
  (∀request textHits,engine.courseSearch request textHits≠.error .panicked) ∧
    (∀request textHits,engine.sectionSearch request textHits≠.error .panicked) ∧
    (∀key,engine.courseDetail key≠.error .panicked) ∧
    ∀key,engine.sectionDetail key≠.error .panicked

/-- The evaluations that the engine explains: those of the filters, the outcomes it states by
itself, and what it makes of evaluations by AND and OR. -/
inductive Arises : PredicateEvaluation → Prop where
  | course (group : CourseGroupKey) (variant : NormalizedCourseVariantV1)
      (filters : NormalizedFilterValuesV1) (textHits : Option TextHitPlan)
      (entry : FilterFieldId × PredicateEvaluation)
      (listed : entry∈courseFilterEvaluations group variant filters textHits) : Arises entry.2
  | «section» (held : NormalizedSectionV1) (occurrences : Option (List NormalizedOccurrenceV1))
      («open» : LiveOpenEvidenceV1) (now : OffsetDateTime) (filters : NormalizedFilterValuesV1)
      (entry : FilterFieldId × PredicateEvaluation)
      (listed : entry∈sectionFilterEvaluations held occurrences «open» now filters) : Arises entry.2
  | matched : Arises .matched
  | noMatch (field : ReasonField) : Arises (.noMatch field)
  | andAll (evaluations : List PredicateEvaluation)
      (each : ∀evaluation∈evaluations,Arises evaluation) : Arises (andAll evaluations)
  | orActive (evaluations : List PredicateEvaluation)
      (each : ∀evaluation∈evaluations,Arises evaluation) : Arises (orActive evaluations)

theorem Arises.sound {ev : PredicateEvaluation} (h : Arises ev) : ev.Sound := by
  induction h with
  | course group vt filters textHits entry listed =>
    exact sound_courseFilterEvaluations group vt filters textHits entry listed
  | «section» held occurrences «open» now filters entry listed =>
    exact sound_sectionFilterEvaluations held occurrences «open» now filters entry listed
  | matched => exact PredicateEvaluation.sound_matched
  | noMatch field => exact PredicateEvaluation.sound_noMatch field
  | andAll evaluations each ih => exact sound_andAll ih
  | orActive evaluations each ih => exact sound_orActive ih

namespace QueryEngine

variable {cats : List NormalizedCatalogV1} {eng : QueryEngine} {now : OffsetDateTime}

theorem tryNewFromRefs_reads {«open» : List OpenEvidence}
    (h : tryNewFromRefs cats now «open»=.ok eng) :
    ∃acc : Accepted cats,eng.Reads (eng.scope cats acc) := by
  obtain ⟨cor,made,h⟩ := bind_ok.mp h
  obtain ⟨bySection,_,h⟩ := bind_ok.mp h
  cases pure_ok.mp h
  obtain ⟨acc,holds,oneTerm⟩ := CatalogCorpus.tryNewFromRefs_ok (mapError_ok made)
  exact ⟨acc,holds.reads acc oneTerm rfl rfl⟩

theorem tryNewPrepared_reads {hashes : KeyHashes} {cor : PreparedCatalogCorpus}
    (made : PreparedCatalogCorpus.tryNew hashes cats=.ok cor)
    {active forced : List TermCampusKey} {«open» : List PreparedOpenOverlay}
    (h : tryNewPrepared cor active forced now «open»=.ok eng) :
    ∃chosen : Accepted (selected cats active),
      eng.Reads (eng.scope (selected cats active) chosen) := by
  obtain ⟨acc,holds,oneTerm⟩ := PreparedCatalogCorpus.tryNew_ok made
  obtain ⟨⟨nonempty,_,known⟩,h⟩ := ensure_bind_ok.mp h
  obtain ⟨openByTarget,_,h⟩ := bind_ok.mp h
  obtain ⟨_,h⟩ := ensure_bind_ok.mp h
  obtain ⟨_,h⟩ := ensure_bind_ok.mp h
  cases pure_ok.mp h
  have chosen := acc.selected nonempty (fun t listed =>
    (holds.mem_targetVersions t).mp (known t listed).2)
  exact ⟨chosen,holds.reads acc oneTerm rfl rfl (fun t listed => (known t listed).2) chosen⟩

theorem Reads.neverPanics {scope : Scope} (reads : eng.Reads scope) : eng.NeverPanics := by
  have refusal {A : Type} (result : Except QueryError A) :
      result.mapError Abort.refused≠.error .panicked := by
    cases result <;> exact nofun
  refine ⟨fun request textHits => ?_,fun request textHits => ?_,fun key => ?_,fun key => ?_⟩
  · rw [reads.courseSearch]
    exact refusal _
  · rw [reads.sectionSearch]
    exact refusal _
  · rw [reads.courseDetail]
    exact refusal _
  · rw [reads.sectionDetail]
    exact refusal _

/-- An engine that reads every target of its corpus finds every key resolved. -/
theorem Reads.resolves {scope : Scope} (reads : eng.Reads scope)
    (group : ∀key,eng.corpus.group key=groupAt scope.catalogs key)
    (vt : ∀key,eng.corpus.variant key=variantAt scope.catalogs key)
    («section» : ∀key,eng.corpus.section key=sectionAt scope.catalogs key) :
    eng.corpus.Resolves := by
  refine ⟨fun key found h => ?_,fun key found h => ?_,fun key held h => ?_⟩
  · rw [group] at h
    obtain ⟨cat,listed,_,inside,_⟩ := entityAt_some h
    exact ⟨_,reads.variantsFor found (Scope.mem_groups.mpr ⟨cat,listed,inside⟩)⟩
  · rw [vt] at h
    obtain ⟨cat,listed,_,inside,_⟩ := entityAt_some h
    exact ⟨_,reads.sectionsFor found ⟨cat,listed,inside⟩⟩
  · rw [«section»] at h
    obtain ⟨cat,listed,_,inside,_⟩ := entityAt_some h
    have known := Scope.mem_sections.mpr ⟨cat,listed,inside⟩
    obtain ⟨there,found,_⟩ := Scope.variantAt_section known
    refine ⟨?_,_,reads.occurrences held known⟩
    rw [vt,found]
    rfl

theorem tryNewFromRefs_resolves {«open» : List OpenEvidence}
    (h : tryNewFromRefs cats now «open»=.ok eng) : eng.corpus.Resolves := by
  obtain ⟨acc,reads⟩ := tryNewFromRefs_reads h
  obtain ⟨cor,made,h⟩ := bind_ok.mp h
  obtain ⟨bySection,_,h⟩ := bind_ok.mp h
  cases pure_ok.mp h
  obtain ⟨_,holds,_⟩ := CatalogCorpus.tryNewFromRefs_ok (mapError_ok made)
  exact reads.resolves holds.groups holds.variants holds.sections

theorem prepared_resolves {hashes : KeyHashes} {corpus : PreparedCatalogCorpus}
    (made : PreparedCatalogCorpus.tryNew hashes cats=.ok corpus) :
    (EngineCorpus.prepared corpus).Resolves := by
  obtain ⟨accepted,holds,oneTerm⟩ := PreparedCatalogCorpus.tryNew_ok made
  let all := cats.map NormalizedCatalogV1.target
  -- An eng that activates every t sees the whole corpus.
  let eng : QueryEngine := ⟨.prepared corpus,(ExtTreeSet.ofList all).toList,[],0,.prepared []⟩
  have everything : selected cats all=cats := by
    apply List.filter_eq_self.mpr
    intro catalog listed
    exact List.contains_iff_mem.mpr (List.mem_map_of_mem listed)
  have chosen : Accepted (selected cats all) := everything.symm ▸ accepted
  have reads : eng.Reads (eng.scope (selected cats all) chosen) :=
    holds.reads accepted oneTerm rfl rfl
      (fun t listed => (holds.mem_targetVersions t).mpr listed) chosen
  refine reads.resolves (fun key => ?_) (fun key => ?_) (fun key => ?_)
  · change corpus.group key=groupAt (selected cats all) key
    rw [everything,holds.group]
  · change corpus.variant key=variantAt (selected cats all) key
    rw [everything,holds.variant]
  · change corpus.section key=sectionAt (selected cats all) key
    rw [everything,holds.section]

end QueryEngine

/-- Over every corpus that is accepted no request panics, and whatever is explained keeps the
contract of an explanation. -/
theorem queries_never_panic :
    (∀catalogs now «open» engine,QueryEngine.tryNewFromRefs catalogs now «open»=.ok engine →
        engine.corpus.Resolves ∧ engine.NeverPanics) ∧
      (∀hashes catalogs corpus,PreparedCatalogCorpus.tryNew hashes catalogs=.ok corpus →
        (EngineCorpus.prepared corpus).Resolves ∧ ∀active forced now «open» engine,
            QueryEngine.tryNewPrepared corpus active forced now «open»=.ok engine →
              engine.NeverPanics) ∧
      ∀evaluation,Arises evaluation →
        evaluation.Sound ∧ evaluation.intoExplanation=.ok evaluation.explanation := by
  refine ⟨fun catalogs now «open» engine made => ?_,fun hashes catalogs corpus made => ⟨?_,?_⟩,?_⟩
  · obtain ⟨_,reads⟩ := QueryEngine.tryNewFromRefs_reads made
    exact ⟨QueryEngine.tryNewFromRefs_resolves made,reads.neverPanics⟩
  · exact QueryEngine.prepared_resolves made
  · intro active forced now «open» engine h
    obtain ⟨_,reads⟩ := QueryEngine.tryNewPrepared_reads made h
    exact reads.neverPanics
  · intro evaluation h
    exact ⟨h.sound,h.sound.intoExplanation⟩

open Sample in
theorem queries_never_panic_one_course :
    ∃engine,QueryEngine.tryNewFromRefs [catalog "U" "Ada Byron"] 0 []=.ok engine ∧
      engine.corpus.Resolves ∧ engine.NeverPanics := by
  have made : (QueryEngine.tryNewFromRefs [catalog "U" "Ada Byron"] 0 []).isOk=true := by
    decide +kernel
  cases built : QueryEngine.tryNewFromRefs [catalog "U" "Ada Byron"] 0 [] with
  | error error =>
    rw [built] at made
    exact nomatch made
  | ok engine => exact ⟨engine,rfl,queries_never_panic.1 _ _ _ engine built⟩

end CoursePlanner.Query
