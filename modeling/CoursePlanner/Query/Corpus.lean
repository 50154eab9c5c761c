import CoursePlanner.Query.Predicates
import CoursePlanner.Library.Checked
import CoursePlanner.Library.OrderedMap
import CoursePlanner.Library.HashIndex

namespace CoursePlanner.Query

open Std Library Contracts

/-- A validated view over the snapshots of one term. -/
structure CatalogCorpus where
  term : TermId
  targetVersions : ExtTreeMap TermCampusKey ℕ+
  groups : ExtTreeMap CourseGroupKey NormalizedCourseGroupV1
  variants : ExtTreeMap CourseVariantKey NormalizedCourseVariantV1
  sections : ExtTreeMap SectionKey NormalizedSectionV1
  occurrences : ExtTreeMap CatalogOccurrenceKeyV1 NormalizedOccurrenceV1

section Entering

variable {K V : Type} [Ord K] [TransOrd K] [LawfulEqOrd K] [DecidableEq K]

/-- The entities of one snapshot go into the map of their kind one by one. -/
def enter (key : V → K) (fits : V → Bool) (duplicate : CorpusError) (entries : List V)
    (map : ExtTreeMap K V) : Except CorpusError (ExtTreeMap K V) :=
  entries.foldlM (fun map entry => do
    ensure (fits entry=true) .targetMismatch
    ensure (key entry∉map) duplicate
    pure (map.insert (key entry) entry)) map

end Entering

namespace CatalogCorpus

def addCatalog (corpus : CatalogCorpus) (catalog : NormalizedCatalogV1) :
    Except CorpusError CatalogCorpus := do
  let here (target : TermCampusKey) : Bool := target=catalog.target
  ensure (catalog.target∉corpus.targetVersions) .duplicateTarget
  let groups ← enter NormalizedCourseGroupV1.key (fun group => here group.key.target)
    .duplicateCourseGroup catalog.courseGroups corpus.groups
  let variants ← enter NormalizedCourseVariantV1.key (fun variant => here variant.key.group.target)
    .duplicateCourseVariant catalog.courseVariants corpus.variants
  let sections ← enter NormalizedSectionV1.key (fun held =>
      here held.key.target && here held.variantKey.group.target)
    .duplicateSection catalog.sections corpus.sections
  let occurrences ← enter NormalizedOccurrenceV1.key (fun occurrence =>
      here occurrence.key.section.target)
    .duplicateOccurrence catalog.occurrences corpus.occurrences
  pure {corpus with
    targetVersions := corpus.targetVersions.insert catalog.target catalog.contentVersion
    groups := groups
    variants := variants
    sections := sections
    occurrences := occurrences}

def checkGroup (corpus : CatalogCorpus) (group : NormalizedCourseGroupV1) :
    Except CorpusError Unit :=
  ensure (group.variantKeys≠[] ∧ group.variantKeys.Nodup ∧
    ∀key∈group.variantKeys,key.group=group.key ∧ key∈corpus.variants)
    .invalidGroupVariantReference

def checkVariant (corpus : CatalogCorpus) (variant : NormalizedCourseVariantV1) :
    Except CorpusError Unit := do
  ensure ((corpus.groups[variant.key.group]?.any (fun group =>
    group.variantKeys.contains variant.key))=true) .invalidGroupVariantReference
  ensure (variant.sectionKeys.Nodup ∧ ∀key∈variant.sectionKeys,
    (corpus.sections[key]?.any (fun held => held.variantKey=variant.key))=true)
    .invalidVariantSectionReference

def checkSection (corpus : CatalogCorpus) (held : NormalizedSectionV1) :
    Except CorpusError Unit := do
  ensure ((corpus.variants[held.variantKey]?.any (fun variant =>
    variant.sectionKeys.contains held.key))=true) .invalidVariantSectionReference
  ensure ((held.occurrenceKeys.knownValue.getD []).Nodup ∧
    ∀key∈held.occurrenceKeys.knownValue.getD [],key.section=held.key ∧ key∈corpus.occurrences)
    .invalidSectionOccurrenceReference

def checkOccurrence (corpus : CatalogCorpus) (occurrence : NormalizedOccurrenceV1) :
    Except CorpusError Unit := do
  let held ← required corpus.sections[occurrence.key.section]? .orphanOccurrence
  ensure ((held.occurrenceKeys.knownValue.any (fun keys => keys.contains occurrence.key))=true)
    .invalidSectionOccurrenceReference

def tryNewFromRefs (catalogs : List NormalizedCatalogV1) : Except CorpusError CatalogCorpus := do
  let first ← required catalogs.head? .empty
  ensure (∀catalog∈catalogs,catalog.target.term=first.target.term) .mixedTerms
  let corpus ← catalogs.foldlM addCatalog ⟨first.target.term,∅,∅,∅,∅,∅⟩
  (orderedValues corpus.groups).forM corpus.checkGroup
  (orderedValues corpus.variants).forM corpus.checkVariant
  (orderedValues corpus.sections).forM corpus.checkSection
  (orderedValues corpus.occurrences).forM corpus.checkOccurrence
  pure corpus

/-- Indexing a map by a key that it does not have is a panic. -/
def variantsFor (corpus : CatalogCorpus) (group : NormalizedCourseGroupV1) :
    Except Abort (List NormalizedCourseVariantV1) :=
  group.variantKeys.mapM (fun key => required corpus.variants[key]? .panicked)

def sectionsFor (corpus : CatalogCorpus) (variant : NormalizedCourseVariantV1) :
    Except Abort (List NormalizedSectionV1) :=
  variant.sectionKeys.mapM (fun key => required corpus.sections[key]? .panicked)

def knownOccurrencesFor (corpus : CatalogCorpus) (held : NormalizedSectionV1) :
    Except Abort (Option (List NormalizedOccurrenceV1)) :=
  match held.occurrenceKeys.knownValue with
  | none => .ok none
  | some keys => do
    let occurrences ← keys.mapM (fun key => required corpus.occurrences[key]? .panicked)
    pure (some occurrences)

end CatalogCorpus

/-- The hash functions of the indexes. Nothing is asked of them. -/
structure KeyHashes where
  group : CourseGroupKey → Nat
  variant : CourseVariantKey → Nat
  «section» : SectionKey → Nat
  occurrence : CatalogOccurrenceKeyV1 → Nat

/-- Positions in the lists of one snapshot, in the order of their keys and by hash. -/
structure PreparedTargetIndex where
  catalog : NormalizedCatalogV1
  groupOrder : List (Fin catalog.courseGroups.length)
  sectionOrder : List (Fin catalog.sections.length)
  groups : HashIndex catalog.courseGroups.length
  variants : HashIndex catalog.courseVariants.length
  sections : HashIndex catalog.sections.length
  occurrences : HashIndex catalog.occurrences.length

structure PreparedCatalogCorpus where
  hashes : KeyHashes
  term : TermId
  targetVersions : ExtTreeMap TermCampusKey ℕ+
  targets : ExtTreeMap TermCampusKey PreparedTargetIndex

section Orders

variable {K V : Type} [Ord K]

/-- The positions of a list, sorted by the keys of its entries. -/
def keyOrder (key : V → K) (entries : List V) : List (Fin entries.length) :=
  (List.finRange entries.length).insertionSort (fun left right =>
    (compare (key (entries.get left)) (key (entries.get right))).isLE)

end Orders

namespace PreparedTargetIndex

def new (hashes : KeyHashes) (catalog : NormalizedCatalogV1) : PreparedTargetIndex where
  catalog := catalog
  groupOrder := keyOrder NormalizedCourseGroupV1.key catalog.courseGroups
  sectionOrder := keyOrder NormalizedSectionV1.key catalog.sections
  groups := buildIndex (fun i => (catalog.courseGroups.get i).key) hashes.group
  variants := buildIndex (fun i => (catalog.courseVariants.get i).key) hashes.variant
  sections := buildIndex (fun i => (catalog.sections.get i).key) hashes.section
  occurrences := buildIndex (fun i => (catalog.occurrences.get i).key) hashes.occurrence

variable (index : PreparedTargetIndex) (hashes : KeyHashes)

def group (key : CourseGroupKey) : Option NormalizedCourseGroupV1 :=
  (lookupIndex index.groups (fun i => (index.catalog.courseGroups.get i).key) hashes.group
    key).map index.catalog.courseGroups.get

def variant (key : CourseVariantKey) : Option NormalizedCourseVariantV1 :=
  (lookupIndex index.variants (fun i => (index.catalog.courseVariants.get i).key) hashes.variant
    key).map index.catalog.courseVariants.get

def «section» (key : SectionKey) : Option NormalizedSectionV1 :=
  (lookupIndex index.sections (fun i => (index.catalog.sections.get i).key) hashes.section
    key).map index.catalog.sections.get

def occurrence (key : CatalogOccurrenceKeyV1) : Option NormalizedOccurrenceV1 :=
  (lookupIndex index.occurrences (fun i => (index.catalog.occurrences.get i).key)
    hashes.occurrence key).map index.catalog.occurrences.get

end PreparedTargetIndex

namespace PreparedCatalogCorpus

/-- The relations are validated by the corpus above before the indexes are built. -/
def tryNew (hashes : KeyHashes) (catalogs : List NormalizedCatalogV1) :
    Except CorpusError PreparedCatalogCorpus := do
  let validated ← CatalogCorpus.tryNewFromRefs catalogs
  pure {
    hashes := hashes
    term := validated.term
    targetVersions := catalogs.foldl (fun versions catalog =>
      versions.insert catalog.target catalog.contentVersion) ∅
    targets := catalogs.foldl (fun targets catalog =>
      targets.insert catalog.target (.new hashes catalog)) ∅}

variable (corpus : PreparedCatalogCorpus)

def groupsInTargets (targets : List TermCampusKey) : List NormalizedCourseGroupV1 :=
  targets.flatMap (fun target =>
    match corpus.targets[target]? with
    | none => []
    | some index => index.groupOrder.map index.catalog.courseGroups.get)

def sectionsInTargets (targets : List TermCampusKey) : List NormalizedSectionV1 :=
  targets.flatMap (fun target =>
    match corpus.targets[target]? with
    | none => []
    | some index => index.sectionOrder.map index.catalog.sections.get)

def group (key : CourseGroupKey) : Option NormalizedCourseGroupV1 :=
  corpus.targets[key.target]?.bind (fun index => index.group corpus.hashes key)

def variant (key : CourseVariantKey) : Option NormalizedCourseVariantV1 :=
  corpus.targets[key.group.target]?.bind (fun index => index.variant corpus.hashes key)

def «section» (key : SectionKey) : Option NormalizedSectionV1 :=
  corpus.targets[key.target]?.bind (fun index => index.section corpus.hashes key)

def variantsFor (group : NormalizedCourseGroupV1) :
    Except Abort (List NormalizedCourseVariantV1) := do
  let index ← required corpus.targets[group.key.target]? .panicked
  group.variantKeys.mapM (fun key => required (index.variant corpus.hashes key) .panicked)

def sectionsFor (variant : NormalizedCourseVariantV1) : Except Abort (List NormalizedSectionV1) := do
  let index ← required corpus.targets[variant.key.group.target]? .panicked
  variant.sectionKeys.mapM (fun key => required (index.section corpus.hashes key) .panicked)

def knownOccurrencesFor (held : NormalizedSectionV1) :
    Except Abort (Option (List NormalizedOccurrenceV1)) :=
  match corpus.targets[held.key.target]? with
  | none => .ok none
  | some index =>
    match held.occurrenceKeys.knownValue with
    | none => .ok none
    | some keys => do
      let occurrences ← keys.mapM (fun key =>
        required (index.occurrence corpus.hashes key) .panicked)
      pure (some occurrences)

end PreparedCatalogCorpus

end CoursePlanner.Query
