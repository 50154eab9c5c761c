import CoursePlanner.Library.OrderedMap

namespace CoursePlanner.Library

open Std

variable {K V : Type}

section Finding

variable [DecidableEq K] {key : V → K} {es others : List V} {k : K} {v : V}

def findKey (key : V → K) (entries : List V) (k : K) : Option V :=
  entries.find? (fun v => key v=k)

theorem findKey_some (h : findKey key es k=some v) : v∈es ∧ key v=k :=
  ⟨List.mem_of_find?_eq_some h,by simpa using List.find?_some h⟩

theorem findKey_eq_none : findKey key es k=none ↔ k∉es.map key := by
  simp [findKey]

theorem findKey_eq_some (dist : (es.map key).Nodup) : findKey key es k=some v ↔ v∈es ∧ key v=k := by
  constructor
  · exact findKey_some
  · rintro ⟨listed,rfl⟩
    cases found : findKey key es (key v) with
    | none => exact absurd (List.mem_map_of_mem listed) (findKey_eq_none.mp found)
    | some other =>
      obtain ⟨known,same⟩ := findKey_some found
      rw [List.inj_on_of_nodup_map dist known listed same]

theorem findKey_perm (dist : (es.map key).Nodup) (perm : es.Perm others) (k : K) :
    findKey key es k=findKey key others k := by
  have distinct' : (others.map key).Nodup := (perm.map key).nodup_iff.mp dist
  ext v
  rw [findKey_eq_some dist,findKey_eq_some distinct',perm.mem_iff]

theorem findKey_append (k : K) :
    findKey key (es++others) k=(findKey key es k).or (findKey key others k) := by
  simp [findKey]

theorem findKey_filter (keep : K → Bool) (k : K) :
    findKey key (es.filter (fun v => keep (key v))) k=
      if keep k then findKey key es k else none := by
  unfold findKey
  rw [List.find?_filter]
  split
  · next kept =>
    congr 1
    funext v
    by_cases same : key v=k <;> simp [same,kept]
  · next dropped =>
    rw [List.find?_eq_none]
    intro v _
    by_cases same : key v=k <;> simp [same,dropped]

theorem findKey_positions (key : V → K) (es : List V) (k : K) :
    ((List.finRange es.length).find? (fun i => key (es.get i)=k)).map es.get=
      findKey key es k := by
  have positions : (List.finRange es.length).map es.get=es := by
    simp
  have moved : ((List.finRange es.length).map es.get).find? (fun v => decide (key v=k))=
      ((List.finRange es.length).find? (fun i => key (es.get i)=k)).map es.get :=
    List.find?_map
  rw [positions] at moved
  exact moved.symm

end Finding

section Inserting

variable [Ord K] [TransOrd K] [LawfulEqOrd K] [DecidableEq K] {key : V → K}

/-- A map into which values of distinct entries went answers with them before it answers as
before. -/
theorem getElem?_foldl_insert {W : Type} (value : V → W) {es : List V}
    (distinct : (es.map key).Nodup) (map : ExtTreeMap K W) (k : K) :
    (es.foldl (fun map entry => map.insert (key entry) (value entry)) map)[k]?=
      ((findKey key es k).map value).or map[k]? := by
  induction es generalizing map with
  | nil => rfl
  | cons entry es ih =>
    obtain ⟨fresh,rest⟩ := List.nodup_cons.mp distinct
    rw [List.foldl_cons,ih rest,getElem?_insert_eq]
    by_cases here : key entry=k
    · subst here
      have absent : findKey key es (key entry)=none := findKey_eq_none.mpr fresh
      have first : findKey key (entry::es) (key entry)=some entry := by simp [findKey]
      rw [absent,first,if_pos rfl]
      rfl
    · simp [findKey,here]

/-- A loop that inserts what it has not seen, over distinct entries, inserts them all. -/
theorem foldlM_fresh {W Err : Type} {step : ExtTreeMap K W → V → Except Err (ExtTreeMap K W)}
    (value : V → W) {es : List V}
    (inserts : ∀en∈es,∀map : ExtTreeMap K W,key en∉map →
      step map en=.ok (map.insert (key en) (value en)))
    (dist : (es.map key).Nodup) (map : ExtTreeMap K W)
    (fresh : ∀en∈es,key en∉map) :
    es.foldlM step map=
      Except.ok (es.foldl (fun map en => map.insert (key en) (value en)) map) := by
  induction es generalizing map with
  | nil => rfl
  | cons en es ih =>
    obtain ⟨apart,rest⟩ := List.nodup_cons.mp dist
    rw [List.foldlM_cons,inserts en List.mem_cons_self map (fresh en List.mem_cons_self)]
    refine ih (fun other listed => inserts other (List.mem_cons_of_mem en listed)) rest _ ?_
    intro other listed known
    rcases ExtTreeMap.mem_insert.mp known with same | bef
    · have same : key en=key other := LawfulEqOrd.eq_of_compare same
      exact apart (same ▸ List.mem_map_of_mem listed)
    · exact fresh other (List.mem_cons_of_mem en listed) bef

end Inserting

section Sorting

variable [Ord K] {key : V → K}

/-- A list in strictly increasing order of its keys. -/
def KeySorted (key : V → K) (entries : List V) : Prop :=
  entries.Pairwise (fun left right => compare (key left) (key right)=.lt)

def sortByKey (key : V → K) (entries : List V) : List V :=
  entries.insertionSort (fun left right => (compare (key left) (key right)).isLE)

variable {es : List V}

theorem mem_sortByKey {v : V} : v∈sortByKey key es ↔ v∈es := List.mem_insertionSort _

variable [TransOrd K]

/-- Sorted lists with the same entries are the same list. -/
theorem KeySorted.unique {others : List V} (h : KeySorted key es) (g : KeySorted key others)
    (same : ∀v,v∈es ↔ v∈others) : es=others := by
  have dist {l : List V} (sorted : KeySorted key l) : l.Nodup := by
    refine sorted.imp ?_
    rintro a b bef rfl
    rw [ReflOrd.compare_self] at bef
    exact nomatch bef
  apply List.Perm.eq_of_pairwise _ h g ((List.perm_ext_iff_of_nodup (dist h) (dist g)).mpr
    (fun v => same v))
  intro a b _ _ bef after
  rw [OrientedOrd.eq_swap,after] at bef
  exact nomatch bef

variable [LawfulEqOrd K]

theorem keySorted_sortByKey (distinct : (es.map key).Nodup) :
    KeySorted key (sortByKey key es) := by
  let before (left right : V) : Prop := (compare (key left) (key right)).isLE=true
  have : Std.Total before := ⟨fun a b => by
    by_cases h : (compare (key a) (key b)).isLE=true
    · exact Or.inl h
    right
    change (compare (key b) (key a)).isLE=true
    rw [OrientedOrd.eq_swap]
    cases order : compare (key a) (key b) <;> simp_all⟩
  have : IsTrans V before := ⟨fun a b c hab hbc => TransOrd.isLE_trans hab hbc⟩
  have sorted : (sortByKey key es).Pairwise before := List.pairwise_insertionSort before es
  have apart : ((sortByKey key es).map key).Nodup :=
    ((List.perm_insertionSort _ es).map key).nodup_iff.mpr distinct
  refine (sorted.and (List.pairwise_map.mp apart)).imp ?_
  rintro a b ⟨le,ne⟩
  cases order : compare (key a) (key b) with
  | lt => rfl
  | eq => exact absurd (LawfulEqOrd.eq_of_compare order) ne
  | gt =>
    have le : (compare (key a) (key b)).isLE=true := le
    rw [order] at le
    exact nomatch le

theorem keySorted_orderedValues {map : ExtTreeMap K V}
    (keyed : ∀(k : K) (v : V),map[k]?=some v → key v=k) : KeySorted key (orderedValues map) := by
  unfold KeySorted orderedValues
  rw [List.pairwise_map]
  refine ExtTreeMap.ordered_keys_toList.imp_of_mem ?_
  intro a b ha hb bef
  rw [keyed a.1 a.2 (ExtTreeMap.mem_toList_iff_getElem?_eq_some.mp ha),
    keyed b.1 b.2 (ExtTreeMap.mem_toList_iff_getElem?_eq_some.mp hb)]
  exact bef

omit [LawfulEqOrd K] in
theorem KeySorted.nodup_keys (h : KeySorted key es) : (es.map key).Nodup := by
  refine List.pairwise_map.mpr (h.imp ?_)
  intro a b bef same
  rw [same,ReflOrd.compare_self] at bef
  exact nomatch bef

/-- A map whose values name their keys is searched like the list of its values. -/
theorem findKey_orderedValues [DecidableEq K] {map : ExtTreeMap K V}
    (keyed : ∀(k : K) (v : V),map[k]?=some v → key v=k) (k : K) :
    findKey key (orderedValues map) k=map[k]? := by
  ext v
  rw [findKey_eq_some (keySorted_orderedValues keyed).nodup_keys,mem_orderedValues]
  constructor
  · rintro ⟨⟨k',found⟩,rfl⟩
    rw [keyed k' v found]
    exact found
  · intro found
    exact ⟨⟨k,found⟩,keyed k v found⟩

omit [LawfulEqOrd K] in
theorem keySorted_keys (map : ExtTreeMap K V) : KeySorted id map.keys := by
  have ordered : map.keys.Pairwise (fun left right => compare left right=.lt) :=
    ExtTreeMap.ordered_keys
  exact ordered

omit [LawfulEqOrd K] in
theorem keySorted_toList (set : ExtTreeSet K) : KeySorted id set.toList := by
  have ordered : set.toList.Pairwise (fun left right => compare left right=.lt) :=
    ExtTreeSet.ordered_toList
  exact ordered

omit [TransOrd K] [LawfulEqOrd K] in
/-- Sorted blocks in the order of what their keys share are sorted together. -/
theorem keySorted_flatMap {G : Type} [Ord G] {blocks : List G} {block : G → List V}
    {shared : K → G} (lexicographic : ∀a b : K,compare (shared a) (shared b)=.lt → compare a b=.lt)
    (ordered : blocks.Pairwise (fun left right => compare left right=.lt))
    (each : ∀g∈blocks,KeySorted key (block g)) (within : ∀g∈blocks,∀v∈block g,shared (key v)=g) :
    KeySorted key (blocks.flatMap block) := by
  unfold KeySorted
  rw [List.pairwise_flatMap]
  refine ⟨each,?_⟩
  refine ordered.imp_of_mem ?_
  intro left right hl hr bef a ha b hb
  apply lexicographic
  rw [within left hl a ha,within right hr b hb]
  exact bef

end Sorting

end CoursePlanner.Library
