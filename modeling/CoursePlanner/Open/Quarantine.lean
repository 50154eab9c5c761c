import CoursePlanner.Open.Gate
import CoursePlanner.Library.Transition
import CoursePlanner.Library.Runs

namespace CoursePlanner.Open

open Std Library Contracts

section Live

variable [Sha256]

/-- The rules of evaluate, one for each way a sample is decided. -/
inductive Verdict (sample : GateSample) :
    GateState → GateDecisionKind → GateDisposition → GateState → Prop
  | unseeded : Verdict sample (.healthy none) .pass .apply (.healthy (some
      ((BaselineEpoch.seeded sample.catalogIdentity none).pushApplied sample.observed.size)))
  | passed (baseline : BaselineEpoch) (same : baseline.catalogIdentity=sample.catalogIdentity)
      (small : GateRuntime.shrinkIsSuspect (baseline.value.getD 0) sample.observed.size=false) :
      Verdict sample (.healthy (some baseline)) .pass .apply
        (.healthy (some (baseline.pushApplied sample.observed.size)))
  | entered (baseline : BaselineEpoch) (same : baseline.catalogIdentity=sample.catalogIdentity)
      (large : GateRuntime.shrinkIsSuspect (baseline.value.getD 0) sample.observed.size=true) :
      Verdict sample (.healthy (some baseline)) .suspect .hold (.quarantined baseline
        (GateRuntime.anchoredEpisode sample (canonicalOpenSetHashV1 sample.observed)))
  | recovered (baseline : BaselineEpoch) (episode : CandidateEpisode)
      (same : baseline.catalogIdentity=sample.catalogIdentity)
      (near : GateRuntime.recoveredNearReference (baseline.value.getD 0)
        sample.observed.size=true) :
      Verdict sample (.quarantined baseline episode) .quarantineRecover .apply
        (.healthy (some (baseline.pushApplied sample.observed.size)))
  | reanchored (baseline : BaselineEpoch) (episode : CandidateEpisode)
      (same : baseline.catalogIdentity=sample.catalogIdentity)
      (far : GateRuntime.recoveredNearReference (baseline.value.getD 0)
        sample.observed.size=false)
      (broken : ¬(withinSampleGap sample.observedAt episode.lastSeen=true ∧
        GateRuntime.consistentWithAnchor episode sample
          (canonicalOpenSetHashV1 sample.observed)=true)) :
      Verdict sample (.quarantined baseline episode) .suspect .hold (.quarantined baseline
        (GateRuntime.anchoredEpisode sample (canonicalOpenSetHashV1 sample.observed)))
  | confirmed (baseline : BaselineEpoch) (episode : CandidateEpisode)
      (same : baseline.catalogIdentity=sample.catalogIdentity)
      (far : GateRuntime.recoveredNearReference (baseline.value.getD 0)
        sample.observed.size=false)
      (adjacent : withinSampleGap sample.observedAt episode.lastSeen=true)
      (agrees : GateRuntime.consistentWithAnchor episode sample
        (canonicalOpenSetHashV1 sample.observed)=true)
      (enough : gateConfirmMinConsistent ≤
        (GateRuntime.continuedEpisode episode sample).consistentCount)
      (lasting : gateConfirmMinSpanSeconds ≤
        wholeSecondsBetween sample.observedAt episode.firstSeen) :
      Verdict sample (.quarantined baseline episode) .quarantineConfirm .apply
        (.healthy (some ((BaselineEpoch.seeded baseline.catalogIdentity none).pushApplied
          sample.observed.size)))
  | continued (baseline : BaselineEpoch) (episode : CandidateEpisode)
      (same : baseline.catalogIdentity=sample.catalogIdentity)
      (far : GateRuntime.recoveredNearReference (baseline.value.getD 0)
        sample.observed.size=false)
      (adjacent : withinSampleGap sample.observedAt episode.lastSeen=true)
      (agrees : GateRuntime.consistentWithAnchor episode sample
        (canonicalOpenSetHashV1 sample.observed)=true)
      (early : ¬(gateConfirmMinConsistent ≤
          (GateRuntime.continuedEpisode episode sample).consistentCount ∧
        gateConfirmMinSpanSeconds ≤
          wholeSecondsBetween sample.observedAt episode.firstSeen)) :
      Verdict sample (.quarantined baseline episode) .suspect .hold
        (.quarantined baseline (GateRuntime.continuedEpisode episode sample))

/-- Whether a sample is routed to the catalog identity of a state. -/
def GateState.keyedBy (state : GateState) (identity : CatalogSetIdentity) : Prop :=
  match state with
  | .healthy none => True
  | .healthy (some baseline) => baseline.catalogIdentity=identity
  | .quarantined baseline _ => baseline.catalogIdentity=identity

variable {sample : GateSample} {state : GateState}

/-- A sample of the right identity is decided by one of the rules. -/
theorem verdict_keyed (h : state.keyedBy sample.catalogIdentity) : ∃kind dis next,
      GateRuntime.verdict state sample=some (kind,dis,next) ∧
      Verdict sample state kind dis next := by
  match state,h with
  | .healthy none,_ => exact ⟨_,_,_,rfl,.unseeded⟩
  | .healthy (some bl),same =>
    change bl.catalogIdentity=sample.catalogIdentity at same
    unfold GateRuntime.verdict
    dsimp only
    rw [if_neg (not_not.mpr same)]
    split
    · next large => exact ⟨_,_,_,rfl,.entered bl same large⟩
    · next small => exact ⟨_,_,_,rfl,.passed bl same (by simpa using small)⟩
  | .quarantined bl ep,same =>
    change bl.catalogIdentity=sample.catalogIdentity at same
    unfold GateRuntime.verdict
    dsimp only
    rw [if_neg (not_not.mpr same)]
    split
    · next near => exact ⟨_,_,_,rfl,.recovered bl ep same near⟩
    next far =>
    rw [Bool.not_eq_true] at far
    split
    · next broken =>
      refine ⟨_,_,_,rfl,.reanchored bl ep same far ?_⟩
      rintro ⟨adjacent,agrees⟩
      simp [adjacent,agrees] at broken
    next intact =>
    rw [Bool.not_eq_true,Bool.or_eq_false_iff,Bool.not_eq_false',Bool.not_eq_false'] at intact
    obtain ⟨adjacent,agrees⟩ := intact
    split
    · next proven =>
      rw [Bool.and_eq_true,decide_eq_true_eq,decide_eq_true_eq] at proven
      exact ⟨_,_,_,rfl,.confirmed bl ep same far adjacent agrees proven.1 proven.2⟩
    · next early =>
      rw [Bool.and_eq_true,decide_eq_true_eq,decide_eq_true_eq] at early
      exact ⟨_,_,_,rfl,.continued bl ep same far adjacent agrees early⟩

theorem verdict_unkeyed (h : ¬state.keyedBy sample.catalogIdentity) :
    GateRuntime.verdict state sample=none := by
  match state,h with
  | .healthy none,unkeyed => exact absurd trivial unkeyed
  | .healthy (some bl),unkeyed => exact if_pos unkeyed
  | .quarantined bl ep,unkeyed => exact if_pos unkeyed

theorem Verdict.keyed {next : GateState} {kind : GateDecisionKind} {dis : GateDisposition}
    (h : Verdict sample state kind dis next) : next.keyedBy sample.catalogIdentity := by
  cases h with
  | unseeded => rfl
  | passed bl same | entered bl same | recovered bl ep same
  | reanchored bl ep same | confirmed bl ep same
  | continued bl ep same =>
    exact same

theorem Verdict.held {kind : GateDecisionKind} {dis : GateDisposition}
    {bl : BaselineEpoch} {ep : CandidateEpisode}
    (h : Verdict sample state kind dis (.quarantined bl ep)) :
    dis=.hold := by
  cases h with
  | entered | reanchored | continued => rfl

namespace GateRuntime

def observe (runtime : GateRuntime) (sample : GateSample) : Option GateDecision × GateRuntime :=
  match runtime.evaluate sample with
  | none => (none,runtime)
  | some decision => match runtime.advance decision with
    | none => (none,runtime)
    | some advanced => (some decision,advanced)

theorem observe_keyed {r : GateRuntime} {sample : GateSample}
    (h : r.state.keyedBy sample.catalogIdentity) :
    ∃kind dis next,Verdict sample r.state kind dis next ∧
      r.observe sample=(some ⟨dis,kind,sample.catalogIdentity,sample.observed.size,
        canonicalOpenSetHashV1 sample.observed,r.epoch,next⟩,⟨r.epoch+1,next⟩) := by
  obtain ⟨kind,dis,next,decided,rule⟩ := verdict_keyed h
  refine ⟨kind,dis,next,rule,?_⟩
  simp [observe,evaluate,decided,advance]

theorem observe_unkeyed {r : GateRuntime} {sample : GateSample}
    (h : ¬r.state.keyedBy sample.catalogIdentity) :
    r.observe sample=(none,r) := by
  simp [observe,evaluate,verdict_unkeyed h]

def Confirms (runtime : GateRuntime) (sample : GateSample) : Prop :=
  (runtime.observe sample).1.map GateDecision.kind=some .quarantineConfirm

def Holds (runtime : GateRuntime) (sample : GateSample) : Prop :=
  (runtime.observe sample).1.map GateDecision.disposition=some .hold

/-- The runtime enters quarantine with this sample or re-anchors on it. -/
def Anchors (runtime : GateRuntime) (sample : GateSample) : Prop :=
  ∃baseline,(runtime.observe sample).2.state=
    .quarantined baseline (anchoredEpisode sample (canonicalOpenSetHashV1 sample.observed))

end GateRuntime

open GateRuntime

/-- The last sample of a run that the runtime was anchored on. -/
structure LatestAnchor (start : GateRuntime) (earlier : List GateSample) (anchor : GateSample)
    (later : List GateSample) : Prop where
  anchors : Anchors (run observe start earlier) anchor
  last : Along observe (fun runtime sample => ¬Anchors runtime sample)
    ((run observe start earlier).observe anchor).2 later

/-- What the samples since the anchor have to be for a shrunken feed to count as the
new reality. -/
structure Corroborated (anchor : GateSample) (later : List GateSample) (sample : GateSample) :
    Prop where
  agree : ∀other∈later++[sample],symmetricDifferenceCount anchor.observed other.observed ≤
    divCeil anchor.observed.size gateConsistencyDenominator
  adjacent : ((anchor::later++[sample]).map GateSample.observedAt).IsChain
    (fun earlier later => 0 ≤ wholeSecondsBetween later earlier ∧
      wholeSecondsBetween later earlier ≤ 120)
  enough : 3 ≤ (anchor::later++[sample]).length
  lasting : 300 ≤ wholeSecondsBetween sample.observedAt anchor.observedAt

section Episodes

variable {idn : CatalogSetIdentity}

section

variable (r : GateRuntime) (samples : List GateSample) (keyed : r.state.keyedBy idn)
  (routed : ∀sample∈samples,sample.catalogIdentity=idn)

include r samples keyed routed

theorem run_keyed : (run observe r samples).state.keyedBy idn := by
  refine run_invariant (fun r : GateRuntime => r.state.keyedBy idn) keyed samples ?_
  intro r sample member keyed
  have same := routed sample member
  obtain ⟨kind,disposition,next,rule,observed⟩ := observe_keyed (same ▸ keyed)
  rw [observed]
  exact same ▸ rule.keyed

theorem healthy_stays (h : Along observe (fun r sample => ¬Anchors r sample) r samples)
    (healthy : r.isQuarantined=false) :
    (run observe r samples).isQuarantined=false := by
  induction samples generalizing r with
  | nil => exact healthy
  | cons sample samples ih =>
    have same := routed sample (by simp)
    obtain ⟨kind,dis,next,rule,observed⟩ := observe_keyed (same ▸ keyed)
    have unanchored : ¬Anchors r sample := h.1
    have rest := h.2
    rw [Anchors,observed] at unanchored
    rw [observed] at rest
    change (run observe (r.observe sample).2 samples).isQuarantined=false
    rw [observed]
    refine ih _ (same ▸ rule.keyed) (fun sample mem => routed sample (by simp [mem])) rest ?_
    obtain ⟨epoch,state⟩ := r
    cases rule with
    | unseeded => rfl
    | passed => rfl
    | entered bl => exact absurd ⟨bl,rfl⟩ unanchored
    | recovered | reanchored | confirmed | continued => cases healthy

end

/-- An episode as it stands after samples that neither re-anchored it nor ended it. -/
structure Continued (baseline : BaselineEpoch) (episode : CandidateEpisode)
    (set : ExtTreeSet SectionIndex) (runtime : GateRuntime) (samples : List GateSample)
    (last : CandidateEpisode) : Prop where
  state : (run observe runtime samples).state=.quarantined baseline last
  body : last.anchorSet=some set
  first : last.firstSeen=episode.firstSeen
  lastSeen : last.lastSeen=(samples.map GateSample.observedAt).getLastD episode.lastSeen
  count : last.consistentCount=min (episode.consistentCount+samples.length) u32Max
  agree : ∀sample∈samples,symmetricDifferenceCount set sample.observed ≤
    divCeil set.size gateConsistencyDenominator
  adjacent : (episode.lastSeen::samples.map GateSample.observedAt).IsChain
    (fun earlier later => 0 ≤ wholeSecondsBetween later earlier ∧
      wholeSecondsBetween later earlier ≤ 120)
  held : Along observe Holds runtime samples

theorem episode_continued (samples : List GateSample) (r : GateRuntime)
    (bl : BaselineEpoch) (ep : CandidateEpisode) (set : ExtTreeSet SectionIndex)
    (state : r.state=.quarantined bl ep) (anchored : ep.anchorSet=some set)
    (bounded : ep.consistentCount ≤ u32Max) (keyed : bl.catalogIdentity=idn)
    (routed : ∀sample∈samples,sample.catalogIdentity=idn)
    (h : Along observe (fun r sample => ¬Anchors r sample) r samples)
    (quarantined : (run observe r samples).isQuarantined=true) :
    ∃last,Continued bl ep set r samples last := by
  induction samples generalizing r ep with
  | nil =>
    refine ⟨ep,state,anchored,rfl,rfl,?_,by simp,.singleton _,trivial⟩
    simp [bounded]
  | cons sample samples ih =>
    have same := routed sample (by simp)
    have rest := fun sample mem => routed sample (List.mem_cons_of_mem _ mem)
    have here : r.state.keyedBy sample.catalogIdentity := by
      rw [state]
      exact keyed.trans same.symm
    obtain ⟨kind,dis,next,rule,observed⟩ := observe_keyed here
    have unanchored : ¬Anchors r sample := h.1
    have after := h.2
    rw [Anchors,observed] at unanchored
    rw [observed] at after
    change (run observe (r.observe sample).2 samples).isQuarantined=true at quarantined
    rw [observed] at quarantined
    rw [state] at rule
    -- A r that leaves quarantine here cannot be back in it without an anchor.
    have stays (healthy : (GateRuntime.mk (r.epoch+1) next).isQuarantined=false) : False := by
      have out := healthy_stays _ samples (same ▸ rule.keyed) rest after healthy
      rw [out] at quarantined
      cases quarantined
    cases rule with
    | recovered | confirmed => exact (stays rfl).elim
    | reanchored => exact absurd ⟨bl,rfl⟩ unanchored
    | continued _ _ same far adjacent agrees early =>
      obtain ⟨last,continued⟩ := ih _ (continuedEpisode ep sample) rfl
        (by simp [continuedEpisode,anchored]) (by simp [continuedEpisode]) rest after quarantined
      refine ⟨last,?_,continued.body,continued.first,?_,?_,?_,?_,?_,?_⟩
      · change (run observe (r.observe sample).2 samples).state=_
        rw [observed]
        exact continued.state
      · rw [continued.lastSeen,List.map_cons,List.getLastD_cons]
        rfl
      · rw [continued.count]
        simp only [continuedEpisode,List.length_cons]
        omega
      · intro other mem
        rcases List.mem_cons.mp mem with rfl | mem
        · exact (consistentWithAnchor_iff anchored _ _).mp agrees
        · exact continued.agree other mem
      · exact .cons_cons ((withinSampleGap_iff _ _).mp adjacent) continued.adjacent
      · rw [Holds,observed]
        rfl
      · rw [observed]
        exact continued.held

variable {bl : BaselineEpoch} {ep : CandidateEpisode} {r : GateRuntime}
    {sample : GateSample}

/-- From the sample that the runtime was last anchored on, the episode is the summary
of the samples since. -/
theorem LatestAnchor.continued {start : GateRuntime} {earlier later : List GateSample}
    {anchor : GateSample} (h : LatestAnchor start earlier anchor later)
    (keyed : start.state.keyedBy idn)
    (routed : ∀sample∈earlier++anchor::later,sample.catalogIdentity=idn)
    (state : (run observe start (earlier++anchor::later)).state=.quarantined bl ep) :
    Continued bl (anchoredEpisode anchor (canonicalOpenSetHashV1 anchor.observed))
        anchor.observed ((run observe start earlier).observe anchor).2 later ep ∧
      Holds (run observe start earlier) anchor := by
  obtain ⟨anchored,reached⟩ := h.anchors
  have before := run_keyed start earlier keyed (fun sample member =>
    routed sample (by simp [member]))
  have same := routed anchor (by simp)
  obtain ⟨kind,disposition,next,rule,observed⟩ := observe_keyed (same ▸ before)
  have advanced : ((run observe start earlier).observe anchor).2.state=next := by rw [observed]
  have quarantined : next=.quarantined anchored (anchoredEpisode anchor
    (canonicalOpenSetHashV1 anchor.observed)) := advanced.symm.trans reached
  subst quarantined
  rw [run_append] at state
  change (run observe ((run observe start earlier).observe anchor).2 later).state=_ at state
  obtain ⟨last,continued⟩ := episode_continued later _ anchored _ anchor.observed reached rfl
    (show 1 ≤ u32Max by decide) (rule.keyed.trans same) (fun sample member => routed sample (by simp [member])) h.last (by
      rw [isQuarantined,state])
  obtain ⟨rfl,rfl⟩ := GateState.quarantined.inj (continued.state.symm.trans state)
  refine ⟨continued,?_⟩
  rw [Holds,observed,rule.held]
  rfl

/-- The summary accepts a sample as the last of its run exactly if the samples do. -/
theorem corroborated_iff {anchor : GateSample} {later : List GateSample} {hash : String}
    (h : Continued bl (anchoredEpisode anchor hash) anchor.observed r later ep) :
    withinSampleGap sample.observedAt ep.lastSeen=true ∧
      consistentWithAnchor ep sample (canonicalOpenSetHashV1 sample.observed)=true ∧
      3 ≤ min (ep.consistentCount+1) u32Max ∧
      300 ≤ wholeSecondsBetween sample.observedAt ep.firstSeen ↔
    Corroborated anchor later sample := by
  have counted : 3 ≤ min (ep.consistentCount+1) u32Max ↔ 3 ≤ (anchor::later++[sample]).length := by
    rw [h.count]
    simp [anchoredEpisode,u32Max]
    omega
  rw [withinSampleGap_iff,consistentWithAnchor_iff h.body,counted,h.first,h.lastSeen]
  constructor
  · rintro ⟨adjacent,agrees,enough,lasting⟩
    refine ⟨?_,?_,enough,lasting⟩
    · intro other mem
      rcases List.mem_append.mp mem with mem | mem
      · exact h.agree other mem
      · rw [List.mem_singleton.mp mem]
        exact agrees
    · simp only [List.map_append,List.map_cons,List.map_nil,isChain_snoc]
      exact ⟨h.adjacent,adjacent⟩
  · rintro ⟨agree,adjacent,enough,lasting⟩
    refine ⟨?_,agree sample (by simp),enough,lasting⟩
    simp only [List.map_append,List.map_cons,List.map_nil,isChain_snoc] at adjacent
    exact adjacent.2

theorem exists_latestAnchor (start : GateRuntime) (past : List GateSample)
    (keyed : start.state.keyedBy idn)
    (routed : ∀sample∈past,sample.catalogIdentity=idn)
    (healthy : start.isQuarantined=false)
    (quarantined : (run observe start past).isQuarantined=true) :
    ∃earlier anchor later,past=earlier++anchor::later ∧
      LatestAnchor start earlier anchor later := by
  rcases along_not_or_last observe Anchors start past with never | found
  · have out := healthy_stays start past keyed routed never healthy
    rw [out] at quarantined
    cases quarantined
  · obtain ⟨earlier,anchor,later,split,anchors,last⟩ := found
    exact ⟨earlier,anchor,later,split,anchors,last⟩

theorem confirms_quarantined (state : r.state=.quarantined bl ep)
    (keyed : bl.catalogIdentity=sample.catalogIdentity) :
    Confirms r sample ↔ recoveredNearReference (bl.value.getD 0) sample.observed.size=false ∧
      withinSampleGap sample.observedAt ep.lastSeen=true ∧
      consistentWithAnchor ep sample (canonicalOpenSetHashV1 sample.observed)=true ∧
      3 ≤ min (ep.consistentCount+1) u32Max ∧
      300 ≤ wholeSecondsBetween sample.observedAt ep.firstSeen := by
  have here : r.state.keyedBy sample.catalogIdentity := by rw [state]; exact keyed
  obtain ⟨kind,dis,next,rule,observed⟩ := observe_keyed here
  rw [Confirms,observed]
  rw [state] at rule
  cases rule with
  | recovered _ _ same near => simp [near]
  | reanchored _ _ same far broken =>
    refine ⟨nofun,?_⟩
    rintro ⟨-,adjacent,agrees,-⟩
    exact absurd ⟨adjacent,agrees⟩ broken
  | confirmed _ _ same far adjacent agrees enough lasting =>
    exact ⟨fun _ => ⟨far,adjacent,agrees,enough,lasting⟩,fun _ => rfl⟩
  | continued _ _ same far adjacent agrees early =>
    refine ⟨nofun,?_⟩
    rintro ⟨-,-,-,enough,lasting⟩
    exact absurd ⟨enough,lasting⟩ early

theorem not_confirms_healthy (healthy : r.isQuarantined=false)
    (keyed : r.state.keyedBy sample.catalogIdentity) : ¬Confirms r sample := by
  obtain ⟨kind,dis,next,rule,observed⟩ := observe_keyed keyed
  rw [Confirms,observed]
  obtain ⟨epoch,state⟩ := r
  cases rule with
  | confirmed => cases healthy
  | _ => nofun

end Episodes

/-- A live run confirms a shrunken feed exactly on the samples since its last anchor,
although the runtime only keeps a summary of them. -/
theorem GateRuntime.confirms_iff_corroborated (identity : CatalogSetIdentity)
    (start : GateRuntime) (past : List GateSample) (sample : GateSample)
    (keyed : start.state.keyedBy identity)
    (routed : ∀other∈past++[sample],other.catalogIdentity=identity) :
    (∀earlier anchor later,past=earlier++anchor::later → LatestAnchor start earlier anchor later →
      (Confirms (run observe start past) sample ↔
        ∃bl ep,(run observe start past).state=.quarantined bl ep ∧
          max (divCeil (bl.value.getD 0) 20) 25 ≤ bl.value.getD 0-sample.observed.size ∧
          Corroborated anchor later sample) ∧
      (Confirms (run observe start past) sample →
        Along observe Holds (run observe start earlier) (anchor::later))) ∧
    (start.isQuarantined=false → Confirms (run observe start past) sample →
      ∃earlier anchor later,past=earlier++anchor::later ∧
        LatestAnchor start earlier anchor later) := by
  have pastRouted : ∀other∈past,other.catalogIdentity=identity := fun other member =>
    routed other (by simp [member])
  have same := routed sample (by simp)
  have before := run_keyed start past keyed pastRouted
  refine ⟨?_,?_⟩
  · intro earlier anchor later split latest
    cases state : (run observe start past).state with
    | healthy bl =>
      have healthy : (run observe start past).isQuarantined=false := by rw [isQuarantined,state]
      have unconfirmed := not_confirms_healthy healthy (same ▸ before)
      exact ⟨⟨fun confirms => absurd confirms unconfirmed,nofun⟩,
        fun confirms => absurd confirms unconfirmed⟩
    | quarantined bl ep =>
      rw [state] at before
      have confirm := confirms_quarantined state (before.trans same.symm)
      rw [split] at state
      obtain ⟨continued,held⟩ := latest.continued keyed (split ▸ pastRouted) state
      refine ⟨?_,fun _ => ⟨held,continued.held⟩⟩
      rw [confirm,← corroborated_iff continued]
      constructor
      · rintro ⟨far,proven⟩
        exact ⟨bl,ep,rfl,(recoveredNearReference_eq_false _ _).mp far,proven⟩
      · rintro ⟨_,_,same,far,proven⟩
        obtain ⟨rfl,rfl⟩ := GateState.quarantined.inj same
        exact ⟨(recoveredNearReference_eq_false _ _).mpr far,proven⟩
  · intro healthy confirms
    refine exists_latestAnchor start past keyed pastRouted healthy ?_
    by_contra unquarantined
    rw [Bool.not_eq_true] at unquarantined
    exact not_confirms_healthy unquarantined (same ▸ before) confirms

end Live

section Closed

open GateRuntime

local instance quarantineSha256 : Sha256 := plainSha256

/-- An empty feed of a target with forty open sections. -/
def emptyFeed (seconds : Int) : GateSample := ⟨⟨""⟩,∅,1000000000*seconds⟩

theorem confirms_iff_corroborated_empty_feed :
    ∃earlier anchor later,[emptyFeed 0,emptyFeed 100,emptyFeed 200]=earlier++anchor::later ∧
      LatestAnchor (.seeded ⟨""⟩ 40) earlier anchor later ∧
      Corroborated anchor later (emptyFeed 300) := by
  have confirms : Confirms (run observe (.seeded ⟨""⟩ 40)
      [emptyFeed 0,emptyFeed 100,emptyFeed 200]) (emptyFeed 300) := by
    unfold Confirms
    decide
  have both := GateRuntime.confirms_iff_corroborated ⟨""⟩ (.seeded ⟨""⟩ 40)
    [emptyFeed 0,emptyFeed 100,emptyFeed 200] (emptyFeed 300) rfl (by simp [emptyFeed])
  obtain ⟨earlier,anchor,later,split,latest⟩ := both.2 rfl confirms
  obtain ⟨_,_,_,_,proven⟩ := ((both.1 earlier anchor later split latest).1).mp confirms
  exact ⟨earlier,anchor,later,split,latest,proven⟩

end Closed

end CoursePlanner.Open
