import CoursePlanner.Public.Session

namespace CoursePlanner.Public

open Std Library

theorem retained_iff (ses : DocumentSession) (now : Nat) :
    ses.retained now=true ↔ 0<ses.activeWsCount ∨
      ses.lastActivity≤now ∧ now-ses.lastActivity≤documentSessionTtl := by
  unfold DocumentSession.retained checkedDurationSince
  by_cases h : ses.lastActivity≤now <;> simp [h]

theorem getElem?_prune (sess : Sessions) (now : Nat) (nonce : String) :
    (prune sess now)[nonce]?=sess[nonce]?.filter (fun ses => ses.retained now) :=
  ExtTreeMap.getElem?_filter'

variable {nonce : String} {now maximumSessions : Nat} {ses : DocumentSession}
    {sess room : Sessions}

theorem mem_prune : (prune sess now)[nonce]?=some ses ↔
      sess[nonce]?=some ses ∧ ses.retained now=true := by
  rw [getElem?_prune,Option.filter_eq_some_iff]

theorem prune_removes (found : sess[nonce]?=some ses) :
    (prune sess now)[nonce]?=none ↔ ses.retained now=false := by
  rw [getElem?_prune,found]
  cases h : ses.retained now <;> simp [h]

theorem oldest_some {key : String} (h : oldest sess=some (key,ses)) :
    sess[key]?=some ses ∧ ses.activeWsCount=0 ∧
      ∀(other : String) (unleased : DocumentSession),sess[other]?=some unleased →
        unleased.activeWsCount=0 → ses.lastActivity≤unleased.lastActivity := by
  have member := List.argmin_mem h
  rw [List.mem_filter,ExtTreeMap.mem_toList_iff_getElem?_eq_some,decide_eq_true_iff] at member
  refine ⟨member.1,member.2,?_⟩
  intro other unleased found zero
  have listed : (other,unleased)∈
      sess.toList.filter (fun entry => entry.2.activeWsCount=0) := by
    rw [List.mem_filter,ExtTreeMap.mem_toList_iff_getElem?_eq_some,decide_eq_true_iff]
    exact ⟨found,zero⟩
  have least := List.le_of_mem_argmin listed h
  exact Prod.Lex.monotone_fst _ _ least

section

variable (h : makeRoom sess maximumSessions=.ok room)

include h

/-- Room is there already, or it is made by giving up the oldest session without a lease. -/
theorem makeRoom_ok : (sess.size < maximumSessions ∧ room=sess) ∨
      ∃key ses,maximumSessions ≤ sess.size ∧ oldest sess=some (key,ses) ∧
        room=sess.erase key := by
  unfold makeRoom at h
  split at h
  · rename_i full
    split at h
    · rename_i key ses chosen
      cases h
      exact .inr ⟨key,ses,full,chosen,rfl⟩
    · cases h
  · rename_i free
    cases h
    exact .inl ⟨Nat.lt_of_not_le free,rfl⟩

theorem makeRoom_size (bounded : sess.size ≤ maximumSessions) : room.size < maximumSessions := by
  rcases makeRoom_ok h with ⟨free,rfl⟩ | ⟨key,ses,full,chosen,rfl⟩
  · exact free
  have present : key∈sess := mem_of_getElem? (oldest_some chosen).1
  have positive : sess.size≠0 := by
    intro zero
    rw [ExtTreeMap.eq_empty_iff_size_eq_zero.mpr zero] at present
    exact ExtTreeMap.not_mem_empty present
  rw [ExtTreeMap.size_erase,if_pos (ExtTreeMap.contains_iff_mem.mpr present)]
  omega

theorem makeRoom_keeps (nonce : String) : room[nonce]?=sess[nonce]? ∨
      room[nonce]?=none ∧ ∃ses,sess[nonce]?=some ses ∧ ses.activeWsCount=0 := by
  rcases makeRoom_ok h with ⟨-,rfl⟩ | ⟨key,ses,-,chosen,rfl⟩
  · exact .inl rfl
  rw [getElem?_erase_eq]
  obtain ⟨found,zero,-⟩ := oldest_some chosen
  by_cases same : key=nonce
  · subst same
    rw [if_pos rfl]
    exact .inr ⟨rfl,ses,found,zero⟩
  · rw [if_neg same]
    exact .inl rfl

end

def counted (sessions : Sessions) (nonce : String) : Nat :=
  sessions[nonce]?.elim 0 DocumentSession.activeWsCount

theorem counted_some (h : sess[nonce]?=some ses) : counted sess nonce=ses.activeWsCount := by
  rw [counted,h]
  rfl

theorem counted_insert (sess : Sessions) (nonce : String) (ses : DocumentSession) (other : String) :
    counted (sess.insert nonce ses) other=
      if nonce=other then ses.activeWsCount else counted sess other := by
  rw [counted,getElem?_insert_eq]
  split <;> rfl

theorem counted_prune (sess : Sessions) (now : Nat) (nonce : String) :
    counted (prune sess now) nonce=counted sess nonce := by
  cases found : sess[nonce]? with
  | none =>
    have absent : (prune sess now)[nonce]?=none := by
      rw [getElem?_prune,found]
      rfl
    rw [counted,counted,absent,found]
  | some ses =>
    cases kept : ses.retained now with
    | true => rw [counted_some found,counted_some (mem_prune.mpr ⟨found,kept⟩)]
    | false =>
      -- A ses that is not retained holds no lease, so it counted for nothing.
      have zero : ¬0<ses.activeWsCount := by
        intro leased
        rw [(retained_iff ses now).mpr (.inl leased)] at kept
        cases kept
      rw [counted_some found,counted,(prune_removes found).mpr kept]
      exact (Nat.eq_zero_of_not_pos zero).symm

theorem counted_makeRoom (h : makeRoom sess maximumSessions=.ok room) (nonce : String) :
    counted room nonce=counted sess nonce := by
  rcases makeRoom_keeps h nonce with same | ⟨gone,ses,found,zero⟩
  · rw [counted,counted,same]
  · rw [counted_some found,zero,counted,gone]
    rfl

/-- What the registry holds, as its callers know it. -/
structure Sound (sessions : Sessions) (history : History) : Prop where
  counts : ∀nonce,counted sessions nonce=history.leases.count nonce
  limited : ∀nonce,history.leases.count nonce ≤ maxWsConnectionsPerSession
  bounded : sessions.size ≤ maxDocumentSessions
  generated : ∀nonce,nonce∈sessions → nonce∈history.generated
  active : ∀(nonce : String) (session : DocumentSession),sessions[nonce]?=some session →
    history.activity[nonce]?=some session.lastActivity

namespace Sound

variable {sess : Sessions} {hist : History}

theorem prune (h : Sound sess hist) (now : Nat) : Sound (prune sess now) hist where
  counts nonce := (counted_prune sess now nonce).trans (h.counts nonce)
  limited := h.limited
  bounded := ExtTreeMap.size_filter_le_size.trans h.bounded
  generated nonce member := h.generated nonce (ExtTreeMap.mem_of_mem_filter member)
  active nonce ses found := h.active nonce ses (mem_prune.mp found).1

theorem swept {registry : DocumentSessionRegistry} (h : Sound registry.sessions hist)
    (turn : Turn) : Sound (turn.swept registry) hist := by
  unfold Turn.swept
  cases turn.call.sampled with
  | none => exact h
  | some now => exact h.prune now

theorem leased (h : Sound sess hist) {nonce : String} (held : nonce∈hist.leases) :
    ∃ses,sess[nonce]?=some ses ∧ 0<ses.activeWsCount := by
  have positive : 0<counted sess nonce := by
    rw [h.counts nonce]
    exact List.count_pos_iff.mpr held
  cases found : sess[nonce]? with
  | none =>
    rw [counted,found] at positive
    exact absurd positive (Nat.lt_irrefl 0)
  | some ses =>
    rw [counted_some found] at positive
    exact ⟨ses,rfl,positive⟩

theorem insert_present (h : Sound sess hist) {nonce : String} {ses : DocumentSession}
    (found : sess[nonce]?=some ses) (now : Nat) (count : Nat) (leases : List String)
    (counts : ∀other,leases.count other=if nonce=other then count else hist.leases.count other)
    (limited : count ≤ maxWsConnectionsPerSession) :
    Sound (sess.insert nonce {ses with activeWsCount := count,lastActivity := now})
      {hist with leases,activity := hist.activity.insert nonce now} where
  counts other := by
    rw [counted_insert,counts other,h.counts other]
  limited other := by
    rw [counts other]
    split
    · exact limited
    · exact h.limited other
  bounded := by
    rw [ExtTreeMap.size_insert,if_pos (ExtTreeMap.contains_iff_mem.mpr (mem_of_getElem? found))]
    exact h.bounded
  generated other member := by
    rcases ExtTreeMap.mem_insert.mp member with same | before
    · rw [← Std.compare_eq_iff_eq.mp same]
      exact h.generated nonce (mem_of_getElem? found)
    · exact h.generated other before
  active other touched read := by
    rw [getElem?_insert_eq] at read ⊢
    split at read
    · cases read
      rw [if_pos ‹_›]
    · rw [if_neg ‹_›]
      exact h.active other touched read

/-- What a change does to the registry is what the callers make of it. -/
theorem applies (h : Sound sess hist) {change : Change} {after : Sessions}
    (applied : change.Applies maxDocumentSessions sess after)
    (held : ∀nonce now,change=.dropped nonce now → nonce∈hist.leases)
    (fresh : ∀nonce now,change=.admitted nonce now → nonce∉hist.generated) :
    Sound after (hist.changed change) := by
  cases applied with
  | unchanged => exact h
  | admitted nonce now locale room cleared =>
    have absent : nonce∉sess := fun member => fresh nonce now rfl (h.generated nonce member)
    have unleased : hist.leases.count nonce=0 := by
      rw [← h.counts nonce,counted]
      rw [ExtTreeMap.getElem?_eq_none absent]
      rfl
    refine ⟨?_,h.limited,?_,?_,?_⟩
    · intro other
      rw [counted_insert,counted_makeRoom cleared,h.counts other]
      split
      · next same =>
        rw [← same]
        exact unleased.symm
      · rfl
    · have room := makeRoom_size cleared h.bounded
      exact ExtTreeMap.size_insert_le.trans room
    · intro other member
      rcases ExtTreeMap.mem_insert.mp member with same | before
      · rw [← Std.compare_eq_iff_eq.mp same]
        exact List.mem_cons_self
      apply List.mem_cons_of_mem
      apply h.generated
      rw [mem_iff_getElem?_ne_none] at before ⊢
      rcases makeRoom_keeps cleared other with same | ⟨gone,-⟩
      · rwa [← same]
      · exact absurd gone before
    · intro other ses read
      rw [getElem?_insert_eq] at read
      change (hist.activity.insert nonce now)[other]?=_
      rw [getElem?_insert_eq]
      split at read
      · cases read
        rw [if_pos ‹_›]
      rw [if_neg ‹_›]
      rcases makeRoom_keeps cleared other with same | ⟨gone,-⟩
      · exact h.active other ses (same ▸ read)
      · rw [gone] at read
        cases read
  | touched nonce now ses found =>
    refine h.insert_present found now ses.activeWsCount hist.leases ?_ ?_
    · intro other
      split
      · next same => rw [← same,← h.counts nonce,counted_some found]
      · rfl
    · rw [← counted_some found,h.counts nonce]
      exact h.limited nonce
  | reserved nonce now ses found free =>
    refine h.insert_present found now (ses.activeWsCount+1) (nonce::hist.leases) ?_ free
    intro other
    rw [← counted_some found,h.counts nonce]
    by_cases same : nonce=other
    · subst same
      rw [if_pos rfl,List.count_cons_self]
    · rw [if_neg same,List.count_cons_of_ne same]
  | dropped nonce now ses found =>
    refine h.insert_present found now (ses.activeWsCount-1) (hist.leases.erase nonce) ?_ ?_
    · intro other
      rw [← counted_some found,h.counts nonce]
      split
      · next same => rw [← same,List.count_erase_self]
      · next different => rw [List.count_erase_of_ne (Ne.symm different)]
    · have limited := h.limited nonce
      rw [← h.counts nonce,counted_some found] at limited
      omega
  | dropped_absent nonce now absent =>
    obtain ⟨ses,found,-⟩ := h.leased (held nonce now rfl)
    rw [absent] at found
    cases found

end Sound

theorem change_dropped {rg : DocumentSessionRegistry} {turn : Turn}
    (h : turn.change (perform rg turn).1=.dropped nonce now) :
    turn.call=.dropLease nonce := by
  obtain ⟨instant,call⟩ := turn
  cases call <;> simp only [Turn.change] at h <;> split at h <;> simp_all

theorem admitNewSession_nonce {locale : PublicLocale} {generated : String}
    (h : (admitNewSession sess maximumSessions locale now generated).1=.ok nonce) :
    generated=nonce := by
  rcases admitNewSession_applies sess maximumSessions locale now generated with
    failed | ⟨room,-,admitted⟩
  · rw [failed] at h
    cases h
  · rw [admitted] at h
    exact Except.ok.inj h

theorem change_admitted {rg : DocumentSessionRegistry} {turn : Turn}
    (h : turn.change (perform rg turn).1=.admitted nonce now) :
    turn.call.generated=some nonce := by
  obtain ⟨instant,call⟩ := turn
  cases call with
  | issue locale sampled generated =>
    simp only [perform,DocumentSessionRegistry.issueAt] at h
    cases res : (admitNewSession (prune rg.sessions sampled) rg.maximumSessions
      locale sampled generated).1 with
    | error error =>
      rw [res] at h
      cases h
    | ok drawn =>
      rw [res] at h
      cases h
      exact congrArg some (admitNewSession_nonce res)
  | validateOrRenew supplied locale sampled generated =>
    simp only [perform,DocumentSessionRegistry.validateOrRenewAt] at h
    cases found : (prune rg.sessions sampled)[supplied]? with
    | some ses =>
      rw [found] at h
      cases h
    | none =>
      rw [found] at h
      cases res : (admitNewSession (prune rg.sessions sampled) rg.maximumSessions
        locale sampled generated).1 with
      | error error =>
        simp only [res] at h
        cases h
      | ok drawn =>
        simp only [res] at h
        cases h
        exact congrArg some (admitNewSession_nonce res)
  | reserveWs _ _ | locale _ _ | dropLease _ =>
    simp only [Turn.change] at h
    split at h <;> simp_all

theorem step_sound (shared : Shared) (turn : Turn) (possible : turn.Possible shared)
    (h : Sound shared.1.sessions shared.2 ∧ shared.1.maximumSessions=maxDocumentSessions) :
    Sound (shared.step turn).2.1.sessions (shared.step turn).2.2 ∧
      (shared.step turn).2.1.maximumSessions=maxDocumentSessions := by
  obtain ⟨sound,maximum⟩ := h
  obtain ⟨applied,kept⟩ := perform_applies shared.1 turn
  rw [maximum] at applied kept
  have after := (sound.swept turn).applies applied
    (fun nonce now h => possible.held nonce (change_dropped h))
    (fun nonce now h => possible.fresh nonce (change_admitted h))
  exact ⟨⟨after.counts,after.limited,after.bounded,after.generated,after.active⟩,kept⟩

theorem start_sound : Sound Shared.start.1.sessions Shared.start.2 where
  counts nonce := by simp [counted,Shared.start,DocumentSessionRegistry.default]
  limited nonce := Nat.zero_le _
  bounded := Nat.zero_le _
  generated nonce member := absurd member ExtTreeMap.not_mem_empty
  active nonce ses found := by
    simp [Shared.start,DocumentSessionRegistry.default] at found

theorem run_sound {turns : List Turn} (h : Along Shared.step (fun s t => t.Possible s) .start turns) :
    Sound (run Shared.step .start turns).1.sessions (run Shared.step .start turns).2 ∧
      (run Shared.step .start turns).1.maximumSessions=maxDocumentSessions :=
  h.preserves (fun shared => Sound shared.1.sessions shared.2 ∧
    shared.1.maximumSessions=maxDocumentSessions) ⟨start_sound,rfl⟩
    (fun shared turn possible sound => step_sound shared turn possible sound)

/-- A session goes only when it holds no lease and its two hours are over, or when it is
given up at full capacity, as the least recently active one without a lease. -/
structure Turn.RemovesLawfully (shared : Shared) (turn : Turn) : Prop where
  expired : ∀(nonce : String) (session : DocumentSession),
    shared.1.sessions[nonce]?=some session → (turn.swept shared.1)[nonce]?=none →
      nonce∉shared.2.leases ∧ documentSessionTtl<turn.instant-session.lastActivity
  evicted : ∀(nonce : String) (session : DocumentSession),
    (turn.swept shared.1)[nonce]?=some session → (perform shared.1 turn).2.sessions[nonce]?=none →
      nonce∉shared.2.leases ∧ maxDocumentSessions ≤ (turn.swept shared.1).size ∧
      ∀(other : String) (unleased : DocumentSession),(turn.swept shared.1)[other]?=some unleased →
        other∉shared.2.leases → session.lastActivity≤unleased.lastActivity

/-- The call's instant is no older than the last activity of any session without a lease
that is not over anyway. -/
def Turn.InOrder (shared : Shared) (turn : Turn) : Prop :=
  ∀now∈turn.call.sampled,∀(nonce : String) (session : DocumentSession),
    shared.1.sessions[nonce]?=some session → nonce∉shared.2.leases →
      session.lastActivity≤now ∨ documentSessionTtl<turn.instant-session.lastActivity

theorem Sound.unleased {hist : History} (h : Sound sess hist)
    (found : sess[nonce]?=some ses) : nonce∉hist.leases ↔ ses.activeWsCount=0 := by
  rw [← List.count_eq_zero,← h.counts nonce,counted_some found]

/-- Whatever a call does after it has pruned, it only ever evicts lawfully. -/
theorem evicts_lawfully {shared : Shared} (turn : Turn) (sound : Sound shared.1.sessions shared.2)
    (maximum : shared.1.maximumSessions=maxDocumentSessions) (nonce : String)
    (ses : DocumentSession) (found : (turn.swept shared.1)[nonce]?=some ses)
    (gone : (perform shared.1 turn).2.sessions[nonce]?=none) :
    nonce∉shared.2.leases ∧ maxDocumentSessions ≤ (turn.swept shared.1).size ∧
      ∀(other : String) (unleased : DocumentSession),(turn.swept shared.1)[other]?=some unleased →
        other∉shared.2.leases → ses.lastActivity≤unleased.lastActivity := by
  have sweptSound := sound.swept turn
  obtain ⟨applied,-⟩ := perform_applies shared.1 turn
  rw [maximum] at applied
  generalize perform shared.1 turn=performed at applied gone
  generalize turn.swept shared.1=swept at *
  generalize turn.change performed.1=change at applied
  generalize performed.2.sessions=after at applied gone
  have kept : ∀(key : String) (value : DocumentSession),(swept.insert key value)[nonce]?≠none := by
    intro key value
    rw [getElem?_insert_eq]
    split <;> simp [found]
  cases applied with
  | unchanged | dropped_absent =>
    rw [found] at gone
    cases gone
  | touched | reserved | dropped => exact absurd gone (kept _ _)
  | admitted key now locale room cleared =>
    rw [getElem?_insert_eq] at gone
    split at gone
    · cases gone
    rcases makeRoom_ok cleared with ⟨-,rfl⟩ | ⟨chosenKey,chosen,full,least,rfl⟩
    · rw [found] at gone
      cases gone
    rw [getElem?_erase_eq] at gone
    split at gone
    · next same =>
      subst same
      obtain ⟨present,zero,minimal⟩ := oldest_some least
      rw [found] at present
      cases present
      refine ⟨(sweptSound.unleased found).mpr zero,full,?_⟩
      intro other unleased read without
      exact minimal other unleased read ((sweptSound.unleased read).mp without)
    · rw [found] at gone
      cases gone

/-- In every interleaving the leases are counted and the limits kept. A turn removes
lawfully exactly if its instant is not behind the activity of a live session. -/
theorem session_removals_lawful_iff (turns : List Turn) (turn : Turn)
    (taken : Along Shared.step (fun shared turn => turn.Possible shared) .start turns)
    (possible : turn.Possible (run Shared.step .start turns)) :
    Sound (run Shared.step .start turns).1.sessions (run Shared.step .start turns).2 ∧
      (turn.RemovesLawfully (run Shared.step .start turns) ↔
        turn.InOrder (run Shared.step .start turns)) := by
  obtain ⟨sound,maximum⟩ := run_sound taken
  refine ⟨sound,?_,?_⟩
  · intro lawful now sampled nonce ses found without
    have zero := (sound.unleased found).mp without
    rw [or_iff_not_imp_left]
    intro behind
    refine (lawful.expired nonce ses found ?_).2
    rw [Turn.swept,sampled,prune_removes found,← Bool.not_eq_true,retained_iff]
    omega
  · intro inOrder
    refine ⟨?_,evicts_lawfully turn sound maximum⟩
    intro nonce ses found gone
    cases sampled : turn.call.sampled with
    | none =>
      rw [Turn.swept,sampled,found] at gone
      cases gone
    | some now =>
      rw [Turn.swept,sampled,prune_removes found,← Bool.not_eq_true,retained_iff] at gone
      have zero : ses.activeWsCount=0 := by omega
      have without := (sound.unleased found).mpr zero
      refine ⟨without,?_⟩
      have before := possible.sampled now sampled
      rcases inOrder now sampled nonce ses found without with order | late
      · omega
      · exact late

section Closed

def issuedAtTen : Turn := ⟨10,.issue .enUs 10 "a"⟩

theorem issuedAtTen_possible : issuedAtTen.Possible .start where
  clock := Nat.zero_le _
  sampled now h := by cases h; exact Nat.le_refl 10
  held nonce h := by cases h
  fresh nonce _ := List.not_mem_nil

theorem issuedAtTen_read {nonce : String} {ses : DocumentSession}
    (h : (run Shared.step .start [issuedAtTen]).1.sessions[nonce]?=some ses) :
    nonce="a" ∧ ses=⟨.enUs,10,0⟩ := by
  have only : (run Shared.step .start [issuedAtTen]).1.sessions=
      (∅ : Sessions).insert "a" ⟨.enUs,10,0⟩ := by decide +kernel
  rw [only,getElem?_insert_eq] at h
  split at h
  · next same => exact ⟨same.symm,(Option.some.inj h).symm⟩
  · cases h

theorem session_removals_lawful_in_order :
    (⟨12,.locale "a" 11⟩ : Turn).RemovesLawfully (run Shared.step .start [issuedAtTen]) := by
  refine (session_removals_lawful_iff [issuedAtTen] ⟨12,.locale "a" 11⟩
    ⟨issuedAtTen_possible,trivial⟩ ⟨?_,?_,?_,?_⟩).2.mpr ?_
  · decide +kernel
  · intro now sampled
    cases sampled
    decide
  · intro nonce same
    cases same
  · intro nonce drawn
    cases drawn
  · intro now sampled nonce ses found _
    cases sampled
    rw [(issuedAtTen_read found).2]
    exact .inl (by decide)

/-- A lookup that read the clock before the issue and got the lock after it. -/
theorem earlier_sample_removes_issued_session :
    Along Shared.step (fun shared turn => turn.Possible shared) .start [issuedAtTen] ∧
      (⟨11,.locale "b" 9⟩ : Turn).Possible (run Shared.step .start [issuedAtTen]) ∧
      ¬(⟨11,.locale "b" 9⟩ : Turn).RemovesLawfully (run Shared.step .start [issuedAtTen]) := by
  refine ⟨⟨issuedAtTen_possible,trivial⟩,⟨?_,?_,?_,?_⟩,?_⟩
  · decide +kernel
  · intro now sampled
    cases sampled
    decide
  · intro nonce same
    cases same
  · intro nonce drawn
    cases drawn
  · intro lawful
    have removed := lawful.expired "a" ⟨.enUs,10,0⟩ (by decide +kernel) (by decide +kernel)
    exact absurd removed.2 (by decide)

end Closed

end CoursePlanner.Public
