import CoursePlanner.Library.OrderedMap
import CoursePlanner.Library.Transition

namespace CoursePlanner.Public

open Std Library

/-- Instants are readings of the monotone clock, in nanoseconds. -/
def checkedDurationSince (now earlier : Nat) : Option Nat :=
  if earlier≤now then some (now-earlier) else none

def documentSessionTtl : Nat := 2*60*60*1000000000
def maxDocumentSessions : Nat := 4096
def maxWsConnectionsPerSession : Nat := 4

inductive PublicLocale where
  | enUs
  | zhCn
  deriving DecidableEq, Repr

structure DocumentSession where
  locale : PublicLocale
  lastActivity : Nat
  activeWsCount : Nat
  deriving DecidableEq

abbrev Sessions := ExtTreeMap String DocumentSession

inductive DocumentSessionError where
  | capacityExhausted
  deriving DecidableEq, Repr

inductive ValidateOutcome where
  | valid
  | renewed (nonce : String)
  deriving DecidableEq, Repr

inductive ReserveWsError where
  | unknownSession
  | connectionLimit
  deriving DecidableEq, Repr

def DocumentSession.retained (session : DocumentSession) (now : Nat) : Bool :=
  decide (0<session.activeWsCount) ||
    (checkedDurationSince now session.lastActivity).any (fun age => decide (age≤documentSessionTtl))

def prune (sessions : Sessions) (now : Nat) : Sessions :=
  sessions.filter (fun _ session => session.retained now)

/-- The order in which sessions are given up: least recent activity first, then the nonce. -/
def evictionOrder (entry : String × DocumentSession) : Nat ×ₗ String :=
  toLex (entry.2.lastActivity,entry.1)

def oldest (sessions : Sessions) : Option (String × DocumentSession) :=
  (sessions.toList.filter (fun entry => entry.2.activeWsCount=0)).argmin evictionOrder

def makeRoom (sessions : Sessions) (maximumSessions : Nat) : Except DocumentSessionError Sessions :=
  if maximumSessions ≤ sessions.size then
    match oldest sessions with
    | some (key,_) => .ok (sessions.erase key)
    | none => .error .capacityExhausted
  else .ok sessions

/-- `generated` is what the random source gives, should a nonce be drawn. -/
def admitNewSession (sessions : Sessions) (maximumSessions : Nat) (locale : PublicLocale)
    (now : Nat) (generated : String) : Except DocumentSessionError String × Sessions :=
  match makeRoom sessions maximumSessions with
  | .error error => (.error error,sessions)
  | .ok room => (.ok generated,room.insert generated ⟨locale,now,0⟩)

/-- The registry behind its lock. Nothing panics while the lock is held, so it is never
poisoned. -/
structure DocumentSessionRegistry where
  sessions : Sessions
  maximumSessions : Nat

namespace DocumentSessionRegistry

def default : DocumentSessionRegistry := ⟨∅,maxDocumentSessions⟩

def issueAt (registry : DocumentSessionRegistry) (locale : PublicLocale) (now : Nat)
    (generated : String) : Except DocumentSessionError String × DocumentSessionRegistry :=
  let admitted :=
    admitNewSession (prune registry.sessions now) registry.maximumSessions locale now generated
  (admitted.1,{registry with sessions := admitted.2})

def validateOrRenewAt (registry : DocumentSessionRegistry) (nonce : String)
    (locale : PublicLocale) (now : Nat) (generated : String) :
    Except DocumentSessionError ValidateOutcome × DocumentSessionRegistry :=
  let sessions := prune registry.sessions now
  match sessions[nonce]? with
  | some session =>
    (.ok .valid,
      {registry with sessions := sessions.insert nonce {session with lastActivity := now}})
  | none =>
    let admitted := admitNewSession sessions registry.maximumSessions locale now generated
    (admitted.1.map .renewed,{registry with sessions := admitted.2})

/-- The lease that a success returns is the caller's; it ends with `dropLease`. -/
def reserveWsAt (registry : DocumentSessionRegistry) (nonce : String) (now : Nat) :
    Except ReserveWsError Unit × DocumentSessionRegistry :=
  let sessions := prune registry.sessions now
  match sessions[nonce]? with
  | none => (.error .unknownSession,{registry with sessions})
  | some session =>
    if maxWsConnectionsPerSession ≤ session.activeWsCount then
      (.error .connectionLimit,{registry with sessions})
    else
      let leased := {session with activeWsCount := session.activeWsCount+1,lastActivity := now}
      (.ok (),{registry with sessions := sessions.insert nonce leased})

def localeAt (registry : DocumentSessionRegistry) (nonce : String) (now : Nat) :
    Option PublicLocale × DocumentSessionRegistry :=
  let sessions := prune registry.sessions now
  match sessions[nonce]? with
  | some session =>
    (some session.locale,
      {registry with sessions := sessions.insert nonce {session with lastActivity := now}})
  | none => (none,{registry with sessions})

/-- Dropping a lease reads the clock inside the lock and prunes nothing. -/
def dropLease (registry : DocumentSessionRegistry) (nonce : String) (now : Nat) :
    DocumentSessionRegistry :=
  match registry.sessions[nonce]? with
  | some session =>
    let left := {session with activeWsCount := session.activeWsCount-1,lastActivity := now}
    {registry with sessions := registry.sessions.insert nonce left}
  | none => registry

end DocumentSessionRegistry

/-- What a caller does once it holds the lock. The first four have read the clock before
they asked for the lock. -/
inductive Call where
  | issue (locale : PublicLocale) (now : Nat) (generated : String)
  | validateOrRenew (nonce : String) (locale : PublicLocale) (now : Nat) (generated : String)
  | reserveWs (nonce : String) (now : Nat)
  | locale (nonce : String) (now : Nat)
  | dropLease (nonce : String)

inductive Answer where
  | issued (result : Except DocumentSessionError String)
  | validated (result : Except DocumentSessionError ValidateOutcome)
  | reserved (result : Except ReserveWsError Unit)
  | located (result : Option PublicLocale)
  | dropped

/-- One turn at the lock: the call, and the clock at the moment the lock was given to it. -/
structure Turn where
  instant : Nat
  call : Call

/-- The instant that the call took with it to the lock. -/
def Call.sampled : Call → Option Nat
  | .issue _ now _ => some now
  | .validateOrRenew _ _ now _ => some now
  | .reserveWs _ now => some now
  | .locale _ now => some now
  | .dropLease _ => none

def Call.generated : Call → Option String
  | .issue _ _ generated => some generated
  | .validateOrRenew _ _ _ generated => some generated
  | _ => none

def perform (registry : DocumentSessionRegistry) (turn : Turn) : Answer × DocumentSessionRegistry :=
  match turn.call with
  | .issue locale now generated =>
    let result := registry.issueAt locale now generated
    (.issued result.1,result.2)
  | .validateOrRenew nonce locale now generated =>
    let result := registry.validateOrRenewAt nonce locale now generated
    (.validated result.1,result.2)
  | .reserveWs nonce now =>
    let result := registry.reserveWsAt nonce now
    (.reserved result.1,result.2)
  | .locale nonce now =>
    let result := registry.localeAt nonce now
    (.located result.1,result.2)
  | .dropLease nonce => (.dropped,registry.dropLease nonce turn.instant)

/-- What a caller sees its call do to a session. -/
inductive Change where
  | unchanged
  | admitted (nonce : String) (now : Nat)
  | touched (nonce : String) (now : Nat)
  | reserved (nonce : String) (now : Nat)
  | dropped (nonce : String) (now : Nat)

def Turn.change (turn : Turn) (answer : Answer) : Change :=
  match turn.call,answer with
  | .issue _ now _,.issued (.ok nonce) => .admitted nonce now
  | .validateOrRenew _ _ now _,.validated (.ok (.renewed nonce)) => .admitted nonce now
  | .validateOrRenew nonce _ now _,.validated (.ok .valid) => .touched nonce now
  | .locale nonce now,.located (some _) => .touched nonce now
  | .reserveWs nonce now,.reserved (.ok ()) => .reserved nonce now
  | .dropLease nonce,.dropped => .dropped nonce turn.instant
  | _,_ => .unchanged

/-- What the callers have seen: the leases they hold, the nonces generated so far, when
each session was last issued, validated, looked up, reserved or let go, and the clock. -/
structure History where
  leases : List String
  generated : List String
  activity : ExtTreeMap String Nat
  clock : Nat

def History.changed (history : History) : Change → History
  | .unchanged => history
  | .admitted nonce now =>
    {history with
      generated := nonce::history.generated
      activity := history.activity.insert nonce now}
  | .touched nonce now => {history with activity := history.activity.insert nonce now}
  | .reserved nonce now =>
    {history with
      leases := nonce::history.leases
      activity := history.activity.insert nonce now}
  | .dropped nonce now =>
    {history with
      leases := history.leases.erase nonce
      activity := history.activity.insert nonce now}

def note (_ : DocumentSessionRegistry) (turn : Turn) (answer : Answer)
    (_ : DocumentSessionRegistry) (history : History) : History :=
  {history.changed (turn.change answer) with clock := turn.instant}

/-- The registry as its callers share it. -/
abbrev Shared := DocumentSessionRegistry × History

def Shared.step : Shared → Turn → Answer × Shared := traced perform note

def Shared.start : Shared := (.default,⟨[],[],∅,0⟩)

/-- The turns that the callers can take: the clock does not go back, a caller sampled its
instant before it got the lock, it drops a lease that it holds, and no nonce is generated
twice. -/
structure Turn.Possible (shared : Shared) (turn : Turn) : Prop where
  clock : shared.2.clock≤turn.instant
  sampled : ∀now∈turn.call.sampled,now≤turn.instant
  held : ∀nonce,turn.call=.dropLease nonce → nonce∈shared.2.leases
  fresh : ∀nonce∈turn.call.generated,nonce∉shared.2.generated

/-- The sessions that are left when the call has pruned and not yet done anything else. -/
def Turn.swept (turn : Turn) (registry : DocumentSessionRegistry) : Sessions :=
  match turn.call.sampled with
  | some now => prune registry.sessions now
  | none => registry.sessions

/-- What a change is in the registry, after the call has pruned. -/
inductive Change.Applies (maximumSessions : Nat) (swept : Sessions) : Change → Sessions → Prop
  | unchanged : Applies maximumSessions swept .unchanged swept
  | admitted (nonce : String) (now : Nat) (locale : PublicLocale) (room : Sessions)
      (cleared : makeRoom swept maximumSessions=.ok room) :
      Applies maximumSessions swept (.admitted nonce now) (room.insert nonce ⟨locale,now,0⟩)
  | touched (nonce : String) (now : Nat) (session : DocumentSession)
      (found : swept[nonce]?=some session) :
      Applies maximumSessions swept (.touched nonce now)
        (swept.insert nonce {session with lastActivity := now})
  | reserved (nonce : String) (now : Nat) (session : DocumentSession)
      (found : swept[nonce]?=some session)
      (free : session.activeWsCount < maxWsConnectionsPerSession) :
      Applies maximumSessions swept (.reserved nonce now) (swept.insert nonce
        {session with activeWsCount := session.activeWsCount+1,lastActivity := now})
  | dropped (nonce : String) (now : Nat) (session : DocumentSession)
      (found : swept[nonce]?=some session) :
      Applies maximumSessions swept (.dropped nonce now) (swept.insert nonce
        {session with activeWsCount := session.activeWsCount-1,lastActivity := now})
  | dropped_absent (nonce : String) (now : Nat) (absent : swept[nonce]?=none) :
      Applies maximumSessions swept (.dropped nonce now) swept

theorem admitNewSession_applies (sessions : Sessions) (maximumSessions : Nat)
    (locale : PublicLocale) (now : Nat) (generated : String) :
    (admitNewSession sessions maximumSessions locale now generated=
        (.error .capacityExhausted,sessions)) ∨
      ∃room,makeRoom sessions maximumSessions=.ok room ∧
        admitNewSession sessions maximumSessions locale now generated=
          (.ok generated,room.insert generated ⟨locale,now,0⟩) := by
  unfold admitNewSession
  cases h : makeRoom sessions maximumSessions with
  | error error =>
    cases error
    exact .inl rfl
  | ok room => exact .inr ⟨room,rfl,rfl⟩

/-- Each call prunes, and then does what its caller is told. -/
theorem perform_applies (rg : DocumentSessionRegistry) (turn : Turn) :
    (turn.change (perform rg turn).1).Applies rg.maximumSessions (turn.swept rg)
        (perform rg turn).2.sessions ∧
      (perform rg turn).2.maximumSessions=rg.maximumSessions := by
  obtain ⟨instant,call⟩ := turn
  cases call with
  | issue locale now generated =>
    refine ⟨?_,rfl⟩
    simp only [perform,DocumentSessionRegistry.issueAt]
    rcases admitNewSession_applies (prune rg.sessions now) rg.maximumSessions locale
      now generated with failed | ⟨room,cleared,admitted⟩
    · rw [failed]
      exact .unchanged
    · rw [admitted]
      exact .admitted generated now locale room cleared
  | validateOrRenew nonce locale now generated =>
    simp only [perform,DocumentSessionRegistry.validateOrRenewAt]
    cases found : (prune rg.sessions now)[nonce]? with
    | some ses => exact ⟨.touched nonce now ses found,rfl⟩
    | none =>
      refine ⟨?_,rfl⟩
      rcases admitNewSession_applies (prune rg.sessions now) rg.maximumSessions locale
        now generated with failed | ⟨room,cleared,admitted⟩
      · simp only [failed]
        exact .unchanged
      · simp only [admitted]
        exact .admitted generated now locale room cleared
  | reserveWs nonce now =>
    simp only [perform,DocumentSessionRegistry.reserveWsAt]
    cases found : (prune rg.sessions now)[nonce]? with
    | none => exact ⟨.unchanged,rfl⟩
    | some ses =>
      by_cases limit : maxWsConnectionsPerSession ≤ ses.activeWsCount
      · simp only [limit,if_true]
        exact ⟨.unchanged,trivial⟩
      · simp only [limit,if_false]
        exact ⟨.reserved nonce now ses found (Nat.lt_of_not_le limit),trivial⟩
  | locale nonce now =>
    simp only [perform,DocumentSessionRegistry.localeAt]
    cases found : (prune rg.sessions now)[nonce]? with
    | some ses => exact ⟨.touched nonce now ses found,rfl⟩
    | none => exact ⟨.unchanged,rfl⟩
  | dropLease nonce =>
    simp only [perform,DocumentSessionRegistry.dropLease]
    cases found : rg.sessions[nonce]? with
    | some ses => exact ⟨.dropped nonce instant ses found,rfl⟩
    | none => exact ⟨.dropped_absent nonce instant found,rfl⟩

end CoursePlanner.Public
