import LibDoip.ConnectionRules

/-! The descriptor and the TLS object of a connection. Whatever closes it, and however often, each
of the two is released once. -/
namespace LibDoip
open Library
variable {σ : Type}

structure Released (fd : Int) (ssl : Option Nat) (past : List Event) (s : State σ) : Prop where
  sock : s.connection.clientSock = fd ∨ s.connection.clientSock = 0
  object : s.connection.ssl = ssl ∨ s.connection.ssl = none
  closed : s.connection.clientSock = 0 → s.connection.ssl = none
  opened : isSocketActive s.connection → s.connection.ssl = ssl
  closes : ∀ d, past.count (.close d) = if d = fd ∧ s.connection.clientSock = 0 then 1 else 0
  frees : ∀ object, past.count (.sslFree object) =
    if ssl = some object ∧ s.connection.clientSock = 0 then 1 else 0

def Releases (fd : Int) (ssl : Option Nat) (s : State σ) (l : List Event) (t : State σ) (_ : Option Fault) : Prop :=
  ∀ past, Released fd ssl past s → Released fd ssl (past ++ l) t

theorem Releases.append {fd : Int} {ssl : Option Nat} {s t u : State σ} {l m : List Event} {f g : Option Fault}
    (first : Releases fd ssl s l t f) (second : Releases fd ssl t m u g) : Releases fd ssl s (l ++ m) u g := by
  intro past released
  rw [← List.append_assoc]
  exact second _ (first past released)

def Event.Retains : Event → Prop
  | .close _ | .sslFree _ => False
  | _ => True

theorem inwardRetains {e : Event} (h : e.Inward) : e.Retains := by
  cases e <;> first | exact h.elim | trivial

theorem sendRetains (c : DoIPConnection) (bytes : List UInt8) : (sendEvent c bytes).Retains := by
  unfold sendEvent
  split <;> trivial

theorem freedCloses (ssl : Option Nat) (d : Int) : (freed ssl).count (.close d) = 0 := by
  cases ssl <;> rfl

theorem freedFrees (ssl : Option Nat) (object : Nat) :
    (freed ssl).count (.sslFree object) = if ssl = some object then 1 else 0 := by
  cases ssl with
  | none => rfl
  | some ssl =>
    by_cases same : ssl = object <;> simp [freed,same]

section Rules
variable {fd : Int} {ssl : Option Nat} {s t : State σ} {l : List Event} {f : Option Fault}

theorem retainsReleases (retains : ∀ e ∈ l, e.Retains) (sock : t.connection.clientSock = s.connection.clientSock)
    (object : t.connection.ssl = s.connection.ssl) : Releases fd ssl s l t f := by
  intro past released
  have none (e : Event) (releasing : ¬ e.Retains) : (past ++ l).count e = past.count e := by
    rw [List.count_append,List.count_eq_zero.mpr (fun member => releasing (retains e member)),Nat.add_zero]
  constructor
  · rw [sock]; exact released.sock
  · rw [object]; exact released.object
  · rw [sock,object]; exact released.closed
  · rw [isSocketActive,sock,object]; exact released.opened
  · intro d
    rw [sock,none _ id]; exact released.closes d
  · intro object
    rw [sock,none _ id]; exact released.frees object

theorem closeSocketReleasesOnce {skipShutdown : Bool}
    (ran : closeSocket skipShutdown s = ⟨l,t,.ok ()⟩) : Releases fd ssl s l t f := by
  by_cases active : isSocketActive s.connection
  · obtain ⟨m,u,ran',events,connection,_⟩ := closeSocketReleases skipShutdown active
    cases ran.symm.trans ran'
    intro past released
    have own : s.connection.clientSock = fd := released.sock.resolve_right active
    have object := released.opened active
    have still : ∀ e, ¬ e.OfShutdown → m.count e = 0 :=
      fun e other => List.count_eq_zero.mpr (fun member => other (events e member))
    constructor
    · exact Or.inr (by rw [connection])
    · exact Or.inr (by rw [connection])
    · intro _; rw [connection]
    · intro opened
      rw [connection] at opened
      exact absurd rfl opened
    · intro d
      have before : past.count (.close d) = 0 := (released.closes d).trans (if_neg (fun both => active both.2))
      rw [List.count_append,List.count_append,List.count_append,before,still _ id,freedCloses,own,connection]
      by_cases same : d = fd
      · simp [same]
      · simp [same,Ne.symm same]
    · intro x
      have before : past.count (.sslFree x) = 0 := (released.frees x).trans (if_neg (fun both => active both.2))
      rw [List.count_append,List.count_append,List.count_append,before,still _ id,object,freedFrees,connection]
      simp
  · rw [closeInactive skipShutdown (Decidable.not_not.mp active)] at ran
    cases ran
    exact retainsReleases (by simp) rfl rfl

theorem readingReleases (reading : HasRead s l t) : Releases fd ssl s l t f := by
  have reads : ∀ {m : List Event}, (∀ e ∈ m, ∃ n, e = readEvent s.connection n) → ∀ e ∈ m, e.Retains := by
    intro m events e member
    obtain ⟨n,rfl⟩ := events e member
    unfold readEvent
    split <;> trivial
  cases reading with
  | reads events => exact retainsReleases (reads events) rfl rfl
  | @failed l m t object events _ handled =>
    have looked : Releases fd ssl s (l ++ [.sslError object (nextSslError s)]) s none :=
      retainsReleases (List.forall_mem_append.mpr ⟨reads events,List.forall_mem_singleton.mpr trivial⟩) rfl rfl
    rw [List.append_cons]
    cases handled with
    | @noted environment _ => exact looked.append (retainsReleases (by simp) rfl rfl)
    | @closed environment _ _ _ ran =>
      have asked : Releases fd ssl s [] {s with environment := environment} none := retainsReleases (by simp) rfl rfl
      exact looked.append (asked.append (closeSocketReleasesOnce ran))

end Rules

theorem releases (fd : Int) (ssl : Option Nat) : ConnectionRules (@Releases σ fd ssl) where
  composable := ⟨fun s past released => by rw [List.append_nil]; exact released,Releases.append⟩
  stopped := retainsReleases (by simp) rfl rfl
  inward inward := retainsReleases (List.forall_mem_singleton.mpr (inwardRetains inward)) rfl rfl
  asked := retainsReleases (by simp) rfl rfl
  applied := retainsReleases (by simp) rfl rfl
  timed _ := retainsReleases (by simp) rfl rfl
  routed := retainsReleases (by simp) rfl rfl
  sent _ sends := by
    obtain ⟨errors⟩ := sends
    refine retainsReleases (List.forall_mem_cons.mpr ⟨sendRetains _ _,fun e member => ?_⟩) rfl rfl
    obtain ⟨ssl,err,rfl,_⟩ := errors e member
    trivial
  read := readingReleases
  closed := closeSocketReleasesOnce
  expired {s l t now} ran := by
    have fired : Releases fd ssl s [.timeout now] (s.setTimer (·.expire)) none :=
      retainsReleases (List.forall_mem_singleton.mpr trivial) rfl rfl
    have notified : Releases fd ssl t [.closeConnection] t none :=
      retainsReleases (List.forall_mem_singleton.mpr trivial) rfl rfl
    exact (fired.append (closeSocketReleasesOnce (f := none) ran)).append notified
  unbound := retainsReleases (List.forall_mem_singleton.mpr trivial) rfl rfl
  triggered := retainsReleases (by simp [Event.Retains]) rfl rfl

def TurnedAway (action : GenericHeaderAction) (payload : Option Buffer) : Prop :=
  (action.type = .negativeAck ∧
    (action.value = incorrectPatternFormatCode ∨ action.value = invalidPayloadLengthCode)) ∨
  (action.type = .routingActivationRequest ∧
    ∃ code, parseRoutingActivation payload = .ok code ∧ code ≠ successfullyRoutedCode)

theorem turnedAwayReaction {app : Application σ} {action : GenericHeaderAction} {payload : Option Buffer} {s : State σ}
    {o : Outcome Fault Event (State σ) Int} (reaction : Reaction app action payload s o)
    (refused : TurnedAway action payload) : o.state.connection.clientSock = 0 := by
  cases reaction with
  | ignored nack routing _ => exact refused.elim (fun h => absurd h.1 nack) (fun h => absurd h.1 routing)
  | negativeAck type reaction =>
    have code := refused.resolve_right (fun h => by simp [type] at h)
    cases reaction with
    | closed _ closing => exact closing.closed.1
    | kept other _ => exact absurd code.2 other
  | activation d0 d1 d2 rest type bytes reaction =>
    obtain ⟨_,code,parsed,failed⟩ := refused.resolve_left (fun h => by simp [type] at h)
    rw [bytes,parsedRoutingActivation] at parsed
    cases parsed
    cases reaction with
    | refused _ closing => exact closing.closed.1
    | routed success _ => exact absurd success failed
  | diagnostic _ _ _ _ _ type _ _ _ => simp [TurnedAway,type] at refused
  | unreadable type _ => simp [TurnedAway,type] at refused

theorem turnedAwayDispatch {app : Application σ} {action : GenericHeaderAction} {payload : Option Buffer} {s : State σ}
    {o : Outcome Fault Event (State σ) Int} (dispatched : Dispatched app action payload s o)
    (refused : TurnedAway action payload) : o.state.connection.clientSock = 0 := by
  cases dispatched with
  | dispatched _ _ reaction =>
    rw [Outcome.prependState]
    exact turnedAwayReaction reaction refused

structure LeavesClosed (app : Application σ) (uninit : GenericHeaderAction) (inbox : List Arrival)
    (s : State σ) : Prop where
  unread : (∀ action payload, .received action payload ∉ (receiveTcpOrTlsMessage app uninit inbox s).log) →
    (∃ rest, (receiveTcpOrTlsMessage app uninit inbox s).result = .ok ⟨0,rest⟩) ∧
      (receiveTcpOrTlsMessage app uninit inbox s).state.connection.clientSock = 0
  refused : ∀ action payload, .received action payload ∈ (receiveTcpOrTlsMessage app uninit inbox s).log →
    TurnedAway action payload → (receiveTcpOrTlsMessage app uninit inbox s).state.connection.clientSock = 0

theorem dispatchLeavesClosed {app : Application σ} {uninit action : GenericHeaderAction} {payload : Option Buffer}
    {inbox rest : List Arrival} {s t : State σ} {l : List Event}
    (reading : Effect Event.OfReading (fun _ => False) s l t none)
    (dispatched : Dispatched app action payload t (messageReceived app action payload t))
    (ran : receiveTcpOrTlsMessage app uninit inbox s = ((do
      let sentBytes ← messageReceived app action payload
      pure ⟨sentBytes,rest⟩ : Doip σ Returned) t).prepend (.receiving::l)) : LeavesClosed app uninit inbox s := by
  have found := fun action' payload' => dispatchedOnce dispatched action' payload'
  constructor
  · intro none
    refine absurd ?_ (none action payload)
    rw [ran,Outcome.prependLog,returnLog]
    exact List.mem_append_right _ ((found action payload).mpr ⟨rfl,rfl⟩)
  · intro action' payload' member refused
    rw [ran,Outcome.prependLog,returnLog] at member
    rcases List.mem_append.mp member with before | after
    · exact absurd before (readingWithoutDispatch reading action' payload')
    · obtain ⟨rfl,rfl⟩ := (found action' payload').mp after
      rw [ran,Outcome.prependState,returnState]
      exact turnedAwayDispatch dispatched refused

theorem leavesClosed (app : Application σ) (uninit : GenericHeaderAction) (inbox : List Arrival) (s : State σ) :
    LeavesClosed app uninit inbox s := by
  have received := receives app uninit inbox s
  generalize ran : receiveTcpOrTlsMessage app uninit inbox s = o at received
  cases received with
  | @closed l m t u rest reading _ _ closing =>
    obtain ⟨shut,closed⟩ := closeSocketClosed closing
    have all := Effect.composable.trans reading.effect (closed.weaken (fun _ => Event.closingIsReading) (fun _ h => h))
    constructor
    · exact fun _ => ⟨⟨rest,by rw [ran]⟩,by rw [ran]; exact shut⟩
    · intro action payload member _
      rw [ran] at member
      exact absurd member (readingWithoutDispatch all action payload)
  | @frame l frame rest events _ _ _ =>
    exact dispatchLeavesClosed (readsEffect events) (messageReceivedDispatched app (.frame frame) frame.rules.bound s) ran
  | @mistaken l t action rest reading _ _ rules size =>
    exact dispatchLeavesClosed reading.effect (mistakenDispatched app rules size t) ran

theorem releasedOnce (app : Application σ) (ops : List Op) (inbox : List Arrival) {s : State σ} {fd : Int}
    {gateway : UInt16} {ssl : Option Nat} {startTime : Int} {maxSeconds : UInt16} (nonzero : fd ≠ 0)
    (constructed : s.connection = DoIPConnection.new fd gateway ssl startTime maxSeconds) :
    Released fd ssl (run app ops inbox s).log (run app ops inbox s).state ∧
      ∀ uninit later, LeavesClosed app uninit later (run app ops inbox s).state := by
  have start : Released fd ssl [] s := by
    constructor <;> simp [constructed,DoIPConnection.new,nonzero]
  exact ⟨(releases fd ssl).runMeets app ops inbox s [] start,fun uninit later => leavesClosed app uninit later _⟩

theorem releasedOnceTls : Released 5 (some 1)
      (run (Application.answering true) [.call .timerRound,.receive ⟨.negativeAck,0,0⟩,.receive ⟨.negativeAck,0,0⟩] []
        (State.opened (some 1))).log
      (run (Application.answering true) [.call .timerRound,.receive ⟨.negativeAck,0,0⟩,.receive ⟨.negativeAck,0,0⟩] []
        (State.opened (some 1))).state :=
  (releasedOnce _ _ _ (by decide) rfl).1

end LibDoip
