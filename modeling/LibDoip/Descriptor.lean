import LibDoip.Run

/-! Which channel the connection uses. Until it is closed it reads from and writes to the
descriptor it was built with, over TLS through the TLS object; once it is closed the two fields
that the sends and reads branch on select plain I/O on descriptor 0. -/
namespace LibDoip
open Library
variable {σ α : Type}

def Closed (past : List Event) : Prop := ∃ fd, .close fd ∈ past

def OwnDescriptor (fd : Int) (tls : Option Nat) (past : List Event) : Event → Prop
  | .recv used _ => ¬ Closed past ∧ used = fd
  | .write used _ => ¬ Closed past ∧ used = fd ∧ tls = none
  | .sslRead _ _ | .sslWrite _ _ => ¬ Closed past
  | _ => True

def Call.IsSend : Call → Prop
  | .sendDiagnosticPayload _ _ | .sendDiagnosticAck _ _ _ | .sendNegativeAck _ => True
  | _ => False

def StartedOpen (past : List Event) : Event → Prop
  | .receiving => ¬ Closed past
  | .called call => call.IsSend → ¬ Closed past
  | _ => True

structure Held (fd : Int) (tls : Option Nat) (past : List Event) (s : State σ) : Prop where
  opened : ¬ Closed past → s.connection.clientSock = fd ∧ s.connection.ssl = tls
  shut : Closed past → s.connection.clientSock = 0 ∧ s.connection.ssl = none

def descriptor (fd : Int) (tls : Option Nat) : Contract Fault Event (State σ) where
  assumes := StartedOpen
  keeps past l _ := Always (OwnDescriptor fd tls) past l
  invariant := Held fd tls
  nil _ := trivial
  append first second := (Always.append _ _ _).mpr ⟨first,second⟩

def Event.Idle : Event → Prop
  | .recv _ _ | .sslRead _ _ | .write _ _ | .sslWrite _ _ | .close _ => False
  | _ => True

theorem closedAppend (past l : List Event) : Closed (past ++ l) ↔ Closed past ∨ Closed l := by
  simp only [Closed,List.mem_append,exists_or]

theorem notClosed {past l : List Event} (before : ¬ Closed past) (later : ∀ e ∈ l, ∀ fd, e ≠ .close fd) :
    ¬ Closed (past ++ l) := by
  rw [closedAppend]
  rintro (closed | ⟨fd,member⟩)
  · exact before closed
  · exact later _ member fd rfl

theorem Held.same {fd : Int} {tls : Option Nat} {past l : List Event} {s t : State σ}
    (held : Held fd tls past s) (kept : ∀ e ∈ l, ∀ fd, e ≠ .close fd)
    (sock : t.connection.clientSock = s.connection.clientSock)
    (ssl : t.connection.ssl = s.connection.ssl) : Held fd tls (past ++ l) t := by
  have closed : Closed (past ++ l) → Closed past := by
    rw [closedAppend]
    rintro (before | ⟨used,member⟩)
    · exact before
    · exact absurd rfl (kept _ member used)
  refine ⟨fun opened => ?_,fun shut => ?_⟩
  · obtain ⟨first,second⟩ := held.opened (fun before => opened ((closedAppend _ _).mpr (Or.inl before)))
    exact ⟨sock.trans first,ssl.trans second⟩
  · obtain ⟨first,second⟩ := held.shut (closed shut)
    exact ⟨sock.trans first,ssl.trans second⟩

def Owns (fd : Int) (tls : Option Nat) (past : List Event) (s : State σ) (l : List Event) (t : State σ) : Prop :=
  Held fd tls past s → Always StartedOpen past l →
    Always (OwnDescriptor fd tls) past l ∧ Held fd tls (past ++ l) t

section Parts
variable {fd : Int} {tls : Option Nat} {past : List Event} {s t u : State σ} {l m : List Event}

theorem Owns.append (first : Owns fd tls past s l t) (second : Owns fd tls (past ++ l) t m u) :
    Owns fd tls past s (l ++ m) u := by
  intro held started
  obtain ⟨before,after⟩ := (Always.append past l m).mp started
  obtain ⟨left,middle⟩ := first held before
  obtain ⟨right,last⟩ := second middle after
  exact ⟨(Always.append past l m).mpr ⟨left,right⟩,by rw [← List.append_assoc]; exact last⟩

theorem idleNotClose {e : Event} (idle : e.Idle) (used : Int) : e ≠ .close used := by
  rintro rfl
  exact idle

theorem idleOwns (idle : ∀ e ∈ l, e.Idle) (sock : t.connection.clientSock = s.connection.clientSock)
    (ssl : t.connection.ssl = s.connection.ssl) : Owns fd tls past s l t := by
  intro held _
  refine ⟨Always.ofForall (fun past e member => ?_) past,held.same ?_ sock ssl⟩
  · have quiet := idle e member
    cases e <;> first | exact quiet.elim | trivial
  · exact fun e member => idleNotClose (idle e member)

theorem readsOwn (opened : ¬ Closed past) (events : ∀ e ∈ l, ∃ n, e = readEvent s.connection n) :
    Owns fd tls past s l s := by
  intro held _
  have open' : ∀ e ∈ l, ∀ used, e ≠ .close used := by
    rintro e member used rfl
    obtain ⟨n,same⟩ := events _ member
    unfold readEvent at same
    split at same <;> contradiction
  refine ⟨Always.ofSplit ?_,held.same open' rfl rfl⟩
  rintro before e after rfl
  have still : ¬ Closed (past ++ before) :=
    notClosed opened (fun e member => open' e (List.mem_append_left _ member))
  obtain ⟨n,rfl⟩ := events e (by simp)
  unfold readEvent
  split
  · exact still
  · exact ⟨still,(held.opened opened).1⟩

theorem sendOwns (opened : ¬ Closed past) (bytes : List UInt8)
    (errors : ∀ e ∈ l, ∃ ssl err, e = .sslError ssl err ∧ s.connection.ssl = some ssl)
    (sock : t.connection.clientSock = s.connection.clientSock)
    (ssl : t.connection.ssl = s.connection.ssl) :
    Owns fd tls past s (sendEvent s.connection bytes::l) t := by
  have quiet : ∀ e ∈ l, e.Idle := by
    intro e member
    obtain ⟨ssl,err,rfl,_⟩ := errors e member
    trivial
  have sent : Owns fd tls past s [sendEvent s.connection bytes] s := by
    intro held _
    obtain ⟨own,channel⟩ := held.opened opened
    unfold sendEvent
    split
    · rename_i plain
      exact ⟨⟨⟨opened,own,channel.symm.trans plain⟩,trivial⟩,held.same (by simp) rfl rfl⟩
    · exact ⟨⟨opened,trivial⟩,held.same (by simp) rfl rfl⟩
  exact sent.append (idleOwns quiet sock ssl)

theorem closeSocketOwns {skipShutdown : Bool} (ran : closeSocket skipShutdown s = ⟨l,t,.ok ()⟩) :
    Owns fd tls past s l t := by
  by_cases active : isSocketActive s.connection
  · obtain ⟨m,u,ran',closing,connection,_⟩ := closeSocketActive skipShutdown active
    cases ran.symm.trans ran'
    have quiet : ∀ e ∈ m, e.Idle := by
      intro e member
      have tlsClosing := closing e member
      cases e <;> first | exact tlsClosing.elim | trivial
    intro held _
    have shut : Closed (past ++ (m ++ [.close s.connection.clientSock])) :=
      ⟨s.connection.clientSock,by simp⟩
    have through := ((@idleOwns σ fd tls past s s m quiet rfl rfl) held
      (Always.ofForall (fun past e member => by
        have idle := closing e member
        cases e <;> first | exact idle.elim | trivial) past)).1
    refine ⟨(Always.append _ _ _).mpr ⟨through,trivial,trivial⟩,?_⟩
    exact ⟨fun opened => absurd shut opened,fun _ => by rw [connection]; exact ⟨rfl,rfl⟩⟩
  · rw [closeInactive skipShutdown (Decidable.not_not.mp active)] at ran
    cases ran
    exact idleOwns (by simp) rfl rfl

end Parts

section Calls
variable {fd : Int} {tls : Option Nat}
open Program

theorem idleMeets {x : Doip σ α} (h : ∀ s, (∀ e ∈ (x s).log, e.Idle) ∧
    (x s).state.connection.clientSock = s.connection.clientSock ∧
    (x s).state.connection.ssl = s.connection.ssl) : Meets (descriptor fd tls).relation x := by
  intro s past
  obtain ⟨idle,sock,ssl⟩ := h s
  exact idleOwns idle sock ssl

theorem closeSocketOwnsMeets (skipShutdown : Bool) :
    Meets (descriptor fd tls).relation (closeSocket skipShutdown : Doip σ Unit) := by
  intro s past
  obtain ⟨l,t,ran,_⟩ := closeSocketCloses skipShutdown s
  rw [ran]
  exact closeSocketOwns ran

theorem waitForResponseOwns : Meets (descriptor fd tls).relation (waitForResponse : Doip σ Unit) := by
  have composable := (@descriptor σ fd tls).composable
  refine meetsBind composable (idleMeets (by simp)) (fun c => meetsWhen composable (fun _ => ?_))
  refine meetsBind composable (idleMeets (by simp [State.setEnvironment])) (fun now =>
    meetsWhen composable (fun _ => ?_))
  refine meetsBind composable (idleMeets (fun s => ⟨by simp [Program.modify],rfl,rfl⟩)) (fun _ => ?_)
  refine meetsBind composable (idleMeets (fun s => ⟨by simp [Event.Idle],rfl,rfl⟩)) (fun _ => ?_)
  split
  · refine meetsBind composable (closeSocketOwnsMeets false) (fun _ => idleMeets ?_)
    exact fun s => ⟨by simp [Event.Idle],rfl,rfl⟩
  · exact idleMeets (fun s => ⟨by simp,rfl,rfl⟩)

theorem calledOwns {call : Call} (isSend : call.IsSend) {past : List Event} {s : State σ}
    {bytes : List UInt8} {o : Outcome Fault Event (State σ) Int} (sends : Sends s bytes o) :
    Owns fd tls past s (.called call::o.log) o.state := by
  obtain ⟨errors⟩ := sends
  rename_i tail environment value
  intro held started
  have opened : ¬ Closed (past ++ [.called call]) := notClosed (started.1 isSend) (by simp)
  have called : Owns fd tls past s [.called call] s := idleOwns (by simp [Event.Idle]) rfl rfl
  have sent := @sendOwns σ fd tls _ s {s with environment := environment} tail opened bytes errors rfl rfl
  exact (called.append sent) held started

theorem sendingOwns {call : Call} (isSend : call.IsSend) {x : Doip σ Int} {s : State σ}
    (sends : (∃ bytes, Sends s bytes (x s)) ∨ ∃ e, x s = ⟨[],s,.error e⟩) :
    At (descriptor fd tls).relation (do
      Program.emit (.called call)
      let _ ← x
      pure (0 : Int)) s := by
  rw [At,bindApply,emitApply,Outcome.andThenOk,bindApply]
  rcases sends with ⟨bytes,sent⟩ | ⟨e,stopped⟩
  · generalize x s = o at sent
    have owns := fun past => @calledOwns σ fd tls call isSend past s bytes o sent
    obtain ⟨errors⟩ := sent
    simp only [Outcome.andThenOk,pureApply,Outcome.prependMk,List.append_nil]
    exact owns
  · rw [stopped]
    exact fun past => idleOwns (by simp [Event.Idle]) rfl rfl

theorem performOwns (call : Call) : Meets (descriptor fd tls).relation (perform call : Doip σ Int) := by
  have composable := (@descriptor σ fd tls).composable
  have called : Meets (descriptor fd tls).relation (Program.emit (.called call) : Doip σ Unit) :=
    idleMeets (fun s => ⟨by simp [Event.Idle],rfl,rfl⟩)
  have answered : ∀ {α : Type} {x : Doip σ α}, Meets (descriptor fd tls).relation x →
      Meets (descriptor fd tls).relation (do let _ ← x; pure (0 : Int)) :=
    fun h => meetsBind composable h (fun _ => meetsPure composable _)
  cases call with
  | triggerDisconnection =>
    refine meetsBind composable called (fun _ => answered ?_)
    exact idleMeets (fun s => ⟨by simp [triggerDisconnection,Event.Idle],rfl,rfl⟩)
  | setGeneralInactivityTime seconds =>
    refine meetsBind composable called (fun _ => answered (idleMeets (fun s => ?_)))
    unfold setGeneralInactivityTime
    split <;> exact ⟨by simp,rfl,rfl⟩
  | isSocketActive =>
    refine meetsBind composable called (fun _ => meetsBind composable (idleMeets (by simp)) (fun _ => ?_))
    exact meetsPure composable _
  | timerRound => exact meetsBind composable called (fun _ => answered waitForResponseOwns)
  | sendNegativeAck ackCode =>
    intro s past
    have isSend : (Call.sendNegativeAck ackCode).IsSend := trivial
    exact calledOwns isSend (sendNegativeAckSends ackCode s)
  | sendDiagnosticAck sourceAddress ackType ackCode =>
    intro s
    refine @sendingOwns σ fd tls (.sendDiagnosticAck sourceAddress ackType ackCode) trivial _ s ?_
    cases routed : s.connection.routedClientAddress with
    | none => exact Or.inr ⟨_,sendDiagnosticAckUnrouted sourceAddress ackType ackCode routed⟩
    | some registered => exact Or.inl ⟨_,sendDiagnosticAckSends sourceAddress ackType ackCode routed⟩
  | sendDiagnosticPayload sourceAddress data =>
    intro s
    refine @sendingOwns σ fd tls (.sendDiagnosticPayload sourceAddress data) trivial _ s ?_
    cases routed : s.connection.routedClientAddress with
    | none => exact Or.inr ⟨_,sendDiagnosticPayloadUnrouted sourceAddress data routed⟩
    | some registered => exact Or.inl ⟨_,sendDiagnosticPayloadSends sourceAddress data routed⟩

theorem callbackOwns (script : Script Call Int α) :
    Meets (descriptor fd tls).relation (script.interpret perform : Doip σ α) :=
  Script.interpretMeets (descriptor fd tls).composable script.callsTrue (fun call _ => performOwns call)

end Calls

section Reactions
variable {fd : Int} {tls : Option Nat} {app : Application σ} {past : List Event} {s t : State σ}
  {l : List Event}

theorem noticeOwns {targetAddress : UInt16} {o : Outcome Fault Event (State σ) Bool}
    (h : Notified app targetAddress s o) : Owns fd tls past s o.log o.state := by
  have calls := @callbackOwns σ _ fd tls (app.notifyApplication s.application targetAddress) s
  have first : Owns fd tls past s [.notifyApplication targetAddress] s :=
    idleOwns (by simp [Event.Idle]) rfl rfl
  cases h with
  | stopped _ ran =>
    rw [Program.At,ran] at calls
    exact first.append (calls _)
  | answered _ ran =>
    rw [Program.At,ran] at calls
    exact (first.append (calls _)).append (idleOwns (by simp [Event.Idle]) rfl rfl)

theorem deliveryOwns {targetAddress : UInt16} {data : List UInt8} {length : Int}
    {o : Outcome Fault Event (State σ) Unit} (h : Delivered app targetAddress data length s o) :
    Owns fd tls past s o.log o.state := by
  have calls := @callbackOwns σ _ fd tls (app.diagCallback s.application targetAddress data length) s
  have first : Owns fd tls past s [.diagCallback targetAddress data length] s :=
    idleOwns (by simp [Event.Idle]) rfl rfl
  cases h with
  | stopped _ ran =>
    rw [Program.At,ran] at calls
    exact first.append (calls _)
  | returned _ ran =>
    rw [Program.At,ran] at calls
    have after := first.append (calls _)
    exact fun held started => ⟨(after held started).1,⟨(after held started).2.opened,(after held started).2.shut⟩⟩

theorem diagnosticOwns {d0 d1 d2 d3 : UInt8} {data : List UInt8} {o : Outcome Fault Event (State σ) Int}
    (h : DiagnosticReaction app d0 d1 d2 d3 data s o) : Owns fd tls past s o.log o.state := by
  cases h with
  | stopped notified => exact noticeOwns notified
  | unheard notified _ => exact noticeOwns notified
  | unrouted notified _ _ => exact noticeOwns notified
  | delivered notified _ _ delivered =>
    exact Owns.append (noticeOwns notified) (deliveryOwns delivered)

theorem closingOwns {bytes : List UInt8} (opened : ¬ Closed past) (h : ClosesAfter s l t) :
    Owns fd tls past s (sendEvent s.connection bytes::l) t := by
  obtain ⟨errors,ran⟩ := h
  rename_i tail m environment
  have sent := @sendOwns σ fd tls past s {s with environment := environment} tail opened bytes errors rfl rfl
  exact sent.append (closeSocketOwns ran)

theorem negativeAckOwns {value : UInt8} {o : Outcome Fault Event (State σ) Int} (opened : ¬ Closed past)
    (h : NegativeAckReaction value s o) : Owns fd tls past s o.log o.state := by
  cases h with
  | closed _ closing => exact closingOwns opened closing
  | kept _ errors => exact sendOwns opened _ errors rfl rfl

theorem activationOwns {address : Address} {code : UInt8} {o : Outcome Fault Event (State σ) Int}
    (opened : ¬ Closed past) (h : ActivationReaction address code s o) :
    Owns fd tls past s o.log o.state := by
  cases h with
  | refused _ closing => exact closingOwns opened closing
  | @routed l t v _ started =>
    have sent := @sendOwns σ fd tls past s s [] opened (activationResponseBytes
      s.connection.logicalGatewayAddress address code) (by simp) rfl rfl
    refine sent.append (idleOwns ?_ started.sock started.ssl)
    intro e member
    have starting := started.events e member
    cases e <;> first | exact starting.elim | trivial

def Silenced (action : GenericHeaderAction) (payload : Option Buffer) : Prop :=
  action.type ≠ .negativeAck ∧ action.type ≠ .routingActivationRequest ∧
    0 < action.payloadLength.toNat ∧ payload = some (Buffer.alloc action.payloadLength.toNat)

theorem reactionOwns {action : GenericHeaderAction} {payload : Option Buffer}
    {o : Outcome Fault Event (State σ) Int} (able : ¬ Closed past ∨ Silenced action payload)
    (h : Reaction app action payload s o) : Owns fd tls past s o.log o.state := by
  cases h with
  | ignored => exact idleOwns (by simp) rfl rfl
  | unreadable => exact idleOwns (by simp) rfl rfl
  | negativeAck type reaction =>
    exact negativeAckOwns (able.resolve_right (fun silenced => silenced.1 type)) reaction
  | activation d0 d1 d2 rest type _ reaction =>
    exact activationOwns (able.resolve_right (fun silenced => silenced.2.1 type)) reaction
  | diagnostic d0 d1 d2 d3 data _ _ _ reaction => exact diagnosticOwns reaction

theorem dispatchOwns {action : GenericHeaderAction} {payload : Option Buffer}
    {o : Outcome Fault Event (State σ) Int} (able : ¬ Closed past ∨ Silenced action payload)
    (h : Dispatched app action payload s o) : Owns fd tls past s o.log o.state := by
  cases h with
  | @dispatched resets t o reset retimed reaction =>
    have idle : ∀ e ∈ resets ++ [.received action payload], e.Idle := by
      intro e member
      rcases List.mem_append.mp member with before | last
      · obtain ⟨now,rfl⟩ := reset e before
        trivial
      · cases List.mem_singleton.mp last
        trivial
    have later : ¬ Closed (past ++ (resets ++ [.received action payload])) ∨ Silenced action payload :=
      able.imp (fun opened => notClosed opened (fun e member => idleNotClose (idle e member))) id
    exact (idleOwns idle retimed.sock retimed.ssl).append (reactionOwns later reaction)

end Reactions

/- Over TLS a header that is answered with a negative acknowledge declares 0xFFFFFFFF bytes, and
the error behind the refused read closes the connection. -/
def FatalClash (uninit : GenericHeaderAction) (inbox : List Arrival) (s : State σ) : Prop :=
  s.connection.ssl ≠ none ∧ s.connection.aliveCheckTimer.timeout = false ∧ (nextSslError s).Fatal ∧
    ∃ action rest, splitHeader uninit (Inbox.stream inbox) = some (action,rest) ∧
      action.type = .negativeAck ∧ action.payloadLength.toNat = 4294967295

section Receiving
variable {fd : Int} {tls : Option Nat}

theorem readStaysOpen {past l : List Event} {s : State σ} (opened : ¬ Closed past)
    (events : ∀ e ∈ l, ∃ n, e = readEvent s.connection n) : ¬ Closed (past ++ l) := by
  refine notClosed opened ?_
  rintro e member used rfl
  obtain ⟨n,same⟩ := events _ member
  unfold readEvent at same
  split at same <;> contradiction

theorem hasReadOwns {past l : List Event} {s t : State σ} (opened : ¬ Closed past) (h : HasRead s l t) :
    Owns fd tls past s l t ∧ (¬ (nextSslError s).Fatal → ¬ Closed (past ++ l)) := by
  cases h with
  | reads events => exact ⟨readsOwn opened events,fun _ => readStaysOpen opened events⟩
  | @failed l m t ssl events _ handled =>
    have error : Owns fd tls (past ++ l) s [.sslError ssl (nextSslError s)] s :=
      idleOwns (by simp [Event.Idle]) rfl rfl
    cases handled with
    | noted _ =>
      refine ⟨(readsOwn opened events).append (error.append (idleOwns (by simp) rfl rfl)),fun _ => ?_⟩
      rw [← List.append_assoc]
      exact notClosed (readStaysOpen opened events) (by simp)
    | closed fatal ran =>
      refine ⟨(readsOwn opened events).append (error.append ?_),fun mild => absurd fatal mild⟩
      have closing := @closeSocketOwns σ fd tls (past ++ l ++ [.sslError ssl (nextSslError s)]) _ _ _ _ ran
      exact fun held started => closing ⟨held.opened,held.shut⟩ started

theorem receiveOwns (app : Application σ) {uninit : GenericHeaderAction} {inbox : List Arrival} {s : State σ}
    (noticed : ¬ FatalClash uninit inbox s) :
    Program.At (descriptor fd tls).relation (receiveTcpOrTlsMessage app uninit inbox) s := by
  intro past held started
  have received := receives app uninit inbox s
  have receiving : Owns fd tls past s [.receiving] s := idleOwns (by simp [Event.Idle]) rfl rfl
  have opening : ¬ Closed past → ¬ Closed (past ++ [.receiving]) := fun opened => notClosed opened (by simp)
  generalize receiveTcpOrTlsMessage app uninit inbox s = o at received started
  cases received with
  | @closed l m t u rest reading _ _ ran =>
    have opened := opening started.1
    have owns := receiving.append ((hasReadOwns opened reading).1.append (closeSocketOwns ran))
    exact owns held started
  | @frame l frame rest events _ _ _ =>
    have opened := opening started.1
    have dispatched := messageReceivedDispatched app (.frame frame) frame.rules.bound s
    have owns := receiving.append ((readsOwn opened events).append
      (dispatchOwns (Or.inl (readStaysOpen opened events)) dispatched))
    rw [Outcome.prependLog,returnLog] at started ⊢
    rw [Outcome.prependState,returnState]
    exact owns held started
  | @mistaken l t action rest reading clash header rules size =>
    have opened := opening started.1
    have other := rules.notActivation (by omega)
    obtain ⟨read,open'⟩ := @hasReadOwns σ fd tls _ _ _ _ opened reading
    have able : ¬ Closed (past ++ [.receiving] ++ l) ∨
        Silenced action (some (Buffer.alloc action.payloadLength.toNat)) := by
      by_cases fatal : (nextSslError s).Fatal
      · obtain ⟨bytes,found⟩ := header
        refine Or.inr ⟨fun type => noticed ?_,other,by omega,rfl⟩
        exact ⟨clash.1,clash.2.1,fatal,action,bytes,found,type,size⟩
      · exact Or.inl (open' fatal)
    have dispatched := mistakenDispatched app rules size t
    have owns := receiving.append (read.append (dispatchOwns able dispatched))
    rw [Outcome.prependLog,returnLog] at started ⊢
    rw [Outcome.prependState,returnState]
    exact owns held started

end Receiving

def ClashFree (op : Op) (inbox : List Arrival) (s : State σ) : Prop := match op with
  | .receive uninit => ¬ FatalClash uninit inbox s
  | .call _ => True

theorem ownDescriptor (app : Application σ) (ops : List Op) (inbox : List Arrival) (s : State σ)
    (fd : Int) (gateway : UInt16) (tls : Option Nat) (startTime : Int) (maxSeconds : UInt16)
    (built : s.connection = DoIPConnection.new fd gateway tls startTime maxSeconds)
    (clashFree : EachStep ClashFree app ops inbox s)
    (started : Always StartedOpen [] (run app ops inbox s).log) :
    Always (OwnDescriptor fd tls) [] (run app ops inbox s).log := by
  have composable := (@descriptor σ fd tls).composable
  have step : ∀ op inbox s, ClashFree op inbox s →
      Program.At (descriptor fd tls).relation (step app op inbox) s := by
    intro op inbox s free
    cases op with
    | receive uninit => exact stepReceiveAt composable (receiveOwns app free)
    | call call => exact stepCallMeets composable (performOwns call) inbox s
  have start : Held fd tls [] s := by
    have empty : ¬ Closed [] := by simp [Closed]
    exact ⟨fun _ => by rw [built]; exact ⟨rfl,rfl⟩,fun shut => absurd shut empty⟩
  exact (Program.iterateAt composable step clashFree [] start started).1

section Scenario

def refusedFrame : Frame := ⟨⟨.negativeAck,0x00,0⟩,[],⟨by decide,by decide,by decide⟩,rfl⟩

def refusedInbox : List Arrival := [.data 0x00 [0x00,0x00,0x00,0x00,0x00,0x00,0x00]]

def refusedState : State Unit := ⟨⟨0,⟨false,false,false,false,0,0,0⟩,none,0x0E80,none⟩,⟨[],[],[],[],0⟩,()⟩

theorem refusedLog (call : Call) : ∃ l, (∀ e ∈ l, ∃ n, e = .recv 5 n) ∧
    (run (Application.answering true) [.receive ⟨.negativeAck,0,0⟩,.call call] refusedInbox
      (State.opened none)).log = .receiving::l ++ [.received refusedFrame.action none,
        .write 5 (negativeAckBytes 0x00),.close 5] ++ (perform call refusedState).log := by
  have refused : messageReceived (Application.answering true) refusedFrame.action refusedFrame.pointer
      (State.opened none) = ⟨[.received refusedFrame.action none,.write 5 (negativeAckBytes 0x00),.close 5],
        refusedState,.ok (-1)⟩ := rfl
  obtain ⟨l,rest,ran,_,events⟩ := @receivesFrame Unit (Application.answering true) ⟨.negativeAck,0,0⟩
    refusedInbox (State.opened none) refusedFrame [] rfl rfl rfl
  refine ⟨l,events,?_⟩
  rw [Program.bindApply,refused] at ran
  simp only [run,Program.iterate,step,Program.bindApply,ran,Outcome.andThenOk,Program.pureApply,Outcome.prependMk,
    Outcome.prependLog,List.append_nil]
  generalize perform call refusedState = o
  obtain ⟨m,t,r⟩ := o
  cases r <;> simp

theorem ownDescriptorRefused : Always (OwnDescriptor 5 none) [] (run (Application.answering true)
    [.receive ⟨.negativeAck,0,0⟩,.call .triggerDisconnection] refusedInbox (State.opened none)).log := by
  refine ownDescriptor _ _ _ _ 5 0x0E80 none 0 0 rfl ⟨fun clash => clash.1 rfl,fun _ _ => ⟨trivial,fun _ _ => trivial⟩⟩ ?_
  obtain ⟨l,events,log⟩ := refusedLog .triggerDisconnection
  rw [log]
  have reads : ∀ past, Always StartedOpen past l := by
    refine Always.ofForall (fun past e member => ?_)
    obtain ⟨n,rfl⟩ := events e member
    trivial
  have first : StartedOpen [] .receiving := by simp [StartedOpen,Closed]
  exact (Always.append _ _ _).mpr ⟨(Always.append _ _ _).mpr ⟨⟨first,reads _⟩,trivial,trivial,trivial,trivial⟩,
    (fun isSend => isSend.elim),trivial,trivial⟩

/- After the refusal the application sends a negative acknowledge: it is written to descriptor 0. -/
theorem closedDescriptorWritten : ¬ ∀ (ops : List Op) (inbox : List Arrival),
    Always (OwnDescriptor 5 none) [] (run (Application.answering true) ops inbox (State.opened none)).log := by
  intro stated
  obtain ⟨l,_,log⟩ := refusedLog (.sendNegativeAck 0x00)
  have sent : (perform (.sendNegativeAck 0x00) refusedState).log =
      [.called (.sendNegativeAck 0x00)] ++ .write 0 (negativeAckBytes 0x00)::[] := rfl
  have always := stated [.receive ⟨.negativeAck,0,0⟩,.call (.sendNegativeAck 0x00)] refusedInbox
  rw [log,sent,← List.append_assoc] at always
  have written := always.split rfl
  exact absurd written.2.1 (by decide)

end Scenario
end LibDoip
