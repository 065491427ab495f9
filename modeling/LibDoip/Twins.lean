import LibDoip.Receiving
import LibDoip.Library.Agreement

/-! Two connections side by side, the first over plain TCP, the second perhaps over TLS. They are twins when
they are the same but for the TLS object. What either does after a frame is dispatched looks the same from
outside: the same replies, whichever call writes them, the same callbacks, and twins again. -/
namespace LibDoip
open Library
variable {σ α β : Type}

inductive Outward where
  | reply (message : List UInt8)
  | event (e : Event)
  deriving DecidableEq, Repr

def Event.outward : Event → Option Outward
  | .write _ message | .sslWrite _ message => some (.reply message)
  | .recv _ _ | .sslRead _ _ | .sslError _ _ | .sslShutdown _ | .sslFree _ => none
  | e => some (.event e)

structure SameSurroundings (s t : State σ) : Prop where
  writes : t.environment.writes = s.environment.writes
  ticks : t.environment.ticks = s.environment.ticks
  now : t.environment.now = s.environment.now

/- A write of a message fails with -1 or writes some of it. -/
structure Twins (s t : State σ) : Prop where
  connection : s.connection = {t.connection with ssl := none}
  surroundings : SameSurroundings s t
  application : t.application = s.application
  delivers : ∀ w ∈ t.environment.writes, w = -1 ∨ 0 < w

abbrev Twinned (x : Doip σ α) : Prop := InStep Event.outward Twins x x

theorem SameSurroundings.refl (s : State σ) : SameSurroundings s s := ⟨rfl,rfl,rfl⟩

theorem SameSurroundings.trans {s t u : State σ} (first : SameSurroundings s t) (second : SameSurroundings t u) :
    SameSurroundings s u :=
  ⟨second.writes.trans first.writes,second.ticks.trans first.ticks,second.now.trans first.now⟩

theorem SameSurroundings.symm {s t : State σ} (h : SameSurroundings s t) : SameSurroundings t s :=
  ⟨h.writes.symm,h.ticks.symm,h.now.symm⟩

namespace Twins

theorem plain {s t : State σ} (twins : Twins s t) : s.connection.ssl = none := by rw [twins.connection]

theorem setConnection {s t : State σ} (twins : Twins s t) {f : DoIPConnection → DoIPConnection}
    (commutes : ∀ c, f {c with ssl := none} = {f c with ssl := none}) :
    Twins (s.setConnection f) (t.setConnection f) := by
  refine ⟨?_,⟨twins.surroundings.writes,twins.surroundings.ticks,twins.surroundings.now⟩,twins.application,
    twins.delivers⟩
  show f s.connection = {f t.connection with ssl := none}
  rw [twins.connection,commutes]

theorem later {s t s' t' : State σ} (twins : Twins s t) (connection : s'.connection = {t'.connection with ssl := none})
    (left : SameSurroundings s s') (right : SameSurroundings t t') (first : s'.application = s.application)
    (second : t'.application = t.application) : Twins s' t' :=
  ⟨connection,(left.symm.trans twins.surroundings).trans right,by rw [second,first,twins.application],
    by rw [right.writes]; exact twins.delivers⟩

end Twins

theorem readConnection {γ δ : Type} {post : γ → δ → State σ → State σ → Prop} {f : DoIPConnection → Doip σ γ}
    {g : DoIPConnection → Doip σ δ}
    (later : ∀ c, Agree Event.outward Twins (f {c with ssl := none}) (g c) post) :
    Agree Event.outward Twins (connection >>= f) (connection >>= g) post := by
  intro s t twins
  rw [Program.bindApply,Program.bindApply,connectionApply,connectionApply,Outcome.andThenOk,Outcome.andThenOk,
    Outcome.prependNil,Outcome.prependNil,twins.connection]
  exact later t.connection s t twins

theorem setTimerTwinned (f : AliveCheckTimer → AliveCheckTimer) :
    Twinned (Program.modify (·.setTimer f) : Doip σ Unit) :=
  InStep.modify (fun _ _ twins => twins.setConnection (fun _ => rfl))

theorem clockTwinned : Twinned (clock : Doip σ Nat) := by
  intro s t twins
  have same := twins.surroundings
  rw [clockApply,clockApply,same.ticks,same.now]
  refine .returned rfl ⟨rfl,twins.connection,⟨same.writes,?_,?_⟩,twins.application,twins.delivers⟩
  · exact congrArg List.tail same.ticks
  · show t.environment.now + t.environment.ticks.headD 0 = s.environment.now + s.environment.ticks.headD 0
    rw [same.now,same.ticks]

section Closing
open Program

def KeepsSurroundings (s : State σ) (_ : List Event) (t : State σ) (_ : Option Fault) : Prop := SameSurroundings s t

theorem keepsSurroundings : Composable (@KeepsSurroundings σ) := ⟨SameSurroundings.refl,SameSurroundings.trans⟩

theorem emitKeeps (e : Event) : Meets (@KeepsSurroundings σ) (Program.emit e) := fun s => .refl s

theorem connectionKeeps : Meets (@KeepsSurroundings σ) connection := by
  intro s
  rw [At,connectionApply]
  exact .refl s

theorem parseSslErrorKeeps (ssl : Nat) : Meets (@KeepsSurroundings σ) (parseSslError ssl) := fun _ => ⟨rfl,rfl,rfl⟩

theorem sslShutdownKeeps (ssl : Nat) : Meets (@KeepsSurroundings σ) (sslShutdown ssl) := fun _ => ⟨rfl,rfl,rfl⟩

theorem shutdownSslKeeps (ssl : Nat) : Meets (@KeepsSurroundings σ) (shutdownSsl ssl) := by
  refine meetsBind keepsSurroundings (sslShutdownKeeps ssl) (fun first => meetsBind keepsSurroundings ?_ (fun ret => ?_))
  · unfold retryShutdown
    split
    · exact sslShutdownKeeps ssl
    · exact meetsPure keepsSurroundings _
  · exact meetsWhen keepsSurroundings (fun _ => meetsBind keepsSurroundings (parseSslErrorKeeps ssl) (fun _ =>
      meetsPure keepsSurroundings _))

theorem closeSocketKeeps (skipShutdown : Bool) : Meets (@KeepsSurroundings σ) (closeSocket skipShutdown) := by
  refine meetsBind keepsSurroundings connectionKeeps (fun c => meetsWhen keepsSurroundings (fun _ => ?_))
  refine meetsBind keepsSurroundings ?_ (fun _ => meetsBind keepsSurroundings (emitKeeps _) (fun _ _ => ⟨rfl,rfl,rfl⟩))
  cases c.ssl with
  | none => exact meetsPure keepsSurroundings _
  | some ssl =>
    refine meetsBind keepsSurroundings (meetsWhen keepsSurroundings (fun _ => shutdownSslKeeps ssl)) (fun _ => ?_)
    exact meetsBind keepsSurroundings (emitKeeps _) (fun _ _ => ⟨rfl,rfl,rfl⟩)

structure ClosedOutward (s : State σ) (l : List Event) (t : State σ) : Prop where
  seen : l.filterMap Event.outward = [.event (.close s.connection.clientSock)]
  connection : t.connection = {s.connection with clientSock := 0, ssl := none}
  application : t.application = s.application

theorem tlsClosingUnseen {l : List Event} (events : ∀ e ∈ l, e.OfTlsClosing) : l.filterMap Event.outward = [] := by
  refine List.filterMap_eq_nil_iff.mpr (fun e member => ?_)
  have closing := events e member
  cases e <;> first | exact closing.elim | rfl

theorem closeSocketOutward {skipShutdown : Bool} {s t : State σ} {l : List Event}
    (active : isSocketActive s.connection) (ran : closeSocket skipShutdown s = ⟨l,t,.ok ()⟩) : ClosedOutward s l t := by
  obtain ⟨m,u,ran',events,connection,application⟩ := closeSocketActive skipShutdown active
  cases ran.symm.trans ran'
  refine ⟨?_,connection,application⟩
  rw [List.filterMap_append,tlsClosingUnseen events]
  rfl

theorem twinsClosed {s t s' t' : State σ} {l m : List Event} (twins : Twins s t) (left : ClosedOutward s l s')
    (right : ClosedOutward t m t') (first : SameSurroundings s s') (second : SameSurroundings t t') :
    l.filterMap Event.outward = m.filterMap Event.outward ∧ Twins s' t' := by
  refine ⟨by rw [left.seen,right.seen,twins.connection],?_⟩
  refine twins.later ?_ first second left.application right.application
  rw [left.connection,right.connection,twins.connection]

theorem closeSocketTwinned (skipShutdown : Bool) : Twinned (closeSocket skipShutdown : Doip σ Unit) := by
  intro s t twins
  have first := closeSocketKeeps skipShutdown s
  have second := closeSocketKeeps skipShutdown t
  by_cases active : isSocketActive t.connection
  · have active' : isSocketActive s.connection := by rw [twins.connection]; exact active
    obtain ⟨l,s',ran,_,_⟩ := closeSocketCloses skipShutdown s
    obtain ⟨m,t',ran',_,_⟩ := closeSocketCloses skipShutdown t
    rw [At,ran] at first
    rw [At,ran'] at second
    obtain ⟨seen,twins'⟩ := twinsClosed twins (closeSocketOutward active' ran) (closeSocketOutward active ran') first second
    rw [ran,ran']
    exact .returned seen ⟨rfl,twins'⟩
  · have closed := Decidable.not_not.mp active
    have closed' : s.connection.clientSock = 0 := by rw [twins.connection]; exact closed
    rw [closeInactive skipShutdown closed,closeInactive skipShutdown closed']
    exact .returned rfl ⟨rfl,twins⟩

theorem aliveCheckTimeoutTwinned : Twinned (aliveCheckTimeout : Doip σ Unit) :=
  InStep.next (closeSocketTwinned false) (fun _ => InStep.emit rfl)

theorem waitForResponseTwinned : Twinned (waitForResponse : Doip σ Unit) := by
  refine readConnection (fun c => InStep.whenBoth Iff.rfl (fun _ _ => ?_))
  refine InStep.next clockTwinned (fun now => InStep.whenBoth Iff.rfl (fun _ _ => ?_))
  refine InStep.next (setTimerTwinned _) (fun _ => InStep.next (InStep.emit rfl) (fun _ => ?_))
  cases c.aliveCheckTimer.cb with
  | false => exact Agree.throw
  | true => exact aliveCheckTimeoutTwinned

end Closing

section Sending

theorem writeDelivers {s t : State σ} (twins : Twins s t) {n : Nat} (some : 0 < n) :
    t.environment.writes.headD n = -1 ∨ 0 < t.environment.writes.headD n := by
  cases held : t.environment.writes with
  | nil => exact Or.inr (Int.natCast_pos.mpr some)
  | cons w rest => exact twins.delivers w (by rw [held]; exact List.mem_cons_self)

theorem Twins.written {s t s' t' : State σ} (twins : Twins s t)
    (left : s' = s.setEnvironment (fun e => {e with writes := e.writes.tail}))
    (connection : t'.connection = t.connection) (writes : t'.environment.writes = t.environment.writes.tail)
    (ticks : t'.environment.ticks = t.environment.ticks) (now : t'.environment.now = t.environment.now)
    (application : t'.application = t.application) : Twins s' t' := by
  subst left
  refine ⟨by rw [connection]; exact twins.connection,⟨?_,ticks.trans twins.surroundings.ticks,
    now.trans twins.surroundings.now⟩,application.trans twins.application,?_⟩
  · rw [writes,twins.surroundings.writes]
    rfl
  · rw [writes]
    exact fun w member => twins.delivers w (List.mem_of_mem_tail member)

theorem sendMessageTwinned {bytes : List UInt8} {n : Int} (size : n = bytes.length) (some : 0 < bytes.length)
    (fits : bytes.length < 18446744073709551616) : Twinned (sendMessage (Buffer.filled bytes) n : Doip σ Int) := by
  intro s t twins
  have whole : (Buffer.filled bytes).contents (intToUnsignedLong n) = .ok bytes :=
    Buffer.contentsExact (messageSize size fits)
  have plainly : ∀ u : State σ, u.connection.ssl = none → sendMessage (Buffer.filled bytes) n u =
      ⟨[.write u.connection.clientSock bytes],u.setEnvironment (fun e => {e with writes := e.writes.tail}),
        .ok (u.environment.writes.headD bytes.length)⟩ := by
    intro u plain
    simp [sendMessage,whole,plain]
  have delivers := writeDelivers twins some
  have result : s.environment.writes.headD bytes.length = t.environment.writes.headD bytes.length := by
    rw [twins.surroundings.writes]
  rw [plainly s twins.plain,result]
  cases tls : t.connection.ssl with
  | none =>
    rw [plainly t tls]
    exact .returned rfl ⟨rfl,twins.written rfl rfl rfl rfl rfl rfl⟩
  | some ssl =>
    by_cases failed : t.environment.writes.headD bytes.length ≤ 0
    · have lost : t.environment.writes.headD bytes.length = -1 := delivers.resolve_right (by omega)
      have sent : sendMessage (Buffer.filled bytes) n t = ⟨[.sslWrite ssl bytes,.sslError ssl (nextSslError t)],
          t.setEnvironment (fun e => {e with writes := e.writes.tail, sslErrors := e.sslErrors.tail}),.ok (-1)⟩ := by
        simp only [sendMessage,Program.bindApply,connectionApply,Outcome.andThenOk,Program.liftApply,
          whole,tls,Program.emitApply,writeResultApply,if_pos failed,parseSslErrorApply,Program.pureApply,Outcome.prependMk]
        rfl
      rw [sent,lost]
      exact .returned rfl ⟨rfl,twins.written rfl rfl rfl rfl rfl rfl⟩
    · have sent : sendMessage (Buffer.filled bytes) n t = ⟨[.sslWrite ssl bytes],
          t.setEnvironment (fun e => {e with writes := e.writes.tail}),.ok (t.environment.writes.headD bytes.length)⟩ := by
        simp only [sendMessage,Program.bindApply,connectionApply,Outcome.andThenOk,Program.liftApply,
          whole,tls,Program.emitApply,writeResultApply,if_neg failed,Program.pureApply,Outcome.prependMk]
        rfl
      rw [sent]
      exact .returned rfl ⟨rfl,twins.written rfl rfl rfl rfl rfl rfl⟩

theorem sendNegativeAckTwinned (ackCode : UInt8) : Twinned (sendNegativeAck ackCode : Doip σ Int) := by
  rw [sendNegativeAck,createdNegativeAck,Program.liftOkBind,storedNegativeAck,Program.liftOkBind]
  exact sendMessageTwinned rfl (by simp [negativeAckBytes]) (by simp [negativeAckBytes])

theorem sendDiagnosticAckTwinned (sourceAddress : UInt16) (ackType : Bool) (ackCode : UInt8) :
    Twinned (sendDiagnosticAck sourceAddress ackType ackCode : Doip σ Int) := by
  refine readConnection (fun c => InStep.next (InStep.lift _) (fun targetAddress => ?_))
  rw [createdDiagnosticAck,Program.liftOkBind]
  exact sendMessageTwinned rfl (by simp [diagnosticAckBytes]) (by simp [diagnosticAckBytes])

theorem sendDiagnosticPayloadTwinned (sourceAddress : UInt16) (data : UserData) :
    Twinned (sendDiagnosticPayload sourceAddress (Buffer.filled data.bytes) data.bytes.length : Doip σ Int) := by
  have fits := data.fits
  refine readConnection (fun c => ?_)
  cases c.routedClientAddress with
  | none =>
    simp only [createdWithoutAddress,Program.liftErrorBind]
    exact Agree.throw
  | some registered =>
    have length := diagnosticMessageLength sourceAddress registered data
    simp only [createdDiagnosticMessage,Program.liftOkBind,diagnosticMessageSize sourceAddress registered data]
    exact sendMessageTwinned rfl (by omega) (by omega)

end Sending

section Calling
open InStep

theorem calledTwinned {call : Call} {x : Doip σ α} (h : Twinned x) : Twinned (do
    Program.emit (.called call)
    let _ ← x
    pure (0 : Int)) :=
  next (emit rfl) (fun _ => next h (fun _ => done 0))

theorem setGeneralInactivityTimeTwinned (seconds : UInt16) : Twinned (setGeneralInactivityTime seconds : Doip σ Unit) := by
  unfold setGeneralInactivityTime
  split <;> exact setTimerTwinned _

theorem performTwinned (call : Call) : Twinned (perform call : Doip σ Int) := by
  cases call with
  | sendDiagnosticPayload sourceAddress data => exact calledTwinned (sendDiagnosticPayloadTwinned sourceAddress data)
  | sendDiagnosticAck sourceAddress ackType ackCode =>
    exact calledTwinned (sendDiagnosticAckTwinned sourceAddress ackType ackCode)
  | sendNegativeAck ackCode => exact next (emit rfl) (fun _ => sendNegativeAckTwinned ackCode)
  | triggerDisconnection => exact calledTwinned (emit rfl)
  | setGeneralInactivityTime seconds => exact calledTwinned (setGeneralInactivityTimeTwinned seconds)
  | isSocketActive => exact next (emit rfl) (fun _ => readConnection (fun c => done _))
  | timerRound => exact calledTwinned waitForResponseTwinned

theorem setApplicationTwinned (application : σ) :
    Twinned (Program.modify (fun s => {s with application := application}) : Doip σ Unit) :=
  modify (fun _ _ twins => ⟨twins.connection,⟨twins.surroundings.writes,twins.surroundings.ticks,twins.surroundings.now⟩,
    rfl,twins.delivers⟩)

theorem notifyApplicationTwinned (app : Application σ) (targetAddress : UInt16) :
    Twinned (notifyApplication app targetAddress) := by
  refine next (emit rfl) (fun _ => read (fun s t twins => ?_))
  rw [twins.application]
  refine next (interpret performTwinned _) (fun out => next (setApplicationTwinned out.2) (fun _ => ?_))
  exact next (emit rfl) (fun _ => done out.1)

theorem diagCallbackTwinned (app : Application σ) (targetAddress : UInt16) (data : List UInt8) (length : Int) :
    Twinned (diagCallback app targetAddress data length) := by
  refine next (emit rfl) (fun _ => read (fun s t twins => ?_))
  rw [twins.application]
  exact next (interpret performTwinned _) (fun out => setApplicationTwinned out)

end Calling

section Reacting
open InStep

theorem startAliveCheckTwinned : Twinned (startAliveCheck : Doip σ Unit) := by
  refine readConnection (fun c => whenBoth Iff.rfl (fun _ _ => next (setTimerTwinned _) (fun _ => ?_)))
  refine readConnection (fun c => whenBoth Iff.rfl (fun _ _ => next clockTwinned (fun now => ?_)))
  exact next (emit rfl) (fun _ => next (emit rfl) (fun _ => setTimerTwinned _))

theorem resetTimerTwinned : Twinned (resetTimer : Doip σ Unit) :=
  next clockTwinned (fun _ => next (emit rfl) (fun _ => setTimerTwinned _))

theorem reactOnRoutingActivationTwinned (payload : Option Buffer) :
    Twinned (reactOnRoutingActivation payload : Doip σ Int) := by
  refine next (lift _) (fun result => next (lift _) (fun p0 => next (lift _) (fun p1 => readConnection (fun c => ?_))))
  simp only [createdActivationResponse,Program.liftOkBind]
  refine next (sendMessageTwinned rfl (by simp [activationResponseBytes]) (by simp [activationResponseBytes]))
    (fun sentBytes => ?_)
  split
  · exact next (closeSocketTwinned false) (fun _ => done _)
  · refine next ?_ (fun _ => next startAliveCheckTwinned (fun _ => done _))
    exact modify (fun _ _ twins => twins.setConnection (fun _ => rfl))

theorem reactOnNegativeAckTwinned (value : UInt8) : Twinned (reactOnNegativeAck value : Doip σ Int) := by
  refine next (sendNegativeAckTwinned value) (fun sentBytes => ?_)
  split
  · exact next (closeSocketTwinned false) (fun _ => done _)
  · exact done _

theorem parseDiagnosticMessageTwinned (app : Application σ) (sourceAddress : Option Address) (payload : Option Buffer)
    (length : Int) : Twinned (parseDiagnosticMessage (diagCallback app) sourceAddress payload length) := by
  unfold parseDiagnosticMessage
  split
  · refine next (lift _) (fun d0 => next (lift _) (fun registered => ?_))
    split
    · exact done _
    · refine next (lift _) (fun d1 => ?_)
      split
      · exact done _
      · refine next (lift _) (fun d2 => next (lift _) (fun d3 => next (lift _) (fun message => ?_)))
        refine next (lift _) (fun bytes => ?_)
        exact next (diagCallbackTwinned app _ _ _) (fun _ => done _)
  · exact done _

theorem reactOnDiagnosticMessageTwinned (app : Application σ) (payloadLength : Nat) (payload : Option Buffer) :
    Twinned (reactOnDiagnosticMessage app payloadLength payload) := by
  refine next (lift _) (fun p2 => next (lift _) (fun p3 => next (notifyApplicationTwinned app _) (fun ack => ?_)))
  refine next (whenBoth Iff.rfl (fun _ _ => readConnection (fun c => ?_))) (fun _ => done _)
  exact next (parseDiagnosticMessageTwinned app _ _ _) (fun _ => done _)

theorem reactOnReceivedTcpMessageTwinned (app : Application σ) (action : GenericHeaderAction) (payloadLength : Nat)
    (payload : Option Buffer) : Twinned (reactOnReceivedTcpMessage app action payloadLength payload) := by
  refine next (emit rfl) (fun _ => ?_)
  cases action.type with
  | negativeAck => exact reactOnNegativeAckTwinned _
  | routingActivationRequest => exact reactOnRoutingActivationTwinned _
  | diagnosticMessage => exact reactOnDiagnosticMessageTwinned app _ _
  | _ => exact done _

theorem messageReceivedTwinned (app : Application σ) (action : GenericHeaderAction) (payload : Option Buffer) :
    Twinned (messageReceived app action payload) :=
  readConnection (fun _ => next (whenBoth Iff.rfl (fun _ _ => resetTimerTwinned)) (fun _ =>
    reactOnReceivedTcpMessageTwinned app _ _ _))

end Reacting
end LibDoip
