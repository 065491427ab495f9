import LibDoip.Interleaving
import LibDoip.Run

/-! What the calls on a connection do, once for every property of its runs, with what is known where
it happens: which message is sent, that the time is over when the timer fires, that the timer is
active when it is reset, that the registration and the start of the timer follow a successful answer. -/
namespace LibDoip
open Library
variable {σ α : Type}

inductive OwnMessage : List UInt8 → Prop where
  | activationResponse (gateway : UInt16) (client : Address) (code : UInt8) :
      OwnMessage (activationResponseBytes gateway client code)
  | diagnosticAck (ackType : Bool) (sourceAddress : UInt16) (targetAddress : Address) (ackCode : UInt8) :
      OwnMessage (diagnosticAckBytes ackType sourceAddress targetAddress ackCode)
  | diagnosticMessage (sourceAddress : UInt16) (targetAddress : Address) (data : UserData) :
      OwnMessage (diagnosticMessageBytes sourceAddress targetAddress data)
  | negativeAck (ackCode : UInt8) : OwnMessage (negativeAckBytes ackCode)

def Event.Noted : Event → Prop
  | .notifyApplication _ | .answered _ | .diagCallback _ _ _ | .receiving | .received _ _ => True
  | .called .triggerDisconnection | .called (.setGeneralInactivityTime _) => False
  | .called _ => True
  | _ => False

def Timeless (s : State σ) (_ : List Event) (t : State σ) (_ : Option Fault) : Prop :=
  t.environment.now = s.environment.now

def Due (s : State σ) : Prop :=
  s.connection.aliveCheckTimer.Running ∧ (s.connection.aliveCheckTimer.maxSeconds.toNat : Int) ≤
    s.connection.aliveCheckTimer.secondsPassed s.environment.now

def AliveCheckTimer.inactivity (seconds : UInt16) (t : AliveCheckTimer) : AliveCheckTimer :=
  if 0 < seconds then t.setTimer seconds else {t with disabled := true}

structure CallSteps (R : State σ → List Event → State σ → Option Fault → Prop) : Prop where
  composable : Program.Composable R
  stopped : ∀ {s e}, R s [] s (some e)
  noted : ∀ {s e}, e.Noted → R s [e] s none
  ticked : ∀ {s}, R s [] s.ticked none
  applied : ∀ {s application}, R s [] {s with application := application} none
  sent : ∀ {s bytes o}, OwnMessage bytes → routedBy bytes = none → Sends s bytes o →
    Timeless s o.log o.state o.fault → R s o.log o.state o.fault
  read : ∀ {s l t}, HasRead s l t → Timeless s l t none → R s l t none
  closed : ∀ {s l t}, closeSocket false s = ⟨l,t,.ok ()⟩ → R s l t none
  expired : ∀ {s l t}, Due s → s.connection.aliveCheckTimer.cb = true →
    closeSocket false (s.setTimer (·.expire)) = ⟨l,t,.ok ()⟩ →
    R s (.timeout s.environment.now::l ++ [.closeConnection]) t none
  unbound : ∀ {s}, Due s → s.connection.aliveCheckTimer.cb = false →
    R s [.timeout s.environment.now] (s.setTimer (·.expire)) (some .emptyFunction)
  triggered : ∀ {s}, R s [.called .triggerDisconnection,.closeConnection] s none
  set : ∀ {s seconds}, R s [.called (.setGeneralInactivityTime seconds)] (s.setTimer (·.inactivity seconds)) none
  reset : ∀ {s}, s.connection.aliveCheckTimer.active = true →
    R s [.timerReset s.environment.now] (s.setTimer (·.resetTimer s.environment.now)) none

structure ConnectionSteps (R : State σ → List Event → State σ → Option Fault → Prop) : Prop extends CallSteps R where
  activated : ∀ {s o gateway address l t}, Sends s (activationResponseBytes gateway address successfullyRoutedCode) o →
    Timeless s o.log o.state o.fault → startAliveCheck (o.state.register address) = ⟨l,t,.ok ()⟩ →
    R s (o.log ++ l) t none

section Timeless
open Program

theorem timelessComposable : Composable (@Timeless σ) :=
  ⟨fun _ => rfl,fun first second => second.trans first⟩

theorem emitTimeless (e : Event) : Meets Timeless (Program.emit e : Doip σ Unit) := fun _ => rfl

theorem connectionTimeless : Meets Timeless (LibDoip.connection : Doip σ DoIPConnection) := fun _ => rfl

theorem parseSslErrorTimeless (ssl : Nat) : Meets Timeless (parseSslError ssl : Doip σ SslError) := fun _ => rfl

theorem sslShutdownTimeless (ssl : Nat) : Meets Timeless (sslShutdown ssl : Doip σ Int) := fun _ => rfl

theorem shutdownSslTimeless (ssl : Nat) : Meets Timeless (shutdownSsl ssl : Doip σ Unit) := by
  refine meetsBind timelessComposable (sslShutdownTimeless ssl) (fun first => ?_)
  have retried : Meets Timeless (retryShutdown ssl first : Doip σ Int) := by
    unfold retryShutdown
    split
    · exact sslShutdownTimeless ssl
    · exact meetsPure timelessComposable _
  refine meetsBind timelessComposable retried (fun ret => meetsWhen timelessComposable (fun _ => ?_))
  exact meetsBind timelessComposable (parseSslErrorTimeless ssl) (fun _ => meetsPure timelessComposable _)

theorem closeSocketTimeless (skipShutdown : Bool) : Meets Timeless (closeSocket skipShutdown : Doip σ Unit) := by
  refine meetsBind timelessComposable connectionTimeless (fun c => meetsWhen timelessComposable (fun _ => ?_))
  have tls : Meets Timeless (closeTlsLayer skipShutdown c.ssl : Doip σ Unit) := by
    cases c.ssl with
    | none => exact meetsPure timelessComposable _
    | some ssl =>
      refine meetsBind timelessComposable (meetsWhen timelessComposable (fun _ => shutdownSslTimeless ssl)) (fun _ => ?_)
      exact meetsBind timelessComposable (emitTimeless _) (fun _ _ => rfl)
  refine meetsBind timelessComposable tls (fun _ => ?_)
  exact meetsBind timelessComposable (emitTimeless _) (fun _ _ => rfl)

theorem sendMessageTimeless (message : Buffer) (n : Int) : Meets Timeless (sendMessage message n : Doip σ Int) := by
  refine meetsBind timelessComposable connectionTimeless (fun c => ?_)
  refine meetsBind timelessComposable (fun _ => rfl) (fun bytes => ?_)
  cases c.ssl with
  | none => exact meetsBind timelessComposable (emitTimeless _) (fun _ _ => rfl)
  | some ssl =>
    refine meetsBind timelessComposable (emitTimeless _) (fun _ => ?_)
    refine meetsBind timelessComposable (fun _ => rfl) (fun sentBytes => ?_)
    split
    · exact meetsBind timelessComposable (parseSslErrorTimeless ssl) (fun _ => meetsPure timelessComposable _)
    · exact meetsPure timelessComposable _

theorem sendNegativeAckTimeless (ackCode : UInt8) : Meets Timeless (sendNegativeAck ackCode : Doip σ Int) :=
  meetsBind timelessComposable (fun _ => rfl) (fun _ => meetsBind timelessComposable (fun _ => rfl) (fun message =>
    sendMessageTimeless message _))

theorem sendDiagnosticAckTimeless (sourceAddress : UInt16) (ackType : Bool) (ackCode : UInt8) :
    Meets Timeless (sendDiagnosticAck sourceAddress ackType ackCode : Doip σ Int) := by
  refine meetsBind timelessComposable connectionTimeless (fun c => ?_)
  refine meetsBind timelessComposable (fun _ => rfl) (fun _ => meetsBind timelessComposable (fun _ => rfl) (fun message => ?_))
  exact sendMessageTimeless message _

theorem sendDiagnosticPayloadTimeless (sourceAddress : UInt16) (data : Buffer) (length : Int) :
    Meets Timeless (sendDiagnosticPayload sourceAddress data length : Doip σ Int) := by
  refine meetsBind timelessComposable connectionTimeless (fun c => ?_)
  refine meetsBind timelessComposable (fun _ => rfl) (fun message => meetsBind timelessComposable (fun _ => rfl) (fun _ => ?_))
  exact sendMessageTimeless message _

theorem handleSslReadErrorTimeless (ssl : Nat) : Meets Timeless (handleSslReadError ssl : Doip σ Int) := by
  refine meetsBind timelessComposable (parseSslErrorTimeless ssl) (fun err => ?_)
  cases err with
  | zeroReturn => exact meetsPure timelessComposable _
  | other code => exact meetsPure timelessComposable _
  | syscall => exact meetsBind timelessComposable (closeSocketTimeless true) (fun _ => meetsPure timelessComposable _)
  | ssl => exact meetsBind timelessComposable (closeSocketTimeless true) (fun _ => meetsPure timelessComposable _)

theorem failedReadTimeless (payloadPos : Nat) : Meets Timeless (failedRead payloadPos : Doip σ Nat) := by
  refine meetsBind timelessComposable connectionTimeless (fun c => ?_)
  cases c.ssl with
  | none => exact meetsPure timelessComposable _
  | some ssl => exact meetsBind timelessComposable (handleSslReadErrorTimeless ssl) (fun _ => meetsPure timelessComposable _)

end Timeless

section Round
variable {s : State σ}

theorem roundStopped (stopped : ¬ s.connection.aliveCheckTimer.Running) : waitForResponse s = ⟨[],s,.ok ()⟩ := by
  simp only [waitForResponse,Program.bindApply,connectionApply,Outcome.andThenOk,Outcome.prependNil,
    Program.whenFalse stopped,Program.pureApply]

theorem roundWaits (running : s.connection.aliveCheckTimer.Running) (early : ¬ Due s.ticked) :
    waitForResponse s = ⟨[],s.ticked,.ok ()⟩ := by
  have waits : ¬ (s.connection.aliveCheckTimer.maxSeconds.toNat : Int) ≤
      s.connection.aliveCheckTimer.secondsPassed (s.environment.now + s.environment.ticks.headD 0) :=
    fun elapsed => early ⟨running,elapsed⟩
  simp only [waitForResponse,Program.bindApply,connectionApply,Outcome.andThenOk,Outcome.prependNil,
    Program.whenTrue running,clockApply,Program.whenFalse waits,Program.pureApply]
  rfl

theorem roundElapsed (due : Due s.ticked) : waitForResponse s = (do
    Program.modify (·.setTimer (·.expire))
    Program.emit (.timeout s.ticked.environment.now)
    if s.connection.aliveCheckTimer.cb then aliveCheckTimeout else Program.throw .emptyFunction : Doip σ Unit) s.ticked := by
  have running : s.connection.aliveCheckTimer.Running := due.1
  have elapsed : (s.connection.aliveCheckTimer.maxSeconds.toNat : Int) ≤
      s.connection.aliveCheckTimer.secondsPassed (s.environment.now + s.environment.ticks.headD 0) := due.2
  simp only [waitForResponse,Program.bindApply,connectionApply,Outcome.andThenOk,Outcome.prependNil,
    Program.whenTrue running,clockApply,Program.whenTrue elapsed]
  rfl

theorem roundFires (due : Due s.ticked) (bound : s.connection.aliveCheckTimer.cb = true) {l : List Event} {t : State σ}
    (ran : closeSocket false (s.ticked.setTimer (·.expire)) = ⟨l,t,.ok ()⟩) :
    waitForResponse s = ⟨.timeout s.ticked.environment.now::l ++ [.closeConnection],t,.ok ()⟩ := by
  rw [roundElapsed due,bound]
  exact firedCloses s.ticked.environment.now ran

theorem roundUnbound (due : Due s.ticked) (unbound : s.connection.aliveCheckTimer.cb = false) :
    waitForResponse s = ⟨[.timeout s.ticked.environment.now],s.ticked.setTimer (·.expire),.error .emptyFunction⟩ := by
  rw [roundElapsed due,unbound]
  rfl

end Round

theorem parsedCode {payload : Option Buffer} {result : UInt8} (parsed : parseRoutingActivation payload = .ok result) :
    ((result = unknownSourceAddressCode ∨ result = unsupportedRoutingTypeCode) ∧ result ≠ successfullyRoutedCode) ∨
      result = successfullyRoutedCode := by
  unfold parseRoutingActivation at parsed
  cases l0 : Buffer.loadFrom payload 0 <;> rw [l0] at parsed <;> try contradiction
  cases l1 : Buffer.loadFrom payload 1 <;> rw [l1] at parsed <;> try contradiction
  simp only [okBind] at parsed
  split at parsed
  · cases parsed
    exact Or.inl ⟨Or.inl rfl,by decide⟩
  · cases l2 : Buffer.loadFrom payload 2 <;> rw [l2] at parsed <;> try contradiction
    simp only [okBind] at parsed
    split at parsed <;> cases parsed
    · exact Or.inr rfl
    · exact Or.inl ⟨Or.inr rfl,by decide⟩

namespace CallSteps
open Program
variable {R : State σ → List Event → State σ → Option Fault → Prop} (steps : CallSteps R)
include steps

theorem liftMeets (r : Except Fault α) : Meets R (lift r : Doip σ α) := by
  intro s
  cases r with
  | error e => exact steps.stopped
  | ok a => exact steps.composable.refl s

theorem returnMeets {β : Type} {x : Doip σ α} (h : Meets R x) (b : β) :
    Meets R (do
      let _ ← x
      pure b) :=
  meetsBind steps.composable h (fun _ => meetsPure steps.composable b)

theorem connectionMeets : Meets R connection := by
  intro s
  rw [At,connectionApply]
  exact steps.composable.refl s

theorem emitMeets {e : Event} (noted : e.Noted) : Meets R (Program.emit e) := fun _ => steps.noted noted

theorem closeSocketMeets : Meets R (closeSocket false) := by
  intro s
  obtain ⟨l,t,ran,_,_⟩ := closeSocketCloses false s
  rw [At,ran]
  exact steps.closed ran

theorem waitForResponseMeets : Meets R waitForResponse := by
  intro s
  by_cases running : s.connection.aliveCheckTimer.Running
  · by_cases due : Due s.ticked
    · have seen : R s [] s.ticked none := steps.ticked
      cases bound : s.connection.aliveCheckTimer.cb with
      | false =>
        rw [At,roundUnbound due bound]
        exact steps.composable.trans seen (steps.unbound due bound)
      | true =>
        obtain ⟨l,t,ran,_,_⟩ := closeSocketCloses false (s.ticked.setTimer (·.expire))
        have fired := steps.composable.trans seen (steps.expired due bound ran)
        rw [At,roundFires due bound ran]
        rwa [List.nil_append] at fired
    · rw [At,roundWaits running due]
      exact steps.ticked
  · rw [At,roundStopped running]
    exact steps.composable.refl s

theorem sendNegativeAckMeets (ackCode : UInt8) : Meets R (sendNegativeAck ackCode) :=
  fun s => steps.sent (.negativeAck ackCode) (negativeAckNotRouting ackCode) (sendNegativeAckSends ackCode s)
    (sendNegativeAckTimeless ackCode s)

theorem sendDiagnosticAckMeets (sourceAddress : UInt16) (ackType : Bool) (ackCode : UInt8) :
    Meets R (sendDiagnosticAck sourceAddress ackType ackCode) := by
  intro s
  cases routed : s.connection.routedClientAddress with
  | none =>
    rw [At,sendDiagnosticAckUnrouted sourceAddress ackType ackCode routed]
    exact steps.stopped
  | some registered =>
    exact steps.sent (.diagnosticAck _ _ _ _) (diagnosticAckNotRouting _ _ _ _)
      (sendDiagnosticAckSends sourceAddress ackType ackCode routed) (sendDiagnosticAckTimeless sourceAddress ackType ackCode s)

theorem sendDiagnosticPayloadMeets (sourceAddress : UInt16) (data : UserData) :
    Meets R (sendDiagnosticPayload sourceAddress (Buffer.filled data.bytes) data.bytes.length) := by
  intro s
  cases routed : s.connection.routedClientAddress with
  | none =>
    rw [At,sendDiagnosticPayloadUnrouted sourceAddress data routed]
    exact steps.stopped
  | some registered =>
    exact steps.sent (.diagnosticMessage _ _ _) (diagnosticMessageNotRouting _ _ _)
      (sendDiagnosticPayloadSends sourceAddress data routed) (sendDiagnosticPayloadTimeless sourceAddress _ _ s)

theorem setMeets (seconds : UInt16) : Meets R (perform (.setGeneralInactivityTime seconds)) := by
  intro s
  have ran : perform (.setGeneralInactivityTime seconds) s =
      ⟨[.called (.setGeneralInactivityTime seconds)],s.setTimer (·.inactivity seconds),.ok 0⟩ := by
    simp only [perform,setGeneralInactivityTime,AliveCheckTimer.inactivity]
    split <;> rfl
  rw [At,ran]
  exact steps.set

theorem calledMeets {call : Call} {x : Doip σ α} (noted : (Event.called call).Noted) (h : Meets R x) :
    Meets R (do
      Program.emit (.called call)
      let _ ← x
      pure (0 : Int)) :=
  meetsBind steps.composable (steps.emitMeets noted) (fun _ => steps.returnMeets h _)

theorem performMeets (call : Call) : Meets R (perform call) := by
  cases call with
  | triggerDisconnection => exact fun _ => steps.triggered
  | sendDiagnosticPayload sourceAddress data =>
    exact steps.calledMeets trivial (steps.sendDiagnosticPayloadMeets _ _)
  | sendDiagnosticAck sourceAddress ackType ackCode =>
    exact steps.calledMeets trivial (steps.sendDiagnosticAckMeets _ _ _)
  | sendNegativeAck ackCode =>
    exact meetsBind steps.composable (steps.emitMeets trivial) (fun _ => steps.sendNegativeAckMeets ackCode)
  | setGeneralInactivityTime seconds => exact steps.setMeets seconds
  | isSocketActive =>
    refine meetsBind steps.composable (steps.emitMeets trivial) (fun _ => ?_)
    exact meetsBind steps.composable steps.connectionMeets (fun _ => meetsPure steps.composable _)
  | timerRound => exact steps.calledMeets trivial steps.waitForResponseMeets

theorem callbackMeets (script : Script Call Int α) : Meets R (script.interpret perform) :=
  Script.interpretMeets steps.composable script.callsTrue (fun call _ => steps.performMeets call)

theorem notifyApplicationMeets (app : Application σ) (targetAddress : UInt16) :
    Meets R (notifyApplication app targetAddress) := by
  refine meetsBind steps.composable (steps.emitMeets trivial) (fun _ => ?_)
  refine meetsBind steps.composable (meetsGet steps.composable) (fun s => ?_)
  refine meetsBind steps.composable (steps.callbackMeets _) (fun out => ?_)
  refine meetsBind steps.composable (fun _ => steps.applied) (fun _ => ?_)
  exact meetsBind steps.composable (steps.emitMeets trivial) (fun _ => meetsPure steps.composable _)

theorem diagCallbackMeets (app : Application σ) (targetAddress : UInt16) (data : List UInt8) (length : Int) :
    Meets R (diagCallback app targetAddress data length) := by
  refine meetsBind steps.composable (steps.emitMeets trivial) (fun _ => ?_)
  refine meetsBind steps.composable (meetsGet steps.composable) (fun s => ?_)
  exact meetsBind steps.composable (steps.callbackMeets _) (fun out _ => steps.applied)

theorem reactOnNegativeAckMeets (value : UInt8) : Meets R (reactOnNegativeAck value) := by
  refine meetsBind steps.composable (steps.sendNegativeAckMeets value) (fun sentBytes => ?_)
  split
  · exact steps.returnMeets steps.closeSocketMeets _
  · exact meetsPure steps.composable _

theorem parseDiagnosticMessageMeets (app : Application σ) (sourceAddress : Option Address)
    (payload : Option Buffer) (length : Int) :
    Meets R (parseDiagnosticMessage (diagCallback app) sourceAddress payload length) := by
  unfold parseDiagnosticMessage
  split
  · refine meetsBind steps.composable (steps.liftMeets _) (fun d0 => ?_)
    refine meetsBind steps.composable (steps.liftMeets _) (fun registered => ?_)
    split
    · exact meetsPure steps.composable _
    · refine meetsBind steps.composable (steps.liftMeets _) (fun d1 => ?_)
      split
      · exact meetsPure steps.composable _
      · refine meetsBind steps.composable (steps.liftMeets _) (fun d2 => ?_)
        refine meetsBind steps.composable (steps.liftMeets _) (fun d3 => ?_)
        refine meetsBind steps.composable (steps.liftMeets _) (fun message => ?_)
        refine meetsBind steps.composable (steps.liftMeets _) (fun bytes => ?_)
        exact steps.returnMeets (steps.diagCallbackMeets app _ _ _) _
  · exact meetsPure steps.composable _

theorem reactOnDiagnosticMessageMeets (app : Application σ) (payloadLength : Nat) (payload : Option Buffer) :
    Meets R (reactOnDiagnosticMessage app payloadLength payload) := by
  refine meetsBind steps.composable (steps.liftMeets _) (fun p2 => ?_)
  refine meetsBind steps.composable (steps.liftMeets _) (fun p3 => ?_)
  refine meetsBind steps.composable (steps.notifyApplicationMeets app _) (fun ack => ?_)
  refine steps.returnMeets (meetsWhen steps.composable (fun _ => ?_)) _
  refine meetsBind steps.composable steps.connectionMeets (fun c => ?_)
  exact steps.returnMeets (steps.parseDiagnosticMessageMeets app _ _ _) _

theorem failedReadMeets (payloadPos : Nat) : Meets R (failedRead payloadPos) := by
  intro s
  have failed := failedReadFails payloadPos s
  have timeless := failedReadTimeless payloadPos s
  unfold At at timeless ⊢
  generalize failedRead payloadPos s = o at failed timeless
  cases failed with
  | plain _ => exact steps.composable.refl s
  | tls tls handled => exact steps.read (@HasRead.failed σ s [] _ _ _ (by simp) tls handled) timeless

theorem idleMeets (inbox : List Arrival) :
    Meets R (do
      closeSocket false
      pure ⟨.idle,inbox⟩ : Doip σ Thread) :=
  meetsBind steps.composable steps.closeSocketMeets (fun _ => meetsPure steps.composable _)

theorem resetMeets (c : DoIPConnection) {s : State σ} (current : s.connection = c) :
    At R (Program.when (c.aliveCheckTimer.active = true) resetTimer) s := by
  by_cases active : c.aliveCheckTimer.active = true
  · rw [whenTrue active]
    have seen : R s [] s.ticked none := steps.ticked
    exact steps.composable.trans seen (@CallSteps.reset σ R steps s.ticked (by rw [← active,← current]; rfl))
  · rw [whenFalse active]
    exact meetsPure steps.composable () s

theorem advanceMeets (app : Application σ) (uninit : GenericHeaderAction) (thread : Thread)
    (other : ∀ action payload, thread.position ≠ .dispatching action payload) :
    Meets R (advance app uninit thread) := by
  obtain ⟨position,inbox⟩ := thread
  cases position with
  | idle => exact meetsBind steps.composable (steps.emitMeets trivial) (fun _ => meetsPure steps.composable _)
  | reading part data pos remaining =>
    rw [advance]
    split
    · exact meetsPure steps.composable _
    · intro s
      simp only [At,bindApply,connectionApply,Outcome.andThenOk,emitApply]
      exact steps.read (.reads (List.forall_mem_singleton.mpr ⟨remaining,rfl⟩)) rfl
  | blocked part data pos remaining called =>
    rw [advance,readReturns]
    split
    · exact meetsBind steps.composable (steps.failedReadMeets pos) (fun _ => meetsPure steps.composable _)
    · exact meetsBind steps.composable (steps.liftMeets _) (fun _ => meetsPure steps.composable _)
  | read part data readBytes =>
    cases part with
    | header =>
      rw [advance,checkHeader]
      refine meetsBind steps.composable steps.connectionMeets (fun c => ?_)
      split
      · refine meetsBind steps.composable (steps.liftMeets _) (fun action => ?_)
        split <;> exact meetsPure steps.composable _
      · exact steps.idleMeets inbox
    | payload action =>
      rw [advance]
      split
      · exact steps.idleMeets inbox
      · exact meetsPure steps.composable _
  | complete action payload =>
    intro s
    rw [advance,At,bindApply,connectionApply,Outcome.andThenOk,Outcome.prependNil]
    exact atBind steps.composable (steps.resetMeets s.connection rfl) (fun _ _ => meetsPure steps.composable _ _)
  | dispatching action payload => exact absurd rfl (other action payload)

end CallSteps

namespace ConnectionSteps
open Program
variable {R : State σ → List Event → State σ → Option Fault → Prop} (steps : ConnectionSteps R)
include steps

theorem activatedMeets (gateway : UInt16) (address : Address) :
    Meets R (do
      let sentBytes ← sendMessage (Buffer.filled (activationResponseBytes gateway address successfullyRoutedCode))
        (genericHeaderLength + activationResponseLength)
      Program.modify (·.register address)
      startAliveCheck
      pure sentBytes) := by
  intro s
  have sends := activationResponseSends gateway address successfullyRoutedCode s
  have timeless := @sendMessageTimeless σ (Buffer.filled (activationResponseBytes gateway address successfullyRoutedCode))
    (genericHeaderLength + activationResponseLength) s
  unfold At at timeless ⊢
  rw [bindApply]
  generalize sendMessage _ _ s = o at sends timeless
  obtain ⟨l,t,started,_⟩ := @startAliveCheckStarts σ (o.state.register address) address rfl
  have routed := steps.activated sends timeless started
  obtain ⟨_⟩ := sends
  simp only [Outcome.andThenOk,bindApply,modifyApply,started,pureApply,Outcome.prependMk,List.append_nil,List.nil_append]
  exact routed

theorem reactOnRoutingActivationMeets (payload : Option Buffer) : Meets R (reactOnRoutingActivation payload) := by
  have calls := steps.toCallSteps
  unfold reactOnRoutingActivation
  cases parsed : parseRoutingActivation payload with
  | error e =>
    rw [liftErrorBind]
    exact fun s => steps.stopped
  | ok result =>
    rw [liftOkBind]
    refine meetsBind steps.composable (calls.liftMeets _) (fun p0 => ?_)
    refine meetsBind steps.composable (calls.liftMeets _) (fun p1 => ?_)
    refine meetsBind steps.composable calls.connectionMeets (fun c => ?_)
    rw [createdActivationResponse,liftOkBind]
    rcases parsedCode parsed with refused | rfl
    · have response := fun s => steps.sent (.activationResponse c.logicalGatewayAddress (p0,p1) result)
        (by rw [routedByResponse,if_neg refused.2]) (activationResponseSends _ _ _ s)
        (sendMessageTimeless _ _ s)
      refine meetsBind steps.composable response (fun sentBytes => ?_)
      rw [if_pos refused.1]
      exact calls.returnMeets calls.closeSocketMeets _
    · exact steps.activatedMeets c.logicalGatewayAddress (p0,p1)

theorem reactOnReceivedTcpMessageMeets (app : Application σ) (action : GenericHeaderAction) (payloadLength : Nat)
    (payload : Option Buffer) : Meets R (reactOnReceivedTcpMessage app action payloadLength payload) := by
  have calls := steps.toCallSteps
  refine meetsBind steps.composable (calls.emitMeets trivial) (fun _ => ?_)
  cases action.type with
  | negativeAck => exact calls.reactOnNegativeAckMeets _
  | routingActivationRequest => exact steps.reactOnRoutingActivationMeets _
  | diagnosticMessage => exact calls.reactOnDiagnosticMessageMeets app _ _
  | _ => exact meetsPure steps.composable _

theorem messageReceivedMeets (app : Application σ) (action : GenericHeaderAction) (payload : Option Buffer) :
    Meets R (messageReceived app action payload) := by
  intro s
  rw [messageReceived,At,bindApply,connectionApply,Outcome.andThenOk,Outcome.prependNil]
  exact atBind steps.composable (steps.toCallSteps.resetMeets s.connection rfl) (fun _ _ =>
    steps.reactOnReceivedTcpMessageMeets app _ _ _ _)

theorem advanceMeets (app : Application σ) (uninit : GenericHeaderAction) (thread : Thread) :
    Meets R (advance app uninit thread) := by
  obtain ⟨position,inbox⟩ := thread
  cases position with
  | dispatching action payload =>
    exact meetsBind steps.composable (steps.reactOnReceivedTcpMessageMeets app _ _ _) (fun _ =>
      meetsPure steps.composable _)
  | _ => exact steps.toCallSteps.advanceMeets app uninit _ (fun _ _ => Position.noConfusion)

end ConnectionSteps
end LibDoip
