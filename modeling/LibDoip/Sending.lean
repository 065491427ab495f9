import LibDoip.Effects

/-! What is sent, byte for byte, and what the application can do from inside its callbacks. -/
namespace LibDoip
open Library
variable {σ α : Type}

def sendEvent (c : DoIPConnection) (bytes : List UInt8) : Event := match c.ssl with
  | none => .write c.clientSock bytes
  | some ssl => .sslWrite ssl bytes

inductive Sends (s : State σ) (bytes : List UInt8) : Outcome Fault Event (State σ) Int → Prop where
  | sent {tail : List Event} {environment : Environment} {value : Int}
      (errors : ∀ e ∈ tail, ∃ ssl err, e = .sslError ssl err ∧ s.connection.ssl = some ssl) :
      Sends s bytes ⟨sendEvent s.connection bytes::tail,{s with environment := environment},.ok value⟩

theorem negativeAckNotRouting (ackCode : UInt8) : routedBy (negativeAckBytes ackCode) = none := rfl

theorem diagnosticAckNotRouting (ackType : Bool) (sourceAddress : UInt16) (targetAddress : Address)
    (responseCode : UInt8) :
    routedBy (diagnosticAckBytes ackType sourceAddress targetAddress responseCode) = none := by
  simp [routedBy,diagnosticAckBytes,headerBytes]

theorem diagnosticMessageNotRouting (sourceAddress : UInt16) (targetAddress : Address) (data : UserData) :
    routedBy (diagnosticMessageBytes sourceAddress targetAddress data) = none := by
  simp only [diagnosticMessageBytes,headerBytes,List.cons_append,List.nil_append]
  cases data.bytes <;> simp [routedBy]

theorem sendEventOfSending (c : DoIPConnection) {bytes : List UInt8} (other : routedBy bytes = none) :
    (sendEvent c bytes).OfSending := by
  unfold sendEvent
  split <;> exact other

theorem Sends.effect {s : State σ} {bytes : List UInt8} {o : Outcome Fault Event (State σ) Int}
    (h : Sends s bytes o) (other : routedBy bytes = none) : Effect Event.OfSending (fun _ => False) s o.log o.state o.fault := by
  obtain ⟨errors⟩ := h
  refine Effect.ofSame ?_ (by simp) rfl rfl
  intro e member
  rcases List.mem_cons.mp member with rfl | later
  · exact sendEventOfSending s.connection other
  · obtain ⟨ssl,err,rfl,_⟩ := errors e later
    trivial

theorem messageSize {bytes : List UInt8} {n : Int} (size : n = bytes.length)
    (fits : bytes.length < 18446744073709551616) : intToUnsignedLong n = bytes.length := by
  unfold intToUnsignedLong
  omega

theorem sendMessageSends (s : State σ) {bytes : List UInt8} {n : Int} (size : n = bytes.length)
    (fits : bytes.length < 18446744073709551616) :
    Sends s bytes (sendMessage (Buffer.filled bytes) n s) := by
  have whole : (Buffer.filled bytes).contents (intToUnsignedLong n) = .ok bytes :=
    Buffer.contentsExact (messageSize size fits)
  unfold sendMessage
  simp only [Program.bindApply,connectionApply,Outcome.andThenOk,Outcome.prependNil,Program.liftApply,whole]
  cases tls : s.connection.ssl with
  | none =>
    have first : .write s.connection.clientSock bytes = sendEvent s.connection bytes := by simp [sendEvent,tls]
    simp only [Program.bindApply,Program.emitApply,Outcome.andThenOk,writeResultApply,Outcome.prependMk,
      List.append_nil,first]
    exact .sent (by simp)
  | some ssl =>
    have first : .sslWrite ssl bytes = sendEvent s.connection bytes := by simp [sendEvent,tls]
    simp only [Program.bindApply,Program.emitApply,Outcome.andThenOk,writeResultApply,Outcome.prependNil,first]
    split
    · exact .sent (by simpa using tls)
    · exact .sent (by simp)

theorem activationResponseSends (gateway : UInt16) (client : Address) (code : UInt8) (s : State σ) :
    Sends s (activationResponseBytes gateway client code)
      (sendMessage (Buffer.filled (activationResponseBytes gateway client code))
        (genericHeaderLength + activationResponseLength) s) :=
  sendMessageSends s rfl (by simp [activationResponseBytes])

theorem sendNegativeAckSends (ackCode : UInt8) (s : State σ) :
    Sends s (negativeAckBytes ackCode) (sendNegativeAck ackCode s) := by
  rw [sendNegativeAck,createdNegativeAck,Program.liftOkBind,storedNegativeAck,Program.liftOkBind]
  exact sendMessageSends s rfl (by simp [negativeAckBytes])

theorem sendDiagnosticAckSends (sourceAddress : UInt16) (ackType : Bool) (ackCode : UInt8) {s : State σ}
    {registered : Address} (routed : s.connection.routedClientAddress = some registered) :
    Sends s (diagnosticAckBytes ackType sourceAddress registered ackCode)
      (sendDiagnosticAck sourceAddress ackType ackCode s) := by
  have sent := @sendMessageSends σ s (diagnosticAckBytes ackType sourceAddress registered ackCode)
    (genericHeaderLength + diagnosticPositiveAckLength) rfl (by simp [diagnosticAckBytes])
  simpa [sendDiagnosticAck,routed,addressAt,createdDiagnosticAck] using sent

theorem sendDiagnosticPayloadSends (sourceAddress : UInt16) (data : UserData) {s : State σ}
    {registered : Address} (routed : s.connection.routedClientAddress = some registered) :
    Sends s (diagnosticMessageBytes sourceAddress registered data)
      (sendDiagnosticPayload sourceAddress (Buffer.filled data.bytes) data.bytes.length s) := by
  have fits := data.fits
  have length := diagnosticMessageLength sourceAddress registered data
  have sent := @sendMessageSends σ s (diagnosticMessageBytes sourceAddress registered data) _ rfl (by omega)
  simpa [sendDiagnosticPayload,routed,createdDiagnosticMessage,diagnosticMessageSize sourceAddress registered data]
    using sent

theorem sendDiagnosticAckUnrouted (sourceAddress : UInt16) (ackType : Bool) (ackCode : UInt8) {s : State σ}
    (unrouted : s.connection.routedClientAddress = none) :
    sendDiagnosticAck sourceAddress ackType ackCode s = ⟨[],s,.error .indeterminatePointer⟩ := by
  simp [sendDiagnosticAck,unrouted,addressAt]

theorem sendDiagnosticPayloadUnrouted (sourceAddress : UInt16) (data : UserData) {s : State σ}
    (unrouted : s.connection.routedClientAddress = none) :
    sendDiagnosticPayload sourceAddress (Buffer.filled data.bytes) data.bytes.length s =
      ⟨[],s,.error .indeterminatePointer⟩ := by
  simp [sendDiagnosticPayload,unrouted,createdWithoutAddress]

section Calls
open Program Effect

theorem firedCloses (now : Nat) {s t : State σ} {l : List Event}
    (ran : closeSocket false (s.setTimer (·.expire)) = ⟨l,t,.ok ()⟩) :
    (do
      Program.modify (·.setTimer (·.expire))
      Program.emit (.timeout now)
      if true then aliveCheckTimeout else Program.throw .emptyFunction : Doip σ Unit) s =
      ⟨.timeout now::l ++ [.closeConnection],t,.ok ()⟩ := by
  simp [aliveCheckTimeout,ran]

/- When the timer fires the socket is closed, unless its callback is not bound: then calling it throws. -/
theorem fireEffect (now : Nat) (bound : Bool) : Meets (Effect Event.OfTimer (fun f => f = .emptyFunction))
    (do
      Program.modify (·.setTimer (·.expire))
      Program.emit (.timeout now)
      if bound then aliveCheckTimeout else Program.throw .emptyFunction : Doip σ Unit) := by
  intro s
  cases bound with
  | false =>
    refine ⟨?_,?_,⟨Or.inl rfl,?_⟩,rfl,rfl,rfl,rfl⟩
    · intro e member
      cases List.mem_singleton.mp member
      trivial
    · intro e stopped
      exact (Option.some.inj stopped).symm
    · intro returned
      simp at returned
  | true =>
    obtain ⟨l,t,ran,closed,effect⟩ := closeSocketCloses false (s.setTimer (·.expire))
    rw [Program.At,firedCloses now ran]
    refine ⟨?_,by simp,⟨effect.shuts.ssl,fun _ settled => expiredSettled settled ran⟩,effect.routed,
      effect.gateway,effect.active,effect.application⟩
    intro e member
    rcases List.mem_append.mp member with front | last
    · rcases List.mem_cons.mp front with rfl | closing
      · trivial
      · exact Event.closingIsTimer (effect.events e closing)
    · cases List.mem_singleton.mp last
      trivial

theorem waitForResponseEffect :
    Meets (Effect Event.OfTimer (fun f => f = .emptyFunction)) (waitForResponse : Doip σ Unit) :=
  meetsBind composable reads (fun c => meetsWhen composable (fun _ =>
    meetsBind composable clockEffect (fun now => meetsWhen composable (fun _ =>
      fireEffect now c.aliveCheckTimer.cb))))

def Event.UsesAddress : Event → Prop
  | .called (.sendDiagnosticPayload _ _) | .called (.sendDiagnosticAck _ _ _) => True
  | _ => False

structure CallEffect (s : State σ) (l : List Event) (t : State σ) (f : Option Fault) : Prop extends
    Effect Event.OfCall (fun _ => True) s l t f where
  stops : f = some .indeterminatePointer ↔ s.connection.routedClientAddress = none ∧ ∃ e ∈ l, e.UsesAddress

theorem callComposable : Composable (@CallEffect σ) where
  refl s := ⟨composable.refl s,by simp⟩
  trans := by
    intro s l t m u f first second
    refine ⟨composable.trans first.toEffect second.toEffect,?_⟩
    constructor
    · intro stopped
      obtain ⟨unrouted,e,member,uses⟩ := second.stops.mp stopped
      exact ⟨first.routed.symm.trans unrouted,e,List.mem_append_right l member,uses⟩
    · rintro ⟨unrouted,e,member,uses⟩
      rcases List.mem_append.mp member with before | after
      · have stopped := first.stops.mpr ⟨unrouted,e,before,uses⟩
        contradiction
      · exact second.stops.mpr ⟨first.routed.trans unrouted,e,after,uses⟩

theorem CallEffect.ofEffect {q : Event → Prop} {r : Fault → Prop} {s t : State σ} {l : List Event}
    {f : Option Fault} (h : Effect q r s l t f) (events : ∀ e, q e → e.OfCall)
    (unused : s.connection.routedClientAddress = none → ∀ e, q e → ¬ e.UsesAddress)
    (faults : ∀ e, r e → e ≠ .indeterminatePointer) : CallEffect s l t f where
  toEffect := h.weaken events (fun _ _ => trivial)
  stops := by
    constructor
    · exact fun stopped => absurd rfl (faults _ (h.faults _ stopped))
    · rintro ⟨unrouted,e,member,uses⟩
      exact absurd uses (unused unrouted e (h.events e member))

theorem calledEffect {call : Call} {s : State σ}
    (unused : s.connection.routedClientAddress = none → ¬ (Event.called call).UsesAddress) :
    At CallEffect (Program.emit (.called call) : Doip σ Unit) s :=
  CallEffect.ofEffect (@emits σ (fun e => e = .called call) (fun _ => False) _ rfl s)
    (by rintro e rfl; trivial) (by rintro unrouted e rfl; exact unused unrouted) (by simp)

theorem Sends.callEffect {s : State σ} {bytes : List UInt8} {x : Doip σ Int} (h : Sends s bytes (x s))
    (other : routedBy bytes = none) : At CallEffect x s :=
  CallEffect.ofEffect (h.effect other) (fun _ => Event.sendingIsCall)
    (fun _ e sending uses => by cases e <;> first | exact sending.elim | exact uses.elim) (by simp)

theorem waitForResponseCallEffect : Meets CallEffect (waitForResponse : Doip σ Unit) :=
  fun s => CallEffect.ofEffect (waitForResponseEffect s) (fun _ => Event.timerIsCall)
    (fun _ e timer uses => by cases e <;> first | exact timer.elim | exact uses.elim) (by rintro e rfl; simp)

theorem setGeneralInactivityTimeEffect (seconds : UInt16) :
    Meets CallEffect (setGeneralInactivityTime seconds : Doip σ Unit) := by
  intro s
  have effect : At (Effect (fun _ => False) (fun _ => False)) (setGeneralInactivityTime seconds) s := by
    unfold setGeneralInactivityTime
    split
    · exact ⟨by simp [Program.modify],by simp [Program.modify],.same rfl rfl rfl id,rfl,rfl,rfl,rfl⟩
    · exact ⟨by simp [Program.modify],by simp [Program.modify],.same rfl rfl rfl (fun _ => rfl),rfl,rfl,rfl,rfl⟩
  exact CallEffect.ofEffect effect (by simp) (by simp) (by simp)

theorem ignoreResult {x : Doip σ α} (h : Meets CallEffect x) :
    Meets CallEffect (do let _ ← x; pure (0 : Int)) :=
  meetsBind callComposable h (fun _ => meetsPure callComposable _)

theorem unroutedEffect {call : Call} {s : State σ} (uses : (Event.called call).UsesAddress)
    (unrouted : s.connection.routedClientAddress = none) :
    CallEffect s [.called call] s (some .indeterminatePointer) := by
  refine ⟨Effect.ofSame ?_ (by simp) rfl rfl,?_⟩
  · intro e member
    cases List.mem_singleton.mp member
    trivial
  · exact iff_of_true rfl ⟨unrouted,_,List.mem_singleton_self _,uses⟩

theorem sendingEffect {call : Call} (uses : (Event.called call).UsesAddress) {x : Doip σ Int} {s : State σ}
    (sent : ∀ registered, s.connection.routedClientAddress = some registered → At CallEffect x s)
    (stopped : s.connection.routedClientAddress = none → x s = ⟨[],s,.error .indeterminatePointer⟩) :
    At CallEffect (do
      Program.emit (.called call)
      let _ ← x
      pure (0 : Int)) s := by
  cases routed : s.connection.routedClientAddress with
  | some registered =>
    refine atBind callComposable (calledEffect (by simp [routed])) (fun _ _ => ?_)
    exact atBind callComposable (sent registered routed) (fun _ _ => meetsPure callComposable _ _)
  | none =>
    rw [At,bindApply,emitApply,Outcome.andThenOk,bindApply,stopped routed]
    exact unroutedEffect uses routed

theorem performEffect (call : Call) : Meets CallEffect (perform call : Doip σ Int) := by
  intro s
  cases call with
  | sendNegativeAck ackCode =>
    exact atBind callComposable (calledEffect (fun _ => id)) (fun _ _ =>
      (sendNegativeAckSends ackCode s).callEffect (negativeAckNotRouting ackCode))
  | triggerDisconnection =>
    refine atBind callComposable (calledEffect (fun _ => id)) (fun _ _ => ignoreResult ?_ s)
    exact fun s => CallEffect.ofEffect (@emits σ (fun e => e = .closeConnection) (fun _ => False) _ rfl s)
      (by rintro e rfl; exact Event.timerIsCall trivial) (by rintro _ e rfl; exact id) (by simp)
  | setGeneralInactivityTime seconds =>
    exact atBind callComposable (calledEffect (fun _ => id)) (fun _ _ =>
      ignoreResult (setGeneralInactivityTimeEffect seconds) s)
  | isSocketActive =>
    refine atBind callComposable (calledEffect (fun _ => id)) (fun _ _ => ?_)
    exact callComposable.refl s
  | timerRound =>
    refine atBind callComposable (calledEffect (fun _ => id)) (fun _ _ => ignoreResult ?_ s)
    exact waitForResponseCallEffect
  | sendDiagnosticAck sourceAddress ackType ackCode =>
    refine @sendingEffect σ (.sendDiagnosticAck sourceAddress ackType ackCode) trivial _ s (fun registered routed => ?_)
      (sendDiagnosticAckUnrouted sourceAddress ackType ackCode)
    exact (sendDiagnosticAckSends sourceAddress ackType ackCode routed).callEffect
      (diagnosticAckNotRouting ackType sourceAddress registered ackCode)
  | sendDiagnosticPayload sourceAddress data =>
    refine @sendingEffect σ (.sendDiagnosticPayload sourceAddress data) trivial _ s (fun registered routed => ?_)
      (sendDiagnosticPayloadUnrouted sourceAddress data)
    exact (sendDiagnosticPayloadSends sourceAddress data routed).callEffect
      (diagnosticMessageNotRouting sourceAddress registered data)

theorem callbackEffect (script : Script Call Int α) :
    Meets CallEffect (script.interpret perform : Doip σ α) :=
  Script.interpretMeets callComposable script.callsTrue (fun call _ => performEffect call)

inductive Notified (app : Application σ) (targetAddress : UInt16) (s : State σ) :
    Outcome Fault Event (State σ) Bool → Prop where
  | stopped {calls : List Event} {t : State σ} {e : Fault} (effect : CallEffect s calls t (some e))
      (ran : (app.notifyApplication s.application targetAddress).interpret perform s = ⟨calls,t,.error e⟩) :
      Notified app targetAddress s ⟨.notifyApplication targetAddress::calls,t,.error e⟩
  | answered {calls : List Event} {t : State σ} {out : Bool × σ} (effect : CallEffect s calls t none)
      (ran : (app.notifyApplication s.application targetAddress).interpret perform s = ⟨calls,t,.ok out⟩) :
      Notified app targetAddress s ⟨.notifyApplication targetAddress::calls ++ [.answered out.1],
        {t with application := out.2},.ok out.1⟩

theorem notifyApplicationNotified (app : Application σ) (targetAddress : UInt16) (s : State σ) :
    Notified app targetAddress s (notifyApplication app targetAddress s) := by
  have effect := callbackEffect (app.notifyApplication s.application targetAddress) s
  unfold Program.At at effect
  cases ran : (app.notifyApplication s.application targetAddress).interpret perform s with
  | mk calls t result =>
    rw [ran] at effect
    cases result with
    | error e =>
      have stopped : notifyApplication app targetAddress s =
          ⟨.notifyApplication targetAddress::calls,t,.error e⟩ := by simp [notifyApplication,ran]
      rw [stopped]
      exact .stopped effect ran
    | ok out =>
      have answered : notifyApplication app targetAddress s = ⟨.notifyApplication targetAddress::calls ++
          [.answered out.1],{t with application := out.2},.ok out.1⟩ := by simp [notifyApplication,ran]
      rw [answered]
      exact .answered effect ran

inductive Delivered (app : Application σ) (targetAddress : UInt16) (data : List UInt8) (length : Int)
    (s : State σ) : Outcome Fault Event (State σ) Unit → Prop where
  | stopped {calls : List Event} {t : State σ} {e : Fault} (effect : CallEffect s calls t (some e))
      (ran : (app.diagCallback s.application targetAddress data length).interpret perform s =
        ⟨calls,t,.error e⟩) :
      Delivered app targetAddress data length s ⟨.diagCallback targetAddress data length::calls,t,.error e⟩
  | returned {calls : List Event} {t : State σ} {out : σ} (effect : CallEffect s calls t none)
      (ran : (app.diagCallback s.application targetAddress data length).interpret perform s =
        ⟨calls,t,.ok out⟩) :
      Delivered app targetAddress data length s
        ⟨.diagCallback targetAddress data length::calls,{t with application := out},.ok ()⟩

theorem diagCallbackDelivered (app : Application σ) (targetAddress : UInt16) (data : List UInt8)
    (length : Int) (s : State σ) :
    Delivered app targetAddress data length s (diagCallback app targetAddress data length s) := by
  have effect := callbackEffect (app.diagCallback s.application targetAddress data length) s
  unfold Program.At at effect
  cases ran : (app.diagCallback s.application targetAddress data length).interpret perform s with
  | mk calls t result =>
    rw [ran] at effect
    cases result with
    | error e =>
      have stopped : diagCallback app targetAddress data length s =
          ⟨.diagCallback targetAddress data length::calls,t,.error e⟩ := by simp [diagCallback,ran]
      rw [stopped]
      exact .stopped effect ran
    | ok out =>
      have returned : diagCallback app targetAddress data length s = ⟨.diagCallback targetAddress data
          length::calls,{t with application := out},.ok ()⟩ := by simp [diagCallback,ran]
      rw [returned]
      exact .returned effect ran

end Calls
end LibDoip
