import LibDoip.Frame
import LibDoip.Sending

/-! What `reactOnReceivedTcpMessage` does with a frame, said once for each type of message. -/
namespace LibDoip
open Library
variable {σ α : Type}

inductive ClosesAfter (s : State σ) : List Event → State σ → Prop where
  | closes {tail m : List Event} {environment : Environment} {t : State σ}
      (errors : ∀ e ∈ tail, ∃ ssl err, e = .sslError ssl err ∧ s.connection.ssl = some ssl)
      (ran : closeSocket false {s with environment := environment} = ⟨m,t,.ok ()⟩) :
      ClosesAfter s (tail ++ m) t

theorem ClosesAfter.effect {s t : State σ} {l : List Event} (h : ClosesAfter s l t) :
    Effect Event.OfClosing (fun _ => False) s l t none := by
  obtain ⟨errors,ran⟩ := h
  rename_i tail m environment
  have looked : Effect Event.OfClosing (fun _ => False) s tail {s with environment := environment} none := by
    refine Effect.ofSame ?_ (by simp) rfl rfl
    intro e member
    obtain ⟨ssl,err,rfl,_⟩ := errors e member
    trivial
  exact Effect.composable.trans looked (closeSocketClosed ran).2

theorem ClosesAfter.closed {s t : State σ} {l : List Event} (h : ClosesAfter s l t) :
    t.connection.clientSock = 0 ∧ t.connection.aliveCheckTimer = s.connection.aliveCheckTimer := by
  obtain ⟨_,ran⟩ := h
  rename_i environment _
  exact ⟨(closeSocketClosed ran).1,@closeSocketTimer σ false {s with environment := environment} _ _ ran⟩

inductive NegativeAckReaction (value : UInt8) (s : State σ) : Outcome Fault Event (State σ) Int → Prop where
  | closed {l : List Event} {t : State σ} {v : Int}
      (code : value = incorrectPatternFormatCode ∨ value = invalidPayloadLengthCode)
      (closing : ClosesAfter s l t) :
      NegativeAckReaction value s ⟨sendEvent s.connection (negativeAckBytes value)::l,t,.ok v⟩
  | kept {l : List Event} {environment : Environment} {v : Int}
      (code : ¬ (value = incorrectPatternFormatCode ∨ value = invalidPayloadLengthCode))
      (events : ∀ e ∈ l, ∃ ssl err, e = .sslError ssl err ∧ s.connection.ssl = some ssl) :
      NegativeAckReaction value s
        ⟨sendEvent s.connection (negativeAckBytes value)::l,{s with environment := environment},.ok v⟩

theorem reactOnNegativeAckReacts (value : UInt8) (s : State σ) :
    NegativeAckReaction value s (reactOnNegativeAck value s) := by
  have sent := sendNegativeAckSends value s
  generalize ran : sendNegativeAck value s = o at sent
  obtain ⟨errors⟩ := sent
  rename_i tail environment v
  by_cases code : value = incorrectPatternFormatCode ∨ value = invalidPayloadLengthCode
  · obtain ⟨l,t,closed,_,_⟩ := closeSocketCloses false {s with environment := environment}
    have reacted : reactOnNegativeAck value s =
        ⟨sendEvent s.connection (negativeAckBytes value)::(tail ++ l),t,.ok (-1)⟩ := by
      simp only [reactOnNegativeAck,Program.bindApply,ran,Outcome.andThenOk,if_pos code,closed]
      simp
    rw [reacted]
    exact .closed code (.closes errors closed)
  · have reacted : reactOnNegativeAck value s =
        ⟨sendEvent s.connection (negativeAckBytes value)::tail,{s with environment := environment},.ok v⟩ := by
      simp only [reactOnNegativeAck,Program.bindApply,ran,Outcome.andThenOk,if_neg code]
      simp
    rw [reacted]
    exact .kept code errors

def Event.OfStart : Event → Prop
  | .sslError _ _ | .timerReset _ | .timerStarted => True
  | _ => False

structure Started (s : State σ) (address : Address) (l : List Event) (t : State σ) : Prop where
  events : ∀ e ∈ l, e.OfStart
  sock : t.connection.clientSock = s.connection.clientSock
  ssl : t.connection.ssl = s.connection.ssl
  routed : t.connection.routedClientAddress = some address
  gateway : t.connection.logicalGatewayAddress = s.connection.logicalGatewayAddress
  expired : t.connection.aliveCheckTimer.timeout = s.connection.aliveCheckTimer.timeout
  disabled : t.connection.aliveCheckTimer.disabled = s.connection.aliveCheckTimer.disabled
  application : t.application = s.application

inductive ActivationReaction (address : Address) (code : UInt8) (s : State σ) :
    Outcome Fault Event (State σ) Int → Prop where
  | refused {l : List Event} {t : State σ} (failed : code ≠ successfullyRoutedCode)
      (closing : ClosesAfter s l t) :
      ActivationReaction address code s ⟨sendEvent s.connection
        (activationResponseBytes s.connection.logicalGatewayAddress address code)::l,t,.ok (-1)⟩
  | routed {l : List Event} {t : State σ} {v : Int} (success : code = successfullyRoutedCode)
      (started : Started s address l t) :
      ActivationReaction address code s ⟨sendEvent s.connection
        (activationResponseBytes s.connection.logicalGatewayAddress address code)::l,t,.ok v⟩

theorem activationCodeCases (d0 d1 d2 : UInt8) :
    (activationCode d0 d1 d2 = unknownSourceAddressCode ∨
      activationCode d0 d1 d2 = unsupportedRoutingTypeCode) ↔
      activationCode d0 d1 d2 ≠ successfullyRoutedCode := by
  unfold activationCode
  split
  · decide
  · split <;> decide

def State.ticked (s : State σ) : State σ :=
  s.setEnvironment (fun e => {e with now := e.now + e.ticks.headD 0, ticks := e.ticks.tail})

theorem startAliveCheckActive {s : State σ} (active : s.connection.aliveCheckTimer.active = true) :
    startAliveCheck s = ⟨[],s,.ok ()⟩ := by
  have idle : ¬ s.connection.aliveCheckTimer.active = false := by simp [active]
  simp only [startAliveCheck,Program.bindApply,connectionApply,Outcome.andThenOk,Outcome.prependNil,
    Program.whenFalse idle,Program.pureApply]

theorem startAliveCheckDisabled {s : State σ} (inactive : s.connection.aliveCheckTimer.active = false)
    (disabled : s.connection.aliveCheckTimer.disabled = true) :
    startAliveCheck s = ⟨[],s.setTimer (fun t => {t with cb := true}),.ok ()⟩ := by
  have stopped : ¬ (s.setTimer (fun t => {t with cb := true})).connection.aliveCheckTimer.disabled = false := by
    simp [State.setTimer,State.setConnection,disabled]
  simp only [startAliveCheck,startTimer,Program.bindApply,connectionApply,Program.whenTrue inactive,
    Program.modifyApply,Outcome.andThenOk,Outcome.prependNil,Program.whenFalse stopped,Program.pureApply]

theorem startAliveCheckEnabled {s : State σ} (inactive : s.connection.aliveCheckTimer.active = false)
    (enabled : s.connection.aliveCheckTimer.disabled = false) :
    startAliveCheck s = ⟨[.timerReset s.ticked.environment.now,.timerStarted],s.ticked.setTimer
      (fun t => AliveCheckTimer.startTimer {t with cb := true} s.ticked.environment.now),.ok ()⟩ := by
  have running : (s.setTimer (fun t => {t with cb := true})).connection.aliveCheckTimer.disabled = false := enabled
  simp only [startAliveCheck,startTimer,Program.bindApply,connectionApply,Program.whenTrue inactive,
    Program.modifyApply,Outcome.andThenOk,Program.whenTrue running,clockApply,Program.emitApply,Outcome.prependMk]
  rfl

theorem startAliveCheckStarts {s : State σ} {address : Address}
    (routed : s.connection.routedClientAddress = some address) :
    ∃ l t, startAliveCheck s = ⟨l,t,.ok ()⟩ ∧ Started s address l t := by
  cases active : s.connection.aliveCheckTimer.active with
  | true => exact ⟨_,_,startAliveCheckActive active,by simp,rfl,rfl,routed,rfl,rfl,rfl,rfl⟩
  | false =>
    cases disabled : s.connection.aliveCheckTimer.disabled with
    | true => exact ⟨_,_,startAliveCheckDisabled active disabled,by simp,rfl,rfl,routed,rfl,rfl,rfl,rfl⟩
    | false =>
      exact ⟨_,_,startAliveCheckEnabled active disabled,by simp [Event.OfStart],rfl,rfl,routed,rfl,rfl,rfl,rfl⟩

def State.register (s : State σ) (address : Address) : State σ :=
  s.setConnection (fun c => {c with routedClientAddress := some address})

theorem answeredActivation (d0 d1 d2 : UInt8) (rest : List UInt8) (s : State σ) :
    reactOnRoutingActivation (some (Buffer.filled (d0::d1::d2::rest))) s =
      (do
        let sentBytes ← sendMessage (Buffer.filled (activationResponseBytes s.connection.logicalGatewayAddress (d0,d1)
          (activationCode d0 d1 d2))) (genericHeaderLength + activationResponseLength)
        if activationCode d0 d1 d2 ≠ successfullyRoutedCode then do
          closeSocket false
          pure (-1)
        else do
          Program.modify (·.register (d0,d1))
          startAliveCheck
          pure sentBytes : Doip σ Int) s := by
  have parsed := parsedRoutingActivation d0 d1 d2 rest
  generalize held : some (Buffer.filled (d0::d1::d2::rest)) = payload at parsed
  have l0 : Buffer.loadFrom payload 0 = .ok d0 := by subst held; rfl
  have l1 : Buffer.loadFrom payload 1 = .ok d1 := by subst held; rfl
  unfold reactOnRoutingActivation
  rw [parsed,Program.liftOkBind,l0,Program.liftOkBind,l1,Program.liftOkBind]
  simp only [Program.bindApply,connectionApply,Outcome.andThenOk,Outcome.prependNil,
    createdActivationResponse,Program.liftApply,activationCodeCases]
  rfl

inductive ActivationAnswer (address : Address) (code : UInt8) (s : State σ) : Outcome Fault Event (State σ) Int → Prop where
  | refused {tail l : List Event} {environment : Environment} {t : State σ} (failed : code ≠ successfullyRoutedCode)
      (errors : ∀ e ∈ tail, ∃ ssl err, e = .sslError ssl err ∧ s.connection.ssl = some ssl)
      (ran : closeSocket false {s with environment := environment} = ⟨l,t,.ok ()⟩) :
      ActivationAnswer address code s ⟨sendEvent s.connection
        (activationResponseBytes s.connection.logicalGatewayAddress address code)::(tail ++ l),t,.ok (-1)⟩
  | routed {tail l : List Event} {environment : Environment} {t : State σ} {v : Int}
      (success : code = successfullyRoutedCode)
      (errors : ∀ e ∈ tail, ∃ ssl err, e = .sslError ssl err ∧ s.connection.ssl = some ssl)
      (ran : startAliveCheck (State.register {s with environment := environment} address) = ⟨l,t,.ok ()⟩) :
      ActivationAnswer address code s ⟨sendEvent s.connection
        (activationResponseBytes s.connection.logicalGatewayAddress address code)::(tail ++ l),t,.ok v⟩

theorem activationAnswered (d0 d1 d2 : UInt8) (rest : List UInt8) (s : State σ) :
    ActivationAnswer (d0,d1) (activationCode d0 d1 d2) s
      (reactOnRoutingActivation (some (Buffer.filled (d0::d1::d2::rest))) s) := by
  have sent := activationResponseSends s.connection.logicalGatewayAddress (d0,d1) (activationCode d0 d1 d2) s
  rw [answeredActivation,Program.bindApply]
  generalize sendMessage _ _ s = o at sent
  obtain ⟨errors⟩ := sent
  rename_i tail environment v
  rw [Outcome.andThenOk]
  by_cases success : activationCode d0 d1 d2 = successfullyRoutedCode
  · rw [if_neg (not_not_intro success)]
    obtain ⟨l,t,ran,_⟩ := @startAliveCheckStarts σ (State.register {s with environment := environment} (d0,d1)) (d0,d1) rfl
    simp only [Program.bindApply,Program.modifyApply,Outcome.andThenOk,ran,Program.pureApply,
      Outcome.prependMk,List.append_nil,List.cons_append]
    exact .routed success errors ran
  · rw [if_pos success]
    obtain ⟨l,t,closed,_,_⟩ := closeSocketCloses false {s with environment := environment}
    rw [Program.returnAfter closed,Outcome.prependMk,List.cons_append]
    exact .refused success errors closed

theorem reactOnRoutingActivationReacts (d0 d1 d2 : UInt8) (rest : List UInt8) (s : State σ) :
    ActivationReaction (d0,d1) (activationCode d0 d1 d2) s
      (reactOnRoutingActivation (some (Buffer.filled (d0::d1::d2::rest))) s) := by
  have answered := activationAnswered d0 d1 d2 rest s
  generalize reactOnRoutingActivation _ s = o at answered
  cases answered with
  | refused failed errors ran => exact .refused failed (.closes errors ran)
  | @routed tail l environment t v success errors ran =>
    obtain ⟨_,_,ran',started⟩ := @startAliveCheckStarts σ (State.register {s with environment := environment} (d0,d1))
      (d0,d1) rfl
    cases ran.symm.trans ran'
    refine .routed success {started with events := ?_}
    intro e member
    rcases List.mem_append.mp member with sending | starting
    · obtain ⟨ssl,err,rfl,_⟩ := errors e sending
      trivial
    · exact started.events e starting

inductive DiagnosticReaction (app : Application σ) (d0 d1 d2 d3 : UInt8) (data : List UInt8) (s : State σ) :
    Outcome Fault Event (State σ) Int → Prop where
  | stopped {l : List Event} {t : State σ} {e : Fault}
      (notified : Notified app (bigEndian16 d2 d3) s ⟨l,t,.error e⟩) :
      DiagnosticReaction app d0 d1 d2 d3 data s ⟨l,t,.error e⟩
  | unheard {l : List Event} {t : State σ} {ack : Bool} (notified : Notified app (bigEndian16 d2 d3) s ⟨l,t,.ok ack⟩)
      (reason : ack = false ∨ 2147483648 ≤ data.length + 4 ∨
        ∃ registered, s.connection.routedClientAddress = some registered ∧ registered ≠ (d0,d1)) :
      DiagnosticReaction app d0 d1 d2 d3 data s ⟨l,t,.ok (-1)⟩
  | unrouted {l : List Event} {t : State σ} (notified : Notified app (bigEndian16 d2 d3) s ⟨l,t,.ok true⟩)
      (small : data.length + 4 < 2147483648) (unrouted : s.connection.routedClientAddress = none) :
      DiagnosticReaction app d0 d1 d2 d3 data s ⟨l,t,.error .indeterminatePointer⟩
  | delivered {l m : List Event} {t u : State σ} {r : Except Fault Unit}
      (notified : Notified app (bigEndian16 d2 d3) s ⟨l,t,.ok true⟩)
      (small : data.length + 4 < 2147483648) (routed : s.connection.routedClientAddress = some (d0,d1))
      (delivered : Delivered app (bigEndian16 d2 d3) data data.length t ⟨m,u,r⟩) :
      DiagnosticReaction app d0 d1 d2 d3 data s ⟨l ++ m,u,r.map (fun _ => -1)⟩

theorem Notified.routed {app : Application σ} {targetAddress : UInt16} {s t : State σ} {l : List Event}
    {r : Except Fault Bool} (h : Notified app targetAddress s ⟨l,t,r⟩) :
    t.connection.routedClientAddress = s.connection.routedClientAddress := by
  cases h with
  | stopped effect _ => exact effect.routed
  | answered effect _ => exact effect.routed

theorem checkedAfterNotice (app : Application σ) (d0 d1 d2 d3 : UInt8) (data : List UInt8)
    {s t : State σ} {l : List Event} (bound : data.length + 4 < 4294967296)
    (notified : Notified app (bigEndian16 d2 d3) s ⟨l,t,.ok true⟩) :
    DiagnosticReaction app d0 d1 d2 d3 data s
      (((do
        let _ ← parseDiagnosticMessage (diagCallback app) t.connection.routedClientAddress
          (some (Buffer.filled (d0::d1::d2::d3::data))) (toInt (data.length + 4))
        pure (-1) : Doip σ Int) t).prepend l) := by
  by_cases small : data.length + 4 < 2147483648
  · have length : toInt (data.length + 4) = data.length + 4 := toIntSmall small
    cases routed : s.connection.routedClientAddress with
    | none =>
      have unrouted : parseDiagnosticMessage (diagCallback app) t.connection.routedClientAddress
          (some (Buffer.filled (d0::d1::d2::d3::data))) (toInt (data.length + 4)) =
          Program.throw .indeterminatePointer := by
        have first : Buffer.loadFrom (some (Buffer.filled (d0::d1::d2::d3::data))) 0 = .ok d0 := rfl
        rw [notified.routed,routed,length,parseDiagnosticMessage,
          if_pos (by unfold diagnosticMessageMinimumLength; omega),first,Program.liftOkBind,addressAt,
          Program.liftErrorBind]
      rw [unrouted]
      simpa using DiagnosticReaction.unrouted notified small routed
    | some registered =>
      rw [notified.routed,routed,length,parsedDiagnosticMessage]
      by_cases same : registered = (d0,d1)
      · rw [if_pos same]
        have handed := diagCallbackDelivered app (bigEndian16 d2 d3) data data.length t
        generalize ran : diagCallback app (bigEndian16 d2 d3) data data.length t = o at handed
        obtain ⟨m,u,r⟩ := o
        have reaction := DiagnosticReaction.delivered notified small (routed.trans (by rw [same])) handed
        cases r <;> simpa [ran,Except.map] using reaction
      · rw [if_neg same]
        simpa using DiagnosticReaction.unheard notified (Or.inr (Or.inr ⟨registered,routed,same⟩))
  · have negative : toInt (data.length + 4) < 4 := by
      rw [toIntLarge (by omega) bound]
      omega
    rw [parsedNegativeLength _ _ _ negative]
    simpa using DiagnosticReaction.unheard notified (Or.inr (Or.inl (by omega)))

theorem reactOnDiagnosticMessageReacts (app : Application σ) (d0 d1 d2 d3 : UInt8) (data : List UInt8)
    (bound : data.length + 4 < 4294967296) (s : State σ) :
    DiagnosticReaction app d0 d1 d2 d3 data s
      (reactOnDiagnosticMessage app (data.length + 4) (some (Buffer.filled (d0::d1::d2::d3::data))) s) := by
  have checked := @checkedAfterNotice σ app d0 d1 d2 d3 data s
  generalize held : some (Buffer.filled (d0::d1::d2::d3::data)) = payload at checked
  have l2 : Buffer.loadFrom payload 2 = .ok d2 := by subst held; rfl
  have l3 : Buffer.loadFrom payload 3 = .ok d3 := by subst held; rfl
  have notified := notifyApplicationNotified app (bigEndian16 d2 d3) s
  generalize ran : notifyApplication app (bigEndian16 d2 d3) s = o at notified
  obtain ⟨l,t,r⟩ := o
  rw [reactOnDiagnosticMessage,l2,Program.liftOkBind,l3,Program.liftOkBind,Program.bindApply,ran]
  cases r with
  | error e => exact .stopped notified
  | ok ack =>
    cases ack with
    | false =>
      rw [Outcome.andThenOk,Program.bindApply,Program.whenFalse Bool.false_ne_true]
      simpa using DiagnosticReaction.unheard notified (Or.inl rfl)
    | true =>
      rw [Outcome.andThenOk,Program.whenTrue rfl]
      simp only [bind_assoc,pure_bind]
      rw [Program.bindApply,connectionApply,Outcome.andThenOk,Outcome.prependNil]
      exact checked bound notified

/- What is dispatched: a frame, or a payload buffer to which nothing was ever stored. -/
inductive Arrived : GenericHeaderAction → Option Buffer → Prop where
  | frame (frame : Frame) : Arrived frame.action frame.pointer
  | unassigned (action : GenericHeaderAction) (other : action.type ≠ .routingActivationRequest)
      (size : 2 < action.payloadLength.toNat) :
      Arrived action (some (Buffer.alloc action.payloadLength.toNat))

inductive Reaction (app : Application σ) (action : GenericHeaderAction) (payload : Option Buffer)
    (s : State σ) : Outcome Fault Event (State σ) Int → Prop where
  | ignored {v : Int} (nack : action.type ≠ .negativeAck) (routing : action.type ≠ .routingActivationRequest)
      (diagnostic : action.type ≠ .diagnosticMessage) : Reaction app action payload s ⟨[],s,.ok v⟩
  | negativeAck {o : Outcome Fault Event (State σ) Int} (type : action.type = .negativeAck)
      (reaction : NegativeAckReaction action.value s o) : Reaction app action payload s o
  | activation {o : Outcome Fault Event (State σ) Int} (d0 d1 d2 : UInt8) (rest : List UInt8)
      (type : action.type = .routingActivationRequest)
      (bytes : payload = some (Buffer.filled (d0::d1::d2::rest)))
      (reaction : ActivationReaction (d0,d1) (activationCode d0 d1 d2) s o) : Reaction app action payload s o
  | diagnostic {o : Outcome Fault Event (State σ) Int} (d0 d1 d2 d3 : UInt8) (data : List UInt8)
      (type : action.type = .diagnosticMessage)
      (bytes : payload = some (Buffer.filled (d0::d1::d2::d3::data)))
      (size : action.payloadLength.toNat = data.length + 4)
      (reaction : DiagnosticReaction app d0 d1 d2 d3 data s o) : Reaction app action payload s o
  | unreadable (type : action.type = .diagnosticMessage)
      (unassigned : payload = some (Buffer.alloc action.payloadLength.toNat)) :
      Reaction app action payload s ⟨[],s,.error .uninitialized⟩

theorem arrivedReacts (app : Application σ) {action : GenericHeaderAction} {payload : Option Buffer}
    (arrived : Arrived action payload) (bound : action.payloadLength.toNat < 4294967296) (s : State σ) :
    ∃ o, reactOnReceivedTcpMessage app action action.payloadLength.toNat payload s =
      o.prepend [.received action payload] ∧ Reaction app action payload s o := by
  refine ⟨_,by rw [reactOnReceivedTcpMessage,Program.bindApply,Program.emitApply,Outcome.andThenOk],?_⟩
  cases type : action.type with
  | negativeAck => exact .negativeAck type (reactOnNegativeAckReacts _ s)
  | routingActivationRequest =>
    cases arrived with
    | frame frame =>
      obtain ⟨d0,d1,d2,rest,bytes⟩ := frame.activationBytes type
      refine .activation d0 d1 d2 rest type bytes ?_
      rw [bytes]
      exact reactOnRoutingActivationReacts d0 d1 d2 rest s
    | unassigned _ other _ => exact absurd type other
  | diagnosticMessage =>
    cases arrived with
    | frame frame =>
      obtain ⟨d0,d1,d2,d3,data,_,bytes,size⟩ := frame.diagnosticBytes type
      refine .diagnostic d0 d1 d2 d3 data type bytes size ?_
      rw [bytes,size]
      exact reactOnDiagnosticMessageReacts app d0 d1 d2 d3 data (by omega) s
    | unassigned _ _ size =>
      have second : Buffer.loadFrom (some (Buffer.alloc action.payloadLength.toNat)) 2 =
        .error .uninitialized := Buffer.loadUnassigned size
      simp only [reactOnDiagnosticMessage,second,Program.liftErrorBind]
      exact .unreadable type rfl
  | _ => exact .ignored (by simp [type]) (by simp [type]) (by simp [type])

def Event.OfReaction : Event → Prop
  | .recv _ _ | .sslRead _ _ | .receiving | .received _ _ => False
  | _ => True

theorem Event.callIsReaction {e : Event} (h : e.OfCall) : e.OfReaction := by
  cases e <;> first | trivial | exact (h.elim id id).elim

theorem Event.startIsReaction {e : Event} (h : e.OfStart) : e.OfReaction := by
  cases e <;> trivial

theorem Notified.events {app : Application σ} {targetAddress : UInt16} {s : State σ}
    {o : Outcome Fault Event (State σ) Bool} (h : Notified app targetAddress s o) :
    ∀ e ∈ o.log, e.OfReaction := by
  cases h with
  | stopped effect _ => exact List.forall_mem_cons.mpr ⟨trivial,fun e m => Event.callIsReaction (effect.events e m)⟩
  | answered effect _ =>
    refine List.forall_mem_append.mpr ⟨List.forall_mem_cons.mpr ⟨trivial,?_⟩,List.forall_mem_singleton.mpr trivial⟩
    exact fun e m => Event.callIsReaction (effect.events e m)

theorem Delivered.events {app : Application σ} {targetAddress : UInt16} {data : List UInt8} {length : Int}
    {s : State σ} {o : Outcome Fault Event (State σ) Unit} (h : Delivered app targetAddress data length s o) :
    ∀ e ∈ o.log, e.OfReaction := by
  cases h with
  | stopped effect _ => exact List.forall_mem_cons.mpr ⟨trivial,fun e m => Event.callIsReaction (effect.events e m)⟩
  | returned effect _ => exact List.forall_mem_cons.mpr ⟨trivial,fun e m => Event.callIsReaction (effect.events e m)⟩

theorem sentIsReaction (c : DoIPConnection) (bytes : List UInt8) : (sendEvent c bytes).OfReaction := by
  unfold sendEvent
  split <;> trivial

theorem Reaction.events {app : Application σ} {action : GenericHeaderAction} {payload : Option Buffer}
    {s : State σ} {o : Outcome Fault Event (State σ) Int} (h : Reaction app action payload s o) :
    ∀ e ∈ o.log, e.OfReaction := by
  cases h with
  | ignored => simp
  | unreadable => simp
  | negativeAck _ reaction =>
    cases reaction with
    | closed _ closing => exact List.forall_mem_cons.mpr ⟨sentIsReaction _ _,fun e m =>
        Event.callIsReaction (Event.closingIsCall (closing.effect.events e m))⟩
    | kept _ errors =>
      refine List.forall_mem_cons.mpr ⟨sentIsReaction _ _,?_⟩
      intro e member
      obtain ⟨ssl,err,rfl,_⟩ := errors e member
      trivial
  | activation _ _ _ _ _ _ reaction =>
    cases reaction with
    | refused _ closing => exact List.forall_mem_cons.mpr ⟨sentIsReaction _ _,fun e m =>
        Event.callIsReaction (Event.closingIsCall (closing.effect.events e m))⟩
    | routed _ started => exact List.forall_mem_cons.mpr ⟨sentIsReaction _ _,fun e m =>
        Event.startIsReaction (started.events e m)⟩
  | diagnostic _ _ _ _ _ _ _ _ reaction =>
    cases reaction with
    | stopped notified => exact notified.events
    | unheard notified _ => exact notified.events
    | unrouted notified _ _ => exact notified.events
    | delivered notified _ _ delivered => exact List.forall_mem_append.mpr ⟨notified.events,delivered.events⟩

theorem Notified.shuts {app : Application σ} {targetAddress : UInt16} {s : State σ}
    {o : Outcome Fault Event (State σ) Bool} (h : Notified app targetAddress s o) :
    Shuts s o.state o.fault := by
  cases h with
  | stopped effect _ => exact effect.shuts
  | answered effect _ => exact effect.shuts.trans (.same rfl rfl rfl id)

theorem Delivered.shuts {app : Application σ} {targetAddress : UInt16} {data : List UInt8} {length : Int}
    {s : State σ} {o : Outcome Fault Event (State σ) Unit} (h : Delivered app targetAddress data length s o) :
    Shuts s o.state o.fault := by
  cases h with
  | stopped effect _ => exact effect.shuts
  | returned effect _ => exact effect.shuts.trans (.same rfl rfl rfl id)

theorem Shuts.mono {s t : State σ} {f g : Option Fault} (h : Shuts s t f) (weaker : g = none → f = none) :
    Shuts s t g := ⟨h.ssl,fun returned => h.settled (weaker returned)⟩

theorem Reaction.shuts {app : Application σ} {action : GenericHeaderAction} {payload : Option Buffer}
    {s : State σ} {o : Outcome Fault Event (State σ) Int} (h : Reaction app action payload s o) :
    Shuts s o.state o.fault := by
  cases h with
  | ignored => exact .same rfl rfl rfl id
  | unreadable => exact .same rfl rfl rfl id
  | negativeAck _ reaction =>
    cases reaction with
    | closed _ closing => exact closing.effect.shuts
    | kept _ _ => exact .same rfl rfl rfl id
  | activation _ _ _ _ _ _ reaction =>
    cases reaction with
    | refused _ closing => exact closing.effect.shuts
    | routed _ started => exact .same started.sock started.ssl started.expired (fun off => started.disabled.trans off)
  | diagnostic _ _ _ _ _ _ _ _ reaction =>
    cases reaction with
    | stopped notified => exact notified.shuts
    | unheard notified _ => exact notified.shuts
    | unrouted notified _ _ => exact notified.shuts.mono (by simp)
    | @delivered l m t u r notified _ _ delivered =>
      refine notified.shuts.trans (delivered.shuts.mono ?_)
      cases r <;> simp [Except.map,Outcome.fault]

structure Retimed (s t : State σ) : Prop where
  sock : t.connection.clientSock = s.connection.clientSock
  ssl : t.connection.ssl = s.connection.ssl
  routed : t.connection.routedClientAddress = s.connection.routedClientAddress
  gateway : t.connection.logicalGatewayAddress = s.connection.logicalGatewayAddress
  active : t.connection.aliveCheckTimer.active = s.connection.aliveCheckTimer.active
  expired : t.connection.aliveCheckTimer.timeout = s.connection.aliveCheckTimer.timeout
  disabled : t.connection.aliveCheckTimer.disabled = s.connection.aliveCheckTimer.disabled
  application : t.application = s.application

theorem resetTimerRetimed {s : State σ} (active : s.connection.aliveCheckTimer.active = true) :
    ∃ now t, resetTimer s = ⟨[.timerReset now],t,.ok ()⟩ ∧ Retimed s t := by
  refine ⟨_,_,rfl,rfl,rfl,rfl,rfl,active.symm,rfl,rfl,rfl⟩

inductive Dispatched (app : Application σ) (action : GenericHeaderAction) (payload : Option Buffer)
    (s : State σ) : Outcome Fault Event (State σ) Int → Prop where
  | dispatched {resets : List Event} {t : State σ} {o : Outcome Fault Event (State σ) Int}
      (reset : ∀ e ∈ resets, ∃ now, e = .timerReset now) (retimed : Retimed s t)
      (reaction : Reaction app action payload t o) :
      Dispatched app action payload s (o.prepend (resets ++ [.received action payload]))

theorem messageReceivedDispatched (app : Application σ) {action : GenericHeaderAction} {payload : Option Buffer}
    (arrived : Arrived action payload) (bound : action.payloadLength.toNat < 4294967296) (s : State σ) :
    Dispatched app action payload s (messageReceived app action payload s) := by
  unfold messageReceived
  rw [Program.bindApply,connectionApply,Outcome.andThenOk,Outcome.prependNil]
  by_cases active : s.connection.aliveCheckTimer.active = true
  · rw [Program.whenTrue active]
    obtain ⟨now,t,reset,retimed⟩ := resetTimerRetimed active
    obtain ⟨o,reacted,reaction⟩ := arrivedReacts app arrived bound t
    rw [Program.bindApply,reset,Outcome.andThenOk,reacted,Outcome.prependPrepend]
    exact .dispatched (by simp) retimed reaction
  · rw [Program.whenFalse active]
    simp only [Program.bindApply,Program.pureApply,Outcome.andThenOk,Outcome.prependNil]
    obtain ⟨o,reacted,reaction⟩ := arrivedReacts app arrived bound s
    rw [reacted]
    exact @Dispatched.dispatched σ app action payload s [] s o (by simp)
      ⟨rfl,rfl,rfl,rfl,rfl,rfl,rfl,rfl⟩ reaction

theorem Dispatched.shuts {app : Application σ} {action : GenericHeaderAction} {payload : Option Buffer}
    {s : State σ} {o : Outcome Fault Event (State σ) Int} (h : Dispatched app action payload s o) :
    Shuts s o.state o.fault := by
  cases h with
  | dispatched _ retimed reaction =>
    exact Shuts.trans (.same retimed.sock retimed.ssl retimed.expired
      (fun off => retimed.disabled.trans off)) reaction.shuts

end LibDoip
