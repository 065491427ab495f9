import LibDoip.ClientRequests
import LibDoip.ConnectionRules
import LibDoip.Record
import LibDoip.UdpRules

/-! Every message that is sent, by whichever party, is a whole frame: it has been built in a buffer of exactly
the size that is sent, every byte of which is assigned, and its header declares exactly what follows it. -/
namespace LibDoip
open Library
variable {σ α : Type}

def PayloadType.code : PayloadType → UInt8 × UInt8
  | .negativeAck => (0x00,0x00)
  | .vehicleIdentRequest => (0x00,0x01)
  | .vehicleIdentResponse => (0x00,0x04)
  | .routingActivationRequest => (0x00,0x05)
  | .routingActivationResponse => (0x00,0x06)
  | .aliveCheckResponse => (0x00,0x08)
  | .diagnosticMessage => (0x80,0x01)
  | .diagnosticPositiveAck => (0x80,0x02)
  | .diagnosticNegativeAck => (0x80,0x03)

def WellFormedFrame (type : PayloadType) (bytes : List UInt8) : Prop :=
  ∃ version b4 b5 b6 b7 payload,
    bytes = [version,version ^^^ 0xFF,type.code.1,type.code.2,b4,b5,b6,b7] ++ payload ∧
    payload.length = b4.toNat * 16777216 + b5.toNat * 65536 + b6.toNat * 256 + b7.toNat

inductive Builds : PayloadType → Except Fault (Int × Buffer) → Prop where
  | negativeAck (ackCode : UInt8) : Builds .negativeAck (do
      let message ← createGenericHeader .negativeAck 1
      let message ← message.store 8 ackCode
      .ok (genericHeaderLength + nackLength,message))
  | routingActivationResponse (gateway : UInt16) (client : Address) (code : UInt8) :
      Builds .routingActivationResponse (do
        let message ← createRoutingActivationResponse gateway client code
        .ok (genericHeaderLength + activationResponseLength,message))
  | diagnosticAck (ackType : Bool) (sourceAddress : UInt16) (targetAddress : Address) (ackCode : UInt8) :
      Builds (if ackType then .diagnosticPositiveAck else .diagnosticNegativeAck) (do
        let message ← createDiagnosticAck ackType sourceAddress targetAddress ackCode
        .ok (genericHeaderLength + diagnosticPositiveAckLength,message))
  | diagnosticMessage (sourceAddress : UInt16) (targetAddress : Address) (data : UserData) :
      Builds .diagnosticMessage (do
        let message ← createDiagnosticMessage sourceAddress (some targetAddress) (Buffer.filled data.bytes)
          data.bytes.length
        let size ← addInt (genericHeaderLength + diagnosticMessageMinimumLength) data.bytes.length
        .ok (size,message))
  | vehicleIdentResponse (VIN : List UInt8) (logicalAddress : UInt16) (EID GID : Identifier) (furtherActionReq : UInt8) :
      Builds .vehicleIdentResponse (do
        let message ← createVehicleIdentificationResponse VIN logicalAddress EID GID furtherActionReq
        .ok (genericHeaderLength + viResponseLength,message))
  | routingActivationRequest : Builds .routingActivationRequest buildRoutingActivationRequest
  | aliveCheckResponse (sourceAddress : Address) : Builds .aliveCheckResponse (do
      let message ← createGenericHeader .aliveCheckResponse 2
      let message ← message.storeAll 8 [sourceAddress.1,sourceAddress.2]
      .ok (genericHeaderLength + 2,message))
  | vehicleIdentRequest : Builds .vehicleIdentRequest buildVehicleIdentificationRequest

def BuiltWhole (type : PayloadType) (build : Except Fault (Int × Buffer)) (bytes : List UInt8) : Prop :=
  build = .ok (bytes.length,Buffer.filled bytes) ∧ WellFormedFrame type bytes

theorem headedFrame {type : PayloadType} {h2 h3 : UInt8} {length : UInt32} {payload : List UInt8}
    (code : type.code = (h2,h3)) (size : payload.length = length.toNat) :
    WellFormedFrame type (headerBytes h2 h3 length ++ payload) := by
  refine ⟨0x02,byte3 length,byte2 length,byte1 length,byte0 length,payload,?_,?_⟩
  · rw [code]
    rfl
  · rw [← bigEndian32Value,bytesValue]
    exact size

theorem negativeAckWhole (ackCode : UInt8) : BuiltWhole .negativeAck (do
    let message ← createGenericHeader .negativeAck 1
    let message ← message.store 8 ackCode
    .ok (genericHeaderLength + nackLength,message)) (negativeAckBytes ackCode) := by
  refine ⟨?_,headedFrame rfl rfl⟩
  rw [createdNegativeAck,okBind,storedNegativeAck,okBind]
  rfl

theorem activationResponseWhole (gateway : UInt16) (client : Address) (code : UInt8) :
    BuiltWhole .routingActivationResponse (do
      let message ← createRoutingActivationResponse gateway client code
      .ok (genericHeaderLength + activationResponseLength,message)) (activationResponseBytes gateway client code) := by
  refine ⟨?_,headedFrame rfl rfl⟩
  rw [createdActivationResponse,okBind]
  rfl

theorem diagnosticAckWhole (ackType : Bool) (sourceAddress : UInt16) (targetAddress : Address) (ackCode : UInt8) :
    BuiltWhole (if ackType then .diagnosticPositiveAck else .diagnosticNegativeAck) (do
      let message ← createDiagnosticAck ackType sourceAddress targetAddress ackCode
      .ok (genericHeaderLength + diagnosticPositiveAckLength,message))
      (diagnosticAckBytes ackType sourceAddress targetAddress ackCode) := by
  refine ⟨?_,headedFrame (by cases ackType <;> rfl) rfl⟩
  rw [createdDiagnosticAck,okBind]
  rfl

theorem diagnosticMessageWhole (sourceAddress : UInt16) (targetAddress : Address) (data : UserData) :
    BuiltWhole .diagnosticMessage (do
      let message ← createDiagnosticMessage sourceAddress (some targetAddress) (Buffer.filled data.bytes)
        data.bytes.length
      let size ← addInt (genericHeaderLength + diagnosticMessageMinimumLength) data.bytes.length
      .ok (size,message)) (diagnosticMessageBytes sourceAddress targetAddress data) := by
  have fits := data.fits
  have field : (UInt32.ofNat (4 + data.bytes.length)).toNat = 4 + data.bytes.length :=
    UInt32.toNat_ofNat_of_lt (by show _ < 4294967296; omega)
  constructor
  · rw [createdDiagnosticMessage,okBind,diagnosticMessageSize sourceAddress targetAddress data,okBind]
  · rw [diagnosticMessageBytes,List.append_assoc]
    refine headedFrame rfl ?_
    rw [field,List.length_append,List.length_cons,List.length_cons,List.length_cons,List.length_singleton]

theorem vehicleIdentificationWhole (VIN : List UInt8) (logicalAddress : UInt16) (EID GID : Identifier)
    (furtherActionReq : UInt8) : BuiltWhole .vehicleIdentResponse (do
      let message ← createVehicleIdentificationResponse VIN logicalAddress EID GID furtherActionReq
      .ok (genericHeaderLength + viResponseLength,message))
      (vehicleIdentificationBytes VIN logicalAddress EID GID furtherActionReq) := by
  constructor
  · rw [createdVehicleIdentificationResponse,okBind,vehicleIdentificationSize]
    rfl
  · simp only [vehicleIdentificationBytes,List.append_assoc]
    exact headedFrame rfl (by simp [vinBytesLength,Identifier.bytes])

theorem activationRequestWhole : BuiltWhole .routingActivationRequest buildRoutingActivationRequest
    (headerBytes 0x00 0x05 7 ++ activationRequestPayload) :=
  ⟨builtRoutingActivationRequest,headedFrame rfl rfl⟩

theorem aliveCheckResponseWhole (sourceAddress : Address) : BuiltWhole .aliveCheckResponse (do
    let message ← createGenericHeader .aliveCheckResponse 2
    let message ← message.storeAll 8 [sourceAddress.1,sourceAddress.2]
    .ok (genericHeaderLength + 2,message)) (headerBytes 0x00 0x08 2 ++ [sourceAddress.1,sourceAddress.2]) := by
  refine ⟨?_,headedFrame rfl rfl⟩
  rw [createdAliveCheckResponse,okBind,builtAliveCheckResponse,okBind]
  rfl

theorem identificationRequestWhole :
    BuiltWhole .vehicleIdentRequest buildVehicleIdentificationRequest identificationRequestBytes :=
  ⟨builtVehicleIdentificationRequest,@headedFrame .vehicleIdentRequest 0x00 0x01 0 [] rfl rfl⟩

theorem buildsWhole {type : PayloadType} {build : Except Fault (Int × Buffer)} (builds : Builds type build) :
    ∃ bytes, BuiltWhole type build bytes := by
  cases builds with
  | negativeAck ackCode => exact ⟨_,negativeAckWhole ackCode⟩
  | routingActivationResponse gateway client code => exact ⟨_,activationResponseWhole gateway client code⟩
  | diagnosticAck ackType sourceAddress targetAddress ackCode =>
    exact ⟨_,diagnosticAckWhole ackType sourceAddress targetAddress ackCode⟩
  | diagnosticMessage sourceAddress targetAddress data =>
    exact ⟨_,diagnosticMessageWhole sourceAddress targetAddress data⟩
  | vehicleIdentResponse VIN logicalAddress EID GID furtherActionReq =>
    exact ⟨_,vehicleIdentificationWhole VIN logicalAddress EID GID furtherActionReq⟩
  | routingActivationRequest => exact ⟨_,activationRequestWhole⟩
  | aliveCheckResponse sourceAddress => exact ⟨_,aliveCheckResponseWhole sourceAddress⟩
  | vehicleIdentRequest => exact ⟨_,identificationRequestWhole⟩

def WholeMessage (bytes : List UInt8) : Prop := ∃ type build, Builds type build ∧ BuiltWhole type build bytes

theorem OwnMessage.whole {bytes : List UInt8} (own : OwnMessage bytes) : WholeMessage bytes := by
  cases own with
  | activationResponse gateway client code => exact ⟨_,_,.routingActivationResponse _ _ _,activationResponseWhole _ _ _⟩
  | diagnosticAck ackType sourceAddress targetAddress ackCode =>
    exact ⟨_,_,.diagnosticAck _ _ _ _,diagnosticAckWhole _ _ _ _⟩
  | diagnosticMessage sourceAddress targetAddress data =>
    exact ⟨_,_,.diagnosticMessage _ _ _,diagnosticMessageWhole _ _ _⟩
  | negativeAck ackCode => exact ⟨_,_,.negativeAck _,negativeAckWhole _⟩

theorem OwnDatagram.whole {bytes : List UInt8} (own : OwnDatagram bytes) : WholeMessage bytes := by
  cases own with
  | identification VIN logicalAddress EID GID furtherActionReq =>
    exact ⟨_,_,.vehicleIdentResponse _ _ _ _ _,vehicleIdentificationWhole _ _ _ _ _⟩
  | negativeAck ackCode => exact ⟨_,_,.negativeAck _,negativeAckWhole _⟩

theorem OwnRequest.whole {bytes : List UInt8} (own : OwnRequest bytes) : WholeMessage bytes := by
  cases own with
  | routingActivation => exact ⟨_,_,.routingActivationRequest,activationRequestWhole⟩
  | diagnosticMessage targetAddress userData => exact ⟨_,_,.diagnosticMessage _ _ _,diagnosticMessageWhole _ _ _⟩
  | aliveCheckResponse sourceAddress => exact ⟨_,_,.aliveCheckResponse _,aliveCheckResponseWhole _⟩
  | vehicleIdentification => exact ⟨_,_,.vehicleIdentRequest,identificationRequestWhole⟩

def ServerEvent.sent : ServerEvent → Option (List UInt8)
  | .sendto _ message _ => some message
  | _ => none

def SendsMessages (_ : State σ) (l : List Event) (_ : State σ) (_ : Option Fault) : Prop :=
  ∀ e ∈ l, ∀ bytes, e.sent = some bytes → OwnMessage bytes

theorem unsentMessages {s t : State σ} {l : List Event} {f : Option Fault} (unsent : ∀ e ∈ l, e.sent = none) :
    SendsMessages s l t f := by
  intro e member bytes sent
  rw [unsent e member] at sent
  cases sent

theorem readingUnsent {e : Event} (reading : e.OfReading) : e.sent = none := by
  cases e <;> first | exact reading.elim | rfl

theorem sendsMessages : ConnectionRules (@SendsMessages σ) where
  composable := ⟨fun _ => unsentMessages (by simp),fun first second e member bytes sent =>
    (List.mem_append.mp member).elim (fun before => first e before bytes sent) (fun after => second e after bytes sent)⟩
  stopped := unsentMessages (by simp)
  inward {s e} inward := unsentMessages (List.forall_mem_singleton.mpr (by
    cases e <;> first | exact inward.elim | rfl))
  asked := unsentMessages (by simp)
  applied := unsentMessages (by simp)
  timed _ := unsentMessages (by simp)
  routed := unsentMessages (by simp)
  sent {s _ _} own sends := by
    obtain ⟨errors⟩ := sends
    intro e member bytes sent
    rcases List.mem_cons.mp member with rfl | later
    · unfold sendEvent at sent
      split at sent <;> cases sent <;> exact own
    · obtain ⟨_,_,rfl,_⟩ := errors e later
      cases sent
  read reading := unsentMessages (fun e member => readingUnsent (reading.effect.events e member))
  closed ran := unsentMessages (fun e member =>
    readingUnsent (Event.closingIsReading ((closeSocketClosed ran).2.events e member)))
  expired ran := by
    have closing := fun e member => readingUnsent (Event.closingIsReading ((closeSocketClosed ran).2.events e member))
    exact unsentMessages (List.forall_mem_cons.mpr ⟨rfl,List.forall_mem_append.mpr
      ⟨closing,List.forall_mem_singleton.mpr rfl⟩⟩)
  unbound := unsentMessages (List.forall_mem_singleton.mpr rfl)
  triggered := unsentMessages (List.forall_mem_cons.mpr ⟨rfl,List.forall_mem_singleton.mpr rfl⟩)

section Senders
variable {ω τ β : Type}

def HandsOver (sent : ω → Option (List UInt8)) (transport : Buffer → Int → Program Fault ω τ α) (type : PayloadType)
    (x : Program Fault ω τ β) (s : τ) : Prop :=
  ∃ bytes before t next, WellFormedFrame type bytes ∧ (∀ e ∈ before, sent e = none) ∧
    x s = ((transport (Buffer.filled bytes) bytes.length >>= next) t).prepend before

theorem handsOverAtOnce {sent : ω → Option (List UInt8)} {transport : Buffer → Int → Program Fault ω τ α}
    {type : PayloadType} {x : Program Fault ω τ β} {s : τ} {bytes : List UInt8} (next : α → Program Fault ω τ β)
    (frame : WellFormedFrame type bytes)
    (same : x s = (transport (Buffer.filled bytes) bytes.length >>= next) s) : HandsOver sent transport type x s :=
  ⟨bytes,[],s,next,frame,by simp,by rw [same,Outcome.prependNil]⟩

def Written.sent (written : Written) : Option (List UInt8) := some written.message

def sendtoServer (message : Buffer) (messageLength : Int) : Requests Unit := do
  let s ← Program.get
  let bytes ← Program.lift (message.contents (intToUnsignedLong messageLength))
  Program.emit (.sendto s.sockFdUdp bytes s.serverAddr)

structure SendersHandOver : Prop where
  negativeAck : ∀ {σ : Type} (ackCode : UInt8) (s : State σ),
    HandsOver Event.sent sendMessage .negativeAck (sendNegativeAck ackCode) s
  diagnosticAck : ∀ {σ : Type} (sourceAddress : UInt16) (ackType : Bool) (ackCode : UInt8) (s : State σ)
    (registered : Address), s.connection.routedClientAddress = some registered →
      HandsOver Event.sent sendMessage (if ackType then .diagnosticPositiveAck else .diagnosticNegativeAck)
        (sendDiagnosticAck sourceAddress ackType ackCode) s
  diagnosticPayload : ∀ {σ : Type} (sourceAddress : UInt16) (data : UserData) (s : State σ) (registered : Address),
    s.connection.routedClientAddress = some registered →
      HandsOver Event.sent sendMessage .diagnosticMessage
        (sendDiagnosticPayload sourceAddress (Buffer.filled data.bytes) data.bytes.length) s
  routingActivation : ∀ {σ : Type} (payload : Option Buffer) (s : State σ) (result p0 p1 : UInt8),
    parseRoutingActivation payload = .ok result → Buffer.loadFrom payload 0 = .ok p0 →
      Buffer.loadFrom payload 1 = .ok p1 →
        HandsOver Event.sent sendMessage .routingActivationResponse (reactOnRoutingActivation payload) s
  headerRefused : ∀ (uninit action : GenericHeaderAction) (readedBytes : Int) (s : ServerState),
    parseGenericHeader uninit (Buffer.filled s.server.data.bytes) readedBytes = .ok action → action.type = .negativeAck →
      HandsOver ServerEvent.sent sendUdpMessage .negativeAck (reactToReceivedUdpMessage uninit readedBytes) s
  identified : ∀ (uninit action : GenericHeaderAction) (readedBytes : Int) (s : ServerState),
    parseGenericHeader uninit (Buffer.filled s.server.data.bytes) readedBytes = .ok action →
      action.type = .vehicleIdentRequest →
        HandsOver ServerEvent.sent sendUdpMessage .vehicleIdentResponse (reactToReceivedUdpMessage uninit readedBytes) s
  announced : ∀ (v : DoIPServer) (message : Buffer) (rounds : Nat) (sendedmessage : Int) (s : ServerState),
    identificationResponse v = .ok message →
      HandsOver ServerEvent.sent sendto .vehicleIdentResponse (announce message (rounds+1) sendedmessage) s
  activationRequest : ∀ c, HandsOver Written.sent writeToSocket .routingActivationRequest sendRoutingActivationRequest c
  clientMessage : ∀ (targetAddress : Address) (userData : UserData) (c : DoIPClient),
    HandsOver Written.sent writeToSocket .diagnosticMessage
      (sendDiagnosticMessage targetAddress (Buffer.filled userData.bytes) userData.bytes.length) c
  aliveCheckResponse : ∀ c, HandsOver Written.sent writeToSocket .aliveCheckResponse sendAliveCheckResponse c
  identificationRequest : ∀ (address : Option UInt32) (s : ClientSockets),
    HandsOver ClientTraffic.sent sendtoServer .vehicleIdentRequest (sendVehicleIdentificationRequest address) s

theorem sendersHandOver : SendersHandOver where
  negativeAck ackCode s := by
    refine handsOverAtOnce pure (negativeAckWhole ackCode).2 ?_
    rw [sendNegativeAck,createdNegativeAck,Program.liftOkBind,storedNegativeAck,Program.liftOkBind,bind_pure]
    rfl
  diagnosticAck sourceAddress ackType ackCode s registered routed := by
    refine handsOverAtOnce pure (diagnosticAckWhole ackType sourceAddress registered ackCode).2 ?_
    rw [sendDiagnosticAck,Program.bindApply,connectionApply,Outcome.andThenOk,Outcome.prependNil,routed,addressAt,
      Program.liftOkBind,createdDiagnosticAck,Program.liftOkBind,bind_pure]
    rfl
  diagnosticPayload sourceAddress data s registered routed := by
    refine handsOverAtOnce pure (diagnosticMessageWhole sourceAddress registered data).2 ?_
    rw [sendDiagnosticPayload,Program.bindApply,connectionApply,Outcome.andThenOk,Outcome.prependNil,routed,
      createdDiagnosticMessage,Program.liftOkBind,diagnosticMessageSize sourceAddress registered data,Program.liftOkBind,
      bind_pure]
  routingActivation payload s result p0 p1 parsed first second := by
    refine handsOverAtOnce ?reacted (activationResponseWhole s.connection.logicalGatewayAddress (p0,p1) result).2 ?response
    case response =>
      rw [reactOnRoutingActivation,parsed,Program.liftOkBind,first,Program.liftOkBind,second,Program.liftOkBind,
        Program.bindApply,connectionApply,Outcome.andThenOk,Outcome.prependNil,createdActivationResponse,
        Program.liftOkBind]
      rfl
  headerRefused uninit action readedBytes s parsed type := by
    refine handsOverAtOnce ?checked (negativeAckWhole action.value).2 ?refusal
    case refusal =>
      rw [reactToReceivedUdpMessage,Program.bindApply,Program.getApply,Outcome.andThenOk,Outcome.prependNil,parsed,
        Program.liftOkBind,type]
      simp only [createdNegativeAck,Program.liftOkBind,storedNegativeAck]
      rfl
  identified uninit action readedBytes s parsed type := by
    refine handsOverAtOnce pure (vehicleIdentificationWhole s.server.VIN s.server.logicalGatewayAddress s.server.EID
      s.server.GID s.server.furtherActionReq).2 ?_
    rw [reactToReceivedUdpMessage,Program.bindApply,Program.getApply,Outcome.andThenOk,Outcome.prependNil,parsed,
      Program.liftOkBind,type,vehicleIdentificationSize,bind_pure]
    simp only [identificationResponse,createdVehicleIdentificationResponse,Program.liftOkBind]
    rfl
  announced v message rounds sendedmessage s built := by
    rw [identificationResponse,createdVehicleIdentificationResponse] at built
    have whole := vehicleIdentificationWhole v.VIN v.logicalGatewayAddress v.EID v.GID v.furtherActionReq
    refine handsOverAtOnce ?rounds whole.2 ?announcement
    case announcement =>
      rw [announce,← Except.ok.inj built,vehicleIdentificationSize]
      rfl
  activationRequest c := by
    refine handsOverAtOnce pure activationRequestWhole.2 ?_
    rw [sendRoutingActivationRequest,builtRoutingActivationRequest,Program.liftOkBind,bind_pure]
    rfl
  clientMessage targetAddress userData c := by
    refine handsOverAtOnce pure (diagnosticMessageWhole 0x0E00 targetAddress userData).2 ?_
    rw [sendDiagnosticMessage,createdDiagnosticMessage,Program.liftOkBind,
      diagnosticMessageSize 0x0E00 targetAddress userData,Program.liftOkBind,bind_pure]
  aliveCheckResponse c := by
    refine handsOverAtOnce pure (aliveCheckResponseWhole c.sourceAddress).2 ?_
    rw [sendAliveCheckResponse,Program.bindApply,Program.getApply,Outcome.andThenOk,Outcome.prependNil,
      createdAliveCheckResponse,Program.liftOkBind,builtAliveCheckResponse,Program.liftOkBind,bind_pure]
    rfl
  identificationRequest address s := by
    let asked : ClientSockets := {s with serverAddr := {s.serverAddr with addr := address.getD s.serverAddr.addr}}
    refine ⟨_,[.setsockopt s.sockFdUdp .broadcast],asked,pure,identificationRequestWhole.2,by simp [ClientTraffic.sent],?_⟩
    rw [sendVehicleIdentificationRequest,builtVehicleIdentificationRequest,bind_pure]
    rfl

end Senders

structure EveryMessageWhole : Prop where
  built : ∀ type build, Builds type build → ∃ bytes, BuiltWhole type build bytes
  senders : SendersHandOver
  connection : ∀ {σ : Type} (app : Application σ) (ops : List Op) (inbox : List Arrival) (s : State σ),
    ∀ e ∈ (run app ops inbox s).log, ∀ bytes, e.sent = some bytes → WholeMessage bytes
  interleaved : ∀ {σ : Type} (app : Application σ) (moves : List Move) (thread : Thread) (s : State σ),
    ∀ e ∈ (Program.iterate (move app) moves thread s).log, ∀ bytes, e.sent = some bytes → WholeMessage bytes
  server : ∀ (ops : List ServerOp) (s : ServerState),
    ∀ e ∈ (Program.iterate serverStep ops () s).log, ∀ bytes, e.sent = some bytes → WholeMessage bytes
  client : ∀ (ops : List ClientOp) (s : ClientSockets),
    ∀ e ∈ (clientRun ops s).log, ∀ bytes, e.sent = some bytes → WholeMessage bytes

theorem everyMessageWhole : EveryMessageWhole where
  built _ _ := buildsWhole
  senders := sendersHandOver
  connection app ops inbox s e member bytes sent := (sendsMessages.runMeets app ops inbox s e member bytes sent).whole
  interleaved app moves thread s e member bytes sent :=
    (sendsMessages.movesMeets app moves thread s e member bytes sent).whole
  server ops s e member bytes sent := by
    have sends := Program.iterateMeets sendsOwn.composable sendsOwn.serverStepMeets ops () s
    cases e with
    | sendto fd message recipient =>
      cases sent
      exact (sends fd _ recipient member).whole
    | _ => cases sent
  client ops s e member bytes sent := (clientRunSends ops s e member bytes sent).whole

end LibDoip
