import LibDoip.AliveCheckTimer
import LibDoip.DiagnosticMessage
import LibDoip.RoutingActivation
import LibDoip.Library.Inbox

/-! `DoIPConnection`: one client connection, plain TCP or TLS. Every system call, TLS call,
callback and public call is logged. What the outside decides (results of calls, the clock, the
arriving bytes, the application) is input. Console output is left out. -/
namespace LibDoip
open Library

inductive SslError where
  | zeroReturn
  | syscall
  | ssl
  | other (code : Nat)
  deriving DecidableEq, Repr

inductive Call where
  | sendDiagnosticPayload (sourceAddress : UInt16) (data : UserData)
  | sendDiagnosticAck (sourceAddress : UInt16) (ackType : Bool) (ackCode : UInt8)
  | sendNegativeAck (ackCode : UInt8)
  | triggerDisconnection
  | setGeneralInactivityTime (seconds : UInt16)
  | isSocketActive
  -- Not called by the application: here the timer thread runs one round of its loop.
  | timerRound
  deriving DecidableEq, Repr

inductive Event where
  | recv (fd : Int) (requested : Nat)
  | sslRead (ssl : Nat) (num : Int)
  | write (fd : Int) (message : List UInt8)
  | sslWrite (ssl : Nat) (message : List UInt8)
  | sslError (ssl : Nat) (err : SslError)
  | sslShutdown (ssl : Nat)
  | sslFree (ssl : Nat)
  | close (fd : Int)
  | timerReset (clock : Nat)
  | timerStarted
  | timeout (clock : Nat)
  | notifyApplication (targetAddress : UInt16)
  | answered (ack : Bool)
  | diagCallback (targetAddress : UInt16) (data : List UInt8) (length : Int)
  | closeConnection
  | receiving
  | received (action : GenericHeaderAction) (payload : Option Buffer)
  | called (call : Call)
  deriving DecidableEq, Repr

/- The results still to come of `write`, `SSL_get_error` and `SSL_shutdown`, and how far the
clock moves before each of its readings. A list that has run out yields the usual result. -/
structure Environment where
  writes : List Int
  sslErrors : List SslError
  shutdowns : List Int
  ticks : List Nat
  now : Nat
  deriving DecidableEq, Repr

structure DoIPConnection where
  clientSock : Int
  aliveCheckTimer : AliveCheckTimer
  routedClientAddress : Option Address
  logicalGatewayAddress : UInt16
  ssl : Option Nat
  deriving DecidableEq, Repr

/- `startTime` and `maxSeconds` are what uninitialised fields of the timer happen to hold. -/
def DoIPConnection.new (clientSock : Int) (logicalGatewayAddress : UInt16) (ssl : Option Nat)
    (startTime : Int) (maxSeconds : UInt16) : DoIPConnection :=
  ⟨clientSock,AliveCheckTimer.new startTime maxSeconds,none,logicalGatewayAddress,ssl⟩

structure State (σ : Type) where
  connection : DoIPConnection
  environment : Environment
  application : σ
  deriving DecidableEq, Repr

abbrev Doip (σ : Type) := Program Fault Event (State σ)

structure Application (σ : Type) where
  notifyApplication : σ → (targetAddress : UInt16) → Script Call Int (Bool × σ)
  diagCallback : σ → (targetAddress : UInt16) → (data : List UInt8) → (length : Int) → Script Call Int σ

def Application.answering (ack : Bool) : Application Unit :=
  ⟨fun s _ => .done (ack,s),fun s _ _ _ => .done s⟩

variable {σ : Type}

namespace State

def setConnection (s : State σ) (f : DoIPConnection → DoIPConnection) : State σ :=
  {s with connection := f s.connection}

def setTimer (s : State σ) (f : AliveCheckTimer → AliveCheckTimer) : State σ :=
  s.setConnection (fun c => {c with aliveCheckTimer := f c.aliveCheckTimer})

def setEnvironment (s : State σ) (f : Environment → Environment) : State σ :=
  {s with environment := f s.environment}

end State

def connection : Doip σ DoIPConnection := do
  let s ← Program.get
  pure s.connection

def isSocketActive (c : DoIPConnection) : Prop := c.clientSock ≠ 0
instance (c) : Decidable (isSocketActive c) := by unfold isSocketActive; infer_instance

def clock : Doip σ Nat := do
  Program.modify (·.setEnvironment (fun e => {e with now := e.now + e.ticks.headD 0, ticks := e.ticks.tail}))
  let s ← Program.get
  pure s.environment.now

def sslGetError : Doip σ SslError := do
  let s ← Program.get
  Program.modify (·.setEnvironment (fun e => {e with sslErrors := e.sslErrors.tail}))
  pure (s.environment.sslErrors.headD .zeroReturn)

def writeResult (usual : Int) : Doip σ Int := do
  let s ← Program.get
  Program.modify (·.setEnvironment (fun e => {e with writes := e.writes.tail}))
  pure (s.environment.writes.headD usual)

def sslShutdown (ssl : Nat) : Doip σ Int := do
  Program.emit (.sslShutdown ssl)
  let s ← Program.get
  Program.modify (·.setEnvironment (fun e => {e with shutdowns := e.shutdowns.tail}))
  pure (s.environment.shutdowns.headD 1)

def parseSslError (ssl : Nat) : Doip σ SslError := do
  let err ← sslGetError
  Program.emit (.sslError ssl err)
  pure err

-- The first step is not acknowledged yet: retry.
def retryShutdown (ssl : Nat) (ret : Int) : Doip σ Int := if ret = 0 then sslShutdown ssl else pure ret

def shutdownSsl (ssl : Nat) : Doip σ Unit := do
  let first ← sslShutdown ssl
  let ret ← retryShutdown ssl first
  Program.when (ret ≠ 1) (do
    let _ ← parseSslError ssl
    pure ())

def closeTlsLayer (skipShutdown : Bool) (ssl : Option Nat) : Doip σ Unit := match ssl with
  | some ssl => do
      Program.when (skipShutdown = false) (shutdownSsl ssl)
      Program.emit (.sslFree ssl)
      Program.modify (·.setConnection (fun c => {c with ssl := none}))
  | none => pure ()

def closeTcpLayer (clientSock : Int) : Doip σ Unit := do
  Program.emit (.close clientSock)
  Program.modify (·.setConnection (fun c => {c with clientSock := 0}))

def closeSocket (skipShutdown : Bool) : Doip σ Unit := do
  let c ← connection
  Program.when (isSocketActive c) (do
    closeTlsLayer skipShutdown c.ssl
    closeTcpLayer c.clientSock)

def aliveCheckTimeout : Doip σ Unit := do
  closeSocket false
  Program.emit .closeConnection

def resetTimer : Doip σ Unit := do
  let now ← clock
  Program.emit (.timerReset now)
  Program.modify (·.setTimer (·.resetTimer now))

def startTimer : Doip σ Unit := do
  let c ← connection
  Program.when (c.aliveCheckTimer.disabled = false) (do
    let now ← clock
    Program.emit (.timerReset now)
    Program.emit .timerStarted
    Program.modify (·.setTimer (·.startTimer now)))

def waitForResponse : Doip σ Unit := do
  let c ← connection
  Program.when c.aliveCheckTimer.Running (do
    let now ← clock
    Program.when ((c.aliveCheckTimer.maxSeconds.toNat : Int) ≤ c.aliveCheckTimer.secondsPassed now) (do
      Program.modify (·.setTimer (·.expire))
      Program.emit (.timeout now)
      if c.aliveCheckTimer.cb then aliveCheckTimeout else Program.throw .emptyFunction))

def sendMessage (message : Buffer) (messageLength : Int) : Doip σ Int := do
  let c ← connection
  let bytes ← Program.lift (message.contents (intToUnsignedLong messageLength))
  match c.ssl with
  | none => do
      Program.emit (.write c.clientSock bytes)
      writeResult bytes.length
  | some ssl => do
      Program.emit (.sslWrite ssl bytes)
      let sentBytes ← writeResult bytes.length
      if sentBytes ≤ 0 then do
        let _ ← parseSslError ssl
        pure (-1)
      else pure sentBytes

def sendNegativeAck (ackCode : UInt8) : Doip σ Int := do
  let message ← Program.lift (createGenericHeader .negativeAck 1)
  let message ← Program.lift (message.store 8 ackCode)
  sendMessage message (genericHeaderLength + nackLength)

def sendDiagnosticAck (sourceAddress : UInt16) (ackType : Bool) (ackCode : UInt8) : Doip σ Int := do
  let c ← connection
  let targetAddress ← Program.lift (addressAt c.routedClientAddress)
  let message ← Program.lift (createDiagnosticAck ackType sourceAddress targetAddress ackCode)
  sendMessage message (genericHeaderLength + diagnosticPositiveAckLength)

def sendDiagnosticPayload (sourceAddress : UInt16) (data : Buffer) (length : Int) : Doip σ Int := do
  let c ← connection
  let message ← Program.lift (createDiagnosticMessage sourceAddress c.routedClientAddress data length)
  let size ← Program.lift (addInt (genericHeaderLength + diagnosticMessageMinimumLength) length)
  sendMessage message size

def triggerDisconnection : Doip σ Unit := Program.emit .closeConnection

def setGeneralInactivityTime (seconds : UInt16) : Doip σ Unit :=
  if 0 < seconds then Program.modify (·.setTimer (·.setTimer seconds))
  else Program.modify (·.setTimer (fun t => {t with disabled := true}))

/- The answer is what the caller sees: the functions without a result answer 0. -/
def perform (call : Call) : Doip σ Int := do
  Program.emit (.called call)
  match call with
  | .sendDiagnosticPayload sourceAddress data => do
      let _ ← sendDiagnosticPayload sourceAddress (Buffer.filled data.bytes) data.bytes.length
      pure 0
  | .sendDiagnosticAck sourceAddress ackType ackCode => do
      let _ ← sendDiagnosticAck sourceAddress ackType ackCode
      pure 0
  | .sendNegativeAck ackCode => sendNegativeAck ackCode
  | .triggerDisconnection => do
      triggerDisconnection
      pure 0
  | .setGeneralInactivityTime seconds => do
      setGeneralInactivityTime seconds
      pure 0
  | .isSocketActive => do
      let c ← connection
      pure (if isSocketActive c then 1 else 0)
  | .timerRound => do
      waitForResponse
      pure 0

def notifyApplication (app : Application σ) (targetAddress : UInt16) : Doip σ Bool := do
  Program.emit (.notifyApplication targetAddress)
  let s ← Program.get
  let out ← (app.notifyApplication s.application targetAddress).interpret perform
  Program.modify (fun s => {s with application := out.2})
  Program.emit (.answered out.1)
  pure out.1

def diagCallback (app : Application σ) (targetAddress : UInt16) (data : List UInt8) (length : Int) :
    Doip σ Unit := do
  Program.emit (.diagCallback targetAddress data length)
  let s ← Program.get
  let out ← (app.diagCallback s.application targetAddress data length).interpret perform
  Program.modify (fun s => {s with application := out})

def startAliveCheck : Doip σ Unit := do
  let c ← connection
  Program.when (c.aliveCheckTimer.active = false) (do
    Program.modify (·.setTimer (fun t => {t with cb := true}))
    startTimer)

def reactOnRoutingActivation (payload : Option Buffer) : Doip σ Int := do
  let result ← Program.lift (parseRoutingActivation payload)
  let p0 ← Program.lift (Buffer.loadFrom payload 0)
  let p1 ← Program.lift (Buffer.loadFrom payload 1)
  let c ← connection
  let message ← Program.lift (createRoutingActivationResponse c.logicalGatewayAddress (p0,p1) result)
  let sentBytes ← sendMessage message (genericHeaderLength + activationResponseLength)
  if result = unknownSourceAddressCode ∨ result = unsupportedRoutingTypeCode then do
    closeSocket false
    pure (-1)
  else do
    Program.modify (·.setConnection (fun c => {c with routedClientAddress := some (p0,p1)}))
    startAliveCheck
    pure sentBytes

def reactOnDiagnosticMessage (app : Application σ) (payloadLength : Nat) (payload : Option Buffer) :
    Doip σ Int := do
  let p2 ← Program.lift (Buffer.loadFrom payload 2)
  let p3 ← Program.lift (Buffer.loadFrom payload 3)
  let ack ← notifyApplication app (bigEndian16 p2 p3)
  Program.when (ack = true) (do
    let c ← connection
    -- The code the check returns is not looked at.
    let _ ← parseDiagnosticMessage (diagCallback app) c.routedClientAddress payload (toInt payloadLength)
    pure ())
  pure (-1)

def reactOnNegativeAck (value : UInt8) : Doip σ Int := do
  let sentBytes ← sendNegativeAck value
  if value = incorrectPatternFormatCode ∨ value = invalidPayloadLengthCode then do
    closeSocket false
    pure (-1)
  else pure sentBytes

def reactOnReceivedTcpMessage (app : Application σ) (action : GenericHeaderAction) (payloadLength : Nat)
    (payload : Option Buffer) : Doip σ Int := do
  Program.emit (.received action payload)
  match action.type with
  | .negativeAck => reactOnNegativeAck action.value
  | .routingActivationRequest => reactOnRoutingActivation payload
  | .aliveCheckResponse => pure 0
  | .diagnosticMessage => reactOnDiagnosticMessage app payloadLength payload
  | _ => pure (-1)

def handleSslReadError (ssl : Nat) : Doip σ Int := do
  let err ← parseSslError ssl
  match err with
  | .zeroReturn => pure 0
  | .syscall | .ssl => do
      closeSocket true
      pure (-1)
  | .other _ => pure (-1)

-- `recv` hands out at most what an `int` can count; `SSL_read` refuses a count that is not positive.
def recv (requested : Nat) (inbox : List Arrival) : ReadResult := Inbox.read (min requested 2147483647) inbox
def sslRead (num : Int) (inbox : List Arrival) : ReadResult :=
  if num ≤ 0 then ⟨-1,[],inbox⟩ else Inbox.read num.toNat inbox

def readSome (remainingPayload : Nat) (inbox : List Arrival) : Doip σ ReadResult := do
  let c ← connection
  match c.ssl with
  | some ssl => do
      Program.emit (.sslRead ssl (toInt remainingPayload))
      pure (sslRead (toInt remainingPayload) inbox)
  | none => do
      Program.emit (.recv c.clientSock remainingPayload)
      pure (recv remainingPayload inbox)

structure Received where
  count : Nat
  data : Buffer
  inbox : List Arrival
  deriving DecidableEq, Repr

def failedRead (payloadPos : Nat) : Doip σ Nat := do
  let c ← connection
  match c.ssl with
  | some ssl => do
      let ret ← handleSslReadError ssl
      pure (intToUnsignedLong ret)
  | none => pure payloadPos

def receiveLoop (receivedData : Buffer) (payloadPos remainingPayload : Nat) (inbox : List Arrival) :
    Doip σ Received :=
  if remainingPayload = 0 then pure ⟨payloadPos,receivedData,inbox⟩
  else do
    let r ← readSome remainingPayload inbox
    if _stop : r.count ≤ 0 then do
      let count ← failedRead payloadPos
      pure ⟨count,receivedData,r.rest⟩
    else do
      let receivedData ← Program.lift (receivedData.storeAll payloadPos r.bytes)
      receiveLoop receivedData (payloadPos + r.count.toNat) (remainingPayload - r.count.toNat) r.rest
termination_by remainingPayload
decreasing_by omega

def receiveFixedNumberOfBytesFromTcpOrTls (payloadLength : Nat) (receivedData : Buffer)
    (inbox : List Arrival) : Doip σ Received :=
  receiveLoop receivedData 0 payloadLength inbox

structure Returned where
  value : Int
  inbox : List Arrival
  deriving DecidableEq, Repr

def messageReceived (app : Application σ) (action : GenericHeaderAction) (payload : Option Buffer) :
    Doip σ Int := do
  let c ← connection
  Program.when (c.aliveCheckTimer.active = true) resetTimer
  reactOnReceivedTcpMessage app action action.payloadLength.toNat payload

def receivePayload (app : Application σ) (action : GenericHeaderAction) (inbox : List Arrival) :
    Doip σ Returned :=
  if 0 < action.payloadLength then do
    let payload ← receiveFixedNumberOfBytesFromTcpOrTls action.payloadLength.toNat
      (Buffer.alloc action.payloadLength.toNat) inbox
    if toUnsignedInt payload.count ≠ action.payloadLength.toNat then do
      closeSocket false
      pure ⟨0,payload.inbox⟩
    else do
      let sentBytes ← messageReceived app action (some payload.data)
      pure ⟨sentBytes,payload.inbox⟩
  else do
    let sentBytes ← messageReceived app action none
    pure ⟨sentBytes,inbox⟩

/- `uninit` is what the result struct of the header parser holds before it is filled in. -/
def receiveTcpOrTlsMessage (app : Application σ) (uninit : GenericHeaderAction) (inbox : List Arrival) :
    Doip σ Returned := do
  Program.emit .receiving
  let header ← receiveFixedNumberOfBytesFromTcpOrTls 8 (Buffer.alloc 8) inbox
  let c ← connection
  if toUnsignedInt header.count = 8 ∧ c.aliveCheckTimer.timeout = false then do
    let action ← Program.lift (parseGenericHeader uninit header.data genericHeaderLength)
    receivePayload app action header.inbox
  else do
    closeSocket false
    pure ⟨0,header.inbox⟩

end LibDoip
