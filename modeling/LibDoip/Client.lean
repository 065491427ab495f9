import LibDoip.DiagnosticMessage

/-! `DoIPClient`: the messages that the client writes to its TCP socket. -/
namespace LibDoip
open Library

/- `sourceAddress` is what its two bytes hold, whether they were set or not. -/
structure DoIPClient where
  sockFd : Int
  sourceAddress : Address
  deriving DecidableEq, Repr

structure Written where
  fd : Int
  message : List UInt8
  deriving DecidableEq, Repr

abbrev Client := Program Fault Written DoIPClient

def writeToSocket (message : Buffer) (length : Int) : Client Unit := do
  let c ← Program.get
  let bytes ← Program.lift (message.contents (intToUnsignedLong length))
  Program.emit ⟨c.sockFd,bytes⟩

def buildRoutingActivationRequest : Except Fault (Int × Buffer) := do
  let rareq ← (Buffer.alloc 15).storeAll 0 [0x02,0xFD,0x00,0x05,0x00,0x00,0x00,0x07,
    0x0E,0x00,0x00,0x00,0x00,0x00,0x00]
  .ok (15,rareq)

def sendRoutingActivationRequest : Client Unit := do
  let rareqWithLength ← Program.lift buildRoutingActivationRequest
  writeToSocket rareqWithLength.2 rareqWithLength.1

def sendDiagnosticMessage (targetAddress : Address) (userData : Buffer) (userDataLength : Int) :
    Client Unit := do
  let message ← Program.lift (createDiagnosticMessage 0x0E00 (some targetAddress) userData userDataLength)
  let size ← Program.lift (addInt (genericHeaderLength + diagnosticMessageMinimumLength) userDataLength)
  writeToSocket message size

def sendAliveCheckResponse : Client Unit := do
  let c ← Program.get
  let message ← Program.lift (createGenericHeader .aliveCheckResponse 2)
  let message ← Program.lift (message.storeAll 8 [c.sourceAddress.1,c.sourceAddress.2])
  writeToSocket message (genericHeaderLength + 2)

inductive Send where
  | routingActivationRequest
  | diagnosticMessage (targetAddress : Address) (userData : UserData) (some : 0 < userData.bytes.length)
  | aliveCheckResponse
  deriving DecidableEq, Repr

def send : Send → Client Unit
  | .routingActivationRequest => sendRoutingActivationRequest
  | .diagnosticMessage targetAddress userData _ =>
      sendDiagnosticMessage targetAddress (Buffer.filled userData.bytes) userData.bytes.length
  | .aliveCheckResponse => sendAliveCheckResponse

def activationRequestPayload : List UInt8 := [0x0E,0x00,0x00,0x00,0x00,0x00,0x00]

def Send.bytes (sourceAddress : Address) : Send → List UInt8
  | .routingActivationRequest => headerBytes 0x00 0x05 7 ++ activationRequestPayload
  | .diagnosticMessage targetAddress userData _ => diagnosticMessageBytes 0x0E00 targetAddress userData
  | .aliveCheckResponse => headerBytes 0x00 0x08 2 ++ [sourceAddress.1,sourceAddress.2]

theorem writtenToSocket {bytes : List UInt8} {length : Int} (size : length = bytes.length)
    (fits : bytes.length < 18446744073709551616) (c : DoIPClient) :
    writeToSocket (Buffer.filled bytes) length c = ⟨[⟨c.sockFd,bytes⟩],c,.ok ()⟩ := by
  have unsigned : intToUnsignedLong length = bytes.length := by
    unfold intToUnsignedLong
    omega
  have whole : (Buffer.filled bytes).contents (intToUnsignedLong length) = .ok bytes :=
    Buffer.contentsExact unsigned
  simp [writeToSocket,whole]

theorem builtRoutingActivationRequest : buildRoutingActivationRequest =
    .ok (15,Buffer.filled (headerBytes 0x00 0x05 7 ++ activationRequestPayload)) := by
  have stored := @Buffer.storeAllNext [] (headerBytes 0x00 0x05 7 ++ activationRequestPayload) 0 15 0 rfl rfl
  rw [Buffer.filledNil,List.nil_append,List.nil_append,Buffer.allocZero,List.append_nil] at stored
  have bytes : headerBytes 0x00 0x05 7 ++ activationRequestPayload =
      [0x02,0xFD,0x00,0x05,0x00,0x00,0x00,0x07,0x0E,0x00,0x00,0x00,0x00,0x00,0x00] := by decide
  rw [bytes] at stored ⊢
  rw [buildRoutingActivationRequest,stored,okBind]

theorem sendRoutingActivationRequestWrites (c : DoIPClient) :
    sendRoutingActivationRequest c = ⟨[⟨c.sockFd,headerBytes 0x00 0x05 7 ++ activationRequestPayload⟩],c,.ok ()⟩ := by
  rw [sendRoutingActivationRequest,builtRoutingActivationRequest,Program.liftOkBind]
  exact writtenToSocket rfl (by decide) c

theorem sendDiagnosticMessageWrites (targetAddress : Address) (userData : UserData) (c : DoIPClient) :
    sendDiagnosticMessage targetAddress (Buffer.filled userData.bytes) userData.bytes.length c =
      ⟨[⟨c.sockFd,diagnosticMessageBytes 0x0E00 targetAddress userData⟩],c,.ok ()⟩ := by
  have fits := userData.fits
  have length := diagnosticMessageLength 0x0E00 targetAddress userData
  rw [sendDiagnosticMessage,createdDiagnosticMessage,Program.liftOkBind,diagnosticMessageSize 0x0E00 targetAddress userData,
    Program.liftOkBind]
  exact writtenToSocket rfl (by omega) c

theorem builtAliveCheckResponse (sourceAddress : Address) :
    Buffer.storeAll (Buffer.filled (headerBytes 0x00 0x08 2) ++ Buffer.alloc 2) 8 [sourceAddress.1,sourceAddress.2] =
      .ok (Buffer.filled (headerBytes 0x00 0x08 2 ++ [sourceAddress.1,sourceAddress.2])) := by
  have stored := @storedPayload 0x00 0x08 2 [sourceAddress.1,sourceAddress.2] 0 rfl
  rw [Buffer.allocZero,List.append_nil] at stored
  exact stored

theorem createdAliveCheckResponse : createGenericHeader .aliveCheckResponse 2 =
    .ok (Buffer.filled (headerBytes 0x00 0x08 2) ++ Buffer.alloc 2) := createdHeader rfl (by decide)

theorem sendAliveCheckResponseWrites (c : DoIPClient) : sendAliveCheckResponse c =
    ⟨[⟨c.sockFd,headerBytes 0x00 0x08 2 ++ [c.sourceAddress.1,c.sourceAddress.2]⟩],c,.ok ()⟩ := by
  rw [sendAliveCheckResponse,Program.bindApply,Program.getApply,Outcome.andThenOk,createdAliveCheckResponse,
    Program.liftOkBind,builtAliveCheckResponse,Program.liftOkBind,Outcome.prependNil]
  exact writtenToSocket rfl (by simp) c

theorem sendWrites (x : Send) (c : DoIPClient) :
    send x c = ⟨[⟨c.sockFd,x.bytes c.sourceAddress⟩],c,.ok ()⟩ := by
  cases x with
  | routingActivationRequest => exact sendRoutingActivationRequestWrites c
  | diagnosticMessage targetAddress userData some => exact sendDiagnosticMessageWrites targetAddress userData c
  | aliveCheckResponse => exact sendAliveCheckResponseWrites c

def sentStream (c : DoIPClient) (sends : List Send) : List UInt8 :=
  (Program.sequence send sends c).log.flatMap Written.message

theorem sequenceWrites (sends : List Send) (c : DoIPClient) : Program.sequence send sends c =
    ⟨sends.map (fun x => ⟨c.sockFd,x.bytes c.sourceAddress⟩),c,.ok ()⟩ := by
  induction sends with
  | nil => rfl
  | cons x rest ih => simp [Program.sequence,sendWrites,ih]

theorem sentStreamBytes (c : DoIPClient) (sends : List Send) :
    sentStream c sends = sends.flatMap (Send.bytes c.sourceAddress) := by
  rw [sentStream,sequenceWrites]
  simp [List.flatMap_map]

end LibDoip
