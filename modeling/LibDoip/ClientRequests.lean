import LibDoip.Client
import LibDoip.Server

/-! All that a `DoIPClient` sends: its messages over TCP and the identification request over UDP. -/
namespace LibDoip
open Library

structure ClientSockets where
  client : DoIPClient
  sockFdUdp : Int
  serverAddr : SockAddr
  deriving DecidableEq, Repr

inductive ClientTraffic where
  | write (fd : Int) (message : List UInt8)
  | setsockopt (fd : Int) (option : SocketOption)
  | sendto (fd : Int) (message : List UInt8) (recipient : SockAddr)
  deriving DecidableEq, Repr

abbrev Requests := Program Fault ClientTraffic ClientSockets

def overTcp (x : Client Unit) : Requests Unit := fun s =>
  let o := x s.client
  ⟨o.log.map (fun written => .write written.fd written.message),{s with client := o.state},o.result⟩

def buildVehicleIdentificationRequest : Except Fault (Int × Buffer) := do
  let rareq ← (Buffer.alloc 8).storeAll 0 [0x02,0xFD,0x00,0x01,0x00,0x00,0x00,0x00]
  .ok (8,rareq)

/- `address` is what `inet_aton` makes of the text; if it makes nothing of it, the old address stays. -/
def sendVehicleIdentificationRequest (address : Option UInt32) : Requests Unit := do
  Program.modify (fun s => {s with serverAddr := {s.serverAddr with addr := address.getD s.serverAddr.addr}})
  let s ← Program.get
  Program.emit (.setsockopt s.sockFdUdp .broadcast)
  let rareqWithLength ← Program.lift buildVehicleIdentificationRequest
  let bytes ← Program.lift (rareqWithLength.2.contents (intToUnsignedLong rareqWithLength.1))
  Program.emit (.sendto s.sockFdUdp bytes s.serverAddr)

inductive ClientOp where
  | sendRoutingActivationRequest
  | sendDiagnosticMessage (targetAddress : Address) (userData : UserData)
  | sendAliveCheckResponse
  | sendVehicleIdentificationRequest (address : Option UInt32)
  | setSourceAddress (address : Address)
  -- Connecting, receiving and closing send nothing; other descriptors and another address may be left.
  | others (sockFd sockFdUdp : Int) (serverAddr : SockAddr)
  deriving DecidableEq, Repr

def clientStep : ClientOp → Unit → Requests Unit
  | .sendRoutingActivationRequest, _ => overTcp sendRoutingActivationRequest
  | .sendDiagnosticMessage targetAddress userData, _ =>
      overTcp (sendDiagnosticMessage targetAddress (Buffer.filled userData.bytes) userData.bytes.length)
  | .sendAliveCheckResponse, _ => overTcp sendAliveCheckResponse
  | .sendVehicleIdentificationRequest address, _ => sendVehicleIdentificationRequest address
  | .setSourceAddress address, _ => Program.modify (fun s => {s with client := {s.client with sourceAddress := address}})
  | .others sockFd sockFdUdp serverAddr, _ => Program.modify (fun s =>
      {s with client := {s.client with sockFd := sockFd}, sockFdUdp := sockFdUdp, serverAddr := serverAddr})

def clientRun (ops : List ClientOp) : Requests Unit := Program.iterate clientStep ops ()

def identificationRequestBytes : List UInt8 := headerBytes 0x00 0x01 0

theorem builtVehicleIdentificationRequest :
    buildVehicleIdentificationRequest = .ok (8,Buffer.filled identificationRequestBytes) := by
  have stored := @Buffer.storeAllNext [] identificationRequestBytes 0 8 0 rfl rfl
  rw [Buffer.filledNil,List.nil_append,List.nil_append,Buffer.allocZero,List.append_nil] at stored
  have bytes : identificationRequestBytes = [0x02,0xFD,0x00,0x01,0x00,0x00,0x00,0x00] := by decide
  rw [bytes] at stored ⊢
  rw [buildVehicleIdentificationRequest,stored,okBind]

def ClientTraffic.sent : ClientTraffic → Option (List UInt8)
  | .write _ message | .sendto _ message _ => some message
  | .setsockopt _ _ => none

inductive OwnRequest : List UInt8 → Prop where
  | routingActivation : OwnRequest (headerBytes 0x00 0x05 7 ++ activationRequestPayload)
  | diagnosticMessage (targetAddress : Address) (userData : UserData) :
      OwnRequest (diagnosticMessageBytes 0x0E00 targetAddress userData)
  | aliveCheckResponse (sourceAddress : Address) :
      OwnRequest (headerBytes 0x00 0x08 2 ++ [sourceAddress.1,sourceAddress.2])
  | vehicleIdentification : OwnRequest identificationRequestBytes

def SendsRequests (_ : ClientSockets) (l : List ClientTraffic) (_ : ClientSockets) (_ : Option Fault) : Prop :=
  ∀ e ∈ l, ∀ bytes, e.sent = some bytes → OwnRequest bytes

theorem sendsRequests : Program.Composable SendsRequests where
  refl _ := by simp [SendsRequests]
  trans first second e member bytes sent := (List.mem_append.mp member).elim
    (fun before => first e before bytes sent) (fun after => second e after bytes sent)

theorem overTcpSends {x : Client Unit} {bytes : DoIPClient → List UInt8} (own : ∀ c, OwnRequest (bytes c))
    (writes : ∀ c, x c = ⟨[⟨c.sockFd,bytes c⟩],c,.ok ()⟩) : Program.Meets SendsRequests (overTcp x) := by
  intro s e member message sent
  simp only [overTcp,writes,List.map_cons,List.map_nil,List.mem_singleton] at member
  subst member
  cases sent
  exact own s.client

theorem sendVehicleIdentificationRequestSends (address : Option UInt32) :
    Program.Meets SendsRequests (sendVehicleIdentificationRequest address) := by
  have whole : (Buffer.filled identificationRequestBytes).contents (intToUnsignedLong 8) =
      .ok identificationRequestBytes := Buffer.contentsExact rfl
  refine Program.meetsBind sendsRequests (by simp [Program.Meets,Program.At,SendsRequests]) (fun _ => ?_)
  refine Program.meetsBind sendsRequests (Program.meetsGet sendsRequests) (fun s => ?_)
  refine Program.meetsBind sendsRequests ?_ (fun _ => ?_)
  · intro t e member bytes sent
    cases List.mem_singleton.mp member
    cases sent
  · rw [builtVehicleIdentificationRequest,Program.liftOkBind,whole,Program.liftOkBind]
    intro t e member bytes sent
    cases List.mem_singleton.mp member
    cases sent
    exact .vehicleIdentification

theorem clientStepSends (op : ClientOp) (u : Unit) : Program.Meets SendsRequests (clientStep op u) := by
  cases op with
  | sendRoutingActivationRequest =>
    exact overTcpSends (fun _ => .routingActivation) sendRoutingActivationRequestWrites
  | sendDiagnosticMessage targetAddress userData =>
    exact overTcpSends (fun _ => .diagnosticMessage targetAddress userData)
      (sendDiagnosticMessageWrites targetAddress userData)
  | sendAliveCheckResponse =>
    exact overTcpSends (fun c => .aliveCheckResponse c.sourceAddress) sendAliveCheckResponseWrites
  | sendVehicleIdentificationRequest address => exact sendVehicleIdentificationRequestSends address
  | setSourceAddress address => simp [clientStep,Program.Meets,Program.At,SendsRequests]
  | others sockFd sockFdUdp serverAddr => simp [clientStep,Program.Meets,Program.At,SendsRequests]

theorem clientRunSends (ops : List ClientOp) : Program.Meets SendsRequests (clientRun ops) :=
  Program.iterateMeets sendsRequests clientStepSends ops ()

end LibDoip
