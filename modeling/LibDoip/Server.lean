import LibDoip.VehicleIdentification
import LibDoip.Library.Program

/-! `DoIPServer`: configuration, announcements and UDP. What the constructor leaves uninitialised
(addresses, sockets, the EID, the receive buffer) has arbitrary contents to begin with. The results of
system calls are input; the calls are logged. The TLS context and console output are left out. -/
namespace LibDoip
open Library

def serverPortTls : UInt16 := 4433
def serverPortTcpUdp : UInt16 := 13400
def maxDataSize : Nat := 0xFFFFFF

structure SockAddr where
  family : UInt16
  port : UInt16
  addr : UInt32
  deriving DecidableEq, Repr

def afInet : UInt16 := 2
def inAddrAny : UInt32 := 0
def broadcastAddr : UInt32 := 0xFFFFFFFF
def announcementPort : UInt16 := 13401

structure ReceiveBuffer where
  bytes : List UInt8
  size : bytes.length = maxDataSize
  deriving DecidableEq, Repr

/- A received datagram is written over the beginning; what does not fit is dropped. -/
def ReceiveBuffer.receive (data : ReceiveBuffer) (datagram : List UInt8) : ReceiveBuffer where
  bytes := datagram.take maxDataSize ++ data.bytes.drop datagram.length
  size := by
    have size := data.size
    rw [List.length_append,List.length_take,List.length_drop]
    omega

structure DoIPServer where
  serverSocketTls : Int
  serverSocketTcp : Int
  serverSocketUdp : Int
  serverAddress : SockAddr
  clientAddress : SockAddr
  data : ReceiveBuffer
  VIN : List UInt8
  logicalGatewayAddress : UInt16
  EID : Identifier
  GID : Identifier
  furtherActionReq : UInt8
  aDoIPAnnounceNum : Int
  aDoIPAnnounceInterval : Int
  deriving DecidableEq, Repr

/- The members without an initialiser, as the memory happens to be. -/
structure Leftover where
  sockets : Int × Int × Int
  serverAddress : SockAddr
  clientAddress : SockAddr
  data : ReceiveBuffer
  EID : Identifier
  deriving DecidableEq, Repr

def DoIPServer.new (m : Leftover) : DoIPServer :=
  ⟨m.sockets.1,m.sockets.2.1,m.sockets.2.2,m.serverAddress,m.clientAddress,m.data,List.replicate 17 0x30,0x0000,
    m.EID,⟨0x00,0x00,0x00,0x00,0x00,0x00⟩,0x00,3,500⟩

def Leftover.zero : Leftover := ⟨⟨0,0,0⟩,⟨0,0,0⟩,⟨0,0,0⟩,⟨List.replicate maxDataSize 0x00,List.length_replicate⟩,
  ⟨0x00,0x00,0x00,0x00,0x00,0x00⟩⟩

inductive SocketOption where
  | reuseAddr
  | addMembership (group : UInt32)
  | broadcast
  deriving DecidableEq, Repr

inductive ServerEvent where
  | bind (fd : Int) (address : SockAddr)
  | listen (fd : Int) (backlog : Nat)
  | setsockopt (fd : Int) (option : SocketOption)
  | recvfrom (fd : Int)
  | sendto (fd : Int) (message : List UInt8) (recipient : SockAddr)
  | sleep (milliseconds : Int)
  | returned (value : Int)
  | thrown (text : String)
  deriving DecidableEq, Repr

/- The results of the system calls still to come; a list that has run out yields the usual result. -/
structure ServerState where
  server : DoIPServer
  results : List Int
  deriving DecidableEq, Repr

def ServerState.setServer (s : ServerState) (f : DoIPServer → DoIPServer) : ServerState :=
  {s with server := f s.server}

abbrev Udp := Program Fault ServerEvent ServerState

def systemCall (usual : Int) : Udp Int := do
  let s ← Program.get
  Program.modify (fun s => {s with results := s.results.tail})
  pure (s.results.headD usual)

def require (usual : Int) (accepted : Int → Prop) [DecidablePred accepted] (text : String)
    (next : Int → Udp (Except String Unit)) : Udp (Except String Unit) := do
  let result ← systemCall usual
  if accepted result then next result else pure (.error text)

def createContext (next : Udp (Except String Unit)) : Udp (Except String Unit) :=
  require 1 (· ≠ 0) "Unable to create SSL context" (fun _ => next)

def configureContextClientAuth (next : Udp (Except String Unit)) : Udp (Except String Unit) :=
  require 1 (0 < ·) "Unable to use SSL certificate" (fun _ =>
    require 1 (0 < ·) "Unable to use SSL private key" (fun _ =>
      require 1 (0 < ·) "Unable to load SSL ca certificate" (fun _ => next)))

def bindAndListen (fd : Int) (port : UInt16) : Udp (Except String Unit) := do
  Program.modify (·.setServer (fun v => {v with serverAddress := ⟨afInet,port,inAddrAny⟩}))
  let s ← Program.get
  Program.emit (.bind fd s.server.serverAddress)
  require 0 (0 ≤ ·) "Unable to bind" (fun _ => do
    Program.emit (.listen fd 5)
    require 0 (0 ≤ ·) "Unable to listen" (fun _ => pure (.ok ())))

/- From the socket on; `store` puts the descriptor into the field that the source points to. -/
def openSocket (store : Int → DoIPServer → DoIPServer) (port : UInt16) : Udp (Except String Unit) := do
  let fd ← systemCall 3
  Program.modify (·.setServer (store fd))
  if fd < 0 then pure (.error "Unable to create socket") else bindAndListen fd port

def setupTcpOrTlsSocket (isTls : Bool) : Udp (Except String Unit) :=
  if isTls then
    createContext (configureContextClientAuth
      (openSocket (fun fd v => {v with serverSocketTls := fd}) serverPortTls))
  else openSocket (fun fd v => {v with serverSocketTcp := fd}) serverPortTcpUdp

def setMulticastGroup (group : UInt32) : Udp Unit := do
  let s ← Program.get
  Program.emit (.setsockopt s.server.serverSocketUdp .reuseAddr)
  let _ ← systemCall 0
  Program.emit (.setsockopt s.server.serverSocketUdp (.addMembership group))
  let _ ← systemCall 0
  pure ()

-- Failures are only printed.
def setupUdpSocket : Udp Unit := do
  let fd ← systemCall 3
  Program.modify (·.setServer (fun v =>
    {v with serverSocketUdp := fd, serverAddress := ⟨afInet,serverPortTcpUdp,inAddrAny⟩}))
  let s ← Program.get
  Program.emit (.bind fd s.server.serverAddress)
  let _ ← systemCall 0
  -- The group 224.0.0.2.
  setMulticastGroup 0xE0000002

def sendto (message : Buffer) (messageLength : Int) : Udp Int := do
  let s ← Program.get
  let bytes ← Program.lift (message.contents (intToUnsignedLong messageLength))
  Program.emit (.sendto s.server.serverSocketUdp bytes s.server.clientAddress)
  systemCall bytes.length

def sendUdpMessage (message : Buffer) (messageLength : Int) : Udp Int := do
  Program.modify (·.setServer (fun v => {v with clientAddress :=
    {v.clientAddress with port := v.serverAddress.port, addr := v.serverAddress.addr}}))
  sendto message messageLength

def identificationResponse (v : DoIPServer) : Except Fault Buffer :=
  createVehicleIdentificationResponse v.VIN v.logicalGatewayAddress v.EID v.GID v.furtherActionReq

/- `uninit` is what the result struct of the header parser holds before it is filled in. -/
def reactToReceivedUdpMessage (uninit : GenericHeaderAction) (readedBytes : Int) : Udp Int := do
  let s ← Program.get
  let action ← Program.lift (parseGenericHeader uninit (Buffer.filled s.server.data.bytes) readedBytes)
  match action.type with
  | .vehicleIdentResponse => pure (-1)
  | .negativeAck => do
      let message ← Program.lift (createGenericHeader action.type 1)
      let message ← Program.lift (message.store 8 action.value)
      let sendedBytes ← sendUdpMessage message (genericHeaderLength + nackLength)
      if action.value = incorrectPatternFormatCode ∨ action.value = invalidPayloadLengthCode then pure (-1)
      else pure sendedBytes
  | .vehicleIdentRequest => do
      let message ← Program.lift (identificationResponse s.server)
      sendUdpMessage message (genericHeaderLength + viResponseLength)
  | _ => pure (-1)

inductive Incoming where
  | failed
  | datagram (sender : SockAddr) (bytes : List UInt8)
  deriving DecidableEq, Repr

-- The sender is stored in a local variable that nothing reads.
def recvfrom (incoming : Incoming) : Udp Int := do
  let s ← Program.get
  Program.emit (.recvfrom s.server.serverSocketUdp)
  match incoming with
  | .failed => pure (-1)
  | .datagram _ bytes => do
      Program.modify (·.setServer (fun v => {v with data := v.data.receive bytes}))
      pure (bytes.take maxDataSize).length

def receiveUdpMessage (uninit : GenericHeaderAction) (incoming : Incoming) : Udp Int := do
  let readBytes ← recvfrom incoming
  reactToReceivedUdpMessage uninit readBytes

def announce (message : Buffer) : (rounds : Nat) → (sendedmessage : Int) → Udp Int
  | 0, sendedmessage => pure sendedmessage
  | rounds+1, _ => do
      let sendedmessage ← sendto message (genericHeaderLength + viResponseLength)
      let s ← Program.get
      Program.emit (.sleep s.server.aDoIPAnnounceInterval)
      announce message rounds sendedmessage

/- `unassigned` is what the result variable holds before the first round. -/
def sendVehicleAnnouncement (unassigned : Int) : Udp Int := do
  Program.modify (·.setServer (fun v => {v with clientAddress :=
    {v.clientAddress with port := announcementPort, addr := broadcastAddr}}))
  let s ← Program.get
  Program.emit (.setsockopt s.server.serverSocketUdp .broadcast)
  let socketError ← systemCall 0
  if socketError = 0 then do
    let message ← Program.lift (identificationResponse s.server)
    announce message s.server.aDoIPAnnounceNum.toNat unassigned
  else pure (-1)

def sixBytes (value : UInt64) : Identifier :=
  ⟨((value >>> 40) &&& 0xFF).toUInt8,((value >>> 32) &&& 0xFF).toUInt8,((value >>> 24) &&& 0xFF).toUInt8,
    ((value >>> 16) &&& 0xFF).toUInt8,((value >>> 8) &&& 0xFF).toUInt8,(value &&& 0xFF).toUInt8⟩

/- The setters. For the default EID, `mac` is what the interface request holds after the ioctl. -/
inductive Setting where
  | EIDdefault (mac : Identifier)
  | VIN (VINString : List UInt8)
  | logicalGatewayAddress (inputLogAdd : UInt16)
  | EID (inputEID : UInt64)
  | GID (inputGID : UInt64)
  | FAR (inputFAR : UInt32)
  | aDoIPAnnounceNum (num : Int)
  | aDoIPAnnounceInterval (interval : Int)
  deriving DecidableEq, Repr

def DoIPServer.set (v : DoIPServer) : Setting → DoIPServer
  | .EIDdefault mac => {v with EID := mac}
  | .VIN VINString => {v with VIN := VINString}
  | .logicalGatewayAddress inputLogAdd => {v with logicalGatewayAddress := inputLogAdd}
  | .EID inputEID => {v with EID := sixBytes inputEID}
  | .GID inputGID => {v with GID := sixBytes inputGID}
  | .FAR inputFAR => {v with furtherActionReq := (inputFAR &&& 0xFF).toUInt8}
  | .aDoIPAnnounceNum num => {v with aDoIPAnnounceNum := num}
  | .aDoIPAnnounceInterval interval => {v with aDoIPAnnounceInterval := interval}

inductive ServerOp where
  | set (setting : Setting)
  | setupUdpSocket
  | setupTcpOrTlsSocket (isTls : Bool)
  | sendVehicleAnnouncement (unassigned : Int)
  | receiveUdpMessage (uninit : GenericHeaderAction) (incoming : Incoming)
  deriving DecidableEq, Repr

def serverStep : ServerOp → Unit → Udp Unit
  | .set setting, _ => Program.modify (·.setServer (·.set setting))
  | .setupUdpSocket, _ => setupUdpSocket
  | .setupTcpOrTlsSocket isTls, _ => do
      let result ← setupTcpOrTlsSocket isTls
      match result with
      | .error text => Program.emit (.thrown text)
      | .ok _ => pure ()
  | .sendVehicleAnnouncement unassigned, _ => do
      let value ← sendVehicleAnnouncement unassigned
      Program.emit (.returned value)
  | .receiveUdpMessage uninit incoming, _ => do
      let value ← receiveUdpMessage uninit incoming
      Program.emit (.returned value)

end LibDoip
