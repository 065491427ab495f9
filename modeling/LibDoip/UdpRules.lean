import LibDoip.Frame
import LibDoip.Server

/-! What the server's calls do, once for every property of its runs. It sends two kinds of messages;
a call either sends one of them, or sets up a socket, or leaves the bound address as it is. -/
namespace LibDoip
open Library

def destination : ServerEvent → Option SockAddr
  | .sendto _ _ recipient => some recipient
  | _ => none

theorem sendtoSends {bytes : List UInt8} {length : Int} (size : length = bytes.length)
    (fits : bytes.length < 18446744073709551616) (s : ServerState) :
    sendto (Buffer.filled bytes) length s =
      ⟨[.sendto s.server.serverSocketUdp bytes s.server.clientAddress],{s with results := s.results.tail},
        .ok (s.results.headD bytes.length)⟩ := by
  have unsigned : intToUnsignedLong length = bytes.length := by
    unfold intToUnsignedLong
    omega
  simp [sendto,systemCall,unsigned,Buffer.contentsExact]

def identificationBytes (v : DoIPServer) : List UInt8 :=
  vehicleIdentificationBytes v.VIN v.logicalGatewayAddress v.EID v.GID v.furtherActionReq

def replyBytes (v : DoIPServer) (action : GenericHeaderAction) : Option (List UInt8) := match action.type with
  | .negativeAck => some (negativeAckBytes action.value)
  | .vehicleIdentRequest => some (identificationBytes v)
  | _ => none

/- The client's port and address are replaced, its family is left as it was. -/
def DoIPServer.replyAddress (v : DoIPServer) : SockAddr :=
  {v.clientAddress with port := v.serverAddress.port, addr := v.serverAddress.addr}

def ServerState.replied (s : ServerState) : ServerState :=
  ⟨{s.server with clientAddress := s.server.replyAddress},s.results.tail⟩

theorem sendUdpMessageSends {bytes : List UInt8} {length : Int} (size : length = bytes.length)
    (fits : bytes.length < 18446744073709551616) (s : ServerState) :
    sendUdpMessage (Buffer.filled bytes) length s =
      ⟨[.sendto s.server.serverSocketUdp bytes s.server.replyAddress],s.replied,
        .ok (s.results.headD bytes.length)⟩ := by
  rw [sendUdpMessage,Program.bindApply,Program.modifyApply,Outcome.andThenOk,sendtoSends size fits]
  rfl

inductive UdpReaction (action : GenericHeaderAction) (s : ServerState) :
    Outcome Fault ServerEvent ServerState Int → Prop where
  | answered {message : List UInt8} {value : Int} (reply : replyBytes s.server action = some message) :
      UdpReaction action s ⟨[.sendto s.server.serverSocketUdp message s.server.replyAddress],s.replied,.ok value⟩
  | silent (reply : replyBytes s.server action = none) : UdpReaction action s ⟨[],s,.ok (-1)⟩

theorem reactToReceivedUdpMessageReacts {uninit action : GenericHeaderAction} {readedBytes : Int}
    {s : ServerState}
    (parsed : parseGenericHeader uninit (Buffer.filled s.server.data.bytes) readedBytes = .ok action) :
    UdpReaction action s (reactToReceivedUdpMessage uninit readedBytes s) := by
  rw [reactToReceivedUdpMessage,Program.bindApply,Program.getApply,Outcome.andThenOk,Outcome.prependNil,parsed,
    Program.liftOkBind]
  cases type : action.type with
  | negativeAck =>
    have reply : replyBytes s.server action = some (negativeAckBytes action.value) := by simp [replyBytes,type]
    have sent := @sendUdpMessageSends (negativeAckBytes action.value) (genericHeaderLength + nackLength) rfl
      (by simp [negativeAckBytes]) s
    simp only [createdNegativeAck,Program.liftOkBind,storedNegativeAck]
    rw [Program.bindApply,sent,Outcome.andThenOk]
    split <;> exact .answered reply
  | vehicleIdentRequest =>
    have reply : replyBytes s.server action = some (identificationBytes s.server) := by simp [replyBytes,type]
    have size := vehicleIdentificationSize s.server.VIN s.server.logicalGatewayAddress s.server.EID s.server.GID
      s.server.furtherActionReq
    have sent := @sendUdpMessageSends (identificationBytes s.server) (genericHeaderLength + viResponseLength)
      (by rw [identificationBytes,size]; rfl) (by rw [identificationBytes,size]; decide) s
    simp only [identificationResponse,createdVehicleIdentificationResponse,Program.liftOkBind]
    rw [identificationBytes] at sent
    rw [sent]
    exact .answered reply
  | _ => exact .silent (by simp [replyBytes,type])

theorem parsedReceived (uninit : GenericHeaderAction) (data : ReceiveBuffer) (bytes : List UInt8) :
    ∃ action, parseGenericHeader uninit (Buffer.filled (data.receive bytes).bytes) (bytes.take maxDataSize).length =
        .ok action ∧ parseGenericHeader uninit (Buffer.filled bytes) bytes.length = .ok action := by
  have room : (bytes.take maxDataSize).length = min maxDataSize bytes.length := List.length_take
  have large : maxDataSize = 16777215 := rfl
  by_cases enough : 8 ≤ bytes.length
  · obtain ⟨b0,b1,b2,b3,b4,b5,b6,b7,rest,rfl⟩ := eightBytes enough
    refine ⟨classify uninit b0 b1 b2 b3 b4 b5 b6 b7,?_,?_⟩
    · exact parsedHeader _ _ _ _ _ _ _ _ _ _ (by omega)
    · exact parsedHeader _ _ _ _ _ _ _ _ _ _ (by omega)
  · refine ⟨uninit,?_,?_⟩
    · exact if_neg (by unfold genericHeaderLength; omega)
    · exact if_neg (by unfold genericHeaderLength; omega)

def ServerState.received (s : ServerState) (bytes : List UInt8) : ServerState :=
  s.setServer (fun v => {v with data := v.data.receive bytes})

inductive ReceiveReaction (action : GenericHeaderAction) (bytes : List UInt8) (s : ServerState) :
    Outcome Fault ServerEvent ServerState Unit → Prop where
  | answered {message : List UInt8} {value : Int} (reply : replyBytes s.server action = some message) :
      ReceiveReaction action bytes s ⟨[.recvfrom s.server.serverSocketUdp,
        .sendto s.server.serverSocketUdp message s.server.replyAddress,.returned value],(s.received bytes).replied,.ok ()⟩
  | silent (reply : replyBytes s.server action = none) :
      ReceiveReaction action bytes s ⟨[.recvfrom s.server.serverSocketUdp,.returned (-1)],s.received bytes,.ok ()⟩

theorem receiveUdpMessageReacts (uninit : GenericHeaderAction) (sender : SockAddr) (bytes : List UInt8)
    (s : ServerState) :
    ∃ action, parseGenericHeader uninit (Buffer.filled bytes) bytes.length = .ok action ∧
      ReceiveReaction action bytes s (serverStep (.receiveUdpMessage uninit (.datagram sender bytes)) () s) := by
  obtain ⟨action,parsed,alone⟩ := parsedReceived uninit s.server.data bytes
  have reacts := @reactToReceivedUdpMessageReacts uninit action (bytes.take maxDataSize).length (s.received bytes)
    parsed
  refine ⟨action,alone,?_⟩
  simp only [serverStep,receiveUdpMessage,recvfrom,Program.bindApply,Program.getApply,Program.emitApply,
    Program.modifyApply,Program.pureApply,Outcome.andThenOk,Outcome.prependMk]
  change UdpReaction action (s.received bytes) (reactToReceivedUdpMessage uninit _ (s.received bytes)) at reacts
  rw [← ServerState.received]
  generalize reactToReceivedUdpMessage uninit _ (s.received bytes) = o at reacts ⊢
  cases reacts with
  | answered reply => exact .answered reply
  | silent reply => exact .silent reply

inductive OwnDatagram : List UInt8 → Prop where
  | identification (VIN : List UInt8) (logicalAddress : UInt16) (EID GID : Identifier) (furtherActionReq : UInt8) :
      OwnDatagram (vehicleIdentificationBytes VIN logicalAddress EID GID furtherActionReq)
  | negativeAck (ackCode : UInt8) : OwnDatagram (negativeAckBytes ackCode)

structure UdpRules (R : ServerState → List ServerEvent → ServerState → Option Fault → Prop) : Prop where
  composable : Program.Composable R
  quiet : ∀ {s l t}, (∀ e ∈ l, destination e = none) → t.server.serverAddress = s.server.serverAddress → R s l t none
  bound : ∀ {s t}, t.server.serverAddress.addr = inAddrAny → R s [] t none
  sent : ∀ {s t fd bytes recipient}, OwnDatagram bytes → t.server.serverAddress = s.server.serverAddress →
    R s [.sendto fd bytes recipient] t none

namespace UdpRules
open Program
variable {R : ServerState → List ServerEvent → ServerState → Option Fault → Prop} (rules : UdpRules R)
include rules

theorem modifyMeets {f : DoIPServer → DoIPServer} (kept : ∀ v, (f v).serverAddress = v.serverAddress) :
    Meets R (Program.modify (·.setServer f)) := fun s => rules.quiet (by simp) (kept s.server)

theorem emitMeets {e : ServerEvent} (quiet : destination e = none) : Meets R (Program.emit e) :=
  fun _ => rules.quiet (List.forall_mem_singleton.mpr quiet) rfl

theorem systemCallMeets (usual : Int) : Meets R (systemCall usual) := fun _ => rules.quiet (by simp [systemCall]) rfl

theorem requireMeets (usual : Int) (accepted : Int → Prop) [DecidablePred accepted] (text : String)
    {next : Int → Udp (Except String Unit)} (later : ∀ result, Meets R (next result)) :
    Meets R (require usual accepted text next) := by
  refine meetsBind rules.composable (rules.systemCallMeets usual) (fun result => ?_)
  split
  · exact later result
  · exact meetsPure rules.composable _

theorem bindAndListenMeets (fd : Int) (port : UInt16) : Meets R (bindAndListen fd port) := by
  refine meetsBind rules.composable (fun _ => rules.bound rfl) (fun _ => ?_)
  refine meetsBind rules.composable (meetsGet rules.composable) (fun _ => ?_)
  refine meetsBind rules.composable (rules.emitMeets rfl) (fun _ => rules.requireMeets _ _ _ (fun _ => ?_))
  refine meetsBind rules.composable (rules.emitMeets rfl) (fun _ => rules.requireMeets _ _ _ (fun _ => ?_))
  exact meetsPure rules.composable _

theorem openSocketMeets {store : Int → DoIPServer → DoIPServer}
    (kept : ∀ fd v, (store fd v).serverAddress = v.serverAddress) (port : UInt16) :
    Meets R (openSocket store port) := by
  refine meetsBind rules.composable (rules.systemCallMeets 3) (fun fd => ?_)
  refine meetsBind rules.composable (rules.modifyMeets (kept fd)) (fun _ => ?_)
  split
  · exact meetsPure rules.composable _
  · exact rules.bindAndListenMeets fd port

theorem setupTcpOrTlsSocketMeets (isTls : Bool) : Meets R (setupTcpOrTlsSocket isTls) := by
  cases isTls with
  | false =>
    exact @openSocketMeets R rules (fun fd v => {v with serverSocketTcp := fd}) (fun _ _ => rfl) serverPortTcpUdp
  | true =>
    refine rules.requireMeets _ _ _ (fun _ => rules.requireMeets _ _ _ (fun _ => ?_))
    refine rules.requireMeets _ _ _ (fun _ => rules.requireMeets _ _ _ (fun _ => ?_))
    exact @openSocketMeets R rules (fun fd v => {v with serverSocketTls := fd}) (fun _ _ => rfl) serverPortTls

theorem setMulticastGroupMeets (group : UInt32) : Meets R (setMulticastGroup group) := by
  refine meetsBind rules.composable (meetsGet rules.composable) (fun _ => ?_)
  refine meetsBind rules.composable (rules.emitMeets rfl) (fun _ => ?_)
  refine meetsBind rules.composable (rules.systemCallMeets 0) (fun _ => ?_)
  refine meetsBind rules.composable (rules.emitMeets rfl) (fun _ => ?_)
  exact meetsBind rules.composable (rules.systemCallMeets 0) (fun _ => meetsPure rules.composable _)

theorem setupUdpSocketMeets : Meets R setupUdpSocket := by
  refine meetsBind rules.composable (rules.systemCallMeets 3) (fun fd => ?_)
  refine meetsBind rules.composable (fun _ => rules.bound rfl) (fun _ => ?_)
  refine meetsBind rules.composable (meetsGet rules.composable) (fun _ => ?_)
  refine meetsBind rules.composable (rules.emitMeets rfl) (fun _ => ?_)
  exact meetsBind rules.composable (rules.systemCallMeets 0) (fun _ => rules.setMulticastGroupMeets _)

theorem sendtoMeets {bytes : List UInt8} (own : OwnDatagram bytes) {length : Int} (size : length = bytes.length)
    (fits : bytes.length < 18446744073709551616) : Meets R (sendto (Buffer.filled bytes) length) := by
  intro s
  rw [At,sendtoSends size fits]
  exact rules.sent own rfl

theorem announceMeets {v : DoIPServer} (rounds : Nat) (sendedmessage : Int) :
    Meets R (announce (Buffer.filled (identificationBytes v)) rounds sendedmessage) := by
  induction rounds generalizing sendedmessage with
  | zero => exact meetsPure rules.composable _
  | succ rounds ih =>
    have size : (identificationBytes v).length = 40 := vehicleIdentificationSize _ _ _ _ _
    have sends := rules.sendtoMeets (.identification v.VIN v.logicalGatewayAddress v.EID v.GID v.furtherActionReq)
      (show genericHeaderLength + viResponseLength = (identificationBytes v).length by rw [size]; rfl)
      (show (identificationBytes v).length < _ by omega)
    refine meetsBind rules.composable sends (fun value => meetsBind rules.composable (meetsGet rules.composable) (fun _ => ?_))
    exact meetsBind rules.composable (rules.emitMeets rfl) (fun _ => ih value)

theorem sendVehicleAnnouncementMeets (unassigned : Int) : Meets R (sendVehicleAnnouncement unassigned) := by
  refine meetsBind rules.composable (rules.modifyMeets (fun _ => rfl)) (fun _ => ?_)
  refine meetsBind rules.composable (meetsGet rules.composable) (fun s => ?_)
  refine meetsBind rules.composable (rules.emitMeets rfl) (fun _ => ?_)
  refine meetsBind rules.composable (rules.systemCallMeets 0) (fun socketError => ?_)
  split
  · rw [identificationResponse,createdVehicleIdentificationResponse,liftOkBind]
    exact rules.announceMeets _ _
  · exact meetsPure rules.composable _

theorem receiveUdpMessageMeets (uninit : GenericHeaderAction) (incoming : Incoming) :
    Meets R (receiveUdpMessage uninit incoming) := by
  have reacts : ∀ {s readedBytes action},
      parseGenericHeader uninit (Buffer.filled s.server.data.bytes) readedBytes = .ok action →
        At R (reactToReceivedUdpMessage uninit readedBytes) s := by
    intro s readedBytes action parsed
    have reaction := reactToReceivedUdpMessageReacts parsed
    unfold At
    generalize reactToReceivedUdpMessage uninit readedBytes s = o at reaction
    cases reaction with
    | answered reply =>
      refine rules.sent ?_ rfl
      unfold replyBytes at reply
      split at reply
      · cases reply
        exact .negativeAck _
      · cases reply
        exact .identification _ _ _ _ _
      · cases reply
    | silent _ => exact rules.composable.refl s
  intro s
  cases incoming with
  | failed =>
    have read : At R (recvfrom .failed) s := rules.quiet (List.forall_mem_singleton.mpr rfl) rfl
    refine atBind rules.composable read (fun readBytes returned => ?_)
    cases returned
    exact reacts rfl
  | datagram sender bytes =>
    obtain ⟨action,parsed,_⟩ := parsedReceived uninit s.server.data bytes
    have read : At R (recvfrom (.datagram sender bytes)) s := rules.quiet (List.forall_mem_singleton.mpr rfl) rfl
    refine atBind rules.composable read (fun readBytes returned => ?_)
    cases returned
    exact reacts parsed

theorem serverStepMeets (op : ServerOp) (u : Unit) : Meets R (serverStep op u) := by
  cases op with
  | set setting => cases setting <;> exact rules.modifyMeets (fun _ => rfl)
  | setupUdpSocket => exact rules.setupUdpSocketMeets
  | setupTcpOrTlsSocket isTls =>
    refine meetsBind rules.composable (rules.setupTcpOrTlsSocketMeets isTls) (fun result => ?_)
    cases result with
    | error text => exact rules.emitMeets rfl
    | ok u => exact meetsPure rules.composable _
  | sendVehicleAnnouncement unassigned =>
    exact meetsBind rules.composable (rules.sendVehicleAnnouncementMeets unassigned) (fun _ => rules.emitMeets rfl)
  | receiveUdpMessage uninit incoming =>
    exact meetsBind rules.composable (rules.receiveUdpMessageMeets uninit incoming) (fun _ => rules.emitMeets rfl)

end UdpRules

theorem sendsOwn : UdpRules (fun _ l _ _ => ∀ fd bytes recipient, .sendto fd bytes recipient ∈ l → OwnDatagram bytes) where
  composable :=
    ⟨by simp,fun first second fd bytes recipient sent => by
      rcases List.mem_append.mp sent with before | after
      · exact first fd bytes recipient before
      · exact second fd bytes recipient after⟩
  quiet unsent _ _ _ _ sent := nomatch unsent _ sent
  bound _ _ _ _ sent := nomatch sent
  sent own _ fd bytes recipient sent := by
    cases List.mem_singleton.mp sent
    exact own

end LibDoip
