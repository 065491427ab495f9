import LibDoip.Announcement
import LibDoip.Identification
import LibDoip.Quiescence
import LibDoip.ClientRequests
import LibDoip.Library.Medium

/-! Vehicle discovery over UDP: any number of servers, each with its announcing and its listening thread, and any
number of clients on one network. A datagram may reach anybody, at any time after it has been sent, repeatedly or
never; a receive takes one of them or fails. A setter, a receive call with its reply, the building of an announcement
and each of its sends are one step each; the source has no locks that would keep them apart. -/
namespace LibDoip
open Library

structure Vehicle where
  state : ServerState
  announcer : Announcer
  fault : Option Fault
  deriving DecidableEq, Repr

def Vehicle.takes (v : Vehicle) (x : Udp Announcer) : Vehicle × List (List UInt8) :=
  let o := x v.state
  (⟨o.state,match o.result with
    | .ok announcer => announcer
    | .error _ => v.announcer,v.fault.or o.fault⟩,datagrams o.log)

inductive VehicleMove where
  | sets (setting : Setting)
  | setsUp
  | announces (unassigned : Int)
  | announcer
  | receives (uninit : GenericHeaderAction) (sender : SockAddr) (n : Nat)
  | failsToReceive (uninit : GenericHeaderAction)
  deriving DecidableEq, Repr

/- Only one announcement is made at a time. -/
def vehicleMove : VehicleMove → List (List UInt8) → Vehicle → Vehicle × List (List UInt8)
  | .sets setting, _, v => v.takes (do
      serverStep (.set setting) ()
      pure v.announcer)
  | .setsUp, _, v => v.takes (do
      serverStep .setupUdpSocket ()
      pure v.announcer)
  | .announces unassigned, _, v => if v.announcer = .done then ({v with announcer := .start unassigned},[]) else (v,[])
  | .announcer, _, v => v.takes (udpMove .announcer v.announcer)
  | .receives uninit sender n, sent, v => match sent[n]? with
      | some bytes => v.takes (udpMove (.listener uninit (.datagram sender bytes)) v.announcer)
      | none => (v,[])
  | .failsToReceive uninit, _, v => v.takes (udpMove (.listener uninit .failed) v.announcer)

structure Tester where
  state : ClientState
  serverAddr : SockAddr
  deriving DecidableEq, Repr

inductive TesterMove where
  | requests (address : Option UInt32)
  | receives (uninit : GenericHeaderAction) (n : Nat)
  | failsToReceive (uninit : GenericHeaderAction)
  deriving DecidableEq, Repr

def RecvResult.cut (message : List UInt8) : RecvResult :=
  .delivered (message.take clientMaxDataSize) (List.length_take_le _ _)

def testerMove : TesterMove → List (List UInt8) → Tester → Tester × List (List UInt8)
  | .requests address, _, c =>
      let o := sendVehicleIdentificationRequest address ⟨c.state.client,c.state.sockFdUdp,c.serverAddr⟩
      ({c with serverAddr := o.state.serverAddr},o.log.filterMap ClientTraffic.sent)
  | .receives uninit n, sent, c => match sent[n]? with
      | some message => ({c with state := (DoIPClient.receiveUdpMessage uninit (.cut message) c.state).state},[])
      | none => (c,[])
  | .failsToReceive uninit, _, c => ({c with state := (DoIPClient.receiveUdpMessage uninit .failed c.state).state},[])

inductive Party where
  | server (i : Nat)
  | client (j : Nat)
  deriving DecidableEq, Repr

abbrev Party.State : Party → Type
  | .server _ => Vehicle
  | .client _ => Tester

abbrev Party.Move : Party → Type
  | .server _ => VehicleMove
  | .client _ => TesterMove

def partyMove : (p : Party) → p.Move → List (List UInt8) → p.State → p.State × List (List UInt8)
  | .server _ => vehicleMove
  | .client _ => testerMove

abbrev Network : Type := Medium Party.State (List UInt8)
abbrev NetworkMove : Type := Sigma Party.Move

def Network.run (g : Network) (moves : List NetworkMove) : Network := Medium.run partyMove g moves
def Network.step (g : Network) (p : Party) (move : p.Move) : Network := Medium.step partyMove g ⟨p,move⟩
def Network.server (g : Network) (i : Nat) : Vehicle := g.party (.server i)
def Network.client (g : Network) (j : Nat) : Tester := g.party (.client j)

def DoIPServer.identity (v : DoIPServer) : VehicleInformation :=
  ⟨vinBytes 17 v.VIN,[highByte v.logicalGatewayAddress,lowByte v.logicalGatewayAddress],v.EID.bytes,v.GID.bytes,
    v.furtherActionReq⟩

theorem identityInMessage (v : DoIPServer) : informationIn (identificationBytes v) = v.identity :=
  informationInFields v.furtherActionReq rfl (vinBytesLength _ _) rfl rfl rfl

theorem identificationLength (v : DoIPServer) : (identificationBytes v).length = 40 := vehicleIdentificationSize _ _ _ _ _

theorem receivedIdentity (v : DoIPServer) (data : ReceivedData) :
    informationIn (data.receive (.cut (identificationBytes v))).bytes = v.identity := by
  have size := identificationLength v
  have whole : (identificationBytes v).take clientMaxDataSize = identificationBytes v :=
    List.take_of_length_le (by rw [size]; decide)
  show informationIn ((identificationBytes v).take clientMaxDataSize ++ _) = _
  rw [whole,informationAppend (by omega),identityInMessage]

theorem configuredIdentity (v : DoIPServer) (i : VehicleIdentity) : (v.configured i).identity.read = i.normalised := by
  obtain ⟨information,parsed,read⟩ := frameRead i
  have size : i.frame.length = 40 := vehicleIdentificationSize _ _ _ _ _
  rw [parsedInformation (by omega)] at parsed
  rw [← identityInMessage,← read,← Except.ok.inj parsed]
  rfl

structure ReceivedBy (v : Vehicle) (reply : List (List UInt8)) (o : Vehicle × List (List UInt8)) : Prop where
  announcer : o.1.announcer = v.announcer
  fault : o.1.fault = v.fault
  identity : identificationBytes o.1.state.server = identificationBytes v.state.server
  sent : o.2 = reply

theorem takesOk {v : Vehicle} {x : Udp Announcer} {l : List ServerEvent} {t : ServerState} {announcer : Announcer}
    (ran : x v.state = ⟨l,t,.ok announcer⟩) : v.takes x = (⟨t,announcer,v.fault⟩,datagrams l) := by
  rw [Vehicle.takes,ran]
  simp only [Outcome.faultOk,Option.or_none]

theorem setsUpSilently (position : Announcer) (s : ServerState) : ∃ l t, (do
    serverStep .setupUdpSocket ()
    pure position : Udp Announcer) s = ⟨l,t,.ok position⟩ ∧ datagrams l = [] := by
  simp only [serverStep,setupUdpSocket,setMulticastGroup,systemCall,Program.bindApply,Program.getApply,Program.emitApply,
    Program.modifyApply,Program.pureApply,Outcome.andThenOk,Outcome.prependMk]
  exact ⟨_,_,rfl,rfl⟩

theorem listenerApply (uninit : GenericHeaderAction) (incoming : Incoming) (position : Announcer) {s t : ServerState}
    {l : List ServerEvent} (ran : serverStep (.receiveUdpMessage uninit incoming) () s = ⟨l,t,.ok ()⟩) :
    udpMove (.listener uninit incoming) position s = ⟨l,t,.ok position⟩ := by
  rw [udpMove,Program.bindApply,ran,Outcome.andThenOk,Program.pureApply,Outcome.prependMk,List.append_nil]

theorem receivesApply (uninit : GenericHeaderAction) (sender : SockAddr) {n : Nat} {sent : List (List UInt8)} (v : Vehicle)
    {bytes : List UInt8} (there : sent[n]? = some bytes) :
    ReceivedBy v (answers uninit sender v.state bytes) (vehicleMove (.receives uninit sender n) sent v) := by
  obtain ⟨action,parsed,reacts⟩ := receiveUdpMessageReacts uninit sender bytes v.state
  simp only [vehicleMove,there,answers]
  generalize ran : serverStep (.receiveUdpMessage uninit (.datagram sender bytes)) () v.state = o at reacts
  cases reacts with
  | answered reply =>
    rw [takesOk (listenerApply uninit _ v.announcer ran)]
    exact ⟨rfl,rfl,rfl,rfl⟩
  | silent reply =>
    rw [takesOk (listenerApply uninit _ v.announcer ran)]
    exact ⟨rfl,rfl,rfl,rfl⟩

theorem failsToReceiveApply (uninit : GenericHeaderAction) (sent : List (List UInt8)) (v : Vehicle) :
    ReceivedBy v (replyBytes v.state.server uninit).toList (vehicleMove (.failsToReceive uninit) sent v) := by
  have reacts := @reactToReceivedUdpMessageReacts uninit uninit (-1) v.state rfl
  have same : serverStep (.receiveUdpMessage uninit .failed) () v.state =
      ((reactToReceivedUdpMessage uninit (-1) >>= fun value => Program.emit (.returned value) : Udp Unit)
        v.state).prepend [.recvfrom v.state.server.serverSocketUdp] := by
    simp only [serverStep,receiveUdpMessage,recvfrom,Program.bindApply,Program.getApply,Program.emitApply,
      Program.pureApply,Outcome.andThenOk,Outcome.prependMk,Outcome.andThenPrepend,List.nil_append,List.append_nil]
  rw [Program.bindApply] at same
  generalize reactToReceivedUdpMessage uninit (-1) v.state = o at reacts same
  cases reacts with
  | answered reply =>
    rw [vehicleMove,takesOk (listenerApply uninit _ v.announcer same),reply]
    exact ⟨rfl,rfl,rfl,rfl⟩
  | silent reply =>
    rw [vehicleMove,takesOk (listenerApply uninit _ v.announcer same),reply]
    exact ⟨rfl,rfl,rfl,rfl⟩

theorem requestAnswered (uninit : GenericHeaderAction) (sender : SockAddr) (s : ServerState) :
    answers uninit sender s identificationRequestBytes = [identificationBytes s.server] := by
  obtain ⟨action,parsed,sent⟩ := answered uninit sender s identificationRequestBytes
  have header : Buffer.filled identificationRequestBytes =
      Buffer.filled [0x02,0xFD,0x00,0x01,byte3 0,byte2 0,byte1 0,byte0 0] ++ Buffer.filled [] := rfl
  rw [header,parsedHeader _ _ _ _ _ _ _ _ _ _ (by decide),classifyOwn] at parsed
  cases parsed
  exact sent

theorem replyKinds {v : DoIPServer} {action : GenericHeaderAction} {message : List UInt8}
    (reply : message ∈ (replyBytes v action).toList) :
    message = identificationBytes v ∨ action.type = .negativeAck ∧ message = negativeAckBytes action.value := by
  have found := Option.mem_toList.mp reply
  unfold replyBytes at found
  split at found
  · rename_i type
    exact Or.inr ⟨type,(Option.some.inj found).symm⟩
  · exact Or.inl (Option.some.inj found).symm
  · cases found

end LibDoip
