import LibDoip.UdpRules

/-! Where the UDP replies go: to the address the server bound itself to, whoever asked. -/
namespace LibDoip
open Library

def destinations (l : List ServerEvent) : List SockAddr := l.filterMap destination

def Answered (uninit : GenericHeaderAction) (bytes : List UInt8) : Prop :=
  ∃ action, parseGenericHeader uninit (Buffer.filled bytes) bytes.length = .ok action ∧
    (action.type = .negativeAck ∨ action.type = .vehicleIdentRequest)

def SockAddr.Matches (a b : SockAddr) : Prop := a.addr = b.addr ∧ a.port = b.port

def OnAnswered (p : ServerOp → SockAddr → ServerState → Prop) (op : ServerOp) (_ : Unit) (s : ServerState) :
    Prop := match op with
  | .receiveUdpMessage uninit (.datagram sender bytes) =>
      8 ≤ bytes.length → Answered uninit bytes → p op sender s
  | _ => True

def RepliesTo (op : ServerOp) (sender : SockAddr) (s : ServerState) : Prop :=
  ∃ recipient, destinations (serverStep op () s).log = [recipient] ∧ recipient.Matches sender

def SenderBound (_ : ServerOp) (sender : SockAddr) (s : ServerState) : Prop :=
  s.server.serverAddress.Matches sender

theorem answeredReply {uninit action : GenericHeaderAction} {bytes : List UInt8} {v : DoIPServer}
    (parsed : parseGenericHeader uninit (Buffer.filled bytes) bytes.length = .ok action)
    (answered : Answered uninit bytes) : replyBytes v action ≠ none := by
  obtain ⟨found,parsed',type⟩ := answered
  cases parsed.symm.trans parsed'
  rcases type with type | type <;> simp [replyBytes,type]

theorem answeredDestination {uninit : GenericHeaderAction} {sender : SockAddr} {bytes : List UInt8}
    {s : ServerState} (answered : Answered uninit bytes) :
    destinations (serverStep (.receiveUdpMessage uninit (.datagram sender bytes)) () s).log =
      [s.server.replyAddress] := by
  obtain ⟨action,alone,reacts⟩ := receiveUdpMessageReacts uninit sender bytes s
  have answers := @answeredReply uninit action bytes s.server alone answered
  generalize serverStep (.receiveUdpMessage uninit (.datagram sender bytes)) () s = o at reacts ⊢
  cases reacts with
  | answered _ => rfl
  | silent none => exact absurd none answers

theorem repliedIff {uninit : GenericHeaderAction} {sender : SockAddr} {bytes : List UInt8} {s : ServerState}
    (answered : Answered uninit bytes) :
    RepliesTo (.receiveUdpMessage uninit (.datagram sender bytes)) sender s ↔
      s.server.serverAddress.Matches sender := by
  rw [RepliesTo,answeredDestination answered]
  constructor
  · rintro ⟨recipient,sent,same⟩
    cases sent
    exact same
  · exact fun same => ⟨s.server.replyAddress,rfl,same⟩

theorem OnAnswered.imp {p q : ServerOp → SockAddr → ServerState → Prop} {op : ServerOp} {u : Unit}
    {s : ServerState} (h : ∀ uninit sender bytes, Answered uninit bytes →
      p (.receiveUdpMessage uninit (.datagram sender bytes)) sender s →
        q (.receiveUdpMessage uninit (.datagram sender bytes)) sender s)
    (held : OnAnswered p op u s) : OnAnswered q op u s := by
  cases op with
  | receiveUdpMessage uninit incoming =>
    cases incoming with
    | failed => trivial
    | datagram sender bytes => exact fun enough answered => h uninit sender bytes answered (held enough answered)
  | _ => trivial

theorem repliesToIff (op : ServerOp) (u : Unit) (s : ServerState) :
    OnAnswered RepliesTo op u s ↔ OnAnswered SenderBound op u s :=
  ⟨OnAnswered.imp (fun _ _ _ answered => (repliedIff answered).mp),
    OnAnswered.imp (fun _ _ _ answered => (repliedIff answered).mpr)⟩

theorem repliesToSender (ops : List ServerOp) (s : ServerState) :
    Program.Each (OnAnswered RepliesTo) serverStep ops () s ↔
      Program.Each (OnAnswered SenderBound) serverStep ops () s :=
  Program.eachIff repliesToIff ops () s

section Scenario

/- A tester at 192.168.0.10, port 50000, asks for identification: the reply goes to 0.0.0.0, port 13400. -/
theorem replyMissesSender : ¬ ∀ (ops : List ServerOp) (m : Leftover),
    Program.Each (OnAnswered RepliesTo) serverStep ops () ⟨.new m,[]⟩ := by
  intro stated
  have each := stated [.setupUdpSocket,.receiveUdpMessage ⟨.negativeAck,0,0⟩
    (.datagram ⟨afInet,50000,0xC0A8000A⟩ [0x02,0xFD,0x00,0x01,0x00,0x00,0x00,0x00])] .zero
  have asked := (repliesToIff _ _ _).mp (each.2 () rfl).1
  have bound := asked (by decide) ⟨⟨.vehicleIdentRequest,0,0⟩,rfl,Or.inr rfl⟩
  exact absurd bound.1 (by decide)

end Scenario

section Binding

def BindsAny (s : ServerState) (_ : List ServerEvent) (t : ServerState) (_ : Option Fault) : Prop :=
  t.server.serverAddress = s.server.serverAddress ∨ t.server.serverAddress.addr = inAddrAny

theorem bindsAny : UdpRules BindsAny where
  composable :=
    ⟨fun _ => Or.inl rfl,fun first second => by
      rcases second with same | any
      · exact first.imp same.trans (fun any => by rw [same]; exact any)
      · exact Or.inr any⟩
  quiet _ same := Or.inl same
  bound any := Or.inr any
  sent _ same := Or.inl same

theorem strangersNeverReplied (ops : List ServerOp) {s : ServerState}
    (setUp : s.server.serverAddress.addr = inAddrAny) :
    Program.Each (OnAnswered (fun op sender s => RepliesTo op sender s → sender.addr = inAddrAny)) serverStep ops ()
      s := by
  have step : ∀ op (u : Unit) s, s.server.serverAddress.addr = inAddrAny → True →
      OnAnswered (fun op sender s => RepliesTo op sender s → sender.addr = inAddrAny) op u s ∧
        ∀ u', (serverStep op u s).result = .ok u' →
          (serverStep op u s).state.server.serverAddress.addr = inAddrAny := by
    intro op u s any _
    refine ⟨?_,fun _ _ => ?_⟩
    · cases op with
      | receiveUdpMessage uninit incoming =>
        cases incoming with
        | failed => trivial
        | datagram sender bytes => exact fun _ answered replied => ((repliedIff answered).mp replied).1.symm.trans any
      | _ => trivial
    · rcases bindsAny.serverStepMeets op u s with same | any'
      · exact same ▸ any
      · exact any'
  exact Program.eachOfInvariant step setUp (Program.eachOfAll (fun _ _ _ _ => trivial) () s)

end Binding
end LibDoip
