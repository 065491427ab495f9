import LibDoip.UdpRules

/-! Whether a server answers what a server sends. Identification messages are let pass in silence;
a refusal is a message of a type that the parser does not list, and is refused in turn. -/
namespace LibDoip
open Library

def datagram : ServerEvent → Option (List UInt8)
  | .sendto _ message _ => some message
  | _ => none

def datagrams (l : List ServerEvent) : List (List UInt8) := l.filterMap datagram

def Emitted (bytes : List UInt8) : Prop := ∃ op s, bytes ∈ datagrams (serverStep op () s).log

def answers (uninit : GenericHeaderAction) (sender : SockAddr) (s : ServerState) (bytes : List UInt8) :
    List (List UInt8) := datagrams (serverStep (.receiveUdpMessage uninit (.datagram sender bytes)) () s).log

inductive Chain : List UInt8 → Nat → Prop where
  | nil (bytes : List UInt8) : Chain bytes 0
  | reply {bytes answer : List UInt8} {n : Nat} {uninit : GenericHeaderAction} {sender : SockAddr} {s : ServerState}
      (replies : answer ∈ answers uninit sender s bytes) (next : Chain answer n) : Chain bytes (n+1)

def IsNegativeAck (bytes : List UInt8) : Prop := (bytes.drop 2).take 2 = [0x00,0x00]
instance (bytes) : Decidable (IsNegativeAck bytes) := by unfold IsNegativeAck; infer_instance

def Refused : List UInt8 → Prop
  | b0::b1::b2::b3::b4::b5::b6::b7::_ => b1 ^^^ 0xFF ≠ b0 ∨ match messagePayloadType b2 b3 with
      | none => True
      | some type => lengthRejected type (bigEndian32 b4 b5 b6 b7) ∧ type ≠ .diagnosticPositiveAck ∧
          type ≠ .diagnosticNegativeAck
  | _ => True

theorem answered (uninit : GenericHeaderAction) (sender : SockAddr) (s : ServerState) (bytes : List UInt8) :
    ∃ action, parseGenericHeader uninit (Buffer.filled bytes) bytes.length = .ok action ∧
      answers uninit sender s bytes = (replyBytes s.server action).toList := by
  obtain ⟨action,parsed,reacts⟩ := receiveUdpMessageReacts uninit sender bytes s
  refine ⟨action,parsed,?_⟩
  unfold answers
  generalize serverStep (.receiveUdpMessage uninit (.datagram sender bytes)) () s = o at reacts ⊢
  cases reacts with
  | answered reply => rw [reply]; rfl
  | silent reply => rw [reply]; rfl

theorem checkedRefuses (action : GenericHeaderAction) {type : PayloadType} (known : type ≠ .negativeAck)
    (payloadLength : UInt32) : (checkPayloadLength action type payloadLength).type = .negativeAck ↔
      lengthRejected type payloadLength ∧ type ≠ .diagnosticPositiveAck ∧ type ≠ .diagnosticNegativeAck := by
  unfold checkPayloadLength
  by_cases rejected : lengthRejected type payloadLength
  · rw [if_pos rejected]
    cases type <;> simp [rejected]
  · rw [if_neg rejected]
    simp [rejected,known]

theorem classifyRefuses (action : GenericHeaderAction) (b0 b1 b2 b3 b4 b5 b6 b7 : UInt8) (rest : List UInt8) :
    (classify action b0 b1 b2 b3 b4 b5 b6 b7).type = .negativeAck ↔
      Refused (b0::b1::b2::b3::b4::b5::b6::b7::rest) := by
  unfold classify Refused
  by_cases pattern : b1 ^^^ 0xFF ≠ b0
  · simp [pattern]
  · simp only [if_neg pattern]
    cases known : messagePayloadType b2 b3 with
    | none => simp
    | some type => simp only [pattern,false_or,checkedRefuses _ (knownType known)]

theorem parsedRefuses {uninit action : GenericHeaderAction} {bytes : List UInt8}
    (parsed : parseGenericHeader uninit (Buffer.filled bytes) bytes.length = .ok action)
    (refuses : action.type = .negativeAck) : Refused bytes := by
  by_cases enough : 8 ≤ bytes.length
  · obtain ⟨b0,b1,b2,b3,b4,b5,b6,b7,rest,rfl⟩ := eightBytes enough
    have classified := parsedHeader uninit b0 b1 b2 b3 b4 b5 b6 b7 (Buffer.filled rest)
      (show 8 ≤ ((b0::b1::b2::b3::b4::b5::b6::b7::rest).length : Int) by simp only [List.length_cons]; omega)
    cases classified.symm.trans parsed
    exact (classifyRefuses uninit b0 b1 b2 b3 b4 b5 b6 b7 rest).mp refuses
  · match bytes with
    | [] | [_] | [_,_] | [_,_,_] | [_,_,_,_] | [_,_,_,_,_] | [_,_,_,_,_,_] | [_,_,_,_,_,_,_] => trivial
    | b0::b1::b2::b3::b4::b5::b6::b7::rest => simp at enough

theorem refusedParses {bytes : List UInt8} (refused : Refused bytes) :
    ∃ uninit action, parseGenericHeader uninit (Buffer.filled bytes) bytes.length = .ok action ∧
      action.type = .negativeAck := by
  refine ⟨⟨.negativeAck,0,0⟩,?_⟩
  by_cases enough : 8 ≤ bytes.length
  · obtain ⟨b0,b1,b2,b3,b4,b5,b6,b7,rest,rfl⟩ := eightBytes enough
    refine ⟨_,parsedHeader _ b0 b1 b2 b3 b4 b5 b6 b7 (Buffer.filled rest) ?_,?_⟩
    · simp only [List.length_cons]
      omega
    · exact (classifyRefuses _ b0 b1 b2 b3 b4 b5 b6 b7 rest).mpr refused
  · exact ⟨_,if_neg (by unfold genericHeaderLength; omega),rfl⟩

theorem identificationNoNegativeAck (VIN : List UInt8) (logicalAddress : UInt16) (EID GID : Identifier)
    (furtherActionReq : UInt8) :
    ¬ IsNegativeAck (vehicleIdentificationBytes VIN logicalAddress EID GID furtherActionReq) := by
  simp [IsNegativeAck,vehicleIdentificationBytes,headerBytes]

theorem identificationUnanswered (VIN : List UInt8) (logicalAddress : UInt16) (EID GID : Identifier)
    (furtherActionReq : UInt8) (uninit : GenericHeaderAction) (sender : SockAddr) (s : ServerState) :
    answers uninit sender s (vehicleIdentificationBytes VIN logicalAddress EID GID furtherActionReq) = [] := by
  obtain ⟨action,parsed,sent⟩ := answered uninit sender s
    (vehicleIdentificationBytes VIN logicalAddress EID GID furtherActionReq)
  have own := vehicleIdentificationSize VIN logicalAddress EID GID furtherActionReq
  rw [own] at parsed
  have header : Buffer.filled (vehicleIdentificationBytes VIN logicalAddress EID GID furtherActionReq) =
      Buffer.filled [0x02,0xFD,0x00,0x04,byte3 32,byte2 32,byte1 32,byte0 32] ++ Buffer.filled (vinBytes 17 VIN ++
        [highByte logicalAddress,lowByte logicalAddress] ++ EID.bytes ++ GID.bytes ++ [furtherActionReq]) := by
    rw [← Buffer.filledAppend]
    simp only [vehicleIdentificationBytes,headerBytes,List.append_assoc]
  rw [header,parsedHeader _ _ _ _ _ _ _ _ _ _ (by decide),classifyOwn] at parsed
  cases parsed
  exact sent

theorem negativeAckAnswered (ackCode : UInt8) (uninit : GenericHeaderAction) (sender : SockAddr) (s : ServerState) :
    answers uninit sender s (negativeAckBytes ackCode) = [negativeAckBytes unknownPayloadTypeCode] := by
  obtain ⟨action,parsed,sent⟩ := answered uninit sender s (negativeAckBytes ackCode)
  have header : Buffer.filled (negativeAckBytes ackCode) =
      Buffer.filled [0x02,0xFD,0x00,0x00,byte3 1,byte2 1,byte1 1,byte0 1] ++ Buffer.filled [ackCode] := rfl
  rw [header,parsedHeader _ _ _ _ _ _ _ _ _ _ (by simp [negativeAckBytes]),classifyOwn] at parsed
  cases parsed
  exact sent

theorem emittedOwn {bytes : List UInt8} (emitted : Emitted bytes) : OwnDatagram bytes := by
  obtain ⟨op,s,sent⟩ := emitted
  obtain ⟨e,member,shown⟩ := List.mem_filterMap.mp sent
  cases e with
  | sendto fd message recipient =>
    cases shown
    exact sendsOwn.serverStepMeets op () s fd bytes recipient member
  | _ => cases shown

theorem silentOnOwn {bytes : List UInt8} (own : OwnDatagram bytes) (uninit : GenericHeaderAction) (sender : SockAddr)
    (s : ServerState) : answers uninit sender s bytes = [] ↔ ¬ IsNegativeAck bytes := by
  cases own with
  | identification VIN logicalAddress EID GID furtherActionReq =>
    exact iff_of_true (identificationUnanswered _ _ _ _ _ uninit sender s) (identificationNoNegativeAck _ _ _ _ _)
  | negativeAck ackCode =>
    rw [negativeAckAnswered]
    exact iff_of_false (List.cons_ne_nil _ _) (fun other => other rfl)

theorem negativeAckChains (n : Nat) (ackCode : UInt8) : Chain (negativeAckBytes ackCode) n := by
  induction n generalizing ackCode with
  | zero => exact .nil _
  | succ n ih =>
    have replies : negativeAckBytes unknownPayloadTypeCode ∈
        answers ⟨.negativeAck,0,0⟩ ⟨0,0,0⟩ ⟨.new .zero,[]⟩ (negativeAckBytes ackCode) := by
      rw [negativeAckAnswered]
      exact List.mem_singleton_self _
    exact .reply replies (ih unknownPayloadTypeCode)

theorem chainBounded {request : List UInt8} (accepted : ¬ Refused request) {n : Nat} (chain : Chain request n) :
    n ≤ 1 := by
  cases chain with
  | nil => exact Nat.zero_le 1
  | @reply _ answer n uninit sender s replies next =>
    obtain ⟨action,parsed,sent⟩ := answered uninit sender s request
    rw [sent] at replies
    unfold replyBytes at replies
    split at replies
    · rename_i refuses
      exact absurd (parsedRefuses parsed refuses) accepted
    · cases List.mem_singleton.mp replies
      cases next with
      | nil => exact Nat.le_refl 1
      | @reply _ _ _ uninit sender s replies _ =>
        rw [identificationBytes,identificationUnanswered] at replies
        contradiction
    · contradiction

theorem chainUnbounded {request : List UInt8} (refused : Refused request) (n : Nat) : Chain request n := by
  obtain ⟨uninit,action,parsed,refuses⟩ := refusedParses refused
  cases n with
  | zero => exact .nil request
  | succ n =>
    obtain ⟨action',parsed',sent⟩ := answered uninit ⟨0,0,0⟩ ⟨.new .zero,[]⟩ request
    cases parsed.symm.trans parsed'
    have replies : negativeAckBytes action.value ∈ answers uninit ⟨0,0,0⟩ ⟨.new .zero,[]⟩ request := by
      rw [sent]
      simp [replyBytes,refuses]
    exact .reply replies (negativeAckChains n action.value)

theorem quiescent {bytes : List UInt8} (emitted : Emitted bytes) (uninit : GenericHeaderAction) (sender : SockAddr)
    (s : ServerState) (request : List UInt8) :
    (answers uninit sender s bytes = [] ↔ ¬ IsNegativeAck bytes) ∧
      ((∀ n, Chain request n → n ≤ 1) ↔ ¬ Refused request) := by
  refine ⟨silentOnOwn (emittedOwn emitted) uninit sender s,?_,?_⟩
  · intro bounded refused
    exact absurd (bounded 2 (chainUnbounded refused 2)) (by decide)
  · exact fun accepted n chain => chainBounded accepted chain

section Scenario

def ServerState.fresh : ServerState := ⟨.new .zero,[]⟩

theorem negativeAckEmitted : Emitted (negativeAckBytes unknownPayloadTypeCode) := by
  refine ⟨.receiveUdpMessage ⟨.negativeAck,0,0⟩ (.datagram ⟨0,0,0⟩ (negativeAckBytes 0x00)),.fresh,?_⟩
  have sent := negativeAckAnswered 0x00 ⟨.negativeAck,0,0⟩ ⟨0,0,0⟩ .fresh
  rw [answers] at sent
  rw [sent]
  exact List.mem_singleton_self _

theorem quiescentNegativeAck :
    (answers ⟨.negativeAck,0,0⟩ ⟨0,0,0⟩ .fresh (negativeAckBytes unknownPayloadTypeCode) = [] ↔
      ¬ IsNegativeAck (negativeAckBytes unknownPayloadTypeCode)) ∧
      ((∀ n, Chain [0x02,0xFD,0x00,0x01,0x00,0x00,0x00,0x00] n → n ≤ 1) ↔
        ¬ Refused [0x02,0xFD,0x00,0x01,0x00,0x00,0x00,0x00]) :=
  quiescent negativeAckEmitted _ _ _ _

/- The refusal that one server sends is answered by the next. -/
theorem refusalAnswered : ¬ ∀ bytes, Emitted bytes → ∀ uninit sender s, answers uninit sender s bytes = [] := by
  intro stated
  have silent := stated _ negativeAckEmitted ⟨.negativeAck,0,0⟩ ⟨0,0,0⟩ .fresh
  rw [negativeAckAnswered] at silent
  contradiction

end Scenario
end LibDoip
