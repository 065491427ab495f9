import LibDoip.GenericHeader

/-! One message as a frame: the parsed header with the payload bytes it declares, and how a
stream of bytes is split into a first frame and the rest. -/
namespace LibDoip
open Library

structure HeaderRules (action : GenericHeaderAction) : Prop where
  bound : action.payloadLength.toNat < 4294967296
  activation : action.type = .routingActivationRequest →
    action.payloadLength.toNat = 7 ∨ action.payloadLength.toNat = 11
  diagnostic : action.type = .diagnosticMessage → 4 < action.payloadLength.toNat

theorem HeaderRules.notActivation {action : GenericHeaderAction} (rules : HeaderRules action)
    (large : 11 < action.payloadLength.toNat) : action.type ≠ .routingActivationRequest := by
  intro type
  have := rules.activation type
  omega

theorem checkedRules (action : GenericHeaderAction) (type : PayloadType) (length : UInt32) :
    HeaderRules (checkPayloadLength {action with payloadLength := length.toUInt64} type length) := by
  have bound := length.toNat_lt
  have value : length.toUInt64.toNat = length.toNat := UInt32.toNat_toUInt64 length
  by_cases rejected : lengthRejected type length
  · rw [checkPayloadLength,if_pos rejected]
    cases type <;> refine ⟨by simpa [value] using bound,?_,?_⟩ <;> simp
  · rw [acceptedLength _ rejected]
    refine ⟨by simpa [value] using bound,?_,?_⟩
    · rintro same
      simp only at same
      subst same
      have exact : length = 7 ∨ length = 11 := by
        simp only [lengthRejected,ne_eq] at rejected
        exact Decidable.or_iff_not_not_and_not.mpr rejected
      rcases exact with rfl | rfl
      · exact Or.inl rfl
      · exact Or.inr rfl
    · rintro same
      simp only at same
      subst same
      have enough : 4 < length := UInt32.not_le.mp rejected
      simpa [value,UInt32.lt_iff_toNat_lt] using enough

theorem classifyRules (action : GenericHeaderAction) (b0 b1 b2 b3 b4 b5 b6 b7 : UInt8) :
    HeaderRules (classify action b0 b1 b2 b3 b4 b5 b6 b7) := by
  unfold classify
  split
  · exact ⟨by decide,by simp,by simp⟩
  · dsimp only
    cases messagePayloadType b2 b3 with
    | some type => exact checkedRules action type _
    | none =>
      refine ⟨?_,by simp,by simp⟩
      simp only [UInt32.toNat_toUInt64]
      exact (bigEndian32 b4 b5 b6 b7).toNat_lt

structure Frame where
  action : GenericHeaderAction
  payload : List UInt8
  rules : HeaderRules action
  size : payload.length = action.payloadLength.toNat
  deriving DecidableEq, Repr

-- Without payload nothing is allocated.
def Frame.pointer (frame : Frame) : Option Buffer :=
  if frame.payload = [] then none else some (Buffer.filled frame.payload)

theorem Frame.activationBytes {frame : Frame} (type : frame.action.type = .routingActivationRequest) :
    ∃ d0 d1 d2 rest, frame.pointer = some (Buffer.filled (d0::d1::d2::rest)) := by
  have length := frame.rules.activation type
  rw [← frame.size] at length
  match bytes : frame.payload with
  | d0::d1::d2::rest => exact ⟨d0,d1,d2,rest,by simp [Frame.pointer,bytes]⟩
  | [_,_] | [_] | [] => simp [bytes] at length

theorem Frame.diagnosticBytes {frame : Frame} (type : frame.action.type = .diagnosticMessage) :
    ∃ d0 d1 d2 d3 data, frame.payload = d0::d1::d2::d3::data ∧
      frame.pointer = some (Buffer.filled (d0::d1::d2::d3::data)) ∧
      frame.action.payloadLength.toNat = data.length + 4 := by
  have length := frame.rules.diagnostic type
  rw [← frame.size] at length
  have size := frame.size
  match bytes : frame.payload with
  | d0::d1::d2::d3::data =>
    refine ⟨d0,d1,d2,d3,data,rfl,by simp [Frame.pointer,bytes],?_⟩
    rw [bytes] at size
    simpa using size.symm
  | [_,_,_] | [_,_] | [_] | [] => simp [bytes] at length

def splitHeader (uninit : GenericHeaderAction) : List UInt8 → Option (GenericHeaderAction × List UInt8)
  | b0::b1::b2::b3::b4::b5::b6::b7::rest => some (classify uninit b0 b1 b2 b3 b4 b5 b6 b7,rest)
  | _ => none

theorem splitHeaderRules {uninit action : GenericHeaderAction} {stream rest : List UInt8}
    (split : splitHeader uninit stream = some (action,rest)) : HeaderRules action := by
  unfold splitHeader at split
  split at split
  · cases split
    exact classifyRules ..
  · contradiction

def Frame.cut (action : GenericHeaderAction) (rules : HeaderRules action) (rest : List UInt8)
    (enough : action.payloadLength.toNat ≤ rest.length) : Frame :=
  ⟨action,rest.take action.payloadLength.toNat,rules,List.length_take_of_le enough⟩

def splitFrame (uninit : GenericHeaderAction) (stream : List UInt8) : Option (Frame × List UInt8) :=
  match header : splitHeader uninit stream with
  | some (action,rest) =>
      if enough : action.payloadLength.toNat ≤ rest.length then
        some (Frame.cut action (splitHeaderRules header) rest enough,rest.drop action.payloadLength.toNat)
      else none
  | none => none

theorem splitFrameWhole {uninit action : GenericHeaderAction} {stream rest : List UInt8}
    (header : splitHeader uninit stream = some (action,rest))
    (enough : action.payloadLength.toNat ≤ rest.length) :
    splitFrame uninit stream = some (Frame.cut action (splitHeaderRules header) rest enough,
      rest.drop action.payloadLength.toNat) := by
  unfold splitFrame
  split
  · rename_i found
    cases header.symm.trans found
    rw [dif_pos enough]
  · rename_i missing
    cases header.symm.trans missing

theorem splitFrameShorter {uninit : GenericHeaderAction} {stream rest : List UInt8} {frame : Frame}
    (split : splitFrame uninit stream = some (frame,rest)) : rest.length < stream.length := by
  unfold splitFrame at split
  split at split
  · rename_i action after header
    have eight : stream.length = after.length + 8 := by
      unfold splitHeader at header
      split at header
      · cases header
        simp
      · contradiction
    split at split
    · cases split
      rw [List.length_drop]
      omega
    · contradiction
  · contradiction

theorem splitFrameShort {uninit action : GenericHeaderAction} {stream rest : List UInt8}
    (header : splitHeader uninit stream = some (action,rest))
    (short : rest.length < action.payloadLength.toNat) : splitFrame uninit stream = none := by
  unfold splitFrame
  split
  · rename_i found
    cases header.symm.trans found
    rw [dif_neg (by omega)]
  · rfl

theorem splitFrameTruncated {uninit : GenericHeaderAction} {stream : List UInt8}
    (truncated : splitHeader uninit stream = none) : splitFrame uninit stream = none := by
  unfold splitFrame
  split
  · rename_i found
    cases truncated.symm.trans found
  · rfl

theorem splitFrameFrom {uninit : GenericHeaderAction} {stream bytes : List UInt8} {frame : Frame}
    (split : splitFrame uninit stream = some (frame,bytes)) :
    ∃ action rest, ∃ header : splitHeader uninit stream = some (action,rest),
      ∃ enough : action.payloadLength.toNat ≤ rest.length,
        frame = Frame.cut action (splitHeaderRules header) rest enough ∧
        bytes = rest.drop action.payloadLength.toNat := by
  unfold splitFrame at split
  split at split
  · rename_i action rest header
    split at split
    · rename_i enough
      cases split
      exact ⟨action,rest,header,enough,rfl,rfl⟩
    · contradiction
  · contradiction

theorem splitHeaderTruncated (uninit : GenericHeaderAction) {stream : List UInt8} (short : stream.length < 8) :
    splitHeader uninit stream = none := by
  unfold splitHeader
  split
  · simp at short
    omega
  · rfl

theorem eightBytes {stream : List UInt8} (enough : 8 ≤ stream.length) :
    ∃ b0 b1 b2 b3 b4 b5 b6 b7 rest, stream = b0::b1::b2::b3::b4::b5::b6::b7::rest := by
  match stream with
  | b0::b1::b2::b3::b4::b5::b6::b7::rest => exact ⟨b0,b1,b2,b3,b4,b5,b6,b7,rest,rfl⟩
  | [_,_,_,_,_,_,_] | [_,_,_,_,_,_] | [_,_,_,_,_] | [_,_,_,_] | [_,_,_] | [_,_] | [_] | [] =>
    simp at enough

theorem splitHeaderBytes {uninit action : GenericHeaderAction} {stream rest : List UInt8}
    (header : splitHeader uninit stream = some (action,rest)) :
    ∃ b0 b1 b2 b3 b4 b5 b6 b7, stream = b0::b1::b2::b3::b4::b5::b6::b7::rest ∧
      action = classify uninit b0 b1 b2 b3 b4 b5 b6 b7 := by
  unfold splitHeader at header
  split at header
  · cases header
    exact ⟨_,_,_,_,_,_,_,_,rfl,rfl⟩
  · contradiction

theorem splitHeaderSome (uninit : GenericHeaderAction) {stream : List UInt8} (enough : 8 ≤ stream.length) :
    ∃ action rest, splitHeader uninit stream = some (action,rest) := by
  obtain ⟨b0,b1,b2,b3,b4,b5,b6,b7,rest,rfl⟩ := eightBytes enough
  exact ⟨_,_,rfl⟩

theorem Frame.pointerCut {action : GenericHeaderAction} (rules : HeaderRules action) {rest : List UInt8}
    (enough : action.payloadLength.toNat ≤ rest.length) (some : 0 < action.payloadLength.toNat) :
    (Frame.cut action rules rest enough).pointer =
      .some (Buffer.filled (rest.take action.payloadLength.toNat)) := by
  have taken : ¬ rest.take action.payloadLength.toNat = [] := by
    intro empty
    have length := List.length_take_of_le enough
    rw [empty] at length
    simp at length
    omega
  rw [Frame.pointer,Frame.cut,if_neg taken]

theorem Frame.pointerEmpty {action : GenericHeaderAction} (rules : HeaderRules action) {rest : List UInt8}
    (enough : action.payloadLength.toNat ≤ rest.length) (empty : action.payloadLength.toNat = 0) :
    (Frame.cut action rules rest enough).pointer = none := by
  have nothing : rest.take action.payloadLength.toNat = [] := by rw [empty,List.take_zero]
  rw [Frame.pointer,Frame.cut,if_pos nothing]

theorem splitOwn {uninit action : GenericHeaderAction} {h2 h3 : UInt8} {length : UInt32}
    {body : List UInt8}
    (decoded : classify uninit 0x02 0xFD h2 h3 (byte3 length) (byte2 length) (byte1 length)
      (byte0 length) = action)
    (size : action.payloadLength.toNat = body.length) (rest : List UInt8) :
    ∃ frame, splitFrame uninit (headerBytes h2 h3 length ++ body ++ rest) = some (frame,rest) ∧
      frame.action = action ∧ frame.payload = body := by
  have header : splitHeader uninit (headerBytes h2 h3 length ++ body ++ rest) = some (action,body ++ rest) := by
    rw [← decoded,List.append_assoc]
    rfl
  have enough : action.payloadLength.toNat ≤ (body ++ rest).length := by
    rw [size,List.length_append]
    omega
  refine ⟨Frame.cut action (splitHeaderRules header) (body ++ rest) enough,?_,rfl,?_⟩
  · rw [splitFrameWhole header enough,size,List.drop_left]
  · show (body ++ rest).take action.payloadLength.toNat = body
    rw [size,List.take_left]

end LibDoip
