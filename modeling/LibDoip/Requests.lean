import LibDoip.EndToEnd
import LibDoip.Payloads

/-! What a byte stream asks of a server: its frames as requests. What the result struct of the header
parser held before plays no part in them. -/
namespace LibDoip
open Library

inductive Request where
  | refused (code : UInt8)
  | activation (client : Address) (code : UInt8)
  | diagnostic (source : Address) (targetAddress : UInt16) (data : List UInt8)
  | other
  deriving DecidableEq, Repr

def requestOf (action : GenericHeaderAction) (payload : List UInt8) : Request := match action.type with
  | .negativeAck => .refused action.value
  | .routingActivationRequest =>
      .activation (sourceOf payload) (activationCode (payload.getD 0 0) (payload.getD 1 0) (payload.getD 2 0))
  | .diagnosticMessage => .diagnostic (sourceOf payload) (targetOf payload) (payload.drop 4)
  | _ => .other

def Frame.request (frame : Frame) : Request := requestOf frame.action frame.payload

def noAction : GenericHeaderAction := ⟨.negativeAck,0,0⟩

def requests (stream : List UInt8) : List Request := (frames (fun _ => noAction) stream).map Frame.request

structure SameRequest (a b : GenericHeaderAction) : Prop where
  type : a.type = b.type
  length : a.payloadLength = b.payloadLength
  value : a.type = .negativeAck → a.value = b.value

theorem SameRequest.request {a b : GenericHeaderAction} (same : SameRequest a b) (payload : List UInt8) :
    requestOf a payload = requestOf b payload := by
  have value := same.value
  unfold requestOf
  rw [← same.type]
  cases type : a.type with
  | negativeAck => exact congrArg Request.refused (value type)
  | _ => rfl

theorem checkedSameRequest (a b : GenericHeaderAction) {type : PayloadType} (known : type ≠ .negativeAck)
    (length : UInt32) : SameRequest (checkPayloadLength {a with payloadLength := length.toUInt64} type length)
      (checkPayloadLength {b with payloadLength := length.toUInt64} type length) := by
  unfold checkPayloadLength
  split
  · cases type <;> exact ⟨rfl,rfl,fun _ => rfl⟩
  · exact ⟨rfl,rfl,fun refused => absurd refused known⟩

theorem classifySameRequest (a b : GenericHeaderAction) (b0 b1 b2 b3 b4 b5 b6 b7 : UInt8) :
    SameRequest (classify a b0 b1 b2 b3 b4 b5 b6 b7) (classify b b0 b1 b2 b3 b4 b5 b6 b7) := by
  unfold classify
  split
  · exact ⟨rfl,rfl,fun _ => rfl⟩
  · dsimp only
    cases known : messagePayloadType b2 b3 with
    | some type => exact checkedSameRequest a b (knownType known) _
    | none => exact ⟨rfl,rfl,fun _ => rfl⟩

theorem splitSameRequest (a b : GenericHeaderAction) (stream : List UInt8) :
    (splitFrame a stream).map (fun split => (split.1.request,split.2)) =
      (splitFrame b stream).map (fun split => (split.1.request,split.2)) := by
  by_cases enough : 8 ≤ stream.length
  · obtain ⟨b0,b1,b2,b3,b4,b5,b6,b7,rest,rfl⟩ := eightBytes enough
    have same := classifySameRequest a b b0 b1 b2 b3 b4 b5 b6 b7
    have first : splitHeader a (b0::b1::b2::b3::b4::b5::b6::b7::rest) =
        some (classify a b0 b1 b2 b3 b4 b5 b6 b7,rest) := rfl
    have second : splitHeader b (b0::b1::b2::b3::b4::b5::b6::b7::rest) =
        some (classify b b0 b1 b2 b3 b4 b5 b6 b7,rest) := rfl
    by_cases whole : (classify a b0 b1 b2 b3 b4 b5 b6 b7).payloadLength.toNat ≤ rest.length
    · have whole' := whole
      rw [same.length] at whole'
      rw [splitFrameWhole first whole,splitFrameWhole second whole',Option.map_some,Option.map_some]
      simp only [Frame.request,Frame.cut,same.length,same.request]
    · rw [splitFrameShort first (by omega),splitFrameShort second (by rw [← same.length]; omega)]
  · rw [splitFrameTruncated (splitHeaderTruncated a (by omega)),splitFrameTruncated (splitHeaderTruncated b (by omega))]

theorem requestsCut {uninit : GenericHeaderAction} {stream rest : List UInt8} {frame : Frame}
    (split : splitFrame uninit stream = some (frame,rest)) : requests stream = frame.request::requests rest := by
  have same := splitSameRequest uninit noAction stream
  rw [split] at same
  generalize found : splitFrame noAction stream = other at same
  cases other with
  | none => cases same
  | some other =>
    obtain ⟨frame',rest'⟩ := other
    obtain ⟨request,rfl⟩ := Prod.mk.inj (Option.some.inj same)
    rw [requests,framesSome found,List.map_cons,← request]
    rfl

theorem requestsNone {uninit : GenericHeaderAction} {stream : List UInt8} (none : splitFrame uninit stream = none) :
    requests stream = [] := by
  have same := splitSameRequest uninit noAction stream
  rw [none] at same
  generalize found : splitFrame noAction stream = other at same
  cases other with
  | some other => cases same
  | none => rw [requests,framesNone found,List.map_nil]

/- The payload lengths that the headers of a stream declare; the last payload may not be all there. -/
def declared (stream : List UInt8) : List Nat :=
  match splitHeader noAction stream with
  | none => []
  | some (action,_) => action.payloadLength.toNat::match _split : splitFrame noAction stream with
    | some (_,rest) => declared rest
    | none => []
termination_by stream.length
decreasing_by exact splitFrameShorter _split

theorem headerSameRequest {uninit action : GenericHeaderAction} {stream rest : List UInt8}
    (header : splitHeader uninit stream = some (action,rest)) :
    ∃ action', splitHeader noAction stream = some (action',rest) ∧ action'.payloadLength = action.payloadLength := by
  obtain ⟨b0,b1,b2,b3,b4,b5,b6,b7,rfl,rfl⟩ := splitHeaderBytes header
  exact ⟨_,rfl,(classifySameRequest noAction uninit b0 b1 b2 b3 b4 b5 b6 b7).length⟩

theorem declaredHeader {uninit action : GenericHeaderAction} {stream rest : List UInt8}
    (header : splitHeader uninit stream = some (action,rest)) : action.payloadLength.toNat ∈ declared stream := by
  obtain ⟨action',found,same⟩ := headerSameRequest header
  rw [declared,found,← same]
  exact List.mem_cons_self

theorem declaredCut {uninit : GenericHeaderAction} {stream rest : List UInt8} {frame : Frame}
    (split : splitFrame uninit stream = some (frame,rest)) :
    declared stream = frame.action.payloadLength.toNat::declared rest := by
  obtain ⟨action,after,header,enough,rfl,rfl⟩ := splitFrameFrom split
  obtain ⟨action',found,same⟩ := headerSameRequest header
  have whole := splitFrameWhole found (show action'.payloadLength.toNat ≤ after.length by rw [same]; exact enough)
  rw [declared,found]
  dsimp only
  split
  · rename_i rest' split'
    cases whole.symm.trans split'
    rw [same]
    rfl
  · rename_i none'
    cases whole.symm.trans none'

theorem declaredNone {stream : List UInt8} (none : splitHeader noAction stream = none) : declared stream = [] := by
  rw [declared,none]

def Send.request : Send → Request
  | .routingActivationRequest => .activation (0x0E,0x00) successfullyRoutedCode
  | .diagnosticMessage targetAddress userData _ =>
      .diagnostic (0x0E,0x00) (bigEndian16 targetAddress.1 targetAddress.2) userData.bytes
  | .aliveCheckResponse => .refused unknownPayloadTypeCode

theorem Send.Framed.request {x : Send} {frame : Frame} (framed : x.Framed frame) : frame.request = x.request := by
  unfold Frame.request requestOf
  cases x with
  | routingActivationRequest =>
    obtain ⟨type,payload⟩ := framed
    have code : activationCode 0x0E 0x00 0x00 = successfullyRoutedCode := by decide
    rw [type,payload]
    exact congrArg (Request.activation (0x0E,0x00)) code
  | diagnosticMessage targetAddress userData some =>
    obtain ⟨type,payload⟩ := framed
    rw [type,payload]
    rfl
  | aliveCheckResponse =>
    obtain ⟨type,value⟩ := framed
    rw [type,value]
    rfl

theorem requestsSent (sourceAddress : Address) (x : Send) (rest : List UInt8) :
    requests (x.bytes sourceAddress ++ rest) = x.request::requests rest := by
  obtain ⟨frame,split,framed⟩ := sentFramed noAction sourceAddress x rest
  rw [requestsCut split,framed.request]

theorem requestsOfSends (sourceAddress : Address) (sends : List Send) (rest : List UInt8) :
    requests (sends.flatMap (Send.bytes sourceAddress) ++ rest) = sends.map Send.request ++ requests rest := by
  induction sends with
  | nil => rfl
  | cons x sends ih => rw [List.flatMap_cons,List.append_assoc,requestsSent,ih,List.map_cons,List.cons_append]

end LibDoip
