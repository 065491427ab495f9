import LibDoip.Library.Word

/-! The generic DoIP header: `parseGenericHeader` and `createGenericHeader`. The result struct
and the allocated message are not initialised by the source, so the parser is given what the
struct held before, and the tail of a created message is left unassigned. -/
namespace LibDoip
open Library

def genericHeaderLength : Int := 8
def nackLength : Int := 1

def incorrectPatternFormatCode : UInt8 := 0x00
def unknownPayloadTypeCode : UInt8 := 0x01
def invalidPayloadLengthCode : UInt8 := 0x04

inductive PayloadType where
  | negativeAck
  | routingActivationRequest
  | routingActivationResponse
  | vehicleIdentRequest
  | vehicleIdentResponse
  | diagnosticMessage
  | diagnosticPositiveAck
  | diagnosticNegativeAck
  | aliveCheckResponse
  deriving DecidableEq, Repr

structure GenericHeaderAction where
  type : PayloadType
  value : UInt8
  payloadLength : UInt64
  deriving DecidableEq, Repr

def messagePayloadType (d2 d3 : UInt8) : Option PayloadType :=
  if d2 = 0x00 ∧ d3 = 0x05 then some .routingActivationRequest
  else if d2 = 0x00 ∧ d3 = 0x04 then some .vehicleIdentResponse
  else if d2 = 0x00 ∧ d3 = 0x01 then some .vehicleIdentRequest
  else if d2 = 0x80 ∧ d3 = 0x01 then some .diagnosticMessage
  else if d2 = 0x80 ∧ d3 = 0x02 then some .diagnosticPositiveAck
  else if d2 = 0x80 ∧ d3 = 0x03 then some .diagnosticNegativeAck
  else none

def lengthRejected (messagePayloadType : PayloadType) (payloadLength : UInt32) : Prop :=
  match messagePayloadType with
  | .routingActivationRequest => payloadLength ≠ 7 ∧ payloadLength ≠ 11
  | .aliveCheckResponse => payloadLength ≠ 2
  | .vehicleIdentRequest => payloadLength ≠ 0
  | .vehicleIdentResponse => payloadLength ≠ 32 ∧ payloadLength ≠ 33
  | .diagnosticMessage => payloadLength ≤ 4
  | .diagnosticPositiveAck => payloadLength < 5
  | .diagnosticNegativeAck => payloadLength < 5
  | _ => False

instance (t n) : Decidable (lengthRejected t n) := by
  unfold lengthRejected; split <;> infer_instance

def checkPayloadLength (action : GenericHeaderAction) (messagePayloadType : PayloadType)
    (payloadLength : UInt32) : GenericHeaderAction :=
  if lengthRejected messagePayloadType payloadLength then
    let rejected := {action with type := .negativeAck, value := invalidPayloadLengthCode}
    match messagePayloadType with
    -- These two cases set the rejection without returning it; the type is assigned again below.
    | .diagnosticPositiveAck | .diagnosticNegativeAck => {rejected with type := messagePayloadType}
    | _ => rejected
  else {action with type := messagePayloadType}

def parseGenericHeader (action : GenericHeaderAction) (data : Buffer) (dataLenght : Int) :
    Except Fault GenericHeaderAction :=
  if genericHeaderLength ≤ dataLenght then do
    let d1 ← data.load 1
    let d0 ← data.load 0
    if d1 ^^^ 0xFF ≠ d0 then
      .ok ⟨.negativeAck,incorrectPatternFormatCode,0⟩
    else
      let d4 ← data.load 4
      let d5 ← data.load 5
      let d6 ← data.load 6
      let d7 ← data.load 7
      let payloadLength := bigEndian32 d4 d5 d6 d7
      let action := {action with payloadLength := payloadLength.toUInt64}
      let d2 ← data.load 2
      let d3 ← data.load 3
      match messagePayloadType d2 d3 with
      | none => .ok {action with type := .negativeAck, value := unknownPayloadTypeCode}
      | some type => .ok (checkPayloadLength action type payloadLength)
  else .ok action

def payloadTypeBytes : PayloadType → List UInt8
  | .routingActivationResponse => [0x00,0x06]
  | .negativeAck => [0x00,0x00]
  | .vehicleIdentResponse => [0x00,0x04]
  | .diagnosticMessage => [0x80,0x01]
  | .diagnosticPositiveAck => [0x80,0x02]
  | .diagnosticNegativeAck => [0x80,0x03]
  | .aliveCheckResponse => [0x00,0x08]
  -- The default case assigns neither byte.
  | .routingActivationRequest | .vehicleIdentRequest => []

def createGenericHeader (type : PayloadType) (length : UInt32) : Except Fault Buffer := do
  -- `8 + length` is an `unsigned int`.
  let header := Buffer.alloc (8 + length).toNat
  let header ← header.store 0 0x02
  let header ← header.store 1 0xFD
  let header ← header.storeAll 2 (payloadTypeBytes type)
  let header ← header.store 4 (byte3 length)
  let header ← header.store 5 (byte2 length)
  let header ← header.store 6 (byte1 length)
  header.store 7 (byte0 length)

def headerBytes (h2 h3 : UInt8) (length : UInt32) : List UInt8 :=
  [0x02,0xFD,h2,h3,byte3 length,byte2 length,byte1 length,byte0 length]

@[simp] theorem headerBytesLength (h2 h3 : UInt8) (length : UInt32) :
    (headerBytes h2 h3 length).length = 8 := rfl

theorem allocatedSize {length : UInt32} (fits : length.toNat < 4294967288) :
    (8 + length).toNat = length.toNat + 8 := by
  rw [UInt32.toNat_add]
  show (8 + length.toNat) % 4294967296 = length.toNat + 8
  omega

theorem createdHeader {type h2 h3} {length : UInt32} (code : payloadTypeBytes type = [h2,h3])
    (fits : length.toNat < 4294967288) :
    createGenericHeader type length =
      .ok (Buffer.filled (headerBytes h2 h3 length) ++ Buffer.alloc length.toNat) := by
  have s0 := Buffer.storeNext [] (length.toNat+7) 0x02
  have s1 := Buffer.storeNext [0x02] (length.toNat+6) 0xFD
  have s2 := Buffer.storeNext [0x02,0xFD] (length.toNat+5) h2
  have s3 := Buffer.storeNext [0x02,0xFD,h2] (length.toNat+4) h3
  have s4 := Buffer.storeNext [0x02,0xFD,h2,h3] (length.toNat+3) (byte3 length)
  have s5 := Buffer.storeNext [0x02,0xFD,h2,h3,byte3 length] (length.toNat+2) (byte2 length)
  have s6 := Buffer.storeNext [0x02,0xFD,h2,h3,byte3 length,byte2 length] (length.toNat+1) (byte1 length)
  have s7 := Buffer.storeNext [0x02,0xFD,h2,h3,byte3 length,byte2 length,byte1 length] length.toNat
    (byte0 length)
  simp only [List.length_cons,List.length_nil,List.cons_append,List.nil_append,Nat.zero_add,
    Nat.reduceAdd,Nat.add_assoc,Buffer.filledNil] at s0 s1 s2 s3 s4 s5 s6 s7
  simp only [createGenericHeader,allocatedSize fits,code,Buffer.storeAll,okBind,
    s0,s1,s2,s3,s4,s5,s6,s7,headerBytes]

theorem storedPayload (h2 h3 : UInt8) {length : UInt32} {body : List UInt8} {n : Nat}
    (size : length.toNat = body.length + n) :
    Buffer.storeAll (Buffer.filled (headerBytes h2 h3 length) ++ Buffer.alloc length.toNat) 8 body =
      .ok (Buffer.filled (headerBytes h2 h3 length ++ body) ++ Buffer.alloc n) :=
  Buffer.storeAllNext rfl size

def negativeAckBytes (ackCode : UInt8) : List UInt8 := headerBytes 0x00 0x00 1 ++ [ackCode]

theorem createdNegativeAck : createGenericHeader .negativeAck 1 =
    .ok (Buffer.filled (headerBytes 0x00 0x00 1) ++ Buffer.alloc 1) := createdHeader rfl (by decide)

theorem storedNegativeAck (ackCode : UInt8) :
    Buffer.store (Buffer.filled (headerBytes 0x00 0x00 1) ++ Buffer.alloc 1) 8 ackCode =
      .ok (Buffer.filled (negativeAckBytes ackCode)) := by
  have stored := Buffer.storeNext (headerBytes 0x00 0x00 1) 0 ackCode
  rw [headerBytesLength,Buffer.allocZero,List.append_nil] at stored
  exact stored

def classify (action : GenericHeaderAction) (b0 b1 b2 b3 b4 b5 b6 b7 : UInt8) : GenericHeaderAction :=
  if b1 ^^^ 0xFF ≠ b0 then ⟨.negativeAck,incorrectPatternFormatCode,0⟩
  else
    let payloadLength := bigEndian32 b4 b5 b6 b7
    let action := {action with payloadLength := payloadLength.toUInt64}
    match messagePayloadType b2 b3 with
    | none => {action with type := .negativeAck, value := unknownPayloadTypeCode}
    | some type => checkPayloadLength action type payloadLength

theorem parsedHeader (action : GenericHeaderAction) (b0 b1 b2 b3 b4 b5 b6 b7 : UInt8) (rest : Buffer)
    {dataLenght : Int} (enough : 8 ≤ dataLenght) :
    parseGenericHeader action (Buffer.filled [b0,b1,b2,b3,b4,b5,b6,b7] ++ rest) dataLenght =
      .ok (classify action b0 b1 b2 b3 b4 b5 b6 b7) := by
  generalize held : Buffer.filled [b0,b1,b2,b3,b4,b5,b6,b7] ++ rest = data
  have l0 : data.load 0 = .ok b0 := by subst held; rfl
  have l1 : data.load 1 = .ok b1 := by subst held; rfl
  have l2 : data.load 2 = .ok b2 := by subst held; rfl
  have l3 : data.load 3 = .ok b3 := by subst held; rfl
  have l4 : data.load 4 = .ok b4 := by subst held; rfl
  have l5 : data.load 5 = .ok b5 := by subst held; rfl
  have l6 : data.load 6 = .ok b6 := by subst held; rfl
  have l7 : data.load 7 = .ok b7 := by subst held; rfl
  simp only [parseGenericHeader,genericHeaderLength,if_pos enough,l0,l1,l2,l3,l4,l5,l6,l7,okBind,
    classify]
  split
  · rfl
  · cases messagePayloadType b2 b3 <;> rfl

theorem parsedLength {action parsed : GenericHeaderAction} {data : Buffer} {dataLenght : Int}
    (enough : 8 ≤ dataLenght) (ok : parseGenericHeader action data dataLenght = .ok parsed) :
    parsed.payloadLength.toNat < 4294967296 := by
  rw [parseGenericHeader,if_pos (by exact enough)] at ok
  obtain ⟨d1,_,ok⟩ := okOfBind ok
  obtain ⟨d0,_,ok⟩ := okOfBind ok
  split at ok
  · cases ok
    decide
  · obtain ⟨d4,_,ok⟩ := okOfBind ok
    obtain ⟨d5,_,ok⟩ := okOfBind ok
    obtain ⟨d6,_,ok⟩ := okOfBind ok
    obtain ⟨d7,_,ok⟩ := okOfBind ok
    obtain ⟨d2,_,ok⟩ := okOfBind ok
    obtain ⟨d3,_,ok⟩ := okOfBind ok
    have bound := (bigEndian32 d4 d5 d6 d7).toNat_lt
    split at ok
    · cases ok
      exact bound
    · rename_i type _
      cases ok
      unfold checkPayloadLength
      split
      · cases type <;> exact bound
      · exact bound

theorem classifyOwn (action : GenericHeaderAction) (h2 h3 : UInt8) (length : UInt32) :
    classify action 0x02 0xFD h2 h3 (byte3 length) (byte2 length) (byte1 length) (byte0 length) =
      match messagePayloadType h2 h3 with
      | none => ⟨.negativeAck,unknownPayloadTypeCode,length.toUInt64⟩
      | some type => checkPayloadLength {action with payloadLength := length.toUInt64} type length := by
  have pattern : ¬ ((0xFD : UInt8) ^^^ 0xFF ≠ 0x02) := by decide
  simp only [classify,if_neg pattern,bytesValue]

theorem knownType {d2 d3 : UInt8} {type : PayloadType} (known : messagePayloadType d2 d3 = some type) :
    type ≠ .negativeAck := by
  rintro rfl
  unfold messagePayloadType at known
  repeat' split at known
  all_goals contradiction

structure SameAction (a b : GenericHeaderAction) : Prop where
  type : a.type = b.type
  value : a.type = .negativeAck → a.value = b.value

theorem checkPayloadLengthSame (a b : GenericHeaderAction) {type : PayloadType} (known : type ≠ .negativeAck)
    (payloadLength : UInt32) :
    SameAction (checkPayloadLength a type payloadLength) (checkPayloadLength b type payloadLength) := by
  unfold checkPayloadLength
  by_cases rejected : lengthRejected type payloadLength
  · rw [if_pos rejected,if_pos rejected]
    cases type <;> exact ⟨rfl,fun _ => rfl⟩
  · rw [if_neg rejected,if_neg rejected]
    exact ⟨rfl,fun refused => absurd refused known⟩

theorem classifySame (a b : GenericHeaderAction) (b0 b1 b2 b3 b4 b5 b6 b7 : UInt8) :
    SameAction (classify a b0 b1 b2 b3 b4 b5 b6 b7) (classify b b0 b1 b2 b3 b4 b5 b6 b7) := by
  unfold classify
  split
  · exact ⟨rfl,fun _ => rfl⟩
  · cases known : messagePayloadType b2 b3 with
    | none => exact ⟨rfl,fun _ => rfl⟩
    | some type => exact checkPayloadLengthSame _ _ (knownType known) _

theorem acceptedLength (action : GenericHeaderAction) {type : PayloadType} {length : UInt32}
    (permitted : ¬ lengthRejected type length) :
    checkPayloadLength action type length = {action with type := type} := if_neg permitted

def roundTripTypes : List PayloadType :=
  [.vehicleIdentResponse,.diagnosticMessage,.diagnosticPositiveAck,.diagnosticNegativeAck,
    .aliveCheckResponse]

def RoundTrips (type : PayloadType) (length : UInt32) : Prop :=
  ∀ (action : GenericHeaderAction) (payload : Buffer) (dataLenght : Int),
    payload.length = length.toNat → 8 ≤ dataLenght →
    ∃ header parsed, createGenericHeader type length = .ok header ∧
      parseGenericHeader action (header.take 8 ++ payload) dataLenght = .ok parsed ∧
      parsed.type = type ∧ parsed.payloadLength = length.toUInt64

theorem decodedOwnHeader {type h2 h3} {length : UInt32} (code : payloadTypeBytes type = [h2,h3])
    (fits : length.toNat < 4294967288) (action : GenericHeaderAction) (payload : Buffer)
    {dataLenght : Int} (enough : 8 ≤ dataLenght) :
    ∃ header, createGenericHeader type length = .ok header ∧
      parseGenericHeader action (header.take 8 ++ payload) dataLenght =
        .ok (match messagePayloadType h2 h3 with
          | none => ⟨.negativeAck,unknownPayloadTypeCode,length.toUInt64⟩
          | some type => checkPayloadLength {action with payloadLength := length.toUInt64} type length) := by
  refine ⟨_,createdHeader code fits,?_⟩
  have eight : (Buffer.filled (headerBytes h2 h3 length) ++ Buffer.alloc length.toNat).take 8 =
      Buffer.filled (headerBytes h2 h3 length) := List.take_left' (by simp)
  rw [eight,headerBytes,parsedHeader _ _ _ _ _ _ _ _ _ _ enough,classifyOwn]

theorem roundTripRecognised {type h2 h3} {length : UInt32} (code : payloadTypeBytes type = [h2,h3])
    (recognised : messagePayloadType h2 h3 = some type) (fits : length.toNat < 4294967288)
    (permitted : ¬ lengthRejected type length) : RoundTrips type length := by
  intro action payload dataLenght _ enough
  obtain ⟨header,created,parsed⟩ := decodedOwnHeader code fits action payload enough
  refine ⟨header,_,created,parsed,?_⟩
  simp only [recognised,acceptedLength _ permitted,and_self]

/- No branch of the type table yields ALIVECHECKRESPONSE: its own code 0x0008 is unknown to it. -/
theorem roundTripAliveCheckResponse {length : UInt32} (fits : length.toNat < 4294967288) :
    ¬ RoundTrips .aliveCheckResponse length := by
  intro trips
  have zeros : (Buffer.alloc length.toNat).length = length.toNat := Buffer.allocLength _
  obtain ⟨header,parsed,created,decoded,same,_⟩ :=
    trips ⟨.negativeAck,0,0⟩ (Buffer.alloc length.toNat) 8 zeros (by decide)
  obtain ⟨other,created',decoded'⟩ := @decodedOwnHeader .aliveCheckResponse 0x00 0x08 length rfl fits
    ⟨.negativeAck,0,0⟩ (Buffer.alloc length.toNat) 8 (by decide)
  rw [created] at created'
  cases Except.ok.inj created'
  rw [decoded] at decoded'
  have parsedAs := Except.ok.inj decoded'
  have unknown : messagePayloadType 0x00 0x08 = none := by decide
  rw [unknown] at parsedAs
  rw [parsedAs] at same
  contradiction

theorem codecRoundTrip {type : PayloadType} (encoded : type ∈ roundTripTypes) {length : UInt32}
    (fits : length.toNat < 4294967288) (permitted : ¬ lengthRejected type length) :
    RoundTrips type length ↔ type ≠ .aliveCheckResponse := by
  constructor
  · rintro trips rfl
    exact roundTripAliveCheckResponse fits trips
  · intro other
    simp only [roundTripTypes,List.mem_cons,List.not_mem_nil,or_false] at encoded
    rcases encoded with rfl | rfl | rfl | rfl | rfl
    · exact @roundTripRecognised _ 0x00 0x04 _ rfl (by decide) fits permitted
    · exact @roundTripRecognised _ 0x80 0x01 _ rfl (by decide) fits permitted
    · exact @roundTripRecognised _ 0x80 0x02 _ rfl (by decide) fits permitted
    · exact @roundTripRecognised _ 0x80 0x03 _ rfl (by decide) fits permitted
    · exact absurd rfl other

theorem codecRoundTripDiagnosticMessage :
    RoundTrips .diagnosticMessage 5 ↔ PayloadType.diagnosticMessage ≠ .aliveCheckResponse :=
  codecRoundTrip (by decide) (by decide) (by decide)

theorem codecRoundTripFails : ¬ ∀ type ∈ roundTripTypes, ∀ length : UInt32,
    length.toNat < 4294967288 → ¬ lengthRejected type length → RoundTrips type length := by
  intro stated
  exact @roundTripAliveCheckResponse 2 (by decide)
    (stated .aliveCheckResponse (by decide) 2 (by decide) (by decide))

end LibDoip
