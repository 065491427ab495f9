import LibDoip.GenericHeader

/-! What the header parser makes of each header. The length rule of every recognised type is enforced,
but for the two acknowledgements: a short one is taken for a rejection and then for accepted again. -/
namespace LibDoip
open Library

def recognisedCodes : List (UInt8 × UInt8 × PayloadType) :=
  [(0x00,0x01,.vehicleIdentRequest),(0x00,0x04,.vehicleIdentResponse),(0x00,0x05,.routingActivationRequest),
    (0x80,0x01,.diagnosticMessage),(0x80,0x02,.diagnosticPositiveAck),(0x80,0x03,.diagnosticNegativeAck)]

def PermittedLength (length : Nat) : PayloadType → Prop
  | .routingActivationRequest => length = 7 ∨ length = 11
  | .vehicleIdentRequest => length = 0
  | .vehicleIdentResponse => length = 32 ∨ length = 33
  | .diagnosticMessage => 4 < length
  | .diagnosticPositiveAck | .diagnosticNegativeAck => 5 ≤ length
  | _ => True

instance (n t) : Decidable (PermittedLength n t) := by unfold PermittedLength; split <;> infer_instance

structure Header where
  d0 : UInt8
  d1 : UInt8
  d2 : UInt8
  d3 : UInt8
  d4 : UInt8
  d5 : UInt8
  d6 : UInt8
  d7 : UInt8
  deriving DecidableEq, Repr

namespace Header

def bytes (h : Header) : List UInt8 := [h.d0,h.d1,h.d2,h.d3,h.d4,h.d5,h.d6,h.d7]

def length (h : Header) : Nat :=
  h.d4.toNat * 16777216 + h.d5.toNat * 65536 + h.d6.toNat * 256 + h.d7.toNat

def Synchronised (h : Header) : Prop := h.d1 = ~~~h.d0

def Recognised (h : Header) (type : PayloadType) : Prop := (h.d2,h.d3,type) ∈ recognisedCodes

structure Classified (h : Header) (action : GenericHeaderAction) : Prop where
  pattern : action.type = .negativeAck ∧ action.value = 0x00 ∧ action.payloadLength = 0 ↔ ¬ h.Synchronised
  unknown : action.type = .negativeAck ∧ action.value = 0x01 ↔ h.Synchronised ∧ ∀ type, ¬ h.Recognised type
  length : action.type = .negativeAck ∧ action.value = 0x04 ↔
    h.Synchronised ∧ ∃ type, h.Recognised type ∧ ¬ PermittedLength h.length type
  accepted : ∀ type, action.type = type ∧ type ≠ .negativeAck ↔
    h.Synchronised ∧ h.Recognised type ∧ PermittedLength h.length type
  payloadLength : h.Synchronised → action.payloadLength.toNat = h.length

/- An acknowledgement of a diagnostic message without the byte that has to follow its addresses. -/
def ShortAcknowledgement (h : Header) : Prop :=
  h.Synchronised ∧ h.d2 = 0x80 ∧ (h.d3 = 0x02 ∨ h.d3 = 0x03) ∧ h.length < 5

end Header

theorem synchronised (h : Header) : h.d1 ^^^ 0xFF ≠ h.d0 ↔ ¬ h.Synchronised := by
  rw [Header.Synchronised,← UInt8.not_eq_comm]
  exact not_congr (by rw [show (0xFF : UInt8) = -1 from rfl,UInt8.xor_neg_one])

theorem headerLength (h : Header) : (bigEndian32 h.d4 h.d5 h.d6 h.d7).toNat = h.length :=
  bigEndian32Value h.d4 h.d5 h.d6 h.d7

theorem recognisedType (h : Header) (type : PayloadType) :
    messagePayloadType h.d2 h.d3 = some type ↔ h.Recognised type := by
  unfold messagePayloadType Header.Recognised recognisedCodes
  constructor
  · intro known
    repeat' split at known
    all_goals first | contradiction | skip
    all_goals
      rename_i code
      cases known
      simp [code.1,code.2]
  · intro member
    simp only [List.mem_cons,Prod.mk.injEq,List.not_mem_nil,or_false] at member
    rcases member with ⟨h2,h3,rfl⟩ | ⟨h2,h3,rfl⟩ | ⟨h2,h3,rfl⟩ | ⟨h2,h3,rfl⟩ | ⟨h2,h3,rfl⟩ | ⟨h2,h3,rfl⟩ <;>
      simp [h2,h3]

theorem permittedLength {h : Header} {type : PayloadType} (recognised : h.Recognised type) (length : UInt32) :
    lengthRejected type length ↔ ¬ PermittedLength length.toNat type := by
  simp only [Header.Recognised,recognisedCodes,List.mem_cons,Prod.mk.injEq,List.not_mem_nil,or_false] at recognised
  rcases recognised with ⟨_,_,rfl⟩ | ⟨_,_,rfl⟩ | ⟨_,_,rfl⟩ | ⟨_,_,rfl⟩ | ⟨_,_,rfl⟩ | ⟨_,_,rfl⟩ <;>
    simp [lengthRejected,PermittedLength,← UInt32.toNat_inj,UInt32.le_iff_toNat_le,UInt32.lt_iff_toNat_lt]

theorem onlyType {h : Header} {type other : PayloadType} (first : h.Recognised type) (second : h.Recognised other) :
    type = other :=
  Option.some.inj (((recognisedType h type).mpr first).symm.trans ((recognisedType h other).mpr second))

theorem recognisedNotNack {h : Header} {type : PayloadType} (recognised : h.Recognised type) : type ≠ .negativeAck :=
  knownType ((recognisedType h type).mpr recognised)

theorem shortAcknowledgement (h : Header) : h.ShortAcknowledgement ↔
    h.Synchronised ∧ (h.Recognised .diagnosticPositiveAck ∨ h.Recognised .diagnosticNegativeAck) ∧ h.length < 5 := by
  have positive : h.Recognised .diagnosticPositiveAck ↔ h.d2 = 0x80 ∧ h.d3 = 0x02 := by
    simp [Header.Recognised,recognisedCodes]
  have negative : h.Recognised .diagnosticNegativeAck ↔ h.d2 = 0x80 ∧ h.d3 = 0x03 := by
    simp [Header.Recognised,recognisedCodes]
  rw [positive,negative,← and_or_left,and_assoc,Header.ShortAcknowledgement]

theorem classifiedRefused {h : Header} {action : GenericHeaderAction} (pattern : h.Synchronised)
    (type : action.type = .negativeAck) (size : action.payloadLength.toNat = h.length)
    (reason : (action.value = 0x01 ∧ ∀ type, ¬ h.Recognised type) ∨
      (action.value = 0x04 ∧ ∃ type, h.Recognised type ∧ ¬ PermittedLength h.length type)) : h.Classified action := by
  rcases reason with ⟨code,unknown⟩ | ⟨code,_,recognised,size'⟩
  · exact ⟨by simp [code,pattern],by simp [type,code,pattern,unknown],by simp [code,unknown],
      fun other => by simp [type,unknown,eq_comm],fun _ => size⟩
  · refine ⟨by simp [code,pattern],?_,?_,fun other => ?_,fun _ => size⟩
    · simpa [code] using fun _ => ⟨_,recognised⟩
    · simpa [type,code,pattern] using ⟨_,recognised,size'⟩
    · refine iff_of_false (fun both => both.2 (both.1.symm.trans type)) (fun all => size' ?_)
      rw [onlyType recognised all.2.1]
      exact all.2.2

theorem classifiedAccepted {h : Header} {action : GenericHeaderAction} (pattern : h.Synchronised)
    (recognised : h.Recognised action.type) (size : action.payloadLength.toNat = h.length)
    (permitted : PermittedLength h.length action.type) : h.Classified action := by
  have other := recognisedNotNack recognised
  refine ⟨by simp [other,pattern],?_,?_,fun type => ?_,fun _ => size⟩
  · simpa [other] using fun _ => ⟨_,recognised⟩
  · refine iff_of_false (fun both => other both.1) ?_
    rintro ⟨_,type,found,refused⟩
    rw [onlyType found recognised] at refused
    exact refused permitted
  · constructor
    · rintro ⟨rfl,_⟩
      exact ⟨pattern,recognised,permitted⟩
    · rintro ⟨_,found,_⟩
      exact ⟨onlyType recognised found,recognisedNotNack found⟩

theorem checkedClassified {h : Header} {type : PayloadType} (uninit : GenericHeaderAction) (pattern : h.Synchronised)
    (recognised : h.Recognised type) :
    h.Classified (checkPayloadLength {uninit with payloadLength := (bigEndian32 h.d4 h.d5 h.d6 h.d7).toUInt64} type
      (bigEndian32 h.d4 h.d5 h.d6 h.d7)) ↔ ¬ h.ShortAcknowledgement := by
  have rejected := permittedLength recognised (bigEndian32 h.d4 h.d5 h.d6 h.d7)
  have length : (bigEndian32 h.d4 h.d5 h.d6 h.d7).toUInt64.toNat = h.length := by
    rw [UInt32.toNat_toUInt64,headerLength]
  rw [headerLength] at rejected
  rw [shortAcknowledgement]
  by_cases permitted : PermittedLength h.length type
  · rw [acceptedLength _ (mt rejected.mp (not_not_intro permitted))]
    refine iff_of_true (classifiedAccepted pattern recognised length permitted) ?_
    rintro ⟨_,acknowledgement,short⟩
    rcases acknowledgement with positive | negative
    · rw [onlyType recognised positive] at permitted
      exact absurd permitted (Nat.not_le.mpr short)
    · rw [onlyType recognised negative] at permitted
      exact absurd permitted (Nat.not_le.mpr short)
  · rw [checkPayloadLength,if_pos (rejected.mpr permitted)]
    -- The two cases without a `return` are told from the others.
    have slipped : ∀ {action}, action.type = type → ¬ h.Classified action := by
      intro action same classified
      have both := (classified.accepted type).mp ⟨same,recognisedNotNack recognised⟩
      exact permitted both.2.2
    cases type with
    | diagnosticPositiveAck =>
      exact iff_of_false (slipped rfl) (not_not_intro ⟨pattern,Or.inl recognised,Nat.not_le.mp permitted⟩)
    | diagnosticNegativeAck =>
      exact iff_of_false (slipped rfl) (not_not_intro ⟨pattern,Or.inr recognised,Nat.not_le.mp permitted⟩)
    | _ =>
      refine iff_of_true (classifiedRefused pattern rfl length (Or.inr ⟨rfl,_,recognised,permitted⟩)) ?_
      rintro ⟨_,acknowledgement,_⟩
      rcases acknowledgement with positive | negative
      · exact PayloadType.noConfusion (onlyType recognised positive)
      · exact PayloadType.noConfusion (onlyType recognised negative)

theorem classifiedHeader (h : Header) (uninit : GenericHeaderAction) :
    h.Classified (classify uninit h.d0 h.d1 h.d2 h.d3 h.d4 h.d5 h.d6 h.d7) ↔ ¬ h.ShortAcknowledgement := by
  unfold classify
  by_cases pattern : h.Synchronised
  · rw [if_neg (mt (synchronised h).mp (not_not_intro pattern))]
    dsimp only
    cases known : messagePayloadType h.d2 h.d3 with
    | some type => exact checkedClassified uninit pattern ((recognisedType h type).mp known)
    | none =>
      have unknown : ∀ type, ¬ h.Recognised type := by
        intro type recognised
        have := known.symm.trans ((recognisedType h type).mpr recognised)
        contradiction
      refine iff_of_true (classifiedRefused pattern rfl ?_ (Or.inl ⟨rfl,unknown⟩)) ?_
      · rw [UInt32.toNat_toUInt64,headerLength]
      · rw [shortAcknowledgement]
        exact fun short => short.2.1.elim (unknown _) (unknown _)
  · rw [if_pos ((synchronised h).mpr pattern)]
    refine iff_of_true ?_ (fun short => pattern short.1)
    constructor <;> simp [pattern,incorrectPatternFormatCode,eq_comm]

theorem headerClassified (h : Header) (rest : Buffer) (uninit : GenericHeaderAction) {dataLenght : Int}
    (enough : 8 ≤ dataLenght) :
    ∃ action, parseGenericHeader uninit (Buffer.filled h.bytes ++ rest) dataLenght = .ok action ∧
      (h.Classified action ↔ ¬ h.ShortAcknowledgement) :=
  ⟨_,parsedHeader uninit _ _ _ _ _ _ _ _ rest enough,classifiedHeader h uninit⟩

theorem headerClassifiedTwelve :
    ∃ action, parseGenericHeader ⟨.negativeAck,0,0⟩
        (Buffer.filled (Header.mk 0x02 0xFD 0x80 0x01 0 0 0 4).bytes ++ Buffer.alloc 4) 12 = .ok action ∧
      ((Header.mk 0x02 0xFD 0x80 0x01 0 0 0 4).Classified action ↔
        ¬ (Header.mk 0x02 0xFD 0x80 0x01 0 0 0 4).ShortAcknowledgement) :=
  headerClassified _ _ _ (by decide)

/- 02 FD 80 02 00 00 00 04: four bytes cannot hold two addresses and a code. -/
theorem shortAcknowledgementAccepted : ¬ ∀ (h : Header) (action : GenericHeaderAction),
    parseGenericHeader ⟨.negativeAck,0,0⟩ (Buffer.filled h.bytes) 8 = .ok action → h.Classified action := by
  intro stated
  have classified := stated ⟨0x02,0xFD,0x80,0x02,0,0,0,4⟩ ⟨.diagnosticPositiveAck,0x04,4⟩ rfl
  have permitted := ((classified.accepted .diagnosticPositiveAck).mp ⟨rfl,by decide⟩).2.2
  exact absurd permitted (by decide)

end LibDoip
