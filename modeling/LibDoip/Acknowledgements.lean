import LibDoip.ClientReceiving
import LibDoip.RoutingActivation
import LibDoip.Library.Pieces

/-! The acknowledgements that a client reports against those that a server has sent. The client takes the result of
one `recv` for one message. -/
namespace LibDoip
open Library

inductive ServerFrame where
  | routingActivationResponse (sourceAddress : UInt16) (clientAddress : Address) (responseCode : UInt8)
  | diagnosticAck (ackType : Bool) (sourceAddress : UInt16) (targetAddress : Address) (responseCode : UInt8)
  | diagnosticMessage (sourceAddress : UInt16) (targetAddress : Address) (data : UserData)
  | negativeAck (ackCode : UInt8)
  deriving DecidableEq, Repr

def ServerFrame.bytes : ServerFrame → List UInt8
  | .routingActivationResponse sourceAddress clientAddress responseCode =>
      activationResponseBytes sourceAddress clientAddress responseCode
  | .diagnosticAck ackType sourceAddress targetAddress responseCode =>
      diagnosticAckBytes ackType sourceAddress targetAddress responseCode
  | .diagnosticMessage sourceAddress targetAddress data => diagnosticMessageBytes sourceAddress targetAddress data
  | .negativeAck ackCode => negativeAckBytes ackCode

structure Acknowledgement where
  positive : Bool
  code : UInt8
  deriving DecidableEq, Repr

def ServerFrame.acknowledgement : ServerFrame → Option Acknowledgement
  | .diagnosticAck ackType _ _ responseCode => some ⟨ackType,responseCode⟩
  | _ => none

structure Segment where
  uninit : GenericHeaderAction
  bytes : List UInt8
  delivered : 0 < bytes.length
  fits : bytes.length ≤ clientMaxDataSize
  deriving Repr

def Segment.acknowledgement (segment : Segment) : Option Acknowledgement := match headerType segment.bytes with
  | some .diagnosticPositiveAck => some ⟨true,segment.bytes.getD 12 0⟩
  | some .diagnosticNegativeAck => some ⟨false,segment.bytes.getD 12 0⟩
  | _ => none

def receiveSegment (segment : Segment) : Reception Unit :=
  DoIPClient.receiveMessage segment.uninit (.delivered segment.bytes segment.fits)

def reported : ClientEvent → Option Acknowledgement
  | .acknowledged positive code => some ⟨positive,code⟩
  | _ => none

def reports (segments : List Segment) (s : ClientState) : List Acknowledgement :=
  (Program.sequence receiveSegment segments s).log.filterMap reported

/- Every segment has a whole header; those that begin like an acknowledgement begin where one begins, none
begins elsewhere, and its code has come along. -/
structure Aligned (frames : List ServerFrame) (segments : List Segment) : Prop where
  headers : ∀ segment ∈ segments, 8 ≤ segment.bytes.length
  starts : starts Segment.bytes Segment.acknowledgement 0 segments =
    starts ServerFrame.bytes ServerFrame.acknowledgement 0 frames
  codes : ∀ segment ∈ segments, segment.acknowledgement ≠ none → 13 ≤ segment.bytes.length

def acknowledgementAt (stream : List UInt8) : Acknowledgement := ⟨decide (stream.getD 3 0 = 0x02),stream.getD 12 0⟩

theorem framesReadOff (frames : List ServerFrame) :
    ReadsOff ServerFrame.bytes ServerFrame.acknowledgement acknowledgementAt frames := by
  intro frame _ v known rest
  cases frame with
  | diagnosticAck ackType sourceAddress targetAddress responseCode =>
    cases known
    cases ackType <;> rfl
  | _ => cases known

theorem checkedType (action : GenericHeaderAction) (type : PayloadType) (payloadLength : UInt32) :
    (checkPayloadLength action type payloadLength).type = type ∨
      (checkPayloadLength action type payloadLength).type = .negativeAck := by
  unfold checkPayloadLength
  split
  · cases type <;> simp
  · exact Or.inl rfl

theorem classifiedCode {action : GenericHeaderAction} {b0 b1 b2 b3 b4 b5 b6 b7 : UInt8} {type : PayloadType}
    (classified : (classify action b0 b1 b2 b3 b4 b5 b6 b7).type = type) (accepted : type ≠ .negativeAck) :
    messagePayloadType b2 b3 = some type := by
  unfold classify at classified
  split at classified
  · exact absurd classified.symm accepted
  · cases known : messagePayloadType b2 b3 with
    | none =>
      simp only [known] at classified
      exact absurd classified.symm accepted
    | some found =>
      simp only [known] at classified
      rcases checkedType {action with payloadLength := (bigEndian32 b4 b5 b6 b7).toUInt64} found
        (bigEndian32 b4 b5 b6 b7) with same | refused
      · rw [← classified,same]
      · exact absurd (classified.symm.trans refused) accepted

theorem headerKind {bytes : List UInt8} {type : PayloadType} (known : headerType bytes = some type)
    (accepted : type ≠ .negativeAck) : messagePayloadType (bytes.getD 2 0) (bytes.getD 3 0) = some type := by
  unfold headerType at known
  split at known
  · exact classifiedCode (Option.some.inj known) accepted
  · contradiction

theorem positiveCode {d2 d3 : UInt8} (known : messagePayloadType d2 d3 = some .diagnosticPositiveAck) : d3 = 0x02 := by
  unfold messagePayloadType at known
  grind

theorem negativeCode {d2 d3 : UInt8} (known : messagePayloadType d2 d3 = some .diagnosticNegativeAck) : d3 = 0x03 := by
  unfold messagePayloadType at known
  grind

theorem segmentsReadOff {segments : List Segment}
    (codes : ∀ segment ∈ segments, segment.acknowledgement ≠ none → 13 ≤ segment.bytes.length) :
    ReadsOff Segment.bytes Segment.acknowledgement acknowledgementAt segments := by
  intro segment member v known rest
  have enough := codes segment member (by rw [known]; exact Option.some_ne_none v)
  have kind := @getDAppend segment.bytes 3 (by omega) rest
  have code := @getDAppend segment.bytes 12 (by omega) rest
  unfold Segment.acknowledgement at known
  rw [acknowledgementAt,kind,code]
  split at known
  · rename_i type
    cases known
    rw [positiveCode (headerKind type (by decide))]
    rfl
  · rename_i type
    cases known
    rw [negativeCode (headerKind type (by decide))]
    rfl
  · contradiction

theorem segmentReported {segment : Segment} (header : 8 ≤ segment.bytes.length)
    (code : segment.acknowledgement ≠ none → 13 ≤ segment.bytes.length) (s : ClientState) :
    ∃ l t, receiveSegment segment s = ⟨l,t,.ok ()⟩ ∧ l.filterMap reported = segment.acknowledgement.toList := by
  have some := deliveredCount segment.delivered segment.fits
  have whole : headerType segment.bytes ≠ none := fun short => absurd (headerTypeNone.mp short) (by omega)
  obtain ⟨type,known⟩ := Option.ne_none_iff_exists'.mp whole
  refine ⟨_,_,receiveMessageApply segment.uninit some s,?_⟩
  rw [parsedKnown known]
  unfold Segment.acknowledgement at code ⊢
  rw [known] at code ⊢
  cases type with
  | diagnosticPositiveAck =>
    have within := @getDAppend segment.bytes 12 (by have := code (by simp); omega)
      (s.receivedData.bytes.drop segment.bytes.length)
    simp only [acknowledged,ReceivedData.receive,within]
    rfl
  | diagnosticNegativeAck =>
    have within := @getDAppend segment.bytes 12 (by have := code (by simp); omega)
      (s.receivedData.bytes.drop segment.bytes.length)
    simp only [acknowledged,ReceivedData.receive,within]
    rfl
  | _ => rfl

theorem segmentsReported {segments : List Segment} (headers : ∀ segment ∈ segments, 8 ≤ segment.bytes.length)
    (codes : ∀ segment ∈ segments, segment.acknowledgement ≠ none → 13 ≤ segment.bytes.length) (s : ClientState) :
    reports segments s = segments.filterMap Segment.acknowledgement := by
  induction segments generalizing s with
  | nil => rfl
  | cons segment rest ih =>
    obtain ⟨l,t,ran,first⟩ := segmentReported (headers segment List.mem_cons_self) (codes segment List.mem_cons_self) s
    have later := ih (fun x member => headers x (List.mem_cons_of_mem _ member))
      (fun x member => codes x (List.mem_cons_of_mem _ member)) t
    rw [reports] at later
    rw [reports,Program.sequence,Program.bindApply,ran,Outcome.andThenOk,Outcome.prependLog,List.filterMap_append,first,
      later]
    cases known : segment.acknowledgement with
    | none => rw [List.filterMap_cons_none known]; rfl
    | some v => rw [List.filterMap_cons_some known]; rfl

theorem acknowledgementsReported {frames : List ServerFrame} {segments : List Segment}
    (stream : segments.flatMap Segment.bytes = frames.flatMap ServerFrame.bytes) (aligned : Aligned frames segments)
    (s : ClientState) : reports segments s = frames.filterMap ServerFrame.acknowledgement := by
  rw [segmentsReported aligned.headers aligned.codes]
  exact sameValues (segmentsReadOff aligned.codes) (framesReadOff frames) stream aligned.starts

section Scenario

def positiveAcknowledgement : ServerFrame := .diagnosticAck true 0x0E80 (0x0E,0x00) 0x00
def negativeAcknowledgement : ServerFrame := .diagnosticAck false 0x0E80 (0x0E,0x00) 0x02

def segmentOf (frame : ServerFrame) (delivered : 0 < frame.bytes.length) (fits : frame.bytes.length ≤ clientMaxDataSize) :
    Segment := ⟨⟨.negativeAck,0,0⟩,frame.bytes,delivered,fits⟩

theorem acknowledgementsReportedApart : reports [segmentOf positiveAcknowledgement (by decide) (by decide),
      segmentOf negativeAcknowledgement (by decide) (by decide)] ⟨⟨0,(0x00,0x00)⟩,0,
        ⟨List.replicate 64 0x00,rfl⟩,⟨[],[],[],[],0x00⟩,0,[]⟩ = [⟨true,0x00⟩,⟨false,0x02⟩] :=
  @acknowledgementsReported [positiveAcknowledgement,negativeAcknowledgement] _ rfl
    ⟨by decide,by decide,by decide⟩ _

theorem acknowledgementLost : ¬ ∀ (frames : List ServerFrame) (segments : List Segment) (s : ClientState),
    segments.flatMap Segment.bytes = frames.flatMap ServerFrame.bytes →
      reports segments s = frames.filterMap ServerFrame.acknowledgement := by
  intro stated
  have lost := stated [positiveAcknowledgement,negativeAcknowledgement]
    [⟨⟨.negativeAck,0,0⟩,positiveAcknowledgement.bytes ++ negativeAcknowledgement.bytes,by decide,by decide⟩]
    ⟨⟨0,(0x00,0x00)⟩,0,⟨List.replicate 64 0x00,rfl⟩,⟨[],[],[],[],0x00⟩,0,[]⟩ rfl
  rw [segmentsReported (by decide) (by decide)] at lost
  exact absurd lost (by decide)

end Scenario
end LibDoip
