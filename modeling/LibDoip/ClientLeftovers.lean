import LibDoip.ClientReceiving
import LibDoip.Library.Agreement

/-! What a receive of the client shows of the messages before it. Two clients receive the same and differ in what
their buffers, and the result structs of their parsers, held before. -/
namespace LibDoip
open Library

def SameClient (s t : ClientState) : Prop := t = {s with receivedData := t.receivedData}

def UdpDetermined (result : RecvResult) : Prop := ∀ s t uninit uninit', SameClient s t →
  (DoIPClient.receiveUdpMessage uninit result s).log = (DoIPClient.receiveUdpMessage uninit' result t).log ∧
    (DoIPClient.receiveUdpMessage uninit result s).state.information =
      (DoIPClient.receiveUdpMessage uninit' result t).state.information

def TcpDetermined (result : RecvResult) : Prop := ∀ s t uninit uninit', SameClient s t →
  (DoIPClient.receiveMessage uninit result s).log = (DoIPClient.receiveMessage uninit' result t).log

def UdpCovered : RecvResult → Prop
  | .failed => False
  | .delivered bytes _ => headerType bytes ≠ none ∧
      (headerType bytes = some .vehicleIdentResponse → 40 ≤ bytes.length)

def IsAcknowledgement (type : PayloadType) : Prop := type = .diagnosticPositiveAck ∨ type = .diagnosticNegativeAck

def TcpCovered : RecvResult → Prop
  | .failed => False
  | .delivered bytes _ => bytes = [] ∨ headerType bytes ≠ none ∧
      ∀ type, headerType bytes = some type → IsAcknowledgement type → 13 ≤ bytes.length

abbrev SameStep {α : Type} (x y : Reception α) : Prop := InStep (some : ClientEvent → Option ClientEvent) SameClient x y

section Determined
variable {s t : ClientState} {uninit uninit' : GenericHeaderAction}

theorem udpCoveredDetermined {result : RecvResult} (covered : UdpCovered result) : UdpDetermined result := by
  intro s t uninit uninit' same
  cases result with
  | failed => exact covered.elim
  | delivered bytes fits =>
    obtain ⟨type,known⟩ := Option.ne_none_iff_exists'.mp covered.1
    rw [receiveUdpMessageApply,receiveUdpMessageApply,parsedKnown known,parsedKnown known,same]
    by_cases identified : type = .vehicleIdentResponse
    · have enough := covered.2 (by rw [known,identified])
      have read : ∀ data : ReceivedData, informationIn (data.receive (.delivered bytes fits)).bytes =
          informationIn bytes := fun data => informationAppend enough _
      refine ⟨?_,?_⟩
      · simp only [if_pos identified,read]
      · simp only [if_pos identified,read]
    · refine ⟨?_,?_⟩
      · simp only [if_neg identified]
      · simp only [if_neg identified,ClientState.receives]

theorem connectInStep (fd : Int) (results : List Int) :
    SameStep (connectUntilAccepted fd results) (connectUntilAccepted fd results) := by
  induction results with
  | nil => exact InStep.next (InStep.emit rfl) (fun _ => InStep.done _)
  | cons result rest ih =>
    refine InStep.next (InStep.emit rfl) (fun _ => ?_)
    split
    · exact ih
    · exact InStep.done _

theorem modifyInStep {f : ClientState → ClientState}
    (apart : ∀ (s : ClientState) data, f {s with receivedData := data} = {f s with receivedData := data}) :
    SameStep (Program.modify f) (Program.modify f) := by
  refine InStep.modify (fun s t same => ?_)
  rw [SameClient] at same ⊢
  rw [same,apart]

theorem startTcpConnectionInStep : SameStep startTcpConnection startTcpConnection := by
  refine InStep.read (fun s t same => ?_)
  rw [same]
  refine InStep.next (modifyInStep (fun _ _ => rfl)) (fun _ => InStep.whenBoth Iff.rfl (fun _ _ => ?_))
  exact InStep.next (connectInStep _ _) (fun rest => modifyInStep (fun _ _ => rfl))

theorem reconnectServerInStep : SameStep reconnectServer reconnectServer := by
  refine InStep.next (InStep.read (fun s t same => ?_)) (fun _ => startTcpConnectionInStep)
  rw [same]
  exact InStep.emit rfl

theorem receiveEmptyMessageInStep : SameStep receiveEmptyMessage receiveEmptyMessage := by
  refine InStep.next (modifyInStep (fun _ _ => rfl)) (fun _ => InStep.read (fun s t same => ?_))
  rw [same]
  refine InStep.whenBoth Iff.rfl (fun _ _ => ?_)
  exact InStep.next (modifyInStep (fun _ _ => rfl)) (fun _ => reconnectServerInStep)

theorem receiveNothingInStep (fits : ([] : List UInt8).length ≤ clientMaxDataSize) :
    SameStep (DoIPClient.receiveMessage uninit (.delivered [] fits))
      (DoIPClient.receiveMessage uninit' (.delivered [] fits)) := by
  refine InStep.read (fun s t same => ?_)
  rw [same]
  refine InStep.next (InStep.emit rfl) (fun _ => InStep.next (InStep.modify (fun s t same => ?_)) (fun _ => ?_))
  · rw [SameClient] at same ⊢
    rw [same]
  · exact receiveEmptyMessageInStep

theorem tcpCoveredDetermined {result : RecvResult} (covered : TcpCovered result) : TcpDetermined result := by
  intro s t uninit uninit' same
  cases result with
  | failed => exact covered.elim
  | delivered bytes fits =>
    by_cases empty : bytes = []
    · subst empty
      have seen := (@receiveNothingInStep uninit uninit' fits s t same).seen
      rwa [List.filterMap_some,List.filterMap_some] at seen
    · obtain ⟨whole,code⟩ := covered.resolve_left empty
      obtain ⟨type,known⟩ := Option.ne_none_iff_exists'.mp whole
      have some := deliveredCount (List.length_pos_iff.mpr empty) fits
      rw [receiveMessageApply uninit some,receiveMessageApply uninit' some,parsedKnown known,parsedKnown known,same]
      have reported : ∀ data : ReceivedData, acknowledged (data.receive (.delivered bytes fits)).bytes type =
          acknowledged bytes type := by
        intro data
        have within : IsAcknowledgement type → (data.receive (.delivered bytes fits)).bytes.getD 12 0 = bytes.getD 12 0 := by
          intro acknowledgement
          have enough := code type known acknowledgement
          exact getDAppend (by omega) _
        cases type with
        | diagnosticPositiveAck => simp only [acknowledged,within (Or.inl rfl)]
        | diagnosticNegativeAck => simp only [acknowledged,within (Or.inr rfl)]
        | _ => rfl
      simp only [reported]

end Determined

section Leftovers

def ReceivedData.all (b : UInt8) : ReceivedData := ⟨List.replicate clientMaxDataSize b,List.length_replicate⟩

def ClientState.holding (b : UInt8) : ClientState := ⟨⟨0,(0x00,0x00)⟩,0,.all b,⟨[],[],[],[],0x00⟩,0,[]⟩

theorem holdingSame (a b : UInt8) : SameClient (.holding a) (.holding b) := rfl

theorem leftoverAt {bytes : List UInt8} (fits : bytes.length ≤ clientMaxDataSize) {i : Nat} (short : bytes.length ≤ i)
    (inside : i < 64) (b : UInt8) : ((ReceivedData.all b).receive (.delivered bytes fits)).bytes.getD i 0 = b := by
  have left : i - bytes.length < 64 - bytes.length := by omega
  simp only [ReceivedData.receive,ReceivedData.all,clientMaxDataSize,List.getD_eq_getElem?_getD,
    List.getElem?_append_right short,List.drop_replicate]
  rw [List.getElem?_replicate_of_lt left]
  rfl

def leftoverType (type : PayloadType) : GenericHeaderAction := ⟨type,0,0⟩

theorem udpDeterminedCovered {result : RecvResult} (determined : UdpDetermined result) : UdpCovered result := by
  have decision := (determined (.holding 0) (.holding 1) (leftoverType .vehicleIdentResponse) (leftoverType .negativeAck)
    (holdingSame 0 1)).1
  have stored := (determined (.holding 0) (.holding 1) (leftoverType .negativeAck) (leftoverType .negativeAck)
    (holdingSame 0 1)).2
  rw [receiveUdpMessageApply,receiveUdpMessageApply] at decision stored
  cases result with
  | failed => simp [parsedType,leftoverType] at decision
  | delivered bytes fits =>
    refine ⟨fun none => ?_,fun identified => ?_⟩
    · simp [parsedType,none,leftoverType] at decision
    · refine Nat.le_of_not_lt (fun short => ?_)
      have first := @leftoverAt bytes fits 39 (by omega) (by decide) 0
      have second := @leftoverAt bytes fits 39 (by omega) (by decide) 1
      simp only [parsedType,identified,Option.getD_some,if_true,informationIn,VehicleInformation.mk.injEq] at stored
      have far := stored.2.2.2.2
      rw [ClientState.holding,ClientState.holding] at far
      rw [first,second] at far
      contradiction

theorem tcpDeterminedCovered {result : RecvResult} (determined : TcpDetermined result) : TcpCovered result := by
  have invented := determined (.holding 0) (.holding 1) (leftoverType .diagnosticPositiveAck)
    (leftoverType .negativeAck) (holdingSame 0 1)
  have repeated := determined (.holding 0) (.holding 1) (leftoverType .negativeAck) (leftoverType .negativeAck)
    (holdingSame 0 1)
  cases result with
  | failed =>
    have some : RecvResult.failed.count ≠ 0 := by decide
    rw [receiveMessageApply _ some,receiveMessageApply _ some] at invented
    simp [parsedType,leftoverType,acknowledged] at invented
  | delivered bytes fits =>
    by_cases empty : bytes = []
    · exact Or.inl empty
    · have some := deliveredCount (List.length_pos_iff.mpr empty) fits
      rw [receiveMessageApply _ some,receiveMessageApply _ some] at invented repeated
      refine Or.inr ⟨fun none => ?_,fun type known acknowledgement => ?_⟩
      · simp [parsedType,none,leftoverType,acknowledged] at invented
      · refine Nat.le_of_not_lt (fun short => ?_)
        have first := @leftoverAt bytes fits 12 (by omega) (by decide) 0
        have second := @leftoverAt bytes fits 12 (by omega) (by decide) 1
        have codes : ((ReceivedData.all 0).receive (.delivered bytes fits)).bytes.getD 12 0 =
            ((ReceivedData.all 1).receive (.delivered bytes fits)).bytes.getD 12 0 := by
          rcases acknowledgement with rfl | rfl
          · simpa [parsedType,known,acknowledged,ClientState.holding] using repeated
          · simpa [parsedType,known,acknowledged,ClientState.holding] using repeated
        rw [first,second] at codes
        contradiction

end Leftovers

theorem receivedOnly (result : RecvResult) :
    (UdpDetermined result ↔ UdpCovered result) ∧ (TcpDetermined result ↔ TcpCovered result) :=
  ⟨⟨udpDeterminedCovered,udpCoveredDetermined⟩,⟨tcpDeterminedCovered,tcpCoveredDetermined⟩⟩

/- Eight bytes that announce an identification response are taken for a whole one. -/
theorem leftoversIdentify : ¬ ∀ result, UdpDetermined result ∧ TcpDetermined result := by
  intro stated
  have covered := udpDeterminedCovered (stated (.delivered [0x02,0xFD,0x00,0x04,0x00,0x00,0x00,0x20] (by decide))).1
  exact absurd (covered.2 (by decide)) (by decide)

end LibDoip
