import LibDoip.Client
import LibDoip.Frame
import LibDoip.VehicleIdentification

/-! What a `DoIPClient` makes of the messages it receives. Every receive writes over the beginning of one
buffer of 64 bytes, whose contents are arbitrary to begin with. -/
namespace LibDoip
open Library

def clientMaxDataSize : Nat := 64

structure ReceivedData where
  bytes : List UInt8
  size : bytes.length = clientMaxDataSize
  deriving DecidableEq, Repr

inductive RecvResult where
  | failed
  | delivered (bytes : List UInt8) (fits : bytes.length ≤ clientMaxDataSize)
  deriving DecidableEq, Repr

def RecvResult.count : RecvResult → Int
  | .failed => -1
  | .delivered bytes _ => bytes.length

def ReceivedData.receive (data : ReceivedData) : RecvResult → ReceivedData
  | .failed => data
  | .delivered bytes fits => ⟨bytes ++ data.bytes.drop bytes.length,by
      have size := data.size
      rw [List.length_append,List.length_drop]
      omega⟩

structure VehicleInformation where
  VINResult : List UInt8
  logicalAddressResult : List UInt8
  EIDResult : List UInt8
  GIDResult : List UInt8
  furtherActionReqResult : UInt8
  deriving DecidableEq, Repr

def parseVIResponseInformation (data : Buffer) : Except Fault VehicleInformation := do
  let VINResult ← data.loadAll 8 17
  let logicalAddressResult ← data.loadAll 25 2
  let EIDResult ← data.loadAll 27 6
  let GIDResult ← data.loadAll 33 6
  let furtherActionReqResult ← data.load 39
  .ok ⟨VINResult,logicalAddressResult,EIDResult,GIDResult,furtherActionReqResult⟩

inductive ClientEvent where
  | recv (fd : Int)
  | recvfrom (fd : Int)
  | displayed (bytes : List UInt8)
  | acknowledged (positive : Bool) (code : UInt8)
  | identified (information : VehicleInformation)
  | close (fd : Int)
  | connect (fd : Int)
  deriving DecidableEq, Repr

/- `results` are those of `socket` and `connect` still to come; once they have run out, both succeed. -/
structure ClientState where
  client : DoIPClient
  sockFdUdp : Int
  receivedData : ReceivedData
  information : VehicleInformation
  emptyMessageCounter : Nat
  results : List Int
  deriving DecidableEq, Repr

abbrev Reception := Program Fault ClientEvent ClientState

def connectUntilAccepted (fd : Int) : (results : List Int) → Reception (List Int)
  | [] => do
      Program.emit (.connect fd)
      pure []
  | result::rest => do
      Program.emit (.connect fd)
      if result = -1 then connectUntilAccepted fd rest else pure rest

def startTcpConnection : Reception Unit := do
  let s ← Program.get
  let fd := s.results.headD 3
  Program.modify (fun s => {s with client := {s.client with sockFd := fd}, results := s.results.tail})
  Program.when (0 ≤ fd) (do
    let rest ← connectUntilAccepted fd s.results.tail
    Program.modify (fun s => {s with results := rest}))

def closeTcpConnection : Reception Unit := do
  let s ← Program.get
  Program.emit (.close s.client.sockFd)

def reconnectServer : Reception Unit := do
  closeTcpConnection
  startTcpConnection

def receiveEmptyMessage : Reception Unit := do
  Program.modify (fun s => {s with emptyMessageCounter := s.emptyMessageCounter + 1})
  let s ← Program.get
  Program.when (s.emptyMessageCounter = 5) (do
    Program.modify (fun s => {s with emptyMessageCounter := 0})
    reconnectServer)

def reportAcknowledgement (type : PayloadType) (data : Buffer) : Reception Unit := match type with
  | .diagnosticPositiveAck => do
      let code ← Program.lift (data.load 12)
      Program.emit (.acknowledged true code)
  | .diagnosticNegativeAck => do
      let code ← Program.lift (data.load 12)
      Program.emit (.acknowledged false code)
  | _ => pure ()

/- `uninit` is what the result struct of the header parser holds before it is filled in. -/
def DoIPClient.receiveMessage (uninit : GenericHeaderAction) (result : RecvResult) : Reception Unit := do
  let s ← Program.get
  Program.emit (.recv s.client.sockFd)
  Program.modify (fun s => {s with receivedData := s.receivedData.receive result})
  let data := Buffer.filled (s.receivedData.receive result).bytes
  if result.count = 0 then receiveEmptyMessage
  else do
    let displayed ← Program.lift (data.contents result.count.toNat)
    Program.emit (.displayed displayed)
    let action ← Program.lift (parseGenericHeader uninit data result.count)
    reportAcknowledgement action.type data

def DoIPClient.receiveUdpMessage (uninit : GenericHeaderAction) (result : RecvResult) : Reception Unit := do
  let s ← Program.get
  Program.emit (.recvfrom s.sockFdUdp)
  Program.modify (fun s => {s with receivedData := s.receivedData.receive result})
  let data := Buffer.filled (s.receivedData.receive result).bytes
  let action ← Program.lift (parseGenericHeader uninit data result.count)
  Program.when (action.type = .vehicleIdentResponse) (do
    let information ← Program.lift (parseVIResponseInformation data)
    Program.emit (.identified information)
    Program.modify (fun s => {s with information := information}))

def informationIn (bytes : List UInt8) : VehicleInformation :=
  ⟨(bytes.drop 8).take 17,(bytes.drop 25).take 2,(bytes.drop 27).take 6,(bytes.drop 33).take 6,bytes.getD 39 0⟩

theorem loadedAt {bytes : List UInt8} {i : Nat} (bound : i < bytes.length) :
    (Buffer.filled bytes).load i = .ok (bytes.getD i 0) := by
  rw [Buffer.loadFilledOnly bound,List.getD_eq_getElem?_getD,List.getElem?_eq_getElem bound]
  rfl

theorem parsedInformation {bytes : List UInt8} (enough : 40 ≤ bytes.length) :
    parseVIResponseInformation (Buffer.filled bytes) = .ok (informationIn bytes) := by
  have VIN := @Buffer.loadAllFilled bytes 8 17 (by omega)
  have address := @Buffer.loadAllFilled bytes 25 2 (by omega)
  have EID := @Buffer.loadAllFilled bytes 27 6 (by omega)
  have GID := @Buffer.loadAllFilled bytes 33 6 (by omega)
  have last := @loadedAt bytes 39 (by omega)
  rw [parseVIResponseInformation,VIN,okBind,address,okBind,EID,okBind,GID,okBind,last,okBind]
  rfl

theorem getDAppend {bytes : List UInt8} {i : Nat} (inside : i < bytes.length) (rest : List UInt8) :
    (bytes ++ rest).getD i 0 = bytes.getD i 0 := by
  rw [List.getD_eq_getElem?_getD,List.getD_eq_getElem?_getD,List.getElem?_append_left inside]

theorem informationAppend {bytes : List UInt8} (enough : 40 ≤ bytes.length) (rest : List UInt8) :
    informationIn (bytes ++ rest) = informationIn bytes := by
  have within : ∀ i n, i + n ≤ 40 → ((bytes ++ rest).drop i).take n = (bytes.drop i).take n := by
    intro i n inside
    rw [List.drop_append_of_le_length (by omega),List.take_append_of_le_length (by rw [List.length_drop]; omega)]
  simp only [informationIn,within 8 17 (by decide),within 25 2 (by decide),within 27 6 (by decide),
    within 33 6 (by decide),getDAppend (show 39 < bytes.length by omega)]

def headerType : List UInt8 → Option PayloadType
  | b0::b1::b2::b3::b4::b5::b6::b7::_ => some (classify ⟨.negativeAck,0,0⟩ b0 b1 b2 b3 b4 b5 b6 b7).type
  | _ => none

theorem headerTypeNone {bytes : List UInt8} : headerType bytes = none ↔ bytes.length < 8 := by
  constructor
  · intro none
    refine Nat.lt_of_not_le (fun enough => ?_)
    obtain ⟨b0,b1,b2,b3,b4,b5,b6,b7,rest,rfl⟩ := eightBytes enough
    contradiction
  · intro short
    match bytes with
    | [] | [_] | [_,_] | [_,_,_] | [_,_,_,_] | [_,_,_,_,_] | [_,_,_,_,_,_] | [_,_,_,_,_,_,_] => rfl
    | _::_::_::_::_::_::_::_::rest =>
      simp only [List.length_cons] at short
      omega

/- Without a whole header the type is what the result struct held before. -/
def parsedType (uninit : GenericHeaderAction) : RecvResult → PayloadType
  | .failed => uninit.type
  | .delivered bytes _ => (headerType bytes).getD uninit.type

theorem parsedKnown {bytes : List UInt8} {type : PayloadType} (known : headerType bytes = some type)
    (uninit : GenericHeaderAction) (fits : bytes.length ≤ clientMaxDataSize) :
    parsedType uninit (.delivered bytes fits) = type := by
  rw [parsedType,known]
  rfl

theorem deliveredCount {bytes : List UInt8} (some : 0 < bytes.length) (fits : bytes.length ≤ clientMaxDataSize) :
    (RecvResult.delivered bytes fits).count ≠ 0 := by
  simp only [RecvResult.count]
  omega

theorem deliveryParsed (uninit : GenericHeaderAction) (data : ReceivedData) (result : RecvResult) :
    ∃ action, parseGenericHeader uninit (Buffer.filled (data.receive result).bytes) result.count = .ok action ∧
      action.type = parsedType uninit result := by
  cases result with
  | failed => exact ⟨uninit,rfl,rfl⟩
  | delivered bytes fits =>
    by_cases enough : 8 ≤ bytes.length
    · obtain ⟨b0,b1,b2,b3,b4,b5,b6,b7,rest,rfl⟩ := eightBytes enough
      have parsed := parsedHeader uninit b0 b1 b2 b3 b4 b5 b6 b7
        (Buffer.filled (rest ++ data.bytes.drop (b0::b1::b2::b3::b4::b5::b6::b7::rest).length))
        (show 8 ≤ ((b0::b1::b2::b3::b4::b5::b6::b7::rest).length : Int) by omega)
      exact ⟨_,parsed,(classifySame _ _ _ _ _ _ _ _ _ _).type⟩
    · have short : ¬ (8 : Int) ≤ bytes.length := by omega
      refine ⟨uninit,if_neg short,?_⟩
      rw [parsedType,headerTypeNone.mpr (by omega)]
      rfl

def ClientState.receives (s : ClientState) (result : RecvResult) : ClientState :=
  {s with receivedData := s.receivedData.receive result}

theorem receiveUdpMessageApply (uninit : GenericHeaderAction) (result : RecvResult) (s : ClientState) :
    DoIPClient.receiveUdpMessage uninit result s =
      if parsedType uninit result = .vehicleIdentResponse then
        ⟨[.recvfrom s.sockFdUdp,.identified (informationIn (s.receivedData.receive result).bytes)],
          {s.receives result with information := informationIn (s.receivedData.receive result).bytes},.ok ()⟩
      else ⟨[.recvfrom s.sockFdUdp],s.receives result,.ok ()⟩ := by
  obtain ⟨action,parsed,type⟩ := deliveryParsed uninit s.receivedData result
  have enough : 40 ≤ (s.receivedData.receive result).bytes.length := by
    rw [(s.receivedData.receive result).size]
    decide
  rw [← type]
  simp only [DoIPClient.receiveUdpMessage,Program.bindApply,Program.getApply,Program.emitApply,Program.modifyApply,
    Outcome.andThenOk,parsed,Program.liftApply,parsedInformation enough]
  by_cases identified : action.type = .vehicleIdentResponse
  · rw [if_pos identified,Program.whenTrue identified]
    rfl
  · rw [if_neg identified,Program.whenFalse identified]
    rfl

def acknowledged (data : List UInt8) : PayloadType → List ClientEvent
  | .diagnosticPositiveAck => [.acknowledged true (data.getD 12 0)]
  | .diagnosticNegativeAck => [.acknowledged false (data.getD 12 0)]
  | _ => []

theorem reportApply (type : PayloadType) {data : List UInt8} (enough : 13 ≤ data.length) (s : ClientState) :
    reportAcknowledgement type (Buffer.filled data) s = ⟨acknowledged data type,s,.ok ()⟩ := by
  have code := @loadedAt data 12 (by omega)
  cases type <;> simp [reportAcknowledgement,acknowledged,code]

def RecvResult.bytes : RecvResult → List UInt8
  | .failed => []
  | .delivered bytes _ => bytes

theorem receiveMessageApply (uninit : GenericHeaderAction) {result : RecvResult} (some : result.count ≠ 0)
    (s : ClientState) : DoIPClient.receiveMessage uninit result s =
      ⟨[.recv s.client.sockFd,.displayed result.bytes] ++
        acknowledged (s.receivedData.receive result).bytes (parsedType uninit result),s.receives result,.ok ()⟩ := by
  obtain ⟨action,parsed,type⟩ := deliveryParsed uninit s.receivedData result
  have enough : 13 ≤ (s.receivedData.receive result).bytes.length := by
    rw [(s.receivedData.receive result).size]
    decide
  have shown : (Buffer.filled (s.receivedData.receive result).bytes).contents result.count.toNat =
      .ok result.bytes := by
    cases result with
    | failed =>
      show Buffer.contents _ 0 = .ok []
      rw [Buffer.contents]
    | delivered bytes fits =>
      have front := Buffer.contentsFilled bytes (Buffer.filled (s.receivedData.bytes.drop bytes.length))
      rw [← Buffer.filledAppend] at front
      exact front
  rw [← type]
  simp only [DoIPClient.receiveMessage,Program.bindApply,Program.getApply,Program.emitApply,Program.modifyApply,
    Outcome.andThenOk,Outcome.prependMk,if_neg some,shown,parsed,Program.liftApply,reportApply action.type enough]
  rfl

end LibDoip
