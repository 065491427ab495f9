import LibDoip.GenericHeader
import LibDoip.Library.Program

/-! Diagnostic messages: the check and delivery of a received one, and the messages that are
built. The two address bytes are reached through a pointer; one that was never assigned is
`none`, and reading through it is a fault. -/
namespace LibDoip
open Library

def diagnosticPositiveAckLength : Int := 5
def diagnosticMessageMinimumLength : Int := 4

def validDiagnosticMessageCode : UInt8 := 0x00
def invalidSourceAddressCode : UInt8 := 0x02
def unknownTargetAddressCode : UInt8 := 0x03

abbrev Address := UInt8 × UInt8

def addressAt (pointer : Option Address) : Except Fault Address := match pointer with
  | none => .error .indeterminatePointer
  | some address => .ok address

def copyMessage (data : Option Buffer) (message : Buffer) (i : Nat) : (rounds : Nat) → Except Fault Buffer
  | 0 => .ok message
  | rounds+1 => do
      let v ← Buffer.loadFrom data i
      let message ← message.store (i-4) v
      copyMessage data message (i+1) rounds

def deliverMessage {ω σ : Type} (callback : UInt16 → List UInt8 → Int → Program Fault ω σ Unit)
    (data : Option Buffer) (diagMessageLength : Int) : Program Fault ω σ UInt8 := do
  let d2 ← Program.lift (Buffer.loadFrom data 2)
  let d3 ← Program.lift (Buffer.loadFrom data 3)
  let length := (diagMessageLength - diagnosticMessageMinimumLength).toNat
  let message ← Program.lift (copyMessage data (Buffer.alloc length) 4 length)
  let bytes ← Program.lift (message.contents length)
  callback (bigEndian16 d2 d3) bytes (diagMessageLength - diagnosticMessageMinimumLength)
  pure validDiagnosticMessageCode

def parseDiagnosticMessage {ω σ : Type} (callback : UInt16 → List UInt8 → Int → Program Fault ω σ Unit)
    (sourceAddress : Option Address) (data : Option Buffer) (diagMessageLength : Int) :
    Program Fault ω σ UInt8 :=
  if diagnosticMessageMinimumLength ≤ diagMessageLength then do
    let d0 ← Program.lift (Buffer.loadFrom data 0)
    let registered ← Program.lift (addressAt sourceAddress)
    if d0 ≠ registered.1 then pure invalidSourceAddressCode
    else do
      let d1 ← Program.lift (Buffer.loadFrom data 1)
      if d1 ≠ registered.2 then pure invalidSourceAddressCode
      else deliverMessage callback data diagMessageLength
  else pure unknownTargetAddressCode

def createDiagnosticAck (ackType : Bool) (sourceAddress : UInt16) (targetAddress : Address)
    (responseCode : UInt8) : Except Fault Buffer := do
  let type : PayloadType := if ackType then .diagnosticPositiveAck else .diagnosticNegativeAck
  let message ← createGenericHeader type 5
  message.storeAll 8 [highByte sourceAddress,lowByte sourceAddress,targetAddress.1,targetAddress.2,
    responseCode]

def copyUserData (userData : Buffer) (message : Buffer) (i : Nat) : (rounds : Nat) → Except Fault Buffer
  | 0 => .ok message
  | rounds+1 => do
      let v ← userData.load i
      let index ← addInt 12 i
      let message ← message.store index.toNat v
      copyUserData userData message (i+1) rounds

def createDiagnosticMessage (sourceAddress : UInt16) (targetAddress : Option Address)
    (userData : Buffer) (userDataLength : Int) : Except Fault Buffer := do
  let length ← addInt diagnosticMessageMinimumLength userDataLength
  let message ← createGenericHeader .diagnosticMessage (UInt32.ofNat (intToUnsignedInt length))
  let message ← message.storeAll 8 [highByte sourceAddress,lowByte sourceAddress]
  let target ← addressAt targetAddress
  let message ← message.storeAll 10 [target.1,target.2]
  copyUserData userData message 0 userDataLength.toNat

theorem copiedMessage {bytes : List UInt8} (pre : List UInt8) (rounds : Nat)
    (size : bytes.length = pre.length + 4 + rounds) :
    copyMessage (some (Buffer.filled bytes)) (Buffer.filled pre ++ Buffer.alloc rounds) (pre.length+4)
      rounds = .ok (Buffer.filled (pre ++ bytes.drop (pre.length+4))) := by
  induction rounds generalizing pre with
  | zero =>
    have past : bytes.drop (pre.length+4) = [] := List.drop_eq_nil_iff.mpr (by omega)
    simp [copyMessage,past]
  | succ rounds ih =>
    have bound : pre.length + 4 < bytes.length := by omega
    have loaded : Buffer.loadFrom (some (Buffer.filled bytes)) (pre.length+4) = .ok bytes[pre.length+4] :=
      Buffer.loadFilledOnly bound
    have stored := Buffer.storeNext pre rounds bytes[pre.length+4]
    have rest := ih (pre ++ [bytes[pre.length+4]]) (by simp only [List.length_append,List.length_singleton]; omega)
    rw [List.length_append,List.length_singleton] at rest
    have step : pre.length + 4 + 1 = pre.length + 1 + 4 := by omega
    rw [copyMessage,loaded,okBind,Nat.add_sub_cancel,stored,okBind,step,rest,List.append_assoc,
      List.singleton_append,← step,List.getElem_cons_drop]

theorem copiedUserData {bytes : List UInt8} (pre : List UInt8) (i rounds : Nat)
    (at12 : pre.length = 12 + i) (size : bytes.length = i + rounds) (fits : (12 + bytes.length : Int) ≤ intMax) :
    copyUserData (Buffer.filled bytes) (Buffer.filled pre ++ Buffer.alloc rounds) i rounds =
      .ok (Buffer.filled (pre ++ bytes.drop i)) := by
  induction rounds generalizing pre i with
  | zero =>
    have past : bytes.drop i = [] := List.drop_eq_nil_iff.mpr (by omega)
    simp [copyUserData,past]
  | succ rounds ih =>
    have bound : i < bytes.length := by omega
    have loaded := Buffer.loadFilledOnly bound
    have index : addInt 12 i = .ok (12+i) :=
      addIntOk ⟨by unfold intMin; omega,by omega⟩
    have position : (12 + (i : Int)).toNat = pre.length := by omega
    have stored := Buffer.storeNext pre rounds bytes[i]
    have rest := ih (pre ++ [bytes[i]]) (i+1) (by simp only [List.length_append,List.length_singleton]; omega)
      (by omega)
    rw [copyUserData,loaded,okBind,index,okBind,position,stored,okBind,rest,List.append_assoc,
      List.singleton_append,List.getElem_cons_drop]

def diagnosticAckBytes (ackType : Bool) (sourceAddress : UInt16) (targetAddress : Address)
    (responseCode : UInt8) : List UInt8 :=
  headerBytes 0x80 (if ackType then 0x02 else 0x03) 5 ++ [highByte sourceAddress,
    lowByte sourceAddress,targetAddress.1,targetAddress.2,responseCode]

theorem createdDiagnosticAck (ackType : Bool) (sourceAddress : UInt16) (targetAddress : Address)
    (responseCode : UInt8) :
    createDiagnosticAck ackType sourceAddress targetAddress responseCode =
      .ok (Buffer.filled (diagnosticAckBytes ackType sourceAddress targetAddress responseCode)) := by
  have header : createGenericHeader (if ackType then .diagnosticPositiveAck else .diagnosticNegativeAck) 5 =
      .ok (Buffer.filled (headerBytes 0x80 (if ackType then 0x02 else 0x03) 5) ++ Buffer.alloc 5) := by
    cases ackType <;> exact createdHeader rfl (by decide)
  have body := @storedPayload 0x80 (if ackType then 0x02 else 0x03) 5 [highByte sourceAddress,
    lowByte sourceAddress,targetAddress.1,targetAddress.2,responseCode] 0 rfl
  rw [Buffer.allocZero,List.append_nil] at body
  rw [createDiagnosticAck,header,okBind]
  exact body

/- User data of a length for which none of the sizes computed from it leaves `int`. -/
structure UserData where
  bytes : List UInt8
  fits : bytes.length ≤ 2147483635
  deriving DecidableEq, Repr

def diagnosticMessageBytes (sourceAddress : UInt16) (targetAddress : Address) (data : UserData) :
    List UInt8 :=
  headerBytes 0x80 0x01 (UInt32.ofNat (4 + data.bytes.length)) ++ [highByte sourceAddress,
    lowByte sourceAddress,targetAddress.1,targetAddress.2] ++ data.bytes

theorem diagnosticMessageLength (sourceAddress : UInt16) (targetAddress : Address) (data : UserData) :
    (diagnosticMessageBytes sourceAddress targetAddress data).length = data.bytes.length + 12 := by
  simp only [diagnosticMessageBytes,headerBytes,List.length_append,List.length_cons,List.length_nil]
  omega

theorem diagnosticMessageSize (sourceAddress : UInt16) (targetAddress : Address) (data : UserData) :
    addInt (genericHeaderLength + diagnosticMessageMinimumLength) data.bytes.length =
      .ok (diagnosticMessageBytes sourceAddress targetAddress data).length := by
  have fits := data.fits
  have sum : genericHeaderLength + diagnosticMessageMinimumLength + data.bytes.length =
      (diagnosticMessageBytes sourceAddress targetAddress data).length := by
    rw [diagnosticMessageLength]
    unfold genericHeaderLength diagnosticMessageMinimumLength
    omega
  rw [← sum]
  exact addIntOk ⟨by unfold intMin genericHeaderLength diagnosticMessageMinimumLength; omega,
    by unfold intMax genericHeaderLength diagnosticMessageMinimumLength; omega⟩

theorem startedDiagnosticMessage (sourceAddress : UInt16) (targetAddress : Option Address) (data : UserData) :
    ∃ message : List UInt8, message.length = 10 ∧
      message = headerBytes 0x80 0x01 (UInt32.ofNat (4 + data.bytes.length)) ++
        [highByte sourceAddress,lowByte sourceAddress] ∧
      createDiagnosticMessage sourceAddress targetAddress (Buffer.filled data.bytes) data.bytes.length =
        (do
          let target ← addressAt targetAddress
          let message ← (Buffer.filled message ++ Buffer.alloc (data.bytes.length+2)).storeAll 10
            [target.1,target.2]
          copyUserData (Buffer.filled data.bytes) message 0 data.bytes.length) := by
  have fits := data.fits
  refine ⟨_,rfl,rfl,?_⟩
  unfold createDiagnosticMessage diagnosticMessageMinimumLength
  generalize count : data.bytes.length = n at fits
  have size : addInt 4 n = .ok (4+n) := addIntOk ⟨by unfold intMin; omega,by unfold intMax; omega⟩
  have unsigned : intToUnsignedInt (4+n) = 4+n := by unfold intToUnsignedInt; omega
  have value : (UInt32.ofNat (4+n)).toNat = 4+n := UInt32.toNat_ofNat_of_lt (by show _ < 4294967296; omega)
  have header : createGenericHeader .diagnosticMessage (UInt32.ofNat (4+n)) =
      .ok (Buffer.filled (headerBytes 0x80 0x01 (UInt32.ofNat (4+n))) ++
        Buffer.alloc (UInt32.ofNat (4+n)).toNat) := createdHeader rfl (by omega)
  generalize field : UInt32.ofNat (4+n) = length at header value
  have source := @storedPayload 0x80 0x01 length [highByte sourceAddress,lowByte sourceAddress] (n+2)
    (by rw [value,List.length_cons,List.length_singleton]; omega)
  rw [size,okBind,unsigned,field,header,okBind,source,okBind,Int.toNat_natCast]

theorem createdDiagnosticMessage (sourceAddress : UInt16) (targetAddress : Address) (data : UserData) :
    createDiagnosticMessage sourceAddress (some targetAddress) (Buffer.filled data.bytes) data.bytes.length =
      .ok (Buffer.filled (diagnosticMessageBytes sourceAddress targetAddress data)) := by
  have fits := data.fits
  obtain ⟨message,ten,bytes,started⟩ := startedDiagnosticMessage sourceAddress (some targetAddress) data
  have target : Buffer.storeAll (Buffer.filled message ++ Buffer.alloc (data.bytes.length+2)) 10
      [targetAddress.1,targetAddress.2] =
      .ok (Buffer.filled (message ++ [targetAddress.1,targetAddress.2]) ++ Buffer.alloc data.bytes.length) :=
    Buffer.storeAllNext ten.symm (by rw [List.length_cons,List.length_singleton]; omega)
  have copied := @copiedUserData data.bytes (message ++ [targetAddress.1,targetAddress.2]) 0
    data.bytes.length (by simp [ten]) (by omega) (by unfold intMax; omega)
  rw [started,addressAt,okBind,target,okBind,copied,List.drop_zero,bytes,List.append_assoc (headerBytes _ _ _)]
  rfl

theorem createdWithoutAddress (sourceAddress : UInt16) (data : UserData) :
    createDiagnosticMessage sourceAddress none (Buffer.filled data.bytes) data.bytes.length =
      .error .indeterminatePointer := by
  obtain ⟨message,_,_,started⟩ := startedDiagnosticMessage sourceAddress none data
  rw [started,addressAt,errorBind]

theorem parsedDiagnosticMessage {ω σ : Type} (callback : UInt16 → List UInt8 → Int → Program Fault ω σ Unit)
    (registered : Address) (d0 d1 d2 d3 : UInt8) (data : List UInt8) :
    parseDiagnosticMessage callback (some registered) (some (Buffer.filled (d0::d1::d2::d3::data)))
        (data.length + 4) =
      if registered = (d0,d1) then do
        callback (bigEndian16 d2 d3) data data.length
        pure validDiagnosticMessageCode
      else pure invalidSourceAddressCode := by
  generalize held : some (Buffer.filled (d0::d1::d2::d3::data)) = p
  have l0 : Buffer.loadFrom p 0 = .ok d0 := by subst held; rfl
  have l1 : Buffer.loadFrom p 1 = .ok d1 := by subst held; rfl
  have l2 : Buffer.loadFrom p 2 = .ok d2 := by subst held; rfl
  have l3 : Buffer.loadFrom p 3 = .ok d3 := by subst held; rfl
  have copied : copyMessage p (Buffer.alloc data.length) 4 data.length = .ok (Buffer.filled data) := by
    subst held
    exact copiedMessage [] data.length (by simp only [List.length_cons,List.length_nil]; omega)
  have length : ((data.length : Int) + 4 - diagnosticMessageMinimumLength) = data.length := by
    unfold diagnosticMessageMinimumLength; omega
  have enough : diagnosticMessageMinimumLength ≤ (data.length : Int) + 4 := by
    unfold diagnosticMessageMinimumLength; omega
  have whole : (Buffer.filled data).contents data.length = .ok data := Buffer.contentsExact rfl
  obtain ⟨r0,r1⟩ := registered
  rw [parseDiagnosticMessage,if_pos enough,l0,Program.liftOkBind,addressAt,Program.liftOkBind,l1,
    Program.liftOkBind,deliverMessage,l2,Program.liftOkBind,l3,Program.liftOkBind,length,Int.toNat_natCast]
  dsimp only
  rw [copied,Program.liftOkBind,whole,Program.liftOkBind]
  by_cases h0 : d0 = r0
  · by_cases h1 : d1 = r1
    · rw [if_neg (by simp [h0]),if_neg (by simp [h1]),if_pos (by rw [h0,h1])]
    · rw [if_neg (by simp [h0]),if_pos h1,if_neg (by simp only [Prod.mk.injEq]; exact fun h => h1 h.2.symm)]
  · rw [if_pos h0,if_neg (by simp only [Prod.mk.injEq]; exact fun h => h0 h.1.symm)]

/- A length that does not fit `int` arrives negative and is refused before anything is read. -/
theorem parsedNegativeLength {ω σ : Type} (callback : UInt16 → List UInt8 → Int → Program Fault ω σ Unit)
    (sourceAddress : Option Address) (data : Option Buffer) {diagMessageLength : Int}
    (short : diagMessageLength < 4) :
    parseDiagnosticMessage callback sourceAddress data diagMessageLength = pure unknownTargetAddressCode :=
  if_neg (by unfold diagnosticMessageMinimumLength; omega)

end LibDoip
