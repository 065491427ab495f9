import LibDoip.ClientReceiving
import LibDoip.Server

/-! The way of a vehicle's identity: through the server's setters into a frame, and out of the frame into the
client's members. -/
namespace LibDoip
open Library

structure VehicleIdentity where
  VINString : List UInt8
  inputLogAdd : UInt16
  inputEID : UInt64
  inputGID : UInt64
  inputFAR : UInt32
  deriving DecidableEq, Repr

def VehicleIdentity.settings (i : VehicleIdentity) : List Setting :=
  [.VIN i.VINString,.logicalGatewayAddress i.inputLogAdd,.EID i.inputEID,.GID i.inputGID,.FAR i.inputFAR]

def DoIPServer.configured (v : DoIPServer) (i : VehicleIdentity) : DoIPServer := i.settings.foldl DoIPServer.set v

def bigEndian (bytes : List UInt8) : Nat := bytes.foldl (fun n b => n * 256 + b.toNat) 0

structure CarriedIdentity where
  VIN : List UInt8
  logicalAddress : Nat
  EID : Nat
  GID : Nat
  furtherActionReq : Nat
  deriving DecidableEq, Repr

def VehicleIdentity.normalised (i : VehicleIdentity) : CarriedIdentity :=
  ⟨i.VINString.take 17 ++ List.replicate (17 - i.VINString.length) 0x30,i.inputLogAdd.toNat,
    i.inputEID.toNat % 281474976710656,i.inputGID.toNat % 281474976710656,i.inputFAR.toNat % 256⟩

def VehicleInformation.read (r : VehicleInformation) : CarriedIdentity :=
  ⟨r.VINResult,bigEndian r.logicalAddressResult,bigEndian r.EIDResult,bigEndian r.GIDResult,
    r.furtherActionReqResult.toNat⟩

theorem vinBytesPadded (rounds : Nat) (VIN : List UInt8) :
    vinBytes rounds VIN = VIN.take rounds ++ List.replicate (rounds - VIN.length) 0x30 := by
  induction rounds generalizing VIN with
  | zero => simp [vinBytes]
  | succ rounds ih =>
    cases VIN with
    | nil => simp [vinBytes,ih,List.replicate_succ]
    | cons c rest => simp [vinBytes,ih]

theorem lowestDigit (n k m : Nat) : n / (k * 256) % m * 256 + n / k % 256 = n / k % (256 * m) := by
  rw [← Nat.div_div_eq_div_mul,Nat.mod_mul]
  omega

theorem sixBytesValue (value : UInt64) : bigEndian (sixBytes value).bytes = value.toNat % 281474976710656 := by
  -- From the top: each further byte multiplies the modulus by 256.
  have d4 := lowestDigit value.toNat 4294967296 256
  have d3 := lowestDigit value.toNat 16777216 65536
  have d2 := lowestDigit value.toNat 65536 16777216
  have d1 := lowestDigit value.toNat 256 4294967296
  have d0 := lowestDigit value.toNat 1 1099511627776
  simp only [Nat.reduceMul,Nat.one_mul,Nat.div_one] at d4 d3 d2 d1 d0
  simp only [bigEndian,sixBytes,Identifier.bytes,List.foldl_cons,List.foldl_nil,UInt64.toNat_toUInt8,UInt64.toNat_and,
    UInt64.toNat_shiftRight,UInt64.reduceToNat,Nat.reduceMod,Nat.reducePow,andByte,Nat.shiftRight_eq_div_pow,
    Nat.mod_mod,Nat.zero_mul,Nat.zero_add,d4,d3,d2,d1,d0]

theorem halvesBigEndian (v : UInt16) : bigEndian [highByte v,lowByte v] = v.toNat := by
  have joined := congrArg UInt16.toNat (halvesValue v)
  rw [bigEndian16Value] at joined
  simpa [bigEndian] using joined

theorem lastByte (v : UInt32) : (v &&& 0xFF).toUInt8.toNat = v.toNat % 256 := by
  simp only [UInt32.toNat_toUInt8,UInt32.toNat_and,UInt32.reduceToNat,andByte]
  omega

theorem cutField {before field after : List UInt8} {i n : Nat} (start : before.length = i) (size : field.length = n) :
    ((before ++ (field ++ after)).drop i).take n = field := by
  rw [List.drop_left' start,List.take_left' size]

theorem informationInFields {header name address EID GID : List UInt8} (far : UInt8) (h : header.length = 8)
    (n : name.length = 17) (a : address.length = 2) (e : EID.length = 6) (g : GID.length = 6) :
    informationIn (header ++ name ++ address ++ EID ++ GID ++ [far]) = ⟨name,address,EID,GID,far⟩ := by
  have first := @cutField header name (address ++ (EID ++ (GID ++ [far]))) 8 17 h n
  have second := @cutField (header ++ name) address (EID ++ (GID ++ [far])) 25 2 (by simp [h,n]) a
  have third := @cutField (header ++ name ++ address) EID (GID ++ [far]) 27 6 (by simp [h,n,a]) e
  have fourth := @cutField (header ++ name ++ address ++ EID) GID [far] 33 6 (by simp [h,n,a,e]) g
  have last : (header ++ name ++ address ++ EID ++ GID ++ [far]).getD 39 0 = far := by
    rw [List.getD_eq_getElem?_getD,List.getElem?_append_right (by simp [h,n,a,e,g])]
    simp [h,n,a,e,g]
  simp only [List.append_assoc] at first second third fourth last ⊢
  simp only [informationIn,first,second,third,fourth,last]

def VehicleIdentity.frame (i : VehicleIdentity) : List UInt8 :=
  vehicleIdentificationBytes i.VINString i.inputLogAdd (sixBytes i.inputEID) (sixBytes i.inputGID)
    (i.inputFAR &&& 0xFF).toUInt8

theorem createdForConfigured (v : DoIPServer) (i : VehicleIdentity) :
    identificationResponse (v.configured i) = .ok (Buffer.filled i.frame) :=
  createdVehicleIdentificationResponse _ _ _ _ _

theorem frameRead (i : VehicleIdentity) :
    ∃ information, parseVIResponseInformation (Buffer.filled i.frame) = .ok information ∧
      information.read = i.normalised := by
  have size : i.frame.length = 40 := vehicleIdentificationSize _ _ _ _ _
  have fields := @informationInFields (headerBytes 0x00 0x04 32) (vinBytes 17 i.VINString)
    [highByte i.inputLogAdd,lowByte i.inputLogAdd] (sixBytes i.inputEID).bytes (sixBytes i.inputGID).bytes
    (i.inputFAR &&& 0xFF).toUInt8 rfl (vinBytesLength _ _) rfl rfl rfl
  refine ⟨_,parsedInformation (by omega),?_⟩
  rw [VehicleIdentity.frame,vehicleIdentificationBytes,fields]
  simp only [VehicleInformation.read,VehicleIdentity.normalised,vinBytesPadded,halvesBigEndian,sixBytesValue,lastByte]

theorem frameParsed (uninit : GenericHeaderAction) (i : VehicleIdentity) :
    ∃ value, parseGenericHeader uninit (Buffer.filled i.frame) i.frame.length = .ok ⟨.vehicleIdentResponse,value,32⟩ := by
  have size : i.frame.length = 40 := vehicleIdentificationSize _ _ _ _ _
  have header : Buffer.filled i.frame = Buffer.filled [0x02,0xFD,0x00,0x04,byte3 32,byte2 32,byte1 32,byte0 32] ++
      Buffer.filled (i.frame.drop 8) := by
    rw [← Buffer.filledAppend]
    exact congrArg Buffer.filled (List.take_append_drop 8 i.frame).symm
  rw [size,header,parsedHeader _ _ _ _ _ _ _ _ _ _ (by decide),classifyOwn]
  exact ⟨uninit.value,rfl⟩

theorem identificationRoundTrip (i : VehicleIdentity) (v : DoIPServer) (uninit : GenericHeaderAction) :
    ∃ frame, identificationResponse (v.configured i) = .ok frame ∧ frame.length = 40 ∧
      (∃ action, parseGenericHeader uninit frame frame.length = .ok action ∧ action.type = .vehicleIdentResponse ∧
        action.payloadLength = 32) ∧
      (∃ information, parseVIResponseInformation frame = .ok information ∧ information.read = i.normalised) ∧
      ∀ other w, identificationResponse (DoIPServer.configured w other) = .ok frame → other.normalised = i.normalised := by
  refine ⟨_,createdForConfigured v i,?_,?_,frameRead i,fun other w same => ?_⟩
  · rw [Buffer.filledLength]
    exact vehicleIdentificationSize _ _ _ _ _
  · obtain ⟨value,parsed⟩ := frameParsed uninit i
    rw [Buffer.filledLength]
    exact ⟨_,parsed,rfl,rfl⟩
  · rw [createdForConfigured] at same
    obtain ⟨information,parsed,read⟩ := frameRead i
    obtain ⟨information',parsed',read'⟩ := frameRead other
    rw [Except.ok.inj same] at parsed'
    cases parsed.symm.trans parsed'
    exact read'.symm.trans read

end LibDoip
