import LibDoip.GenericHeader

/-! `createVehicleIdentificationResponse`, for responses and announcements alike. -/
namespace LibDoip
open Library

def viResponseLength : Int := 32

structure Identifier where
  b0 : UInt8
  b1 : UInt8
  b2 : UInt8
  b3 : UInt8
  b4 : UInt8
  b5 : UInt8
  deriving DecidableEq, Repr

def Identifier.bytes (id : Identifier) : List UInt8 := [id.b0,id.b1,id.b2,id.b3,id.b4,id.b5]

-- A shorter VIN is padded with ASCII '0'.
def vinBytes : (rounds : Nat) → (VIN : List UInt8) → List UInt8
  | 0, _ => []
  | rounds+1, [] => 0x30::vinBytes rounds []
  | rounds+1, c::rest => c::vinBytes rounds rest

def createVehicleIdentificationResponse (VIN : List UInt8) (logicalAddress : UInt16) (EID GID : Identifier)
    (furtherActionReq : UInt8) : Except Fault Buffer := do
  let message ← createGenericHeader .vehicleIdentResponse 32
  let message ← message.storeAll 8 (vinBytes 17 VIN)
  let message ← message.storeAll 25 [highByte logicalAddress,lowByte logicalAddress]
  let message ← message.storeAll 27 EID.bytes
  let message ← message.storeAll 33 GID.bytes
  message.store 39 furtherActionReq

theorem vinBytesLength (rounds : Nat) (VIN : List UInt8) : (vinBytes rounds VIN).length = rounds := by
  induction rounds generalizing VIN with
  | zero => rfl
  | succ rounds ih => cases VIN <;> simp [vinBytes,ih]

def vehicleIdentificationBytes (VIN : List UInt8) (logicalAddress : UInt16) (EID GID : Identifier)
    (furtherActionReq : UInt8) : List UInt8 :=
  headerBytes 0x00 0x04 32 ++ vinBytes 17 VIN ++ [highByte logicalAddress,lowByte logicalAddress] ++
    EID.bytes ++ GID.bytes ++ [furtherActionReq]

theorem vehicleIdentificationSize (VIN : List UInt8) (logicalAddress : UInt16) (EID GID : Identifier)
    (furtherActionReq : UInt8) :
    (vehicleIdentificationBytes VIN logicalAddress EID GID furtherActionReq).length = 40 := by
  simp [vehicleIdentificationBytes,Identifier.bytes,vinBytesLength]

theorem createdVehicleIdentificationResponse (VIN : List UInt8) (logicalAddress : UInt16)
    (EID GID : Identifier) (furtherActionReq : UInt8) :
    createVehicleIdentificationResponse VIN logicalAddress EID GID furtherActionReq =
      .ok (Buffer.filled (vehicleIdentificationBytes VIN logicalAddress EID GID furtherActionReq)) := by
  have vin := vinBytesLength 17 VIN
  rw [createVehicleIdentificationResponse,vehicleIdentificationBytes]
  generalize vinBytes 17 VIN = name at vin ⊢
  have header := @createdHeader .vehicleIdentResponse 0x00 0x04 32 rfl (by decide)
  have named := @storedPayload 0x00 0x04 32 name 15 (by rw [vin]; rfl)
  have addressed := @Buffer.storeAllNext (headerBytes 0x00 0x04 32 ++ name)
    [highByte logicalAddress,lowByte logicalAddress] 25 15 13 (by simp [vin]) rfl
  have entity := @Buffer.storeAllNext (headerBytes 0x00 0x04 32 ++ name ++
    [highByte logicalAddress,lowByte logicalAddress]) EID.bytes 27 13 7 (by simp [vin]) rfl
  have group := @Buffer.storeAllNext (headerBytes 0x00 0x04 32 ++ name ++
    [highByte logicalAddress,lowByte logicalAddress] ++ EID.bytes) GID.bytes 33 7 1
    (by simp [vin,Identifier.bytes]) rfl
  have position : (headerBytes 0x00 0x04 32 ++ name ++ [highByte logicalAddress,lowByte logicalAddress] ++
    EID.bytes ++ GID.bytes).length = 39 := by simp [vin,Identifier.bytes]
  have last := Buffer.storeNext (headerBytes 0x00 0x04 32 ++ name ++
    [highByte logicalAddress,lowByte logicalAddress] ++ EID.bytes ++ GID.bytes) 0 furtherActionReq
  rw [position,Buffer.allocZero,List.append_nil] at last
  rw [header,okBind,named,okBind,addressed,okBind,entity,okBind,group,okBind,last]

end LibDoip
