import LibDoip.GenericHeader

/-! The routing activation handler: the check of a request and the response to it. -/
namespace LibDoip
open Library

def activationResponseLength : Int := 9

def unknownSourceAddressCode : UInt8 := 0x00
def unsupportedRoutingTypeCode : UInt8 := 0x06
def successfullyRoutedCode : UInt8 := 0x10

def minAddress : Nat := 3584
def maxAddress : Nat := 4095

-- The loop over the valid addresses, from `i` on for the given number of rounds.
def searchAddress (address i : Nat) : (rounds : Nat) → Bool
  | 0 => false
  | rounds+1 => if address = i then true else searchAddress address (i+1) rounds

def checkSourceAddress (address : UInt32) : Bool :=
  searchAddress address.toNat minAddress (maxAddress + 1 - minAddress)

def parseRoutingActivation (data : Option Buffer) : Except Fault UInt8 := do
  let d0 ← Buffer.loadFrom data 0
  let d1 ← Buffer.loadFrom data 1
  let address := (d0.toUInt32 <<< 8) ||| d1.toUInt32
  if checkSourceAddress address = false then .ok unknownSourceAddressCode
  else
    let d2 ← Buffer.loadFrom data 2
    if d2 = 0x00 ∨ d2 = 0x01 then .ok successfullyRoutedCode
    else .ok unsupportedRoutingTypeCode

def createRoutingActivationResponse (sourceAddress : UInt16) (clientAddress : UInt8 × UInt8)
    (responseCode : UInt8) : Except Fault Buffer := do
  let message ← createGenericHeader .routingActivationResponse 9
  message.storeAll 8 [clientAddress.1,clientAddress.2,highByte sourceAddress,lowByte sourceAddress,
    responseCode,0x00,0x00,0x00,0x00]

theorem searchAddressExact (address i rounds : Nat) :
    searchAddress address i rounds = true ↔ i ≤ address ∧ address < i + rounds := by
  induction rounds generalizing i with
  | zero =>
    simp only [searchAddress,Bool.false_eq_true,false_iff]
    omega
  | succ rounds ih =>
    simp only [searchAddress]
    split
    · constructor
      · intro _; omega
      · intro _; rfl
    · rw [ih (i+1)]; omega

theorem checkSourceAddressExact (address : UInt32) :
    checkSourceAddress address = true ↔ 0x0E00 ≤ address.toNat ∧ address.toNat ≤ 0x0FFF := by
  rw [checkSourceAddress,searchAddressExact]
  unfold minAddress maxAddress
  omega

theorem requestAddressValue (d0 d1 : UInt8) :
    ((d0.toUInt32 <<< 8) ||| d1.toUInt32).toNat = d0.toNat * 256 + d1.toNat := by
  have h0 := d0.toNat_lt
  have h1 := d1.toNat_lt
  have shifted : d0.toNat <<< 8 % 4294967296 = d0.toNat <<< 8 := by rw [Nat.shiftLeft_eq]; omega
  have join : d0.toNat <<< 8 ||| d1.toNat = d0.toNat * 256 + d1.toNat := orShift h1
  simp only [UInt32.toNat_or,UInt32.toNat_shiftLeft,UInt8.toNat_toUInt32,UInt32.reduceToNat,
    Nat.reduceMod,Nat.reducePow,shifted,join]

def activationCode (d0 d1 d2 : UInt8) : UInt8 :=
  if d0.toNat * 256 + d1.toNat < 0x0E00 ∨ 0x0FFF < d0.toNat * 256 + d1.toNat then unknownSourceAddressCode
  else if d2 = 0x00 ∨ d2 = 0x01 then successfullyRoutedCode
  else unsupportedRoutingTypeCode

theorem parsedRoutingActivation (d0 d1 d2 : UInt8) (rest : List UInt8) :
    parseRoutingActivation (some (Buffer.filled (d0::d1::d2::rest))) = .ok (activationCode d0 d1 d2) := by
  have l0 : Buffer.loadFrom (some (Buffer.filled (d0::d1::d2::rest))) 0 = .ok d0 := rfl
  have l1 : Buffer.loadFrom (some (Buffer.filled (d0::d1::d2::rest))) 1 = .ok d1 := rfl
  have l2 : Buffer.loadFrom (some (Buffer.filled (d0::d1::d2::rest))) 2 = .ok d2 := rfl
  have known := checkSourceAddressExact ((d0.toUInt32 <<< 8) ||| d1.toUInt32)
  rw [requestAddressValue] at known
  simp only [parseRoutingActivation,l0,l1,l2,okBind,activationCode]
  by_cases h : checkSourceAddress ((d0.toUInt32 <<< 8) ||| d1.toUInt32) = true
  · have inside := known.mp h
    have notFalse : ¬ checkSourceAddress ((d0.toUInt32 <<< 8) ||| d1.toUInt32) = false := by simp [h]
    have notOutside : ¬ (d0.toNat * 256 + d1.toNat < 0x0E00 ∨ 0x0FFF < d0.toNat * 256 + d1.toNat) := by
      omega
    rw [if_neg notFalse,if_neg notOutside]
    split <;> rfl
  · have outside : d0.toNat * 256 + d1.toNat < 0x0E00 ∨ 0x0FFF < d0.toNat * 256 + d1.toNat := by
      have := mt known.mpr h
      omega
    rw [if_pos (by simpa using h),if_pos outside]

def activationResponseBytes (sourceAddress : UInt16) (clientAddress : UInt8 × UInt8)
    (responseCode : UInt8) : List UInt8 :=
  headerBytes 0x00 0x06 9 ++ [clientAddress.1,clientAddress.2,highByte sourceAddress,
    lowByte sourceAddress,responseCode,0x00,0x00,0x00,0x00]

theorem createdActivationResponse (sourceAddress : UInt16) (clientAddress : UInt8 × UInt8)
    (responseCode : UInt8) :
    createRoutingActivationResponse sourceAddress clientAddress responseCode =
      .ok (Buffer.filled (activationResponseBytes sourceAddress clientAddress responseCode)) := by
  have header := @createdHeader .routingActivationResponse 0x00 0x06 9 rfl (by decide)
  have body := @storedPayload 0x00 0x06 9 [clientAddress.1,clientAddress.2,highByte sourceAddress,
    lowByte sourceAddress,responseCode,0x00,0x00,0x00,0x00] 0 rfl
  rw [Buffer.allocZero,List.append_nil] at body
  rw [createRoutingActivationResponse,header,okBind,body,activationResponseBytes]

def routedBy : List UInt8 → Option (UInt8 × UInt8)
  | _::_::h2::h3::_::_::_::_::c0::c1::_::_::code::_ =>
      if h2 = 0x00 ∧ h3 = 0x06 ∧ code = successfullyRoutedCode then some (c0,c1) else none
  | _ => none

theorem routedByResponse (sourceAddress : UInt16) (clientAddress : UInt8 × UInt8) (responseCode : UInt8) :
    routedBy (activationResponseBytes sourceAddress clientAddress responseCode) =
      if responseCode = successfullyRoutedCode then some clientAddress else none := by
  simp [routedBy,activationResponseBytes,headerBytes]

end LibDoip
