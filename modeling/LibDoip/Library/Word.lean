import LibDoip.Library.Memory

/-! Integers of a 64-bit C++ program: `int` and `unsigned int` of 32 bits, `unsigned long` of 64.
Values are mathematical integers, the conversions between the types are explicit, and a signed
addition that leaves `int` is a fault. Big-endian fields are assembled and cut with shifts. -/
namespace LibDoip.Library

def intMax : Int := 2147483647
def intMin : Int := -2147483648

def FitsInt (i : Int) : Prop := intMin ≤ i ∧ i ≤ intMax
instance (i) : Decidable (FitsInt i) := by unfold FitsInt; infer_instance

def addInt (a b : Int) : Except Fault Int :=
  if FitsInt (a+b) then .ok (a+b) else .error .signedOverflow

-- An unsigned value stored in an `int` keeps its low 32 bits, read as two's complement.
def toInt (n : Nat) : Int :=
  if n % 4294967296 < 2147483648 then (n % 4294967296 : Nat) else (n % 4294967296 : Nat) - 4294967296

def toUnsignedInt (n : Nat) : Nat := n % 4294967296

-- An `int` stored in an unsigned type is reduced modulo that type's size.
def intToUnsignedInt (i : Int) : Nat := (i % 4294967296).toNat
def intToUnsignedLong (i : Int) : Nat := (i % 18446744073709551616).toNat

-- `n += i` and `n -= i` of an `unsigned long`: the `int` is converted first and the result wraps.
def addToUnsignedLong (n : Nat) (i : Int) : Nat := intToUnsignedLong (n + intToUnsignedLong i)
def subtractFromUnsignedLong (n : Nat) (i : Int) : Nat := intToUnsignedLong (n - intToUnsignedLong i)

theorem toIntSmall {n : Nat} (h : n < 2147483648) : toInt n = n := by
  unfold toInt
  have small : n % 4294967296 = n := Nat.mod_eq_of_lt (by omega)
  rw [small,if_pos h]

theorem toIntLarge {n : Nat} (low : 2147483648 ≤ n) (high : n < 4294967296) : toInt n = n - 4294967296 := by
  unfold toInt
  have same : n % 4294967296 = n := Nat.mod_eq_of_lt high
  rw [same,if_neg (by omega)]

theorem toUnsignedIntSmall {n : Nat} (h : n < 4294967296) : toUnsignedInt n = n := Nat.mod_eq_of_lt h

theorem intToUnsignedLongSmall {i : Int} (low : 0 ≤ i) (high : i < 18446744073709551616) :
    intToUnsignedLong i = i.toNat := by
  rw [intToUnsignedLong,Int.emod_eq_of_lt low high]

theorem addToUnsignedLongExact {n : Nat} {i : Int} (low : 0 ≤ i) (high : n + i < 18446744073709551616) :
    addToUnsignedLong n i = n + i.toNat := by
  rw [addToUnsignedLong,intToUnsignedLongSmall low (by omega),intToUnsignedLongSmall (by omega) (by omega)]
  omega

theorem subtractFromUnsignedLongExact {n : Nat} {i : Int} (low : 0 ≤ i) (high : i ≤ n)
    (bound : n < 18446744073709551616) : subtractFromUnsignedLong n i = n - i.toNat := by
  rw [subtractFromUnsignedLong,intToUnsignedLongSmall low (by omega),
    intToUnsignedLongSmall (by omega) (by omega)]
  omega

theorem addIntOk {a b : Int} (h : FitsInt (a+b)) : addInt a b = .ok (a+b) := if_pos h

def bigEndian16 (hi lo : UInt8) : UInt16 := (hi.toUInt16 <<< 8) ||| lo.toUInt16

def bigEndian32 (a b c d : UInt8) : UInt32 :=
  (a.toUInt32 <<< 24) ||| (b.toUInt32 <<< 16) ||| (c.toUInt32 <<< 8) ||| d.toUInt32

def highByte (v : UInt16) : UInt8 := ((v >>> 8) &&& 0xFF).toUInt8
def lowByte (v : UInt16) : UInt8 := (v &&& 0xFF).toUInt8

def byte3 (v : UInt32) : UInt8 := ((v >>> 24) &&& 0xFF).toUInt8
def byte2 (v : UInt32) : UInt8 := ((v >>> 16) &&& 0xFF).toUInt8
def byte1 (v : UInt32) : UInt8 := ((v >>> 8) &&& 0xFF).toUInt8
def byte0 (v : UInt32) : UInt8 := (v &&& 0xFF).toUInt8

theorem orShift {a b k : Nat} (small : b < 1 <<< k) : a <<< k ||| b = a * 1 <<< k + b := by
  rw [Nat.one_shiftLeft] at small ⊢
  rw [← Nat.shiftLeft_add_eq_or_of_lt small,Nat.shiftLeft_eq]

theorem bigEndian16Value (hi lo : UInt8) : (bigEndian16 hi lo).toNat = hi.toNat * 256 + lo.toNat := by
  have h := hi.toNat_lt
  have l := lo.toNat_lt
  have join : hi.toNat <<< 8 ||| lo.toNat = hi.toNat * 256 + lo.toNat := orShift l
  have shifted : hi.toNat <<< 8 % 65536 = hi.toNat <<< 8 := by rw [Nat.shiftLeft_eq]; omega
  simp only [bigEndian16,UInt16.toNat_or,UInt16.toNat_shiftLeft,UInt8.toNat_toUInt16]
  simpa [shifted] using join

theorem bigEndian32Value (a b c d : UInt8) :
    (bigEndian32 a b c d).toNat = a.toNat * 16777216 + b.toNat * 65536 + c.toNat * 256 + d.toNat := by
  have ha := a.toNat_lt
  have hb := b.toNat_lt
  have hc := c.toNat_lt
  have hd := d.toNat_lt
  have sa : a.toNat <<< 24 % 4294967296 = a.toNat <<< 24 := by rw [Nat.shiftLeft_eq]; omega
  have sb : b.toNat <<< 16 % 4294967296 = b.toNat <<< 16 := by rw [Nat.shiftLeft_eq]; omega
  have sc : c.toNat <<< 8 % 4294967296 = c.toNat <<< 8 := by rw [Nat.shiftLeft_eq]; omega
  -- Joined from the low end: each field fits below the shift of the next one.
  have low : c.toNat <<< 8 ||| d.toNat = c.toNat * 256 + d.toNat := orShift hd
  have middle : b.toNat <<< 16 ||| (c.toNat * 256 + d.toNat) =
      b.toNat * 65536 + (c.toNat * 256 + d.toNat) := orShift (by rw [Nat.one_shiftLeft]; omega)
  have high : a.toNat <<< 24 ||| (b.toNat * 65536 + (c.toNat * 256 + d.toNat)) =
      a.toNat * 16777216 + (b.toNat * 65536 + (c.toNat * 256 + d.toNat)) :=
    orShift (by rw [Nat.one_shiftLeft]; omega)
  simp only [bigEndian32,UInt32.toNat_or,UInt32.toNat_shiftLeft,UInt8.toNat_toUInt32]
  simp only [UInt32.reduceToNat,Nat.reduceMod,Nat.reducePow,sa,sb,sc,Nat.or_assoc,low,middle,high]
  omega

theorem andByte (n : Nat) : n &&& 255 = n % 256 := Nat.and_two_pow_sub_one_eq_mod n 8

theorem bytesValue (v : UInt32) : bigEndian32 (byte3 v) (byte2 v) (byte1 v) (byte0 v) = v := by
  have bound : v.toNat < 4294967296 := v.toNat_lt
  apply UInt32.toNat_inj.mp
  rw [bigEndian32Value]
  simp only [byte3,byte2,byte1,byte0,UInt32.toNat_toUInt8,UInt32.toNat_and,UInt32.toNat_shiftRight,
    UInt32.reduceToNat,Nat.reduceMod,Nat.reducePow,andByte,Nat.shiftRight_eq_div_pow]
  omega

theorem halvesValue (v : UInt16) : bigEndian16 (highByte v) (lowByte v) = v := by
  have bound : v.toNat < 65536 := v.toNat_lt
  apply UInt16.toNat_inj.mp
  rw [bigEndian16Value]
  simp only [highByte,lowByte,UInt16.toNat_toUInt8,UInt16.toNat_and,UInt16.toNat_shiftRight,
    UInt16.reduceToNat,Nat.reduceMod,Nat.reducePow,andByte,Nat.shiftRight_eq_div_pow]
  omega

end LibDoip.Library
