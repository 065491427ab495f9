import LibDoip.Client
import LibDoip.Run

/-! The sizes that are computed for a message, in `uint32_t`, in `int` and as what is allocated. None of
them is checked, and each is exact up to a bound of its own. -/
namespace LibDoip
open Library
variable {σ : Type}

def HeaderExact (type : PayloadType) (length : UInt32) : Prop :=
  ∃ header, createGenericHeader type length = .ok header ∧ header.length = 8 + length.toNat

def fillDiagnosticMessage (sourceAddress : UInt16) (targetAddress : Option Address) (userData : Buffer) (rounds : Nat)
    (message : Buffer) : Except Fault Buffer := do
  let message ← message.storeAll 8 [highByte sourceAddress,lowByte sourceAddress]
  let target ← addressAt targetAddress
  let message ← message.storeAll 10 [target.1,target.2]
  copyUserData userData message 0 rounds

/- The size for a payload of `n` bytes is 4 + n, the header is made for it, and the function goes on with that. -/
structure MessageSizeExact (n : Nat) : Prop where
  sum : addInt diagnosticMessageMinimumLength n = .ok (4 + n)
  message : ∃ header, createGenericHeader .diagnosticMessage (UInt32.ofNat (4 + n)) = .ok header ∧
    header.length = 8 + (4 + n) ∧ ∀ sourceAddress targetAddress userData,
      createDiagnosticMessage sourceAddress targetAddress userData n =
        fillDiagnosticMessage sourceAddress targetAddress userData n header

def PayloadSentWhole (sourceAddress : UInt16) (data : List UInt8) (s : State σ) : Prop := ∃ bytes,
  createDiagnosticMessage sourceAddress s.connection.routedClientAddress (Buffer.filled data) data.length =
    .ok (Buffer.filled bytes) ∧
  bytes.length = 12 + data.length ∧
  Sends s bytes (sendDiagnosticPayload sourceAddress (Buffer.filled data) data.length s)

def RequestSentWhole (targetAddress : Address) (data : List UInt8) (c : DoIPClient) : Prop := ∃ bytes,
  createDiagnosticMessage 0x0E00 (some targetAddress) (Buffer.filled data) data.length = .ok (Buffer.filled bytes) ∧
  bytes.length = 12 + data.length ∧
  sendDiagnosticMessage targetAddress (Buffer.filled data) data.length c = ⟨[⟨c.sockFd,bytes⟩],c,.ok ()⟩

theorem storeLength {b c : Buffer} {i : Nat} {v : UInt8} (ok : b.store i v = .ok c) : c.length = b.length := by
  unfold Buffer.store at ok
  split at ok
  · cases ok
    exact List.length_set
  · contradiction

theorem storeAllLength {b c : Buffer} {i : Nat} {vs : List UInt8} (ok : b.storeAll i vs = .ok c) :
    c.length = b.length := by
  induction vs generalizing b i with
  | nil =>
    cases ok
    rfl
  | cons v vs ih =>
    obtain ⟨d,first,rest⟩ := okOfBind ok
    exact (ih rest).trans (storeLength first)

theorem stored {b : Buffer} {i : Nat} (inside : i < b.length) (v : UInt8) :
    ∃ c, b.store i v = .ok c ∧ c.length = b.length := ⟨_,if_pos inside,List.length_set⟩

theorem storedAll {b : Buffer} {i : Nat} {vs : List UInt8} (inside : i + vs.length ≤ b.length) :
    ∃ c, b.storeAll i vs = .ok c ∧ c.length = b.length := by
  induction vs generalizing b i with
  | nil => exact ⟨b,rfl,rfl⟩
  | cons v vs ih =>
    rw [List.length_cons] at inside
    obtain ⟨c,first,same⟩ := @stored b i (by omega) v
    obtain ⟨d,rest,kept⟩ := @ih c (i+1) (by omega)
    exact ⟨d,by rw [Buffer.storeAll,first,okBind,rest],kept.trans same⟩

theorem payloadTypeBytesLength (type : PayloadType) : (payloadTypeBytes type).length ≤ 2 := by
  cases type <;> decide

theorem createdInside (type : PayloadType) {length : UInt32} (enough : 8 ≤ (8 + length).toNat) :
    ∃ header, createGenericHeader type length = .ok header ∧ header.length = (8 + length).toNat := by
  have allocated := Buffer.allocLength (8 + length).toNat
  have code := payloadTypeBytesLength type
  obtain ⟨b,s0,l0⟩ := @stored (Buffer.alloc (8 + length).toNat) 0 (by omega) 0x02
  obtain ⟨c,s1,l1⟩ := @stored b 1 (by omega) 0xFD
  obtain ⟨d,s2,l2⟩ := @storedAll c 2 (payloadTypeBytes type) (by omega)
  obtain ⟨e,s4,l4⟩ := @stored d 4 (by omega) (byte3 length)
  obtain ⟨f,s5,l5⟩ := @stored e 5 (by omega) (byte2 length)
  obtain ⟨g,s6,l6⟩ := @stored f 6 (by omega) (byte1 length)
  obtain ⟨h,s7,l7⟩ := @stored g 7 (by omega) (byte0 length)
  refine ⟨h,?_,by omega⟩
  simp only [createGenericHeader,s0,s1,s2,s4,s5,s6,s7,okBind]

theorem createdLength {type : PayloadType} {length : UInt32} {header : Buffer}
    (ok : createGenericHeader type length = .ok header) : header.length = (8 + length).toNat := by
  obtain ⟨b,s0,ok⟩ := okOfBind ok
  obtain ⟨c,s1,ok⟩ := okOfBind ok
  obtain ⟨d,s2,ok⟩ := okOfBind ok
  obtain ⟨e,s4,ok⟩ := okOfBind ok
  obtain ⟨f,s5,ok⟩ := okOfBind ok
  obtain ⟨g,s6,s7⟩ := okOfBind ok
  rw [storeLength s7,storeLength s6,storeLength s5,storeLength s4,storeAllLength s2,storeLength s1,storeLength s0,
    Buffer.allocLength]

theorem headerExact (type : PayloadType) (length : UInt32) :
    HeaderExact type length ↔ length.toNat < 4294967288 := by
  have bound := length.toNat_lt
  have sum : (8 + length).toNat = (8 + length.toNat) % 4294967296 := UInt32.toNat_add 8 length
  constructor
  · rintro ⟨header,created,exact⟩
    rw [createdLength created] at exact
    omega
  · intro fits
    have whole := allocatedSize fits
    obtain ⟨header,created,size⟩ := @createdInside type length (by omega)
    exact ⟨header,created,by omega⟩

theorem addIntExact {a : Int} (n : Nat) (positive : 0 ≤ a) : addInt a n = .ok (a + n) ↔ a + n ≤ 2147483647 := by
  constructor
  · intro ok
    unfold addInt at ok
    split at ok
    · rename_i fits
      exact fits.2
    · contradiction
  · exact fun fits => addIntOk ⟨by unfold intMin; omega,fits⟩

theorem addIntFails {a : Int} {n : Nat} (large : 2147483647 < a + n) : addInt a n = .error .signedOverflow :=
  if_neg (fun fits => absurd fits.2 (by unfold intMax; omega))

theorem messageSizeExact (n : Nat) : MessageSizeExact n ↔ n ≤ 2147483643 := by
  have exact := @addIntExact diagnosticMessageMinimumLength n (by decide)
  unfold diagnosticMessageMinimumLength at exact
  constructor
  · intro sized
    have fits := exact.mp sized.sum
    omega
  · intro fits
    have size : addInt diagnosticMessageMinimumLength n = .ok (4 + n) := exact.mpr (by omega)
    have value : (UInt32.ofNat (4+n)).toNat = 4+n := UInt32.toNat_ofNat_of_lt (by show _ < 4294967296; omega)
    obtain ⟨header,created,whole⟩ := (headerExact .diagnosticMessage (UInt32.ofNat (4+n))).mpr (by omega)
    refine ⟨size,header,created,by omega,fun sourceAddress targetAddress userData => ?_⟩
    have unsigned : intToUnsignedInt (4+n) = 4+n := by unfold intToUnsignedInt; omega
    rw [createDiagnosticMessage,size,okBind,unsigned,created,okBind,Int.toNat_natCast]
    rfl

theorem sizeOverflows {data : List UInt8} (large : 2147483635 < data.length) :
    addInt (genericHeaderLength + diagnosticMessageMinimumLength) data.length = .error .signedOverflow :=
  addIntFails (by unfold genericHeaderLength diagnosticMessageMinimumLength; omega)

theorem payloadSentWhole (sourceAddress : UInt16) (data : List UInt8) (registered : Address) (s : State σ) :
    PayloadSentWhole sourceAddress data (s.register registered) ↔ data.length ≤ 2147483635 := by
  constructor
  · rintro ⟨bytes,created,_,sends⟩
    refine Decidable.byContradiction (fun large => ?_)
    have overflows := @sizeOverflows data (by omega)
    rw [sendDiagnosticPayload,Program.bindApply,connectionApply,Outcome.andThenOk,Outcome.prependNil,created,
      Program.liftOkBind,overflows,Program.liftErrorBind] at sends
    cases sends
  · intro fits
    refine ⟨diagnosticMessageBytes sourceAddress registered ⟨data,fits⟩,?_,?_,?_⟩
    · exact createdDiagnosticMessage sourceAddress registered ⟨data,fits⟩
    · rw [diagnosticMessageLength,Nat.add_comm]
    · exact sendDiagnosticPayloadSends sourceAddress ⟨data,fits⟩ rfl

theorem requestSentWhole (targetAddress : Address) (data : List UInt8) (c : DoIPClient) :
    RequestSentWhole targetAddress data c ↔ data.length ≤ 2147483635 := by
  constructor
  · rintro ⟨bytes,created,_,sends⟩
    refine Decidable.byContradiction (fun large => ?_)
    have overflows := @sizeOverflows data (by omega)
    rw [sendDiagnosticMessage,created,Program.liftOkBind,overflows,Program.liftErrorBind] at sends
    cases sends
  · intro fits
    refine ⟨diagnosticMessageBytes 0x0E00 targetAddress ⟨data,fits⟩,?_,?_,?_⟩
    · exact createdDiagnosticMessage 0x0E00 targetAddress ⟨data,fits⟩
    · rw [diagnosticMessageLength,Nat.add_comm]
    · exact sendDiagnosticMessageWrites targetAddress ⟨data,fits⟩ c

theorem frameSizes : (∀ type length, HeaderExact type length ↔ length.toNat < 4294967288) ∧
    (∀ n, MessageSizeExact n ↔ n ≤ 2147483643) ∧
    (∀ sourceAddress data registered (s : State σ),
      PayloadSentWhole sourceAddress data (s.register registered) ↔ data.length ≤ 2147483635) ∧
    ∀ targetAddress data c, RequestSentWhole targetAddress data c ↔ data.length ≤ 2147483635 :=
  ⟨headerExact,messageSizeExact,payloadSentWhole,requestSentWhole⟩

/- A payload of 2147483636 bytes from the application, and a header that declares 4294967292. -/
theorem frameSizesWrap : ¬ (∀ (data : List UInt8), (data.length : Int) ≤ intMax →
      PayloadSentWhole 0x0E80 data ((State.opened none).register (0x0E,0x00))) ∧
    ¬ ∀ type length, HeaderExact type length := by
  constructor
  · intro stated
    obtain ⟨data,length⟩ : ∃ data : List UInt8, data.length = 2147483636 := ⟨List.replicate _ 0,List.length_replicate⟩
    have fits := (payloadSentWhole _ _ _ _).mp (stated data (by unfold intMax; omega))
    omega
  · intro stated
    have fits := (headerExact _ _).mp (stated .diagnosticMessage 4294967292)
    exact absurd fits (by decide)

end LibDoip
