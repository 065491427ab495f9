import LibDoip.Dispatch
import LibDoip.Library.Loop

/-! The read loop of `receiveFixedNumberOfBytesFromTcpOrTls`, pass by pass, with the `unsigned long` counters of the
code. Wherever it stands, what has been received fills the array from index 0 on and the counters
add up; it comes to an end, and the loop of the model ends there too. -/
namespace LibDoip
open Library Relation
variable {σ : Type}

def readEvent (c : DoIPConnection) (requested : Nat) : Event := match c.ssl with
  | some ssl => .sslRead ssl (toInt requested)
  | none => .recv c.clientSock requested

def transportRead (c : DoIPConnection) (requested : Nat) (inbox : List Arrival) : ReadResult := match c.ssl with
  | some _ => sslRead (toInt requested) inbox
  | none => recv requested inbox

/- The requests that the transport does not refuse: `SSL_read` takes an `int`. -/
def Readable (c : DoIPConnection) (requested : Nat) : Prop := c.ssl = none ∨ requested < 2147483648

theorem readSomeApply (requested : Nat) (inbox : List Arrival) (s : State σ) :
    readSome requested inbox s = ⟨[readEvent s.connection requested],s,
      .ok (transportRead s.connection requested inbox)⟩ := by
  unfold readSome readEvent transportRead
  rw [Program.bindApply,connectionApply,Outcome.andThenOk,Outcome.prependNil]
  cases s.connection.ssl <;> rfl

theorem transportReadReads {c : DoIPConnection} {requested : Nat} (readable : Readable c requested)
    (positive : 0 < requested) (inbox : List Arrival) :
    transportRead c requested inbox = Inbox.read (min requested 2147483647) inbox := by
  unfold transportRead
  cases tls : c.ssl with
  | none => rfl
  | some ssl =>
    have small : requested < 2147483648 := readable.resolve_left (by simp [tls])
    have count := toIntSmall small
    have accepted : ¬ toInt requested ≤ 0 := by omega
    have limit : (toInt requested).toNat = min requested 2147483647 := by omega
    simp only [sslRead,if_neg accepted,limit]

theorem transportReadDelivers {c : DoIPConnection} {requested : Nat} (readable : Readable c requested)
    (positive : 0 < requested) {inbox : List Arrival} (more : Inbox.stream inbox ≠ []) :
    Inbox.Delivered requested inbox (transportRead c requested inbox) := by
  rw [transportReadReads readable positive]
  have limited := @Inbox.readDelivers (min requested 2147483647) (by omega) inbox more
  exact ⟨limited.count,limited.some,Nat.le_trans limited.bound (Nat.min_le_left _ _),limited.next⟩

theorem transportReadEnded (c : DoIPConnection) (requested : Nat) {inbox : List Arrival}
    (ended : Inbox.stream inbox = []) : (transportRead c requested inbox).count ≤ 0 := by
  unfold transportRead
  split
  · unfold sslRead
    split
    · exact Int.negSucc_le_zero 0
    · exact Inbox.readEnded ended
  · exact Inbox.readEnded ended

theorem transportReadRefused {c : DoIPConnection} {requested : Nat} (refused : ¬ Readable c requested)
    (bound : requested < 4294967296) (inbox : List Arrival) :
    (transportRead c requested inbox).count ≤ 0 := by
  have tls : c.ssl ≠ none := fun plain => refused (Or.inl plain)
  have large : ¬ requested < 2147483648 := fun small => refused (Or.inr small)
  have negative : toInt requested ≤ 0 := by rw [toIntLarge (by omega) bound]; omega
  unfold transportRead
  split
  · rw [sslRead,if_pos negative]
    exact Int.negSucc_le_zero 0
  · contradiction

theorem transportReadReturned {c : DoIPConnection} {requested : Nat} (positive : 0 < requested)
    (bound : requested < 4294967296) {inbox : List Arrival}
    (returned : ¬ (transportRead c requested inbox).count ≤ 0) :
    Readable c requested ∧ Inbox.Delivered requested inbox (transportRead c requested inbox) := by
  by_cases readable : Readable c requested
  · have more : Inbox.stream inbox ≠ [] := fun ended => returned (transportReadEnded c requested ended)
    exact ⟨readable,transportReadDelivers readable positive more⟩
  · exact absurd (transportReadRefused readable bound inbox) returned

theorem transportReadAny {c : DoIPConnection} {requested : Nat} (readable : Readable c requested)
    (positive : 0 < requested) {r : ReadResult}
    (possible : r.count ≤ 0 ∧ r.bytes = [] ∨
      r.count = r.bytes.length ∧ 0 < r.bytes.length ∧ r.bytes.length ≤ min requested 2147483647) :
    ∃ inbox, transportRead c requested inbox = r := by
  obtain ⟨count,bytes,rest⟩ := r
  rcases possible with ⟨failed,none⟩ | ⟨same,some,fits⟩
  · dsimp only at failed none
    have value : -(count.natAbs : Int) = count := by omega
    refine ⟨.failure count.natAbs::rest,?_⟩
    rw [transportReadReads readable positive,Inbox.read,value,none]
  · dsimp only at same some fits
    cases bytes with
    | nil => simp at some
    | cons first more =>
      refine ⟨.data first more::rest,?_⟩
      rw [transportReadReads readable positive,Inbox.read,List.take_of_length_le fits,
        List.drop_eq_nil_of_le fits,same]
      rfl

structure ReadLoop where
  receivedData : Buffer
  payloadPos : Nat
  remainingPayload : Nat
  inbox : List Arrival
  deriving DecidableEq, Repr

namespace ReadLoop

def start (payloadLength : Nat) (receivedData : Buffer) (inbox : List Arrival) : ReadLoop :=
  ⟨receivedData,0,payloadLength,inbox⟩

def readBytes (c : DoIPConnection) (v : ReadLoop) : ReadResult := transportRead c v.remainingPayload v.inbox

-- The rest of the body, once a read has returned bytes.
def advance (v : ReadLoop) (r : ReadResult) : Except Fault ReadLoop := do
  let receivedData ← v.receivedData.storeAll v.payloadPos r.bytes
  .ok ⟨receivedData,addToUnsignedLong v.payloadPos r.count,subtractFromUnsignedLong v.remainingPayload r.count,r.rest⟩

def Pass (c : DoIPConnection) (v w : ReadLoop) : Prop :=
  v.remainingPayload ≠ 0 ∧ ¬ (v.readBytes c).count ≤ 0 ∧ v.advance (v.readBytes c) = .ok w

abbrev Passes (c : DoIPConnection) : ReadLoop → ReadLoop → Prop := ReflTransGen (Pass c)

def Ended (c : DoIPConnection) (v : ReadLoop) : Prop := v.remainingPayload = 0 ∨ (v.readBytes c).count ≤ 0
instance (c v) : Decidable (Ended c v) := by unfold Ended; infer_instance

structure Sound (payloadLength : Nat) (receivedData : Buffer) (inbox : List Arrival) (v : ReadLoop) : Prop where
  counters : v.payloadPos + v.remainingPayload = payloadLength
  stored : ∃ bytes, bytes.length = v.payloadPos ∧ Inbox.stream inbox = bytes ++ Inbox.stream v.inbox ∧
    v.receivedData = Buffer.filled bytes ++ receivedData.drop bytes.length

def loop (v : ReadLoop) : Doip σ Received := receiveLoop v.receivedData v.payloadPos v.remainingPayload v.inbox

section Passes
variable {c : DoIPConnection} {payloadLength : Nat} {receivedData : Buffer} {inbox : List Arrival} {v w : ReadLoop}

theorem startSound : Sound payloadLength receivedData inbox (start payloadLength receivedData inbox) :=
  ⟨Nat.zero_add _,[],rfl,rfl,rfl⟩

theorem delivered (bound : payloadLength < 4294967296) (sound : Sound payloadLength receivedData inbox v)
    (more : v.remainingPayload ≠ 0) (some : ¬ (v.readBytes c).count ≤ 0) :
    Inbox.Delivered v.remainingPayload v.inbox (v.readBytes c) := by
  have counters := sound.counters
  exact (transportReadReturned (Nat.pos_of_ne_zero more) (by omega) some).2

structure Advanced (v : ReadLoop) (r : ReadResult) (w : ReadLoop) : Prop where
  stored : v.receivedData.storeAll v.payloadPos r.bytes = .ok w.receivedData
  position : w.payloadPos = v.payloadPos + r.count.toNat
  remaining : w.remainingPayload = v.remainingPayload - r.count.toNat
  rest : w.inbox = r.rest
  within : r.count ≤ v.remainingPayload

theorem advances {r : ReadResult} (bound : payloadLength < 4294967296)
    (allocated : payloadLength ≤ receivedData.length) (sound : Sound payloadLength receivedData inbox v)
    (delivered : Inbox.Delivered v.remainingPayload v.inbox r) :
    ∃ w, v.advance r = .ok w ∧ Advanced v r w ∧ Sound payloadLength receivedData inbox w := by
  have counters := sound.counters
  obtain ⟨bytes,length,stream,data⟩ := sound.stored
  obtain ⟨count,_,taken,next⟩ := delivered
  have room : r.bytes.length ≤ (receivedData.drop bytes.length).length := by
    rw [List.length_drop]; omega
  have stored := Buffer.storeAllOver length.symm room
  rw [← data,List.drop_drop,← List.length_append] at stored
  have position := @addToUnsignedLongExact v.payloadPos r.count (by omega) (by omega)
  have remaining := @subtractFromUnsignedLongExact v.remainingPayload r.count (by omega) (by omega) (by omega)
  have ran : v.advance r = .ok ⟨Buffer.filled (bytes ++ r.bytes) ++ receivedData.drop (bytes ++ r.bytes).length,
      v.payloadPos + r.count.toNat,v.remainingPayload - r.count.toNat,r.rest⟩ := by
    rw [advance,stored,okBind,position,remaining]
  have length : (bytes ++ r.bytes).length = v.payloadPos + r.count.toNat := by
    rw [List.length_append]; omega
  have received : Inbox.stream inbox = (bytes ++ r.bytes) ++ Inbox.stream r.rest := by
    rw [stream,next,List.append_assoc]
  have added : v.payloadPos + r.count.toNat + (v.remainingPayload - r.count.toNat) = payloadLength := by omega
  exact ⟨_,ran,⟨stored,rfl,rfl,rfl,by omega⟩,added,_,length,received,rfl⟩

theorem passAdvances (bound : payloadLength < 4294967296) (allocated : payloadLength ≤ receivedData.length)
    (sound : Sound payloadLength receivedData inbox v) (pass : Pass c v w) :
    Advanced v (v.readBytes c) w ∧ Sound payloadLength receivedData inbox w := by
  obtain ⟨more,some,ran⟩ := pass
  obtain ⟨next,made,facts⟩ := advances bound allocated sound (delivered bound sound more some)
  cases Except.ok.inj (ran.symm.trans made)
  exact facts

theorem terminates (c : DoIPConnection) (bound : payloadLength < 4294967296)
    (allocated : payloadLength ≤ receivedData.length) :
    Terminates (Pass c) (Ended c) (Sound payloadLength receivedData inbox) remainingPayload where
  goesOn := by
    intro v sound going
    obtain ⟨more,some⟩ := not_or.mp going
    obtain ⟨w,ran,_⟩ := advances bound allocated sound (delivered bound sound more some)
    exact ⟨w,more,some,ran⟩
  keeps := fun sound pass => (passAdvances bound allocated sound pass).2
  shrinks := by
    intro v w sound pass
    have remaining := (passAdvances bound allocated sound pass).1.remaining
    obtain ⟨more,some,_⟩ := pass
    omega

theorem endedStays (ended : Ended c v) (passes : Passes c v w) : w = v := by
  rcases ReflTransGen.cases_head passes with same | ⟨_,⟨more,some,_⟩,_⟩
  · exact same.symm
  · exact absurd ended (not_or.mpr ⟨more,some⟩)

theorem refusedAtOnce (bound : payloadLength < 4294967296) (refused : ¬ Readable c payloadLength)
    (passes : Passes c (start payloadLength receivedData inbox) v) : v = start payloadLength receivedData inbox :=
  endedStays (Or.inr (transportReadRefused refused bound inbox)) passes

theorem failedAtEnd (readable : Readable c payloadLength) (sound : Sound payloadLength receivedData inbox v)
    (more : v.remainingPayload ≠ 0) (failed : (v.readBytes c).count ≤ 0) :
    v.payloadPos = (Inbox.stream inbox).length := by
  have counters := sound.counters
  obtain ⟨bytes,length,stream,_⟩ := sound.stored
  have smaller : Readable c v.remainingPayload := readable.imp id (by omega)
  have ended : Inbox.stream v.inbox = [] := by
    refine Decidable.byContradiction (fun left => ?_)
    obtain ⟨count,some,_,_⟩ := transportReadDelivers smaller (Nat.pos_of_ne_zero more) left
    change (v.readBytes c).count = (v.readBytes c).bytes.length at count
    change 0 < (v.readBytes c).bytes.length at some
    omega
  rw [stream,ended,List.append_nil,length]

end Passes

section Runs
variable {payloadLength : Nat} {receivedData : Buffer} {inbox : List Arrival} {v w : ReadLoop} {s : State σ}

theorem loopPass (bound : payloadLength < 4294967296) (allocated : payloadLength ≤ receivedData.length)
    (sound : Sound payloadLength receivedData inbox v) (pass : Pass s.connection v w) :
    v.loop s = (w.loop s).prepend [readEvent s.connection v.remainingPayload] := by
  obtain ⟨stored,position,remaining,rest,_⟩ := (passAdvances bound allocated sound pass).1
  obtain ⟨more,some,_⟩ := pass
  rw [readBytes] at some stored position remaining rest
  rw [loop,loop,receiveLoop,if_neg more,Program.bindApply,readSomeApply,Outcome.andThenOk,dif_neg some,
    stored,Program.liftOkBind,position,remaining,rest]

theorem loopPasses (bound : payloadLength < 4294967296) (allocated : payloadLength ≤ receivedData.length)
    (sound : Sound payloadLength receivedData inbox v) (passes : Passes s.connection v w) :
    ∃ log, v.loop s = (w.loop s).prepend log ∧ ∀ e ∈ log, ∃ n, e = readEvent s.connection n := by
  induction passes with
  | refl => exact ⟨[],rfl,by simp⟩
  | @tail w u before last ih =>
    obtain ⟨log,ran,events⟩ := ih
    have kept := (terminates s.connection bound allocated).run sound before
    rw [ran,loopPass bound allocated kept last,Outcome.prependPrepend]
    refine ⟨_,rfl,List.forall_mem_append.mpr ⟨events,?_⟩⟩
    intro e member
    exact ⟨_,List.mem_singleton.mp member⟩

theorem loopDone (done : v.remainingPayload = 0) :
    v.loop s = ⟨[],s,.ok ⟨v.payloadPos,v.receivedData,v.inbox⟩⟩ := by
  rw [loop,receiveLoop,if_pos done]
  rfl

theorem loopFailed (more : v.remainingPayload ≠ 0) (failed : (v.readBytes s.connection).count ≤ 0) :
    v.loop s = ((do
      let count ← failedRead v.payloadPos
      pure ⟨count,v.receivedData,(v.readBytes s.connection).rest⟩ : Doip σ Received) s).prepend
        [readEvent s.connection v.remainingPayload] := by
  rw [readBytes] at failed
  rw [loop,receiveLoop,if_neg more,Program.bindApply,readSomeApply,Outcome.andThenOk,dif_pos failed]
  rfl

end Runs

theorem reachesEnd {payloadLength : Nat} (bound : payloadLength < 4294967296) {receivedData : Buffer}
    (allocated : payloadLength ≤ receivedData.length) (inbox : List Arrival) (s : State σ) :
    ∃ v log, Passes s.connection (start payloadLength receivedData inbox) v ∧ v.Ended s.connection ∧
      Sound payloadLength receivedData inbox v ∧
      receiveFixedNumberOfBytesFromTcpOrTls payloadLength receivedData inbox s = (v.loop s).prepend log ∧
      ∀ e ∈ log, ∃ n, e = readEvent s.connection n := by
  have rule := @terminates payloadLength receivedData inbox s.connection bound allocated
  obtain ⟨v,passes,ended⟩ := rule.ends startSound
  obtain ⟨log,ran,events⟩ := loopPasses bound allocated startSound passes
  exact ⟨v,log,passes,ended,rule.run startSound passes,ran,events⟩

end ReadLoop
end LibDoip
