import LibDoip.Reading

/-! What `receiveFixedNumberOfBytesFromTcpOrTls` returns: the number of bytes it has stored, unless a read fails
over TLS. There the count is replaced by the result of `handle_SSL_read_error`, and that is wrong in every
case but one. -/
namespace LibDoip
open Library ReadLoop
variable {σ : Type}

structure ReportsStored (payloadLength : Nat) (receivedData : Buffer) (inbox : List Arrival) (s : State σ) :
    Prop where
  sound : ∀ v, Passes s.connection (start payloadLength receivedData inbox) v →
    Sound payloadLength receivedData inbox v
  within : ∀ v, Passes s.connection (start payloadLength receivedData inbox) v → v.remainingPayload ≠ 0 →
    (v.readBytes s.connection).count ≤ v.remainingPayload
  terminates : Acc (fun w v => Pass s.connection v w) (start payloadLength receivedData inbox)
  reported : ∃ v l t rest, Passes s.connection (start payloadLength receivedData inbox) v ∧
    v.Ended s.connection ∧ v.payloadPos ≤ payloadLength ∧
    receiveFixedNumberOfBytesFromTcpOrTls payloadLength receivedData inbox s =
      ⟨l,t,.ok ⟨v.payloadPos,v.receivedData,rest⟩⟩

/- Over TLS the count survives where all bytes arrive, and where none does and the peer has shut TLS down properly. -/
def CountSurvives (payloadLength : Nat) (inbox : List Arrival) (s : State σ) : Prop :=
  s.connection.ssl = none ∨
    payloadLength < 2147483648 ∧ payloadLength ≤ (Inbox.stream inbox).length ∨
    nextSslError s = .zeroReturn ∧ (2147483648 ≤ payloadLength ∨ Inbox.stream inbox = [])
instance (n inbox) (s : State σ) : Decidable (CountSurvives n inbox s) := by
  unfold CountSurvives; infer_instance

def failedCount (s : State σ) (payloadPos : Nat) : Nat :=
  if s.connection.ssl = none then payloadPos
  else if nextSslError s = .zeroReturn then 0 else 18446744073709551615

theorem failedReadCounts (pos : Nat) (s : State σ) : ∃ l t, failedRead pos s = ⟨l,t,.ok (failedCount s pos)⟩ := by
  have failed := failedReadFails pos s
  generalize failedRead pos s = o at failed
  cases failed with
  | plain plain =>
    rw [failedCount,if_pos plain]
    exact ⟨_,_,rfl⟩
  | tls tls _ =>
    have secure : s.connection.ssl ≠ none := by simp [tls]
    rw [failedCount,if_neg secure]
    exact ⟨_,_,rfl⟩

namespace ReadLoop
variable {payloadLength : Nat} {receivedData : Buffer} {inbox : List Arrival} {v : ReadLoop} {s : State σ}

def endCount (v : ReadLoop) (s : State σ) : Nat :=
  if v.remainingPayload = 0 then v.payloadPos else failedCount s v.payloadPos

theorem endReturns (ended : v.Ended s.connection) :
    ∃ l t rest, v.loop s = ⟨l,t,.ok ⟨v.endCount s,v.receivedData,rest⟩⟩ := by
  by_cases done : v.remainingPayload = 0
  · exact ⟨[],s,_,by rw [loopDone done,endCount,if_pos done]⟩
  · obtain ⟨l,t,ran⟩ := failedReadCounts v.payloadPos s
    rw [loopFailed done (ended.resolve_left done),endCount,if_neg done,Program.returnAfter ran,Outcome.prependMk]
    exact ⟨_,_,_,rfl⟩

theorem functionReturns (bound : payloadLength < 4294967296) (allocated : payloadLength ≤ receivedData.length)
    (passes : Passes s.connection (start payloadLength receivedData inbox) v) (ended : v.Ended s.connection) :
    ∃ l t rest, receiveFixedNumberOfBytesFromTcpOrTls payloadLength receivedData inbox s =
      ⟨l,t,.ok ⟨v.endCount s,v.receivedData,rest⟩⟩ := by
  obtain ⟨before,ran,_⟩ := loopPasses bound allocated startSound passes
  obtain ⟨l,t,rest,returned⟩ := endReturns ended
  exact ⟨before ++ l,t,rest,by rw [← Outcome.prependMk,← returned]; exact ran⟩

theorem doneSurvives (bound : payloadLength < 4294967296) (allocated : payloadLength ≤ receivedData.length)
    (passes : Passes s.connection (start payloadLength receivedData inbox) v) (done : v.remainingPayload = 0) :
    CountSurvives payloadLength inbox s := by
  have sound := (terminates s.connection bound allocated).run startSound passes
  have counters := sound.counters
  obtain ⟨bytes,length,stream,_⟩ := sound.stored
  have readable : Readable s.connection payloadLength := by
    refine Classical.byContradiction (fun refused => refused (Or.inr ?_))
    rw [refusedAtOnce bound refused passes] at done
    change payloadLength = 0 at done
    omega
  have enough : payloadLength ≤ (Inbox.stream inbox).length := by
    rw [stream,List.length_append]; omega
  exact readable.imp id (fun small => Or.inl ⟨small,enough⟩)

theorem failedSurvives (bound : payloadLength < 4294967296) (allocated : payloadLength ≤ receivedData.length)
    (passes : Passes s.connection (start payloadLength receivedData inbox) v) (secure : s.connection.ssl ≠ none)
    (more : v.remainingPayload ≠ 0) (failed : (v.readBytes s.connection).count ≤ 0) :
    failedCount s v.payloadPos = v.payloadPos ↔ CountSurvives payloadLength inbox s := by
  have sound := (terminates s.connection bound allocated).run startSound passes
  have counters := sound.counters
  have replaced : failedCount s v.payloadPos = v.payloadPos ↔ nextSslError s = .zeroReturn ∧ v.payloadPos = 0 := by
    rw [failedCount,if_neg secure]
    split <;> rename_i next <;> simp only [next,true_and,false_and,iff_false] <;> omega
  rw [replaced,CountSurvives]
  by_cases small : payloadLength < 2147483648
  · have position := failedAtEnd (Or.inr small) sound more failed
    have short : ¬ payloadLength ≤ (Inbox.stream inbox).length := by omega
    have low : ¬ 2147483648 ≤ payloadLength := by omega
    simp only [secure,short,low,false_or,and_false,position,List.length_eq_zero_iff]
  · have refused : ¬ Readable s.connection payloadLength := not_or.mpr ⟨secure,small⟩
    have position : v.payloadPos = 0 := by rw [refusedAtOnce bound refused passes]; rfl
    have high : 2147483648 ≤ payloadLength := by omega
    simp only [secure,small,high,false_or,false_and,true_or,and_true,position]

theorem endCountExact (bound : payloadLength < 4294967296) (allocated : payloadLength ≤ receivedData.length)
    (passes : Passes s.connection (start payloadLength receivedData inbox) v) (ended : v.Ended s.connection) :
    v.endCount s = v.payloadPos ↔ CountSurvives payloadLength inbox s := by
  by_cases done : v.remainingPayload = 0
  · rw [endCount,if_pos done]
    exact iff_of_true rfl (doneSurvives bound allocated passes done)
  · rw [endCount,if_neg done]
    by_cases plain : s.connection.ssl = none
    · rw [failedCount,if_pos plain]
      exact iff_of_true rfl (Or.inl plain)
    · exact failedSurvives bound allocated passes plain done (ended.resolve_left done)

end ReadLoop

variable {payloadLength : Nat} {receivedData : Buffer}

theorem reportsOnly (bound : payloadLength < 4294967296) (allocated : payloadLength ≤ receivedData.length)
    {inbox : List Arrival} {s : State σ} (reports : ReportsStored payloadLength receivedData inbox s) :
    CountSurvives payloadLength inbox s := by
  obtain ⟨v,l,t,rest,passes,ended,_,ran⟩ := reports.reported
  obtain ⟨l',t',rest',returned⟩ := functionReturns bound allocated passes ended
  rw [ran] at returned
  have same : v.payloadPos = v.endCount s :=
    congrArg Received.count (Except.ok.inj (congrArg Outcome.result returned))
  exact (endCountExact bound allocated passes ended).mp same.symm

theorem countReported (bound : payloadLength < 4294967296) (allocated : payloadLength ≤ receivedData.length)
    (inbox : List Arrival) (s : State σ) :
    ReportsStored payloadLength receivedData inbox s ↔ CountSurvives payloadLength inbox s := by
  have rule := @terminates payloadLength receivedData inbox s.connection bound allocated
  constructor
  · exact reportsOnly bound allocated
  · intro survives
    have sound : ∀ v, Passes s.connection (start payloadLength receivedData inbox) v →
        Sound payloadLength receivedData inbox v := fun v passes => rule.run startSound passes
    have within : ∀ v, Passes s.connection (start payloadLength receivedData inbox) v →
        v.remainingPayload ≠ 0 → (v.readBytes s.connection).count ≤ v.remainingPayload := by
      intro v passes more
      by_cases failed : (v.readBytes s.connection).count ≤ 0
      · omega
      · have taken := delivered bound (sound v passes) more failed
        have count := taken.count
        have limit := taken.bound
        omega
    obtain ⟨v,passes,ended⟩ := rule.ends startSound
    obtain ⟨l,t,rest,returned⟩ := functionReturns bound allocated passes ended
    have counters := (sound v passes).counters
    rw [(endCountExact bound allocated passes ended).mpr survives] at returned
    exact ⟨sound,within,rule.finite startSound,v,l,t,rest,passes,ended,by omega,returned⟩

theorem countReportedHeader : ReportsStored 8 (Buffer.alloc 16)
    [.data 0x02 [0xFD,0x00],.data 0x05 [0x00,0x00,0x00,0x07]]
    (⟨DoIPConnection.new 5 0x0E80 (some 1) 0 0,⟨[],[],[],[],0⟩,()⟩ : State Unit) :=
  (countReported (by decide) (by decide) _ _).mpr (by decide)

/- Three bytes of a header have arrived when `SSL_read` fails: the largest `unsigned long` is returned. -/
theorem countReportedFails : ¬ ∀ (payloadLength : Nat) (receivedData : Buffer) (inbox : List Arrival) (s : State Unit),
    payloadLength < 4294967296 → payloadLength ≤ receivedData.length →
    ReportsStored payloadLength receivedData inbox s := by
  intro stated
  have reports := stated 8 (Buffer.alloc 8) [.data 0x02 [0xFD,0x00],.failure 1]
    ⟨DoIPConnection.new 5 0x0E80 (some 1) 0 0,⟨[],[.syscall],[],[],0⟩,()⟩ (by decide) (by decide)
  exact absurd (reportsOnly (by decide) (by decide) reports) (by decide)

end LibDoip
