import LibDoip.Interleaving
import LibDoip.Record
import LibDoip.Requests

/-! The receiving thread on an open connection, byte by byte: at every position it holds the beginning of one
frame, and each of its steps only moves bytes from the stream into what it holds, until a read fails. -/
namespace LibDoip
open Library
variable {σ : Type}

def Clean (inbox : List Arrival) : Prop := ∀ code, .failure code ∉ inbox

theorem cleanNil : Clean [] := fun _ => List.not_mem_nil

theorem cleanPutBack (bytes : List UInt8) {rest : List Arrival} (clean : Clean rest) :
    Clean (Inbox.putBack bytes rest) := by
  cases bytes with
  | nil => exact clean
  | cons b bs => exact fun code member => clean code (by simpa [Inbox.putBack] using member)

theorem cleanAppend {inbox later : List Arrival} (first : Clean inbox) (second : Clean later) :
    Clean (inbox ++ later) :=
  fun code member => (List.mem_append.mp member).elim (first code) (second code)

theorem streamAppend {inbox : List Arrival} (clean : Clean inbox) (later : List Arrival) :
    Inbox.stream (inbox ++ later) = Inbox.stream inbox ++ Inbox.stream later := by
  induction inbox with
  | nil => rfl
  | cons arrival rest ih =>
    have clean' : Clean rest := fun code member => clean code (List.mem_cons_of_mem _ member)
    cases arrival with
    | failure code => exact absurd List.mem_cons_self (clean code)
    | data first more => simp only [List.cons_append,Inbox.stream,ih clean',List.append_assoc]

theorem cleanRead (limit : Nat) {inbox : List Arrival} (clean : Clean inbox) : Clean (Inbox.read limit inbox).rest := by
  cases inbox with
  | nil => exact clean
  | cons arrival rest =>
    have clean' : Clean rest := fun code member => clean code (List.mem_cons_of_mem _ member)
    cases arrival with
    | failure code => exact clean'
    | data first bytes => exact cleanPutBack _ clean'

theorem cleanTransportRead (called : DoIPConnection) (requested : Nat) {inbox : List Arrival} (clean : Clean inbox) :
    Clean (transportRead called requested inbox).rest := by
  unfold transportRead
  split
  · unfold sslRead
    split
    · exact clean
    · exact cleanRead _ clean
  · exact cleanRead _ clean

def ReadableOver (tls : Option Nat) (requested : Nat) : Prop := tls = none ∨ requested < 2147483648

def AllReadable (tls : Option Nat) (stream : List UInt8) : Prop := ∀ n ∈ declared stream, ReadableOver tls n

def Part.size : Part → Nat
  | .header => 8
  | .payload action => action.payloadLength.toNat

def Part.before : Part → Nat
  | .header => 0
  | .payload _ => 8

inductive Part.Begun (tls : Option Nat) : Part → List UInt8 → Prop where
  | header : Begun tls .header []
  | payload (uninit : GenericHeaderAction) (b0 b1 b2 b3 b4 b5 b6 b7 : UInt8)
      (some : 0 < (classify uninit b0 b1 b2 b3 b4 b5 b6 b7).payloadLength.toNat)
      (readable : ReadableOver tls (classify uninit b0 b1 b2 b3 b4 b5 b6 b7).payloadLength.toNat) :
      Begun tls (.payload (classify uninit b0 b1 b2 b3 b4 b5 b6 b7)) [b0,b1,b2,b3,b4,b5,b6,b7]

theorem Part.Begun.readable {tls : Option Nat} {part : Part} {front : List UInt8} (begun : part.Begun tls front) :
    ReadableOver tls part.size ∧ part.size < 4294967296 := by
  cases begun with
  | header => exact ⟨Or.inr (by decide),by decide⟩
  | payload uninit b0 b1 b2 b3 b4 b5 b6 b7 some readable =>
    exact ⟨readable,(classifyRules uninit b0 b1 b2 b3 b4 b5 b6 b7).bound⟩

structure Filling (size : Nat) (data : Buffer) (pos : Nat) (bytes : List UInt8) : Prop where
  length : bytes.length = pos
  bound : pos ≤ size
  data : data = Buffer.filled bytes ++ Buffer.alloc (size - pos)

theorem Filling.start (size : Nat) : Filling size (Buffer.alloc size) 0 [] :=
  ⟨rfl,Nat.zero_le size,by simp⟩

theorem Filling.full {size : Nat} {data : Buffer} {bytes : List UInt8} (filling : Filling size data size bytes) :
    data = Buffer.filled bytes := by simpa using filling.data

theorem Filling.store {size pos : Nat} {data : Buffer} {bytes : List UInt8} (filling : Filling size data pos bytes)
    (more : List UInt8) (fits : pos + more.length ≤ size) :
    ∃ data', data.storeAll pos more = .ok data' ∧ Filling size data' (pos + more.length) (bytes ++ more) := by
  have split : size - pos = more.length + (size - (pos + more.length)) := by omega
  have stored := @Buffer.storeAllNext bytes more pos _ _ filling.length.symm split
  rw [← filling.data] at stored
  exact ⟨_,stored,by rw [List.length_append,filling.length],fits,rfl⟩

def WholeFrame (frame : Frame) (held : List UInt8) : Prop :=
  ∃ uninit, ∀ rest, splitFrame uninit (held ++ rest) = some (frame,rest)

theorem wholeFrame (uninit : GenericHeaderAction) (b0 b1 b2 b3 b4 b5 b6 b7 : UInt8) {bytes : List UInt8}
    (size : bytes.length = (classify uninit b0 b1 b2 b3 b4 b5 b6 b7).payloadLength.toNat) :
    WholeFrame ⟨classify uninit b0 b1 b2 b3 b4 b5 b6 b7,bytes,classifyRules uninit b0 b1 b2 b3 b4 b5 b6 b7,size⟩
      ([b0,b1,b2,b3,b4,b5,b6,b7] ++ bytes) := by
  refine ⟨uninit,fun rest => ?_⟩
  have header : splitHeader uninit ([b0,b1,b2,b3,b4,b5,b6,b7] ++ bytes ++ rest) =
      some (classify uninit b0 b1 b2 b3 b4 b5 b6 b7,bytes ++ rest) := rfl
  have enough : (classify uninit b0 b1 b2 b3 b4 b5 b6 b7).payloadLength.toNat ≤ (bytes ++ rest).length := by
    rw [← size,List.length_append]
    exact Nat.le_add_right _ _
  rw [splitFrameWhole header enough]
  simp only [Frame.cut,← size,List.take_left,List.drop_left]

inductive Holding (tls : Option Nat) : Position → List UInt8 → Prop where
  | idle : Holding tls .idle []
  | reading {part : Part} {front bytes : List UInt8} {data : Buffer} {pos remaining : Nat} (begun : part.Begun tls front)
      (filling : Filling part.size data pos bytes) (remains : pos + remaining = part.size) :
      Holding tls (.reading part data pos remaining) (front ++ bytes)
  | blocked {part : Part} {front bytes : List UInt8} {data : Buffer} {pos remaining : Nat} {called : DoIPConnection}
      (begun : part.Begun tls front) (filling : Filling part.size data pos bytes) (remains : pos + remaining = part.size)
      (more : 0 < remaining) (same : called.ssl = tls) :
      Holding tls (.blocked part data pos remaining called) (front ++ bytes)
  | read {part : Part} {front bytes : List UInt8} {data : Buffer} (begun : part.Begun tls front)
      (filling : Filling part.size data part.size bytes) : Holding tls (.read part data part.size) (front ++ bytes)
  | complete {frame : Frame} {held : List UInt8} (whole : WholeFrame frame held) :
      Holding tls (.complete frame.action frame.pointer) held
  | dispatching {frame : Frame} {held : List UInt8} (whole : WholeFrame frame held) :
      Holding tls (.dispatching frame.action frame.pointer) held

def Position.Failed : Position → Prop
  | .read part _ readBytes => toUnsignedInt readBytes ≠ part.size
  | _ => False

def Thread.Blocked : Thread → Prop
  | ⟨.blocked _ _ _ _ _,[]⟩ => True
  | _ => False

instance (thread : Thread) : Decidable thread.Blocked := by unfold Thread.Blocked; split <;> infer_instance

def Thread.Ended : Thread → Prop
  | ⟨.blocked _ _ _ _ _,inbox⟩ => Inbox.stream inbox = []
  | _ => False

theorem Thread.Blocked.ended {thread : Thread} (blocked : thread.Blocked) : thread.Ended := by
  obtain ⟨position,inbox⟩ := thread
  cases position with
  | blocked part data pos remaining called =>
    cases inbox with
    | nil => exact rfl
    | cons arrival rest => exact blocked.elim
  | _ => exact blocked.elim

theorem Thread.Ended.blocked {thread : Thread} (ended : thread.Ended) (clean : Clean thread.inbox) : thread.Blocked := by
  obtain ⟨position,inbox⟩ := thread
  cases position with
  | blocked part data pos remaining called =>
    cases inbox with
    | nil => exact trivial
    | cons arrival rest =>
      cases arrival with
      | failure code => exact absurd List.mem_cons_self (clean code)
      | data first more => cases ended
  | _ => exact ended.elim

def Position.taken : Position → Nat
  | .idle => 0
  | .reading part _ pos _ | .blocked part _ pos _ _ | .read part _ pos => part.before + pos
  | .complete action _ | .dispatching action _ => 8 + action.payloadLength.toNat

def Position.rank : Position → Nat
  | .idle => 10
  | .reading .header _ _ _ => 9
  | .blocked .header _ _ _ _ => 8
  | .read .header _ _ => 7
  | .reading (.payload _) _ _ _ => 6
  | .blocked (.payload _) _ _ _ _ => 5
  | .read (.payload _) _ _ => 4
  | .complete _ _ => 3
  | .dispatching _ _ => 2

def Thread.effort (thread : Thread) : Nat :=
  20 * (Inbox.stream thread.inbox).length + 16 * thread.position.taken + thread.position.rank

structure Moves (tls : Option Nat) (thread : Thread) (held : List UInt8) (s : State σ) (l : List Event) (t : State σ)
    (next : Thread) (held' : List UInt8) : Prop where
  holding : Holding tls next.position held'
  kept : held' ++ Inbox.stream next.inbox = held ++ Inbox.stream thread.inbox
  clean : Clean thread.inbox → Clean next.inbox
  retimed : Retimed s t
  unsent : l.filterMap Event.sent = []
  effort : next.effort < thread.effort

inductive StepsOn (tls : Option Nat) (thread : Thread) (held : List UInt8) (s : State σ) :
    Outcome Fault Event (State σ) Thread → Prop where
  | moves {l : List Event} {t : State σ} {next : Thread} {held' : List UInt8}
      (moves : Moves tls thread held s l t next held') : StepsOn tls thread held s ⟨l,t,.ok next⟩
  | fails {l : List Event} {t : State σ} {next : Thread} (ended : thread.Ended) (failed : next.position.Failed)
      (retimed : Retimed s t) (unsent : l.filterMap Event.sent = []) : StepsOn tls thread held s ⟨l,t,.ok next⟩
  | breaks {l : List Event} {t : State σ} {next : Thread} {ssl : Nat} {err : SslError} {environment : Environment}
      (ended : thread.Ended) (ran : closeSocket true {s with environment := environment} = ⟨l,t,.ok ()⟩) :
      StepsOn tls thread held s ⟨.sslError ssl err::l,t,.ok next⟩

section Steps
variable {tls : Option Nat} {s : State σ} {inbox : List Arrival}

theorem Retimed.refl (s : State σ) : Retimed s s := ⟨rfl,rfl,rfl,rfl,rfl,rfl,rfl,rfl⟩

theorem movesWithin {position position' : Position} {held : List UInt8} {l : List Event}
    (holding : Holding tls position' held) (unsent : l.filterMap Event.sent = [])
    (taken : position'.taken = position.taken) (rank : position'.rank < position.rank) :
    Moves tls ⟨position,inbox⟩ held s l s ⟨position',inbox⟩ held :=
  ⟨holding,rfl,id,Retimed.refl s,unsent,by simp only [Thread.effort,taken]; omega⟩

theorem readingRank (part : Part) (data : Buffer) (pos remaining : Nat) (called : DoIPConnection) :
    (Position.reading part data pos remaining).rank = (Position.blocked part data pos remaining called).rank + 1 ∧
      (Position.read part data pos).rank < (Position.blocked part data pos remaining called).rank := by
  cases part with
  | header => exact ⟨rfl,by simp [Position.rank]⟩
  | payload action => exact ⟨rfl,by simp [Position.rank]⟩

theorem failedStepsOn {part : Part} {data : Buffer} {pos remaining : Nat} {called : DoIPConnection} {held : List UInt8}
    {r : ReadResult} (ended : (⟨.blocked part data pos remaining called,inbox⟩ : Thread).Ended)
    (readable : ReadableOver tls part.size ∧ part.size < 4294967296) (short : pos < part.size)
    (same : s.connection.ssl = tls) (failed : r.count ≤ 0) :
    StepsOn tls ⟨.blocked part data pos remaining called,inbox⟩ held s (readReturns part data pos remaining r s) := by
  have failing := failedReadFails pos s
  rw [readReturns,if_pos failed,Program.bindApply]
  generalize failedRead pos s = o at failing
  cases failing with
  | plain plain =>
    refine .fails ended (show toUnsignedInt pos ≠ part.size from ?_) (Retimed.refl s) rfl
    rw [toUnsignedIntSmall (by omega)]
    omega
  | @tls ssl l t tls' handled =>
    have small : part.size < 2147483648 := readable.1.resolve_left (by rw [← same,tls']; exact Option.some_ne_none ssl)
    have refused : toUnsignedInt (if nextSslError s = .zeroReturn then 0 else 18446744073709551615) ≠ part.size := by
      unfold toUnsignedInt
      split <;> omega
    rw [Outcome.andThenOk,Program.pureApply,Outcome.prependMk]
    cases handled with
    | noted mild => exact .fails ended refused ⟨rfl,rfl,rfl,rfl,rfl,rfl,rfl,rfl⟩ rfl
    | closed fatal ran =>
      rw [List.append_nil]
      exact .breaks ended ran

theorem blockedSteps {part : Part} {front bytes : List UInt8} {data : Buffer} {pos remaining : Nat}
    {called : DoIPConnection} (begun : part.Begun tls front) (filling : Filling part.size data pos bytes)
    (remains : pos + remaining = part.size) (more : 0 < remaining) (called' : called.ssl = tls)
    (same : s.connection.ssl = tls) :
    StepsOn tls ⟨.blocked part data pos remaining called,inbox⟩ (front ++ bytes) s
      (readReturns part data pos remaining (transportRead called remaining inbox) s) := by
  by_cases ended : Inbox.stream inbox = []
  · exact failedStepsOn ended begun.readable (by omega) same (transportReadEnded called remaining ended)
  · have readable : Readable called remaining := by
      rw [Readable,called']
      exact begun.readable.1.imp id (fun small => by omega)
    have delivered := transportReadDelivers readable more ended
    have clean := @cleanTransportRead called remaining inbox
    generalize transportRead called remaining inbox = r at delivered clean
    have count := delivered.count
    have some := delivered.some
    have bound := delivered.bound
    obtain ⟨data',stored,filling'⟩ := filling.store r.bytes (by omega)
    have next := delivered.next
    have length := congrArg List.length next
    rw [List.length_append] at length
    have exact : r.count.toNat = r.bytes.length := by omega
    have ranks := readingRank part data' (pos + r.bytes.length) (remaining - r.bytes.length) called
    have rank : (Position.blocked part data' (pos + r.bytes.length) (remaining - r.bytes.length) called).rank =
        (Position.blocked part data pos remaining called).rank := by cases part <;> rfl
    rw [readReturns,if_neg (by omega),stored,Program.liftOkBind,exact]
    refine .moves ⟨.reading begun filling' (by omega),?_,clean,Retimed.refl s,rfl,?_⟩
    · rw [next]
      simp only [List.append_assoc]
    · simp only [Thread.effort,Position.taken]
      omega

theorem eightFilled {data : Buffer} {bytes : List UInt8} (filling : Filling 8 data 8 bytes) :
    ∃ b0 b1 b2 b3 b4 b5 b6 b7, bytes = [b0,b1,b2,b3,b4,b5,b6,b7] ∧ data = Buffer.filled bytes := by
  have length := filling.length
  match bytes, length with
  | [b0,b1,b2,b3,b4,b5,b6,b7], _ => exact ⟨b0,b1,b2,b3,b4,b5,b6,b7,rfl,filling.full⟩

theorem headerSteps {data : Buffer} {bytes : List UInt8} (uninit : GenericHeaderAction)
    (filling : Filling 8 data 8 bytes) (readable : AllReadable tls (bytes ++ Inbox.stream inbox))
    (running : s.connection.aliveCheckTimer.timeout = false) :
    StepsOn tls ⟨.read .header data 8,inbox⟩ bytes s (checkHeader uninit data 8 inbox s) := by
  have accepted : toUnsignedInt 8 = 8 ∧ s.connection.aliveCheckTimer.timeout = false := ⟨rfl,running⟩
  obtain ⟨b0,b1,b2,b3,b4,b5,b6,b7,rfl,rfl⟩ := eightFilled filling
  have parsed := @parsedHeader uninit b0 b1 b2 b3 b4 b5 b6 b7 [] genericHeaderLength (by decide)
  rw [List.append_nil] at parsed
  rw [checkHeader,Program.bindApply,connectionApply,Outcome.andThenOk,Outcome.prependNil,if_pos accepted,parsed,
    Program.liftOkBind]
  by_cases positive : 0 < (classify uninit b0 b1 b2 b3 b4 b5 b6 b7).payloadLength
  · have some := (payloadLengthPositive _).mp positive
    have fits := readable _ (@declaredHeader uninit _ _ _ rfl)
    rw [if_pos positive]
    have begun := Part.Begun.payload uninit b0 b1 b2 b3 b4 b5 b6 b7 some fits
    exact .moves (movesWithin (Holding.reading begun (Filling.start _) (Nat.zero_add _)) rfl rfl (by simp [Position.rank]))
  · have empty : (classify uninit b0 b1 b2 b3 b4 b5 b6 b7).payloadLength.toNat = 0 := by
      have none := mt (payloadLengthPositive _).mpr positive
      omega
    rw [if_neg positive]
    have whole := @wholeFrame uninit b0 b1 b2 b3 b4 b5 b6 b7 [] empty.symm
    have taken : (Position.complete (classify uninit b0 b1 b2 b3 b4 b5 b6 b7) none).taken = 8 := by
      simp only [Position.taken,empty]
    exact .moves (movesWithin (Holding.complete whole) rfl taken (by simp [Position.rank]))

theorem payloadSteps (app : Application σ) (uninit : GenericHeaderAction) {action : GenericHeaderAction} {data : Buffer}
    {front bytes : List UInt8} (begun : (Part.payload action).Begun tls front)
    (filling : Filling action.payloadLength.toNat data action.payloadLength.toNat bytes) :
    StepsOn tls ⟨.read (.payload action) data action.payloadLength.toNat,inbox⟩ (front ++ bytes) s
      (advance app uninit ⟨.read (.payload action) data action.payloadLength.toNat,inbox⟩ s) := by
  cases begun with
  | payload uninit' b0 b1 b2 b3 b4 b5 b6 b7 some =>
    have small := (classifyRules uninit' b0 b1 b2 b3 b4 b5 b6 b7).bound
    rw [advance,if_neg (not_not_intro (toUnsignedIntSmall small))]
    have holding := @Holding.complete tls _ _ (wholeFrame uninit' b0 b1 b2 b3 b4 b5 b6 b7 filling.length)
    have more : ¬ bytes = [] := by
      rintro rfl
      exact absurd filling.length (Nat.ne_of_lt some)
    rw [Frame.pointer,if_neg more,← filling.full] at holding
    exact .moves (movesWithin holding rfl rfl (by simp [Position.rank]))

theorem stepsOn (app : Application σ) (uninit : GenericHeaderAction) {position : Position} {held : List UInt8}
    (holding : Holding tls position held) (readable : AllReadable tls (held ++ Inbox.stream inbox))
    (same : s.connection.ssl = tls) (running : s.connection.aliveCheckTimer.timeout = false)
    (other : ∀ action payload, position ≠ .dispatching action payload) :
    StepsOn tls ⟨position,inbox⟩ held s (advance app uninit ⟨position,inbox⟩ s) := by
  cases holding with
  | idle =>
    exact .moves (movesWithin (Holding.reading .header (Filling.start 8) (Nat.zero_add 8)) rfl rfl (by simp [Position.rank]))
  | @reading part front bytes data pos remaining begun filling remains =>
    have ranks := readingRank part data pos remaining s.connection
    rw [advance]
    by_cases done : remaining = 0
    · have full : pos = part.size := by omega
      subst full
      rw [if_pos done]
      exact .moves (movesWithin (.read begun filling) rfl rfl (by omega))
    · have noted : [readEvent s.connection remaining].filterMap Event.sent = [] := by
        unfold readEvent
        split <;> rfl
      rw [if_neg done]
      simp only [Program.bindApply,connectionApply,Outcome.andThenOk,Program.emitApply,Program.pureApply,
        Outcome.prependMk,List.append_nil]
      exact .moves (movesWithin (.blocked begun filling remains (Nat.pos_of_ne_zero done) same) noted rfl (by omega))
  | blocked begun filling remains more called => exact blockedSteps begun filling remains more called same
  | @read part front bytes data begun filling =>
    cases part with
    | header =>
      cases begun
      exact headerSteps uninit filling readable running
    | payload action => exact payloadSteps app uninit begun filling
  | @complete frame held whole =>
    rw [advance,Program.bindApply,connectionApply,Outcome.andThenOk,Outcome.prependNil]
    by_cases active : s.connection.aliveCheckTimer.active = true
    · obtain ⟨now,t,reset,retimed⟩ := resetTimerRetimed active
      rw [Program.whenTrue active,Program.bindApply,reset,Outcome.andThenOk]
      exact .moves ⟨.dispatching whole,rfl,id,retimed,rfl,by simp [Thread.effort,Position.taken,Position.rank]⟩
    · rw [Program.whenFalse active,pure_bind]
      exact .moves (movesWithin (.dispatching whole) rfl rfl (by simp [Position.rank]))
  | dispatching _ => exact absurd rfl (other _ _)

theorem failedCloses (app : Application σ) (uninit : GenericHeaderAction) {position : Position} (failed : position.Failed) :
    ∃ l t, advance app uninit ⟨position,inbox⟩ s = ⟨l,t,.ok ⟨.idle,inbox⟩⟩ ∧ closeSocket false s = ⟨l,t,.ok ()⟩ := by
  obtain ⟨l,t,ran,_,_⟩ := closeSocketCloses false s
  refine ⟨l,t,?_,ran⟩
  cases position with
  | read part data count =>
    cases part with
    | header =>
      rw [advance,checkHeader,Program.bindApply,connectionApply,Outcome.andThenOk,Outcome.prependNil,
        if_neg (fun accepted => failed accepted.1),Program.returnAfter ran]
    | payload action => rw [advance,if_pos (show toUnsignedInt count ≠ action.payloadLength.toNat from failed),Program.returnAfter ran]
  | _ => exact failed.elim

end Steps
end LibDoip
