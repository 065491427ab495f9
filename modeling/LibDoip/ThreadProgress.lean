import LibDoip.Attending

/-! How long a receiving thread can go on, over either transport, whatever arrives and whoever closes its socket
meanwhile. A step uses up a byte, or brings the call nearer to its end, or leaves the socket closed. -/
namespace LibDoip
open Library
variable {σ : Type}

/- What is left of a call and of the next one. The first bytes of a header pay for the answer to the frame. -/
def Position.steps : Position → Nat
  | .idle => 10
  | .reading .header _ pos _ => if pos = 0 then 9 else 25
  | .blocked .header _ pos _ _ => if pos = 0 then 8 else 24
  | .read .header _ readBytes => if toUnsignedInt readBytes = 8 then 23 else 7
  | .reading (.payload _) _ _ _ => 22
  | .blocked (.payload _) _ _ _ _ => 21
  | .read (.payload _) _ _ => 20
  | .complete _ _ => 19
  | .dispatching _ _ => 18

def Thread.steps (thread : Thread) : Nat := 20 * Inbox.total thread.inbox + thread.position.steps

inductive Proceeds (thread next : Thread) (t : State σ) : Prop where
  | nearer (less : next.steps < thread.steps) : Proceeds thread next t
  | closed (idle : next.position = .idle) (closed : ¬ isSocketActive t.connection) : Proceeds thread next t

section Steps
variable {s t : State σ} {l : List Event} {inbox : List Arrival} {next : Thread}

theorem nearerWithin {position position' : Position} (less : position'.steps < position.steps) :
    Proceeds (σ := σ) ⟨position,inbox⟩ ⟨position',inbox⟩ t := .nearer (Nat.add_lt_add_left less _)

theorem closesProceeds {thread : Thread} (ran : (do
    closeSocket false
    pure ⟨.idle,inbox⟩ : Doip σ Thread) s = ⟨l,t,.ok next⟩) : Proceeds thread next t := by
  obtain ⟨m,u,closes,shut,_⟩ := closeSocketCloses false s
  rw [Program.returnAfter closes] at ran
  cases ran
  exact .closed rfl (not_not_intro shut)

theorem transportReadTotal (called : DoIPConnection) (requested : Nat) (inbox : List Arrival) :
    (transportRead called requested inbox).bytes.length + Inbox.total (transportRead called requested inbox).rest =
        Inbox.total inbox ∧
      (transportRead called requested inbox).count ≤ (transportRead called requested inbox).bytes.length := by
  unfold transportRead
  split
  · unfold sslRead
    split
    · exact ⟨Nat.zero_add _,by simp only [List.length_nil]; omega⟩
    · exact Inbox.readTotal _ _
  · exact Inbox.readTotal _ _

theorem failedSteps (part : Part) (data : Buffer) (pos remaining : Nat) (called : DoIPConnection) {m : List Event}
    {u : State σ} {count : Nat} (failed : FailedRead pos s ⟨m,u,.ok count⟩) :
    (Position.read part data count).steps < (Position.blocked part data pos remaining called).steps := by
  cases part with
  | payload action => exact Nat.lt_succ_self 20
  | header =>
    have none : pos = 0 → toUnsignedInt count ≠ 8 := by
      rintro rfl
      cases failed with
      | plain plain => decide
      | tls tls handled => split <;> decide
    simp only [Position.steps]
    by_cases start : pos = 0
    · rw [if_neg (none start),if_pos start]
      decide
    · rw [if_neg start]
      split <;> decide

theorem readStores {part : Part} {data data' : Buffer} {pos remaining more remaining' : Nat} {called : DoIPConnection}
    (some : 0 < more) : (Position.reading part data' (pos + more) remaining').steps ≤
      (Position.blocked part data pos remaining called).steps + 17 := by
  cases part with
  | payload action => exact Nat.le_add_right 22 16
  | header =>
    simp only [Position.steps]
    rw [if_neg (by omega)]
    split <;> decide

theorem blockedProceeds {part : Part} {data : Buffer} {pos remaining : Nat} {called : DoIPConnection}
    (ran : readReturns part data pos remaining (transportRead called remaining inbox) s = ⟨l,t,.ok next⟩) :
    Proceeds ⟨.blocked part data pos remaining called,inbox⟩ next t := by
  obtain ⟨total,counted⟩ := transportReadTotal called remaining inbox
  generalize transportRead called remaining inbox = r at total counted ran
  rw [readReturns] at ran
  split at ran
  · have failed := failedReadFails pos s
    cases returned : failedRead pos s with
    | mk m u count =>
      rw [Program.bindApply,returned] at ran
      rw [returned] at failed
      cases count with
      | error e => cases ran
      | ok count =>
        cases ran
        have steps := failedSteps part data pos remaining called failed
        refine .nearer ?_
        simp only [Thread.steps]
        omega
  · rename_i positive
    cases stored : data.storeAll pos r.bytes with
    | error e =>
      rw [stored,Program.liftErrorBind] at ran
      cases ran
    | ok data' =>
      rw [stored,Program.liftOkBind] at ran
      cases ran
      have steps := @readStores part data data' pos remaining r.count.toNat (remaining - r.count.toNat) called (by omega)
      refine .nearer ?_
      simp only [Thread.steps]
      omega

theorem headerProceeds {uninit : GenericHeaderAction} {header : Buffer} {readBytes : Nat}
    (ran : checkHeader uninit header readBytes inbox s = ⟨l,t,.ok next⟩) :
    Proceeds ⟨.read .header header readBytes,inbox⟩ next t := by
  rw [checkHeader,Program.bindApply,connectionApply,Outcome.andThenOk,Outcome.prependNil] at ran
  split at ran
  · rename_i accepted
    have whole : (Position.read .header header readBytes).steps = 23 := if_pos accepted.1
    cases parsed : parseGenericHeader uninit header genericHeaderLength with
    | error e =>
      rw [parsed,Program.liftErrorBind] at ran
      cases ran
    | ok action =>
      rw [parsed,Program.liftOkBind] at ran
      split at ran
      · cases ran
        exact nearerWithin (by rw [whole]; exact Nat.lt_succ_self 22)
      · cases ran
        exact nearerWithin (by rw [whole]; exact Nat.lt_add_of_pos_right (n := 19) (k := 4) (by decide))
  · exact closesProceeds ran

theorem advanceProceeds (app : Application σ) (uninit : GenericHeaderAction) {thread : Thread}
    (ran : advance app uninit thread s = ⟨l,t,.ok next⟩) : Proceeds thread next t := by
  obtain ⟨position,inbox⟩ := thread
  cases position with
  | idle =>
    cases ran
    exact nearerWithin (by decide)
  | reading part data pos remaining =>
    rw [advance] at ran
    split at ran
    · cases ran
      refine nearerWithin ?_
      cases part with
      | payload action => exact Nat.lt_add_of_pos_right (n := 20) (k := 2) (by decide)
      | header =>
        simp only [Position.steps]
        by_cases start : pos = 0
        · subst start
          decide
        · rw [if_neg start]
          split <;> decide
    · cases ran
      refine nearerWithin ?_
      cases part with
      | payload action => exact Nat.lt_succ_self 21
      | header =>
        simp only [Position.steps]
        split <;> decide
  | blocked part data pos remaining called => exact blockedProceeds ran
  | read part data readBytes =>
    cases part with
    | header => exact headerProceeds ran
    | payload action =>
      rw [advance] at ran
      split at ran
      · exact closesProceeds ran
      · cases ran
        exact nearerWithin (Nat.lt_succ_self 19)
  | complete action payload =>
    rw [advance,Program.bindApply,connectionApply,Outcome.andThenOk,Outcome.prependNil,Program.bindApply] at ran
    generalize (Program.when (s.connection.aliveCheckTimer.active = true) resetTimer : Doip σ Unit) s = o at ran
    obtain ⟨m,u,r⟩ := o
    cases r with
    | error e => cases ran
    | ok v =>
      cases ran
      exact nearerWithin (Nat.lt_succ_self 18)
  | dispatching action payload =>
    rw [advance,Program.bindApply] at ran
    generalize reactOnReceivedTcpMessage app action action.payloadLength.toNat payload s = o at ran
    obtain ⟨m,u,r⟩ := o
    cases r with
    | error e => cases ran
    | ok v =>
      cases ran
      exact nearerWithin (Nat.lt_add_of_pos_right (n := 10) (k := 8) (by decide))

end Steps
end LibDoip
