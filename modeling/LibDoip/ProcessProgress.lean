import LibDoip.Process
import LibDoip.ThreadProgress

/-! No client's thread runs for ever. What it has left to do gets less with each of its own steps and not more with
anything the others do, so that it comes to its end and has given everything back. -/
namespace LibDoip
open Library
variable {σ : Type}

def ServedClient.remaining (c : ServedClient σ) : Nat := match c.phase with
  | .finished => 0
  | .serving thread => if thread.position = .idle ∧ ¬ isSocketActive c.state.connection then 1 else thread.steps + 2

section Client
variable {c : ServedClient σ}

theorem remainingFinished (finished : c.phase = .finished) : c.remaining = 0 := by
  rw [ServedClient.remaining,finished]

theorem remainingClosed {thread : Thread} (phase : c.phase = .serving thread) (idle : thread.position = .idle)
    (closed : ¬ isSocketActive c.state.connection) : c.remaining = 1 := by
  rw [ServedClient.remaining,phase]
  exact if_pos ⟨idle,closed⟩

theorem remainingServing {thread : Thread} (phase : c.phase = .serving thread)
    (open' : thread.position = .idle → isSocketActive c.state.connection) : c.remaining = thread.steps + 2 := by
  rw [ServedClient.remaining,phase]
  exact if_neg (fun ⟨idle,closed⟩ => closed (open' idle))

theorem remainingAtMost {thread : Thread} (phase : c.phase = .serving thread) : c.remaining ≤ thread.steps + 2 := by
  rw [ServedClient.remaining,phase]
  dsimp only
  split <;> omega

theorem remainingOver (none : c.remaining = 0) : c.phase = .finished := by
  cases phase : c.phase with
  | finished => rfl
  | serving thread =>
    rw [ServedClient.remaining,phase] at none
    dsimp only at none
    split at none <;> omega

end Client

def Turn.own : Turn → Bool
  | .client _ => true
  | _ => false

section Turns
variable {app : Application σ} {turn : Turn} {phase next : Phase} {s t : State σ} {l : List Event}

theorem turnShut (ran : handleClient app turn phase s = ⟨l,t,.ok next⟩) (closed : ¬ isSocketActive s.connection) :
    ¬ isSocketActive t.connection := by
  have confines := turnConfined app turn phase s
  rw [Program.At,ran] at confines
  intro active
  have own : t.connection.Holds (.descriptor t.connection.clientSock) := ⟨active,rfl⟩
  have held : s.connection.Holds (.descriptor t.connection.clientSock) := ((confines.kept (.descriptor _)).mp own).1
  exact closed (fun zero => active (held.2.symm.trans zero))

theorem turnStays (other : turn.own = false) (ran : handleClient app turn phase s = ⟨l,t,.ok next⟩) : next = phase := by
  have returns : ∀ {α : Type} {x : Doip σ α} {phase : Phase}, (do
      let _ ← x
      pure phase : Doip σ Phase) s = ⟨l,t,.ok next⟩ → next = phase := by
    intro α x phase ran
    rw [Program.bindApply] at ran
    generalize x s = o at ran
    obtain ⟨m,u,r⟩ := o
    cases r with
    | error e => cases ran
    | ok v =>
      cases ran
      rfl
  cases turn with
  | client uninit => cases other
  | timer => exact returns ran
  | call call =>
    cases phase with
    | serving thread => exact returns ran
    | finished =>
      cases ran
      rfl

end Turns

section Client
variable {c : ServedClient σ} {app : Application σ} {turn : Turn} {next : Phase} {l : List Event} {t : State σ}

theorem otherRemains (other : turn.own = false) (ran : handleClient app turn c.phase c.state = ⟨l,t,.ok next⟩) :
    (c.take ⟨l,t,.ok next⟩).remaining ≤ c.remaining := by
  have phase : (c.take ⟨l,t,.ok next⟩).phase = c.phase := turnStays other ran
  cases serving : c.phase with
  | finished =>
    rw [remainingFinished (phase.trans serving)]
    exact Nat.zero_le _
  | serving thread =>
    by_cases last : thread.position = .idle ∧ ¬ isSocketActive c.state.connection
    · have before := remainingClosed serving last.1 last.2
      have after := remainingClosed (phase.trans serving) last.1 (turnShut ran last.2)
      omega
    · rw [remainingServing serving (fun idle closed => last ⟨idle,not_not_intro closed⟩)]
      exact remainingAtMost (phase.trans serving)

theorem ownRemains {uninit : GenericHeaderAction} {thread : Thread} (phase : c.phase = .serving thread)
    (ran : handleClient app (.client uninit) c.phase c.state = ⟨l,t,.ok next⟩) :
    (c.take ⟨l,t,.ok next⟩).remaining < c.remaining := by
  rw [phase] at ran
  by_cases last : thread.position = .idle ∧ ¬ isSocketActive c.state.connection
  · obtain ⟨position,inbox⟩ := thread
    obtain ⟨rfl,closed⟩ := last
    rw [remainingClosed phase rfl closed]
    rw [handleClient,Program.bindApply,connectionApply,Outcome.andThenOk,Outcome.prependNil,if_neg closed] at ran
    cases ran
    exact Nat.one_pos
  · have open' : thread.position = .idle → isSocketActive c.state.connection :=
      fun idle closed => last ⟨idle,not_not_intro closed⟩
    rw [turnAdvances app uninit thread open'] at ran
    rw [remainingServing phase open']
    cases advanced : advance app uninit thread c.state with
    | mk m u r =>
      rw [advanced] at ran
      cases r with
      | error e => cases ran
      | ok thread' =>
        cases ran
        cases advanceProceeds app uninit advanced with
        | nearer less => exact Nat.lt_of_le_of_lt (remainingAtMost rfl) (Nat.add_lt_add_right less 2)
        | closed idle closed =>
          have last := remainingClosed (c := c.take ⟨m,u,.ok (.serving thread')⟩) rfl idle closed
          exact Nat.lt_of_le_of_lt (Nat.le_of_eq last) (Nat.succ_lt_succ (Nat.zero_lt_succ _))

theorem turnRemains (ran : handleClient app turn c.phase c.state = ⟨l,t,.ok next⟩) :
    (c.take ⟨l,t,.ok next⟩).remaining ≤ c.remaining - turn.own.toNat := by
  cases turn with
  | timer => exact otherRemains rfl ran
  | call call => exact otherRemains rfl ran
  | client uninit =>
    cases phase : c.phase with
    | serving thread => exact Nat.le_sub_one_of_lt (ownRemains phase ran)
    | finished =>
      rw [phase] at ran
      cases ran
      exact Nat.zero_le _

end Client

def ProcessMove.serves (i : Nat) : ProcessMove σ → Bool
  | .turn j t => j == i && t.own
  | _ => false

theorem runEnded (app : Application σ) {p : Process σ} (ended : p.ended ≠ none) (moves : List (ProcessMove σ)) :
    p.run app moves = p := by
  induction moves with
  | nil => rfl
  | cons m moves ih =>
    have stopped : p.step app m = p := by
      unfold Process.step
      exact if_neg ended
    exact (congrArg (fun q => Process.run app q moves) stopped).trans ih

theorem stillRunning {app : Application σ} {p : Process σ} {moves : List (ProcessMove σ)}
    (running : (p.run app moves).ended = none) : p.ended = none := by
  refine Decidable.byContradiction (fun ended => ended ?_)
  rw [← running,runEnded app ended]

structure Seen (c d : ServedClient σ) (steps : Nat) : Prop where
  arrivals : d.arrivals = c.arrivals
  less : d.remaining ≤ c.remaining - steps

theorem moveSeen (app : Application σ) {p : Process σ} (m : ProcessMove σ) (running : (p.step app m).ended = none) {i : Nat}
    {c : ServedClient σ} (found : p.clients[i]? = some c) :
    ∃ d, (p.step app m).clients[i]? = some d ∧ Seen c d (m.serves i).toNat := by
  have same : Seen c c 0 := ⟨rfl,Nat.le_refl _⟩
  have now : p.ended = none := stillRunning (show (p.run app [m]).ended = none from running)
  unfold Process.step at running ⊢
  rw [if_pos now] at running ⊢
  cases m with
  | sets setting => exact ⟨c,found,same⟩
  | listens isTls arriving =>
    refine ⟨c,?_,same⟩
    dsimp only
    split
    · unfold Process.listenTcpOrTls
      split
      · exact found
      · exact (List.getElem?_append_left (List.getElem?_eq_some_iff.mp found).1).trans found
    · exact found
  | turn j turn =>
    dsimp only at running ⊢
    by_cases own : j = i
    · subst own
      rw [found] at running ⊢
      dsimp only at running ⊢
      have inside : j < p.clients.length := (List.getElem?_eq_some_iff.mp found).1
      cases ran : handleClient app turn c.phase c.state with
      | mk l t r =>
        rw [ran] at running
        cases r with
        | error e => cases running
        | ok next =>
          refine ⟨c.take ⟨l,t,.ok next⟩,List.getElem?_set_self inside,rfl,?_⟩
          rw [ProcessMove.serves,beq_self_eq_true,Bool.true_and]
          exact turnRemains ran
    · have other : (ProcessMove.turn j turn : ProcessMove σ).serves i = false := by
        rw [ProcessMove.serves,beq_false_of_ne own,Bool.false_and]
      rw [other]
      refine ⟨c,?_,same⟩
      split
      · exact (List.getElem?_set_ne own).trans found
      · exact found

theorem movesSeen (app : Application σ) {p : Process σ} (moves : List (ProcessMove σ))
    (running : (p.run app moves).ended = none) {i : Nat} {c : ServedClient σ} (found : p.clients[i]? = some c) :
    ∃ d, (p.run app moves).clients[i]? = some d ∧ Seen c d (moves.countP (·.serves i)) := by
  induction moves generalizing p c with
  | nil => exact ⟨c,found,rfl,Nat.le_refl _⟩
  | cons m moves ih =>
    obtain ⟨d,found',seen⟩ := moveSeen app m (stillRunning running) found
    obtain ⟨e,found'',seen'⟩ := ih running found'
    refine ⟨e,found'',seen'.arrivals.trans seen.arrivals,?_⟩
    have first := seen.less
    have later := seen'.less
    rw [List.countP_cons]
    cases own : m.serves i with
    | false =>
      rw [own,Bool.toNat_false] at first
      rw [if_neg Bool.false_ne_true]
      omega
    | true =>
      rw [own,Bool.toNat_true] at first
      rw [if_pos rfl]
      omega

def Process.Bounded (p : Process σ) : Prop := p.ended = none → ∀ c ∈ p.clients,
  c.remaining ≤ 20 * Inbox.total c.arrivals + 12

theorem Process.Bounded.steps {p : Process σ} (bounded : p.Bounded) (app : Application σ) (m : ProcessMove σ) :
    (p.step app m).Bounded := by
  unfold Process.step
  split
  · rename_i now
    cases m with
    | sets setting => exact bounded
    | listens isTls arriving =>
      dsimp only
      split
      · unfold Process.listenTcpOrTls
        split
        · exact fun running => absurd running (Option.some_ne_none _)
        · rename_i connection made
          intro _ c member
          rcases List.mem_append.mp member with before | new
          · exact bounded now c before
          · cases List.mem_singleton.mp new
            exact remainingAtMost (c := .new connection arriving) rfl
      · exact bounded
    | turn i turn =>
      dsimp only
      split
      · rename_i c found
        intro running d member
        rcases List.mem_or_eq_of_mem_set member with other | rfl
        · exact bounded now d other
        · have before := bounded now c (List.mem_of_getElem? found)
          cases ran : handleClient app turn c.phase c.state with
          | mk l t r =>
            rw [ran] at running
            cases r with
            | error e => cases running
            | ok next =>
              exact Nat.le_trans (turnRemains ran) (Nat.le_trans (Nat.sub_le _ _) before)
      · exact bounded
  · exact bounded

theorem Process.Bounded.runs {p : Process σ} (bounded : p.Bounded) (app : Application σ) (moves : List (ProcessMove σ)) :
    (p.run app moves).Bounded := by
  induction moves generalizing p with
  | nil => exact bounded
  | cons m moves ih => exact ih (bounded.steps app m)

theorem clientsFinish (app : Application σ) {p : Process σ} (fresh : p.Fresh) (moves later : List (ProcessMove σ))
    {i : Nat} {c : ServedClient σ} (found : (p.run app moves).clients[i]? = some c)
    (often : 20 * Inbox.total c.arrivals + 12 ≤ later.countP (·.serves i))
    (running : (p.run app (moves ++ later)).ended = none) :
    ∃ d, (p.run app (moves ++ later)).clients[i]? = some d ∧ d.phase = .finished ∧
      d.state.connection.clientSock = 0 ∧ d.state.connection.ssl = none := by
  have start : p.Bounded := by
    intro _ c member
    rw [fresh.clients] at member
    exact absurd member List.not_mem_nil
  have kept := fresh.kept.runs app (moves ++ later)
  have split : p.run app (moves ++ later) = (p.run app moves).run app later := List.foldl_append
  rw [split] at running kept ⊢
  have bound := start.runs app moves (stillRunning running) c (List.mem_of_getElem? found)
  obtain ⟨d,found',seen⟩ := movesSeen app later running found
  have through : d.phase = .finished := by
    refine remainingOver ?_
    have less := seen.less
    omega
  obtain ⟨settled,closes⟩ := kept.released running d (List.mem_of_getElem? found')
  exact ⟨d,found',through,closes through,settled.closed (closes through)⟩

def leavingStart : List (ProcessMove Unit) :=
  [.listens false {Arriving.usual 5 0 with inbox := [.data 0x02 [0xFD],.data 0x00 []]},.turn 0 .timer]

def leavingLater : List (ProcessMove Unit) :=
  [.listens true (.usual 6 1),.turn 1 (.client ⟨.negativeAck,0,0⟩)] ++
    List.replicate 72 (.turn 0 (.client ⟨.negativeAck,0,0⟩))

theorem leavingRuns : (Process.listening.run (.answering true) (leavingStart ++ leavingLater)).ended = none := by
  decide +kernel

theorem clientsFinishLeaving :
    ∃ d, (Process.listening.run (.answering true) (leavingStart ++ leavingLater)).clients[0]? = some d ∧
      d.phase = .finished ∧ d.state.connection.clientSock = 0 ∧ d.state.connection.ssl = none :=
  clientsFinish (.answering true) listeningFresh leavingStart leavingLater rfl (by decide) leavingRuns

end LibDoip
