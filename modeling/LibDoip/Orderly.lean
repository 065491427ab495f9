import LibDoip.Record

/-! The order of a log. The registered address is what the log says it is, every notice and
delivery belongs to the frame that was dispatched last, and the address is only read unassigned
where the application was asked, or acted, before any activation. -/
namespace LibDoip
open Library
variable {σ α : Type}

def Orderly (past : List Event) : Event → Prop
  | .notifyApplication targetAddress => (record past).notices = 0 ∧
      (record past).expected = (record past).registered ∧
      ∃ d0 d1 d2 d3 data, (record past).Diagnostic d0 d1 d2 d3 data ∧ targetAddress = bigEndian16 d2 d3
  | .answered _ => (record past).notices = 1 ∧ (record past).answer = none ∧
      (record past).expected = (record past).registered ∧
      ∃ d0 d1 d2 d3 data, (record past).Diagnostic d0 d1 d2 d3 data
  | .diagCallback targetAddress data length => (record past).notices = 1 ∧
      (record past).answer = some true ∧ (record past).delivered = 0 ∧
      ∃ d0 d1 d2 d3, (record past).Diagnostic d0 d1 d2 d3 data ∧
        (record past).registered = some (d0,d1) ∧
        targetAddress.toNat = 256 * d2.toNat + d3.toNat ∧ length = data.length
  | .write _ message | .sslWrite _ message => ∀ address, routedBy message = some address →
      ∃ action d2 rest, (record past).frame =
          some (action,some (Buffer.filled (address.1::address.2::d2::rest))) ∧
        action.type = .routingActivationRequest ∧
        activationCode address.1 address.2 d2 = successfullyRoutedCode
  | _ => True

def Agreed (past : List Event) (e : Event) : Prop :=
  e = .answered true ∧ ∃ d0 d1 d2 d3 data, (record past).Diagnostic d0 d1 d2 d3 data ∧
    (record past).registered = some (d0,d1) ∧ data.length + 4 < 2147483648

def HandedOver (past : List Event) (_ next : Event) : Prop :=
  ∀ d0 d1 d2 d3 data, (record past).Diagnostic d0 d1 d2 d3 data →
    next = .diagCallback (bigEndian16 d2 d3) data data.length

/- The application does not agree to a message that reaches the address check, and does not send
diagnostic messages itself, before an activation was answered. -/
def AwaitsActivation (past : List Event) : Event → Prop
  | .called (.sendDiagnosticPayload _ _) | .called (.sendDiagnosticAck _ _ _) =>
      (record past).registered ≠ none
  | .answered true => (record past).registered ≠ none ∨
      ∀ d0 d1 d2 d3 data, (record past).Diagnostic d0 d1 d2 d3 data → 2147483648 ≤ data.length + 4
  | _ => True

def authorisation : Contract Fault Event (State σ) where
  assumes _ _ := True
  keeps past l f := Always Orderly past l ∧ Leads Agreed HandedOver past l ∧
    (f = some .indeterminatePointer ↔ ¬ Always AwaitsActivation past l)
  invariant past s := s.connection.routedClientAddress = (record past).registered
  nil past := ⟨trivial,trivial,by simp⟩
  append := by
    intro past l m f first second
    refine ⟨(Always.append past l m).mpr ⟨first.1,second.1⟩,first.2.1.append second.2.1,?_⟩
    have waited : Always AwaitsActivation past l :=
      Classical.byContradiction (fun early => by simpa using first.2.2.mpr early)
    rw [second.2.2,Always.append]
    exact not_congr ⟨fun later => ⟨waited,later⟩,fun both => both.2⟩

def Keeps (past l : List Event) (f : Option Fault) (routed : Option Address) : Prop :=
  (@authorisation Unit).keeps past l f ∧ routed = (record (past ++ l)).registered

theorem Keeps.append {past l m : List Event} {f : Option Fault} {a b : Option Address}
    (first : Keeps past l none a) (second : Keeps (past ++ l) m f b) : Keeps past (l ++ m) f b :=
  ⟨(@authorisation Unit).append first.1 second.1,by rw [← List.append_assoc]; exact second.2⟩

theorem keepsRelation {s t : State σ} {l : List Event} {f : Option Fault}
    (h : ∀ past, s.connection.routedClientAddress = (record past).registered →
      Keeps past l f t.connection.routedClientAddress) : authorisation.relation s l t f :=
  fun past holds _ => h past holds

theorem silentIsOrderly {e : Event} (silent : e.Silent) (past : List Event) :
    Orderly past e ∧ ¬ Agreed past e := by
  have empty := silent ⟨none,none,none,0,none,0⟩
  constructor
  · cases e with
    | notifyApplication _ => simp [Record.next] at empty
    | answered _ => simp [Record.next] at empty
    | diagCallback _ _ _ => simp [Record.next] at empty
    | write _ message => simp [Record.next] at empty; simp [Orderly,empty]
    | sslWrite _ message => simp [Record.next] at empty; simp [Orderly,empty]
    | _ => trivial
  · rintro ⟨rfl,_⟩
    simp [Record.next] at empty

theorem silentKeeps {l : List Event} (silent : ∀ e ∈ l, e.Silent) {past : List Event} {f : Option Fault}
    {routed : Option Address} (same : routed = (record past).registered)
    (fault : f = some .indeterminatePointer ↔ ¬ Always AwaitsActivation past l) : Keeps past l f routed := by
  refine ⟨⟨?_,?_,fault⟩,by rw [recordSilent silent]; exact same⟩
  · exact Always.ofForall (fun past e member => (silentIsOrderly (silent e member) past).1) past
  · exact Leads.ofQuiet (fun past e member => (silentIsOrderly (silent e member) past).2) past

theorem quietAwaits {e : Event} (quiet : e.Quiet) (past : List Event) : AwaitsActivation past e := by
  obtain ⟨silent,unused⟩ := quiet
  have empty := silent ⟨none,none,none,0,none,0⟩
  cases e with
  | called call => cases call <;> first | trivial | exact absurd trivial unused
  | answered ack => simp [Record.next] at empty
  | _ => trivial

theorem quietKeeps {l : List Event} (quiet : ∀ e ∈ l, e.Quiet) {past : List Event} {f : Option Fault}
    {routed : Option Address} (same : routed = (record past).registered)
    (fault : f ≠ some .indeterminatePointer) : Keeps past l f routed := by
  have waited : Always AwaitsActivation past l :=
    Always.ofForall (fun past e member => quietAwaits (quiet e member) past) past
  exact silentKeeps (fun e member => (quiet e member).1) same (iff_of_false fault (not_not_intro waited))

theorem effectKeeps {q : Event → Prop} {s t : State σ} {l : List Event}
    (effect : Effect q (fun _ => False) s l t none) (quiet : ∀ e, q e → e.Quiet)
    {past : List Event} (holds : s.connection.routedClientAddress = (record past).registered) :
    Keeps past l none t.connection.routedClientAddress :=
  quietKeeps (fun e member => quiet e (effect.events e member)) (effect.routed.trans holds) (by simp)

theorem callKeeps {s t : State σ} {l : List Event} {f : Option Fault} (effect : CallEffect s l t f)
    {past : List Event} (holds : s.connection.routedClientAddress = (record past).registered) :
    Keeps past l f t.connection.routedClientAddress := by
  have silent : ∀ e ∈ l, e.Silent := fun e member => Event.callIsSilent (effect.events e member)
  have unchanged : ∀ before after, l = before ++ after →
      (record (past ++ before)).registered = s.connection.routedClientAddress := by
    rintro before after rfl
    rw [recordSilent (fun e m => silent e (List.mem_append_left _ m)),holds]
  refine silentKeeps silent (effect.routed.trans holds) ?_
  rw [effect.stops]
  constructor
  · rintro ⟨unrouted,e,member,uses⟩ awaits
    obtain ⟨before,after,found⟩ := List.append_of_mem member
    have waited := awaits.split found
    have unregistered := (unchanged before _ found).trans unrouted
    match e, uses with
    | .called (.sendDiagnosticPayload _ _), _ => exact waited unregistered
    | .called (.sendDiagnosticAck _ _ _), _ => exact waited unregistered
  · intro early
    refine Classical.byContradiction (fun unused => early (Always.ofSplit ?_))
    intro before e after found
    have member : e ∈ l := by rw [found]; simp
    by_cases uses : e.UsesAddress
    · have registered : (record (past ++ before)).registered ≠ none := by
        rw [unchanged before _ found]
        exact fun unrouted => unused ⟨unrouted,e,member,uses⟩
      match e, uses with
      | .called (.sendDiagnosticPayload _ _), _ => exact registered
      | .called (.sendDiagnosticAck _ _ _), _ => exact registered
    · exact quietAwaits ⟨silent e member,uses⟩ (past ++ before)

theorem oneKeeps {past : List Event} {e : Event} (orderly : Orderly past e) (calm : ¬ Agreed past e)
    (waited : AwaitsActivation past e) : Keeps past [e] none ((record past).next e).registered :=
  ⟨⟨⟨orderly,trivial⟩,⟨fun agreed => absurd agreed calm,trivial⟩,by simp [waited]⟩,by rw [recordNext]⟩

structure JustDispatched (r : Record) (action : GenericHeaderAction) (payload : Option Buffer) : Prop where
  frame : r.frame = some (action,payload)
  expected : r.expected = r.registered
  notices : r.notices = 0
  answer : r.answer = none
  delivered : r.delivered = 0

theorem sentKeeps {past : List Event} (c : DoIPConnection) {bytes : List UInt8}
    (orderly : ∀ address, routedBy bytes = some address →
      ∃ action d2 rest, (record past).frame =
          some (action,some (Buffer.filled (address.1::address.2::d2::rest))) ∧
        action.type = .routingActivationRequest ∧
        activationCode address.1 address.2 d2 = successfullyRoutedCode) :
    Keeps past [sendEvent c bytes] none ((routedBy bytes).or (record past).registered) := by
  unfold sendEvent
  split
  · exact @oneKeeps past (.write c.clientSock bytes) orderly (by simp [Agreed]) trivial
  · rename_i ssl _
    exact @oneKeeps past (.sslWrite ssl bytes) orderly (by simp [Agreed]) trivial

theorem activationKeeps {d0 d1 d2 : UInt8} {rest : List UInt8} {action : GenericHeaderAction} {s : State σ}
    {o : Outcome Fault Event (State σ) Int} {past : List Event}
    (frame : (record past).frame = some (action,some (Buffer.filled (d0::d1::d2::rest))))
    (type : action.type = .routingActivationRequest)
    (holds : s.connection.routedClientAddress = (record past).registered)
    (h : ActivationReaction (d0,d1) (activationCode d0 d1 d2) s o) :
    Keeps past o.log o.fault o.state.connection.routedClientAddress := by
  have response := routedByResponse s.connection.logicalGatewayAddress (d0,d1) (activationCode d0 d1 d2)
  have orderly : ∀ address, routedBy (activationResponseBytes s.connection.logicalGatewayAddress (d0,d1)
      (activationCode d0 d1 d2)) = some address →
      ∃ action d2 rest, (record past).frame =
          some (action,some (Buffer.filled (address.1::address.2::d2::rest))) ∧
        action.type = .routingActivationRequest ∧
        activationCode address.1 address.2 d2 = successfullyRoutedCode := by
    intro address found
    rw [response] at found
    split at found
    · rename_i success
      cases found
      exact ⟨action,d2,rest,frame,type,success⟩
    · contradiction
  have first := sentKeeps s.connection orderly
  cases h with
  | @refused l t failed closing =>
    rw [response,if_neg failed,Option.none_or,← holds] at first
    exact first.append (effectKeeps closing.effect (fun _ => Event.closingIsQuiet) first.2)
  | @routed l t v success started =>
    rw [response,if_pos success,Option.some_or] at first
    refine first.append (quietKeeps ?_ (started.routed.trans first.2) (by simp))
    exact fun e member => Event.startIsQuiet (started.events e member)

theorem ledKeeps {past rest : List Event} {e next : Event} {f : Option Fault} {routed : Option Address}
    (orderly : Orderly past e) (waited : AwaitsActivation past e) (handed : HandedOver past e next)
    (later : Keeps (past ++ [e]) (next::rest) f routed) : Keeps past (e::next::rest) f routed := by
  obtain ⟨⟨always,leads,fault⟩,same⟩ := later
  refine ⟨⟨⟨orderly,always⟩,⟨fun _ => ⟨next,rest,rfl,handed⟩,leads⟩,?_⟩,by simpa using same⟩
  rw [fault,Always.cons past]
  exact not_congr ⟨fun later => ⟨waited,later⟩,fun both => both.2⟩

section Diagnostic
variable {app : Application σ} {d0 d1 d2 d3 : UInt8} {data : List UInt8} {action : GenericHeaderAction}
  {past : List Event} {s t : State σ} {l : List Event}

theorem notifiedOrderly {payload : Option Buffer} (just : JustDispatched (record past) action payload)
    (diagnostic : (record past).Diagnostic d0 d1 d2 d3 data)
    (holds : s.connection.routedClientAddress = (record past).registered) :
    Keeps past [.notifyApplication (bigEndian16 d2 d3)] none s.connection.routedClientAddress ∧
      record (past ++ [.notifyApplication (bigEndian16 d2 d3)]) = {record past with notices := 1} := by
  have order : Orderly past (.notifyApplication (bigEndian16 d2 d3)) :=
    ⟨just.notices,just.expected,d0,d1,d2,d3,data,diagnostic,rfl⟩
  have first := oneKeeps order (by simp [Agreed]) trivial
  refine ⟨?_,by simp [recordNext,Record.next,just.notices]⟩
  rw [holds]
  exact first

theorem answeredKeeps {payload : Option Buffer} {ack : Bool} (just : JustDispatched (record past) action payload)
    (diagnostic : (record past).Diagnostic d0 d1 d2 d3 data)
    (holds : s.connection.routedClientAddress = (record past).registered)
    (h : Notified app (bigEndian16 d2 d3) s ⟨l,t,.ok ack⟩) :
    ∃ before, l = before ++ [.answered ack] ∧ Keeps past before none t.connection.routedClientAddress ∧
      record (past ++ before) = {record past with notices := 1} := by
  obtain ⟨first,noticed⟩ := notifiedOrderly just diagnostic holds
  cases h with
  | @answered calls t out effect _ =>
    have started : s.connection.routedClientAddress =
        (record (past ++ [.notifyApplication (bigEndian16 d2 d3)])).registered := by rw [noticed]; exact holds
    refine ⟨.notifyApplication (bigEndian16 d2 d3)::calls,rfl,first.append (callKeeps effect started),?_⟩
    have silent : ∀ e ∈ calls, e.Silent := fun e member => Event.callIsSilent (effect.events e member)
    have later := recordSilent silent (past ++ [.notifyApplication (bigEndian16 d2 d3)])
    rw [List.append_assoc,List.singleton_append] at later
    rw [later,noticed]

theorem answerOrderly {payload : Option Buffer} {r : Record} {before : List Event} (ack : Bool)
    (just : JustDispatched r action payload) (diagnostic : r.Diagnostic d0 d1 d2 d3 data)
    (noticed : record before = {r with notices := 1}) : Orderly before (.answered ack) := by
  refine ⟨by rw [noticed],by rw [noticed]; exact just.answer,by rw [noticed]; exact just.expected,
    d0,d1,d2,d3,data,?_⟩
  rw [noticed]
  exact ⟨diagnostic.frame⟩

theorem deliveredKeeps {payload : Option Buffer} {r : Record} {before : List Event}
    {o : Outcome Fault Event (State σ) Unit} (just : JustDispatched r action payload)
    (diagnostic : r.Diagnostic d0 d1 d2 d3 data) (noticed : record before = {r with notices := 1})
    (registered : r.registered = some (d0,d1)) (routed : s.connection.routedClientAddress = some (d0,d1))
    (h : Delivered app (bigEndian16 d2 d3) data data.length s o) :
    Keeps before (.answered true::o.log) o.fault o.state.connection.routedClientAddress := by
  have order := answerOrderly true just diagnostic noticed
  have answered : record (before ++ [.answered true]) = {r with notices := 1, answer := some true} := by
    rw [recordNext,noticed]
    rfl
  have handed : HandedOver before (.answered true) (.diagCallback (bigEndian16 d2 d3) data data.length) := by
    intro e0 e1 e2 e3 other found
    rw [noticed] at found
    obtain ⟨_,_,rfl,rfl,rfl⟩ := diagnostic.unique ⟨found.frame⟩
    rfl
  have value : (bigEndian16 d2 d3).toNat = 256 * d2.toNat + d3.toNat := by
    rw [bigEndian16Value]
    omega
  have inOrder : Orderly (before ++ [.answered true])
      (.diagCallback (bigEndian16 d2 d3) data data.length) := by
    refine ⟨by rw [answered],by rw [answered],by rw [answered]; exact just.delivered,
      d0,d1,d2,d3,?_,by rw [answered]; exact registered,value,rfl⟩
    rw [answered]
    exact ⟨diagnostic.frame⟩
  have callback := oneKeeps inOrder (by simp [Agreed]) trivial
  have waited : AwaitsActivation before (.answered true) := Or.inl (by rw [noticed]; simp [registered])
  have started : s.connection.routedClientAddress = (record (before ++ [.answered true] ++
      [.diagCallback (bigEndian16 d2 d3) data data.length])).registered := by
    rw [recordNext,answered,routed,← registered]
    rfl
  cases h with
  | stopped effect _ => exact ledKeeps order waited handed (callback.append (callKeeps effect started))
  | returned effect _ => exact ledKeeps order waited handed (callback.append (callKeeps effect started))

theorem diagnosticKeeps {payload : Option Buffer} {o : Outcome Fault Event (State σ) Int}
    (just : JustDispatched (record past) action payload)
    (diagnostic : (record past).Diagnostic d0 d1 d2 d3 data)
    (holds : s.connection.routedClientAddress = (record past).registered)
    (h : DiagnosticReaction app d0 d1 d2 d3 data s o) :
    Keeps past o.log o.fault o.state.connection.routedClientAddress := by
  cases h with
  | @stopped l t e notified =>
    obtain ⟨first,noticed⟩ := notifiedOrderly just diagnostic holds
    obtain ⟨effect,_⟩ := notified
    have started : s.connection.routedClientAddress =
        (record (past ++ [.notifyApplication (bigEndian16 d2 d3)])).registered := by rw [noticed]; exact holds
    exact first.append (callKeeps effect started)
  | @unheard l t ack notified reason =>
    obtain ⟨before,rfl,first,noticed⟩ := answeredKeeps just diagnostic holds notified
    have order := answerOrderly ack just diagnostic noticed
    have calm : ¬ Agreed (past ++ before) (.answered ack) := by
      rintro ⟨yes,e0,e1,e2,e3,other,found,registered,small⟩
      rw [noticed] at found registered
      obtain ⟨rfl,rfl,_,_,rfl⟩ := diagnostic.unique ⟨found.frame⟩
      rcases reason with no | long | ⟨address,routed,different⟩
      · rw [no] at yes
        simp at yes
      · omega
      · rw [holds,registered] at routed
        exact different (Option.some.inj routed).symm
    have waited : AwaitsActivation (past ++ before) (.answered ack) := by
      cases ack with
      | false => trivial
      | true =>
        rcases reason with no | long | ⟨address,routed,_⟩
        · contradiction
        · refine Or.inr (fun e0 e1 e2 e3 other found => ?_)
          rw [noticed] at found
          obtain ⟨_,_,_,_,rfl⟩ := diagnostic.unique ⟨found.frame⟩
          exact long
        · refine Or.inl ?_
          rw [noticed,← holds,routed]
          simp
    have second := oneKeeps order calm waited
    rw [noticed] at second
    refine first.append ?_
    rw [notified.routed,holds]
    exact second
  | @unrouted l t notified small unrouted =>
    obtain ⟨before,rfl,first,noticed⟩ := answeredKeeps just diagnostic holds notified
    have order := answerOrderly true just diagnostic noticed
    have unregistered : (record (past ++ before)).registered = none := by
      rw [noticed,← unrouted,holds]
    have calm : ¬ Agreed (past ++ before) (.answered true) := by
      rintro ⟨_,_,_,_,_,_,_,registered,_⟩
      rw [unregistered] at registered
      contradiction
    refine first.append ⟨⟨⟨order,trivial⟩,⟨fun agreed => absurd agreed calm,trivial⟩,?_⟩,?_⟩
    · refine iff_of_true rfl (fun awaits => ?_)
      rcases awaits.1 with registered | long
      · exact registered unregistered
      · have := long d0 d1 d2 d3 data (by rw [noticed]; exact ⟨diagnostic.frame⟩)
        omega
    · rw [notified.routed,unrouted,recordNext]
      exact unregistered.symm
  | @delivered l m t u r notified small routed delivered =>
    obtain ⟨before,rfl,first,noticed⟩ := answeredKeeps just diagnostic holds notified
    have later := deliveredKeeps just diagnostic noticed (holds.symm.trans routed)
      (notified.routed.trans routed) delivered
    have all := first.append later
    rw [List.append_assoc]
    cases r <;> exact all

end Diagnostic
theorem negativeAckKeeps {value : UInt8} {past : List Event} {s : State σ}
    {o : Outcome Fault Event (State σ) Int} (holds : s.connection.routedClientAddress = (record past).registered)
    (h : NegativeAckReaction value s o) : Keeps past o.log o.fault o.state.connection.routedClientAddress := by
  have sent : (sendEvent s.connection (negativeAckBytes value)).Quiet :=
    Event.sendingIsQuiet (sendEventOfSending s.connection (negativeAckNotRouting value))
  cases h with
  | closed _ closing =>
    refine quietKeeps ?_ (closing.effect.routed.trans holds) (by simp)
    exact List.forall_mem_cons.mpr ⟨sent,fun e member => Event.closingIsQuiet (closing.effect.events e member)⟩
  | kept _ errors =>
    refine quietKeeps (List.forall_mem_cons.mpr ⟨sent,?_⟩) holds (by simp)
    intro e member
    obtain ⟨ssl,err,rfl,_⟩ := errors e member
    exact Event.closingIsQuiet trivial

theorem reactionKeeps {app : Application σ} {action : GenericHeaderAction} {payload : Option Buffer}
    {past : List Event} {s : State σ} {o : Outcome Fault Event (State σ) Int}
    (just : JustDispatched (record past) action payload)
    (holds : s.connection.routedClientAddress = (record past).registered)
    (h : Reaction app action payload s o) : Keeps past o.log o.fault o.state.connection.routedClientAddress := by
  cases h with
  | ignored => exact quietKeeps (by simp) holds (by simp)
  | unreadable => exact quietKeeps (by simp) holds (by simp)
  | negativeAck _ reaction => exact negativeAckKeeps holds reaction
  | activation d0 d1 d2 rest type bytes reaction =>
    exact activationKeeps (by rw [just.frame,bytes]) type holds reaction
  | diagnostic d0 d1 d2 d3 data type bytes size reaction =>
    exact diagnosticKeeps just ⟨action,by rw [just.frame,bytes],type,size⟩ holds reaction

theorem dispatchedKeeps {app : Application σ} {action : GenericHeaderAction} {payload : Option Buffer}
    {past : List Event} {s : State σ} {o : Outcome Fault Event (State σ) Int}
    (holds : s.connection.routedClientAddress = (record past).registered)
    (h : Dispatched app action payload s o) : Keeps past o.log o.fault o.state.connection.routedClientAddress := by
  cases h with
  | @dispatched resets t o reset retimed reaction =>
    have quiet : Keeps past resets none s.connection.routedClientAddress := by
      refine quietKeeps ?_ holds (by simp)
      intro e member
      obtain ⟨now,rfl⟩ := reset e member
      exact Event.startIsQuiet trivial
    have received := @oneKeeps (past ++ resets) (.received action payload) trivial (by simp [Agreed]) trivial
    have just : JustDispatched (record (past ++ resets ++ [.received action payload])) action payload := by
      rw [recordNext]
      exact ⟨rfl,rfl,rfl,rfl,rfl⟩
    have started : t.connection.routedClientAddress =
        (record (past ++ resets ++ [.received action payload])).registered := by
      rw [retimed.routed,recordNext,quiet.2]
      rfl
    have reacted := reactionKeeps just started reaction
    have all := quiet.append (received.append reacted)
    rw [Outcome.prependLog,List.append_assoc]
    exact all

theorem receiveKeeps (app : Application σ) (uninit : GenericHeaderAction) (inbox : List Arrival) :
    Program.Meets authorisation.relation (receiveTcpOrTlsMessage app uninit inbox) := by
  intro s
  refine keepsRelation ?_
  intro past holds
  have received := receives app uninit inbox s
  generalize receiveTcpOrTlsMessage app uninit inbox s = o at received
  cases received with
  | @closed l m t u rest reading _ _ ran =>
    have closing := (closeSocketClosed ran).2
    refine quietKeeps ?_ (closing.routed.trans (reading.effect.routed.trans holds)) (by simp)
    refine List.forall_mem_cons.mpr ⟨Event.receivingIsQuiet,List.forall_mem_append.mpr ⟨?_,?_⟩⟩
    · exact fun e member => Event.readingIsQuiet (reading.effect.events e member)
    · exact fun e member => Event.closingIsQuiet (closing.events e member)
  | @frame l frame rest events _ _ _ =>
    have quiet : Keeps past (.receiving::l) none s.connection.routedClientAddress := by
      refine quietKeeps (List.forall_mem_cons.mpr ⟨Event.receivingIsQuiet,?_⟩) holds (by simp)
      exact fun e member => Event.readingIsQuiet ((readsEffect events).events e member)
    have dispatched := messageReceivedDispatched app (.frame frame) frame.rules.bound s
    rw [Outcome.prependLog,Outcome.prependState,Outcome.prependFault,returnLog,returnState,returnFault]
    exact quiet.append (dispatchedKeeps quiet.2 dispatched)
  | @mistaken l t action rest reading _ _ rules size =>
    have quiet : Keeps past (.receiving::l) none t.connection.routedClientAddress := by
      refine quietKeeps (List.forall_mem_cons.mpr ⟨Event.receivingIsQuiet,?_⟩) (reading.effect.routed.trans holds)
        (by simp)
      exact fun e member => Event.readingIsQuiet (reading.effect.events e member)
    have dispatched := mistakenDispatched app rules size t
    rw [Outcome.prependLog,Outcome.prependState,Outcome.prependFault,returnLog,returnState,returnFault]
    exact quiet.append (dispatchedKeeps quiet.2 dispatched)

theorem runKeeps (app : Application σ) (ops : List Op) (inbox : List Arrival) :
    Program.Meets authorisation.relation (run app ops inbox) := by
  refine Program.iterateMeets authorisation.composable ?_ ops inbox
  intro op inbox
  cases op with
  | receive uninit => exact fun s => stepReceiveAt authorisation.composable (receiveKeeps app uninit inbox s)
  | call call =>
    refine stepCallMeets authorisation.composable ?_ inbox
    exact fun s => keepsRelation (fun past holds => callKeeps (performEffect call s) holds)

theorem freshRunKeeps (app : Application σ) (ops : List Op) (inbox : List Arrival) {s : State σ}
    (fresh : Fresh s) :
    Always Orderly [] (run app ops inbox s).log ∧ Leads Agreed HandedOver [] (run app ops inbox s).log ∧
      ((run app ops inbox s).fault = some .indeterminatePointer ↔
        ¬ Always AwaitsActivation [] (run app ops inbox s).log) ∧
      (run app ops inbox s).state.connection.routedClientAddress =
        (record (run app ops inbox s).log).registered := by
  obtain ⟨clientSock,gateway,ssl,startTime,maxSeconds,constructed⟩ := fresh
  have start : s.connection.routedClientAddress = (record []).registered := by rw [constructed]; rfl
  obtain ⟨⟨order,leads,fault⟩,registered⟩ := runKeeps app ops inbox s [] start
    (Always.ofForall (fun _ _ _ => trivial) [])
  exact ⟨order,leads,fault,registered⟩

end LibDoip
