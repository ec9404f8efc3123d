import Ipsc2Hbp.Proof.LinkPeer
import Ipsc2Hbp.Proof.Tracking

namespace Ipsc2Hbp
open BigEndian

/-- The translator's answers to plain effects do not keep the next effect from being shown. -/
theorem Bridge.deliver_after_plain (digests : Digests) (dmr : DmrUtils) (cfg : Config)
    (urandom : StreamId) (clock : Clock) (ipsc : IpscStack) {front : List IpscOutput}
    (plain : ∀ output ∈ front, output.IsPlain) (output : IpscOutput) (back : List IpscOutput)
    (core : Core) :
    .ipsc output ∈ (deliver digests dmr cfg urandom clock ipsc core (front ++ output :: back)).2 := by
  induction front generalizing core with
  | nil => exact deliver_head ..
  | cons first rest ih =>
      have tail := ih fun other member => plain other (List.mem_cons_of_mem _ member)
      have quiet := plain first List.mem_cons_self
      rw [List.cons_append, deliver_cons]
      cases first with
      | peerRegistered | peerLost | ipscVoiceReceived | raised => exact quiet.elim
      | send | checkCallTimeouts => exact List.mem_append_right _ (tail _)

theorem mem_handedOver {log : List Output} {ts : Timeslot} {entry : QueueEntry} :
    (ts, entry) ∈ handedOver log ↔ .slot ts (.sendToPeer entry) ∈ log := by
  constructor
  · intro member
    obtain ⟨output, inside, shown⟩ := List.mem_filterMap.mp member
    split at shown
    case h_1 => cases shown; exact inside
    case h_2 => cases shown
  · exact fun member => List.mem_filterMap.mpr ⟨_, member, rfl⟩

/-- What a callback hands over from a state of a run is made on its timeslot. -/
theorem step_handed_made {digests : Digests} {dmr : DmrUtils} {cfg : Config} {state : Bridge}
    (ran : ∃ shown, Translates dmr cfg (fun _ => True) Translator.initial state.core.translator shown)
    (event : BridgeEvent) {ts : Timeslot} {entry : QueueEntry}
    (member : (ts, entry) ∈
      handedOver ((Bridge.step digests dmr cfg state event).2.filterMap BridgeOutput.translated)) :
    entry.Made cfg ts := by
  obtain ⟨shown, before⟩ := ran
  obtain ⟨calls, -, whole⟩ := before.trans
    ((Bridge.step_translates digests dmr cfg state event).imp fun _ _ => trivial)
  refine handed_made dmr cfg calls ?_
  rw [whole]
  exact List.mem_append_right _ (mem_handedOver.mp member)

/-- A datagram of a program is a packet that its stack sends. -/
theorem BridgeOutput.datagram_eq {source : Addr} (output : BridgeOutput) {datagram : Datagram}
    (same : output.datagram source = some datagram) :
    output = .ipsc (.send datagram.data datagram.host datagram.port) ∧ datagram.source = source := by
  unfold BridgeOutput.datagram at same
  split at same
  · cases same
    exact ⟨rfl, rfl⟩
  · cases same

namespace Link
variable {link : Link} {digests : Digests} {dmr : DmrUtils}

/-- The report of the peer's registration is in the log. -/
def Reported (link : Link) (log : List LinkOutput) : Prop := .inl (.ipsc link.report) ∈ log

/-- The packets that the translators of the two sides have handed over. -/
def masterHanded (log : List LinkOutput) : List (Timeslot × QueueEntry) :=
  handedOver ((log.filterMap Sum.getLeft?).filterMap BridgeOutput.translated)

def peerHanded (log : List LinkOutput) : List (Timeslot × QueueEntry) :=
  handedOver ((log.filterMap Sum.getRight?).filterMap BridgeOutput.translated)

theorem handedOver_append (first second : List Output) :
    handedOver (first ++ second) = handedOver first ++ handedOver second := List.filterMap_append

/-- The reports and handed packets of a log grow with it. -/
structure Extends (link : Link) (log more : List LinkOutput) : Prop where
  reported : link.Reported log → link.Reported more
  master : ∀ handed ∈ masterHanded log, handed ∈ masterHanded more
  peer : ∀ handed ∈ peerHanded log, handed ∈ peerHanded more

theorem extends_append (log more : List LinkOutput) : link.Extends log (log ++ more) where
  reported shown := List.mem_append_left _ shown
  master handed member := by
    simp only [masterHanded, List.filterMap_append, handedOver_append]
    exact List.mem_append_left _ member
  peer handed member := by
    simp only [peerHanded, List.filterMap_append, handedOver_append]
    exact List.mem_append_left _ member

section Mono
variable {told told' : Prop} {handed handed' heard heard' : List (Timeslot × QueueEntry)}

theorem voiceOf_mono {payload : Bytes} (voice : VoiceOf handed payload)
    (more : ∀ passed ∈ handed, passed ∈ handed') : VoiceOf handed' payload := fun first => by
  obtain ⟨ts, entry, member, same⟩ := voice first
  exact ⟨ts, entry, more _ member, same⟩

theorem MasterKnows.mono {master : IpscMaster} (knows : link.MasterKnows told master)
    (grows : told → told') : link.MasterKnows told' master := fun registered => by
  obtain ⟨id, ip, port, knew⟩ := knows registered
  exact ⟨id, ip, port, grows knew⟩

theorem PeerKnows.mono {peer : IpscPeer} (knows : link.PeerKnows told peer) (grows : told → told') :
    link.PeerKnows told' peer :=
  ⟨knows.peers, knows.masterIp, knows.masterPort, knows.masterId,
    fun registered => (knows.registered registered).imp_left grows⟩

theorem MasterTells.mono {output : IpscOutput}
    (tells : MasterTells digests link told handed heard output) (grows : told → told')
    (more : ∀ passed ∈ handed, passed ∈ handed') (hears : ∀ passed ∈ heard, passed ∈ heard') :
    MasterTells digests link told' handed' heard' output := by
  cases output with
  | send packet host port =>
      obtain ⟨toHost, toPort, knew, payload, packed, bears, voice, opcode, list⟩ := tells
      exact ⟨toHost, toPort, grows knew, payload, packed, bears, voiceOf_mono voice more, opcode, list⟩
  | ipscVoiceReceived data ts burstType =>
      obtain ⟨parsed, slot, entry, member, same⟩ := tells
      exact ⟨parsed, slot, entry, hears _ member, same⟩
  | peerRegistered => exact tells
  | peerLost | checkCallTimeouts | raised => exact tells

theorem PeerTells.mono {output : IpscOutput}
    (tells : PeerTells digests link told handed heard output) (grows : told → told')
    (more : ∀ passed ∈ handed, passed ∈ handed') (hears : ∀ passed ∈ heard, passed ∈ heard') :
    PeerTells digests link told' handed' heard' output := by
  cases output with
  | send packet host port =>
      obtain ⟨toHost, toPort, payload, packed, bears, voice⟩ := tells
      exact ⟨toHost, toPort, payload, packed, bears, voiceOf_mono voice more⟩
  | ipscVoiceReceived data ts burstType =>
      obtain ⟨parsed, slot, entry, member, same⟩ := tells
      exact ⟨parsed, slot, entry, hears _ member, same⟩
  | peerRegistered =>
      obtain ⟨id, host, port, knew⟩ := tells
      exact ⟨id, host, port, grows knew⟩
  | peerLost | checkCallTimeouts | raised => exact tells

end Mono

/-- The law of the link: what both sides know, and that each has said nothing else than it may. -/
structure Lawful (digests : Digests) (dmr : DmrUtils) (link : Link) (log : List LinkOutput)
    (state : LinkState) : Prop where
  master : ∃ master, state.1.ipsc = .master master ∧ link.MasterKnows (link.Reported log) master
  peer : ∃ peer, state.2.ipsc = .peer peer ∧ link.PeerKnows (link.Reported log) peer
  masterRan : ∃ shown, Translates dmr link.master (fun _ => True) Translator.initial state.1.core.translator shown
  peerRan : ∃ shown, Translates dmr link.peer (fun _ => True) Translator.initial state.2.core.translator shown
  masterTells : ∀ output, .inl (.ipsc output) ∈ log →
    MasterTells digests link (link.Reported log) (masterHanded log) (peerHanded log) output
  peerTells : ∀ output, .inr (.ipsc output) ∈ log →
    PeerTells digests link (link.Reported log) (peerHanded log) (masterHanded log) output

/-- A report among the effects of the master's stack is shown. -/
theorem report_shown {told : Prop} {master : IpscMaster} (core : Core) (event : IpscEvent)
    (urandom : StreamId) (clock : Clock) (ipsc : IpscStack)
    (reports : link.report ∈ (master.step digests link.master event).2) :
    told ∨ .ipsc link.report ∈ (Bridge.deliver digests dmr link.master urandom clock ipsc core
      (master.step digests link.master event).2).2 := by
  right
  have registration := master.step_registration digests link.master event
  dsimp only at registration
  generalize (master.step digests link.master event).2 = outputs at registration reports ⊢
  cases registration with
  | same still quiet => exact absurd trivial (quiet _ reports)
  | @gained front back down up first last peerId host port =>
      rcases List.mem_append.mp reports with early | late
      · exact (first _ early).elim
      · rcases List.mem_cons.mp late with same | later
        · rw [same]
          exact Bridge.deliver_after_plain digests dmr link.master urandom clock ipsc first _ back core
        · exact (last _ later).elim
  | lost up down first =>
      rcases List.mem_append.mp reports with early | late
      · exact (first _ early).elim
      · cases List.mem_singleton.mp late

/-- One callback of the master's program. -/
theorem step_master (proper : link.Proper) {told : Prop} {handed heard : List (Timeslot × QueueEntry)}
    {state : Bridge} {master : IpscMaster} (stack : state.ipsc = .master master)
    (knows : link.MasterKnows told master)
    (ran : ∃ shown, Translates dmr link.master (fun _ => True) Translator.initial state.core.translator shown)
    (event : BridgeEvent)
    (hears : ∀ callback ∈ event.ipsc?, callback.Hears digests link.master
      (.inet link.peerHost link.peerPort) (link.FromPeer heard))
    (more : ∀ passed ∈ handedOver ((Bridge.step digests dmr link.master state event).2.filterMap
      BridgeOutput.translated), passed ∈ handed) :
    let result := Bridge.step digests dmr link.master state event
    (∃ after, result.1.ipsc = .master after ∧
      link.MasterKnows (told ∨ .ipsc link.report ∈ result.2) after) ∧
    ∀ output, .ipsc output ∈ result.2 →
      MasterTells digests link (told ∨ .ipsc link.report ∈ result.2) handed heard output := by
  intro result
  have passes {after : IpscMaster} (ipsc : result.1.ipsc = .master after)
      (known : link.MasterKnows (told ∨ .ipsc link.report ∈ result.2) after) {output : IpscOutput}
      (passed : ∃ ts entry, (ts, entry) ∈ handedOver (result.2.filterMap BridgeOutput.translated) ∧
        output ∈ result.1.ipsc.sendToPeer digests link.master entry.packet) :
      MasterTells digests link (told ∨ .ipsc link.report ∈ result.2) handed heard output := by
    obtain ⟨ts, entry, member, sent⟩ := passed
    rw [ipsc] at sent
    exact sendToPeer_masterTells proper.masterSource known (more _ member)
      (step_handed_made ran event member) output sent
  cases event with
  | drain ts clock =>
      have known : link.MasterKnows (told ∨ .ipsc link.report ∈ result.2) master := knows.mono .inl
      refine ⟨⟨master, stack, known⟩, fun output member => ?_⟩
      rcases Bridge.step_ipsc_effects digests dmr link.master member with own | passed
      · cases own
      · exact passes stack known passed
  | hbp event draw clock =>
      have known : link.MasterKnows (told ∨ .ipsc link.report ∈ result.2) master := knows.mono .inl
      refine ⟨⟨master, stack, known⟩, fun output member => ?_⟩
      rcases Bridge.step_ipsc_effects digests dmr link.master member with own | passed
      · cases own
      · exact passes stack known passed
  | ipsc event urandom clock =>
      obtain ⟨known, tells⟩ := step_masterTells proper.peerWidth knows (hears event rfl)
      have ipsc : result.1.ipsc = .master (master.step digests link.master event).1 := by
        simp only [result, Bridge.step, stack, IpscStack.step]
      have outputs : (state.ipsc.step digests link.master event).2 =
          (master.step digests link.master event).2 := by rw [stack]; rfl
      have grows (before : told ∨ link.report ∈ (master.step digests link.master event).2) :
          told ∨ .ipsc link.report ∈ result.2 := by
        rcases before with knew | reports
        · exact .inl knew
        · simp only [result, Bridge.step, outputs]
          exact report_shown state.core event urandom clock _ reports
      have after := known.mono grows
      refine ⟨⟨_, ipsc, after⟩, fun output member => ?_⟩
      rcases Bridge.step_ipsc_effects digests dmr link.master member with own | passed
      · have inside : output ∈ (master.step digests link.master event).2 := by
          rw [BridgeEvent.ipsc?, Option.toList_some, Mealy.run_cons, Mealy.run_nil,
            List.append_nil] at own
          rw [← outputs]
          exact own
        exact (tells output inside).mono grows (fun _ => id) fun _ => id
      · exact passes ipsc after passed

/-- One callback of the peer's program. -/
theorem step_peer (proper : link.Proper) {told : Prop} {handed heard : List (Timeslot × QueueEntry)}
    {state : Bridge} {peer : IpscPeer} (stack : state.ipsc = .peer peer)
    (knows : link.PeerKnows told peer)
    (ran : ∃ shown, Translates dmr link.peer (fun _ => True) Translator.initial state.core.translator shown)
    (event : BridgeEvent)
    (hears : ∀ callback ∈ event.ipsc?, callback.Hears digests link.peer
      (.inet link.masterHost link.masterPort) fun payload => told ∧ link.FromMaster heard payload)
    (more : ∀ passed ∈ handedOver ((Bridge.step digests dmr link.peer state event).2.filterMap
      BridgeOutput.translated), passed ∈ handed) :
    let result := Bridge.step digests dmr link.peer state event
    (∃ after, result.1.ipsc = .peer after ∧ link.PeerKnows told after) ∧
    ∀ output, .ipsc output ∈ result.2 → PeerTells digests link told handed heard output := by
  intro result
  have passes {after : IpscPeer} (ipsc : result.1.ipsc = .peer after)
      (known : link.PeerKnows told after) {output : IpscOutput}
      (passed : ∃ ts entry, (ts, entry) ∈ handedOver (result.2.filterMap BridgeOutput.translated) ∧
        output ∈ result.1.ipsc.sendToPeer digests link.peer entry.packet) :
      PeerTells digests link told handed heard output := by
    obtain ⟨ts, entry, member, sent⟩ := passed
    rw [ipsc] at sent
    exact sendToPeer_peerTells proper known (more _ member) (step_handed_made ran event member) output
      sent
  cases event with
  | drain ts clock =>
      refine ⟨⟨peer, stack, knows⟩, fun output member => ?_⟩
      rcases Bridge.step_ipsc_effects digests dmr link.peer member with own | passed
      · cases own
      · exact passes stack knows passed
  | hbp event draw clock =>
      refine ⟨⟨peer, stack, knows⟩, fun output member => ?_⟩
      rcases Bridge.step_ipsc_effects digests dmr link.peer member with own | passed
      · cases own
      · exact passes stack knows passed
  | ipsc event urandom clock =>
      obtain ⟨known, tells⟩ := step_peerTells proper knows (hears event rfl)
      have ipsc : result.1.ipsc = .peer (peer.step digests link.peer event).1 := by
        simp only [result, Bridge.step, stack, IpscStack.step]
      refine ⟨⟨_, ipsc, known⟩, fun output member => ?_⟩
      rcases Bridge.step_ipsc_effects digests dmr link.peer member with own | passed
      · have inside : output ∈ (peer.step digests link.peer event).2 := by
          rw [BridgeEvent.ipsc?, Option.toList_some, Mealy.run_cons, Mealy.run_nil,
            List.append_nil, stack] at own
          exact own
        exact tells output inside
      · exact passes ipsc known passed

section Carried
variable {log : List LinkOutput} {state : LinkState}

/-- A datagram that arrives at the master was sent by the peer. -/
theorem Lawful.master_hears (lawful : Lawful digests dmr link log state)
    (documented : digests.Documented) (proper : link.Proper) {event : BridgeEvent}
    (arrived : Mealy.Carried link.sent (link.arrives digests) log state (.inl event)) :
    ∀ callback ∈ event.ipsc?, callback.Hears digests link.master
      (.inet link.peerHost link.peerPort) (link.FromPeer (peerHanded log)) := by
  rintro callback known
  cases event with
  | drain | hbp => cases known
  | ipsc event urandom clock =>
      obtain rfl := Option.some.inj known
      cases event with
      | connectionMade | watchdog | maintenance => trivial
      | datagramReceived data addr now =>
          intro payload checked
          obtain ⟨output, inside, same⟩ := arrived ⟨data, addr, link.masterHost, link.masterPort⟩ (by
            simp [arrives, BridgeEvent.datagram, checked])
          rcases output with output | output
          · obtain ⟨rfl, -⟩ := output.datagram_eq same
            obtain ⟨toHost, toPort, -⟩ := lawful.masterTells _ inside
            exact absurd ⟨toHost, toPort⟩ (not_and_or.mpr proper.apart)
          · obtain ⟨rfl, source⟩ := output.datagram_eq same
            obtain ⟨-, -, sent, packed, from_peer⟩ := lawful.peerTells _ inside
            dsimp only at packed
            rw [packed, ← checkedPayload_congr digests proper.authEnabled proper.authKey,
              checkedPayload_signed documented link.peer from_peer.bears.filled] at checked
            obtain rfl := Option.some.inj checked
            exact ⟨source, from_peer⟩

/-- A datagram that arrives at the peer was sent by the master, which has registered the peer. -/
theorem Lawful.peer_hears (lawful : Lawful digests dmr link log state)
    (documented : digests.Documented) (proper : link.Proper) {event : BridgeEvent}
    (arrived : Mealy.Carried link.sent (link.arrives digests) log state (.inr event)) :
    ∀ callback ∈ event.ipsc?, callback.Hears digests link.peer
      (.inet link.masterHost link.masterPort) fun payload =>
        link.Reported log ∧ link.FromMaster (masterHanded log) payload := by
  rintro callback known
  cases event with
  | drain | hbp => cases known
  | ipsc event urandom clock =>
      obtain rfl := Option.some.inj known
      cases event with
      | connectionMade | watchdog | maintenance => trivial
      | datagramReceived data addr now =>
          intro payload checked
          obtain ⟨output, inside, same⟩ := arrived ⟨data, addr, link.peerHost, link.peerPort⟩ (by
            simp [arrives, BridgeEvent.datagram, checked])
          rcases output with output | output
          · obtain ⟨rfl, source⟩ := output.datagram_eq same
            obtain ⟨-, -, knew, sent, packed, from_master⟩ := lawful.masterTells _ inside
            dsimp only at packed
            rw [packed, checkedPayload_congr digests proper.authEnabled proper.authKey,
              checkedPayload_signed documented link.master from_master.bears.filled] at checked
            obtain rfl := Option.some.inj checked
            exact ⟨source, knew, from_master⟩
          · obtain ⟨rfl, -⟩ := output.datagram_eq same
            obtain ⟨toHost, toPort, -⟩ := lawful.peerTells _ inside
            exact absurd ⟨toHost.symm, toPort.symm⟩ (not_and_or.mpr proper.apart)

/-- What a callback of the master's program shows, the longer log shows. -/
theorem masterHanded_new (log : List LinkOutput) (outputs : List BridgeOutput) :
    ∀ passed ∈ handedOver (outputs.filterMap BridgeOutput.translated),
      passed ∈ masterHanded (log ++ outputs.map Sum.inl) := by
  intro passed member
  rw [masterHanded, List.filterMap_append, List.filterMap_append, handedOver_append,
    (Mealy.filterMap_getLeft outputs).1]
  exact List.mem_append_right _ member

theorem peerHanded_new (log : List LinkOutput) (outputs : List BridgeOutput) :
    ∀ passed ∈ handedOver (outputs.filterMap BridgeOutput.translated),
      passed ∈ peerHanded (log ++ outputs.map Sum.inr) := by
  intro passed member
  rw [peerHanded, List.filterMap_append, List.filterMap_append, handedOver_append,
    (Mealy.filterMap_getRight outputs).1]
  exact List.mem_append_right _ member

/-- Every callback keeps the law while the network carries only what was sent. -/
theorem Lawful.step (lawful : Lawful digests dmr link log state) (documented : digests.Documented)
    (proper : link.Proper) {event : LinkEvent}
    (arrived : Mealy.Carried link.sent (link.arrives digests) log state event) :
    let result := (link.machine digests dmr).step state event
    Lawful digests dmr link (log ++ result.2) result.1 := by
  intro result
  have grows : link.Extends log (log ++ result.2) := extends_append log result.2
  obtain ⟨master, masterStack, masterKnows⟩ := lawful.master
  obtain ⟨peer, peerStack, peerKnows⟩ := lawful.peer
  have masterBefore (output : IpscOutput) (inside : .inl (.ipsc output) ∈ log) :=
    (lawful.masterTells output inside).mono grows.reported grows.master grows.peer
  have peerBefore (output : IpscOutput) (inside : .inr (.ipsc output) ∈ log) :=
    (lawful.peerTells output inside).mono grows.reported grows.peer grows.master
  cases event with
  | inl event =>
      have told : (link.Reported log ∨
          .ipsc link.report ∈ (Bridge.step digests dmr link.master state.1 event).2) →
            link.Reported (log ++ result.2) := by
        rintro (before | now)
        · exact grows.reported before
        · exact List.mem_append_right _ (List.mem_map_of_mem now)
      obtain ⟨⟨after, stack, knows⟩, tells⟩ := step_master proper masterStack masterKnows
        lawful.masterRan event (lawful.master_hears documented proper arrived)
        (masterHanded_new log (Bridge.step digests dmr link.master state.1 event).2)
      refine ⟨⟨after, stack, knows.mono told⟩, ⟨peer, peerStack, peerKnows.mono grows.reported⟩, ?_,
        lawful.peerRan, fun output inside => ?_, fun output inside => ?_⟩
      · obtain ⟨shown, ran⟩ := lawful.masterRan
        exact ⟨_, ran.trans
          ((Bridge.step_translates digests dmr link.master state.1 event).imp fun _ _ => trivial)⟩
      · rcases List.mem_append.mp inside with before | now
        · exact masterBefore output before
        · obtain ⟨other, member, same⟩ := List.mem_map.mp now
          obtain rfl := Sum.inl.inj same
          exact (tells output member).mono told (fun _ => id) grows.peer
      · rcases List.mem_append.mp inside with before | now
        · exact peerBefore output before
        · obtain ⟨other, member, same⟩ := List.mem_map.mp now
          cases same
  | inr event =>
      obtain ⟨⟨after, stack, knows⟩, tells⟩ := step_peer proper peerStack peerKnows
        lawful.peerRan event (lawful.peer_hears documented proper arrived)
        (peerHanded_new log (Bridge.step digests dmr link.peer state.2 event).2)
      refine ⟨⟨master, masterStack, masterKnows.mono grows.reported⟩,
        ⟨after, stack, knows.mono grows.reported⟩, lawful.masterRan, ?_, fun output inside => ?_,
        fun output inside => ?_⟩
      · obtain ⟨shown, ran⟩ := lawful.peerRan
        exact ⟨_, ran.trans
          ((Bridge.step_translates digests dmr link.peer state.2 event).imp fun _ _ => trivial)⟩
      · rcases List.mem_append.mp inside with before | now
        · exact masterBefore output before
        · obtain ⟨other, member, same⟩ := List.mem_map.mp now
          cases same
      · rcases List.mem_append.mp inside with before | now
        · exact peerBefore output before
        · obtain ⟨other, member, same⟩ := List.mem_map.mp now
          obtain rfl := Sum.inr.inj same
          exact (tells output member).mono grows.reported (fun _ => id) grows.master

end Carried

/-- At the start nothing is said and nobody is registered. -/
theorem lawful_initial (proper : link.Proper) : Lawful digests dmr link [] link.initial where
  master := by
    refine ⟨{}, ?_, fun registered => by cases registered⟩
    simp only [initial, Bridge.initial, IpscStack.initial, proper.masterMode]
  peer := by
    refine ⟨IpscPeer.initial link.peer, ?_, rfl, proper.upstreamIp, proper.upstreamPort,
      proper.upstreamId, fun registered => by cases registered⟩
    simp only [initial, Bridge.initial, IpscStack.initial, proper.peerMode]
  masterRan := ⟨[], .refl _⟩
  peerRan := ⟨[], .refl _⟩
  masterTells _ inside := by cases inside
  peerTells _ inside := by cases inside

/-- The law holds after every run in which the network carries only what was sent. -/
theorem lawful_run (documented : digests.Documented) (proper : link.Proper) {events : List LinkEvent}
    (carried : link.Carried digests dmr events) :
    let result := (link.machine digests dmr).run link.initial events
    Lawful digests dmr link result.2 result.1 :=
  (link.machine digests dmr).run_log_invariant _ (Lawful digests dmr link)
    (fun _ _ _ arrived lawful => lawful.step documented proper arrived) [] link.initial events carried
    (lawful_initial proper)

/-- The sides of a run of the link are runs of the two programs. -/
theorem run_sides (digests : Digests) (dmr : DmrUtils) (link : Link) (events : List LinkEvent) :
    let result := (link.machine digests dmr).run link.initial events
    (bridge digests dmr link.master).run (Bridge.initial link.master)
        (events.filterMap Sum.getLeft?) = (result.1.1, result.2.filterMap Sum.getLeft?) ∧
      (bridge digests dmr link.peer).run (Bridge.initial link.peer)
        (events.filterMap Sum.getRight?) = (result.1.2, result.2.filterMap Sum.getRight?) :=
  Mealy.beside_run _ _ link.initial events

/-- What a program hands over in a run is made on its timeslot. -/
theorem run_handed_made (digests : Digests) (dmr : DmrUtils) (cfg : Config)
    (events : List BridgeEvent) {ts : Timeslot} {entry : QueueEntry}
    (member : (ts, entry) ∈ handedOver
      (((bridge digests dmr cfg).run (Bridge.initial cfg) events).2.filterMap
        BridgeOutput.translated)) : entry.Made cfg ts := by
  obtain ⟨calls, -, ran⟩ := Bridge.run_translates digests dmr cfg (Bridge.initial cfg) events
  refine handed_made dmr cfg calls ?_
  have same : ((translator dmr cfg).run Translator.initial calls).2 =
      ((bridge digests dmr cfg).run (Bridge.initial cfg) events).2.filterMap
        BridgeOutput.translated := congrArg Prod.snd ran
  rw [same]
  exact mem_handedOver.mp member

/-- A voice packet that is heard is one that was handed over, on the same timeslot and with the same
burst type. -/
theorem voice_entry {cfg : Config} {data : Bytes} {ts : Timeslot} {burstType : UInt8}
    {handed : List (Timeslot × QueueEntry)}
    (made : ∀ ts entry, (ts, entry) ∈ handed → entry.Made cfg ts)
    (heard : parseGroupVoiceMeta data = .ok (ts, burstType) ∧
      ∃ ts entry, (ts, entry) ∈ handed ∧ entry.packet = data) :
    ∃ entry, (ts, entry) ∈ handed ∧ entry.packet = data ∧ entry.burstType = burstType := by
  obtain ⟨parsed, slot, entry, member, rfl⟩ := heard
  have same := (made slot entry member).parsed.symm.trans parsed
  simp only [Except.ok.injEq, Prod.mk.injEq] at same
  obtain ⟨rfl, rfl⟩ := same
  exact ⟨entry, member, rfl, rfl⟩

section Voice
variable (documented : digests.Documented) (proper : link.Proper) {events : List LinkEvent}
  (carried : link.Carried digests dmr events) {data : Bytes} {ts : Timeslot} {burstType : UInt8}
include documented proper carried

/-- A voice packet that reaches the master's translator was handed over by the peer's. -/
theorem master_voice (heard : .inl (.ipsc (.ipscVoiceReceived data ts burstType)) ∈
      ((link.machine digests dmr).run link.initial events).2) :
    ∃ entry, (ts, entry) ∈ peerHanded ((link.machine digests dmr).run link.initial events).2 ∧
      entry.packet = data ∧ entry.burstType = burstType := by
  have lawful := lawful_run documented proper carried
  have same := congrArg Prod.snd (link.run_sides digests dmr events).2
  dsimp only at same
  have made (ts : Timeslot) (entry : QueueEntry) (member : (ts, entry) ∈
      peerHanded ((link.machine digests dmr).run link.initial events).2) : entry.Made link.peer ts := by
    rw [peerHanded, ← same] at member
    exact run_handed_made digests dmr link.peer _ member
  exact voice_entry made (lawful.masterTells _ heard)

/-- A voice packet that reaches the peer's translator was handed over by the master's. -/
theorem peer_voice (heard : .inr (.ipsc (.ipscVoiceReceived data ts burstType)) ∈
      ((link.machine digests dmr).run link.initial events).2) :
    ∃ entry, (ts, entry) ∈ masterHanded ((link.machine digests dmr).run link.initial events).2 ∧
      entry.packet = data ∧ entry.burstType = burstType := by
  have lawful := lawful_run documented proper carried
  have same := congrArg Prod.snd (link.run_sides digests dmr events).1
  dsimp only at same
  have made (ts : Timeslot) (entry : QueueEntry) (member : (ts, entry) ∈
      masterHanded ((link.machine digests dmr).run link.initial events).2) : entry.Made link.master ts := by
    rw [masterHanded, ← same] at member
    exact run_handed_made digests dmr link.master _ member
  exact voice_entry made (lawful.peerTells _ heard)

end Voice

end Link

variable {digests : Digests} {dmr : DmrUtils} {link : Link}

/-- A key that both sides have. -/
def linkKey : Bytes := List.replicate 18 0 ++ [0x12, 0x34]

/-- The HMACs of a registration's packets and of a header under that key. -/
def linkHmac : Bytes → Bytes
  | 0x80 :: _ => [0x44, 0x87, 0xf3, 0x58, 0xf3, 0x8b, 0xb9, 0x1a, 0x29, 0x30, 0x3f, 0x2c, 0x59, 0x81, 0xcc,
      0xbd, 0xaf, 0x4b, 0xaf, 0xb0]
  | 0x90 :: _ => [0xdb, 0x02, 0x48, 0x3b, 0xd4, 0xd6, 0x88, 0x7b, 0x2f, 0xef, 0x56, 0xf7, 0x0f, 0x13, 0xee,
      0x98, 0x02, 0x7e, 0x7b, 0x06]
  | 0x91 :: _ => [0x98, 0x2a, 0xd8, 0xf3, 0x84, 0xf1, 0xe1, 0xdb, 0x7d, 0xd0, 0x48, 0xfa, 0xe5, 0xd3, 0xe7,
      0xd5, 0x07, 0xe1, 0xc7, 0x8a]
  | 0x92 :: _ => [0x12, 0x03, 0xc5, 0x0e, 0x80, 0x12, 0xb2, 0xf1, 0x7b, 0x2f, 0xf0, 0x06, 0x20, 0xa2, 0x67,
      0x80, 0x57, 0x57, 0x54, 0xcc]
  | 0x93 :: _ => [0x35, 0x18, 0x84, 0xf6, 0x0f, 0x23, 0xeb, 0x53, 0xe2, 0x91, 0xc9, 0xbc, 0x06, 0x55, 0x2e,
      0x09, 0x42, 0x4d, 0x16, 0xbe]
  | _ => List.replicate 20 0

def linkDigests : Digests where
  sha256 := loginDigests.sha256
  hmacSha1 _ := linkHmac

theorem linkDigests_documented : linkDigests.Documented where
  sha256 _ := rfl
  hmacSha1 key message := by
    change (linkHmac message).length = 20
    unfold linkHmac
    split <;> rfl

/-- A link with authentication; the peer passes on calls at once. -/
def homeLink : Link where
  master := { allowedPeerIp := "10.0.0.2", authEnabled := true, authKey := linkKey }
  peer := {
    ipscMode := .peer, ipscPeerId := 2, ipscSourceId := 2, authEnabled := true, authKey := linkKey
    ipscUpstreamMasterIp := "10.0.0.1", ipscUpstreamMasterPort := 50000, hbpToIpscPacing := false
    hbpStartOnVoice := false, hbpToIpscHeaderRepeats := 1 }
  masterHost := "10.0.0.1"
  masterPort := 50000
  peerHost := "10.0.0.2"
  peerPort := 50000

theorem homeLink_proper : homeLink.Proper := by
  constructor <;> decide

/-- A signed packet of the peer arrives at the master. -/
def peerToMaster (payload : Bytes) (time : Time) : LinkEvent :=
  .inl (.ipsc (.datagramReceived (signed linkDigests homeLink.peer payload) (.inet "10.0.0.2" 50000) time)
    firstDraw fun _ => time)

def masterToPeer (payload : Bytes) (time : Time) : LinkEvent :=
  .inr (.ipsc (.datagramReceived (signed linkDigests homeLink.master payload)
    (.inet "10.0.0.1" 50000) time) firstDraw fun _ => time)

/-- The first packet of a call that the peer's translator generates. -/
def homeHead : Bytes :=
  buildGv homeLink.peer {} [0, 0, 7] [0, 0, 1] 0x00 (rtpHeader 0xdd 0 0)
    ([voiceHead] ++ buildIpscVoicePayload dmrCodec (dmrCodec.lcOpt ++ [0, 0, 1] ++ [0, 0, 7]) voiceHead) 1

/-- The peer registers, its client logs in, and a call's header crosses the link; the registration
arrives twice. -/
def homeRun : List LinkEvent :=
  [.inl (.ipsc .connectionMade firstDraw fun _ => 0), .inr (.ipsc .connectionMade firstDraw fun _ => 0),
    .inl (clientEvent .start 0), .inr (clientEvent .start 0),
    peerToMaster (IpscPeer.masterRegReqPacket homeLink.peer) 1,
    masterToPeer (IpscMaster.masterRegReplyPacket homeLink.master) 2,
    peerToMaster (IpscPeer.masterRegReqPacket homeLink.peer) 3,
    .inr (clientEvent .loopTop 3), .inr (clientEvent .endpointCreated 3)] ++
    List.replicate 3 (.inr (clientEvent (.datagramReceived (hbpfRptack ++ [1, 2, 3, 4]) 4) 4)) ++
    [.inr (clientEvent (.datagramReceived (masterHead dmrCodec [9, 9, 9, 9] [0, 0, 7] [0, 0, 1]) 5) 5),
      peerToMaster homeHead 6]

theorem homeRun_carried : homeLink.Carried linkDigests dmrCodec homeRun := by
  unfold Link.Carried
  decide +kernel

/-- In every run over a network that loses, repeats and delays datagrams the two sides agree: the master
has registered nobody but the peer at its address, the peer takes nobody but the master for its master
and knows no other peer, and it counts as registered only after the master's translator was told so.
Every datagram goes to the other side. -/
theorem link_agrees (documented : digests.Documented) (proper : link.Proper) (events : List LinkEvent)
    (carried : link.Carried digests dmr events) :
    let result := (link.machine digests dmr).run link.initial events
    (∃ master, result.1.1.ipsc = .master master ∧ (master.registered = true →
      master.peerId = some (idB link.peer.ipscPeerId) ∧ master.peerIp = some link.peerHost ∧
        master.peerPort = some link.peerPort)) ∧
    (∃ peer, result.1.2.ipsc = .peer peer ∧ peer.peers = [] ∧ peer.masterIp = link.masterHost ∧
      peer.masterPort = link.masterPort ∧ (peer.registered = true →
        peer.masterId = link.master.ipscMasterId ∧ link.Reported result.2)) ∧
    ∀ output ∈ result.2, ∀ datagram ∈ link.sent output,
      (datagram.source = .inet link.masterHost link.masterPort ∧
        datagram.host = link.peerHost ∧ datagram.port = link.peerPort) ∨
      (datagram.source = .inet link.peerHost link.peerPort ∧
        datagram.host = link.masterHost ∧ datagram.port = link.masterPort) := by
  intro result
  have lawful := Link.lawful_run documented proper carried
  obtain ⟨master, masterStack, masterKnows⟩ := lawful.master
  obtain ⟨peer, peerStack, peerKnows⟩ := lawful.peer
  refine ⟨⟨master, masterStack, fun registered => ?_⟩, ⟨peer, peerStack, peerKnows.peers,
    peerKnows.masterIp, peerKnows.masterPort, fun registered => (peerKnows.registered registered).symm⟩,
    ?_⟩
  · obtain ⟨id, ip, port, -⟩ := masterKnows registered
    exact ⟨id, ip, port⟩
  · intro output inside datagram same
    rcases output with output | output
    · obtain ⟨rfl, source⟩ := output.datagram_eq same
      obtain ⟨toHost, toPort, -⟩ := lawful.masterTells _ inside
      exact .inl ⟨source, toHost, toPort⟩
    · obtain ⟨rfl, source⟩ := output.datagram_eq same
      obtain ⟨toHost, toPort, -⟩ := lawful.peerTells _ inside
      exact .inr ⟨source, toHost, toPort⟩

theorem link_agrees_home :
    let result := (homeLink.machine linkDigests dmrCodec).run homeLink.initial homeRun
    result.1.1.ipsc.isPeerRegistered = true ∧ result.1.2.ipsc.isPeerRegistered = true ∧
      homeLink.Reported result.2 := by
  obtain ⟨-, ⟨peer, stack, -, -, -, knows⟩, -⟩ :=
    link_agrees linkDigests_documented homeLink_proper homeRun homeRun_carried
  have registered : ((homeLink.machine linkDigests dmrCodec).run homeLink.initial
      homeRun).1.2.ipsc.isPeerRegistered = true := by decide +kernel
  refine ⟨by decide +kernel, registered, (knows ?_).2⟩
  rw [stack] at registered
  exact registered

/-- In every such run each voice packet that reaches a translator is one that the other side's
translator has handed over before, byte for byte, on the same timeslot and with the same burst type. -/
theorem link_voice_authentic (documented : digests.Documented) (proper : link.Proper)
    (events : List LinkEvent) (carried : link.Carried digests dmr events) :
    let log := ((link.machine digests dmr).run link.initial events).2
    ∀ data ts burstType,
      (.inl (.ipsc (.ipscVoiceReceived data ts burstType)) ∈ log → ∃ entry,
        (ts, entry) ∈ Link.peerHanded log ∧ entry.packet = data ∧ entry.burstType = burstType) ∧
      (.inr (.ipsc (.ipscVoiceReceived data ts burstType)) ∈ log → ∃ entry,
        (ts, entry) ∈ Link.masterHanded log ∧ entry.packet = data ∧ entry.burstType = burstType) := by
  intro log data ts burstType
  exact ⟨Link.master_voice documented proper carried, Link.peer_voice documented proper carried⟩

theorem link_voice_authentic_home :
    let log := ((homeLink.machine linkDigests dmrCodec).run homeLink.initial homeRun).2
    ∃ entry, (.ts1, entry) ∈ Link.peerHanded log ∧ entry.packet = homeHead ∧
      entry.burstType = voiceHead := by
  have heard : ∃ output ∈ ((homeLink.machine linkDigests dmrCodec).run homeLink.initial homeRun).2,
      output = .inl (.ipsc (.ipscVoiceReceived homeHead .ts1 voiceHead)) := by decide +kernel
  obtain ⟨output, member, rfl⟩ := heard
  exact (link_voice_authentic linkDigests_documented homeLink_proper homeRun homeRun_carried homeHead .ts1
    voiceHead).1 member

end Ipsc2Hbp
