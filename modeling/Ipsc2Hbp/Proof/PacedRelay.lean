import Ipsc2Hbp.Proof.PacingAgrees
import Ipsc2Hbp.Proof.Relay

namespace Ipsc2Hbp
open BigEndian

/-- A run of callbacks that do not concern a timeslot does nothing there. -/
theorem run_unseen (dmr : DmrUtils) (cfg : Config) {ts : Timeslot} {events : List Event}
    (unseen : ∀ event ∈ events, event.atSlot ts = none) (tr : Translator) :
    slotActions ts ((translator dmr cfg).run tr events).2 = [] := by
  induction events generalizing tr with
  | nil => rfl
  | cons event rest ih =>
      have quiet := (Translator.step_unseen dmr cfg tr (unseen event List.mem_cons_self)).2
      rw [Mealy.run_cons, slotActions_append]
      change slotActions ts (Translator.step dmr cfg tr event).2 ++ _ = []
      rw [quiet, ih fun other member => unseen other (List.mem_cons_of_mem _ member)]
      rfl

/-- Where one timeslot alone sends, its packets are all of the log. -/
theorem sentPackets_alone {ts : Timeslot} {log : List Output}
    (alone : ∀ other, other ≠ ts → sentEntries (slotActions other log) = []) :
    sentPackets log = (sentEntries (slotActions ts log)).map QueueEntry.packet := by
  induction log with
  | nil => rfl
  | cons output rest ih =>
      have split (here : Timeslot) : sentEntries (slotActions here (output :: rest)) =
          sentEntries (slotActions here [output]) ++ sentEntries (slotActions here rest) := by
        rw [← sentEntries_append, ← slotActions_append]
        rfl
      have later := ih fun other apart => by
        have silent := alone other apart
        rw [split] at silent
        exact (List.append_eq_nil_iff.mp silent).2
      have first : sentPackets [output] =
          (sentEntries (slotActions ts [output])).map QueueEntry.packet := by
        cases output with
        | slot here action =>
            have shown (other : Timeslot) : slotActions other [Output.slot here action] =
                if here = other then [action] else [] := slotActions_map other here [action]
            have packets : sentPackets [Output.slot here action] =
                (sentEntries [action]).map QueueEntry.packet := by cases action <;> rfl
            by_cases same : here = ts
            · rw [shown, if_pos same, packets]
            · have silent := alone here same
              rw [split, shown, if_pos rfl] at silent
              rw [shown, if_neg same, packets, (List.append_eq_nil_iff.mp silent).1]
              rfl
        | raised | activate | deactivate => rfl
      have whole : sentPackets (output :: rest) = sentPackets [output] ++ sentPackets rest := by
        rw [sentPackets, sentPackets, sentPackets, ← List.filterMap_append]
        rfl
      rw [whole, first, later, split ts, List.map_append]

/-- The frames of a call do not concern the other timeslot. -/
theorem WholeHbpCall.unseen {dmr : DmrUtils} {cfg : Config} {ts other : Timeslot}
    {srcSub dstGroup : Bytes} (call : WholeHbpCall dmr cfg ts srcSub dstGroup) (apart : other ≠ ts) :
    ∀ event ∈ call.events, event.atSlot other = none := by
  have away {delivery : Delivery cfg} {burst : CallBurst} (here : burst.timeslot = ts)
      (reads : readDmrd dmr delivery.dmrd = ⟨true, call.stream, burst⟩) :
      delivery.event.atSlot other = none := by
    obtain ⟨accepted, timeslot⟩ := delivery.accepted reads
    have elsewhere : (HbpFrame.read delivery.dmrd).timeslot ≠ other := by
      rw [timeslot, here]
      exact apart.symm
    simp [Delivery.event, Event.atSlot, accepted, elsewhere]
  intro event member
  obtain ⟨delivery, inside, rfl⟩ := List.mem_map.mp member
  rcases List.mem_append.mp inside with head | rest
  · exact away rfl (call.head_reads delivery head)
  · rcases List.mem_append.mp rest with voice | last
    · obtain ⟨ambe, reads⟩ := call.voices_read delivery voice
      exact away rfl reads
    · obtain rfl := List.mem_singleton.mp last
      exact away rfl call.term_reads

/-- The callbacks of a call with its drains reset nothing. -/
theorem WholeHbpCall.not_resets {dmr : DmrUtils} {cfg : Config} {ts : Timeslot}
    {srcSub dstGroup : Bytes} (call : WholeHbpCall dmr cfg ts srcSub dstGroup) {events : List Event}
    (interleaved : events.filter (fun event => !event.isDrain) = call.events) :
    ∀ event ∈ events, ¬ event.Resets := by
  intro event member resets
  have own : event ∈ call.events := by
    rw [← interleaved]
    refine List.mem_filter.mpr ⟨member, ?_⟩
    cases event <;> first | rfl | exact resets.elim
  obtain ⟨delivery, -, rfl⟩ := List.mem_map.mp own
  exact resets

/-- A whole call from HBP that is paced on its way and whose packets have all left comes out of the
second translator as it does without pacing. -/
theorem paced_calls_round_trip {dmr : DmrUtils} (documented : dmr.Documented) (inverts : dmr.Inverts)
    {cfg back : Config} (only : cfg.OnlyPaces) (flow : cfg.legacyFlow = false)
    (backFlow : back.legacyFlow = false) {ts : Timeslot} {srcSub dstGroup : Bytes}
    (call : WholeHbpCall dmr cfg.unpaced ts srcSub dstGroup) (events : List Event)
    (interleaved : events.filter (fun event => !event.isDrain) = call.events)
    (accepted : ¬ Overflows (slotActions ts ((translator dmr cfg).run Translator.initial events).2))
    (drained : (((translator dmr cfg).run Translator.initial events).1.slot ts).tx.queue = [])
    (arrivals : List Arrival)
    (arrived : arrivals.map Arrival.data =
      sentPackets ((translator dmr cfg).run Translator.initial events).2) :
    ∃ draw ∈ arrivals.head?.map Arrival.urandom,
      frameReadings dmr ((translator dmr back).run Translator.initial
          (arrivals.filterMap Arrival.event)).2 =
        List.replicate cfg.headerCount ⟨true, draw.val, callHead dmr ts srcSub dstGroup⟩ ++
          (call.voices.map (fun delivery => ⟨true, draw.val, (readDmrd dmr delivery.dmrd).burst⟩) ++
            [⟨true, draw.val, callTerm ts srcSub dstGroup []⟩]) := by
  obtain ⟨-, delays⟩ := run_delays only dmr events Translator.initial
    fun ts => slot_coherent cfg [] ts
  rw [interleaved] at delays
  have silent (other : Timeslot) (apart : other ≠ ts) :
      slotActions other ((translator dmr cfg.unpaced).run Translator.initial.unpaced call.events).2 =
        [] := run_unseen dmr cfg.unpaced (call.unseen apart) _
  have pacedSilent (other : Timeslot) (apart : other ≠ ts) :
      sentEntries (slotActions other ((translator dmr cfg).run Translator.initial events).2) = [] := by
    have fewer := (delays other).sent.1
    rw [silent other apart] at fewer
    exact (List.append_eq_nil_iff.mp (List.sublist_nil.mp fewer)).1
  have same : sentPackets ((translator dmr cfg).run Translator.initial events).2 =
      sentPackets ((translator dmr cfg.unpaced).run Translator.initial call.events).2 := by
    have whole := (delays ts).sent.2 (not_or.mpr
      ⟨fun ⟨event, member, resets⟩ => call.not_resets interleaved event member resets, accepted⟩)
    dsimp only at whole
    rw [drained, List.append_nil] at whole
    rw [sentPackets_alone pacedSilent, whole]
    exact (sentPackets_alone fun other apart => congrArg sentEntries (silent other apart)).symm
  have returned := call.returned documented flow rfl
  rw [packetReadings, ← same, ← arrived, List.map_map] at returned
  exact call.relayed documented inverts backFlow returned

/-- The configuration of a first translator that only paces. -/
def pacedConfig : Config := { ipscCallLock := false, ipscBusySlotGuard := false }

def pacedDelivery (dmrd : Bytes) (time : Nat) : Delivery pacedConfig.unpaced :=
  ⟨dmrd, rtpDraw, fun _ => 10 + time, fun _ => by
    have late : pacedConfig.unpaced.holdoff ≤ 10 := by decide +kernel
    exact late.trans (by simp)⟩

/-- A call with a header and a voice frame. -/
def pacedCall : WholeHbpCall dmrCodec pacedConfig.unpaced .ts1 [0, 0, 7] [0, 0, 1] where
  stream := [9, 9, 9, 9]
  lc := [0, 0, 0, 0, 0, 1, 0, 0, 7]
  head := pacedDelivery (masterHead dmrCodec [9, 9, 9, 9] [0, 0, 7] [0, 0, 1]) 0
  repeats := []
  voices := [pacedDelivery (masterVoice dmrCodec [9, 9, 9, 9] [0, 0, 7] [0, 0, 1] 4) 1]
  term := pacedDelivery (masterTerm dmrCodec [9, 9, 9, 9] [0, 0, 7] [0, 0, 1]) 2
  head_reads := by
    intro delivery member
    obtain rfl := List.mem_singleton.mp member
    decide +kernel
  voices_some := List.cons_ne_nil _ _
  voices_read := by
    intro delivery member
    obtain rfl := List.mem_singleton.mp member
    exact ⟨List.replicate 19 0, by decide +kernel⟩
  term_reads := by decide +kernel

/-- A drain runs after each frame of the call, and three more send what then waits. -/
def pacedEvents : List Event :=
  (pacedCall.events.flatMap fun event => [event, .drain .ts1 fun _ => 20]) ++
    List.replicate 3 (.drain .ts1 fun _ => 21)

def pacedArrivals : List Arrival :=
  (sentPackets ((translator dmrCodec pacedConfig).run Translator.initial pacedEvents).2).map
    fun packet => ⟨packet, firstDraw, fun _ => 200⟩

theorem paced_calls_round_trip_drained :
    ∃ draw ∈ pacedArrivals.head?.map Arrival.urandom,
      frameReadings dmrCodec ((translator dmrCodec {}).run Translator.initial
          (pacedArrivals.filterMap Arrival.event)).2 =
        List.replicate pacedConfig.headerCount
            ⟨true, draw.val, callHead dmrCodec .ts1 [0, 0, 7] [0, 0, 1]⟩ ++
          (pacedCall.voices.map (fun delivery =>
              ⟨true, draw.val, (readDmrd dmrCodec delivery.dmrd).burst⟩) ++
            [⟨true, draw.val, callTerm .ts1 [0, 0, 7] [0, 0, 1] []⟩]) := by
  refine paced_calls_round_trip dmrCodec_documented dmrCodec_inverts ⟨rfl, rfl, rfl, rfl⟩ rfl rfl
    pacedCall pacedEvents rfl ?_ (by decide +kernel) pacedArrivals
    (by rw [pacedArrivals, List.map_map]; exact List.map_id _)
  unfold Overflows
  decide +kernel

end Ipsc2Hbp
