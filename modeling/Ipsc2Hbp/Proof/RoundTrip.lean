import Ipsc2Hbp.Construction.DmrCodec
import Ipsc2Hbp.Construction.Packets
import Ipsc2Hbp.Proof.Backward
import Ipsc2Hbp.Proof.Forward

namespace Ipsc2Hbp
open BigEndian

/-- Two lists with the same images pair each item of the first with one of the second. -/
theorem exists_mem_of_map_eq {α β γ : Type*} {first : List α} {second : List β} {f : α → γ} {g : β → γ}
    (same : first.map f = second.map g) {item : α} (member : item ∈ first) :
    ∃ other ∈ second, f item = g other := by
  have listed : f item ∈ first.map f := List.mem_map_of_mem member
  rw [same] at listed
  obtain ⟨other, inside, image⟩ := List.mem_map.mp listed
  exact ⟨other, inside, image.symm⟩

/-- A whole call that goes through two translators comes out with its timeslot, source, talkgroup,
LC and voice, and with the configured number of headers. -/
theorem calls_round_trip {dmr : DmrUtils} (documented : dmr.Documented) (inverts : dmr.Inverts)
    {cfg back : Config} (flow : cfg.legacyFlow = false) (backFlow : back.legacyFlow = false)
    (unpaced : back.hbpToIpscPacing = false) {ts : Timeslot} {srcSub dstGroup : Bytes}
    (call : WholeCall ts srcSub dstGroup) (deliveries : List (Delivery back))
    (delivered : deliveries.map Delivery.dmrd =
      sentFrames ((translator dmr cfg).run Translator.initial call.events).2) :
    (sentPackets ((translator dmr back).run Translator.initial
        (deliveries.map Delivery.event)).2).map readPacket =
      List.replicate back.headerCount (some (callHead dmr ts srcSub dstGroup)) ++
        (call.voices.map (fun packet => some (callVoice ts srcSub dstGroup packet.voice)) ++
          [some (callTerm ts srcSub dstGroup (callLc dmr srcSub dstGroup))]) := by
  have lcWide : (callLc dmr srcSub dstGroup).length = 9 := by
    rw [← call.head.lc]
    exact gvLc_length documented call.head.long
  have readings := congrArg (List.map (readDmrd dmr)) delivered
  rw [← frameReadings, call_forwarded documented inverts flow call, List.map_map] at readings
  obtain ⟨first, deliveries, rfl, head, readings⟩ := List.map_eq_cons_iff.mp readings
  obtain ⟨repeats, deliveries, rfl, repeated, readings⟩ := List.map_eq_append_iff.mp readings
  obtain ⟨voices, deliveries, rfl, spoken, readings⟩ := List.map_eq_append_iff.mp readings
  obtain ⟨last, deliveries, rfl, term, readings⟩ := List.map_eq_cons_iff.mp readings
  obtain rfl := List.map_eq_nil_iff.mp readings
  have heads : ∀ delivery ∈ first :: repeats, readDmrd dmr delivery.dmrd =
      ⟨true, call.head.urandom.val, callHead dmr ts srcSub dstGroup⟩ := by
    intro delivery member
    rcases List.mem_cons.mp member with rfl | later
    · exact head
    · obtain ⟨-, -, same⟩ := exists_mem_of_map_eq repeated later
      exact same
  have bursts : ∀ delivery ∈ voices, ∃ ambe, readDmrd dmr delivery.dmrd =
      ⟨true, call.head.urandom.val, callVoice ts srcSub dstGroup ambe⟩ := by
    intro delivery member
    obtain ⟨packet, -, same⟩ := exists_mem_of_map_eq spoken member
    exact ⟨packet.voice, same⟩
  have content : voices.map (fun delivery => some (readDmrd dmr delivery.dmrd).burst) =
      call.voices.map fun packet => some (callVoice ts srcSub dstGroup packet.voice) := by
    have projected := congrArg (List.map fun reading => some reading.burst) spoken
    rw [List.map_map, List.map_map] at projected
    exact projected
  obtain ⟨next, rest, rfl⟩ : ∃ next rest, voices = next :: rest := by
    cases voices with
    | nil => exact absurd (List.map_eq_nil_iff.mp spoken.symm) call.voices_some
    | cons next rest => exact ⟨next, rest, rfl⟩
  have returned := call_returned documented unpaced backFlow lcWide first repeats next rest last heads
    bursts term
  rw [content] at returned
  exact returned

/-- A packet from source 1 for talkgroup 9 on timeslot 1. -/
abbrev EchoPacket : Type := CallPacket .ts1 [0, 0, 1] [0, 0, 9]

def echoHead (time : Time) : EchoPacket :=
  ⟨peerHead dmrCodec 1 [0, 0, 1] [0, 0, 9], voiceHead, firstDraw, fun _ => time, rfl, rfl, rfl⟩

def echoVoice (ambe : UInt8) (time : Time) : EchoPacket :=
  ⟨peerVoice 1 [0, 0, 1] [0, 0, 9] (List.replicate 19 ambe), slot1Voice, firstDraw,
    fun _ => time, rfl, rfl, rfl⟩

def echoTerm (time : Time) : EchoPacket :=
  ⟨peerTerm dmrCodec 1 [0, 0, 1] [0, 0, 9], voiceTerm, firstDraw, fun _ => time, rfl, rfl, rfl⟩

/-- A call with two headers and two voice packets. -/
def echoCall : WholeCall .ts1 [0, 0, 1] [0, 0, 9] where
  head := echoHead 100
  repeats := [echoHead 101]
  voices := [echoVoice 0xff 102, echoVoice 0xa5 103]
  term := echoTerm 104
  head_type := rfl
  repeats_type := by simp [echoHead]
  voices_some := by simp
  voices_type := by simp [echoVoice]
  voices_long := by decide
  term_type := rfl

/-- The configuration of the second translator. -/
def echoBack : Config := { hbpToIpscPacing := false }

/-- The frames of the call reach the second translator. -/
def echoDeliveries : List (Delivery echoBack) :=
  (sentFrames ((translator dmrCodec {}).run Translator.initial echoCall.events).2).map fun dmrd =>
    ⟨dmrd, rtpDraw, fun _ => 200, fun _ => by decide +kernel⟩

theorem calls_round_trip_echo :
    (sentPackets ((translator dmrCodec echoBack).run Translator.initial
        (echoDeliveries.map Delivery.event)).2).map readPacket =
      List.replicate echoBack.headerCount (some (callHead dmrCodec .ts1 [0, 0, 1] [0, 0, 9])) ++
        ([some (callVoice .ts1 [0, 0, 1] [0, 0, 9] (echoVoice 0xff 102).voice),
          some (callVoice .ts1 [0, 0, 1] [0, 0, 9] (echoVoice 0xa5 103).voice)] ++
          [some (callTerm .ts1 [0, 0, 1] [0, 0, 9] [0, 0, 0, 0, 0, 9, 0, 0, 1])]) :=
  calls_round_trip dmrCodec_documented dmrCodec_inverts rfl rfl rfl echoCall echoDeliveries
    (by rw [echoDeliveries, List.map_map]; exact List.map_id _)

end Ipsc2Hbp
