import Ipsc2Hbp.Construction.DmrCodec
import Ipsc2Hbp.Construction.Packets
import Ipsc2Hbp.Proof.Dmrd

namespace Ipsc2Hbp
open BigEndian

/-- The sent frames of one stream, as they are read. -/
def framesOf (streamId : Bytes) (log : List Action) : List HbpFrame :=
  ((sentDmrd log).map HbpFrame.read).filter fun frame => frame.stream = streamId

/-- The streams that a log opens, each with the LC of the packet that opens it. -/
def openedStreams (log : List Action) : List (Bytes × Bytes) :=
  log.filterMap fun action => match action with
    | .openStream streamId lc => some (streamId, lc)
    | _ => none

@[simp] theorem framesOf_append (streamId : Bytes) (first second : List Action) :
    framesOf streamId (first ++ second) = framesOf streamId first ++ framesOf streamId second := by
  simp [framesOf]

@[simp] theorem openedStreams_append (first second : List Action) :
    openedStreams (first ++ second) = openedStreams first ++ openedStreams second :=
  List.filterMap_append

/-- A stream that was opened stays so. -/
theorem openedStreams_grows {log : List Action} {opened : Bytes × Bytes}
    (recorded : opened ∈ openedStreams log) (more : List Action) :
    opened ∈ openedStreams (log ++ more) := by
  rw [openedStreams_append]
  exact List.mem_append_left _ recorded

/-- A VOICE_LC_HEAD, whose payload is the LC of its header fields. -/
def IsHeadFrame (dmr : DmrUtils) (ts : Timeslot) (frame : HbpFrame) : Prop :=
  frame.flags = timeslotFlag ts ||| (hbpfFrametypeDatasync ||| hbpfSltVhead) ∧
    frame.payload = lcPayload dmr (dmr.encodeHeaderLc (frameLc dmr frame)) dmr.slotTypeVoiceLcHead

/-- A VOICE_LC_TERM with the LC. -/
def IsTermFrame (dmr : DmrUtils) (ts : Timeslot) (lc : Bytes) (frame : HbpFrame) : Prop :=
  frame.flags = timeslotFlag ts ||| (hbpfFrametypeDatasync ||| hbpfSltVterm) ∧
    frame.payload = lcPayload dmr (dmr.encodeTerminatorLc lc) dmr.slotTypeVoiceLcTerm

/-- The middle field at a superframe position: the voice sync, the EMB word around a fragment of
the LC, or the EMB word around the null fragment. -/
structure MiddleField (dmr : DmrUtils) (lc : Bytes) (pos : Nat) (bits : Bits) : Prop where
  sync : pos = 0 → bits = dmr.bsVoiceSync
  fragment : 1 ≤ pos → pos ≤ 4 → ∃ fragment, dmr.encodeEmblc lc pos = some fragment ∧
    bits = (dmr.emb (embBurst pos)).take 8 ++ fragment ++ (dmr.emb (embBurst pos)).drop 8
  null : pos = 5 →
    bits = (dmr.emb .burstF).take 8 ++ List.replicate 32 false ++ (dmr.emb .burstF).drop 8

/-- A voice frame at a superframe position; position 0 is flagged VOICESYNC. -/
structure IsVoiceFrame (dmr : DmrUtils) (ts : Timeslot) (lc : Bytes) (pos : Nat) (frame : HbpFrame) :
    Prop where
  flags : frame.flags = timeslotFlag ts ||| voiceFlags pos
  middle : MiddleField dmr lc pos ((bytesToBits frame.payload).extract 108 156)

/-- The frames of a stream before its end, with the LC of its most recent header and its next
superframe position. Only the packet flow enters late, at position 4 with the opening packet's LC. -/
inductive StreamBody (dmr : DmrUtils) (cfg : Config) (ts : Timeslot) (opening : Bytes) :
    Bytes → Nat → List HbpFrame → Prop
  | head {frame : HbpFrame} (head : IsHeadFrame dmr ts frame) :
      StreamBody dmr cfg ts opening (frameLc dmr frame) 0 [frame]
  | late {frame : HbpFrame} (flow : cfg.legacyFlow = false)
      (voice : IsVoiceFrame dmr ts opening 4 frame) : StreamBody dmr cfg ts opening opening 5 [frame]
  | headRepeated {lc : Bytes} {pos : Nat} {frames : List HbpFrame} {frame : HbpFrame}
      (before : StreamBody dmr cfg ts opening lc pos frames) (head : IsHeadFrame dmr ts frame) :
      StreamBody dmr cfg ts opening (frameLc dmr frame) 0 (frames ++ [frame])
  | voice {lc : Bytes} {pos : Nat} {frames : List HbpFrame} {frame : HbpFrame}
      (before : StreamBody dmr cfg ts opening lc pos frames)
      (voice : IsVoiceFrame dmr ts lc pos frame) :
      StreamBody dmr cfg ts opening lc ((pos + 1) % 6) (frames ++ [frame])

/-- Exactly the first two frames are headers. -/
def TwoHeads (dmr : DmrUtils) (ts : Timeslot) (frames : List HbpFrame) : Prop :=
  ∃ first second rest, frames = first :: second :: rest ∧ IsHeadFrame dmr ts first ∧
    IsHeadFrame dmr ts second ∧ ∀ frame ∈ rest, ¬ IsHeadFrame dmr ts frame

/-- A whole stream: its body and at most one terminator; in the legacy flow it has two headers. -/
structure GeneratedStream (dmr : DmrUtils) (cfg : Config) (ts : Timeslot) (opening : Bytes)
    (frames : List HbpFrame) : Prop where
  grammar : ∃ body terms lc pos, frames = body ++ terms ∧
    StreamBody dmr cfg ts opening lc pos body ∧ terms.length ≤ 1 ∧
    ∀ frame ∈ terms, IsTermFrame dmr ts lc frame
  legacy : cfg.legacyFlow = true → TwoHeads dmr ts frames

/-- The flags of the three kinds of frame differ. -/
theorem headFlags_ne (ts : Timeslot) :
    (timeslotFlag ts ||| (hbpfFrametypeDatasync ||| hbpfSltVterm) ≠
      timeslotFlag ts ||| (hbpfFrametypeDatasync ||| hbpfSltVhead)) ∧
    ∀ pos < 6, timeslotFlag ts ||| voiceFlags pos ≠
      timeslotFlag ts ||| (hbpfFrametypeDatasync ||| hbpfSltVhead) := by
  cases ts <;> decide

/-- The translator's middle field is the one of the position. -/
theorem buildEmbed_middle {dmr : DmrUtils} (documented : dmr.Documented) {lc : Bytes}
    (lcWide : lc.length = 9) (pos : Nat) :
    MiddleField dmr lc pos (buildEmbed dmr pos (some (dmr.encodeEmblc lc))) := by
  have word : ∀ burst, (dmr.emb burst).length - 8 = 8 := fun burst => by
    rw [documented.emb_length]
  refine ⟨fun sync => ?_, fun least most => ?_, fun last => ?_⟩
  · rw [buildEmbed, if_pos sync]
  · obtain ⟨fragment, found, -⟩ := documented.encodeEmblc_fragment lc lcWide pos least most
    refine ⟨fragment, found, ?_⟩
    rw [buildEmbed, if_neg (Nat.ne_of_gt least)]
    simp only [if_pos most, found, word, Option.getD_some]
  · subst last
    rw [buildEmbed, if_neg (by decide)]
    simp only [word]
    rfl

/-- The frame of a sent header. -/
theorem headFrame_isHead {dmr : DmrUtils} (documented : dmr.Documented) (cfg : Config) (ts : Timeslot)
    {data streamId : Bytes} (long : 31 ≤ data.length) (wide : streamId.length = 4) (seq : UInt8) :
    IsHeadFrame dmr ts (HbpFrame.read (headFrame dmr cfg ts data streamId seq)) ∧
      frameLc dmr (HbpFrame.read (headFrame dmr cfg ts data streamId seq)) = gvLc dmr data := by
  rw [(headFrame_fields documented cfg ts long wide seq).read]
  exact ⟨⟨rfl, rfl⟩, rfl⟩

/-- The frame of a sent terminator. -/
theorem termFrame_isTerm {dmr : DmrUtils} (documented : dmr.Documented) (cfg : Config) (ts : Timeslot)
    {data lc streamId : Bytes} (long : 31 ≤ data.length) (lcWide : lc.length = 9)
    (wide : streamId.length = 4) (seq : UInt8) :
    IsTermFrame dmr ts lc (HbpFrame.read (termFrame dmr cfg ts data lc streamId seq)) := by
  rw [(termFrame_fields documented cfg ts long lcWide wide seq).read]
  exact ⟨rfl, rfl⟩

/-- The frame of a sent voice burst. -/
theorem voiceFrame_isVoice {dmr : DmrUtils} (documented : dmr.Documented) (cfg : Config)
    (ts : Timeslot) {data lc streamId : Bytes} (long : 52 ≤ data.length) (lcWide : lc.length = 9)
    (wide : streamId.length = 4) (pos : Nat) (seq : UInt8) :
    IsVoiceFrame dmr ts lc pos
      (HbpFrame.read (voiceFrame dmr cfg ts data pos (some (dmr.encodeEmblc lc)) streamId seq)) := by
  rw [(voiceFrame_fields documented cfg ts long lcWide wide pos seq).read]
  refine ⟨rfl, ?_⟩
  simp only
  rw [voicePayload_middle documented (voiceBytes_length long)
    (buildEmbed_length documented lcWide pos)]
  exact buildEmbed_middle documented lcWide pos

/-- The frames of a stream are those that carry its ID. -/
theorem framesOf_sendDmrd {dmrd : Bytes} {streamId srcSub dstGroup payload : Bytes} {flags : UInt8}
    (fields : DmrdFields dmrd srcSub dstGroup flags streamId payload) (other : Bytes) :
    framesOf other [.sendDmrd dmrd] = if streamId = other then [HbpFrame.read dmrd] else [] := by
  have read := fields.read
  by_cases same : streamId = other
  · rw [if_pos same]
    simp [framesOf, sentDmrd, read, same]
  · rw [if_neg same]
    simp [framesOf, sentDmrd, read, same]

/-- An open outbound call: its stream, its LC and the embedded fragments of that LC. -/
structure OutCall.Open (dmr : DmrUtils) (outCall : OutCall) (streamId lc : Bytes) : Prop where
  current : outCall.streamId = some streamId
  recorded : outCall.lc = some lc
  fragments : outCall.embLc = some (dmr.encodeEmblc lc)
  wide : streamId.length = 4
  lcWide : lc.length = 9

/-- The phases of a stream: not opened yet, opened without a frame, under way, or over. -/
inductive StreamPhase (dmr : DmrUtils) (cfg : Config) (ts : Timeslot) (log : List Action)
    (outCall : OutCall) (streamId : Bytes) : Prop
  | unopened (never : ∀ opening, (streamId, opening) ∉ openedStreams log)
      (silent : framesOf streamId log = []) (apart : outCall.streamId ≠ some streamId)
  | entered (opening : Bytes) (opened : (streamId, opening) ∈ openedStreams log)
      (call : outCall.Open dmr streamId opening) (flow : cfg.legacyFlow = false)
      (next : outCall.framePos = 4) (silent : framesOf streamId log = [])
  | active (opening lc : Bytes) (opened : (streamId, opening) ∈ openedStreams log)
      (call : outCall.Open dmr streamId lc)
      (body : StreamBody dmr cfg ts opening lc (outCall.framePos % 6) (framesOf streamId log))
      (legacy : cfg.legacyFlow = true → TwoHeads dmr ts (framesOf streamId log))
  | finished (opening : Bytes) (opened : (streamId, opening) ∈ openedStreams log)
      (apart : outCall.streamId ≠ some streamId)
      (whole : framesOf streamId log = [] ∨
        GeneratedStream dmr cfg ts opening (framesOf streamId log))

/-- A body without a terminator is a whole stream. -/
theorem StreamBody.generated {dmr : DmrUtils} {cfg : Config} {ts : Timeslot} {opening lc : Bytes}
    {pos : Nat} {frames : List HbpFrame} (body : StreamBody dmr cfg ts opening lc pos frames)
    (legacy : cfg.legacyFlow = true → TwoHeads dmr ts frames) :
    GeneratedStream dmr cfg ts opening frames :=
  ⟨⟨frames, [], lc, pos, (List.append_nil frames).symm, body, Nat.zero_le 1, by simp⟩, legacy⟩

/-- A body starts with a header or, in the packet flow, with a voice frame at position 4. -/
theorem StreamBody.starts {dmr : DmrUtils} {cfg : Config} {ts : Timeslot} {opening lc : Bytes}
    {pos : Nat} {frames : List HbpFrame} (body : StreamBody dmr cfg ts opening lc pos frames) :
    ∃ first rest, frames = first :: rest ∧ (IsHeadFrame dmr ts first ∨
      (cfg.legacyFlow = false ∧ IsVoiceFrame dmr ts opening 4 first)) := by
  induction body with
  | head head => exact ⟨_, [], rfl, .inl head⟩
  | late flow voice => exact ⟨_, [], rfl, .inr ⟨flow, voice⟩⟩
  | headRepeated before head ih | voice before voice ih =>
      obtain ⟨first, rest, rfl, kind⟩ := ih
      exact ⟨first, rest ++ [_], rfl, kind⟩

theorem GeneratedStream.starts {dmr : DmrUtils} {cfg : Config} {ts : Timeslot} {opening : Bytes}
    {frames : List HbpFrame} (stream : GeneratedStream dmr cfg ts opening frames) :
    ∃ first rest, frames = first :: rest ∧ (IsHeadFrame dmr ts first ∨
      (cfg.legacyFlow = false ∧ IsVoiceFrame dmr ts opening 4 first)) := by
  obtain ⟨body, terms, lc, pos, rfl, grammar, -⟩ := stream.grammar
  obtain ⟨first, rest, rfl, kind⟩ := grammar.starts
  exact ⟨first, rest ++ terms, rfl, kind⟩

/-- Frames that are no headers may follow the two headers. -/
theorem TwoHeads.snoc {dmr : DmrUtils} {ts : Timeslot} {frames : List HbpFrame} {frame : HbpFrame}
    (twoHeads : TwoHeads dmr ts frames) (notHead : ¬ IsHeadFrame dmr ts frame) :
    TwoHeads dmr ts (frames ++ [frame]) := by
  obtain ⟨first, second, rest, rfl, firstHead, secondHead, others⟩ := twoHeads
  refine ⟨first, second, rest ++ [frame], rfl, firstHead, secondHead, fun other member => ?_⟩
  rcases List.mem_append.mp member with before | here
  · exact others other before
  · rwa [List.mem_singleton.mp here]

theorem IsTermFrame.not_head {dmr : DmrUtils} {ts : Timeslot} {lc : Bytes} {frame : HbpFrame}
    (term : IsTermFrame dmr ts lc frame) : ¬ IsHeadFrame dmr ts frame := fun head =>
  (headFlags_ne ts).1 (term.1.symm.trans head.1)

theorem IsVoiceFrame.not_head {dmr : DmrUtils} {ts : Timeslot} {lc : Bytes} {pos : Nat}
    {frame : HbpFrame} (voice : IsVoiceFrame dmr ts lc pos frame) (below : pos < 6) :
    ¬ IsHeadFrame dmr ts frame := fun head =>
  (headFlags_ne ts).2 pos below (voice.flags.symm.trans head.1)

/-- A terminator ends the stream. -/
theorem StreamBody.term {dmr : DmrUtils} {cfg : Config} {ts : Timeslot} {opening lc : Bytes}
    {pos : Nat} {frames : List HbpFrame} {frame : HbpFrame}
    (body : StreamBody dmr cfg ts opening lc pos frames)
    (legacy : cfg.legacyFlow = true → TwoHeads dmr ts frames) (term : IsTermFrame dmr ts lc frame) :
    GeneratedStream dmr cfg ts opening (frames ++ [frame]) :=
  ⟨⟨frames, [frame], lc, pos, rfl, body, Nat.le_refl 1, by simpa using term⟩,
    fun flow => (legacy flow).snoc term.not_head⟩

/-- The stream, its position and its LC stay. -/
structure OutCall.SameStream (after before : OutCall) : Prop where
  streamId : after.streamId = before.streamId
  framePos : after.framePos = before.framePos
  lc : after.lc = before.lc
  embLc : after.embLc = before.embLc

theorem OutCall.SameStream.of_eq {after before : OutCall} (same : after = before) :
    after.SameStream before := by
  subst same
  exact ⟨rfl, rfl, rfl, rfl⟩

theorem OutCall.SameStream.open {dmr : DmrUtils} {after before : OutCall} {streamId lc : Bytes}
    (same : after.SameStream before) (call : before.Open dmr streamId lc) :
    after.Open dmr streamId lc :=
  ⟨same.streamId.trans call.current, same.lc.trans call.recorded, same.embLc.trans call.fragments,
    call.wide, call.lcWide⟩

/-- A step that sends no frame, opens no stream and keeps the current one keeps every phase. -/
theorem StreamPhase.quiet {dmr : DmrUtils} {cfg : Config} {ts : Timeslot} {log actions : List Action}
    {before after : OutCall} {streamId : Bytes} (phase : StreamPhase dmr cfg ts log before streamId)
    (same : after.SameStream before) (silent : framesOf streamId actions = [])
    (unopened : openedStreams actions = []) :
    StreamPhase dmr cfg ts (log ++ actions) after streamId := by
  have frames : framesOf streamId (log ++ actions) = framesOf streamId log := by
    rw [framesOf_append, silent, List.append_nil]
  have streams : openedStreams (log ++ actions) = openedStreams log := by
    rw [openedStreams_append, unopened, List.append_nil]
  cases phase with
  | unopened never none apart =>
      exact .unopened (by rwa [streams]) (by rwa [frames]) (by rwa [same.streamId])
  | entered opening opened call flow next none =>
      exact .entered opening (by rwa [streams]) (same.open call) flow (same.framePos.trans next)
        (by rwa [frames])
  | active opening lc opened call body legacy =>
      refine .active opening lc (by rwa [streams]) (same.open call) ?_ (by rwa [frames])
      rwa [frames, same.framePos]
  | finished opening opened apart whole =>
      exact .finished opening (by rwa [streams]) (by rwa [same.streamId]) (by rwa [frames])

/-- A step that gives up the current stream ends it. -/
theorem StreamPhase.stops {dmr : DmrUtils} {cfg : Config} {ts : Timeslot} {log actions : List Action}
    {before after : OutCall} {streamId : Bytes} (phase : StreamPhase dmr cfg ts log before streamId)
    (stopped : after.streamId = none) (silent : framesOf streamId actions = [])
    (unopened : openedStreams actions = []) :
    StreamPhase dmr cfg ts (log ++ actions) after streamId := by
  have frames : framesOf streamId (log ++ actions) = framesOf streamId log := by
    rw [framesOf_append, silent, List.append_nil]
  have streams : openedStreams (log ++ actions) = openedStreams log := by
    rw [openedStreams_append, unopened, List.append_nil]
  have apart : after.streamId ≠ some streamId := by simp [stopped]
  cases phase with
  | unopened never none => exact .unopened (by rwa [streams]) (by rwa [frames]) apart
  | entered opening opened call flow next none =>
      exact .finished opening (by rwa [streams]) apart (.inl (by rwa [frames]))
  | active opening lc opened call body legacy =>
      refine .finished opening (by rwa [streams]) apart (.inr ?_)
      rw [frames]
      exact body.generated legacy
  | finished opening opened _ whole => exact .finished opening (by rwa [streams]) apart (by rwa [frames])

/-- A step of another stream keeps the phase. -/
theorem StreamPhase.foreign {dmr : DmrUtils} {cfg : Config} {ts : Timeslot}
    {log actions : List Action} {before after : OutCall} {streamId : Bytes}
    (phase : StreamPhase dmr cfg ts log before streamId) (apart : before.streamId ≠ some streamId)
    (stillApart : after.streamId ≠ some streamId) (silent : framesOf streamId actions = [])
    (unopened : ∀ opening, (streamId, opening) ∉ openedStreams actions) :
    StreamPhase dmr cfg ts (log ++ actions) after streamId := by
  have frames : framesOf streamId (log ++ actions) = framesOf streamId log := by
    rw [framesOf_append, silent, List.append_nil]
  cases phase with
  | unopened never none =>
      refine .unopened (fun opening member => ?_) (by rwa [frames]) stillApart
      rw [openedStreams_append] at member
      rcases List.mem_append.mp member with earlier | now
      · exact never opening earlier
      · exact unopened opening now
  | entered opening opened call => exact absurd call.current apart
  | active opening lc opened call => exact absurd call.current apart
  | finished opening opened _ whole =>
      exact .finished opening (openedStreams_grows opened _) stillApart (by rwa [frames])

/-- A stream that was never opened has sent nothing. -/
theorem StreamPhase.silent_of_fresh {dmr : DmrUtils} {cfg : Config} {ts : Timeslot}
    {log : List Action} {outCall : OutCall} {streamId : Bytes}
    (phase : StreamPhase dmr cfg ts log outCall streamId)
    (fresh : ∀ opening, (streamId, opening) ∉ openedStreams log) : framesOf streamId log = [] := by
  cases phase with
  | unopened never silent => exact silent
  | entered opening opened => exact absurd opened (fresh opening)
  | active opening lc opened => exact absurd opened (fresh opening)
  | finished opening opened => exact absurd opened (fresh opening)

/-- Whatever call is open has the widths of its fields. -/
def OutCall.WellOpen (dmr : DmrUtils) (outCall : OutCall) : Prop :=
  ∀ streamId, outCall.streamId = some streamId → ∃ lc, outCall.Open dmr streamId lc

/-- The call that a packet opens or continues. -/
theorem OutCall.opened_by {dmr : DmrUtils} (documented : dmr.Documented) {data streamId : Bytes}
    (long : 31 ≤ data.length) (wide : streamId.length = 4) {outCall : OutCall}
    (current : outCall.streamId = some streamId) (recorded : outCall.lc = some (gvLc dmr data))
    (fragments : outCall.embLc = some (dmr.encodeEmblc (gvLc dmr data))) :
    outCall.Open dmr streamId (gvLc dmr data) :=
  ⟨current, recorded, fragments, wide, gvLc_length documented long⟩

theorem OutCall.Open.wellOpen {dmr : DmrUtils} {outCall : OutCall} {streamId lc : Bytes}
    (call : outCall.Open dmr streamId lc) : outCall.WellOpen dmr := by
  intro other current
  rw [call.current] at current
  obtain rfl := Option.some.inj current
  exact ⟨lc, call⟩

/-- A packet leaves a call with the widths of its fields. -/
theorem BurstOutcome.wellOpen {dmr : DmrUtils} (documented : dmr.Documented) {cfg : Config}
    {ts : Timeslot} {data : Bytes} {burstType : UInt8} {urandom : StreamId} {now : Time} {seq : UInt8}
    {slot after : Slot} {actions : List Action}
    (outcome : BurstOutcome dmr cfg ts data burstType urandom now seq slot after actions)
    (long : 31 ≤ data.length) (before : slot.outCall.WellOpen dmr) : after.outCall.WellOpen dmr := by
  cases outcome with
  | ignored | outOfRange => exact before
  | headOpened | enteredSilent | enteredLate =>
      exact (OutCall.opened_by documented long urandom.property rfl rfl rfl).wellOpen
  | headRepeated streamId head opened =>
      obtain ⟨lc, call⟩ := before streamId opened
      exact (OutCall.opened_by documented long call.wide rfl rfl rfl).wellOpen
  | ended => intro streamId current; cases current
  | voiceSent streamId voice opened =>
      obtain ⟨lc, call⟩ := before streamId opened
      have continued : OutCall.Open dmr { slot.outCall with framePos := slot.outCall.framePos + 1 }
          streamId lc := ⟨call.current, call.recorded, call.fragments, call.wide, call.lcWide⟩
      exact continued.wellOpen

/-- Repeated frames are all made by the same rule. -/
theorem sentDmrd_sendFrames {frame : UInt8 → Bytes} {count : Nat} {seq : UInt8} {dmrd : Bytes}
    (member : dmrd ∈ sentDmrd (sendFrames frame count seq)) : ∃ number, dmrd = frame number := by
  induction count generalizing seq with
  | zero => simp [sendFrames, sentDmrd] at member
  | succ count ih =>
      have split : sentDmrd (sendFrames frame (count + 1) seq) =
          frame seq :: sentDmrd (sendFrames frame count (seq + 1)) := rfl
      rw [split] at member
      rcases List.mem_cons.mp member with rfl | later
      · exact ⟨seq, rfl⟩
      · exact ih later

/-- Every frame that a packet sends has 55 bytes. -/
theorem BurstOutcome.sent_length {dmr : DmrUtils} (documented : dmr.Documented) {cfg : Config}
    {ts : Timeslot} {data : Bytes} {burstType : UInt8} {urandom : StreamId} {now : Time} {seq : UInt8}
    {slot after : Slot} {actions : List Action}
    (outcome : BurstOutcome dmr cfg ts data burstType urandom now seq slot after actions)
    (long : 31 ≤ data.length) (before : slot.outCall.WellOpen dmr) :
    ∀ dmrd ∈ sentDmrd actions, dmrd.length = dmrdLen := by
  intro dmrd member
  cases outcome with
  | ignored | outOfRange | enteredSilent => simp [sentDmrd] at member
  | headOpened =>
      have copy : dmrd ∈ sentDmrd (sendFrames (headFrame dmr cfg ts data urandom.val)
        (if cfg.legacyFlow then 2 else 1) seq) := member
      obtain ⟨number, rfl⟩ := sentDmrd_sendFrames copy
      exact (headFrame_fields documented cfg ts long urandom.property number).length
  | headRepeated streamId head opened =>
      obtain ⟨lc, call⟩ := before streamId opened
      obtain rfl := List.mem_singleton.mp member
      exact (headFrame_fields documented cfg ts long call.wide seq).length
  | ended streamId term opened =>
      obtain ⟨lc, call⟩ := before streamId opened
      obtain rfl := List.mem_singleton.mp member
      rw [call.recorded, truthyOr_some call.lcWide]
      exact (termFrame_fields documented cfg ts long call.lcWide call.wide seq).length
  | voiceSent streamId voice opened enough =>
      obtain ⟨lc, call⟩ := before streamId opened
      obtain rfl := List.mem_singleton.mp member
      rw [call.fragments]
      exact (voiceFrame_fields documented cfg ts enough call.lcWide call.wide _ seq).length
  | enteredLate late enough =>
      obtain rfl := List.mem_singleton.mp member
      exact (voiceFrame_fields documented cfg ts enough (gvLc_length documented long)
        urandom.property 4 seq).length

/-- A packet of the open stream is told from a packet of another stream. -/
theorem StreamPhase.burst_of_other {dmr : DmrUtils} {cfg : Config} {ts : Timeslot}
    {log actions : List Action} {before after : OutCall} {streamId sender : Bytes} {dmrd : Bytes}
    {srcSub dstGroup payload : Bytes} {flags : UInt8}
    (phase : StreamPhase dmr cfg ts log before streamId) (current : before.streamId = some sender)
    (different : sender ≠ streamId) (next : after.streamId = none ∨ after.streamId = some sender)
    (fields : DmrdFields dmrd srcSub dstGroup flags sender payload)
    (sent : actions = [.sendDmrd dmrd]) :
    StreamPhase dmr cfg ts (log ++ actions) after streamId := by
  subst sent
  have apart : (some sender) ≠ some streamId := fun same => different (Option.some.inj same)
  refine phase.foreign (by rwa [current]) ?_ ?_ (by simp [openedStreams])
  · rcases next with closed | same
    · simp [closed]
    · rwa [same]
  · rw [framesOf_sendDmrd fields, if_neg different]

/-- A header of the open stream starts its superframe again. -/
theorem StreamPhase.headRepeated {dmr : DmrUtils} (documented : dmr.Documented) {cfg : Config}
    {ts : Timeslot} {log : List Action} {before : OutCall} {data streamId sender : Bytes}
    (phase : StreamPhase dmr cfg ts log before streamId) (wellOpen : before.WellOpen dmr)
    (current : before.streamId = some sender) (flow : cfg.legacyFlow = false)
    (long : 31 ≤ data.length) (seq : UInt8) :
    StreamPhase dmr cfg ts (log ++ [.sendDmrd (headFrame dmr cfg ts data sender seq)])
      (before.withHead dmr data sender) streamId := by
  obtain ⟨lc, call⟩ := wellOpen sender current
  have fields := headFrame_fields documented cfg ts long call.wide seq
  by_cases mine : sender = streamId
  · subst mine
    obtain ⟨isHead, headLc⟩ := headFrame_isHead documented cfg ts long call.wide seq
    have opened : OutCall.Open dmr (before.withHead dmr data sender) sender (gvLc dmr data) :=
      OutCall.opened_by documented long call.wide rfl rfl rfl
    have sent := framesOf_sendDmrd fields sender
    rw [if_pos rfl] at sent
    cases phase with
    | unopened never silent apart => exact absurd current apart
    | finished opening recorded apart => exact absurd current apart
    | entered opening recorded _ _ _ silent =>
        refine .active opening _ (openedStreams_grows recorded _) opened ?_ (fun legacy => by
          rw [flow] at legacy; cases legacy)
        rw [framesOf_append, silent, sent, List.nil_append, ← headLc]
        exact .head isHead
    | active opening _ recorded _ body =>
        refine .active opening _ (openedStreams_grows recorded _) opened ?_ (fun legacy => by
          rw [flow] at legacy; cases legacy)
        rw [framesOf_append, sent, ← headLc]
        exact .headRepeated body isHead
  · exact phase.burst_of_other current mine (.inr rfl) fields rfl

/-- A voice burst of the open stream takes the next position. -/
theorem StreamPhase.voiceSent {dmr : DmrUtils} (documented : dmr.Documented) {cfg : Config}
    {ts : Timeslot} {log : List Action} {before : OutCall} {data streamId sender : Bytes}
    (phase : StreamPhase dmr cfg ts log before streamId) (wellOpen : before.WellOpen dmr)
    (current : before.streamId = some sender) (long : 52 ≤ data.length) (seq : UInt8) :
    StreamPhase dmr cfg ts
      (log ++ [.sendDmrd
        (voiceFrame dmr cfg ts data (before.framePos % 6) before.embLc sender seq)])
      { before with framePos := before.framePos + 1 } streamId := by
  obtain ⟨lc, call⟩ := wellOpen sender current
  have frame : voiceFrame dmr cfg ts data (before.framePos % 6) before.embLc sender seq =
      voiceFrame dmr cfg ts data (before.framePos % 6) (some (dmr.encodeEmblc lc)) sender seq := by
    rw [call.fragments]
  rw [frame]
  have fields := voiceFrame_fields documented cfg ts long call.lcWide call.wide (before.framePos % 6) seq
  by_cases mine : sender = streamId
  · subst mine
    have isVoice := voiceFrame_isVoice documented cfg ts long call.lcWide call.wide
      (before.framePos % 6) seq
    have sent := framesOf_sendDmrd fields sender
    rw [if_pos rfl] at sent
    have opened : OutCall.Open dmr { before with framePos := before.framePos + 1 } sender lc :=
      ⟨call.current, call.recorded, call.fragments, call.wide, call.lcWide⟩
    cases phase with
    | unopened never silent apart => exact absurd current apart
    | finished opening recorded apart => exact absurd current apart
    | entered opening recorded entered flow next silent =>
        obtain rfl : opening = lc := Option.some.inj (entered.recorded.symm.trans call.recorded)
        refine .active opening opening (openedStreams_grows recorded _) opened ?_ (fun legacy => by
          rw [flow] at legacy; cases legacy)
        rw [framesOf_append, silent, sent, List.nil_append]
        rw [next] at isVoice ⊢
        exact .late flow isVoice
    | active opening other recorded active body legacy =>
        obtain rfl : other = lc := Option.some.inj (active.recorded.symm.trans call.recorded)
        refine .active opening other (openedStreams_grows recorded _) opened ?_ fun flow => ?_
        · rw [framesOf_append, sent, ← Nat.mod_add_mod]
          exact .voice body isVoice
        · rw [framesOf_append, sent]
          exact (legacy flow).snoc (isVoice.not_head (Nat.mod_lt _ (by decide)))
  · exact phase.burst_of_other current mine (.inr current) fields rfl

/-- A terminator ends the open stream, which has sent a frame. -/
theorem StreamPhase.ended {dmr : DmrUtils} (documented : dmr.Documented) {cfg : Config}
    {ts : Timeslot} {log : List Action} {before after : OutCall} {data streamId sender : Bytes}
    (phase : StreamPhase dmr cfg ts log before streamId) (wellOpen : before.WellOpen dmr)
    (current : before.streamId = some sender) (begun : framesOf sender log ≠ [])
    (closed : after.streamId = none) (long : 31 ≤ data.length) (seq : UInt8) :
    StreamPhase dmr cfg ts
      (log ++ [.sendDmrd
        (termFrame dmr cfg ts data (truthyOr before.lc (gvLc dmr data)) sender seq)])
      after streamId := by
  obtain ⟨lc, call⟩ := wellOpen sender current
  rw [call.recorded, truthyOr_some call.lcWide]
  have fields := termFrame_fields documented cfg ts long call.lcWide call.wide seq
  by_cases mine : sender = streamId
  · subst mine
    have isTerm := termFrame_isTerm documented cfg ts long call.lcWide call.wide seq
    have sent := framesOf_sendDmrd fields sender
    rw [if_pos rfl] at sent
    cases phase with
    | unopened never silent apart => exact absurd current apart
    | finished opening recorded apart => exact absurd current apart
    | entered opening recorded _ _ _ silent => exact absurd silent begun
    | active opening other recorded active body legacy =>
        obtain rfl : other = lc := Option.some.inj (active.recorded.symm.trans call.recorded)
        refine .finished opening (openedStreams_grows recorded _) (by simp [closed]) (.inr ?_)
        rw [framesOf_append, sent]
        exact body.term legacy isTerm
  · exact phase.burst_of_other current mine (.inl closed) fields rfl

/-- The headers that open a stream. -/
theorem framesOf_headOpened {dmr : DmrUtils} (documented : dmr.Documented) (cfg : Config)
    (ts : Timeslot) {data : Bytes} (long : 31 ≤ data.length) (urandom : StreamId) (seq : UInt8)
    (other : Bytes) :
    let actions := .openStream urandom.val (gvLc dmr data) ::
      sendFrames (headFrame dmr cfg ts data urandom.val) (if cfg.legacyFlow then 2 else 1) seq
    let head := fun number => HbpFrame.read (headFrame dmr cfg ts data urandom.val number)
    framesOf other actions = if urandom.val = other then
      (if cfg.legacyFlow then [head seq, head (seq + 1)] else [head seq]) else [] := by
  have one := framesOf_sendDmrd
    (headFrame_fields documented cfg ts long urandom.property seq) other
  have two := framesOf_sendDmrd
    (headFrame_fields documented cfg ts long urandom.property (seq + 1)) other
  intro actions head
  cases flow : cfg.legacyFlow with
  | true =>
      have split : actions = [.openStream urandom.val (gvLc dmr data)] ++
          [.sendDmrd (headFrame dmr cfg ts data urandom.val seq)] ++
          [.sendDmrd (headFrame dmr cfg ts data urandom.val (seq + 1))] := by
        simp [actions, flow, sendFrames]
      rw [split, framesOf_append, framesOf_append, one, two]
      by_cases mine : urandom.val = other <;> simp [mine, framesOf, sentDmrd, head]
  | false =>
      have split : actions = [.openStream urandom.val (gvLc dmr data)] ++
          [.sendDmrd (headFrame dmr cfg ts data urandom.val seq)] := by
        simp [actions, flow, sendFrames]
      rw [split, framesOf_append, one]
      by_cases mine : urandom.val = other <;> simp [mine, framesOf, sentDmrd, head]

/-- Opening a stream with a fresh ID starts its own phase and keeps those of the others. -/
theorem StreamPhase.opens {dmr : DmrUtils} {cfg : Config} {ts : Timeslot} {log actions : List Action}
    {before after : OutCall} {streamId opener lc : Bytes}
    (phase : StreamPhase dmr cfg ts log before streamId) (closed : before.streamId = none)
    (streams : openedStreams actions = [(opener, lc)])
    (fresh : ∀ opening, (opener, opening) ∉ openedStreams log)
    (current : after.streamId = some opener)
    (others : ∀ other, opener ≠ other → framesOf other actions = [])
    (own : framesOf opener (log ++ actions) = framesOf opener actions →
      (opener, lc) ∈ openedStreams (log ++ actions) →
      StreamPhase dmr cfg ts (log ++ actions) after opener) :
    StreamPhase dmr cfg ts (log ++ actions) after streamId := by
  by_cases mine : opener = streamId
  · subst mine
    apply own
    · rw [framesOf_append, phase.silent_of_fresh fresh, List.nil_append]
    · rw [openedStreams_append, streams]
      exact List.mem_append_right _ List.mem_cons_self
  · refine phase.foreign (by simp [closed]) (by simpa [current] using mine) (others _ mine) ?_
    intro opening member
    rw [streams] at member
    exact mine (Prod.mk.inj (List.mem_singleton.mp member)).1.symm

/-- A packet moves the phases of all streams on. -/
theorem StreamPhase.burst {dmr : DmrUtils} (documented : dmr.Documented) {cfg : Config}
    {ts : Timeslot} {data : Bytes} {burstType : UInt8} {urandom : StreamId} {now : Time} {seq : UInt8}
    {slot after : Slot} {log actions : List Action}
    (outcome : BurstOutcome dmr cfg ts data burstType urandom now seq slot after actions)
    (long : 31 ≤ data.length) (wellOpen : slot.outCall.WellOpen dmr)
    (fresh : ∀ lc ∈ openedStreams actions, ∀ opening, (lc.1, opening) ∉ openedStreams log)
    (begun : burstType = voiceTerm → ∀ sender, slot.outCall.streamId = some sender →
      framesOf sender log ≠ [])
    {streamId : Bytes} (phase : StreamPhase dmr cfg ts log slot.outCall streamId) :
    StreamPhase dmr cfg ts (log ++ actions) after.outCall streamId := by
  have opened : ∀ pos, OutCall.Open dmr
      { slot.outCall.withHead dmr data urandom.val with framePos := pos } urandom.val (gvLc dmr data) :=
    fun _ => OutCall.opened_by documented long urandom.property rfl rfl rfl
  cases outcome with
  | ignored | outOfRange => exact phase.quiet ⟨rfl, rfl, rfl, rfl⟩ rfl rfl
  | headRepeated sender head current flow =>
      exact phase.headRepeated documented wellOpen current flow long seq
  | voiceSent sender voice current enough =>
      exact phase.voiceSent documented wellOpen current enough seq
  | ended sender term current =>
      exact phase.ended documented wellOpen current (begun term sender current) rfl long seq
  | headOpened head closed =>
      have streams : openedStreams (.openStream urandom.val (gvLc dmr data) ::
          sendFrames (headFrame dmr cfg ts data urandom.val) (if cfg.legacyFlow then 2 else 1) seq) =
          [(urandom.val, gvLc dmr data)] := by
        cases cfg.legacyFlow <;> rfl
      have frames := framesOf_headOpened documented cfg ts long urandom seq
      rw [streams] at fresh
      refine phase.opens closed streams (fresh _ List.mem_cons_self) rfl
        (fun other different => (frames other).trans (if_neg different)) fun sent recorded => ?_
      obtain ⟨isHead, headLc⟩ := headFrame_isHead documented cfg ts long urandom.property seq
      obtain ⟨again, againLc⟩ := headFrame_isHead documented cfg ts long urandom.property (seq + 1)
      refine .active (gvLc dmr data) (gvLc dmr data) recorded (opened 0) ?_ fun flow => ?_
      · rw [sent, frames, if_pos rfl]
        cases flow : cfg.legacyFlow with
        | true =>
            have body : StreamBody dmr cfg ts (gvLc dmr data) _ 0 _ := .headRepeated (.head isHead) again
            rwa [againLc] at body
        | false =>
            have body : StreamBody dmr cfg ts (gvLc dmr data) _ 0 _ := .head isHead
            rwa [headLc] at body
      · rw [sent, frames, if_pos rfl, if_pos flow]
        exact ⟨_, _, [], rfl, isHead, again, by simp⟩
  | enteredLate late enough =>
      have fields := voiceFrame_fields documented cfg ts enough (gvLc_length documented long)
        urandom.property 4 seq
      have frames : ∀ other, framesOf other [.openStream urandom.val (gvLc dmr data),
          .sendDmrd (voiceFrame dmr cfg ts data 4 (some (dmr.encodeEmblc (gvLc dmr data)))
            urandom.val seq)] = _ := framesOf_sendDmrd fields
      refine phase.opens late.closed rfl (fresh _ List.mem_cons_self) rfl
        (fun other different => (frames other).trans (if_neg different)) fun sent recorded => ?_
      have isVoice := voiceFrame_isVoice documented cfg ts enough (gvLc_length documented long)
        urandom.property 4 seq
      refine .active (gvLc dmr data) (gvLc dmr data) recorded (opened 5) ?_ fun flow => ?_
      · rw [sent, frames, if_pos rfl]
        exact .late late.flow isVoice
      · rw [late.flow] at flow
        cases flow
  | enteredSilent late short =>
      refine phase.opens late.closed rfl (fresh _ List.mem_cons_self) rfl (fun _ _ => rfl)
        fun sent recorded => ?_
      exact .entered (gvLc dmr data) recorded (opened 4) late.flow rfl sent

/-- The prelude keeps the stream or gives it up. -/
theorem legacyPrelude_stream (cfg : Config) (data : Bytes) (burstType : UInt8) (clock : Clock)
    (slot : Slot) :
    (legacyPrelude cfg data burstType clock slot).2.outCall.streamId = none ∨
      (legacyPrelude cfg data burstType clock slot).2.outCall.SameStream slot.outCall := by
  have ways := legacyPrelude_cases cfg data burstType clock slot
  generalize (legacyPrelude cfg data burstType clock slot).2 = after at ways
  generalize (legacyPrelude cfg data burstType clock slot).1 = stale at ways
  cases ways with
  | kept | stale | recorded => exact .inr ⟨rfl, rfl, rfl, rfl⟩
  | restarted => exact .inl rfl

/-- An accepted VOICE_TERM of an open stream comes after a frame of that stream. -/
def TermsBegun (cfg : Config) (log : List Action) (slot : Slot) : SlotEvent → Prop
  | .ipscVoice connected data burstType _ clock =>
      connected = true → burstType = voiceTerm → (ipscGate cfg data burstType clock slot).1 = false →
      ∀ streamId ∈ slot.outCall.streamId, framesOf streamId log ≠ []
  | _ => True

instance (cfg : Config) (log : List Action) (slot : Slot) :
    ∀ part, Decidable (TermsBegun cfg log slot part)
  | .ipscVoice .. => inferInstanceAs (Decidable (_ → _ → _ → _))
  | .hbpFrame .. | .drain _ | .checkCallTimeouts .. | .peerLost | .hbpDisconnected => isTrue trivial

/-- The IPSC stacks deliver GROUP_VOICE packets of at least 31 bytes. -/
def Event.Delivered : Event → Prop
  | .ipscVoice _ data _ _ _ _ => 31 ≤ data.length
  | _ => True

instance : ∀ event : Event, Decidable event.Delivered
  | .ipscVoice _ data _ _ _ _ => inferInstanceAs (Decidable (31 ≤ data.length))
  | .hbpVoice .. | .drain .. | .checkCallTimeouts .. | .peerRegistered | .peerLost
  | .hbpDisconnected => isTrue trivial

/-- The part of a delivered packet that concerns a timeslot. -/
def SlotEvent.Delivered : SlotEvent → Prop
  | .ipscVoice _ data _ _ _ => 31 ≤ data.length
  | _ => True

theorem Event.Delivered.atSlot {event : Event} (delivered : event.Delivered) {ts : Timeslot}
    {part : SlotEvent} (seen : event.atSlot ts = some part) : part.Delivered := by
  cases Event.atSlot_cases seen with
  | ipscVoice => exact delivered
  | hbpVoice | drain | checkCallTimeouts | peerLost | hbpDisconnected => trivial

/-- The opened streams have distinct IDs. -/
def FreshStreams (log : List Action) : Prop := ((openedStreams log).map Prod.fst).Nodup

instance (log : List Action) : Decidable (FreshStreams log) :=
  inferInstanceAs (Decidable (List.Nodup _))

/-- The streams of a timeslot: the open call is well formed, every frame has 55 bytes, and while
the stream IDs are distinct each stream is in a phase. -/
structure StreamsKept (dmr : DmrUtils) (cfg : Config) (ts : Timeslot) (log : List Action)
    (slot : Slot) : Prop where
  wellOpen : slot.outCall.WellOpen dmr
  lengths : ∀ dmrd ∈ sentDmrd log, dmrd.length = dmrdLen
  phases : FreshStreams log → ∀ streamId, StreamPhase dmr cfg ts log slot.outCall streamId

/-- The opened streams of a longer log are fresh for the log before. -/
theorem FreshStreams.split {log actions : List Action} (fresh : FreshStreams (log ++ actions)) :
    FreshStreams log ∧
      ∀ stream ∈ openedStreams actions, ∀ opening, (stream.1, opening) ∉ openedStreams log := by
  rw [FreshStreams, openedStreams_append, List.map_append, List.nodup_append] at fresh
  refine ⟨fresh.1, fun stream opened opening before => ?_⟩
  exact fresh.2.2 stream.1 (List.mem_map.mpr ⟨(stream.1, opening), before, rfl⟩) stream.1
    (List.mem_map_of_mem opened) rfl

/-- A step that sends no frame and keeps or gives up the current stream keeps the streams. -/
theorem StreamsKept.quiet {dmr : DmrUtils} {cfg : Config} {ts : Timeslot} {log actions : List Action}
    {before after : Slot} (kept : StreamsKept dmr cfg ts log before)
    (next : after.outCall.streamId = none ∨ after.outCall.SameStream before.outCall)
    (silent : sentDmrd actions = []) (unopened : openedStreams actions = []) :
    StreamsKept dmr cfg ts (log ++ actions) after := by
  have none : ∀ streamId, framesOf streamId actions = [] := fun streamId => by
    rw [framesOf, silent]
    rfl
  refine ⟨fun streamId current => ?_, ?_, fun fresh streamId => ?_⟩
  · rcases next with closed | same
    · rw [closed] at current
      cases current
    · obtain ⟨lc, call⟩ := kept.wellOpen streamId (same.streamId.symm.trans current)
      exact ⟨lc, same.open call⟩
  · rw [sentDmrd_append, silent, List.append_nil]
    exact kept.lengths
  · have phase := kept.phases fresh.split.1 streamId
    rcases next with closed | same
    · exact phase.stops closed (none streamId) unopened
    · exact phase.quiet same (none streamId) unopened

/-- A delivered packet keeps the streams. -/
theorem StreamsKept.ipscVoice {dmr : DmrUtils} (documented : dmr.Documented) {cfg : Config}
    {ts : Timeslot} {log : List Action} {slot : Slot} (kept : StreamsKept dmr cfg ts log slot)
    {connected : Bool} {data : Bytes} {burstType : UInt8} {urandom : StreamId} {clock : Clock}
    (guarded : TermsBegun cfg log slot (.ipscVoice connected data burstType urandom clock))
    (long : 31 ≤ data.length) (shared : Shared) :
    let result := ipscVoiceReceived dmr cfg connected data ts burstType urandom clock shared slot
    StreamsKept dmr cfg ts (log ++ result.2.2) result.2.1 := by
  cases connected with
  | false => exact kept.quiet (.inr ⟨rfl, rfl, rfl, rfl⟩) rfl rfl
  | true =>
      rw [ipscVoiceReceived_eq]
      have stream := legacyPrelude_stream cfg data burstType clock slot
      have gate := ipscGate_cases cfg data burstType clock slot
      have begun := guarded rfl
      generalize legacyPrelude cfg data burstType clock slot = prelude at stream gate
      generalize ipscGate cfg data burstType clock slot = passed at gate begun
      rcases passed with ⟨dropped, after⟩
      cases gate with
      | stale | blocked | suppressed => exact kept.quiet stream rfl rfl
      | admitted lock reflect verdict heard =>
          simp only [Bool.false_eq_true, if_false]
          have waiting : StreamsKept dmr cfg ts log
              { prelude.2 with lock := lock, reflect := reflect, ipscBusyLast := clock 4 } := by
            have quiet : StreamsKept dmr cfg ts (log ++ []) { prelude.2 with
              lock := lock, reflect := reflect, ipscBusyLast := clock 4 } := kept.quiet stream rfl rfl
            rwa [List.append_nil] at quiet
          have outcome := sendBurst_cases dmr cfg ts data burstType urandom (clock 5)
            (shared.learn data)
            { prelude.2 with lock := lock, reflect := reflect, ipscBusyLast := clock 4 }
          refine ⟨outcome.wellOpen documented long waiting.wellOpen, ?_, fun fresh streamId => ?_⟩
          · intro dmrd member
            rw [sentDmrd_append] at member
            rcases List.mem_append.mp member with before | now
            · exact kept.lengths dmrd before
            · exact outcome.sent_length documented long waiting.wellOpen dmrd now
          · refine StreamPhase.burst documented outcome long waiting.wellOpen fresh.split.2 ?_
              (waiting.phases fresh.split.1 streamId)
            intro term sender current
            rcases stream with closed | same
            · exact absurd (closed.symm.trans current) (by simp)
            · exact begun term rfl sender (same.streamId.symm.trans current)

/-- The HBP side sends no frame and opens no stream. -/
theorem outbound_fromHbp {dmr : DmrUtils} {actions : List Action}
    (fromHbp : ∀ action ∈ actions, action.FromHbp dmr) :
    sentDmrd actions = [] ∧ openedStreams actions = [] := by
  refine ⟨sentDmrd_fromHbp fromHbp, ?_⟩
  rw [openedStreams, List.filterMap_eq_nil_iff]
  intro action member
  have barred := fromHbp action member
  cases action <;> first | rfl | exact barred.elim

/-- Every delivered step of a slot keeps the streams. -/
theorem StreamsKept.slotStep {dmr : DmrUtils} (documented : dmr.Documented) {cfg : Config}
    {ts : Timeslot} {log : List Action} {slot : Slot} (kept : StreamsKept dmr cfg ts log slot)
    {part : SlotEvent} (guarded : TermsBegun cfg log slot part) (delivered : part.Delivered)
    (shared : Shared) :
    let result := slotStep dmr cfg ts shared slot part
    StreamsKept dmr cfg ts (log ++ result.2.2) result.2.1 := by
  cases part with
  | ipscVoice connected data burstType urandom clock =>
      exact kept.ipscVoice documented guarded delivered shared
  | hbpFrame frame draw clock =>
      obtain ⟨same, fromHbp⟩ := hbpFrameReceived_outbound dmr cfg frame draw clock shared slot
      obtain ⟨silent, unopened⟩ := outbound_fromHbp fromHbp
      exact kept.quiet (.inr (.of_eq same)) silent unopened
  | drain clock =>
      have outcome := drainHbpToIpscQueue_cases cfg clock slot
      obtain ⟨silent, unopened⟩ := outbound_fromHbp (outcome.fromHbp dmr)
      have same : (drainHbpToIpscQueue cfg clock slot).1.outCall = slot.outCall := outcome.side.outCall
      exact kept.quiet (.inr (.of_eq same)) silent unopened
  | checkCallTimeouts timeout clock =>
      refine kept.quiet ?_ rfl rfl
      rcases (checkCallTimeouts_frame cfg timeout clock ts slot).1 with same | closed
      · exact .inr (.of_eq same)
      · exact .inl closed
  | peerLost | hbpDisconnected => exact kept.quiet (.inl rfl) rfl rfl

/-- A phase of a finished run is a whole stream or none. -/
theorem StreamPhase.whole {dmr : DmrUtils} {cfg : Config} {ts : Timeslot} {log : List Action}
    {outCall : OutCall} {streamId : Bytes} (phase : StreamPhase dmr cfg ts log outCall streamId) :
    framesOf streamId log = [] ∨ ∃ opening, (streamId, opening) ∈ openedStreams log ∧
      GeneratedStream dmr cfg ts opening (framesOf streamId log) := by
  cases phase with
  | unopened never silent => exact .inl silent
  | entered opening opened call flow next silent => exact .inl silent
  | active opening lc opened call body legacy =>
      exact .inr ⟨opening, opened, body.generated legacy⟩
  | finished opening opened apart whole => exact whole.imp id fun stream => ⟨opening, opened, stream⟩

end Ipsc2Hbp
