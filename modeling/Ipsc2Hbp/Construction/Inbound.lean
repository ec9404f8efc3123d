import Ipsc2Hbp.Construction.Outbound
import Ipsc2Hbp.Construction.Pacing

namespace Ipsc2Hbp
open BigEndian

/-- The draws of `randint` at the start of an HBP call. -/
structure RtpDraw where
  seq : Fin 0x8000
  ts : UInt32

/-- The fields of a DMRD frame that `hbp_voice_received` reads. -/
structure HbpFrame where
  srcSub : Bytes
  dstGroup : Bytes
  flags : UInt8
  stream : Bytes
  payload : Bytes

namespace HbpFrame

/-- The frame is sliced at the DMRD offsets. -/
def parse (dmrd : Bytes) (flags : UInt8) : HbpFrame where
  srcSub := dmrd.extract dmrdSrcOff (dmrdSrcOff + 3)
  dstGroup := dmrd.extract dmrdDstOff (dmrdDstOff + 3)
  flags := flags
  stream := dmrd.extract dmrdStreamOff (dmrdStreamOff + 4)
  payload := dmrd.extract dmrdPayloadOff (dmrdPayloadOff + 33)

def timeslot (frame : HbpFrame) : Timeslot :=
  if frame.flags &&& hbpfTgidTs2 ≠ 0 then .ts2 else .ts1

def frameType (frame : HbpFrame) : UInt8 := frame.flags &&& hbpfFrametypeMask

def dtype (frame : HbpFrame) : UInt8 := frame.flags &&& hbpfDtypeMask

def isHead (frame : HbpFrame) : Bool :=
  frame.frameType = hbpfFrametypeDatasync && frame.dtype = hbpfSltVhead

def isTerm (frame : HbpFrame) : Bool :=
  frame.frameType = hbpfFrametypeDatasync && frame.dtype = hbpfSltVterm

def callInfo (frame : HbpFrame) : UInt8 := if frame.timeslot = .ts2 then tsCallMsk else 0x00

def slotBurst (frame : HbpFrame) : UInt8 := if frame.timeslot = .ts2 then slot2Voice else slot1Voice

end HbpFrame

/-- `_extract_ambe_from_dmrd` packs the three voice frames into 19 bytes. -/
def extractAmbeFromDmrd (dmr : DmrUtils) (payload : Bytes) : Bytes :=
  let burst := bytesToBits payload
  let first := dmr.convert72BitTo49BitAMBE (burst.extract 0 72)
  let second := dmr.convert72BitTo49BitAMBE (burst.extract 72 108 ++ burst.extract 156 192)
  let third := dmr.convert72BitTo49BitAMBE (burst.extract 192 264)
  bitsToBytes (first ++ [false] ++ second ++ [false] ++ third ++ [false, false, false])

/-- `_build_ipsc_voice_payload` is the payload of a VOICE_HEAD or VOICE_TERM packet. -/
def buildIpscVoicePayload (dmr : DmrUtils) (lc : Bytes) (burstType : UInt8) : Bytes :=
  let fec := if burstType = voiceHead then dmr.lcHeaderEncode (lc.take 9)
    else dmr.lcTerminatorEncode (lc.take 9)
  let typeTag : UInt8 := if burstType = voiceHead then 0x11 else 0x12
  [0x80] ++ natToBytes 2 10 ++ [0x80] ++ [0x0a] ++ natToBytes 2 0x60 ++ lc.take 9 ++ fec ++
    [0x00, typeTag, 0x00, 0x00]

/-- `_decode_hbp_voice_lc` joins the codeword around the sync and decodes it. -/
def decodeHbpVoiceLc (dmr : DmrUtils) (payload : Bytes) : Bytes :=
  let bits := bytesToBits payload
  bitsToBytes (dmr.decodeFullLc (bits.extract 0 98 ++ bits.extract 166 264))

/-- `_build_gv` assembles a GROUP_VOICE packet. -/
def buildGv (cfg : Config) (shared : Shared) (srcSub dstGroup : Bytes) (callInfo : UInt8)
    (rtpHdr gvPayload : Bytes) (streamId : UInt8) : Bytes :=
  [groupVoice] ++ natToBytes 4 cfg.ipscSourceId ++ [streamId] ++ srcSub ++ dstGroup ++
    shared.peerCallType ++ shared.peerCallCtrl ++ [callInfo] ++ rtpHdr ++ gvPayload

/-- The RTP header of a generated packet. -/
def rtpHeader (rtpPt : UInt8) (rtpSeq : UInt16) (rtpTs : UInt32) : Bytes :=
  [0x80] ++ [rtpPt] ++ natToBytes 2 rtpSeq.toNat ++ natToBytes 4 rtpTs.toNat ++
    [0x00, 0x00, 0x00, 0x00]

/-- `_make_hbp_ipsc_packet` builds a packet of the slot's call and advances its RTP counters. -/
def makeHbpIpscPacket (cfg : Config) (shared : Shared) (srcSub dstGroup : Bytes)
    (callInfo rtpPt : UInt8) (gvPayload : Bytes) (slot : Slot) : Bytes × Slot :=
  let rtpHdr := rtpHeader rtpPt slot.inCall.rtpSeq slot.inCall.rtpTs
  (buildGv cfg shared srcSub dstGroup callInfo rtpHdr gvPayload slot.inCall.streamId,
    { slot with
      inCall := { slot.inCall with
        rtpSeq := slot.inCall.rtpSeq + 1, rtpTs := slot.inCall.rtpTs + 480 } })

/-- The translator makes each generated packet and passes it on at once. -/
def generatePacket (cfg : Config) (shared : Shared) (frame : HbpFrame) (callInfo rtpPt : UInt8)
    (gvPayload : Bytes) (burstType : UInt8) (clock : Clock) (slot : Slot) : Slot × List Action :=
  let made := makeHbpIpscPacket cfg shared frame.srcSub frame.dstGroup callInfo rtpPt gvPayload slot
  sendHbpToIpsc cfg ⟨made.1, frame.srcSub, frame.dstGroup, burstType, slot.inCall.serial⟩ clock made.2

/-- The loop of `_emit_hbp_ipsc_start` from header number `idx` on.
Each header reads the clock at most twice. -/
def emitHeads (dmr : DmrUtils) (cfg : Config) (shared : Shared) (frame : HbpFrame) (lc : Bytes)
    (clock : Clock) : Nat → Nat → Slot → Slot × List Action
  | 0, _, slot => (slot, [])
  | count + 1, idx, slot =>
      let rtpPt : UInt8 := if idx = 0 then 0xdd else 0x5d
      let gvPayload := [voiceHead] ++ buildIpscVoicePayload dmr lc voiceHead
      let sent := generatePacket cfg shared frame frame.callInfo rtpPt gvPayload voiceHead
        (fun reading => clock (2 * idx + reading)) slot
      let rest := emitHeads dmr cfg shared frame lc clock count (idx + 1) sent.1
      (rest.1, sent.2 ++ rest.2)

/-- `_emit_hbp_ipsc_start` sends the headers of a call that has not started. -/
def emitHbpIpscStart (dmr : DmrUtils) (cfg : Config) (shared : Shared) (frame : HbpFrame)
    (clock : Clock) (slot : Slot) : Slot × List Action :=
  if slot.inCall.started then (slot, [])
  else
    let lc := truthyOr slot.inCall.lc (dmr.lcOpt ++ frame.dstGroup ++ frame.srcSub)
    let heads := emitHeads dmr cfg shared frame lc clock cfg.headerCount 0 slot
    ({ heads.1 with inCall.started := true }, heads.2)

/-- `_reset_hbp_to_ipsc_state` closes the inbound call; the RTP counters stay. -/
def resetHbpToIpscState (inCall : InCall) : InCall :=
  { inCall with
    lc := none, embLc := none, hbpStream := none, srcSub := none, dstGroup := none,
    lastHead := 0, started := false }

/-- The header and late-entry branches record a new call alike. -/
def openHbpCall (dmr : DmrUtils) (frame : HbpFrame) (lc : Bytes) (draw : RtpDraw) (now : Time)
    (shared : Shared) (slot : Slot) : Shared × Slot :=
  let streamCtr := shared.inStreamCtr + 1
  ({ shared with inStreamCtr := streamCtr },
    { slot with
      inCall := { slot.inCall with
        lc := some lc, embLc := some (dmr.encodeEmblc lc), hbpStream := some frame.stream,
        srcSub := some frame.srcSub, dstGroup := some frame.dstGroup, lastHead := now,
        started := false, streamId := streamCtr, rtpSeq := UInt16.ofNat draw.seq.val,
        rtpTs := draw.ts, serial := slot.inCall.serial + 1 } })

/-- `_legacy_hbp_stream_drop` drops a terminator of a foreign stream. -/
def legacyHbpStreamDrop (cfg : Config) (frame : HbpFrame) (slot : Slot) : Bool :=
  if !cfg.legacyFlow then false
  else
    let active := slot.inCall.lc.isSome || slot.inCall.started || !slot.tx.queue.isEmpty
    if slot.inCall.hbpStream.isNone || !active || slot.inCall.hbpStream = some frame.stream then false
    else if frame.isHead then false
    else frame.isTerm

/-- A header repeats the active call when it has its stream, or its source and talkgroup in time. -/
def duplicateHead (frame : HbpFrame) (now : Time) (slot : Slot) : Bool :=
  let sameHbpStream := slot.inCall.hbpStream = some frame.stream
  let sameCallTuple := slot.inCall.lc.isSome && slot.inCall.srcSub = some frame.srcSub &&
    slot.inCall.dstGroup = some frame.dstGroup
  slot.inCall.lc.isSome &&
    (sameHbpStream || (sameCallTuple && now - slot.inCall.lastHead ≤ 3 / 2))

/-- The VOICE_LC_HEAD branch merges a repeated header or opens a call. -/
def hbpHead (dmr : DmrUtils) (cfg : Config) (frame : HbpFrame) (draw : RtpDraw) (clock : Clock)
    (shared : Shared) (slot : Slot) : Shared × Slot × List Action :=
  let now := clock 0
  let lc := decodeHbpVoiceLc dmr frame.payload
  if duplicateHead frame now slot then
    (shared, { slot with
      inCall := { slot.inCall with
        lc := some lc, embLc := some (dmr.encodeEmblc lc), lastHead := now } }, [])
  else
    let slot := if slot.inCall.hbpStream.isSome && slot.inCall.lc.isSome && slot.inCall.started then
      { slot with inCall := resetHbpToIpscState slot.inCall } else slot
    let opened := openHbpCall dmr frame lc draw now shared slot
    if cfg.hbpStartOnVoice then (opened.1, opened.2, [])
    else
      let start := emitHbpIpscStart dmr cfg opened.1 frame (fun reading => clock (2 + reading)) opened.2
      (opened.1, start.1, start.2)

/-- The end of a call releases its lock and resets its state. -/
def endHbpCall (cfg : Config) (now : Time) (slot : Slot) : Slot :=
  { slot with
    lock := releaseCallLock cfg .hbp now slot.lock, inCall := resetHbpToIpscState slot.inCall }

/-- The VOICE_LC_TERM branch ends a started call with a VOICE_TERM packet. -/
def hbpTerm (dmr : DmrUtils) (cfg : Config) (frame : HbpFrame) (clock : Clock)
    (shared : Shared) (slot : Slot) : Slot × List Action :=
  if !slot.inCall.started then (endHbpCall cfg (clock 2) slot, [])
  else
    let lc := truthyOr slot.inCall.lc (dmr.lcOpt ++ frame.dstGroup ++ frame.srcSub)
    let gvPayload := [voiceTerm] ++ buildIpscVoicePayload dmr lc voiceTerm
    let sent := generatePacket cfg shared frame (frame.callInfo ||| endMsk) 0x5e gvPayload voiceTerm
      (fun reading => clock (2 + reading)) slot
    (endHbpCall cfg (clock 4) sent.1, sent.2)

/-- An embedded fragment of the call, or the null fragment. -/
def embFragment (slot : Slot) (pos : Nat) : Bytes :=
  match slot.inCall.embLc with
  | none => bitsToBytes nullEmbLc
  | some fragments => bitsToBytes ((fragments pos).getD nullEmbLc)

/-- The payload of a voice burst depends on the frame type and data type. -/
def hbpVoicePayload (dmr : DmrUtils) (frame : HbpFrame) (slot : Slot) : Except PyErr Bytes :=
  let ambe19 := extractAmbeFromDmrd dmr frame.payload
  if frame.frameType = hbpfFrametypeVoicesync then
    .ok ([frame.slotBurst] ++ [0x14, 0x40] ++ ambe19)
  else if frame.dtype = 4 then
    let lcPrefix := (truthyOr slot.inCall.lc [0x00, 0x00, 0x00]).extract 0 3
    .ok ([frame.slotBurst] ++ [0x22, 0x16] ++ ambe19 ++ embFragment slot 4 ++ lcPrefix ++
      frame.dstGroup ++ frame.srcSub ++ [0x14])
  else if 5 ≤ frame.dtype then
    .ok ([frame.slotBurst] ++ [0x19, 0x06] ++ ambe19 ++ [0x00, 0x00, 0x00, 0x00, 0x10])
  else
    let pos := max frame.dtype.toNat 1
    match (bitsToBytes ((dmr.emb (embBurst pos)).take 8))[0]? with
    | none => .error .indexError
    | some embHdr =>
        .ok ([frame.slotBurst] ++ [0x19, 0x06] ++ ambe19 ++ embFragment slot pos ++ [embHdr &&& 0xFE])

/-- The voice branch may open a call late; it starts a call that has not started. -/
def hbpVoice (dmr : DmrUtils) (cfg : Config) (frame : HbpFrame) (draw : RtpDraw) (clock : Clock)
    (shared : Shared) (slot : Slot) : Shared × Slot × List Action :=
  if slot.inCall.lc.isNone && cfg.legacyFlow then (shared, slot, [])
  else
    let opened := if slot.inCall.lc.isNone then
      openHbpCall dmr frame (dmr.lcOpt ++ frame.dstGroup ++ frame.srcSub) draw (clock 0) shared slot
      else (shared, slot)
    let start := emitHbpIpscStart dmr cfg opened.1 frame (fun reading => clock (2 + reading)) opened.2
    match hbpVoicePayload dmr frame start.1 with
    | .error err => (opened.1, start.1, start.2 ++ [.raised err])
    | .ok gvPayload =>
        let sent := generatePacket cfg opened.1 frame frame.callInfo 0x5d gvPayload frame.slotBurst
          (fun reading => clock (12 + reading)) start.1
        (opened.1, sent.1, start.2 ++ sent.2)

/-- `hbp_voice_received` on the frame's timeslot, after the checks on peer and length. -/
def hbpFrameReceived (dmr : DmrUtils) (cfg : Config) (frame : HbpFrame) (draw : RtpDraw)
    (clock : Clock) (shared : Shared) (slot : Slot) : Shared × Slot × List Action :=
  let slot := { slot with inCall.lastPkt := clock 0 }
  let blocked := callLockBlocks cfg slot (.hbp frame.stream) frame.srcSub frame.dstGroup
    frame.isTerm (clock 1)
  if blocked.1 then (shared, blocked.2, [])
  else if legacyHbpStreamDrop cfg frame blocked.2 then (shared, blocked.2, [])
  else if frame.isHead then hbpHead dmr cfg frame draw clock shared blocked.2
  else if frame.isTerm then
    let ended := hbpTerm dmr cfg frame clock shared blocked.2
    (shared, ended.1, ended.2)
  else hbpVoice dmr cfg frame draw clock shared blocked.2

end Ipsc2Hbp
