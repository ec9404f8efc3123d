import Ipsc2Hbp.Construction.CallLock

namespace Ipsc2Hbp
open BigEndian

/-- The embedded LC of burst F. -/
def nullEmbLc : Bits := List.replicate 32 false

/-- `_ambe49_to_72` converts one voice frame to its interleaved form. -/
def ambe49To72 (dmr : DmrUtils) (ambe : Bits) : Bits :=
  bytesToBits (dmr.convert49BitTo72BitAMBE ambe)

/-- This is the name of the burst at superframe position `pos`, for positions 1 to 5. -/
def embBurst : Nat → EmbBurst
  | 1 => .burstB
  | 2 => .burstC
  | 3 => .burstD
  | 4 => .burstE
  | _ => .burstF

/-- `_build_embed` is the 48-bit middle field at superframe position `pos`. -/
def buildEmbed (dmr : DmrUtils) (pos : Nat) (embLc : Option EmbLc) : Bits :=
  if pos = 0 then dmr.bsVoiceSync
  else
    let word := dmr.emb (embBurst pos)
    let lcBits := match embLc with
      | some fragments => if pos ≤ 4 then (fragments pos).getD nullEmbLc else nullEmbLc
      | none => nullEmbLc
    word.take 8 ++ lcBits ++ word.drop (word.length - 8)

/-- An LC codeword is split around the slot type and the data sync. -/
def lcPayload (dmr : DmrUtils) (codeword slotType : Bits) : Bytes :=
  bitsToBytes (codeword.take 98 ++ slotType.take 10 ++ dmr.bsDataSync ++
    slotType.drop (slotType.length - 10) ++ codeword.drop 98)

/-- The three voice frames of a burst are packed around the embedded field. -/
def voicePayload (dmr : DmrUtils) (ambe : Bytes) (embed : Bits) : Bytes :=
  let raw := bytesToBits ambe
  let first := ambe49To72 dmr (raw.extract 0 49)
  let second := ambe49To72 dmr (raw.extract 50 99)
  let third := ambe49To72 dmr (raw.extract 100 149)
  bitsToBytes (first ++ second.take 36 ++ embed ++ second.drop 36 ++ third)

/-- `ipsc_voice_received` assembles this DMRD frame. -/
def dmrdFrame (cfg : Config) (seq : UInt8) (srcSub dstGroup : Bytes) (flags : UInt8)
    (streamId payload : Bytes) : Bytes :=
  hbpfDmrd ++ [seq] ++ srcSub ++ dstGroup ++ natToBytes 4 cfg.hbpRepeaterId ++ [flags] ++
    streamId ++ payload ++ [0x00, 0x00]

/-- `_legacy_ipsc_stream_drop` drops voice without a call and resets the call at a new stream. -/
def legacyIpscStreamDrop (cfg : Config) (ipscStream : Option UInt8) (burstType : UInt8) (now : Time)
    (slot : Slot) : Bool × Slot :=
  match cfg.legacyFlow, ipscStream with
  | false, _ => (false, slot)
  | true, none => (false, slot)
  | true, some streamByte =>
      let current := slot.outCall.ipscStreamByte
      let active := slot.outCall.streamId.isSome
      if burstType = voiceHead then
        let slot := if current.isSome && active && current ≠ some streamByte then
          { slot with
            outCall := { slot.outCall with streamId := none, lc := none, embLc := none }
            lock := releaseCallLock cfg .ipsc now slot.lock }
          else slot
        (false, { slot with outCall.ipscStreamByte := some streamByte })
      else (current.isNone && !active, slot)

/-- `_should_suppress_ipsc_reflection` drops the upstream's echo of an active HBP call. -/
def shouldSuppressIpscReflection (cfg : Config) (ipscStream : Option UInt8) (burstType : UInt8)
    (srcSub dstGroup : Bytes) (now : Time) (slot : Slot) : Bool × Slot :=
  if !cfg.ipscReflectSuppression || cfg.ipscMode ≠ .peer then (false, slot)
  else match ipscStream with
  | none => (false, slot)
  | some streamByte =>
      let recent := slot.reflect.recent.filter fun entry => now < entry.2.2
      let window := max 1 cfg.ipscReflectWindow
      let ignore := fun key => (slot.reflect.ignore key).filter fun expiry => now < expiry
      if (ignore streamByte).isSome then
        let expiry := if burstType = voiceTerm then none else some (now + window)
        (true, { slot with reflect := ⟨recent, Function.update ignore streamByte expiry⟩ })
      else if burstType ≠ voiceHead then (false, { slot with reflect := ⟨recent, ignore⟩ })
      else if !slot.inCall.started then (false, { slot with reflect := ⟨recent, ignore⟩ })
      else if recent.any fun entry => entry.1 = srcSub && entry.2.1 = dstGroup then
        (true, { slot with
          reflect := ⟨recent, Function.update ignore streamByte (some (now + window))⟩ })
      else (false, { slot with reflect := ⟨recent, ignore⟩ })

/-- The outcome of a burst branch: an early end of the handler or a frame to send. -/
inductive Burst where
  | done (slot : Slot) (actions : List Action)
  | frame (slot : Slot) (actions : List Action) (payload : Bytes) (flags : UInt8)

/-- The VOICE_HEAD branch opens the stream or repeats its header. -/
def headBurst (dmr : DmrUtils) (cfg : Config) (srcSub dstGroup : Bytes) (urandom : StreamId)
    (slot : Slot) : Burst :=
  let lc := dmr.lcOpt ++ dstGroup ++ srcSub
  let payload := lcPayload dmr (dmr.encodeHeaderLc lc) dmr.slotTypeVoiceLcHead
  let flags := hbpfFrametypeDatasync ||| hbpfSltVhead
  let head (slot : Slot) (streamId : Bytes) : Slot :=
    { slot with
      outCall := { slot.outCall with
        streamId := some streamId, framePos := 0, lc := some lc,
        embLc := some (dmr.encodeEmblc lc) } }
  match slot.outCall.streamId with
  | none => .frame (head slot urandom.val) [.openStream urandom.val lc] payload flags
  | some streamId =>
      if cfg.legacyFlow then .done slot []
      else .frame (head slot streamId) [] payload flags

/-- The VOICE_TERM branch closes an open stream only. -/
def termBurst (dmr : DmrUtils) (srcSub dstGroup : Bytes) (slot : Slot) : Burst :=
  match slot.outCall.streamId with
  | none => .done slot []
  | some _ =>
      let lc := truthyOr slot.outCall.lc (dmr.lcOpt ++ dstGroup ++ srcSub)
      .frame slot [] (lcPayload dmr (dmr.encodeTerminatorLc lc) dmr.slotTypeVoiceLcTerm)
        (hbpfFrametypeDatasync ||| hbpfSltVterm)

/-- A voice burst of an open stream is converted and takes the next superframe position. -/
def openVoiceBurst (dmr : DmrUtils) (data : Bytes) (slot : Slot) (actions : List Action) : Burst :=
  if data.length < 52 then .done slot actions
  else
    let pos := slot.outCall.framePos % 6
    let payload := voicePayload dmr (data.extract 33 52) (buildEmbed dmr pos slot.outCall.embLc)
    let flags := if pos = 0 then hbpfFrametypeVoicesync
      else hbpfFrametypeVoice ||| UInt8.ofNat pos
    .frame { slot with outCall.framePos := slot.outCall.framePos + 1 } actions payload flags

/-- The voice branch may open a stream late, from a burst E. -/
def voiceBurst (dmr : DmrUtils) (cfg : Config) (data srcSub dstGroup : Bytes) (urandom : StreamId)
    (slot : Slot) : Burst :=
  match slot.outCall.streamId with
  | some _ => openVoiceBurst dmr data slot []
  | none =>
      if cfg.legacyFlow then .done slot []
      else match data[32]? with
      | none => .done slot [.raised .indexError]
      | some mark =>
          if mark ≠ 0x16 then .done slot []
          else
            let lc := dmr.lcOpt ++ dstGroup ++ srcSub
            let slot := { slot with
              outCall := { slot.outCall with
                streamId := some urandom.val, lc := some lc,
                embLc := some (dmr.encodeEmblc lc), framePos := 4 } }
            openVoiceBurst dmr data slot [.openStream urandom.val lc]

/-- The three branches on the burst type. -/
def burstOf (dmr : DmrUtils) (cfg : Config) (data srcSub dstGroup : Bytes) (burstType : UInt8)
    (urandom : StreamId) (slot : Slot) : Burst :=
  if burstType = voiceHead then headBurst dmr cfg srcSub dstGroup urandom slot
  else if burstType = voiceTerm then termBurst dmr srcSub dstGroup slot
  else voiceBurst dmr cfg data srcSub dstGroup urandom slot

/-- The send loop numbers each copy of the frame. -/
def sendFrames (frame : UInt8 → Bytes) : Nat → UInt8 → List Action
  | 0, _ => []
  | count + 1, seq => .sendDmrd (frame seq) :: sendFrames frame count (seq + 1)

/-- After its terminator the stream is closed and its lock released. -/
def endIpscCall (cfg : Config) (now : Time) (slot : Slot) : Slot :=
  { slot with
    outCall := { slot.outCall with
      streamId := none, lc := none, embLc := none, ipscStreamByte := none }
    lock := releaseCallLock cfg .ipsc now slot.lock }

/-- The tail of `ipsc_voice_received` sends the frame and closes the call after a terminator. -/
def sendBurst (cfg : Config) (ts : Timeslot) (srcSub dstGroup : Bytes) (burstType : UInt8)
    (now : Time) (shared : Shared) : Burst → Shared × Slot × List Action
  | .done slot actions => (shared, slot, actions)
  | .frame slot actions payload flags =>
      match slot.outCall.streamId with
      | none => (shared, slot, actions ++ [.raised .typeError])
      | some streamId =>
          let flags := (if ts = .ts2 then hbpfTgidTs2 else 0x00) ||| flags
          let repeatCount := if cfg.legacyFlow && burstType = voiceHead then 2 else 1
          let frame := fun seq => dmrdFrame cfg seq srcSub dstGroup flags streamId payload
          ({ shared with outSeq := shared.outSeq + UInt8.ofNat repeatCount },
            if burstType = voiceTerm then endIpscCall cfg now slot else slot,
            actions ++ sendFrames frame repeatCount shared.outSeq)

/-- The call type and control of an accepted packet are echoed in generated packets. -/
def Shared.learn (shared : Shared) (data : Bytes) : Shared :=
  if 17 ≤ data.length then
    { shared with peerCallType := data.extract 12 13, peerCallCtrl := data.extract 13 17 }
  else shared

/-- The source of a GROUP_VOICE packet. -/
def gvSrcSub (data : Bytes) : Bytes := data.extract gvSrcSubOff (gvSrcSubOff + 3)

/-- The talkgroup of a GROUP_VOICE packet. -/
def gvDstGroup (data : Bytes) : Bytes := data.extract gvDstGroupOff (gvDstGroupOff + 3)

/-- `ipsc_voice_received` on its timeslot; the flag says whether HBP is connected. -/
def ipscVoiceReceived (dmr : DmrUtils) (cfg : Config) (connected : Bool) (data : Bytes)
    (ts : Timeslot) (burstType : UInt8) (urandom : StreamId) (clock : Clock)
    (shared : Shared) (slot : Slot) : Shared × Slot × List Action :=
  if !connected then (shared, slot, [])
  else
    let slot := { slot with outCall.lastPkt := clock 0 }
    let srcSub := gvSrcSub data
    let dstGroup := gvDstGroup data
    let ipscStream := data[gvIpscSeqOff]?
    let dropped := legacyIpscStreamDrop cfg ipscStream burstType (clock 1) slot
    if dropped.1 then (shared, dropped.2, [])
    else
      let blocked := callLockBlocks cfg dropped.2 (.ipsc ipscStream) srcSub dstGroup
        (burstType = voiceTerm) (clock 2)
      if blocked.1 then (shared, blocked.2, [])
      else
        let suppressed := shouldSuppressIpscReflection cfg ipscStream burstType srcSub dstGroup
          (clock 3) blocked.2
        if suppressed.1 then (shared, suppressed.2, [])
        else
          let slot := { suppressed.2 with ipscBusyLast := clock 4 }
          sendBurst cfg ts srcSub dstGroup burstType (clock 5) (shared.learn data)
            (burstOf dmr cfg data srcSub dstGroup burstType urandom slot)

end Ipsc2Hbp
