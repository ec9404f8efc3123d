import Ipsc2Hbp.Construction.GroupVoice
import Ipsc2Hbp.Construction.HbpProtocol
import Ipsc2Hbp.Construction.Translator

namespace Ipsc2Hbp
open BigEndian

/-- The translator together with the HBP client that it was given. -/
structure Core where
  translator : Translator := {}
  client : HbpClient := {}

/-- The effects of a callback, each with the number of the session in which it happens. -/
inductive CoreOutput where
  | translator (session : Nat) (output : Output)
  | hbp (session : Nat) (output : HbpOutput)
  deriving DecidableEq

/-- The callbacks of the IPSC side, of the event loop and of the HBP stack. A GROUP_VOICE packet
comes without its parsed fields, which `_on_group_voice` reads; `registered` is the answer of
`is_peer_registered`. -/
inductive CoreEvent where
  | groupVoice (data : Bytes) (urandom : StreamId) (clock : Clock)
  | peerRegistered
  | peerLost
  | checkCallTimeouts (timeout : Time) (clock : Clock)
  | drain (ts : Timeslot) (clock : Clock)
  | hbp (event : HbpEvent) (registered : Bool) (draw : RtpDraw) (clock : Clock)

namespace Core

/-- A call of the translator to the HBP client. -/
def command (cfg : Config) (client : HbpClient) : Output → HbpClient × List HbpOutput
  | .activate => client.activate
  | .deactivate => client.deactivate cfg
  | .slot _ (.sendDmrd dmrd) => (client, client.sendDmrd dmrd)
  | _ => (client, [])

/-- The client obeys the calls that the translator makes in one callback. -/
def obey (cfg : Config) : HbpClient → List Output → HbpClient × List CoreOutput
  | client, [] => (client, [])
  | client, output :: rest =>
      let first := command cfg client output
      let tail := obey cfg first.1 rest
      (tail.1, .translator client.session output ::
        (first.2.map (CoreOutput.hbp client.session) ++ tail.2))

/-- A callback of the translator. -/
def translate (dmr : DmrUtils) (cfg : Config) (event : Event) (core : Core) : Core × List CoreOutput :=
  let result := Translator.step dmr cfg core.translator event
  let obeyed := obey cfg core.client result.2
  (⟨result.1, obeyed.1⟩, obeyed.2)

/-- The callback that an effect of the HBP stack makes, if any. -/
def callback (registered : Bool) (draw : RtpDraw) (clock : Clock) : HbpOutput → Option Event
  | .hbpDisconnected => some .hbpDisconnected
  | .hbpVoiceReceived dmrd => some (.hbpVoice registered dmrd draw clock)
  | _ => none

/-- The translator answers the calls that the HBP stack makes in one callback. -/
def notify (dmr : DmrUtils) (cfg : Config) (registered : Bool) (draw : RtpDraw) (clock : Clock) :
    Core → List HbpOutput → Core × List CoreOutput
  | core, [] => (core, [])
  | core, output :: rest =>
      let first := match callback registered draw clock output with
        | none => (core, [])
        | some event => core.translate dmr cfg event
      let tail := notify dmr cfg registered draw clock first.1 rest
      (tail.1, .hbp core.client.session output :: (first.2 ++ tail.2))

/-- One callback of the composed system. -/
def step (digests : Digests) (dmr : DmrUtils) (cfg : Config) (core : Core) :
    CoreEvent → Core × List CoreOutput
  | .groupVoice data urandom clock =>
      match parseGroupVoiceMeta data with
      | .error _ => (core, [])
      | .ok (ts, burstType) =>
          core.translate dmr cfg
            (.ipscVoice core.client.isConnected data ts burstType urandom clock)
  | .peerRegistered => core.translate dmr cfg .peerRegistered
  | .peerLost => core.translate dmr cfg .peerLost
  | .checkCallTimeouts timeout clock => core.translate dmr cfg (.checkCallTimeouts timeout clock)
  | .drain ts clock => core.translate dmr cfg (.drain ts clock)
  | .hbp event registered draw clock =>
      let result := core.client.step digests cfg event
      notify dmr cfg registered draw clock { core with client := result.1 } result.2

def initial : Core := {}

end Core

/-- The translator and the HBP stack as one machine. -/
def core (digests : Digests) (dmr : DmrUtils) (cfg : Config) : Mealy Core CoreEvent CoreOutput where
  step := Core.step digests dmr cfg

end Ipsc2Hbp
