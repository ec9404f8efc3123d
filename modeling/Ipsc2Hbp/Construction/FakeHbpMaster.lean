import Ipsc2Hbp.Library.Network
import Ipsc2Hbp.Construction.Bridge

namespace Ipsc2Hbp
open BigEndian

/-- The states of the FakeHBPMaster of the tests. -/
inductive FakeState where
  | idle
  | waitRptk
  | waitRptc
  | waitRpto
  | connected
  deriving DecidableEq, Repr

/-- The FakeHBPMaster of the tests, over the addresses of its peers. -/
structure FakeHbpMaster (A : Type*) where
  state : FakeState := .idle
  peerAddr : Option A := none
  peerId : Option Bytes := none
  salt : StreamId

/-- The datagrams that reach the master, each with a draw for the salt, and the commands of its
operator. -/
inductive FakeEvent (A : Type*) where
  | datagramReceived (data : Bytes) (addr : A) (urandom : StreamId)
  | sendDmrd (urandom : StreamId)
  | sendCall (ts : Timeslot) (urandom : StreamId)
  | sendNak
  | sendMstcl

namespace FakeHbpMaster
variable {A : Type*}

/-- `_on_rptl` answers a login with a new salt. -/
def onRptl (data : Bytes) (addr : A) (urandom : StreamId) (master : FakeHbpMaster A) :
    FakeHbpMaster A × List (Bytes × A) :=
  if data.length < 8 then (master, [])
  else
    (⟨.waitRptk, some addr, some (data.extract 4 8), urandom⟩, [(hbpfRptack ++ urandom.val, addr)])

/-- `_on_rptk` compares the digest with that of the salt and the own passphrase. -/
def onRptk (digests : Digests) (passphrase data : Bytes) (addr : A) (master : FakeHbpMaster A) :
    FakeHbpMaster A × List (Bytes × A) :=
  if master.state ≠ .waitRptk then (master, [])
  else if data.length < 40 then (master, [])
  else if data.extract 8 40 = digests.sha256 (master.salt.val ++ passphrase) then
    ({ master with state := .waitRptc }, [(hbpfRptack ++ data.extract 4 8, addr)])
  else ({ master with state := .idle }, [(hbpfMstnak ++ data.extract 4 8, addr)])

/-- `_on_rptc` accepts any configuration. -/
def onRptc (data : Bytes) (addr : A) (master : FakeHbpMaster A) :
    FakeHbpMaster A × List (Bytes × A) :=
  if master.state ≠ .waitRptc then (master, [])
  else ({ master with state := .waitRpto }, [(hbpfRptack ++ data.extract 4 8, addr)])

/-- The peer ID that the answer to a datagram without one names. -/
def knownId (master : FakeHbpMaster A) : Bytes := truthyOr master.peerId [0, 0, 0, 0]

/-- `_on_rpto` accepts any options. -/
def onRpto (data : Bytes) (addr : A) (master : FakeHbpMaster A) :
    FakeHbpMaster A × List (Bytes × A) :=
  let peerId := if 8 ≤ data.length then data.extract 4 8 else master.knownId
  if master.state = .waitRpto then
    ({ master with state := .connected }, [(hbpfRptack ++ peerId, addr)])
  else (master, [])

/-- `_on_rptping` takes the first ping of a peer without options for the end of its login. -/
def onRptping (data : Bytes) (addr : A) (master : FakeHbpMaster A) :
    FakeHbpMaster A × List (Bytes × A) :=
  let master := if master.state = .waitRpto then { master with state := .connected } else master
  if master.state ≠ .connected then (master, [])
  else
    let peerId := if 11 ≤ data.length then data.extract 7 11 else master.knownId
    (master, [(hbpfMstpong ++ peerId, addr)])

/-- `datagram_received` tests RPTCL before RPTC. -/
def datagramReceived (digests : Digests) (passphrase data : Bytes) (addr : A) (urandom : StreamId)
    (master : FakeHbpMaster A) : FakeHbpMaster A × List (Bytes × A) :=
  if data.length < 4 then (master, [])
  else if 7 ≤ data.length && data.take 7 = hbpfRptping then master.onRptping data addr
  else if 5 ≤ data.length && data.take 5 = hbpfRptcl then
    ({ master with state := .idle, peerAddr := none, peerId := none }, [])
  else if data.take 4 = hbpfRptl then master.onRptl data addr urandom
  else if data.take 4 = hbpfRptk then master.onRptk digests passphrase data addr
  else if data.take 4 = hbpfRptc then master.onRptc data addr
  else if data.take 4 = hbpfRpto then master.onRpto data addr
  else (master, [])

/-- `_build_dmrd` makes a frame without voice. -/
def buildDmrd (master : FakeHbpMaster A) (seq : Nat) (flags : UInt8) (streamId : StreamId) : Bytes :=
  hbpfDmrd ++ [UInt8.ofNat seq] ++ natToBytes 3 3120001 ++ natToBytes 3 91 ++ master.knownId ++
    [flags] ++ streamId.val ++ List.replicate 33 0

/-- The number of voice frames in the call of `_send_call`. -/
def burstCount : Nat := 6

/-- The frames of `_send_call`. -/
def callFrames (master : FakeHbpMaster A) (ts : Timeslot) (streamId : StreamId) : List Bytes :=
  let tsFlag := if ts = .ts2 then hbpfTgidTs2 else 0x00
  let voice := fun i =>
    master.buildDmrd (i + 1)
      (if i % 6 = 0 then tsFlag ||| hbpfFrametypeVoicesync
        else tsFlag ||| hbpfFrametypeVoice ||| UInt8.ofNat (i % 6 - 1)) streamId
  [master.buildDmrd 0 (tsFlag ||| hbpfFrametypeDatasync ||| hbpfSltVhead) streamId] ++
    (List.range burstCount).map voice ++
    [master.buildDmrd (burstCount + 1) (tsFlag ||| hbpfFrametypeDatasync ||| hbpfSltVterm) streamId]

/-- A command needs a peer; `connected` says that it also needs the CONNECTED state. -/
def toPeer (connected : Bool) (frames : List Bytes) (master : FakeHbpMaster A) : List (Bytes × A) :=
  match master.peerAddr with
  | none => []
  | some addr =>
      if connected && master.state ≠ .connected then [] else frames.map fun frame => (frame, addr)

/-- `_send_nak` and `_send_mstcl` end the session on the side of the master. -/
def dismiss (word : Bytes) (master : FakeHbpMaster A) : FakeHbpMaster A × List (Bytes × A) :=
  match master.peerAddr with
  | none => (master, [])
  | some addr => ({ master with state := .idle }, [(word ++ master.knownId, addr)])

def step (digests : Digests) (passphrase : Bytes) (master : FakeHbpMaster A) :
    FakeEvent A → FakeHbpMaster A × List (Bytes × A)
  | .datagramReceived data addr urandom =>
      master.datagramReceived digests passphrase data addr urandom
  | .sendDmrd urandom =>
      (master, master.toPeer true
        [master.buildDmrd 1 (hbpfTgidTs2 ||| hbpfFrametypeVoicesync) urandom])
  | .sendCall ts urandom => (master, master.toPeer true (master.callFrames ts urandom))
  | .sendNak => master.dismiss hbpfMstnak
  | .sendMstcl => master.dismiss hbpfMstcl

end FakeHbpMaster

/-- The master as a machine; its effects are datagrams with the address they go to. -/
def fakeHbpMaster {A : Type*} (digests : Digests) (passphrase : Bytes) :
    Mealy (FakeHbpMaster A) (FakeEvent A) (Bytes × A) where
  step := FakeHbpMaster.step digests passphrase

/-- A datagram between the socket of one session and the HBP master. -/
inductive HbpDatagram where
  | toMaster (session : Nat) (data : Bytes)
  | toSession (session : Nat) (data : Bytes)
  deriving DecidableEq

/-- What a receiver reads besides the datagram. -/
structure HbpChance where
  now : Time
  draw : RtpDraw
  clock : Clock
  urandom : StreamId

namespace HbpLink

/-- The program and its HBP master. Each session has a socket of its own, which the master knows by
the number of the session. -/
def parties (digests : Digests) (dmr : DmrUtils) (cfg : Config) (passphrase : Bytes) :
    Mealy (Bridge × FakeHbpMaster Nat) (BridgeEvent ⊕ FakeEvent Nat) (BridgeOutput ⊕ Bytes × Nat) :=
  (bridge digests dmr cfg).beside (fakeHbpMaster digests passphrase)

def sent : BridgeOutput ⊕ Bytes × Nat → Option HbpDatagram
  | .inl (.core (.hbp session (.send data))) => some (.toMaster session data)
  | .inl (.core (.hbp session (.sendDmrd data))) => some (.toMaster session data)
  | .inl _ => none
  | .inr (data, session) => some (.toSession session data)

/-- The open socket of the client is that of the session. -/
def Listens (client : HbpClient) (session : Nat) : Prop :=
  client.session = session ∧ ∃ proto ∈ client.protocol, proto.transport = true

instance (client : HbpClient) (session : Nat) : Decidable (Listens client session) :=
  inferInstanceAs (Decidable (_ ∧ ∃ proto ∈ client.protocol, _))

/-- A datagram to a closed socket is dropped. -/
def receive (state : Bridge × FakeHbpMaster Nat) :
    HbpDatagram → HbpChance → Option (BridgeEvent ⊕ FakeEvent Nat)
  | .toMaster session data, chance => some (.inr (.datagramReceived data session chance.urandom))
  | .toSession session data, chance =>
      if Listens state.1.core.client session then
        some (.inl (.hbp (.datagramReceived data chance.now) chance.draw chance.clock))
      else none

/-- The two parties over a network that loses, delays and reorders datagrams but does not repeat
them. -/
def machine (digests : Digests) (dmr : DmrUtils) (cfg : Config) (passphrase : Bytes) :
    Mealy ((Bridge × FakeHbpMaster Nat) × List HbpDatagram)
      (Mealy.Transit (BridgeEvent ⊕ FakeEvent Nat) HbpChance) (BridgeOutput ⊕ Bytes × Nat) :=
  (parties digests dmr cfg passphrase).inFlight sent receive

def initial (cfg : Config) (salt : StreamId) : (Bridge × FakeHbpMaster Nat) × List HbpDatagram :=
  ((Bridge.initial cfg, { salt := salt }), [])

/-- Datagrams of HBP come from the network only. -/
def Local : BridgeEvent ⊕ FakeEvent Nat → Prop
  | .inl (.hbp (.datagramReceived ..) ..) => False
  | .inr (.datagramReceived ..) => False
  | _ => True

instance : DecidablePred Local := fun event => by
  unfold Local
  split <;> infer_instance

end HbpLink

end Ipsc2Hbp
