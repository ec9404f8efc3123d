import Ipsc2Hbp.Construction.State

namespace Ipsc2Hbp
open BigEndian

/-- The address of a sender as asyncio gives it: a pair for IPv4 and four items for IPv6. -/
inductive Addr where
  | inet (host : String) (port : UInt16)
  | inet6 (host : String) (port : UInt16) (flowinfo scopeId : Nat)
  deriving DecidableEq, Repr

/-- `host, port = addr` takes a pair only. -/
def Addr.unpack : Addr → Except PyErr (String × UInt16)
  | .inet host port => .ok (host, port)
  | .inet6 .. => .error .valueError

/-- The effects of an IPSC stack: packets and calls of the translator. -/
inductive IpscOutput where
  | send (packet : Bytes) (host : String) (port : UInt16)
  | peerRegistered (peerId : Bytes) (host : String) (port : UInt16)
  | peerLost
  | checkCallTimeouts
  | ipscVoiceReceived (data : Bytes) (ts : Timeslot) (burstType : UInt8)
  | raised (err : PyErr)
  deriving DecidableEq, Repr

/-- The callbacks and task steps of an IPSC stack, with the clock readings. -/
inductive IpscEvent where
  | connectionMade
  | datagramReceived (data : Bytes) (addr : Addr) (now : Time)
  | watchdog (now : Time)
  | maintenance (clock : Clock)

/-- The mode byte that both stacks send. -/
def ourMode : Bytes := [0x6a]

def idB (value : Nat) : Bytes := natToBytes 4 value

/-- `_ts_flags` is the mode byte and four flag bytes. -/
def tsFlags (cfg : Config) (masterPeer : Bool) : Bytes :=
  ourMode ++ [0x00, 0x00, 0x00,
    voiceCallMsk ||| (if masterPeer then mstrPeerMsk else 0x00) |||
      (if cfg.authEnabled then pktAuthMsk else 0x00)]

/-- `_safe_peer_id` reads the sender's ID, if the packet has one. -/
def safePeerId (data : Bytes) : Nat :=
  if data.length < 5 then 0 else bytesToNat (data.extract 1 5)

/-- The authentication digest of a payload is cut to ten bytes. -/
def authDigest (digests : Digests) (cfg : Config) (payload : Bytes) : Bytes :=
  (digests.hmacSha1 cfg.authKey payload).take authDigestLen

/-- `_check_auth` compares the digest at the end of a packet. -/
def checkAuth (digests : Digests) (cfg : Config) (data : Bytes) : Bool :=
  if data.length ≤ authDigestLen then false
  else
    let payload := data.take (data.length - authDigestLen)
    let supplied := data.drop (data.length - authDigestLen)
    supplied = authDigest digests cfg payload

def authSuffix (digests : Digests) (cfg : Config) (payload : Bytes) : Bytes :=
  if cfg.authEnabled then authDigest digests cfg payload else []

/-- Both `datagram_received` check and cut off the digest and drop an empty packet. -/
def checkedPayload (digests : Digests) (cfg : Config) (data : Bytes) : Option Bytes :=
  let payload := if cfg.authEnabled then
      if checkAuth digests cfg data then data.take (data.length - authDigestLen) else []
    else data
  if payload.isEmpty then none else some payload

/-- `_send` needs the transport. -/
def ipscSend (digests : Digests) (cfg : Config) (transport : Bool) (payload : Bytes) (host : String)
    (port : UInt16) : List IpscOutput :=
  if transport then [.send (payload ++ authSuffix digests cfg payload) host port] else []

/-- The value of a digit in the base, if it is one. -/
def digitValue (base : Nat) (char : Char) : Option Nat :=
  let value := if '0' ≤ char ∧ char ≤ '9' then some (char.toNat - '0'.toNat)
    else if 'a' ≤ char ∧ char ≤ 'f' then some (char.toNat - 'a'.toNat + 10)
    else if 'A' ≤ char ∧ char ≤ 'F' then some (char.toNat - 'A'.toNat + 10)
    else none
  value.filter fun digit => digit < base

/-- The longest run of digits is read onto a value. -/
def readDigits (base : Nat) : Nat → List Char → Nat × List Char
  | value, [] => (value, [])
  | value, char :: rest =>
      match digitValue base char with
      | none => (value, char :: rest)
      | some digit => readDigits base (base * value + digit) rest

/-- A number of C: hexadecimal after 0x, octal after 0, else decimal. -/
def readNumber (chars : List Char) : Option (Nat × List Char) :=
  match chars with
  | '0' :: mark :: digit :: rest =>
      if (mark = 'x' ∨ mark = 'X') ∧ (digitValue 16 digit).isSome then
        some (readDigits 16 0 (digit :: rest))
      else some (readDigits 8 0 chars)
  | '0' :: _ => some (readDigits 8 0 chars)
  | char :: _ => if (digitValue 10 char).isSome then some (readDigits 10 0 chars) else none
  | [] => none

/-- An address ends where the text ends or at a white space. -/
def endsAddress : List Char → Bool
  | [] => true
  | char :: _ => char.isWhitespace || char = '\x0b' || char = '\x0c'

/-- The parts of a dotted address after those in front; the last part fills the bytes that are left. -/
def inetAtonParts : Nat → Bytes → List Char → Option Bytes
  | dots, front, chars =>
      match readNumber chars with
      | none => none
      | some (value, '.' :: rest) =>
          match dots with
          | 0 => none
          | dots + 1 =>
              if 0xff < value then none else inetAtonParts dots (front ++ [UInt8.ofNat value]) rest
      | some (value, rest) =>
          if endsAddress rest && value < 256 ^ (4 - front.length) then
            some (front ++ natToBytes (4 - front.length) value)
          else none

/-- `socket.inet_aton` -/
def inetAton (address : String) : Option Bytes := inetAtonParts 3 [] address.toList

/-- `str(ipaddress.IPv4Address(..))` -/
def ipv4Str (address : Bytes) : String :=
  ".".intercalate (address.map fun byte => toString byte.toNat)

end Ipsc2Hbp
