import Ipsc2Hbp.Library.Mealy
import Ipsc2Hbp.Proof.ClientLife
import Ipsc2Hbp.Proof.Fallible

namespace Ipsc2Hbp
open BigEndian

/-- What can happen to a protocol after its `connection_made`. -/
inductive ProtocolEvent where
  | datagramReceived (data : Bytes) (now : Time)
  | keepalive (now : Time)
  | errorReceived
  | sendDmrd (data : Bytes)
  | disconnect (sendRptcl : Bool)

/-- One protocol under any order of these events; the flag says that the `sendto` of the event, if it
comes to one, fails. -/
def hbpProtocol (digests : Digests) (cfg : Config) :
    Mealy HbpProtocol (ProtocolEvent × Bool) HbpOutput where
  step proto
    | (.datagramReceived data now, failed) =>
        Fallible.datagramReceived digests cfg failed data now proto
    | (.keepalive now, failed) => Fallible.keepalive cfg failed now proto
    | (.errorReceived, _) => proto.errorReceived cfg
    | (.sendDmrd data, failed) => Fallible.sendDmrd cfg failed data proto
    | (.disconnect sendRptcl, failed) => Fallible.disconnect cfg failed sendRptcl proto

/-- A received RPTACK of any length. -/
def ProtocolEvent.isRptack : ProtocolEvent → Bool
  | .datagramReceived data _ => data.take 6 = hbpfRptack
  | _ => false

def HbpOutput.isSent : HbpOutput → Bool
  | .send _ | .sendDmrd _ => true
  | _ => false

/-- The datagrams of the configured login steps, for a salt of the master. -/
def loginSteps (digests : Digests) (cfg : Config) (salt : Bytes) : List HbpOutput :=
  [.send (hbpfRptl ++ radioId cfg),
    .send (hbpfRptk ++ radioId cfg ++ digests.sha256 (salt ++ cfg.hbpPassphrase)),
    .send (buildRptc cfg)] ++
    if cfg.options ≠ "" then [.send (hbpfRpto ++ radioId cfg ++ enc cfg.options 300)] else []

/-- A datagram of a session: RPTPING or DMRD. -/
def IsSession (cfg : Config) (output : HbpOutput) : Prop :=
  output = .send (hbpfRptping ++ radioId cfg) ∨ ∃ data, output = .sendDmrd data

/-- The datagrams sent are the first login steps or, after all of them and as many RPTACKs, those of
a session and at most one RPTCL. -/
inductive Conforms (digests : Digests) (cfg : Config) (acks : Nat) : List HbpOutput → Prop
  | login (salt : Bytes) {steps : List HbpOutput} (some : steps ≠ [])
      (first : steps <+: loginSteps digests cfg salt) : Conforms digests cfg acks steps
  | session (salt : Bytes) {session bye : List HbpOutput}
      (acked : (loginSteps digests cfg salt).length ≤ acks)
      (kinds : ∀ output ∈ session, IsSession cfg output)
      (last : bye = [] ∨ bye = [.send (hbpfRptcl ++ radioId cfg)]) :
      Conforms digests cfg acks (loginSteps digests cfg salt ++ session ++ bye)

/-- The number of login steps that have been sent while a login is under way. -/
def HbpState.stepsSent : HbpState → Option Nat
  | .login => some 1
  | .authSent => some 2
  | .configSent => some 3
  | .optionsSent => some 4
  | .connected | .disconnected => none

/-- What a protocol has sent in each of its states. -/
inductive Progress (digests : Digests) (cfg : Config) (acks : Nat) (proto : HbpProtocol)
    (sent : List HbpOutput) : Prop
  | login (count : Nat) (phase : proto.state.stepsSent = some count)
      (attached : proto.transport = true) (acked : count ≤ acks + 1)
      (room : count ≤ (loginSteps digests cfg []).length) (salt : Bytes)
      (steps : sent = (loginSteps digests cfg salt).take count)
  | session (up : proto.state = .connected) (salt : Bytes) (session : List HbpOutput)
      (acked : (loginSteps digests cfg salt).length ≤ acks)
      (kinds : ∀ output ∈ session, IsSession cfg output)
      (whole : sent = loginSteps digests cfg salt ++ session)
  | finished (down : proto.state = .disconnected) (conforms : Conforms digests cfg acks sent)

theorem loginSteps_length (digests : Digests) (cfg : Config) (salt other : Bytes) :
    (loginSteps digests cfg salt).length = (loginSteps digests cfg other).length := by
  simp [loginSteps]

theorem Conforms.mono {digests : Digests} {cfg : Config} {acks more : Nat} {sent : List HbpOutput}
    (conforms : Conforms digests cfg acks sent) (grown : acks ≤ more) :
    Conforms digests cfg more sent := by
  cases conforms with
  | login salt some first => exact .login salt some first
  | session salt acked kinds last => exact .session salt (acked.trans grown) kinds last

/-- In every state the datagrams sent conform. -/
theorem Progress.conforms {digests : Digests} {cfg : Config} {acks : Nat} {proto : HbpProtocol}
    {sent : List HbpOutput} (progress : Progress digests cfg acks proto sent) :
    Conforms digests cfg acks sent := by
  cases progress with
  | login count phase attached acked room salt steps =>
      refine .login salt ?_ (steps ▸ List.take_prefix count _)
      have positive : 0 < count := by
        cases state : proto.state <;> simp [state, HbpState.stepsSent] at phase <;> omega
      have length := congrArg List.length steps
      rw [List.length_take, loginSteps_length digests cfg salt []] at length
      intro empty
      rw [empty, List.length_nil] at length
      omega
  | session up salt session acked kinds whole =>
      have conforms : Conforms digests cfg acks (loginSteps digests cfg salt ++ session ++ []) :=
        .session salt acked kinds (.inl rfl)
      rwa [List.append_nil, ← whole] at conforms
  | finished down conforms => exact conforms

theorem Progress.mono {digests : Digests} {cfg : Config} {acks more : Nat} {proto : HbpProtocol}
    {sent : List HbpOutput} (progress : Progress digests cfg acks proto sent) (grown : acks ≤ more) :
    Progress digests cfg more proto sent := by
  cases progress with
  | login count phase attached acked room salt steps =>
      exact .login count phase attached (acked.trans (Nat.add_le_add_right grown 1)) room salt steps
  | session up salt session acked kinds whole =>
      exact .session up salt session (acked.trans grown) kinds whole
  | finished down conforms => exact .finished down (conforms.mono grown)

section Steps
variable {digests : Digests} {cfg : Config} {acks : Nat} {proto : HbpProtocol} {sent : List HbpOutput}

/-- A protocol that is closed has said RPTCL at most, and that from CONNECTED. -/
theorem Progress.disconnect (progress : Progress digests cfg acks proto sent) (sendRptcl : Bool) :
    Progress digests cfg acks (proto.disconnect cfg sendRptcl).1
      (sent ++ (proto.disconnect cfg sendRptcl).2.filter HbpOutput.isSent) := by
  refine .finished rfl ?_
  have quiet (other : proto.state ≠ .connected) :
      Conforms digests cfg acks (sent ++ (proto.disconnect cfg sendRptcl).2.filter HbpOutput.isSent) := by
    simp only [HbpProtocol.disconnect, other, decide_false, Bool.and_false, Bool.false_eq_true,
      if_false, List.filter_nil, List.append_nil]
    exact progress.conforms
  cases progress with
  | login count phase attached acked room salt steps =>
      refine quiet fun up => ?_
      simp [up, HbpState.stepsSent] at phase
  | session up salt session acked kinds whole =>
      subst whole
      refine .session salt acked kinds ?_
      simp only [HbpProtocol.disconnect, up, HbpProtocol.sendRaw]
      cases sendRptcl <;> cases proto.transport <;> simp [HbpOutput.isSent]
  | finished down conforms =>
      refine quiet fun up => ?_
      rw [down] at up
      cases up

/-- A session goes on with datagrams of its kinds. -/
theorem Progress.extend {salt : Bytes} {session more : List HbpOutput}
    (up : proto.state = .connected) (acked : (loginSteps digests cfg salt).length ≤ acks)
    (kinds : ∀ output ∈ session, IsSession cfg output) (others : ∀ output ∈ more, IsSession cfg output)
    (whole : sent = loginSteps digests cfg salt ++ session) :
    Progress digests cfg acks proto (sent ++ more) := by
  refine .session up salt (session ++ more) acked (fun output member => ?_)
    (by rw [whole, List.append_assoc])
  exact (List.mem_append.mp member).elim (kinds output) (others output)

theorem Progress.errorReceived (progress : Progress digests cfg acks proto sent) :
    Progress digests cfg acks (proto.errorReceived cfg).1
      (sent ++ (proto.errorReceived cfg).2.filter HbpOutput.isSent) := by
  unfold HbpProtocol.errorReceived
  split
  · simpa using progress
  · have closed := progress.disconnect false
    split <;> simpa [HbpOutput.isSent] using closed

/-- A datagram of a session may be sent while CONNECTED, and its `sendto` may fail. -/
theorem Progress.sendto (progress : Progress digests cfg acks proto sent)
    (up : proto.state = .connected) {output : HbpOutput} (kind : IsSession cfg output) (failed : Bool) :
    Progress digests cfg acks (Fallible.sendto cfg failed output proto).1
      (sent ++ (Fallible.sendto cfg failed output proto).2.filter HbpOutput.isSent) := by
  have isSent : output.isSent = true := by
    rcases kind with rfl | ⟨data, rfl⟩ <;> rfl
  have extended : Progress digests cfg acks proto (sent ++ [output]) := by
    cases progress with
    | login count phase => simp [up, HbpState.stepsSent] at phase
    | session _ salt session acked kinds whole =>
        refine .extend up acked kinds (fun other member => ?_) whole
        rwa [List.mem_singleton.mp member]
    | finished down =>
        rw [down] at up
        cases up
  unfold Fallible.sendto
  split
  case isFalse => simpa [isSent] using extended
  case isTrue =>
    have received := extended.errorReceived
    rw [List.append_assoc] at received
    simpa [isSent] using received

theorem Progress.sendDmrd (progress : Progress digests cfg acks proto sent) (failed : Bool)
    (data : Bytes) :
    Progress digests cfg acks (Fallible.sendDmrd cfg failed data proto).1
      (sent ++ (Fallible.sendDmrd cfg failed data proto).2.filter HbpOutput.isSent) := by
  unfold Fallible.sendDmrd
  split
  case isFalse => simpa using progress
  case isTrue open' =>
    have up : proto.state = .connected := by
      simp only [Bool.and_eq_true, decide_eq_true_eq] at open'
      exact open'.1
    exact progress.sendto up (.inr ⟨data, rfl⟩) failed

theorem Progress.keepalive (progress : Progress digests cfg acks proto sent) (failed : Bool)
    (now : Time) :
    Progress digests cfg acks (Fallible.keepalive cfg failed now proto).1
      (sent ++ (Fallible.keepalive cfg failed now proto).2.filter HbpOutput.isSent) := by
  unfold Fallible.keepalive
  split
  case isTrue => simpa using progress
  case isFalse up =>
    have up : proto.state = .connected := not_not.mp up
    have pinged : Progress digests cfg acks
        (Fallible.sendRaw cfg failed (hbpfRptping ++ radioId cfg) proto).1
        (sent ++ (Fallible.sendRaw cfg failed (hbpfRptping ++ radioId cfg) proto).2.filter
          HbpOutput.isSent) := by
      unfold Fallible.sendRaw
      split
      · exact progress.sendto up (.inl rfl) failed
      · simpa using progress
    dsimp only
    generalize Fallible.sendRaw cfg failed (hbpfRptping ++ radioId cfg) proto = ping at pinged ⊢
    split
    · have closed := pinged.disconnect false
      have silent : (ping.1.disconnect cfg false).2 = [] := rfl
      rw [silent, List.filter_nil, List.append_nil] at closed
      simpa [HbpOutput.isSent, silent] using closed
    · exact pinged

/-- An RPTCL that fails is the last datagram all the same. -/
theorem Progress.logout (progress : Progress digests cfg acks proto sent) (failed sendRptcl : Bool) :
    Progress digests cfg acks (Fallible.disconnect cfg failed sendRptcl proto).1
      (sent ++ (Fallible.disconnect cfg failed sendRptcl proto).2.filter HbpOutput.isSent) := by
  cases failed with
  | false =>
      rw [Fallible.disconnect_sent]
      exact progress.disconnect sendRptcl
  | true =>
      have same : (Fallible.disconnect cfg true sendRptcl proto).2.filter HbpOutput.isSent =
          (proto.disconnect cfg sendRptcl).2.filter HbpOutput.isSent := by
        unfold Fallible.disconnect HbpProtocol.disconnect Fallible.sendRaw HbpProtocol.sendRaw
        split
        case isFalse => rfl
        case isTrue =>
          split
          case isFalse => rfl
          case isTrue =>
            simp only [Fallible.sendto, HbpProtocol.errorReceived, HbpProtocol.disconnect, if_true]
            split
            · rfl
            · split <;> rfl
      have closed := progress.disconnect sendRptcl
      rw [← same] at closed
      exact .finished rfl closed.conforms

/-- After its last step the login is a session without datagrams. -/
theorem Progress.becomeConnected (salt : Bytes) (now : Time)
    (acked : (loginSteps digests cfg salt).length ≤ acks)
    (steps : sent = loginSteps digests cfg salt) :
    Progress digests cfg acks (proto.becomeConnected now).1
      (sent ++ (proto.becomeConnected now).2.filter HbpOutput.isSent) := by
  refine .session rfl salt [] acked (by simp) ?_
  simpa [HbpProtocol.becomeConnected, HbpOutput.isSent] using steps

/-- An RPTACK leads to the next step of the login. -/
theorem Progress.onRptack (progress : Progress digests cfg acks proto sent) (data : Bytes)
    (now : Time) :
    Progress digests cfg (acks + 1) (proto.onRptack digests cfg data now).1
      (sent ++ (proto.onRptack digests cfg data now).2.filter HbpOutput.isSent) := by
  have still : Progress digests cfg (acks + 1) proto
      (sent ++ ([] : List HbpOutput).filter HbpOutput.isSent) := by
    simpa using progress.mono (Nat.le_succ acks)
  cases progress with
  | session up => simpa only [HbpProtocol.onRptack, up] using still
  | finished down => simpa only [HbpProtocol.onRptack, down] using still
  | login count phase attached acked room salt steps =>
      have raw (bytes : Bytes) : (proto.sendRaw bytes).filter HbpOutput.isSent = [.send bytes] := by
        rw [HbpProtocol.sendRaw, if_pos attached]
        rfl
      unfold HbpProtocol.onRptack
      cases state : proto.state with
      | login =>
          obtain rfl : 1 = count := by simpa [state, HbpState.stepsSent] using phase
          dsimp only
          split
          · exact still
          · rw [raw]
            exact .login 2 rfl attached (by omega) (by simp [loginSteps])
              (data.extract rptackNonceOff (rptackNonceOff + 4)) (by simp [steps, loginSteps])
      | authSent =>
          obtain rfl : 2 = count := by simpa [state, HbpState.stepsSent] using phase
          dsimp only
          rw [raw]
          exact .login 3 rfl attached (by omega) (by simp [loginSteps]) salt (by simp [steps, loginSteps])
      | configSent =>
          obtain rfl : 3 = count := by simpa [state, HbpState.stepsSent] using phase
          dsimp only
          split
          case isTrue options =>
            rw [raw]
            exact .login 4 rfl attached (by omega) (by simp [loginSteps, options]) salt
              (by simp [steps, loginSteps, options])
          case isFalse none =>
            have none : cfg.options = "" := not_not.mp none
            refine .becomeConnected salt now ?_ (by simp [steps, loginSteps, none])
            have length : (loginSteps digests cfg salt).length = 3 := by simp [loginSteps, none]
            omega
      | optionsSent =>
          obtain rfl : 4 = count := by simpa [state, HbpState.stepsSent] using phase
          have options : cfg.options ≠ "" := fun none => by simp [loginSteps, none] at room
          refine .becomeConnected salt now ?_ (by simp [steps, loginSteps, options])
          have length : (loginSteps digests cfg salt).length = 4 := by simp [loginSteps, options]
          omega
      | connected | disconnected => exact still

/-- A datagram takes the protocol along the login or ends it. -/
theorem Progress.datagramReceived (progress : Progress digests cfg acks proto sent) (data : Bytes)
    (now : Time) :
    Progress digests cfg (acks + if data.take 6 = hbpfRptack then 1 else 0)
      (proto.datagramReceived digests cfg data now).1
      (sent ++ (proto.datagramReceived digests cfg data now).2.filter HbpOutput.isSent) := by
  unfold HbpProtocol.datagramReceived
  by_cases ack : (6 ≤ data.length && data.take 6 = hbpfRptack) = true
  · have matched : data.take 6 = hbpfRptack := by simpa using (Bool.and_eq_true_iff.mp ack).2
    have long : ¬ data.length < 4 := by
      have long := of_decide_eq_true (Bool.and_eq_true_iff.mp ack).1
      omega
    rw [if_neg long]
    simp only [if_pos ack, if_pos matched]
    exact progress.onRptack data now
  · have grown : acks ≤ acks + if data.take 6 = hbpfRptack then 1 else 0 := Nat.le_add_right ..
    generalize acks + (if data.take 6 = hbpfRptack then 1 else 0) = more at grown
    have still := progress.mono grown
    have closed := still.disconnect false
    rw [if_neg ack]
    split_ifs
    · simpa using still
    · exact closed
    · rw [List.filter_nil, List.append_nil]
      cases still with
      | login count phase attached acked room salt steps =>
          exact .login count phase attached acked room salt steps
      | session up salt session acked kinds whole => exact .session up salt session acked kinds whole
      | finished down conforms => exact .finished down conforms
    · exact closed
    · simpa [HbpOutput.isSent] using still
    · simpa using still
    · simpa using still

end Steps

/-- A socket error meets the answer to an RPTACK. -/
def LoginFails (cfg : Config) (proto : HbpProtocol) : ProtocolEvent × Bool → Prop
  | (.datagramReceived data _, failed) =>
      failed = true ∧ data.take 6 = hbpfRptack ∧ Fallible.Answers cfg data proto
  | _ => False

/-- A datagram whose answer does not fail is handled as over a sound socket. -/
theorem datagramReceived_smooth (digests : Digests) {cfg : Config} {proto : HbpProtocol} {data : Bytes}
    {now : Time} {failed : Bool} (smooth : ¬ LoginFails cfg proto (.datagramReceived data now, failed)) :
    Fallible.datagramReceived digests cfg failed data now proto =
      proto.datagramReceived digests cfg data now := by
  rw [← Fallible.datagramReceived_sent]
  unfold Fallible.datagramReceived
  split
  case isFalse => rfl
  case isTrue ack =>
    have matched : data.take 6 = hbpfRptack := by simpa using (Bool.and_eq_true_iff.mp ack).2
    rw [Fallible.onRptack_sent]
    exact Fallible.onRptack_unanswered digests cfg failed data now
      fun fails answers => smooth ⟨fails, matched, answers⟩

/-- Every event whose answer does not fail keeps the progress; it counts as an RPTACK if it is one. -/
theorem Progress.step {digests : Digests} {cfg : Config} {acks : Nat} {proto : HbpProtocol}
    {sent : List HbpOutput} (progress : Progress digests cfg acks proto sent)
    {input : ProtocolEvent × Bool} (smooth : ¬ LoginFails cfg proto input) :
    Progress digests cfg (acks + if input.1.isRptack then 1 else 0)
      ((hbpProtocol digests cfg).step proto input).1
      (sent ++ ((hbpProtocol digests cfg).step proto input).2.filter HbpOutput.isSent) := by
  obtain ⟨event, failed⟩ := input
  cases event with
  | datagramReceived data now =>
      have step := progress.datagramReceived data now
      rw [← datagramReceived_smooth digests smooth] at step
      simp only [ProtocolEvent.isRptack, decide_eq_true_eq]
      exact step
  | keepalive now => exact progress.keepalive failed now
  | errorReceived => exact progress.errorReceived
  | sendDmrd data => exact progress.sendDmrd failed data
  | disconnect sendRptcl => exact progress.logout failed sendRptcl

/-- A run without a failed answer keeps the progress. -/
theorem Progress.run {digests : Digests} {cfg : Config} (events : List (ProtocolEvent × Bool))
    {acks : Nat} {proto : HbpProtocol} {sent : List HbpOutput}
    (progress : Progress digests cfg acks proto sent) {log : List HbpOutput}
    (smooth : (hbpProtocol digests cfg).Meets (fun _ proto input => ¬ LoginFails cfg proto input) log
      proto events) :
    Progress digests cfg (acks + events.countP fun input => input.1.isRptack)
      ((hbpProtocol digests cfg).run proto events).1
      (sent ++ ((hbpProtocol digests cfg).run proto events).2.filter HbpOutput.isSent) := by
  induction events generalizing acks proto sent log with
  | nil => simpa using progress
  | cons input rest ih =>
      rw [Mealy.meets_cons] at smooth
      have tail := ih (progress.step smooth.1) smooth.2
      rw [List.countP_cons, Mealy.run_cons, List.filter_append, ← List.append_assoc]
      rw [Nat.add_comm (List.countP _ rest), ← Nat.add_assoc]
      exact tail

/-- The order in which a protocol passes through its states. -/
def HbpState.rank : HbpState → Nat
  | .login => 0
  | .authSent => 1
  | .configSent => 2
  | .optionsSent => 3
  | .connected => 4
  | .disconnected => 5

/-- A step from one state to another that enters CONNECTED. -/
def Enters (before after : HbpProtocol) : Prop :=
  before.state ≠ .connected ∧ after.state = .connected

instance (before after : HbpProtocol) : Decidable (Enters before after) :=
  inferInstanceAs (Decidable (_ ∧ _))

/-- How often a run enters CONNECTED. -/
def entries (digests : Digests) (cfg : Config) : HbpProtocol → List (ProtocolEvent × Bool) → Nat
  | _, [] => 0
  | proto, input :: rest =>
      let after := ((hbpProtocol digests cfg).step proto input).1
      (if Enters proto after then 1 else 0) + entries digests cfg after rest

/-- What one event does to the state: it goes forward, and `hbp_connected` is called exactly where
CONNECTED is entered. -/
structure Forward (before : HbpProtocol) (result : HbpProtocol × List HbpOutput) : Prop where
  rank : before.state.rank ≤ result.1.state.rank
  told : result.2.count .hbpConnected = if Enters before result.1 then 1 else 0

namespace Forward

/-- An event that calls nothing and does not enter CONNECTED. -/
theorem quiet {before : HbpProtocol} {result : HbpProtocol × List HbpOutput}
    (rank : before.state.rank ≤ result.1.state.rank)
    (outside : result.1.state = .connected → before.state = .connected)
    (silent : .hbpConnected ∉ result.2) : Forward before result := by
  have stays : ¬ Enters before result.1 := fun enters => enters.1 (outside enters.2)
  exact ⟨rank, by rw [List.count_eq_zero.mpr silent, if_neg stays]⟩

theorem still (proto : HbpProtocol) : Forward proto (proto, []) := quiet le_rfl id (by simp)

/-- A protocol that ends DISCONNECTED has gone forward. -/
theorem closed {before : HbpProtocol} {result : HbpProtocol × List HbpOutput}
    (down : result.1.state = .disconnected) (silent : .hbpConnected ∉ result.2) :
    Forward before result := by
  refine quiet ?_ (fun up => ?_) silent
  · rw [down]
    cases before.state <;> decide
  · rw [down] at up
    cases up

theorem disconnect (cfg : Config) (sendRptcl : Bool) (proto : HbpProtocol) :
    Forward proto (proto.disconnect cfg sendRptcl) := by
  refine closed rfl fun told => ?_
  obtain ⟨data, same⟩ := disconnect_plain cfg sendRptcl proto _ told
  cases same

theorem errorReceived (cfg : Config) (proto : HbpProtocol) : Forward proto (proto.errorReceived cfg) := by
  unfold HbpProtocol.errorReceived
  split
  · exact still proto
  · refine closed rfl fun told => ?_
    rcases List.mem_append.mp told with notice | later
    · split at notice <;> simp at notice
    · obtain ⟨data, same⟩ := disconnect_plain cfg false proto _ later
      cases same

/-- A `sendto` leaves the protocol where it is or, at an error, closes it. -/
theorem sendto (cfg : Config) (failed : Bool) {output : HbpOutput} (other : output ≠ .hbpConnected)
    (proto : HbpProtocol) : Forward proto (Fallible.sendto cfg failed output proto) := by
  have silent : .hbpConnected ∉ (Fallible.sendto cfg failed output proto).2 := fun told => by
    rcases Fallible.sendto_outputs cfg proto failed told with same | same
    · exact other same.symm
    · cases same
  unfold Fallible.sendto at silent ⊢
  split
  case isFalse unfailed =>
    rw [if_neg unfailed] at silent
    exact quiet le_rfl id silent
  case isTrue fails =>
    rw [if_pos fails] at silent
    have received := errorReceived cfg proto
    refine quiet received.rank (fun up => ?_) silent
    by_contra outside
    have entered : Enters proto (proto.errorReceived cfg).1 := ⟨outside, up⟩
    have told := received.told
    rw [if_pos entered, List.count_eq_zero.mpr fun told => silent (List.mem_cons_of_mem _ told)] at told
    cases told

theorem sendRaw (cfg : Config) (failed : Bool) (data : Bytes) (proto : HbpProtocol) :
    Forward proto (Fallible.sendRaw cfg failed data proto) := by
  unfold Fallible.sendRaw
  split
  · exact sendto cfg failed HbpOutput.noConfusion proto
  · exact still proto

theorem sendDmrd (cfg : Config) (failed : Bool) (data : Bytes) (proto : HbpProtocol) :
    Forward proto (Fallible.sendDmrd cfg failed data proto) := by
  unfold Fallible.sendDmrd
  split
  · exact sendto cfg failed HbpOutput.noConfusion proto
  · exact still proto

theorem logout (cfg : Config) (failed sendRptcl : Bool) (proto : HbpProtocol) :
    Forward proto (Fallible.disconnect cfg failed sendRptcl proto) := by
  refine closed rfl fun told => ?_
  unfold Fallible.disconnect at told
  dsimp only at told
  split at told
  · rcases Fallible.sendRaw_outputs cfg proto failed told with same | same <;> cases same
  · cases told

theorem keepalive (cfg : Config) (failed : Bool) (now : Time) (proto : HbpProtocol) :
    Forward proto (Fallible.keepalive cfg failed now proto) := by
  unfold Fallible.keepalive
  split
  · exact still proto
  · dsimp only
    split
    · have silent : ∀ ping : HbpProtocol, (ping.disconnect cfg false).2 = [] := fun _ => rfl
      refine closed rfl fun told => ?_
      rw [silent, List.append_nil] at told
      rcases List.mem_append.mp told with pinged | notice
      · rcases Fallible.sendRaw_outputs cfg proto failed pinged with same | same <;> cases same
      · simp at notice
    · exact sendRaw cfg failed _ proto

theorem onRptack (digests : Digests) (cfg : Config) (failed : Bool) (data : Bytes) (now : Time)
    (proto : HbpProtocol) : Forward proto (Fallible.onRptack digests cfg failed data now proto) := by
  have raw (bytes : Bytes) : .hbpConnected ∉ (Fallible.sendRaw cfg failed bytes proto).2 := fun told => by
    rcases Fallible.sendRaw_outputs cfg proto failed told with same | same <;> cases same
  have enters (login : proto.state.rank ≤ 4) (outside : proto.state ≠ .connected) :
      Forward proto (proto.becomeConnected now) := by
    have entered : Enters proto (proto.becomeConnected now).1 := ⟨outside, rfl⟩
    exact ⟨login, by rw [if_pos entered]; rfl⟩
  unfold Fallible.onRptack
  cases state : proto.state with
  | login =>
      dsimp only
      split
      · exact still proto
      · exact quiet (by rw [state]; exact Nat.le_succ 0) HbpState.noConfusion (raw _)
  | authSent => exact quiet (by rw [state]; exact Nat.le_succ 1) HbpState.noConfusion (raw _)
  | configSent =>
      dsimp only
      split
      · exact quiet (by rw [state]; exact Nat.le_succ 2) HbpState.noConfusion (raw _)
      · exact enters (by rw [state]; decide) (by rw [state]; decide)
  | optionsSent => exact enters (by rw [state]; decide) (by rw [state]; decide)
  | connected | disconnected => exact still proto

theorem datagramReceived (digests : Digests) (cfg : Config) (failed : Bool) (data : Bytes) (now : Time)
    (proto : HbpProtocol) :
    Forward proto (Fallible.datagramReceived digests cfg failed data now proto) := by
  unfold Fallible.datagramReceived
  split
  case isTrue => exact onRptack digests cfg failed data now proto
  case isFalse other =>
    unfold HbpProtocol.datagramReceived
    rw [if_neg other]
    split_ifs
    · exact still proto
    · exact disconnect cfg false proto
    · exact quiet le_rfl id (by simp)
    · exact disconnect cfg false proto
    · exact quiet le_rfl id (by simp)
    · exact still proto
    · exact still proto

theorem step (digests : Digests) (cfg : Config) (proto : HbpProtocol) (input : ProtocolEvent × Bool) :
    Forward proto ((hbpProtocol digests cfg).step proto input) := by
  obtain ⟨event, failed⟩ := input
  cases event with
  | datagramReceived data now => exact datagramReceived digests cfg failed data now proto
  | keepalive now => exact keepalive cfg failed now proto
  | errorReceived => exact errorReceived cfg proto
  | disconnect sendRptcl => exact logout cfg failed sendRptcl proto
  | sendDmrd data => exact sendDmrd cfg failed data proto

end Forward

/-- The states of a run go forward. -/
theorem run_rank (digests : Digests) (cfg : Config) (proto : HbpProtocol) (events : List (ProtocolEvent × Bool)) :
    proto.state.rank ≤ ((hbpProtocol digests cfg).run proto events).1.state.rank := by
  induction events generalizing proto with
  | nil => exact le_rfl
  | cons event rest ih => exact (Forward.step digests cfg proto event).rank.trans (ih _)

/-- `hbp_connected` is called once for each entry. -/
theorem run_told (digests : Digests) (cfg : Config) (proto : HbpProtocol) (events : List (ProtocolEvent × Bool)) :
    ((hbpProtocol digests cfg).run proto events).2.count .hbpConnected =
      entries digests cfg proto events := by
  induction events generalizing proto with
  | nil => rfl
  | cons event rest ih =>
      rw [Mealy.run_cons, List.count_append, ih, (Forward.step digests cfg proto event).told]
      rfl

/-- CONNECTED is not entered again once it has been reached. -/
theorem entries_late (digests : Digests) (cfg : Config) {proto : HbpProtocol}
    (late : 4 ≤ proto.state.rank) (events : List (ProtocolEvent × Bool)) :
    entries digests cfg proto events = 0 := by
  induction events generalizing proto with
  | nil => rfl
  | cons event rest ih =>
      have forward := (Forward.step digests cfg proto event).rank
      have outside : ¬ Enters proto ((hbpProtocol digests cfg).step proto event).1 := by
        rintro ⟨other, up⟩
        rw [up] at forward
        have high : proto.state.rank ≤ 4 := forward
        cases state : proto.state <;> simp [state, HbpState.rank] at late high other
      rw [entries, if_neg outside, ih (late.trans forward)]

theorem entries_le_one (digests : Digests) (cfg : Config) (proto : HbpProtocol)
    (events : List (ProtocolEvent × Bool)) : entries digests cfg proto events ≤ 1 := by
  induction events generalizing proto with
  | nil => exact Nat.zero_le 1
  | cons event rest ih =>
      rw [entries]
      split
      case isTrue enters =>
        have late : 4 ≤ ((hbpProtocol digests cfg).step proto event).1.state.rank := by
          rw [enters.2]
          decide
        rw [entries_late digests cfg late]
      case isFalse => simpa using ih _

/-- Voice is handed on and RPTCL is said only from CONNECTED. -/
def FromConnected (cfg : Config) (proto : HbpProtocol) (outputs : List HbpOutput) : Prop :=
  ∀ output ∈ outputs, ((∃ dmrd, output = .hbpVoiceReceived dmrd) ∨
    output = .send (hbpfRptcl ++ radioId cfg)) → proto.state = .connected

/-- The other datagrams of the stack are not an RPTCL: RPTC is longer, the others differ in their
command words. -/
theorem rptc_ne (cfg : Config) : buildRptc cfg ≠ hbpfRptcl ++ radioId cfg := by
  intro same
  have length := congrArg List.length same
  simp only [buildRptc, enc, radioId, List.length_append, List.length_take, List.length_replicate,
    natToBytes_length, hbpfRptc, hbpfRptcl, List.length_cons, List.length_nil] at length
  omega

theorem word_ne {cfg : Config} {data word : Bytes} (front : data.take 4 = word)
    (other : word ≠ hbpfRptc) : data ≠ hbpfRptcl ++ radioId cfg := by
  intro same
  rw [same] at front
  exact other front.symm

/-- An RPTCL and voice are neither sent nor handed on by a `sendto` of another datagram. -/
theorem fromConnected_sendRaw (cfg : Config) (failed : Bool) (proto other : HbpProtocol) {data : Bytes}
    (different : data ≠ hbpfRptcl ++ radioId cfg) :
    FromConnected cfg proto (Fallible.sendRaw cfg failed data other).2 := by
  intro output member kind
  rcases Fallible.sendRaw_outputs cfg other failed member with rfl | rfl
  · rcases kind with ⟨dmrd, voice⟩ | bye
    · cases voice
    · exact absurd (HbpOutput.send.inj bye) different
  · rcases kind with ⟨dmrd, voice⟩ | bye
    · cases voice
    · cases bye

theorem fromConnected_onRptack (digests : Digests) (cfg : Config) (failed : Bool) (data : Bytes)
    (now : Time) (proto : HbpProtocol) :
    FromConnected cfg proto (Fallible.onRptack digests cfg failed data now proto).2 := by
  have nothing : FromConnected cfg proto [] := by simp [FromConnected]
  unfold Fallible.onRptack
  cases proto.state with
  | login =>
      dsimp only
      split
      · exact nothing
      · exact fromConnected_sendRaw cfg failed proto proto (word_ne (rfl : _ = hbpfRptk) (by decide))
  | authSent => exact fromConnected_sendRaw cfg failed proto proto (rptc_ne cfg)
  | configSent =>
      dsimp only
      split
      · exact fromConnected_sendRaw cfg failed proto proto (word_ne (rfl : _ = hbpfRpto) (by decide))
      · simp [HbpProtocol.becomeConnected, FromConnected]
  | optionsSent => simp [HbpProtocol.becomeConnected, FromConnected]
  | connected | disconnected => exact nothing

theorem fromConnected_step (digests : Digests) (cfg : Config) (proto : HbpProtocol)
    (input : ProtocolEvent × Bool) :
    FromConnected cfg proto ((hbpProtocol digests cfg).step proto input).2 := by
  obtain ⟨event, failed⟩ := input
  have nothing : FromConnected cfg proto [] := by simp [FromConnected]
  have closed : FromConnected cfg proto (proto.disconnect cfg false).2 := nothing
  cases event with
  | sendDmrd data =>
      intro output member _
      have member : output ∈ (Fallible.sendDmrd cfg failed data proto).2 := member
      unfold Fallible.sendDmrd at member
      split at member
      case isTrue up => exact of_decide_eq_true (Bool.and_eq_true_iff.mp up).1
      case isFalse => cases member
  | disconnect sendRptcl =>
      intro output member _
      have member : output ∈ (Fallible.disconnect cfg failed sendRptcl proto).2 := member
      simp only [Fallible.disconnect] at member
      split at member
      case isTrue up => exact of_decide_eq_true (Bool.and_eq_true_iff.mp up).2
      case isFalse => cases member
  | errorReceived =>
      show FromConnected cfg proto (proto.errorReceived cfg).2
      unfold HbpProtocol.errorReceived
      split
      · exact nothing
      · split <;> simp [HbpProtocol.disconnect, FromConnected]
  | keepalive now =>
      intro output member _
      by_contra other
      have silent : (Fallible.keepalive cfg failed now proto).2 = [] := by
        rw [Fallible.keepalive, if_pos other]
      have member : output ∈ (Fallible.keepalive cfg failed now proto).2 := member
      rw [silent] at member
      cases member
  | datagramReceived data now =>
      show FromConnected cfg proto (Fallible.datagramReceived digests cfg failed data now proto).2
      unfold Fallible.datagramReceived
      split
      case isTrue => exact fromConnected_onRptack digests cfg failed data now proto
      case isFalse other =>
        unfold HbpProtocol.datagramReceived
        rw [if_neg other]
        split_ifs with short nak pong bye dmrd up
        · exact nothing
        · exact closed
        · exact nothing
        · exact closed
        · exact fun _ _ _ => up
        · exact nothing
        · exact nothing

/-- A protocol after its `connection_made`, whose RPTL may fail. -/
def opened (cfg : Config) (failed : Bool) : HbpProtocol × List HbpOutput :=
  Fallible.connectionMade cfg failed {}

/-- What the handshake promises of a run. Nothing but `_disconnect` closes the transport, after it has
set DISCONNECTED: a protocol without its transport that is not DISCONNECTED has left that state. -/
structure HandshakeConforms (digests : Digests) (cfg : Config) (failed : Bool)
    (events : List (ProtocolEvent × Bool)) : Prop where
  datagrams : Conforms digests cfg (events.countP fun input => input.1.isRptack)
    (((opened cfg failed).2 ++ ((hbpProtocol digests cfg).run (opened cfg failed).1 events).2).filter
      HbpOutput.isSent)
  once : entries digests cfg (opened cfg failed).1 events ≤ 1
  told : ((opened cfg failed).2 ++
    ((hbpProtocol digests cfg).run (opened cfg failed).1 events).2).count .hbpConnected ≤ 1
  closed : ∀ first rest, events = first ++ rest →
    ((hbpProtocol digests cfg).run (opened cfg failed).1 first).1.transport = false →
    ((hbpProtocol digests cfg).run (opened cfg failed).1 first).1.state = .disconnected
  stays : ∀ first rest, events = first ++ rest →
    ((hbpProtocol digests cfg).run (opened cfg failed).1 first).1.state = .disconnected →
    ((hbpProtocol digests cfg).run (opened cfg failed).1 events).1.state = .disconnected
  fromConnected : (hbpProtocol digests cfg).Meets (fun _ proto input =>
    FromConnected cfg proto ((hbpProtocol digests cfg).step proto input).2) [] (opened cfg failed).1
    events

/-- The RPTL is the first datagram, whether it fails or not. -/
theorem opened_progress (digests : Digests) (cfg : Config) (failed : Bool) :
    Progress digests cfg 0 (opened cfg failed).1 ((opened cfg failed).2.filter HbpOutput.isSent) := by
  have start : Progress digests cfg 0 (HbpProtocol.connectionMade cfg {}).1
      [.send (hbpfRptl ++ radioId cfg)] :=
    .login 1 rfl rfl le_rfl (by simp [loginSteps]) [] (by simp [loginSteps])
  cases failed with
  | false => exact start
  | true => exact start.errorReceived

theorem opened_attached (cfg : Config) (failed : Bool) : (opened cfg failed).1.Attached := by
  cases failed with
  | false => exact fun _ => rfl
  | true => exact fun alive => absurd rfl alive

/-- Without a failed answer the transport is closed in DISCONNECTED only. -/
theorem step_attached_smooth (digests : Digests) {cfg : Config} {proto : HbpProtocol}
    (attached : proto.Attached) {input : ProtocolEvent × Bool} (smooth : ¬ LoginFails cfg proto input) :
    ((hbpProtocol digests cfg).step proto input).1.Attached := by
  obtain ⟨event, failed⟩ := input
  cases event with
  | datagramReceived data now =>
      have kept := (datagramReceived_step digests cfg data now proto).attached attached
      rw [← datagramReceived_smooth digests smooth] at kept
      exact kept
  | keepalive now => exact Fallible.keepalive_attached cfg failed now attached
  | errorReceived => exact (errorReceived_step cfg proto).attached attached
  | sendDmrd data => exact Fallible.sendDmrd_attached cfg failed data attached
  | disconnect sendRptcl => exact fun alive => absurd rfl alive

/-- After a failed answer the transport is closed and the protocol is in the next state of the login. -/
theorem step_loginFails (digests : Digests) {cfg : Config} {proto : HbpProtocol}
    {input : ProtocolEvent × Bool} (fails : LoginFails cfg proto input) :
    ((hbpProtocol digests cfg).step proto input).1.transport = false ∧
      ((hbpProtocol digests cfg).step proto input).1.state ≠ .disconnected := by
  obtain ⟨event, failed⟩ := input
  cases event with
  | keepalive | errorReceived | sendDmrd | disconnect => exact fails.elim
  | datagramReceived data now =>
      obtain ⟨rfl, matched, answers⟩ := fails
      have long : 6 ≤ data.length := by
        have length := congrArg List.length matched
        rw [List.length_take] at length
        have word : hbpfRptack.length = 6 := rfl
        omega
      have ack : (6 ≤ data.length && data.take 6 = hbpfRptack) = true := by simp [long, matched]
      show (Fallible.datagramReceived digests cfg true data now proto).1.transport = false ∧ _
      have answered : Fallible.datagramReceived digests cfg true data now proto =
          Fallible.onRptack digests cfg true data now proto := by
        rw [Fallible.datagramReceived, if_pos ack]
      rw [answered]
      show _ ∧ (Fallible.datagramReceived digests cfg true data now proto).1.state ≠ .disconnected
      rw [answered]
      exact Fallible.onRptack_failed digests cfg data now answers

/-- Under any events the run of a protocol conforms to the handshake exactly when no `sendto` of
`_on_rptack` fails. -/
theorem handshake_conforms_iff (digests : Digests) (cfg : Config) (failed : Bool)
    (events : List (ProtocolEvent × Bool)) :
    HandshakeConforms digests cfg failed events ↔
      (hbpProtocol digests cfg).Meets (fun _ proto input => ¬ LoginFails cfg proto input) []
        (opened cfg failed).1 events := by
  constructor
  · intro conforms
    refine (hbpProtocol digests cfg).meets_of_split _ _ _ _ fun first input rest split fails => ?_
    obtain ⟨shut, alive⟩ := step_loginFails digests fails
    have last : ((hbpProtocol digests cfg).run (opened cfg failed).1 (first ++ [input])).1 =
        ((hbpProtocol digests cfg).step ((hbpProtocol digests cfg).run (opened cfg failed).1 first).1
          input).1 := by
      rw [Mealy.run_append]
      rfl
    rw [← last] at shut alive
    exact alive (conforms.closed (first ++ [input]) rest (by simp [split]) shut)
  · intro smooth
    have once := entries_le_one digests cfg (opened cfg failed).1 events
    constructor
    case datagrams =>
      have progress := (opened_progress digests cfg failed).run events smooth
      rw [Nat.zero_add, ← List.filter_append] at progress
      exact progress.conforms
    case once => exact once
    case told =>
      have none : (opened cfg failed).2.count .hbpConnected = 0 := by
        cases failed <;> rfl
      rw [List.count_append, none, Nat.zero_add, run_told]
      exact once
    case closed =>
      intro first rest split shut
      rw [split, Mealy.meets_append] at smooth
      have attached : ((hbpProtocol digests cfg).run (opened cfg failed).1 first).1.Attached :=
        (hbpProtocol digests cfg).run_log_invariant _ (fun _ proto => proto.Attached)
          (fun _ _ _ smooth attached => step_attached_smooth digests attached smooth) _ _ _ smooth.1
          (opened_attached cfg failed)
      by_contra alive
      rw [attached alive] at shut
      cases shut
    case stays =>
      intro first rest split finished
      have forward := run_rank digests cfg
        ((hbpProtocol digests cfg).run (opened cfg failed).1 first).1 rest
      rw [finished] at forward
      rw [split, Mealy.run_append]
      revert forward
      cases ((hbpProtocol digests cfg).run ((hbpProtocol digests cfg).run (opened cfg failed).1 first).1
        rest).1.state <;> simp [HbpState.rank]
    case fromConnected =>
      exact (hbpProtocol digests cfg).meets_of_forall _
        (fun _ proto input => fromConnected_step digests cfg proto input) _ _ _

/-- A login, one round of the keepalive task whose RPTPING fails, and a local disconnect. -/
def sessionInputs : List (ProtocolEvent × Bool) :=
  List.replicate 3 (.datagramReceived (hbpfRptack ++ [1, 2, 3, 4]) 5, false) ++
    [(.keepalive 6, true), (.disconnect true, false)]

example :
    let result := (hbpProtocol loginDigests {}).run (opened {} false).1 sessionInputs
    (result.2.filter HbpOutput.isSent).length = 3 ∧ result.2.count .hbpConnected = 1 ∧
      result.2.count .hbpDisconnected = 1 ∧ result.1.state = .disconnected := by
  decide +kernel

/-- The `sendto` of an RPTK fails: the protocol is DISCONNECTED inside the call, and AUTH_SENT after
it. -/
theorem handshake_broken_rptk :
    let answer : ProtocolEvent × Bool := (.datagramReceived (hbpfRptack ++ [1, 2, 3, 4]) 5, true)
    let proto := (opened {} false).1
    (Fallible.sendRaw {} true (hbpfRptk ++ radioId {} ++ loginDigests.sha256 [1, 2, 3, 4]) proto).1.state =
        .disconnected ∧
      ((hbpProtocol loginDigests {}).run proto [answer]).1.state = .authSent ∧
      ¬ HandshakeConforms loginDigests {} false [answer] := by
  refine ⟨by decide +kernel, by decide +kernel, fun conforms => ?_⟩
  have closed := conforms.closed [_] [] rfl (by decide +kernel)
  revert closed
  decide +kernel

end Ipsc2Hbp
