import Ipsc2Hbp.Construction.Fallible
import Ipsc2Hbp.Proof.HbpClient

namespace Ipsc2Hbp.Fallible
open BigEndian

section Protocol
variable (digests : Digests) (cfg : Config) (proto : HbpProtocol)

/-- What `sendto` brings about: the datagram and, at an error in a session, the notice to the
translator. -/
theorem sendto_outputs (failed : Bool) {output other : HbpOutput}
    (member : other ∈ (sendto cfg failed output proto).2) :
    other = output ∨ other = .hbpDisconnected := by
  unfold sendto at member
  split at member
  case isFalse => exact .inl (List.mem_singleton.mp member)
  case isTrue =>
    rcases List.mem_cons.mp member with same | received
    · exact .inl same
    · unfold HbpProtocol.errorReceived at received
      split at received
      · cases received
      · have silent : (proto.disconnect cfg false).2 = [] := rfl
        simp only [silent, List.append_nil] at received
        split at received
        · exact .inr (List.mem_singleton.mp received)
        · cases received

theorem sendRaw_outputs (failed : Bool) {data : Bytes} {other : HbpOutput}
    (member : other ∈ (sendRaw cfg failed data proto).2) :
    other = .send data ∨ other = .hbpDisconnected := by
  unfold sendRaw at member
  split at member
  · exact sendto_outputs cfg proto failed member
  · cases member

@[simp] theorem sendto_sent (output : HbpOutput) :
    sendto cfg false output proto = (proto, [output]) := rfl

@[simp] theorem sendRaw_sent (data : Bytes) :
    sendRaw cfg false data proto = (proto, proto.sendRaw data) := by
  unfold sendRaw HbpProtocol.sendRaw
  split <;> rfl

@[simp] theorem sendDmrd_sent (data : Bytes) :
    sendDmrd cfg false data proto = (proto, proto.sendDmrd data) := by
  unfold sendDmrd HbpProtocol.sendDmrd
  split <;> rfl

@[simp] theorem connectionMade_sent :
    connectionMade cfg false proto = HbpProtocol.connectionMade cfg proto := rfl

@[simp] theorem disconnect_sent (sendRptcl : Bool) :
    disconnect cfg false sendRptcl proto = proto.disconnect cfg sendRptcl := by
  unfold disconnect HbpProtocol.disconnect
  split <;> simp

@[simp] theorem onRptack_sent (data : Bytes) (now : Time) :
    onRptack digests cfg false data now proto = proto.onRptack digests cfg data now := by
  unfold onRptack HbpProtocol.onRptack
  cases proto.state <;> simp

@[simp] theorem datagramReceived_sent (data : Bytes) (now : Time) :
    datagramReceived digests cfg false data now proto =
      proto.datagramReceived digests cfg data now := by
  unfold datagramReceived
  split
  case isFalse => rfl
  case isTrue ack =>
    have long : ¬ data.length < 4 := by
      have long := of_decide_eq_true (Bool.and_eq_true_iff.mp ack).1
      omega
    rw [onRptack_sent, HbpProtocol.datagramReceived, if_neg long, if_pos ack]

@[simp] theorem keepalive_sent (now : Time) :
    keepalive cfg false now proto = proto.keepalive cfg now := by
  unfold keepalive HbpProtocol.keepalive
  simp only [sendRaw_sent]

end Protocol

/-- A protocol that has closed its transport for a socket error is DISCONNECTED. -/
theorem errorReceived_closed (cfg : Config) {proto : HbpProtocol}
    (alive : proto.state ≠ .disconnected) :
    (proto.errorReceived cfg).1.state = .disconnected ∧
      (proto.errorReceived cfg).1.transport = false := by
  rw [HbpProtocol.errorReceived, if_neg alive]
  exact ⟨rfl, rfl⟩

/-- Whatever becomes of its send, a protocol that is attached stays so. -/
theorem sendto_attached (cfg : Config) (failed : Bool) (output : HbpOutput) {proto : HbpProtocol}
    (attached : proto.Attached) : (sendto cfg failed output proto).1.Attached := by
  unfold sendto
  split
  · exact (errorReceived_step cfg proto).attached attached
  · exact attached

theorem sendRaw_attached (cfg : Config) (failed : Bool) (data : Bytes) {proto : HbpProtocol}
    (attached : proto.Attached) : (sendRaw cfg failed data proto).1.Attached := by
  unfold sendRaw
  split
  · exact sendto_attached cfg failed _ attached
  · exact attached

theorem sendDmrd_attached (cfg : Config) (failed : Bool) (data : Bytes) {proto : HbpProtocol}
    (attached : proto.Attached) : (sendDmrd cfg failed data proto).1.Attached := by
  unfold sendDmrd
  split
  · exact sendto_attached cfg failed _ attached
  · exact attached

theorem keepalive_attached (cfg : Config) (failed : Bool) (now : Time) {proto : HbpProtocol}
    (attached : proto.Attached) : (keepalive cfg failed now proto).1.Attached := by
  unfold keepalive
  split
  · exact attached
  · dsimp only
    split
    · exact disconnect_attached cfg false _
    · exact sendRaw_attached cfg failed _ attached

/-- The protocol answers an RPTACK with the next datagram of its login. -/
def Answers (cfg : Config) (data : Bytes) (proto : HbpProtocol) : Prop :=
  proto.transport = true ∧ (proto.state = .login ∧ rptackNonceOff + 4 ≤ data.length ∨
    proto.state = .authSent ∨ proto.state = .configSent ∧ cfg.options ≠ "")

instance (cfg : Config) (data : Bytes) (proto : HbpProtocol) : Decidable (Answers cfg data proto) :=
  inferInstanceAs (Decidable (_ ∧ _))

/-- An RPTACK without an answer has no send to fail. -/
theorem onRptack_unanswered (digests : Digests) (cfg : Config) (failed : Bool) (data : Bytes) (now : Time)
    {proto : HbpProtocol} (smooth : failed = true → ¬ Answers cfg data proto) :
    onRptack digests cfg failed data now proto = proto.onRptack digests cfg data now := by
  cases failed with
  | false => exact onRptack_sent digests cfg proto data now
  | true =>
      have silent := smooth rfl
      unfold onRptack HbpProtocol.onRptack sendRaw HbpProtocol.sendRaw
      cases state : proto.state with
      | login =>
          dsimp only
          split
          · rfl
          · rename_i long
            have closed : proto.transport ≠ true := fun opened =>
              silent ⟨opened, .inl ⟨state, by omega⟩⟩
            rw [if_neg closed, if_neg closed]
      | authSent =>
          have closed : proto.transport ≠ true := fun opened => silent ⟨opened, .inr (.inl state)⟩
          dsimp only
          rw [if_neg closed, if_neg closed]
      | configSent =>
          dsimp only
          split
          · rename_i options
            have closed : proto.transport ≠ true := fun opened =>
              silent ⟨opened, .inr (.inr ⟨state, options⟩)⟩
            rw [if_neg closed, if_neg closed]
          · rfl
      | optionsSent | connected | disconnected => rfl

/-- A failed answer closes the transport, and `_on_rptack` leaves DISCONNECTED again. -/
theorem onRptack_failed (digests : Digests) (cfg : Config) (data : Bytes) (now : Time)
    {proto : HbpProtocol} (answers : Answers cfg data proto) :
    (onRptack digests cfg true data now proto).1.transport = false ∧
      (onRptack digests cfg true data now proto).1.state ≠ .disconnected := by
  obtain ⟨opened, login⟩ := answers
  have alive : proto.state ≠ .disconnected := by
    rcases login with ⟨state, -⟩ | state | ⟨state, -⟩ <;> simp [state]
  have sent (bytes : Bytes) : (sendRaw cfg true bytes proto).1.transport = false := by
    rw [sendRaw, if_pos opened]
    exact (errorReceived_closed cfg alive).2
  unfold onRptack
  rcases login with ⟨state, long⟩ | state | ⟨state, options⟩
  · simp only [state, if_neg (Nat.not_lt.mpr long)]
    exact ⟨sent _, HbpState.noConfusion⟩
  · simp only [state]
    exact ⟨sent _, HbpState.noConfusion⟩
  · simp only [state, if_pos options]
    exact ⟨sent _, HbpState.noConfusion⟩

end Ipsc2Hbp.Fallible
