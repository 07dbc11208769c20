import DlmsTransport.Transport.Serial
import DlmsTransport.Transport.TcpStream
import DlmsTransport.Transport.Udp

/-! The counts that the C++ reads report: nothing unless the read succeeded, and never more
than the caller's buffer holds. -/

set_option autoImplicit false

namespace DlmsTransport.Transport

open Interaction Posix

/-- How many bytes a call stored in the buffer of its caller. -/
def storedLength : (request : OsCall) → request.Answer → Nat
  | .recv _ _, .ok bytes => bytes.val.length
  | .read _ _, .ok bytes => bytes.val.length
  | _, _ => 0

def StaysWithin (size : Nat) (trace : OsTrace) : Prop :=
  ∀ event ∈ trace, storedLength event.request event.answer ≤ size

/-- What a C++ read says about the bytes it counts. -/
structure Counts (size : Nat) (trace : OsTrace) (reply : ReadReply) : Prop where
  nothing : reply.status ≠ .ok → reply.bytesRead = 0
  within : reply.status = .ok → StaysWithin size trace → reply.bytesRead ≤ size

theorem Counts.of_bytesRead_eq_zero {size : Nat} {trace : OsTrace} {reply : ReadReply}
    (zero : reply.bytesRead = 0) : Counts size trace reply where
  nothing _ := zero
  within _ _ := by omega

theorem Received.count_le (fd : Int) {length size : Nat}
    {answer : Except Errno (Delivery length)} {trace : OsTrace}
    (received : ⟨.recv fd length, answer⟩ ∈ trace) (within : StaysWithin size trace) :
    (Received.ofInt answer).count.toNat ≤ size := by
  cases answer with
  | error error => exact Nat.zero_le _
  | ok bytes =>
      have kept := toInt_natCast_le bytes.val.length
      have stored : bytes.val.length ≤ size := within _ received
      simp only [Received.ofInt]
      omega

section

variable {σ : Type} (members : StreamMembers σ)

private theorem concludeRead_counts (self : σ) (size : Nat) (received : Received)
    (front : OsTrace) (bounded : StaysWithin size front → received.count.toNat ≤ size) :
    (members.concludeRead self received).Ensures fun back outcome =>
      Counts size (front ++ back) outcome.1 := by
  have form := members.concludeRead_form self received
  generalize members.concludeRead self received = program at form
  cases form with
  | delivered =>
      refine Program.ensures_done_iff.mpr ⟨fun failed => absurd rfl failed, ?_⟩
      intro _ within
      rw [List.append_nil] at within
      exact bounded within
  | endedUnowned | failed => exact Program.ensures_done_iff.mpr (.of_bytesRead_eq_zero rfl)
  | ended | unexplained =>
      rw [Program.ensures_call_iff]
      intro answer
      exact Program.ensures_done_iff.mpr (.of_bytesRead_eq_zero rfl)

theorem StreamMembers.readSome_counts (self : σ) (output : OutputBuffer) :
    (members.readSome self output).Ensures fun trace outcome =>
      Counts output.size trace outcome.1 := by
  have form := members.readSome_form self output
  generalize members.readSome self output = program at form
  cases form with
  | refused => exact Program.ensures_done_iff.mpr (.of_bytesRead_eq_zero rfl)
  | waiting =>
      rw [Program.ensures_call_iff]
      intro (result : Int)
      split
      · rw [Program.ensures_call_iff]
        intro answer
        exact concludeRead_counts members self output.size (.ofInt answer)
          [⟨.select (members.socket self) true (toTimeval (members.readTimeout self)), result⟩,
            ⟨.recv (members.socket self) (throughInt output.size), answer⟩]
          (Received.count_le (members.socket self) (by simp))
      · exact Program.ensures_done_iff.mpr (.of_bytesRead_eq_zero rfl)

end

theorem SerialTransport.readSome_counts (self : SerialTransport) (output : OutputBuffer) :
    (self.readSome output).Ensures fun trace outcome => Counts output.size trace outcome.1 := by
  unfold SerialTransport.readSome
  split
  · exact Program.ensures_done_iff.mpr (.of_bytesRead_eq_zero rfl)
  · split
    · exact Program.ensures_done_iff.mpr (.of_bytesRead_eq_zero rfl)
    · split
      · exact Program.ensures_done_iff.mpr (.of_bytesRead_eq_zero rfl)
      · unfold nativeRead
        rw [Program.ensures_bind_iff, waitForDescriptor_bind, Program.ensures_call_iff]
        intro (result : Int)
        split
        · exact Program.ensures_done_iff.mpr
            (Program.ensures_done_iff.mpr (.of_bytesRead_eq_zero rfl))
        · rw [Program.ask_bind, Program.ensures_call_iff]
          intro answer
          cases answer with
          | error error =>
              exact Program.ensures_done_iff.mpr
                (Program.ensures_done_iff.mpr (.of_bytesRead_eq_zero rfl))
          | ok bytes =>
              refine Program.ensures_done_iff.mpr (Program.ensures_done_iff.mpr ?_)
              exact ⟨fun failed => absurd rfl failed, fun _ _ => bytes.property⟩

private theorem concludeReceive_counts (size : Nat) (received : Received) (front : OsTrace)
    (bounded : StaysWithin size front → received.count.toNat ≤ size) :
    (UdpTransport.concludeReceive received).Ensures fun back reply =>
      Counts size (front ++ back) reply := by
  unfold UdpTransport.concludeReceive
  split
  · refine Program.ensures_done_iff.mpr ⟨fun failed => absurd rfl failed, ?_⟩
    intro _ within
    rw [List.append_nil] at within
    exact bounded within
  · cases received.errno with
    | some error => exact Program.ensures_done_iff.mpr (.of_bytesRead_eq_zero rfl)
    | none =>
        simp only [lastError]
        rw [Program.ask_bind, Program.ensures_call_iff]
        intro error
        exact Program.ensures_done_iff.mpr (.of_bytesRead_eq_zero rfl)

theorem UdpTransport.receive_counts (self : UdpTransport) (output : OutputBuffer) :
    (self.receive output).Ensures fun trace reply => Counts output.size trace reply := by
  have form := self.receive_form output
  generalize self.receive output = program at form
  cases form with
  | closed | invalid => exact Program.ensures_done_iff.mpr (.of_bytesRead_eq_zero rfl)
  | waiting =>
      rw [Program.ensures_call_iff]
      intro (result : Int)
      split
      · rw [Program.ensures_call_iff]
        intro answer
        cases pendingSize answer with
        | none => exact Program.ensures_done_iff.mpr (.of_bytesRead_eq_zero rfl)
        | some pending =>
            simp only [receivePending]
            split
            · exact Program.ensures_done_iff.mpr (.of_bytesRead_eq_zero rfl)
            · rw [receiveInt_bind, Program.ensures_call_iff]
              intro received
              exact concludeReceive_counts output.size (.ofInt received)
                [⟨.select self.socket_ true (toTimeval self.options.receiveTimeout), result⟩,
                  ⟨.fionread self.socket_, answer⟩,
                  ⟨.recv self.socket_ (throughInt output.size), received⟩]
                (Received.count_le self.socket_ (by simp))
      · exact Program.ensures_done_iff.mpr (.of_bytesRead_eq_zero rfl)

end DlmsTransport.Transport
