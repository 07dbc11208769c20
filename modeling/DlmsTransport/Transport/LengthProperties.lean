import DlmsTransport.Transport.TcpServer
import DlmsTransport.Transport.TcpStream
import DlmsTransport.Transport.Udp

/-! The lengths that reach `recv` and `send` after a `size_t` has passed through
`int`, and for exactly which sizes they are safe. -/

set_option autoImplicit false

namespace DlmsTransport.Transport

open Interaction Posix

/-- A stream read asks for at least one byte and at most the buffer. -/
def ReadLengthSafe (outputSize : Nat) (_ : OsTrace) : OsCall → Prop
  | .recv _ length => length ≤ outputSize ∧ 0 < length
  | _ => True

/-- A stream write asks for at least one and at most all of the bytes left. -/
def WriteLengthSafe (_ : OsTrace) : OsCall → Prop
  | .send _ slice length => length ≤ slice.length ∧ (0 < slice.length → 0 < length)
  | _ => True

/-- With a datagram of `pending` bytes reported, a datagram read asks for all of
it, for at most the buffer, and for nothing only when the buffer is empty. -/
def ReceiveLengthSafe (outputSize pending : Nat) (trace : OsTrace) : OsCall → Prop
  | .recv _ length => (∃ fd, ⟨.fionread fd, some (pending : Int)⟩ ∈ trace) →
      length ≤ outputSize ∧ (0 < outputSize → 0 < length) ∧ pending ≤ length
  | _ => True

/-- A datagram write asks for the whole datagram. -/
def SendLengthSafe (_ : OsTrace) : OsCall → Prop
  | .send _ slice length => length = slice.length
  | _ => True

private theorem concludeRead_lengthSafe {σ : Type} (members : StreamMembers σ) (self : σ)
    (received : Received) (outputSize : Nat) (front : OsTrace) :
    (members.concludeRead self received).EveryCall fun back =>
      ReadLengthSafe outputSize (front ++ back) := by
  have form := members.concludeRead_form self received
  generalize members.concludeRead self received = program at form
  cases form with
  | delivered | endedUnowned | failed => exact Program.everyCall_done _ _
  | ended | unexplained =>
      rw [Program.everyCall_call_iff]
      exact ⟨trivial, fun _ => Program.everyCall_done _ _⟩

theorem StreamMembers.readSome_lengthSafe_iff {σ : Type} (members : StreamMembers σ) {self : σ}
    (opened : members.isOpen self = true) {output : OutputBuffer}
    (valid : output.invalid = false) (positive : 0 < output.size)
    (sized : output.size < 2 ^ 64) :
    (members.readSome self output).EveryCall (ReadLengthSafe output.size) ↔
      (0 < output.size % 2 ^ 32 ∧ output.size % 2 ^ 32 < 2 ^ 31) ∨
        2 ^ 64 - 2 ^ 31 ≤ output.size := by
  rw [← throughInt_within_iff positive sized]
  have form := members.readSome_form self output
  generalize members.readSome self output = program at form
  cases form with
  | refused refusal =>
      cases refusal with
      | closed closed => simp [opened] at closed
      | invalid _ invalid => simp [valid] at invalid
      | empty _ _ empty => omega
  | waiting =>
      constructor
      · intro every
        have ready := (Program.everyCall_call_iff.mp every).2 (1 : Int)
        exact (Program.everyCall_call_iff.mp ready).1
      · intro within
        rw [Program.everyCall_call_iff]
        refine ⟨trivial, fun (result : Int) => ?_⟩
        split
        · rw [Program.everyCall_call_iff]
          exact ⟨within, fun answer => concludeRead_lengthSafe members self _ output.size [_, _]⟩
        · exact Program.everyCall_done _ _

private theorem writeIteration_lengthSafe (socket : NativeSocket) (timeout : TransportDuration)
    (isWouldBlock : Errno → Bool) {input : List UInt8} (fits : input.length ≤ intMax)
    (written : Nat) :
    (writeIteration socket timeout (sendInt socket) isWouldBlock input written).EveryCall
      WriteLengthSafe := by
  rw [writeIteration, waitForDescriptor_bind, Program.everyCall_call_iff]
  refine ⟨trivial, fun result => ?_⟩
  split
  · exact Program.everyCall_done _ _
  · rw [sendInt_eq, Program.call_bind, Program.everyCall_call_iff]
    have kept : throughInt (input.drop written).length = (input.drop written).length :=
      throughInt_of_le (by simp only [List.length_drop]; omega)
    refine ⟨⟨Nat.le_of_eq kept, fun remaining => by rwa [kept]⟩, fun answer => ?_⟩
    rw [Program.done_bind]
    generalize Transferred.ofInt answer = chunk
    split
    · exact Program.everyCall_done _ _
    · split
      · exact Program.everyCall_done _ _
      · cases chunk.errno with
        | some error => exact Program.everyCall_done _ _
        | none =>
            rw [lastError, Program.ask_bind, Program.everyCall_call_iff]
            exact ⟨trivial, fun _ => Program.everyCall_done _ _⟩

private theorem writeLoop_lengthSafe (socket : NativeSocket) (timeout : TransportDuration)
    (isWouldBlock : Errno → Bool) {input : List UInt8} (fits : input.length ≤ intMax)
    (budget written : Nat) :
    (writeLoop socket timeout (sendInt socket) isWouldBlock input budget written).EveryCall
      WriteLengthSafe := by
  induction budget generalizing written with
  | zero =>
      rw [writeLoop]
      split <;> simp
  | succ budget ih =>
      rw [writeLoop_succ]
      split
      · apply (writeIteration_lengthSafe socket timeout isWouldBlock fits written).bind
        intro front outcome _
        cases outcome with
        | again written => exact ih written
        | returned => exact Program.everyCall_done _ _
      · exact Program.everyCall_done _ _

private theorem writeLoop_advances {socket : NativeSocket} {timeout : TransportDuration}
    {isWouldBlock : Errno → Bool} {input : List UInt8} {budget written : Nat}
    (remaining : written < input.length)
    (safe : (writeLoop socket timeout (sendInt socket) isWouldBlock input (budget + 1)
      written).EveryCall WriteLengthSafe) :
    throughInt (input.length - written) ≤ input.length - written ∧
      0 < throughInt (input.length - written) ∧
      (writeLoop socket timeout (sendInt socket) isWouldBlock input budget
        (written + 1)).EveryCall WriteLengthSafe := by
  simp only [writeLoop, remaining, ↓reduceIte] at safe
  rw [waitForDescriptor_bind, Program.everyCall_call_iff] at safe
  have ready := safe.2 (1 : Int)
  rw [if_neg (by simp), sendInt_eq, Program.call_bind, Program.everyCall_call_iff] at ready
  obtain ⟨⟨bounded, nonzero⟩, rest⟩ := ready
  simp only [List.length_drop] at bounded nonzero rest
  have asked := nonzero (by omega)
  have accepted := rest (.ok ⟨1, by simpa using asked⟩)
  have small : 1 ≤ intMax := by decide
  rw [Program.done_bind, Transferred.ofInt_of_le small, if_pos (by simp)] at accepted
  exact ⟨bounded, asked, accepted⟩

/-- A longer input reaches an unsafe length when the OS takes it byte by byte. -/
private theorem writeLoop_unsafe_of_lt {socket : NativeSocket} {timeout : TransportDuration}
    {isWouldBlock : Errno → Bool} {input : List UInt8} (sized : input.length < 2 ^ 64)
    {left written : Nat} (remaining : input.length = written + left)
    (safe : ∀ budget, (writeLoop socket timeout (sendInt socket) isWouldBlock input budget
      written).EveryCall WriteLengthSafe) : left ≤ intMax := by
  induction left generalizing written with
  | zero => exact Nat.zero_le _
  | succ left ih =>
      have inside : written < input.length := by omega
      have next : left ≤ intMax :=
        ih (by omega : input.length = written + 1 + left) fun budget =>
          (writeLoop_advances inside (safe (budget + 1))).2.2
      obtain ⟨bounded, nonzero, _⟩ := writeLoop_advances inside (safe 1)
      have within := (throughInt_within_iff (by omega) (by omega)).mp ⟨bounded, nonzero⟩
      simp only [intMax] at next ⊢
      omega

theorem StreamMembers.writeAll_lengthSafe_iff {σ : Type} (members : StreamMembers σ)
    (sending : ∀ socket, members.transmit socket = sendInt socket) {self : σ}
    (opened : members.isOpen self = true) {input : InputBuffer} (valid : input.invalid = false)
    (sized : input.size < 2 ^ 64) :
    (∀ budget, (members.writeAll self input budget).EveryCall WriteLengthSafe) ↔
      input.size ≤ intMax := by
  rw [InputBuffer.size_eq_length valid] at sized ⊢
  simp only [writeAll, opened, valid, sending, Bool.true_eq_false, Bool.false_eq_true, ↓reduceIte]
  constructor
  · exact writeLoop_unsafe_of_lt sized (Nat.zero_add _).symm
  · intro fits budget
    exact writeLoop_lengthSafe _ _ _ fits budget 0

private theorem concludeReceive_lengthSafe (received : Received) (outputSize pending : Nat)
    (front : OsTrace) :
    (UdpTransport.concludeReceive received).EveryCall fun back =>
      ReceiveLengthSafe outputSize pending (front ++ back) := by
  unfold UdpTransport.concludeReceive
  split
  · exact Program.everyCall_done _ _
  · cases received.errno with
    | some error => exact Program.everyCall_done _ _
    | none =>
        simp only [lastError]
        rw [Program.ask_bind, Program.everyCall_call_iff]
        exact ⟨trivial, fun _ => Program.everyCall_done _ _⟩

private theorem receivePending_lengthSafe (self : UdpTransport) {output : OutputBuffer}
    {pending : Nat}
    (whole : throughInt output.size ≤ output.size ∧
      (0 < output.size → 0 < throughInt output.size) ∧ pending ≤ throughInt output.size)
    (size : Option Nat) (front : OsTrace) :
    (self.receivePending output size).EveryCall fun back =>
      ReceiveLengthSafe output.size pending (front ++ back) := by
  cases size with
  | none => exact Program.everyCall_done _ _
  | some size =>
      simp only [UdpTransport.receivePending]
      split
      · exact Program.everyCall_done _ _
      · rw [receiveInt_bind, Program.everyCall_call_iff]
        refine ⟨fun _ => whole, fun answer => ?_⟩
        have concluded := concludeReceive_lengthSafe (.ofInt answer) output.size pending
          (front ++ [⟨.recv self.socket_ (throughInt output.size), answer⟩])
        simpa only [List.append_assoc, List.singleton_append] using concluded

theorem UdpTransport.receive_lengthSafe_iff {self : UdpTransport} (opened : self.open_ = true)
    {output : OutputBuffer} (valid : output.invalid = false) {pending : Nat}
    (covered : pending ≤ output.size) (sized : output.size < 2 ^ 64) :
    (self.receive output).EveryCall (ReceiveLengthSafe output.size pending) ↔
      output.size = 0 ∨
        (max 1 pending ≤ output.size % 2 ^ 32 ∧ output.size % 2 ^ 32 < 2 ^ 31) ∨
        2 ^ 64 - 2 ^ 31 ≤ output.size := by
  rw [← throughInt_covers_iff covered sized]
  have form := self.receive_form output
  generalize self.receive output = program at form
  cases form with
  | closed closed => simp [opened] at closed
  | invalid _ invalid => simp [valid] at invalid
  | waiting =>
      constructor
      · intro every
        have ready := (Program.everyCall_call_iff.mp every).2 (1 : Int)
        have reported := (Program.everyCall_call_iff.mp ready).2 (some (pending : Int))
        rw [pendingSize_natCast, receivePending, if_neg (Nat.not_lt.mpr covered),
          receiveInt_bind] at reported
        exact (Program.everyCall_call_iff.mp reported).1 ⟨self.socket_, by simp⟩
      · intro whole
        rw [Program.everyCall_call_iff]
        refine ⟨trivial, fun (result : Int) => ?_⟩
        split
        · rw [Program.everyCall_call_iff]
          exact ⟨trivial, fun answer => receivePending_lengthSafe self whole _ [_, _]⟩
        · exact Program.everyCall_done _ _

private theorem concludeSend_lengthSafe (inputSize : Nat) (sent : Transferred) :
    (UdpTransport.concludeSend inputSize sent).EveryCall SendLengthSafe := by
  unfold UdpTransport.concludeSend
  split
  · cases sent.errno with
    | some error => exact Program.everyCall_done _ _
    | none =>
        simp only [lastError]
        rw [Program.ask_bind, Program.everyCall_call_iff]
        exact ⟨trivial, fun _ => Program.everyCall_done _ _⟩
  · split <;> exact Program.everyCall_done _ _

theorem UdpTransport.send_lengthSafe_iff {self : UdpTransport} (opened : self.open_ = true)
    (configured : self.remoteConfigured_ = true) {input : InputBuffer}
    (valid : input.invalid = false) (sized : input.size < 2 ^ 64) :
    (self.send input).EveryCall SendLengthSafe ↔
      input.size < 2 ^ 31 ∨ 2 ^ 64 - 2 ^ 31 ≤ input.size := by
  rw [← throughInt_eq_self_iff sized, InputBuffer.size_eq_length valid]
  have form := self.send_form input
  generalize self.send input = program at form
  cases form with
  | closed closed => simp [opened] at closed
  | unconfigured _ unconfigured => simp [configured] at unconfigured
  | invalid _ _ invalid => simp [valid] at invalid
  | waiting =>
      constructor
      · intro every
        have ready := (Program.everyCall_call_iff.mp every).2 (1 : Int)
        exact (Program.everyCall_call_iff.mp ready).1
      · intro whole
        rw [Program.everyCall_call_iff]
        refine ⟨trivial, fun (result : Int) => ?_⟩
        split
        · rw [Program.everyCall_call_iff]
          exact ⟨whole, fun answer => concludeSend_lengthSafe _ _⟩
        · exact Program.everyCall_done _ _

/-- The sizes for which every length that reaches the OS is safe, at each of the
six call sites. -/
theorem transferLengths_safe_iff (stream : TcpStreamTransport) (accepted : AcceptedTcpStream)
    (udp : UdpTransport) (output : OutputBuffer) (input : InputBuffer) (pending : Nat)
    (outputValid : output.invalid = false) (outputSized : output.size < 2 ^ 64)
    (inputValid : input.invalid = false) (inputSized : input.size < 2 ^ 64) :
    (stream.open_ = true → 0 < output.size →
      ((stream.readSome output).EveryCall (ReadLengthSafe output.size) ↔
        (0 < output.size % 2 ^ 32 ∧ output.size % 2 ^ 32 < 2 ^ 31) ∨
          2 ^ 64 - 2 ^ 31 ≤ output.size)) ∧
    (accepted.open_ = true → 0 < output.size →
      ((accepted.readSome output).EveryCall (ReadLengthSafe output.size) ↔
        (0 < output.size % 2 ^ 32 ∧ output.size % 2 ^ 32 < 2 ^ 31) ∨
          2 ^ 64 - 2 ^ 31 ≤ output.size)) ∧
    (stream.open_ = true →
      ((∀ budget, (stream.writeAll input budget).EveryCall WriteLengthSafe) ↔
        input.size ≤ intMax)) ∧
    (accepted.open_ = true →
      ((∀ budget, (accepted.writeAll input budget).EveryCall WriteLengthSafe) ↔
        input.size ≤ intMax)) ∧
    (udp.open_ = true → pending ≤ output.size →
      ((udp.receive output).EveryCall (ReceiveLengthSafe output.size pending) ↔
        output.size = 0 ∨
          (max 1 pending ≤ output.size % 2 ^ 32 ∧ output.size % 2 ^ 32 < 2 ^ 31) ∨
          2 ^ 64 - 2 ^ 31 ≤ output.size)) ∧
    (udp.open_ = true → udp.remoteConfigured_ = true →
      ((udp.send input).EveryCall SendLengthSafe ↔
        input.size < 2 ^ 31 ∨ 2 ^ 64 - 2 ^ 31 ≤ input.size)) := by
  refine ⟨?_, ?_, ?_, ?_, ?_, ?_⟩
  · intro opened positive
    exact TcpStreamTransport.members.readSome_lengthSafe_iff opened outputValid positive outputSized
  · intro opened positive
    exact AcceptedTcpStream.members.readSome_lengthSafe_iff opened outputValid positive outputSized
  · intro opened
    exact TcpStreamTransport.members.writeAll_lengthSafe_iff (fun _ => rfl) opened inputValid
      inputSized
  · intro opened
    exact AcceptedTcpStream.members.writeAll_lengthSafe_iff (fun _ => rfl) opened inputValid
      inputSized
  · intro opened covered
    exact UdpTransport.receive_lengthSafe_iff opened outputValid covered outputSized
  · intro opened configured
    exact UdpTransport.send_lengthSafe_iff opened configured inputValid inputSized

theorem transferLengths_safe_smallRead :
    (meterStream.readSome ⟨false, 4⟩).EveryCall (ReadLengthSafe 4) :=
  ((transferLengths_safe_iff meterStream (.new 4 ⟨5000⟩ ⟨5000⟩) (.new {}) ⟨false, 4⟩
    (.bytes []) 0 rfl (by decide) rfl (by decide)).1 rfl (by decide)).mpr (.inl (by decide))

/-- A read into a buffer of `2 ^ 32` bytes asks for none and takes the answer for
the end of the connection. -/
theorem readSome_wrapped_unsafe :
    ¬ (meterStream.readSome ⟨false, 2 ^ 32⟩).EveryCall (ReadLengthSafe (2 ^ 32)) ∧
    (meterStream.readSome ⟨false, 2 ^ 32⟩).Runs
      [⟨.select 3 true ⟨5, 0⟩, (1 : Int)⟩, ⟨.recv 3 0, .ok ⟨[], Nat.le_refl 0⟩⟩, ⟨.close 3, ()⟩]
      (⟨.connectionClosed, 0, []⟩, .new meterOptions) := by
  have wrapped : throughInt (2 ^ 32) = 0 := throughInt_of_mod_lt (by decide)
  have form := TcpStreamTransport.members.readSome_form meterStream ⟨false, 2 ^ 32⟩
  unfold TcpStreamTransport.readSome
  generalize TcpStreamTransport.members.readSome meterStream ⟨false, 2 ^ 32⟩ = program at form
  cases form with
  | refused refusal =>
      cases refusal with
      | closed closed => exact absurd closed (by decide)
      | invalid _ invalid => exact absurd invalid (by decide)
      | empty _ _ empty => exact absurd empty (by decide)
  | waiting =>
      dsimp only
      generalize throughInt (2 ^ 32) = length at wrapped
      subst wrapped
      constructor
      · intro every
        have ready := (Program.everyCall_call_iff.mp every).2 (1 : Int)
        have asked := (Program.everyCall_call_iff.mp ready).1
        exact absurd asked.2 (by decide)
      · exact .call (.call (.call .refl))

end DlmsTransport.Transport
