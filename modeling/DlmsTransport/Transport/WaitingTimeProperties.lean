import DlmsTransport.Transport.WaitingTime
import DlmsTransport.Transport.WriteTerminationProperties

/-! No operation of a transport waits longer than its timeouts allow, however the OS answers. -/

set_option autoImplicit false

namespace DlmsTransport.Transport

open Interaction Posix

/-- The microseconds that the waits of a run may have taken. -/
def waited : OsTrace → Nat
  | [] => 0
  | event :: rest => OsCall.waits event.request + waited rest

theorem waited_eq (tariff : Tariff OsCall OsCall.Answer) (priced : tariff.cost = OsCall.waits)
    (trace : OsTrace) : waited trace = tariff.spent trace := by
  induction trace with
  | nil => rfl
  | cons event rest ih => rw [waited, Tariff.spent, ih, priced]

/-- The waits are covered at all times: a wait that goes on takes no longer than it counts for
when it is answered. -/
def WaitsAtMost {α : Type} (limit : OsTrace → Nat) (program : OsProgram α) : Prop :=
  ∀ trace, program.Emits trace → waited trace ≤ limit trace

theorem WaitsAtMost.map {α β : Type} {limit : OsTrace → Nat} {program : OsProgram α}
    (waits : WaitsAtMost limit program) (f : α → β) : WaitsAtMost limit (f <$> program) :=
  fun trace emitted => waits trace (Program.emits_map_iff.mp emitted)

theorem waitsAtMost_done {α : Type} (result : α) (limit : OsTrace → Nat) :
    WaitsAtMost limit (.done result) := by
  intro trace emitted
  rw [Program.emits_done_iff] at emitted
  subst emitted
  exact Nat.zero_le _

section

variable {α : Type} {program : OsProgram α} {left : α → Nat}

theorem waitsAtMost_of_within {limit : OsTrace → Nat} {connect transfer : TransportDuration}
    {allowance : Nat} (within : program.Within (waiting connect transfer) allowance left)
    (covers : ∀ trace, allowance + connect.microseconds * pendingConnects trace +
      transfer.microseconds * transfers trace ≤ limit trace) : WaitsAtMost limit program := by
  intro trace emitted
  have paid := within.emits emitted
  rw [earned_waiting, ← waited_eq _ rfl, ← Nat.add_assoc] at paid
  exact paid.trans (covers trace)

theorem microseconds_zero : (⟨0⟩ : TransportDuration).microseconds = 0 := rfl

theorem waitsAtMost_of_allowance {allowance : Nat}
    (within : program.Within (waiting ⟨0⟩ ⟨0⟩) allowance left) :
    WaitsAtMost (fun _ => allowance) program :=
  waitsAtMost_of_within within fun trace => by
    simp only [microseconds_zero, Nat.zero_mul, Nat.add_zero, Nat.le_refl]

theorem Immediate.waitsAtMost (immediate : Immediate program) :
    WaitsAtMost (fun _ => 0) program := by
  have within : program.Within (waiting ⟨0⟩ ⟨0⟩) 0 fun _ => 0 := immediate.within
  exact waitsAtMost_of_allowance within

end

/-- The timeouts of a byte stream. -/
structure StreamTimeouts where
  connect : TransportDuration
  read : TransportDuration
  write : TransportDuration

/-- What a method may wait, given the calls it has made. -/
def StreamTimeouts.limit (timeouts : StreamTimeouts) : StreamMethod → OsTrace → Nat
  | .open, trace => timeouts.connect.microseconds * pendingConnects trace
  | .close, _ | .isOpen, _ => 0
  | .readSome _, _ => timeouts.read.microseconds
  | .writeAll _ _, trace => timeouts.write.microseconds * (transfers trace + 1)

section

variable {α : Type} {program : OsProgram α} {timeouts : StreamTimeouts} {left : α → Nat}

theorem open_waitsAtMost (within : program.Within (waiting timeouts.connect ⟨0⟩) 0 left) :
    WaitsAtMost (timeouts.limit .open) program :=
  waitsAtMost_of_within within fun trace => by
    simp only [StreamTimeouts.limit, microseconds_zero]
    omega

theorem writeAll_waitsAtMost {input : InputBuffer} {budget : Nat}
    (within : program.Within (waiting ⟨0⟩ timeouts.write) timeouts.write.microseconds left) :
    WaitsAtMost (timeouts.limit (.writeAll input budget)) program :=
  waitsAtMost_of_within within fun trace => by
    simp only [StreamTimeouts.limit, microseconds_zero, Nat.mul_succ]
    omega

end

def TcpStreamTransport.timeouts (self : TcpStreamTransport) : StreamTimeouts :=
  ⟨self.options.connectTimeout, self.options.readTimeout, self.options.writeTimeout⟩

/-- An accepted connection is never connected. -/
def AcceptedTcpStream.timeouts (self : AcceptedTcpStream) : StreamTimeouts :=
  ⟨⟨0⟩, self.readTimeout_, self.writeTimeout_⟩

def SerialTransport.timeouts (self : SerialTransport) : StreamTimeouts :=
  ⟨⟨0⟩, self.options.readTimeout, self.options.writeTimeout⟩

def ByteStream.timeouts : ByteStream → StreamTimeouts
  | .tcp stream => stream.timeouts
  | .accepted stream => stream.timeouts
  | .serial stream => stream.timeouts

theorem StreamMembers.readSome_waits {σ : Type} (members : StreamMembers σ) (self : σ)
    (output : OutputBuffer) :
    WaitsAtMost (fun _ => (members.readTimeout self).microseconds)
      (members.readSome self output) :=
  waitsAtMost_of_allowance (members.readSome_within self output)

theorem AcceptedTcpStream.writeAll_waits (self : AcceptedTcpStream) (input : InputBuffer)
    (budget : Nat) :
    WaitsAtMost (self.timeouts.limit (.writeAll input budget)) (self.writeAll input budget) := by
  have within : (self.writeAll input budget).Within (waiting ⟨0⟩ self.timeouts.write)
      self.timeouts.write.microseconds fun _ => 0 :=
    members.writeAll_within self (sendInt_within self.socket_) input budget
  exact writeAll_waitsAtMost within

theorem AcceptedTcpStream.invoke_waits (self : AcceptedTcpStream) (method : StreamMethod) :
    WaitsAtMost (self.timeouts.limit method) (self.invoke method) := by
  cases method with
  | «open» =>
      have nothing : Immediate (self.invoke .open) := trivial
      exact open_waitsAtMost nothing.within
  | close => exact (Immediate.waitsAtMost (members.close_immediate self)).map _
  | isOpen => exact Immediate.waitsAtMost trivial
  | readSome output => exact (members.readSome_waits self output).map _
  | writeAll input budget => exact (self.writeAll_waits input budget).map _

namespace ByteStream

variable (self : ByteStream)

theorem openStream_waits : WaitsAtMost (self.timeouts.limit .open) self.openStream := by
  cases self with
  | tcp stream =>
      have within : stream.open.Within (waiting stream.timeouts.connect ⟨0⟩) 0 fun _ => 0 :=
        stream.open_within
      exact (open_waitsAtMost within).map _
  | accepted stream =>
      have nothing : Immediate (ByteStream.accepted stream).openStream := trivial
      exact open_waitsAtMost nothing.within
  | serial stream =>
      have nothing : Immediate (ByteStream.serial stream).openStream :=
        stream.open_immediate.map
      exact open_waitsAtMost nothing.within

theorem close_waits : WaitsAtMost (self.timeouts.limit .close) self.close := by
  cases self with
  | tcp stream =>
      exact (Immediate.waitsAtMost (TcpStreamTransport.members.close_immediate stream)).map _
  | accepted stream =>
      exact (Immediate.waitsAtMost (AcceptedTcpStream.members.close_immediate stream)).map _
  | serial stream =>
      exact (Immediate.waitsAtMost (SerialTransport.members.close_immediate stream)).map _

theorem readSome_waits (output : OutputBuffer) :
    WaitsAtMost (self.timeouts.limit (.readSome output)) (self.readSome output) := by
  cases self with
  | tcp stream => exact (TcpStreamTransport.members.readSome_waits stream output).map _
  | accepted stream => exact (AcceptedTcpStream.members.readSome_waits stream output).map _
  | serial stream => exact (waitsAtMost_of_allowance (stream.readSome_within output)).map _

theorem writeAll_waits (input : InputBuffer) (budget : Nat) :
    WaitsAtMost (self.timeouts.limit (.writeAll input budget)) (self.writeAll input budget) := by
  cases self with
  | tcp stream =>
      have within : (stream.writeAll input budget).Within (waiting ⟨0⟩ stream.timeouts.write)
          stream.timeouts.write.microseconds fun _ => 0 :=
        TcpStreamTransport.members.writeAll_within stream (sendInt_within stream.socket_)
          input budget
      exact writeAll_waitsAtMost within
  | accepted stream => exact stream.writeAll_waits input budget
  | serial stream =>
      have within : (stream.writeAll input budget).Within (waiting ⟨0⟩ stream.timeouts.write)
          stream.timeouts.write.microseconds fun _ => 0 := stream.writeAll_within input budget
      exact writeAll_waitsAtMost within

theorem invoke_waits (method : StreamMethod) :
    WaitsAtMost (self.timeouts.limit method) (self.invoke method) := by
  cases method with
  | «open» => exact self.openStream_waits.map _
  | close => exact self.close_waits.map _
  | isOpen => exact Immediate.waitsAtMost trivial
  | readSome output => exact (self.readSome_waits output).map _
  | writeAll input budget => exact (self.writeAll_waits input budget).map _

end ByteStream

namespace UdpTransport

def limit (self : UdpTransport) : UdpMethod → Nat
  | .datagram (.send _) => self.options.sendTimeout.microseconds
  | .datagram (.receive _) => self.options.receiveTimeout.microseconds
  | .datagram .open | .datagram .close | .datagram .isOpen | .localPort => 0

theorem close_immediate (self : UdpTransport) : Immediate self.close := by
  unfold UdpTransport.close
  dsimp only
  split
  · exact ⟨rfl, fun _ => trivial⟩
  · trivial

theorem invoke_waits (self : UdpTransport) (method : DatagramMethod) :
    WaitsAtMost (fun _ => self.limit (.datagram method)) (self.invoke method) := by
  cases method with
  | «open» => exact (Immediate.waitsAtMost self.open_immediate).map _
  | close => exact (Immediate.waitsAtMost self.close_immediate).map _
  | isOpen => exact Immediate.waitsAtMost trivial
  | send input => exact (waitsAtMost_of_allowance (self.send_within input)).map _
  | receive output => exact (waitsAtMost_of_allowance (self.receive_within output)).map _

theorem operate_waits (self : UdpTransport) (method : UdpMethod) :
    WaitsAtMost (fun _ => self.limit method) (self.operate method) := by
  cases method with
  | localPort => exact (Immediate.waitsAtMost (self.localPort_only (by rfl))).map _
  | datagram method => exact (self.invoke_waits method).map _

end UdpTransport

theorem TcpServerTransport.invoke_immediate (self : TcpServerTransport)
    (method : TcpServerMethod) : Immediate (self.invoke method) := by
  cases method with
  | «open» => exact self.open_immediate.map
  | close => exact self.close_immediate.map
  | isOpen | localPort => trivial

namespace ServerSystem

/-- Of the listener only `Accept` waits. -/
def limit (self : ServerSystem) : ServerMethod → OsTrace → Nat
  | .accept _, _ => (self.listener.map (·.options.acceptTimeout.microseconds)).getD 0
  | .stream slot method, trace =>
      ((self.streams slot).map (·.timeouts.limit method trace)).getD 0
  | .listener _, _ | .destroy, _ | .release _, _ => 0

theorem invoke_waits (self : ServerSystem) (method : ServerMethod) :
    WaitsAtMost (self.limit method) (self.invoke method) := by
  cases method with
  | listener method =>
      rw [invoke]
      cases self.listener with
      | none => exact waitsAtMost_done _ _
      | some listener => exact (Immediate.waitsAtMost (listener.invoke_immediate method)).map _
  | accept slot =>
      rw [invoke]
      cases held : self.listener with
      | none => exact waitsAtMost_done _ _
      | some listener =>
          have waits := waitsAtMost_of_allowance
            (listener.accept_within (TcpServerTransport.resetConnection_immediate
              (self.streams slot)))
          have same : self.limit (.accept slot) =
              fun _ => listener.options.acceptTimeout.microseconds := by
            funext trace
            simp only [limit, held, Option.map_some, Option.getD_some]
          rw [same]
          exact waits.map _
  | destroy =>
      rw [invoke]
      cases self.listener with
      | none => exact waitsAtMost_done _ _
      | some listener =>
          exact (Immediate.waitsAtMost listener.destroy_immediate).map _
  | stream slot method =>
      rw [invoke]
      cases held : self.streams slot with
      | none => exact waitsAtMost_done _ _
      | some stream =>
          have same : self.limit (.stream slot method) = stream.timeouts.limit method := by
            funext trace
            simp only [limit, held, Option.map_some, Option.getD_some]
          rw [same]
          exact (stream.invoke_waits method).map _
  | release slot =>
      rw [invoke]
      cases self.streams slot with
      | none => exact waitsAtMost_done _ _
      | some stream => exact (Immediate.waitsAtMost stream.destroy_immediate).map _

end ServerSystem

/-- A contradiction pays for one wait more. -/
def retrying (isWouldBlock : Errno → Bool) (timeout : TransportDuration) :
    Tariff OsCall OsCall.Answer where
  cost := OsCall.waits
  earns request answer :=
    if contradicts isWouldBlock request answer then timeout.microseconds else 0

theorem earned_retrying (isWouldBlock : Errno → Bool) (timeout : TransportDuration)
    (trace : OsTrace) : (retrying isWouldBlock timeout).earned trace =
      timeout.microseconds * contradictions isWouldBlock trace := by
  induction trace with
  | nil => rfl
  | cons event rest ih =>
      rw [Tariff.earned, ih]
      simp only [retrying, contradictions, List.countP_cons]
      cases contradicts isWouldBlock event.request event.answer <;>
        simp [Nat.mul_succ, Nat.add_comm (timeout.microseconds)]

section

variable {socket : NativeSocket} {timeout : TransportDuration} {isWouldBlock : Errno → Bool}
  {transmit : List UInt8 → OsProgram Transferred} {input : List UInt8}
  (transfers : ∀ slice, slice.length ≤ intMax → Transfers isWouldBlock slice (transmit slice))
  (fits : input.length ≤ intMax)

/-- One wait for every byte that is left. -/
def waitsFor (timeout : TransportDuration) (input : List UInt8) (written : Nat) : Nat :=
  timeout.microseconds * (input.length - written)

include transfers fits

/-- An iteration that goes on has taken a byte, or was paid for by a contradiction. -/
theorem writeIteration_retries {written : Nat} (remaining : written < input.length) :
    (writeIteration socket timeout transmit isWouldBlock input written).Within
      (retrying isWouldBlock timeout) (waitsFor timeout input written)
      (leftAfter (waitsFor timeout input)) := by
  have another : waitsFor timeout input written =
      waitsFor timeout input (written + 1) + timeout.microseconds := by
    have more : input.length - written = input.length - (written + 1) + 1 := by omega
    rw [waitsFor, more, Nat.mul_succ, waitsFor]
  rw [writeIteration, waitForDescriptor_bind, another]
  refine within_select rfl (Nat.le_add_left _ _) fun result => ?_
  rw [Nat.add_sub_cancel]
  split
  · exact Nat.zero_le _
  · have short : (input.drop written).length ≤ intMax := by rw [List.length_drop]; omega
    obtain ⟨request, conclude, asked, noWait, whole, answered⟩ := transfers _ short
    have free : (retrying isWouldBlock timeout).cost request = 0 := by
      cases request <;> first | rfl | cases noWait
    rw [asked, Program.call_bind]
    refine .call (by omega) fun answer => ?_
    rw [free]
    rcases answered answer with ⟨count, bounded, reply, taken⟩ | ⟨error, reply, refused⟩
    · rw [reply, Program.done_bind]
      have earned : (retrying isWouldBlock timeout).earns request answer = 0 := by
        simp [retrying, taken]
      rw [earned]
      split
      · next advanced =>
        have more : 0 < count := by simpa using advanced
        exact Nat.mul_le_mul_left _ (by simp; omega)
      · next stalled =>
        obtain rfl : count = 0 := by simp at stalled; omega
        exact Nat.zero_le _
    · rw [reply, Program.done_bind]
      simp only [lastError, Program.pure_eq, Program.done_bind, Int.reduceNeg, gt_iff_lt,
        Int.reduceLT, ↓reduceIte, Int.reduceEq]
      split
      · next again =>
        have earned : (retrying isWouldBlock timeout).earns request answer =
            timeout.microseconds := by
          simp [retrying, refused, again]
        rw [earned]
        exact another.le
      · exact Nat.zero_le _

theorem writeLoop_retries (budget written : Nat) :
    (writeLoop socket timeout transmit isWouldBlock input budget written).Within
      (retrying isWouldBlock timeout) (waitsFor timeout input written) fun _ => 0 :=
  writeLoop_within_of (waitsFor timeout input)
    (fun _ remaining => writeIteration_retries transfers fits remaining) budget written

end

/-- One wait for every byte and for every contradiction. -/
def WritesWithin (isWouldBlock : Errno → Bool) (timeout : TransportDuration)
    (input : List UInt8) (program : OsProgram TransportStatus) : Prop :=
  WaitsAtMost (fun trace =>
    timeout.microseconds * (input.length + contradictions isWouldBlock trace)) program

theorem writeLoop_writesWithin {isWouldBlock : Errno → Bool} {timeout : TransportDuration}
    {input : List UInt8} {program : OsProgram TransportStatus}
    (within : program.Within (retrying isWouldBlock timeout) (waitsFor timeout input 0)
      fun _ => 0) : WritesWithin isWouldBlock timeout input program := by
  intro trace emitted
  have paid := within.emits emitted
  rw [earned_retrying, ← waited_eq _ rfl, waitsFor, Nat.sub_zero, ← Nat.mul_add] at paid
  exact paid

theorem StreamMembers.writeAll_writesWithin {σ : Type} (members : StreamMembers σ) (self : σ)
    (transfers : ∀ slice, slice.length ≤ intMax →
      Transfers members.isWouldBlock slice (members.transmit (members.socket self) slice))
    {input : InputBuffer} (fits : input.size ≤ intMax) (budget : Nat) :
    WritesWithin members.isWouldBlock (members.writeTimeout self) input.data
      (members.writeAll self input budget) := by
  unfold writeAll
  split
  · exact waitsAtMost_done _ _
  · split
    · exact waitsAtMost_done _ _
    · next valid =>
      rw [Bool.not_eq_true] at valid
      rw [InputBuffer.size_eq_length valid] at fits
      exact writeLoop_writesWithin (writeLoop_retries transfers fits budget 0)

theorem ByteStream.writeAll_writesWithin (self : ByteStream) {input : InputBuffer}
    (fits : input.size ≤ intMax) (budget : Nat) :
    WritesWithin self.isWouldBlock self.timeouts.write input.data
      (self.writeAll input budget) := by
  cases self with
  | tcp stream =>
      exact TcpStreamTransport.members.writeAll_writesWithin stream
        (fun _ short => sendInt_transfers _ stream.socket_ short) fits budget
  | accepted stream =>
      exact AcceptedTcpStream.members.writeAll_writesWithin stream
        (fun _ short => sendInt_transfers _ stream.socket_ short) fits budget
  | serial stream =>
      have writes := SerialTransport.members.writeAll_writesWithin stream
        (fun slice _ => writeNative_transfers _ stream.handle_ slice) fits budget
      rw [← SerialTransport.writeAll_eq stream input budget] at writes
      exact writes

/-- No method waits longer than its timeouts allow, whatever the state of the object and the
answers of the OS. The timeout of a write is that of one transfer, not of the whole write. -/
theorem waits_bounded :
    (∀ (stream : ByteStream) (method : StreamMethod),
        WaitsAtMost (stream.timeouts.limit method) (stream.invoke method)) ∧
      (∀ (stream : ByteStream) (input : InputBuffer) (budget : Nat), input.size ≤ intMax →
        WritesWithin stream.isWouldBlock stream.timeouts.write input.data
          (stream.writeAll input budget)) ∧
      (∀ (socket : UdpTransport) (method : UdpMethod),
        WaitsAtMost (fun _ => socket.limit method) (socket.operate method)) ∧
      ∀ (system : ServerSystem) (method : ServerMethod),
        WaitsAtMost (system.limit method) (system.invoke method) :=
  ⟨ByteStream.invoke_waits, fun stream _ budget fits => stream.writeAll_writesWithin fits budget,
    UdpTransport.operate_waits, ServerSystem.invoke_waits⟩

/-- A write with a timeout of five seconds has waited fifteen when it times out. -/
theorem waits_bounded_interrupted :
    ((ByteStream.tcp meterStream).writeAll (.bytes [7, 8, 9]) 3).Runs
        interruptedWrite.trace .timeout ∧
      waited interruptedWrite.trace = 15000000 ∧
      waited interruptedWrite.trace ≤ 5000000 *
        (3 + contradictions TcpStreamTransport.isWouldBlock interruptedWrite.trace) := by
  have run : ((ByteStream.tcp meterStream).writeAll (.bytes [7, 8, 9]) 3).Runs
      interruptedWrite.trace .timeout :=
    .call (.call (.call (.call (.call .refl))))
  exact ⟨run, rfl, waits_bounded.2.1 (.tcp meterStream) (.bytes [7, 8, 9]) 3 (by decide)
    interruptedWrite.trace run.emits⟩

end DlmsTransport.Transport
