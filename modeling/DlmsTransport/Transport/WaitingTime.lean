import DlmsTransport.Interaction.Spending
import DlmsTransport.Transport.ByteStream
import DlmsTransport.Transport.ServerSystem
import DlmsTransport.Transport.UdpOpening

/-! How long the operations of the transports wait for their descriptors, which they do in
`select` alone. The time that the OS takes to resolve a name, or for another call, is not
counted. -/

set_option autoImplicit false

namespace DlmsTransport.Transport

open Interaction Posix

/-- The microseconds that a call may wait for a descriptor. -/
def OsCall.waits : OsCall → Nat
  | .select _ _ timeout => timeout.seconds * 1000000 + timeout.microseconds
  | _ => 0

def TransportDuration.microseconds (duration : TransportDuration) : Nat :=
  duration.milliseconds.toNat * 1000

/-- The split of a duration into seconds and microseconds loses nothing. -/
theorem waits_select (socket : NativeSocket) (forRead : Bool) (timeout : TransportDuration) :
    OsCall.waits (.select socket forRead (toTimeval timeout)) = timeout.microseconds := by
  simp only [OsCall.waits, toTimeval, TransportDuration.microseconds]
  omega

/-- A connect that is left in progress, and is waited for afterwards. -/
def staysPending : (request : OsCall) → request.Answer → Bool
  | .connect _ _, .error error => TcpStreamTransport.isWouldBlock error
  | _, _ => false

def transmits : OsCall → Bool
  | .send _ _ _ | .write _ _ _ => true
  | _ => false

def pendingConnects (trace : OsTrace) : Nat :=
  trace.countP fun event => staysPending event.request event.answer

def transfers (trace : OsTrace) : Nat :=
  trace.countP fun event => transmits event.request

/-- Waiting is paid for with the allowance of an operation, and with one timeout more for every
connect that is left in progress and for every transfer. -/
def waiting (connect transfer : TransportDuration) : Tariff OsCall OsCall.Answer where
  cost := OsCall.waits
  earns request answer :=
    (if staysPending request answer then connect.microseconds else 0) +
      if transmits request then transfer.microseconds else 0

theorem earned_waiting (connect transfer : TransportDuration) (trace : OsTrace) :
    (waiting connect transfer).earned trace =
      connect.microseconds * pendingConnects trace +
        transfer.microseconds * transfers trace := by
  induction trace with
  | nil => rfl
  | cons event rest ih =>
      rw [Tariff.earned, ih]
      simp only [waiting, pendingConnects, transfers, List.countP_cons]
      cases staysPending event.request event.answer <;> cases transmits event.request <;>
        simp [Nat.mul_succ] <;> omega

/-- The calls that do not wait. -/
abbrev Immediate {α : Type} (program : OsProgram α) : Prop :=
  program.Only fun request => OsCall.waits request = 0

theorem setNonBlocking_immediate (socket : NativeSocket) : Immediate (setNonBlocking socket) :=
  setNonBlocking_only rfl fun _ => rfl

theorem lastError_immediate (errno : Option Errno) : Immediate (lastError errno) :=
  lastError_only (by rfl) errno

section

variable {α : Type} {connect transfer : TransportDuration} {allowance : Nat} {left : α → Nat}

theorem Immediate.within {program : OsProgram α} (immediate : Immediate program) :
    program.Within (waiting connect transfer) allowance fun _ => allowance :=
  .of_only immediate

/-- A wait that the allowance covers. -/
theorem within_select {tariff : Tariff OsCall OsCall.Answer} (priced : tariff.cost = OsCall.waits)
    {socket : NativeSocket} {forRead : Bool} {timeout : TransportDuration}
    {next : Int → OsProgram α} (enough : timeout.microseconds ≤ allowance)
    (rest : ∀ result, (next result).Within tariff (allowance - timeout.microseconds) left) :
    (Program.call (.select socket forRead (toTimeval timeout)) next : OsProgram α).Within
      tariff allowance left := by
  have cost : tariff.cost (.select socket forRead (toTimeval timeout)) = timeout.microseconds :=
    (congrFun priced _).trans (waits_select socket forRead timeout)
  refine .call (by omega) fun result => (rest result).mono ?_ fun _ => Nat.le_refl _
  omega

/-- A transfer pays for the wait of the transfer after it. -/
theorem transfer_within {request : OsCall} {result : request.Answer → α}
    (immediate : OsCall.waits request = 0) (transmitted : transmits request = true) :
    (Program.call request fun answer => .done (result answer) : OsProgram α).Within
      (waiting connect transfer) 0 fun _ => transfer.microseconds := by
  refine .call immediate.le fun answer => ?_
  have earned : transfer.microseconds ≤
      0 - OsCall.waits request + (waiting connect transfer).earns request answer := by
    simp [waiting, transmitted]
  exact earned

theorem sendInt_within (socket : NativeSocket) (slice : List UInt8) :
    (sendInt socket slice).Within (waiting connect transfer) 0
      fun _ => transfer.microseconds :=
  transfer_within rfl rfl

theorem writeNative_within (handle : NativeSocket) (slice : List UInt8) :
    (writeNative handle slice).Within (waiting connect transfer) 0
      fun _ => transfer.microseconds :=
  transfer_within rfl rfl

section WriteLoop

variable {socket : NativeSocket} {timeout : TransportDuration}
  {transmit : List UInt8 → OsProgram Transferred} {isWouldBlock : Errno → Bool}
  {input : List UInt8}

/-- When the loop goes on, what the rest of it is charged is left. -/
def leftAfter (charge : Nat → Nat) : WriteIteration → Nat
  | .again written => charge written
  | .returned _ => 0

theorem writeLoop_within_of {tariff : Tariff OsCall OsCall.Answer} (charge : Nat → Nat)
    (iterates : ∀ written, written < input.length →
      (writeIteration socket timeout transmit isWouldBlock input written).Within tariff
        (charge written) (leftAfter charge)) (budget written : Nat) :
    (writeLoop socket timeout transmit isWouldBlock input budget written).Within tariff
      (charge written) fun _ => 0 := by
  apply writeLoop_meets_of fun _ written balance => charge written ≤ balance
  · exact fun _ _ _ _ _ => Nat.zero_le _
  · exact fun _ _ _ _ => trivial
  · intro budget written balance enough remaining
    have within := (iterates written remaining).mono enough fun _ => Nat.le_refl _
    refine Program.Meets.mono within fun after outcome covered => ?_
    cases outcome with
    | again next => exact covered
    | returned status => exact Nat.zero_le _
  · exact Nat.le_refl _

/-- Every transfer pays for the wait of the next iteration. -/
theorem writeIteration_within
    (pays : ∀ slice,
      (transmit slice).Within (waiting connect timeout) 0 fun _ => timeout.microseconds)
    (written : Nat) :
    (writeIteration socket timeout transmit isWouldBlock input written).Within
      (waiting connect timeout) timeout.microseconds
      (leftAfter fun _ => timeout.microseconds) := by
  rw [writeIteration, waitForDescriptor_bind]
  refine within_select rfl (Nat.le_refl _) fun result => ?_
  rw [Nat.sub_self]
  split
  · exact Nat.zero_le _
  · refine (pays _).bind fun chunk => ?_
    split
    · exact Nat.le_refl _
    · split
      · exact Nat.zero_le _
      · refine (lastError_immediate chunk.errno).within.bind fun error => ?_
        split
        · exact Nat.le_refl _
        · exact Nat.zero_le _

theorem writeLoop_within
    (pays : ∀ slice,
      (transmit slice).Within (waiting connect timeout) 0 fun _ => timeout.microseconds)
    (budget written : Nat) :
    (writeLoop socket timeout transmit isWouldBlock input budget written).Within
      (waiting connect timeout) timeout.microseconds fun _ => 0 :=
  writeLoop_within_of (fun _ => timeout.microseconds)
    (fun written _ => writeIteration_within pays written) budget written

end WriteLoop

namespace StreamMembers

variable {σ : Type} {members : StreamMembers σ}

theorem close_immediate (members : StreamMembers σ) (self : σ) : Immediate (members.close self) :=
  members.close_only self (by rfl)

theorem readSome_within (members : StreamMembers σ) (self : σ) (output : OutputBuffer) :
    (members.readSome self output).Within (waiting connect transfer)
      (members.readTimeout self).microseconds fun _ => 0 := by
  have form := members.readSome_form self output
  generalize members.readSome self output = program at form
  cases form with
  | refused => exact Nat.zero_le _
  | waiting =>
      refine within_select rfl (Nat.le_refl _) fun result => ?_
      rw [Nat.sub_self]
      split
      · refine Immediate.within ⟨rfl, fun answer => ?_⟩
        exact members.concludeRead_only self (by rfl) (by rfl) _
      · exact Nat.zero_le _

theorem writeAll_within (members : StreamMembers σ) (self : σ)
    (pays : ∀ slice, (members.transmit (members.socket self) slice).Within
      (waiting connect (members.writeTimeout self)) 0
      fun _ => (members.writeTimeout self).microseconds) (input : InputBuffer) (budget : Nat) :
    (members.writeAll self input budget).Within (waiting connect (members.writeTimeout self))
      (members.writeTimeout self).microseconds fun _ => 0 := by
  unfold writeAll
  split
  · exact Nat.zero_le _
  · split
    · exact Nat.zero_le _
    · exact writeLoop_within pays budget 0

end StreamMembers

namespace TcpStreamTransport

theorem awaitConnection_within (options : TcpStreamTransportOptions)
    (candidate : NativeSocket) :
    (awaitConnection options candidate).Within (waiting options.connectTimeout transfer)
      options.connectTimeout.microseconds fun _ => 0 := by
  have settles (status : TransportStatus) : Immediate (if status = .ok then
        pure (.connected candidate)
      else do
        closeNativeSocket candidate
        pure (Attempt.failed status)) := by
    split
    · trivial
    · exact ⟨rfl, fun _ => trivial⟩
  rw [awaitConnection, waitForDescriptor_bind]
  refine within_select rfl (Nat.le_refl _) fun result => ?_
  rw [Nat.sub_self]
  split
  · refine Immediate.within ⟨rfl, fun answer => ?_⟩
    cases answer with
    | none => exact settles .openFailed
    | some error => exact settles (if error = (0 : Int) then .ok else .openFailed)
  · exact Immediate.within (settles (waitStatus false result))

/-- A candidate is waited for only after its connect was left in progress. -/
theorem tryCandidate_within (options : TcpStreamTransportOptions) (address : AddrInfo) :
    (tryCandidate options address).Within (waiting options.connectTimeout transfer) 0
      fun _ => 0 := by
  unfold tryCandidate
  rw [Program.ask_bind]
  refine .free rfl fun answer => ?_
  generalize nativeSocket answer = candidate
  dsimp only
  split
  · exact Nat.le_refl _
  · refine (setNonBlocking_immediate candidate).within.bind fun nonBlocking => ?_
    split
    · exact .free rfl fun _ => Nat.le_refl _
    · rw [Program.ask_bind]
      refine .call (Nat.le_refl _) fun connectResult => ?_
      cases connectResult with
      | ok => exact Nat.zero_le _
      | error error =>
          dsimp only
          split
          · exact .free rfl fun _ => Nat.zero_le _
          · next pending =>
            rw [Bool.not_eq_false] at pending
            have earned : options.connectTimeout.microseconds ≤
                0 - 0 + (waiting options.connectTimeout transfer).earns
                  (.connect candidate address.addr) (.error error) := by
              simp [waiting, staysPending, pending]
            exact (awaitConnection_within options candidate).mono earned fun _ => Nat.le_refl _

theorem tryAddresses_within (self : TcpStreamTransport) (finalStatus : TransportStatus)
    (addresses : List AddrInfo) :
    (self.tryAddresses finalStatus addresses).Within
      (waiting self.options.connectTimeout transfer) 0 fun _ => 0 := by
  induction addresses generalizing finalStatus with
  | nil => exact Nat.le_refl _
  | cons address rest ih =>
      unfold tryAddresses
      refine (tryCandidate_within self.options address).bind fun attempt => ?_
      cases attempt with
      | skipped => exact ih finalStatus
      | failed status => exact ih status
      | connected candidate => exact Nat.le_refl _

theorem open_within (self : TcpStreamTransport) :
    self.open.Within (waiting self.options.connectTimeout transfer) 0 fun _ => 0 := by
  unfold TcpStreamTransport.open
  split
  · exact Nat.le_refl _
  · split
    · exact Nat.le_refl _
    · rw [Program.ask_bind]
      refine .free rfl fun resolved => ?_
      cases resolved with
      | none => exact Nat.le_refl _
      | some addresses =>
          exact (tryAddresses_within self .openFailed addresses.entries).bind fun _ =>
            .free rfl fun _ => Nat.le_refl _

end TcpStreamTransport

namespace SerialTransport

theorem open_immediate (self : SerialTransport) : Immediate self.open := by
  unfold SerialTransport.open
  split
  · trivial
  · split
    · trivial
    · rw [Program.ask_bind]
      refine ⟨rfl, fun answer => ?_⟩
      dsimp only
      split <;> trivial

theorem readSome_within (self : SerialTransport) (output : OutputBuffer) :
    (self.readSome output).Within (waiting connect transfer)
      self.options.readTimeout.microseconds fun _ => 0 := by
  unfold readSome
  split
  · exact Nat.zero_le _
  · split
    · exact Nat.zero_le _
    · split
      · exact Nat.zero_le _
      · rw [nativeRead, waitForDescriptor_bind, Program.call_bind]
        refine within_select rfl (Nat.le_refl _) fun result => ?_
        rw [Nat.sub_self]
        refine Immediate.within (Program.Only.bind ?_ fun _ => trivial)
        split
        · trivial
        · refine ⟨rfl, fun answer => ?_⟩
          cases answer <;> trivial

theorem writeAll_within (self : SerialTransport) (input : InputBuffer) (budget : Nat) :
    (self.writeAll input budget).Within (waiting connect self.options.writeTimeout)
      self.options.writeTimeout.microseconds fun _ => 0 := by
  unfold writeAll
  split
  · exact Nat.zero_le _
  · split
    · exact Nat.zero_le _
    · split
      · exact Nat.zero_le _
      · exact writeLoop_within (writeNative_within self.handle_) budget 0

end SerialTransport

theorem AcceptedTcpStream.destroy_immediate (self : AcceptedTcpStream) :
    Immediate self.destroy :=
  (members.close_immediate self).bind fun _ => trivial

namespace TcpServerTransport

theorem tryAddresses_immediate (self : TcpServerTransport) (addresses : List AddrInfo) :
    Immediate (self.tryAddresses addresses) := by
  induction addresses with
  | nil => trivial
  | cons address rest ih =>
      have dropped (candidate : NativeSocket) : Immediate (do
          closeNativeSocket candidate
          self.tryAddresses rest) := ⟨rfl, fun _ => ih⟩
      rw [tryAddresses, Program.ask_bind]
      refine ⟨rfl, fun answer => ?_⟩
      dsimp only
      generalize nativeSocket answer = candidate
      split
      · exact ih
      · rw [Program.ask_bind]
        refine ⟨rfl, fun _ => (setNonBlocking_immediate candidate).bind fun nonBlocking => ?_⟩
        split
        · exact dropped candidate
        · rw [Program.ask_bind]
          refine ⟨rfl, fun (bound : Int) => ?_⟩
          dsimp only
          split
          · exact dropped candidate
          · rw [Program.ask_bind]
            refine ⟨rfl, fun (listening : Int) => ?_⟩
            dsimp only
            split
            · exact dropped candidate
            · refine Program.Only.bind ?_ fun _ => trivial
              rw [socketLocalPort, Program.ask_bind]
              refine ⟨rfl, fun name => ?_⟩
              dsimp only
              split <;> trivial

theorem open_immediate (self : TcpServerTransport) : Immediate self.open := by
  unfold TcpServerTransport.open
  split
  · trivial
  · split
    · trivial
    · rw [Program.ask_bind]
      refine ⟨rfl, fun resolved => ?_⟩
      cases resolved with
      | none => trivial
      | some addresses =>
          exact (tryAddresses_immediate self addresses.entries).bind fun _ =>
            ⟨rfl, fun _ => trivial⟩

theorem close_immediate (self : TcpServerTransport) : Immediate self.close := by
  unfold TcpServerTransport.close
  dsimp only
  split
  · exact ⟨rfl, fun _ => trivial⟩
  · trivial

theorem destroy_immediate (self : TcpServerTransport) : Immediate self.destroy :=
  self.close_immediate.bind fun _ => trivial

theorem accept_within (self : TcpServerTransport) {connection : Option (OsProgram Unit)}
    (reset : Immediate (resetConnection connection)) :
    (self.accept connection).Within (waiting connect transfer)
      self.options.acceptTimeout.microseconds fun _ => 0 := by
  have empty : (self.accept none).Within (waiting connect transfer)
      self.options.acceptTimeout.microseconds fun _ => 0 := by
    rw [accept, resetConnection, Program.pure_eq, Program.done_bind]
    split
    · exact Nat.zero_le _
    · rw [waitForDescriptor_bind]
      refine within_select rfl (Nat.le_refl _) fun result => ?_
      rw [Nat.sub_self]
      split
      · exact Nat.zero_le _
      · split
        · exact Nat.zero_le _
        · rw [Program.ask_bind]
          refine Immediate.within ⟨rfl, fun answer => ?_⟩
          cases answer with
          | error error => trivial
          | ok fd =>
              refine (setNonBlocking_immediate (fd : Int)).bind fun nonBlocking => ?_
              split
              · exact ⟨rfl, fun _ => trivial⟩
              · rw [Program.ask_bind]
                refine ⟨rfl, fun allocated => ?_⟩
                dsimp only
                split <;> trivial
  rw [accept_eq]
  exact reset.within.bind fun _ => empty

/-- Destroying an earlier connection takes no time. -/
theorem resetConnection_immediate (earlier : Option AcceptedTcpStream) :
    Immediate (resetConnection (earlier.map AcceptedTcpStream.destroy)) := by
  cases earlier with
  | none => trivial
  | some stream => exact stream.destroy_immediate

end TcpServerTransport

namespace UdpTransport

theorem open_immediate (self : UdpTransport) : Immediate self.open :=
  self.open_only.mono fun request prepares => by cases request <;> first | rfl | cases prepares

theorem send_within (self : UdpTransport) (input : InputBuffer) :
    (self.send input).Within (waiting connect transfer)
      self.options.sendTimeout.microseconds fun _ => 0 := by
  have form := self.send_form input
  generalize self.send input = program at form
  cases form with
  | closed | unconfigured | invalid => exact Nat.zero_le _
  | waiting =>
      refine within_select rfl (Nat.le_refl _) fun result => ?_
      rw [Nat.sub_self]
      split
      · exact Immediate.within ⟨rfl, fun answer => concludeSend_only (by rfl) _ _⟩
      · exact Nat.zero_le _

theorem receive_within (self : UdpTransport) (output : OutputBuffer) :
    (self.receive output).Within (waiting connect transfer)
      self.options.receiveTimeout.microseconds fun _ => 0 := by
  have form := self.receive_form output
  generalize self.receive output = program at form
  cases form with
  | closed | invalid => exact Nat.zero_le _
  | waiting =>
      refine within_select rfl (Nat.le_refl _) fun result => ?_
      rw [Nat.sub_self]
      split
      · refine Immediate.within ⟨rfl, fun answer => ?_⟩
        dsimp only
        cases pendingSize answer with
        | none => trivial
        | some pending =>
            rw [receivePending]
            split
            · trivial
            · exact ⟨rfl, fun answer => concludeReceive_only (by rfl) _⟩
      · exact Nat.zero_le _

end UdpTransport

end

end DlmsTransport.Transport
