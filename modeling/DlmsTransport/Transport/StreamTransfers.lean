import DlmsTransport.Transport.ByteStream
import DlmsTransport.Transport.TcpOwnershipProperties
import DlmsTransport.Transport.WriteAllProperties

/-! Which methods of the byte streams move bytes of a connection, and what a read makes of the
end of the stream. -/

set_option autoImplicit false

namespace DlmsTransport.Transport

open Interaction Posix

open TcpStreamTransport (FailsOpen)

/-- The calls that move bytes of a connection. -/
def movesData : OsCall → Bool
  | .recv _ _ | .send _ _ _ | .read _ _ | .write _ _ _ => true
  | _ => false

abbrev MovesNothing {α : Type} (program : OsProgram α) : Prop :=
  program.Only fun request => movesData request = false

namespace TcpStreamTransport

private theorem awaitConnection_movesNothing (options : TcpStreamTransportOptions)
    (candidate : NativeSocket) : MovesNothing (awaitConnection options candidate) := by
  have finish (status : TransportStatus) : MovesNothing (if status = .ok then
        pure (.connected candidate)
      else do
        closeNativeSocket candidate
        pure (Attempt.failed status)) := by
    split
    · trivial
    · exact ⟨rfl, fun _ => trivial⟩
  rw [awaitConnection, waitForDescriptor_bind]
  refine ⟨rfl, fun result => ?_⟩
  dsimp only
  split
  · refine Program.Only.bind ⟨rfl, fun answer => ?_⟩ finish
    cases answer <;> trivial
  · exact finish _

theorem tryAddresses_movesNothing (self : TcpStreamTransport) (finalStatus : TransportStatus)
    (addresses : List AddrInfo) : MovesNothing (tryAddresses self finalStatus addresses) := by
  induction addresses generalizing finalStatus with
  | nil => trivial
  | cons address rest ih =>
      unfold tryAddresses
      refine Program.Only.bind ?_ fun attempt => ?_
      · unfold tryCandidate
        rw [Program.ask_bind]
        refine ⟨rfl, fun answer => ?_⟩
        dsimp only
        split
        · trivial
        · refine (setNonBlocking_only (by rfl) fun _ => by rfl).bind fun nonBlocking => ?_
          split
          · exact ⟨rfl, fun _ => trivial⟩
          · rw [Program.ask_bind]
            refine ⟨rfl, fun connected => ?_⟩
            cases connected with
            | ok => trivial
            | error error =>
                dsimp only
                split
                · exact ⟨rfl, fun _ => trivial⟩
                · exact awaitConnection_movesNothing self.options _
      · cases attempt with
        | skipped => exact ih finalStatus
        | failed status => exact ih status
        | connected => trivial

end TcpStreamTransport

namespace ByteStream

theorem openStream_movesNothing (self : ByteStream) : MovesNothing self.openStream := by
  cases self with
  | tcp stream =>
      refine Program.Only.map ?_
      unfold TcpStreamTransport.open
      split
      · trivial
      · split
        · trivial
        · refine ⟨rfl, fun resolved => ?_⟩
          cases resolved with
          | none => trivial
          | some addresses =>
              exact (stream.tryAddresses_movesNothing .openFailed addresses.entries).bind
                fun _ => ⟨rfl, fun _ => trivial⟩
  | accepted stream => trivial
  | serial stream =>
      refine Program.Only.map ?_
      unfold SerialTransport.open
      split
      · trivial
      · split
        · trivial
        · rw [Program.ask_bind]
          refine ⟨rfl, fun answer => ?_⟩
          dsimp only
          split <;> trivial

theorem close_movesNothing (self : ByteStream) : MovesNothing self.close := by
  cases self with
  | tcp stream => exact (StreamMembers.close_only _ stream (by rfl)).map
  | accepted stream => exact (StreamMembers.close_only _ stream (by rfl)).map
  | serial stream => exact (StreamMembers.close_only _ stream (by rfl)).map

end ByteStream

def OsCall.receives : OsCall → Bool
  | .recv _ _ => true
  | _ => false

/-- A `recv` whose count is 0, as the `int` that the code keeps of it. -/
def endOfStream : (request : OsCall) → request.Answer → Bool
  | .recv _ _, answer => (Received.ofInt answer).count == 0
  | _, _ => false

/-- Some `recv` was answered with the end of the stream. -/
def observesEnd (trace : OsTrace) : Bool :=
  trace.any fun event => endOfStream event.request event.answer

@[simp] theorem observesEnd_nil : observesEnd [] = false := rfl

@[simp] theorem observesEnd_cons (event : OsEvent) (rest : OsTrace) :
    observesEnd (event :: rest) =
      (endOfStream event.request event.answer || observesEnd rest) := rfl

@[simp] theorem observesEnd_append (front back : OsTrace) :
    observesEnd (front ++ back) = (observesEnd front || observesEnd back) :=
  List.any_append

theorem observesEnd_of_only {α : Type} {program : OsProgram α} {trace : OsTrace} {result : α}
    (only : program.Only fun request => OsCall.receives request = false)
    (run : program.Runs trace result) : observesEnd trace = false := by
  rw [observesEnd, List.any_eq_false]
  intro event member
  have silent := only.mem run event member
  obtain ⟨request, answer⟩ := event
  cases request with
  | recv => cases silent
  | _ => exact Bool.false_ne_true

theorem MovesNothing.observesEnd {α : Type} {program : OsProgram α} {trace : OsTrace}
    {result : α} (nothing : MovesNothing program) (run : program.Runs trace result) :
    observesEnd trace = false := by
  refine observesEnd_of_only (nothing.mono fun request still => ?_) run
  cases request with
  | recv => cases still
  | _ => rfl

theorem TcpStreamTransport.open_flag (self : TcpStreamTransport) :
    self.open.Ensures fun _ outcome => FailsOpen outcome.1 ∨ outcome.2.open_ = true := by
  refine self.open_settles.mono fun _ outcome settled => ?_
  rcases settled with ⟨_, opened⟩ | failed | opened
  · exact .inr opened
  · exact .inl failed
  · exact .inr opened.1

/-- The serial class takes no answer for the end of the stream. -/
theorem SerialTransport.readSome_flag (self : SerialTransport) (output : OutputBuffer) :
    (self.readSome output).Ensures fun trace outcome =>
      outcome.2.open_ = (self.open_ && !observesEnd trace) := by
  unfold SerialTransport.readSome
  split
  · exact Program.ensures_done_iff.mpr (by simp)
  · split
    · exact Program.ensures_done_iff.mpr (by simp)
    · split
      · exact Program.ensures_done_iff.mpr (by simp)
      · rw [nativeRead, waitForDescriptor_bind, Program.call_bind, Program.ensures_call_iff]
        intro result
        split
        · exact Program.ensures_done_iff.mpr (by simp [endOfStream])
        · rw [Program.ask_bind, Program.call_bind, Program.ensures_call_iff]
          intro answer
          cases answer <;> exact Program.ensures_done_iff.mpr (by simp [endOfStream])

namespace StreamMembers

variable {σ : Type} (members : StreamMembers σ)

private theorem concludeRead_flag (self : σ) (received : Received) :
    (members.concludeRead self received).Ensures fun trace outcome =>
      observesEnd trace = false ∧ members.isOpen outcome.2 =
        (members.isOpen self && !(received.count == 0)) := by
  have form := members.concludeRead_form self received
  generalize members.concludeRead self received = program at form
  cases form with
  | delivered positive =>
      refine Program.ensures_done_iff.mpr ⟨rfl, ?_⟩
      rw [beq_false_of_ne positive.ne', Bool.not_false, Bool.and_true]
  | ended zero =>
      rw [Program.ensures_call_iff]
      refine fun _ => Program.ensures_done_iff.mpr ⟨rfl, ?_⟩
      rw [zero, members.isOpen_release]
      exact (Bool.and_false _).symm
  | endedUnowned zero =>
      refine Program.ensures_done_iff.mpr ⟨rfl, ?_⟩
      rw [zero, members.isOpen_release]
      exact (Bool.and_false _).symm
  | failed negative =>
      refine Program.ensures_done_iff.mpr ⟨rfl, ?_⟩
      rw [beq_false_of_ne negative.ne, Bool.not_false, Bool.and_true]
  | unexplained negative =>
      rw [Program.ensures_call_iff]
      refine fun _ => Program.ensures_done_iff.mpr ⟨rfl, ?_⟩
      rw [beq_false_of_ne negative.ne, Bool.not_false, Bool.and_true]

/-- A read closes the stream when it observes its end, and never else. -/
theorem readSome_flag (self : σ) (output : OutputBuffer) :
    (members.readSome self output).Ensures fun trace outcome =>
      members.isOpen outcome.2 = (members.isOpen self && !observesEnd trace) := by
  have form := members.readSome_form self output
  generalize members.readSome self output = program at form
  cases form with
  | refused => exact Program.ensures_done_iff.mpr (by simp)
  | waiting =>
      rw [Program.ensures_call_iff]
      intro (result : Int)
      split
      · rw [Program.ensures_call_iff]
        intro answer
        refine (members.concludeRead_flag self (.ofInt answer)).mono fun trace outcome told => ?_
        obtain ⟨silent, flag⟩ := told
        simp only [flag, observesEnd_cons, silent, endOfStream, Bool.or_false, Bool.false_or]
      · exact Program.ensures_done_iff.mpr (by simp [endOfStream])

end StreamMembers

namespace ByteStream

/-- An `Open` that does not fail leaves the stream open. -/
theorem openStream_flag (self : ByteStream) : self.openStream.Ensures fun _ outcome =>
    FailsOpen outcome.1 ∨ outcome.2.isOpen = true := by
  cases self with
  | tcp stream => exact Program.ensures_map_iff.mpr stream.open_flag
  | accepted stream =>
      refine Program.ensures_done_iff.mpr ?_
      cases opened : stream.open_ with
      | false => exact .inl (by simp [FailsOpen])
      | true => exact .inr opened
  | serial stream =>
      refine Program.ensures_map_iff.mpr ?_
      unfold SerialTransport.open
      split
      · next opened => exact Program.ensures_done_iff.mpr (.inr opened)
      · split
        · exact Program.ensures_done_iff.mpr (.inl (by simp [FailsOpen]))
        · rw [Program.ask_bind, Program.ensures_call_iff]
          intro answer
          dsimp only
          split
          · exact Program.ensures_done_iff.mpr (.inl (by simp [FailsOpen]))
          · exact Program.ensures_done_iff.mpr (.inr rfl)

theorem readSome_flag (self : ByteStream) (output : OutputBuffer) :
    (self.readSome output).Ensures fun trace outcome =>
      outcome.2.isOpen = (self.isOpen && !observesEnd trace) := by
  cases self with
  | tcp stream =>
      exact Program.ensures_map_iff.mpr (TcpStreamTransport.members.readSome_flag stream output)
  | accepted stream =>
      exact Program.ensures_map_iff.mpr (AcceptedTcpStream.members.readSome_flag stream output)
  | serial stream => exact Program.ensures_map_iff.mpr (stream.readSome_flag output)

theorem writeAll_observesNoEnd (self : ByteStream) (input : InputBuffer) (budget : Nat)
    {trace : OsTrace} {status : TransportStatus}
    (run : (self.writeAll input budget).Runs trace status) : observesEnd trace = false := by
  refine observesEnd_of_only ?_ run
  cases self with
  | tcp stream =>
      exact TcpStreamTransport.members.writeAll_only stream input budget (fun _ => rfl)
        (fun _ => ⟨rfl, fun _ => trivial⟩) rfl
  | accepted stream =>
      exact AcceptedTcpStream.members.writeAll_only stream input budget (fun _ => rfl)
        (fun _ => ⟨rfl, fun _ => trivial⟩) rfl
  | serial stream =>
      have silent : (SerialTransport.members.writeAll stream input budget).Only
          fun request => OsCall.receives request = false :=
        SerialTransport.members.writeAll_only stream input budget (fun _ => rfl)
          (fun _ => ⟨rfl, fun _ => trivial⟩) rfl
      rwa [← SerialTransport.writeAll_eq] at silent

/-- The calls that a handshake may make close the stream when one of them observes its end. -/
theorem transfers_flag {self after : ByteStream}
    {history : List (Invocation ByteStream StreamMethod OsCall OsCall.Answer StreamReply)}
    (session : Session ByteStream.invoke self history after)
    (transfers : ∀ invocation ∈ history, invocation.method.transfers = true) :
    after.isOpen = (self.isOpen && !observesEnd (sessionTrace history)) := by
  induction session with
  | nil => simp
  | @cons before method trace reply after rest final run _ ih =>
      obtain ⟨moves, later⟩ := List.forall_mem_cons.mp transfers
      have flag : after.isOpen = (before.isOpen && !observesEnd trace) := by
        cases method with
        | readSome output =>
            obtain ⟨answer, _, read, _, rfl⟩ := Program.runs_prodMap_iff.mp run
            exact before.readSome_flag output _ _ read
        | writeAll input budget =>
            obtain ⟨status, wrote, same⟩ := Program.runs_map_iff.mp run
            obtain ⟨_, rfl⟩ := Prod.mk.inj same
            simp [before.writeAll_observesNoEnd input budget wrote]
        | _ => cases moves
      rw [ih later, flag, sessionTrace_cons, observesEnd_append, Bool.not_or, Bool.and_assoc]

end ByteStream

end DlmsTransport.Transport
