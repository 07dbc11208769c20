import DlmsTransport.Transport.HandleOwnership
import DlmsTransport.Transport.ServerOwnershipProperties
import DlmsTransport.Transport.TcpOwnershipProperties
import DlmsTransport.Transport.TlsBackend

/-! What any of the concrete streams owns of the descriptors when it serves the calls of a
layer above, which knows it as an `IByteStream` only. -/

set_option autoImplicit false

namespace DlmsTransport.Transport

open Interaction Posix

open TcpStreamTransport (FailsOpen)

namespace ByteStream

/-- An open stream owns its descriptor, a closed one nothing. -/
def Owns (own : Set Int) : ByteStream → Prop
  | .tcp stream => TcpStreamTransport.members.Owns own stream
  | .accepted stream => AcceptedTcpStream.members.Owns own stream
  | .serial stream => SerialTransport.members.Owns own stream

/-- The descriptor that the stream holds open. -/
def descriptor? : ByteStream → Option NativeSocket
  | .tcp stream => heldSocket stream.socket_
  | .accepted stream => heldSocket stream.socket_
  | .serial stream => heldSocket stream.handle_

variable {own : Set Int} {self : ByteStream}

theorem Owns.mem_iff (owns : self.Owns own) (fd : Int) :
    fd ∈ own ↔ self.descriptor? = some fd := by
  cases self with
  | tcp stream => exact StreamMembers.Owns.mem_iff owns fd
  | accepted stream => exact StreamMembers.Owns.mem_iff owns fd
  | serial stream => exact StreamMembers.Owns.mem_iff owns fd

theorem serial_open_ensures (stream : SerialTransport) :
    stream.open.Ensures fun _ outcome => FailsOpen outcome.1 → outcome.2.open_ = false := by
  unfold SerialTransport.open
  split
  · exact Program.ensures_done_iff.mpr fun failed => absurd rfl failed.2
  · next closed =>
    have closed : stream.open_ = false := by simpa using closed
    split
    · exact Program.ensures_done_iff.mpr fun _ => closed
    · rw [Program.ask_bind, Program.ensures_call_iff]
      intro answer
      dsimp only
      split
      · exact Program.ensures_done_iff.mpr fun _ => closed
      · exact Program.ensures_done_iff.mpr fun failed => absurd rfl failed.1

/-- An `Open` that fails leaves the stream with nothing. -/
theorem openStream_custodial (owns : self.Owns own) :
    Custodial self.openStream own fun after outcome =>
      outcome.2.Owns after ∧ (FailsOpen outcome.1 → after = ∅) := by
  cases self with
  | tcp stream =>
      refine Program.meets_map_iff.mpr (((TcpStreamTransport.open_custodial owns).ensuring
        stream.open_ensures).mono ?_)
      intro after outcome known
      obtain ⟨owned, trace, ⟨succeeded, _⟩ | ⟨already, _⟩ | ⟨_, closed, same⟩⟩ := known
      · exact ⟨owned, fun failed => absurd succeeded failed.1⟩
      · exact ⟨owned, fun failed => absurd already failed.2⟩
      · exact ⟨owned, fun _ => owned.eq_empty (by rw [same]; exact closed)⟩
  | accepted stream =>
      refine ⟨owns, fun failed => StreamMembers.Owns.eq_empty owns ?_⟩
      cases opened : stream.open_ with
      | false => exact opened
      | true => exact absurd (by simp [opened]) failed.2
  | serial stream =>
      refine Program.meets_map_iff.mpr (((SerialTransport.open_custodial owns).ensuring
        (serial_open_ensures stream)).mono ?_)
      intro after outcome known
      obtain ⟨owned, trace, closed⟩ := known
      exact ⟨owned, fun failed => owned.eq_empty (closed failed)⟩

private theorem members_close_custodial {σ : Type} {members : StreamMembers σ} {stream : σ}
    (owns : members.Owns own stream) :
    Custodial (members.close stream) own fun after outcome =>
      members.Owns after outcome.2 ∧ after = ∅ := by
  refine (StreamMembers.close_custodial owns).mono fun after outcome closed => ?_
  obtain ⟨rfl, rfl⟩ := closed
  exact ⟨.released stream, rfl⟩

theorem close_custodial (owns : self.Owns own) :
    Custodial self.close own fun after outcome => outcome.2.Owns after ∧ after = ∅ := by
  cases self with
  | tcp stream => exact Program.meets_map_iff.mpr (members_close_custodial owns)
  | accepted stream => exact Program.meets_map_iff.mpr (members_close_custodial owns)
  | serial stream => exact Program.meets_map_iff.mpr (members_close_custodial owns)

theorem readSome_custodial (owns : self.Owns own) (output : OutputBuffer) :
    Custodial (self.readSome output) own fun after outcome => outcome.2.Owns after := by
  cases self with
  | tcp stream => exact Program.meets_map_iff.mpr (StreamMembers.readSome_custodial owns output)
  | accepted stream =>
      exact Program.meets_map_iff.mpr (StreamMembers.readSome_custodial owns output)
  | serial stream =>
      exact Program.meets_map_iff.mpr (SerialTransport.readSome_custodial owns output)

theorem writeAll_custodial (owns : self.Owns own) (input : InputBuffer) (budget : Nat) :
    Custodial (self.writeAll input budget) own fun after _ => self.Owns after := by
  cases self with
  | tcp stream => exact StreamMembers.writeAll_custodial (fun _ => rfl) owns input budget
  | accepted stream => exact StreamMembers.writeAll_custodial (fun _ => rfl) owns input budget
  | serial stream => exact SerialTransport.writeAll_custodial owns input budget

end ByteStream

/-- The lower stream as the layers above know it: whether it may be open. It is not after
`Close`, nor after an `Open` that fails. -/
def streamOpenness : Environment StreamCall StreamCall.Answer Bool where
  step _ request answer after :=
    match request, answer with
    | .open, status => FailsOpen status → after = false
    | .close, _ => after = false
    | .isOpen, _ | .readSome _, _ | .writeAll _, _ => True

/-- A stream that is not open owns nothing. -/
structure ByteStream.Stands (opened : Bool) (live : Set Int) (stream : ByteStream) : Prop where
  owns : stream.Owns live
  empty : opened = false → live = ∅

namespace ByteStream

theorem Stands.opened {live : Set Int} {self : ByteStream} (owns : self.Owns live) :
    Stands true live self :=
  ⟨owns, nofun⟩

theorem serve_custodial (budget : Nat) (opened : Bool) (live : Set Int) (self : ByteStream)
    (request : StreamCall) (stands : self.Stands opened live) :
    Custodial (self.serve budget request) live fun after served =>
      ∃ next, streamOpenness.step opened request served.1 next ∧ served.2.Stands next after := by
  have owns := stands.owns
  cases request with
  | «open» =>
      refine (openStream_custodial owns).mono fun after served found => ?_
      obtain ⟨owned, emptied⟩ := found
      by_cases failed : FailsOpen served.1
      · exact ⟨false, fun _ => rfl, owned, fun _ => emptied failed⟩
      · exact ⟨true, fun failing => absurd failing failed, .opened owned⟩
  | close =>
      exact (close_custodial owns).mono fun after served closed =>
        ⟨false, rfl, closed.1, fun _ => closed.2⟩
  | isOpen => exact ⟨true, trivial, .opened owns⟩
  | readSome output =>
      exact (readSome_custodial owns output).mono fun after served owned =>
        ⟨true, trivial, .opened owned⟩
  | writeAll input =>
      exact Program.meets_map_iff.mpr ((writeAll_custodial owns input budget).mono
        fun after status owned => ⟨true, trivial, .opened owned⟩)

/-- Each call is served by the method of that name. -/
theorem serve_invokes {budget : Nat} {self after : ByteStream} {request : StreamCall}
    {trace : OsTrace} {answer : request.Answer}
    (run : (self.serve budget request).Runs trace (answer, after)) :
    ∃ method reply, (self.invoke method).Runs trace (reply, after) := by
  cases request with
  | «open» => exact ⟨.open, _, Program.runs_prodMap_iff.mpr ⟨answer, after, run, rfl, rfl⟩⟩
  | close => exact ⟨.close, _, Program.runs_prodMap_iff.mpr ⟨answer, after, run, rfl, rfl⟩⟩
  | isOpen =>
      obtain ⟨rfl, rfl, rfl⟩ := Program.runs_done_pair_iff.mp run
      exact ⟨.isOpen, _, .refl⟩
  | readSome output =>
      exact ⟨.readSome output, _, Program.runs_prodMap_iff.mpr ⟨answer, after, run, rfl, rfl⟩⟩
  | writeAll input =>
      obtain ⟨status, wrote, same⟩ := Program.runs_map_iff.mp run
      obtain ⟨rfl, rfl⟩ := Prod.mk.inj same
      exact ⟨.writeAll input budget, _, Program.runs_map_iff.mpr ⟨status, wrote, rfl⟩⟩

end ByteStream

end DlmsTransport.Transport
