import DlmsTransport.Transport.CApi
import DlmsTransport.Transport.DescriptorOwnership
import DlmsTransport.Transport.UdpOpening
import DlmsTransport.Transport.WriteAllProperties

/-! What a serial object and a datagram object own of the descriptors alone: the one that
each holds open, and none while it is closed. -/

set_option autoImplicit false

namespace DlmsTransport.Transport

open Interaction Posix

namespace SerialTransport

variable {live : Set Int} {self : SerialTransport}

theorem open_custodial (owns : members.Owns live self) :
    Custodial self.open live fun after outcome => members.Owns after outcome.2 := by
  unfold SerialTransport.open
  split
  · exact owns
  · next closed =>
    obtain rfl := owns.eq_empty (by simpa [members] using closed)
    split
    · exact owns
    · rw [Program.ask_bind]
      refine ⟨usesLive_of_none rfl, fun (answer : Option Nat) after stepped => ?_⟩
      cases answer with
      | none =>
          obtain rfl := (Custody.ledger_step_quiet rfl rfl).mp stepped
          exact owns
      | some fd =>
          obtain ⟨_, rfl⟩ := (Custody.ledger_step_obtain rfl).mp stepped
          have valid := nativeSocket_some_ne fd
          dsimp only
          rw [if_neg valid]
          exact .ofOpen rfl valid (by simp [members, nativeSocket])

private theorem nativeRead_quiet {handle : NativeSocket} (held : handle ∈ live) (outputSize : Nat)
    (timeout : TransportDuration) :
    (nativeRead handle outputSize timeout).Only (descriptors.Quiet live) := by
  rw [nativeRead, waitForDescriptor_bind]
  refine ⟨quiet_of_mem held rfl (fun _ => rfl) rfl, fun result => ?_⟩
  dsimp only
  split
  · trivial
  · refine ⟨quiet_of_mem held rfl (fun _ => rfl) rfl, fun answer => ?_⟩
    cases answer <;> trivial

theorem readSome_custodial (owns : members.Owns live self) (output : OutputBuffer) :
    Custodial (self.readSome output) live fun after outcome => members.Owns after outcome.2 := by
  unfold readSome
  split
  · exact owns
  · next opened =>
    have held := owns.isOpen_iff.mp (by simpa [members] using opened)
    split
    · exact owns
    · split
      · exact owns
      · refine Program.meets_bind_iff.mpr
          ((Custody.meets_of_quiet (nativeRead_quiet held _ _)).mono ?_)
        rintro after reply rfl
        exact owns

theorem writeAll_custodial (owns : members.Owns live self) (input : InputBuffer) (budget : Nat) :
    Custodial (self.writeAll input budget) live fun after _ => members.Owns after self := by
  rw [writeAll_eq]
  cases opened : members.isOpen self with
  | false =>
      rw [StreamMembers.writeAll, if_pos opened]
      exact owns
  | true =>
      have held := owns.isOpen_iff.mp opened
      have quiet : (members.writeAll self input budget).Only (descriptors.Quiet live) := by
        apply members.writeAll_only self input budget
        · exact fun _ => quiet_of_mem held rfl (fun _ => rfl) rfl
        · exact fun _ => ⟨quiet_of_mem held rfl (fun _ => rfl) rfl, fun _ => trivial⟩
        · exact quiet_of_none rfl fun _ => rfl
      refine (Custody.meets_of_quiet quiet).mono ?_
      rintro after status rfl
      exact owns

theorem destroy_custodial (owns : members.Owns live self) :
    Custodial self.destroy live fun after _ => after = ∅ :=
  Program.meets_bind_iff.mpr ((StreamMembers.close_custodial owns).mono fun _ _ closed => closed.1)

end SerialTransport

namespace UdpTransport

/-- A closed object holds no descriptor, an open one holds its socket. -/
inductive OwnsSocket : Set Int → UdpTransport → Prop where
  | closed {self : UdpTransport} : self.open_ = false → self.socket_ = kInvalidSocket →
      OwnsSocket ∅ self
  | opened {self : UdpTransport} : self.open_ = true → self.socket_ ≠ kInvalidSocket →
      OwnsSocket {self.socket_} self

variable {live : Set Int} {self : UdpTransport}

theorem OwnsSocket.held (owns : OwnsSocket live self) (opened : self.open_ = true) :
    self.socket_ ∈ live := by
  cases owns with
  | closed closed => simp [opened] at closed
  | opened => rfl

theorem OwnsSocket.eq_empty (owns : OwnsSocket live self) (closed : self.open_ = false) :
    live = ∅ := by
  cases owns with
  | closed => rfl
  | opened opened => simp [closed] at opened

private theorem givenUp_custodial (candidate : NativeSocket) :
    Custodial (do
      closeNativeSocket candidate
      pure (none : Option NativeSocket)) {candidate} fun after kept =>
        kept.elim (after = ∅) fun kept => after = {kept} ∧ kept ≠ kInvalidSocket :=
  Custody.meets_release_only (fun _ => rfl) rfl fun _ => rfl

theorem attempt_custodial (options : UdpTransportOptions) (hasRemote : Bool)
    (address : AddrInfo) :
    Custodial (attempt options hasRemote address) ∅ fun after kept =>
      kept.elim (after = ∅) fun kept => after = {kept} ∧ kept ≠ kInvalidSocket := by
  rw [attempt, Program.ask_bind]
  apply socket_custodial
  · rfl
  · intro fd
    have valid := nativeSocket_some_ne fd
    generalize nativeSocket (some fd) = candidate at valid
    have held : candidate ∈ ({candidate} : Set Int) := rfl
    dsimp only
    rw [if_neg valid]
    refine Program.meets_bind_iff.mpr ((setNonBlocking_custodial held).mono ?_)
    rintro after nonBlocking rfl
    split
    · exact givenUp_custodial candidate
    · have binding := Custody.meets_of_quiet (bindLocal_only
        (fun _ _ _ => quiet_of_none rfl fun _ => rfl)
        (fun _ => quiet_of_mem held rfl (fun _ => rfl) rfl)
        (fun _ => quiet_of_none rfl fun _ => rfl) options address.family)
      refine Program.meets_bind_iff.mpr (binding.mono ?_)
      rintro after bound rfl
      split
      · exact givenUp_custodial candidate
      · cases hasRemote with
        | false => exact ⟨rfl, valid⟩
        | true =>
            apply Custody.meets_quiet (fun _ => rfl) rfl (usesLive_of_mem held rfl)
            intro connected
            cases connected with
            | error error => exact givenUp_custodial candidate
            | ok => exact ⟨rfl, valid⟩

private theorem tryAddresses_custodial (owns : OwnsSocket ∅ self) (hasRemote : Bool)
    (addresses : List AddrInfo) :
    Custodial (self.tryAddresses hasRemote addresses) ∅ fun after outcome =>
      OwnsSocket after outcome.2 := by
  refine meets_tryAddresses (· = ∅) ?_ ?_ rfl
  · rintro address _ world rfl
    refine (attempt_custodial self.options hasRemote address).mono fun after kept held => ?_
    cases kept with
    | none => exact held
    | some candidate =>
        obtain ⟨rfl, valid⟩ := held
        have real : (self.keep hasRemote candidate).socket_ ≠ kInvalidSocket := valid
        exact .opened rfl real
  · rintro world rfl
    exact owns

theorem open_custodial (owns : OwnsSocket live self) :
    Custodial self.open live fun after outcome => OwnsSocket after outcome.2 := by
  have form := self.open_form
  generalize self.open = program at form
  cases form with
  | alreadyOpen | invalid => exact owns
  | walking closed =>
      obtain rfl := owns.eq_empty closed
      refine Program.meets_bind_iff.mpr ((Custody.meets_of_quiet
        (resolveWalked_only (fun _ _ _ => quiet_of_none rfl fun _ => rfl) self.options)).mono ?_)
      rintro after walked rfl
      cases walked with
      | none => exact owns
      | some addresses =>
          refine Program.meets_bind_iff.mpr
            ((tryAddresses_custodial owns _ addresses.entries).mono fun after outcome owned => ?_)
          exact Custody.meets_quiet (fun _ => rfl) rfl (usesLive_of_none rfl) fun _ => owned

theorem close_custodial (owns : OwnsSocket live self) :
    Custodial self.close live fun after outcome => after = ∅ ∧ OwnsSocket after outcome.2 := by
  unfold UdpTransport.close
  cases owns with
  | closed _ invalid =>
      dsimp only
      rw [if_neg (not_not.mpr invalid)]
      exact ⟨rfl, .closed rfl rfl⟩
  | opened _ valid =>
      dsimp only
      rw [if_pos valid, closeNativeSocket_bind]
      exact Custody.meets_release_only (fun _ => rfl) rfl fun _ => ⟨rfl, .closed rfl rfl⟩

/-- A call that a closed object refuses, and that neither opens nor closes an open one. -/
private theorem standing_custodial {α : Type} {program : OsProgram α} (owns : OwnsSocket live self)
    (refused : self.open_ = false → ∃ result, program = .done result)
    (quiet : self.socket_ ∈ live → program.Only (descriptors.Quiet live)) :
    Custodial program live fun after _ => OwnsSocket after self := by
  cases opened : self.open_ with
  | false =>
      obtain ⟨result, rfl⟩ := refused opened
      exact owns
  | true =>
      refine (Custody.meets_of_quiet (quiet (owns.held opened))).mono ?_
      rintro after result rfl
      exact owns

theorem send_custodial (owns : OwnsSocket live self) (input : InputBuffer) :
    Custodial (self.send input) live fun after _ => OwnsSocket after self := by
  refine standing_custodial owns ?_ fun held => ?_
  · exact fun closed => ⟨.notOpen, by rw [send, if_pos closed]; rfl⟩
  · exact self.send_only input (fun _ => quiet_of_mem held rfl (fun _ => rfl) rfl)
      (fun _ _ => quiet_of_mem held rfl (fun _ => rfl) rfl) (quiet_of_none rfl fun _ => rfl)

theorem receive_custodial (owns : OwnsSocket live self) (output : OutputBuffer) :
    Custodial (self.receive output) live fun after _ => OwnsSocket after self := by
  refine standing_custodial owns ?_ fun held => ?_
  · exact fun closed => ⟨.empty .notOpen, by rw [receive, if_pos closed]; rfl⟩
  · exact self.receive_only output (fun _ => quiet_of_mem held rfl (fun _ => rfl) rfl)
      (quiet_of_mem held rfl (fun _ => rfl) rfl)
      (fun _ => quiet_of_mem held rfl (fun _ => rfl) rfl) (quiet_of_none rfl fun _ => rfl)

theorem localPort_custodial (owns : OwnsSocket live self) :
    Custodial self.localPort live fun after _ => OwnsSocket after self := by
  refine standing_custodial owns ?_ fun held => ?_
  · exact fun closed => ⟨0, by rw [localPort, if_pos closed]; rfl⟩
  · exact self.localPort_only (quiet_of_mem held rfl (fun _ => rfl) rfl)

theorem destroy_custodial (owns : OwnsSocket live self) :
    Custodial self.destroy live fun after _ => after = ∅ :=
  Program.meets_bind_iff.mpr ((close_custodial owns).mono fun _ _ closed => closed.1)

end UdpTransport

end DlmsTransport.Transport
