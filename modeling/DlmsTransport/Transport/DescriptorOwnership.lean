import DlmsTransport.Posix.Descriptors
import DlmsTransport.Transport.DescriptorStream

/-! What a stream object owns: its socket is the only live descriptor while it is
open, and there is none while it is closed. The stream operations keep it so. -/

set_option autoImplicit false

namespace DlmsTransport.Transport

open Interaction Posix

theorem setNonBlocking_custodial {live : Set Int} {socket : NativeSocket} (held : socket ∈ live) :
    Custodial (setNonBlocking socket) live fun after _ => after = live := by
  unfold setNonBlocking
  rw [Program.ask_bind]
  apply Custody.meets_quiet (fun _ => rfl) rfl (usesLive_of_mem held rfl)
  intro (flags : Int)
  split
  · exact Custody.meets_quiet (fun _ => rfl) rfl (usesLive_of_mem held rfl) fun _ => rfl
  · rfl

/-- A `socket` call of an owner of nothing hands it its only descriptor. -/
theorem socket_custodial {α : Type} {post : Set Int → α → Prop} {family : Family}
    {socktype : SocketType} {protocol : Protocol} {next : Option Nat → OsProgram α}
    (refused : Custodial (next none) ∅ post)
    (handedOut : ∀ fd : Nat, Custodial (next (some fd)) {nativeSocket (some fd)} post) :
    Custodial (.call (.socket family socktype protocol) next) ∅ post := by
  refine Program.meets_call_iff.mpr ⟨usesLive_of_none rfl, ?_⟩
  intro (answer : Option Nat) after stepped
  cases answer with
  | none =>
      obtain rfl := (Custody.ledger_step_quiet rfl rfl).mp stepped
      exact refused
  | some fd =>
      obtain ⟨_, rfl⟩ := (Custody.ledger_step_obtain rfl).mp stepped
      have single : insert (fd : Int) ∅ = ({nativeSocket (some fd)} : Set Int) := by
        simp [nativeSocket]
      rw [single]
      exact handedOut fd

namespace StreamMembers

variable {σ : Type} (members : StreamMembers σ)

inductive Owns : Set Int → σ → Prop where
  | closed {self} : members.isOpen self = false → members.socket self = kInvalidSocket →
      Owns ∅ self
  | open {self} : members.isOpen self = true → members.socket self ≠ kInvalidSocket →
      Owns {members.socket self} self

variable {members}

theorem Owns.released (self : σ) : members.Owns ∅ (members.release self) :=
  .closed (by simp) (by simp)

theorem Owns.ofOpen {live : Set Int} {self : σ} (opened : members.isOpen self = true)
    (valid : members.socket self ≠ kInvalidSocket) (single : live = {members.socket self}) :
    members.Owns live self :=
  single ▸ .open opened valid

theorem Owns.isOpen_iff {live : Set Int} {self : σ} (owns : members.Owns live self) :
    members.isOpen self = true ↔ members.socket self ∈ live := by
  cases owns with
  | closed closed _ => simp [closed]
  | «open» opened _ => simp [opened]

theorem Owns.subset {live : Set Int} {self : σ} (owns : members.Owns live self) :
    live ⊆ {members.socket self} := by
  cases owns with
  | closed => exact Set.empty_subset _
  | «open» => exact subset_rfl

theorem Owns.eq_empty {live : Set Int} {self : σ} (owns : members.Owns live self)
    (closed : members.isOpen self = false) : live = ∅ := by
  cases owns with
  | closed => rfl
  | «open» opened => simp [closed] at opened

theorem close_custodial {live : Set Int} {self : σ} (owns : members.Owns live self) :
    Custodial (members.close self) live fun after outcome =>
      after = ∅ ∧ outcome = (.ok, members.release self) := by
  unfold close
  cases owns with
  | closed _ invalid => simp [invalid]
  | «open» _ valid =>
      rw [if_pos valid]
      exact Custody.meets_release_only (fun _ => rfl) rfl fun _ => And.intro rfl rfl

theorem close_owns {live : Set Int} {self : σ} (owns : members.Owns live self) :
    Custodial (members.close self) live fun after outcome => members.Owns after outcome.2 := by
  apply (close_custodial owns).mono
  intro after outcome closed
  obtain ⟨rfl, rfl⟩ := closed
  exact .released self

theorem concludeRead_custodial {live : Set Int} {self : σ} (owns : members.Owns live self)
    (received : Received) :
    Custodial (members.concludeRead self received) live fun after outcome =>
      members.Owns after outcome.2 := by
  have form := members.concludeRead_form self received
  generalize members.concludeRead self received = program at form
  cases form with
  | delivered => exact owns
  | ended _ valid =>
      cases owns with
      | closed _ invalid => contradiction
      | «open» =>
          exact Custody.meets_release_only (fun _ => rfl) rfl fun _ => Owns.released self
  | endedUnowned _ invalid =>
      cases owns with
      | closed => exact Owns.released self
      | «open» _ valid => contradiction
  | failed => exact owns
  | unexplained =>
      exact Custody.meets_quiet (fun _ => rfl) rfl (usesLive_of_none rfl) fun _ => owns

theorem readSome_custodial {live : Set Int} {self : σ} (owns : members.Owns live self)
    (output : OutputBuffer) :
    Custodial (members.readSome self output) live fun after outcome =>
      members.Owns after outcome.2 := by
  have form := members.readSome_form self output
  generalize members.readSome self output = program at form
  cases form with
  | refused => exact owns
  | waiting opened =>
      have held := owns.isOpen_iff.mp opened
      apply Custody.meets_quiet (fun _ => rfl) rfl (usesLive_of_mem held rfl)
      intro (result : Int)
      split
      · exact Custody.meets_quiet (fun _ => rfl) rfl (usesLive_of_mem held rfl) fun answer =>
          concludeRead_custodial owns _
      · exact owns

private theorem writeLoop_custodial {live : Set Int} {socket : NativeSocket}
    (held : socket ∈ live) (timeout : TransportDuration) (isWouldBlock : Errno → Bool)
    (input : List UInt8) (budget written : Nat) :
    Custodial (writeLoop socket timeout (sendInt socket) isWouldBlock input budget written) live
      fun after _ => after = live := by
  apply writeLoop_meets_of fun _ _ after => after = live
  · exact fun _ _ _ same _ => same
  · exact fun _ _ _ _ => trivial
  · intro budget written after same _
    subst same
    rw [writeIteration, waitForDescriptor_bind]
    apply Custody.meets_quiet (fun _ => rfl) rfl (usesLive_of_mem held rfl)
    intro result
    split
    · rfl
    · rw [sendInt_eq, Program.call_bind]
      apply Custody.meets_quiet (fun _ => rfl) rfl (usesLive_of_mem held rfl)
      intro answer
      rw [Program.done_bind]
      generalize Transferred.ofInt answer = chunk
      split
      · rfl
      · split
        · rfl
        · cases chunk.errno with
          | some error =>
              simp only [lastError, Program.pure_eq, Program.done_bind]
              split <;> rfl
          | none =>
              simp only [lastError]
              rw [Program.ask_bind]
              apply Custody.meets_quiet (fun _ => rfl) rfl (usesLive_of_none rfl)
              intro error
              split <;> rfl
  · rfl

theorem writeAll_custodial (sending : ∀ socket, members.transmit socket = sendInt socket)
    {live : Set Int} {self : σ} (owns : members.Owns live self) (input : InputBuffer)
    (budget : Nat) :
    Custodial (members.writeAll self input budget) live fun after _ => members.Owns after self := by
  unfold writeAll
  split
  · exact owns
  · next opened =>
    split
    · exact owns
    · have held := owns.isOpen_iff.mp (by simpa using opened)
      rw [sending]
      apply (writeLoop_custodial held _ _ _ budget 0).mono
      intro after status same
      exact same ▸ owns

private theorem concludeRead_releases (self : σ) (received : Received) :
    (members.concludeRead self received).Ensures fun _ outcome =>
      outcome.1.status = .connectionClosed → members.isOpen outcome.2 = false := by
  have form := members.concludeRead_form self received
  generalize members.concludeRead self received = program at form
  cases form with
  | delivered => exact Program.ensures_done_iff.mpr nofun
  | ended =>
      rw [Program.ensures_call_iff]
      exact fun _ => Program.ensures_done_iff.mpr fun _ => members.isOpen_release self
  | endedUnowned => exact Program.ensures_done_iff.mpr fun _ => members.isOpen_release self
  | failed =>
      rw [Program.ensures_done_iff]
      split <;> simp
  | unexplained =>
      rw [Program.ensures_call_iff]
      intro error
      rw [Program.ensures_done_iff]
      split <;> simp

theorem readSome_releases (self : σ) (output : OutputBuffer) :
    (members.readSome self output).Ensures fun _ outcome =>
      outcome.1.status = .connectionClosed → members.isOpen outcome.2 = false := by
  have form := members.readSome_form self output
  generalize members.readSome self output = program at form
  cases form with
  | refused refusal => cases refusal <;> simp
  | waiting =>
      rw [Program.ensures_call_iff]
      intro (result : Int)
      split
      · rw [Program.ensures_call_iff]
        intro answer
        exact concludeRead_releases self (.ofInt answer)
      · next unready =>
        refine Program.ensures_done_iff.mpr fun ended => ?_
        have unready : waitStatus true result ≠ .connectionClosed := by
          simp only [waitStatus]
          split
          · simp
          · split <;> simp
        exact absurd ended unready

end StreamMembers

end DlmsTransport.Transport
