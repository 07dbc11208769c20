import DlmsTransport.Posix.Descriptors
import DlmsTransport.Transport.ServerSystem
import DlmsTransport.Transport.TcpOwnershipProperties
import Mathlib.Data.List.Forall2

/-! Client streams and accepted streams are interchangeable once they are connected:
the two copies of the stream operations do the same on either. -/

set_option autoImplicit false

namespace DlmsTransport.Transport

open Interaction Posix

namespace StreamMembers

variable {σ τ : Type} (first : StreamMembers σ) (second : StreamMembers τ)

/-- Objects of two classes in the same state, the second of them on the descriptor. -/
inductive Twins (fd : NativeSocket) (self : σ) (twin : τ) : Prop where
  | connected : first.isOpen self = true → second.isOpen twin = true →
      first.socket self ≠ kInvalidSocket → second.socket twin = fd → fd ≠ kInvalidSocket →
      first.readTimeout self = second.readTimeout twin →
      first.writeTimeout self = second.writeTimeout twin → Twins fd self twin
  | released : first.isOpen self = false → second.isOpen twin = false →
      first.socket self = kInvalidSocket → second.socket twin = kInvalidSocket →
      Twins fd self twin

/-- The same reply, and objects that stay twins. -/
def SameOutcome {ρ : Type} (fd : NativeSocket) (left : ρ × σ) (right : ρ × τ) : Prop :=
  left.1 = right.1 ∧ Twins first second fd left.2 right.2

variable {first second} {fd : NativeSocket} {self : σ} {twin : τ}

theorem Twins.isOpen_eq (twins : Twins first second fd self twin) :
    first.isOpen self = second.isOpen twin := by
  cases twins with
  | connected opened alsoOpened => rw [opened, alsoOpened]
  | released closed alsoClosed => rw [closed, alsoClosed]

theorem Twins.release (fd : NativeSocket) (self : σ) (twin : τ) :
    Twins first second fd (first.release self) (second.release twin) :=
  .released (by simp) (by simp) (by simp) (by simp)

abbrev Alike {α β : Type} (fd : NativeSocket) (Related : α → β → Prop) (left : OsProgram α)
    (right : OsProgram β) : Prop :=
  Program.Alike (onDescriptor fd) Related left right

section Rules

variable {α β : Type} {Related : α → β → Prop} {socket : NativeSocket}

theorem alike_select {forRead : Bool} {timeout : Timeval} {next : Int → OsProgram α}
    {following : Int → OsProgram β}
    (rest : ∀ result, Alike fd Related (next result) (following result)) :
    Alike fd Related (.call (.select socket forRead timeout) next)
      (.call (.select fd forRead timeout) following) :=
  ⟨following, rfl, rest⟩

theorem alike_recv {length : Nat} {next : Except Errno (Delivery length) → OsProgram α}
    {following : Except Errno (Delivery length) → OsProgram β}
    (rest : ∀ answer, Alike fd Related (next answer) (following answer)) :
    Alike fd Related (.call (.recv socket length) next) (.call (.recv fd length) following) :=
  ⟨following, rfl, rest⟩

theorem alike_send {slice : List UInt8} {length : Nat}
    {next : Except Errno (Fin (length + 1)) → OsProgram α}
    {following : Except Errno (Fin (length + 1)) → OsProgram β}
    (rest : ∀ answer, Alike fd Related (next answer) (following answer)) :
    Alike fd Related (.call (.send socket slice length) next)
      (.call (.send fd slice length) following) :=
  ⟨following, rfl, rest⟩

end Rules

theorem close_alike (twins : Twins first second fd self twin) :
    Alike fd (SameOutcome first second fd) (first.close self) (second.close twin) := by
  unfold close
  cases twins with
  | connected _ _ valid same alsoValid =>
      subst same
      rw [if_pos valid, if_pos alsoValid]
      exact ⟨_, rfl, fun _ => ⟨_, rfl, rfl, .release _ self twin⟩⟩
  | released _ _ invalid alsoInvalid =>
      rw [if_neg (not_not.mpr invalid), if_neg (not_not.mpr alsoInvalid)]
      exact ⟨_, rfl, rfl, .release _ self twin⟩

private theorem lastError_alike (errno : Option Errno) :
    Alike fd Eq (lastError errno) (lastError errno) := by
  cases errno with
  | some error => exact ⟨error, rfl, rfl⟩
  | none => exact ⟨_, rfl, fun error => ⟨error, rfl, rfl⟩⟩

private theorem concludeRead_alike (wouldBlock : first.isWouldBlock = second.isWouldBlock)
    (twins : Twins first second fd self twin) (received : Received) :
    Alike fd (SameOutcome first second fd) (first.concludeRead self received)
      (second.concludeRead twin received) := by
  unfold concludeRead
  split
  · exact ⟨_, rfl, rfl, twins⟩
  · split
    · apply (close_alike twins).bind
      intro left right closed
      exact ⟨_, rfl, rfl, closed.2⟩
    · apply (lastError_alike received.errno).bind
      intro error other same
      subst same
      rw [wouldBlock]
      exact ⟨_, rfl, rfl, twins⟩

theorem readSome_alike (wouldBlock : first.isWouldBlock = second.isWouldBlock)
    (twins : Twins first second fd self twin) (output : OutputBuffer) :
    Alike fd (SameOutcome first second fd) (first.readSome self output)
      (second.readSome twin output) := by
  have conclude := concludeRead_alike wouldBlock twins
  unfold readSome
  rw [twins.isOpen_eq]
  split
  · exact ⟨_, rfl, rfl, twins⟩
  · next opened =>
    split
    · exact ⟨_, rfl, rfl, twins⟩
    · split
      · exact ⟨_, rfl, rfl, twins⟩
      · cases twins with
        | released _ closed => exact absurd closed opened
        | connected isOpen alsoOpen valid same alsoValid reads writes =>
            have twins : Twins first second fd self twin :=
              .connected isOpen alsoOpen valid same alsoValid reads writes
            rw [same, reads, waitForDescriptor_bind, waitForDescriptor_bind]
            apply alike_select
            intro result
            split
            · exact ⟨_, rfl, rfl, twins⟩
            · rw [receiveInt_bind, receiveInt_bind]
              exact alike_recv fun answer => conclude (.ofInt answer)

private theorem writeIteration_alike (isWouldBlock : Errno → Bool) (socket : NativeSocket)
    (timeout : TransportDuration) (input : List UInt8) (written : Nat) :
    Alike fd Eq (writeIteration socket timeout (sendInt socket) isWouldBlock input written)
      (writeIteration fd timeout (sendInt fd) isWouldBlock input written) := by
  rw [writeIteration, writeIteration, waitForDescriptor_bind, waitForDescriptor_bind]
  apply alike_select
  intro result
  split
  · exact ⟨_, rfl, rfl⟩
  · rw [sendInt_eq, sendInt_eq, Program.call_bind, Program.call_bind]
    apply alike_send
    intro answer
    rw [Program.done_bind]
    generalize Transferred.ofInt answer = chunk
    split
    · exact ⟨_, rfl, rfl⟩
    · split
      · exact ⟨_, rfl, rfl⟩
      · apply (lastError_alike chunk.errno).bind
        intro error other same
        subst same
        exact ⟨_, rfl, rfl⟩

private theorem writeLoop_alike {isWouldBlock alsoWouldBlock : Errno → Bool}
    (wouldBlock : isWouldBlock = alsoWouldBlock) (socket : NativeSocket)
    (timeout : TransportDuration) (input : List UInt8) (budget written : Nat) :
    Alike fd Eq (writeLoop socket timeout (sendInt socket) isWouldBlock input budget written)
      (writeLoop fd timeout (sendInt fd) alsoWouldBlock input budget written) := by
  subst wouldBlock
  induction budget generalizing written with
  | zero =>
      rw [writeLoop, writeLoop]
      split
      · rfl
      · exact ⟨_, rfl, rfl⟩
  | succ budget ih =>
      rw [writeLoop_succ, writeLoop_succ]
      split
      · apply (writeIteration_alike isWouldBlock socket timeout input written).bind
        intro outcome other same
        subst same
        cases outcome with
        | again written => exact ih written
        | returned status => exact ⟨_, rfl, rfl⟩
      · exact ⟨_, rfl, rfl⟩

theorem writeAll_alike (wouldBlock : first.isWouldBlock = second.isWouldBlock)
    (sending : first.transmit = sendInt) (alsoSending : second.transmit = sendInt)
    (twins : Twins first second fd self twin) (input : InputBuffer) (budget : Nat) :
    Alike fd Eq (first.writeAll self input budget) (second.writeAll twin input budget) := by
  unfold writeAll
  rw [twins.isOpen_eq]
  split
  · exact ⟨_, rfl, rfl⟩
  · next opened =>
    split
    · exact ⟨_, rfl, rfl⟩
    · cases twins with
      | released _ closed => exact absurd closed opened
      | connected _ _ _ same _ _ writes =>
          rw [sending, alsoSending, same, writes]
          exact writeLoop_alike wouldBlock _ _ _ budget 0

end StreamMembers

/-- A client stream and an accepted stream in the same state. -/
abbrev StreamTwins : NativeSocket → TcpStreamTransport → AcceptedTcpStream → Prop :=
  StreamMembers.Twins TcpStreamTransport.members AcceptedTcpStream.members

/-- The methods of the two classes run alike, apart from `Open`, which only a client
stream can do again. -/
theorem streams_interchange (fd : NativeSocket) :
    Interchanges (onDescriptor fd) (StreamTwins fd) TcpStreamTransport.invoke
      AcceptedTcpStream.invoke (· ≠ .open) := by
  intro client accepted method twins reopens
  have wouldBlock : TcpStreamTransport.members.isWouldBlock =
      AcceptedTcpStream.members.isWouldBlock := rfl
  cases method with
  | «open» => exact absurd rfl reopens
  | close =>
      apply (StreamMembers.close_alike twins).map
      intro left right same
      exact ⟨congrArg StreamReply.status same.1, same.2⟩
  | isOpen => exact ⟨_, rfl, congrArg StreamReply.flag twins.isOpen_eq, twins⟩
  | readSome output =>
      apply (StreamMembers.readSome_alike wouldBlock twins output).map
      intro left right same
      exact ⟨congrArg StreamReply.read same.1, same.2⟩
  | writeAll input budget =>
      refine (StreamMembers.writeAll_alike wouldBlock rfl rfl twins input budget).map
        fun left right same => ?_
      exact ⟨congrArg StreamReply.status same, twins⟩

/-- An `Open` that succeeds leaves the stream open on a descriptor. -/
theorem TcpStreamTransport.open_valid (self : TcpStreamTransport) :
    self.open.Ensures fun _ outcome =>
      outcome.1 = .ok → outcome.2.open_ = true ∧ outcome.2.socket_ ≠ kInvalidSocket := by
  refine self.open_settles.mono fun _ outcome settled succeeded => ?_
  rcases settled with ⟨already, _⟩ | failed | opened
  · simp [already] at succeeded
  · exact absurd succeeded failed.1
  · exact opened

/-- The connection that an `Accept` leaves is open on a descriptor. -/
theorem TcpServerTransport.accept_valid (self : TcpServerTransport)
    (connection : Option (OsProgram Unit)) :
    (self.accept connection).Ensures fun _ outcome => ∀ stream, outcome.2 = some stream →
      stream.open_ = true ∧ stream.socket_ ≠ kInvalidSocket := by
  have fresh : (self.accept none).Ensures fun _ outcome => ∀ stream, outcome.2 = some stream →
      stream.open_ = true ∧ stream.socket_ ≠ kInvalidSocket := by
    rw [accept, resetConnection, Program.pure_eq, Program.done_bind]
    split
    · exact Program.ensures_done_iff.mpr nofun
    · rw [waitForDescriptor_bind, Program.ensures_call_iff]
      intro result
      split
      · exact Program.ensures_done_iff.mpr nofun
      · split
        · exact Program.ensures_done_iff.mpr nofun
        · rw [Program.ask_bind, Program.ensures_call_iff]
          intro answer
          cases answer with
          | error error => exact Program.ensures_done_iff.mpr nofun
          | ok fd =>
              dsimp only
              rw [Program.ensures_bind_iff]
              intro _ nonBlocking _
              split
              · rw [closeNativeSocket_bind, Program.ensures_call_iff]
                exact fun _ => Program.ensures_done_iff.mpr nofun
              · rw [Program.ask_bind, Program.ensures_call_iff]
                intro (allocated : Bool)
                split
                · refine Program.ensures_done_iff.mpr fun stream same => ?_
                  cases same
                  exact ⟨rfl, nativeSocket_some_ne fd⟩
                · exact Program.ensures_done_iff.mpr nofun
  rw [accept_eq, Program.ensures_bind_iff]
  exact fun _ _ _ => fresh

/-- The two calls are the same: the OS calls up to the descriptor, the reply with
its bytes, and whether the stream is open afterwards. -/
structure SameCall (fd : NativeSocket) (client : TcpInvocation) (accepted : AcceptedInvocation) :
    Prop where
  method : client.method = accepted.method
  trace : (onDescriptor fd).trace client.trace = accepted.trace
  reply : client.reply = accepted.reply
  isOpen : client.after.isOpen = accepted.after.isOpen

/-- Each run of the one is a run of the other, on the other's descriptor. The last
operation may be unfinished. -/
structure StreamsInterchangeable (client : TcpStreamTransport) (accepted : AcceptedTcpStream) :
    Prop where
  followed : ∀ history final, Session TcpStreamTransport.invoke client history final →
    (∀ invocation ∈ history, invocation.method ≠ .open) →
    ∃ shadow last, Session AcceptedTcpStream.invoke accepted shadow last ∧
      List.Forall₂ (SameCall accepted.socket_) history shadow ∧
      ∀ method trace, method ≠ .open → (final.invoke method).Emits trace →
        (last.invoke method).Emits ((onDescriptor accepted.socket_).trace trace)
  shadowed : ∀ shadow last, Session AcceptedTcpStream.invoke accepted shadow last →
    (∀ invocation ∈ shadow, invocation.method ≠ .open) →
    ∃ history final, Session TcpStreamTransport.invoke client history final ∧
      List.Forall₂ (SameCall accepted.socket_) history shadow ∧
      ∀ method trace, method ≠ .open → (last.invoke method).Emits trace →
        ∃ original, trace = (onDescriptor accepted.socket_).trace original ∧
          (final.invoke method).Emits original

private theorem sameCalls {fd : NativeSocket} {history : List TcpInvocation}
    {shadow : List AcceptedInvocation}
    (matching : List.Forall₂ (Matching (onDescriptor fd) (StreamTwins fd)) history shadow) :
    List.Forall₂ (SameCall fd) history shadow := by
  refine List.Forall₂.imp (fun left right same => ?_) matching
  exact ⟨same.method, same.trace, same.reply, same.after.isOpen_eq⟩

/-- A client stream just opened and a stream just accepted, with equal timeouts, are
interchangeable. -/
theorem streams_interchangeable {before client : TcpStreamTransport} {openTrace : OsTrace}
    {server : TcpServerTransport} {connection : Option (OsProgram Unit)} {acceptTrace : OsTrace}
    {accepted : AcceptedTcpStream} (opened : before.open.Runs openTrace (.ok, client))
    (taken : (server.accept connection).Runs acceptTrace (some .ok, some accepted))
    (reads : client.options.readTimeout = accepted.readTimeout_)
    (writes : client.options.writeTimeout = accepted.writeTimeout_) :
    StreamsInterchangeable client accepted := by
  obtain ⟨isOpen, valid⟩ := before.open_valid _ _ opened rfl
  obtain ⟨alsoOpen, alsoValid⟩ := server.accept_valid connection _ _ taken accepted rfl
  have twins : StreamTwins accepted.socket_ client accepted :=
    .connected isOpen alsoOpen valid rfl alsoValid reads writes
  have interchanges := streams_interchange accepted.socket_
  constructor
  · intro history final session reopens
    obtain ⟨shadow, last, shadowing, matching, still⟩ :=
      session.followed interchanges twins reopens
    refine ⟨shadow, last, shadowing, sameCalls matching, fun method trace other emitted => ?_⟩
    exact (interchanges final last method still other).emits emitted
  · intro shadow last session reopens
    obtain ⟨history, final, following, matching, still⟩ :=
      session.shadowed interchanges twins reopens
    refine ⟨history, final, following, sameCalls matching, fun method trace other emitted => ?_⟩
    exact (interchanges final last method still other).emitted emitted

theorem streams_interchangeable_meter : StreamsInterchangeable meterStream meterConnection :=
  streams_interchangeable (TcpStreamTransport.open_connects meterOptions_valid 0 meterAddress 3)
    meterServer_accepts rfl rfl

end DlmsTransport.Transport
