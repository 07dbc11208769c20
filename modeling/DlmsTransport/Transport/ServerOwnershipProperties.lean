import DlmsTransport.Interaction.Sharing
import DlmsTransport.Transport.DescriptorOwnership
import DlmsTransport.Transport.ServerSystem

/-! Descriptor ownership of a listener and the streams it accepts, over runs that
interleave them in any order. -/

set_option autoImplicit false

namespace DlmsTransport.Transport

open Interaction Posix

/-- The descriptor that a destructor would close. -/
def heldSocket (socket : NativeSocket) : Option NativeSocket :=
  if socket = kInvalidSocket then none else some socket

@[simp] theorem heldSocket_invalid : heldSocket kInvalidSocket = none := rfl

theorem heldSocket_of_ne {socket : NativeSocket} (valid : socket ≠ kInvalidSocket) :
    heldSocket socket = some socket :=
  if_neg valid

theorem StreamMembers.Owns.mem_iff {σ : Type} {members : StreamMembers σ} {own : Set Int} {self : σ}
    (owns : members.Owns own self) (fd : Int) :
    fd ∈ own ↔ heldSocket (members.socket self) = some fd := by
  cases owns with
  | closed _ invalid => simp [invalid]
  | «open» _ valid => simp [heldSocket_of_ne valid, eq_comm]

namespace AcceptedTcpStream

theorem invoke_custodial {own : Set Int} {self : AcceptedTcpStream}
    (owns : members.Owns own self) (method : StreamMethod) :
    Custodial (self.invoke method) own fun after outcome => members.Owns after outcome.2 := by
  cases method with
  | «open» => exact owns
  | close => exact Program.meets_map_iff.mpr (StreamMembers.close_owns owns)
  | isOpen => exact owns
  | readSome output =>
      exact Program.meets_map_iff.mpr (StreamMembers.readSome_custodial owns output)
  | writeAll input budget =>
      exact Program.meets_map_iff.mpr
        (StreamMembers.writeAll_custodial (fun _ => rfl) owns input budget)

theorem destroy_custodial {own : Set Int} {self : AcceptedTcpStream}
    (owns : members.Owns own self) : Custodial self.destroy own fun after _ => after = ∅ := by
  refine Program.meets_bind_iff.mpr ((StreamMembers.close_custodial owns).mono ?_)
  intro after outcome closed
  exact closed.1

end AcceptedTcpStream

namespace TcpServerTransport

/-- A closed listener owns nothing and has forgotten its port. -/
inductive Owns : Set Int → TcpServerTransport → Prop where
  | closed {options} : Owns ∅ (.new options)
  | opened {self} : self.open_ = true → self.socket_ ≠ kInvalidSocket → Owns {self.socket_} self

variable {own : Set Int} {self : TcpServerTransport}

theorem Owns.mem_iff (owns : Owns own self) (fd : Int) :
    fd ∈ own ↔ heldSocket self.socket_ = some fd := by
  cases owns with
  | closed => simp [new]
  | opened _ valid => simp [heldSocket_of_ne valid, eq_comm]

theorem Owns.ofOpen (opened : self.open_ = true) (valid : self.socket_ ≠ kInvalidSocket)
    (single : own = {self.socket_}) : Owns own self :=
  single ▸ .opened opened valid

theorem Owns.socket_mem (owns : Owns own self) (opened : self.open_ = true) :
    self.socket_ ∈ own := by
  cases owns with
  | closed => cases opened
  | opened => rfl

theorem Owns.isOpen_iff (owns : Owns own self) :
    self.isOpen = true ↔ (heldSocket self.socket_).isSome = true := by
  cases owns with
  | closed => simp [new, isOpen]
  | opened opened valid => simp [isOpen, opened, heldSocket_of_ne valid]

theorem Owns.localPort_eq (owns : Owns own self) (closed : self.isOpen = false) :
    self.localPort = 0 := by
  cases owns with
  | closed => rfl
  | opened opened => exact absurd opened (by simpa [isOpen] using closed)

private theorem tryNext_custodial {candidate : NativeSocket} {owner : TcpServerTransport}
    {rest : List AddrInfo}
    (next : Custodial (owner.tryAddresses rest) ∅ fun after outcome => Owns after outcome.2) :
    Custodial (do
      closeNativeSocket candidate
      owner.tryAddresses rest) {candidate} fun after outcome => Owns after outcome.2 :=
  Custody.meets_release_only (fun _ => rfl) rfl fun _ => next

private theorem keep_custodial {candidate : NativeSocket} (valid : candidate ≠ kInvalidSocket)
    (owner : TcpServerTransport) :
    Custodial (do
      let port ← socketLocalPort candidate
      pure (TransportStatus.ok,
        { owner with socket_ := candidate, open_ := true, localPort_ := port })) {candidate}
      fun after outcome => Owns after outcome.2 := by
  unfold socketLocalPort
  rw [bind_assoc, Program.ask_bind]
  have held : candidate ∈ ({candidate} : Set Int) := rfl
  have kept (port : UInt16) : Owns {candidate}
      { owner with socket_ := candidate, open_ := true, localPort_ := port } :=
    .ofOpen rfl valid rfl
  apply Custody.meets_quiet (fun _ => rfl) rfl (usesLive_of_mem held rfl)
  intro answer
  split
  · exact kept _
  · exact kept _
  · exact kept 0

theorem tryAddresses_custodial (owns : Owns ∅ self) (addresses : List AddrInfo) :
    Custodial (self.tryAddresses addresses) ∅ fun after outcome => Owns after outcome.2 := by
  induction addresses with
  | nil => exact owns
  | cons address rest ih =>
      rw [tryAddresses, Program.ask_bind]
      apply socket_custodial ih
      intro fd
      have valid := nativeSocket_some_ne fd
      generalize nativeSocket (some fd) = candidate at valid
      have held : candidate ∈ ({candidate} : Set Int) := rfl
      dsimp only
      rw [if_neg valid, Program.ask_bind]
      apply Custody.meets_quiet (fun _ => rfl) rfl (usesLive_of_mem held rfl)
      intro _
      refine Program.meets_bind_iff.mpr ((setNonBlocking_custodial held).mono ?_)
      intro after nonBlocking same
      subst same
      split
      · exact tryNext_custodial ih
      · rw [Program.ask_bind]
        apply Custody.meets_quiet (fun _ => rfl) rfl (usesLive_of_mem held rfl)
        intro (bound : Int)
        split
        · exact tryNext_custodial ih
        · rw [Program.ask_bind]
          apply Custody.meets_quiet (fun _ => rfl) rfl (usesLive_of_mem held rfl)
          intro (listening : Int)
          split
          · exact tryNext_custodial ih
          · exact keep_custodial valid self

theorem open_custodial (owns : Owns own self) :
    Custodial self.open own fun after outcome => Owns after outcome.2 := by
  unfold TcpServerTransport.open
  split
  · exact owns
  · next closed =>
    split
    · exact owns
    · rw [Program.ask_bind]
      apply Custody.meets_quiet (fun _ => rfl) rfl (usesLive_of_none rfl)
      intro resolved
      cases owns with
      | opened opened => exact absurd opened closed
      | closed =>
          cases resolved with
          | none => exact Owns.closed
          | some addresses =>
              refine Program.meets_bind_iff.mpr ((tryAddresses_custodial .closed _).mono ?_)
              intro after outcome owned
              exact Custody.meets_quiet (fun _ => rfl) rfl (usesLive_of_none rfl) fun _ => owned

theorem close_custodial (owns : Owns own self) :
    Custodial self.close own fun after outcome => after = ∅ ∧ Owns after outcome.2 := by
  unfold TcpServerTransport.close
  cases owns with
  | closed => exact ⟨rfl, .closed⟩
  | opened _ valid =>
      rw [if_pos valid, closeNativeSocket_bind]
      exact Custody.meets_release_only (fun _ => rfl) rfl fun _ => ⟨rfl, Owns.closed⟩

theorem invoke_custodial (owns : Owns own self) (method : TcpServerMethod) :
    Custodial (self.invoke method) own fun after outcome => Owns after outcome.2 := by
  cases method with
  | «open» => exact Program.meets_map_iff.mpr (open_custodial owns)
  | close =>
      refine Program.meets_map_iff.mpr ((close_custodial owns).mono fun after outcome closed => ?_)
      exact closed.2
  | isOpen => exact owns
  | localPort => exact owns

theorem destroy_custodial (owns : Owns own self) :
    Custodial self.destroy own fun after _ => after = ∅ := by
  refine Program.meets_bind_iff.mpr ((close_custodial owns).mono fun after outcome closed => ?_)
  exact closed.1

end TcpServerTransport

/-- `new` does not throw. -/
def Allocates : (request : OsCall) → request.Answer → Prop
  | .allocate, allocated => allocated = true
  | _, _ => True

abbrev serverWorld : Environment OsCall OsCall.Answer (Set Int) :=
  descriptors.ledger.assuming Allocates

abbrev ServerKeeps {α : Type} (program : OsProgram α) (live : Set Int)
    (post : Set Int → α → Prop) : Prop :=
  program.Meets serverWorld descriptors.guarantee post live

private theorem serverKeeps_quiet {α : Type} {post : Set Int → α → Prop} {request : OsCall}
    {next : request.Answer → OsProgram α} {live : Set Int}
    (obtains : ∀ answer, descriptors.obtains request answer = none)
    (releases : descriptors.releases request = none)
    (uses : descriptors.UsesLive live request)
    (rest : ∀ answer, Allocates request answer → ServerKeeps (next answer) live post) :
    ServerKeeps (.call request next) live post := by
  refine ⟨uses, fun answer after stepped => ?_⟩
  obtain rfl := (Custody.ledger_step_quiet (obtains answer) releases).mp stepped.2
  exact rest answer stepped.1

/-- What an `Accept` that found its pointer empty leaves. -/
def AcceptOutcome (live after : Set Int) : Option AcceptedTcpStream → Prop
  | none => after = live
  | some stream => ∃ fd ∉ live, after = insert fd live ∧ AcceptedTcpStream.members.Owns {fd} stream

theorem TcpServerTransport.accept_keeps {self : TcpServerTransport} {live : Set Int}
    (held : self.open_ = true → self.socket_ ∈ live) :
    ServerKeeps (self.accept none) live fun after outcome =>
      AcceptOutcome live after outcome.2 := by
  rw [accept, resetConnection, Program.pure_eq, Program.done_bind]
  split
  · rfl
  · next opened =>
    have held := held (by simpa using opened)
    rw [waitForDescriptor_bind]
    apply serverKeeps_quiet (fun _ => rfl) rfl (usesLive_of_mem held rfl)
    intro result _
    split
    · rfl
    · split
      · rfl
      · rw [Program.ask_bind]
        refine ⟨usesLive_of_mem held rfl, fun answer after stepped => ?_⟩
        cases answer with
        | error error => exact (Custody.ledger_step_quiet rfl rfl).mp stepped.2
        | ok fd =>
            obtain ⟨fresh, rfl⟩ := (Custody.ledger_step_obtain rfl).mp stepped.2
            have taken : (fd : Int) ∈ insert (fd : Int) live := Set.mem_insert _ _
            refine Program.meets_bind_iff.mpr
              (((setNonBlocking_custodial taken).assuming Allocates).mono ?_)
            intro after nonBlocking same
            subst same
            split
            · rw [closeNativeSocket_bind]
              refine ⟨usesLive_of_mem taken rfl, fun answer after stepped => ?_⟩
              obtain rfl := (Custody.ledger_step_release rfl rfl).mp stepped.2
              have removed : insert (fd : Int) live \ {(fd : Int)} = live := by simp [fresh]
              exact removed
            · rw [Program.ask_bind]
              apply serverKeeps_quiet (fun _ => rfl) rfl (usesLive_of_none rfl)
              intro allocated succeeds
              rw [show allocated = true from succeeds, if_pos rfl]
              exact ⟨fd, fresh, rfl, .ofOpen rfl (nativeSocket_some_ne fd) rfl⟩

inductive ServerOwner where
  | listener
  | stream (slot : Nat)
  deriving DecidableEq, Repr

/-- What an object that need not exist owns. -/
def Holding {σ : Type} (owns : Set Int → σ → Prop) (own : Set Int) : Option σ → Prop
  | none => own = ∅
  | some object => owns own object

namespace ServerSystem

def descriptor? (self : ServerSystem) : ServerOwner → Option NativeSocket
  | .listener => self.listener.bind fun listener => heldSocket listener.socket_
  | .stream slot => (self.streams slot).bind fun stream => heldSocket stream.socket_

/-- Every object owns its share. -/
structure Holds (system : ServerSystem) (share : ServerOwner → Set Int) : Prop where
  listener : Holding TcpServerTransport.Owns (share .listener) system.listener
  streams : ∀ slot,
    Holding AcceptedTcpStream.members.Owns (share (.stream slot)) (system.streams slot)

def Owns (live : Set Int) (self : ServerSystem) : Prop :=
  ∃ share, Custody.Divides share live ∧ self.Holds share

variable {self : ServerSystem} {share : ServerOwner → Set Int} {live own : Set Int}

theorem Holds.mem_iff (holds : self.Holds share) (owner : ServerOwner) (fd : Int) :
    fd ∈ share owner ↔ self.descriptor? owner = some fd := by
  cases owner with
  | listener =>
      have holding := holds.listener
      rw [descriptor?]
      cases present : self.listener with
      | none =>
          rw [present] at holding
          simp [show share .listener = ∅ from holding]
      | some listener =>
          rw [present] at holding
          exact TcpServerTransport.Owns.mem_iff holding fd
  | stream slot =>
      have holding := holds.streams slot
      rw [descriptor?]
      cases present : self.streams slot with
      | none =>
          rw [present] at holding
          simp [show share (.stream slot) = ∅ from holding]
      | some stream =>
          rw [present] at holding
          exact StreamMembers.Owns.mem_iff holding fd

theorem Holds.setListener (holds : self.Holds share) {listener : Option TcpServerTransport}
    (holding : Holding TcpServerTransport.Owns own listener) :
    (self.setListener listener).Holds (Function.update share .listener own) where
  listener := by simpa using holding
  streams slot := by simpa using holds.streams slot

theorem Holds.setStream (holds : self.Holds share) {slot : Nat} {stream : Option AcceptedTcpStream}
    (holding : Holding AcceptedTcpStream.members.Owns own stream) :
    (self.setStream slot stream).Holds (Function.update share (.stream slot) own) where
  listener := by simpa using holds.listener
  streams other := by
    by_cases same : other = slot
    · subst same
      simpa using holding
    · simpa [same, streams_setStream_ne] using holds.streams other

private theorem acceptEmpty_keeps (divides : Custody.Divides share live)
    (holds : self.Holds share) {listener : TcpServerTransport}
    (listening : self.listener = some listener) {slot : Nat} (empty : self.streams slot = none) :
    ServerKeeps (listener.accept none) live fun after outcome =>
      (self.setStream slot outcome.2).Owns after := by
  have owned : TcpServerTransport.Owns (share .listener) listener := by
    simpa [listening, Holding] using holds.listener
  have nothing : share (.stream slot) = ∅ := by
    simpa [empty, Holding] using holds.streams slot
  have held (opened : listener.open_ = true) : listener.socket_ ∈ live :=
    divides.mem_iff.mpr ⟨_, owned.socket_mem opened⟩
  apply (TcpServerTransport.accept_keeps held).mono
  intro after outcome accepted
  cases taken : outcome.2 with
  | none =>
      rw [taken] at accepted
      obtain rfl : after = live := accepted
      exact ⟨_, divides.update_empty nothing, holds.setStream rfl⟩
  | some stream =>
      rw [taken] at accepted
      obtain ⟨fd, fresh, rfl, owns⟩ := accepted
      exact ⟨_, divides.grant nothing fresh, holds.setStream owns⟩

/-- `Accept` closes what its pointer held and gives it the new descriptor. -/
private theorem accept_keeps (divides : Custody.Divides share live) (holds : self.Holds share)
    {listener : TcpServerTransport} (listening : self.listener = some listener) (slot : Nat) :
    ServerKeeps (listener.accept ((self.streams slot).map AcceptedTcpStream.destroy)) live
      fun after outcome => (self.setStream slot outcome.2).Owns after := by
  cases occupied : self.streams slot with
  | none => exact acceptEmpty_keeps divides holds listening occupied
  | some earlier =>
      have owned : AcceptedTcpStream.members.Owns (share (.stream slot)) earlier := by
        simpa [occupied, Holding] using holds.streams slot
      rw [TcpServerTransport.accept_eq, Option.map_some, resetConnection]
      refine Program.meets_bind_iff.mpr (((divides.operate (.stream slot)
        (AcceptedTcpStream.destroy_custodial owned)).assuming Allocates).mono ?_)
      intro after _ met
      obtain ⟨kept, divides, rfl⟩ := met
      have released : Holding AcceptedTcpStream.members.Owns ∅ none := rfl
      have reset := acceptEmpty_keeps divides (holds.setStream released) listening
        (self.streams_setStream slot none)
      simpa using reset

/-- An operation on one object that owns its share again leaves a system that owns what
is live. -/
private theorem operate_keeps (divides : Custody.Divides share live) (owner : ServerOwner)
    {α : Type} {program : OsProgram α} {conclude : α → ServerReply × ServerSystem}
    {post : Set Int → α → Prop} (met : Custodial program (share owner) post)
    (holds : ∀ kept result, post kept result →
      (conclude result).2.Holds (Function.update share owner kept)) :
    ServerKeeps (conclude <$> program) live fun after outcome => outcome.2.Owns after := by
  refine Program.meets_map_iff.mpr (((divides.operate owner met).assuming Allocates).mono ?_)
  intro after result operated
  obtain ⟨kept, divides, met⟩ := operated
  exact ⟨_, divides, holds kept result met⟩

theorem invoke_keeps (owns : self.Owns live) (method : ServerMethod) :
    ServerKeeps (self.invoke method) live fun after outcome => outcome.2.Owns after := by
  have absent : ServerKeeps (.done (ServerReply.absent, self)) live fun after outcome =>
      outcome.2.Owns after := owns
  obtain ⟨share, divides, holds⟩ := owns
  have listening := holds.listener
  cases method with
  | listener method =>
      rw [invoke]
      cases present : self.listener with
      | none => exact absent
      | some listener =>
          rw [present] at listening
          exact operate_keeps divides .listener
            (TcpServerTransport.invoke_custodial listening method)
            fun _ _ owns => holds.setListener owns
  | accept slot =>
      rw [invoke]
      cases present : self.listener with
      | none => exact absent
      | some listener => exact Program.meets_map_iff.mpr (accept_keeps divides holds present slot)
  | destroy =>
      rw [invoke]
      cases present : self.listener with
      | none => exact absent
      | some listener =>
          rw [present] at listening
          exact operate_keeps divides .listener (TcpServerTransport.destroy_custodial listening)
            fun _ _ emptied => holds.setListener emptied
  | stream slot method =>
      have streaming := holds.streams slot
      rw [invoke]
      cases present : self.streams slot with
      | none => exact absent
      | some stream =>
          rw [present] at streaming
          exact operate_keeps divides (.stream slot)
            (AcceptedTcpStream.invoke_custodial streaming method)
            fun _ _ owns => holds.setStream owns
  | release slot =>
      have streaming := holds.streams slot
      rw [invoke]
      cases present : self.streams slot with
      | none => exact absent
      | some stream =>
          rw [present] at streaming
          exact operate_keeps divides (.stream slot)
            (AcceptedTcpStream.destroy_custodial streaming)
            fun _ _ emptied => holds.setStream emptied

theorem owns_new (options : TcpServerTransportOptions) : (new options).Owns ∅ := by
  refine ⟨fun _ => ∅, ⟨?_, ?_⟩, ⟨.closed, fun _ => rfl⟩⟩
  · simp
  · intro fd first second left
    exact left.elim

end ServerSystem

/-- The one object that a method may change. -/
def ServerMethod.subject : ServerMethod → ServerOwner
  | .listener _ | .destroy => .listener
  | .accept slot | .stream slot _ | .release slot => .stream slot

/-- The object that a method destroys, if there is one. -/
def ServerMethod.destroys? : ServerMethod → Option ServerOwner
  | .destroy => some .listener
  | .accept slot | .release slot => some (.stream slot)
  | .listener _ | .stream _ _ => none

theorem ServerMethod.subject_eq_stream {method : ServerMethod} {slot : Nat}
    (subject : method.subject = .stream slot) :
    (∃ called, method = .stream slot called) ∨ method.destroys? = some (.stream slot) := by
  cases method with
  | listener | destroy => cases subject
  | accept | release => exact .inr (congrArg some subject)
  | stream other called =>
      cases subject
      exact .inl ⟨called, rfl⟩

namespace ServerSystem

variable {self : ServerSystem}

inductive Effect (self : ServerSystem) (subject : ServerOwner) : ServerSystem → Prop where
  | same : Effect self subject self
  | listener {listener} : subject = .listener → Effect self subject (self.setListener listener)
  | stream {slot stream} : subject = .stream slot →
      Effect self subject (self.setStream slot stream)

theorem invoke_effect (self : ServerSystem) (method : ServerMethod) :
    (self.invoke method).Ensures fun _ outcome => self.Effect method.subject outcome.2 := by
  cases method with
  | listener | destroy =>
      rw [invoke]
      cases self.listener with
      | none => exact Program.ensures_done_iff.mpr .same
      | some listener =>
          rw [Program.ensures_map_iff]
          exact fun _ _ _ => .listener rfl
  | accept slot =>
      rw [invoke]
      cases self.listener with
      | none => exact Program.ensures_done_iff.mpr .same
      | some listener =>
          rw [Program.ensures_map_iff]
          exact fun _ _ _ => .stream rfl
  | stream slot | release slot =>
      rw [invoke]
      cases self.streams slot with
      | none => exact Program.ensures_done_iff.mpr .same
      | some stream =>
          rw [Program.ensures_map_iff]
          exact fun _ _ _ => .stream rfl

theorem Effect.listener_eq {subject : ServerOwner} {after : ServerSystem}
    (effect : self.Effect subject after) (other : subject ≠ .listener) :
    after.listener = self.listener := by
  cases effect with
  | same => rfl
  | listener subject => exact absurd subject other
  | stream => rfl

theorem Effect.streams_eq {subject : ServerOwner} {after : ServerSystem}
    (effect : self.Effect subject after) {slot : Nat} (other : subject ≠ .stream slot) :
    after.streams slot = self.streams slot := by
  cases effect with
  | same => rfl
  | listener => rfl
  | stream subject =>
      refine self.streams_setStream_ne _ fun same => other ?_
      rw [subject, same]

/-- A call on a stream runs that stream's own method. -/
theorem invoke_stream {slot : Nat} {stream : AcceptedTcpStream}
    (present : self.streams slot = some stream) {method : StreamMethod} {trace : OsTrace}
    {reply : ServerReply} {after : ServerSystem}
    (run : (self.invoke (.stream slot method)).Runs trace (reply, after)) :
    ∃ answer next, reply = .stream answer ∧ after.streams slot = some next ∧
      (stream.invoke method).Runs trace (answer, next) := by
  rw [invoke, present] at run
  obtain ⟨answer, next, ran, rfl, rfl⟩ := Program.runs_prodMap_iff.mp run
  exact ⟨answer, next, rfl, self.streams_setStream slot _, ran⟩

end ServerSystem

/-- A call on the stream in the slot, as the stream itself sees it. -/
def onStream? (slot : Nat) (invocation : ServerInvocation) : Option AcceptedInvocation :=
  match invocation.method, invocation.before.streams slot, invocation.reply,
      invocation.after.streams slot with
  | .stream other method, some before, .stream reply, some after =>
      if other = slot then some ⟨before, method, invocation.trace, reply, after⟩ else none
  | _, _, _, _ => none

private theorem onStream?_of_ne {slot : Nat} {invocation : ServerInvocation}
    (other : invocation.method.subject ≠ .stream slot) : onStream? slot invocation = none := by
  unfold onStream?
  split
  · next called _ _ _ =>
    refine if_neg fun same => other ?_
    rw [called, same]
    rfl
  · rfl

namespace ServerSystem

/-- What happens to the listener and to other streams does not matter to a stream: as
long as it exists, the calls on it are a session of its own. -/
theorem stream_session {start final : ServerSystem} {history : List ServerInvocation}
    (session : Session ServerSystem.invoke start history final) {slot : Nat}
    {stream : AcceptedTcpStream} (present : start.streams slot = some stream)
    (kept : ∀ later ∈ history, later.method.destroys? ≠ some (.stream slot)) :
    ∃ last, final.streams slot = some last ∧
      Session AcceptedTcpStream.invoke stream (history.filterMap (onStream? slot)) last := by
  induction session generalizing stream with
  | nil => exact ⟨stream, present, .nil⟩
  | @cons before method trace reply after rest final run _ ih =>
      obtain ⟨first, later⟩ := List.forall_mem_cons.mp kept
      by_cases addressed : method.subject = .stream slot
      · obtain ⟨called, rfl⟩ | destroyed := ServerMethod.subject_eq_stream addressed
        · obtain ⟨answer, next, rfl, following, ran⟩ := invoke_stream present run
          obtain ⟨last, found, session⟩ := ih following later
          refine ⟨last, found, ?_⟩
          have seen : onStream? slot ⟨before, .stream slot called, trace, .stream answer, after⟩ =
              some ⟨stream, called, trace, answer, next⟩ := by
            simp [onStream?, present, following]
          rw [List.filterMap_cons_some seen]
          exact .cons ran session
        · exact absurd destroyed first
      · have following := ((before.invoke_effect method _ _ run).streams_eq addressed).trans present
        rw [List.filterMap_cons_none (onStream?_of_ne addressed)]
        exact ih following later

end ServerSystem

namespace AcceptedTcpStream

/-- A closed stream stays closed, and refuses to open. -/
theorem invoke_closed {self : AcceptedTcpStream} (closed : self.open_ = false)
    (method : StreamMethod) :
    (self.invoke method).Ensures fun trace outcome => outcome.2.open_ = false ∧
      (method = .open → outcome.1 = .status .openFailed ∧ trace = []) := by
  cases method with
  | «open» =>
      refine Program.ensures_done_iff.mpr ⟨closed, fun _ => ⟨?_, rfl⟩⟩
      simp [closed]
  | close =>
      rw [invoke, Program.ensures_map_iff, close, StreamMembers.close]
      split
      · rw [closeNativeSocket_bind, Program.ensures_call_iff]
        exact fun _ => Program.ensures_done_iff.mpr ⟨rfl, nofun⟩
      · exact Program.ensures_done_iff.mpr ⟨rfl, nofun⟩
  | isOpen => exact Program.ensures_done_iff.mpr ⟨closed, nofun⟩
  | readSome output =>
      have refused : self.readSome output = .done (.empty .notOpen, self) := if_pos closed
      rw [invoke, refused]
      exact Program.ensures_done_iff.mpr ⟨closed, nofun⟩
  | writeAll input budget =>
      rw [invoke, Program.ensures_map_iff]
      exact fun _ _ _ => ⟨closed, nofun⟩

theorem closed_of_session {start final : AcceptedTcpStream} {history : List AcceptedInvocation}
    (session : Session AcceptedTcpStream.invoke start history final)
    (closed : start.open_ = false) : final.open_ = false := by
  have stays (before : AcceptedTcpStream) (method : StreamMethod) (trace : OsTrace)
      (reply : StreamReply) (after : AcceptedTcpStream) (closed : before.open_ = false)
      (run : (before.invoke method).Runs trace (reply, after)) : after.open_ = false :=
    (invoke_closed closed method _ _ run).1
  exact (session.invariant stays closed).1

end AcceptedTcpStream

/-- A destructor that closes what its object holds makes that one call. -/
private theorem destroys_held {α : Type} {close : OsProgram α} {closed : α}
    {socket : NativeSocket} {fd : Int}
    (closes : socket ≠ kInvalidSocket → close = do
      closeNativeSocket socket
      pure closed)
    (held : heldSocket socket = some fd) :
    Program.Ensures (do
      let _ ← close
      pure ()) fun (trace : OsTrace) _ => trace = [⟨.close fd, ()⟩] := by
  unfold heldSocket at held
  split at held
  · cases held
  · next valid =>
    cases held
    rw [closes valid, closeNativeSocket_bind, Program.call_bind, Program.ensures_call_iff]
    exact fun _ => Program.ensures_done_iff.mpr rfl

theorem AcceptedTcpStream.destroy_ensures {self : AcceptedTcpStream} {fd : Int}
    (held : heldSocket self.socket_ = some fd) :
    self.destroy.Ensures fun trace _ => trace = [⟨.close fd, ()⟩] :=
  destroys_held (fun valid => if_pos valid) held

theorem TcpServerTransport.destroy_ensures {self : TcpServerTransport} {fd : Int}
    (held : heldSocket self.socket_ = some fd) :
    self.destroy.Ensures fun trace _ => trace = [⟨.close fd, ()⟩] :=
  destroys_held (fun valid => if_pos valid) held

/-- Destroying an object begins with closing the descriptor it holds. -/
theorem ServerSystem.destroys_closes {self after : ServerSystem} {method : ServerMethod}
    {trace : OsTrace} {reply : ServerReply} (run : (self.invoke method).Runs trace (reply, after))
    (called : reply ≠ .absent) {owner : ServerOwner} (destroys : method.destroys? = some owner)
    {fd : Int} (held : self.descriptor? owner = some fd) :
    ∃ rest, trace = ⟨.close fd, ()⟩ :: rest := by
  cases method with
  | listener | stream => cases destroys
  | destroy =>
      cases destroys
      rw [descriptor?, Option.bind_eq_some_iff] at held
      obtain ⟨listener, present, held⟩ := held
      rw [invoke, present] at run
      obtain ⟨_, run, _⟩ := Program.runs_map_iff.mp run
      exact ⟨[], TcpServerTransport.destroy_ensures held _ _ run⟩
  | release slot =>
      cases destroys
      rw [descriptor?, Option.bind_eq_some_iff] at held
      obtain ⟨stream, present, held⟩ := held
      rw [invoke, present] at run
      obtain ⟨_, run, _⟩ := Program.runs_map_iff.mp run
      exact ⟨[], AcceptedTcpStream.destroy_ensures held _ _ run⟩
  | accept slot =>
      cases destroys
      rw [descriptor?, Option.bind_eq_some_iff] at held
      obtain ⟨earlier, present, held⟩ := held
      rw [invoke] at run
      cases listening : self.listener with
      | none =>
          rw [listening] at run
          cases (Program.runs_done_iff.mp run).2
          exact absurd rfl called
      | some listener =>
          rw [listening, present] at run
          obtain ⟨_, run, _⟩ := Program.runs_map_iff.mp run
          rw [TcpServerTransport.accept_eq] at run
          obtain ⟨front, rest, _, rfl, head, _⟩ := Program.runs_bind_iff.mp run
          obtain rfl := AcceptedTcpStream.destroy_ensures held _ _ head
          exact ⟨rest, rfl⟩

/-- What descriptor ownership means for a run of a listener and its streams. -/
structure ServerDescriptorsOwned (history : List ServerInvocation) (final : ServerSystem) :
    Prop where
  /-- After each operation every live descriptor has exactly one owner among the
  objects, and what an object holds is live. -/
  owned : ∀ front invocation back live, history = front ++ invocation :: back →
    serverWorld.Follows ∅ (sessionTrace (front ++ [invocation])) live →
    (∀ fd ∈ live, ∃! owner, invocation.after.descriptor? owner = some fd) ∧
      ∀ owner fd, invocation.after.descriptor? owner = some fd → fd ∈ live
  /-- No call is made on a descriptor that is not live, by a further operation
  that may be unfinished either. -/
  usesLive : ∀ method trace, (final.invoke method).Emits trace →
    serverWorld.Respects descriptors.UsesLive ∅ (sessionTrace history ++ trace)
  /-- Every descriptor was obtained and closed in turn, and the last time it was
  obtained it was also closed unless an object that exists still holds it. -/
  closedOnce : ∀ live fd, serverWorld.Follows ∅ (sessionTrace history) live →
    Alternates False (descriptors.lifecycle fd (sessionTrace history))
      (∃ owner, final.descriptor? owner = some fd)
  /-- Destroying an object, by an `Accept` on its pointer too, closes what it holds. -/
  destroyed : ∀ invocation ∈ history, invocation.reply ≠ .absent →
    ∀ owner fd, invocation.method.destroys? = some owner →
      invocation.before.descriptor? owner = some fd →
      ∃ rest, invocation.trace = ⟨.close fd, ()⟩ :: rest
  listening : ∀ front invocation back live listener, history = front ++ invocation :: back →
    serverWorld.Follows ∅ (sessionTrace (front ++ [invocation])) live →
    invocation.after.listener = some listener →
    (listener.isOpen = true ↔ (invocation.after.descriptor? .listener).isSome = true) ∧
      (listener.isOpen = false → listener.localPort = 0)
  /-- No operation touches another object than the one it is called on. -/
  unaffected : ∀ invocation ∈ history,
    (invocation.method.subject ≠ .listener →
      invocation.after.listener = invocation.before.listener) ∧
    ∀ slot, invocation.method.subject ≠ .stream slot →
      invocation.after.streams slot = invocation.before.streams slot
  /-- Until it is destroyed, an accepted stream behaves as if it were alone. -/
  independent : ∀ front first later slot stream, history = front ++ first :: later →
    first.after.streams slot = some stream →
    (∀ invocation ∈ later, invocation.method.destroys? ≠ some (.stream slot)) →
    ∃ last, final.streams slot = some last ∧
      Session AcceptedTcpStream.invoke stream (later.filterMap (onStream? slot)) last
  /-- A closed accepted stream never opens again. -/
  staysClosed : ∀ front first middle later back slot stream,
    history = front ++ first :: middle ++ later :: back →
    first.after.streams slot = some stream → stream.isOpen = false →
    (∀ invocation ∈ middle, invocation.method.destroys? ≠ some (.stream slot)) →
    (∃ last, later.before.streams slot = some last ∧ last.isOpen = false) ∧
      (later.method = .stream slot .open →
        later.reply = .stream (.status .openFailed) ∧ later.trace = [])

private theorem session_server {options : TcpServerTransportOptions}
    {history : List ServerInvocation} {final : ServerSystem}
    (session : Session ServerSystem.invoke (.new options) history final) :
    serverWorld.Respects descriptors.UsesLive ∅ (sessionTrace history) ∧
      ∀ live, serverWorld.Follows ∅ (sessionTrace history) live → final.Owns live := by
  have preserved (live : Set Int) (before : ServerSystem) (method : ServerMethod)
      (owns : before.Owns live) :
      ServerKeeps (before.invoke method) live fun after outcome => outcome.2.Owns after :=
    ServerSystem.invoke_keeps owns method
  exact session.meets preserved (ServerSystem.owns_new options)

private theorem server_ledger {trace : OsTrace} {before after : Set Int}
    (respected : serverWorld.Respects descriptors.UsesLive before trace)
    (followed : serverWorld.Follows before trace after) :
    descriptors.ledger.Respects descriptors.UsesLive before trace ∧
      descriptors.ledger.Follows before trace after := by
  refine Custody.ledger_of_view id ?_ ?_ respected followed
  · intro before request answer after stepped
    exact stepped.2
  · intro world request uses
    exact uses

theorem ServerSystem.Owns.unique {self : ServerSystem} {live : Set Int} (owns : self.Owns live) :
    (∀ fd ∈ live, ∃! owner, self.descriptor? owner = some fd) ∧
      ∀ owner fd, self.descriptor? owner = some fd → fd ∈ live := by
  obtain ⟨share, divides, holds⟩ := owns
  simp only [← holds.mem_iff]
  exact ⟨fun fd held => divides.unique held, fun owner fd held => divides.mem_iff.mpr ⟨owner, held⟩⟩

theorem ServerSystem.Owns.listener_owns {self : ServerSystem} {live : Set Int}
    (owns : self.Owns live) {listener : TcpServerTransport}
    (present : self.listener = some listener) : ∃ own, TcpServerTransport.Owns own listener := by
  obtain ⟨share, _, holds⟩ := owns
  have listening := holds.listener
  rw [present] at listening
  exact ⟨_, listening⟩

/-- Over whole runs of a listener and any number of accepted streams, every live
descriptor has exactly one owner. -/
theorem server_descriptors_owned {options : TcpServerTransportOptions}
    {history : List ServerInvocation} {final : ServerSystem}
    (session : Session ServerSystem.invoke (.new options) history final) :
    ServerDescriptorsOwned history final := by
  obtain ⟨respected, owning⟩ := session_server session
  constructor
  · intro front invocation back live split followed
    subst split
    exact ((session_server session.through.2.1).2 live followed).unique
  · intro method trace emitted
    apply Environment.respects_append respected
    intro live followed
    exact (ServerSystem.invoke_keeps (owning live followed) method).respects emitted
  · intro live fd followed
    have owned_iff : fd ∈ live ↔ ∃ owner, final.descriptor? owner = some fd := by
      obtain ⟨unique, held⟩ := (owning live followed).unique
      exact ⟨fun member => (unique fd member).exists, fun owned => held _ _ owned.choose_spec⟩
    obtain ⟨respects, follows⟩ := server_ledger respected followed
    have alternates := Custody.lifecycle_alternates respects follows fd
    rw [owned_iff] at alternates
    simpa using alternates
  · intro invocation member called owner fd destroys held
    exact ServerSystem.destroys_closes (session.runs_of_mem member) called destroys held
  · intro front invocation back live listener split followed present
    subst split
    obtain ⟨own, owns⟩ :=
      ((session_server session.through.2.1).2 live followed).listener_owns present
    refine ⟨?_, owns.localPort_eq⟩
    rw [ServerSystem.descriptor?, present]
    exact owns.isOpen_iff
  · intro invocation member
    have effect := invocation.before.invoke_effect _ _ _ (session.runs_of_mem member)
    exact ⟨effect.listener_eq, fun slot => effect.streams_eq⟩
  · intro front first later slot stream split present kept
    subst split
    exact ServerSystem.stream_session session.through.2.2 present kept
  · intro front first middle later back slot stream split present closed kept
    subst split
    rw [List.append_assoc, List.cons_append] at session
    have following := session.through.2.2
    obtain ⟨last, found, alone⟩ :=
      ServerSystem.stream_session following.through.1 present kept
    have stayed : last.isOpen = false := AcceptedTcpStream.closed_of_session alone closed
    refine ⟨⟨last, found, stayed⟩, fun opens => ?_⟩
    have run := following.runs_of_mem (List.mem_append_right middle List.mem_cons_self)
    rw [opens] at run
    obtain ⟨answer, next, replied, _, ran⟩ := ServerSystem.invoke_stream found run
    obtain ⟨rfl, silent⟩ := (AcceptedTcpStream.invoke_closed stayed .open _ _ ran).2 rfl
    exact ⟨replied, silent⟩

def meterListening : ServerSystem :=
  ServerSystem.setListener (.new meterServerOptions) (some meterServer)

def meterAccepted : ServerSystem :=
  meterListening.setStream 0 (some meterConnection)

/-- A listener opens and accepts a connection, which outlives it. -/
def meterServerRun : List ServerInvocation :=
  [⟨.new meterServerOptions, .listener .open,
      [⟨.getaddrinfo none "4059" TcpServerTransport.hints, some ⟨0, [⟨.inet, .stream, .tcp, []⟩]⟩⟩,
        ⟨.socket .inet .stream .tcp, some 3⟩, ⟨.setReuseAddress 3, ()⟩,
        ⟨.fcntlGetFlags 3, (0 : Int)⟩, ⟨.fcntlSetNonBlock 3 0, (0 : Int)⟩,
        ⟨.bind 3 [], (0 : Int)⟩, ⟨.listen 3 1, (0 : Int)⟩, ⟨.getsockname 3, some (.inet, 4059)⟩,
        ⟨.freeaddrinfo ⟨0, [⟨.inet, .stream, .tcp, []⟩]⟩, ()⟩],
      .status .ok, meterListening⟩,
    ⟨meterListening, .accept 0, meterAcceptTrace, .status .ok, meterAccepted⟩,
    ⟨meterAccepted, .destroy, [⟨.close 3, ()⟩], .destroyed, meterAccepted.setListener none⟩]

theorem meterServerRun_session :
    Session ServerSystem.invoke (.new meterServerOptions) meterServerRun
      (meterAccepted.setListener none) := by
  refine .cons (Program.runs_map_iff.mpr ⟨(.status .ok, meterServer),
    Program.runs_map_iff.mpr ⟨(.ok, meterServer), ?_, rfl⟩, rfl⟩) ?_
  · exact .call (.call (.call (.call (.call (.call (.call (.call (.call .refl))))))))
  · refine .cons (Program.runs_map_iff.mpr ⟨_, meterServer_accepts, rfl⟩) ?_
    exact .cons (Program.runs_map_iff.mpr ⟨(), .call .refl, rfl⟩) .nil

theorem server_descriptors_owned_meter :
    ServerDescriptorsOwned meterServerRun (meterAccepted.setListener none) :=
  server_descriptors_owned meterServerRun_session

end DlmsTransport.Transport
