import DlmsTransport.Transport.Serial
import DlmsTransport.Transport.ServerSystem
import DlmsTransport.Transport.TcpStream
import DlmsTransport.Transport.UdpOwnershipProperties

/-! The descriptors that the transports wait for. A wait indexes an `fd_set`, which
has room for the descriptors below `FD_SETSIZE` only. -/

set_option autoImplicit false

namespace DlmsTransport.Transport

open Interaction Posix

/-- The OS hands out descriptors below a limit only. -/
def descriptorsBelow (limit : Nat) : Environment OsCall OsCall.Answer Unit where
  step _ request answer _ := ∀ fd, descriptors.obtains request answer = some fd → fd < limit

def WaitsBelow (size : Nat) (request : OsCall) : Prop :=
  ∀ fd forRead timeout, request = .select fd forRead timeout → 0 ≤ fd ∧ fd < size

abbrev Confines {α : Type} (limit : Nat) (program : OsProgram α) (post : α → Prop) : Prop :=
  program.Meets (descriptorsBelow limit) (.calls fun _ => WaitsBelow limit) (fun _ => post) ()

def HandsOutBelow (limit : Nat) (trace : OsTrace) : Prop :=
  ∀ event ∈ trace, ∀ fd, descriptors.obtains event.request event.answer = some fd → fd < limit

/-- A descriptor that an open object may wait for. -/
def InRange (limit : Nat) (isOpen : Bool) (socket : NativeSocket) : Prop :=
  isOpen = true → 0 ≤ socket ∧ socket < limit

variable {limit : Nat}

theorem handsOutBelow_iff_follows {trace : OsTrace} :
    HandsOutBelow limit trace ↔ (descriptorsBelow limit).Follows () trace () := by
  induction trace with
  | nil => simp [HandsOutBelow, Environment.Follows]
  | cons event rest ih =>
      rw [HandsOutBelow, List.forall_mem_cons, ← HandsOutBelow, ih]
      constructor
      · exact fun below => ⟨(), below⟩
      · intro followed
        obtain ⟨_, stepped, following⟩ := followed
        exact ⟨stepped, following⟩

theorem confines_call {α : Type} {post : α → Prop} {request : OsCall}
    {next : request.Answer → OsProgram α} (waits : WaitsBelow limit request)
    (rest : ∀ answer, (∀ fd, descriptors.obtains request answer = some fd → fd < limit) →
      Confines limit (next answer) post) :
    Confines limit (.call request next) post :=
  ⟨waits, fun answer _ below => rest answer below⟩

theorem waitsBelow_select {socket : NativeSocket} (within : 0 ≤ socket ∧ socket < limit)
    (forRead : Bool) (timeout : Timeval) : WaitsBelow limit (.select socket forRead timeout) := by
  intro fd forRead timeout same
  cases same
  exact within

theorem waitsBelow_errno : WaitsBelow limit .errno := by
  intro fd forRead timeout same
  cases same

theorem within_handedOut {fd : Nat} (below : (fd : Int) < limit) :
    0 ≤ nativeSocket (some fd) ∧ nativeSocket (some fd) < limit :=
  ⟨Int.natCast_nonneg fd, below⟩

theorem setNonBlocking_confines (socket : NativeSocket) :
    Confines limit (setNonBlocking socket) fun _ => True := by
  unfold setNonBlocking
  rw [Program.ask_bind]
  refine confines_call nofun fun (flags : Int) _ => ?_
  split
  · exact confines_call nofun fun _ _ => trivial
  · trivial

namespace StreamMembers

variable {σ : Type} {members : StreamMembers σ}

abbrev InRange (members : StreamMembers σ) (limit : Nat) (self : σ) : Prop :=
  Transport.InRange limit (members.isOpen self) (members.socket self)

theorem inRange_release (self : σ) : members.InRange limit (members.release self) := by
  intro opened
  simp at opened

theorem close_confines (self : σ) :
    Confines limit (members.close self) fun outcome => members.InRange limit outcome.2 := by
  unfold close
  split
  · exact confines_call nofun fun _ _ => inRange_release self
  · exact inRange_release self

theorem readSome_confines {self : σ} (within : members.InRange limit self)
    (output : OutputBuffer) :
    Confines limit (members.readSome self output) fun outcome =>
      members.InRange limit outcome.2 := by
  have form := members.readSome_form self output
  generalize members.readSome self output = program at form
  cases form with
  | refused => exact within
  | waiting opened =>
      apply confines_call (waitsBelow_select (within opened) _ _)
      intro (result : Int) _
      split
      · refine confines_call nofun fun answer _ => ?_
        have form := members.concludeRead_form self (.ofInt answer)
        generalize members.concludeRead self (.ofInt answer) = program at form
        cases form with
        | delivered | failed => exact within
        | ended => exact confines_call nofun fun _ _ => inRange_release self
        | endedUnowned => exact inRange_release self
        | unexplained => exact confines_call waitsBelow_errno fun _ _ => within
      · exact within

end StreamMembers

private theorem writeLoop_confines {socket : NativeSocket} (within : 0 ≤ socket ∧ socket < limit)
    (timeout : TransportDuration) {transmit : List UInt8 → OsProgram Transferred}
    (sends : ∀ slice, Confines limit (transmit slice) fun _ => True)
    (isWouldBlock : Errno → Bool) (input : List UInt8) (budget written : Nat) :
    Confines limit (writeLoop socket timeout transmit isWouldBlock input budget written)
      fun _ => True := by
  apply writeLoop_meets_of fun _ _ _ => True
  · exact fun _ _ _ _ _ => trivial
  · exact fun _ _ _ _ => trivial
  · intro budget written world _ _
    rw [writeIteration, waitForDescriptor_bind]
    apply confines_call (waitsBelow_select within _ _)
    intro (result : Int) _
    split
    · trivial
    · refine Program.meets_bind_iff.mpr ((sends _).mono fun _ chunk _ => ?_)
      split
      · trivial
      · split
        · trivial
        · have conclude (error : Errno) : Confines limit
              (pure (if isWouldBlock error then .again written else .returned .writeFailed))
              fun outcome : WriteIteration => outcome.Leaves (fun _ => True) fun _ => True := by
            split <;> trivial
          cases chunk.errno with
          | some error => exact conclude error
          | none => exact confines_call waitsBelow_errno fun error _ => conclude error
  · trivial

theorem StreamMembers.writeAll_confines {σ : Type} {members : StreamMembers σ} {self : σ}
    (within : members.InRange limit self)
    (sends : ∀ socket slice, Confines limit (members.transmit socket slice) fun _ => True)
    (input : InputBuffer) (budget : Nat) :
    Confines limit (members.writeAll self input budget) fun _ => True := by
  unfold writeAll
  split
  · trivial
  · next opened =>
    split
    · trivial
    · exact writeLoop_confines (within (by simpa using opened)) _ (sends _) _ _ budget 0

theorem sendInt_confines (socket : NativeSocket) (slice : List UInt8) :
    Confines limit (sendInt socket slice) fun _ => True :=
  confines_call nofun fun _ _ => trivial

namespace TcpStreamTransport

private theorem closing_confines (candidate : NativeSocket) {attempt : Attempt}
    {post : Attempt → Prop} (dropped : post attempt) :
    Confines limit (do
      closeNativeSocket candidate
      pure attempt) post :=
  confines_call nofun fun _ _ => dropped

/-- A candidate that an attempt keeps was handed out to it. -/
def Attempt.Within (limit : Nat) : Attempt → Prop
  | .connected candidate => 0 ≤ candidate ∧ candidate < limit
  | .skipped | .failed _ => True

private theorem awaitConnection_confines (options : TcpStreamTransportOptions)
    {candidate : NativeSocket} (within : 0 ≤ candidate ∧ candidate < limit) :
    Confines limit (awaitConnection options candidate) (Attempt.Within limit) := by
  have finish (status : TransportStatus) : Confines limit (if status = .ok then
        pure (.connected candidate)
      else do
        closeNativeSocket candidate
        pure (Attempt.failed status)) (Attempt.Within limit) := by
    split
    · exact within
    · exact closing_confines candidate trivial
  rw [awaitConnection, waitForDescriptor_bind]
  apply confines_call (waitsBelow_select within _ _)
  intro (result : Int) _
  split
  · rw [checkConnected, bind_assoc, Program.ask_bind]
    refine confines_call nofun fun answer _ => ?_
    cases answer with
    | none => exact finish .openFailed
    | some error => exact finish _
  · exact finish _

private theorem tryCandidate_confines (options : TcpStreamTransportOptions)
    (address : AddrInfo) :
    Confines limit (tryCandidate options address) (Attempt.Within limit) := by
  rw [tryCandidate, Program.ask_bind]
  refine confines_call nofun fun answer below => ?_
  cases answer with
  | none => trivial
  | some fd =>
      have within := within_handedOut (below fd rfl)
      generalize nativeSocket (some fd) = candidate at within
      dsimp only
      split
      · trivial
      · refine Program.meets_bind_iff.mpr ((setNonBlocking_confines candidate).mono ?_)
        intro _ nonBlocking _
        split
        · exact closing_confines candidate trivial
        · rw [Program.ask_bind]
          refine confines_call nofun fun connectResult _ => ?_
          cases connectResult with
          | ok => exact within
          | error error =>
              dsimp only
              split
              · exact closing_confines candidate trivial
              · exact awaitConnection_confines options within

private theorem tryAddresses_confines {self : TcpStreamTransport}
    (within : members.InRange limit self) (finalStatus : TransportStatus)
    (addresses : List AddrInfo) :
    Confines limit (tryAddresses self finalStatus addresses) fun outcome =>
      members.InRange limit outcome.2 := by
  induction addresses generalizing finalStatus with
  | nil => exact within
  | cons address rest ih =>
      rw [tryAddresses]
      refine Program.meets_bind_iff.mpr ((tryCandidate_confines self.options address).mono ?_)
      intro _ attempt kept
      cases attempt with
      | skipped => exact ih finalStatus
      | failed status => exact ih status
      | connected candidate => exact fun _ => kept

theorem invoke_confines {self : TcpStreamTransport} (within : members.InRange limit self)
    (method : StreamMethod) :
    Confines limit (self.invoke method) fun outcome => members.InRange limit outcome.2 := by
  cases method with
  | «open» =>
      apply Program.meets_map_iff.mpr
      unfold TcpStreamTransport.open
      split
      · exact within
      · split
        · exact within
        · rw [Program.ask_bind]
          refine confines_call nofun fun resolved _ => ?_
          cases resolved with
          | none => exact within
          | some addresses =>
              refine Program.meets_bind_iff.mpr
                ((tryAddresses_confines within .openFailed addresses.entries).mono ?_)
              exact fun _ outcome kept => confines_call nofun fun _ _ => kept
  | close => exact Program.meets_map_iff.mpr (StreamMembers.close_confines self)
  | isOpen => exact within
  | readSome output =>
      exact Program.meets_map_iff.mpr (StreamMembers.readSome_confines within output)
  | writeAll input budget =>
      exact Program.meets_map_iff.mpr ((StreamMembers.writeAll_confines within
        sendInt_confines input budget).mono fun _ _ _ => within)

end TcpStreamTransport

theorem AcceptedTcpStream.invoke_confines {self : AcceptedTcpStream}
    (within : members.InRange limit self) (method : StreamMethod) :
    Confines limit (self.invoke method) fun outcome => members.InRange limit outcome.2 := by
  cases method with
  | «open» => exact within
  | close => exact Program.meets_map_iff.mpr (StreamMembers.close_confines self)
  | isOpen => exact within
  | readSome output =>
      exact Program.meets_map_iff.mpr (StreamMembers.readSome_confines within output)
  | writeAll input budget =>
      exact Program.meets_map_iff.mpr ((StreamMembers.writeAll_confines within
        sendInt_confines input budget).mono fun _ _ _ => within)

theorem writeNative_confines (handle : NativeSocket) (slice : List UInt8) :
    Confines limit (writeNative handle slice) fun _ => True :=
  confines_call nofun fun _ _ => trivial

namespace SerialTransport

variable {self : SerialTransport}

theorem open_confines (within : members.InRange limit self) :
    Confines limit self.open fun outcome => members.InRange limit outcome.2 := by
  unfold SerialTransport.open
  split
  · exact within
  · split
    · exact within
    · rw [Program.ask_bind]
      refine confines_call nofun fun answer below => ?_
      cases answer with
      | none => exact within
      | some fd =>
          have handedOut := within_handedOut (below fd rfl)
          dsimp only
          generalize nativeSocket (some fd) = handle at handedOut ⊢
          split
          · exact within
          · exact fun _ => handedOut

theorem readSome_confines (within : members.InRange limit self) (output : OutputBuffer) :
    Confines limit (self.readSome output) fun outcome => members.InRange limit outcome.2 := by
  unfold readSome
  split
  · exact within
  · next opened =>
    have opened : self.open_ = true := by simpa using opened
    have held := within opened
    split
    · exact within
    · split
      · exact within
      · unfold nativeRead
        rw [bind_assoc, waitForDescriptor_bind]
        apply confines_call (waitsBelow_select held _ _)
        intro (result : Int) _
        split
        · exact within
        · refine confines_call nofun fun answer _ => ?_
          cases answer with
          | ok | error => exact within

theorem writeAll_confines (within : members.InRange limit self) (input : InputBuffer)
    (budget : Nat) : Confines limit (self.writeAll input budget) fun _ => True := by
  unfold writeAll
  split
  · trivial
  · next opened =>
    have opened : self.open_ = true := by simpa using opened
    have held := within opened
    split
    · trivial
    · split
      · trivial
      · exact writeLoop_confines held _ (writeNative_confines _) _ _ budget 0

theorem invoke_confines (within : members.InRange limit self) (method : StreamMethod) :
    Confines limit (self.invoke method) fun outcome => members.InRange limit outcome.2 := by
  cases method with
  | «open» => exact Program.meets_map_iff.mpr (open_confines within)
  | close => exact Program.meets_map_iff.mpr (StreamMembers.close_confines self)
  | isOpen => exact within
  | readSome output => exact Program.meets_map_iff.mpr (readSome_confines within output)
  | writeAll input budget =>
      exact Program.meets_map_iff.mpr
        ((writeAll_confines within input budget).mono fun _ _ _ => within)

end SerialTransport

namespace UdpTransport

variable {self : UdpTransport}

/-- An open waits for nothing, and keeps a descriptor that was handed out to it. -/
theorem open_confines (within : InRange limit self.open_ self.socket_) :
    Confines limit self.open fun outcome => InRange limit outcome.2.open_ outcome.2.socket_ := by
  have permits (request : OsCall) (prepares : Prepares request) (_ : Unit) :
      WaitsBelow limit request := by
    intro fd forRead timeout same
    rw [same] at prepares
    exact prepares.elim
  have opens : self.open.Ensures fun trace outcome =>
      (outcome.1 = .ok → EstablishesFrom self.options outcome.2.socket_ trace) ∧
        self.Opened outcome :=
    fun trace outcome run =>
      ⟨self.open_ensures trace outcome run, self.open_opened trace outcome run⟩
  apply (self.open_only.meets opens permits).mono
  intro _ outcome met
  obtain ⟨trace, followed, establishes, opened⟩ := met
  cases opened with
  | alreadyOpen | refused => exact within
  | @kept candidate =>
      intro _
      obtain ⟨walked, address, _, front, attempt, rfl, established⟩ := establishes rfl
      obtain ⟨fd, rest, same, rfl, _⟩ := established.handedOut
      obtain rfl : candidate = nativeSocket (some fd) := same
      have member : ⟨.socket address.family .dgram .udp, some fd⟩ ∈
          (⟨udpQuery (walkedHost self.options) (walkedPort self.options) .unspec
            (!hasRemote self.options), some walked⟩ : OsEvent) ::
            (front ++ (⟨.socket address.family .dgram .udp, some fd⟩ :: rest) ++
              [⟨.freeaddrinfo walked, ()⟩]) := by
        simp
      exact within_handedOut (handsOutBelow_iff_follows.mpr followed _ member fd rfl)

theorem close_confines (self : UdpTransport) :
    Confines limit self.close fun outcome =>
      InRange limit outcome.2.open_ outcome.2.socket_ := by
  unfold UdpTransport.close
  dsimp only
  split
  · exact confines_call nofun fun _ _ => nofun
  · exact nofun

theorem send_confines (within : InRange limit self.open_ self.socket_) (input : InputBuffer) :
    Confines limit (self.send input) fun _ => True := by
  have form := self.send_form input
  generalize self.send input = program at form
  cases form with
  | closed | unconfigured | invalid => trivial
  | waiting opened =>
      apply confines_call (waitsBelow_select (within opened) _ _)
      intro (result : Int) _
      split
      · refine confines_call nofun fun answer _ => ?_
        generalize Transferred.ofInt answer = sent
        unfold concludeSend
        split
        · cases sent.errno with
          | some error => trivial
          | none => exact confines_call nofun fun _ _ => trivial
        · split <;> trivial
      · trivial

theorem receive_confines (within : InRange limit self.open_ self.socket_)
    (output : OutputBuffer) : Confines limit (self.receive output) fun _ => True := by
  have form := self.receive_form output
  generalize self.receive output = program at form
  cases form with
  | closed | invalid => trivial
  | waiting opened =>
      apply confines_call (waitsBelow_select (within opened) _ _)
      intro (result : Int) _
      split
      · refine confines_call nofun fun answer _ => ?_
        cases pendingSize answer with
        | none => trivial
        | some pending =>
            unfold receivePending
            dsimp only
            split
            · trivial
            · rw [receiveInt_bind]
              refine confines_call nofun fun answer _ => ?_
              generalize Received.ofInt answer = received
              unfold concludeReceive
              split
              · trivial
              · cases received.errno with
                | some error => trivial
                | none => exact confines_call nofun fun _ _ => trivial
      · trivial

theorem operate_confines (within : InRange limit self.open_ self.socket_) (method : UdpMethod) :
    Confines limit (self.operate method) fun outcome =>
      InRange limit outcome.2.open_ outcome.2.socket_ := by
  cases method with
  | localPort =>
      apply Program.meets_map_iff.mpr
      unfold localPort
      split
      · exact within
      · unfold boundLocalPort
        rw [bind_assoc, Program.ask_bind]
        refine confines_call nofun fun answer _ => ?_
        split <;> exact within
  | datagram method =>
      apply Program.meets_map_iff.mpr
      cases method with
      | «open» => exact Program.meets_map_iff.mpr (open_confines within)
      | close => exact Program.meets_map_iff.mpr (close_confines self)
      | isOpen => exact within
      | send input =>
          exact Program.meets_map_iff.mpr ((send_confines within input).mono fun _ _ _ => within)
      | receive output =>
          exact Program.meets_map_iff.mpr
            ((receive_confines within output).mono fun _ _ _ => within)

end UdpTransport

namespace TcpServerTransport

variable {self : TcpServerTransport}

private theorem keep_confines {candidate : NativeSocket}
    (within : 0 ≤ candidate ∧ candidate < limit) (owner : TcpServerTransport) :
    Confines limit (do
      let port ← socketLocalPort candidate
      pure (TransportStatus.ok,
        { owner with socket_ := candidate, open_ := true, localPort_ := port }))
      fun outcome => InRange limit outcome.2.open_ outcome.2.socket_ := by
  unfold socketLocalPort
  rw [bind_assoc, Program.ask_bind]
  refine confines_call nofun fun answer _ => ?_
  split <;> exact fun _ => within

private theorem tryAddresses_confines (within : InRange limit self.open_ self.socket_)
    (addresses : List AddrInfo) :
    Confines limit (self.tryAddresses addresses) fun outcome =>
      InRange limit outcome.2.open_ outcome.2.socket_ := by
  induction addresses with
  | nil => exact within
  | cons address rest ih =>
      have tryNext (candidate : NativeSocket) : Confines limit (do
          closeNativeSocket candidate
          self.tryAddresses rest) fun outcome =>
            InRange limit outcome.2.open_ outcome.2.socket_ :=
        confines_call nofun fun _ _ => ih
      rw [tryAddresses, Program.ask_bind]
      refine confines_call nofun fun answer below => ?_
      cases answer with
      | none => exact ih
      | some fd =>
          have handedOut := within_handedOut (below fd rfl)
          dsimp only
          generalize nativeSocket (some fd) = candidate at handedOut ⊢
          split
          · exact ih
          · rw [Program.ask_bind]
            refine confines_call nofun fun _ _ => ?_
            refine Program.meets_bind_iff.mpr ((setNonBlocking_confines candidate).mono ?_)
            intro _ nonBlocking _
            split
            · exact tryNext candidate
            · rw [Program.ask_bind]
              refine confines_call nofun fun (bound : Int) _ => ?_
              split
              · exact tryNext candidate
              · rw [Program.ask_bind]
                refine confines_call nofun fun (listening : Int) _ => ?_
                split
                · exact tryNext candidate
                · exact keep_confines handedOut self

theorem invoke_confines (within : InRange limit self.open_ self.socket_)
    (method : TcpServerMethod) :
    Confines limit (self.invoke method) fun outcome =>
      InRange limit outcome.2.open_ outcome.2.socket_ := by
  cases method with
  | «open» =>
      apply Program.meets_map_iff.mpr
      unfold TcpServerTransport.open
      split
      · exact within
      · split
        · exact within
        · rw [Program.ask_bind]
          refine confines_call nofun fun resolved _ => ?_
          cases resolved with
          | none => exact within
          | some addresses =>
              refine Program.meets_bind_iff.mpr
                ((tryAddresses_confines within addresses.entries).mono ?_)
              exact fun _ outcome kept => confines_call nofun fun _ _ => kept
  | close =>
      apply Program.meets_map_iff.mpr
      unfold TcpServerTransport.close
      dsimp only
      split
      · exact confines_call nofun fun _ _ => nofun
      · exact nofun
  | isOpen => exact within
  | localPort => exact within

/-- The connection that an `Accept` leaves was handed out by it. -/
theorem accept_confines (within : InRange limit self.open_ self.socket_)
    {connection : Option (OsProgram Unit)}
    (reset : Confines limit (resetConnection connection) fun _ => True) :
    Confines limit (self.accept connection) fun outcome =>
      ∀ stream, outcome.2 = some stream → AcceptedTcpStream.members.InRange limit stream := by
  have fresh : Confines limit (self.accept none) fun outcome =>
      ∀ stream, outcome.2 = some stream → AcceptedTcpStream.members.InRange limit stream := by
    rw [accept, resetConnection, Program.pure_eq, Program.done_bind]
    split
    · exact nofun
    · next opened =>
      have held := within (by simpa using opened)
      rw [waitForDescriptor_bind]
      apply confines_call (waitsBelow_select held _ _)
      intro (result : Int) _
      split
      · exact nofun
      · split
        · exact nofun
        · rw [Program.ask_bind]
          refine confines_call nofun fun answer below => ?_
          cases answer with
          | error error => exact nofun
          | ok fd =>
              have handedOut := within_handedOut (below fd rfl)
              refine Program.meets_bind_iff.mpr ((setNonBlocking_confines _).mono ?_)
              intro _ nonBlocking _
              split
              · exact confines_call nofun fun _ _ => nofun
              · rw [Program.ask_bind]
                refine confines_call nofun fun (allocated : Bool) _ => ?_
                split
                · intro stream same _
                  cases same
                  exact handedOut
                · exact nofun
  rw [accept_eq]
  exact Program.meets_bind_iff.mpr (reset.mono fun _ _ _ => fresh)

theorem resetConnection_confines (earlier : Option AcceptedTcpStream) :
    Confines limit (resetConnection (earlier.map AcceptedTcpStream.destroy)) fun _ => True := by
  cases earlier with
  | none => trivial
  | some stream =>
      refine Program.meets_bind_iff.mpr ?_
      exact (StreamMembers.close_confines stream).mono fun _ _ _ => trivial

end TcpServerTransport

namespace ServerSystem

/-- Every object of the system waits for descriptors in range only. -/
structure Within (limit : Nat) (system : ServerSystem) : Prop where
  listener : ∀ listener, system.listener = some listener →
    InRange limit listener.open_ listener.socket_
  streams : ∀ slot stream, system.streams slot = some stream →
    AcceptedTcpStream.members.InRange limit stream

variable {self : ServerSystem}

theorem Within.setListener (within : self.Within limit) {listener : Option TcpServerTransport}
    (kept : ∀ object, listener = some object → InRange limit object.open_ object.socket_) :
    (self.setListener listener).Within limit where
  listener := kept
  streams := within.streams

theorem Within.setStream (within : self.Within limit) (slot : Nat)
    {stream : Option AcceptedTcpStream}
    (kept : ∀ object, stream = some object → AcceptedTcpStream.members.InRange limit object) :
    (self.setStream slot stream).Within limit where
  listener := within.listener
  streams other object present := by
    by_cases same : other = slot
    · subst same
      rw [streams_setStream] at present
      exact kept object present
    · rw [streams_setStream_ne _ _ same] at present
      exact within.streams other object present

theorem invoke_confines (within : self.Within limit) (method : ServerMethod) :
    Confines limit (self.invoke method) fun outcome => outcome.2.Within limit := by
  cases method with
  | listener method =>
      rw [invoke]
      cases present : self.listener with
      | none => exact within
      | some listener =>
          refine Program.meets_map_iff.mpr ((TcpServerTransport.invoke_confines
            (within.listener listener present) method).mono fun _ outcome kept => ?_)
          apply within.setListener
          intro object same
          cases same
          exact kept
  | accept slot =>
      rw [invoke]
      cases present : self.listener with
      | none => exact within
      | some listener =>
          exact Program.meets_map_iff.mpr ((TcpServerTransport.accept_confines
            (within.listener listener present)
            (TcpServerTransport.resetConnection_confines _)).mono fun _ outcome kept =>
              within.setStream slot kept)
  | destroy =>
      rw [invoke]
      cases present : self.listener with
      | none => exact within
      | some listener =>
          have closes : Confines limit listener.close fun _ => True :=
            (Program.meets_map_iff.mp (TcpServerTransport.invoke_confines
              (within.listener listener present) .close)).mono fun _ _ _ => trivial
          refine Program.meets_map_iff.mpr (Program.meets_bind_iff.mpr ?_)
          exact closes.mono fun _ _ _ => within.setListener nofun
  | stream slot method =>
      rw [invoke]
      cases present : self.streams slot with
      | none => exact within
      | some stream =>
          refine Program.meets_map_iff.mpr ((AcceptedTcpStream.invoke_confines
            (within.streams slot stream present) method).mono fun _ outcome kept => ?_)
          apply within.setStream slot
          intro object same
          cases same
          exact kept
  | release slot =>
      rw [invoke]
      cases present : self.streams slot with
      | none => exact within
      | some stream =>
          refine Program.meets_map_iff.mpr (Program.meets_bind_iff.mpr ?_)
          exact (StreamMembers.close_confines stream).mono fun _ _ _ => within.setStream slot nofun

end ServerSystem

def WaitsInRange (size : Nat) (trace : OsTrace) : Prop :=
  ∀ event ∈ trace, WaitsBelow size event.request

/-- In every run in which the OS hands out descriptors below the limit only, the
last operation of which may be unfinished, the waits are in range. -/
def WaitsConfined {State Method Reply : Type} (invoke : State → Method → OsProgram (Reply × State))
    (start : State) (limit size : Nat) : Prop :=
  ∀ history final method trace, Session invoke start history final →
    (invoke final method).Emits trace →
    HandsOutBelow limit (sessionTrace history ++ trace) →
    WaitsInRange size (sessionTrace history ++ trace)

/-- An invariant that the operations keep confines every run. -/
theorem waitsConfined_of_invariant {State Method Reply : Type}
    {invoke : State → Method → OsProgram (Reply × State)} {start : State} {size : Nat}
    {Holds : State → Prop}
    (preserved : ∀ before method, Holds before →
      Confines limit (invoke before method) fun outcome => Holds outcome.2)
    (initial : Holds start) (fits : limit ≤ size) : WaitsConfined invoke start limit size := by
  intro history final method trace session emitted below event member
  have kept : ∀ (_ : Unit) before method, Holds before →
      Confines limit (invoke before method) fun outcome => Holds outcome.2 :=
    fun _ => preserved
  obtain ⟨respected, holds⟩ := session.meets kept initial
  have whole : (descriptorsBelow limit).Respects (fun _ => WaitsBelow limit) ()
      (sessionTrace history ++ trace) := by
    apply Environment.respects_append respected
    intro _ followed
    exact (preserved final method (holds () followed)).respects emitted
  have followed := handsOutBelow_iff_follows.mp below
  obtain ⟨_, waits⟩ := Environment.permitted_of_mem whole followed member
  intro fd forRead timeout same
  obtain ⟨low, high⟩ := waits fd forRead timeout same
  exact ⟨low, by omega⟩

/-- A client stream opens with the descriptor. -/
def opensWith (fd : Nat) : TcpInvocation where
  before := .new meterOptions
  method := .open
  trace := TcpStreamTransport.connectTrace meterOptions 0 meterAddress fd
  reply := .status .ok
  after := ⟨meterOptions, fd, true⟩

theorem opensWith_session (fd : Nat) :
    Session TcpStreamTransport.invoke (.new meterOptions) [opensWith fd]
      ⟨meterOptions, fd, true⟩ :=
  .cons (Program.runs_map_iff.mpr
    ⟨_, TcpStreamTransport.open_connects meterOptions_valid 0 meterAddress fd, rfl⟩) .nil

/-- A read then waits for it. -/
def awaitsRead (fd : Nat) : OsTrace :=
  [⟨.select fd true (toTimeval meterOptions.readTimeout), (0 : Int)⟩]

theorem awaitsRead_emitted (fd : Nat) :
    (TcpStreamTransport.invoke ⟨meterOptions, fd, true⟩ (.readSome ⟨false, 1⟩)).Emits
      (awaitsRead fd) :=
  ⟨_, .call .refl⟩

theorem handsOutBelow_opensWith {fd : Nat} (below : fd < limit) :
    HandsOutBelow limit (sessionTrace [opensWith fd] ++ awaitsRead fd) := by
  simpa [HandsOutBelow, opensWith, awaitsRead, TcpStreamTransport.connectTrace, descriptors]
    using below

theorem not_waitsInRange_opensWith {fd size : Nat} (beyond : size ≤ fd) :
    ¬ WaitsInRange size (sessionTrace [opensWith fd] ++ awaitsRead fd) := by
  intro waits
  have member : ⟨.select fd true (toTimeval meterOptions.readTimeout), (0 : Int)⟩ ∈
      sessionTrace [opensWith fd] ++ awaitsRead fd :=
    List.mem_append_right _ List.mem_cons_self
  have within := (waits _ member _ _ _ rfl).2
  omega

/-- The waits of all transports are in range if and only if the limit on descriptors
is at most the size of an `fd_set`. -/
theorem waits_confined_iff (limit size : Nat) :
    ((∀ options, WaitsConfined TcpStreamTransport.invoke (.new options) limit size) ∧
      (∀ options, WaitsConfined ServerSystem.invoke (.new options) limit size) ∧
      (∀ options, WaitsConfined UdpTransport.operate (.new options) limit size) ∧
      (∀ options, WaitsConfined SerialTransport.invoke (.new options) limit size)) ↔
      limit ≤ size := by
  constructor
  · intro confined
    by_contra beyond
    have below : size < limit := by omega
    exact not_waitsInRange_opensWith le_rfl
      (confined.1 meterOptions _ _ _ _ (opensWith_session size) (awaitsRead_emitted size)
        (handsOutBelow_opensWith below))
  · intro fits
    refine ⟨fun options => ?_, fun options => ?_, fun options => ?_, fun options => ?_⟩
    · exact waitsConfined_of_invariant
        (fun _ method within => TcpStreamTransport.invoke_confines within method) nofun fits
    · have initial : (ServerSystem.new options).Within limit := by
        refine ⟨fun listener present => ?_, nofun⟩
        cases present
        exact nofun
      exact waitsConfined_of_invariant
        (fun _ method within => ServerSystem.invoke_confines within method) initial fits
    · have preserved (before : UdpTransport) (method : UdpMethod)
          (within : InRange limit before.open_ before.socket_) :
          Confines limit (before.operate method) fun outcome =>
            InRange limit outcome.2.open_ outcome.2.socket_ :=
        UdpTransport.operate_confines within method
      exact waitsConfined_of_invariant preserved nofun fits
    · exact waitsConfined_of_invariant
        (fun _ method within => SerialTransport.invoke_confines within method) nofun fits

/-- An `fd_set` of 1024 bits, and a process that has as many descriptors open. -/
theorem waits_beyond_fd_set :
    ∃ history final method trace,
      Session TcpStreamTransport.invoke (.new meterOptions) history final ∧
        (final.invoke method).Emits trace ∧
        ¬ WaitsInRange 1024 (sessionTrace history ++ trace) :=
  ⟨[opensWith 1024], _, .readSome ⟨false, 1⟩, awaitsRead 1024, opensWith_session 1024,
    awaitsRead_emitted 1024, not_waitsInRange_opensWith le_rfl⟩

end DlmsTransport.Transport
