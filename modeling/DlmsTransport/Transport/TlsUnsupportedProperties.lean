import DlmsTransport.Transport.StreamTransfers
import DlmsTransport.Transport.TlsStackProperties

/-! The TLS wrapper with the backend that supports nothing fails closed: it never opens,
moves no byte of anyone's, and leaves no connection behind. -/

set_option autoImplicit false

namespace DlmsTransport.Transport

open Interaction Posix

open TcpStreamTransport (FailsOpen)

namespace TlsStreamTransport

/-- The calls other than the transfers on the lower stream. -/
def Ordinary : TlsCall → Prop
  | .lowerReadSome _ | .lowerWriteAll _ => False
  | _ => True

theorem close_ordinary (self : TlsStreamTransport) : self.close.Only Ordinary := by
  unfold TlsStreamTransport.close
  split
  · split
    · exact ⟨trivial, fun _ => trivial⟩
    · trivial
  · dsimp only
    split
    · refine ⟨trivial, fun status => ?_⟩
      split
      · exact ⟨trivial, fun _ => trivial⟩
      · trivial
    · split
      · exact ⟨trivial, fun _ => trivial⟩
      · trivial

theorem invoke_ordinary (self : TlsStreamTransport) (method : StreamMethod) :
    (self.invoke method).Only Ordinary := by
  cases method with
  | «open» =>
      refine Program.Only.map ?_
      unfold TlsStreamTransport.open
      split
      · trivial
      · split
        · trivial
        · rw [Program.ask_bind]
          refine ⟨trivial, fun opened => ?_⟩
          dsimp only
          split
          · trivial
          · rw [Program.ask_bind]
            refine ⟨trivial, fun status => ?_⟩
            dsimp only
            split
            · exact ⟨trivial, fun _ => trivial⟩
            · trivial
  | close => exact self.close_ordinary.map
  | isOpen =>
      refine Program.Only.map ?_
      unfold TlsStreamTransport.isOpen
      split
      · exact ⟨trivial, fun _ => trivial⟩
      · trivial
  | readSome output =>
      refine Program.Only.map ?_
      unfold TlsStreamTransport.readSome
      split
      · trivial
      · split
        · trivial
        · exact ⟨trivial, fun _ => trivial⟩
  | writeAll input budget =>
      refine Program.Only.map ?_
      unfold TlsStreamTransport.writeAll
      split
      · trivial
      · split
        · trivial
        · exact ⟨trivial, fun _ => trivial⟩

/-- What a caller is told by a wrapper that does not open. -/
def Refuses : StreamMethod → StreamReply → Prop
  | .open, reply => ∃ status, reply = .status status ∧ FailsOpen status
  | .close, reply => reply = .status .ok
  | .isOpen, reply => reply = .flag false
  | .readSome _, reply => reply = .read (.empty .notOpen)
  | .writeAll _ _, reply => reply = .status .notOpen

/-- The same for a wrapper that is closed now, apart from `Open`. -/
private theorem closed_refuses {self : TlsStreamTransport} (closed : self.open_ = false)
    {method : StreamMethod} (other : method ≠ .open) :
    (self.invoke method).Ensures fun _ outcome => Refuses method outcome.1 := by
  cases method with
  | «open» => exact absurd rfl other
  | close =>
      rw [invoke, Program.ensures_map_iff, close, if_pos closed]
      split
      · rw [Program.ask_bind, Program.ensures_call_iff]
        exact fun _ => Program.ensures_done_iff.mpr rfl
      · exact Program.ensures_done_iff.mpr rfl
  | isOpen =>
      rw [invoke, isOpen, closed]
      exact Program.ensures_done_iff.mpr rfl
  | readSome output =>
      rw [invoke, readSome, if_pos closed]
      exact Program.ensures_done_iff.mpr rfl
  | writeAll input budget =>
      rw [invoke, writeAll, if_pos closed]
      exact Program.ensures_done_iff.mpr rfl

/-- Handshakes that end with one status, which is not `Ok`. -/
private theorem open_refuses {self : TlsStreamTransport} {trace : TlsTrace} {reply : StreamReply}
    {after : TlsStreamTransport} {opened openedAfter : Bool} (closed : self.open_ = false)
    (step : Step self .open trace reply after)
    (followed : (tlsOpenness (· = .unsupportedFeature)).Follows opened trace openedAfter) :
    Refuses .open reply := by
  cases step with
  | alreadyOpen opened => simp [closed] at opened
  | invalidConfiguration => exact ⟨_, rfl, by simp [FailsOpen]⟩
  | lowerRefused _ _ notOk notAlready => exact ⟨_, rfl, notOk, notAlready⟩
  | handshakeFailed =>
      obtain ⟨_, _, _, rfl, _⟩ := followed
      exact ⟨_, rfl, by simp [FailsOpen]⟩
  | established =>
      obtain ⟨_, _, _, concluded, _⟩ := followed
      cases concluded

/-- A closed wrapper whose backend supports nothing refuses every call. -/
theorem invoke_refuses {self : TlsStreamTransport} (wired : self.Wired)
    (pointed : self.lower_ = true) (closed : self.open_ = false) (method : StreamMethod) :
    (self.invoke method).Meets (tlsOpenness (· = .unsupportedFeature)) (.calls fun _ _ => True)
      (fun after outcome =>
        self.Settled (· = .unsupportedFeature) method outcome.1 after outcome.2 ∧
          Refuses method outcome.1) true := by
  by_cases opens : method = .open
  · subst opens
    have steps : (self.invoke .open).Ensures fun trace outcome =>
        Step self .open trace outcome.1 outcome.2 := fun _ _ run => step_of_runs wired run
    refine ((Program.only_true _).meets steps fun _ _ _ => trivial).mono ?_
    intro after outcome stepped
    obtain ⟨trace, followed, step⟩ := stepped
    exact ⟨step.settled wired pointed followed, open_refuses closed step followed⟩
  · have settles := invoke_settles (· = .unsupportedFeature) wired pointed true method
    refine (settles.ensuring (closed_refuses closed opens)).mono ?_
    intro after outcome known
    obtain ⟨settled, _, refuses⟩ := known
    exact ⟨settled, refuses⟩

end TlsStreamTransport

theorem unsupported_concluding :
    unsupportedTlsStreamBackend.Concluding (· = .unsupportedFeature) :=
  fun _ _ => Program.ensures_done_iff.mpr rfl

/-- The calls on a stream that transfer nothing. -/
def StreamCall.Ordinary : StreamCall → Prop
  | .open | .close | .isOpen => True
  | .readSome _ | .writeAll _ => False

theorem unsupported_serve_ordinary (self : Unit) (request : TlsCall)
    (ordinary : TlsStreamTransport.Ordinary request) :
    (unsupportedTlsStreamBackend.serve self request).Only StreamCall.Ordinary := by
  cases request with
  | lowerReadSome | lowerWriteAll => exact ordinary.elim
  | lowerOpen | lowerClose | lowerIsOpen => exact ⟨trivial, fun _ => trivial⟩
  | handshake | backendReadSome | backendWriteAll => trivial
  | backendClose => exact ⟨trivial, fun _ => trivial⟩

theorem ByteStream.serve_movesNothing (budget : Nat) (self : ByteStream) (request : StreamCall)
    (ordinary : request.Ordinary) : MovesNothing (self.serve budget request) := by
  cases request with
  | «open» => exact self.openStream_movesNothing
  | close => exact self.close_movesNothing
  | isOpen => trivial
  | readSome | writeAll => exact ordinary.elim

namespace TlsStack

variable {budget : Nat} {self : TlsStack Unit} {live : Set Int}

theorem invoke_movesNothing (method : StreamMethod) :
    MovesNothing (self.invoke unsupportedTlsStreamBackend budget method) := by
  have asked := (self.wrapper.invoke_ordinary method).servedBy unsupported_serve_ordinary
    self.backend
  exact (asked.servedBy (ByteStream.serve_movesNothing budget) self.lower).bind fun _ => trivial

/-- What holds of a stack that never opens. -/
structure Refusing (live : Set Int) (stack : TlsStack Unit) : Prop where
  keeps : stack.Keeps live
  closed : stack.wrapper.open_ = false

theorem invoke_refuses (refusing : self.Refusing live) (method : StreamMethod) :
    Custodial (self.invoke unsupportedTlsStreamBackend budget method) live fun after outcome =>
      outcome.2.Refusing after ∧ (self.wrapper.Releases method outcome.1 → after = ∅) ∧
        TlsStreamTransport.Refuses method outcome.1 := by
  obtain ⟨⟨wired, pointed, owns⟩, closed⟩ := refusing
  refine (invoke_custodial unsupported_concluding owns _
    (TlsStreamTransport.invoke_refuses wired pointed closed method)).mono ?_
  intro after outcome kept
  obtain ⟨keeps, released, accepted, refuses⟩ := kept
  refine ⟨⟨keeps, ?_⟩, released, refuses⟩
  by_contra opened
  cases accepted closed (by simpa using opened)

end TlsStack

/-- What it means for a stack with the backend that supports nothing to fail closed. -/
structure FailsClosed (budget : Nat) (held : Set Int) (history : List (TlsStackInvocation Unit))
    (final : TlsStack Unit) : Prop where
  /-- No call succeeds, other than `Close`. -/
  refused : ∀ front invocation back live, history = front ++ invocation :: back →
    descriptors.ledger.Follows held (sessionTrace (front ++ [invocation])) live →
    TlsStreamTransport.Refuses invocation.method invocation.reply
  /-- No call moves a byte, a further unfinished one included. -/
  silent : ∀ method trace, (final.invoke unsupportedTlsStreamBackend budget method).Emits trace →
    ∀ event ∈ sessionTrace history ++ trace, movesData event.request = false
  /-- A connection that an `Open` made is closed when it returns. -/
  disconnected : ∀ front invocation back live, history = front ++ invocation :: back →
    descriptors.ledger.Follows held (sessionTrace (front ++ [invocation])) live →
    invocation.method = .open → invocation.before.wrapper.hasValidConfiguration = true → live = ∅

section Sessions

variable {budget : Nat} {start final : TlsStack Unit} {held : Set Int}
  {history : List (TlsStackInvocation Unit)}

theorem TlsStack.Fresh.refusing (fresh : start.Fresh held) : start.Refusing held := by
  refine ⟨fresh.keeps, ?_⟩
  obtain ⟨backed, options, made⟩ := fresh.wrapper
  rw [made]
  rfl

theorem TlsStack.session_refuses (fresh : start.Fresh held)
    (session : Session (TlsStack.invoke unsupportedTlsStreamBackend budget) start history final) :
    ∀ live, descriptors.ledger.Follows held (sessionTrace history) live → final.Refusing live := by
  have preserved (live : Set Int) (before : TlsStack Unit) (method : StreamMethod)
      (refusing : before.Refusing live) :
      Custodial (before.invoke unsupportedTlsStreamBackend budget method) live fun after outcome =>
        outcome.2.Refusing after :=
    (TlsStack.invoke_refuses refusing method).mono fun _ _ refused => refused.1
  exact (session.meets preserved fresh.refusing).2

private theorem last_call {front : List (TlsStackInvocation Unit)}
    {invocation : TlsStackInvocation Unit} {live : Set Int} (fresh : start.Fresh held)
    (session : Session (TlsStack.invoke unsupportedTlsStreamBackend budget) start
      (front ++ [invocation]) final)
    (followed : descriptors.ledger.Follows held (sessionTrace (front ++ [invocation])) live) :
    invocation.before.wrapper.open_ = false ∧
      (invocation.before.wrapper.Releases invocation.method invocation.reply → live = ∅) ∧
      TlsStreamTransport.Refuses invocation.method invocation.reply := by
  obtain ⟨middle, head, tail⟩ : ∃ middle, descriptors.ledger.Follows held (sessionTrace front)
      middle ∧ descriptors.ledger.Follows middle invocation.trace live := by
    simpa [sessionTrace, Environment.follows_append_iff] using followed
  have refusing := TlsStack.session_refuses fresh session.through.1 middle head
  have run := session.runs_of_mem (List.mem_append_right front (List.mem_singleton_self _))
  exact ⟨refusing.closed, ((TlsStack.invoke_refuses refusing _).runs run tail).2⟩

/-- With the backend that supports nothing a TLS stream never opens, never moves a byte and
never keeps the connection that it made to find that out. -/
theorem tls_fails_closed (fresh : start.Fresh held)
    (session : Session (TlsStack.invoke unsupportedTlsStreamBackend budget) start history final) :
    FailsClosed budget held history final := by
  constructor
  · intro front invocation back live split followed
    subst split
    exact (last_call fresh session.through.2.1 followed).2.2
  · intro method trace emitted event member
    rcases List.mem_append.mp member with past | present
    · obtain ⟨invocation, called, made⟩ := List.mem_flatMap.mp past
      have run := session.runs_of_mem called
      exact (TlsStack.invoke_movesNothing _).mem run event made
    · obtain ⟨_, leading⟩ := emitted
      exact (TlsStack.invoke_movesNothing method).mem leading event present
  · intro front invocation back live split followed opens valid
    subst split
    obtain ⟨closed, released, refuses⟩ := last_call fresh session.through.2.1 followed
    refine released (.inr ⟨opens, closed, valid, ?_⟩)
    rw [opens] at refuses
    obtain ⟨status, replied, failed⟩ := refuses
    rw [replied]
    exact fun same => failed.1 (StreamReply.status.inj same)

end Sessions

/-- A wrapper with that backend over a client stream. -/
def meterTlsStack : TlsStack Unit where
  wrapper := meterTls
  backend := ()
  lower := .tcp (.new meterOptions)

def unsupportedOpen : TlsStackInvocation Unit where
  before := meterTlsStack
  method := .open
  trace := TcpStreamTransport.connectTrace meterOptions 0 meterAddress 3 ++ [⟨.close 3, ()⟩]
  reply := .status .unsupportedFeature
  after := meterTlsStack

theorem unsupportedOpen_session :
    Session (TlsStack.invoke unsupportedTlsStreamBackend 0) meterTlsStack [unsupportedOpen]
      meterTlsStack :=
  .cons (.call (.call (.call (.call (.call (.call (.call .refl))))))) .nil

theorem meterTlsStack_fresh : meterTlsStack.Fresh ∅ :=
  ⟨⟨true, _, rfl⟩, .closed rfl rfl⟩

theorem tls_fails_closed_meter : FailsClosed 0 ∅ [unsupportedOpen] meterTlsStack :=
  tls_fails_closed meterTlsStack_fresh unsupportedOpen_session

end DlmsTransport.Transport
