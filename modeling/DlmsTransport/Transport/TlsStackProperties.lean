import DlmsTransport.Transport.ByteStreamOwnership
import DlmsTransport.Transport.TlsSessionProperties

/-! The TLS wrapper over a concrete stream, with any backend: whatever the backend does with
the stream, a wrapper that closed or failed to open leaves no descriptor behind. -/

set_option autoImplicit false

namespace DlmsTransport.Transport

open Interaction Posix

open TcpStreamTransport (FailsOpen)

/-- The wrapper's calls as they bear on whether the lower stream may be open, with the
statuses that a handshake may end with. -/
def tlsOpenness (Concludes : TransportStatus → Prop) :
    Environment TlsCall TlsCall.Answer Bool where
  step _ request answer after :=
    match request, answer with
    | .lowerOpen, status => FailsOpen status → after = false
    | .lowerClose, _ => after = false
    | .handshake _, status => Concludes status
    | .lowerIsOpen, _ | .lowerReadSome _, _ | .lowerWriteAll _, _ | .backendClose, _
    | .backendReadSome _, _ | .backendWriteAll _, _ => True

section Backend

variable {β : Type} {backend : TlsStreamBackend β} {Concludes : TransportStatus → Prop}

/-- The handshakes of the backend end with no other status. -/
def TlsStreamBackend.Concluding (backend : TlsStreamBackend β)
    (Concludes : TransportStatus → Prop) : Prop :=
  ∀ self options, (backend.handshake self options).Ensures fun _ outcome => Concludes outcome.1

theorem TlsStreamBackend.concluding_any (backend : TlsStreamBackend β) :
    backend.Concluding fun _ => True :=
  fun _ _ _ _ _ => trivial

private theorem meets_anything {α : Type} (program : StreamProgram α) {opened : Bool} :
    program.Meets streamOpenness (.calls fun _ _ => True) (fun _ _ => True) opened :=
  program.only_true.meets_of_keeps (fun _ => True) (fun _ _ _ _ => trivial)
    (fun _ _ _ _ _ _ _ => trivial) trivial

theorem TlsStreamBackend.serve_meets (concluding : backend.Concluding Concludes) (opened : Bool)
    (self : β) (request : TlsCall) :
    (backend.serve self request).Meets streamOpenness (.calls fun _ _ => True)
      (fun after served => (tlsOpenness Concludes).step opened request served.1 after) opened := by
  cases request with
  | lowerOpen => exact ⟨trivial, fun _ _ stepped => stepped⟩
  | lowerClose => exact ⟨trivial, fun _ _ stepped => stepped⟩
  | lowerIsOpen | lowerReadSome | lowerWriteAll => exact ⟨trivial, fun _ _ _ => trivial⟩
  | handshake options =>
      refine ((meets_anything _).ensuring (concluding self options)).mono ?_
      intro after served known
      obtain ⟨_, _, accepted⟩ := known
      exact accepted
  | backendClose | backendReadSome | backendWriteAll => exact meets_anything _

end Backend

namespace TlsStreamTransport

/-- The calls after which the lower stream must be closed: `Close`, and an `Open` that got
as far as the stream and failed. -/
def Releases (self : TlsStreamTransport) (method : StreamMethod) (reply : StreamReply) : Prop :=
  method = .close ∨
    method = .open ∧ self.open_ = false ∧ self.hasValidConfiguration = true ∧ reply ≠ .status .ok

/-- What a call of a wired wrapper over a stream leaves. -/
structure Settled (Concludes : TransportStatus → Prop) (before : TlsStreamTransport)
    (method : StreamMethod) (reply : StreamReply) (opened : Bool) (after : TlsStreamTransport) :
    Prop where
  wired : after.Wired
  pointed : after.lower_ = true
  released : before.Releases method reply → opened = false
  accepted : before.open_ = false → after.open_ = true → Concludes .ok

variable {self : TlsStreamTransport} {Concludes : TransportStatus → Prop}

theorem Step.released {method : StreamMethod} {trace : TlsTrace} {reply : StreamReply}
    {after : TlsStreamTransport} {opened openedAfter : Bool}
    (step : Step self method trace reply after) (pointed : self.lower_ = true)
    (followed : (tlsOpenness Concludes).Follows opened trace openedAfter)
    (releases : self.Releases method reply) : openedAfter = false := by
  rcases releases with rfl | ⟨rfl, unopened, valid, failed⟩
  · cases step with
    | closedNothing _ absent => simp [absent] at pointed
    | closedLower =>
        obtain ⟨_, closed, rfl⟩ := followed
        exact closed
    | ended =>
        obtain ⟨_, _, _, closed, rfl⟩ := followed
        exact closed
  · cases step with
    | alreadyOpen opened => simp [opened] at unopened
    | invalidConfiguration _ invalid => simp [invalid] at valid
    | lowerRefused _ _ notOk notAlready =>
        obtain ⟨_, refused, rfl⟩ := followed
        exact refused ⟨notOk, notAlready⟩
    | handshakeFailed =>
        obtain ⟨_, _, _, _, _, closed, rfl⟩ := followed
        exact closed
    | established => exact absurd rfl failed

theorem Step.accepted {method : StreamMethod} {trace : TlsTrace} {reply : StreamReply}
    {after : TlsStreamTransport} {opened openedAfter : Bool}
    (step : Step self method trace reply after)
    (followed : (tlsOpenness Concludes).Follows opened trace openedAfter)
    (unopened : self.open_ = false) (established : after.open_ = true) : Concludes .ok := by
  cases step with
  | established =>
      obtain ⟨_, _, _, accepted, _⟩ := followed
      exact accepted
  | ended => cases established
  | _ => simp [unopened] at established

theorem Step.lower_eq {method : StreamMethod} {trace : TlsTrace} {reply : StreamReply}
    {after : TlsStreamTransport} (step : Step self method trace reply after) :
    after.lower_ = self.lower_ := by
  cases step <;> rfl

theorem Step.settled {method : StreamMethod} {trace : TlsTrace} {reply : StreamReply}
    {after : TlsStreamTransport} {opened openedAfter : Bool}
    (step : Step self method trace reply after) (wired : self.Wired) (pointed : self.lower_ = true)
    (followed : (tlsOpenness Concludes).Follows opened trace openedAfter) :
    Settled Concludes self method reply openedAfter after :=
  ⟨step.wired wired, step.lower_eq.trans pointed, step.released pointed followed,
    step.accepted followed⟩

theorem invoke_settles (Concludes : TransportStatus → Prop) (wired : self.Wired)
    (pointed : self.lower_ = true) (opened : Bool) (method : StreamMethod) :
    (self.invoke method).Meets (tlsOpenness Concludes) (.calls fun _ _ => True)
      (fun after outcome => Settled Concludes self method outcome.1 after outcome.2) opened := by
  have steps : (self.invoke method).Ensures fun trace outcome =>
      Step self method trace outcome.1 outcome.2 := fun _ _ run => step_of_runs wired run
  refine ((Program.only_true _).meets steps fun _ _ _ => trivial).mono ?_
  intro after outcome stepped
  obtain ⟨trace, followed, step⟩ := stepped
  exact step.settled wired pointed followed

theorem destroy_closes (wired : self.Wired) (pointed : self.lower_ = true) (opened : Bool) :
    self.destroy.Meets (tlsOpenness fun _ => True) (.calls fun _ _ => True)
      (fun after _ => after = false) opened := by
  have closing := Program.meets_map_iff.mp
    (invoke_settles (fun _ => True) wired pointed opened .close)
  refine Program.meets_bind_iff.mpr (closing.mono fun after outcome settled => ?_)
  exact settled.released (.inl rfl)

end TlsStreamTransport

namespace TlsStack

variable {β : Type} {backend : TlsStreamBackend β} {budget : Nat}
  {Concludes : TransportStatus → Prop}

/-- What is known of the wrapper's calls holds of the stack, down to the descriptors. -/
theorem run_custodial (concluding : backend.Concluding Concludes) {self : TlsStack β}
    {opened : Bool} {live : Set Int} (stands : self.lower.Stands opened live) {α : Type}
    {program : TlsProgram α} {post : Bool → α → Prop}
    (met : program.Meets (tlsOpenness Concludes) (.calls fun _ _ => True) post opened) :
    Custodial (self.run backend budget program) live fun after outcome =>
      ∃ next, post next outcome.1.1 ∧ outcome.2.Stands next after := by
  have served : (program.servedBy backend.serve self.backend).Meets streamOpenness
      (.calls fun _ _ => True) (fun after outcome => ∃ next, post next outcome.1 ∧ after = next)
      opened := by
    refine met.servedBy (fun opened below _ => below = opened) ?_ rfl
    intro opened below state request same _
    subst same
    exact (backend.serve_meets concluding below state request).mono fun after served stepped =>
      ⟨after, stepped, rfl⟩
  refine (served.servedBy ByteStream.Stands ?_ stands).mono ?_
  · intro opened live lower request stands _
    exact ByteStream.serve_custodial budget opened live lower request stands
  · intro after outcome found
    obtain ⟨below, ⟨next, held, rfl⟩, stands⟩ := found
    exact ⟨below, held, stands⟩

/-- What holds of a stack between two calls. -/
structure Keeps (live : Set Int) (stack : TlsStack β) : Prop where
  wired : stack.wrapper.Wired
  pointed : stack.wrapper.lower_ = true
  owns : stack.lower.Owns live

variable {self : TlsStack β} {live : Set Int}

/-- A call keeps that, with what is known of the wrapper's part in it. -/
theorem invoke_custodial (concluding : backend.Concluding Concludes) (owns : self.lower.Owns live)
    {method : StreamMethod} (Known : StreamReply → Prop)
    (settles : (self.wrapper.invoke method).Meets (tlsOpenness Concludes) (.calls fun _ _ => True)
      (fun after outcome => self.wrapper.Settled Concludes method outcome.1 after outcome.2 ∧
        Known outcome.1) true) :
    Custodial (self.invoke backend budget method) live fun after outcome =>
      outcome.2.Keeps after ∧ (self.wrapper.Releases method outcome.1 → after = ∅) ∧
        (self.wrapper.open_ = false → outcome.2.wrapper.open_ = true → Concludes .ok) ∧
        Known outcome.1 := by
  refine Program.meets_bind_iff.mpr ((run_custodial concluding (.opened owns) settles).mono ?_)
  intro after outcome found
  obtain ⟨next, ⟨settled, known⟩, stands⟩ := found
  exact ⟨⟨settled.wired, settled.pointed, stands.owns⟩,
    fun releases => stands.empty (settled.released releases), settled.accepted, known⟩

theorem invoke_keeps (keeps : self.Keeps live) (method : StreamMethod) :
    Custodial (self.invoke backend budget method) live fun after outcome =>
      outcome.2.Keeps after ∧ (self.wrapper.Releases method outcome.1 → after = ∅) := by
  obtain ⟨wired, pointed, owns⟩ := keeps
  have settles := TlsStreamTransport.invoke_settles (fun _ => True) wired pointed true method
  refine (invoke_custodial backend.concluding_any owns (fun _ => True)
    (settles.mono fun _ _ settled => ⟨settled, trivial⟩)).mono ?_
  intro after outcome kept
  exact ⟨kept.1, kept.2.1⟩

theorem destroy_custodial (keeps : self.Keeps live) :
    Custodial (self.destroy backend budget) live fun after _ => after = ∅ := by
  obtain ⟨wired, pointed, owns⟩ := keeps
  have closes := self.wrapper.destroy_closes wired pointed true
  have concluding := backend.concluding_any
  refine Program.meets_bind_iff.mpr ((run_custodial concluding (.opened owns) closes).mono ?_)
  intro after outcome found
  obtain ⟨next, rfl, stands⟩ := found
  exact stands.empty rfl

/-- To the stream the layers above are a client like any other. -/
theorem invoke_client {method : StreamMethod} {trace : OsTrace} {reply : StreamReply}
    {after : TlsStack β} (run : (self.invoke backend budget method).Runs trace (reply, after)) :
    ∃ calls, Session ByteStream.invoke self.lower calls after.lower ∧
      sessionTrace calls = trace := by
  obtain ⟨front, back, outcome, rfl, ran, concluded⟩ := Program.runs_bind_iff.mp run
  obtain ⟨rfl, rfl, rfl⟩ := Program.runs_done_pair_iff.mp concluded
  rw [List.append_nil]
  obtain ⟨_, _, served⟩ := Program.runs_servedBy_iff.mp ran
  refine served.session ?_
  exact ByteStream.serve_invokes

end TlsStack

abbrev TlsStackInvocation (β : Type) :=
  Invocation (TlsStack β) StreamMethod OsCall OsCall.Answer StreamReply

/-- A wrapper just made for a stream that holds the descriptors of `held`. -/
structure TlsStack.Fresh {β : Type} (stack : TlsStack β) (held : Set Int) : Prop where
  wrapper : ∃ backend options, stack.wrapper = .new true backend options
  owns : stack.lower.Owns held

/-- What ownership means for a stack that started with the descriptors of `held`. -/
structure TlsDescriptorsOwned {β : Type} (backend : TlsStreamBackend β) (budget : Nat)
    (start : TlsStack β) (held : Set Int) (history : List (TlsStackInvocation β))
    (final : TlsStack β) : Prop where
  /-- The calls on the descriptors are those of some session of the stream alone. -/
  client : ∃ calls, Session ByteStream.invoke start.lower calls final.lower ∧
    sessionTrace calls = sessionTrace history
  /-- What the lower stream holds open is all that is live. -/
  owned : ∀ front invocation back live, history = front ++ invocation :: back →
    descriptors.ledger.Follows held (sessionTrace (front ++ [invocation])) live →
    ∀ fd, fd ∈ live ↔ invocation.after.lower.descriptor? = some fd
  /-- A further call, finished or not, is on live descriptors only. -/
  usesLive : ∀ method trace, (final.invoke backend budget method).Emits trace →
    descriptors.ledger.Respects descriptors.UsesLive held (sessionTrace history ++ trace)
  /-- `Close` leaves no descriptor behind, and neither does an `Open` that fails, wherever it
  does. -/
  released : ∀ front invocation back live, history = front ++ invocation :: back →
    descriptors.ledger.Follows held (sessionTrace (front ++ [invocation])) live →
    invocation.before.wrapper.Releases invocation.method invocation.reply → live = ∅
  /-- When the destructor has run, every descriptor was obtained and closed in turn, and
  none is left. -/
  destroyed : ∀ trace lower live, (final.destroy backend budget).Runs trace lower →
    descriptors.ledger.Follows held (sessionTrace history ++ trace) live →
    live = ∅ ∧
      ∀ fd, Alternates (fd ∈ held) (descriptors.lifecycle fd (sessionTrace history ++ trace)) False

section Sessions

variable {β : Type} {backend : TlsStreamBackend β} {budget : Nat} {start final : TlsStack β}
  {held : Set Int} {history : List (TlsStackInvocation β)}

theorem TlsStack.Fresh.keeps (fresh : start.Fresh held) : start.Keeps held := by
  obtain ⟨⟨backed, options, made⟩, owns⟩ := fresh
  refine ⟨?_, by simp [made, TlsStreamTransport.new], owns⟩
  intro opened
  simp [made, TlsStreamTransport.new] at opened

theorem TlsStack.session_keeps (keeps : start.Keeps held)
    (session : Session (TlsStack.invoke backend budget) start history final) :
    descriptors.ledger.Respects descriptors.UsesLive held (sessionTrace history) ∧
      ∀ live, descriptors.ledger.Follows held (sessionTrace history) live → final.Keeps live := by
  have concluding := backend.concluding_any
  have preserved (live : Set Int) (before : TlsStack β) (method : StreamMethod)
      (keeps : before.Keeps live) :
      Custodial (before.invoke backend budget method) live fun after outcome =>
        outcome.2.Keeps after :=
    (TlsStack.invoke_keeps keeps method).mono fun _ _ kept => kept.1
  exact session.meets preserved keeps

theorem TlsStack.session_client
    (session : Session (TlsStack.invoke backend budget) start history final) :
    ∃ calls, Session ByteStream.invoke start.lower calls final.lower ∧
      sessionTrace calls = sessionTrace history := by
  induction session with
  | nil => exact ⟨[], .nil, rfl⟩
  | cons run _ ih =>
      obtain ⟨first, opening, same⟩ := TlsStack.invoke_client run
      obtain ⟨rest, following, alike⟩ := ih
      refine ⟨first ++ rest, Session.append_iff.mpr ⟨_, opening, following⟩, ?_⟩
      rw [sessionTrace_cons, ← same, ← alike]
      exact List.flatMap_append

/-- Whatever the backend does with the stream it is given, closing or destroying the wrapper
closes what the stream held, and so does every `Open` that fails. -/
theorem tls_descriptors_owned (fresh : start.Fresh held)
    (session : Session (TlsStack.invoke backend budget) start history final) :
    TlsDescriptorsOwned backend budget start held history final := by
  have concluding := backend.concluding_any
  obtain ⟨respected, keeping⟩ := TlsStack.session_keeps fresh.keeps session
  constructor
  · exact TlsStack.session_client session
  · intro front invocation back live split followed
    subst split
    exact ((TlsStack.session_keeps fresh.keeps session.through.2.1).2 live followed).owns.mem_iff
  · intro method trace emitted
    apply Environment.respects_append respected
    intro live followed
    exact (TlsStack.invoke_keeps (keeping live followed) method).respects emitted
  · intro front invocation back live split followed releases
    subst split
    obtain ⟨middle, head, tail⟩ : ∃ middle, descriptors.ledger.Follows held (sessionTrace front)
        middle ∧ descriptors.ledger.Follows middle invocation.trace live := by
      simpa [sessionTrace, Environment.follows_append_iff] using followed
    have before := (TlsStack.session_keeps fresh.keeps session.through.1).2 middle head
    have run := session.runs_of_mem (List.mem_append_right front List.mem_cons_self)
    exact ((TlsStack.invoke_keeps before _).runs run tail).2 releases
  · intro trace lower live run followed
    have closing (middle : Set Int)
        (head : descriptors.ledger.Follows held (sessionTrace history) middle) :
        Custodial (final.destroy backend budget) middle fun after _ => after = ∅ :=
      TlsStack.destroy_custodial (keeping middle head)
    have whole := Environment.respects_append respected fun middle head =>
      (closing middle head).respects run.emits
    obtain ⟨middle, head, tail⟩ := Environment.follows_append_iff.mp followed
    obtain rfl : live = ∅ := (closing middle head).runs run tail
    refine ⟨rfl, fun fd => ?_⟩
    simpa using Custody.lifecycle_alternates whole followed fd

end Sessions

/-- A wrapper over a client stream, and the same once it is open. -/
def fakeTlsStack : TlsStack FakeTlsBackend where
  wrapper := meterTls
  backend := ⟨.ok, 0, 0⟩
  lower := .tcp (.new meterOptions)

def fakeTlsStackOpen : TlsStack FakeTlsBackend where
  wrapper := { meterTls with open_ := true }
  backend := ⟨.ok, 0, 1⟩
  lower := .tcp meterStream

def fakeTlsRun : List (TlsStackInvocation FakeTlsBackend) :=
  [⟨fakeTlsStack, .open, TcpStreamTransport.connectTrace meterOptions 0 meterAddress 3,
      .status .ok, fakeTlsStackOpen⟩,
    ⟨fakeTlsStackOpen, .close, [⟨.close 3, ()⟩], .status .ok,
      { fakeTlsStack with backend := ⟨.ok, 1, 1⟩ }⟩]

theorem fakeTlsRun_session :
    Session (TlsStack.invoke fakeTlsBackend 0) fakeTlsStack fakeTlsRun
      { fakeTlsStack with backend := ⟨.ok, 1, 1⟩ } :=
  .cons (.call (.call (.call (.call (.call (.call .refl)))))) (.cons (.call .refl) .nil)

theorem tls_descriptors_owned_fake :
    TlsDescriptorsOwned fakeTlsBackend 0 fakeTlsStack ∅ fakeTlsRun
      { fakeTlsStack with backend := ⟨.ok, 1, 1⟩ } :=
  tls_descriptors_owned ⟨⟨true, _, rfl⟩, .closed rfl rfl⟩ fakeTlsRun_session

end DlmsTransport.Transport
