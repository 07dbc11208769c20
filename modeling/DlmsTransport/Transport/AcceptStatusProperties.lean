import DlmsTransport.Transport.TcpServer

/-! The contract of `Accept`: its documented statuses, and what becomes of the descriptor
that `accept` returned. -/

set_option autoImplicit false

namespace DlmsTransport.Transport

open Interaction Posix

/-- Every descriptor that `accept` returned is closed later on. -/
def ClosesAccepted : OsTrace → Prop
  | [] => True
  | ⟨.accept _, .ok fd⟩ :: rest => ⟨.close fd, ()⟩ ∈ rest ∧ ClosesAccepted rest
  | _ :: rest => ClosesAccepted rest

def acceptStatuses : List TransportStatus :=
  [.ok, .invalidArgument, .notOpen, .timeout, .openFailed]

/-- What `Accept` owes, given the calls it made. -/
structure AcceptKept (trace : OsTrace)
    (outcome : Option TransportStatus × Option AcceptedTcpStream) : Prop where
  documented : ∃ status ∈ acceptStatuses, outcome.1 = some status
  connected : (∃ stream, outcome.2 = some stream ∧ stream.isOpen = true) ↔ outcome.1 = some .ok
  withheld : outcome.1 ≠ some .ok → outcome.2 = none ∧ ClosesAccepted trace

/-- The answers that `Accept` has no documented status for. -/
def spoilsAccept : (request : OsCall) → request.Answer → Bool
  | .accept _, .error error => AcceptedTcpStream.isWouldBlock error
  | .allocate, allocated => !allocated
  | _, _ => false

def Unspoiled (trace : OsTrace) : Prop :=
  ∀ event ∈ trace, spoilsAccept event.request event.answer = false

@[simp] theorem unspoiled_nil : Unspoiled [] := by
  simp [Unspoiled]

@[simp] theorem unspoiled_cons_iff {event : OsEvent} {rest : OsTrace} :
    Unspoiled (event :: rest) ↔
      spoilsAccept event.request event.answer = false ∧ Unspoiled rest :=
  List.forall_mem_cons

theorem acceptKept_refused {trace : OsTrace} {status : TransportStatus}
    (documented : status ∈ acceptStatuses) (failed : status ≠ .ok)
    (closes : ClosesAccepted trace) : AcceptKept trace (some status, none) where
  documented := ⟨status, documented, rfl⟩
  connected := by simp [failed]
  withheld _ := ⟨rfl, closes⟩

theorem acceptKept_connected {trace : OsTrace} {stream : AcceptedTcpStream}
    (opened : stream.isOpen = true) : AcceptKept trace (some .ok, some stream) where
  documented := ⟨.ok, .head _, rfl⟩
  connected := ⟨fun _ => rfl, fun _ => ⟨stream, rfl, opened⟩⟩
  withheld failed := absurd rfl failed

theorem not_acceptKept {trace : OsTrace}
    {outcome : Option TransportStatus × Option AcceptedTcpStream}
    (undocumented : ∀ status ∈ acceptStatuses, outcome.1 ≠ some status) :
    ¬ AcceptKept trace outcome := by
  intro kept
  obtain ⟨status, documented, same⟩ := kept.documented
  exact undocumented status documented same

@[simp] theorem unspoiled_append_iff {front back : OsTrace} :
    Unspoiled (front ++ back) ↔ Unspoiled front ∧ Unspoiled back :=
  List.forall_mem_append

/-- The two `fcntl` calls neither spoil anything nor hand out a descriptor. -/
theorem setNonBlocking_ensures (socket : NativeSocket) :
    (setNonBlocking socket).Ensures fun trace _ =>
      Unspoiled trace ∧ ∀ later, ClosesAccepted (trace ++ later) ↔ ClosesAccepted later := by
  rw [setNonBlocking, Program.ask_bind, Program.ensures_call_iff]
  intro (flags : Int)
  split
  · rw [Program.ask_bind, Program.ensures_call_iff]
    intro result
    exact Program.ensures_done_iff.mpr ⟨by simp [spoilsAccept], fun _ => Iff.rfl⟩
  · exact Program.ensures_done_iff.mpr ⟨by simp [spoilsAccept], fun _ => Iff.rfl⟩

namespace TcpServerTransport

variable (self : TcpServerTransport)

theorem acceptNone_kept_iff :
    (self.accept none).Ensures fun trace outcome => AcceptKept trace outcome ↔ Unspoiled trace := by
  have refused {trace : OsTrace} {status : TransportStatus} (documented : status ∈ acceptStatuses)
      (failed : status ≠ .ok) (closes : ClosesAccepted trace) (unspoiled : Unspoiled trace) :
      AcceptKept trace (some status, none) ↔ Unspoiled trace :=
    iff_of_true (acceptKept_refused documented failed closes) unspoiled
  rw [accept, resetConnection, Program.pure_eq, Program.done_bind]
  split
  · exact Program.ensures_done_iff.mpr (refused (by decide) (by decide) trivial unspoiled_nil)
  · rw [waitForDescriptor_bind, Program.ensures_call_iff]
    intro result
    split
    · exact Program.ensures_done_iff.mpr
        (refused (by decide) (by decide) trivial (by simp [spoilsAccept]))
    · split
      · exact Program.ensures_done_iff.mpr
          (refused (by decide) (by decide) trivial (by simp [spoilsAccept]))
      · rw [Program.ask_bind, Program.ensures_call_iff]
        intro answer
        cases answer with
        | error error =>
            dsimp only
            split
            · next blocks =>
              refine Program.ensures_done_iff.mpr (iff_of_false ?_ (by simp [spoilsAccept, blocks]))
              exact not_acceptKept (by simp [acceptStatuses])
            · next fails =>
              exact Program.ensures_done_iff.mpr
                (refused (by decide) (by decide) trivial (by simpa [spoilsAccept] using fails))
        | ok fd =>
            dsimp only
            rw [Program.ensures_bind_iff]
            refine (setNonBlocking_ensures _).mono ?_
            intro front nonBlocking quiet
            obtain ⟨unspoiled, keeps⟩ := quiet
            split
            · rw [closeNativeSocket_bind, Program.ensures_call_iff]
              intro closed
              exact Program.ensures_done_iff.mpr
                (refused (by decide) (by decide) (by simp [ClosesAccepted, keeps])
                  (by simp [spoilsAccept, unspoiled]))
            · rw [Program.ask_bind, Program.ensures_call_iff]
              intro (allocated : Bool)
              split
              · next succeeded =>
                exact Program.ensures_done_iff.mpr (iff_of_true (acceptKept_connected rfl)
                  (by simp [spoilsAccept, unspoiled, succeeded]))
              · next failed =>
                refine Program.ensures_done_iff.mpr
                  (iff_of_false ?_ (by simp [spoilsAccept, failed]))
                exact not_acceptKept (by simp)

end TcpServerTransport

/-- `Accept` keeps its contract exactly when no answer spoils it. `before` is what the destructor
of the earlier connection did. -/
theorem accept_kept_iff {self : TcpServerTransport} {connection : Option (OsProgram Unit)}
    {before trace : OsTrace} {outcome : Option TransportStatus × Option AcceptedTcpStream}
    (reset : (resetConnection connection).Runs before ())
    (run : (self.accept connection).Runs (before ++ trace) outcome) :
    AcceptKept trace outcome ↔ Unspoiled trace := by
  rw [self.accept_eq connection] at run
  have accepted := (reset.bind fun _ => self.accept none).runs_append_iff.mp run
  exact self.acceptNone_kept_iff trace outcome accepted

/-- A listener on descriptor 3. -/
def meterListener : TcpServerTransport := ⟨{}, 3, true, 4059⟩

/-- The new connection is on descriptor 5. -/
def acceptingTrace : OsTrace :=
  [⟨.select 3 true ⟨5, 0⟩, (1 : Int)⟩, ⟨.accept 3, .ok 5⟩, ⟨.fcntlGetFlags 5, (2 : Int)⟩,
    ⟨.fcntlSetNonBlock 5 2, (0 : Int)⟩, ⟨.allocate, true⟩]

/-- It replaces an earlier one on descriptor 7. -/
theorem accept_kept_meter :
    AcceptKept acceptingTrace (some .ok, some (.new 5 ⟨5000⟩ ⟨5000⟩)) ↔
      Unspoiled acceptingTrace := by
  have reset : (resetConnection
      (some (AcceptedTcpStream.new 7 ⟨5000⟩ ⟨5000⟩).destroy)).Runs [⟨.close 7, ()⟩] () :=
    .call .refl
  have run : (meterListener.accept
      (some (AcceptedTcpStream.new 7 ⟨5000⟩ ⟨5000⟩).destroy)).Runs
        ([⟨.close 7, ()⟩] ++ acceptingTrace) (some .ok, some (.new 5 ⟨5000⟩ ⟨5000⟩)) :=
    .call (.call (.call (.call (.call (.call .refl)))))
  exact accept_kept_iff reset run

/-- The client is gone when `accept` is called. -/
def vanishedTrace : OsTrace :=
  [⟨.select 3 true ⟨5, 0⟩, (1 : Int)⟩, ⟨.accept 3, .error .eagain⟩]

/-- There is no memory for the stream object. -/
def exhaustedTrace : OsTrace :=
  [⟨.select 3 true ⟨5, 0⟩, (1 : Int)⟩, ⟨.accept 3, .ok 5⟩, ⟨.fcntlGetFlags 5, (2 : Int)⟩,
    ⟨.fcntlSetNonBlock 5 2, (0 : Int)⟩, ⟨.allocate, false⟩]

theorem accept_not_kept :
    ((meterListener.accept none).Runs vanishedTrace (some .wouldBlock, none) ∧
      ¬ AcceptKept vanishedTrace (some .wouldBlock, none)) ∧
    (meterListener.accept none).Runs exhaustedTrace (none, none) ∧
      ¬ AcceptKept exhaustedTrace (none, none) ∧ ¬ ClosesAccepted exhaustedTrace := by
  refine ⟨⟨.call (.call .refl), not_acceptKept (by decide)⟩,
    .call (.call (.call (.call (.call .refl)))), not_acceptKept (by decide), ?_⟩
  simp [exhaustedTrace, ClosesAccepted]

end DlmsTransport.Transport
