import DlmsTransport.Transport.TcpOwnershipProperties

/-! What the status of a client's `Open` says about its candidates. The final status is
carried through the address loop; only a wait changes it. -/

set_option autoImplicit false

namespace DlmsTransport.Transport

open Interaction Posix TcpStreamTransport

def waitResult? : (request : OsCall) → request.Answer → Option Int
  | .select _ _ _, result => some result
  | _, _ => none

/-- The results of the waits of a run. -/
def waits (trace : OsTrace) : List Int :=
  trace.filterMap fun event => waitResult? event.request event.answer

@[simp] theorem waits_nil : waits [] = [] := rfl

@[simp] theorem waits_append (front back : OsTrace) :
    waits (front ++ back) = waits front ++ waits back :=
  List.filterMap_append

@[simp] theorem waits_cons (event : OsEvent) (rest : OsTrace) :
    waits (event :: rest) = (waitResult? event.request event.answer).toList ++ waits rest := by
  rw [waits, List.filterMap_cons]
  cases waitResult? event.request event.answer <;> rfl

theorem connects_append_iff {front back : OsTrace} :
    Connects (front ++ back) ↔ Connects front ∨ Connects back := by
  simp [Connects, or_and_right, exists_or]

/-- What a wait leaves in the final status when its candidate does not connect. -/
def attemptStatus (result : Int) : TransportStatus :=
  if 0 < result then .openFailed else waitStatus false result

theorem attemptStatus_eq_timeout_iff {result : Int} :
    attemptStatus result = .timeout ↔ result = 0 := by
  unfold attemptStatus
  split
  · next ready => simp [ready.ne']
  · exact waitStatus_eq_timeout_iff

/-- The statuses that the header of `Open` lists for a failure. -/
def FailsAsDocumented (status : TransportStatus) : Prop :=
  status = .invalidArgument ∨ status = .timeout ∨ status = .openFailed

theorem attemptStatus_documented_iff {result : Int} :
    FailsAsDocumented (attemptStatus result) ↔ 0 ≤ result := by
  unfold FailsAsDocumented attemptStatus waitStatus
  split
  · simp
    omega
  · split
    · simp
      omega
    · split <;> simp <;> omega

/-- The final status after the waits of a loop that connects to nobody. -/
def reported (carried : TransportStatus) (trace : OsTrace) : TransportStatus :=
  ((waits trace).getLast?.map attemptStatus).getD carried

theorem reported_append (carried : TransportStatus) (front back : OsTrace) :
    reported carried (front ++ back) = reported (reported carried front) back := by
  rw [reported, reported, reported, waits_append, List.getLast?_append]
  cases (waits back).getLast? <;> rfl

/-- What an attempt that fails makes of the final status. -/
def TcpStreamTransport.Attempt.Waited (trace : OsTrace) : Attempt → Prop
  | .skipped => waits trace = []
  | .failed status => ∃ result, waits trace = [result] ∧ status = attemptStatus result
  | .connected _ => True

private theorem call_waited {request : OsCall} {next : request.Answer → OsProgram Attempt}
    (quiet : ∀ answer, waitResult? request answer = none)
    (rest : ∀ answer, (next answer).Ensures fun trace attempt => attempt.Waited trace) :
    (Program.call request next).Ensures fun trace attempt => attempt.Waited trace := by
  rw [Program.ensures_call_iff]
  intro answer
  refine (rest answer).mono ?_
  intro trace attempt waited
  cases attempt with
  | skipped | failed => simpa [Attempt.Waited, quiet answer] using waited
  | connected => trivial

private theorem close_skipped_waited (candidate : NativeSocket) :
    (Program.call (.close candidate) fun _ => .done .skipped : OsProgram Attempt).Ensures
      fun trace attempt => attempt.Waited trace :=
  call_waited (fun _ => rfl) fun _ => Program.ensures_done_iff.mpr rfl

/-- A wait that is over, and a candidate that is given up. -/
private theorem close_failed_waited {result : Int} (candidate : NativeSocket)
    (timeout : Timeval) {status : TransportStatus} (reported : status = attemptStatus result) :
    (do
        closeNativeSocket candidate
        pure (Attempt.failed status) : OsProgram Attempt).Ensures fun trace attempt =>
      attempt.Waited (⟨.select candidate false timeout, result⟩ :: trace) := by
  rw [closeNativeSocket_bind, Program.ensures_call_iff]
  exact fun _ => Program.ensures_done_iff.mpr ⟨result, rfl, reported⟩

theorem awaitConnection_waited (options : TcpStreamTransportOptions) (candidate : NativeSocket) :
    (awaitConnection options candidate).Ensures fun trace attempt => attempt.Waited trace := by
  rw [awaitConnection, waitForDescriptor_bind, Program.ensures_call_iff]
  intro (result : Int)
  by_cases ready : 0 < result
  · rw [if_pos (waitStatus_eq_ok_iff.mpr ready), checkConnected, bind_assoc, Program.ask_bind,
      Program.ensures_call_iff]
    intro answer
    cases answer with
    | none =>
        exact close_failed_waited candidate _ (if_pos ready).symm
    | some error =>
        dsimp only
        split
        · exact Program.ensures_done_iff.mpr trivial
        · exact close_failed_waited candidate _ (if_pos ready).symm
  · have unready : waitStatus false result ≠ .ok := mt waitStatus_eq_ok_iff.mp ready
    rw [if_neg unready, Program.pure_eq, Program.done_bind]
    dsimp only
    rw [if_neg unready]
    exact close_failed_waited candidate _ (if_neg ready).symm

theorem tryCandidate_waited (options : TcpStreamTransportOptions) (address : AddrInfo) :
    (tryCandidate options address).Ensures fun trace attempt => attempt.Waited trace := by
  rw [tryCandidate, Program.ask_bind]
  apply call_waited (fun _ => rfl)
  intro answer
  generalize nativeSocket answer = candidate
  dsimp only
  split
  · exact Program.ensures_done_iff.mpr rfl
  · rw [setNonBlocking_bind]
    apply call_waited (fun _ => rfl)
    intro (flags : Int)
    split
    · apply call_waited (fun _ => rfl)
      intro (result : Int)
      split
      · exact close_skipped_waited candidate
      · rw [Program.ask_bind]
        apply call_waited (fun _ => rfl)
        intro connectResult
        cases connectResult with
        | ok => exact Program.ensures_done_iff.mpr trivial
        | error error =>
            dsimp only
            split
            · exact close_skipped_waited candidate
            · exact awaitConnection_waited options candidate
    · exact close_skipped_waited candidate

/-- The loop returns `Ok` with a connection, and otherwise what its waits left. -/
theorem tryAddresses_reported (self : TcpStreamTransport) {carried : TransportStatus}
    (fails : carried ≠ .ok) (addresses : List AddrInfo) :
    (tryAddresses self carried addresses).Ensures fun trace outcome =>
      (outcome.1 = .ok ∧ Connects trace) ∨
        (outcome.1 = reported carried trace ∧ outcome.1 ≠ .ok ∧ ¬ Connects trace) := by
  induction addresses generalizing carried with
  | nil => exact Program.ensures_done_iff.mpr (.inr ⟨rfl, fails, not_connects_nil⟩)
  | cons address rest ih =>
      rw [tryAddresses, Program.ensures_bind_iff]
      intro front attempt run
      have waited := tryCandidate_waited self.options address front attempt run
      obtain ⟨_, _, reports⟩ := tryCandidate_ensures self.options address front attempt run
      have continued {status : TransportStatus} (fails : status ≠ .ok)
          (left : status = reported carried front) (rejected : ¬ Connects front) :
          (tryAddresses self status rest).Ensures fun trace outcome =>
            (outcome.1 = .ok ∧ Connects (front ++ trace)) ∨
              (outcome.1 = reported carried (front ++ trace) ∧ outcome.1 ≠ .ok ∧
                ¬ Connects (front ++ trace)) := by
        refine (ih fails).mono ?_
        intro trace outcome walked
        rw [connects_append_iff, reported_append, ← left]
        simpa [rejected] using walked
      cases attempt with
      | connected kept =>
          exact Program.ensures_done_iff.mpr
            (.inl ⟨rfl, connects_append_iff.mpr (.inl reports.2)⟩)
      | skipped =>
          have left : carried = reported carried front := by
            rw [reported, waited]
            rfl
          exact continued fails left reports
      | failed status =>
          obtain ⟨result, one, left⟩ := waited
          have left : status = reported carried front := by
            rw [reported, one, left]
            rfl
          exact continued reports.1.1 left reports.2

/-- What the header of `Open` and its candidates ask of a status. -/
structure ConnectKept (trace : OsTrace) (status : TransportStatus) : Prop where
  connected : status = .ok ↔ Connects trace
  documented : status ≠ .ok → FailsAsDocumented status
  timedOut : status = .timeout → ∃ event ∈ trace, waitResult? event.request event.answer = some 0

/-- A candidate connects, or the last of the waits does not fail. -/
def WaitsEndWell (trace : OsTrace) : Prop :=
  Connects trace ∨ ∀ result, (waits trace).getLast? = some result → 0 ≤ result

theorem open_reported {self : TcpStreamTransport} (closed : self.open_ = false) :
    self.open.Ensures fun trace outcome =>
      (outcome.1 = .ok ∧ Connects trace) ∨ (outcome.1 = .invalidArgument ∧ trace = []) ∨
        (outcome.1 = reported .openFailed trace ∧ outcome.1 ≠ .ok ∧ ¬ Connects trace) := by
  rw [TcpStreamTransport.open, if_neg (by simp [closed])]
  split
  · exact Program.ensures_done_iff.mpr (.inr (.inl ⟨rfl, rfl⟩))
  · rw [Program.ask_bind, Program.ensures_call_iff]
    intro resolved
    cases resolved with
    | none =>
        refine Program.ensures_done_iff.mpr (.inr (.inr ⟨rfl, by simp, ?_⟩))
        simp [CompletesConnection]
    | some addresses =>
        dsimp only
        rw [Program.ensures_bind_iff]
        have fails : TransportStatus.openFailed ≠ .ok := by simp
        refine (tryAddresses_reported self fails addresses.entries).mono ?_
        intro walk outcome walked
        rw [Program.ask_bind, Program.ensures_call_iff]
        intro freed
        refine Program.ensures_done_iff.mpr ?_
        have same : reported .openFailed
            (⟨.getaddrinfo (some self.options.host) (toString self.options.port.toNat) hints,
              some addresses⟩ :: (walk ++ [⟨.freeaddrinfo addresses, freed⟩])) =
            reported .openFailed walk := by
          simp [reported, waitResult?]
        simpa [same, connects_append_iff, CompletesConnection] using walked

theorem reported_documented_iff {trace : OsTrace} :
    FailsAsDocumented (reported .openFailed trace) ↔
      ∀ result, (waits trace).getLast? = some result → 0 ≤ result := by
  rw [reported]
  cases (waits trace).getLast? with
  | none => simp [FailsAsDocumented]
  | some last => simpa using attemptStatus_documented_iff

theorem reported_timeout {trace : OsTrace} (timedOut : reported .openFailed trace = .timeout) :
    ∃ event ∈ trace, waitResult? event.request event.answer = some 0 := by
  rw [reported] at timedOut
  cases last : (waits trace).getLast? with
  | none => simp [last] at timedOut
  | some result =>
      rw [last] at timedOut
      obtain rfl := attemptStatus_eq_timeout_iff.mp timedOut
      exact List.mem_filterMap.mp (List.mem_of_getLast? last)

/-- `Open` keeps its contract exactly when its candidates end well. -/
theorem open_kept_iff {self : TcpStreamTransport} (closed : self.open_ = false)
    {trace : OsTrace} {outcome : TransportStatus × TcpStreamTransport}
    (run : self.open.Runs trace outcome) :
    ConnectKept trace outcome.1 ↔ WaitsEndWell trace := by
  rcases open_reported closed trace outcome run with ⟨succeeded, connects⟩ | ⟨invalid, rfl⟩ |
    ⟨reports, fails, rejected⟩
  · refine iff_of_true ⟨by simp [succeeded, connects], ?_, ?_⟩ (.inl connects)
    · exact fun failed => absurd succeeded failed
    · simp [succeeded]
  · refine iff_of_true ⟨by simp [invalid], fun _ => .inl invalid, ?_⟩ (.inr (by simp))
    simp [invalid]
  · have ends : WaitsEndWell trace ↔ FailsAsDocumented outcome.1 := by
      rw [reports, reported_documented_iff, WaitsEndWell]
      exact or_iff_right rejected
    rw [ends]
    constructor
    · exact fun kept => kept.documented fails
    · intro documented
      refine ⟨by simp [fails, rejected], fun _ => documented, ?_⟩
      intro timedOut
      exact reported_timeout (reports.symm.trans timedOut)

/-- Two addresses: the wait for the first times out, the second connects at once. -/
def secondConnects : OsTrace :=
  [⟨.getaddrinfo (some "meter") "4059" hints, some ⟨0, [meterAddress, meterAddress]⟩⟩,
    ⟨.socket .inet .stream .tcp, some 3⟩, ⟨.fcntlGetFlags 3, (0 : Int)⟩,
    ⟨.fcntlSetNonBlock 3 0, (0 : Int)⟩, ⟨.connect 3 [127, 0, 0, 1], .error .einprogress⟩,
    ⟨.select 3 false ⟨5, 0⟩, (0 : Int)⟩, ⟨.close 3, ()⟩,
    ⟨.socket .inet .stream .tcp, some 3⟩, ⟨.fcntlGetFlags 3, (0 : Int)⟩,
    ⟨.fcntlSetNonBlock 3 0, (0 : Int)⟩, ⟨.connect 3 [127, 0, 0, 1], .ok ()⟩,
    ⟨.freeaddrinfo ⟨0, [meterAddress, meterAddress]⟩, ()⟩]

theorem open_kept_meter : ConnectKept secondConnects .ok ↔ WaitsEndWell secondConnects := by
  have run : (TcpStreamTransport.new meterOptions).open.Runs secondConnects (.ok, meterStream) :=
    .call (.call (.call (.call (.call (.call (.call (.call (.call (.call (.call
      (.call .refl)))))))))))
  exact open_kept_iff rfl run

/-- One address, and `select` fails while its connection is pending. -/
def failedWait : OsTrace :=
  [⟨.getaddrinfo (some "meter") "4059" hints, some ⟨0, [meterAddress]⟩⟩,
    ⟨.socket .inet .stream .tcp, some 3⟩, ⟨.fcntlGetFlags 3, (0 : Int)⟩,
    ⟨.fcntlSetNonBlock 3 0, (0 : Int)⟩, ⟨.connect 3 [127, 0, 0, 1], .error .einprogress⟩,
    ⟨.select 3 false ⟨5, 0⟩, (-1 : Int)⟩, ⟨.close 3, ()⟩,
    ⟨.freeaddrinfo ⟨0, [meterAddress]⟩, ()⟩]

theorem open_not_kept :
    (TcpStreamTransport.new meterOptions).open.Runs failedWait
        (.writeFailed, .new meterOptions) ∧
      ¬ ConnectKept failedWait .writeFailed := by
  refine ⟨.call (.call (.call (.call (.call (.call (.call (.call .refl))))))), ?_⟩
  intro kept
  exact absurd (kept.documented (by decide)) (by simp [FailsAsDocumented])

end DlmsTransport.Transport
