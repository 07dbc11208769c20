import DlmsTransport.Transport.Tls

/-! The session protocol that the TLS wrapper keeps on its backend, whatever the
lower stream and the backend answer. -/

set_option autoImplicit false

namespace DlmsTransport.Transport

open Interaction

namespace TlsStreamTransport

/-- What holds of every reachable wrapper: an open one has a valid configuration,
so neither pointer is null. -/
def Wired (self : TlsStreamTransport) : Prop :=
  self.open_ = true → self.hasValidConfiguration = true

theorem valid_pointers {self : TlsStreamTransport} (valid : self.hasValidConfiguration = true) :
    self.lower_ = true ∧ self.backend_ = true ∧
      (self.options_.verifyPeer = true → self.options_.serverName.isEmpty = false) := by
  simp only [hasValidConfiguration] at valid
  split at valid
  · contradiction
  · split at valid
    · contradiction
    · simp_all

/-- Everything one operation of a wired wrapper can do. -/
inductive Step (self : TlsStreamTransport) :
    StreamMethod → TlsTrace → StreamReply → TlsStreamTransport → Prop where
  | alreadyOpen : self.open_ = true → Step self .open [] (.status .alreadyOpen) self
  | invalidConfiguration : self.open_ = false → self.hasValidConfiguration = false →
      Step self .open [] (.status .invalidArgument) self
  | lowerRefused {status : TransportStatus} : self.open_ = false →
      self.hasValidConfiguration = true → status ≠ .ok → status ≠ .alreadyOpen →
      Step self .open [⟨.lowerOpen, status⟩] (.status status) self
  | handshakeFailed {opened status closing : TransportStatus} : self.open_ = false →
      self.hasValidConfiguration = true → opened = .ok ∨ opened = .alreadyOpen → status ≠ .ok →
      Step self .open
        [⟨.lowerOpen, opened⟩, ⟨.handshake self.options_, status⟩, ⟨.lowerClose, closing⟩]
        (.status status) self
  | established {opened : TransportStatus} : self.open_ = false →
      self.hasValidConfiguration = true → opened = .ok ∨ opened = .alreadyOpen →
      Step self .open [⟨.lowerOpen, opened⟩, ⟨.handshake self.options_, TransportStatus.ok⟩]
        (.status .ok) { self with open_ := true }
  | closedNothing : self.open_ = false → self.lower_ = false →
      Step self .close [] (.status .ok) self
  | closedLower {closing : TransportStatus} : self.open_ = false → self.lower_ = true →
      Step self .close [⟨.lowerClose, closing⟩] (.status .ok) self
  | ended {status closing : TransportStatus} : self.open_ = true →
      Step self .close [⟨.backendClose, status⟩, ⟨.lowerClose, closing⟩]
        (.status (if status = .ok then closing else status)) { self with open_ := false }
  | reportedClosed : self.open_ = false → Step self .isOpen [] (.flag false) self
  | askedLower {value : Bool} : self.open_ = true →
      Step self .isOpen [⟨.lowerIsOpen, value⟩] (.flag value) self
  | refusedRead {output : OutputBuffer} {status : TransportStatus} :
      self.open_ = false ∨ output.invalid = true →
      Step self (.readSome output) [] (.read (.empty status)) self
  | read {output : OutputBuffer} {reply : ReadReply} : self.open_ = true →
      Step self (.readSome output) [⟨.backendReadSome output, reply⟩] (.read reply) self
  | refusedWrite {input : InputBuffer} {budget : Nat} {status : TransportStatus} :
      self.open_ = false ∨ input.invalid = true →
      Step self (.writeAll input budget) [] (.status status) self
  | wrote {input : InputBuffer} {budget : Nat} {status : TransportStatus} :
      self.open_ = true →
      Step self (.writeAll input budget) [⟨.backendWriteAll input, status⟩] (.status status) self

private theorem open_step {self : TlsStreamTransport} :
    self.open.Ensures fun trace outcome =>
      Step self .open trace (.status outcome.1) outcome.2 := by
  unfold TlsStreamTransport.open
  split
  · next opened => exact Program.ensures_done_iff.mpr (.alreadyOpen opened)
  · next unopened =>
    rw [Bool.not_eq_true] at unopened
    split
    · next invalid => exact Program.ensures_done_iff.mpr (.invalidConfiguration unopened invalid)
    · next valid =>
      rw [Bool.not_eq_false] at valid
      rw [Program.ask_bind, Program.ensures_call_iff]
      intro (opened : TransportStatus)
      split
      · next refused =>
        exact Program.ensures_done_iff.mpr (.lowerRefused unopened valid refused.1 refused.2)
      · next accepted =>
        have ready : opened = .ok ∨ opened = .alreadyOpen := by
          by_cases ok : opened = .ok
          · exact .inl ok
          · exact .inr (not_not.mp (not_and.mp accepted ok))
        rw [Program.ask_bind, Program.ensures_call_iff]
        intro (status : TransportStatus)
        split
        · next failed =>
          rw [Program.ask_bind, Program.ensures_call_iff]
          intro (closing : TransportStatus)
          exact Program.ensures_done_iff.mpr (.handshakeFailed unopened valid ready failed)
        · next succeeded =>
          obtain rfl := not_not.mp succeeded
          exact Program.ensures_done_iff.mpr (.established unopened valid ready)

private theorem close_step {self : TlsStreamTransport} (wired : self.Wired) :
    self.close.Ensures fun trace outcome =>
      Step self .close trace (.status outcome.1) outcome.2 := by
  unfold TlsStreamTransport.close
  split
  · next unopened =>
    split
    · next present =>
      rw [Program.ask_bind, Program.ensures_call_iff]
      intro (closing : TransportStatus)
      exact Program.ensures_done_iff.mpr (.closedLower unopened present)
    · next absent =>
      exact Program.ensures_done_iff.mpr (.closedNothing unopened (by simpa using absent))
  · next opened =>
    rw [Bool.not_eq_false] at opened
    obtain ⟨lower, backend, _⟩ := valid_pointers (wired opened)
    rw [if_pos (by rw [lower, backend]; rfl), Program.ask_bind, Program.ensures_call_iff]
    intro (status : TransportStatus)
    dsimp only
    rw [if_pos lower, Program.ask_bind, Program.ensures_call_iff]
    intro (closing : TransportStatus)
    exact Program.ensures_done_iff.mpr (.ended opened)

theorem step_of_runs {self : TlsStreamTransport} (wired : self.Wired) {method : StreamMethod}
    {trace : TlsTrace} {reply : StreamReply} {after : TlsStreamTransport}
    (run : (self.invoke method).Runs trace (reply, after)) :
    Step self method trace reply after := by
  cases method with
  | «open» =>
      obtain ⟨outcome, ran, mapped⟩ := Program.runs_map_iff.mp run
      obtain ⟨rfl, rfl⟩ := Prod.mk.inj mapped
      exact open_step _ _ ran
  | close =>
      obtain ⟨outcome, ran, mapped⟩ := Program.runs_map_iff.mp run
      obtain ⟨rfl, rfl⟩ := Prod.mk.inj mapped
      exact close_step wired _ _ ran
  | isOpen =>
      obtain ⟨value, ran, mapped⟩ := Program.runs_map_iff.mp run
      obtain ⟨rfl, rfl⟩ := Prod.mk.inj mapped
      unfold TlsStreamTransport.isOpen at ran
      split at ran
      · next asked =>
        obtain rfl := Program.runs_ask_iff.mp ran
        exact .askedLower (Bool.and_eq_true_iff.mp asked).1
      · next unasked =>
        obtain ⟨rfl, rfl⟩ := Program.runs_done_iff.mp ran
        cases opened : self.open_ with
        | false => exact .reportedClosed opened
        | true =>
            have pointers := valid_pointers (wired opened)
            simp [opened, pointers] at unasked
  | readSome output =>
      obtain ⟨read, ran, mapped⟩ := Program.runs_map_iff.mp run
      obtain ⟨rfl, rfl⟩ := Prod.mk.inj mapped
      unfold TlsStreamTransport.readSome at ran
      split at ran
      · next unopened =>
        obtain ⟨rfl, rfl⟩ := Program.runs_done_iff.mp ran
        exact .refusedRead (.inl unopened)
      · next opened =>
        split at ran
        · next invalid =>
          obtain ⟨rfl, rfl⟩ := Program.runs_done_iff.mp ran
          exact .refusedRead (.inr invalid)
        · obtain rfl := Program.runs_ask_iff.mp ran
          exact .read (by simpa using opened)
  | writeAll input budget =>
      obtain ⟨status, ran, mapped⟩ := Program.runs_map_iff.mp run
      obtain ⟨rfl, rfl⟩ := Prod.mk.inj mapped
      unfold TlsStreamTransport.writeAll at ran
      split at ran
      · next unopened =>
        obtain ⟨rfl, rfl⟩ := Program.runs_done_iff.mp ran
        exact .refusedWrite (.inl unopened)
      · next opened =>
        split at ran
        · next invalid =>
          obtain ⟨rfl, rfl⟩ := Program.runs_done_iff.mp ran
          exact .refusedWrite (.inr invalid)
        · obtain rfl := Program.runs_ask_iff.mp ran
          exact .wrote (by simpa using opened)

theorem Step.wired {self after : TlsStreamTransport} {method : StreamMethod} {trace : TlsTrace}
    {reply : StreamReply} (step : Step self method trace reply after) (wired : self.Wired) :
    after.Wired := by
  cases step with
  | established _ valid => exact fun _ => valid
  | ended => exact nofun
  | _ => exact wired

theorem Step.sameConfiguration {self after : TlsStreamTransport} {method : StreamMethod}
    {trace : TlsTrace} {reply : StreamReply} (step : Step self method trace reply after) :
    after.hasValidConfiguration = self.hasValidConfiguration := by
  cases step <;> rfl

end TlsStreamTransport

def TlsCall.transfersData : TlsCall → Bool
  | .backendReadSome _ | .backendWriteAll _ => true
  | _ => false

/-- The language of the backend: failed handshakes, and sessions that a successful
handshake begins and one close ends. -/
inductive SessionLanguage : TlsTrace → Prop where
  | nil : SessionLanguage []
  | failed {options : TlsStreamTransportOptions} {status : TransportStatus} {rest : TlsTrace} :
      status ≠ .ok → SessionLanguage rest →
      SessionLanguage (⟨.handshake options, status⟩ :: rest)
  | session {options : TlsStreamTransportOptions} {transfers rest : TlsTrace}
      {status : TransportStatus} :
      (∀ event ∈ transfers, event.request.transfersData = true) → SessionLanguage rest →
      SessionLanguage (⟨.handshake options, TransportStatus.ok⟩ :: transfers ++
        ⟨.backendClose, status⟩ :: rest)

/-- Where the backend stands between two calls: whether a session is established. -/
def Tracks : Bool → TlsTrace → Bool → Prop
  | start, [], final => start = final
  | false, ⟨.handshake _, status⟩ :: rest, final => Tracks (status == .ok) rest final
  | true, ⟨.backendClose, _⟩ :: rest, final => Tracks false rest final
  | true, ⟨.backendReadSome _, _⟩ :: rest, final => Tracks true rest final
  | true, ⟨.backendWriteAll _, _⟩ :: rest, final => Tracks true rest final
  | _, _, _ => False

theorem Tracks.append {front back : TlsTrace} {start middle final : Bool}
    (head : Tracks start front middle) (tail : Tracks middle back final) :
    Tracks start (front ++ back) final := by
  fun_induction Tracks start front middle with
  | case1 => exact head ▸ tail
  | case2 _ _ _ _ ih => exact ih head tail
  | case3 _ _ _ ih => exact ih head tail
  | case4 _ _ _ _ ih => exact ih head tail
  | case5 _ _ _ _ ih => exact ih head tail
  | case6 => exact head.elim

private def Ends (trace : TlsTrace) : Prop :=
  ∃ transfers status rest, trace = transfers ++ ⟨.backendClose, status⟩ :: rest ∧
    (∀ event ∈ transfers, event.request.transfersData = true) ∧ SessionLanguage rest

private theorem Ends.cons {event : TlsEvent} {trace : TlsTrace} (ends : Ends trace)
    (transfers : event.request.transfersData = true) : Ends (event :: trace) := by
  obtain ⟨front, status, rest, rfl, each, following⟩ := ends
  exact ⟨event :: front, status, rest, rfl, List.forall_mem_cons.mpr ⟨transfers, each⟩, following⟩

private theorem language_of_tracks (trace : TlsTrace) :
    (Tracks false trace false → SessionLanguage trace) ∧
      (Tracks true trace false → Ends trace) := by
  induction trace with
  | nil => exact ⟨fun _ => .nil, nofun⟩
  | cons event rest ih =>
      obtain ⟨request, answer⟩ := event
      constructor
      · intro tracks
        cases request <;> try exact tracks.elim
        rename_i options
        by_cases ok : answer = .ok
        · subst ok
          obtain ⟨transfers, status, rest, rfl, each, following⟩ := ih.2 tracks
          exact .session each following
        · have tracks : Tracks (answer == .ok) rest false := tracks
          rw [beq_eq_false_iff_ne.mpr ok] at tracks
          exact .failed ok (ih.1 tracks)
      · intro tracks
        cases request <;> try exact tracks.elim
        · exact ⟨[], answer, rest, rfl, by simp, ih.1 tracks⟩
        · exact (ih.2 tracks).cons rfl
        · exact (ih.2 tracks).cons rfl

def backendCalls (trace : TlsTrace) : TlsTrace :=
  trace.filter fun event => event.request.onBackend

theorem backendCalls_append (front back : TlsTrace) :
    backendCalls (front ++ back) = backendCalls front ++ backendCalls back :=
  List.filter_append ..

namespace TlsStreamTransport

theorem Step.tracks {self after : TlsStreamTransport} {method : StreamMethod} {trace : TlsTrace}
    {reply : StreamReply} (step : Step self method trace reply after) :
    Tracks self.open_ (backendCalls trace) after.open_ := by
  cases step with
  | alreadyOpen | invalidConfiguration | closedNothing | reportedClosed | refusedRead
  | refusedWrite => rfl
  | lowerRefused | closedLower | askedLower => rfl
  | handshakeFailed unopened _ _ failed =>
      rw [unopened]
      exact beq_eq_false_iff_ne.mpr failed
  | established unopened =>
      rw [unopened]
      rfl
  | ended opened =>
      rw [opened]
      rfl
  | read opened =>
      rw [opened]
      rfl
  | wrote opened =>
      rw [opened]
      rfl

end TlsStreamTransport

def ClosesLower (trace : TlsTrace) : Prop :=
  ∃ front status, trace = front ++ [⟨.lowerClose, status⟩]

/-- The protocol of a run that the destructor ends with the calls of `ending`. -/
structure SessionProtocol (history : List TlsInvocation) (final : TlsStreamTransport)
    (ending : TlsTrace) : Prop where
  language : SessionLanguage (backendCalls (sessionTrace history ++ ending))
  /-- Caller bytes go through the backend only. -/
  shielded : ∀ event ∈ sessionTrace history ++ ending, ∀ output input,
    event.request ≠ .lowerReadSome output ∧ event.request ≠ .lowerWriteAll input
  /-- A handshake follows the answer of the lower `Open`, with a valid configuration. -/
  handshakes : ∀ invocation ∈ history, ∀ front options status back,
    invocation.trace = front ++ ⟨.handshake options, status⟩ :: back →
    invocation.before.lower_ = true ∧ invocation.before.backend_ = true ∧
      options = invocation.before.options_ ∧
      (options.verifyPeer = true → options.serverName.isEmpty = false) ∧
      ∃ opened, front = [⟨.lowerOpen, opened⟩] ∧
        (opened = TransportStatus.ok ∨ opened = TransportStatus.alreadyOpen)
  endsSilently : ∀ event ∈ ending, ∀ options, event.request ≠ .handshake options
  failedHandshake : ∀ invocation ∈ history, ∀ options status,
    ⟨.handshake options, status⟩ ∈ invocation.trace → status ≠ TransportStatus.ok →
    invocation.after.open_ = false ∧ ClosesLower invocation.trace
  closed : ∀ invocation ∈ history, invocation.method = .close →
    invocation.after.open_ = false ∧
      (invocation.before.lower_ = true → ClosesLower invocation.trace)
  destroyed : final.lower_ = true → ClosesLower ending

namespace TlsStreamTransport

/-- A closing step leaves the wrapper closed, and the lower stream too. -/
theorem Step.closes {self after : TlsStreamTransport} {trace : TlsTrace} {reply : StreamReply}
    (step : Step self .close trace reply after) :
    after.open_ = false ∧ (self.lower_ = true → ClosesLower trace) := by
  cases step with
  | closedNothing unopened absent => exact ⟨unopened, fun present => by simp [absent] at present⟩
  | closedLower unopened _ => exact ⟨unopened, fun _ => ⟨[], _, rfl⟩⟩
  | ended => exact ⟨rfl, fun _ => ⟨[_], _, rfl⟩⟩

theorem Step.shielded {self after : TlsStreamTransport} {method : StreamMethod}
    {trace : TlsTrace} {reply : StreamReply} (step : Step self method trace reply after) :
    ∀ event ∈ trace, ∀ output input,
      event.request ≠ .lowerReadSome output ∧ event.request ≠ .lowerWriteAll input := by
  cases step <;> simp

private theorem handshake_position {opened : TransportStatus} {front back rest : TlsTrace}
    {options asked : TlsStreamTransportOptions} {status answered : TransportStatus}
    (tail : ∀ event ∈ rest, event.request.onBackend = false)
    (split : (⟨.lowerOpen, opened⟩ :: ⟨.handshake asked, answered⟩ :: rest : TlsTrace) =
      front ++ ⟨.handshake options, status⟩ :: back) :
    front = [⟨.lowerOpen, opened⟩] ∧ options = asked ∧ status = answered := by
  cases front with
  | nil => simp at split
  | cons first front =>
      obtain ⟨rfl, following⟩ := List.cons.inj split
      cases front with
      | nil =>
          obtain ⟨same, -⟩ := List.cons.inj following
          simp_all
      | cons second front =>
          obtain ⟨-, rfl⟩ := List.cons.inj following
          have := tail _ (List.mem_append_right front List.mem_cons_self)
          simp [TlsCall.onBackend] at this

theorem Step.handshake {self after : TlsStreamTransport} {method : StreamMethod}
    {trace : TlsTrace} {reply : StreamReply} (step : Step self method trace reply after)
    {front back : TlsTrace} {options : TlsStreamTransportOptions} {status : TransportStatus}
    (split : trace = front ++ ⟨.handshake options, status⟩ :: back) :
    method = .open ∧ self.hasValidConfiguration = true ∧ options = self.options_ ∧
      (∃ opened, front = [⟨.lowerOpen, opened⟩] ∧
        (opened = TransportStatus.ok ∨ opened = TransportStatus.alreadyOpen)) ∧
      (status ≠ .ok → after.open_ = false ∧ ClosesLower trace) := by
  have made : (⟨.handshake options, status⟩ : TlsEvent) ∈ trace := by simp [split]
  cases step with
  | handshakeFailed unopened valid ready failed =>
      obtain ⟨rfl, rfl, rfl⟩ := handshake_position (by simp [TlsCall.onBackend]) split
      exact ⟨rfl, valid, rfl, ⟨_, rfl, ready⟩, fun _ => ⟨unopened, [_, _], _, rfl⟩⟩
  | established unopened valid ready =>
      obtain ⟨rfl, rfl, rfl⟩ := handshake_position (by simp) split
      exact ⟨rfl, valid, rfl, ⟨_, rfl, ready⟩, fun failed => absurd rfl failed⟩
  | _ => simp at made

private theorem session_wired {lower backend : Bool} {options : TlsStreamTransportOptions}
    {history : List TlsInvocation} {final : TlsStreamTransport}
    (session : Session TlsStreamTransport.invoke (.new lower backend options) history final) :
    final.Wired ∧ ∀ invocation ∈ history,
      Step invocation.before invocation.method invocation.trace invocation.reply
        invocation.after := by
  have initial : (new lower backend options).Wired := nofun
  have preserved (before : TlsStreamTransport) (method : StreamMethod) (trace : TlsTrace)
      (reply : StreamReply) (after : TlsStreamTransport) (wired : before.Wired)
      (run : (before.invoke method).Runs trace (reply, after)) : after.Wired :=
    (step_of_runs wired run).wired wired
  obtain ⟨final, each⟩ := session.invariant preserved initial
  exact ⟨final, fun invocation member =>
    step_of_runs (each invocation member).1 (each invocation member).2.2⟩

private theorem destroy_step {self : TlsStreamTransport} (wired : self.Wired) {ending : TlsTrace}
    (destroyed : self.destroy.Runs ending ()) :
    ∃ reply after, Step self .close ending reply after := by
  obtain ⟨front, back, outcome, rfl, run, rest⟩ := Program.runs_bind_iff.mp destroyed
  obtain ⟨rfl, -⟩ := Program.runs_done_iff.mp rest
  exact ⟨_, _, by simpa using close_step wired _ _ run⟩

private theorem session_tracks {start final : TlsStreamTransport} {history : List TlsInvocation}
    (session : Session TlsStreamTransport.invoke start history final) (wired : start.Wired) :
    Tracks start.open_ (backendCalls (sessionTrace history)) final.open_ := by
  induction session with
  | nil => rfl
  | cons run _ ih =>
      have step := step_of_runs wired run
      rw [sessionTrace_cons, backendCalls_append]
      exact step.tracks.append (ih (step.wired wired))

end TlsStreamTransport

/-- Whatever the lower stream and the backend answer, the wrapper keeps the session
protocol. -/
theorem tls_sessionProtocol {lower backend : Bool} {options : TlsStreamTransportOptions}
    {history : List TlsInvocation} {final : TlsStreamTransport} {ending : TlsTrace}
    (session : Session TlsStreamTransport.invoke (.new lower backend options) history final)
    (destroyed : final.destroy.Runs ending ()) : SessionProtocol history final ending := by
  obtain ⟨wired, steps⟩ := TlsStreamTransport.session_wired session
  obtain ⟨reply, after, closing⟩ := TlsStreamTransport.destroy_step wired destroyed
  constructor
  · have tracks := TlsStreamTransport.session_tracks session nofun
    have whole := tracks.append closing.tracks
    rw [closing.closes.1] at whole
    have language := (language_of_tracks _).1 whole
    rwa [← backendCalls_append] at language
  · intro event member
    rcases List.mem_append.mp member with during | last
    · obtain ⟨invocation, called, inside⟩ := List.mem_flatMap.mp during
      exact (steps invocation called).shielded event inside
    · exact closing.shielded event last
  · intro invocation member front options status back split
    obtain ⟨_, valid, same, opened, _⟩ := (steps invocation member).handshake split
    obtain ⟨present, backed, named⟩ := TlsStreamTransport.valid_pointers valid
    exact ⟨present, backed, same, same ▸ named, opened⟩
  · intro event member options made
    obtain ⟨front, back, split⟩ := List.append_of_mem member
    obtain ⟨request, answer⟩ := event
    obtain rfl : request = .handshake options := made
    exact absurd (closing.handshake split).1 (by simp)
  · intro invocation member options status made failed
    obtain ⟨front, back, split⟩ := List.append_of_mem made
    exact ((steps invocation member).handshake split).2.2.2.2 failed
  · intro invocation member closes
    have step := steps invocation member
    rw [closes] at step
    exact step.closes
  · exact closing.closes.2

def meterTls : TlsStreamTransport :=
  .new true true { serverName := "meter" }

def rejectedOpen : TlsInvocation where
  before := meterTls
  method := .open
  trace :=
    [⟨.lowerOpen, TransportStatus.ok⟩, ⟨.handshake meterTls.options_, TransportStatus.openFailed⟩,
      ⟨.lowerClose, TransportStatus.ok⟩]
  reply := .status .openFailed
  after := meterTls

def securedOpen : TlsInvocation where
  before := meterTls
  method := .open
  trace :=
    [⟨.lowerOpen, TransportStatus.ok⟩, ⟨.handshake meterTls.options_, TransportStatus.ok⟩]
  reply := .status .ok
  after := { meterTls with open_ := true }

theorem tls_sessionProtocol_meter :
    SessionProtocol [rejectedOpen, securedOpen] { meterTls with open_ := true }
      [⟨.backendClose, TransportStatus.ok⟩, ⟨.lowerClose, TransportStatus.ok⟩] := by
  have session : Session TlsStreamTransport.invoke meterTls [rejectedOpen, securedOpen]
      { meterTls with open_ := true } :=
    .cons (.call (.call (.call .refl))) (.cons (.call (.call .refl)) .nil)
  exact tls_sessionProtocol session (.call (.call .refl))

end DlmsTransport.Transport
