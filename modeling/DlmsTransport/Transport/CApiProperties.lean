import DlmsTransport.Interaction.Session
import DlmsTransport.Transport.CApi
import DlmsTransport.Transport.ReadCountProperties

/-! The C entry points do what the C++ member functions do, tell their caller so in numbers,
and leave every out parameter with a value, whatever fails. -/

set_option autoImplicit false

namespace DlmsTransport.Transport

open Interaction Posix

/-- The C enumerator that has the name of the C++ one. -/
def TransportStatus.namesake : TransportStatus → DlmsTransportStatus
  | .ok => .ok
  | .invalidArgument => .invalidArgument
  | .notOpen => .notOpen
  | .alreadyOpen => .alreadyOpen
  | .openFailed => .openFailed
  | .readFailed => .readFailed
  | .writeFailed => .writeFailed
  | .timeout => .timeout
  | .connectionClosed => .connectionClosed
  | .wouldBlock => .wouldBlock
  | .outputBufferTooSmall => .outputBufferTooSmall
  | .unsupportedFeature => .unsupportedFeature
  | .internalError => .internalError

/-- The bare cast between the two enumerations goes by name. -/
theorem toCStatus_eq_namesake (status : TransportStatus) :
    toCStatus status = status.namesake := by
  cases status <;> rfl

@[simp] theorem toCStatus_eq_ok_iff {status : TransportStatus} :
    toCStatus status = .ok ↔ status = .ok := by
  cases status <;> simp [toCStatus, TransportStatus.toInt, DlmsTransportStatus.ok]

theorem internalError_ne_ok : DlmsTransportStatus.internalError ≠ .ok := by decide

theorem invalidArgument_ne_ok : DlmsTransportStatus.invalidArgument ≠ .ok := by decide

/-- What the entry points of one family need of the C++ class behind them. -/
structure CppClass (Options σ : Type) where
  builds : Options → Option (Construction σ)
  destroys : σ → OsProgram Unit
  opens : Operation σ TransportStatus
  closes : Operation σ TransportStatus
  isOpen : σ → Bool
  reads : OutputBuffer → Operation σ ReadReply
  writes : InputBuffer → Nat → Operation σ TransportStatus
  counts : ∀ output object, (reads output object).Ensures fun trace outcome =>
    ∀ reply, outcome.1 = some reply → Counts output.size trace reply

section

variable {Options σ α : Type}

theorem returning_runs_iff {operation : σ → OsProgram (α × σ)} {object next : σ}
    {trace : OsTrace} {outcome : Option α} :
    (returning operation object).Runs trace (outcome, next) ↔
      ∃ result, (operation object).Runs trace (result, next) ∧ outcome = some result := by
  rw [returning, Program.runs_prodMap_iff]
  constructor
  · intro mapped
    obtain ⟨result, after, run, rfl, rfl⟩ := mapped
    exact ⟨result, run, rfl⟩
  · intro returned
    obtain ⟨result, run, rfl⟩ := returned
    exact ⟨result, next, run, rfl, rfl⟩

theorem observing_runs_iff {operation : σ → OsProgram α} {object next : σ}
    {trace : OsTrace} {outcome : Option α} :
    (observing operation object).Runs trace (outcome, next) ↔
      ∃ result, (operation object).Runs trace result ∧ outcome = some result ∧ next = object := by
  simp only [observing, Program.runs_map_iff, Prod.mk.injEq]
  constructor
  · intro mapped
    obtain ⟨result, run, rfl, rfl⟩ := mapped
    exact ⟨result, run, rfl, rfl⟩
  · intro returned
    obtain ⟨result, run, rfl, rfl⟩ := returned
    exact ⟨result, run, rfl, rfl⟩

theorem counts_of_returning {operation : σ → OsProgram (ReadReply × σ)} {object : σ} {size : Nat}
    (counted : (operation object).Ensures fun trace outcome => Counts size trace outcome.1) :
    (returning operation object).Ensures fun trace outcome =>
      ∀ reply, outcome.1 = some reply → Counts size trace reply := by
  intro trace outcome run reply returned
  obtain ⟨result, inner, same⟩ := returning_runs_iff.mp run
  obtain rfl : result = reply := Option.some.inj (same.symm.trans returned)
  exact counted trace _ inner

theorem counts_of_observing {operation : σ → OsProgram ReadReply} {object : σ} {size : Nat}
    (counted : (operation object).Ensures fun trace reply => Counts size trace reply) :
    (observing operation object).Ensures fun trace outcome =>
      ∀ reply, outcome.1 = some reply → Counts size trace reply := by
  intro trace outcome run reply returned
  obtain ⟨result, inner, same, _⟩ := observing_runs_iff.mp run
  obtain rfl : result = reply := Option.some.inj (same.symm.trans returned)
  exact counted trace _ inner

end

def tcpClass : CppClass DlmsTransportTcpOptions TcpStreamTransport where
  builds := DlmsTransportTcpOptions.construction
  destroys := TcpStreamTransport.destroy
  opens := returning TcpStreamTransport.open
  closes := returning TcpStreamTransport.close
  isOpen := TcpStreamTransport.isOpen
  reads output := returning (TcpStreamTransport.readSome · output)
  writes input budget := observing (TcpStreamTransport.writeAll · input budget)
  counts output object :=
    counts_of_returning (TcpStreamTransport.members.readSome_counts object output)

def udpClass : CppClass DlmsTransportUdpOptions UdpTransport where
  builds options := some options.construction
  destroys := UdpTransport.destroy
  opens := returning UdpTransport.open
  closes := returning UdpTransport.close
  isOpen := UdpTransport.isOpen
  reads output := observing (UdpTransport.receive · output)
  writes input _ := observing (UdpTransport.send · input)
  counts output object := counts_of_observing (object.receive_counts output)

def serialClass : CppClass DlmsTransportSerialOptions SerialTransport where
  builds := DlmsTransportSerialOptions.construction
  destroys := SerialTransport.destroy
  opens := returning SerialTransport.open
  closes := returning SerialTransport.close
  isOpen := SerialTransport.isOpen
  reads output := returning (SerialTransport.readSome · output)
  writes input budget := observing (SerialTransport.writeAll · input budget)
  counts output object := counts_of_returning (object.readSome_counts output)

namespace CppClass

variable {Options σ : Type} (cpp : CppClass Options σ)

/-- The entry points of a family, in terms of the class alone. -/
def call (pool : Pool σ) : HandleCall Options → OsProgram (CReply × Pool σ)
  | .create options transport => createCall pool (options.bind cpp.builds) transport
  | .destroy transport => destroyCall pool cpp.destroys transport
  | .open transport => statusCall pool cpp.opens transport
  | .close transport => statusCall pool cpp.closes transport
  | .isOpen transport => isOpenCall pool cpp.isOpen transport
  | .read transport output bytesRead => readCall pool (cpp.reads output) transport bytesRead
  | .write transport input budget => statusCall pool (cpp.writes input budget) transport

end CppClass

theorem tcpCall_eq (pool : Pool TcpStreamTransport) (call : HandleCall DlmsTransportTcpOptions) :
    tcpCall pool call = tcpClass.call pool call := by
  cases call <;> rfl

theorem udpCall_eq (pool : Pool UdpTransport) (call : HandleCall DlmsTransportUdpOptions) :
    udpCall pool call = udpClass.call pool call := by
  cases call with
  | create options transport => cases options <;> rfl
  | _ => rfl

theorem serialCall_eq (pool : Pool SerialTransport)
    (call : HandleCall DlmsTransportSerialOptions) :
    serialCall pool call = serialClass.call pool call := by
  cases call <;> rfl

/-- A call with a null pointer where it needs an object says so and does nothing else. -/
structure Refuses {σ : Type} (before : Pool σ) (trace : OsTrace) (reply : CReply)
    (after : Pool σ) : Prop where
  status : reply.status? = some .invalidArgument
  silent : trace = []
  unchanged : after = before

/-- The call ran the operation on the object behind the handle, returned the number of its
status, and touched no other object. -/
structure Mirrors {σ α : Type} (operation : Operation σ α) (status : α → TransportStatus)
    (before : Pool σ) (handle : Handle) (object : σ) (trace : OsTrace) (reply : CReply)
    (after : Pool σ) : Prop where
  image : ∃ outcome next, (operation object).Runs trace (outcome, next) ∧
    reply.status? = some (caughtStatus (outcome.map status)) ∧ after.object? handle = some next
  others : Pool.SameExcept before after handle

/-- `Ok` goes with a new handle to what was built, and anything else with null. -/
structure Creates {σ : Type} (construction : Option (Construction σ))
    (transport : Option (Option Handle)) (before : Pool σ) (trace : OsTrace) (reply : CReply)
    (after : Pool σ) : Prop where
  stored : ∃ status cell, reply = .created status cell ∧
    (status = .ok ↔ ∃ handle, cell = some (some handle)) ∧
    (status ≠ .ok → transport ≠ none → cell = some none)
  refused : transport = none → Refuses before trace reply after
  built : ∀ handle, reply = .created .ok (some (some handle)) →
    before.object? handle = none ∧ Pool.SameExcept before after handle ∧
      ∃ made, construction = some made ∧ after.object? handle = some made.object
  failed : reply.status? ≠ some .ok → after = before

/-- The value behind `bytes_read` after the call. -/
def CReply.bytesRead? : CReply → Option Nat
  | .read _ bytesRead _ => bytesRead
  | _ => none

structure Reads {σ : Type} (operation : Operation σ ReadReply) (size : Nat) (before : Pool σ)
    (transport : Option Handle) (bytesRead : Option Nat) (trace : OsTrace) (reply : CReply)
    (after : Pool σ) : Prop where
  refused : transport = none ∨ bytesRead = none → Refuses before trace reply after
  mirrored : ∀ handle object, transport = some handle → bytesRead ≠ none →
    before.object? handle = some object →
    Mirrors operation ReadReply.status before handle object trace reply after
  counted : bytesRead ≠ none →
    (∀ handle, transport = some handle → before.object? handle ≠ none) →
    ∃ count, reply.bytesRead? = some count ∧ (reply.status? ≠ some .ok → count = 0) ∧
      (reply.status? = some .ok → StaysWithin size trace → count ≤ size)

structure Answers {σ : Type} (operation : Operation σ TransportStatus) (before : Pool σ)
    (transport : Option Handle) (trace : OsTrace) (reply : CReply) (after : Pool σ) : Prop where
  refused : transport = none → Refuses before trace reply after
  mirrored : ∀ handle object, transport = some handle → before.object? handle = some object →
    Mirrors operation id before handle object trace reply after

/-- What each entry point owes its caller. -/
def CppClass.Faithful {Options σ : Type} (cpp : CppClass Options σ) (before : Pool σ)
    (trace : OsTrace) (reply : CReply) (after : Pool σ) : HandleCall Options → Prop
  | .create options transport =>
      Creates (options.bind cpp.builds) transport before trace reply after
  | .destroy transport => transport = none → trace = [] ∧ after = before
  | .open transport => Answers cpp.opens before transport trace reply after
  | .close transport => Answers cpp.closes before transport trace reply after
  | .isOpen _ => trace = [] ∧ after = before
  | .read transport output bytesRead =>
      Reads (cpp.reads output) output.size before transport bytesRead trace reply after
  | .write transport input budget =>
      Answers (cpp.writes input budget) before transport trace reply after

section

variable {σ α : Type} {pool after : Pool σ} {trace : OsTrace} {reply : CReply}

theorem onObject_runs {handle : Handle} {operation : Operation σ α} {tell : Option α → CReply}
    {object : σ} (alive : pool.object? handle = some object)
    (run : (onObject pool handle operation tell).Runs trace (reply, after)) :
    ∃ outcome next, (operation object).Runs trace (outcome, next) ∧ reply = tell outcome ∧
      after = pool.update handle (some next) := by
  simp only [onObject, alive] at run
  obtain ⟨front, back, ⟨outcome, next⟩, rfl, inner, told⟩ := Program.runs_bind_iff.mp run
  obtain ⟨rfl, rfl, rfl⟩ := Program.runs_done_pair_iff.mp told
  rw [List.append_nil]
  exact ⟨outcome, next, inner, rfl, rfl⟩

theorem onObject_mirrors {handle : Handle} {operation : Operation σ α}
    {tell : Option α → CReply} {status : α → TransportStatus}
    (tells : ∀ outcome, (tell outcome).status? = some (caughtStatus (outcome.map status)))
    {object : σ} (alive : pool.object? handle = some object)
    (run : (onObject pool handle operation tell).Runs trace (reply, after)) :
    Mirrors operation status pool handle object trace reply after := by
  obtain ⟨outcome, next, inner, rfl, rfl⟩ := onObject_runs alive run
  constructor
  · exact ⟨outcome, next, inner, tells outcome, pool.object?_update alive (some next)⟩
  · exact pool.update_sameExcept handle (some next)

theorem statusCall_answers {operation : Operation σ TransportStatus} {transport : Option Handle}
    (run : (statusCall pool operation transport).Runs trace (reply, after)) :
    Answers operation pool transport trace reply after := by
  constructor
  · intro null
    subst null
    obtain ⟨rfl, rfl, rfl⟩ := Program.runs_done_pair_iff.mp run
    exact ⟨rfl, rfl, rfl⟩
  · intro handle object given alive
    subst given
    simp only [statusCall] at run
    exact onObject_mirrors (fun outcome => by cases outcome <;> rfl) alive run

private theorem refused_creates {construction : Option (Construction σ)}
    {transport : Option (Option Handle)}
    (run : Program.Runs (.done (.created .invalidArgument (transport.map fun _ => none), pool))
      trace (reply, after)) : Creates construction transport pool trace reply after := by
  obtain ⟨rfl, rfl, rfl⟩ := Program.runs_done_pair_iff.mp run
  constructor
  · refine ⟨_, _, rfl, ?_, ?_⟩
    · cases transport <;> simp [invalidArgument_ne_ok]
    · intro _ given
      cases transport with
      | none => exact absurd rfl given
      | some cell => rfl
  · exact fun _ => ⟨rfl, rfl, rfl⟩
  · intro handle created
    cases transport <;> simp at created
  · exact fun _ => rfl

theorem createCall_creates {construction : Option (Construction σ)}
    {transport : Option (Option Handle)}
    (run : (createCall pool construction transport).Runs trace (reply, after)) :
    Creates construction transport pool trace reply after := by
  cases construction with
  | none => exact refused_creates run
  | some made =>
      cases transport with
      | none => exact refused_creates run
      | some cell =>
          simp only [createCall, Option.map_some] at run
          obtain ⟨front, back, allocated, rfl, _, rest⟩ := Program.runs_bind_iff.mp run
          cases allocated with
          | false =>
              obtain ⟨rfl, rfl, rfl⟩ := Program.runs_done_pair_iff.mp rest
              constructor
              · exact ⟨_, _, rfl, by simp [internalError_ne_ok], fun _ _ => rfl⟩
              · exact fun null => nomatch null
              · exact fun handle created => by simp at created
              · exact fun _ => rfl
          | true =>
              obtain ⟨rfl, rfl, rfl⟩ := Program.runs_done_pair_iff.mp rest
              constructor
              · exact ⟨_, _, rfl, by simp, fun failed => absurd rfl failed⟩
              · exact fun null => nomatch null
              · intro handle created
                obtain rfl : pool.fresh = handle := by simpa using created
                exact ⟨pool.object?_fresh, pool.insert_sameExcept made.object, made, rfl,
                  pool.object?_insert_fresh made.object⟩
              · exact fun failed => absurd rfl failed

theorem readCall_reads {operation : Operation σ ReadReply} {size : Nat}
    (counts : ∀ object, (operation object).Ensures fun trace outcome =>
      ∀ result, outcome.1 = some result → Counts size trace result)
    {transport : Option Handle} {bytesRead : Option Nat}
    (run : (readCall pool operation transport bytesRead).Runs trace (reply, after)) :
    Reads operation size pool transport bytesRead trace reply after := by
  constructor
  · intro null
    have refused : Program.Runs
        (.done (.read .invalidArgument (bytesRead.map fun _ => 0) [], pool))
        trace (reply, after) := by
      cases transport with
      | none => exact run
      | some handle =>
          cases bytesRead with
          | none => exact run
          | some old => simp at null
    obtain ⟨rfl, rfl, rfl⟩ := Program.runs_done_pair_iff.mp refused
    exact ⟨rfl, rfl, rfl⟩
  · intro handle object given stored alive
    obtain ⟨old, rfl⟩ := Option.ne_none_iff_exists'.mp stored
    subst given
    simp only [readCall, Option.map_some] at run
    exact onObject_mirrors (fun outcome => by cases outcome <;> rfl) alive run
  · intro stored live
    obtain ⟨old, rfl⟩ := Option.ne_none_iff_exists'.mp stored
    cases transport with
    | none =>
        obtain ⟨rfl, rfl, rfl⟩ := Program.runs_done_pair_iff.mp run
        exact ⟨0, rfl, fun _ => rfl, fun _ _ => Nat.zero_le _⟩
    | some handle =>
        obtain ⟨object, alive⟩ := Option.ne_none_iff_exists'.mp (live handle rfl)
        simp only [readCall, Option.map_some] at run
        obtain ⟨outcome, next, inner, rfl, rfl⟩ := onObject_runs alive run
        cases outcome with
        | none => exact ⟨0, rfl, fun _ => rfl, fun _ _ => Nat.zero_le _⟩
        | some result =>
            have counted := counts object trace _ inner result rfl
            refine ⟨result.bytesRead, rfl, ?_, ?_⟩
            · intro failed
              apply counted.nothing
              simpa [readReply, CReply.status?] using failed
            · intro succeeded
              apply counted.within
              simpa [readReply, CReply.status?] using succeeded

theorem isOpenCall_runs {isOpen : σ → Bool} {transport : Option Handle}
    (run : (isOpenCall pool isOpen transport).Runs trace (reply, after)) :
    trace = [] ∧ after = pool := by
  cases transport with
  | none =>
      obtain ⟨rfl, _, rfl⟩ := Program.runs_done_pair_iff.mp run
      exact ⟨rfl, rfl⟩
  | some handle =>
      simp only [isOpenCall] at run
      split at run <;>
      · obtain ⟨rfl, _, rfl⟩ := Program.runs_done_pair_iff.mp run
        exact ⟨rfl, rfl⟩

theorem CppClass.call_faithful {Options : Type} (cpp : CppClass Options σ)
    {call : HandleCall Options} (run : (cpp.call pool call).Runs trace (reply, after)) :
    cpp.Faithful pool trace reply after call := by
  cases call with
  | create options transport => exact createCall_creates run
  | destroy transport =>
      intro null
      subst null
      obtain ⟨rfl, _, rfl⟩ := Program.runs_done_pair_iff.mp run
      exact ⟨rfl, rfl⟩
  | «open» transport => exact statusCall_answers run
  | close transport => exact statusCall_answers run
  | isOpen transport => exact isOpenCall_runs run
  | read transport output bytesRead => exact readCall_reads (cpp.counts output) run
  | write transport input budget => exact statusCall_answers run

end

abbrev CInvocation := Invocation CHandles CCall OsCall OsCall.Answer CReply

/-- A C call is faithful to the class of its handle and leaves the other pools alone. -/
def FaithfulCall (invocation : CInvocation) : Prop :=
  match invocation.method with
  | .tcp call =>
      tcpClass.Faithful invocation.before.tcp invocation.trace invocation.reply
          invocation.after.tcp call ∧
        invocation.after.udp = invocation.before.udp ∧
        invocation.after.serial = invocation.before.serial
  | .udp call =>
      udpClass.Faithful invocation.before.udp invocation.trace invocation.reply
          invocation.after.udp call ∧
        invocation.after.tcp = invocation.before.tcp ∧
        invocation.after.serial = invocation.before.serial
  | .udpLocalPort _ => invocation.after = invocation.before
  | .serial call =>
      serialClass.Faithful invocation.before.serial invocation.trace invocation.reply
          invocation.after.serial call ∧
        invocation.after.tcp = invocation.before.tcp ∧
        invocation.after.udp = invocation.before.udp

theorem udpLocalPort_runs {pool after : Pool UdpTransport} {transport : Option Handle}
    {trace : OsTrace} {reply : CReply}
    (run : (dlmsTransportUdpLocalPort pool transport).Runs trace (reply, after)) :
    after = pool := by
  cases transport with
  | none => exact (Program.runs_done_pair_iff.mp run).2.2.symm
  | some handle =>
      simp only [dlmsTransportUdpLocalPort] at run
      split at run
      · exact (Program.runs_done_pair_iff.mp run).2.2.symm
      · obtain ⟨front, back, port, rfl, _, rest⟩ := Program.runs_bind_iff.mp run
        exact (Program.runs_done_pair_iff.mp rest).2.2.symm

theorem CHandles.invoke_faithful {before after : CHandles} {method : CCall} {trace : OsTrace}
    {reply : CReply} (run : (before.invoke method).Runs trace (reply, after)) :
    FaithfulCall ⟨before, method, trace, reply, after⟩ := by
  cases method with
  | tcp call =>
      obtain ⟨answer, pool, inner, rfl, rfl⟩ := Program.runs_prodMap_iff.mp run
      rw [tcpCall_eq] at inner
      exact ⟨tcpClass.call_faithful inner, rfl, rfl⟩
  | udp call =>
      obtain ⟨answer, pool, inner, rfl, rfl⟩ := Program.runs_prodMap_iff.mp run
      rw [udpCall_eq] at inner
      exact ⟨udpClass.call_faithful inner, rfl, rfl⟩
  | udpLocalPort transport =>
      obtain ⟨answer, pool, inner, rfl, rfl⟩ := Program.runs_prodMap_iff.mp run
      obtain rfl := udpLocalPort_runs inner
      rfl
  | serial call =>
      obtain ⟨answer, pool, inner, rfl, rfl⟩ := Program.runs_prodMap_iff.mp run
      rw [serialCall_eq] at inner
      exact ⟨serialClass.call_faithful inner, rfl, rfl⟩

/-- The C interface is a faithful image of the C++ classes, over any run of its calls. -/
theorem cApi_faithful {start final : CHandles} {history : List CInvocation}
    (session : Session CHandles.invoke start history final) :
    (∀ status, toCStatus status = status.namesake) ∧
      ∀ invocation ∈ history, FaithfulCall invocation :=
  ⟨toCStatus_eq_namesake, fun _ member => CHandles.invoke_faithful (session.runs_of_mem member)⟩

def meterTcpOptions : DlmsTransportTcpOptions where
  host := some "meter"
  port := 4059
  connectTimeoutMs := 5000
  readTimeoutMs := 5000
  writeTimeoutMs := 5000

/-- One handle, to the object given. -/
def tcpHandle (stream : TcpStreamTransport) : CHandles := ⟨⟨[some stream]⟩, .empty, .empty⟩

/-- Each of the three steps that may allocate goes well. -/
def meterCreate : CInvocation where
  before := .none
  method := .tcp (.create (some meterTcpOptions) (some none))
  trace := [⟨.allocate, true⟩, ⟨.allocate, true⟩, ⟨.allocate, true⟩]
  reply := .created .ok (some (some 0))
  after := tcpHandle (.new meterOptions)

def meterOpenCall : CInvocation where
  before := tcpHandle (.new meterOptions)
  method := .tcp (.open (some 0))
  trace := TcpStreamTransport.connectTrace meterOptions 0 meterAddress 3
  reply := .status .ok
  after := tcpHandle meterStream

def meterReadCall : CInvocation where
  before := tcpHandle meterStream
  method := .tcp (.read (some 0) ⟨false, 4⟩ (some 9))
  trace :=
    [⟨.select 3 true ⟨5, 0⟩, (1 : Int)⟩, ⟨.recv 3 4, .ok ⟨[126, 160], Nat.le_add_right 2 2⟩⟩]
  reply := .read .ok (some 2) [126, 160]
  after := tcpHandle meterStream

def nullReadCall : CInvocation where
  before := tcpHandle meterStream
  method := .tcp (.read none ⟨false, 4⟩ (some 9))
  trace := []
  reply := .read .invalidArgument (some 0) []
  after := tcpHandle meterStream

theorem meterCalls_session :
    Session CHandles.invoke .none [meterCreate, meterOpenCall, meterReadCall, nullReadCall]
      (tcpHandle meterStream) :=
  .cons (.call (.call (.call .refl)))
    (.cons (.call (.call (.call (.call (.call (.call .refl))))))
      (.cons (.call (.call .refl)) (.cons .refl .nil)))

theorem cApi_faithful_meter :
    FaithfulCall meterCreate ∧ FaithfulCall meterOpenCall ∧ FaithfulCall meterReadCall ∧
      FaithfulCall nullReadCall := by
  have faithful := (cApi_faithful meterCalls_session).2
  exact ⟨faithful _ (by simp), faithful _ (by simp), faithful _ (by simp), faithful _ (by simp)⟩

end DlmsTransport.Transport
