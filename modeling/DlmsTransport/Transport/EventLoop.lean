import Std.Data.TreeMap.Lemmas
import DlmsTransport.Posix.Integers
import DlmsTransport.Transport.Basic

/-! `ManualTransportEventLoop`. A callback is any code: while it runs, whatever
actions come next on the loop are the ones it performs. -/

set_option autoImplicit false

namespace DlmsTransport.Transport

open DlmsTransport.Posix

abbrev EventMask := BitVec 32

def TransportEventNone : EventMask := 0
def TransportEventReadable : EventMask := 1
def TransportEventTimer : EventMask := 4

structure TransportEvent where
  token : Int
  handle : Int
  events : EventMask
  deriving DecidableEq, Repr

/-- The private `Registration`. Its `std::function` is never empty, so it is a
plain callback here; the possibly empty argument is an `Option`. -/
structure Registration (Callback : Type) where
  handle : Int
  events : EventMask
  callback : Callback
  readyEvents : EventMask
  timerDelay : TransportDuration
  timer : Bool

abbrev Registrations (Callback : Type) := Std.TreeMap Int (Registration Callback)

structure ManualTransportEventLoop (Callback : Type) where
  nextToken_ : Int := 1
  registrations_ : Registrations Callback := ∅

variable {Callback : Type}

def Registration.ready (registration : Registration Callback) : EventMask :=
  registration.readyEvents &&& registration.events

def Registration.withReady (registration : Registration Callback) (events : EventMask) :
    Registration Callback :=
  { registration with readyEvents := events }

namespace ManualTransportEventLoop

/-- `token = nextToken_++; registrations_[token] = registration;` -/
def insert (loop : ManualTransportEventLoop Callback) (registration : Registration Callback) :
    ManualTransportEventLoop Callback where
  nextToken_ := toInt (loop.nextToken_ + 1)
  registrations_ := loop.registrations_.insert loop.nextToken_ registration

/-- `Register`, with the status, the `token` argument and the loop it leaves. -/
def register (loop : ManualTransportEventLoop Callback) (handle : Int) (events : EventMask)
    (callback : Option Callback) : TransportStatus × Int × ManualTransportEventLoop Callback :=
  match callback with
  | none => (.invalidArgument, 0, loop)
  | some callback =>
      if events = TransportEventNone then
        (.invalidArgument, 0, loop)
      else
        (.ok, loop.nextToken_, loop.insert
          { handle, events, callback, readyEvents := TransportEventNone
            timerDelay := { milliseconds := 0 }, timer := false })

def registerTimer (loop : ManualTransportEventLoop Callback) (delay : TransportDuration)
    (callback : Option Callback) : TransportStatus × Int × ManualTransportEventLoop Callback :=
  match callback with
  | none => (.invalidArgument, 0, loop)
  | some callback =>
      (.ok, loop.nextToken_, loop.insert
        { handle := 0, events := TransportEventTimer, callback
          readyEvents := TransportEventTimer, timerDelay := delay, timer := true })

def unregister (loop : ManualTransportEventLoop Callback) (token : Int) :
    TransportStatus × ManualTransportEventLoop Callback :=
  (.ok, { loop with registrations_ := loop.registrations_.erase token })

def setReady (loop : ManualTransportEventLoop Callback) (token : Int) (events : EventMask) :
    TransportStatus × ManualTransportEventLoop Callback :=
  if token ∈ loop.registrations_ then
    (.ok, { loop with
      registrations_ := loop.registrations_.modify token (·.withReady events) })
  else
    (.notOpen, loop)

/-- The first loop of `DispatchOnce`, over the entries it iterates. -/
def collect : List (Int × Registration Callback) → Registrations Callback →
    List TransportEvent × Registrations Callback
  | [], registrations => ([], registrations)
  | (token, registration) :: entries, registrations =>
      if registration.ready = TransportEventNone then
        collect entries registrations
      else
        let (events, registrations) := collect entries
          (if registration.timer then
            registrations.modify token (·.withReady TransportEventNone)
          else registrations)
        ({ token, handle := registration.handle, events := registration.ready } :: events,
          registrations)

def snapshot (loop : ManualTransportEventLoop Callback) : List TransportEvent :=
  (collect loop.registrations_.toList loop.registrations_).1

/-- The loop with the readiness of the collected timers cleared. -/
def collected (loop : ManualTransportEventLoop Callback) : ManualTransportEventLoop Callback :=
  { loop with registrations_ := (collect loop.registrations_.toList loop.registrations_).2 }

end ManualTransportEventLoop

/-- `events.empty() ? WouldBlock : Ok`. -/
def dispatchStatus : List TransportEvent → TransportStatus
  | [] => .wouldBlock
  | _ :: _ => .ok

/-- A `DispatchOnce` inside its call of a callback: its `events`, the event
passed on, the registration the callback was called through, and the events
after it. -/
structure DispatchFrame (Callback : Type) where
  events : List TransportEvent
  running : TransportEvent
  registration : Registration Callback
  remaining : List TransportEvent

/-- The loop and the running dispatches, the innermost first. -/
structure EventLoopState (Callback : Type) where
  loop : ManualTransportEventLoop Callback
  stack : List (DispatchFrame Callback)

inductive EventLoopAction (Callback : Type) where
  | register (handle : Int) (events : EventMask) (callback : Option Callback)
  | registerTimer (delay : TransportDuration) (callback : Option Callback)
  | unregister (token : Int)
  | setReady (token : Int) (events : EventMask)
  | dispatchOnce
  | callbackReturns

/-- What happens on the loop. The depth of a dispatch is the number of
dispatches it runs inside of. -/
inductive EventLoopEvent (Callback : Type) where
  | registered (status : TransportStatus) (token : Int) (timer : Bool)
  | unregistered (token : Int)
  | readied (status : TransportStatus) (token : Int) (events : EventMask)
  | invoked (depth : Nat) (event : TransportEvent) (callback : Callback)
  | skipped (depth : Nat) (event : TransportEvent)
  | returned (depth : Nat) (status : TransportStatus)
  deriving DecidableEq

namespace EventLoopState

def initial : EventLoopState Callback := ⟨{}, []⟩

/-- The second loop of `DispatchOnce`, from the `remaining` events up to the
next call of a callback or to the return. -/
def advance (loop : ManualTransportEventLoop Callback) (below : List (DispatchFrame Callback))
    (events : List TransportEvent) :
    List TransportEvent → EventLoopState Callback × List (EventLoopEvent Callback)
  | [] => (⟨loop, below⟩, [.returned below.length (dispatchStatus events)])
  | event :: remaining =>
      match loop.registrations_[event.token]? with
      | some registration =>
          (⟨loop, ⟨events, event, registration, remaining⟩ :: below⟩,
            [.invoked below.length event registration.callback])
      | none =>
          let (state, observed) := advance loop below events remaining
          (state, .skipped below.length event :: observed)

def step (state : EventLoopState Callback) :
    EventLoopAction Callback → Option (EventLoopState Callback × List (EventLoopEvent Callback))
  | .register handle events callback =>
      let (status, token, loop) := state.loop.register handle events callback
      some (⟨loop, state.stack⟩, [.registered status token false])
  | .registerTimer delay callback =>
      let (status, token, loop) := state.loop.registerTimer delay callback
      some (⟨loop, state.stack⟩, [.registered status token true])
  | .unregister token =>
      let (_, loop) := state.loop.unregister token
      some (⟨loop, state.stack⟩, [.unregistered token])
  | .setReady token events =>
      let (status, loop) := state.loop.setReady token events
      some (⟨loop, state.stack⟩, [.readied status token events])
  | .dispatchOnce =>
      some (advance state.loop.collected state.stack state.loop.snapshot state.loop.snapshot)
  | .callbackReturns =>
      match state.stack with
      | [] => none
      | frame :: below => some (advance state.loop below frame.events frame.remaining)

end EventLoopState

end DlmsTransport.Transport
