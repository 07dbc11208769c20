import DlmsTransport.Interaction.Machine
import DlmsTransport.Transport.EventLoop

/-! What one step of the event loop can do, and what every run keeps. -/

set_option autoImplicit false

namespace DlmsTransport.Transport

open DlmsTransport.Interaction DlmsTransport.Posix

variable {Callback : Type}

/-- A registration but for its readiness, all that `SetReady` and
`DispatchOnce` change. -/
def Registration.fixed (registration : Registration Callback) : Registration Callback :=
  registration.withReady TransportEventNone

/-- `DispatchOnce` clears the readiness of this registration. -/
def Registration.clears (registration : Registration Callback) : Bool :=
  registration.ready != TransportEventNone && registration.timer

/-- What collecting its event leaves of a registration. -/
def Registration.afterCollect (registration : Registration Callback) : Registration Callback :=
  if registration.clears then registration.fixed else registration

/-- The event `DispatchOnce` collects for a registration. -/
def Registration.event (registration : Registration Callback) (token : Int) : TransportEvent where
  token := token
  handle := registration.handle
  events := registration.ready

namespace Registration

@[simp] theorem fixed_withReady (registration : Registration Callback) (events : EventMask) :
    (registration.withReady events).fixed = registration.fixed := rfl

@[simp] theorem fixed_afterCollect (registration : Registration Callback) :
    registration.afterCollect.fixed = registration.fixed := by
  unfold afterCollect
  split <;> rfl

theorem ready_afterCollect {registration : Registration Callback}
    (timer : registration.timer = true) : registration.afterCollect.ready = TransportEventNone := by
  unfold afterCollect
  split
  case isTrue => exact BitVec.zero_and
  case isFalse calm => simpa [clears, timer] using calm

theorem map_fixed_withReady (registration : Option (Registration Callback)) (events : EventMask) :
    (registration.map (·.withReady events)).map fixed = registration.map fixed := by
  cases registration <;> rfl

theorem map_fixed_afterCollect (registration : Option (Registration Callback)) :
    (registration.map afterCollect).map fixed = registration.map fixed := by
  cases registration <;> simp

end Registration

namespace Registrations

theorem insert_getElem? (registrations : Registrations Callback) (key token : Int)
    (registration : Registration Callback) :
    (registrations.insert key registration)[token]? =
      if key = token then some registration else registrations[token]? := by
  simp [Std.TreeMap.getElem?_insert]

theorem erase_getElem? (registrations : Registrations Callback) (key token : Int) :
    (registrations.erase key)[token]? = if key = token then none else registrations[token]? := by
  simp [Std.TreeMap.getElem?_erase]

theorem modify_getElem? (registrations : Registrations Callback) (key token : Int)
    (change : Registration Callback → Registration Callback) :
    (registrations.modify key change)[token]? =
      if key = token then registrations[token]?.map change else registrations[token]? := by
  by_cases same : key = token
  · simp [same]
  · simp [Std.TreeMap.getElem?_modify, same]

end Registrations

namespace ManualTransportEventLoop

private theorem mem_collect {entries : List (Int × Registration Callback)}
    {registrations : Registrations Callback} {event : TransportEvent} :
    event ∈ (collect entries registrations).1 ↔
      ∃ token registration, (token, registration) ∈ entries ∧
        registration.ready ≠ TransportEventNone ∧ event = registration.event token := by
  induction entries generalizing registrations with
  | nil => simp [collect]
  | cons entry entries ih =>
      obtain ⟨token, registration⟩ := entry
      rw [collect]
      split
      case isTrue idle =>
          rw [ih]
          constructor
          · intro ⟨token', registration', member, found⟩
            exact ⟨token', registration', .tail _ member, found⟩
          · intro ⟨token', registration', member, found, same⟩
            rcases List.mem_cons.mp member with equal | member
            · cases equal
              exact absurd idle found
            · exact ⟨token', registration', member, found, same⟩
      case isFalse due =>
          simp only [List.mem_cons, ih, Prod.mk.injEq]
          constructor
          · intro either
            rcases either with rfl | ⟨token', registration', member, found⟩
            · exact ⟨token, registration, .inl ⟨rfl, rfl⟩, due, rfl⟩
            · exact ⟨token', registration', .inr member, found⟩
          · intro ⟨token', registration', either, found, same⟩
            rcases either with ⟨rfl, rfl⟩ | member
            · exact .inl same
            · exact .inr ⟨token', registration', member, found, same⟩

private theorem collect_tokens_sublist (entries : List (Int × Registration Callback))
    (registrations : Registrations Callback) :
    ((collect entries registrations).1.map (·.token)).Sublist (entries.map (·.1)) := by
  induction entries generalizing registrations with
  | nil => exact .slnil
  | cons entry entries ih =>
      obtain ⟨token, registration⟩ := entry
      rw [collect]
      split
      case isTrue => exact (ih registrations).cons token
      case isFalse => exact (ih _).cons_cons token

private theorem collect_getElem? (entries : List (Int × Registration Callback))
    (registrations : Registrations Callback) (token : Int) :
    (collect entries registrations).2[token]? =
      if entries.any fun entry => entry.1 == token && entry.2.clears then
        registrations[token]?.map Registration.fixed
      else registrations[token]? := by
  induction entries generalizing registrations with
  | nil => simp [collect]
  | cons entry entries ih =>
      obtain ⟨key, registration⟩ := entry
      rw [collect]
      split
      case isTrue idle =>
          have calm : registration.clears = false := by simp [Registration.clears, idle]
          rw [ih, List.any_cons, calm, Bool.and_false, Bool.false_or]
      case isFalse due =>
          have cleared : registration.clears = registration.timer := by
            simp [Registration.clears, due]
          cases kind : registration.timer with
          | false => rw [ih, List.any_cons, cleared, kind, Bool.and_false, Bool.false_or]; rfl
          | true =>
              by_cases same : key = token
              · rw [ih, List.any_cons, cleared, kind, if_pos rfl, Registrations.modify_getElem?,
                  if_pos same, same, Bool.and_true, BEq.rfl, Bool.true_or, if_pos rfl,
                  Registration.map_fixed_withReady]
                exact ite_self _
              · have other : (key == token) = false := by simpa using same
                rw [ih, List.any_cons, other, Bool.false_and, Bool.false_or, if_pos rfl,
                  Registrations.modify_getElem?, if_neg same]

theorem mem_snapshot {loop : ManualTransportEventLoop Callback} {event : TransportEvent} :
    event ∈ loop.snapshot ↔ ∃ (token : Int) (registration : Registration Callback),
      loop.registrations_[token]? = some registration ∧
        registration.ready ≠ TransportEventNone ∧ event = registration.event token := by
  simp only [snapshot, mem_collect, Std.TreeMap.mem_toList_iff_getElem?_eq_some]

theorem snapshot_ascending (loop : ManualTransportEventLoop Callback) :
    loop.snapshot.Pairwise fun earlier later => earlier.token < later.token := by
  have sorted : (loop.registrations_.toList.map (·.1)).Pairwise (compare · · = .lt) :=
    List.pairwise_map.mpr Std.TreeMap.ordered_keys_toList
  have tokens := sorted.sublist (collect_tokens_sublist _ loop.registrations_)
  rw [List.pairwise_map] at tokens
  exact tokens.imp fun before => Int.compare_eq_lt.mp before

theorem collected_getElem? (loop : ManualTransportEventLoop Callback) (token : Int) :
    loop.collected.registrations_[token]? =
      loop.registrations_[token]?.map Registration.afterCollect := by
  rw [collected, collect_getElem?]
  cases found : loop.registrations_[token]? with
  | none => simp
  | some registration =>
      have listed : (loop.registrations_.toList.any fun entry =>
          entry.1 == token && entry.2.clears) = registration.clears := by
        rw [Bool.eq_iff_iff, List.any_eq_true]
        constructor
        · intro ⟨⟨key, other⟩, member, clears⟩
          simp only [Bool.and_eq_true, beq_iff_eq] at clears
          rw [Std.TreeMap.mem_toList_iff_getElem?_eq_some, clears.1, found] at member
          cases member
          exact clears.2
        · intro clears
          exact ⟨(token, registration), Std.TreeMap.mem_toList_iff_getElem?_eq_some.mpr found,
            by simp [clears]⟩
      rw [listed]
      simp only [Option.map_some, Registration.afterCollect]
      split <;> rfl

private theorem collect_of_nil {entries : List (Int × Registration Callback)}
    {registrations : Registrations Callback} (idle : (collect entries registrations).1 = []) :
    (collect entries registrations).2 = registrations := by
  induction entries with
  | nil => rfl
  | cons entry entries ih =>
      rw [collect] at idle ⊢
      split
      case isTrue calm =>
          rw [if_pos calm] at idle
          exact ih idle
      case isFalse due =>
          rw [if_neg due] at idle
          exact absurd idle (List.cons_ne_nil _ _)

theorem collected_of_snapshot_nil {loop : ManualTransportEventLoop Callback}
    (idle : loop.snapshot = []) : loop.collected = loop := by
  rw [collected, collect_of_nil idle]

theorem unregister_getElem? (loop : ManualTransportEventLoop Callback) (key token : Int) :
    (loop.unregister key).2.registrations_[token]? =
      if key = token then none else loop.registrations_[token]? :=
  Registrations.erase_getElem? ..

theorem setReady_getElem? (loop : ManualTransportEventLoop Callback) (key token : Int)
    (events : EventMask) :
    (loop.setReady key events).2.registrations_[token]? =
      if key = token then loop.registrations_[token]?.map (·.withReady events)
      else loop.registrations_[token]? := by
  rw [setReady]
  split
  case isTrue => exact Registrations.modify_getElem? ..
  case isFalse absent =>
      by_cases same : key = token
      · subst same
        simp [Std.TreeMap.getElem?_eq_none absent]
      · rw [if_neg same]

theorem setReady_nextToken (loop : ManualTransportEventLoop Callback) (token : Int)
    (events : EventMask) : (loop.setReady token events).2.nextToken_ = loop.nextToken_ := by
  rw [setReady]
  split <;> rfl

/-- Only what `SetReady` and the collecting change. -/
def SameFixed (before after : Registrations Callback) (token : Int) : Prop :=
  after[token]?.map Registration.fixed = before[token]?.map Registration.fixed

theorem setReady_sameFixed (loop : ManualTransportEventLoop Callback) (key token : Int)
    (events : EventMask) :
    SameFixed loop.registrations_ (loop.setReady key events).2.registrations_ token := by
  rw [SameFixed, setReady_getElem?]
  split
  case isTrue => exact Registration.map_fixed_withReady ..
  case isFalse => rfl

theorem collected_sameFixed (loop : ManualTransportEventLoop Callback) (token : Int) :
    SameFixed loop.registrations_ loop.collected.registrations_ token := by
  rw [SameFixed, collected_getElem?, Registration.map_fixed_afterCollect]

theorem SameFixed.trans {first second third : Registrations Callback} {token : Int}
    (front : SameFixed first second token) (back : SameFixed second third token) :
    SameFixed first third token :=
  Eq.trans back front

theorem SameFixed.source {before after : Registrations Callback} {token : Int}
    (same : SameFixed before after token) {registration : Registration Callback}
    (found : after[token]? = some registration) :
    ∃ earlier, before[token]? = some earlier ∧ earlier.fixed = registration.fixed := by
  rw [SameFixed, found, Option.map_some] at same
  exact Option.map_eq_some_iff.mp same.symm

end ManualTransportEventLoop

namespace EventLoopState

/-- What the second loop of `DispatchOnce` can do with the `remaining` events. -/
inductive AdvanceForm (loop : ManualTransportEventLoop Callback)
    (below : List (DispatchFrame Callback)) (events : List TransportEvent) :
    List TransportEvent → EventLoopState Callback → List (EventLoopEvent Callback) → Prop where
  | finished {missing} :
      (∀ event ∈ missing, loop.registrations_[event.token]? = none) →
      AdvanceForm loop below events missing ⟨loop, below⟩
        (missing.map (.skipped below.length) ++ [.returned below.length (dispatchStatus events)])
  | called {missing event registration remaining} :
      (∀ event ∈ missing, loop.registrations_[event.token]? = none) →
      loop.registrations_[event.token]? = some registration →
      AdvanceForm loop below events (missing ++ event :: remaining)
        ⟨loop, ⟨events, event, registration, remaining⟩ :: below⟩
        (missing.map (.skipped below.length) ++
          [.invoked below.length event registration.callback])

theorem advance_form (loop : ManualTransportEventLoop Callback)
    (below : List (DispatchFrame Callback)) (events remaining : List TransportEvent) :
    AdvanceForm loop below events remaining (advance loop below events remaining).1
      (advance loop below events remaining).2 := by
  have noneMissing : ∀ event ∈ ([] : List TransportEvent),
      loop.registrations_[event.token]? = none := by simp
  induction remaining with
  | nil => exact .finished noneMissing
  | cons event remaining ih =>
      rw [advance]
      split
      case h_1 registration found =>
          exact .called noneMissing found
      case h_2 absent =>
          cases form : advance loop below events remaining with
          | mk state observed =>
              rw [form] at ih
              cases ih with
              | finished missing =>
                  exact .finished (List.forall_mem_cons.mpr ⟨absent, missing⟩)
              | called missing found =>
                  exact .called (List.forall_mem_cons.mpr ⟨absent, missing⟩) found

/-- The token whose entry in `registrations_` the action erases or assigns. -/
def replaces (state : EventLoopState Callback) : EventLoopAction Callback → Option Int
  | .register handle events callback =>
      if (state.loop.register handle events callback).1 = .ok then some state.loop.nextToken_
      else none
  | .registerTimer delay callback =>
      if (state.loop.registerTimer delay callback).1 = .ok then some state.loop.nextToken_
      else none
  | .unregister token => some token
  | _ => none

def Registers : EventLoopAction Callback → Prop
  | .register _ _ _ | .registerTimer _ _ => True
  | _ => False

/-- What each action does, when it can be taken. -/
inductive StepForm (state : EventLoopState Callback) :
    EventLoopAction Callback → EventLoopState Callback → List (EventLoopEvent Callback) →
      Prop where
  | refused {action timer} :
      Registers action → state.replaces action = none →
      StepForm state action state [.registered .invalidArgument 0 timer]
  | added {action} {registration : Registration Callback} :
      Registers action → state.replaces action = some state.loop.nextToken_ →
      (registration.timer = true → registration.events = TransportEventTimer) →
      StepForm state action ⟨state.loop.insert registration, state.stack⟩
        [.registered .ok state.loop.nextToken_ registration.timer]
  | erased {token} :
      StepForm state (.unregister token) ⟨(state.loop.unregister token).2, state.stack⟩
        [.unregistered token]
  | readied {token events registration} :
      state.loop.registrations_[token]? = some registration →
      StepForm state (.setReady token events) ⟨(state.loop.setReady token events).2, state.stack⟩
        [.readied .ok token events]
  | missed {token events} :
      state.loop.registrations_[token]? = none →
      StepForm state (.setReady token events) state [.readied .notOpen token events]
  | started {next observed} :
      AdvanceForm state.loop.collected state.stack state.loop.snapshot state.loop.snapshot
        next observed →
      StepForm state .dispatchOnce next observed
  | resumed {frame below next observed} :
      state.stack = frame :: below →
      AdvanceForm state.loop below frame.events frame.remaining next observed →
      StepForm state .callbackReturns next observed

theorem dispatchOnce_form {state next : EventLoopState Callback}
    {observed : List (EventLoopEvent Callback)}
    (stepped : state.step .dispatchOnce = some (next, observed)) :
    AdvanceForm state.loop.collected state.stack state.loop.snapshot state.loop.snapshot next
      observed := by
  obtain rfl := congrArg Prod.fst (Option.some.inj stepped)
  obtain rfl := congrArg Prod.snd (Option.some.inj stepped)
  exact advance_form ..

theorem step_form {state next : EventLoopState Callback} {action : EventLoopAction Callback}
    {observed : List (EventLoopEvent Callback)}
    (stepped : state.step action = some (next, observed)) :
    StepForm state action next observed := by
  obtain ⟨loop, stack⟩ := state
  cases action with
  | register handle events callback =>
      cases callback with
      | none =>
          cases stepped
          exact .refused trivial rfl
      | some callback =>
          by_cases none : events = TransportEventNone
          · simp only [step, ManualTransportEventLoop.register, none, if_true] at stepped
            cases stepped
            exact .refused trivial (by simp [replaces, ManualTransportEventLoop.register, none])
          · simp only [step, ManualTransportEventLoop.register, none, if_false] at stepped
            cases stepped
            exact .added trivial (by simp [replaces, ManualTransportEventLoop.register, none])
              (by simp)
  | registerTimer delay callback =>
      cases callback with
      | none =>
          cases stepped
          exact .refused trivial rfl
      | some callback =>
          cases stepped
          exact .added trivial rfl fun _ => rfl
  | unregister token =>
      cases stepped
      exact .erased
  | setReady token events =>
      by_cases member : token ∈ loop.registrations_
      · have status : (loop.setReady token events).1 = .ok := by
          simp [ManualTransportEventLoop.setReady, member]
        simp only [step, status, Option.some.injEq, Prod.mk.injEq] at stepped
        obtain ⟨rfl, rfl⟩ := stepped
        exact .readied (Std.TreeMap.getElem?_eq_some_getElem member)
      · simp only [step, ManualTransportEventLoop.setReady, member, if_false] at stepped
        cases stepped
        exact .missed (Std.TreeMap.getElem?_eq_none member)
  | dispatchOnce => exact .started (dispatchOnce_form stepped)
  | callbackReturns =>
      cases stack with
      | nil => cases stepped
      | cons frame below =>
          obtain rfl := congrArg Prod.fst (Option.some.inj stepped)
          obtain rfl := congrArg Prod.snd (Option.some.inj stepped)
          exact .resumed rfl (advance_form ..)

def OfDispatch (depth : Nat) : EventLoopEvent Callback → Prop
  | .invoked level _ _ | .skipped level _ | .returned level _ => level = depth
  | _ => False

namespace AdvanceForm

variable {loop : ManualTransportEventLoop Callback} {below : List (DispatchFrame Callback)}
  {events remaining : List TransportEvent} {next : EventLoopState Callback}
  {observed : List (EventLoopEvent Callback)}

theorem loop_eq (form : AdvanceForm loop below events remaining next observed) :
    next.loop = loop := by
  cases form <;> rfl

theorem ofDispatch (form : AdvanceForm loop below events remaining next observed) :
    ∀ event ∈ observed, OfDispatch below.length event := by
  cases form with
  | finished _ => simp [OfDispatch, or_imp, forall_and]
  | called _ _ => simp [OfDispatch, or_imp, forall_and]

theorem stack_eq (form : AdvanceForm loop below events remaining next observed) :
    ∃ above, next.stack = above ++ below := by
  cases form with
  | finished _ => exact ⟨[], rfl⟩
  | called _ _ => exact ⟨[_], rfl⟩

theorem stack_length_le (form : AdvanceForm loop below events remaining next observed) :
    next.stack.length ≤ below.length + 1 := by
  cases form <;> simp

theorem unregistered_not_mem (form : AdvanceForm loop below events remaining next observed)
    (token : Int) : .unregistered token ∉ observed :=
  fun member => (form.ofDispatch _ member).elim

end AdvanceForm

end EventLoopState

def EventLoopEvent.registers : EventLoopEvent Callback → Bool
  | .registered .ok _ _ => true
  | _ => false

def registrationsMade (log : List (EventLoopEvent Callback)) : Nat :=
  log.countP EventLoopEvent.registers

theorem registrationsMade_append (front back : List (EventLoopEvent Callback)) :
    registrationsMade (front ++ back) = registrationsMade front + registrationsMade back :=
  List.countP_append

theorem registrationsMade_registered (token : Int) (timer : Bool)
    (log : List (EventLoopEvent Callback)) :
    registrationsMade (.registered .ok token timer :: log) = registrationsMade log + 1 :=
  List.countP_cons_of_pos rfl

theorem registrationsMade_le_append {bound : Nat} (front back : List (EventLoopEvent Callback))
    (fits : registrationsMade (front ++ back) ≤ bound) : registrationsMade front ≤ bound := by
  rw [registrationsMade_append] at fits
  omega

namespace EventLoopState

theorem AdvanceForm.registrationsMade_eq {loop : ManualTransportEventLoop Callback}
    {below : List (DispatchFrame Callback)} {events remaining : List TransportEvent}
    {next : EventLoopState Callback} {observed : List (EventLoopEvent Callback)}
    (form : AdvanceForm loop below events remaining next observed) :
    registrationsMade observed = 0 := by
  rw [registrationsMade, List.countP_eq_zero]
  intro event member
  have belongs := form.ofDispatch event member
  cases event with
  | registered status token timer => exact belongs.elim
  | _ => simp [EventLoopEvent.registers]

/-- What holds after `made` registrations: tokens are the numbers up to it. -/
structure Sound (made : Nat) (state : EventLoopState Callback) : Prop where
  next : state.loop.nextToken_ = toInt (made + 1)
  issued : ∀ (token : Int) (registration : Registration Callback),
    state.loop.registrations_[token]? = some registration → token ≤ made
  frames : ∀ frame ∈ state.stack, ∀ event ∈ frame.running :: frame.remaining, event.token ≤ made
  timers : ∀ (token : Int) (registration : Registration Callback),
    state.loop.registrations_[token]? = some registration → registration.timer = true →
      registration.events = TransportEventTimer

namespace Sound

variable {made : Nat} {state next : EventLoopState Callback}

theorem initial : Sound 0 (initial : EventLoopState Callback) where
  next := (toInt_of_le (by decide)).symm
  issued := by simp [EventLoopState.initial]
  frames := by simp [EventLoopState.initial]
  timers := by simp [EventLoopState.initial]

theorem snapshot_le (sound : Sound made state) {event : TransportEvent}
    (member : event ∈ state.loop.snapshot) : event.token ≤ made := by
  obtain ⟨token, registration, found, _, rfl⟩ := ManualTransportEventLoop.mem_snapshot.mp member
  exact sound.issued token registration found

private theorem of_sameFixed (sound : Sound made state) (loop : ManualTransportEventLoop Callback)
    (counter : loop.nextToken_ = state.loop.nextToken_)
    (same : ∀ token, ManualTransportEventLoop.SameFixed state.loop.registrations_
      loop.registrations_ token) : Sound made ⟨loop, state.stack⟩ where
  next := counter.trans sound.next
  issued := by
    intro token registration found
    obtain ⟨earlier, stood, _⟩ := (same token).source found
    exact sound.issued token earlier stood
  frames := sound.frames
  timers := by
    intro token registration found timer
    obtain ⟨earlier, stood, equal⟩ := (same token).source found
    have kind := sound.timers token earlier stood
    cases earlier
    cases registration
    simp_all [Registration.fixed, Registration.withReady]

private theorem of_advance {loop : ManualTransportEventLoop Callback}
    {below : List (DispatchFrame Callback)} {events remaining : List TransportEvent}
    {observed : List (EventLoopEvent Callback)} (sound : Sound made ⟨loop, below⟩)
    (tokens : ∀ event ∈ remaining, event.token ≤ made)
    (form : AdvanceForm loop below events remaining next observed) : Sound made next := by
  cases form with
  | finished _ => exact sound
  | @called missing event registration remaining _ _ =>
      refine ⟨sound.next, sound.issued, ?_, sound.timers⟩
      intro frame member
      rcases List.mem_cons.mp member with rfl | member
      · intro other listed
        exact tokens other (List.mem_append_right missing listed)
      · exact sound.frames frame member

private theorem unregister_source {key token : Int} {registration : Registration Callback}
    (found : (state.loop.unregister key).2.registrations_[token]? = some registration) :
    state.loop.registrations_[token]? = some registration := by
  rw [ManualTransportEventLoop.unregister_getElem?] at found
  split at found
  case isTrue => cases found
  case isFalse => exact found

theorem nextToken_eq (sound : Sound made state) (fits : made + 1 ≤ intMax) :
    state.loop.nextToken_ = made + 1 :=
  sound.next.trans (toInt_of_le fits)

private theorem insert (sound : Sound made state) (fits : made + 1 ≤ intMax)
    {registration : Registration Callback}
    (kind : registration.timer = true → registration.events = TransportEventTimer) :
    Sound (made + 1) ⟨state.loop.insert registration, state.stack⟩ where
  next := by
    change toInt (state.loop.nextToken_ + 1) = _
    rw [sound.nextToken_eq fits]
    push_cast
    rfl
  issued := by
    intro token other found
    change (state.loop.registrations_.insert _ _)[token]? = _ at found
    rw [Registrations.insert_getElem?] at found
    split at found
    case isTrue same =>
        rw [sound.nextToken_eq fits] at same
        omega
    case isFalse =>
        have bound := sound.issued token other found
        omega
  frames := by
    intro frame member event listed
    have bound := sound.frames frame member event listed
    omega
  timers := by
    intro token other found
    change (state.loop.registrations_.insert _ _)[token]? = _ at found
    rw [Registrations.insert_getElem?] at found
    split at found
    case isTrue same =>
        cases found
        exact kind
    case isFalse => exact sound.timers token other found

theorem step (sound : Sound made state) {action : EventLoopAction Callback}
    {observed : List (EventLoopEvent Callback)}
    (fits : made + registrationsMade observed ≤ intMax)
    (stepped : state.step action = some (next, observed)) :
    Sound (made + registrationsMade observed) next := by
  cases step_form stepped with
  | refused _ _ => exact sound
  | added _ _ kind =>
      exact sound.insert fits kind
  | @erased token =>
      refine ⟨sound.next, ?_, sound.frames, ?_⟩
      · intro other registration found
        exact sound.issued other registration (unregister_source found)
      · intro other registration found
        exact sound.timers other registration (unregister_source found)
  | readied _ =>
      exact sound.of_sameFixed _ (ManualTransportEventLoop.setReady_nextToken ..) fun token =>
        ManualTransportEventLoop.setReady_sameFixed ..
  | missed _ => exact sound
  | started form =>
      rw [form.registrationsMade_eq, Nat.add_zero]
      exact (sound.of_sameFixed state.loop.collected rfl fun token =>
        ManualTransportEventLoop.collected_sameFixed ..).of_advance
          (fun event => sound.snapshot_le) form
  | @resumed frame below _ _ stack form =>
      rw [form.registrationsMade_eq, Nat.add_zero]
      have framed := sound.frames
      rw [stack, List.forall_mem_cons] at framed
      have lower : Sound made ⟨state.loop, below⟩ :=
        ⟨sound.next, sound.issued, framed.2, sound.timers⟩
      exact lower.of_advance (fun event member => framed.1 event (.tail _ member)) form

theorem run {inside : EventLoopState Callback → Prop} {past log : List (EventLoopEvent Callback)}
    {actions : List (EventLoopAction Callback)}
    (sound : Sound (registrationsMade past) state)
    (run : RunWithin EventLoopState.step inside state actions log next)
    (fits : registrationsMade (past ++ log) ≤ intMax) :
    Sound (registrationsMade (past ++ log)) next := by
  refine run.invariant (fun past state => Sound (registrationsMade past) state)
    (registrationsMade · ≤ intMax) registrationsMade_le_append ?_ fits sound
  intro past before action after observed _ stepped fits sound
  rw [registrationsMade_append] at fits ⊢
  exact sound.step fits stepped

theorem start : Sound (registrationsMade ([] : List (EventLoopEvent Callback)))
    (EventLoopState.initial : EventLoopState Callback) :=
  initial

theorem of_run {actions : List (EventLoopAction Callback)}
    {log : List (EventLoopEvent Callback)}
    (run : Run EventLoopState.step EventLoopState.initial actions log next)
    (fits : registrationsMade log ≤ intMax) : Sound (registrationsMade log) next := by
  have bounded : registrationsMade ([] ++ log) ≤ intMax := fits
  exact start.run run bounded

end Sound

/-- After `log` a token issued before it stands registered as it did, or is
gone, as it was unregistered in between. -/
def Tracks (log : List (EventLoopEvent Callback)) (before after : EventLoopState Callback)
    (token : Int) : Prop :=
  (.unregistered token ∈ log ∧ after.loop.registrations_[token]? = none) ∨
    (.unregistered token ∉ log ∧ ManualTransportEventLoop.SameFixed before.loop.registrations_
      after.loop.registrations_ token)

namespace Tracks

variable {before middle after : EventLoopState Callback} {token : Int}
  {front back : List (EventLoopEvent Callback)}

theorem trans (first : Tracks front before middle token) (second : Tracks back middle after token) :
    Tracks (front ++ back) before after token := by
  rcases second with ⟨erased, absent⟩ | ⟨spared, same⟩
  · exact .inl ⟨List.mem_append_right _ erased, absent⟩
  rcases first with ⟨erased, absent⟩ | ⟨kept, before⟩
  · refine .inl ⟨List.mem_append_left _ erased, ?_⟩
    rw [ManualTransportEventLoop.SameFixed, absent] at same
    exact Option.map_eq_none_iff.mp same
  · exact .inr ⟨by simp [spared, kept], before.trans same⟩

theorem of_advance {loop : ManualTransportEventLoop Callback}
    {below : List (DispatchFrame Callback)} {events remaining : List TransportEvent}
    (form : AdvanceForm loop below events remaining after front)
    (same : ManualTransportEventLoop.SameFixed before.loop.registrations_ loop.registrations_
      token) : Tracks front before after token := by
  refine .inr ⟨form.unregistered_not_mem token, ?_⟩
  rwa [form.loop_eq]

theorem step {made : Nat} (sound : Sound made before)
    (fits : made + registrationsMade front ≤ intMax) {action : EventLoopAction Callback}
    (stepped : before.step action = some (after, front)) (old : token ≤ made) :
    Tracks front before after token := by
  cases step_form stepped with
  | refused _ _ => exact .inr ⟨by simp, rfl⟩
  | added _ _ _ =>
      refine .inr ⟨by simp, ?_⟩
      have fresh : ¬ before.loop.nextToken_ = token := by
        rw [sound.nextToken_eq fits]
        omega
      change ((before.loop.registrations_.insert _ _)[token]?).map _ = _
      rw [Registrations.insert_getElem?, if_neg fresh]
  | @erased key =>
      by_cases same : key = token
      · refine .inl ⟨by simp [same], ?_⟩
        rw [ManualTransportEventLoop.unregister_getElem?, if_pos same]
      · refine .inr ⟨by simp [Ne.symm same], ?_⟩
        rw [ManualTransportEventLoop.SameFixed, ManualTransportEventLoop.unregister_getElem?,
          if_neg same]
  | readied _ => exact .inr ⟨by simp, ManualTransportEventLoop.setReady_sameFixed ..⟩
  | missed _ => exact .inr ⟨by simp, rfl⟩
  | started form => exact .of_advance form (ManualTransportEventLoop.collected_sameFixed ..)
  | resumed _ form => exact .of_advance form rfl

end Tracks

/-- Registrations are numbered; only issued tokens are invoked. -/
def Numbered (past : List (EventLoopEvent Callback)) : EventLoopEvent Callback → Prop
  | .registered .ok token _ => token = registrationsMade past + 1
  | .invoked _ event _ => event.token ≤ registrationsMade past
  | _ => True

theorem AdvanceForm.invoked_mem {loop : ManualTransportEventLoop Callback}
    {below : List (DispatchFrame Callback)} {events remaining : List TransportEvent}
    {next : EventLoopState Callback} {observed : List (EventLoopEvent Callback)}
    (form : AdvanceForm loop below events remaining next observed) {level : Nat}
    {event : TransportEvent} {callback : Callback}
    (member : .invoked level event callback ∈ observed) :
    event ∈ remaining ∧ ∃ registration, loop.registrations_[event.token]? = some registration ∧
      callback = registration.callback := by
  cases form with
  | finished _ => simp at member
  | called _ found =>
      simp only [List.mem_append, List.mem_map, reduceCtorEq, and_false, exists_false,
        List.mem_singleton, EventLoopEvent.invoked.injEq, false_or] at member
      obtain ⟨_, rfl, rfl⟩ := member
      exact ⟨by simp, _, found, rfl⟩

theorem AdvanceForm.skipped_mem {loop : ManualTransportEventLoop Callback}
    {below : List (DispatchFrame Callback)} {events remaining : List TransportEvent}
    {next : EventLoopState Callback} {observed : List (EventLoopEvent Callback)}
    (form : AdvanceForm loop below events remaining next observed) {level : Nat}
    {event : TransportEvent} (member : .skipped level event ∈ observed) :
    event ∈ remaining ∧ loop.registrations_[event.token]? = none := by
  cases form with
  | finished missing =>
      simp only [List.mem_append, List.mem_map, EventLoopEvent.skipped.injEq, List.mem_singleton,
        reduceCtorEq, or_false] at member
      obtain ⟨_, listed, _, rfl⟩ := member
      exact ⟨listed, missing _ listed⟩
  | called missing _ =>
      simp only [List.mem_append, List.mem_map, EventLoopEvent.skipped.injEq, List.mem_singleton,
        reduceCtorEq, or_false] at member
      obtain ⟨_, listed, _, rfl⟩ := member
      exact ⟨List.mem_append_left _ listed, missing _ listed⟩

private theorem AdvanceForm.numbered {loop : ManualTransportEventLoop Callback}
    {below : List (DispatchFrame Callback)} {events remaining : List TransportEvent}
    {next : EventLoopState Callback} {past observed : List (EventLoopEvent Callback)}
    (form : AdvanceForm loop below events remaining next observed)
    (issued : ∀ (token : Int) (registration : Registration Callback),
      loop.registrations_[token]? = some registration → token ≤ registrationsMade past) :
    Justified Numbered past observed := by
  apply Justified.of_splits
  intro front event back same
  have member : event ∈ observed := by simp [same]
  cases event with
  | registered _ _ _ => exact (form.ofDispatch _ member).elim
  | invoked level event callback =>
      obtain ⟨_, registration, found, _⟩ := form.invoked_mem member
      have bound := issued event.token registration found
      simp only [Numbered, registrationsMade_append]
      omega
  | _ => trivial

theorem Sound.numbered {inside : EventLoopState Callback → Prop}
    {state next : EventLoopState Callback} {past log : List (EventLoopEvent Callback)}
    {actions : List (EventLoopAction Callback)}
    (sound : Sound (registrationsMade past) state)
    (run : RunWithin EventLoopState.step inside state actions log next)
    (fits : registrationsMade (past ++ log) ≤ intMax) : Justified Numbered past log := by
  refine (run.invariant_justified (fun past state => Sound (registrationsMade past) state)
    (registrationsMade · ≤ intMax) _ registrationsMade_le_append ?_ fits sound).2
  intro past before action after observed _ stepped fits sound
  rw [registrationsMade_append] at fits ⊢
  refine ⟨sound.step fits stepped, ?_⟩
  cases step_form stepped with
  | refused _ _ => exact ⟨trivial, trivial⟩
  | added _ _ _ => exact ⟨sound.nextToken_eq fits, trivial⟩
  | erased => exact ⟨trivial, trivial⟩
  | readied _ => exact ⟨trivial, trivial⟩
  | missed _ => exact ⟨trivial, trivial⟩
  | started form =>
      apply form.numbered
      intro token registration found
      obtain ⟨earlier, stood, _⟩ :=
        (ManualTransportEventLoop.collected_sameFixed before.loop token).source found
      exact sound.issued token earlier stood
  | resumed _ form => exact form.numbered sound.issued

end EventLoopState

end DlmsTransport.Transport
