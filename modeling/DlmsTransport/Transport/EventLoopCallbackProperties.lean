import DlmsTransport.Transport.EventLoopInvariants

/-! Whether the registration that owns a running callback stays in
`registrations_` while the callback runs. -/

set_option autoImplicit false

namespace DlmsTransport.Transport

open DlmsTransport.Interaction DlmsTransport.Posix

variable {Callback : Type}

namespace EventLoopState

/-- Every running callback still has the registration it was called through. -/
def CallbacksKept (state : EventLoopState Callback) : Prop :=
  ∀ frame ∈ state.stack,
    state.loop.registrations_[frame.running.token]?.map Registration.fixed =
      some frame.registration.fixed

/-- The action leaves the entries of running callbacks in the map. -/
def SparesRunning (state : EventLoopState Callback) (action : EventLoopAction Callback) : Prop :=
  ∀ token, state.replaces action = some token →
    ∀ frame ∈ state.stack, frame.running.token ≠ token

section Steps

variable {state next : EventLoopState Callback} {action : EventLoopAction Callback}
  {observed : List (EventLoopEvent Callback)}

private theorem CallbacksKept.of_sameFixed {loop : ManualTransportEventLoop Callback}
    (kept : CallbacksKept state)
    (same : ∀ frame ∈ state.stack, ManualTransportEventLoop.SameFixed state.loop.registrations_
      loop.registrations_ frame.running.token) : CallbacksKept ⟨loop, state.stack⟩ :=
  fun frame member => Eq.trans (same frame member) (kept frame member)

private theorem CallbacksKept.of_advance {loop : ManualTransportEventLoop Callback}
    {below : List (DispatchFrame Callback)} {events remaining : List TransportEvent}
    (kept : CallbacksKept ⟨loop, below⟩)
    (form : AdvanceForm loop below events remaining next observed) : CallbacksKept next := by
  cases form with
  | finished _ => exact kept
  | called _ found =>
      intro frame member
      rcases List.mem_cons.mp member with rfl | member
      · exact congrArg (Option.map Registration.fixed) found
      · exact kept frame member

theorem CallbacksKept.step (kept : CallbacksKept state) (spares : SparesRunning state action)
    (stepped : state.step action = some (next, observed)) : CallbacksKept next := by
  cases step_form stepped with
  | refused _ _ => exact kept
  | added _ replaces _ =>
      apply kept.of_sameFixed
      intro frame member
      have other := spares _ replaces frame member
      change ((state.loop.registrations_.insert _ _)[frame.running.token]?).map _ = _
      rw [Registrations.insert_getElem?, if_neg (Ne.symm other)]
  | @erased token =>
      apply kept.of_sameFixed
      intro frame member
      have other := spares token rfl frame member
      rw [ManualTransportEventLoop.SameFixed, ManualTransportEventLoop.unregister_getElem?,
        if_neg (Ne.symm other)]
  | readied _ =>
      exact kept.of_sameFixed fun _ _ => ManualTransportEventLoop.setReady_sameFixed ..
  | missed _ => exact kept
  | started form =>
      have settled : CallbacksKept ⟨state.loop.collected, state.stack⟩ :=
        kept.of_sameFixed fun _ _ => ManualTransportEventLoop.collected_sameFixed ..
      exact settled.of_advance form
  | @resumed frame below _ _ stack form =>
      have lower : CallbacksKept ⟨state.loop, below⟩ :=
        fun frame member => kept frame (stack ▸ .tail _ member)
      exact lower.of_advance form

theorem not_callbacksKept_of_unregister {token : Int} {frame : DispatchFrame Callback}
    (stepped : state.step (.unregister token) = some (next, observed))
    (member : frame ∈ state.stack) (running : frame.running.token = token) :
    ¬ CallbacksKept next := by
  cases stepped
  intro kept
  have stands := kept frame member
  have gone : (state.loop.registrations_.erase token)[frame.running.token]? = none := by
    rw [Registrations.erase_getElem?, if_pos running.symm]
  rw [gone] at stands
  cases stands

theorem SparesRunning.of_registers {made : Nat} (sound : Sound made state)
    (fits : made + registrationsMade observed ≤ intMax)
    (stepped : state.step action = some (next, observed)) (registers : Registers action) :
    SparesRunning state action := by
  intro token replaces frame member
  cases step_form stepped with
  | refused _ none =>
      rw [none] at replaces
      cases replaces
  | added _ some _ =>
      rw [some] at replaces
      cases replaces
      have bound := sound.frames frame member frame.running (.head _)
      rw [sound.nextToken_eq fits]
      omega
  | _ => exact registers.elim

end Steps

private theorem fresh_of_takes {actions : List (EventLoopAction Callback)}
    {log : List (EventLoopEvent Callback)} {state final : EventLoopState Callback}
    {action : EventLoopAction Callback} (run : Run step initial actions log final)
    (fits : registrationsMade log ≤ intMax) (taken : Takes step initial actions state action)
    (registers : Registers action) : SparesRunning state action := by
  obtain ⟨front, back, frontLog, rfl, reached⟩ := taken
  obtain ⟨middle, otherLog, backLog, rfl, first, second⟩ := run.split
  obtain ⟨rfl, rfl⟩ := reached.unique first
  obtain ⟨next, observed, rest, rfl, stepped, _⟩ := second.cons_inv
  have sound := Sound.of_run reached (registrationsMade_le_append _ _ fits)
  rw [← List.append_assoc] at fits
  have soFar := registrationsMade_le_append _ _ fits
  rw [registrationsMade_append] at soFar
  exact .of_registers sound soFar stepped registers

/-- Callbacks keep their registrations in every state a run passes when no step
erases or assigns the entry of a running one. With fewer registrations than
`int` has values, that is exactly when no running callback is unregistered. -/
theorem runningCallbacks_kept_iff {actions : List (EventLoopAction Callback)}
    {log : List (EventLoopEvent Callback)} {final : EventLoopState Callback}
    (run : Run step initial actions log final) :
    ((∀ state action, Takes step initial actions state action → SparesRunning state action) →
      ∀ state, Passes step initial actions state → CallbacksKept state) ∧
    (registrationsMade log ≤ intMax →
      ((∀ state, Passes step initial actions state → CallbacksKept state) ↔
        ∀ state token, Takes step initial actions state (.unregister token) →
          ∀ frame ∈ state.stack, frame.running.token ≠ token)) := by
  have sufficient (spares : ∀ state action, Takes step initial actions state action →
      SparesRunning state action) (state : EventLoopState Callback)
      (passes : Passes step initial actions state) : CallbacksKept state := by
    refine passes.invariant (fun state action next observed taken stepped kept =>
      kept.step (spares state action taken) stepped) ?_
    intro frame member
    cases member
  refine ⟨sufficient, fun fits => ⟨?_, ?_⟩⟩
  · intro kept state token taken frame member running
    obtain ⟨front, back, frontLog, rfl, reached⟩ := taken
    have stepped : state.step (.unregister token) =
        some (⟨(state.loop.unregister token).2, state.stack⟩, [.unregistered token]) := rfl
    refine not_callbacksKept_of_unregister stepped member running (kept _ ?_)
    exact ⟨front ++ [.unregister token], back, _, by simp, reached.append (.single trivial stepped)⟩
  · intro spared
    apply sufficient
    intro state action taken
    cases action with
    | unregister token =>
        intro other same
        cases same
        exact spared state token taken
    | register handle events callback => exact fresh_of_takes run fits taken trivial
    | registerTimer delay callback => exact fresh_of_takes run fits taken trivial
    | _ =>
        intro token replaces
        cases replaces

section OneShot

def oneShot : List (EventLoopAction String) :=
  [.registerTimer ⟨50⟩ (some "once"), .dispatchOnce, .unregister 1]

def oneShotState : EventLoopState String × List (EventLoopEvent String) :=
  (execute step (fun _ => True) initial oneShot).getD (initial, [])

theorem runningCallbacks_oneShot :
    Run step initial oneShot oneShotState.2 oneShotState.1 ∧
      oneShotState.2 =
        [.registered .ok 1 true, .invoked 0 ⟨1, 0, 4⟩ "once", .unregistered 1] ∧
      ¬ CallbacksKept oneShotState.1 := by
  refine ⟨RunWithin.iff_execute.mpr rfl, rfl, fun kept => ?_⟩
  have gone : oneShotState.1.loop.registrations_[(1 : Int)]? = none := rfl
  have stands : (oneShotState.1.loop.registrations_[(1 : Int)]?).map Registration.fixed = some _ :=
    kept _ (.head _)
  rw [gone] at stands
  cases stands

def oneShotCalled : EventLoopState String × List (EventLoopEvent String) :=
  (execute step (fun _ => True) initial [.registerTimer ⟨50⟩ (some "once"), .dispatchOnce]).getD
    (initial, [])

def oneShotReturned : EventLoopState String × List (EventLoopEvent String) :=
  (execute step (fun _ => True) oneShotCalled.1 [.callbackReturns]).getD (initial, [])

theorem runningCallbacks_kept_iff_returned :
    oneShotCalled.1.stack.length = 1 ∧ CallbacksKept oneShotCalled.1 := by
  have called : Run step initial [.registerTimer ⟨50⟩ (some "once"), .dispatchOnce]
      oneShotCalled.2 oneShotCalled.1 := RunWithin.iff_execute.mpr rfl
  have returned := called.append (.single trivial rfl : Run step _ [.callbackReturns]
    oneShotReturned.2 oneShotReturned.1)
  have whole := returned.append (.single trivial rfl : Run step _ [.unregister 1] _ _)
  refine ⟨rfl, ((runningCallbacks_kept_iff whole).2 (by decide)).mpr ?_ _
    ⟨_, [.callbackReturns, .unregister 1], _, rfl, called⟩⟩
  intro state token taken frame member
  obtain ⟨front, back, log, same, reached⟩ := taken
  have shape : front = [.registerTimer ⟨50⟩ (some "once"), .dispatchOnce, .callbackReturns] := by
    rcases front with _ | ⟨first, _ | ⟨second, _ | ⟨third, _ | ⟨fourth, front⟩⟩⟩⟩
    · cases same
    · cases same
    · cases same
    · cases same
      rfl
    · simp at same
  subst shape
  obtain ⟨_, rfl⟩ := reached.unique returned
  cases member

end OneShot

end EventLoopState

end DlmsTransport.Transport
