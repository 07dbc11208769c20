import DlmsTransport.Transport.EventLoopInvariants

/-! The tokens that registrations hand out. They come from a counter of type
`int`, which every accepted registration increments and nothing ever resets. -/

set_option autoImplicit false

namespace DlmsTransport.Transport

open DlmsTransport.Interaction DlmsTransport.Posix

variable {Callback : Type}

/-- The callback argument of a registration. -/
def EventLoopAction.callback? : EventLoopAction Callback → Option Callback
  | .register _ _ callback | .registerTimer _ callback => callback
  | _ => none

/-- The registrations whose arguments pass the checks. -/
def EventLoopAction.acceptable : EventLoopAction Callback → Bool
  | .register _ events callback => callback.isSome && events != TransportEventNone
  | .registerTimer _ callback => callback.isSome
  | _ => false

namespace EventLoopState

/-- What a registration owes its caller, given the status and token it returns. -/
structure RegistrationLaw (before after : EventLoopState Callback)
    (action : EventLoopAction Callback) (status : TransportStatus) (token : Int) : Prop where
  /-- The token is neither the failure value nor that of a live registration. -/
  fresh : status = .ok → token ≠ 0 ∧ before.loop.registrations_[token]? = none
  /-- The earlier registrations stay, and the new one has its own callback. -/
  stored : status = .ok →
    (∀ (key : Int) (registration : Registration Callback),
      before.loop.registrations_[key]? = some registration →
        after.loop.registrations_[key]? = some registration) ∧
    after.loop.registrations_[token]?.map (·.callback) = action.callback?
  /-- `nextToken_++` stays within `int`. -/
  inRange : status = .ok → before.loop.nextToken_ + 1 ≤ intMax
  refused : status = .invalidArgument → token = 0 ∧ after = before

/-- Every registration of a run keeps the law. -/
def TokensFresh (actions : List (EventLoopAction Callback)) : Prop :=
  ∀ state action next status token timer, Takes step initial actions state action →
    step state action = some (next, [.registered status token timer]) →
    RegistrationLaw state next action status token

section Counting

variable {state next final : EventLoopState Callback} {action : EventLoopAction Callback}
  {actions : List (EventLoopAction Callback)} {observed log : List (EventLoopEvent Callback)}

theorem registrationsMade_step (stepped : state.step action = some (next, observed)) :
    registrationsMade observed = [action].countP EventLoopAction.acceptable := by
  rw [List.countP_singleton]
  cases step_form stepped with
  | @refused action _ registers none =>
      cases action with
      | register handle events callback =>
          cases callback with
          | none => rfl
          | some callback =>
              by_cases masked : events = TransportEventNone
              · simp [EventLoopAction.acceptable, masked, registrationsMade,
                  EventLoopEvent.registers]
              · simp [replaces, ManualTransportEventLoop.register, masked] at none
      | registerTimer delay callback =>
          cases callback with
          | none => rfl
          | some callback => cases none
      | _ => exact registers.elim
  | @added action _ registers some _ =>
      cases action with
      | register handle events callback =>
          cases callback with
          | none => cases some
          | some callback =>
              by_cases masked : events = TransportEventNone
              · simp [replaces, ManualTransportEventLoop.register, masked] at some
              · simp [EventLoopAction.acceptable, masked, registrationsMade,
                  EventLoopEvent.registers]
      | registerTimer delay callback =>
          cases callback with
          | none => cases some
          | some callback => rfl
      | _ => exact registers.elim
  | erased => rfl
  | readied _ => rfl
  | missed _ => rfl
  | started form => exact form.registrationsMade_eq
  | resumed _ form => exact form.registrationsMade_eq

/-- A run makes as many registrations as it has acceptable ones. -/
theorem registrationsMade_run (run : Run step state actions log final) :
    registrationsMade log = actions.countP EventLoopAction.acceptable := by
  induction run with
  | nil => rfl
  | cons _ stepped _ ih =>
      rw [registrationsMade_append, ih, registrationsMade_step stepped, ← List.countP_append,
        List.singleton_append]

end Counting

/-- A count that a list exceeds is exceeded at some element. -/
private theorem exists_split_of_lt_countP {α : Type} {accepts : α → Bool} {list : List α}
    {count : Nat} (exceeds : count < list.countP accepts) :
    ∃ front element back, list = front ++ element :: back ∧ accepts element = true ∧
      front.countP accepts = count := by
  induction list generalizing count with
  | nil => simp at exceeds
  | cons first rest ih =>
      by_cases accepted : accepts first = true
      · rw [List.countP_cons_of_pos accepted] at exceeds
        cases count with
        | zero => exact ⟨[], first, rest, rfl, accepted, rfl⟩
        | succ count =>
            obtain ⟨front, element, back, rfl, found, counted⟩ :=
              ih (Nat.lt_of_succ_lt_succ exceeds)
            exact ⟨first :: front, element, back, rfl, found, by
              rw [List.countP_cons_of_pos accepted, counted]⟩
      · rw [List.countP_cons_of_neg accepted] at exceeds
        obtain ⟨front, element, back, rfl, found, counted⟩ := ih exceeds
        exact ⟨first :: front, element, back, rfl, found, by
          rw [List.countP_cons_of_neg accepted, counted]⟩

section Tokens

variable {state next final : EventLoopState Callback} {action : EventLoopAction Callback}
  {actions : List (EventLoopAction Callback)} {log : List (EventLoopEvent Callback)}

private theorem acceptable_step (accepted : action.acceptable = true)
    (state : EventLoopState Callback) :
    ∃ next timer,
      state.step action = some (next, [.registered .ok state.loop.nextToken_ timer]) := by
  cases action with
  | register handle events callback =>
      cases callback with
      | none => cases accepted
      | some callback =>
          have masked : events ≠ TransportEventNone := by
            simpa [EventLoopAction.acceptable] using accepted
          simp only [step, ManualTransportEventLoop.register, masked, if_false]
          exact ⟨_, false, rfl⟩
  | registerTimer delay callback =>
      cases callback with
      | none => cases accepted
      | some callback => exact ⟨_, true, rfl⟩
  | _ => cases accepted

/-- With `2 ^ 31 - 1` acceptable registrations, one of them finds the counter at
its last value. -/
theorem not_tokensFresh_of_le (run : Run step initial actions log final)
    (many : intMax ≤ actions.countP EventLoopAction.acceptable) : ¬ TokensFresh actions := by
  intro fresh
  have exceeds : intMax - 1 < actions.countP EventLoopAction.acceptable :=
    Nat.lt_of_lt_of_le (by decide) many
  obtain ⟨front, action, back, rfl, accepted, counted⟩ := exists_split_of_lt_countP exceeds
  obtain ⟨state, frontLog, backLog, rfl, reached, _⟩ := run.split
  have made := (registrationsMade_run reached).trans counted
  have sound := Sound.of_run reached (made.le.trans (by decide))
  obtain ⟨next, timer, stepped⟩ := acceptable_step accepted state
  have inRange := (fresh state action next _ _ timer ⟨front, back, frontLog, rfl, reached⟩
    stepped).inRange rfl
  rw [sound.nextToken_eq (by rw [made]; decide), made] at inRange
  exact absurd inRange (by decide)

private theorem RegistrationLaw.refuses {token : Int} (failed : token = 0) :
    RegistrationLaw state state action .invalidArgument token where
  fresh := nofun
  stored := nofun
  inRange := nofun
  refused := fun _ => ⟨failed, rfl⟩

private theorem Sound.accepts {made : Nat} (sound : Sound made state) (fits : made + 1 < intMax)
    {registration : Registration Callback}
    (called : some registration.callback = action.callback?) :
    RegistrationLaw state ⟨state.loop.insert registration, state.stack⟩ action .ok
      state.loop.nextToken_ := by
  have counter := sound.nextToken_eq fits.le
  have absent : state.loop.registrations_[state.loop.nextToken_]? = none := by
    cases found : state.loop.registrations_[state.loop.nextToken_]? with
    | none => rfl
    | some registration =>
        have issued := sound.issued _ registration found
        omega
  constructor
  · exact fun _ => ⟨by omega, absent⟩
  · intro _
    constructor
    · intro key earlier found
      change (state.loop.registrations_.insert _ _)[key]? = _
      rw [Registrations.insert_getElem?, if_neg, found]
      intro same
      rw [same, found] at absent
      cases absent
    · change ((state.loop.registrations_.insert _ _)[_]?).map _ = _
      rw [Registrations.insert_getElem?, if_pos rfl]
      exact called
  · intro _
    omega
  · nofun

/-- A registration in a state that few enough registrations have led to. -/
theorem Sound.registrationLaw {made : Nat} (sound : Sound made state) {status : TransportStatus}
    {token : Int} {timer : Bool}
    (stepped : state.step action = some (next, [.registered status token timer]))
    (fits : action.acceptable = true → made + 1 < intMax) :
    RegistrationLaw state next action status token := by
  cases action with
  | register handle events callback =>
      cases callback with
      | none =>
          cases stepped
          exact .refuses rfl
      | some callback =>
          by_cases masked : events = TransportEventNone
          · simp only [EventLoopState.step, ManualTransportEventLoop.register, masked, if_true]
              at stepped
            cases stepped
            exact .refuses rfl
          · simp only [EventLoopState.step, ManualTransportEventLoop.register, masked, if_false]
              at stepped
            cases stepped
            exact sound.accepts (fits (by simp [EventLoopAction.acceptable, masked])) rfl
  | registerTimer delay callback =>
      cases callback with
      | none =>
          cases stepped
          exact .refuses rfl
      | some callback =>
          cases stepped
          exact sound.accepts (fits rfl) rfl
  | unregister token => cases stepped
  | setReady token events => cases stepped
  | dispatchOnce =>
      have member := (dispatchOnce_form stepped).ofDispatch _ (.head _)
      exact member.elim
  | callbackReturns =>
      cases step_form stepped with
      | refused registers _ => exact registers.elim
      | added registers _ _ => exact registers.elim
      | resumed _ form =>
          have member := form.ofDispatch _ (.head _)
          exact member.elim

end Tokens

/-- The law holds throughout a run exactly when the counter is not used up. -/
theorem tokens_fresh_iff {actions : List (EventLoopAction Callback)}
    {log : List (EventLoopEvent Callback)} {final : EventLoopState Callback}
    (run : Run step initial actions log final) :
    TokensFresh actions ↔ actions.countP EventLoopAction.acceptable < intMax := by
  constructor
  · intro fresh
    exact Nat.lt_of_not_le fun many => not_tokensFresh_of_le run many fresh
  · intro few state action next status token timer taken stepped
    obtain ⟨front, back, frontLog, rfl, reached⟩ := taken
    rw [List.countP_append, List.countP_cons] at few
    have made := registrationsMade_run reached
    have sound := Sound.of_run reached (by omega)
    apply sound.registrationLaw stepped
    intro accepted
    rw [if_pos accepted] at few
    omega

/-- A meter is polled on a one-shot timer that is dropped after each poll. -/
def polls (count : Nat) : List (EventLoopAction String) :=
  (List.range count).flatMap fun (made : Nat) =>
    [.registerTimer ⟨50⟩ (some "poll"), .unregister (made + 1)]

theorem tokens_fresh_iff_polls : TokensFresh (polls 3) := by
  have run : Run step initial (polls 3)
      ((execute step (fun _ => True) initial (polls 3)).getD (initial, [])).2
      ((execute step (fun _ => True) initial (polls 3)).getD (initial, [])).1 :=
    RunWithin.iff_execute.mpr rfl
  exact (tokens_fresh_iff run).mpr (by decide)

private theorem polls_succ (count : Nat) :
    polls (count + 1) = polls count ++
      [.registerTimer ⟨50⟩ (some "poll"), .unregister ((count : Int) + 1)] := by
  rw [polls, List.range_succ, List.flatMap_append, List.flatMap_singleton]
  rfl

private theorem polls_run (count : Nat) :
    ∃ log final, Run step initial (polls count) log final := by
  induction count with
  | zero => exact ⟨[], initial, .nil⟩
  | succ count ih =>
      obtain ⟨log, state, run⟩ := ih
      rw [polls_succ]
      exact ⟨_, _, run.append (.cons trivial rfl (.cons trivial rfl .nil))⟩

private theorem polls_acceptable (count : Nat) :
    (polls count).countP EventLoopAction.acceptable = count := by
  induction count with
  | zero => rfl
  | succ count ih =>
      rw [polls_succ, List.countP_append, ih]
      rfl

/-- After `2 ^ 31 - 1` polls `nextToken_++` has left the range of `int`. -/
theorem tokens_overflow_polls :
    (∃ log final, Run step initial (polls intMax) log final) ∧ ¬ TokensFresh (polls intMax) := by
  obtain ⟨log, final, run⟩ := polls_run intMax
  exact ⟨⟨log, final, run⟩, not_tokensFresh_of_le run (polls_acceptable intMax).ge⟩

end EventLoopState

end DlmsTransport.Transport
