import DlmsTransport.Transport.EventLoopInvariants

/-! What a whole `DispatchOnce` does, however its callbacks change the loop. -/

set_option autoImplicit false

namespace DlmsTransport.Transport

open DlmsTransport.Interaction DlmsTransport.Posix

variable {Callback : Type}

namespace EventLoopState

def IsDispatch (before : EventLoopState Callback) (actions : List (EventLoopAction Callback))
    (log : List (EventLoopEvent Callback)) (after : EventLoopState Callback) : Prop :=
  ∃ inner started observed rest,
    actions = .dispatchOnce :: inner ∧ log = observed ++ rest ∧
      before.step .dispatchOnce = some (started, observed) ∧
      RunWithin step (fun state => before.stack.length < state.stack.length) started inner rest
        after ∧
      after.stack.length = before.stack.length

/-- The events whose turn came in the dispatch at `depth`, delivered or not. -/
def turnsAt (depth : Nat) (log : List (EventLoopEvent Callback)) : List TransportEvent :=
  log.filterMap fun
    | .invoked level event _ | .skipped level event => if level = depth then some event else none
    | _ => none

/-- The events the dispatch at `depth` passed to a callback. -/
def invocationsAt (depth : Nat) (log : List (EventLoopEvent Callback)) : List TransportEvent :=
  log.filterMap fun
    | .invoked level event _ => if level = depth then some event else none
    | _ => none

/-- The dispatch at `depth` calls back for `token` or a later one. -/
def reaches (depth : Nat) (token : Int) : EventLoopEvent Callback → Bool
  | .invoked level event _ => level == depth && decide (token ≤ event.token)
  | _ => false

/-- What happened before the turn of `token` in the dispatch at `depth`. -/
def priorTo (depth : Nat) (token : Int) (log : List (EventLoopEvent Callback)) :
    List (EventLoopEvent Callback) :=
  log.takeWhile (!reaches depth token ·)

/-- The dispatch that starts in `before` calls the callback registered then,
and passes over a token only when it was unregistered meanwhile. -/
def FairTurn (before : EventLoopState Callback) (past : List (EventLoopEvent Callback)) :
    EventLoopEvent Callback → Prop
  | .invoked level event callback =>
      level = before.stack.length → .unregistered event.token ∉ past ∧
        ∃ registration, before.loop.registrations_[event.token]? = some registration ∧
          callback = registration.callback
  | .skipped level event => level = before.stack.length → .unregistered event.token ∈ past
  | _ => True

theorem IsDispatch.run {before after : EventLoopState Callback}
    {actions : List (EventLoopAction Callback)} {log : List (EventLoopEvent Callback)}
    (dispatch : IsDispatch before actions log after) : Run step before actions log after := by
  obtain ⟨inner, started, observed, rest, rfl, rfl, stepped, run, _⟩ := dispatch
  exact .cons trivial stepped run.run

theorem turnsAt_append (depth : Nat) (front back : List (EventLoopEvent Callback)) :
    turnsAt depth (front ++ back) = turnsAt depth front ++ turnsAt depth back :=
  List.filterMap_append

private theorem turnsAt_of_ofDispatch {depth level : Nat} (other : level ≠ depth)
    {observed : List (EventLoopEvent Callback)}
    (belong : ∀ event ∈ observed, OfDispatch level event) : turnsAt depth observed = [] := by
  rw [turnsAt, List.filterMap_eq_nil_iff]
  intro event member
  have belongs := belong event member
  cases event with
  | invoked at_ _ _ => exact if_neg fun same => other (belongs.symm.trans same)
  | skipped at_ _ => exact if_neg fun same => other (belongs.symm.trans same)
  | _ => rfl

private theorem fairTurn_of_ofDispatch {before : EventLoopState Callback} {level : Nat}
    (other : level ≠ before.stack.length) {past observed : List (EventLoopEvent Callback)}
    (belong : ∀ event ∈ observed, OfDispatch level event) :
    Justified (FairTurn before) past observed := by
  apply Justified.of_splits
  intro front event back same
  have belongs := belong event (by simp [same])
  cases event with
  | invoked at_ _ _ => exact fun same => absurd (belongs.symm.trans same) other
  | skipped at_ _ => exact fun same => absurd (belongs.symm.trans same) other
  | _ => trivial

section OwnTurns

variable {before next : EventLoopState Callback} {loop : ManualTransportEventLoop Callback}
  {events remaining : List TransportEvent} {log observed : List (EventLoopEvent Callback)}

private theorem turnsAt_skipped (depth : Nat) (missing : List TransportEvent) :
    turnsAt depth (missing.map (.skipped depth) : List (EventLoopEvent Callback)) = missing := by
  induction missing with
  | nil => rfl
  | cons event missing ih => simp_all [turnsAt]

private theorem AdvanceForm.turns
    (form : AdvanceForm loop before.stack events remaining next observed) :
    (∃ frame, next.stack = frame :: before.stack ∧ frame.events = events ∧
        turnsAt before.stack.length observed ++ frame.remaining = remaining) ∨
      (next.stack = before.stack ∧ turnsAt before.stack.length observed = remaining ∧
        observed.getLast? = some (.returned before.stack.length (dispatchStatus events))) := by
  cases form with
  | finished _ =>
      refine .inr ⟨rfl, ?_, by simp⟩
      rw [turnsAt_append, turnsAt_skipped]
      exact List.append_nil _
  | @called missing event registration remaining _ _ =>
      refine .inl ⟨_, rfl, rfl, ?_⟩
      rw [turnsAt_append, turnsAt_skipped]
      simp [turnsAt]

private theorem AdvanceForm.fairTurn
    (form : AdvanceForm loop before.stack events remaining next observed)
    (tracks : ∀ event ∈ remaining, Tracks log before ⟨loop, before.stack⟩ event.token)
    (stood : ∀ event ∈ remaining, before.loop.registrations_[event.token]? ≠ none) :
    Justified (FairTurn before) log observed := by
  apply Justified.of_splits
  intro front event back same
  have spared (token : Int) : .unregistered token ∉ front := fun member =>
    form.unregistered_not_mem token (by simp [same, member])
  cases event with
  | invoked level event callback =>
      intro _
      have member : EventLoopEvent.invoked level event callback ∈ observed := by simp [same]
      obtain ⟨listed, registration, found, rfl⟩ := form.invoked_mem member
      rcases tracks event listed with ⟨_, absent⟩ | ⟨kept, standing⟩
      · rw [absent] at found
        cases found
      · obtain ⟨earlier, there, equal⟩ := standing.source found
        exact ⟨by simp [kept, spared], earlier, there, congrArg (·.callback) equal.symm⟩
  | skipped level event =>
      intro _
      have member : EventLoopEvent.skipped level event ∈ observed := by simp [same]
      obtain ⟨listed, absent⟩ := form.skipped_mem member
      rcases tracks event listed with ⟨erased, _⟩ | ⟨_, standing⟩
      · exact List.mem_append_left front erased
      · rw [ManualTransportEventLoop.SameFixed, absent] at standing
        exact absurd (Option.map_eq_none_iff.mp standing.symm) (stood event listed)
  | _ => trivial

end OwnTurns

/-- Where a dispatch from `before` stands when `log` has happened in it. -/
structure Underway (before : EventLoopState Callback) (past log : List (EventLoopEvent Callback))
    (state : EventLoopState Callback) : Prop where
  sound : Sound (registrationsMade (past ++ log)) state
  tracks : ∀ token : Int, token ≤ registrationsMade past → Tracks log before state token
  turns :
    (∃ above frame, state.stack = above ++ frame :: before.stack ∧
        frame.events = before.loop.snapshot ∧
        turnsAt before.stack.length log ++ frame.remaining = before.loop.snapshot) ∨
      (state.stack = before.stack ∧
        turnsAt before.stack.length log = before.loop.snapshot ∧
        log.getLast? = some (.returned before.stack.length (dispatchStatus before.loop.snapshot)))

namespace Underway

variable {before state next : EventLoopState Callback}
  {past log observed : List (EventLoopEvent Callback)}

private theorem stood (event : TransportEvent) (member : event ∈ before.loop.snapshot) :
    before.loop.registrations_[event.token]? ≠ none := by
  obtain ⟨token, registration, found, _, rfl⟩ := ManualTransportEventLoop.mem_snapshot.mp member
  rw [show (registration.event token).token = token from rfl, found]
  exact Option.some_ne_none _

private theorem of_advance {loop : ManualTransportEventLoop Callback}
    {remaining : List TransportEvent}
    (sound : Sound (registrationsMade (past ++ (log ++ observed))) next)
    (tracks : ∀ token : Int, token ≤ registrationsMade past →
      Tracks (log ++ observed) before next token)
    (placed : turnsAt before.stack.length log ++ remaining = before.loop.snapshot)
    (form : AdvanceForm loop before.stack before.loop.snapshot remaining next observed) :
    Underway before past (log ++ observed) next := by
  refine ⟨sound, tracks, ?_⟩
  rw [turnsAt_append]
  rcases form.turns with ⟨frame, stack, events, turns⟩ | ⟨stack, turns, status⟩
  · exact .inl ⟨[], frame, stack, events, by rw [List.append_assoc, turns, placed]⟩
  · refine .inr ⟨stack, by rw [turns, placed], ?_⟩
    rw [List.getLast?_append, status]
    rfl

private theorem of_inside {above : List (DispatchFrame Callback)} {frame : DispatchFrame Callback}
    (sound : Sound (registrationsMade (past ++ (log ++ observed))) next)
    (tracks : ∀ token : Int, token ≤ registrationsMade past →
      Tracks (log ++ observed) before next token)
    (events : frame.events = before.loop.snapshot)
    (placed : turnsAt before.stack.length log ++ frame.remaining = before.loop.snapshot)
    (stack : next.stack = above ++ frame :: before.stack)
    (quiet : turnsAt before.stack.length observed = []) :
    Underway before past (log ++ observed) next := by
  refine ⟨sound, tracks, .inl ⟨above, frame, stack, events, ?_⟩⟩
  rw [turnsAt_append, quiet, List.append_nil, placed]

private theorem mem_snapshot_le (sound : Sound (registrationsMade past) before)
    {remaining : List TransportEvent} {turns : List TransportEvent}
    (placed : turns ++ remaining = before.loop.snapshot) {event : TransportEvent}
    (member : event ∈ remaining) :
    event ∈ before.loop.snapshot ∧ event.token ≤ registrationsMade past := by
  have listed : event ∈ before.loop.snapshot := placed ▸ List.mem_append_right turns member
  exact ⟨listed, sound.snapshot_le listed⟩

theorem start (sound : Sound (registrationsMade past) before)
    (fits : registrationsMade (past ++ observed) ≤ intMax)
    (stepped : before.step .dispatchOnce = some (next, observed)) :
    Underway before past observed next ∧ Justified (FairTurn before) [] observed := by
  rw [registrationsMade_append] at fits
  have later := sound.step fits stepped
  have tracks (token : Int) (old : token ≤ registrationsMade past) :=
    Tracks.step sound fits stepped old
  have form := dispatchOnce_form stepped
  have placed : turnsAt before.stack.length ([] : List (EventLoopEvent Callback)) ++
      before.loop.snapshot = before.loop.snapshot := rfl
  constructor
  · rw [← registrationsMade_append] at later
    exact of_advance later tracks placed form
  · exact form.fairTurn
      (fun event _ => .inr ⟨by simp, ManualTransportEventLoop.collected_sameFixed ..⟩) stood

theorem step (underway : Underway before past log state)
    (first : Sound (registrationsMade past) before)
    (within : before.stack.length < state.stack.length)
    (fits : registrationsMade (past ++ (log ++ observed)) ≤ intMax)
    {action : EventLoopAction Callback} (stepped : state.step action = some (next, observed)) :
    Underway before past (log ++ observed) next ∧ Justified (FairTurn before) log observed := by
  have more := fits
  rw [← List.append_assoc, registrationsMade_append] at more
  have sound : Sound (registrationsMade (past ++ (log ++ observed))) next := by
    rw [← List.append_assoc, registrationsMade_append]
    exact underway.sound.step more stepped
  have tracks (token : Int) (old : token ≤ registrationsMade past) :
      Tracks (log ++ observed) before next token := by
    refine (underway.tracks token old).trans (.step underway.sound more stepped ?_)
    rw [registrationsMade_append]
    omega
  rcases underway.turns with ⟨above, frame, stack, events, placed⟩ | ⟨stack, _⟩
  · cases step_form stepped with
    | refused _ _ => exact ⟨of_inside sound tracks events placed stack rfl, trivial, trivial⟩
    | added _ _ _ => exact ⟨of_inside sound tracks events placed stack rfl, trivial, trivial⟩
    | erased => exact ⟨of_inside sound tracks events placed stack rfl, trivial, trivial⟩
    | readied _ => exact ⟨of_inside sound tracks events placed stack rfl, trivial, trivial⟩
    | missed _ => exact ⟨of_inside sound tracks events placed stack rfl, trivial, trivial⟩
    | started form =>
        obtain ⟨newer, grown⟩ := form.stack_eq
        rw [stack, ← List.append_assoc] at grown
        have deeper := Nat.ne_of_gt within
        exact ⟨of_inside sound tracks events placed grown
          (turnsAt_of_ofDispatch deeper form.ofDispatch),
          fairTurn_of_ofDispatch deeper form.ofDispatch⟩
    | resumed shape form =>
        rw [stack] at shape
        cases above with
        | nil =>
            obtain ⟨rfl, rfl⟩ := List.cons.inj shape
            rw [events] at form
            have listed (event : TransportEvent) (member : event ∈ frame.remaining) :=
              mem_snapshot_le first placed member
            exact ⟨of_advance sound tracks placed form,
              form.fairTurn (fun event member => underway.tracks _ (listed event member).2)
                fun event member => stood event (listed event member).1⟩
        | cons inner above =>
            simp only [List.cons_append, List.cons.injEq] at shape
            obtain ⟨rfl, rfl⟩ := shape
            obtain ⟨newer, grown⟩ := form.stack_eq
            rw [← List.append_assoc] at grown
            have deeper : (above ++ frame :: before.stack).length ≠ before.stack.length := by
              simp only [List.length_append, List.length_cons]
              omega
            exact ⟨of_inside sound tracks events placed grown
              (turnsAt_of_ofDispatch deeper form.ofDispatch),
              fairTurn_of_ofDispatch deeper form.ofDispatch⟩
  · rw [stack] at within
    exact absurd within (Nat.lt_irrefl _)

theorem of_isDispatch {after : EventLoopState Callback} {actions : List (EventLoopAction Callback)}
    (first : Sound (registrationsMade past) before) (dispatch : IsDispatch before actions log after)
    (fits : registrationsMade (past ++ log) ≤ intMax) :
    Underway before past log after ∧ Justified (FairTurn before) [] log := by
  obtain ⟨inner, started, observed, rest, rfl, rfl, stepped, run, _⟩ := dispatch
  have begun := fits
  rw [← List.append_assoc] at begun
  obtain ⟨underway, opening⟩ := start first (registrationsMade_le_append _ _ begun) stepped
  obtain ⟨finished, later⟩ := run.invariant_justified (Underway before past)
    (fun log => registrationsMade (past ++ log) ≤ intMax) (FairTurn before)
    (fun front back fits => registrationsMade_le_append (past ++ front) back
      (by rwa [List.append_assoc]))
    (fun _ _ _ _ _ within stepped fits underway => underway.step first within fits stepped)
    fits underway
  exact ⟨finished, Justified.append_iff.mpr ⟨opening, later⟩⟩

end Underway

section Logs

variable {depth : Nat} {log : List (EventLoopEvent Callback)} {event : TransportEvent}

theorem mem_invocationsAt :
    event ∈ invocationsAt depth log ↔ ∃ callback, .invoked depth event callback ∈ log := by
  rw [invocationsAt, List.mem_filterMap]
  constructor
  · intro ⟨occurrence, member, same⟩
    cases occurrence with
    | invoked level other callback =>
        obtain ⟨rfl, equal⟩ := Option.ite_none_right_eq_some.mp same
        cases equal
        exact ⟨callback, member⟩
    | _ => cases same
  · intro ⟨callback, member⟩
    exact ⟨_, member, if_pos rfl⟩

private theorem mem_turnsAt :
    event ∈ turnsAt depth log ↔
      event ∈ invocationsAt depth log ∨ .skipped depth event ∈ log := by
  rw [mem_invocationsAt, turnsAt, List.mem_filterMap]
  constructor
  · intro ⟨occurrence, member, same⟩
    cases occurrence with
    | invoked level other callback =>
        obtain ⟨rfl, equal⟩ := Option.ite_none_right_eq_some.mp same
        cases equal
        exact .inl ⟨callback, member⟩
    | skipped level other =>
        obtain ⟨rfl, equal⟩ := Option.ite_none_right_eq_some.mp same
        cases equal
        exact .inr member
    | _ => cases same
  · intro either
    rcases either with ⟨callback, member⟩ | member
    · exact ⟨_, member, if_pos rfl⟩
    · exact ⟨_, member, if_pos rfl⟩

private theorem invocationsAt_sublist (depth : Nat) (log : List (EventLoopEvent Callback)) :
    (invocationsAt depth log).Sublist (turnsAt depth log) := by
  induction log with
  | nil => exact .slnil
  | cons occurrence log ih =>
      cases occurrence with
      | invoked level event callback =>
          by_cases same : level = depth
          · simpa [invocationsAt, turnsAt, same] using ih
          · simpa [invocationsAt, turnsAt, same] using ih
      | skipped level event =>
          by_cases same : level = depth
          · simpa [invocationsAt, turnsAt, same] using ih.cons event
          · simpa [invocationsAt, turnsAt, same] using ih
      | _ => simpa [invocationsAt, turnsAt] using ih

private theorem priorTo_of_invoked {front back : List (EventLoopEvent Callback)}
    {callback : Callback} {occurrence : EventLoopEvent Callback}
    (member : occurrence ∈
      priorTo depth event.token (front ++ .invoked depth event callback :: back)) :
    occurrence ∈ front := by
  have reached : reaches depth event.token (.invoked depth event callback) = true := by
    simp [reaches]
  rw [priorTo, List.takeWhile_append] at member
  split at member
  case isTrue => simpa [reached] using member
  case isFalse => exact (List.takeWhile_sublist _).mem member

private theorem priorTo_of_earlier {front back : List (EventLoopEvent Callback)} {token : Int}
    (earlier : ∀ event ∈ turnsAt depth front, event.token < token)
    {occurrence : EventLoopEvent Callback} (member : occurrence ∈ front) :
    occurrence ∈ priorTo depth token (front ++ back) := by
  rw [priorTo, List.takeWhile_append_of_pos]
  · exact List.mem_append_left _ member
  · intro other listed
    cases other with
    | invoked level event callback =>
        by_cases same : level = depth
        · subst same
          have called := mem_turnsAt.mpr (.inl (mem_invocationsAt.mpr ⟨callback, listed⟩))
          have before := earlier event called
          simp [reaches, before]
        · simp [reaches, same]
    | _ => rfl

end Logs

/-- What a `DispatchOnce` called in `before` owes, `log` being all that happens
until it returns. -/
structure DispatchLaw (before : EventLoopState Callback) (log : List (EventLoopEvent Callback))
    (after : EventLoopState Callback) : Prop where
  ascending :
    (invocationsAt before.stack.length log).Pairwise fun earlier later =>
      earlier.token < later.token
  invoked_iff : ∀ token : Int,
    token ∈ (invocationsAt before.stack.length log).map (·.token) ↔
      (∃ registration : Registration Callback,
        before.loop.registrations_[token]? = some registration ∧
          registration.readyEvents &&& registration.events ≠ TransportEventNone) ∧
        .unregistered token ∉ priorTo before.stack.length token log
  arguments : ∀ (event : TransportEvent) (callback : Callback),
    .invoked before.stack.length event callback ∈ log →
      ∃ registration, before.loop.registrations_[event.token]? = some registration ∧
        event.handle = registration.handle ∧
        event.events = registration.readyEvents &&& registration.events ∧
        event.events ≠ TransportEventNone ∧ callback = registration.callback
  newcomers : ∀ (token : Int) (timer : Bool), .registered .ok token timer ∈ log →
    token ∉ (invocationsAt before.stack.length log).map (·.token)
  status : log.getLast? = some (.returned before.stack.length
    (if (invocationsAt before.stack.length log).isEmpty then .wouldBlock else .ok))
  idle : invocationsAt before.stack.length log = [] → after = before

private theorem AdvanceForm.calls_first {next : EventLoopState Callback}
    {loop : ManualTransportEventLoop Callback} {below : List (DispatchFrame Callback)}
    {events remaining : List TransportEvent} {observed : List (EventLoopEvent Callback)}
    (form : AdvanceForm loop below events remaining next observed)
    (stand : ∀ event ∈ remaining, loop.registrations_[event.token]? ≠ none) :
    (remaining = [] ∧ next = ⟨loop, below⟩) ∨
      ∃ event callback, .invoked below.length event callback ∈ observed := by
  cases form with
  | finished absent =>
      cases remaining with
      | nil => exact .inl ⟨rfl, rfl⟩
      | cons event missing => exact absurd (absent event (by simp)) (stand event (by simp))
  | called _ _ => exact .inr ⟨_, _, List.mem_append_right _ (List.mem_singleton.mpr rfl)⟩

private theorem IsDispatch.calls {before after : EventLoopState Callback}
    {actions : List (EventLoopAction Callback)} {log : List (EventLoopEvent Callback)}
    (dispatch : IsDispatch before actions log after) :
    (before.loop.snapshot = [] ∧ after = before) ∨
      invocationsAt before.stack.length log ≠ [] := by
  obtain ⟨inner, started, observed, rest, rfl, rfl, stepped, run, _⟩ := dispatch
  have stand (event : TransportEvent) (member : event ∈ before.loop.snapshot) :
      before.loop.collected.registrations_[event.token]? ≠ none := by
    have stood := Underway.stood event member
    rw [ManualTransportEventLoop.collected_getElem?]
    simpa using stood
  rcases (dispatchOnce_form stepped).calls_first stand with ⟨idle, same⟩ | ⟨event, callback, member⟩
  · rw [ManualTransportEventLoop.collected_of_snapshot_nil idle] at same
    have ended : ¬ before.stack.length < started.stack.length := by simp [same]
    have outside := run.eq_of_not_inside
    obtain ⟨_, _, final⟩ := outside ended
    exact .inl ⟨idle, final.trans same⟩
  · exact .inr (List.ne_nil_of_mem (mem_invocationsAt.mpr
      ⟨callback, List.mem_append_left rest member⟩))

section Law

variable {before after : EventLoopState Callback} {actions : List (EventLoopAction Callback)}
  {past log : List (EventLoopEvent Callback)}

private theorem Underway.finished (underway : Underway before past log after)
    (returned : after.stack.length = before.stack.length) :
    turnsAt before.stack.length log = before.loop.snapshot ∧
      log.getLast? =
        some (.returned before.stack.length (dispatchStatus before.loop.snapshot)) := by
  rcases underway.turns with ⟨above, frame, stack, _⟩ | ⟨_, turns, status⟩
  · rw [stack, List.length_append, List.length_cons] at returned
    omega
  · exact ⟨turns, status⟩

private theorem called_spared (fair : Justified (FairTurn before) [] log)
    {event : TransportEvent} (called : event ∈ invocationsAt before.stack.length log) :
    .unregistered event.token ∉ priorTo before.stack.length event.token log := by
  obtain ⟨callback, member⟩ := mem_invocationsAt.mp called
  obtain ⟨front, back, rfl⟩ := List.append_of_mem member
  intro erased
  exact (fair.at_split rfl).1 (priorTo_of_invoked erased)

private theorem skipped_erased (fair : Justified (FairTurn before) [] log)
    (turns : turnsAt before.stack.length log = before.loop.snapshot) {event : TransportEvent}
    (skipped : .skipped before.stack.length event ∈ log) :
    .unregistered event.token ∈ priorTo before.stack.length event.token log := by
  obtain ⟨front, back, rfl⟩ := List.append_of_mem skipped
  have erased : .unregistered event.token ∈ front := fair.at_split rfl
  refine priorTo_of_earlier (fun earlier listed => ?_) erased
  have order := before.loop.snapshot_ascending
  rw [← turns, turnsAt_append, List.pairwise_append] at order
  exact order.2.2 earlier listed event (mem_turnsAt.mpr (.inr (.head _)))

private theorem newcomer_unready (sound : Sound (registrationsMade past) before)
    (dispatch : IsDispatch before actions log after)
    (fits : registrationsMade (past ++ log) ≤ intMax) {token : Int} {timer : Bool}
    (added : .registered .ok token timer ∈ log) {event : TransportEvent}
    (listed : event ∈ before.loop.snapshot) : event.token ≠ token := by
  obtain ⟨front, back, rfl⟩ := List.append_of_mem added
  have numbered : token = registrationsMade (past ++ front) + 1 :=
    (sound.numbered dispatch.run fits).at_split
  have old := sound.snapshot_le listed
  rw [registrationsMade_append] at numbered
  omega

private theorem dispatchStatus_of_ne_nil {events : List TransportEvent} (some : events ≠ []) :
    dispatchStatus events = .ok := by
  cases events with
  | nil => exact absurd rfl some
  | cons _ _ => rfl

/-- The law, for a dispatch at any depth and callbacks that do anything. -/
theorem dispatch_law (sound : Sound (registrationsMade past) before)
    (dispatch : IsDispatch before actions log after)
    (fits : registrationsMade (past ++ log) ≤ intMax) : DispatchLaw before log after := by
  obtain ⟨underway, fair⟩ := Underway.of_isDispatch sound dispatch fits
  have returned : after.stack.length = before.stack.length := by
    obtain ⟨_, _, _, _, _, _, _, _, same⟩ := dispatch
    exact same
  obtain ⟨turns, last⟩ := underway.finished returned
  have sublist := invocationsAt_sublist before.stack.length log
  rw [turns] at sublist
  refine ⟨before.loop.snapshot_ascending.sublist sublist, ?_, ?_, ?_, ?_, ?_⟩
  case refine_1 =>
      intro token
      rw [List.mem_map]
      constructor
      · intro ⟨event, called, equal⟩
        subst equal
        obtain ⟨token, registration, found, ready, rfl⟩ :=
          ManualTransportEventLoop.mem_snapshot.mp (sublist.mem called)
        exact ⟨⟨registration, found, ready⟩, called_spared fair called⟩
      · intro ⟨⟨registration, found, ready⟩, spared⟩
        have listed : registration.event token ∈ turnsAt before.stack.length log := by
          rw [turns]
          exact ManualTransportEventLoop.mem_snapshot.mpr ⟨token, registration, found, ready, rfl⟩
        rcases mem_turnsAt.mp listed with called | skipped
        · exact ⟨_, called, rfl⟩
        · exact absurd (skipped_erased fair turns skipped) spared
  case refine_2 =>
      intro event callback member
      obtain ⟨token, registration, found, ready, rfl⟩ := ManualTransportEventLoop.mem_snapshot.mp
        (sublist.mem (mem_invocationsAt.mpr ⟨callback, member⟩))
      obtain ⟨front, back, rfl⟩ := List.append_of_mem member
      obtain ⟨_, other, there, same⟩ := fair.at_split rfl
      cases found.symm.trans there
      exact ⟨registration, found, rfl, rfl, ready, same⟩
  case refine_3 =>
      intro token timer added member
      obtain ⟨event, called, equal⟩ := List.mem_map.mp member
      exact newcomer_unready sound dispatch fits added (sublist.mem called) equal
  case refine_4 =>
      rw [last]
      rcases dispatch.calls with ⟨idle, _⟩ | called
      · rw [idle] at sublist ⊢
        rw [List.sublist_nil.mp sublist]
        rfl
      · have some : before.loop.snapshot ≠ [] := fun idle =>
          called (List.sublist_nil.mp (idle ▸ sublist))
        rw [dispatchStatus_of_ne_nil some, if_neg (by simpa using called)]
  case refine_5 =>
      intro idle
      rcases dispatch.calls with ⟨_, same⟩ | called
      · exact same
      · exact absurd idle called

end Law

def Retired (token : Int) (log : List (EventLoopEvent Callback)) : Prop :=
  ∃ front back timer, log = front ++ .unregistered token :: back ∧
    .registered .ok token timer ∈ front

/-- No retired token is called back. -/
def SparesRetired (past : List (EventLoopEvent Callback)) : EventLoopEvent Callback → Prop
  | .invoked _ event _ => ¬ Retired event.token past
  | _ => True

section Retirement

variable {past observed : List (EventLoopEvent Callback)} {state next : EventLoopState Callback}
  {token : Int}

private theorem Retired.of_append (retired : Retired token (past ++ observed)) :
    Retired token past ∨ .unregistered token ∈ observed := by
  obtain ⟨front, back, timer, same, issued⟩ := retired
  rcases List.append_eq_append_iff.mp same with ⟨middle, rfl, rfl⟩ | ⟨middle, rfl, rest⟩
  · exact .inr (by simp)
  · cases middle with
    | nil =>
        obtain rfl : observed = .unregistered token :: back := rest.symm
        exact .inr (.head _)
    | cons occurrence middle =>
        cases rest
        exact .inl ⟨front, middle, timer, rfl, issued⟩

private theorem unregistered_absent {action : EventLoopAction Callback}
    (stepped : state.step action = some (next, observed))
    (erased : .unregistered token ∈ observed) : next.loop.registrations_[token]? = none := by
  cases step_form stepped with
  | @erased key =>
      cases List.mem_singleton.mp erased
      rw [ManualTransportEventLoop.unregister_getElem?, if_pos rfl]
  | started form => exact absurd erased (form.unregistered_not_mem token)
  | resumed _ form => exact absurd erased (form.unregistered_not_mem token)
  | _ => simp at erased

/-- The tokens of the log are issued, and the retired ones not registered. -/
structure RetiredAbsent (past : List (EventLoopEvent Callback))
    (state : EventLoopState Callback) : Prop where
  sound : Sound (registrationsMade past) state
  issued : ∀ (token : Int) (timer : Bool), .registered .ok token timer ∈ past →
    token ≤ registrationsMade past
  absent : ∀ token : Int, Retired token past → state.loop.registrations_[token]? = none

private theorem AdvanceForm.sparesRetired {loop : ManualTransportEventLoop Callback}
    {below : List (DispatchFrame Callback)} {events remaining : List TransportEvent}
    (form : AdvanceForm loop below events remaining next observed)
    (absent : ∀ token : Int, Retired token past → loop.registrations_[token]? = none) :
    Justified SparesRetired past observed := by
  apply Justified.of_splits
  intro front event back same
  cases event with
  | invoked level event callback =>
      intro retired
      have member : EventLoopEvent.invoked level event callback ∈ observed := by simp [same]
      obtain ⟨_, registration, found, _⟩ := form.invoked_mem member
      rcases retired.of_append with before | erased
      · rw [absent _ before] at found
        cases found
      · exact form.unregistered_not_mem event.token (by simp [same, erased])
  | _ => trivial

private theorem RetiredAbsent.step (kept : RetiredAbsent past state)
    {action : EventLoopAction Callback} (stepped : state.step action = some (next, observed))
    (fits : registrationsMade (past ++ observed) ≤ intMax) :
    RetiredAbsent (past ++ observed) next ∧ Justified SparesRetired past observed := by
  rw [registrationsMade_append] at fits
  constructor
  · refine ⟨?_, ?_, ?_⟩
    · rw [registrationsMade_append]
      exact kept.sound.step fits stepped
    · intro token timer member
      rw [registrationsMade_append]
      rcases List.mem_append.mp member with old | new
      · have bound := kept.issued token timer old
        omega
      · have run : Run EventLoopState.step state [action] observed next := .single trivial stepped
        have numbered := kept.sound.numbered run (by rwa [registrationsMade_append])
        obtain ⟨front, back, rfl⟩ := List.append_of_mem new
        have number : token = registrationsMade (past ++ front) + 1 := numbered.at_split
        rw [registrationsMade_append] at number ⊢
        rw [registrationsMade_registered]
        omega
    · intro token retired
      rcases retired.of_append with before | erased
      · obtain ⟨front, back, timer, rfl, issued⟩ := before
        have old := kept.issued token timer (List.mem_append_left _ issued)
        have absent := kept.absent token ⟨front, back, timer, rfl, issued⟩
        rcases Tracks.step kept.sound fits stepped old with ⟨_, gone⟩ | ⟨_, same⟩
        · exact gone
        · rw [ManualTransportEventLoop.SameFixed, absent] at same
          exact Option.map_eq_none_iff.mp same
      · exact unregistered_absent stepped erased
  · cases step_form stepped with
    | refused _ _ => exact ⟨trivial, trivial⟩
    | added _ _ _ => exact ⟨trivial, trivial⟩
    | erased => exact ⟨trivial, trivial⟩
    | readied _ => exact ⟨trivial, trivial⟩
    | missed _ => exact ⟨trivial, trivial⟩
    | started form =>
        apply form.sparesRetired
        intro token retired
        rw [ManualTransportEventLoop.collected_getElem?, kept.absent token retired]
        rfl
    | resumed _ form => exact form.sparesRetired kept.absent

end Retirement

private theorem run_sparesRetired {actions : List (EventLoopAction Callback)}
    {log : List (EventLoopEvent Callback)} {final : EventLoopState Callback}
    (run : Run step initial actions log final) (fits : registrationsMade log ≤ intMax) :
    Justified SparesRetired [] log := by
  have start : RetiredAbsent [] (initial : EventLoopState Callback) := by
    refine ⟨.initial, by simp, ?_⟩
    intro token ⟨front, back, timer, same, _⟩
    cases front <;> cases same
  have bounded : registrationsMade ([] ++ log) ≤ intMax := fits
  exact (run.invariant_justified RetiredAbsent (registrationsMade · ≤ intMax) SparesRetired
    registrationsMade_le_append (fun _ _ _ _ _ _ stepped fits kept => kept.step stepped fits)
    bounded start).2

private theorem invoked_of_flat {depth : Nat} {started after : EventLoopState Callback}
    {inner : List (EventLoopAction Callback)} {rest : List (EventLoopEvent Callback)}
    (run : RunWithin step (fun state => depth < state.stack.length) started inner rest after)
    (flat : .dispatchOnce ∉ inner) (shallow : started.stack.length ≤ depth + 1) {level : Nat}
    {event : TransportEvent} {callback : Callback}
    (called : .invoked level event callback ∈ rest) : level = depth := by
  induction run with
  | nil => cases called
  | @cons before action middle observed actions log final within stepped _ ih =>
      have later : .dispatchOnce ∉ actions := fun member => flat (.tail _ member)
      rcases List.mem_append.mp called with now | afterwards
      · cases step_form stepped with
        | started _ => exact absurd (.head _) flat
        | @resumed frame below _ _ stack form =>
            rw [stack, List.length_cons] at within shallow
            have belongs : below.length = depth := by omega
            exact (form.ofDispatch _ now).trans belongs
        | _ => simp at now
      · refine ih later ?_ afterwards
        cases step_form stepped with
        | started _ => exact absurd (.head _) flat
        | resumed stack form =>
            rw [stack, List.length_cons] at shallow
            have deeper := form.stack_length_le
            omega
        | _ => exact shallow

private theorem IsDispatch.invoked_of_flat {before after : EventLoopState Callback}
    {actions : List (EventLoopAction Callback)} {log : List (EventLoopEvent Callback)}
    (dispatch : IsDispatch before actions log after) (flat : .dispatchOnce ∉ actions.tail)
    {level : Nat} {event : TransportEvent} {callback : Callback}
    (called : .invoked level event callback ∈ log) : level = before.stack.length := by
  obtain ⟨inner, started, observed, rest, rfl, rfl, stepped, run, _⟩ := dispatch
  have form := dispatchOnce_form stepped
  rcases List.mem_append.mp called with now | afterwards
  · exact form.ofDispatch _ now
  · exact EventLoopState.invoked_of_flat run flat form.stack_length_le afterwards

def Operation : EventLoopAction Callback → Prop
  | .dispatchOnce | .callbackReturns => False
  | _ => True

/-- The callbacks of a dispatch perform the scripts, one each, and return. -/
def performing (scripts : Nat → List (EventLoopAction Callback)) :
    Nat → List (EventLoopAction Callback)
  | 0 => []
  | calls + 1 =>
      scripts 0 ++ .callbackReturns :: performing (fun call => scripts (call + 1)) calls

section Returning

variable {below : List (DispatchFrame Callback)}

private theorem operations_run {operations : List (EventLoopAction Callback)}
    (plain : ∀ action ∈ operations, Operation action) {state : EventLoopState Callback}
    (within : below.length < state.stack.length) :
    ∃ log next, next.stack = state.stack ∧
      RunWithin step (fun state => below.length < state.stack.length) state operations log
        next := by
  induction operations generalizing state with
  | nil => exact ⟨[], state, rfl, .nil⟩
  | cons action operations ih =>
      rw [List.forall_mem_cons] at plain
      have taken : ∃ next observed, state.step action = some (next, observed) ∧
          next.stack = state.stack := by
        cases action with
        | dispatchOnce => exact plain.1.elim
        | callbackReturns => exact plain.1.elim
        | _ => exact ⟨_, _, rfl, rfl⟩
      obtain ⟨next, observed, stepped, same⟩ := taken
      obtain ⟨log, final, stack, run⟩ := ih plain.2 (same ▸ within)
      exact ⟨observed ++ log, final, stack.trans same, .cons within stepped run⟩

private theorem AdvanceForm.shortens {next : EventLoopState Callback}
    {loop : ManualTransportEventLoop Callback} {events remaining : List TransportEvent}
    {observed : List (EventLoopEvent Callback)}
    (form : AdvanceForm loop below events remaining next observed) :
    next.stack = below ∨
      ∃ frame, next.stack = frame :: below ∧ frame.remaining.length < remaining.length := by
  cases form with
  | finished _ => exact .inl rfl
  | called _ _ =>
      refine .inr ⟨_, rfl, ?_⟩
      simp only [List.length_append, List.length_cons]
      omega

private theorem returns_from (scripts : Nat → List (EventLoopAction Callback))
    (plain : ∀ call, ∀ action ∈ scripts call, Operation action) {left : Nat}
    {state : EventLoopState Callback} {frame : DispatchFrame Callback}
    (stack : state.stack = frame :: below) (few : frame.remaining.length < left) :
    ∃ calls log after, after.stack = below ∧
      RunWithin step (fun state => below.length < state.stack.length) state
        (performing scripts calls) log after := by
  induction left generalizing scripts state frame with
  | zero => cases few
  | succ left ih =>
      have deeper : below.length < (frame :: below).length := Nat.lt_succ_self _
      obtain ⟨log, ready, same, acting⟩ := operations_run (plain 0) (stack ▸ deeper)
      rw [stack] at same
      have returning : ready.step .callbackReturns =
          some (advance ready.loop below frame.events frame.remaining) := by
        simp only [step, same]
      have within : below.length < ready.stack.length := same ▸ deeper
      rcases (advance_form ready.loop below frame.events frame.remaining).shortens with
        done | ⟨inner, shape, shorter⟩
      · exact ⟨1, _, _, done, acting.append (.cons within returning .nil)⟩
      · obtain ⟨calls, rest, after, ended, run⟩ := ih (fun call => scripts (call + 1))
          (fun call => plain (call + 1)) shape (by omega)
        exact ⟨calls + 1, _, after, ended, acting.append (.cons within returning run)⟩

/-- A dispatch whose callbacks perform operations and return does return. -/
theorem dispatchOnce_returns (before : EventLoopState Callback)
    (scripts : Nat → List (EventLoopAction Callback))
    (plain : ∀ call, ∀ action ∈ scripts call, Operation action) :
    ∃ calls log after,
      IsDispatch before (.dispatchOnce :: performing scripts calls) log after := by
  rcases (advance_form before.loop.collected before.stack before.loop.snapshot
      before.loop.snapshot).shortens with done | ⟨frame, shape, _⟩
  · exact ⟨0, _, _, [], _, _, [], rfl, rfl, rfl, .nil, congrArg List.length done⟩
  · obtain ⟨calls, log, after, ended, run⟩ := returns_from scripts plain shape (Nat.lt_succ_self _)
    exact ⟨calls, _, after, _, _, _, log, rfl, rfl, rfl, run, congrArg List.length ended⟩

end Returning

/-- In any run: a dispatch returns when its callbacks do, it keeps the law, and
no token is called back once it is unregistered. -/
theorem dispatchOnce_lawful {prior actions later : List (EventLoopAction Callback)}
    {past log future : List (EventLoopEvent Callback)}
    {before after final : EventLoopState Callback}
    (reached : Run step initial prior past before) (dispatch : IsDispatch before actions log after)
    (continued : Run step after later future final)
    (fits : registrationsMade (past ++ log ++ future) ≤ intMax) :
    (∀ scripts : Nat → List (EventLoopAction Callback),
      (∀ call, ∀ action ∈ scripts call, Operation action) →
      ∃ calls log after,
        IsDispatch before (.dispatchOnce :: performing scripts calls) log after) ∧
    DispatchLaw before log after ∧
    (.dispatchOnce ∉ actions.tail → ∀ level event callback,
      .invoked level event callback ∈ log → level = before.stack.length) ∧
    ∀ front token back timer, past ++ log ++ future = front ++ .unregistered token :: back →
      .registered .ok token timer ∈ front →
      ∀ level event callback, .invoked level event callback ∈ back → event.token ≠ token := by
  have soFar := registrationsMade_le_append _ _ fits
  have sound := Sound.of_run reached (registrationsMade_le_append _ _ soFar)
  refine ⟨dispatchOnce_returns before, dispatch_law sound dispatch soFar,
    fun flat level event callback => dispatch.invoked_of_flat flat, ?_⟩
  intro front token back timer same issued level event callback member equal
  have spares := run_sparesRetired ((reached.append dispatch.run).append continued) fits
  obtain ⟨first, second, rfl⟩ := List.append_of_mem member
  have log_eq : front ++ .unregistered token :: (first ++ .invoked level event callback :: second) =
      (front ++ .unregistered token :: first) ++ .invoked level event callback :: second := by simp
  rw [same, log_eq] at spares
  exact spares.at_split ⟨front, first, timer, by rw [equal, List.nil_append], equal ▸ issued⟩

section Meter

def meterSetup : List (EventLoopAction String) :=
  [.register 7 TransportEventReadable (some "first"),
    .register 8 TransportEventReadable (some "second"),
    .registerTimer ⟨50⟩ (some "poll"), .setReady 1 TransportEventReadable,
    .setReady 2 TransportEventReadable]

def meterDispatch : List (EventLoopAction String) :=
  [.dispatchOnce, .unregister 2, .register 9 TransportEventReadable (some "third"),
    .callbackReturns, .callbackReturns]

def meterBefore : EventLoopState String × List (EventLoopEvent String) :=
  (execute step (fun _ => True) initial meterSetup).getD (initial, [])

def meterAfter : EventLoopState String × List (EventLoopEvent String) :=
  (execute step (fun _ => True) meterBefore.1 meterDispatch).getD (initial, [])

def meterFinal : EventLoopState String × List (EventLoopEvent String) :=
  (execute step (fun _ => True) meterAfter.1 [.setReady 2 TransportEventReadable, .dispatchOnce,
    .callbackReturns]).getD (initial, [])

theorem meterSetup_run : Run step initial meterSetup meterBefore.2 meterBefore.1 :=
  RunWithin.iff_execute.mpr rfl

theorem meterDispatch_isDispatch :
    IsDispatch meterBefore.1 meterDispatch meterAfter.2 meterAfter.1 :=
  ⟨meterDispatch.tail, (advance meterBefore.1.loop.collected [] meterBefore.1.loop.snapshot
    meterBefore.1.loop.snapshot).1, [.invoked 0 ⟨1, 7, 1⟩ "first"], meterAfter.2.tail, rfl, rfl,
    rfl, RunWithin.iff_execute.mpr rfl, rfl⟩

theorem dispatchOnce_lawful_meter :
    DispatchLaw meterBefore.1 meterAfter.2 meterAfter.1 ∧
      ∀ level event callback, .invoked level event callback ∈ meterFinal.2 → event.token ≠ 2 := by
  have lawful := dispatchOnce_lawful meterSetup_run meterDispatch_isDispatch
    (RunWithin.iff_execute.mpr (rfl : execute step (fun _ => True) meterAfter.1
      [.setReady 2 TransportEventReadable, .dispatchOnce, .callbackReturns] =
        some (meterFinal.1, meterFinal.2))) (by decide)
  refine ⟨lawful.2.1, fun level event callback member => ?_⟩
  exact lawful.2.2.2 (meterBefore.2 ++ [.invoked 0 ⟨1, 7, 1⟩ "first"]) 2
    ([.registered .ok 4 false, .skipped 0 ⟨2, 8, 1⟩, .invoked 0 ⟨3, 0, 4⟩ "poll",
      .returned 0 .ok] ++ meterFinal.2) false rfl (List.mem_append_left _ (.tail _ (.head _)))
    level event callback (List.mem_append_right _ member)

end Meter

end EventLoopState

end DlmsTransport.Transport
