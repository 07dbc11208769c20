import DlmsTransport.Transport.EventLoopDispatch

/-! Timers fire once per arming: armings, events waiting in a running dispatch
and calls are counted against each other. -/

set_option autoImplicit false

namespace DlmsTransport.Transport

open DlmsTransport.Interaction DlmsTransport.Posix

variable {Callback : Type}

namespace EventLoopState

def invocations (token : Int) (log : List (EventLoopEvent Callback)) : Nat :=
  log.countP fun
    | .invoked _ event _ => event.token == token
    | _ => false

/-- The `SetReady` calls for `token` that returned `Ok` with the timer bit. -/
def rearmings (token : Int) (log : List (EventLoopEvent Callback)) : Nat :=
  log.countP fun
    | .readied .ok key events =>
        key == token && events &&& TransportEventTimer != TransportEventNone
    | _ => false

def occurrences (token : Int) (events : List TransportEvent) : Nat :=
  (events.map (·.token)).count token

/-- The events for `token` that running dispatches have yet to come to. -/
def pending (token : Int) (stack : List (DispatchFrame Callback)) : Nat :=
  occurrences token (stack.flatMap (·.remaining))

/-- Whether the next dispatch to start collects an event for `token`. -/
def armings (token : Int) (loop : ManualTransportEventLoop Callback) : Nat :=
  match loop.registrations_[token]? with
  | some registration => if registration.ready = TransportEventNone then 0 else 1
  | none => 0

def load (token : Int) (state : EventLoopState Callback) : Nat :=
  pending token state.stack + armings token state.loop

def IsTimer (token : Int) (loop : ManualTransportEventLoop Callback) : Prop :=
  ∀ registration, loop.registrations_[token]? = some registration → registration.timer = true

theorem invocations_append (token : Int) (front back : List (EventLoopEvent Callback)) :
    invocations token (front ++ back) = invocations token front + invocations token back :=
  List.countP_append

theorem rearmings_append (token : Int) (front back : List (EventLoopEvent Callback)) :
    rearmings token (front ++ back) = rearmings token front + rearmings token back :=
  List.countP_append

theorem occurrences_append (token : Int) (front back : List TransportEvent) :
    occurrences token (front ++ back) = occurrences token front + occurrences token back := by
  rw [occurrences, List.map_append, List.count_append]
  rfl

theorem occurrences_cons (token : Int) (event : TransportEvent) (events : List TransportEvent) :
    occurrences token (event :: events) =
      occurrences token events + if event.token = token then 1 else 0 := by
  simp [occurrences, List.count_cons]

theorem invocations_invoked (token : Int) (depth : Nat) (event : TransportEvent)
    (callback : Callback) :
    invocations token [.invoked depth event callback] = if event.token = token then 1 else 0 := by
  simp [invocations, List.countP_cons]

theorem pending_cons (token : Int) (frame : DispatchFrame Callback)
    (below : List (DispatchFrame Callback)) :
    pending token (frame :: below) = occurrences token frame.remaining + pending token below := by
  rw [pending, List.flatMap_cons, occurrences_append]
  rfl

theorem armings_le_one (token : Int) (loop : ManualTransportEventLoop Callback) :
    armings token loop ≤ 1 := by
  unfold armings
  split
  · split <;> omega
  · omega

theorem armings_of_ready {token : Int} {loop : ManualTransportEventLoop Callback}
    {registration : Registration Callback}
    (found : loop.registrations_[token]? = some registration)
    (ready : registration.ready ≠ TransportEventNone) : armings token loop = 1 := by
  simp only [armings, found, if_neg ready]

theorem armings_congr {token : Int} {before after : ManualTransportEventLoop Callback}
    (same : after.registrations_[token]? = before.registrations_[token]?) :
    armings token after = armings token before := by
  rw [armings, armings, same]

section Advance

variable {loop : ManualTransportEventLoop Callback} {below : List (DispatchFrame Callback)}
  {events remaining : List TransportEvent} {next : EventLoopState Callback}
  {observed : List (EventLoopEvent Callback)}

private theorem AdvanceForm.pending_le
    (form : AdvanceForm loop below events remaining next observed) (token : Int) :
    invocations token observed + pending token next.stack ≤
      occurrences token remaining + pending token below := by
  have passed (missing : List TransportEvent) : invocations token
      (missing.map (.skipped below.length) : List (EventLoopEvent Callback)) = 0 := by
    simp [invocations, List.countP_eq_zero]
  cases form with
  | finished _ =>
      rw [invocations_append, passed]
      simp [invocations]
  | @called missing event registration remaining _ _ =>
      rw [invocations_append, passed, invocations_invoked, pending_cons, occurrences_append,
        occurrences_cons]
      dsimp only
      omega

end Advance

section Load

variable {made : Nat} {state next : EventLoopState Callback} {token : Int}
  {observed : List (EventLoopEvent Callback)}

private theorem snapshot_tokens_nodup (loop : ManualTransportEventLoop Callback) :
    (loop.snapshot.map (·.token)).Nodup :=
  List.pairwise_map.mpr (loop.snapshot_ascending.imp fun before => Int.ne_of_lt before)

theorem occurrences_snapshot (token : Int) (loop : ManualTransportEventLoop Callback) :
    occurrences token loop.snapshot = armings token loop := by
  have listed : token ∈ loop.snapshot.map (·.token) ↔ ∃ registration : Registration Callback,
      loop.registrations_[token]? = some registration ∧
        registration.ready ≠ TransportEventNone := by
    rw [List.mem_map]
    constructor
    · intro ⟨event, member, same⟩
      obtain ⟨key, registration, found, ready, rfl⟩ :=
        ManualTransportEventLoop.mem_snapshot.mp member
      obtain rfl : key = token := same
      exact ⟨registration, found, ready⟩
    · intro ⟨registration, found, ready⟩
      exact ⟨registration.event token,
        ManualTransportEventLoop.mem_snapshot.mpr ⟨token, registration, found, ready, rfl⟩, rfl⟩
  rw [occurrences]
  by_cases member : token ∈ loop.snapshot.map (·.token)
  · obtain ⟨registration, found, ready⟩ := listed.mp member
    rw [(snapshot_tokens_nodup loop).count, if_pos member, armings_of_ready found ready]
  · rw [List.count_eq_zero_of_not_mem member]
    rw [listed] at member
    unfold armings
    split
    case h_1 registration found =>
        rw [if_pos (by_contra fun ready => member ⟨registration, found, ready⟩)]
    case h_2 => rfl

private theorem armings_collected (timer : IsTimer token state.loop) :
    armings token state.loop.collected = 0 := by
  unfold armings
  rw [ManualTransportEventLoop.collected_getElem?]
  cases found : state.loop.registrations_[token]? with
  | none => rfl
  | some registration =>
      exact if_pos (Registration.ready_afterCollect (timer registration found))

private theorem load_of_quiet {loop : ManualTransportEventLoop Callback}
    (quiet : invocations token observed = 0)
    (armed : armings token loop ≤ armings token state.loop + rearmings token observed) :
    invocations token observed + load token ⟨loop, state.stack⟩ ≤
      load token state + rearmings token observed := by
  rw [quiet, load, load]
  dsimp only
  omega

private theorem armings_setReady (sound : Sound made state) (timer : IsTimer token state.loop)
    {registration : Registration Callback}
    (found : state.loop.registrations_[token]? = some registration) (events : EventMask) :
    armings token (state.loop.setReady token events).2 =
      rearmings token ([.readied .ok token events] : List (EventLoopEvent Callback)) := by
  have bits := sound.timers token registration found (timer registration found)
  unfold armings
  rw [ManualTransportEventLoop.setReady_getElem?, if_pos rfl, found, Option.map_some]
  change (if events &&& registration.events = TransportEventNone then 0 else 1) = _
  rw [bits]
  by_cases bit : events &&& TransportEventTimer = TransportEventNone
  · simp [rearmings, bit]
  · simp [rearmings, bit]

/-- One step spends the load, but for what `SetReady` adds. -/
theorem load_step (sound : Sound made state) (fits : made + registrationsMade observed ≤ intMax)
    (old : token ≤ made) (timer : IsTimer token state.loop) {action : EventLoopAction Callback}
    (stepped : state.step action = some (next, observed)) :
    invocations token observed + load token next ≤ load token state + rearmings token observed := by
  cases step_form stepped with
  | refused _ _ => exact load_of_quiet rfl (Nat.le_add_right _ _)
  | @added _ registration _ _ _ =>
      have fresh : ¬ state.loop.nextToken_ = token := by
        rw [sound.nextToken_eq fits]
        omega
      have same : armings token (state.loop.insert registration) = armings token state.loop :=
        armings_congr ((Registrations.insert_getElem? ..).trans (if_neg fresh))
      exact load_of_quiet rfl (same ▸ Nat.le_add_right _ _)
  | @erased key =>
      apply load_of_quiet rfl
      by_cases same : key = token
      · have absent : armings token (state.loop.unregister key).2 = 0 := by
          rw [armings, ManualTransportEventLoop.unregister_getElem?, if_pos same]
        omega
      · have kept : armings token (state.loop.unregister key).2 = armings token state.loop :=
          armings_congr ((ManualTransportEventLoop.unregister_getElem? ..).trans (if_neg same))
        omega
  | @readied key events registration found =>
      apply load_of_quiet rfl
      by_cases same : key = token
      · subst same
        rw [armings_setReady sound timer found]
        exact Nat.le_add_left _ _
      · have kept : armings token (state.loop.setReady key events).2 = armings token state.loop :=
          armings_congr ((ManualTransportEventLoop.setReady_getElem? ..).trans (if_neg same))
        omega
  | missed _ => exact load_of_quiet rfl (Nat.le_add_right _ _)
  | started form =>
      have spent := form.pending_le token
      rw [occurrences_snapshot] at spent
      rw [load, load, form.loop_eq, armings_collected timer]
      omega
  | resumed stack form =>
      have spent := form.pending_le token
      rw [load, load, form.loop_eq, stack, pending_cons]
      omega

end Load

section Runs

variable {past log : List (EventLoopEvent Callback)} {actions : List (EventLoopAction Callback)}
  {start state final : EventLoopState Callback} {token : Int}

/-- `token` is an issued timer token, and the calls since `start` were paid for
by what it held then or by a later `SetReady`. -/
structure Charged (token : Int) (start : EventLoopState Callback)
    (past log : List (EventLoopEvent Callback)) (state : EventLoopState Callback) : Prop where
  sound : Sound (registrationsMade (past ++ log)) state
  timer : IsTimer token state.loop
  paid : invocations token log + load token state ≤ load token start + rearmings token log

private theorem Charged.step {next : EventLoopState Callback}
    {observed : List (EventLoopEvent Callback)} (charged : Charged token start past log state)
    (old : token ≤ registrationsMade past) {action : EventLoopAction Callback}
    (stepped : state.step action = some (next, observed))
    (fits : registrationsMade (past ++ (log ++ observed)) ≤ intMax) :
    Charged token start past (log ++ observed) next := by
  rw [← List.append_assoc, registrationsMade_append] at fits
  have issued : token ≤ registrationsMade (past ++ log) := by
    rw [registrationsMade_append]
    omega
  refine ⟨?_, ?_, ?_⟩
  · rw [← List.append_assoc, registrationsMade_append]
    exact charged.sound.step fits stepped
  · intro registration found
    rcases Tracks.step charged.sound fits stepped issued with ⟨_, absent⟩ | ⟨_, same⟩
    · rw [absent] at found
      cases found
    · obtain ⟨earlier, stood, equal⟩ := same.source found
      exact (congrArg (·.timer) equal).symm.trans (charged.timer earlier stood)
  · have spent := load_step charged.sound fits issued charged.timer stepped
    have before := charged.paid
    rw [invocations_append, rearmings_append]
    omega

theorem charged_run {inside : EventLoopState Callback → Prop}
    (sound : Sound (registrationsMade past) start)
    (old : token ≤ registrationsMade past) (timer : IsTimer token start.loop)
    (run : RunWithin step inside start actions log final)
    (fits : registrationsMade (past ++ log) ≤ intMax) : Charged token start past log final := by
  have opening : Charged token start past [] start :=
    ⟨by rwa [List.append_nil], timer, by simp [invocations]⟩
  have bounded : registrationsMade (past ++ ([] ++ log)) ≤ intMax := fits
  exact run.invariant (Charged token start past)
    (fun log => registrationsMade (past ++ log) ≤ intMax)
    (fun front back fits => registrationsMade_le_append (past ++ front) back
      (by rwa [List.append_assoc]))
    (fun _ _ _ _ _ _ stepped fits charged => charged.step old stepped fits) bounded opening

private theorem pending_fresh {made : Nat} (sound : Sound made state) (fresh : made < token) :
    pending token state.stack = 0 := by
  rw [pending, occurrences, List.count_eq_zero]
  intro waiting
  obtain ⟨event, member, same⟩ := List.mem_map.mp waiting
  obtain ⟨frame, listed, remains⟩ := List.mem_flatMap.mp member
  have bound := sound.frames frame listed event (.tail _ remains)
  omega

private theorem invocations_fresh (run : Run step initial actions log final)
    (fits : registrationsMade log ≤ intMax) (fresh : registrationsMade log < token) :
    invocations token log = 0 := by
  have bounded : registrationsMade ([] ++ log) ≤ intMax := fits
  have numbered := Sound.numbered Sound.start run bounded
  rw [invocations, List.countP_eq_zero]
  intro event member
  cases event with
  | invoked level event callback =>
      obtain ⟨front, back, rfl⟩ := List.append_of_mem member
      have bound : event.token ≤ registrationsMade ([] ++ front) := numbered.at_split
      rw [List.nil_append] at bound
      rw [registrationsMade_append] at fresh
      have other : event.token ≠ token := by omega
      simpa using other
  | _ => simp

private theorem registered_timer {next : EventLoopState Callback}
    {observed : List (EventLoopEvent Callback)} {action : EventLoopAction Callback}
    (stepped : state.step action = some (next, observed))
    (member : .registered .ok token true ∈ observed) :
    ∃ registration : Registration Callback, registration.timer = true ∧
      token = state.loop.nextToken_ ∧ next = ⟨state.loop.insert registration, state.stack⟩ ∧
      observed = [.registered .ok token true] := by
  cases step_form stepped with
  | @added _ registration _ _ _ =>
      rw [List.mem_singleton, EventLoopEvent.registered.injEq] at member
      obtain ⟨_, rfl, timer⟩ := member
      exact ⟨registration, timer.symm, rfl, rfl, by rw [timer]⟩
  | started form => exact (form.ofDispatch _ member).elim
  | resumed _ form => exact (form.ofDispatch _ member).elim
  | _ => simp at member

/-- From its registration on a timer is paid for: once, and by each re-arming. -/
theorem timer_charged (run : Run step initial actions log final)
    (fits : registrationsMade log ≤ intMax) (registered : .registered .ok token true ∈ log) :
    IsTimer token final.loop ∧ token ≤ registrationsMade log ∧
      invocations token log ≤ 1 + rearmings token log := by
  obtain ⟨front, action, back, before, after, frontLog, observed, backLog, rfl, rfl, first,
    stepped, member, rest⟩ := run.at_observation registered
  have early := registrationsMade_le_append _ _ fits
  have sound := Sound.of_run first early
  obtain ⟨registration, timer, number, rfl, rfl⟩ := registered_timer stepped member
  have grouped : frontLog ++ ([.registered .ok token true] ++ backLog) =
      (frontLog ++ [.registered .ok token true]) ++ backLog := by rw [List.append_assoc]
  rw [grouped] at fits ⊢
  have soFar := registrationsMade_le_append _ _ fits
  have counted : registrationsMade (frontLog ++ [.registered .ok token true]) =
      registrationsMade frontLog + 1 := by
    rw [registrationsMade_append, registrationsMade_registered]
    rfl
  rw [counted] at soFar
  have issued : token = registrationsMade frontLog + 1 := number.trans (sound.nextToken_eq soFar)
  have later : Sound (registrationsMade (frontLog ++ [.registered .ok token true]))
      ⟨before.loop.insert registration, before.stack⟩ := by
    rw [registrationsMade_append]
    exact sound.step soFar stepped
  have fresh : IsTimer token (before.loop.insert registration) := by
    intro other found
    change (before.loop.registrations_.insert _ _)[token]? = _ at found
    rw [Registrations.insert_getElem?, if_pos number.symm] at found
    cases found
    exact timer
  have old : token ≤ registrationsMade (frontLog ++ [.registered .ok token true]) := by
    rw [counted]
    omega
  have charged := charged_run later old fresh rest fits
  have none : invocations token frontLog = 0 := invocations_fresh first early (by omega)
  have unloaded : pending token before.stack = 0 := pending_fresh sound (by omega)
  have armed := armings_le_one token (before.loop.insert registration)
  have paid := charged.paid
  refine ⟨charged.timer, ?_, ?_⟩
  · rw [registrationsMade_append]
    omega
  · have quiet : invocations token
        ([.registered .ok token true] : List (EventLoopEvent Callback)) = 0 := rfl
    rw [invocations_append, invocations_append, rearmings_append, none, quiet]
    simp only [load, unloaded] at paid
    omega

end Runs

/-- The next dispatch to start collects an event for the timer. -/
def ArmedTimer (token : Int) (loop : ManualTransportEventLoop Callback) : Prop :=
  ∃ registration : Registration Callback, loop.registrations_[token]? = some registration ∧
    registration.timer = true ∧
      registration.readyEvents &&& registration.events ≠ TransportEventNone

section Delivery

variable {past log : List (EventLoopEvent Callback)} {actions : List (EventLoopAction Callback)}
  {before after ready : EventLoopState Callback} {token : Int}

/-- A dispatch delivers an event that was ready exactly once, unless the
registration goes before its turn. -/
theorem delivered_once (sound : Sound (registrationsMade past) before)
    (dispatch : IsDispatch before actions log after)
    (fits : registrationsMade (past ++ log) ≤ intMax) (armed : ArmedTimer token before.loop)
    (spared : .unregistered token ∉ priorTo before.stack.length token log) :
    occurrences token (invocationsAt before.stack.length log) = 1 := by
  have law := dispatch_law sound dispatch fits
  obtain ⟨registration, found, _, due⟩ := armed
  have called := (law.invoked_iff token).mpr ⟨⟨registration, found, due⟩, spared⟩
  have distinct : ((invocationsAt before.stack.length log).map (·.token)).Nodup :=
    List.pairwise_map.mpr (law.ascending.imp fun order => Int.ne_of_lt order)
  rw [occurrences, distinct.count, if_pos called]

private theorem armed_step {made : Nat} {observed : List (EventLoopEvent Callback)}
    (sound : Sound made before) (fits : made + registrationsMade observed ≤ intMax)
    {action : EventLoopAction Callback} (stepped : before.step action = some (after, observed))
    (other : action ≠ .dispatchOnce) (spared : .unregistered token ∉ observed)
    (uncleared : ∀ events, .readied .ok token events ∈ observed →
      events &&& TransportEventTimer ≠ TransportEventNone)
    (armed : ArmedTimer token before.loop) : ArmedTimer token after.loop := by
  obtain ⟨registration, found, timer, due⟩ := armed
  cases step_form stepped with
  | refused _ _ => exact ⟨registration, found, timer, due⟩
  | added _ _ _ =>
      have fresh : ¬ before.loop.nextToken_ = token := by
        rw [sound.nextToken_eq fits]
        have bound := sound.issued token registration found
        omega
      exact ⟨registration, ((Registrations.insert_getElem? ..).trans (if_neg fresh)).trans found,
        timer, due⟩
  | @erased key =>
      have apart : ¬ key = token := fun same => spared (by simp [same])
      exact ⟨registration,
        ((ManualTransportEventLoop.unregister_getElem? ..).trans (if_neg apart)).trans found,
        timer, due⟩
  | @readied key events _ _ =>
      by_cases same : key = token
      · subst same
        have bits := sound.timers key registration found timer
        refine ⟨registration.withReady events, ?_, timer, ?_⟩
        · rw [ManualTransportEventLoop.setReady_getElem?, if_pos rfl, found]
          rfl
        · change events &&& registration.events ≠ _
          rw [bits]
          exact uncleared events (by simp)
      · exact ⟨registration,
          ((ManualTransportEventLoop.setReady_getElem? ..).trans (if_neg same)).trans found,
          timer, due⟩
  | missed _ => exact ⟨registration, found, timer, due⟩
  | started _ => exact absurd rfl other
  | resumed _ form => exact ⟨registration, form.loop_eq ▸ found, timer, due⟩

private theorem armed_run (sound : Sound (registrationsMade past) before)
    (run : Run step before actions log ready)
    (fits : registrationsMade (past ++ log) ≤ intMax) (other : .dispatchOnce ∉ actions)
    (spared : .unregistered token ∉ log)
    (uncleared : ∀ events, .readied .ok token events ∈ log →
      events &&& TransportEventTimer ≠ TransportEventNone)
    (armed : ArmedTimer token before.loop) : ArmedTimer token ready.loop := by
  induction run generalizing past with
  | nil => exact armed
  | @cons first action second observed actions log final _ stepped _ ih =>
      rw [← List.append_assoc] at fits
      have soFar := registrationsMade_le_append _ _ fits
      rw [registrationsMade_append] at soFar
      have next : Sound (registrationsMade (past ++ observed)) second := by
        rw [registrationsMade_append]
        exact sound.step soFar stepped
      refine ih next fits (fun member => other (.tail _ member))
        (fun member => spared (List.mem_append_right _ member))
        (fun events member => uncleared events (List.mem_append_right _ member)) ?_
      exact armed_step sound soFar stepped (fun same => other (same ▸ .head _))
        (fun member => spared (List.mem_append_left _ member))
        (fun events member => uncleared events (List.mem_append_left _ member)) armed

private theorem armed_setReady {made : Nat} (sound : Sound made before)
    (timer : IsTimer token before.loop) {events : EventMask}
    (bit : events &&& TransportEventTimer ≠ TransportEventNone)
    {registration : Registration Callback}
    (found : before.loop.registrations_[token]? = some registration) :
    ArmedTimer token (before.loop.setReady token events).2 := by
  have kind := timer registration found
  refine ⟨registration.withReady events, ?_, kind, ?_⟩
  · rw [ManualTransportEventLoop.setReady_getElem?, if_pos rfl, found]
    rfl
  · change events &&& registration.events ≠ _
    rwa [sound.timers token registration found kind]

private theorem rearmed_delivered {dispatch : List (EventLoopAction Callback)}
    {idleLog dispatchLog : List (EventLoopEvent Callback)} {events : EventMask}
    (sound : Sound (registrationsMade past) before) (timer : IsTimer token before.loop)
    (idle : Run step before (.setReady token events :: actions)
      (.readied .ok token events :: idleLog) ready)
    (bit : events &&& TransportEventTimer ≠ TransportEventNone)
    (other : .dispatchOnce ∉ actions) (spared : .unregistered token ∉ idleLog)
    (uncleared : ∀ mask, .readied .ok token mask ∈ idleLog →
      mask &&& TransportEventTimer ≠ TransportEventNone)
    (dispatched : IsDispatch ready dispatch dispatchLog after)
    (fits : registrationsMade
      (past ++ .readied .ok token events :: idleLog ++ dispatchLog) ≤ intMax)
    (reached : .unregistered token ∉ priorTo ready.stack.length token dispatchLog) :
    occurrences token (invocationsAt ready.stack.length dispatchLog) = 1 := by
  have early := registrationsMade_le_append _ _ fits
  have readySound := Sound.run sound idle early
  obtain ⟨rearmed, observed, rest, shape, stepped, run⟩ := idle.cons_inv
  rw [shape, ← List.append_assoc] at early
  have soFar := registrationsMade_le_append _ _ early
  rw [registrationsMade_append] at soFar
  have rearmedSound : Sound (registrationsMade (past ++ observed)) rearmed := by
    rw [registrationsMade_append]
    exact sound.step soFar stepped
  cases step_form stepped with
  | refused registers _ => exact registers.elim
  | added registers _ _ => exact registers.elim
  | readied found =>
      obtain rfl : idleLog = rest := (List.cons.inj shape).2
      have armed := armed_run rearmedSound run early other spared uncleared
        (armed_setReady sound timer bit found)
      exact delivered_once readySound dispatched fits armed reached
  | missed _ => simp at shape

end Delivery

/-- A timer is called once for its registration and once for each re-arming; an
armed one has its call from the dispatch that starts next. -/
theorem timers_fireOncePerArming {actions : List (EventLoopAction Callback)}
    {log : List (EventLoopEvent Callback)} {state : EventLoopState Callback} {token : Int}
    (run : Run step initial actions log state) (fits : registrationsMade log ≤ intMax)
    (registered : .registered .ok token true ∈ log) :
    invocations token log ≤ 1 + rearmings token log ∧
    (∀ dispatch dispatchLog after,
      state.stack = [] → IsDispatch state dispatch dispatchLog after →
      registrationsMade (log ++ dispatchLog) ≤ intMax →
      ArmedTimer token state.loop →
      .unregistered token ∉ priorTo 0 token dispatchLog →
      occurrences token (invocationsAt 0 dispatchLog) = 1 ∧
        invocations token dispatchLog ≤ 1 + rearmings token dispatchLog) ∧
    ∀ events idle idleLog ready dispatch dispatchLog after,
      Run step state (.setReady token events :: idle) (.readied .ok token events :: idleLog) ready →
      events &&& TransportEventTimer ≠ TransportEventNone →
      .dispatchOnce ∉ idle → .unregistered token ∉ idleLog →
      (∀ mask, .readied .ok token mask ∈ idleLog →
        mask &&& TransportEventTimer ≠ TransportEventNone) →
      IsDispatch ready dispatch dispatchLog after →
      registrationsMade (log ++ .readied .ok token events :: idleLog ++ dispatchLog) ≤ intMax →
      .unregistered token ∉ priorTo ready.stack.length token dispatchLog →
      occurrences token (invocationsAt ready.stack.length dispatchLog) = 1 := by
  have sound := Sound.of_run run fits
  obtain ⟨timer, old, paid⟩ := timer_charged run fits registered
  refine ⟨paid, ?_, ?_⟩
  · intro dispatch dispatchLog after outermost dispatched bounded armed spared
    have delivered := delivered_once sound dispatched bounded armed
    rw [outermost] at delivered
    have charged := (charged_run sound old timer dispatched.run bounded).paid
    have one := armings_le_one token state.loop
    have none : pending token state.stack = 0 := by rw [outermost]; rfl
    simp only [load, none] at charged
    exact ⟨delivered spared, by omega⟩
  · intro events idle idleLog ready dispatch dispatchLog after rearming bit other spared uncleared
      dispatched bounded
    exact rearmed_delivered sound timer rearming bit other spared uncleared dispatched bounded

section Poll

def pollArmed : EventLoopState String × List (EventLoopEvent String) :=
  (execute step (fun _ => True) initial [.registerTimer ⟨50⟩ (some "poll")]).getD (initial, [])

def pollCalled : EventLoopState String × List (EventLoopEvent String) :=
  (execute step (fun _ => True) initial [.registerTimer ⟨50⟩ (some "poll"), .dispatchOnce]).getD
    (initial, [])

def pollRearmed : EventLoopState String × List (EventLoopEvent String) :=
  (execute step (fun _ => True) pollCalled.1 [.setReady 1 TransportEventTimer,
    .callbackReturns]).getD (initial, [])

def pollAgain : EventLoopState String × List (EventLoopEvent String) :=
  (execute step (fun _ => True) pollRearmed.1 [.dispatchOnce, .callbackReturns]).getD (initial, [])

example : pollCalled.2 ++ pollRearmed.2 ++ pollAgain.2 =
    [.registered .ok 1 true, .invoked 0 ⟨1, 0, 4⟩ "poll", .readied .ok 1 4, .returned 0 .ok,
      .invoked 0 ⟨1, 0, 4⟩ "poll", .returned 0 .ok] := rfl

theorem pollArmed_isDispatch :
    IsDispatch pollArmed.1 [.dispatchOnce, .setReady 1 TransportEventTimer, .callbackReturns]
      (pollCalled.2.tail ++ pollRearmed.2) pollRearmed.1 :=
  ⟨_, pollCalled.1, pollCalled.2.tail, pollRearmed.2, rfl, rfl, rfl,
    RunWithin.iff_execute.mpr rfl, rfl⟩

theorem pollRearmed_isDispatch :
    IsDispatch pollRearmed.1 [.dispatchOnce, .callbackReturns] pollAgain.2 pollAgain.1 :=
  ⟨[.callbackReturns], (advance pollRearmed.1.loop.collected [] pollRearmed.1.loop.snapshot
    pollRearmed.1.loop.snapshot).1, [.invoked 0 ⟨1, 0, 4⟩ "poll"], pollAgain.2.tail, rfl, rfl,
    rfl, RunWithin.iff_execute.mpr rfl, rfl⟩

theorem timers_fireOncePerArming_poll :
    invocations 1 (pollCalled.2.tail ++ pollRearmed.2) ≤
        1 + rearmings 1 (pollCalled.2.tail ++ pollRearmed.2) ∧
      occurrences 1 (invocationsAt 0 pollAgain.2) = 1 := by
  have armed : Run step initial [.registerTimer ⟨50⟩ (some "poll")] pollArmed.2 pollArmed.1 :=
    RunWithin.iff_execute.mpr rfl
  have called : Run step initial [.registerTimer ⟨50⟩ (some "poll"), .dispatchOnce] pollCalled.2
      pollCalled.1 := RunWithin.iff_execute.mpr rfl
  have rearming : Run step pollCalled.1 [.setReady 1 TransportEventTimer, .callbackReturns]
      pollRearmed.2 pollRearmed.1 := RunWithin.iff_execute.mpr rfl
  have settled : pollRearmed.2.tail = [.returned 0 .ok] := rfl
  constructor
  · exact ((timers_fireOncePerArming armed (by decide) (.head _)).2.1 _ _ _ rfl pollArmed_isDispatch
      (by decide) ⟨_, rfl, rfl, by decide⟩ (by decide)).2
  · exact (timers_fireOncePerArming called (by decide) (.head _)).2.2 TransportEventTimer
      [.callbackReturns] pollRearmed.2.tail _ _ _ _ rearming (by decide) (by simp) (by decide)
      (by rw [settled]; simp) pollRearmed_isDispatch (by decide) (by decide)

end Poll

end EventLoopState

end DlmsTransport.Transport
