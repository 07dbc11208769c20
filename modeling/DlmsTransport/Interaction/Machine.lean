import Mathlib.Data.List.Basic

/-! Machines driven from outside: an action moves the state, when it can be
taken there, and leaves observations in a log. -/

set_option autoImplicit false

namespace DlmsTransport.Interaction

variable {State Action Observation : Type}

/-- `RunWithin step inside start actions log final`: the actions lead from
`start` to `final`, every one of them taken in a state that is `inside`. -/
inductive RunWithin (step : State → Action → Option (State × List Observation))
    (inside : State → Prop) : State → List Action → List Observation → State → Prop where
  | nil {state} : RunWithin step inside state [] [] state
  | cons {before action after observed actions log final} :
      inside before → step before action = some (after, observed) →
      RunWithin step inside after actions log final →
      RunWithin step inside before (action :: actions) (observed ++ log) final

abbrev Run (step : State → Action → Option (State × List Observation)) :=
  RunWithin step fun _ => True

def execute (step : State → Action → Option (State × List Observation)) (inside : State → Prop)
    [DecidablePred inside] : State → List Action → Option (State × List Observation)
  | state, [] => some (state, [])
  | state, action :: actions =>
      if inside state then
        match step state action with
        | none => none
        | some (after, observed) =>
            (execute step inside after actions).map fun (final, log) => (final, observed ++ log)
      else none

def Passes (step : State → Action → Option (State × List Observation)) (start : State)
    (actions : List Action) (state : State) : Prop :=
  ∃ front back log, actions = front ++ back ∧ Run step start front log state

def Takes (step : State → Action → Option (State × List Observation)) (start : State)
    (actions : List Action) (state : State) (action : Action) : Prop :=
  ∃ front back log, actions = front ++ action :: back ∧ Run step start front log state

/-- Each entry of `log` stands in the relation to the entries before it, those
of `past` included. -/
def Justified (because : List Observation → Observation → Prop) :
    List Observation → List Observation → Prop
  | _, [] => True
  | past, observation :: log =>
      because past observation ∧ Justified because (past ++ [observation]) log

namespace Justified

variable {because : List Observation → Observation → Prop}

theorem append_iff {past front back : List Observation} :
    Justified because past (front ++ back) ↔
      Justified because past front ∧ Justified because (past ++ front) back := by
  induction front generalizing past with
  | nil => simp [Justified]
  | cons observation front ih => simp [Justified, ih, and_assoc]

theorem at_split {past front back : List Observation} {observation : Observation}
    (justified : Justified because past (front ++ observation :: back)) :
    because (past ++ front) observation :=
  (append_iff.mp justified).2.1

theorem of_splits {past log : List Observation}
    (holds : ∀ front observation back, log = front ++ observation :: back →
      because (past ++ front) observation) : Justified because past log := by
  induction log generalizing past with
  | nil => trivial
  | cons first log ih =>
      refine ⟨by simpa using holds [] first log rfl, ih ?_⟩
      intro front observation back same
      have reason := holds (first :: front) observation back (by rw [same, List.cons_append])
      rwa [List.append_assoc, List.singleton_append]

end Justified

namespace RunWithin

variable {step : State → Action → Option (State × List Observation)} {inside : State → Prop}

theorem mono {wider : State → Prop} (widens : ∀ state, inside state → wider state)
    {start final : State} {actions : List Action} {log : List Observation}
    (run : RunWithin step inside start actions log final) :
    RunWithin step wider start actions log final := by
  induction run with
  | nil => exact .nil
  | cons within stepped _ ih => exact .cons (widens _ within) stepped ih

theorem run {start final : State} {actions : List Action} {log : List Observation}
    (run : RunWithin step inside start actions log final) : Run step start actions log final :=
  run.mono fun _ _ => trivial

theorem single {before after : State} {action : Action} {observed : List Observation}
    (within : inside before) (stepped : step before action = some (after, observed)) :
    RunWithin step inside before [action] observed after := by
  simpa using RunWithin.cons within stepped .nil

theorem cons_inv {start final : State} {action : Action} {actions : List Action}
    {log : List Observation} (run : RunWithin step inside start (action :: actions) log final) :
    ∃ after observed rest, log = observed ++ rest ∧ step start action = some (after, observed) ∧
      RunWithin step inside after actions rest final := by
  cases run with
  | cons _ stepped rest => exact ⟨_, _, _, rfl, stepped, rest⟩

theorem append {start middle final : State} {front back : List Action}
    {frontLog backLog : List Observation}
    (first : RunWithin step inside start front frontLog middle)
    (second : RunWithin step inside middle back backLog final) :
    RunWithin step inside start (front ++ back) (frontLog ++ backLog) final := by
  induction first with
  | nil => exact second
  | cons within stepped _ ih =>
      rw [List.append_assoc]
      exact .cons within stepped (ih second)

theorem split {start final : State} {front back : List Action} {log : List Observation}
    (run : RunWithin step inside start (front ++ back) log final) :
    ∃ middle frontLog backLog, log = frontLog ++ backLog ∧
      RunWithin step inside start front frontLog middle ∧
      RunWithin step inside middle back backLog final := by
  induction front generalizing start log with
  | nil => exact ⟨start, [], log, rfl, .nil, run⟩
  | cons action front ih =>
      cases run with
      | cons within stepped rest =>
          obtain ⟨middle, frontLog, backLog, rfl, first, second⟩ := ih rest
          exact ⟨middle, _, backLog, (List.append_assoc ..).symm,
            .cons within stepped first, second⟩

theorem iff_execute [DecidablePred inside] {start final : State} {actions : List Action}
    {log : List Observation} :
    RunWithin step inside start actions log final ↔
      execute step inside start actions = some (final, log) := by
  constructor
  · intro run
    induction run with
    | nil => rfl
    | cons within stepped _ ih => simp [execute, within, stepped, ih]
  · intro executed
    induction actions generalizing start log with
    | nil =>
        cases executed
        exact .nil
    | cons action actions ih =>
        rw [execute] at executed
        split at executed
        case isFalse => cases executed
        case isTrue within =>
            split at executed
            case h_1 => cases executed
            case h_2 after observed stepped =>
                obtain ⟨⟨reached, rest⟩, later, same⟩ := Option.map_eq_some_iff.mp executed
                cases same
                exact .cons within stepped (ih later)

theorem at_observation {start final : State} {actions : List Action} {log : List Observation}
    {observation : Observation} (run : RunWithin step inside start actions log final)
    (member : observation ∈ log) :
    ∃ front action back before after frontLog observed backLog,
      actions = front ++ action :: back ∧ log = frontLog ++ (observed ++ backLog) ∧
        RunWithin step inside start front frontLog before ∧
        step before action = some (after, observed) ∧ observation ∈ observed ∧
        RunWithin step inside after back backLog final := by
  induction run with
  | nil => cases member
  | @cons before action after observed actions log final within stepped rest ih =>
      rcases List.mem_append.mp member with now | later
      · exact ⟨[], action, actions, before, after, [], observed, log, rfl, rfl, .nil, stepped, now,
          rest⟩
      · obtain ⟨front, other, back, reached, next, frontLog, emitted, backLog, rfl, rfl, first,
          taken, found, last⟩ := ih later
        exact ⟨action :: front, other, back, reached, next, observed ++ frontLog, emitted, backLog,
          rfl, (List.append_assoc ..).symm, .cons within stepped first, taken, found, last⟩

theorem unique {start first second : State} {actions : List Action}
    {firstLog secondLog : List Observation}
    (left : RunWithin step inside start actions firstLog first)
    (right : RunWithin step inside start actions secondLog second) :
    firstLog = secondLog ∧ first = second := by
  classical
  have same := (iff_execute.mp left).symm.trans (iff_execute.mp right)
  cases same
  exact ⟨rfl, rfl⟩

theorem eq_of_not_inside {start final : State} {actions : List Action} {log : List Observation}
    (outside : ¬ inside start) (run : RunWithin step inside start actions log final) :
    actions = [] ∧ log = [] ∧ final = start := by
  cases run with
  | nil => exact ⟨rfl, rfl, rfl⟩
  | cons within _ _ => exact absurd within outside

/-- The invariant rule. `Inv` may speak of the whole log so far, a step need keep
it only while the log is `allowed`, and what a step emits is justified by it. -/
theorem invariant_justified (Inv : List Observation → State → Prop)
    (allowed : List Observation → Prop) (because : List Observation → Observation → Prop)
    (closed : ∀ front back, allowed (front ++ back) → allowed front)
    (preserved : ∀ past before action after observed, inside before →
      step before action = some (after, observed) → allowed (past ++ observed) →
      Inv past before → Inv (past ++ observed) after ∧ Justified because past observed)
    {past : List Observation} {start final : State} {actions : List Action}
    {log : List Observation} (run : RunWithin step inside start actions log final)
    (bounded : allowed (past ++ log)) (holds : Inv past start) :
    Inv (past ++ log) final ∧ Justified because past log := by
  induction run generalizing past with
  | nil => simpa [Justified] using holds
  | cons within stepped _ ih =>
      rw [← List.append_assoc] at bounded ⊢
      obtain ⟨kept, emitted⟩ := preserved _ _ _ _ _ within stepped (closed _ _ bounded) holds
      obtain ⟨final, later⟩ := ih bounded kept
      exact ⟨final, Justified.append_iff.mpr ⟨emitted, later⟩⟩

theorem invariant (Inv : List Observation → State → Prop) (allowed : List Observation → Prop)
    (closed : ∀ front back, allowed (front ++ back) → allowed front)
    (preserved : ∀ past before action after observed, inside before →
      step before action = some (after, observed) → allowed (past ++ observed) →
      Inv past before → Inv (past ++ observed) after)
    {past : List Observation} {start final : State} {actions : List Action}
    {log : List Observation} (run : RunWithin step inside start actions log final)
    (bounded : allowed (past ++ log)) (holds : Inv past start) : Inv (past ++ log) final :=
  (run.invariant_justified Inv allowed (fun _ _ => True) closed
    (fun past before action after observed within stepped fits holds =>
      ⟨preserved past before action after observed within stepped fits holds,
        .of_splits fun _ _ _ _ => trivial⟩) bounded holds).1

end RunWithin

namespace Takes

variable {step : State → Action → Option (State × List Observation)}

theorem cons {start next state : State} {first action : Action} {actions : List Action}
    {observed : List Observation} (stepped : step start first = some (next, observed))
    (taken : Takes step next actions state action) :
    Takes step start (first :: actions) state action := by
  obtain ⟨front, back, log, rfl, run⟩ := taken
  exact ⟨first :: front, back, _, rfl, .cons trivial stepped run⟩

end Takes

theorem Passes.invariant {step : State → Action → Option (State × List Observation)}
    {Inv : State → Prop} {start : State} {actions : List Action}
    (preserved : ∀ state action next observed, Takes step start actions state action →
      step state action = some (next, observed) → Inv state → Inv next)
    (holds : Inv start) {state : State} (passes : Passes step start actions state) : Inv state := by
  obtain ⟨front, back, log, rfl, run⟩ := passes
  induction run with
  | nil => exact holds
  | cons _ stepped _ ih =>
      apply ih (preserved _ _ _ _ ⟨[], _, [], rfl, .nil⟩ stepped holds)
      intro state action next observed taken
      exact preserved state action next observed (taken.cons stepped)

end DlmsTransport.Interaction
