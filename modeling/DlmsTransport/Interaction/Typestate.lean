import DlmsTransport.Interaction.Environment
import Mathlib.Logic.Function.Basic

/-! Handles that are in states. A call may use a handle only in a state that admits the call,
moves the handle on, and may hand out another one. A program keeps to the protocol if every
call it makes is admitted. -/

set_option autoImplicit false

namespace DlmsTransport.Interaction

structure Protocol (Call : Type) (Answer : Call → Type) (Handle State : Type) where
  /-- The handle that is handed out, and its first state. -/
  obtains : (request : Call) → Answer request → Option (Handle × State)
  uses : Call → Option Handle
  admits : Call → State → Prop
  /-- The next state of the handle that is used, `none` once it is given back. -/
  moves : (request : Call) → Answer request → State → Option State

/-- The states of the live handles. -/
abbrev States (Handle State : Type) := Handle → Option State

namespace Protocol

variable {Call Handle State α : Type} {Answer : Call → Type}
variable (protocol : Protocol Call Answer Handle State)

def Admits (states : States Handle State) (request : Call) : Prop :=
  ∀ handle, protocol.uses request = some handle →
    ∃ state, states handle = some state ∧ protocol.admits request state

section

variable {protocol} {states : States Handle State} {request : Call}

theorem admits_of_none (unused : protocol.uses request = none) :
    protocol.Admits states request := by
  intro handle uses
  simp [unused] at uses

theorem admits_of_some {handle : Handle} {state : State}
    (uses : protocol.uses request = some handle) (here : states handle = some state)
    (admits : protocol.admits request state) : protocol.Admits states request := by
  intro other usesIt
  obtain rfl := Option.some.inj (uses.symm.trans usesIt)
  exact ⟨state, here, admits⟩

end

variable [DecidableEq Handle]

def used (states : States Handle State) (request : Call) (answer : Answer request) :
    States Handle State :=
  match protocol.uses request with
  | none => states
  | some handle =>
      Function.update states handle ((states handle).bind (protocol.moves request answer))

/-- No live handle is handed out. -/
def discipline : Environment Call Answer (States Handle State) where
  step states request answer after :=
    match protocol.obtains request answer with
    | none => after = protocol.used states request answer
    | some (handle, state) =>
        protocol.used states request answer handle = none ∧
          after = Function.update (protocol.used states request answer) handle (some state)

abbrev Obeys (program : Program Call Answer α) (states : States Handle State)
    (post : States Handle State → α → Prop) : Prop :=
  program.Meets protocol.discipline (.calls protocol.Admits) post states

section Calls

variable {protocol} {states : States Handle State} {post : States Handle State → α → Prop}
  {request : Call} {next : Answer request → Program Call Answer α}

theorem discipline_step_iff {answer : Answer request} {after : States Handle State}
    (obtains : protocol.obtains request answer = none) :
    protocol.discipline.step states request answer after ↔
      after = protocol.used states request answer := by
  simp [discipline, obtains]

theorem used_of_none {answer : Answer request} (unused : protocol.uses request = none) :
    protocol.used states request answer = states := by
  simp [used, unused]

theorem used_of_some {handle : Handle} {state : State} {answer : Answer request}
    (uses : protocol.uses request = some handle) (here : states handle = some state) :
    protocol.used states request answer =
      Function.update states handle (protocol.moves request answer state) := by
  simp [used, uses, here]

/-- A call that has nothing to do with handles. -/
theorem obeys_idle (unused : protocol.uses request = none)
    (obtains : ∀ answer, protocol.obtains request answer = none)
    (rest : ∀ answer, protocol.Obeys (next answer) states post) :
    protocol.Obeys (.call request next) states post := by
  refine ⟨admits_of_none unused, fun answer after stepped => ?_⟩
  rw [discipline_step_iff (obtains answer), used_of_none unused] at stepped
  subst stepped
  exact rest answer

/-- A call on a handle that moves the handle on. -/
theorem obeys_use {handle : Handle} {state : State} (uses : protocol.uses request = some handle)
    (here : states handle = some state) (admits : protocol.admits request state)
    (obtains : ∀ answer, protocol.obtains request answer = none)
    (rest : ∀ answer, protocol.Obeys (next answer)
      (Function.update states handle (protocol.moves request answer state)) post) :
    protocol.Obeys (.call request next) states post := by
  refine ⟨admits_of_some uses here admits, fun answer after stepped => ?_⟩
  rw [discipline_step_iff (obtains answer), used_of_some uses here] at stepped
  subst stepped
  exact rest answer

/-- The same for the one handle that the program is about. -/
theorem obeys_own {handle : Handle} {state : State} (uses : protocol.uses request = some handle)
    (admits : protocol.admits request state)
    (obtains : ∀ answer, protocol.obtains request answer = none)
    (rest : ∀ answer, protocol.Obeys (next answer)
      (Function.update states handle (protocol.moves request answer state)) post) :
    protocol.Obeys (.call request next) (Function.update states handle (some state)) post := by
  refine obeys_use uses (Function.update_self ..) admits obtains fun answer => ?_
  rw [Function.update_idem]
  exact rest answer

theorem used_of_same {handle : Handle} {state : State} {answer : Answer request}
    (uses : protocol.uses request = some handle) (here : states handle = some state)
    (moves : protocol.moves request answer state = some state) :
    protocol.used states request answer = states := by
  rw [used_of_some uses here, moves, ← here, Function.update_eq_self]

/-- A call that may hand out a handle and leaves the others in the states they are in. -/
theorem obeys_obtain (admits : protocol.Admits states request)
    (still : ∀ answer, protocol.used states request answer = states)
    (refused : ∀ answer, protocol.obtains request answer = none →
      protocol.Obeys (next answer) states post)
    (handed : ∀ answer handle state, protocol.obtains request answer = some (handle, state) →
      states handle = none →
      protocol.Obeys (next answer) (Function.update states handle (some state)) post) :
    protocol.Obeys (.call request next) states post := by
  refine ⟨admits, fun answer after stepped => ?_⟩
  cases obtains : protocol.obtains request answer with
  | none =>
      rw [discipline_step_iff obtains, still answer] at stepped
      subst stepped
      exact refused answer obtains
  | some given =>
      obtain ⟨handle, state⟩ := given
      simp only [discipline, obtains, still answer] at stepped
      obtain ⟨fresh, rfl⟩ := stepped
      exact handed answer handle state obtains fresh

/-- A call that leaves every handle in the state it is in. -/
structure Steady (protocol : Protocol Call Answer Handle State) (states : States Handle State)
    (request : Call) : Prop where
  obtains : ∀ answer, protocol.obtains request answer = none
  admits : protocol.Admits states request
  moves : ∀ handle state answer, protocol.uses request = some handle →
    states handle = some state → protocol.moves request answer state = some state

theorem Steady.used_eq (steady : protocol.Steady states request) (answer : Answer request) :
    protocol.used states request answer = states := by
  cases uses : protocol.uses request with
  | none => exact used_of_none uses
  | some handle =>
      obtain ⟨state, here, _⟩ := steady.admits handle uses
      exact used_of_same uses here (steady.moves handle state answer uses here)

theorem obeys_steady (steady : protocol.Steady states request)
    (rest : ∀ answer, protocol.Obeys (next answer) states post) :
    protocol.Obeys (.call request next) states post := by
  refine ⟨steady.admits, fun answer after stepped => ?_⟩
  rw [discipline_step_iff (steady.obtains answer), steady.used_eq answer] at stepped
  subst stepped
  exact rest answer

theorem obeys_of_steady {program : Program Call Answer α}
    (steady : program.Only (protocol.Steady states)) :
    protocol.Obeys program states fun after _ => after = states := by
  refine steady.meets_of_keeps (· = states) ?_ ?_ rfl
  · rintro request calm _ rfl
    exact calm.admits
  · rintro request calm _ answer after rfl stepped
    rw [discipline_step_iff (calm.obtains answer), calm.used_eq answer] at stepped
    exact stepped

end Calls

end Protocol

section Claims

variable {Handle State Owner : Type}

/-- A handle that an object holds, in the state it expects the handle to be in. -/
abbrev Claim (Handle State : Type) := Option (Handle × State)

def Met (states : States Handle State) (claim : Claim Handle State) : Prop :=
  ∀ handle state, claim = some (handle, state) → states handle = some state

variable {before after : States Handle State}

section Exchange

variable [DecidableEq Handle]

def withdrawn (states : States Handle State) : Claim Handle State → States Handle State
  | none => states
  | some (handle, _) => Function.update states handle none

def given (states : States Handle State) : Claim Handle State → States Handle State
  | none => states
  | some (handle, state) => Function.update states handle (some state)

/-- An object gives up one claim for another. Nothing else changes. -/
structure Trades (before : States Handle State) (held : Claim Handle State)
    (after : States Handle State) (kept : Claim Handle State) : Prop where
  result : after = given (withdrawn before held) kept
  fresh : ∀ handle state, kept = some (handle, state) → withdrawn before held handle = none

theorem Trades.same {held : Claim Handle State} (met : Met before held) :
    Trades before held before held := by
  cases held with
  | none => exact ⟨rfl, nofun⟩
  | some claim =>
      obtain ⟨handle, state⟩ := claim
      constructor
      · rw [withdrawn, given, Function.update_idem, ← met handle state rfl,
          Function.update_eq_self]
      · intro other _ kept
        obtain ⟨rfl, rfl⟩ := Prod.mk.inj (Option.some.inj kept)
        exact Function.update_self ..

theorem Trades.nothing (before : States Handle State) : Trades before none before none where
  result := rfl
  fresh handle state kept := by cases kept

theorem Trades.released (before : States Handle State) (handle : Handle) (state : State) :
    Trades before (some (handle, state)) (Function.update before handle none) none :=
  ⟨rfl, nofun⟩

theorem Trades.gained {handle : Handle} (state : State) (fresh : before handle = none) :
    Trades before none (Function.update before handle (some state)) (some (handle, state)) where
  result := rfl
  fresh other _ kept := by
    obtain ⟨rfl, rfl⟩ := Prod.mk.inj (Option.some.inj kept)
    exact fresh

end Exchange

/-- The live handles are those that are claimed, each by one owner and in its state. -/
structure Census (claims : Owner → Claim Handle State) (states : States Handle State) : Prop where
  claimed_iff : ∀ {handle state},
    states handle = some state ↔ ∃ owner, claims owner = some (handle, state)
  apart : ∀ {first second handle} {left right : State}, claims first = some (handle, left) →
    claims second = some (handle, right) → first = second

theorem Census.none :
    Census (fun _ : Owner => Option.none) (fun _ : Handle => (.none : Option State)) where
  claimed_iff := by simp
  apart claimed := by cases claimed

theorem Census.met {claims : Owner → Claim Handle State} (census : Census claims before)
    (owner : Owner) : Met before (claims owner) :=
  fun _ _ claimed => census.claimed_iff.mpr ⟨owner, claimed⟩

variable [DecidableEq Handle] [DecidableEq Owner]

theorem Census.withdraw {claims : Owner → Claim Handle State} (census : Census claims before)
    (owner : Owner) :
    Census (Function.update claims owner Option.none) (withdrawn before (claims owner)) := by
  have others {other : Owner} {handle : Handle} {state : State}
      (claimed : Function.update claims owner Option.none other = some (handle, state)) :
      other ≠ owner ∧ claims other = some (handle, state) := by
    by_cases same : other = owner
    · simp [same] at claimed
    · exact ⟨same, by simpa [same] using claimed⟩
  constructor
  · intro handle state
    cases held : claims owner with
    | none =>
        have unchanged : Function.update claims owner Option.none = claims := by
          rw [← held, Function.update_eq_self]
        rw [unchanged]
        exact census.claimed_iff
    | some claim =>
        obtain ⟨own, expected⟩ := claim
        by_cases same : handle = own
        · subst same
          rw [withdrawn, Function.update_self]
          constructor
          · exact nofun
          · intro claimed
            obtain ⟨other, claimed⟩ := claimed
            obtain ⟨different, claimed⟩ := others claimed
            exact absurd (census.apart claimed held) different
        · rw [withdrawn, Function.update_of_ne same, census.claimed_iff]
          constructor
          · intro claimed
            obtain ⟨other, claimed⟩ := claimed
            have different : other ≠ owner := by
              rintro rfl
              rw [held] at claimed
              exact same (Prod.mk.inj (Option.some.inj claimed)).1.symm
            exact ⟨other, by rwa [Function.update_of_ne different]⟩
          · intro claimed
            obtain ⟨other, claimed⟩ := claimed
            exact ⟨other, (others claimed).2⟩
  · intro first second handle left right firstClaims secondClaims
    exact census.apart (others firstClaims).2 (others secondClaims).2

theorem Census.give {claims : Owner → Claim Handle State} (census : Census claims before)
    {owner : Owner} (empty : claims owner = Option.none) {kept : Claim Handle State}
    (fresh : ∀ handle state, kept = some (handle, state) → before handle = Option.none) :
    Census (Function.update claims owner kept) (given before kept) := by
  cases kept with
  | none =>
      rw [← empty, Function.update_eq_self, empty]
      exact census
  | some claim =>
      obtain ⟨own, expected⟩ := claim
      have unclaimed {other : Owner} {state : State} : claims other ≠ some (own, state) := by
        intro claimed
        have live := census.claimed_iff.mpr ⟨other, claimed⟩
        simp [fresh own expected rfl] at live
      have claimed_iff {other : Owner} {handle : Handle} {state : State} :
          Function.update claims owner (some (own, expected)) other = some (handle, state) ↔
            (other = owner ∧ handle = own ∧ state = expected) ∨
              claims other = some (handle, state) := by
        by_cases same : other = owner
        · subst same
          simp [empty, eq_comm]
        · simp [same]
      constructor
      · intro handle state
        simp only [claimed_iff, given]
        by_cases same : handle = own
        · subst same
          simp [unclaimed, eq_comm]
        · simp [same, census.claimed_iff]
      · intro first second handle left right firstClaims secondClaims
        rcases claimed_iff.mp firstClaims with ⟨rfl, rfl, _⟩ | earlier <;>
          rcases claimed_iff.mp secondClaims with ⟨rfl, same, _⟩ | later
        · rfl
        · exact absurd later unclaimed
        · exact absurd (same ▸ earlier) unclaimed
        · exact census.apart earlier later

theorem Census.trade {claims : Owner → Claim Handle State} (census : Census claims before)
    (owner : Owner) {kept : Claim Handle State} (trades : Trades before (claims owner) after kept) :
    Census (Function.update claims owner kept) after := by
  have moved := (census.withdraw owner).give (Function.update_self ..) trades.fresh
  rw [Function.update_idem, ← trades.result] at moved
  exact moved

end Claims

end DlmsTransport.Interaction
