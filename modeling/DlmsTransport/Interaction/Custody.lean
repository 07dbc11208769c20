import DlmsTransport.Interaction.Environment
import Mathlib.Order.BooleanAlgebra.Set

/-! Handles that some calls hand out and others take back. The ledger of the live
handles is an environment that never hands out a live one; a program that uses
only live handles releases each one it obtained at most once. -/

set_option autoImplicit false

namespace DlmsTransport.Interaction

/-- Which calls obtain, use and release a handle. A release is a use. -/
structure Custody (Call : Type) (Answer : Call → Type) (Handle : Type) where
  obtains : (request : Call) → Answer request → Option Handle
  releases : Call → Option Handle
  uses : Call → Option Handle
  uses_of_releases : ∀ {request handle}, releases request = some handle →
    uses request = some handle

namespace Custody

variable {Call : Type} {Answer : Call → Type} {Handle : Type}
variable (custody : Custody Call Answer Handle)

def ledger : Environment Call Answer (Set Handle) where
  step live request answer after :=
    match custody.obtains request answer with
    | some handle => handle ∉ live ∧ after = insert handle live
    | none =>
        match custody.releases request with
        | some handle => after = live \ {handle}
        | none => after = live

def UsesLive (live : Set Handle) (request : Call) : Prop :=
  ∀ handle, custody.uses request = some handle → handle ∈ live

variable {custody}

theorem usesLive_of_none {live : Set Handle} {request : Call}
    (uses : custody.uses request = none) : custody.UsesLive live request := by
  intro handle used
  simp [uses] at used

theorem ledger_step_quiet {request : Call} {answer : Answer request} {live after : Set Handle}
    (obtains : custody.obtains request answer = none) (releases : custody.releases request = none) :
    custody.ledger.step live request answer after ↔ after = live := by
  simp [ledger, obtains, releases]

theorem ledger_step_obtain {request : Call} {answer : Answer request} {live after : Set Handle}
    {handle : Handle} (obtains : custody.obtains request answer = some handle) :
    custody.ledger.step live request answer after ↔
      handle ∉ live ∧ after = insert handle live := by
  simp [ledger, obtains]

theorem ledger_step_release {request : Call} {answer : Answer request} {live after : Set Handle}
    {handle : Handle} (obtains : custody.obtains request answer = none)
    (releases : custody.releases request = some handle) :
    custody.ledger.step live request answer after ↔ after = live \ {handle} := by
  simp [ledger, obtains, releases]

theorem ledger_deterministic {request : Call} {answer : Answer request}
    {live first second : Set Handle} (left : custody.ledger.step live request answer first)
    (right : custody.ledger.step live request answer second) : first = second := by
  cases obtains : custody.obtains request answer with
  | some handle =>
      exact ((ledger_step_obtain obtains).mp left).2.trans
        ((ledger_step_obtain obtains).mp right).2.symm
  | none =>
      cases releases : custody.releases request with
      | some handle =>
          exact ((ledger_step_release obtains releases).mp left).trans
            ((ledger_step_release obtains releases).mp right).symm
      | none =>
          exact ((ledger_step_quiet obtains releases).mp left).trans
            ((ledger_step_quiet obtains releases).mp right).symm

/-- A finer environment, whose worlds show which handles are live, keeps the ledger. -/
theorem ledger_of_view {World : Type} {environment : Environment Call Answer World}
    {permitted : World → Call → Prop} (view : World → Set Handle)
    (steps : ∀ before request answer after, environment.step before request answer after →
      custody.ledger.step (view before) request answer (view after))
    (uses : ∀ world request, permitted world request → custody.UsesLive (view world) request)
    {trace : Trace Call Answer} {before after : World}
    (respected : environment.Respects permitted before trace)
    (followed : environment.Follows before trace after) :
    custody.ledger.Respects custody.UsesLive (view before) trace ∧
      custody.ledger.Follows (view before) trace (view after) := by
  induction trace generalizing before with
  | nil =>
      obtain rfl := followed
      exact ⟨trivial, rfl⟩
  | cons event rest ih =>
      obtain ⟨middle, stepped, following⟩ := followed
      have kept := steps _ _ _ _ stepped
      obtain ⟨respects, follows⟩ := ih (respected.2 middle stepped) following
      refine ⟨⟨uses _ _ respected.1, fun live moved => ?_⟩, ⟨view middle, kept, follows⟩⟩
      exact ledger_deterministic kept moved ▸ respects

abbrev guarantee (custody : Custody Call Answer Handle) : Guarantee Call (Set Handle) :=
  .calls custody.UsesLive

theorem meets_quiet {α : Type} {post : Set Handle → α → Prop} {request : Call}
    {next : Answer request → Program Call Answer α} {live : Set Handle}
    (obtains : ∀ answer, custody.obtains request answer = none)
    (releases : custody.releases request = none) (uses : custody.UsesLive live request)
    (rest : ∀ answer, (next answer).Meets custody.ledger custody.guarantee post live) :
    (Program.call request next).Meets custody.ledger custody.guarantee post live := by
  refine ⟨uses, fun answer after stepped => ?_⟩
  obtain rfl := (ledger_step_quiet (obtains answer) releases).mp stepped
  exact rest answer

theorem meets_release {α : Type} {post : Set Handle → α → Prop} {request : Call}
    {next : Answer request → Program Call Answer α} {live : Set Handle} {handle : Handle}
    (obtains : ∀ answer, custody.obtains request answer = none)
    (releases : custody.releases request = some handle) (held : handle ∈ live)
    (rest : ∀ answer,
      (next answer).Meets custody.ledger custody.guarantee post (live \ {handle})) :
    (Program.call request next).Meets custody.ledger custody.guarantee post live := by
  constructor
  · intro used uses
    rw [custody.uses_of_releases releases] at uses
    exact Option.some.inj uses ▸ held
  · intro answer after stepped
    obtain rfl := (ledger_step_release (obtains answer) releases).mp stepped
    exact rest answer

theorem meets_release_only {α : Type} {post : Set Handle → α → Prop} {request : Call}
    {next : Answer request → Program Call Answer α} {handle : Handle}
    (obtains : ∀ answer, custody.obtains request answer = none)
    (releases : custody.releases request = some handle)
    (rest : ∀ answer, (next answer).Meets custody.ledger custody.guarantee post ∅) :
    (Program.call request next).Meets custody.ledger custody.guarantee post {handle} := by
  refine meets_release obtains releases rfl fun answer => ?_
  rw [Set.sdiff_self]
  exact rest answer

/-- A call that hands nothing out, takes nothing back and uses a live handle if any. -/
structure Quiet (custody : Custody Call Answer Handle) (live : Set Handle) (request : Call) :
    Prop where
  obtains : ∀ answer, custody.obtains request answer = none
  releases : custody.releases request = none
  uses : custody.UsesLive live request

theorem meets_of_quiet {α : Type} {program : Program Call Answer α} {live : Set Handle}
    (quiet : program.Only (custody.Quiet live)) :
    program.Meets custody.ledger custody.guarantee (fun after _ => after = live) live := by
  refine quiet.meets_of_keeps (· = live) ?_ ?_ rfl
  · rintro request calm _ rfl
    exact calm.uses
  · rintro request calm _ answer after rfl stepped
    exact (ledger_step_quiet (calm.obtains answer) calm.releases).mp stepped

section Lifecycle

variable [DecidableEq Handle]

/-- What a call does to one handle: `true` obtains it, `false` releases it. -/
def transfer (custody : Custody Call Answer Handle) (handle : Handle)
    (event : Event Call Answer) : Option Bool :=
  if custody.obtains event.request event.answer = some handle then some true
  else if custody.obtains event.request event.answer = none ∧
      custody.releases event.request = some handle then some false
  else none

def lifecycle (custody : Custody Call Answer Handle) (handle : Handle)
    (trace : Trace Call Answer) : List Bool :=
  trace.filterMap (custody.transfer handle)

end Lifecycle

end Custody

/-- The transfers alternate between obtaining and releasing, from `held` to
`finally`. -/
def Alternates : Prop → List Bool → Prop → Prop
  | held, [], last => held ↔ last
  | held, true :: rest, last => ¬ held ∧ Alternates True rest last
  | held, false :: rest, last => held ∧ Alternates False rest last

namespace Custody

variable {Call : Type} {Answer : Call → Type} {Handle : Type} [DecidableEq Handle]
variable {custody : Custody Call Answer Handle}

/-- Between two uses of the ledger each handle is obtained and released in turn. -/
theorem lifecycle_alternates {live after : Set Handle} {trace : Trace Call Answer}
    (respected : custody.ledger.Respects custody.UsesLive live trace)
    (followed : custody.ledger.Follows live trace after) (handle : Handle) :
    Alternates (handle ∈ live) (custody.lifecycle handle trace) (handle ∈ after) := by
  induction trace generalizing live with
  | nil =>
      obtain rfl := followed
      exact Iff.rfl
  | cons event rest ih =>
      obtain ⟨middle, stepped, following⟩ := followed
      have next := ih (respected.2 middle stepped) following
      unfold lifecycle at next
      rw [lifecycle, List.filterMap_cons]
      cases obtains : custody.obtains event.request event.answer with
      | some other =>
          obtain ⟨fresh, rfl⟩ := (ledger_step_obtain obtains).mp stepped
          by_cases same : other = handle
          · subst same
            simp only [transfer, obtains, ↓reduceIte]
            exact ⟨fresh, by simpa using next⟩
          · simp only [transfer, obtains, Option.some.injEq, same, ↓reduceIte, reduceCtorEq,
              false_and]
            simpa [Ne.symm same] using next
      | none =>
          cases releases : custody.releases event.request with
          | some other =>
              obtain rfl := (ledger_step_release obtains releases).mp stepped
              have live := respected.1 other (custody.uses_of_releases releases)
              by_cases same : other = handle
              · subst same
                simp only [transfer, obtains, releases, reduceCtorEq, ↓reduceIte, and_self]
                exact ⟨live, by simpa using next⟩
              · simp only [transfer, obtains, releases, Option.some.injEq, same, ↓reduceIte,
                  reduceCtorEq, and_false]
                simpa [Ne.symm same] using next
          | none =>
              obtain rfl := (ledger_step_quiet obtains releases).mp stepped
              simpa only [transfer, obtains, releases, reduceCtorEq, ↓reduceIte, and_false]
                using next

end Custody

end DlmsTransport.Interaction
