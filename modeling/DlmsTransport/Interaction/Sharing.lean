import DlmsTransport.Interaction.Custody
import Mathlib.Data.Set.Lattice
import Mathlib.Logic.Function.Basic
import Mathlib.Order.CompletePartialOrder

/-! Handles divided among owners. What a program does to one share it does to the
whole ledger, and the shares of the others stay as they are. -/

set_option autoImplicit false

namespace DlmsTransport.Interaction.Custody

variable {Call Handle Owner : Type} {Answer : Call → Type} {custody : Custody Call Answer Handle}

private theorem disjoint_insert {own frame : Set Handle} {handle : Handle}
    (apart : Disjoint own frame) (fresh : handle ∉ own ∪ frame) :
    Disjoint (insert handle own) frame :=
  Set.disjoint_insert_left.mpr ⟨fun framed => fresh (.inr framed), apart⟩

/-- A step among handles of which some belong to a frame is a step among the others, as
long as it uses none of the frame. -/
private theorem step_frame {request : Call} {answer : Answer request}
    {own frame after : Set Handle} (apart : Disjoint own frame)
    (uses : custody.UsesLive own request)
    (stepped : custody.ledger.step (own ∪ frame) request answer after) :
    ∃ kept, custody.ledger.step own request answer kept ∧ after = kept ∪ frame ∧
      Disjoint kept frame := by
  cases obtains : custody.obtains request answer with
  | some handle =>
      obtain ⟨fresh, rfl⟩ := (ledger_step_obtain obtains).mp stepped
      have unheld : handle ∉ own := fun held => fresh (.inl held)
      refine ⟨insert handle own, (ledger_step_obtain obtains).mpr ⟨unheld, rfl⟩, ?_, ?_⟩
      · rw [Set.insert_union]
      · exact disjoint_insert apart fresh
  | none =>
      cases releases : custody.releases request with
      | some handle =>
          obtain rfl := (ledger_step_release obtains releases).mp stepped
          have held := uses handle (custody.uses_of_releases releases)
          have unframed : handle ∉ frame := Set.disjoint_left.mp apart held
          refine ⟨own \ {handle}, (ledger_step_release obtains releases).mpr rfl, ?_, ?_⟩
          · rw [Set.union_sdiff_distrib, Set.sdiff_singleton_eq_self unframed]
          · exact apart.mono_left Set.sdiff_subset
      | none =>
          obtain rfl := (ledger_step_quiet obtains releases).mp stepped
          exact ⟨own, (ledger_step_quiet obtains releases).mpr rfl, rfl, apart⟩

/-- The frame rule: handles the program does not hold are neither used nor released
by it, and are not handed out again while they are live. -/
theorem meets_frame {α : Type} {post : Set Handle → α → Prop} {program : Program Call Answer α}
    {own frame : Set Handle} (apart : Disjoint own frame)
    (met : program.Meets custody.ledger custody.guarantee post own) :
    program.Meets custody.ledger custody.guarantee
      (fun after result => ∃ kept, after = kept ∪ frame ∧ Disjoint kept frame ∧ post kept result)
      (own ∪ frame) := by
  induction program generalizing own with
  | done result => exact ⟨own, rfl, apart, met⟩
  | pending => trivial
  | call request next ih =>
      obtain ⟨uses, rest⟩ := met
      refine ⟨fun handle used => .inl (uses handle used), fun answer after stepped => ?_⟩
      obtain ⟨kept, taken, rfl, apart⟩ := step_frame apart uses stepped
      exact ih answer apart (rest answer kept taken)

/-- The trace of a program that may use its own handles uses none of the frame. -/
theorem avoids_frame {own frame after : Set Handle} {trace : Trace Call Answer}
    (apart : Disjoint own frame) (respected : custody.ledger.Respects custody.UsesLive own trace)
    (followed : custody.ledger.Follows (own ∪ frame) trace after) {event : Event Call Answer}
    (member : event ∈ trace) {handle : Handle} (framed : handle ∈ frame) :
    custody.uses event.request ≠ some handle := by
  induction trace generalizing own with
  | nil => cases member
  | cons first rest ih =>
      obtain ⟨middle, stepped, following⟩ := followed
      obtain ⟨uses, later⟩ := respected
      rcases List.mem_cons.mp member with rfl | member
      · exact fun used => Set.disjoint_left.mp apart (uses handle used) framed
      · obtain ⟨kept, taken, rfl, apart⟩ := step_frame apart uses stepped
        exact ih apart (later kept taken) following member

/-- The live handles are those in the shares, and no two shares meet. -/
structure Divides (share : Owner → Set Handle) (live : Set Handle) : Prop where
  mem_iff : ∀ {handle}, handle ∈ live ↔ ∃ owner, handle ∈ share owner
  sole : ∀ {handle first second}, handle ∈ share first → handle ∈ share second → first = second

def others (share : Owner → Set Handle) (owner : Owner) : Set Handle :=
  {handle | ∃ other, other ≠ owner ∧ handle ∈ share other}

namespace Divides

variable {share : Owner → Set Handle} {live : Set Handle}

theorem unique (divides : Divides share live) {handle : Handle} (held : handle ∈ live) :
    ∃! owner, handle ∈ share owner := by
  obtain ⟨owner, shared⟩ := divides.mem_iff.mp held
  exact ⟨owner, shared, fun other also => divides.sole also shared⟩

theorem eq_union (divides : Divides share live) (owner : Owner) :
    live = share owner ∪ others share owner := by
  ext handle
  rw [divides.mem_iff]
  constructor
  · intro shared
    obtain ⟨holder, held⟩ := shared
    by_cases same : holder = owner
    · exact .inl (same ▸ held)
    · exact .inr ⟨holder, same, held⟩
  · intro either
    rcases either with own | ⟨other, _, held⟩
    · exact ⟨owner, own⟩
    · exact ⟨other, held⟩

theorem apart (divides : Divides share live) (owner : Owner) :
    Disjoint (share owner) (others share owner) := by
  apply Set.disjoint_left.mpr
  intro handle own elsewhere
  obtain ⟨other, different, held⟩ := elsewhere
  exact different (divides.sole held own)

/-- A trace of a program that met its guarantee on one share uses no handle of another. -/
theorem avoids (divides : Divides share live) (owner : Owner) {trace : Trace Call Answer}
    (respected : custody.ledger.Respects custody.UsesLive (share owner) trace)
    {after : Set Handle} (followed : custody.ledger.Follows live trace after)
    {event : Event Call Answer} (member : event ∈ trace) {other : Owner} (different : other ≠ owner)
    {handle : Handle} (held : handle ∈ share other) : custody.uses event.request ≠ some handle := by
  rw [divides.eq_union owner] at followed
  exact avoids_frame (divides.apart owner) respected followed member ⟨other, different, held⟩

variable [DecidableEq Owner]

theorem update (divides : Divides share live) (owner : Owner) {kept : Set Handle}
    (apart : Disjoint kept (others share owner)) :
    Divides (Function.update share owner kept) (kept ∪ others share owner) where
  mem_iff := by
    intro handle
    constructor
    · intro either
      rcases either with own | ⟨other, different, held⟩
      · exact ⟨owner, by simpa using own⟩
      · exact ⟨other, by simpa [different] using held⟩
    · intro shared
      obtain ⟨holder, held⟩ := shared
      by_cases same : holder = owner
      · subst same
        exact .inl (by simpa using held)
      · exact .inr ⟨holder, same, by simpa [same] using held⟩
  sole := by
    have elsewhere {handle other} (different : other ≠ owner)
        (held : handle ∈ Function.update share owner kept other) :
        handle ∈ share other ∧ handle ∉ kept := by
      have held : handle ∈ share other := by simpa [different] using held
      exact ⟨held, Set.disjoint_right.mp apart ⟨other, different, held⟩⟩
    intro handle first second left right
    by_cases here : first = owner
    · subst here
      by_cases there : second = first
      · exact there.symm
      · exact absurd (by simpa using left) (elsewhere there right).2
    · by_cases there : second = owner
      · subst there
        exact absurd (by simpa using right) (elsewhere here left).2
      · exact divides.sole (elsewhere here left).1 (elsewhere there right).1

/-- A program that meets its guarantee on one share meets it on the whole. -/
theorem operate (divides : Divides share live) (owner : Owner) {α : Type}
    {post : Set Handle → α → Prop} {program : Program Call Answer α}
    (met : program.Meets custody.ledger custody.guarantee post (share owner)) :
    program.Meets custody.ledger custody.guarantee
      (fun after result => ∃ kept, Divides (Function.update share owner kept) after ∧
        post kept result) live := by
  have framed := meets_frame (divides.apart owner) met
  rw [← divides.eq_union owner] at framed
  apply framed.mono
  intro after result held
  obtain ⟨kept, rfl, apart, met⟩ := held
  exact ⟨kept, divides.update owner apart, met⟩

theorem update_empty (divides : Divides share live) {owner : Owner} (empty : share owner = ∅) :
    Divides (Function.update share owner ∅) live := by
  rw [← empty, Function.update_eq_self]
  exact divides

/-- A new handle goes to an owner that holds none. -/
theorem grant (divides : Divides share live) {owner : Owner} (empty : share owner = ∅)
    {handle : Handle} (fresh : handle ∉ live) :
    Divides (Function.update share owner {handle}) (insert handle live) := by
  have rest : others share owner = live := by
    rw [divides.eq_union owner, empty, Set.empty_union]
  have granted := divides.update owner (Set.disjoint_singleton_left.mpr (rest ▸ fresh))
  rwa [rest] at granted

end Divides

end DlmsTransport.Interaction.Custody
