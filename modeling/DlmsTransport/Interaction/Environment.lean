import DlmsTransport.Interaction.Program

/-! Environments as transition relations on the answers they give, and the
rules for what a program guarantees against one: every call is permitted in the
world it is made in, a loop that is still running has kept its promise, and the
result satisfies its postcondition in the world the run ends in. -/

set_option autoImplicit false

namespace DlmsTransport.Interaction

/-- What answers are possible in a world, and the worlds they lead to. -/
structure Environment (Call : Type) (Answer : Call → Type) (World : Type) where
  step : World → (request : Call) → Answer request → World → Prop

/-- What a program owes before it returns: when it makes a call, and when its
iteration budget is spent. -/
structure Guarantee (Call World : Type) where
  permitted : World → Call → Prop
  running : World → Prop

def Guarantee.always {Call World : Type} (property : World → Prop) : Guarantee Call World where
  permitted world _ := property world
  running := property

def Guarantee.calls {Call World : Type} (permitted : World → Call → Prop) :
    Guarantee Call World where
  permitted
  running _ := True

namespace Environment

variable {Call : Type} {Answer : Call → Type} {World : Type}

/-- The environment gives the answers of the trace, moving between two worlds. -/
def Follows (environment : Environment Call Answer World) :
    World → Trace Call Answer → World → Prop
  | before, [], after => before = after
  | before, event :: rest, after =>
      ∃ middle, environment.step before event.request event.answer middle ∧
        environment.Follows middle rest after

/-- Every call of the trace is permitted in whichever world it is made. -/
def Respects (environment : Environment Call Answer World)
    (permitted : World → Call → Prop) : World → Trace Call Answer → Prop
  | _, [] => True
  | before, event :: rest =>
      permitted before event.request ∧
        ∀ middle, environment.step before event.request event.answer middle →
          environment.Respects permitted middle rest

/-- The environment without the answers that are not possible. -/
def assuming (environment : Environment Call Answer World)
    (possible : (request : Call) → Answer request → Prop) : Environment Call Answer World where
  step before request answer after :=
    possible request answer ∧ environment.step before request answer after

variable {environment : Environment Call Answer World}

@[simp] theorem follows_nil_iff {before after : World} :
    environment.Follows before [] after ↔ before = after := Iff.rfl

@[simp] theorem follows_cons_iff {before after : World} {event : Event Call Answer}
    {rest : Trace Call Answer} :
    environment.Follows before (event :: rest) after ↔
      ∃ middle, environment.step before event.request event.answer middle ∧
        environment.Follows middle rest after := Iff.rfl

theorem follows_append_iff {front back : Trace Call Answer} {before after : World} :
    environment.Follows before (front ++ back) after ↔
      ∃ middle, environment.Follows before front middle ∧
        environment.Follows middle back after := by
  induction front generalizing before with
  | nil => simp
  | cons event rest ih =>
      simp only [List.cons_append, follows_cons_iff, ih]
      constructor
      · intro followed
        obtain ⟨first, stepped, middle, head, tail⟩ := followed
        exact ⟨middle, ⟨first, stepped, head⟩, tail⟩
      · intro followed
        obtain ⟨middle, ⟨first, stepped, head⟩, tail⟩ := followed
        exact ⟨first, stepped, middle, head, tail⟩

theorem respects_append {permitted : World → Call → Prop} {front back : Trace Call Answer}
    {before : World} (head : environment.Respects permitted before front)
    (tail : ∀ middle, environment.Follows before front middle →
      environment.Respects permitted middle back) :
    environment.Respects permitted before (front ++ back) := by
  induction front generalizing before with
  | nil => exact tail before rfl
  | cons event rest ih =>
      refine ⟨head.1, fun middle stepped => ih (head.2 middle stepped) ?_⟩
      intro final followed
      exact tail final ⟨middle, stepped, followed⟩

theorem permitted_of_mem {permitted : World → Call → Prop} {trace : Trace Call Answer}
    {before after : World} (respected : environment.Respects permitted before trace)
    (followed : environment.Follows before trace after) {event : Event Call Answer}
    (member : event ∈ trace) : ∃ world, permitted world event.request := by
  induction trace generalizing before with
  | nil => cases member
  | cons first rest ih =>
      obtain ⟨middle, stepped, following⟩ := followed
      rcases List.mem_cons.mp member with rfl | later
      · exact ⟨before, respected.1⟩
      · exact ih (respected.2 middle stepped) following later

end Environment

namespace Program

variable {Call : Type} {Answer : Call → Type} {World α β : Type}

/-- Weakest precondition of a program against an environment. -/
def Meets (environment : Environment Call Answer World) (guarantee : Guarantee Call World)
    (post : World → α → Prop) : Program Call Answer α → World → Prop
  | .done result, world => post world result
  | .pending, world => guarantee.running world
  | .call request next, world =>
      guarantee.permitted world request ∧
        ∀ answer after, environment.step world request answer after →
          Meets environment guarantee post (next answer) after

variable {environment : Environment Call Answer World} {guarantee : Guarantee Call World}

@[simp] theorem meets_done_iff {post : World → α → Prop} {result : α} {world : World} :
    Meets environment guarantee post (.done result) world ↔ post world result := Iff.rfl

@[simp] theorem meets_pending_iff {post : World → α → Prop} {world : World} :
    Meets environment guarantee post .pending world ↔ guarantee.running world := Iff.rfl

@[simp] theorem meets_call_iff {post : World → α → Prop} {request : Call}
    {next : Answer request → Program Call Answer α} {world : World} :
    Meets environment guarantee post (.call request next) world ↔
      guarantee.permitted world request ∧
        ∀ answer after, environment.step world request answer after →
          Meets environment guarantee post (next answer) after := Iff.rfl

theorem meets_bind_iff {post : World → β → Prop} {program : Program Call Answer α}
    {continuation : α → Program Call Answer β} {world : World} :
    Meets environment guarantee post (program >>= continuation) world ↔
      Meets environment guarantee
        (fun after result => Meets environment guarantee post (continuation result) after)
        program world := by
  induction program generalizing world with
  | done => rfl
  | pending => exact Iff.rfl
  | call request next ih => simp only [call_bind, meets_call_iff, ih]

theorem meets_map_iff {post : World → β → Prop} {program : Program Call Answer α} {f : α → β}
    {world : World} :
    Meets environment guarantee post (f <$> program) world ↔
      Meets environment guarantee (fun after value => post after (f value)) program world := by
  rw [map_eq_pure_bind, meets_bind_iff]
  rfl

theorem Meets.mono {weaker stronger : World → α → Prop} {program : Program Call Answer α}
    {world : World} (met : Meets environment guarantee stronger program world)
    (implies : ∀ after result, stronger after result → weaker after result) :
    Meets environment guarantee weaker program world := by
  induction program generalizing world with
  | done result => exact implies world result met
  | pending => exact met
  | call request next ih =>
      exact ⟨met.1, fun answer after stepped => ih answer (met.2 answer after stepped)⟩

/-- What has been met survives any part of a run. -/
theorem Meets.leads {post : World → α → Prop} {program residual : Program Call Answer α}
    {trace : Trace Call Answer} {before after : World}
    (met : Meets environment guarantee post program before)
    (leading : Leads program trace residual)
    (followed : environment.Follows before trace after) :
    Meets environment guarantee post residual after := by
  induction leading generalizing before with
  | refl => exact followed ▸ met
  | call _ ih =>
      obtain ⟨middle, stepped, rest⟩ := followed
      exact ih (met.2 _ middle stepped) rest

theorem Meets.assuming {post : World → α → Prop} {program : Program Call Answer α}
    {world : World} (met : Meets environment guarantee post program world)
    (possible : (request : Call) → Answer request → Prop) :
    Meets (environment.assuming possible) guarantee post program world := by
  induction program generalizing world with
  | done => exact met
  | pending => exact met
  | call request next ih =>
      exact ⟨met.1, fun answer after stepped => ih answer (met.2 answer after stepped.2)⟩

theorem Meets.runs {post : World → α → Prop} {program : Program Call Answer α}
    {trace : Trace Call Answer} {result : α} {before after : World}
    (met : Meets environment guarantee post program before)
    (run : Runs program trace result) (followed : environment.Follows before trace after) :
    post after result :=
  met.leads run followed

theorem Meets.respects {post : World → α → Prop} {program : Program Call Answer α}
    {trace : Trace Call Answer} {before : World}
    (met : Meets environment guarantee post program before) (emitted : Emits program trace) :
    environment.Respects guarantee.permitted before trace := by
  obtain ⟨residual, leading⟩ := emitted
  induction leading generalizing before with
  | refl => trivial
  | call _ ih => exact ⟨met.1, fun middle stepped => ih (met.2 _ middle stepped)⟩

theorem Meets.always {property : World → Prop} {post : World → α → Prop}
    {program : Program Call Answer α} {trace : Trace Call Answer} {before after : World}
    (met : Meets environment (.always property) post program before)
    (result : ∀ world value, post world value → property world)
    (emitted : Emits program trace) (followed : environment.Follows before trace after) :
    property after := by
  obtain ⟨residual, leading⟩ := emitted
  have reached := met.leads leading followed
  cases residual with
  | done value => exact result after value reached
  | call request next => exact reached.1
  | pending => exact reached

/-- What every run ensures may be added to what is met. -/
theorem Meets.ensuring {post : World → α → Prop} {known : Trace Call Answer → α → Prop}
    {program : Program Call Answer α} {world : World}
    (met : Meets environment guarantee post program world) (ensured : Ensures program known) :
    Meets environment guarantee
      (fun after result => post after result ∧ ∃ trace, known trace result) program world := by
  induction program generalizing world known with
  | done result => exact ⟨met, [], ensures_done_iff.mp ensured⟩
  | pending => exact met
  | call request next ih =>
      refine ⟨met.1, fun answer after stepped => ?_⟩
      apply (ih answer (met.2 answer after stepped) (ensures_call_iff.mp ensured answer)).mono
      intro final result held
      obtain ⟨held, trace, knows⟩ := held
      exact ⟨held, _, knows⟩

/-- A program whose calls are permitted in every world meets what it ensures. -/
theorem Only.meets {allowed : Call → Prop} {permitted : World → Call → Prop}
    {post : Trace Call Answer → α → Prop} {program : Program Call Answer α}
    (only : Only allowed program) (ensured : Ensures program post)
    (permits : ∀ request, allowed request → ∀ world, permitted world request) {before : World} :
    Meets environment (.calls permitted)
      (fun after result => ∃ trace, environment.Follows before trace after ∧ post trace result)
      program before := by
  induction program generalizing before post with
  | done result => exact ⟨[], rfl, ensures_done_iff.mp ensured⟩
  | pending => trivial
  | call request next ih =>
      refine ⟨permits request only.1 before, fun answer middle stepped => ?_⟩
      apply (ih answer (only.2 answer) (ensures_call_iff.mp ensured answer)).mono
      intro after result met
      obtain ⟨trace, followed, held⟩ := met
      exact ⟨_ :: trace, ⟨middle, stepped, followed⟩, held⟩

/-- A program whose calls all keep a property, which permits them, meets it throughout. -/
theorem Only.meets_of_keeps {allowed : Call → Prop} {permitted : World → Call → Prop}
    (Holds : World → Prop)
    (permits : ∀ request, allowed request → ∀ world, Holds world → permitted world request)
    (keeps : ∀ request, allowed request → ∀ world answer after, Holds world →
      environment.step world request answer after → Holds after)
    {program : Program Call Answer α} (only : Only allowed program) {before : World}
    (initial : Holds before) :
    Meets environment (.calls permitted) (fun after _ => Holds after) program before := by
  induction program generalizing before with
  | done result => exact initial
  | pending => trivial
  | call request next ih =>
      refine ⟨permits request only.1 before initial, fun answer middle stepped => ?_⟩
      exact ih answer (only.2 answer) (keeps request only.1 before answer middle initial stepped)

/-- What every call of one kind preserves, a program of such calls preserves. -/
theorem Only.follows {allowed : Call → Prop} (Holds : World → Prop)
    (keeps : ∀ request, allowed request → ∀ world answer after, Holds world →
      environment.step world request answer after → Holds after)
    {program residual : Program Call Answer α} (only : Only allowed program)
    {trace : Trace Call Answer} (leading : Leads program trace residual) {before after : World}
    (followed : environment.Follows before trace after) (initial : Holds before) : Holds after := by
  induction leading generalizing before with
  | refl => exact followed ▸ initial
  | call _ ih =>
      obtain ⟨middle, stepped, rest⟩ := followed
      exact ih (only.2 _) rest (keeps _ only.1 _ _ _ initial stepped)

end Program

end DlmsTransport.Interaction
