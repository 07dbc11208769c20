import Mathlib.Data.List.Basic

/-! Sequential programs as trees of the calls they make on an environment.
Nothing is assumed about how the environment answers: a run of a program is any
path through its tree, and the calls on the path are its trace. -/

set_option autoImplicit false

namespace DlmsTransport.Interaction

/-- A program that issues calls and continues with their answers. `pending`
ends the finite unfolding of a loop whose iteration budget is spent: the
program is still running there and has produced no result. -/
inductive Program (Call : Type) (Answer : Call → Type) (Result : Type) where
  | done (result : Result)
  | call (request : Call) (next : Answer request → Program Call Answer Result)
  | pending

structure Event (Call : Type) (Answer : Call → Type) where
  request : Call
  answer : Answer request

abbrev Trace (Call : Type) (Answer : Call → Type) := List (Event Call Answer)

namespace Program

variable {Call : Type} {Answer : Call → Type} {α β γ : Type}

protected def bind : Program Call Answer α → (α → Program Call Answer β) →
    Program Call Answer β
  | .done result, continuation => continuation result
  | .call request next, continuation =>
      .call request fun answer => (next answer).bind continuation
  | .pending, _ => .pending

instance : Monad (Program Call Answer) where
  pure := .done
  bind := Program.bind

def ask (request : Call) : Program Call Answer (Answer request) :=
  .call request .done

@[simp] theorem pure_eq (result : α) :
    (pure result : Program Call Answer α) = .done result := rfl

@[simp] theorem done_bind (result : α) (continuation : α → Program Call Answer β) :
    (Program.done result >>= continuation) = continuation result := rfl

@[simp] theorem call_bind (request : Call) (next : Answer request → Program Call Answer α)
    (continuation : α → Program Call Answer β) :
    (Program.call request next >>= continuation) =
      .call request fun answer => next answer >>= continuation := rfl

@[simp] theorem pending_bind (continuation : α → Program Call Answer β) :
    (Program.pending >>= continuation) = .pending := rfl

@[simp] theorem ask_bind (request : Call)
    (continuation : Answer request → Program Call Answer β) :
    (ask request >>= continuation) = .call request continuation := rfl

instance : LawfulMonad (Program Call Answer) := by
  refine LawfulMonad.mk' (Program Call Answer) ?_ ?_ ?_
  · intro α program
    change program >>= Program.done = program
    induction program with
    | done => rfl
    | call request next ih => exact congrArg (Program.call request) (funext ih)
    | pending => rfl
  · intro α β result continuation
    rfl
  · intro α β γ program first second
    induction program with
    | done => rfl
    | call request next ih => exact congrArg (Program.call request) (funext ih)
    | pending => rfl

/-- `Leads program trace residual`: after the calls of `trace`, answered as
recorded there, `program` has become `residual`. -/
inductive Leads : Program Call Answer α → Trace Call Answer → Program Call Answer α → Prop where
  | refl {program} : Leads program [] program
  | call {request next answer trace residual} :
      Leads (next answer) trace residual →
      Leads (.call request next) (⟨request, answer⟩ :: trace) residual

/-- A complete run: the calls made from start to result. -/
def Runs (program : Program Call Answer α) (trace : Trace Call Answer) (result : α) : Prop :=
  Leads program trace (.done result)

/-- A run that may have stopped anywhere, complete or not. -/
def Emits (program : Program Call Answer α) (trace : Trace Call Answer) : Prop :=
  ∃ residual, Leads program trace residual

theorem Leads.trans {first second third : Program Call Answer α}
    {front back : Trace Call Answer}
    (leading : Leads first front second) (following : Leads second back third) :
    Leads first (front ++ back) third := by
  induction leading with
  | refl => exact following
  | call _ ih => exact .call (ih following)

theorem Leads.bind {program residual : Program Call Answer α} {trace : Trace Call Answer}
    (leading : Leads program trace residual) (continuation : α → Program Call Answer β) :
    Leads (program >>= continuation) trace (residual >>= continuation) := by
  induction leading with
  | refl => exact .refl
  | call _ ih => exact .call ih

theorem Runs.emits {program : Program Call Answer α} {trace : Trace Call Answer} {result : α}
    (run : Runs program trace result) : Emits program trace :=
  ⟨_, run⟩

@[simp] theorem leads_nil_iff {program residual : Program Call Answer α} :
    Leads program [] residual ↔ program = residual := by
  constructor
  · intro leading
    cases leading
    rfl
  · rintro rfl
    exact .refl

@[simp] theorem runs_done_iff {result expected : α} {trace : Trace Call Answer} :
    Runs (.done result) trace expected ↔ trace = [] ∧ result = expected := by
  constructor
  · intro run
    cases run
    exact ⟨rfl, rfl⟩
  · rintro ⟨rfl, rfl⟩
    exact .refl

/-- The end of a method call, which returns its result beside the state it leaves. -/
theorem runs_done_pair_iff {result expected : α} {state after : β}
    {trace : Trace Call Answer} :
    Runs (.done (result, state)) trace (expected, after) ↔
      trace = [] ∧ result = expected ∧ state = after := by
  rw [runs_done_iff, Prod.mk.injEq]

@[simp] theorem runs_pending_iff {result : α} {trace : Trace Call Answer} :
    Runs (.pending : Program Call Answer α) trace result ↔ False := by
  constructor
  · intro run
    cases run
  · exact False.elim

@[simp] theorem runs_call_iff {request : Call} {next : Answer request → Program Call Answer α}
    {trace : Trace Call Answer} {result : α} :
    Runs (.call request next) trace result ↔
      ∃ answer rest, trace = ⟨request, answer⟩ :: rest ∧ Runs (next answer) rest result := by
  constructor
  · intro run
    cases run with
    | call following => exact ⟨_, _, rfl, following⟩
  · intro answered
    obtain ⟨answer, rest, rfl, following⟩ := answered
    exact .call following

@[simp] theorem runs_ask_iff {request : Call} {trace : Trace Call Answer}
    {answer : Answer request} : Runs (ask request) trace answer ↔ trace = [⟨request, answer⟩] := by
  simp [ask]

/-- A run of a sequence is a run of its first part followed by a run of the rest. -/
theorem runs_bind_iff {program : Program Call Answer α}
    {continuation : α → Program Call Answer β} {trace : Trace Call Answer} {result : β} :
    Runs (program >>= continuation) trace result ↔
      ∃ front back middle, trace = front ++ back ∧ Runs program front middle ∧
        Runs (continuation middle) back result := by
  constructor
  · intro run
    induction program generalizing trace with
    | done value => exact ⟨[], trace, value, rfl, .refl, run⟩
    | pending => simp at run
    | call request next ih =>
        simp only [call_bind, runs_call_iff] at run
        obtain ⟨answer, rest, rfl, following⟩ := run
        obtain ⟨front, back, middle, rfl, head, tail⟩ := ih answer following
        exact ⟨_ :: front, back, middle, rfl, .call head, tail⟩
  · intro composed
    obtain ⟨front, back, middle, rfl, head, tail⟩ := composed
    exact (Leads.bind head continuation).trans tail

/-- What a program can still do is a run of what it has become. -/
theorem Leads.runs_append_iff {first second : Program Call Answer α}
    {front back : Trace Call Answer} {result : α} (leading : Leads first front second) :
    Runs first (front ++ back) result ↔ Runs second back result := by
  induction leading with
  | refl => exact Iff.rfl
  | call _ ih =>
      rw [← ih, List.cons_append, runs_call_iff]
      constructor
      · intro answered
        obtain ⟨_, _, same, following⟩ := answered
        cases same
        exact following
      · intro following
        exact ⟨_, _, rfl, following⟩

@[simp] theorem done_map (f : α → β) (result : α) :
    f <$> (Program.done result : Program Call Answer α) = .done (f result) := rfl

@[simp] theorem call_map (f : α → β) (request : Call)
    (next : Answer request → Program Call Answer α) :
    f <$> Program.call request next = .call request fun answer => f <$> next answer := rfl

theorem runs_map_iff {program : Program Call Answer α} {f : α → β}
    {trace : Trace Call Answer} {result : β} :
    Runs (f <$> program) trace result ↔ ∃ value, Runs program trace value ∧ f value = result := by
  rw [map_eq_pure_bind, runs_bind_iff]
  simp only [pure_eq, runs_done_iff]
  constructor
  · intro composed
    obtain ⟨front, _, value, rfl, run, rfl, mapped⟩ := composed
    exact ⟨value, by simpa using run, mapped⟩
  · intro composed
    obtain ⟨value, run, mapped⟩ := composed
    exact ⟨trace, [], value, by simp, run, rfl, mapped⟩

theorem runs_prodMap_iff {State After : Type} {program : Program Call Answer (α × State)}
    {f : α → β} {g : State → After} {trace : Trace Call Answer} {result : β} {after : After} :
    Runs (Prod.map f g <$> program) trace (result, after) ↔
      ∃ value state, Runs program trace (value, state) ∧ f value = result ∧ g state = after := by
  simp [runs_map_iff]

@[simp] theorem emits_nil (program : Program Call Answer α) : Emits program [] :=
  ⟨program, .refl⟩

@[simp] theorem emits_done_iff {result : α} {trace : Trace Call Answer} :
    Emits (.done result) trace ↔ trace = [] := by
  constructor
  · intro emitted
    obtain ⟨residual, leading⟩ := emitted
    cases leading
    rfl
  · rintro rfl
    exact emits_nil _

@[simp] theorem emits_pending_iff {trace : Trace Call Answer} :
    Emits (.pending : Program Call Answer α) trace ↔ trace = [] := by
  constructor
  · intro emitted
    obtain ⟨residual, leading⟩ := emitted
    cases leading
    rfl
  · rintro rfl
    exact emits_nil _

@[simp] theorem emits_call_iff {request : Call} {next : Answer request → Program Call Answer α}
    {trace : Trace Call Answer} :
    Emits (.call request next) trace ↔
      trace = [] ∨ ∃ answer rest, trace = ⟨request, answer⟩ :: rest ∧
        Emits (next answer) rest := by
  constructor
  · intro emitted
    obtain ⟨residual, leading⟩ := emitted
    cases leading with
    | refl => exact .inl rfl
    | call following => exact .inr ⟨_, _, rfl, _, following⟩
  · intro emitted
    rcases emitted with rfl | ⟨answer, rest, rfl, residual, following⟩
    · exact emits_nil _
    · exact ⟨residual, .call following⟩

@[simp] theorem pending_map (f : α → β) :
    f <$> (Program.pending : Program Call Answer α) = .pending := rfl

theorem emits_map_iff {program : Program Call Answer α} {f : α → β}
    {trace : Trace Call Answer} : Emits (f <$> program) trace ↔ Emits program trace := by
  induction program generalizing trace with
  | done result => simp
  | pending => simp
  | call request next ih => simp [ih]

/-- Every complete run satisfies the postcondition on its trace and result. The
rules below execute a program forwards, one call at a time. -/
def Ensures (program : Program Call Answer α) (post : Trace Call Answer → α → Prop) : Prop :=
  ∀ trace result, Runs program trace result → post trace result

@[simp] theorem ensures_done_iff {result : α} {post : Trace Call Answer → α → Prop} :
    Ensures (.done result) post ↔ post [] result := by
  simp [Ensures]

@[simp] theorem ensures_pending (post : Trace Call Answer → α → Prop) :
    Ensures (.pending : Program Call Answer α) post := by
  simp [Ensures]

theorem ensures_call_iff {request : Call} {next : Answer request → Program Call Answer α}
    {post : Trace Call Answer → α → Prop} :
    Ensures (.call request next) post ↔
      ∀ answer, Ensures (next answer) fun trace => post (⟨request, answer⟩ :: trace) := by
  constructor
  · intro ensured answer trace result run
    exact ensured _ _ (.call run)
  · intro ensured trace result run
    obtain ⟨answer, rest, rfl, following⟩ := runs_call_iff.mp run
    exact ensured answer rest result following

theorem ensures_bind_iff {program : Program Call Answer α}
    {continuation : α → Program Call Answer β} {post : Trace Call Answer → β → Prop} :
    Ensures (program >>= continuation) post ↔
      Ensures program fun front middle =>
        Ensures (continuation middle) fun back => post (front ++ back) := by
  constructor
  · intro ensured front middle head back result tail
    exact ensured _ _ (runs_bind_iff.mpr ⟨front, back, middle, rfl, head, tail⟩)
  · intro ensured trace result run
    obtain ⟨front, back, middle, rfl, head, tail⟩ := runs_bind_iff.mp run
    exact ensured front middle head back result tail

theorem ensures_map_iff {program : Program Call Answer α} {f : α → β}
    {post : Trace Call Answer → β → Prop} :
    Ensures (f <$> program) post ↔ Ensures program fun trace value => post trace (f value) := by
  simp [Ensures, runs_map_iff]

theorem Ensures.mono {stronger weaker : Trace Call Answer → α → Prop}
    {program : Program Call Answer α} (ensured : Ensures program stronger)
    (implies : ∀ trace result, stronger trace result → weaker trace result) :
    Ensures program weaker :=
  fun trace result run => implies trace result (ensured trace result run)

/-- Every call the program may make, after whatever calls it made before, is
permitted there. The call need not have been answered. -/
def EveryCall (program : Program Call Answer α) (permitted : Trace Call Answer → Call → Prop) :
    Prop :=
  ∀ trace request next, Leads program trace (.call request next) → permitted trace request

@[simp] theorem everyCall_done (result : α) (permitted : Trace Call Answer → Call → Prop) :
    EveryCall (.done result : Program Call Answer α) permitted := by
  intro trace request next leading
  cases leading

@[simp] theorem everyCall_pending (permitted : Trace Call Answer → Call → Prop) :
    EveryCall (.pending : Program Call Answer α) permitted := by
  intro trace request next leading
  cases leading

theorem everyCall_call_iff {request : Call} {next : Answer request → Program Call Answer α}
    {permitted : Trace Call Answer → Call → Prop} :
    EveryCall (.call request next) permitted ↔
      permitted [] request ∧ ∀ answer,
        EveryCall (next answer) fun trace => permitted (⟨request, answer⟩ :: trace) := by
  constructor
  · intro every
    exact ⟨every [] request next .refl,
      fun answer trace later continued leading => every _ later continued (.call leading)⟩
  · intro every trace later continued leading
    obtain ⟨first, rest⟩ := every
    cases leading with
    | refl => exact first
    | call following => exact rest _ _ later continued following

theorem EveryCall.bind {permitted : Trace Call Answer → Call → Prop}
    {program : Program Call Answer α} {continuation : α → Program Call Answer β}
    (first : EveryCall program permitted)
    (rest : ∀ front middle, Runs program front middle →
      EveryCall (continuation middle) fun back => permitted (front ++ back)) :
    EveryCall (program >>= continuation) permitted := by
  induction program generalizing permitted with
  | done result => exact rest [] result .refl
  | pending => exact everyCall_pending permitted
  | call request next ih =>
      obtain ⟨permits, following⟩ := everyCall_call_iff.mp first
      rw [call_bind, everyCall_call_iff]
      refine ⟨permits, fun answer => ih answer (following answer) ?_⟩
      intro front middle run
      exact rest _ middle (.call run)

/-- The program makes calls of one kind only, whatever the answers are. -/
def Only (allowed : Call → Prop) : Program Call Answer α → Prop
  | .done _ | .pending => True
  | .call request next => allowed request ∧ ∀ answer, Only allowed (next answer)

theorem only_call_iff {allowed : Call → Prop} {request : Call}
    {next : Answer request → Program Call Answer α} :
    Only allowed (.call request next) ↔ allowed request ∧ ∀ answer, Only allowed (next answer) :=
  Iff.rfl

theorem Only.bind {allowed : Call → Prop} {program : Program Call Answer α}
    {continuation : α → Program Call Answer β} (first : Only allowed program)
    (rest : ∀ result, Only allowed (continuation result)) :
    Only allowed (program >>= continuation) := by
  induction program with
  | done result => exact rest result
  | pending => trivial
  | call request next ih => exact ⟨first.1, fun answer => ih answer (first.2 answer)⟩

theorem Only.map {allowed : Call → Prop} {program : Program Call Answer α} {f : α → β}
    (only : Only allowed program) : Only allowed (f <$> program) := by
  rw [map_eq_pure_bind]
  exact only.bind fun _ => trivial

theorem Only.mono {allowed wider : Call → Prop} {program : Program Call Answer α}
    (only : Only allowed program) (widens : ∀ request, allowed request → wider request) :
    Only wider program := by
  induction program with
  | done | pending => trivial
  | call request next ih =>
      exact ⟨widens request only.1, fun answer => ih answer (only.2 answer)⟩

theorem only_true (program : Program Call Answer α) : program.Only fun _ => True := by
  induction program with
  | done | pending => trivial
  | call request next ih => exact ⟨trivial, ih⟩

theorem Only.mem {allowed : Call → Prop} {program residual : Program Call Answer α}
    {trace : Trace Call Answer} (only : Only allowed program)
    (leading : Leads program trace residual) : ∀ event ∈ trace, allowed event.request := by
  induction leading with
  | refl => simp
  | call _ ih => exact List.forall_mem_cons.mpr ⟨only.1, ih (only.2 _)⟩

end Program

end DlmsTransport.Interaction
