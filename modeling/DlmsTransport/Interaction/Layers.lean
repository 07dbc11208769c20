import DlmsTransport.Interaction.Session

/-! Programs over an interface, run on an object that serves the interface by calls on the
one below it. What a program guarantees against an environment it guarantees on every
object that serves it as the environment would. -/

set_option autoImplicit false

namespace DlmsTransport.Interaction

/-- How an object serves an interface: its answer to each call, and the state it leaves. -/
abbrev Service (Call : Type) (Answer : Call → Type) (Below : Type) (Reply : Below → Type)
    (State : Type) :=
  State → (request : Call) → Program Below Reply (Answer request × State)

namespace Program

variable {Call Below State World Ground α β : Type} {Answer : Call → Type} {Reply : Below → Type}
variable {serve : Service Call Answer Below Reply State}

/-- The program with every call served by the object. -/
def servedBy (serve : Service Call Answer Below Reply State) :
    Program Call Answer α → State → Program Below Reply (α × State)
  | .done result, state => .done (result, state)
  | .pending, _ => .pending
  | .call request next, state =>
      serve state request >>= fun served => (next served.1).servedBy serve served.2

@[simp] theorem done_servedBy (result : α) (state : State) :
    (Program.done result : Program Call Answer α).servedBy serve state = .done (result, state) :=
  rfl

@[simp] theorem pending_servedBy (state : State) :
    (Program.pending : Program Call Answer α).servedBy serve state = .pending := rfl

@[simp] theorem call_servedBy (request : Call) (next : Answer request → Program Call Answer α)
    (state : State) :
    (Program.call request next).servedBy serve state =
      serve state request >>= fun served => (next served.1).servedBy serve served.2 := rfl

/-- The object serves the calls of the upper trace, one after the other, by those of the
lower one. -/
inductive Serves (serve : Service Call Answer Below Reply State) :
    State → Trace Call Answer → Trace Below Reply → State → Prop where
  | nil {state} : Serves serve state [] [] state
  | cons {state request answer middle calls rest below after} :
      Runs (serve state request) calls (answer, middle) →
      Serves serve middle rest below after →
      Serves serve state (⟨request, answer⟩ :: rest) (calls ++ below) after

/-- A run on the object is a run of the program whose calls the object serves. -/
theorem runs_servedBy_iff {program : Program Call Answer α} {state after : State}
    {below : Trace Below Reply} {result : α} :
    Runs (program.servedBy serve state) below (result, after) ↔
      ∃ trace, Runs program trace result ∧ Serves serve state trace below after := by
  induction program generalizing state below with
  | done value =>
      rw [done_servedBy, runs_done_pair_iff]
      constructor
      · rintro ⟨rfl, rfl, rfl⟩
        exact ⟨[], .refl, .nil⟩
      · rintro ⟨trace, run, served⟩
        obtain ⟨rfl, rfl⟩ := runs_done_iff.mp run
        cases served
        exact ⟨rfl, rfl, rfl⟩
  | pending => simp
  | call request next ih =>
      rw [call_servedBy, runs_bind_iff]
      constructor
      · rintro ⟨calls, rest, ⟨answer, middle⟩, rfl, served, following⟩
        obtain ⟨trace, run, serves⟩ := ih answer |>.mp following
        exact ⟨_, .call run, .cons served serves⟩
      · rintro ⟨trace, run, serves⟩
        cases run with
        | @call _ _ answer rest _ following =>
            cases serves with
            | @cons _ _ _ middle calls _ below _ served serves =>
                exact ⟨calls, below, (answer, middle), rfl, served,
                  (ih answer).mpr ⟨rest, following, serves⟩⟩

/-- Serving calls by methods of its own, the object goes through a session of them. -/
theorem Serves.session {Method Result : Type}
    {invoke : State → Method → Program Below Reply (Result × State)}
    (calls : ∀ {state request trace answer after},
      Runs (serve state request) trace (answer, after) →
        ∃ method result, Runs (invoke state method) trace (result, after))
    {state after : State} {trace : Trace Call Answer} {below : Trace Below Reply}
    (served : Serves serve state trace below after) :
    ∃ history, Session invoke state history after ∧ sessionTrace history = below := by
  induction served with
  | nil => exact ⟨[], .nil, rfl⟩
  | cons run _ ih =>
      obtain ⟨method, result, called⟩ := calls run
      obtain ⟨history, session, rfl⟩ := ih
      exact ⟨_, .cons called session, rfl⟩

/-- What a program asks for decides what the object asks for on its behalf. -/
theorem Only.servedBy {asked : Call → Prop} {allowed : Below → Prop}
    (serves : ∀ state request, asked request → (serve state request).Only allowed)
    {program : Program Call Answer α} (only : program.Only asked) (state : State) :
    (program.servedBy serve state).Only allowed := by
  induction program generalizing state with
  | done result => trivial
  | pending => trivial
  | call request next ih =>
      exact (serves state request only.1).bind fun served => ih served.1 (only.2 served.1) served.2

/-- The simulation rule: `Stands` relates the environment the program was proved against to
the world below and the object that serves it. -/
theorem Meets.servedBy {environment : Environment Call Answer World}
    {ground : Environment Below Reply Ground} {permitted : World → Call → Prop}
    {allowed : Ground → Below → Prop} (Stands : World → Ground → State → Prop)
    (serves : ∀ world level state request, Stands world level state → permitted world request →
      (serve state request).Meets ground (.calls allowed) (fun after served =>
        ∃ next, environment.step world request served.1 next ∧ Stands next after served.2) level)
    {program : Program Call Answer α} {post : World → α → Prop} {world : World} {level : Ground}
    {state : State} (met : program.Meets environment (.calls permitted) post world)
    (stands : Stands world level state) :
    (program.servedBy serve state).Meets ground (.calls allowed)
      (fun after outcome => ∃ next, post next outcome.1 ∧ Stands next after outcome.2) level := by
  induction program generalizing world level state with
  | done result => exact ⟨world, met, stands⟩
  | pending => trivial
  | call request next ih =>
      obtain ⟨permits, rest⟩ := met
      refine meets_bind_iff.mpr ((serves world level state request stands permits).mono ?_)
      intro after served found
      obtain ⟨following, stepped, stands⟩ := found
      exact ih served.1 (rest served.1 following stepped) stands

end Program

end DlmsTransport.Interaction
