import DlmsTransport.Interaction.Session
import Mathlib.Logic.Equiv.Defs

/-! Programs that make the same calls up to the names in them. Whatever answers the
one is given, the other takes the same ones and comes to a related result. -/

set_option autoImplicit false

namespace DlmsTransport.Interaction

/-- Other names for calls, which have the same answers. -/
structure Relabelling (Call : Type) (Answer : Call → Type) where
  call : Call → Call
  answer : (request : Call) → Answer request ≃ Answer (call request)

namespace Relabelling

variable {Call : Type} {Answer : Call → Type}

def event (relabelling : Relabelling Call Answer) (event : Event Call Answer) :
    Event Call Answer :=
  ⟨relabelling.call event.request, relabelling.answer event.request event.answer⟩

abbrev trace (relabelling : Relabelling Call Answer) (trace : Trace Call Answer) :
    Trace Call Answer :=
  trace.map relabelling.event

end Relabelling

namespace Program

variable {Call α β γ δ : Type} {Answer : Call → Type} {relabelling : Relabelling Call Answer}

/-- The second program makes the relabelled calls of the first, and `Related` holds
of their results. -/
def Alike (relabelling : Relabelling Call Answer) (Related : α → β → Prop) :
    Program Call Answer α → Program Call Answer β → Prop
  | .done result, second => ∃ other, second = .done other ∧ Related result other
  | .pending, second => second = .pending
  | .call request next, second =>
      ∃ following, second = .call (relabelling.call request) following ∧
        ∀ answer, Alike relabelling Related (next answer)
          (following (relabelling.answer request answer))

theorem Alike.bind {Related : α → β → Prop} {Finally : γ → δ → Prop}
    {first : Program Call Answer α} {second : Program Call Answer β}
    (alike : Alike relabelling Related first second) {left : α → Program Call Answer γ}
    {right : β → Program Call Answer δ}
    (rest : ∀ result other, Related result other →
      Alike relabelling Finally (left result) (right other)) :
    Alike relabelling Finally (first >>= left) (second >>= right) := by
  induction first generalizing second with
  | done result =>
      obtain ⟨other, rfl, related⟩ := alike
      exact rest result other related
  | pending =>
      obtain rfl : second = .pending := alike
      rfl
  | call request next ih =>
      obtain ⟨following, rfl, each⟩ := alike
      exact ⟨_, rfl, fun answer => ih answer (each answer)⟩

theorem Alike.map {Related : α → β → Prop} {Finally : γ → δ → Prop}
    {first : Program Call Answer α} {second : Program Call Answer β}
    (alike : Alike relabelling Related first second) {left : α → γ} {right : β → δ}
    (maps : ∀ result other, Related result other → Finally (left result) (right other)) :
    Alike relabelling Finally (left <$> first) (right <$> second) := by
  rw [map_eq_pure_bind, map_eq_pure_bind]
  exact alike.bind fun result other related => ⟨_, rfl, maps result other related⟩

variable {Related : α → β → Prop} {first : Program Call Answer α}
  {second : Program Call Answer β}

/-- The second program follows the first. -/
theorem Alike.leads {residual : Program Call Answer α} {trace : Trace Call Answer}
    (alike : Alike relabelling Related first second) (leading : Leads first trace residual) :
    ∃ other, Leads second (relabelling.trace trace) other ∧
      Alike relabelling Related residual other := by
  induction leading generalizing second with
  | refl => exact ⟨second, .refl, alike⟩
  | call _ ih =>
      obtain ⟨following, rfl, rest⟩ := alike
      obtain ⟨other, led, alike⟩ := ih (rest _)
      exact ⟨other, .call led, alike⟩

/-- The first program follows the second. -/
theorem Alike.led {residual : Program Call Answer β} {trace : Trace Call Answer}
    (alike : Alike relabelling Related first second) (leading : Leads second trace residual) :
    ∃ original other, trace = relabelling.trace original ∧ Leads first original other ∧
      Alike relabelling Related other residual := by
  induction first generalizing second trace with
  | done result =>
      obtain ⟨other, rfl, related⟩ := alike
      cases leading
      exact ⟨[], _, rfl, .refl, other, rfl, related⟩
  | pending =>
      obtain rfl : second = .pending := alike
      cases leading
      exact ⟨[], _, rfl, .refl, rfl⟩
  | call request next ih =>
      obtain ⟨following, rfl, rest⟩ := alike
      cases leading with
      | refl => exact ⟨[], _, rfl, .refl, following, rfl, rest⟩
      | @call _ _ answer back _ later =>
          obtain ⟨given, rfl⟩ := (relabelling.answer request).surjective answer
          obtain ⟨original, other, rfl, led, alike⟩ := ih given (rest given) later
          exact ⟨⟨request, given⟩ :: original, other, rfl, .call led, alike⟩

theorem Alike.emits {trace : Trace Call Answer} (alike : Alike relabelling Related first second)
    (emitted : Emits first trace) : Emits second (relabelling.trace trace) := by
  obtain ⟨residual, leading⟩ := emitted
  obtain ⟨other, led, _⟩ := alike.leads leading
  exact ⟨other, led⟩

theorem Alike.emitted {trace : Trace Call Answer}
    (alike : Alike relabelling Related first second) (emitted : Emits second trace) :
    ∃ original, trace = relabelling.trace original ∧ Emits first original := by
  obtain ⟨residual, leading⟩ := emitted
  obtain ⟨original, other, rfl, led, _⟩ := alike.led leading
  exact ⟨original, rfl, other, led⟩

theorem Alike.runs {trace : Trace Call Answer} {result : α}
    (alike : Alike relabelling Related first second) (run : Runs first trace result) :
    ∃ other, Runs second (relabelling.trace trace) other ∧ Related result other := by
  obtain ⟨_, led, other, rfl, related⟩ := alike.leads run
  exact ⟨other, led, related⟩

theorem Alike.ran {trace : Trace Call Answer} {other : β}
    (alike : Alike relabelling Related first second) (run : Runs second trace other) :
    ∃ original result, trace = relabelling.trace original ∧ Runs first original result ∧
      Related result other := by
  obtain ⟨original, residual, rfl, led, alike⟩ := alike.led run
  cases residual with
  | done result =>
      obtain ⟨_, same, related⟩ := alike
      cases same
      exact ⟨original, result, rfl, led, related⟩
  | pending => cases alike
  | call =>
      obtain ⟨_, same, _⟩ := alike
      cases same

end Program

section Sessions

variable {Call State Twin Method Reply : Type} {Answer : Call → Type}
  {relabelling : Relabelling Call Answer}
  {invoke : State → Method → Program Call Answer (Reply × State)}
  {perform : Twin → Method → Program Call Answer (Reply × Twin)}
  {Related : State → Twin → Prop}

/-- The two calls are the same one up to relabelling, and leave related objects. -/
structure Matching (relabelling : Relabelling Call Answer) (Related : State → Twin → Prop)
    (left : Invocation State Method Call Answer Reply)
    (right : Invocation Twin Method Call Answer Reply) : Prop where
  method : left.method = right.method
  trace : relabelling.trace left.trace = right.trace
  reply : left.reply = right.reply
  after : Related left.after right.after

/-- Every method runs alike on related objects. -/
def Interchanges (relabelling : Relabelling Call Answer) (Related : State → Twin → Prop)
    (invoke : State → Method → Program Call Answer (Reply × State))
    (perform : Twin → Method → Program Call Answer (Reply × Twin)) (allowed : Method → Prop) :
    Prop :=
  ∀ object twin method, Related object twin → allowed method →
    Program.Alike relabelling (fun left right => left.1 = right.1 ∧ Related left.2 right.2)
      (invoke object method) (perform twin method)

variable {allowed : Method → Prop}
  (interchanges : Interchanges relabelling Related invoke perform allowed)

include interchanges

theorem Session.followed {start final : State} {twin : Twin}
    {history : List (Invocation State Method Call Answer Reply)}
    (session : Session invoke start history final) (related : Related start twin)
    (admitted : ∀ invocation ∈ history, allowed invocation.method) :
    ∃ shadow last, Session perform twin shadow last ∧
      List.Forall₂ (Matching relabelling Related) history shadow ∧ Related final last := by
  induction session generalizing twin with
  | nil => exact ⟨[], twin, .nil, .nil, related⟩
  | @cons before method trace reply after rest final run _ ih =>
      obtain ⟨now, later⟩ := List.forall_mem_cons.mp admitted
      obtain ⟨⟨_, next⟩, ran, rfl, following⟩ :=
        (interchanges before twin method related now).runs run
      obtain ⟨shadow, last, session, matching, still⟩ := ih following later
      exact ⟨⟨twin, method, _, _, next⟩ :: shadow, last, .cons ran session,
        .cons ⟨rfl, rfl, rfl, following⟩ matching, still⟩

theorem Session.shadowed {start : State} {twin last : Twin}
    {shadow : List (Invocation Twin Method Call Answer Reply)}
    (session : Session perform twin shadow last) (related : Related start twin)
    (admitted : ∀ invocation ∈ shadow, allowed invocation.method) :
    ∃ history final, Session invoke start history final ∧
      List.Forall₂ (Matching relabelling Related) history shadow ∧ Related final last := by
  induction session generalizing start with
  | nil => exact ⟨[], start, .nil, .nil, related⟩
  | @cons before method trace reply after rest final run _ ih =>
      obtain ⟨now, later⟩ := List.forall_mem_cons.mp admitted
      obtain ⟨original, ⟨_, next⟩, rfl, ran, rfl, following⟩ :=
        (interchanges start before method related now).ran run
      obtain ⟨history, final, session, matching, still⟩ := ih following later
      exact ⟨⟨start, method, original, _, next⟩ :: history, final, .cons ran session,
        .cons ⟨rfl, rfl, rfl, following⟩ matching, still⟩

end Sessions

end DlmsTransport.Interaction
