import DlmsTransport.Interaction.Session
import Mathlib.Logic.Function.Basic

/-! Parties that call on one medium. Their calls are answered in any order, and between
two calls the medium may change by itself; a party sees its own calls only. -/

set_option autoImplicit false

namespace DlmsTransport.Interaction

/-- How a medium answers each of its parties, and how it changes unasked. -/
structure Medium (Party Call : Type) (Answer : Call → Type) (World : Type) where
  step : World → Party → (request : Call) → Answer request → World → Prop
  drift : World → World → Prop

namespace Medium

variable {Party Call World : Type} {Answer : Call → Type} [DecidableEq Party]

/-- What the parties have seen once one of them has seen one event more. -/
def extend (views : Party → Trace Call Answer) (party : Party) (event : Event Call Answer) :
    Party → Trace Call Answer :=
  Function.update views party (views party ++ [event])

@[simp] theorem extend_self (views : Party → Trace Call Answer) (party : Party)
    (event : Event Call Answer) : extend views party event party = views party ++ [event] :=
  Function.update_self ..

theorem extend_of_ne (views : Party → Trace Call Answer) {party other : Party}
    (different : other ≠ party) (event : Event Call Answer) :
    extend views party event other = views other :=
  Function.update_of_ne different ..

/-- Some interleaving of the calls of `views` takes the medium to `world`. -/
inductive Carries (medium : Medium Party Call Answer World) (start : World) :
    (Party → Trace Call Answer) → World → Prop where
  | start : Carries medium start (fun _ => []) start
  | answered {views world party request answer after} :
      Carries medium start views world → medium.step world party request answer after →
      Carries medium start (extend views party ⟨request, answer⟩) after
  | drifted {views world after} :
      Carries medium start views world → medium.drift world after →
      Carries medium start views after

theorem Carries.call {medium : Medium Party Call Answer World} {start world : World}
    {views : Party → Trace Call Answer} (carried : medium.Carries start views world)
    (party : Party) (request : Call) (answer : Answer request) (after : World)
    (stepped : medium.step world party request answer after) :
    medium.Carries start (extend views party ⟨request, answer⟩) after :=
  carried.answered stepped

/-- The invariant rule. What the parties are known to do, they have done at every earlier
moment as well. -/
theorem Carries.invariant {medium : Medium Party Call Answer World}
    (Does : Party → Trace Call Answer → Prop)
    (Holds : (Party → Trace Call Answer) → World → Prop)
    (earlier : ∀ party front back, Does party (front ++ back) → Does party front)
    {start world : World} {views : Party → Trace Call Answer}
    (initial : Holds (fun _ => []) start)
    (answers : ∀ views world party request answer after, Holds views world →
      (∀ other, Does other (extend views party ⟨request, answer⟩ other)) →
      medium.step world party request answer after →
      Holds (extend views party ⟨request, answer⟩) after)
    (drifts : ∀ views world after, Holds views world → medium.drift world after →
      Holds views after)
    (carried : medium.Carries start views world) (does : ∀ party, Does party (views party)) :
    Holds views world := by
  induction carried with
  | start => exact initial
  | @answered views world party request answer after _ stepped ih =>
      refine answers _ _ _ _ _ _ (ih fun other => ?_) does stepped
      have done := does other
      by_cases same : other = party
      · subst same
        rw [extend_self] at done
        exact earlier _ _ _ done
      · rwa [extend_of_ne _ same] at done
  | drifted _ drifted ih => exact drifts _ _ _ (ih does) drifted

end Medium

variable {State Method Call Reply World : Type} {Answer : Call → Type}

/-- An object at work: the calls it has completed, and one more that may still run. -/
structure Underway (invoke : State → Method → Program Call Answer (Reply × State)) where
  start : State
  history : List (Invocation State Method Call Answer Reply)
  current : State
  method : Method
  tail : Trace Call Answer
  session : Session invoke start history current
  running : (invoke current method).Emits tail

namespace Underway

variable {invoke : State → Method → Program Call Answer (Reply × State)}

def trace (object : Underway invoke) : Trace Call Answer :=
  sessionTrace object.history ++ object.tail

/-- Every method that has been called, the last one included, is of one kind. -/
structure Each (Ordinary : Method → Prop) (object : Underway invoke) : Prop where
  completed : ∀ invocation ∈ object.history, Ordinary invocation.method
  last : Ordinary object.method

/-- What every ordinary call of the object re-establishes holds when the unfinished one
begins, and every call made so far was permitted. -/
theorem meets {environment : Environment Call Answer World} {permitted : World → Call → Prop}
    (object : Underway invoke) {Ordinary : Method → Prop} (Holds : World → State → Prop)
    (preserved : ∀ world before method, Ordinary method → Holds world before →
      Program.Meets environment (.calls permitted) (fun after outcome => Holds after outcome.2)
        (invoke before method) world)
    (ordinary : object.Each Ordinary) {world : World} (initial : Holds world object.start) :
    environment.Respects permitted world object.trace ∧
      ∀ after, environment.Follows world (sessionTrace object.history) after →
        Holds after object.current := by
  obtain ⟨start, history, current, method, tail, session, running⟩ := object
  obtain ⟨completed, last⟩ := ordinary
  dsimp only [trace] at completed last initial ⊢
  induction session generalizing world with
  | nil =>
      exact ⟨(preserved world _ method last initial).respects running,
        fun after followed => followed ▸ initial⟩
  | @cons before called _ _ _ _ _ run _ ih =>
      obtain ⟨first, rest⟩ := List.forall_mem_cons.mp completed
      have met := preserved world before called first initial
      rw [sessionTrace_cons, List.append_assoc]
      constructor
      · refine Environment.respects_append (met.respects run.emits) fun middle followed => ?_
        exact (ih running (met.runs run followed) rest).1
      · intro after followed
        obtain ⟨middle, head, tail⟩ := Environment.follows_append_iff.mp followed
        exact (ih running (met.runs run head) rest).2 after tail

end Underway

end DlmsTransport.Interaction
