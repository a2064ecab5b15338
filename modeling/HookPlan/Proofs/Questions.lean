import HookPlan.Plan.Matcher
import Mathlib.Data.List.Basic

/-!
# Questions in two ways

A question to a plan is written once for every way to get patterns. If two ways give related
patterns, then they give related answers, whatever the relation is, as long as it is kept when
computations are put together.

* `Simulation`: such a relation, between the computations of two monads.
* `Simulation.triggers`, `Simulation.selectFrom`, `Simulation.problems`: whole questions.
* `Question`, `Matcher.askAll`: any sequence of questions to one matcher.
-/

namespace HookPlan

/-- A relation between the computations of two monads that is kept when they are put together. -/
structure Simulation (m n : Type → Type) [Monad m] [Monad n] where
  Rel {α : Type} : m α → n α → Prop
  ofPure {α : Type} (a : α) : Rel (pure a) (pure a)
  ofBind {α β : Type} {x : m α} {y : n α} {f : α → m β} {g : α → n β} :
    Rel x y → (∀ a, Rel (f a) (g a)) → Rel (x >>= f) (y >>= g)

/-! ### Questions to a matcher -/

/-- A question to a matcher. -/
inductive Question where
  | triggers (index : ℕ) (path : String)
  | select (paths : List String)
  | problems
  deriving Repr, DecidableEq

/-- What a question is answered with. -/
inductive Answer where
  | triggers (answer : Except Error Bool)
  | select (answer : Except Error (List Selection))
  | problems (answer : List Error)

/-- The answer to a question, for any way to get patterns. -/
def Question.answer {m : Type → Type} [Monad m] (patterns : Patterns m) (p : Plan) :
    Question → m Answer
  | .triggers index path => do return .triggers (← (patterns.triggers p.size index path).run)
  | .select paths => do return .select (← (patterns.select p paths).run)
  | .problems => do return .problems (← patterns.problems p.slots)

/-- The answers to some questions, one after the other. -/
def Question.answers {m : Type → Type} [Monad m] (patterns : Patterns m) (p : Plan) :
    List Question → m (List Answer)
  | [] => return []
  | q :: qs => do
    let a ← q.answer patterns p
    let as ← answers patterns p qs
    return a :: as

namespace Matcher

/-- Asks a matcher one question. -/
def ask (m : Matcher) : Question → Answer × Matcher
  | .triggers index path => (.triggers (m.triggers index path).1, (m.triggers index path).2)
  | .select paths => (.select (m.select paths).1, (m.select paths).2)
  | .problems => (.problems m.problems.1, m.problems.2)

/-- Asks a matcher some questions, each as the one before has left it. -/
def askAll (m : Matcher) : List Question → List Answer × Matcher
  | [] => ([], m)
  | q :: qs => ((m.ask q).1 :: ((m.ask q).2.askAll qs).1, ((m.ask q).2.askAll qs).2)

theorem ask_eq_run (m : Matcher) (q : Question) :
    m.ask q = m.run fun patterns => q.answer patterns m.plan := by
  cases q <;> rfl

theorem askAll_eq_run (m : Matcher) (qs : List Question) :
    m.askAll qs = m.run fun patterns => Question.answers patterns m.plan qs := by
  induction qs generalizing m with
  | nil => rfl
  | cons q qs ih => rw [askAll, ih, ask_eq_run]; rfl

theorem askAll_append (m : Matcher) (qs more : List Question) :
    (m.askAll (qs ++ more)).2 = ((m.askAll qs).2.askAll more).2 := by
  induction qs generalizing m with
  | nil => rfl
  | cons q qs ih => exact ih (m.ask q).2

end Matcher

/-! ### Related answers -/

namespace Simulation

variable {m n : Type → Type} [Monad m] [Monad n]

/-- The same for computations that may fail. -/
def failing (S : Simulation m n) (ε : Type) : Simulation (ExceptT ε m) (ExceptT ε n) where
  Rel x y := S.Rel x.run y.run
  ofPure a := S.ofPure (Except.ok a)
  ofBind h hf := S.ofBind h fun
    | .ok a => hf a
    | .error e => S.ofPure (Except.error e)

variable {S : Simulation m n} {P : Patterns m} {Q : Patterns n}
  (h : ∀ slot, S.Rel (P slot) (Q slot))

include h

theorem occursIn (path : String) (slot : Slot) :
    (S.failing Error).Rel (P.occursIn path slot) (Q.occursIn path slot) :=
  (S.failing Error).ofBind (h slot) fun _ => (S.failing Error).ofPure _

theorem triggers (size index : ℕ) (path : String) :
    (S.failing Error).Rel (P.triggers size index path) (Q.triggers size index path) := by
  unfold Patterns.triggers
  -- each pattern is asked only if those before it did not settle the matter
  by_cases hsize : size ≤ index
  · rw [if_pos hsize, if_pos hsize]
    exact (S.failing Error).ofPure _
  rw [if_neg hsize, if_neg hsize]
  refine (S.failing Error).ofBind (occursIn h _ _) fun excluded => ?_
  cases excluded == some true
  · refine (S.failing Error).ofBind (occursIn h _ _) fun isFor => ?_
    cases isFor == some false
    · refine (S.failing Error).ofBind (occursIn h _ _) fun stepExcluded => ?_
      cases stepExcluded == some true <;> exact (S.failing Error).ofPure _
    · exact (S.failing Error).ofPure _
  · exact (S.failing Error).ofPure _

theorem triggering (size index : ℕ) (paths : List String) :
    (S.failing Error).Rel (P.triggering size index paths) (Q.triggering size index paths) := by
  induction paths with
  | nil => exact (S.failing Error).ofPure _
  | cons path paths ih =>
    refine (S.failing Error).ofBind (triggers h size index path) fun _ => ?_
    exact (S.failing Error).ofBind ih fun _ => (S.failing Error).ofPure _

theorem selectFrom (size : ℕ) (paths : List String) (index : ℕ) (steps : List Step) :
    (S.failing Error).Rel (P.selectFrom size paths index steps)
      (Q.selectFrom size paths index steps) := by
  induction steps generalizing index with
  | nil => exact (S.failing Error).ofPure _
  | cons step steps ih =>
    refine (S.failing Error).ofBind (triggering h size index paths) fun _ => ?_
    exact (S.failing Error).ofBind (ih (index + 1)) fun _ => (S.failing Error).ofPure _

theorem problems (slots : List Slot) : S.Rel (P.problems slots) (Q.problems slots) := by
  induction slots with
  | nil => exact S.ofPure _
  | cons slot slots ih => exact S.ofBind (h slot) fun _ => S.ofBind ih fun _ => S.ofPure _

theorem answer (p : Plan) (q : Question) : S.Rel (q.answer P p) (q.answer Q p) := by
  cases q with
  | triggers index path => exact S.ofBind (triggers h _ _ _) fun _ => S.ofPure _
  | select paths => exact S.ofBind (selectFrom h _ _ _ _) fun _ => S.ofPure _
  | problems => exact S.ofBind (problems h _) fun _ => S.ofPure _

/-- **Related patterns give related answers**, to any sequence of questions. -/
theorem answers (p : Plan) (qs : List Question) :
    S.Rel (Question.answers P p qs) (Question.answers Q p qs) := by
  induction qs with
  | nil => exact S.ofPure _
  | cons q qs ih => exact S.ofBind (answer h p q) fun _ => S.ofBind ih fun _ => S.ofPure _

end Simulation

end HookPlan
