import ChainGateway.Clock
import ChainGateway.Proofs.Except

/-!
# Traces

Systems in which several parties act are given by a function that says of every action whether it
is possible in a state, and to which state it leads.  A trace is what may have happened so far:
the steps taken from a start, in order, and the state they lead to.  Safety of a system is said of
the states of its traces, and the steps say how they came about.
-/

namespace ChainGateway

/-- A step that was taken. -/
structure Moment (σ α : Type) where
  before : σ
  action : α
  after : σ

/-- The states that steps lead to from a start, each with the steps that were taken. -/
inductive Trace {σ α : Type} (Steps : σ → α → σ → Prop) (start : σ) :
    List (Moment σ α) → σ → Prop
  | start : Trace Steps start [] start
  | step {history : List (Moment σ α)} {state next : σ} {action : α}
      (htrace : Trace Steps start history state) (hstep : Steps state action next) :
      Trace Steps start (history ++ [⟨state, action, next⟩]) next

/-- The steps of a system: its possible actions. -/
def Possible {σ α : Type} (step : σ → α → Option σ) (state : σ) (action : α) (next : σ) : Prop :=
  step state action = some next

/-- The steps of a system that may break down: its possible actions, as far as it does not. -/
def StepsOf {σ α : Type} (step : σ → α → Except Fault (Option σ)) (state : σ) (action : α)
    (next : σ) : Prop :=
  step state action = .ok (some next)

/-- A system that may break down, as far as it does not. -/
def unlessFault {σ α : Type} (step : σ → α → Except Fault (Option σ)) (state : σ) (action : α) :
    Option σ :=
  (step state action).toOption.join

theorem Possible.stepsOf {σ α : Type} {step : σ → α → Except Fault (Option σ)} {state next : σ}
    {action : α} (hstep : Possible (unlessFault step) state action next) :
    StepsOf step state action next := by
  rwa [Possible, unlessFault, Option.join_eq_some_iff, toOption_eq_some_iff] at hstep

namespace Trace

variable {σ α : Type} {Steps : σ → α → σ → Prop} {start state : σ}
  {history : List (Moment σ α)} {moment : Moment σ α}

/-- What holds at the start and is kept by every step holds wherever a trace leads. -/
theorem invariant {P : σ → Prop} (hstart : P start)
    (hstep : ∀ {state action next}, P state → Steps state action next → P next)
    (htrace : Trace Steps start history state) : P state := by
  induction htrace with
  | start => exact hstart
  | step htrace htaken ih => exact hstep ih htaken

theorem mono {Others : σ → α → σ → Prop}
    (hsteps : ∀ {state action next}, Steps state action next → Others state action next)
    (htrace : Trace Steps start history state) : Trace Others start history state := by
  induction htrace with
  | start => exact .start
  | step htrace hstep ih => exact ih.step (hsteps hstep)

/-- A trace can be cut at each of its steps. -/
theorem cut (htrace : Trace Steps start history state) (hmem : moment ∈ history) :
    ∃ earlier later, history = earlier ++ moment :: later ∧
      Trace Steps start earlier moment.before ∧
      Steps moment.before moment.action moment.after ∧
      Trace Steps moment.after later state := by
  induction htrace with
  | start => simp at hmem
  | @step history state next action htrace hstep ih =>
      rcases List.mem_append.mp hmem with hearlier | hlast
      · obtain ⟨earlier, later, rfl, hbefore, htaken, hafter⟩ := ih hearlier
        exact ⟨earlier, later ++ [⟨state, action, next⟩], by simp, hbefore, htaken,
          hafter.step hstep⟩
      · -- it is the last step, and nothing was taken after it
        rw [List.mem_singleton] at hlast
        subst hlast
        exact ⟨history, [], rfl, htrace, hstep, .start⟩

/-- Every step of a trace was possible. -/
theorem steps_of_mem (htrace : Trace Steps start history state) (hmem : moment ∈ history) :
    Steps moment.before moment.action moment.after := by
  obtain ⟨-, -, -, -, hstep, -⟩ := htrace.cut hmem
  exact hstep

/-- A trace that goes on from where another one led. -/
theorem append {last : σ} {further : List (Moment σ α)}
    (htrace : Trace Steps start history state) (hfurther : Trace Steps state further last) :
    Trace Steps start (history ++ further) last := by
  induction hfurther with
  | start => rwa [List.append_nil]
  | step hfurther hstep ih =>
      rw [← List.append_assoc]
      exact ih.step hstep

end Trace

/-! ## Schedules -/

section Schedule

variable {σ α : Type}

/-- Takes one action after another, if all of them are possible. -/
def takeAll (step : σ → α → Option σ) (state : σ) : List α → Option (List (Moment σ α) × σ)
  | [] => some ([], state)
  | action :: actions =>
      match step state action with
      | some next =>
          (takeAll step next actions).map fun (history, last) =>
            (⟨state, action, next⟩ :: history, last)
      | none => none

/-- A schedule whose actions are all possible is a trace. -/
theorem Trace.of_takeAll {step : σ → α → Option σ} {actions : List α} {start last : σ}
    {history : List (Moment σ α)} (htaken : takeAll step start actions = some (history, last)) :
    Trace (Possible step) start history last := by
  induction actions generalizing start history with
  | nil =>
      cases htaken
      exact .start
  | cons action actions ih =>
      simp only [takeAll] at htaken
      split at htaken
      · next next hstep =>
          obtain ⟨⟨further, last⟩, hfurther, hresult⟩ := Option.map_eq_some_iff.mp htaken
          cases hresult
          exact (Trace.start.step hstep).append (ih hfurther)
      · cases htaken

end Schedule

end ChainGateway
