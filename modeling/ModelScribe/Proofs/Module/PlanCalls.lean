import Mathlib.Data.List.Induction
import ModelScribe.Module.Plan
import ModelScribe.Proofs.Registry.Appending

/-! # Calls on a plan

A plan is settled by calls, of which the last one on each of its aspects decides
(`ModelScribe.ModulePlan.lastCallsDecide`). Calls on different aspects commute, and
a call is undone by a later one on its own aspect, whatever comes between.

Executing a plan is no call: in a session every text is that of a new plan which has
had the same calls, and a layout function is asked only if the plan has a layout then
(`ModelScribe.ModulePlan.session_eq_mapM`).
-/

namespace ModelScribe

/-- A call that settles an aspect of a plan. -/
inductive PlanCall
  | header (stamp : Stamp)
  | imports
  | define (root : String) (sample : Json)
  | layout (options : LayoutOptions)
  | raw

namespace PlanCall

/-- What a call settles. -/
inductive Aspect
  | header
  | imports
  | models
  | layout
  deriving DecidableEq

def aspect : PlanCall → Aspect
  | header _ => .header
  | imports => .imports
  | define _ _ => .models
  | layout _ | raw => .layout

/-- The time of a header. -/
def stamp? : PlanCall → Option Stamp
  | header stamp => some stamp
  | _ => none

/-- The call asks for the import statement. -/
def isImports : PlanCall → Bool
  | imports => true
  | _ => false

/-- The models of a sample alone. -/
def registry? : PlanCall → Option Registry
  | define root sample => some (.ofRoot root sample)
  | _ => none

/-- The layout that is asked for, or none for the text as it is. -/
def layout? : PlanCall → Option (Option LayoutOptions)
  | layout options => some (some options)
  | raw => some none
  | _ => none

end PlanCall

namespace ModulePlan

/-- The plan after a call. -/
def take (plan : ModulePlan) : PlanCall → ModulePlan
  | .header stamp => plan.withHeader stamp
  | .imports => plan.withImport
  | .define root sample => plan.define root sample
  | .layout options => plan.withLayout options
  | .raw => plan.raw

/-- The plan after calls. -/
def takeAll (plan : ModulePlan) (calls : List PlanCall) : ModulePlan :=
  calls.foldl take plan

/-- The plan that the last call on each aspect decides. -/
def decidedBy (convention : Convention) (calls : List PlanCall) : ModulePlan where
  convention := convention
  header := (calls.filterMap PlanCall.stamp?).getLast?
  imports := calls.any PlanCall.isImports
  registry := (calls.filterMap PlanCall.registry?).getLast?.getD .empty
  layout := (calls.filterMap PlanCall.layout?).getLast?.getD (some .standard)

theorem takeAll_concat (plan : ModulePlan) (calls : List PlanCall) (call : PlanCall) :
    plan.takeAll (calls ++ [call]) = (plan.takeAll calls).take call := by
  rw [takeAll, List.foldl_append]
  rfl

theorem takeAll_append (plan : ModulePlan) (first second : List PlanCall) :
    plan.takeAll (first ++ second) = (plan.takeAll first).takeAll second :=
  List.foldl_append

theorem takeAll_cons (plan : ModulePlan) (call : PlanCall) (calls : List PlanCall) :
    plan.takeAll (call :: calls) = (plan.take call).takeAll calls := rfl

theorem decidedBy_concat (convention : Convention) (calls : List PlanCall) (call : PlanCall) :
    decidedBy convention (calls ++ [call]) = (decidedBy convention calls).take call := by
  cases call <;>
    simp [decidedBy, take, withHeader, withImport, define, withLayout, raw, PlanCall.stamp?,
      PlanCall.isImports, PlanCall.registry?, PlanCall.layout?]

/-- The last call on each aspect decides. -/
theorem takeAll_new (convention : Convention) (calls : List PlanCall) :
    (new convention).takeAll calls = decidedBy convention calls := by
  induction calls using List.reverseRecOn with
  | nil => rfl
  | append_singleton calls call ih =>
      rw [takeAll_concat, decidedBy_concat, ih]

/-- Calls on different aspects commute. -/
theorem take_comm {first second : PlanCall} (different : first.aspect ≠ second.aspect)
    (plan : ModulePlan) : (plan.take first).take second = (plan.take second).take first := by
  cases first <;> cases second <;> simp [PlanCall.aspect] at different <;> rfl

/-- A call is undone by the next one on its aspect. -/
theorem take_take {first second : PlanCall} (same : first.aspect = second.aspect)
    (plan : ModulePlan) : (plan.take first).take second = plan.take second := by
  cases first <;> cases second <;> simp [PlanCall.aspect] at same <;> rfl

/-- A call is undone by a later one on its aspect, whatever comes between. -/
theorem takeAll_overwritten {call later : PlanCall} (same : call.aspect = later.aspect)
    (between : List PlanCall) (plan : ModulePlan) :
    ((plan.take call).takeAll between).take later = (plan.takeAll between).take later := by
  induction between generalizing plan with
  | nil => exact take_take same plan
  | cons next between ih =>
      rw [takeAll_cons, takeAll_cons]
      by_cases own : call.aspect = next.aspect
      · rw [take_take own]
      · rw [take_comm own, ih]

/-- The text of the module as a layout function with effects of its own lays it out, which is asked
only if the plan has a layout. -/
def executeIn {m : Type → Type} [Monad m] (format : LayoutOptions → String → m String)
    (plan : ModulePlan) : m String :=
  match plan.layout with
  | some options => format options plan.assembly.text
  | none => pure plan.assembly.text

/-- Laying out by a function without effects. -/
theorem executeWith_eq_executeIn (format : LayoutOptions → String → String)
    (plan : ModulePlan) : plan.executeWith format =
      Id.run (plan.executeIn fun options text => pure (format options text)) := by
  unfold executeWith executeIn
  cases plan.layout <;> rfl

/-- A step of a session: a call on the plan, or its execution with a layout function. -/
inductive SessionStep (m : Type → Type)
  | call (call : PlanCall)
  | execute (format : LayoutOptions → String → m String)

/-- The texts of a session. -/
def session {m : Type → Type} [Monad m] : ModulePlan → List (SessionStep m) → m (List String)
  | _, [] => pure []
  | plan, .call call :: steps => session (plan.take call) steps
  | plan, .execute format :: steps => do
      let text ← plan.executeIn format
      let texts ← session plan steps
      pure (text :: texts)

/-- The executions of a session, each with the calls before it. -/
def executions {m : Type → Type} : List PlanCall → List (SessionStep m) →
    List (List PlanCall × (LayoutOptions → String → m String))
  | _, [] => []
  | calls, .call call :: steps => executions (calls ++ [call]) steps
  | calls, .execute format :: steps => (calls, format) :: executions calls steps

/-- Each text of a session is that of a new plan which has had the calls before it. -/
theorem session_eq_mapM {m : Type → Type} [Monad m] (convention : Convention)
    (calls : List PlanCall) (steps : List (SessionStep m)) :
    session ((new convention).takeAll calls) steps =
      (executions calls steps).mapM' fun execution =>
        (decidedBy convention execution.1).executeIn execution.2 := by
  induction steps generalizing calls with
  | nil => rfl
  | cons step steps ih =>
      cases step with
      | call call =>
          rw [session, ← takeAll_concat, ih]
          rfl
      | execute format =>
          rw [session, ih, takeAll_new]
          rfl

/-- One more execution adds its text to a session and changes no other. -/
theorem exists_session_eq (plan : ModulePlan) (before rest : List (SessionStep Id))
    (format : LayoutOptions → String → Id String) :
    ∃ text others,
      Id.run (session plan (before ++ rest)) = Id.run (session plan before) ++ others ∧
      Id.run (session plan (before ++ .execute format :: rest)) =
        Id.run (session plan before) ++ text :: others := by
  induction before generalizing plan with
  | nil => exact ⟨_, _, rfl, rfl⟩
  | cons step before ih =>
      cases step with
      | call call => exact ih (plan.take call)
      | execute other =>
          obtain ⟨text, others, without, within⟩ := ih plan
          exact ⟨text, others, congrArg (_ :: ·) without, congrArg (_ :: ·) within⟩

/-- The last call on each aspect of a plan decides, and executions change nothing. -/
structure LastCallsDecide (convention : Convention) : Prop where
  /-- A plan holds the last time, the import if it was asked for, the models of the last sample
  alone, and the last layout. -/
  decided : ∀ calls, (new convention).takeAll calls = decidedBy convention calls
  /-- No models are left behind by a sample that is no object. -/
  cleared : ∀ (plan : ModulePlan) root sample, (∀ members, sample ≠ .object members) →
    (plan.define root sample).registry = .empty
  /-- A call may be left out if a later one is on its aspect. -/
  overwritten : ∀ before call between later rest, call.aspect = later.aspect →
    (new convention).takeAll (before ++ call :: (between ++ later :: rest)) =
      (new convention).takeAll (before ++ (between ++ later :: rest))
  /-- Neighbouring calls on different aspects may change places. -/
  swapped : ∀ before first second rest, first.aspect ≠ second.aspect →
    (new convention).takeAll (before ++ first :: second :: rest) =
      (new convention).takeAll (before ++ second :: first :: rest)
  /-- The layout function is asked once, unless the text was last asked for as it is. -/
  asked : ∀ (m : Type → Type) [Monad m] (format : LayoutOptions → String → m String) calls,
    ((new convention).takeAll calls).executeIn format =
      match (calls.filterMap PlanCall.layout?).getLast? with
      | none => format .standard (decidedBy convention calls).assembly.text
      | some (some options) => format options (decidedBy convention calls).assembly.text
      | some none => pure (decidedBy convention calls).assembly.text
  /-- A layout function without effects gives the text of the module. -/
  effectless : ∀ (plan : ModulePlan) format, plan.executeWith format =
    Id.run (plan.executeIn fun options text => pure (format options text))
  /-- Each text of a session is that of a new plan which has had the calls before it. -/
  executed : ∀ (m : Type → Type) [Monad m] (steps : List (SessionStep m)),
    session (new convention) steps = (executions [] steps).mapM' fun execution =>
      (decidedBy convention execution.1).executeIn execution.2
  /-- One more execution adds its text to a session and changes no other. -/
  interleaved : ∀ before format rest, ∃ text others,
    Id.run (session (new convention) (before ++ rest)) =
        Id.run (session (new convention) before) ++ others ∧
      Id.run (session (new convention) (before ++ .execute format :: rest)) =
        Id.run (session (new convention) before) ++ text :: others

/-- **The last calls decide.** What a plan holds, and with it every text of the module, depends on
the last call on each of its aspects only, and on no execution. -/
theorem lastCalls_decide (convention : Convention) : LastCallsDecide convention where
  decided := takeAll_new convention
  cleared plan root sample noObject := by
    cases sample with
    | object members => exact absurd rfl (noObject members)
    | _ => rfl
  overwritten before call between later rest same := by
    have undone := takeAll_overwritten same between ((new convention).takeAll before)
    simp only [takeAll_append, takeAll_cons, undone]
  swapped before first second rest different := by
    simp only [takeAll_append, takeAll_cons, take_comm different]
  asked m _ format calls := by
    have shown : (decidedBy convention calls).layout =
        (calls.filterMap PlanCall.layout?).getLast?.getD (some .standard) := rfl
    rw [takeAll_new, executeIn, shown]
    cases (calls.filterMap PlanCall.layout?).getLast? with
    | none => rfl
    | some layout => cases layout <;> rfl
  effectless plan format := executeWith_eq_executeIn format plan
  executed m _ steps := session_eq_mapM convention [] steps
  interleaved before format rest := exists_session_eq (new convention) before rest format

end ModulePlan

end ModelScribe
