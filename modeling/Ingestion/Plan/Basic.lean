import Ingestion.Json.Basic

/-!
# Plans

A plan is a sequence of stages, and a stage a list of tasks that may run side by side. Plans are
combined in two ways: `parallelize` lets several run side by side, stage by stage, and
`sequentialize` lets them run one after another.

A task is *structural* if its plugin only works on what other plugins have collected. A plan is
empty, in the sense that it is not worth running, if all its tasks are structural.
-/

namespace Ingestion

/-- The plugins that never justify a run by themselves. -/
def structuralPlugins : List String :=
  ["org", "refdiff", "dora"]

/-- A unit of work that a plugin carries out. -/
structure Task where
  plugin : String
  subtasks : List String := []
  options : Json.Members := Table.empty

namespace Task

/-- The task with the given subtasks. -/
def withSubtasks (t : Task) (subtasks : List String) : Task :=
  { t with subtasks }

/-- The task with a value for an option. -/
def withOption (t : Task) (key : String) (value : Json.Value) : Task :=
  { t with options := t.options.insert key value }

/-- Whether the plugin is one that never justifies a run by itself. -/
def isStructural (t : Task) : Bool :=
  structuralPlugins.contains t.plugin

end Task

/-- Tasks that may run side by side. -/
abbrev Stage : Type :=
  List Task

/-- Stages that run one after another. -/
structure Plan where
  stages : List Stage

namespace Plan

/-- The plan without stages. -/
def nil : Plan :=
  ⟨[]⟩

instance : Inhabited Plan := ⟨nil⟩

/-- The plan of one task. -/
def single (t : Task) : Plan :=
  ⟨[[t]]⟩

/-- The number of stages, those without tasks included. -/
def length (p : Plan) : Nat :=
  p.stages.length

/-- The tasks of all stages, in order. -/
def tasks (p : Plan) : List Task :=
  p.stages.flatten

/-- The number of tasks. -/
def taskCount (p : Plan) : Nat :=
  p.stages.foldl (fun count stage => count + stage.length) 0

/-- Whether there is no stage, not even one without tasks. -/
def hasNoStages (p : Plan) : Bool :=
  p.stages.isEmpty

/-- Whether there is nothing worth running: every task is structural. -/
def isEmpty (p : Plan) : Bool :=
  p.tasks.all Task.isStructural

/-- The stages of two plans side by side. The longer one's last stages stay as they are. -/
def mergeStages : List Stage → List Stage → List Stage
  | [], ys => ys
  | xs, [] => xs
  | x :: xs, y :: ys => (x ++ y) :: mergeStages xs ys

/-- Lets plans run side by side. A stage of the result holds the tasks of this stage of every
plan, in the order of the plans. -/
def parallelize (plans : List Plan) : Plan :=
  ⟨plans.foldl (fun stages p => mergeStages stages p.stages) []⟩

/-- Lets plans run one after another. -/
def sequentialize (plans : List Plan) : Plan :=
  ⟨plans.flatMap stages⟩

end Plan

end Ingestion
