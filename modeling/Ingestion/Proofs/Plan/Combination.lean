import Mathlib
import Ingestion.Plan.Basic

/-!
# Plans side by side and one after another

Plans are combined in two ways, and each of them is told by the stages of the result. Side by side,
there are as many stages as the longest plan has, and each joins what the plans have at its place
(`Plan.SideBySide`). One after another, every stage stays one by itself, behind those of the plans
before (`Plan.InSequence`). There is one such plan only, so the laws of the two ways are laws of
what they are told by (`Plan.combined`).
-/

namespace Ingestion.Plan

/-! ## Stages by their place -/

/-- The stage of a plan at a place. Beyond the end there are no tasks. -/
def stageAt (p : Plan) (i : Nat) : Stage :=
  p.stages.getD i []

/-- The number of stages of the longest plan, 0 if there is no plan. -/
def longest (plans : List Plan) : Nat :=
  (plans.map length).foldr max 0

theorem longest_append (xs ys : List Plan) :
    longest (xs ++ ys) = max (longest xs) (longest ys) := by
  induction xs with
  | nil => exact (Nat.zero_max _).symm
  | cons p xs ih =>
    show max p.length (longest (xs ++ ys)) = max (max p.length (longest xs)) (longest ys)
    rw [ih, Nat.max_assoc]

theorem getElem?_stages {p : Plan} {i : Nat} (h : i < p.length) :
    p.stages[i]? = some (p.stageAt i) := by
  rw [stageAt, List.getD_eq_getElem _ _ h]
  exact List.getElem?_eq_getElem h

theorem ext_stages {p q : Plan} (hlength : p.length = q.length)
    (h : ∀ i < p.length, p.stages[i]? = q.stages[i]?) : p = q := by
  obtain ⟨stages⟩ := p
  obtain ⟨stages'⟩ := q
  refine congrArg Plan.mk (List.ext_getElem? fun i => ?_)
  by_cases hi : i < stages.length
  · exact h i hi
  · have hlength' : stages.length = stages'.length := hlength
    rw [List.getElem?_eq_none (by omega), List.getElem?_eq_none (by omega)]

/-! ## Side by side -/

/-- A plan has as many stages as the longest of the given ones. Each stage, with or without tasks,
joins what the given plans have at its place, in their order. -/
structure SideBySide (plans : List Plan) (r : Plan) : Prop where
  length : r.length = longest plans
  stage : ∀ i < longest plans, r.stages[i]? = some (plans.flatMap (·.stageAt i))

theorem SideBySide.unique {plans : List Plan} {r r' : Plan} (h : SideBySide plans r)
    (h' : SideBySide plans r') : r = r' := by
  refine ext_stages (h.length.trans h'.length.symm) fun i hi => ?_
  rw [h.length] at hi
  exact (h.stage i hi).trans (h'.stage i hi).symm

section Merging

variable (xs ys : List Stage)

theorem length_mergeStages : (mergeStages xs ys).length = max xs.length ys.length := by
  fun_induction mergeStages xs ys with
  | case1 ys => simp
  | case2 xs => simp
  | case3 x xs y ys ih => simp [ih]

theorem getD_mergeStages (i : Nat) :
    (mergeStages xs ys).getD i [] = xs.getD i [] ++ ys.getD i [] := by
  fun_induction mergeStages xs ys generalizing i with
  | case1 ys => simp
  | case2 xs => simp
  | case3 x xs y ys ih =>
    cases i with
    | zero => simp
    | succ i => simpa using ih i

theorem flatten_mergeStages_perm :
    (mergeStages xs ys).flatten.Perm (xs.flatten ++ ys.flatten) := by
  fun_induction mergeStages xs ys with
  | case1 ys => simp
  | case2 xs => simp
  | case3 x xs y ys ih =>
    have hswap : (y ++ (xs.flatten ++ ys.flatten)).Perm (xs.flatten ++ (y ++ ys.flatten)) := by
      rw [← List.append_assoc, ← List.append_assoc]
      exact List.perm_append_comm.append_right _
    rw [List.flatten_cons, List.flatten_cons, List.flatten_cons, List.append_assoc,
      List.append_assoc]
    exact ((ih.append_left y).trans hswap).append_left x

end Merging

/-- The stages that plans add to those of the plans before them. -/
def joinedTo (stages : List Stage) (plans : List Plan) : List Stage :=
  plans.foldl (fun stages p => mergeStages stages p.stages) stages

theorem length_joinedTo (plans : List Plan) (stages : List Stage) :
    (joinedTo stages plans).length = max stages.length (longest plans) := by
  induction plans generalizing stages with
  | nil => exact (Nat.max_zero _).symm
  | cons p plans ih =>
    show (joinedTo (mergeStages stages p.stages) plans).length =
      max stages.length (max p.stages.length (longest plans))
    rw [ih, length_mergeStages, Nat.max_assoc]

theorem getD_joinedTo (plans : List Plan) (stages : List Stage) (i : Nat) :
    (joinedTo stages plans).getD i [] = stages.getD i [] ++ plans.flatMap (·.stageAt i) := by
  induction plans generalizing stages with
  | nil => exact (List.append_nil _).symm
  | cons p plans ih =>
    show (joinedTo (mergeStages stages p.stages) plans).getD i [] =
      stages.getD i [] ++ (p.stageAt i ++ plans.flatMap (·.stageAt i))
    rw [ih, getD_mergeStages, List.append_assoc]
    rfl

theorem flatten_joinedTo_perm (plans : List Plan) (stages : List Stage) :
    (joinedTo stages plans).flatten.Perm (stages.flatten ++ plans.flatMap tasks) := by
  induction plans generalizing stages with
  | nil => simp [joinedTo]
  | cons p plans ih =>
    have hmerge := (flatten_mergeStages_perm stages p.stages).append_right (plans.flatMap tasks)
    rw [List.append_assoc] at hmerge
    exact (ih (mergeStages stages p.stages)).trans hmerge

theorem length_parallelize (plans : List Plan) : (parallelize plans).length = longest plans :=
  (length_joinedTo plans []).trans (Nat.zero_max _)

theorem stageAt_parallelize (plans : List Plan) (i : Nat) :
    (parallelize plans).stageAt i = plans.flatMap (·.stageAt i) :=
  getD_joinedTo plans [] i

theorem sideBySide_parallelize (plans : List Plan) : SideBySide plans (parallelize plans) where
  length := length_parallelize plans
  stage i hi := by
    rw [← length_parallelize] at hi
    rw [getElem?_stages hi, stageAt_parallelize]

theorem sideBySide_iff {plans : List Plan} {r : Plan} :
    SideBySide plans r ↔ r = parallelize plans := by
  constructor
  · exact fun h => h.unique (sideBySide_parallelize plans)
  · rintro rfl
    exact sideBySide_parallelize plans

/-- Plans side by side may be put together in groups first. -/
theorem parallelize_append (xs ys : List Plan) :
    parallelize (xs ++ ys) = parallelize [parallelize xs, parallelize ys] := by
  have hlongest : longest [parallelize xs, parallelize ys] = longest (xs ++ ys) := by
    rw [longest_append, ← length_parallelize xs, ← length_parallelize ys]
    simp [longest]
  refine (sideBySide_iff.1 ⟨?_, fun i hi => ?_⟩).symm
  · rw [length_parallelize, hlongest]
  · rw [← hlongest] at hi
    rw [(sideBySide_parallelize _).stage i hi]
    simp [stageAt_parallelize]

theorem parallelize_single (p : Plan) : parallelize [p] = p := by
  have hlongest : longest [p] = p.length := Nat.max_zero _
  refine (sideBySide_iff.1 ⟨hlongest.symm, fun i hi => ?_⟩).symm
  rw [hlongest] at hi
  rw [getElem?_stages hi, List.flatMap_singleton]

/-! ## One after another -/

/-- The number of stages of all plans together. -/
def totalLength (plans : List Plan) : Nat :=
  (plans.map length).sum

/-- A plan has the stages of all given ones. Each stage, with or without tasks, stays one by itself,
behind those that are before it in its plan and those of the plans before. -/
structure InSequence (plans : List Plan) (r : Plan) : Prop where
  length : r.length = totalLength plans
  stage : ∀ before p after, plans = before ++ p :: after → ∀ i < p.length,
    r.stages[totalLength before + i]? = p.stages[i]?

/-- Every place up to the total length is one of a single plan. -/
theorem exists_place {plans : List Plan} {j : Nat} (hj : j < totalLength plans) :
    ∃ before p after, plans = before ++ p :: after ∧
      ∃ i < p.length, j = totalLength before + i := by
  induction plans generalizing j with
  | nil => exact absurd hj (Nat.not_lt_zero j)
  | cons p plans ih =>
    have htotal : totalLength (p :: plans) = p.length + totalLength plans := List.sum_cons
    by_cases hi : j < p.length
    · exact ⟨[], p, plans, rfl, j, hi, (Nat.zero_add j).symm⟩
    · obtain ⟨before, p', after, rfl, i, hi', hj'⟩ := ih (j := j - p.length) (by omega)
      refine ⟨p :: before, p', after, rfl, i, hi', ?_⟩
      have hbefore : totalLength (p :: before) = p.length + totalLength before := List.sum_cons
      omega

theorem InSequence.unique {plans : List Plan} {r r' : Plan} (h : InSequence plans r)
    (h' : InSequence plans r') : r = r' := by
  refine ext_stages (h.length.trans h'.length.symm) fun j hj => ?_
  obtain ⟨before, p, after, hplans, i, hi, rfl⟩ := exists_place (h.length ▸ hj)
  exact (h.stage before p after hplans i hi).trans (h'.stage before p after hplans i hi).symm

theorem length_sequentialize (plans : List Plan) :
    (sequentialize plans).length = totalLength plans :=
  List.length_flatMap

theorem inSequence_sequentialize (plans : List Plan) : InSequence plans (sequentialize plans) where
  length := length_sequentialize plans
  stage before p after hplans i hi := by
    have hstages : (sequentialize plans).stages =
        (sequentialize before).stages ++ (p.stages ++ after.flatMap stages) := by
      rw [hplans]
      exact List.flatMap_append
    rw [hstages, ← length_sequentialize before]
    show ((sequentialize before).stages ++ _)[(sequentialize before).stages.length + i]? = _
    rw [List.getElem?_append_right (Nat.le_add_right _ _), Nat.add_sub_cancel_left]
    exact List.getElem?_append_left hi

theorem inSequence_iff {plans : List Plan} {r : Plan} :
    InSequence plans r ↔ r = sequentialize plans := by
  constructor
  · exact fun h => h.unique (inSequence_sequentialize plans)
  · rintro rfl
    exact inSequence_sequentialize plans

/-- Plans one after another may be put together in groups first. -/
theorem sequentialize_append (xs ys : List Plan) :
    sequentialize (xs ++ ys) = sequentialize [sequentialize xs, sequentialize ys] := by
  simp [sequentialize]

/-! ## The tasks of a combination -/

/-- A plan has the tasks of the given ones, each as often as they have it together, and so as many
tasks as they have together. It is worth running just if one of them is. -/
structure HasTasksOf (plans : List Plan) (r : Plan) : Prop where
  tasks : r.tasks.Perm (plans.flatMap tasks)
  taskCount : r.taskCount = (plans.map taskCount).sum
  isEmpty : r.isEmpty = true ↔ ∀ p ∈ plans, p.isEmpty = true

theorem taskCount_eq (p : Plan) : p.taskCount = p.tasks.length := by
  have hcount (stages : List Stage) (n : Nat) :
      stages.foldl (fun count stage => count + stage.length) n = n + stages.flatten.length := by
    induction stages generalizing n with
    | nil => rfl
    | cons stage stages ih =>
      rw [List.foldl_cons, ih, List.flatten_cons, List.length_append, Nat.add_assoc]
  rw [taskCount, hcount, Nat.zero_add]
  rfl

/-- A plan is not worth running just if all its tasks are structural. -/
theorem isEmpty_iff_forall {p : Plan} : p.isEmpty = true ↔ ∀ t ∈ p.tasks, t.isStructural = true :=
  List.all_eq_true

theorem hasTasksOf_of_perm {plans : List Plan} {r : Plan} (h : r.tasks.Perm (plans.flatMap tasks)) :
    HasTasksOf plans r where
  tasks := h
  taskCount := by
    rw [taskCount_eq, h.length_eq, List.length_flatMap]
    exact congrArg List.sum (List.map_congr_left fun p _ => (taskCount_eq p).symm)
  isEmpty := by
    simp only [isEmpty_iff_forall, h.mem_iff, List.mem_flatMap]
    constructor
    · exact fun hall p hp t ht => hall t ⟨p, hp, ht⟩
    · rintro hall t ⟨p, hp, ht⟩
      exact hall p hp t ht

theorem parallelize_hasTasksOf (plans : List Plan) : HasTasksOf plans (parallelize plans) :=
  hasTasksOf_of_perm (flatten_joinedTo_perm plans [])

theorem sequentialize_hasTasksOf (plans : List Plan) : HasTasksOf plans (sequentialize plans) := by
  have htasks : (sequentialize plans).tasks = plans.flatMap tasks := by
    simp only [sequentialize, tasks, List.flatMap, List.flatten_flatten, List.map_map]
    rfl
  exact hasTasksOf_of_perm (.of_eq htasks)

/-- Plans side by side have the stages of `SideBySide`, and plans one after another those of
`InSequence`. Either way they may be put together in groups first, no task is lost or added, and the
result is worth running just if one of the plans is. A single plan side by side with no other stays
as it is. -/
theorem combined (plans xs ys : List Plan) (p : Plan) :
    (∀ r, SideBySide plans r ↔ r = parallelize plans) ∧
      parallelize (xs ++ ys) = parallelize [parallelize xs, parallelize ys] ∧
      parallelize [p] = p ∧
      (∀ r, InSequence plans r ↔ r = sequentialize plans) ∧
      sequentialize (xs ++ ys) = sequentialize [sequentialize xs, sequentialize ys] ∧
      HasTasksOf plans (parallelize plans) ∧ HasTasksOf plans (sequentialize plans) :=
  ⟨fun _ => sideBySide_iff, parallelize_append xs ys, parallelize_single p,
    fun _ => inSequence_iff, sequentialize_append xs ys, parallelize_hasTasksOf plans,
    sequentialize_hasTasksOf plans⟩

end Ingestion.Plan
