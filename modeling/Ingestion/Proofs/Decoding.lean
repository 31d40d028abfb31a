import Mathlib
import Ingestion.Proofs.Blueprint.RoundTrip

/-!
# Reading back JSON forms

Every datum of the domain is read back from the tree that it is written as, in whatever order the
objects of the tree list their members (`forms_read_back`). A patch of a policy is written without
the fields that it does not change. Its `time_after` has three states, and they are told apart: the
member is not there, it is `null`, or it is a timestamp.
-/

namespace Ingestion

open Json (Decoder SameData)
open Json.Record (decoder_object reads_field reads_nullable reads_field_ifPresent)

/-! ## Blueprints -/

theorem Json.connections_readsBack :
    (Decoder.list Connection.decoder).ReadsBack (.ofList Connection.toJson) :=
  Decoder.list_readsBack Connection.decoder_readsBack

theorem Blueprint.decoder_readsBack : Blueprint.decoder.ReadsBack Blueprint.toJson := by
  intro b j hj
  refine decoder_object (by decide) (List.Sublist.refl _) ?_ hj
  exact (reads_field rfl (Uuid.decoder_readsBack b.id)).map Blueprint.mk
    |>.seq (reads_field rfl (Decoder.string_readsBack b.name))
    |>.seq (reads_field rfl (Mode.decoder_readsBack b.mode))
    |>.seq (reads_field rfl (Decoder.string_readsBack b.projectName))
    |>.seq (reads_field rfl (Decoder.string_readsBack b.cronConfig))
    |>.seq (reads_field rfl (Decoder.bool_readsBack b.isManual))
    |>.seq (reads_field rfl (Decoder.bool_readsBack b.enable))
    |>.seq (reads_field rfl (Json.connections_readsBack b.connections))
    |>.seq (reads_field rfl (Json.strings_readsBack b.labels))
    |>.seq (reads_field rfl (SyncPolicy.decoder_readsBack b.syncPolicy))
    |>.seq (reads_field rfl (Plan.decoder_readsBack b.beforePlan))
    |>.seq (reads_field rfl (Plan.decoder_readsBack b.afterPlan))
    |>.seq (reads_field rfl (Plan.decoder_readsBack b.plan))
    |>.seq (reads_field rfl (Instant.decoder_readsBack b.createdAt))
    |>.seq (reads_field rfl (Instant.decoder_readsBack b.updatedAt))

theorem Draft.decoder_readsBack : Draft.decoder.ReadsBack Draft.toJson := by
  intro d j hj
  refine decoder_object (by decide) (List.Sublist.refl _) ?_ hj
  exact (reads_field rfl (Decoder.string_readsBack d.name)).map Draft.mk
    |>.seq (reads_field rfl (Mode.decoder_readsBack d.mode))
    |>.seq (reads_field rfl (Decoder.string_readsBack d.projectName))
    |>.seq (reads_field rfl (Decoder.string_readsBack d.cronConfig))
    |>.seq (reads_field rfl (Decoder.bool_readsBack d.isManual))
    |>.seq (reads_field rfl (Decoder.bool_readsBack d.enable))
    |>.seq (reads_field rfl (Json.connections_readsBack d.connections))
    |>.seq (reads_field rfl (Json.strings_readsBack d.labels))
    |>.seq (reads_field rfl (SyncPolicy.decoder_readsBack d.syncPolicy))
    |>.seq (reads_field rfl (Plan.decoder_readsBack d.beforePlan))
    |>.seq (reads_field rfl (Plan.decoder_readsBack d.afterPlan))
    |>.seq (reads_field rfl (Plan.decoder_readsBack d.plan))

theorem Listing.decoder_readsBack : Listing.decoder.ReadsBack Listing.toJson := by
  intro l j hj
  refine decoder_object (by decide) (List.Sublist.refl _) ?_ hj
  exact (reads_field rfl (Decoder.list_readsBack Blueprint.decoder_readsBack l.blueprints)).map
      Listing.mk
    |>.seq (reads_field rfl (Decoder.int64_readsBack l.count))

/-! ## Patches and queries -/

namespace PolicyPatch

/-- The members of the fields that a patch changes. -/
def members (p : PolicyPatch) : List (String × Json) :=
  Json.memberIfPresent "skip_on_fail" .bool p.skipOnFail
    ++ Json.memberIfPresent "full_sync" .bool p.fullSync
    ++ Json.memberIfPresent "skip_collectors" .bool p.skipCollectors
    ++ Json.memberIfPresent "time_after" (.ofOption Instant.toJson) p.timeAfter

theorem lookup_memberIfPresent {α : Type} (name key : String) (toJson : α → Json)
    (o : Option α) : (Json.memberIfPresent name toJson o).lookup key =
      if key = name then o.map toJson else none := by
  cases o with
  | none => simp [Json.memberIfPresent]
  | some a =>
    rw [Json.memberIfPresent, Ascending.lookup_cons]
    rfl

theorem names_memberIfPresent {α : Type} (name : String) (toJson : α → Json) (o : Option α) :
    ((Json.memberIfPresent name toJson o).map Prod.fst).Sublist [name] := by
  cases o with
  | none => exact List.nil_sublist _
  | some a => exact List.Sublist.refl _

/-- Each field is found under its own name. -/
theorem lookup_members (p : PolicyPatch) (key : String) : p.members.lookup key =
    (((if key = "skip_on_fail" then p.skipOnFail.map .bool else none).or
      (if key = "full_sync" then p.fullSync.map .bool else none)).or
      (if key = "skip_collectors" then p.skipCollectors.map .bool else none)).or
      (if key = "time_after" then p.timeAfter.map (.ofOption Instant.toJson) else none) := by
  simp only [members, List.lookup_append, lookup_memberIfPresent]

/-- The member is not there, is `null`, or is a timestamp. -/
theorem lookup_timeAfter (p : PolicyPatch) :
    p.members.lookup "time_after" = p.timeAfter.map (.ofOption Instant.toJson) := by
  simp [lookup_members]

theorem decoder_readsBack : PolicyPatch.decoder.ReadsBack PolicyPatch.toJson := by
  intro p j hj
  have hnames : (p.members.map Prod.fst).Sublist (PolicyPatch.record.fields.map (·.name)) := by
    simp only [members, List.map_append]
    exact (((names_memberIfPresent _ _ _).append (names_memberIfPresent _ _ _)).append
      (names_memberIfPresent _ _ _)).append (names_memberIfPresent _ _ _)
  refine decoder_object (by decide) hnames ?_ hj
  have hbool (b : Bool) : (Decoder.optional .bool).ReadsAs (.bool b) (some b) :=
    (Decoder.bool_readsBack b).optional nofun
  have htime (t : Option Instant) :
      Decoder.ReadsAs (fun d => some <$> Decoder.optional Instant.decoder d)
        (.ofOption Instant.toJson t) (some t) :=
    (Decoder.optional_readsBack Instant.decoder_readsBack (fun _ => nofun) t).map some
  exact (reads_field_ifPresent (by simp [lookup_members]) hbool).map PolicyPatch.mk
    |>.seq (reads_field_ifPresent (by simp [lookup_members]) hbool)
    |>.seq (reads_field_ifPresent (by simp [lookup_members]) hbool)
    |>.seq (reads_field_ifPresent p.lookup_timeAfter htime)

end PolicyPatch

theorem Patch.decoder_readsBack : Patch.decoder.ReadsBack Patch.toJson := by
  intro p j hj
  refine decoder_object (by decide) (List.Sublist.refl _) ?_ hj
  exact (reads_nullable rfl Decoder.string_readsBack (fun _ => nofun)).map Patch.mk
    |>.seq (reads_nullable rfl Decoder.string_readsBack (fun _ => nofun))
    |>.seq (reads_nullable rfl Decoder.string_readsBack (fun _ => nofun))
    |>.seq (reads_nullable rfl Decoder.bool_readsBack (fun _ => nofun))
    |>.seq (reads_nullable rfl Decoder.bool_readsBack (fun _ => nofun))
    |>.seq (reads_nullable rfl Json.connections_readsBack (fun _ => nofun))
    |>.seq (reads_nullable rfl Json.strings_readsBack (fun _ => nofun))
    |>.seq (reads_nullable rfl PolicyPatch.decoder_readsBack (fun _ => nofun))
    |>.seq (reads_nullable rfl Plan.decoder_readsBack (fun _ => nofun))
    |>.seq (reads_nullable rfl Plan.decoder_readsBack (fun _ => nofun))
    |>.seq (reads_nullable rfl Plan.decoder_readsBack (fun _ => nofun))

/-- The name of a category is the name of this category alone. -/
theorem Category.ofName?_name (c : Category) : Category.ofName? c.name = some c := by
  cases c <;> rfl

theorem Category.decoder_readsBack : Category.decoder.ReadsBack Category.toJson :=
  Decoder.variant_readsBack Category.ofName?_name

theorem Query.decoder_readsBack : Query.decoder.ReadsBack Query.toJson := by
  intro q j hj
  refine decoder_object (by decide) (List.Sublist.refl _) ?_ hj
  exact (reads_nullable rfl Decoder.bool_readsBack (fun _ => nofun)).map Query.mk
    |>.seq (reads_nullable rfl Decoder.bool_readsBack (fun _ => nofun))
    |>.seq (reads_nullable rfl Decoder.string_readsBack (fun _ => nofun))
    |>.seq (reads_field rfl (Category.decoder_readsBack q.category))
    |>.seq (reads_nullable rfl Decoder.uint32_readsBack (fun _ => nofun))
    |>.seq (reads_nullable rfl Decoder.uint32_readsBack (fun _ => nofun))

/-! ## Pipelines and projects -/

/-- The name of a status is the name of this status alone. -/
theorem Status.ofName?_name (s : Status) : Status.ofName? s.name = some s := by
  cases s <;> rfl

theorem Status.decoder_readsBack : Status.decoder.ReadsBack Status.toJson :=
  Decoder.variant_readsBack Status.ofName?_name

theorem Pipeline.decoder_readsBack : Pipeline.decoder.ReadsBack Pipeline.toJson := by
  intro p j hj
  refine decoder_object (by decide) (List.Sublist.refl _) ?_ hj
  exact (reads_field rfl (Uuid.decoder_readsBack p.id)).map Pipeline.mk
    |>.seq (reads_field rfl (Decoder.string_readsBack p.name))
    |>.seq (reads_field rfl (Uuid.decoder_readsBack p.blueprintId))
    |>.seq (reads_field rfl (Plan.decoder_readsBack p.plan))
    |>.seq (reads_field rfl (Json.strings_readsBack p.labels))
    |>.seq (reads_field rfl (SyncPolicy.decoder_readsBack p.syncPolicy))
    |>.seq (reads_field rfl (Status.decoder_readsBack p.status))
    |>.seq (reads_field rfl (Decoder.nat_readsBack p.totalTasks))
    |>.seq (reads_field rfl (Instant.decoder_readsBack p.createdAt))

theorem NewPipeline.decoder_readsBack : NewPipeline.decoder.ReadsBack NewPipeline.toJson := by
  intro p j hj
  refine decoder_object (by decide) (List.Sublist.refl _) ?_ hj
  exact (reads_field rfl (Decoder.string_readsBack p.name)).map NewPipeline.mk
    |>.seq (reads_field rfl (Uuid.decoder_readsBack p.blueprintId))
    |>.seq (reads_field rfl (Plan.decoder_readsBack p.plan))
    |>.seq (reads_field rfl (Json.strings_readsBack p.labels))
    |>.seq (reads_field rfl (SyncPolicy.decoder_readsBack p.syncPolicy))

theorem Project.decoder_readsBack : Project.decoder.ReadsBack Project.toJson := by
  intro p j hj
  refine decoder_object (by decide) (List.Sublist.refl _) ?_ hj
  exact (reads_field rfl (Decoder.string_readsBack p.name)).map Project.mk
    |>.seq (reads_nullable rfl Decoder.string_readsBack (fun _ => nofun))
    |>.seq (reads_field rfl (Instant.decoder_readsBack p.createdAt))

theorem MetricSetting.decoder_readsBack :
    MetricSetting.decoder.ReadsBack MetricSetting.toJson := by
  intro m j hj
  refine decoder_object (by decide) (List.Sublist.refl _) ?_ hj
  exact (reads_field rfl (Decoder.string_readsBack m.projectName)).map MetricSetting.mk
    |>.seq (reads_field rfl (Decoder.string_readsBack m.pluginName))
    |>.seq (reads_field rfl (Decoder.value_readsBack m.option))
    |>.seq (reads_field rfl (Decoder.bool_readsBack m.enable))

/-- Every datum is read back from the tree that it is written as, and from every tree of the same
data. The member `time_after` of a patch has three states, and the category of a query is the member
`type`. Every identifier and every instant is read back from its text. -/
theorem forms_read_back :
    Blueprint.decoder.ReadsBack Blueprint.toJson ∧ Draft.decoder.ReadsBack Draft.toJson ∧
      Patch.decoder.ReadsBack Patch.toJson ∧
      PolicyPatch.decoder.ReadsBack PolicyPatch.toJson ∧ Query.decoder.ReadsBack Query.toJson ∧
      Listing.decoder.ReadsBack Listing.toJson ∧ Plan.decoder.ReadsBack Plan.toJson ∧
      Pipeline.decoder.ReadsBack Pipeline.toJson ∧
      NewPipeline.decoder.ReadsBack NewPipeline.toJson ∧
      Project.decoder.ReadsBack Project.toJson ∧
      MetricSetting.decoder.ReadsBack MetricSetting.toJson ∧
      (∀ p : PolicyPatch, ∃ members, p.toJson = .object members ∧
        members.lookup "time_after" = p.timeAfter.map (.ofOption Instant.toJson)) ∧
      (∀ q : Query, ∃ members, q.toJson = .object members ∧
        members.lookup "type" = some (.string q.category.name)) ∧
      (∀ u : Uuid, Uuid.ofText? u.toText = some u) ∧
      ∀ t : Instant, Instant.ofText? t.toText = some t :=
  ⟨Blueprint.decoder_readsBack, Draft.decoder_readsBack, Patch.decoder_readsBack,
    PolicyPatch.decoder_readsBack, Query.decoder_readsBack, Listing.decoder_readsBack,
    Plan.decoder_readsBack, Pipeline.decoder_readsBack, NewPipeline.decoder_readsBack,
    Project.decoder_readsBack, MetricSetting.decoder_readsBack,
    fun p => ⟨p.members, rfl, p.lookup_timeAfter⟩, fun _ => ⟨_, rfl, rfl⟩, Uuid.ofText?_toText,
    Instant.ofText?_toText⟩

/-- A patch that clears `time_after` is read from a tree that lists its members the other way
around. -/
theorem reordered_patch_read_back :
    SameData (PolicyPatch.toJson { skipOnFail := some true, timeAfter := some none })
        (.object [("time_after", .null), ("skip_on_fail", .bool true)]) ∧
      PolicyPatch.decoder.ofJson (.object [("time_after", .null), ("skip_on_fail", .bool true)]) =
        .ok { skipOnFail := some true, timeAfter := some none } := by
  have hsame : SameData (PolicyPatch.toJson { skipOnFail := some true, timeAfter := some none })
      (.object [("time_after", .null), ("skip_on_fail", .bool true)]) :=
    .object (.refl [("skip_on_fail", .bool true), ("time_after", .null)]) (.swap _ _ _)
  obtain ⟨-, -, -, hpatch, -⟩ := forms_read_back
  exact ⟨hsame, hpatch _ _ hsame⟩

end Ingestion
