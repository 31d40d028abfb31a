import Mathlib
import Ingestion.Decoding
import Ingestion.Encoding
import Ingestion.Proofs.Json.RoundTrip
import Ingestion.Proofs.Text.Identifier
import Ingestion.Proofs.Time.Timestamp

/-!
# Reading back plans, connections and policies

Plans, connections and policies are kept as documents. Each of them is read back from the tree it is
written as: the items of a list one by one, and the members of a record by name. What is written as
a text is read back from it.
-/

namespace Ingestion

open Json (Decoder)
open Json.Record (decoder_object reads_field)

theorem Uuid.decoder_readsBack : Uuid.decoder.ReadsBack Uuid.toJson :=
  Decoder.parsed_readsBack Uuid.ofText?_toText

theorem Instant.decoder_readsBack : Instant.decoder.ReadsBack Instant.toJson :=
  Decoder.parsed_readsBack Instant.ofText?_toText

theorem Json.strings_readsBack : (Decoder.list .string).ReadsBack Json.strings :=
  Decoder.list_readsBack Decoder.string_readsBack

theorem Task.decoder_readsBack : Task.decoder.ReadsBack Task.toJson := by
  intro t j hj
  refine decoder_object (by decide) (List.Sublist.refl _) ?_ hj
  exact (reads_field rfl (Decoder.string_readsBack t.plugin)).map Task.mk
    |>.seq (reads_field rfl (Json.strings_readsBack t.subtasks))
    |>.seq (reads_field rfl (Decoder.members_readsBack t.options))

theorem Plan.decoder_readsBack : Plan.decoder.ReadsBack Plan.toJson := fun p =>
  (Decoder.list_readsBack (Decoder.list_readsBack Task.decoder_readsBack) p.stages).map Plan.mk

theorem Scope.decoder_readsBack : Scope.decoder.ReadsBack Scope.toJson := by
  intro s j hj
  refine decoder_object (by decide) (List.Sublist.refl _) ?_ hj
  exact (reads_field rfl (Decoder.string_readsBack s.scopeId)).map Scope.mk
    |>.seq (reads_field rfl (Json.strings_readsBack s.entities))

theorem Connection.decoder_readsBack : Connection.decoder.ReadsBack Connection.toJson := by
  intro c j hj
  refine decoder_object (by decide) (List.Sublist.refl _) ?_ hj
  exact (reads_field rfl (Decoder.string_readsBack c.pluginName)).map Connection.mk
    |>.seq (reads_field rfl (Decoder.uint64_readsBack c.connectionId))
    |>.seq (reads_field rfl (Decoder.list_readsBack Scope.decoder_readsBack c.scopes))

theorem SyncPolicy.decoder_readsBack : SyncPolicy.decoder.ReadsBack SyncPolicy.toJson := by
  have htime : (Decoder.optional Instant.decoder).ReadsBack (.ofOption Instant.toJson) :=
    Decoder.optional_readsBack Instant.decoder_readsBack fun _ => nofun
  intro p j hj
  refine decoder_object (by decide) (List.Sublist.refl _) ?_ hj
  exact (reads_field rfl (Decoder.bool_readsBack p.skipOnFail)).map SyncPolicy.mk
    |>.seq (reads_field rfl (Decoder.bool_readsBack p.fullSync))
    |>.seq (reads_field rfl (Decoder.bool_readsBack p.skipCollectors))
    |>.seq (reads_field rfl (htime p.timeAfter))

/-- The name of a mode is the name of this mode alone. -/
theorem Mode.ofName?_name (m : Mode) : Mode.ofName? m.name = some m := by
  cases m <;> rfl

theorem Mode.decoder_readsBack : Mode.decoder.ReadsBack Mode.toJson :=
  Decoder.variant_readsBack Mode.ofName?_name

/-- The name of a mode is read as this mode. -/
theorem Mode.parse_name (m : Mode) : Mode.parse m.name = .ok m := by
  cases m <;> decide +kernel

end Ingestion
