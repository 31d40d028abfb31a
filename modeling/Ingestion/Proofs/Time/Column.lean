import Mathlib
import Ingestion.Proofs.Time.Instant

/-!
# Instants in columns

A column of timestamps keeps whole microseconds and no leap seconds. So an instant is given back as
it was put in just if it is of this kind (`Instant.toMicros?_eq_some_self_iff`), and what is given
back is of this kind (`Instant.isWhole_of_toMicros?`).
-/

namespace Ingestion.Instant

variable {t u : Instant}

/-- The instant that a column of timestamps gives back. -/
def kept (t : Instant) : Instant :=
  t.toMicros?.getD t

/-- The instant lies in no leap second and is a whole number of microseconds. -/
def IsWhole (t : Instant) : Prop :=
  t.nanos < 1000000000 ∧ 1000 ∣ t.nanos

instance (t : Instant) : Decidable t.IsWhole :=
  inferInstanceAs (Decidable (_ ∧ _))

/-- There is an instant for what a column of timestamps keeps. There is none for a leap second after
the last of all days only. -/
def HasMicros (t : Instant) : Prop :=
  t.toMicros?.isSome

instance (t : Instant) : Decidable t.HasMicros :=
  inferInstanceAs (Decidable (_ = true))

/-- What a column gives back is in whole microseconds. -/
theorem isWhole_of_toMicros? (h : t.toMicros? = some u) : u.IsWhole := by
  unfold toMicros? at h
  dsimp only at h
  split at h
  · cases h
    refine ⟨Nat.mod_lt _ (by decide), ?_⟩
    dsimp only
    split
    all_goals omega
  · cases h

/-- A column gives back just what is in whole microseconds. -/
theorem toMicros?_eq_some_self_iff : t.toMicros? = some t ↔ t.IsWhole := by
  refine ⟨isWhole_of_toMicros?, ?_⟩
  rintro ⟨hlt, hdvd⟩
  have hsecond := t.second_lt
  have hnone : t.nanos / 1000000000 = 0 := Nat.div_eq_of_lt hlt
  have hfloor : t.nanos / 1000 * 1000 = t.nanos := Nat.div_mul_cancel hdvd
  have hceil : (t.nanos + 999) / 1000 * 1000 = t.nanos := by
    obtain ⟨n, hn⟩ := hdvd
    rw [hn, Nat.mul_add_div (by decide), Nat.add_zero, Nat.mul_comm]
  have hday : t.second / 86400 = 0 := Nat.div_eq_of_lt hsecond
  -- Neither way of cutting the fraction changes it.
  have hcut (isBefore : Bool) : (if isBefore then (t.nanos + 999) / 1000 * 1000
      else t.nanos / 1000 * 1000) = t.nanos := by
    cases isBefore
    · exact hfloor
    · exact hceil
  unfold toMicros?
  simp only [hnone, Nat.mod_eq_of_lt hlt, hcut, Nat.add_zero, hday, Date.addDays?_zero,
    Nat.mod_eq_of_lt hsecond]

/-- What a column gives back can be kept again. -/
theorem HasMicros.toMicros? (h : t.HasMicros) : t.toMicros? = some t.kept := by
  obtain ⟨u, hu⟩ := Option.isSome_iff_exists.1 h
  rw [kept, hu, Option.getD_some]

/-- An instant is given back unchanged just if it is in whole microseconds. -/
theorem HasMicros.kept_eq_iff (h : t.HasMicros) : t.kept = t ↔ t.IsWhole := by
  rw [← toMicros?_eq_some_self_iff, h.toMicros?]
  exact (Option.some_inj).symm

theorem IsWhole.hasMicros (h : t.IsWhole) : t.HasMicros := by
  rw [HasMicros, toMicros?_eq_some_self_iff.2 h]
  rfl

theorem IsWhole.kept_eq (h : t.IsWhole) : t.kept = t :=
  h.hasMicros.kept_eq_iff.2 h

end Ingestion.Instant
