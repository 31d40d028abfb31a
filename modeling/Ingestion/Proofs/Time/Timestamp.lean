import Mathlib
import Ingestion.Proofs.Text.Digits
import Ingestion.Proofs.Text.Fields
import Ingestion.Proofs.Time.Calendar
import Ingestion.Time.Format

/-!
# Timestamps read back

The text of an instant is read as this instant (`Instant.ofText?_toText`), in every year of the
calendar, with a fraction of any number of digits, and in a leap second.

A scanner is run on what one part of a timestamp is written as, with the text after it left open.
What it reads is then the part, and what it leaves is the text after it. The digits of a part end
where it does, either because no more of them are allowed or because no digit follows.
-/

namespace Ingestion

namespace Scanner

open Text (paddedDigits)

section Run

variable {α β : Type} {x : Scanner α} {f : α → Scanner β} {text rest : List Char} {a : α}

theorem bind_of_eq_some (h : x text = some (a, rest)) : (x >>= f) text = f a rest := by
  show (x text).bind _ = _
  rw [h]
  rfl

theorem map_of_eq_some {g : α → β} (h : x text = some (a, rest)) :
    (do return g (← x)) text = some (g a, rest) :=
  bind_of_eq_some h

end Run

/-! ## Marks and digits -/

variable {c : Char} {ds rest : List Char}

theorem trimStart_cons (h : Text.isWhite c = false) : Text.trimStart (c :: rest) = c :: rest :=
  List.dropWhile_cons_of_neg (by rw [h]; exact Bool.false_ne_true)

/-- The digits of a text that begins with no more than are allowed. -/
theorem digits_append {most : Nat} (hne : ds ≠ []) (hds : ∀ c ∈ ds, c.isDigit = true)
    (hlength : ds.length ≤ most)
    (hend : ds.length = most ∨ ∀ c ∈ rest.head?, c.isDigit = false) :
    digits most (ds ++ rest) = some (ds, rest) := by
  have hnone : (rest.take (most - ds.length)).takeWhile Char.isDigit = [] := by
    rcases hend with rfl | hend
    · rw [Nat.sub_self]
      rfl
    · cases rest with
      | nil => simp
      | cons c rest =>
        cases most - ds.length with
        | zero => rfl
        | succ n => rw [List.take_succ_cons, List.takeWhile_cons_of_neg (by simp [hend c rfl])]
  have htaken : ((ds ++ rest).take most).takeWhile Char.isDigit = ds := by
    rw [List.take_append, List.take_of_length_le hlength, List.takeWhile_append_of_pos hds, hnone,
      List.append_nil]
  unfold digits
  dsimp only
  rw [htaken, if_neg (by simpa using hne), List.drop_left]

theorem separator_cons (h : Text.isWhite c = false) :
    separator c (c :: rest) = some ((), rest) := by
  unfold separator skipWhite
  rw [bind_of_eq_some rfl, trimStart_cons h]
  simp [oneOf]

/-- White characters are passed over before a number, and it does not begin with one. -/
theorem skipWhite_append (hne : ds ≠ []) (hds : ∀ c ∈ ds, c.isDigit = true) :
    skipWhite (ds ++ rest) = some ((), ds ++ rest) := by
  obtain ⟨d, tail, rfl⟩ := List.exists_cons_of_ne_nil hne
  rw [skipWhite, List.cons_append, trimStart_cons (Text.isWhite_of_isDigit (hds d (by simp)))]

theorem paddedDigits_ne_nil {width n : Nat} (h : 0 < width) : paddedDigits width n ≠ [] :=
  List.ne_nil_of_length_pos (by rw [Text.length_paddedDigits]; exact h)

/-- A number below 100 is read back from two digits. -/
theorem twoDigits_append {n : Nat} (hn : n < 100) (rest : List Char) :
    twoDigits (paddedDigits 2 n ++ rest) = some (n, rest) := by
  have hne : paddedDigits 2 n ≠ [] := paddedDigits_ne_nil (by decide)
  have hds : ∀ c ∈ paddedDigits 2 n, c.isDigit = true := fun c => Text.isDigit_of_mem_paddedDigits
  have hlength := Text.length_paddedDigits 2 n
  unfold twoDigits
  rw [bind_of_eq_some (skipWhite_append hne hds),
    map_of_eq_some (digits_append hne hds (by omega) (.inl hlength)), Text.ofDigits_paddedDigits]
  exact congrArg (fun n => some (n, rest)) (Nat.mod_eq_of_lt hn)

/-! ## Years -/

/-- The digits of a number are read back after a sign, with the zeros before them. -/
theorem signed_append (n : Nat) (rest : List Char) :
    ∃ ds, List.replicate (4 - (toString n).toList.length) '0' ++ (toString n).toList = ds ∧
      digits (ds ++ '-' :: rest).length (ds ++ '-' :: rest) = some (ds, '-' :: rest) ∧
      Text.ofDigits ds = n := by
  rw [Text.toList_toString]
  refine ⟨_, rfl, digits_append ?_ ?_ ?_ (.inr (by simp)), Text.ofDigits_zeros_append _ n⟩
  · intro h
    exact Nat.toDigits_ne_nil (List.append_eq_nil_iff.1 h).2
  · intro c hc
    rcases List.mem_append.1 hc with hc | hc
    · rw [List.eq_of_mem_replicate hc]
      rfl
    · exact Nat.isDigit_of_mem_toDigits (by decide) (by decide) hc
  · exact (List.prefix_append _ _).length_le

theorem year_minus (rest : List Char) : year ('-' :: rest) =
    (digits rest.length rest).map fun (ds, rest) => (-(Text.ofDigits ds : Int), rest) :=
  rfl

theorem year_plus (rest : List Char) : year ('+' :: rest) =
    (digits rest.length rest).map fun (ds, rest) => ((Text.ofDigits ds : Int), rest) :=
  rfl

/-- A year without a sign is read as its digits. -/
theorem year_of_digits (hne : ds ≠ []) (hds : ∀ c ∈ ds, c.isDigit = true)
    (hread : digits 4 (ds ++ rest) = some (ds, rest)) :
    year (ds ++ rest) = some ((Text.ofDigits ds : Int), rest) := by
  obtain ⟨d, tail, rfl⟩ := List.exists_cons_of_ne_nil hne
  have hd : d.isDigit = true := hds d List.mem_cons_self
  rw [List.cons_append] at hread ⊢
  unfold year
  rw [trimStart_cons (Text.isWhite_of_isDigit hd)]
  split
  · next heq =>
    rw [(List.cons.inj heq).1] at hd
    cases hd
  · next heq =>
    rw [(List.cons.inj heq).1] at hd
    cases hd
  · rw [hread]
    rfl

theorem year_append (y : Int) (rest : List Char) :
    year (Date.yearText y ++ '-' :: rest) = some (y, '-' :: rest) := by
  obtain ⟨ds, hsigned, hread, hvalue⟩ := signed_append y.natAbs rest
  unfold Date.yearText
  split_ifs with hshort hneg
  · have hne : paddedDigits 4 y.toNat ≠ [] := paddedDigits_ne_nil (by decide)
    have hds : ∀ c ∈ paddedDigits 4 y.toNat, c.isDigit = true :=
      fun c => Text.isDigit_of_mem_paddedDigits
    have hlength := Text.length_paddedDigits 4 y.toNat
    have hvalue : (Text.ofDigits (paddedDigits 4 y.toNat) : Int) = y := by
      rw [Text.ofDigits_paddedDigits]
      omega
    rw [year_of_digits hne hds (digits_append hne hds hlength.le (.inl hlength)), hvalue]
  · rw [List.cons_append, hsigned, List.cons_append, year_minus, hread]
    refine congrArg some (Prod.ext ?_ rfl)
    show -(Text.ofDigits ds : Int) = y
    omega
  · rw [List.cons_append, hsigned, List.cons_append, year_plus, hread]
    refine congrArg some (Prod.ext ?_ rfl)
    show (Text.ofDigits ds : Int) = y
    omega

/-! ## Dates and times -/

theorem date_append (d : Date) (rest : List Char) :
    date (d.toText ++ rest) = some (d, rest) := by
  obtain ⟨-, ⟨-, hmonth⟩, -, hday⟩ := d.valid
  have hlength := monthLength_le d.year d.month
  have hdate : Date.of? d.year d.month d.day = some d := Date.of?_eq_some_iff.2 ⟨rfl, rfl, rfl⟩
  rw [Date.toText]
  simp only [List.append_assoc, List.cons_append]
  unfold date
  rw [bind_of_eq_some (year_append _ _), bind_of_eq_some (separator_cons (by decide)),
    bind_of_eq_some (twoDigits_append (by omega) _),
    bind_of_eq_some (separator_cons (by decide)),
    bind_of_eq_some (twoDigits_append (by omega) _), hdate]
  rfl

/-- A fraction is written in some number of digits, unless there is none. -/
theorem fractionText_cases {nanos : Nat} (hnanos : nanos < 1000000000) :
    nanos = 0 ∧ Instant.fractionText nanos = [] ∨
      ∃ width n, 0 < width ∧ width ≤ 9 ∧ n < 10 ^ width ∧ n * 10 ^ (9 - width) = nanos ∧
        Instant.fractionText nanos = '.' :: paddedDigits width n := by
  unfold Instant.fractionText
  split_ifs with hnone hmillis hmicros
  · exact .inl ⟨hnone, rfl⟩
  · exact .inr ⟨3, nanos / 1000000, by decide, by decide, by omega, by omega, rfl⟩
  · exact .inr ⟨6, nanos / 1000, by decide, by decide, by omega, by omega, rfl⟩
  · exact .inr ⟨9, nanos, by decide, by decide, by omega, by omega, rfl⟩

/-- A fraction is read up to the mark of universal time. -/
theorem fraction_append {width n : Nat} (hpos : 0 < width) (hwidth : width ≤ 9)
    (hn : n < 10 ^ width) :
    fraction (paddedDigits width n ++ ['Z']) = some (n * 10 ^ (9 - width), ['Z']) := by
  have hlength := Text.length_paddedDigits width n
  have hread : digits 9 (paddedDigits width n ++ ['Z']) = some (paddedDigits width n, ['Z']) :=
    digits_append (paddedDigits_ne_nil hpos) (fun c => Text.isDigit_of_mem_paddedDigits)
      (by omega) (.inr (by simp))
  unfold fraction
  rw [bind_of_eq_some hread, Text.ofDigits_paddedDigits, Nat.mod_eq_of_lt hn, hlength]
  rfl

/-- What comes after the fraction of a second goes on at the mark of universal time. -/
theorem fractionText_bind {β : Type} {nanos : Nat} (hnanos : nanos < 1000000000)
    (next : Nat → Scanner β) :
    (get >>= fun text : List Char => match text with
      | '.' :: rest => do
        set rest
        let nanos ← fraction
        next nanos
      | _ => next 0 : Scanner β) (Instant.fractionText nanos ++ ['Z']) = next nanos ['Z'] := by
  rw [bind_of_eq_some (x := get) rfl]
  rcases fractionText_cases hnanos with ⟨rfl, htext⟩ | ⟨width, n, hpos, hwidth, hn, rfl, htext⟩
  · rw [htext]
    rfl
  · rw [htext, List.cons_append]
    show (set (paddedDigits width n ++ ['Z']) >>= fun _ => fraction >>= next : Scanner β) _ = _
    rw [bind_of_eq_some (x := set _) rfl, bind_of_eq_some (fraction_append hpos hwidth hn)]

theorem guard_of {p : Prop} [Decidable p] (h : p) :
    (guard p : Scanner Unit) rest = some ((), rest) := by
  rw [guard, if_pos h]
  rfl

/-- Second 60 is read as the fraction that a leap second is kept as. -/
theorem time_append {hour minute second nanos : Nat} (hhour : hour ≤ 23) (hminute : minute ≤ 59)
    (hsecond : second ≤ 60) (hnanos : nanos < 1000000000) :
    time (paddedDigits 2 hour ++ ':' :: (paddedDigits 2 minute ++ ':' ::
      (paddedDigits 2 second ++ (Instant.fractionText nanos ++ ['Z'])))) =
      some (if second = 60 then (hour * 3600 + minute * 60 + 59, 1000000000 + nanos)
        else (hour * 3600 + minute * 60 + second, nanos), ['Z']) := by
  unfold time
  rw [bind_of_eq_some (twoDigits_append (by omega) _),
    bind_of_eq_some (separator_cons (by decide)),
    bind_of_eq_some (twoDigits_append (by omega) _),
    bind_of_eq_some (separator_cons (by decide)),
    bind_of_eq_some (twoDigits_append (by omega) _),
    bind_of_eq_some (guard_of (by simp [*]))]
  refine (fractionText_bind hnanos _).trans ?_
  split_ifs <;> rfl

end Scanner

/-! ## Instants -/

namespace Instant

open Text (paddedDigits)

variable (t : Instant)

/-- The time of day that an instant is written with. -/
def timeText : List Char :=
  paddedDigits 2 (t.second / 3600) ++ ':' :: (paddedDigits 2 (t.second / 60 % 60) ++ ':' ::
    (paddedDigits 2 (t.second % 60 + t.nanos / 1000000000) ++
      (fractionText (t.nanos % 1000000000) ++ ['Z'])))

theorem toList_toText : t.toText.toList = t.date.toText ++ 'T' :: t.timeText := by
  simp only [toText, timeText, String.toList_ofList, List.append_assoc, List.cons_append]

/-- The second and its fraction are read back, also when the fraction runs on into a leap second. -/
theorem time_timeText : Scanner.time t.timeText = some ((t.second, t.nanos), ['Z']) := by
  have hsecond := t.second_lt
  have hnanos := t.nanos_lt
  have hleap := t.leap
  have hhours : t.second / 3600 ≤ 23 := by omega
  have hminutes : t.second / 60 % 60 ≤ 59 := by omega
  have hseconds : t.second % 60 + t.nanos / 1000000000 ≤ 60 := by omega
  have hfraction : t.nanos % 1000000000 < 1000000000 := Nat.mod_lt _ (by decide)
  rw [timeText, Scanner.time_append hhours hminutes hseconds hfraction]
  refine congrArg (fun time => some (time, ['Z'])) ?_
  split_ifs
  · exact Prod.ext (by dsimp only; omega) (by dsimp only; omega)
  · exact Prod.ext (by dsimp only; omega) (by dsimp only; omega)

/-- An instant is read from a local time of its own day. -/
theorem ofLocal?_of_sub_eq {second : Nat} {offset : Int}
    (h : (second : Int) - offset = t.second) :
    ofLocal? t.date second t.nanos offset = some t := by
  have hlt := t.second_lt
  have hsame : ((t.second : Int) % 86400).toNat = t.second := by omega
  unfold ofLocal?
  simp only [h, hsame]
  rw [if_neg (by omega), if_pos (by omega)]
  exact dif_pos ⟨hlt, t.nanos_lt, t.leap⟩

theorem scanner_toText : scanner t.toText.toList = some (t, []) := by
  rw [toList_toText]
  unfold scanner
  rw [Scanner.bind_of_eq_some (Scanner.date_append _ _),
    Scanner.bind_of_eq_some (x := Scanner.oneOf _) rfl, Scanner.bind_of_eq_some t.time_timeText]
  dsimp only
  rw [Scanner.bind_of_eq_some (x := Scanner.skipWhite) rfl,
    Scanner.bind_of_eq_some (x := Scanner.offset) rfl, t.ofLocal?_of_sub_eq (Int.sub_zero _)]
  rfl

/-- The text of an instant is read as this instant. -/
theorem ofText?_toText : ofText? t.toText = some t := by
  have hread : scanner.run t.toText.toList = some (t, []) := t.scanner_toText
  unfold ofText?
  rw [hread]
  rfl

end Instant

end Ingestion
