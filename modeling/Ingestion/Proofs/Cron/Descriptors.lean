import Mathlib
import Ingestion.Proofs.Cron.Conditions
import Ingestion.Proofs.Text.Fields

/-!
# Descriptors

The fields of an expression that begins with `@` are not counted. What is no descriptor is refused
all the same: nothing is replaced at the sign, so the first part of the first field begins with it,
and whatever form that part has, a number is to be read from its beginning (`Part.read_at`). No
number begins with `@`.

So an expression is accepted only if it is a descriptor or has five fields, with no blanks around
them (`accepted_shape`).
-/

namespace Ingestion.Cron

open Text (splitAt splitAt_cons)

/-! ## Parts that begin with the sign -/

/-- A computation that does not succeed. -/
abbrev Fails {ε α : Type} (x : Except ε α) : Prop :=
  Yields (fun _ => False) x

theorem Yields.of_fails {ε α β : Type} {P : β → Prop} {x : Except ε α} {f : α → Except ε β}
    (h : Fails x) : Yields P (x >>= f) := by
  intro b hb
  obtain ⟨a, ha, -⟩ := exists_of_bind_eq_ok hb
  exact (h a ha).elim

namespace Part

variable {slot : Slot}

theorem number_at (cs : List Char) (fault : PartFault) :
    Fails (number ('@' :: cs) fault) :=
  nofun

theorem readStepped_at (cs : List Char) :
    Fails (readStepped slot ('@' :: cs)) := by
  unfold readStepped
  refine .bind fun mark => ?_
  obtain ⟨left, rest, hleft⟩ := splitAt_cons (show '@' ≠ '/' by decide) (strip cs)
  have hstrip : splitAt '/' (strip ('@' :: cs)) = ('@' :: left) :: rest := hleft
  rw [hstrip]
  split
  · next left' right hpieces =>
    obtain ⟨rfl, rfl⟩ := List.cons.inj hpieces
    refine .bind fun step => .guard ?_
    split_ifs with hstar
    · cases hstar
    · obtain ⟨start, more, hstart⟩ := splitAt_cons (show '@' ≠ '-' by decide) left
      rw [hstart]
      split
      · next a b hends =>
        obtain ⟨rfl, rfl⟩ := List.cons.inj hends
        exact .of_fails (number_at start _)
      · exact nofun
    · exact .of_fails (number_at left _)
  · exact nofun

theorem readRange_at (cs : List Char) : Fails (readRange slot ('@' :: cs)) := by
  unfold readRange
  refine .bind fun mark => ?_
  obtain ⟨start, rest, hstart⟩ := splitAt_cons (show '@' ≠ '-' by decide) (strip cs)
  have hstrip : splitAt '-' (strip ('@' :: cs)) = ('@' :: start) :: rest := hstart
  rw [hstrip]
  split
  · next a b hends =>
    obtain ⟨rfl, rfl⟩ := List.cons.inj hends
    exact .of_fails (number_at start _)
  · exact nofun

theorem readClosest_at (cs : List Char) :
    Fails (readClosest slot ('@' :: cs)) :=
  .of_fails (number_at (cs.takeWhile (· != 'w')) _)

theorem readValue_at (cs : List Char) : Fails (readValue slot ('@' :: cs)) := by
  have hsign : (if '@' = 'l' then 'L' else '@') = '@' := rfl
  unfold readValue
  dsimp only
  -- The sign stays in front, whether a `#` is put before the mark or not.
  rw [List.map_cons, hsign, Text.replace_cons (by decide), ← apply_ite (List.cons '@')]
  exact .guard (.guard (.bind fun mark => .of_fails (number_at (strip _) _)))

/-- No part that begins with `@` is accepted. -/
theorem read_at (cs : List Char) : Fails (read slot ('@' :: cs)) := by
  unfold read
  split_ifs with hslash hhyphen hclosest hlast
  · exact readStepped_at cs
  · exact readRange_at cs
  · exact readClosest_at cs
  · cases hlast
  · exact readValue_at cs

end Part

/-! ## Expressions that begin with the sign -/

theorem Field.read_at {slot : Slot} (cs : List Char) :
    Fails (Field.read slot ('@' :: cs)) := by
  obtain ⟨piece, rest, hpieces⟩ := splitAt_cons (show '@' ≠ ',' by decide) cs
  rw [Field.read, if_neg (by simp), hpieces, List.filter_cons_of_pos rfl, List.mapM_cons]
  exact .of_fails (.of_fails (Part.read_at piece))

theorem Schedule.ofPattern_at (cs : List Char) :
    Fails (ofPattern ('@' :: cs)) := by
  obtain ⟨word, rest, hfields⟩ := Text.fields_cons (show Text.isWhite '@' = false by decide) cs
  rw [ofPattern, hfields]
  split
  · next minute hour day month weekday htexts =>
    obtain ⟨rfl, -⟩ := List.cons.inj htexts
    refine .of_fails ?_
    intro f hf
    exact Field.read_at word f (readField_eq_ok hf)
  · exact nofun
  · exact nofun

/-! ## Rewriting -/

/-- The text with `*` in place of `?`. -/
def withStars (cs : List Char) : List Char :=
  cs.map fun c => if c = '?' then '*' else c

/-- The text with numbers in place of the names of weekdays and months. -/
def replaceNames (cs : List Char) : List Char :=
  names.foldl (fun cs name => Text.replace name.1.toList name.2.toList cs) cs

theorem normalize_eq (cs : List Char) :
    normalize cs = replaceNames (Text.toSmall (expandDescriptor (withStars cs))) :=
  rfl

theorem replaceNames_at (cs : List Char) : ∃ text, replaceNames ('@' :: cs) = '@' :: text := by
  have hpairs (pairs : List (String × String))
      (hhead : ∀ pair ∈ pairs, pair.1.toList.head? ≠ some '@') (cs : List Char) : ∃ text,
      pairs.foldl (fun cs pair => Text.replace pair.1.toList pair.2.toList cs) ('@' :: cs) =
        '@' :: text := by
    induction pairs generalizing cs with
    | nil => exact ⟨cs, rfl⟩
    | cons pair rest ih =>
      obtain ⟨hpair, hrest⟩ := List.forall_mem_cons.1 hhead
      rw [List.foldl_cons, Text.replace_cons hpair]
      exact ih hrest _
  exact hpairs names (by decide +kernel) cs

/-! ## Descriptors -/

/-- The text is a descriptor, in letters of either case. -/
def IsDescriptor (expression : String) : Prop :=
  ∃ d ∈ ["@yearly", "@annually", "@monthly", "@weekly", "@daily", "@hourly"],
    Text.sameUpToCase d.toList expression.toList = true

theorem isDescriptor_iff {expression : String} : IsDescriptor expression ↔
    ∃ d ∈ descriptors, Text.sameUpToCase d.1.toList expression.toList = true := by
  have hnames : ["@yearly", "@annually", "@monthly", "@weekly", "@daily", "@hourly"] =
      descriptors.map Prod.fst := rfl
  simp only [IsDescriptor, hnames, List.mem_map, exists_exists_and_eq_and]

/-- A descriptor is one word. -/
theorem IsDescriptor.isWord {expression : String} (h : IsDescriptor expression) :
    Text.IsWord expression.toList := by
  obtain ⟨d, hd, hsame⟩ := isDescriptor_iff.1 h
  have hlower : Text.lower d.1.toList = Text.lower expression.toList := beq_iff_eq.1 hsame
  have hword : ∀ d ∈ descriptors, Text.lower d.1.toList ≠ [] ∧
      (Text.lower d.1.toList).any Text.isWhite = false := by
    decide +kernel
  obtain ⟨hne, hwhite⟩ := hword d hd
  rw [hlower] at hne hwhite
  refine ⟨fun hnil => hne (congrArg Text.lower hnil), ?_⟩
  intro c hc
  rw [← Text.isWhite_toLower]
  exact Bool.eq_false_iff.2 (List.any_eq_false.1 hwhite _ (List.mem_map_of_mem hc))

theorem IsDescriptor.head?_eq {expression : String} (h : IsDescriptor expression) :
    expression.toList.head? = some '@' := by
  obtain ⟨d, hd, hsame⟩ := isDescriptor_iff.1 h
  have hhead : ∀ d ∈ descriptors, (Text.lower d.1.toList).head? = some '@' := by decide +kernel
  have hlower : Text.lower d.1.toList = Text.lower expression.toList := beq_iff_eq.1 hsame
  replace hhead := hhead d hd
  rw [hlower, Text.lower, List.head?_map, Option.map_eq_some_iff] at hhead
  obtain ⟨c, hc, hat⟩ := hhead
  have halpha : c.isAlpha = false := by
    rw [← Char.isAlpha_toLower_eq_isAlpha, hat]
    decide
  rw [Text.toLower_of_not_isAlpha halpha] at hat
  rwa [hat] at hc

/-- A question mark is in no descriptor, and neither is what stands for it. -/
theorem sameUpToCase_withStars {d : String × String} (hd : d ∈ descriptors) (cs : List Char) :
    Text.sameUpToCase d.1.toList (withStars cs) = Text.sameUpToCase d.1.toList cs := by
  by_cases hmark : '?' ∈ cs
  · have hsigns : ∀ d ∈ descriptors,
        '?' ∉ Text.lower d.1.toList ∧ '*' ∉ Text.lower d.1.toList := by
      decide +kernel
    obtain ⟨hquestion, hstar⟩ := hsigns d hd
    have hmem : '*' ∈ withStars cs := List.mem_map.2 ⟨'?', hmark, rfl⟩
    rw [Text.sameUpToCase_of_mem hmem hstar, Text.sameUpToCase_of_mem hmark hquestion]
  · have hsame : withStars cs = cs := by
      refine (List.map_congr_left fun c hc => if_neg ?_).trans (List.map_id _)
      rintro rfl
      exact hmark hc
    rw [hsame]

/-- A descriptor stands for its fields, whatever the case of its letters. -/
theorem expandDescriptor_of_mem {d : String × String} (hd : d ∈ descriptors) {cs : List Char}
    (h : Text.sameUpToCase d.1.toList cs = true) :
    expandDescriptor (withStars cs) = d.2.toList := by
  have hfind : ∀ d ∈ descriptors,
      (descriptors.find? fun d' => Text.sameUpToCase d'.1.toList d.1.toList) = some d := by
    decide +kernel
  have hlower : Text.lower d.1.toList = Text.lower cs := beq_iff_eq.1 h
  have hfound : (descriptors.find? fun d' => Text.sameUpToCase d'.1.toList (withStars cs)) =
      some d := by
    rw [← hfind d hd]
    refine List.find?_congr fun d' hd' => ?_
    rw [sameUpToCase_withStars hd', Text.sameUpToCase, Text.sameUpToCase, hlower]
  rw [expandDescriptor, hfound]

/-- What is no descriptor keeps its sign. -/
theorem normalize_at {cs : List Char}
    (h : ∀ d ∈ descriptors, Text.sameUpToCase d.1.toList ('@' :: cs) = false) :
    ∃ text, normalize ('@' :: cs) = '@' :: text := by
  have hnone : (descriptors.find? fun d =>
      Text.sameUpToCase d.1.toList (withStars ('@' :: cs))) = none := by
    rw [List.find?_eq_none]
    intro d hd
    rw [sameUpToCase_withStars hd, h d hd]
    exact Bool.false_ne_true
  have hexpand : expandDescriptor (withStars ('@' :: cs)) = '@' :: withStars cs := by
    rw [expandDescriptor, hnone]
    rfl
  have hsmall (cs : List Char) :
      Text.toSmall ('@' :: cs) = '@' :: Text.toSmallAfter ['@'] cs := rfl
  rw [normalize_eq, hexpand, hsmall]
  exact replaceNames_at _

/-! ## What is accepted -/

variable {expression : String} {s : Schedule}

namespace Schedule

/-- An expression is accepted if it has no blanks around it, its fields are five unless it begins
with `@`, and they can be read once it is rewritten. -/
theorem read_eq_ok_iff_spaced : read expression = .ok s ↔
    Text.Spaced (Text.fields expression.toList) expression.toList ∧
      (expression.toList.head? = some '@' ∨ (Text.fields expression.toList).length = 5) ∧
      ofPattern (normalize expression.toList) = .ok s := by
  unfold read
  dsimp only
  constructor
  · intro h
    split_ifs at h with hblank htrimmed hcount
    have hspaced := Text.spaced_fields (Bool.eq_false_iff.2 hblank) (by simpa using htrimmed)
    exact ⟨hspaced, Decidable.or_iff_not_not_and_not.2 hcount, h⟩
  · rintro ⟨hspaced, hcount, h⟩
    rw [hspaced.isBlank_eq, hspaced.isTrimmed_eq, Bool.not_true, if_neg Bool.false_ne_true,
      if_neg Bool.false_ne_true, if_neg (Decidable.or_iff_not_not_and_not.1 hcount)]
    exact h

/-- What begins with `@` and is no descriptor is refused. -/
theorem read_at (hat : expression.toList.head? = some '@') (h : ¬ IsDescriptor expression) :
    Fails (read expression) := by
  obtain ⟨cs, hcs⟩ := List.head?_eq_some_iff.1 hat
  have hnone : ∀ d ∈ descriptors, Text.sameUpToCase d.1.toList ('@' :: cs) = false := by
    intro d hd
    rw [← hcs]
    exact Bool.eq_false_iff.2 fun hsame => h (isDescriptor_iff.2 ⟨d, hd, hsame⟩)
  obtain ⟨text, htext⟩ := normalize_at hnone
  intro s hs
  obtain ⟨-, -, hpattern⟩ := read_eq_ok_iff_spaced.1 hs
  rw [hcs, htext] at hpattern
  exact ofPattern_at text s hpattern

end Schedule

theorem isDescriptor_of_read (hat : expression.toList.head? = some '@')
    (h : Cron.read expression = .ok s) : IsDescriptor expression := by
  by_contra hno
  exact Schedule.read_at hat hno s (read_eq_ok_iff.1 h)

/-- A descriptor is accepted because its fields are. -/
theorem IsDescriptor.exists_read (h : IsDescriptor expression) :
    ∃ s, Cron.read expression = .ok s := by
  obtain ⟨d, hd, hsame⟩ := isDescriptor_iff.1 h
  have hfields : ∀ d ∈ descriptors,
      (Schedule.ofPattern (replaceNames (Text.toSmall d.2.toList))).isOk = true := by
    decide +kernel
  replace hfields := hfields d hd
  cases hpattern : Schedule.ofPattern (replaceNames (Text.toSmall d.2.toList)) with
  | error fault =>
    rw [hpattern] at hfields
    cases hfields
  | ok s =>
    refine ⟨s, read_eq_ok_iff.2 (Schedule.read_eq_ok_iff_spaced.2 ⟨?_, .inl h.head?_eq, ?_⟩)⟩
    · rw [Text.fields_word h.isWord]
      exact .single h.isWord
    · rw [normalize_eq, expandDescriptor_of_mem hd hsame, hpattern]

/-- What begins with `@` is accepted just if it is a descriptor. Everything else that is accepted
has five words, with gaps between them and no blanks around them. What begins with `@` and has
several words, as five or six fields have, is refused. -/
theorem accepted_shape (expression : String) :
    (expression.toList.head? = some '@' →
      ((∃ s, Cron.read expression = .ok s) ↔ IsDescriptor expression)) ∧
    (∀ s, Cron.read expression = .ok s → expression.toList.head? ≠ some '@' →
      (∃ words, words.length = 5 ∧ Text.Spaced words expression.toList) ∧
        Text.isTrimmed expression = true) ∧
    ∀ words, Text.Spaced words expression.toList → expression.toList.head? = some '@' →
      words.length ≠ 1 → ∃ fault, Cron.read expression = .error fault := by
  refine ⟨fun hat => ⟨?_, IsDescriptor.exists_read⟩, ?_, ?_⟩
  · rintro ⟨s, hs⟩
    exact isDescriptor_of_read hat hs
  · intro s hs hat
    obtain ⟨hspaced, hcount, -⟩ := Schedule.read_eq_ok_iff_spaced.1 (read_eq_ok_iff.1 hs)
    exact ⟨⟨_, hcount.resolve_left hat, hspaced⟩, hspaced.isTrimmed_eq⟩
  · intro words hwords hat hlength
    cases hread : Cron.read expression with
    | error fault => exact ⟨fault, rfl⟩
    | ok s =>
      -- A descriptor is a single word.
      have hword := (isDescriptor_of_read hat hread).isWord
      have hsingle : words = [expression.toList] :=
        (Text.fields_of_spaced hwords).symm.trans (Text.fields_word hword)
      exact absurd (congrArg List.length hsingle) hlength

/-- A descriptor is accepted with a capital letter. Five fields are not when they begin with one. -/
theorem daily_accepted : (∃ s, Cron.read "@Daily" = .ok s) ∧
    ∃ fault, Cron.read "@daily 0 * * *" = .error fault := by
  obtain ⟨hdescriptor, -, -⟩ := accepted_shape "@Daily"
  obtain ⟨-, -, hrefused⟩ := accepted_shape "@daily 0 * * *"
  refine ⟨(hdescriptor rfl).2 ⟨"@daily", by simp, by decide +kernel⟩, ?_⟩
  exact hrefused _ (Text.spaced_fields (by decide +kernel) (by decide +kernel)) rfl
    (by decide +kernel)

end Ingestion.Cron
