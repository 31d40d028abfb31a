import Mathlib
import Ingestion.Text

/-!
# Words of a text, and its first character

A text is *spaced* when it begins and ends with a word and has gaps between its words. Its fields
are just these words (`Text.fields_of_spaced`), and every text is spaced that neither begins nor
ends with a white character (`Text.spaced_fields`).

What looks for one character leaves another one where it stands: a text keeps its first character
when it is split or when something else in it is replaced.
-/

namespace Ingestion.Text

/-! ## Characters -/

/-- The visible characters of ASCII are not white. -/
theorem isWhite_of_graphic {c : Char} (hleast : 33 ≤ c.toNat) (hgreatest : c.toNat ≤ 126) :
    isWhite c = false := by
  simp [isWhite]
  omega

theorem isWhite_of_isAlpha {c : Char} (h : c.isAlpha = true) : isWhite c = false := by
  simp [Char.isAlpha, Char.isUpper, Char.isLower, UInt32.le_iff_toNat_le] at h
  exact isWhite_of_graphic (by omega) (by omega)

theorem isWhite_of_isDigit {c : Char} (h : c.isDigit = true) : isWhite c = false := by
  simp [Char.isDigit, UInt32.le_iff_toNat_le] at h
  exact isWhite_of_graphic (by omega) (by omega)

/-- Only letters change with case. -/
theorem toLower_of_not_isAlpha {c : Char} (h : c.isAlpha = false) : c.toLower = c := by
  rw [Char.isAlpha, Bool.or_eq_false_iff] at h
  exact Char.toLower_eq_of_not_isUpper (Bool.eq_false_iff.1 h.1)

theorem isWhite_toLower (c : Char) : isWhite c.toLower = isWhite c := by
  cases h : c.isAlpha with
  | true =>
    rw [isWhite_of_isAlpha h, isWhite_of_isAlpha ((Char.isAlpha_toLower_eq_isAlpha c).trans h)]
  | false => rw [toLower_of_not_isAlpha h]

/-! ## Fields -/

/-- A run of characters that are not white. -/
structure IsWord (word : List Char) : Prop where
  ne_nil : word ≠ []
  not_white : ∀ c ∈ word, isWhite c = false

/-- A run of white characters. -/
structure IsGap (gap : List Char) : Prop where
  ne_nil : gap ≠ []
  white : ∀ c ∈ gap, isWhite c = true

/-- A text is made of words with gaps between them, and begins and ends with a word. -/
inductive Spaced : List (List Char) → List Char → Prop where
  | single {word : List Char} (hword : IsWord word) : Spaced [word] word
  | cons {word gap text : List Char} {words : List (List Char)} (hword : IsWord word)
      (hgap : IsGap gap) (htext : Spaced words text) :
      Spaced (word :: words) (word ++ (gap ++ text))

variable {word gap text : List Char} {words : List (List Char)} {c : Char}

theorem fieldsFrom_word (hword : ∀ c ∈ word, isWhite c = false) (before : List Char) :
    fieldsFrom before (word ++ text) = fieldsFrom (word.reverse ++ before) text := by
  induction word generalizing before with
  | nil => rfl
  | cons c word ih =>
    obtain ⟨hc, hword⟩ := List.forall_mem_cons.1 hword
    rw [List.cons_append, fieldsFrom, hc, List.reverse_cons, List.append_assoc]
    exact ih hword (c :: before)

/-- Blanks at the beginning do not count. -/
theorem fieldsFrom_gap (hgap : ∀ c ∈ gap, isWhite c = true) :
    fieldsFrom [] (gap ++ text) = fieldsFrom [] text := by
  induction gap with
  | nil => rfl
  | cons c gap ih =>
    obtain ⟨hc, hgap⟩ := List.forall_mem_cons.1 hgap
    rw [List.cons_append, fieldsFrom, hc]
    exact ih hgap

theorem fields_word (hword : IsWord word) : fields word = [word] := by
  have hfields : fieldsFrom [] (word ++ []) = fieldsFrom (word.reverse ++ []) [] :=
    fieldsFrom_word hword.not_white []
  rw [List.append_nil, List.append_nil] at hfields
  rw [fields, hfields, fieldsFrom, List.reverse_reverse, List.isEmpty_reverse,
    List.isEmpty_eq_false_iff.2 hword.ne_nil]
  rfl

theorem fields_word_append (hword : IsWord word) (hgap : IsGap gap) (text : List Char) :
    fields (word ++ (gap ++ text)) = word :: fields text := by
  rw [fields, fieldsFrom_word hword.not_white, List.append_nil]
  cases gap with
  | nil => exact absurd rfl hgap.ne_nil
  | cons c gap =>
    obtain ⟨hc, hwhite⟩ := List.forall_mem_cons.1 hgap.white
    rw [List.cons_append, fieldsFrom, hc, List.reverse_reverse, List.isEmpty_reverse,
      List.isEmpty_eq_false_iff.2 hword.ne_nil, fieldsFrom_gap hwhite]
    rfl

/-- The fields of a spaced text are its words. -/
theorem fields_of_spaced (h : Spaced words text) : fields text = words := by
  induction h with
  | single hword => exact fields_word hword
  | cons hword hgap _ ih => rw [fields_word_append hword hgap, ih]

/-- A spaced text begins with a word, which another character may begin. -/
theorem Spaced.exists_cons (h : Spaced words text) (hc : isWhite c = false) :
    ∃ words', Spaced words' (c :: text) := by
  have hlonger {word : List Char} (hword : IsWord word) : IsWord (c :: word) :=
    ⟨List.cons_ne_nil c word, List.forall_mem_cons.2 ⟨hc, hword.not_white⟩⟩
  cases h with
  | single hword => exact ⟨_, .single (hlonger hword)⟩
  | cons hword hgap htext => exact ⟨_, .cons (hlonger hword) hgap htext⟩

/-- A text that does not end with a blank is a spaced one after some blanks. -/
theorem exists_gap_spaced (hlast : ∃ c ∈ text.getLast?, isWhite c = false) :
    ∃ gap rest words, text = gap ++ rest ∧ (∀ c ∈ gap, isWhite c = true) ∧
      Spaced words rest := by
  induction text with
  | nil =>
    obtain ⟨c, hc, -⟩ := hlast
    cases hc
  | cons c text ih =>
    obtain ⟨l, hl, hwhite⟩ := hlast
    cases text with
    | nil =>
      obtain rfl : c = l := Option.some.inj hl
      have hword : IsWord [c] := ⟨List.cons_ne_nil c [], by simpa using hwhite⟩
      exact ⟨[], [c], _, rfl, nofun, .single hword⟩
    | cons d text =>
      rw [List.getLast?_cons_cons] at hl
      obtain ⟨gap, rest, words, htext, hgap, hspaced⟩ := ih ⟨l, hl, hwhite⟩
      rw [htext]
      cases hc : isWhite c with
      | true => exact ⟨c :: gap, rest, words, rfl, List.forall_mem_cons.2 ⟨hc, hgap⟩, hspaced⟩
      | false =>
        -- The character begins a word: that of the rest, or one of its own before a gap.
        cases gap with
        | nil =>
          obtain ⟨words', hwords'⟩ := hspaced.exists_cons hc
          exact ⟨[], _, words', rfl, nofun, hwords'⟩
        | cons g gap =>
          have hword : IsWord [c] := ⟨List.cons_ne_nil c [], by simpa using hc⟩
          exact ⟨[], _, _, rfl, nofun, .cons hword ⟨List.cons_ne_nil g gap, hgap⟩ hspaced⟩

/-- A text that neither begins nor ends with a white character is spaced. -/
theorem spaced_fields {s : String} (hblank : isBlank s = false) (htrimmed : isTrimmed s = true) :
    Spaced (fields s.toList) s.toList := by
  have hne : s.toList ≠ [] := by
    intro hnil
    rw [isBlank, hnil] at hblank
    cases hblank
  rw [isTrimmed, Bool.and_eq_true, Bool.not_eq_true', Bool.not_eq_true',
    List.head?_eq_some_head hne, List.getLast?_eq_some_getLast hne] at htrimmed
  obtain ⟨gap, rest, words, htext, hgap, hspaced⟩ :=
    exists_gap_spaced ⟨_, List.getLast?_eq_some_getLast hne, htrimmed.2⟩
  cases gap with
  | nil =>
    obtain rfl : s.toList = rest := htext
    rwa [fields_of_spaced hspaced]
  | cons g gap =>
    have hhead : s.toList.head hne = g := by simp [htext]
    rw [hhead] at htrimmed
    exact absurd (hgap g List.mem_cons_self) (Bool.eq_false_iff.1 htrimmed.1)

/-- A spaced text begins and ends with characters that are not white. -/
theorem Spaced.ends (h : Spaced words text) :
    (∃ c ∈ text.head?, isWhite c = false) ∧ ∃ c ∈ text.getLast?, isWhite c = false := by
  have hword {word : List Char} (hword : IsWord word) :
      (∃ c ∈ word.head?, isWhite c = false) ∧ ∃ c ∈ word.getLast?, isWhite c = false :=
    ⟨⟨_, List.head?_eq_some_head hword.ne_nil, hword.not_white _ (List.head_mem _)⟩,
      ⟨_, List.getLast?_eq_some_getLast hword.ne_nil, hword.not_white _ (List.getLast_mem _)⟩⟩
  induction h with
  | single h => exact hword h
  | cons h hgap _ ih =>
    obtain ⟨⟨c, hc, hfirst⟩, -⟩ := hword h
    obtain ⟨-, l, hl, hlast⟩ := ih
    refine ⟨⟨c, List.mem_head?_append_of_mem_head? hc, hfirst⟩, l, ?_, hlast⟩
    exact List.mem_getLast?_append_of_mem_getLast? (List.mem_getLast?_append_of_mem_getLast? hl)

theorem Spaced.isBlank_eq {s : String} (h : Spaced words s.toList) : isBlank s = false := by
  obtain ⟨⟨c, hc, hfirst⟩, -⟩ := h.ends
  exact List.all_eq_false.2 ⟨c, List.mem_of_head? hc, by simp [hfirst]⟩

theorem Spaced.isTrimmed_eq {s : String} (h : Spaced words s.toList) : isTrimmed s = true := by
  obtain ⟨⟨c, hc, hfirst⟩, l, hl, hlast⟩ := h.ends
  rw [isTrimmed, Option.mem_def.1 hc, Option.mem_def.1 hl, Option.any_some, Option.any_some,
    hfirst, hlast]
  rfl

/-! ## The first character -/

variable {old new cs : List Char} {sep : Char}

theorem fieldsFrom_eq_cons (hword : word ≠ []) (cs : List Char) :
    ∃ more rest, fieldsFrom word cs = (word.reverse ++ more) :: rest := by
  have hempty : word.isEmpty = false := List.isEmpty_eq_false_iff.2 hword
  induction cs generalizing word with
  | nil =>
    rw [fieldsFrom, hempty]
    exact ⟨[], [], by simp⟩
  | cons c cs ih =>
    rw [fieldsFrom, hempty]
    cases isWhite c with
    | true => exact ⟨[], fieldsFrom [] cs, by simp⟩
    | false =>
      obtain ⟨more, rest, hfields⟩ := ih (List.cons_ne_nil c word) rfl
      rw [List.reverse_cons, List.append_assoc] at hfields
      exact ⟨c :: more, rest, hfields⟩

theorem fields_cons (hc : isWhite c = false) (cs : List Char) :
    ∃ word rest, fields (c :: cs) = (c :: word) :: rest := by
  rw [fields, fieldsFrom, hc]
  exact fieldsFrom_eq_cons (List.cons_ne_nil c []) cs

theorem splitAt_cons (h : c ≠ sep) (cs : List Char) :
    ∃ piece rest, splitAt sep (c :: cs) = (c :: piece) :: rest := by
  rw [splitAt, if_neg h]
  split
  · exact ⟨_, _, rfl⟩
  · exact ⟨_, _, rfl⟩

theorem replace_cons (h : old.head? ≠ some c) (cs : List Char) :
    replace old new (c :: cs) = c :: replace old new cs := by
  have hno : (!old.isEmpty && old.isPrefixOf (c :: cs)) = false := by
    cases old with
    | nil => rfl
    | cons o old =>
      have hne : o ≠ c := fun heq => h (congrArg some heq)
      show (o == c && old.isPrefixOf cs) = false
      rw [beq_eq_false_iff_ne.2 hne, Bool.false_and]
  rw [replace, replaceFrom, hno]
  rfl

/-- Nothing is replaced in a text that holds no first character of what is to be replaced. -/
theorem replace_of_head (h : ∀ c ∈ cs, old.head? ≠ some c) : replace old new cs = cs := by
  induction cs with
  | nil => rfl
  | cons c rest ih =>
    obtain ⟨hc, hrest⟩ := List.forall_mem_cons.1 h
    rw [replace_cons hc, ih hrest]

/-! ## ASCII case -/

theorem toLower_eq_iff {c letter : Char} (hsmall : letter.isUpper = false) :
    c.toLower = letter ↔ c = letter ∨ c = letter.toUpper := by
  have hsame : letter.toLower = letter :=
    Char.toLower_eq_of_not_isUpper (Bool.eq_false_iff.1 hsmall)
  constructor
  · rintro rfl
    by_cases hupper : c.isUpper = true
    · right
      rw [Char.toUpper_toLower_eq_toUpper,
        Char.toUpper_eq_of_not_isLower (Char.not_isLower_of_isUpper hupper)]
    · exact .inl (Char.toLower_eq_of_not_isUpper hupper).symm
  · rintro (rfl | rfl)
    · exact hsame
    · rw [Char.toLower_toUpper_eq_toLower, hsame]

/-- A text is the same as a text of small letters up to case just if it consists of these letters,
each of them small or capital. -/
theorem sameUpToCase_iff {a b : List Char} (hsmall : ∀ letter ∈ b, letter.isUpper = false) :
    sameUpToCase a b = true ↔
      List.Forall₂ (fun c letter => c = letter ∨ c = letter.toUpper) a b := by
  simp only [sameUpToCase, beq_iff_eq]
  induction b generalizing a with
  | nil => simp [lower]
  | cons letter b ih =>
    obtain ⟨hletter, hrest⟩ := List.forall_mem_cons.1 hsmall
    cases a with
    | nil => simp [lower]
    | cons c a =>
      have hcons : lower (c :: a) = lower (letter :: b) ↔
          c.toLower = letter.toLower ∧ lower a = lower b := List.cons_eq_cons
      rw [hcons, Char.toLower_eq_of_not_isUpper (Bool.eq_false_iff.1 hletter),
        toLower_eq_iff hletter, ih hrest, List.forall₂_cons]

/-- Texts with different first characters that are no letters of the other case are different. -/
theorem sameUpToCase_of_head_ne {a b : List Char} (h : (lower a).head? ≠ (lower b).head?) :
    sameUpToCase a b = false := by
  rw [sameUpToCase, beq_eq_false_iff_ne]
  exact fun heq => h (congrArg List.head? heq)

/-- Texts are different if one of them has a character that the other one has in no case. -/
theorem sameUpToCase_of_mem {a b : List Char} (hc : c ∈ b) (h : c.toLower ∉ lower a) :
    sameUpToCase a b = false := by
  rw [sameUpToCase, beq_eq_false_iff_ne]
  intro heq
  exact h (heq ▸ List.mem_map_of_mem hc)

end Ingestion.Text
