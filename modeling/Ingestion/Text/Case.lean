import Ingestion.Text
import Ingestion.Text.CaseTable

/-!
# Small letters

`toSmall` writes a text in small letters, as the Unicode standard defines it. Most capital letters
have one small letter whatever stands around them. The letter sigma has another one at the end of
a word: where a letter stands before it and none after it, apart from characters that do not
matter for case, such as apostrophes and accents.

For ASCII texts this is `Text.lower`, which is `toSmall_of_ascii`.
-/

namespace Ingestion.Text

/-- Whether one of the ranges holds a code point. -/
def isWithin (ranges : List (Nat × Nat)) (n : Nat) : Bool :=
  ranges.any fun r => r.1 ≤ n && n ≤ r.2

/-- Whether a character is passed over in looking for the letters around another one. -/
def isIgnorable (c : Char) : Bool :=
  isWithin ignorableRanges c.toNat

/-- Whether a character is a letter that has a case. -/
def isCased (c : Char) : Bool :=
  isWithin casedRanges c.toNat

/-- Whether the first character that matters for case is a letter that has one. -/
def startsCased (cs : List Char) : Bool :=
  (cs.dropWhile isIgnorable).head?.any isCased

/-- Whether the run holds a capital letter. -/
def CapitalRun.has (r : CapitalRun) (n : Nat) : Bool :=
  r.first ≤ n && n ≤ r.last && (n - r.first) % r.step == 0

/-- The small letter of a character outside ASCII, or the character itself if it has none. -/
def smallLetter (c : Char) : Char :=
  match capitalRuns.find? (·.has c.toNat) with
  | some r => Char.ofNat (c.toNat + r.shift).toNat
  | none => c

/-- The small letters of a character between others. The characters before it are listed from the
nearest one on. -/
def smallLetters (before : List Char) (c : Char) (after : List Char) : List Char :=
  if c.toNat < 0x80 then [c.toLower]
  else if c = '\u0130' then ['i', '\u0307']
  else if c = '\u03a3' then
    if startsCased before && !startsCased after then ['\u03c2'] else ['\u03c3']
  else [smallLetter c]

/-- The small letters of a text that follows the characters `before`, the nearest one first. -/
def toSmallAfter : List Char → List Char → List Char
  | _, [] => []
  | before, c :: after => smallLetters before c after ++ toSmallAfter (c :: before) after

/-- The text in small letters. -/
def toSmall (cs : List Char) : List Char :=
  toSmallAfter [] cs

theorem toSmallAfter_of_ascii {before cs : List Char} (h : ∀ c ∈ cs, c.toNat < 0x80) :
    toSmallAfter before cs = lower cs := by
  induction cs generalizing before with
  | nil => rfl
  | cons c after ih =>
    have hc : c.toNat < 0x80 := h c List.mem_cons_self
    rw [toSmallAfter, smallLetters, if_pos hc, ih fun c hc => h c (List.mem_cons_of_mem _ hc)]
    rfl

/-- For ASCII texts the letters `A` to `Z` are the only ones to change. -/
theorem toSmall_of_ascii {cs : List Char} (h : ∀ c ∈ cs, c.toNat < 0x80) :
    toSmall cs = lower cs :=
  toSmallAfter_of_ascii h

end Ingestion.Text
