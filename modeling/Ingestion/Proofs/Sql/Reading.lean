import Mathlib
import Ingestion.Sql.Statement

/-!
# Reading conditions back

A statement reaches the server as a text with numbered places, and a list of parameters.
`readClause` reads the conditions of a `WHERE` clause back from the two: it cuts the text into words
and signs, takes the word `$n` for the `n`-th parameter, and splits the clause at each `AND`. What
is sent for conditions is read back as just these conditions (`readClause_wherePieces`), whatever
has to be numbered before them. So the text has the meaning that `Condition.holds` gives to the
tree.
-/

namespace Ingestion.Sql

/-! ## Words -/

/-- The characters that words are made of. -/
def isWordChar (c : Char) : Bool :=
  c.isAlphanum || c == '_' || c == '$'

/-- The words and signs of a text, without the blanks between them. -/
def lex (text : String) : List String :=
  ((text.toList.splitBy fun a b => isWordChar a && isWordChar b).filter (· ≠ [' '])).map
    String.ofList

/-- A text is a word. -/
def IsWord (s : String) : Prop :=
  s.toList ≠ [] ∧ s.toList.all isWordChar = true

instance (s : String) : Decidable (IsWord s) :=
  inferInstanceAs (Decidable (_ ∧ _))

/-- Two texts are cut one by one if no word goes over from the first to the second. -/
theorem lex_append {s t : String} (h : ∀ a ∈ s.toList.getLast?, ∀ b ∈ t.toList.head?,
    (isWordChar a && isWordChar b) = false) : lex (s ++ t) = lex s ++ lex t := by
  rw [lex, String.toList_append, List.splitBy_append h, List.filter_append, List.map_append]
  rfl

theorem lex_append_of_head {s t : String} (h : ∀ b ∈ t.toList.head?, isWordChar b = false) :
    lex (s ++ t) = lex s ++ lex t :=
  lex_append fun a _ b hb => by rw [h b hb, Bool.and_false]

theorem lex_append_of_last {s t : String} (h : ∀ a ∈ s.toList.getLast?, isWordChar a = false) :
    lex (s ++ t) = lex s ++ lex t :=
  lex_append fun a ha b _ => by rw [h a ha, Bool.false_and]

theorem lex_word {s : String} (h : IsWord s) : lex s = [s] := by
  obtain ⟨hne, hall⟩ := h
  rw [List.all_eq_true] at hall
  have hchain : s.toList.IsChain fun a b => (isWordChar a && isWordChar b) = true := by
    refine List.Pairwise.isChain (List.pairwise_iff_forall_sublist.2 ?_)
    intro a b hsub
    rw [hall a (hsub.subset (by simp)), hall b (hsub.subset (by simp))]
    rfl
  have hblank : s.toList ≠ [' '] := by
    intro hs
    have := hall ' ' (by rw [hs]; exact List.mem_singleton_self _)
    exact absurd this (by decide)
  rw [lex, List.splitBy_of_isChain hne hchain, List.filter_cons_of_pos (by simpa using hblank)]
  simp

/-- A text starts and ends with a sign or a blank. -/
def IsSeparator (s : String) : Prop :=
  s.toList.head?.any (!isWordChar ·) = true ∧ s.toList.getLast?.any (!isWordChar ·) = true

instance (s : String) : Decidable (IsSeparator s) :=
  inferInstanceAs (Decidable (_ ∧ _))

/-- A separator keeps what stands before it and after it apart. -/
theorem lex_separated {separator : String} (h : IsSeparator separator) (s t : String) :
    lex (s ++ (separator ++ t)) = lex s ++ (lex separator ++ lex t) := by
  obtain ⟨hfirst, hlast⟩ := h
  obtain ⟨first, hfirst, hfirstSign⟩ := (Option.any_eq_true _ _).1 hfirst
  obtain ⟨last, hlast, hlastSign⟩ := (Option.any_eq_true _ _).1 hlast
  rw [Bool.not_eq_true'] at hfirstSign hlastSign
  rw [lex_append_of_head, lex_append_of_last]
  · intro a ha
    rw [Option.mem_unique ha hlast]
    exact hlastSign
  · intro b hb
    rw [String.toList_append, List.head?_append, hfirst, Option.some_or] at hb
    rw [← Option.some.inj hb]
    exact hfirstSign

theorem lex_closed {separator : String} (h : IsSeparator separator) (s : String) :
    lex (s ++ separator) = lex s ++ lex separator := by
  have hempty : lex "" = [] := rfl
  have hclosed := lex_separated h s ""
  rw [String.append_empty, hempty, List.append_nil] at hclosed
  exact hclosed

/-! ## The reader -/

/-- The parameter of a number in digits. The first parameter has the number 1. -/
def readPlace (params : List Param) (digits : String) : Option Operand :=
  match digits.toNat? with
  | some (n + 1) =>
    match params[n]? with
    | some (.value d) => some (.param d)
    | _ => none
  | _ => none

/-- The operand of a word. -/
def readOperand (params : List Param) (word : String) : Option Operand :=
  match word.toList with
  | [] => none
  | c :: rest =>
    if c = '$' then readPlace params (String.ofList rest)
    else if c.isDigit then word.toNat?.map fun n : Nat => .literal word (.int4 n)
    else if word = "TRUE" then some (boolean true)
    else if word = "FALSE" then some (boolean false)
    else some (.column word)

/-- The operands of words with commas between them and a bracket after them. -/
def readList (params : List Param) : List String → Option (List Operand)
  | word :: sign :: rest =>
    match readOperand params word with
    | none => none
    | some o =>
      if sign = ")" ∧ rest = [] then some [o]
      else if sign = "," then (readList params rest).map (o :: ·)
      else none
  | _ => none

/-- The condition of words. -/
def readCondition (params : List Param) : List String → Option Condition
  | [a, "=", b] => do return .equal (← readOperand params a) (← readOperand params b)
  | [a, "=", "ANY", "(", column, ")"] => do return .equalAny (← readOperand params a) column
  | a :: "NOT" :: "IN" :: "(" :: list => do
    return .notIn (← readOperand params a) (← readList params list)
  | _ => none

/-- The conditions of a `WHERE` clause with its parameters, none if it is no such clause. -/
def readClause (params : List Param) (text : String) : Option (List Condition) :=
  match lex text with
  | "WHERE" :: words => (words.splitOn "AND").mapM (readCondition params)
  | _ => none

/-! ## Numbered places -/

namespace Piece

theorem params_append (xs ys : List Piece) : params (xs ++ ys) = params xs ++ params ys := by
  induction xs with
  | nil => rfl
  | cons x xs ih => cases x <;> simp [params, ih]

/-- The places of later pieces are numbered on. -/
theorem render_append (index : Nat) (xs ys : List Piece) :
    render index (xs ++ ys) = render index xs ++ render (index + (params xs).length) ys := by
  induction xs generalizing index with
  | nil => simp [render, params]
  | cons x xs ih =>
    cases x with
    | text s => simp [render, params, ih, String.append_assoc]
    | place p =>
      simp [render, params, ih, String.append_assoc, Nat.add_assoc, Nat.add_comm 1]

end Piece

/-! ## Operands -/

/-- The word of the place of this number. -/
def placeWord (index : Nat) : String :=
  "$" ++ toString index

theorem toList_placeWord (index : Nat) :
    (placeWord index).toList = '$' :: (toString index).toList := by
  rw [placeWord, String.toList_append]
  rfl

theorem placeWord_isWord (index : Nat) : IsWord (placeWord index) := by
  rw [IsWord, toList_placeWord]
  refine ⟨List.cons_ne_nil _ _, List.all_eq_true.2 (List.forall_mem_cons.2 ⟨by decide, ?_⟩)⟩
  intro c hc
  have hmem : c ∈ Nat.toDigits 10 index := by
    rw [← Nat.toList_repr]
    exact hc
  have hdigit : c.isDigit = true := Nat.isDigit_of_mem_toDigits (by decide) (by decide) hmem
  rw [isWordChar, Char.isAlphanum, hdigit, Bool.or_true, Bool.true_or, Bool.true_or]

theorem placeWord_ne (index : Nat) : placeWord index ≠ "AND" := by
  intro h
  have hchars := congrArg String.toList h
  rw [toList_placeWord] at hchars
  exact absurd (List.cons.inj hchars).1 (by decide)

theorem readOperand_place {params : List Param} {index : Nat} {d : Datum}
    (h : params[index]? = some (.value d)) :
    readOperand params (placeWord (index + 1)) = some (.param d) := by
  have hnumber : (toString (index + 1)).toNat? = some (index + 1) := Nat.toNat?_repr (index + 1)
  rw [readOperand, toList_placeWord]
  dsimp only
  rw [if_pos rfl, readPlace, String.ofList_toList, hnumber]
  dsimp only
  rw [h]

/-- A word that is no place is read alike with any parameters. -/
theorem readOperand_of_nil {params : List Param} {word : String} {o : Operand}
    (h : readOperand [] word = some o) : readOperand params word = some o := by
  unfold readOperand at h ⊢
  split at h
  · cases h
  · next c rest _ =>
    by_cases hplace : c = '$'
    · rw [if_pos hplace, readPlace] at h
      split at h
      · rw [List.getElem?_nil] at h
        cases h
      · cases h
    · rw [if_neg hplace] at h ⊢
      exact h

namespace Operand

/-- The word of an operand whose place, if it has one, has the number `index`. -/
def word (index : Nat) : Operand → String
  | column name => name
  | param _ => placeWord index
  | literal text _ => text

/-- The parameters of an operand. -/
def params (o : Operand) : List Param :=
  Piece.params o.pieces

/-- An operand is written as a word that is read as this operand. -/
def Legible (o : Operand) : Prop :=
  match o with
  | param _ => True
  | o => IsWord (o.word 0) ∧ o.word 0 ≠ "AND" ∧ readOperand [] (o.word 0) = some o

theorem render_pieces (o : Operand) (index : Nat) :
    Piece.render index o.pieces = o.word index := by
  cases o <;> simp [pieces, Piece.render, word, placeWord]

variable {o : Operand}

theorem Legible.isWord (h : o.Legible) (index : Nat) : IsWord (o.word index) := by
  cases o with
  | param d => exact placeWord_isWord index
  | column name => exact h.1
  | literal text d => exact h.1

theorem Legible.word_ne (h : o.Legible) (index : Nat) : o.word index ≠ "AND" := by
  cases o with
  | param d => exact placeWord_ne index
  | column name => exact h.2.1
  | literal text d => exact h.2.1

/-- An operand is read back if its parameter stands at its place. -/
theorem Legible.read (h : o.Legible) {params : List Param} {index : Nat}
    (hparams : o.params <+: params.drop index) :
    readOperand params (o.word (index + 1)) = some o := by
  cases o with
  | param d =>
    refine readOperand_place ?_
    obtain ⟨rest, hrest⟩ := hparams
    rw [← List.head?_drop, ← hrest]
    rfl
  | column name => exact readOperand_of_nil h.2.2
  | literal text d => exact readOperand_of_nil h.2.2

end Operand

/-! ## Conditions -/

/-- The words of operands with commas between them and a bracket after them. -/
def listWords (index : Nat) : List Operand → List String
  | [] => [")"]
  | [o] => [o.word index, ")"]
  | o :: rest => o.word index :: "," :: listWords (index + o.params.length) rest

/-- What is at the beginning of parameters is at their places. -/
theorem prefix_of_append {xs ys zs : List Param} {index : Nat} (h : xs ++ ys <+: zs.drop index) :
    xs <+: zs.drop index ∧ ys <+: zs.drop (index + xs.length) := by
  obtain ⟨rest, hrest⟩ := h
  rw [List.append_assoc] at hrest
  refine ⟨⟨ys ++ rest, hrest⟩, rest, ?_⟩
  rw [← List.drop_drop, ← hrest, List.drop_left]

theorem lex_list {list : List Operand} (hne : list ≠ []) (h : ∀ o ∈ list, o.Legible) (index : Nat) :
    lex (Piece.render index (Piece.join ", " (list.map Operand.pieces)) ++ ")") =
      listWords index list := by
  induction list generalizing index with
  | nil => exact absurd rfl hne
  | cons o rest ih =>
    obtain ⟨ho, hrest⟩ := List.forall_mem_cons.1 h
    cases rest with
    | nil =>
      show lex (Piece.render index o.pieces ++ ")") = _
      have hbracket : IsSeparator ")" := by decide
      rw [o.render_pieces, lex_closed hbracket, lex_word (ho.isWord index)]
      rfl
    | cons o' rest =>
      have hrender : Piece.render index (Piece.join ", " ((o :: o' :: rest).map Operand.pieces)) =
          o.word index ++ (", " ++ Piece.render (index + o.params.length)
            (Piece.join ", " ((o' :: rest).map Operand.pieces))) := by
        rw [← o.render_pieces]
        exact Piece.render_append index o.pieces _
      have hcomma : IsSeparator ", " := by decide
      rw [hrender, String.append_assoc, String.append_assoc, lex_separated hcomma,
        lex_word (ho.isWord index), ih (List.cons_ne_nil _ _) hrest]
      rfl

theorem and_not_mem_listWords {list : List Operand} (h : ∀ o ∈ list, o.Legible) (index : Nat) :
    "AND" ∉ listWords index list := by
  induction list generalizing index with
  | nil => simp [listWords]
  | cons o rest ih =>
    obtain ⟨ho, hrest⟩ := List.forall_mem_cons.1 h
    cases rest with
    | nil => simp [listWords, (ho.word_ne _).symm]
    | cons o' rest => simp [listWords, (ho.word_ne _).symm, ih hrest]

theorem readList_listWords {params : List Param} {list : List Operand} (hne : list ≠ [])
    (h : ∀ o ∈ list, o.Legible) {index : Nat}
    (hparams : Piece.params (Piece.join ", " (list.map Operand.pieces)) <+: params.drop index) :
    readList params (listWords (index + 1) list) = some list := by
  induction list generalizing index with
  | nil => exact absurd rfl hne
  | cons o rest ih =>
    obtain ⟨ho, hrest⟩ := List.forall_mem_cons.1 h
    cases rest with
    | nil =>
      rw [listWords, readList, ho.read hparams]
      rfl
    | cons o' rest =>
      have hsplit : Piece.params (Piece.join ", " ((o :: o' :: rest).map Operand.pieces)) =
          o.params ++ Piece.params (Piece.join ", " ((o' :: rest).map Operand.pieces)) :=
        Piece.params_append o.pieces _
      rw [hsplit] at hparams
      obtain ⟨hfirst, hnext⟩ := prefix_of_append hparams
      rw [listWords, readList, ho.read hfirst, Nat.add_right_comm]
      · dsimp only
        rw [ih (List.cons_ne_nil _ _) hrest hnext]
        rfl
      · exact List.cons_ne_nil _ _

namespace Condition

/-- The parameters of a condition. -/
def params (c : Condition) : List Param :=
  Piece.params c.pieces

/-- The words of a condition whose first place, if it has one, has the number `index`. -/
def words (index : Nat) : Condition → List String
  | equal a b => [a.word index, "=", b.word (index + a.params.length)]
  | equalAny a column => [a.word index, "=", "ANY", "(", column, ")"]
  | notIn a list =>
    a.word index :: "NOT" :: "IN" :: "(" :: listWords (index + a.params.length) list

/-- A condition is written in words that are read as this condition. -/
def Legible : Condition → Prop
  | equal a b => a.Legible ∧ b.Legible
  | equalAny a column => a.Legible ∧ IsWord column ∧ column ≠ "AND"
  | notIn a list => a.Legible ∧ list ≠ [] ∧ ∀ o ∈ list, o.Legible

theorem lex_render {c : Condition} (h : c.Legible) (index : Nat) :
    lex (Piece.render index c.pieces) = c.words index := by
  cases c with
  | equal a b =>
    obtain ⟨ha, hb⟩ := h
    have hequals : IsSeparator " = " := by decide
    have hrender : Piece.render index (equal a b).pieces =
        a.word index ++ (" = " ++ b.word (index + a.params.length)) := by
      rw [← a.render_pieces, ← b.render_pieces]
      exact Piece.render_append index a.pieces _
    rw [hrender, lex_separated hequals, lex_word (ha.isWord _), lex_word (hb.isWord _)]
    rfl
  | equalAny a column =>
    obtain ⟨ha, hcolumn, -⟩ := h
    have hany : IsSeparator " = ANY(" := by decide
    have hbracket : IsSeparator ")" := by decide
    have hrender : Piece.render index (equalAny a column).pieces =
        a.word index ++ (" = ANY(" ++ (column ++ ")")) := by
      rw [← a.render_pieces]
      refine (Piece.render_append index a.pieces _).trans ?_
      simp only [Piece.render, String.append_empty, String.append_assoc]
    rw [hrender, lex_separated hany, lex_closed hbracket, lex_word (ha.isWord _), lex_word hcolumn]
    rfl
  | notIn a list =>
    obtain ⟨ha, hne, hlist⟩ := h
    have hnot : IsSeparator " NOT IN (" := by decide
    have hrender : Piece.render index (notIn a list).pieces =
        a.word index ++ (" NOT IN (" ++ (Piece.render (index + a.params.length)
          (Piece.join ", " (list.map Operand.pieces)) ++ ")")) := by
      rw [← a.render_pieces, pieces, List.append_assoc, Piece.render_append]
      simp only [List.cons_append, Piece.render, Piece.render_append, String.append_empty]
      rfl
    rw [hrender, lex_separated hnot, lex_word (ha.isWord _), lex_list hne hlist]
    rfl

theorem read_words {params : List Param} {c : Condition} (h : c.Legible) {index : Nat}
    (hparams : c.params <+: params.drop index) :
    readCondition params (c.words (index + 1)) = some c := by
  cases c with
  | equal a b =>
    obtain ⟨ha, hb⟩ := h
    have hsplit : (equal a b).params = a.params ++ b.params := Piece.params_append a.pieces _
    rw [hsplit] at hparams
    obtain ⟨hfirst, hnext⟩ := prefix_of_append hparams
    rw [words, readCondition, ha.read hfirst, Nat.add_right_comm, hb.read hnext]
    rfl
  | equalAny a column =>
    obtain ⟨ha, -⟩ := h
    have hsplit : (equalAny a column).params = a.params ++ [] := Piece.params_append a.pieces _
    rw [hsplit] at hparams
    rw [words, readCondition, ha.read (prefix_of_append hparams).1]
    rfl
  | notIn a list =>
    obtain ⟨ha, hne, hlist⟩ := h
    have hsplit : (notIn a list).params =
        a.params ++ Piece.params (Piece.join ", " (list.map Operand.pieces)) := by
      rw [Condition.params, pieces]
      simp only [Piece.params, Piece.params_append, List.append_nil]
      rfl
    rw [hsplit] at hparams
    obtain ⟨hfirst, hnext⟩ := prefix_of_append hparams
    rw [words, readCondition, ha.read hfirst, Nat.add_right_comm,
      readList_listWords hne hlist hnext]
    rfl

theorem and_not_mem_words {c : Condition} (h : c.Legible) (index : Nat) :
    "AND" ∉ c.words index := by
  cases c with
  | equal a b => simp [words, (h.1.word_ne _).symm, (h.2.word_ne _).symm]
  | equalAny a column => simp [words, (h.1.word_ne _).symm, h.2.2.symm]
  | notIn a list => simp [words, (h.1.word_ne _).symm, and_not_mem_listWords h.2.2]

end Condition

/-! ## Clauses -/

/-- The words of conditions, the first place of which has the number `index`. -/
def clauseWords (index : Nat) : List Condition → List (List String)
  | [] => []
  | c :: rest => c.words index :: clauseWords (index + c.params.length) rest

theorem and_not_mem_clauseWords {cs : List Condition} (h : ∀ c ∈ cs, c.Legible) (index : Nat) :
    ∀ words ∈ clauseWords index cs, "AND" ∉ words := by
  induction cs generalizing index with
  | nil => exact nofun
  | cons c rest ih =>
    obtain ⟨hc, hrest⟩ := List.forall_mem_cons.1 h
    exact List.forall_mem_cons.2 ⟨c.and_not_mem_words hc index, ih hrest _⟩

theorem lex_conditions {cs : List Condition} (hne : cs ≠ []) (h : ∀ c ∈ cs, c.Legible)
    (index : Nat) : lex (Piece.render index (Piece.join " AND " (cs.map Condition.pieces))) =
      ["AND"].intercalate (clauseWords index cs) := by
  induction cs generalizing index with
  | nil => exact absurd rfl hne
  | cons c rest ih =>
    obtain ⟨hc, hrest⟩ := List.forall_mem_cons.1 h
    cases rest with
    | nil =>
      rw [clauseWords, clauseWords, List.intercalate_singleton, ← c.lex_render hc]
      rfl
    | cons c' rest =>
      have hand : IsSeparator " AND " := by decide
      have hrender : Piece.render index (Piece.join " AND " ((c :: c' :: rest).map
          Condition.pieces)) = Piece.render index c.pieces ++ (" AND " ++
            Piece.render (index + c.params.length)
              (Piece.join " AND " ((c' :: rest).map Condition.pieces))) :=
        Piece.render_append index c.pieces _
      rw [hrender, lex_separated hand, ih (List.cons_ne_nil _ _) hrest, c.lex_render hc]
      show _ = ["AND"].intercalate (c.words index :: c'.words (index + c.params.length) ::
        clauseWords _ rest)
      rw [List.intercalate_cons_cons, List.append_assoc]
      rfl

theorem mapM_readCondition {params : List Param} {cs : List Condition} (h : ∀ c ∈ cs, c.Legible)
    {index : Nat}
    (hparams : Piece.params (Piece.join " AND " (cs.map Condition.pieces)) <+: params.drop index) :
    (clauseWords (index + 1) cs).mapM (readCondition params) = some cs := by
  induction cs generalizing index with
  | nil => rfl
  | cons c rest ih =>
    obtain ⟨hc, hrest⟩ := List.forall_mem_cons.1 h
    have hsplit : Piece.params (Piece.join " AND " ((c :: rest).map Condition.pieces)) =
        c.params ++ Piece.params (Piece.join " AND " (rest.map Condition.pieces)) := by
      cases rest with
      | nil => exact (List.append_nil _).symm
      | cons c' rest => exact Piece.params_append c.pieces _
    rw [hsplit] at hparams
    obtain ⟨hfirst, hnext⟩ := prefix_of_append hparams
    rw [clauseWords, List.mapM_cons, c.read_words hc hfirst, Nat.add_right_comm, ih hrest hnext]
    rfl

/-- What is sent for conditions is read back as these conditions. -/
theorem readClause_wherePieces {cs : List Condition} (hne : cs ≠ []) (h : ∀ c ∈ cs, c.Legible) :
    readClause (Piece.params (wherePieces cs)) (Piece.render 1 (wherePieces cs)) = some cs := by
  have hwhere : ∀ a ∈ " WHERE ".toList.getLast?, isWordChar a = false := by
    rintro a ⟨⟩
    rfl
  have hlex : lex (Piece.render 1 (wherePieces cs)) =
      "WHERE" :: ["AND"].intercalate (clauseWords 1 cs) := by
    rw [← lex_conditions hne h]
    exact lex_append_of_last hwhere
  have hwords : clauseWords 1 cs ≠ [] := by
    cases cs with
    | nil => exact absurd rfl hne
    | cons c rest => exact List.cons_ne_nil _ _
  rw [readClause, hlex]
  show (List.splitOn "AND" _).mapM _ = _
  rw [List.splitOn_intercalate "AND" (and_not_mem_clauseWords h 1) hwords]
  have hparams : Piece.params (Piece.join " AND " (cs.map Condition.pieces)) <+:
      (Piece.params (wherePieces cs)).drop 0 := List.prefix_rfl
  exact mapM_readCondition h hparams

end Ingestion.Sql
