import Mathlib
import Ingestion.Proofs.Sql.Reading

/-!
# Reading insertions back

An insertion names its columns in one list, sends what is written there as numbered places in
another one, and says in a third one which columns of a row that is already there take over what
was to be inserted. `readUpsert` reads the three off the text and the parameters: it gives each
column the parameter whose place stands at the position of the column, and each column that is set
the column of the new row that it is set from. What is sent for an insertion is read back as the
columns with their parameters (`readUpsert_toStatement`).
-/

namespace Ingestion.Sql

/-! ## Lists with commas -/

/-- A text that ends with a sign or a blank is cut by itself. -/
theorem lex_after {text : String} (h : text.toList.getLast?.any (!isWordChar ·) = true)
    (rest : String) : lex (text ++ rest) = lex text ++ lex rest := by
  obtain ⟨last, hlast, hsign⟩ := (Option.any_eq_true _ _).1 h
  refine lex_append_of_last fun a ha => ?_
  rw [Option.mem_unique ha hlast]
  simpa using hsign

/-- Texts with commas between them are cut one by one. -/
theorem lex_commaSeparated (texts : List String) :
    lex (commaSeparated texts) = [","].intercalate (texts.map lex) := by
  induction texts with
  | nil => rfl
  | cons text rest ih =>
    cases rest with
    | nil => rw [commaSeparated, String.intercalate_singleton, List.map_singleton,
        List.intercalate_singleton]
    | cons text' rest =>
      have hcomma : IsSeparator ", " := by decide
      have hlist : commaSeparated (text :: text' :: rest) =
          text ++ (", " ++ commaSeparated (text' :: rest)) := by
        rw [commaSeparated, String.intercalate_cons_cons, String.append_assoc]
        rfl
      rw [hlist, lex_separated hcomma, ih]
      show _ = [","].intercalate (lex text :: lex text' :: rest.map lex)
      rw [List.intercalate_cons_cons, List.append_assoc]
      rfl

/-- The words of a list of names. -/
def nameWords (names : List String) : List String :=
  [","].intercalate (names.map fun name => [name])

theorem lex_names {names : List String} (h : ∀ name ∈ names, IsWord name) :
    lex (commaSeparated names) = nameWords names := by
  rw [lex_commaSeparated, nameWords]
  exact congrArg [","].intercalate (List.map_congr_left fun name hname => lex_word (h name hname))

/-- The names of a list up to a closing bracket, and the words after it. -/
def readNames : List String → Option (List String × List String)
  | word :: sign :: rest =>
    if sign = ")" then some ([word], rest)
    else if sign = "," then (readNames rest).map fun read => (word :: read.1, read.2)
    else none
  | _ => none

theorem readNames_nameWords {names : List String} (hne : names ≠ []) (rest : List String) :
    readNames (nameWords names ++ ")" :: rest) = some (names, rest) := by
  induction names with
  | nil => exact absurd rfl hne
  | cons name names ih =>
    cases names with
    | nil => rfl
    | cons name' names =>
      have hwords : nameWords (name :: name' :: names) =
          name :: "," :: nameWords (name' :: names) := by
        rw [nameWords, List.map_cons, List.map_cons, List.intercalate_cons_cons]
        rfl
      have hcomma : ("," : String) ≠ ")" := by decide
      rw [hwords, List.cons_append, List.cons_append, readNames, if_neg hcomma, if_pos rfl,
        ih (List.cons_ne_nil _ _)]
      rfl

/-! ## The reader -/

/-- An insertion as the server reads it. -/
structure Upsert where
  target : String
  /-- The columns and what is written there. -/
  row : List (String × Param)
  /-- The columns of a row with the same `id` that are set, each with the column of the new row
  that it is set from. Nothing is said about such a row if there are none. -/
  assignments : Option (List (String × String))

/-- The parameter of a place. The first parameter has the number 1. -/
def readParam (params : List Param) (word : String) : Option Param :=
  match word.toList with
  | '$' :: digits =>
    match (String.ofList digits).toNat? with
    | some (n + 1) => params[n]?
    | _ => none
  | _ => none

/-- The assignment of words. -/
def readAssignment : List String → Option (String × String)
  | [column, "=", "EXCLUDED", ".", source] => some (column, source)
  | _ => none

/-- The words before the assignments. -/
def conflictWords : List String :=
  ["ON", "CONFLICT", "(", "id", ")", "DO", "UPDATE", "SET"]

/-- What the words after the values say about a row that is already there. -/
def readConflict (words : List String) : Option (Option (List (String × String))) :=
  if words = [] then some none
  else if conflictWords <+: words then
    (((words.drop conflictWords.length).splitOn ",").mapM readAssignment).map some
  else none

/-- The insertion of a statement, none if it is no insertion or names another number of columns
than it has values. -/
def readUpsert (s : Statement) : Option Upsert :=
  match lex s.text with
  | "INSERT" :: "INTO" :: target :: "(" :: words => do
    match ← readNames words with
    | (columns, "VALUES" :: "(" :: words) =>
      let (places, words) ← readNames words
      let values ← places.mapM (readParam s.params)
      let assignments ← readConflict words
      if columns.length = values.length then
        some { target, row := columns.zip values, assignments }
      else none
    | _ => none
  | _ => none

/-! ## Places and assignments -/

/-- The words of so many places, the first of which has the number `index`. -/
def places (index n : Nat) : List String :=
  (List.range' index n).map placeWord

/-- The values are sent as places that are numbered in the order of the columns. -/
theorem render_values (index : Nat) (row : List (String × Param)) :
    Piece.render index (Piece.join ", " (row.map fun c => [.place c.2])) =
      commaSeparated (places index row.length) := by
  induction row generalizing index with
  | nil => rfl
  | cons c rest ih =>
    cases rest with
    | nil =>
      show "$" ++ toString index ++ "" = String.intercalate ", " [placeWord index]
      rw [String.append_empty, String.intercalate_singleton, placeWord]
    | cons c' rest =>
      show "$" ++ toString index ++ (", " ++ Piece.render (index + 1)
        (Piece.join ", " ((c' :: rest).map fun c => [.place c.2]))) = _
      rw [ih]
      show _ = String.intercalate ", " (placeWord index :: placeWord (index + 1) ::
        places (index + 1 + 1) rest.length)
      rw [String.intercalate_cons_cons, placeWord, String.append_assoc, String.append_assoc,
        String.append_assoc]
      rfl

theorem params_values (row : List (String × Param)) :
    Piece.params (Piece.join ", " (row.map fun c => [.place c.2])) = row.map (·.2) := by
  induction row with
  | nil => rfl
  | cons c rest ih =>
    cases rest with
    | nil => rfl
    | cons c' rest => exact congrArg (c.2 :: ·) ih

theorem readParam_place {params : List Param} {index : Nat} {p : Param}
    (h : params[index]? = some p) : readParam params (placeWord (index + 1)) = some p := by
  have hnumber : (toString (index + 1)).toNat? = some (index + 1) := Nat.toNat?_repr (index + 1)
  rw [readParam, toList_placeWord]
  show (match (String.ofList (toString (index + 1)).toList).toNat? with
    | some (n + 1) => params[n]?
    | _ => none) = _
  rw [String.ofList_toList, hnumber]
  exact h

/-- The places of all parameters are read as the parameters. -/
theorem mapM_readParam (params : List Param) :
    (places 1 params.length).mapM (readParam params) = some params := by
  -- The first ones have been read.
  have hrest (read rest : List Param) (h : params = read ++ rest) :
      (places (read.length + 1) rest.length).mapM (readParam params) = some rest := by
    induction rest generalizing read with
    | nil => rfl
    | cons p rest ih =>
      have hp : params[read.length]? = some p := by
        rw [h, List.getElem?_append_right (Nat.le_refl _), Nat.sub_self]
        rfl
      have hnext := ih (read ++ [p]) (by rw [h, List.append_assoc]; rfl)
      rw [List.length_append, List.length_singleton] at hnext
      show List.mapM _ (placeWord (read.length + 1) :: places (read.length + 1 + 1) rest.length) = _
      rw [List.mapM_cons, readParam_place hp, hnext]
      rfl
  exact hrest [] params rfl

/-- The words of the assignment of a column from the one of its name. -/
def assignmentWords (column : String) : List String :=
  [column, "=", "EXCLUDED", ".", column]

theorem lex_assignment {column : String} (h : IsWord column) :
    lex (column ++ " = EXCLUDED." ++ column) = assignmentWords column := by
  have hset : IsSeparator " = EXCLUDED." := by decide
  rw [String.append_assoc, lex_separated hset, lex_word h]
  rfl

theorem comma_not_mem_assignmentWords {column : String} (h : IsWord column) :
    "," ∉ assignmentWords column := by
  have hne : "," ≠ column := by
    rintro rfl
    exact absurd h (by decide)
  simp [assignmentWords, hne]

theorem mapM_readAssignment (columns : List String) :
    (columns.map assignmentWords).mapM readAssignment = some (columns.map fun c => (c, c)) := by
  induction columns with
  | nil => rfl
  | cons c rest ih =>
    rw [List.map_cons, List.mapM_cons, ih]
    rfl

theorem readConflict_conflictText {overwrites : Option (List String)}
    (h : ∀ columns, overwrites = some columns → columns ≠ [] ∧ ∀ c ∈ columns, IsWord c) :
    readConflict (lex (Insert.conflictText overwrites)) =
      some (overwrites.map fun columns => columns.map fun c => (c, c)) := by
  cases overwrites with
  | none => rfl
  | some columns =>
    obtain ⟨hne, hwords⟩ := h columns rfl
    have hblank : " ON CONFLICT (id) DO UPDATE SET ".toList.getLast?.any (!isWordChar ·) =
        true := by
      decide +kernel
    have hopening : lex " ON CONFLICT (id) DO UPDATE SET " = conflictWords := by decide +kernel
    have hassignments : (columns.map fun c => c ++ " = EXCLUDED." ++ c).map lex =
        columns.map assignmentWords := by
      rw [List.map_map]
      exact List.map_congr_left fun c hc => lex_assignment (hwords c hc)
    have htext : lex (Insert.conflictText (some columns)) =
        conflictWords ++ [","].intercalate (columns.map assignmentWords) := by
      rw [← hassignments, ← lex_commaSeparated, ← hopening]
      exact lex_after hblank _
    have hcomma : ∀ words ∈ columns.map assignmentWords, "," ∉ words := by
      intro words hmem
      obtain ⟨c, hc, rfl⟩ := List.mem_map.1 hmem
      exact comma_not_mem_assignmentWords (hwords c hc)
    have hsome : columns.map assignmentWords ≠ [] := by simpa using hne
    -- No assignment holds a comma, so the words are cut where they were put together.
    have hfirst : conflictWords ++ [","].intercalate (columns.map assignmentWords) ≠ [] :=
      List.cons_ne_nil _ _
    rw [htext, readConflict, if_neg hfirst, if_pos (List.prefix_append _ _), List.drop_left,
      List.splitOn_intercalate "," hcomma hsome, mapM_readAssignment]
    rfl

/-! ## Insertions -/

/-- An insertion is written in words, and has something to write. -/
structure Insert.Legible (s : Insert) : Prop where
  target : IsWord s.target
  columns_ne : s.row ≠ []
  columns : ∀ c ∈ s.row, IsWord c.1
  overwrites : ∀ columns, s.overwrites = some columns → columns ≠ [] ∧ ∀ c ∈ columns, IsWord c

theorem Insert.toStatement_eq (s : Insert) : s.toStatement =
    { text := "INSERT INTO " ++ (s.target ++ (" ( " ++ (commaSeparated (s.row.map (·.1)) ++
        (" ) VALUES (" ++ (commaSeparated (places 1 s.row.length) ++
          (")" ++ conflictText s.overwrites))))))
      params := s.row.map (·.2) } := by
  rw [toStatement, Statement.ofPieces, List.cons_append, Piece.render, Piece.params,
    Piece.render_append, Piece.params_append, render_values, params_values]
  simp only [Piece.render, Piece.params, String.append_assoc, String.append_empty, List.append_nil]

/-- What is sent for an insertion is read back as its columns with their parameters, and every
column that is written over is set from the column of its name. -/
theorem readUpsert_toStatement {s : Insert} (h : s.Legible) : readUpsert s.toStatement =
    some { target := s.target, row := s.row
           assignments := s.overwrites.map fun columns => columns.map fun c => (c, c) } := by
  have hinto : "INSERT INTO ".toList.getLast?.any (!isWordChar ·) = true := by decide
  have hopen : IsSeparator " ( " := by decide
  have hvalues : IsSeparator " ) VALUES (" := by decide
  have hclose : IsSeparator ")" := by decide
  have hnames : ∀ name ∈ s.row.map (·.1), IsWord name := by
    intro name hname
    obtain ⟨c, hc, rfl⟩ := List.mem_map.1 hname
    exact h.columns c hc
  have hplaces : ∀ word ∈ places 1 s.row.length, IsWord word := by
    intro word hword
    obtain ⟨n, -, rfl⟩ := List.mem_map.1 hword
    exact placeWord_isWord n
  have hlex : lex s.toStatement.text = "INSERT" :: "INTO" :: s.target :: "(" ::
      (nameWords (s.row.map (·.1)) ++ ")" :: "VALUES" :: "(" ::
        (nameWords (places 1 s.row.length) ++ ")" :: lex (Insert.conflictText s.overwrites))) := by
    rw [s.toStatement_eq]
    dsimp only
    rw [lex_after hinto, lex_separated hopen, lex_word h.target, lex_separated hvalues,
      lex_names hnames, lex_separated hclose, lex_names hplaces]
    rfl
  have hcolumns_ne : s.row.map (·.1) ≠ [] := by simpa using h.columns_ne
  have hplaces_ne : places 1 s.row.length ≠ [] := by
    have hlength : s.row.length ≠ 0 := by simpa using h.columns_ne
    simp [places, hlength]
  have hparams : (places 1 s.row.length).mapM (readParam (s.row.map (·.2))) =
      some (s.row.map (·.2)) := by
    have hread := mapM_readParam (s.row.map (·.2))
    rwa [List.length_map] at hread
  have hzip : (s.row.map (·.1)).zip (s.row.map (·.2)) = s.row := by
    rw [List.zip_map', List.map_id']
  -- Each of the two lists is read up to its closing bracket.
  rw [readUpsert, hlex]
  show (readNames _ >>= _) = _
  rw [readNames_nameWords hcolumns_ne, Option.bind_eq_bind, Option.bind_some]
  show (readNames _ >>= _) = _
  rw [readNames_nameWords hplaces_ne, Option.bind_eq_bind, Option.bind_some, s.toStatement_eq]
  dsimp only
  rw [hparams, readConflict_conflictText h.overwrites]
  show (if _ then _ else _) = _
  rw [if_pos (by rw [List.length_map, List.length_map]), hzip]

end Ingestion.Sql
