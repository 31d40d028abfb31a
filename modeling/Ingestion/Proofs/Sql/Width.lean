import Mathlib
import Ingestion.Proofs.Concurrent.Revalidation
import Ingestion.Proofs.Sql.Storage
import Ingestion.Proofs.Text.Fields

/-!
# The widths of columns

The table of blueprints declares the types of its columns, and a text may have so many characters at
most. A name is kept within its column by validation, the name of a project by the column of the
table of projects, and the name of a mode is short. Nothing keeps the cron expression within its
column: what validation accepts fits the table just if the expression has no more than 255
characters (`Sql.accepted_fits_iff`), and an accepted expression may have any number of them.
-/

namespace Ingestion

namespace Sql

/-- A column of a type admits a parameter: it is of this type, and a text is not too long. -/
def ColumnType.admits : ColumnType → Param → Bool
  | varchar length, .value (.text s) => s.length ≤ length
  | type, p => p.type == type.dataType

/-- A table admits what is to be written in one of its columns. -/
def TableSchema.admits (t : TableSchema) (c : String × Param) : Bool :=
  (t.column? c.1).any (·.type.admits c.2)

/-- The names of the projects of a store fit the table of projects. -/
def ProjectsFit (m : Memory) : Prop :=
  ∀ name p, m.findProject name = some p → projectTable.admits ("name", .value (.text name)) = true

theorem name_admits_iff {s : String} :
    projectTable.admits ("name", .value (.text s)) = true ↔ s.length ≤ 255 :=
  decide_eq_true_iff

theorem cron_config_admits_iff {s : String} :
    blueprintTable.admits ("cron_config", .value (.text s)) = true ↔ s.length ≤ 255 :=
  decide_eq_true_iff

/-- The columns of a blueprint but for the cron expression take what is written there if the names
are short enough. -/
theorem admits_of_mem {b : Blueprint} (hname : b.name.length ≤ 255)
    (hproject : b.projectName.length ≤ 255) {c : String × Param} (hc : c ∈ blueprintColumns b)
    (hcron : c.1 = "cron_config" → b.cronConfig.length ≤ 255) :
    blueprintTable.admits c = true := by
  have hmode : b.mode.name.length ≤ 20 := by cases b.mode <;> decide
  have hafter : (Param.ofOption .timestamptz Datum.ofInstant b.syncPolicy.timeAfter).type =
      .timestamptz := by
    cases b.syncPolicy.timeAfter <;> rfl
  simp only [blueprintColumns, List.mem_cons, List.not_mem_nil, or_false] at hc
  rcases hc with rfl | rfl | rfl | rfl | rfl | rfl | rfl | rfl | rfl | rfl | rfl | rfl | rfl | rfl |
    rfl | rfl | rfl | rfl
  · rfl
  · exact decide_eq_true hname
  · exact decide_eq_true hmode
  · exact decide_eq_true hproject
  · exact decide_eq_true (hcron rfl)
  all_goals first
    | rfl
    | exact beq_iff_eq.2 hafter

end Sql

namespace Blueprint

variable {registry : Registry} {m : Memory} {b b' : Blueprint}

/-- What validation accepts has passed the check of the form and of the project, and keeps all
fields but the flag for runs by hand and the plan. -/
theorem validationIn_eq_ok (h : b.validationIn registry m = (.ok (), b')) :
    b.checkForm = .ok () ∧ b.checkedProject m = .ok () ∧
      b' = { b.normalized with plan := b'.plan } := by
  unfold validationIn at h
  split at h
  · cases h
  next hform =>
  split at h
  · cases h
  next hproject =>
  split at h
  · cases h
  split at h
  · cases h
  next b'' hplanned =>
  obtain rfl : b'' = b' := congrArg Prod.snd h
  refine ⟨hform, hproject, ?_⟩
  unfold planned at hplanned
  split at hplanned
  · split at hplanned
    · cases hplanned
    · cases hplanned
      rfl
  · cases hcomposed : b.normalized.composedPlan registry b.normalized.syncPolicy
        (b.normalized.settingsIn m) with
    | error e =>
      rw [hcomposed] at hplanned
      cases hplanned
    | ok plan =>
      rw [hcomposed] at hplanned
      cases hplanned
      rfl

theorem checkCron_of_isOk (h : (Cron.read b.cronConfig).isOk = true) : b.checkCron = .ok () := by
  unfold checkCron
  split
  · rfl
  split
  · rfl
  next e he =>
    rw [he] at h
    cases h

/-- The project of a blueprint that passes its check fits the column of the project, if the projects
of the store fit theirs. -/
theorem projectName_length_le (hprojects : Sql.ProjectsFit m) (h : b.checkedProject m = .ok ()) :
    b.projectName.length ≤ 255 := by
  unfold checkedProject at h
  split at h
  · split at h
    · cases h
    next p hp => exact Sql.name_admits_iff.1 (hprojects b.projectName p hp)
  · next hnone =>
    have hempty : b.projectName = "" := by simpa [hasProject] using hnone
    rw [hempty]
    exact Nat.zero_le _

end Blueprint

/-! ## Expressions of any length -/

namespace Sample

/-- An expression for every day with so many more blanks than it needs. -/
def padded (n : Nat) : List Char :=
  '0' :: ' ' :: (List.replicate n ' ' ++ ['0', ' ', '*', ' ', '*', ' ', '*'])

theorem length_padded (n : Nat) : (padded n).length = n + 9 := by
  simp [padded]

theorem mem_padded {n : Nat} {c : Char} (h : c ∈ padded n) : c = '0' ∨ c = ' ' ∨ c = '*' := by
  simp only [padded, List.mem_cons, List.mem_append, List.mem_replicate, List.not_mem_nil,
    or_false] at h
  tauto

/-- Nothing in the expression is written in another way. -/
theorem normalize_padded (n : Nat) : Cron.normalize (padded n) = padded n := by
  have hmark : ((padded n).map fun c => if c = '?' then '*' else c) = padded n := by
    refine (List.map_congr_left fun c hc => ?_).trans (List.map_id _)
    rcases mem_padded hc with rfl | rfl | rfl <;> rfl
  -- It holds neither the first sign of a descriptor nor the first letter of a name.
  have hdescriptor : Cron.expandDescriptor (padded n) = padded n := by
    have hat : ∀ d ∈ Cron.descriptors, (Text.lower d.1.toList).head? = some '@' := by decide
    have hnone : Cron.descriptors.find? (fun d => Text.sameUpToCase d.1.toList (padded n)) =
        none := by
      rw [List.find?_eq_none]
      intro d hd
      rw [Text.sameUpToCase_of_head_ne]
      · decide
      · rw [hat d hd]
        show some '@' ≠ some '0'
        decide
    rw [Cron.expandDescriptor, hnone]
  have hsmall : Text.toSmall (padded n) = padded n := by
    rw [Text.toSmall_of_ascii]
    · refine (List.map_congr_left fun c hc => ?_).trans (List.map_id _)
      rcases mem_padded hc with rfl | rfl | rfl <;> rfl
    · intro c hc
      rcases mem_padded hc with rfl | rfl | rfl <;> decide
  have hfirst : ∀ name ∈ Cron.names, name.1.toList.head? ≠ some '0' ∧
      name.1.toList.head? ≠ some ' ' ∧ name.1.toList.head? ≠ some '*' := by
    decide +kernel
  have hnames (names : List (String × String)) (h : ∀ name ∈ names, name ∈ Cron.names) :
      names.foldl (fun cs name => Text.replace name.1.toList name.2.toList cs) (padded n) =
        padded n := by
    induction names with
    | nil => rfl
    | cons name rest ih =>
      obtain ⟨hname, hrest⟩ := List.forall_mem_cons.1 h
      obtain ⟨hzero, hblank, hstar⟩ := hfirst name hname
      rw [List.foldl_cons, Text.replace_of_head, ih hrest]
      intro c hc
      rcases mem_padded hc with rfl | rfl | rfl
      · exact hzero
      · exact hblank
      · exact hstar
  rw [Cron.normalize, hmark, hdescriptor, hsmall, hnames Cron.names fun _ h => h]

theorem read_padded (n : Nat) : (Cron.read (.ofList (padded n))).isOk = true := by
  have hblank : Text.isBlank (.ofList (padded n)) = false := by
    rw [Text.isBlank, String.toList_ofList]
    rfl
  have htrimmed : Text.isTrimmed (.ofList (padded n)) = true := by
    have hlast : (padded n).getLast? = some '*' := by
      rw [padded, List.getLast?_cons_cons, ← List.cons_append, List.getLast?_append]
      rfl
    rw [Text.isTrimmed, String.toList_ofList, hlast]
    rfl
  have hgap : ∀ c ∈ List.replicate n ' ', Text.isWhite c = true := by
    intro c hc
    rw [List.eq_of_mem_replicate hc]
    rfl
  have hfields : Text.fields (padded n) = [['0'], ['0'], ['*'], ['*'], ['*']] :=
    congrArg (['0'] :: ·) (Text.fieldsFrom_gap hgap)
  have hpattern : (Cron.Schedule.ofPattern (padded n)).isOk = true := by
    rw [Cron.Schedule.ofPattern, hfields]
    rfl
  have hread : Cron.Schedule.read (.ofList (padded n)) = Cron.Schedule.ofPattern (padded n) := by
    rw [Cron.Schedule.read, hblank, htrimmed, String.toList_ofList, hfields, normalize_padded]
    rfl
  rw [Cron.read, hread]
  cases hschedule : Cron.Schedule.ofPattern (padded n) with
  | ok schedule => rfl
  | error fault =>
    rw [hschedule] at hpattern
    cases hpattern

/-- A blueprint that is run by this expression. -/
def spaced (n : Nat) : Blueprint :=
  ({ name := "spaced", mode := .advanced, cronConfig := .ofList (padded n),
     plan := .single { plugin := "jira" } } : Draft).toBlueprint (.ofNat 1) (.midnight .epoch)

theorem spaced_settled (registry : Registry) (m : Memory) (n : Nat) :
    (spaced n).Settled registry m where
  form := by
    have hname : Text.isBlank "spaced" = false := by decide
    have hlength : "spaced".length ≤ 255 := by decide
    have hcron : Text.isBlank (.ofList (padded n)) = false := by
      rw [Text.isBlank, String.toList_ofList]
      rfl
    rw [Blueprint.checkForm_eq_ok_iff, Blueprint.formFault?_eq_none_iff]
    exact ⟨hname, hlength, fun _ => hcron, List.forall_mem_nil _, List.forall_mem_nil _⟩
  project := rfl
  manual h := by
    have hother : Text.sameUpToCase (padded n) manualCron.toList = false := by
      refine Text.sameUpToCase_of_head_ne ?_
      show some '0' ≠ some 'm'
      decide
    have hsame : Text.sameUpToCase (String.ofList (padded n)).toList manualCron.toList = true := h
    rw [String.toList_ofList, hother] at hsame
    cases hsame
  cron := Blueprint.checkCron_of_isOk (read_padded n)
  advanced _ := rfl
  normal := by rintro ⟨⟩

end Sample

namespace Sql

/-- Let the projects of a store fit their table, and let validation accept a blueprint. What is sent
to store it fits the columns of its table but for the cron expression, and it fits the whole table
just if the expression has 255 characters at most. Validation sets no bound to the expression, also
of blueprints that are run by it. -/
theorem accepted_fits_iff {registry : Registry} {k : Nat} {chance : Chance} {s s' : Shared}
    (hprojects : ProjectsFit s.memory) {b b' : Blueprint}
    (h : Shared.perform registry k chance b.validation s = some ((.ok (), b'), s')) :
    (∀ c ∈ (storeBlueprint b').row, c.1 ≠ "cron_config" → blueprintTable.admits c = true) ∧
    ((∀ c ∈ (storeBlueprint b').row, blueprintTable.admits c = true) ↔
      b'.cronConfig.length ≤ 255) ∧
    ∀ n ≥ 9, ∃ b : Blueprint,
      Shared.perform registry k chance b.validation s = some ((.ok (), b), s) ∧
        b.isManual = false ∧ b.cronConfig.length = n := by
  have hvalid : b.validationIn registry s.memory = (.ok (), b') := by
    rw [Shared.perform_validation] at h
    exact congrArg Prod.fst (Option.some.inj h)
  obtain ⟨hform, hproject, hfields⟩ := Blueprint.validationIn_eq_ok hvalid
  obtain ⟨-, hlength, -⟩ :=
    Blueprint.formFault?_eq_none_iff.1 (Blueprint.checkForm_eq_ok_iff.1 hform)
  have hname : b'.name.length ≤ 255 := by
    rw [hfields]
    exact hlength
  have hproject : b'.projectName.length ≤ 255 := by
    rw [hfields]
    exact Blueprint.projectName_length_le hprojects hproject
  refine ⟨fun c hc hne => admits_of_mem hname hproject hc fun heq => absurd heq hne, ?_, ?_⟩
  · constructor
    · intro hall
      have hcron : ("cron_config", .value (.text b'.cronConfig)) ∈ blueprintColumns b' :=
        List.mem_of_getElem? (i := 4) rfl
      exact cron_config_admits_iff.1 (hall _ hcron)
    · exact fun hcron c hc => admits_of_mem hname hproject hc fun _ => hcron
  · intro n hn
    have haccepted := (Sample.spaced_settled registry s.memory (n - 9)).validationIn_eq
    refine ⟨Sample.spaced (n - 9), ?_, rfl, ?_⟩
    · rw [Shared.perform_validation, haccepted]
    · show (String.ofList (Sample.padded (n - 9))).length = n
      rw [String.length_ofList, Sample.length_padded]
      omega

/-- An empty store accepts a blueprint with an expression of 309 characters, which the table of
blueprints does not admit. -/
theorem spaced_too_long :
    let s : Shared := { clock := .midnight .epoch }
    Shared.perform {} 0 Sample.chance (Sample.spaced 300).validation s =
      some ((.ok (), Sample.spaced 300), s) ∧
    ¬ ∀ c ∈ (storeBlueprint (Sample.spaced 300)).row, blueprintTable.admits c = true := by
  intro s
  have haccepted : Shared.perform {} 0 Sample.chance (Sample.spaced 300).validation s =
      some ((.ok (), Sample.spaced 300), s) := by
    rw [Shared.perform_validation, (Sample.spaced_settled {} _ 300).validationIn_eq]
  have hprojects : ProjectsFit s.memory := by rintro name p ⟨⟩
  refine ⟨haccepted, fun hall => ?_⟩
  have hshort : (String.ofList (Sample.padded 300)).length ≤ 255 :=
    (accepted_fits_iff hprojects haccepted).2.1.1 hall
  rw [String.length_ofList, Sample.length_padded] at hshort
  exact absurd hshort (by decide)

end Sql

end Ingestion
