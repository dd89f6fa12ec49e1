import TaskCatalog.Proofs.TableRows
import TaskCatalog.Proofs.TaskOrder

/-!
The tables as they stand on the pages. Read line by line, a page shows the head of a table and one line for each of its
rows, if no row is broken.
-/

namespace TaskCatalog.Markdown

open Text

/-- A page that shows the rows of a table below its head, and an empty line behind them unless it ends there. -/
def Shows (page : Text) (columns rows : List Text) : Prop :=
  ∃ before after, lines page = before ++ (tableHead columns ++ rows) ++ after ∧ ∀ line ∈ after.head?, line = []

def parameterColumns : List Text := ["Name", "Type", "Default", "Expression", "Description"]

def overviewColumns : List Text := ["Goal", "Description"]

variable {before after rows columns : List Text} {d : Descriptor} {t : Task}

theorem lines_ofLines (filled : before ≠ []) (whole : ∀ line ∈ rows, Unbroken line) (after : List Text) :
    lines (ofLines (before ++ (rows ++ [] :: after))) =
      lines (ofLines before ++ "\n") ++ (rows ++ lines (ofLines ([] :: after))) := by
  have more : rows ++ [] :: after ≠ [] := List.append_ne_nil_of_right_ne_nil _ (List.cons_ne_nil _ _)
  have feed : (("\n" : Text)) = [.scalar '\n'] := by decide
  rw [ofLines, join_append _ filled more, List.append_assoc, feed]
  refine (lines_append_feed _ _).trans (congrArg (lines _ ++ ·) ?_)
  rw [← feed]
  exact lines_join_append whole (List.cons_ne_nil _ _)

theorem head_lines_nil_cons (after : List Text) : ∀ line ∈ (lines (ofLines ([] :: after))).head?, line = [] := by
  cases after with
  | nil => exact nofun
  | cons t after =>
    intro line first
    have read : lines (ofLines ([] :: t :: after)) = [] :: lines (ofLines (t :: after)) :=
      lines_append_break (fun _ none => absurd none List.not_mem_nil) _
    rw [read] at first
    cases first
    rfl

theorem shows_of_lines (filled : before ≠ []) (head : ∀ line ∈ tableHead columns, Unbroken line)
    (whole : ∀ row ∈ rows, Unbroken row) (after : List Text) :
    Shows (ofLines (before ++ (tableHead columns ++ rows ++ [] :: after))) columns rows := by
  have read := lines_ofLines filled (List.forall_mem_append.2 ⟨head, whole⟩) after
  exact ⟨_, _, read.trans (List.append_assoc _ _ _).symm, head_lines_nil_cons after⟩

/-- What stands on the page of a task above its tables. -/
def taskOpening (d : Descriptor) (t : Task) : List Text :=
  ("# " ++ d.qualifiedGoal t.name.text) :: [] :: ("**Full name:** " ++ code (d.coordinates ++ ":" ++ t.name.text)) :: [] ::
    paragraph t.deprecated (fun m => "> **Deprecated.** " ++ m) ++ heading "Description"
    ++ [(nonempty? t.description).getD noDescription, []] ++ heading "Attributes" ++ attributeLines t ++ [[]]

theorem taskPage_eq (d : Descriptor) (t : Task) : taskPage d t = ofLines (taskOpening d t ++
    parameterTable "Required Parameters" (t.parameters.filter (·.required)) ++
    parameterTable "Optional Parameters" (t.parameters.filter (!·.required))) := rfl

/-- What stands in the overview above the table of goals. -/
def overviewOpening (d : Descriptor) : List Text :=
  ("# " ++ d.name) :: [] :: paragraph d.description id ++ heading "Plugin" ++
    ["- Coordinates: " ++ code d.coordinates, "- Goal prefix: " ++ code d.goalPrefix, []] ++ heading "Goals"

theorem overview_eq (d : Descriptor) :
    overview d = ofLines (overviewOpening d ++ overviewTable d ++ [[]] ++ dependencyLines d.dependencies) := rfl

def parametersOf (t : Task) (required : Bool) : List Parameter := t.parameters.filter (·.required == required)

theorem shows_parameterTable {ps : List Parameter} (some : ps ≠ []) (whole : ∀ p ∈ ps, Unbroken (parameterRow p))
    {opening : List Text} (filled : opening ≠ []) (title : Text) (after : List Text) :
    Shows (ofLines (opening ++ parameterTable title ps ++ after)) parameterColumns (ps.map parameterRow) := by
  have head : ∀ line ∈ tableHead parameterColumns, Unbroken line := by decide
  have rows : ∀ row ∈ ps.map parameterRow, Unbroken row := List.forall_mem_map.2 whole
  have placed : opening ++ parameterTable title ps ++ after =
      (opening ++ heading title) ++ (tableHead parameterColumns ++ ps.map parameterRow ++ [] :: after) := by
    have unempty : ps.isEmpty = false := by simpa using some
    rw [parameterTable, unempty]
    simp only [Bool.false_eq_true, if_false, List.append_assoc, List.singleton_append]
    rfl
  rw [placed]
  exact shows_of_lines (List.append_ne_nil_of_left_ne_nil filled _) head rows after

theorem shows_parameters {required : Bool} (some : parametersOf t required ≠ [])
    (whole : ∀ p ∈ parametersOf t required, Unbroken (parameterRow p)) (d : Descriptor) :
    Shows (taskPage d t) parameterColumns ((parametersOf t required).map parameterRow) := by
  have filled : taskOpening d t ≠ [] := List.cons_ne_nil _ _
  rw [taskPage_eq]
  cases required with
  | true =>
    have same : t.parameters.filter (·.required) = parametersOf t true := by simp [parametersOf]
    rw [same]
    exact shows_parameterTable some whole filled _ _
  | false =>
    have same : t.parameters.filter (!·.required) = parametersOf t false := by simp [parametersOf]
    have shown := shows_parameterTable some whole (List.append_ne_nil_of_left_ne_nil filled
      (parameterTable "Required Parameters" (t.parameters.filter (·.required)))) "Optional Parameters" []
    rw [List.append_nil] at shown
    rw [same]
    exact shown

theorem shows_goals (some : d.tasks ≠ []) (whole : Unbroken d.goalPrefix) :
    Shows (overview d) overviewColumns ((sortedTasks d).map (overviewRow d)) := by
  have head : ∀ line ∈ tableHead overviewColumns, Unbroken line := by decide
  have rows : ∀ row ∈ (sortedTasks d).map (overviewRow d), Unbroken row :=
    List.forall_mem_map.2 fun _ _ => unbroken_overviewRow.2 whole
  have unempty : d.tasks.isEmpty = false := by simpa using some
  have filled : overviewOpening d ≠ [] := List.cons_ne_nil _ _
  have shown := shows_of_lines filled head rows (dependencyLines d.dependencies)
  rw [overview_eq, overviewTable, unempty]
  simp only [Bool.false_eq_true, if_false, List.append_assoc, List.singleton_append] at shown ⊢
  exact shown

/-- Each parameter has its row of five cells, and each task its row of two, just if the texts that stand there as they
are hold no bar and no line break, and no description a bar that is guarded already. Then the pages show the rows one
after the other, each in a line of its own. -/
theorem rows_shown (d : Descriptor) (t : Task) :
    ((∀ line ∈ tableHead parameterColumns, IsRow 5 line) ∧ (∀ p, IsRow 5 (parameterRow p) ↔ p.IsTabular) ∧
      ∀ required, parametersOf t required ≠ [] → (∀ p ∈ parametersOf t required, p.IsTabular) →
        Shows (taskPage d t) parameterColumns ((parametersOf t required).map parameterRow)) ∧
    (∀ line ∈ tableHead overviewColumns, IsRow 2 line) ∧
      (IsRow 2 (overviewRow d t) ↔ IsPlain d.goalPrefix ∧ guardedBars (t.description.getD []) = 0) ∧
      (d.tasks ≠ [] → IsPlain d.goalPrefix →
        Shows (overview d) overviewColumns ((sortedTasks d).map (overviewRow d))) := by
  refine ⟨⟨by decide, isRow_parameterRow, fun required some tabular => ?_⟩, by decide, isRow_overviewRow d t,
    fun some plain => shows_goals some plain.unbroken⟩
  exact shows_parameters some (fun p member => ((isRow_parameterRow p).2 (tabular p member)).1) d

namespace OneParameter

def parameter (type description : Text) : Parameter where
  name := ⟨"size", by decide⟩
  type := type
  required := false
  editable := false
  defaultValue := none
  expression := none
  description := some description
  since := none
  deprecated := some "Gone | soon."

def task (type description : Text) : Task :=
  { TwoGoals.build with
    parameters := [parameter type description]
    distinct := List.nodup_singleton _ }

def descriptor (type description : Text) : Descriptor :=
  TwoGoals.descriptor [task type description] (List.nodup_singleton _)

/-- A description with a bar and a line break does no harm. -/
theorem row_shown : IsRow 5 (parameterRow (parameter "int" "Bytes |\nwords.")) ∧
    Shows (taskPage (descriptor "int" "Bytes |\nwords.") (task "int" "Bytes |\nwords.")) parameterColumns
      [parameterRow (parameter "int" "Bytes |\nwords.")] := by
  have tabular : (parameter "int" "Bytes |\nwords.").IsTabular := by decide
  obtain ⟨⟨-, isRow, shown⟩, -⟩ :=
    rows_shown (descriptor "int" "Bytes |\nwords.") (task "int" "Bytes |\nwords.")
  exact ⟨(isRow _).2 tabular, shown false (List.cons_ne_nil _ _) (List.forall_mem_singleton.2 tabular)⟩

/-- The bar of a type parts a cell, as does the one of a description that has its backslash already. -/
theorem row_parted :
    openBars (parameterRow (parameter "int | None" "Bytes.")) = 7 ∧
      parameterRow (parameter "int | None" "Bytes.") ∈
        lines (taskPage (descriptor "int | None" "Bytes.") (task "int | None" "Bytes.")) ∧
      openBars (parameterRow (parameter "int" "Bytes \\| words.")) = 7 := by
  decide +kernel

end OneParameter

end TaskCatalog.Markdown
