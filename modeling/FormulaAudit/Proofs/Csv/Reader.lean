import FormulaAudit.Csv

/-!
Reading comma-separated text back. The reader takes one character after another and knows only
where in a field it stands: a comma ends a field and a line feed a row, except inside quotes; a
field that starts with a quote runs to the quote that closes it, and two quotes inside stand for
one. It reads from a printed table the rows that the table was made of (`read_toText`).
-/

set_option autoImplicit false

namespace FormulaAudit.Csv

theorem isSpecial_eq_false_iff {c : Char} :
    isSpecial c = false ↔ c ≠ ',' ∧ c ≠ '"' ∧ c ≠ '\n' := by
  simp [isSpecial, and_assoc]

theorem doubleQuotes_cons (c : Char) (cs : List Char) :
    doubleQuotes (c :: cs) = (if c = '"' then ['"', '"'] else [c]) ++ doubleQuotes cs :=
  List.flatMap_cons

/-! ### The reader -/

/-- Where in a field the reader stands. -/
inductive Place where
  | start
  | unquoted
  | quoted
  /-- Behind a quote inside quotes, which closes the field unless another one follows. -/
  | closing
deriving DecidableEq

structure Reader where
  place : Place := .start
  /-- The field begun. -/
  field : List Char := []
  /-- The fields of the row begun. -/
  fields : List String := []
  rows : List (List String) := []

namespace Reader

def push (r : Reader) (place : Place) (c : Char) : Reader :=
  { r with place, field := r.field ++ [c] }

def endField (r : Reader) : Reader :=
  { fields := r.fields ++ [String.ofList r.field], rows := r.rows }

def endRow (r : Reader) : Reader := { rows := r.rows ++ [r.fields ++ [String.ofList r.field]] }

/-- Reads a character; nothing but the end of the field may follow a closing quote. -/
def step (r : Reader) (c : Char) : Option Reader :=
  match r.place with
  | .start =>
    if c = ',' then some r.endField
    else if c = '\n' then some r.endRow
    else if c = '"' then some { r with place := .quoted }
    else some (r.push .unquoted c)
  | .unquoted =>
    if c = ',' then some r.endField
    else if c = '\n' then some r.endRow
    else some (r.push .unquoted c)
  | .quoted => if c = '"' then some { r with place := .closing } else some (r.push .quoted c)
  | .closing =>
    if c = ',' then some r.endField
    else if c = '\n' then some r.endRow
    else if c = '"' then some (r.push .quoted c)
    else none

def run (r : Reader) (cs : List Char) : Option Reader := cs.foldlM step r

/-- The rows read, if the last one is complete. -/
def finish (r : Reader) : Option (List (List String)) :=
  if r.place = .start ∧ r.fields = [] then some r.rows else none

end Reader

/-- The rows of a text; none if a quote is not closed, if something follows a closing quote, or if
the last row has no end. -/
def read (text : String) : Option (List (List String)) :=
  (Reader.run {} text.toList).bind Reader.finish

namespace Reader

variable {r : Reader}

theorem run_cons (r : Reader) (c : Char) (cs : List Char) :
    r.run (c :: cs) = (r.step c).bind fun s ↦ s.run cs := List.foldlM_cons

theorem run_append (r : Reader) (cs more : List Char) :
    r.run (cs ++ more) = (r.run cs).bind fun s ↦ s.run more := List.foldlM_append

/-! ### Ends of fields -/

theorem step_comma (hplace : r.place ≠ .quoted) : r.step ',' = some r.endField := by
  unfold step
  cases hr : r.place with
  | quoted => exact absurd hr hplace
  | start | unquoted | closing => rfl

theorem step_lineFeed (hplace : r.place ≠ .quoted) : r.step '\n' = some r.endRow := by
  unfold step
  cases hr : r.place with
  | quoted => exact absurd hr hplace
  | start | unquoted | closing => rfl

/-! ### Fields -/

theorem step_of_not_isSpecial {c : Char} (hc : isSpecial c = false)
    (hplace : r.place = .start ∨ r.place = .unquoted) : r.step c = some (r.push .unquoted c) := by
  obtain ⟨hcomma, hquote, hline⟩ := isSpecial_eq_false_iff.mp hc
  unfold step
  rcases hplace with hr | hr
  · rw [hr]
    simp only [if_neg hcomma, if_neg hline, if_neg hquote]
  · rw [hr]
    simp only [if_neg hcomma, if_neg hline]

/-- Behind a field: it is read, it may end, and nothing else has changed. -/
structure HasRead (s r : Reader) (cs : List Char) : Prop where
  place : s.place ≠ .quoted
  field : s.field = r.field ++ cs
  fields : s.fields = r.fields
  rows : s.rows = r.rows

theorem exists_run_unquoted {cs : List Char} (hcs : ∀ c ∈ cs, isSpecial c = false)
    (hplace : r.place = .start ∨ r.place = .unquoted) :
    ∃ s, r.run cs = some s ∧ s.HasRead r cs := by
  induction cs generalizing r with
  | nil =>
    refine ⟨r, rfl, ?_, (List.append_nil _).symm, rfl, rfl⟩
    rcases hplace with hr | hr <;> simp [hr]
  | cons c cs ih =>
    obtain ⟨hc, hrest⟩ := List.forall_mem_cons.mp hcs
    obtain ⟨s, hrun, hread⟩ := ih hrest (r := r.push .unquoted c) (Or.inr rfl)
    refine ⟨s, ?_, hread.place, ?_, hread.fields, hread.rows⟩
    · rw [run_cons, step_of_not_isSpecial hc hplace]
      exact hrun
    · rw [hread.field, push, List.append_assoc]
      rfl

/-- Inside quotes, a character as it is printed there is the character. -/
theorem run_doubleQuotes_singleton (hplace : r.place = .quoted) (c : Char) :
    r.run (if c = '"' then ['"', '"'] else [c]) = some (r.push .quoted c) := by
  obtain ⟨place, field, fields, rows⟩ := r
  cases hplace
  by_cases hquote : c = '"'
  · rw [if_pos hquote, hquote]
    rfl
  · rw [if_neg hquote, run_cons, step]
    simp only [if_neg hquote]
    rfl

theorem run_doubleQuotes (hplace : r.place = .quoted) (cs : List Char) :
    r.run (doubleQuotes cs) = some { r with field := r.field ++ cs } := by
  induction cs generalizing r with
  | nil =>
    rw [List.append_nil]
    rfl
  | cons c cs ih =>
    rw [doubleQuotes_cons, run_append, run_doubleQuotes_singleton hplace, Option.bind_some,
      ih (r := r.push .quoted c) rfl, push, List.append_assoc, ← hplace]
    rfl

theorem exists_run_quoted (hplace : r.place = .start) (cs : List Char) :
    ∃ s, r.run ('"' :: doubleQuotes cs ++ ['"']) = some s ∧ s.HasRead r cs := by
  refine ⟨{ r with place := .closing, field := r.field ++ cs }, ?_, by simp, rfl, rfl, rfl⟩
  have hopen : r.step '"' = some { r with place := .quoted } := by
    unfold step
    rw [hplace]
    rfl
  rw [List.cons_append, run_cons, hopen, Option.bind_some, run_append, run_doubleQuotes rfl]
  rfl

theorem exists_run_printField (hplace : r.place = .start) (cs : List Char) :
    ∃ s, r.run (printField cs) = some s ∧ s.HasRead r cs := by
  unfold printField
  by_cases hspecial : cs.any isSpecial = true
  · rw [if_pos hspecial]
    exact exists_run_quoted hplace cs
  · rw [if_neg hspecial]
    refine exists_run_unquoted (fun c hc ↦ ?_) (Or.inl hplace)
    rw [Bool.not_eq_true, List.any_eq_false] at hspecial
    exact Bool.eq_false_iff.mpr (hspecial c hc)

/-! ### Rows -/

variable (rows : List (List String)) (fields : List String)

theorem HasRead.ofList_field {field : String} (h : r.HasRead { fields, rows } field.toList) :
    String.ofList r.field = field := by
  rw [h.field, List.nil_append, String.ofList_toList]

theorem run_printField_comma (field : String) (more : List Char) :
    run { fields, rows } (printField field.toList ++ ',' :: more) =
      run { fields := fields ++ [field], rows } more := by
  obtain ⟨s, hrun, hread⟩ := exists_run_printField (r := { fields, rows }) rfl field.toList
  rw [run_append, hrun, Option.bind_some, run_cons, step_comma hread.place, Option.bind_some,
    endField, hread.ofList_field, hread.fields, hread.rows]

theorem run_printField_lineFeed (field : String) (more : List Char) :
    run { fields, rows } (printField field.toList ++ '\n' :: more) =
      run { rows := rows ++ [fields ++ [field]] } more := by
  obtain ⟨s, hrun, hread⟩ := exists_run_printField (r := { fields, rows }) rfl field.toList
  rw [run_append, hrun, Option.bind_some, run_cons, step_lineFeed hread.place, Option.bind_some,
    endRow, hread.ofList_field, hread.fields, hread.rows]

/-- The fields of a row in front of its end, behind those that the reader already has. -/
theorem run_printFields {row : List String} (hrow : row ≠ []) (more : List Char) :
    run { fields, rows } (printFields row ++ '\n' :: more) =
      run { rows := rows ++ [fields ++ row] } more := by
  induction row using printFields.induct generalizing fields with
  | case1 => exact absurd rfl hrow
  | case2 field => exact run_printField_lineFeed rows fields field more
  | case3 field row hrest ih =>
    -- A comma follows, so the reader starts the next field with this one behind it.
    rw [printFields.eq_3 field row hrest, List.append_assoc, List.cons_append,
      run_printField_comma, ih _ hrest, List.append_assoc, List.singleton_append]

theorem run_printRow {row : List String} (hrow : row ≠ []) (more : List Char) :
    run { rows } (printRow row ++ more) = run { rows := rows ++ [row] } more := by
  rw [printRow, List.append_assoc, List.singleton_append, run_printFields rows [] hrow,
    List.nil_append]

theorem run_flatMap_printRow {table : List (List String)} (htable : ∀ row ∈ table, row ≠ []) :
    run { rows } (table.flatMap printRow) = some { rows := rows ++ table } := by
  induction table generalizing rows with
  | nil =>
    rw [List.append_nil]
    rfl
  | cons row table ih =>
    obtain ⟨hrow, hrest⟩ := List.forall_mem_cons.mp htable
    rw [List.flatMap_cons, run_printRow rows hrow, ih _ hrest, List.append_assoc,
      List.singleton_append]

end Reader

/-- A printed table is read back, whatever its fields hold. A row without fields would be read as
one empty field, so there must be none. -/
theorem read_toText {table : List (List String)} (htable : ∀ row ∈ table, row ≠ []) :
    read (toText table) = some table := by
  rw [read, toText, String.toList_ofList, Reader.run_flatMap_printRow [] htable]
  rfl

example : read "\"a,b\",\"\"\"\",\n" = some [["a,b", "\"", ""]] := by decide +kernel

end FormulaAudit.Csv
