import FormulaAudit.Proofs.Csv.Reader
import Mathlib.Algebra.GroupWithZero.Nat
import Mathlib.Data.List.Basic

/-!
Line ends in comma-separated text. Common readers end a row not only at a line feed but at a carriage
return as well, while a field is quoted for a line feed and not for a carriage return. So a carriage
return in a field that is not quoted stands outside quotes (`lineEnds_toText`) and breaks the row
for such a reader: it finds one record more for each of them (`exists_readStandard_toText`), and the
rows of the table exactly if there is none (`keepsRows_iff`).
-/

set_option autoImplicit false

namespace FormulaAudit.Csv

def isLineEnd (c : Char) : Bool := c == '\r' || c == '\n'

/-- How many carriage returns of a field are printed outside quotes. -/
def bareReturns (field : String) : Nat :=
  if field.toList.any isSpecial then 0 else field.toList.count '\r'

theorem bareReturns_eq_zero_iff {field : String} :
    bareReturns field = 0 ↔ ('\r' ∈ field.toList → field.toList.any isSpecial = true) := by
  unfold bareReturns
  by_cases hspecial : field.toList.any isSpecial = true
  · simp [hspecial]
  · rw [if_neg hspecial, List.count_eq_zero]
    exact ⟨fun hnone hreturn ↦ absurd hreturn hnone, fun h hreturn ↦ hspecial (h hreturn)⟩

/-- The row has a last field, and no bare carriage return in it, which would take the line feed
behind the row for its own. -/
def HasFirmEnd (row : List String) : Prop :=
  row ≠ [] ∧ ∀ field ∈ row.getLast?, bareReturns field = 0

theorem HasFirmEnd.of_cons {field : String} {row : List String} (h : HasFirmEnd (field :: row))
    (hrow : row ≠ []) : HasFirmEnd row :=
  ⟨hrow, by rw [← List.getLast?_cons_of_ne_nil hrow]; exact h.2⟩

/-! ### Line ends outside quotes -/

namespace Reader

variable {r s : Reader}

/-- The line ends that a reader meets outside quotes. -/
def lineEnds (r : Reader) : List Char → List Char
  | [] => []
  | c :: cs =>
    let later := match r.step c with
      | some s => s.lineEnds cs
      | none => []
    if r.place ≠ .quoted ∧ isLineEnd c then c :: later else later

theorem lineEnds_cons {c : Char} (hstep : r.step c = some s) (cs : List Char) :
    r.lineEnds (c :: cs) =
      (if r.place ≠ .quoted ∧ isLineEnd c then [c] else []) ++ s.lineEnds cs := by
  rw [lineEnds, hstep]
  split <;> rfl

theorem lineEnds_append {cs : List Char} (hrun : r.run cs = some s) (more : List Char) :
    r.lineEnds (cs ++ more) = r.lineEnds cs ++ s.lineEnds more := by
  induction cs generalizing r with
  | nil =>
    cases hrun
    rfl
  | cons c cs ih =>
    rw [run_cons] at hrun
    obtain ⟨next, hstep, hrest⟩ := Option.bind_eq_some_iff.mp hrun
    rw [List.cons_append, lineEnds_cons hstep, lineEnds_cons hstep, ih hrest, List.append_assoc]

theorem lineEnds_unquoted {cs : List Char} (hcs : ∀ c ∈ cs, isSpecial c = false)
    (hplace : r.place = .start ∨ r.place = .unquoted) :
    r.lineEnds cs = List.replicate (cs.count '\r') '\r' := by
  induction cs generalizing r with
  | nil => rfl
  | cons c cs ih =>
    obtain ⟨hc, hrest⟩ := List.forall_mem_cons.mp hcs
    have houtside : r.place ≠ .quoted := by rcases hplace with h | h <;> simp [h]
    rw [lineEnds_cons (step_of_not_isSpecial hc hplace), ih hrest (Or.inr rfl)]
    by_cases hreturn : c = '\r'
    · subst hreturn
      rw [if_pos ⟨houtside, rfl⟩, List.count_cons_self, List.replicate_succ, List.singleton_append]
    · have hnone : isLineEnd c = false := by
        simp [isLineEnd, hreturn, (isSpecial_eq_false_iff.mp hc).2.2]
      rw [if_neg (by simp [hnone]), List.count_cons_of_ne hreturn, List.nil_append]

/-- Inside quotes a quote leads outside for a moment, but a quote is no line end. -/
theorem lineEnds_doubleQuotes (hplace : r.place = .quoted) (cs : List Char) :
    r.lineEnds (doubleQuotes cs) = [] := by
  induction cs generalizing r with
  | nil => rfl
  | cons c cs ih =>
    rw [doubleQuotes_cons, lineEnds_append (run_doubleQuotes_singleton hplace c), ih rfl,
      List.append_nil]
    by_cases hquote : c = '"'
    · subst hquote
      obtain ⟨place, field, fields, rows⟩ := r
      cases hplace
      rfl
    · rw [if_neg hquote]
      have hsingle := run_doubleQuotes_singleton hplace c
      rw [if_neg hquote, run_cons] at hsingle
      obtain ⟨next, hstep, -⟩ := Option.bind_eq_some_iff.mp hsingle
      rw [lineEnds_cons hstep, if_neg (by simp [hplace])]
      rfl

theorem lineEnds_printField (hplace : r.place = .start) (field : String) :
    r.lineEnds (printField field.toList) = List.replicate (bareReturns field) '\r' := by
  unfold printField bareReturns
  by_cases hspecial : field.toList.any isSpecial = true
  · rw [if_pos hspecial, if_pos hspecial]
    have hopen : r.step '"' = some { r with place := .quoted } := by
      unfold step
      rw [hplace]
      rfl
    rw [List.cons_append, lineEnds_cons hopen, if_neg (by simp [isLineEnd]),
      lineEnds_append (run_doubleQuotes rfl field.toList), lineEnds_doubleQuotes rfl]
    rfl
  · rw [if_neg hspecial, if_neg hspecial]
    refine lineEnds_unquoted (fun c hc ↦ ?_) (Or.inl hplace)
    rw [Bool.not_eq_true, List.any_eq_false] at hspecial
    exact Bool.eq_false_iff.mpr (hspecial c hc)

variable (rows : List (List String)) (fields : List String)

/-- A field and the separator behind it, which is outside quotes. -/
theorem lineEnds_printField_cons (field : String) (separator : Char) (more : List Char)
    {next : Reader} (hnext : ∀ s : Reader, s.HasRead { fields, rows } field.toList →
      s.step separator = some next) :
    lineEnds { fields, rows } (printField field.toList ++ separator :: more) =
      List.replicate (bareReturns field) '\r' ++
        ((if isLineEnd separator then [separator] else []) ++ next.lineEnds more) := by
  obtain ⟨s, hrun, hread⟩ := exists_run_printField (r := { fields, rows }) rfl field.toList
  rw [lineEnds_append hrun, lineEnds_printField rfl, lineEnds_cons (hnext s hread)]
  simp only [ne_eq, hread.place, not_false_eq_true, true_and]

theorem lineEnds_printFields {row : List String} (hrow : row ≠ []) (more : List Char) :
    lineEnds { fields, rows } (printFields row ++ '\n' :: more) =
      List.replicate (row.map bareReturns).sum '\r' ++
        '\n' :: lineEnds { rows := rows ++ [fields ++ row] } more := by
  induction row using printFields.induct generalizing fields with
  | case1 => exact absurd rfl hrow
  | case2 field =>
    rw [printFields, lineEnds_printField_cons rows fields field '\n' more fun s hread ↦ by
      rw [step_lineFeed hread.place, endRow, hread.ofList_field, hread.fields, hread.rows]]
    simp [isLineEnd]
  | case3 field row hrest ih =>
    rw [printFields.eq_3 field row hrest, List.append_assoc, List.cons_append,
      lineEnds_printField_cons rows fields field ',' _ fun s hread ↦ by
        rw [step_comma hread.place, endField, hread.ofList_field, hread.fields, hread.rows],
      ih (fields ++ [field]) hrest, List.map_cons, List.sum_cons, List.replicate_add,
      List.append_assoc, List.append_assoc]
    rfl

theorem lineEnds_flatMap_printRow {table : List (List String)} (htable : ∀ row ∈ table, row ≠ []) :
    lineEnds { rows } (table.flatMap printRow) = table.flatMap fun row ↦
      List.replicate (row.map bareReturns).sum '\r' ++ ['\n'] := by
  induction table generalizing rows with
  | nil => rfl
  | cons row table ih =>
    obtain ⟨hrow, hrest⟩ := List.forall_mem_cons.mp htable
    rw [List.flatMap_cons, List.flatMap_cons, printRow, List.append_assoc, List.singleton_append,
      lineEnds_printFields rows [] hrow, ih _ hrest, List.append_assoc, List.singleton_append]

end Reader

/-- The line ends of a text outside quotes. -/
def lineEnds (text : String) : List Char := Reader.lineEnds {} text.toList

/-- Outside quotes stand the line feeds that end the rows, and in each row the carriage returns of
its bare fields. -/
theorem lineEnds_toText {table : List (List String)} (htable : ∀ row ∈ table, row ≠ []) :
    lineEnds (toText table) = table.flatMap fun row ↦
      List.replicate (row.map bareReturns).sum '\r' ++ ['\n'] := by
  rw [lineEnds, toText, String.toList_ofList, Reader.lineEnds_flatMap_printRow [] htable]

/-! ### A reader for all line ends -/

/-- A reader that ends a row, outside quotes, at a carriage return too, alone or with the line feed
behind it. -/
structure StandardReader where
  reader : Reader := {}
  /-- The last character was a carriage return that ended a row. -/
  behindReturn : Bool := false

namespace StandardReader

def step (r : StandardReader) (c : Char) : Option StandardReader :=
  if r.reader.place ≠ .quoted ∧ c = '\r' then
    some { reader := r.reader.endRow, behindReturn := true }
  else if r.behindReturn ∧ c = '\n' then some { reader := r.reader }
  else (r.reader.step c).map ({ reader := · })

def run (r : StandardReader) (cs : List Char) : Option StandardReader := cs.foldlM step r

end StandardReader

/-- The records that common readers find in a text. -/
def readStandard (text : String) : Option (List (List String)) :=
  (StandardReader.run {} text.toList).bind fun r ↦ r.reader.finish

namespace StandardReader

variable {r s : Reader}

theorem run_cons (r : StandardReader) (c : Char) (cs : List Char) :
    r.run (c :: cs) = (r.step c).bind fun s ↦ s.run cs := List.foldlM_cons

theorem run_append (r : StandardReader) (cs more : List Char) :
    r.run (cs ++ more) = (r.run cs).bind fun s ↦ s.run more := List.foldlM_append

/-- Text without a carriage return outside quotes is read like any other. -/
theorem run_eq_some {cs : List Char} (hrun : r.run cs = some s) (hcs : '\r' ∉ r.lineEnds cs) :
    run { reader := r } cs = some { reader := s } := by
  induction cs generalizing r with
  | nil =>
    cases hrun
    rfl
  | cons c cs ih =>
    rw [Reader.run_cons] at hrun
    obtain ⟨next, hstep, hrest⟩ := Option.bind_eq_some_iff.mp hrun
    rw [Reader.lineEnds_cons hstep, List.mem_append, not_or] at hcs
    have hreturn : ¬ (r.place ≠ .quoted ∧ c = '\r') := by
      rintro ⟨hplace, rfl⟩
      exact hcs.1 (by simp [hplace, isLineEnd])
    rw [run_cons, step, if_neg hreturn, if_neg (by simp), hstep]
    exact ih hrest hcs.2

theorem step_comma {r : StandardReader} (hplace : r.reader.place ≠ .quoted) :
    r.step ',' = some { reader := r.reader.endField } := by
  rw [step, if_neg (by simp), if_neg (by simp), Reader.step_comma hplace, Option.map_some]

/-- Each carriage return in a bare field ends a row. -/
theorem exists_run_unquoted {cs : List Char} (hcs : ∀ c ∈ cs, isSpecial c = false)
    (r : StandardReader) (hplace : r.reader.place = .start ∨ r.reader.place = .unquoted) :
    ∃ s, r.run cs = some s ∧ s.reader.place ≠ .quoted ∧
      s.reader.rows.length = r.reader.rows.length + cs.count '\r' := by
  induction cs generalizing r with
  | nil => exact ⟨r, rfl, by rcases hplace with h | h <;> simp [h], rfl⟩
  | cons c cs ih =>
    obtain ⟨hc, hrest⟩ := List.forall_mem_cons.mp hcs
    by_cases hreturn : c = '\r'
    · subst hreturn
      have hstep : r.step '\r' = some { reader := r.reader.endRow, behindReturn := true } :=
        if_pos ⟨by rcases hplace with h | h <;> simp [h], rfl⟩
      obtain ⟨s, hrun, hs, hrows⟩ := ih hrest { reader := r.reader.endRow, behindReturn := true }
        (Or.inl rfl)
      refine ⟨s, by rw [run_cons, hstep]; exact hrun, hs, ?_⟩
      rw [hrows, List.count_cons_self]
      simp only [Reader.endRow, List.length_append, List.length_singleton]
      omega
    · have hstep : r.step c = some { reader := r.reader.push .unquoted c } := by
        rw [step, if_neg (by simp [hreturn]), if_neg (by simp [(isSpecial_eq_false_iff.mp hc).2.2]),
          Reader.step_of_not_isSpecial hc hplace, Option.map_some]
      obtain ⟨s, hrun, hs, hrows⟩ := ih hrest { reader := r.reader.push .unquoted c } (Or.inr rfl)
      refine ⟨s, by rw [run_cons, hstep]; exact hrun, hs, ?_⟩
      rw [hrows, List.count_cons_of_ne hreturn]
      rfl

variable (rows : List (List String)) (fields : List String)

/-- A field that is printed without a bare carriage return is read, with the separator behind it. -/
theorem run_printField_cons {field : String} (hfield : bareReturns field = 0) {separator : Char}
    {next : Reader} (hnext : ∀ s : Reader, s.HasRead { fields, rows } field.toList →
      s.step separator = some next) (hseparator : separator ≠ '\r') (more : List Char) :
    run { reader := { fields, rows } } (printField field.toList ++ separator :: more) =
      run { reader := next } more := by
  obtain ⟨s, hrun, hread⟩ := Reader.exists_run_printField (r := { fields, rows }) rfl field.toList
  have hends := Reader.lineEnds_printField (r := { fields, rows }) rfl field
  rw [hfield] at hends
  have hstep : step { reader := s } separator = some { reader := next } := by
    rw [step, if_neg (by simp [hseparator]), if_neg (by simp), hnext s hread, Option.map_some]
  rw [run_append, run_eq_some hrun (by rw [hends]; exact nofun), Option.bind_some, run_cons, hstep,
    Option.bind_some]

/-- A field and the comma behind it. -/
theorem exists_run_printField_comma (field : String) (more : List Char) :
    ∃ rows' fields', run { reader := { fields, rows } } (printField field.toList ++ ',' :: more) =
        run { reader := { fields := fields', rows := rows' } } more ∧
      rows'.length = rows.length + bareReturns field ∧
      (bareReturns field = 0 → rows' = rows ∧ fields' = fields ++ [field]) := by
  by_cases hfield : bareReturns field = 0
  · refine ⟨rows, fields ++ [field], run_printField_cons rows fields hfield (fun s hread ↦ ?_)
      (by decide) more, by rw [hfield]; rfl, fun _ ↦ ⟨rfl, rfl⟩⟩
    rw [Reader.step_comma hread.place, Reader.endField, hread.ofList_field, hread.fields,
      hread.rows]
  · have hbare : ¬ field.toList.any isSpecial = true := fun h ↦ hfield (if_pos h)
    have hcs : ∀ c ∈ field.toList, isSpecial c = false := by simpa using hbare
    obtain ⟨s, hrun, hplace, hrows⟩ :=
      exists_run_unquoted hcs { reader := { fields, rows } } (Or.inl rfl)
    refine ⟨s.reader.rows, s.reader.fields ++ [String.ofList s.reader.field], ?_, ?_,
      fun h ↦ absurd h hfield⟩
    · rw [printField, if_neg hbare, run_append, hrun, Option.bind_some, run_cons,
        step_comma hplace, Option.bind_some]
      rfl
    · rw [hrows, bareReturns, if_neg hbare]

/-- A row whose last field ends it: one record more for each bare carriage return, and the row
itself if there is none. -/
theorem exists_run_printFields {row : List String} (hrow : HasFirmEnd row) (more : List Char) :
    ∃ rows', run { reader := { fields, rows } } (printFields row ++ '\n' :: more) =
        run { reader := { rows := rows' } } more ∧
      rows'.length = rows.length + (row.map bareReturns).sum + 1 ∧
      ((row.map bareReturns).sum = 0 → rows' = rows ++ [fields ++ row]) := by
  induction row using printFields.induct generalizing rows fields with
  | case1 => exact absurd rfl hrow.1
  | case2 field =>
    have hfield : bareReturns field = 0 := hrow.2 field rfl
    refine ⟨rows ++ [fields ++ [field]], run_printField_cons rows fields hfield (fun s hread ↦ ?_)
      (by decide) more, by simp [hfield], fun _ ↦ rfl⟩
    rw [Reader.step_lineFeed hread.place, Reader.endRow, hread.ofList_field, hread.fields,
      hread.rows]
  | case3 field row hrest ih =>
    obtain ⟨rows₁, fields₁, hrun₁, hlength₁, hread₁⟩ :=
      exists_run_printField_comma rows fields field (printFields row ++ '\n' :: more)
    obtain ⟨rows₂, hrun₂, hlength₂, hread₂⟩ :=
      ih rows₁ fields₁ (hrow.of_cons hrest)
    refine ⟨rows₂, ?_, ?_, fun hnone ↦ ?_⟩
    · rw [printFields.eq_3 field row hrest, List.append_assoc, List.cons_append, hrun₁, hrun₂]
    · rw [hlength₂, hlength₁, List.map_cons, List.sum_cons]
      omega
    · rw [List.map_cons, List.sum_cons] at hnone
      obtain ⟨hfield, hfields⟩ := Nat.add_eq_zero_iff.mp hnone
      obtain ⟨rfl, rfl⟩ := hread₁ hfield
      rw [hread₂ hfields, List.append_assoc, List.singleton_append]

theorem exists_run_flatMap_printRow {table : List (List String)}
    (htable : ∀ row ∈ table, HasFirmEnd row) :
    ∃ rows', run { reader := { rows } } (table.flatMap printRow) =
        some { reader := { rows := rows' } } ∧
      rows'.length = rows.length + table.length + (table.flatten.map bareReturns).sum ∧
      ((table.flatten.map bareReturns).sum = 0 → rows' = rows ++ table) := by
  induction table generalizing rows with
  | nil => exact ⟨rows, rfl, rfl, fun _ ↦ (List.append_nil _).symm⟩
  | cons row table ih =>
    obtain ⟨hrow, hrest⟩ := List.forall_mem_cons.mp htable
    obtain ⟨rows₁, hrun₁, hlength₁, hread₁⟩ :=
      exists_run_printFields rows [] hrow (table.flatMap printRow)
    obtain ⟨rows₂, hrun₂, hlength₂, hread₂⟩ := ih rows₁ hrest
    rw [List.flatten_cons, List.map_append, List.sum_append]
    refine ⟨rows₂, ?_, ?_, fun hnone ↦ ?_⟩
    · rw [List.flatMap_cons, printRow, List.append_assoc, List.singleton_append, hrun₁, hrun₂]
    · rw [hlength₂, hlength₁, List.length_cons]
      omega
    · obtain ⟨hfields, hothers⟩ := Nat.add_eq_zero_iff.mp hnone
      rw [hread₂ hothers, hread₁ hfields, List.append_assoc, List.nil_append,
        List.singleton_append]

end StandardReader

section Table

variable {table : List (List String)}

/-- A common reader finds one record more for each bare carriage return, and the rows of the table
exactly if there is none. -/
theorem exists_readStandard_toText (htable : ∀ row ∈ table, HasFirmEnd row) :
    ∃ records, readStandard (toText table) = some records ∧
      records.length = table.length + (table.flatten.map bareReturns).sum ∧
      (records = table ↔ (table.flatten.map bareReturns).sum = 0) := by
  obtain ⟨records, hrun, hlength, hread⟩ :=
    StandardReader.exists_run_flatMap_printRow [] htable
  rw [List.length_nil, Nat.zero_add] at hlength
  refine ⟨records, ?_, hlength, fun heq ↦ ?_, hread⟩
  · rw [readStandard, toText, String.toList_ofList, hrun]
    rfl
  · rw [heq] at hlength
    omega

/-- No line end breaks a row: outside quotes stand only the line feeds that end the rows, one for
each, and a common reader finds as many records. -/
def KeepsRows (table : List (List String)) : Prop :=
  lineEnds (toText table) = table.map (fun _ ↦ '\n') ∧
    ∃ records, readStandard (toText table) = some records ∧ records.length = table.length

theorem keepsRows_iff (htable : ∀ row ∈ table, HasFirmEnd row) :
    KeepsRows table ↔ (table.flatten.map bareReturns).sum = 0 := by
  obtain ⟨records, hread, hlength, -⟩ := exists_readStandard_toText htable
  constructor
  · rintro ⟨-, found, hfound, hsame⟩
    obtain rfl := Option.some.inj (hread.symm.trans hfound)
    omega
  · intro hnone
    refine ⟨?_, records, hread, by omega⟩
    rw [lineEnds_toText (fun row hrow ↦ (htable row hrow).1), List.map_eq_flatMap]
    refine List.flatMap_congr fun row hrow ↦ ?_
    have hbare : (row.map bareReturns).sum = 0 := by
      rw [List.sum_eq_zero_iff_forall_eq_nat, List.forall_mem_map] at hnone ⊢
      exact fun field hfield ↦ hnone field (List.mem_flatten_of_mem hrow hfield)
    rw [hbare]
    rfl

end Table

end FormulaAudit.Csv
