import FormulaAudit.Proofs.RuleBook.SimpleForms

/-!
No formula has two of the simple forms. The form can be read off the text: past the characters that
references and sheet names are made of stands a mark, and the mark and the character behind it tell
the forms apart; a text without a mark is a reference or a number, as its first character shows
(`readForm_of_describes`). Each rule for simple formulas therefore finds what no other one finds
(`eq_of_foundIn_simplePatterns`).
-/

set_option autoImplicit false

namespace FormulaAudit

namespace SimpleForm

open Grammar

/-- The characters of references, sheet names and whole numbers. -/
def isPlain (c : Char) : Bool := ('A' ≤ c && c ≤ 'Z') || c == '_' || Text.isDecimalDigit c

/-- The form of a text with the mark and, right behind it, the other character. -/
def ofMark (mark next : Char) : SimpleForm :=
  if mark = '"' then literalConcatenation
  else if mark = '(' then blankCheck
  else if mark = '!' then sheetReference
  else if mark = '.' then number
  else if next = '$' then absoluteDivision
  else if 'A' ≤ next ∧ next ≤ 'Z' then referenceArithmetic
  else scaledReference

/-- The form that a text has if it has any. -/
def readForm (text : List Char) : SimpleForm :=
  match text.dropWhile isPlain with
  | mark :: next :: _ => ofMark mark next
  | _ => if text.head?.any Text.isDecimalDigit then number else cellReference

/-- Plain characters, a mark and at least one character behind it. -/
def MarkedAs (form : SimpleForm) (text : List Char) : Prop :=
  ∃ name mark next rest, text = name ++ mark :: next :: rest ∧ (∀ c ∈ name, isPlain c = true) ∧
    isPlain mark = false ∧ ofMark mark next = form

section Reading

variable {form : SimpleForm} {text tail name w : List Char}

theorem readForm_of_marked (htext : MarkedAs form text) : readForm text = form := by
  obtain ⟨name, mark, next, rest, rfl, hname, hmark, hform⟩ := htext
  have hdrop : (name ++ mark :: next :: rest).dropWhile isPlain = mark :: next :: rest := by
    rw [List.dropWhile_append_of_pos hname, List.dropWhile_cons_of_neg (by simp [hmark])]
  rw [readForm, hdrop]
  exact hform

theorem MarkedAs.append (htext : MarkedAs form text) (tail : List Char) :
    MarkedAs form (text ++ tail) := by
  obtain ⟨name, mark, next, rest, rfl, hrest⟩ := htext
  exact ⟨name, mark, next, rest ++ tail, by simp, hrest⟩

theorem readForm_of_plain (hname : ∀ c ∈ name, isPlain c = true)
    (htail : tail = [] ∨ tail = ['\n']) :
    readForm (name ++ tail) =
      if (name ++ tail).head?.any Text.isDecimalDigit then number else cellReference := by
  have hdrop : (name ++ tail).dropWhile isPlain = tail := by
    rw [List.dropWhile_append_of_pos hname]
    rcases htail with rfl | rfl <;> rfl
  rw [readForm, hdrop]
  rcases htail with rfl | rfl <;> rfl

theorem isPlain_of_capital {c : Char} (hc : 'A' ≤ c ∧ c ≤ 'Z') : isPlain c = true := by
  simp [isPlain, hc]

theorem isPlain_of_digit {c : Char} (hc : Text.isDecimalDigit c = true) : isPlain c = true := by
  simp [isPlain, hc]

/-- Letters are not decimal digits. -/
theorem isDecimalDigit_of_capital {c : Char} (hc : 'A' ≤ c ∧ c ≤ 'Z') :
    Text.isDecimalDigit c = false := by
  have hlow : 'A'.toNat ≤ c.toNat := UInt32.le_iff_toNat_le.mp hc.1
  have hhigh : c.toNat ≤ 'Z'.toNat := UInt32.le_iff_toNat_le.mp hc.2
  have hzeros : ∀ start ∈ Text.digitZeros, start + 10 ≤ 'A'.toNat ∨ 'Z'.toNat < start := by decide
  rw [Text.isDecimalDigit, Option.isSome_eq_false_iff, Option.isNone_iff_eq_none, Text.digitZero?,
    List.find?_eq_none]
  intro start hstart
  have hzero := hzeros start hstart
  simp only [Bool.and_eq_true, decide_eq_true_eq]
  omega

/-- A reference begins with a capital letter, and all of it is plain. -/
theorem exists_cons_of_mem_reference (hw : w ∈ reference) :
    ∃ first rest, w = first :: rest ∧ ('A' ≤ first ∧ first ≤ 'Z') ∧ ∀ c ∈ w, isPlain c = true := by
  obtain ⟨column, ⟨hne, hcolumn⟩, row, ⟨-, hrow⟩, rfl⟩ := Language.mem_mul.mp hw
  obtain ⟨first, rest, rfl⟩ := List.exists_cons_of_ne_nil hne
  refine ⟨first, rest ++ row, rfl, hcolumn first List.mem_cons_self, fun c hc ↦ ?_⟩
  rcases List.mem_append.mp hc with hin | hin
  · exact isPlain_of_capital (hcolumn c hin)
  · exact isPlain_of_digit (hrow c hin)

theorem plain_of_mem_reference (hw : w ∈ reference) : ∀ c ∈ w, isPlain c = true := by
  obtain ⟨-, -, -, -, hplain⟩ := exists_cons_of_mem_reference hw
  exact hplain

theorem plain_of_mem_digits (hw : w ∈ digits) : ∀ c ∈ w, isPlain c = true :=
  fun c hc ↦ isPlain_of_digit (hw.2 c hc)

end Reading

/-! ### The mark of each form -/

section Marks

variable {w : List Char}

theorem isPlain_of_operator {mark : Char} (hmark : mark ∈ "+-*/".toList) :
    isPlain mark = false ∧ ofMark mark 'A' = referenceArithmetic := by
  have hcases : mark = '+' ∨ mark = '-' ∨ mark = '*' ∨ mark = '/' := by simpa using hmark
  rcases hcases with rfl | rfl | rfl | rfl <;> exact ⟨rfl, rfl⟩

theorem marked_referenceArithmetic (hw : w ∈ referenceArithmetic.language) :
    MarkedAs referenceArithmetic w := by
  rw [language, mul_assoc] at hw
  obtain ⟨left, hleft, _, hmore, rfl⟩ := Language.mem_mul.mp hw
  obtain ⟨_, ⟨mark, hmark, rfl⟩, right, hright, rfl⟩ := Language.mem_mul.mp hmore
  obtain ⟨next, rest, rfl, hnext, -⟩ := exists_cons_of_mem_reference hright
  obtain ⟨hplain, hform⟩ := isPlain_of_operator hmark
  have hdollar : next ≠ '$' := by
    rintro rfl
    exact absurd hnext.1 (by decide)
  refine ⟨left, mark, next, rest, rfl, plain_of_mem_reference hleft, hplain, ?_⟩
  rw [← hform, ofMark, ofMark, if_neg hdollar, if_pos hnext]
  rfl

theorem marked_absoluteDivision (hw : w ∈ absoluteDivision.language) :
    MarkedAs absoluteDivision w := by
  rw [language, fixedReference] at hw
  simp only [mul_assoc] at hw
  obtain ⟨left, hleft, _, hmore, rfl⟩ := Language.mem_mul.mp hw
  obtain ⟨_, rfl, _, hright, rfl⟩ := Language.mem_mul.mp hmore
  obtain ⟨_, rfl, rest, -, rfl⟩ := Language.mem_mul.mp hright
  exact ⟨left, '/', '$', rest, rfl, plain_of_mem_reference hleft, rfl, rfl⟩

theorem marked_blankCheck (hw : w ∈ blankCheck.language) : MarkedAs blankCheck w := by
  rw [language] at hw
  simp only [mul_assoc] at hw
  obtain ⟨_, rfl, rest, -, rfl⟩ := Language.mem_mul.mp hw
  refine ⟨['I', 'F'], '(', 'I', "SBLANK(".toList ++ rest, rfl, fun c hc ↦ ?_, rfl, rfl⟩
  rcases List.mem_pair.mp hc with rfl | rfl <;> rfl

theorem marked_literalConcatenation (hw : w ∈ literalConcatenation.language) :
    MarkedAs literalConcatenation w := by
  rw [language, quoted] at hw
  simp only [mul_assoc] at hw
  obtain ⟨_, rfl, _, hmore, rfl⟩ := Language.mem_mul.mp hw
  obtain ⟨content, -, _, hclosed, rfl⟩ := Language.mem_mul.mp hmore
  obtain ⟨_, rfl, rest, -, rfl⟩ := Language.mem_mul.mp hclosed
  cases content with
  | nil => exact ⟨[], '"', '"', rest, rfl, by simp, rfl, rfl⟩
  | cons next content => exact ⟨[], '"', next, content ++ '"' :: rest, rfl, by simp, rfl, rfl⟩

theorem marked_sheetReference (hw : w ∈ sheetReference.language) : MarkedAs sheetReference w := by
  rw [language, mul_assoc] at hw
  obtain ⟨sheet, ⟨-, hsheet⟩, _, hmore, rfl⟩ := Language.mem_mul.mp hw
  obtain ⟨_, rfl, cell, hcell, rfl⟩ := Language.mem_mul.mp hmore
  obtain ⟨next, rest, rfl, -, -⟩ := exists_cons_of_mem_reference hcell
  refine ⟨sheet, '!', next, rest, rfl, fun c hc ↦ ?_, rfl, rfl⟩
  rcases hsheet c hc with hcapital | rfl
  · exact isPlain_of_capital hcapital
  · rfl

theorem marked_scaledReference (hw : w ∈ scaledReference.language) : MarkedAs scaledReference w := by
  rw [language, mul_assoc] at hw
  obtain ⟨left, hleft, _, hmore, rfl⟩ := Language.mem_mul.mp hw
  obtain ⟨_, rfl, scale, ⟨hne, hscale⟩, rfl⟩ := Language.mem_mul.mp hmore
  obtain ⟨next, rest, rfl⟩ := List.exists_cons_of_ne_nil hne
  have hnext : next ≠ '$' ∧ ¬ ('A' ≤ next ∧ next ≤ 'Z') := by
    rcases hscale next List.mem_cons_self with hdigit | rfl
    · refine ⟨?_, fun hcapital ↦ ?_⟩
      · rintro rfl
        exact absurd hdigit (by decide +kernel)
      · rw [isDecimalDigit_of_capital hcapital] at hdigit
        exact absurd hdigit Bool.false_ne_true
    · decide
  refine ⟨left, '*', next, rest, rfl, plain_of_mem_reference hleft, rfl, ?_⟩
  rw [ofMark, if_neg hnext.1, if_neg hnext.2]
  rfl

/-- A number is digits only, or it is marked by its point. -/
theorem digits_or_marked_number (hw : w ∈ number.language) : w ∈ digits ∨ MarkedAs number w := by
  refine ((Language.mem_add _ _ _).mp hw).imp_right fun hpoint ↦ ?_
  rw [mul_assoc] at hpoint
  obtain ⟨left, hleft, _, hmore, rfl⟩ := Language.mem_mul.mp hpoint
  obtain ⟨_, rfl, right, ⟨hne, -⟩, rfl⟩ := Language.mem_mul.mp hmore
  obtain ⟨next, rest, rfl⟩ := List.exists_cons_of_ne_nil hne
  exact ⟨left, '.', next, rest, rfl, plain_of_mem_digits hleft, rfl, rfl⟩

end Marks

/-! ### Reading a form -/

section Forms

variable {form : SimpleForm} {w tail : List Char}

theorem readForm_reference (hw : w ∈ reference) (htail : tail = [] ∨ tail = ['\n']) :
    readForm (w ++ tail) = cellReference := by
  obtain ⟨first, rest, rfl, hfirst, hplain⟩ := exists_cons_of_mem_reference hw
  rw [readForm_of_plain hplain htail]
  simp [isDecimalDigit_of_capital hfirst]

theorem readForm_digits (hw : w ∈ digits) (htail : tail = [] ∨ tail = ['\n']) :
    readForm (w ++ tail) = number := by
  obtain ⟨first, rest, rfl⟩ := List.exists_cons_of_ne_nil hw.1
  rw [readForm_of_plain (plain_of_mem_digits hw) htail]
  simp [hw.2 first List.mem_cons_self]

theorem readForm_of_mem (hw : w ∈ form.language) (htail : tail = [] ∨ tail = ['\n']) :
    readForm (w ++ tail) = form := by
  have hmarked (hmark : MarkedAs form w) : readForm (w ++ tail) = form :=
    readForm_of_marked (hmark.append tail)
  cases form with
  | cellReference => exact readForm_reference hw htail
  | referenceArithmetic => exact hmarked (marked_referenceArithmetic hw)
  | absoluteDivision => exact hmarked (marked_absoluteDivision hw)
  | blankCheck => exact hmarked (marked_blankCheck hw)
  | literalConcatenation => exact hmarked (marked_literalConcatenation hw)
  | sheetReference => exact hmarked (marked_sheetReference hw)
  | number =>
    rcases digits_or_marked_number hw with hdigits | hmark
    · exact readForm_digits hdigits htail
    · exact hmarked hmark
  | scaledReference => exact hmarked (marked_scaledReference hw)

theorem readForm_of_describes {formula : String} (hform : form.Describes formula) :
    readForm formula.toList = form := by
  obtain ⟨w, hw, hformula | hformula⟩ := hform
  · have hread := readForm_of_mem hw (Or.inl rfl)
    rwa [List.append_nil, ← hformula] at hread
  · rw [hformula]
    exact readForm_of_mem hw (Or.inr rfl)

end Forms

end SimpleForm

namespace RuleBook

theorem exists_form_of_mem_simplePatterns {p : NamedPattern} (hp : p ∈ simplePatterns) :
    ∃ form : SimpleForm, p.name = form.name ∧
      ∀ formula, p.foundIn formula = true ↔ form.Describes formula := by
  obtain ⟨place, hplace, rfl⟩ := List.getElem_of_mem hp
  have hform : place < SimpleForm.all.length := by
    rwa [← simplePatterns_describe.length_eq]
  exact ⟨_, (List.forall₂_iff_get.mp simplePatterns_describe).2 place hplace hform⟩

/-- No two patterns for simple formulas find something in one formula. -/
theorem eq_of_foundIn_simplePatterns {p q : NamedPattern} {formula : String}
    (hp : p ∈ simplePatterns) (hq : q ∈ simplePatterns) (hfoundp : p.foundIn formula = true)
    (hfoundq : q.foundIn formula = true) : p = q := by
  obtain ⟨form, hpname, hpform⟩ := exists_form_of_mem_simplePatterns hp
  obtain ⟨other, hqname, hqform⟩ := exists_form_of_mem_simplePatterns hq
  have hsame : form = other := by
    rw [← SimpleForm.readForm_of_describes ((hpform formula).mp hfoundp)]
    exact SimpleForm.readForm_of_describes ((hqform formula).mp hfoundq)
  have hnames : (simplePatterns.map (·.name)).Nodup := by decide
  exact List.inj_on_of_nodup_map hnames hp hq (by rw [hpname, hqname, hsame])

end RuleBook

end FormulaAudit
