import FormulaAudit.Pattern.Search

/-!
The search finds what the patterns describe. A mark stands for the part of the text in front of it;
`markedAfter_advance` says which places a pattern reaches from the places that are marked: the ends
of the stretches that begin there, and no others. It is an induction over the pattern. Only the
repetition of a pattern that is more than one character needs a bound: the marks spread until none
is new, and as no round but the last goes without a new mark, there are enough rounds for that
(`settled_spread`). The main result, `search_iff_occursIn`, is the case of a search that begins
everywhere.
-/

set_option autoImplicit false

namespace FormulaAudit.Pattern

/-- The place behind a beginning of the text is marked. -/
def MarkedAfter (marks : Marks) (reached : List Char) : Prop := marks[reached.length]? = some true

section Moves

variable {k : CharClass} {cs reached rest : List Char} {marks : Marks}

theorem markedAfter_keepFirst : MarkedAfter (keepFirst marks) reached ↔
    reached = [] ∧ MarkedAfter marks [] := by
  cases marks with
  | nil => simp [MarkedAfter, keepFirst]
  | cons b marks =>
    cases reached with
    | nil => simp [MarkedAfter, keepFirst]
    | cons c reached =>
      have hunmarked : ¬ MarkedAfter (keepFirst (b :: marks)) (c :: reached) := by
        intro hmarked
        have hmem : true ∈ marks.map fun _ ↦ false := List.mem_of_getElem? hmarked
        obtain ⟨_, _, hfalse⟩ := List.mem_map.mp hmem
        cases hfalse
      exact iff_of_false hunmarked fun h ↦ List.cons_ne_nil c reached h.1

theorem markedAfter_keepLast (hsize : marks.length = cs.length + 1) (hcs : cs = reached ++ rest) :
    MarkedAfter (keepLast cs marks) reached ↔
      MarkedAfter marks reached ∧ (rest = [] ∨ rest = ['\n']) := by
  induction reached generalizing cs marks with
  | nil =>
    obtain rfl : cs = rest := hcs
    cases cs with
    | nil => simp [MarkedAfter, keepLast]
    | cons c cs =>
      cases marks with
      | nil => simp at hsize
      | cons b marks => cases cs <;> simp [MarkedAfter, keepLast]
  | cons c reached ih =>
    subst hcs
    cases marks with
    | nil => simp at hsize
    | cons b marks =>
      have htail : marks.length = (reached ++ rest).length + 1 := by simpa using hsize
      exact ih htail rfl

theorem markedAfter_stepOver (hcs : cs = reached ++ rest) :
    MarkedAfter (stepOver k cs marks) reached ↔
      ∃ before c, reached = before ++ [c] ∧ MarkedAfter marks before ∧ k.contains c = true := by
  rcases List.eq_nil_or_concat reached with rfl | ⟨before, c, rfl⟩
  · simp [MarkedAfter, stepOver]
  · have hread : cs[before.length]? = some c := by simp [hcs]
    constructor
    · intro hmarked
      have hstep : (List.zipWith (fun c b ↦ b && k.contains c) cs marks)[before.length]? =
          some true := by simpa [MarkedAfter, stepOver] using hmarked
      rw [List.getElem?_zipWith, hread] at hstep
      cases hmark : marks[before.length]? with
      | none => simp [hmark] at hstep
      | some b =>
        simp only [hmark, Option.some.injEq, Bool.and_eq_true] at hstep
        exact ⟨before, c, by simp, by rw [MarkedAfter, hmark, hstep.1], hstep.2⟩
    · rintro ⟨earlier, d, heq, hmarked, hk⟩
      rw [List.concat_eq_append] at heq
      obtain ⟨rfl, hcd⟩ := List.append_inj' heq rfl
      obtain rfl : c = d := by simpa using hcd
      have hmark : marks[before.length]? = some true := hmarked
      simp [MarkedAfter, stepOver, List.getElem?_zipWith, hread, hmark, hk]

/-- A run may begin at a mark, or in front of the text if one is carried in. -/
theorem markedAfter_runOver {carried : Bool} (hsize : marks.length = cs.length + 1)
    (hcs : cs = reached ++ rest) : MarkedAfter (runOver k cs marks carried) reached ↔
      ∃ before mid, reached = before ++ mid ∧
        (MarkedAfter marks before ∨ before = [] ∧ carried = true) ∧
        ∀ c ∈ mid, k.contains c = true := by
  induction reached generalizing cs marks carried with
  | nil =>
    cases marks with
    | nil => simp at hsize
    | cons b marks =>
      have hhead : MarkedAfter (runOver k cs (b :: marks) carried) [] ↔
          b = true ∨ carried = true := by cases cs <;> simp [MarkedAfter, runOver]
      rw [hhead]
      constructor
      · intro hbegin
        exact ⟨[], [], rfl, by simpa [MarkedAfter] using hbegin, by simp⟩
      · rintro ⟨before, mid, heq, hbegin, _⟩
        obtain ⟨rfl, rfl⟩ := List.append_eq_nil_iff.mp heq.symm
        simpa [MarkedAfter] using hbegin
  | cons c reached ih =>
    subst hcs
    cases marks with
    | nil => simp at hsize
    | cons b marks =>
      have htail : marks.length = (reached ++ rest).length + 1 := by simpa using hsize
      have hnext : MarkedAfter (runOver k (c :: reached ++ rest) (b :: marks) carried)
          (c :: reached) ↔ MarkedAfter (runOver k (reached ++ rest) marks
            ((b || carried) && k.contains c)) reached := Iff.rfl
      rw [hnext, ih htail rfl]
      constructor
      · rintro ⟨before, mid, rfl, hbegin | ⟨rfl, hcarried⟩, hmid⟩
        · exact ⟨c :: before, mid, rfl, Or.inl hbegin, hmid⟩
        · rw [Bool.and_eq_true, Bool.or_eq_true] at hcarried
          refine ⟨[], c :: mid, rfl, ?_, by simpa using ⟨hcarried.2, hmid⟩⟩
          rcases hcarried.1 with rfl | hin
          · exact Or.inl rfl
          · exact Or.inr ⟨rfl, hin⟩
      · rintro ⟨before, mid, heq, hbegin, hmid⟩
        cases before with
        | nil =>
          obtain rfl : c :: reached = mid := heq
          have hin : (b || carried) = true := by
            rcases hbegin with hmarked | ⟨_, hin⟩
            · obtain rfl : b = true := by simpa [MarkedAfter] using hmarked
              rfl
            · rw [hin, Bool.or_true]
          refine ⟨[], reached, rfl, Or.inr ⟨rfl, ?_⟩, fun d hd ↦ hmid d (List.mem_cons_of_mem c hd)⟩
          rw [hin, hmid c List.mem_cons_self]
          rfl
        | cons d before =>
          obtain ⟨rfl, rfl⟩ : c = d ∧ reached = before ++ mid := by simpa using heq
          refine ⟨before, mid, rfl, Or.inl ?_, hmid⟩
          rcases hbegin with hmarked | ⟨hnil, _⟩
          · exact hmarked
          · simp at hnil

theorem markedAfter_union {first second : Marks} (hsize : first.length = second.length) :
    MarkedAfter (union first second) reached ↔
      MarkedAfter first reached ∨ MarkedAfter second reached := by
  unfold MarkedAfter union
  rw [List.getElem?_zipWith]
  by_cases hin : reached.length < first.length
  · have hin' : reached.length < second.length := hsize ▸ hin
    simp [List.getElem?_eq_getElem hin, List.getElem?_eq_getElem hin']
  · have hout : first.length ≤ reached.length := Nat.le_of_not_lt hin
    have hout' : second.length ≤ reached.length := hsize ▸ hout
    simp [List.getElem?_eq_none hout, List.getElem?_eq_none hout']

end Moves

/-! ### Moves that follow a pattern -/

/-- A stretch of the pattern that begins at a mark ends between the two parts of the text. -/
def Reaches (p : Pattern) (marks : Marks) (reached rest : List Char) : Prop :=
  ∃ before mid, reached = before ++ mid ∧ MarkedAfter marks before ∧ p.Spans before mid rest

/-- The move takes the marks of a text to the ends of the stretches of the pattern. -/
structure Follows (p : Pattern) (cs : List Char) (move : Marks → Marks) : Prop where
  length_eq : ∀ {marks : Marks}, marks.length = cs.length + 1 →
    (move marks).length = cs.length + 1
  marked_iff : ∀ {marks : Marks} {reached rest : List Char}, marks.length = cs.length + 1 →
    cs = reached ++ rest → (MarkedAfter (move marks) reached ↔ Reaches p marks reached rest)

section Follows

variable {p q : Pattern} {cs : List Char} {move next : Marks → Marks}

theorem follows_empty : Follows empty cs id where
  length_eq := id
  marked_iff := by
    intro marks reached rest _ _
    constructor
    · intro hmarked
      exact ⟨reached, [], by simp, hmarked, .empty reached rest⟩
    · rintro ⟨before, mid, rfl, hmarked, hspan⟩
      cases hspan
      simpa using hmarked

theorem follows_start : Follows start cs keepFirst where
  length_eq := by
    intro marks hsize
    cases marks with
    | nil => simp at hsize
    | cons b marks => simpa [keepFirst] using hsize
  marked_iff := by
    intro marks reached rest _ _
    rw [markedAfter_keepFirst]
    constructor
    · rintro ⟨rfl, hmarked⟩
      exact ⟨[], [], rfl, hmarked, .start rest⟩
    · rintro ⟨before, mid, rfl, hmarked, hspan⟩
      cases hspan
      exact ⟨rfl, hmarked⟩

theorem length_keepLast (cs : List Char) (marks : Marks) :
    (keepLast cs marks).length = marks.length := by
  induction cs generalizing marks with
  | nil => cases marks <;> rfl
  | cons c cs ih =>
    cases marks with
    | nil => rfl
    | cons b marks => simp [keepLast, ih]

theorem follows_finish : Follows finish cs (keepLast cs) where
  length_eq := by
    intro marks hsize
    rw [length_keepLast, hsize]
  marked_iff := by
    intro marks reached rest hsize hcs
    rw [markedAfter_keepLast hsize hcs]
    constructor
    · rintro ⟨hmarked, rfl | rfl⟩
      · exact ⟨reached, [], by simp, hmarked, .finish reached⟩
      · exact ⟨reached, [], by simp, hmarked, .finishLine reached⟩
    · rintro ⟨before, mid, rfl, hmarked, hspan⟩
      cases hspan with
      | finish => exact ⟨by simpa using hmarked, Or.inl rfl⟩
      | finishLine => exact ⟨by simpa using hmarked, Or.inr rfl⟩

theorem follows_oneOf (k : CharClass) : Follows (oneOf k) cs (stepOver k cs) where
  length_eq := by
    intro marks hsize
    simp [stepOver, hsize]
  marked_iff := by
    intro marks reached rest _ hcs
    rw [markedAfter_stepOver hcs]
    constructor
    · rintro ⟨before, c, rfl, hmarked, hk⟩
      exact ⟨before, [c], rfl, hmarked, .oneOf before rest hk⟩
    · rintro ⟨before, mid, rfl, hmarked, hspan⟩
      cases hspan with
      | oneOf _ _ hk => exact ⟨before, _, rfl, hmarked, hk⟩

theorem Follows.seq (hp : Follows p cs move) (hq : Follows q cs next) :
    Follows (seq p q) cs fun marks ↦ next (move marks) where
  length_eq := fun hsize ↦ hq.length_eq (hp.length_eq hsize)
  marked_iff := by
    intro marks reached rest hsize hcs
    rw [hq.marked_iff (hp.length_eq hsize) hcs]
    constructor
    · rintro ⟨middle, mid₂, rfl, hmiddle, hspan₂⟩
      rw [hp.marked_iff hsize (by rw [hcs, List.append_assoc])] at hmiddle
      obtain ⟨before, mid₁, rfl, hmarked, hspan₁⟩ := hmiddle
      exact ⟨before, mid₁ ++ mid₂, by rw [List.append_assoc], hmarked, .seq hspan₁ hspan₂⟩
    · rintro ⟨before, mid, rfl, hmarked, hspan⟩
      cases hspan with
      | @seq _ _ _ mid₁ mid₂ _ hspan₁ hspan₂ =>
        refine ⟨before ++ mid₁, mid₂, by rw [List.append_assoc], ?_, hspan₂⟩
        rw [hp.marked_iff hsize (by rw [hcs, List.append_assoc, List.append_assoc,
          List.append_assoc])]
        exact ⟨before, mid₁, rfl, hmarked, hspan₁⟩

theorem length_union {first second : Marks} (hsize : first.length = second.length) :
    (union first second).length = first.length := by
  rw [union, List.length_zipWith, hsize, Nat.min_self]

theorem Follows.either (hp : Follows p cs move) (hq : Follows q cs next) :
    Follows (either p q) cs fun marks ↦ union (move marks) (next marks) where
  length_eq := by
    intro marks hsize
    rw [length_union ((hp.length_eq hsize).trans (hq.length_eq hsize).symm), hp.length_eq hsize]
  marked_iff := by
    intro marks reached rest hsize hcs
    rw [markedAfter_union ((hp.length_eq hsize).trans (hq.length_eq hsize).symm),
      hp.marked_iff hsize hcs, hq.marked_iff hsize hcs]
    constructor
    · rintro (⟨before, mid, rfl, hmarked, hspan⟩ | ⟨before, mid, rfl, hmarked, hspan⟩)
      · exact ⟨before, mid, rfl, hmarked, .left q hspan⟩
      · exact ⟨before, mid, rfl, hmarked, .right p hspan⟩
    · rintro ⟨before, mid, rfl, hmarked, hspan⟩
      cases hspan with
      | left _ h => exact Or.inl ⟨before, mid, rfl, hmarked, h⟩
      | right _ h => exact Or.inr ⟨before, mid, rfl, hmarked, h⟩

end Follows

/-! ### Repetition -/

section Repetition

variable {p : Pattern} {k : CharClass} {cs before mid after : List Char} {move : Marks → Marks}
  {marks : Marks}

theorem spans_many_oneOf :
    Spans (many (oneOf k)) before mid after ↔ ∀ c ∈ mid, k.contains c = true := by
  constructor
  · intro hspan
    generalize hq : many (oneOf k) = q at hspan
    induction hspan with
    | done => simp
    | more hfirst _ _ ih =>
      obtain rfl : oneOf k = _ := Pattern.many.inj hq
      cases hfirst with
      | oneOf _ _ hk =>
        intro c hc
        rcases List.mem_cons.mp hc with rfl | hc
        · exact hk
        · exact ih rfl c hc
    | _ => cases hq
  · intro hmid
    induction mid generalizing before with
    | nil => exact .done _ _ _
    | cons c mid ih =>
      have hfirst : Spans (oneOf k) before [c] (mid ++ after) :=
        .oneOf before _ (hmid c List.mem_cons_self)
      exact .more hfirst (ih fun d hd ↦ hmid d (List.mem_cons_of_mem c hd))

theorem length_runOver {carried : Bool} (hsize : marks.length = cs.length + 1) :
    (runOver k cs marks carried).length = cs.length + 1 := by
  induction cs generalizing marks carried with
  | nil =>
    cases marks with
    | nil => simp at hsize
    | cons b marks => simpa [runOver] using hsize
  | cons c cs ih =>
    cases marks with
    | nil => simp at hsize
    | cons b marks =>
      have htail : marks.length = cs.length + 1 := by simpa using hsize
      simp [runOver, ih htail]

theorem follows_runOver (k : CharClass) :
    Follows (many (oneOf k)) cs fun marks ↦ runOver k cs marks false where
  length_eq := length_runOver
  marked_iff := by
    intro marks reached rest hsize hcs
    rw [markedAfter_runOver hsize hcs]
    constructor
    · rintro ⟨before, mid, rfl, hmarked | ⟨_, hcarried⟩, hmid⟩
      · exact ⟨before, mid, rfl, hmarked, spans_many_oneOf.mpr hmid⟩
      · simp at hcarried
    · rintro ⟨before, mid, rfl, hmarked, hspan⟩
      exact ⟨before, mid, rfl, Or.inl hmarked, spans_many_oneOf.mp hspan⟩

/-- The move leads to no new mark. -/
def Settled (move : Marks → Marks) (marks : Marks) : Prop := union marks (move marks) = marks

theorem union_cons (a b : Bool) (first second : Marks) :
    union (a :: first) (b :: second) = (a || b) :: union first second := rfl

theorem count_union_le {first second : Marks} (hsize : first.length = second.length) :
    (union first second).count false ≤ first.count false := by
  induction first generalizing second with
  | nil => simp [union]
  | cons a first ih =>
    cases second with
    | nil => simp at hsize
    | cons b second =>
      have htail := ih (by simpa using hsize : first.length = second.length)
      rw [union_cons, List.count_cons, List.count_cons]
      cases a <;> cases b <;> simp <;> omega

/-- A round that adds a mark leaves fewer places unmarked. -/
theorem count_union_lt {first second : Marks} (hsize : first.length = second.length)
    (hne : union first second ≠ first) :
    (union first second).count false < first.count false := by
  induction first generalizing second with
  | nil => exact absurd (by simp [union]) hne
  | cons a first ih =>
    cases second with
    | nil => simp at hsize
    | cons b second =>
      have hsize' : first.length = second.length := by simpa using hsize
      have hle := count_union_le hsize'
      rw [union_cons] at hne ⊢
      rw [List.count_cons, List.count_cons]
      by_cases hsame : (a || b) = a
      · have hlt := ih hsize' fun heq ↦ hne (by rw [hsame, heq])
        rw [hsame]
        omega
      · obtain ⟨rfl, rfl⟩ : b = true ∧ a = false := by simpa using hsame
        simp
        omega

theorem union_eq_of_count_eq_zero {first second : Marks} (hsize : first.length = second.length)
    (hfull : first.count false = 0) : union first second = first := by
  by_cases hsame : union first second = first
  · exact hsame
  · have hlt := count_union_lt hsize hsame
    omega

section Spread

variable {size rounds : Nat}
  (hmove : ∀ {marks : Marks}, marks.length = size → (move marks).length = size)

include hmove

theorem length_spread (hsize : marks.length = size) :
    (spread move rounds marks).length = size := by
  induction rounds generalizing marks with
  | zero => exact hsize
  | succ rounds ih =>
    unfold spread
    dsimp only
    split
    · exact hsize
    · exact ih (by rw [length_union (hsize.trans (hmove hsize).symm), hsize])

/-- With a round for each place that is not marked, the marks spread as far as they can. -/
theorem settled_spread (hsize : marks.length = size) (hrounds : marks.count false ≤ rounds) :
    Settled move (spread move rounds marks) := by
  have hsame {marks : Marks} (hsize : marks.length = size) : marks.length = (move marks).length :=
    hsize.trans (hmove hsize).symm
  induction rounds generalizing marks with
  | zero => exact union_eq_of_count_eq_zero (hsame hsize) (Nat.le_zero.mp hrounds)
  | succ rounds ih =>
    unfold spread
    dsimp only
    split
    case isTrue hstop => exact eq_of_beq hstop
    case isFalse hgo =>
      have hlt := count_union_lt (hsame hsize) fun heq ↦ hgo (beq_iff_eq.mpr heq)
      exact ih (by rw [length_union (hsame hsize), hsize]) (by omega)

theorem markedAfter_spread (hsize : marks.length = size) {reached : List Char}
    (hmarked : MarkedAfter marks reached) : MarkedAfter (spread move rounds marks) reached := by
  induction rounds generalizing marks with
  | zero => exact hmarked
  | succ rounds ih =>
    have hsame := hsize.trans (hmove hsize).symm
    unfold spread
    dsimp only
    split
    · exact hmarked
    · exact ih (by rw [length_union hsame, hsize]) ((markedAfter_union hsame).mpr (Or.inl hmarked))

end Spread

theorem count_lt_length {reached : List Char} (hmarked : MarkedAfter marks reached) :
    marks.count false < marks.length := by
  have hmem : true ∈ marks := List.mem_of_getElem? hmarked
  have hle : marks.count false ≤ marks.length := List.count_le_length
  rcases Nat.lt_or_eq_of_le hle with hlt | heq
  · exact hlt
  · exact absurd (List.count_eq_length.mp heq true hmem) (by decide)

/-- Marks that spread only go where stretches one after the other lead. -/
theorem reaches_of_markedAfter_spread (hp : Follows p cs move) {rounds : Nat}
    {reached rest : List Char} (hsize : marks.length = cs.length + 1) (hcs : cs = reached ++ rest)
    (hmarked : MarkedAfter (spread move rounds marks) reached) :
    Reaches (many p) marks reached rest := by
  have hhere {marks : Marks} (h : MarkedAfter marks reached) :
      Reaches (many p) marks reached rest :=
    ⟨reached, [], by simp, h, .done p reached rest⟩
  induction rounds generalizing marks with
  | zero => exact hhere hmarked
  | succ rounds ih =>
    have hsame := hsize.trans (hp.length_eq hsize).symm
    unfold spread at hmarked
    dsimp only at hmarked
    split at hmarked
    · exact hhere hmarked
    · obtain ⟨before, mid, rfl, hbegin, hspan⟩ := ih (by rw [length_union hsame, hsize]) hmarked
      rcases (markedAfter_union hsame).mp hbegin with hold | hnew
      · exact ⟨before, mid, rfl, hold, hspan⟩
      · rw [hp.marked_iff hsize (by rw [hcs, List.append_assoc])] at hnew
        obtain ⟨earlier, first, rfl, hmarked, hfirst⟩ := hnew
        exact ⟨earlier, first ++ mid, by rw [List.append_assoc], hmarked, .more hfirst hspan⟩

/-- Settled marks hold the end of every stretch of repetitions that begins at one of them. -/
theorem Settled.markedAfter (hp : Follows p cs move) (hsettled : Settled move marks)
    (hsize : marks.length = cs.length + 1) {before mid after : List Char}
    (hcs : cs = before ++ (mid ++ after)) (hmarked : MarkedAfter marks before)
    (hspan : Spans (many p) before mid after) : MarkedAfter marks (before ++ mid) := by
  generalize hq : many p = q at hspan
  induction hspan with
  | done => simpa using hmarked
  | @more r before mid₁ mid₂ after hfirst _ _ ih =>
    obtain rfl : p = r := Pattern.many.inj hq
    have hsplit : cs = before ++ mid₁ ++ (mid₂ ++ after) := by
      rw [hcs, List.append_assoc, List.append_assoc]
    have hnext : MarkedAfter (move marks) (before ++ mid₁) := by
      rw [hp.marked_iff hsize hsplit]
      exact ⟨before, mid₁, rfl, hmarked, hfirst⟩
    have hin : MarkedAfter marks (before ++ mid₁) := by
      rw [← hsettled, markedAfter_union (hsize.trans (hp.length_eq hsize).symm)]
      exact Or.inr hnext
    rw [← List.append_assoc]
    exact ih (by rw [hcs]; simp) hin rfl
  | _ => cases hq

theorem Follows.many (hp : Follows p cs move) :
    Follows (many p) cs (spread move cs.length) where
  length_eq := length_spread hp.length_eq
  marked_iff := by
    intro marks reached rest hsize hcs
    constructor
    · exact reaches_of_markedAfter_spread hp hsize hcs
    · rintro ⟨before, mid, rfl, hmarked, hspan⟩
      have hcount := count_lt_length hmarked
      have hsettled : Settled move (spread move cs.length marks) :=
        settled_spread hp.length_eq hsize (by omega)
      exact hsettled.markedAfter hp (length_spread hp.length_eq hsize)
        (by rw [hcs, List.append_assoc]) (markedAfter_spread hp.length_eq hsize hmarked) hspan

end Repetition

/-! ### The search -/

/-- Every pattern moves the marks to the ends of its stretches. -/
theorem follows_advance (p : Pattern) (cs : List Char) : Follows p cs (advance cs p) := by
  induction p with
  | empty => exact follows_empty
  | start => exact follows_start
  | finish => exact follows_finish
  | oneOf k => exact follows_oneOf k
  | seq p q hp hq => exact hp.seq hq
  | either p q hp hq => exact hp.either hq
  | many p hp =>
    cases p with
    | oneOf k => exact follows_runOver k
    | _ => exact hp.many

theorem markedAfter_advance {p : Pattern} {cs reached rest : List Char} {marks : Marks}
    (hsize : marks.length = cs.length + 1) (hcs : cs = reached ++ rest) :
    MarkedAfter (advance cs p marks) reached ↔ Reaches p marks reached rest :=
  (follows_advance p cs).marked_iff hsize hcs

theorem markedAfter_everywhere {cs before rest : List Char} (hcs : cs = before ++ rest) :
    MarkedAfter (everywhere cs) before := by
  have hall : everywhere cs = List.replicate (cs.length + 1) true := by
    rw [everywhere, List.map_const', List.replicate_succ]
  have hin : before.length < cs.length + 1 := by
    rw [hcs, List.length_append]
    omega
  rw [MarkedAfter, hall, List.getElem?_replicate, if_pos hin]

/-- A search succeeds exactly if the pattern holds of some stretch of the text. -/
theorem search_iff_occursIn (p : Pattern) (text : List Char) :
    p.search text = true ↔ p.OccursIn text := by
  have hsize : (everywhere text).length = text.length + 1 := by simp [everywhere]
  rw [search, List.contains_iff_mem, List.mem_iff_getElem?]
  constructor
  · rintro ⟨i, hi⟩
    have hbound : i ≤ text.length := by
      have hlt := (List.getElem?_eq_some_iff.mp hi).1
      rw [(follows_advance p text).length_eq hsize] at hlt
      omega
    have hmarked : MarkedAfter (advance text p (everywhere text)) (text.take i) := by
      rwa [MarkedAfter, List.length_take, Nat.min_eq_left hbound]
    rw [markedAfter_advance hsize (List.take_append_drop i text).symm] at hmarked
    obtain ⟨before, mid, htake, _, hspan⟩ := hmarked
    refine ⟨before, mid, text.drop i, ?_, hspan⟩
    rw [← List.append_assoc, ← htake, List.take_append_drop]
  · rintro ⟨before, mid, after, htext, hspan⟩
    have hcs : text = (before ++ mid) ++ after := by rw [htext, List.append_assoc]
    have hmarked : MarkedAfter (advance text p (everywhere text)) (before ++ mid) := by
      rw [markedAfter_advance hsize hcs]
      exact ⟨before, mid, rfl, markedAfter_everywhere htext, hspan⟩
    exact ⟨(before ++ mid).length, hmarked⟩

theorem foundIn_iff_occursIn (p : Pattern) (text : String) :
    p.foundIn text = true ↔ p.OccursIn text.toList := search_iff_occursIn p text.toList

end FormulaAudit.Pattern
