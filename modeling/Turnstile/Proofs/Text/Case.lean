import Turnstile.Proofs.Text.Pieces
import Turnstile.Text.Case

/-!
# Small forms

A small form is its own small form: no letter of the tables is mapped to a code point that is mapped
elsewhere. Nor is any letter mapped to a blank, so that a text in small letters has blanks at its
ends only if the text that it was made from has them. Which small form a letter takes does not hang
on the case of the ASCII letters around it.
-/

namespace Turnstile.Text

/-! ## Runs of code points -/

namespace CaseRun

/-- The run of the code points that a run is mapped to. -/
def moved (run : CaseRun) : CaseRun :=
  { run with
    first := ((run.first : Int) + run.shift).toNat
    last := ((run.last : Int) + run.shift).toNat }

/-- All code points of the run are even, or all are odd. -/
def hasParity (run : CaseRun) : Bool := run.step == 2 || run.first == run.last

/-- Two runs have no code point in common: one ends before the other begins, or one is even and the
other odd. -/
def isApart (left right : CaseRun) : Bool :=
  left.last < right.first || right.last < left.first ||
    (left.hasParity && right.hasParity && left.first % 2 != right.first % 2)

/-- The code points of a run are mapped to characters. -/
def isMeant (run : CaseRun) : Bool :=
  0 ≤ (run.first : Int) + run.shift &&
    (run.moved.last < 0xD800 || (0xDFFF < run.moved.first && run.moved.last < 0x110000))

variable {run left right : CaseRun} {code : Nat}

/-- A run covers the codes at its steps. -/
theorem covers_iff : run.covers code = true ↔
    run.first ≤ code ∧ code ≤ run.last ∧ (code - run.first) % run.step = 0 := by
  simp only [covers, Bool.and_eq_true, decide_eq_true_eq, beq_iff_eq, and_assoc]

/-- A run of one parity covers codes of that parity. -/
theorem mod_two_of_covers (parity : run.hasParity = true) (covered : run.covers code = true) :
    code % 2 = run.first % 2 := by
  obtain ⟨first, last, place⟩ := covers_iff.mp covered
  simp only [hasParity, Bool.or_eq_true, beq_iff_eq] at parity
  rcases parity with second | single
  · rw [second] at place
    omega
  · omega

/-- Runs that are apart cover no code in common. -/
theorem covers_eq_false_of_isApart (apart : left.isApart right = true)
    (covered : left.covers code = true) : right.covers code = false := by
  by_contra both
  rw [Bool.not_eq_false] at both
  obtain ⟨first, last, -⟩ := covers_iff.mp covered
  obtain ⟨otherFirst, otherLast, -⟩ := covers_iff.mp both
  simp only [isApart, Bool.or_eq_true, Bool.and_eq_true, decide_eq_true_eq, bne_iff_ne,
    ne_eq] at apart
  rcases apart with (before | after) | ⟨⟨parity, otherParity⟩, different⟩
  · omega
  · omega
  · exact different ((mod_two_of_covers parity covered).symm.trans
      (mod_two_of_covers otherParity both))

/-- A code point of a run is mapped to one of the moved run, which is that of a character. -/
theorem covers_moved (meant : run.isMeant = true) (covered : run.covers code = true) :
    run.moved.covers ((code : Int) + run.shift).toNat = true ∧
      ((code : Int) + run.shift).toNat.isValidChar := by
  obtain ⟨first, last, place⟩ := covers_iff.mp covered
  simp only [isMeant, Bool.and_eq_true, Bool.or_eq_true, decide_eq_true_eq] at meant
  obtain ⟨positive, valid⟩ := meant
  simp only [moved] at valid
  have distance : ((code : Int) + run.shift).toNat - ((run.first : Int) + run.shift).toNat =
      code - run.first := by omega
  refine ⟨covers_iff.mpr ⟨?_, ?_, ?_⟩, ?_⟩
  · show ((run.first : Int) + run.shift).toNat ≤ _
    omega
  · show _ ≤ ((run.last : Int) + run.shift).toNat
    omega
  · show (_ - ((run.first : Int) + run.shift).toNat) % run.step = 0
    rw [distance]
    exact place
  · unfold Nat.isValidChar
    omega

end CaseRun

/-- The blanks as runs. -/
def blankRuns : List CaseRun :=
  [⟨0x09, 0x0D, 1, 0⟩, ⟨0x1C, 0x20, 1, 0⟩, ⟨0x85, 0x85, 1, 0⟩, ⟨0xA0, 0xA0, 1, 0⟩,
   ⟨0x1680, 0x1680, 1, 0⟩, ⟨0x2000, 0x200A, 1, 0⟩, ⟨0x2028, 0x2029, 1, 0⟩, ⟨0x202F, 0x202F, 1, 0⟩,
   ⟨0x205F, 0x205F, 1, 0⟩, ⟨0x3000, 0x3000, 1, 0⟩]

/-- The code points whose small form takes several, as runs. -/
def expandedRuns : List CaseRun := smallExpansions.map fun entry => ⟨entry.1, entry.1, 1, 0⟩

/-- The runs of what is mapped elsewhere, is expanded or is blank. -/
def unsettled : List CaseRun := smallRuns ++ expandedRuns ++ blankRuns

/-- A code point that is mapped to itself alone and is no blank. -/
def IsSettled (code : Nat) : Prop := ∀ run ∈ unsettled, run.covers code = false

/-- Every run is mapped to settled code points of characters. -/
theorem smallRuns_settle :
    smallRuns.all (fun run => run.isMeant && unsettled.all run.moved.isApart) = true := by
  decide +kernel

/-- Every expansion is into settled code points of characters. -/
theorem smallExpansions_settle : smallExpansions.all (fun entry => entry.2.all fun code =>
    code < 0xD800 && unsettled.all fun run => !run.covers code) = true := by
  decide +kernel

/-- One of the runs of blanks covers each blank. -/
theorem exists_blankRun {c : Char} (blank : isBlank c = true) :
    ∃ run ∈ blankRuns, run.covers c.toNat = true := by
  simp only [isBlank, isWhiteSpace, Bool.or_eq_true, Bool.and_eq_true, decide_eq_true_eq,
    beq_iff_eq] at blank
  simp only [blankRuns, List.exists_mem_cons_iff, CaseRun.covers_iff, List.not_mem_nil, false_and,
    exists_false, or_false, Nat.mod_one, and_true]
  omega

/-- A code point is expanded unless it is on none of the runs of those that are. -/
theorem lookup_smallExpansions_eq_none_iff {code : Nat} :
    smallExpansions.lookup code = none ↔ ∀ run ∈ expandedRuns, run.covers code = false := by
  have single (entry : Nat × List Nat) :
      (⟨entry.1, entry.1, 1, 0⟩ : CaseRun).covers code = false ↔ (code != entry.1) = true := by
    rw [← Bool.not_eq_true, CaseRun.covers_iff, bne_iff_ne]
    exact not_congr ⟨fun covered => le_antisymm covered.2.1 covered.1,
      fun same => ⟨same.ge, same.le, Nat.mod_one _⟩⟩
  rw [List.lookup_eq_none_iff, expandedRuns, List.forall_mem_map]
  exact forall₂_congr fun entry _ => (single entry).symm

/-- A code point is mapped to settled ones, or is on no run, not expanded and mapped to itself. -/
theorem mem_expandCode {code target : Nat}
    (listed : target ∈ expandCode smallExpansions smallRuns code) :
    (target.isValidChar ∧ IsSettled target) ∨
      (target = code ∧ ∀ run ∈ smallRuns ++ expandedRuns, run.covers code = false) := by
  unfold expandCode at listed
  cases expanded : smallExpansions.lookup code with
  | some codes =>
    rw [expanded] at listed
    obtain ⟨earlier, later, whole, -⟩ := List.lookup_eq_some_iff.mp expanded
    have entry : (code, codes) ∈ smallExpansions := whole ▸ by simp
    have settles :=
      List.all_eq_true.mp (List.all_eq_true.mp smallExpansions_settle _ entry) _ listed
    simp only [Bool.and_eq_true, decide_eq_true_eq, List.all_eq_true, Bool.not_eq_true'] at settles
    exact .inl ⟨.inl settles.1, settles.2⟩
  | none =>
    rw [expanded] at listed
    obtain rfl := List.mem_singleton.mp listed
    unfold shiftByRuns
    cases found : smallRuns.find? (·.covers code) with
    | some run =>
      have settles := List.all_eq_true.mp smallRuns_settle run (List.mem_of_find?_eq_some found)
      obtain ⟨meant, apart⟩ := Bool.and_eq_true_iff.mp settles
      have covers : run.covers code = true := List.find?_some (p := (CaseRun.covers · code)) found
      obtain ⟨covered, valid⟩ := CaseRun.covers_moved meant covers
      exact .inl ⟨valid, fun other member =>
        CaseRun.covers_eq_false_of_isApart (List.all_eq_true.mp apart other member) covered⟩
    | none =>
      refine .inr ⟨rfl, List.forall_mem_append.mpr ⟨fun run member => ?_, ?_⟩⟩
      · exact Bool.eq_false_iff.mpr (List.find?_eq_none.mp found run member)
      · exact lookup_smallExpansions_eq_none_iff.mp expanded

/-! ## Small forms of characters -/

/-- The character is its own small form. -/
def IsSmall (c : Char) : Prop := smallChar c = [c] ∧ c ≠ 'Σ'

/-- An ASCII letter stands in the tables like any other. -/
theorem smallChar_eq (c : Char) :
    smallChar c = (expandCode smallExpansions smallRuns c.toNat).map Char.ofNat := by
  have ascii : ∀ code < 0x80, [(Char.ofNat code).toLower] =
      (expandCode smallExpansions smallRuns code).map Char.ofNat := by decide +kernel
  unfold smallChar
  split
  · rename_i small
    rw [← ascii _ small, Char.ofNat_toNat]
  · rfl

/-- A character on no run that is not expanded is its own small form. -/
theorem isSmall_of_covers_eq_false {c : Char}
    (plain : ∀ run ∈ smallRuns ++ expandedRuns, run.covers c.toNat = false) : IsSmall c := by
  obtain ⟨unmoved, unexpanded⟩ := List.forall_mem_append.mp plain
  have absent := lookup_smallExpansions_eq_none_iff.mpr unexpanded
  have stays : smallRuns.find? (·.covers c.toNat) = none :=
    List.find?_eq_none.mpr fun run listed => Bool.eq_false_iff.mp (unmoved run listed)
  constructor
  · rw [smallChar_eq, expandCode, absent]
    simp only [shiftByRuns, stays, List.map_cons, List.map_nil, Char.ofNat_toNat]
  · rintro rfl
    have moved : smallRuns.any (·.covers 'Σ'.toNat) = true := by decide +kernel
    obtain ⟨run, listed, covered⟩ := List.any_eq_true.mp moved
    exact absurd covered (Bool.eq_false_iff.mp (unmoved run listed))

/-- What a character is mapped to is small, and no blank unless the character is one. -/
theorem of_mem_smallChar {c small : Char} (member : small ∈ smallChar c) :
    IsSmall small ∧ (isBlank c = false → isBlank small = false) := by
  rw [smallChar_eq] at member
  obtain ⟨code, listed, rfl⟩ := List.mem_map.mp member
  rcases mem_expandCode listed with ⟨valid, settled⟩ | ⟨rfl, plain⟩
  · have same : (Char.ofNat code).toNat = code := by
      rw [Char.ofNat, dif_pos valid]
      rfl
    obtain ⟨plain, visible⟩ := List.forall_mem_append.mp settled
    refine ⟨isSmall_of_covers_eq_false (same.symm ▸ plain), fun _ => ?_⟩
    rw [← Bool.not_eq_true]
    intro blank
    obtain ⟨run, listed, covered⟩ := exists_blankRun blank
    exact absurd (same ▸ covered) (Bool.eq_false_iff.mp (visible run listed))
  · rw [Char.ofNat_toNat]
    exact ⟨isSmall_of_covers_eq_false plain, id⟩

/-! ## Small forms of texts -/

/-- The small form that a character takes between what stands before it, last first, and what
stands after it. -/
def smallBetween (before : List Char) (c : Char) (rest : List Char) : List Char :=
  if c = 'Σ' then
    if meetsCased before && !meetsCased rest then ['ς'] else ['σ']
  else smallChar c

/-- The small text starts with what becomes of the first character. -/
theorem lowerFrom_cons (before : List Char) (c : Char) (rest : List Char) :
    lowerFrom before (c :: rest) = smallBetween before c rest ++ lowerFrom (c :: before) rest := rfl

/-- Something becomes of every character. -/
theorem smallBetween_ne_nil (before : List Char) (c : Char) (rest : List Char) :
    smallBetween before c rest ≠ [] := by
  have filled : smallExpansions.all (fun entry => !entry.2.isEmpty) = true := by decide
  unfold smallBetween
  split
  · split <;> exact List.cons_ne_nil _ _
  · rw [smallChar_eq, expandCode, ne_eq, List.map_eq_nil_iff]
    cases expanded : smallExpansions.lookup c.toNat with
    | none => exact List.cons_ne_nil _ _
    | some codes =>
      obtain ⟨earlier, later, whole, -⟩ := List.lookup_eq_some_iff.mp expanded
      have entry : (c.toNat, codes) ∈ smallExpansions := whole ▸ by simp
      have some := List.all_eq_true.mp filled _ entry
      simpa using some

/-- Wherever it stands, a character takes a form that is small, and no blank unless it is one. -/
theorem of_mem_smallBetween {before rest : List Char} {c small : Char}
    (member : small ∈ smallBetween before c rest) :
    IsSmall small ∧ (isBlank c = false → isBlank small = false) := by
  have final : IsSmall 'ς' ∧ isBlank 'ς' = false := ⟨⟨by decide +kernel, by decide⟩, by decide⟩
  have inner : IsSmall 'σ' ∧ isBlank 'σ' = false := ⟨⟨by decide +kernel, by decide⟩, by decide⟩
  unfold smallBetween at member
  split at member
  · split at member
    · obtain rfl := List.mem_singleton.mp member
      exact ⟨final.1, fun _ => final.2⟩
    · obtain rfl := List.mem_singleton.mp member
      exact ⟨inner.1, fun _ => inner.2⟩
  · exact of_mem_smallChar member

/-- The characters of a small text are small. -/
theorem isSmall_of_mem_lowerFrom {before text : List Char} {small : Char}
    (member : small ∈ lowerFrom before text) : IsSmall small := by
  induction text generalizing before with
  | nil => cases member
  | cons c rest ih =>
    rw [lowerFrom_cons] at member
    rcases List.mem_append.mp member with here | later
    · exact (of_mem_smallBetween here).1
    · exact ih later

/-- A text of small characters is its own small text. -/
theorem lowerFrom_eq_self {text : List Char} (before : List Char) (small : ∀ c ∈ text, IsSmall c) :
    lowerFrom before text = text := by
  induction text generalizing before with
  | nil => rfl
  | cons c rest ih =>
    obtain ⟨own, others⟩ := List.forall_mem_cons.mp small
    rw [lowerFrom_cons, smallBetween, if_neg own.2, own.1, ih _ others]
    rfl

/-- A text in small letters is its own small form. -/
theorem lowerChars_lowerChars (text : List Char) :
    lowerChars (lowerChars text) = lowerChars text :=
  lowerFrom_eq_self [] fun _ member => isSmall_of_mem_lowerFrom member

/-- The small form of a text without a blank at its start has none there. -/
theorem isBlank_of_head?_lowerFrom {text : List Char} (before : List Char)
    (visible : ∀ c, text.head? = some c → isBlank c = false) (small : Char)
    (starts : (lowerFrom before text).head? = some small) : isBlank small = false := by
  cases text with
  | nil => cases starts
  | cons c rest =>
    rw [lowerFrom_cons, List.head?_append_of_ne_nil _ (smallBetween_ne_nil before c rest)] at starts
    exact (of_mem_smallBetween (List.mem_of_mem_head? starts)).2 (visible c rfl)

/-- The small form of a text without a blank at its end has none there. -/
theorem isBlank_of_getLast?_lowerFrom {text : List Char} (before : List Char)
    (visible : ∀ c, text.getLast? = some c → isBlank c = false) (small : Char)
    (ends : (lowerFrom before text).getLast? = some small) : isBlank small = false := by
  induction text generalizing before with
  | nil => cases ends
  | cons c rest ih =>
    rw [lowerFrom_cons] at ends
    cases rest with
    | nil =>
      rw [lowerFrom, List.append_nil] at ends
      exact (of_mem_smallBetween (List.mem_of_getLast? ends)).2 (visible c rfl)
    | cons next others =>
      have later : lowerFrom (c :: before) (next :: others) ≠ [] := by
        rw [lowerFrom_cons]
        exact List.append_ne_nil_of_left_ne_nil (smallBetween_ne_nil _ _ _) _
      rw [List.getLast?_append_of_ne_nil _ later] at ends
      exact ih _ (fun last same => visible last (List.getLast?_cons_cons.trans same)) ends

/-- The small form of a text without blanks at its ends has none there. -/
theorem stripChars_lowerChars_stripChars (text : List Char) :
    stripChars (lowerChars (stripChars text)) = lowerChars (stripChars text) :=
  trimBy_eq_self (isBlank_of_head?_lowerFrom [] fun _ => cut_of_head?_trimBy)
    (isBlank_of_getLast?_lowerFrom [] fun _ => cut_of_getLast?_trimBy)

/-! ## The case of ASCII letters -/

/-- What is the same of every ASCII letter in either case is the same of all characters. -/
theorem apply_toLower {β : Type} {told : Char → β}
    (letters : ∀ place < 26,
      told (Char.ofNat (0x41 + place)).toLower = told (Char.ofNat (0x41 + place)))
    (c : Char) : told c.toLower = told c := by
  by_cases capital : 0x41 ≤ c.toNat ∧ c.toNat ≤ 0x5A
  · have same := letters (c.toNat - 0x41) (by omega)
    rw [show 0x41 + (c.toNat - 0x41) = c.toNat by omega, Char.ofNat_toNat] at same
    exact same
  · have other : ¬(c.val ≥ 'A'.val ∧ c.val ≤ 'Z'.val) := capital
    have unchanged : c.toLower = c := dif_neg other
    rw [unchanged]

/-- The small form of a character does not hang on the case of ASCII letters. -/
theorem smallChar_toLower (c : Char) : smallChar c.toLower = smallChar c :=
  apply_toLower (by decide +kernel) c

/-- Whether a character is blank does not hang on the case of ASCII letters. -/
theorem isBlank_toLower (c : Char) : isBlank c.toLower = isBlank c :=
  apply_toLower (by decide +kernel) c

/-- The ASCII case of a character has no part in its being the capital sigma. -/
theorem toLower_eq_sigma_iff (c : Char) : c.toLower = 'Σ' ↔ c = 'Σ' := by
  have decided := @apply_toLower Bool (fun c => decide (c = 'Σ')) (by decide +kernel) c
  exact decide_eq_decide.mp decided

/-- Whether a cased letter is met does not hang on the case of ASCII letters. -/
theorem meetsCased_map_toLower (neighbours : List Char) :
    meetsCased (neighbours.map Char.toLower) = meetsCased neighbours := by
  have ignorable : inRanges caseIgnorableRanges ∘ Char.toLower = inRanges caseIgnorableRanges :=
    funext (apply_toLower (by decide +kernel))
  have cased (c : Char) : inRanges casedRanges c.toLower = inRanges casedRanges c :=
    apply_toLower (by decide +kernel) c
  rw [meetsCased, meetsCased, List.dropWhile_map, ignorable]
  cases neighbours.dropWhile (inRanges caseIgnorableRanges) with
  | nil => rfl
  | cons c rest => exact cased c

/-- The small text does not hang on the case of ASCII letters. -/
theorem lowerFrom_map_toLower (before text : List Char) :
    lowerFrom (before.map Char.toLower) (text.map Char.toLower) = lowerFrom before text := by
  induction text generalizing before with
  | nil => rfl
  | cons c rest ih =>
    have later := ih (c :: before)
    rw [List.map_cons] at later
    rw [List.map_cons, lowerFrom_cons, lowerFrom_cons, later, smallBetween, smallBetween,
      meetsCased_map_toLower, meetsCased_map_toLower, smallChar_toLower]
    simp only [toLower_eq_sigma_iff]

/-- What trimming leaves does not hang on the case of ASCII letters. -/
theorem stripChars_map_toLower (text : List Char) :
    stripChars (text.map Char.toLower) = (stripChars text).map Char.toLower := by
  have blank : isBlank ∘ Char.toLower = isBlank := funext isBlank_toLower
  rw [stripChars, stripChars, trimBy, trimBy, List.dropWhile_map, blank, ← List.map_reverse,
    List.dropWhile_map, blank, ← List.map_reverse]

end Turnstile.Text
