import Mathlib.Data.List.DropRight
import Turnstile.Text.Blank

/-!
# Pieces between marks, and blanks at their ends

Splitting a text at a mark yields exactly the stretches without the mark that reach from an end of
the text, or a mark, to the next mark or the other end. Trimming leaves no blank at either end, and
blanks put around a text are trimmed away again.
-/

namespace Turnstile.Text

variable {mark : Char} {piece text : List Char}

/-! ## Pieces -/

/-- A piece without the mark is split off at the mark after it. -/
theorem splitAt_append_cons (plain : mark ∉ piece) (rest : List Char) :
    splitAt mark (piece ++ mark :: rest) = piece :: splitAt mark rest := by
  induction piece with
  | nil => rw [List.nil_append, splitAt, if_pos rfl]
  | cons c piece ih =>
    obtain ⟨other, later⟩ := not_or.mp (mt List.mem_cons.mpr plain)
    rw [List.cons_append, splitAt, if_neg (Ne.symm other), ih later]

/-- A text without the mark is one piece. -/
theorem splitAt_of_notMem (plain : mark ∉ piece) : splitAt mark piece = [piece] := by
  induction piece with
  | nil => rfl
  | cons c piece ih =>
    obtain ⟨other, later⟩ := not_or.mp (mt List.mem_cons.mpr plain)
    rw [splitAt, if_neg (Ne.symm other), ih later]

/-- Splitting undoes joining. -/
theorem splitAt_append_flatMap (plain : mark ∉ piece) {pieces : List (List Char)}
    (others : ∀ other ∈ pieces, mark ∉ other) :
    splitAt mark (piece ++ pieces.flatMap (mark :: ·)) = piece :: pieces := by
  induction pieces generalizing piece with
  | nil => rw [List.flatMap_nil, List.append_nil, splitAt_of_notMem plain]
  | cons next rest ih =>
    obtain ⟨first, later⟩ := List.forall_mem_cons.mp others
    rw [List.flatMap_cons, List.cons_append, splitAt_append_cons plain, ih first later]

/-- A stretch without the mark, with the mark or an end of the text on either side. -/
def IsPiece (mark : Char) (text piece : List Char) : Prop :=
  mark ∉ piece ∧ ∃ before after, text = before ++ (piece ++ after) ∧
    (before = [] ∨ ∃ earlier, before = earlier ++ [mark]) ∧
    (after = [] ∨ ∃ later, after = mark :: later)

/-- The only piece of a text without the mark is the text. -/
theorem isPiece_iff_of_notMem (plain : mark ∉ text) : IsPiece mark text piece ↔ piece = text := by
  constructor
  · rintro ⟨_, before, after, rfl, rfl | ⟨earlier, rfl⟩, rfl | ⟨later, rfl⟩⟩
    · exact (List.append_nil piece).symm
    all_goals exact absurd (by simp) plain
  · rintro rfl
    exact ⟨plain, [], [], (List.append_nil piece).symm, .inl rfl, .inl rfl⟩

/-- The pieces of a text with the mark are what stands before the first mark and the pieces of what
stands after it. -/
theorem isPiece_append_cons {first : List Char} (plain : mark ∉ first) (rest : List Char) :
    IsPiece mark (first ++ mark :: rest) piece ↔ piece = first ∨ IsPiece mark rest piece := by
  constructor
  · rintro ⟨own, before, after, whole, rfl | ⟨earlier, rfl⟩, ending⟩
    · -- The piece starts the text, so it ends where the first mark stands.
      rcases ending with rfl | ⟨later, rfl⟩
      · rw [List.nil_append, List.append_nil] at whole
        exact absurd (whole ▸ by simp) own
      · have cut := congrArg (splitAt mark) whole
        rw [splitAt_append_cons plain, List.nil_append, splitAt_append_cons own] at cut
        exact .inl (List.cons.inj cut).1.symm
    · -- The piece starts after a mark, so the first mark is that one or an earlier one.
      refine .inr ⟨own, ?_⟩
      rw [List.append_assoc, List.singleton_append] at whole
      rcases List.append_eq_append_iff.mp whole with ⟨gap, rfl, shared⟩ | ⟨gap, rfl, shared⟩
      · rcases List.cons_eq_append_iff.mp shared with ⟨rfl, same⟩ | ⟨gap, rfl, rfl⟩
        · exact ⟨[], after, (List.cons.inj same).2.symm, .inl rfl, ending⟩
        · exact ⟨gap ++ [mark], after, by simp, .inr ⟨gap, rfl⟩, ending⟩
      · rcases List.cons_eq_append_iff.mp shared with ⟨rfl, same⟩ | ⟨gap, rfl, _⟩
        · exact ⟨[], after, (List.cons.inj same).2, .inl rfl, ending⟩
        · exact absurd (by simp) plain
  · rintro (rfl | ⟨own, before, after, rfl, start, ending⟩)
    · exact ⟨plain, [], mark :: rest, rfl, .inl rfl, .inr ⟨rest, rfl⟩⟩
    · refine ⟨own, first ++ mark :: before, after, by simp, .inr ?_, ending⟩
      rcases start with rfl | ⟨earlier, rfl⟩
      · exact ⟨first, rfl⟩
      · exact ⟨first ++ mark :: earlier, by simp⟩

/-- Splitting a text yields its pieces. -/
theorem mem_splitAt_iff {text : List Char} :
    piece ∈ splitAt mark text ↔ IsPiece mark text piece := by
  by_cases marked : mark ∈ text
  · obtain ⟨first, rest, rfl, plain⟩ := List.eq_append_cons_of_mem marked
    rw [splitAt_append_cons plain, List.mem_cons, isPiece_append_cons plain, mem_splitAt_iff]
  · rw [splitAt_of_notMem marked, List.mem_singleton, isPiece_iff_of_notMem marked]
termination_by text.length
decreasing_by subst_vars; simp only [List.length_append, List.length_cons]; omega

/-- The first piece ends before the first mark. -/
theorem headD_splitAt (mark : Char) (text : List Char) :
    (splitAt mark text).headD [] = text.takeWhile (· ≠ mark) := by
  induction text with
  | nil => rfl
  | cons c rest ih =>
    by_cases same : c = mark
    · rw [splitAt, if_pos same, List.takeWhile_cons_of_neg (by simp [same])]
      rfl
    · rw [splitAt, if_neg same, List.takeWhile_cons_of_pos (by simp [same]), ← ih]
      cases splitAt mark rest <;> rfl

/-! ## Blanks -/

variable {cut : Char → Bool}

/-- Trimming drops what is cut at the start and then at the end. -/
theorem trimBy_eq_rdropWhile (text : List Char) :
    trimBy cut text = (text.dropWhile cut).rdropWhile cut := rfl

/-- Trimming adds nothing. -/
theorem mem_of_mem_trimBy {c : Char} (member : c ∈ trimBy cut text) : c ∈ text := by
  rw [trimBy_eq_rdropWhile] at member
  exact (List.dropWhile_sublist cut).mem ((List.rdropWhile_prefix cut _).sublist.mem member)

/-- Trimming leaves none of the class at the start. -/
theorem cut_of_head?_trimBy {c : Char} (starts : (trimBy cut text).head? = some c) :
    cut c = false := by
  rw [trimBy_eq_rdropWhile] at starts
  obtain ⟨rest, whole⟩ := List.rdropWhile_prefix cut (l := text.dropWhile cut)
  have same : (text.dropWhile cut).head? = some c := by
    rw [← whole, List.head?_append, starts]
    rfl
  have refused := List.head?_dropWhile_not cut text
  rw [same] at refused
  simpa using refused

/-- Trimming leaves none of the class at the end. -/
theorem cut_of_getLast?_trimBy {c : Char} (ends : (trimBy cut text).getLast? = some c) :
    cut c = false := by
  rw [trimBy, List.getLast?_reverse] at ends
  have refused := List.head?_dropWhile_not cut (text.dropWhile cut).reverse
  rw [ends] at refused
  simpa using refused

/-- A text with none of the class at its ends is left as it is. -/
theorem trimBy_eq_self (starts : ∀ c, text.head? = some c → cut c = false)
    (ends : ∀ c, text.getLast? = some c → cut c = false) : trimBy cut text = text := by
  have first : text.dropWhile cut = text := by
    cases text with
    | nil => rfl
    | cons c rest => exact List.dropWhile_cons_of_neg (Bool.eq_false_iff.mp (starts c rfl))
  rw [trimBy_eq_rdropWhile, first, List.rdropWhile_eq_self_iff]
  intro filled
  exact Bool.eq_false_iff.mp (ends _ (List.getLast?_eq_some_getLast filled))

/-- What is all of the class is trimmed away. -/
theorem trimBy_of_all (all : ∀ c ∈ text, cut c = true) : trimBy cut text = [] := by
  rw [trimBy, List.dropWhile_eq_nil_iff.mpr all]
  rfl

/-- Trimming leaves nothing exactly of what is all of the class. -/
theorem trimBy_eq_nil_iff : trimBy cut text = [] ↔ ∀ c ∈ text, cut c = true := by
  refine ⟨fun nothing c member => ?_, trimBy_of_all⟩
  rw [trimBy_eq_rdropWhile, List.rdropWhile_eq_nil_iff] at nothing
  have whole : text.takeWhile cut ++ text.dropWhile cut = text := List.takeWhile_append_dropWhile
  rw [← whole] at member
  rcases List.mem_append.mp member with first | rest
  · exact List.mem_takeWhile_imp first
  · exact nothing c rest

/-- Nothing is left of a text without its blanks at the ends exactly if it is all blank. -/
theorem strip_eq_empty_iff {text : String} :
    strip text = "" ↔ ∀ c ∈ text.toList, isBlank c = true := by
  rw [← String.toList_inj, toList_strip]
  exact trimBy_eq_nil_iff

/-- Trimming takes away what of the class stands around a text. -/
theorem trimBy_append_append {before after : List Char} (left : ∀ c ∈ before, cut c = true)
    (right : ∀ c ∈ after, cut c = true) (text : List Char) :
    trimBy cut (before ++ (text ++ after)) = trimBy cut text := by
  rw [trimBy_eq_rdropWhile, List.dropWhile_append_of_pos left, List.dropWhile_append]
  cases kept : (text.dropWhile cut).isEmpty with
  | true =>
    rw [if_pos rfl, trimBy_eq_rdropWhile, List.isEmpty_iff.mp kept,
      List.dropWhile_eq_nil_iff.mpr right]
  | false =>
    rw [if_neg Bool.false_ne_true, trimBy, List.rdropWhile, List.reverse_append,
      List.dropWhile_append_of_pos fun c member => right c (List.mem_reverse.mp member)]

end Turnstile.Text
