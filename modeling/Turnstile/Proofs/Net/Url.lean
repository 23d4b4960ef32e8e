import Turnstile.Net.Url
import Turnstile.Proofs.Text.Digest
import Mathlib.Data.List.TakeDrop
import Mathlib.Data.List.TakeWhile

/-!
# Paths of addresses

What follows a place in an address has no part in how the address is split before it: it adds to the
path what it holds up to the first mark, and nothing where a mark stands before the place. An
address with an ordinary host is always split, and its path begins after the host.
-/

namespace Turnstile.Net

/-- The character is not passed over. -/
def isKept (c : Char) : Bool := c != '\t' && c != '\r' && c != '\n'

/-- The character ends no path. -/
def isPathChar (c : Char) : Bool := c != '?' && c != '#'

/-- What a text at the end of an address adds to its path. -/
def pathPart (text : String) : String :=
  String.ofList ((text.toList.filter isKept).takeWhile isPathChar)

/-- A place in an address: a slash, not among the first two characters, and no blank or mark. -/
structure IsPlace (place : List Char) : Prop where
  slash : '/' ∈ place.drop 2
  unmarked : ∀ c ∈ place, c ≠ ':' ∧ 0x20 < c.toNat ∧ isPathChar c = true

/-! ## Taking parts off the front -/

/-- What stands before the first character that fails a test is taken off. -/
theorem span_of_stop {test : Char → Bool} {front : List Char} (passes : ∀ c ∈ front, test c = true)
    {stop : Char} (fails : test stop = false) (rest : List Char) :
    (front ++ stop :: rest).span test = (front, stop :: rest) := by
  have stops : ¬test stop = true := Bool.eq_false_iff.mp fails
  rw [List.span_eq_takeWhile_dropWhile, List.takeWhile_append_of_pos passes,
    List.dropWhile_append_of_pos passes, List.takeWhile_cons_of_neg stops,
    List.dropWhile_cons_of_neg stops, List.append_nil]

/-- What is taken off before a stop does not depend on what follows the stop. -/
theorem exists_span_append (test : Char → Bool) {front : List Char} {stop : Char}
    (member : stop ∈ front) (fails : test stop = false) :
    ∃ taken left, ∀ rest, (front ++ rest).span test = (taken, left ++ rest) := by
  induction front with
  | nil => cases member
  | cons c front ih =>
    cases passes : test c with
    | false => exact ⟨[], c :: front, fun rest => @span_of_stop test [] nofun c passes _⟩
    | true =>
      have later : stop ∈ front := by
        refine (List.mem_cons.mp member).resolve_left fun same => ?_
        rw [← same, fails] at passes
        cases passes
      obtain ⟨taken, left, splits⟩ := ih later
      refine ⟨c :: taken, left, fun rest => ?_⟩
      have inner := splits rest
      rw [List.span_eq_takeWhile_dropWhile] at inner ⊢
      obtain ⟨first, second⟩ := Prod.mk.inj inner
      rw [List.cons_append, List.takeWhile_cons_of_pos passes, List.dropWhile_cons_of_pos passes,
        first, second]

section Front

variable {place : List Char} (isPlace : IsPlace place)
include isPlace

/-- The scheme of an address does not depend on what follows a place, and the place is left. -/
theorem exists_takeScheme_append (start : List Char) :
    ∃ scheme left, ∀ rest,
      takeScheme (start ++ (place ++ rest)) = (scheme, left ++ (place ++ rest)) := by
  unfold takeScheme
  by_cases colon : ':' ∈ start
  · obtain ⟨front, after, rfl, early⟩ := List.eq_append_cons_of_mem colon
    have passes : ∀ c ∈ front, (c != ':') = true := fun c member =>
      bne_iff_ne.mpr (ne_of_mem_of_not_mem member early)
    have parts (rest : List Char) : (front ++ ':' :: after ++ rest).span (· != ':') =
        (front, ':' :: (after ++ rest)) := by
      rw [List.append_assoc, List.cons_append]
      exact span_of_stop passes (by decide) _
    cases named : (front.head?.map Char.isAlpha).getD false && front.all isSchemeChar with
    | true =>
      refine ⟨front.map Char.toLower, after, fun rest => ?_⟩
      simp only [parts, named, if_true]
    | false =>
      refine ⟨[], front ++ ':' :: after, fun rest => ?_⟩
      simp only [parts, named, Bool.false_eq_true, if_false]
  · refine ⟨[], start, fun rest => ?_⟩
    -- A slash of the place stands before any colon, and no scheme holds it.
    have passes : ∀ c ∈ start ++ place, (c != ':') = true := fun c member =>
      bne_iff_ne.mpr ((List.mem_append.mp member).elim (ne_of_mem_of_not_mem · colon)
        fun own => (isPlace.unmarked c own).1)
    have slash : '/' ∈ (start ++ (place ++ rest)).takeWhile (· != ':') := by
      rw [← List.append_assoc, List.takeWhile_append_of_pos passes]
      exact List.mem_append_left _ (List.mem_append_right _ (List.mem_of_mem_drop isPlace.slash))
    have unnamed : ((start ++ (place ++ rest)).takeWhile (· != ':')).all isSchemeChar = false :=
      List.all_eq_false.mpr ⟨'/', slash, by decide⟩
    rw [List.span_eq_takeWhile_dropWhile]
    simp only [unnamed, Bool.and_false, Bool.false_eq_true, if_false]
    cases (start ++ (place ++ rest)).dropWhile (· != ':') <;> rfl

/-- The authority of an address does not depend on what follows a place. -/
theorem exists_takeAuthority_append (start : List Char) :
    ∃ authority left, ∀ rest,
      takeAuthority (start ++ (place ++ rest)) = (authority, left ++ rest) := by
  have stops : ('/' != '/' && '/' != '?' && '/' != '#') = false := by decide
  have long : 2 ≤ (start ++ place).length := by
    have some := List.length_pos_of_mem isPlace.slash
    rw [List.length_drop] at some
    rw [List.length_append]
    omega
  by_cases doubled : (start ++ place).take 2 = ['/', '/']
  · have begins : start ++ place = '/' :: '/' :: (start ++ place).drop 2 := by
      conv => lhs; rw [← List.take_append_drop 2 (start ++ place), doubled]
      rfl
    have later : '/' ∈ (start ++ place).drop 2 := by
      rw [List.drop_append]
      exact List.mem_append_right _
        (List.drop_subset_drop_left place (Nat.sub_le 2 start.length) isPlace.slash)
    obtain ⟨authority, left, splits⟩ :=
      exists_span_append (fun c => c != '/' && c != '?' && c != '#') later stops
    refine ⟨authority, left, fun rest => ?_⟩
    rw [← List.append_assoc, begins]
    exact splits rest
  · refine ⟨[], start ++ place, fun rest => ?_⟩
    rw [← List.append_assoc]
    unfold takeAuthority
    split
    · rename_i after begins
      refine absurd ?_ doubled
      rw [← List.take_append_of_le_length long, begins]
      rfl
    · rfl

/-- No character of a place is passed over. -/
theorem IsPlace.filter_isKept : place.filter isKept = place := by
  refine List.filter_eq_self.mpr fun c member => ?_
  have apart (quiet : Char) (low : quiet.toNat ≤ 0x20) : c ≠ quiet := fun same =>
    Nat.not_le.mpr (isPlace.unmarked c member).2.1 (same ▸ low)
  simp [isKept, apart '\t' (by decide), apart '\r' (by decide), apart '\n' (by decide)]

/-- Characters that are passed over in front of an address or within are not those of a place. -/
theorem exists_shown_append (start : List Char) : ∃ left, ∀ rest,
    ((start ++ (place ++ rest)).dropWhile fun c => c.toNat ≤ 0x20).filter
        (fun c => c != '\t' && c != '\r' && c != '\n') =
      left ++ (place ++ rest.filter isKept) := by
  refine ⟨(start.dropWhile fun c => c.toNat ≤ 0x20).filter isKept, fun rest => ?_⟩
  have loud : ∀ c ∈ place, ¬c.toNat ≤ 0x20 := fun c member =>
    Nat.not_le.mpr (isPlace.unmarked c member).2.1
  have begins : (place ++ rest).dropWhile (fun c => c.toNat ≤ 0x20) = place ++ rest := by
    cases place with
    | nil => exact absurd isPlace.slash List.not_mem_nil
    | cons c others =>
      exact List.dropWhile_cons_of_neg (by simpa using loud c List.mem_cons_self)
  have dropped : (start ++ (place ++ rest)).dropWhile (fun c => c.toNat ≤ 0x20) =
      start.dropWhile (fun c => c.toNat ≤ 0x20) ++ (place ++ rest) := by
    rw [List.dropWhile_append, begins]
    split
    · rename_i none
      rw [List.isEmpty_iff.mp none, List.nil_append]
    · rfl
  show List.filter isKept _ = _
  rw [dropped, List.filter_append, List.filter_append, isPlace.filter_isKept]

end Front

/-! ## The path -/

/-- What stands before the first mark is cut off there. -/
theorem cutAt_fst (mark : Char) (text : String) :
    (cutAt mark text).1 = String.ofList (text.toList.takeWhile (· != mark)) := by
  unfold cutAt
  rw [List.span_eq_takeWhile_dropWhile]
  cases later : text.toList.dropWhile (· != mark) with
  | cons c after => rfl
  | nil =>
    have whole := List.takeWhile_append_dropWhile (p := (· != mark)) (l := text.toList)
    rw [later, List.append_nil] at whole
    show text = _
    rw [whole, String.ofList_toList]

/-- The path of an address is what its authority leaves, up to the first mark. -/
theorem map_path_read? {text : String} {shown scheme later authority left : List Char}
    (passed : (text.toList.dropWhile fun c => c.toNat ≤ 0x20).filter
      (fun c => c != '\t' && c != '\r' && c != '\n') = shown)
    (schemed : takeScheme shown = (scheme, later))
    (placed : takeAuthority later = (authority, left)) :
    (Url.read? text).map Url.path =
      if isAuthority authority then some (String.ofList (left.takeWhile isPathChar)) else none := by
  have ends : (cutAt '?' (cutAt '#' (String.ofList left)).1).1 =
      String.ofList (left.takeWhile isPathChar) := by
    rw [cutAt_fst, cutAt_fst, String.toList_ofList, String.toList_ofList, List.takeWhile_takeWhile]
    congr 2
    funext c
    simp only [isPathChar, Bool.decide_and, Bool.decide_eq_true]
  unfold Url.read?
  simp only [passed, schemed, placed]
  split
  · exact congrArg some ends
  · rfl

/-- A place adds itself to the path, and what follows adds its own part. -/
theorem IsPlace.pathPart_append {place : String} (isPlace : IsPlace place.toList) (rest : String) :
    pathPart (place ++ rest) = place ++ pathPart rest := by
  unfold pathPart
  rw [String.toList_append, List.filter_append, isPlace.filter_isKept,
    List.takeWhile_append_of_pos fun c member => (isPlace.unmarked c member).2.2,
    String.ofList_append, String.ofList_toList]

/-- A query adds nothing to the path. -/
theorem pathPart_append_query (text query : String) :
    pathPart (text ++ "?" ++ query) = pathPart text := by
  unfold pathPart
  have mark : isKept '?' = true := by decide
  have stops : ¬isPathChar '?' = true := by decide
  rw [String.toList_append, String.toList_append, List.filter_append, List.filter_append,
    List.append_assoc, List.takeWhile_append]
  split
  · rename_i whole
    have all : (text.toList.filter isKept).takeWhile isPathChar = text.toList.filter isKept :=
      (List.takeWhile_prefix isPathChar).eq_of_length whole
    show String.ofList (_ ++ List.takeWhile isPathChar (List.filter isKept ['?'] ++ _)) = _
    rw [List.filter_cons_of_pos mark, List.cons_append, List.takeWhile_cons_of_neg stops, all,
      List.append_nil]
  · rfl

/-- What follows a place in an address adds to the path what it holds up to the first mark, unless
the address cannot be split, or a mark stands before the place. -/
theorem exists_path_append (start : String) {place : String} (isPlace : IsPlace place.toList) :
    (∀ rest, Url.read? (start ++ place ++ rest) = none) ∨
      (∃ path, ∀ rest, (Url.read? (start ++ place ++ rest)).map Url.path = some path) ∨
      ∃ front, ∀ rest,
        (Url.read? (start ++ place ++ rest)).map Url.path = some (front ++ pathPart rest) := by
  obtain ⟨shown, passes⟩ := exists_shown_append isPlace start.toList
  obtain ⟨scheme, later, schemes⟩ := exists_takeScheme_append isPlace shown
  obtain ⟨authority, left, authorities⟩ := exists_takeAuthority_append isPlace later
  have reads (rest : String) : (Url.read? (start ++ place ++ rest)).map Url.path =
      if isAuthority authority then
        some (String.ofList ((left ++ rest.toList.filter isKept).takeWhile isPathChar))
      else none := by
    refine map_path_read? ?_ (schemes _) (authorities _)
    rw [String.toList_append, String.toList_append, List.append_assoc]
    exact passes rest.toList
  cases fine : isAuthority authority with
  | false =>
    refine .inl fun rest => ?_
    have none := reads rest
    rw [fine] at none
    exact Option.map_eq_none_iff.mp none
  | true =>
    rw [fine] at reads
    by_cases unmarked : ∀ c ∈ left, isPathChar c = true
    · refine .inr (.inr ⟨String.ofList left, fun rest => ?_⟩)
      rw [reads, if_pos rfl, List.takeWhile_append_of_pos unmarked, String.ofList_append, pathPart]
    · refine .inr (.inl ⟨String.ofList (left.takeWhile isPathChar), fun rest => ?_⟩)
      rw [reads, if_pos rfl]
      have stops : (left.takeWhile isPathChar).length ≠ left.length := fun whole =>
        unmarked (List.takeWhile_eq_self_iff.mp
          ((List.takeWhile_prefix isPathChar).eq_of_length whole))
      rw [List.takeWhile_append, if_neg stops]

/-! ## Ordinary hosts -/

/-- The character may stand in the name or number of a host, or before the number of a socket. -/
def isHostChar (c : Char) : Bool := c.isAlphanum || c = '.' || c = '-' || c = ':'

/-- The characters of a host are among the first 128. -/
theorem toNat_lt_of_isHostChar {c : Char} (host : isHostChar c = true) : c.toNat < 0x80 := by
  simp only [isHostChar, Bool.or_eq_true, decide_eq_true_eq] at host
  rcases host with ((letter | rfl) | rfl) | rfl
  · exact Text.toNat_lt_of_isAlphanum letter
  all_goals decide

/-- An ordinary host is an authority. -/
theorem isAuthority_of_ordinary {host : List Char} (ordinary : ∀ c ∈ host, isHostChar c = true) :
    isAuthority host = true := by
  have absent (c : Char) (other : isHostChar c = false) : host.contains c = false := by
    refine Bool.eq_false_iff.mpr fun member => ?_
    rw [ordinary c (List.contains_iff_mem.mp member)] at other
    cases other
  have plain : host.any isMaskedMark = false := by
    refine List.any_eq_false.mpr fun c member masked => ?_
    have low := toNat_lt_of_isHostChar (ordinary c member)
    have listed := List.contains_iff_mem.mp masked
    simp only [List.mem_cons, List.not_mem_nil, or_false] at listed
    omega
  unfold isAuthority
  simp only [plain, absent '[' (by decide), absent ']' (by decide), Bool.not_false, Bool.true_or,
    Bool.and_true, beq_self_eq_true]

/-- An address with an ordinary host is split, and its path begins after the host. -/
theorem map_path_read?_of_ordinary {host path : String}
    (ordinary : ∀ c ∈ host.toList, isHostChar c = true) (rooted : path.toList.head? = some '/') :
    (Url.read? ("http://" ++ host ++ path)).map Url.path = some (pathPart path) := by
  have apart {c : Char} (member : c ∈ host.toList) (other : Char)
      (unfit : isHostChar other = false) : c ≠ other := by
    rintro rfl
    rw [ordinary c member] at unfit
    cases unfit
  have kept : host.toList.filter isKept = host.toList := List.filter_eq_self.mpr fun c member => by
    simp [isKept, apart member '\t' (by decide), apart member '\r' (by decide),
      apart member '\n' (by decide)]
  obtain ⟨after, begins⟩ : ∃ after, path.toList.filter isKept = '/' :: after := by
    obtain ⟨rest, whole⟩ := List.head?_eq_some_iff.mp rooted
    exact ⟨_, by rw [whole, List.filter_cons_of_pos (by decide)]⟩
  let address : List Char := "http:".toList ++ ('/' :: '/' :: (host.toList ++ '/' :: after))
  have passed : (("http://" ++ host ++ path).toList.dropWhile fun c => c.toNat ≤ 0x20).filter
      (fun c => c != '\t' && c != '\r' && c != '\n') = address := by
    show List.filter isKept _ = _
    rw [String.toList_append, String.toList_append, List.append_assoc]
    show List.filter isKept ("http://".toList ++ (host.toList ++ path.toList)) = _
    rw [List.filter_append, List.filter_append, kept, begins]
    rfl
  have schemed : takeScheme address =
      ("http".toList, '/' :: '/' :: (host.toList ++ '/' :: after)) := rfl
  have inside : ∀ c ∈ host.toList, (c != '/' && c != '?' && c != '#') = true := fun c member => by
    simp [apart member '/' (by decide), apart member '?' (by decide), apart member '#' (by decide)]
  have placed : takeAuthority ('/' :: '/' :: (host.toList ++ '/' :: after)) =
      (host.toList, '/' :: after) := span_of_stop inside (by decide) after
  rw [map_path_read? passed schemed placed, if_pos (isAuthority_of_ordinary ordinary), pathPart,
    begins]

end Turnstile.Net
