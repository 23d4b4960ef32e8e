import Mathlib.Data.List.TakeDrop
import Mathlib.Data.List.TakeWhile
import Turnstile.Http.Message

/-!
# Values with and without surrogates

A value whose text holds no surrogate is a JSON value, and is written as that value is. So the
response that shows a part of a request either has the bytes of a JSON value, or is not made.
-/

namespace Turnstile

open Http Text

/-! ## Texts -/

namespace Text

/-- Code points without a surrogate among them are those of a text. -/
theorem eq_points_charsOf {list : List Point} (plain : ∀ point ∈ list, point.isSurrogate = false) :
    list = points (charsOf list) := by
  unfold points charsOf
  rw [String.toList_ofList]
  induction list with
  | nil => rfl
  | cons point rest ih =>
    have later := ih fun other member => plain other (List.mem_cons_of_mem _ member)
    cases point with
    | surrogate offset => exact nomatch plain _ List.mem_cons_self
    | char c => exact congrArg (List.cons (Point.char c)) later

/-- The characters among the code points of a text are the text. -/
@[simp] theorem charsOf_points (text : String) : charsOf (points text) = text := by
  unfold points charsOf
  rw [List.filterMap_map]
  exact (congrArg String.ofList (List.filterMap_some ..)).trans String.ofList_toList

/-- No code point of a text is a surrogate. -/
theorem isSurrogate_of_mem_points {text : String} {point : Point} (member : point ∈ points text) :
    point.isSurrogate = false := by
  obtain ⟨c, -, rfl⟩ := List.mem_map.mp member
  rfl

/-- The code points of two texts in a row. -/
@[simp] theorem points_append (first second : String) :
    points (first ++ second) = points first ++ points second := by
  simp [points]

end Text

/-- Code points are written as UTF-8 exactly when none of them is a surrogate. -/
theorem Http.surrogateFault?_eq_none {text : List Point} :
    surrogateFault? text = none ↔ ∀ point ∈ text, point.isSurrogate = false := by
  unfold surrogateFault? encodeText?
  rw [Option.map_eq_none_iff, List.span_eq_takeWhile_dropWhile]
  have kept : text.dropWhile (!·.isSurrogate) = [] ↔ ∀ point ∈ text, point.isSurrogate = false := by
    rw [List.dropWhile_eq_nil_iff]
    simp
  rw [← kept]
  cases text.dropWhile (!·.isSurrogate) <;> simp

/-! ## Values -/

namespace Wide

open Json (Dialect)

/-- A text that is quoted without a surrogate is made of characters. -/
theorem exists_points_of_quote {text : List Point}
    (plain : ∀ point ∈ quote text, point.isSurrogate = false) : ∃ value, text = points value := by
  refine ⟨_, eq_points_charsOf fun point member => ?_⟩
  cases point with
  | char c => rfl
  | surrogate offset =>
    refine plain _ (List.mem_cons_of_mem _ (List.mem_append_left _ ?_))
    exact List.mem_flatMap.mpr ⟨_, member, List.mem_singleton_self _⟩

/-- A text made of characters is quoted as JSON quotes it. -/
theorem quote_points (text : String) : quote (points text) = points (Json.quote false text) := by
  have inside : (points text).flatMap quotePoint =
      (text.toList.flatMap (Json.quoteChar false)).map .char := by
    unfold points
    rw [List.flatMap_map, List.map_flatMap]
    rfl
  rw [quote, inside]
  simp [Json.quote, points]

mutual

/-- A value that is written without a surrogate is a JSON value. -/
theorem exists_ofJson (value : Wide)
    (plain : ∀ point ∈ value.compact, point.isSurrogate = false) : ∃ json, value = ofJson json := by
  cases value with
  | null => exact ⟨.null, rfl⟩
  | bool value => exact ⟨.bool value, rfl⟩
  | int value => exact ⟨.int value, rfl⟩
  | float value => exact ⟨.float value, rfl⟩
  | str value =>
    obtain ⟨text, rfl⟩ := exists_points_of_quote plain
    exact ⟨.str text, rfl⟩
  | arr items =>
    obtain ⟨jsons, rfl⟩ := exists_ofItems items fun point member =>
      plain point (List.mem_cons_of_mem _ (List.mem_append_left _ member))
    exact ⟨.arr jsons, rfl⟩
  | obj members =>
    obtain ⟨jsons, rfl⟩ := exists_ofMembers members fun point member =>
      plain point (List.mem_cons_of_mem _ (List.mem_append_left _ member))
    exact ⟨.obj jsons, rfl⟩

/-- Items that are written without a surrogate are JSON values. -/
theorem exists_ofItems (items : List Wide)
    (plain : ∀ point ∈ compactItems items, point.isSurrogate = false) :
    ∃ jsons, items = ofItems jsons := by
  cases items with
  | nil => exact ⟨[], rfl⟩
  | cons item rest =>
    cases rest with
    | nil =>
      obtain ⟨json, rfl⟩ := exists_ofJson item plain
      exact ⟨[json], rfl⟩
    | cons second others =>
      obtain ⟨json, rfl⟩ := exists_ofJson item fun point member =>
        plain point (List.mem_append_left _ member)
      obtain ⟨jsons, same⟩ := exists_ofItems (second :: others) fun point member =>
        plain point (List.mem_append_right _ (List.mem_cons_of_mem _ member))
      exact ⟨json :: jsons, by rw [ofItems, same]⟩

/-- Members that are written without a surrogate are those of a JSON value. -/
theorem exists_ofMembers (members : Members)
    (plain : ∀ point ∈ compactMembers members, point.isSurrogate = false) :
    ∃ jsons, members = ofMembers jsons := by
  cases members with
  | nil => exact ⟨[], rfl⟩
  | cons member rest =>
    cases rest with
    | nil =>
      obtain ⟨json, rfl⟩ := exists_ofMember member plain
      exact ⟨[json], rfl⟩
    | cons second others =>
      obtain ⟨json, rfl⟩ := exists_ofMember member fun point listed =>
        plain point (List.mem_append_left _ listed)
      obtain ⟨jsons, same⟩ := exists_ofMembers (second :: others) fun point listed =>
        plain point (List.mem_append_right _ (List.mem_cons_of_mem _ listed))
      exact ⟨json :: jsons, by rw [ofMembers, same]⟩

/-- A member that is written without a surrogate is one of a JSON value. -/
theorem exists_ofMember (member : List Point × Wide)
    (plain : ∀ point ∈ compactMember member, point.isSurrogate = false) :
    ∃ json, member = ofMember json := by
  obtain ⟨name, value⟩ := member
  obtain ⟨text, rfl⟩ := exists_points_of_quote fun point listed =>
    plain point (List.mem_append_left _ listed)
  obtain ⟨json, rfl⟩ := exists_ofJson value fun point listed =>
    plain point (List.mem_append_right _ (List.mem_cons_of_mem _ listed))
  exact ⟨(text, json), rfl⟩

end

mutual

/-- A JSON value is written as JSON writes it. -/
theorem compact_ofJson (json : Json) : (ofJson json).compact = points (Json.compact json) := by
  cases json with
  | null => rfl
  | bool value => rfl
  | int value => rfl
  | float value => rfl
  | str value => exact quote_points value
  | arr items =>
    simp only [ofJson, compact, compact_ofItems items, Json.compact, Json.write, points_append]
    rfl
  | obj members =>
    simp only [ofJson, compact, compact_ofMembers members, Json.compact, Json.write,
      points_append]
    rfl

/-- Items are written as JSON writes them. -/
theorem compact_ofItems (items : List Json) :
    compactItems (ofItems items) = points (Json.writeItems .compact items) := by
  cases items with
  | nil => rfl
  | cons item rest =>
    have first : (ofJson item).compact = points (Json.write .compact item) := compact_ofJson item
    cases rest with
    | nil => exact first
    | cons second others =>
      have later := compact_ofItems (second :: others)
      simp only [ofItems] at later
      simp only [ofItems, compactItems, first, later, Json.writeItems, points_append]
      exact List.append_cons ..

/-- Members are written as JSON writes them. -/
theorem compact_ofMembers (members : List (String × Json)) :
    compactMembers (ofMembers members) = points (Json.writeMembers .compact members) := by
  cases members with
  | nil => rfl
  | cons member rest =>
    have first := compact_ofMember member
    cases rest with
    | nil => exact first
    | cons second others =>
      have later := compact_ofMembers (second :: others)
      simp only [ofMembers] at later
      simp only [ofMembers, compactMembers, first, later, Json.writeMembers, points_append]
      exact List.append_cons ..

/-- A member is written as JSON writes it. -/
theorem compact_ofMember (member : String × Json) :
    compactMember (ofMember member) = points (Json.writeMember .compact member) := by
  obtain ⟨name, value⟩ := member
  have written : (ofJson value).compact = points (Json.write .compact value) :=
    compact_ofJson value
  simp only [ofMember, compactMember, quote_points, written, Json.writeMember, points_append]
  exact List.append_cons ..

end

mutual

/-- A JSON value is finite as such. -/
theorem isFinite_ofJson (json : Json) : (ofJson json).isFinite = json.isFinite := by
  cases json with
  | arr items => exact itemsFinite_ofItems items
  | obj members => exact membersFinite_ofMembers members
  | _ => rfl

/-- Items are finite as those of a JSON value. -/
theorem itemsFinite_ofItems (items : List Json) :
    itemsFinite (ofItems items) = Json.itemsFinite items := by
  cases items with
  | nil => rfl
  | cons item rest =>
    rw [ofItems, itemsFinite, Json.itemsFinite, isFinite_ofJson item, itemsFinite_ofItems rest]

/-- Members are finite as those of a JSON value. -/
theorem membersFinite_ofMembers (members : List (String × Json)) :
    membersFinite (ofMembers members) = Json.membersFinite members := by
  cases members with
  | nil => rfl
  | cons member rest =>
    obtain ⟨name, value⟩ := member
    simp only [ofMembers, ofMember, membersFinite, Json.membersFinite, Json.memberFinite,
      isFinite_ofJson value, membersFinite_ofMembers rest]

end

/-- The text of a JSON value has no surrogate. -/
theorem surrogateFault?_ofJson (json : Json) : surrogateFault? (ofJson json).compact = none := by
  rw [compact_ofJson]
  exact surrogateFault?_eq_none.mpr fun _ => isSurrogate_of_mem_points

/-- An object with one member is that of a JSON value with one member. -/
theorem exists_detail_of_ofJson {json : Json} {name : String} {content : Wide}
    (same : ofJson json = .obj [(points name, content)]) :
    ∃ value, json = .obj [(name, value)] := by
  cases json with
  | obj members =>
    cases members with
    | nil => simp [ofJson, ofMembers] at same
    | cons member rest =>
      obtain ⟨own, value⟩ := member
      cases rest with
      | nil =>
        simp only [ofJson, ofMembers, ofMember, obj.injEq, List.cons.injEq, Prod.mk.injEq,
          and_true] at same
        exact ⟨value, by rw [points_injective same.1]⟩
      | cons second others => simp [ofJson, ofMembers] at same
  | _ => simp [ofJson, text] at same

end Wide

/-! ## Responses -/

namespace Http.Response

/-- A JSON value is responded with as such. -/
theorem ofWide_ofJson (status : Nat) (json : Json) (headers : List (String × String)) :
    ofWide status (.ofJson json) headers = ofJson status json headers := by
  rw [ofWide, ofJson, Wide.isFinite_ofJson, Wide.surrogateFault?_ofJson, Wide.compact_ofJson,
    charsOf_points]

/-- A value that is responded with is a JSON value. -/
theorem exists_ofJson_of_ofWide {status : Nat} {value : Wide} {headers : List (String × String)}
    {response : Response} (made : ofWide status value headers = .ok response) :
    ∃ json, value = .ofJson json ∧ ofJson status json headers = .ok response := by
  have plain : ∀ point ∈ value.compact, point.isSurrogate = false := by
    rw [← surrogateFault?_eq_none]
    unfold ofWide at made
    split at made
    · split at made
      · assumption
      · cases made
    · cases made
  obtain ⟨json, rfl⟩ := value.exists_ofJson plain
  exact ⟨json, rfl, (ofWide_ofJson status json headers).symm.trans made⟩

end Http.Response

end Turnstile
