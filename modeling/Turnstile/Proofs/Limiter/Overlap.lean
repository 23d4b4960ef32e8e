import Mathlib.Data.List.Basic
import Turnstile.Proofs.Limiter.Progress
import Turnstile.Proofs.Limiter.Task
import Turnstile.Proofs.Policy.Lifetime

/-!
# Overlapping checks

Checks of one identifier whose commands interleave can count before any of them inserts, so more
may be admitted than the capacity. How many more is bounded by how many were ever past their count
and before their insertion at once. An entry that finds the window full can only keep out checks
that count later, so a first denial means that the capacity was used; and every entry that is
denied is taken back.
-/

namespace Turnstile.Limiter

open Store Time

namespace Progress

variable {limit : Limit}

/-- The count that the check was answered with. -/
def count? : Progress limit → Option Int
  | .fresh | .purged _ => none
  | .counted _ count | .added _ count _ | .overfull count _ | .ended count => some count

/-- The check found room. -/
def wins (progress : Progress limit) : Bool := progress.count?.any (Verdict.admits limit)

/-- The check found the window full. -/
def loses (progress : Progress limit) : Bool := progress.count?.any (!Verdict.admits limit ·)

/-- The entry of the check is held. -/
def holds : Progress limit → Bool
  | .fresh | .purged _ | .counted _ _ => false
  | .added _ _ _ | .overfull _ _ => true
  | .ended count => Verdict.admits limit count

/-- The check is past its count and before its insertion. -/
def isBetween : Progress limit → Bool
  | .counted _ _ => true
  | _ => false

/-- A check that found room is about to insert its entry or holds it. -/
theorem isBetween_or_holds_of_wins (progress : Progress limit) (wins : progress.wins = true) :
    progress.isBetween = true ∨ progress.holds = true := by
  cases progress with
  | fresh => cases wins
  | purged => cases wins
  | counted => exact .inl rfl
  | added => exact .inr rfl
  | overfull => exact .inr rfl
  | ended count => exact .inr wins

/-- A check that holds an entry has counted. -/
theorem wins_or_loses_of_holds (progress : Progress limit) (holds : progress.holds = true) :
    progress.wins = true ∨ progress.loses = true := by
  have decided (count : Int) :
      Verdict.admits limit count = true ∨ (!Verdict.admits limit count) = true := by
    cases Verdict.admits limit count <;> simp
  cases progress with
  | fresh => cases holds
  | purged => cases holds
  | counted => cases holds
  | added _ count _ => exact decided count
  | overfull count _ => exact decided count
  | ended count => exact decided count

end Progress

/-- Elements that pass one test are no more than those that pass either of two others, when it
implies one of them. -/
theorem countP_le_add {α : Type} {first second third : α → Bool}
    (implies : ∀ element, first element = true → second element = true ∨ third element = true)
    (list : List α) : list.countP first ≤ list.countP second + list.countP third := by
  induction list with
  | nil => exact Nat.le_refl 0
  | cons element rest ih =>
    simp only [List.countP_cons]
    have here := implies element
    split
    · rcases here ‹_› with passes | passes <;> rw [passes] <;> simp <;> omega
    · omega

/-- A list around one of its elements, and with another one in its place. -/
theorem exists_split_of_getElem? {α : Type} {list : List α} {place : Nat} {element : α}
    (found : list[place]? = some element) : ∃ left right, list = left ++ element :: right ∧
      ∀ next, list.set place next = left ++ next :: right := by
  obtain ⟨inside, rfl⟩ := List.getElem?_eq_some_iff.mp found
  refine ⟨list.take place, list.drop (place + 1), ?_, fun next => ?_⟩
  · rw [← List.drop_eq_getElem_cons inside, List.take_append_drop]
  · exact List.set_eq_take_append_cons_drop.trans (if_pos inside)

/-- A check of a contest and the point it has come to. -/
abbrev Contestant (limit : Limit) : Type := Entrant × Progress limit

section Tally

variable {limit : Limit}

/-- How many contestants are at points that pass a test. -/
def tally (test : Progress limit → Bool) (contestants : List (Contestant limit)) : Nat :=
  contestants.countP fun contestant => test contestant.2

/-- The entries that contestants hold. -/
def heldRows (contestants : List (Contestant limit)) : List (String × Int) :=
  (contestants.filter fun contestant => contestant.2.holds).map fun contestant => contestant.1.row

/-- What holds of the contestants and the entries of their key at all times: the key holds the
entries that were there before and those that the contestants hold; no more found room than the
capacity left, and those that were ever between their count and their insertion; and none found
the window full before the capacity was used. -/
structure Tallies (before : List (String × Int)) (peak : Nat)
    (contestants : List (Contestant limit)) (rows : List (String × Int)) : Prop where
  rows : rows.Perm (before ++ heldRows contestants)
  none : limit.capacity ≤ before.length → tally Progress.wins contestants = 0
  most : before.length < limit.capacity →
    (tally Progress.wins contestants : Int) ≤ limit.capacity - before.length + peak - 1
  least : tally Progress.loses contestants = 0 ∨
    limit.capacity - before.length ≤ tally Progress.wins contestants

/-- A contestant counts by itself. -/
theorem tally_split (test : Progress limit → Bool) (left right : List (Contestant limit))
    (contestant : Contestant limit) : tally test (left ++ contestant :: right) =
      tally test (left ++ right) + if test contestant.2 then 1 else 0 := by
  simp only [tally, List.countP_append, List.countP_cons]
  omega

/-- Those who found room are about to insert or hold their entry. -/
theorem tally_wins_le (contestants : List (Contestant limit)) :
    tally Progress.wins contestants ≤
      tally Progress.isBetween contestants + tally Progress.holds contestants :=
  countP_le_add (fun contestant => contestant.2.isBetween_or_holds_of_wins) contestants

/-- Those who hold an entry found room or found the window full. -/
theorem tally_holds_le (contestants : List (Contestant limit)) :
    tally Progress.holds contestants ≤
      tally Progress.wins contestants + tally Progress.loses contestants :=
  countP_le_add (fun contestant => contestant.2.wins_or_loses_of_holds) contestants

/-- There are as many entries held as contestants that hold one. -/
theorem heldRows_length (contestants : List (Contestant limit)) :
    (heldRows contestants).length = tally Progress.holds contestants := by
  rw [heldRows, List.length_map, tally, List.countP_eq_length_filter]

/-- The entries held by contestants in two parts. -/
theorem heldRows_append (left right : List (Contestant limit)) :
    heldRows (left ++ right) = heldRows left ++ heldRows right := by
  simp only [heldRows, List.filter_append, List.map_append]

/-- The entry of the first contestant stands first, if it is held. -/
theorem heldRows_cons (contestant : Contestant limit) (rest : List (Contestant limit)) :
    heldRows (contestant :: rest) =
      if contestant.2.holds then contestant.1.row :: heldRows rest else heldRows rest := by
  simp only [heldRows, List.filter_cons]
  split <;> rfl

/-- The entries that contestants hold, one of them told apart. -/
theorem heldRows_perm (left right : List (Contestant limit)) (entrant : Entrant)
    (progress : Progress limit) : (heldRows (left ++ (entrant, progress) :: right)).Perm
      (heldRows (left ++ right) ++ if progress.holds then [entrant.row] else []) := by
  rw [heldRows_append, heldRows_append, heldRows_cons, List.append_assoc]
  refine (List.perm_append_left_iff _).mpr ?_
  cases progress.holds with
  | true => exact (List.perm_append_singleton _ _).symm
  | false => simp

variable {before rows next : List (String × Int)} {peak : Nat} {entrant : Entrant}
  {progress after : Progress limit} {left right : List (Contestant limit)}

/-- A turn does to the entries of the key what it does to the contestant's own. -/
theorem Moves.rows_perm (moves : Moves limit entrant progress rows after next)
    {others : List (String × Int)} (strange : ∀ row ∈ others, row.1 ≠ entrant.entry)
    (held : rows.Perm (others ++ if progress.holds then [entrant.row] else [])) :
    next.Perm (others ++ if after.holds then [entrant.row] else []) := by
  have kept : others.filter (·.1 != entrant.entry) = others :=
    List.filter_eq_self.mpr fun row member => bne_iff_ne.mpr (strange row member)
  cases moves with
  | purge => exact held
  | count => exact held
  | add =>
    have mine : rows.filter (·.1 != entrant.entry) = rows := by
      refine List.filter_eq_self.mpr fun row member => bne_iff_ne.mpr (strange row ?_)
      simpa [Progress.holds] using held.subset member
    rw [mine]
    have alone : rows.Perm others := by simpa [Progress.holds] using held
    exact (List.perm_append_right_iff _).mpr alone
  | allow _ _ count _ room =>
    rw [Progress.holds, room]
    exact held
  | refuse => exact held
  | remove _ count full =>
    have rest := held.filter (·.1 != entrant.entry)
    rw [List.filter_append, kept] at rest
    simpa [Progress.holds, full, Entrant.row] using rest
  | rest => exact held

/-- A turn that is no count changes no count. -/
theorem Moves.count?_eq (moves : Moves limit entrant progress rows after next) :
    after.count? = progress.count? ∨ ∃ purge, progress = .purged purge ∧
      after = .counted purge rows.length := by
  cases moves with
  | count _ purge => exact .inr ⟨purge, rfl, rfl⟩
  | _ => exact .inl rfl

/-- A turn of a contestant keeps the tallies, as long as no more than the peak are between their
count and their insertion. -/
theorem Tallies.moves (tallies : Tallies before peak (left ++ (entrant, progress) :: right) rows)
    (moves : Moves limit entrant progress rows after next)
    (strange : ∀ row ∈ before ++ heldRows (left ++ right), row.1 ≠ entrant.entry)
    (bound : tally Progress.isBetween (left ++ (entrant, after) :: right) ≤ peak) :
    Tallies before peak (left ++ (entrant, after) :: right) next := by
  have held : rows.Perm ((before ++ heldRows (left ++ right)) ++
      if progress.holds then [entrant.row] else []) := by
    rw [List.append_assoc]
    exact tallies.rows.trans ((List.perm_append_left_iff _).mpr (heldRows_perm ..))
  have rowsNext : next.Perm (before ++ heldRows (left ++ (entrant, after) :: right)) := by
    have moved := moves.rows_perm strange held
    rw [List.append_assoc] at moved
    exact moved.trans ((List.perm_append_left_iff _).mpr (heldRows_perm ..).symm)
  obtain same | ⟨purge, rfl, rfl⟩ := moves.count?_eq
  · have wins : tally Progress.wins (left ++ (entrant, after) :: right) =
        tally Progress.wins (left ++ (entrant, progress) :: right) := by
      rw [tally_split, tally_split, Progress.wins, Progress.wins, same]
    have loses : tally Progress.loses (left ++ (entrant, after) :: right) =
        tally Progress.loses (left ++ (entrant, progress) :: right) := by
      rw [tally_split, tally_split, Progress.loses, Progress.loses, same]
    exact ⟨rowsNext, wins ▸ tallies.none, wins ▸ tallies.most, wins ▸ loses ▸ tallies.least⟩
  · -- The count is the only turn that decides: it finds what was there and what is held.
    have length := held.length_eq
    have winners := tally_wins_le (left ++ right)
    have holders := tally_holds_le (left ++ right)
    have none := tallies.none
    have most := tallies.most
    have least := tallies.least
    simp only [tally_split, Progress.wins, Progress.loses, Progress.isBetween, Progress.holds,
      Progress.count?, Option.any, List.length_append, heldRows_length, Bool.false_eq_true,
      if_false, if_true, List.length_nil, Nat.add_zero] at length none most least bound
    cases room : Verdict.admits limit rows.length with
    | true =>
      have below := Verdict.admits_eq_true_iff.mp room
      refine ⟨rowsNext, fun full => ?_, fun left => ?_, ?_⟩
      all_goals simp only [tally_split, Progress.wins, Progress.loses, Progress.count?, Option.any,
        room, Bool.not_true, Bool.false_eq_true, if_true, if_false]
      all_goals omega
    | false =>
      have above := Verdict.admits_eq_false_iff.mp room
      refine ⟨rowsNext, fun full => ?_, fun left => ?_, ?_⟩
      all_goals simp only [tally_split, Progress.wins, Progress.loses, Progress.count?, Option.any,
        room, Bool.not_false, Bool.false_eq_true, if_true, if_false]
      all_goals omega

end Tally

/-! ## Races -/

/-- A turn of a race: the reading of the store's clock, and the check whose turn it is. -/
structure Turn where
  clock : Seconds
  place : Nat

namespace Race

/-- Let a check carry out its next command with the clock at its reading. -/
def take (race : Race) (turn : Turn) : Race :=
  Race.turn { race with
    store := { race.store with memory := race.store.memory.setClock turn.clock } } turn.place

/-- Let checks take turns. -/
def play (race : Race) (turns : List Turn) : Race := turns.foldl take race

/-- How many checks are past their count and before their insertion. -/
def between (race : Race) : Nat := race.tasks.countP (·.isBetween)

/-- The largest number of checks that are past their count and before their insertion at once. -/
def peak (race : Race) : List Turn → Nat
  | [] => race.between
  | turn :: rest => max race.between ((race.take turn).peak rest)

/-- The key is not past its deadline at any turn. -/
def lasts (key : String) (race : Race) : List Turn → Bool
  | [] => true
  | turn :: rest =>
    (race.store.memory.held.get? key).all (·.isLive turn.clock) && (race.take turn).lasts key rest

end Race

/-- What is assumed of the checks of a race and of the entries that were there before: the entries
have distinct names, the checks lie less than a window apart, and no entry is too old for any of
them to count. -/
structure Overlap (limit : Limit) (before : List (String × Int)) (entrants : List Entrant) :
    Prop where
  distinct : (entrants.map Entrant.entry).Nodup
  strange : ∀ row ∈ before, ∀ entrant ∈ entrants, row.1 ≠ entrant.entry
  near : ∀ one ∈ entrants, ∀ other ∈ entrants, one.now - other.now < limit.window
  newer : ∀ row ∈ before, ∀ entrant ∈ entrants, entrant.now - limit.window < row.2

section Contest

variable {limit : Limit} {identifier : String} {seconds : Int} {before : List (String × Int)}
  {entrants : List Entrant} {most : Nat} {race : Race}

/-- A race is a contest when its tasks are its entrants, each at some point, the tallies hold, and
the store refuses nothing. -/
structure Contest (limit : Limit) (identifier : String) (seconds : Int)
    (before : List (String × Int)) (entrants : List Entrant) (most : Nat) (race : Race) :
    Prop where
  quiet : race.store.interference.IsQuiet
  tallies : ∃ contestants : List (Contestant limit), contestants.map Prod.fst = entrants ∧
    race.tasks = contestants.map (fun contestant =>
      contestant.1.task limit identifier seconds contestant.2) ∧
    Tallies before most contestants (race.store.memory.rows (limit.key identifier))

/-- A check is between its count and its insertion when its progress is. -/
theorem isBetween_task (entrant : Entrant) (progress : Progress limit) :
    (entrant.task limit identifier seconds progress).isBetween = progress.isBetween := by
  cases progress <;> rfl

/-- The tasks of a race between their count and their insertion are the contestants there. -/
theorem between_eq {contestants : List (Contestant limit)}
    (shown : race.tasks = contestants.map fun contestant =>
      contestant.1.task limit identifier seconds contestant.2) :
    race.between = tally Progress.isBetween contestants := by
  rw [Race.between, shown, List.countP_map, tally]
  exact List.countP_congr fun contestant _ => by rw [Function.comp, isBetween_task]

/-- An entry that contestants hold is that of one of them. -/
theorem exists_of_mem_heldRows {contestants : List (Contestant limit)} {row : String × Int}
    (member : row ∈ heldRows contestants) :
    ∃ contestant ∈ contestants, row = contestant.1.row := by
  obtain ⟨contestant, held, rfl⟩ := List.mem_map.mp member
  exact ⟨contestant, (List.mem_filter.mp held).1, rfl⟩

/-- The entries beside a contestant's own bear other names. -/
theorem Overlap.strange_split (overlap : Overlap limit before entrants)
    {left right : List (Contestant limit)} {entrant : Entrant} {progress : Progress limit}
    (listed : (left ++ (entrant, progress) :: right).map Prod.fst = entrants) :
    ∀ row ∈ before ++ heldRows (left ++ right), row.1 ≠ entrant.entry := by
  intro row member
  rcases List.mem_append.mp member with old | held
  · exact overlap.strange row old entrant (listed ▸ by simp)
  · obtain ⟨contestant, other, rfl⟩ := exists_of_mem_heldRows held
    have distinct := overlap.distinct
    rw [← listed, List.map_map, List.map_append, List.map_cons, List.nodup_middle,
      List.nodup_cons, ← List.map_append] at distinct
    intro same
    exact distinct.1 (List.mem_map.mpr ⟨contestant, other, same⟩)

/-- No entry that is there is too old for any check to count. -/
theorem Overlap.late (overlap : Overlap limit before entrants)
    {contestants : List (Contestant limit)} {rows : List (String × Int)}
    (listed : contestants.map Prod.fst = entrants) (tallies : Tallies before most contestants rows)
    {entrant : Entrant} (entered : entrant ∈ entrants) :
    ∀ row ∈ rows, entrant.now - limit.window < row.2 := by
  intro row member
  rcases List.mem_append.mp (tallies.rows.subset member) with old | held
  · exact overlap.newer row old entrant entered
  · obtain ⟨contestant, other, rfl⟩ := exists_of_mem_heldRows held
    have present : contestant.1 ∈ entrants := listed ▸ List.mem_map_of_mem other
    have near := overlap.near entrant entered contestant.1 present
    simp only [Entrant.row]
    omega

/-- A turn keeps a contest, as long as no more than the most are between their count and their
insertion. -/
theorem Contest.take (contest : Contest limit identifier seconds before entrants most race)
    (overlap : Overlap limit before entrants) {turn : Turn}
    (live : (race.store.memory.held.get? (limit.key identifier)).all (·.isLive turn.clock) = true)
    (bound : (race.take turn).between ≤ most) :
    Contest limit identifier seconds before entrants most (race.take turn) := by
  obtain ⟨quiet, contestants, listed, shown, tallies⟩ := contest
  cases found : contestants[turn.place]? with
  | none =>
    have idle : race.tasks[turn.place]? = none := by
      rw [shown, List.getElem?_map, found, Option.map_none]
    refine ⟨?_, contestants, listed, ?_, ?_⟩
    all_goals simp only [Race.take, Race.turn, idle]
    · exact quiet
    · exact shown
    · exact tallies
  | some contestant =>
    obtain ⟨entrant, progress⟩ := contestant
    have taken : race.tasks[turn.place]? =
        some (entrant.task limit identifier seconds progress) := by
      rw [shown, List.getElem?_map, found, Option.map_some]
    have entered : entrant ∈ entrants := by
      rw [← listed]
      exact List.mem_map.mpr ⟨(entrant, progress), List.mem_of_getElem? found, rfl⟩
    obtain ⟨next, memory, advanced, stored, moves⟩ := advance_moves
      { race.store with memory := race.store.memory.setClock turn.clock } quiet limit identifier
      seconds entrant ((Option.all_eq_true _ _).mp live) (overlap.late listed tallies entered)
      progress
    have came : race.take turn =
        ⟨race.tasks.set turn.place (entrant.task limit identifier seconds next),
          { race.store with memory }, (race.take turn).events⟩ := by
      simp only [Race.take, Race.turn, taken, advanced, stored]
    obtain ⟨left, right, rfl, changed⟩ := exists_split_of_getElem? found
    have tasks : (race.take turn).tasks = (left ++ (entrant, next) :: right).map fun contestant =>
        contestant.1.task limit identifier seconds contestant.2 := by
      rw [came, ← changed, List.map_set, ← shown]
    have rows : (race.take turn).store.memory.rows (limit.key identifier) =
        memory.rows (limit.key identifier) := by
      rw [came]
    refine ⟨by rw [came]; exact quiet, left ++ (entrant, next) :: right, ?_, tasks, ?_⟩
    · simpa using listed
    · rw [rows]
      exact tallies.moves moves (overlap.strange_split listed) (between_eq tasks ▸ bound)

/-- The turns of a race keep a contest, with the peak of the race for the most. -/
theorem Contest.play (overlap : Overlap limit before entrants) (turns : List Turn) {race : Race}
    (contest : Contest limit identifier seconds before entrants most race)
    (lasts : race.lasts (limit.key identifier) turns = true) (bound : race.peak turns ≤ most) :
    Contest limit identifier seconds before entrants most (race.play turns) := by
  induction turns generalizing race with
  | nil => exact contest
  | cons turn rest ih =>
    have later : (race.take turn).peak rest ≤ most := Nat.le_trans (Nat.le_max_right ..) bound
    have next : (race.take turn).between ≤ most := by
      refine Nat.le_trans ?_ later
      cases rest with
      | nil => exact Nat.le_refl _
      | cons => exact Nat.le_max_left _ _
    obtain ⟨live, rests⟩ := Bool.and_eq_true_iff.mp lasts
    exact ih (contest.take overlap live next) rests later

/-- Checks that are about to begin are a contest. -/
theorem Contest.start {store : Local} (quiet : store.interference.IsQuiet)
    (entrants : List Entrant) (most : Nat) :
    Contest limit identifier seconds (store.memory.rows (limit.key identifier)) entrants most
      { tasks := entrants.map (Entrant.opening limit identifier seconds), store } := by
  have fresh (test : Progress limit → Bool) (fails : test .fresh = false) :
      tally test (entrants.map fun entrant => (entrant, Progress.fresh)) = 0 := by
    rw [tally, List.countP_map]
    exact List.countP_eq_zero.mpr fun entrant _ => by simp [fails]
  refine ⟨quiet, entrants.map fun entrant => (entrant, .fresh), ?_, ?_, ?_⟩
  · rw [List.map_map]
    exact List.map_id _
  · rw [List.map_map]
    rfl
  · have none := fresh Progress.wins rfl
    refine ⟨?_, fun _ => none, fun room => ?_, .inl (fresh Progress.loses rfl)⟩
    · have empty : heldRows (entrants.map fun entrant => (entrant, (.fresh : Progress limit))) =
          [] := List.length_eq_zero_iff.mp ((heldRows_length _).trans (fresh Progress.holds rfl))
      rw [empty, List.append_nil]
    · rw [none]
      omega

/-- The contestants of a race whose checks have all ended are all at their end. -/
theorem exists_ended {contestants : List (Contestant limit)}
    (shown : race.tasks = contestants.map fun contestant =>
      contestant.1.task limit identifier seconds contestant.2)
    (finished : ∀ task ∈ race.tasks, task.isFinished = true) :
    ∀ contestant ∈ contestants, ∃ count, contestant.2 = .ended count := by
  intro contestant member
  obtain ⟨entrant, progress⟩ := contestant
  have ended := finished (entrant.task limit identifier seconds progress)
    (shown ▸ List.mem_map_of_mem member)
  cases progress with
  | ended count => exact ⟨count, rfl⟩
  | _ => cases ended

/-- Once all have ended, the entries that contestants hold are those of the checks admitted. -/
theorem heldRows_eq {contestants : List (Contestant limit)}
    (shown : race.tasks = contestants.map fun contestant =>
      contestant.1.task limit identifier seconds contestant.2)
    (ended : ∀ contestant ∈ contestants, ∃ count, contestant.2 = .ended count) :
    heldRows contestants = (race.tasks.filter (·.isAdmitted)).map Task.row := by
  rw [shown, List.filter_map, List.map_map, heldRows]
  have same : ∀ contestant ∈ contestants, contestant.2.holds =
      (contestant.1.task limit identifier seconds contestant.2).isAdmitted := by
    intro contestant member
    obtain ⟨count, last⟩ := ended contestant member
    rw [last]
    rfl
  rw [List.filter_congr same]
  rfl

/-- Once all have ended, those who hold an entry are those who found room, and all others found
the window full. -/
theorem tally_ended {contestants : List (Contestant limit)}
    (ended : ∀ contestant ∈ contestants, ∃ count, contestant.2 = .ended count) :
    tally Progress.holds contestants = tally Progress.wins contestants ∧
      contestants.length =
        tally Progress.wins contestants + tally Progress.loses contestants := by
  constructor
  · refine List.countP_congr fun contestant member => ?_
    obtain ⟨count, last⟩ := ended contestant member
    rw [last]
    rfl
  · rw [List.length_eq_countP_add_countP fun contestant : Contestant limit => contestant.2.wins]
    refine congrArg _ (List.countP_congr fun contestant member => ?_)
    obtain ⟨count, last⟩ := ended contestant member
    simp [last, Progress.wins, Progress.loses, Progress.count?]

end Contest

/-- A race of checks before their first command, whose keys are given some lifetime, is bounded:
when the key is full at the start none is admitted; otherwise at least as many are admitted as find
room, and at most one less than were ever between their count and their insertion beyond that; and
at the end the key holds what it held at the start and the entries of those admitted. -/
theorem opening_bounded {limit : Limit} {identifier : String} {seconds : Int}
    {entrants : List Entrant} {store : Local} {turns : List Turn}
    (quiet : store.interference.IsQuiet)
    (overlap : Overlap limit (store.memory.rows (limit.key identifier)) entrants)
    (lasts : Race.lasts (limit.key identifier)
      { tasks := entrants.map (Entrant.opening limit identifier seconds), store } turns = true)
    (finished : ∀ task ∈ (Race.play
      { tasks := entrants.map (Entrant.opening limit identifier seconds), store } turns).tasks,
      task.isFinished = true) :
    let race : Race := { tasks := entrants.map (Entrant.opening limit identifier seconds), store }
    let before := store.memory.rows (limit.key identifier)
    let admitted := (race.play turns).tasks.filter (·.isAdmitted)
    (limit.capacity ≤ before.length → admitted = []) ∧
    (before.length < limit.capacity →
      min (entrants.length : Int) (limit.capacity - before.length) ≤ admitted.length ∧
      (admitted.length : Int) ≤
        min (entrants.length : Int) (limit.capacity - before.length + race.peak turns - 1)) ∧
    ((race.play turns).store.memory.rows (limit.key identifier)).Perm
      (before ++ admitted.map Task.row) := by
  intro race before admitted
  have contest := (Contest.start quiet entrants (race.peak turns)).play overlap turns lasts
    (Nat.le_refl _)
  obtain ⟨_, contestants, listed, shown, tallies⟩ := contest
  have ended := exists_ended shown finished
  have held : heldRows contestants = admitted.map Task.row := heldRows_eq shown ended
  obtain ⟨holders, everyone⟩ := tally_ended ended
  have length : admitted.length = tally Progress.wins contestants := by
    rw [← holders, ← heldRows_length, held, List.length_map]
  have number : contestants.length = entrants.length := by
    rw [← listed, List.length_map]
  have least : tally Progress.loses contestants = 0 ∨
      limit.capacity - before.length ≤ tally Progress.wins contestants := tallies.least
  refine ⟨fun full => ?_, fun room => ?_, held ▸ tallies.rows⟩
  · exact List.length_eq_zero_iff.mp (length.trans (tallies.none full))
  · have most : (tally Progress.wins contestants : Int) ≤
        limit.capacity - before.length + race.peak turns - 1 := tallies.most room
    omega

/-- A check that has ended takes its turn without a command. -/
theorem advance_of_isFinished {task : Task} (ended : task.isFinished = true) (store : Local) :
    task.advance store = (task, [], store) := by
  unfold Task.advance
  unfold Task.isFinished at ended
  cases stage : task.stage with
  | finished outcome => rfl
  | recording left replies =>
    rw [stage] at ended
    cases ended
  | removing count =>
    rw [stage] at ended
    cases ended

/-- A race of checks that have all ended does nothing more to its checks and entries. -/
theorem play_of_finished {race : Race} (ended : ∀ task ∈ race.tasks, task.isFinished = true)
    (turns : List Turn) : (race.play turns).tasks = race.tasks ∧
      ∀ key, (race.play turns).store.memory.rows key = race.store.memory.rows key := by
  induction turns generalizing race with
  | nil => exact ⟨rfl, fun _ => rfl⟩
  | cons turn rest ih =>
    have taken : (race.take turn).tasks = race.tasks ∧
        ∀ key, (race.take turn).store.memory.rows key = race.store.memory.rows key := by
      unfold Race.take Race.turn
      cases found : race.tasks[turn.place]? with
      | none => exact ⟨rfl, fun _ => rfl⟩
      | some task =>
        obtain ⟨left, right, whole, set⟩ := exists_split_of_getElem? found
        simp only [advance_of_isFinished (ended task (List.mem_of_getElem? found)), set, ← whole]
        exact ⟨trivial, fun _ => rfl⟩
    obtain ⟨tasks, rows⟩ := taken
    obtain ⟨laterTasks, laterRows⟩ := ih (tasks ▸ ended)
    exact ⟨laterTasks.trans tasks, fun key => (laterRows key).trans (rows key)⟩

/-- Checks of one identifier whose commands interleave in any order. Where the lifetime of their key
is computed: when the key is full at the start none is admitted; otherwise at least as many are
admitted as find room, and at most one less than were ever between their count and their insertion
beyond that; and at the end the key holds what it held at the start and the entries of those
admitted. Where it is not, all checks are admitted at once, and leave the entries as they are. -/
theorem overlapping_checks_bounded (limit : Limit) (identifier : String)
    (entrants : List Entrant) (store : Local) (turns : List Turn)
    (quiet : store.interference.IsQuiet)
    (overlap : Overlap limit (store.memory.rows (limit.key identifier)) entrants)
    (lasts : Race.lasts (limit.key identifier)
      { tasks := entrants.map (Entrant.begun limit identifier), store } turns = true)
    (finished : ∀ task ∈ (Race.play
      { tasks := entrants.map (Entrant.begun limit identifier), store } turns).tasks,
      task.isFinished = true) :
    let race : Race := { tasks := entrants.map (Entrant.begun limit identifier), store }
    let before := store.memory.rows (limit.key identifier)
    let admitted := (race.play turns).tasks.filter (·.isAdmitted)
    let after := (race.play turns).store.memory.rows (limit.key identifier)
    (∀ seconds, limit.ttl = .ok seconds →
      (limit.capacity ≤ before.length → admitted = []) ∧
      (before.length < limit.capacity →
        min (entrants.length : Int) (limit.capacity - before.length) ≤ admitted.length ∧
        (admitted.length : Int) ≤
          min (entrants.length : Int) (limit.capacity - before.length + race.peak turns - 1)) ∧
      after.Perm (before ++ admitted.map Task.row)) ∧
    ∀ failure, limit.ttl = .error failure → admitted = race.tasks ∧ after = before := by
  refine ⟨fun seconds lifetime => ?_, fun failure endless => ?_⟩
  · have same : Entrant.begun limit identifier = Entrant.opening limit identifier seconds :=
      funext fun entrant => entrant.begun_of_ttl limit identifier seconds lifetime
    rw [same] at lasts finished ⊢
    exact opening_bounded quiet overlap lasts finished
  · have ends : ∀ task ∈ entrants.map (Entrant.begun limit identifier),
        task.isFinished = true ∧ task.isAdmitted = true := by
      refine List.forall_mem_map.mpr fun entrant _ => ?_
      have ended := entrant.begun_of_ttl_error limit identifier endless
      simp only [Task.isFinished, Task.isAdmitted, ended]
      exact ⟨trivial, rfl⟩
    obtain ⟨tasks, rows⟩ := @play_of_finished
      { tasks := entrants.map (Entrant.begun limit identifier), store }
      (fun task member => (ends task member).1) turns
    refine ⟨?_, rows _⟩
    rw [tasks]
    exact List.filter_eq_self.mpr fun task member => (ends task member).2

/-- A race of two checks for one place, on a store without keys. -/
def pairRace : Race where
  tasks := [⟨0, 1⟩, ⟨1, 2⟩].map (Entrant.begun .onePerSecond "a")
  store := { memory := Memory.empty (.whole 0) }

/-- Turns in which both checks count before either inserts. -/
def countingFirst : List Turn := [0, 0, 1, 1, 0, 1, 0, 1].map (⟨.whole 0, ·⟩)

/-- When both count first, the bound on how many are admitted is met. -/
theorem countingFirst_meets_bound :
    ((pairRace.play countingFirst).tasks.filter (·.isAdmitted)).length = 2 ∧
      ((((pairRace.play countingFirst).tasks.filter (·.isAdmitted)).length : Nat) : Int) ≤
        min 2 (1 - 0 + pairRace.peak countingFirst - 1) := by
  have overlap : Overlap .onePerSecond []
      [⟨0, 1⟩, ⟨1, 2⟩] := {
    distinct := by decide +kernel
    strange := fun _ member => nomatch member
    near := by decide
    newer := fun _ member => nomatch member }
  have lifetime : Limit.onePerSecond.ttl = .ok 61 :=
    (Limit.ttl_eq_ok_iff _ 61).mpr (by decide +kernel)
  obtain ⟨bounded, -⟩ := overlapping_checks_bounded _ "a" [⟨0, 1⟩, ⟨1, 2⟩]
    { memory := Memory.empty (.whole 0) } countingFirst (fun _ => rfl) overlap
    (by decide +kernel) (by decide +kernel)
  exact ⟨by decide +kernel, ((bounded 61 lifetime).2.1 (by decide)).2⟩

end Turnstile.Limiter
