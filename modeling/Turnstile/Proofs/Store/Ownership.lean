import Turnstile.Proofs.Store.Command

/-!
# Owners of entries

A store is owned when no key holds two entries of one name and every entry has an owner. Each
command but an insertion only takes entries away, and an insertion puts one in, in place of any of
its name. So a call keeps a store owned, however it fails, when what it inserts has an owner.
-/

namespace Turnstile.Store

namespace Memory

/-- No key holds two entries of one name, and every entry has an owner. -/
structure Owned (owner : String → String × Int → Prop) (memory : Memory) : Prop where
  distinct : ∀ key, ((memory.rows key).map Prod.fst).Nodup
  owned : ∀ key, ∀ row ∈ memory.rows key, owner key row

variable {owner other : String → String × Int → Prop} {memory next : Memory}

/-- An empty memory is owned by anyone. -/
theorem Owned.empty (clock : Time.Seconds) : Owned owner (Memory.empty clock) where
  distinct _ := List.nodup_nil
  owned _ _ member := nomatch member

/-- What is owned is owned in a wider sense. -/
theorem Owned.mono (held : Owned owner memory) (wider : ∀ key row, owner key row → other key row) :
    Owned other memory where
  distinct := held.distinct
  owned key row member := wider key row (held.owned key row member)

/-- Taking entries away keeps a store owned. -/
theorem Owned.of_sublist (held : Owned owner memory)
    (fewer : ∀ key, (next.rows key).Sublist (memory.rows key)) : Owned owner next where
  distinct key := (held.distinct key).sublist ((fewer key).map Prod.fst)
  owned key row member := held.owned key row ((fewer key).subset member)

/-- What is owned stays owned as the clock moves. -/
theorem Owned.setClock (held : Owned owner memory) (clock : Time.Seconds) :
    Owned owner (memory.setClock clock) := ⟨held.distinct, held.owned⟩

/-- An insertion of an owned entry keeps a store owned. -/
theorem Owned.add (held : Owned owner memory) {key entry : String} {score : Int}
    (brought : owner key (entry, score)) : Owned owner (memory.add key entry score) := by
  have fewer := memory.others_sublist_rows key entry
  constructor
  · intro name
    rw [add_rows]
    split
    · have others := (held.distinct key).sublist (fewer.map Prod.fst)
      rw [List.map_append, List.nodup_append]
      refine ⟨others, List.nodup_singleton _, ?_⟩
      intro name member last final
      obtain ⟨row, inside, rfl⟩ := List.mem_map.mp member
      obtain rfl := List.mem_singleton.mp final
      have different := (List.mem_filter.mp inside).2
      simpa using different
    · exact held.distinct name
  · intro name row member
    rw [add_rows] at member
    split at member
    · rename_i same
      subst same
      rcases List.mem_append.mp member with before | last
      · exact held.owned _ row (fewer.subset before)
      · obtain rfl := List.mem_singleton.mp last
        exact brought
    · exact held.owned name row member

/-- Taking entries away under one key keeps a store owned. -/
theorem Owned.of_taken (held : Owned owner memory) {key : String} {less : List (String × Int)}
    (rows : ∀ name, next.rows name = if name = key then less else memory.rows name)
    (fewer : less.Sublist (memory.rows key)) : Owned owner next := by
  refine held.of_sublist fun name => ?_
  rw [rows name]
  split
  · rename_i same
    exact same ▸ fewer
  · exact List.Sublist.refl _

/-- A command keeps a store owned when what it inserts has an owner. -/
theorem Owned.command (held : Owned owner memory) {call : Call} (elementary : call.parts? = none)
    (brought : ∀ key entry score, call = .add key entry score → owner key (entry, score)) :
    Owned owner (memory.run call).2 := by
  cases call with
  | purge key bound =>
    exact held.of_taken (memory.purge_rows key · bound) (memory.recent_sublist_rows key bound)
  | count key => exact held.of_taken (memory.count_rows key) (memory.entries_sublist_rows key)
  | add key entry score => exact held.add (brought key entry score rfl)
  | remove key entry =>
    exact held.of_taken (memory.remove_rows key · entry) (memory.others_sublist_rows key entry)
  | expire key seconds =>
    exact held.of_taken (memory.expire_rows key · seconds) (memory.entries_sublist_rows key)
  | delete key => exact held.of_taken (memory.delete_rows key) (List.nil_sublist _)
  | ping => exact held
  | close => exact held
  | record => cases elementary
  | inspect => cases elementary

/-- A removal leaves the entries of the other owners. -/
theorem Owned.remove {key entry : String}
    (held : Owned (fun name row => owner name row ∨ name = key ∧ row.1 = entry) memory) :
    Owned owner (memory.remove key entry) := by
  have rows := fun other => memory.remove_rows key other entry
  have kept := held.of_taken rows (memory.others_sublist_rows key entry)
  refine ⟨kept.distinct, fun name row member => ?_⟩
  obtain owned | ⟨rfl, same⟩ := kept.owned name row member
  · exact owned
  · rw [rows, if_pos rfl] at member
    have other := (List.mem_filter.mp member).2
    rw [same] at other
    simp at other

/-- Distinct owned entries are no more than the owners they are counted against. -/
theorem length_le_of_owned {α : Type} {rows : List (String × Int)} {owners : List α}
    (row : α → String × Int) (distinct : (rows.map Prod.fst).Nodup)
    (owned : ∀ held ∈ rows, ∃ owner ∈ owners, held = row owner) : rows.length ≤ owners.length := by
  have subset : rows ⊆ owners.map row := by
    intro held member
    obtain ⟨owner, listed, rfl⟩ := owned held member
    exact List.mem_map_of_mem listed
  calc
    rows.length ≤ (owners.map row).length :=
      (List.subperm_of_subset (List.Nodup.of_map _ distinct) subset).length_le
    _ = owners.length := List.length_map ..

end Memory

end Turnstile.Store
