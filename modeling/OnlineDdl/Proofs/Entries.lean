import Mathlib.Data.List.Induction
import OnlineDdl.Entries

/-! What a map from names holds: each entry under its own name, and of repeated ones the last, in the place of
the first. -/

set_option autoImplicit false

namespace OnlineDdl.Entries

variable {α : Type}

theorem gathered_append (entries : List (String × α)) (name : String) (a : α) :
    gathered (entries ++ [(name, a)]) = put name a (gathered entries) := by
  rw [gathered, List.foldl_append, gathered, List.foldl_cons, List.foldl_nil]

theorem gathered_same (entries : List (String × α)) (distinct : (entries.map (·.1)).Nodup) :
    gathered entries = entries := by
  induction entries using List.reverseRecOn with
  | nil => rfl
  | append_singleton entries last ih =>
      obtain ⟨name, a⟩ := last
      rw [List.map_append, List.map_singleton, List.nodup_append] at distinct
      obtain ⟨others, -, apart⟩ := distinct
      rw [gathered_append, ih others,
        put_new name a entries fun again => apart name again name (List.mem_singleton_self name) rfl]

theorem lookup_gathered (entries : List (String × α)) (key : String) :
    (gathered entries).lookup key = ((entries.filter (·.1 == key)).map (·.2)).getLast? := by
  induction entries using List.reverseRecOn with
  | nil => rfl
  | append_singleton entries last ih =>
      obtain ⟨name, a⟩ := last
      rw [gathered_append, lookup_put, ih, List.filter_append, List.map_append]
      by_cases here : key = name
      · simp [here]
      · simp [here, Ne.symm here]

theorem lookup_listed (entries : List (String × α)) (distinct : (entries.map (·.1)).Nodup) (key : String) (a : α)
    (listed : (key, a) ∈ entries) : entries.lookup key = some a := by
  induction entries with
  | nil => cases listed
  | cons head rest ih =>
      rw [List.map_cons, List.nodup_cons] at distinct
      obtain ⟨fresh, others⟩ := distinct
      rw [lookup_next]
      rcases List.mem_cons.mp listed with rfl | later
      · exact if_pos rfl
      · have other : key ≠ head.1 := fun same => fresh (same ▸ List.mem_map_of_mem later)
        rw [if_neg other, ih others later]

theorem lookup_number (entries : List (String × α)) (distinct : (entries.map (·.1)).Nodup) (n : Nat) :
    entries[n]?.map (·.2) = (entries.map (·.1))[n]?.bind fun key => entries.lookup key := by
  rw [List.getElem?_map]
  cases found : entries[n]? with
  | none => rfl
  | some entry =>
      exact (lookup_listed entries distinct entry.1 entry.2 (List.mem_of_getElem? found)).symm

theorem put_map {β : Type} (f : α → β) (name : String) (a : α) (entries : List (String × α)) :
    (put name a entries).map (fun (key, a) => (key, f a)) =
      put name (f a) (entries.map fun (key, a) => (key, f a)) := by
  induction entries with
  | nil => rfl
  | cons head rest ih =>
      obtain ⟨key, old⟩ := head
      rw [put, List.map_cons, put]
      split
      · rfl
      · rw [List.map_cons, ih]

theorem gathered_map {β : Type} (f : α → β) (entries : List (String × α)) :
    (gathered entries).map (fun (key, a) => (key, f a)) = gathered (entries.map fun (key, a) => (key, f a)) := by
  induction entries using List.reverseRecOn with
  | nil => rfl
  | append_singleton entries last ih =>
      obtain ⟨name, a⟩ := last
      rw [gathered_append, put_map, ih, List.map_append, List.map_singleton, gathered_append]

end OnlineDdl.Entries
