/-! Maps from names, as lists of entries in the order in which the names came. -/

set_option autoImplicit false

namespace OnlineDdl.Entries

variable {α : Type}

def put (name : String) (a : α) : List (String × α) → List (String × α)
  | [] => [(name, a)]
  | (key, old) :: rest => if key = name then (key, a) :: rest else (key, old) :: put name a rest

-- Of entries under one name the last one counts.
def gathered (entries : List (String × α)) : List (String × α) :=
  entries.foldl (fun known (name, a) => put name a known) []

theorem mem_put (name : String) (a : α) (entries : List (String × α)) (key : String) :
    key ∈ (put name a entries).map (·.1) ↔ key = name ∨ key ∈ entries.map (·.1) := by
  induction entries with
  | nil => simp [put]
  | cons head rest ih =>
      obtain ⟨other, old⟩ := head
      rw [put]
      by_cases here : other = name
      · simp [here]
      · rw [if_neg here, List.map_cons, List.mem_cons, ih, List.map_cons, List.mem_cons]
        exact or_left_comm

theorem put_distinct (name : String) (a : α) (entries : List (String × α)) (distinct : (entries.map (·.1)).Nodup) :
    ((put name a entries).map (·.1)).Nodup := by
  induction entries with
  | nil => simp [put]
  | cons head rest ih =>
      obtain ⟨key, old⟩ := head
      obtain ⟨fresh, others⟩ := List.nodup_cons.mp distinct
      rw [put]
      by_cases here : key = name
      · simpa [here] using distinct
      · rw [if_neg here, List.map_cons]
        refine List.nodup_cons.mpr ⟨fun again => ?_, ih others⟩
        exact ((mem_put name a rest key).mp again).elim here fresh

theorem put_new (name : String) (a : α) (entries : List (String × α)) (fresh : name ∉ entries.map (·.1)) :
    put name a entries = entries ++ [(name, a)] := by
  induction entries with
  | nil => rfl
  | cons head rest ih =>
      obtain ⟨key, old⟩ := head
      rw [List.map_cons, List.mem_cons, not_or] at fresh
      rw [put, if_neg (Ne.symm fresh.1), ih fresh.2, List.cons_append]

theorem lookup_next (key other : String) (a : α) (rest : List (String × α)) :
    ((other, a) :: rest).lookup key = if key = other then some a else rest.lookup key := by
  rw [List.lookup_cons]
  by_cases same : key = other
  · rw [if_pos same, beq_iff_eq.mpr same]
  · rw [if_neg same, beq_eq_false_iff_ne.mpr same]

theorem lookup_put (name : String) (a : α) (entries : List (String × α)) (key : String) :
    (put name a entries).lookup key = if key = name then some a else entries.lookup key := by
  induction entries with
  | nil => exact lookup_next key name a []
  | cons head rest ih =>
      obtain ⟨other, old⟩ := head
      rw [put]
      by_cases here : other = name
      · rw [if_pos here, lookup_next, lookup_next, here]
        split <;> rfl
      · rw [if_neg here, lookup_next, lookup_next, ih]
        by_cases same : key = name
        · rw [if_pos same, if_pos same, if_neg fun again => here (again.symm.trans same)]
        · rw [if_neg same, if_neg same]

theorem fold_distinct (entries known : List (String × α)) (distinct : (known.map (·.1)).Nodup) :
    ((entries.foldl (fun known (name, a) => put name a known) known).map (·.1)).Nodup := by
  induction entries generalizing known with
  | nil => exact distinct
  | cons head rest ih => exact ih _ (put_distinct head.1 head.2 known distinct)

theorem gathered_distinct (entries : List (String × α)) : ((gathered entries).map (·.1)).Nodup :=
  fold_distinct entries [] .nil

end OnlineDdl.Entries
