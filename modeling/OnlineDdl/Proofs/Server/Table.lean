import OnlineDdl.Change.Requested

/-! A table as the server holds it, and the catalog as a view of it. -/

set_option autoImplicit false

namespace OnlineDdl

inductive Demand where
  | check (expression : String)
  | key (deferrable : Option Deferrable)
  | reference (target : Reference)
  | exclude (expression : String)
deriving DecidableEq, Repr

structure HeldConstraint extends ConstraintInfo where
  demand : Demand
deriving DecidableEq, Repr

structure HeldIndex extends IndexInfo where
  method : IndexMethod
  condition : Option String
deriving DecidableEq, Repr

def IndexSpec.held (index : IndexSpec) (valid : Bool) : HeldIndex :=
  { name := index.name
    columns := index.columns
    opclasses := index.opclasses
    unique := index.unique
    primary := false
    valid
    partitioned := false
    constraint := none
    method := index.method.getD .btree
    condition := index.condition }

structure Table where
  name : String
  constraints : List HeldConstraint
  indexes : List HeldIndex
  columns : List ColumnInfo
deriving DecidableEq, Repr

namespace Table

def entry (t : Table) : TableEntry :=
  ⟨t.constraints.map (·.toConstraintInfo), t.indexes.map (·.toIndexInfo), t.columns⟩

def hasConstraint (t : Table) (name : String) : Bool := t.constraints.any (·.name == name)

def hasIndex (t : Table) (name : String) : Bool := t.indexes.any (·.name == name)

def hasColumn (t : Table) (name : String) : Bool := t.columns.any (·.name == name)

def withConstraint (t : Table) (c : HeldConstraint) : Table :=
  { t with constraints := t.constraints ++ [c] }

def withIndex (t : Table) (i : HeldIndex) : Table := { t with indexes := t.indexes ++ [i] }

def withoutIndex (t : Table) (name : String) : Table :=
  { t with indexes := t.indexes.filter (·.name != name) }

-- The index behind a constraint goes with it.
def withoutConstraint (t : Table) (name : String) : Table :=
  { t with
    constraints := t.constraints.filter (·.name != name)
    indexes := t.indexes.filter (·.constraint != some name) }

def withValidated (t : Table) (name : String) : Table :=
  { t with
    constraints := t.constraints.map fun c => if c.name == name then { c with validated := true } else c }

def withNotNull (t : Table) (columns : List String) (notNull : Bool) : Table :=
  { t with columns := t.columns.map fun c => if columns.contains c.name then { c with notNull } else c }

def keyConstraint (name : String) (columns : List String) (primary : Bool)
    (deferrable : Option Deferrable) : HeldConstraint :=
  ⟨⟨name, if primary then .primaryKey else .unique, columns, true, some name⟩, .key deferrable⟩

def keyIndex (name : String) (columns : List String) (primary : Bool) : HeldIndex :=
  ⟨⟨name, columns, [], true, primary, true, false, some name⟩, .btree, none⟩

-- The columns of a primary key admit no nulls.
def withKey (t : Table) (name : String) (columns : List String) (primary : Bool)
    (deferrable : Option Deferrable) : Table :=
  let keyed := (t.withIndex (keyIndex name columns primary)).withConstraint
    (keyConstraint name columns primary deferrable)
  if primary then keyed.withNotNull columns true else keyed

theorem index_absent_iff (t : Table) (name : String) :
    t.entry.index? name = none ↔ t.hasIndex name = false := by
  simp [entry, TableEntry.index?, hasIndex]

theorem constraint_absent_iff (t : Table) (name : String) :
    t.entry.constraint? name = none ↔ t.hasConstraint name = false := by
  simp [entry, TableEntry.constraint?, hasConstraint]

theorem index_added (t : Table) (i : HeldIndex) (name : String) :
    (t.withIndex i).entry.index? name =
      (t.entry.index? name).or (if i.name = name then some i.toIndexInfo else none) := by
  simp only [entry, withIndex, TableEntry.index?, List.map_append, List.find?_append, List.map_cons,
    List.map_nil, List.find?_singleton, beq_iff_eq]

theorem constraint_added (t : Table) (c : HeldConstraint) (name : String) :
    (t.withConstraint c).entry.constraint? name =
      (t.entry.constraint? name).or (if c.name = name then some c.toConstraintInfo else none) := by
  simp only [entry, withConstraint, TableEntry.constraint?, List.map_append, List.find?_append,
    List.map_cons, List.map_nil, List.find?_singleton, beq_iff_eq]

theorem update_absent {α : Type} (nameOf : α → String) (update : α → α) (name : String) (items : List α)
    (absent : items.any (fun a => nameOf a == name) = false) :
    items.map (fun a => if nameOf a == name then update a else a) = items := by
  induction items with
  | nil => rfl
  | cons head tail ih =>
      rw [List.any_cons, Bool.or_eq_false_iff] at absent
      rw [List.map_cons, ih absent.2, absent.1]
      rfl

theorem sole_removed {α β : Type} (view : α → β) (nameOf : β → String) (chosen : β → Bool) (items : List α)
    (only : β) (sole : (items.map view).filter chosen = [only]) :
    ((items.filter fun a => nameOf (view a) != nameOf only).map view).filter chosen = [] := by
  rw [List.filter_eq_nil_iff]
  intro b member picked
  obtain ⟨a, kept, rfl⟩ := List.mem_map.mp member
  obtain ⟨inside, differs⟩ := List.mem_filter.mp kept
  have found : view a ∈ (items.map view).filter chosen :=
    List.mem_filter.mpr ⟨List.mem_map_of_mem inside, picked⟩
  rw [sole, List.mem_singleton] at found
  simp [found] at differs

theorem without_absent_index (t : Table) (name : String) (free : t.hasIndex name = false) :
    t.withoutIndex name = t := by
  have kept : t.indexes.filter (·.name != name) = t.indexes := by
    apply List.filter_eq_self.mpr
    intro i member
    rw [hasIndex, List.any_eq_false] at free
    simpa using free i member
  rw [withoutIndex, kept]

theorem without_added_index (t : Table) (i : HeldIndex) (free : t.hasIndex i.name = false) :
    (t.withIndex i).withoutIndex i.name = t := by
  have kept := congrArg Table.indexes (without_absent_index t i.name free)
  simp only [withoutIndex] at kept
  simp [withIndex, withoutIndex, kept]

theorem validated_added (t : Table) (c : HeldConstraint) (free : t.hasConstraint c.name = false) :
    (t.withConstraint c).withValidated c.name = t.withConstraint { c with validated := true } := by
  have kept := update_absent (fun d : HeldConstraint => d.name) (fun d => { d with validated := true })
    c.name t.constraints free
  simp only [withConstraint, withValidated, List.map_append, kept, List.map_cons, List.map_nil,
    beq_self_eq_true, if_true]

theorem constraint_found (t : Table) (c : HeldConstraint) (free : t.hasConstraint c.name = false) :
    (t.withConstraint c).entry.constraint? c.name = some c.toConstraintInfo := by
  rw [t.constraint_added c c.name, (t.constraint_absent_iff c.name).mpr free]
  simp

theorem key_constraint_found (t : Table) (name : String) (columns : List String) (primary : Bool)
    (deferrable : Option Deferrable) (free : t.hasConstraint name = false) :
    (t.withKey name columns primary deferrable).entry.constraint? name =
      some (keyConstraint name columns primary deferrable).toConstraintInfo := by
  have found := constraint_found t (keyConstraint name columns primary deferrable) free
  cases primary <;> exact found

theorem key_index_found (t : Table) (name : String) (columns : List String) (primary : Bool)
    (deferrable : Option Deferrable) (free : t.hasIndex name = false) :
    (t.withKey name columns primary deferrable).entry.index? name =
      some (keyIndex name columns primary).toIndexInfo := by
  have found : (t.withIndex (keyIndex name columns primary)).entry.index? name =
      some (keyIndex name columns primary).toIndexInfo := by
    rw [index_added, (t.index_absent_iff name).mpr free]
    simp [keyIndex]
  cases primary <;> exact found

theorem constraint_present (t : Table) (name : String) (existing : ConstraintInfo)
    (known : t.entry.constraint? name = some existing) : t.hasConstraint name = true := by
  rw [← Bool.not_eq_false, ← constraint_absent_iff, known]
  simp

theorem constraint_validated (t : Table) (name : String) (existing : ConstraintInfo)
    (known : t.entry.constraint? name = some existing) :
    (t.withValidated name).entry.constraint? name = some { existing with validated := true } := by
  obtain ⟨held, found, rfl⟩ : ∃ c : HeldConstraint, t.constraints.find? (·.name == name) = some c ∧
      c.toConstraintInfo = existing := by
    rw [entry, TableEntry.constraint?, List.find?_map, Option.map_eq_some_iff] at known
    exact known
  have named : held.name = name := by simpa using List.find?_some found
  have updated : (t.withValidated name).constraints.find? (·.name == name) =
      some { held with validated := true } := by
    rw [withValidated, List.find?_map]
    have unchanged : ((·.name == name) ∘ fun c : HeldConstraint =>
        if c.name == name then { c with validated := true } else c) = (·.name == name) := by
      funext c
      by_cases same : c.name = name <;> simp [same]
    rw [unchanged, found, Option.map_some, named, beq_self_eq_true, if_pos rfl]
  rw [entry, TableEntry.constraint?, List.find?_map]
  exact congrArg (Option.map (·.toConstraintInfo)) updated

theorem marked_twice (t : Table) (columns : List String) :
    (t.withNotNull columns true).withNotNull columns true = t.withNotNull columns true := by
  simp only [withNotNull, List.map_map]
  congr 1
  apply List.map_congr_left
  intro c member
  by_cases marked : c.name ∈ columns <;> simp [marked]

theorem marked_column (t : Table) (column : String) (present : t.hasColumn column = true) :
    ((t.withNotNull [column] true).entry.column? column).any (·.notNull) = true := by
  have kept : ((·.name == column) ∘ fun c : ColumnInfo =>
      if [column].contains c.name then { c with notNull := true } else c) = (·.name == column) := by
    funext c
    by_cases same : c.name = column <;> simp [same]
  rw [entry, TableEntry.column?, withNotNull, List.find?_map, kept]
  cases found : t.columns.find? (·.name == column) with
  | none =>
      rw [hasColumn, List.any_eq_true] at present
      obtain ⟨c, member, same⟩ := present
      exact absurd same (List.find?_eq_none.mp found c member)
  | some c =>
      have named := List.find?_some found
      simp [beq_iff_eq.mp named]

theorem constraint_dropped (t : Table) (name : String) :
    (t.withoutConstraint name).entry.constraint? name = none := by
  rw [constraint_absent_iff, hasConstraint, List.any_eq_false]
  intro c member
  have differs := (List.mem_filter.mp member).2
  simpa using differs

theorem index_kept (t : Table) (dropped name : String) (other : dropped ≠ name) :
    (t.withoutIndex dropped).entry.index? name = t.entry.index? name := by
  simp only [entry, withoutIndex, TableEntry.index?, List.find?_map, List.find?_filter]
  congr 2
  funext i
  by_cases same : i.name = name
  · simp [same, Ne.symm other]
  · simp [same]

end Table

end OnlineDdl
