import OnlineDdl.Plan.Constraint
import OnlineDdl.Proofs.Plan.Building

/-! How the constraints and keys of a plan are taken up again after an interruption. -/

set_option autoImplicit false

namespace OnlineDdl.Stepwise

variable (server : Server)

def unchecked (table name : String) (body : ConstraintBody) (entry : TableEntry) : List Step :=
  if (entry.constraint? name).isSome then []
  else [.alter table (.addConstraint name body true)]

def validation (table name : String) (entry : TableEntry) : List Step :=
  if (entry.constraint? name).any (·.validated) then [] else [.validate table name]

theorem add_not_valid_parts (table name : String) (body : ConstraintBody) (entry : TableEntry) :
    addNotValid (some entry) table name body =
      unchecked table name body entry ++ validation table name entry := by
  rw [addNotValid, Option.bind_some, unchecked, validation]
  cases entry.constraint? name with
  | none => rfl
  | some existing => rfl

theorem unchecked_resumable (t : Table) (c : HeldConstraint) (body : ConstraintBody)
    (free : t.hasConstraint c.name = false)
    (adds : ∀ validated, t.addConstraint server c.name validated body = t.addRule { c with validated }) :
    Resumable server (unchecked t.name c.name body)
      (fun s => s = t ∨ s = t.withConstraint { c with validated := false })
      (t.withConstraint { c with validated := false }) := by
  apply resumable_step server _ (.alter t.name (.addConstraint c.name body true))
  · apply alter_accepted server t
    simp [TableAction.effect, adds, Table.addRule, free]
  · exact alter_whole _ _
  · simp [unchecked, (t.constraint_absent_iff c.name).mpr free]
  · simp [unchecked, Table.constraint_found t { c with validated := false } free]

theorem validation_resumable (t : Table) (c : HeldConstraint) (free : t.hasConstraint c.name = false) :
    Resumable server (validation t.name c.name)
      (fun s => s = t.withConstraint { c with validated := false } ∨
        s = t.withConstraint { c with validated := true })
      (t.withConstraint { c with validated := true }) := by
  apply resumable_step server _ (.validate t.name c.name)
  · rw [← Table.validated_added t { c with validated := false } free]
    apply validate_accepted server (t.withConstraint { c with validated := false })
    simp [Table.hasConstraint, Table.withConstraint]
  · exact validate_whole _ _
  · simp [validation, Table.constraint_found t { c with validated := false } free]
  · simp [validation, Table.constraint_found t { c with validated := true } free]

theorem add_not_valid_resumable (t : Table) (c : HeldConstraint) (body : ConstraintBody)
    (free : t.hasConstraint c.name = false)
    (adds : ∀ validated, t.addConstraint server c.name validated body = t.addRule { c with validated }) :
    Resumable server (fun entry => addNotValid (some entry) t.name c.name body)
      (fun s => (s = t ∨ s = t.withConstraint { c with validated := false }) ∨
        (s = t.withConstraint { c with validated := false } ∨
          s = t.withConstraint { c with validated := true }))
      (t.withConstraint { c with validated := true }) := by
  simp only [add_not_valid_parts]
  apply resumable_append server _ _ _ _ _ _ (unchecked_resumable server t c body free adds)
    (validation_resumable server t c free) (.inl rfl)
  · intro s early
    rcases early with same | same
    · rw [same, validation, validation, (t.constraint_absent_iff c.name).mpr free,
        Table.constraint_found t { c with validated := false } free]
      rfl
    · rw [same]
  · intro s late
    rcases late with same | same
    · simp [same, unchecked, Table.constraint_found t { c with validated := false } free]
    · simp [same, unchecked, Table.constraint_found t { c with validated := true } free]

def attachment (key : Key) (entry : TableEntry) : List Step :=
  if key.condition.isSome || (entry.constraint? key.name).isSome then []
  else [.alter key.table (.addConstraint key.name (.usingIndex key.primary key.name key.deferrable) false)]

theorem add_key_parts (key : Key) (entry : TableEntry) :
    addKey (some entry) key = buildIndex (some entry) key.index ++ attachment key entry := rfl

theorem add_key_known (s : Table) (key : Key) (i : IndexInfo) (c : ConstraintInfo)
    (indexed : s.entry.index? key.name = some i) (valid : i.valid = true)
    (keyed : s.entry.constraint? key.name = some c) : addKey (some s.entry) key = [] := by
  rw [add_key_parts, attachment, keyed, buildIndex, Option.bind_some]
  simp [Key.index, IndexSpec.uniqueOn, indexed, valid]

theorem attachment_resumable (t : Table) (key : Key) (own : key.table = t.name) (whole : key.condition = none)
    (freeIndex : t.hasIndex key.name = false) (freeConstraint : t.hasConstraint key.name = false) :
    Resumable server (attachment key)
      (fun s => s = t.withIndex (key.index.held true) ∨
        s = t.withKey key.name key.columns key.primary key.deferrable)
      (t.withKey key.name key.columns key.primary key.deferrable) := by
  have index : key.index = .uniqueOn key.name t.name key.columns none := by rw [Key.index, own, whole]
  have absent : (t.withIndex (key.index.held true)).entry.constraint? key.name = none :=
    (t.constraint_absent_iff key.name).mpr freeConstraint
  apply resumable_step server _
    (.alter t.name (.addConstraint key.name (.usingIndex key.primary key.name key.deferrable) false))
  · apply alter_accepted server (t.withIndex (key.index.held true))
    rw [index]
    exact t.attach_built key.name key.columns key.primary key.deferrable freeIndex freeConstraint
  · exact alter_whole _ _
  · simp [attachment, whole, absent, own]
  · simp [attachment, Table.key_constraint_found t key.name key.columns key.primary key.deferrable freeConstraint]

theorem add_key_resumable (t : Table) (key : Key) (own : key.table = t.name) (whole : key.condition = none)
    (freeIndex : t.hasIndex key.name = false) (freeConstraint : t.hasConstraint key.name = false) :
    Resumable server (fun entry => addKey (some entry) key)
      (fun s => Building t key.index s ∨
        (s = t.withIndex (key.index.held true) ∨
          s = t.withKey key.name key.columns key.primary key.deferrable))
      (t.withKey key.name key.columns key.primary key.deferrable) := by
  simp only [add_key_parts]
  apply resumable_append server _ _ _ _ _ _ (build_index_resumable server t key.index own freeIndex)
    (attachment_resumable server t key own whole freeIndex freeConstraint) (.inl rfl)
  · intro s building
    cases building <;> rfl
  · intro s late
    rcases late with same | same
    · rw [same, build_index_known t key.index true freeIndex]
      rfl
    · rw [same]
      exact build_index_done _ key.index _
        (t.key_index_found key.name key.columns key.primary key.deferrable freeIndex) rfl

-- A key with a condition stays the index that it is built on.
theorem add_partial_key_resumable (t : Table) (key : Key) (own : key.table = t.name)
    (partly : key.condition.isSome = true) (free : t.hasIndex key.name = false) :
    Resumable server (fun entry => addKey (some entry) key) (Building t key.index)
      (t.withIndex (key.index.held true)) := by
  have plan : (fun entry : TableEntry => addKey (some entry) key) = fun entry => buildIndex (some entry) key.index := by
    funext entry
    rw [add_key_parts, attachment, partly]
    exact List.append_nil _
  rw [plan]
  exact build_index_resumable server t key.index own free

def support (table : String) (columns : List String) (entry : TableEntry) : List Step :=
  if (entry.supportingIndex? columns).isSome then []
  else buildIndex (some entry) (.generated table columns)

theorem add_foreign_key_parts (table name : String) (columns : List String) (reference : Reference)
    (entry : TableEntry) :
    addForeignKey (some entry) table name columns reference =
      support table columns entry ++ addNotValid (some entry) table name (.foreignKey columns reference) := rfl

theorem supporting_index_added (t : Table) (i : HeldIndex) (columns : List String) :
    (t.withIndex i).entry.supportingIndex? columns =
      (t.entry.supportingIndex? columns).or
        (if i.valid && columns.isPrefixOf i.columns then some i.toIndexInfo else none) := by
  simp only [Table.entry, Table.withIndex, TableEntry.supportingIndex?, List.map_append, List.find?_append,
    List.map_cons, List.map_nil, List.find?_singleton]

def supported (t : Table) (columns : List String) : Table :=
  if (t.entry.supportingIndex? columns).isSome then t
  else t.withIndex ((IndexSpec.generated t.name columns).held true)

theorem supported_found (t : Table) (columns : List String) :
    ((supported t columns).entry.supportingIndex? columns).isSome = true := by
  rw [supported]
  split
  · assumption
  · have leads : columns.isPrefixOf columns = true := List.isPrefixOf_iff_prefix.mpr (List.prefix_refl columns)
    simp [supporting_index_added, IndexSpec.held, IndexSpec.generated, IndexSpec.plain, leads]

def Supporting (t : Table) (columns : List String) (s : Table) : Prop :=
  if (t.entry.supportingIndex? columns).isSome then s = t
  else Building t (.generated t.name columns) s

theorem support_resumable (t : Table) (columns : List String)
    (free : t.entry.supportingIndex? columns = none →
      t.hasIndex (IndexSpec.generated t.name columns).name = false) :
    Resumable server (support t.name columns) (Supporting t columns) (supported t columns) := by
  cases known : t.entry.supportingIndex? columns with
  | some i =>
      have idle : support t.name columns t.entry = [] := by rw [support, known]; rfl
      have states : Supporting t columns = (· = t) := by
        funext s
        rw [Supporting, known]
        rfl
      have goal : supported t columns = t := by rw [supported, known]; rfl
      rw [states, goal]
      exact resumable_idle server _ t idle
  | none =>
      have states : Supporting t columns = Building t (.generated t.name columns) := by
        funext s
        rw [Supporting, known]
        rfl
      have goal : supported t columns = t.withIndex ((IndexSpec.generated t.name columns).held true) := by
        rw [supported, known]
        rfl
      rw [states, goal]
      apply resumable_congr server _ _ _ _ (build_index_resumable server t _ rfl (free known))
      intro s building
      cases building with
      | absent => rw [support, known]; rfl
      | halfway =>
          rw [support, supporting_index_added, known]
          rfl
      | built =>
          rw [build_index_known t _ true (free known), ← goal, support, supported_found]
          rfl

theorem supporting_kept (t s : Table) (columns : List String) (state : Supporting t columns s) :
    s.name = t.name ∧ s.constraints = t.constraints ∧ s.columns = t.columns := by
  rw [Supporting] at state
  split at state
  · rw [state]
    exact ⟨rfl, rfl, rfl⟩
  · cases state <;> exact ⟨rfl, rfl, rfl⟩

theorem supporting_started (t : Table) (columns : List String) : Supporting t columns t := by
  rw [Supporting]
  split
  · rfl
  · exact .absent

theorem supported_reached (t : Table) (columns : List String) : Supporting t columns (supported t columns) := by
  rw [Supporting, supported]
  split
  · rfl
  · exact .built

def referenceRule (name : String) (columns : List String) (reference : Reference) : HeldConstraint :=
  ⟨⟨name, .foreignKey, columns, true, none⟩, .reference reference⟩

def checkRule (server : Server) (name expression : String) : HeldConstraint :=
  ⟨⟨name, .check, server.mentioned expression, true, none⟩, .check expression⟩

theorem add_check_resumable (t : Table) (name expression : String) (free : t.hasConstraint name = false) :
    ∃ states, states t ∧ Resumable server (fun entry => addNotValid (some entry) t.name name (.check expression))
      states (t.withConstraint (checkRule server name expression)) :=
  ⟨_, .inl (.inl rfl), add_not_valid_resumable server t (checkRule server name expression) _ free fun _ => rfl⟩

theorem add_foreign_key_resumable (t : Table) (name : String) (columns : List String) (reference : Reference)
    (freeConstraint : t.hasConstraint name = false)
    (freeIndex : t.entry.supportingIndex? columns = none →
      t.hasIndex (IndexSpec.generated t.name columns).name = false) :
    ∃ states, states t ∧
      Resumable server (fun entry => addForeignKey (some entry) t.name name columns reference) states
        ((supported t columns).withConstraint (referenceRule name columns reference)) := by
  obtain ⟨named, rules, -⟩ := supporting_kept t _ columns (supported_reached t columns)
  have free : (supported t columns).hasConstraint name = false := by
    rw [Table.hasConstraint, rules]
    exact freeConstraint
  have adding := add_not_valid_resumable server (supported t columns) (referenceRule name columns reference)
    (.foreignKey columns reference) free fun _ => rfl
  rw [named] at adding
  have ahead := support_resumable server t columns freeIndex
  simp only [add_foreign_key_parts]
  refine ⟨_, .inl (supporting_started t columns),
    resumable_append server _ _ _ _ _ _ ahead adding (.inl (.inl rfl)) (fun s early => ?_) fun s late => ?_⟩
  · obtain ⟨-, same, -⟩ := supporting_kept t s columns early
    have looked : s.entry.constraint? = (supported t columns).entry.constraint? := by
      funext other
      rw [Table.entry, TableEntry.constraint?, same, ← rules]
      rfl
    simp only [addNotValid, Option.bind_some, looked]
  · have kept : s.entry.supportingIndex? columns = (supported t columns).entry.supportingIndex? columns := by
      rcases late with (same | same) | (same | same) <;> rw [same] <;> rfl
    rw [support, kept, supported_found]
    rfl

end OnlineDdl.Stepwise
