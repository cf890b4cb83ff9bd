import OnlineDdl.Proofs.Plan.Adding

/-! Primary keys, which clear away the pattern search index that they supersede. -/

set_option autoImplicit false

namespace OnlineDdl.Stepwise

variable (server : Server)

def superseded (columns : List String) (entry : TableEntry) : List Step :=
  (promotedPatternIndex (some entry) columns).toList.map (.dropIndexConcurrently ·.name)

def promoted (t : Table) (columns : List String) : Table :=
  match promotedPatternIndex (some t.entry) columns with
  | none => t
  | some i => t.withoutIndex i.name

theorem promoted_congr (a b : TableEntry) (columns : List String)
    (rules : a.constraintsOn columns (some .unique) = b.constraintsOn columns (some .unique))
    (indexes : ∀ column, a.patternOpsIndex? column = b.patternOpsIndex? column) :
    promotedPatternIndex (some a) columns = promotedPatternIndex (some b) columns := by
  cases columns with
  | nil => rfl
  | cons column others =>
      cases others with
      | nil => rw [promotedPatternIndex, promotedPatternIndex, rules, indexes column]
      | cons _ _ => rfl

theorem promoted_single (entry : TableEntry) (columns : List String) (i : IndexInfo)
    (chosen : promotedPatternIndex (some entry) columns = some i) : columns.length = 1 := by
  cases columns with
  | nil => cases chosen
  | cons column others =>
      cases others with
      | nil => rfl
      | cons _ _ => cases chosen

theorem promoted_pattern (t : Table) (columns : List String) (i : IndexInfo)
    (chosen : promotedPatternIndex (some t.entry) columns = some i) :
    i ∈ t.entry.indexes ∧ i.isPatternOps = true ∧ i.columns = columns := by
  cases columns with
  | nil => cases chosen
  | cons column others =>
      cases others with
      | nil =>
          rw [promotedPatternIndex] at chosen
          split at chosen
          · cases chosen
          · have fits := List.find?_some chosen
            rw [Bool.and_eq_true, beq_iff_eq] at fits
            exact ⟨List.mem_of_find?_eq_some chosen, fits⟩
      | cons _ _ => cases chosen

theorem promoted_present (t : Table) (columns : List String) (i : IndexInfo)
    (chosen : promotedPatternIndex (some t.entry) columns = some i) : t.hasIndex i.name = true := by
  obtain ⟨member, -, -⟩ := promoted_pattern t columns i chosen
  obtain ⟨held, inside, rfl⟩ := List.mem_map.mp member
  exact List.any_eq_true.mpr ⟨held, inside, beq_self_eq_true _⟩

theorem superseded_runs (t : Table) (columns : List String) :
    t.runStrictly server (superseded columns t.entry) = some (promoted t columns) := by
  rw [superseded, promoted]
  cases chosen : promotedPatternIndex (some t.entry) columns with
  | none => rfl
  | some i =>
      have accepted := drop_index_accepted server t i.name (promoted_present t columns i chosen)
      exact strict_run_next server t _ _ [] accepted

def patternIndexes (t : Table) (columns : List String) : List HeldIndex :=
  t.indexes.filter fun i => i.isPatternOps && i.columns == columns

def LonePattern (t : Table) (columns : List String) : Prop :=
  columns.length = 1 → (patternIndexes t columns).length ≤ 1

theorem pattern_index_member (t : Table) (columns : List String) (i : HeldIndex) (member : i ∈ t.indexes)
    (pattern : i.isPatternOps = true) (on : i.columns = columns) : i ∈ patternIndexes t columns := by
  apply List.mem_filter.mpr
  simp [member, pattern, on]

theorem lone_pattern_same (t : Table) (columns : List String) (a b : HeldIndex) (lone : LonePattern t columns)
    (single : columns.length = 1) (first : a ∈ patternIndexes t columns)
    (second : b ∈ patternIndexes t columns) : a = b := by
  have few := lone single
  cases listed : patternIndexes t columns with
  | nil =>
      rw [listed] at first
      cases first
  | cons head tail =>
      rw [listed] at few first second
      have alone : tail = [] := List.length_eq_zero_iff.mp (by simpa using few)
      rw [alone] at first second
      exact (List.mem_singleton.mp first).trans (List.mem_singleton.mp second).symm

theorem lone_pattern_dropped (t : Table) (columns : List String) (i : IndexInfo) (lone : LonePattern t columns)
    (chosen : promotedPatternIndex (some t.entry) columns = some i) :
    promotedPatternIndex (some (t.withoutIndex i.name).entry) columns = none := by
  have single := promoted_single t.entry columns i chosen
  cases again : promotedPatternIndex (some (t.withoutIndex i.name).entry) columns with
  | none => rfl
  | some j =>
      obtain ⟨member, pattern, on⟩ := promoted_pattern t columns i chosen
      obtain ⟨held, inside, rfl⟩ := List.mem_map.mp member
      obtain ⟨kept, otherPattern, otherOn⟩ := promoted_pattern _ columns j again
      obtain ⟨other, remaining, rfl⟩ := List.mem_map.mp kept
      obtain ⟨elsewhere, differs⟩ := List.mem_filter.mp remaining
      have same := lone_pattern_same t columns held other lone single
        (pattern_index_member t columns held inside pattern on)
        (pattern_index_member t columns other elsewhere otherPattern otherOn)
      rw [same] at differs
      simp at differs

theorem superseded_resumable (t : Table) (columns : List String) (lone : LonePattern t columns) :
    Resumable server (superseded columns) (fun s => s = t ∨ s = promoted t columns) (promoted t columns) := by
  cases chosen : promotedPatternIndex (some t.entry) columns with
  | none =>
      have goal : promoted t columns = t := by rw [promoted, chosen]
      simp only [goal, or_self]
      exact resumable_idle server _ t (by rw [superseded, chosen]; rfl)
  | some i =>
      have goal : promoted t columns = t.withoutIndex i.name := by rw [promoted, chosen]
      rw [goal]
      apply resumable_step server _ (.dropIndexConcurrently i.name)
      · exact drop_index_accepted server t i.name (promoted_present t columns i chosen)
      · exact drop_index_whole i.name
      · rw [superseded, chosen]
        rfl
      · rw [superseded, lone_pattern_dropped t columns i lone chosen]
        rfl

theorem promoted_index_added (t : Table) (i : HeldIndex) (columns : List String) (plain : i.opclasses = []) :
    promotedPatternIndex (some (t.withIndex i).entry) columns = promotedPatternIndex (some t.entry) columns := by
  refine promoted_congr _ _ columns rfl fun column => ?_
  have ordinary : i.toIndexInfo.isPatternOps = false := by simp [IndexInfo.isPatternOps, plain]
  simp [TableEntry.patternOpsIndex?, Table.entry, Table.withIndex, List.find?_append, ordinary]

-- Neither the key nor its index counts as a reason for or a target of the clearance.
theorem promoted_key_added (t : Table) (name : String) (columns : List String) :
    promotedPatternIndex (some (t.withKey name columns true none).entry) columns =
      promotedPatternIndex (some t.entry) columns := by
  rw [← promoted_index_added t (Table.keyIndex name columns true) columns rfl]
  apply promoted_congr _ _ columns
  · simp [TableEntry.constraintsOn, Table.entry, Table.withKey, Table.withConstraint, Table.withIndex,
      Table.withNotNull, Table.keyConstraint]
  · intro column
    rfl

theorem lone_pattern_key_added (t : Table) (name : String) (columns : List String) (lone : LonePattern t columns) :
    LonePattern (t.withKey name columns true none) columns := by
  have ordinary : (Table.keyIndex name columns true).toIndexInfo.isPatternOps = false := rfl
  simpa [LonePattern, patternIndexes, Table.withKey, Table.withConstraint, Table.withIndex,
    Table.withNotNull, ordinary] using lone

theorem key_known (t : Table) (name : String) (columns : List String) (freeIndex : t.hasIndex name = false)
    (freeConstraint : t.hasConstraint name = false) :
    addKey (some (t.withKey name columns true none).entry) (.primaryKey t.name name columns) = [] :=
  add_key_known _ (.primaryKey t.name name columns) _ _ (Table.key_index_found t name columns true none freeIndex) rfl
    (Table.key_constraint_found t name columns true none freeConstraint)

theorem key_known_promoted (t : Table) (name : String) (columns : List String)
    (freeIndex : t.hasIndex name = false) (freeConstraint : t.hasConstraint name = false) :
    addKey (some (promoted (t.withKey name columns true none) columns).entry)
      (.primaryKey t.name name columns) = [] := by
  have index := Table.key_index_found t name columns true none freeIndex
  have rule := Table.key_constraint_found t name columns true none freeConstraint
  rw [promoted]
  cases chosen : promotedPatternIndex (some (t.withKey name columns true none).entry) columns with
  | none => exact key_known t name columns freeIndex freeConstraint
  | some i =>
      rw [promoted_key_added] at chosen
      have present := promoted_present t columns i chosen
      have other : i.name ≠ name := by
        intro same
        rw [same, freeIndex] at present
        cases present
      exact add_key_known _ (.primaryKey t.name name columns) _ _ ((Table.index_kept _ i.name name other).trans index)
        rfl rule

theorem primary_key_runs (t : Table) (name : String) (columns : List String) (freeIndex : t.hasIndex name = false)
    (freeConstraint : t.hasConstraint name = false) :
    t.runStrictly server (addKey (some t.entry) (.primaryKey t.name name columns) ++ superseded columns t.entry) =
      some (promoted (t.withKey name columns true none) columns) := by
  have keyed := (add_key_resumable server t (.primaryKey t.name name columns) rfl rfl freeIndex
    freeConstraint).finishes t (.inl .absent)
  have clears := superseded_runs server (t.withKey name columns true none) columns
  rw [superseded, promoted_key_added] at clears
  rw [Table.runStrictly] at keyed ⊢
  rw [Table.run_append, keyed]
  exact clears

theorem primary_key_resumable (t : Table) (name : String) (columns : List String)
    (freeIndex : t.hasIndex name = false) (freeConstraint : t.hasConstraint name = false)
    (lone : LonePattern t columns) :
    ∃ states, states t ∧
      Resumable server
        (fun entry => addKey (some entry) (.primaryKey t.name name columns) ++ superseded columns entry) states
        (promoted (t.withKey name columns true none) columns) := by
  have ahead := add_key_resumable server t (.primaryKey t.name name columns) rfl rfl freeIndex freeConstraint
  have clears := superseded_resumable server (t.withKey name columns true none) columns
    (lone_pattern_key_added t name columns lone)
  refine ⟨_, .inl (.inl .absent),
    resumable_append server _ _ _ _ _ _ ahead clears (.inl rfl) (fun s early => ?_) fun s late => ?_⟩
  · have kept : promotedPatternIndex (some s.entry) columns = promotedPatternIndex (some t.entry) columns := by
      rcases early with building | same | same
      · cases building with
        | absent => rfl
        | halfway => exact promoted_index_added t _ columns rfl
        | built => exact promoted_index_added t _ columns rfl
      · rw [same]
        exact promoted_index_added t _ columns rfl
      · rw [same]
        exact promoted_key_added t name columns
    have after := promoted_key_added t name columns
    change superseded columns s.entry = superseded columns (t.withKey name columns true none).entry
    rw [superseded, superseded, kept, after]
  · rcases late with same | same
    · rw [same]
      exact key_known t name columns freeIndex freeConstraint
    · rw [same]
      exact key_known_promoted t name columns freeIndex freeConstraint

end OnlineDdl.Stepwise
