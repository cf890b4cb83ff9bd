import OnlineDdl.Plan.Stepwise
import OnlineDdl.Proofs.Outcome
import OnlineDdl.Proofs.Plan.Adding
import OnlineDdl.Proofs.Plan.Locality

/-! Groups of columns that are changed together: when the stepwise plan ends with what the baseline
ends with. The additions are planned by what was known before the removals. -/

set_option autoImplicit false

namespace OnlineDdl.Stepwise

variable (server : Server)

def groupName (table : String) (kind : TogetherKind) (group : List String) : String :=
  match kind with
  | .unique => uniqueName table none group
  | .index => (IndexSpec.together table group).name

def withGroup (t : Table) (kind : TogetherKind) (group : List String) : Table :=
  match kind with
  | .unique => t.withKey (uniqueName t.name none group) group false none
  | .index => t.withIndex ((IndexSpec.together t.name group).held true)

def hasRoom (t : Table) (kind : TogetherKind) (name : String) : Bool :=
  match kind with
  | .unique => !(t.hasConstraint name || t.hasIndex name)
  | .index => !t.hasIndex name

def uniqueRules (t : Table) : List (String × List String) :=
  (t.constraints.filter (·.kind == .unique)).map fun c => (c.name, c.columns)

def indexShapes (t : Table) : List (String × List String × Bool) :=
  t.indexes.map fun i => (i.name, i.columns, i.unique)

def SameObjects (a b : Table) : Prop :=
  (∀ rule, rule ∈ uniqueRules a ↔ rule ∈ uniqueRules b) ∧
    ∀ shape, shape ∈ indexShapes a ↔ shape ∈ indexShapes b

def HasGroup (t : Table) (kind : TogetherKind) (group : List String) : Prop :=
  match kind with
  | .unique => (uniqueName t.name none group, group) ∈ uniqueRules t
  | .index => ((IndexSpec.together t.name group).name, group, false) ∈ indexShapes t

-- Whether something that is known under the generated name passes for the addition: a valid index, or
-- a constraint of whatever kind.
def isMistaken (entry : TableEntry) (table : String) (kind : TogetherKind) (group : List String) : Bool :=
  (entry.index? (groupName table kind group)).any (·.valid) ||
    (kind == .unique && (entry.constraint? (groupName table kind group)).isSome)

theorem baseline_addition (t : Table) (kind : TogetherKind) (group : List String) :
    (Baseline.addGroup t.name kind group).change.effect server t =
      if hasRoom t kind (groupName t.name kind group) then some (withGroup t kind group) else none := by
  cases kind with
  | unique =>
      have room : hasRoom t .unique (groupName t.name .unique group) =
          !(t.hasConstraint (uniqueName t.name none group) || t.hasIndex (uniqueName t.name none group)) := rfl
      rw [room]
      by_cases taken : (t.hasConstraint (uniqueName t.name none group) ||
          t.hasIndex (uniqueName t.name none group)) = true
      · simp [Baseline.addGroup, Step.alter, Step.wrapped, Ddl.effect, TableAction.effect, Table.addConstraint,
          Table.addKey, taken]
      · simp [Baseline.addGroup, Step.alter, Step.wrapped, Ddl.effect, TableAction.effect, Table.addConstraint,
          Table.addKey, taken, withGroup]
  | index =>
      have own : (IndexSpec.together t.name group).table = t.name := rfl
      by_cases taken : t.hasIndex (IndexSpec.together t.name group).name = true
      · simp [Baseline.addGroup, Baseline.createIndex, Step.wrapped, Ddl.effect, hasRoom, groupName,
          Table.createIndex, own, taken]
      · simp [Baseline.addGroup, Baseline.createIndex, Step.wrapped, Ddl.effect, hasRoom, groupName,
          Table.createIndex, own, taken, withGroup]

theorem with_group_name (t : Table) (kind : TogetherKind) (group : List String) :
    (withGroup t kind group).name = t.name := by
  cases kind <;> rfl

-- Without anything known under the name, the index is built; what is left of a build is dropped first,
-- if it is still there.
theorem build_index_runs (t : Table) (entry : TableEntry) (index : IndexSpec) (own : index.table = t.name)
    (free : t.hasIndex index.name = false) (unknown : (entry.index? index.name).any (·.valid) = false) :
    t.run server (buildIndex (some entry) index) = some (t.withIndex (index.held true)) := by
  have creates := run_one server t _ _
    (strict_effect_accepted server _ _ _ (create_index_accepted server t index own free))
  rw [buildIndex, Option.bind_some]
  cases known : entry.index? index.name with
  | none => exact creates
  | some i =>
      have invalid : i.valid = false := by
        rw [known] at unknown
        exact unknown
      have clears : (Step.dropIndexConcurrently index.name).change.effect server t = some t := by
        rw [Step.dropIndexConcurrently, Ddl.effect, t.without_absent_index index.name free]
      rw [Table.run] at creates ⊢
      simp only [invalid, Bool.false_eq_true, if_false]
      rw [Table.runBy, clears]
      exact creates

theorem stepwise_addition (t : Table) (entry : TableEntry) (kind : TogetherKind) (group : List String)
    (room : hasRoom t kind (groupName t.name kind group) = true)
    (seen : isMistaken entry t.name kind group = false) :
    t.run server (addGroup t.name kind (some entry) group) = some (withGroup t kind group) := by
  rw [isMistaken, Bool.or_eq_false_iff] at seen
  cases kind with
  | index =>
      have free : t.hasIndex (IndexSpec.together t.name group).name = false := by
        simpa [hasRoom, groupName] using room
      exact build_index_runs server t entry (.together t.name group) rfl free seen.1
  | unique =>
      let key := Key.unique t.name (uniqueName t.name none group) group
      have free : t.hasConstraint (uniqueName t.name none group) = false ∧
          t.hasIndex (uniqueName t.name none group) = false := by
        simpa [hasRoom, groupName] using room
      have unkeyed : (entry.constraint? key.name).isSome = false := seen.2
      have built := build_index_runs server t entry key.index rfl free.2 seen.1
      have attaches : (t.withIndex (key.index.held true)).run server
          [.alter t.name (.addConstraint key.name (.usingIndex false key.name none) false)] =
            some (t.withKey key.name group false none) := by
        apply run_one server
        apply strict_effect_accepted server
        apply alter_accepted server (t.withIndex (key.index.held true))
        exact t.attach_built key.name group false none free.2 free.1
      change t.run server (addKey (some entry) key) = _
      rw [add_key_parts, attachment, unkeyed]
      rw [Table.run] at built attaches ⊢
      rw [Table.run_append, built]
      exact attaches

theorem baseline_additions_next (t b : Table) (kind : TogetherKind) (group : List String) (rest : List (List String))
    (ran : t.run server ((group :: rest).map (Baseline.addGroup t.name kind)) = some b) :
    hasRoom t kind (groupName t.name kind group) = true ∧
      (withGroup t kind group).run server (rest.map (Baseline.addGroup t.name kind)) = some b := by
  obtain ⟨next, added, later⟩ := Option.bind_eq_some_iff.mp ran
  rw [baseline_addition] at added
  split at added
  · rename_i room
    cases added
    exact ⟨room, later⟩
  · cases added

theorem stepwise_additions (t b : Table) (entry : TableEntry) (kind : TogetherKind) (add : List (List String))
    (ran : t.run server (add.map (Baseline.addGroup t.name kind)) = some b)
    (seen : ∀ group ∈ add, isMistaken entry t.name kind group = false) :
    t.run server (add.flatMap (addGroup t.name kind (some entry))) = some b := by
  induction add generalizing t with
  | nil => exact ran
  | cons group rest ih =>
      obtain ⟨room, later⟩ := baseline_additions_next server t b kind group rest ran
      have added := stepwise_addition server t entry kind group room (seen group List.mem_cons_self)
      have named := with_group_name t kind group
      have others := ih (withGroup t kind group) (by rw [named]; exact later) fun other member => by
        rw [named]
        exact seen other (List.mem_cons_of_mem _ member)
      rw [named] at others
      rw [Table.run] at added others ⊢
      rw [List.flatMap_cons, Table.run_append, added]
      exact others

structure Grown (t b : Table) : Prop where
  name : b.name = t.name
  constraints : ∀ c ∈ t.constraints, c ∈ b.constraints
  indexes : ∀ i ∈ t.indexes, i ∈ b.indexes

theorem group_grown (t : Table) (kind : TogetherKind) (group : List String) : Grown t (withGroup t kind group) := by
  cases kind with
  | unique =>
      refine ⟨rfl, fun c member => ?_, fun i member => ?_⟩
      · exact List.mem_append_left _ member
      · exact List.mem_append_left _ member
  | index => exact ⟨rfl, fun _ member => member, fun _ member => List.mem_append_left _ member⟩

theorem grown_room (t b : Table) (kind : TogetherKind) (name : String) (grown : Grown t b)
    (room : hasRoom b kind name = true) : hasRoom t kind name = true := by
  have constraints : b.hasConstraint name = false → t.hasConstraint name = false := by
    rw [Table.hasConstraint, Table.hasConstraint, List.any_eq_false, List.any_eq_false]
    exact fun free c member => free c (grown.constraints c member)
  have indexes : b.hasIndex name = false → t.hasIndex name = false := by
    rw [Table.hasIndex, Table.hasIndex, List.any_eq_false, List.any_eq_false]
    exact fun free i member => free i (grown.indexes i member)
  cases kind with
  | unique =>
      rw [hasRoom, Bool.not_eq_true', Bool.or_eq_false_iff] at room ⊢
      exact ⟨constraints room.1, indexes room.2⟩
  | index =>
      rw [hasRoom, Bool.not_eq_true'] at room ⊢
      exact indexes room

theorem grown_group (t b : Table) (kind : TogetherKind) (group : List String) (grown : Grown t b)
    (present : HasGroup t kind group) : HasGroup b kind group := by
  cases kind with
  | unique =>
      obtain ⟨c, member, same⟩ := List.mem_map.mp present
      obtain ⟨inside, unique⟩ := List.mem_filter.mp member
      rw [HasGroup, grown.name]
      exact List.mem_map.mpr ⟨c, List.mem_filter.mpr ⟨grown.constraints c inside, unique⟩, same⟩
  | index =>
      obtain ⟨i, member, same⟩ := List.mem_map.mp present
      rw [HasGroup, grown.name]
      exact List.mem_map.mpr ⟨i, grown.indexes i member, same⟩

theorem grown_index (t b : Table) (name : String) (grown : Grown t b) (present : t.hasIndex name = true) :
    b.hasIndex name = true := by
  obtain ⟨i, member, same⟩ := List.any_eq_true.mp present
  exact List.any_eq_true.mpr ⟨i, grown.indexes i member, same⟩

theorem group_present (t : Table) (kind : TogetherKind) (group : List String) :
    HasGroup (withGroup t kind group) kind group ∧
      (withGroup t kind group).hasIndex (groupName t.name kind group) = true := by
  cases kind with
  | unique =>
      refine ⟨?_, ?_⟩
      · simp [HasGroup, withGroup, uniqueRules, Table.withKey, Table.withConstraint, Table.withIndex,
          Table.keyConstraint]
      · simp [withGroup, Table.hasIndex, Table.withKey, Table.withConstraint, Table.withIndex, Table.keyIndex,
          groupName]
  | index =>
      refine ⟨?_, ?_⟩
      · simp [HasGroup, withGroup, indexShapes, Table.withIndex, IndexSpec.held, IndexSpec.together, IndexSpec.plain]
      · simp [withGroup, Table.hasIndex, Table.withIndex, IndexSpec.held, groupName]

theorem baseline_additions (t b : Table) (kind : TogetherKind) (add : List (List String))
    (ran : t.run server (add.map (Baseline.addGroup t.name kind)) = some b) :
    Grown t b ∧ ∀ group ∈ add, hasRoom t kind (groupName t.name kind group) = true ∧ HasGroup b kind group ∧
      b.hasIndex (groupName t.name kind group) = true := by
  induction add generalizing t with
  | nil =>
      cases ran
      refine ⟨⟨rfl, fun _ member => member, fun _ member => member⟩, fun group member => ?_⟩
      cases member
  | cons group rest ih =>
      obtain ⟨room, later⟩ := baseline_additions_next server t b kind group rest ran
      have named := with_group_name t kind group
      obtain ⟨grown, others⟩ := ih (withGroup t kind group) (by rw [named]; exact later)
      rw [named] at others
      have first := group_grown t kind group
      refine ⟨⟨grown.name.trans first.name, fun c member => grown.constraints c (first.constraints c member),
        fun i member => grown.indexes i (first.indexes i member)⟩, fun other member => ?_⟩
      rcases List.mem_cons.mp member with same | inside
      · rw [same]
        obtain ⟨present, indexed⟩ := group_present t kind group
        exact ⟨room, grown_group _ b kind group grown present, grown_index _ b _ grown indexed⟩
      · obtain ⟨free, present, indexed⟩ := others other inside
        exact ⟨grown_room t _ kind _ first free, present, indexed⟩

inductive Part : Step → Prop where
  | create (index : IndexSpec) : Part (.createIndexConcurrently index)
  | drop (name : String) : Part (.dropIndexConcurrently name)
  | attach (table name : String) : Part (.alter table (.addConstraint name (.usingIndex false name none) false))

def builtIndex? (step : Step) : Option String :=
  match step.change with
  | .createIndex index _ => some index.name
  | _ => none

def addedRule? (step : Step) : Option String :=
  match step.change with
  | .alterTable _ (.addConstraint name _ _) => some name
  | _ => none

theorem build_parts (entry : TableEntry) (index : IndexSpec) (step : Step)
    (member : step ∈ buildIndex (some entry) index) :
    Part step ∧ addedRule? step = none ∧
      ∀ name ∈ builtIndex? step, (entry.index? name).any (·.valid) = false := by
  have created (unknown : (entry.index? index.name).any (·.valid) = false) :
      ∀ name ∈ builtIndex? (.createIndexConcurrently index), (entry.index? name).any (·.valid) = false := by
    intro name built
    cases built
    exact unknown
  rw [buildIndex, Option.bind_some] at member
  cases known : entry.index? index.name with
  | none =>
      rw [known] at member
      rw [List.mem_singleton.mp member]
      exact ⟨.create index, rfl, created (by rw [known]; rfl)⟩
  | some i =>
      rw [known] at member
      cases valid : i.valid with
      | true => simp [valid] at member
      | false =>
          simp only [valid, Bool.false_eq_true, if_false, List.mem_cons, List.not_mem_nil, or_false] at member
          rcases member with same | same
          · rw [same]
            refine ⟨.drop index.name, rfl, fun name built => ?_⟩
            cases built
          · rw [same]
            exact ⟨.create index, rfl, created (by rw [known]; exact valid)⟩

theorem addition_parts (table : String) (kind : TogetherKind) (entry : TableEntry) (group : List String) (step : Step)
    (member : step ∈ addGroup table kind (some entry) group) :
    Part step ∧ (∀ name ∈ addedRule? step, entry.constraint? name = none) ∧
      ∀ name ∈ builtIndex? step, (entry.index? name).any (·.valid) = false := by
  cases kind with
  | index =>
      obtain ⟨part, ruleless, unknown⟩ := build_parts entry _ step member
      refine ⟨part, fun name added => ?_, unknown⟩
      rw [ruleless] at added
      cases added
  | unique =>
      rw [addGroup, add_key_parts] at member
      rcases List.mem_append.mp member with built | attached
      · obtain ⟨part, ruleless, unknown⟩ := build_parts entry _ step built
        refine ⟨part, fun name added => ?_, unknown⟩
        rw [ruleless] at added
        cases added
      · rw [attachment] at attached
        split at attached
        · cases attached
        · rename_i unkeyed
          rw [List.mem_singleton.mp attached]
          refine ⟨.attach table _, fun name added => ?_, fun name built => ?_⟩
          · cases added
            simpa [Key.unique] using unkeyed
          · cases built

theorem attached_lacks (u v : Table) (name : String) (accepted : u.attachKey name name false none = some v) :
    (∀ other, u.hasIndex other = false → v.hasIndex other = false) ∧
      ∀ other, name ≠ other → u.hasConstraint other = false → v.hasConstraint other = false := by
  rw [Table.attachKey] at accepted
  split at accepted
  · cases accepted
  · split at accepted
    · cases accepted
    · cases accepted
      refine ⟨fun other free => ?_, fun other different free => ?_⟩
      · rw [Table.hasIndex, List.any_eq_false] at free ⊢
        intro j member
        obtain ⟨i, inside, rfl⟩ := List.mem_map.mp member
        have differs := free i inside
        by_cases same : i.name = name
        · simpa [same] using differs
        · simpa [same] using differs
      · rw [Table.hasConstraint] at free ⊢
        simp [free, Table.keyConstraint, different]

theorem part_lacks (u v : Table) (step : Step) (part : Part step)
    (accepted : step.change.effect server u = some v) :
    (∀ name, name ∉ builtIndex? step → u.hasIndex name = false → v.hasIndex name = false) ∧
      ∀ name, name ∉ addedRule? step → u.hasConstraint name = false → v.hasConstraint name = false := by
  cases part with
  | create index =>
      rw [Step.createIndexConcurrently, Ddl.effect] at accepted
      split at accepted
      · rw [Table.createIndex] at accepted
        split at accepted
        · cases accepted
        · cases accepted
          refine ⟨fun name different free => ?_, fun name _ free => free⟩
          have other : index.name ≠ name := fun same => different (congrArg some same)
          rw [Table.hasIndex] at free ⊢
          simp [Table.withIndex, free, IndexSpec.held, other]
      · cases accepted
        exact ⟨fun _ _ free => free, fun _ _ free => free⟩
  | drop dropped =>
      cases accepted
      refine ⟨fun name _ free => ?_, fun name _ free => free⟩
      rw [Table.hasIndex, List.any_eq_false] at free ⊢
      exact fun i member => free i (List.mem_filter.mp member).1
  | attach table name =>
      rw [Step.alter, Step.wrapped, Ddl.effect] at accepted
      split at accepted
      · obtain ⟨indexes, constraints⟩ := attached_lacks u v name accepted
        refine ⟨fun other _ free => indexes other free, fun other different free => ?_⟩
        exact constraints other (fun same => different (congrArg some same)) free
      · cases accepted
        exact ⟨fun _ _ free => free, fun _ _ free => free⟩

theorem parts_lack (u v : Table) (planned : List Step) (parts : ∀ step ∈ planned, Part step)
    (ran : u.run server planned = some v) :
    (∀ name, (∀ step ∈ planned, name ∉ builtIndex? step) → u.hasIndex name = false → v.hasIndex name = false) ∧
      ∀ name, (∀ step ∈ planned, name ∉ addedRule? step) →
        u.hasConstraint name = false → v.hasConstraint name = false := by
  induction planned generalizing u with
  | nil =>
      cases ran
      exact ⟨fun _ _ free => free, fun _ _ free => free⟩
  | cons step rest ih =>
      obtain ⟨next, accepted, later⟩ := Option.bind_eq_some_iff.mp ran
      obtain ⟨indexes, constraints⟩ := part_lacks server u next step (parts step List.mem_cons_self) accepted
      obtain ⟨laterIndexes, laterConstraints⟩ :=
        ih next (fun other member => parts other (List.mem_cons_of_mem _ member)) later
      refine ⟨fun name unbuilt free => ?_, fun name unadded free => ?_⟩
      · have first := indexes name (unbuilt step List.mem_cons_self) free
        exact laterIndexes name (fun other member => unbuilt other (List.mem_cons_of_mem _ member)) first
      · have first := constraints name (unadded step List.mem_cons_self) free
        exact laterConstraints name (fun other member => unadded other (List.mem_cons_of_mem _ member)) first

theorem removal_alike (table : String) (kind : TogetherKind) (entry : Option TableEntry) (group : List String)
    (baseline : Step) (planned : Baseline.removeGroup table kind entry group = .ok baseline) :
    ∃ stepwise, removeGroup table kind entry group = .ok stepwise ∧
      ∀ u : Table, stepwise.change.effect server u = baseline.change.effect server u ∧
        ∀ v, baseline.change.effect server u = some v → v.name = u.name := by
  cases kind with
  | unique =>
      obtain ⟨c, found, rfl⟩ := (map_ok_iff _ _ _).mp planned
      refine ⟨.dropConstraint table c.name, (map_ok_iff _ _ _).mpr ⟨c, found, rfl⟩,
        fun u => ⟨rfl, fun v dropped => ?_⟩⟩
      rw [Step.dropConstraint, Step.alter, Step.wrapped, Ddl.effect] at dropped
      split at dropped
      · rw [TableAction.effect] at dropped
        split at dropped
        · cases dropped
          rfl
        · cases dropped
      · cases dropped
        rfl
  | index =>
      obtain ⟨i, found, rfl⟩ := (map_ok_iff _ _ _).mp planned
      refine ⟨.dropIndexConcurrently i.name, (map_ok_iff _ _ _).mpr ⟨i, found, rfl⟩,
        fun u => ⟨rfl, fun v dropped => ?_⟩⟩
      cases dropped
      rfl

theorem removals_alike (table : String) (kind : TogetherKind) (entry : Option TableEntry)
    (remove : List (List String)) (base : List Step) (t u : Table)
    (planned : remove.mapM (Baseline.removeGroup table kind entry) = .ok base) (ran : t.run server base = some u) :
    ∃ removals, remove.mapM (removeGroup table kind entry) = .ok removals ∧ t.run server removals = some u ∧
      u.name = t.name := by
  suffices alike : ∃ removals, List.Forall₂ (fun group step => removeGroup table kind entry group = .ok step)
      remove removals ∧ t.run server removals = some u ∧ u.name = t.name by
    obtain ⟨removals, found, same⟩ := alike
    exact ⟨removals, (map_all_ok_iff _ _ _).mpr found, same⟩
  induction (map_all_ok_iff _ _ _).mp planned generalizing t with
  | nil =>
      cases ran
      exact ⟨[], .nil, rfl, rfl⟩
  | @cons group step rest others first later ih =>
      obtain ⟨next, dropped, ending⟩ := Option.bind_eq_some_iff.mp ran
      obtain ⟨stepwise, found, same⟩ := removal_alike server table kind entry group step first
      obtain ⟨removals, foundLater, ranLater, named⟩ := ih next ((map_all_ok_iff _ _ _).mpr later) ending
      refine ⟨stepwise :: removals, .cons found foundLater, ?_, named.trans ((same t).2 next dropped)⟩
      exact Option.bind_eq_some_iff.mpr ⟨next, (same t).1.trans dropped, ranLater⟩

-- A mistaken group is left without its index, or without its constraint.
theorem mistaken_lost (u b s : Table) (entry : TableEntry) (kind : TogetherKind) (add : List (List String))
    (group : List String) (member : group ∈ add)
    (ran : u.run server (add.map (Baseline.addGroup u.name kind)) = some b)
    (mistaken : isMistaken entry u.name kind group = true)
    (reached : u.run server (add.flatMap (addGroup u.name kind (some entry))) = some s) : ¬ SameObjects s b := by
  intro same
  obtain ⟨grown, additions⟩ := baseline_additions server u b kind add ran
  obtain ⟨room, present, indexed⟩ := additions group member
  have parts (step : Step) (inside : step ∈ add.flatMap (addGroup u.name kind (some entry))) :=
    (List.mem_flatMap.mp inside).elim fun other found => addition_parts u.name kind entry other step found.2
  obtain ⟨indexes, constraints⟩ := parts_lack server u s _ (fun step inside => (parts step inside).1) reached
  rw [isMistaken, Bool.or_eq_true] at mistaken
  rcases mistaken with valid | known
  · have free : u.hasIndex (groupName u.name kind group) = false := by
      cases kind with
      | unique =>
          rw [hasRoom, Bool.not_eq_true', Bool.or_eq_false_iff] at room
          exact room.2
      | index => exact Bool.not_eq_true' _ ▸ room
    have lost := indexes (groupName u.name kind group) (fun step inside built => by
      rw [(parts step inside).2.2 _ built] at valid
      cases valid) free
    obtain ⟨i, held, named⟩ := List.any_eq_true.mp indexed
    have shape : (i.name, i.columns, i.unique) ∈ indexShapes s :=
      (same.2 _).mpr (List.mem_map.mpr ⟨i, held, rfl⟩)
    obtain ⟨j, kept, alike⟩ := List.mem_map.mp shape
    rw [Table.hasIndex, List.any_eq_false] at lost
    exact lost j kept (by rw [(Prod.mk.inj alike).1]; exact named)
  · cases kind with
    | index => simp at known
    | unique =>
        rw [hasRoom, Bool.not_eq_true', Bool.or_eq_false_iff] at room
        have lost := constraints (groupName u.name .unique group) (fun step inside added => by
          rw [(parts step inside).2.1 _ added] at known
          simp at known) room.1
        have rule := (same.1 _).mpr present
        obtain ⟨c, kept, alike⟩ := List.mem_map.mp rule
        rw [Table.hasConstraint, List.any_eq_false] at lost
        refine lost c (List.mem_filter.mp kept).1 ?_
        rw [(Prod.mk.inj alike).1, grown.name]
        exact beq_self_eq_true _

-- Where the baseline runs, the stepwise plan is made too, and it ends with the same objects if and only
-- if nothing known beforehand passes for an addition.
theorem together_plan_agrees_iff (kind : TogetherKind) (add remove : List (List String)) (decision : Decision)
    (caps : ServerCaps) (catalog : Catalog) (t b : Table) (base : List Step)
    (listed : catalog.table? t.name = some t.entry)
    (planned : Baseline.forCatalog (.alterTogether t.name kind add remove) caps catalog = .ok base)
    (ran : t.run server base = some b) :
    ∃ stepwise, forCatalog (.alterTogether t.name kind add remove) decision caps catalog = .ok stepwise ∧
      ((∃ s, t.run server stepwise = some s ∧ SameObjects s b ∧ ∀ group ∈ add, HasGroup s kind group) ↔
        ∀ group ∈ add, isMistaken t.entry t.name kind group = false) := by
  rw [Baseline.for_catalog, Operation.table, listed] at planned
  obtain ⟨dropped, removed, rfl⟩ := (map_ok_iff _ _ _).mp planned
  rw [Table.run, Table.run_append] at ran
  obtain ⟨u, cleared, added⟩ := Option.bind_eq_some_iff.mp ran
  obtain ⟨removals, found, clears, named⟩ :=
    removals_alike server t.name kind _ remove dropped t u removed cleared
  rw [Table.run] at clears
  rw [← named] at added
  refine ⟨removals ++ add.flatMap (addGroup t.name kind (some t.entry)), ?_, fun reached => ?_, fun seen => ?_⟩
  · rw [for_catalog, Operation.table, listed, steps, alterTogether, found]
    rfl
  · obtain ⟨s, finishes, same, -⟩ := reached
    rw [Table.run, Table.run_append, clears, Option.bind_some, ← named] at finishes
    intro group member
    by_contra mistaken
    rw [Bool.not_eq_false, ← named] at mistaken
    exact mistaken_lost server u b s t.entry kind add group member added mistaken finishes same
  · obtain ⟨-, additions⟩ := baseline_additions server u b kind add added
    have builds := stepwise_additions server u b t.entry kind add added (by rw [named]; exact seen)
    refine ⟨b, ?_, ⟨fun _ => Iff.rfl, fun _ => Iff.rfl⟩, fun group member => (additions group member).2.1⟩
    rw [Table.run, Table.run_append, clears, Option.bind_some, ← named]
    exact builds

-- A table whose key on (row, number) came to be one on (row, label) when its column was renamed.
def seats (key : String) : Table :=
  ⟨"seats", [Table.keyConstraint key ["row", "label"] false none], [Table.keyIndex key ["row", "label"] false],
    [⟨"row", "integer", true⟩, ⟨"label", "integer", true⟩, ⟨"number", "integer", true⟩]⟩

theorem seats_generated : uniqueName "seats" none ["row", "number"] = "seats_row_number_5867fd98_uniq" := by
  decide +kernel

-- Under a name of its own the old key gives way to the new one.
theorem renamed_key_replaced :
    let server : Server := ⟨fun _ => [], fun _ => Table.keyIndex "" [] false, fun _ _ _ => ""⟩
    let op := Operation.alterTogether "seats" .unique [["row", "number"]] [["row", "label"]]
    let catalog : Catalog := { tables := [("seats", (seats "seats_uniq").entry)] }
    let decision := judge op .default .default .unknown
    ∃ base b stepwise s, Baseline.forCatalog op .default catalog = .ok base ∧
      (seats "seats_uniq").run server base = some b ∧ forCatalog op decision .default catalog = .ok stepwise ∧
      (seats "seats_uniq").run server stepwise = some s ∧ SameObjects s b ∧ HasGroup s .unique ["row", "number"] := by
  intro server op catalog decision
  have baseline : (seats "seats_uniq").run server
      [.dropConstraint "seats" "seats_uniq", Baseline.addGroup "seats" .unique ["row", "number"]] =
        some (withGroup ((seats "seats_uniq").withoutConstraint "seats_uniq") .unique ["row", "number"]) := rfl
  obtain ⟨stepwise, planned, agrees⟩ := together_plan_agrees_iff server .unique [["row", "number"]]
    [["row", "label"]] decision .default catalog (seats "seats_uniq") _ _ rfl rfl baseline
  have seen : isMistaken (seats "seats_uniq").entry "seats" .unique ["row", "number"] = false := by
    rw [isMistaken, groupName, seats_generated]
    decide
  obtain ⟨s, reached, same, present⟩ := agrees.mpr fun group member => List.mem_singleton.mp member ▸ seen
  exact ⟨_, _, stepwise, s, rfl, baseline, planned, reached, same, present _ List.mem_cons_self⟩

-- Under the generated name it passes for the new key, and goes without a successor.
theorem renamed_key_lost :
    let server : Server := ⟨fun _ => [], fun _ => Table.keyIndex "" [] false, fun _ _ _ => ""⟩
    let op := Operation.alterTogether "seats" .unique [["row", "number"]] [["row", "label"]]
    let t := seats "seats_row_number_5867fd98_uniq"
    let catalog : Catalog := { tables := [("seats", t.entry)] }
    let decision := judge op .default .default .unknown
    ∃ base b stepwise s, Baseline.forCatalog op .default catalog = .ok base ∧ t.run server base = some b ∧
      HasGroup b .unique ["row", "number"] ∧ forCatalog op decision .default catalog = .ok stepwise ∧
      t.run server stepwise = some s ∧ ¬ HasGroup s .unique ["row", "number"] ∧ ¬ SameObjects s b := by
  intro server op t catalog decision
  let key := "seats_row_number_5867fd98_uniq"
  have skipped : addGroup "seats" .unique (some t.entry) ["row", "number"] = [] := by
    rw [addGroup, seats_generated]
    decide
  have planned : forCatalog op decision .default catalog =
      .ok ([.dropConstraint "seats" key] ++ [["row", "number"]].flatMap (addGroup "seats" .unique (some t.entry))) :=
    rfl
  have baseline : t.run server [.dropConstraint "seats" key, Baseline.addGroup "seats" .unique ["row", "number"]] =
      some (withGroup (t.withoutConstraint key) .unique ["row", "number"]) := rfl
  have present : HasGroup (withGroup (t.withoutConstraint key) .unique ["row", "number"]) .unique ["row", "number"] :=
    (group_present (t.withoutConstraint key) .unique ["row", "number"]).1
  have lost : ¬ HasGroup (t.withoutConstraint key) .unique ["row", "number"] := by
    intro rule
    cases rule
  rw [List.flatMap_cons, List.flatMap_nil, skipped] at planned
  refine ⟨_, _, _, t.withoutConstraint key, rfl, baseline, present, planned, rfl, lost, fun same => ?_⟩
  exact lost ((same.1 _).mpr present)

end OnlineDdl.Stepwise
