import OnlineDdl.Proofs.Plan.Together

/-! The additions of groups, planned by what stands under the generated name of each group: every
statement of the plan leaves exactly the rest of it to be planned. -/

set_option autoImplicit false

namespace OnlineDdl.Stepwise

variable (server : Server)

-- What is known under a name: whether the index is valid, if there is one, and whether there is a
-- constraint.
@[ext]
structure Standing where
  indexed : Option Bool
  ruled : Bool
deriving DecidableEq, Repr

def standing (entry : TableEntry) (name : String) : Standing :=
  ⟨(entry.index? name).map (·.valid), (entry.constraint? name).isSome⟩

def groupIndex (table : String) (kind : TogetherKind) (group : List String) : IndexSpec :=
  match kind with
  | .unique => .uniqueOn (uniqueName table none group) table group none
  | .index => .together table group

def attachName (table name : String) : Step :=
  .alter table (.addConstraint name (.usingIndex false name none) false)

def groupSteps (table : String) (kind : TogetherKind) (group : List String) (known : Standing) : List Step :=
  let index := groupIndex table kind group
  (match known.indexed with
    | none => [.createIndexConcurrently index]
    | some true => []
    | some false => [.dropIndexConcurrently index.name, .createIndexConcurrently index]) ++
  if kind == .index || known.ruled then [] else [attachName table index.name]

def isSettled (kind : TogetherKind) (known : Standing) : Bool :=
  known.indexed == some true && (kind == .index || known.ruled)

theorem group_index_parts (table : String) (kind : TogetherKind) (group : List String) :
    (groupIndex table kind group).name = groupName table kind group ∧
      (groupIndex table kind group).table = table := by
  cases kind <;> exact ⟨rfl, rfl⟩

theorem build_index_standing (entry : TableEntry) (index : IndexSpec) :
    buildIndex (some entry) index =
      match (standing entry index.name).indexed with
      | none => [.createIndexConcurrently index]
      | some true => []
      | some false => [.dropIndexConcurrently index.name, .createIndexConcurrently index] := by
  rw [buildIndex, Option.bind_some, standing]
  cases entry.index? index.name with
  | none => rfl
  | some i =>
      cases valid : i.valid <;> simp [valid]

theorem add_group_standing (table : String) (kind : TogetherKind) (entry : TableEntry) (group : List String) :
    addGroup table kind (some entry) group =
      groupSteps table kind group (standing entry (groupName table kind group)) := by
  rw [groupSteps, (group_index_parts table kind group).1]
  cases kind with
  | index =>
      rw [addGroup, build_index_standing]
      exact (List.append_nil _).symm
  | unique =>
      rw [addGroup, add_key_parts, build_index_standing]
      rfl

theorem group_steps_settled (table : String) (kind : TogetherKind) (group : List String) (known : Standing) :
    groupSteps table kind group known = [] ↔ isSettled kind known = true := by
  obtain ⟨indexed, ruled⟩ := known
  cases kind <;> cases ruled <;> rcases indexed with _ | _ | _ <;> simp [groupSteps, isSettled]

inductive Concerns (table name : String) : Step → Prop where
  | create (index : IndexSpec) (own : index.table = table) (named : index.name = name) :
      Concerns table name (.createIndexConcurrently index)
  | drop : Concerns table name (.dropIndexConcurrently name)
  | attach : Concerns table name (attachName table name)

theorem group_concerns (table : String) (kind : TogetherKind) (group : List String) (known : Standing) (step : Step)
    (member : step ∈ groupSteps table kind group known) : Concerns table (groupName table kind group) step := by
  obtain ⟨named, own⟩ := group_index_parts table kind group
  rw [groupSteps, named] at member
  rcases List.mem_append.mp member with built | attached
  · split at built
    · exact List.mem_singleton.mp built ▸ .create _ own named
    · cases built
    · rcases List.mem_cons.mp built with same | later
      · exact same ▸ .drop
      · exact List.mem_singleton.mp later ▸ .create _ own named
  · split at attached
    · cases attached
    · exact List.mem_singleton.mp attached ▸ .attach

def advance (step : Step) (known : Standing) : Standing :=
  match step.change with
  | .createIndex _ _ => { known with indexed := some true }
  | .dropIndex _ _ => { known with indexed := none }
  | _ => { known with ruled := true }

theorem group_steps_next (table : String) (kind : TogetherKind) (group : List String) (known : Standing)
    (step : Step) (rest : List Step) (planned : groupSteps table kind group known = step :: rest) :
    groupSteps table kind group (advance step known) = rest := by
  obtain ⟨indexed, ruled⟩ := known
  rcases indexed with _ | _ | _
  · obtain ⟨rfl, rfl⟩ := List.cons.inj planned
    rfl
  · obtain ⟨rfl, rfl⟩ := List.cons.inj planned
    rfl
  · cases kind with
    | index => cases planned
    | unique =>
        cases ruled with
        | true => cases planned
        | false =>
            obtain ⟨rfl, rfl⟩ := List.cons.inj planned
            rfl

theorem standing_indexed (t : Table) (name : String) : (standing t.entry name).indexed.isSome = t.hasIndex name := by
  rw [Bool.eq_iff_iff, ← Bool.not_eq_false (t.hasIndex name), ← t.index_absent_iff, standing, Option.isSome_map]
  exact Option.isSome_iff_ne_none

theorem standing_ruled (t : Table) (name : String) : (standing t.entry name).ruled = t.hasConstraint name := by
  rw [Bool.eq_iff_iff, ← Bool.not_eq_false (t.hasConstraint name), ← t.constraint_absent_iff, standing]
  exact Option.isSome_iff_ne_none

theorem created_standing (t u : Table) (index : IndexSpec) (own : index.table = t.name)
    (accepted : (Step.createIndexConcurrently index).change.effect server t = some u) :
    u.name = t.name ∧ (standing t.entry index.name).indexed = none ∧
      standing u.entry index.name = ⟨some true, (standing t.entry index.name).ruled⟩ ∧
      ∀ other, other ≠ index.name → standing u.entry other = standing t.entry other := by
  rw [Step.createIndexConcurrently, Ddl.effect, if_pos own, Table.createIndex] at accepted
  split at accepted
  · cases accepted
  · rename_i free
    rw [Bool.not_eq_true] at free
    cases accepted
    have absent := (t.index_absent_iff index.name).mpr free
    refine ⟨rfl, by rw [standing, absent]; rfl, ?_, fun other different => ?_⟩
    · rw [standing, held_index_found t index true free]
      rfl
    · have kept : (t.withIndex (index.held true)).entry.index? other = t.entry.index? other := by
        rw [Table.index_added, if_neg (fun same => different same.symm), Option.or_none]
      rw [standing, kept]
      rfl

theorem dropped_standing (t : Table) (name : String) :
    standing (t.withoutIndex name).entry name = ⟨none, (standing t.entry name).ruled⟩ ∧
      ∀ other, other ≠ name → standing (t.withoutIndex name).entry other = standing t.entry other := by
  have gone : (t.withoutIndex name).entry.index? name = none := by
    rw [Table.index_absent_iff, Table.hasIndex, List.any_eq_false]
    intro i member
    simpa using (List.mem_filter.mp member).2
  refine ⟨?_, fun other different => ?_⟩
  · rw [standing, gone]
    rfl
  · rw [standing, Table.index_kept t name other different.symm]
    rfl

theorem altered_indexes (indexes : List HeldIndex) (alter : HeldIndex → HeldIndex) (name : String)
    (named : ∀ i, (alter i).name = i.name) (valid : ∀ i, (alter i).valid = i.valid) :
    (((indexes.map alter).map (·.toIndexInfo)).find? (·.name == name)).map (·.valid) =
      ((indexes.map (·.toIndexInfo)).find? (·.name == name)).map (·.valid) := by
  induction indexes with
  | nil => rfl
  | cons i rest ih =>
      simp only [List.map_cons, List.find?_cons, named]
      cases i.name == name with
      | true => exact congrArg some (valid i)
      | false => exact ih

-- A key takes over the index of its own name, which stays what it is.
theorem attached_standing (t u : Table) (name : String)
    (accepted : (attachName t.name name).change.effect server t = some u) :
    u.name = t.name ∧ (standing t.entry name).ruled = false ∧
      standing u.entry name = ⟨(standing t.entry name).indexed, true⟩ ∧
      ∀ other, other ≠ name → standing u.entry other = standing t.entry other := by
  rw [attachName, Step.alter, Step.wrapped, Ddl.effect, if_pos rfl, TableAction.effect, Table.addConstraint,
    Table.attachKey] at accepted
  split at accepted
  · cases accepted
  · rename_i i found
    split at accepted
    · cases accepted
    · rename_i free
      cases accepted
      simp only [Bool.or_eq_true, not_or, Bool.not_eq_true] at free
      have indexes (other : String) := altered_indexes t.indexes (fun j =>
        if j.name == name then { j with name, primary := false, constraint := some name } else j) other
        (fun j => by by_cases same : j.name = name <;> simp [same])
        (fun j => by by_cases same : j.name = name <;> simp [same])
      have rules (other : String) := t.constraint_added (Table.keyConstraint name i.columns false none) other
      refine ⟨rfl, (standing_ruled t name).trans free.1.2, Standing.ext (indexes name) ?_, fun other different =>
        Standing.ext (indexes other) ?_⟩
      · exact (congrArg Option.isSome (rules name)).trans (by simp [Table.keyConstraint])
      · exact congrArg Option.isSome ((rules other).trans (by simp [Table.keyConstraint, different.symm]))

theorem concerned_standing (t u : Table) (name : String) (step : Step) (concerns : Concerns t.name name step)
    (accepted : step.change.effect server t = some u) :
    u.name = t.name ∧ standing u.entry name = advance step (standing t.entry name) ∧
      ∀ other, other ≠ name → standing u.entry other = standing t.entry other := by
  cases concerns with
  | create index own named =>
      obtain ⟨kept, -, built, others⟩ := created_standing server t u index own accepted
      exact ⟨kept, named ▸ built, named ▸ others⟩
  | drop =>
      cases accepted
      exact ⟨rfl, dropped_standing t name⟩
  | attach =>
      obtain ⟨kept, -, keyed, others⟩ := attached_standing server t u name accepted
      exact ⟨kept, keyed, others⟩

def pendingNames (table : String) (kind : TogetherKind) (add : List (List String)) (entry : TableEntry) :
    List String :=
  (add.map (groupName table kind)).filter fun name => !isSettled kind (standing entry name)

theorem pending_cons (table : String) (kind : TogetherKind) (group : List String) (rest : List (List String))
    (entry : TableEntry) :
    pendingNames table kind (group :: rest) entry =
      (if isSettled kind (standing entry (groupName table kind group)) then [] else [groupName table kind group]) ++
        pendingNames table kind rest entry := by
  rw [pendingNames, List.map_cons, List.filter_cons]
  cases isSettled kind (standing entry (groupName table kind group)) <;> rfl

def additions (kind : TogetherKind) (add : List (List String)) (t : Table) : List Step :=
  add.flatMap (addGroup t.name kind (some t.entry))

theorem additions_cons (kind : TogetherKind) (group : List String) (rest : List (List String)) (t : Table) :
    additions kind (group :: rest) t =
      groupSteps t.name kind group (standing t.entry (groupName t.name kind group)) ++ additions kind rest t := by
  rw [additions, List.flatMap_cons, add_group_standing]
  rfl

theorem addition_concerns (kind : TogetherKind) (add : List (List String)) (t : Table) (step : Step)
    (member : step ∈ additions kind add t) :
    ∃ name ∈ pendingNames t.name kind add t.entry, Concerns t.name name step := by
  obtain ⟨group, inside, planned⟩ := List.mem_flatMap.mp member
  rw [add_group_standing] at planned
  refine ⟨groupName t.name kind group, List.mem_filter.mpr ⟨List.mem_map_of_mem inside, ?_⟩,
    group_concerns _ _ _ _ step planned⟩
  rw [Bool.not_eq_true', ← Bool.not_eq_true, ← group_steps_settled t.name kind group]
  exact List.ne_nil_of_mem planned

theorem additions_kept (kind : TogetherKind) (add : List (List String)) (t u : Table) (named : u.name = t.name)
    (kept : ∀ group ∈ add, standing u.entry (groupName t.name kind group) =
      standing t.entry (groupName t.name kind group)) :
    additions kind add u = additions kind add t ∧
      pendingNames u.name kind add u.entry = pendingNames t.name kind add t.entry := by
  induction add with
  | nil => simp [additions, pendingNames]
  | cons group rest ih =>
      obtain ⟨plan, names⟩ := ih fun other member => kept other (List.mem_cons_of_mem _ member)
      have same := kept group List.mem_cons_self
      rw [additions_cons, additions_cons, pending_cons, pending_cons, plan, names, named, same]
      exact ⟨rfl, rfl⟩

-- Each statement of a plan leaves exactly the rest of it to be planned.
theorem additions_step (kind : TogetherKind) (add : List (List String)) (t u : Table) (step : Step)
    (rest : List Step) (distinct : (pendingNames t.name kind add t.entry).Nodup)
    (planned : additions kind add t = step :: rest) (accepted : step.change.effect server t = some u) :
    u.name = t.name ∧ additions kind add u = rest ∧ (pendingNames u.name kind add u.entry).Nodup := by
  induction add with
  | nil => cases planned
  | cons group others ih =>
      rw [additions_cons] at planned
      rw [pending_cons] at distinct
      cases settled : isSettled kind (standing t.entry (groupName t.name kind group)) with
      | true =>
          rw [(group_steps_settled _ _ _ _).mpr settled, List.nil_append] at planned
          rw [if_pos settled, List.nil_append] at distinct
          obtain ⟨named, plan, still⟩ := ih distinct planned
          obtain ⟨name, pending, concerns⟩ :=
            addition_concerns kind others t step (planned ▸ List.mem_cons_self)
          have different : groupName t.name kind group ≠ name := by
            rintro rfl
            simp [pendingNames, settled] at pending
          have same := (concerned_standing server t u name step concerns accepted).2.2 _ different
          rw [additions_cons, pending_cons, named, same, (group_steps_settled _ _ _ _).mpr settled, if_pos settled]
          rw [named] at still
          exact ⟨rfl, plan, still⟩
      | false =>
          rw [if_neg (by rw [settled]; decide), List.singleton_append, List.nodup_cons] at distinct
          obtain ⟨lone, still⟩ := distinct
          obtain ⟨first, behind, shape⟩ := List.exists_cons_of_ne_nil
            fun empty => Bool.eq_false_iff.mp settled ((group_steps_settled t.name kind group _).mp empty)
          rw [shape, List.cons_append] at planned
          obtain ⟨rfl, rfl⟩ := List.cons.inj planned
          have concerns := group_concerns t.name kind group _ first (shape ▸ List.mem_cons_self)
          obtain ⟨named, here, elsewhere⟩ := concerned_standing server t u _ first concerns accepted
          obtain ⟨plan, names⟩ := additions_kept kind others t u named fun other member =>
            elsewhere _ fun same => lone (List.mem_filter.mpr
              ⟨List.mem_map.mpr ⟨other, member, same⟩, by rw [settled]; rfl⟩)
          have next := group_steps_next t.name kind group _ first behind shape
          refine ⟨named, ?_, ?_⟩
          · rw [additions_cons, named, here, next, plan]
          · rw [pending_cons, names, named]
            split
            · exact still
            · exact List.nodup_cons.mpr ⟨lone, still⟩

theorem additions_cut (kind : TogetherKind) (add : List (List String)) (t s : Table) (before after : List Step)
    (distinct : (pendingNames t.name kind add t.entry).Nodup)
    (planned : additions kind add t = before ++ after) (ran : t.run server before = some s) :
    s.name = t.name ∧ additions kind add s = after := by
  induction before generalizing t with
  | nil =>
      cases ran
      exact ⟨rfl, planned⟩
  | cons step rest ih =>
      obtain ⟨u, accepted, later⟩ := Option.bind_eq_some_iff.mp ran
      obtain ⟨named, plan, still⟩ := additions_step server kind add t u step (rest ++ after) distinct planned accepted
      rw [← named]
      exact ih u still plan later

def isRedundant (entry : TableEntry) (step : Step) : Bool :=
  match step.change with
  | .createIndex index _ => (entry.index? index.name).any (·.valid)
  | .dropIndex name _ => (entry.index? name).isNone
  | .alterTable _ (.addColumn column) => (entry.column? column.name).isSome
  | .alterTable _ (.addConstraint name _ _) => (entry.constraint? name).any (·.validated)
  | .alterTable _ (.dropConstraint name) => (entry.constraint? name).isNone
  | _ => false

theorem group_steps_needed (table : String) (kind : TogetherKind) (group : List String) (entry : TableEntry)
    (step : Step)
    (member : step ∈ groupSteps table kind group (standing entry (groupName table kind group))) :
    isRedundant entry step = false := by
  let index := groupIndex table kind group
  have named : index.name = groupName table kind group := (group_index_parts table kind group).1
  rw [groupSteps, ← named] at member
  have creates (unknown : (standing entry index.name).indexed ≠ some true) :
      isRedundant entry (.createIndexConcurrently index) = false := by
    change (entry.index? index.name).any (·.valid) = false
    rw [standing] at unknown
    cases known : entry.index? index.name with
    | none => rfl
    | some i => simpa [known] using unknown
  rcases List.mem_append.mp member with built | attached
  · split at built
    · rename_i absent
      exact List.mem_singleton.mp built ▸ creates (by rw [absent]; decide)
    · cases built
    · rename_i broken
      rcases List.mem_cons.mp built with same | later
      · rw [same]
        change (entry.index? index.name).isNone = false
        obtain ⟨i, known, -⟩ := Option.map_eq_some_iff.mp broken
        rw [known]
        rfl
      · exact List.mem_singleton.mp later ▸ creates (by rw [broken]; decide)
  · split at attached
    · cases attached
    · rename_i due
      rw [List.mem_singleton.mp attached]
      change (entry.constraint? index.name).any (·.validated) = false
      have absent : entry.constraint? index.name = none := by
        simp only [standing, Bool.or_eq_true, not_or, Bool.not_eq_true, Option.isSome_eq_false_iff,
          Option.isNone_iff_eq_none] at due
        exact due.2
      rw [absent]
      rfl

theorem additions_needed (kind : TogetherKind) (add : List (List String)) (t : Table) (step : Step)
    (member : step ∈ additions kind add t) : isRedundant t.entry step = false := by
  obtain ⟨group, -, planned⟩ := List.mem_flatMap.mp member
  rw [add_group_standing] at planned
  exact group_steps_needed t.name kind group t.entry step planned

end OnlineDdl.Stepwise
