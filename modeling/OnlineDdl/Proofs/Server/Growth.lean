import OnlineDdl.Proofs.Server.Effect

/-! Tables that grow by one object at a time: what a list of objects adds to a table, whatever the
statements that make them. -/

set_option autoImplicit false

namespace OnlineDdl

inductive Addition where
  | key (name : String) (columns : List String) (primary : Bool)
  | rule (c : HeldConstraint)
  | index (spec : IndexSpec)
deriving DecidableEq, Repr

namespace Addition

def name : Addition → String
  | .key name _ _ => name
  | .rule c => c.name
  | .index spec => spec.name

def rule? : Addition → Option HeldConstraint
  | .key name columns primary => some (Table.keyConstraint name columns primary none)
  | .rule c => some c
  | .index _ => none

def index? : Addition → Option HeldIndex
  | .key name columns primary => some (Table.keyIndex name columns primary)
  | .rule _ => none
  | .index spec => some (spec.held true)

def effect (t : Table) : Addition → Option Table
  | .key name columns primary => t.addKey name columns primary none
  | .rule c => t.addRule c
  | .index spec => t.createIndex spec true

end Addition

namespace Table

def grow (t : Table) : List Addition → Option Table
  | [] => some t
  | addition :: rest => (addition.effect t).bind (·.grow rest)

theorem grow_one (t : Table) (addition : Addition) : t.grow [addition] = addition.effect t := by
  rw [grow]
  cases addition.effect t <;> rfl

theorem grow_append (t : Table) (first second : List Addition) :
    t.grow (first ++ second) = (t.grow first).bind (·.grow second) := by
  induction first generalizing t with
  | nil => rfl
  | cons addition rest ih =>
      simp only [List.cons_append, grow, Option.bind_assoc]
      congr
      funext next
      exact ih next

-- What an addition changes, but for the columns of a primary key, which admit no nulls.
structure GrownBy (t u : Table) (rules : List HeldConstraint) (indexes : List HeldIndex) : Prop where
  name : u.name = t.name
  constraints : u.constraints = t.constraints ++ rules
  indexes : u.indexes = t.indexes ++ indexes
  columns : ∀ column, u.hasColumn column = t.hasColumn column

theorem key_grown (t : Table) (name : String) (columns : List String) (primary : Bool) :
    GrownBy t (t.withKey name columns primary none) [keyConstraint name columns primary none]
      [keyIndex name columns primary] := by
  cases primary with
  | false => exact ⟨rfl, rfl, rfl, fun _ => rfl⟩
  | true =>
      refine ⟨rfl, rfl, rfl, fun column => ?_⟩
      change (t.columns.map fun c => if columns.contains c.name then { c with notNull := true } else c).any
        (·.name == column) = t.columns.any (·.name == column)
      rw [List.any_map]
      congr 1
      funext c
      by_cases marked : c.name ∈ columns <;> simp [marked]

theorem addition_grows (t u : Table) (addition : Addition) (accepted : addition.effect t = some u) :
    GrownBy t u addition.rule?.toList addition.index?.toList := by
  cases addition with
  | key name columns primary =>
      rw [Addition.effect, addKey] at accepted
      split at accepted
      · cases accepted
      · cases accepted
        exact key_grown t name columns primary
  | rule c =>
      rw [Addition.effect, addRule] at accepted
      split at accepted
      · cases accepted
      · cases accepted
        exact ⟨rfl, rfl, (List.append_nil _).symm, fun _ => rfl⟩
  | index spec =>
      rw [Addition.effect, createIndex] at accepted
      split at accepted
      · cases accepted
      · cases accepted
        exact ⟨rfl, (List.append_nil _).symm, rfl, fun _ => rfl⟩

theorem grow_adds (t u : Table) (additions : List Addition) (grown : t.grow additions = some u) :
    GrownBy t u (additions.filterMap Addition.rule?) (additions.filterMap Addition.index?) := by
  induction additions generalizing t with
  | nil =>
      cases grown
      exact ⟨rfl, (List.append_nil _).symm, (List.append_nil _).symm, fun _ => rfl⟩
  | cons addition rest ih =>
      obtain ⟨next, accepted, later⟩ := Option.bind_eq_some_iff.mp grown
      have first := addition_grows t next addition accepted
      have others := ih next later
      refine ⟨others.name.trans first.name, ?_, ?_, fun column => (others.columns column).trans (first.columns column)⟩
      · rw [others.constraints, first.constraints, List.append_assoc]
        cases same : addition.rule? <;> simp [same]
      · rw [others.indexes, first.indexes, List.append_assoc]
        cases same : addition.index? <;> simp [same]

def isUnused (t : Table) (name : String) : Bool := !t.hasConstraint name && !t.hasIndex name

theorem addition_accepted (t : Table) (addition : Addition) (unused : t.isUnused addition.name = true) :
    ∃ u, addition.effect t = some u := by
  simp only [isUnused, Bool.and_eq_true, Bool.not_eq_true'] at unused
  cases addition with
  | key name columns primary =>
      have free : t.hasConstraint name = false ∧ t.hasIndex name = false := unused
      exact ⟨_, by simp [Addition.effect, addKey, free]; rfl⟩
  | rule c => exact ⟨_, if_neg (Bool.eq_false_iff.mp unused.1)⟩
  | index spec => exact ⟨_, if_neg (Bool.eq_false_iff.mp unused.2)⟩

theorem addition_uses (t u : Table) (addition : Addition) (name : String) (accepted : addition.effect t = some u)
    (other : addition.name ≠ name) (unused : t.isUnused name = true) : u.isUnused name = true := by
  have grown := addition_grows t u addition accepted
  have rules : addition.rule?.toList.any (·.name == name) = false := by
    cases addition <;> simp [Addition.rule?, keyConstraint] <;> exact other
  have indexes : addition.index?.toList.any (·.name == name) = false := by
    cases addition <;> simp [Addition.index?, keyIndex] <;> exact other
  rw [isUnused, hasConstraint, hasIndex] at unused ⊢
  rw [grown.constraints, grown.indexes, List.any_append, List.any_append, rules, indexes, Bool.or_false,
    Bool.or_false, unused]

theorem grow_accepted (t : Table) (additions : List Addition) (distinct : (additions.map Addition.name).Nodup)
    (unused : ∀ addition ∈ additions, t.isUnused addition.name = true) : ∃ u, t.grow additions = some u := by
  induction additions generalizing t with
  | nil => exact ⟨t, rfl⟩
  | cons addition rest ih =>
      rw [List.map_cons, List.nodup_cons] at distinct
      obtain ⟨next, accepted⟩ := addition_accepted t addition (unused addition List.mem_cons_self)
      obtain ⟨u, grown⟩ := ih next distinct.2 fun other member =>
        addition_uses t next addition other.name accepted
          (fun same => distinct.1 (same ▸ List.mem_map_of_mem member)) (unused other (List.mem_cons_of_mem _ member))
      exact ⟨u, by rw [grow, accepted]; exact grown⟩

end Table

end OnlineDdl
