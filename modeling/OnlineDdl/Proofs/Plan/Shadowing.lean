import OnlineDdl.Proofs.Plan.Contents
import OnlineDdl.Proofs.Schema.ReferenceName
import OnlineDdl.Service.Request

/-! References without a name of their own. A reference is added under a generated name, and it is taken
to be there already where another reference has that name. -/

set_option autoImplicit false

namespace OnlineDdl

open ObjectName Text

structure Unnamed where
  columns : List String
  reference : Reference
deriving DecidableEq, Repr

namespace Unnamed

variable (table : String) (entry : Option TableEntry) (r one other : Unnamed)

def constraint : ConstraintDef :=
  .foreignKey none r.columns r.reference.table r.reference.columns r.reference.onDelete r.reference.deferrable

def name : String := foreignKeyName table none r.columns r.reference.table r.reference.columns

def label : Label := .of table r.columns r.reference

def Whole : Prop := (table.toList ++ '_' :: (r.label table).text).length ≤ maxLength

def support : List Step :=
  if (entry.bind (·.supportingIndex? r.columns)).isSome then []
  else Stepwise.buildIndex entry (.generated table r.columns)

def addition : List Step :=
  [.alter table (.addConstraint (r.name table) (.foreignKey r.columns r.reference) true),
    .validate table (r.name table)]

-- The columns are the same letters, joined by underscores and run together, and so are the names of the
-- table and the first column that they refer to.
def Alike : Prop :=
  joinWith ['_'] (one.columns.map String.toList) = joinWith ['_'] (other.columns.map String.toList) ∧
    one.columns.flatMap String.toList = other.columns.flatMap String.toList ∧
    (one.label table).target = (other.label table).target

def Simple : Prop :=
  ∀ name ∈ r.reference.table :: r.columns ++ r.reference.columns, name.toList ≠ [] ∧ '_' ∉ name.toList

instance : Decidable (r.Whole table) := inferInstanceAs (Decidable (_ ≤ _))

instance : Decidable r.Simple := inferInstanceAs (Decidable (∀ _ ∈ _, _))

theorem name_whole (whole : r.Whole table) :
    (r.name table).toList = table.toList ++ '_' :: (r.label table).text := by
  let toColumn := r.reference.columns.headD ""
  have suffix : (Purpose.foreignKey r.reference.table toColumn).suffix = "_fk_" ++ r.reference.table ++ "_" ++ toColumn :=
    rfl
  have parts : (r.label table).text = joinWith ['_'] (r.columns.map String.toList) ++ '_' ::
      (digest table r.columns ++ (Purpose.foreignKey r.reference.table toColumn).suffix.toList) := by
    rw [suffix]
    simp [label, Label.text, Label.purpose, Label.of, toColumn]
  rw [Whole, parts] at whole
  rw [parts, name, foreignKeyName, Option.getD_none, named, generate_whole]
  simpa [Fits, overruns, toColumn] using whole

theorem names_meet_iff (whole : one.Whole table) (fits : other.Whole table) :
    other.name table = one.name table ↔
      one.label table = other.label table ∨ (one.label table).Spells (other.label table) ∨
        (other.label table).Spells (one.label table) := by
  rw [← Label.text_eq_iff, ← String.toList_inj, name_whole table one whole, name_whole table other fits,
    List.append_cancel_left_eq]
  exact ⟨fun same => (List.cons.inj same).2.symm, fun same => by rw [same]⟩

-- A column that is named for another column, its digits and what a reference is marked with.
example :
    let one : Unnamed := ⟨["part"], ⟨"d6d680c3_fk_items", ["id"], none, true⟩⟩
    let other : Unnamed := ⟨["part_7ffbdcaa_fk"], ⟨"items", ["id"], none, true⟩⟩
    other.name "lines" = one.name "lines" := by
  decide +kernel

theorem label_eq_iff (separates : digest table one.columns = digest table other.columns →
      digestInput table one.columns = digestInput table other.columns) :
    one.label table = other.label table ↔ one.Alike table other := by
  rw [Label.ext_iff, Alike, ← digest_eq_iff table one.columns other.columns separates]
  rfl

theorem first_letters_iff (a b : List String) (filled : ∀ name ∈ a ++ b, name.toList ≠ []) :
    (a.headD "").toList = (b.headD "").toList ↔ a.head? = b.head? := by
  rw [String.toList_inj]
  cases a with
  | nil =>
      cases b with
      | nil => simp
      | cons y others =>
          have some : y ≠ "" := by simpa using filled y (by simp)
          simpa using some.symm
  | cons x rest =>
      have some : x ≠ "" := by simpa using filled x (by simp)
      cases b with
      | nil => simpa using some
      | cons y others => simp

theorem simple_target_marks (simple : r.Simple) : (r.label table).target.count '_' = 1 := by
  have clear : '_' ∉ r.reference.table.toList := (simple _ (by simp)).2
  have free : '_' ∉ (r.reference.columns.headD "").toList := by
    cases columns : r.reference.columns with
    | nil => simp
    | cons first others => exact (simple first (by simp [columns])).2
  rw [label, Label.of, List.count_append, List.count_cons_self, List.count_eq_zero_of_not_mem clear,
    List.count_eq_zero_of_not_mem free]

theorem simple_labels_meet_iff (simple : one.Simple) (plain : other.Simple) :
    one.label table = other.label table ↔
      one.columns = other.columns ∧ one.reference.table = other.reference.table ∧
        one.reference.columns.head? = other.reference.columns.head? := by
  have letters (r : Unnamed) (simple : r.Simple) :
      ∀ s ∈ r.columns.map String.toList, s ≠ [] ∧ '_' ∉ s := by
    intro s member
    obtain ⟨name, inside, rfl⟩ := List.mem_map.mp member
    exact simple name (by simp [inside])
  have columns : joinWith ['_'] (one.columns.map String.toList) = joinWith ['_'] (other.columns.map String.toList) ↔
      one.columns = other.columns := by
    rw [join_injective '_' _ _ (letters one simple) (letters other plain)]
    exact List.map_inj_right fun _ _ => String.toList_inj.mp
  have target : (one.label table).target = (other.label table).target ↔
      one.reference.table = other.reference.table ∧
        one.reference.columns.head? = other.reference.columns.head? := by
    have filled : ∀ name ∈ one.reference.columns ++ other.reference.columns, name.toList ≠ [] := by
      intro name member
      rcases List.mem_append.mp member with inside | inside
      · exact (simple name (by simp [inside])).1
      · exact (plain name (by simp [inside])).1
    have parts := only_mark_iff '_' _ _ (one.reference.columns.headD "").toList
      (other.reference.columns.headD "").toList (simple _ List.mem_cons_self).2 (plain _ List.mem_cons_self).2
    exact parts.trans (and_congr String.toList_inj (first_letters_iff _ _ filled))
  rw [Label.ext_iff, target]
  constructor
  · rintro ⟨same, -, rest⟩
    exact ⟨columns.mp same, rest⟩
  · rintro ⟨same, rest⟩
    exact ⟨columns.mpr same, by simp [label, Label.of, same], rest⟩

theorem simple_names_meet_iff (whole : one.Whole table) (fits : other.Whole table) (simple : one.Simple)
    (plain : other.Simple) :
    other.name table = one.name table ↔
      one.columns = other.columns ∧ one.reference.table = other.reference.table ∧
        one.reference.columns.head? = other.reference.columns.head? := by
  rw [names_meet_iff table one other whole fits, ← simple_labels_meet_iff table one other simple plain]
  have unspelled (r s : Unnamed) (simple : r.Simple) : ¬ (r.label table).Spells (s.label table) := by
    intro spelled
    have marks := Label.spelled_marks _ _ spelled
    rw [simple_target_marks table r simple] at marks
    exact absurd marks (by decide)
  simp [unspelled one other simple, unspelled other one plain]

end Unnamed

namespace Stepwise

theorem reference_planned (table : String) (one other : Unnamed) (entry : TableEntry) (first : ConstraintInfo)
    (listed : first ∈ entry.constraints) (named : first.name = one.name table) (validated : first.validated = true)
    (free : ∀ c ∈ entry.constraints, c.name = other.name table → c = first) :
    addConstraint table (some entry) other.constraint =
      .ok (other.support table (some entry) ++
        if other.name table = one.name table then [] else other.addition table) := by
  have known : knownRule (some entry) (other.name table) =
      if other.name table = one.name table then some true else none := by
    rw [knownRule, Option.bind_some, TableEntry.constraint?]
    cases found : entry.constraints.find? (·.name == other.name table) with
    | none =>
        have absent := List.find?_eq_none.mp found first listed
        rw [if_neg fun same => absent (by rw [named, same, beq_self_eq_true])]
        rfl
    | some c =>
        have same : c.name = other.name table := by simpa using List.find?_some found
        obtain rfl := free c (List.mem_of_find?_eq_some found) same
        rw [if_pos (same.symm.trans named), Option.map_some, validated]
  have added : addNotValid (some entry) table (other.name table) (.foreignKey other.columns other.reference) =
      if other.name table = one.name table then [] else other.addition table := by
    rw [add_not_valid_known_as, known]
    by_cases same : other.name table = one.name table
    · rw [if_pos same, if_pos same]
    · rw [if_neg same, if_neg same]
      rfl
  rw [← added]
  rfl

-- A reference is left out for another one exactly where their generated names agree, which they do where
-- their parts are the same letters, and where the columns of one spell out the columns and the digits of
-- the other. Where no name has an underscore, it takes the same columns, the same table and the same first
-- column that is referred to.
theorem reference_shadowed_iff (table : String) (one other : Unnamed) (decision : Decision) (caps : ServerCaps)
    (catalog : Catalog) (entry : TableEntry) (first : ConstraintInfo) (known : catalog.table? table = some entry)
    (listed : first ∈ entry.constraints) (named : first.name = one.name table) (validated : first.validated = true)
    (free : ∀ c ∈ entry.constraints, c.name = other.name table → c = first)
    (whole : one.Whole table) (fits : other.Whole table)
    (separates : ObjectName.digest table one.columns = ObjectName.digest table other.columns →
      ObjectName.digestInput table one.columns = ObjectName.digestInput table other.columns) :
    forCatalog (.addConstraint table other.constraint) decision caps catalog =
        .ok (other.support table (some entry) ++
          if other.name table = one.name table then [] else other.addition table) ∧
      (other.name table = one.name table ↔
        one.Alike table other ∨ (one.label table).Spells (other.label table) ∨
          (other.label table).Spells (one.label table)) ∧
      (one.Simple → other.Simple →
        (other.name table = one.name table ↔
          one.columns = other.columns ∧ one.reference.table = other.reference.table ∧
            one.reference.columns.head? = other.reference.columns.head?)) := by
  refine ⟨?_, ?_, Unnamed.simple_names_meet_iff table one other whole fits⟩
  · change addConstraint table (catalog.table? table) other.constraint = _
    rw [known]
    exact reference_planned table one other entry first listed named validated free
  · rw [Unnamed.names_meet_iff table one other whole fits, Unnamed.label_eq_iff table one other separates]

theorem second_reference_added :
    let one : Unnamed := ⟨["item"], ⟨"items", ["id"], none, true⟩⟩
    let other : Unnamed := ⟨["courier"], ⟨"couriers", ["id"], none, true⟩⟩
    let first : ConstraintInfo := ⟨one.name "shipments", .foreignKey, ["item"], true, none⟩
    let entry := TableEntry.empty.withConstraint first
    forCatalog (.addConstraint "shipments" other.constraint) (.of .safe) .default { tables := [("shipments", entry)] } =
      .ok (.createIndexConcurrently (.generated "shipments" ["courier"]) :: other.addition "shipments") := by
  intro one other first entry
  have free : ∀ c ∈ entry.constraints, c.name = other.name "shipments" → c = first := by
    intro c member _
    exact List.mem_singleton.mp member
  obtain ⟨planned, -, apart⟩ := reference_shadowed_iff "shipments" one other (.of .safe) .default
    { tables := [("shipments", entry)] } entry first rfl (List.mem_singleton_self first) rfl rfl free
    (by decide +kernel) (by decide +kernel) (fun same => absurd same (by decide +kernel))
  have different : other.name "shipments" ≠ one.name "shipments" := by
    intro same
    exact absurd ((apart (by decide) (by decide)).mp same).1 (by decide)
  rw [planned, if_neg different]
  rfl

-- Two tables with one column each may be spelled alike. The second reference is not added, and nothing is
-- said about it.
theorem second_reference_shadowed :
    let one : Unnamed := ⟨["item"], ⟨"order", ["item_id"], none, true⟩⟩
    let other : Unnamed := ⟨["item"], ⟨"order_item", ["id"], none, true⟩⟩
    let first : ConstraintInfo := ⟨"shipments_item_a5744383_fk_order_item_id", .foreignKey, ["item"], true, none⟩
    let index : IndexInfo := ⟨"shipments_item", ["item"], [], false, false, true, false, none⟩
    let catalog : Catalog := { tables := [("shipments", (TableEntry.empty.withConstraint first).withIndex index)] }
    (∀ name ∈ ["shipments", "item", "order", "item_id", "order_item", "id"], isPlainIdentifier name = true) ∧
      one.Whole "shipments" ∧ other.Whole "shipments" ∧ first.name = one.name "shipments" ∧
      one.reference.table ≠ other.reference.table ∧
      forCatalog (.addConstraint "shipments" other.constraint) (.of .safe) .default catalog = .ok [] := by
  intro one other first index catalog
  exact ⟨by decide, by decide +kernel, by decide +kernel, by decide +kernel, by decide, by decide +kernel⟩

end Stepwise

end OnlineDdl
