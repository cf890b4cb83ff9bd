import OnlineDdl.Plan.Stepwise
import OnlineDdl.Proofs.Server.Interruption

/-! The parts that plans are put together from, and how each of them is taken up again after an
interruption. -/

set_option autoImplicit false

namespace OnlineDdl.Stepwise

variable (server : Server)

inductive Building (t : Table) (index : IndexSpec) : Table → Prop where
  | absent : Building t index t
  | halfway : Building t index (t.withIndex (index.held false))
  | built : Building t index (t.withIndex (index.held true))

theorem interrupted_creation (t s : Table) (index : IndexSpec) (own : index.table = t.name)
    (free : t.hasIndex index.name = false)
    (run : Interrupted server [.createIndexConcurrently index] t s) : Building t index s := by
  cases run with
  | stop => exact .absent
  | half _ _ _ _ other builds _ left =>
      obtain ⟨rfl, -⟩ := Ddl.createIndex.inj builds
      rw [Table.createIndex, free] at left
      rw [← Option.some.inj left]
      exact .halfway
  | next _ _ _ u _ accepted later =>
      rw [create_index_accepted server t index own free] at accepted
      rw [interrupted_nil server u s later, ← Option.some.inj accepted]
      exact .built

theorem build_index_absent (t : Table) (index : IndexSpec) (free : t.hasIndex index.name = false) :
    buildIndex (some t.entry) index = [.createIndexConcurrently index] := by
  rw [buildIndex, Option.bind_some, (t.index_absent_iff index.name).mpr free]

theorem held_index_found (t : Table) (index : IndexSpec) (valid : Bool) (free : t.hasIndex index.name = false) :
    (t.withIndex (index.held valid)).entry.index? index.name = some (index.held valid).toIndexInfo := by
  rw [Table.index_added, (t.index_absent_iff index.name).mpr free]
  simp [IndexSpec.held]

theorem build_index_known (t : Table) (index : IndexSpec) (valid : Bool)
    (free : t.hasIndex index.name = false) :
    buildIndex (some (t.withIndex (index.held valid)).entry) index =
      if valid then [] else [.dropIndexConcurrently index.name, .createIndexConcurrently index] := by
  rw [buildIndex, Option.bind_some, held_index_found t index valid free]
  rfl

theorem build_index_resumable (t : Table) (index : IndexSpec) (own : index.table = t.name)
    (free : t.hasIndex index.name = false) :
    Resumable server (fun entry => buildIndex (some entry) index) (Building t index)
      (t.withIndex (index.held true)) := by
  have creates : t.runStrictly server [.createIndexConcurrently index] = some (t.withIndex (index.held true)) :=
    strict_run_next server _ _ _ _ (create_index_accepted server t index own free)
  have clears := drop_added_index server t (index.held false) free
  refine ⟨fun s state => ?_, fun s u state run => ?_⟩
  · cases state with
    | absent => rwa [build_index_absent _ index free]
    | halfway =>
        rw [build_index_known t index false free]
        exact (strict_run_next server _ _ _ _ clears).trans creates
    | built =>
        rw [build_index_known t index true free]
        rfl
  · cases state with
    | absent =>
        rw [build_index_absent _ index free] at run
        exact interrupted_creation server _ u index own free run
    | halfway =>
        rw [build_index_known t index false free] at run
        rcases interrupted_accepted server _ _ _ _ u clears (drop_index_whole index.name) run with same | later
        · rw [same]
          exact .halfway
        · exact interrupted_creation server t u index own free later
    | built =>
        rw [build_index_known t index true free] at run
        rw [interrupted_nil server _ u run]
        exact .built

theorem build_index_done (t : Table) (index : IndexSpec) (i : IndexInfo)
    (found : t.entry.index? index.name = some i) (valid : i.valid = true) :
    buildIndex (some t.entry) index = [] := by
  rw [buildIndex, Option.bind_some, found]
  simp [valid]

-- Two indexes one after the other: the second is not begun before the first is valid.
theorem build_both_resumable (t : Table) (first second : IndexSpec) (ownFirst : first.table = t.name)
    (ownSecond : second.table = t.name) (different : first.name ≠ second.name)
    (freeFirst : t.hasIndex first.name = false) (freeSecond : t.hasIndex second.name = false) :
    Resumable server (fun entry => buildIndex (some entry) first ++ buildIndex (some entry) second)
      (fun s => Building t first s ∨ Building (t.withIndex (first.held true)) second s)
      ((t.withIndex (first.held true)).withIndex (second.held true)) := by
  have still (valid : Bool) : (t.withIndex (first.held valid)).hasIndex second.name = false := by
    rw [← Table.index_absent_iff, Table.index_added, (t.index_absent_iff second.name).mpr freeSecond]
    simp [IndexSpec.held, different]
  refine resumable_append server _ _ _ _ _ _ (build_index_resumable server t first ownFirst freeFirst)
    (build_index_resumable server (t.withIndex (first.held true)) second ownSecond (still true)) .absent
    (fun s early => ?_) fun s late => ?_
  · have due := build_index_absent (t.withIndex (first.held true)) second (still true)
    cases early with
    | absent => exact (build_index_absent t second freeSecond).trans due.symm
    | halfway => exact (build_index_absent _ second (still false)).trans due.symm
    | built => rfl
  · have found := held_index_found t first true freeFirst
    cases late with
    | absent => exact build_index_done _ first _ found rfl
    | halfway => exact build_index_done _ first _ (by rw [Table.index_added, found]; rfl) rfl
    | built => exact build_index_done _ first _ (by rw [Table.index_added, found]; rfl) rfl

theorem add_index_resumable (t : Table) (index : IndexSpec) (extra : Option IndexSpec) (own : index.table = t.name)
    (free : t.hasIndex index.name = false)
    (spare : ∀ other ∈ extra, other.table = t.name ∧ index.name ≠ other.name ∧ t.hasIndex other.name = false) :
    ∃ states, states t ∧
      Resumable server
        (fun entry => buildIndex (some entry) index ++ extra.toList.flatMap (buildIndex (some entry))) states
        { t with indexes := t.indexes ++ index.held true :: extra.toList.map (·.held true) } := by
  cases extra with
  | none =>
      have built := build_index_resumable server t index own free
      exact ⟨_, .absent, resumable_congr server _ _ _ _ built fun _ _ => List.append_nil _⟩
  | some other =>
      obtain ⟨ownOther, different, freeOther⟩ := spare other rfl
      have built := build_both_resumable server t index other own ownOther different free freeOther
      rw [Table.withIndex, Table.withIndex, List.append_assoc] at built
      refine ⟨_, .inl .absent, resumable_congr server _ _ _ _ built fun _ _ => ?_⟩
      exact congrArg _ (List.append_nil _)

end OnlineDdl.Stepwise
