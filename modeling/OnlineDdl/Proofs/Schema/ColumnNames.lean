import OnlineDdl.Proofs.Schema.ReferenceName
import OnlineDdl.Service.Request

/-! What a generated name says about its columns. Underscores stand between the columns and may stand at their
ends, where the name does not tell which of two columns one belongs to. Nothing else is lost. -/

set_option autoImplicit false

namespace OnlineDdl.Text

variable (mark : Char)

def gathered : List (List Char) → List (List Char)
  | [] => []
  | s :: rest =>
    match gathered rest with
    | [] => [s]
    | t :: others => (s ++ t.takeWhile (· == mark)) :: t.dropWhile (· == mark) :: others

theorem join_front (front s : List Char) (rest : List (List Char)) :
    joinWith [mark] ((front ++ s) :: rest) = front ++ joinWith [mark] (s :: rest) := by
  cases rest with
  | nil => rfl
  | cons t others => rw [join_next, join_next, List.append_assoc]

theorem marks_behind (s : List Char) (marks : ∀ c ∈ s, (c == mark) = true) : s ++ [mark] = mark :: s := by
  induction s with
  | nil => rfl
  | cons c rest ih =>
      obtain ⟨same, others⟩ := List.forall_mem_cons.mp marks
      rw [List.cons_append, ih others, beq_iff_eq.mp same]

-- The marks that move are those in front of the next word, with what that word has got behind it by then.
theorem gathered_next (s v : List Char) (more : List (List Char)) :
    ∃ lead t others, (∀ c ∈ lead, (c == mark) = true) ∧ t.head? ≠ some mark ∧
      gathered mark (v :: more) = (lead ++ t) :: others ∧ gathered mark (s :: v :: more) = (s ++ lead) :: t :: others := by
  obtain ⟨u, others, first⟩ : ∃ u others, gathered mark (v :: more) = u :: others := by
    rw [gathered]
    split
    · exact ⟨_, _, rfl⟩
    · exact ⟨_, _, rfl⟩
  refine ⟨u.takeWhile (· == mark), u.dropWhile (· == mark), others, fun _ => List.mem_takeWhile_imp, ?_, ?_, ?_⟩
  · intro starts
    have stops := List.head?_dropWhile_not (· == mark) u
    rw [starts] at stops
    simp at stops
  · rw [List.takeWhile_append_dropWhile, first]
  · rw [gathered, first]

theorem gathered_parts (ws : List (List Char)) :
    joinWith [mark] (gathered mark ws) = joinWith [mark] ws ∧ (gathered mark ws).flatten = ws.flatten := by
  induction ws with
  | nil => exact ⟨rfl, rfl⟩
  | cons s rest ih =>
      cases rest with
      | nil => exact ⟨rfl, rfl⟩
      | cons v more =>
          obtain ⟨lead, t, others, marks, -, next, here⟩ := gathered_next mark s v more
          obtain ⟨join, flat⟩ := ih
          rw [next] at join flat
          constructor
          · rw [here, join_next, join_next, ← join, join_front]
            calc
              _ = s ++ ((lead ++ [mark]) ++ joinWith [mark] (t :: others)) := by simp only [List.append_assoc]
              _ = _ := by rw [marks_behind mark lead marks]; simp
          · simp only [here, List.flatten_cons, List.append_assoc] at flat ⊢
            rw [flat]

theorem gathered_settled (s : List Char) (rest : List (List Char)) :
    ∃ t others, gathered mark (s :: rest) = t :: others ∧ ∀ w ∈ others, w.head? ≠ some mark := by
  induction rest generalizing s with
  | nil => exact ⟨s, [], rfl, List.forall_mem_nil _⟩
  | cons v more ih =>
      obtain ⟨lead, t, others, -, starts, next, here⟩ := gathered_next mark s v more
      obtain ⟨u, later, same, settled⟩ := ih v
      obtain ⟨-, rfl⟩ := List.cons.inj (next.symm.trans same)
      exact ⟨s ++ lead, t :: others, here, List.forall_mem_cons.mpr ⟨starts, settled⟩⟩

theorem flat_start (ws : List (List Char)) (settled : ∀ w ∈ ws, w.head? ≠ some mark) (rest : List Char) :
    ws.flatten ≠ mark :: rest := by
  intro same
  have first := List.head?_flatten (L := ws)
  rw [same, List.head?_cons] at first
  obtain ⟨w, member, starts⟩ := List.exists_of_findSome?_eq_some first.symm
  exact settled w member starts

theorem flat_length (ws : List (List Char)) : ws.flatten.length ≤ (joinWith [mark] ws).length := by
  induction ws with
  | nil => exact Nat.le_refl 0
  | cons s rest ih =>
      cases rest with
      | nil => simp [joinWith]
      | cons t others =>
          rw [join_next, List.flatten_cons]
          simp only [List.length_append] at ih ⊢
          omega

theorem join_longer (s t : List Char) (rest : List (List Char)) :
    joinWith [mark] (s :: t :: rest) ≠ (s :: t :: rest).flatten := by
  intro same
  have short := flat_length mark (t :: rest)
  rw [join_next, List.flatten_cons, List.append_cancel_left_eq] at same
  rw [← same, List.length_append, List.length_singleton] at short
  omega

theorem settled_unique (s t : List Char) (rest others : List (List Char))
    (settled : ∀ w ∈ rest, w.head? ≠ some mark) (other : ∀ w ∈ others, w.head? ≠ some mark)
    (join : joinWith [mark] (s :: rest) = joinWith [mark] (t :: others))
    (flat : (s :: rest).flatten = (t :: others).flatten) : s :: rest = t :: others := by
  induction rest generalizing s t others with
  | nil =>
      cases others with
      | nil => exact congrArg ([·]) join
      | cons u more =>
          rw [List.flatten_singleton] at flat
          exact absurd (join.symm.trans flat) (join_longer mark t u more)
  | cons v later ih =>
      cases others with
      | nil =>
          rw [List.flatten_singleton] at flat
          exact absurd (join.trans flat.symm) (join_longer mark s v later)
      | cons u more =>
          rw [join_next, join_next, List.singleton_append, List.singleton_append] at join
          rw [List.flatten_cons, List.flatten_cons (l := t)] at flat
          -- A mark that one first word has and the other has not would begin the words behind the other.
          rcases (marks_meet_iff mark _ _ _ _).mp join with ⟨rfl, behind⟩ | ⟨longer, rfl, -⟩ | ⟨longer, rfl, -⟩
          · have letters := List.append_cancel_left flat
            rw [ih v u more (List.forall_mem_cons.mp settled).2 (List.forall_mem_cons.mp other).2 behind letters]
          · rw [List.append_assoc, List.append_cancel_left_eq] at flat
            exact absurd flat (flat_start mark _ settled _)
          · rw [List.append_assoc, List.append_cancel_left_eq] at flat
            exact absurd flat.symm (flat_start mark _ other _)

theorem gathered_eq_iff (a b : List (List Char)) (filled : ∀ s ∈ a ++ b, s ≠ []) :
    gathered mark a = gathered mark b ↔ joinWith [mark] a = joinWith [mark] b ∧ a.flatten = b.flatten := by
  obtain ⟨join, flat⟩ := gathered_parts mark a
  obtain ⟨joined, flattened⟩ := gathered_parts mark b
  constructor
  · intro same
    rw [← join, ← joined, ← flat, ← flattened, same]
    exact ⟨rfl, rfl⟩
  · rintro ⟨meets, letters⟩
    cases a with
    | nil =>
        cases b with
        | nil => rfl
        | cons t others => exact absurd (List.append_eq_nil_iff.mp letters.symm).1 (filled t (by simp))
    | cons s rest =>
        cases b with
        | nil => exact absurd (List.append_eq_nil_iff.mp letters).1 (filled s (by simp))
        | cons t others =>
            obtain ⟨u, more, same, settled⟩ := gathered_settled mark s rest
            obtain ⟨v, later, other, rests⟩ := gathered_settled mark t others
            rw [same] at join flat ⊢
            rw [other] at joined flattened ⊢
            apply settled_unique mark u v more later settled rests
            · rw [join, meets, joined]
            · rw [flat, letters, flattened]

theorem gathered_self (s : List Char) (rest : List (List Char)) (settled : ∀ w ∈ rest, w.head? ≠ some mark) :
    gathered mark (s :: rest) = s :: rest := by
  obtain ⟨join, flat⟩ := gathered_parts mark (s :: rest)
  obtain ⟨t, others, same, other⟩ := gathered_settled mark s rest
  rw [same] at join flat ⊢
  exact settled_unique mark t s others rest other settled join flat

end OnlineDdl.Text

namespace OnlineDdl.ObjectName

open Text

variable (table suffix : String) (columns one other : List String)

theorem plain_filled (name : String) (plain : isPlainIdentifier name = true) : name.toList ≠ [] := by
  intro empty
  rw [isPlainIdentifier, empty] at plain
  cases plain

theorem gathered_columns (settled : ∀ name ∈ columns.tail, name.toList.head? ≠ some '_') :
    gathered '_' (columns.map String.toList) = columns.map String.toList := by
  cases columns with
  | nil => rfl
  | cons first others => exact gathered_self '_' _ _ (List.forall_mem_map.mpr settled)

-- Names tell their columns apart, but for underscores at the border of two columns. Where no column but the first
-- begins with one, different columns have different names.
theorem names_tell_columns_iff (plain : ∀ name ∈ one ++ other, isPlainIdentifier name = true)
    (fits : Fits table suffix one) (whole : Fits table suffix other)
    (separates : digest table one = digest table other → digestInput table one = digestInput table other) :
    (generate table one suffix = generate table other suffix ↔
        gathered '_' (one.map String.toList) = gathered '_' (other.map String.toList)) ∧
      ((∀ name ∈ one.tail ++ other.tail, name.toList.head? ≠ some '_') →
        (generate table one suffix = generate table other suffix ↔ one = other)) := by
  have filled : ∀ s ∈ one.map String.toList ++ other.map String.toList, s ≠ [] := by
    rw [← List.map_append]
    intro s member
    obtain ⟨name, inside, rfl⟩ := List.mem_map.mp member
    exact plain_filled name (plain name inside)
  have meets : generate table one suffix = generate table other suffix ↔
      gathered '_' (one.map String.toList) = gathered '_' (other.map String.toList) := by
    rw [whole_names_meet_iff table suffix one other fits whole, digest_eq_iff table one other separates,
      gathered_eq_iff '_' _ _ filled, List.flatMap_def, List.flatMap_def]
  refine ⟨meets, fun settled => ?_⟩
  rw [meets, gathered_columns one fun name inside => settled name (List.mem_append_left _ inside),
    gathered_columns other fun name inside => settled name (List.mem_append_right _ inside)]
  exact List.map_inj_right fun _ _ => String.toList_inj.mp

theorem joined_columns_differ :
    generate "orders" ["unit", "price"] "_uniq" ≠ generate "orders" ["unit_price"] "_uniq" := by
  have told := (names_tell_columns_iff "orders" "_uniq" ["unit", "price"] ["unit_price"] (by decide)
    (by decide +kernel) (by decide +kernel) (fun same => absurd same (by decide +kernel))).2 (by decide)
  exact fun same => absurd (told.mp same) (by decide)

-- An underscore between two columns belongs to either of them, and all of their objects share a name.
theorem bordering_underscore_shared :
    let one := ["unit_", "price"]
    let other := ["unit", "_price"]
    (∀ name ∈ "orders" :: one ++ other, isPlainIdentifier name = true) ∧ one ≠ other ∧
      digestInput "orders" one = digestInput "orders" other ∧
      ∀ suffix ∈ ["", "_uniq", "_pk", "_check", "_notnull", "_like", "_idx"],
        Fits "orders" suffix one ∧ Fits "orders" suffix other ∧
          generate "orders" one suffix = generate "orders" other suffix := by
  intro one other
  exact ⟨by decide, by decide, by decide, by decide +kernel⟩

end OnlineDdl.ObjectName
