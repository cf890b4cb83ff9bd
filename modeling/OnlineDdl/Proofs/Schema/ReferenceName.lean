import OnlineDdl.Change.Requested
import OnlineDdl.Proofs.Schema.ObjectName
import OnlineDdl.Proofs.Text.Spacing

/-! The names that are generated for references. Underscores stand between the parts of such a name and
may stand inside them, so that two references may be given one name: where all parts agree, and where the
columns of one reference spell out the columns and the digest of the other. -/

set_option autoImplicit false

namespace OnlineDdl.Text

variable (mark : Char)

theorem marks_meet_iff (a b x y : List Char) :
    a ++ mark :: x = b ++ mark :: y ↔
      (a = b ∧ x = y) ∨ (∃ more, b = a ++ mark :: more ∧ x = more ++ mark :: y) ∨
        ∃ more, a = b ++ mark :: more ∧ y = more ++ mark :: x := by
  constructor
  · intro same
    rcases List.append_eq_append_iff.mp same with ⟨between, longer, rest⟩ | ⟨between, longer, rest⟩
    · cases between with
      | nil => exact .inl ⟨by simpa using longer.symm, by simpa using rest⟩
      | cons c more =>
          obtain ⟨rfl, behind⟩ := List.cons.inj rest
          exact .inr (.inl ⟨more, longer, behind⟩)
    · cases between with
      | nil => exact .inl ⟨by simpa using longer, by simpa using rest.symm⟩
      | cons c more =>
          obtain ⟨rfl, behind⟩ := List.cons.inj rest
          exact .inr (.inr ⟨more, longer, behind⟩)
  · rintro (⟨rfl, rfl⟩ | ⟨more, rfl, rfl⟩ | ⟨more, rfl, rfl⟩) <;> simp

theorem first_mark_iff (a b x y : List Char) (clear : mark ∉ a) :
    a ++ mark :: x = b ++ mark :: y ↔
      (a = b ∧ x = y) ∨ ∃ more, b = a ++ mark :: more ∧ x = more ++ mark :: y := by
  rw [marks_meet_iff]
  constructor
  · rintro (same | longer | ⟨more, rfl, -⟩)
    · exact .inl same
    · exact .inr longer
    · exact absurd (by simp) clear
  · rintro (same | longer)
    · exact .inl same
    · exact .inr (.inl longer)

theorem only_mark_iff (a b x y : List Char) (clear : mark ∉ a) (free : mark ∉ b) :
    a ++ mark :: x = b ++ mark :: y ↔ a = b ∧ x = y := by
  rw [first_mark_iff mark a b x y clear]
  constructor
  · rintro (same | ⟨more, rfl, -⟩)
    · exact same
    · exact absurd (by simp) free
  · exact .inl

theorem joined_apart (names : List (List Char)) (simple : ∀ s ∈ names, s ≠ [] ∧ mark ∉ s) :
    (pieces (· == mark) (joinWith [mark] names)).filter (!·.isEmpty) = names := by
  have one (s : List Char) (clear : mark ∉ s) : pieces (· == mark) s = [s] :=
    pieces_whole _ s fun c member => beq_eq_false_iff_ne.mpr fun same => clear (same ▸ member)
  induction names with
  | nil => rfl
  | cons s rest ih =>
      obtain ⟨⟨filled, clear⟩, others⟩ := List.forall_mem_cons.mp simple
      cases rest with
      | nil => simp [joinWith, one s clear, filled]
      | cons t more =>
          have next := pieces_append (· == mark) s (joinWith [mark] (t :: more)) mark (beq_self_eq_true mark)
          rw [join_next, List.singleton_append, next, one s clear, List.filter_append, ih others]
          simp [filled]

theorem join_injective (a b : List (List Char)) (simple : ∀ s ∈ a, s ≠ [] ∧ mark ∉ s)
    (other : ∀ s ∈ b, s ≠ [] ∧ mark ∉ s) : joinWith [mark] a = joinWith [mark] b ↔ a = b := by
  constructor
  · intro same
    rw [← joined_apart mark a simple, same, joined_apart mark b other]
  · exact congrArg _

end OnlineDdl.Text

namespace OnlineDdl.ObjectName

open Text

theorem digest_unmarked (table : String) (columns : List String) : '_' ∉ digest table columns := by
  intro member
  exact absurd (digest_digits table columns '_' member) (by decide)

-- What a name says behind the table: the columns, the digits and what the columns refer to.
@[ext]
structure Label where
  columns : List Char
  digits : List Char
  target : List Char
  size : digits.length = 8
  clear : '_' ∉ digits

namespace Label

def of (table : String) (columns : List String) (reference : Reference) : Label where
  columns := joinWith ['_'] (columns.map String.toList)
  digits := digest table columns
  target := reference.table.toList ++ '_' :: (reference.columns.headD "").toList
  size := digest_length table columns
  clear := digest_unmarked table columns

def purpose (l : Label) : List Char := "fk".toList ++ '_' :: l.target

def text (l : Label) : List Char := l.columns ++ '_' :: (l.digits ++ '_' :: l.purpose)

-- The columns of the other label spell out the columns and the digits of the one, and go on. What is left
-- of the other label is then what the one refers to.
def Spells (one other : Label) : Prop :=
  ∃ more, other.columns = one.columns ++ '_' :: (one.digits ++ '_' :: ("fk".toList ++ more)) ∧
    '_' :: one.target = more ++ '_' :: (other.digits ++ '_' :: other.purpose)

theorem spells_of (one other : Label) (more : List Char) (longer : other.columns = one.columns ++ '_' :: more)
    (rest : one.digits ++ '_' :: one.purpose = more ++ '_' :: (other.digits ++ '_' :: other.purpose)) :
    Spells one other := by
  have unmarked : '_' ∉ "fk".toList := by decide
  rcases (first_mark_iff '_' _ _ _ _ one.clear).mp rest with ⟨-, same⟩ | ⟨beyond, rfl, same⟩
  · -- The digits of the other label would be the mark of a reference, which is too short.
    obtain ⟨short, -⟩ := (only_mark_iff '_' _ _ _ _ unmarked other.clear).mp same
    have size := other.size
    rw [← short] at size
    exact absurd size (by decide)
  · rcases (first_mark_iff '_' _ _ _ _ unmarked).mp same with ⟨rfl, behind⟩ | ⟨further, rfl, behind⟩
    · exact ⟨[], by rw [longer, List.append_nil], by rw [behind]; rfl⟩
    · exact ⟨'_' :: further, longer, by rw [behind]; rfl⟩

theorem text_spelled (one other : Label) (spelled : Spells one other) : one.text = other.text := by
  obtain ⟨more, longer, rest⟩ := spelled
  rw [text, text, longer, purpose, rest]
  simp

theorem text_eq_iff (one other : Label) :
    one.text = other.text ↔ one = other ∨ Spells one other ∨ Spells other one := by
  constructor
  · intro same
    rcases (marks_meet_iff '_' _ _ _ _).mp same with ⟨columns, rest⟩ | ⟨more, longer, rest⟩ | ⟨more, longer, rest⟩
    · obtain ⟨digits, purpose⟩ := (only_mark_iff '_' _ _ _ _ one.clear other.clear).mp rest
      have target : one.target = other.target := (List.cons.inj (List.append_cancel_left purpose)).2
      exact .inl (Label.ext columns digits target)
    · exact .inr (.inl (spells_of one other more longer rest))
    · exact .inr (.inr (spells_of other one more longer rest))
  · rintro (rfl | spelled | spelled)
    · rfl
    · exact text_spelled one other spelled
    · exact (text_spelled other one spelled).symm

theorem spelled_marks (one other : Label) (spelled : Spells one other) : 1 < one.target.count '_' := by
  obtain ⟨more, -, rest⟩ := spelled
  have marks := congrArg (List.count '_') rest
  simp only [purpose, List.count_append, List.count_cons, beq_self_eq_true, if_true] at marks
  omega

end Label

end OnlineDdl.ObjectName
