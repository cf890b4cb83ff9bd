import OnlineDdl.Text.Blank
import Mathlib.Data.List.DropRight

/-! Texts and the blanks in them. What a text says in its words, its tokens and its other characters does
not change when the blanks between its words are made one space each. -/

set_option autoImplicit false

namespace OnlineDdl.Text

theorem pieces_split (p : Char → Bool) (s : List Char) : pieces p s = s.splitOnP p := by
  induction s with
  | nil => exact List.splitOnP_nil.symm
  | cons c rest ih =>
      rw [pieces, List.splitOnP_cons_eq_if_modifyHead, ← ih]
      cases first : pieces p rest with
      | nil => exact absurd first (pieces_ne_nil p rest)
      | cons piece others => rfl

theorem pieces_append (p : Char → Bool) (a b : List Char) (c : Char) (apart : p c = true) :
    pieces p (a ++ c :: b) = pieces p a ++ pieces p b := by
  simp only [pieces_split]
  exact List.splitOnP_append_cons a b apart

theorem pieces_whole (p : Char → Bool) (s : List Char) (whole : ∀ c ∈ s, p c = false) : pieces p s = [s] := by
  rw [pieces_split]
  exact List.splitOnP_eq_singleton whole

theorem pieces_induction (p : Char → Bool) {motive : List Char → Prop}
    (whole : ∀ s, (∀ c ∈ s, p c = false) → motive s)
    (divided : ∀ a c b, (∀ d ∈ a, p d = false) → p c = true → motive b → motive (a ++ c :: b))
    (s : List Char) : motive s := by
  have from_front (front : List Char) (clear : ∀ d ∈ front, p d = false) : motive (front ++ s) := by
    induction s generalizing front with
    | nil => exact whole _ (by simpa using clear)
    | cons c rest ih =>
        cases apart : p c with
        | true => exact divided front c rest clear apart (ih [] (by simp))
        | false =>
            rw [List.append_cons]
            exact ih (front ++ [c]) (List.forall_mem_append.mpr ⟨clear, List.forall_mem_singleton.mpr apart⟩)
  exact from_front [] (by simp)

theorem piece_clear (p : Char → Bool) (s piece : List Char) (member : piece ∈ pieces p s) :
    ∀ c ∈ piece, p c = false := by
  induction s using pieces_induction p with
  | whole s clear =>
      rw [pieces_whole p s clear, List.mem_singleton] at member
      exact member ▸ clear
  | divided a c b clear apart ih =>
      rw [pieces_append p a b c apart, pieces_whole p a clear] at member
      rcases List.mem_cons.mp member with rfl | later
      · exact clear
      · exact ih later

theorem join_next (separator s t : List Char) (rest : List (List Char)) :
    joinWith separator (s :: t :: rest) = s ++ (separator ++ joinWith separator (t :: rest)) := by
  rw [joinWith, List.append_assoc]
  exact List.cons_ne_nil t rest

def Solid (s : List Char) : Prop := ∀ c ∈ s, isBlank c = false

instance (s : List Char) : Decidable (Solid s) := List.decidableBAll (isBlank · = false) s

theorem words_blank (a b : List Char) (c : Char) (blank : isBlank c = true) :
    words (a ++ c :: b) = words a ++ words b := by
  rw [words, pieces_append isBlank a b c blank, List.filter_append]
  rfl

theorem words_solid (s : List Char) (solid : Solid s) : words s = [s].filter (!·.isEmpty) := by
  rw [words, pieces_whole isBlank s solid]

theorem words_one (s : List Char) (solid : Solid s) (some : s ≠ []) : words s = [s] := by
  simp [words_solid s solid, some]

theorem word_letters (s w : List Char) (member : w ∈ words s) : ∀ c ∈ w, c ∈ s ∧ isBlank c = false := by
  induction s using pieces_induction isBlank with
  | whole s solid =>
      rw [words_solid s solid] at member
      obtain rfl := List.mem_singleton.mp (List.mem_filter.mp member).1
      exact fun c inside => ⟨inside, solid c inside⟩
  | divided a d b solid blank ih =>
      rw [words_blank a b d blank, words_solid a solid] at member
      intro c inside
      rcases List.mem_append.mp member with early | late
      · obtain rfl := List.mem_singleton.mp (List.mem_filter.mp early).1
        exact ⟨List.mem_append_left _ inside, solid c inside⟩
      · obtain ⟨further, dark⟩ := ih late c inside
        exact ⟨List.mem_append_right _ (List.mem_cons_of_mem d further), dark⟩

def Blank (s : List Char) : Prop := ∀ c ∈ s, isBlank c = true

instance (s : List Char) : Decidable (Blank s) := List.decidableBAll (isBlank · = true) s

theorem no_words (s : List Char) (none : words s = []) : Blank s := by
  induction s using pieces_induction isBlank with
  | whole s solid =>
      cases s with
      | nil => exact List.forall_mem_nil _
      | cons c rest => rw [words_one _ solid (by simp)] at none; cases none
  | divided a c b solid blank ih =>
      rw [words_blank a b c blank, List.append_eq_nil_iff] at none
      cases a with
      | nil => exact List.forall_mem_cons.mpr ⟨blank, ih none.2⟩
      | cons d rest => rw [words_one _ solid (by simp)] at none; cases none.1

theorem no_lead (lead s : List Char) (before : Blank lead) (starts : ∀ c ∈ (lead ++ s).head?, isBlank c = false) :
    lead = [] := by
  cases lead with
  | nil => rfl
  | cons c blanks =>
      have blank := before c List.mem_cons_self
      rw [starts c rfl] at blank
      cases blank

theorem first_word (s v : List Char) (rest : List (List Char)) (first : words s = v :: rest) :
    ∃ lead later, s = lead ++ (v ++ later) ∧ Blank lead ∧ words later = rest ∧
      ∀ c ∈ later.head?, isBlank c = true := by
  induction s using pieces_induction isBlank with
  | whole s solid =>
      cases s with
      | nil => cases first
      | cons c letters =>
          rw [words_one _ solid (by simp)] at first
          obtain ⟨rfl, rfl⟩ := List.cons.inj first
          exact ⟨[], [], by simp, List.forall_mem_nil _, rfl, by simp⟩
  | divided a c b solid blank ih =>
      rw [words_blank a b c blank] at first
      cases a with
      | nil =>
          obtain ⟨lead, later, rfl, before, others, next⟩ := ih first
          exact ⟨c :: lead, later, rfl, List.forall_mem_cons.mpr ⟨blank, before⟩, others, next⟩
      | cons d letters =>
          rw [words_one _ solid (by simp)] at first
          obtain ⟨rfl, rfl⟩ := List.cons.inj first
          refine ⟨[], c :: b, rfl, List.forall_mem_nil _, words_blank [] b c blank, ?_⟩
          simpa using blank

theorem drop_front (p : Char → Bool) (s : List Char) (starts : ∀ c ∈ s.head?, p c = false) :
    s.dropWhile p = s := by
  cases s with
  | nil => rfl
  | cons c rest => exact List.dropWhile_cons_of_neg (by simp [starts c rfl])

theorem drop_end (p : Char → Bool) (s trail : List Char) (ends : ∀ c ∈ s.getLast?, p c = false)
    (after : ∀ c ∈ trail, p c = true) : dropWhileEnd p (s ++ trail) = s := by
  rw [dropWhileEnd, List.reverse_append, List.dropWhile_append_of_pos (by simpa using after),
    drop_front p s.reverse (by simpa using ends), List.reverse_reverse]

theorem trim_between (lead s trail : List Char) (before : Blank lead) (after : Blank trail)
    (starts : ∀ c ∈ s.head?, isBlank c = false) (ends : ∀ c ∈ s.getLast?, isBlank c = false) :
    trim (lead ++ (s ++ trail)) = s := by
  rw [trim, List.dropWhile_append_of_pos before]
  cases s with
  | nil => rw [List.nil_append, List.dropWhile_eq_nil_iff.mpr after]; rfl
  | cons c rest =>
      rw [drop_front isBlank _ (by simpa using starts)]
      exact drop_end isBlank _ trail ends after

theorem drop_end_ends (p : Char → Bool) (s : List Char) : ∀ c ∈ (dropWhileEnd p s).getLast?, p c = false := by
  intro c last
  rw [dropWhileEnd, List.getLast?_reverse, Option.mem_def] at last
  have stops := List.head?_dropWhile_not p s.reverse
  rwa [last] at stops

theorem drop_end_cut (p : Char → Bool) (s : List Char) :
    ∃ trail, s = dropWhileEnd p s ++ trail ∧ ∀ c ∈ trail, p c = true :=
  ⟨s.rtakeWhile p, List.rdropWhile_append_rtakeWhile.symm, fun _ => List.mem_rtakeWhile_imp⟩

theorem trim_solid (lead w trail : List Char) (before : Blank lead) (after : Blank trail) (solid : Solid w) :
    trim (lead ++ (w ++ trail)) = w :=
  trim_between lead w trail before after (fun c first => solid c (List.mem_of_mem_head? first))
    fun c last => solid c (List.mem_of_getLast? last)

theorem trim_cut (s : List Char) : ∃ lead trail, s = lead ++ (trim s ++ trail) ∧ Blank lead ∧ Blank trail := by
  obtain ⟨trail, same, after⟩ := drop_end_cut isBlank (s.dropWhile isBlank)
  exact ⟨s.takeWhile isBlank, trail, by rw [trim, ← same, List.takeWhile_append_dropWhile],
    fun _ => List.mem_takeWhile_imp, after⟩

theorem trim_empty_iff (s : List Char) : trim s = [] ↔ Blank s := by
  constructor
  · intro nothing
    obtain ⟨lead, trail, same, before, after⟩ := trim_cut s
    rw [same, nothing, List.nil_append]
    exact List.forall_mem_append.mpr ⟨before, after⟩
  · intro blank
    rw [trim, List.dropWhile_eq_nil_iff.mpr blank]
    rfl

theorem split_first_some (mark : Char) (s a b : List Char) :
    splitFirst mark s = some (a, b) ↔ s = a ++ mark :: b ∧ mark ∉ a := by
  induction s generalizing a with
  | nil => simp [splitFirst]
  | cons c rest ih =>
      rw [splitFirst]
      by_cases same : c = mark
      · cases a with
        | nil => simp [same, eq_comm]
        | cons d letters => simp +contextual [same, eq_comm]
      · cases a with
        | nil => simp [same]
        | cons d letters =>
            simp only [if_neg same, Option.map_eq_some_iff, Prod.mk.injEq, List.cons.injEq, List.cons_append,
              List.mem_cons, not_or]
            constructor
            · rintro ⟨⟨before, after⟩, found, ⟨rfl, rfl⟩, rfl⟩
              obtain ⟨divided, absent⟩ := (ih before).mp found
              exact ⟨⟨rfl, divided⟩, Ne.symm same, absent⟩
            · rintro ⟨⟨rfl, divided⟩, -, absent⟩
              exact ⟨(letters, b), (ih letters).mpr ⟨divided, absent⟩, ⟨rfl, rfl⟩, rfl⟩

def tidy (s : List Char) : List Char := joinWith [' '] (words s)

theorem by_words {α : Type} (f : List Char → List α) (empty : f [] = [])
    (blank : ∀ a b c, isBlank c = true → f (a ++ c :: b) = f a ++ f b) (s : List Char) :
    f s = (words s).flatMap f := by
  induction s using pieces_induction isBlank with
  | whole s solid =>
      rw [words_solid s solid]
      by_cases none : s = [] <;> simp [none, empty]
  | divided a c b solid apart ih =>
      rw [blank a b c apart, words_blank a b c apart, List.flatMap_append, ← ih, words_solid a solid]
      by_cases none : a = [] <;> simp [none, empty]

theorem by_words_tidy {α : Type} (f : List Char → List α) (empty : f [] = [])
    (blank : ∀ a b c, isBlank c = true → f (a ++ c :: b) = f a ++ f b) (s : List Char) : f (tidy s) = f s := by
  rw [by_words f empty blank s, tidy]
  induction words s with
  | nil => exact empty
  | cons w rest ih =>
      rw [List.flatMap_cons, ← ih]
      cases rest with
      | nil => simp [joinWith, empty]
      | cons v others =>
          rw [join_next]
          exact blank w _ ' ' rfl

theorem by_words_before {α : Type} (f : List Char → List α) (empty : f [] = [])
    (blank : ∀ a b c, isBlank c = true → f (a ++ c :: b) = f a ++ f b) (lead s : List Char) (before : Blank lead) :
    f (lead ++ s) = f s := by
  induction lead with
  | nil => rfl
  | cons c rest ih =>
      have dropped := blank [] (rest ++ s) c (before c List.mem_cons_self)
      rw [empty, List.nil_append, List.nil_append] at dropped
      exact dropped.trans (ih fun d member => before d (List.mem_cons_of_mem c member))

theorem by_words_after {α : Type} (f : List Char → List α) (empty : f [] = [])
    (blank : ∀ a b c, isBlank c = true → f (a ++ c :: b) = f a ++ f b) (s trail : List Char) (after : Blank trail) :
    f (s ++ trail) = f s := by
  cases trail with
  | nil => rw [List.append_nil]
  | cons c rest =>
      have rests := by_words_before f empty blank rest [] fun d member => after d (List.mem_cons_of_mem c member)
      rw [List.append_nil, empty] at rests
      rw [blank s rest c (after c List.mem_cons_self), rests, List.append_nil]

theorem by_words_trim {α : Type} (f : List Char → List α) (empty : f [] = [])
    (blank : ∀ a b c, isBlank c = true → f (a ++ c :: b) = f a ++ f b) (s : List Char) : f (trim s) = f s := by
  obtain ⟨lead, trail, same, before, after⟩ := trim_cut s
  have around := (by_words_before f empty blank lead _ before).trans (by_words_after f empty blank (trim s) trail after)
  rw [← same] at around
  exact around.symm

theorem words_trim (s : List Char) : words (trim s) = words s := by_words_trim words rfl words_blank s

theorem words_tidy (s : List Char) : words (tidy s) = words s := by_words_tidy words rfl words_blank s

theorem trim_starts (s : List Char) : ∀ c ∈ (trim s).head?, isBlank c = false := by
  intro c first
  obtain ⟨trail, same, -⟩ := drop_end_cut isBlank (s.dropWhile isBlank)
  have front : (s.dropWhile isBlank).head? = some c := by
    rw [same, ← trim, List.head?_append, Option.mem_def.mp first, Option.some_or]
  have stops := List.head?_dropWhile_not isBlank s
  rwa [front] at stops

theorem trim_again (s : List Char) : trim (trim s) = trim s := by
  have cut := trim_between [] (trim s) [] (List.forall_mem_nil _) (List.forall_mem_nil _) (trim_starts s)
    (drop_end_ends isBlank _)
  rwa [List.append_nil, List.nil_append] at cut

-- The first word decides on what a text begins with, as far as no blanks are asked for.
theorem solid_prefix (v w later : List Char) (solid : Solid v) (next : ∀ c ∈ later.head?, isBlank c = true) :
    v <+: w ++ later ↔ v <+: w := by
  constructor
  · rintro ⟨rest, same⟩
    rcases List.append_eq_append_iff.mp same with ⟨u, rfl, -⟩ | ⟨u, rfl, behind⟩
    · exact List.prefix_append v u
    · cases u with
      | nil => exact (List.append_nil w).symm ▸ List.prefix_rfl
      | cons c letters =>
          have dark := solid c (List.mem_append_right _ List.mem_cons_self)
          rw [next c (by rw [behind]; rfl)] at dark
          cases dark
  · exact fun begins => begins.trans (List.prefix_append w later)

theorem tidy_begins (v s : List Char) (solid : Solid v) (starts : ∀ c ∈ s.head?, isBlank c = false) :
    v <+: tidy s ↔ v <+: s := by
  cases divided : words s with
  | nil =>
      rw [no_lead s [] (no_words s divided) (by rwa [List.append_nil])]
      rfl
  | cons w rest =>
      obtain ⟨lead, later, rfl, before, -, next⟩ := first_word s w rest divided
      obtain ⟨y, joined, behind⟩ : ∃ y, joinWith [' '] (w :: rest) = w ++ y ∧ ∀ c ∈ y.head?, isBlank c = true := by
        cases rest with
        | nil => exact ⟨[], (List.append_nil w).symm, by simp⟩
        | cons u others => exact ⟨_, join_next [' '] w u others, by simp; decide⟩
      rw [tidy, divided, joined, no_lead lead _ before starts, List.nil_append, solid_prefix v w y solid behind,
        solid_prefix v w later solid next]

-- Every blank is one space and has another character behind it.
def Spaced : List Char → Prop
  | [] => True
  | [c] => isBlank c = false
  | c :: d :: rest => (isBlank c = true → c = ' ' ∧ isBlank d = false) ∧ Spaced (d :: rest)

theorem spaced_next (c : Char) (s : List Char) (spaced : Spaced (c :: s)) : Spaced s := by
  cases s with
  | nil => trivial
  | cons d rest => exact spaced.2

theorem spaced_rest (a s : List Char) (spaced : Spaced (a ++ s)) : Spaced s := by
  induction a with
  | nil => exact spaced
  | cons c rest ih => exact ih (spaced_next c _ spaced)

theorem spaced_dark (c : Char) (s : List Char) (dark : isBlank c = false) (spaced : Spaced s) : Spaced (c :: s) := by
  cases s with
  | nil => exact dark
  | cons d rest => exact ⟨fun blank => absurd blank (by simp [dark]), spaced⟩

theorem spaced_solid (a s : List Char) (solid : Solid a) (spaced : Spaced s) : Spaced (a ++ s) := by
  induction a with
  | nil => exact spaced
  | cons c rest ih =>
      exact spaced_dark c _ (solid c List.mem_cons_self) (ih fun d member => solid d (List.mem_cons_of_mem c member))

theorem spaced_ends (s : List Char) (spaced : Spaced s) : ∀ c ∈ s.getLast?, isBlank c = false := by
  intro c last
  obtain ⟨front, rfl⟩ := List.getLast?_eq_some_iff.mp last
  exact spaced_rest front [c] spaced

def AreWords (ws : List (List Char)) : Prop := ∀ w ∈ ws, w ≠ [] ∧ Solid w

theorem words_are_words (s : List Char) : AreWords (words s) := fun w member =>
  ⟨by simpa using (List.mem_filter.mp member).2, fun c inside => (word_letters s w member c inside).2⟩

theorem join_starts (w : List Char) (ws : List (List Char)) (good : AreWords (w :: ws)) :
    ∃ c rest, joinWith [' '] (w :: ws) = c :: rest ∧ isBlank c = false := by
  obtain ⟨some, solid⟩ := good w List.mem_cons_self
  obtain ⟨c, letters, rfl⟩ := List.exists_cons_of_ne_nil some
  have dark := solid c List.mem_cons_self
  cases ws with
  | nil => exact ⟨c, letters, rfl, dark⟩
  | cons v others => exact ⟨c, _, join_next _ _ _ _, dark⟩

theorem spaced_join (ws : List (List Char)) (good : AreWords ws) : Spaced (joinWith [' '] ws) := by
  induction ws with
  | nil => trivial
  | cons w rest ih =>
      have later := ih fun v member => good v (List.mem_cons_of_mem w member)
      have solid := (good w List.mem_cons_self).2
      cases rest with
      | nil =>
          have alone := spaced_solid w [] solid trivial
          rwa [List.append_nil] at alone
      | cons v others =>
          have further : AreWords (v :: others) := fun u member => good u (List.mem_cons_of_mem w member)
          obtain ⟨c, letters, starts, dark⟩ := join_starts v others further
          rw [join_next]
          refine spaced_solid w _ solid ?_
          rw [starts] at later ⊢
          exact ⟨fun _ => ⟨rfl, dark⟩, later⟩

theorem tidy_spaced (s : List Char) : Spaced (tidy s) := spaced_join _ (words_are_words s)

theorem spaced_gap (gap s : List Char) (c : Char) (blank : Blank gap) (spaced : Spaced (gap ++ c :: s)) :
    gap = [] ∨ gap = [' '] := by
  cases gap with
  | nil => exact .inl rfl
  | cons d blanks =>
      cases blanks with
      | nil => exact .inr (congrArg ([·]) (spaced.1 (blank d List.mem_cons_self)).1)
      | cons e more =>
          have second := blank e (List.mem_cons_of_mem d List.mem_cons_self)
          rw [(spaced.1 (blank d List.mem_cons_self)).2] at second
          cases second

theorem spaced_words (ws : List (List Char)) (s rest : List Char) (m : Char) (same : words s = ws)
    (spaced : Spaced (s ++ m :: rest)) :
    ∃ lead trail, s = lead ++ (joinWith [' '] ws ++ trail) ∧ Blank lead ∧ Blank trail := by
  induction ws generalizing s with
  | nil => exact ⟨s, [], by simp [joinWith], no_words s same, List.forall_mem_nil _⟩
  | cons v others ih =>
      obtain ⟨lead, later, rfl, before, rests, next⟩ := first_word s v others same
      rw [List.append_assoc, List.append_assoc] at spaced
      have further := spaced_rest v _ (spaced_rest lead _ spaced)
      obtain ⟨gap, trail, rfl, between, after⟩ := ih later rests further
      cases others with
      | nil =>
          refine ⟨lead, gap ++ trail, by simp [joinWith], before, ?_⟩
          exact List.forall_mem_append.mpr ⟨between, after⟩
      | cons w more =>
          have good := words_are_words (gap ++ (joinWith [' '] (w :: more) ++ trail))
          rw [rests] at good
          obtain ⟨c, letters, starts, dark⟩ := join_starts w more good
          refine ⟨lead, trail, ?_, before, after⟩
          have single : gap = [' '] := by
            rw [starts] at further next
            rw [List.append_assoc] at further
            refine (spaced_gap gap _ c between further).resolve_left ?_
            rintro rfl
            exact absurd (next c rfl) (by simp [dark])
          rw [single, join_next]
          simp

theorem tidy_starts (s : List Char) : ∀ c ∈ (tidy s).head?, isBlank c = false := by
  cases divided : words s with
  | nil => simp [tidy, divided, joinWith]
  | cons w others =>
      obtain ⟨c, letters, starts, dark⟩ := join_starts w others (divided ▸ words_are_words s)
      simp [tidy, divided, starts, dark]

theorem trim_spaced (s rest : List Char) (m : Char) (spaced : Spaced (s ++ m :: rest)) : trim s = tidy s := by
  obtain ⟨lead, trail, same, before, after⟩ := spaced_words _ s rest m rfl spaced
  have cut := trim_between lead (tidy s) trail before after (tidy_starts s) (spaced_ends _ (tidy_spaced s))
  rwa [tidy, ← same, ← tidy] at cut

def strip (s : List Char) : List Char := s.filter fun c => !isBlank c

theorem strip_append (a b : List Char) : strip (a ++ b) = strip a ++ strip b := List.filter_append ..

theorem strip_blank (a b : List Char) (c : Char) (blank : isBlank c = true) :
    strip (a ++ c :: b) = strip a ++ strip b := by
  rw [strip_append, strip, strip, List.filter_cons, if_neg (by simp [blank])]
  rfl

theorem strip_solid (s : List Char) (solid : Solid s) : strip s = s :=
  List.filter_eq_self.mpr fun c member => by simp [solid c member]

theorem words_flat (s : List Char) : (words s).flatten = strip s := by
  rw [by_words strip rfl strip_blank s, List.flatten_eq_flatMap]
  refine List.flatMap_congr fun w member => ?_
  exact (strip_solid w fun c inside => (word_letters s w member c inside).2).symm

theorem pieces_strip (p : Char → Bool) (dark : ∀ c, p c = true → isBlank c = false) (s : List Char) :
    pieces p (strip s) = (pieces p s).map strip := by
  induction s using pieces_induction p with
  | whole s clear =>
      rw [pieces_whole p s clear]
      exact pieces_whole p _ fun c member => clear c (List.mem_filter.mp member).1
  | divided a c b clear apart ih =>
      have kept : strip (c :: b) = c :: strip b := List.filter_cons_of_pos (by simp [dark c apart])
      rw [strip_append, kept, pieces_append p _ _ c apart, pieces_append p a b c apart, List.map_append, ih,
        pieces_whole p a clear]
      congr 1
      exact pieces_whole p _ fun d member => clear d (List.mem_filter.mp member).1

def isMark (c : Char) : Bool := c == '(' || c == ')' || c == ','

theorem mark_cases (c : Char) (mark : isMark c = true) : c = '(' ∨ c = ')' ∨ c = ',' := by
  simpa [isMark, or_assoc] using mark

def spread (s : List Char) : List Char := s.flatMap fun c => if isMark c then [' ', c, ' '] else [c]

def tokens (s : List Char) : List (List Char) := words (spread s)

theorem spread_append (a b : List Char) : spread (a ++ b) = spread a ++ spread b := List.flatMap_append

theorem blank_no_mark (c : Char) (blank : isBlank c = true) : isMark c = false := by
  cases mark : isMark c with
  | false => rfl
  | true => rcases mark_cases c mark with rfl | rfl | rfl <;> cases blank

theorem mark_absent (s : List Char) (m : Char) (mark : isMark m = true) (unmarked : ∀ c ∈ s, isMark c = false) :
    m ∉ s := by
  intro member
  rw [unmarked m member] at mark
  cases mark

theorem blank_unmarked (s : List Char) (blank : Blank s) : ∀ c ∈ s, isMark c = false :=
  fun c member => blank_no_mark c (blank c member)

theorem tokens_blank (a b : List Char) (c : Char) (blank : isBlank c = true) :
    tokens (a ++ c :: b) = tokens a ++ tokens b := by
  have same : spread (c :: b) = c :: spread b := by simp [spread, blank_no_mark c blank]
  rw [tokens, spread_append, same]
  exact words_blank _ _ c blank

theorem tokens_mark (a b : List Char) (m : Char) (mark : isMark m = true) :
    tokens (a ++ m :: b) = tokens a ++ [m] :: tokens b := by
  have dark : isBlank m = false := by
    cases blank : isBlank m with
    | false => rfl
    | true => rw [blank_no_mark m blank] at mark; cases mark
  have apart : spread (a ++ m :: b) = spread a ++ ' ' :: ([m] ++ ' ' :: spread b) := by simp [spread, mark]
  rw [tokens, apart, words_blank _ _ ' ' rfl, words_blank _ _ ' ' rfl,
    words_one [m] (List.forall_mem_singleton.mpr dark) (by simp)]
  rfl

theorem token_letters (s w : List Char) (member : w ∈ tokens s) : ∀ c ∈ w, c ∈ s ∧ isBlank c = false := by
  intro c inside
  obtain ⟨spread, dark⟩ := word_letters _ w member c inside
  obtain ⟨d, found, same⟩ := List.mem_flatMap.mp spread
  split at same
  · rcases (by simpa using same) with rfl | rfl | rfl
    · cases dark
    · exact ⟨found, dark⟩
    · cases dark
  · rw [List.mem_singleton.mp same] at dark ⊢
    exact ⟨found, dark⟩

theorem mark_token (s : List Char) (m : Char) (mark : isMark m = true) : [m] ∈ tokens s ↔ m ∈ s := by
  constructor
  · exact fun member => (token_letters s [m] member m (List.mem_singleton_self m)).1
  · intro member
    obtain ⟨a, b, rfl⟩ := List.append_of_mem member
    rw [tokens_mark a b m mark]
    exact List.mem_append_right _ List.mem_cons_self

theorem tokens_plain (s : List Char) (plain : ∀ c ∈ s, isMark c = false) : tokens s = words s := by
  have same : spread s = s := by
    rw [spread, List.flatMap_congr fun c member => if_neg (by simp [plain c member])]
    exact List.flatMap_singleton' s
  rw [tokens, same]

theorem tokens_words (s : List Char) (plain : ∀ m, isMark m = true → [m] ∉ tokens s) : tokens s = words s := by
  refine tokens_plain s fun c member => ?_
  cases mark : isMark c with
  | false => rfl
  | true => exact absurd ((mark_token s c mark).mpr member) (plain c mark)

theorem no_tokens (s : List Char) (none : tokens s = []) : Blank s := by
  rw [tokens_words s (by simp [none])] at none
  exact no_words s none

theorem tokens_one (s : List Char) (solid : Solid s) (plain : ∀ c ∈ s, isMark c = false) (some : s ≠ []) :
    tokens s = [s] := by
  rw [tokens_plain s plain, words_one s solid some]

theorem tokens_tidy (s : List Char) : tokens (tidy s) = tokens s := by_words_tidy tokens rfl tokens_blank s

theorem tokens_flat (s : List Char) : (tokens s).flatten = strip s := by
  rw [tokens, words_flat]
  induction s with
  | nil => rfl
  | cons c rest ih =>
      have alone : strip (if isMark c then [' ', c, ' '] else [c]) = strip [c] := by
        split
        · change strip ([c] ++ [' ']) = strip [c]
          rw [strip_append]
          exact List.append_nil _
        · rfl
      calc
        _ = strip (if isMark c then [' ', c, ' '] else [c]) ++ strip (spread rest) := strip_append _ _
        _ = strip [c] ++ strip rest := by rw [alone, ih]
        _ = _ := (strip_append [c] rest).symm

theorem tokens_trim (s : List Char) : tokens (trim s) = tokens s := by_words_trim tokens rfl tokens_blank s

theorem trim_token (s w : List Char) (solid : Solid w) (plain : ∀ c ∈ w, isMark c = false)
    (one : tokens s = [w]) : trim s = w := by
  have unmarked (m : Char) (mark : isMark m = true) : [m] ∉ tokens s := by
    rw [one, List.mem_singleton]
    rintro rfl
    exact absurd (plain m (List.mem_singleton_self m)) (by simp [mark])
  rw [tokens_words s unmarked] at one
  obtain ⟨lead, later, rfl, before, rests, -⟩ := first_word s w [] one
  exact trim_solid lead w later before (no_words later rests) solid

end OnlineDdl.Text
