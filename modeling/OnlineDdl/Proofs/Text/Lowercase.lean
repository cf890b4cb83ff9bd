import OnlineDdl.Proofs.Text.Spacing
import OnlineDdl.Text.Lowercase

/-! Lowercasing a text piece by piece. Blanks and quotes carry no letter case, so that what stands between
two of them is lowercased on its own, and no other character turns into one of them. -/

set_option autoImplicit false

namespace OnlineDdl.Text

def apart (a b : List (Nat × Nat)) : Bool :=
  a.all fun (first, last) => b.all fun (low, high) => last < low || high < first

theorem apart_ranges (a b : List (Nat × Nat)) (c : Char) (clear : apart a b = true) (inside : inRanges a c = true) :
    inRanges b c = false := by
  obtain ⟨⟨first, last⟩, member, within⟩ := List.any_eq_true.mp inside
  refine List.any_eq_false.mpr fun ⟨low, high⟩ other => ?_
  have between := of_decide_eq_true within
  have separate := List.all_eq_true.mp (List.all_eq_true.mp clear _ member) _ other
  simp only [Bool.or_eq_true, decide_eq_true_eq] at separate
  simp only [decide_eq_true_eq]
  omega

def unmapped (ranges : List (Nat × Nat)) : Bool :=
  LetterCase.lowercaseRows.all fun (first, last, _, image) =>
    apart [(first, last), (image, image + (last - first))] ranges

theorem mapped_apart (ranges : List (Nat × Nat)) (clear : unmapped ranges = true) (first last step image : Nat)
    (row : (first, last, step, image) ∈ LetterCase.lowercaseRows) (c : Char)
    (mapped : first ≤ c.toNat ∧ c.toNat ≤ last ∨ image ≤ c.toNat ∧ c.toNat ≤ image + (last - first)) :
    inRanges ranges c = false := by
  refine apart_ranges _ ranges c (List.all_eq_true.mp clear _ row) ?_
  simpa [inRanges] using mapped

theorem lowercase_cases (c : Char) :
    c.toNat < 128 ∧ LetterCase.lowercase c = c.toLower ∨ LetterCase.lowercase c = c ∨
      ∃ first last step image, (first, last, step, image) ∈ LetterCase.lowercaseRows ∧
        first ≤ c.toNat ∧ c.toNat ≤ last ∧
        LetterCase.lowercase c = Char.ofNat (image + (c.toNat - first)) := by
  by_cases low : c.toNat < 128
  · exact .inl ⟨low, by rw [LetterCase.lowercase, if_pos low]⟩
  · refine .inr ?_
    rw [LetterCase.lowercase, if_neg low]
    split
    · next code found =>
        obtain ⟨⟨first, last, step, image⟩, row, mapped⟩ := List.exists_of_findSome?_eq_some found
        rw [LetterCase.rowImage] at mapped
        split at mapped
        · next within =>
            obtain rfl := Option.some.inj mapped
            exact .inr ⟨first, last, step, image, row, within.1, within.2.1, rfl⟩
        · cases mapped
    · exact .inl rfl

theorem of_nat_cases (n : Nat) : (Char.ofNat n).toNat = n ∨ Char.ofNat n = '\x00' := by
  by_cases valid : n.isValidChar
  · exact .inl (by rw [Char.ofNat, dif_pos valid]; rfl)
  · exact .inr (by rw [Char.ofNat, dif_neg valid]; rfl)

-- Characters that lowercasing leaves as they are, and no character becomes one of them.
structure Inert (p : Char → Bool) : Prop where
  uncased : ∀ c, p c = true → LetterCase.isCased c = false
  unignored : ∀ c, p c = true → LetterCase.isIgnorable c = false
  fixed : ∀ c, p c = true → LetterCase.lowercase c = c
  others : ∀ before c after, p c = false → ∀ d ∈ lowerInContext before c after, p d = false

theorem ascii_cases (c : Char) (low : c.toNat < 128) : c ∈ (List.range 128).map Char.ofNat :=
  List.mem_map.mpr ⟨c.toNat, List.mem_range.mpr low, Char.ofNat_toNat c⟩

theorem inert_ranges (ranges : List (Nat × Nat)) (uncased : apart ranges LetterCase.casedRanges = true)
    (unignored : apart ranges LetterCase.ignorableRanges = true) (clear : unmapped ranges = true)
    (special : ['\x00', 'i', '\u0307', 'ς', 'σ'].all (fun c => !inRanges ranges c) = true)
    (ascii : ((List.range 128).map Char.ofNat).all (fun c => inRanges ranges c.toLower == inRanges ranges c &&
      (!inRanges ranges c || c.toLower == c)) = true) : Inert (inRanges ranges) where
  uncased c inside := apart_ranges ranges _ c uncased inside
  unignored c inside := apart_ranges ranges _ c unignored inside
  fixed c inside := by
    rcases lowercase_cases c with ⟨low, same⟩ | same | ⟨first, last, step, image, row, starts, ends, -⟩
    · have kept := List.all_eq_true.mp ascii c (ascii_cases c low)
      rw [inside, Bool.not_true, Bool.false_or] at kept
      rw [same, beq_iff_eq.mp ((Bool.and_eq_true _ _).mp kept).2]
    · exact same
    · rw [mapped_apart ranges clear first last step image row c (.inl ⟨starts, ends⟩)] at inside
      cases inside
  others before c after outside d member := by
    have clean (e : Char) (listed : e ∈ ['\x00', 'i', '\u0307', 'ς', 'σ']) : inRanges ranges e = false := by
      simpa using List.all_eq_true.mp special e listed
    rw [lowerInContext] at member
    split at member
    · rcases List.mem_pair.mp member with rfl | rfl <;> exact clean _ (by decide)
    · split at member
      · split at member <;> rw [List.mem_singleton.mp member] <;> exact clean _ (by decide)
      · rw [List.mem_singleton.mp member]
        rcases lowercase_cases c with ⟨low, same⟩ | same | ⟨first, last, step, image, row, starts, ends, same⟩
        · have kept := List.all_eq_true.mp ascii c (ascii_cases c low)
          rw [same, beq_iff_eq.mp ((Bool.and_eq_true _ _).mp kept).1, outside]
        · rw [same, outside]
        · rw [same]
          rcases of_nat_cases (image + (c.toNat - first)) with code | zero
          · exact mapped_apart ranges clear first last step image row _ (.inr (by omega))
          · rw [zero]
            exact clean _ (by decide)

theorem inert_blank : Inert isBlank :=
  inert_ranges blankRanges (by decide +kernel) (by decide +kernel) (by decide +kernel) (by decide +kernel)
    (by decide +kernel)

theorem inert_quote : Inert (· == '"') := by
  have same : (fun c => c == '"') = inRanges [(0x22, 0x22)] := by
    funext c
    rw [Bool.eq_iff_iff, beq_iff_eq, ← Char.toNat_inj, inRanges, List.any_cons, List.any_nil, Bool.or_false,
      decide_eq_true_eq]
    exact ⟨fun same => by rw [same]; decide, fun ⟨low, high⟩ => Nat.le_antisymm high low⟩
  rw [same]
  exact inert_ranges _ (by decide +kernel) (by decide +kernel) (by decide +kernel) (by decide +kernel)
    (by decide +kernel)

variable (p : Char → Bool) (inert : Inert p)

include inert

-- The search for a cased letter ends at such a character, as it ends where the text does.
theorem meets_cased_inert (s t : List Char) (c : Char) (stops : p c = true) :
    meetsCased (s ++ c :: t) = meetsCased s := by
  rw [meetsCased, meetsCased, List.dropWhile_append, List.dropWhile_cons_of_neg (by simp [inert.unignored c stops])]
  cases s.dropWhile LetterCase.isIgnorable with
  | nil => simp [inert.uncased c stops]
  | cons d rest => rfl

theorem lower_in_context_inert (before after : List Char) (c : Char) (stops : p c = true) :
    lowerInContext before c after = [c] := by
  have uncased := inert.uncased c stops
  rw [lowerInContext, if_neg, if_neg, inert.fixed c stops]
  · rintro rfl
    revert uncased
    decide +kernel
  · rintro rfl
    revert uncased
    decide +kernel

theorem lower_in_context_after (before after rest : List Char) (c d : Char) (stops : p c = true) :
    lowerInContext before d (after ++ c :: rest) = lowerInContext before d after := by
  rw [lowerInContext, lowerInContext, meets_cased_inert p inert after rest c stops]

theorem lower_in_context_before (before earlier after : List Char) (c d : Char) (stops : p c = true) :
    lowerInContext (before ++ c :: earlier) d after = lowerInContext before d after := by
  rw [lowerInContext, lowerInContext, meets_cased_inert p inert before earlier c stops]

theorem lower_from_inert (before earlier s : List Char) (c : Char) (stops : p c = true) :
    lowerFrom (before ++ c :: earlier) s = lowerFrom before s := by
  induction s generalizing before with
  | nil => rfl
  | cons d rest ih =>
      rw [lowerFrom, lowerFrom, lower_in_context_before p inert before earlier rest c d stops]
      exact congrArg _ (ih (d :: before))

theorem lower_append (a b : List Char) (c : Char) (stops : p c = true) :
    lower (a ++ c :: b) = lower a ++ c :: lower b := by
  have from_before (before : List Char) : lowerFrom before (a ++ c :: b) = lowerFrom before a ++ c :: lower b := by
    induction a generalizing before with
    | nil =>
        change lowerInContext before c b ++ lowerFrom (c :: before) b = c :: lower b
        rw [lower_in_context_inert p inert before b c stops]
        exact congrArg (c :: ·) (lower_from_inert p inert [] before b c stops)
    | cons d rest ih =>
        rw [List.cons_append, lowerFrom, lowerFrom, lower_in_context_after p inert before rest b c d stops, ih,
          List.append_assoc]
  exact from_before []

theorem lower_whole (s : List Char) (clear : ∀ c ∈ s, p c = false) : ∀ d ∈ lower s, p d = false := by
  have from_before (before : List Char) : ∀ d ∈ lowerFrom before s, p d = false := by
    induction s generalizing before with
    | nil => simp [lowerFrom]
    | cons c rest ih =>
        refine List.forall_mem_append.mpr ⟨inert.others before c rest (clear c List.mem_cons_self), ?_⟩
        exact ih (fun d member => clear d (List.mem_cons_of_mem c member)) (c :: before)
  exact from_before []

theorem pieces_lower (s : List Char) : pieces p (lower s) = (pieces p s).map lower := by
  induction s using pieces_induction p with
  | whole s clear => rw [pieces_whole p s clear, pieces_whole p _ (lower_whole p inert s clear), List.map_singleton]
  | divided a c b clear stops ih =>
      rw [lower_append p inert a b c stops, pieces_append p _ _ c stops, pieces_append p a b c stops, ih,
        List.map_append, pieces_whole p a clear, pieces_whole p _ (lower_whole p inert a clear), List.map_singleton]

omit inert

theorem lower_in_context_some (before after : List Char) (c : Char) : lowerInContext before c after ≠ [] := by
  rw [lowerInContext]
  split
  · simp
  · split
    · split <;> simp
    · simp

theorem lower_is_empty (s : List Char) : (lower s).isEmpty = s.isEmpty := by
  cases s with
  | nil => rfl
  | cons c rest => simp [lower, lowerFrom, lower_in_context_some]

theorem lower_starts (s : List Char) (starts : ∀ c ∈ s.head?, isBlank c = false) :
    ∀ c ∈ (lower s).head?, isBlank c = false := by
  cases s with
  | nil => exact starts
  | cons c rest =>
      intro d first
      obtain ⟨e, letters, same⟩ := List.exists_cons_of_ne_nil (lower_in_context_some [] rest c)
      rw [lower, lowerFrom, same] at first
      refine inert_blank.others [] c rest (starts c rfl) d ?_
      rw [same]
      exact List.mem_cons.mpr (.inl (Option.some.inj first).symm)

theorem words_lower (s : List Char) : words (lower s) = (words s).map lower := by
  rw [words, pieces_lower isBlank inert_blank, List.filter_map, words]
  congr 1
  refine List.filter_congr fun piece _ => ?_
  simp [lower_is_empty]

theorem tidy_lower (s : List Char) : tidy (lower s) = lower (tidy s) := by
  rw [tidy, tidy, words_lower]
  induction words s with
  | nil => rfl
  | cons w rest ih =>
      cases rest with
      | nil => rfl
      | cons v others =>
          rw [List.map_cons, List.map_cons, join_next, join_next, ← List.map_cons, ih]
          exact (lower_append isBlank inert_blank w _ ' ' rfl).symm

theorem to_lower_high (c : Char) (high : 128 ≤ c.toNat) : c.toLower = c := by
  delta Char.toLower
  refine dif_neg ?_
  rintro ⟨-, last⟩
  have code : c.toNat ≤ 90 := last
  omega

theorem to_lower_kept (p : Char → Bool)
    (each : ((List.range 128).map Char.ofNat).all (fun d => !p d || d.toLower == d) = true) (c : Char)
    (holds : p c = true) : c.toLower = c := by
  by_cases low : c.toNat < 128
  · have kept := List.all_eq_true.mp each c (ascii_cases c low)
    rw [holds, Bool.not_true, Bool.false_or] at kept
    exact beq_iff_eq.mp kept
  · exact to_lower_high c (Nat.le_of_not_lt low)

theorem lower_ascii (s : List Char) (plain : ∀ c ∈ s, c.toLower.toNat < 128 ∨ isBlank c.toLower = true) :
    lower s = s.map Char.toLower := by
  have from_before (before : List Char) : lowerFrom before s = s.map Char.toLower := by
    induction s generalizing before with
    | nil => rfl
    | cons c rest ih =>
        have alone : lowerInContext before c rest = [c.toLower] := by
          by_cases low : c.toNat < 128
          · rw [lowerInContext, if_neg, if_neg, LetterCase.lowercase, if_pos low]
            · rintro rfl
              revert low
              decide
            · rintro rfl
              revert low
              decide
          · have same := to_lower_high c (Nat.le_of_not_lt low)
            rcases plain c List.mem_cons_self with small | blank
            · rw [same] at small
              exact absurd small low
            · rw [same] at blank ⊢
              exact lower_in_context_inert isBlank inert_blank before rest c blank
        rw [lowerFrom, alone, ih fun d member => plain d (List.mem_cons_of_mem c member)]
        rfl
  exact from_before []

-- Digits, the plus sign, the underscore and the small letters but `k`, which the Kelvin sign is lowercased to.
def keywordRanges : List (Nat × Nat) := [(0x2B, 0x2B), (0x30, 0x39), (0x5F, 0x5F), (0x61, 0x6A), (0x6C, 0x7A)]

theorem keyword_ascii (c : Char) (keyword : inRanges keywordRanges c = true) : c.toNat < 128 := by
  simp [inRanges, keywordRanges] at keyword
  omega

theorem lowercase_keyword (c : Char) (keyword : inRanges keywordRanges (LetterCase.lowercase c) = true) :
    c.toNat < 128 := by
  rcases lowercase_cases c with ⟨low, -⟩ | same | ⟨first, last, step, image, row, starts, ends, same⟩
  · exact low
  · rw [same] at keyword
    exact keyword_ascii c keyword
  · have rows : LetterCase.lowercaseRows.all (fun (first, last, _, image) =>
        decide (last < 128) || apart [(image, image + (last - first))] keywordRanges) = true := by decide +kernel
    rcases (Bool.or_eq_true _ _).mp (List.all_eq_true.mp rows _ row) with low | clear
    · have below : last < 128 := of_decide_eq_true low
      omega
    · rw [same] at keyword
      rcases of_nat_cases (image + (c.toNat - first)) with code | zero
      · rw [apart_ranges _ _ _ clear (by simp [inRanges]; omega)] at keyword
        cases keyword
      · rw [zero] at keyword
        cases keyword

theorem lower_in_context_keyword (before after : List Char) (c : Char)
    (keyword : ∀ d ∈ lowerInContext before c after, inRanges keywordRanges d = true) : c.toNat < 128 := by
  rw [lowerInContext] at keyword
  split at keyword
  · exact absurd (keyword '\u0307' (by simp)) (by decide)
  · split at keyword
    · split at keyword
      · exact absurd (keyword 'ς' (by simp)) (by decide)
      · exact absurd (keyword 'σ' (by simp)) (by decide)
    · exact lowercase_keyword c (keyword _ (List.mem_singleton_self _))

theorem lower_keyword (s : List Char) (keyword : ∀ d ∈ lower s, inRanges keywordRanges d = true) :
    ∀ c ∈ s, c.toNat < 128 := by
  have from_before (t before : List Char) (letters : ∀ d ∈ lowerFrom before t, inRanges keywordRanges d = true) :
      ∀ c ∈ t, c.toNat < 128 := by
    induction t generalizing before with
    | nil => exact List.forall_mem_nil _
    | cons c rest ih =>
        obtain ⟨here, later⟩ := List.forall_mem_append.mp letters
        exact List.forall_mem_cons.mpr ⟨lower_in_context_keyword before rest c here, ih (c :: before) later⟩
  exact from_before s [] keyword

theorem to_lower_ascii (c : Char) (low : c.toNat < 128) : c.toLower.toNat < 128 := by
  have each : ((List.range 128).map Char.ofNat).all (fun d => decide (d.toLower.toNat < 128)) = true := by
    decide +kernel
  exact of_decide_eq_true (List.all_eq_true.mp each c (ascii_cases c low))

theorem lower_keyword_iff (s w : List Char) (keyword : ∀ d ∈ w, inRanges keywordRanges d = true) :
    lower s = w ↔ s.map Char.toLower = w := by
  constructor
  · rintro rfl
    exact (lower_ascii s fun c member => .inl (to_lower_ascii c (lower_keyword s keyword c member))).symm
  · rintro rfl
    exact lower_ascii s fun c member => .inl (keyword_ascii _ (keyword _ (List.mem_map_of_mem member)))

end OnlineDdl.Text
