import OnlineDdl.Proofs.Schema.TypeSpelling
import OnlineDdl.Schema.Column

/-! Types of characters, told in two ways: by what their spelling begins with, and by reading it whole. The two
agree on text, and on those spellings that begin with the name of a limited type where nothing but a length
follows it. -/

set_option autoImplicit false

namespace OnlineDdl.ColumnType

open Text

def patternOps : ColumnType → Option PatternOps
  | .varchar _ => some .varchar
  | .text => some .text
  | _ => none

-- What may follow the name: nothing, or a length in parentheses. How many of them close it is left open.
def Lengthed (rest : List Char) : Prop :=
  rest = [] ∨ ∃ gap before numeral after length closing,
    rest = gap ++ '(' :: (before ++ (numeral ++ (after ++ List.replicate closing ')'))) ∧
      Blank gap ∧ Blank before ∧ Blank after ∧ IsNumeral length numeral ∧ length < u32Bound

theorem close_parens_idle (s : List Char) (absent : '(' ∉ s) : closeParens s = s := by
  induction s using closeParens.induct with
  | case1 rest ih => exact absurd (List.mem_cons_of_mem _ List.mem_cons_self) absent
  | case2 c rest other ih =>
      rw [closeParens, ih fun member => absent (List.mem_cons_of_mem c member)]
      exact other
  | case3 => rfl

theorem close_commas_idle (s : List Char) (absent : ',' ∉ s) : closeCommas s = s := by
  induction s using closeCommas.induct with
  | case1 rest ih => exact absurd List.mem_cons_self absent
  | case2 c rest other ih =>
      rw [closeCommas, ih fun member => absent (List.mem_cons_of_mem c member)]
      exact other
  | case3 => rfl

theorem close_parens_first (a b : List Char) (absent : '(' ∉ a) :
    ∃ kept gap, closeParens (a ++ '(' :: b) = kept ++ '(' :: closeParens b ∧ a = kept ++ gap ∧ Blank gap := by
  induction a with
  | nil => exact ⟨[], [], rfl, rfl, List.forall_mem_nil _⟩
  | cons c rest ih =>
      obtain ⟨plain, others⟩ := List.ne_and_not_mem_of_not_mem_cons absent
      by_cases last : c = ' ' ∧ rest = []
      · obtain ⟨rfl, rfl⟩ := last
        exact ⟨[], [' '], rfl, rfl, List.forall_mem_singleton.mpr rfl⟩
      · obtain ⟨kept, gap, closed, rfl, blank⟩ := ih others
        refine ⟨c :: kept, gap, ?_, rfl, blank⟩
        rw [List.cons_append, closeParens, closed, List.cons_append]
        intro later same follows
        cases divided : kept ++ gap with
        | nil => exact last ⟨same, divided⟩
        | cons d letters =>
            rw [divided] at follows others
            exact others ((List.cons.inj follows).1 ▸ List.mem_cons_self)

theorem mark_close_parens (s : List Char) (m : Char) (mark : isMark m = true) : m ∈ closeParens s ↔ m ∈ s := by
  rw [← mark_token _ m mark, ← mark_token s m mark]
  exact iff_of_eq (congrArg ([m] ∈ ·) (tokens_close_parens [] s))

theorem mark_normalize (raw : List Char) (m : Char) (mark : isMark m = true) :
    m ∈ normalize raw ↔ m ∈ tidy (lower raw) := by
  rw [← mark_token _ m mark, ← mark_token (tidy (lower raw)) m mark, tokens_normalize, tokens_tidy]

theorem normalize_unmarked (raw : List Char) (single : '(' ∉ normalize raw) (whole : ',' ∉ normalize raw) :
    normalize raw = tidy (lower raw) := by
  rw [mark_normalize raw _ rfl] at single whole
  rw [normalize_lower, close_parens_idle _ single, close_commas_idle _ whole]

-- Where there is one parenthesis that opens, and no comma, a blank before it is all that was lost.
theorem normalize_opened (raw front params : List Char) (divided : normalize raw = front ++ '(' :: params)
    (absent : '(' ∉ front) (single : '(' ∉ params) (whole : ',' ∉ normalize raw) :
    ∃ gap, Blank gap ∧ tidy (lower raw) = front ++ (gap ++ '(' :: params) := by
  have uncut : ',' ∉ closeParens (tidy (lower raw)) := by
    rwa [mark_close_parens _ _ rfl, ← mark_normalize raw _ rfl]
  have opened : '(' ∈ tidy (lower raw) := by
    rw [← mark_normalize raw _ rfl, divided]
    exact List.mem_append_right _ List.mem_cons_self
  rw [normalize_lower, close_commas_idle _ uncut] at divided
  obtain ⟨a, b, same, clear⟩ := List.eq_append_cons_of_mem opened
  obtain ⟨kept, gap, closed, rfl, blank⟩ := close_parens_first a b clear
  have found := (split_first_some '(' _ front params).mpr ⟨divided, absent⟩
  rw [same, closed, (split_first_some '(' _ kept (closeParens b)).mpr
    ⟨rfl, fun member => clear (List.mem_append_left _ member)⟩] at found
  obtain ⟨rfl, rfl⟩ := Prod.mk.inj (Option.some.inj found)
  rw [mark_close_parens b _ rfl] at single
  refine ⟨gap, blank, ?_⟩
  rw [same, close_parens_idle b single, List.append_assoc]

theorem sole_number (s : List Char) (length : Nat) (read : readNumbers s = some [length]) :
    ',' ∉ s ∧ IsNumeral length (trim s) ∧ length < u32Bound := by
  rw [readNumbers, map_all_some_iff] at read
  obtain ⟨piece, rests, numeral, none, same⟩ := List.forall₂_cons_right_iff.mp read
  obtain rfl := List.forall₂_nil_right_iff.mp none
  have whole : ∀ c ∈ s, (c == ',') = false := by
    induction s using pieces_induction (· == ',') with
    | whole s clear => exact clear
    | divided a c b clear comma ih =>
        rw [pieces_append _ a b c comma, pieces_whole _ a clear] at same
        exact absurd (List.cons.inj same).2 (pieces_ne_nil _ b)
  rw [pieces_whole _ s whole] at same
  obtain ⟨rfl, -⟩ := List.cons.inj same
  exact ⟨fun comma => absurd (whole _ comma) (by decide), (read_numeral_iff _ _ _).mp numeral⟩

theorem length_unmarked (before numeral after : List Char) (length : Nat) (ahead : Blank before) (behind : Blank after)
    (read : IsNumeral length numeral) : ∀ c ∈ before ++ (numeral ++ after), isMark c = false := by
  refine List.forall_mem_append.mpr ⟨blank_unmarked before ahead, ?_⟩
  exact List.forall_mem_append.mpr ⟨(numeral_plain length numeral read).2.2, blank_unmarked after behind⟩

theorem length_read (before numeral after : List Char) (length closing : Nat) (ahead : Blank before)
    (behind : Blank after) (read : IsNumeral length numeral) (bounded : length < u32Bound) :
    readNumbers (dropWhileEnd (· == ')') (before ++ (numeral ++ after) ++ List.replicate closing ')')) =
      some [length] := by
  have plain := length_unmarked before numeral after length ahead behind read
  obtain ⟨-, solid, -⟩ := numeral_plain length numeral read
  have apart (m : Char) (mark : isMark m = true) : ∀ c ∈ before ++ (numeral ++ after), (c == m) = false := by
    intro c member
    refine beq_false_of_ne ?_
    rintro rfl
    exact mark_absent _ c mark plain member
  rw [drop_end _ _ _ (fun c last => apart ')' rfl c (List.mem_of_getLast? last))
    fun c member => beq_iff_eq.mpr (List.eq_of_mem_replicate member)]
  rw [readNumbers, pieces_whole _ _ (apart ',' rfl), map_all_some_iff, List.forall₂_cons,
    trim_solid before numeral after ahead behind solid]
  exact ⟨(read_numeral_iff _ _ _).mpr ⟨read, bounded⟩, .nil⟩

theorem varchar_means (family : Family) (numbers : List Nat) (type : ColumnType)
    (means : ofFamily? family numbers = some type) (ops : type.patternOps = some .varchar) :
    family = .varchar ∧ (numbers = [] ∨ ∃ length, numbers = [length]) := by
  rw [ofFamily?.eq_def] at means
  split at means <;> cases means <;> cases ops
  · exact ⟨rfl, .inl rfl⟩
  · exact ⟨rfl, .inr ⟨_, rfl⟩⟩

theorem text_means (family : Family) (numbers : List Nat) (type : ColumnType)
    (means : ofFamily? family numbers = some type) (ops : type.patternOps = some .text) :
    family = .text ∧ numbers = [] := by
  rw [ofFamily?.eq_def] at means
  split at means <;> cases means <;> cases ops
  exact ⟨rfl, rfl⟩

def IsVarcharName (name : List Char) : Prop := name = "varchar".toList ∨ name = "character varying".toList

theorem varchar_name (name : List Char) (known : Family.ofName? name = some .varchar) : IsVarcharName name := by
  obtain ⟨words, member, rfl⟩ := name_known name .varchar known
  rcases List.mem_pair.mp member with rfl | rfl
  · exact .inl rfl
  · exact .inr (by decide)

theorem varchar_name_unmarked (name : List Char) (known : IsVarcharName name) :
    ∀ c ∈ name, isMark c = false := by
  have each : name.all (fun c => !isMark c) = true := by rcases known with rfl | rfl <;> decide
  simpa using each

theorem name_opened (raw front params : List Char) (length : Nat)
    (opened : splitFirst '(' (normalize raw) = some (front, params)) (known : IsVarcharName (trim front))
    (fields : readNumbers (dropWhileEnd (· == ')') params) = some [length]) :
    ∃ rest, tidy (lower raw) = trim front ++ rest ∧ Lengthed rest := by
  obtain ⟨divided, absent⟩ := (split_first_some '(' _ front params).mp opened
  obtain ⟨lead, trail, outside, leads, trails⟩ := trim_cut front
  obtain ⟨-, numeral, bounded⟩ := sole_number _ length fields
  obtain ⟨before, after, inside, ahead, behind⟩ := trim_cut (dropWhileEnd (· == ')') params)
  obtain ⟨closing, closed⟩ := parens_dropped params
  generalize trim (dropWhileEnd (· == ')') params) = digits at numeral inside
  generalize trim front = name at outside known
  rw [inside] at closed
  have unmarked : ∀ c ∈ front, isMark c = false := by
    rw [outside]
    exact List.forall_mem_append.mpr ⟨blank_unmarked lead leads,
      List.forall_mem_append.mpr ⟨varchar_name_unmarked name known, blank_unmarked trail trails⟩⟩
  have missing (m : Char) (mark : isMark m = true) (other : m ≠ ')') : m ∉ params := by
    rw [closed, List.mem_append, not_or]
    exact ⟨mark_absent _ m mark (length_unmarked before digits after length ahead behind numeral),
      fun member => other (List.eq_of_mem_replicate member)⟩
  have whole : ',' ∉ normalize raw := by
    rw [divided, List.mem_append, List.mem_cons, not_or, not_or]
    exact ⟨mark_absent front ',' rfl unmarked, by decide, missing ',' rfl (by decide)⟩
  obtain ⟨gap, blank, spelled⟩ := normalize_opened raw front params divided absent (missing '(' rfl (by decide)) whole
  have starts := tidy_starts (lower raw)
  rw [spelled, outside, List.append_assoc] at starts
  rw [outside, no_lead lead _ leads starts] at spelled
  refine ⟨trail ++ (gap ++ '(' :: params), by simpa using spelled, .inr ?_⟩
  refine ⟨trail ++ gap, before, digits, after, length, closing, ?_, List.forall_mem_append.mpr ⟨trails, blank⟩,
    ahead, behind, numeral, bounded⟩
  rw [closed]
  simp

theorem varchar_spelled (raw : String) (read : (parse raw).patternOps = some .varchar) :
    ∃ name rest, IsVarcharName name ∧ tidy (lower raw.toList) = name ++ rest ∧ Lengthed rest := by
  rcases parse_cases raw with other | ⟨name, family, numbers, divided, named, means⟩
  · rw [other] at read
    cases read
  · obtain ⟨rfl, numbered⟩ := varchar_means family numbers _ means read
    have known := varchar_name name named
    have unmarked := varchar_name_unmarked name known
    rw [parts] at divided
    split at divided
    · obtain ⟨rfl, -⟩ := Prod.mk.inj divided
      refine ⟨_, [], known, ?_, .inl rfl⟩
      rw [List.append_nil, normalize_unmarked _ (mark_absent _ '(' rfl unmarked) (mark_absent _ ',' rfl unmarked)]
    · next front params opened =>
        obtain ⟨rfl, fields⟩ := Prod.mk.inj divided
        obtain ⟨length, rfl⟩ := numbered.resolve_left (numbers_tokens _ numbers fields).1
        obtain ⟨rest, spelled, lengthed⟩ := name_opened raw.toList front params length opened known fields
        exact ⟨_, rest, known, spelled, lengthed⟩

theorem varchar_read (raw : String) (name rest : List Char) (known : IsVarcharName name)
    (spelled : tidy (lower raw.toList) = name ++ rest) (lengthed : Lengthed rest) :
    (parse raw).patternOps = some .varchar := by
  rcases lengthed with rfl | ⟨gap, before, digits, after, length, closing, rfl, blank, ahead, behind, numeral, bounded⟩
  · rw [parse, normalize_lower, spelled, List.append_nil]
    rcases known with rfl | rfl <;> decide
  · have spaced := tidy_spaced (lower raw.toList)
    have plain := length_unmarked before digits after length ahead behind numeral
    have read := length_read before digits after length closing ahead behind numeral bounded
    have same : before ++ (digits ++ (after ++ List.replicate closing ')')) =
        before ++ (digits ++ after) ++ List.replicate closing ')' := by simp
    rw [same] at spelled
    have missing (m : Char) (mark : isMark m = true) (other : m ≠ ')') :
        m ∉ before ++ (digits ++ after) ++ List.replicate closing ')' := by
      rw [List.mem_append, not_or]
      exact ⟨mark_absent _ m mark plain, fun member => other (List.eq_of_mem_replicate member)⟩
    generalize before ++ (digits ++ after) ++ List.replicate closing ')' = params at spelled read missing
    rw [spelled] at spaced
    have single := spaced_gap gap params '(' blank (spaced_rest name _ spaced)
    have closed : closeParens (name ++ (gap ++ '(' :: params)) = name ++ '(' :: closeParens params := by
      rcases known with rfl | rfl <;> rcases single with rfl | rfl <;> rfl
    have unmarked := varchar_name_unmarked name known
    have whole : ',' ∉ name ++ '(' :: params := by
      rw [List.mem_append, List.mem_cons, not_or, not_or]
      exact ⟨mark_absent name ',' rfl unmarked, by decide, missing ',' rfl (by decide)⟩
    have normalized : normalize raw.toList = name ++ '(' :: params := by
      rw [normalize_lower, spelled, closed, close_parens_idle params (missing '(' rfl (by decide)),
        close_commas_idle _ whole]
    have opened := (split_first_some '(' _ name params).mpr ⟨normalized, mark_absent name '(' rfl unmarked⟩
    have named : trim name = name ∧ Family.ofName? name = some .varchar := by
      rcases known with rfl | rfl <;> decide
    simp only [parse, parts, opened, read, named, Option.bind_some, ofFamily?, Option.getD_some, patternOps]

theorem parse_varchar_iff (raw : String) :
    (parse raw).patternOps = some .varchar ↔
      ∃ name rest, IsVarcharName name ∧ tidy (lower raw.toList) = name ++ rest ∧ Lengthed rest :=
  ⟨varchar_spelled raw, fun ⟨name, rest, known, spelled, lengthed⟩ => varchar_read raw name rest known spelled lengthed⟩

theorem parse_text_iff (raw : String) :
    (parse raw).patternOps = some .text ↔ tidy (lower raw.toList) = "text".toList := by
  constructor
  · intro read
    rcases parse_cases raw with other | ⟨name, family, numbers, divided, named, means⟩
    · rw [other] at read
      cases read
    · obtain ⟨rfl, rfl⟩ := text_means family numbers _ means read
      obtain ⟨words, member, rfl⟩ := name_known name .text named
      obtain rfl := List.mem_singleton.mp member
      rw [parts] at divided
      split at divided
      · have spelled := (Prod.mk.inj divided).1
        rw [← normalize_unmarked raw.toList (by rw [spelled]; decide) (by rw [spelled]; decide), spelled]
        rfl
      · exact absurd rfl (numbers_tokens _ [] (Prod.mk.inj divided).2).1
  · intro spelled
    rw [parse, normalize_lower, spelled]
    decide

end OnlineDdl.ColumnType

namespace OnlineDdl.PatternOps

open Text ColumnType

def core (raw : String) : List Char := lower (trim raw.toList)

theorem core_tidy (raw : String) : tidy (core raw) = tidy (lower raw.toList) := by
  rw [core, tidy_lower, tidy_lower, tidy, tidy, words_trim]

theorem core_starts (raw : String) : ∀ c ∈ (core raw).head?, isBlank c = false :=
  lower_starts _ (trim_starts raw.toList)

theorem core_begins (raw : String) (v : List Char) (solid : Solid v) :
    v <+: tidy (lower raw.toList) ↔ v <+: core raw := by
  rw [← core_tidy]
  exact tidy_begins v (core raw) solid (core_starts raw)

theorem core_words (raw : String) (v w : List Char) (solid : Solid v) (some : v ≠ []) (further : Solid w)
    (later : w ≠ []) (begins : v ++ ' ' :: w <+: core raw) : v ++ ' ' :: w <+: tidy (lower raw.toList) := by
  obtain ⟨rest, same⟩ := begins
  have starts : ∀ c ∈ (w ++ rest).head?, isBlank c = false := by
    obtain ⟨c, letters, rfl⟩ := List.exists_cons_of_ne_nil later
    simpa using further c List.mem_cons_self
  have second := (tidy_begins w (w ++ rest) further starts).mpr (List.prefix_append w rest)
  have divided : words (core raw) = v :: words (w ++ rest) := by
    rw [← same, List.append_assoc, List.cons_append, words_blank v (w ++ rest) ' ' rfl, words_one v solid some]
    rfl
  rw [← core_tidy, tidy, divided]
  cases found : words (w ++ rest) with
  | nil =>
      rw [tidy, found] at second
      exact absurd (List.prefix_nil.mp second) later
  | cons u others =>
      rw [tidy, found] at second
      rw [join_next]
      exact (List.prefix_append_right_inj v).mpr ((List.prefix_append_right_inj [' ']).mpr second)

theorem core_text (raw : String) : core raw = "text".toList ↔ tidy (lower raw.toList) = "text".toList := by
  constructor
  · intro same
    rw [← core_tidy, same]
    decide
  · intro spelled
    have alone : (words raw.toList).map lower = ["text".toList] := by
      rw [← words_lower, ← words_tidy, spelled]
      decide
    obtain ⟨w, sole, lowered⟩ := List.map_eq_singleton_iff.mp alone
    obtain ⟨lead, later, divided, before, rests, -⟩ := first_word raw.toList w [] sole
    have solid := (words_are_words raw.toList w (by rw [sole]; exact List.mem_cons_self)).2
    rw [core, divided, trim_solid lead w later before (no_words later rests) solid, lowered]

theorem for_type_varchar_iff (raw : String) :
    forType raw = some .varchar ↔ "varchar".toList <+: core raw ∨ "character varying".toList <+: core raw := by
  rw [forType, ← core, ← List.isPrefixOf_iff_prefix, ← List.isPrefixOf_iff_prefix, ← Bool.or_eq_true]
  split
  · next begins => exact iff_of_true rfl begins
  · next other =>
      refine iff_of_false ?_ other
      split <;> simp

theorem for_type_text_iff (raw : String) : forType raw = some .text ↔ core raw = "text".toList := by
  rw [forType, ← core]
  split
  · next begins =>
      refine iff_of_false (by simp) fun same => ?_
      rw [same] at begins
      exact absurd begins (by decide)
  · split
    · next same => exact iff_of_true rfl same
    · next other => exact iff_of_false (by simp) other

theorem text_told_alike (raw : String) : forType raw = some .text ↔ (parse raw).patternOps = some .text := by
  rw [for_type_text_iff, core_text, parse_text_iff]

theorem varchar_told_alike_iff (raw : String) :
    (forType raw = some .varchar ↔ (parse raw).patternOps = some .varchar) ↔
      (∀ rest, tidy (lower raw.toList) = "varchar".toList ++ rest → Lengthed rest) ∧
        ∀ rest, tidy (lower raw.toList) = "character varying".toList ++ rest →
          (Lengthed rest ↔ "character varying".toList <+: core raw) := by
  have short := core_begins raw "varchar".toList (by decide)
  have long := core_words raw "character".toList "varying".toList (by decide) (by decide) (by decide) (by decide)
  change "character varying".toList <+: core raw → "character varying".toList <+: tidy (lower raw.toList) at long
  have apart (rest others : List Char) : "varchar".toList ++ rest ≠ "character varying".toList ++ others := by
    intro same
    exact absurd (List.cons.inj (List.cons.inj same).2).1 (by decide)
  rw [for_type_varchar_iff, parse_varchar_iff, ← short]
  generalize tidy (lower raw.toList) = spelling at long
  constructor
  · intro alike
    refine ⟨fun rest spelled => ?_, fun rest spelled => ⟨fun lengthed => ?_, fun begins => ?_⟩⟩
    · obtain ⟨name, other, rfl | rfl, same, lengthed⟩ := alike.mp (.inl ⟨rest, spelled.symm⟩)
      · exact List.append_cancel_left (spelled.symm.trans same) ▸ lengthed
      · exact absurd (spelled.symm.trans same) (apart rest other)
    · rcases alike.mpr ⟨_, rest, .inr rfl, spelled, lengthed⟩ with ⟨other, same⟩ | begins
      · exact absurd (same.trans spelled) (apart other rest)
      · exact begins
    · obtain ⟨name, other, rfl | rfl, same, lengthed⟩ := alike.mp (.inr begins)
      · exact absurd (same.symm.trans spelled) (apart other rest)
      · exact List.append_cancel_left (spelled.symm.trans same) ▸ lengthed
  · rintro ⟨limited, wordy⟩
    constructor
    · rintro (⟨rest, same⟩ | begins)
      · exact ⟨_, rest, .inl rfl, same.symm, limited rest same.symm⟩
      · obtain ⟨rest, same⟩ := long begins
        exact ⟨_, rest, .inr rfl, same.symm, (wordy rest same.symm).mpr begins⟩
    · rintro ⟨name, rest, rfl | rfl, same, lengthed⟩
      · exact .inl ⟨rest, same.symm⟩
      · exact .inr ((wordy rest same).mp lengthed)

theorem told_alike_iff (raw : String) :
    forType raw = (parse raw).patternOps ↔
      (forType raw = some .varchar ↔ (parse raw).patternOps = some .varchar) := by
  have text := text_told_alike raw
  constructor
  · intro same
    rw [same]
  · intro alike
    generalize forType raw = first at text alike
    generalize (parse raw).patternOps = second at text alike
    rcases first with _ | _ | _ <;> rcases second with _ | _ | _ <;> simp_all

end OnlineDdl.PatternOps
