import KotlinLint.Text.Cut

/-!
# Gaps

A gap is a text of blanks, which may be empty. A text that is tight, with no blank at either end,
is what remains of it and gaps around it when they are trimmed (`IsTight.trim_between`). No letter
and no number is blank (`isBlank_of_isAlphanumeric`).
-/

namespace KotlinLint.Text

/-- Whether a text has only blanks. -/
def IsGap (text : List Char) : Prop := ∀ c ∈ text, isBlank c = true

instance (text : List Char) : Decidable (IsGap text) :=
  decidable_of_iff (text.all isBlank = true) List.all_eq_true

/-- Nothing is a gap. -/
theorem IsGap.empty : IsGap [] := nofun

/-- No letter and no digit is among the first characters. -/
theorem isAlphanum_ofNat : ∀ code < 48, (Char.ofNat code).isAlphanum = false := by decide

/-- The ASCII letters and digits come after the ASCII blanks. -/
theorem le_toNat_of_isAlphanum {c : Char} (alphanumeric : c.isAlphanum = true) : 48 ≤ c.toNat := by
  rw [← Nat.not_lt]
  intro early
  have none := isAlphanum_ofNat c.toNat early
  rw [Char.ofNat_toNat, alphanumeric] at none
  cases none

/-- Blanks below 128 have codes up to that of the space. -/
theorem blankRanges_ascii : ∀ blank ∈ blankRanges, blank.2 ≤ 32 ∨ 128 ≤ blank.1 := by decide

/-- No range of the alphanumeric characters from 128 on meets a range of the blanks. -/
theorem wideAlphanumericRanges_disjoint :
    (wideAlphanumericRanges.all fun wide => blankRanges.all fun blank =>
      decide (blank.2 < wide.1 ∨ wide.2 < blank.1)) = true := by
  decide +kernel

/-- Letters and numbers are not blank. -/
theorem isBlank_of_isAlphanumeric {c : Char} (alphanumeric : isAlphanumeric c = true) :
    isBlank c = false := by
  rw [← Bool.not_eq_true]
  intro blank
  rw [isBlank, CodeRanges.has, List.any_eq_true] at blank
  obtain ⟨⟨first, last⟩, listed, within⟩ := blank
  rw [isAlphanumeric] at alphanumeric
  simp only [Bool.and_eq_true, decide_eq_true_eq] at within
  split at alphanumeric
  case isTrue ascii =>
    have least := le_toNat_of_isAlphanum alphanumeric
    have apart := blankRanges_ascii _ listed
    simp only at apart
    omega
  case isFalse =>
    rw [CodeRanges.has, List.any_eq_true] at alphanumeric
    obtain ⟨⟨low, high⟩, wide, inside⟩ := alphanumeric
    have apart := List.all_eq_true.mp
      (List.all_eq_true.mp wideAlphanumericRanges_disjoint _ wide) _ listed
    simp only [Bool.and_eq_true, decide_eq_true_eq] at inside apart
    omega

/-- What remains when the characters that satisfy a test are removed from both ends is what is
stripped of them. -/
theorem stripWhile_eq_of_isStripped {p : Char → Bool} {text stripped : List Char}
    (isStripped : IsStripped p text stripped) : stripWhile p text = stripped := by
  obtain ⟨before, after, rfl, front, back⟩ := isStripped.removed
  rw [stripWhile, List.append_assoc, List.dropWhile_append_of_pos front]
  cases stripped with
  | nil =>
    have nothing : after.dropWhile p = [] := by
      rw [← List.append_nil after, List.dropWhile_append_of_pos back, List.dropWhile_nil]
    rw [List.nil_append, nothing]
    rfl
  | cons c rest =>
    have starts : p c = false := isStripped.starts c rfl
    have ends : ((c :: rest).reverse.dropWhile p) = (c :: rest).reverse := by
      cases last : (c :: rest).reverse with
      | nil => rfl
      | cons d others =>
        refine List.dropWhile_cons_of_neg ?_
        rw [Bool.not_eq_true]
        apply isStripped.ends
        rw [← List.head?_reverse, last]
        rfl
    have backReversed : ∀ d ∈ after.reverse, p d = true := fun d listed =>
      back d (List.mem_reverse.mp listed)
    rw [List.cons_append, List.dropWhile_cons_of_neg (by simp [starts]), ← List.cons_append,
      dropEndWhile, List.reverse_append, List.dropWhile_append_of_pos backReversed, ends,
      List.reverse_reverse]

/-- A text without backquotes is what remains of it without backquotes around it. -/
theorem unquote_of_notMem {text : List Char} (absent : backquote ∉ text) (quoted : Bool) :
    unquote (if quoted then backquote :: text ++ [backquote] else text) = text := by
  have solid : ∀ c ∈ text, (c == backquote) = false := by
    intro c listed
    rw [beq_eq_false_iff_ne]
    rintro rfl
    exact absent listed
  have stripped : ∀ quotes : List Char, (∀ c ∈ quotes, (c == backquote) = true) →
      unquote (quotes ++ text ++ quotes) = text := by
    intro quotes only
    exact stripWhile_eq_of_isStripped ⟨⟨quotes, quotes, rfl, only, only⟩,
      fun c first => solid c (List.mem_of_head? first),
      fun c last => solid c (List.mem_of_getLast? last)⟩
  split
  · exact stripped [backquote] (by simp)
  · have unquoted := stripped [] nofun
    rwa [List.nil_append, List.append_nil] at unquoted

/-- Whether a text has no blank at either end. -/
structure IsTight (text : List Char) : Prop where
  /-- The first character is not blank. -/
  starts : ∀ c, text.head? = some c → isBlank c = false
  /-- The last character is not blank. -/
  ends : ∀ c, text.getLast? = some c → isBlank c = false

/-- A text without blanks is tight. -/
theorem IsTight.of_forall {text : List Char} (solid : ∀ c ∈ text, isBlank c = false) :
    IsTight text where
  starts c first := solid c (List.mem_of_head? first)
  ends c last := solid c (List.mem_of_getLast? last)

/-- A text is tight when it begins and ends with tight texts that are not empty. -/
theorem IsTight.join {front back : List Char} (starts : IsTight front) (ends : IsTight back)
    (frontSolid : front ≠ []) (backSolid : back ≠ []) (middle : List Char) :
    IsTight (front ++ middle ++ back) where
  starts c first := by
    obtain ⟨d, rest, rfl⟩ := List.exists_cons_of_ne_nil frontSolid
    exact starts.starts c first
  ends c last := by
    have own := List.getLast?_eq_some_getLast backSolid
    rw [List.getLast?_append, own, Option.some_or, ← own] at last
    exact ends.ends c last

/-- Trimming removes the gaps around a tight text. -/
theorem IsTight.trim_between {text before after : List Char} (tight : IsTight text)
    (front : IsGap before) (back : IsGap after) : trim (before ++ text ++ after) = text :=
  stripWhile_eq_of_isStripped ⟨⟨before, after, rfl, front, back⟩, tight.starts, tight.ends⟩

/-- A tight text remains as it is when it is trimmed. -/
theorem IsTight.trim {text : List Char} (tight : IsTight text) : trim text = text := by
  have between := tight.trim_between .empty .empty
  rwa [List.nil_append, List.append_nil] at between

/-- Nothing remains of a gap when it is trimmed. -/
theorem IsGap.trim {text : List Char} (gap : IsGap text) : trim text = [] :=
  stripWhile_eq_of_isStripped
    ⟨⟨text, [], by simp, gap, nofun⟩, nofun, nofun⟩

/-- Nothing remains of a gap without its blanks. -/
theorem IsGap.squeeze {text : List Char} (gap : IsGap text) : squeeze text = [] :=
  List.filter_eq_nil_iff.mpr fun c listed => by simp [gap c listed]

/-- A text without blanks remains as it is without its blanks. -/
theorem squeeze_of_forall {text : List Char} (solid : ∀ c ∈ text, isBlank c = false) :
    squeeze text = text :=
  List.filter_eq_self.mpr fun c listed => by simp [solid c listed]

/-- Blanks are removed from each part of a text. -/
theorem squeeze_append (front back : List Char) :
    squeeze (front ++ back) = squeeze front ++ squeeze back := List.filter_append front back

/-- A mark that fails a test is not in a text that satisfies it. -/
theorem notMem_of_forall {p : Char → Bool} {text : List Char} {mark : Char}
    (satisfies : ∀ c ∈ text, p c = true) (fails : p mark = false) : mark ∉ text := by
  intro listed
  rw [satisfies mark listed] at fails
  cases fails

/-- A gap has no backquotes. -/
theorem IsGap.filter_quotes {gap : List Char} (isGap : IsGap gap) :
    gap.filter (· != backquote) = gap := by
  apply List.filter_eq_self.mpr
  intro c listed
  rw [bne_iff_ne]
  rintro rfl
  cases isGap _ listed

/-- In a text without blanks and a gap after it, only blanks follow a blank. -/
theorem ne_blank_solid {text gap front back : List Char} {c d : Char}
    (noBlanks : ∀ e ∈ text, isBlank e = false) (isGap : IsGap gap) (blank : isBlank c = true)
    (solid : isBlank d = false) : text ++ gap ≠ front ++ c :: d :: back := by
  have notInGap : d ∉ gap := notMem_of_forall isGap solid
  have notInText : c ∉ text := by
    intro listed
    rw [noBlanks c listed] at blank
    cases blank
  intro whole
  rcases List.append_eq_append_iff.mp whole with ⟨more, _, later⟩ | ⟨more, split, later⟩
  · simp [later] at notInGap
  · cases more with
    | nil =>
      rw [List.nil_append] at later
      simp [← later] at notInGap
    | cons e others =>
      obtain ⟨rfl, _⟩ := List.cons.inj later
      simp [split] at notInText

end KotlinLint.Text
