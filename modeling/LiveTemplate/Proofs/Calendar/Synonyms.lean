import LiveTemplate.Proofs.Calendar.Moment
import LiveTemplate.Proofs.Calendar.Scanning
import LiveTemplate.Proofs.Calendar.Sorting

/-!
# Two notations

Most tokens of custom patterns have a specifier of percent patterns that shows the same. So a row of
such tokens, with one character between two of them, can be written in either notation. The two are
read in different ways and fill their numbers up in different ways, and they part where the one counts
the seconds of a leap second and the other does not, where the year has a sign, and where an offset has
seconds.
-/

namespace LiveTemplate.Calendar

open Text

variable {m : Moment} {c : Char} {n : Nat} {pattern text rest : List Char}

/-! ## Synonyms -/

/-- A token of custom patterns, which is a run of a letter, and what stands behind the percent sign of
a specifier. -/
structure Synonym where
  letter : Char
  length : Nat
  specifier : List Char
  deriving DecidableEq, Repr

namespace Synonym

def custom (s : Synonym) : List Char := List.replicate s.length s.letter

def percent (s : Synonym) : List Char := '%' :: s.specifier

/-- The specifier is read as one item, and this item is written as the token is. -/
def Agrees (m : Moment) (s : Synonym) : Prop :=
  ∃ item, (∀ rest, takeSpecifier (s.specifier ++ rest) = some ([item], rest)) ∧
    item.render? m = some ((Token.run s.letter s.length).render m)

end Synonym

def synonyms : List Synonym :=
  [⟨'y', 4, ['Y']⟩, ⟨'y', 2, ['y']⟩, ⟨'y', 1, ['-', 'y']⟩,
    ⟨'M', 4, ['B']⟩, ⟨'M', 3, ['b']⟩, ⟨'M', 2, ['m']⟩, ⟨'M', 1, ['-', 'm']⟩,
    ⟨'d', 4, ['A']⟩, ⟨'d', 3, ['a']⟩, ⟨'d', 2, ['d']⟩, ⟨'d', 1, ['-', 'd']⟩,
    ⟨'H', 2, ['H']⟩, ⟨'H', 1, ['-', 'H']⟩, ⟨'h', 2, ['I']⟩, ⟨'h', 1, ['-', 'I']⟩,
    ⟨'m', 2, ['M']⟩, ⟨'m', 1, ['-', 'M']⟩, ⟨'s', 2, ['S']⟩, ⟨'s', 1, ['-', 'S']⟩,
    ⟨'f', 3, ['3', 'f']⟩, ⟨'f', 6, ['6', 'f']⟩, ⟨'f', 9, ['9', 'f']⟩,
    ⟨'t', 2, ['p']⟩, ⟨'z', 3, [':', 'z']⟩]

/-! ## Numbers of two digits -/

theorem digitChar_eq (h : n < 10) : digitChar n = n.digitChar := by
  have hdigits : ∀ n < 10, digitChar n = n.digitChar := by decide
  exact hdigits n h

theorem pairOf_zero (h : n < 100) : pairOf .zero n = zeroPadded 2 n := by
  have hoctet : ((n : Int) % 256).toNat = n := by omega
  rw [zeroPadded_succ, zeroPadded_one (by omega)]
  simp only [pairOf, hoctet]
  rw [digitChar_eq (Nat.mod_lt n (by decide)), digitChar_eq (by omega)]
  split
  · next hzero => rw [hzero]; rfl
  · rfl

theorem pairOf_none (h : n < 100) : pairOf .none n = decimal n := by
  have hoctet : ((n : Int) % 256).toNat = n := by omega
  simp only [pairOf, hoctet]
  rw [digitChar_eq (Nat.mod_lt n (by decide)), digitChar_eq (by omega), decimal,
    Nat.toDigits_eq_if (by decide)]
  by_cases hsmall : n < 10
  · rw [if_pos (Nat.div_eq_of_lt hsmall), if_pos hsmall, Nat.mod_eq_of_lt hsmall, List.nil_append]
  · rw [if_neg (by omega), if_neg hsmall, Nat.toDigits_of_lt_base (by omega)]

/-- A field of two digits is filled up with zeros, or not at all. -/
theorem render?_number {f : NumberField} (hlayout : f.layout = .pair) (hvalue : f.value m = n)
    (h : n < 100) :
    (Item.number f .zero).render? m = some (field n 2) ∧
      (Item.number f .none).render? m = some (field n 1) := by
  constructor
  · rw [Item.render?, hlayout, hvalue, NumberLayout.render, pairOf_zero h]
    rfl
  · rw [Item.render?, hlayout, hvalue, NumberLayout.render, pairOf_none h]
    rfl

/-! ## Agreement -/

theorem offsetInMinutes_eq (h : m.offset % 60 = 0) :
    offsetInMinutes true m.offset = offsetField m.offset 3 := by
  have hminutes : (m.offset.natAbs + 30) / 60 = m.offset.natAbs / 60 := by omega
  have hhours : m.offset.natAbs / 60 / 60 = m.offset.natAbs / 3600 := by omega
  have hrest : m.offset.natAbs / 60 % 60 = m.offset.natAbs % 3600 / 60 := by omega
  simp [offsetInMinutes, offsetField, offsetSign, hminutes, hhours, hrest]

/-- A year of at most four digits is written without a sign. -/
theorem yearText_eq (h : m.HasPlainYear) : yearText .zero m.date.year = yearField m.date.year 4 := by
  obtain ⟨hlow, hhigh⟩ := h
  rw [yearText, if_pos (by simp [hlow, hhigh])]
  rfl

/-- Each token shows the same as its specifier. -/
theorem agrees_of_mem (hregular : m.IsRegular) (hyear : m.HasPlainYear) :
    ∀ s ∈ synonyms, s.Agrees m := by
  have hcentury : (m.date.year % 100).toNat < 100 := by omega
  have hyears : NumberField.yearOfCentury.value m = ((m.date.year % 100).toNat : Int) := by
    rw [NumberField.value]
    omega
  have hseconds : NumberField.second.value m = m.second := by
    rw [NumberField.value, Moment.countedSecond_eq hregular]
  obtain ⟨hyy, hy⟩ := render?_number rfl hyears hcentury
  obtain ⟨hMM, hM⟩ := render?_number (m := m) (f := .month) rfl rfl
    (Nat.lt_of_le_of_lt m.month_le (by decide))
  obtain ⟨hdd, hd⟩ := render?_number (m := m) (f := .day) rfl rfl
    (Nat.lt_of_le_of_lt m.day_le (by decide))
  obtain ⟨hHH, hH⟩ := render?_number (m := m) (f := .hour) rfl rfl
    (Nat.lt_trans m.hour_lt (by decide))
  obtain ⟨hhh, hh⟩ := render?_number (m := m) (f := .hourOnDial) rfl rfl
    (Nat.lt_of_le_of_lt m.hourOnDial_le (by decide))
  obtain ⟨hmm, hm⟩ := render?_number (m := m) (f := .minute) rfl rfl
    (Nat.lt_trans m.minute_lt (by decide))
  obtain ⟨hss, hs⟩ := render?_number rfl hseconds (Nat.lt_trans m.second_lt (by decide))
  simp only [synonyms, List.forall_mem_cons]
  exact
    ⟨⟨_, fun _ ↦ rfl, congrArg some (yearText_eq hyear)⟩, ⟨_, fun _ ↦ rfl, hyy⟩,
      ⟨_, fun _ ↦ rfl, hy⟩,
    -- The names are the same texts in both notations.
    ⟨_, fun _ ↦ rfl, rfl⟩, ⟨_, fun _ ↦ rfl, rfl⟩, ⟨_, fun _ ↦ rfl, hMM⟩, ⟨_, fun _ ↦ rfl, hM⟩,
    ⟨_, fun _ ↦ rfl, rfl⟩, ⟨_, fun _ ↦ rfl, rfl⟩, ⟨_, fun _ ↦ rfl, hdd⟩, ⟨_, fun _ ↦ rfl, hd⟩,
    ⟨_, fun _ ↦ rfl, hHH⟩, ⟨_, fun _ ↦ rfl, hH⟩, ⟨_, fun _ ↦ rfl, hhh⟩, ⟨_, fun _ ↦ rfl, hh⟩,
    ⟨_, fun _ ↦ rfl, hmm⟩, ⟨_, fun _ ↦ rfl, hm⟩, ⟨_, fun _ ↦ rfl, hss⟩, ⟨_, fun _ ↦ rfl, hs⟩,
    -- So are the fractions and the half of the day.
    ⟨_, fun _ ↦ rfl, rfl⟩, ⟨_, fun _ ↦ rfl, rfl⟩, ⟨_, fun _ ↦ rfl, rfl⟩, ⟨_, fun _ ↦ rfl, rfl⟩,
    ⟨_, fun _ ↦ rfl, congrArg some (offsetInMinutes_eq hregular.2)⟩, List.forall_mem_nil _⟩

/-! ## Percent patterns -/

/-- A percent pattern is read, and its items are written as a text. -/
def IsWritten (m : Moment) (pattern text : List Char) : Prop :=
  ∃ items texts, items? pattern = some items ∧ items.mapM (Item.render? m) = some texts ∧
    texts.flatten = text

theorem isWritten_nil (m : Moment) : IsWritten m [] [] :=
  ⟨[], [], by rw [items?], rfl, rfl⟩

theorem IsWritten.character (h : IsWritten m rest text) (hc : c ≠ '%') :
    IsWritten m (c :: rest) (c :: text) := by
  obtain ⟨items, texts, hread, hwritten, rfl⟩ := h
  refine ⟨.verbatim [c] :: items, [c] :: texts, ?_, ?_, rfl⟩
  · rw [items?, if_neg hc, hread, Option.map_some]
  · simp [Item.render?, hwritten]

theorem IsWritten.specifier {specifier shown : List Char} {item : Item}
    (h : IsWritten m rest text) (hread : takeSpecifier (specifier ++ rest) = some ([item], rest))
    (hshown : item.render? m = some shown) :
    IsWritten m ('%' :: (specifier ++ rest)) (shown ++ text) := by
  obtain ⟨items, texts, hrest, hwritten, rfl⟩ := h
  refine ⟨item :: items, shown :: texts, ?_, ?_, rfl⟩
  · rw [items?, if_pos rfl]
    split
    · next heq =>
      rw [hread] at heq
      cases heq
      rw [hrest]
      rfl
    · next heq =>
      rw [hread] at heq
      contradiction
  · simp [hshown, hwritten]

theorem IsWritten.format_eq (h : IsWritten m pattern text) (hpercent : '%' ∈ pattern) :
    format m pattern = .text text := by
  obtain ⟨items, texts, hread, hwritten, rfl⟩ := h
  have hformat : format m pattern = formatPercent m pattern := if_pos (by simpa using hpercent)
  rw [hformat, formatPercent, hread]
  simp only [hwritten]

/-! ## Rows of tokens -/

/-- The letters of which the tokens of custom patterns consist. -/
def tokenLetters : List Char := ['y', 'M', 'd', 'H', 'h', 'm', 's', 'f', 't', 'z']

/-- A character that stands for itself in custom patterns and in percent patterns. -/
def IsSeparator (c : Char) : Prop := c ∉ tokenLetters ∧ IsRunning c ∧ c ≠ '%'

instance (c : Char) : Decidable (IsSeparator c) := inferInstanceAs (Decidable (_ ∧ _))

theorem IsSeparator.render (h : IsSeparator c) (m : Moment) : (Token.run c 1).render m = [c] := by
  have hother : ∀ letter ∈ tokenLetters, c ≠ letter := fun letter hletter ↦
    (ne_of_mem_of_not_mem hletter h.1).symm
  simp only [tokenLetters, List.forall_mem_cons] at hother
  simp [Token.render, hother]

/-- A token of the table is a run of a letter. -/
theorem run_of_mem {s : Synonym} (hs : s ∈ synonyms) :
    IsRunning s.letter ∧ s.letter ∈ tokenLetters ∧ ∃ n, s.length = n + 1 := by
  have hruns : ∀ s ∈ synonyms, IsRunning s.letter ∧ s.letter ∈ tokenLetters ∧ s.length ≠ 0 := by
    decide
  obtain ⟨hrunning, hletter, hlength⟩ := hruns s hs
  exact ⟨hrunning, hletter, Nat.exists_eq_succ_of_ne_zero hlength⟩

/-- A specifier is written before what follows it as the token is before what follows that. -/
theorem IsWritten.token {s : Synonym} (h : IsWritten m pattern (formatCustom m rest))
    (hs : s ∈ synonyms) (hagrees : s.Agrees m) (hrest : rest.head? ≠ some s.letter) :
    IsWritten m (s.percent ++ pattern) (formatCustom m (s.custom ++ rest)) := by
  obtain ⟨hrunning, -, n, hlength⟩ := run_of_mem hs
  obtain ⟨item, hread, hshown⟩ := hagrees
  have hcustom : formatCustom m (s.custom ++ rest) =
      (Token.run s.letter s.length).render m ++ formatCustom m rest := by
    rw [Synonym.custom, hlength, formatCustom_run m hrunning n hrest]
  rw [hcustom]
  exact h.specifier (hread pattern) hshown

theorem IsWritten.separator (h : IsWritten m pattern (formatCustom m rest)) (hc : IsSeparator c)
    (hrest : rest.head? ≠ some c) : IsWritten m (c :: pattern) (formatCustom m (c :: rest)) := by
  have hcustom : formatCustom m (c :: rest) = c :: formatCustom m rest := by
    have hrun := formatCustom_run m hc.2.1 0 hrest
    rwa [hc.render] at hrun
  rw [hcustom]
  exact h.character hc.2.2

/-- Some tokens in one of the two spellings, with a character between each and the next. -/
def joined (spelling : Synonym → List Char) (first : Synonym) (others : List (Char × Synonym)) :
    List Char :=
  spelling first ++ others.flatMap fun other ↦ other.1 :: spelling other.2

variable {first : Synonym} {others : List (Char × Synonym)}

theorem joined_cons (spelling : Synonym → List Char) (first : Synonym) (other : Char × Synonym)
    (others : List (Char × Synonym)) :
    joined spelling first (other :: others) =
      spelling first ++ other.1 :: joined spelling other.2 others := by
  rw [joined, List.flatMap_cons, List.cons_append, joined]

theorem head?_joined_custom (hfirst : first ∈ synonyms) (others : List (Char × Synonym)) :
    (joined Synonym.custom first others).head? = some first.letter := by
  obtain ⟨-, -, n, hlength⟩ := run_of_mem hfirst
  rw [joined, Synonym.custom, hlength, List.replicate_succ, List.cons_append, List.head?_cons]

/-- A row of tokens and the row of their specifiers are written as one text. -/
theorem isWritten_joined (hagrees : ∀ s ∈ synonyms, s.Agrees m) (hfirst : first ∈ synonyms)
    (hothers : ∀ other ∈ others, IsSeparator other.1 ∧ other.2 ∈ synonyms) :
    IsWritten m (joined Synonym.percent first others)
      (formatCustom m (joined Synonym.custom first others)) := by
  induction others generalizing first with
  | nil =>
    have hnothing : IsWritten m [] (formatCustom m []) := by
      rw [formatCustom, tokens_nil]
      exact isWritten_nil m
    exact hnothing.token hfirst (hagrees first hfirst) (by simp)
  | cons other others ih =>
    obtain ⟨⟨hseparator, hnext⟩, hothers⟩ := List.forall_mem_cons.1 hothers
    have hletter (s : Synonym) (hs : s ∈ synonyms) : s.letter ≠ other.1 :=
      ne_of_mem_of_not_mem (run_of_mem hs).2.1 hseparator.1
    have hbehind : (joined Synonym.custom other.2 others).head? ≠ some other.1 := by
      rw [head?_joined_custom hnext]
      exact fun h ↦ hletter other.2 hnext (Option.some.inj h)
    rw [joined_cons, joined_cons]
    refine ((ih hnext hothers).separator hseparator hbehind).token hfirst (hagrees first hfirst) ?_
    exact fun h ↦ hletter first hfirst (Option.some.inj h).symm

theorem percent_notMem_joined (hfirst : first ∈ synonyms)
    (hothers : ∀ other ∈ others, IsSeparator other.1 ∧ other.2 ∈ synonyms) :
    '%' ∉ joined Synonym.custom first others := by
  have hletter (s : Synonym) (hs : s ∈ synonyms) : '%' ∉ s.custom := fun h ↦ by
    have hpercent : '%' ∈ tokenLetters := List.eq_of_mem_replicate h ▸ (run_of_mem hs).2.1
    exact absurd hpercent (by decide)
  induction others generalizing first with
  | nil => simpa [joined] using hletter first hfirst
  | cons other others ih =>
    obtain ⟨⟨hseparator, hnext⟩, hothers⟩ := List.forall_mem_cons.1 hothers
    rw [joined_cons, List.mem_append, List.mem_cons, not_or, not_or]
    exact ⟨hletter first hfirst, hseparator.2.2.symm, ih hnext hothers⟩

/-- Two tokens or more, with a character between each and the next that stands for itself, are written
as one text in either notation: outside leap seconds, in a year of at most four digits and at an offset
of whole minutes. -/
theorem notations_agree (hregular : m.IsRegular) (hyear : m.HasPlainYear) (hfirst : first ∈ synonyms)
    (hsecond : others ≠ []) (hothers : ∀ other ∈ others, IsSeparator other.1 ∧ other.2 ∈ synonyms) :
    ∃ text, format m (joined Synonym.custom first others) = .text text ∧
      format m (joined Synonym.percent first others) = .text text := by
  refine ⟨formatCustom m (joined Synonym.custom first others), ?_, ?_⟩
  · obtain ⟨other, others, rfl⟩ := List.exists_cons_of_ne_nil hsecond
    obtain ⟨-, -, n, hlength⟩ := run_of_mem hfirst
    apply format_eq_formatCustom m _ (percent_notMem_joined hfirst hothers)
    simp only [joined, Synonym.custom, hlength, List.flatMap_cons, List.length_append,
      List.length_replicate, List.length_cons]
    omega
  · have hagrees := agrees_of_mem hregular hyear
    exact (isWritten_joined hagrees hfirst hothers).format_eq List.mem_cons_self

/-- An afternoon of the year 904 at a negative offset, with zeros in front of the year, the hour, the
minute and the fraction. -/
theorem afternoon_written_alike :
    let m : Moment := ⟨-33635021391, 5000000, .fixed (-12600)⟩
    let year : Synonym := ⟨'y', 1, ['-', 'y']⟩
    let others : List (Char × Synonym) :=
      [('/', ⟨'M', 2, ['m']⟩), (' ', ⟨'h', 1, ['-', 'I']⟩), (':', ⟨'m', 2, ['M']⟩),
        ('.', ⟨'f', 3, ['3', 'f']⟩), (' ', ⟨'t', 2, ['p']⟩), ('\n', ⟨'z', 3, [':', 'z']⟩)]
    m.IsRegular ∧ m.HasPlainYear ∧ year ∈ synonyms ∧ others ≠ [] ∧
      (∀ other ∈ others, IsSeparator other.1 ∧ other.2 ∈ synonyms) ∧
      format m "y/MM h:mm.fff tt\nzzz".toList = .text "4/02 3:00.005 PM\n-03:30".toList ∧
      format m "%-y/%m %-I:%M.%3f %p\n%:z".toList = .text "4/02 3:00.005 PM\n-03:30".toList := by
  intro m year others
  have hregular : m.IsRegular := by decide
  have hyear : m.HasPlainYear := by decide +kernel
  have hfirst : year ∈ synonyms := by decide
  have hothers : ∀ other ∈ others, IsSeparator other.1 ∧ other.2 ∈ synonyms := by decide
  have hsecond : others ≠ [] := List.cons_ne_nil _ _
  obtain ⟨text, hcustom, hpercent⟩ := notations_agree hregular hyear hfirst hsecond hothers
  have htext : format m "y/MM h:mm.fff tt\nzzz".toList = .text "4/02 3:00.005 PM\n-03:30".toList := by
    decide +kernel
  have hpatterns : "y/MM h:mm.fff tt\nzzz".toList = joined Synonym.custom year others ∧
      "%-y/%m %-I:%M.%3f %p\n%:z".toList = joined Synonym.percent year others := by
    decide
  refine ⟨hregular, hyear, hfirst, hsecond, hothers, htext, ?_⟩
  rw [hpatterns.1, hcustom] at htext
  rw [hpatterns.2, hpercent, htext]

end LiveTemplate.Calendar
