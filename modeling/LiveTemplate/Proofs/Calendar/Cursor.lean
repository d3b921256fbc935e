import Mathlib.Algebra.Order.Ring.Nat
import LiveTemplate.Proofs.Calendar.Scanning

/-!
# A cursor over custom patterns

The scan of a custom pattern can be told by positions instead of what is left: a cursor stands in the
pattern, and every round looks at the character there, cuts pieces out of the pattern, and moves the
cursor on. Here a cut beyond the pattern, a negative difference, a power that is too large and a
division by zero are failures. None of them happens, whatever the pattern is: the cursor always moves
forward, a quote without a partner or a backslash at the end lead it one beyond the end at most, and
what has been written when it gets there is the text of the pattern.
-/

namespace LiveTemplate.Calendar

open Text

variable {m : Moment} {c mark : Char} {text rest behind pattern written : List Char}
  {i start stop rounds run : Nat}

/-! ## Operations that may fail -/

/-- The characters from one position to another, both within the text and in this order. -/
def slice? (text : List Char) (start stop : Nat) : Option (List Char) :=
  if start ≤ stop ∧ stop ≤ text.length then some ((text.drop start).take (stop - start)) else none

/-- The difference of two numbers, of which the second is not greater. -/
def difference? (a b : Nat) : Option Nat := if b ≤ a then some (a - b) else none

/-- A power of ten that fits into 32 bits. -/
def powerOfTen? (exponent : Nat) : Option Nat :=
  if 10 ^ exponent < 2 ^ 32 then some (10 ^ exponent) else none

/-- The quotient of two numbers, of which the second is not zero. -/
def quotient? (a b : Nat) : Option Nat := if b = 0 then none else some (a / b)

theorem slice?_eq_some (hstart : start ≤ stop) (hstop : stop ≤ text.length) :
    slice? text start stop = some ((text.drop start).take (stop - start)) :=
  if_pos ⟨hstart, hstop⟩

theorem slice?_length (h : start ≤ text.length) :
    slice? text start text.length = some (text.drop start) := by
  rw [slice?_eq_some h (Nat.le_refl _), List.take_of_length_le (by rw [List.length_drop])]

/-! ## Rounds -/

/-- The field of a fraction, with every operation that may fail. -/
def fractionField? (nanoseconds run : Nat) : Option (List Char) := do
  let digits := min run 9
  let divisor ← powerOfTen? (← difference? 9 digits)
  return zeroPadded digits (← quotient? nanoseconds divisor)

def runText? (m : Moment) (c : Char) (run : Nat) : Option (List Char) :=
  if c = 'f' then fractionField? m.fraction run else some ((Token.run c run).render m)

/-- Where a round leaves the cursor, and what it writes. -/
structure Round where
  cursor : Nat
  piece : List Char
  deriving DecidableEq, Repr

/-- A round of the scan, with the cursor at a position. -/
def round? (m : Moment) (pattern : List Char) (i : Nat) : Option Round := do
  let c ← pattern[i]?
  if IsQuote c then
    let ahead ← slice? pattern (i + 1) pattern.length
    let stop := ((ahead.findIdx? (· == c)).map (i + 1 + ·)).getD pattern.length
    return ⟨stop + 1, ← slice? pattern (i + 1) stop⟩
  else if c = '\\' then return ⟨i + 2, pattern[i + 1]?.toList⟩
  else
    let run := ((← slice? pattern i pattern.length).takeWhile (· == c)).length
    return ⟨i + run, ← runText? m c run⟩

/-- After so many rounds the cursor stands at a position, and a text has been written. -/
inductive Reaches (m : Moment) (pattern : List Char) : Nat → Nat → List Char → Prop
  | start : Reaches m pattern 0 0 []
  | round {rounds i cursor : Nat} {written piece : List Char}
      (before : Reaches m pattern rounds i written) (within : i < pattern.length)
      (round : round? m pattern i = some ⟨cursor, piece⟩) :
      Reaches m pattern (rounds + 1) cursor (written ++ piece)

/-! ## What a round does -/

theorem powerOfTen?_of_le {exponent : Nat} (h : exponent ≤ 9) :
    powerOfTen? exponent = some (10 ^ exponent) := by
  have hfits : 10 ^ exponent ≤ 10 ^ 9 := Nat.pow_le_pow_right (by decide) h
  exact if_pos (Nat.lt_of_le_of_lt hfits (by decide))

/-- The exponent of a run is at most eight, and its power divides. -/
theorem exists_divisor (hrun : 0 < run) :
    ∃ exponent divisor, difference? 9 (min run 9) = some exponent ∧ exponent ≤ 8 ∧
      powerOfTen? exponent = some divisor ∧ divisor ≠ 0 :=
  ⟨9 - min run 9, 10 ^ (9 - min run 9), if_pos (Nat.min_le_right run 9), by omega,
    powerOfTen?_of_le (Nat.sub_le 9 _), (Nat.pow_pos (by decide)).ne'⟩

theorem fractionField?_eq (nanoseconds run : Nat) :
    fractionField? nanoseconds run = some (fractionField nanoseconds run) := by
  have hdifference : difference? 9 (min run 9) = some (9 - min run 9) :=
    if_pos (Nat.min_le_right run 9)
  have hpower : 10 ^ (9 - min run 9) ≠ 0 := (Nat.pow_pos (by decide)).ne'
  have hquotient : quotient? nanoseconds (10 ^ (9 - min run 9)) =
      some (nanoseconds / 10 ^ (9 - min run 9)) := if_neg hpower
  simp only [fractionField?, hdifference, Option.bind_eq_bind, Option.bind_some,
    powerOfTen?_of_le (Nat.sub_le 9 _), hquotient]
  rfl

theorem runText?_eq (m : Moment) (c : Char) (run : Nat) :
    runText? m c run = some ((Token.run c run).render m) := by
  unfold runText?
  split
  · subst c
    exact fractionField?_eq m.fraction run
  · rfl

theorem getElem?_of_drop (h : pattern.drop i = c :: rest) : pattern[i]? = some c := by
  rw [← List.head?_drop, h, List.head?_cons]

/-- The rest of the pattern lies within it. -/
theorem length_of_drop (h : pattern.drop i = c :: rest) : i + 1 + rest.length = pattern.length := by
  have hlength := congrArg List.length h
  rw [List.length_drop, List.length_cons] at hlength
  omega

theorem drop_of_drop (text : List Char) (h : pattern.drop i = text ++ rest) :
    pattern.drop (i + text.length) = rest := by
  rw [← List.drop_drop, h, List.drop_left]

/-- A text that follows the character at the cursor is cut out. -/
theorem slice?_of_drop (h : pattern.drop i = c :: (text ++ rest)) :
    slice? pattern (i + 1) (i + 1 + text.length) = some text := by
  have hlength := length_of_drop h
  rw [List.length_append] at hlength
  have hbehind : pattern.drop (i + 1) = text ++ rest := drop_of_drop [c] h
  rw [slice?_eq_some (Nat.le_add_right _ _) (by omega), hbehind, Nat.add_sub_cancel_left,
    List.take_left]

theorem round?_quoted (m : Moment) (hmark : IsQuote mark) (htext : mark ∉ text)
    (h : pattern.drop i = mark :: (text ++ mark :: rest)) :
    round? m pattern i = some ⟨i + 1 + text.length + 1, text⟩ := by
  have hlength := length_of_drop h
  have hahead : slice? pattern (i + 1) pattern.length = some (text ++ mark :: rest) := by
    rw [slice?_length (by omega)]
    exact congrArg some (drop_of_drop [mark] h)
  have hnone : text.findIdx? (· == mark) = none := by
    rw [List.findIdx?_eq_none_iff]
    exact fun c hc ↦ beq_eq_false_iff_ne.2 (ne_of_mem_of_not_mem hc htext)
  have hfound : (text ++ mark :: rest).findIdx? (· == mark) = some text.length := by
    rw [List.findIdx?_append, hnone, List.findIdx?_cons]
    simp
  simp only [round?, getElem?_of_drop h, Option.bind_eq_bind, Option.bind_some, if_pos hmark, hahead,
    hfound, Option.map_some, Option.getD_some, slice?_of_drop h]
  rfl

theorem round?_unclosed (m : Moment) (hmark : IsQuote mark) (hrest : mark ∉ rest)
    (h : pattern.drop i = mark :: rest) :
    round? m pattern i = some ⟨pattern.length + 1, rest⟩ := by
  have hlength := length_of_drop h
  have hahead : slice? pattern (i + 1) pattern.length = some rest := by
    rw [slice?_length (by omega)]
    exact congrArg some (drop_of_drop [mark] h)
  have hnone : rest.findIdx? (· == mark) = none := by
    rw [List.findIdx?_eq_none_iff]
    exact fun c hc ↦ beq_eq_false_iff_ne.2 (ne_of_mem_of_not_mem hc hrest)
  simp only [round?, getElem?_of_drop h, Option.bind_eq_bind, Option.bind_some, if_pos hmark, hahead,
    hnone, Option.map_none, Option.getD_none]
  rfl

theorem round?_escape (m : Moment) (h : pattern.drop i = '\\' :: rest) :
    round? m pattern i = some ⟨i + 2, rest.head?.toList⟩ := by
  have hplain : ¬ IsQuote '\\' := by decide
  have hnext : pattern[i + 1]? = rest.head? := by
    rw [← List.head?_drop]
    exact congrArg List.head? (drop_of_drop ['\\'] h)
  simp only [round?, getElem?_of_drop h, Option.bind_eq_bind, Option.bind_some, if_neg hplain, hnext]
  rfl

theorem round?_run (m : Moment) (hc : IsRunning c) (n : Nat) (hrest : rest.head? ≠ some c)
    (h : pattern.drop i = List.replicate (n + 1) c ++ rest) :
    round? m pattern i = some ⟨i + (n + 1), (Token.run c (n + 1)).render m⟩ := by
  have hhead : pattern.drop i = c :: (List.replicate n c ++ rest) := h
  have hlength := length_of_drop hhead
  have hahead : slice? pattern i pattern.length = some (List.replicate (n + 1) c ++ rest) := by
    rw [slice?_length (by omega), h]
  obtain ⟨hinside, hends⟩ := ends_run (n + 1) hrest
  have hrun : ((List.replicate (n + 1) c ++ rest).takeWhile (· == c)).length = n + 1 := by
    rw [Directive.takeWhile_append_of_ends hinside hends, List.length_replicate]
  simp only [round?, getElem?_of_drop hhead, Option.bind_eq_bind, Option.bind_some, if_neg hc.1,
    if_neg hc.2, hahead, hrun, runText?_eq]
  rfl

/-! ## Every round succeeds -/

/-- A round leads forward to a position, and what it writes is what the text of the rest of the pattern
begins with. -/
structure Advances (m : Moment) (pattern : List Char) (i cursor : Nat) (piece : List Char) :
    Prop where
  forward : i < cursor
  cursor_le : cursor ≤ pattern.length + 1
  writes : piece ++ formatCustom m (pattern.drop cursor) = formatCustom m (pattern.drop i)

/-- A quote leads behind its partner, or one beyond the end if it has none. -/
theorem advances_quote (m : Moment) (hmark : IsQuote mark) (h : pattern.drop i = mark :: rest) :
    ∃ cursor piece, round? m pattern i = some ⟨cursor, piece⟩ ∧ Advances m pattern i cursor piece := by
  have hlength := length_of_drop h
  by_cases hmem : mark ∈ rest
  · obtain ⟨text, behind, rfl, htext⟩ := List.eq_append_cons_of_mem hmem
    have hwhole : pattern.drop i = (mark :: text ++ [mark]) ++ behind := by simp [h]
    have hbehind := drop_of_drop _ hwhole
    simp only [List.length_append, List.length_cons, List.length_nil] at hlength hbehind
    refine ⟨_, _, round?_quoted m hmark htext h, by omega, by omega, ?_⟩
    have hcursor : i + 1 + text.length + 1 = i + (text.length + 1 + (0 + 1)) := by omega
    rw [hcursor, hbehind, h, formatCustom, formatCustom, tokens_quoted hmark htext,
      List.flatMap_cons]
    rfl
  · refine ⟨_, _, round?_unclosed m hmark hmem h, by omega, Nat.le_refl _, ?_⟩
    have hinside := (ends_quote hmem []).1
    have htokens : tokens (mark :: rest) = [.verbatim rest] := by
      rw [tokens_cons hmark.ne_backslash, if_pos hmark, List.takeWhile_eq_self_iff.2 hinside,
        List.dropWhile_eq_nil_iff.2 hinside, List.tail_nil, tokens_nil]
    rw [h, List.drop_eq_nil_of_le (Nat.le_succ _), formatCustom, formatCustom, htokens, tokens_nil,
      List.flatMap_nil, List.append_nil, List.flatMap_singleton]
    rfl

/-- A backslash leads behind the next character, or one beyond the end if there is none. -/
theorem advances_escape (m : Moment) (h : pattern.drop i = '\\' :: rest) :
    ∃ cursor piece, round? m pattern i = some ⟨cursor, piece⟩ ∧ Advances m pattern i cursor piece := by
  have hlength := length_of_drop h
  refine ⟨_, _, round?_escape m h, by omega, by omega, ?_⟩
  cases rest with
  | nil =>
    have hend : pattern.drop (i + 2) = [] := by
      rw [List.length_nil] at hlength
      exact List.drop_eq_nil_of_le (by omega)
    have htokens : tokens ['\\'] = [] := by rw [tokens]
    rw [hend, h, formatCustom, formatCustom, htokens, tokens_nil]
    rfl
  | cons c behind =>
    have hbehind : pattern.drop (i + 2) = behind := drop_of_drop ['\\', c] h
    rw [hbehind, h, formatCustom, formatCustom, tokens_escape, List.flatMap_cons]
    rfl

/-- A run leads to its end. -/
theorem advances_run (m : Moment) (hc : IsRunning c) (h : pattern.drop i = c :: rest) :
    ∃ cursor piece, round? m pattern i = some ⟨cursor, piece⟩ ∧ Advances m pattern i cursor piece := by
  have hlength := length_of_drop h
  obtain ⟨n, behind, hbehind, rfl⟩ := exists_run c rest
  have hwhole : pattern.drop i = List.replicate (n + 1) c ++ behind := h
  have hend := drop_of_drop _ hwhole
  rw [List.length_replicate] at hend
  rw [List.length_append, List.length_replicate] at hlength
  refine ⟨_, _, round?_run m hc n hbehind hwhole, by omega, by omega, ?_⟩
  rw [hend, hwhole, formatCustom_run m hc n hbehind]

/-- Within the pattern no round fails, and every round goes forward. -/
theorem exists_round (m : Moment) (h : i < pattern.length) :
    ∃ cursor piece, round? m pattern i = some ⟨cursor, piece⟩ ∧ Advances m pattern i cursor piece := by
  obtain ⟨c, rest, hdrop⟩ : ∃ c rest, pattern.drop i = c :: rest :=
    ⟨_, _, List.drop_eq_getElem_cons h⟩
  by_cases hquote : IsQuote c
  · exact advances_quote m hquote hdrop
  by_cases hescape : c = '\\'
  · subst c
    exact advances_escape m hdrop
  · exact advances_run m ⟨hescape, hquote⟩ hdrop

/-! ## All rounds -/

namespace Reaches

/-- The cursor has moved by one at least in every round, it is at most one beyond the end, and what has
been written goes on with the text of the rest of the pattern. -/
theorem invariant (h : Reaches m pattern rounds i written) :
    rounds ≤ i ∧ rounds ≤ pattern.length ∧ i ≤ pattern.length + 1 ∧
      written ++ formatCustom m (pattern.drop i) = formatCustom m pattern := by
  induction h with
  | start => exact ⟨Nat.le_refl 0, Nat.zero_le _, Nat.zero_le _, rfl⟩
  | @round rounds i cursor written piece before within hround ih =>
    obtain ⟨hrounds, -, -, hwritten⟩ := ih
    obtain ⟨cursor', piece', hfound, hforward, hcursor, hwrites⟩ := exists_round m within
    obtain ⟨rfl, rfl⟩ := Round.mk.inj (Option.some.inj (hfound.symm.trans hround))
    refine ⟨by omega, by omega, hcursor, ?_⟩
    rw [List.append_assoc, hwrites, hwritten]

/-- At the end the text of the pattern has been written. -/
theorem written_eq (h : Reaches m pattern rounds i written) (hend : pattern.length ≤ i) :
    written = formatCustom m pattern := by
  have hwritten := h.invariant.2.2.2
  rwa [List.drop_eq_nil_of_le hend, formatCustom, tokens_nil, List.flatMap_nil,
    List.append_nil] at hwritten

/-- From everywhere the cursor gets to the end. -/
theorem exists_end (h : Reaches m pattern rounds i written) :
    ∃ rounds i written, Reaches m pattern rounds i written ∧ pattern.length ≤ i := by
  induction hleft : pattern.length - i using Nat.strongRecOn generalizing rounds i written with
  | ind left ih =>
    by_cases hend : pattern.length ≤ i
    · exact ⟨rounds, i, written, h, hend⟩
    · have hwithin : i < pattern.length := Nat.lt_of_not_le hend
      obtain ⟨cursor, piece, hround, hforward, -, -⟩ := exists_round m hwithin
      exact ih (pattern.length - cursor) (by omega) (h.round hwithin hround) rfl

end Reaches

/-! ## Formats -/

def standardLetters : List Char := "dDfFgGMmoOrRstTuUyY".toList

theorem standardFormat?_eq_none_iff (letter : Char) :
    standardFormat? letter = none ↔ letter ∉ standardLetters := by
  constructor
  · intro hnone hmem
    have hall : standardLetters.all (fun letter ↦ (standardFormat? letter).isSome) = true := by
      decide +kernel
    have hsome : (standardFormat? letter).isSome = true := List.all_eq_true.1 hall letter hmem
    rw [hnone] at hsome
    contradiction
  · intro hmem
    unfold standardFormat?
    split <;> first | rfl | exact absurd (by decide) hmem

/-- Without a percent sign only a single letter that is no standard format is refused, and everything
else is written. -/
theorem format_plain (m : Moment) (h : '%' ∉ pattern) :
    (format m pattern = .invalid ↔ ∃ letter, pattern = [letter] ∧ letter ∉ standardLetters) ∧
      (format m pattern ≠ .invalid → ∃ text, format m pattern = .text text) := by
  match pattern, h with
  | [], _ =>
    have hgeneral : format m [] = .text (formatCustom m "MM/dd/yyyy HH:mm:ss".toList) := rfl
    rw [hgeneral]
    exact ⟨by simp, fun _ ↦ ⟨_, rfl⟩⟩
  | [letter], h =>
    have hstandard : format m [letter] = formatStandard m letter := if_neg (by simpa using h)
    have hletter := standardFormat?_eq_none_iff letter
    rw [hstandard, formatStandard]
    cases hfound : standardFormat? letter with
    | none => simpa using hletter.1 hfound
    | some found =>
      rw [hfound] at hletter
      simpa using hletter
  | c :: d :: rest, h =>
    rw [format_eq_formatCustom m (Nat.le_add_left 2 _) h]
    exact ⟨by simp, fun _ ↦ ⟨_, rfl⟩⟩

/-- Whatever a custom pattern and a moment are, every round of the scan succeeds: no cut lies outside
the pattern, the exponent of a fraction is at most eight, and nothing is divided by zero. Every round
moves the cursor forward, to one beyond the end at most, so that there are no more rounds than
characters; the scan gets to the end, and has then written the text of the pattern. So without a
percent sign nothing is refused but a single letter that is no standard format. -/
theorem scan_never_fails (m : Moment) (pattern : List Char) :
    (∀ rounds i written, Reaches m pattern rounds i written →
      rounds ≤ pattern.length ∧ i ≤ pattern.length + 1 ∧
      (i < pattern.length → ∃ cursor piece, round? m pattern i = some ⟨cursor, piece⟩ ∧
        i + 1 ≤ cursor ∧ cursor ≤ pattern.length + 1 ∧
        (pattern[i]? = some 'f' → ∃ exponent divisor,
          difference? 9 (min (cursor - i) 9) = some exponent ∧ exponent ≤ 8 ∧
            powerOfTen? exponent = some divisor ∧ divisor ≠ 0)) ∧
      (pattern.length ≤ i → written = formatCustom m pattern)) ∧
    (∃ rounds i, Reaches m pattern rounds i (formatCustom m pattern) ∧ pattern.length ≤ i) ∧
    ('%' ∉ pattern →
      (format m pattern = .invalid ↔ ∃ letter, pattern = [letter] ∧ letter ∉ standardLetters) ∧
      (format m pattern ≠ .invalid → ∃ text, format m pattern = .text text)) := by
  refine ⟨fun rounds i written h ↦ ?_, ?_, format_plain m⟩
  · obtain ⟨-, hrounds, hcursor, -⟩ := h.invariant
    refine ⟨hrounds, hcursor, fun hwithin ↦ ?_, h.written_eq⟩
    obtain ⟨cursor, piece, hround, hforward, hcursor, -⟩ := exists_round m hwithin
    exact ⟨cursor, piece, hround, hforward, hcursor, fun _ ↦ exists_divisor (by omega)⟩
  · obtain ⟨rounds, i, written, h, hend⟩ := (@Reaches.start m pattern).exists_end
    obtain rfl := h.written_eq hend
    exact ⟨rounds, i, h, hend⟩

/-- A quoted text, a fraction in a leap second before the year 0, and a backslash at the end, which
leads the cursor beyond it. -/
theorem trailing_backslash_scanned :
    let m : Moment := ⟨-99999999999, 1987654321, .fixed (-5400)⟩
    let pattern := "'a'f\\".toList
    Reaches m pattern 3 6 "a9".toList ∧ 3 < pattern.length ∧ 6 ≤ pattern.length + 1 ∧
      "a9".toList = formatCustom m pattern ∧ '%' ∉ pattern ∧
      (∃ exponent divisor, difference? 9 1 = some exponent ∧ exponent ≤ 8 ∧
        powerOfTen? exponent = some divisor ∧ divisor ≠ 0) ∧
      ∃ text, format m pattern = .text text := by
  intro m pattern
  have hquoted : Reaches m pattern 1 3 "a".toList :=
    Reaches.start.round (by decide) (by decide +kernel)
  have hfraction : Reaches m pattern 2 4 "a9".toList := hquoted.round (by decide) (by decide +kernel)
  have hend : Reaches m pattern 3 6 "a9".toList := hfraction.round (by decide) (by decide +kernel)
  obtain ⟨hreached, -, hplain⟩ := scan_never_fails m pattern
  obtain ⟨-, hcursor, -, hwritten⟩ := hreached 3 6 _ hend
  obtain ⟨-, -, hnext, -⟩ := hreached 1 3 _ hquoted
  obtain ⟨cursor, piece, hround, -, -, hexponent⟩ := hnext (by decide)
  have hfour : round? m pattern 3 = some ⟨4, ['9']⟩ := by decide +kernel
  obtain ⟨rfl, rfl⟩ := Round.mk.inj (Option.some.inj (hround.symm.trans hfour))
  have hpercent : '%' ∉ pattern := by decide
  refine ⟨hend, by decide, hcursor, hwritten (by decide), hpercent, hexponent rfl,
    (hplain hpercent).2 ?_⟩
  rw [ne_eq, (hplain hpercent).1]
  rintro ⟨letter, hletter, -⟩
  have hlength : pattern.length = 1 := congrArg List.length hletter
  exact absurd hlength (by decide)

end LiveTemplate.Calendar
