import LiveTemplate.Calendar.Format
import LiveTemplate.Proofs.Directive.Grammar

/-!
# Scanning custom patterns

The scan of a custom pattern goes from token to token. A pattern is closed if the scan ends exactly
where the pattern does: every quote finds its partner and every backslash a character. What follows a
closed pattern is scanned as it would be alone, unless it goes on with the run that the pattern ends
with. So patterns compose, and text that is quoted or escaped comes out as it is, whatever letters it
has.
-/

namespace LiveTemplate.Calendar

open Directive (Ends ends_cons takeWhile_append_of_ends dropWhile_append_of_ends)

variable {c mark : Char} {text rest front back pattern : List Char}

/-! ## Tokens -/

/-- The characters between which text stands for itself. -/
def IsQuote (c : Char) : Prop := c = '\'' ∨ c = '"'

instance (c : Char) : Decidable (IsQuote c) := inferInstanceAs (Decidable (_ ∨ _))

/-- A character that is read as a part of a run. -/
def IsRunning (c : Char) : Prop := c ≠ '\\' ∧ ¬ IsQuote c

instance (c : Char) : Decidable (IsRunning c) := inferInstanceAs (Decidable (_ ∧ _))

theorem IsQuote.ne_backslash (h : IsQuote c) : c ≠ '\\' := by
  rcases h with rfl | rfl <;> decide

theorem tokens_nil : tokens [] = [] := by
  rw [tokens]

theorem tokens_escape (c : Char) (rest : List Char) :
    tokens ('\\' :: c :: rest) = .verbatim [c] :: tokens rest := by
  rw [tokens]

theorem tokens_cons (hc : c ≠ '\\') (rest : List Char) :
    tokens (c :: rest) =
      if IsQuote c then
        .verbatim (rest.takeWhile (· != c)) :: tokens (rest.dropWhile (· != c)).tail
      else .run c ((rest.takeWhile (· == c)).length + 1) :: tokens (rest.dropWhile (· == c)) := by
  rw [tokens]
  · rfl
  · exact fun h _ ↦ hc h
  · exact fun _ _ h _ ↦ hc h

/-- Up to the next quote of its kind there is none. -/
theorem ends_quote (h : mark ∉ text) (rest : List Char) :
    (∀ c ∈ text, (c != mark) = true) ∧ Ends (· != mark) (mark :: rest) := by
  refine ⟨fun c hc ↦ ?_, ends_cons (by simp) rest⟩
  rw [bne_iff_ne]
  exact ne_of_mem_of_not_mem hc h

/-- A run ends where another character comes. -/
theorem ends_run (n : Nat) (h : rest.head? ≠ some c) :
    (∀ d ∈ List.replicate n c, (d == c) = true) ∧ Ends (· == c) rest := by
  refine ⟨fun d hd ↦ beq_iff_eq.2 (List.eq_of_mem_replicate hd), fun d hd ↦ ?_⟩
  rw [beq_eq_false_iff_ne]
  rintro rfl
  exact h hd

theorem tokens_quoted (hmark : IsQuote mark) (h : mark ∉ text) (rest : List Char) :
    tokens (mark :: (text ++ mark :: rest)) = .verbatim text :: tokens rest := by
  obtain ⟨hinside, hend⟩ := ends_quote h rest
  rw [tokens_cons hmark.ne_backslash, if_pos hmark, takeWhile_append_of_ends hinside hend,
    dropWhile_append_of_ends hinside hend, List.tail_cons]

theorem tokens_run (hc : IsRunning c) (n : Nat) (h : rest.head? ≠ some c) :
    tokens (List.replicate (n + 1) c ++ rest) = .run c (n + 1) :: tokens rest := by
  obtain ⟨hinside, hend⟩ := ends_run n h
  rw [List.replicate_succ, List.cons_append, tokens_cons hc.1, if_neg hc.2,
    takeWhile_append_of_ends hinside hend, dropWhile_append_of_ends hinside hend,
    List.length_replicate]

/-! ## Where the scan ends -/

/-- How far the scan of a pattern goes by its first token. A quote without a partner and a backslash
at the end lead it beyond the end. -/
def stride : List Char → Nat
  | [] => 0
  | c :: rest =>
    if c = '\\' then 2
    else if IsQuote c then (rest.takeWhile (· != c)).length + 2
    else (rest.takeWhile (· == c)).length + 1

theorem stride_pos (c : Char) (rest : List Char) : 0 < stride (c :: rest) := by
  simp only [stride]
  split
  · exact Nat.two_pos
  · split <;> exact Nat.succ_pos _

/-- The position at which the scan of a pattern stops. -/
def scanEnd (pattern : List Char) : Nat :=
  match pattern with
  | [] => 0
  | c :: rest => stride (c :: rest) + scanEnd ((c :: rest).drop (stride (c :: rest)))
termination_by pattern.length
decreasing_by
  have := stride_pos c rest
  simp only [List.length_drop, List.length_cons]
  omega

/-- The scan of a pattern stops exactly at its end. -/
def IsClosed (pattern : List Char) : Prop := scanEnd pattern = pattern.length

instance (pattern : List Char) : Decidable (IsClosed pattern) :=
  inferInstanceAs (Decidable (_ = _))

theorem isClosed_nil : IsClosed [] := by
  rw [IsClosed, scanEnd, List.length_nil]

/-- A pattern is closed just when its first token ends within it and what follows is closed. -/
theorem isClosed_cons_iff (c : Char) (rest : List Char) :
    IsClosed (c :: rest) ↔ stride (c :: rest) ≤ (c :: rest).length ∧
      IsClosed ((c :: rest).drop (stride (c :: rest))) := by
  rw [IsClosed, IsClosed, scanEnd, List.length_drop]
  omega

theorem isClosed_append_iff (h : front ≠ []) (hstride : stride (front ++ rest) = front.length) :
    IsClosed (front ++ rest) ↔ IsClosed rest := by
  obtain ⟨c, behind, rfl⟩ := List.exists_cons_of_ne_nil h
  rw [List.cons_append] at hstride ⊢
  rw [isClosed_cons_iff, hstride, ← List.cons_append, List.drop_left, List.length_append]
  exact and_iff_right (Nat.le_add_right _ _)

theorem isClosed_escape_iff (c : Char) (rest : List Char) :
    IsClosed ('\\' :: c :: rest) ↔ IsClosed rest := by
  have hstride : stride (['\\', c] ++ rest) = 2 := rfl
  exact isClosed_append_iff (List.cons_ne_nil _ _) hstride

theorem isClosed_quoted_iff (hmark : IsQuote mark) (h : mark ∉ text) (rest : List Char) :
    IsClosed (mark :: (text ++ mark :: rest)) ↔ IsClosed rest := by
  have hpattern : mark :: (text ++ mark :: rest) = (mark :: text ++ [mark]) ++ rest := by simp
  obtain ⟨hinside, hend⟩ := ends_quote h rest
  have hstride : stride (mark :: (text ++ mark :: rest)) = (mark :: text ++ [mark]).length := by
    rw [stride, if_neg hmark.ne_backslash, if_pos hmark, takeWhile_append_of_ends hinside hend]
    simp
  rw [hpattern] at hstride ⊢
  exact isClosed_append_iff (by simp) hstride

theorem isClosed_run_iff (hc : IsRunning c) (n : Nat) (h : rest.head? ≠ some c) :
    IsClosed (List.replicate (n + 1) c ++ rest) ↔ IsClosed rest := by
  obtain ⟨hinside, hend⟩ := ends_run n h
  apply isClosed_append_iff (by simp)
  rw [List.replicate_succ, List.cons_append, stride, if_neg hc.1, if_neg hc.2,
    takeWhile_append_of_ends hinside hend, List.length_cons]

/-- In a closed pattern a quote at the beginning has a partner. -/
theorem exists_partner (hmark : IsQuote mark) (h : IsClosed (mark :: rest)) :
    ∃ text behind, mark ∉ text ∧ rest = text ++ mark :: behind := by
  have hwithin := ((isClosed_cons_iff mark rest).1 h).1
  rw [stride, if_neg hmark.ne_backslash, if_pos hmark, List.length_cons] at hwithin
  have hmem : mark ∈ rest := by
    by_contra hnone
    have hall := (ends_quote hnone []).1
    rw [List.takeWhile_eq_self_iff.2 hall] at hwithin
    omega
  obtain ⟨text, behind, hrest, htext⟩ := List.eq_append_cons_of_mem hmem
  exact ⟨text, behind, htext, hrest⟩

/-- A text consists of a run of a character and what does not go on with it. -/
theorem exists_run (c : Char) (text : List Char) :
    ∃ n rest, rest.head? ≠ some c ∧ text = List.replicate n c ++ rest := by
  induction text with
  | nil => exact ⟨0, [], by simp, rfl⟩
  | cons d text ih =>
    by_cases hd : d = c
    · obtain ⟨n, rest, hrest, rfl⟩ := ih
      exact ⟨n + 1, rest, hrest, by rw [hd, List.replicate_succ, List.cons_append]⟩
    · exact ⟨0, d :: text, by simpa using hd, rfl⟩

/-- A closed pattern consists of escaped characters, quoted texts and whole runs. -/
theorem closed_induction {motive : List Char → Prop} (nil : motive [])
    (escape : ∀ c rest, motive rest → motive ('\\' :: c :: rest))
    (quoted : ∀ mark text rest, IsQuote mark → mark ∉ text → motive rest →
      motive (mark :: (text ++ mark :: rest)))
    (run : ∀ c n rest, IsRunning c → rest.head? ≠ some c → motive rest →
      motive (List.replicate (n + 1) c ++ rest))
    (pattern : List Char) (h : IsClosed pattern) : motive pattern := by
  have hplain {c : Char} {rest : List Char} (hend : c = '\\' → rest = [] → False)
      (hescape : ∀ d behind, c = '\\' → rest = d :: behind → False) : c ≠ '\\' := by
    intro hc
    cases rest with
    | nil => exact hend hc rfl
    | cons d behind => exact hescape d behind hc rfl
  induction pattern using tokens.induct with
  | case1 => exact nil
  | case2 => exact absurd h (by decide +kernel)
  | case3 c rest ih => exact escape c rest (ih ((isClosed_escape_iff c rest).1 h))
  | case4 c rest hend hescape hquote ih =>
    obtain ⟨text, behind, htext, rfl⟩ := exists_partner hquote h
    obtain ⟨hinside, hends⟩ := ends_quote htext behind
    rw [dropWhile_append_of_ends hinside hends, List.tail_cons] at ih
    exact quoted c text behind hquote htext (ih ((isClosed_quoted_iff hquote htext behind).1 h))
  | case5 c rest hend hescape hquote ih =>
    have hc : IsRunning c := ⟨hplain hend hescape, hquote⟩
    obtain ⟨n, behind, hbehind, rfl⟩ := exists_run c rest
    obtain ⟨hinside, hends⟩ := ends_run n hbehind
    rw [dropWhile_append_of_ends hinside hends] at ih
    exact run c n behind hc hbehind (ih ((isClosed_run_iff hc n hbehind).1 h))

/-! ## Patterns one behind the other -/

/-- The second pattern does not go on with a run that the first one ends with. -/
def IsParted (front back : List Char) : Prop :=
  ∀ c n, back.head? = some c → (tokens front).getLast? ≠ some (.run c n)

/-- What is behind a token ends with the same token as both together. -/
theorem IsParted.behind {token : Token} (h : IsParted front back)
    (htokens : tokens front = token :: tokens rest) : IsParted rest back := by
  intro c n hc hlast
  refine h c n hc ?_
  rw [htokens, List.getLast?_cons, hlast, Option.getD_some]

/-- A closed pattern is scanned as it would be alone, and so is what follows it. -/
theorem tokens_append (hclosed : IsClosed front) (h : IsParted front back) :
    tokens (front ++ back) = tokens front ++ tokens back := by
  refine closed_induction (motive := fun front ↦ IsParted front back →
    tokens (front ++ back) = tokens front ++ tokens back) ?_ ?_ ?_ ?_ front hclosed h
  case refine_1 =>
    intro _
    rw [tokens_nil, List.nil_append, List.nil_append]
  case refine_2 =>
    intro c rest ih h
    have hfront := tokens_escape c rest
    rw [List.cons_append, List.cons_append, tokens_escape, hfront, ih (h.behind hfront),
      List.cons_append]
  case refine_3 =>
    intro mark text rest hmark htext ih h
    have hfront := tokens_quoted hmark htext rest
    rw [List.cons_append, List.append_assoc, List.cons_append, tokens_quoted hmark htext, hfront,
      ih (h.behind hfront), List.cons_append]
  case refine_4 =>
    intro c n rest hc hrest ih h
    have hfront := tokens_run hc n hrest
    have hnext : (rest ++ back).head? ≠ some c := by
      cases rest with
      | nil =>
        intro hback
        refine h c (n + 1) hback ?_
        rw [hfront, tokens_nil, List.getLast?_singleton]
      | cons d rest => exact hrest
    rw [List.append_assoc, tokens_run hc n hnext, hfront, ih (h.behind hfront), List.cons_append]

theorem formatCustom_append (m : Moment) (hclosed : IsClosed front) (h : IsParted front back) :
    formatCustom m (front ++ back) = formatCustom m front ++ formatCustom m back := by
  rw [formatCustom, tokens_append hclosed h, List.flatMap_append]
  rfl

theorem formatCustom_run (m : Moment) (hc : IsRunning c) (n : Nat) (h : rest.head? ≠ some c) :
    formatCustom m (List.replicate (n + 1) c ++ rest) =
      (Token.run c (n + 1)).render m ++ formatCustom m rest := by
  rw [formatCustom, tokens_run hc n h, List.flatMap_cons]
  rfl

/-! ## Literal text -/

def escaped (text : List Char) : List Char := text.flatMap fun c ↦ ['\\', c]

def quoted (mark : Char) (text : List Char) : List Char := mark :: (text ++ [mark])

theorem escaped_spec (m : Moment) (text : List Char) :
    IsClosed (escaped text) ∧ formatCustom m (escaped text) = text := by
  induction text with
  | nil => exact ⟨isClosed_nil, by rw [escaped, List.flatMap_nil, formatCustom, tokens_nil]; rfl⟩
  | cons c text ih =>
    have hpattern : escaped (c :: text) = '\\' :: c :: escaped text := rfl
    rw [hpattern]
    refine ⟨(isClosed_escape_iff c _).2 ih.1, ?_⟩
    rw [formatCustom, tokens_escape, List.flatMap_cons]
    exact congrArg (c :: ·) ih.2

theorem quoted_spec (m : Moment) (hmark : IsQuote mark) (h : mark ∉ text) :
    IsClosed (quoted mark text) ∧ formatCustom m (quoted mark text) = text := by
  refine ⟨(isClosed_quoted_iff hmark h []).2 isClosed_nil, ?_⟩
  rw [formatCustom, quoted, tokens_quoted hmark h, tokens_nil, List.flatMap_singleton]
  rfl

/-- A pattern of two characters or more that has no percent sign is a custom pattern. -/
theorem format_eq_formatCustom (m : Moment) (hlength : 2 ≤ pattern.length) (h : '%' ∉ pattern) :
    format m pattern = .text (formatCustom m pattern) := by
  match pattern, hlength with
  | c :: d :: rest, _ => exact if_neg (by simpa using h)

/-- What follows a closed pattern is written behind it, as it would be alone, unless it goes on with
the run that the pattern ends with. Text that is escaped or quoted is closed and written as it is. -/
theorem custom_patterns_compose (m : Moment) :
    (∀ front back, IsClosed front → IsParted front back →
      formatCustom m (front ++ back) = formatCustom m front ++ formatCustom m back) ∧
    (∀ text, IsClosed (escaped text) ∧ formatCustom m (escaped text) = text ∧
      ('%' ∉ text → text ≠ [] → format m (escaped text) = .text text)) ∧
    ∀ mark text, IsQuote mark → mark ∉ text →
      IsClosed (quoted mark text) ∧ formatCustom m (quoted mark text) = text ∧
        ('%' ∉ text → format m (quoted mark text) = .text text) := by
  refine ⟨fun front back hclosed hparted ↦ formatCustom_append m hclosed hparted, fun text ↦ ?_,
    fun mark text hmark htext ↦ ?_⟩
  · obtain ⟨hclosed, hwritten⟩ := escaped_spec m text
    refine ⟨hclosed, hwritten, fun hpercent hne ↦ ?_⟩
    rw [format_eq_formatCustom m _ _, hwritten]
    · cases text with
      | nil => contradiction
      | cons c text => exact Nat.le_add_left 2 _
    · simpa [escaped] using hpercent
  · obtain ⟨hclosed, hwritten⟩ := quoted_spec m hmark htext
    refine ⟨hclosed, hwritten, fun hpercent ↦ ?_⟩
    have hother : '%' ≠ mark := by
      rcases hmark with rfl | rfl <;> decide
    rw [format_eq_formatCustom m _ _, hwritten]
    · simp [quoted]
    · simp [quoted, hpercent, hother]

/-- An hour behind an escaped letter of the same kind, and a text with letters and a quote of the other
kind. -/
theorem escaped_letter_composed :
    let m : Moment := ⟨1709813109, 123456789, .fixed 7200⟩
    let front := "'at' H\\H".toList
    let back := "H:mm".toList
    let text := "it's MM".toList
    (IsClosed front ∧ IsParted front back ∧
      formatCustom m (front ++ back) = "at 14H14:05".toList) ∧
    ('%' ∉ text ∧ text ≠ [] ∧ format m (escaped text) = .text text) ∧
    (IsQuote '"' ∧ '"' ∉ text ∧ format m (quoted '"' text) = .text text) := by
  intro m front back text
  obtain ⟨hcompose, hescaped, hquoted⟩ := custom_patterns_compose m
  have hclosed : IsClosed front := by decide +kernel
  have hlast : (tokens front).getLast? = some (.verbatim ['H']) := by decide +kernel
  have hparted : IsParted front back := by
    intro c n _ hrun
    rw [hlast] at hrun
    cases hrun
  have hfront : formatCustom m front = "at 14H".toList := by decide +kernel
  have hback : formatCustom m back = "14:05".toList := by decide +kernel
  have hpercent : '%' ∉ text := by decide
  have hne : text ≠ [] := by decide
  have hmark : '"' ∉ text := by decide
  refine ⟨⟨hclosed, hparted, ?_⟩, ⟨hpercent, hne, (hescaped text).2.2 hpercent hne⟩, .inr rfl, hmark,
    (hquoted '"' text (.inr rfl) hmark).2.2 hpercent⟩
  rw [hcompose front back hclosed hparted, hfront, hback]
  decide

end LiveTemplate.Calendar
