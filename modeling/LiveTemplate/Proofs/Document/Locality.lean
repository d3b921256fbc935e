import LiveTemplate.Proofs.Document.Parts

/-!
# Locality of documents

A value, the items of a sequence and the members of a table are read from their own characters, and
as many calls as those characters bound are enough for it. So what has been read in one place is
read in any other place, too.
-/

namespace LiveTemplate.Document

open Directive (Ends ends_cons)
open Number (isDigit)

variable {α : Type} {text rest blanks : List Char} {fuel depth : Nat}

/-! ## Blanks -/

def IsBlanks (blanks : List Char) : Prop := ∀ c ∈ blanks, isSpace c = true

theorem exists_blanks (text : List Char) :
    ∃ blanks, IsBlanks blanks ∧ text = blanks ++ skipSpaces text :=
  ⟨text.takeWhile isSpace, fun _ ↦ List.mem_takeWhile_imp, List.takeWhile_append_dropWhile.symm⟩

theorem skipSpaces_append (h : IsBlanks blanks) (text : List Char) :
    skipSpaces (blanks ++ text) = skipSpaces text :=
  List.dropWhile_append_of_pos h

theorem skipSpaces_cons {c : Char} (h : isSpace c = false) (rest : List Char) :
    skipSpaces (c :: rest) = c :: rest := by
  simp [skipSpaces, h]

@[simp] theorem skipSpaces_skipSpaces (text : List Char) :
    skipSpaces (skipSpaces text) = skipSpaces text := by
  obtain ⟨blanks, hblanks, htext⟩ := exists_blanks text
  conv_rhs => rw [htext, skipSpaces_append hblanks]

theorem isInner_of_isSpace {c : Char} (h : isSpace c = true) : isInner c = false := by
  have hcases : ((c = ' ' ∨ c = '\n') ∨ c = '\t') ∨ c = '\r' := by simpa [isSpace] using h
  rcases hcases with ((rfl | rfl) | rfl) | rfl <;> decide

theorem IsBlanks.ends_append (h : IsBlanks blanks) (hrest : Ends isInner rest) :
    Ends isInner (blanks ++ rest) := by
  refine Document.ends_append ?_ hrest
  intro c hc
  exact isInner_of_isSpace (h c (List.mem_of_mem_head? hc))

/-! ## Fuel

Each nested value costs two calls, one for the value and one for its bracket or its row, and each of
them is paid for by a character that has been read. -/

/-- A reader takes a text for `a` wherever the text stands, as long as no numeral goes on behind it
and it may make two calls for each character, and some more. -/
def ReadsWithin (slack : Nat) (take : Nat → List Char → Option (α × List Char)) (used : List Char)
    (a : α) : Prop :=
  ∀ fuel, 2 * used.length + slack ≤ fuel → Reads isInner (take fuel) used a

/-- What a reader takes of a text with some fuel, it takes wherever that stands. -/
def IsLocal (slack : Nat) (take : Nat → List Char → Option (α × List Char)) (fuel : Nat) : Prop :=
  ∀ text a rest, take fuel text = some (a, rest) →
    ∃ used, text = used ++ rest ∧ ReadsWithin slack take used a

/-- It is enough to look at what follows the blanks in front. -/
theorem ReadsWithin.blanks_append {slack : Nat} {take : Nat → List Char → Option (α × List Char)}
    {used : List Char} {a : α} (h : ReadsWithin slack take used a) (hblanks : IsBlanks blanks)
    (htake : ∀ fuel text, take fuel (skipSpaces text) = take fuel text) :
    ReadsWithin slack take (blanks ++ used) a := by
  intro fuel hfuel rest hrest
  have hless : 2 * used.length + slack ≤ fuel := by
    rw [List.length_append] at hfuel
    omega
  rw [List.append_assoc, ← htake, skipSpaces_append hblanks, htake, h fuel hless rest hrest]

theorem ReadsWithin.of_succ {slack : Nat} {take : Nat → List Char → Option (α × List Char)}
    {used : List Char} {a : α} (hpos : 0 < 2 * used.length + slack)
    (h : ∀ fuel, 2 * used.length + slack ≤ fuel + 1 → Reads isInner (take (fuel + 1)) used a) :
    ReadsWithin slack take used a := by
  intro fuel hfuel
  cases fuel with
  | zero => omega
  | succ fuel => exact h fuel hfuel

/-! ## Values -/

theorem takeValue_skipSpaces (fuel depth : Nat) (text : List Char) :
    takeValue fuel depth (skipSpaces text) = takeValue fuel depth text := by
  cases fuel <;> simp [takeValue]

theorem takeValue_null (tail : List Char) :
    takeValue (fuel + 1) depth (['n', 'u', 'l', 'l'] ++ tail) = some (.null, tail) := by
  rw [List.cons_append, takeValue, skipSpaces_cons (by decide)]
  rfl

theorem takeValue_true (tail : List Char) :
    takeValue (fuel + 1) depth (['t', 'r', 'u', 'e'] ++ tail) = some (.boolean true, tail) := by
  rw [List.cons_append, takeValue, skipSpaces_cons (by decide)]
  rfl

theorem takeValue_false (tail : List Char) :
    takeValue (fuel + 1) depth (['f', 'a', 'l', 's', 'e'] ++ tail) =
      some (.boolean false, tail) := by
  rw [List.cons_append, takeValue, skipSpaces_cons (by decide)]
  rfl

theorem takeValue_text (tail : List Char) :
    takeValue (fuel + 1) depth ('"' :: tail) =
      (takeQuotation? tail).map fun taken ↦ (.text (String.ofList taken.1), taken.2) := by
  rw [takeValue, skipSpaces_cons (by decide)]
  rfl

theorem takeValue_sequence (hdepth : ¬depth ≤ 1) (tail : List Char) :
    takeValue (fuel + 1) depth ('[' :: tail) = takeSequence fuel (depth - 1) tail := by
  rw [takeValue, skipSpaces_cons (by decide)]
  exact if_neg hdepth

theorem takeValue_table (hdepth : ¬depth ≤ 1) (tail : List Char) :
    takeValue (fuel + 1) depth ('\x7b' :: tail) = takeTable fuel (depth - 1) tail := by
  rw [takeValue, skipSpaces_cons (by decide)]
  exact if_neg hdepth

theorem isSpace_eq_false_of_numeral {c : Char} (h : c = '-' ∨ isDigit c = true) :
    isSpace c = false := by
  refine Bool.eq_false_iff.2 fun hspace ↦ ?_
  have hinner := isInner_of_isSpace hspace
  rcases h with rfl | hdigit
  · exact absurd hspace (by decide)
  · simp [isInner, isFractional, hdigit] at hinner

/-- What begins with a sign or a digit is a number. -/
theorem takeValue_numeral {c : Char} (h : c = '-' ∨ isDigit c = true) (tail : List Char) :
    takeValue (fuel + 1) depth (c :: tail) =
      (takeNumeral? (c :: tail)).bind fun taken ↦
        taken.1.value?.bind fun x ↦ some (.number x, taken.2) := by
  rw [takeValue, skipSpaces_cons (isSpace_eq_false_of_numeral h)]
  split
  case h_7 => rfl
  all_goals
    rename_i heq
    obtain ⟨rfl, -⟩ := List.cons.inj heq
    exact absurd h (by decide)

theorem isLocal_takeValue_succ (hsequence : ∀ depth, IsLocal 1 (takeSequence · depth) fuel)
    (htable : ∀ depth, IsLocal 1 (takeTable · depth) fuel) (depth : Nat) :
    IsLocal 1 (takeValue · depth) (fuel + 1) := by
  intro text value rest h
  -- Blanks in front of a value are skipped wherever they stand.
  suffices hused : ∃ used, skipSpaces text = used ++ rest ∧
      ReadsWithin 1 (takeValue · depth) used value by
    obtain ⟨used, htext, hread⟩ := hused
    obtain ⟨blanks, hblanks, heq⟩ := exists_blanks text
    refine ⟨blanks ++ used, by rw [List.append_assoc, ← htext, ← heq], ?_⟩
    exact hread.blanks_append hblanks fun fuel text ↦ takeValue_skipSpaces fuel depth text
  simp only [takeValue] at h
  split at h
  case h_1 tail htext =>
    obtain ⟨rfl, rfl⟩ := Prod.mk.inj (Option.some.inj h)
    exact ⟨_, htext, .of_succ (by simp) fun fuel _ rest _ ↦ takeValue_null rest⟩
  case h_2 tail htext =>
    obtain ⟨rfl, rfl⟩ := Prod.mk.inj (Option.some.inj h)
    exact ⟨_, htext, .of_succ (by simp) fun fuel _ rest _ ↦ takeValue_true rest⟩
  case h_3 tail htext =>
    obtain ⟨rfl, rfl⟩ := Prod.mk.inj (Option.some.inj h)
    exact ⟨_, htext, .of_succ (by simp) fun fuel _ rest _ ↦ takeValue_false rest⟩
  case h_4 tail htext =>
    obtain ⟨⟨characters, rest⟩, htaken, heq⟩ := Option.map_eq_some_iff.1 h
    obtain ⟨rfl, rfl⟩ := Prod.mk.inj heq
    obtain ⟨used, rfl, hread⟩ := exists_of_takeQuotation? htaken
    refine ⟨'"' :: used, htext, .of_succ (by simp) fun fuel _ rest' _ ↦ ?_⟩
    rw [List.cons_append, takeValue_text, hread, Option.map_some]
  case h_5 tail htext =>
    split at h
    case isTrue => contradiction
    case isFalse hdepth =>
      obtain ⟨used, rfl, hread⟩ := hsequence _ _ _ _ h
      refine ⟨'[' :: used, htext, .of_succ (by simp) fun fuel hfuel rest' hrest ↦ ?_⟩
      rw [List.length_cons] at hfuel
      rw [List.cons_append, takeValue_sequence hdepth]
      exact hread fuel (by omega) rest' hrest
  case h_6 tail htext =>
    split at h
    case isTrue => contradiction
    case isFalse hdepth =>
      obtain ⟨used, rfl, hread⟩ := htable _ _ _ _ h
      refine ⟨'\x7b' :: used, htext, .of_succ (by simp) fun fuel hfuel rest' hrest ↦ ?_⟩
      rw [List.length_cons] at hfuel
      rw [List.cons_append, takeValue_table hdepth]
      exact hread fuel (by omega) rest' hrest
  case h_7 =>
    obtain ⟨⟨numeral, rest⟩, htaken, h⟩ := Option.bind_eq_some_iff.1 h
    obtain ⟨x, hx, h⟩ := Option.bind_eq_some_iff.1 h
    obtain ⟨rfl, rfl⟩ := Prod.mk.inj (Option.some.inj h)
    obtain ⟨used, htext, ⟨c, hhead, hc⟩, hread⟩ := exists_of_takeNumeral? htaken
    obtain ⟨tail, rfl⟩ := List.head?_eq_some_iff.1 hhead
    refine ⟨c :: tail, htext, .of_succ (by simp) fun fuel _ rest' hrest ↦ ?_⟩
    have htake := hread rest' hrest
    rw [List.cons_append] at htake
    rw [List.cons_append, takeValue_numeral hc, htake, Option.bind_some, hx, Option.bind_some]

/-! ## Items and members

The items of a sequence and the members of a table are rows that are read alike: each is followed by
a comma and more of them, or by the bracket that closes the row. -/

/-- Reads what follows an item of a row, more items or the bracket that closes the row. -/
def goOn (close : Char) (more : List Char → Option (List α × List Char)) (a : α)
    (text : List Char) : Option (List α × List Char) :=
  match skipSpaces text with
  | ',' :: rest => (more rest).map fun row ↦ (a :: row.1, row.2)
  | c :: rest => if c = close then some ([a], rest) else none
  | [] => none

/-- `more` reads rows of what `take` reads, up to the bracket that closes them. -/
def ReadsRows (close : Char) (take : Nat → List Char → Option (α × List Char))
    (more : Nat → List Char → Option (List α × List Char)) : Prop :=
  ∀ fuel text, more (fuel + 1) text =
    (take fuel text).bind fun taken ↦ goOn close (more fuel) taken.1 taken.2

/-- Reads a character behind blanks, and gives what follows. -/
def expect? (c : Char) (text : List Char) : Option (List Char) :=
  match skipSpaces text with
  | [] => none
  | d :: rest => if d = c then some rest else none

/-- Reads the name of a member with the colon behind it. -/
def takeKey? (text : List Char) : Option (String × List Char) :=
  (expect? '"' text).bind fun rest ↦
    (takeQuotation? rest).bind fun taken ↦
      (expect? ':' taken.2).map fun rest ↦ (String.ofList taken.1, rest)

def takeMember (fuel depth : Nat) (text : List Char) : Option ((String × Value) × List Char) :=
  (takeKey? text).bind fun key ↦
    (takeValue fuel depth key.2).map fun value ↦ ((key.1, value.1), value.2)

theorem takeItems_succ (fuel depth : Nat) (text : List Char) :
    takeItems (fuel + 1) depth text =
      (takeValue fuel depth text).bind fun taken ↦
        goOn ']' (takeItems fuel depth) taken.1 taken.2 := by
  rw [takeItems]
  congr 1
  funext taken
  obtain ⟨item, rest⟩ := taken
  dsimp only [goOn]
  split <;> split <;> simp_all

theorem readsRows_takeItems (depth : Nat) :
    ReadsRows ']' (takeValue · depth) (takeItems · depth) :=
  fun fuel ↦ takeItems_succ fuel depth

theorem expect?_eq_some_iff {c : Char} :
    expect? c text = some rest ↔ skipSpaces text = c :: rest := by
  rw [expect?]
  split
  next hskip => simp [hskip]
  next d tail hskip =>
    rw [hskip]
    split <;> simp_all

theorem expect?_eq_none {c : Char} (h : ∀ rest, skipSpaces text = c :: rest → False) :
    expect? c text = none :=
  Option.eq_none_iff_forall_ne_some.2 fun rest hsome ↦ h rest (expect?_eq_some_iff.1 hsome)

theorem takeMembers_succ (fuel depth : Nat) (text : List Char) :
    takeMembers (fuel + 1) depth text =
      (takeMember fuel depth text).bind fun taken ↦
        goOn '\x7d' (takeMembers fuel depth) taken.1 taken.2 := by
  rw [takeMembers, takeMember, takeKey?]
  split
  case h_1 hquote =>
    rw [expect?_eq_some_iff.2 hquote]
    simp only [Option.bind_eq_bind, Option.bind_assoc, Option.bind_some]
    congr 1
    funext taken
    obtain ⟨name, rest⟩ := taken
    dsimp only
    split
    case h_1 hcolon =>
      rw [expect?_eq_some_iff.2 hcolon]
      simp only [Option.map_some, Option.bind_some, Option.bind_map]
      congr 1
      funext taken
      obtain ⟨value, rest⟩ := taken
      simp only [Function.comp_apply, goOn]
      split <;> split <;> simp_all
    case h_2 hcolon =>
      rw [expect?_eq_none hcolon]
      rfl
  case h_2 hquote =>
    rw [expect?_eq_none hquote]
    rfl

theorem readsRows_takeMembers (depth : Nat) :
    ReadsRows '\x7d' (takeMember · depth) (takeMembers · depth) :=
  fun fuel ↦ takeMembers_succ fuel depth

section Rows

variable {close : Char} {a : α} {take : Nat → List Char → Option (α × List Char)}
  {more : Nat → List Char → Option (List α × List Char)}

theorem goOn_comma {more : List Char → Option (List α × List Char)} (hblanks : IsBlanks blanks)
    (tail : List Char) :
    goOn close more a (blanks ++ ',' :: tail) =
      (more tail).map fun row ↦ (a :: row.1, row.2) := by
  rw [goOn, skipSpaces_append hblanks, skipSpaces_cons (by decide)]
  rfl

theorem goOn_close {more : List Char → Option (List α × List Char)}
    (hclose : close = ']' ∨ close = '\x7d') (hblanks : IsBlanks blanks) (tail : List Char) :
    goOn close more a (blanks ++ close :: tail) = some ([a], tail) := by
  rw [goOn, skipSpaces_append hblanks]
  rcases hclose with rfl | rfl <;> rw [skipSpaces_cons (by decide)] <;> rfl

/-- What follows an item is a comma with more items, or the bracket that closes the row. -/
theorem exists_of_goOn {more : List Char → Option (List α × List Char)} {row : List α}
    (h : goOn close more a text = some (row, rest)) :
    ∃ blanks, IsBlanks blanks ∧
      ((∃ tail items, text = blanks ++ ',' :: tail ∧ more tail = some (items, rest) ∧
          row = a :: items) ∨
        text = blanks ++ close :: rest ∧ row = [a]) := by
  obtain ⟨blanks, hblanks, htext⟩ := exists_blanks text
  refine ⟨blanks, hblanks, ?_⟩
  unfold goOn at h
  split at h
  case h_1 tail hskip =>
    obtain ⟨⟨items, rest⟩, hmore, heq⟩ := Option.map_eq_some_iff.1 h
    obtain ⟨rfl, rfl⟩ := Prod.mk.inj heq
    exact .inl ⟨tail, items, hskip ▸ htext, hmore, rfl⟩
  case h_2 c tail _ hskip =>
    split at h
    case isTrue heq =>
      subst heq
      obtain ⟨rfl, rfl⟩ := Prod.mk.inj (Option.some.inj h)
      exact .inr ⟨hskip ▸ htext, rfl⟩
    case isFalse => contradiction
  case h_3 => contradiction

/-- An item behind which the row is closed. -/
theorem ReadsRows.last (hrows : ReadsRows close take more)
    (hclose : close = ']' ∨ close = '\x7d') {item : List Char} (hitem : ReadsWithin 1 take item a) (hblanks : IsBlanks blanks) :
    ReadsWithin 0 more (item ++ (blanks ++ [close])) [a] := by
  refine .of_succ (by simp) fun fuel hfuel rest hrest ↦ ?_
  simp only [List.length_append, List.length_cons, List.length_nil] at hfuel
  have hafter : Ends isInner (blanks ++ close :: rest) := by
    refine hblanks.ends_append (ends_cons ?_ _)
    rcases hclose with rfl | rfl <;> decide
  rw [hrows, List.append_assoc, List.append_assoc, List.singleton_append,
    hitem fuel (by omega) _ hafter, Option.bind_some, goOn_close hclose hblanks]

/-- An item behind which more of them follow. -/
theorem ReadsRows.cons (hrows : ReadsRows close take more) {item used : List Char} {row : List α}
    (hitem : ReadsWithin 1 take item a) (hblanks : IsBlanks blanks)
    (hmore : ReadsWithin 0 more used row) :
    ReadsWithin 0 more (item ++ (blanks ++ ',' :: used)) (a :: row) := by
  refine .of_succ (by simp) fun fuel hfuel rest hrest ↦ ?_
  simp only [List.length_append, List.length_cons] at hfuel
  -- The comma pays for the call that has read it, and leaves enough for what stands on both sides.
  have hafter : Ends isInner (blanks ++ ',' :: (used ++ rest)) :=
    hblanks.ends_append (ends_cons (by decide) _)
  rw [hrows, List.append_assoc, List.append_assoc, List.cons_append,
    hitem fuel (by omega) _ hafter, Option.bind_some, goOn_comma hblanks,
    hmore fuel (by omega) rest hrest, Option.map_some]

/-- A row is read from its own characters if its items are. -/
theorem ReadsRows.isLocal_succ (hrows : ReadsRows close take more)
    (hclose : close = ']' ∨ close = '\x7d') (htake : IsLocal 1 take fuel) (hmore : IsLocal 0 more fuel) : IsLocal 0 more (fuel + 1) := by
  intro text row rest h
  rw [hrows] at h
  obtain ⟨⟨a, after⟩, htaken, hafter⟩ := Option.bind_eq_some_iff.1 h
  obtain ⟨item, rfl, hitem⟩ := htake _ _ _ htaken
  obtain ⟨blanks, hblanks, ⟨tail, items, rfl, hrest, rfl⟩ | ⟨rfl, rfl⟩⟩ := exists_of_goOn hafter
  · obtain ⟨used, rfl, hused⟩ := hmore _ _ _ hrest
    exact ⟨_, by simp, hrows.cons hitem hblanks hused⟩
  · exact ⟨_, by simp, hrows.last hclose hitem hblanks⟩

/-- `whole` reads rows that may be empty, and `more` those that are not. -/
structure ReadsWhole (close : Char) (make : List α → Value)
    (more : Nat → List Char → Option (List α × List Char))
    (whole : Nat → List Char → Option (Value × List Char)) : Prop where
  succ (fuel : Nat) (text : List Char) : whole (fuel + 1) text =
    if (skipSpaces text).head? = some close then some (make [], (skipSpaces text).tail)
    else (more fuel text).map fun row ↦ (make row.1, row.2)
  empty (fuel : Nat) (text : List Char) (h : (skipSpaces text).head? = some close) :
    more fuel text = none

section Whole

variable {make : List α → Value} {whole : Nat → List Char → Option (Value × List Char)}

theorem ReadsWhole.nil (hwhole : ReadsWhole close make more whole)
    (hclose : close = ']' ∨ close = '\x7d') (hblanks : IsBlanks blanks) :
    ReadsWithin 1 whole (blanks ++ [close]) (make []) := by
  refine .of_succ (by simp) fun fuel _ rest _ ↦ ?_
  have hskip : skipSpaces (blanks ++ close :: rest) = close :: rest := by
    rw [skipSpaces_append hblanks]
    rcases hclose with rfl | rfl <;> exact skipSpaces_cons (by decide) _
  rw [hwhole.succ, List.append_assoc, List.singleton_append, hskip, List.head?_cons, if_pos rfl,
    List.tail_cons]

theorem ReadsWhole.row (hwhole : ReadsWhole close make more whole) {used : List Char}
    {row : List α} (hmore : ReadsWithin 0 more used row) : ReadsWithin 1 whole used (make row) := by
  refine .of_succ (by simp) fun fuel hfuel rest hrest ↦ ?_
  have hread := hmore fuel (by omega) rest hrest
  -- a row that begins with its closing bracket would not be read
  have hhead : (skipSpaces (used ++ rest)).head? ≠ some close := fun hhead ↦ by
    rw [hwhole.empty fuel _ hhead] at hread
    contradiction
  rw [hwhole.succ, if_neg hhead, hread, Option.map_some]

/-- What stands in brackets is read from its own characters if the row in them is. -/
theorem ReadsWhole.isLocal_succ (hwhole : ReadsWhole close make more whole)
    (hclose : close = ']' ∨ close = '\x7d') (hmore : IsLocal 0 more fuel) :
    IsLocal 1 whole (fuel + 1) := by
  intro text value rest h
  rw [hwhole.succ] at h
  split at h
  case isTrue hhead =>
    obtain ⟨rfl, rfl⟩ := Prod.mk.inj (Option.some.inj h)
    obtain ⟨blanks, hblanks, htext⟩ := exists_blanks text
    obtain ⟨tail, hskip⟩ := List.head?_eq_some_iff.1 hhead
    refine ⟨blanks ++ [close], ?_, hwhole.nil hclose hblanks⟩
    rw [hskip] at htext
    rw [hskip, List.tail_cons, List.append_assoc, List.singleton_append, ← htext]
  case isFalse =>
    obtain ⟨⟨row, rest⟩, hrow, heq⟩ := Option.map_eq_some_iff.1 h
    obtain ⟨rfl, rfl⟩ := Prod.mk.inj heq
    obtain ⟨used, rfl, hused⟩ := hmore _ _ _ hrow
    exact ⟨used, rfl, hwhole.row hused⟩

end Whole

end Rows

theorem takeValue_bracket (fuel depth : Nat) (tail : List Char) :
    takeValue fuel depth (']' :: tail) = none := by
  cases fuel with
  | zero => rw [takeValue]
  | succ fuel =>
    rw [takeValue, skipSpaces_cons (by decide)]
    rfl

theorem takeItems_skipSpaces (fuel depth : Nat) (text : List Char) :
    takeItems fuel depth (skipSpaces text) = takeItems fuel depth text := by
  cases fuel with
  | zero => rw [takeItems, takeItems]
  | succ fuel => rw [takeItems_succ, takeItems_succ, takeValue_skipSpaces]

theorem takeMember_skipSpaces (fuel depth : Nat) (text : List Char) :
    takeMember fuel depth (skipSpaces text) = takeMember fuel depth text := by
  rw [takeMember, takeMember, takeKey?, takeKey?, expect?, expect?, skipSpaces_skipSpaces]

theorem takeMembers_skipSpaces (fuel depth : Nat) (text : List Char) :
    takeMembers fuel depth (skipSpaces text) = takeMembers fuel depth text := by
  cases fuel with
  | zero => rw [takeMembers, takeMembers]
  | succ fuel => rw [takeMembers_succ, takeMembers_succ, takeMember_skipSpaces]

theorem readsWhole_takeSequence (depth : Nat) :
    ReadsWhole ']' .sequence (takeItems · depth) (takeSequence · depth) where
  succ fuel text := by
    rw [takeSequence, ← takeItems_skipSpaces]
    generalize skipSpaces text = text
    split
    case h_1 => rfl
    case h_2 hopen => rw [if_neg fun hhead ↦ (List.head?_eq_some_iff.1 hhead).elim hopen]
  empty fuel text h := by
    obtain ⟨tail, hskip⟩ := List.head?_eq_some_iff.1 h
    cases fuel with
    | zero => exact takeItems.eq_1 depth text
    | succ fuel =>
      rw [takeItems_succ, ← takeValue_skipSpaces, hskip, takeValue_bracket, Option.bind_none]

theorem readsWhole_takeTable (depth : Nat) :
    ReadsWhole '\x7d' .table (takeMembers · depth) (takeTable · depth) where
  succ fuel text := by
    rw [takeTable, ← takeMembers_skipSpaces]
    generalize skipSpaces text = text
    split
    case h_1 => rfl
    case h_2 hopen => rw [if_neg fun hhead ↦ (List.head?_eq_some_iff.1 hhead).elim hopen]
  empty fuel text h := by
    obtain ⟨tail, hskip⟩ := List.head?_eq_some_iff.1 h
    cases fuel with
    | zero => exact takeMembers.eq_1 depth text
    | succ fuel =>
      rw [takeMembers_succ, takeMember, takeKey?, expect?, hskip]
      rfl

/-! ## Members -/

theorem exists_of_expect? {c : Char} (hc : isSpace c = false) (h : expect? c text = some rest) :
    ∃ used, text = used ++ rest ∧ ∀ rest', expect? c (used ++ rest') = some rest' := by
  obtain ⟨blanks, hblanks, htext⟩ := exists_blanks text
  rw [expect?_eq_some_iff.1 h] at htext
  refine ⟨blanks ++ [c], by simpa using htext, fun rest' ↦ expect?_eq_some_iff.2 ?_⟩
  rw [List.append_assoc, skipSpaces_append hblanks, List.singleton_append, skipSpaces_cons hc]

theorem exists_of_takeKey? {name : String} (h : takeKey? text = some (name, rest)) :
    ∃ used, text = used ++ rest ∧ ∀ rest', takeKey? (used ++ rest') = some (name, rest') := by
  obtain ⟨afterQuote, hquote, h⟩ := Option.bind_eq_some_iff.1 h
  obtain ⟨⟨characters, after⟩, htaken, h⟩ := Option.bind_eq_some_iff.1 h
  obtain ⟨rest, hcolon, heq⟩ := Option.map_eq_some_iff.1 h
  obtain ⟨rfl, rfl⟩ := Prod.mk.inj heq
  obtain ⟨quote, rfl, hreadQuote⟩ := exists_of_expect? (by decide) hquote
  obtain ⟨quoted, rfl, hreadQuoted⟩ := exists_of_takeQuotation? htaken
  obtain ⟨colon, rfl, hreadColon⟩ := exists_of_expect? (by decide) hcolon
  refine ⟨quote ++ (quoted ++ colon), by simp, fun rest' ↦ ?_⟩
  rw [takeKey?, List.append_assoc, List.append_assoc, hreadQuote, Option.bind_some, hreadQuoted,
    Option.bind_some, hreadColon, Option.map_some]

theorem isLocal_takeMember (hvalue : IsLocal 1 (takeValue · depth) fuel) :
    IsLocal 1 (takeMember · depth) fuel := by
  intro text member rest h
  obtain ⟨⟨name, after⟩, hkey, h⟩ := Option.bind_eq_some_iff.1 h
  obtain ⟨⟨value, rest⟩, htaken, heq⟩ := Option.map_eq_some_iff.1 h
  obtain ⟨rfl, rfl⟩ := Prod.mk.inj heq
  obtain ⟨key, rfl, hreadKey⟩ := exists_of_takeKey? hkey
  obtain ⟨used, rfl, hused⟩ := hvalue _ _ _ htaken
  refine ⟨key ++ used, by simp, fun fuel hfuel rest' hrest ↦ ?_⟩
  rw [List.length_append] at hfuel
  have hread := hused fuel (by omega) rest' hrest
  dsimp only at hread ⊢
  rw [takeMember, List.append_assoc, hreadKey, Option.bind_some, hread, Option.map_some]

/-! ## Documents -/

/-- What is read of a document with some fuel and up to some depth depends on the characters that
are read, and not on those behind them. -/
structure Local (fuel depth : Nat) : Prop where
  value : IsLocal 1 (takeValue · depth) fuel
  sequence : IsLocal 1 (takeSequence · depth) fuel
  items : IsLocal 0 (takeItems · depth) fuel
  table : IsLocal 1 (takeTable · depth) fuel
  members : IsLocal 0 (takeMembers · depth) fuel

/-- By induction on the fuel, for all depths at once: a bracket lowers the depth. -/
theorem local_take (fuel depth : Nat) : Local fuel depth := by
  induction fuel generalizing depth with
  | zero =>
    constructor <;> intro text a rest h <;>
      simp [takeValue, takeSequence, takeItems, takeTable, takeMembers] at h
  | succ fuel ih =>
    have hvalue := (ih depth).value
    exact {
      value := isLocal_takeValue_succ (fun depth ↦ (ih depth).sequence)
        (fun depth ↦ (ih depth).table) depth
      sequence := (readsWhole_takeSequence depth).isLocal_succ (.inl rfl) (ih depth).items
      items := (readsRows_takeItems depth).isLocal_succ (.inl rfl) hvalue (ih depth).items
      table := (readsWhole_takeTable depth).isLocal_succ (.inr rfl) (ih depth).members
      members := (readsRows_takeMembers depth).isLocal_succ (.inr rfl) (isLocal_takeMember hvalue)
        (ih depth).members }

end LiveTemplate.Document
