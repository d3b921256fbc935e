import LiveTemplate.Proofs.Document.Locality

/-!
# Members of a document

A document that is a table is written as its members one behind the other, with commas between them.
Each of them is read by itself: as the only one between the braces it would be read as the same
member. So members can be put in another order, left out and brought in from other documents.
-/

namespace LiveTemplate.Document

open Directive (Ends)

variable {text rest blanks : List Char} {members : List (String × Value)}

/-! ## Values with blanks behind them -/

theorem IsBlanks.ends (h : IsBlanks blanks) : Ends isInner blanks := by
  have hends := h.ends_append ends_nil
  rwa [List.append_nil] at hends

theorem skipSpaces_eq_nil_iff : skipSpaces text = [] ↔ IsBlanks text :=
  List.dropWhile_eq_nil_iff

theorem parse?_of_readsWithin {used : List Char} {value : Value}
    (h : ReadsWithin 1 (takeValue · depthLimit) used value) (hblanks : IsBlanks blanks) :
    parse? (used ++ blanks) = some value := by
  have hfuel : 2 * used.length + 1 ≤ 2 * (used ++ blanks).length + 2 := by
    rw [List.length_append]
    omega
  have htaken := h _ hfuel blanks hblanks.ends
  dsimp only at htaken
  rw [parse?, htaken]
  simp [skipSpaces_eq_nil_iff.2 hblanks]

/-! ## Texts of members -/

/-- How deep the values of members may be nested, plus one. -/
def memberDepth : Nat := depthLimit - 1

/-- A text is read as a member, with blanks behind it. -/
def ReadsMember (chunk : List Char) (member : String × Value) : Prop :=
  ∃ used blanks, chunk = used ++ blanks ∧ IsBlanks blanks ∧
    ReadsWithin 1 (takeMember · memberDepth) used member

def spellMembers (chunks : List (List Char)) : List Char := [','].intercalate chunks ++ ['\x7d']

theorem spellMembers_singleton (chunk : List Char) : spellMembers [chunk] = chunk ++ ['\x7d'] := by
  rw [spellMembers, List.intercalate_singleton]

theorem spellMembers_cons (chunk : List Char) {chunks : List (List Char)} (h : chunks ≠ []) :
    spellMembers (chunk :: chunks) = chunk ++ ',' :: spellMembers chunks := by
  simp [spellMembers, List.intercalate_cons_of_ne_nil h]

theorem readsWithin_spellMembers {chunks : List (List Char)}
    (h : List.Forall₂ ReadsMember chunks members) (hne : chunks ≠ []) :
    ReadsWithin 0 (takeMembers · memberDepth) (spellMembers chunks) members := by
  have hrows := readsRows_takeMembers memberDepth
  induction h with
  | nil => contradiction
  | @cons chunk member chunks members hchunk hchunks ih =>
    obtain ⟨used, blanks, rfl, hblanks, hused⟩ := hchunk
    by_cases hlast : chunks = []
    · subst hlast
      obtain rfl := List.forall₂_nil_left_iff.1 hchunks
      rw [spellMembers_singleton, List.append_assoc]
      exact hrows.last (.inr rfl) hused hblanks
    · rw [spellMembers_cons _ hlast, List.append_assoc]
      exact hrows.cons hused hblanks (ih hlast)

/-- What has been read as members is texts of members with commas between them. -/
theorem exists_of_takeMembers {fuel : Nat}
    (h : takeMembers fuel memberDepth text = some (members, rest)) :
    ∃ chunks, chunks ≠ [] ∧ text = spellMembers chunks ++ rest ∧
      List.Forall₂ ReadsMember chunks members := by
  induction fuel generalizing text members with
  | zero => simp [takeMembers] at h
  | succ fuel ih =>
    rw [takeMembers_succ] at h
    obtain ⟨⟨member, after⟩, htaken, hafter⟩ := Option.bind_eq_some_iff.1 h
    obtain ⟨used, rfl, hused⟩ :=
      isLocal_takeMember (local_take fuel memberDepth).value _ _ _ htaken
    obtain ⟨blanks, hblanks, ⟨tail, more, rfl, hmore, rfl⟩ | ⟨rfl, rfl⟩⟩ := exists_of_goOn hafter
    · obtain ⟨chunks, hne, rfl, hchunks⟩ := ih hmore
      have hchunk : ReadsMember (used ++ blanks) member := ⟨used, blanks, rfl, hblanks, hused⟩
      refine ⟨(used ++ blanks) :: chunks, by simp, ?_, .cons hchunk hchunks⟩
      rw [spellMembers_cons _ hne]
      simp
    · have hchunk : ReadsMember (used ++ blanks) member := ⟨used, blanks, rfl, hblanks, hused⟩
      refine ⟨[used ++ blanks], by simp, ?_, .cons hchunk .nil⟩
      rw [spellMembers_singleton]
      simp

/-! ## Tables -/

/-- A table is read from its members, which may be none, and from blanks in front of them. -/
theorem readsWithin_table {chunks : List (List Char)} (h : List.Forall₂ ReadsMember chunks members)
    (hblanks : IsBlanks blanks) :
    ReadsWithin 1 (takeValue · depthLimit) ('\x7b' :: (blanks ++ spellMembers chunks))
      (.table members) := by
  have htable : ReadsWithin 1 (takeTable · memberDepth) (blanks ++ spellMembers chunks)
      (.table members) := by
    by_cases hne : chunks = []
    · subst hne
      obtain rfl := List.forall₂_nil_left_iff.1 h
      exact (readsWhole_takeTable memberDepth).nil (.inr rfl) hblanks
    · have hmembers := (readsWithin_spellMembers h hne).blanks_append hblanks
        fun fuel text ↦ takeMembers_skipSpaces fuel memberDepth text
      exact (readsWhole_takeTable memberDepth).row hmembers
  refine .of_succ (by simp) fun fuel hfuel rest' hrest ↦ ?_
  rw [List.length_cons] at hfuel
  rw [List.cons_append, takeValue_table (by decide)]
  exact htable fuel (by omega) rest' hrest

theorem exists_of_takeTable {fuel : Nat}
    (h : takeTable fuel memberDepth text = some (.table members, rest)) :
    ∃ blanks chunks, IsBlanks blanks ∧ text = blanks ++ (spellMembers chunks ++ rest) ∧
      List.Forall₂ ReadsMember chunks members := by
  cases fuel with
  | zero => simp [takeTable] at h
  | succ fuel =>
    rw [(readsWhole_takeTable memberDepth).succ] at h
    split at h
    case isTrue hhead =>
      obtain ⟨hvalue, rfl⟩ := Prod.mk.inj (Option.some.inj h)
      obtain rfl := Value.table.inj hvalue
      obtain ⟨blanks, hblanks, htext⟩ := exists_blanks text
      obtain ⟨tail, hskip⟩ := List.head?_eq_some_iff.1 hhead
      refine ⟨blanks, [], hblanks, ?_, .nil⟩
      rw [hskip] at htext
      rw [hskip]
      exact htext
    case isFalse =>
      obtain ⟨⟨row, rest⟩, hrow, heq⟩ := Option.map_eq_some_iff.1 h
      obtain ⟨hvalue, rfl⟩ := Prod.mk.inj heq
      obtain rfl := Value.table.inj hvalue
      obtain ⟨chunks, -, rfl, hchunks⟩ := exists_of_takeMembers hrow
      exact ⟨[], chunks, by simp [IsBlanks], rfl, hchunks⟩

theorem takeSequence_ne_table {fuel depth : Nat} :
    takeSequence fuel depth text ≠ some (.table members, rest) := by
  cases fuel with
  | zero => simp [takeSequence]
  | succ fuel =>
    rw [(readsWhole_takeSequence depth).succ]
    split <;> simp

/-- What is read as a table begins with a brace, in front of which there may be blanks. -/
theorem exists_of_takeValue_table {fuel : Nat}
    (h : takeValue fuel depthLimit text = some (.table members, rest)) :
    ∃ front tail fuel', IsBlanks front ∧ text = front ++ '\x7b' :: tail ∧
      takeTable fuel' memberDepth tail = some (.table members, rest) := by
  obtain ⟨front, hfront, htext⟩ := exists_blanks text
  cases fuel with
  | zero => simp [takeValue] at h
  | succ fuel =>
    rw [takeValue] at h
    split at h
    case h_6 tail hskip =>
      exact ⟨front, tail, fuel, hfront, hskip ▸ htext, h⟩
    case h_5 tail _ =>
      split at h
      · contradiction
      · exact absurd h takeSequence_ne_table
    case h_7 => simp [Option.bind_eq_some_iff] at h
    all_goals simp at h

/-- A document that is a table is read from members with commas between them. -/
theorem parse?_eq_some_table_iff_reads :
    parse? text = some (.table members) ↔ ∃ front inner back chunks,
      IsBlanks front ∧ IsBlanks inner ∧ IsBlanks back ∧ List.Forall₂ ReadsMember chunks members ∧
        text = front ++ '\x7b' :: (inner ++ (spellMembers chunks ++ back)) := by
  constructor
  · intro h
    obtain ⟨⟨value, back⟩, htaken, h⟩ := Option.bind_eq_some_iff.1 h
    dsimp only at h
    split at h
    case isTrue hback =>
      obtain rfl := Option.some.inj h
      obtain ⟨front, tail, fuel, hfront, rfl, htable⟩ := exists_of_takeValue_table htaken
      obtain ⟨inner, chunks, hinner, rfl, hchunks⟩ := exists_of_takeTable htable
      exact ⟨front, inner, back, chunks, hfront, hinner,
        skipSpaces_eq_nil_iff.1 (List.isEmpty_iff.1 hback), hchunks, rfl⟩
    case isFalse => contradiction
  · rintro ⟨front, inner, back, chunks, hfront, hinner, hback, hchunks, rfl⟩
    have htable := (readsWithin_table hchunks hinner).blanks_append hfront
      fun fuel text ↦ takeValue_skipSpaces fuel depthLimit text
    have hparse := parse?_of_readsWithin htable hback
    rwa [List.append_assoc, List.cons_append, List.append_assoc] at hparse

/-! ## Members that stand by themselves -/

/-- A text stands for a member if it does so as the only one between braces. -/
def IsMember (chunk : List Char) (member : String × Value) : Prop :=
  parse? ('\x7b' :: (chunk ++ ['\x7d'])) = some (.table [member])

theorem ReadsMember.blanks_append {chunk : List Char} {member : String × Value}
    (h : ReadsMember chunk member) (hblanks : IsBlanks blanks) :
    ReadsMember (blanks ++ chunk) member := by
  obtain ⟨used, behind, rfl, hbehind, hused⟩ := h
  refine ⟨blanks ++ used, behind, by simp, hbehind, ?_⟩
  exact hused.blanks_append hblanks fun fuel text ↦ takeMember_skipSpaces fuel memberDepth text

theorem isMember_iff {chunk : List Char} {member : String × Value} :
    IsMember chunk member ↔ ReadsMember chunk member := by
  have hnil : IsBlanks [] := by simp [IsBlanks]
  rw [IsMember, parse?_eq_some_table_iff_reads]
  constructor
  · rintro ⟨front, inner, back, chunks, hfront, hinner, hback, hchunks, htext⟩
    obtain ⟨chunk', _, hchunk, hnone, rfl⟩ := List.forall₂_cons_right_iff.1 hchunks
    obtain rfl := List.forall₂_nil_right_iff.1 hnone
    -- braces are no blanks, so there are none outside of these two
    obtain rfl : front = [] := by
      rcases front with _ | ⟨c, front⟩
      · rfl
      · have hspace := hfront c List.mem_cons_self
        rw [← (List.cons.inj htext).1] at hspace
        contradiction
    obtain rfl : back = [] := by
      rcases List.eq_nil_or_concat back with rfl | ⟨back, c, rfl⟩
      · rfl
      · have hspace := hback c (by simp)
        have hlast : chunk ++ ['\x7d'] = (inner ++ (spellMembers [chunk'] ++ back)) ++ [c] := by
          simpa using htext
        obtain rfl := List.cons.inj (List.append_inj' hlast rfl).2 |>.1
        contradiction
    have heq : chunk ++ ['\x7d'] = (inner ++ chunk') ++ ['\x7d'] := by
      simpa [spellMembers_singleton] using htext
    rw [List.append_cancel_right heq]
    exact hchunk.blanks_append hinner
  · intro h
    refine ⟨[], [], [], [chunk], hnil, hnil, hnil, .cons h .nil, ?_⟩
    rw [spellMembers_singleton, List.append_nil]
    rfl

/-- A text is a table: its members, each of which can stand by itself, are written one behind the
other with commas between them, and blanks may stand around the braces and inside of them. -/
def IsTable (text : List Char) (members : List (String × Value)) : Prop :=
  ∃ front inner back chunks, IsBlanks front ∧ IsBlanks inner ∧ IsBlanks back ∧
    List.Forall₂ IsMember chunks members ∧
      text = front ++ '\x7b' :: (inner ++ (spellMembers chunks ++ back))

/-- The documents that are tables are those that are written as their members. -/
theorem parse?_eq_some_table_iff : parse? text = some (.table members) ↔ IsTable text members := by
  have hmember : IsMember = ReadsMember := by
    funext chunk member
    exact propext isMember_iff
  rw [IsTable, hmember, parse?_eq_some_table_iff_reads]

end LiveTemplate.Document
