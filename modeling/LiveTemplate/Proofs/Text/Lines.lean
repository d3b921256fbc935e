import Mathlib.Data.List.Basic
import LiveTemplate.Text.Lines

/-!
# Lines one after another

A text that starts with a line and its line feed has that line first, less a carriage return at its
end, and the lines behind it after it. A line without a line feed is the last one, and loses nothing.
-/

namespace LiveTemplate.Text

variable {line rest : List Char} {c : Char}

/-- A line without the carriage return at its end. -/
def withoutReturn (line : List Char) : List Char :=
  if line.getLast? = some '\r' then line.dropLast else line

theorem withoutReturn_of_getLast?_ne (h : line.getLast? ≠ some '\r') : withoutReturn line = line :=
  if_neg h

theorem withoutReturn_append (line : List Char) : withoutReturn (line ++ ['\r']) = line := by
  rw [withoutReturn, List.getLast?_concat, if_pos rfl, List.dropLast_concat]

theorem withoutReturn_cons (h : line ≠ []) : withoutReturn (c :: line) = c :: withoutReturn line := by
  obtain ⟨d, line, rfl⟩ := List.exists_cons_of_ne_nil h
  simp only [withoutReturn, List.getLast?_cons_cons, List.dropLast_cons_cons]
  split <;> rfl

theorem withoutReturn_subset (line : List Char) : withoutReturn line ⊆ line := by
  rw [withoutReturn]
  split
  · exact List.dropLast_subset line
  · exact List.Subset.refl line

/-- A character that starts no terminator belongs to the first line. -/
theorem lines_cons {first : List Char} {others : List (List Char)} (hfeed : c ≠ '\n')
    (hpair : c = '\r' → rest.head? ≠ some '\n') (hlines : lines rest = first :: others) :
    lines (c :: rest) = (c :: first) :: others := by
  rw [lines, hlines]
  · exact hfeed
  · rintro behind rfl rfl
    exact hpair rfl rfl

/-- A text that starts with a line and its line feed. -/
theorem lines_feed (h : '\n' ∉ line) (rest : List Char) :
    lines (line ++ '\n' :: rest) = withoutReturn line :: lines rest := by
  induction line with
  | nil => rfl
  | cons c line ih =>
    have hfeed : c ≠ '\n' := (List.ne_of_not_mem_cons h).symm
    have hline : '\n' ∉ line := List.not_mem_of_not_mem_cons h
    rcases eq_or_ne line [] with rfl | hne
    · by_cases hreturn : c = '\r'
      · subst hreturn
        rfl
      · have hkept : withoutReturn [c] = [c] := withoutReturn_of_getLast?_ne (by simpa using hreturn)
        rw [hkept]
        exact lines_cons hfeed (fun h ↦ absurd h hreturn) rfl
    · obtain ⟨d, line, rfl⟩ := List.exists_cons_of_ne_nil hne
      have hnext : ((d :: line) ++ '\n' :: rest).head? ≠ some '\n' := by
        simpa using (List.ne_of_not_mem_cons hline).symm
      rw [withoutReturn_cons hne]
      exact lines_cons hfeed (fun _ ↦ hnext) (ih hline)

/-- The last line, if it has no terminator. -/
theorem lines_last (h : '\n' ∉ line) (hne : line ≠ []) : lines line = [line] := by
  induction line with
  | nil => exact absurd rfl hne
  | cons c line ih =>
    have hfeed : c ≠ '\n' := (List.ne_of_not_mem_cons h).symm
    have hline : '\n' ∉ line := List.not_mem_of_not_mem_cons h
    rcases eq_or_ne line [] with rfl | hrest
    · rw [lines, lines] <;> simp [hfeed]
    · obtain ⟨d, line, rfl⟩ := List.exists_cons_of_ne_nil hrest
      have hnext : (d :: line).head? ≠ some '\n' := by
        simpa using (List.ne_of_not_mem_cons hline).symm
      exact lines_cons hfeed (fun _ ↦ hnext) (ih hline hrest)

end LiveTemplate.Text
