/-!
# Tables of code points

A class of characters is given as a table of inclusive code-point ranges. A character belongs to
the class when one of the ranges holds its code point; the order of the ranges does not matter.
-/

namespace LiveTemplate.Text

/-- A class of characters, as inclusive ranges of code points. -/
abbrev CodeTable := List (Nat × Nat)

def inRange (range : Nat × Nat) (code : Nat) : Bool :=
  range.1 ≤ code && code ≤ range.2

/-- Whether a character belongs to the class that a table describes. -/
def CodeTable.contains (table : CodeTable) (c : Char) : Bool :=
  table.any fun range ↦ inRange range c.toNat

theorem CodeTable.contains_iff {table : CodeTable} {c : Char} :
    table.contains c = true ↔ ∃ range ∈ table, range.1 ≤ c.toNat ∧ c.toNat ≤ range.2 := by
  simp [CodeTable.contains, inRange]

/-- Two tables without a common code point describe disjoint classes. -/
def CodeTable.disjoint (first second : CodeTable) : Bool :=
  first.all fun a ↦ second.all fun b ↦ a.2 < b.1 || b.2 < a.1

theorem CodeTable.contains_eq_false_of_disjoint {first second : CodeTable} {c : Char}
    (hdisjoint : first.disjoint second = true) (hfirst : first.contains c = true) :
    second.contains c = false := by
  obtain ⟨a, ha, hlow, hhigh⟩ := CodeTable.contains_iff.1 hfirst
  refine Bool.eq_false_iff.2 fun hsecond ↦ ?_
  obtain ⟨b, hb, hlow', hhigh'⟩ := CodeTable.contains_iff.1 hsecond
  have h := List.all_eq_true.1 (List.all_eq_true.1 hdisjoint a ha) b hb
  simp only [Bool.or_eq_true, decide_eq_true_eq] at h
  omega

end LiveTemplate.Text
