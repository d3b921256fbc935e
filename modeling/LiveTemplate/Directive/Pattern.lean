import LiveTemplate.Directive.Basic
import LiveTemplate.Text.Blank
import LiveTemplate.Text.Word

/-!
# The pattern of a directive

A directive is a brace, white space, an optional `cmd:` with white space, a name of word characters,
a parameter in parentheses, optional modifiers, white space and a brace. The parameter may hold
escapes, a backslash before any character but a line feed, and groups in parentheses that hold no
groups themselves. The modifiers are `interval:` and `async:`, each at most once and in either
order; white space is allowed only after their commas and colons.

Each part is read without looking back: the first character that a part cannot take also cannot
start the part's continuation differently, so every choice is determined by the next characters.
-/

namespace LiveTemplate.Directive

open Text

/-! ## Parts -/

/-- What follows a given beginning. -/
def after : List Char → List Char → Option (List Char)
  | [], text => some text
  | _ :: _, [] => none
  | expected :: more, c :: rest => if c = expected then after more rest else none

def skipBlank (text : List Char) : List Char := text.dropWhile isBlank

/-- Reads a parameter up to the parenthesis that ends it, which is dropped. The flag tells whether a
group is open. -/
def takeParam : Bool → List Char → Option (List Char × List Char)
  | _, [] => none
  | inGroup, '\\' :: escaped =>
    match escaped with
    | [] => none
    | c :: rest =>
      if c = '\n' then none
      else (takeParam inGroup rest).map fun (param, tail) ↦ ('\\' :: c :: param, tail)
  | inGroup, c :: rest =>
    if c = '(' then
      if inGroup then none
      else (takeParam true rest).map fun (param, tail) ↦ (c :: param, tail)
    else if c = ')' && !inGroup then some ([], rest)
    else (takeParam (inGroup && c ≠ ')') rest).map fun (param, tail) ↦ (c :: param, tail)

/-- Reads a number: digits, digits with a point inside, or a point and digits. -/
def takeNumber (text : List Char) : Option (List Char × List Char) :=
  let whole := text.takeWhile isDecimalDigit
  let tail := text.dropWhile isDecimalDigit
  let unpointed := if whole.isEmpty then none else some (whole, tail)
  match tail with
  | '.' :: rest =>
    let fraction := rest.takeWhile isDecimalDigit
    if fraction.isEmpty then unpointed
    else some (whole ++ '.' :: fraction, rest.dropWhile isDecimalDigit)
  | _ => unpointed

def takeFlag (text : List Char) : Option (Bool × List Char) :=
  match after "true".toList text with
  | some rest => some (true, rest)
  | none => (after "false".toList text).map fun rest ↦ (false, rest)

def takeInterval (text : List Char) : Option (List Char × List Char) :=
  (after "interval:".toList (skipBlank text)).bind fun rest ↦ takeNumber (skipBlank rest)

def takeMode (text : List Char) : Option (Bool × List Char) :=
  (after "async:".toList (skipBlank text)).bind fun rest ↦ takeFlag (skipBlank rest)

structure Modifiers where
  interval : Option (List Char)
  isAsync : Option Bool

/-- Reads the modifiers. A comma that starts no modifier leaves nothing that could end the
directive. -/
def takeModifiers (text : List Char) : Option (Modifiers × List Char) :=
  match text with
  | ',' :: body =>
    match takeInterval body with
    | some (interval, rest) =>
      match rest with
      | ',' :: more => (takeMode more).map fun (flag, tail) ↦ (⟨some interval, some flag⟩, tail)
      | _ => some (⟨some interval, none⟩, rest)
    | none =>
      match takeMode body with
      | some (flag, rest) =>
        match rest with
        | ',' :: more =>
          (takeInterval more).map fun (interval, tail) ↦ (⟨some interval, some flag⟩, tail)
        | _ => some (⟨none, some flag⟩, rest)
      | none => none
  | _ => some (⟨none, none⟩, text)

/-- What follows an optional `cmd:` with white space. -/
def skipMarker (text : List Char) : List Char :=
  match after "cmd:".toList text with
  | some rest => skipBlank rest
  | none => text

/-- Reads a command name, one word character or more. -/
def takeName (text : List Char) : Option (List Char × List Char) :=
  let name := text.takeWhile isWord
  if name.isEmpty then none else some (name, text.dropWhile isWord)

/-! ## The whole directive -/

def takeDirective (text : List Char) : Option (Fields × List Char) := do
  let opened ← after ['\x7b'] text
  let (command, named) ← takeName (skipMarker (skipBlank opened))
  let body ← after ['('] named
  let (param, tail) ← takeParam false body
  let (modifiers, ending) ← takeModifiers tail
  let rest ← after ['\x7d'] (skipBlank ending)
  return (⟨command, param, modifiers.interval, modifiers.isAsync⟩, rest)

/-! ## Progress

Each part leaves a suffix of what it was given, and a directive takes at least its brace. -/

theorem suffix_of_after {expected text rest : List Char} (h : after expected text = some rest) :
    text = expected ++ rest := by
  fun_induction after expected text with
  | case1 => simp_all
  | case2 => simp at h
  | case3 more tail c ih => simp [ih h]
  | case4 => simp at h

theorem skipBlank_suffix (text : List Char) : skipBlank text <:+ text :=
  List.dropWhile_suffix _

theorem skipMarker_suffix (text : List Char) : skipMarker text <:+ text := by
  unfold skipMarker
  split
  · rename_i rest h
    exact (skipBlank_suffix rest).trans ⟨_, (suffix_of_after h).symm⟩
  · exact List.suffix_rfl

theorem suffix_of_takeName {text name rest : List Char} (h : takeName text = some (name, rest)) :
    rest <:+ text := by
  simp only [takeName] at h
  split at h
  · simp at h
  · simp only [Option.some.injEq, Prod.mk.injEq] at h
    exact h.2 ▸ List.dropWhile_suffix _

theorem suffix_of_takeParam {inGroup : Bool} {text param rest : List Char}
    (h : takeParam inGroup text = some (param, rest)) : rest <:+ text := by
  fun_induction takeParam inGroup text generalizing param rest <;>
    simp_all only [Option.map_eq_some_iff, Prod.mk.injEq, Option.some.injEq, reduceCtorEq,
      Prod.exists]
  case case4 ih =>
    obtain ⟨p, r, hp, -, rfl⟩ := h
    exact (ih hp).trans ((List.suffix_cons _ _).trans (List.suffix_cons _ _))
  case case6 ih =>
    obtain ⟨p, r, hp, -, rfl⟩ := h
    exact (ih hp).trans (List.suffix_cons _ _)
  case case7 => exact List.suffix_cons _ _
  case case8 ih =>
    obtain ⟨p, r, hp, -, rfl⟩ := h
    exact (ih hp).trans (List.suffix_cons _ _)

theorem suffix_of_takeNumber {text number rest : List Char}
    (h : takeNumber text = some (number, rest)) : rest <:+ text := by
  have htail := List.dropWhile_suffix isDecimalDigit (l := text)
  simp only [takeNumber] at h
  split at h
  · rename_i pointed hpointed
    split at h
    · split at h <;> simp_all
    · simp only [Option.some.injEq, Prod.mk.injEq] at h
      rw [← h.2]
      rw [hpointed] at htail
      exact (List.dropWhile_suffix _).trans ((List.suffix_cons _ _).trans htail)
  · split at h <;> simp_all

theorem suffix_of_takeFlag {text rest : List Char} {flag : Bool}
    (h : takeFlag text = some (flag, rest)) : rest <:+ text := by
  unfold takeFlag at h
  split at h
  · rename_i tail htail
    simp only [Option.some.injEq, Prod.mk.injEq] at h
    exact ⟨_, h.2 ▸ (suffix_of_after htail).symm⟩
  · obtain ⟨tail, htail, heq⟩ := Option.map_eq_some_iff.1 h
    simp only [Prod.mk.injEq] at heq
    exact ⟨_, heq.2 ▸ (suffix_of_after htail).symm⟩

theorem suffix_of_takeInterval {text number rest : List Char}
    (h : takeInterval text = some (number, rest)) : rest <:+ text := by
  obtain ⟨tail, htail, hnumber⟩ := Option.bind_eq_some_iff.1 h
  exact (suffix_of_takeNumber hnumber).trans ((skipBlank_suffix _).trans
    (.trans ⟨_, (suffix_of_after htail).symm⟩ (skipBlank_suffix _)))

theorem suffix_of_takeMode {text rest : List Char} {flag : Bool}
    (h : takeMode text = some (flag, rest)) : rest <:+ text := by
  obtain ⟨tail, htail, hflag⟩ := Option.bind_eq_some_iff.1 h
  exact (suffix_of_takeFlag hflag).trans ((skipBlank_suffix _).trans
    (.trans ⟨_, (suffix_of_after htail).symm⟩ (skipBlank_suffix _)))

theorem suffix_of_takeModifiers {text rest : List Char} {modifiers : Modifiers}
    (h : takeModifiers text = some (modifiers, rest)) : rest <:+ text := by
  unfold takeModifiers at h
  split at h
  · rename_i body
    refine List.IsSuffix.trans ?_ (List.suffix_cons _ body)
    split at h
    · rename_i interval tail hinterval
      have hsuffix := suffix_of_takeInterval hinterval
      split at h
      · obtain ⟨⟨flag, final⟩, hmode, heq⟩ := Option.map_eq_some_iff.1 h
        simp only [Prod.mk.injEq] at heq
        exact heq.2 ▸ (suffix_of_takeMode hmode).trans ((List.suffix_cons _ _).trans hsuffix)
      · simp only [Option.some.injEq, Prod.mk.injEq] at h
        exact h.2 ▸ hsuffix
    · split at h
      · rename_i flag tail hmode
        have hsuffix := suffix_of_takeMode hmode
        split at h
        · obtain ⟨⟨interval, final⟩, hinterval, heq⟩ := Option.map_eq_some_iff.1 h
          simp only [Prod.mk.injEq] at heq
          exact heq.2 ▸
            (suffix_of_takeInterval hinterval).trans ((List.suffix_cons _ _).trans hsuffix)
        · simp only [Option.some.injEq, Prod.mk.injEq] at h
          exact h.2 ▸ hsuffix
      · simp at h
  · simp only [Option.some.injEq, Prod.mk.injEq] at h
    exact h.2 ▸ List.suffix_rfl

/-- A directive leaves a proper suffix of the text it begins. -/
theorem length_lt_of_takeDirective {text rest : List Char} {fields : Fields}
    (h : takeDirective text = some (fields, rest)) : rest.length < text.length := by
  simp only [takeDirective, Option.bind_eq_bind, Option.bind_eq_some_iff] at h
  obtain ⟨opened, hopened, ⟨name, named⟩, hname, body, hbody, ⟨param, tail⟩, hparam,
    ⟨modifiers, ending⟩, hmodifiers, closed, hclosed, h⟩ := h
  simp only [Option.pure_def, Option.some.injEq, Prod.mk.injEq] at h
  dsimp only at hmodifiers hclosed hbody
  have h₁ := (suffix_of_takeParam hparam).length_le
  have h₂ := (suffix_of_takeModifiers hmodifiers).length_le
  have h₃ := (skipBlank_suffix ending).length_le
  have h₄ := congrArg List.length (suffix_of_after hclosed)
  have h₅ := congrArg List.length (suffix_of_after hbody)
  have h₆ := congrArg List.length (suffix_of_after hopened)
  have h₇ := (skipMarker_suffix (skipBlank opened)).length_le
  have h₈ := (skipBlank_suffix opened).length_le
  have h₉ := (suffix_of_takeName hname).length_le
  simp only [List.length_append, List.length_cons, List.length_nil] at h₄ h₅ h₆
  rw [← h.2]
  omega

end LiveTemplate.Directive
