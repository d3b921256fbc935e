import LiveTemplate.Directive.Pattern
import Mathlib.Data.List.TakeWhile

/-!
# The grammar of directives

A source is a directive if it can be derived from its parts, whichever way it may be cut into them.
A directive is read where it can be derived, with the fields of its derivation, and nowhere else.
The reader looks only at the next character: what follows a part never begins with a character that
the part could still take, and so there is only one way to go on.
-/

namespace LiveTemplate.Directive

open Text

/-! ## Derivations -/

def IsGap (text : List Char) : Prop := ∀ c ∈ text, isBlank c = true

instance (text : List Char) : Decidable (IsGap text) :=
  List.decidableBAll (isBlank · = true) text

/-- One character of a class or more. -/
def IsRun (holds : Char → Bool) (text : List Char) : Prop := text ≠ [] ∧ ∀ c ∈ text, holds c = true

instance (holds : Char → Bool) (text : List Char) : Decidable (IsRun holds text) :=
  have : Decidable (∀ c ∈ text, holds c = true) := List.decidableBAll (holds · = true) text
  inferInstanceAs (Decidable (text ≠ [] ∧ ∀ c ∈ text, holds c = true))

/-- Whether a character stands for itself in a parameter. -/
def isPlain (c : Char) : Bool := c ≠ '(' && c ≠ ')' && c ≠ '\\'

/-- What a group of a parameter holds: plain characters and escapes. -/
inductive IsInner : List Char → Prop
  | nil : IsInner []
  | plain {c : Char} {rest : List Char} (hc : isPlain c = true) (hrest : IsInner rest) :
      IsInner (c :: rest)
  | escape {c : Char} {rest : List Char} (hc : c ≠ '\n') (hrest : IsInner rest) :
      IsInner ('\\' :: c :: rest)

/-- A parameter: plain characters, escapes, and groups in parentheses. -/
inductive IsParam : List Char → Prop
  | nil : IsParam []
  | plain {c : Char} {rest : List Char} (hc : isPlain c = true) (hrest : IsParam rest) :
      IsParam (c :: rest)
  | escape {c : Char} {rest : List Char} (hc : c ≠ '\n') (hrest : IsParam rest) :
      IsParam ('\\' :: c :: rest)
  | group {inner rest : List Char} (hinner : IsInner inner) (hrest : IsParam rest) :
      IsParam ('(' :: (inner ++ ')' :: rest))

/-- A number: digits, digits with a point between them, or a point and digits. -/
inductive IsNumber : List Char → Prop
  | whole {digits : List Char} (hdigits : IsRun isDecimalDigit digits) : IsNumber digits
  | pointed {whole fraction : List Char} (hwhole : IsRun isDecimalDigit whole)
      (hfraction : IsRun isDecimalDigit fraction) : IsNumber (whole ++ '.' :: fraction)
  | fraction {fraction : List Char} (hfraction : IsRun isDecimalDigit fraction) :
      IsNumber ('.' :: fraction)

def spell (flag : Bool) : List Char := if flag then "true".toList else "false".toList

/-- A modifier behind its comma: a keyword and a value, each after white space. -/
def IsModifier (keyword value text : List Char) : Prop :=
  ∃ before between, IsGap before ∧ IsGap between ∧
    text = before ++ (keyword ++ (between ++ value))

/-- The modifiers of a directive: none, one of the two, or both in either order. -/
inductive IsTail : Option (List Char) → Option Bool → List Char → Prop
  | none : IsTail none none []
  | interval {number text : List Char} (hnumber : IsNumber number)
      (hinterval : IsModifier "interval:".toList number text) :
      IsTail (some number) none (',' :: text)
  | mode {flag : Bool} {text : List Char} (hmode : IsModifier "async:".toList (spell flag) text) :
      IsTail none (some flag) (',' :: text)
  | intervalMode {number first second : List Char} {flag : Bool} (hnumber : IsNumber number)
      (hinterval : IsModifier "interval:".toList number first)
      (hmode : IsModifier "async:".toList (spell flag) second) :
      IsTail (some number) (some flag) (',' :: (first ++ ',' :: second))
  | modeInterval {number first second : List Char} {flag : Bool} (hnumber : IsNumber number)
      (hmode : IsModifier "async:".toList (spell flag) first)
      (hinterval : IsModifier "interval:".toList number second) :
      IsTail (some number) (some flag) (',' :: (first ++ ',' :: second))

/-- What stands before the name: white space, and possibly `cmd:` and white space. -/
inductive IsLead : List Char → Prop
  | plain {gap : List Char} (hgap : IsGap gap) : IsLead gap
  | marked {before between : List Char} (hbefore : IsGap before) (hbetween : IsGap between) :
      IsLead (before ++ ("cmd:".toList ++ between))

def assemble (lead name param tail trail : List Char) : List Char :=
  '\x7b' :: (lead ++ (name ++ '(' :: (param ++ ')' :: (tail ++ (trail ++ ['\x7d'])))))

/-- A directive with given fields. -/
inductive Derives : Fields → List Char → Prop
  | intro {lead name param tail trail : List Char} {interval : Option (List Char)}
      {isAsync : Option Bool} (hlead : IsLead lead) (hname : IsRun isWord name)
      (hparam : IsParam param) (htail : IsTail interval isAsync tail) (htrail : IsGap trail) :
      Derives ⟨name, param, interval, isAsync⟩ (assemble lead name param tail trail)

/-! ## Classes of characters -/

/-- The characters that begin a directive or steer how a parameter is read. -/
def marks : List Char := ['(', ')', '\\', '\x7b']

/-- The characters that divide a directive into its parts. -/
def dividers : List Char := marks ++ [':', ',', '.', '\x7d']

/-- No white space is a word character or a digit, and no divider is any of them. -/
theorem classes_apart :
    blankTable.disjoint wordTable = true ∧ blankTable.disjoint digitTable = true ∧
      dividers.any isWord = false ∧ dividers.any isDecimalDigit = false := by
  decide +kernel

theorem isBlank_eq_false_of_isWord {c : Char} (h : isWord c = true) : isBlank c = false := by
  refine Bool.eq_false_iff.2 fun hblank ↦ ?_
  have hword : isWord c = false := CodeTable.contains_eq_false_of_disjoint classes_apart.1 hblank
  rw [hword] at h
  contradiction

theorem isBlank_eq_false_of_isDecimalDigit {c : Char} (h : isDecimalDigit c = true) :
    isBlank c = false := by
  refine Bool.eq_false_iff.2 fun hblank ↦ ?_
  have hdigit : isDecimalDigit c = false :=
    CodeTable.contains_eq_false_of_disjoint classes_apart.2.1 hblank
  rw [hdigit] at h
  contradiction

theorem isWord_of_mem_dividers {c : Char} (h : c ∈ dividers) : isWord c = false :=
  Bool.eq_false_iff.2 (List.any_eq_false.1 classes_apart.2.2.1 c h)

theorem isDecimalDigit_of_mem_dividers {c : Char} (h : c ∈ dividers) : isDecimalDigit c = false :=
  Bool.eq_false_iff.2 (List.any_eq_false.1 classes_apart.2.2.2 c h)

/-- A text that does not begin with a character of a class. -/
def Ends (holds : Char → Bool) (text : List Char) : Prop := ∀ c ∈ text.head?, holds c = false

variable {holds : Char → Bool} {run rest text : List Char}

theorem ends_cons {c : Char} (h : holds c = false) (rest : List Char) : Ends holds (c :: rest) := by
  simpa [Ends] using h

theorem Ends.mono {narrow : Char → Bool} (h : Ends holds rest)
    (himp : ∀ c, narrow c = true → holds c = true) : Ends narrow rest := by
  intro c hc
  refine Bool.eq_false_iff.2 fun hnarrow ↦ ?_
  exact Bool.eq_false_iff.1 (h c hc) (himp c hnarrow)

/-- A run before something else does not begin with a character of another class. -/
theorem IsRun.ends_append {other : Char → Bool} (h : IsRun holds run)
    (hother : ∀ c, holds c = true → other c = false) (rest : List Char) :
    Ends other (run ++ rest) := by
  obtain ⟨hne, hall⟩ := h
  cases run with
  | nil => contradiction
  | cons c run => exact ends_cons (hother c (hall c List.mem_cons_self)) _

theorem takeWhile_append_of_ends (hrun : ∀ c ∈ run, holds c = true) (hrest : Ends holds rest) :
    (run ++ rest).takeWhile holds = run := by
  rw [List.takeWhile_append_of_pos hrun]
  cases rest with
  | nil => simp
  | cons c rest => simp [hrest c rfl]

theorem dropWhile_append_of_ends (hrun : ∀ c ∈ run, holds c = true) (hrest : Ends holds rest) :
    (run ++ rest).dropWhile holds = rest := by
  rw [List.dropWhile_append_of_pos hrun]
  cases rest with
  | nil => rfl
  | cons c rest => simp [hrest c rfl]

/-! ## Reading fixed texts, white space and names -/

theorem after_append (expected rest : List Char) : after expected (expected ++ rest) = some rest := by
  induction expected with
  | nil => rfl
  | cons c expected ih => simpa [after] using ih

/-- Nothing follows a beginning that is another one. -/
theorem after_of_ne {c expected : Char} (h : c ≠ expected) (more rest : List Char) :
    after (expected :: more) (c :: rest) = none := by
  rw [after, if_neg h]

theorem after_eq_some_iff {expected : List Char} :
    after expected text = some rest ↔ text = expected ++ rest :=
  ⟨suffix_of_after, fun h ↦ h ▸ after_append expected rest⟩

theorem exists_gap_skipBlank (text : List Char) :
    ∃ gap, IsGap gap ∧ text = gap ++ skipBlank text :=
  ⟨text.takeWhile isBlank, fun _ ↦ List.mem_takeWhile_imp,
    List.takeWhile_append_dropWhile.symm⟩

theorem skipBlank_append {gap : List Char} (hgap : IsGap gap) (hrest : Ends isBlank rest) :
    skipBlank (gap ++ rest) = rest :=
  dropWhile_append_of_ends hgap hrest

theorem exists_of_takeName {name : List Char} (h : takeName text = some (name, rest)) :
    IsRun isWord name ∧ text = name ++ rest := by
  simp only [takeName] at h
  split at h
  case isTrue => contradiction
  case isFalse hne =>
    simp only [Option.some.injEq, Prod.mk.injEq] at h
    obtain ⟨rfl, rfl⟩ := h
    exact ⟨⟨by simpa using hne, fun _ ↦ List.mem_takeWhile_imp⟩,
      List.takeWhile_append_dropWhile.symm⟩

theorem takeName_append {name : List Char} (hname : IsRun isWord name) (hrest : Ends isWord rest) :
    takeName (name ++ rest) = some (name, rest) := by
  simp only [takeName, takeWhile_append_of_ends hname.2 hrest,
    dropWhile_append_of_ends hname.2 hrest]
  simp [hname.1]

theorem exists_lead_skipMarker (text : List Char) :
    ∃ lead, IsLead lead ∧ text = lead ++ skipMarker (skipBlank text) := by
  obtain ⟨before, hbefore, htext⟩ := exists_gap_skipBlank text
  unfold skipMarker
  split
  case h_1 marked hmarked =>
    obtain ⟨between, hbetween, hrest⟩ := exists_gap_skipBlank marked
    refine ⟨_, .marked hbefore hbetween, ?_⟩
    calc
      text = before ++ skipBlank text := htext
      _ = before ++ ("cmd:".toList ++ marked) := by rw [after_eq_some_iff.1 hmarked]
      _ = before ++ ("cmd:".toList ++ between) ++ skipBlank marked := by
        rw [List.append_assoc, List.append_assoc, ← hrest]
  case h_2 => exact ⟨before, .plain hbefore, htext⟩

/-- A name before a parenthesis is not taken for a marker, even if it begins like one. -/
theorem after_marker_name {name : List Char} (hname : IsRun isWord name) (rest : List Char) :
    after "cmd:".toList (name ++ '(' :: rest) = none := by
  obtain ⟨-, hall⟩ := hname
  have hcolon : isWord ':' = false := isWord_of_mem_dividers (by decide)
  match name with
  | [] | [_] | [_, _] | [_, _, _] => simp [after]
  | a :: b :: c :: d :: more =>
    have hd : d ≠ ':' := by
      rintro rfl
      rw [hall ':' (by simp)] at hcolon
      contradiction
    simp [after, hd]

theorem skipMarker_append {lead name : List Char} (hlead : IsLead lead)
    (hname : IsRun isWord name) (rest : List Char) :
    skipMarker (skipBlank (lead ++ (name ++ '(' :: rest))) = name ++ '(' :: rest := by
  have hends : Ends isBlank (name ++ '(' :: rest) :=
    hname.ends_append (fun _ ↦ isBlank_eq_false_of_isWord) _
  cases hlead with
  | plain hgap => rw [skipBlank_append hgap hends, skipMarker, after_marker_name hname]
  | @marked before between hbefore hbetween =>
    have hmarker : Ends isBlank ("cmd:".toList ++ (between ++ (name ++ '(' :: rest))) :=
      ends_cons (by decide) _
    rw [List.append_assoc, List.append_assoc, skipBlank_append hbefore hmarker, skipMarker,
      after_append]
    exact skipBlank_append hbetween hends

/-! ## Reading parameters -/

variable {c : Char} {inGroup : Bool}

theorem takeParam_plain (h : isPlain c = true) (inGroup : Bool) (rest : List Char) :
    takeParam inGroup (c :: rest) =
      (takeParam inGroup rest).map fun (param, tail) ↦ (c :: param, tail) := by
  obtain ⟨⟨hopen, hclose⟩, hescape⟩ : (c ≠ '(' ∧ c ≠ ')') ∧ c ≠ '\\' := by
    simpa [isPlain] using h
  simp [takeParam, hopen, hclose]

theorem takeParam_escape (h : c ≠ '\n') (inGroup : Bool) (rest : List Char) :
    takeParam inGroup ('\\' :: c :: rest) =
      (takeParam inGroup rest).map fun (param, tail) ↦ ('\\' :: c :: param, tail) := by
  simp [takeParam, h]

theorem takeParam_open (rest : List Char) :
    takeParam false ('(' :: rest) =
      (takeParam true rest).map fun (param, tail) ↦ ('(' :: param, tail) := by
  simp [takeParam]

theorem takeParam_open_inGroup (rest : List Char) : takeParam true ('(' :: rest) = none := by
  simp [takeParam]

theorem takeParam_close (rest : List Char) : takeParam false (')' :: rest) = some ([], rest) := by
  simp [takeParam]

theorem takeParam_close_inGroup (rest : List Char) :
    takeParam true (')' :: rest) =
      (takeParam false rest).map fun (param, tail) ↦ (')' :: param, tail) := by
  simp [takeParam]

/-- A parameter, or the rest of one of which a group is open. -/
def IsParamFrom : Bool → List Char → Prop
  | false, param => IsParam param
  | true, param => ∃ inner rest, IsInner inner ∧ IsParam rest ∧ param = inner ++ ')' :: rest

theorem isParamFrom_plain {param : List Char} (h : isPlain c = true)
    (hparam : IsParamFrom inGroup param) : IsParamFrom inGroup (c :: param) := by
  cases inGroup with
  | false => exact .plain h hparam
  | true =>
    obtain ⟨inner, rest, hinner, hrest, rfl⟩ := hparam
    exact ⟨c :: inner, rest, .plain h hinner, hrest, rfl⟩

theorem isParamFrom_escape {param : List Char} (h : c ≠ '\n')
    (hparam : IsParamFrom inGroup param) : IsParamFrom inGroup ('\\' :: c :: param) := by
  cases inGroup with
  | false => exact .escape h hparam
  | true =>
    obtain ⟨inner, rest, hinner, hrest, rfl⟩ := hparam
    exact ⟨'\\' :: c :: inner, rest, .escape h hinner, hrest, rfl⟩

theorem exists_of_takeParam {param : List Char} (h : takeParam inGroup text = some (param, rest)) :
    IsParamFrom inGroup param ∧ text = param ++ ')' :: rest := by
  fun_induction takeParam inGroup text generalizing param rest with
  | case1 | case2 | case3 | case5 => contradiction
  | case4 inGroup c tail hc ih =>
    obtain ⟨⟨read, left⟩, hread, heq⟩ := Option.map_eq_some_iff.1 h
    obtain ⟨rfl, rfl⟩ := Prod.mk.inj heq
    obtain ⟨hparam, rfl⟩ := ih hread
    exact ⟨isParamFrom_escape hc hparam, rfl⟩
  | case6 inGroup tail hgroup hescape ih =>
    obtain ⟨⟨read, left⟩, hread, heq⟩ := Option.map_eq_some_iff.1 h
    obtain ⟨rfl, rfl⟩ := Prod.mk.inj heq
    obtain ⟨⟨inner, param, hinner, hparam, rfl⟩, rfl⟩ := ih hread
    obtain rfl : inGroup = false := by simpa using hgroup
    exact ⟨.group hinner hparam, rfl⟩
  | case7 inGroup c tail hescape hopen hclose =>
    obtain ⟨rfl, rfl⟩ := Prod.mk.inj (Option.some.inj h)
    obtain ⟨rfl, rfl⟩ : c = ')' ∧ inGroup = false := by simpa using hclose
    exact ⟨.nil, rfl⟩
  | case8 inGroup c tail hescape hopen hclose ih =>
    obtain ⟨⟨read, left⟩, hread, heq⟩ := Option.map_eq_some_iff.1 h
    obtain ⟨rfl, rfl⟩ := Prod.mk.inj heq
    obtain ⟨hparam, rfl⟩ := ih hread
    refine ⟨?_, rfl⟩
    by_cases hc : c = ')'
    · obtain rfl : inGroup = true := by simpa [hc] using hclose
      subst hc
      have hrest : IsParamFrom false read := by simpa using hparam
      exact ⟨[], read, .nil, hrest, rfl⟩
    · have hplain : isPlain c = true := by simpa [isPlain, hopen, hc] using hescape
      rw [decide_eq_true hc, Bool.and_true] at hparam
      exact isParamFrom_plain hplain hparam

theorem takeParam_inner {inner : List Char} (h : IsInner inner) (rest : List Char) :
    takeParam true (inner ++ ')' :: rest) =
      (takeParam false rest).map fun (param, tail) ↦ (inner ++ ')' :: param, tail) := by
  induction h with
  | nil => exact takeParam_close_inGroup rest
  | plain hc hrest ih =>
    rw [List.cons_append, takeParam_plain hc, ih, Option.map_map]
    rfl
  | escape hc hrest ih =>
    rw [List.cons_append, List.cons_append, takeParam_escape hc, ih, Option.map_map]
    rfl

theorem takeParam_append {param : List Char} (h : IsParam param) (rest : List Char) :
    takeParam false (param ++ ')' :: rest) = some (param, rest) := by
  induction h with
  | nil => exact takeParam_close rest
  | plain hc hrest ih =>
    rw [List.cons_append, takeParam_plain hc, ih]
    rfl
  | escape hc hrest ih =>
    rw [List.cons_append, List.cons_append, takeParam_escape hc, ih]
    rfl
  | group hinner hrest ih =>
    rw [List.cons_append, List.append_assoc, List.cons_append, takeParam_open,
      takeParam_inner hinner, ih]
    rfl

/-! ## Reading modifiers -/

theorem exists_of_takeNumber {number : List Char} (h : takeNumber text = some (number, rest)) :
    IsNumber number ∧ text = number ++ rest := by
  have hwhole : ∀ c ∈ text.takeWhile isDecimalDigit, isDecimalDigit c = true :=
    fun _ ↦ List.mem_takeWhile_imp
  have hunpointed
      (h : (if (text.takeWhile isDecimalDigit).isEmpty then none
        else some (text.takeWhile isDecimalDigit, text.dropWhile isDecimalDigit)) =
          some (number, rest)) : IsNumber number ∧ text = number ++ rest := by
    split at h
    case isTrue => contradiction
    case isFalse hne =>
      obtain ⟨rfl, rfl⟩ := Prod.mk.inj (Option.some.inj h)
      exact ⟨.whole ⟨by simpa using hne, hwhole⟩, List.takeWhile_append_dropWhile.symm⟩
  simp only [takeNumber] at h
  split at h
  case h_2 => exact hunpointed h
  case h_1 pointed htail =>
    split at h
    case isTrue => exact hunpointed (htail ▸ h)
    case isFalse hne =>
      obtain ⟨rfl, rfl⟩ := Prod.mk.inj (Option.some.inj h)
      have hfraction : IsRun isDecimalDigit (pointed.takeWhile isDecimalDigit) :=
        ⟨by simpa using hne, fun _ ↦ List.mem_takeWhile_imp⟩
      constructor
      · by_cases hempty : text.takeWhile isDecimalDigit = []
        · rw [hempty]
          exact .fraction hfraction
        · exact .pointed ⟨hempty, hwhole⟩ hfraction
      · calc
          text = text.takeWhile isDecimalDigit ++ text.dropWhile isDecimalDigit :=
            List.takeWhile_append_dropWhile.symm
          _ = text.takeWhile isDecimalDigit ++ '.' :: (pointed.takeWhile isDecimalDigit ++
              pointed.dropWhile isDecimalDigit) := by
            rw [htail, List.takeWhile_append_dropWhile]
          _ = _ := by rw [List.append_assoc, List.cons_append]

def isNumeral (c : Char) : Bool := isDecimalDigit c || c = '.'

/-- Digits, possibly none, with a point and more digits behind them. -/
theorem takeNumber_pointed {whole fraction : List Char}
    (hwhole : ∀ c ∈ whole, isDecimalDigit c = true) (hfraction : IsRun isDecimalDigit fraction)
    (hrest : Ends isDecimalDigit rest) :
    takeNumber (whole ++ '.' :: (fraction ++ rest)) = some (whole ++ '.' :: fraction, rest) := by
  have hpoint : Ends isDecimalDigit ('.' :: (fraction ++ rest)) :=
    ends_cons (isDecimalDigit_of_mem_dividers (by decide)) _
  simp [takeNumber, takeWhile_append_of_ends hwhole hpoint, dropWhile_append_of_ends hwhole hpoint,
    takeWhile_append_of_ends hfraction.2 hrest, dropWhile_append_of_ends hfraction.2 hrest,
    hfraction.1]

theorem takeNumber_append {number : List Char} (h : IsNumber number)
    (hrest : Ends isNumeral rest) : takeNumber (number ++ rest) = some (number, rest) := by
  have hdigit : Ends isDecimalDigit rest := hrest.mono fun c hc ↦ by simp [isNumeral, hc]
  cases h with
  | whole hdigits =>
    simp only [takeNumber, takeWhile_append_of_ends hdigits.2 hdigit,
      dropWhile_append_of_ends hdigits.2 hdigit]
    split
    case h_1 tail =>
      have hpoint := hrest '.' rfl
      contradiction
    case h_2 => simp [hdigits.1]
  | pointed hwhole hfraction =>
    rw [List.append_assoc, List.cons_append]
    exact takeNumber_pointed hwhole.2 hfraction hdigit
  | fraction hfraction =>
    have hempty : ∀ c ∈ ([] : List Char), isDecimalDigit c = true := by simp
    exact takeNumber_pointed hempty hfraction hdigit

theorem eq_of_takeFlag {flag : Bool} (h : takeFlag text = some (flag, rest)) :
    text = spell flag ++ rest := by
  unfold takeFlag at h
  split at h
  case h_1 tail htail =>
    obtain ⟨rfl, rfl⟩ := Prod.mk.inj (Option.some.inj h)
    exact after_eq_some_iff.1 htail
  case h_2 =>
    obtain ⟨tail, htail, heq⟩ := Option.map_eq_some_iff.1 h
    obtain ⟨rfl, rfl⟩ := Prod.mk.inj heq
    exact after_eq_some_iff.1 htail

theorem takeFlag_append (flag : Bool) (rest : List Char) :
    takeFlag (spell flag ++ rest) = some (flag, rest) := by
  cases flag <;> simp [takeFlag, spell, after]

/-- What is read after a keyword, with white space before and behind the keyword. -/
theorem exists_modifier {keyword behind value : List Char}
    (hkeyword : after keyword (skipBlank text) = some behind)
    (hvalue : skipBlank behind = value ++ rest) :
    ∃ modifier, IsModifier keyword value modifier ∧ text = modifier ++ rest := by
  obtain ⟨before, hbefore, htext⟩ := exists_gap_skipBlank text
  obtain ⟨between, hbetween, hbehind⟩ := exists_gap_skipBlank behind
  refine ⟨_, ⟨before, between, hbefore, hbetween, rfl⟩, ?_⟩
  calc
    text = before ++ (keyword ++ behind) := by rw [← after_eq_some_iff.1 hkeyword, ← htext]
    _ = before ++ (keyword ++ (between ++ (value ++ rest))) := by rw [← hvalue, ← hbehind]
    _ = _ := by simp only [List.append_assoc]

theorem exists_after_modifier {keyword value modifier : List Char}
    (h : IsModifier keyword value modifier) (hkeyword : ∀ more, Ends isBlank (keyword ++ more))
    (hvalue : Ends isBlank (value ++ rest)) :
    ∃ behind, after keyword (skipBlank (modifier ++ rest)) = some behind ∧
      skipBlank behind = value ++ rest := by
  obtain ⟨before, between, hbefore, hbetween, rfl⟩ := h
  refine ⟨between ++ (value ++ rest), ?_, skipBlank_append hbetween hvalue⟩
  rw [List.append_assoc, List.append_assoc, List.append_assoc,
    skipBlank_append hbefore (hkeyword _), after_append]

theorem exists_of_takeInterval {number : List Char} (h : takeInterval text = some (number, rest)) :
    IsNumber number ∧ ∃ modifier, IsModifier "interval:".toList number modifier ∧
      text = modifier ++ rest := by
  obtain ⟨behind, hkeyword, hread⟩ := Option.bind_eq_some_iff.1 h
  obtain ⟨hnumber, hvalue⟩ := exists_of_takeNumber hread
  exact ⟨hnumber, exists_modifier hkeyword hvalue⟩

theorem exists_of_takeMode {flag : Bool} (h : takeMode text = some (flag, rest)) :
    ∃ modifier, IsModifier "async:".toList (spell flag) modifier ∧ text = modifier ++ rest := by
  obtain ⟨behind, hkeyword, hread⟩ := Option.bind_eq_some_iff.1 h
  exact exists_modifier hkeyword (eq_of_takeFlag hread)

theorem IsNumber.ends_append {number : List Char} (h : IsNumber number) (rest : List Char) :
    Ends isBlank (number ++ rest) := by
  have hdigit (c : Char) (hc : isDecimalDigit c = true) : isBlank c = false :=
    isBlank_eq_false_of_isDecimalDigit hc
  cases h with
  | whole hdigits => exact hdigits.ends_append hdigit rest
  | pointed hwhole =>
    rw [List.append_assoc]
    exact hwhole.ends_append hdigit _
  | fraction => exact ends_cons (by decide) _

theorem takeInterval_append {number modifier : List Char} (hnumber : IsNumber number)
    (h : IsModifier "interval:".toList number modifier) (hrest : Ends isNumeral rest) :
    takeInterval (modifier ++ rest) = some (number, rest) := by
  obtain ⟨behind, hkeyword, hvalue⟩ := exists_after_modifier h
    (fun _ ↦ ends_cons (by decide) _) (hnumber.ends_append rest)
  rw [takeInterval, hkeyword, Option.bind_some, hvalue, takeNumber_append hnumber hrest]

theorem takeMode_append {flag : Bool} {modifier : List Char}
    (h : IsModifier "async:".toList (spell flag) modifier) (rest : List Char) :
    takeMode (modifier ++ rest) = some (flag, rest) := by
  have hspell : Ends isBlank (spell flag ++ rest) := by
    cases flag <;> exact ends_cons (by decide) _
  obtain ⟨behind, hkeyword, hvalue⟩ := exists_after_modifier h
    (fun _ ↦ ends_cons (by decide) _) hspell
  rw [takeMode, hkeyword, Option.bind_some, hvalue, takeFlag_append]

/-- A mode is not taken for an interval. -/
theorem takeInterval_mode {value modifier : List Char}
    (h : IsModifier "async:".toList value modifier) (rest : List Char) :
    takeInterval (modifier ++ rest) = none := by
  obtain ⟨before, between, hbefore, -, rfl⟩ := h
  have hkeyword : Ends isBlank ("async:".toList ++ (between ++ (value ++ rest))) :=
    ends_cons (by decide) _
  have hletter : 'a' ≠ 'i' := by decide
  have hother : after "interval:".toList ("async:".toList ++ (between ++ (value ++ rest))) = none :=
    after_of_ne hletter _ _
  rw [List.append_assoc, List.append_assoc, List.append_assoc, takeInterval,
    skipBlank_append hbefore hkeyword, hother, Option.bind_none]

theorem exists_of_takeModifiers {modifiers : Modifiers}
    (h : takeModifiers text = some (modifiers, rest)) :
    ∃ tail, IsTail modifiers.interval modifiers.isAsync tail ∧ text = tail ++ rest := by
  unfold takeModifiers at h
  split at h
  case h_2 =>
    obtain ⟨rfl, rfl⟩ := Prod.mk.inj (Option.some.inj h)
    exact ⟨[], .none, rfl⟩
  case h_1 body =>
    split at h
    case h_1 number left hfirst =>
      obtain ⟨hnumber, first, hinterval, rfl⟩ := exists_of_takeInterval hfirst
      split at h
      case h_1 more =>
        obtain ⟨⟨flag, left⟩, hsecond, heq⟩ := Option.map_eq_some_iff.1 h
        obtain ⟨rfl, rfl⟩ := Prod.mk.inj heq
        obtain ⟨second, hmode, rfl⟩ := exists_of_takeMode hsecond
        exact ⟨_, .intervalMode hnumber hinterval hmode, by simp⟩
      case h_2 =>
        obtain ⟨rfl, rfl⟩ := Prod.mk.inj (Option.some.inj h)
        exact ⟨_, .interval hnumber hinterval, rfl⟩
    case h_2 =>
      split at h
      case h_2 => contradiction
      case h_1 flag left hfirst =>
        obtain ⟨first, hmode, rfl⟩ := exists_of_takeMode hfirst
        split at h
        case h_1 more =>
          obtain ⟨⟨number, left⟩, hsecond, heq⟩ := Option.map_eq_some_iff.1 h
          obtain ⟨rfl, rfl⟩ := Prod.mk.inj heq
          obtain ⟨hnumber, second, hinterval, rfl⟩ := exists_of_takeInterval hsecond
          exact ⟨_, .modeInterval hnumber hmode hinterval, by simp⟩
        case h_2 =>
          obtain ⟨rfl, rfl⟩ := Prod.mk.inj (Option.some.inj h)
          exact ⟨_, .mode hmode, rfl⟩

/-- The characters with which modifiers could go on. -/
def isTailing (c : Char) : Bool := isNumeral c || c = ','

theorem isTailing_eq_false_of_isBlank {c : Char} (h : isBlank c = true) : isTailing c = false := by
  have hdigit : isDecimalDigit c = false := by
    refine Bool.eq_false_iff.2 fun hdigit ↦ ?_
    rw [isBlank_eq_false_of_isDecimalDigit hdigit] at h
    contradiction
  have hne {mark : Char} (hmark : isBlank mark = false) : c ≠ mark := by
    rintro rfl
    rw [hmark] at h
    contradiction
  have hpoint : c ≠ '.' := hne (by decide)
  have hcomma : c ≠ ',' := hne (by decide)
  simp [isTailing, isNumeral, hdigit, hpoint, hcomma]

theorem takeModifiers_append {interval : Option (List Char)} {isAsync : Option Bool}
    {tail : List Char} (h : IsTail interval isAsync tail) (hrest : Ends isTailing rest) :
    takeModifiers (tail ++ rest) = some (⟨interval, isAsync⟩, rest) := by
  have hnumeral : Ends isNumeral rest := hrest.mono fun c hc ↦ by simp [isTailing, hc]
  have hcomma (more : List Char) (heq : rest = ',' :: more) : False := by
    have hfalse := hrest ',' (by simp [heq])
    contradiction
  have hnext (more : List Char) : Ends isNumeral (',' :: more) := ends_cons (by decide) _
  cases h with
  | none => rw [List.nil_append, takeModifiers.eq_2 _ hcomma]
  | interval hnumber hinterval =>
    simp only [List.cons_append, takeModifiers, takeInterval_append hnumber hinterval hnumeral]
  | mode hmode =>
    simp only [List.cons_append, takeModifiers, takeInterval_mode hmode, takeMode_append hmode]
  | intervalMode hnumber hinterval hmode =>
    simp only [List.cons_append, List.append_assoc, takeModifiers,
      takeInterval_append hnumber hinterval (hnext _), takeMode_append hmode, Option.map_some]
  | modeInterval hnumber hmode hinterval =>
    simp only [List.cons_append, List.append_assoc, takeModifiers, takeInterval_mode hmode,
      takeMode_append hmode, takeInterval_append hnumber hinterval hnumeral, Option.map_some]

/-! ## Reading directives -/

/-- The parts that a directive is read from. -/
theorem takeDirective_eq_some_parts {fields : Fields} :
    takeDirective text = some (fields, rest) ↔
      ∃ opened named body tail ending, after ['\x7b'] text = some opened ∧
        takeName (skipMarker (skipBlank opened)) = some (fields.command, named) ∧
        after ['('] named = some body ∧ takeParam false body = some (fields.param, tail) ∧
        takeModifiers tail = some (⟨fields.interval, fields.isAsync⟩, ending) ∧
        after ['\x7d'] (skipBlank ending) = some rest := by
  simp only [takeDirective, Option.bind_eq_bind, Option.bind_eq_some_iff, Option.pure_def,
    Option.some.injEq, Prod.mk.injEq, Prod.exists]
  constructor
  · rintro ⟨opened, hopened, command, named, hname, body, hbody, param, tail, hparam, modifiers,
      ending, htail, closed, hclosed, rfl, rfl⟩
    exact ⟨opened, named, body, tail, ending, hopened, hname, hbody, hparam, htail, hclosed⟩
  · rintro ⟨opened, named, body, tail, ending, hopened, hname, hbody, hparam, htail, hclosed⟩
    exact ⟨opened, hopened, _, named, hname, body, hbody, _, tail, hparam, _, ending, htail, rest,
      hclosed, rfl, rfl⟩

/-- A directive is read where one can be derived, and with the fields of the derivation. -/
theorem takeDirective_eq_some_iff {fields : Fields} :
    takeDirective text = some (fields, rest) ↔
      ∃ source, Derives fields source ∧ text = source ++ rest := by
  rw [takeDirective_eq_some_parts]
  constructor
  · rintro ⟨opened, named, body, tail, ending, hopened, hname, hbody, hparam, htail, hclosed⟩
    obtain ⟨lead, hlead, hskipped⟩ := exists_lead_skipMarker opened
    obtain ⟨hname, hnamed⟩ := exists_of_takeName hname
    obtain ⟨hparam, hbodied⟩ := exists_of_takeParam hparam
    obtain ⟨modifiers, hmodifiers, htailed⟩ := exists_of_takeModifiers htail
    obtain ⟨trail, htrail, hended⟩ := exists_gap_skipBlank ending
    have hending : ending = trail ++ '\x7d' :: rest := by
      rw [hended, after_eq_some_iff.1 hclosed]
      rfl
    refine ⟨_, .intro hlead hname hparam hmodifiers htrail, ?_⟩
    calc
      text = '\x7b' :: opened := after_eq_some_iff.1 hopened
      _ = '\x7b' :: (lead ++ (fields.command ++ named)) := by rw [← hnamed, ← hskipped]
      _ = '\x7b' :: (lead ++ (fields.command ++ '(' :: (fields.param ++ ')' :: tail))) := by
        rw [after_eq_some_iff.1 hbody, hbodied]
        rfl
      _ = '\x7b' :: (lead ++ (fields.command ++ '(' :: (fields.param ++ ')' ::
          (modifiers ++ (trail ++ '\x7d' :: rest))))) := by
        rw [htailed, hending]
      _ = _ := by simp only [assemble, List.append_assoc, List.cons_append, List.nil_append]
  · rintro ⟨_, @⟨lead, name, param, tail, trail, interval, isAsync, hlead, hname, hparam, htail,
      htrail⟩, rfl⟩
    let ending := trail ++ '\x7d' :: rest
    have hparenthesis : Ends isWord ('(' :: (param ++ ')' :: (tail ++ ending))) :=
      ends_cons (isWord_of_mem_dividers (by decide)) _
    have hending : Ends isTailing ending := by
      cases trail with
      | nil => exact ends_cons (by decide) _
      | cons c trail =>
        have hblank : isBlank c = true := htrail c List.mem_cons_self
        exact ends_cons (isTailing_eq_false_of_isBlank hblank) _
    have hclosed : skipBlank ending = '\x7d' :: rest :=
      skipBlank_append htrail (ends_cons (by decide) _)
    refine ⟨lead ++ (name ++ '(' :: (param ++ ')' :: (tail ++ ending))),
      '(' :: (param ++ ')' :: (tail ++ ending)), param ++ ')' :: (tail ++ ending), tail ++ ending,
      ending, ?_, ?_, ?_, ?_, ?_, ?_⟩
    · simp [after, assemble, ending]
    · rw [skipMarker_append hlead hname, takeName_append hname hparenthesis]
    · simp [after]
    · exact takeParam_append hparam _
    · exact takeModifiers_append htail hending
    · simp [hclosed, after]

/-- What follows a directive does not matter to its reader. -/
theorem Derives.takeDirective_append {fields : Fields} {source : List Char}
    (h : Derives fields source) (rest : List Char) :
    takeDirective (source ++ rest) = some (fields, rest) :=
  takeDirective_eq_some_iff.2 ⟨source, h, rfl⟩

/-- Of the beginnings of a text at most one is a directive, and it has one reading. -/
theorem Derives.unique {fields other : Fields} {source source' rest' : List Char}
    (h : Derives fields source) (h' : Derives other source')
    (htext : source ++ rest = source' ++ rest') :
    fields = other ∧ source = source' ∧ rest = rest' := by
  have hread := h'.takeDirective_append rest'
  rw [← htext, h.takeDirective_append rest] at hread
  obtain ⟨hfields, rfl⟩ := Prod.mk.inj (Option.some.inj hread)
  exact ⟨hfields, List.append_cancel_right htext, rfl⟩

theorem Derives.ne_nil {fields : Fields} {source : List Char} (h : Derives fields source) :
    source ≠ [] := by
  cases h
  exact List.cons_ne_nil _ _

end LiveTemplate.Directive
