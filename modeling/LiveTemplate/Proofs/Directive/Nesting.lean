import LiveTemplate.Proofs.Directive.Grammar

/-!
# Directives inside directives

A directive that begins inside another one begins in its parameter, because no other part holds an
opening brace. There the reader of the outer parameter is carried through the whole inner directive:
of its characters outside its own parameter only the two parentheses steer the reader, and they open
a group and close it again. So the inner directive ends before the outer parameter does. That the
opening brace may be escaped makes no difference, and neither do the escapes behind it, since both
parameters are read with the same escapes.
-/

namespace LiveTemplate.Directive

open Text

/-! ## Characters that steer nothing -/

/-- A text without characters that begin a directive or steer how a parameter is read. -/
def IsQuiet (text : List Char) : Prop := ∀ c ∈ text, c ∉ marks

instance (text : List Char) : Decidable (IsQuiet text) := List.decidableBAll (· ∉ marks) text

variable {text before after rest : List Char}

theorem isPlain_of_not_mem_marks {c : Char} (h : c ∉ marks) : isPlain c = true := by
  simp only [marks, List.mem_cons, not_or] at h
  simp [isPlain, h]

theorem IsQuiet.append (h : IsQuiet text) (hrest : IsQuiet rest) : IsQuiet (text ++ rest) :=
  List.forall_mem_append.2 ⟨h, hrest⟩

theorem IsQuiet.not_mem_brace (h : IsQuiet text) : '\x7b' ∉ text := by
  intro hmem
  exact h '\x7b' hmem (by decide)

/-- A class of characters without marks makes quiet texts. -/
theorem isQuiet_of_class {holds : Char → Bool} (hmarks : ∀ c ∈ marks, holds c = false)
    (hall : ∀ c ∈ text, holds c = true) : IsQuiet text := by
  intro c hc hmark
  have hfalse := hmarks c hmark
  rw [hall c hc] at hfalse
  contradiction

theorem mem_dividers_of_mem_marks {c : Char} (h : c ∈ marks) : c ∈ dividers :=
  List.mem_append_left _ h

theorem IsGap.isQuiet (h : IsGap text) : IsQuiet text := by
  have hmarks : marks.any isBlank = false := by decide
  exact isQuiet_of_class (fun c hc ↦ Bool.eq_false_iff.2 (List.any_eq_false.1 hmarks c hc)) h

theorem isQuiet_of_isRun_isWord (h : IsRun isWord text) : IsQuiet text :=
  isQuiet_of_class (fun _ hc ↦ isWord_of_mem_dividers (mem_dividers_of_mem_marks hc)) h.2

theorem isQuiet_of_isRun_isDecimalDigit (h : IsRun isDecimalDigit text) : IsQuiet text :=
  isQuiet_of_class (fun _ hc ↦ isDecimalDigit_of_mem_dividers (mem_dividers_of_mem_marks hc)) h.2

theorem IsLead.isQuiet (h : IsLead text) : IsQuiet text := by
  cases h with
  | plain hgap => exact hgap.isQuiet
  | marked hbefore hbetween =>
    have hmarker : IsQuiet "cmd:".toList := by decide
    exact hbefore.isQuiet.append (hmarker.append hbetween.isQuiet)

theorem IsNumber.isQuiet (h : IsNumber text) : IsQuiet text := by
  have hpoint : IsQuiet ['.'] := by decide
  cases h with
  | whole hdigits => exact isQuiet_of_isRun_isDecimalDigit hdigits
  | pointed hwhole hfraction =>
    have hbehind := hpoint.append (isQuiet_of_isRun_isDecimalDigit hfraction)
    exact (isQuiet_of_isRun_isDecimalDigit hwhole).append hbehind
  | fraction hfraction => exact hpoint.append (isQuiet_of_isRun_isDecimalDigit hfraction)

theorem isQuiet_spell (flag : Bool) : IsQuiet (spell flag) := by
  cases flag <;> decide

theorem IsModifier.isQuiet {keyword value : List Char} (h : IsModifier keyword value text)
    (hkeyword : IsQuiet keyword) (hvalue : IsQuiet value) : IsQuiet text := by
  obtain ⟨gap, between, hgap, hbetween, rfl⟩ := h
  exact hgap.isQuiet.append (hkeyword.append (hbetween.isQuiet.append hvalue))

theorem IsTail.isQuiet {interval : Option (List Char)} {isAsync : Option Bool}
    (h : IsTail interval isAsync text) : IsQuiet text := by
  have hcomma : IsQuiet [','] := by decide
  have hinterval {number modifier : List Char} (hnumber : IsNumber number)
      (h : IsModifier "interval:".toList number modifier) : IsQuiet ([','] ++ modifier) :=
    hcomma.append (h.isQuiet (by decide) hnumber.isQuiet)
  have hmode {flag : Bool} {modifier : List Char}
      (h : IsModifier "async:".toList (spell flag) modifier) : IsQuiet ([','] ++ modifier) :=
    hcomma.append (h.isQuiet (by decide) (isQuiet_spell flag))
  cases h with
  | none => exact List.forall_mem_nil _
  | interval hnumber h => exact hinterval hnumber h
  | mode h => exact hmode h
  | intervalMode hnumber hfirst hsecond => exact (hinterval hnumber hfirst).append (hmode hsecond)
  | modeInterval hnumber hfirst hsecond => exact (hmode hfirst).append (hinterval hnumber hsecond)

/-! ## Reading on in the middle of a parameter -/

variable {inGroup : Bool} {param tail : List Char}

/-- What is put before a parameter does not change where its reader stops. -/
theorem exists_of_map_eq_some {put : List Char × List Char → List Char × List Char}
    {read : Option (List Char × List Char)} (h : read.map put = some (param, tail))
    (hput : ∀ part, (put part).2 = part.2) : ∃ behind, read = some (behind, tail) := by
  obtain ⟨⟨behind, left⟩, hread, heq⟩ := Option.map_eq_some_iff.1 h
  obtain rfl : left = tail := by simpa [heq] using (hput (behind, left)).symm
  exact ⟨behind, hread⟩

theorem exists_of_takeParam_quiet (hquiet : IsQuiet text)
    (h : takeParam inGroup (text ++ rest) = some (param, tail)) :
    ∃ behind, takeParam inGroup rest = some (behind, tail) := by
  induction text generalizing param with
  | nil => exact ⟨param, h⟩
  | cons c text ih =>
    obtain ⟨hc, htext⟩ := List.forall_mem_cons.1 hquiet
    rw [List.cons_append, takeParam_plain (isPlain_of_not_mem_marks hc)] at h
    obtain ⟨behind, hread⟩ := exists_of_map_eq_some h fun _ ↦ rfl
    exact ih htext hread

/-- Inside a group a whole parameter and its end are read, and the group ends with them. -/
theorem exists_of_takeParam_isParam {inner : List Char} (hinner : IsParam inner)
    (h : takeParam true (inner ++ ')' :: rest) = some (param, tail)) :
    ∃ behind, takeParam false rest = some (behind, tail) := by
  induction hinner generalizing param with
  | nil =>
    rw [List.nil_append, takeParam_close_inGroup] at h
    exact exists_of_map_eq_some h fun _ ↦ rfl
  | plain hc hmore ih =>
    rw [List.cons_append, takeParam_plain hc] at h
    obtain ⟨behind, hread⟩ := exists_of_map_eq_some h fun _ ↦ rfl
    exact ih hread
  | escape hc hmore ih =>
    rw [List.cons_append, List.cons_append, takeParam_escape hc] at h
    obtain ⟨behind, hread⟩ := exists_of_map_eq_some h fun _ ↦ rfl
    exact ih hread
  | group hgroup hmore ih =>
    rw [List.cons_append, takeParam_open_inGroup] at h
    contradiction

/-- Reading a parameter goes on behind every brace in it, be it escaped or not. -/
theorem exists_of_takeParam_brace
    (h : takeParam inGroup (before ++ '\x7b' :: after) = some (param, tail))
    (hlength : tail.length ≤ after.length) :
    ∃ within behind, takeParam within after = some (behind, tail) := by
  generalize htext : before ++ '\x7b' :: after = text at h
  fun_induction takeParam inGroup text generalizing before param with
  | case1 | case2 | case3 | case5 => contradiction
  | case4 inGroup c rest hc ih =>
    obtain ⟨behind, hread⟩ := exists_of_map_eq_some h fun _ ↦ rfl
    cases before with
    | nil => simp at htext
    | cons first before =>
      have hbehind := (List.cons.inj htext).2
      cases before with
      | nil =>
        -- The brace is what the backslash escapes, and is read with it.
        obtain ⟨-, rfl⟩ := List.cons.inj hbehind
        exact ⟨inGroup, behind, hread⟩
      | cons second before => exact ih (List.cons.inj hbehind).2 hread
  | case6 inGroup rest hgroup hescape ih =>
    obtain ⟨behind, hread⟩ := exists_of_map_eq_some h fun _ ↦ rfl
    cases before with
    | nil => simp at htext
    | cons first before => exact ih (List.cons.inj htext).2 hread
  | case7 inGroup c rest hescape hopen hclose =>
    obtain ⟨-, rfl⟩ := Prod.mk.inj (Option.some.inj h)
    cases before with
    | nil =>
      obtain ⟨rfl, -⟩ := List.cons.inj htext
      simp only [Bool.and_eq_true] at hclose
      exact absurd hclose.1 (by decide)
    | cons first before =>
      -- The parameter ends before the brace, so more is left than stands behind it.
      have htail := congrArg List.length (List.cons.inj htext).2
      simp only [List.append_eq, List.length_append, List.length_cons] at htail
      omega
  | case8 inGroup c rest hescape hopen hclose ih =>
    obtain ⟨behind, hread⟩ := exists_of_map_eq_some h fun _ ↦ rfl
    cases before with
    | nil =>
      obtain ⟨-, rfl⟩ := List.cons.inj htext
      exact ⟨_, behind, hread⟩
    | cons first before => exact ih (List.cons.inj htext).2 hread

/-! ## The place of an inner directive -/

variable {fields : Fields} {source : List Char}

/-- Whatever is read before it, a parameter in which a directive begins goes on behind it. -/
theorem Derives.exists_behind {inside : List Char} (h : Derives fields source)
    (hsource : source = '\x7b' :: inside)
    (hread : takeParam inGroup (inside ++ rest) = some (param, tail)) :
    ∃ behind, takeParam false rest = some (behind, tail) := by
  obtain ⟨hlead, hname, hparam, htail, htrail⟩ := h
  obtain ⟨-, rfl⟩ := List.cons.inj hsource
  have hopening := hlead.isQuiet.append (isQuiet_of_isRun_isWord hname)
  have hbrace : IsQuiet ['\x7d'] := by decide
  have hclosing := htail.isQuiet.append (htrail.isQuiet.append hbrace)
  simp only [List.append_assoc, List.cons_append] at hread
  rw [← List.append_assoc] at hread
  obtain ⟨_, hread⟩ := exists_of_takeParam_quiet hopening hread
  cases inGroup with
  | true =>
    rw [takeParam_open_inGroup] at hread
    contradiction
  | false =>
    rw [takeParam_open] at hread
    obtain ⟨_, hread⟩ := exists_of_map_eq_some hread fun _ ↦ rfl
    obtain ⟨_, hread⟩ := exists_of_takeParam_isParam hparam hread
    apply exists_of_takeParam_quiet hclosing
    simpa using hread

/-- What stands before a character reaches behind every text without that character that begins
earlier. -/
theorem exists_of_append_eq_append_cons {c : Char} (hc : c ∉ text)
    (h : text ++ rest = before ++ c :: after) :
    ∃ between, before = text ++ between ∧ rest = between ++ c :: after := by
  rcases List.append_eq_append_iff.1 h with ⟨between, hbefore, hrest⟩ | ⟨beyond, htext, hbeyond⟩
  · exact ⟨between, hbefore, hrest⟩
  · cases beyond with
    | nil => exact ⟨[], by simpa using htext.symm, by simpa using hbeyond.symm⟩
    | cons d beyond =>
      obtain ⟨rfl, -⟩ := List.cons.inj hbeyond
      exact absurd (by simp [htext]) hc

/-- Behind a brace inside a directive, but not at its beginning, its parameter is still read. -/
theorem Derives.exists_takeParam_of_inside (h : Derives fields source)
    (htext : source ++ after = before ++ '\x7b' :: rest) (hne : before ≠ [])
    (hlength : before.length < source.length) :
    ∃ inGroup param tail, takeParam inGroup rest = some (param, tail) ∧
      after.length ≤ tail.length := by
  obtain @⟨lead, name, param, tail, trail, interval, isAsync, hlead, hname, hparam, htail, htrail⟩ := h
  have hopening : '\x7b' ∉ lead ++ (name ++ ['(']) := by
    have hquiet := hlead.isQuiet.append (isQuiet_of_isRun_isWord hname)
    simpa using hquiet.not_mem_brace
  have hclosing : '\x7b' ∉ ')' :: (tail ++ (trail ++ ['\x7d'])) := by
    have hquiet := htail.isQuiet.append htrail.isQuiet
    simpa using hquiet.not_mem_brace
  cases before with
  | nil => contradiction
  | cons c first =>
    have hbehind : lead ++ (name ++ ['(']) ++
        (param ++ (')' :: (tail ++ (trail ++ ['\x7d'])) ++ after)) = first ++ '\x7b' :: rest := by
      simpa using (List.cons.inj htext).2
    obtain ⟨skipped, rfl, hskipped⟩ := exists_of_append_eq_append_cons hopening hbehind
    have hwithin : (tail ++ (trail ++ ['\x7d']) ++ after).length ≤ rest.length := by
      rcases List.append_eq_append_iff.1 hskipped with ⟨beyond, rfl, hbeyond⟩ | ⟨left, -, hleft⟩
      · -- The brace cannot stand behind the parameter.
        obtain ⟨between, rfl, -⟩ := exists_of_append_eq_append_cons hclosing hbeyond
        simp only [assemble, List.length_append, List.length_cons] at hlength
        omega
      · have hcount := congrArg List.length hleft
        simp only [List.length_append, List.length_cons] at hcount ⊢
        omega
    have hread : takeParam false (skipped ++ '\x7b' :: rest) =
        some (param, tail ++ (trail ++ ['\x7d']) ++ after) := by
      rw [← hskipped]
      exact takeParam_append hparam _
    obtain ⟨within, behind, hread⟩ := exists_of_takeParam_brace hread hwithin
    exact ⟨within, behind, _, hread, by simp only [List.length_append]; omega⟩

/-- A directive that begins inside another one, but not with it, also ends inside it. -/
theorem Derives.length_lt_of_inside {inner : Fields} {source' after' : List Char}
    (h : Derives fields source) (h' : Derives inner source')
    (htext : source ++ after = before ++ (source' ++ after')) (hne : before ≠ [])
    (hlength : before.length < source.length) :
    before.length + source'.length < source.length := by
  obtain ⟨inside, hinside⟩ : ∃ inside, source' = '\x7b' :: inside := by
    cases h'
    exact ⟨_, rfl⟩
  have hbrace : source ++ after = before ++ '\x7b' :: (inside ++ after') := by
    rw [htext, hinside, List.cons_append]
  obtain ⟨inGroup, param, tail, hread, htail⟩ := h.exists_takeParam_of_inside hbrace hne hlength
  obtain ⟨behind, hread⟩ := h'.exists_behind hinside hread
  have hafter := congrArg List.length (exists_of_takeParam hread).2
  have htotal := congrArg List.length htext
  simp only [List.length_append, List.length_cons] at hafter htotal
  omega

/-- An inner directive is a part of the outer one. -/
theorem Derives.exists_inside {inner : Fields} {source' after' : List Char}
    (h : Derives fields source) (h' : Derives inner source')
    (htext : source ++ after = before ++ (source' ++ after')) (hne : before ≠ [])
    (hlength : before.length < source.length) :
    ∃ right, source = before ++ (source' ++ right) := by
  have hshorter := h.length_lt_of_inside h' htext hne hlength
  rw [← List.append_assoc] at htext
  rcases List.append_eq_append_iff.1 htext with ⟨beyond, hbeyond, -⟩ | ⟨right, hright, -⟩
  · have hcount := congrArg List.length hbeyond
    simp only [List.length_append] at hcount
    omega
  · exact ⟨right, by rw [hright, List.append_assoc]⟩

end LiveTemplate.Directive
