import LiveTemplate.Proofs.Directive.Grammar

/-!
# The expression for directives

Directives are also described by a regular expression whose groups capture the fields. What an
expression matches is said without a strategy: any choice between alternatives may be taken, and any
number of repetitions. The expression for directives matches what the grammar derives, with captures
that give the fields of the derivation. So no choice matters: at every position of a text there is
at most one match, whatever is tried first, and it is the directive that is read there.
-/

namespace LiveTemplate.Directive

open Text

/-! ## Expressions -/

/-- The parts of a directive that are captured. A modifier is captured under a name for its place. -/
inductive Group where
  | command
  | param
  | interval
  | mode
  | leadingMode
  | trailingInterval
  deriving DecidableEq, Repr

/-- Captured parts, in the order in which they begin. -/
abbrev Captures := List (Group × List Char)

inductive Expression where
  /-- A character of a class. -/
  | one (holds : Char → Bool)
  | word (text : List Char)
  | seq (first second : Expression)
  | choice (first second : Expression)
  /-- Any number of repetitions. -/
  | star (body : Expression)
  | capture (group : Group) (body : Expression)

inductive Repeated (whole : List Char → Captures → Prop) : List Char → Captures → Prop
  | done : Repeated whole [] []
  | more {first rest : List Char} {captures others : Captures} (hfirst : whole first captures)
      (hrest : Repeated whole rest others) :
      Repeated whole (first ++ rest) (captures ++ others)

namespace Expression

/-- The texts that an expression matches as a whole, and what is captured of them. -/
def Matches : Expression → List Char → Captures → Prop
  | one holds, text, captures => ∃ c, holds c = true ∧ text = [c] ∧ captures = []
  | word expected, text, captures => text = expected ∧ captures = []
  | seq first second, text, captures =>
    ∃ before after early late, first.Matches before early ∧ second.Matches after late ∧
      text = before ++ after ∧ captures = early ++ late
  | choice first second, text, captures =>
    first.Matches text captures ∨ second.Matches text captures
  | star body, text, captures => Repeated body.Matches text captures
  | capture group body, text, captures =>
    ∃ inner, body.Matches text inner ∧ captures = (group, text) :: inner

/-! ## Parts without captures -/

variable {text : List Char} {captures : Captures}

def plus (body : Expression) : Expression := seq body (star body)

def optional (body : Expression) : Expression := choice body (word [])

theorem matches_word {expected : List Char} :
    (word expected).Matches text captures ↔ text = expected ∧ captures = [] := Iff.rfl

theorem matches_one {holds : Char → Bool} :
    (one holds).Matches text captures ↔ ∃ c, holds c = true ∧ text = [c] ∧ captures = [] := Iff.rfl

theorem matches_seq {first second : Expression} :
    (seq first second).Matches text captures ↔
      ∃ before after early late, first.Matches before early ∧ second.Matches after late ∧
        text = before ++ after ∧ captures = early ++ late := Iff.rfl

theorem matches_capture {group : Group} {body : Expression} :
    (capture group body).Matches text captures ↔
      ∃ inner, body.Matches text inner ∧ captures = (group, text) :: inner := Iff.rfl

theorem matches_optional {body : Expression} :
    (optional body).Matches text captures ↔
      body.Matches text captures ∨ text = [] ∧ captures = [] := Iff.rfl

/-- A part without captures before something else. -/
theorem matches_seq_of {first second : Expression} {holds : List Char → Prop}
    (hfirst : ∀ text captures, first.Matches text captures ↔ holds text ∧ captures = []) :
    (seq first second).Matches text captures ↔
      ∃ before after, holds before ∧ second.Matches after captures ∧ text = before ++ after := by
  simp only [matches_seq, hfirst]
  constructor
  · rintro ⟨before, after, _, late, ⟨hbefore, rfl⟩, hafter, rfl, rfl⟩
    exact ⟨before, after, hbefore, hafter, rfl⟩
  · rintro ⟨before, after, hbefore, hafter, rfl⟩
    exact ⟨before, after, [], captures, ⟨hbefore, rfl⟩, hafter, rfl, rfl⟩

/-- A fixed text before something else. -/
theorem matches_seq_word {expected : List Char} {second : Expression} :
    (seq (word expected) second).Matches text captures ↔
      ∃ after, second.Matches after captures ∧ text = expected ++ after := by
  rw [matches_seq_of fun _ _ ↦ matches_word]
  constructor
  · rintro ⟨_, after, rfl, hafter, rfl⟩
    exact ⟨after, hafter, rfl⟩
  · rintro ⟨after, hafter, rfl⟩
    exact ⟨expected, after, rfl, hafter, rfl⟩

theorem matches_star_one {holds : Char → Bool} :
    (star (one holds)).Matches text captures ↔ (∀ c ∈ text, holds c = true) ∧ captures = [] := by
  constructor
  · intro h
    induction h with
    | done => simp
    | more hfirst hrest ih =>
      obtain ⟨c, hc, rfl, rfl⟩ := hfirst
      obtain ⟨hall, rfl⟩ := ih
      simpa using ⟨hc, hall⟩
  · rintro ⟨hall, rfl⟩
    induction text with
    | nil => exact .done
    | cons c text ih =>
      have hfirst : (one holds).Matches [c] [] := ⟨c, hall c List.mem_cons_self, rfl, rfl⟩
      exact .more hfirst (ih fun d hd ↦ hall d (List.mem_cons_of_mem c hd))

theorem matches_plus_one {holds : Char → Bool} :
    (plus (one holds)).Matches text captures ↔ IsRun holds text ∧ captures = [] := by
  simp only [plus, matches_seq, matches_star_one, matches_one]
  constructor
  · rintro ⟨_, after, _, _, ⟨c, hc, rfl, rfl⟩, ⟨hall, rfl⟩, rfl, rfl⟩
    exact ⟨⟨by simp, by simpa using ⟨hc, hall⟩⟩, rfl⟩
  · rintro ⟨⟨hne, hall⟩, rfl⟩
    cases text with
    | nil => contradiction
    | cons c text =>
      exact ⟨[c], text, [], [], ⟨c, hall c List.mem_cons_self, rfl, rfl⟩,
        ⟨fun d hd ↦ hall d (List.mem_cons_of_mem c hd), rfl⟩, rfl, rfl⟩

def gap : Expression := star (one isBlank)

theorem matches_gap : gap.Matches text captures ↔ IsGap text ∧ captures = [] := matches_star_one

/-- A backslash and a character that is not a line feed. -/
def escape : Expression := seq (word ['\\']) (one fun c ↦ c ≠ '\n')

theorem matches_escape :
    escape.Matches text captures ↔ ∃ c, c ≠ '\n' ∧ text = ['\\', c] ∧ captures = [] := by
  simp only [escape, matches_seq_word, matches_one, decide_eq_true_eq]
  constructor
  · rintro ⟨_, ⟨c, hc, rfl, rfl⟩, rfl⟩
    exact ⟨c, hc, rfl, rfl⟩
  · rintro ⟨c, hc, rfl, rfl⟩
    exact ⟨[c], ⟨c, hc, rfl, rfl⟩, rfl⟩

def inner : Expression := star (choice (one isPlain) escape)

theorem matches_inner : inner.Matches text captures ↔ IsInner text ∧ captures = [] := by
  constructor
  · intro h
    induction h with
    | done => exact ⟨.nil, rfl⟩
    | more hfirst hrest ih =>
      obtain ⟨hinner, rfl⟩ := ih
      rcases hfirst with ⟨c, hc, rfl, rfl⟩ | hescape
      · exact ⟨.plain hc hinner, rfl⟩
      · obtain ⟨c, hc, rfl, rfl⟩ := matches_escape.1 hescape
        exact ⟨.escape hc hinner, rfl⟩
  · rintro ⟨hinner, rfl⟩
    induction hinner with
    | nil => exact .done
    | @plain c rest hc hrest ih =>
      have hfirst : (choice (one isPlain) escape).Matches [c] [] := .inl ⟨c, hc, rfl, rfl⟩
      exact .more hfirst ih
    | @escape c rest hc hrest ih =>
      have hfirst : (choice (one isPlain) escape).Matches ['\\', c] [] :=
        .inr (matches_escape.2 ⟨c, hc, rfl, rfl⟩)
      exact .more hfirst ih

def nested : Expression := seq (word ['(']) (seq inner (word [')']))

theorem matches_nested :
    nested.Matches text captures ↔
      ∃ inside, IsInner inside ∧ text = '(' :: (inside ++ [')']) ∧ captures = [] := by
  simp only [nested, matches_seq_word, matches_seq_of fun _ _ ↦ matches_inner, matches_word]
  constructor
  · rintro ⟨_, ⟨inside, _, hinside, ⟨rfl, rfl⟩, rfl⟩, rfl⟩
    exact ⟨inside, hinside, rfl, rfl⟩
  · rintro ⟨inside, hinside, rfl, rfl⟩
    exact ⟨_, ⟨inside, _, hinside, ⟨rfl, rfl⟩, rfl⟩, rfl⟩

def param : Expression := star (choice (one isPlain) (choice escape nested))

theorem matches_param : param.Matches text captures ↔ IsParam text ∧ captures = [] := by
  constructor
  · intro h
    induction h with
    | done => exact ⟨.nil, rfl⟩
    | more hfirst hrest ih =>
      obtain ⟨hparam, rfl⟩ := ih
      rcases hfirst with ⟨c, hc, rfl, rfl⟩ | hescape | hnested
      · exact ⟨.plain hc hparam, rfl⟩
      · obtain ⟨c, hc, rfl, rfl⟩ := matches_escape.1 hescape
        exact ⟨.escape hc hparam, rfl⟩
      · obtain ⟨inside, hinside, rfl, rfl⟩ := matches_nested.1 hnested
        exact ⟨by simpa using IsParam.group hinside hparam, rfl⟩
  · rintro ⟨hparam, rfl⟩
    have hmore (first : List Char) {rest : List Char}
        (hfirst : (choice (one isPlain) (choice escape nested)).Matches first [])
        (hrest : param.Matches rest []) : param.Matches (first ++ rest) [] :=
      Repeated.more hfirst hrest
    induction hparam with
    | nil => exact .done
    | @plain c rest hc hrest ih => exact hmore [c] (.inl ⟨c, hc, rfl, rfl⟩) ih
    | @escape c rest hc hrest ih =>
      exact hmore ['\\', c] (.inr (.inl (matches_escape.2 ⟨c, hc, rfl, rfl⟩))) ih
    | @group inside rest hinside hrest ih =>
      have hgroup := hmore _ (.inr (.inr (matches_nested.2 ⟨inside, hinside, rfl, rfl⟩))) ih
      simpa using hgroup

/-- A number: digits with a point before the last of them, or without one. -/
def number : Expression :=
  seq (star (one isDecimalDigit)) (seq (optional (word ['.'])) (plus (one isDecimalDigit)))

theorem matches_number : number.Matches text captures ↔ IsNumber text ∧ captures = [] := by
  simp only [number, matches_seq_of fun _ _ ↦ matches_star_one, matches_seq, matches_optional,
    matches_word, matches_plus_one]
  constructor
  · rintro ⟨whole, _, hwhole, ⟨_, fraction, _, _, hpoint, ⟨hfraction, rfl⟩, rfl, rfl⟩, rfl⟩
    rcases hpoint with ⟨rfl, rfl⟩ | ⟨rfl, rfl⟩
    · refine ⟨?_, rfl⟩
      by_cases hempty : whole = []
      · subst hempty
        exact .fraction hfraction
      · exact .pointed ⟨hempty, hwhole⟩ hfraction
    · refine ⟨.whole ⟨by simp [hfraction.1], ?_⟩, rfl⟩
      intro c hc
      rcases List.mem_append.1 hc with hc | hc
      · exact hwhole c hc
      · exact hfraction.2 c hc
  · rintro ⟨hnumber, rfl⟩
    have hpoint {fraction : List Char} (hfraction : IsRun isDecimalDigit fraction) :
        ∃ before after early late, (before = ['.'] ∧ early = [] ∨ before = [] ∧ early = []) ∧
          (IsRun isDecimalDigit after ∧ late = []) ∧ '.' :: fraction = before ++ after ∧
          ([] : Captures) = early ++ late :=
      ⟨['.'], fraction, [], [], .inl ⟨rfl, rfl⟩, ⟨hfraction, rfl⟩, rfl, rfl⟩
    cases hnumber with
    | whole hdigits =>
      exact ⟨[], text, by simp, ⟨[], text, [], [], .inr ⟨rfl, rfl⟩, ⟨hdigits, rfl⟩, rfl, rfl⟩, rfl⟩
    | pointed hwhole hfraction => exact ⟨_, _, hwhole.2, hpoint hfraction, rfl⟩
    | fraction hfraction => exact ⟨[], _, by simp, hpoint hfraction, rfl⟩

def flag : Expression := choice (word "true".toList) (word "false".toList)

theorem matches_flag : flag.Matches text captures ↔ (∃ b, text = spell b) ∧ captures = [] := by
  simp only [flag, Matches, Bool.exists_bool]
  constructor
  · rintro (⟨rfl, rfl⟩ | ⟨rfl, rfl⟩)
    · exact ⟨.inr rfl, rfl⟩
    · exact ⟨.inl rfl, rfl⟩
  · rintro ⟨rfl | rfl, rfl⟩
    · exact .inr ⟨rfl, rfl⟩
    · exact .inl ⟨rfl, rfl⟩

/-- White space, and possibly `cmd:` and white space. -/
def lead : Expression := seq gap (optional (seq (word "cmd:".toList) gap))

theorem matches_lead : lead.Matches text captures ↔ IsLead text ∧ captures = [] := by
  simp only [lead, matches_seq_of fun _ _ ↦ matches_gap, matches_optional, matches_seq_word,
    matches_gap]
  constructor
  · rintro ⟨before, _, hbefore, ⟨between, ⟨hbetween, rfl⟩, rfl⟩ | ⟨rfl, rfl⟩, rfl⟩
    · exact ⟨.marked hbefore hbetween, rfl⟩
    · exact ⟨by simpa using IsLead.plain hbefore, rfl⟩
  · rintro ⟨hlead, rfl⟩
    cases hlead with
    | plain hgap => exact ⟨text, [], hgap, .inr ⟨rfl, rfl⟩, by simp⟩
    | marked hbefore hbetween => exact ⟨_, _, hbefore, .inl ⟨_, ⟨hbetween, rfl⟩, rfl⟩, rfl⟩

/-! ## Captured parts -/

/-- A captured part before something else. -/
theorem matches_seq_capture {group : Group} {body second : Expression} {holds : List Char → Prop}
    (hbody : ∀ text captures, body.Matches text captures ↔ holds text ∧ captures = []) :
    (seq (capture group body) second).Matches text captures ↔
      ∃ before after late, holds before ∧ second.Matches after late ∧ text = before ++ after ∧
        captures = (group, before) :: late := by
  simp only [matches_seq, matches_capture, hbody]
  constructor
  · rintro ⟨before, after, _, late, ⟨_, ⟨hbefore, rfl⟩, rfl⟩, hafter, rfl, rfl⟩
    exact ⟨before, after, late, hbefore, hafter, rfl, rfl⟩
  · rintro ⟨before, after, late, hbefore, hafter, rfl, rfl⟩
    exact ⟨before, after, _, late, ⟨[], ⟨hbefore, rfl⟩, rfl⟩, hafter, rfl, rfl⟩

/-- A modifier with its comma, whose value is captured. -/
def modifier (keyword : List Char) (group : Group) (value : Expression) : Expression :=
  seq (word [',']) (seq gap (seq (word keyword) (seq gap (capture group value))))

theorem matches_modifier {keyword : List Char} {group : Group} {value : Expression}
    {holds : List Char → Prop}
    (hvalue : ∀ text captures, value.Matches text captures ↔ holds text ∧ captures = []) :
    (modifier keyword group value).Matches text captures ↔
      ∃ read behind, holds read ∧ IsModifier keyword read behind ∧ text = ',' :: behind ∧
        captures = [(group, read)] := by
  simp only [modifier, matches_seq_word, matches_seq_of fun _ _ ↦ matches_gap, matches_capture,
    hvalue]
  constructor
  · rintro ⟨_, ⟨before, _, hbefore, ⟨_, ⟨between, read, hbetween, ⟨_, ⟨hread, rfl⟩, rfl⟩, rfl⟩, rfl⟩,
      rfl⟩, rfl⟩
    exact ⟨read, _, hread, ⟨before, between, hbefore, hbetween, rfl⟩, rfl, rfl⟩
  · rintro ⟨read, _, hread, ⟨before, between, hbefore, hbetween, rfl⟩, rfl, rfl⟩
    exact ⟨_, ⟨before, _, hbefore, ⟨_, ⟨between, read, hbetween, ⟨_, ⟨hread, rfl⟩, rfl⟩, rfl⟩, rfl⟩,
      rfl⟩, rfl⟩

end Expression

def Captures.get? (captures : Captures) (group : Group) : Option (List Char) :=
  captures.lookup group

def Captures.fields (captures : Captures) : Fields where
  command := (captures.get? .command).getD []
  param := (captures.get? .param).getD []
  interval := (captures.get? .interval).or (captures.get? .trailingInterval)
  isAsync := ((captures.get? .mode).or (captures.get? .leadingMode)).map (· = "true".toList)

namespace Expression

/-- The modifiers, spelled out in both orders. -/
def modifiers : Expression :=
  optional (choice
    (seq (modifier "interval:".toList .interval number)
      (optional (modifier "async:".toList .mode flag)))
    (seq (modifier "async:".toList .leadingMode flag)
      (optional (modifier "interval:".toList .trailingInterval number))))

/-- Captured modifiers give their values, whatever is captured before them. -/
def Gives (captures : Captures) (interval : Option (List Char)) (isAsync : Option Bool) : Prop :=
  ∀ name param, Captures.fields ((.command, name) :: (.param, param) :: captures) =
    ⟨name, param, interval, isAsync⟩

theorem matches_seq_modifiers {second : Expression} :
    (seq modifiers second).Matches text captures ↔
      ∃ before after early late, modifiers.Matches before early ∧ second.Matches after late ∧
        text = before ++ after ∧ captures = early ++ late := Iff.rfl

theorem matches_interval {group : Group} :
    (modifier "interval:".toList group number).Matches text captures ↔
      ∃ read behind, IsNumber read ∧ IsModifier "interval:".toList read behind ∧
        text = ',' :: behind ∧ captures = [(group, read)] :=
  matches_modifier fun _ _ ↦ matches_number

theorem matches_mode {group : Group} :
    (modifier "async:".toList group flag).Matches text captures ↔
      ∃ b behind, IsModifier "async:".toList (spell b) behind ∧ text = ',' :: behind ∧
        captures = [(group, spell b)] := by
  rw [matches_modifier fun _ _ ↦ matches_flag]
  constructor
  · rintro ⟨_, behind, ⟨b, rfl⟩, hmode, rfl, rfl⟩
    exact ⟨b, behind, hmode, rfl, rfl⟩
  · rintro ⟨b, behind, hmode, rfl, rfl⟩
    exact ⟨_, behind, ⟨b, rfl⟩, hmode, rfl, rfl⟩

/-- What the modifiers match is a tail, and its values are captured. -/
theorem exists_tail_of_matches (h : modifiers.Matches text captures) :
    ∃ interval isAsync, IsTail interval isAsync text ∧ Gives captures interval isAsync := by
  rcases h with (⟨_, _, _, _, hfirst, hsecond, rfl, rfl⟩ | ⟨_, _, _, _, hfirst, hsecond, rfl, rfl⟩) |
    ⟨rfl, rfl⟩
  · obtain ⟨read, first, hnumber, hinterval, rfl, rfl⟩ := matches_interval.1 hfirst
    rcases matches_optional.1 hsecond with hsecond | ⟨rfl, rfl⟩
    · obtain ⟨b, second, hmode, rfl, rfl⟩ := matches_mode.1 hsecond
      refine ⟨some read, some b, .intervalMode hnumber hinterval hmode, fun name param ↦ ?_⟩
      cases b <;> rfl
    · refine ⟨some read, none, ?_, fun name param ↦ rfl⟩
      simpa using IsTail.interval hnumber hinterval
  · obtain ⟨b, first, hmode, rfl, rfl⟩ := matches_mode.1 hfirst
    rcases matches_optional.1 hsecond with hsecond | ⟨rfl, rfl⟩
    · obtain ⟨read, second, hnumber, hinterval, rfl, rfl⟩ := matches_interval.1 hsecond
      refine ⟨some read, some b, .modeInterval hnumber hmode hinterval, fun name param ↦ ?_⟩
      cases b <;> rfl
    · refine ⟨none, some b, by simpa using IsTail.mode hmode, fun name param ↦ ?_⟩
      cases b <;> rfl
  · exact ⟨none, none, .none, fun name param ↦ rfl⟩

/-- Every tail is matched, in the order in which it has its modifiers. -/
theorem exists_matches_of_tail {interval : Option (List Char)} {isAsync : Option Bool}
    (h : IsTail interval isAsync text) :
    ∃ captures, modifiers.Matches text captures ∧ Gives captures interval isAsync := by
  cases h with
  | none => exact ⟨[], .inr ⟨rfl, rfl⟩, fun name param ↦ rfl⟩
  | @interval read behind hnumber hinterval =>
    refine ⟨[(.interval, read)], .inl (.inl ⟨',' :: behind, [], [(.interval, read)], [], ?_,
      .inr ⟨rfl, rfl⟩, by simp, rfl⟩), fun name param ↦ rfl⟩
    exact matches_interval.2 ⟨read, behind, hnumber, hinterval, rfl, rfl⟩
  | @mode b behind hmode =>
    refine ⟨[(.leadingMode, spell b)], .inl (.inr ⟨',' :: behind, [], [(.leadingMode, spell b)], [],
      ?_, .inr ⟨rfl, rfl⟩, by simp, rfl⟩), fun name param ↦ ?_⟩
    · exact matches_mode.2 ⟨b, behind, hmode, rfl, rfl⟩
    · cases b <;> rfl
  | @intervalMode read first second b hnumber hinterval hmode =>
    refine ⟨[(.interval, read), (.mode, spell b)], .inl (.inl ⟨',' :: first, ',' :: second,
      [(.interval, read)], [(.mode, spell b)], ?_, .inl ?_, rfl, rfl⟩), fun name param ↦ ?_⟩
    · exact matches_interval.2 ⟨read, first, hnumber, hinterval, rfl, rfl⟩
    · exact matches_mode.2 ⟨b, second, hmode, rfl, rfl⟩
    · cases b <;> rfl
  | @modeInterval read first second b hnumber hmode hinterval =>
    refine ⟨[(.leadingMode, spell b), (.trailingInterval, read)], .inl (.inr ⟨',' :: first,
      ',' :: second, [(.leadingMode, spell b)], [(.trailingInterval, read)], ?_, .inl ?_, rfl, rfl⟩),
      fun name param ↦ ?_⟩
    · exact matches_mode.2 ⟨b, first, hmode, rfl, rfl⟩
    · exact matches_interval.2 ⟨read, second, hnumber, hinterval, rfl, rfl⟩
    · cases b <;> rfl

def directive : Expression :=
  seq (word ['\x7b']) (seq lead (seq (capture .command (plus (one isWord))) (seq (word ['('])
    (seq (capture .param param) (seq (word [')']) (seq modifiers (seq gap (word ['\x7d']))))))))

theorem matches_directive :
    directive.Matches text captures ↔
      ∃ lead name param tail trail late, IsLead lead ∧ IsRun isWord name ∧ IsParam param ∧
        modifiers.Matches tail late ∧ IsGap trail ∧ text = assemble lead name param tail trail ∧
        captures = (.command, name) :: (.param, param) :: late := by
  simp only [directive, matches_seq_word, matches_seq_of fun _ _ ↦ matches_lead,
    matches_seq_capture fun _ _ ↦ matches_plus_one, matches_seq_capture fun _ _ ↦ matches_param,
    matches_seq_modifiers, matches_seq_of fun _ _ ↦ matches_gap, matches_word]
  constructor
  · rintro ⟨_, ⟨lead, _, hlead, ⟨name, _, _, hname, ⟨_, ⟨param, _, _, hparam, ⟨_, ⟨tail, _, late, _,
      htail, ⟨trail, _, htrail, ⟨rfl, rfl⟩, rfl⟩, rfl, rfl⟩, rfl⟩, rfl, rfl⟩, rfl⟩, rfl, rfl⟩, rfl⟩, rfl⟩
    exact ⟨lead, name, param, tail, trail, late, hlead, hname, hparam, htail, htrail, rfl, by simp⟩
  · rintro ⟨lead, name, param, tail, trail, late, hlead, hname, hparam, htail, htrail, rfl, rfl⟩
    exact ⟨_, ⟨lead, _, hlead, ⟨name, _, _, hname, ⟨_, ⟨param, _, _, hparam, ⟨_, ⟨tail, _, late, [],
      htail, ⟨trail, _, htrail, ⟨rfl, rfl⟩, rfl⟩, rfl, by simp⟩, rfl⟩, rfl, rfl⟩, rfl⟩, rfl, rfl⟩, rfl⟩,
      rfl⟩

/-- What the expression matches can be derived, with the fields that the captures give. -/
theorem derives_of_matches (h : directive.Matches text captures) :
    Derives captures.fields text := by
  obtain ⟨lead, name, param, tail, trail, late, hlead, hname, hparam, hmodifiers, htrail, rfl, rfl⟩ :=
    matches_directive.1 h
  obtain ⟨interval, isAsync, htail, hgives⟩ := exists_tail_of_matches hmodifiers
  rw [hgives]
  exact .intro hlead hname hparam htail htrail

theorem exists_matches_of_derives {fields : Fields} (h : Derives fields text) :
    ∃ captures, directive.Matches text captures ∧ captures.fields = fields := by
  obtain ⟨hlead, hname, hparam, htail, htrail⟩ := h
  obtain ⟨late, hmodifiers, hgives⟩ := exists_matches_of_tail htail
  exact ⟨_, matches_directive.2 ⟨_, _, _, _, _, late, hlead, hname, hparam, hmodifiers, htrail, rfl,
    rfl⟩, hgives _ _⟩

theorem derives_iff_exists_matches {fields : Fields} :
    Derives fields text ↔ ∃ captures, directive.Matches text captures ∧ captures.fields = fields :=
  ⟨exists_matches_of_derives, fun ⟨_, hmatches, hfields⟩ ↦ hfields ▸ derives_of_matches hmatches⟩

end Expression

/-! ## Directives at a position -/

/-- Where the directive that begins at a position of a text ends, and what it says. -/
def directiveAt? (text : List Char) (start : Nat) : Option (Nat × Fields) :=
  (takeDirective (text.drop start)).map fun (fields, rest) ↦ (text.length - rest.length, fields)

theorem derives_extract_of_directiveAt {text : List Char} {start stop : Nat} {fields : Fields}
    (h : directiveAt? text start = some (stop, fields)) :
    start ≤ stop ∧ stop ≤ text.length ∧ Derives fields (text.extract start stop) := by
  obtain ⟨⟨read, rest⟩, hread, heq⟩ := Option.map_eq_some_iff.1 h
  obtain ⟨hstop, rfl⟩ := Prod.mk.inj heq
  obtain ⟨source, hderives, hsource⟩ := takeDirective_eq_some_iff.1 hread
  have hlength : text.length - start = source.length + rest.length := by
    simpa using congrArg List.length hsource
  have hpos : 0 < source.length := List.length_pos_iff.2 hderives.ne_nil
  have hspan : stop - start = source.length := by omega
  refine ⟨by omega, by omega, ?_⟩
  rwa [List.extract_eq_take_drop, hspan, hsource, List.take_left]

theorem directiveAt_of_derives_extract {text : List Char} {start stop : Nat} {fields : Fields}
    (hstart : start ≤ stop) (hstop : stop ≤ text.length)
    (hderives : Derives fields (text.extract start stop)) :
    directiveAt? text start = some (stop, fields) := by
  have hdrop : text.drop start = text.extract start stop ++ text.drop stop := by
    calc
      text.drop start = (text.drop start).take (stop - start) ++
          (text.drop start).drop (stop - start) := (List.take_append_drop _ _).symm
      _ = text.extract start stop ++ text.drop stop := by
        rw [← List.extract_eq_take_drop, List.drop_drop, Nat.add_sub_cancel' hstart]
  have hlength : text.length - (text.drop stop).length = stop := by
    rw [List.length_drop, Nat.sub_sub_self hstop]
  simp only [directiveAt?, hdrop, hderives.takeDirective_append, Option.map_some, hlength]

/-- However its parts are spelled, a directive has the fields that they spell, and no others. -/
theorem derives_assemble_iff {lead name param tail trail : List Char}
    {interval : Option (List Char)} {isAsync : Option Bool} {fields : Fields} (hlead : IsLead lead)
    (hname : IsRun isWord name) (hparam : IsParam param) (htail : IsTail interval isAsync tail)
    (htrail : IsGap trail) :
    Derives fields (assemble lead name param tail trail) ↔
      fields = ⟨name, param, interval, isAsync⟩ := by
  have hderives := Derives.intro hlead hname hparam htail htrail
  constructor
  · intro h
    exact (h.unique hderives (congrArg (· ++ []) rfl)).1
  · rintro rfl
    exact hderives

/-- At every position of a text a directive is found exactly where the grammar derives one, or,
which is the same, where the expression has a match, whatever choices lead to it. There is at most
one of them, and its fields do not depend on how it is led in, in which order it has its modifiers,
and where it has white space. -/
theorem directiveAt_unambiguous (text : List Char) (start : Nat) :
    (∀ stop fields, directiveAt? text start = some (stop, fields) ↔
      start ≤ stop ∧ stop ≤ text.length ∧ Derives fields (text.extract start stop)) ∧
    (∀ stop fields, Derives fields (text.extract start stop) ↔
      ∃ captures, Expression.directive.Matches (text.extract start stop) captures ∧
        captures.fields = fields) ∧
    (∀ stop stop' captures captures', start ≤ stop → stop ≤ text.length → start ≤ stop' →
      stop' ≤ text.length → Expression.directive.Matches (text.extract start stop) captures →
      Expression.directive.Matches (text.extract start stop') captures' →
      stop = stop' ∧ captures.fields = captures'.fields) ∧
    ∀ lead name param tail trail interval isAsync, IsLead lead → IsRun isWord name →
      IsParam param → IsTail interval isAsync tail → IsGap trail →
      ∀ fields, Derives fields (assemble lead name param tail trail) ↔
        fields = ⟨name, param, interval, isAsync⟩ := by
  refine ⟨?_, ?_, ?_, ?_⟩
  · intro stop fields
    exact ⟨derives_extract_of_directiveAt, fun ⟨hstart, hstop, hderives⟩ ↦
      directiveAt_of_derives_extract hstart hstop hderives⟩
  · intro stop fields
    exact Expression.derives_iff_exists_matches
  · intro stop stop' captures captures' hstart hstop hstart' hstop' hmatches hmatches'
    have hread := directiveAt_of_derives_extract hstart hstop
      (Expression.derives_of_matches hmatches)
    have hread' := directiveAt_of_derives_extract hstart' hstop'
      (Expression.derives_of_matches hmatches')
    exact Prod.mk.inj (Option.some.inj (hread.symm.trans hread'))
  · intro lead name param tail trail interval isAsync hlead hname hparam htail htrail fields
    exact derives_assemble_iff hlead hname hparam htail htrail

/-- Behind a brace that begins nothing, a directive with a marker, an escape and a group in its
parameter, and both modifiers. -/
theorem marked_directive_unambiguous :
    let text := "\x7b \x7bcmd: sh(a\\((b)), async: true,interval: .5 \x7d".toList
    let fields : Fields := ⟨"sh".toList, "a\\((b)".toList, some ".5".toList, some true⟩
    directiveAt? text 2 = some (46, fields) ∧
    (∀ stop captures, 2 ≤ stop → stop ≤ text.length →
      Expression.directive.Matches (text.extract 2 stop) captures →
      46 = stop ∧ fields = captures.fields) ∧
    ∀ other, Derives other (assemble " cmd: ".toList fields.command fields.param
      ", async: true,interval: .5".toList " ".toList) ↔ other = fields := by
  intro text fields
  obtain ⟨hread, hmatches, hunique, hspelled⟩ := directiveAt_unambiguous text 2
  have hfound : directiveAt? text 2 = some (46, fields) := by decide +kernel
  have hderives : Derives fields (text.extract 2 46) := ((hread 46 fields).1 hfound).2.2
  obtain ⟨captures, hcaptures, hfields⟩ := (hmatches 46 fields).1 hderives
  refine ⟨hfound, ?_, ?_⟩
  · intro stop captures' hstart hstop hmatch
    rw [← hfields]
    exact hunique 46 stop captures captures' (by decide) (by decide) hstart hstop hcaptures hmatch
  · have hgap : IsGap [' '] := by decide +kernel
    have hname : IsRun isWord fields.command := by decide +kernel
    have hinner : IsInner ['b'] := .plain (by decide) .nil
    have hparam : IsParam fields.param :=
      .plain (by decide) (.escape (by decide) (.group hinner .nil))
    have hnumber : IsNumber ".5".toList := .fraction (by decide +kernel)
    have htail : IsTail fields.interval fields.isAsync ", async: true,interval: .5".toList :=
      .modeInterval hnumber ⟨[' '], [' '], hgap, hgap, rfl⟩ ⟨[], [' '], by decide, hgap, rfl⟩
    exact hspelled _ _ _ _ _ _ _ (.marked hgap hgap) hname hparam htail hgap

end LiveTemplate.Directive
