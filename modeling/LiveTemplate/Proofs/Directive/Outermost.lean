import LiveTemplate.Directive.Scan
import LiveTemplate.Proofs.Directive.Nesting
import Mathlib.Data.String.Basic

/-!
# Outermost directives

Two occurrences of directives in a text lie apart or one inside the other. So the scan, which takes
what begins first and goes on behind it, passes over nothing but directives inside those that it
takes: it finds the outermost occurrences, each of them once, in their order.

Places are counted in octets, as descriptors give them.
-/

namespace LiveTemplate.Directive

open Text

variable {text before source after rest : List Char} {fields : Fields}

/-! ## Octets -/

@[simp] theorem octetLength_append (text rest : List Char) :
    octetLength (text ++ rest) = octetLength text + octetLength rest := by
  induction text with
  | nil => simp [octetLength]
  | cons c text ih =>
    simp only [List.cons_append, octetLength, ih]
    omega

theorem octetLength_eq_utf8Len (text : List Char) : octetLength text = String.utf8Len text := by
  induction text with
  | nil => rfl
  | cons c text ih => simp [octetLength, ih, Nat.add_comm]

theorem octetLength_pos (h : text ≠ []) : 0 < octetLength text := by
  cases text with
  | nil => contradiction
  | cons c text =>
    have hchar : 0 < c.utf8Size := c.utf8Size_pos
    simp only [octetLength]
    omega

/-! ## Occurrences -/

/-- A directive with given fields stands between two places of a text. -/
def Occurs (text : List Char) (fields : Fields) (start stop : Nat) : Prop :=
  ∃ before source after, text = before ++ (source ++ after) ∧ Derives fields source ∧
    start = octetLength before ∧ stop = start + octetLength source

/-- A directive stands between two places of a text, and no directive reaches beyond them. -/
def IsOutermost (text : List Char) (start stop : Nat) : Prop :=
  (∃ fields, Occurs text fields start stop) ∧
    ∀ fields start' stop', Occurs text fields start' stop' → start' ≤ start → stop ≤ stop' →
      start' = start ∧ stop' = stop

variable {start stop : Nat}

theorem Occurs.start_lt_stop (h : Occurs text fields start stop) : start < stop := by
  obtain ⟨before, source, after, -, hderives, rfl, rfl⟩ := h
  have hpos := octetLength_pos hderives.ne_nil
  omega

/-- Two directives of which the second does not begin before the first. -/
theorem Derives.disjoint_or_inside {inner : Fields} {between source' after' : List Char}
    (h : Derives fields source) (h' : Derives inner source')
    (htext : source ++ after = between ++ (source' ++ after')) :
    (∃ left, between = source ++ left) ∨ ∃ right, source = between ++ (source' ++ right) := by
  by_cases hlength : between.length < source.length
  · right
    by_cases hempty : between = []
    · subst hempty
      obtain ⟨-, rfl, -⟩ := h.unique h' htext
      exact ⟨[], by simp⟩
    · exact h.exists_inside h' htext hempty hlength
  · left
    rcases List.append_eq_append_iff.1 htext with ⟨left, hleft, -⟩ | ⟨beyond, hbeyond, -⟩
    · exact ⟨left, hleft⟩
    · have hcount := congrArg List.length hbeyond
      simp only [List.length_append] at hcount
      have hnil : beyond = [] := List.eq_nil_of_length_eq_zero (by omega)
      exact ⟨[], by simp [hbeyond, hnil]⟩

/-- Two occurrences lie apart or one inside the other. -/
theorem Occurs.disjoint_or_nested {other : Fields} {start' stop' : Nat}
    (h : Occurs text fields start stop) (h' : Occurs text other start' stop') :
    stop ≤ start' ∨ stop' ≤ start ∨ (start ≤ start' ∧ stop' ≤ stop) ∨
      (start' ≤ start ∧ stop ≤ stop') := by
  obtain ⟨before, source, after, rfl, hderives, rfl, rfl⟩ := h
  obtain ⟨before', source', after', htext, hderives', rfl, rfl⟩ := h'
  rcases List.append_eq_append_iff.1 htext with ⟨between, rfl, hbetween⟩ | ⟨between, rfl, hbetween⟩
  · rcases hderives.disjoint_or_inside hderives' hbetween with ⟨left, rfl⟩ | ⟨right, rfl⟩
    · left
      simp only [octetLength_append]
      omega
    · right; right; left
      simp only [octetLength_append]
      omega
  · rcases hderives'.disjoint_or_inside hderives hbetween with ⟨left, rfl⟩ | ⟨right, rfl⟩
    · right; left
      simp only [octetLength_append]
      omega
    · right; right; right
      simp only [octetLength_append]
      omega

/-- Occurrences begin and end between characters. -/
theorem Occurs.isValid {template : String} (h : Occurs template.toList fields start stop) :
    String.Pos.Raw.IsValid template ⟨start⟩ ∧ String.Pos.Raw.IsValid template ⟨stop⟩ := by
  have hvalid {left right : List Char} (htext : template.toList = left ++ right) :
      String.Pos.Raw.IsValid template ⟨octetLength left⟩ := by
    rw [String.Pos.Raw.isValid_iff_exists_append]
    refine ⟨String.ofList left, String.ofList right, ?_, ?_⟩
    · rw [← String.ofList_append, ← htext, String.ofList_toList]
    · rw [octetLength_eq_utf8Len, String.rawEndPos_ofList]
  obtain ⟨before, source, after, htext, -, rfl, rfl⟩ := h
  constructor
  · exact hvalid htext
  · rw [← octetLength_append]
    exact hvalid (by rw [htext, List.append_assoc])

/-! ## The scan -/

theorem segments_nil : segments [] = [] := by
  rw [segments]

theorem segments_of_none {c : Char} (h : takeDirective (c :: rest) = none) :
    segments (c :: rest) = .literal c :: segments rest := by
  rw [segments]
  split
  case h_1 fields tail hread =>
    rw [h] at hread
    contradiction
  case h_2 => rfl

theorem segments_of_derives (h : Derives fields source) (after : List Char) :
    segments (source ++ after) = .directive fields source :: segments after := by
  obtain ⟨c, rest, rfl⟩ := List.exists_cons_of_ne_nil h.ne_nil
  have hlength : (c :: (rest ++ after)).length - after.length = (c :: rest).length := by
    simp only [List.length_cons, List.length_append]
    omega
  have hsource : (c :: (rest ++ after)).take (c :: rest).length = c :: rest :=
    List.take_left
  rw [List.cons_append, segments]
  split
  case h_1 fields' tail hread =>
    have hfound := h.takeDirective_append after
    rw [List.cons_append, hread] at hfound
    obtain ⟨rfl, rfl⟩ := Prod.mk.inj (Option.some.inj hfound)
    rw [hlength, hsource]
  case h_2 hread =>
    have hfound := h.takeDirective_append after
    rw [List.cons_append, hread] at hfound
    contradiction

/-- A scan goes on behind a character with which no directive begins, or behind a directive. -/
theorem scan_induction {motive : List Char → Prop} (nil : motive [])
    (literal : ∀ c rest, takeDirective (c :: rest) = none → motive rest → motive (c :: rest))
    (directive : ∀ fields source after, Derives fields source → motive after →
      motive (source ++ after)) (text : List Char) : motive text := by
  induction text using segments.induct with
  | case1 => exact nil
  | case2 c rest fields tail hread hlength ih =>
    obtain ⟨source, hderives, hsource⟩ := takeDirective_eq_some_iff.1 hread
    rw [hsource]
    exact directive fields source tail hderives ih
  | case3 c rest hread ih => exact literal c rest hread ih

/-- The segments of a text cover it. -/
theorem flatMap_segments (text : List Char) : (segments text).flatMap Segment.source = text := by
  induction text using scan_induction with
  | nil => rw [segments_nil, List.flatMap_nil]
  | literal c rest hread ih =>
    rw [segments_of_none hread, List.flatMap_cons, ih]
    rfl
  | directive fields source after hderives ih =>
    rw [segments_of_derives hderives, List.flatMap_cons, ih]
    rfl

/-- Only directives are taken for directives. -/
theorem derives_of_mem_segments (h : .directive fields source ∈ segments text) :
    Derives fields source := by
  induction text using scan_induction with
  | nil =>
    rw [segments_nil] at h
    contradiction
  | literal c rest hread ih =>
    rw [segments_of_none hread] at h
    exact ih (List.mem_of_ne_of_mem (by simp) h)
  | directive taken whole after hderives ih =>
    rw [segments_of_derives hderives] at h
    rcases List.mem_cons.1 h with heq | hmem
    · obtain ⟨rfl, rfl⟩ := Segment.directive.inj heq
      exact hderives
    · exact ih hmem

/-- Every occurrence lies in a directive that is taken. -/
theorem exists_segment (h : Derives fields source) (htext : text = before ++ (source ++ after)) :
    ∃ early covering whole late left right,
      segments text = early ++ .directive covering whole :: late ∧
      before = early.flatMap Segment.source ++ left ∧ whole = left ++ (source ++ right) := by
  induction text using scan_induction generalizing before with
  | nil =>
    have hnil : source = [] := by simp_all
    exact absurd hnil h.ne_nil
  | literal c rest hread ih =>
    rw [segments_of_none hread]
    cases before with
    | nil =>
      rw [htext, List.nil_append, h.takeDirective_append] at hread
      contradiction
    | cons d before =>
      obtain ⟨rfl, hrest⟩ := List.cons.inj htext
      obtain ⟨early, covering, whole, late, left, right, hsegments, hbefore, hwhole⟩ := ih hrest
      refine ⟨.literal c :: early, covering, whole, late, left, right, ?_, ?_, hwhole⟩
      · rw [hsegments, List.cons_append]
      · rw [List.flatMap_cons, hbefore]
        rfl
  | directive covering whole rest hcovering ih =>
    rw [segments_of_derives hcovering]
    -- The occurrence begins behind the directive that is taken, or lies in it.
    rcases hcovering.disjoint_or_inside h htext with ⟨beyond, rfl⟩ | ⟨right, hright⟩
    · have hrest : rest = beyond ++ (source ++ after) := by simpa using htext
      obtain ⟨early, covering', whole', late, left, right, hsegments, hbefore, hwhole⟩ := ih hrest
      refine ⟨.directive covering whole :: early, covering', whole', late, left, right, ?_, ?_,
        hwhole⟩
      · rw [hsegments, List.cons_append]
      · rw [List.flatMap_cons, hbefore, List.append_assoc]
        rfl
    · exact ⟨[], covering, whole, segments rest, before, right, rfl, rfl, hright⟩

/-! ## Descriptors -/

variable {offset index : Nat} {pieces early late : List Segment} {descriptor : Descriptor}

theorem length_describeFrom (offset index : Nat) (pieces : List Segment) :
    (describeFrom offset index pieces).length = (pieces.filter Segment.isDirective).length := by
  induction pieces generalizing offset index with
  | nil => rfl
  | cons piece pieces ih =>
    cases piece with
    | literal c => exact ih _ _
    | directive fields source => exact congrArg (· + 1) (ih _ _)

theorem index_of_describeFrom {i : Nat}
    (h : (describeFrom offset index pieces)[i]? = some descriptor) :
    descriptor.index = index + i := by
  induction pieces generalizing offset index i with
  | nil => simp [describeFrom] at h
  | cons piece pieces ih =>
    cases piece with
    | literal c => exact ih h
    | directive fields source =>
      cases i with
      | zero =>
        obtain rfl := Option.some.inj h
        rfl
      | succ i =>
        have hindex := ih h
        omega

/-- A descriptor belongs to a directive among the segments, and says where it stands. -/
theorem exists_of_mem_describeFrom (h : descriptor ∈ describeFrom offset index pieces) :
    ∃ early fields source late, pieces = early ++ .directive fields source :: late ∧
      descriptor.start = offset + octetLength (early.flatMap Segment.source) ∧
      descriptor.stop = descriptor.start + octetLength source ∧
      descriptor = fields.describe descriptor.index descriptor.start descriptor.stop := by
  induction pieces generalizing offset index with
  | nil => simp [describeFrom] at h
  | cons piece pieces ih =>
    have hlater {size next : Nat} (hsize : octetLength piece.source = size)
        (h : descriptor ∈ describeFrom (offset + size) next pieces) :
        ∃ early fields source late, piece :: pieces = early ++ .directive fields source :: late ∧
          descriptor.start = offset + octetLength (early.flatMap Segment.source) ∧
          descriptor.stop = descriptor.start + octetLength source ∧
          descriptor = fields.describe descriptor.index descriptor.start descriptor.stop := by
      obtain ⟨early, fields, source, late, rfl, hstart, hstop⟩ := ih h
      refine ⟨piece :: early, fields, source, late, rfl, ?_, hstop⟩
      rw [hstart, List.flatMap_cons, octetLength_append, hsize, Nat.add_assoc]
    cases piece with
    | literal c => exact hlater (Nat.add_zero _) h
    | directive fields source =>
      rcases List.mem_cons.1 h with rfl | hmem
      · exact ⟨[], fields, source, pieces, rfl, rfl, rfl, rfl⟩
      · exact hlater rfl hmem

/-- Every directive among the segments has a descriptor. -/
theorem exists_mem_describeFrom (offset index : Nat) (early late : List Segment) (fields : Fields)
    (source : List Char) :
    ∃ descriptor ∈ describeFrom offset index (early ++ .directive fields source :: late),
      descriptor.start = offset + octetLength (early.flatMap Segment.source) ∧
      descriptor.stop = descriptor.start + octetLength source := by
  induction early generalizing offset index with
  | nil => exact ⟨_, List.mem_cons_self, rfl, rfl⟩
  | cons piece early ih =>
    have hlater {size next : Nat} (hsize : octetLength piece.source = size) :
        ∃ descriptor ∈ describeFrom (offset + size) next (early ++ .directive fields source :: late),
          descriptor.start = offset + octetLength ((piece :: early).flatMap Segment.source) ∧
          descriptor.stop = descriptor.start + octetLength source := by
      obtain ⟨descriptor, hmem, hstart, hstop⟩ := ih (offset + size) next
      refine ⟨descriptor, hmem, ?_, hstop⟩
      rw [hstart, List.flatMap_cons, octetLength_append, hsize, Nat.add_assoc]
    cases piece with
    | literal c => exact hlater (Nat.add_zero _)
    | directive fields source =>
      obtain ⟨descriptor, hmem, hplace⟩ := hlater rfl
      exact ⟨descriptor, List.mem_cons_of_mem _ hmem, hplace⟩

theorem offset_le_start (h : descriptor ∈ describeFrom offset index pieces) :
    offset ≤ descriptor.start := by
  obtain ⟨early, fields, source, late, -, hstart, -⟩ := exists_of_mem_describeFrom h
  omega

theorem pairwise_describeFrom (offset index : Nat) (pieces : List Segment) :
    (describeFrom offset index pieces).Pairwise fun first second ↦ first.stop ≤ second.start := by
  induction pieces generalizing offset index with
  | nil => exact List.Pairwise.nil
  | cons piece pieces ih =>
    cases piece with
    | literal c => exact ih _ _
    | directive fields source => exact (ih _ _).cons fun second hsecond ↦ offset_le_start hsecond

/-! ## The directives of a template -/

variable {template : String} {other : Descriptor}

/-- Every directive that is found stands where its descriptor says. -/
theorem exists_occurs_of_mem_parse (h : descriptor ∈ parse template) :
    ∃ fields, Occurs template.toList fields descriptor.start descriptor.stop ∧
      descriptor = fields.describe descriptor.index descriptor.start descriptor.stop := by
  obtain ⟨early, fields, source, late, hsegments, hstart, hstop, hdescriptor⟩ :=
    exists_of_mem_describeFrom h
  have hderives : Derives fields source := derives_of_mem_segments (by rw [hsegments]; simp)
  refine ⟨fields, ⟨early.flatMap Segment.source, source, late.flatMap Segment.source, ?_, hderives,
    by omega, hstop⟩, hdescriptor⟩
  calc
    template.toList = (segments template.toList).flatMap Segment.source :=
      (flatMap_segments _).symm
    _ = early.flatMap Segment.source ++ (source ++ late.flatMap Segment.source) := by
      rw [hsegments, List.flatMap_append, List.flatMap_cons]
      rfl

/-- Every occurrence lies in one that is found. -/
theorem Occurs.exists_mem_parse (h : Occurs template.toList fields start stop) :
    ∃ descriptor ∈ parse template, descriptor.start ≤ start ∧ stop ≤ descriptor.stop := by
  obtain ⟨before, source, after, htext, hderives, rfl, rfl⟩ := h
  obtain ⟨early, covering, whole, late, left, right, hsegments, rfl, rfl⟩ :=
    exists_segment hderives htext
  obtain ⟨descriptor, hmem, hstart, hstop⟩ :=
    exists_mem_describeFrom 0 0 early late covering (left ++ (source ++ right))
  rw [← hsegments] at hmem
  simp only [octetLength_append] at hstop ⊢
  exact ⟨descriptor, hmem, by omega, by omega⟩

theorem pairwise_parse (template : String) :
    (parse template).Pairwise fun first second ↦ first.stop ≤ second.start :=
  pairwise_describeFrom 0 0 _

/-- Directives that are found and overlap are the same. -/
theorem eq_of_mem_parse (h : descriptor ∈ parse template) (hother : other ∈ parse template)
    (hbegins : descriptor.start < other.stop) (hends : other.start < descriptor.stop) :
    descriptor = other := by
  obtain ⟨i, hi, rfl⟩ := List.mem_iff_getElem.1 h
  obtain ⟨j, hj, rfl⟩ := List.mem_iff_getElem.1 hother
  have hordered := List.pairwise_iff_getElem.1 (pairwise_parse template)
  rcases Nat.lt_trichotomy i j with hlt | rfl | hlt
  · have hle := hordered i j hi hj hlt
    omega
  · rfl
  · have hle := hordered j i hj hi hlt
    omega

/-- What is found is outermost. -/
theorem isOutermost_of_mem_parse (h : descriptor ∈ parse template) :
    IsOutermost template.toList descriptor.start descriptor.stop := by
  obtain ⟨fields, hoccurs, -⟩ := exists_occurs_of_mem_parse h
  refine ⟨⟨fields, hoccurs⟩, ?_⟩
  intro fields' start' stop' hoccurs' hstart hstop
  obtain ⟨other, hother, hstart', hstop'⟩ := hoccurs'.exists_mem_parse
  have hnonempty := hoccurs.start_lt_stop
  obtain rfl := eq_of_mem_parse h hother (by omega) (by omega)
  omega

/-- What is outermost is found. -/
theorem IsOutermost.exists_mem_parse (h : IsOutermost template.toList start stop) :
    ∃ descriptor ∈ parse template, descriptor.start = start ∧ descriptor.stop = stop := by
  obtain ⟨⟨fields, hoccurs⟩, hmaximal⟩ := h
  obtain ⟨descriptor, hmem, hstart, hstop⟩ := hoccurs.exists_mem_parse
  obtain ⟨fields', hoccurs', -⟩ := exists_occurs_of_mem_parse hmem
  exact ⟨descriptor, hmem, hmaximal fields' _ _ hoccurs' hstart hstop⟩

/-- Every occurrence lies in exactly one that is found. -/
theorem Occurs.existsUnique_mem_parse (h : Occurs template.toList fields start stop) :
    ∃! descriptor, descriptor ∈ parse template ∧ descriptor.start ≤ start ∧
      stop ≤ descriptor.stop := by
  obtain ⟨descriptor, hmem, hstart, hstop⟩ := h.exists_mem_parse
  have hnonempty := h.start_lt_stop
  refine ⟨descriptor, ⟨hmem, hstart, hstop⟩, ?_⟩
  rintro other ⟨hother, hstart', hstop'⟩
  exact eq_of_mem_parse hother hmem (by omega) (by omega)

theorem count_eq_length_parse (template : String) : count template = (parse template).length :=
  (length_describeFrom 0 0 _).symm

theorem hasDirectives_iff : hasDirectives template = true ↔ parse template ≠ [] := by
  rw [← List.length_pos_iff, ← count_eq_length_parse, count, hasDirectives, List.length_pos_iff,
    ne_eq, List.filter_eq_nil_iff, List.any_eq_true]
  simp

/-- The directives of a text lie apart or one inside the other, and those that are found are the
outermost: in increasing order, numbered from zero, each at characters' bounds and with the fields of
the directive that stands there. Every directive lies in exactly one of them, and they are as many as
are counted. -/
theorem parse_finds_outermost (template : String) :
    (∀ fields start stop other start' stop', Occurs template.toList fields start stop →
      Occurs template.toList other start' stop' →
      stop ≤ start' ∨ stop' ≤ start ∨ (start ≤ start' ∧ stop' ≤ stop) ∨
        (start' ≤ start ∧ stop ≤ stop')) ∧
    (∀ start stop, IsOutermost template.toList start stop ↔
      ∃ descriptor ∈ parse template, descriptor.start = start ∧ descriptor.stop = stop) ∧
    ((parse template).Pairwise fun first second ↦ first.stop ≤ second.start) ∧
    (∀ i descriptor, (parse template)[i]? = some descriptor →
      descriptor.index = i ∧ descriptor.start < descriptor.stop ∧
      String.Pos.Raw.IsValid template ⟨descriptor.start⟩ ∧
      String.Pos.Raw.IsValid template ⟨descriptor.stop⟩ ∧
      ∃ fields, Occurs template.toList fields descriptor.start descriptor.stop ∧
        descriptor = fields.describe i descriptor.start descriptor.stop) ∧
    (∀ fields start stop, Occurs template.toList fields start stop →
      ∃! descriptor, descriptor ∈ parse template ∧ descriptor.start ≤ start ∧
        stop ≤ descriptor.stop) ∧
    count template = (parse template).length ∧
    (hasDirectives template = true ↔ parse template ≠ []) := by
  refine ⟨?_, ?_, pairwise_parse template, ?_, ?_, count_eq_length_parse template,
    hasDirectives_iff⟩
  · intro fields start stop other start' stop' h h'
    exact h.disjoint_or_nested h'
  · intro start stop
    constructor
    · exact IsOutermost.exists_mem_parse
    · rintro ⟨descriptor, hmem, rfl, rfl⟩
      exact isOutermost_of_mem_parse hmem
  · intro i descriptor hat
    have hindex : descriptor.index = i := by simpa using index_of_describeFrom hat
    obtain ⟨fields, hoccurs, hdescriptor⟩ :=
      exists_occurs_of_mem_parse (List.mem_of_getElem? hat)
    obtain ⟨hstart, hstop⟩ := hoccurs.isValid
    exact ⟨hindex, hoccurs.start_lt_stop, hstart, hstop, fields, hoccurs, hindex ▸ hdescriptor⟩
  · intro fields start stop h
    exact h.existsUnique_mem_parse

/-- Of a directive in the parameter of another one, behind a character of two octets, only the outer
one is found. -/
theorem parse_finds_enclosing :
    let template := "é\x7bx(\x7by(1)\x7d)\x7d"
    IsOutermost template.toList 2 13 ∧ ¬ IsOutermost template.toList 5 11 ∧
      ∃! descriptor, descriptor ∈ parse template ∧ descriptor.start ≤ 5 ∧ 11 ≤ descriptor.stop := by
  intro template
  obtain ⟨-, houtermost, -, -, hcovered, -⟩ := parse_finds_outermost template
  have hinner : Occurs template.toList ⟨['y'], ['1'], none, none⟩ 5 11 := by
    refine ⟨['é', '\x7b', 'x', '('], "\x7by(1)\x7d".toList, [')', '\x7d'], by decide, ?_, by decide,
      by decide⟩
    exact .intro (.plain (List.forall_mem_nil _)) (by decide +kernel) (.plain (by decide) .nil) .none
      (List.forall_mem_nil _)
  refine ⟨?_, ?_, hcovered _ 5 11 hinner⟩
  · rw [houtermost]
    decide +kernel
  · rw [houtermost]
    decide +kernel

end LiveTemplate.Directive
