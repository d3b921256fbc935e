import LiveTemplate.Proofs.Directive.Residue

/-!
# Templates one behind the other

What stands before a directive and what stands behind it can make it a part of a larger one, so the
directives of two templates are not always those of their concatenation. They are unless a directive
of the concatenation reaches across the border: nothing else that stands on one side has a say in what
is found on the other. Then the fragments for the two templates are taken from one list, first those
of the first template.
-/

namespace LiveTemplate.Directive

open Text

/-! ## Descriptors behind a border -/

/-- A border lies strictly within the span of a directive. -/
def Descriptor.Crosses (descriptor : Descriptor) (border : Nat) : Prop :=
  descriptor.start < border ∧ border < descriptor.stop

instance (descriptor : Descriptor) (border : Nat) : Decidable (descriptor.Crosses border) :=
  inferInstanceAs (Decidable (_ ∧ _))

/-- A directive behind further octets, in which there are further directives. -/
def Descriptor.shift (octets number : Nat) (descriptor : Descriptor) : Descriptor :=
  { descriptor with
    index := number + descriptor.index
    start := octets + descriptor.start
    stop := octets + descriptor.stop }

def directiveCount (pieces : List Segment) : Nat := (pieces.filter Segment.isDirective).length

variable {offset index : Nat} {front back : List Char} {first second : List Segment}

theorem describeFrom_shift (octets number offset index : Nat) (pieces : List Segment) :
    describeFrom (octets + offset) (number + index) pieces =
      (describeFrom offset index pieces).map (Descriptor.shift octets number) := by
  induction pieces generalizing offset index with
  | nil => rfl
  | cons piece pieces ih =>
    cases piece with
    | literal c =>
      rw [describeFrom, describeFrom, Nat.add_assoc, ih]
    | directive fields source =>
      rw [describeFrom, describeFrom, List.map_cons, Nat.add_assoc, Nat.add_assoc, ih]
      rfl

theorem describeFrom_append (offset index : Nat) (first second : List Segment) :
    describeFrom offset index (first ++ second) =
      describeFrom offset index first ++
        describeFrom (offset + octetLength (first.flatMap Segment.source))
          (index + directiveCount first) second := by
  induction first generalizing offset index with
  | nil => rfl
  | cons piece first ih =>
    have hoctets : octetLength ((piece :: first).flatMap Segment.source) =
        octetLength piece.source + octetLength (first.flatMap Segment.source) := by
      rw [List.flatMap_cons, octetLength_append]
    cases piece with
    | literal c =>
      rw [hoctets, ← Nat.add_assoc]
      exact ih (offset + c.utf8Size) index
    | directive fields source =>
      have hcount : directiveCount (.directive fields source :: first) =
          1 + directiveCount first := Nat.add_comm _ _
      rw [hoctets, hcount, ← Nat.add_assoc, ← Nat.add_assoc]
      exact congrArg (List.cons _) (ih (offset + octetLength source) (index + 1))

/-- Every one of the first segments takes its fragment before the others do. -/
theorem fill_append (first second : List Segment) (fragments : List String) :
    fill (first ++ second) fragments =
      fill first (fragments.take (directiveCount first)) ++
        fill second (fragments.drop (directiveCount first)) := by
  induction first generalizing fragments with
  | nil => rfl
  | cons piece first ih =>
    cases piece with
    | literal c => exact congrArg (List.cons c) (ih fragments)
    | directive fields source =>
      have hcount : directiveCount (.directive fields source :: first) =
          directiveCount first + 1 := rfl
      rw [List.cons_append, fill_directive, fill_directive, ih, hcount]
      cases fragments with
      | nil => simp
      | cons fragment others => simp

/-! ## The scan across a border -/

/-- A scan that takes no directive across a border scans what stands before it and what stands behind
it. -/
theorem segments_append (offset index : Nat)
    (h : ∀ descriptor ∈ describeFrom offset index (segments (front ++ back)),
      ¬ descriptor.Crosses (offset + octetLength front)) :
    segments (front ++ back) = segments front ++ segments back := by
  generalize htext : front ++ back = text at h ⊢
  induction text using scan_induction generalizing front offset index with
  | nil =>
    obtain ⟨rfl, rfl⟩ := List.append_eq_nil_iff.1 htext
    rw [segments_nil]
    rfl
  | literal c rest hread ih =>
    cases front with
    | nil =>
      rw [List.nil_append] at htext
      rw [htext, segments_nil, List.nil_append]
    | cons d front =>
      rw [List.cons_append, List.cons.injEq] at htext
      obtain ⟨rfl, hrest⟩ := htext
      -- What begins a directive before the border begins one also with the rest behind it.
      have hfront : takeDirective (d :: front) = none := by
        rw [Option.eq_none_iff_forall_ne_some]
        rintro ⟨fields, tail⟩ hfound
        obtain ⟨source, hderives, hsource⟩ := takeDirective_eq_some_iff.1 hfound
        have hlonger := hderives.takeDirective_append (tail ++ back)
        rw [← List.append_assoc, ← hsource, List.cons_append, hrest, hread] at hlonger
        contradiction
      rw [segments_of_none hread] at h ⊢
      rw [octetLength, ← Nat.add_assoc] at h
      rw [segments_of_none hfront, List.cons_append]
      exact congrArg (List.cons _) (ih (offset + d.utf8Size) index hrest h)
  | directive fields source after hderives ih =>
    rcases beyond_or_inside htext.symm with ⟨beyond, rfl, hafter⟩ | ⟨inner, hinner, rfl, hback⟩
    · rw [segments_of_derives hderives] at h ⊢
      rw [octetLength_append, ← Nat.add_assoc] at h
      have hlater := (List.forall_mem_cons.1 h).2
      rw [segments_of_derives hderives, List.cons_append]
      exact congrArg (List.cons _) (ih (offset + octetLength source) (index + 1) hafter.symm hlater)
    · rcases eq_or_ne front [] with rfl | hfront
      · rw [segments_nil, List.nil_append, hback, List.nil_append]
      · -- The directive begins before the border and ends behind it.
        rw [segments_of_derives hderives] at h
        have hbegins := octetLength_pos hfront
        have hends := octetLength_pos hinner
        refine absurd ⟨?_, ?_⟩ (List.forall_mem_cons.1 h).1
        · show offset < offset + octetLength front
          omega
        · show offset + octetLength front < offset + octetLength (front ++ inner)
          rw [octetLength_append]
          omega

/-! ## Two templates -/

variable {descriptor : Descriptor} {template front back : String}

theorem octetLength_toList (template : String) :
    octetLength template.toList = template.utf8ByteSize := by
  rw [octetLength_eq_utf8Len, String.utf8Len_toList]

theorem stop_le_of_mem_parse (h : descriptor ∈ parse template) :
    descriptor.stop ≤ template.utf8ByteSize := by
  obtain ⟨fields, ⟨before, source, after, htext, -, hstart, hstop⟩, -⟩ :=
    exists_occurs_of_mem_parse h
  rw [← octetLength_toList, htext, octetLength_append, octetLength_append]
  omega

/-- If the directives of a concatenation are those of its parts, none reaches across the border. -/
theorem not_crosses_of_parse_append
    (h : parse (front ++ back) =
      parse front ++ (parse back).map (Descriptor.shift front.utf8ByteSize (count front))) :
    ∀ descriptor ∈ parse (front ++ back), ¬ descriptor.Crosses front.utf8ByteSize := by
  rintro descriptor hdescriptor ⟨hstart, hstop⟩
  rw [h, List.mem_append] at hdescriptor
  rcases hdescriptor with hfront | hback
  · have hle := stop_le_of_mem_parse hfront
    omega
  · obtain ⟨behind, -, rfl⟩ := List.mem_map.1 hback
    have hle : front.utf8ByteSize ≤ (behind.shift front.utf8ByteSize (count front)).start :=
      Nat.le_add_right _ _
    omega

/-- The directives of a concatenation are those of its parts, the later ones shifted by the length
and the number of directives of the first part, just when no directive reaches across the border.
Then merging merges the parts, each with its own fragments. -/
theorem concatenation_local (front back : String) :
    ((∀ descriptor ∈ parse (front ++ back), ¬ descriptor.Crosses front.utf8ByteSize) ↔
      parse (front ++ back) =
        parse front ++ (parse back).map (Descriptor.shift front.utf8ByteSize (count front))) ∧
    ((∀ descriptor ∈ parse (front ++ back), ¬ descriptor.Crosses front.utf8ByteSize) →
      ∀ fragments, merge (front ++ back) fragments =
        merge front (fragments.take (count front)) ++
          merge back (fragments.drop (count front))) := by
  have hsegments (h : ∀ descriptor ∈ parse (front ++ back),
      ¬ descriptor.Crosses front.utf8ByteSize) :
      segments (front ++ back).toList = segments front.toList ++ segments back.toList := by
    rw [parse, String.toList_append, ← octetLength_toList, ← Nat.zero_add (octetLength _)] at h
    rw [String.toList_append]
    exact segments_append 0 0 h
  refine ⟨⟨fun h ↦ ?_, not_crosses_of_parse_append⟩, fun h fragments ↦ ?_⟩
  · calc
      parse (front ++ back) =
          describeFrom 0 0 (segments front.toList ++ segments back.toList) := by
        rw [parse, hsegments h]
      _ = parse front ++
          describeFrom (front.utf8ByteSize + 0) (count front + 0) (segments back.toList) := by
        rw [describeFrom_append, flatMap_segments, octetLength_toList, Nat.zero_add, Nat.zero_add]
        rfl
      _ = parse front ++ (parse back).map (Descriptor.shift front.utf8ByteSize (count front)) := by
        rw [describeFrom_shift]
        rfl
  · rw [merge, hsegments h, fill_append, String.ofList_append]
    rfl

/-- Two templates, of which the first ends within a directive that does not go on in the second. The
fragments go to the directives on both sides of the border. -/
theorem broken_directive_concatenated :
    let front := "é\x7bx()\x7d\x7by("
    let back := "\x7bz(1)\x7d"
    (∀ descriptor ∈ parse (front ++ back), ¬ descriptor.Crosses front.utf8ByteSize) ∧
      parse (front ++ back) = [⟨0, 2, 7, "x", "", none, none⟩, ⟨1, 10, 16, "z", "1", none, none⟩] ∧
      merge (front ++ back) ["p", "q"] = "ép\x7by(q" := by
  intro front back
  have hapart : ∀ descriptor ∈ parse (front ++ back), ¬ descriptor.Crosses front.utf8ByteSize := by
    decide +kernel
  obtain ⟨hparse, hmerge⟩ := concatenation_local front back
  refine ⟨hapart, (hparse.1 hapart).trans ?_, (hmerge hapart ["p", "q"]).trans ?_⟩
  · decide +kernel
  · decide +kernel

end LiveTemplate.Directive
