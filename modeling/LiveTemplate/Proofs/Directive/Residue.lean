import LiveTemplate.Proofs.Directive.Splicing

/-!
# Directives of a merged text

Merging scans a template once, so a merged text may have directives again. They come from the
fragments: each lies in a place where a fragment was put, or a fragment begins or ends within it.
None stands in what was literal text of the template. In particular, when every directive is replaced
by its own parameter, a directive is left just when a parameter has one or one is formed at the
border of a parameter.
-/

namespace LiveTemplate.Directive

open Text

/-! ## Places of fragments -/

/-- The part of a merged text that a fragment takes, in octets. -/
structure Place where
  start : Nat
  stop : Nat
  deriving DecidableEq, Repr

namespace Place

/-- All that stands between two bounds is a part of the fragment. -/
def Holds (place : Place) (start stop : Nat) : Prop := place.start ≤ start ∧ stop ≤ place.stop

/-- The fragment begins or ends strictly between two bounds. -/
def Divides (place : Place) (start stop : Nat) : Prop :=
  (start < place.start ∧ place.start < stop) ∨ (start < place.stop ∧ place.stop < stop)

instance (place : Place) (start stop : Nat) : Decidable (place.Divides start stop) :=
  inferInstanceAs (Decidable (_ ∨ _))

end Place

/-- The places of the fragments among segments that are filled from an offset on. -/
def placesFrom (offset : Nat) : List Segment → List String → List Place
  | [], _ => []
  | .literal c :: rest, fragments => placesFrom (offset + c.utf8Size) rest fragments
  | .directive _ _ :: rest, fragments =>
    let stop := offset + octetLength (fragments.headD "").toList
    ⟨offset, stop⟩ :: placesFrom stop rest fragments.tail

/-- The places of the fragments in a merged template. -/
def places (template : String) (fragments : List String) : List Place :=
  placesFrom 0 (segments template.toList) fragments

variable {offset start stop : Nat} {pieces : List Segment} {fragments : List String}
  {place : Place} {fields : Fields} {text source before after : List Char} {template : String}

theorem offset_le_of_mem_placesFrom (h : place ∈ placesFrom offset pieces fragments) :
    offset ≤ place.start := by
  induction pieces generalizing offset fragments with
  | nil => contradiction
  | cons piece pieces ih =>
    cases piece with
    | literal c =>
      have hrest := ih h
      omega
    | directive fields source =>
      rcases List.mem_cons.1 h with rfl | hmem
      · exact Nat.le_refl offset
      · have hrest := ih hmem
        omega

/-- What stands at the places are the fragments. -/
theorem map_slice_placesFrom {shown : String} (before : List Char)
    (hlength : fragments.length = (pieces.filter Segment.isDirective).length)
    (h : shown.toList = before ++ fill pieces fragments) :
    (placesFrom (octetLength before) pieces fragments).map
      (fun place ↦ slice shown place.start place.stop) = fragments := by
  induction pieces generalizing before fragments with
  | nil => exact (List.eq_nil_of_length_eq_zero hlength).symm
  | cons piece pieces ih =>
    cases piece with
    | literal c =>
      have hnext : shown.toList = (before ++ [c]) ++ fill pieces fragments := by
        rw [h, fill, List.append_assoc]
        rfl
      have hrest := ih _ hlength hnext
      rwa [octetLength_append] at hrest
    | directive fields source =>
      obtain ⟨fragment, others, rfl⟩ := List.exists_cons_of_length_eq_add_one hlength
      rw [fill] at h
      have hnext : shown.toList = (before ++ fragment.toList) ++ fill pieces others := by
        rw [h, List.append_assoc]
      have hrest := ih _ (Nat.succ.inj hlength) hnext
      rw [octetLength_append] at hrest
      simp only [placesFrom, List.headD_cons, List.tail_cons, List.map_cons, hrest,
        slice_of_append h, String.ofList_toList]

/-- A place cuts a filled text at the bounds of its fragment. -/
theorem exists_of_mem_placesFrom (before : List Char)
    (h : place ∈ placesFrom (octetLength before) pieces fragments) :
    ∃ early fragment late, before ++ fill pieces fragments = early ++ (fragment ++ late) ∧
      place.start = octetLength early ∧ place.stop = place.start + octetLength fragment := by
  induction pieces generalizing before fragments with
  | nil => contradiction
  | cons piece pieces ih =>
    cases piece with
    | literal c =>
      have hnext : octetLength (before ++ [c]) = octetLength before + c.utf8Size := by
        simp [octetLength]
      rw [placesFrom, ← hnext] at h
      obtain ⟨early, fragment, late, hcut, hplace⟩ := ih (before ++ [c]) h
      exact ⟨early, fragment, late, by rw [← hcut, fill, List.append_assoc]; rfl, hplace⟩
    | directive fields source =>
      rw [fill_directive]
      rcases List.mem_cons.1 h with rfl | hmem
      · exact ⟨before, _, _, rfl, rfl, rfl⟩
      · rw [← octetLength_append] at hmem
        obtain ⟨early, fragment, late, hcut, hplace⟩ := ih _ hmem
        exact ⟨early, fragment, late, by rw [← hcut, List.append_assoc], hplace⟩

/-! ## Directives and places -/

/-- The second part of a text begins beyond a piece at its front, or within it. -/
theorem beyond_or_inside {first second left right : List Char}
    (h : first ++ second = left ++ right) :
    (∃ beyond, left = first ++ beyond ∧ second = beyond ++ right) ∨
      ∃ inner, inner ≠ [] ∧ first = left ++ inner ∧ right = inner ++ second := by
  rcases List.append_eq_append_iff.1 h with ⟨beyond, hleft, hsecond⟩ | ⟨inner, hfirst, hright⟩
  · exact .inl ⟨beyond, hleft, hsecond⟩
  · rcases eq_or_ne inner [] with rfl | hinner
    · refine .inl ⟨[], ?_, hright.symm⟩
      rw [hfirst, List.append_nil, List.append_nil]
    · exact .inr ⟨inner, hinner, hfirst, hright⟩

theorem exists_of_octetLength_le {first second left right : List Char}
    (h : first ++ second = left ++ right) (hle : octetLength first ≤ octetLength left) :
    ∃ beyond, left = first ++ beyond ∧ second = beyond ++ right := by
  rcases beyond_or_inside h with hbeyond | ⟨inner, hinner, rfl, -⟩
  · exact hbeyond
  · have hlonger := octetLength_pos hinner
    rw [octetLength_append] at hle
    omega

/-- A beginning of a filled text is a beginning of the template, unless it reaches beyond the first
place. -/
theorem exists_place_of_prefix (h : fill (segments text) fragments = source ++ after) :
    (∃ rest, text = source ++ rest) ∨
      ∃ place ∈ placesFrom offset (segments text) fragments,
        place.start < offset + octetLength source := by
  induction text using scan_induction generalizing offset source with
  | nil =>
    rw [segments_nil, fill] at h
    obtain rfl := (List.append_eq_nil_iff.1 h.symm).1
    exact .inl ⟨[], rfl⟩
  | literal c rest hread ih =>
    rw [segments_of_none hread, fill] at h
    rw [segments_of_none hread, placesFrom]
    cases source with
    | nil => exact .inl ⟨c :: rest, rfl⟩
    | cons d source =>
      obtain ⟨rfl, hrest⟩ := List.cons.inj h
      rcases ih hrest with ⟨beyond, rfl⟩ | ⟨place, hplace, hstart⟩
      · exact .inl ⟨beyond, rfl⟩
      · refine .inr ⟨place, hplace, ?_⟩
        rwa [octetLength, ← Nat.add_assoc]
  | directive covering whole rest hcovering ih =>
    rw [segments_of_derives hcovering, placesFrom]
    rcases eq_or_ne source [] with rfl | hsource
    · exact .inl ⟨whole ++ rest, rfl⟩
    · exact .inr ⟨_, List.mem_cons_self, Nat.lt_add_of_pos_right (octetLength_pos hsource)⟩

/-- A directive of a filled text lies in a place, or a place begins or ends within it. -/
theorem exists_place_of_derives (offset : Nat) (hderives : Derives fields source)
    (h : fill (segments text) fragments = before ++ (source ++ after)) :
    ∃ place ∈ placesFrom offset (segments text) fragments,
      place.Holds (offset + octetLength before)
        (offset + octetLength before + octetLength source) ∨
      place.Divides (offset + octetLength before)
        (offset + octetLength before + octetLength source) := by
  induction text using scan_induction generalizing offset before fragments with
  | nil =>
    rw [segments_nil, fill] at h
    have hnil : source = [] := by simp_all
    exact absurd hnil hderives.ne_nil
  | literal c rest hread ih =>
    rw [segments_of_none hread, fill] at h
    rw [segments_of_none hread, placesFrom]
    cases before with
    | nil =>
      -- If it reached no place, the scan would have taken a directive here.
      obtain ⟨d, tail, rfl⟩ := List.exists_cons_of_ne_nil hderives.ne_nil
      obtain ⟨rfl, hrest⟩ := List.cons.inj h
      rcases exists_place_of_prefix hrest with ⟨beyond, rfl⟩ | ⟨place, hplace, hstart⟩
      · have hfound := hderives.takeDirective_append beyond
        rw [List.cons_append, hread] at hfound
        contradiction
      · have hoffset := offset_le_of_mem_placesFrom hplace
        have hc : 0 < c.utf8Size := c.utf8Size_pos
        refine ⟨place, hplace, .inr (.inl ?_)⟩
        simp only [octetLength]
        omega
    | cons d before =>
      obtain ⟨rfl, hrest⟩ := List.cons.inj h
      obtain ⟨place, hplace, hlies⟩ := ih (offset + c.utf8Size) hrest
      exact ⟨place, hplace, by rwa [octetLength, ← Nat.add_assoc]⟩
  | directive covering whole rest hcovering ih =>
    rw [segments_of_derives hcovering, fill_directive] at h
    rw [segments_of_derives hcovering, placesFrom]
    generalize (fragments.headD "").toList = fragment at h ⊢
    rcases beyond_or_inside h with ⟨beyond, rfl, hrest⟩ | ⟨inner, hinner, rfl, hrest⟩
    · obtain ⟨place, hplace, hlies⟩ := ih (offset + octetLength fragment) hrest
      rw [Nat.add_assoc offset, ← octetLength_append] at hlies
      exact ⟨place, List.mem_cons_of_mem _ hplace, hlies⟩
    · -- The directive begins within the fragment, and ends within it or beyond it.
      have hbegins := octetLength_pos hinner
      refine ⟨_, List.mem_cons_self, ?_⟩
      rcases beyond_or_inside hrest with ⟨more, rfl, -⟩ | ⟨more, hmore, rfl, -⟩
      · left
        simp only [Place.Holds, octetLength_append]
        omega
      · have hends := octetLength_pos hmore
        right; right
        simp only [octetLength_append]
        omega

/-! ## What merging leaves -/

theorem hasDirectives_iff_exists_occurs :
    hasDirectives template = true ↔
      ∃ fields start stop, Occurs template.toList fields start stop := by
  rw [hasDirectives_iff]
  constructor
  · intro hfound
    obtain ⟨descriptor, hdescriptor⟩ := List.exists_mem_of_ne_nil _ hfound
    obtain ⟨fields, hoccurs, -⟩ := exists_occurs_of_mem_parse hdescriptor
    exact ⟨fields, _, _, hoccurs⟩
  · rintro ⟨fields, start, stop, hoccurs⟩
    obtain ⟨descriptor, hdescriptor, -⟩ := hoccurs.exists_mem_parse
    exact List.ne_nil_of_mem hdescriptor

/-- A directive of a merged text lies in a place, or a place begins or ends within it. -/
theorem Occurs.exists_place (h : Occurs (merge template fragments).toList fields start stop) :
    ∃ place ∈ places template fragments, place.Holds start stop ∨ place.Divides start stop := by
  obtain ⟨before, source, after, htext, hderives, rfl, rfl⟩ := h
  rw [merge, String.toList_ofList] at htext
  have hplace := exists_place_of_derives 0 hderives htext
  rwa [Nat.zero_add] at hplace

/-- The directives that lie in a place are those of its fragment. -/
theorem hasDirectives_slice_iff (h : place ∈ places template fragments) :
    hasDirectives (slice (merge template fragments) place.start place.stop) = true ↔
      ∃ fields start stop, Occurs (merge template fragments).toList fields start stop ∧
        place.Holds start stop := by
  obtain ⟨early, fragment, late, hcut, hstart, hstop⟩ := exists_of_mem_placesFrom [] h
  rw [List.nil_append] at hcut
  have htext : (merge template fragments).toList = early ++ (fragment ++ late) := by
    rw [merge, String.toList_ofList, hcut]
  rw [hstop, hstart, slice_of_append htext, hasDirectives_iff_exists_occurs, String.toList_ofList,
    htext]
  constructor
  · rintro ⟨fields, start, stop, before, source, after, rfl, hderives, rfl, rfl⟩
    refine ⟨fields, _, _, ⟨early ++ before, source, after ++ late, ?_, hderives, rfl, rfl⟩, ?_⟩
    · simp only [List.append_assoc]
    · simp only [Place.Holds, hstop, hstart, octetLength_append]
      omega
  · rintro ⟨fields, start, stop, ⟨before, source, after, hoccurs, hderives, rfl, rfl⟩, hfrom, hto⟩
    obtain ⟨left, rfl, hleft⟩ := exists_of_octetLength_le hoccurs (by omega)
    rw [← List.append_assoc] at hleft
    obtain ⟨right, rfl, -⟩ := exists_of_octetLength_le hleft.symm (by
      simp only [octetLength_append] at hto ⊢
      omega)
    exact ⟨fields, _, _, left, source, right, by rw [List.append_assoc], hderives, rfl, rfl⟩

/-- The fragments stand in their places, if each has one. -/
theorem map_slice_places (hlength : fragments.length = count template) :
    (places template fragments).map
      (fun place ↦ slice (merge template fragments) place.start place.stop) = fragments :=
  map_slice_placesFrom [] hlength (String.toList_ofList)

/-- A merged text has no directives just when its fragments have none and no fragment begins or ends
within one. -/
theorem hasDirectives_merge_eq_false_iff (hlength : fragments.length = count template) :
    hasDirectives (merge template fragments) = false ↔
      (∀ fragment ∈ fragments, hasDirectives fragment = false) ∧
      ∀ fields start stop, Occurs (merge template fragments).toList fields start stop →
        ∀ place ∈ places template fragments, ¬ place.Divides start stop := by
  have hslices := map_slice_places hlength
  constructor
  · intro hnone
    have hnowhere (fields : Fields) (start stop : Nat) :
        ¬ Occurs (merge template fragments).toList fields start stop := fun hoccurs ↦
      Bool.eq_false_iff.1 hnone (hasDirectives_iff_exists_occurs.2 ⟨_, _, _, hoccurs⟩)
    refine ⟨fun fragment hfragment ↦ ?_, fun fields start stop hoccurs ↦
      absurd hoccurs (hnowhere fields start stop)⟩
    rw [← hslices] at hfragment
    obtain ⟨place, hplace, rfl⟩ := List.mem_map.1 hfragment
    rw [Bool.eq_false_iff, Ne, hasDirectives_slice_iff hplace]
    rintro ⟨fields, start, stop, hoccurs, -⟩
    exact hnowhere fields start stop hoccurs
  · rintro ⟨hfragments, hwhole⟩
    rw [Bool.eq_false_iff]
    intro hsome
    obtain ⟨fields, start, stop, hoccurs⟩ := hasDirectives_iff_exists_occurs.1 hsome
    obtain ⟨place, hplace, hholds | hdivides⟩ := hoccurs.exists_place
    · have hfragment := List.mem_map_of_mem
        (f := fun place ↦ slice (merge template fragments) place.start place.stop) hplace
      rw [hslices] at hfragment
      have hinside := (hasDirectives_slice_iff hplace).2 ⟨fields, start, stop, hoccurs, hholds⟩
      rw [hfragments _ hfragment] at hinside
      contradiction
    · exact hwhole fields start stop hoccurs place hplace hdivides

/-! ## Parameters in place of directives -/

/-- The parameters of the directives that are found in a template. -/
def params (template : String) : List String := (parse template).map Descriptor.param

/-- A template with its parameters in place of the directives. -/
def unwrap (template : String) : String := merge template (params template)

/-- In a template with its parameters in place of the directives, no directive is left but in a
parameter or with the beginning or the end of one in it. So none is left just when no parameter has a
directive and no parameter begins or ends within one. -/
theorem params_leave_no_literal_directive (template : String) :
    (places template (params template)).map
      (fun place ↦ slice (unwrap template) place.start place.stop) = params template ∧
    (∀ fields start stop, Occurs (unwrap template).toList fields start stop →
      ∃ place ∈ places template (params template),
        place.Holds start stop ∨ place.Divides start stop) ∧
    (hasDirectives (unwrap template) = false ↔
      (∀ param ∈ params template, hasDirectives param = false) ∧
      ∀ fields start stop, Occurs (unwrap template).toList fields start stop →
        ∀ place ∈ places template (params template), ¬ place.Divides start stop) := by
  have hlength : (params template).length = count template := by
    rw [params, List.length_map, count_eq_length_parse]
  exact ⟨map_slice_places hlength, fun fields start stop ↦ Occurs.exists_place,
    hasDirectives_merge_eq_false_iff hlength⟩

/-- A directive in a parameter is left, and so is one that is formed around a parameter. -/
theorem params_leave_directives :
    hasDirectives (unwrap "\x7bid(\x7bid(x)\x7d)\x7d") = true ∧
      hasDirectives (unwrap "\x7b\x7bid(x)\x7d(y)\x7d") = true := by
  decide +kernel

end LiveTemplate.Directive
