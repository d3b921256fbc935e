import LiveTemplate.Program.Settings
import LiveTemplate.Proofs.Command.Building
import LiveTemplate.Proofs.Document.Members
import LiveTemplate.Proofs.Program.Decoding

/-!
# Settings under rearrangement

Settings look for three members of a table by their names and leave the others alone. So neither the
order in which members are written nor members of other names make a difference, whatever values
those have. What a command line says afterwards replaces what a file says, member by member.
-/

namespace LiveTemplate.Program

open CommandLine (Arguments)
open Document (Value)
open Number (Binary64)

variable {members members' : List (String × Value)} {name : String} {octets : List UInt8}
  {settings : Settings} {complaint : String → String}

/-! ## Members in another order -/

/-- One list of members comes from another by putting members in another order, and by inserting and
removing members that settings do not know, whatever their values are. -/
inductive Rearranged : List (String × Value) → List (String × Value) → Prop
  | permuted {members members' : List (String × Value)} (h : members.Perm members') :
      Rearranged members members'
  | inserted {front back : List (String × Value)} {member : String × Value}
      (h : member.1 ∉ Settings.keys) : Rearranged (front ++ back) (front ++ member :: back)
  | removed {front back : List (String × Value)} {member : String × Value}
      (h : member.1 ∉ Settings.keys) : Rearranged (front ++ member :: back) (front ++ back)
  | trans {members members' members'' : List (String × Value)} (h : Rearranged members members')
      (h' : Rearranged members' members'') : Rearranged members members''

/-- Of a name that is known, the members stay the same but for their order. -/
theorem Rearranged.filter_perm (h : Rearranged members members') (hname : name ∈ Settings.keys) :
    (members.filter fun member ↦ member.1 = name).Perm
      (members'.filter fun member ↦ member.1 = name) := by
  have hother {front back : List (String × Value)} {member : String × Value}
      (h : member.1 ∉ Settings.keys) :
      (front ++ member :: back).filter (fun member ↦ member.1 = name) =
        (front ++ back).filter fun member ↦ member.1 = name := by
    have hne : member.1 ≠ name := fun he ↦ h (he ▸ hname)
    simp only [List.filter_append, List.filter_cons, hne, decide_false, Bool.false_eq_true,
      if_false]
  induction h with
  | permuted h => exact h.filter _
  | inserted h => rw [hother h]
  | removed h => rw [hother h]
  | trans _ _ ih ih' => exact ih.trans ih'

/-! ## What members say -/

theorem optionalText?_eq_some_iff {value : Value} {text? : Option String}
    (h : optionalText? value = some text?) (text : String) :
    text? = some text ↔ value = .text text := by
  unfold optionalText? at h
  split at h <;> simp_all [eq_comm]

theorem optionalNumber?_eq_some_iff {value : Value} {number? : Option Binary64}
    (h : optionalNumber? value = some number?) (x : Binary64) :
    number? = some x ↔ value = .number x := by
  unfold optionalNumber? at h
  split at h <;> simp_all [eq_comm]

def spellMode (mode : String × Bool) : String × Value := (mode.1, .boolean mode.2)

theorem eq_map_of_mapM_mode? {entries : List (String × Value)} {modes : List (String × Bool)}
    (h : entries.mapM mode? = some modes) : entries = modes.map spellMode := by
  induction entries generalizing modes with
  | nil =>
    obtain rfl := Option.some.inj h
    rfl
  | cons entry entries ih =>
    rw [List.mapM_cons] at h
    obtain ⟨mode, hmode, h⟩ := Option.bind_eq_some_iff.1 h
    obtain ⟨others, hothers, h⟩ := Option.bind_eq_some_iff.1 h
    obtain rfl := Option.some.inj h
    rw [List.map_cons, ih hothers]
    congr 1
    unfold mode? at hmode
    split at hmode
    · obtain rfl := Option.some.inj hmode
      rfl
    · contradiction

/-- The last one decides among modes of a name. -/
theorem modes?_eq_some_iff {value : Value} {modes : Keyed String Bool}
    (h : modes? value = some modes) (name : String) (mode : Bool) :
    modes.get? name = some mode ↔ ∃ entries, value = .table entries ∧
      (entries.filter (·.1 = name)).getLast? = some (spellMode (name, mode)) := by
  unfold modes? at h
  split at h
  case h_1 entries =>
    obtain ⟨pairs, hpairs, rfl⟩ := Option.map_eq_some_iff.1 h
    obtain rfl := eq_map_of_mapM_mode? hpairs
    have hfilter : (pairs.map spellMode).filter (·.1 = name) =
        (pairs.filter (·.1 = name)).map spellMode := List.filter_map
    simp only [Keyed.get?_ofEntries, Value.table.injEq, exists_eq_left', hfilter,
      List.getLast?_map]
    cases hlast : (pairs.filter (·.1 = name)).getLast? with
    | none => simp
    | some last =>
      have hname : last.1 = name := by
        simpa using (List.mem_filter.1 (List.mem_of_getLast? hlast)).2
      simp [spellMode, hname]
  case h_2 => contradiction

/-- Settings are what the members of a table say, and nothing where there is no such member. -/
structure Settings.Reflects (settings : Settings) (members : List (String × Value)) : Prop where
  shell (shell : String) :
    settings.commands.shell = some shell ↔ ("shell", .text shell) ∈ members
  minInterval (seconds : Binary64) :
    settings.minInterval = some seconds ↔ ("min_interval_secs", .number seconds) ∈ members
  asyncDefaults (name : String) (mode : Bool) :
    settings.commands.asyncDefaults.get? name = some mode ↔
      ∃ entries, ("async_defaults", .table entries) ∈ members ∧
        (entries.filter (·.1 = name)).getLast? = some (spellMode (name, mode))

theorem Settings.reflects_of_ofDocument? (h : ofDocument? (.table members) = some settings) :
    settings.Reflects members := by
  rw [ofDocument?_table] at h
  obtain ⟨interval?, hinterval?, h⟩ := Option.bind_eq_some_iff.1 h
  obtain ⟨shell?, hshell?, h⟩ := Option.bind_eq_some_iff.1 h
  obtain ⟨modes?, hmodes?, rfl⟩ := Option.map_eq_some_iff.1 h
  constructor
  case shell =>
    intro text
    obtain ⟨value?, hmem, hread⟩ := exists_of_lookUp? hshell?
    rw [hmem]
    cases value? with
    | none => simp [← Option.some.inj hread]
    | some value =>
      obtain ⟨text?, htext, rfl⟩ := Option.map_eq_some_iff.1 hread
      rw [Option.some.injEq, ← optionalText?_eq_some_iff htext]
      rfl
  case minInterval =>
    intro seconds
    obtain ⟨value?, hmem, hread⟩ := exists_of_lookUp? hinterval?
    rw [hmem]
    cases value? with
    | none => simp [← Option.some.inj hread]
    | some value =>
      obtain ⟨number?, hnumber, rfl⟩ := Option.map_eq_some_iff.1 hread
      rw [Option.some.injEq, ← optionalNumber?_eq_some_iff hnumber]
      rfl
  case asyncDefaults =>
    intro name mode
    obtain ⟨value?, hmem, hread⟩ := exists_of_lookUp? hmodes?
    simp only [hmem]
    cases value? with
    | none => simp [← Option.some.inj hread, Keyed.get?]
    | some value =>
      obtain ⟨modes, hmodes, rfl⟩ := Option.map_eq_some_iff.1 hread
      simpa only [Option.some.injEq, Option.getD_some] using modes?_eq_some_iff hmodes name mode

/-! ## Files -/

/-- A file is the text of a table of the given members. -/
def Spells (octets : List UInt8) (members : List (String × Value)) : Prop :=
  ∃ text, readText octets = .ok text ∧ Document.IsTable text.toList members

theorem spells_iff :
    Spells octets members ↔ ∃ text, readText octets = .ok text ∧
      Document.parse? text.toList = some (.table members) := by
  simp only [Spells, Document.parse?_eq_some_table_iff]

/-- A file has its members in one way only. -/
theorem Spells.eq (h : Spells octets members) (h' : Spells octets members') :
    members = members' := by
  obtain ⟨text, hread, hparse⟩ := spells_iff.1 h
  obtain ⟨text', hread', hparse'⟩ := spells_iff.1 h'
  obtain rfl := Except.ok.inj (hread.symm.trans hread')
  exact Value.table.inj (Option.some.inj (hparse.symm.trans hparse'))

namespace Settings

theorem ofDocument?_eq_of_rearranged (h : Rearranged members members') :
    ofDocument? (.table members) = ofDocument? (.table members') := by
  have hfound {α : Type} {read? : Value → Option α} {name : String} (hname : name ∈ keys) :
      lookUp? read? name none members = lookUp? read? name none members' :=
    lookUp?_eq_of_perm (h.filter_perm hname)
  have hshell : "shell" ∈ keys := by decide
  have hmodes : "async_defaults" ∈ keys := by decide
  have hinterval : "min_interval_secs" ∈ keys := by decide
  rw [ofDocument?_table, ofDocument?_table, hfound hshell, hfound hmodes, hfound hinterval]

theorem exists_table_of_ofDocument? {value : Value}
    (h : ofDocument? value = some settings) : ∃ members, value = .table members := by
  cases value with
  | table members => exact ⟨members, rfl⟩
  | _ => simp [ofDocument?] at h

/-- A file loads just when it is a table whose members say settings. -/
theorem ofOctets_eq_ok_iff :
    ofOctets complaint octets = .ok settings ↔
      ∃ members, Spells octets members ∧ ofDocument? (.table members) = some settings := by
  simp only [spells_iff, ofOctets]
  cases readText octets with
  | error failure => simp [bind, Except.bind]
  | ok text =>
    simp only [bind, Except.bind, Except.ok.injEq, exists_eq_left']
    constructor
    · intro h
      split at h
      case h_1 loaded hloaded =>
        obtain ⟨value, hvalue, hdocument⟩ := Option.bind_eq_some_iff.1 hloaded
        obtain ⟨members, rfl⟩ := exists_table_of_ofDocument? hdocument
        exact ⟨members, hvalue, hdocument.trans (congrArg some (Except.ok.inj h))⟩
      case h_2 => contradiction
    · rintro ⟨members, hvalue, hdocument⟩
      rw [hvalue, Option.bind_some, hdocument]
      rfl

/-! ## Settings under a command line -/

theorem withArguments_withArguments (settings : Settings) (arguments : Arguments) :
    (settings.withArguments arguments).withArguments arguments =
      settings.withArguments arguments := by
  cases hshell : arguments.shell <;> cases hinterval : arguments.minInterval <;>
    simp [withArguments, hshell, hinterval]

/-- A file that loads is a table, and loads to what its members say. A file with its members in
another order, with or without members that are not known, loads to the same settings. A command
line replaces the shell and the least interval of settings where it gives them, and nothing else,
however often it is applied. -/
theorem effective_of_rearranged (h : ofOctets complaint octets = .ok settings) :
    (∃ members, Spells octets members ∧ settings.Reflects members) ∧
      (∀ octets' members members', Spells octets members → Rearranged members members' →
        Spells octets' members' → ofOctets complaint octets' = .ok settings) ∧
      ∀ arguments : Arguments,
        (∀ shell, arguments.shell = some shell →
          (settings.withArguments arguments).commands.shell = some shell) ∧
        (arguments.shell = none →
          (settings.withArguments arguments).commands.shell = settings.commands.shell) ∧
        (∀ seconds, arguments.minInterval = some seconds →
          (settings.withArguments arguments).minInterval = some seconds) ∧
        (arguments.minInterval = none →
          (settings.withArguments arguments).minInterval = settings.minInterval) ∧
        (settings.withArguments arguments).commands.asyncDefaults =
          settings.commands.asyncDefaults ∧
        (settings.withArguments arguments).withArguments arguments =
          settings.withArguments arguments := by
  obtain ⟨said, hsaid, hdocument⟩ := ofOctets_eq_ok_iff.1 h
  refine ⟨⟨said, hsaid, reflects_of_ofDocument? hdocument⟩, fun octets' members members' hmembers hrearranged hmembers' ↦ ?_,
    fun arguments ↦ ⟨?_, ?_, ?_, ?_, rfl, withArguments_withArguments settings arguments⟩⟩
  · obtain rfl : said = members := hsaid.eq hmembers
    rw [ofDocument?_eq_of_rearranged hrearranged] at hdocument
    exact ofOctets_eq_ok_iff.2 ⟨members', hmembers', hdocument⟩
  · intro shell hshell
    simp [withArguments, hshell]
  · intro hshell
    simp [withArguments, hshell]
  · intro seconds hinterval
    simp [withArguments, hinterval]
  · intro hinterval
    simp [withArguments, hinterval]

def plainText : String := "\x7b\"shell\":\"sh\",\"async_defaults\":\x7b\"dt\":true\x7d\x7d"

/-- The same members in the other order, behind one that is not known. -/
def themedText : String :=
  "\x7b \"theme\":[null,\x7b\x7d],\"async_defaults\":\x7b\"dt\":true\x7d,\n\"shell\" : \"sh\"\x7d"

/-- Both say the same settings. -/
theorem effective_of_themed :
    ofOctets id (Text.encode plainText) = .ok ⟨⟨some "sh", [("dt", true)]⟩, none⟩ ∧
      ofOctets id (Text.encode themedText) = .ok ⟨⟨some "sh", [("dt", true)]⟩, none⟩ := by
  have hplain : Spells (Text.encode plainText)
      [("shell", .text "sh"), ("async_defaults", .table [("dt", .boolean true)])] :=
    spells_iff.2 ⟨plainText, by decide +kernel, by with_unfolding_all rfl⟩
  have hthemed : Spells (Text.encode themedText)
      [("theme", .sequence [.null, .table []]), ("async_defaults", .table [("dt", .boolean true)]),
        ("shell", .text "sh")] :=
    spells_iff.2 ⟨themedText, by decide +kernel, by with_unfolding_all rfl⟩
  have hloads : ofOctets id (Text.encode plainText) = .ok ⟨⟨some "sh", [("dt", true)]⟩, none⟩ :=
    ofOctets_eq_ok_iff.2 ⟨_, hplain, rfl⟩
  have htheme : "theme" ∉ keys := by decide
  refine ⟨hloads, (effective_of_rearranged hloads).2.1 _ _ _ hplain ?_ hthemed⟩
  exact .trans (.permuted (.swap _ _ _)) (@Rearranged.inserted [] _ _ htheme)

end Settings

end LiveTemplate.Program
