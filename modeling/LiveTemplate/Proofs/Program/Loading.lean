import LiveTemplate.Program.Templates

/-!
# What is loaded

A file holds a text, or it cannot be read as one. What arguments offer, which settings file is
consulted and what settings are loaded from it are relations between the files and the arguments; the
functions that load do what these relations say, and find one error for everything else.
-/

namespace LiveTemplate.Program

open CommandLine (Arguments)
open Host (Failure)

/-! ## Files -/

/-- A file that holds a text. -/
def Holds (files : FileReader) (path text : String) : Prop :=
  ∃ octets, files path = .ok octets ∧ Text.decode? octets = some text

/-- The reasons for which a file cannot be read as a text. -/
inductive Unreadable (files : FileReader) (path : String) : Failure → Prop
  | refused {failure : Failure} (h : files path = .error failure) : Unreadable files path failure
  | malformed {octets : List UInt8} (h : files path = .ok octets)
      (hmalformed : Text.decode? octets = none) : Unreadable files path .malformedText

/-- The templates that are offered: those of the command line, and behind them the lines of the
template file that are not blank. -/
inductive Offers (files : FileReader) (arguments : Arguments) : List String → Prop
  | given (hfile : arguments.file = none) : Offers files arguments arguments.templates
  | listed {path text : String} (hfile : arguments.file = some path)
      (hholds : Holds files path text) :
      Offers files arguments
        (arguments.templates ++ (Text.linesOf text).filter fun line ↦ !Text.isBlankText line)

/-- The settings file that is read: the one that the command line names, or else the default one if
its path leads anywhere. -/
inductive Consults (isThere : String → Bool) (default? : Option String) (arguments : Arguments) :
    String → Prop
  | named {path : String} (hconfig : arguments.config = some path) :
      Consults isThere default? arguments path
  | default {path : String} (hconfig : arguments.config = none) (hdefault : default? = some path)
      (hthere : isThere path = true) : Consults isThere default? arguments path

def said? (text : String) : Option Settings :=
  (Document.parse? text.toList).bind Settings.ofDocument?

/-- The settings that are loaded: those of the file that is read, or no settings. -/
inductive Loads (files : FileReader) (isThere : String → Bool) (default? : Option String)
    (arguments : Arguments) : Settings → Prop
  | said {path text : String} {settings : Settings}
      (hconsults : Consults isThere default? arguments path) (hholds : Holds files path text)
      (hsaid : said? text = some settings) : Loads files isThere default? arguments settings
  | nothing (hnone : ∀ path, ¬ Consults isThere default? arguments path) :
      Loads files isThere default? arguments {}

/-! ## Reading -/

section

variable {files : FileReader} {isThere : String → Bool} {complaint : String → String}
  {default? : Option String} {arguments : Arguments} {path text : String} {failure : Failure}
  {templates : List String} {settings : Settings}

def textOf (files : FileReader) (path : String) : Except Error String :=
  readOctets files path >>= readText

theorem textOf_of_ok {octets : List UInt8} (hread : files path = .ok octets) :
    textOf files path = readText octets := by
  rw [textOf, readOctets, hread]
  rfl

theorem textOf_of_holds (h : Holds files path text) : textOf files path = .ok text := by
  obtain ⟨octets, hread, hdecoded⟩ := h
  rw [textOf_of_ok hread, readText, hdecoded]

theorem textOf_of_unreadable (h : Unreadable files path failure) :
    textOf files path = .error (.host failure) := by
  cases h with
  | refused hrefused =>
    rw [textOf, readOctets, hrefused]
    rfl
  | malformed hread hmalformed => rw [textOf_of_ok hread, readText, hmalformed]

/-- A file holds one text. -/
theorem Holds.eq {other : String} (h : Holds files path text) (hother : Holds files path other) :
    text = other :=
  Except.ok.inj ((textOf_of_holds h).symm.trans (textOf_of_holds hother))

theorem Holds.not_unreadable (h : Holds files path text) : ¬ Unreadable files path failure := by
  intro hunreadable
  have hboth := (textOf_of_holds h).symm.trans (textOf_of_unreadable hunreadable)
  contradiction

theorem holds_or_unreadable (files : FileReader) (path : String) :
    (∃ text, Holds files path text) ∨ ∃ failure, Unreadable files path failure := by
  cases hread : files path with
  | error failure => exact .inr ⟨failure, .refused hread⟩
  | ok octets =>
    cases hdecoded : Text.decode? octets with
    | none => exact .inr ⟨_, .malformed hread hdecoded⟩
    | some text => exact .inl ⟨text, octets, hread, hdecoded⟩

/-! ## Templates -/

theorem loadTemplates_of_file (hfile : arguments.file = some path) :
    loadTemplates files arguments = textOf files path >>= fun text ↦
      if (arguments.templates ++ templateLines text).isEmpty then .error .noTemplates
      else .ok (arguments.templates ++ templateLines text) := by
  simp only [loadTemplates, hfile, textOf]
  cases readOctets files path with
  | error e => rfl
  | ok octets =>
    simp only [bind, Except.bind]
    cases readText octets <;> rfl

theorem loadTemplates_of_unreadable (hfile : arguments.file = some path)
    (h : Unreadable files path failure) :
    loadTemplates files arguments = .error (.host failure) := by
  rw [loadTemplates_of_file hfile, textOf_of_unreadable h]
  rfl

/-- What is offered is loaded, unless it is nothing. -/
theorem loadTemplates_of_offers (h : Offers files arguments templates) :
    loadTemplates files arguments =
      if templates = [] then .error .noTemplates else .ok templates := by
  have hempty (offered : List String) :
      (if offered.isEmpty then .error .noTemplates else .ok offered : Except Error (List String)) =
        if offered = [] then .error .noTemplates else .ok offered := by
    simp only [List.isEmpty_iff]
  rw [← hempty]
  cases h with
  | given hfile =>
    simp only [loadTemplates, hfile]
    show (if (arguments.templates ++ []).isEmpty then _ else _) = _
    rw [List.append_nil]
    rfl
  | listed hfile hholds =>
    rw [loadTemplates_of_file hfile, textOf_of_holds hholds]
    rfl

/-! ## Settings -/

/-- The settings of a text, or the error for a text that says none. -/
def settingsOf (complaint : String → String) (text : String) : Except Error Settings :=
  match said? text with
  | some settings => .ok settings
  | none => .error (.malformedSettings (complaint text))

theorem ofOctets_eq (octets : List UInt8) :
    Settings.ofOctets complaint octets = readText octets >>= settingsOf complaint := by
  rw [Settings.ofOctets]
  cases readText octets with
  | error e => rfl
  | ok text =>
    show (match said? text with | some settings => _ | none => _) = settingsOf complaint text
    rw [settingsOf]
    cases said? text <;> rfl

theorem loadSettings_of_consults (h : Consults isThere default? arguments path) :
    loadSettings files isThere complaint arguments.config default? =
      textOf files path >>= settingsOf complaint := by
  have hread : (readOctets files path >>= Settings.ofOctets complaint) =
      textOf files path >>= settingsOf complaint := by
    rw [textOf, funext ofOctets_eq]
    cases readOctets files path <;> rfl
  rw [← hread]
  cases h with
  | named hconfig => rw [hconfig, loadSettings]
  | default hconfig hdefault hthere => rw [hconfig, hdefault, loadSettings, if_pos hthere]

theorem loadSettings_of_not_consults (h : ∀ path, ¬ Consults isThere default? arguments path) :
    loadSettings files isThere complaint arguments.config default? = .ok {} := by
  cases hconfig : arguments.config with
  | some path => exact absurd (.named hconfig) (h path)
  | none =>
    cases hdefault : default? with
    | none => rfl
    | some path =>
      have hthere : ¬ isThere path = true := fun hthere ↦ h path (.default hconfig hdefault hthere)
      rw [loadSettings, if_neg hthere]

theorem loadSettings_of_loads (h : Loads files isThere default? arguments settings) :
    loadSettings files isThere complaint arguments.config default? = .ok settings := by
  cases h with
  | said hconsults hholds hsaid =>
    rw [loadSettings_of_consults hconsults, textOf_of_holds hholds]
    show settingsOf complaint _ = _
    rw [settingsOf, hsaid]
  | nothing hnone => exact loadSettings_of_not_consults hnone

/-- Only one thing is loaded. -/
theorem Loads.eq {other : Settings} (h : Loads files isThere default? arguments settings)
    (hother : Loads files isThere default? arguments other) : settings = other :=
  have hloaded : loadSettings files isThere id arguments.config default? = .ok settings :=
    loadSettings_of_loads h
  Except.ok.inj (hloaded.symm.trans (loadSettings_of_loads hother))

end

end LiveTemplate.Program
