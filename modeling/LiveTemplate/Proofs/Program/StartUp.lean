import LiveTemplate.Program.Run
import LiveTemplate.Proofs.Program.Loading
import LiveTemplate.Proofs.Refresh.Allotment
import LiveTemplate.Proofs.Text.Utf8

/-!
# Starting up

Five things may fail before the program shows anything, in any combination: the template file cannot
be read, there are no templates, the time to run is not a duration, the settings cannot be loaded, and
the least interval is not a duration. The program ends with the error of the first one that fails, and
has not shown anything then. When none of them fails, the list of texts gets the templates of the
command line and, behind them, the lines of the template file that are not blank, and every line that
is shown until the program has shut down belongs to the template whose number it has.
-/

namespace LiveTemplate.Program

open CommandLine (Arguments)
open Host (Failure)
open Refresh (Attributes Clockwork Deed Operation Performed Serves Shutdown State)

variable {σ : Type}

/-! ## Stages -/

/-- What may fail before anything is shown, in the order in which it is attempted. -/
inductive Stage where
  | templateFile
  | templates
  | duration
  | settings
  | floor

def Stage.rank : Stage → Nat
  | .templateFile => 0
  | .templates => 1
  | .duration => 2
  | .settings => 3
  | .floor => 4

/-- The ways in which a stage fails, whatever comes of the other ones. -/
inductive Fails (machine : Machine σ) (arguments : Arguments) : Stage → Error → Prop
  | templateFile {path : String} {failure : Failure} (hfile : arguments.file = some path)
      (hunreadable : Unreadable machine.files path failure) :
      Fails machine arguments .templateFile (.host failure)
  | templates (hnothing : Offers machine.files arguments []) :
      Fails machine arguments .templates .noTemplates
  | duration {seconds : Number.Binary64} (hgiven : arguments.duration = some seconds)
      (hnone : Duration.ofSeconds? seconds = none) :
      Fails machine arguments .duration (.invalidDuration "duration" seconds)
  | settingsFile {path : String} {failure : Failure}
      (hconsults : Consults machine.isThere machine.defaultPath? arguments path)
      (hunreadable : Unreadable machine.files path failure) :
      Fails machine arguments .settings (.host failure)
  | settingsText {path text : String}
      (hconsults : Consults machine.isThere machine.defaultPath? arguments path)
      (hholds : Holds machine.files path text) (hnone : said? text = none) :
      Fails machine arguments .settings (.malformedSettings (machine.complaint text))
  | givenFloor {seconds : Number.Binary64} (hgiven : arguments.minInterval = some seconds)
      (hnone : Duration.ofSeconds? seconds = none) :
      Fails machine arguments .floor (.invalidDuration "min_interval_secs" seconds)
  | loadedFloor {settings : Settings} {seconds : Number.Binary64}
      (hgiven : arguments.minInterval = none)
      (hloads : Loads machine.files machine.isThere machine.defaultPath? arguments settings)
      (hinterval : settings.minInterval = some seconds) (hnone : Duration.ofSeconds? seconds = none) :
      Fails machine arguments .floor (.invalidDuration "min_interval_secs" seconds)

/-- A stage that fails when all stages before it have succeeded. -/
def FailsFirst (machine : Machine σ) (arguments : Arguments) (stage : Stage) (error : Error) : Prop :=
  Fails machine arguments stage error ∧
    ∀ earlier other, earlier.rank < stage.rank → ¬ Fails machine arguments earlier other

variable {machine : Machine σ} {arguments : Arguments} {error : Error}

/-- Where a stage fails, one is the first. -/
theorem exists_failsFirst {stage : Stage} (h : Fails machine arguments stage error) :
    ∃ first error, FailsFirst machine arguments first error := by
  induction hrank : stage.rank using Nat.strong_induction_on generalizing stage error with
  | _ rank ih =>
    by_cases hearlier : ∃ earlier other, earlier.rank < stage.rank ∧
        Fails machine arguments earlier other
    · obtain ⟨earlier, other, hless, hfails⟩ := hearlier
      exact ih earlier.rank (hrank ▸ hless) hfails rfl
    · exact ⟨stage, error, h, fun earlier other hless hfails ↦
        hearlier ⟨earlier, other, hless, hfails⟩⟩

/-! ## What each stage comes to -/

theorem durationOf_of_none {seconds : Number.Binary64} (h : Duration.ofSeconds? seconds = none)
    (name : String) : durationOf name seconds = .error (.invalidDuration name seconds) := by
  rw [durationOf, h]

theorem exists_durationOf (name : String) {seconds : Number.Binary64}
    (h : Duration.ofSeconds? seconds ≠ none) : ∃ duration, durationOf name seconds = .ok duration := by
  obtain ⟨duration, hduration⟩ := Option.ne_none_iff_exists'.1 h
  exact ⟨duration, by rw [durationOf, hduration]⟩

theorem loadTemplates_of_fails
    (h : Fails machine arguments .templateFile error ∨ Fails machine arguments .templates error) :
    loadTemplates machine.files arguments = .error error := by
  rcases h with h | h
  · cases h with
    | templateFile hfile hunreadable => exact loadTemplates_of_unreadable hfile hunreadable
  · cases h with
    | templates hnothing => rw [loadTemplates_of_offers hnothing, if_pos rfl]

/-- Templates that are offered are loaded. -/
theorem exists_loadTemplates (hfile : ∀ error, ¬ Fails machine arguments .templateFile error)
    (hsome : ∀ error, ¬ Fails machine arguments .templates error) :
    ∃ templates, Offers machine.files arguments templates ∧
      loadTemplates machine.files arguments = .ok templates := by
  have hoffers : ∃ templates, Offers machine.files arguments templates := by
    cases hpath : arguments.file with
    | none => exact ⟨_, .given hpath⟩
    | some path =>
      rcases holds_or_unreadable machine.files path with ⟨text, hholds⟩ | ⟨failure, hunreadable⟩
      · exact ⟨_, .listed hpath hholds⟩
      · exact absurd (.templateFile hpath hunreadable) (hfile _)
  obtain ⟨templates, hoffers⟩ := hoffers
  have hne : templates ≠ [] := by
    rintro rfl
    exact hsome _ (.templates hoffers)
  exact ⟨templates, hoffers, by rw [loadTemplates_of_offers hoffers, if_neg hne]⟩

theorem runDuration_of_fails (h : Fails machine arguments .duration error) :
    runDuration arguments = .error error := by
  cases h with
  | duration hgiven hnone =>
    rw [runDuration, hgiven]
    show (durationOf _ _).map some = _
    rw [durationOf_of_none hnone]
    rfl

theorem exists_runDuration (h : ∀ error, ¬ Fails machine arguments .duration error) :
    ∃ duration?, runDuration arguments = .ok duration? := by
  cases hgiven : arguments.duration with
  | none => exact ⟨none, by rw [runDuration, hgiven]⟩
  | some seconds =>
    obtain ⟨duration, hduration⟩ :=
      exists_durationOf "duration" fun hnone ↦ h _ (.duration hgiven hnone)
    exact ⟨some duration, by rw [runDuration, hgiven]; simp only [hduration]; rfl⟩

theorem loadSettings_of_fails (h : Fails machine arguments .settings error) :
    loadSettings machine.files machine.isThere machine.complaint arguments.config
      machine.defaultPath? = .error error := by
  cases h with
  | settingsFile hconsults hunreadable =>
    rw [loadSettings_of_consults hconsults, textOf_of_unreadable hunreadable]
    rfl
  | settingsText hconsults hholds hnone =>
    rw [loadSettings_of_consults hconsults, textOf_of_holds hholds]
    show settingsOf _ _ = _
    rw [settingsOf, hnone]

theorem exists_loads (h : ∀ error, ¬ Fails machine arguments .settings error) :
    ∃ settings, Loads machine.files machine.isThere machine.defaultPath? arguments settings := by
  by_cases hconsults : ∃ path, Consults machine.isThere machine.defaultPath? arguments path
  · obtain ⟨path, hconsults⟩ := hconsults
    rcases holds_or_unreadable machine.files path with ⟨text, hholds⟩ | ⟨failure, hunreadable⟩
    · cases hsaid : said? text with
      | none => exact absurd (.settingsText hconsults hholds hsaid) (h _)
      | some settings => exact ⟨settings, .said hconsults hholds hsaid⟩
    · exact absurd (.settingsFile hconsults hunreadable) (h _)
  · exact ⟨{}, .nothing fun path hpath ↦ hconsults ⟨path, hpath⟩⟩

section Floor

variable {settings : Settings}
  (hloads : Loads machine.files machine.isThere machine.defaultPath? arguments settings)
include hloads

theorem floor_of_fails (h : Fails machine arguments .floor error) :
    (settings.withArguments arguments).floor = .error error := by
  cases h with
  | givenFloor hgiven hnone =>
    simp only [Settings.floor, Settings.withArguments, hgiven, Option.some_or]
    exact durationOf_of_none hnone _
  | loadedFloor hgiven hother hinterval hnone =>
    obtain rfl := hother.eq hloads
    simp only [Settings.floor, Settings.withArguments, hgiven, Option.none_or, hinterval]
    exact durationOf_of_none hnone _

theorem exists_floor (h : ∀ error, ¬ Fails machine arguments .floor error) :
    ∃ floor, (settings.withArguments arguments).floor = .ok floor := by
  simp only [Settings.floor, Settings.withArguments]
  cases hgiven : arguments.minInterval with
  | some seconds => exact exists_durationOf _ fun hnone ↦ h _ (.givenFloor hgiven hnone)
  | none =>
    cases hinterval : settings.minInterval with
    | none => exact ⟨_, rfl⟩
    | some seconds =>
      exact exists_durationOf _ fun hnone ↦ h _ (.loadedFloor hgiven hloads hinterval hnone)

end Floor

/-! ## Preparation -/

theorem prepare_of_failsFirst {stage : Stage} (h : FailsFirst machine arguments stage error) :
    prepare machine arguments = .error error := by
  obtain ⟨hfails, hearlier⟩ := h
  have htemplates (hlate : 1 < stage.rank) :
      ∃ templates, loadTemplates machine.files arguments = .ok templates := by
    obtain ⟨templates, -, htemplates⟩ := exists_loadTemplates
      (fun other ↦ hearlier .templateFile other (Nat.zero_lt_of_lt hlate))
      (fun other ↦ hearlier .templates other hlate)
    exact ⟨templates, htemplates⟩
  have hduration (hlate : 2 < stage.rank) : ∃ duration?, runDuration arguments = .ok duration? :=
    exists_runDuration fun other ↦ hearlier .duration other hlate
  cases stage with
  | templateFile =>
    rw [prepare, loadTemplates_of_fails (.inl hfails)]
    rfl
  | templates =>
    rw [prepare, loadTemplates_of_fails (.inr hfails)]
    rfl
  | duration =>
    obtain ⟨templates, htemplates⟩ := htemplates (by decide)
    rw [prepare, htemplates, runDuration_of_fails hfails]
    rfl
  | settings =>
    obtain ⟨templates, htemplates⟩ := htemplates (by decide)
    obtain ⟨duration?, hduration⟩ := hduration (by decide)
    rw [prepare, htemplates, hduration, loadSettings_of_fails hfails]
    rfl
  | floor =>
    obtain ⟨templates, htemplates⟩ := htemplates (by decide)
    obtain ⟨duration?, hduration⟩ := hduration (by decide)
    obtain ⟨settings, hloads⟩ := exists_loads fun other ↦ hearlier .settings other (by decide)
    rw [prepare, htemplates, hduration, loadSettings_of_loads hloads]
    show ((settings.withArguments arguments).floor >>= _) = _
    rw [floor_of_fails hloads hfails]
    rfl

/-- When no stage fails, there is a plan, and its templates are those that are offered. -/
theorem exists_prepare (h : ∀ stage error, ¬ Fails machine arguments stage error) :
    ∃ plan, prepare machine arguments = .ok plan ∧
      Offers machine.files arguments plan.templates := by
  obtain ⟨templates, hoffers, htemplates⟩ := exists_loadTemplates (h .templateFile) (h .templates)
  obtain ⟨duration?, hduration⟩ := exists_runDuration (h .duration)
  obtain ⟨settings, hloads⟩ := exists_loads (h .settings)
  obtain ⟨floor, hfloor⟩ := exists_floor hloads (h .floor)
  refine ⟨⟨templates, duration?, .builtin machine.toOutside machine.toSurroundings
    (settings.withArguments arguments).commands, floor⟩, ?_, hoffers⟩
  rw [prepare, htemplates, hduration, loadSettings_of_loads hloads]
  show ((settings.withArguments arguments).floor >>= _) = _
  rw [hfloor]
  rfl

theorem prepare_eq_error_iff :
    prepare machine arguments = .error error ↔ ∃ stage, FailsFirst machine arguments stage error := by
  constructor
  · intro herror
    by_cases hpasses : ∀ stage error, ¬ Fails machine arguments stage error
    · obtain ⟨plan, hplan, -⟩ := exists_prepare hpasses
      rw [hplan] at herror
      contradiction
    · push Not at hpasses
      obtain ⟨stage, other, hfails⟩ := hpasses
      obtain ⟨first, found, hfirst⟩ := exists_failsFirst hfails
      obtain rfl : found = error :=
        Except.error.inj ((prepare_of_failsFirst hfirst).symm.trans herror)
      exact ⟨first, hfirst⟩
  · rintro ⟨stage, hfirst⟩
    exact prepare_of_failsFirst hfirst

/-- What is prepared has a template to show. -/
theorem templates_ne_nil {plan : Plan σ} (h : prepare machine arguments = .ok plan) :
    plan.templates ≠ [] := by
  have hpasses (stage : Stage) (error : Error) : ¬ Fails machine arguments stage error := by
    intro hfails
    obtain ⟨first, found, hfirst⟩ := exists_failsFirst hfails
    rw [prepare_of_failsFirst hfirst] at h
    contradiction
  obtain ⟨same, hsame, hoffers⟩ := exists_prepare hpasses
  obtain rfl : plan = same := Except.ok.inj (h.symm.trans hsame)
  intro hnone
  exact hpasses .templates _ (.templates (hnone ▸ hoffers))

/-! ## Lines -/

theorem exists_call_of_mem_displayAll {terminal : Display.Terminal} {calls : List Display.Call}
    {line : String} (h : some line ∈ terminal.displayAll calls) :
    ∃ call ∈ calls, line = Display.lineOf call.element call.text := by
  induction calls generalizing terminal with
  | nil => exact absurd h List.not_mem_nil
  | cons call rest ih =>
    rcases List.mem_cons.1 h with hfirst | hrest
    · refine ⟨call, List.mem_cons_self, ?_⟩
      rw [Display.Terminal.written?] at hfirst
      split at hfirst
      · contradiction
      · exact Option.some.inj hfirst
    · obtain ⟨later, hlater, hline⟩ := ih hrest
      exact ⟨later, List.mem_cons_of_mem call hlater, hline⟩

/-- Every line shows a text that has been rendered, with the number of its element. -/
theorem exists_rendered_of_line {history : List Refresh.Entry} {line : String}
    (h : line ∈ linesOf history) :
    ∃ time index text source?, ⟨time, .rendered index text source?⟩ ∈ history ∧
      line = Display.lineOf index text := by
  obtain ⟨written, hwritten, rfl⟩ := List.mem_filterMap.1 h
  obtain ⟨call, hcall, hline⟩ := exists_call_of_mem_displayAll hwritten
  obtain ⟨⟨time, event⟩, hentry, hevent⟩ := List.mem_filterMap.1 hcall
  cases event with
  | rendered index text source? =>
    obtain rfl := Option.some.inj hevent
    exact ⟨time, index, text, source?, List.mem_reverse.1 hentry, hline⟩
  | _ => contradiction

/-! ## Runs -/

/-- The states to which a program may come that has installed its templates and does nothing more to
their list. -/
def Plan.Reaches (plan : Plan σ) (machine : Machine σ) (s : State σ) : Prop :=
  Performed (.initial plan.registry plan.floor machine.world)
    ([Operation.setTexts plan.templates].map Deed.whole) s

/-- The states to which a program may come from then on until it has shut down. -/
def Plan.ComesTo (plan : Plan σ) (machine : Machine σ) (t : State σ) : Prop :=
  ∃ s during point, plan.Reaches machine s ∧
    Shutdown.Leads machine.wording s s.shutdown during t point

section

variable {plan : Plan σ}

/-- The program comes to a state where its templates are installed and stays there while time
passes. -/
theorem Plan.reaches_advance (plan : Plan σ) (machine : Machine σ) (milliseconds : Nat) :
    plan.Reaches machine ((plan.start machine).advance milliseconds).state :=
  Clockwork.performed_advance (Performed.nothing.operate _) milliseconds

/-- Whatever is written until the program has shut down shows the template with its number. -/
theorem Plan.ComesTo.attributes {t : State σ} (h : plan.ComesTo machine t) :
    Attributes plan.templates t.history ∧ ∀ line ∈ linesOf t.history,
      ∃ index raw text, plan.templates[index]? = some raw ∧ Refresh.IsFilled raw text ∧
        line = Display.lineOf index text := by
  obtain ⟨s, during, point, hreaches, hleads⟩ := h
  have hattributes := Refresh.attributes_of_leads hreaches hleads
  refine ⟨hattributes, fun line hline ↦ ?_⟩
  obtain ⟨time, index, text, source?, hrendered, rfl⟩ := exists_rendered_of_line hline
  obtain ⟨raw, hraw, hfilled⟩ := hattributes.rendered time index text source? hrendered
  exact ⟨index, raw, text, hraw, hfilled, rfl⟩

/-- A program that has shown its templates ends in such a state, however it ends. -/
theorem Plan.comesTo_of_show? {ending : Ending} (h : plan.show? machine = some ending) :
    ∃ t, plan.ComesTo machine t ∧ ending.history = t.history ∧
      ending.lines = linesOf t.history := by
  obtain ⟨interrupt, -, hends⟩ := Option.bind_eq_some_iff.1 h
  have hreaches := plan.reaches_advance machine interrupt.time
  split at hends
  case h_1 failure hfailed =>
    obtain rfl := Option.some.inj hends
    obtain ⟨kept, hleads⟩ := Shutdown.exists_leads_retiring machine.wording
      ((plan.start machine).advance interrupt.time).state _ []
    exact ⟨_, ⟨_, _, _, hreaches, hleads⟩, rfl, rfl⟩
  case h_2 =>
    obtain ⟨result, hreturned, rfl⟩ := Option.map_eq_some_iff.1 hends
    obtain ⟨during, hleads⟩ := Clockwork.exists_leads_of_shutdown (Prod.ext rfl hreturned)
    cases result <;> exact ⟨_, ⟨_, _, _, hreaches, hleads⟩, rfl, rfl⟩

/-- A program that has got as far as that has installed a template. -/
theorem Plan.ComesTo.history_ne_nil {t : State σ} (h : plan.ComesTo machine t)
    (hsome : plan.templates ≠ []) : t.history ≠ [] := by
  intro hempty
  obtain ⟨first, rest, htemplates⟩ := List.exists_cons_of_ne_nil hsome
  have hinstalled := (h.attributes.1.installed 0 first).2 (by rw [htemplates]; rfl)
  rw [hempty] at hinstalled
  obtain ⟨schedule?, hmem⟩ := hinstalled
  exact List.not_mem_nil hmem

end

/-- If anything fails that has to succeed first, the program ends with the error of the first thing
that fails, with the exit code 1, and has not installed, shown or written anything; and it ends
without having installed anything in no other way. Otherwise the list of texts gets the templates
that are offered, in their order, and whatever the tasks, the workers and the clock do from then on
until the program has shut down, however it ends, every text that is shown and every line that is
written is that of the template with its number, with something in place of each directive. -/
theorem startUp_all_or_nothing {commandLine : List String}
    (hparse : CommandLine.parse machine.withVariables.environment commandLine = .ok arguments) :
    let found := machine.withVariables
    (∀ stage error, FailsFirst found arguments stage error →
      ∃ ending, run machine commandLine = some ending ∧ ending.result = .failed error ∧
        ending.history = [] ∧ ending.lines = [] ∧ ending.code = 1 ∧
        ending.report? = some ("Error: " ++ error.message)) ∧
    (∀ ending, run machine commandLine = some ending → ending.history = [] →
      ∃ stage error, FailsFirst found arguments stage error ∧ ending.result = .failed error) ∧
    ((∀ stage error, ¬ Fails found arguments stage error) →
      ∃ plan, prepare found arguments = .ok plan ∧ Offers found.files arguments plan.templates ∧
        (∀ milliseconds, plan.Reaches found ((plan.start found).advance milliseconds).state) ∧
        (∀ s, plan.Reaches found s → Serves plan.templates s) ∧
        (∀ t, plan.ComesTo found t → Attributes plan.templates t.history ∧
          ∀ line ∈ linesOf t.history, ∃ index raw text, plan.templates[index]? = some raw ∧
            Refresh.IsFilled raw text ∧ line = Display.lineOf index text) ∧
        ∀ ending, run machine commandLine = some ending →
          ∃ t, plan.ComesTo found t ∧ ending.history = t.history ∧
            ending.lines = linesOf t.history) := by
  intro found
  have hshows {plan : Plan σ} (hplan : prepare found arguments = .ok plan) :
      run machine commandLine = plan.show? found := by
    simp only [run, hparse, found, hplan]
  refine ⟨fun stage error hfirst ↦ ?_, fun ending hends hempty ↦ ?_, fun hpasses ↦ ?_⟩
  · have hfailed : run machine commandLine = some ⟨.failed error, []⟩ := by
      simp only [run, hparse, found, prepare_of_failsFirst hfirst]
    exact ⟨_, hfailed, rfl, rfl, rfl, rfl, rfl⟩
  · cases hprepare : prepare found arguments with
    | error error =>
      have hfailed : run machine commandLine = some ⟨.failed error, []⟩ := by
        simp only [run, hparse, found, hprepare]
      obtain rfl := Option.some.inj (hfailed.symm.trans hends)
      obtain ⟨stage, hfirst⟩ := prepare_eq_error_iff.1 hprepare
      exact ⟨stage, error, hfirst, rfl⟩
    | ok plan =>
      obtain ⟨t, hcomes, hhistory, -⟩ := Plan.comesTo_of_show? ((hshows hprepare).symm.trans hends)
      exact absurd (hhistory.symm.trans hempty) (hcomes.history_ne_nil (templates_ne_nil hprepare))
  · obtain ⟨plan, hplan, hoffers⟩ := exists_prepare hpasses
    exact ⟨plan, hplan, hoffers, plan.reaches_advance found,
      fun s hreaches ↦ Refresh.serves_of_performed hreaches, fun t hcomes ↦ hcomes.attributes,
      fun ending hends ↦ Plan.comesTo_of_show? ((hshows hplan).symm.trans hends)⟩

/-- A machine without variables, on which the only file is one of templates. Its clock stands still,
and its programs write nothing. -/
def machineWith (text : String) : Machine Unit where
  environment := fun _ ↦ none
  homeIn := fun _ ↦ none
  isProgram := fun _ ↦ false
  moment := fun _ ↦ ⟨0, 0, .universal⟩
  start := fun _ _ world ↦ (.ok ⟨[], []⟩, world)
  world := ()
  drift := fun _ world ↦ world
  files := fun path ↦ if path = "templates.txt" then .ok (Text.encode text) else .error .notFound
  isThere := (· = "templates.txt")
  withFiles := id
  configDirectoryIn := fun _ ↦ none
  complaint := fun _ ↦ "expected value at line 1 column 1"
  wording := fun _ ↦ "panicked"
  interrupt? := none

theorem holds_machineWith (text : String) : Holds (machineWith text).files "templates.txt" text :=
  ⟨_, rfl, Text.decode?_encode text⟩

/-- The template file, a settings file that does not exist, and a time to run that is no number. -/
def mistaken : Arguments :=
  { file := some "templates.txt", config := some "none.json", duration := some .nan }

/-- If the template file is blank, that is what counts. -/
theorem blank_failsFirst :
    FailsFirst (machineWith "\n \r\n") mistaken .templates .noTemplates := by
  constructor
  · have hoffers : Offers (machineWith "\n \r\n").files mistaken _ :=
      .listed rfl (holds_machineWith _)
    exact .templates hoffers
  · intro earlier other hless hfails
    cases hfails with
    | templateFile hfile hunreadable =>
      obtain rfl := Option.some.inj hfile
      exact (holds_machineWith _).not_unreadable hunreadable
    | _ => contradiction

/-- A template, and the template file, for no time at all. -/
def faultless : Arguments :=
  { templates := ["given"], file := some "templates.txt", duration := some (.zero false) }

theorem eq_of_offers_faultless {text : String} {templates : List String}
    (h : Offers (machineWith text).files faultless templates) :
    templates = "given" :: templateLines text := by
  cases h with
  | given hfile => contradiction
  | listed hfile hholds =>
    obtain rfl := Option.some.inj hfile
    obtain rfl := hholds.eq (holds_machineWith text)
    rfl

/-- With a template on the command line and a file that is there nothing fails. -/
theorem faultless_passes (text : String) (stage : Stage) (error : Error) :
    ¬ Fails (machineWith text) faultless stage error := by
  have hconsults (path : String) : ¬ Consults (machineWith text).isThere none faultless path := by
    rintro (hconfig | ⟨-, hdefault, -⟩) <;> contradiction
  intro hfails
  cases hfails with
  | templateFile hfile hunreadable =>
    obtain rfl := Option.some.inj hfile
    exact (holds_machineWith _).not_unreadable hunreadable
  | templates hnothing => simpa using eq_of_offers_faultless hnothing
  | duration hgiven hnone =>
    obtain rfl := Option.some.inj hgiven
    revert hnone
    decide +kernel
  | settingsFile hpath => exact hconsults _ hpath
  | settingsText hpath => exact hconsults _ hpath
  | givenFloor hgiven => contradiction
  | loadedFloor _ hloads hinterval =>
    cases hloads with
    | said hpath => exact hconsults _ hpath
    | nothing => contradiction

/-- With a blank template file the program complains about the templates, and not about the duration
or the settings file. A file with two templates takes the positions behind the one of the command
line, and what is written until the program ends has their numbers. -/
theorem startUp_of_machines :
    let blank := machineWith "\n \r\n"
    let listing := machineWith "\r\n  second\nthird"
    let mistakenLine := ["livetext", "-f", "templates.txt", "--duration=nan", "-c", "none.json"]
    let faultlessLine := ["livetext", "given", "-f", "templates.txt", "--duration=0"]
    (∃ ending, run blank mistakenLine = some ending ∧ ending.result = .failed .noTemplates ∧
      ending.lines = []) ∧
      ∃ ending, run listing faultlessLine = some ending ∧ ending.code = 0 ∧
        ending.lines = ["[0] given\n", "[1]   second\n", "[2] third\n"] ∧
        Attributes ["given", "  second", "third"] ending.history := by
  intro blank listing mistakenLine faultlessLine
  have hmistaken :
      CommandLine.parse blank.withVariables.environment mistakenLine = .ok mistaken := by
    with_unfolding_all rfl
  have hfaultless :
      CommandLine.parse listing.withVariables.environment faultlessLine = .ok faultless := by
    with_unfolding_all rfl
  obtain ⟨hfirst, -⟩ := startUp_all_or_nothing hmistaken
  obtain ⟨-, -, hstarts⟩ := startUp_all_or_nothing hfaultless
  obtain ⟨failed, hfailed, hresult, -, hsilent, -⟩ := hfirst _ _ blank_failsFirst
  obtain ⟨plan, -, hoffers, -, -, hcomes, hends⟩ := hstarts (faultless_passes _)
  have hended : (run listing faultlessLine).map (fun ending ↦ (ending.code, ending.lines)) =
      some (0, ["[0] given\n", "[1]   second\n", "[2] third\n"]) := by
    decide +kernel
  obtain ⟨ending, hending, hwritten⟩ := Option.map_eq_some_iff.1 hended
  obtain ⟨hcode, hlines⟩ := Prod.mk.inj hwritten
  obtain ⟨t, ht, hhistory, -⟩ := hends ending hending
  have htemplates : plan.templates = ["given", "  second", "third"] := by
    rw [eq_of_offers_faultless hoffers]
    decide +kernel
  refine ⟨⟨failed, hfailed, hresult, hsilent⟩, ending, hending, hcode, hlines, ?_⟩
  rw [hhistory, ← htemplates]
  exact (hcomes t ht).1

end LiveTemplate.Program
