import SearchQuery.CommandLine.Invocation
import SearchQuery.Proofs.BackendNames
import SearchQuery.Proofs.LogFiles
import SearchQuery.Proofs.LogRuns
import SearchQuery.Proofs.Outcomes

/-!
# What commands report

A command under accepted settings ends as the reading of its text does. On an accepted text it ends
normally, and only then anything is printed; a rejected text is the last record, the only error, and
ends the command early. The log file takes all records, the console those from the level of the
settings on, and neither of them has an influence on what is printed.
-/

namespace SearchQuery

open Log

namespace Command

/-- Records that are written while all goes well. -/
def Routine (records : List Record) : Prop :=
  ∀ r ∈ records, r.level = Level.debug ∨ r.level = Level.info

variable {text : Text} {q : Query} {e : QueryError}

theorem routine_single (message : Text) : Routine [⟨Level.debug, message⟩] := by
  intro r hr
  rw [List.mem_singleton.1 hr]
  exact .inl rfl

/-- What reading a text and reporting it comes to. -/
theorem parse_of_ok (h : Query.parse text = .ok q) :
    (parse text).result = .ok q ∧ Routine (parse text).records := by
  obtain ⟨cs, hcs, rfl⟩ := Query.exists_grouped_of_parse h
  have hlines := Report.oneLine_linesOf (Grammar.wellFormed_of_clauses hcs)
  rw [parse_of_read (read_of_clauses hcs) (Report.report_grouped cs) hlines]
  refine ⟨rfl, ?_⟩
  intro r hr
  rcases List.mem_append.1 hr with hr | hr
  · exact routine_single _ r hr
  · rcases List.mem_cons.1 hr with rfl | hr
    · exact .inr rfl
    · obtain ⟨line, -, rfl⟩ := List.mem_map.1 hr
      exact .inr rfl

theorem parse_of_error (h : Query.parse text = .error e) :
    (parse text).result = .error e ∧ Routine (parse text).records := by
  obtain ⟨r, hr, rfl⟩ := Query.parse_eq_error.1 h
  rw [parse_of_failed (read_of_rejected hr)]
  exact ⟨rfl, routine_single _⟩

theorem routine_parse (text : Text) : Routine (parse text).records := by
  cases h : Query.parse text with
  | ok q => exact (parse_of_ok h).2
  | error e => exact (parse_of_error h).2

/-- What reading a text and compiling it comes to. -/
theorem compile_of_ok (h : Query.parse text = .ok q) (backend : Backend) :
    ∃ body, backend.compile q = .ok body ∧ (compile text backend).result = .ok body ∧
      Routine (compile text backend).records := by
  obtain ⟨cs, hcs, rfl⟩ := Query.exists_grouped_of_parse h
  obtain ⟨body, hbody⟩ := Query.exists_compile_grouped cs backend
  rw [compile_of_read (read_of_clauses hcs) hbody]
  refine ⟨body, hbody, rfl, ?_⟩
  intro r hr
  rcases List.mem_append.1 hr with hr | hr
  · exact routine_single _ r hr
  · exact routine_single _ r hr

theorem compile_of_error (h : Query.parse text = .error e) (backend : Backend) :
    (compile text backend).result = .error e ∧ Routine (compile text backend).records := by
  obtain ⟨r, hr, rfl⟩ := Query.parse_eq_error.1 h
  rw [compile_of_failed (read_of_rejected hr)]
  exact ⟨rfl, routine_single _⟩

theorem routine_compile (text : Text) (backend : Backend) :
    Routine (compile text backend).records := by
  cases h : Query.parse text with
  | ok q =>
    obtain ⟨-, -, -, hroutine⟩ := compile_of_ok h backend
    exact hroutine
  | error e => exact (compile_of_error h backend).2

end Command

namespace CommandLine

open Command

/-- The directory of each command's log file can be made, if log files are written at all, and the
file has a place in it. -/
def LogHasRoom (stamp : Stamp) (log : LogSettings) (files : FileTree) : Prop :=
  log.toFile = true → ∀ action ∈ [parseAction, compileAction],
    (setupFor log action).HasRoom stamp action files

theorem isName_of_mem {action : Text} (h : action ∈ [parseAction, compileAction]) :
    Setup.IsName action ∧ action ≠ [] := by
  have hall : ∀ action ∈ [parseAction, compileAction],
      '/' ∉ action ∧ '\x00' ∉ action ∧ action.toUtf8.length ≤ 240 ∧ action ≠ [] := by
    decide +kernel
  obtain ⟨hslash, hnull, hlength, hne⟩ := hall action h
  exact ⟨⟨hslash, hnull, hlength⟩, hne⟩

section

variable {log : LogSettings} {action : Text}

/-- A level that may be set is one of those with a name, and it is not unset. -/
theorem setupFor_level (h : log.level ∈ LogSettings.levels) (action : Text) :
    (setupFor log action).NamesLevel ∧
    Level.named log.level = .ok (setupFor log action).consoleLevel ∧
    (setupFor log action).consoleLevel ≠ Level.unset := by
  have hall : ∀ t ∈ LogSettings.levels, t ≠ "BASIC_FORMAT" ∧ t ≠ "_STYLES" ∧
      (Level.known.lookup t).getD Level.info ≠ Level.unset := by
    decide +kernel
  obtain ⟨hlayout, htable, hset⟩ := hall log.level h
  have hupper : log.level.upper = log.level := Settings.upper_of_mem_levels h
  have hconsole : (setupFor log action).consoleLevel =
      (Level.known.lookup log.level).getD Level.info := by
    rw [Setup.consoleLevel, setupFor, hupper]
  refine ⟨?_, ?_, ?_⟩
  · rw [Setup.NamesLevel, setupFor, hupper]
    exact ⟨hlayout, htable⟩
  · rw [hconsole, Level.named, if_neg hlayout, if_neg htable]
  · rw [hconsole]
    exact hset

theorem fileAction?_setupFor (log : LogSettings) (h : action ≠ []) :
    (setupFor log action).fileAction? = if log.toFile then some action else none := by
  rw [Setup.fileAction?, setupFor]
  cases log.toFile with
  | false => rfl
  | true => simp [h]

end

/-! ## The log of a command -/

/-- The log of a run: the console shows the records from the level of the settings on. The file, if
there is one, takes all records behind what it held, and no other file changes. -/
structure Tells (clock : Clock) (log : LogSettings) (action : Text) (files : FileTree)
    (records : List Record) (shown : Text) (after : FileTree) : Prop where
  console : ∃ level, Level.named log.level = .ok level ∧
    shown = ((stamped clock records).filter fun e => level ≤ e.2.level).flatMap fun e =>
      e.2.line e.1
  file : log.toFile = true →
    after.files.lookup ((setupFor log action).file (clock 0) action).place =
      some ((files.files.lookup ((setupFor log action).file (clock 0) action).place).getD [] ++
        (stamped clock records).flatMap fun e => (e.2.line e.1).toUtf8)
  others : ∀ q, (log.toFile = true → q ≠ ((setupFor log action).file (clock 0) action).place) →
    after.files.lookup q = files.files.lookup q

theorem mem_of_mem_stamped {clock : Clock} {records : List Record} {e : Stamp × Record}
    (h : e ∈ stamped clock records) : e.2 ∈ records := by
  obtain ⟨n, hn, rfl⟩ := List.mem_mapIdx.1 h
  exact List.getElem_mem hn

theorem flatMap_shown {s : Setup} (h : s.consoleLevel ≠ Level.unset)
    (records : List (Stamp × Record)) :
    records.flatMap (fun e => s.shown e.1 e.2) =
      (records.filter fun e => s.consoleLevel ≤ e.2.level).flatMap fun e => e.2.line e.1 := by
  induction records with
  | nil => rfl
  | cons e rest ih =>
    rw [List.flatMap_cons, ih, Setup.shown, Setup.shownFrom, if_neg h]
    by_cases he : s.consoleLevel ≤ e.2.level
    · rw [if_pos he, List.filter_cons_of_pos (by simpa using he), List.flatMap_cons]
    · rw [if_neg he, List.filter_cons_of_neg (by simpa using he), List.nil_append]

theorem kept_of_debug_le {s : Setup} (h : s.consoleLevel ≠ Level.unset)
    {records : List (Stamp × Record)} (hrecords : ∀ e ∈ records, Level.debug ≤ e.2.level) :
    s.kept records = records.flatMap fun e => (e.2.line e.1).toUtf8 := by
  have hall : records.filter (fun e => s.handledFrom ≤ e.2.level) = records := by
    rw [List.filter_eq_self]
    intro e he
    rw [Setup.handledFrom, if_neg h]
    exact decide_eq_true (hrecords e he)
  rw [Setup.kept, hall]

section

variable {clock : Clock} {seconds : Nat → Int} {log : LogSettings} {settings : Settings}
  {files : FileTree} {action : Text}

/-- The log is set up. The place of its file, if there is one, holds what it held before. -/
theorem exists_configure (hlevel : log.level ∈ LogSettings.levels)
    (haction : action ∈ [parseAction, compileAction])
    (hroom : LogHasRoom (.ofSeconds (seconds 0)) log files) :
    ∃ place? opened,
      Station.configure (Clock.ofSeconds seconds 0) (setupFor log action) (.initial files) =
        (.ok (), ⟨(setupFor log action).logger place?, opened⟩) ∧
      place? = (if log.toFile then
        some ((setupFor log action).file (Clock.ofSeconds seconds 0) action).place else none) ∧
      ∀ q, opened.files.lookup q =
        if place? = some q then some ((files.files.lookup q).getD [])
        else files.files.lookup q := by
  obtain ⟨hname, hne⟩ := isName_of_mem haction
  rw [Station.configure_eq (setupFor_level hlevel action).1, fileAction?_setupFor log hne]
  cases hfile : log.toFile with
  | false => exact ⟨none, files, rfl, rfl, fun q => rfl⟩
  | true =>
    obtain ⟨opened, hopen, hcontent⟩ := Setup.exists_openFile hname (hroom hfile action haction)
    obtain ⟨-, -, hothers⟩ := Station.openFile_eq_ok hopen
    refine ⟨some ((setupFor log action).file (Clock.ofSeconds seconds 0) action).place, opened,
      ?_, rfl, ?_⟩
    · rw [if_pos rfl]
      dsimp only [Station.initial, Clock.ofSeconds]
      rw [hopen]
    · intro q
      by_cases hq : some ((setupFor log action).file (Clock.ofSeconds seconds 0) action).place =
          some q
      · rw [if_pos hq, ← Option.some.inj hq]
        exact hcontent
      · rw [if_neg hq]
        exact hothers q fun heq => hq (congrArg some heq.symm)

theorem debug_le_of_mem_recordsOf {α : Type} {run : Logged Text α} (h : Routine run.records)
    (failure : Text) : ∀ r ∈ recordsOf failure run, Level.debug ≤ r.level := by
  have hroutine : ∀ r ∈ run.records, Level.debug ≤ r.level := by
    intro r hr
    rcases h r hr with hlevel | hlevel
    · exact Int.le_of_eq hlevel.symm
    · rw [hlevel]
      decide
  rw [recordsOf]
  cases run.result with
  | ok a => exact hroutine
  | error message =>
    intro r hr
    rcases List.mem_append.1 hr with hr | hr
    · exact hroutine r hr
    · rw [List.mem_singleton.1 hr]
      exact (by decide : Level.debug ≤ Level.error)

/-- A command runs its computation under the log, which tells of it. -/
theorem runLogged_tells {α : Type} {run : Logged Text α} (hroutine : Routine run.records)
    (hlevel : settings.log.level ∈ LogSettings.levels)
    (haction : action ∈ [parseAction, compileAction])
    (hroom : LogHasRoom (.ofSeconds (seconds 0)) settings.log files) (failure : Text)
    (print : α → Text) :
    ∃ shown after, Tells (.ofSeconds seconds) settings.log action files (recordsOf failure run)
        shown after ∧
      runLogged (.ofSeconds seconds) settings files action failure print run =
        (.ok (match run.result with
          | .ok a => ⟨false, print a, shown⟩
          | .error _ => ⟨true, [], shown⟩), after) := by
  obtain ⟨place?, opened, hconfigure, hplace, hopened⟩ := exists_configure hlevel haction hroom
  obtain ⟨-, hconsole, hset⟩ := setupFor_level hlevel action
  have hrecords : ∀ e ∈ stamped (.ofSeconds seconds) (recordsOf failure run),
      Level.debug ≤ e.2.level := fun e he =>
    debug_le_of_mem_recordsOf hroutine failure e.2 (mem_of_mem_stamped he)
  obtain ⟨hshown, hfiles⟩ := Station.emitAll_logger
    ⟨(setupFor settings.log action).logger place?, opened⟩ rfl
    (stamped (.ofSeconds seconds) (recordsOf failure run))
  rw [flatMap_shown hset] at hshown
  rw [kept_of_debug_le hset hrecords] at hfiles
  refine ⟨_, (Station.emitAll ⟨(setupFor settings.log action).logger place?, opened⟩
    (stamped (.ofSeconds seconds) (recordsOf failure run))).2.files,
    ⟨⟨_, hconsole, hshown⟩, ?_, ?_⟩, ?_⟩
  · intro hfile
    rw [if_pos hfile] at hplace
    rw [hfiles, hopened, if_pos hplace, if_pos hplace]
    rfl
  · intro q hq
    have hother : place? ≠ some q := by
      rw [hplace]
      split
      case isTrue hfile => exact fun h => hq hfile (Option.some.inj h).symm
      case isFalse => exact nofun
    rw [hfiles, hopened, if_neg hother, if_neg hother]
    simp
  · rw [runLogged, hconfigure]
    cases run.result <;> rfl

end

/-! ## How a command ends -/

/-- A command ends as the reading of its text does. `printed` says what is printed for a query, and
`records` are those that are written while all goes well. -/
structure EndsAsRead (clock : Clock) (log : LogSettings) (action failure text : Text)
    (files : FileTree) (printed : Query → Text → Prop) (records : List Record) (o : Outcome) :
    Prop where
  normally : o.ending = .exit 0 ↔ ∃ q, Query.parse text = .ok q
  routine : Routine records
  accepted : ∀ q, Query.parse text = .ok q →
    printed q o.output ∧ Tells clock log action files records o.errors o.files
  rejected : ∀ e, Query.parse text = .error e →
    o.ending = .exit 1 ∧ o.output = [] ∧ ∃ shown, o.errors = shown ++ "Aborted!\n" ∧
      Tells clock log action files
        (records ++ [⟨Level.error, failure ++ ": " ++ e.message⟩]) shown o.files

section

variable {seconds : Nat → Int} {settings : Settings} {files : FileTree}
  {action failure text : Text}

theorem endsAsRead_runLogged {α : Type} (run : Logged Text α) {print : α → Text}
    {printed : Query → Text → Prop} (hlevel : settings.log.level ∈ LogSettings.levels)
    (haction : action ∈ [parseAction, compileAction])
    (hroom : LogHasRoom (.ofSeconds (seconds 0)) settings.log files) (hroutine : Routine run.records)
    (hok : ∀ q, Query.parse text = .ok q → ∃ a, run.result = .ok a ∧ printed q (print a))
    (herror : ∀ e, Query.parse text = .error e → run.result = .error e.message) :
    EndsAsRead (.ofSeconds seconds) settings.log action failure text files printed run.records
      (.ofCompleted
        (runLogged (.ofSeconds seconds) settings files action failure print run)) := by
  obtain ⟨shown, after, htells, hrun⟩ :=
    runLogged_tells hroutine hlevel haction hroom failure print
  rw [hrun]
  cases hparse : Query.parse text with
  | ok q =>
    obtain ⟨a, ha, hprinted⟩ := hok q hparse
    rw [recordsOf, ha] at htells
    rw [ha]
    exact {
      normally := iff_of_true rfl ⟨q, hparse⟩
      routine := hroutine
      accepted := by
        intro q' hq'
        cases hparse.symm.trans hq'
        exact ⟨hprinted, htells⟩
      rejected := fun e he => by cases hparse.symm.trans he }
  | error e =>
    have he := herror e hparse
    rw [recordsOf, he] at htells
    rw [he]
    exact {
      normally := iff_of_false nofun (by rw [hparse]; exact nofun)
      routine := hroutine
      accepted := fun q hq => by cases hparse.symm.trans hq
      rejected := by
        intro e' he'
        cases hparse.symm.trans he'
        exact ⟨rfl, rfl, shown, rfl, htells⟩ }

/-- Two outcomes with the same end, and the same on the standard output. -/
structure Outcome.Agrees (o o' : Outcome) : Prop where
  ending : o.ending = o'.ending
  output : o.output = o'.output

/-- Neither the log nor the files have an influence on the end and on what is printed. -/
theorem EndsAsRead.agrees {clock clock' : Clock} {log log' : LogSettings} {action action' : Text}
    {failure failure' : Text} {files files' : FileTree} {printed : Query → Text → Prop}
    {records records' : List Record} {o o' : Outcome}
    (hprinted : ∀ q a b, printed q a → printed q b → a = b)
    (h : EndsAsRead clock log action failure text files printed records o)
    (h' : EndsAsRead clock' log' action' failure' text files' printed records' o') :
    o.Agrees o' := by
  cases hparse : Query.parse text with
  | ok q =>
    refine ⟨?_, hprinted q _ _ (h.accepted q hparse).1 (h'.accepted q hparse).1⟩
    rw [h.normally.2 ⟨q, hparse⟩, h'.normally.2 ⟨q, hparse⟩]
  | error e =>
    obtain ⟨hending, houtput, -⟩ := h.rejected e hparse
    obtain ⟨hending', houtput', -⟩ := h'.rejected e hparse
    exact ⟨hending.trans hending'.symm, houtput.trans houtput'.symm⟩

end

/-- What is printed for a query by a backend: its body and the end of a line, and nothing else. -/
def PrintedBy (backend : Backend) (q : Query) (output : Text) : Prop :=
  ∃ body, backend.compile q = .ok body ∧ output = Json.render body ++ ['\n']

theorem printedBy_unique {backend : Backend} (q : Query) (a b : Text)
    (ha : PrintedBy backend q a) (hb : PrintedBy backend q b) : a = b := by
  obtain ⟨body, hbody, rfl⟩ := ha
  obtain ⟨body', hbody', rfl⟩ := hb
  cases hbody.symm.trans hbody'
  rfl

section

variable {seconds : Nat → Int} {settings : Settings} {files : FileTree} {name : Option Text}

/-- The backend is the one with the given name, if there is one, otherwise that of the settings. -/
theorem exists_createBackend (h : settings.Normal)
    (hname : ∀ n, name = some n → n ∈ BackendKind.names) :
    ∃ backend, settings.createBackend name = .ok backend ∧
      backend.name = name.getD settings.backend.name ∧
      ∀ field, backend.field? = some field → field = settings.backend.field := by
  have hchosen : name.getD settings.backend.name ∈ BackendKind.names := by
    cases name with
    | none => exact h.name
    | some n => exact hname n rfl
  have hcreate : settings.createBackend name =
      Backend.build (name.getD settings.backend.name) (some settings.backend.field) := by
    cases name with
    | none => rfl
    | some n =>
      have hne : n ≠ [] := by
        intro hnil
        exact absurd (hnil ▸ hname n rfl) (by decide)
      exact Settings.createBackend_of_ne_nil hne
  obtain ⟨backend, hbackend, hserves⟩ :=
    Backend.exists_build_of_mem hchosen (some settings.backend.field)
  refine ⟨backend, hcreate.trans hbackend, hserves.name, ?_⟩
  intro field hfield
  cases backend with
  | neutral => cases hfield
  | elasticsearch => exact Option.some.inj (hfield.symm.trans (hserves.field rfl))

theorem endsAsRead_runParse (h : settings.Normal)
    (hroom : LogHasRoom (.ofSeconds (seconds 0)) settings.log files) (text : Text) :
    EndsAsRead (.ofSeconds seconds) settings.log parseAction "Parse failed" text files
      (fun _ output => output = []) (Command.parse text).records
      (.ofCompleted (runParse (.ofSeconds seconds) settings files text)) := by
  refine endsAsRead_runLogged (withMessages QueryError.message (Command.parse text))
    (Settings.mem_levels_iff.2 h.level) (by simp) hroom (routine_parse text) ?_ ?_
  · intro q hq
    exact ⟨q, by rw [withMessages, (parse_of_ok hq).1]; rfl, rfl⟩
  · intro e he
    rw [withMessages, (parse_of_error he).1]
    rfl

theorem endsAsRead_runCompile (h : settings.Normal) {backend : Backend}
    (hbackend : settings.createBackend name = .ok backend)
    (hroom : LogHasRoom (.ofSeconds (seconds 0)) settings.log files) (text : Text) :
    EndsAsRead (.ofSeconds seconds) settings.log compileAction "Compile failed" text files
      (PrintedBy backend) (Command.compile text backend).records
      (.ofCompleted (runCompile (.ofSeconds seconds) settings files text name)) := by
  rw [runCompile, hbackend]
  refine endsAsRead_runLogged (withMessages QueryError.message (Command.compile text backend))
    (Settings.mem_levels_iff.2 h.level) (by simp) hroom (routine_compile text backend) ?_ ?_
  · intro q hq
    obtain ⟨body, hbody, hresult, -⟩ := compile_of_ok hq backend
    exact ⟨body, by rw [withMessages, hresult]; rfl, body, hbody, rfl⟩
  · intro e he
    rw [withMessages, (compile_of_error he backend).1]
    rfl

end

/-- Both commands end as the reading of their text does, under all accepted settings and with any
backend that has a name. Other settings of the log, other moments and other files change neither
the end nor what is printed. -/
theorem commands_end_as_read {root : Entries} {settings : Settings}
    (h : Settings.ofEntries root = .ok settings) (name : Option Text)
    (hname : ∀ n, name = some n → n ∈ BackendKind.names) {seconds : Nat → Int} {files : FileTree}
    (hroom : LogHasRoom (.ofSeconds (seconds 0)) settings.log files) (text : Text) :
    (∃ backend, settings.createBackend name = .ok backend ∧
      backend.name = name.getD settings.backend.name ∧
      (∀ field, backend.field? = some field → field = settings.backend.field) ∧
      EndsAsRead (.ofSeconds seconds) settings.log compileAction "Compile failed" text files
        (PrintedBy backend) (Command.compile text backend).records
        (.ofCompleted (runCompile (.ofSeconds seconds) settings files text name))) ∧
    EndsAsRead (.ofSeconds seconds) settings.log parseAction "Parse failed" text files
      (fun _ output => output = []) (Command.parse text).records
      (.ofCompleted (runParse (.ofSeconds seconds) settings files text)) ∧
    ∀ root' settings' (seconds' : Nat → Int) files', Settings.ofEntries root' = .ok settings' →
      settings'.backend = settings.backend →
      LogHasRoom (.ofSeconds (seconds' 0)) settings'.log files' →
      (Outcome.ofCompleted (runCompile (.ofSeconds seconds) settings files text name)).Agrees
        (.ofCompleted (runCompile (.ofSeconds seconds') settings' files' text name)) ∧
      (Outcome.ofCompleted (runParse (.ofSeconds seconds) settings files text)).Agrees
        (.ofCompleted (runParse (.ofSeconds seconds') settings' files' text)) := by
  have hnormal := Settings.normal_of_ofEntries h
  obtain ⟨backend, hbackend, hchosen, hfield⟩ := exists_createBackend hnormal hname
  have hcompile := endsAsRead_runCompile hnormal hbackend hroom text
  have hparse := endsAsRead_runParse hnormal hroom text
  refine ⟨⟨backend, hbackend, hchosen, hfield, hcompile⟩, hparse, ?_⟩
  intro root' settings' seconds' files' h' hsame hroom'
  have hnormal' := Settings.normal_of_ofEntries h'
  have hbackend' : settings'.createBackend name = .ok backend := by
    unfold Settings.createBackend at hbackend ⊢
    rw [hsame]
    exact hbackend
  have hcompile' := endsAsRead_runCompile hnormal' hbackend' hroom' text
  have hparse' := endsAsRead_runParse hnormal' hroom' text
  exact ⟨hcompile.agrees printedBy_unique hcompile',
    hparse.agrees (fun _ _ _ ha hb => ha.trans hb.symm) hparse'⟩

/-- Settings with a log in a file, and settings with the same backend and hardly any log. -/
def spacedSettings : Settings := ⟨⟨"DEBUG", true, " log"⟩, ⟨"elasticsearch", "body"⟩⟩

def quietSettings : Settings := ⟨⟨"CRITICAL", false, ""⟩, ⟨"elasticsearch", "body"⟩⟩

theorem commands_end_as_read_spaced :
    Settings.ofEntries Settings.spacedRoot = .ok spacedSettings ∧
    (Outcome.ofCompleted (runCompile (.ofSeconds Int.ofNat) spacedSettings .empty "+"
      (some "neutral"))).ending = .exit 1 ∧
    (Outcome.ofCompleted (runParse (.ofSeconds Int.ofNat) spacedSettings .empty "a")).ending =
      .exit 0 ∧
    (Outcome.ofCompleted (runCompile (.ofSeconds Int.ofNat) spacedSettings .empty "+a" none)).Agrees
      (.ofCompleted (runCompile (.ofSeconds fun _ => 1) quietSettings .empty "+a" none)) := by
  have hspaced : Settings.ofEntries Settings.spacedRoot = .ok spacedSettings := by decide +kernel
  have hquiet : Settings.ofEntries quietSettings.toEntries = .ok quietSettings := by decide +kernel
  have hroom : LogHasRoom (.ofSeconds 0) spacedSettings.log .empty := by
    intro _ action haction
    simp only [List.mem_cons, List.not_mem_nil, or_false] at haction
    rcases haction with rfl | rfl
    · exact ⟨_, _, rfl, by decide +kernel, by decide +kernel⟩
    · exact ⟨_, _, rfl, by decide +kernel, by decide +kernel⟩
  have hneutral : ∀ n, some "neutral".toList = some n → n ∈ BackendKind.names := by
    rintro n ⟨⟩
    decide
  obtain ⟨e, he⟩ : ∃ e, Query.parse "+" = .error e := ⟨_, rfl⟩
  obtain ⟨q, hq⟩ : ∃ q, Query.parse "a" = .ok q := ⟨_, rfl⟩
  obtain ⟨⟨_, -, -, -, hcompile⟩, -⟩ :=
    commands_end_as_read hspaced (some "neutral") hneutral hroom "+"
  obtain ⟨-, hparse, -⟩ := commands_end_as_read hspaced none nofun hroom "a"
  obtain ⟨-, -, hagrees⟩ := commands_end_as_read hspaced none nofun hroom "+a"
  refine ⟨hspaced, (hcompile.rejected e he).1, hparse.normally.2 ⟨q, hq⟩, ?_⟩
  exact (hagrees _ _ (fun _ => 1) .empty hquiet rfl nofun).1

end CommandLine
end SearchQuery
