import SearchQuery.Log.Logger
import SearchQuery.Proofs.Places

/-!
# Runs of a logger

A logger is configured and records are emitted, in any order and any number of times. What counts
is the last set-up: the handlers are the ones it asks for, the console shows the records from its
level on, and a log file takes the records from `DEBUG` on. No earlier set-up is left over.

Two names are no levels although something has them, so that a set-up with one of them fails. And a
logger whose level is unset takes the level of its surroundings, for its file too.
-/

namespace SearchQuery
namespace Log

namespace Setup

/-- The name of the level does not stand for a layout. -/
def NamesLevel (s : Setup) : Prop :=
  s.level.upper ≠ "BASIC_FORMAT" ∧ s.level.upper ≠ "_STYLES"

/-- The level of the console: the one with that name in upper case, otherwise `INFO`. -/
def consoleLevel (s : Setup) : Level := (Level.known.lookup s.level.upper).getD Level.info

/-- The level from which on records are handled. -/
def handledFrom (s : Setup) : Level :=
  if s.consoleLevel = Level.unset then Level.warning else Level.debug

/-- The level from which on the console shows records. -/
def shownFrom (s : Setup) : Level :=
  if s.consoleLevel = Level.unset then Level.warning else s.consoleLevel

def place? (stamp : Stamp) (s : Setup) : Option FilePath :=
  s.fileAction?.map fun action => (s.file stamp action).place

/-- The logger that writes to the console and to the file in a place. -/
def logger (s : Setup) (place? : Option FilePath) : Logger where
  level := min Level.debug s.consoleLevel
  handlers :=
    ⟨.console, s.consoleLevel⟩ :: place?.toList.map fun place => ⟨.file place, Level.debug⟩
  propagates := false

/-- The log file, if one is asked for, can be opened; its directory is made if it is not there. -/
def FileOpens (stamp : Stamp) (s : Setup) (files : FileTree) : Prop :=
  ∀ action, s.fileAction? = some action →
    ∃ place, (Station.openFile stamp s action files).1 = .ok place

def shown (s : Setup) (stamp : Stamp) (r : Record) : Text :=
  if s.shownFrom ≤ r.level then r.line stamp else []

/-- What the log file takes of records, each with the stamp of its moment. -/
def kept (s : Setup) (records : List (Stamp × Record)) : List UInt8 :=
  (records.filter fun e => s.handledFrom ≤ e.2.level).flatMap fun e => (e.2.line e.1).toUtf8

variable {s : Setup}

theorem fileAction?_eq_some_iff {action : Text} :
    s.fileAction? = some action ↔ s.toFile = true ∧ s.action = some action ∧ action ≠ [] := by
  rw [fileAction?]
  cases s.toFile with
  | false => simp
  | true => simp

theorem resolvedLevel_eq_ok (h : s.NamesLevel) : s.resolvedLevel = .ok s.consoleLevel := by
  rw [resolvedLevel, consoleLevel]
  by_cases hempty : s.level = []
  · rw [hempty]
    rfl
  · rw [if_neg (by simpa using hempty), Level.named, if_neg h.1, if_neg h.2]

theorem exists_resolvedLevel_eq_error (h : ¬ s.NamesLevel) :
    ∃ e, s.resolvedLevel = .error e := by
  have hempty : s.level ≠ [] := by
    intro hnil
    apply h
    rw [NamesLevel, hnil]
    decide
  rw [resolvedLevel, if_neg (by simpa using hempty), Level.named]
  by_cases hlayout : s.level.upper = "BASIC_FORMAT"
  · exact ⟨_, if_pos hlayout⟩
  · have hstyles : s.level.upper = "_STYLES" := Decidable.not_not.1 fun hne => h ⟨hlayout, hne⟩
    exact ⟨_, by rw [if_neg hlayout, if_pos hstyles]⟩

/-- A level that is not unset is not below `DEBUG`. -/
theorem consoleLevel_cases (s : Setup) :
    s.consoleLevel = Level.unset ∨ Level.debug ≤ s.consoleLevel := by
  have hknown : ∀ entry ∈ Level.known, entry.2 = Level.unset ∨ Level.debug ≤ entry.2 := by decide
  rw [consoleLevel]
  cases h : Level.known.lookup s.level.upper with
  | none => exact .inr (by decide)
  | some level =>
    obtain ⟨before, after, hsplit, -⟩ := List.lookup_eq_some_iff.1 h
    exact hknown (s.level.upper, level) (by rw [hsplit]; simp)

theorem shownFrom_le_iff (level : Level) :
    s.shownFrom ≤ level ↔ s.handledFrom ≤ level ∧ s.consoleLevel ≤ level := by
  rw [shownFrom, handledFrom]
  split
  case isTrue hunset =>
    have hbelow : s.consoleLevel ≤ Level.warning := by
      rw [hunset]
      decide
    exact ⟨fun h => ⟨h, Int.le_trans hbelow h⟩, And.left⟩
  case isFalse hset =>
    have hdebug := s.consoleLevel_cases.resolve_left hset
    exact ⟨fun h => ⟨Int.le_trans hdebug h, h⟩, And.right⟩

theorem threshold_logger (s : Setup) (place? : Option FilePath) :
    (s.logger place?).threshold = s.handledFrom := by
  rw [Logger.threshold, logger, handledFrom]
  by_cases hunset : s.consoleLevel = Level.unset
  · rw [hunset]
    rfl
  · have hdebug := s.consoleLevel_cases.resolve_left hunset
    dsimp only
    rw [Int.min_eq_left hdebug, if_neg hunset, if_neg (by decide)]

theorem debug_le_handledFrom (s : Setup) : Level.debug ≤ s.handledFrom := by
  rw [handledFrom]
  split <;> decide

theorem handles_logger (place? : Option FilePath) (r : Record) :
    (s.logger place?).handles r = decide (s.handledFrom ≤ r.level) := by
  have hpositive : ∀ h : s.handledFrom ≤ r.level, 0 < r.level := fun h =>
    Int.lt_of_lt_of_le (by decide) (Int.le_trans s.debug_le_handledFrom h)
  rw [Logger.handles, threshold_logger, Bool.eq_iff_iff, Bool.and_eq_true, decide_eq_true_eq,
    decide_eq_true_eq]
  exact ⟨And.right, fun h => ⟨hpositive h, h⟩⟩

theorem kept_cons (s : Setup) (e : Stamp × Record) (records : List (Stamp × Record)) :
    s.kept (e :: records) = s.kept [e] ++ s.kept records := by
  rw [kept, kept, kept, ← List.flatMap_append, ← List.filter_append]
  rfl

end Setup

namespace Station

open Setup

variable {stamp : Stamp} {s : Setup} {st : Station} {files : FileTree}

theorem consoleText_logger (stamp : Stamp) (s : Setup) (place? : Option FilePath) (r : Record) :
    consoleText stamp (s.logger place?) r = s.shown stamp r := by
  have hfile : ((place?.toList.map fun place => (⟨.file place, Level.debug⟩ : Handler)).flatMap
      fun h => if h.sink = .console ∧ h.level ≤ r.level then r.line stamp else []) = [] := by
    cases place? <;> rfl
  rw [consoleText, handles_logger, shown]
  by_cases hhandled : s.handledFrom ≤ r.level
  · simp [Setup.logger, shownFrom_le_iff, hhandled, hfile]
  · simp [shownFrom_le_iff, hhandled]

theorem lookup_writeFiles_logger (stamp : Stamp) (s : Setup) (place? : Option FilePath)
    (files : FileTree) (r : Record) (q : FilePath) :
    (writeFiles stamp (s.logger place?) files r).files.lookup q =
      (files.files.lookup q).map (· ++ if place? = some q then s.kept [(stamp, r)] else []) := by
  rw [writeFiles, handles_logger]
  by_cases hhandled : s.handledFrom ≤ r.level
  · have hdebug : Level.debug ≤ r.level := Int.le_trans s.debug_le_handledFrom hhandled
    cases place? with
    | none => simp [Setup.logger, hhandled]
    | some place =>
      simp [Setup.logger, hhandled, hdebug, FileTree.lookup_append, kept, eq_comm]
  · have hkept : s.kept [(stamp, r)] = [] := by simp [kept, hhandled]
    simp [hhandled, hkept]

/-! ## Configuring -/

theorem configure_eq (h : s.NamesLevel) (stamp : Stamp) (st : Station) :
    configure stamp s st =
      match s.fileAction? with
      | none => (.ok (), ⟨s.logger none, st.files⟩)
      | some action =>
        match openFile stamp s action st.files with
        | (.ok place, files) => (.ok (), ⟨s.logger (some place), files⟩)
        | (.error e, files) => (.error (.file e), ⟨st.logger, files⟩) := by
  rw [configure, resolvedLevel_eq_ok h]
  cases s.fileAction? with
  | none => rfl
  | some action =>
    dsimp only
    cases openFile stamp s action st.files with
    | mk result files => cases result <;> rfl

/-- The file is opened among the directories that have been made for it, if all of them could be. -/
theorem openFile_cases (stamp : Stamp) (s : Setup) (action : Text) (files : FileTree) :
    ∃ made, files.Grows made ∧
      (openFile stamp s action files = made.openFile (s.file stamp action) ∨
        ∃ e, openFile stamp s action files = (.error e, made)) := by
  refine ⟨_, files.grows_makeDirectory (s.actionDirectory action), ?_⟩
  unfold openFile
  cases files.makeDirectory (s.actionDirectory action) with
  | mk result made =>
    cases result with
    | ok directory => exact .inl rfl
    | error e => exact .inr ⟨e, rfl⟩

theorem openFile_eq_ok {action : Text} {opened : FileTree} {place : FilePath}
    (h : openFile stamp s action files = (.ok place, opened)) :
    place = (s.file stamp action).place ∧
    (∃ octets, opened.files.lookup place = some octets) ∧
    ∀ q, q ≠ place → opened.files.lookup q = files.files.lookup q := by
  obtain ⟨made, hgrows, hopen | ⟨e, hopen⟩⟩ := openFile_cases stamp s action files
  · rw [hopen] at h
    obtain ⟨hplace, hoctets, hothers⟩ := FileTree.openFile_eq_ok h
    rw [hgrows.files] at hothers
    exact ⟨hplace, hoctets, hothers⟩
  · cases hopen.symm.trans h

theorem openFile_eq_error {action : Text} {made : FileTree} {e : FileError}
    (h : openFile stamp s action files = (.error e, made)) : files.Grows made := by
  obtain ⟨tree, hgrows, hopen | ⟨e', hopen⟩⟩ := openFile_cases stamp s action files
  · rw [hopen] at h
    rw [FileTree.openFile_eq_error h]
    exact hgrows
  · cases hopen.symm.trans h
    exact hgrows

/-- A call goes through exactly if its level is none of the two names and its file opens. -/
theorem configure_eq_ok_iff (stamp : Stamp) (s : Setup) (st : Station) :
    (configure stamp s st).1 = .ok () ↔ s.NamesLevel ∧ s.FileOpens stamp st.files := by
  by_cases hlevel : s.NamesLevel
  · rw [configure_eq hlevel, FileOpens]
    cases s.fileAction? with
    | none => simp [hlevel]
    | some action =>
      cases hopen : openFile stamp s action st.files with
      | mk result files =>
        cases result with
        | ok place => simp [hlevel, hopen]
        | error e => simp [hopen]
  · obtain ⟨e, he⟩ := exists_resolvedLevel_eq_error hlevel
    rw [configure, he]
    exact iff_of_false nofun fun h => hlevel h.1

/-- After a call that goes through, the logger is the one that is asked for, its file is there, and
no other file has changed. -/
theorem configure_eq_ok (hlevel : s.NamesLevel) (hfile : s.FileOpens stamp st.files) :
    ∃ files, configure stamp s st = (.ok (), ⟨s.logger (s.place? stamp), files⟩) ∧
      (∀ place, s.place? stamp = some place → ∃ octets, files.files.lookup place = some octets) ∧
      ∀ q, s.place? stamp ≠ some q → files.files.lookup q = st.files.files.lookup q := by
  rw [configure_eq hlevel, place?]
  cases haction : s.fileAction? with
  | none => exact ⟨st.files, rfl, by simp, fun q _ => rfl⟩
  | some action =>
    obtain ⟨place, hplace⟩ := hfile action haction
    obtain ⟨opened, hopen⟩ : ∃ opened, openFile stamp s action st.files = (.ok place, opened) :=
      ⟨_, Prod.ext hplace rfl⟩
    obtain ⟨rfl, hoctets, hothers⟩ := openFile_eq_ok hopen
    refine ⟨opened, ?_, ?_, ?_⟩
    · dsimp only
      rw [hopen]
      rfl
    · intro place hplace
      cases hplace
      exact hoctets
    · intro q hq
      exact hothers q fun heq => hq (by rw [heq]; rfl)

/-- A call that fails leaves the logger and all files as they were. At most there are more
directories than before. -/
theorem configure_eq_error {e : ConfigureError} (h : (configure stamp s st).1 = .error e) :
    (configure stamp s st).2.logger = st.logger ∧
      st.files.Grows (configure stamp s st).2.files := by
  by_cases hlevel : s.NamesLevel
  · rw [configure_eq hlevel] at h ⊢
    cases haction : s.fileAction? with
    | none =>
      rw [haction] at h
      cases h
    | some action =>
      rw [haction] at h
      dsimp only at h ⊢
      cases hopen : openFile stamp s action st.files with
      | mk result files =>
        rw [hopen] at h
        cases result with
        | ok place => cases h
        | error e => exact ⟨rfl, openFile_eq_error hopen⟩
  · obtain ⟨e, he⟩ := exists_resolvedLevel_eq_error hlevel
    rw [configure, he]
    exact ⟨rfl, .refl st.files⟩

-- the directories of a call that failed are what the file of the next one needs
example :
    let nested (action : Text) : Stamp × Event :=
      (.ofSeconds 0, .configure ⟨"INFO", some action, true, "log"⟩)
    ((initial .empty).run [nested "a/b"]).1 =
      [.error (.file (.notFound (.ofText "log/a/b/a/b_0101000000.log")))] ∧
    ((initial .empty).run [nested "a/b/a", nested "a/b"]).1 =
      [.error (.file (.notFound (.ofText "log/a/b/a/a/b/a_0101000000.log"))), .ok []] :=
  ⟨rfl, rfl⟩

/-! ## Runs -/

theorem run_append (st : Station) (a b : List (Stamp × Event)) :
    st.run (a ++ b) =
      ((st.run a).1 ++ ((st.run a).2.run b).1, ((st.run a).2.run b).2) := by
  induction a generalizing st with
  | nil => rfl
  | cons e rest ih =>
    obtain ⟨stamp, event⟩ := e
    rw [List.cons_append, run_cons, ih, run_cons]
    rfl

theorem logger_step (stamp : Stamp) (st : Station) (event : Event) :
    (st.step stamp event).2.logger = st.logger ∨ ∃ s, event = .configure s ∧ s.NamesLevel ∧
      (st.step stamp event).2.logger = s.logger (s.place? stamp) := by
  cases event with
  | emit r => exact .inl rfl
  | configure s =>
    cases hresult : (configure stamp s st).1 with
    | error e => exact .inl (configure_eq_error hresult).1
    | ok =>
      right
      obtain ⟨hlevel, hfile⟩ := (configure_eq_ok_iff stamp s st).1 hresult
      obtain ⟨files, hconfigure, -⟩ := configure_eq_ok hlevel hfile
      exact ⟨s, rfl, hlevel, by rw [step, hconfigure]⟩

/-- A logger is never between two set-ups: after any run it is the one that was there before, or
just as one of the set-ups of the run asks for it. -/
theorem logger_run (st : Station) (events : List (Stamp × Event)) :
    (st.run events).2.logger = st.logger ∨ ∃ stamp s, (stamp, .configure s) ∈ events ∧
      s.NamesLevel ∧ (st.run events).2.logger = s.logger (s.place? stamp) := by
  induction events generalizing st with
  | nil => exact .inl rfl
  | cons e rest ih =>
    obtain ⟨stamp, event⟩ := e
    rw [run_cons]
    dsimp only
    rcases ih (st.step stamp event).2 with hkept | ⟨stamp', s, hmem, hlevel, hlogger⟩
    · rw [hkept]
      apply (logger_step stamp st event).imp_right
      rintro ⟨s, rfl, hlevel, hlogger⟩
      exact ⟨stamp, s, List.mem_cons_self, hlevel, hlogger⟩
    · exact .inr ⟨stamp', s, List.mem_cons_of_mem _ hmem, hlevel, hlogger⟩

theorem emit_logger {place? : Option FilePath} {st : Station} (h : st.logger = s.logger place?)
    (stamp : Stamp) (r : Record) :
    (st.emit stamp r).1 = s.shown stamp r ∧
    ∀ q, (st.emit stamp r).2.files.files.lookup q =
      (st.files.files.lookup q).map (· ++ if place? = some q then s.kept [(stamp, r)] else []) := by
  rw [emit, h]
  exact ⟨consoleText_logger stamp s place? r, lookup_writeFiles_logger stamp s place? st.files r⟩

theorem map_append_ite (o : Option (List UInt8)) (c : Prop) [Decidable c] (a b : List UInt8) :
    (o.map (· ++ if c then a else [])).map (· ++ if c then b else []) =
      o.map (· ++ if c then a ++ b else []) := by
  rw [Option.map_map]
  congr 1
  funext octets
  by_cases hc : c <;> simp [hc]

/-- What records do under a set-up: the logger stays, the console shows each of them or not, and the
log file alone takes some of them. -/
theorem run_emitted {place? : Option FilePath} (st : Station) (h : st.logger = s.logger place?)
    (records : List (Stamp × Record)) :
    (st.run (emitted records)).1 = records.map (fun e => .ok (s.shown e.1 e.2)) ∧
    (st.run (emitted records)).2.logger = s.logger place? ∧
    ∀ q, (st.run (emitted records)).2.files.files.lookup q =
      (st.files.files.lookup q).map (· ++ if place? = some q then s.kept records else []) := by
  induction records generalizing st with
  | nil =>
    refine ⟨rfl, h, fun q => ?_⟩
    have hkept : s.kept [] = [] := rfl
    simp [emitted, run, hkept]
  | cons e rest ih =>
    obtain ⟨hshown, hfiles⟩ := emit_logger h e.1 e.2
    obtain ⟨hreplies, hlogger, hrest⟩ := ih (st.emit e.1 e.2).2 h
    refine ⟨?_, hlogger, fun q => ?_⟩
    · rw [List.map_cons, ← hreplies, ← hshown]
      rfl
    · rw [kept_cons, ← map_append_ite, ← hfiles q]
      exact hrest q

theorem emitAll_logger {place? : Option FilePath} (st : Station) (h : st.logger = s.logger place?)
    (records : List (Stamp × Record)) :
    (st.emitAll records).1 = records.flatMap (fun e => s.shown e.1 e.2) ∧
    ∀ q, (st.emitAll records).2.files.files.lookup q =
      (st.files.files.lookup q).map (· ++ if place? = some q then s.kept records else []) := by
  obtain ⟨hreplies, -, hfiles⟩ := run_emitted st h records
  refine ⟨?_, hfiles⟩
  rw [emitAll]
  dsimp only
  rw [hreplies, List.flatMap_map]
  rfl

/-- A call that goes through and the records behind it, in any run. -/
theorem run_configured (hlevel : s.NamesLevel) (before : List (Stamp × Event))
    (hfile : s.FileOpens stamp (st.run before).2.files) (records : List (Stamp × Record)) :
    (st.run (before ++ (stamp, .configure s) :: emitted records)).1 =
      (st.run before).1 ++ .ok [] :: records.map (fun e => .ok (s.shown e.1 e.2)) ∧
    (st.run (before ++ (stamp, .configure s) :: emitted records)).2.logger =
      s.logger (s.place? stamp) ∧
    (∀ q, s.place? stamp ≠ some q →
      (st.run (before ++ (stamp, .configure s) :: emitted records)).2.files.files.lookup q =
        (st.run before).2.files.files.lookup q) ∧
    ∀ place, s.place? stamp = some place → ∃ earlier,
      (st.run (before ++ [(stamp, .configure s)])).2.files.files.lookup place = some earlier ∧
      (st.run (before ++ (stamp, .configure s) :: emitted records)).2.files.files.lookup place =
        some (earlier ++ s.kept records) := by
  obtain ⟨files, hconfigure, hplace, hothers⟩ := configure_eq_ok hlevel hfile
  have hstep : (st.run before).2.step stamp (.configure s) =
      (.ok [], ⟨s.logger (s.place? stamp), files⟩) := by
    rw [step, hconfigure]
    rfl
  obtain ⟨hreplies, hlogger, hfiles⟩ :=
    run_emitted ⟨s.logger (s.place? stamp), files⟩ rfl records
  rw [run_append, run_append, run_cons, run_cons, hstep]
  refine ⟨?_, hlogger, fun q hq => ?_, fun place hq => ?_⟩
  · rw [hreplies]
  · rw [hfiles q, if_neg hq, ← hothers q hq]
    simp
  · obtain ⟨octets, hoctets⟩ := hplace place hq
    refine ⟨octets, hoctets, ?_⟩
    rw [hfiles place, if_pos hq]
    dsimp only
    rw [hoctets]
    rfl

/-- The last set-up alone counts. Whatever was configured and emitted before it, the handlers are
those that it asks for, each later record is shown once or not at all by its level, and no other
file changes any more. -/
theorem run_last_configured (st : Station) (before : List (Stamp × Event)) (stamp : Stamp)
    {s : Setup} (hlevel : s.NamesLevel) (hfile : s.FileOpens stamp (st.run before).2.files)
    (records : List (Stamp × Record)) :
    (st.run (before ++ (stamp, .configure s) :: emitted records)).1 =
      (st.run before).1 ++ .ok [] :: records.map (fun e =>
        .ok (if s.shownFrom ≤ e.2.level then e.2.line e.1 else [])) ∧
    (st.run (before ++ (stamp, .configure s) :: emitted records)).2.logger.handlers =
      ⟨.console, s.consoleLevel⟩ ::
        (s.place? stamp).toList.map (fun place => ⟨.file place, Level.debug⟩) ∧
    ((s.place? stamp).isSome = true ↔
      s.toFile = true ∧ ∃ action, s.action = some action ∧ action ≠ []) ∧
    (st.run (before ++ (stamp, .configure s) :: emitted records)).2.logger.propagates = false ∧
    ∀ q, s.place? stamp ≠ some q →
      (st.run (before ++ (stamp, .configure s) :: emitted records)).2.files.files.lookup q =
        (st.run before).2.files.files.lookup q := by
  obtain ⟨hreplies, hlogger, hothers, -⟩ := run_configured hlevel before hfile records
  refine ⟨hreplies, ?_, ?_, ?_, hothers⟩
  · rw [hlogger]
    rfl
  · rw [place?, Option.isSome_map, Option.isSome_iff_exists]
    simp only [fileAction?_eq_some_iff]
    exact exists_and_left
  · rw [hlogger]
    rfl

def fileSetup : Setup := ⟨"error", some "act", true, "logs"⟩

def unsetSetup : Setup := ⟨"NotSet", some "act", true, "logs"⟩

def firstSecond : Stamp := .ofSeconds 0

def laterSecond : Stamp := .ofSeconds 1

def mixedRecords : List (Stamp × Record) :=
  [(laterSecond, ⟨Level.debug, "a"⟩), (laterSecond, ⟨5, "b"⟩), (laterSecond, ⟨Level.error, "c"⟩)]

/-- Two files of one action, from one second and from the next. -/
theorem run_last_configured_twice :
    fileSetup.NamesLevel ∧
    (((initial .empty).run ((firstSecond, .configure unsetSetup) ::
        (laterSecond, .configure fileSetup) :: emitted mixedRecords)).1 =
      [.ok [], .ok [], .ok [], .ok [], .ok "01-01 00:00:01 [ERRO] c\n"]) ∧
    ((initial .empty).run ((firstSecond, .configure unsetSetup) ::
        (laterSecond, .configure fileSetup) :: emitted mixedRecords)).2.logger.handlers =
      [⟨.console, Level.error⟩,
        ⟨.file (FilePath.ofText "logs/act/act_0101000001.log"), Level.debug⟩] ∧
    ((initial .empty).run ((firstSecond, .configure unsetSetup) ::
        (laterSecond, .configure fileSetup) :: emitted mixedRecords)).2.files.files.lookup
      (FilePath.ofText "logs/act/act_0101000000.log") = some [] := by
  have hlevel : fileSetup.NamesLevel := by
    rw [NamesLevel]
    decide +kernel
  have hfile : fileSetup.FileOpens laterSecond
      ((initial .empty).run [(firstSecond, .configure unsetSetup)]).2.files := by
    intro action haction
    cases haction
    exact ⟨_, rfl⟩
  obtain ⟨hreplies, hhandlers, -, -, hothers⟩ := run_last_configured (initial .empty)
    [(firstSecond, .configure unsetSetup)] laterSecond hlevel hfile mixedRecords
  refine ⟨hlevel, hreplies.trans rfl, hhandlers.trans ?_, (hothers _ ?_).trans ?_⟩
  all_goals decide +kernel

/-- A name of a layout is taken for a level, and the call fails. -/
theorem configure_layout_name :
    (initial .empty).run [(firstSecond, .configure ⟨"BASIC_FORMAT", none, false, "log"⟩),
        (firstSecond, .emit ⟨Level.warning, "x"⟩)] =
      ([.error (.levelIsAText usualLayout), .ok "x\n"], initial .empty) := rfl

/-- A log file takes every record from `DEBUG` on, once and in order, whatever the level of the
console is and whatever came before. Only under an unset level it takes less: then the level of the
surroundings counts for the file too. -/
theorem run_file_keeps (st : Station) (before : List (Stamp × Event)) (stamp : Stamp) {s : Setup}
    {action : Text} (htoFile : s.toFile = true) (haction : s.action = some action)
    (hne : action ≠ []) (hlevel : s.NamesLevel)
    (hfile : ∃ place, (openFile stamp s action (st.run before).2.files).1 = .ok place)
    (records : List (Stamp × Record)) :
    ∃ earlier,
      (st.run (before ++ [(stamp, .configure s)])).2.files.files.lookup
        (s.file stamp action).place = some earlier ∧
      (s.consoleLevel ≠ Level.unset →
        (st.run (before ++ (stamp, .configure s) :: emitted records)).2.files.files.lookup
            (s.file stamp action).place =
          some (earlier ++ (records.filter fun e => Level.debug ≤ e.2.level).flatMap fun e =>
            (e.2.line e.1).toUtf8)) ∧
      (s.consoleLevel = Level.unset →
        (st.run (before ++ (stamp, .configure s) :: emitted records)).2.files.files.lookup
            (s.file stamp action).place =
          some (earlier ++ (records.filter fun e => Level.warning ≤ e.2.level).flatMap fun e =>
            (e.2.line e.1).toUtf8)) := by
  have hasked : s.fileAction? = some action := fileAction?_eq_some_iff.2 ⟨htoFile, haction, hne⟩
  have hplace : s.place? stamp = some (s.file stamp action).place := by rw [place?, hasked]; rfl
  have hopens : s.FileOpens stamp (st.run before).2.files := by
    intro other hother
    rw [hasked] at hother
    cases hother
    exact hfile
  obtain ⟨-, -, -, hkept⟩ := run_configured hlevel before hopens records
  obtain ⟨earlier, hearlier, hlater⟩ := hkept _ hplace
  refine ⟨earlier, hearlier, fun hset => ?_, fun hunset => ?_⟩
  · rw [hlater, kept, handledFrom, if_neg hset]
  · rw [hlater, kept, handledFrom, if_pos hunset]

theorem run_file_keeps_below_console :
    fileSetup.NamesLevel ∧ fileSetup.consoleLevel = Level.error ∧
    ((initial .empty).run ((firstSecond, .configure unsetSetup) ::
        (laterSecond, .configure fileSetup) :: emitted mixedRecords)).2.files.files.lookup
      (FilePath.ofText "logs/act/act_0101000001.log") =
        some (Text.toUtf8 "01-01 00:00:01 [DEBG] a\n01-01 00:00:01 [ERRO] c\n") := by
  have hlevel : fileSetup.NamesLevel := by
    rw [NamesLevel]
    decide +kernel
  have hconsole : fileSetup.consoleLevel = Level.error := by decide +kernel
  have hfile : ∃ place, (openFile laterSecond fileSetup "act"
      ((initial .empty).run [(firstSecond, .configure unsetSetup)]).2.files).1 = .ok place :=
    ⟨_, rfl⟩
  obtain ⟨earlier, hearlier, hkept, -⟩ := run_file_keeps (initial .empty)
    [(firstSecond, .configure unsetSetup)] laterSecond rfl rfl (by decide) hlevel hfile mixedRecords
  have hempty : earlier = [] := by
    have hnew : ((initial .empty).run ([(firstSecond, .configure unsetSetup)] ++
        [(laterSecond, .configure fileSetup)])).2.files.files.lookup
          (fileSetup.file laterSecond "act").place = some [] := by decide +kernel
    exact Option.some.inj (hearlier.symm.trans hnew)
  refine ⟨hlevel, hconsole, ?_⟩
  have hlines := hkept (by rw [hconsole]; decide)
  rw [hempty] at hlines
  exact hlines.trans (by decide +kernel)

/-- Under an unset level a record of `DEBUG` does not reach the file. -/
theorem file_skips_debug :
    unsetSetup.consoleLevel = Level.unset ∧
    ((initial .empty).run [(firstSecond, .configure unsetSetup),
        (firstSecond, .emit ⟨Level.debug, "m"⟩)]).2.files.files.lookup
      (unsetSetup.file firstSecond "act").place = some [] := by
  decide +kernel

end Station
end Log
end SearchQuery
