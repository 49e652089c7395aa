import SearchQuery.Proofs.BoolQueries
import SearchQuery.Proofs.Steps
import SearchQuery.Proofs.Trimming
import SearchQuery.Settings.Basic

/-!
# The rules that settings follow

What is asked of a mapping of settings, rule by rule and in the order in which the rules are looked
at. A mapping describes settings exactly if it keeps all rules, and the first rule that it breaks is
the one that is reported. Settings that were read are written in their normal form, so that reading
them again changes nothing.
-/

namespace SearchQuery

/-- Whether an error is about the type of a value. All others are about values that are missing or
not allowed. -/
def SettingsError.isOfType : SettingsError → Bool
  | .notAnObject _ | .notAString _ | .notABoolean _ => true
  | _ => false

namespace Settings

/-- The value of a field, if there is one in a section that is a mapping. -/
def field? (root : Entries) (name key : Text) : Option Value :=
  match root.get? (.text name) with
  | some (.map entries) => Entries.get? (.text key) entries
  | _ => none

def text? (root : Entries) (name key : Text) : Option Text :=
  match field? root name key with
  | some (.scalar (.text t)) => some t
  | _ => none

/-- What may be asked of sections and of their fields, and of the values of the settings. -/
inductive Rule where
  | given (name : Text)
  | mapping (name : Text)
  | present (name key : Text)
  | text (name key : Text)
  | bool (name key : Text)
  | level
  | directory
  | backend
  | field

namespace Rule

/-- The rules, in the order in which they are looked at. -/
def all : List Rule :=
  [.given "log", .mapping "log", .present "log" "level", .text "log" "level",
    .present "log" "to_file", .bool "log" "to_file", .present "log" "dir", .text "log" "dir",
    .mapping "backend", .text "backend" "name", .text "backend" "field",
    .level, .directory, .backend, .field]

/-- Whether a mapping keeps a rule. A section that is null counts as missing. -/
def Holds (root : Entries) : Rule → Prop
  | .given name => ∃ v, root.get? (.text name) = some v ∧ v ≠ .null
  | .mapping name => ∀ v, root.get? (.text name) = some v → v = .null ∨ ∃ entries, v = .map entries
  | .present name key => ∃ v, field? root name key = some v
  | .text name key => ∀ v, field? root name key = some v → ∃ t, v = .text t
  | .bool name key => ∀ v, field? root name key = some v → ∃ b, v = .bool b
  | .level =>
    ∀ t, text? root "log" "level" = some t →
      t.upper ∈ (["DEBUG", "INFO", "WARNING", "ERROR", "CRITICAL"] : List Text)
  | .directory =>
    field? root "log" "to_file" = some (.bool true) →
      ∀ t, text? root "log" "dir" = some t → t.HasContent
  | .backend => ∀ t, text? root "backend" "name" = some t → t.trim.lower ∈ BackendKind.names
  | .field => ∀ t, text? root "backend" "field" = some t → t.HasContent

def asksType : Rule → Bool
  | .mapping _ | .text _ _ | .bool _ _ => true
  | _ => false

/-- What is reported of a mapping that breaks a rule. -/
def error (root : Entries) : Rule → SettingsError
  | .given name => .missing name
  | .mapping name => .notAnObject name
  | .present name key => .missing (name ++ "." ++ key)
  | .text name key => .notAString (name ++ "." ++ key)
  | .bool name key => .notABoolean (name ++ "." ++ key)
  | .level => .unknownLevel
  | .directory => .blankLogDirectory
  | .backend => .unknownBackend (((text? root "backend" "name").getD []).trim.lower)
  | .field => .emptyField

end Rule

/-- A computation succeeds if all rules hold, and reports the first that does not. -/
inductive Follows {α : Type} (root : Entries) : List Rule → Except SettingsError α → Prop
  | ok {rules : List Rule} (a : α) : (∀ r ∈ rules, r.Holds root) → Follows root rules (.ok a)
  | error (before : List Rule) {after : List Rule} {rule : Rule} : (∀ r ∈ before, r.Holds root) →
      ¬ rule.Holds root → Follows root (before ++ rule :: after) (.error (rule.error root))

section

variable {α β : Type} {root : Entries} {name key : Text}

theorem Follows.bind {rules others : List Rule} {x : Except SettingsError α}
    {f : α → Except SettingsError β} (hx : Follows root rules x)
    (hf : ∀ a, x = .ok a → Follows root others (f a)) :
    Follows root (rules ++ others) (x >>= f) := by
  cases hx with
  | ok a hrules =>
    change Follows root _ (f a)
    generalize f a = y, hf a rfl = hy
    cases hy with
    | ok b hothers =>
      refine .ok b ?_
      intro r hr
      rcases List.mem_append.1 hr with hr | hr
      · exact hrules r hr
      · exact hothers r hr
    | error before hbefore hrule =>
      rw [← List.append_assoc]
      refine .error (rules ++ before) ?_ hrule
      intro r hr
      rcases List.mem_append.1 hr with hr | hr
      · exact hrules r hr
      · exact hbefore r hr
  | error before hbefore hrule =>
    rw [List.append_assoc, List.cons_append]
    exact .error before hbefore hrule

theorem follows_pure (a : α) : Follows root [] (pure a) := .ok a (by simp)

theorem follows_rule {rule : Rule} {x : Except SettingsError α}
    (h : (rule.Holds root ∧ ∃ a, x = .ok a) ∨ (¬ rule.Holds root ∧ x = .error (rule.error root))) :
    Follows root [rule] x := by
  rcases h with ⟨hrule, a, rfl⟩ | ⟨hrule, rfl⟩
  · exact .ok a (by simpa using hrule)
  · exact .error [] (by simp) hrule

theorem field?_of_section {entries : Entries} (h : root.get? (.text name) = some (.map entries)) :
    field? root name key = entries.get? (.text key) := by
  rw [field?, h]

/-- A section is missing, or it is a mapping, or it is refused. -/
theorem section?_cases (root : Entries) (name : Text) :
    (section? root name = .ok none ∧ ¬ (Rule.given name).Holds root ∧
        (Rule.mapping name).Holds root ∧ ∀ key, field? root name key = none) ∨
      (∃ entries, section? root name = .ok (some entries) ∧ (Rule.given name).Holds root ∧
        (Rule.mapping name).Holds root ∧ ∀ key, field? root name key = entries.get? (.text key)) ∨
      (section? root name = .error (.notAnObject name) ∧ (Rule.given name).Holds root ∧
        ¬ (Rule.mapping name).Holds root) := by
  simp only [section?, field?, Rule.Holds]
  cases root.get? (.text name) with
  | none => simp
  | some v =>
    cases v with
    | scalar s => cases s <;> simp
    | map entries => simp
    | list items => simp
    | set members => simp

theorem follows_requiredSection (root : Entries) (name : Text) :
    Follows root [.given name, .mapping name] (requiredSection root name) := by
  rcases section?_cases root name with ⟨h, hgiven, -⟩ | ⟨entries, h, hgiven, hmapping, -⟩ |
    ⟨h, hgiven, hmapping⟩
  · rw [requiredSection, h]
    exact .error [] (by simp) hgiven
  · rw [requiredSection, h]
    exact .ok entries (by simp [hgiven, hmapping])
  · rw [requiredSection, h]
    exact .error [.given name] (by simpa using hgiven) hmapping

theorem field?_of_requiredSection {entries : Entries}
    (h : requiredSection root name = .ok entries) (key : Text) :
    field? root name key = entries.get? (.text key) := by
  rcases section?_cases root name with ⟨hs, -⟩ | ⟨found, hs, -, -, hfield⟩ | ⟨hs, -⟩
  · rw [requiredSection, hs] at h
    cases h
  · rw [requiredSection, hs] at h
    cases h
    exact hfield key
  · rw [requiredSection, hs] at h
    cases h

theorem follows_optionalSection (root : Entries) (name : Text) :
    Follows root [.mapping name] (optionalSection root name) := by
  apply follows_rule
  rcases section?_cases root name with ⟨h, -, hmapping, -⟩ | ⟨entries, h, -, hmapping, -⟩ |
    ⟨h, -, hmapping⟩
  · rw [optionalSection, h]
    exact .inl ⟨hmapping, [], rfl⟩
  · rw [optionalSection, h]
    exact .inl ⟨hmapping, entries, rfl⟩
  · rw [optionalSection, h]
    exact .inr ⟨hmapping, rfl⟩

theorem field?_of_optionalSection {entries : Entries}
    (h : optionalSection root name = .ok entries) (key : Text) :
    field? root name key = entries.get? (.text key) := by
  rcases section?_cases root name with ⟨hs, -, -, hfield⟩ | ⟨found, hs, -, -, hfield⟩ | ⟨hs, -⟩
  · rw [optionalSection, hs] at h
    cases h
    exact hfield key
  · rw [optionalSection, hs] at h
    cases h
    exact hfield key
  · rw [optionalSection, hs] at h
    cases h

theorem follows_requiredValue {entries : Entries}
    (h : field? root name key = entries.get? (.text key)) :
    Follows root [.present name key] (requiredValue entries key (name ++ "." ++ key)) := by
  apply follows_rule
  simp only [Rule.Holds, h, requiredValue]
  cases entries.get? (.text key) with
  | none => exact .inr ⟨by simp, rfl⟩
  | some v => exact .inl ⟨⟨v, rfl⟩, v, rfl⟩

theorem requiredValue_eq_ok {entries : Entries} {fieldKey : Text} {v : Value}
    (h : requiredValue entries key fieldKey = .ok v) : entries.get? (.text key) = some v := by
  unfold requiredValue at h
  split at h
  case h_1 hv =>
    cases h
    exact hv
  case h_2 => cases h

theorem follows_expectText {v : Value} (h : field? root name key = some v) :
    Follows root [.text name key] (expectText v (name ++ "." ++ key)) := by
  apply follows_rule
  simp only [Rule.Holds, h, Option.some.injEq, forall_eq', expectText]
  split
  case h_1 t => exact .inl ⟨⟨t, rfl⟩, t, rfl⟩
  case h_2 hv => exact .inr ⟨fun ⟨t, ht⟩ => hv t ht, rfl⟩

theorem expectText_eq_ok {v : Value} {fieldKey t : Text} :
    expectText v fieldKey = .ok t ↔ v = .text t := by
  unfold expectText
  split
  case h_1 u => simp
  case h_2 hv => simpa using fun h => hv t h

theorem follows_expectBool {v : Value} (h : field? root name key = some v) :
    Follows root [.bool name key] (expectBool v (name ++ "." ++ key)) := by
  apply follows_rule
  simp only [Rule.Holds, h, Option.some.injEq, forall_eq', expectBool]
  split
  case h_1 b => exact .inl ⟨⟨b, rfl⟩, b, rfl⟩
  case h_2 hv => exact .inr ⟨fun ⟨b, hb⟩ => hv b hb, rfl⟩

theorem expectBool_eq_ok {v : Value} {fieldKey : Text} {b : Bool} :
    expectBool v fieldKey = .ok b ↔ v = .bool b := by
  unfold expectBool
  split
  case h_1 u => simp
  case h_2 hv => simpa using fun h => hv b h

theorem text?_eq_some_iff {t : Text} :
    text? root name key = some t ↔ field? root name key = some (.text t) := by
  unfold text?
  split
  case h_1 u hu => simp [hu]
  case h_2 hv => simpa using hv t

/-- A missing field is a text: its default. -/
theorem follows_textOr {entries : Entries} (default : Text)
    (h : field? root name key = entries.get? (.text key)) :
    Follows root [.text name key]
      (BackendSettings.textOr entries key (name ++ "." ++ key) default) := by
  rw [BackendSettings.textOr, ← h]
  cases hf : field? root name key with
  | none => exact .ok default (by simp [Rule.Holds, hf])
  | some v => exact follows_expectText hf

theorem textOr_eq_ok {entries : Entries} {fieldKey default t : Text}
    (h : field? root name key = entries.get? (.text key))
    (ht : BackendSettings.textOr entries key fieldKey default = .ok t) :
    t = (text? root name key).getD default := by
  rw [BackendSettings.textOr, ← h, expectText_eq_ok] at ht
  cases hf : field? root name key with
  | none =>
    rw [hf] at ht
    cases ht
    simp [text?, hf]
  | some v =>
    rw [hf] at ht
    obtain rfl : v = .text t := ht
    rw [text?_eq_some_iff.2 hf, Option.getD_some]

end

/-! ## Loading and checking -/

/-- What settings say when they were loaded. -/
structure Loaded (root : Entries) (log : LogSettings) (backend : BackendSettings) : Prop where
  level : ∃ t, text? root "log" "level" = some t ∧ log.level = t.upper
  toFile : field? root "log" "to_file" = some (.bool log.toFile)
  directory : text? root "log" "dir" = some log.directory
  name : backend.name = ((text? root "backend" "name").getD "neutral").trim.lower
  field : backend.field = ((text? root "backend" "field").getD "text").trim

theorem follows_loadLog (root : Entries) :
    Follows root [.given "log", .mapping "log", .present "log" "level", .text "log" "level",
      .present "log" "to_file", .bool "log" "to_file", .present "log" "dir", .text "log" "dir"]
      (LogSettings.load root) := by
  refine (follows_requiredSection root "log").bind fun entries hentries => ?_
  have hfield := field?_of_requiredSection hentries
  refine (follows_requiredValue (hfield "level")).bind fun level hlevel => ?_
  have hlevel := (hfield "level").trans (requiredValue_eq_ok hlevel)
  refine (follows_expectText hlevel).bind fun _ _ => ?_
  refine (follows_requiredValue (hfield "to_file")).bind fun toFile htoFile => ?_
  have htoFile := (hfield "to_file").trans (requiredValue_eq_ok htoFile)
  refine (follows_expectBool htoFile).bind fun _ _ => ?_
  refine (follows_requiredValue (hfield "dir")).bind fun directory hdirectory => ?_
  have hdirectory := (hfield "dir").trans (requiredValue_eq_ok hdirectory)
  exact (follows_expectText hdirectory).bind fun _ _ => follows_pure _

theorem follows_loadBackend (root : Entries) :
    Follows root [.mapping "backend", .text "backend" "name", .text "backend" "field"]
      (BackendSettings.load root) := by
  refine (follows_optionalSection root "backend").bind fun entries hentries => ?_
  have hfield := field?_of_optionalSection hentries
  refine (follows_textOr _ (hfield "name")).bind fun _ _ => ?_
  exact (follows_textOr _ (hfield "field")).bind fun _ _ => follows_pure _

theorem loaded {root : Entries} {log : LogSettings} {backend : BackendSettings}
    (hlog : LogSettings.load root = .ok log) (hbackend : BackendSettings.load root = .ok backend) :
    Loaded root log backend := by
  obtain ⟨entries, hentries, hlog⟩ := bind_eq_ok_iff.1 hlog
  have hfield := field?_of_requiredSection hentries
  obtain ⟨level, hlevel, hlog⟩ := bind_eq_ok_iff.1 hlog
  obtain ⟨levelText, hlevelText, hlog⟩ := bind_eq_ok_iff.1 hlog
  obtain ⟨toFile, htoFile, hlog⟩ := bind_eq_ok_iff.1 hlog
  obtain ⟨isToFile, hisToFile, hlog⟩ := bind_eq_ok_iff.1 hlog
  obtain ⟨directory, hdirectory, hlog⟩ := bind_eq_ok_iff.1 hlog
  obtain ⟨directoryText, hdirectoryText, hlog⟩ := bind_eq_ok_iff.1 hlog
  cases hlog
  obtain rfl := expectText_eq_ok.1 hlevelText
  obtain rfl := expectBool_eq_ok.1 hisToFile
  obtain rfl := expectText_eq_ok.1 hdirectoryText
  obtain ⟨others, hothers, hbackend⟩ := bind_eq_ok_iff.1 hbackend
  have hother := field?_of_optionalSection hothers
  obtain ⟨name, hname, hbackend⟩ := bind_eq_ok_iff.1 hbackend
  obtain ⟨field, hfieldText, hbackend⟩ := bind_eq_ok_iff.1 hbackend
  cases hbackend
  exact {
    level := ⟨levelText,
      text?_eq_some_iff.2 ((hfield "level").trans (requiredValue_eq_ok hlevel)), rfl⟩
    toFile := (hfield "to_file").trans (requiredValue_eq_ok htoFile)
    directory := text?_eq_some_iff.2 ((hfield "dir").trans (requiredValue_eq_ok hdirectory))
    name := by
      rw [textOr_eq_ok (hother "name") hname]
      rfl
    field := by
      rw [textOr_eq_ok (hother "field") hfieldText]
      rfl }

section

variable {root : Entries} {log : LogSettings} {backend : BackendSettings}

theorem mem_levels_iff {t : Text} :
    t ∈ LogSettings.levels ↔
      t ∈ (["DEBUG", "INFO", "WARNING", "ERROR", "CRITICAL"] : List Text) := by
  have hperm : LogSettings.levels.Perm ["DEBUG", "INFO", "WARNING", "ERROR", "CRITICAL"] := by
    decide
  exact hperm.mem_iff

theorem level_holds_iff (h : Loaded root log backend) :
    (Rule.level).Holds root ↔ log.level ∈ LogSettings.levels := by
  obtain ⟨t, ht, hlevel⟩ := h.level
  rw [hlevel, mem_levels_iff]
  simp only [Rule.Holds, ht, Option.some.injEq, forall_eq']

theorem directory_holds_iff (h : Loaded root log backend) :
    (Rule.directory).Holds root ↔ (log.toFile = true → log.directory.trim ≠ []) := by
  rw [Text.trim_ne_nil_iff]
  simp only [Rule.Holds, h.toFile, h.directory, Option.some.injEq, forall_eq', Value.bool,
    Value.scalar.injEq, Scalar.bool.injEq]

theorem follows_checkLog (h : Loaded root log backend) :
    Follows root [.level, .directory] log.check := by
  have hlevel := level_holds_iff h
  have hdirectory := directory_holds_iff h
  rw [LogSettings.check]
  split
  case isTrue hl => exact .error [] (by simp) (mt hlevel.1 hl)
  case isFalse hl =>
    have hl := hlevel.2 (not_not.1 hl)
    split
    case isTrue hd =>
      refine .error [.level] (by simpa using hl) ?_
      rw [hdirectory]
      simpa using hd
    case isFalse hd =>
      have hd := hdirectory.2 (by simpa using hd)
      exact .ok () (by simp [hl, hd])

theorem backend_holds_iff (h : Loaded root log backend) :
    (Rule.backend).Holds root ↔ backend.name ∈ BackendKind.names := by
  rw [h.name]
  simp only [Rule.Holds]
  cases text? root "backend" "name" with
  | none => exact iff_of_true (by simp) (by decide)
  | some t => simp only [Option.some.injEq, forall_eq', Option.getD_some]

theorem field_holds_iff (h : Loaded root log backend) :
    (Rule.field).Holds root ↔ backend.field ≠ [] := by
  rw [h.field, Text.trim_ne_nil_iff]
  simp only [Rule.Holds]
  cases text? root "backend" "field" with
  | none => exact iff_of_true (by simp) ⟨'t', by decide, by decide⟩
  | some t => simp only [Option.some.injEq, forall_eq', Option.getD_some]

/-- A name that is reported was given, since the default is known. -/
theorem error_backend (h : Loaded root log backend) (hb : ¬ (Rule.backend).Holds root) :
    (Rule.backend).error root = .unknownBackend backend.name := by
  rw [Rule.error, h.name]
  cases ht : text? root "backend" "name" with
  | none =>
    have hnone : (Rule.backend).Holds root := by
      simp only [Rule.Holds, ht, reduceCtorEq, false_imp_iff, implies_true]
    exact absurd hnone hb
  | some t => rfl

theorem follows_checkBackend (h : Loaded root log backend) :
    Follows root [.backend, .field] backend.check := by
  have hname := backend_holds_iff h
  have hfield := field_holds_iff h
  rw [BackendSettings.check]
  split
  case isTrue hn =>
    have hn := mt hname.1 hn
    rw [← error_backend h hn]
    exact .error [] (by simp) hn
  case isFalse hn =>
    have hn := hname.2 (not_not.1 hn)
    split
    case isTrue hf =>
      refine .error [.backend] (by simpa using hn) ?_
      rw [hfield]
      simpa using hf
    case isFalse hf =>
      have hf := hfield.2 (by simpa using hf)
      exact .ok () (by simp [hn, hf])

end

/-- Reading settings looks at all rules in their order. -/
theorem follows_ofEntries (root : Entries) : Follows root Rule.all (ofEntries root) := by
  refine (follows_loadLog root).bind fun log hlog => ?_
  refine (follows_loadBackend root).bind fun backend hbackend => ?_
  have h := loaded hlog hbackend
  refine (follows_checkLog h).bind fun _ _ => ?_
  exact (follows_checkBackend h).bind fun _ _ => follows_pure _

/-- Of two rules that are each the first one broken in a list, both are the same. -/
theorem first_broken_unique {root : Entries} {before after before' after' : List Rule}
    {rule rule' : Rule} (hsplit : before ++ rule :: after = before' ++ rule' :: after')
    (hb : ∀ r ∈ before, r.Holds root) (hr : ¬ rule.Holds root)
    (hb' : ∀ r ∈ before', r.Holds root) (hr' : ¬ rule'.Holds root) : rule = rule' := by
  induction before generalizing before' with
  | nil =>
    cases before' with
    | nil => exact (List.cons.inj hsplit).1
    | cons r rest =>
      obtain rfl : rule = r := (List.cons.inj hsplit).1
      exact absurd (hb' rule (by simp)) hr
  | cons r rest ih =>
    cases before' with
    | nil =>
      obtain rfl : r = rule' := (List.cons.inj hsplit).1
      exact absurd (hb r (by simp)) hr'
    | cons r' rest' =>
      have htail := (List.cons.inj hsplit).2
      exact ih htail (fun q hq => hb q (by simp [hq])) (fun q hq => hb' q (by simp [hq]))

theorem Follows.exists_ok_iff {α : Type} {root : Entries} {rules : List Rule}
    {x : Except SettingsError α} (h : Follows root rules x) :
    (∃ a, x = .ok a) ↔ ∀ r ∈ rules, r.Holds root := by
  cases h with
  | ok a hrules => exact iff_of_true ⟨a, rfl⟩ hrules
  | error _ _ hrule => exact iff_of_false (by simp) fun hall => hrule (hall _ (by simp))

theorem Follows.eq_error_iff {α : Type} {root : Entries} {rules : List Rule}
    {x : Except SettingsError α} {e : SettingsError} (h : Follows root rules x) :
    x = .error e ↔ ∃ before rule after, rules = before ++ rule :: after ∧
      (∀ r ∈ before, r.Holds root) ∧ ¬ rule.Holds root ∧ e = rule.error root := by
  cases h with
  | ok a hrules =>
    refine iff_of_false (by simp) ?_
    rintro ⟨before, rule, after, rfl, -, hrule, -⟩
    exact hrule (hrules rule (by simp))
  | @error before after rule hbefore hrule =>
    constructor
    · intro he
      exact ⟨before, rule, after, rfl, hbefore, hrule, (Except.error.inj he).symm⟩
    · rintro ⟨before', rule', after', hsplit, hbefore', hrule', rfl⟩
      rw [first_broken_unique hsplit hbefore hrule hbefore' hrule']

theorem loaded_of_ofEntries {root : Entries} {s : Settings} (h : ofEntries root = .ok s) :
    Loaded root s.log s.backend := by
  obtain ⟨log, hlog, h⟩ := bind_eq_ok_iff.1 h
  obtain ⟨backend, hbackend, h⟩ := bind_eq_ok_iff.1 h
  obtain ⟨_, -, h⟩ := bind_eq_ok_iff.1 h
  obtain ⟨_, -, h⟩ := bind_eq_ok_iff.1 h
  cases h
  exact loaded hlog hbackend

/-! ## Settings that were read -/

/-- Settings in their normal form, with nothing that a rule refuses. -/
structure Normal (s : Settings) : Prop where
  level : s.log.level ∈ (["DEBUG", "INFO", "WARNING", "ERROR", "CRITICAL"] : List Text)
  upper : s.log.level.upper = s.log.level
  directory : s.log.toFile = true → s.log.directory.HasContent
  name : s.backend.name ∈ BackendKind.names
  lower : s.backend.name.trim.lower = s.backend.name
  field : s.backend.field ≠ []
  trimmed : s.backend.field.IsTrimmed

theorem upper_of_mem_levels {t : Text} (h : t ∈ LogSettings.levels) : t.upper = t := by
  have hall : ∀ t ∈ LogSettings.levels, t.upper = t := by decide +kernel
  exact hall t h

theorem normalize_of_mem_names {t : Text} (h : t ∈ BackendKind.names) : t.trim.lower = t := by
  have hall : ∀ t ∈ BackendKind.names, t.trim.lower = t := by decide +kernel
  exact hall t h

theorem normal_of_ofEntries {root : Entries} {s : Settings} (h : ofEntries root = .ok s) :
    s.Normal := by
  have hloaded := loaded_of_ofEntries h
  have hrules := (follows_ofEntries root).exists_ok_iff.1 ⟨s, h⟩
  have hlevel := (level_holds_iff hloaded).1 (hrules .level (by simp [Rule.all]))
  have hdirectory := (directory_holds_iff hloaded).1 (hrules .directory (by simp [Rule.all]))
  have hname := (backend_holds_iff hloaded).1 (hrules .backend (by simp [Rule.all]))
  exact {
    level := mem_levels_iff.1 hlevel
    upper := upper_of_mem_levels hlevel
    directory := fun h => Text.trim_ne_nil_iff.1 (hdirectory h)
    name := hname
    lower := normalize_of_mem_names hname
    field := (field_holds_iff hloaded).1 (hrules .field (by simp [Rule.all]))
    trimmed := by
      rw [hloaded.field]
      exact Text.isTrimmed_trim _ }

theorem ofEntries_toEntries {s : Settings} (h : s.Normal) : ofEntries s.toEntries = .ok s := by
  have hlog : LogSettings.load s.toEntries = .ok s.log := by
    change Except.ok (LogSettings.mk s.log.level.upper s.log.toFile s.log.directory) = _
    rw [h.upper]
  have hbackend : BackendSettings.load s.toEntries = .ok s.backend := by
    change Except.ok (BackendSettings.mk s.backend.name.trim.lower s.backend.field.trim) = _
    rw [h.lower, Text.trim_of_isTrimmed h.trimmed]
  have hcheck : s.log.check = .ok () :=
    LogSettings.check_eq_ok_iff.2
      ⟨mem_levels_iff.2 h.level, fun hf => Text.trim_ne_nil_iff.2 (h.directory hf)⟩
  have hcheckBackend : s.backend.check = .ok () :=
    BackendSettings.check_eq_ok_iff.2 ⟨h.name, h.field⟩
  exact bind_eq_ok_iff.2 ⟨s.log, hlog, bind_eq_ok_iff.2 ⟨s.backend, hbackend,
    bind_eq_ok_iff.2 ⟨(), hcheck, bind_eq_ok_iff.2 ⟨(), hcheckBackend, rfl⟩⟩⟩⟩

/-- A mapping describes settings if it keeps all rules; otherwise the first rule that it breaks is
reported. What is read is in normal form and reads the same again. -/
theorem ofEntries_first_broken (root : Entries) :
    ((∃ s, ofEntries root = .ok s) ↔ ∀ rule ∈ Rule.all, rule.Holds root) ∧
    (∀ e, ofEntries root = .error e ↔ ∃ before rule after, Rule.all = before ++ rule :: after ∧
      (∀ r ∈ before, r.Holds root) ∧ ¬ rule.Holds root ∧ e = rule.error root ∧
      e.isOfType = rule.asksType) ∧
    ∀ s, ofEntries root = .ok s →
      Loaded root s.log s.backend ∧ s.Normal ∧ ofEntries s.toEntries = .ok s := by
  have hfollows := follows_ofEntries root
  refine ⟨hfollows.exists_ok_iff, ?_, ?_⟩
  · intro e
    rw [hfollows.eq_error_iff]
    constructor
    · rintro ⟨before, rule, after, hsplit, hbefore, hrule, rfl⟩
      exact ⟨before, rule, after, hsplit, hbefore, hrule, rfl, by cases rule <;> rfl⟩
    · rintro ⟨before, rule, after, hsplit, hbefore, hrule, he, -⟩
      exact ⟨before, rule, after, hsplit, hbefore, hrule, he⟩
  · intro s h
    have hnormal := normal_of_ofEntries h
    exact ⟨loaded_of_ofEntries h, hnormal, ofEntries_toEntries hnormal⟩

/-- Settings with a level in small letters and blanks around the other texts. -/
def spacedRoot : Entries :=
  [(.text "log", .object
      [("dir", .text " log"), ("to_file", .bool true), ("level", .text "debug")]),
    (.text "backend", .object [("field", .text "\tbody "), ("name", .text " Elasticsearch ")])]

/-- An unknown level, but also a section that is no mapping. -/
def brokenRoot : Entries :=
  [(.text "log", .object [("level", .text "verbose"), ("to_file", .bool false), ("dir", .text "")]),
    (.text "backend", .text "neutral")]

theorem ofEntries_first_broken_section :
    (∃ s, ofEntries spacedRoot = .ok s ∧ (∀ rule ∈ Rule.all, rule.Holds spacedRoot) ∧
      s.Normal ∧ ofEntries s.toEntries = .ok s) ∧
    ofEntries brokenRoot = .error (.notAnObject "backend") ∧
    ∃ before rule after, Rule.all = before ++ rule :: after ∧
      (∀ r ∈ before, r.Holds brokenRoot) ∧ ¬ rule.Holds brokenRoot ∧ rule.asksType = true := by
  have hspaced : ofEntries spacedRoot =
      .ok ⟨⟨"DEBUG", true, " log"⟩, ⟨"elasticsearch", "body"⟩⟩ := by decide +kernel
  have hbroken : ofEntries brokenRoot = .error (.notAnObject "backend") := by decide +kernel
  obtain ⟨-, hnormal, hagain⟩ := (ofEntries_first_broken spacedRoot).2.2 _ hspaced
  have hrules := (ofEntries_first_broken spacedRoot).1.1 ⟨_, hspaced⟩
  obtain ⟨before, rule, after, hsplit, hbefore, hrule, -, htype⟩ :=
    ((ofEntries_first_broken brokenRoot).2.1 _).1 hbroken
  exact ⟨⟨_, hspaced, hrules, hnormal, hagain⟩, hbroken, before, rule, after, hsplit, hbefore,
    hrule, htype.symm⟩

end Settings
end SearchQuery
