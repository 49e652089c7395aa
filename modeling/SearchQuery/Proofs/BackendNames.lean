import SearchQuery.Proofs.SettingsRules

/-!
# Names of backends

A name is brought into its normal form when settings are loaded, and again when a backend is built.
Both look for it in the same list, and the names in that list are in normal form. So settings that
are accepted have a backend, and settings refuse a name exactly if no backend has it.
-/

namespace SearchQuery

namespace Backend

/-- A backend with a name, which addresses a field if it is of the kind that addresses one. -/
structure Serves (b : Backend) (name field : Text) : Prop where
  name : b.name = name
  field : b.kind = .elasticsearch → b.field? = some field

variable {name : Text} {field : Option Text} {b : Backend}

theorem build_eq_ok_iff :
    build name field = .ok b ↔ ∃ kind, BackendKind.named? (BackendKind.normalize name) = some kind ∧
      b = ofKind (field.getD defaultField) kind := by
  unfold build
  cases BackendKind.named? (BackendKind.normalize name) with
  | none => simp
  | some kind => simp [eq_comm]

/-- Whether a backend is built depends on the normal form of the name only. -/
theorem exists_build_iff :
    (∃ b, build name field = .ok b) ↔ BackendKind.normalize name ∈ BackendKind.names := by
  rw [← BackendKind.named?_isSome_iff, Option.isSome_iff_exists]
  constructor
  · rintro ⟨b, hb⟩
    obtain ⟨kind, hkind, -⟩ := build_eq_ok_iff.1 hb
    exact ⟨kind, hkind⟩
  · rintro ⟨kind, hkind⟩
    exact ⟨_, build_eq_ok_iff.2 ⟨kind, hkind, rfl⟩⟩

theorem serves_build (h : build name field = .ok b) :
    b.Serves (BackendKind.normalize name) (field.getD defaultField) where
  name := name_build h
  field := by
    obtain ⟨kind, -, rfl⟩ := build_eq_ok_iff.1 h
    intro hkind
    cases kind with
    | neutral => cases hkind
    | elasticsearch => rfl

/-- A name in the list is that of the backend that is built for it. -/
theorem exists_build_of_mem (h : name ∈ BackendKind.names) (field : Option Text) :
    ∃ b, build name field = .ok b ∧ b.Serves name (field.getD defaultField) := by
  have hnormal : BackendKind.normalize name = name := Settings.normalize_of_mem_names h
  obtain ⟨b, hb⟩ := exists_build_iff.2 (hnormal.symm ▸ h)
  exact ⟨b, hb, hnormal ▸ serves_build hb⟩

end Backend

namespace Settings

/-- A mapping that says only the name of a backend. -/
def namingRoot (name : Text) : Entries := [(.text "backend", .object [("name", .text name)])]

theorem load_namingRoot (name : Text) :
    BackendSettings.load (namingRoot name) =
      .ok ⟨BackendKind.normalize name, Backend.defaultField⟩ := by
  have hfield : Backend.defaultField.trim = Backend.defaultField := by decide
  change Except.ok (BackendSettings.mk (BackendKind.normalize name) Backend.defaultField.trim) = _
  rw [hfield]

variable {s : Settings}

theorem createBackend_of_ne_nil {name : Text} (h : name ≠ []) :
    s.createBackend (some name) = Backend.build name (some s.backend.field) := by
  simp [createBackend, h]

/-- Settings accept the name of a backend exactly if the backend can be built, and know it by its
normal form. Accepted settings have their backend, also if the name that is to replace theirs is
empty; any other name chooses the backend that has it, with the field of the settings. -/
theorem backend_of_settings :
    (∀ name, ∃ loaded, BackendSettings.load (namingRoot name) = .ok loaded ∧
      ((∃ b, Backend.build name none = .ok b) ↔ loaded.check = .ok ()) ∧
      ∀ b, Backend.build name none = .ok b → b.name = loaded.name) ∧
    ∀ root s, ofEntries root = .ok s →
      (∃ b, s.createBackend none = .ok b ∧ s.createBackend (some []) = .ok b ∧
        b.Serves s.backend.name s.backend.field) ∧
      ∀ name, name ≠ [] →
        ((∃ b, s.createBackend (some name) = .ok b) ↔ ∃ b, Backend.build name none = .ok b) ∧
        ∀ b c, s.createBackend (some name) = .ok b → Backend.build name none = .ok c →
          b.Serves c.name s.backend.field := by
  refine ⟨fun name => ⟨_, load_namingRoot name, ?_, ?_⟩, fun root s h => ⟨?_, ?_⟩⟩
  · have hfield : Backend.defaultField ≠ [] := by decide
    rw [Backend.exists_build_iff, BackendSettings.check_eq_ok_iff, and_iff_left hfield]
  · intro b hb
    exact (Backend.serves_build hb).name
  · obtain ⟨b, hb, hserves⟩ :=
      Backend.exists_build_of_mem (normal_of_ofEntries h).name (some s.backend.field)
    exact ⟨b, hb, hb, hserves⟩
  · intro name hname
    rw [createBackend_of_ne_nil hname]
    refine ⟨Backend.exists_build_iff.trans Backend.exists_build_iff.symm, ?_⟩
    intro b c hb hc
    have hserves := Backend.serves_build hb
    rw [(Backend.serves_build hc).name]
    exact hserves

/-- The settings choose one backend, and another spelling of the other name replaces it. -/
theorem backend_of_settings_replaced :
    ∃ s, ofEntries spacedRoot = .ok s ∧
      (∃ b, s.createBackend none = .ok b ∧ s.createBackend (some []) = .ok b ∧
        b.Serves "elasticsearch" "body") ∧
      (" NEUTRAL\n" : Text) ≠ [] ∧
      ∃ b, s.createBackend (some " NEUTRAL\n") = .ok b ∧ b.Serves "neutral" "body" := by
  have hspaced : ofEntries spacedRoot =
      .ok ⟨⟨"DEBUG", true, " log"⟩, ⟨"elasticsearch", "body"⟩⟩ := by decide +kernel
  have hbuild : Backend.build " NEUTRAL\n" none = .ok .neutral :=
    Backend.build_eq_ok_iff.2 ⟨.neutral, by decide +kernel, rfl⟩
  have hname : (" NEUTRAL\n" : Text) ≠ [] := by decide
  obtain ⟨hown, hother⟩ := backend_of_settings.2 _ _ hspaced
  obtain ⟨hiff, hserves⟩ := hother _ hname
  obtain ⟨b, hb⟩ := hiff.2 ⟨_, hbuild⟩
  exact ⟨_, hspaced, hown, hname, b, hb, hserves b _ hb hbuild⟩

end Settings
end SearchQuery
