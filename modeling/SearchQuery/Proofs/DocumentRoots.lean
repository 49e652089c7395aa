import SearchQuery.Proofs.LoadingAlone

/-!
# Roots of documents

The root of a document should be a mapping, and only an empty document may go without one. Documents
are read like this with the exception of a few roots that stand for nothing: false, zero, and texts,
octets, lists and sets without parts. They count as empty documents, and a file with such a root
sets nothing where it is laid over defaults. All other roots are refused, whatever the defaults say.
-/

namespace SearchQuery

/-- The value stands for nothing, but it is neither null nor a mapping. -/
inductive Value.Hollow : Value → Prop where
  | false : Hollow (.bool false)
  | zero : Hollow (.int 0)
  | float {x : Binary64} : x.isZero = true → Hollow (.scalar (.float x))
  | text : Hollow (.text [])
  | bytes : Hollow (.scalar (.bytes []))
  | list : Hollow (.list [])
  | set : Hollow (.set [])

/-- What stands for nothing is an empty document, a mapping without entries, or hollow. -/
theorem Value.isVoid_iff {v : Value} : v.isVoid = true ↔ v = .null ∨ v = .map [] ∨ v.Hollow := by
  constructor
  · intro h
    cases v with
    | scalar s =>
      cases s with
      | null => exact .inl rfl
      | bool b =>
        cases b with
        | false => exact .inr (.inr .false)
        | true => cases h
      | int i =>
        obtain rfl : i = 0 := by simpa [isVoid, Scalar.isVoid] using h
        exact .inr (.inr .zero)
      | float x => exact .inr (.inr (.float h))
      | text t =>
        obtain rfl := List.isEmpty_iff.1 h
        exact .inr (.inr .text)
      | bytes octets =>
        obtain rfl := List.isEmpty_iff.1 h
        exact .inr (.inr .bytes)
      | nan | date | moment => cases h
    | list items =>
      obtain rfl := List.isEmpty_iff.1 h
      exact .inr (.inr .list)
    | map entries =>
      obtain rfl := List.isEmpty_iff.1 h
      exact .inr (.inl rfl)
    | set members =>
      obtain rfl := List.isEmpty_iff.1 h
      exact .inr (.inr .set)
  · rintro (rfl | rfl | h)
    · rfl
    · rfl
    · cases h with
      | float hx => exact hx
      | _ => rfl

def Value.items? : Value → Option (List Value)
  | .list items => some items
  | _ => none

theorem Value.items?_eq_some_iff {v : Value} {items : List Value} :
    v.items? = some items ↔ v = .list items := by
  cases v <;> simp [items?]

namespace Settings

/-- The entries of a root that is a mapping. Only null may stand for a mapping without entries. -/
def strictRootOf : Value → Except LoadError Entries
  | .map entries => .ok entries
  | .scalar .null => .ok []
  | _ => .error .rootNotAMapping

section

variable {v : Value} {t : Text} {d : Yaml.Document}

theorem rootOf_of_hollow (h : v.Hollow) : rootOf v = .ok [] := by
  have hvoid : v.isVoid = true := Value.isVoid_iff.2 (.inr (.inr h))
  unfold rootOf
  rw [if_pos hvoid]

theorem strictRootOf_of_hollow (h : v.Hollow) : strictRootOf v = .error .rootNotAMapping := by
  cases h <;> rfl

theorem rootOf_eq_strictRootOf (h : ¬ v.Hollow) : rootOf v = strictRootOf v := by
  unfold rootOf
  split
  case isTrue hvoid =>
    rcases Value.isVoid_iff.1 hvoid with rfl | rfl | hhollow
    · rfl
    · rfl
    · exact absurd hhollow h
  case isFalse hvoid =>
    split
    case h_1 entries => rfl
    case h_2 hmap =>
      unfold strictRootOf
      split
      case h_1 entries => exact absurd rfl (hmap entries)
      case h_2 => exact absurd rfl hvoid
      case h_3 => rfl

/-- Only the hollow roots are not read as they should be. -/
theorem rootOf_eq_strictRootOf_iff : rootOf v = strictRootOf v ↔ ¬ v.Hollow := by
  refine ⟨fun h hhollow => ?_, rootOf_eq_strictRootOf⟩
  rw [rootOf_of_hollow hhollow, strictRootOf_of_hollow hhollow] at h
  cases h

theorem visible_of_value? (h : d.value? = some v) : d.visible = v := by
  rw [Yaml.Document.visible, h, Option.getD_some]

theorem readRoot_of_value? (hd : readDocument t = .ok d) (h : d.value? = some v) :
    readRoot t = rootOf v := by
  rw [readRoot, hd, ok_bind, outlineOf, visible_of_value? h, h]
  cases rootOf v <;> rfl

end

def Defaults.document (files : FileTree) : Defaults → Except LoadError Yaml.Document
  | .text t => readDocument t
  | .file path => readText files path >>= readDocument

section

variable {files : FileTree} {path : FilePath} {defaults : Defaults} {t : Text} {e : Yaml.Document}

theorem load_eq_overlaid (h : defaults ≠ .file path) :
    load files path defaults =
      defaults.document files >>= fun base => outlineOf base >>= load.overlaid files path base := by
  cases defaults with
  | text t => rfl
  | file other =>
    have hne : path ≠ other := fun hpath => h (by rw [hpath])
    simp only [load, Defaults.document, if_neg hne, bind_assoc]

/-- A file over which nothing is laid but itself is read like any defaults. -/
theorem load_file_self (files : FileTree) (path : FilePath) :
    load files path (.file path) =
      (Defaults.file path).document files >>= outlineOf >>= ofRoot := by
  simp only [load, Defaults.document, if_pos, bind_assoc]

/-- A root without entries sets nothing: the settings are those of the defaults. -/
theorem load_of_outlineOf_nil (hpath : readText files path = .ok t)
    (he : readDocument t = .ok e) (hempty : outlineOf e = .ok []) :
    load files path defaults = defaults.document files >>= outlineOf >>= ofRoot := by
  by_cases hself : defaults = .file path
  · rw [hself, load_file_self]
  · have hoverlaid : load.overlaid files path = fun _ => ofRoot := by
      funext base lower
      exact overlaid_of_outlineOf_nil hpath he hempty
    rw [load_eq_overlaid hself, hoverlaid, bind_assoc]

/-- A root that is refused is refused over all defaults that can be read. -/
theorem load_of_outlineOf_error {fault : LoadError} (hpath : readText files path = .ok t)
    (he : readDocument t = .ok e) (hfault : outlineOf e = .error fault) :
    load files path defaults = defaults.document files >>= outlineOf >>= fun _ => .error fault := by
  by_cases hself : defaults = .file path
  · rw [hself, load_file_self, Defaults.document, hpath, ok_bind, he, ok_bind, hfault, error_bind,
      error_bind]
  · have hoverlaid : load.overlaid files path = fun _ _ => .error fault := by
      funext base lower
      simp only [load.overlaid, hpath, he, hfault, ok_bind, error_bind]
    rw [load_eq_overlaid hself, hoverlaid, bind_assoc]

end

/-- Roots are read as they should be with the exception of the hollow ones, which are read as empty.
Over defaults that can be read, a root that is neither a mapping nor empty is refused, unless it is
hollow: then the settings are those of the defaults. -/
theorem root_of_document {t : Text} {d : Yaml.Document} (h : readDocument t = .ok d) :
    (outlineOf d = strictRootOf d.visible ↔ ¬ d.visible.Hollow) ∧
    (d.visible.Hollow → outlineOf d = .ok []) ∧
    (∀ v, d.value? = some v →
      (readRoot t = strictRootOf v ↔ ¬ v.Hollow) ∧ (v.Hollow → readRoot t = .ok [])) ∧
    ∀ files path defaults, readText files path = .ok t →
      (strictRootOf d.visible = .error .rootNotAMapping → ¬ d.visible.Hollow →
        load files path defaults =
          defaults.document files >>= outlineOf >>= fun _ => .error .rootNotAMapping) ∧
      (d.visible.Hollow →
        load files path defaults = defaults.document files >>= outlineOf >>= ofRoot) := by
  refine ⟨rootOf_eq_strictRootOf_iff, rootOf_of_hollow, fun v hv => ?_,
    fun files path defaults hpath => ⟨fun hrefused hhollow => ?_, fun hhollow => ?_⟩⟩
  · rw [readRoot_of_value? h hv]
    exact ⟨rootOf_eq_strictRootOf_iff, rootOf_of_hollow⟩
  · exact load_of_outlineOf_error hpath h ((rootOf_eq_strictRootOf hhollow).trans hrefused)
  · exact load_of_outlineOf_nil hpath h (rootOf_of_hollow hhollow)

/-- A document that is a list, known by looking at its items. -/
theorem exists_list_of_any {t : Text} {p : List Value → Bool}
    (h : (readDocument t).toOption.any (fun d => (d.value?.bind Value.items?).any p) = true) :
    ∃ d items, readDocument t = .ok d ∧ d.value? = some (.list items) ∧ p items = true := by
  obtain ⟨d, hd, hlist⟩ := exists_of_toOption_any h
  obtain ⟨items, hitems, hp⟩ := (Option.any_eq_true _ _).1 hlist
  obtain ⟨v, hv, hitems⟩ := Option.bind_eq_some_iff.1 hitems
  rw [Value.items?_eq_some_iff.1 hitems] at hv
  exact ⟨d, items, hd, hv, hp⟩

def listPath : FilePath := ⟨0, ["list.yml"]⟩

def listFiles (t : Text) : FileTree := ⟨[(listPath, Text.toUtf8 t)], []⟩

theorem root_of_document_items :
    ∃ d items, readDocument "[a, b]" = .ok d ∧ d.value? = some (.list items) ∧
      ¬ (Value.list items).Hollow ∧ readRoot "[a, b]" = .error .rootNotAMapping ∧
      load (listFiles "[a, b]") listPath (.text plainText) = .error .rootNotAMapping := by
  obtain ⟨d, items, hd, hvalue, hitems⟩ := exists_list_of_any (t := "[a, b]")
    (p := fun items => !items.isEmpty) (by decide +kernel)
  have hvisible := visible_of_value? hvalue
  have hhollow : ¬ (Value.list items).Hollow := by
    rintro ⟨⟩
    cases hitems
  obtain ⟨-, -, hread, hload⟩ := root_of_document hd
  have hover := (hload (listFiles "[a, b]") listPath (.text plainText) rfl).1
    (by rw [hvisible]; rfl) (by rwa [hvisible])
  obtain ⟨lower, hlower, -⟩ := exists_of_toOption_any
    (x := readDocument plainText >>= outlineOf) (p := fun _ => true) (by decide +kernel)
  refine ⟨d, items, hd, hvalue, hhollow, (hread _ hvalue).1.2 hhollow, ?_⟩
  rw [hover, Defaults.document, hlower, ok_bind]

/-- A list without items is neither a mapping nor null, but it is read as an empty mapping, and as
an override it is not refused. -/
theorem root_of_document_without_items :
    (∃ d, readDocument "[]" = .ok d ∧ d.value? = some (.list [])) ∧
    strictRootOf (.list []) = .error .rootNotAMapping ∧
    readRoot "[]" = .ok [] ∧
    (load (listFiles "[]") listPath (.text plainText)).toOption =
      some ⟨⟨"INFO", false, "d"⟩, ⟨"neutral", "text"⟩⟩ := by
  obtain ⟨d, items, hd, hvalue, hitems⟩ := exists_list_of_any (t := "[]") (p := List.isEmpty)
    (by decide +kernel)
  obtain ⟨root, hroot, hnil⟩ := exists_of_toOption_any (x := readRoot "[]") (p := List.isEmpty)
    (by decide +kernel)
  rw [List.isEmpty_iff.1 hitems] at hvalue
  rw [List.isEmpty_iff.1 hnil] at hroot
  exact ⟨⟨d, hd, hvalue⟩, rfl, hroot, by decide +kernel⟩

end Settings
end SearchQuery
