import SearchQuery.Proofs.Circles
import SearchQuery.Proofs.LayeredSettings
import SearchQuery.Settings.Source

/-!
# Loading a file alone

A file that is loaded alone is not laid over itself. That saves nothing but work: settings do not
tell a mapping that is laid over itself from the mapping. The exception is a document in which a
mapping stands below itself. It can be loaded alone, but not laid over itself.
-/

namespace SearchQuery
namespace Settings

/-- Laying a mapping over itself changes nothing that settings look at. -/
theorem alike_overlay_self {root : Entries} (h : (Value.map root).Keyed) :
    Alike (Entries.overlay root root) root := by
  intro part _
  rw [Entries.get?_overlay_eq h.distinctKeys]
  cases hpart : root.get? (.text part.1) with
  | none => exact .same none
  | some v =>
    cases v with
    | map entries =>
      have hkeys := (h.of_get? hpart).distinctKeys
      change SectionAlike part.2 (some (Value.overlay (some (.map entries)) (.map entries))) _
      rw [Value.overlay_map]
      refine .mapping fun key _ => ?_
      rw [Entries.get?_overlay_eq hkeys]
      simpa using fieldAlike_overlaid (Entries.get? (.text key) entries)
        (Entries.get? (.text key) entries)
    | _ =>
      change SectionAlike part.2 (some (Value.overlay _ _)) _
      rw [Value.overlay_of_ne_map (by simp)]
      exact .same _

section

variable {files : FileTree} {path other : FilePath} {t : Text} {d e : Yaml.Document}
  {root upper : Entries}

theorem keysApart_of_readDocument (h : readDocument t = .ok d) : d.KeysApart := by
  unfold readDocument at h
  cases hd : Yaml.Document.ofText t with
  | error fault =>
    rw [hd] at h
    cases h
  | ok d' =>
    rw [hd] at h
    cases h
    exact Yaml.Document.keysApart_of_ofText hd

/-- The root is the mapping that the document says, or there is nothing to lay over. -/
theorem rootOf_eq_ok {v : Value} (h : rootOf v = .ok root) : v = .map root ∨ root = [] := by
  unfold rootOf at h
  split at h
  · cases h
    exact .inr rfl
  · split at h
    · cases h
      exact .inl rfl
    · cases h

theorem rootOf_map (root : Entries) : rootOf (.map root) = .ok root := by
  cases root <;> rfl

/-- A mapping at the root of a document is its outline, entry for entry. -/
theorem outlineOf_of_map {entries : List (Yaml.NodeId × Yaml.NodeId)}
    (h : d.content d.root = .map entries) :
    ∃ root, outlineOf d = .ok root ∧ root.length = entries.length := by
  obtain ⟨root, hroot, hkeys⟩ := d.visible_of_map h
  refine ⟨root, ?_, by simpa using congrArg List.length hkeys⟩
  rw [outlineOf, hroot, rootOf_map]

/-- Nothing meets endlessly with an empty mapping. -/
theorem meetEndlessly_of_outlineOf_nil (he : outlineOf e = .ok []) (d : Yaml.Document) :
    d.meetEndlessly e = false := by
  rw [Yaml.Document.meetEndlessly, Yaml.Document.meets]
  split
  case h_1 entries others _ hothers =>
    obtain ⟨root, hroot, hlength⟩ := outlineOf_of_map hothers
    obtain rfl : [] = root := Except.ok.inj (he.symm.trans hroot)
    obtain rfl := List.eq_nil_of_length_eq_zero hlength.symm
    simp
  case h_2 => rfl

theorem keyed_of_outlineOf (hd : d.KeysApart) (h : outlineOf d = .ok root) :
    (Value.map root).Keyed := by
  rcases rootOf_eq_ok h with hv | rfl
  · exact hv ▸ hd.keyed_visible
  · exact .map .nil (by simp)

theorem overlaid_eq (hother : readText files other = .ok t) (he : readDocument t = .ok e)
    (hupper : outlineOf e = .ok upper) :
    load.overlaid files other d root =
      if d.meetEndlessly e then .error (.document .tooDeep)
      else ofRoot (Entries.overlay root upper) := by
  simp only [load.overlaid, hother, he, hupper, ok_bind]
  rfl

/-- Nothing is laid over if the root has no entries. -/
theorem overlaid_of_outlineOf_nil (hother : readText files other = .ok t)
    (he : readDocument t = .ok e) (hempty : outlineOf e = .ok []) :
    load.overlaid files other d root = ofRoot root := by
  rw [overlaid_eq hother he hempty, meetEndlessly_of_outlineOf_nil hempty, if_neg (by simp),
    Entries.overlay_nil]

theorem loadAlone_eq (hpath : readText files path = .ok t) :
    loadAlone files path = readDocument t >>= outlineOf >>= ofRoot := by
  simp only [loadAlone, load, hpath, ok_bind, if_pos, bind_assoc]

theorem load_text_eq (other : FilePath) :
    load files other (.text t) =
      readDocument t >>= fun d => outlineOf d >>= load.overlaid files other d := rfl

/-- Loading over the text of a file, if what is laid over it does not matter. -/
theorem load_text_eq_loadAlone (hpath : readText files path = .ok t)
    (h : ∀ d root, readDocument t = .ok d → outlineOf d = .ok root →
      load.overlaid files other d root = ofRoot root) :
    load files other (.text t) = loadAlone files path := by
  rw [load_text_eq, loadAlone_eq hpath]
  cases hd : readDocument t with
  | error fault => rfl
  | ok d =>
    cases hroot : outlineOf d with
    | error fault => simp only [ok_bind, hroot, error_bind]
    | ok root => simp only [ok_bind, hroot, h d root hd hroot]

theorem ofRoot_overlay_self (hd : d.KeysApart) (hroot : outlineOf d = .ok root) :
    ofRoot (Entries.overlay root root) = ofRoot root := by
  rw [ofRoot, (alike_overlay_self (keyed_of_outlineOf hd hroot)).ofEntries_eq, ofRoot]

end

/-- Loading a file over its own text, and loading whatever is empty over it, is loading it alone.
Only a document with a circle is not laid over itself. -/
theorem load_over_itself {files : FileTree} {path : FilePath} {t : Text}
    (hpath : readText files path = .ok t) :
    ((∀ d, readDocument t = .ok d → ¬ d.Circular) →
      load files path (.text t) = loadAlone files path) ∧
    (∀ d, readDocument t = .ok d → d.Circular →
      load files path (.text t) = .error (.document .tooDeep)) ∧
    ∀ other u e, readText files other = .ok u → readDocument u = .ok e → outlineOf e = .ok [] →
      load files other (.text t) = loadAlone files path := by
  refine ⟨fun h => ?_, fun d hd hcircle => ?_, fun other u e hother he hempty => ?_⟩
  · refine load_text_eq_loadAlone hpath fun d root hd hroot => ?_
    have hkeys := keysApart_of_readDocument hd
    have hends : ¬ d.meetEndlessly d = true :=
      mt (Yaml.Document.meetEndlessly_self_iff hkeys).1 (h d hd)
    rw [overlaid_eq hpath hd hroot, if_neg hends, ofRoot_overlay_self hkeys hroot]
  · obtain ⟨_, ⟨entries, hmap, -⟩, -⟩ := hcircle.exists_below
    obtain ⟨root, hroot, -⟩ := outlineOf_of_map hmap
    have hends : d.meetEndlessly d = true :=
      (Yaml.Document.meetEndlessly_self_iff (keysApart_of_readDocument hd)).2 hcircle
    rw [load_text_eq, hd, ok_bind, hroot, ok_bind, overlaid_eq hpath hd hroot, if_pos hends]
  · exact load_text_eq_loadAlone hpath fun d root _ _ => overlaid_of_outlineOf_nil hother he hempty

/-- A file with settings, and one that says nothing. -/
def plainText : Text := "log: {level: INFO, to_file: no, dir: d}"

def plainPath : FilePath := ⟨0, ["plain.yml"]⟩

def emptyPath : FilePath := ⟨0, ["empty.yml"]⟩

def plainFiles : FileTree :=
  ⟨[(plainPath, Text.toUtf8 plainText), (emptyPath, Text.toUtf8 "{}")], []⟩

/-- A file in which the section of records stands below itself. -/
def loopText : Text := "log: &a {level: INFO, to_file: no, dir: d, self: *a}"

def loopPath : FilePath := ⟨0, ["loop.yml"]⟩

def loopFiles : FileTree := ⟨[(loopPath, Text.toUtf8 loopText)], []⟩

theorem load_over_itself_plain :
    load plainFiles plainPath (.text plainText) = loadAlone plainFiles plainPath ∧
    load plainFiles emptyPath (.text plainText) = loadAlone plainFiles plainPath ∧
    (loadAlone plainFiles plainPath).toOption =
      some ⟨⟨"INFO", false, "d"⟩, ⟨"neutral", "text"⟩⟩ ∧
    load loopFiles loopPath (.text loopText) = .error (.document .tooDeep) := by
  have hplain : readText plainFiles plainPath = .ok plainText := rfl
  have hloop : readText loopFiles loopPath = .ok loopText := rfl
  obtain ⟨hself, -, hnothing⟩ := load_over_itself hplain
  obtain ⟨-, hcircle, -⟩ := load_over_itself hloop
  refine ⟨hself fun d hd hcircular => ?_, ?_, by decide +kernel, ?_⟩
  · obtain ⟨d', hd', hends⟩ := exists_of_toOption_any (x := readDocument plainText)
      (p := fun d => !d.meetEndlessly d) (by decide +kernel)
    obtain rfl : d = d' := Except.ok.inj (hd.symm.trans hd')
    rw [(Yaml.Document.meetEndlessly_self_iff (keysApart_of_readDocument hd)).2 hcircular] at hends
    cases hends
  · obtain ⟨e, he, hempty⟩ := exists_of_toOption_any (x := readDocument "{}")
      (p := fun e => (outlineOf e).toOption.any List.isEmpty) (by decide +kernel)
    obtain ⟨root, hroot, hnil⟩ := exists_of_toOption_any hempty
    rw [List.isEmpty_iff.1 hnil] at hroot
    exact hnothing emptyPath _ e rfl he hroot
  · obtain ⟨d, hd, hmeets⟩ := exists_of_toOption_any (x := readDocument loopText)
      (p := fun d => d.meetEndlessly d) (by decide +kernel)
    exact hcircle d hd
      ((Yaml.Document.meetEndlessly_self_iff (keysApart_of_readDocument hd)).1 hmeets)

/-- A document with a circle is loaded alone, but not over itself. -/
theorem load_loop_over_itself :
    readText loopFiles loopPath = .ok loopText ∧
    (loadAlone loopFiles loopPath).toOption =
      some ⟨⟨"INFO", false, "d"⟩, ⟨"neutral", "text"⟩⟩ ∧
    (load loopFiles loopPath (.text loopText)).toOption = none ∧
    load loopFiles loopPath (.text loopText) ≠ loadAlone loopFiles loopPath := by
  have halone : (loadAlone loopFiles loopPath).toOption =
      some ⟨⟨"INFO", false, "d"⟩, ⟨"neutral", "text"⟩⟩ := by decide +kernel
  have hover : (load loopFiles loopPath (.text loopText)).toOption = none := by decide +kernel
  refine ⟨rfl, halone, hover, fun hsame => ?_⟩
  rw [hsame, halone] at hover
  cases hover

end Settings
end SearchQuery
