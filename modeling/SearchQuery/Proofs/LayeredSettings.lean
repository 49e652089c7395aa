import SearchQuery.Proofs.Overlays
import SearchQuery.Proofs.SettingsRules

/-!
# Layered settings

Settings are read from five fields in two sections, so that mappings which agree there are not told
apart. An override changes the fields that it sets and leaves the others to what lies below. There
is one exception: a section that is null in the override takes the section below it away, with all
its fields.
-/

namespace SearchQuery

/-- Looking up a key in fields that are there or not. -/
theorem Entries.get?_filterMap {α : Type} (key : α → Text) (f : α → Option Value) {items : List α}
    (h : (items.map key).Nodup) {a : α} (ha : a ∈ items) :
    get? (.text (key a)) (items.filterMap fun b => (f b).map fun v => (.text (key b), v)) =
      f a := by
  induction items with
  | nil => cases ha
  | cons b items ih =>
    rw [List.map_cons, List.nodup_cons] at h
    rcases List.mem_cons.1 ha with rfl | ha
    · have hnone : get? (.text (key a))
          (items.filterMap fun b => (f b).map fun v => (.text (key b), v)) = none := by
        rw [get?_eq_none_iff]
        intro k hk hsame
        obtain ⟨e, he, rfl⟩ := List.mem_map.1 hk
        obtain ⟨c, hc, hfc⟩ := List.mem_filterMap.1 he
        obtain ⟨v, -, rfl⟩ := Option.map_eq_some_iff.1 hfc
        rw [Scalar.sameKey_text_iff] at hsame
        exact h.1 (hsame ▸ List.mem_map_of_mem hc)
      cases hfa : f a with
      | none => simpa [hfa] using hnone
      | some v => simp [hfa, get?]
    · have hne : key b ≠ key a := fun hk => h.1 (hk ▸ List.mem_map_of_mem ha)
      cases hfb : f b with
      | none => simpa [hfb] using ih h.2 ha
      | some v => simpa [hfb, get?, Scalar.sameKey_text_iff, hne] using ih h.2 ha

namespace Settings

def logPart : Text × List Text := ("log", ["level", "to_file", "dir"])

def backendPart : Text × List Text := ("backend", ["name", "field"])

/-- The sections that settings are read from, with their fields. -/
def layout : List (Text × List Text) := [logPart, backendPart]

/-- Values of a field that are the same, or both of no use. -/
def FieldAlike (x y : Option Value) : Prop :=
  x = y ∨ ∃ es fs, x = some (.map es) ∧ y = some (.map fs)

/-- A section counts as missing if it is null. -/
def Lacks (x : Option Value) : Prop := x = none ∨ x = some .null

/-- Sections that are both missing, or agree in the fields that are read. -/
inductive SectionAlike (keys : List Text) : Option Value → Option Value → Prop
  | missing {x y : Option Value} : Lacks x → Lacks y → SectionAlike keys x y
  | mapping {es fs : Entries} :
      (∀ key ∈ keys, FieldAlike (es.get? (.text key)) (fs.get? (.text key))) →
      SectionAlike keys (some (.map es)) (some (.map fs))
  | same (x : Option Value) : SectionAlike keys x x

/-- Mappings that settings do not tell apart. -/
def Alike (a b : Entries) : Prop :=
  ∀ part ∈ layout, SectionAlike part.2 (a.get? (.text part.1)) (b.get? (.text part.1))

section

variable {a b : Entries} {name key : Text} {keys : List Text}

theorem given_holds_iff {root : Entries} :
    (Rule.given name).Holds root ↔ ¬ Lacks (root.get? (.text name)) := by
  simp only [Rule.Holds, Lacks, not_or]
  cases root.get? (.text name) with
  | none => simp
  | some v => simp

theorem given_congr (h : SectionAlike keys (a.get? (.text name)) (b.get? (.text name))) :
    (Rule.given name).Holds a ↔ (Rule.given name).Holds b := by
  rw [given_holds_iff, given_holds_iff]
  generalize a.get? (.text name) = x, b.get? (.text name) = y at h
  cases h with
  | missing hx hy => exact iff_of_false (not_not.2 hx) (not_not.2 hy)
  | mapping => simp [Lacks]
  | same => rfl

theorem Lacks.eq_null {x : Option Value} {v : Value} (h : Lacks x) (hv : x = some v) :
    v = .null := by
  rcases h with rfl | rfl
  · cases hv
  · exact (Option.some.inj hv).symm

theorem mapping_congr (h : SectionAlike keys (a.get? (.text name)) (b.get? (.text name))) :
    (Rule.mapping name).Holds a ↔ (Rule.mapping name).Holds b := by
  simp only [Rule.Holds]
  generalize a.get? (.text name) = x, b.get? (.text name) = y at h
  cases h with
  | missing hx hy =>
    exact iff_of_true (fun v hv => .inl (hx.eq_null hv)) (fun v hv => .inl (hy.eq_null hv))
  | mapping => simp
  | same => rfl

theorem field?_congr (h : SectionAlike keys (a.get? (.text name)) (b.get? (.text name)))
    (hkey : key ∈ keys) : FieldAlike (field? a name key) (field? b name key) := by
  unfold field?
  generalize a.get? (.text name) = x, b.get? (.text name) = y at h
  cases h with
  | missing hx hy => rcases hx with rfl | rfl <;> rcases hy with rfl | rfl <;> exact .inl rfl
  | mapping hfields => exact hfields key hkey
  | same => exact .inl rfl

theorem FieldAlike.present_iff {x y : Option Value} (h : FieldAlike x y) :
    (∃ v, x = some v) ↔ ∃ v, y = some v := by
  rcases h with rfl | ⟨es, fs, rfl, rfl⟩
  · rfl
  · exact iff_of_true ⟨_, rfl⟩ ⟨_, rfl⟩

theorem FieldAlike.eq_scalar_iff {x y : Option Value} (h : FieldAlike x y) (s : Scalar) :
    x = some (.scalar s) ↔ y = some (.scalar s) := by
  rcases h with rfl | ⟨es, fs, rfl, rfl⟩
  · rfl
  · simp

/-- Alike fields hold values of a kind of scalar together. -/
theorem FieldAlike.forall_scalar_iff {α : Type} {x y : Option Value} (h : FieldAlike x y)
    (f : α → Scalar) :
    (∀ v, x = some v → ∃ t, v = .scalar (f t)) ↔ ∀ v, y = some v → ∃ t, v = .scalar (f t) := by
  rcases h with rfl | ⟨es, fs, rfl, rfl⟩
  · rfl
  · simp

theorem text?_congr (h : FieldAlike (field? a name key) (field? b name key)) :
    text? a name key = text? b name key := by
  apply Option.ext
  intro t
  rw [text?_eq_some_iff, text?_eq_some_iff]
  exact h.eq_scalar_iff (.text t)

theorem Alike.field? (h : Alike a b) {part : Text × List Text} (hpart : part ∈ layout)
    (hkey : key ∈ part.2) : FieldAlike (field? a part.1 key) (field? b part.1 key) :=
  field?_congr (h part hpart) hkey

theorem Alike.symm (h : Alike a b) : Alike b a := by
  intro part hpart
  have hsection := h part hpart
  generalize a.get? (.text part.1) = x, b.get? (.text part.1) = y at hsection
  cases hsection with
  | missing hx hy => exact .missing hy hx
  | mapping hfields =>
    refine .mapping fun key hkey => ?_
    rcases hfields key hkey with he | ⟨es, fs, hes, hfs⟩
    · exact .inl he.symm
    · exact .inr ⟨fs, es, hfs, hes⟩
  | same => exact .same _

end

/-! ## Settings of alike mappings -/

section

variable {a b : Entries}

theorem Alike.logField (h : Alike a b) (key : Text) (hkey : key ∈ logPart.2) :
    FieldAlike (Settings.field? a "log" key) (Settings.field? b "log" key) :=
  h.field? (show logPart ∈ layout by simp [layout]) hkey

theorem Alike.backendField (h : Alike a b) (key : Text) (hkey : key ∈ backendPart.2) :
    FieldAlike (Settings.field? a "backend" key) (Settings.field? b "backend" key) :=
  h.field? (show backendPart ∈ layout by simp [layout]) hkey

theorem Alike.holds_iff (h : Alike a b) {r : Rule} (hr : r ∈ Rule.all) :
    r.Holds a ↔ r.Holds b := by
  have hlog := h logPart (by simp [layout])
  have hbackend := h backendPart (by simp [layout])
  have hlevel := h.logField "level" (by decide)
  have htoFile := h.logField "to_file" (by decide)
  have hdirectory := h.logField "dir" (by decide)
  have hname := h.backendField "name" (by decide)
  have hfield := h.backendField "field" (by decide)
  simp only [Rule.all, List.mem_cons, List.not_mem_nil, or_false] at hr
  rcases hr with rfl | rfl | rfl | rfl | rfl | rfl | rfl | rfl | rfl | rfl | rfl | rfl | rfl | rfl |
    rfl
  · exact given_congr hlog
  · exact mapping_congr hlog
  · exact hlevel.present_iff
  · exact hlevel.forall_scalar_iff Scalar.text
  · exact htoFile.present_iff
  · exact htoFile.forall_scalar_iff Scalar.bool
  · exact hdirectory.present_iff
  · exact hdirectory.forall_scalar_iff Scalar.text
  · exact mapping_congr hbackend
  · exact hname.forall_scalar_iff Scalar.text
  · exact hfield.forall_scalar_iff Scalar.text
  · simp only [Rule.Holds, text?_congr hlevel]
  · simp only [Rule.Holds, text?_congr hdirectory, htoFile.eq_scalar_iff]
  · simp only [Rule.Holds, text?_congr hname]
  · simp only [Rule.Holds, text?_congr hfield]

theorem Alike.error_eq (h : Alike a b) (r : Rule) : r.error a = r.error b := by
  have hname := text?_congr (h.backendField "name" (by decide))
  cases r with
  | backend => simp only [Rule.error, hname]
  | _ => rfl

theorem Alike.ofEntries_eq_error (h : Alike a b) {e : SettingsError} (he : ofEntries a = .error e) :
    ofEntries b = .error e := by
  obtain ⟨before, rule, after, hsplit, hbefore, hrule, rfl⟩ :=
    (follows_ofEntries a).eq_error_iff.1 he
  have hmem : ∀ r ∈ before, r ∈ Rule.all := by
    intro r hr
    rw [hsplit]
    exact List.mem_append_left _ hr
  refine (follows_ofEntries b).eq_error_iff.2 ⟨before, rule, after, hsplit, ?_, ?_, h.error_eq rule⟩
  · intro r hr
    exact (h.holds_iff (hmem r hr)).1 (hbefore r hr)
  · exact mt (h.holds_iff (by simp [hsplit])).2 hrule

theorem Alike.loaded (h : Alike a b) {log : LogSettings} {backend : BackendSettings}
    (hl : Loaded a log backend) : Loaded b log backend where
  level := by
    rw [← text?_congr (h.logField "level" (by decide))]
    exact hl.level
  toFile := ((h.logField "to_file" (by decide)).eq_scalar_iff _).1 hl.toFile
  directory := by
    rw [← text?_congr (h.logField "dir" (by decide))]
    exact hl.directory
  name := by
    rw [← text?_congr (h.backendField "name" (by decide))]
    exact hl.name
  field := by
    rw [← text?_congr (h.backendField "field" (by decide))]
    exact hl.field

theorem Loaded.unique {root : Entries} {s t : Settings} (hs : Loaded root s.log s.backend)
    (ht : Loaded root t.log t.backend) : s = t := by
  obtain ⟨u, hu, hlevel⟩ := hs.level
  obtain ⟨v, hv, hlevel'⟩ := ht.level
  obtain rfl : u = v := Option.some.inj (hu.symm.trans hv)
  have htoFile : Value.bool s.log.toFile = .bool t.log.toFile :=
    Option.some.inj (hs.toFile.symm.trans ht.toFile)
  have hdirectory := Option.some.inj (hs.directory.symm.trans ht.directory)
  have hname := hs.name.trans ht.name.symm
  have hfield := hs.field.trans ht.field.symm
  obtain ⟨⟨level, toFile, directory⟩, ⟨name, field⟩⟩ := s
  obtain ⟨⟨level', toFile', directory'⟩, ⟨name', field'⟩⟩ := t
  simp only [Value.scalar.injEq, Scalar.bool.injEq] at htoFile
  simp_all

/-- Mappings that agree in the fields of settings have the same outcome. -/
theorem Alike.ofEntries_eq (h : Alike a b) : ofEntries a = ofEntries b := by
  cases ha : ofEntries a with
  | error e => exact (h.ofEntries_eq_error ha).symm
  | ok s =>
    cases hb : ofEntries b with
    | error e =>
      rw [h.symm.ofEntries_eq_error hb] at ha
      cases ha
    | ok t =>
      have hs := h.loaded (loaded_of_ofEntries ha)
      rw [hs.unique (loaded_of_ofEntries hb)]

end

/-! ## Overrides -/

def isSection (root : Entries) (name : Text) : Bool :=
  match root.get? (.text name) with
  | some (.map _) => true
  | _ => false

/-- Every section is a mapping or missing. -/
def Sectioned (root : Entries) : Prop :=
  ∀ part ∈ layout, Lacks (root.get? (.text part.1)) ∨ isSection root part.1 = true

/-- The value of a field in the upper entries if it is there, and else in the lower ones. -/
def chosen (lower upper : Entries) (name key : Text) : Option Value :=
  (field? upper name key).or (field? lower name key)

/-- A section with the fields that are chosen, if either side has the section. -/
def layeredPart (lower upper : Entries) (part : Text × List Text) : Option Value :=
  if isSection lower part.1 || isSection upper part.1 then
    some (.map (part.2.filterMap fun key =>
      (chosen lower upper part.1 key).map fun v => (.text key, v)))
  else none

def layered (lower upper : Entries) : Entries :=
  layout.filterMap fun part => (layeredPart lower upper part).map fun v => (.text part.1, v)

def isNull : Option Value → Bool
  | some (.scalar .null) => true
  | _ => false

/-- The lower entries without those that the upper entries set to null. -/
def withoutNulls (lower upper : Entries) : Entries := lower.filter fun e => !isNull (upper.get? e.1)

section

variable {lower upper : Entries} {name key : Text} {part : Text × List Text}

theorem isSection_iff {root : Entries} :
    isSection root name = true ↔ ∃ es, root.get? (.text name) = some (.map es) := by
  unfold isSection
  split
  case h_1 es h => exact iff_of_true rfl ⟨es, h⟩
  case h_2 h => simpa using fun es hes => h es hes

theorem isNull_iff {x : Option Value} : isNull x = true ↔ x = some .null := by
  unfold isNull
  split
  case h_1 => simp
  case h_2 h => simpa using fun hx => h hx

instance (x : Option Value) : Decidable (Lacks x) :=
  decidable_of_iff (x.isNone = true ∨ isNull x = true) (by
    rw [isNull_iff, Option.isNone_iff_eq_none]
    rfl)

instance : DecidablePred Sectioned := fun root =>
  inferInstanceAs (Decidable (∀ part ∈ layout,
    Lacks (root.get? (.text part.1)) ∨ isSection root part.1 = true))

theorem get?_withoutNulls (lower upper : Entries) (k : Scalar) :
    (withoutNulls lower upper).get? k =
      if isNull (upper.get? k) then none else lower.get? k := by
  induction lower with
  | nil => simp [withoutNulls]
  | cons entry rest ih =>
    obtain ⟨j, v⟩ := entry
    rw [withoutNulls, List.filter_cons]
    by_cases hj : Scalar.SameKey j k
    · rw [Entries.get?_of_sameKey hj]
      cases hnull : isNull (upper.get? k) with
      | true => simpa [hnull, withoutNulls] using ih
      | false => simp [Entries.get?, hj]
    · have hrest : Entries.get? k ((j, v) :: rest) = Entries.get? k rest := by
        rw [Entries.get?, if_neg hj]
      rw [hrest, ← ih]
      split
      · rw [Entries.get?, if_neg hj]
        rfl
      · rfl

theorem get?_layered (hpart : part ∈ layout) :
    (layered lower upper).get? (.text part.1) = layeredPart lower upper part :=
  Entries.get?_filterMap Prod.fst (layeredPart lower upper) (by decide) hpart

theorem nodup_of_mem_layout (hpart : part ∈ layout) : part.2.Nodup := by
  have hall : ∀ part ∈ layout, part.2.Nodup := by decide
  exact hall part hpart

theorem get?_chosen (hpart : part ∈ layout) (hkey : key ∈ part.2) :
    Entries.get? (.text key)
        (part.2.filterMap fun k => (chosen lower upper part.1 k).map fun v => (.text k, v)) =
      chosen lower upper part.1 key :=
  Entries.get?_filterMap id (chosen lower upper part.1)
    (by simpa using nodup_of_mem_layout hpart) hkey

/-- A value laid over another is what it is, but for what lies below a mapping. -/
theorem fieldAlike_overlay (x : Option Value) (v : Value) :
    FieldAlike (some (Value.overlay x v)) (some v) := by
  by_cases h : ∃ l u, x = some (.map l) ∧ v = .map u
  · obtain ⟨l, u, rfl, rfl⟩ := h
    exact .inr ⟨_, u, congrArg some (Value.overlay_map l u), rfl⟩
  · rw [Value.overlay_of_ne_map fun l u hlu => h ⟨l, u, hlu⟩]
    exact .inl rfl

theorem fieldAlike_overlaid (x y : Option Value) : FieldAlike (Value.overlaid x y) (y.or x) := by
  cases y with
  | none => exact .inl rfl
  | some v => exact fieldAlike_overlay x v

theorem isSection_withoutNulls :
    isSection (withoutNulls lower upper) name =
      (isSection lower name && !isNull (upper.get? (.text name))) := by
  unfold isSection
  rw [get?_withoutNulls]
  cases isNull (upper.get? (.text name)) <;> simp

theorem field?_withoutNulls (h : isNull (upper.get? (.text name)) = false) :
    field? (withoutNulls lower upper) name key = field? lower name key := by
  unfold field?
  rw [get?_withoutNulls, h]
  rfl

theorem layeredPart_of_isSection
    (h : isSection lower part.1 = true ∨ isSection upper part.1 = true) :
    layeredPart lower upper part = some (.map (part.2.filterMap fun key =>
      (chosen lower upper part.1 key).map fun v => (.text key, v))) := by
  rw [layeredPart, if_pos (by simpa using h)]

theorem layeredPart_of_not_isSection (hl : isSection lower part.1 = false)
    (hu : isSection upper part.1 = false) : layeredPart lower upper part = none := by
  rw [layeredPart, hl, hu]
  rfl

theorem isSection_of_lacks {root : Entries} (h : Lacks (root.get? (.text name))) :
    isSection root name = false := by
  unfold isSection
  rcases h with h | h <;> rw [h]

theorem field?_of_lacks {root : Entries} (h : Lacks (root.get? (.text name))) :
    field? root name key = none := by
  unfold field?
  rcases h with h | h <;> rw [h]

/-- A section that the upper entries leave out is that of the lower ones. -/
theorem sectionAlike_of_none (hpart : part ∈ layout) (hl : Sectioned lower)
    (hu : upper.get? (.text part.1) = none) :
    SectionAlike part.2 (lower.get? (.text part.1))
      (layeredPart (withoutNulls lower upper) upper part) := by
  have hnull : isNull (upper.get? (.text part.1)) = false := by rw [hu]; rfl
  have hsection : isSection (withoutNulls lower upper) part.1 = isSection lower part.1 := by
    rw [isSection_withoutNulls, hnull, Bool.not_false, Bool.and_true]
  have hupper : isSection upper part.1 = false := isSection_of_lacks (.inl hu)
  rcases hl part hpart with hlacks | hlower
  · rw [layeredPart_of_not_isSection (hsection.trans (isSection_of_lacks hlacks)) hupper]
    exact .missing hlacks (.inl rfl)
  · obtain ⟨l, hmap⟩ := isSection_iff.1 hlower
    rw [layeredPart_of_isSection (.inl (hsection.trans hlower)), hmap]
    refine .mapping fun key hkey => ?_
    rw [get?_chosen hpart hkey, chosen, field?_of_lacks (.inl hu), field?_withoutNulls hnull,
      field?_of_section hmap]
    exact .inl rfl

/-- A section that the upper entries set to null is missing. -/
theorem sectionAlike_of_null (hu : upper.get? (.text part.1) = some .null) (x : Option Value) :
    SectionAlike part.2 (Value.overlaid x (some .null))
      (layeredPart (withoutNulls lower upper) upper part) := by
  have hnull : isNull (upper.get? (.text part.1)) = true := isNull_iff.2 hu
  have hlower : isSection (withoutNulls lower upper) part.1 = false := by
    rw [isSection_withoutNulls, hnull, Bool.not_true, Bool.and_false]
  have hnone : Value.overlaid x (some .null) = some .null :=
    congrArg some (Value.overlay_of_ne_map fun _ _ h => nomatch h.2)
  rw [layeredPart_of_not_isSection hlower (isSection_of_lacks (.inr hu)), hnone]
  exact .missing (.inr rfl) (.inl rfl)

/-- A section of the upper entries lies over that of the lower ones, if there is one. -/
theorem sectionAlike_of_map (hpart : part ∈ layout) (hl : Sectioned lower) {u : Entries}
    (hu : upper.get? (.text part.1) = some (.map u)) (hk : u.DistinctKeys) :
    SectionAlike part.2 (Value.overlaid (lower.get? (.text part.1)) (some (.map u)))
      (layeredPart (withoutNulls lower upper) upper part) := by
  have hnull : isNull (upper.get? (.text part.1)) = false := by rw [hu]; rfl
  rw [layeredPart_of_isSection (.inr (isSection_iff.2 ⟨u, hu⟩))]
  rcases hl part hpart with hlacks | hlower
  · have hoverlaid : Value.overlaid (lower.get? (.text part.1)) (some (.map u)) =
        some (.map u) := by
      refine congrArg some (Value.overlay_of_ne_map fun l _ h => ?_)
      cases hlacks.eq_null h.1
    rw [hoverlaid]
    refine .mapping fun key hkey => ?_
    rw [get?_chosen hpart hkey, chosen, field?_withoutNulls hnull, field?_of_lacks hlacks,
      field?_of_section hu, Option.or_none]
    exact .inl rfl
  · obtain ⟨l, hmap⟩ := isSection_iff.1 hlower
    have hoverlaid : Value.overlaid (lower.get? (.text part.1)) (some (.map u)) =
        some (.map (Entries.overlay l u)) := by
      rw [hmap]
      exact congrArg some (Value.overlay_map l u)
    rw [hoverlaid]
    refine .mapping fun key hkey => ?_
    rw [get?_chosen hpart hkey, chosen, field?_withoutNulls hnull, field?_of_section hmap,
      field?_of_section hu, Entries.get?_overlay_eq hk]
    exact fieldAlike_overlaid _ _

theorem alike_layered (hl : Sectioned lower) (hu : Sectioned upper)
    (hk : (Value.map upper).Keyed) :
    Alike (Entries.overlay lower upper) (layered (withoutNulls lower upper) upper) := by
  intro part hpart
  rw [Entries.get?_overlay_eq hk.distinctKeys, get?_layered hpart]
  rcases hu part hpart with (hnone | hnull) | hsection
  · rw [hnone]
    exact sectionAlike_of_none hpart hl hnone
  · rw [hnull]
    exact sectionAlike_of_null hnull _
  · obtain ⟨u, hmap⟩ := isSection_iff.1 hsection
    rw [hmap]
    exact sectionAlike_of_map hpart hl hmap (hk.of_get? hmap).distinctKeys

/-- Where a section is null on top, nothing lies below it to be taken away. -/
def NullsOverNothing (lower upper : Entries) : Prop :=
  ∀ part ∈ layout, isNull (upper.get? (.text part.1)) = true → isSection lower part.1 = false

instance (lower upper : Entries) : Decidable (NullsOverNothing lower upper) :=
  inferInstanceAs (Decidable (∀ part ∈ layout, isNull (upper.get? (.text part.1)) = true →
    isSection lower part.1 = false))

theorem withoutNulls_alike (h : NullsOverNothing lower upper) (hpart : part ∈ layout) :
    layeredPart (withoutNulls lower upper) upper part = layeredPart lower upper part := by
  cases hnull : isNull (upper.get? (.text part.1)) with
  | true =>
    have hlower : isSection lower part.1 = false := h part hpart hnull
    have hupper : isSection upper part.1 = false := isSection_of_lacks (.inr (isNull_iff.1 hnull))
    have hwithout : isSection (withoutNulls lower upper) part.1 = false := by
      rw [isSection_withoutNulls, hlower, Bool.false_and]
    rw [layeredPart_of_not_isSection hwithout hupper, layeredPart_of_not_isSection hlower hupper]
  | false =>
    have hsection : isSection (withoutNulls lower upper) part.1 = isSection lower part.1 := by
      rw [isSection_withoutNulls, hnull, Bool.not_false, Bool.and_true]
    unfold layeredPart chosen
    rw [hsection]
    simp only [field?_withoutNulls hnull]

theorem layered_withoutNulls (h : NullsOverNothing lower upper) :
    layered (withoutNulls lower upper) upper = layered lower upper :=
  List.filterMap_congr fun part hpart => by rw [withoutNulls_alike h hpart]

/-- Upper entries with the same sections, but for some that are null in one and missing in the
other, with no mapping below. -/
def DifferInNulls (lower upper other : Entries) : Prop :=
  ∀ part ∈ layout, upper.get? (.text part.1) = other.get? (.text part.1) ∨
    Lacks (upper.get? (.text part.1)) ∧ Lacks (other.get? (.text part.1)) ∧
      isSection lower part.1 = false

theorem lacks_overlaid {x y : Option Value} (hx : Lacks x) (hy : Lacks y) :
    Lacks (Value.overlaid x y) := by
  rcases hy with rfl | rfl
  · exact hx
  · exact .inr (congrArg some (Value.overlay_of_ne_map fun _ _ h => nomatch h.2))

theorem alike_of_differInNulls {other : Entries} (hl : Sectioned lower)
    (hu : upper.DistinctKeys) (ho : other.DistinctKeys) (h : DifferInNulls lower upper other) :
    Alike (Entries.overlay lower upper) (Entries.overlay lower other) := by
  intro part hpart
  rw [Entries.get?_overlay_eq hu, Entries.get?_overlay_eq ho]
  rcases h part hpart with heq | ⟨hupper, hother, hlower⟩
  · rw [heq]
    exact .same _
  · have hlacks : Lacks (lower.get? (.text part.1)) := by
      rcases hl part hpart with hlacks | hsection
      · exact hlacks
      · rw [hlower] at hsection
        cases hsection
    exact .missing (lacks_overlaid hlacks hupper) (lacks_overlaid hlacks hother)

end

/-- An override changes the fields that it sets. A section that is null in it is taken away; apart
from that, each field has the value of the override, or else the one below, and a null section says
nothing. -/
theorem ofEntries_overlay {lower upper : Entries} (hl : Sectioned lower) (hu : Sectioned upper)
    (hk : (Value.map upper).Keyed) :
    ofEntries (Entries.overlay lower upper) = ofEntries (layered (withoutNulls lower upper) upper) ∧
    (NullsOverNothing lower upper →
      ofEntries (Entries.overlay lower upper) = ofEntries (layered lower upper)) ∧
    ∀ other : Entries, other.DistinctKeys → DifferInNulls lower upper other →
      ofEntries (Entries.overlay lower upper) = ofEntries (Entries.overlay lower other) := by
  have hlayered := (alike_layered hl hu hk).ofEntries_eq
  refine ⟨hlayered, fun h => ?_, fun other ho h => ?_⟩
  · rw [hlayered, layered_withoutNulls h]
  · exact (alike_of_differInNulls hl hk.distinctKeys ho h).ofEntries_eq

def loggedRoot : Entries :=
  [(.text "log", .object [("level", .text "info"), ("to_file", .bool false), ("dir", .text "log")])]

def searchedRoot : Entries :=
  loggedRoot ++
    [(.text "backend", .object [("name", .text "elasticsearch"), ("field", .text "body")])]

/-- An override of a level, with a section that is null. -/
def debugRoot : Entries :=
  [(.text "log", .object [("level", .text "debug")]), (.text "backend", .null)]

theorem ofEntries_overlay_level :
    ofEntries (Entries.overlay loggedRoot debugRoot) =
      .ok ⟨⟨"DEBUG", false, "log"⟩, ⟨"neutral", "text"⟩⟩ ∧
    ofEntries (layered loggedRoot debugRoot) =
      .ok ⟨⟨"DEBUG", false, "log"⟩, ⟨"neutral", "text"⟩⟩ ∧
    ofEntries (Entries.overlay loggedRoot (debugRoot.take 1)) =
      .ok ⟨⟨"DEBUG", false, "log"⟩, ⟨"neutral", "text"⟩⟩ ∧
    ofEntries (layered (withoutNulls loggedRoot debugRoot) debugRoot) =
      .ok ⟨⟨"DEBUG", false, "log"⟩, ⟨"neutral", "text"⟩⟩ := by
  have hkeyed : (Value.map debugRoot).Keyed := by
    refine .map (by decide) fun e he => ?_
    rcases List.mem_pair.1 he with rfl | rfl
    · exact .map (by decide) fun f hf => List.mem_singleton.1 hf ▸ .scalar _
    · exact .scalar _
  have hnulls : DifferInNulls loggedRoot debugRoot (debugRoot.take 1) := by
    intro part hpart
    rcases List.mem_pair.1 hpart with rfl | rfl
    · exact .inl rfl
    · exact .inr (by decide)
  obtain ⟨hwithout, hlayered, hother⟩ := ofEntries_overlay
    (show Sectioned loggedRoot by decide) (show Sectioned debugRoot by decide) hkeyed
  have hoverlay : ofEntries (Entries.overlay loggedRoot debugRoot) =
      .ok ⟨⟨"DEBUG", false, "log"⟩, ⟨"neutral", "text"⟩⟩ := by decide +kernel
  exact ⟨hoverlay, (hlayered (by decide)).symm.trans hoverlay,
    (hother _ (by decide) hnulls).symm.trans hoverlay, hwithout.symm.trans hoverlay⟩

/-- A null section takes away what lies below it. -/
theorem ofEntries_overlay_null :
    Sectioned searchedRoot ∧ Sectioned debugRoot ∧
    ofEntries (Entries.overlay searchedRoot debugRoot) =
      .ok ⟨⟨"DEBUG", false, "log"⟩, ⟨"neutral", "text"⟩⟩ ∧
    ofEntries (layered searchedRoot debugRoot) =
      .ok ⟨⟨"DEBUG", false, "log"⟩, ⟨"elasticsearch", "body"⟩⟩ ∧
    ofEntries (Entries.overlay searchedRoot (debugRoot.take 1)) =
      .ok ⟨⟨"DEBUG", false, "log"⟩, ⟨"elasticsearch", "body"⟩⟩ := by
  refine ⟨by decide, by decide, ?_, ?_, ?_⟩ <;> decide +kernel

end Settings
end SearchQuery
