import SearchQuery.Files.Tree

/-!
# Places in file trees

The place of a path is a path on which every step counts, so that following the names of a place
leads to the place itself. A directory that has been made can be followed to, and a file in it can
be opened unless a directory has its name or its path is too long. Making a directory changes no
file, also where it fails half-way.
-/

namespace SearchQuery

namespace FilePath

/-- A path on which no step cancels another: entering its names one after the other builds it up.
`Step` is what holds of each directory and the name entered there. -/
inductive Passes (Step : FilePath → Text → Prop) : FilePath → Prop
  | origin {slashes : Nat} : slashes ≤ 1 → Passes Step ⟨slashes, []⟩
  | child {p : FilePath} {name : Text} : Passes Step p → p.enter name = p.child name →
      Step p name → Passes Step (p.child name)

variable {Step Step' : FilePath → Text → Prop} {p : FilePath} {name : Text}

theorem enter_of_ne (h : name ≠ "..") : p.enter name = p.child name := by
  rw [enter, if_neg h]

theorem place_child (p : FilePath) (name : Text) : (p.child name).place = p.place.enter name := by
  simp [place, child, origin, List.foldl_append]

theorem Passes.mono (h : Passes Step p) (himp : ∀ q n, Step q n → Step' q n) : Passes Step' p := by
  induction h with
  | origin hs => exact .origin hs
  | child _ henter hstep ih => exact .child ih henter (himp _ _ hstep)

theorem Passes.place_eq (h : Passes Step p) : p.place = p := by
  induction h with
  | origin hs => simp [place, FilePath.origin, Nat.min_eq_left hs]
  | child _ henter _ ih => rw [place_child, ih, henter]

/-- One more step, also one that leads up. -/
theorem Passes.enter (h : Passes Step p) (hup : p.isUpward = true → Step p "..")
    (hdown : name ≠ ".." → Step p name) : Passes Step (p.enter name) := by
  by_cases hname : name = ".."
  · rw [FilePath.enter, if_pos hname]
    have houter : p.enter ".." = p.outer := by rw [FilePath.enter, if_pos rfl]
    unfold outer at houter ⊢
    split
    case isTrue hplain =>
      -- the last step led down, so that taking it back leaves the path before it
      cases h with
      | origin => simp [isUpward] at hplain
      | child hp => simpa [FilePath.child] using hp
    case isFalse hupward =>
      rw [if_neg hupward] at houter
      split
      case isTrue => exact h
      case isFalse hrelative =>
        rw [if_neg hrelative] at houter
        exact .child h houter (hup (by simpa using hupward))
  · rw [enter_of_ne hname]
    exact .child h (enter_of_ne hname) (hdown hname)

theorem passes_place (p : FilePath) : Passes (fun _ _ => True) p.place := by
  have hfold : ∀ (names : List Text) (here : FilePath), Passes (fun _ _ => True) here →
      Passes (fun _ _ => True) (names.foldl FilePath.enter here) := by
    intro names
    induction names with
    | nil => exact fun here h => h
    | cons name rest ih => exact fun here h => ih _ (h.enter (fun _ => trivial) fun _ => trivial)
  exact hfold p.names p.origin (.origin (Nat.min_le_right p.slashes 1))

theorem place_place (p : FilePath) : p.place.place = p.place := (passes_place p).place_eq

end FilePath

namespace FileTree

open FilePath

variable {tree made opened : FileTree} {p place directory : FilePath} {name : Text}
  {octets : List UInt8}

theorem lookup_put (tree : FileTree) (p q : FilePath) (octets : List UInt8) :
    (tree.put p octets).files.lookup q = if q = p then some octets else tree.files.lookup q := by
  have hfilter : ∀ files : List (FilePath × List UInt8), q ≠ p →
      (files.filter fun file => file.1 != p).lookup q = files.lookup q := by
    intro files hq
    induction files with
    | nil => rfl
    | cons file rest ih =>
      obtain ⟨r, content⟩ := file
      by_cases hr : r = p
      · rw [List.filter_cons_of_neg (by simpa using hr), ih, List.lookup_cons,
          beq_eq_false_iff_ne.2 fun h => hq (h.trans hr)]
      · rw [List.filter_cons_of_pos (by simpa using hr), List.lookup_cons, List.lookup_cons, ih]
  rw [put, List.lookup_append]
  by_cases hq : q = p
  · have hnone : (tree.files.filter fun file => file.1 != p).lookup q = none := by
      rw [List.lookup_eq_none_iff]
      intro file hfile
      obtain ⟨-, hne⟩ := List.mem_filter.1 hfile
      rw [hq]
      exact bne_iff_ne.2 (bne_iff_ne.1 hne).symm
    rw [hnone, if_pos hq, hq]
    simp
  · rw [hfilter tree.files hq, if_neg hq]
    simp [List.lookup_cons, beq_eq_false_iff_ne.2 hq]

theorem lookup_append (tree : FileTree) (p q : FilePath) (octets : List UInt8) :
    (tree.append p octets).files.lookup q =
      (tree.files.lookup q).map (· ++ if q = p then octets else []) := by
  rw [append]
  dsimp only
  induction tree.files with
  | nil => rfl
  | cons file rest ih =>
    obtain ⟨r, content⟩ := file
    rw [List.map_cons]
    by_cases hr : r = p
    · subst hr
      rw [if_pos rfl, List.lookup_cons, List.lookup_cons, ih]
      cases hq : q == r with
      | true => simp [beq_iff_eq.1 hq]
      | false => rfl
    · rw [if_neg hr, List.lookup_cons, List.lookup_cons, ih]
      cases hq : q == r with
      | true => simp [beq_iff_eq.1 hq, hr]
      | false => rfl

theorem follow_eq_file {here : FilePath} {names : List Text}
    (h : tree.follow here names = .file place octets) :
    place = names.foldl enter here ∧ tree.files.lookup place = some octets := by
  induction names generalizing here with
  | nil => cases h
  | cons name rest ih =>
    rw [follow] at h
    split at h
    · cases h
    · split at h
      · exact ih h
      · split at h
        case h_1 found hfound =>
          split at h
          case isTrue hrest =>
            cases h
            rw [List.isEmpty_iff.1 hrest]
            exact ⟨rfl, hfound⟩
          case isFalse => cases h
        case h_2 => cases h

theorem obstacle?_eq_some {target : Target} (h : obstacle? p = some target) :
    target = .unspeakable ∨ target = .tooLong := by
  unfold obstacle? at h
  split at h
  · cases h
    exact .inl rfl
  · split at h
    · cases h
      exact .inr rfl
    · cases h

theorem find_eq_file (h : tree.find p = .file place octets) :
    place = p.place ∧ tree.files.lookup place = some octets := by
  rw [find] at h
  cases hp : obstacle? p with
  | none =>
    rw [hp] at h
    exact follow_eq_file h
  | some target =>
    rw [hp, Option.getD_some] at h
    subst h
    rcases obstacle?_eq_some hp with hfile | hfile <;> cases hfile

/-- An opened file is in its place, and no other file has changed. -/
theorem openFile_eq_ok (h : tree.openFile p = (.ok place, opened)) :
    place = p.place ∧ (∃ octets, opened.files.lookup place = some octets) ∧
    ∀ q, q ≠ place → opened.files.lookup q = tree.files.lookup q := by
  rw [openFile] at h
  split at h
  case h_1 found octets hfound =>
    cases h
    obtain ⟨hplace, hlookup⟩ := find_eq_file hfound
    rw [place_place] at hplace
    exact ⟨hplace, ⟨octets, hlookup⟩, fun q _ => rfl⟩
  case h_2 =>
    split at h
    case isTrue =>
      cases h
      refine ⟨rfl, ⟨[], by rw [lookup_put, if_pos rfl]⟩, ?_⟩
      intro q hq
      rw [lookup_put, if_neg hq]
    case isFalse => cases h
  case h_3 => cases h

/-- A name can be entered: its directory is there, and the name is in bounds. -/
def Opens (tree : FileTree) (p : FilePath) (name : Text) : Prop :=
  tree.isDirectory (p.child name) = true ∧ name.toUtf8.length ≤ longestName ∧ '\x00' ∉ name

theorem opens_up (tree : FileTree) (h : p.isUpward = true) : tree.Opens p ".." := by
  refine ⟨?_, by decide, by decide⟩
  rw [isDirectory, Bool.or_eq_true]
  left
  simpa [isUpward, child] using h

theorem Opens.mono (h : tree.Opens p name) (hsub : tree.directories ⊆ made.directories) :
    made.Opens p name := by
  obtain ⟨hdirectory, hbounds⟩ := h
  refine ⟨?_, hbounds⟩
  rw [isDirectory, Bool.or_eq_true, List.contains_iff_mem] at hdirectory ⊢
  exact hdirectory.imp id fun hmem => hsub hmem

theorem isDirectory_of_passes (h : Passes tree.Opens p) : tree.isDirectory p = true := by
  cases h with
  | origin => rfl
  | child _ _ hopens => exact hopens.1

theorem notMem_of_passes (h : Passes tree.Opens p) : ∀ name ∈ p.names, '\x00' ∉ name := by
  induction h with
  | origin => exact fun name hname => nomatch hname
  | child _ _ hopens ih =>
    intro name hname
    rcases List.mem_append.1 hname with hname | hname
    · exact ih name hname
    · rw [List.mem_singleton.1 hname]
      exact hopens.2.2

/-- Following starts again at a directory on the way. -/
theorem follow_append_of_passes (h : Passes tree.Opens p) (rest : List Text) :
    tree.follow p.origin (p.names ++ rest) = tree.follow p rest := by
  induction h generalizing rest with
  | origin hs => simp [FilePath.origin, Nat.min_eq_left hs]
  | @child p name _ henter hopens ih =>
    have hnames : (p.child name).names ++ rest = p.names ++ name :: rest := by simp [child]
    rw [hnames, show (p.child name).origin = p.origin from rfl, ih, follow]
    rw [henter, if_neg (Nat.not_lt.2 hopens.2.1), if_pos hopens.1]

/-- More directories, and the same files. -/
structure Grows (tree made : FileTree) : Prop where
  files : made.files = tree.files
  directories : tree.directories ⊆ made.directories

theorem Grows.refl (tree : FileTree) : Grows tree tree := ⟨rfl, fun _ h => h⟩

theorem grows_makeAlong (tree : FileTree) (spelled here : FilePath) (names : List Text) :
    Grows tree (tree.makeAlong spelled here names).2 := by
  induction names generalizing tree spelled here with
  | nil => exact .refl tree
  | cons name rest ih =>
    unfold makeAlong
    dsimp only
    split
    · exact .refl tree
    · split
      · exact ih tree _ _
      · split
        · exact .refl tree
        · have hmore := ih { tree with directories := tree.directories ++ [here.enter name] }
            (spelled.child name) (here.enter name)
          exact ⟨hmore.files, fun d hd => hmore.directories (List.mem_append_left _ hd)⟩

theorem grows_makeDirectory (tree : FileTree) (p : FilePath) :
    Grows tree (tree.makeDirectory p).2 := by
  unfold makeDirectory
  split
  · apply grows_makeAlong
  · apply grows_makeAlong
  · exact .refl tree

/-- Where a file cannot be opened, nothing is made. -/
theorem openFile_eq_error {e : FileError} (h : tree.openFile p = (.error e, opened)) :
    opened = tree := by
  unfold openFile at h
  dsimp only at h
  split at h
  · cases h
  · split at h
    · cases h
    · cases h
      rfl
  · cases h
    rfl

/-- All directories on the way to one that has been made are there. -/
theorem makeAlong_eq_ok {spelled here : FilePath} {names : List Text}
    (h : tree.makeAlong spelled here names = (.ok directory, made))
    (hhere : Passes tree.Opens here) (hnames : ∀ name ∈ names, '\x00' ∉ name) :
    Passes made.Opens directory ∧ directory = names.foldl enter here := by
  induction names generalizing tree spelled here with
  | nil =>
    cases h
    exact ⟨hhere, rfl⟩
  | cons name rest ih =>
    have hrest : ∀ name ∈ rest, '\x00' ∉ name := fun n hn => hnames n (List.mem_cons_of_mem _ hn)
    rw [makeAlong] at h
    split at h
    case isTrue => cases h
    case isFalse hlength =>
      have hlength : name.toUtf8.length ≤ longestName := Nat.not_lt.1 hlength
      split at h
      case isTrue hthere =>
        refine ih h (hhere.enter (opens_up tree) fun hname => ?_) hrest
        rw [enter_of_ne hname] at hthere
        exact ⟨hthere, hlength, hnames name List.mem_cons_self⟩
      case isFalse =>
        split at h
        case isTrue => cases h
        case isFalse =>
          have hstill : Passes (Opens ⟨tree.files, tree.directories ++ [here.enter name]⟩) here :=
            hhere.mono fun q n hq => hq.mono (List.subset_append_left _ _)
          have hthere := hstill.enter (opens_up _) fun hname =>
            ⟨by simp [isDirectory, enter_of_ne hname], hlength, hnames name List.mem_cons_self⟩
          exact ih h hthere hrest

theorem notMem_of_obstacle?_eq_none (h : obstacle? p = none) : ∀ name ∈ p.names, '\x00' ∉ name := by
  unfold obstacle? at h
  split at h
  case isTrue => cases h
  case isFalse hnull =>
    intro name hname hmem
    exact hnull (List.any_eq_true.2 ⟨name, hname, List.contains_iff_mem.2 hmem⟩)

theorem makeDirectory_eq_ok (h : tree.makeDirectory p = (.ok directory, made)) :
    Passes made.Opens directory ∧ directory = p.place := by
  have horigin : Passes tree.Opens p.origin := .origin (Nat.min_le_right p.slashes 1)
  cases hp : obstacle? p with
  | none =>
    have hnames := notMem_of_obstacle?_eq_none hp
    unfold makeDirectory at h
    split at h
    · exact makeAlong_eq_ok h horigin hnames
    · exact makeAlong_eq_ok h horigin hnames
    · cases h
  | some target =>
    have hfind : tree.find p = target := by rw [find, hp, Option.getD_some]
    unfold makeDirectory at h
    rw [hfind] at h
    rcases obstacle?_eq_some hp with rfl | rfl <;> cases h

/-- A file opens in a directory that has been made, unless a directory has its name or its path is
too long. It holds what it held before. -/
theorem openFile_of_makeDirectory (h : tree.makeDirectory p = (.ok directory, made))
    (hname : name ≠ "..") (hnull : '\x00' ∉ name) (hlength : name.toUtf8.length ≤ longestName)
    (hfree : made.isDirectory (p.child name).place = false)
    (hlong : (p.child name).place.toText.toUtf8.length ≤ longestPath) :
    ∃ opened, made.openFile (p.child name) = (.ok (p.child name).place, opened) ∧
      opened.files.lookup (p.child name).place =
        some ((tree.files.lookup (p.child name).place).getD []) := by
  obtain ⟨hpasses, hdirectory⟩ := makeDirectory_eq_ok h
  have hfiles : made.files = tree.files := by
    have hgrows := grows_makeDirectory tree p
    rw [h] at hgrows
    exact hgrows.files
  have hplace : (p.child name).place = directory.child name := by
    rw [place_child, ← hdirectory, enter_of_ne hname]
  rw [hplace] at hfree hlong ⊢
  have hobstacle : obstacle? (directory.child name) = none := by
    unfold obstacle?
    rw [if_neg, if_neg (Nat.not_lt.2 hlong)]
    rw [List.any_eq_true]
    rintro ⟨n, hn, hmem⟩
    rw [List.contains_iff_mem] at hmem
    rcases List.mem_append.1 hn with hn | hn
    · exact notMem_of_passes hpasses n hn hmem
    · rw [List.mem_singleton.1 hn] at hmem
      exact hnull hmem
  have hfollow := follow_append_of_passes hpasses [name]
  rw [follow, enter_of_ne hname, if_neg (Nat.not_lt.2 hlength),
    if_neg (by simp [hfree])] at hfollow
  rw [openFile, hplace, ← hfiles]
  cases hlookup : made.files.lookup (directory.child name) with
  | some octets =>
    have hfind : made.find (directory.child name) = .file (directory.child name) octets := by
      rw [find, hobstacle, Option.getD_none]
      rw [hlookup] at hfollow
      exact hfollow
    exact ⟨made, by rw [hfind], hlookup⟩
  | none =>
    have hfind : made.find (directory.child name) = .missing := by
      rw [find, hobstacle, Option.getD_none]
      rw [hlookup] at hfollow
      exact hfollow
    have hparent : (directory.child name).parent?.any made.isDirectory = true := by
      rw [parent?_child, Option.any_some]
      exact isDirectory_of_passes hpasses
    refine ⟨made.put (directory.child name) [], ?_, by rw [lookup_put, if_pos rfl]; rfl⟩
    rw [hfind]
    dsimp only
    rw [if_pos hparent]

end FileTree
end SearchQuery
