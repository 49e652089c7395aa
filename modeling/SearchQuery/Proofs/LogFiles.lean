import SearchQuery.Log.Logger
import SearchQuery.Proofs.Places

/-!
# Log files

The log file of an action lies in the directory of the action, and its name is that of the action
with the ten digits of a moment. If the action is a name without slashes, the file can be opened as
soon as its directory can be made and it has room there: no directory has its name, and its path is
not too long.
-/

namespace SearchQuery

theorem Text.splitAtChar_of_notMem {separator : Char} {t : Text} (h : separator ∉ t) :
    splitAtChar separator t = [t] := by
  induction t with
  | nil => rfl
  | cons c rest ih =>
    rw [List.mem_cons, not_or] at h
    rw [splitAtChar, if_neg (Ne.symm h.1), ih h.2]

theorem Text.length_toUtf8_of_isDigit {t : Text} (h : ∀ c ∈ t, c.isDigit = true) :
    t.toUtf8.length = t.length := by
  have hone : ∀ c : Char, c.isDigit = true → (encodeChar c).length = 1 := by
    intro c hc
    have hrange : c.toNat ≤ 57 := by
      have := (Bool.and_eq_true _ _).mp hc
      simpa [Char.le_def, UInt32.le_iff_toNat_le] using this.2
    rw [encodeChar, if_pos (by omega)]
    rfl
  induction t with
  | nil => rfl
  | cons c rest ih =>
    rw [toUtf8, List.flatMap_cons, List.length_append, hone c (h c List.mem_cons_self),
      List.length_cons, ← ih fun d hd => h d (List.mem_cons_of_mem c hd), toUtf8, Nat.add_comm]

theorem FilePath.ofText_of_notMem {t : Text} (hslash : '/' ∉ t) (hlength : 1 < t.length) :
    ofText t = ⟨0, [t]⟩ := by
  obtain ⟨c, rest, rfl⟩ : ∃ c rest, t = c :: rest :=
    List.exists_cons_of_ne_nil fun h => by simp [h] at hlength
  have hleading : (c :: rest).takeWhile (· == '/') = [] :=
    List.takeWhile_cons_of_neg fun h => hslash (by simp [beq_iff_eq.1 h])
  have hdot : c :: rest ≠ ['.'] := by
    intro h
    simp [h] at hlength
  rw [ofText, hleading, Text.splitAtChar_of_notMem hslash]
  simp [hdot]

namespace Log

namespace Stamp

/-- A month and a day have at most two digits. -/
theorem dateOf_lt (days : Int) : (dateOf days).2.1 < 100 ∧ (dateOf days).2.2 < 100 := by
  rw [dateOf, Int.fdiv_eq_ediv_of_nonneg _ (by decide)]
  generalize days + 719468 = shifted
  generalize hera : shifted - shifted / 146097 * 146097 = dayOfEra
  have hdayOfEra : 0 ≤ dayOfEra ∧ dayOfEra ≤ 146096 := by omega
  clear hera
  generalize hyear : (dayOfEra - dayOfEra / 1460 + dayOfEra / 36524 - dayOfEra / 146096) / 365 =
    yearOfEra
  generalize hday : dayOfEra - (365 * yearOfEra + yearOfEra / 4 - yearOfEra / 100) = dayOfYear
  -- a rough bound is enough for two digits
  have hdayOfYear : -50 ≤ dayOfYear ∧ dayOfYear ≤ 500 := by omega
  clear hyear hday
  split <;> dsimp only <;> omega

theorem two_digits (n : Nat) (h : n < 100) :
    (Text.padded 2 n).length = 2 ∧ ∀ c ∈ Text.padded 2 n, c.isDigit = true := by
  have hall : (List.range 100).all (fun n =>
      (Text.padded 2 n).length == 2 && (Text.padded 2 n).all Char.isDigit) = true := by
    decide +kernel
  have hn := List.all_eq_true.1 hall n (List.mem_range.2 h)
  rw [Bool.and_eq_true, beq_iff_eq, List.all_eq_true] at hn
  exact hn

/-- The digits of a moment are five numbers of two digits. -/
theorem exists_digits_ofSeconds (seconds : Int) :
    ∃ a < 100, ∃ b < 100, ∃ c < 100, ∃ d < 100, ∃ e < 100, (ofSeconds seconds).digits =
      [Text.padded 2 a, Text.padded 2 b, Text.padded 2 c, Text.padded 2 d,
        Text.padded 2 e].flatten := by
  obtain ⟨hmonth, hday⟩ := dateOf_lt (Int.fdiv seconds 86400)
  have hsecond : (seconds - Int.fdiv seconds 86400 * 86400).toNat < 86400 := by
    rw [Int.fdiv_eq_ediv_of_nonneg _ (by decide)]
    omega
  exact ⟨_, hmonth, _, hday, _, by omega, _, by omega, _, by omega, rfl⟩

theorem length_digits_ofSeconds (seconds : Int) : (ofSeconds seconds).digits.length = 10 := by
  obtain ⟨a, ha, b, hb, c, hc, d, hd, e, he, h⟩ := exists_digits_ofSeconds seconds
  rw [h]
  simp [two_digits a ha, two_digits b hb, two_digits c hc, two_digits d hd, two_digits e he]

theorem isDigit_of_mem_digits (seconds : Int) :
    ∀ c ∈ (ofSeconds seconds).digits, c.isDigit = true := by
  obtain ⟨a, ha, b, hb, c, hc, d, hd, e, he, h⟩ := exists_digits_ofSeconds seconds
  intro digit hdigit
  rw [h, List.mem_flatten] at hdigit
  obtain ⟨part, hpart, hmem⟩ := hdigit
  simp only [List.mem_cons, List.not_mem_nil, or_false] at hpart
  rcases hpart with rfl | rfl | rfl | rfl | rfl
  · exact (two_digits a ha).2 digit hmem
  · exact (two_digits b hb).2 digit hmem
  · exact (two_digits c hc).2 digit hmem
  · exact (two_digits d hd).2 digit hmem
  · exact (two_digits e he).2 digit hmem

end Stamp

namespace Setup

variable {s : Setup} {files : FileTree} {action : Text}

def fileName (stamp : Stamp) (action : Text) : Text := action ++ "_" ++ stamp.digits ++ ".log"

/-- An action that can be part of the name of a file. -/
structure IsName (action : Text) : Prop where
  slash : '/' ∉ action
  null : '\x00' ∉ action
  length : action.toUtf8.length ≤ 240

theorem ne_of_mem_fileName (h : IsName action) {seconds : Int} :
    ∀ c ∈ fileName (.ofSeconds seconds) action, c ≠ '/' ∧ c ≠ '\x00' := by
  have hplain : ∀ c ∈ "_".toList ++ ".log".toList, c ≠ '/' ∧ c ≠ '\x00' := by simp
  have hdigit : ∀ c : Char, c.isDigit = true → c ≠ '/' ∧ c ≠ '\x00' := by
    intro c hc
    constructor <;> rintro rfl <;> exact absurd hc (by decide)
  intro c hc
  simp only [fileName, List.mem_append] at hc
  rcases hc with ((hc | hc) | hc) | hc
  · exact ⟨fun he => h.slash (he ▸ hc), fun he => h.null (he ▸ hc)⟩
  · exact hplain c (List.mem_append_left _ hc)
  · exact hdigit c (Stamp.isDigit_of_mem_digits seconds c hc)
  · exact hplain c (List.mem_append_right _ hc)

theorem length_fileName (action : Text) (seconds : Int) :
    (fileName (.ofSeconds seconds) action).length = action.length + 15 := by
  simp only [fileName, List.length_append, Stamp.length_digits_ofSeconds]
  rfl

theorem length_toUtf8_fileName (action : Text) (seconds : Int) :
    (fileName (.ofSeconds seconds) action).toUtf8.length = action.toUtf8.length + 15 := by
  have hdigits := Text.length_toUtf8_of_isDigit (Stamp.isDigit_of_mem_digits seconds)
  simp only [fileName, Text.toUtf8_append, List.length_append, hdigits,
    Stamp.length_digits_ofSeconds]
  rfl

theorem file_eq_child (h : IsName action) (s : Setup) (seconds : Int) :
    s.file (.ofSeconds seconds) action =
      (s.actionDirectory action).child (fileName (.ofSeconds seconds) action) := by
  have hpath : FilePath.ofText (fileName (.ofSeconds seconds) action) =
      ⟨0, [fileName (.ofSeconds seconds) action]⟩ :=
    FilePath.ofText_of_notMem (fun hmem => (ne_of_mem_fileName h _ hmem).1 rfl)
      (by rw [length_fileName]; omega)
  rw [file, ← fileName, hpath]
  rfl

/-- The directory of the log file can be made, and the file has a place in it: no directory has its
name, and its path is not too long. -/
def HasRoom (stamp : Stamp) (s : Setup) (action : Text) (files : FileTree) : Prop :=
  ∃ directory made, files.makeDirectory (s.actionDirectory action) = (.ok directory, made) ∧
    made.isDirectory (s.file stamp action).place = false ∧
    (s.file stamp action).place.toText.toUtf8.length ≤ FileTree.longestPath

/-- A log file that has room is opened. It holds what it held before. -/
theorem exists_openFile (h : IsName action) {seconds : Int}
    (hroom : s.HasRoom (.ofSeconds seconds) action files) :
    ∃ opened, Station.openFile (.ofSeconds seconds) s action files =
        (.ok (s.file (.ofSeconds seconds) action).place, opened) ∧
      opened.files.lookup (s.file (.ofSeconds seconds) action).place =
        some ((files.files.lookup (s.file (.ofSeconds seconds) action).place).getD []) := by
  obtain ⟨directory, made, hmake, hfree, hlong⟩ := hroom
  have hlength := length_toUtf8_fileName action seconds
  have hshort := h.length
  rw [Station.openFile, hmake]
  rw [file_eq_child h] at hfree hlong ⊢
  refine FileTree.openFile_of_makeDirectory hmake ?_ ?_ ?_ hfree hlong
  · intro hup
    have hlong := length_fileName action seconds
    rw [hup] at hlong
    simp at hlong
  · exact fun hnull => (ne_of_mem_fileName h _ hnull).2 rfl
  · rw [hlength, FileTree.longestName]
    omega

end Setup
end Log
end SearchQuery
