import SearchQuery.Proofs.JsonScanning

/-!
# Reading JSON

A reader of JSON documents. It is exact: it reads a value from a text if and only if the text is a
document of that value. So no text is a document of two values, and different payloads are never
printed as the same text.
-/

namespace SearchQuery
namespace Json

def skip (t : Text) : Text := t.dropWhile isSpace

section

variable {α : Type}

/-- Skips the blanks on both sides of what a reader takes. -/
def readPadded (f : Text → Option (α × Text)) (t : Text) : Option (α × Text) :=
  (f (skip t)).map fun (a, r) => (a, skip r)

/-- Parts with commas between them, at most as many as the bound says. -/
def readSeparated (f : Text → Option (α × Text)) : Nat → Text → Option (List α × Text)
  | 0, _ => none
  | n + 1, t => do
    let (a, r) ← readPadded f t
    match expect ',' r with
    | none => return ([a], r)
    | some r =>
      let (as, r) ← readSeparated f n r
      return (a :: as, r)

/-- Parts up to a closing bracket, which is left out. -/
def readEnclosed (closing : Char) (f : Text → Option (α × Text)) (n : Nat) (t : Text) :
    Option (List α × Text) :=
  match expect closing (skip t) with
  | some r => some ([], r)
  | none => do
    let (as, r) ← readSeparated f n t
    (expect closing r).map (as, ·)

end

def readString (t : Text) : Option (Text × Text) := (expect '"' t).bind readChars

theorem readString_eq_some_iff {t r s : Text} :
    readString t = some (s, r) ↔ ∃ u, t = u ++ r ∧ SpellsString u s := by
  constructor
  · intro h
    obtain ⟨q, hquote, hchars⟩ := Option.bind_eq_some_iff.1 h
    obtain ⟨u, rfl, hu⟩ := readChars_eq_some_iff.1 hchars
    rw [expect_eq_some_iff.1 hquote]
    exact ⟨'"' :: (u ++ ['"']), by simp, .intro hu⟩
  · rintro ⟨u, rfl, h⟩
    cases h with
    | @intro u s h =>
      have hchars := (readChars_eq_some_iff (r := r)).2 ⟨u, rfl, h⟩
      simp [readString, expect, hchars]

def readMember (f : Text → Option (Value × Text)) (t : Text) :
    Option ((Scalar × Value) × Text) := do
  let (key, r) ← readString t
  let r ← expect ':' (skip r)
  let (v, r) ← f (skip r)
  return ((.text key, v), r)

def readWord (t : Text) : Option (Value × Text) :=
  (word? (t.takeWhile isWordChar)).map fun s => (.scalar s, t.dropWhile isWordChar)

/-- A value at the front of a text. The bound limits the depth of the value and the number of parts
between two brackets. -/
def readValue : Nat → Text → Option (Value × Text)
  | 0, _ => none
  | _ + 1, [] => none
  | n + 1, c :: t =>
    if c = '"' then (readChars t).map fun (s, r) => (.text s, r)
    else if c = '[' then
      (readEnclosed ']' (readValue n) n t).map fun (items, r) => (.list items, r)
    else if c = '\x7b' then
      (readEnclosed '\x7d' (readMember (readValue n)) n t).map fun (members, r) =>
        (.map (Entries.ofPairs members), r)
    else readWord (c :: t)

def read? (t : Text) : Option Value := do
  let (v, r) ← readPadded (readValue t.length) t
  if r = [] then some v else none

/-! ## Readers that agree with the grammar -/

/-- The characters that a value or a member can start with. -/
def isOpening (c : Char) : Bool := c == '"' || c == '[' || c == '\x7b' || isWordChar c

def isClosing (c : Char) : Bool := c == ']' || c == '\x7d'

theorem ne_of_isOpening {c d : Char} (hc : isOpening c = true) (hd : isClosing d = true) :
    c ≠ d := by
  simp only [isClosing, Bool.or_eq_true, beq_iff_eq] at hd
  rintro rfl
  rcases hd with rfl | rfl <;> cases hc

/-- A reader that takes nothing but texts of `P`, and every text of `P` up to a length if no word
goes on behind it. -/
structure Reads {α : Type} (f : Text → Option (α × Text)) (P : Text → α → Prop) (n : Nat) :
    Prop where
  opening : ∀ {u a}, P u a → ∃ c t, u = c :: t ∧ isOpening c = true
  sound : ∀ {t a r}, f t = some (a, r) → ∃ u, t = u ++ r ∧ P u a
  complete : ∀ {u a r}, P u a → u.length ≤ n → Stops isWordChar r → f (u ++ r) = some (a, r)

theorem skip_opening {c : Char} (h : isOpening c = true) (t : Text) : skip (c :: t) = c :: t := by
  have hspace : isSpace c = false := by
    by_contra hc
    rw [Bool.not_eq_false] at hc
    simp only [isSpace, Bool.or_eq_true, beq_iff_eq] at hc
    rcases hc with ((rfl | rfl) | rfl) | rfl <;> cases h
  rw [skip, List.dropWhile_cons_of_neg (by rw [hspace]; exact Bool.false_ne_true)]

theorem isWordChar_of_isSpace {c : Char} (h : isSpace c = true) : isWordChar c = false := by
  simp only [isSpace, Bool.or_eq_true, beq_iff_eq] at h
  rcases h with ((rfl | rfl) | rfl) | rfl <;> rfl

theorem exists_skip (t : Text) : ∃ blanks, t = blanks ++ skip t ∧ ∀ c ∈ blanks, isSpace c = true :=
  ⟨t.takeWhile isSpace, List.takeWhile_append_dropWhile.symm, fun _ => of_mem_takeWhile⟩

theorem skip_blanks {blanks t : Text} (h : ∀ c ∈ blanks, isSpace c = true) :
    skip (blanks ++ t) = skip t :=
  List.dropWhile_append_of_pos h

theorem Stops.skip_eq {t : Text} (h : Stops isSpace t) : skip t = t :=
  dropWhile_run (w := []) nofun h

theorem Stops.blanks_append {blanks t : Text} (hblanks : ∀ c ∈ blanks, isSpace c = true)
    (h : Stops isWordChar t) : Stops isWordChar (blanks ++ t) := by
  cases blanks with
  | nil => exact h
  | cons b blanks => exact stops_cons (isWordChar_of_isSpace (hblanks b (by simp))) _

/-- Neither blanks nor a word nor a further part go on at a closing bracket. -/
theorem stops_of_closing {c : Char} (h : isClosing c = true) (r : Text) :
    Stops isSpace (c :: r) ∧ Stops isWordChar (c :: r) ∧ expect ',' (c :: r) = none := by
  simp only [isClosing, Bool.or_eq_true, beq_iff_eq] at h
  rcases h with rfl | rfl
  · exact ⟨stops_cons rfl r, stops_cons rfl r, rfl⟩
  · exact ⟨stops_cons rfl r, stops_cons rfl r, rfl⟩

namespace Reads

variable {α : Type} {f : Text → Option (α × Text)} {P : Text → α → Prop} {n : Nat}

/-- No blanks stand in front of what is read. -/
theorem skip_append (h : Reads f P n) {u : Text} {a : α} (hu : P u a) (r : Text) :
    skip (u ++ r) = u ++ r := by
  obtain ⟨c, t, rfl, hc⟩ := h.opening hu
  exact skip_opening hc _

theorem padded_sound (h : Reads f P n) {t r : Text} {a : α} (hread : readPadded f t = some (a, r)) :
    ∃ u, t = u ++ r ∧ Padded P u a := by
  obtain ⟨⟨b, s⟩, hf, heq⟩ := Option.map_eq_some_iff.1 hread
  cases heq
  obtain ⟨u, hu, hP⟩ := h.sound hf
  obtain ⟨before, ht, hbefore⟩ := exists_skip t
  obtain ⟨after, hs, hafter⟩ := exists_skip s
  refine ⟨before ++ (u ++ after), ?_, .intro hbefore hP hafter⟩
  calc t = before ++ (u ++ s) := by rw [← hu, ← ht]
    _ = before ++ (u ++ (after ++ skip s)) := by rw [← hs]
    _ = before ++ (u ++ after) ++ skip s := by simp

theorem padded_complete (h : Reads f P n) {u r : Text} {a : α} (hu : Padded P u a)
    (hlength : u.length ≤ n) (hspace : Stops isSpace r) (hword : Stops isWordChar r) :
    readPadded f (u ++ r) = some (a, r) := by
  cases hu with
  | @intro before t after a hbefore ht hafter =>
    simp only [List.length_append] at hlength
    -- behind the part come the blanks or, if there are none, what comes behind them
    have hread := h.complete ht (by omega) (hword.blanks_append hafter)
    have hskip := h.skip_append ht (after ++ r)
    have hrest : skip (after ++ r) = r := by rw [skip_blanks hafter, hspace.skip_eq]
    rw [readPadded, List.append_assoc, List.append_assoc, skip_blanks hbefore, hskip, hread]
    simp only [Option.map_some, hrest]

theorem separated_sound (h : Reads f P n) {m : Nat} {t r : Text} {as : List α}
    (hread : readSeparated f m t = some (as, r)) : ∃ u, t = u ++ r ∧ Separated P u as := by
  induction m generalizing t as with
  | zero => cases hread
  | succ m ih =>
    obtain ⟨⟨a, s⟩, hfirst, hrest⟩ := Option.bind_eq_some_iff.1 hread
    obtain ⟨u, rfl, hu⟩ := h.padded_sound hfirst
    dsimp only at hrest
    split at hrest
    case h_1 =>
      cases hrest
      exact ⟨u, rfl, .single hu⟩
    case h_2 q hcomma =>
      obtain ⟨⟨bs, s'⟩, hmore, heq⟩ := Option.bind_eq_some_iff.1 hrest
      cases heq
      obtain ⟨v, rfl, hv⟩ := ih hmore
      rw [expect_eq_some_iff.1 hcomma]
      exact ⟨u ++ ',' :: v, by simp, .cons hu hv⟩

/-- Behind the last part stands a closing bracket, so that neither a part nor a comma goes on. -/
theorem separated_complete (h : Reads f P n) {closing : Char} (hclosing : isClosing closing = true)
    {u r : Text} {as : List α} (hu : Separated P u as) {m : Nat} (hlength : u.length ≤ n)
    (hm : u.length < m) : readSeparated f m (u ++ closing :: r) = some (as, closing :: r) := by
  induction hu generalizing m with
  | @single t a ht =>
    obtain ⟨m, rfl⟩ := Nat.exists_eq_add_one_of_ne_zero (Nat.ne_zero_of_lt hm)
    have hread := h.padded_complete ht hlength (stops_of_closing hclosing r).1
      (stops_of_closing hclosing r).2.1
    simp [readSeparated, hread, (stops_of_closing hclosing r).2.2]
  | @cons t rest a as ht hrest ih =>
    obtain ⟨m, rfl⟩ := Nat.exists_eq_add_one_of_ne_zero (Nat.ne_zero_of_lt hm)
    simp only [List.length_append, List.length_cons] at hlength hm
    have hspace : Stops isSpace (',' :: (rest ++ closing :: r)) := stops_cons rfl _
    have hword : Stops isWordChar (',' :: (rest ++ closing :: r)) := stops_cons rfl _
    have hread := h.padded_complete ht (by omega) hspace hword
    have hmore := ih (m := m) (by omega) (by omega)
    have hexpect : expect ',' (',' :: (rest ++ closing :: r)) = some (rest ++ closing :: r) := rfl
    simp [readSeparated, hread, hexpect, hmore]

theorem opening_padded (h : Reads f P n) {u : Text} {a : α} (hu : Padded P u a) (r : Text) :
    ∃ c s, skip (u ++ r) = c :: s ∧ isOpening c = true := by
  cases hu with
  | @intro before t after a hbefore ht _ =>
    obtain ⟨c, rest, rfl, hc⟩ := h.opening ht
    refine ⟨c, rest ++ after ++ r, ?_, hc⟩
    rw [List.append_assoc, skip_blanks hbefore]
    exact skip_opening hc _

theorem opening_separated (h : Reads f P n) {u : Text} {as : List α} (hu : Separated P u as)
    (r : Text) : ∃ c s, skip (u ++ r) = c :: s ∧ isOpening c = true := by
  cases hu with
  | single ht => exact h.opening_padded ht r
  | cons ht _ =>
    rw [List.append_assoc]
    exact h.opening_padded ht _

theorem enclosed_sound (h : Reads f P n) {closing : Char} {m : Nat} {t r : Text} {as : List α}
    (hread : readEnclosed closing f m t = some (as, r)) :
    ∃ u, t = u ++ r ∧ Enclosed closing P u as := by
  unfold readEnclosed at hread
  split at hread
  case h_1 s hexpect =>
    cases hread
    obtain ⟨blanks, ht, hblanks⟩ := exists_skip t
    rw [expect_eq_some_iff.1 hexpect] at ht
    exact ⟨blanks ++ [closing], by simp [ht], .empty hblanks⟩
  case h_2 =>
    obtain ⟨⟨bs, s⟩, hparts, hrest⟩ := Option.bind_eq_some_iff.1 hread
    obtain ⟨q, hexpect, heq⟩ := Option.map_eq_some_iff.1 hrest
    cases heq
    obtain ⟨u, rfl, hu⟩ := h.separated_sound hparts
    rw [expect_eq_some_iff.1 hexpect]
    exact ⟨u ++ [closing], by simp, .parts hu⟩

theorem enclosed_complete (h : Reads f P n) {closing : Char} (hclosing : isClosing closing = true)
    {u : Text} {as : List α} (hu : Enclosed closing P u as) (hlength : u.length ≤ n) (r : Text) :
    readEnclosed closing f n (u ++ r) = some (as, r) := by
  cases hu with
  | @empty t hblanks =>
    have hexpect : expect closing (skip (t ++ closing :: r)) = some r := by
      rw [skip_blanks hblanks, (stops_of_closing hclosing r).1.skip_eq]
      exact expect_eq_some_iff.2 rfl
    simp [readEnclosed, hexpect]
  | @parts t as ht =>
    rw [List.length_append, List.length_singleton] at hlength
    -- the first part does not open with the bracket, so the parts are not taken for none
    have hnone : expect closing (skip (t ++ closing :: r)) = none := by
      obtain ⟨c, s, hskip, hc⟩ := h.opening_separated ht (closing :: r)
      rw [hskip]
      apply if_neg
      rintro rfl
      exact ne_of_isOpening hc hclosing rfl
    have hparts := h.separated_complete hclosing ht (r := r) (m := n) (by omega) (by omega)
    have hexpect : expect closing (closing :: r) = some r := expect_eq_some_iff.2 rfl
    simp [readEnclosed, hnone, hparts, hexpect]

/-- A reader of values gives a reader of members. -/
theorem member {f : Text → Option (Value × Text)} {P : Text → Value → Prop} (h : Reads f P n) :
    Reads (readMember f) (Member P) n where
  opening := by
    rintro u a ⟨⟨h⟩, -, -, -⟩
    exact ⟨_, _, rfl, rfl⟩
  sound := by
    intro t entry r hread
    obtain ⟨⟨key, s⟩, hkey, hrest⟩ := Option.bind_eq_some_iff.1 hread
    obtain ⟨q, hcolon, hrest⟩ := Option.bind_eq_some_iff.1 hrest
    obtain ⟨⟨v, r'⟩, hvalue, heq⟩ := Option.bind_eq_some_iff.1 hrest
    cases heq
    obtain ⟨name, rfl, hname⟩ := readString_eq_some_iff.1 hkey
    obtain ⟨before, hs, hbefore⟩ := exists_skip s
    obtain ⟨after, hq, hafter⟩ := exists_skip q
    obtain ⟨u, hu, hP⟩ := h.sound hvalue
    refine ⟨_, ?_, .intro hname hbefore hafter hP⟩
    calc name ++ s = name ++ (before ++ ':' :: q) := by rw [← expect_eq_some_iff.1 hcolon, ← hs]
      _ = name ++ (before ++ ':' :: (after ++ (u ++ r))) := by rw [← hu, ← hq]
      _ = name ++ (before ++ ':' :: (after ++ u)) ++ r := by simp
  complete := by
    intro u entry r hu hlength hword
    cases hu with
    | @intro name key before after t v hname hbefore hafter ht =>
      simp only [List.length_append, List.length_cons] at hlength
      have hkey := (readString_eq_some_iff (r := before ++ ':' :: (after ++ (t ++ r)))).2
        ⟨name, rfl, hname⟩
      have hcolon : expect ':' (skip (before ++ ':' :: (after ++ (t ++ r)))) =
          some (after ++ (t ++ r)) := by
        rw [skip_blanks hbefore]
        rfl
      have hskip : skip (after ++ (t ++ r)) = t ++ r := by
        rw [skip_blanks hafter, h.skip_append ht]
      have hvalue := h.complete ht (by omega) hword
      simp [readMember, hkey, hcolon, hskip, hvalue]

end Reads

theorem Spells.opening {u : Text} {v : Value} (h : Spells u v) :
    ∃ c t, u = c :: t ∧ isOpening c = true := by
  cases h with
  | word h =>
    obtain ⟨c, t, rfl⟩ := h.exists_cons
    have hc := isWordChar_of_mem_word h c (by simp)
    exact ⟨c, t, rfl, by simp [isOpening, hc]⟩
  | string h =>
    cases h with
    | intro h => exact ⟨_, _, rfl, rfl⟩
  | list h => exact ⟨_, _, rfl, rfl⟩
  | map h => exact ⟨_, _, rfl, rfl⟩

theorem readWord_sound {t r : Text} {v : Value} (h : readWord t = some (v, r)) :
    ∃ u, t = u ++ r ∧ Spells u v := by
  obtain ⟨s, hs, heq⟩ := Option.map_eq_some_iff.1 h
  cases heq
  exact ⟨_, List.takeWhile_append_dropWhile.symm, .word (word?_eq_some_iff.1 hs)⟩

theorem readWord_complete {w r : Text} {s : Scalar} (h : SpellsWord w s)
    (hword : Stops isWordChar r) : readWord (w ++ r) = some (.scalar s, r) := by
  have hw := isWordChar_of_mem_word h
  rw [readWord, takeWhile_run hw hword, dropWhile_run hw hword, word?_eq_some_iff.2 h]
  rfl

theorem readValue_sound {n : Nat} (h : Reads (readValue n) Spells n) {t r : Text} {v : Value}
    (hread : readValue (n + 1) t = some (v, r)) : ∃ u, t = u ++ r ∧ Spells u v := by
  cases t with
  | nil => cases hread
  | cons c t =>
    rw [readValue] at hread
    split_ifs at hread with hquote hlist hmap
    · obtain ⟨⟨s, q⟩, hchars, heq⟩ := Option.map_eq_some_iff.1 hread
      cases heq
      obtain ⟨u, rfl, hu⟩ := readChars_eq_some_iff.1 hchars
      exact ⟨'"' :: (u ++ ['"']), by simp [hquote], .string (.intro hu)⟩
    · obtain ⟨⟨items, q⟩, hitems, heq⟩ := Option.map_eq_some_iff.1 hread
      cases heq
      obtain ⟨u, rfl, hu⟩ := h.enclosed_sound hitems
      exact ⟨'[' :: u, by simp [hlist], .list hu⟩
    · obtain ⟨⟨members, q⟩, hmembers, heq⟩ := Option.map_eq_some_iff.1 hread
      cases heq
      obtain ⟨u, rfl, hu⟩ := h.member.enclosed_sound hmembers
      exact ⟨'\x7b' :: u, by simp [hmap], .map hu⟩
    · exact readWord_sound hread

theorem readValue_complete {n : Nat} (h : Reads (readValue n) Spells n) {u r : Text} {v : Value}
    (hu : Spells u v) (hlength : u.length ≤ n + 1) (hword : Stops isWordChar r) :
    readValue (n + 1) (u ++ r) = some (v, r) := by
  cases hu with
  | @word w s hw =>
    obtain ⟨c, t, rfl⟩ := hw.exists_cons
    have hc := isWordChar_of_mem_word hw c (by simp)
    have hne {d : Char} (hd : isWordChar d = false) : c ≠ d := by
      rintro rfl
      rw [hc] at hd
      cases hd
    rw [List.cons_append, readValue, if_neg (hne rfl), if_neg (hne rfl), if_neg (hne rfl)]
    exact readWord_complete hw hword
  | @string t s hs =>
    cases hs with
    | @intro t _ hchars =>
      have hread := (readChars_eq_some_iff (r := r)).2 ⟨t, rfl, hchars⟩
      simp [readValue, hread]
  | @list t items hitems =>
    rw [List.length_cons] at hlength
    have hread := h.enclosed_complete rfl hitems (by omega) r
    simp [readValue, hread]
  | @map t members hmembers =>
    rw [List.length_cons] at hlength
    have hread := h.member.enclosed_complete rfl hmembers (by omega) r
    simp [readValue, hread]

theorem reads_value (n : Nat) : Reads (readValue n) Spells n := by
  induction n with
  | zero =>
    refine ⟨Spells.opening, nofun, ?_⟩
    intro u v r hu hlength
    obtain ⟨c, t, rfl, -⟩ := hu.opening
    cases hlength
  | succ n ih => exact ⟨Spells.opening, readValue_sound ih, readValue_complete ih⟩

theorem read?_eq_some_iff {t : Text} {v : Value} : read? t = some v ↔ Document t v := by
  constructor
  · intro h
    obtain ⟨⟨w, r⟩, hread, hrest⟩ := Option.bind_eq_some_iff.1 h
    dsimp only at hrest
    split_ifs at hrest with hr
    cases hrest
    obtain ⟨u, hu, hdocument⟩ := (reads_value t.length).padded_sound hread
    rw [hr, List.append_nil] at hu
    rwa [hu]
  · intro h
    have hread := (reads_value t.length).padded_complete h (Nat.le_refl _) (r := []) nofun nofun
    rw [List.append_nil] at hread
    simp [read?, hread]

/-- A text is a document of one value at most. -/
theorem Document.unique {t : Text} {v w : Value} (hv : Document t v) (hw : Document t w) :
    v = w := by
  have hread := read?_eq_some_iff.2 hv
  rw [read?_eq_some_iff.2 hw] at hread
  exact (Option.some.inj hread).symm

/-- Whether a text is a document of a value and of no other. -/
def Denotes (t : Text) (v : Value) : Prop := ∀ w, Document t w ↔ w = v

theorem Document.denotes {t : Text} {v : Value} (h : Document t v) : Denotes t v := by
  intro w
  constructor
  · exact fun hw => hw.unique h
  · rintro rfl
    exact h

theorem denotes_iff_read? {t : Text} {v : Value} : Denotes t v ↔ read? t = some v := by
  rw [read?_eq_some_iff]
  constructor
  · exact fun h => (h v).2 rfl
  · exact Document.denotes

theorem Document.append_blanks {t blanks : Text} {v : Value} (h : Document t v)
    (hblanks : ∀ c ∈ blanks, isSpace c = true) : Document (t ++ blanks) v := by
  cases h with
  | @intro before t after v hbefore ht hafter =>
    have hboth : ∀ c ∈ after ++ blanks, isSpace c = true := by
      intro c hc
      rcases List.mem_append.1 hc with hc | hc
      · exact hafter c hc
      · exact hblanks c hc
    rw [List.append_assoc, List.append_assoc]
    exact .intro hbefore ht hboth

theorem render_injective {v w : Value} (hv : Payload v) (hw : Payload w)
    (h : render v = render w) : v = w := by
  have hdocument := document_render hw
  rw [← h] at hdocument
  exact (document_render hv).unique hdocument

end Json
end SearchQuery
