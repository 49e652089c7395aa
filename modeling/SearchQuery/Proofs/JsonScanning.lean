import SearchQuery.Proofs.JsonGrammar

/-!
# Scanning JSON

What stands in a JSON document besides brackets: texts between quotes, literal names and numbers.
Readers of characters take what they read off the front of a text and leave the rest; they need not
look further, since no escape goes on where another one ends. Words do go on, so that a word is cut
off first, as far as its characters reach, and then read as a whole. Every reader is exact: it reads
what the grammar says and nothing else.
-/

namespace SearchQuery
namespace Json

/-- Whether a text goes on without a character of a class. -/
def Stops (p : Char → Bool) (t : Text) : Prop := ∀ c, t.head? = some c → p c = false

section

variable {p : Char → Bool} {w r : Text}

theorem stops_cons {c : Char} (h : p c = false) (t : Text) : Stops p (c :: t) := by
  intro d hd
  cases hd
  exact h

theorem takeWhile_run (hw : ∀ c ∈ w, p c = true) (hr : Stops p r) :
    (w ++ r).takeWhile p = w := by
  rw [List.takeWhile_append_of_pos hw]
  cases r with
  | nil => simp
  | cons c r => simp [hr c rfl]

theorem dropWhile_run (hw : ∀ c ∈ w, p c = true) (hr : Stops p r) :
    (w ++ r).dropWhile p = r := by
  rw [List.dropWhile_append_of_pos hw]
  cases r with
  | nil => rfl
  | cons c r => simp [hr c rfl]

theorem of_mem_takeWhile {c : Char} (h : c ∈ w.takeWhile p) : p c = true :=
  List.all_eq_true.1 List.all_takeWhile c h

end

def expect (c : Char) : Text → Option Text
  | [] => none
  | d :: r => if d = c then some r else none

theorem expect_eq_some_iff {c : Char} {t r : Text} : expect c t = some r ↔ t = c :: r := by
  cases t with
  | nil => simp [expect]
  | cons d t => simp [expect]

/-! ## Characters between quotes -/

def char? (n : Nat) : Option Char := if n.isValidChar then some (Char.ofNat n) else none

theorem toNat_ofNat {n : Nat} (h : n.isValidChar) : (Char.ofNat n).toNat = n := by
  rw [Char.ofNat, dif_pos h]
  rfl

theorem char?_eq_some_iff {n : Nat} {c : Char} : char? n = some c ↔ c.toNat = n := by
  unfold char?
  split_ifs with h
  · rw [Option.some.injEq]
    constructor
    · rintro rfl
      exact toNat_ofNat h
    · rintro rfl
      exact Char.ofNat_toNat c
  · refine iff_of_false not_false ?_
    rintro rfl
    exact h c.valid

/-- No character is half a surrogate pair, so that a unit of its own is no first half of one. -/
theorem not_isHigh_toNat (c : Char) : ¬ IsHigh c.toNat := by
  have hvalid : c.toNat.isValidChar := c.valid
  simp only [Nat.isValidChar, IsHigh] at hvalid ⊢
  omega

def readUnit (t : Text) : Option (Nat × Text) := (Yaml.hexNumber? 4 t).map fun n => (n, t.drop 4)

theorem hexNumber?_append {digits : Text} (h : digits.length = 4) (r : Text) :
    Yaml.hexNumber? 4 (digits ++ r) = Yaml.hexNumber? 4 digits := by
  have htake : (digits ++ r).take 4 = digits.take 4 := List.take_append_of_le_length (by omega)
  rw [Yaml.hexNumber?, Yaml.hexNumber?, if_neg (by simp; omega), if_neg (by omega), htake]

theorem readUnit_eq_some_iff {t r : Text} {n : Nat} :
    readUnit t = some (n, r) ↔ ∃ digits, t = digits ++ r ∧ SpellsUnit digits n := by
  simp only [readUnit, Option.map_eq_some_iff, Prod.mk.injEq]
  constructor
  · rintro ⟨m, hnumber, rfl, rfl⟩
    have hlength : 4 ≤ t.length := by
      by_contra h
      rw [Yaml.hexNumber?, if_pos (by omega)] at hnumber
      cases hnumber
    have hdigits : (t.take 4).length = 4 := List.length_take_of_le hlength
    refine ⟨t.take 4, (List.take_append_drop 4 t).symm, hdigits, ?_⟩
    rw [← hexNumber?_append hdigits (t.drop 4), List.take_append_drop, hnumber]
  · rintro ⟨digits, rfl, hlength, hnumber⟩
    refine ⟨n, ?_, rfl, ?_⟩
    · rw [hexNumber?_append hlength, hnumber]
    · rw [← hlength, List.drop_left]

/-- The character of a pair whose first half has been read. -/
def readLow (high : Nat) : Text → Option (Char × Text)
  | '\\' :: 'u' :: t => do
    let (low, r) ← readUnit t
    if IsLow low then (char? (paired high low)).map (·, r) else none
  | _ => none

theorem readLow_eq_some_iff {high : Nat} {t r : Text} {c : Char} :
    readLow high t = some (c, r) ↔ ∃ lows low, t = '\\' :: 'u' :: (lows ++ r) ∧
      SpellsUnit lows low ∧ IsLow low ∧ c.toNat = paired high low := by
  constructor
  · intro h
    unfold readLow at h
    split at h
    case h_1 t =>
      obtain ⟨⟨low, s⟩, hunit, hrest⟩ := Option.bind_eq_some_iff.1 h
      obtain ⟨lows, rfl, hlows⟩ := readUnit_eq_some_iff.1 hunit
      dsimp only at hrest
      split_ifs at hrest with hlow
      obtain ⟨d, hd, heq⟩ := Option.map_eq_some_iff.1 hrest
      cases heq
      exact ⟨lows, low, rfl, hlows, hlow, char?_eq_some_iff.1 hd⟩
    case h_2 => cases h
  · rintro ⟨lows, low, rfl, hlows, hlow, hc⟩
    have hunit := (readUnit_eq_some_iff (r := r)).2 ⟨lows, rfl, hlows⟩
    simp [readLow, hunit, hlow, char?_eq_some_iff.2 hc]

/-- The character that units stand for, behind the letter of the first one. -/
def readUnits (t : Text) : Option (Char × Text) := do
  let (n, r) ← readUnit t
  if IsHigh n then readLow n r else (char? n).map (·, r)

def readEscape : Text → Option (Char × Text)
  | [] => none
  | letter :: t => if letter = 'u' then readUnits t else (shortEscape? letter).map (·, t)

def readChar : Text → Option (Char × Text)
  | [] => none
  | c :: t =>
    if c = '\\' then readEscape t
    else if c = '"' ∨ c.toNat < 0x20 then none
    else some (c, t)

theorem readUnits_eq_some_iff {t r : Text} {c : Char} :
    readUnits t = some (c, r) ↔ ∃ u, t = u ++ r ∧ SpellsChar ('\\' :: 'u' :: u) c := by
  constructor
  · intro h
    obtain ⟨⟨n, s⟩, hunit, hrest⟩ := Option.bind_eq_some_iff.1 h
    obtain ⟨digits, rfl, hdigits⟩ := readUnit_eq_some_iff.1 hunit
    dsimp only at hrest
    split_ifs at hrest with hhigh
    · obtain ⟨lows, low, rfl, hlows, hlow, hc⟩ := readLow_eq_some_iff.1 hrest
      refine ⟨digits ++ '\\' :: 'u' :: lows, by simp, ?_⟩
      exact .pair hdigits hhigh hlows hlow hc
    · obtain ⟨d, hd, heq⟩ := Option.map_eq_some_iff.1 hrest
      cases heq
      rw [← char?_eq_some_iff.1 hd] at hdigits
      exact ⟨digits, rfl, .unit hdigits⟩
  · rintro ⟨u, rfl, h⟩
    cases h with
    | short h => cases h
    | unit h =>
      have hunit := (readUnit_eq_some_iff (r := r)).2 ⟨_, rfl, h⟩
      simp [readUnits, hunit, not_isHigh_toNat, char?_eq_some_iff.2 rfl]
    | @pair highs lows high low c hhighs hhigh hlows hlow hc =>
      have hunit := (readUnit_eq_some_iff (r := '\\' :: 'u' :: (lows ++ r))).2 ⟨_, rfl, hhighs⟩
      have hrest := (readLow_eq_some_iff (r := r)).2 ⟨lows, low, rfl, hlows, hlow, hc⟩
      simp [readUnits, hunit, hhigh, hrest]

theorem readChar_eq_some_iff {t r : Text} {c : Char} :
    readChar t = some (c, r) ↔ ∃ u, t = u ++ r ∧ SpellsChar u c := by
  constructor
  · intro h
    cases t with
    | nil => cases h
    | cons d t =>
      rw [readChar] at h
      split_ifs at h with hslash hplain
      · cases t with
        | nil => cases h
        | cons letter t =>
          rw [readEscape] at h
          split_ifs at h with hletter
          · obtain ⟨u, rfl, hu⟩ := readUnits_eq_some_iff.1 h
            exact ⟨'\\' :: 'u' :: u, by rw [hslash, hletter]; rfl, hu⟩
          · obtain ⟨e, he, heq⟩ := Option.map_eq_some_iff.1 h
            cases heq
            exact ⟨['\\', letter], by rw [hslash]; rfl, .short he⟩
      · cases h
        rw [not_or, Nat.not_lt] at hplain
        exact ⟨[c], rfl, .plain hplain.1 hslash hplain.2⟩
  · rintro ⟨u, rfl, h⟩
    cases h with
    | plain hquote hslash hcontrol => simp [readChar, hquote, hslash, hcontrol]
    | @short letter c h =>
      have hletter : letter ≠ 'u' := by
        rintro rfl
        cases h
      simp [readChar, readEscape, hletter, h]
    | unit h =>
      have hunits := (readUnits_eq_some_iff (r := r)).2 ⟨_, rfl, .unit h⟩
      simpa [readChar, readEscape] using hunits
    | pair hhighs hhigh hlows hlow hc =>
      have hunits := (readUnits_eq_some_iff (r := r)).2 ⟨_, rfl, .pair hhighs hhigh hlows hlow hc⟩
      simpa [readChar, readEscape] using hunits

theorem SpellsChar.exists_cons {u : Text} {c : Char} (h : SpellsChar u c) :
    ∃ d t, u = d :: t ∧ d ≠ '"' := by
  cases h with
  | plain hquote _ _ => exact ⟨_, _, rfl, hquote⟩
  | short _ => exact ⟨_, _, rfl, by decide⟩
  | unit _ => exact ⟨_, _, rfl, by decide⟩
  | pair _ _ _ _ _ => exact ⟨_, _, rfl, by decide⟩

/-- Reading a character leaves less of the text, so that reading characters comes to an end. -/
theorem length_lt_of_readChar {t r : Text} {c : Char} (h : readChar t = some (c, r)) :
    r.length < t.length := by
  obtain ⟨u, rfl, hu⟩ := readChar_eq_some_iff.1 h
  obtain ⟨d, t, rfl, -⟩ := hu.exists_cons
  simp only [List.cons_append, List.length_cons, List.length_append]
  omega

/-- Characters up to the closing quote, which is left out. -/
def readChars (t : Text) : Option (Text × Text) :=
  match expect '"' t with
  | some r => some ([], r)
  | none =>
    match _h : readChar t with
    | some (c, r) => (readChars r).map fun (cs, r) => (c :: cs, r)
    | none => none
termination_by t.length
decreasing_by exact length_lt_of_readChar _h

theorem readChars_quote (r : Text) : readChars ('"' :: r) = some ([], r) := by
  rw [readChars]
  rfl

theorem readChars_of_readChar {t s : Text} {c : Char} (hquote : expect '"' t = none)
    (h : readChar t = some (c, s)) :
    readChars t = (readChars s).map fun (cs, r) => (c :: cs, r) := by
  rw [readChars, hquote]
  dsimp only
  split
  case h_1 d q hd =>
    cases hd.symm.trans h
    rfl
  case h_2 hnone => cases hnone.symm.trans h

theorem readChars_of_none {t : Text} (hquote : expect '"' t = none) (h : readChar t = none) :
    readChars t = none := by
  rw [readChars, hquote]
  dsimp only
  split
  case h_1 d q hd => cases hd.symm.trans h
  case h_2 => rfl

theorem readChars_eq_some_iff {t r cs : Text} :
    readChars t = some (cs, r) ↔ ∃ u, t = u ++ '"' :: r ∧ SpellsChars u cs := by
  constructor
  · intro h
    induction t using readChars.induct generalizing cs with
    | case1 t s hquote =>
      rw [expect_eq_some_iff.1 hquote, readChars_quote] at h
      cases h
      exact ⟨[], expect_eq_some_iff.1 hquote, .nil⟩
    | case2 t hquote c s hchar ih =>
      rw [readChars_of_readChar hquote hchar] at h
      obtain ⟨⟨ds, q⟩, hrest, heq⟩ := Option.map_eq_some_iff.1 h
      cases heq
      obtain ⟨u, rfl, hu⟩ := readChar_eq_some_iff.1 hchar
      obtain ⟨v, rfl, hv⟩ := ih hrest
      exact ⟨u ++ v, by simp, .cons hu hv⟩
    | case3 t hquote hchar =>
      rw [readChars_of_none hquote hchar] at h
      cases h
  · rintro ⟨u, rfl, h⟩
    induction h with
    | nil => exact readChars_quote r
    | @cons t rest c cs h hrest ih =>
      have hchar := (readChar_eq_some_iff (r := rest ++ '"' :: r)).2 ⟨t, rfl, h⟩
      have hquote : expect '"' (t ++ (rest ++ '"' :: r)) = none := by
        obtain ⟨d, t, rfl, hd⟩ := h.exists_cons
        exact if_neg hd
      rw [List.append_assoc, readChars_of_readChar hquote hchar, ih]
      rfl

/-! ## Words -/

def digits? (t : Text) : Option Int := if IsDigits t then some (valueOf t) else none

/-- The power of ten behind the letter of an exponent. -/
def power? : Text → Option Int
  | [] => none
  | c :: t =>
    if c = '-' then (digits? t).map (-·)
    else if c = '+' then digits? t
    else digits? (c :: t)

def exponent? : Text → Option Int
  | [] => some 0
  | e :: t => if e = 'e' ∨ e = 'E' then power? t else none

/-- The digits of a fraction in front of a text, if there is one. -/
def readFraction (t : Text) : Option (Text × Text) :=
  match expect '.' t with
  | none => some ([], t)
  | some r =>
    if r.takeWhile Char.isDigit = [] then none
    else some (r.takeWhile Char.isDigit, r.dropWhile Char.isDigit)

def unsigned? (negative : Bool) (t : Text) : Option Scalar :=
  let whole := t.takeWhile Char.isDigit
  let rest := t.dropWhile Char.isDigit
  if ¬ IsWhole whole then none
  else if rest = [] then some (.int (signed negative (valueOf whole)))
  else do
    let (places, exponent) ← readFraction rest
    let power ← exponent? exponent
    return .float (Binary64.ofDecimal negative (valueOf (whole ++ places)) (power - places.length))

def number? (t : Text) : Option Scalar :=
  match expect '-' t with
  | some t => unsigned? true t
  | none => unsigned? false t

def word? (w : Text) : Option Scalar :=
  if w = "null" then some .null
  else if w = "false" then some (.bool false)
  else if w = "true" then some (.bool true)
  else number? w

theorem digits?_eq_some_iff {t : Text} {n : Int} :
    digits? t = some n ↔ IsDigits t ∧ valueOf t = n := by
  simp [digits?]

theorem IsDigits.head {w : Text} (h : IsDigits w) : ∃ c t, w = c :: t ∧ c.isDigit = true := by
  obtain ⟨c, t, rfl⟩ := List.exists_cons_of_ne_nil h.1
  exact ⟨c, t, rfl, h.2 c (by simp)⟩

theorem exponent?_eq_some_iff {t : Text} {n : Int} : exponent? t = some n ↔ Exponent t n := by
  constructor
  · intro h
    cases t with
    | nil =>
      cases h
      exact .absent
    | cons e t =>
      rw [exponent?] at h
      split_ifs at h with he
      cases t with
      | nil => cases h
      | cons c t =>
        rw [power?] at h
        split_ifs at h with hminus hplus
        · obtain ⟨m, hm, rfl⟩ := Option.map_eq_some_iff.1 h
          obtain ⟨ht, rfl⟩ := digits?_eq_some_iff.1 hm
          rw [hminus]
          exact .minus he ht
        · obtain ⟨ht, rfl⟩ := digits?_eq_some_iff.1 h
          rw [hplus]
          exact .plus he ht
        · obtain ⟨ht, rfl⟩ := digits?_eq_some_iff.1 h
          exact .unsigned he ht
  · intro h
    cases h with
    | absent => rfl
    | @unsigned e digits he h =>
      obtain ⟨c, t, rfl, hc⟩ := h.head
      have hminus : c ≠ '-' := by
        rintro rfl
        cases hc
      have hplus : c ≠ '+' := by
        rintro rfl
        cases hc
      simp [exponent?, he, power?, hminus, hplus, digits?, h]
    | plus he h => simp [exponent?, he, power?, digits?, h]
    | minus he h => simp [exponent?, he, power?, digits?, h]

/-- Neither digits nor a fraction go on at an exponent. -/
theorem Exponent.stops {t : Text} {n : Int} (h : Exponent t n) :
    Stops Char.isDigit t ∧ expect '.' t = none := by
  have hletter {e : Char} {r : Text} (he : e = 'e' ∨ e = 'E') :
      Stops Char.isDigit (e :: r) ∧ expect '.' (e :: r) = none := by
    rcases he with rfl | rfl
    · exact ⟨stops_cons rfl r, rfl⟩
    · exact ⟨stops_cons rfl r, rfl⟩
  cases h with
  | absent => exact ⟨nofun, rfl⟩
  | unsigned he _ => exact hletter he
  | plus he _ => exact hletter he
  | minus he _ => exact hletter he

theorem readFraction_sound {t places r : Text} (h : readFraction t = some (places, r)) :
    ∃ fraction, t = fraction ++ r ∧ Fraction fraction places := by
  unfold readFraction at h
  split at h
  case h_1 =>
    cases h
    exact ⟨[], rfl, .absent⟩
  case h_2 s hpoint =>
    split_ifs at h with hne
    cases h
    refine ⟨'.' :: s.takeWhile Char.isDigit, ?_, .present ⟨hne, fun _ => of_mem_takeWhile⟩⟩
    rw [List.cons_append, List.takeWhile_append_dropWhile, expect_eq_some_iff.1 hpoint]

theorem readFraction_complete {fraction places r : Text} (h : Fraction fraction places)
    (hdigit : Stops Char.isDigit r) (hpoint : expect '.' r = none) :
    readFraction (fraction ++ r) = some (places, r) := by
  cases h with
  | absent => rw [List.nil_append, readFraction, hpoint]
  | present h =>
    have hexpect : expect '.' ('.' :: places ++ r) = some (places ++ r) := expect_eq_some_iff.2 rfl
    rw [readFraction, hexpect]
    dsimp only
    rw [takeWhile_run h.2 hdigit, dropWhile_run h.2 hdigit, if_neg h.1]

theorem Fraction.stops {fraction places exponent : Text} {power : Int}
    (hf : Fraction fraction places) (he : Exponent exponent power) :
    Stops Char.isDigit (fraction ++ exponent) := by
  cases hf with
  | absent => exact he.stops.1
  | present _ => exact stops_cons rfl _

theorem unsigned?_eq_some_iff {negative : Bool} {t : Text} {s : Scalar} :
    unsigned? negative t = some s ↔ SpellsUnsigned negative t s := by
  constructor
  · intro h
    have hsplit : t.takeWhile Char.isDigit ++ t.dropWhile Char.isDigit = t :=
      List.takeWhile_append_dropWhile
    unfold unsigned? at h
    dsimp only at h
    -- the two runs get names, so that the text can be replaced by both of them
    generalize t.takeWhile Char.isDigit = whole at h hsplit
    generalize t.dropWhile Char.isDigit = rest at h hsplit
    subst hsplit
    split_ifs at h with hwhole hrest
    · cases h
      rw [hrest, List.append_nil]
      exact .integer hwhole
    · obtain ⟨⟨places, r⟩, hfraction, hnumber⟩ := Option.bind_eq_some_iff.1 h
      obtain ⟨power, hpower, hvalue⟩ := Option.bind_eq_some_iff.1 hnumber
      cases hvalue
      obtain ⟨fraction, rfl, hspells⟩ := readFraction_sound hfraction
      exact .decimal hwhole hspells (exponent?_eq_some_iff.1 hpower) hrest
  · intro h
    cases h with
    | integer h =>
      have hstops : Stops Char.isDigit [] := nofun
      have hwhole := takeWhile_run h.1.2 hstops
      have hrest := dropWhile_run h.1.2 hstops
      rw [List.append_nil] at hwhole hrest
      simp [unsigned?, hwhole, hrest, h]
    | @decimal whole fraction places exponent power h hf he hne =>
      have hwhole := takeWhile_run h.1.2 (hf.stops he)
      have hrest := dropWhile_run h.1.2 (hf.stops he)
      have hfraction := readFraction_complete hf he.stops.1 he.stops.2
      have hpower := exponent?_eq_some_iff.2 he
      rw [unsigned?]
      dsimp only
      rw [hwhole, hrest, if_neg (not_not.2 h), if_neg hne]
      simp [hfraction, hpower]

theorem SpellsUnsigned.exists_cons {negative : Bool} {t : Text} {s : Scalar}
    (h : SpellsUnsigned negative t s) : ∃ c r, t = c :: r ∧ c.isDigit = true := by
  cases h with
  | integer h => exact h.1.head
  | decimal h _ _ _ =>
    obtain ⟨c, r, rfl, hc⟩ := h.1.head
    exact ⟨c, _, rfl, hc⟩

theorem number?_eq_some_iff {t : Text} {s : Scalar} :
    number? t = some s ↔ ∃ negative u, t = sign negative ++ u ∧ SpellsUnsigned negative u s := by
  unfold number?
  constructor
  · intro h
    split at h
    case h_1 u hminus =>
      exact ⟨true, u, expect_eq_some_iff.1 hminus, unsigned?_eq_some_iff.1 h⟩
    case h_2 => exact ⟨false, t, rfl, unsigned?_eq_some_iff.1 h⟩
  · rintro ⟨negative, u, rfl, h⟩
    cases negative with
    | true => exact unsigned?_eq_some_iff.2 h
    | false =>
      obtain ⟨c, r, rfl, hc⟩ := h.exists_cons
      have hminus : expect '-' (c :: r) = none := by
        apply if_neg
        rintro rfl
        cases hc
      change (match expect '-' (c :: r) with
        | some t => unsigned? true t
        | none => unsigned? false (c :: r)) = some s
      rw [hminus]
      exact unsigned?_eq_some_iff.2 h

/-- Numbers start unlike the literal names. -/
theorem SpellsUnsigned.ne_cons {negative : Bool} {t r : Text} {s : Scalar} {c : Char}
    (h : SpellsUnsigned negative t s) (hminus : c ≠ '-') (hdigit : c.isDigit = false) :
    sign negative ++ t ≠ c :: r := by
  obtain ⟨d, u, rfl, hd⟩ := h.exists_cons
  cases negative with
  | true =>
    intro heq
    exact hminus (List.cons.inj heq).1.symm
  | false =>
    intro heq
    rw [(List.cons.inj heq).1, hdigit] at hd
    cases hd

theorem word?_eq_some_iff {w : Text} {s : Scalar} : word? w = some s ↔ SpellsWord w s := by
  constructor
  · intro h
    unfold word? at h
    split_ifs at h with hnull hfalse htrue
    · cases h
      rw [hnull]
      exact .null
    · cases h
      rw [hfalse]
      exact .false
    · cases h
      rw [htrue]
      exact .true
    · obtain ⟨negative, t, rfl, ht⟩ := number?_eq_some_iff.1 h
      exact .number negative ht
  · intro h
    cases h with
    | null => rfl
    | false => rfl
    | true => rfl
    | @number t s negative h =>
      have hnull : sign negative ++ t ≠ "null" := h.ne_cons (by decide) rfl
      have hfalse : sign negative ++ t ≠ "false" := h.ne_cons (by decide) rfl
      have htrue : sign negative ++ t ≠ "true" := h.ne_cons (by decide) rfl
      rw [word?, if_neg hnull, if_neg hfalse, if_neg htrue]
      exact number?_eq_some_iff.2 ⟨negative, t, rfl, h⟩

theorem isWordChar_of_mem_digits {w : Text} (h : IsDigits w) : ∀ c ∈ w, isWordChar c = true := by
  intro c hc
  simp [isWordChar, Char.isAlphanum, h.2 c hc]

theorem isWordChar_of_mem_fraction {t places : Text} (h : Fraction t places) :
    ∀ c ∈ t, isWordChar c = true := by
  cases h with
  | absent => exact List.forall_mem_nil _
  | present h => exact List.forall_mem_cons.2 ⟨rfl, isWordChar_of_mem_digits h⟩

theorem isWordChar_of_mem_exponent {t : Text} {n : Int} (h : Exponent t n) :
    ∀ c ∈ t, isWordChar c = true := by
  have hletter {e : Char} (he : e = 'e' ∨ e = 'E') : isWordChar e = true := by
    rcases he with rfl | rfl <;> rfl
  have hsigned {c : Char} {digits : Text} (hc : isWordChar c = true) (h : IsDigits digits) :
      ∀ d ∈ c :: digits, isWordChar d = true :=
    List.forall_mem_cons.2 ⟨hc, isWordChar_of_mem_digits h⟩
  cases h with
  | absent => exact List.forall_mem_nil _
  | unsigned he h => exact hsigned (hletter he) h
  | plus he h => exact List.forall_mem_cons.2 ⟨hletter he, hsigned rfl h⟩
  | minus he h => exact List.forall_mem_cons.2 ⟨hletter he, hsigned rfl h⟩

theorem isWordChar_of_mem_unsigned {negative : Bool} {t : Text} {s : Scalar}
    (h : SpellsUnsigned negative t s) : ∀ c ∈ t, isWordChar c = true := by
  cases h with
  | integer h => exact isWordChar_of_mem_digits h.1
  | decimal h hf he _ =>
    rw [List.forall_mem_append, List.forall_mem_append]
    exact ⟨isWordChar_of_mem_digits h.1, isWordChar_of_mem_fraction hf,
      isWordChar_of_mem_exponent he⟩

theorem isWordChar_of_mem_word {w : Text} {s : Scalar} (h : SpellsWord w s) :
    ∀ c ∈ w, isWordChar c = true := by
  cases h with
  | null => exact List.all_eq_true.1 rfl
  | false => exact List.all_eq_true.1 rfl
  | true => exact List.all_eq_true.1 rfl
  | number negative h =>
    rw [List.forall_mem_append]
    refine ⟨?_, isWordChar_of_mem_unsigned h⟩
    cases negative <;> exact List.all_eq_true.1 rfl

theorem SpellsWord.exists_cons {w : Text} {s : Scalar} (h : SpellsWord w s) :
    ∃ c r, w = c :: r := by
  cases h with
  | null => exact ⟨_, _, rfl⟩
  | false => exact ⟨_, _, rfl⟩
  | true => exact ⟨_, _, rfl⟩
  | number negative h =>
    obtain ⟨c, r, rfl, -⟩ := h.exists_cons
    cases negative <;> exact ⟨_, _, rfl⟩

end Json
end SearchQuery
