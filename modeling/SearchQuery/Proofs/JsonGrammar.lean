import Mathlib.Data.List.Forall2
import Mathlib.Data.List.Induction
import SearchQuery.Json.Printer
import SearchQuery.Proofs.BoolQueries
import SearchQuery.Yaml.ScalarText

/-!
# The grammar of JSON

Which texts are JSON documents and what they denote, said without the printer. A number with a
fraction or an exponent denotes the nearest floating-point number and any other an integer. Of two
members with the same name the later one counts, in the place of the earlier one. Half a surrogate
pair that stands alone denotes nothing: no text has it as a character.

What is printed of a payload is a document that denotes the payload.
-/

namespace SearchQuery

namespace Entries

/-- Setting distinct texts one after the other keeps all of them, in order. -/
theorem ofPairs_fields {fields : List (Text × Value)} (h : (fields.map Prod.fst).Nodup) :
    ofPairs (fields.map fun (key, value) => (.text key, value)) =
      fields.map fun (key, value) => (.text key, value) := by
  induction fields using List.reverseRecOn with
  | nil => rfl
  | append_singleton fields field ih =>
    obtain ⟨key, value⟩ := field
    rw [List.map_append, List.nodup_append] at h
    obtain ⟨hfields, -, hnew⟩ := h
    have hnone : get? (.text key) (fields.map fun (key, value) => (.text key, value)) = none := by
      rw [get?_text, List.lookup_eq_none_iff]
      intro field hmem
      have hne := hnew field.1 (List.mem_map_of_mem hmem) key (by simp)
      exact bne_iff_ne.2 (Ne.symm hne)
    have hput := put_of_get?_eq_none hnone value
    rw [← ih hfields] at hput
    rw [ofPairs, List.map_append, List.foldl_append]
    exact hput.trans (by rw [ih hfields]; rfl)

end Entries

namespace Json

def isSpace (c : Char) : Bool := c == ' ' || c == '\t' || c == '\n' || c == '\r'

/-- The characters of literal names and of numbers. -/
def isWordChar (c : Char) : Bool := c.isAlphanum || c == '+' || c == '-' || c == '.'

def IsDigits (w : Text) : Prop := w ≠ [] ∧ ∀ c ∈ w, c.isDigit = true

instance (w : Text) : Decidable (IsDigits w) :=
  inferInstanceAs (Decidable (w ≠ [] ∧ ∀ c ∈ w, c.isDigit = true))

/-- Digits without a zero in front, unless the zero is all there is. -/
def IsWhole (w : Text) : Prop := IsDigits w ∧ (w.head? = some '0' → w = ['0'])

instance (w : Text) : Decidable (IsWhole w) :=
  inferInstanceAs (Decidable (IsDigits w ∧ (w.head? = some '0' → w = ['0'])))

def valueOf (digits : Text) : Nat := Nat.ofDigitChars 10 digits 0

def signed (negative : Bool) (n : Nat) : Int := if negative then -n else n

def sign (negative : Bool) : Text := if negative then ['-'] else []

/-- A fraction, if there is one, and its digits. -/
inductive Fraction : Text → Text → Prop where
  | absent : Fraction [] []
  | present {digits : Text} (h : IsDigits digits) : Fraction ('.' :: digits) digits

/-- An exponent, if there is one, and the power of ten. -/
inductive Exponent : Text → Int → Prop where
  | absent : Exponent [] 0
  | unsigned {e : Char} {digits : Text} (he : e = 'e' ∨ e = 'E') (h : IsDigits digits) :
      Exponent (e :: digits) (valueOf digits)
  | plus {e : Char} {digits : Text} (he : e = 'e' ∨ e = 'E') (h : IsDigits digits) :
      Exponent (e :: '+' :: digits) (valueOf digits)
  | minus {e : Char} {digits : Text} (he : e = 'e' ∨ e = 'E') (h : IsDigits digits) :
      Exponent (e :: '-' :: digits) (-valueOf digits)

/-- A number without its sign, which is minus if `negative` is true. -/
inductive SpellsUnsigned (negative : Bool) : Text → Scalar → Prop where
  | integer {whole : Text} (h : IsWhole whole) :
      SpellsUnsigned negative whole (.int (signed negative (valueOf whole)))
  | decimal {whole fraction places exponent : Text} {power : Int} (h : IsWhole whole)
      (hf : Fraction fraction places) (he : Exponent exponent power)
      (hne : fraction ++ exponent ≠ []) :
      SpellsUnsigned negative (whole ++ (fraction ++ exponent))
        (.float (Binary64.ofDecimal negative (valueOf (whole ++ places)) (power - places.length)))

/-- The literal names and the numbers. -/
inductive SpellsWord : Text → Scalar → Prop where
  | null : SpellsWord "null" .null
  | false : SpellsWord "false" (.bool false)
  | true : SpellsWord "true" (.bool true)
  | number {t : Text} {s : Scalar} (negative : Bool) (h : SpellsUnsigned negative t s) :
      SpellsWord (sign negative ++ t) s

def shortEscape? (letter : Char) : Option Char :=
  [('"', '"'), ('\\', '\\'), ('/', '/'), ('b', '\x08'), ('f', '\x0c'), ('n', '\n'), ('r', '\r'),
    ('t', '\t')].lookup letter

/-- Four hexadecimal digits and their number. -/
def SpellsUnit (digits : Text) (n : Nat) : Prop :=
  digits.length = 4 ∧ Yaml.hexNumber? 4 digits = some n

def IsHigh (n : Nat) : Prop := 0xD800 ≤ n ∧ n < 0xDC00

def IsLow (n : Nat) : Prop := 0xDC00 ≤ n ∧ n < 0xE000

instance (n : Nat) : Decidable (IsHigh n) := inferInstanceAs (Decidable (0xD800 ≤ n ∧ n < 0xDC00))

instance (n : Nat) : Decidable (IsLow n) := inferInstanceAs (Decidable (0xDC00 ≤ n ∧ n < 0xE000))

/-- The code point of a surrogate pair. -/
def paired (high low : Nat) : Nat := 0x10000 + (high - 0xD800) * 0x400 + (low - 0xDC00)

/-- How a character may be written between quotes. -/
inductive SpellsChar : Text → Char → Prop where
  | plain {c : Char} (hquote : c ≠ '"') (hslash : c ≠ '\\') (hcontrol : 0x20 ≤ c.toNat) :
      SpellsChar [c] c
  | short {letter c : Char} (h : shortEscape? letter = some c) : SpellsChar ['\\', letter] c
  | unit {digits : Text} {c : Char} (h : SpellsUnit digits c.toNat) :
      SpellsChar ('\\' :: 'u' :: digits) c
  | pair {highs lows : Text} {high low : Nat} {c : Char} (hhighs : SpellsUnit highs high)
      (hhigh : IsHigh high) (hlows : SpellsUnit lows low) (hlow : IsLow low)
      (h : c.toNat = paired high low) :
      SpellsChar ('\\' :: 'u' :: (highs ++ '\\' :: 'u' :: lows)) c

inductive SpellsChars : Text → Text → Prop where
  | nil : SpellsChars [] []
  | cons {t rest : Text} {c : Char} {cs : Text} (h : SpellsChar t c) (hrest : SpellsChars rest cs) :
      SpellsChars (t ++ rest) (c :: cs)

inductive SpellsString : Text → Text → Prop where
  | intro {t cs : Text} (h : SpellsChars t cs) : SpellsString ('"' :: (t ++ ['"'])) cs

section

variable {α : Type}

/-- A text of `P` with blanks around it. -/
inductive Padded (P : Text → α → Prop) : Text → α → Prop where
  | intro {before t after : Text} {a : α} (hbefore : ∀ c ∈ before, isSpace c = true) (h : P t a)
      (hafter : ∀ c ∈ after, isSpace c = true) : Padded P (before ++ (t ++ after)) a

/-- Texts of `P`, at least one, with commas between them. -/
inductive Separated (P : Text → α → Prop) : Text → List α → Prop where
  | single {t : Text} {a : α} (h : Padded P t a) : Separated P t [a]
  | cons {t rest : Text} {a : α} {as : List α} (h : Padded P t a) (hrest : Separated P rest as) :
      Separated P (t ++ ',' :: rest) (a :: as)

/-- What follows an opening bracket, up to the closing one. -/
inductive Enclosed (closing : Char) (P : Text → α → Prop) : Text → List α → Prop where
  | empty {t : Text} (h : ∀ c ∈ t, isSpace c = true) : Enclosed closing P (t ++ [closing]) []
  | parts {t : Text} {as : List α} (h : Separated P t as) : Enclosed closing P (t ++ [closing]) as

end

/-- A name, a colon and a value of `P`. -/
inductive Member (P : Text → Value → Prop) : Text → Scalar × Value → Prop where
  | intro {name key before after t : Text} {v : Value} (hname : SpellsString name key)
      (hbefore : ∀ c ∈ before, isSpace c = true) (hafter : ∀ c ∈ after, isSpace c = true)
      (h : P t v) : Member P (name ++ (before ++ ':' :: (after ++ t))) (.text key, v)

/-- The texts of a value, without blanks around them. -/
inductive Spells : Text → Value → Prop where
  | word {w : Text} {s : Scalar} (h : SpellsWord w s) : Spells w (.scalar s)
  | string {t s : Text} (h : SpellsString t s) : Spells t (.text s)
  | list {t : Text} {items : List Value} (h : Enclosed ']' Spells t items) :
      Spells ('[' :: t) (.list items)
  | map {t : Text} {members : List (Scalar × Value)}
      (h : Enclosed '\x7d' (Member Spells) t members) :
      Spells ('\x7b' :: t) (.map (Entries.ofPairs members))

/-- The texts of a value: JSON documents. -/
abbrev Document : Text → Value → Prop := Padded Spells

/-! ## Payloads -/

/-- The values that JSON has a kind of its own for, with texts as keys and no key twice. Numbers are
integers. -/
inductive Payload : Value → Prop where
  | null : Payload .null
  | bool (b : Bool) : Payload (.bool b)
  | int (i : Int) : Payload (.int i)
  | text (t : Text) : Payload (.text t)
  | list {items : List Value} (h : ∀ v ∈ items, Payload v) : Payload (.list items)
  | object {fields : List (Text × Value)} (hkeys : (fields.map Prod.fst).Nodup)
      (h : ∀ field ∈ fields, Payload field.2) : Payload (.object fields)

theorem hexNumber?_hexDigits : ∀ n < 0x20, Yaml.hexNumber? 4 (Text.hexDigits 4 n) = some n := by
  decide

theorem spellsChar_escape (c : Char) : SpellsChar (escape c) c := by
  unfold escape
  split_ifs with hquote hslash hfeed hreturn htab hpage hback hcontrol
  · exact .short (by rw [hquote]; rfl)
  · exact .short (by rw [hslash]; rfl)
  · exact .short (by rw [hfeed]; rfl)
  · exact .short (by rw [hreturn]; rfl)
  · exact .short (by rw [htab]; rfl)
  · exact .short (by rw [hpage]; rfl)
  · exact .short (by rw [hback]; rfl)
  · exact .unit ⟨rfl, hexNumber?_hexDigits _ hcontrol⟩
  · exact .plain hquote hslash (Nat.le_of_not_lt hcontrol)

theorem spellsChars_escape (t : Text) : SpellsChars (t.flatMap escape) t := by
  induction t with
  | nil => exact .nil
  | cons c rest ih => exact .cons (spellsChar_escape c) ih

theorem spellsString_string (t : Text) : SpellsString (string t) t :=
  .intro (spellsChars_escape t)

theorem valueOf_ofNat (n : Nat) : valueOf (Text.ofNat n) = n :=
  Nat.ofDigitChars_toDigits (by decide) (by decide)

theorem isDigits_ofNat (n : Nat) : IsDigits (Text.ofNat n) :=
  ⟨Nat.toDigits_ne_nil, fun _ => Nat.isDigit_of_mem_toDigits (by decide) (by decide)⟩

theorem digitChar_eq_zero : ∀ n < 10, n.digitChar = '0' → n = 0 := by
  decide

/-- Only zero has a zero as its first digit. -/
theorem eq_zero_of_head?_ofNat {n : Nat} (h : (Text.ofNat n).head? = some '0') : n = 0 := by
  induction n using Nat.strongRecOn with
  | _ n ih =>
    rw [Text.ofNat] at h
    by_cases hn : n < 10
    · rw [Nat.toDigits_of_lt_base hn] at h
      exact digitChar_eq_zero n hn (Option.some.inj h)
    · rw [Nat.toDigits_of_base_le (by decide) (by omega),
        List.head?_append_of_ne_nil _ Nat.toDigits_ne_nil] at h
      have hzero := ih (n / 10) (by omega) h
      omega

theorem isWhole_ofNat (n : Nat) : IsWhole (Text.ofNat n) := by
  refine ⟨isDigits_ofNat n, ?_⟩
  intro h
  rw [eq_zero_of_head?_ofNat h]
  rfl

theorem spellsWord_ofInt (i : Int) : SpellsWord (Text.ofInt i) (.int i) := by
  have hspells : SpellsWord (sign (decide (i < 0)) ++ Text.ofNat i.natAbs)
      (.int (signed (decide (i < 0)) (valueOf (Text.ofNat i.natAbs)))) :=
    .number _ (.integer (isWhole_ofNat i.natAbs))
  have hvalue : signed (decide (i < 0)) (valueOf (Text.ofNat i.natAbs)) = i := by
    rw [valueOf_ofNat]
    by_cases h : i < 0
    · simp only [signed, h, decide_true, if_true]
      omega
    · simp only [signed, h, decide_false, Bool.false_eq_true, if_false]
      omega
  have htext : sign (decide (i < 0)) ++ Text.ofNat i.natAbs = Text.ofInt i := by
    by_cases h : i < 0 <;> simp [sign, Text.ofInt, h]
  rwa [hvalue, htext] at hspells

theorem isSpace_of_mem_newline {level : Nat} {c : Char} (h : c ∈ newline level) :
    isSpace c = true := by
  rcases List.mem_cons.1 h with rfl | h
  · rfl
  · rw [List.eq_of_mem_replicate h]
    rfl

section

variable {α : Type} {P : Text → α → Prop} {parts : List Text} {as : List α}

/-- Parts on lines of their own are separated by their commas. -/
theorem separated_lines (h : List.Forall₂ P parts as) (hne : parts ≠ []) (inner outer : Nat) :
    Separated P (newline inner ++ (Text.joinWith ("," ++ newline inner) parts ++ newline outer))
      as := by
  induction h with
  | nil => exact absurd rfl hne
  | @cons t a rest as ht hrest ih =>
    cases hrest with
    | nil =>
      rw [Text.joinWith_singleton]
      exact .single (.intro (fun _ => isSpace_of_mem_newline) ht fun _ => isSpace_of_mem_newline)
    | @cons u b rest bs hu hrest =>
      have hfirst : Padded P (newline inner ++ (t ++ [])) a :=
        .intro (fun _ => isSpace_of_mem_newline) ht (by simp)
      have hboth := Separated.cons hfirst (ih (List.cons_ne_nil _ _))
      rw [Text.joinWith_cons_cons]
      simpa using hboth

theorem enclosed_bracketed (h : List.Forall₂ P parts as) (opening closing : Char) (level : Nat) :
    ∃ t, bracketed [opening] [closing] level parts = opening :: t ∧ Enclosed closing P t as := by
  cases h with
  | nil => exact ⟨[closing], rfl, .empty (t := []) (by simp)⟩
  | cons ht hrest =>
    have hlines := separated_lines (.cons ht hrest) (List.cons_ne_nil _ _) (level + 1) level
    refine ⟨_, ?_, .parts hlines⟩
    simp [bracketed]

end

theorem writeItems_eq (level : Nat) (items : List Value) :
    writeItems level items = items.map (write level) := by
  induction items with
  | nil => rfl
  | cons v rest ih => rw [writeItems, ih, List.map_cons]

theorem writeEntries_eq (level : Nat) (entries : List (Scalar × Value)) :
    writeEntries level entries =
      entries.map fun (k, v) => key k ++ ": " ++ write level v := by
  induction entries with
  | nil => rfl
  | cons entry rest ih => rw [writeEntries, ih, List.map_cons]

/-- A payload is written as a text of itself, at every level of indentation. -/
theorem spells_write {v : Value} (h : Payload v) (level : Nat) : Spells (write level v) v := by
  induction h generalizing level with
  | null => exact .word .null
  | bool b =>
    cases b
    · exact .word .false
    · exact .word .true
  | int i => exact .word (spellsWord_ofInt i)
  | text t => exact .string (spellsString_string t)
  | @list items h ih =>
    have hparts : List.Forall₂ Spells (writeItems (level + 1) items) items := by
      rw [writeItems_eq, List.forall₂_map_left_iff, List.forall₂_same]
      exact fun v hv => ih v hv (level + 1)
    obtain ⟨t, ht, henclosed⟩ := enclosed_bracketed hparts '[' ']' level
    have hwrite : write level (.list items) = '[' :: t := by
      rw [write]
      exact ht
    rw [hwrite]
    exact .list henclosed
  | @object fields hkeys h ih =>
    have hparts : List.Forall₂ (Member Spells)
        (writeEntries (level + 1) (fields.map fun (key, value) => (.text key, value)))
        (fields.map fun (key, value) => (.text key, value)) := by
      rw [writeEntries_eq, List.forall₂_map_left_iff, List.forall₂_same]
      intro entry hentry
      obtain ⟨⟨name, v⟩, hfield, rfl⟩ := List.mem_map.1 hentry
      have hmember : Member Spells (string name ++ ([] ++ ':' :: ([' '] ++ write (level + 1) v)))
          (.text name, v) :=
        .intro (spellsString_string name) (by simp) (by simp [isSpace]) (ih _ hfield (level + 1))
      simpa [key] using hmember
    obtain ⟨t, ht, henclosed⟩ := enclosed_bracketed hparts '\x7b' '\x7d' level
    have hwrite : write level (.object fields) = '\x7b' :: t := by
      rw [Value.object, write]
      exact ht
    have hspells := Spells.map henclosed
    rwa [Entries.ofPairs_fields hkeys, ← hwrite] at hspells

theorem document_render {v : Value} (h : Payload v) : Document (render v) v := by
  have hpadded : Document ([] ++ (write 0 v ++ [])) v :=
    .intro (by simp) (spells_write h 0) (by simp)
  simpa [render] using hpadded

end Json
end SearchQuery
