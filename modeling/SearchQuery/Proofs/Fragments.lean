import SearchQuery.Proofs.LooseOperators

/-!
# What a rejection shows

A rejection shows the piece of its text around its position, from ten characters before it to ten
characters behind and no further than the text goes. The position of a rejected text is always that
of a character of the text, so this character is in the piece: behind ten others, or behind all that
stand before it in the text. It is the character that the reason speaks of.
-/

namespace SearchQuery

namespace Text

theorem clampBound_natCast (length i : Nat) : clampBound length i = min i length := by
  unfold clampBound
  rw [if_neg (by omega), Int.toNat_natCast]

/-- Bounds that count from the start of the text do not wrap around. -/
theorem slice_natCast (s : Text) (start stop : Nat) :
    s.slice start stop = (s.take stop).drop start := by
  unfold slice
  dsimp only
  rw [clampBound_natCast, clampBound_natCast, ← List.drop_take, ← List.take_eq_take_min]
  rcases Nat.le_total start s.length with h | h
  · rw [Nat.min_eq_left h]
  · -- nothing is left of the text, whether the start is clamped or not
    have hle : (s.take stop).length ≤ s.length := List.length_take_le' stop s
    rw [Nat.min_eq_right h, List.drop_eq_nil_of_le hle, List.drop_eq_nil_of_le (Nat.le_trans hle h)]

theorem ofInt_natCast (n : Nat) : ofInt n = ofNat n := by
  unfold ofInt
  rw [if_neg (by omega), Int.natAbs_natCast]

end Text

/-- The character that a reason speaks of: a double quote, or the operator symbol that it names. -/
def Reason.Blames (reason : Reason) (c : Char) : Prop :=
  (c = '"' ∧ reason = .unterminatedQuote ∧ reason.description = "unterminated quote") ∨
  ((c = '+' ∨ c = '-') ∧ reason = .looseOperator c ∧
    reason.description =
      "operator '" ++ [c] ++ "' must be directly followed by a term or phrase")

namespace Rejection

variable {r : Rejection} {p : Nat}

/-- The bounds of the piece that is shown, both counted from the start of the text. -/
theorem fragment_of_position (h : r.position = some ↑p) :
    r.fragment = (r.text.take (p + 10)).drop (p - 10) := by
  have hstart : max 0 ((p : Int) - reach) = ((p - 10 : Nat) : Int) := by
    unfold reach
    omega
  have hstop : (p : Int) + reach = ((p + 10 : Nat) : Int) := rfl
  unfold fragment
  rw [h]
  dsimp only
  rw [hstart, hstop, Text.slice_natCast]

theorem length_fragment (h : r.position = some ↑p) :
    r.fragment.length = min r.text.length (p + 10) - (p - 10) := by
  rw [fragment_of_position h, List.length_drop, List.length_take, Nat.min_comm]

/-- The position of the rejection as seen from the start of what is shown. -/
theorem getElem?_fragment (h : r.position = some ↑p) :
    r.fragment[min p 10]? = r.text[p]? := by
  have hshift : p - 10 + min p 10 = p := by omega
  rw [fragment_of_position h, List.getElem?_drop, hshift, List.getElem?_take, if_pos (by omega)]

/-- What is shown is one piece of the text. -/
theorem exists_around_fragment (h : r.position = some ↑p) (hp : p ≤ r.text.length) :
    ∃ before after, r.text = before ++ r.fragment ++ after ∧ before.length = p - 10 ∧
      before.length + r.fragment.length = min r.text.length (p + 10) := by
  have hlength : ((r.text.take (p + 10)).take (p - 10)).length = p - 10 := by
    rw [List.length_take, List.length_take]
    omega
  refine ⟨(r.text.take (p + 10)).take (p - 10), r.text.drop (p + 10), ?_, hlength, ?_⟩
  · rw [fragment_of_position h, List.take_append_drop, List.take_append_drop]
  · rw [hlength, length_fragment h]
    omega

theorem message_of_position (h : r.position = some ↑p) :
    r.message = "Invalid query: " ++ r.reason.description ++ " at position " ++ Text.ofNat p ++
      " (near " ++ r.fragment.quoted ++ ")" := by
  unfold message
  rw [h]
  dsimp only
  rw [Text.ofInt_natCast]

/-- The rejection of a text blames the character at an offset and shows it, with up to ten
characters of the text in front of it and up to nine behind it. -/
structure Shows (r : Rejection) (text : Text) (p : Nat) (c : Char) : Prop where
  text_eq : r.text = text
  position_eq : r.position = some ↑p
  culprit : text[p]? = some c
  blames : r.reason.Blames c
  around : ∃ before after, text = before ++ r.fragment ++ after ∧ before.length = p - 10 ∧
    before.length + r.fragment.length = min text.length (p + 10)
  length_le : r.fragment.length ≤ 20
  shown : r.fragment[min p 10]? = some c
  message_eq : r.message =
    "Invalid query: " ++ r.reason.description ++ " at position " ++ Text.ofNat p ++
      " (near " ++ r.fragment.quoted ++ ")"

theorem shows_of_blames {text : Text} {c : Char} (ht : r.text = text) (h : r.position = some ↑p)
    (hc : text[p]? = some c) (hb : r.reason.Blames c) : r.Shows text p c := by
  subst ht
  have hp := (List.getElem?_eq_some_iff.1 hc).1
  refine ⟨rfl, h, hc, hb, exists_around_fragment h (Nat.le_of_lt hp), ?_, ?_, message_of_position h⟩
  · rw [length_fragment h]
    omega
  · rw [getElem?_fragment h, hc]

end Rejection

namespace Grammar

open Rejection

/-- A rejected text has a character that is to blame, and the rejection shows it. -/
theorem rejection_shows_culprit {text : Text} {r : Rejection} (h : parse text = .error r) :
    ∃ p c, r.Shows text p c := by
  rcases parse_eq_error_iff.1 h with ⟨-, i, hi, rfl⟩ | ⟨-, i, s, -, hs, rfl⟩
  · exact ⟨i, '"', shows_of_blames rfl rfl hi.1 (.inl ⟨rfl, rfl, rfl⟩)⟩
  · have hsign := exists_sign.2 ⟨s, rfl⟩
    exact ⟨i, s.char, shows_of_blames rfl rfl hs (.inr ⟨hsign, rfl, description_looseOperator s⟩)⟩

/-- Two loose operator symbols, the first of them far from both ends of the text. -/
def looseText : Text := "quarterly report + draft -"

def looseRejection : Rejection := ⟨looseText, .looseOperator '+', some 17⟩

theorem rejection_shows_culprit_between :
    parse looseText = .error looseRejection ∧ looseRejection.Shows looseText 17 '+' ∧
    looseRejection.message =
      "Invalid query: operator '+' must be directly followed by a term or phrase" ++
        " at position 17 (near 'ly report + draft -')" := by
  have hparse : parse looseText = .error looseRejection := by rfl
  obtain ⟨p, c, h⟩ := rejection_shows_culprit hparse
  have hposition : some (17 : Int) = some ↑p := h.position_eq
  obtain rfl : 17 = p := by
    have hcast := Option.some.inj hposition
    omega
  have hculprit : some '+' = some c := h.culprit
  cases hculprit
  exact ⟨hparse, h, by decide +kernel⟩

end Grammar
end SearchQuery
