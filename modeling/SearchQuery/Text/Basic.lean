/-!
# Texts

A text is the list of its characters, so that positions, lengths and cuts count characters.
String literals are read as texts.
-/

namespace SearchQuery

/-- A sequence of characters. A character is a scalar value, so that no text holds one half of a
surrogate pair: where numbers of characters are spelled out, two halves side by side are read as the
character that they make together, and a lone half as the null character. -/
abbrev Text := List Char

instance : Coe String Text := ⟨String.toList⟩

namespace Text

/-- Decimal digits, without leading zeros. -/
def ofNat (n : Nat) : Text := Nat.toDigits 10 n

/-- Decimal digits after a minus sign when the number is negative. -/
def ofInt (i : Int) : Text :=
  if i < 0 then '-' :: ofNat i.natAbs else ofNat i.natAbs

/-- A bound of a cut: negative bounds count from the end, and bounds outside are clamped. -/
def clampBound (length : Nat) (i : Int) : Nat :=
  if i < 0 then (i + length).toNat else min i.toNat length

/-- The characters from `start` up to, but not including, `stop`. -/
def slice (s : Text) (start stop : Int) : Text :=
  let a := clampBound s.length start
  let b := clampBound s.length stop
  (s.drop a).take (b - a)

/-- The offset of the last occurrence of a character. -/
def lastIndexOf? (c : Char) : Text → Option Nat
  | [] => none
  | d :: rest =>
    match lastIndexOf? c rest with
    | some i => some (i + 1)
    | none => if d = c then some 0 else none

theorem lastIndexOf?_eq_none_iff {c : Char} {t : Text} : lastIndexOf? c t = none ↔ c ∉ t := by
  induction t with
  | nil => simp [lastIndexOf?]
  | cons d rest ih =>
    simp only [lastIndexOf?, List.mem_cons, not_or]
    cases h : lastIndexOf? c rest with
    | some i =>
      have hmem : c ∈ rest := Decidable.not_not.1 fun hc => by simp [ih.2 hc] at h
      simp [hmem]
    | none =>
      have hc := ih.1 h
      by_cases hd : d = c
      · simp [hd]
      · simp [hd, hc, Ne.symm hd]

theorem getElem?_of_lastIndexOf? {c : Char} {t : Text} {i : Nat} (h : lastIndexOf? c t = some i) :
    t[i]? = some c := by
  induction t generalizing i with
  | nil => simp [lastIndexOf?] at h
  | cons d rest ih =>
    simp only [lastIndexOf?] at h
    split at h
    case h_1 j hj =>
      cases h
      simpa using ih hj
    case h_2 =>
      split at h
      case isTrue hd => cases h; simp [hd]
      case isFalse => cases h

/-- Texts joined with a separator between each two. -/
def joinWith (separator : Text) (parts : List Text) : Text := separator.intercalate parts

@[simp] theorem joinWith_singleton (separator t : Text) : joinWith separator [t] = t := by
  simp [joinWith, List.intercalate]

theorem joinWith_cons_cons (separator t u : Text) (rest : List Text) :
    joinWith separator (t :: u :: rest) = t ++ separator ++ joinWith separator (u :: rest) := by
  simp [joinWith, List.intercalate]

/-- Every text of the list, ended by a line feed. -/
def unlines (lines : List Text) : Text :=
  lines.flatMap (· ++ ['\n'])

theorem unlines_cons (line : Text) (lines : List Text) :
    unlines (line :: lines) = line ++ '\n' :: unlines lines := by
  simp [unlines]

/-- The parts between the occurrences of a separator character, at least one. -/
def splitAtChar (separator : Char) : Text → List Text
  | [] => [[]]
  | c :: rest =>
    if c = separator then [] :: splitAtChar separator rest
    else
      match splitAtChar separator rest with
      | part :: parts => (c :: part) :: parts
      | [] => [[c]]

end Text
end SearchQuery
