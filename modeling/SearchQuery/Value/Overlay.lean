import SearchQuery.Value.Basic

/-!
# Overlays

A mapping laid over another: where both have a mapping under a key, the overlay goes on inside;
everywhere else the upper value replaces the lower one. Keys of the lower mapping keep their
order, and new keys follow in theirs.
-/

namespace SearchQuery

mutual

/-- The value that results when `upper` is set where `lower` may be. -/
def Value.overlay (lower : Option Value) : Value → Value
  | .map upper =>
    match lower with
    | some (.map entries) => .map (Entries.overlay entries upper)
    | _ => .map upper
  | upper => upper

/-- The lower entries with the upper ones laid over them, in order. -/
def Entries.overlay (lower : Entries) : List (Scalar × Value) → Entries
  | [] => lower
  | (key, value) :: rest =>
    Entries.overlay (Entries.put key (Value.overlay (Entries.get? key lower) value) lower) rest

end

namespace Entries

@[simp] theorem overlay_nil (lower : Entries) : overlay lower [] = lower := by
  rw [overlay]

theorem overlay_cons (lower : Entries) (key : Scalar) (value : Value) (rest : Entries) :
    overlay lower ((key, value) :: rest) =
      overlay (put key (Value.overlay (get? key lower) value) lower) rest := by
  rw [overlay]

end Entries
end SearchQuery
