/-!
# Texts in segments

## Main definitions

* `GraphOffload.Text.split` : the segments of a text between separators.
* `GraphOffload.Text.join` : segments with a separator between them.
* `GraphOffload.Text.lower` : a text with the letters `A` to `Z` in lower case.

## Main results

* `GraphOffload.Text.join_split` : joining the segments gives the text back.
-/

namespace GraphOffload.Text

/-- The segments of a text between separators: one more than there are separators. -/
def split (separator : Char) : List Char → List (List Char)
  | [] => [[]]
  | c :: rest =>
    if c = separator then [] :: split separator rest
    else match split separator rest with
      | [] => [[c]]
      | segment :: segments => (c :: segment) :: segments

/-- The segments with a separator between them. -/
def join (separator : Char) : List (List Char) → List Char
  | [] => []
  | [segment] => segment
  | segment :: segments => segment ++ separator :: join separator segments

/-- Every text has a segment. -/
theorem split_ne_nil (separator : Char) (text : List Char) : split separator text ≠ [] := by
  cases text with
  | nil => simp [split]
  | cons c rest =>
    unfold split
    split
    · simp
    · split <;> simp

/-- A separator follows every segment but the last. -/
theorem join_cons_of_ne_nil (separator : Char) (segment : List Char)
    {segments : List (List Char)} (h : segments ≠ []) :
    join separator (segment :: segments) = segment ++ separator :: join separator segments := by
  cases segments with
  | nil => exact absurd rfl h
  | cons => rfl

/-- The segments, joined again, are the text. -/
theorem join_split (separator : Char) (text : List Char) :
    join separator (split separator text) = text := by
  induction text with
  | nil => rfl
  | cons c rest ih =>
    unfold split
    split
    · rename_i h
      rw [join_cons_of_ne_nil _ _ (split_ne_nil _ _), ih, h, List.nil_append]
    · split
      · rename_i h
        exact absurd h (split_ne_nil _ _)
      · rename_i segment segments h
        rw [h] at ih
        cases segments with
        | nil => simp_all [join]
        | cons => simp_all [join]

/-- The text with the letters `A` to `Z` in lower case and all else as it is. -/
def lower (text : String) : String :=
  String.ofList (text.toList.map Char.toLower)

end GraphOffload.Text
