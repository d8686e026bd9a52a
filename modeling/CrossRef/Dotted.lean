/-! Dotted text: names separated by `.`, with empty names allowed anywhere. Joining undoes
splitting. -/

namespace CrossRef.Dotted

def pieces : List Char → List (List Char)
  | [] => [[]]
  | c :: cs => if c = '.' then [] :: pieces cs else (pieces cs).modifyHead (List.cons c)

def unpieces : List (List Char) → List Char
  | [] => []
  | [p] => p
  | p :: q :: ps => p ++ '.' :: unpieces (q :: ps)

def split (text : String) : List String := (pieces text.toList).map String.ofList

def join (names : List String) : String := String.ofList (unpieces (names.map String.toList))

theorem pieces_ne_nil (cs : List Char) : pieces cs ≠ [] := by
  induction cs with
  | nil => simp [pieces]
  | cons c cs ih =>
    by_cases h : c = '.'
    · simp [pieces, h]
    · simp [pieces, h, ih]

theorem unpieces_pieces (cs : List Char) : unpieces (pieces cs) = cs := by
  induction cs with
  | nil => rfl
  | cons c cs ih =>
    obtain ⟨p, ps, hp⟩ := List.exists_cons_of_ne_nil (pieces_ne_nil cs)
    rw [hp] at ih
    by_cases h : c = '.'
    · simp [pieces, h, hp, unpieces, ih]
    · cases ps with
      | nil => simpa [pieces, h, hp, unpieces] using ih
      | cons q qs => simpa [pieces, h, hp, unpieces] using ih

theorem join_split (text : String) : join (split text) = text := by
  have h : (split text).map String.toList = pieces text.toList := by
    simp [split, Function.comp_def]
  rw [join, h, unpieces_pieces, String.ofList_toList]

end CrossRef.Dotted
