/-
  Texts cut at a separator. Cutting loses nothing: the pieces joined by the separator give the text
  back, and no piece holds it.
-/

namespace ChangeLog.Text

/-- The pieces of a text between the separators; there is always at least one. -/
def splitOn (separator : Char) : List Char → List (List Char)
  | [] => [[]]
  | c :: rest =>
    if c = separator then [] :: splitOn separator rest
    else
      match splitOn separator rest with
      | [] => [[c]]
      | piece :: more => (c :: piece) :: more

/-- The part before the first separator, and the part after it if there is one. -/
def cut (separator : Char) (cs : List Char) : List Char × Option (List Char) :=
  match cs.dropWhile (· ≠ separator) with
  | [] => (cs, none)
  | _ :: rest => (cs.takeWhile (· ≠ separator), some rest)

/-- Pieces with a separator between any two. -/
def join (separator : Char) (pieces : List (List Char)) : List Char :=
  [separator].intercalate pieces

theorem splitOn_ne_nil (separator : Char) (cs : List Char) : splitOn separator cs ≠ [] := by
  cases cs with
  | nil => simp [splitOn]
  | cons c rest =>
    simp only [splitOn]
    split
    · simp
    · split <;> simp

theorem join_splitOn (separator : Char) (cs : List Char) :
    join separator (splitOn separator cs) = cs := by
  induction cs with
  | nil => rfl
  | cons c rest ih =>
    obtain ⟨piece, more, split⟩ := List.exists_cons_of_ne_nil (splitOn_ne_nil separator rest)
    rw [split] at ih
    by_cases h : c = separator
    · simpa [splitOn, h, split, join, List.intercalate_cons_cons] using ih
    · cases more <;> simp_all [splitOn, join, List.intercalate_cons_cons]

theorem not_mem_of_mem_splitOn {separator : Char} {cs piece : List Char}
    (h : piece ∈ splitOn separator cs) : separator ∉ piece := by
  induction cs generalizing piece with
  | nil => simp [splitOn] at h; simp [h]
  | cons c rest ih =>
    simp only [splitOn] at h
    split at h
    · rcases List.mem_cons.1 h with rfl | h
      · simp
      · exact ih h
    · rename_i hc
      split at h
      · rename_i hnil
        exact absurd hnil (splitOn_ne_nil separator rest)
      · rename_i first more hcons
        rcases List.mem_cons.1 h with rfl | h
        · have := @ih first (by rw [hcons]; simp)
          simp [this]
          exact fun e => hc e.symm
        · exact ih (by rw [hcons]; simp [h])

end ChangeLog.Text
