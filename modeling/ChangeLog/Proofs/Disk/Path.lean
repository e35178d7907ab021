/-
  Names at the end of a path. A plain name joined to a directory, whatever text the directory is
  given by, is the last part of the path and the last name of the place that it leads to. So two
  plain names in one directory lead to different files, unless two places share one.
-/
import ChangeLog.Proofs.Disk

namespace ChangeLog

/-! ## Cutting at separators -/

namespace Text

theorem splitOn_append_cons (separator : Char) (front back : List Char) :
    splitOn separator (front ++ separator :: back) =
      splitOn separator front ++ splitOn separator back := by
  induction front with
  | nil => simp [splitOn]
  | cons c front ih =>
      rw [List.cons_append, splitOn, splitOn, ih]
      split
      · rfl
      · obtain ⟨piece, more, split⟩ :=
          List.exists_cons_of_ne_nil (splitOn_ne_nil separator front)
        rw [split]
        rfl

theorem splitOn_of_not_mem {separator : Char} {cs : List Char} (h : separator ∉ cs) :
    splitOn separator cs = [cs] := by
  induction cs with
  | nil => rfl
  | cons c cs ih =>
      have ne : c ≠ separator := fun same => h (same ▸ List.mem_cons_self)
      rw [splitOn, if_neg ne, ih fun mem => h (List.mem_cons_of_mem _ mem)]

end Text

/-! ## Plain names -/

namespace Path

/-- A name that is one part of a path and stands for an entry of its own. -/
def Plain (name : String) : Prop :=
  name.toList ≠ [] ∧ '/' ∉ name.toList ∧ name ≠ "." ∧ name ≠ ".."

instance (name : String) : Decidable (Plain name) := inferInstanceAs (Decidable (_ ∧ _))

variable {name : String}

theorem parts_of_toList (plain : Plain name) {path : String}
    (h : path.toList = name.toList ∨ ∃ front, path.toList = front ++ '/' :: name.toList) :
    ∃ above, parts path = above ++ [name] := by
  obtain ⟨nonempty, closed, -, -⟩ := plain
  have last : path.toList.getLast? = name.toList.getLast? := by
    rcases h with same | ⟨front, same⟩
    · rw [same]
    · rw [same, List.getLast?_append, List.getLast?_cons_of_ne_nil nonempty]
      obtain ⟨c, more⟩ := Option.isSome_iff_exists.mp
        (List.getLast?_isSome.mpr nonempty)
      rw [more]
      rfl
  have unclosed : ¬ path.toList.getLast? = some '/' := by
    rw [last]
    exact fun there => closed (List.mem_of_getLast? there)
  unfold parts
  dsimp only
  rw [if_neg unclosed, List.append_nil]
  have own : ([name.toList].filter fun part => part ≠ []).map String.ofList = [name] := by
    simp [nonempty]
  rcases h with same | ⟨front, same⟩
  · rw [same, Text.splitOn_of_not_mem closed]
    exact ⟨[], own⟩
  · rw [same, Text.splitOn_append_cons, Text.splitOn_of_not_mem closed, List.filter_append,
      List.map_append, own]
    exact ⟨_, rfl⟩

/-- A plain name is the last part of its path. -/
theorem parts_join (plain : Plain name) (directory : String) :
    ∃ above, parts (join directory name) = above ++ [name] := by
  unfold join
  split
  · exact parts_of_toList plain (.inl rfl)
  · split
    · rename_i closed
      obtain ⟨front, same⟩ := List.getLast?_eq_some_iff.mp closed
      refine parts_of_toList plain (.inr ⟨front, ?_⟩)
      rw [String.toList_append, same, List.append_assoc]
      rfl
    · refine parts_of_toList plain (.inr ⟨directory.toList, ?_⟩)
      rw [String.toList_append, String.toList_append, List.append_assoc]
      rfl

end Path

namespace Disk

variable {disk : Disk} {name : String}

/-- The place that a path leads to ends with the path's last part, if that is plain. -/
theorem walk_append_singleton (plain : Path.Plain name) {here above place : List String}
    (h : disk.walk here (above ++ [name]) = .ok place) : ∃ around, place = around ++ [name] := by
  induction above generalizing here with
  | nil =>
      rw [List.nil_append, walk] at h
      split at h
      · cases h
      · cases h
      · split at h
        · cases h
        · rw [walk, Path.step, if_neg plain.2.2.1, if_neg plain.2.2.2] at h
          cases h
          exact ⟨here, rfl⟩
  | cons part above ih =>
      rw [List.cons_append, walk] at h
      split at h
      · cases h
      · cases h
      · split at h
        · cases h
        · exact ih h

/-- Different names in one directory are different places, also when directories are added in
between. -/
theorem place_ne_of_name_ne {later : Disk} {directory other : String} {place place' : List String}
    (plain : Path.Plain name) (plain' : Path.Plain other) (ne : name ≠ other)
    (h : disk.resolve (Path.parts (Path.join directory name)) = .ok place)
    (h' : later.resolve (Path.parts (Path.join directory other)) = .ok place') :
    place ≠ place' := by
  rintro rfl
  obtain ⟨above, path⟩ := Path.parts_join plain directory
  obtain ⟨above', path'⟩ := Path.parts_join plain' directory
  rw [path, resolve] at h
  rw [path', resolve] at h'
  split at h
  · cases h
  · split at h'
    · cases h'
    · obtain ⟨around, rfl⟩ := walk_append_singleton plain h
      obtain ⟨around', same⟩ := walk_append_singleton plain' h'
      exact ne (List.cons.inj (List.append_inj_right' same rfl)).1

/-- Different names in one directory are different files. -/
theorem file_ne_of_name_ne (unshared : disk.Unshared) {directory other : String} {file twin : Nat}
    (plain : Path.Plain name) (plain' : Path.Plain other) (ne : name ≠ other)
    (h : disk.locate (Path.parts (Path.join directory name)) = .ok file)
    (h' : disk.locate (Path.parts (Path.join directory other)) = .ok twin) : file ≠ twin := by
  rintro rfl
  obtain ⟨place, resolved, found⟩ := locate_iff.mp h
  obtain ⟨place', resolved', found'⟩ := locate_iff.mp h'
  exact place_ne_of_name_ne plain plain' ne resolved resolved'
    (unshared place place' file found found')

end Disk
end ChangeLog
