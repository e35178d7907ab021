/-
  Recovery of the records in a file. The file is taken frame by frame from its start; a frame whose
  checksum disagrees, or whose payload holds no record, is passed over. Where no frame can be
  taken, the rest is a torn tail if no intact frame starts further on, and else damage in front of
  intact records, which is reported.
-/
import ChangeLog.Journal.Frame

namespace ChangeLog.Journal

/-- What recovery finds: the records, and how much of the file is kept. -/
structure Recovery (α : Type) where
  records : List α
  kept : Nat
deriving DecidableEq, Repr

/-- Takes the frames of `bytes`, which start at `position` of the file. The position of the damage
is given where there is intact data behind it. -/
def scan {α : Type} [Wire α] (position : Nat) (bytes : Bytes) : Except Nat (Recovery α) :=
  if bytes = [] then .ok ⟨[], position⟩
  else
    match _h : Frame.read? bytes with
    | none =>
      if Frame.holdsIntact bytes.tail then .error position else .ok ⟨[], position⟩
    | some (frame, rest) =>
      match scan (position + frame.size) rest with
      | .error damage => .error damage
      | .ok found => .ok { found with records := frame.record?.toList ++ found.records }
termination_by bytes.length
decreasing_by
  have := Frame.length_of_read? _h
  simp only [Frame.size, Frame.headerSize] at this
  omega

end ChangeLog.Journal
