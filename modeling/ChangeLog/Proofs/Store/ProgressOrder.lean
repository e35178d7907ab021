/-
  The order of records in the file of progress. A consumer's rewinds part its acknowledgements into
  phases; what counts is where its last rewind set it, and what it acknowledged since. Its progress
  is the highest of these offsets (`get?_ofRecords`). Hence acknowledgements may come in any order
  within their phase, and more than once, and records of different consumers in any order at all
  (`Rearranged`): the progress that a store is opened with is the same
  (`load_independent_of_order`).
-/
import ChangeLog.Proofs.Store.Progress

namespace ChangeLog

namespace Progress

/-! ## Phases -/

/-- Where the rewinds of a consumer set it, in their order. -/
def rewinds (c : Consumer) : List ProgressRecord → List (Option UInt64)
  | [] => []
  | .ack _ _ :: rest => rewinds c rest
  | .rewind k target :: rest => if k = c then target :: rewinds c rest else rewinds c rest

/-- The offsets that a consumer acknowledges in a phase: in phase 0 in front of its first rewind, in
phase `n + 1` behind its rewind number `n` and in front of the next one. -/
def acked (c : Consumer) : Nat → List ProgressRecord → List UInt64
  | _, [] => []
  | 0, .ack k offset :: rest => if k = c then offset :: acked c 0 rest else acked c 0 rest
  | n + 1, .ack _ _ :: rest => acked c (n + 1) rest
  | 0, .rewind k _ :: rest => if k = c then [] else acked c 0 rest
  | n + 1, .rewind k _ :: rest => if k = c then acked c n rest else acked c (n + 1) rest

/-- The offsets that count for a consumer: the one that its last rewind carries, if it was rewound
and the rewind carries one, and those that it acknowledged in its last phase. -/
def counting (c : Consumer) (records : List ProgressRecord) : List UInt64 :=
  ((rewinds c records).getLast?.getD none).toList ++ acked c (rewinds c records).length records

/-- For one consumer, two lists of records differ at most in the order and the number of the
acknowledgements in a phase: it has the same rewinds in the same order, and in every phase it
acknowledges the same offsets. -/
structure Agree (c : Consumer) (records others : List ProgressRecord) : Prop where
  rewinds_eq : rewinds c others = rewinds c records
  acked_iff : ∀ n offset, offset ∈ acked c n others ↔ offset ∈ acked c n records

/-- Two lists agree for every consumer. How records of different consumers are mixed is left
open. -/
def Rearranged (records others : List ProgressRecord) : Prop := ∀ c, Agree c records others

variable {records others : List ProgressRecord} {c : Consumer}

/-! ## Progress in closed form -/

instance : Std.LawfulOrderMax UInt64 where
  max_eq_or a b := by
    change (if a ≤ b then b else a) = a ∨ (if a ≤ b then b else a) = b
    split
    · exact .inr rfl
    · exact .inl rfl
  max_le_iff a b d := by
    rw [UInt64.le_iff_toNat_le, toNat_max, Nat.max_le, UInt64.le_iff_toNat_le,
      UInt64.le_iff_toNat_le]

theorem max?_toList (offset : Option UInt64) : offset.toList.max? = offset := by
  cases offset <;> rfl

/-- An acknowledgement that was taken in counts as one more offset. -/
theorem max?_record (start : Option UInt64) (offset : UInt64) (offsets : List UInt64) :
    ((some ((start.map (max · offset)).getD offset)).toList ++ offsets).max? =
      (start.toList ++ offset :: offsets).max? := by
  cases start <;> rfl

/-- Records, one behind the other, leave a consumer at the highest of the offsets that count, where
its progress from before counts as long as there is no rewind. -/
theorem get?_foldl (p : Progress) (records : List ProgressRecord) (c : Consumer) :
    (records.foldl apply p).get? c = (((rewinds c records).getLast?.getD (p.get? c)).toList ++
      acked c (rewinds c records).length records).max? := by
  induction records generalizing p with
  | nil =>
      change p.get? c = ((p.get? c).toList ++ []).max?
      rw [List.append_nil, max?_toList]
  | cons r rest ih =>
      rw [List.foldl_cons, ih]
      cases r with
      | ack k offset =>
          rw [apply, get?_record, rewinds]
          cases phases : rewinds c rest with
          | nil =>
              rw [List.length_nil, acked]
              by_cases same : k = c
              · subst same
                rw [if_pos rfl, if_pos rfl]
                exact max?_record _ _ _
              · rw [if_neg (Ne.symm same), if_neg same]
          | cons target more =>
              -- The last rewind is still to come, and what is in front of it does not count.
              rw [List.length_cons, acked, List.getLast?_cons]
              rfl
      | rewind k target =>
          rw [apply, get?_rewind, rewinds]
          by_cases same : k = c
          · subst same
            rw [if_pos rfl, if_pos rfl, List.length_cons, acked, if_pos rfl, List.getLast?_cons]
            rfl
          · rw [if_neg (Ne.symm same), if_neg same]
            cases (rewinds c rest).length with
            | zero => rw [acked, if_neg same]
            | succ n => rw [acked, if_neg same]

theorem get?_ofRecords (records : List ProgressRecord) (c : Consumer) :
    (ofRecords records).get? c = (counting c records).max? :=
  get?_foldl Roster.empty records c

/-! ## Rearranging -/

/-- Lists of the same offsets have the same highest one. -/
theorem max?_eq_of_mem_iff {offsets offsets' : List UInt64}
    (same : ∀ offset, offset ∈ offsets' ↔ offset ∈ offsets) : offsets'.max? = offsets.max? := by
  cases top : offsets.max? with
  | none =>
      rw [List.max?_eq_none_iff] at top
      rw [List.max?_eq_none_iff, List.eq_nil_iff_forall_not_mem]
      intro offset there
      rw [same, top] at there
      cases there
  | some highest =>
      rw [List.max?_eq_some_iff] at top ⊢
      exact ⟨(same highest).mpr top.1, fun offset there => top.2 offset ((same offset).mp there)⟩

/-- Rearranged records leave the same progress. -/
theorem Rearranged.ofRecords_eq (h : Rearranged records others) :
    ofRecords others = ofRecords records := by
  refine Roster.ext_get? fun c => ?_
  rw [get?_ofRecords, get?_ofRecords, counting, (h c).rewinds_eq]
  refine max?_eq_of_mem_iff fun offset => ?_
  rw [List.mem_append, (h c).acked_iff, counting, List.mem_append]

/-! ## What rearranging allows -/

/-- The consumer that a record is of. -/
def consumerOf : ProgressRecord → Consumer
  | .ack c _ | .rewind c _ => c

/-- Two records that may change places: both acknowledge, or they are of different consumers. -/
inductive Independent : ProgressRecord → ProgressRecord → Prop where
  | acks (c k : Consumer) (offset other : UInt64) : Independent (.ack c offset) (.ack k other)
  | apart {r s : ProgressRecord} : consumerOf r ≠ consumerOf s → Independent r s

theorem Agree.symm (h : Agree c records others) : Agree c others records :=
  ⟨h.rewinds_eq.symm, fun n offset => (h.acked_iff n offset).symm⟩

theorem Agree.trans {more : List ProgressRecord} (h : Agree c records others)
    (h' : Agree c others more) : Agree c records more :=
  ⟨h'.rewinds_eq.trans h.rewinds_eq,
    fun n offset => (h'.acked_iff n offset).trans (h.acked_iff n offset)⟩

/-- Lists that agree also agree behind another record. -/
theorem Agree.cons (h : Agree c records others) (r : ProgressRecord) :
    Agree c (r :: records) (r :: others) := by
  cases r with
  | ack k offset =>
      refine ⟨h.rewinds_eq, fun n other => ?_⟩
      cases n with
      | zero =>
          rw [acked, acked]
          split
          · rw [List.mem_cons, List.mem_cons, h.acked_iff]
          · exact h.acked_iff 0 other
      | succ n => exact h.acked_iff (n + 1) other
  | rewind k target =>
      refine ⟨by rw [rewinds, rewinds, h.rewinds_eq], fun n other => ?_⟩
      cases n with
      | zero =>
          rw [acked, acked]
          split
          · exact Iff.rfl
          · exact h.acked_iff 0 other
      | succ n =>
          rw [acked, acked]
          split
          · exact h.acked_iff n other
          · exact h.acked_iff (n + 1) other

theorem Agree.append (h : Agree c records others) (front : List ProgressRecord) :
    Agree c (front ++ records) (front ++ others) := by
  induction front with
  | nil => exact h
  | cons r front ih => exact ih.cons r

/-- A record of another consumer makes no difference. -/
theorem agree_of_ne {r : ProgressRecord} (apart : consumerOf r ≠ c)
    (rest : List ProgressRecord) : Agree c (r :: rest) rest := by
  cases r with
  | ack k offset =>
      have apart : ¬ k = c := apart
      refine ⟨rfl, fun n other => ?_⟩
      cases n with
      | zero => rw [acked, if_neg apart]
      | succ n => exact Iff.rfl
  | rewind k target =>
      have apart : ¬ k = c := apart
      refine ⟨by rw [rewinds, if_neg apart], fun n other => ?_⟩
      cases n with
      | zero => rw [acked, if_neg apart]
      | succ n => rw [acked, if_neg apart]

/-- Neighbours may change places if both acknowledge, or if they are of different consumers. -/
theorem rearranged_swap {r s : ProgressRecord} (free : Independent r s)
    (front back : List ProgressRecord) :
    Rearranged (front ++ r :: s :: back) (front ++ s :: r :: back) := by
  refine fun c => Agree.append ?_ front
  cases free with
  | acks k l offset offset' =>
      refine ⟨rfl, fun n other => ?_⟩
      cases n with
      | zero =>
          simp only [acked]
          by_cases first : k = c
          · by_cases second : l = c
            · simp only [if_pos first, if_pos second, List.mem_cons]
              exact or_left_comm
            · simp only [if_pos first, if_neg second]
          · simp only [if_neg first]
      | succ n => exact Iff.rfl
  | apart ne =>
      by_cases first : consumerOf r = c
      · have second : consumerOf s ≠ c := fun same => ne (first.trans same.symm)
        exact ((agree_of_ne second back).cons r).trans (agree_of_ne second (r :: back)).symm
      · exact (agree_of_ne first (s :: back)).trans ((agree_of_ne first back).symm.cons s)

/-- An acknowledgement may come twice. -/
theorem rearranged_double (c : Consumer) (offset : UInt64) (front back : List ProgressRecord) :
    Rearranged (front ++ .ack c offset :: back)
      (front ++ .ack c offset :: .ack c offset :: back) := by
  refine fun k => Agree.append ?_ front
  refine ⟨rfl, fun n other => ?_⟩
  cases n with
  | zero =>
      rw [acked, acked]
      by_cases same : c = k
      · rw [if_pos same, if_pos same, List.mem_cons, List.mem_cons, or_self_left]
      · rw [if_neg same, if_neg same]
  | succ n => exact Iff.rfl

end Progress

namespace ProgressStore

variable {disk : Disk} {directory : String} {records : List ProgressRecord}

/-! ## Files -/

/-- The file of progress in a directory holds these records, one behind the other. -/
def InFile (directory : String) (records : List ProgressRecord) (disk : Disk) : Prop :=
  ∃ file, disk.Reaches (Path.parts (Path.join directory fileName)) file ∧
    file < disk.contents.length ∧ disk.content file = Journal.bytesOf records

/-- A store is opened with the progress of the records in its file, and leaves the file alone. -/
theorem InFile.openIn_ok (h : InFile directory records disk) :
    ∃ store, openIn disk directory = (.ok store, disk) ∧
      store.progress = Progress.ofRecords records := by
  obtain ⟨file, reaches, stored, content⟩ := h
  have fits : ∀ r ∈ records, Journal.Fits r := fun r _ => r.fits
  have whole : Frame.leftover (disk.content file) = [] := by
    rw [content, Journal.leftover_bytesOf fits]
  obtain ⟨journal, store, opened, backed, rfl⟩ := openIn_of_reaches reaches stored whole
  refine ⟨store, opened, ?_⟩
  rw [backed.progress_eq, progressIn, content, Journal.recordsIn_bytesOf fits]

/-- A store that is opened on any records gives every consumer the highest of the offset that its
last rewind set, if it set one, and of those that the consumer acknowledged since; a consumer
without such an offset has no entry. Opened on the same records with acknowledgements in another
order within their phase, or repeated, and with the consumers' records mixed in another way, a store
loads the same. -/
theorem load_independent_of_order (written : InFile directory records disk) :
    ∃ store, openIn disk directory = (.ok store, disk) ∧
      (∀ c, store.load.lookup c = (Progress.counting c records).max?) ∧
      ∀ place other others, Progress.Rearranged records others → InFile place others other →
        ∃ again, openIn other place = (.ok again, other) ∧ again.load = store.load := by
  obtain ⟨store, opened, progress⟩ := written.openIn_ok
  refine ⟨store, opened, fun c => ?_, fun place other others rearranged written' => ?_⟩
  · rw [load, progress]
    exact Progress.get?_ofRecords records c
  · obtain ⟨again, opened', progress'⟩ := written'.openIn_ok
    refine ⟨again, opened', ?_⟩
    rw [load, load, progress, progress', rearranged.ofRecords_eq]

/-- A disk with nothing but a file of these records. -/
def diskOf (records : List ProgressRecord) : Disk :=
  (({} : Disk).newFile ["progress.wal"]).setContent 0 (Journal.bytesOf records)

theorem inFile_diskOf (records : List ProgressRecord) : InFile "" records (diskOf records) := by
  have resolved : ({} : Disk).resolve (Path.parts "progress.wal") = .ok ["progress.wal"] := rfl
  have made := Journal.openAt_of_vacant (α := ProgressRecord) resolved rfl
  have change := Disk.onlyIn_setContent (({} : Disk).newFile ["progress.wal"]) 0
    (Journal.bytesOf records)
  have stored : 0 < (({} : Disk).newFile ["progress.wal"]).contents.length := Nat.one_pos
  exact ⟨0, change.keeps.reaches (Journal.ready_of_openAt made).reaches, change.length ▸ stored,
    Disk.content_setContent stored _⟩

/-- One consumer is rewound and acknowledges twice since; another one acknowledges in between. -/
def asTaken : List ProgressRecord :=
  [.ack ⟨"x", rfl⟩ 9, .rewind ⟨"x", rfl⟩ (some 1), .ack ⟨"x", rfl⟩ 2, .ack ⟨"y", rfl⟩ 5,
    .ack ⟨"x", rfl⟩ 4]

/-- The other consumer comes first, and the higher acknowledgement comes before the lower one, and
twice. -/
def asWritten : List ProgressRecord :=
  [.ack ⟨"y", rfl⟩ 5, .ack ⟨"x", rfl⟩ 9, .rewind ⟨"x", rfl⟩ (some 1), .ack ⟨"x", rfl⟩ 4,
    .ack ⟨"x", rfl⟩ 4, .ack ⟨"x", rfl⟩ 2]

theorem rearranged_asWritten : Progress.Rearranged asTaken asWritten := by
  have other : (⟨"x", rfl⟩ : Consumer) ≠ ⟨"y", rfl⟩ := by decide
  intro c
  have behind := Progress.rearranged_swap (.acks ⟨"x", rfl⟩ ⟨"y", rfl⟩ 2 5)
    [.ack ⟨"x", rfl⟩ 9, .rewind ⟨"x", rfl⟩ (some 1)] [.ack ⟨"x", rfl⟩ 4] c
  have middle := Progress.rearranged_swap
    (.apart (r := .rewind ⟨"x", rfl⟩ (some 1)) (s := .ack ⟨"y", rfl⟩ 5) other)
    [.ack ⟨"x", rfl⟩ 9] [.ack ⟨"x", rfl⟩ 2, .ack ⟨"x", rfl⟩ 4] c
  have front := Progress.rearranged_swap (.acks ⟨"x", rfl⟩ ⟨"y", rfl⟩ 9 5) []
    [.rewind ⟨"x", rfl⟩ (some 1), .ack ⟨"x", rfl⟩ 2, .ack ⟨"x", rfl⟩ 4] c
  have turned := Progress.rearranged_swap (.acks ⟨"x", rfl⟩ ⟨"x", rfl⟩ 2 4)
    [.ack ⟨"y", rfl⟩ 5, .ack ⟨"x", rfl⟩ 9, .rewind ⟨"x", rfl⟩ (some 1)] [] c
  have twice := Progress.rearranged_double ⟨"x", rfl⟩ 4
    [.ack ⟨"y", rfl⟩ 5, .ack ⟨"x", rfl⟩ 9, .rewind ⟨"x", rfl⟩ (some 1)] [.ack ⟨"x", rfl⟩ 2] c
  exact (((behind.trans middle).trans front).trans turned).trans twice

/-- Either way the first consumer is found at 4, not at 9, and the other one at 5. -/
theorem mixed_writers_load_the_same :
    ∃ store again, openIn (diskOf asTaken) "" = (.ok store, diskOf asTaken) ∧
      openIn (diskOf asWritten) "" = (.ok again, diskOf asWritten) ∧ again.load = store.load ∧
      store.load.lookup ⟨"x", rfl⟩ = some 4 ∧ store.load.lookup ⟨"y", rfl⟩ = some 5 ∧
      store.load.lookup ⟨"z", rfl⟩ = none := by
  obtain ⟨store, opened, highest, same⟩ := load_independent_of_order (inFile_diskOf asTaken)
  obtain ⟨again, opened', load_eq⟩ := same "" _ _ rearranged_asWritten (inFile_diskOf asWritten)
  refine ⟨store, again, opened, opened', load_eq, ?_, ?_, ?_⟩
  · rw [highest]
    rfl
  · rw [highest]
    rfl
  · rw [highest]
    rfl

end ProgressStore
end ChangeLog
