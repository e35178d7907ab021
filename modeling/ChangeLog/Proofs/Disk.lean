/-
  What operations on a disk leave alone. Nothing here takes an entry away, so a path that leads
  somewhere goes on leading there (`Keeps`), and writing to one file changes no other. `Reaches`
  says that a path leads to a file past directories that are all there: opening that file again
  changes nothing (`createDirectories_of_reaches`, `openFile_of_locate`).
-/
import ChangeLog.Disk

namespace ChangeLog.Disk

/-- Every file of the tree has its bytes. -/
def Stored (disk : Disk) : Prop :=
  ∀ place file, disk.find? place = some (.file file) → file < disk.contents.length

/-- No two places share their bytes. -/
def Unshared (disk : Disk) : Prop :=
  ∀ p q file, disk.find? p = some (.file file) → disk.find? q = some (.file file) → p = q

theorem find?_empty {place : List String} {file : Nat} :
    ({} : Disk).find? place ≠ some (.file file) := by
  unfold find?
  split
  · exact fun found => nomatch found
  · exact fun found => nomatch found

theorem stored_empty : Stored {} := fun _ _ found => absurd found find?_empty

theorem unshared_empty : Unshared {} := fun _ _ _ found _ => absurd found find?_empty

/-- All entries of `disk` are in `later`. -/
def Keeps (disk later : Disk) : Prop :=
  ∀ place entry, disk.find? place = some entry → later.find? place = some entry

/-! ## Contents -/

section Contents

variable {disk : Disk} {file other : Nat}

theorem content_setContent (h : file < disk.contents.length) (bytes : Bytes) :
    (disk.setContent file bytes).content file = bytes := by
  simp [content, setContent, List.getD_eq_getElem?_getD, h]

theorem content_setContent_ne (h : other ≠ file) (bytes : Bytes) :
    (disk.setContent file bytes).content other = disk.content other := by
  simp [content, setContent, List.getD_eq_getElem?_getD, Ne.symm h]

theorem content_extend (h : file < disk.contents.length) (bytes : Bytes) :
    (disk.extend file bytes).content file = disk.content file ++ bytes := by
  simp [content, extend, List.getD_eq_getElem?_getD, h]

theorem content_extend_ne (h : other ≠ file) (bytes : Bytes) :
    (disk.extend file bytes).content other = disk.content other := by
  simp [content, extend, List.getD_eq_getElem?_getD, Ne.symm h]

theorem content_resize {size : Nat} (h : file < disk.contents.length)
    (le : size ≤ (disk.content file).length) :
    (disk.resize file size).content file = (disk.content file).take size := by
  rw [resize, content_setContent h, Nat.sub_eq_zero_of_le le, List.replicate_zero,
    List.append_nil]

theorem content_resize_ne (h : other ≠ file) (size : Nat) :
    (disk.resize file size).content other = disk.content other :=
  content_setContent_ne h _

@[simp] theorem length_setContent (bytes : Bytes) :
    (disk.setContent file bytes).contents.length = disk.contents.length := List.length_set

@[simp] theorem length_resize (size : Nat) :
    (disk.resize file size).contents.length = disk.contents.length := List.length_set

@[simp] theorem length_extend (bytes : Bytes) :
    (disk.extend file bytes).contents.length = disk.contents.length := List.length_modify _ _ _

end Contents

/-! ## Paths on a growing tree -/

section Growth

variable {disk later : Disk}

theorem Keeps.refl (disk : Disk) : disk.Keeps disk := fun _ _ h => h

theorem Keeps.trans {middle : Disk} (h : disk.Keeps middle) (h' : middle.Keeps later) :
    disk.Keeps later := fun place entry found => h' place entry (h place entry found)

theorem Keeps.walk (keeps : disk.Keeps later) {here target path : List String}
    (h : disk.walk here path = .ok target) : later.walk here path = .ok target := by
  induction path generalizing here with
  | nil => exact h
  | cons part rest ih =>
      rw [Disk.walk] at h ⊢
      split at h
      · cases h
      · cases h
      · rename_i found
        rw [keeps _ _ found]
        dsimp only
        split at h
        · cases h
        · rename_i fits
          rw [if_neg fits]
          exact ih h

theorem Keeps.resolve (keeps : disk.Keeps later) {path target : List String}
    (h : disk.resolve path = .ok target) : later.resolve path = .ok target := by
  unfold Disk.resolve at h ⊢
  split at h
  · cases h
  · rename_i plain
    rw [if_neg plain]
    exact keeps.walk h

theorem isDirectory_iff {path : List String} : disk.isDirectory path = true ↔
    ∃ place, disk.resolve path = .ok place ∧ disk.find? place = some .directory := by
  unfold isDirectory
  cases h : disk.resolve path with
  | error fault => simp
  | ok place => simp

theorem locate_iff {path : List String} {file : Nat} : disk.locate path = .ok file ↔
    ∃ place, disk.resolve path = .ok place ∧ disk.find? place = some (.file file) := by
  unfold locate
  cases h : disk.resolve path with
  | error fault => simp [bind, Except.bind]
  | ok place =>
      simp only [bind, Except.bind, Except.ok.injEq, exists_eq_left']
      cases found : disk.find? place with
      | none => simp [throw, throwThe, MonadExceptOf.throw]
      | some entry => cases entry <;> simp [throw, throwThe, MonadExceptOf.throw, pure, Except.pure]

theorem Keeps.isDirectory (keeps : disk.Keeps later) {path : List String}
    (h : disk.isDirectory path = true) : later.isDirectory path = true := by
  obtain ⟨place, resolved, found⟩ := isDirectory_iff.mp h
  exact isDirectory_iff.mpr ⟨place, keeps.resolve resolved, keeps _ _ found⟩

theorem Keeps.locate (keeps : disk.Keeps later) {path : List String} {file : Nat}
    (h : disk.locate path = .ok file) : later.locate path = .ok file := by
  obtain ⟨place, resolved, found⟩ := locate_iff.mp h
  exact locate_iff.mpr ⟨place, keeps.resolve resolved, keeps _ _ found⟩

theorem find?_enter {place : List String} (free : disk.find? place = none) (entry : Entry)
    (other : List String) :
    (disk.enter place entry).find? other =
      if other = place then some entry else disk.find? other := by
  unfold find? enter
  by_cases root : other = []
  · subst root
    have ne : ([] : List String) ≠ place := by
      rintro rfl
      simp [find?] at free
    rw [if_pos rfl, if_neg ne, if_pos rfl]
  · rw [if_neg root, if_neg root, List.lookup_cons]
    by_cases same : other = place
    · simp [same]
    · have differ : (other == place) = false := by simpa using same
      simp [same, differ]

theorem keeps_enter {place : List String} (free : disk.find? place = none) (entry : Entry) :
    disk.Keeps (disk.enter place entry) := by
  intro other found h
  rw [find?_enter free]
  split
  · rename_i same
    rw [same, free] at h
    cases h
  · exact h

end Growth

/-! ## Writing to one file -/

/-- The two disks differ at most in the bytes of one file. -/
structure OnlyIn (file : Nat) (disk later : Disk) : Prop where
  entries : later.entries = disk.entries
  length : later.contents.length = disk.contents.length
  others : ∀ other, other ≠ file → later.content other = disk.content other

section Writing

variable {disk later : Disk} {file : Nat}

theorem OnlyIn.refl (file : Nat) (disk : Disk) : OnlyIn file disk disk :=
  ⟨rfl, rfl, fun _ _ => rfl⟩

theorem OnlyIn.trans {middle : Disk} (h : OnlyIn file disk middle)
    (h' : OnlyIn file middle later) : OnlyIn file disk later :=
  ⟨h'.entries.trans h.entries, h'.length.trans h.length,
    fun other ne => (h'.others other ne).trans (h.others other ne)⟩

theorem onlyIn_extend (disk : Disk) (file : Nat) (bytes : Bytes) :
    OnlyIn file disk (disk.extend file bytes) :=
  ⟨rfl, length_extend bytes, fun _ ne => content_extend_ne ne bytes⟩

theorem onlyIn_resize (disk : Disk) (file size : Nat) :
    OnlyIn file disk (disk.resize file size) :=
  ⟨rfl, length_resize size, fun _ ne => content_resize_ne ne size⟩

theorem onlyIn_setContent (disk : Disk) (file : Nat) (bytes : Bytes) :
    OnlyIn file disk (disk.setContent file bytes) :=
  ⟨rfl, length_setContent bytes, fun _ ne => content_setContent_ne ne bytes⟩

theorem OnlyIn.find? (h : OnlyIn file disk later) (place : List String) :
    later.find? place = disk.find? place := by
  unfold Disk.find?
  rw [h.entries]

theorem OnlyIn.keeps (h : OnlyIn file disk later) : disk.Keeps later := by
  intro place entry found
  rw [h.find?]
  exact found

theorem OnlyIn.stored (h : OnlyIn file disk later) (stored : disk.Stored) : later.Stored := by
  intro place other found
  rw [h.find?] at found
  rw [h.length]
  exact stored place other found

theorem OnlyIn.unshared (h : OnlyIn file disk later) (unshared : disk.Unshared) :
    later.Unshared := by
  intro p q other hp hq
  rw [h.find?] at hp hq
  exact unshared p q other hp hq

end Writing

/-! ## Making directories and opening files -/

section Opening

variable {disk later : Disk}

theorem makeDirectory_ok {path : List String} (h : disk.makeDirectory path = .ok later) :
    ∃ place, disk.resolve path = .ok place ∧ disk.find? place = none ∧
      later = disk.enter place .directory := by
  unfold makeDirectory at h
  cases resolved : disk.resolve path with
  | error fault => simp [resolved, bind, Except.bind] at h
  | ok place =>
      simp only [resolved, bind, Except.bind] at h
      cases found : disk.find? place with
      | some entry => simp [found, throw, throwThe, MonadExceptOf.throw] at h
      | none =>
          simp only [found, pure, Except.pure, Except.ok.injEq] at h
          exact ⟨place, rfl, found, h.symm⟩

/-- What changes when directories are made: the tree grows by directories only. -/
structure Furnished (disk later : Disk) : Prop where
  keeps : disk.Keeps later
  contents : later.contents = disk.contents
  files : ∀ place file, later.find? place = some (.file file) →
    disk.find? place = some (.file file)

theorem Furnished.refl (disk : Disk) : disk.Furnished disk :=
  ⟨Keeps.refl disk, rfl, fun _ _ h => h⟩

theorem Furnished.trans {middle : Disk} (h : disk.Furnished middle) (h' : middle.Furnished later) :
    disk.Furnished later :=
  ⟨h.keeps.trans h'.keeps, h'.contents.trans h.contents,
    fun place file found => h.files place file (h'.files place file found)⟩

theorem furnished_enter {place : List String} (free : disk.find? place = none) :
    disk.Furnished (disk.enter place .directory) := by
  refine ⟨keeps_enter free _, rfl, ?_⟩
  intro other file found
  rw [find?_enter free] at found
  split at found
  · cases found
  · exact found

theorem furnished_settle (disk : Disk) (path : List String) :
    disk.Furnished (disk.settle path).2 := by
  unfold settle
  split
  · rename_i made
    obtain ⟨place, -, free, rfl⟩ := makeDirectory_ok made
    exact furnished_enter free
  · exact Furnished.refl disk

theorem isDirectory_of_settle {path : List String} (h : disk.settle path = (.ok (), later)) :
    later.isDirectory path = true := by
  unfold settle at h
  split at h
  · rename_i made
    obtain ⟨place, resolved, free, rfl⟩ := makeDirectory_ok made
    obtain ⟨-, rfl⟩ := Prod.mk.inj h
    refine isDirectory_iff.mpr ⟨place, (keeps_enter free _).resolve resolved, ?_⟩
    rw [find?_enter free, if_pos rfl]
  · obtain ⟨result, rfl⟩ := Prod.mk.inj h
    split at result
    · assumption
    · cases result

theorem settle_of_isDirectory {path : List String} (h : disk.isDirectory path = true) :
    disk.settle path = (.ok (), disk) := by
  obtain ⟨place, resolved, found⟩ := isDirectory_iff.mp h
  have taken : disk.makeDirectory path = .error .alreadyExists := by
    simp [makeDirectory, resolved, found, bind, Except.bind, throw, throwThe, MonadExceptOf.throw]
  rw [settle, taken]
  dsimp only
  rw [if_pos h]

theorem furnished_settleAll (disk : Disk) (upwards : List String) :
    disk.Furnished (disk.settleAll upwards).2 := by
  induction upwards generalizing disk with
  | nil => exact Furnished.refl disk
  | cons part above ih =>
      rw [settleAll]
      split
      · have first := ih disk
        split
        · rename_i stopped
          rw [stopped] at first
          exact first
        · rename_i made
          rw [made] at first
          exact first.trans (furnished_settle _ _)
      · exact furnished_settle disk _

theorem isDirectory_of_settleAll {upwards : List String}
    (h : disk.settleAll upwards = (.ok (), later)) :
    upwards = [] ∨ later.isDirectory upwards.reverse = true := by
  cases upwards with
  | nil => exact .inl rfl
  | cons part above =>
      right
      rw [settleAll] at h
      split at h
      · split at h
        · cases h
        · exact isDirectory_of_settle h
      · exact isDirectory_of_settle h

/-- A path that leads to a file, past directories that are there. -/
structure Reaches (disk : Disk) (path : List String) (file : Nat) : Prop where
  located : disk.locate path = .ok file
  around : (path.dropLast.filter fun part => part ≠ ".") = [] ∨
    disk.isDirectory (path.dropLast.filter fun part => part ≠ ".") = true

theorem Keeps.reaches (keeps : disk.Keeps later) {path : List String} {file : Nat}
    (h : disk.Reaches path file) : later.Reaches path file :=
  ⟨keeps.locate h.located, h.around.imp_right keeps.isDirectory⟩

/-- Reading at a path that leads to a file gives its bytes. -/
theorem Reaches.read {path : List String} {file : Nat} (h : disk.Reaches path file) :
    disk.read path = .ok (disk.content file) := by
  rw [Disk.read, h.located]
  rfl

/-- Directories that are there are not made again. -/
theorem createDirectories_eq {path : List String}
    (there : (path.filter fun part => part ≠ ".") = [] ∨
      disk.isDirectory (path.filter fun part => part ≠ ".") = true) :
    disk.createDirectories path = (.ok (), disk) := by
  unfold createDirectories
  rcases there with none | there
  · rw [none]
    rfl
  · generalize (path.filter fun part => part ≠ ".") = dirs at there ⊢
    obtain ⟨place, resolved, -⟩ := isDirectory_iff.mp there
    cases split : dirs.reverse with
    | nil => rfl
    | cons part above =>
        have back : (part :: above).reverse = dirs := by rw [← split, List.reverse_reverse]
        rw [settleAll, back, resolved]
        exact settle_of_isDirectory there

theorem createDirectories_of_reaches {path : List String} {file : Nat}
    (h : disk.Reaches path file) : disk.createDirectories path.dropLast = (.ok (), disk) :=
  createDirectories_eq h.around

theorem openFile_of_locate {path : List String} {file : Nat} (h : disk.locate path = .ok file) :
    disk.openFile path = .ok (file, disk) := by
  obtain ⟨place, resolved, found⟩ := locate_iff.mp h
  simp [openFile, resolved, found, bind, Except.bind, pure, Except.pure]

/-- What changes when a file is opened: there may be a new and empty one. -/
structure Opened (disk later : Disk) (path : List String) (file : Nat) : Prop where
  keeps : disk.Keeps later
  located : later.locate path = .ok file
  same : ∀ other, other < disk.contents.length → later.content other = disk.content other
  grows : disk.contents.length ≤ later.contents.length
  files : ∀ place other, later.find? place = some (.file other) →
    disk.find? place = some (.file other) ∨
      (later.contents.length = disk.contents.length + 1 ∧ other = disk.contents.length ∧
        later.resolve path = .ok place)

theorem opened_of_openFile {path : List String} {file : Nat}
    (h : disk.openFile path = .ok (file, later)) : disk.Opened later path file := by
  unfold openFile at h
  cases resolved : disk.resolve path with
  | error fault => simp [resolved, bind, Except.bind] at h
  | ok place =>
      simp only [resolved, bind, Except.bind] at h
      cases found : disk.find? place with
      | some entry =>
          cases entry with
          | directory => simp [found, throw, throwThe, MonadExceptOf.throw] at h
          | file there =>
              simp only [found, pure, Except.pure, Except.ok.injEq, Prod.mk.injEq] at h
              obtain ⟨rfl, rfl⟩ := h
              exact ⟨Keeps.refl _, locate_iff.mpr ⟨place, resolved, found⟩, fun _ _ => rfl,
                Nat.le_refl _, fun _ _ h => .inl h⟩
      | none =>
          simp only [found, pure, Except.pure, Except.ok.injEq, Prod.mk.injEq] at h
          obtain ⟨rfl, rfl⟩ := h
          have look : ∀ other, ({ disk.enter place (.file disk.contents.length) with
              contents := disk.contents ++ [[]] } : Disk).find? other =
                if other = place then some (.file disk.contents.length) else disk.find? other :=
            find?_enter found _
          have keeps : disk.Keeps { disk.enter place (.file disk.contents.length) with
              contents := disk.contents ++ [[]] } := keeps_enter found _
          have again := keeps.resolve resolved
          refine ⟨keeps, locate_iff.mpr ⟨place, again, by rw [look, if_pos rfl]⟩, ?_, by simp, ?_⟩
          · intro other lt
            simp [content, List.getD_eq_getElem?_getD, List.getElem?_append_left lt]
          · intro other file there
            rw [look] at there
            split at there
            · rename_i here
              cases there
              exact .inr ⟨by simp, rfl, here ▸ again⟩
            · exact .inl there

theorem Furnished.stored (h : disk.Furnished later) (stored : disk.Stored) : later.Stored := by
  intro place file found
  rw [h.contents]
  exact stored place file (h.files place file found)

theorem Furnished.unshared (h : disk.Furnished later) (unshared : disk.Unshared) :
    later.Unshared := fun p q file hp hq =>
  unshared p q file (h.files p file hp) (h.files q file hq)

theorem Opened.stored {path : List String} {file : Nat} (h : disk.Opened later path file)
    (stored : disk.Stored) : later.Stored := by
  intro place other found
  rcases h.files place other found with before | ⟨length, new, -⟩
  · exact Nat.lt_of_lt_of_le (stored place other before) h.grows
  · omega

theorem Opened.unshared {path : List String} {file : Nat} (h : disk.Opened later path file)
    (stored : disk.Stored) (unshared : disk.Unshared) : later.Unshared := by
  intro p q other hp hq
  rcases h.files p other hp with p_before | ⟨-, p_new, p_here⟩
  · rcases h.files q other hq with q_before | ⟨-, q_new, -⟩
    · exact unshared p q other p_before q_before
    · have := stored p other p_before
      omega
  · rcases h.files q other hq with q_before | ⟨-, -, q_here⟩
    · have := stored q other q_before
      omega
    · rw [p_here] at q_here
      exact Except.ok.inj q_here

end Opening

/-! ## Making a file -/

/-- The path leads to a place where nothing stands. -/
def Vacant (disk : Disk) (path : List String) : Prop :=
  ∃ place, disk.resolve path = .ok place ∧ disk.find? place = none

/-- A disk with an empty file more. -/
def newFile (disk : Disk) (place : List String) : Disk :=
  { disk.enter place (.file disk.contents.length) with contents := disk.contents ++ [[]] }

section Making

variable {disk : Disk} {place path : List String}

theorem find?_newFile (free : disk.find? place = none) (other : List String) :
    (disk.newFile place).find? other =
      if other = place then some (.file disk.contents.length) else disk.find? other :=
  find?_enter free _ other

theorem keeps_newFile (free : disk.find? place = none) : disk.Keeps (disk.newFile place) :=
  keeps_enter free _

theorem content_newFile (disk : Disk) (place : List String) :
    (disk.newFile place).content disk.contents.length = [] := by
  simp [content, newFile, List.getD_eq_getElem?_getD]

theorem length_newFile (disk : Disk) (place : List String) :
    (disk.newFile place).contents.length = disk.contents.length + 1 := by
  rw [newFile, List.length_append, List.length_singleton]

theorem openFile_of_vacant (resolved : disk.resolve path = .ok place)
    (free : disk.find? place = none) :
    disk.openFile path = .ok (disk.contents.length, disk.newFile place) := by
  simp [openFile, resolved, free, newFile, bind, Except.bind, pure, Except.pure]

/-- All that stands in front of the last part of a path is a directory, with single dots or
without. -/
theorem isDirectory_around {above : List String} {last : String}
    (resolved : disk.resolve (above ++ [last]) = .ok place) :
    disk.isDirectory (above.filter fun part => part ≠ ".") = true := by
  have passes : ∀ here, disk.walk here (above ++ [last]) = .ok place → ∃ around,
      disk.walk here (above.filter fun part => part ≠ ".") = .ok around ∧
        disk.find? around = some .directory := by
    clear resolved
    induction above with
    | nil =>
        intro here h
        rw [List.nil_append, walk] at h
        split at h
        · cases h
        · cases h
        · rename_i found
          exact ⟨here, rfl, found⟩
    | cons part above ih =>
        intro here h
        rw [List.cons_append, walk] at h
        split at h
        · cases h
        · cases h
        · rename_i found
          split at h
          · cases h
          · rename_i fits
            by_cases dot : part = "."
            · rw [List.filter_cons_of_neg (by simpa using dot)]
              rw [Path.step, if_pos dot] at h
              exact ih here h
            · rw [List.filter_cons_of_pos (by simpa using dot), walk, found]
              dsimp only
              rw [if_neg fits]
              exact ih _ h
  unfold resolve at resolved
  split at resolved
  · cases resolved
  · rename_i plain
    obtain ⟨around, walked, found⟩ := passes [] resolved
    refine isDirectory_iff.mpr ⟨around, ?_, found⟩
    have plain' : ¬ (above.filter fun part => part ≠ ".").any
        (fun part => part.toList.contains '\x00') = true := by
      intro zero
      obtain ⟨part, mem, zero⟩ := List.any_eq_true.mp zero
      exact plain (List.any_eq_true.mpr
        ⟨part, List.mem_append_left _ (List.mem_filter.mp mem).1, zero⟩)
    rw [resolve, if_neg plain', walked]

end Making

/-! ## Changes confined to one file -/

/-- The tree may have grown, but of the bytes that were there at most those of one file differ. -/
structure Confined (file : Nat) (disk later : Disk) : Prop where
  keeps : disk.Keeps later
  grows : disk.contents.length ≤ later.contents.length
  others : ∀ other, other < disk.contents.length → other ≠ file →
    later.content other = disk.content other
  stored : disk.Stored → later.Stored
  unshared : disk.Stored → disk.Unshared → later.Unshared

section Confinement

variable {disk later : Disk} {file : Nat}

theorem OnlyIn.confined (h : OnlyIn file disk later) : Confined file disk later :=
  ⟨h.keeps, Nat.le_of_eq h.length.symm, fun other _ ne => h.others other ne, h.stored,
    fun _ => h.unshared⟩

theorem Confined.trans {middle : Disk} (h : Confined file disk middle)
    (h' : Confined file middle later) : Confined file disk later := by
  refine ⟨h.keeps.trans h'.keeps, Nat.le_trans h.grows h'.grows, ?_,
    fun stored => h'.stored (h.stored stored),
    fun stored unshared => h'.unshared (h.stored stored) (h.unshared stored unshared)⟩
  intro other lt ne
  rw [h'.others other (Nat.lt_of_lt_of_le lt h.grows) ne, h.others other lt ne]

end Confinement

end ChangeLog.Disk
