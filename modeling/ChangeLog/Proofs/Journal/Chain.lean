/-
  Chains of frames. Every byte string is a chain of frames, one behind the other, and a leftover
  where no frame can be taken (`writeAll_chain_append_leftover`, `read?_leftover`); both are
  determined by the bytes (`chain_writeAll_append`, `leftover_writeAll_append`).

  * Bytes behind a chain without a leftover extend it: `chain_append`, `leftover_append`.
  * Bytes cut off at the end shorten it: `chain_take` says which frames are left.
  * `scan_eq`: recovery gives the records of the chain, unless an intact frame starts somewhere
    behind the first byte of the leftover; then it reports where the leftover starts.
-/
import ChangeLog.Journal.Scan

namespace ChangeLog

namespace Frame

/-- A frame that can be written and taken again: some payload, below 4 GiB. -/
def Proper (f : Frame) : Prop := f.payload ≠ [] ∧ f.payload.length < UInt32.size

/-- Frames one behind the other. -/
def writeAll (fs : List Frame) : Bytes := fs.flatMap write

/-- The frames at the front of a byte string. -/
def chain (bytes : Bytes) : List Frame :=
  match _h : read? bytes with
  | none => []
  | some (f, rest) => f :: chain rest
termination_by bytes.length
decreasing_by
  have := length_of_read? _h
  simp only [size, headerSize] at this
  omega

/-- What stands behind the frames at the front. -/
def leftover (bytes : Bytes) : Bytes :=
  match _h : read? bytes with
  | none => bytes
  | some (_, rest) => leftover rest
termination_by bytes.length
decreasing_by
  have := length_of_read? _h
  simp only [size, headerSize] at this
  omega

/-! ## Writing and taking one frame -/

theorem size_pos (f : Frame) : 0 < f.size := by
  simp only [size, headerSize]
  omega

@[simp] theorem writeAll_nil : writeAll [] = [] := rfl

@[simp] theorem writeAll_cons (f : Frame) (fs : List Frame) :
    writeAll (f :: fs) = f.write ++ writeAll fs := rfl

@[simp] theorem writeAll_append (fs gs : List Frame) :
    writeAll (fs ++ gs) = writeAll fs ++ writeAll gs := List.flatMap_append

/-- A frame is taken from where it was written, and from nowhere else. -/
theorem read?_eq_some_iff {bytes rest : Bytes} {f : Frame} :
    read? bytes = some (f, rest) ↔ f.Proper ∧ bytes = f.write ++ rest := by
  constructor
  · intro h
    unfold read? at h
    simp only [Wire.read, Option.bind_eq_bind, Option.bind_eq_some_iff, Option.map_eq_some_iff,
      Prod.exists, Prod.mk.injEq] at h
    obtain ⟨length, rest₁, readLength, checksum, rest₂, ⟨word, back, readWord, rfl, rfl⟩, h⟩ := h
    obtain ⟨length_lt, rfl⟩ := Wire.append_of_readWord readLength
    obtain ⟨word_lt, rfl⟩ := Wire.append_of_readWord readWord
    split at h
    · cases h
    · rename_i positive
      simp only [Option.pure_def, Option.bind_eq_some_iff, Option.some.injEq, Prod.mk.injEq,
        Prod.exists] at h
      obtain ⟨payload, rest₃, split₃, rfl, rfl⟩ := h
      obtain ⟨payload_length, rfl⟩ := Bytes.append_of_splitExact split₃
      have back : (UInt32.ofNat word).toNat = word := UInt32.toNat_ofNat_of_lt' word_lt
      refine ⟨⟨?_, by rw [payload_length]; exact length_lt⟩, ?_⟩
      · intro empty
        change payload = [] at empty
        rw [empty] at payload_length
        exact positive payload_length.symm
      · rw [write, payload_length]
        simp only [Wire.write, back, List.append_assoc]
  · rintro ⟨⟨nonempty, below⟩, rfl⟩
    exact read?_write_append nonempty below rest

theorem read?_append {bytes rest : Bytes} {f : Frame} (h : read? bytes = some (f, rest))
    (more : Bytes) : read? (bytes ++ more) = some (f, rest ++ more) := by
  obtain ⟨proper, rfl⟩ := read?_eq_some_iff.mp h
  exact read?_eq_some_iff.mpr ⟨proper, List.append_assoc _ _ _⟩

theorem read?_nil : read? [] = none := rfl

/-! ## Chain and leftover -/

theorem chain_of_read?_none {bytes : Bytes} (h : read? bytes = none) : chain bytes = [] := by
  rw [chain]
  split
  · rfl
  · rename_i found
    rw [h] at found
    cases found

theorem leftover_of_read?_none {bytes : Bytes} (h : read? bytes = none) :
    leftover bytes = bytes := by
  rw [leftover]
  split
  · rfl
  · rename_i found
    rw [h] at found
    cases found

theorem chain_write_append {f : Frame} (h : f.Proper) (rest : Bytes) :
    chain (f.write ++ rest) = f :: chain rest := by
  have front : read? (f.write ++ rest) = some (f, rest) := read?_write_append h.1 h.2 rest
  rw [chain]
  split
  · rename_i found
    rw [front] at found
    cases found
  · rename_i found
    rw [front] at found
    cases found
    rfl

theorem leftover_write_append {f : Frame} (h : f.Proper) (rest : Bytes) :
    leftover (f.write ++ rest) = leftover rest := by
  have front : read? (f.write ++ rest) = some (f, rest) := read?_write_append h.1 h.2 rest
  rw [leftover]
  split
  · rename_i found
    rw [front] at found
    cases found
  · rename_i found
    rw [front] at found
    cases found
    rfl

theorem chain_writeAll_append {fs : List Frame} (h : ∀ f ∈ fs, f.Proper) (rest : Bytes) :
    chain (writeAll fs ++ rest) = fs ++ chain rest := by
  induction fs with
  | nil => rfl
  | cons f fs ih =>
      rw [writeAll_cons, List.append_assoc, chain_write_append (h f List.mem_cons_self),
        ih fun g hg => h g (List.mem_cons_of_mem _ hg), List.cons_append]

theorem leftover_writeAll_append {fs : List Frame} (h : ∀ f ∈ fs, f.Proper) (rest : Bytes) :
    leftover (writeAll fs ++ rest) = leftover rest := by
  induction fs with
  | nil => rfl
  | cons f fs ih =>
      rw [writeAll_cons, List.append_assoc, leftover_write_append (h f List.mem_cons_self),
        ih fun g hg => h g (List.mem_cons_of_mem _ hg)]

theorem chain_writeAll {fs : List Frame} (h : ∀ f ∈ fs, f.Proper) : chain (writeAll fs) = fs := by
  have all := chain_writeAll_append h []
  rwa [List.append_nil, chain_of_read?_none read?_nil, List.append_nil] at all

theorem leftover_writeAll {fs : List Frame} (h : ∀ f ∈ fs, f.Proper) :
    leftover (writeAll fs) = [] := by
  have all := leftover_writeAll_append h []
  rwa [List.append_nil, leftover_of_read?_none read?_nil] at all

/-- Induction along the frames of a byte string. -/
theorem chain_induction {motive : Bytes → Prop}
    (stop : ∀ bytes, read? bytes = none → motive bytes)
    (step : ∀ (f : Frame) (rest : Bytes), f.Proper → motive rest → motive (f.write ++ rest))
    (bytes : Bytes) : motive bytes := by
  induction bytes using chain.induct with
  | case1 bytes h => exact stop bytes h
  | case2 bytes f rest h ih =>
      obtain ⟨proper, rfl⟩ := read?_eq_some_iff.mp h
      exact step f rest proper ih

theorem writeAll_chain_append_leftover (bytes : Bytes) :
    writeAll (chain bytes) ++ leftover bytes = bytes := by
  induction bytes using chain_induction with
  | stop bytes h =>
      rw [chain_of_read?_none h, leftover_of_read?_none h, writeAll_nil, List.nil_append]
  | step f rest proper ih =>
      rw [chain_write_append proper, leftover_write_append proper, writeAll_cons,
        List.append_assoc, ih]

theorem read?_leftover (bytes : Bytes) : read? (leftover bytes) = none := by
  induction bytes using chain_induction with
  | stop bytes h => rw [leftover_of_read?_none h, h]
  | step f rest proper ih => rw [leftover_write_append proper, ih]

theorem proper_of_mem_chain {bytes : Bytes} {f : Frame} (h : f ∈ chain bytes) : f.Proper := by
  induction bytes using chain_induction with
  | stop bytes none => simp [chain_of_read?_none none] at h
  | step g rest proper ih =>
      rw [chain_write_append proper] at h
      rcases List.mem_cons.mp h with rfl | h
      · exact proper
      · exact ih h

theorem writeAll_chain {bytes : Bytes} (whole : leftover bytes = []) :
    writeAll (chain bytes) = bytes := by
  have split := writeAll_chain_append_leftover bytes
  rwa [whole, List.append_nil] at split

/-- A chain without a leftover goes on with whatever is added behind it. -/
theorem chain_append {bytes : Bytes} (whole : leftover bytes = []) (more : Bytes) :
    chain (bytes ++ more) = chain bytes ++ chain more := by
  have all : ∀ f ∈ chain bytes, f.Proper := fun _ h => proper_of_mem_chain h
  have back := chain_writeAll_append all more
  rwa [writeAll_chain whole] at back

theorem leftover_append {bytes : Bytes} (whole : leftover bytes = []) (more : Bytes) :
    leftover (bytes ++ more) = leftover more := by
  have all : ∀ f ∈ chain bytes, f.Proper := fun _ h => proper_of_mem_chain h
  have back := leftover_writeAll_append all more
  rwa [writeAll_chain whole] at back

/-! ## Cutting -/

/-- The frames of a chain that end within its first `n` bytes. -/
def within (n : Nat) : List Frame → List Frame
  | [] => []
  | f :: fs => if f.size ≤ n then f :: within (n - f.size) fs else []

/-- No frame starts where one was cut short. -/
theorem read?_take_write {f : Frame} (h : f.Proper) {n : Nat} (short : n < f.size) :
    read? (f.write.take n) = none := by
  rw [Option.eq_none_iff_forall_ne_some]
  rintro ⟨g, rest⟩ found
  have longer := read?_append found (f.write.drop n)
  rw [List.take_append_drop] at longer
  have own : read? f.write = some (f, []) := by
    have := read?_write_append h.1 h.2 []
    rwa [List.append_nil] at this
  rw [own, Option.some.injEq, Prod.mk.injEq] at longer
  obtain ⟨rfl, nothing⟩ := longer
  -- The frame read from the piece would be as long as the whole one.
  have taken := length_of_read? found
  rw [List.length_take, length_write] at taken
  omega

theorem read?_take_of_none {bytes : Bytes} (h : read? bytes = none) (n : Nat) :
    read? (bytes.take n) = none := by
  rw [Option.eq_none_iff_forall_ne_some]
  rintro ⟨f, rest⟩ found
  have longer := read?_append found (bytes.drop n)
  rw [List.take_append_drop, h] at longer
  cases longer

theorem chain_take (bytes : Bytes) (n : Nat) : chain (bytes.take n) = within n (chain bytes) := by
  induction bytes using chain_induction generalizing n with
  | stop bytes h => rw [chain_of_read?_none h, chain_of_read?_none (read?_take_of_none h n), within]
  | step f rest proper ih =>
      rw [chain_write_append proper, within]
      split
      · rename_i inside
        have first : f.write.take n = f.write :=
          List.take_of_length_le (by rw [length_write]; exact inside)
        rw [List.take_append, length_write, first, chain_write_append proper, ih]
      · rename_i short
        rw [List.take_append_of_le_length (by rw [length_write]; omega)]
        exact chain_of_read?_none (read?_take_write proper (by omega))

theorem isPrefix_within (n : Nat) (fs : List Frame) : within n fs <+: fs := by
  induction fs generalizing n with
  | nil => exact List.prefix_refl _
  | cons f fs ih =>
      rw [within]
      split
      · exact List.cons_prefix_cons.mpr ⟨rfl, ih _⟩
      · exact List.nil_prefix

/-- The frames that end within the first `n` bytes are the first few, as many as fit. -/
theorem exists_within_eq_take (n : Nat) (fs : List Frame) :
    ∃ k ≤ fs.length, within n fs = fs.take k ∧
      ∀ i ≤ fs.length, (writeAll (fs.take i)).length ≤ n ↔ i ≤ k := by
  induction fs generalizing n with
  | nil =>
      refine ⟨0, Nat.le_refl _, rfl, ?_⟩
      intro i le
      simpa using le
  | cons f fs ih =>
      rw [within]
      split
      · rename_i inside
        obtain ⟨k, k_le, same, fit⟩ := ih (n - f.size)
        refine ⟨k + 1, Nat.succ_le_succ k_le, by rw [same, List.take_succ_cons], ?_⟩
        intro i le
        cases i with
        | zero => simp
        | succ i =>
            have := fit i (Nat.le_of_succ_le_succ le)
            rw [List.take_succ_cons, writeAll_cons, List.length_append, length_write]
            omega
      · rename_i short
        refine ⟨0, Nat.zero_le _, rfl, ?_⟩
        intro i le
        cases i with
        | zero => simp
        | succ i =>
            rw [List.take_succ_cons, writeAll_cons, List.length_append, length_write]
            omega

theorem isPrefix_chain_take (bytes : Bytes) (n : Nat) : chain (bytes.take n) <+: chain bytes := by
  rw [chain_take]
  exact isPrefix_within n _

/-! ## Intact frames anywhere -/

theorem startsIntact_iff {bytes : Bytes} :
    startsIntact bytes = true ↔ ∃ f rest, read? bytes = some (f, rest) ∧ f.isIntact = true := by
  unfold startsIntact
  constructor
  · intro h
    split at h
    · rename_i f rest found
      exact ⟨f, rest, found, h⟩
    · cases h
  · rintro ⟨f, rest, found, intact⟩
    rw [found]
    exact intact

theorem holdsIntact_iff {bytes : Bytes} :
    holdsIntact bytes = true ↔ ∃ i, startsIntact (bytes.drop i) = true := by
  induction bytes with
  | nil =>
      constructor
      · intro h
        cases h
      · rintro ⟨i, h⟩
        rw [List.drop_nil] at h
        cases h
  | cons b rest ih =>
      rw [holdsIntact_cons, Bool.or_eq_true, ih]
      constructor
      · rintro (h | ⟨i, h⟩)
        · exact ⟨0, h⟩
        · exact ⟨i + 1, h⟩
      · rintro ⟨i, h⟩
        cases i with
        | zero => exact .inl h
        | succ i => exact .inr ⟨i, h⟩

/-- An intact frame starts further on in a byte string, not at its front. -/
def Hides (bytes : Bytes) : Prop := ∃ i, 0 < i ∧ startsIntact (bytes.drop i) = true

theorem hides_iff {bytes : Bytes} : Hides bytes ↔ holdsIntact bytes.tail = true := by
  rw [holdsIntact_iff]
  constructor
  · rintro ⟨i, pos, h⟩
    refine ⟨i - 1, ?_⟩
    rw [← List.drop_one, List.drop_drop, show 1 + (i - 1) = i by omega]
    exact h
  · rintro ⟨i, h⟩
    rw [← List.drop_one, List.drop_drop] at h
    exact ⟨1 + i, by omega, h⟩

instance (bytes : Bytes) : Decidable (Hides bytes) := decidable_of_iff _ hides_iff.symm

theorem not_hides_nil : ¬ Hides [] := by
  rintro ⟨i, -, h⟩
  rw [List.drop_nil] at h
  cases h

/-- An intact frame behind at least one byte. -/
theorem hides_of_write {f : Frame} (proper : f.Proper) (intact : f.isIntact = true)
    {front : Bytes} (pos : front ≠ []) (rest : Bytes) : Hides (front ++ (f.write ++ rest)) := by
  refine ⟨front.length, List.length_pos_iff.mpr pos, startsIntact_iff.mpr ⟨f, rest, ?_, intact⟩⟩
  rw [List.drop_left]
  exact read?_write_append proper.1 proper.2 rest

end Frame

/-! ## Recovery of a chain -/

namespace Journal

variable {α : Type} [Wire α]

/-- The records in the frames of a byte string. -/
def recordsIn (bytes : Bytes) : List α := (Frame.chain bytes).filterMap Frame.record?

/-- Where the chain of a byte string breaks off. -/
def chainEnd (bytes : Bytes) : Nat := (Frame.writeAll (Frame.chain bytes)).length

theorem chainEnd_add (bytes : Bytes) :
    chainEnd bytes + (Frame.leftover bytes).length = bytes.length := by
  have := congrArg List.length (Frame.writeAll_chain_append_leftover bytes)
  rwa [List.length_append] at this

theorem take_chainEnd (bytes : Bytes) :
    bytes.take (chainEnd bytes) = Frame.writeAll (Frame.chain bytes) := by
  have split := Frame.writeAll_chain_append_leftover bytes
  calc bytes.take (chainEnd bytes)
      = (Frame.writeAll (Frame.chain bytes) ++ Frame.leftover bytes).take (chainEnd bytes) := by
        rw [split]
    _ = Frame.writeAll (Frame.chain bytes) := List.take_left

theorem drop_chainEnd (bytes : Bytes) : bytes.drop (chainEnd bytes) = Frame.leftover bytes := by
  have split := Frame.writeAll_chain_append_leftover bytes
  calc bytes.drop (chainEnd bytes)
      = (Frame.writeAll (Frame.chain bytes) ++ Frame.leftover bytes).drop (chainEnd bytes) := by
        rw [split]
    _ = Frame.leftover bytes := List.drop_left

theorem chain_take_chainEnd (bytes : Bytes) :
    Frame.chain (bytes.take (chainEnd bytes)) = Frame.chain bytes := by
  rw [take_chainEnd]
  exact Frame.chain_writeAll fun _ h => Frame.proper_of_mem_chain h

theorem leftover_take_chainEnd (bytes : Bytes) :
    Frame.leftover (bytes.take (chainEnd bytes)) = [] := by
  rw [take_chainEnd]
  exact Frame.leftover_writeAll fun _ h => Frame.proper_of_mem_chain h

theorem chainEnd_write_append {f : Frame} (h : f.Proper) (rest : Bytes) :
    chainEnd (f.write ++ rest) = f.size + chainEnd rest := by
  rw [chainEnd, Frame.chain_write_append h, Frame.writeAll_cons, List.length_append,
    Frame.length_write, chainEnd]

theorem recordsIn_write_append {f : Frame} (h : f.Proper) (rest : Bytes) :
    recordsIn (α := α) (f.write ++ rest) = f.record?.toList ++ recordsIn rest := by
  rw [recordsIn, Frame.chain_write_append h, List.filterMap_cons, recordsIn]
  cases f.record? (α := α) <;> rfl

/-- What recovery finds, on any bytes. -/
theorem scan_eq (position : Nat) (bytes : Bytes) :
    scan (α := α) position bytes =
      if Frame.Hides (Frame.leftover bytes) then .error (position + chainEnd bytes)
      else .ok ⟨recordsIn bytes, position + chainEnd bytes⟩ := by
  induction bytes using Frame.chain_induction generalizing position with
  | stop bytes none =>
      have here : chainEnd bytes = 0 := by rw [chainEnd, Frame.chain_of_read?_none none]; rfl
      rw [Frame.leftover_of_read?_none none, here, recordsIn, Frame.chain_of_read?_none none, scan]
      -- All bytes are leftover: at the end of the file there is none to search.
      split
      · rename_i empty
        rw [empty, if_neg Frame.not_hides_nil]
        rfl
      · split
        · simp only [Frame.hides_iff]
          rfl
        · rename_i found
          rw [none] at found
          cases found
  | step f rest proper ih =>
      have front : Frame.read? (f.write ++ rest) = some (f, rest) :=
        Frame.read?_write_append proper.1 proper.2 rest
      have nonempty : f.write ++ rest ≠ [] := by
        intro empty
        rw [empty] at front
        cases front
      rw [Frame.leftover_write_append proper, chainEnd_write_append proper, ← Nat.add_assoc,
        recordsIn_write_append proper, scan, if_neg nonempty]
      split
      · rename_i found
        rw [front] at found
        cases found
      · rename_i g more found
        rw [front] at found
        cases found
        rw [ih (position + f.size)]
        by_cases hides : Frame.Hides (Frame.leftover rest)
        · simp only [if_pos hides]
        · simp only [if_neg hides]

end Journal
end ChangeLog
