/-
  Logs that lose the end of their events. Before each restart the file of events may be cut at any
  byte, any number of times; the file of progress is left alone. Then nobody goes on past events
  that they have not seen (`nothing_skipped`): what lies in front of the offset at which a consumer
  resumes are events that were there when the consumer acknowledged them, and have been there ever
  since.

  A cut leaves the first few events (`Frame.isPrefix_chain_take`), and opening lowers recorded
  offsets that lie at or past the new end. The invariant is about the two files and not about the
  open log, since a cut may also leave a journal that is refused: every event in front of a recorded
  offset is vouched for (`vouched_run`).
-/
import ChangeLog.Proofs.Log

namespace ChangeLog.Log

/-! ## Runs -/

/-- What happens to the log of a directory. A restart drops the log, leaves the given number of
bytes of its events, and opens it again. -/
inductive Move where
  | append (now : Time.Instant) (draft : Draft)
  | acknowledge (consumer : Consumer) (offset : UInt64)
  | close
  | restart (kept : Nat) (maxBatch : UInt64)
deriving DecidableEq, Repr

/-- The disk with no more than the given number of bytes in the file of events. -/
def loseTail (directory : String) (kept : Nat) (disk : Disk) : Disk :=
  match disk.locate (Path.parts (Path.join directory EventStore.fileName)) with
  | .ok file => disk.setContent file ((disk.content file).take kept)
  | .error _ => disk

/-- One move. There is no log after a restart that was refused, until one is not. -/
def step (directory : String) : Option Log × Disk → Move → Option Log × Disk
  | (_, disk), .restart kept maxBatch =>
    match openIn (loseTail directory kept disk) directory maxBatch with
    | (.ok log, disk) => (some log, disk)
    | (.error _, disk) => (none, disk)
  | (none, disk), _ => (none, disk)
  | (some log, disk), .append now draft =>
    let (_, log, disk) := log.append disk now draft
    (some log, disk)
  | (some log, disk), .acknowledge consumer offset =>
    let (_, log, disk) := log.acknowledge disk consumer offset
    (some log, disk)
  | (some log, disk), .close => (some log.close, disk)

/-- Moves one after the other. -/
def run (directory : String) (start : Option Log × Disk) (moves : List Move) : Option Log × Disk :=
  moves.foldl (step directory) start

/-- An acknowledgement is accepted now. -/
def Confirms (state : Option Log × Disk) (consumer : Consumer) (offset : UInt64) : Prop :=
  ∃ log progress, state.1 = some log ∧ (log.acknowledge state.2 consumer offset).1 = .ok progress

/-- The log, if there is one, has this event at this offset. -/
def Shows (state : Option Log × Disk) (offset : UInt64) (e : Event) : Prop :=
  ∀ log, state.1 = some log → log.events.events[offset.toNat]? = some e

/-- The consumer has acknowledged the event at an offset, or one behind it, and the event has been
there from then on. -/
def Vouched (directory : String) (start : Option Log × Disk) (moves : List Move)
    (consumer : Consumer) (i : UInt64) (e : Event) : Prop :=
  ∃ before offset after, moves = before ++ .acknowledge consumer offset :: after ∧ i ≤ offset ∧
    Confirms (run directory start before) consumer offset ∧
    ∀ done, done <+: .acknowledge consumer offset :: after →
      Shows (run directory start (before ++ done)) i e

variable {directory : String} {file twin : Nat} {state start : Option Log × Disk}
  {moves : List Move} {consumer : Consumer} {i : UInt64} {e : Event}

theorem run_append_singleton (moves : List Move) (move : Move) :
    run directory start (moves ++ [move]) = step directory (run directory start moves) move := by
  rw [run, List.foldl_append]
  rfl

/-- An event that was vouched for and still shows is vouched for. -/
theorem Vouched.step (h : Vouched directory start moves consumer i e) {move : Move}
    (shows : Shows (Log.step directory (run directory start moves) move) i e) :
    Vouched directory start (moves ++ [move]) consumer i e := by
  obtain ⟨before, offset, after, rfl, le, confirms, since⟩ := h
  refine ⟨before, offset, after ++ [move], by rw [List.append_assoc, List.cons_append], le,
    confirms, ?_⟩
  intro done front
  rw [← List.cons_append] at front
  rcases List.prefix_concat_iff.mp front with whole | earlier
  · rw [whole, ← List.append_assoc, run_append_singleton]
    exact shows
  · exact since done earlier

/-- An event that shows when it is acknowledged, and behind it, is vouched for. -/
theorem vouched_of_confirms {offset : UInt64} (le : i ≤ offset)
    (confirms : Confirms (run directory start moves) consumer offset)
    (now : Shows (run directory start moves) i e)
    (shows : Shows (step directory (run directory start moves) (.acknowledge consumer offset))
      i e) :
    Vouched directory start (moves ++ [.acknowledge consumer offset]) consumer i e := by
  refine ⟨moves, offset, [], rfl, le, confirms, ?_⟩
  intro done front
  rcases List.prefix_concat_iff.mp (show done <+: [] ++ [_] from front) with rfl | earlier
  · rw [List.nil_append, run_append_singleton]
    exact shows
  · rw [List.prefix_nil.mp earlier, List.append_nil]
    exact now

/-! ## What one move does -/

/-- The directory has its files, and a log that is open in it is live. -/
structure Sane (directory : String) (file twin : Nat) (state : Option Log × Disk) : Prop where
  files : Files directory file twin state.2
  live : ∀ log, state.1 = some log → ∃ journal ledger,
    Live directory journal ledger log state.2 ∧ journal.file = file ∧ ledger.file = twin

/-- In the files, the event at an offset that is not behind the consumer's recorded one. -/
structure Reached (file twin : Nat) (disk : Disk) (consumer : Consumer) (i : UInt64) (e : Event) :
    Prop where
  recorded : ∃ offset, (ProgressStore.progressIn (disk.content twin)).get? consumer = some offset ∧
    i ≤ offset
  there : (EventStore.eventsIn (disk.content file))[i.toNat]? = some e

theorem getElem?_of_prefix {α : Type} {front all : List α} (h : front <+: all) {i : Nat} {a : α}
    (there : front[i]? = some a) : all[i]? = some a := by
  obtain ⟨more, rfl⟩ := h
  obtain ⟨lt, -⟩ := List.getElem?_eq_some_iff.mp there
  rw [List.getElem?_append_left lt, there]

theorem sane_of_live {journal : Journal Event} {ledger : Journal ProgressRecord} {log : Log}
    {disk : Disk} (h : Live directory journal ledger log disk) :
    Sane directory journal.file ledger.file (some log, disk) := by
  refine ⟨h.files, ?_⟩
  rintro open_log same
  cases same
  exact ⟨journal, ledger, h, rfl, rfl⟩

/-- What is in the file of events shows in the log, if there is one. -/
theorem Sane.shows (h : Sane directory file twin state)
    (there : (EventStore.eventsIn (state.2.content file))[i.toNat]? = some e) :
    Shows state i e := by
  intro log same
  obtain ⟨journal, ledger, live, rfl, -⟩ := h.live log same
  rwa [live.events_eq] at there

/-- Cutting the file of events leaves the first few of them. -/
theorem isPrefix_eventsIn_take (bytes : Bytes) (kept : Nat) :
    EventStore.eventsIn (bytes.take kept) <+: EventStore.eventsIn bytes :=
  (Frame.isPrefix_chain_take bytes kept).filterMap _

theorem loseTail_eq {disk : Disk} (h : Files directory file twin disk) (kept : Nat) :
    loseTail directory kept disk = disk.setContent file ((disk.content file).take kept) := by
  unfold loseTail
  rw [h.events.located]

/-- A restart: the state stays sane, and at most events and recorded offsets are gone. -/
theorem step_restart (h : Sane directory file twin state) (kept : Nat) (maxBatch : UInt64) :
    Sane directory file twin (step directory state (.restart kept maxBatch)) ∧
      ∀ {consumer i e},
        Reached file twin (step directory state (.restart kept maxBatch)).2 consumer i e →
          Reached file twin state.2 consumer i e := by
  obtain ⟨log?, disk⟩ := state
  have change := Disk.onlyIn_setContent disk file ((disk.content file).take kept)
  have cut := h.files.elsewhere change
  have bytes := Disk.content_setContent h.files.events_stored ((disk.content file).take kept)
  have same := change.others twin h.files.apart.symm
  obtain ⟨result, later, opened, files, events, progress, live⟩ := openIn_of_files cut maxBatch
  have lost : ∀ {consumer i e}, Reached file twin later consumer i e →
      Reached file twin disk consumer i e := by
    rintro consumer i e ⟨⟨offset, found, le⟩, there⟩
    obtain ⟨old, before, lower⟩ := progress consumer offset found
    rw [same] at before
    rw [events, bytes] at there
    exact ⟨⟨old, before, UInt64.le_trans le lower⟩,
      getElem?_of_prefix (isPrefix_eventsIn_take _ kept) there⟩
  rw [step, loseTail_eq h.files, opened]
  cases result with
  | error fault =>
      refine ⟨⟨files, ?_⟩, lost⟩
      intro log none
      cases none
  | ok log =>
      refine ⟨⟨files, ?_⟩, lost⟩
      intro made same
      cases same
      exact live log rfl

/-- When all events are lost the log opens, and has none. -/
theorem step_restart_empty (h : Sane directory file twin state) (maxBatch : UInt64) :
    ∃ log later, step directory state (.restart 0 maxBatch) = (some log, later) ∧
      log.events.events = [] := by
  obtain ⟨log?, disk⟩ := state
  have cut := h.files.elsewhere (Disk.onlyIn_setContent disk file [])
  have empty := Disk.content_setContent h.files.events_stored []
  have attached : Journal.Attached
      (⟨Path.join directory EventStore.fileName, file, 0⟩ : Journal Event)
      (disk.setContent file []) :=
    ⟨cut.events, cut.events_stored, by rw [empty]; rfl⟩
  have backed : EventStore.Backed directory ⟨Path.join directory EventStore.fileName, file, 0⟩
      { journal := some ⟨Path.join directory EventStore.fileName, file, 0⟩ }
      (disk.setContent file []) :=
    ⟨rfl, rfl, attached.holds_nil empty, fun _ _ found => nomatch found⟩
  obtain ⟨log, later, opened, events⟩ := openIn_of_backed backed cut maxBatch
  refine ⟨log, later, ?_, events⟩
  rw [step, loseTail_eq h.files, List.take_zero, opened]

/-- Every move keeps a state sane, and an event that it brings in front of a recorded offset is one
that was acknowledged just then. -/
theorem step_sane (h : Sane directory file twin state) (move : Move) :
    Sane directory file twin (step directory state move) ∧
      ∀ {consumer i e}, Reached file twin (step directory state move).2 consumer i e →
        Reached file twin state.2 consumer i e ∨
          ∃ offset, move = .acknowledge consumer offset ∧ i ≤ offset ∧
            Confirms state consumer offset ∧
            (EventStore.eventsIn (state.2.content file))[i.toNat]? = some e := by
  obtain ⟨log?, disk⟩ := state
  cases move with
  | restart kept maxBatch =>
      obtain ⟨sane, lost⟩ := step_restart h kept maxBatch
      exact ⟨sane, fun there => .inl (lost there)⟩
  | append now draft =>
      cases log? with
      | none => exact ⟨h, .inl⟩
      | some log =>
          obtain ⟨journal, ledger, live, rfl, rfl⟩ := h.live log rfl
          obtain ⟨result, grown, final, later, appended, live', same_file, longer, progress⟩ :=
            append_live live now draft
          have sane := sane_of_live live'
          rw [step, appended]
          rw [same_file] at sane
          refine ⟨sane, ?_⟩
          rintro consumer i e ⟨⟨offset, found, le⟩, there⟩
          left
          change (ProgressStore.progressIn (later.content ledger.file)).get? consumer = _ at found
          change (EventStore.eventsIn (later.content journal.file))[i.toNat]? = _ at there
          rw [← live'.progress.progress_eq, progress] at found
          rw [← same_file, live'.events_eq] at there
          -- A recorded offset lies in front of the old end, where the new event stands.
          have inside := (live.bound consumer offset found).1
          have le := UInt64.le_iff_toNat_le.mp le
          obtain ⟨more, longer⟩ := longer
          rw [← longer, List.getElem?_append_left (by omega)] at there
          refine ⟨⟨offset, ?_, UInt64.le_iff_toNat_le.mpr le⟩, ?_⟩
          · rw [← live.progress.progress_eq]
            exact found
          · rw [live.events_eq]
            exact there
  | acknowledge consumer offset =>
      cases log? with
      | none => exact ⟨h, .inl⟩
      | some log =>
          obtain ⟨journal, ledger, live, rfl, rfl⟩ := h.live log rfl
          obtain ⟨result, grown, final, later, acknowledged, live', same_file, events, found_of⟩ :=
            acknowledge_live live consumer offset
          have sane := sane_of_live live'
          rw [step, acknowledged]
          rw [same_file] at sane
          refine ⟨sane, ?_⟩
          rintro k i e ⟨⟨other, found, le⟩, there⟩
          change (ProgressStore.progressIn (later.content ledger.file)).get? k = _ at found
          change (EventStore.eventsIn (later.content journal.file))[i.toNat]? = _ at there
          rw [← same_file, ← live'.progress.progress_eq] at found
          rw [live'.events_eq, events, ← live.events_eq] at there
          rcases found_of k other found with before | ⟨rfl, rfl, progress, ok⟩
          · left
            refine ⟨⟨other, ?_, le⟩, there⟩
            rw [← live.progress.progress_eq]
            exact before
          · exact .inr ⟨other, rfl, le, ⟨log, progress, rfl, by rw [acknowledged, ok]⟩, there⟩
  | close =>
      cases log? with
      | none => exact ⟨h, .inl⟩
      | some log =>
          obtain ⟨journal, ledger, live, rfl, rfl⟩ := h.live log rfl
          exact ⟨sane_of_live (close_live live), .inl⟩

/-! ## What a run does -/

/-- In every state of a run, an event that is not behind a recorded offset is vouched for. -/
theorem vouched_run (h : Sane directory file twin start)
    (fresh : ∀ consumer i e, ¬ Reached file twin start.2 consumer i e) (moves : List Move) :
    Sane directory file twin (run directory start moves) ∧
      ∀ {consumer i e}, Reached file twin (run directory start moves).2 consumer i e →
        Vouched directory start moves consumer i e := by
  -- Over the moves still to come: what vouches for an event lies in the moves already made.
  suffices all : ∀ rest done, (Sane directory file twin (run directory start done) ∧
      ∀ {consumer i e}, Reached file twin (run directory start done).2 consumer i e →
        Vouched directory start done consumer i e) →
      Sane directory file twin (run directory start (done ++ rest)) ∧
        ∀ {consumer i e}, Reached file twin (run directory start (done ++ rest)).2 consumer i e →
          Vouched directory start (done ++ rest) consumer i e by
    exact all moves [] ⟨h, fun there => absurd there (fresh _ _ _)⟩
  intro rest
  induction rest with
  | nil =>
      intro done given
      rw [List.append_nil]
      exact given
  | cons move rest ih =>
      rintro done ⟨sane, vouched⟩
      rw [show done ++ move :: rest = (done ++ [move]) ++ rest by simp]
      refine ih (done ++ [move]) ?_
      obtain ⟨sane', before⟩ := step_sane sane move
      rw [run_append_singleton]
      refine ⟨sane', ?_⟩
      intro consumer i e reached
      have shows := sane'.shows reached.there
      rcases before reached with earlier | ⟨offset, rfl, le, confirms, there⟩
      · exact (vouched earlier).step shows
      · exact vouched_of_confirms le confirms (sane.shows there) shows

/-- A live log in which nobody has come anywhere has no recorded offsets. -/
theorem not_reached_of_fresh {journal : Journal Event} {ledger : Journal ProgressRecord} {log : Log}
    {disk : Disk} (h : Live directory journal ledger log disk)
    (fresh : ∀ consumer, log.acks.resumeOffset consumer = 0) (consumer : Consumer) (i : UInt64)
    (e : Event) : ¬ Reached journal.file ledger.file disk consumer i e := by
  rintro ⟨⟨offset, found, -⟩, -⟩
  rw [← h.progress.progress_eq] at found
  have zero := congrArg UInt64.toNat (h.resumeOffset_eq consumer)
  rw [fresh, found, Option.map_some, Option.getD_some,
    Acks.toNat_add_one (h.bound consumer offset found).2, UInt64.toNat_zero] at zero
  omega

/-- Take any run from the first opening on, in which nobody had come anywhere. In front of where a
consumer resumes there are only events that it acknowledged and that have been there ever since; so
an event that was appended after its last acknowledgement is still ahead of it. -/
theorem nothing_skipped {disk opened : Disk} {log last : Log} {later : Disk} {maxBatch : UInt64}
    (stored : disk.Stored) (unshared : disk.Unshared)
    (opening : openIn disk directory maxBatch = (.ok log, opened))
    (fresh : ∀ consumer, log.acks.resumeOffset consumer = 0) {moves : List Move}
    (ran : run directory (some log, opened) moves = (some last, later)) (consumer : Consumer) :
    (∀ i < last.acks.resumeOffset consumer, ∃ e, last.events.events[i.toNat]? = some e ∧
      Vouched directory (some log, opened) moves consumer i e) ∧
    ∀ before now draft after, moves = before ++ .append now draft :: after →
      (∀ front offset back, after = front ++ .acknowledge consumer offset :: back →
        ¬ Confirms (run directory (some log, opened) (before ++ .append now draft :: front))
          consumer offset) →
      ∀ writer, (run directory (some log, opened) before).1 = some writer →
        (last.acks.resumeOffset consumer).toNat ≤ writer.events.events.length := by
  obtain ⟨journal, ledger, live⟩ := live_of_openIn stored unshared opening
  obtain ⟨sane, vouched⟩ :=
    vouched_run (sane_of_live live) (not_reached_of_fresh live fresh) moves
  rw [ran] at sane vouched
  obtain ⟨journal', ledger', live', same_file, same_twin⟩ := sane.live last rfl
  have seen : ∀ i < last.acks.resumeOffset consumer, ∃ e, last.events.events[i.toNat]? = some e ∧
      Vouched directory (some log, opened) moves consumer i e := by
    intro i below
    obtain ⟨offset, found, le⟩ := live'.exists_of_lt_resumeOffset below
    have inside : i.toNat < last.events.events.length :=
      Nat.lt_of_le_of_lt (UInt64.le_iff_toNat_le.mp le) (live'.bound consumer offset found).1
    have there := List.getElem?_eq_getElem inside
    refine ⟨_, there, vouched ⟨⟨offset, ?_, le⟩, ?_⟩⟩
    · rw [← same_twin, ← live'.progress.progress_eq]
      exact found
    · rw [← same_file, live'.events_eq]
      exact there
  refine ⟨seen, ?_⟩
  intro before now draft after split silent writer writing
  refine Nat.not_lt.mp fun short => ?_
  -- The offset of the event appended then was not shown before, so it cannot have been vouched for.
  have resume_lt : (last.acks.resumeOffset consumer).toNat < UInt64.size :=
    (last.acks.resumeOffset consumer).toNat_lt
  have index : (UInt64.ofNat writer.events.events.length).toNat = writer.events.events.length :=
    UInt64.toNat_ofNat_of_lt' (by omega)
  have below : UInt64.ofNat writer.events.events.length < last.acks.resumeOffset consumer := by
    rw [UInt64.lt_iff_toNat_lt, index]
    exact short
  obtain ⟨e, -, before', offset, after', split', -, confirms, since⟩ := seen _ below
  rw [split] at split'
  rcases List.append_eq_append_iff.mp split' with ⟨between, front, back⟩ | ⟨between, front, back⟩
  · cases between with
    | nil => cases back
    | cons move between =>
        cases back
        rw [front] at confirms
        exact silent between offset after' rfl confirms
  · have shown := since between ⟨_, back.symm⟩
    rw [← front] at shown
    have present := shown writer writing
    rw [index, List.getElem?_eq_none (Nat.le_refl _)] at present
    cases present

/-- An event is acknowledged and lost, and another one is appended in its place: the consumer
resumes in front of that one. -/
theorem nothing_skipped_after_loss :
    ∃ log opened last later,
      openIn {} "" 100 = (.ok log, opened) ∧
      run "" (some log, opened) [.append ⟨5, 0, by decide⟩ { type := "put" },
        .acknowledge ⟨"c", by decide⟩ 0, .restart 0 7,
        .append ⟨6, 0, by decide⟩ { type := "cut" }] = (some last, later) ∧
      (∀ i < last.acks.resumeOffset ⟨"c", by decide⟩, ∃ e,
        last.events.events[i.toNat]? = some e ∧
        Vouched "" (some log, opened) [.append ⟨5, 0, by decide⟩ { type := "put" },
          .acknowledge ⟨"c", by decide⟩ 0, .restart 0 7,
          .append ⟨6, 0, by decide⟩ { type := "cut" }] ⟨"c", by decide⟩ i e) ∧
      last.acks.resumeOffset ⟨"c", by decide⟩ = 0 := by
  obtain ⟨log, opening, fresh⟩ := openIn_blank 100
  obtain ⟨journal, ledger, live⟩ :=
    live_of_openIn Disk.stored_empty Disk.unshared_empty opening
  obtain ⟨sane, -⟩ := vouched_run (sane_of_live live) (not_reached_of_fresh live fresh)
    [.append ⟨5, 0, by decide⟩ { type := "put" }, .acknowledge ⟨"c", by decide⟩ 0]
  obtain ⟨again, between, restarted, none_left⟩ := step_restart_empty sane 7
  rw [← run_append_singleton] at restarted
  have ran : ∃ last later, run "" (some log, blankFiles)
      ([.append ⟨5, 0, by decide⟩ { type := "put" }, .acknowledge ⟨"c", by decide⟩ 0] ++
        [.restart 0 7] ++ [.append ⟨6, 0, by decide⟩ { type := "cut" }]) = (some last, later) := by
    rw [run_append_singleton, restarted]
    exact ⟨_, _, rfl⟩
  obtain ⟨last, later, ran⟩ := ran
  obtain ⟨seen, ahead⟩ := nothing_skipped Disk.stored_empty Disk.unshared_empty opening fresh ran
    ⟨"c", by decide⟩
  refine ⟨log, blankFiles, last, later, opening, ran, seen, ?_⟩
  have resumes := ahead ([.append ⟨5, 0, by decide⟩ { type := "put" },
    .acknowledge ⟨"c", by decide⟩ 0] ++ [.restart 0 7]) _ _ [] rfl
    (by
      intro front offset back split
      exact absurd split.symm (by simp))
    again (by rw [restarted])
  rw [none_left, List.length_nil] at resumes
  exact UInt64.toNat_inj.mp (Nat.le_zero.mp resumes)

end ChangeLog.Log
