import EasyEvse.Meter.Ownership

/-! The number of samples that a complete buffer is recorded with, and what becomes of it. -/

namespace EasyEvse.Meter

open Transition

/-- The number of samples that the buffer was completed with last. -/
def completedWith (buffer : BufferIndex) (history : List Occurrence) : Option ℕ :=
  history.foldl (fun last occurrence =>
    match occurrence with
    | .finished completed count => if completed = buffer then some count else last
    | _ => last) none

/-- The count that the library interpolates from, for a buffer of so many samples. -/
def interpolationOf (count : ℕ) : Option ℕ := if fftSamples < count then some count else none

/-- The library is done with the buffer. -/
def Processes (buffer : BufferIndex) : Occurrence → Prop
  | .released freed => freed = buffer
  | _ => False

instance (buffer : BufferIndex) : DecidablePred (Processes buffer)
  | .released freed => inferInstanceAs (Decidable (freed = buffer))
  | .received _ | .wrote _ | .finished _ _ | .handed _ _ _ | .cleaned => isFalse id

/-- The buffer was completed, and the library was not done with it since. -/
def Unprocessed (buffer : BufferIndex) (history : List Occurrence) : Prop :=
  -- A buffer that was given up is not processed, so that its count is still to be kept.
  openAfter (Finishes buffer) (Processes buffer) false history = true

/-- A complete buffer is recorded, and processed, with the count it was completed with. -/
structure Metrology.CountKept (s : Metrology) : Prop where
  recorded : ∀ buffer, Unprocessed buffer s.metering.history →
    completedWith buffer s.metering.history = some (s.metering.adcSamples buffer)
  processed : ∀ front buffer content interpolation back,
    s.metering.history = front ++ .handed buffer content interpolation :: back →
    ∃ count, completedWith buffer front = some count ∧ interpolation = interpolationOf count

/--
Nothing is done to a buffer that is still in use.

No frame with a bad checksum comes while the current buffer is, and no complete buffer is given up.
-/
def SparesComplete (crc : Sample → BitVec 16) (s : Metrology) : MetrologyOp → Prop
  | .spiRxDmaCallback transferDone frame =>
    transferDone = true → frame.Valid crc ∨ s.metering.bufferInUse s.metering.wrBuffer = false
  | .task =>
    -- Transfers are completed already while the task waits for the first of them.
    s.task = .metrologyInit ∨ s.task = .cleanEverything →
      ∀ buffer, s.metering.bufferInUse buffer = false
  | .calculated _ | .init | .deinit | .deinitRest => True

instance (crc : Sample → BitVec 16) (s : Metrology) : DecidablePred (SparesComplete crc s)
  | .spiRxDmaCallback _ _ => inferInstanceAs (Decidable (_ → _ ∨ _))
  | .task => inferInstanceAs (Decidable (_ ∨ _ → _))
  | .calculated _ | .init | .deinit | .deinitRest => isTrue trivial

section Counts

variable {crc : Sample → BitVec 16} {s t : Metrology} {op : MetrologyOp}
  {history : List Occurrence} {occurrence : Occurrence} {buffer : BufferIndex}

/-- The last completion tells the count. -/
theorem completedWith_finished {count : ℕ} :
    completedWith buffer (history ++ [.finished buffer count]) = some count := by
  simp [completedWith]

/-- Only a completion of the buffer itself changes its count. -/
theorem completedWith_other (other : ¬ Finishes buffer occurrence) :
    completedWith buffer (history ++ [occurrence]) = completedWith buffer history := by
  cases occurrence with
  | finished completed count =>
    have apart : completed ≠ buffer := other
    simp [completedWith, apart]
  | _ => simp [completedWith]

/-- A buffer is unprocessed after its completion, and as long as the library is not done with it. -/
theorem unprocessed_snoc : Unprocessed buffer (history ++ [occurrence]) ↔
    Finishes buffer occurrence ∨ ¬ Processes buffer occurrence ∧ Unprocessed buffer history := by
  unfold Unprocessed
  rw [openAfter_snoc]
  split_ifs <;> simp_all

/-- What the history says of the last count, and what is recorded, agree with a full buffer. -/
structure Metering.Counted (m : Metering) : Prop where
  flags : ∀ buffer, Unprocessed buffer m.history ↔ m.bufferInUse buffer = true
  recorded : ∀ buffer, m.bufferInUse buffer = true →
    completedWith buffer m.history = some inpSamples ∧ m.adcSamples buffer = inpSamples
  processed : Lawful (fun front occurrence => ∀ buffer content interpolation,
    occurrence = .handed buffer content interpolation →
    ∃ count, completedWith buffer front = some count ∧ interpolation = interpolationOf count)
    m.history

namespace Metering.Counted

variable {m : Metering} {frame : Frame}

/-- An occurrence of another kind changes nothing. -/
theorem note (counted : m.Counted) (other : ∀ buffer, ¬ Finishes buffer occurrence)
    (undone : ∀ buffer, ¬ Processes buffer occurrence)
    (unhanded : ∀ buffer, ¬ Hands buffer occurrence) : (m.note occurrence).Counted where
  flags buffer := by
    simp only [Metering.note, unprocessed_snoc, other buffer, undone buffer, false_or,
      not_false_eq_true, true_and]
    exact counted.flags buffer
  recorded buffer inUse := by
    obtain ⟨last, recorded⟩ := counted.recorded buffer inUse
    exact ⟨(completedWith_other (other buffer)).trans last, recorded⟩
  processed := by
    refine lawful_snoc.mpr ⟨counted.processed, fun buffer content interpolation same => ?_⟩
    -- Only a handed buffer asks for a count.
    subst same
    exact absurd rfl (unhanded buffer)

/-- A buffer that is started again loses its count, unless it is not in use. -/
theorem sampleReset (counted : m.Counted) (free : m.bufferInUse m.wrBuffer = false) :
    m.sampleReset.Counted where
  flags := counted.flags
  recorded buffer inUse := by
    -- The count is cleared for the current buffer, and that one is free.
    have apart : buffer ≠ m.wrBuffer := by
      intro same
      subst same
      exact absurd inUse (by simp [Metering.sampleReset, free])
    obtain ⟨last, recorded⟩ := counted.recorded buffer inUse
    exact ⟨last, by simpa [Metering.sampleReset, apart] using recorded⟩
  processed := counted.processed

/-- A completion records the count of a full buffer. -/
theorem sampleFinish (counted : m.Counted) (isFull : m.currentSample = inpSamples) :
    m.sampleFinish.Counted where
  flags buffer := by
    have flags := counted.flags buffer
    by_cases same : buffer = m.wrBuffer
    · simp [Metering.sampleFinish, Metering.note, unprocessed_snoc, Finishes, same]
    · simpa [Metering.sampleFinish, Metering.note, unprocessed_snoc, Finishes, Processes, same,
        Ne.symm same] using flags
  recorded buffer inUse := by
    by_cases same : buffer = m.wrBuffer
    · -- The completed buffer gets the count that its completion tells.
      subst same
      exact ⟨completedWith_finished.trans (congrArg some isFull),
        by simpa [Metering.sampleFinish, Metering.note] using isFull⟩
    · obtain ⟨last, recorded⟩ := counted.recorded buffer (by
        simpa [Metering.sampleFinish, Metering.note, same] using inUse)
      have other : ¬ Finishes buffer (.finished m.wrBuffer m.currentSample) := Ne.symm same
      exact ⟨(completedWith_other other).trans last,
        by simpa [Metering.sampleFinish, Metering.note, same] using recorded⟩
  processed := lawful_snoc.mpr ⟨counted.processed, by simp⟩

/-- Giving up buffers that are both free takes no count away. -/
theorem cleanEverything (counted : m.Counted) (free : ∀ buffer, m.bufferInUse buffer = false) :
    m.cleanEverything.Counted where
  flags buffer := by
    have flags := counted.flags buffer
    simpa [Metering.cleanEverything, Metering.note, unprocessed_snoc, Finishes, Processes,
      free buffer] using flags
  recorded buffer inUse := absurd inUse (by simp [Metering.cleanEverything, Metering.note])
  processed := lawful_snoc.mpr ⟨counted.processed, by simp⟩

/-- The library is given the count of the samples that it processes. -/
theorem calcMain (counted : m.Counted) (inUse : m.bufferInUse buffer = true) :
    (m.calcMain buffer).Counted where
  flags other := by
    have flags := counted.flags other
    simpa [Metering.calcMain, Metering.note, unprocessed_snoc, Finishes, Processes] using flags
  recorded other inUse := by
    obtain ⟨last, recorded⟩ := counted.recorded other inUse
    exact ⟨(completedWith_other id).trans last, recorded⟩
  processed := by
    refine lawful_snoc.mpr ⟨counted.processed, fun handed content interpolation same => ?_⟩
    -- What the library interpolates from is read from the record.
    obtain ⟨rfl, rfl, rfl⟩ : buffer = handed ∧ _ ∧ _ := by simpa using same
    obtain ⟨last, recorded⟩ := counted.recorded buffer inUse
    exact ⟨inpSamples, last, by rw [recorded]; rfl⟩

/-- A buffer that is given back needs no count. -/
theorem release (counted : m.Counted) {spectrum : Vector Sample inpSamples} :
    (m.release buffer spectrum).Counted where
  flags other := by
    have flags := counted.flags other
    by_cases same : other = buffer
    · simp [Metering.release, Metering.note, unprocessed_snoc, Finishes, Processes, same]
    · simpa [Metering.release, Metering.note, unprocessed_snoc, Finishes, Processes, same,
        Ne.symm same] using flags
  recorded other inUse := by
    -- A buffer that is still in use is not the one that was given back.
    have apart : other ≠ buffer := by
      intro same
      subst same
      exact absurd inUse (by simp [Metering.release, Metering.note])
    obtain ⟨last, recorded⟩ := counted.recorded other (by
      simpa [Metering.release, Metering.note, apart] using inUse)
    exact ⟨(completedWith_other id).trans last, recorded⟩
  processed := lawful_snoc.mpr ⟨counted.processed, by simp⟩

/-- Writing a sample changes no count. -/
theorem written (counted : m.Counted) {room : m.currentSample < inpSamples} :
    (m.written frame room).Counted :=
  have received : (m.note (.received frame)).Counted :=
    counted.note (fun _ => id) (fun _ => id) fun _ => id
  have wrote : ((m.note (.received frame)).note (.wrote m.wrBuffer)).Counted :=
    received.note (fun _ => id) (fun _ => id) fun _ => id
  ⟨wrote.flags, wrote.recorded, wrote.processed⟩

/-- A transfer keeps the counts, unless it starts a buffer again that is still in use. -/
theorem receives (counted : m.Counted) {result : Metering × Bool}
    (receives : m.Receives crc frame result)
    (spares : frame.Valid crc ∨ m.bufferInUse m.wrBuffer = false) : result.1.Counted := by
  have received : (m.note (.received frame)).Counted :=
    counted.note (fun _ => id) (fun _ => id) fun _ => id
  cases receives with
  -- A bad checksum is where the condition is needed.
  | restarts invalid => exact received.sampleReset (spares.resolve_left invalid)
  | drops _ _ => exact ⟨received.flags, received.recorded, received.processed⟩
  | writes _ _ _ => exact counted.written
  | completes _ _ _ last => exact counted.written.sampleFinish last

end Metering.Counted

/-- Giving up a buffer that is in use clears its count, and does not process it. -/
theorem clean_loses_count {m : Metering} (counted : m.Counted)
    (inUse : m.bufferInUse buffer = true) :
    Unprocessed buffer m.cleanEverything.history ∧
      completedWith buffer m.cleanEverything.history ≠
        some (m.cleanEverything.adcSamples buffer) := by
  refine ⟨unprocessed_snoc.mpr (.inr ⟨id, (counted.flags buffer).mpr inUse⟩), ?_⟩
  have last : completedWith buffer (m.history ++ [.cleaned]) = some inpSamples :=
    (completedWith_other id).trans (counted.recorded buffer inUse).1
  show completedWith buffer (m.history ++ [.cleaned]) ≠ some 0
  rw [last]
  decide

/-- A frame with a bad checksum overwrites the count of a current buffer that is in use. -/
theorem reset_loses_count {m : Metering} {frame : Frame} (counted : m.Counted)
    (inUse : m.bufferInUse m.wrBuffer = true) :
    completedWith m.wrBuffer ((m.note (.received frame)).sampleReset).history ≠
      some (((m.note (.received frame)).sampleReset).adcSamples m.wrBuffer) := by
  have last : completedWith m.wrBuffer (m.history ++ [.received frame]) = some inpSamples :=
    (completedWith_other id).trans (counted.recorded m.wrBuffer inUse).1
  have lost : ((m.note (.received frame)).sampleReset).adcSamples m.wrBuffer = 0 := by
    simp [Metering.sampleReset, Metering.note]
  -- The history still tells of the full buffer, and the record of none.
  rw [lost]
  show completedWith m.wrBuffer (m.history ++ [.received frame]) ≠ some 0
  rw [last]
  decide

/-- Every step that spares the complete buffers keeps their counts. -/
theorem MetrologyMove.counted (move : MetrologyMove crc s op t) (sound : s.Sound crc)
    (counted : s.metering.Counted) (spares : SparesComplete crc s op) : t.metering.Counted := by
  cases move with
  | receives _ received => exact counted.receives received (spares rfl)
  | completes _ received =>
    -- The message about the buffer changes no count.
    rw [Metrology.startProcessing, setEvent_frame]
    exact counted.receives received (spares rfl)
  | initializes here => exact counted.cleanEverything (spares (.inl here))
  | cleans here => exact counted.cleanEverything (spares (.inr here))
  | hands here => exact counted.calcMain (sound.busy _ here)
  | releases _ => exact counted.release
  | ignores | starts _ | proceeds _ | leaves _ _ | stays _ | gets _ _ | accepts _ _ _
  | passes _ _ | initialized | deletes | deinitializes _ => exact counted

/-- Recorded counts are kept as far as the history tells which buffers are complete. -/
theorem Metering.Counted.countKept (counted : s.metering.Counted) : s.CountKept where
  recorded buffer unprocessed := by
    obtain ⟨last, recorded⟩ := counted.recorded buffer ((counted.flags buffer).mp unprocessed)
    rw [last, recorded]
  processed front buffer content interpolation back split :=
    counted.processed front _ back split buffer content interpolation rfl

/-- A step that does not spare a complete buffer loses its count. -/
theorem MetrologyMove.loses_count (move : MetrologyMove crc s op t)
    (counted : s.metering.Counted) (hits : ¬ SparesComplete crc s op) : ¬ t.CountKept := by
  -- A transfer with a bad checksum or the task that gives up the buffers is all that can hit one.
  intro kept
  cases move with
  | ignores => exact hits fun done => by simp at done
  | @receives frame _ _ received =>
    have bad : ¬ frame.Valid crc ∧ s.metering.bufferInUse s.metering.wrBuffer = true := by
      simpa [SparesComplete] using hits
    cases received with
    | restarts _ =>
      -- The buffer is to be processed still, and its count is gone.
      have unprocessed : Unprocessed s.metering.wrBuffer
          (s.metering.history ++ [.received frame]) :=
        unprocessed_snoc.mpr (.inr ⟨id, (counted.flags _).mpr bad.2⟩)
      exact reset_loses_count counted bad.2 (kept.recorded _ unprocessed)
    | drops valid _ | writes valid _ _ => exact bad.1 valid
  | completes _ received =>
    cases received with
    | completes valid _ _ _ => exact hits fun _ => .inl valid
  | initializes _ | cleans _ =>
    obtain ⟨buffer, inUse⟩ : ∃ buffer, s.metering.bufferInUse buffer = true := by
      by_contra none
      exact hits fun _ buffer => by simpa using not_exists.mp none buffer
    obtain ⟨unprocessed, lost⟩ := clean_loses_count counted inUse
    exact lost (kept.recorded buffer unprocessed)
  | starts here | proceeds here | leaves here _ | stays here | gets here _ | accepts here _ _
  | passes here _ | hands here =>
    exact hits fun gives => by simp [here] at gives
  | releases _ | initialized | deletes | deinitializes _ => exact hits trivial

/--
Complete buffers keep their counts exactly in the runs that spare the complete buffers.

In the others a frame with a bad checksum comes while both buffers are complete, or the task gives
up a buffer that was completed while it waited for the first transfer.
-/
theorem count_kept_iff (crc : Sample → BitVec 16) (start : Metrology) (initial : start.Initial)
    (ops : List MetrologyOp) :
    (∀ t, Visits (metrologyStep crc) start ops t → t.CountKept) ↔
      Meets (SparesComplete crc) (metrologyStep crc) start ops := by
  have keeps : ∀ {s op t}, s.Sound crc ∧ s.metering.Counted → SparesComplete crc s op →
      metrologyStep crc s op = some t → t.Sound crc ∧ t.metering.Counted := by
    intro s op t ⟨sound, counted⟩ spares moved
    have move := metrologyStep_moves sound.room moved
    exact ⟨move.sound sound, move.counted sound counted spares⟩
  have good : ∀ {s : Metrology}, s.Sound crc ∧ s.metering.Counted → s.CountKept :=
    fun holds => holds.2.countKept
  -- Once a count is lost the state itself shows it, so the condition is exact.
  have breaks : ∀ {s op t}, s.Sound crc ∧ s.metering.Counted → ¬ SparesComplete crc s op →
      metrologyStep crc s op = some t → ¬ t.CountKept :=
    fun holds hits moved =>
      (metrologyStep_moves holds.1.room moved).loses_count holds.2 hits
  have starts : start.Sound crc ∧ start.metering.Counted := by
    refine ⟨initial.sound, ?_⟩
    obtain rfl := initial
    exact ⟨by simp [Unprocessed, openAfter], by simp, lawful_nil⟩
  exact always_good_iff_meets keeps good breaks starts

/-- In the first period after the start the count is kept, and it is that of a full buffer. -/
theorem count_kept_iff_period : ∃ t, run (metrologyStep afeGetCRC) {} (startUp ++ period) = some t ∧
    completedWith 0 t.metering.history = some afeInpSamples ∧ t.CountKept := by
  have runs : (run (metrologyStep afeGetCRC) {} (startUp ++ period)).isSome := by decide +kernel
  have full : ∀ t ∈ run (metrologyStep afeGetCRC) {} (startUp ++ period),
      completedWith 0 t.metering.history = some afeInpSamples := by decide +kernel
  obtain ⟨t, ran⟩ := Option.isSome_iff_exists.mp runs
  exact ⟨t, ran, full t ran, (count_kept_iff afeGetCRC {} rfl (startUp ++ period)).mpr
    (by decide +kernel) t (visits_end ran)⟩

/-- A frame with a bad checksum comes after both buffers were completed. -/
def overrun : List MetrologyOp :=
  startUp ++ period ++ period ++ [.spiRxDmaCallback true brokenFrame]

/-- The count of a complete buffer is gone, before the task gets to it. -/
theorem count_lost : ∃ t, Visits (metrologyStep afeGetCRC) {} overrun t ∧
    Unprocessed 0 t.metering.history ∧ completedWith 0 t.metering.history = some 64 ∧
    t.metering.adcSamples 0 = 0 ∧ ¬ t.CountKept := by
  have runs : (run (metrologyStep afeGetCRC) {} overrun).isSome := by decide +kernel
  have lost : ∀ t ∈ run (metrologyStep afeGetCRC) {} overrun,
      openAfter (Finishes 0) (Processes 0) false t.metering.history = true ∧
        completedWith 0 t.metering.history = some 64 ∧ t.metering.adcSamples 0 = 0 := by
    decide +kernel
  obtain ⟨t, ran⟩ := Option.isSome_iff_exists.mp runs
  obtain ⟨complete, completed, recorded⟩ := lost t ran
  refine ⟨t, visits_end ran, complete, completed, recorded, fun kept => ?_⟩
  have same := kept.recorded 0 complete
  rw [completed, recorded] at same
  simp at same

end Counts

end EasyEvse.Meter
