import EasyEvse.Meter.Task

/-! Who owns the buffers: nothing is written into one that is complete, and none is used twice. -/

namespace EasyEvse.Meter

open Transition

/-- The occurrence completes the buffer. -/
def Finishes (buffer : BufferIndex) : Occurrence → Prop
  | .finished completed _ => completed = buffer
  | _ => False

/-- The occurrence sets the buffer free. -/
def Releases (buffer : BufferIndex) : Occurrence → Prop
  | .released freed => freed = buffer
  | .cleaned => True
  | _ => False

/-- The occurrence hands the buffer to the library. -/
def Hands (buffer : BufferIndex) : Occurrence → Prop
  | .handed used _ _ => used = buffer
  | _ => False

instance (buffer : BufferIndex) : DecidablePred (Finishes buffer)
  | .finished completed _ => inferInstanceAs (Decidable (completed = buffer))
  | .received _ | .wrote _ | .handed _ _ _ | .released _ | .cleaned => isFalse id

instance (buffer : BufferIndex) : DecidablePred (Releases buffer)
  | .released freed => inferInstanceAs (Decidable (freed = buffer))
  | .cleaned => isTrue trivial
  | .received _ | .wrote _ | .finished _ _ | .handed _ _ _ => isFalse id

instance (buffer : BufferIndex) : DecidablePred (Hands buffer)
  | .handed used _ _ => inferInstanceAs (Decidable (used = buffer))
  | .received _ | .wrote _ | .finished _ _ | .released _ | .cleaned => isFalse id

/-- The buffer was completed, and not set free since. -/
def Complete (buffer : BufferIndex) (history : List Occurrence) : Prop :=
  openAfter (Finishes buffer) (Releases buffer) false history = true

/-- The buffer was completed, and not handed to the library since. -/
def Unused (buffer : BufferIndex) (history : List Occurrence) : Prop :=
  openAfter (Finishes buffer) (Hands buffer) false history = true

/-- The frames that were received, in order. -/
def frames (history : List Occurrence) : List Frame :=
  history.filterMap fun
    | .received frame => some frame
    | _ => none

/-- The samples come from valid frames that were received one right after the other. -/
def Consecutive (crc : Sample → BitVec 16) (history : List Occurrence) (content : List Sample) :
    Prop :=
  ∃ before segment after, frames history = before ++ segment ++ after ∧
    (∀ frame ∈ segment, frame.Valid crc) ∧ segment.map Frame.sample = content

/-- What the history of the buffers may go on with. -/
def BufferLaw (crc : Sample → BitVec 16) (front : List Occurrence) : Occurrence → Prop
  | .wrote buffer => ¬ Complete buffer front
  | .handed buffer content _ => Consecutive crc front content.toList ∧ Unused buffer front
  | .received _ | .finished _ _ | .released _ | .cleaned => True

section Histories

variable {crc : Sample → BitVec 16} {history : List Occurrence} {occurrence : Occurrence}
  {buffer : BufferIndex} {content : List Sample}

/-- A received frame is the last of the frames. -/
@[simp] theorem frames_received {frame : Frame} :
    frames (history ++ [.received frame]) = frames history ++ [frame] := by
  simp [frames]

/-- Nothing else adds a frame. -/
theorem frames_other (other : ∀ frame, occurrence ≠ .received frame) :
    frames (history ++ [occurrence]) = frames history := by
  cases occurrence with
  | received frame => exact absurd rfl (other frame)
  | _ => simp [frames]

/-- Whatever happens next, the samples come from the frames they came from. -/
theorem Consecutive.snoc (taken : Consecutive crc history content) :
    Consecutive crc (history ++ [occurrence]) content := by
  obtain ⟨before, segment, after, all, valid, same⟩ := taken
  cases occurrence with
  -- A new frame comes behind the segment, and everything else leaves the frames alone.
  | received frame =>
    exact ⟨before, segment, after ++ [frame], by simp [all], valid, same⟩
  | _ =>
    exact ⟨before, segment, after, by rw [frames_other (by simp), all], valid, same⟩

/-- A buffer is complete after its completion, and as long as nothing sets it free. -/
theorem complete_snoc : Complete buffer (history ++ [occurrence]) ↔
    Finishes buffer occurrence ∨ ¬ Releases buffer occurrence ∧ Complete buffer history := by
  unfold Complete
  rw [openAfter_snoc]
  split_ifs <;> simp_all

/-- A buffer is unused after its completion, and as long as nothing hands it over. -/
theorem unused_snoc : Unused buffer (history ++ [occurrence]) ↔
    Finishes buffer occurrence ∨ ¬ Hands buffer occurrence ∧ Unused buffer history := by
  unfold Unused
  rw [openAfter_snoc]
  split_ifs <;> simp_all

/-- Writing the next sample adds it to those before it. -/
theorem take_set_next {samples : Vector Sample inpSamples} {sample : Sample} {n : ℕ}
    (next : n < inpSamples) :
    (samples.set n sample next).toList.take (n + 1) = samples.toList.take n ++ [sample] := by
  rw [Vector.toList_set, List.take_succ_eq_append_getElem (by simpa using next),
    List.take_set_of_le (Nat.le_refl n), List.getElem_set_self]

end Histories

/--
What holds of the buffers between the steps, with at most one of them lent to the library.

The task may have found a buffer complete without having lent it yet.
-/
structure Metering.Sound (crc : Sample → BitVec 16) (m : Metering) (lent : Option BufferIndex) :
    Prop where
  lawful : Lawful (BufferLaw crc) m.history
  flags : ∀ buffer, m.bufferInUse buffer = true ↔ Complete buffer m.history
  room : m.currentSample ≤ inpSamples
  free : 0 < m.currentSample → m.bufferInUse m.wrBuffer = false
  /-- The samples so far come from the frames received last. -/
  filling : ∃ before segment, frames m.history = before ++ segment ∧
    (∀ frame ∈ segment, frame.Valid crc) ∧
    segment.map Frame.sample = (m.samples m.wrBuffer).toList.take m.currentSample
  full : ∀ buffer, m.bufferInUse buffer = true → lent ≠ some buffer →
    Consecutive crc m.history (m.samples buffer).toList ∧ Unused buffer m.history
  held : ∀ buffer ∈ lent, m.bufferInUse buffer = true

namespace Metering.Sound

variable {crc : Sample → BitVec 16} {m : Metering} {lent : Option BufferIndex}
  {buffer : BufferIndex} {frame : Frame}

/-- At the start nothing has happened, and no buffer is in use. -/
theorem start : Metering.Sound crc {} none where
  lawful := lawful_nil
  flags := by simp [Complete, openAfter]
  room := Nat.zero_le _
  free := by simp
  filling := ⟨[], [], rfl, by simp, by simp⟩
  full := by simp
  held := by simp

/-- A frame with a bad checksum starts the current buffer again. -/
theorem sampleReset (sound : m.Sound crc lent) :
    ((m.note (.received frame)).sampleReset).Sound crc lent where
  lawful := lawful_snoc.mpr ⟨sound.lawful, trivial⟩
  flags b := (sound.flags b).trans (by
    simp [Metering.sampleReset, Metering.note, complete_snoc, Finishes, Releases])
  room := Nat.zero_le _
  -- Nothing of the buffer has been written again, so nothing is asked of its flag.
  free positive := absurd positive (by simp [Metering.sampleReset])
  filling := ⟨_, [], (List.append_nil _).symm, by simp, by simp [Metering.sampleReset]⟩
  full b inUse other := by
    obtain ⟨taken, unused⟩ := sound.full b inUse other
    exact ⟨taken.snoc, unused_snoc.mpr (.inr ⟨id, unused⟩)⟩
  held := sound.held

/-- In an overrun the frame is lost, and no sample of the current buffer comes before it. -/
theorem dropped (sound : m.Sound crc lent) (inUse : m.bufferInUse m.wrBuffer = true) :
    (m.dropped frame).Sound crc lent where
  lawful := lawful_snoc.mpr ⟨sound.lawful, trivial⟩
  flags b := (sound.flags b).trans (by
    simp [Metering.dropped, Metering.note, complete_snoc, Finishes, Releases])
  room := sound.room
  free := sound.free
  filling := by
    -- A buffer that is in use has not been written since it was completed.
    have none : m.currentSample = 0 := by
      by_contra some
      exact absurd inUse (by simp [sound.free (Nat.pos_of_ne_zero some)])
    exact ⟨_, [], (List.append_nil _).symm, by simp,
      by simp [Metering.dropped, Metering.note, none]⟩
  full b inUse other := by
    obtain ⟨taken, unused⟩ := sound.full b inUse other
    exact ⟨taken.snoc, unused_snoc.mpr (.inr ⟨id, unused⟩)⟩
  held := sound.held

/-- The sample of a valid frame is written behind those of the frames before it. -/
theorem written (sound : m.Sound crc lent) (valid : frame.Valid crc)
    (free : m.bufferInUse m.wrBuffer = false) (room : m.currentSample < inpSamples) :
    (m.written frame room).Sound crc lent where
  lawful := by
    refine lawful_snoc.mpr ⟨lawful_snoc.mpr ⟨sound.lawful, trivial⟩, fun complete => ?_⟩
    -- A complete buffer would have its flag set, and this one has not.
    have inUse := (sound.flags m.wrBuffer).mpr (by
      simpa [Metering.note, complete_snoc, Finishes, Releases] using complete)
    simp [free] at inUse
  flags b := (sound.flags b).trans (by
    simp [Metering.written, Metering.note, complete_snoc, Finishes, Releases, -List.append_assoc])
  room := room
  free _ := free
  filling := by
    -- The frame joins the segment at its end, as its sample joins the buffer.
    obtain ⟨before, segment, all, valids, taken⟩ := sound.filling
    refine ⟨before, segment ++ [frame], ?_, ?_, ?_⟩
    · show frames (m.history ++ [.received frame] ++ [.wrote m.wrBuffer]) = _
      rw [frames_other (by simp), frames_received, all, List.append_assoc]
    · intro other member
      rcases List.mem_append.mp member with earlier | last
      · exact valids other earlier
      · rw [List.mem_singleton.mp last]
        exact valid
    · calc (segment ++ [frame]).map Frame.sample
          = (m.samples m.wrBuffer).toList.take m.currentSample ++ [frame.sample] := by
            rw [List.map_append, taken, List.map_singleton]
        _ = ((m.samples m.wrBuffer).set m.currentSample frame.sample room).toList.take
              (m.currentSample + 1) := (take_set_next room).symm
        _ = _ := by simp [Metering.written, Metering.note]
  full b inUse other := by
    -- The buffer that is written is not in use, so a full one is the other.
    have apart : b ≠ m.wrBuffer := by
      intro same
      subst same
      exact absurd inUse (by simp [Metering.written, Metering.note, free])
    obtain ⟨taken, unused⟩ := sound.full b inUse other
    simp only [Metering.written, Metering.note, Function.update_of_ne apart]
    exact ⟨taken.snoc.snoc,
      unused_snoc.mpr (.inr ⟨id, unused_snoc.mpr (.inr ⟨id, unused⟩)⟩)⟩
  held := sound.held

/-- A buffer is completed with as many samples as it has room for. -/
theorem sampleFinish (sound : m.Sound crc lent) (isFull : m.currentSample = inpSamples) :
    m.sampleFinish.Sound crc lent := by
  have free : m.bufferInUse m.wrBuffer = false :=
    sound.free (by rw [isFull]; decide)
  obtain ⟨before, segment, all, valids, taken⟩ := sound.filling
  exact {
    lawful := lawful_snoc.mpr ⟨sound.lawful, trivial⟩
    -- The completion sets the one flag, and says so.
    flags := fun b => by
      by_cases same : b = m.wrBuffer
      · simp [Metering.sampleFinish, Metering.note, complete_snoc, Finishes, same]
      · simp [Metering.sampleFinish, Metering.note, complete_snoc, Finishes, Releases, same,
          Ne.symm same, sound.flags b]
    room := Nat.zero_le _
    free := fun positive => absurd positive (by simp [Metering.sampleFinish, Metering.note])
    filling := ⟨_, [], (List.append_nil _).symm, by simp,
      by simp [Metering.sampleFinish, Metering.note]⟩
    full := fun b inUse other => by
      by_cases same : b = m.wrBuffer
      · -- All samples of the buffer are those of the frames received last.
        have whole : (m.samples m.wrBuffer).toList.take m.currentSample =
            (m.samples m.wrBuffer).toList := List.take_of_length_le (by simp [isFull])
        have content : Consecutive crc m.history (m.samples m.wrBuffer).toList :=
          ⟨before, segment, [], by simp [all], valids, by rw [taken, whole]⟩
        exact ⟨same ▸ content.snoc, unused_snoc.mpr (.inl same.symm)⟩
      · have earlier : m.bufferInUse b = true := by
          simpa [Metering.sampleFinish, Metering.note, same] using inUse
        obtain ⟨taken, unused⟩ := sound.full b earlier other
        exact ⟨taken.snoc, unused_snoc.mpr (.inr ⟨id, unused⟩)⟩
    held := fun b member => by
      by_cases same : b = m.wrBuffer
      · simp [Metering.sampleFinish, Metering.note, same]
      · simpa [Metering.sampleFinish, Metering.note, same] using sound.held b member }

/-- Giving up both buffers makes a new start, while none of them is lent. -/
theorem cleanEverything (sound : m.Sound crc none) : m.cleanEverything.Sound crc none where
  lawful := lawful_snoc.mpr ⟨sound.lawful, trivial⟩
  flags b := by simp [Metering.cleanEverything, Metering.note, complete_snoc, Finishes, Releases]
  room := Nat.zero_le _
  free positive := absurd positive (by simp [Metering.cleanEverything, Metering.note])
  filling := ⟨_, [], (List.append_nil _).symm, by simp,
    by simp [Metering.cleanEverything, Metering.note]⟩
  -- Both flags are clear, so no buffer is full or held.
  full b inUse _ := absurd inUse (by simp [Metering.cleanEverything, Metering.note])
  held := by simp

/-- A buffer that is complete is lent to the library with its samples as they were received. -/
theorem calcMain (sound : m.Sound crc none) (inUse : m.bufferInUse buffer = true) :
    (m.calcMain buffer).Sound crc (some buffer) where
  lawful := lawful_snoc.mpr ⟨sound.lawful, sound.full buffer inUse (by simp)⟩
  flags b := (sound.flags b).trans (by
    simp [Metering.calcMain, Metering.note, complete_snoc, Finishes, Releases])
  room := sound.room
  free := sound.free
  filling := by
    obtain ⟨before, segment, all, rest⟩ := sound.filling
    exact ⟨before, segment, by simp [Metering.calcMain, Metering.note, frames_other, all], rest⟩
  full b inUse other := by
    -- The lent buffer is used now, and nothing is said of it until it is given back.
    obtain ⟨taken, unused⟩ := sound.full b inUse (by simp)
    exact ⟨taken.snoc, unused_snoc.mpr (.inr ⟨fun same => other (congrArg some same), unused⟩)⟩
  held := by simpa [Metering.calcMain, Metering.note] using inUse

/-- The library gives the buffer back, and what it has left there is not used. -/
theorem release (sound : m.Sound crc (some buffer)) {spectrum : Vector Sample inpSamples} :
    (m.release buffer spectrum).Sound crc none where
  lawful := lawful_snoc.mpr ⟨sound.lawful, trivial⟩
  flags b := by
    by_cases same : b = buffer
    · simp [Metering.release, Metering.note, complete_snoc, Finishes, Releases, same]
    · simp [Metering.release, Metering.note, complete_snoc, Finishes, Releases, same,
        Ne.symm same, sound.flags b]
  room := sound.room
  free positive := by
    have free := sound.free positive
    by_cases same : m.wrBuffer = buffer
    · simp [Metering.release, Metering.note, same]
    · simpa [Metering.release, Metering.note, same] using free
  filling := by
    obtain ⟨before, segment, all, valids, taken⟩ := sound.filling
    refine ⟨before, segment, by simp [Metering.release, Metering.note, frames_other, all], valids,
      ?_⟩
    by_cases same : m.wrBuffer = buffer
    · -- The lent buffer is in use, so nothing of it has been written yet.
      have none : m.currentSample = 0 := by
        by_contra some
        have free := sound.free (Nat.pos_of_ne_zero some)
        simp [same, sound.held buffer rfl] at free
      simpa [Metering.release, Metering.note, none] using taken
    · simpa [Metering.release, Metering.note, same] using taken
  full b inUse _ := by
    -- What the library has left in the buffer it gives back is nobody's sample.
    have apart : b ≠ buffer := by
      rintro rfl
      exact absurd inUse (by simp [Metering.release, Metering.note])
    have earlier : m.bufferInUse b = true := by
      simpa [Metering.release, Metering.note, apart] using inUse
    obtain ⟨taken, unused⟩ := sound.full b earlier (by simpa using Ne.symm apart)
    simp only [Metering.release, Metering.note, Function.update_of_ne apart]
    exact ⟨taken.snoc, unused_snoc.mpr (.inr ⟨id, unused⟩)⟩
  held := by simp

/-- A completed transfer keeps all of that, and leaves room for the next one. -/
theorem receives (sound : m.Sound crc lent) (room : m.currentSample < inpSamples)
    {result : Metering × Bool} (receives : m.Receives crc frame result) :
    result.1.Sound crc lent ∧ result.1.currentSample < inpSamples := by
  cases receives with
  -- Each of the four ways a transfer ends has its own law.
  | restarts invalid => exact ⟨sound.sampleReset, Nat.zero_lt_of_lt room⟩
  | drops valid inUse => exact ⟨sound.dropped inUse, room⟩
  | writes valid free more => exact ⟨sound.written valid free _, more⟩
  | completes valid free _ last =>
    exact ⟨(sound.written valid free room).sampleFinish last, Nat.zero_lt_of_lt room⟩

end Metering.Sound

/-- A transfer sets no buffer free. -/
theorem Metering.Receives.stays {m : Metering} {crc : Sample → BitVec 16} {frame : Frame}
    {result : Metering × Bool} (receives : m.Receives crc frame result) {buffer : BufferIndex}
    (inUse : m.bufferInUse buffer = true) : result.1.bufferInUse buffer = true := by
  cases receives with
  | restarts _ | drops _ _ | writes _ _ _ => exact inUse
  -- A completion sets the flag of the current buffer, and leaves the other as it is.
  | completes valid free room last =>
    by_cases same : buffer = m.wrBuffer
    · simp [same, sampleFinish, written, note]
    · simpa [sampleFinish, written, note, same] using inUse

/-- The buffer that the library works on. -/
def TaskState.lent : TaskState → Option BufferIndex
  | .calculating buffer => some buffer
  | .metrologyInit | .afeInit | .awaitTransfer | .cleanEverything | .looping | .msgQGet
  | .dispatching _ | .processing _ | .ended => none

/-- What holds between the steps of the module. -/
structure Metrology.Sound (crc : Sample → BitVec 16) (s : Metrology) : Prop where
  metering : s.metering.Sound crc s.task.lent
  room : s.metering.currentSample < inpSamples
  /-- The buffer that the task has found complete is so until it is processed. -/
  busy : ∀ buffer, s.task = .processing buffer → s.metering.bufferInUse buffer = true

section Steps

variable {crc : Sample → BitVec 16} {s t : Metrology} {op : MetrologyOp}

/-- Sending a message leaves all but the queue alone. -/
theorem setEvent_frame (event : MetrologyEvent) (data : BufferIndex) :
    s.setEvent event data = { s with queue := (s.setEvent event data).queue } := by
  unfold Metrology.setEvent
  split <;> rfl

/-- Every step of the module keeps what holds of the buffers. -/
theorem MetrologyMove.sound (move : MetrologyMove crc s op t) (sound : s.Sound crc) :
    t.Sound crc := by
  obtain ⟨metering, room, busy⟩ := sound
  cases move with
  | ignores => exact ⟨metering, room, busy⟩
  | receives _ received =>
    obtain ⟨kept, room⟩ := metering.receives room received
    exact ⟨kept, room, fun buffer here => received.stays (busy buffer here)⟩
  | completes _ received =>
    -- The message about the completed buffer touches the queue alone.
    obtain ⟨kept, room⟩ := metering.receives room received
    rw [Metrology.startProcessing, setEvent_frame]
    exact ⟨kept, room, fun buffer here => received.stays (busy buffer here)⟩
  -- Both buffers are given up while the task has none of them lent.
  | initializes here | cleans here =>
    rw [here] at metering
    exact ⟨metering.cleanEverything, Nat.zero_lt_of_lt room, by simp⟩
  | starts here | proceeds here | stays here =>
    rw [here] at metering
    exact ⟨metering, room, by simp⟩
  | leaves here _ | gets here _ | passes here _ =>
    rw [here] at metering
    exact ⟨metering, room, by simp⟩
  | accepts here _ inUse =>
    -- The task has just looked at the flag of the buffer.
    rw [here] at metering
    refine ⟨metering, room, fun buffer same => ?_⟩
    obtain rfl : _ = buffer := by simpa using same
    exact inUse
  | @hands buffer here =>
    rw [here] at metering
    exact ⟨metering.calcMain (busy buffer here), room, by simp⟩
  | releases here =>
    rw [here] at metering
    exact ⟨metering.release, room, by simp⟩
  | initialized | deletes | deinitializes _ => exact ⟨metering, room, busy⟩

/-- What holds of the buffers holds of a task that was just created. -/
theorem Metrology.Initial.sound (initial : s.Initial) : s.Sound crc := by
  obtain rfl := initial
  exact ⟨.start, by decide, by simp⟩

/-- Whatever the order of the steps, it holds in every state that is reached. -/
theorem Metrology.Sound.of_reachable
    (reached : Reachable Metrology.Initial (metrologyStep crc) s) : s.Sound crc :=
  reached.invariant (fun initial => initial.sound)
    fun sound moved => (metrologyStep_moves sound.room moved).sound sound

/--
The two buffers are used in turn, whatever the order of the steps.

Nothing is written into a buffer between its completion and its release.
What is handed to the library are the samples of consecutive valid frames.
And no completion of a buffer is handed to the library twice.
-/
theorem double_buffer_protocol (crc : Sample → BitVec 16) (s : Metrology)
    (reached : Reachable Metrology.Initial (metrologyStep crc) s) :
    (∀ front buffer back, s.metering.history = front ++ .wrote buffer :: back →
      ¬ Complete buffer front) ∧
    (∀ front buffer content interpolation back,
      s.metering.history = front ++ .handed buffer content interpolation :: back →
      ∃ before segment after, frames front = before ++ segment ++ after ∧
        segment.length = afeInpSamples ∧ (∀ frame ∈ segment, frame.Valid crc) ∧
        segment.map Frame.sample = content.toList) ∧
    ∀ buffer, ∀ span ∈ spans (Finishes buffer) (Hands buffer) s.metering.history,
      span.2 ≤ 1 := by
  have lawful := (Metrology.Sound.of_reachable reached).metering.lawful
  refine ⟨fun front buffer back split => lawful front _ back split, ?_, fun buffer => ?_⟩
  · -- The law of the history names the frames that a handed buffer was filled from.
    intro front buffer content interpolation back split
    obtain ⟨⟨before, segment, after, all, valid, same⟩, _⟩ := lawful front _ back split
    -- A buffer holds as many samples as there are in a period.
    have length : segment.length = afeInpSamples := by
      rw [← List.length_map Frame.sample, same, Vector.length_toList, afeInpSamples_eq]
    exact ⟨before, segment, after, all, length, valid, same⟩
  · -- A buffer is handed over only if it was completed since it was handed over last.
    refine (spans_closed_once fun front occurrence back split hands => ?_).1
    cases occurrence with
    | handed used content interpolation =>
      obtain rfl : used = buffer := hands
      exact (lawful front _ back split).2
    | received _ | wrote _ | finished _ _ | released _ | cleaned => exact hands.elim

/-- The first period after the start is handed to the library, and once. -/
theorem double_buffer_protocol_period :
    ∃ s, run (metrologyStep afeGetCRC) {} (startUp ++ period ++ processing) = some s ∧
      s.metering.history.countP (fun occurrence => Hands 0 occurrence) = 1 ∧
      ∀ span ∈ spans (Finishes 0) (Hands 0) s.metering.history, span.2 ≤ 1 := by
  have runs : (run (metrologyStep afeGetCRC) {} (startUp ++ period ++ processing)).isSome := by
    decide +kernel
  have once : ((run (metrologyStep afeGetCRC) {} (startUp ++ period ++ processing)).map
      fun s => s.metering.history.countP fun occurrence => Hands 0 occurrence) = some 1 := by
    decide +kernel
  obtain ⟨s, ran⟩ := Option.isSome_iff_exists.mp runs
  rw [ran] at once
  exact ⟨s, ran, by simpa using once,
    (double_buffer_protocol afeGetCRC s ⟨{}, _, rfl, ran⟩).2.2 0⟩

end Steps

end EasyEvse.Meter
