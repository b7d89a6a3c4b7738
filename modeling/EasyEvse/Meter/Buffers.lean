import Mathlib.Algebra.GroupWithZero.Nat
import Mathlib.Data.Vector.Basic
import Mathlib.Logic.Function.Basic
import EasyEvse.Transition.Spans

/-! The two metering buffers, and the interrupt that fills them with the samples of the meter. -/

namespace EasyEvse.Meter

open Transition

def sampleRate : ℕ := 3200

def defaultLineFreq : ℕ := 50

/-- The samples that the meter takes in one period of the mains. -/
def afeInpSamples : ℕ := sampleRate / defaultLineFreq

def fftSamples : ℕ := 64

/-- The samples that a buffer has room for. -/
def inpSamples : ℕ := max fftSamples afeInpSamples

theorem afeInpSamples_eq : afeInpSamples = inpSamples := rfl

abbrev numMetBuffers : ℕ := 2

scoped instance : NeZero numMetBuffers := ⟨by decide⟩

/-- The number of one of the two buffers. -/
abbrev BufferIndex := Fin numMetBuffers

/-- One sample of the three voltages and the three currents. -/
structure Sample where
  u1 : BitVec 32
  u2 : BitVec 32
  u3 : BitVec 32
  i1 : BitVec 32
  i2 : BitVec 32
  i3 : BitVec 32
  deriving DecidableEq

/-- What a transfer leaves in memory: the words of the sample, and those of its checksum. -/
structure Frame where
  masterRxData : Vector (BitVec 16) 12
  masterRxCRC : Vector (BitVec 16) 2
  deriving DecidableEq

namespace Frame

variable (f : Frame)

/-- Each value of a sample comes as two words, the high one first. -/
def sample : Sample where
  u1 := f.masterRxData[0] ++ f.masterRxData[1]
  u2 := f.masterRxData[2] ++ f.masterRxData[3]
  u3 := f.masterRxData[4] ++ f.masterRxData[5]
  i1 := f.masterRxData[6] ++ f.masterRxData[7]
  i2 := f.masterRxData[8] ++ f.masterRxData[9]
  i3 := f.masterRxData[10] ++ f.masterRxData[11]

/-- The checksum that was received. -/
def crcReceived : BitVec 32 := f.masterRxCRC[0] ++ f.masterRxCRC[1]

/-- The checksum that was received is the one that the checksum unit computes. -/
def Valid (crc : Sample → BitVec 16) : Prop := (crc f.sample).setWidth 32 = f.crcReceived

instance (crc : Sample → BitVec 16) : Decidable (f.Valid crc) :=
  inferInstanceAs (Decidable (_ = _))

end Frame

/-- Shift one bit out of the checksum. -/
def crcBit (sum : BitVec 16) : BitVec 16 :=
  if sum.msb then (sum <<< 1) ^^^ 0x1021 else sum <<< 1

/-- Take one more byte into the checksum. -/
def crcByte (sum : BitVec 16) (byte : BitVec 8) : BitVec 16 :=
  (List.range 8).foldl (fun sum _ => crcBit sum) (sum ^^^ (byte.setWidth 16 <<< 8))

/-- The checksum CRC-16/CCITT-FALSE, which the checksum unit is configured for. -/
def crcCcittFalse (data : List (BitVec 8)) : BitVec 16 := data.foldl crcByte 0xffff

/-- The check value of the configuration, which is that of the digits from one to nine. -/
example : crcCcittFalse [0x31, 0x32, 0x33, 0x34, 0x35, 0x36, 0x37, 0x38, 0x39] = 0x29b1 := by
  decide +kernel

/-- The bytes of a value in memory, the low one first. -/
def bytes (value : BitVec 32) : List (BitVec 8) :=
  [value.extractLsb' 0 8, value.extractLsb' 8 8, value.extractLsb' 16 8, value.extractLsb' 24 8]

/-- The checksum of a sample as it lies in memory. -/
def afeGetCRC (s : Sample) : BitVec 16 :=
  crcCcittFalse (bytes s.u1 ++ bytes s.u2 ++ bytes s.u3 ++ bytes s.i1 ++ bytes s.i2 ++ bytes s.i3)

/-- What happens to the buffers, as a history keeps it. -/
inductive Occurrence
  /-- A transfer was completed. -/
  | received (frame : Frame)
  /-- A sample was written into the buffer. -/
  | wrote (buffer : BufferIndex)
  /-- The buffer was completed with that many samples. -/
  | finished (buffer : BufferIndex) (count : ℕ)
  /-- The samples of the buffer were handed to the library, with the count to interpolate from. -/
  | handed (buffer : BufferIndex) (content : Vector Sample inpSamples) (interpolation : Option ℕ)
  /-- The library is done with the buffer. -/
  | released (buffer : BufferIndex)
  /-- Both buffers were given up. -/
  | cleaned
  deriving DecidableEq

/-- The variables that the interrupt shares with the task, and the history of the buffers. -/
structure Metering where
  bufferInUse : BufferIndex → Bool := fun _ => false
  adcSamples : BufferIndex → ℕ := fun _ => 0
  currentSample : ℕ := 0
  wrBuffer : BufferIndex := 0
  rdBuffer : BufferIndex := 0
  /-- The six arrays of each buffer, one entry of each together. -/
  samples : BufferIndex → Vector Sample inpSamples := fun _ => .replicate _ ⟨0, 0, 0, 0, 0, 0⟩
  buffersNotProcessInTime : UInt32 := 0
  /-- Nothing reads the history. -/
  history : List Occurrence := []

namespace Metering

variable (m : Metering)

/-- Add to the history what has just happened. -/
def note (occurrence : Occurrence) : Metering := { m with history := m.history ++ [occurrence] }

/-- Start the current buffer again. -/
def sampleReset : Metering :=
  { m with
    currentSample := 0
    -- Whether the buffer is still in use is not looked at.
    adcSamples := Function.update m.adcSamples m.wrBuffer 0 }

/-- Write a sample, if there is room for it in a buffer that is not in use. -/
def sampleAdd (sample : Sample) : Metering :=
  if room : m.currentSample < inpSamples ∧ m.bufferInUse m.wrBuffer = false then
    { m with
      samples := Function.update m.samples m.wrBuffer
        ((m.samples m.wrBuffer).set m.currentSample sample room.1)
      currentSample := m.currentSample + 1 }.note (.wrote m.wrBuffer)
  else if m.bufferInUse m.wrBuffer then
    { m with buffersNotProcessInTime := m.buffersNotProcessInTime + 1 }
  else m

/-- Complete the current buffer, and go on with the other one. -/
def sampleFinish : Metering :=
  { m with
    adcSamples := Function.update m.adcSamples m.wrBuffer m.currentSample
    bufferInUse := Function.update m.bufferInUse m.wrBuffer true
    currentSample := 0
    rdBuffer := m.wrBuffer
    wrBuffer := 1 - m.wrBuffer }.note (.finished m.wrBuffer m.currentSample)

/-- Give up both buffers, in a critical section. -/
def cleanEverything : Metering :=
  { m with
    wrBuffer := 0
    rdBuffer := 0
    adcSamples := fun _ => 0
    bufferInUse := fun _ => false
    currentSample := 0 }.note .cleaned

/-- Hand a buffer to the library, which interpolates if there are more samples than it needs. -/
def calcMain (buffer : BufferIndex) : Metering :=
  m.note (.handed buffer (m.samples buffer)
    (if fftSamples < m.adcSamples buffer then some (m.adcSamples buffer) else none))

/-- The library leaves its spectrum in the buffer, and then the buffer is free again. -/
def release (buffer : BufferIndex) (spectrum : Vector Sample inpSamples) : Metering :=
  { m with
    samples := Function.update m.samples buffer spectrum
    bufferInUse := Function.update m.bufferInUse buffer false }.note (.released buffer)

/--
A completed transfer, up to the message to the task.

The flag says whether a buffer was completed by it.
-/
def spiRxDmaCallback (crc : Sample → BitVec 16) (frame : Frame) : Metering × Bool :=
  let received := m.note (.received frame)
  if frame.Valid crc then
    let added := received.sampleAdd frame.sample
    if added.currentSample = afeInpSamples then (added.sampleFinish, true) else (added, false)
  else (received.sampleReset, false)

/-- A frame that comes while the current buffer is in use is counted, and lost. -/
def dropped (frame : Frame) : Metering :=
  { m.note (.received frame) with buffersNotProcessInTime := m.buffersNotProcessInTime + 1 }

/-- A frame whose sample is the next one of the current buffer. -/
def written (frame : Frame) (room : m.currentSample < inpSamples) : Metering :=
  { m.note (.received frame) with
    samples := Function.update m.samples m.wrBuffer
      ((m.samples m.wrBuffer).set m.currentSample frame.sample room)
    currentSample := m.currentSample + 1 }.note (.wrote m.wrBuffer)

/-- What a completed transfer does to the buffers, and whether it completes one. -/
inductive Receives (crc : Sample → BitVec 16) (frame : Frame) : Metering × Bool → Prop
  | restarts (invalid : ¬ frame.Valid crc) :
      Receives crc frame ((m.note (.received frame)).sampleReset, false)
  | drops (valid : frame.Valid crc) (inUse : m.bufferInUse m.wrBuffer = true) :
      Receives crc frame (m.dropped frame, false)
  | writes (valid : frame.Valid crc) (free : m.bufferInUse m.wrBuffer = false)
      (more : m.currentSample + 1 < inpSamples) :
      Receives crc frame (m.written frame (Nat.lt_of_succ_lt more), false)
  | completes (valid : frame.Valid crc) (free : m.bufferInUse m.wrBuffer = false)
      (room : m.currentSample < inpSamples) (last : m.currentSample + 1 = inpSamples) :
      Receives crc frame ((m.written frame room).sampleFinish, true)

/-- Every completed transfer does one of these, while the current buffer is not full. -/
theorem spiRxDmaCallback_receives {m : Metering} {crc : Sample → BitVec 16} {frame : Frame}
    (room : m.currentSample < inpSamples) :
    m.Receives crc frame (m.spiRxDmaCallback crc frame) := by
  by_cases valid : frame.Valid crc
  · cases inUse : m.bufferInUse m.wrBuffer with
    | true =>
      have same : (m.note (.received frame)).sampleAdd frame.sample = m.dropped frame := by
        simp [sampleAdd, note, dropped, inUse]
      -- The count of samples is what it was, and so not that of a full buffer.
      have notFull : ¬ (m.dropped frame).currentSample = afeInpSamples := Nat.ne_of_lt room
      simp only [spiRxDmaCallback, if_pos valid, same, if_neg notFull]
      exact .drops valid inUse
    | false =>
      have same : (m.note (.received frame)).sampleAdd frame.sample = m.written frame room := by
        simp [sampleAdd, note, written, inUse, room]
      by_cases last : m.currentSample + 1 = inpSamples
      · have full : (m.written frame room).currentSample = afeInpSamples := last
        simp only [spiRxDmaCallback, if_pos valid, same, if_pos full]
        exact .completes valid inUse room last
      · have notFull : ¬ (m.written frame room).currentSample = afeInpSamples := last
        simp only [spiRxDmaCallback, if_pos valid, same, if_neg notFull]
        exact .writes valid inUse (Nat.lt_of_le_of_ne room last)
  · simp only [spiRxDmaCallback, if_neg valid]
    exact .restarts valid

end Metering

end EasyEvse.Meter
