import Mathlib.Data.List.Nodup
import EasyEvse.Clock.OcppTimepoint

/-! The meter values of a message, converted from the readings of the power meter. -/

namespace EasyEvse.Ocpp

open Clock

/-- What a sample measures, as far as the power meter has readings of it. -/
inductive Measurand
  | currentImport | energyActiveExportRegister | energyActiveImportRegister | frequency
  | powerActiveImport | powerReactiveImport | voltage
  deriving DecidableEq, Repr

/-- Why a sample is taken. -/
inductive ReadingContextEnum
  | interruptionBegin | interruptionEnd | other | sampleClock | samplePeriodic | transactionBegin
  | transactionEnd | trigger
  deriving DecidableEq, Repr

/-- Where in the grid a sample is taken. -/
inductive Phase
  | l1 | l2 | l3 | n | l1N | l2N | l3N | l1L2 | l2L3 | l3L1
  deriving DecidableEq, Repr

/-- Where in the station a sample is taken. -/
inductive Location
  | body | cable | ev | inlet | outlet | upstream
  deriving DecidableEq, Repr

/-- A meter value that is signed. -/
structure SignedMeterValue where
  signedMeterData : String
  encodingMethod : String
  signingMethod : Option String := none
  publicKey : Option String := none
  deriving DecidableEq, Repr

/-- The unit of a sample. -/
structure UnitOfMeasure where
  unit : Option String := none
  multiplier : Option ℤ := none
  deriving DecidableEq, Repr

/-- One value of a message. -/
structure SampledValue (F : Type*) where
  value : F
  measurand : Option Measurand := none
  context : Option ReadingContextEnum := none
  phase : Option Phase := none
  location : Option Location := none
  signedMeterValue : Option SignedMeterValue := none
  unitOfMeasure : Option UnitOfMeasure := none
  deriving DecidableEq, Repr

/-- The values of a message. -/
structure MeterValue (F : Type*) where
  sampledValue : List (SampledValue F)
  timestamp : DateTime

/-- A current of each line, of the neutral, or a direct one. -/
structure Current (F : Type*) where
  dc : Option F := none
  l1 : Option F := none
  l2 : Option F := none
  l3 : Option F := none
  n : Option F := none

/-- A voltage of each line, or a direct one. -/
structure Voltage (F : Type*) where
  dc : Option F := none
  l1 : Option F := none
  l2 : Option F := none
  l3 : Option F := none

/-- A frequency of each line. -/
structure Frequency (F : Type*) where
  l1 : F
  l2 : Option F := none
  l3 : Option F := none

/-- A power in total and for each line. -/
structure Power (F : Type*) where
  total : F
  l1 : Option F := none
  l2 : Option F := none
  l3 : Option F := none

/-- An energy in total and for each line. -/
structure Energy (F : Type*) where
  total : F
  l1 : Option F := none
  l2 : Option F := none
  l3 : Option F := none

/-- A reactive power in total and for each line. -/
structure ReactivePower (F : Type*) where
  total : F
  varPhA : Option F := none
  varPhB : Option F := none
  varPhC : Option F := none

/-- The readings of the power meter. Their values are only ever copied. -/
structure Powermeter (F : Type*) where
  timestamp : String
  energyWhImport : Energy F
  energyWhExport : Option (Energy F) := none
  powerW : Option (Power F) := none
  voltageV : Option (Voltage F) := none
  var : Option (ReactivePower F) := none
  currentA : Option (Current F) := none
  frequencyHz : Option (Frequency F) := none

section Conversion

variable {F : Type*} [Zero F]

/-- A sample without its value. -/
def toOcppSampledValue (readingContext : ReadingContextEnum) (measurand : Measurand) (unit : String)
    (phase : Option Phase) (location : Location) : SampledValue F where
  value := 0
  measurand := some measurand
  context := some readingContext
  phase := phase
  location := some location
  unitOfMeasure := some { unit := some unit }

def toOcppSignedMeterValue (signedMeterValue : SignedMeterValue) : SignedMeterValue :=
  signedMeterValue

/-- The time stamp of the readings is not parsed, and the present time takes its place. -/
def toOcppDatetimeOrNow (unixTime : UInt32) (_datetimeString : String) : DateTime :=
  .now unixTime

/-- The sample for a reading, if there is one. It is a new sample, taken at the outlet. -/
def pushReading (readingContext : ReadingContextEnum) (measurand : Measurand) (unit : String)
    (phase : Option Phase) (reading : Option F) (samples : List (SampledValue F)) :
    List (SampledValue F) :=
  match reading with
  | some value =>
    let sample : SampledValue F :=
      toOcppSampledValue readingContext measurand unit phase .outlet
    samples ++ [{ sample with value }]
  | none => samples

variable (readingContext : ReadingContextEnum)

/-- The imported energy, with the signed value for its total. -/
def pushEnergyImport (signedMeterValue : Option SignedMeterValue) (energy : Energy F)
    (samples : List (SampledValue F)) : List (SampledValue F) :=
  let push := pushReading readingContext .energyActiveImportRegister "Wh"
  let total : SampledValue F :=
    toOcppSampledValue readingContext .energyActiveImportRegister "Wh" none .outlet
  -- Without signed values of its own, the meter has just the one for the total.
  let samples := samples ++ [{ total with
    value := energy.total
    signedMeterValue := signedMeterValue.map toOcppSignedMeterValue }]
  let samples := push (some .l1) energy.l1 samples
  let samples := push (some .l2) energy.l2 samples
  push (some .l3) energy.l3 samples

def pushEnergyExport (energy : Energy F) (samples : List (SampledValue F)) :
    List (SampledValue F) :=
  let push := pushReading readingContext .energyActiveExportRegister "Wh"
  let samples := push none (some energy.total) samples
  let samples := push (some .l1) energy.l1 samples
  let samples := push (some .l2) energy.l2 samples
  push (some .l3) energy.l3 samples

def pushPower (power : Power F) (samples : List (SampledValue F)) : List (SampledValue F) :=
  let push := pushReading readingContext .powerActiveImport "W"
  let samples := push none (some power.total) samples
  let samples := push (some .l1) power.l1 samples
  let samples := push (some .l2) power.l2 samples
  push (some .l3) power.l3 samples

def pushReactivePower (var : ReactivePower F) (samples : List (SampledValue F)) :
    List (SampledValue F) :=
  let push := pushReading readingContext .powerReactiveImport "var"
  let samples := push none (some var.total) samples
  let samples := push (some .l1) var.varPhA samples
  let samples := push (some .l2) var.varPhB samples
  push (some .l3) var.varPhC samples

/-- The currents. A direct current is taken at no phase. -/
def pushCurrent (current : Current F) (samples : List (SampledValue F)) : List (SampledValue F) :=
  let push := pushReading readingContext .currentImport "A"
  let samples := push (some .l1) current.l1 samples
  let samples := push (some .l2) current.l2 samples
  let samples := push (some .l3) current.l3 samples
  let samples := push none current.dc samples
  push (some .n) current.n samples

/-- The voltages, each between its line and the neutral. -/
def pushVoltage (voltage : Voltage F) (samples : List (SampledValue F)) : List (SampledValue F) :=
  let push := pushReading readingContext .voltage "V"
  let samples := push (some .l1N) voltage.l1 samples
  let samples := push (some .l2N) voltage.l2 samples
  let samples := push (some .l3N) voltage.l3 samples
  push none voltage.dc samples

/-- Add the samples for readings that are there. -/
def pushPresent {α : Type*} (push : α → List (SampledValue F) → List (SampledValue F)) :
    Option α → List (SampledValue F) → List (SampledValue F)
  | some readings, samples => push readings samples
  | none, samples => samples

/-- The readings as the values of a message. -/
def toOcppMeterValue (unixTime : UInt32) (powerMeter : Powermeter F)
    (signedMeterValue : Option SignedMeterValue) : MeterValue F :=
  let samples := pushEnergyImport readingContext signedMeterValue powerMeter.energyWhImport []
  let samples := pushPresent (pushEnergyExport readingContext) powerMeter.energyWhExport samples
  let samples := pushPresent (pushPower readingContext) powerMeter.powerW samples
  let samples := pushPresent (pushReactivePower readingContext) powerMeter.var samples
  let samples := pushPresent (pushCurrent readingContext) powerMeter.currentA samples
  let samples := pushPresent (pushVoltage readingContext) powerMeter.voltageV samples
  -- The frequencies are not looked at.
  { sampledValue := samples
    timestamp := toOcppDatetimeOrNow unixTime powerMeter.timestamp }

end Conversion

/-- A line of the grid. -/
inductive Line
  | l1 | l2 | l3
  deriving DecidableEq, Repr

/-- What a power meter can have a reading of. Without a line, it is the total of all of them. -/
inductive Quantity
  | energyImport (line : Option Line)
  | energyExport (line : Option Line)
  | power (line : Option Line)
  | reactivePower (line : Option Line)
  | current (line : Line)
  | currentNeutral
  | currentDc
  | voltage (line : Line)
  | voltageDc
  | frequency (line : Line)
  deriving DecidableEq, Repr

/-- The phase of a line on its own. -/
def Line.phase : Line → Phase
  | .l1 => .l1
  | .l2 => .l2
  | .l3 => .l3

/-- The phase of a voltage between a line and the neutral. -/
def Line.toNeutral : Line → Phase
  | .l1 => .l1N
  | .l2 => .l2N
  | .l3 => .l3N

/-- Pick the value of a line, or the total. -/
def pick {α : Type*} (total l1 l2 l3 : α) : Option Line → α
  | none => total
  | some .l1 => l1
  | some .l2 => l2
  | some .l3 => l3

namespace Quantity

def measurand : Quantity → Measurand
  | energyImport _ => .energyActiveImportRegister
  | energyExport _ => .energyActiveExportRegister
  | power _ => .powerActiveImport
  | reactivePower _ => .powerReactiveImport
  | current _ | currentNeutral | currentDc => .currentImport
  | voltage _ | voltageDc => .voltage
  | frequency _ => .frequency

def phase : Quantity → Option Phase
  | energyImport line | energyExport line | power line | reactivePower line =>
    line.map Line.phase
  | current line | frequency line => some line.phase
  | currentNeutral => some .n
  | voltage line => some line.toNeutral
  | currentDc | voltageDc => none

def unit : Quantity → String
  | energyImport _ | energyExport _ => "Wh"
  | power _ => "W"
  | reactivePower _ => "var"
  | current _ | currentNeutral | currentDc => "A"
  | voltage _ | voltageDc => "V"
  | frequency _ => "Hz"

/-- What tells a sample of one quantity from that of another. -/
def key (q : Quantity) : Option Measurand × Option Phase := (some q.measurand, q.phase)

variable {F : Type*}

/-- The reading of a quantity, if the meter has one. -/
def reading (powerMeter : Powermeter F) : Quantity → Option F
  | energyImport line =>
    let energy := powerMeter.energyWhImport
    pick (some energy.total) energy.l1 energy.l2 energy.l3 line
  | energyExport line => powerMeter.energyWhExport.bind fun energy =>
    pick (some energy.total) energy.l1 energy.l2 energy.l3 line
  | power line => powerMeter.powerW.bind fun power =>
    pick (some power.total) power.l1 power.l2 power.l3 line
  | reactivePower line => powerMeter.var.bind fun var =>
    pick (some var.total) var.varPhA var.varPhB var.varPhC line
  | current line => powerMeter.currentA.bind fun current =>
    pick none current.l1 current.l2 current.l3 (some line)
  | currentNeutral => powerMeter.currentA.bind Current.n
  | currentDc => powerMeter.currentA.bind Current.dc
  | voltage line => powerMeter.voltageV.bind fun voltage =>
    pick none voltage.l1 voltage.l2 voltage.l3 (some line)
  | voltageDc => powerMeter.voltageV.bind Voltage.dc
  | frequency line => powerMeter.frequencyHz.bind fun frequency =>
    pick none (some frequency.l1) frequency.l2 frequency.l3 (some line)

/-- The sample that a reading of the quantity is due. -/
def sample (readingContext : ReadingContextEnum) (signedMeterValue : Option SignedMeterValue)
    (q : Quantity) (value : F) : SampledValue F where
  value := value
  measurand := some q.measurand
  context := some readingContext
  phase := q.phase
  location := some .outlet
  signedMeterValue := if q = energyImport none then signedMeterValue else none
  unitOfMeasure := some { unit := some q.unit }

/-- The sample of a quantity, if it has a reading. -/
def samples (readingContext : ReadingContextEnum) (signedMeterValue : Option SignedMeterValue)
    (powerMeter : Powermeter F) (q : Quantity) : List (SampledValue F) :=
  ((q.reading powerMeter).map (q.sample readingContext signedMeterValue)).toList

/-- A quantity that is given once for each line and in total. -/
def eachLine (quantity : Option Line → Quantity) : List Quantity :=
  [quantity none, quantity (some .l1), quantity (some .l2), quantity (some .l3)]

/-- The quantities in the order in which they are converted. -/
def converted : List Quantity :=
  eachLine energyImport ++ eachLine energyExport ++ eachLine power ++ eachLine reactivePower ++
    [current .l1, current .l2, current .l3, currentDc, currentNeutral] ++
    [voltage .l1, voltage .l2, voltage .l3, voltageDc]

end Quantity

open Quantity

section Samples

variable {F : Type*} {readingContext : ReadingContextEnum} {unixTime : UInt32}
  {powerMeter : Powermeter F} {signedMeterValue : Option SignedMeterValue}
  {before : List (SampledValue F)}

/-- A sample at the outlet without a signature. -/
def plainSample (readingContext : ReadingContextEnum) (measurand : Measurand) (unit : String)
    (phase : Option Phase) (value : F) : SampledValue F where
  value := value
  measurand := some measurand
  context := some readingContext
  phase := phase
  location := some .outlet
  unitOfMeasure := some { unit := some unit }

/-- Only the total of the imported energy has a signature. -/
theorem sample_eq (q : Quantity) (single : q ≠ energyImport none) :
    (q.sample readingContext signedMeterValue : F → SampledValue F) =
      plainSample readingContext q.measurand q.unit q.phase := by
  funext value
  simp [Quantity.sample, plainSample, single]

variable [Zero F]

/-- A reading that is there adds its sample behind the others. -/
theorem pushReading_eq (measurand : Measurand) (unit : String) (phase : Option Phase)
    (reading : Option F) : pushReading readingContext measurand unit phase reading before =
      before ++ (reading.map (plainSample readingContext measurand unit phase)).toList := by
  cases reading <;> simp [pushReading, toOcppSampledValue, plainSample]

/-- The imported energy adds its samples behind the others. -/
theorem pushEnergyImport_eq :
    pushEnergyImport readingContext signedMeterValue powerMeter.energyWhImport before =
      before ++ (eachLine energyImport).flatMap
        (Quantity.samples readingContext signedMeterValue powerMeter) := by
  have signed : signedMeterValue.map toOcppSignedMeterValue = signedMeterValue := by
    cases signedMeterValue <;> rfl
  simp [pushEnergyImport, pushReading_eq, eachLine, Quantity.samples, reading, pick, sample_eq,
    Quantity.sample, toOcppSampledValue, measurand, unit, phase, Line.phase, signed]

/-- The exported energy adds its samples behind the others. -/
theorem pushEnergyExport_eq :
    pushPresent (pushEnergyExport readingContext) powerMeter.energyWhExport before =
      before ++ (eachLine energyExport).flatMap
        (Quantity.samples readingContext signedMeterValue powerMeter) := by
  cases present : powerMeter.energyWhExport <;>
    simp [pushPresent, pushEnergyExport, pushReading_eq, eachLine, Quantity.samples, reading, pick,
      sample_eq, measurand, unit, phase, Line.phase, present]

/-- The power adds its samples behind the others. -/
theorem pushPower_eq : pushPresent (pushPower readingContext) powerMeter.powerW before =
    before ++ (eachLine power).flatMap
      (Quantity.samples readingContext signedMeterValue powerMeter) := by
  cases present : powerMeter.powerW <;>
    simp [pushPresent, pushPower, pushReading_eq, eachLine, Quantity.samples, reading, pick,
      sample_eq, measurand, unit, phase, Line.phase, present]

/-- The reactive power adds its samples behind the others. -/
theorem pushReactivePower_eq :
    pushPresent (pushReactivePower readingContext) powerMeter.var before =
    before ++ (eachLine reactivePower).flatMap
      (Quantity.samples readingContext signedMeterValue powerMeter) := by
  cases present : powerMeter.var <;>
    simp [pushPresent, pushReactivePower, pushReading_eq, eachLine, Quantity.samples, reading, pick,
      sample_eq, measurand, unit, phase, Line.phase, present]

/-- The current adds its samples behind the others. -/
theorem pushCurrent_eq : pushPresent (pushCurrent readingContext) powerMeter.currentA before =
    before ++ [current .l1, current .l2, current .l3, currentDc, currentNeutral].flatMap
      (Quantity.samples readingContext signedMeterValue powerMeter) := by
  cases present : powerMeter.currentA <;>
    simp [pushPresent, pushCurrent, pushReading_eq, Quantity.samples, reading, pick, sample_eq,
      measurand, unit, phase, Line.phase, present]

/-- The voltage adds its samples behind the others. -/
theorem pushVoltage_eq : pushPresent (pushVoltage readingContext) powerMeter.voltageV before =
    before ++ [voltage .l1, voltage .l2, voltage .l3, voltageDc].flatMap
      (Quantity.samples readingContext signedMeterValue powerMeter) := by
  cases present : powerMeter.voltageV <;>
    simp [pushPresent, pushVoltage, pushReading_eq, Quantity.samples, reading, pick, sample_eq,
      measurand, unit, phase, Line.toNeutral, present]

variable (readingContext unixTime powerMeter signedMeterValue) in
/-- The samples of a message are those of the quantities that are converted. -/
theorem sampledValue_eq :
    (toOcppMeterValue readingContext unixTime powerMeter signedMeterValue).sampledValue =
      converted.flatMap (Quantity.samples readingContext signedMeterValue powerMeter) := by
  -- Each part of the conversion adds its samples behind those of the parts before it.
  simp only [toOcppMeterValue, converted, List.flatMap_append]
  rw [pushVoltage_eq, pushCurrent_eq, pushReactivePower_eq, pushPower_eq, pushEnergyExport_eq,
    pushEnergyImport_eq, List.nil_append]

end Samples

/-- What a sample is of. -/
def SampledValue.key {F : Type*} (s : SampledValue F) : Option Measurand × Option Phase :=
  (s.measurand, s.phase)

/-- A sample shows a reading, in the unit of its quantity. -/
def SampledValue.Shows {F : Type*} (s : SampledValue F) (q : Quantity) (value : F) : Prop :=
  s.key = q.key ∧ s.unitOfMeasure = some { unit := some q.unit } ∧ s.value = value

/--
The samples lose no reading of the meter and invent none.

Each reading is shown by one sample alone, and each sample shows a reading.
-/
structure Faithful {F : Type*} (readingContext : ReadingContextEnum)
    (signedMeterValue : Option SignedMeterValue) (powerMeter : Powermeter F)
    (samples : List (SampledValue F)) : Prop where
  complete : ∀ q value, q.reading powerMeter = some value →
    ∃ s, samples.filter (fun other => other.key = q.key) = [s] ∧ s.Shows q value
  sound : ∀ s ∈ samples, ∃ q value, q.reading powerMeter = some value ∧ s.Shows q value
  distinct : (samples.map SampledValue.key).Nodup
  context : ∀ s ∈ samples, s.context = some readingContext
  signature : ∀ s ∈ samples, s.signedMeterValue =
    if s.key = (energyImport none).key then signedMeterValue else none

section Faithfulness

variable {F : Type*} {readingContext : ReadingContextEnum} {unixTime : UInt32}
  {powerMeter : Powermeter F} {signedMeterValue : Option SignedMeterValue} {q : Quantity}
  {quantities : List Quantity}

theorem Line.phase_injective : Function.Injective Line.phase := by
  intro line other same
  cases line <;> cases other <;> first | rfl | cases same

theorem Line.toNeutral_injective : Function.Injective Line.toNeutral := by
  intro line other same
  cases line <;> cases other <;> first | rfl | cases same

/-- No two quantities have the same measurand and the same phase. -/
theorem key_injective : Function.Injective Quantity.key := by
  intro q other same
  obtain ⟨measurands, phases⟩ := Prod.mk.inj same
  have lines : ∀ {a b : Option Line}, a.map Line.phase = b.map Line.phase ↔ a = b :=
    (Option.map_injective Line.phase_injective).eq_iff
  have neutral : ∀ line : Line, line.phase ≠ .n := by
    intro line
    cases line <;> decide
  -- The measurands tell apart all but a few, which the phases tell apart.
  cases q <;> cases other <;> simp only [measurand, Option.some.injEq, reduceCtorEq] at measurands
  all_goals
    simp_all [phase, Line.phase_injective.eq_iff, Line.toNeutral_injective.eq_iff, eq_comm]

/-- Every quantity is converted, except the frequency. -/
theorem mem_converted : q ∈ converted ∨ ∃ line, q = frequency line := by
  cases q with
  | energyImport line | energyExport line | power line | reactivePower line =>
    rcases line with _ | _ | _ | _ <;> exact .inl (by decide)
  | current line | voltage line => cases line <;> exact .inl (by decide)
  | currentNeutral | currentDc | voltageDc => exact .inl (by decide)
  | frequency line => exact .inr ⟨line, rfl⟩

/-- Each quantity with a reading gives one key. -/
theorem keys_samples :
    (quantities.flatMap (Quantity.samples readingContext signedMeterValue powerMeter)).map
      SampledValue.key =
    (quantities.filter fun q => (q.reading powerMeter).isSome).map Quantity.key := by
  -- A quantity without a reading gives no sample, and is filtered out.
  induction quantities with
  | nil => rfl
  | cons q quantities ih =>
    rw [List.flatMap_cons, List.map_append, ih]
    cases reads : q.reading powerMeter with
    | none => simp [Quantity.samples, reads]
    | some value =>
      simp [Quantity.samples, reads, SampledValue.key, Quantity.key, Quantity.sample]

/-- Where no key occurs twice, a sample is alone with its key. -/
theorem filter_key {samples : List (SampledValue F)} {s : SampledValue F}
    (distinct : (samples.map SampledValue.key).Nodup) (member : s ∈ samples) :
    samples.filter (fun other => other.key = s.key) = [s] := by
  induction samples with
  | nil => cases member
  | cons first samples ih =>
    obtain ⟨fresh, distinct⟩ := List.nodup_cons.mp distinct
    rcases List.mem_cons.mp member with rfl | member
    · -- None of the others has the key of the first one.
      have none : samples.filter (fun other => other.key = s.key) = [] := by
        rw [List.filter_eq_nil_iff]
        intro other later same
        exact fresh (List.mem_map.mpr ⟨other, later, by simpa using same⟩)
      simp [none]
    · -- The first one has another key, as the keys are all different.
      have differs : first.key ≠ s.key := fun same =>
        fresh (List.mem_map.mpr ⟨s, member, same.symm⟩)
      simp [differs, ih distinct member]

/-- Only the total of the imported energy is signed. -/
theorem sample_signedMeterValue {value : F} :
    (q.sample readingContext signedMeterValue value).signedMeterValue =
      if (q.sample readingContext signedMeterValue value).key = (energyImport none).key then
        signedMeterValue else none := by
  have same : (q.sample readingContext signedMeterValue value).key = q.key := rfl
  rw [same]
  simp only [key_injective.eq_iff, Quantity.sample]

variable [Zero F]

/-- The samples of a message are those of the readings that are converted. -/
theorem mem_sampledValue {s : SampledValue F} :
    s ∈ (toOcppMeterValue readingContext unixTime powerMeter signedMeterValue).sampledValue ↔
      ∃ q ∈ converted, ∃ value, q.reading powerMeter = some value ∧
        q.sample readingContext signedMeterValue value = s := by
  simp [sampledValue_eq, Quantity.samples, Option.mem_toList]

/-- No two samples of a message have the same measurand and the same phase. -/
theorem keys_nodup :
    ((toOcppMeterValue readingContext unixTime powerMeter signedMeterValue).sampledValue.map
      SampledValue.key).Nodup := by
  -- Different quantities have different keys, and none is converted twice.
  have once : converted.Nodup := by decide
  rw [sampledValue_eq, keys_samples]
  exact (once.filter _).map key_injective

/-- The conversion is faithful exactly if there is no reading of the frequency. -/
theorem meter_values_faithful_iff (readingContext : ReadingContextEnum) (unixTime : UInt32)
    (powerMeter : Powermeter F) (signedMeterValue : Option SignedMeterValue) :
    Faithful readingContext signedMeterValue powerMeter
      (toOcppMeterValue readingContext unixTime powerMeter signedMeterValue).sampledValue ↔
    powerMeter.frequencyHz = none := by
  constructor
  · -- A frequency always has a reading of the first line, and no sample shows it.
    intro faithful
    by_contra present
    obtain ⟨readings, present⟩ := Option.ne_none_iff_exists'.mp present
    obtain ⟨s, alone, -⟩ := faithful.complete (frequency .l1) readings.l1
      (by simp [reading, present, pick])
    obtain ⟨member, key⟩ := List.mem_filter.mp (alone ▸ List.mem_singleton_self s)
    -- The sample that shows it would be that of a quantity that is converted.
    obtain ⟨q, isConverted, value, -, rfl⟩ := mem_sampledValue.mp member
    have same : q = frequency .l1 := key_injective (of_decide_eq_true key)
    rw [same] at isConverted
    exact absurd isConverted (by decide)
  · intro absent
    constructor
    · intro q value reads
      rcases @mem_converted q with isConverted | ⟨line, rfl⟩
      · -- The sample of the quantity is there, and no other has its key.
        have member : q.sample readingContext signedMeterValue value ∈ (toOcppMeterValue
            readingContext unixTime powerMeter signedMeterValue).sampledValue :=
          mem_sampledValue.mpr ⟨q, isConverted, value, reads, rfl⟩
        exact ⟨_, filter_key keys_nodup member, rfl, rfl, rfl⟩
      · -- There is no frequency to be shown.
        simp [reading, absent] at reads
    · intro s member
      obtain ⟨q, -, value, reads, rfl⟩ := mem_sampledValue.mp member
      exact ⟨q, value, reads, rfl, rfl, rfl⟩
    · exact keys_nodup
    · intro s member
      obtain ⟨q, -, value, -, rfl⟩ := mem_sampledValue.mp member
      rfl
    · intro s member
      obtain ⟨q, -, value, -, rfl⟩ := mem_sampledValue.mp member
      exact sample_signedMeterValue

end Faithfulness

/-- The frequency of 50 Hz that is read together with the energy is not reported. -/
theorem frequency_dropped : ¬ ∀ (readingContext : ReadingContextEnum) (unixTime : UInt32)
    (powerMeter : Powermeter ℚ) (signedMeterValue : Option SignedMeterValue),
    Faithful readingContext signedMeterValue powerMeter
      (toOcppMeterValue readingContext unixTime powerMeter signedMeterValue).sampledValue := by
  intro always
  obtain ⟨s, alone, -⟩ := (always .samplePeriodic 1704067200
    { timestamp := "", energyWhImport := ⟨1000, none, none, none⟩,
      frequencyHz := some ⟨50, none, none⟩ } none).complete (frequency .l1) 50 rfl
  exact absurd alone (by simp [toOcppMeterValue, pushEnergyImport, pushReading, pushPresent,
    toOcppSampledValue, SampledValue.key, Quantity.key, measurand])

end EasyEvse.Ocpp
