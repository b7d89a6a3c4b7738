import EasyEvse.Threads.Wakeups

/-! A worker that waits until there is something to do, and the tasks that give it work. -/

namespace EasyEvse.Threads

open Transition

/-- The data under a mutex: how it changes, when there is work, and who is told of a change. -/
structure Program (δ ι : Type) where
  change : Step δ ι
  /-- The condition that the worker waits for. -/
  ready : δ → Bool
  /-- The notification that a change goes with: none, a signal or a broadcast. -/
  notice : δ → ι → Option Bool
  /-- The changes that are made with the mutex locked. -/
  locked : ι → Bool
  /-- The changes that only the worker makes. -/
  byWorker : ι → Bool

/-- The data, the condition variable, and the notifications that tasks have yet to begin. -/
structure Monitor (τ δ : Type) where
  cond : ConditionVariable τ := {}
  data : δ
  owes : τ → Option Bool := fun _ => none

/-- What happens at a monitor. -/
inductive Act (τ ι : Type)
  | change (t : τ) (i : ι)
  /-- The worker finds that there is nothing to do, and waits. -/
  | wait (timed : Bool)
  | notify (t : τ)
  /-- Anything else at the condition variable. -/
  | move (move : Move τ)
  deriving DecidableEq, Repr

/-- The statements of the waits before a task is on the list. -/
def Place.Entering {τ : Type} : Place τ → Prop
  | .registering _ | .pushing _ => True
  | _ => False

instance {τ : Type} : DecidablePred (@Place.Entering τ)
  | .registering _ | .pushing _ => isTrue trivial
  | .outside | .pushed _ | .releasing _ | .sleeping _ | .relocking _ | .cancelling | .removing
  | .removed | .notifying _ | .looking _ | .giving _ _ | .notified => isFalse id

/-- What is left to the tasks at any time: to lock, to unlock and to go on. -/
def Move.Free {τ : Type} : Move τ → Bool
  | .wait _ _ | .notify _ _ => false
  | _ => true

namespace Monitor

variable {τ δ ι : Type} [DecidableEq τ]

/-- The tasks take turns: the worker waits for work, and the others change the data. -/
def step (p : Program δ ι) (worker : τ) : Step (Monitor τ δ) (Act τ ι) := fun m act =>
  match act with
  | .change t i =>
    -- A task that still has to notify somebody does not change anything meanwhile.
    if m.cond.place t = .outside ∧ m.owes t = none ∧ (p.locked i → m.cond.mutexOwner = some t) ∧
        (p.byWorker i → t = worker) then
      (p.change m.data i).map fun data =>
        { m with data, owes := Function.update m.owes t (p.notice m.data i) }
    else none
  -- The worker looks at the data before it waits, and waits only without work.
  | .wait timed =>
    if p.ready m.data = false then
      (m.cond.step (.wait worker timed)).map fun cond => { m with cond }
    else none
  | .notify t =>
    (m.owes t).bind fun all => (m.cond.step (.notify t all)).map fun cond =>
      { m with cond, owes := Function.update m.owes t none }
  | .move move =>
    if move.Free then (m.cond.step move).map fun cond => { m with cond } else none

/-- Nobody has done anything yet. -/
def created (data : δ) : Monitor τ δ := { data }

/-- A task has yet to notify somebody, or is doing it. -/
def Stirring (m : Monitor τ δ) : Prop :=
  ∃ u, m.owes u ≠ none ∨ (m.cond.place u).Underway

/-- The worker waits on the list, and has not been notified. -/
def Asleep (worker : τ) (m : Monitor τ δ) : Prop :=
  (m.cond.place worker).Registered ∧ m.cond.ulNotifiedValue worker = 0

/-- What makes work for the worker is told, and does not happen while it is about to wait. -/
def Careful (p : Program δ ι) (worker : τ) (m : Monitor τ δ) : Act τ ι → Prop
  | .change t i => t ≠ worker → p.ready m.data = false → ∀ next ∈ p.change m.data i,
    p.ready next = true → p.notice m.data i ≠ none ∧
      (p.locked i = false → ¬ (m.cond.place worker).Entering)
  | _ => True

/-- Some changes are not made while the worker is about to wait. -/
def Aside (risky : ι → Bool) (worker : τ) (m : Monitor τ δ) : Act τ ι → Prop
  | .change _ i => risky i = true → ¬ (m.cond.place worker).Entering
  | _ => True

instance {risky : ι → Bool} {worker : τ} {m : Monitor τ δ} :
    DecidablePred (Aside risky worker m) := fun act => by
  cases act <;> unfold Aside <;> infer_instance

end Monitor

namespace ConditionVariable

variable {τ : Type} [DecidableEq τ] {c d : ConditionVariable τ} {move : Move τ} {worker : τ}

/-- Nobody else waits, or is notified. -/
structure Alone (worker : τ) (c : ConditionVariable τ) : Prop where
  waits : ∀ t, (c.place t).HoldsMutex ∨ (c.place t).GaveMutexUp → t = worker
  queue : ∀ t ∈ c.queue, t = worker
  giving : ∀ u all t, c.place u = .giving all t → t = worker

omit [DecidableEq τ] in
theorem alone_created : Alone worker (created (τ := τ)) where
  waits t waits := by simp [created, Place.HoldsMutex, Place.GaveMutexUp] at waits
  queue t member := by simp [created] at member
  giving u all t giving := by simp [created] at giving

/-- The worker stays alone as long as nobody else begins to wait. -/
theorem Does.alone (does : Does c move d) (alone : Alone worker c)
    (waiter : ∀ t timed, move = .wait t timed → t = worker) : Alone worker d := by
  have waits := alone.waits
  have queue := alone.queue
  have giving := alone.giving
  constructor
  · cases does <;> grind [Place.HoldsMutex, Place.GaveMutexUp]
  · cases does <;> grind [Place.HoldsMutex, Place.GaveMutexUp]
  · cases does with
    | @pop _ front _ _ _ queued =>
      -- Who is picked was on the list.
      have picked := queue front (by simp [queued])
      grind
    | _ => grind

/-- A notification under way reaches the worker, or is still under way after a statement. -/
theorem Does.underway {u : τ} (does : Does c move d) (locked : Locked c) (listed : Listed c)
    (alone : Alone worker c) (underway : (c.place u).Underway)
    (registered : (d.place worker).Registered) (untold : d.ulNotifiedValue worker = 0) :
    (d.place u).Underway := by
  cases does with
  | @nobody other all place empty =>
    -- Who finds the list empty would have notified the worker.
    have told : u ≠ other := by
      rintro rfl
      have holds : (c.place u).HoldsList := by rw [place]; trivial
      have still : (c.place worker).Registered := by
        by_cases same : worker = u
        · subst same
          simp [Place.Registered] at registered
        · simpa [same] using registered
      have := listed.all_notified locked holds (by simp [place]) empty still
      simp only [goto_ulNotifiedValue] at untold
      omega
    simpa [told] using underway
  -- Every other statement goes on with the notification, or completes it.
  | _ => grind [Place.Underway, Place.Registered, Alone]

/-- What the worker waits with when it comes to the list. -/
theorem Does.asleep (does : Does c move d) (registered : (d.place worker).Registered)
    (untold : d.ulNotifiedValue worker = 0) :
    (c.place worker).Registered ∧ c.ulNotifiedValue worker = 0 ∨ (c.place worker).Entering := by
  -- One case for each statement: a task registers from the statement before the list.
  cases does <;> grind [Place.Registered, Place.Entering]

end ConditionVariable

namespace Monitor

open ConditionVariable

variable {τ δ ι : Type} [DecidableEq τ] {p : Program δ ι} {worker : τ} {m n : Monitor τ δ}
  {act : Act τ ι} {acts : List (Act τ ι)}

/-- Everything that can happen at a monitor, with what it asks for and what it does. -/
inductive Does (p : Program δ ι) (worker : τ) (m : Monitor τ δ) :
    Act τ ι → Monitor τ δ → Prop
  | change {t : τ} {i : ι} {data : δ} (place : m.cond.place t = .outside) (free : m.owes t = none)
    (locked : p.locked i → m.cond.mutexOwner = some t) (mine : p.byWorker i → t = worker)
    (changed : p.change m.data i = some data) :
    Does p worker m (.change t i)
      { m with data, owes := Function.update m.owes t (p.notice m.data i) }
  | wait {timed : Bool} {cond : ConditionVariable τ} (idle : p.ready m.data = false)
    (does : ConditionVariable.Does m.cond (.wait worker timed) cond) :
    Does p worker m (.wait timed) { m with cond }
  | notify {t : τ} {all : Bool} {cond : ConditionVariable τ} (owed : m.owes t = some all)
    (does : ConditionVariable.Does m.cond (.notify t all) cond) :
    Does p worker m (.notify t) { m with cond, owes := Function.update m.owes t none }
  | move {move : Move τ} {cond : ConditionVariable τ} (free : move.Free)
    (does : ConditionVariable.Does m.cond move cond) : Does p worker m (.move move) { m with cond }

/-- Whatever happens is one of the above. -/
theorem step_does (moved : step p worker m act = some n) : Does p worker m act n := by
  -- One case for each act, with what it asks for.
  cases act with
  | change t i =>
    obtain ⟨⟨place, free, locked, mine⟩, data, changed, rfl⟩ :
        (m.cond.place t = .outside ∧ m.owes t = none ∧
          (p.locked i → m.cond.mutexOwner = some t) ∧ (p.byWorker i → t = worker)) ∧
        ∃ data, p.change m.data i = some data ∧
          { m with data, owes := Function.update m.owes t (p.notice m.data i) } = n := by
      simpa [step] using moved
    exact .change place free locked mine changed
  | wait timed =>
    obtain ⟨idle, cond, went, rfl⟩ : p.ready m.data = false ∧
        ∃ cond, m.cond.step (.wait worker timed) = some cond ∧ { m with cond } = n := by
      simpa [step] using moved
    exact .wait idle (ConditionVariable.step_does went)
  | notify t =>
    obtain ⟨all, owed, cond, went, rfl⟩ : ∃ all, m.owes t = some all ∧
        ∃ cond, m.cond.step (.notify t all) = some cond ∧
          { m with cond, owes := Function.update m.owes t none } = n := by
      simpa [step, Option.bind_eq_some_iff] using moved
    exact .notify owed (ConditionVariable.step_does went)
  | move move =>
    obtain ⟨free, cond, went, rfl⟩ : move.Free = true ∧
        ∃ cond, m.cond.step move = some cond ∧ { m with cond } = n := by
      simpa [step] using moved
    exact .move free (ConditionVariable.step_does went)

/-- The worker waits without work, or somebody is about to tell it that there is some. -/
structure Watched (p : Program δ ι) (worker : τ) (m : Monitor τ δ) : Prop where
  locked : Locked m.cond
  listed : Listed m.cond
  alone : Alone worker m.cond
  entering : (m.cond.place worker).Entering → p.ready m.data = false
  asleep : m.Asleep worker → p.ready m.data = true → m.Stirring

omit [DecidableEq τ] in
theorem watched_created (data : δ) : Watched p worker (created data) where
  locked := locked_created
  listed t registered := by simp [created, Place.Registered] at registered
  alone := alone_created
  entering entering := by simp [created, Place.Entering] at entering
  asleep asleep := by simp [created, Asleep, Place.Registered] at asleep

/-- A change is told to the worker, unless that is not about to sleep through it. -/
theorem Watched.change {t : τ} {i : ι} {data : δ} (watched : Watched p worker m)
    (careful : Careful p worker m (.change t i)) (place : m.cond.place t = .outside)
    (free : m.owes t = none) (locked : p.locked i → m.cond.mutexOwner = some t)
    (changed : p.change m.data i = some data) :
    Watched p worker { m with data, owes := Function.update m.owes t (p.notice m.data i) } where
  locked := watched.locked
  listed := watched.listed
  alone := watched.alone
  entering entering := by
    -- The worker holds the mutex, so that the change was made without it.
    by_contra ready
    have other : t ≠ worker := by
      rintro rfl
      simp [place, Place.Entering] at entering
    have unlocked : p.locked i = false := by
      by_contra held
      have mine := locked (by simpa using held)
      have held := watched.locked.mutex worker (by
        cases at' : m.cond.place worker <;> simp_all [Place.Entering, Place.HoldsMutex])
      exact other (Option.some.inj (mine.symm.trans held))
    exact (careful other (watched.entering entering) data changed (by simpa using ready)).2
      unlocked entering
  asleep asleep ready := by
    have other : t ≠ worker := by
      rintro rfl
      simp [Asleep, place, Place.Registered] at asleep
    -- There was no work before, or there was.
    cases before : p.ready m.data with
    | false =>
      have told := (careful other before data changed ready).1
      exact ⟨t, .inl (by simpa using told)⟩
    | true =>
      -- Somebody was stirring already, and it is not the task that made this change.
      obtain ⟨u, stirring⟩ := watched.asleep asleep before
      have different : u ≠ t := by
        rintro rfl
        simp [free, place, Place.Underway] at stirring
      exact ⟨u, by simpa [different] using stirring⟩

/-- What the tasks do at the condition variable keeps the worker watched. -/
theorem Watched.moved {move : Move τ} {cond : ConditionVariable τ} {owes : τ → Option Bool}
    (watched : Watched p worker m) (does : ConditionVariable.Does m.cond move cond)
    (waiter : ∀ t timed, move = .wait t timed → t = worker)
    (idle : (cond.place worker).Entering → p.ready m.data = false)
    (debts : ∀ u, m.owes u ≠ none → owes u ≠ none ∨ (cond.place u).Underway) :
    Watched p worker { m with cond, owes } where
  locked := does.locked watched.locked
  listed := does.listed watched.listed
  alone := does.alone watched.alone waiter
  entering := idle
  asleep asleep ready := by
    -- The worker slept before, or it has just come to the list.
    rcases does.asleep asleep.1 asleep.2 with still | entering
    · obtain ⟨u, owed | underway⟩ := watched.asleep still ready
      · exact ⟨u, debts u owed⟩
      · exact ⟨u, .inr (does.underway watched.locked watched.listed watched.alone underway
          asleep.1 asleep.2)⟩
    · -- A worker that has just come to the list found nothing to do.
      rw [watched.entering entering] at ready
      cases ready

/-- Whatever happens keeps the worker watched, as long as the others are careful. -/
theorem Does.watched (does : Does p worker m act n) (watched : Watched p worker m)
    (careful : Careful p worker m act) : Watched p worker n := by
  -- One case for each act: a change of the data, or a statement at the condition variable.
  cases does with
  | change place free locked mine changed =>
    exact watched.change careful place free locked changed
  | wait idle does => exact watched.moved does (by grind) (fun _ => idle) (fun _ => .inl)
  | @notify t all cond owed does =>
    -- A task that begins to notify is not the worker that begins to wait.
    refine watched.moved does (by simp) ?_ ?_
    · intro entering
      refine watched.entering ?_
      cases does
      grind [Place.Entering]
    · intro u owed
      by_cases same : u = t
      · -- The debt is paid by the notification that begins now.
        subst same
        cases does
        exact .inr (by simp [Place.Underway])
      · exact .inl (by simpa [same] using owed)
  | move free does =>
    refine watched.moved does (by rintro t timed rfl; simp [Move.Free] at free) ?_ (fun _ => .inl)
    intro entering
    -- Nobody begins to wait with any other move.
    refine watched.entering ?_
    cases does <;> grind [Place.Entering, Move.Free]

/-- All changes that make work are told, and those made without the mutex are kept aside. -/
def Told (p : Program δ ι) (risky : ι → Bool) : Prop :=
  ∀ data i next, p.ready data = false → p.change data i = some next → p.ready next = true →
    p.notice data i ≠ none ∧ (p.locked i = false → risky i = true)

omit [DecidableEq τ] in
/-- Tasks that keep the risky changes aside are careful. -/
theorem Told.careful {risky : ι → Bool} (told : Told p risky) (aside : Aside risky worker m act) :
    Careful p worker m act := by
  -- Only a change of the data can be careless.
  cases act with
  | change t i =>
    intro other idle next moved work
    obtain ⟨notice, unlocked⟩ := told m.data i next idle moved work
    exact ⟨notice, fun without => aside (unlocked without)⟩
  | _ => trivial

/-- A worker that sleeps has nothing to do, or somebody is about to wake it. -/
theorem Told.woken {risky : ι → Bool} {data : δ} (told : Told p risky)
    (aside : Meets (Aside risky worker) (step p worker) (created data) acts)
    (ran : run (step p worker) (created data) acts = some m) (asleep : m.Asleep worker)
    (work : p.ready m.data = true) : m.Stirring := by
  -- The worker is watched in every state of the run.
  have watched := @run_guarded_invariant _ _ _ _ _ _ (fun s => Watched p worker s) _
    (fun kept allowed moved => (step_does moved).watched kept (told.careful allowed))
    (watched_created data) aside ran
  exact watched.asleep asleep work

end Monitor

end EasyEvse.Threads
