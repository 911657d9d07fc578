import Mathlib
import Catalogue.Proofs.Service

/-!
Loads of one service that run at the same time. Each looks for a kept document, then reads the file,
and then stores what it read, and between these steps anything may happen: to the file, or in other
loads. A document that is held can be replaced only by a load that had found none and was on its way
already; one that is held while no load is on its way is held for good.
-/

namespace Catalogue

inductive LoadPhase where
  | idle
  /-- No document was kept, and the file is still to be read. -/
  | checked
  /-- The file was read, and the result is still to be stored. -/
  | read (result : Except LoadFailure Document)
  | done (result : Except LoadFailure Document)

namespace LoadPhase

def IsUnderway : LoadPhase → Prop
  | checked | read _ => True
  | idle | done _ => False

end LoadPhase

structure Loads where
  service : Service
  system : FileSystem
  phase : Nat → LoadPhase

inductive LoadEvent where
  | change (system : FileSystem)
  | check (load : Nat)
  | read (load : Nat)
  | finish (load : Nat)

namespace Loads

def opening (service : Service) (system : FileSystem) : Loads :=
  ⟨service, system, fun _ => .idle⟩

def setPhase (loads : Loads) (load : Nat) (phase : LoadPhase) : Loads :=
  { loads with phase := Function.update loads.phase load phase }

/-- What an event makes of the loads. An event that is not next for its load changes nothing. -/
def step (loads : Loads) : LoadEvent → Loads
  | .change system => { loads with system }
  | .check load =>
    match loads.phase load, loads.service.kept with
    | .idle, some document => loads.setPhase load (.done (.ok document))
    | .idle, none => loads.setPhase load .checked
    | _, _ => loads
  | .read load =>
    match loads.phase load with
    | .checked => loads.setPhase load (.read (Document.load loads.system loads.service.path))
    | _ => loads
  | .finish load =>
    match loads.phase load with
    | .read (.ok document) =>
      { loads.setPhase load (.done (.ok document)) with service := loads.service.store document }
    | .read (.error failure) => loads.setPhase load (.done (.error failure))
    | _ => loads

def run (loads : Loads) (events : List LoadEvent) : Loads := events.foldl step loads

variable {loads : Loads} {event : LoadEvent} {load : Nat} {document : Document}

@[simp] theorem setPhase_same (loads : Loads) (load : Nat) (phase : LoadPhase) :
    (loads.setPhase load phase).phase load = phase :=
  Function.update_self ..

theorem setPhase_other {other : Nat} (different : other ≠ load) (loads : Loads)
    (phase : LoadPhase) : (loads.setPhase load phase).phase other = loads.phase other :=
  Function.update_of_ne different ..

theorem run_alone (idle : loads.phase load = .idle) :
    let after := loads.run [.check load, .read load, .finish load]
    after.service = (loads.service.load loads.system).1 ∧
      after.phase load = .done (loads.service.load loads.system).2 := by
  cases kept : loads.service.kept with
  | some document =>
      rw [Service.load_of_kept kept]
      simp [run, step, setPhase, idle, kept]
  | none =>
      cases result : Document.load loads.system loads.service.path with
      | ok document =>
          rw [Service.load_of_loaded kept result]
          simp [run, step, setPhase, idle, kept, result]
      | error failure =>
          rw [Service.load_of_failed kept result]
          simp [run, step, setPhase, idle, kept, result]

inductive Leads (loads : Loads) : Loads → Prop
  | still : Leads loads loads
  | change (system : FileSystem) : Leads loads { loads with system }
  | hit {load : Nat} {document : Document} : loads.phase load = .idle →
      loads.service.kept = some document → Leads loads (loads.setPhase load (.done (.ok document)))
  | miss {load : Nat} : loads.phase load = .idle → loads.service.kept = none →
      Leads loads (loads.setPhase load .checked)
  | read {load : Nat} : loads.phase load = .checked →
      Leads loads (loads.setPhase load (.read (Document.load loads.system loads.service.path)))
  | store {load : Nat} {document : Document} : loads.phase load = .read (.ok document) →
      Leads loads
        { loads.setPhase load (.done (.ok document)) with service := loads.service.store document }
  | fail {load : Nat} {failure : LoadFailure} : loads.phase load = .read (.error failure) →
      Leads loads (loads.setPhase load (.done (.error failure)))

theorem leads_step (loads : Loads) (event : LoadEvent) : Leads loads (loads.step event) := by
  cases event with
  | change system => exact Leads.change system
  | check load =>
      rw [step]
      split
      · exact Leads.hit ‹_› ‹_›
      · exact Leads.miss ‹_› ‹_›
      · exact Leads.still
  | read load =>
      rw [step]
      split
      · exact Leads.read ‹_›
      · exact Leads.still
  | finish load =>
      rw [step]
      split
      · exact Leads.store ‹_›
      · exact Leads.fail ‹_›
      · exact Leads.still

/-! Documents that are held -/

theorem setPhase_done {other : Nat} {result : Except LoadFailure Document} {phase : LoadPhase}
    (pending : ∀ result, loads.phase load ≠ .done result)
    (done : loads.phase other = .done result) :
    (loads.setPhase load phase).phase other = .done result := by
  have different : other ≠ load := by
    rintro rfl
    exact pending result done
  rw [setPhase_other different, done]

/-- A document that was held at the start, or that a load stored which was underway then. -/
def Came (start : Loads) (held : Document) (loads : Loads) (document : Document) : Prop :=
  document = held ∨
    ∃ load, (start.phase load).IsUnderway ∧ loads.phase load = .done (.ok document)

variable {start : Loads} {held : Document} {phase : LoadPhase}

theorem Came.setPhase (came : Came start held loads document)
    (pending : ∀ result, loads.phase load ≠ .done result) :
    Came start held (loads.setPhase load phase) document :=
  came.imp id fun ⟨other, underway, done⟩ => ⟨other, underway, setPhase_done pending done⟩

structure Follows (start : Loads) (held : Document) (loads : Loads) : Prop where
  kept : ∃ document, loads.service.kept = some document ∧ Came start held loads document
  underway : ∀ load, (loads.phase load).IsUnderway → (start.phase load).IsUnderway
  later : ∀ load result, start.phase load = .idle → loads.phase load = .done result →
    ∃ document, result = .ok document ∧ Came start held loads document

theorem Follows.refl (kept : start.service.kept = some held) : Follows start held start where
  kept := ⟨held, kept, Or.inl rfl⟩
  underway _ underway := underway
  later load result idle done := by
    rw [idle] at done
    exact absurd done nofun

theorem Follows.setPhase (follows : Follows start held loads)
    (pending : ∀ result, loads.phase load ≠ .done result)
    (underway : phase.IsUnderway → (start.phase load).IsUnderway)
    (later : ∀ result, start.phase load = .idle → phase = .done result →
      ∃ document, result = .ok document ∧ Came start held loads document) :
    Follows start held (loads.setPhase load phase) where
  kept := by
    obtain ⟨document, kept, came⟩ := follows.kept
    exact ⟨document, kept, came.setPhase pending⟩
  underway other is := by
    by_cases same : other = load
    · subst same
      rw [setPhase_same] at is
      exact underway is
    · rw [setPhase_other same] at is
      exact follows.underway other is
  later other result idle done := by
    obtain ⟨document, shape, came⟩ : ∃ document, result = .ok document ∧
        Came start held loads document := by
      by_cases same : other = load
      · subst same
        rw [setPhase_same] at done
        exact later result idle done
      · rw [setPhase_other same] at done
        exact follows.later other result idle done
    exact ⟨document, shape, came.setPhase pending⟩

theorem Follows.leads {next : Loads} (follows : Follows start held loads)
    (leads : Leads loads next) : Follows start held next := by
  have pending {load : Nat} {phase : LoadPhase} (shape : loads.phase load = phase)
      (other : ∀ result, phase ≠ .done result) : ∀ result, loads.phase load ≠ .done result :=
    fun result done => other result (shape.symm.trans done)
  have notIdle {load : Nat} {phase : LoadPhase} (shape : loads.phase load = phase)
      (is : phase.IsUnderway) : (start.phase load).IsUnderway :=
    follows.underway load (shape ▸ is)
  obtain ⟨current, kept, came⟩ := follows.kept
  cases leads with
  | still => exact follows
  | change system => exact ⟨follows.kept, follows.underway, follows.later⟩
  | hit idle found =>
      obtain rfl := Option.some.inj (kept.symm.trans found)
      exact follows.setPhase (pending idle nofun) False.elim
        fun result _ done => ⟨current, (LoadPhase.done.inj done).symm, came⟩
  | miss _ nothing => exact absurd (kept.symm.trans nothing) nofun
  | read checked =>
      exact follows.setPhase (pending checked nofun) (fun _ => notIdle checked trivial) nofun
  | @store load document read =>
      -- Only here another document is held, and the load was underway at the start.
      have underway := notIdle read trivial
      have phases : Follows start held (loads.setPhase load (.done (.ok document))) :=
        follows.setPhase (pending read nofun) False.elim fun result idle _ => by
          rw [idle] at underway
          exact underway.elim
      refine ⟨?_, phases.underway, phases.later⟩
      cases keeps : loads.service.keepsDocument with
      | true =>
          rw [Service.store_of_keeps keeps]
          exact ⟨document, rfl, Or.inr ⟨load, underway, setPhase_same ..⟩⟩
      | false =>
          rw [Service.store_of_not_keeps keeps]
          exact phases.kept
  | fail read =>
      have underway := notIdle read trivial
      exact follows.setPhase (pending read nofun) False.elim fun result idle _ => by
        rw [idle] at underway
        exact underway.elim

theorem Follows.run (follows : Follows start held loads) (events : List LoadEvent) :
    Follows start held (loads.run events) := by
  induction events generalizing loads with
  | nil => exact follows
  | cons event events ih => exact ih (follows.leads (leads_step loads event))

/-- From the moment a document is held, one is always held, and only a load that was underway then
can put another in its place. If none was, the document is held for good, and answers every load
that begins later. -/
theorem held_for_good (start : Loads) (held : Document)
    (kept : start.service.kept = some held) (events : List LoadEvent) :
    (∃ document, (start.run events).service.kept = some document ∧
      (document = held ∨ ∃ load, (start.phase load).IsUnderway ∧
        (start.run events).phase load = .done (.ok document))) ∧
    ((∀ load, ¬ (start.phase load).IsUnderway) →
      (start.run events).service.kept = some held ∧
      ∀ load result, start.phase load = .idle →
        (start.run events).phase load = .done result → result = .ok held) := by
  have follows := (Follows.refl kept).run events
  refine ⟨follows.kept, fun settled => ?_⟩
  have only {document : Document} (came : Came start held (start.run events) document) :
      document = held :=
    came.resolve_right fun ⟨load, underway, _⟩ => settled load underway
  obtain ⟨document, stays, came⟩ := follows.kept
  refine ⟨only came ▸ stays, fun load result idle done => ?_⟩
  obtain ⟨answer, shape, came⟩ := follows.later load result idle done
  rw [shape, only came]

theorem held_for_good_deleted :
    let start := (opening (Service.create ⟨.slash, ["p"]⟩ true)
      ⟨[([[0x70]], .file [0x5B, 0x5D])]⟩).run [.check 0, .read 0, .finish 0]
    let later := start.run [.change .empty, .check 1, .read 1, .finish 1]
    later.service.kept = some [] ∧ later.phase 1 = .done (.ok []) := by
  intro start later
  have settled (load : Nat) : ¬ (start.phase load).IsUnderway := by
    cases load <;> exact id
  obtain ⟨kept, answers⟩ :=
    (held_for_good start [] rfl [.change .empty, .check 1, .read 1, .finish 1]).2 settled
  have done : later.phase 1 = .done (.ok []) := rfl
  exact ⟨kept, done.trans (congrArg LoadPhase.done (answers 1 _ rfl done))⟩

/-- Two loads find no document; one reads `[]` and the other, after the file has changed, `[{}]`.
The first to finish stores its document, which answers one load, and the second puts its own in the
place of it, which answers another. Both of these loads began after the first store. -/
theorem replaced_by_load_underway :
    let stored := (opening (Service.create ⟨.slash, ["p"]⟩ true)
      ⟨[([[0x70]], .file [0x5B, 0x5D])]⟩).run
        [.check 0, .check 1, .read 0, .change ⟨[([[0x70]], .file [0x5B, 0x7B, 0x7D, 0x5D])]⟩,
          .read 1, .finish 0]
    let later := stored.run [.check 2, .finish 1, .check 3]
    stored.service.kept = some [] ∧ later.service.kept = some [⟨[]⟩] ∧
      stored.phase 2 = .idle ∧ stored.phase 3 = .idle ∧
      later.phase 2 = .done (.ok []) ∧ later.phase 3 = .done (.ok [⟨[]⟩]) :=
  ⟨rfl, rfl, rfl, rfl, rfl, rfl⟩

end Loads

end Catalogue
