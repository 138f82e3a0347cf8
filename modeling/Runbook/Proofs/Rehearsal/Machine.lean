import Runbook.Rehearsal.Machine
import Runbook.Store.Directory

/-!
# Stores on rehearsed machines

What a computation of a store comes to on a machine is what its parts come to
in turn, each on the machine that the one before it leaves.  After a refusal
nothing is done.
-/

namespace Runbook

namespace Rehearsal.Machine

variable {α β : Type} {machine middle after : Machine} {folder path : String}

theorem run_bind (program : Hosted α) (next : α → Hosted β)
    (machine : Machine) :
    machine.run (program.bind next) =
      (machine.run program).2.run (next (machine.run program).1) := by
  induction program generalizing machine with
  | done value => rfl
  | ask question rest ih => exact ih _ _

/-! ### Computations of stores -/

open DirectoryStore (Stored)

variable {first : Stored α} {next : α → Stored β} {value : α} {last : β}
  {error : StoreError}

theorem run_stored_bind (first : Stored α) (next : α → Stored β)
    (machine : Machine) :
    machine.run (first >>= next).run =
      match machine.run first.run with
      | (.ok value, middle) => middle.run (next value).run
      | (.error error, middle) => (.error error, middle) := by
  refine (run_bind first.run _ machine).trans ?_
  obtain ⟨result, middle⟩ := machine.run first.run
  cases result <;> rfl

theorem run_bind_of_ok (done : machine.run first.run = (.ok value, middle)) :
    machine.run (first >>= next).run = middle.run (next value).run := by
  rw [run_stored_bind, done]

theorem run_bind_of_error
    (refused : machine.run first.run = (.error error, middle)) :
    machine.run (first >>= next).run = (.error error, middle) := by
  rw [run_stored_bind, refused]

theorem run_bind_eq_ok_iff :
    machine.run (first >>= next).run = (.ok last, after) ↔
      ∃ value middle, machine.run first.run = (.ok value, middle) ∧
        middle.run (next value).run = (.ok last, after) := by
  rw [run_stored_bind]
  obtain ⟨result, middle⟩ := machine.run first.run
  cases result with
  | error error => simp
  | ok value =>
      constructor
      · exact fun rest => ⟨value, middle, rfl, rest⟩
      · rintro ⟨_, _, ⟨⟩, rest⟩
        exact rest

@[simp]
theorem run_pure (value : α) (machine : Machine) :
    machine.run (pure value : Stored α).run = (.ok value, machine) :=
  rfl

@[simp]
theorem run_throw (error : StoreError) (machine : Machine) :
    machine.run (throw error : Stored α).run = (.error error, machine) :=
  rfl

@[simp]
theorem run_ask (question : Host.Question) (machine : Machine) :
    machine.run (DirectoryStore.ask question).run =
      (.ok (machine.answer question).1, (machine.answer question).2) :=
  rfl

@[simp]
theorem run_orRefuse (context : Option String)
    (attempt : Except SystemError α) (machine : Machine) :
    machine.run (DirectoryStore.orRefuse context attempt).run =
      (attempt.mapError (.system context), machine) := by
  cases attempt <;> rfl

@[simp]
theorem run_liftExcept (attempt : Except StoreError α) (machine : Machine) :
    machine.run (liftM attempt : Stored α).run = (attempt, machine) := by
  cases attempt <;> rfl

/-- The text of a file, as a machine reads it. -/
def text (machine : Machine) (path : String) : Except SystemError String :=
  match machine.disk.load machine.folder path with
  | .error error => .error error
  | .ok bytes =>
    match Text.ofBytes? bytes with
    | some text => .ok text
    | none => .error .notText

@[simp]
theorem run_loadText (path : String) (machine : Machine) :
    machine.run (ExceptT.lift (Hosted.loadText path) : Stored _).run =
      (.ok (machine.text path), machine) := by
  have loaded : machine.run (Hosted.loadText path) =
      (machine.text path, machine) := by
    unfold text
    refine (run_bind (Hosted.ask (.load path)) _ machine).trans ?_
    have asked : machine.run (Hosted.ask (.load path)) =
        (machine.disk.load machine.folder path, machine) := rfl
    rw [asked]
    dsimp only
    cases machine.disk.load machine.folder path with
    | error error => rfl
    | ok bytes =>
        dsimp only
        cases Text.ofBytes? bytes <;> rfl
  refine (run_bind (Hosted.loadText path) _ machine).trans ?_
  rw [loaded]
  rfl

end Rehearsal.Machine

end Runbook
