import SpatialSql.Error
import SpatialSql.Event

/-!
# Actions

Reading tokens, rendering arguments and changing a registry all have one shape:
an action starts in a state and ends in a state, with a value or an error, and
leaves events behind. An action that fails still has a state, what it did before
it failed, and still has its events. Sequencing stops at the first failure.
-/

namespace SpatialSql

/-- How an action ended. -/
structure Outcome (σ α : Type) where
  result : Except Error α
  state : σ
  events : List Event

/-- A computation on a state `σ` that may fail and that leaves events. -/
def Action (σ α : Type) : Type :=
  σ → Outcome σ α

namespace Action

variable {σ α β : Type}

/-- Runs `next` on the value that an action ended with; a failed action ends the
sequence. -/
def andThen (action : Action σ α) (next : α → Action σ β) : Action σ β :=
  fun s =>
  match action s with
  | ⟨.ok a, s', events⟩ =>
    ⟨(next a s').result, (next a s').state, events ++ (next a s').events⟩
  | ⟨.error e, s', events⟩ => ⟨.error e, s', events⟩

instance : Monad (Action σ) where
  pure a := fun s => ⟨.ok a, s, []⟩
  bind := andThen

/-- Fails, and changes nothing. -/
def fail (error : Error) : Action σ α := fun s =>
  ⟨.error error, s, []⟩

/-- Leaves one event. -/
def emit (event : Event) : Action σ Unit := fun s =>
  ⟨.ok (), s, [event]⟩

/-- Answers the state. -/
def state : Action σ σ := fun s =>
  ⟨.ok s, s, []⟩

/-- Puts another state in place of the present one. -/
def replace (s : σ) : Action σ Unit := fun _ =>
  ⟨.ok (), s, []⟩

/-- Answers what was computed, or fails as the computation did. -/
def ofExcept : Except Error α → Action σ α
  | .ok a => pure a
  | .error e => fail e

theorem pure_apply (a : α) (s : σ) :
    (pure a : Action σ α) s = ⟨.ok a, s, []⟩ := rfl

theorem bind_apply (action : Action σ α) (next : α → Action σ β) (s : σ) :
    (action >>= next) s =
      match action s with
      | ⟨.ok a, s', events⟩ =>
        ⟨(next a s').result, (next a s').state, events ++ (next a s').events⟩
      | ⟨.error e, s', events⟩ => ⟨.error e, s', events⟩ := rfl

theorem bind_pure_apply (action : Action σ α) (s : σ) :
    (action >>= pure) s = action s := by
  rw [bind_apply]
  rcases action s with ⟨_ | _, s', events⟩ <;> simp [pure_apply]

theorem pure_bind_apply (a : α) (next : α → Action σ β) (s : σ) :
    ((pure a : Action σ α) >>= next) s = next a s := by
  simp [bind_apply, pure_apply]

theorem bind_bind_apply {γ : Type} (action : Action σ α) (next : α → Action σ β)
    (last : β → Action σ γ) (s : σ) :
    (action >>= next >>= last) s = (action >>= fun a => next a >>= last) s := by
  simp only [bind_apply]
  rcases action s with ⟨_ | a, s', events⟩
  · rfl
  · rcases h : next a s' with ⟨_ | b, s'', events'⟩ <;> simp [h]

instance : LawfulMonad (Action σ) :=
  .mk' _ (fun action => funext (bind_pure_apply action))
    (fun a next => funext (pure_bind_apply a next))
    (fun action next last => funext (bind_bind_apply action next last))

end Action

end SpatialSql
