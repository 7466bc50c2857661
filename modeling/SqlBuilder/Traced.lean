import SqlBuilder.Condition.Basic
import SqlBuilder.Error
import SqlBuilder.Identifier

/-!
Results with the notes that were made on the way to them. A failure keeps the notes made before
it.
-/

namespace SqlBuilder

inductive Level where
  | warn
  | info
  | debug
deriving Repr, DecidableEq

def Level.word : Level → String
  | warn => "WARN"
  | info => "INFO"
  | debug => "DEBUG"

/-- Something that a user may want to know about a result. -/
inductive Note where
  | ignoredJoinOption (option : String)
  | droppedGroup (glue : Glue)
  | droppedNotIn (column : ColumnName)
  | inferredOn (left right : ColumnName) (table owner : String)
  | loadedSchema (tables : Nat) (path : String)
  | loadedConfig (path : String)
deriving Repr, DecidableEq

namespace Note

def level : Note → Level
  | ignoredJoinOption _ => .warn
  | loadedSchema _ _ => .info
  | _ => .debug

def message : Note → String
  | ignoredJoinOption option => "Ignoring unknown join option '" ++ option ++ "'"
  | droppedGroup glue => "Dropping empty " ++ glue.word ++ " group"
  | droppedNotIn column => "Dropping NOT IN with empty list on " ++ column.text
  | inferredOn left right table owner =>
    "Inferred join on " ++ left.text ++ " = " ++ right.text ++ " from " ++ table ++ "." ++ owner
  | loadedSchema tables path => "Loaded " ++ toString tables ++ " table schemas from " ++ path
  | loadedConfig path => "Loaded config from " ++ path

def line (note : Note) : String := note.level.word ++ " " ++ note.message

end Note

structure Traced (α : Type) where
  notes : List Note
  result : Except Error α

namespace Traced

variable {α β : Type}

/-- Goes on with a success. The notes of both parts are kept in order. -/
def andThen (x : Traced α) (f : α → Traced β) : Traced β :=
  match x.result with
  | .ok a =>
    let y := f a
    ⟨x.notes ++ y.notes, y.result⟩
  | .error e => ⟨x.notes, .error e⟩

instance : Monad Traced where
  pure a := ⟨[], .ok a⟩
  bind := andThen

instance : MonadExceptOf Error Traced where
  throw e := ⟨[], .error e⟩
  tryCatch x handle := match x.result with
    | .ok _ => x
    | .error e =>
      let y := handle e
      ⟨x.notes ++ y.notes, y.result⟩

instance : MonadLift (Except Error) Traced where
  monadLift x := ⟨[], x⟩

/-- Makes a note. -/
def note (n : Note) : Traced Unit := ⟨[n], .ok ()⟩

@[simp] theorem result_pure (a : α) : (pure a : Traced α).result = pure a := rfl

@[simp] theorem notes_pure (a : α) : (pure a : Traced α).notes = [] := rfl

/-- Results go through a step as they do without notes. -/
@[simp] theorem result_bind (x : Traced α) (f : α → Traced β) :
    (x >>= f).result = x.result >>= fun a => (f a).result := by
  change (andThen x f).result = _
  unfold andThen
  cases x.result <;> rfl

@[simp] theorem result_throw (e : Error) : (throw e : Traced α).result = .error e := rfl

@[simp] theorem result_lift (x : Except Error α) :
    (MonadLift.monadLift x : Traced α).result = x := rfl

@[simp] theorem notes_lift (x : Except Error α) :
    (MonadLift.monadLift x : Traced α).notes = [] := rfl

@[simp] theorem result_note (n : Note) : (note n).result = pure () := rfl

@[simp] theorem notes_note (n : Note) : (note n).notes = [n] := rfl

end Traced

end SqlBuilder
