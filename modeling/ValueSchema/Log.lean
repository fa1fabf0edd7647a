import ValueSchema.SchemaType
import ValueSchema.Source.Artifact
import ValueSchema.Text.Numeral
import ValueSchema.WorkItem

/-!
# Log events

What happens during a run is reported as events.  An event is recorded by its cause; its level, its
wording and its fields follow from it.  `Logged` carries the events of a computation beside its
value, in the order of their occurrence.
-/

namespace ValueSchema

/-- The levels of log events. -/
inductive LogLevel where
  | trace
  | debug
  deriving DecidableEq

def LogLevel.name : LogLevel → String
  | trace => "TRACE"
  | debug => "DEBUG"

/-- The value of a field of an event. -/
inductive LogValue where
  | text (value : String)
  | count (value : Nat)
  deriving DecidableEq

/-- Something that happened. -/
inductive LogEvent where
  /-- The registration of a work item was written. -/
  | registration (item : WorkItem) (type : SchemaType)
  /-- No source was written because the framework is not referenced. -/
  | frameworkMissing (kind : ArtifactKind)
  /-- Source was written for a number of work items; `bytes` is its length in UTF-8. -/
  | synthesized (kind : ArtifactKind) (workItems bytes : Nat)
  /-- The schema of a value object was replaced, with so many properties written. -/
  | schemaReplaced (typeName underlyingName : String) (written : Nat)
  deriving DecidableEq

namespace LogEvent

def level : LogEvent → LogLevel
  | registration _ _ => .trace
  | frameworkMissing _ => .trace
  | synthesized _ _ _ => .debug
  | schemaReplaced _ _ _ => .debug

def message : LogEvent → String
  | registration _ _ => "formatting schema registration"
  | frameworkMissing kind => "schema framework not referenced; skipping " ++ kind.title
  | synthesized _ _ _ => "synthesized schema artifact"
  | schemaReplaced _ _ _ => "rewrote value object schema"

def fields : LogEvent → List (String × LogValue)
  | registration item type =>
    [("type_name", .text item.typeName),
     ("underlying", .text item.underlyingName),
     ("schema_type", .text type.keyword)]
  | frameworkMissing _ => []
  | synthesized kind workItems bytes =>
    [("artifact", .text kind.fileName),
     ("work_items", .count workItems),
     ("bytes", .count bytes)]
  | schemaReplaced typeName underlyingName written =>
    [("type_id", .text typeName),
     ("underlying", .text underlyingName),
     ("written", .count written)]

end LogEvent

/-- A value with the events of its computation. -/
structure Logged (α : Type) where
  value : α
  events : List LogEvent

namespace Logged

instance : Monad Logged where
  pure value := ⟨value, []⟩
  bind first next :=
    ⟨(next first.value).value, first.events ++ (next first.value).events⟩

def record (event : LogEvent) : Logged Unit := ⟨(), [event]⟩

variable {α β : Type}

@[ext] theorem ext {left right : Logged α} (hvalue : left.value = right.value)
    (hevents : left.events = right.events) : left = right := by
  cases left
  cases right
  simp_all

@[simp] theorem value_pure (value : α) : (pure value : Logged α).value = value := rfl

@[simp] theorem events_pure (value : α) : (pure value : Logged α).events = [] := rfl

@[simp] theorem value_bind (first : Logged α) (next : α → Logged β) :
    (first >>= next).value = (next first.value).value := rfl

@[simp] theorem events_bind (first : Logged α) (next : α → Logged β) :
    (first >>= next).events = first.events ++ (next first.value).events := rfl

instance : LawfulMonad Logged := by
  refine LawfulMonad.mk' Logged ?_ ?_ ?_
  · intro α first
    exact ext rfl (List.append_nil first.events)
  · intro α β value next
    exact ext rfl (List.nil_append (next value).events)
  · intro α β γ first second third
    exact ext rfl (List.append_assoc first.events _ _)

@[simp] theorem value_map (f : α → β) (first : Logged α) : (f <$> first).value = f first.value :=
  rfl

@[simp] theorem events_map (f : α → β) (first : Logged α) : (f <$> first).events = first.events :=
  List.append_nil first.events

/-- A loop gathers the values of its rounds, and their events follow one another. -/
theorem mapM_eq (f : α → Logged β) (elements : List α) :
    elements.mapM f =
      ⟨elements.map fun element => (f element).value,
        elements.flatMap fun element => (f element).events⟩ := by
  induction elements with
  | nil => rfl
  | cons first rest ih =>
      rw [List.mapM_cons, ih]
      refine ext rfl ?_
      simp

end Logged

end ValueSchema
