import FeedSieve.Text.Json

/-!
# Log entries

What a step reports on the way is a value: a level, an event and named fields. `Logged` is a result with
the entries written before it, and `Traced` one that may fail; either way the entries stay.
-/
namespace FeedSieve

namespace Log

inductive Level where
  | debug | info | warning | error | critical
  deriving DecidableEq, Repr

def Level.name : Level → String
  | .debug => "debug"
  | .info => "info"
  | .warning => "warning"
  | .error => "error"
  | .critical => "critical"

structure Entry where
  level : Level
  event : String
  fields : List (String × Text.Json)
  deriving Repr

end Log

/-- A result and the entries written on the way, in order. -/
structure Logged (α : Type) where
  entries : List Log.Entry
  value : α

namespace Logged

instance : Monad Logged where
  pure a := ⟨[], a⟩
  bind x f := ⟨x.entries ++ (f x.value).entries, (f x.value).value⟩

def write (level : Log.Level) (event : String) (fields : List (String × Text.Json)) : Logged Unit :=
  ⟨[⟨level, event, fields⟩], ()⟩

@[simp] theorem entries_pure {α : Type} (a : α) : (pure a : Logged α).entries = [] := rfl

@[simp] theorem value_pure {α : Type} (a : α) : (pure a : Logged α).value = a := rfl

@[simp] theorem entries_bind {α β : Type} (x : Logged α) (f : α → Logged β) :
    (x >>= f).entries = x.entries ++ (f x.value).entries := rfl

@[simp] theorem value_bind {α β : Type} (x : Logged α) (f : α → Logged β) :
    (x >>= f).value = (f x.value).value := rfl

@[simp] theorem entries_write (level : Log.Level) (event : String)
    (fields : List (String × Text.Json)) :
    (write level event fields).entries = [⟨level, event, fields⟩] := rfl

end Logged

/-- A step that may fail with an `ε`, and whose entries stay in either case. -/
abbrev Traced (ε α : Type) : Type := ExceptT ε Logged α

namespace Traced

def entries {ε α : Type} (x : Traced ε α) : List Log.Entry := (ExceptT.run x).entries

def outcome {ε α : Type} (x : Traced ε α) : Except ε α := (ExceptT.run x).value

def ofLogged {ε α : Type} (x : Logged α) : Traced ε α := ExceptT.mk (Except.ok <$> x)

end Traced

end FeedSieve
