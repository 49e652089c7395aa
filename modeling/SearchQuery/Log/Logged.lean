import SearchQuery.Log.Record

/-!
# Logged computations

A computation that writes records while it runs and then succeeds or fails. The records written
before a failure are kept.
-/

namespace SearchQuery
namespace Log

structure Logged (ε α : Type) where
  records : List Record
  result : Except ε α

namespace Logged

variable {ε α β : Type}

def emitAll (records : List Record) : Logged ε Unit := ⟨records, .ok ()⟩

def emit (level : Level) (message : Text) : Logged ε Unit := emitAll [⟨level, message⟩]

def ofExcept (result : Except ε α) : Logged ε α := ⟨[], result⟩

def bind (x : Logged ε α) (f : α → Logged ε β) : Logged ε β :=
  match x.result with
  | .ok a => ⟨x.records ++ (f a).records, (f a).result⟩
  | .error e => ⟨x.records, .error e⟩

instance : Monad (Logged ε) where
  pure a := ⟨[], .ok a⟩
  bind := bind

end Logged
end Log
end SearchQuery
