/-!
Log records. A record has a level, the part of the program that it speaks for, and a
message. A computation that writes records returns them beside its value, in the order in
which they were written.
-/

namespace JFlexReport.Log

/-- From the gravest to the most talkative. -/
inductive Level
  | error | warn | info | debug | trace
  deriving DecidableEq

namespace Level

def rank : Level → Nat
  | .error => 1
  | .warn => 2
  | .info => 3
  | .debug => 4
  | .trace => 5

def name : Level → String
  | .error => "ERROR"
  | .warn => "WARN"
  | .info => "INFO"
  | .debug => "DEBUG"
  | .trace => "TRACE"

end Level

/-- The part of the program that a record speaks for. -/
inductive Origin
  | program | parser | outcome | settings
  deriving DecidableEq

/-- The name by which a filter addresses the part. -/
def Origin.target : Origin → String
  | .program => "jfx"
  | .parser => "jfx::parser"
  | .outcome => "jfx::outcome"
  | .settings => "jfx::config"

structure Record where
  level : Level
  origin : Origin
  message : String
  deriving DecidableEq

def Record.text (r : Record) : String := r.level.name ++ " " ++ r.message

/-- A value and the records written on the way to it. -/
structure Logged (α : Type) where
  value : α
  records : List Record := []

namespace Logged

variable {α β : Type}

def pure (a : α) : Logged α := ⟨a, []⟩

def bind (x : Logged α) (f : α → Logged β) : Logged β :=
  let y := f x.value
  ⟨y.value, x.records ++ y.records⟩

instance : Monad Logged where
  pure := Logged.pure
  bind := Logged.bind

def note (level : Level) (origin : Origin) (message : String) : Logged Unit :=
  ⟨(), [⟨level, origin, message⟩]⟩

/-- Puts records in front of those already written. -/
def after (x : Logged α) (rs : List Record) : Logged α := ⟨x.value, rs ++ x.records⟩

@[simp] theorem value_pure (a : α) : (Pure.pure a : Logged α).value = a := rfl
@[simp] theorem records_pure (a : α) : (Pure.pure a : Logged α).records = [] := rfl
@[simp] theorem value_bind (x : Logged α) (f : α → Logged β) :
    (x >>= f).value = (f x.value).value := rfl
@[simp] theorem records_bind (x : Logged α) (f : α → Logged β) :
    (x >>= f).records = x.records ++ (f x.value).records := rfl
@[simp] theorem records_note (l : Level) (o : Origin) (m : String) :
    (note l o m).records = [⟨l, o, m⟩] := rfl
@[simp] theorem value_after (x : Logged α) (rs : List Record) : (x.after rs).value = x.value := rfl
@[simp] theorem records_after (x : Logged α) (rs : List Record) :
    (x.after rs).records = rs ++ x.records := rfl

end Logged

end JFlexReport.Log
