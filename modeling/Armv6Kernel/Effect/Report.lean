import Armv6Kernel.Effect.Action
import Armv6Kernel.Text.Report

/-!
# Reports of what actions did

An action that ended is reported by one part, named for how it ended, and by what it wrote to the
console, if that is not empty.
-/

namespace Armv6Kernel

/-- A panic is reported by its message. -/
instance : Reported Panic := ⟨fun cause => .parts [part "panic" cause.message]⟩

/-- A computation without a state is reported by its value or its panic. -/
instance {α : Type} [Reported α] : Reported (Except Panic α) := ⟨fun
  | .ok value => report value
  | .error cause => report cause⟩

/-- The part that tells how an action ended. -/
def Outcome.ending {ε α : Type} [Reported ε] [Reported α] : Outcome ε α → String × Report
  | value result => part "ok" result
  | error cause => part "err" cause
  | panic cause => part "panic" cause.message

/-- The parts that tell how an action ended and what it wrote. -/
def Run.parts {σ ε α : Type} [Reported ε] [Reported α] (filter : LogFilter) (run : Run σ ε α) :
    List (String × Report) :=
  let text := consoleText filter run.log
  run.outcome.ending :: if text.isEmpty then [] else [part "log" text]

/-- The parts of an error: its kind, its message, its inspection form, and the message of the error
behind it, if there is one. -/
def errorParts (kind display inspect : String) (source : Option String) :
    List (String × Report) :=
  [part "kind" kind, part "display" display, part "debug" inspect] ++
    source.toList.map (part "source")

instance : Reported IdentifierError := ⟨fun error =>
  let kind :=
    match error with
    | .exhausted _ => "Exhausted"
    | .notAllocated _ => "NotAllocated"
    | .outOfRange _ _ => "OutOfRange"
  .parts (errorParts kind error.display error.inspect none)⟩

instance : Reported MapError := ⟨fun error =>
  .parts (errorParts "OutOfMemory" error.display error.inspect none)⟩

end Armv6Kernel
