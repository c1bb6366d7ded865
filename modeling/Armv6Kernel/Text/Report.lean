/-!
# Reports

A report is a value in the form that tools read: numbers, truth values, texts, lists, and named
parts.  Where the inspection form is one line of text for people, a report keeps the structure of
the value.
-/

namespace Armv6Kernel

/-- A value in the form that tools read. -/
inductive Report where
  | absent
  | flag (value : Bool)
  | number (value : Int)
  | text (value : String)
  | list (items : List Report)
  | parts (named : List (String × Report))
  deriving Inhabited

/-- Types whose values can be reported. -/
class Reported (α : Type) where
  report : α → Report

export Reported (report)

section Instances

variable {α β : Type}

instance : Reported Report := ⟨id⟩

instance : Reported Unit := ⟨fun _ => .absent⟩

instance : Reported Empty := ⟨nofun⟩

instance : Reported Bool := ⟨.flag⟩

instance : Reported Nat := ⟨fun value => .number value⟩

instance : Reported Int := ⟨.number⟩

instance : Reported String := ⟨.text⟩

instance {width : Nat} : Reported (BitVec width) := ⟨fun value => report value.toNat⟩

instance [Reported α] : Reported (Option α) := ⟨fun
  | some value => report value
  | none => .absent⟩

instance [Reported α] : Reported (List α) := ⟨fun values => .list (values.map report)⟩

end Instances

def part {α : Type} [Reported α] (name : String) (value : α) : String × Report :=
  (name, report value)

end Armv6Kernel
