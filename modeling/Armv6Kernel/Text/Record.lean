/-!
# Written records

The inspection form of structured values: a type name followed by its fields in declaration order,
as in `ContextId { asid: 7, process_id: 3 }` for named and `Some(3)` for positional components.
-/

namespace Armv6Kernel.Record

def named (name : String) (fields : List (String × String)) : String :=
  let entries := fields.map fun (label, value) => label ++ ": " ++ value
  name ++ " \x7b " ++ ", ".intercalate entries ++ " \x7d"

def tagged (name component : String) : String :=
  name ++ "(" ++ component ++ ")"

def list (items : List String) : String :=
  "[" ++ ", ".intercalate items ++ "]"

def flag (value : Bool) : String :=
  if value then "true" else "false"

def quoted (text : String) : String :=
  "\"" ++ text ++ "\""

end Armv6Kernel.Record
