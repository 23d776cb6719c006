/-!
# Records as text

A structured value is shown as its name and its fields between braces, and an
optional value by `Some` or `None`. A set is shown as its members between
braces.
-/

namespace HttpEngine
namespace Text

/-- A name with its fields, each `label: value`. -/
def record
    (name : String) (fields : List (String × String)) :
    String :=
  name ++ " \x7b " ++
    String.intercalate ", " (fields.map fun field => field.1 ++ ": " ++ field.2) ++
    " \x7d"

/-- A value that may be absent. -/
def optional : Option String → String
  | some value => "Some(" ++ value ++ ")"
  | none => "None"

/-- Members between braces. -/
def members (items : List String) : String :=
  "\x7b" ++ String.intercalate ", " items ++ "\x7d"

end Text
end HttpEngine
