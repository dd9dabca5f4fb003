import BlockScan.Decimal.Layout
import BlockScan.Text.Basic

/-!
# JSON values

The values of JSON, with whole numbers of any size kept apart from floating-point numbers. An
object keeps its fields in the order in which their names first appear, each name once.

A message shows a value on one line, with texts in quotes and the fields of objects in their own
order. Where a text is the whole of what is shown, it stands without quotes.
-/

set_option autoImplicit false

namespace BlockScan

/-- A JSON value. -/
inductive Json where
  | null
  | bool (b : Bool)
  | int (i : Int)
  | float (x : Float)
  | string (s : String)
  | array (items : List Json)
  | object (fields : List (String × Json))

/-- The kinds of JSON values. -/
inductive Json.Kind where
  | null
  | bool
  | int
  | float
  | string
  | array
  | object
deriving DecidableEq

namespace Json

/-- Null stands where a value is asked for and none is given. -/
instance : Inhabited Json := ⟨.null⟩

/-- The name under which messages speak of a kind of values. -/
def Kind.name : Kind → String
  | .null => "NoneType"
  | .bool => "bool"
  | .int => "int"
  | .float => "float"
  | .string => "str"
  | .array => "list"
  | .object => "dict"

/-- The kind of a value. -/
def kind : Json → Kind
  | .null => .null
  | .bool _ => .bool
  | .int _ => .int
  | .float _ => .float
  | .string _ => .string
  | .array _ => .array
  | .object _ => .object

/-- Whether a value counts as true where a condition is asked for: null, false, the zeros and
everything empty do not. -/
def truthy : Json → Bool
  | .null => false
  | .bool b => b
  | .int i => i != 0
  | .float x => x != 0
  | .string s => s != ""
  | .array items => !items.isEmpty
  | .object fields => !fields.isEmpty

/-- Whether a value equals the truth value true; the number one does. -/
def isOne : Json → Bool
  | .bool b => b
  | .int i => i == 1
  | .float x => x == 1
  | _ => false

/-- The field of an object; none when the value is no object or lacks the field. -/
def field? (name : String) : Json → Option Json
  | .object fields => fields.lookup name
  | _ => none

/-- Sets a field: a name that is present keeps its place and gets the new value, another one goes
to the end. -/
def putField (name : String) (value : Json) : List (String × Json) → List (String × Json)
  | [] => [(name, value)]
  | (n, v) :: rest => if n = name then (n, value) :: rest else (n, v) :: putField name value rest

mutual

/-- Whether there is a value with a property in a value that is no array and no object, or at any
depth among the items and fields of one. -/
def holds (p : Json → Bool) : Json → Bool
  | .array items => itemsHold p items
  | .object fields => fieldsHold p fields
  | v => p v

/-- Whether there is a value with a property in some items. -/
def itemsHold (p : Json → Bool) : List Json → Bool
  | [] => false
  | v :: rest => holds p v || itemsHold p rest

/-- Whether there is a value with a property in the values of some fields. -/
def fieldsHold (p : Json → Bool) : List (String × Json) → Bool
  | [] => false
  | (_, v) :: rest => holds p v || fieldsHold p rest

end

/-- Some items hold a value with a property if one of them does. -/
theorem itemsHold_eq_any (p : Json → Bool) (items : List Json) :
    itemsHold p items = items.any (holds p) := by
  induction items with
  | nil => rfl
  | cons v rest ih => rw [itemsHold, ih, List.any_cons]

/-- Some fields hold a value with a property if the value of one of them does. -/
theorem fieldsHold_eq_any (p : Json → Bool) (fields : List (String × Json)) :
    fieldsHold p fields = fields.any fun f => f.2.holds p := by
  induction fields with
  | nil => rfl
  | cons f rest ih => rw [fieldsHold, ih, List.any_cons]

/-- How many digits a value has that is an integer; the others have none. -/
def digitCount : Json → Nat
  | .int i => Decimal.digitCount i
  | _ => 0

/-- Whether a value is an integer with more digits than it may have in a text. -/
def isLong : Json → Bool
  | .int i => Decimal.isLong i
  | _ => false

/-- A text or null. -/
def ofText? : Option String → Json
  | none => .null
  | some s => .string s

/-! ## In messages -/

/-- The words that messages use for the floating-point values without digits. -/
def messageWords : Decimal.FloatWords := ⟨"nan", "inf"⟩

mutual

/-- A value as messages show it inside other values. -/
def display : Json → String
  | .null => "None"
  | .bool true => "True"
  | .bool false => "False"
  | .int i => Decimal.ofInt i
  | .float x => messageWords.write x
  | .string s => Text.quoted s
  | .array items => "[" ++ ", ".intercalate (displayItems items) ++ "]"
  | .object fields => "\x7b" ++ ", ".intercalate (displayFields fields) ++ "\x7d"

/-- The items of an array as messages show them. -/
def displayItems : List Json → List String
  | [] => []
  | v :: rest => display v :: displayItems rest

/-- The fields of an object as messages show them. -/
def displayFields : List (String × Json) → List String
  | [] => []
  | (name, v) :: rest => (Text.quoted name ++ ": " ++ display v) :: displayFields rest

end

/-- A value as messages show it on its own. -/
def shown : Json → String
  | .string s => s
  | v => display v

end Json

end BlockScan
