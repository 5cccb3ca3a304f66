import Rollout.Number.Binary64.Shortest
import Rollout.Text.Quoted

/-!
# Values

Documents, call arguments and reported fields are dynamic values. A record keeps its fields in the
order in which they came, one field per name; setting a name again keeps its place.

`Value.quoted` shows a value inside another one, `Value.shown` shows it by itself: they differ on
text alone, which is quoted only inside.
-/

namespace Rollout

/-- A dynamic value. -/
inductive Value where
  /-- The absence of a value. -/
  | null
  /-- A truth value. -/
  | truth (b : Bool)
  /-- An integer. -/
  | integer (n : Int)
  /-- A floating-point number. -/
  | number (x : Binary64)
  /-- A text. -/
  | text (s : String)
  /-- A sequence of octets. -/
  | octets (o : Octets)
  /-- A list of values. -/
  | list (items : List Value)
  /-- A fixed sequence of values. -/
  | tuple (items : List Value)
  /-- Named values, in order. -/
  | record (fields : List (String × Value))

/-- The fields of a record. -/
abbrev Fields := List (String × Value)

namespace Fields

/-- The value of a name. -/
def get? (fields : Fields) (name : String) : Option Value := fields.lookup name

/-- Tells whether a name has a value. -/
def has (fields : Fields) (name : String) : Bool := (fields.get? name).isSome

/-- Gives a name a value: in its place if it has one, else at the end. -/
def set : Fields → String → Value → Fields
  | [], name, value => [(name, value)]
  | (key, old) :: rest, name, value =>
    if key = name then (key, value) :: rest else (key, old) :: set rest name value

theorem get?_nil (name : String) : get? [] name = none := rfl

theorem get?_cons (key name : String) (value : Value) (rest : Fields) :
    get? ((key, value) :: rest) name = if name = key then some value else get? rest name := by
  by_cases h : name = key
  · simp [get?, h]
  · have differ : (name == key) = false := by simp [h]
    simp [get?, List.lookup_cons, h, differ]

@[simp]
theorem get?_set_same (fields : Fields) (name : String) (value : Value) :
    (fields.set name value).get? name = some value := by
  induction fields with
  | nil => simp [set, get?_cons]
  | cons field rest ih =>
    obtain ⟨key, old⟩ := field
    by_cases h : key = name
    · simp [set, h, get?_cons]
    · have h' : ¬name = key := fun e => h e.symm
      simp [set, h, h', get?_cons, ih]

@[simp]
theorem get?_set_other (fields : Fields) {name other : String} (value : Value) (h : other ≠ name) :
    (fields.set name value).get? other = fields.get? other := by
  induction fields with
  | nil => simp [set, get?_cons, h, get?_nil]
  | cons field rest ih =>
    obtain ⟨key, old⟩ := field
    by_cases e : key = name
    · subst e; simp [set, get?_cons, h]
    · simp [set, e, get?_cons, ih]

end Fields

namespace Value

/-- Tells whether a value counts as absent: nothing, falsehood, zero, and whatever is empty. -/
def isVacant : Value → Bool
  | .null => true
  | .truth b => !b
  | .integer n => n = 0
  | .number x => x.isZero
  | .text s => s.isEmpty
  | .octets o => o.isEmpty
  | .list items => items.isEmpty
  | .tuple items => items.isEmpty
  | .record fields => fields.isEmpty

/-- Numbers are shown without exponent from `0.0001` to below `10 ^ 16`, and exponents have at
least two digits. -/
def layout : Binary64.DecimalLayout := ⟨-3, 16, 2⟩

/-- A floating-point number as text. -/
def numberText (x : Binary64) : String := x.text layout "inf" "nan"

mutual

/-- A value as it is shown inside another one. -/
def quoted : Value → String
  | .null => "None"
  | .truth b => if b then "True" else "False"
  | .integer n => toString n
  | .number x => numberText x
  | .text s => String.ofList (Text.quoted s.toList)
  | .octets o => String.ofList (Text.quotedOctets o)
  | .list items => "[" ++ ", ".intercalate (quotedItems items) ++ "]"
  | .tuple items =>
    match quotedItems items with
    | [item] => "(" ++ item ++ ",)"
    | parts => "(" ++ ", ".intercalate parts ++ ")"
  | .record fields => "\x7b" ++ ", ".intercalate (quotedFields fields) ++ "\x7d"

/-- Values as they are shown inside another one. -/
def quotedItems : List Value → List String
  | [] => []
  | item :: rest => quoted item :: quotedItems rest

/-- Fields as they are shown inside a record. -/
def quotedFields : List (String × Value) → List String
  | [] => []
  | (name, value) :: rest =>
    (String.ofList (Text.quoted name.toList) ++ ": " ++ quoted value) :: quotedFields rest

end

/-- A value as it is shown by itself. -/
def shown : Value → String
  | .text s => s
  | value => quoted value

/-- The fields of a record. -/
def fields? : Value → Option Fields
  | .record fields => some fields
  | _ => none

/-- The items of a list or tuple. -/
def items? : Value → Option (List Value)
  | .list items => some items
  | .tuple items => some items
  | _ => none

/-- What a value holds when it is gone through: the items of a list or tuple, the names of a record,
the characters of a text, the octets as integers. -/
def elements? : Value → Option (List Value)
  | .list items => some items
  | .tuple items => some items
  | .record fields => some (fields.map fun field => .text field.1)
  | .text s => some (s.toList.map fun c => .text (String.singleton c))
  | .octets o => some (o.map fun octet => .integer octet.toNat)
  | _ => none

example : (Value.tuple [.integer 1]).quoted = "(1,)" := by decide
example : (Value.record [("k", .list [.text "a", .truth true])]).shown =
    "\x7b'k': ['a', True]\x7d" := by decide

end Value

end Rollout
