import Marginalia.Json.Scan

/-!
# Values of JSON and their text

`Value.write` writes a value in one of two layouts: without any white space, or with each item and
field on a line of its own, indented by its depth. `Scan.ofValue` is the scan that the text of a
value gives.
-/

namespace Marginalia.Json

mutual

/-- A value. Numbers are integers. -/
inductive Value where
  | null
  | bool (b : Bool)
  | integer (i : Int)
  | string (t : Text)
  | list (items : Values)
  | object (members : Members)

/-- The items of a list. -/
inductive Values where
  | nil
  | cons (value : Value) (rest : Values)

/-- The fields of an object, in the order of writing. -/
inductive Members where
  | nil
  | cons (key : Text) (value : Value) (rest : Members)

end

instance : Inhabited Value := ⟨.null⟩

/-- The items of a list, as a list. -/
def Values.ofList : List Value → Values
  | [] => .nil
  | v :: rest => .cons v (ofList rest)

/-- The fields of an object, as a list. -/
def Members.ofList : List (Text × Value) → Members
  | [] => .nil
  | (key, v) :: rest => .cons key v (ofList rest)

namespace Value

/-- The list of the given values. -/
def ofList (vs : List Value) : Value := .list (.ofList vs)

/-- The list of the given texts. -/
def ofTexts (ts : List Text) : Value := ofList (ts.map .string)

/-- The object with the given fields. -/
def ofFields (fields : List (Text × Value)) : Value := .object (.ofList fields)

end Value

/-! ### Writing -/

/-- How a value is laid out: in one line, or on lines indented by a unit of text. -/
inductive Layout where
  | compact
  | indented (unit : Text)
deriving DecidableEq, Repr, Inhabited

namespace Layout

/-- Two spaces for each level. -/
def spaces : Layout := .indented [' ', ' ']

/-- A tab for each level. -/
def tabs : Layout := .indented ['\t']

/-- What stands in front of an item or a close at some depth. -/
def lineBreak (l : Layout) (depth : Nat) : Text :=
  match l with
  | compact => []
  | indented unit => '\n' :: (List.replicate depth unit).flatten

/-- What stands between a key and its value. -/
def colon : Layout → Text
  | compact => [':']
  | indented _ => [':', ' ']

end Layout

mutual

/-- The text of a value at some depth. -/
def Value.writeAt (l : Layout) (depth : Nat) : Value → Text
  | .null => "null".toList
  | .bool b => (if b then "true" else "false").toList
  | .integer i => Text.ofInt i
  | .string t => quote t
  | .list .nil => ['[', ']']
  | .list (.cons v rest) =>
    '[' :: l.lineBreak (depth + 1) ++ v.writeAt l (depth + 1) ++ rest.writeRest l (depth + 1) ++
      l.lineBreak depth ++ [']']
  | .object .nil => ['{', '}']
  | .object (.cons key v rest) =>
    '{' :: l.lineBreak (depth + 1) ++ quote key ++ l.colon ++ v.writeAt l (depth + 1) ++
      rest.writeRest l (depth + 1) ++ l.lineBreak depth ++ ['}']

/-- The text of the items behind the first one. -/
def Values.writeRest (l : Layout) (depth : Nat) : Values → Text
  | .nil => []
  | .cons v rest => ',' :: l.lineBreak depth ++ v.writeAt l depth ++ rest.writeRest l depth

/-- The text of the fields behind the first one. -/
def Members.writeRest (l : Layout) (depth : Nat) : Members → Text
  | .nil => []
  | .cons key v rest =>
    ',' :: l.lineBreak depth ++ quote key ++ l.colon ++ v.writeAt l depth ++
      rest.writeRest l depth

end

/-- The text of a value. -/
def Value.write (l : Layout) (v : Value) : Text := v.writeAt l 0

/-! ### The scan of a value -/

mutual

/-- The scan that the text of a value gives. -/
def Scan.ofValue : Value → Scan
  | .null => .null
  | .bool b => .bool b
  | .integer i => .number (.ok (.integer i))
  | .string t => .string (.ok t)
  | .list items => .list (Items.ofValues items)
  | .object members => .object (Fields.ofMembers members)

/-- The scan of the items of a list. -/
def Items.ofValues : Values → Items
  | .nil => .stop .close
  | .cons v rest => .item (Scan.ofValue v) (Items.ofValues rest)

/-- The scan of the fields of an object. -/
def Fields.ofMembers : Members → Fields
  | .nil => .stop .close
  | .cons key v rest => .field (.ok key) (Scan.ofValue v) (Fields.ofMembers rest)

end

end Marginalia.Json
