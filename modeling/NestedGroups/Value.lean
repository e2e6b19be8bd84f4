import NestedGroups.Text.Basic

namespace NestedGroups

inductive Value where
  | null
  | bool (b : Bool)
  | int (i : Int)
  /-- A number that is not written as a whole one, as it is written. -/
  | fraction (digits : String)
  | date (text : String)
  | text (s : String)
  | list (items : List Value)
  | table (fields : List (String × Value))

namespace Value

instance : Inhabited Value := ⟨.null⟩

def ofNat (n : Nat) : Value :=
  .int n

def ofTexts (texts : List String) : Value :=
  .list (texts.map .text)

def ofOption (s : Option String) : Value :=
  (s.map .text).getD .null

end Value

namespace Json

open NestedGroups.Text

def quoteChar (c : Char) : List Char :=
  match c with
  | '"' => ['\\', '"']
  | '\\' => ['\\', '\\']
  | '\x08' => ['\\', 'b']
  | '\t' => ['\\', 't']
  | '\n' => ['\\', 'n']
  | '\x0c' => ['\\', 'f']
  | '\r' => ['\\', 'r']
  | _ =>
    if c.toNat < 0x20 then
      ['\\', 'u', '0', '0', hexDigit (c.toNat / 16), hexDigit (c.toNat % 16)]
    else [c]

def quote (s : String) : String :=
  .ofList ('"' :: s.toList.flatMap quoteChar ++ ['"'])

mutual

def pretty (indent : String) : Value → String
  | .null => "null"
  | .bool b => if b then "true" else "false"
  | .int i => toString i
  | .fraction digits => digits
  | .date s => quote s
  | .text s => quote s
  | .list [] => "[]"
  | .list (item :: items) =>
    "[\n" ++ prettyItems (indent ++ "  ") (item :: items) ++ "\n" ++ indent ++ "]"
  | .table [] => "\x7b\x7d"
  | .table (field :: fields) =>
    "\x7b\n" ++ prettyFields (indent ++ "  ") (field :: fields) ++ "\n" ++ indent ++ "\x7d"

def prettyItems (indent : String) : List Value → String
  | [] => ""
  | [item] => indent ++ pretty indent item
  | item :: items => indent ++ pretty indent item ++ ",\n" ++ prettyItems indent items

def prettyFields (indent : String) : List (String × Value) → String
  | [] => ""
  | [(name, v)] => indent ++ quote name ++ ": " ++ pretty indent v
  | (name, v) :: fields =>
    indent ++ quote name ++ ": " ++ pretty indent v ++ ",\n" ++ prettyFields indent fields

end

end Json

inductive Source where
  | json
  | toml
  deriving DecidableEq

namespace Value

def asText? : Value → Option String
  | .text s => some s
  | _ => none

def asBool? : Value → Option Bool
  | .bool b => some b
  | _ => none

def asNat? (limit : Nat) : Value → Option Nat
  | .int i => if 0 ≤ i ∧ i ≤ limit then some i.toNat else none
  | _ => none

def maxWord32 : Nat := UInt32.size - 1

def maxWord64 : Nat := UInt64.size - 1

def asTexts? : Value → Option (List String)
  | .list items => items.mapM asText?
  | _ => none

def asOption? {α : Type} (read : Value → Option α) : Value → Option (Option α)
  | .null => some none
  | v => (read v).map some

def isUnit (source : Source) : Value → Bool
  | .null => source = .json
  | .list [] => source = .toml
  | .table [] => source = .toml
  | _ => false

def asWord? (source : Source) : Value → Option String
  | .text s => some s
  | .table [(word, v)] => if v.isUnit source then some word else none
  | _ => none

/-- The fields of a record with these names. TOML overlooks items behind the last field. -/
def asRecord? (source : Source) (names : List String) : Value → Option (List (String × Value))
  | .table fields => some fields
  | .list items =>
    if source = .json ∧ names.length < items.length then none else some (names.zip items)
  | .date _ => some []
  | _ => none

/-- A field that may be absent if there is something to put in its place. -/
def field? {α : Type} (fields : List (String × Value)) (name : String)
    (read : Value → Option α) (absent : Option α) : Option α :=
  match fields.lookup name with
  | some v => read v
  | none => absent

end Value

end NestedGroups
