import NestedGroups.Toml.Scalar
import NestedGroups.Value

namespace NestedGroups.Toml

inductive Origin where
  /-- A header of its own. -/
  | header
  /-- A header further down. -/
  | path
  /-- A dotted name. -/
  | dotted
  /-- Braces. -/
  | inline
  deriving DecidableEq

inductive Node where
  | leaf (v : Value)
  | list (items : List Node)
  | table (origin : Origin) (fields : List (String × Node))
  /-- Tables under doubled headers of one name. -/
  | tables (items : List (List (String × Node)))

abbrev Fields := List (String × Node)

namespace Node

mutual

def value : Node → Value
  | .leaf v => v
  | .list items => .list (values items)
  | .table _ fields => .table (fieldValues fields)
  | .tables items => .list (tableValues items)

def values : List Node → List Value
  | [] => []
  | n :: ns => n.value :: values ns

def fieldValues : List (String × Node) → List (String × Value)
  | [] => []
  | (name, n) :: fields => (name, n.value) :: fieldValues fields

def tableValues : List (List (String × Node)) → List Value
  | [] => []
  | fields :: items => .table (fieldValues fields) :: tableValues items

end

theorem fieldValues_eq_map (fields : List (String × Node)) :
    fieldValues fields = fields.map fun f => (f.1, f.2.value) := by
  induction fields with
  | nil => rfl
  | cons f fields ih => rw [fieldValues, ih, List.map_cons]

theorem values_eq_map (items : List Node) : values items = items.map value := by
  induction items with
  | nil => rfl
  | cons n items ih => rw [values, ih, List.map_cons]

theorem tableValues_eq_map (items : List (List (String × Node))) :
    tableValues items = items.map fun fields => .table (fieldValues fields) := by
  induction items with
  | nil => rfl
  | cons fields items ih => rw [tableValues, ih, List.map_cons]

end Node

namespace Fields

def put (fields : Fields) (name : String) (n : Node) : Fields :=
  match fields with
  | [] => [(name, n)]
  | (other, m) :: rest => if other = name then (name, n) :: rest else (other, m) :: put rest name n

/-- Adds a node under a dotted name. The table that gets it must be made of dotted names, those on
the way may also come from headers further down or be the last of several tables of one name, and
the name itself must be new. -/
def insert? (fields : Fields) (path : List String) (name : String) (n : Node) : Option Fields :=
  match path with
  | [] => if (fields.lookup name).isSome then none else some (fields ++ [(name, n)])
  | key :: path =>
    match fields.lookup key with
    | none => (insert? [] path name n).map fun inner => fields ++ [(key, .table .dotted inner)]
    | some (.table origin inner) =>
      if origin = .dotted ∨ (origin = .path ∧ path ≠ []) then
        (insert? inner path name n).map fun inner => put fields key (.table origin inner)
      else none
    | some (.tables items) =>
      if path = [] then none
      else
        (insert? (items.getLast?.getD []) path name n).map fun last =>
          put fields key (.tables (items.dropLast ++ [last]))
    | some _ => none

/-- Changes the table that a header names. Tables that are not there yet are made on the way; of
several tables of one name it is the last. -/
def alter? (change : Fields → Option Fields) (fields : Fields) : List String → Option Fields
  | [] => change fields
  | key :: path =>
    match fields.lookup key with
    | none => (alter? change [] path).map fun inner => fields ++ [(key, .table .path inner)]
    | some (.table origin inner) =>
      if origin = .inline then none
      else (alter? change inner path).map fun inner => put fields key (.table origin inner)
    | some (.tables items) =>
      (alter? change (items.getLast?.getD []) path).map fun last =>
        put fields key (.tables (items.dropLast ++ [last]))
    | some _ => none

/-- A header opens a table that is new or was only passed through so far. -/
def openTable? (name : String) (fields : Fields) : Option Fields :=
  match fields.lookup name with
  | none => some (fields ++ [(name, .table .header [])])
  | some (.table .path inner) => some (put fields name (.table .header inner))
  | some _ => none

def openNext? (name : String) (fields : Fields) : Option Fields :=
  match fields.lookup name with
  | none => some (fields ++ [(name, .tables [[]])])
  | some (.tables items) => some (put fields name (.tables (items ++ [[]])))
  | some _ => none

end Fields

open NestedGroups.Text

/-- Arrays and braces may be nested this deep, and a dotted name may have this many parts. -/
def maxNesting : Nat := 79

def skipSpaces (cs : List Char) : List Char :=
  cs.dropWhile isSpace

def afterLine? (cs : List Char) : Option (List Char) :=
  let rest := match skipSpaces cs with
    | '#' :: comment => comment.dropWhile isPlain
    | rest => rest
  match rest with
  | [] => some []
  | _ => afterNewline? rest

def skipLines : Nat → List Char → List Char
  | 0, cs => cs
  | fuel + 1, cs =>
    let rest := skipSpaces cs
    match rest with
    | '#' :: comment =>
      match afterNewline? (comment.dropWhile isPlain) with
      | some rest => skipLines fuel rest
      | none => rest
    | _ =>
      match afterNewline? rest with
      | some rest => skipLines fuel rest
      | none => rest

def skipBlank (cs : List Char) : List Char :=
  skipLines cs.length cs

def isBare (c : Char) : Bool :=
  c.isAlphanum || c = '-' || c = '_'

def readSimpleName (cs : List Char) : Option (String × List Char) :=
  match cs with
  | c :: _ =>
    if c = '"' || c = '\'' then (readLine cs).map fun (text, rest) => (.ofList text, rest)
    else if isBare c then some (.ofList (cs.takeWhile isBare), cs.dropWhile isBare)
    else none
  | [] => none

def readParts : Nat → List Char → Option (List String × List Char)
  | 0, _ => none
  | fuel + 1, cs => do
    let (part, rest) ← readSimpleName (skipSpaces cs)
    match skipSpaces rest with
    | '.' :: rest =>
      let (parts, rest) ← readParts fuel rest
      return (part :: parts, rest)
    | rest => return ([part], rest)

def readName (cs : List Char) : Option (List String × List Char) :=
  readParts maxNesting cs

def readField (item : Reader Node) (cs : List Char) :
    Option ((List String × Node) × List Char) := do
  let (name, rest) ← readName cs
  match rest with
  | '=' :: rest =>
    let (n, rest) ← item (skipSpaces rest)
    return ((name, n), rest)
  | _ => none

def addField (fields : Fields) (name : List String) (n : Node) : Option Fields := do
  fields.insert? name.dropLast (← name.getLast?) n

/-- The items of an array, up to its closing bracket; a comma may stand behind the last. -/
def readItems (item : Reader Node) : Nat → List Char → Option (List Node × List Char)
  | 0, _ => none
  | fuel + 1, cs =>
    match skipBlank cs with
    | ']' :: rest => some ([], rest)
    | cs => do
      let (n, rest) ← item cs
      match skipBlank rest with
      | ',' :: rest =>
        let (ns, rest) ← readItems item fuel rest
        return (n :: ns, rest)
      | ']' :: rest => return ([n], rest)
      | _ => none

/-- The fields between braces, all on one line and without a comma behind the last. -/
def readInline (item : Reader Node) : Nat → Fields → List Char → Option (Fields × List Char)
  | 0, _, _ => none
  | fuel + 1, fields, cs => do
    let ((name, n), rest) ← readField item cs
    let fields ← addField fields name n
    match skipSpaces rest with
    | ',' :: rest => readInline item fuel fields rest
    | '\x7d' :: rest => return (fields, rest)
    | _ => none

def readNode : Nat → Reader Node
  | depth + 1, '[' :: rest =>
    (readItems (readNode depth) (rest.length + 1) rest).map fun (ns, rest) => (.list ns, rest)
  | depth + 1, '\x7b' :: rest =>
    match skipSpaces rest with
    | '\x7d' :: rest => some (.table .inline [], rest)
    | rest =>
      (readInline (readNode depth) (rest.length + 1) [] rest).map fun (fields, rest) =>
        (.table .inline fields, rest)
  | _, cs => (readScalar cs).map fun (v, rest) => (.leaf v, rest)

/-- A document half read: its tables, and the header under which fields are added. -/
structure Draft where
  root : Fields := []
  header : List String := []

def Draft.add? (d : Draft) (name : List String) (n : Node) : Option Draft :=
  (d.root.alter? (addField · name n) d.header).map ({ d with root := · })

def Draft.turn? (d : Draft) (header : List String) (enter : String → Fields → Option Fields) :
    Option Draft := do
  let root ← Fields.alter? (enter (← header.getLast?)) d.root header.dropLast
  return { root, header }

def readEntry (d : Draft) (cs : List Char) : Option (Draft × List Char) :=
  match cs with
  | '[' :: '[' :: rest => do
    let (name, rest) ← readName rest
    match rest with
    | ']' :: ']' :: rest => return (← d.turn? name Fields.openNext?, ← afterLine? rest)
    | _ => none
  | '[' :: rest => do
    let (name, rest) ← readName rest
    match rest with
    | ']' :: rest => return (← d.turn? name Fields.openTable?, ← afterLine? rest)
    | _ => none
  | _ => do
    let ((name, n), rest) ← readField (readNode maxNesting) cs
    return (← d.add? name n, ← afterLine? rest)

def readEntries : Nat → Draft → List Char → Option Draft
  | 0, _, _ => none
  | fuel + 1, d, cs =>
    match skipSpaces cs with
    | [] => some d
    | rest =>
      match afterLine? rest with
      | some rest => readEntries fuel d rest
      | none => do
        let (d, rest) ← readEntry d rest
        readEntries fuel d rest

def withoutMark : List Char → List Char
  | '\uFEFF' :: rest => rest
  | cs => cs

def parse? (text : String) : Option Value :=
  let cs := withoutMark text.toList
  (readEntries (cs.length + 1) {} cs).map fun d => (Node.table .header d.root).value

end NestedGroups.Toml
