import NestedGroups.Console.Script
import NestedGroups.Failure
import NestedGroups.Text.Basic

namespace NestedGroups

abbrev Place := List String

inductive Content where
  | text (text : String)
  | bytes (raw : List UInt8)
  deriving DecidableEq

inductive Node where
  | folder
  | file (content : Content)
  deriving DecidableEq

structure FileTree where
  nodes : List (Place × Node) := []

namespace FileTree

def get? (t : FileTree) (place : Place) : Option Node :=
  if place = [] then some .folder else t.nodes.lookup place

def put (t : FileTree) (place : Place) (node : Node) : FileTree :=
  ⟨(place, node) :: t.nodes.filter (·.1 != place)⟩

theorem get?_put_self {t : FileTree} {place : Place} {node : Node} (h : place ≠ []) :
    (t.put place node).get? place = some node := by
  simp [get?, put, h]

def nameLimit : Nat := 255

def child (t : FileTree) (here : Place) (name : String) : Except IoFault (Option Node) :=
  if nameLimit < name.utf8ByteSize then .error .nameTooLong
  else .ok (t.get? (here ++ [name]))

def isStay (part : String) : Bool :=
  part == "" || part == "."

def isStep (part : String) : Bool :=
  isStay part || part == ".."

def walk (t : FileTree) : Place → List String → Except IoFault Place
  | here, [] => .ok here
  | here, part :: rest =>
    if isStay part then t.walk here rest
    else if part = ".." then t.walk here.dropLast rest
    else do
      match ← t.child here part with
      | none => .error .notFound
      | some (.file _) => .error .notDirectory
      | some .folder => t.walk (here ++ [part]) rest

def parts (path : String) : List String :=
  (Text.parts '/' path.toList).map .ofList

/-- A path that begins with a slash starts at the root, any other at the working folder. -/
def start (here : Place) (path : String) : Place :=
  if path.startsWith "/" then [] else here

def find (t : FileTree) (here : Place) (path : String) : Except IoFault Node :=
  if path.isEmpty then .error .notFound
  else do
    let ps := parts path
    let last := ps.getLastD ""
    let folder ← t.walk (start here path) ps.dropLast
    if isStep last then return .folder
    else
      match ← t.child folder last with
      | some node => return node
      | none => .error .notFound

def contains (t : FileTree) (here : Place) (path : String) : Bool :=
  match t.find here path with
  | .ok _ => true
  | .error _ => false

def read (t : FileTree) (here : Place) (path : String) : Except IoFault String := do
  match ← t.find here path with
  | .folder => .error .isDirectory
  | .file (.bytes _) => .error .notUtf8
  | .file (.text text) => return text

/-- A path with a slash at its end names no file. -/
def write (t : FileTree) (here : Place) (path text : String) : Except IoFault FileTree :=
  if path.isEmpty then .error .notFound
  else do
    match (parts path).reverse.dropWhile (· == "") with
    | [] => .error .isDirectory
    | last :: above =>
      let folder ← t.walk (start here path) above.reverse
      if isStep last then
        let _ ← t.walk folder [last]
        .error .isDirectory
      else if path.endsWith "/" then .error .isDirectory
      else
        match ← t.child folder last with
        | some .folder => .error .isDirectory
        | _ => return t.put (folder ++ [last]) (.file (.text text))

def makeFolder (t : FileTree) (here : Place) (last : String) (above : List String) :
    Except IoFault FileTree := do
  let folder ← t.walk here above.reverse
  if isStep last then .error .alreadyExists
  else
    match ← t.child folder last with
    | some _ => .error .alreadyExists
    | none => return t.put (folder ++ [last]) .folder

/-- That a folder is there already is no fault. -/
def ensureFolder (t : FileTree) (here : Place) (last : String) (above : List String) :
    Except IoFault FileTree :=
  match t.makeFolder here last above, t.walk here (above.reverse ++ [last]) with
  | .ok made, _ => .ok made
  | .error _, .ok _ => .ok t
  | .error fault, .error _ => .error fault

/-- A folder that cannot be made for want of the one above is made after that one. -/
def ensureFolders (t : FileTree) (here : Place) : List String → Except IoFault FileTree
  | [] => .ok t
  | last :: above =>
    match t.ensureFolder here last above with
    | .error .notFound => do (← t.ensureFolders here above).ensureFolder here last above
    | result => result

def parentParts (path : String) : List String :=
  ((parts path).filter (!isStay ·)).reverse.tail

/-- The path of the folder that a path lies in, unless that is the working folder or the root. -/
def parent? (path : String) : Option String :=
  match parentParts path with
  | [] => none
  | above => some ((if path.startsWith "/" then "/" else "") ++ "/".intercalate above.reverse)

def makeParents (t : FileTree) (here : Place) (path : String) : Except IoFault FileTree :=
  t.ensureFolders (start here path) (parentParts path)

end FileTree

structure Desk where
  files : FileTree := {}
  here : Place := []
  input : List (Except IoFault String) := []
  output : String := ""
  errors : String := ""

namespace Desk

def print (d : Desk) : Channel → String → Desk
  | .output, text => { d with output := d.output ++ text }
  | .errors, text => { d with errors := d.errors ++ text }

/-- An attempt to change the files, which leaves them as they are if it fails. -/
def change (d : Desk) : Except IoFault FileTree → Except IoFault Unit × Desk
  | .ok files => (.ok (), { d with files })
  | .error fault => (.error fault, d)

def perform (d : Desk) : (action : Action) → action.Reply × Desk
  | .print channel text => ((), d.print channel text)
  | .readLine =>
    match d.input with
    | [] => (.ok "", d)
    | line :: input => (line, { d with input })
  | .lookUp path => (d.files.contains d.here path, d)
  | .readFile path => (d.files.read d.here path, d)
  | .makeFolders path => d.change (d.files.makeParents d.here path)
  | .writeFile path text => d.change (d.files.write d.here path text)

def play {α : Type} (d : Desk) : Script α → α × Desk
  | .finish result => (result, d)
  | .act action next =>
    let (reply, d) := d.perform action
    d.play (next reply)

theorem play_bind {α β : Type} (d : Desk) (s : Script α) (f : α → Script β) :
    d.play (s.bind f) = (d.play s).2.play (f (d.play s).1) := by
  induction s generalizing d with
  | finish a => rfl
  | act action next ih => simp [play, ih]

end Desk

end NestedGroups
