import NestedGroups.Text.Basic
import NestedGroups.Value

namespace NestedGroups.Toml

open NestedGroups.Text

inductive Quoting where
  | basic
  | literal
  | multilineBasic
  | multilineLiteral
  deriving DecidableEq

def needsEscape (c : Char) : Bool :=
  (c.toNat < 0x20 && c ≠ '\t' && c ≠ '\n') || c.toNat = 0x7F

/-- The length of the longest run of a character, of which `run` have just been read. -/
def longestRun (x : Char) : Nat → List Char → Nat
  | run, [] => run
  | run, c :: rest => if c = x then longestRun x (run + 1) rest else max run (longestRun x 0 rest)

/-- Basic quotes unless quotes, backslashes or line breaks ask for another kind. -/
def Quoting.of (cs : List Char) : Quoting :=
  let coded := cs.any needsEscape
  let slashed := cs.contains '\\'
  let broken := cs.contains '\n'
  let singles := longestRun '\'' 0 cs
  let doubles := longestRun '"' 0 cs
  if !coded && !slashed && !broken && doubles = 0 then .basic
  else if !coded && !broken && singles = 0 then .literal
  else if !coded && !slashed && doubles ≤ 2 then .multilineBasic
  else if !coded && singles ≤ 2 then .multilineLiteral
  else if broken then .multilineBasic
  else .basic

def escapeChar (multiline : Bool) (c : Char) : List Char :=
  match c with
  | '\x08' => ['\\', 'b']
  | '\t' => ['\\', 't']
  | '\n' => if multiline then ['\n'] else ['\\', 'n']
  | '\x0c' => ['\\', 'f']
  | '\r' => ['\\', 'r']
  | '\\' => ['\\', '\\']
  | _ =>
    if needsEscape c then
      ['\\', 'u', '0', '0', (hexDigit (c.toNat / 16)).toUpper, (hexDigit (c.toNat % 16)).toUpper]
    else [c]

/-- Between basic quotes; a multi-line text may hold two quotes in a row, of which `run` have just
been written. -/
def escapeBasic (multiline : Bool) : Nat → List Char → List Char
  | _, [] => []
  | run, c :: rest =>
    if c = '"' then
      if multiline && run < 2 then '"' :: escapeBasic multiline (run + 1) rest
      else '\\' :: '"' :: escapeBasic multiline 0 rest
    else escapeChar multiline c ++ escapeBasic multiline 0 rest

def opening (cs : List Char) : List Char :=
  if cs.contains '\n' then ['\n'] else []

def quote (cs : List Char) : List Char :=
  match Quoting.of cs with
  | .basic => ['"'] ++ escapeBasic false 0 cs ++ ['"']
  | .literal => ['\''] ++ cs ++ ['\'']
  | .multilineBasic =>
    ['"', '"', '"'] ++ opening cs ++ escapeBasic true 0 cs ++ ['"', '"', '"']
  | .multilineLiteral => ['\'', '\'', '\''] ++ opening cs ++ cs ++ ['\'', '\'', '\'']

inductive Leaf where
  | flag (b : Bool)
  | number (n : Nat)
  | text (s : String)
  | texts (items : List String)
  deriving DecidableEq

structure Section where
  name : String
  fields : List (String × Leaf)
  deriving DecidableEq

structure Document where
  fields : List (String × Leaf)
  sections : List Section
  deriving DecidableEq

namespace Leaf

def value : Leaf → Value
  | .flag b => .bool b
  | .number n => .ofNat n
  | .text s => .text s
  | .texts items => .ofTexts items

def maxNumber : Nat := 0x7FFFFFFFFFFFFFFF

def fits : Leaf → Bool
  | .number n => decide (n ≤ maxNumber)
  | _ => true

def render : Leaf → String
  | .flag b => if b then "true" else "false"
  | .number n => toString n
  | .text s => .ofList (quote s.toList)
  | .texts [] => "[]"
  | .texts [item] => "[" ++ .ofList (quote item.toList) ++ "]"
  | .texts items =>
    "[\n" ++
      String.join (items.map fun item => "    " ++ .ofList (quote item.toList) ++ ",\n") ++ "]"

end Leaf

def renderFields (fields : List (String × Leaf)) : String :=
  String.join (fields.map fun (name, leaf) => name ++ " = " ++ leaf.render ++ "\n")

def Section.render (s : Section) : String :=
  "\n[" ++ s.name ++ "]\n" ++ renderFields s.fields

namespace Document

def value (d : Document) : Value :=
  .table (d.fields.map (fun (name, leaf) => (name, leaf.value)) ++
    d.sections.map fun s => (s.name, .table (s.fields.map fun (name, leaf) => (name, leaf.value))))

def fits (d : Document) : Bool :=
  d.fields.all (·.2.fits) && d.sections.all fun s => s.fields.all (·.2.fits)

/-- A number that is too large cannot be written, and then nothing is. -/
def render? (d : Document) : Option String :=
  if d.fits then some (renderFields d.fields ++ String.join (d.sections.map Section.render))
  else none

end Document

end NestedGroups.Toml
