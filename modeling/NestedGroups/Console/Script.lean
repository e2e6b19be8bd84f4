import NestedGroups.Failure
import NestedGroups.Text.Basic
import NestedGroups.Text.Case

namespace NestedGroups

inductive Channel where
  | output
  | errors
  deriving DecidableEq

inductive Action where
  | print (channel : Channel) (text : String)
  | readLine
  | lookUp (path : String)
  | readFile (path : String)
  | makeFolders (path : String)
  | writeFile (path text : String)
  deriving DecidableEq

/-- A line comes with its line break; there are empty lines without one after the last. -/
abbrev Action.Reply : Action → Type
  | .print _ _ => Unit
  | .readLine => Except IoFault String
  | .lookUp _ => Bool
  | .readFile _ => Except IoFault String
  | .makeFolders _ => Except IoFault Unit
  | .writeFile _ _ => Except IoFault Unit

inductive Script (α : Type) where
  | finish (result : α)
  | act (action : Action) (next : action.Reply → Script α)

namespace Script

variable {α β : Type}

def bind : Script α → (α → Script β) → Script β
  | .finish a, f => f a
  | .act action next, f => .act action fun reply => (next reply).bind f

instance : Monad Script where
  pure := .finish
  bind := bind

@[simp] theorem pure_eq (a : α) : (pure a : Script α) = .finish a := rfl

@[simp] theorem bind_eq (s : Script α) (f : α → Script β) : s >>= f = s.bind f := rfl

@[simp] theorem finish_bind (a : α) (f : α → Script β) : (finish a).bind f = f a := rfl

@[simp] theorem act_bind (action : Action) (next : action.Reply → Script α) (f : α → Script β) :
    (act action next).bind f = .act action fun reply => (next reply).bind f := rfl

def perform (action : Action) : Script action.Reply :=
  .act action .finish

end Script

abbrev Task := ExceptT Failure Script

namespace Task

variable {α : Type}

def ofScript (s : Script α) : Task α :=
  ExceptT.lift s

/-- A fault of an action ends the task. -/
def ofAttempt (s : Script (Except IoFault α)) : Task α :=
  ExceptT.mk do return (← s).mapError .io

def tell (channel : Channel) (text : String) : Task Unit :=
  ofScript (.perform (.print channel text))

def readLine : Task String :=
  ofAttempt (.perform .readLine)

def lookUp (path : String) : Task Bool :=
  ofScript (.perform (.lookUp path))

def readFile (path : String) : Task String :=
  ofAttempt (.perform (.readFile path))

def makeFolders (path : String) : Task Unit :=
  ofAttempt (.perform (.makeFolders path))

def writeFile (path text : String) : Task Unit :=
  ofAttempt (.perform (.writeFile path text))

end Task

namespace Prompt

open NestedGroups.Text

/-- An answer that says nothing keeps the current value. -/
def answerOr (current line : String) : String :=
  let answer := trim line
  if answer.isEmpty then current else answer

def ask (label current : String) : Task String := do
  .tell .output (label ++ " [" ++ current ++ "]: ")
  return answerOr current (← .readLine)

def isYes (line : String) : Bool :=
  sameFold (trim line) "y" || sameFold (trim line) "yes"

def confirm (question : String) : Task Bool := do
  .tell .output (question ++ " [y/N]: ")
  return isYes (← .readLine)

end Prompt

end NestedGroups
