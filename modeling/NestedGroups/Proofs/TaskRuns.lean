import NestedGroups.Console.FileTree
import NestedGroups.Program

namespace NestedGroups.Desk

variable {α β : Type}

/-- What a task comes to at a desk, and the desk that it leaves. -/
def run (d : Desk) (t : Task α) : Except Failure α × Desk :=
  d.play t.run

/-- The line that is read after `n` others; behind the last all lines are empty. -/
def line (d : Desk) (n : Nat) : Except IoFault String :=
  (d.input[n]?).getD (.ok "")

def afterLine (d : Desk) : Desk :=
  { d with input := d.input.tail }

theorem line_afterLine (d : Desk) (n : Nat) : d.afterLine.line n = d.line (n + 1) := by
  rw [line, line, afterLine, List.getElem?_tail]

theorem line_print (d : Desk) (channel : Channel) (text : String) (n : Nat) :
    (d.print channel text).line n = d.line n := by
  cases channel <;> rfl

theorem perform_readLine (d : Desk) : d.perform .readLine = (d.line 0, d.afterLine) := by
  rcases d with ⟨files, here, _ | ⟨first, input⟩, output, errors⟩ <;> rfl

theorem run_lift (d : Desk) (e : Except Failure α) : d.run (liftM e) = (e, d) := by
  cases e <;> rfl

theorem run_bind (d : Desk) (t : Task α) (f : α → Task β) :
    d.run (t >>= f) =
      match d.run t with
      | (.error failure, d) => (.error failure, d)
      | (.ok a, d) => d.run (f a) := by
  rw [run, ExceptT.run_bind, Script.bind_eq, play_bind]
  simp only [run]
  rcases d.play t.run with ⟨failure | a, d'⟩ <;> rfl

theorem run_tell (d : Desk) (channel : Channel) (text : String) :
    d.run (.tell channel text) = (.ok (), d.print channel text) := rfl

theorem run_lookUp (d : Desk) (path : String) :
    d.run (.lookUp path) = (.ok (d.files.contains d.here path), d) := rfl

theorem run_readLine (d : Desk) : d.run .readLine = ((d.line 0).mapError .io, d.afterLine) := by
  change ((d.perform .readLine).1.mapError Failure.io, (d.perform .readLine).2) = _
  rw [perform_readLine]

theorem run_readFile (d : Desk) (path : String) :
    d.run (.readFile path) = ((d.files.read d.here path).mapError .io, d) := rfl

def changed (d : Desk) : Except IoFault FileTree → Except Failure Unit × Desk
  | .ok files => (.ok (), { d with files })
  | .error fault => (.error (.io fault), d)

theorem run_makeFolders (d : Desk) (path : String) :
    d.run (.makeFolders path) = d.changed (d.files.makeParents d.here path) := by
  change ((d.change _).1.mapError Failure.io, (d.change _).2) = _
  cases d.files.makeParents d.here path <;> rfl

theorem run_writeFile (d : Desk) (path text : String) :
    d.run (.writeFile path text) = d.changed (d.files.write d.here path text) := by
  change ((d.change _).1.mapError Failure.io, (d.change _).2) = _
  cases d.files.write d.here path text <;> rfl

theorem run_ask_of_line (label current : String) {d : Desk} {line : String}
    (h : d.line 0 = .ok line) :
    ∃ output, d.run (Prompt.ask label current) =
      (.ok (Prompt.answerOr current line), { d with input := d.input.tail, output }) := by
  rw [Prompt.ask, run_bind, run_tell]
  dsimp only
  rw [run_bind, run_readLine, line_print, h]
  exact ⟨_, rfl⟩

theorem run_confirm_of_line (question : String) {d : Desk} {line : String}
    (h : d.line 0 = .ok line) :
    ∃ output, d.run (Prompt.confirm question) =
      (.ok (Prompt.isYes line), { d with input := d.input.tail, output }) := by
  rw [Prompt.confirm, run_bind, run_tell]
  dsimp only
  rw [run_bind, run_readLine, line_print, h]
  exact ⟨_, rfl⟩

theorem run_load (d : Desk) (path : String) :
    d.run (Settings.load path) =
      (if d.files.contains d.here path then
        ((d.files.read d.here path).mapError .io).bind Settings.ofFileText
      else .ok {}, d) := by
  rw [Settings.load, run_bind, run_lookUp]
  dsimp only
  split
  · rw [run_bind, run_readFile]
    cases d.files.read d.here path with
    | error => rfl
    | ok text => exact run_lift d (Settings.ofFileText text)
  · rfl

def report (host : Program.Host) (context : String) : Except Failure Unit × Desk → Nat × Desk
  | (.error failure, d) =>
    (Program.statusOf failure, d.print .errors (failure.told host.wording context))
  | (.ok (), d) => (Program.succeeded, d)

theorem play_report (d : Desk) (host : Program.Host) (context : String) (t : Task Unit) :
    d.play (t.run.bind fun
      | .error failure => Program.reportFailure host context failure
      | .ok () => .finish Program.succeeded) = report host context (d.run t) := by
  rw [play_bind, run]
  rcases d.play t.run with ⟨failure | _, after⟩ <;> rfl

theorem play_run (d : Desk) (network : Network) (host : Program.Host) (i : Invocation) :
    d.play (Program.run network host i) =
      match Settings.pathOf host.home i.settingsPath with
      | .error failure => report host "Failed to load configuration: " (.error failure, d)
      | .ok path =>
        match (d.run (Settings.load path)).1 with
        | .error failure => report host "Failed to load configuration: " (.error failure, d)
        | .ok s => report host "" (d.run (Program.execute network host i path s)) := by
  rw [Program.run, Script.bind_eq, play_bind, ← run, run_bind, run_lift]
  cases hpath : Settings.pathOf host.home i.settingsPath with
  | error failure => rfl
  | ok path =>
    dsimp only
    rw [run_bind, run_load]
    generalize (if d.files.contains d.here path then _ else _) = loaded
    cases loaded with
    | error failure => rfl
    | ok s => exact play_report d host "" (Program.execute network host i path s)

end NestedGroups.Desk
