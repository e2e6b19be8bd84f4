import NestedGroups.Directory
import NestedGroups.Entry
import NestedGroups.Filter
import NestedGroups.GroupSearch

namespace NestedGroups

structure Stats where
  queries : Nat := 0
  /-- Branches given up because an authority was found again. -/
  cycles : Nat := 0
  /-- Branches given up because the depth was used up. -/
  exhausted : Nat := 0
  deriving DecidableEq

inductive Event where
  | disabled
  | searching (base : String) (filter : Filter.Template) (root label : String) (depth : Nat)
  | exhausted (root : String)
  | cycle (dn : String)
  | complete (authorities : Nat) (stats : Stats)
  deriving DecidableEq

namespace Event

inductive Level where
  | debug
  | info
  | warn
  deriving DecidableEq

def level : Event → Level
  | .disabled => .info
  | .cycle _ => .warn
  | _ => .debug

def message : Event → String
  | .disabled => "No group search base configured; nested group search is disabled"
  | .searching .. => "Searching for parent groups"
  | .exhausted _ => "Search depth exhausted"
  | .cycle _ => "Membership cycle detected; not searching parents of this group"
  | .complete .. => "Nested group search complete"

def fields : Event → List (String × String)
  | .disabled => []
  | .searching base filter root label depth =>
    [("base", base), ("filter", filter.text), ("root", root), ("label", label),
      ("depth", toString depth)]
  | .exhausted root => [("root", root)]
  | .cycle dn => [("dn", dn)]
  | .complete authorities stats =>
    [("authorities", toString authorities), ("queries", toString stats.queries),
      ("cycles", toString stats.cycles), ("depth_exhausted", toString stats.exhausted)]

def Level.word : Level → String
  | .debug => "DEBUG"
  | .info => "INFO"
  | .warn => "WARN"

def Level.filters : Level → List String
  | .warn => ["warn", "info", "debug", "trace"]
  | .info => ["info", "debug", "trace"]
  | .debug => ["debug", "trace"]

def line (e : Event) : String :=
  e.level.word ++ " " ++ e.message ++
    String.join (e.fields.map fun (name, value) => " " ++ name ++ "=" ++ value) ++ "\n"

end Event

/-- How events are told: which of them a filter lets through, and the line of an event, where the
time and the principal that is resolved may stand as well. -/
structure Log where
  filter : Option String := none
  admits : String → Event → Bool
  line : Event → String

namespace Log

def plain : Log where
  admits filter e := e.level.filters.contains filter
  line := Event.line

/-- Unless a filter is given, warnings are told, and everything else on demand. -/
def tells (log : Log) (verbose : Bool) (e : Event) : Bool :=
  log.admits (log.filter.getD (if verbose then "debug" else "warn")) e

end Log

structure Frame where
  entries : List Entry
  depth : Nat
  deriving DecidableEq

namespace Frame

/-- The first stack may come next after the second. -/
inductive Follows : List Frame → List Frame → Prop
  | close (depth : Nat) (rest : List Frame) : Follows rest (⟨[], depth⟩ :: rest)
  | skip (e : Entry) (es : List Entry) (depth : Nat) (rest : List Frame) :
      Follows (⟨es, depth⟩ :: rest) (⟨e :: es, depth⟩ :: rest)
  | descend (e : Entry) (es found : List Entry) {inner depth : Nat} (rest : List Frame)
      (h : inner < depth) :
      Follows (⟨found, inner⟩ :: ⟨es, depth⟩ :: rest) (⟨e :: es, depth⟩ :: rest)

theorem acc_nil : Acc Follows [] :=
  ⟨_, fun _ h => nomatch h⟩

theorem acc_cons (depth : Nat) (entries : List Entry) {rest : List Frame}
    (hrest : Acc Follows rest) : Acc Follows (⟨entries, depth⟩ :: rest) := by
  induction depth using Nat.strongRecOn generalizing entries rest with
  | ind depth ihDepth =>
    induction entries with
    | nil =>
      constructor
      intro next h
      cases h with
      | close => exact hrest
    | cons e es ih =>
      constructor
      intro next h
      cases h with
      | skip => exact ih
      | descend _ _ found _ hlt => exact ihDepth _ hlt found ih

theorem follows_wf : WellFounded Follows := by
  constructor
  intro stack
  induction stack with
  | nil => exact acc_nil
  | cons frame rest ih => exact acc_cons frame.depth frame.entries ih

instance : WellFoundedRelation (List Frame) :=
  ⟨Follows, follows_wf⟩

end Frame

structure Progress (σ : Type) where
  client : σ
  authorities : AuthoritySet := .empty
  stats : Stats := {}
  events : List Event := []

namespace Progress

variable {σ : Type}

def exhaust (p : Progress σ) (root : String) : Progress σ :=
  { p with
    stats := { p.stats with exhausted := p.stats.exhausted + 1 }
    events := p.events ++ [.exhausted root] }

def cut (p : Progress σ) (dn : String) : Progress σ :=
  { p with
    stats := { p.stats with cycles := p.stats.cycles + 1 }
    events := p.events ++ [.cycle dn] }

/-- Asks the client, and counts the query whatever comes back. -/
def ask (p : Progress σ) (client : Client σ) (q : Query) (depth : Nat) : Answer × Progress σ :=
  let (answer, state) := client.search q p.client
  (answer,
    { p with
      client := state
      stats := { p.stats with queries := p.stats.queries + 1 }
      events := p.events ++ [.searching q.base q.filter q.identity q.label depth] })

end Progress

structure Resolution where
  authorities : AuthoritySet := .empty
  stats : Stats := {}
  deriving DecidableEq

structure Outcome (σ : Type) where
  result : Except DirectoryError Resolution
  client : σ
  events : List Event

namespace Progress

variable {σ : Type}

def succeed (p : Progress σ) : Outcome σ :=
  ⟨.ok ⟨p.authorities, p.stats⟩, p.client, p.events⟩

def fail (p : Progress σ) (e : DirectoryError) : Outcome σ :=
  ⟨.error e, p.client, p.events⟩

def complete (p : Progress σ) : Progress σ :=
  { p with events := p.events ++ [.complete p.authorities.size p.stats] }

end Progress

inductive Step (σ : Type) where
  | finished
  | failed (e : DirectoryError) (p : Progress σ)
  | running (stack : List Frame) (p : Progress σ)

structure Resolver (σ : Type) where
  client : Client σ
  settings : GroupSearch

namespace Resolver

variable {σ : Type}

def query (r : Resolver σ) (base root label : String) : Query where
  base := base
  filter := r.settings.filter
  identity := root
  label := label
  attributes := r.settings.requested

def descend (r : Resolver σ) (base root label : String) (depth : Nat) (stack : List Frame)
    (p : Progress σ) : Step σ :=
  match depth with
  | 0 => .running stack (p.exhaust root)
  | depth + 1 =>
    match p.ask r.client (r.query base root label) (depth + 1) with
    | (.error e, p) => .failed e.asTransport p
    | (.ok found, p) => .running (⟨found, depth + 1⟩ :: stack) p

def visit (r : Resolver σ) (base : String) (e : Entry) (depth : Nat) (stack : List Frame)
    (p : Progress σ) : Step σ :=
  let (found, again) := p.authorities.register (r.settings.authorities e)
  let p := { p with authorities := found }
  if again then .running stack (p.cut e.dn)
  else r.descend base e.dn (r.settings.parentLabel e) (depth - 1) stack p

def step (r : Resolver σ) (base : String) : List Frame → Progress σ → Step σ
  | [], _ => .finished
  | ⟨[], _⟩ :: rest, p => .running rest p
  | ⟨e :: es, depth⟩ :: rest, p => r.visit base e depth (⟨es, depth⟩ :: rest) p

theorem descend_eq_running {r : Resolver σ} {base root label : String} {depth : Nat}
    {stack next : List Frame} {p q : Progress σ}
    (h : r.descend base root label depth stack p = .running next q) :
    next = stack ∨ ∃ found, 0 < depth ∧ next = ⟨found, depth⟩ :: stack := by
  cases depth with
  | zero =>
    cases h
    exact .inl rfl
  | succ depth =>
    rw [descend] at h
    split at h
    · cases h
    · cases h
      exact .inr ⟨_, Nat.succ_pos _, rfl⟩

theorem step_follows {r : Resolver σ} {base : String} {stack next : List Frame}
    {p q : Progress σ} (h : r.step base stack p = .running next q) :
    Frame.Follows next stack := by
  match stack, h with
  | ⟨[], depth⟩ :: rest, h =>
    cases h
    exact .close depth _
  | ⟨e :: es, depth⟩ :: rest, h =>
    simp only [step, visit] at h
    split at h
    · cases h
      exact .skip e es depth rest
    · rcases descend_eq_running h with rfl | ⟨found, hpos, rfl⟩
      · exact .skip e es depth rest
      · exact .descend e es found rest (by omega)

def loop (r : Resolver σ) (base : String) (stack : List Frame) (p : Progress σ) : Outcome σ :=
  match _h : r.step base stack p with
  | .finished => p.complete.succeed
  | .failed e p => p.fail e
  | .running next q => r.loop base next q
termination_by stack
decreasing_by exact step_follows _h

/-- The authorities that a principal has through groups. Without a base there are none, and a depth
of zero allows no query at all. -/
def resolve (r : Resolver σ) (dn label : String) (state : σ) : Outcome σ :=
  let start : Progress σ := { client := state }
  match r.settings.base, r.settings.maxDepth with
  | none, _ => start.succeed
  | some _, 0 => (start.exhaust dn).succeed
  | some base, depth + 1 =>
    match r.descend base dn label (depth + 1) [] start with
    | .finished => start.succeed
    | .failed e p => p.fail e
    | .running stack p => r.loop base stack p

def granted (r : Resolver σ) (dn label : String) (state : σ) : Outcome σ :=
  let outcome := r.resolve dn label state
  { outcome with
    result := outcome.result.map fun found =>
      { found with authorities := r.settings.grantDefault dn found.authorities } }

def announcements (r : Resolver σ) : List Event :=
  if r.settings.isEnabled then [] else [.disabled]

end Resolver

end NestedGroups
