import Mathlib.Control.Monad.Basic
import NestedGroups.Directory
import NestedGroups.Resolution

namespace NestedGroups

inductive Dialogue (α : Type) where
  | finish (a : α)
  | ask (q : Query) (next : Answer → Dialogue α)

structure Exchange where
  query : Query
  answer : Answer

namespace Dialogue

variable {α β σ : Type}

def bind : Dialogue α → (α → Dialogue β) → Dialogue β
  | .finish a, f => f a
  | .ask q next, f => .ask q fun answer => (next answer).bind f

instance : Monad Dialogue where
  pure := .finish
  bind := bind

@[simp] theorem bind_eq (t : Dialogue α) (f : α → Dialogue β) : t >>= f = t.bind f := rfl

@[simp] theorem finish_bind (a : α) (f : α → Dialogue β) : (finish a).bind f = f a := rfl

@[simp] theorem ask_bind (q : Query) (next : Answer → Dialogue α) (f : α → Dialogue β) :
    (ask q next).bind f = .ask q fun answer => (next answer).bind f := rfl

/-- What comes of a dialogue: its result, the state of the client, and the exchanges in order. -/
structure Run (σ α : Type) where
  result : α
  client : σ
  exchanges : List Exchange

def run (c : Client σ) : Dialogue α → σ → Run σ α
  | .finish a, s => ⟨a, s, []⟩
  | .ask q next, s =>
    let rest := (next (c.search q s).1).run c (c.search q s).2
    ⟨rest.result, rest.client, ⟨q, (c.search q s).1⟩ :: rest.exchanges⟩

theorem run_bind (c : Client σ) (t : Dialogue α) (f : α → Dialogue β) (s : σ) :
    (t.bind f).run c s =
      let first := t.run c s
      let second := (f first.result).run c first.client
      ⟨second.result, second.client, first.exchanges ++ second.exchanges⟩ := by
  induction t generalizing s with
  | finish a => rfl
  | ask q next ih => simp only [ask_bind, run, ih, List.cons_append]

end Dialogue

def Client.recorded {σ : Type} (c : Client σ) : Client (σ × List Exchange) where
  search q s :=
    let reply := c.search q s.1
    (reply.1, (reply.2, s.2 ++ [⟨q, reply.1⟩]))

def Resolver.recorded {σ : Type} (r : Resolver σ) : Resolver (σ × List Exchange) :=
  ⟨r.client.recorded, r.settings⟩

namespace Dialogue

variable {α σ : Type}

theorem run_recorded (c : Client σ) (t : Dialogue α) (s : σ) (record : List Exchange) :
    t.run c.recorded (s, record) =
      let plain := t.run c s
      ⟨plain.result, (plain.client, record ++ plain.exchanges), plain.exchanges⟩ := by
  induction t generalizing s record with
  | finish a => simp only [run, List.append_nil]
  | ask q next ih =>
    simp only [run, Client.recorded] at ih ⊢
    simp only [ih, List.append_assoc, List.singleton_append]

end Dialogue

structure Findings where
  authorities : AuthoritySet := .empty
  stats : Stats := {}
  events : List Event := []

namespace Findings

def exhaust (f : Findings) (root : String) : Findings :=
  { f with
    stats := { f.stats with exhausted := f.stats.exhausted + 1 }
    events := f.events ++ [.exhausted root] }

def cut (f : Findings) (dn : String) : Findings :=
  { f with
    stats := { f.stats with cycles := f.stats.cycles + 1 }
    events := f.events ++ [.cycle dn] }

def ask (f : Findings) (q : Query) (depth : Nat) : Findings :=
  { f with
    stats := { f.stats with queries := f.stats.queries + 1 }
    events := f.events ++ [.searching q.base q.filter q.identity q.label depth] }

def complete (f : Findings) : Findings :=
  { f with events := f.events ++ [.complete f.authorities.size f.stats] }

def progress {σ : Type} (f : Findings) (s : σ) : Progress σ :=
  ⟨s, f.authorities, f.stats, f.events⟩

end Findings

/-- A search that fails leaves its findings behind. -/
abbrev Search := ExceptT DirectoryError (StateT Findings Dialogue)

namespace Search

def ask (q : Query) (depth : Nat) : Search (List Entry) := do
  modify (·.ask q depth)
  match ← (Dialogue.ask q .finish : Dialogue Answer) with
  | .ok found => return found
  | .error e => throw e.asTransport

def insert (a : Authority) : Search Bool := do
  let f ← get
  set { f with authorities := f.authorities.insert a }
  return f.authorities.contains a

end Search

namespace GroupSearch

def query (g : GroupSearch) (base root label : String) : Query where
  base := base
  filter := g.filter
  identity := root
  label := label
  attributes := g.requested

def enter (g : GroupSearch) (e : Entry) : Search Bool :=
  (g.labels e).foldlM (fun again label => do
    let known ← Search.insert ⟨g.style.roleOf label, e.dn, e.attributes⟩
    return again || known) false

def search (g : GroupSearch) (base : String) : (depth : Nat) → (root label : String) → Search Unit
  | 0, root, _ => modify (·.exhaust root)
  | depth + 1, root, label => do
    let found ← Search.ask (g.query base root label) (depth + 1)
    forM found fun e => do
      if ← g.enter e then modify (·.cut e.dn)
      else g.search base depth e.dn ((g.labels e).head?.getD e.dn)

/-- What is done with an entry that was found: it is entered, then its own parents are searched
unless one of its authorities was there before. -/
def handle (g : GroupSearch) (base : String) (depth : Nat) (e : Entry) : Search Unit := do
  if ← g.enter e then modify (·.cut e.dn)
  else g.search base depth e.dn (g.parentLabel e)

theorem search_succ (g : GroupSearch) (base : String) (depth : Nat) (root label : String) :
    g.search base (depth + 1) root label =
      Search.ask (g.query base root label) (depth + 1) >>= fun found =>
        forM found (g.handle base depth) := rfl

/-- The search is told its depth, and reads no other limit. -/
theorem search_of_limit (g : GroupSearch) (limit : Nat) (base : String) (depth : Nat)
    (root label : String) :
    ({ g with maxDepth := limit } : GroupSearch).search base depth root label =
      g.search base depth root label := by
  induction depth generalizing root label with
  | zero => rfl
  | succ depth ih =>
    have hhandle :
        ({ g with maxDepth := limit } : GroupSearch).handle base depth = g.handle base depth := by
      funext e
      rw [handle, ih]
      rfl
    rw [search_succ, hhandle]
    rfl

end GroupSearch

namespace Search

variable {α β σ : Type}

def hold (m : Search α) (f : Findings) (c : Client σ) (s : σ) :
    Dialogue.Run σ (Except DirectoryError α × Findings) :=
  (m.run.run f).run c s

theorem hold_recorded (m : Search α) (f : Findings) (c : Client σ) (s : σ)
    (record : List Exchange) :
    m.hold f c.recorded (s, record) =
      let plain := m.hold f c s
      ⟨plain.result, (plain.client, record ++ plain.exchanges), plain.exchanges⟩ :=
  Dialogue.run_recorded c (m.run.run f) s record

theorem hold_pure (a : α) (f : Findings) (c : Client σ) (s : σ) :
    (pure a : Search α).hold f c s = ⟨(.ok a, f), s, []⟩ := rfl

theorem hold_throw (e : DirectoryError) (f : Findings) (c : Client σ) (s : σ) :
    (throw e : Search α).hold f c s = ⟨(.error e, f), s, []⟩ := rfl

theorem hold_bind (m : Search α) (k : α → Search β) (f : Findings) (c : Client σ) (s : σ) :
    (m >>= k).hold f c s =
      match m.hold f c s with
      | ⟨(.error e, f), s, record⟩ => ⟨(.error e, f), s, record⟩
      | ⟨(.ok a, f), s, record⟩ =>
        let rest := (k a).hold f c s
        ⟨rest.result, rest.client, record ++ rest.exchanges⟩ := by
  have h : (m >>= k).hold f c s =
      let first := m.hold f c s
      let rest := (match first.result with
        | (.error e, f) => (throw e : Search β).hold f c first.client
        | (.ok a, f) => (k a).hold f c first.client)
      ⟨rest.result, rest.client, first.exchanges ++ rest.exchanges⟩ := by
    rw [hold, ExceptT.run_bind, StateT.run_bind, Dialogue.bind_eq, Dialogue.run_bind]
    simp only [hold]
    rcases (Dialogue.run c ((ExceptT.run m).run f) s) with ⟨⟨e | a, f⟩, s, record⟩ <;> rfl
  rw [h]
  rcases m.hold f c s with ⟨⟨e | a, f⟩, s, record⟩
  · simp only [hold_throw, List.append_nil]
  · rfl

theorem of_hold_bind {m : Search α} {k : α → Search β} {f f' : Findings} {c : Client σ} {s : σ}
    {b : β} (h : ((m >>= k).hold f c s).result = (.ok b, f')) :
    ∃ a f₁, (m.hold f c s).result = (.ok a, f₁) ∧
      let rest := (k a).hold f₁ c (m.hold f c s).client
      rest.result = (.ok b, f') ∧
        ((m >>= k).hold f c s).exchanges = (m.hold f c s).exchanges ++ rest.exchanges := by
  rw [hold_bind] at h ⊢
  generalize m.hold f c s = first at h ⊢
  rcases first with ⟨⟨e | a, f₁⟩, s₁, record⟩
  · cases h
  · exact ⟨a, f₁, rfl, h, rfl⟩

theorem hold_insert (a : Authority) (f : Findings) (c : Client σ) (s : σ) :
    (insert a).hold f c s =
      ⟨(.ok (f.authorities.contains a), { f with authorities := f.authorities.insert a }), s, []⟩ :=
  rfl

theorem hold_ask (q : Query) (depth : Nat) (f : Findings) (c : Client σ) (s : σ) :
    (ask q depth).hold f c s =
      match c.search q s with
      | (.error e, s) => ⟨(.error e.asTransport, f.ask q depth), s, [⟨q, .error e⟩]⟩
      | (.ok found, s) => ⟨(.ok found, f.ask q depth), s, [⟨q, .ok found⟩]⟩ := by
  have h : (ask q depth).hold f c s =
      let reply := c.search q s
      let rest := (match reply.1 with
        | .ok found => (pure found : Search (List Entry))
        | .error e => throw e.asTransport).hold (f.ask q depth) c reply.2
      ⟨rest.result, rest.client, ⟨q, reply.1⟩ :: rest.exchanges⟩ := rfl
  rw [h]
  rcases c.search q s with ⟨e | found, s⟩ <;> rfl

end Search

namespace GroupSearch

variable {σ : Type}

theorem hold_enter (g : GroupSearch) (e : Entry) (f : Findings) (c : Client σ) (s : σ) :
    (g.enter e).hold f c s =
      let (all, again) := f.authorities.register (g.authorities e)
      ⟨(.ok again, { f with authorities := all }), s, []⟩ := by
  have h (labels : List String) (before : Bool) (f : Findings) :
      (labels.foldlM (fun again label => do
        let known ← Search.insert ⟨g.style.roleOf label, e.dn, e.attributes⟩
        return again || known) before : Search Bool).hold f c s =
      let (all, again) := f.authorities.register
        (labels.map fun label => ⟨g.style.roleOf label, e.dn, e.attributes⟩)
      ⟨(.ok (before || again), { f with authorities := all }), s, []⟩ := by
    induction labels generalizing before f with
    | nil => simp only [List.foldlM_nil, List.map_nil, AuthoritySet.register, Bool.or_false,
        Search.hold_pure]
    | cons label labels ih =>
      simp only [List.foldlM_cons, Search.hold_bind, Search.hold_insert, Search.hold_pure, ih,
        List.map_cons, AuthoritySet.register, List.nil_append, Bool.or_assoc]
  exact h (g.labels e) false f

theorem hold_handle_of_again {g : GroupSearch} {base : String} {depth : Nat} {e : Entry}
    {f : Findings} {all : AuthoritySet} (c : Client σ) (s : σ)
    (h : f.authorities.register (g.authorities e) = (all, true)) :
    (g.handle base depth e).hold f c s =
      ⟨(.ok (), { f with authorities := all }.cut e.dn), s, []⟩ := by
  rw [handle, Search.hold_bind, hold_enter, h]
  rfl

theorem hold_handle_of_new {g : GroupSearch} {base : String} {depth : Nat} {e : Entry}
    {f : Findings} {all : AuthoritySet} (c : Client σ) (s : σ)
    (h : f.authorities.register (g.authorities e) = (all, false)) :
    (g.handle base depth e).hold f c s =
      (g.search base depth e.dn (g.parentLabel e)).hold { f with authorities := all } c s := by
  rw [handle, Search.hold_bind, hold_enter, h]
  rfl

theorem hold_search_of_error {g : GroupSearch} {base root label : String} {depth : Nat}
    {f : Findings} {c : Client σ} {s s' : σ} {e : DirectoryError}
    (h : c.search (g.query base root label) s = (.error e, s')) :
    (g.search base (depth + 1) root label).hold f c s =
      ⟨(.error e.asTransport, f.ask (g.query base root label) (depth + 1)), s',
        [⟨g.query base root label, .error e⟩]⟩ := by
  rw [search_succ, Search.hold_bind, Search.hold_ask, h]

theorem hold_search_of_ok {g : GroupSearch} {base root label : String} {depth : Nat}
    {f : Findings} {c : Client σ} {s s' : σ} {found : List Entry}
    (h : c.search (g.query base root label) s = (.ok found, s')) :
    (g.search base (depth + 1) root label).hold f c s =
      let rest := (forM found (g.handle base depth)).hold
        (f.ask (g.query base root label) (depth + 1)) c s'
      ⟨rest.result, rest.client, ⟨g.query base root label, .ok found⟩ :: rest.exchanges⟩ := by
  rw [search_succ, Search.hold_bind, Search.hold_ask, h]
  rfl

end GroupSearch

end NestedGroups
