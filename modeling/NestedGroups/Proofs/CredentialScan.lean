import NestedGroups.CommandLine.Invocation
import NestedGroups.Console.Script

namespace NestedGroups

/-- Computations that fail alike, or come to results that are related. Where that is tolerated, the
first need not fail with the second. -/
inductive Tracks {ε α β : Type} (lenient : Bool) (R : α → β → Prop) :
    Except ε α → Except ε β → Prop
  | ok {a : α} {b : β} (h : R a b) : Tracks lenient R (.ok a) (.ok b)
  | error (e : ε) : Tracks lenient R (.error e) (.error e)
  | lenient (h : lenient = true) (x : Except ε α) (e : ε) : Tracks lenient R x (.error e)

namespace Tracks

variable {ε α β γ δ ι : Type} {lenient : Bool} {R R' : α → β → Prop} {Q : γ → δ → Prop}
  {x : Except ε α} {y : Except ε β}

theorem mono (h : Tracks lenient R x y) (hR : ∀ a b, R a b → R' a b) : Tracks lenient R' x y := by
  cases h with
  | ok h => exact .ok (hR _ _ h)
  | error e => exact .error e
  | lenient h x e => exact .lenient h x e

theorem bind {f : α → Except ε γ} {k : β → Except ε δ} (h : Tracks lenient R x y)
    (hfk : ∀ a b, R a b → Tracks lenient Q (f a) (k b)) :
    Tracks lenient Q (x >>= f) (y >>= k) := by
  cases h with
  | ok h => exact hfk _ _ h
  | error e => exact .error e
  | lenient h x e => exact .lenient h _ e

theorem bind_self {x : Except ε ι} {f : ι → Except ε γ} {k : ι → Except ε δ}
    (hfk : ∀ a, x = .ok a → Tracks lenient Q (f a) (k a)) :
    Tracks lenient Q (x >>= f) (x >>= k) := by
  cases x with
  | error e => exact .error e
  | ok a => exact hfk a rfl

theorem foldlM {f : α → ι → Except ε α} {k : β → ι → Except ε β} (items : List ι)
    (hfk : ∀ a b item, R a b → Tracks lenient R (f a item) (k b item)) {a : α} {b : β}
    (h : R a b) : Tracks lenient R (items.foldlM f a) (items.foldlM k b) := by
  induction items generalizing a b with
  | nil => exact .ok h
  | cons item items ih =>
    rw [List.foldlM_cons, List.foldlM_cons]
    exact (hfk a b item h).bind fun a b h => ih h

theorem cases_strict (h : Tracks false R x y) :
    (∃ e, x = .error e ∧ y = .error e) ∨ ∃ a b, x = .ok a ∧ y = .ok b ∧ R a b := by
  cases h with
  | ok h => exact .inr ⟨_, _, rfl, rfl, h⟩
  | error e => exact .inl ⟨e, rfl, rfl⟩
  | lenient h => cases h

theorem exists_of_ok {b : β} (h : Tracks lenient R x (.ok b)) : ∃ a, x = .ok a ∧ R a b := by
  cases h with
  | ok h => exact ⟨_, rfl, h⟩

end Tracks

/-- Computations that fail alike, or come to results that look alike. -/
abbrev Agree {ε α β : Type} (view : α → β) : Except ε α → Except ε α → Prop :=
  Tracks false fun a b => view a = view b

theorem agree_of_map_eq {ε α β : Type} {view : α → β} {x y : Except ε α}
    (h : x.map view = y.map view) : Agree view x y := by
  cases x with
  | error e =>
    cases y with
    | error e' =>
      cases h
      exact .error e
    | ok b => cases h
  | ok a =>
    cases y with
    | error e => cases h
    | ok b => exact .ok (Except.ok.inj h)

theorem Agree.bind_eq {α β γ : Type} {view : α → β} {x y : Except Failure α} {f g : α → Task γ}
    (h : Agree view x y) (hfg : ∀ a b, x = .ok a → y = .ok b → view a = view b → f a = g b) :
    (liftM x : Task α) >>= f = (liftM y : Task α) >>= g := by
  rcases h.cases_strict with ⟨e, rfl, rfl⟩ | ⟨a, b, rfl, rfl, hview⟩
  · rfl
  · exact hfg a b rfl rfl hview

namespace CommandLine

variable {lenient : Bool} {mask : String → String} {g : Grammar}

/-- A value with the mask over it if it is a credential. -/
def Switch.masked (mask : String → String) : Switch → String → String
  | .credential, value => mask value
  | _, value => value

theorem Switch.eq_of_masked {switch : Switch} (h : switch ≠ .credential) {value value' : String}
    (hvalue : switch.masked mask value = switch.masked mask value') : value = value' := by
  cases switch <;> first | exact hvalue | exact (h rfl).elim

namespace Scan

variable {s t : Scan}

def maskedPending (mask : String → String) (s : Scan) : Option (Switch × Option String) :=
  s.pending.map fun (switch, value) => (switch, value.map (switch.masked mask))

/-- Scans that are the same behind the mask. Where that is tolerated, the first may lack a
credential that the second has. -/
structure Like (lenient : Bool) (mask : String → String) (s t : Scan) : Prop where
  others : ∀ switch, switch ≠ .credential → s.value? switch = t.value? switch
  credential : (s.value? .credential).map mask = (t.value? .credential).map mask ∨
    lenient = true ∧ s.value? .credential = none
  pending : s.maskedPending mask = t.maskedPending mask
  operands : s.operands = t.operands

theorem value?_append (s : Scan) (switch other : Switch) (value : String) :
    ({ s with given := s.given ++ [(switch, value)] } : Scan).value? other =
      (s.value? other).or (if other = switch then some value else none) := by
  rw [value?, value?, List.lookup_append, List.lookup_cons, List.lookup_nil]
  by_cases h : other = switch
  · rw [h, beq_self_eq_true, if_pos rfl]
  · rw [beq_false_of_ne h, if_neg h]

namespace Like

theorem refl (s : Scan) : s.Like lenient mask s :=
  ⟨fun _ _ => rfl, .inl rfl, rfl, rfl⟩

theorem isGiven_cases (h : s.Like lenient mask t) (switch : Switch) :
    s.isGiven switch = t.isGiven switch ∨ lenient = true ∧ t.isGiven switch = true := by
  rw [isGiven, isGiven]
  by_cases hswitch : switch = .credential
  · subst hswitch
    rcases h.credential with hmask | ⟨hlenient, hnone⟩
    · have hsome := congrArg Option.isSome hmask
      rw [Option.isSome_map, Option.isSome_map] at hsome
      exact .inl hsome
    · rw [hnone]
      cases hgiven : (t.value? .credential).isSome with
      | false => exact .inl rfl
      | true => exact .inr ⟨hlenient, rfl⟩
  · exact .inl (congrArg Option.isSome (h.others switch hswitch))

theorem append (h : s.Like lenient mask t) {switch : Switch} {value value' : String}
    (hvalue : switch.masked mask value = switch.masked mask value')
    (hs : s.isGiven switch = false) (ht : t.isGiven switch = false) :
    Like lenient mask { s with given := s.given ++ [(switch, value)] }
      { t with given := t.given ++ [(switch, value')] } where
  others other hother := by
    rw [value?_append, value?_append, h.others other hother]
    split
    · rename_i hswitch
      rw [Switch.eq_of_masked (hswitch ▸ hother) hvalue]
    · rfl
  credential := by
    rw [value?_append, value?_append]
    split
    · rename_i hswitch
      subst hswitch
      rw [isGiven, Option.isSome_eq_false_iff, Option.isNone_iff_eq_none] at hs ht
      rw [hs, ht]
      exact .inl (congrArg some hvalue)
    · rw [Option.or_none, Option.or_none]
      exact h.credential
  pending := h.pending
  operands := h.operands

theorem take (h : s.Like lenient mask t) {switch : Switch} {value value' : String}
    (hvalue : switch.masked mask value = switch.masked mask value') :
    Tracks lenient (Like lenient mask) (s.take switch value) (t.take switch value') := by
  have hfits : switch.fits value = switch.fits value' := by
    cases switch <;> first | rfl | exact congrArg _ hvalue
  rw [Scan.take, Scan.take, hfits]
  rcases h.isGiven_cases switch with hgiven | ⟨hlenient, hgiven⟩
  · rw [hgiven]
    split
    · exact .error _
    · rename_i hnot
      rw [Bool.not_eq_true] at hnot
      split
      · exact .ok (h.append hvalue (hgiven.trans hnot) hnot)
      · rename_i hunfit
        have hswitch : switch ≠ .credential := by
          rintro rfl
          exact hunfit rfl
        rw [Switch.eq_of_masked hswitch hvalue]
        exact .error _
  · rw [if_pos hgiven]
    exact .lenient hlenient _ _

theorem pending_cases (h : s.Like lenient mask t) :
    (s.pending = none ∧ t.pending = none) ∨
      (∃ switch, s.pending = some (switch, none) ∧ t.pending = some (switch, none)) ∨
      ∃ switch value value', s.pending = some (switch, some value) ∧
        t.pending = some (switch, some value') ∧
        switch.masked mask value = switch.masked mask value' := by
  have hpending := h.pending
  rw [maskedPending, maskedPending] at hpending
  cases hs : s.pending with
  | none =>
    rw [hs, Option.map_none, eq_comm, Option.map_eq_none_iff] at hpending
    exact .inl ⟨rfl, hpending⟩
  | some pending =>
    obtain ⟨switch, value⟩ := pending
    rw [hs, Option.map_some, eq_comm, Option.map_eq_some_iff] at hpending
    obtain ⟨⟨switch', value'⟩, ht, hsame⟩ := hpending
    obtain ⟨rfl, hvalue⟩ := Prod.mk.inj hsame
    cases value with
    | none =>
      rw [Option.map_none, Option.map_eq_none_iff] at hvalue
      exact .inr (.inl ⟨switch', rfl, hvalue ▸ ht⟩)
    | some value =>
      rw [Option.map_some, Option.map_eq_some_iff] at hvalue
      obtain ⟨other, rfl, hother⟩ := hvalue
      exact .inr (.inr ⟨switch', value, other, rfl, ht, hother.symm⟩)

theorem isAwaiting_eq (h : s.Like lenient mask t) : s.isAwaiting = t.isAwaiting := by
  rw [isAwaiting, isAwaiting]
  rcases h.pending_cases with ⟨hs, ht⟩ | ⟨switch, hs, ht⟩ | ⟨switch, value, value', hs, ht, -⟩ <;>
    rw [hs, ht]

theorem settle (h : s.Like lenient mask t) :
    Tracks lenient (Like lenient mask) s.settle t.settle := by
  rw [Scan.settle, Scan.settle]
  rcases h.pending_cases with ⟨hs, ht⟩ | ⟨switch, hs, ht⟩ | ⟨switch, value, value', hs, ht, hvalue⟩
  · rw [hs, ht]
    exact .ok h
  · rw [hs, ht]
    exact .error _
  · rw [hs, ht]
    have hbare : Like lenient mask { s with pending := none } { t with pending := none } :=
      ⟨h.others, h.credential, rfl, h.operands⟩
    exact hbare.take hvalue

end Like

theorem settle_of_pending (h : s.pending = none) : s.settle = .ok s := by
  rw [settle, h]

theorem eq_of_take {switch : Switch} {value : String} (h : s.take switch value = .ok t) :
    s.isGiven switch = false ∧ t = { s with given := s.given ++ [(switch, value)] } := by
  rw [take] at h
  split at h
  · cases h
  · rename_i hgiven
    split at h
    · cases h
      exact ⟨Bool.eq_false_iff.2 hgiven, rfl⟩
    · cases h

theorem settled_of_settle (h : s.settle = .ok t) :
    s.isAwaiting = false ∧ t.pending = none ∧ t.operands = s.operands := by
  rw [settle] at h
  rw [isAwaiting]
  split at h
  · rename_i hpending
    cases h
    rw [hpending]
    exact ⟨rfl, rfl, rfl⟩
  · cases h
  · rename_i hpending
    obtain ⟨-, rfl⟩ := eq_of_take h
    rw [hpending]
    exact ⟨rfl, rfl, rfl⟩

theorem take_credential (s : Scan) (credential : String) :
    Tracks true (Like true mask) (.ok s) (s.take .credential credential) := by
  cases htake : s.take .credential credential with
  | error e => exact .lenient rfl _ e
  | ok t =>
    obtain ⟨hgiven, rfl⟩ := eq_of_take htake
    rw [isGiven, Option.isSome_eq_false_iff, Option.isNone_iff_eq_none] at hgiven
    apply Tracks.ok
    constructor
    · intro switch hswitch
      rw [value?_append, if_neg hswitch, Option.or_none]
    · exact .inr ⟨rfl, hgiven⟩
    · rfl
    · rfl

/-- Scans after which reading goes on alike: they are like each other, or will be once both are
settled, which is the first thing that any argument does unless a value is awaited. -/
inductive Alike (lenient : Bool) (mask : String → String) (s t : Scan) : Prop
  | like (h : s.Like lenient mask t)
  | settled (hs : s.isAwaiting = false) (ht : t.isAwaiting = false)
      (hoperands : s.operands = t.operands)
      (h : Tracks lenient (Like lenient mask) s.settle t.settle)

theorem plain_of_not_awaiting {s : Scan} (h : s.isAwaiting = false) (argument : String) :
    s.plain g argument = s.operand g argument := by
  obtain ⟨given, _ | ⟨switch, _ | value⟩, operands⟩ := s
  · rfl
  · cases h
  · rfl

def step (g : Grammar) (s : Scan) (argument : String) : Except Rejection Scan :=
  match Token.ofArgument argument with
  | .long name value => s.long g name value
  | .short letters => s.short g letters
  | _ => s.plain g argument

namespace Alike

theorem settle (h : s.Alike lenient mask t) :
    Tracks lenient (Like lenient mask) s.settle t.settle := by
  cases h with
  | like h => exact h.settle
  | settled _ _ _ h => exact h

theorem isAwaiting_eq (h : s.Alike lenient mask t) : s.isAwaiting = t.isAwaiting := by
  cases h with
  | like h => exact h.isAwaiting_eq
  | settled hs ht => rw [hs, ht]

theorem operands (h : s.Alike lenient mask t) : s.operands = t.operands := by
  cases h with
  | like h => exact h.operands
  | settled _ _ hoperands => exact hoperands

theorem assign (h : s.Alike lenient mask t) {switch : Switch} {value value' : String}
    (hvalue : switch.masked mask value = switch.masked mask value') :
    Tracks lenient (Like lenient mask) (s.assign switch value) (t.assign switch value') :=
  h.settle.bind fun _ _ hlike => hlike.take hvalue

theorem await (h : s.Alike lenient mask t) (switch : Switch) :
    Tracks lenient (Like lenient mask) (s.await switch) (t.await switch) := by
  apply h.settle.bind
  intro s t hlike
  exact .ok ⟨hlike.others, hlike.credential, rfl, hlike.operands⟩

theorem raise (h : s.Alike lenient mask t) (g : Grammar) (switch : Switch) :
    Tracks lenient (Like lenient mask) (s.raise g switch) (t.raise g switch) := by
  apply h.settle.bind
  intro s t hlike
  cases switch with
  | help => exact .error _
  | version => exact .error _
  | _ => exact hlike.take rfl

theorem long (h : s.Alike lenient mask t) (g : Grammar) (name : String) (value : Option String) :
    Tracks lenient (Like lenient mask) (s.long g name value) (t.long g name value) := by
  rw [Scan.long, Scan.long]
  split
  · exact .error _
  · split
    · exact h.assign rfl
    · exact h.await _
    · exact .error _
    · exact h.raise g _

theorem short {s t : Scan} (h : s.Alike lenient mask t) (g : Grammar) (letters : List Char) :
    Tracks lenient (Alike lenient mask) (s.short g letters) (t.short g letters) := by
  induction letters generalizing s t with
  | nil => exact .ok h
  | cons c rest ih =>
    rw [Scan.short, Scan.short]
    split
    · exact .error _
    · split
      · split
        · exact (h.await _).mono fun _ _ => .like
        · exact (h.assign rfl).mono fun _ _ => .like
        · exact (h.assign rfl).mono fun _ _ => .like
      · exact (h.raise g _).bind fun _ _ hlike => ih (.like hlike)

theorem operand (h : s.Alike lenient mask t) (g : Grammar) (argument : String) :
    Tracks lenient (Like lenient mask) (s.operand g argument) (t.operand g argument) := by
  rw [Scan.operand, Scan.operand, h.operands]
  split
  · apply h.settle.bind
    intro s t hlike
    exact .ok ⟨hlike.others, hlike.credential, hlike.pending, by rw [hlike.operands]⟩
  · split <;> exact .error _

theorem plain (h : s.Alike lenient mask t) (g : Grammar) (argument : String) :
    Tracks lenient (Like lenient mask) (s.plain g argument) (t.plain g argument) := by
  cases h with
  | settled hs ht hoperands hsettle =>
    rw [plain_of_not_awaiting hs, plain_of_not_awaiting ht]
    exact (settled hs ht hoperands hsettle).operand g argument
  | like hlike =>
    rcases hlike.pending_cases with ⟨hs, ht⟩ | ⟨switch, hs, ht⟩ | ⟨switch, value, value', hs, ht, -⟩
    · rw [Scan.plain, Scan.plain, hs, ht]
      exact (like hlike).operand g argument
    · rw [Scan.plain, Scan.plain, hs, ht]
      exact .ok ⟨hlike.others, hlike.credential, rfl, hlike.operands⟩
    · rw [Scan.plain, Scan.plain, hs, ht]
      exact (like hlike).operand g argument

theorem step (h : s.Alike lenient mask t) (g : Grammar) (argument : String) :
    Tracks lenient (Alike lenient mask) (s.step g argument) (t.step g argument) := by
  rw [Scan.step, Scan.step]
  split
  · exact (h.long g _ _).mono fun _ _ => .like
  · exact h.short g _
  · exact (h.plain g argument).mono fun _ _ => .like

end Alike

end Scan

end CommandLine

end NestedGroups
