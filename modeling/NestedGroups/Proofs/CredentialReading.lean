import NestedGroups.Proofs.CredentialScan

namespace NestedGroups

namespace CommandLine

variable {lenient : Bool} {mask : String → String} {g : Grammar}

structure Reading.Like (lenient : Bool) (mask : String → String) (r r' : Reading) : Prop where
  subcommand : r.subcommand = r'.subcommand
  settle : Tracks lenient (Scan.Like lenient mask) r.scan.settle r'.scan.settle

theorem Token.ofArgument_eq_escape {argument : String} :
    ofArgument argument = .escape ↔ argument = "--" := by
  constructor
  · intro h
    rw [ofArgument, ofChars.eq_def] at h
    split at h
    · rename_i heq
      exact String.toList_inj.1 heq
    · cases h
    · cases h
    · cases h
  · rintro rfl
    rfl

namespace Grammar

theorem read_cons_of_ne (g : Grammar) (s : Scan) {argument : String} (h : argument ≠ "--")
    (rest : List String) :
    g.read s (argument :: rest) =
      if !s.isAwaiting && g.subcommands.contains argument then .ok ⟨s, some (argument, rest)⟩
      else s.step g argument >>= fun t => g.read t rest := by
  rw [read, Scan.step]
  cases htoken : Token.ofArgument argument with
  | escape => exact (h (Token.ofArgument_eq_escape.1 htoken)).elim
  | long name value => rfl
  | short letters => rfl
  | plain => rfl

theorem read_cons_escape (g : Grammar) (s : Scan) (rest : List String) :
    g.read s ("--" :: rest) =
      if !s.isAwaiting && g.subcommands.contains "--" then .ok ⟨s, some ("--", rest)⟩
      else rest.foldlM (Scan.operand g) s >>= fun t => .ok ⟨t, none⟩ := by
  rw [read, Token.ofArgument_eq_escape.2 rfl]
  rfl

theorem read_alike (g : Grammar) (arguments : List String) {s t : Scan}
    (h : s.Alike lenient mask t) :
    Tracks lenient (Reading.Like lenient mask) (g.read s arguments) (g.read t arguments) := by
  induction arguments generalizing s t with
  | nil => exact .ok ⟨rfl, h.settle⟩
  | cons argument rest ih =>
    by_cases hescape : argument = "--"
    · rw [hescape, read_cons_escape, read_cons_escape, h.isAwaiting_eq]
      split
      · exact .ok ⟨rfl, h.settle⟩
      · have hstep (s t : Scan) (x : String) (h : s.Alike lenient mask t) :
            Tracks lenient (Scan.Alike lenient mask) (s.operand g x) (t.operand g x) :=
          (h.operand g x).mono fun _ _ => .like
        apply (Tracks.foldlM rest hstep h).bind
        intro s t h
        exact .ok ⟨rfl, h.settle⟩
    · rw [read_cons_of_ne g s hescape, read_cons_of_ne g t hescape, h.isAwaiting_eq]
      split
      · exact .ok ⟨rfl, h.settle⟩
      · exact (h.step g argument).bind fun _ _ h => ih h

theorem read_append (g : Grammar) (before after : List String) {s : Scan}
    (hescape : "--" ∉ before)
    (hsubcommand : ∀ reading, g.read s before = .ok reading → reading.subcommand = none) :
    g.read s (before ++ after) = g.read s before >>= fun r => g.read r.scan after := by
  induction before generalizing s with
  | nil => rfl
  | cons argument rest ih =>
    have hargument : argument ≠ "--" := fun h => hescape (h ▸ List.mem_cons_self)
    have hrest : "--" ∉ rest := fun h => hescape (List.mem_cons_of_mem argument h)
    rw [read_cons_of_ne g s hargument] at hsubcommand
    rw [List.cons_append, read_cons_of_ne g s hargument, read_cons_of_ne g s hargument]
    split
    · rename_i hfound
      rw [if_pos hfound] at hsubcommand
      cases hsubcommand _ rfl
    · rename_i hfound
      rw [if_neg hfound] at hsubcommand
      cases hstep : s.step g argument with
      | error e => rfl
      | ok t =>
        rw [hstep] at hsubcommand
        exact ih hrest hsubcommand

end Grammar

/-- How a credential is given: in the argument of the switch, or in one of its own. -/
inductive Spelling where
  | joined
  | apart

namespace Spelling

def arguments : Spelling → String → List String
  | .joined, credential => ["--bind-credential=" ++ credential]
  | .apart, credential => ["--bind-credential", credential]

/-- An argument of its own that begins with a dash is no value but the next switch. -/
def Allows : Spelling → String → Prop
  | .joined, _ => True
  | .apart, credential => Token.ofArgument credential = .plain

def scan (spelling : Spelling) (credential : String) (s : Scan) : Except Rejection Scan := do
  let t ← s.settle
  match spelling with
  | .joined => t.take .credential credential
  | .apart => return { t with pending := some (.credential, some credential) }

end Spelling

theorem Token.ofArgument_joined (credential : String) :
    ofArgument ("--bind-credential=" ++ credential) =
      .long "bind-credential" (some credential) := by
  rw [ofArgument, String.toList_append]
  change Token.long (.ofList ("bind-credential".toList)) (some (.ofList credential.toList)) = _
  rw [String.ofList_toList, String.ofList_toList]

theorem Token.ofArgument_subcommand {name : String} (h : name ∈ Grammar.root.subcommands) :
    ofArgument name = .plain := by
  have hall : ∀ name ∈ Grammar.root.subcommands, ofArgument name = .plain := by decide
  exact hall name h

namespace Grammar

theorem read_cons_long {s : Scan} {argument name : String} {value : Option String}
    (h : Token.ofArgument argument = .long name value) (rest : List String) :
    root.read s (argument :: rest) = s.long root name value >>= fun t => root.read t rest := by
  have hescape : argument ≠ "--" := by
    intro hargument
    rw [Token.ofArgument_eq_escape.2 hargument] at h
    cases h
  have hname : root.subcommands.contains argument = false := by
    rw [List.contains_eq_mem, decide_eq_false_iff_not]
    intro hmem
    rw [Token.ofArgument_subcommand hmem] at h
    cases h
  rw [read_cons_of_ne root s hescape, hname, Bool.and_false, if_neg Bool.false_ne_true, Scan.step,
    h]

theorem read_spelling {spelling : Spelling} {credential : String} (h : spelling.Allows credential)
    (s : Scan) (after : List String) :
    root.read s (spelling.arguments credential ++ after) =
      spelling.scan credential s >>= fun t => root.read t after := by
  cases spelling with
  | joined => exact read_cons_long (Token.ofArgument_joined credential) after
  | apart =>
    have hescape : credential ≠ "--" := by
      intro hcredential
      rw [Spelling.Allows, Token.ofArgument_eq_escape.2 hcredential] at h
      cases h
    have hswitch : Token.ofArgument "--bind-credential" = .long "bind-credential" none := rfl
    change root.read s ("--bind-credential" :: credential :: after) = _
    rw [read_cons_long hswitch]
    change s.await .credential >>= _ = _
    rw [Scan.await, Spelling.scan]
    cases s.settle with
    | error e => rfl
    | ok t =>
      change root.read { t with pending := some (.credential, none) } (credential :: after) = _
      rw [read_cons_of_ne root _ hescape, Scan.step, h]
      rfl

end Grammar

namespace Spelling

variable {spelling : Spelling} {credential credential' : String} {s t : Scan}

theorem scan_like (hmask : mask credential = mask credential') (s : Scan) :
    Tracks lenient (Scan.Like lenient mask) (spelling.scan credential s)
      (spelling.scan credential' s) := by
  apply Tracks.bind_self
  intro t _
  cases spelling with
  | joined => exact (Scan.Like.refl t).take hmask
  | apart =>
    have hpending : (some (Switch.credential, some (mask credential))) =
        some (Switch.credential, some (mask credential')) := by rw [hmask]
    exact .ok ⟨fun _ _ => rfl, .inl rfl, hpending, rfl⟩

theorem settle_of_scan (h : spelling.scan credential s = .ok t) :
    ∃ s₀, s.settle = .ok s₀ ∧ t.settle = s₀.take .credential credential ∧
      t.isAwaiting = false ∧ t.operands = s₀.operands := by
  rw [scan] at h
  cases hsettle : s.settle with
  | error e =>
    rw [hsettle] at h
    cases h
  | ok s₀ =>
    rw [hsettle] at h
    obtain ⟨-, hpending, -⟩ := Scan.settled_of_settle hsettle
    cases spelling with
    | joined =>
      change s₀.take .credential credential = .ok t at h
      have ht : t.pending = none ∧ t.operands = s₀.operands := by
        obtain ⟨-, rfl⟩ := Scan.eq_of_take h
        exact ⟨hpending, rfl⟩
      refine ⟨s₀, rfl, ?_, ?_, ht.2⟩
      · rw [h, Scan.settle_of_pending ht.1]
      · rw [Scan.isAwaiting, ht.1]
    | apart =>
      cases h
      obtain ⟨given, pending, operands⟩ := s₀
      cases hpending
      exact ⟨_, rfl, rfl, rfl, rfl⟩

theorem alike_of_scan (h : spelling.scan credential s = .ok t) : s.Alike true mask t := by
  obtain ⟨s₀, hs, ht, hawaiting, hoperands⟩ := settle_of_scan h
  obtain ⟨hawaiting', -, hoperands'⟩ := Scan.settled_of_settle hs
  apply Scan.Alike.settled hawaiting' hawaiting (hoperands'.symm.trans hoperands.symm)
  rw [hs, ht]
  exact s₀.take_credential credential

end Spelling

def OnlySwitches (arguments : List String) : Prop :=
  "--" ∉ arguments ∧
    ∀ reading, Grammar.root.read {} arguments = .ok reading → reading.subcommand = none

theorem OnlySwitches.read_append {before : List String} (h : OnlySwitches before)
    (after : List String) :
    Grammar.root.read {} (before ++ after) =
      Grammar.root.read {} before >>= fun r => Grammar.root.read r.scan after :=
  Grammar.root.read_append before after h.1 h.2

/-- Command lines that are the same but for a credential, and that behind the mask. Where that is
tolerated, the first may have none. -/
inductive SameArguments (lenient : Bool) (mask : String → String) :
    List String → List String → Prop
  | refl (arguments : List String) : SameArguments lenient mask arguments arguments
  | credential {before : List String} (after : List String) {spelling : Spelling}
      {credential credential' : String} (hbefore : OnlySwitches before)
      (h : spelling.Allows credential) (h' : spelling.Allows credential')
      (hmask : mask credential = mask credential') :
      SameArguments lenient mask (before ++ (spelling.arguments credential ++ after))
        (before ++ (spelling.arguments credential' ++ after))
  | without (hlenient : lenient = true) {before : List String} (after : List String)
      {spelling : Spelling} {credential : String} (hbefore : OnlySwitches before)
      (h : spelling.Allows credential) :
      SameArguments lenient mask (before ++ after)
        (before ++ (spelling.arguments credential ++ after))

theorem SameArguments.read_alike {arguments arguments' : List String}
    (h : SameArguments lenient mask arguments arguments') :
    Tracks lenient (Reading.Like lenient mask) (Grammar.root.read {} arguments)
      (Grammar.root.read {} arguments') := by
  cases h with
  | refl => exact Grammar.root.read_alike arguments (.like (.refl _))
  | credential after hbefore h h' hmask =>
    rw [hbefore.read_append, hbefore.read_append]
    apply Tracks.bind_self
    intro r _
    rw [Grammar.read_spelling h, Grammar.read_spelling h']
    apply (Spelling.scan_like hmask r.scan).bind
    intro s t hst
    exact Grammar.root.read_alike after (.like hst)
  | without hlenient after hbefore h =>
    subst hlenient
    rw [hbefore.read_append, hbefore.read_append]
    apply Tracks.bind_self
    intro r _
    rw [Grammar.read_spelling h]
    cases hscan : Spelling.scan _ _ r.scan with
    | error e => exact .lenient rfl _ e
    | ok t => exact Grammar.root.read_alike after (Spelling.alike_of_scan hscan)

def credentialVariable : String := "AUTHPOP_BIND_CREDENTIAL"

structure SameEnvironment (lenient : Bool) (mask : String → String) (e e' : Environment) :
    Prop where
  others : ∀ name, name ≠ credentialVariable → e name = e' name
  credential : (e credentialVariable).map mask = (e' credentialVariable).map mask ∨ lenient = true

namespace Scan

variable {e e' : Environment} {s t : Scan}

structure Completed (lenient : Bool) (mask : String → String) (s t : Scan) : Prop where
  others : ∀ switch, switch ≠ .credential → s.value? switch = t.value? switch
  credential : (s.value? .credential).map mask = (t.value? .credential).map mask ∨ lenient = true

theorem given_eq_nil_iff (s : Scan) : s.given = [] ↔ ∀ switch, s.value? switch = none := by
  constructor
  · intro h switch
    rw [value?, h, List.lookup_nil]
  · intro h
    obtain ⟨_ | ⟨⟨switch, value⟩, given⟩, pending, operands⟩ := s
    · rfl
    · have hfirst := h switch
      rw [value?, List.lookup_cons_self] at hfirst
      cases hfirst

theorem isEmpty_given_eq
    (hothers : ∀ switch, switch ≠ .credential → s.value? switch = t.value? switch)
    (hcredential : (s.value? .credential).map mask = (t.value? .credential).map mask) :
    s.given.isEmpty = t.given.isEmpty := by
  have hnone (switch : Switch) : s.value? switch = none ↔ t.value? switch = none := by
    by_cases h : switch = .credential
    · rw [h, ← Option.map_eq_none_iff (f := mask), hcredential, Option.map_eq_none_iff]
    · rw [hothers switch h]
  rw [Bool.eq_iff_iff, List.isEmpty_iff, List.isEmpty_iff, given_eq_nil_iff, given_eq_nil_iff]
  exact forall_congr' hnone

theorem complete_alike (h : s.Like lenient mask t) {switch : Switch}
    (hgiven : s.isGiven switch = t.isGiven switch)
    (hvalue : (switch.environmentName?.bind e).map (switch.masked mask) =
      (switch.environmentName?.bind e').map (switch.masked mask)) :
    Tracks lenient (Like lenient mask) (s.complete e switch) (t.complete e' switch) := by
  rw [complete, complete, hgiven]
  split
  · exact .ok h
  · cases hv : switch.environmentName?.bind e with
    | none =>
      rw [hv, Option.map_none, eq_comm, Option.map_eq_none_iff] at hvalue
      rw [hvalue]
      exact .ok h
    | some value =>
      rw [hv, Option.map_some, eq_comm, Option.map_eq_some_iff] at hvalue
      obtain ⟨value', hv', hmask⟩ := hvalue
      rw [hv']
      exact h.take hmask.symm

theorem exists_complete_credential (s : Scan) (e : Environment) :
    ∃ s', s.complete e .credential = .ok s' ∧
      ∀ switch, switch ≠ .credential → s'.value? switch = s.value? switch := by
  rw [complete]
  split
  · exact ⟨s, rfl, fun _ _ => rfl⟩
  · rename_i hgiven
    split
    · rename_i value _
      refine ⟨{ s with given := s.given ++ [(.credential, value)] }, ?_, fun switch hswitch => ?_⟩
      · rw [take, if_neg hgiven]
        rfl
      · rw [value?_append, if_neg hswitch, Option.or_none]
    · exact ⟨s, rfl, fun _ _ => rfl⟩

theorem complete_config (he : SameEnvironment lenient mask e e') (h : s.Like lenient mask t) :
    Tracks lenient (Like lenient mask) (s.complete e .config) (t.complete e' .config) := by
  apply complete_alike h
  · exact congrArg Option.isSome (h.others .config (by decide))
  · exact congrArg (Option.map _) (he.others "AUTHPOP_CONFIG" (by decide))

theorem complete_credential (he : SameEnvironment lenient mask e e') (h : s.Like lenient mask t) :
    Tracks lenient (Completed lenient mask) (s.complete e .credential)
      (t.complete e' .credential) := by
  cases lenient with
  | true =>
    obtain ⟨s', hs, hothers⟩ := s.exists_complete_credential e
    obtain ⟨t', ht, hothers'⟩ := t.exists_complete_credential e'
    rw [hs, ht]
    apply Tracks.ok
    constructor
    · intro switch hswitch
      rw [hothers switch hswitch, hothers' switch hswitch, h.others switch hswitch]
    · exact .inr rfl
  | false =>
    have hgiven : s.isGiven .credential = t.isGiven .credential :=
      (h.isGiven_cases .credential).resolve_right fun h => Bool.false_ne_true h.1
    have hvalue := he.credential.resolve_right Bool.false_ne_true
    apply (complete_alike h hgiven hvalue).mono
    intro s t h
    exact ⟨h.others, h.credential.imp id And.left⟩

end Scan

end CommandLine

open CommandLine

structure Invocation.Like (lenient : Bool) (mask : String → String) (i i' : Invocation) : Prop where
  settingsPath : i.settingsPath = i'.settingsPath
  format : i.format = i'.format
  verbose : i.verbose = i'.verbose
  command : i.command = i'.command
  credential : i.credential.map mask = i'.credential.map mask ∨ lenient = true

/-- Command lines that are the same behind the mask are refused alike, or read as invocations that
are the same behind the mask. -/
theorem Invocation.read_alike {lenient : Bool} {mask : String → String} {e e' : Environment}
    (he : SameEnvironment lenient mask e e') {arguments arguments' : List String}
    (h : SameArguments lenient mask arguments arguments') :
    Tracks lenient (Like lenient mask) (read e arguments) (read e' arguments') := by
  apply h.read_alike.bind
  intro r r' hr
  rw [hr.subcommand]
  apply Tracks.bind_self
  intro command _
  apply hr.settle.bind
  intro s t hst
  have hcompleted : Tracks lenient (Scan.Completed lenient mask)
      ([.config, .credential].foldlM (Scan.complete e) s)
      ([.config, .credential].foldlM (Scan.complete e') t) := by
    rw [List.foldlM_cons, List.foldlM_cons]
    apply (Scan.complete_config he hst).bind
    intro s t hst
    rw [List.foldlM_cons, List.foldlM_cons]
    apply (Scan.complete_credential he hst).bind
    intro s t hst
    exact .ok hst
  apply hcompleted.bind
  intro s t hst
  cases command with
  | none =>
    rcases hst.credential with hmask | hlenient
    · dsimp only
      rw [Scan.isEmpty_given_eq hst.others hmask]
      exact .error _
    · exact .lenient hlenient _ _
  | some command =>
    have hconfig := hst.others .config (by decide)
    have houtput := hst.others .output (by decide)
    have hverbose := hst.others .verbose (by decide)
    exact .ok ⟨hconfig, congrArg (Option.bind · OutputFormat.ofWord?) houtput,
      congrArg Option.isSome hverbose, rfl, hst.credential⟩

end NestedGroups
