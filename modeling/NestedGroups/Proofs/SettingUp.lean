import NestedGroups.Proofs.Encoding
import NestedGroups.Proofs.FileStore
import NestedGroups.Proofs.TaskRuns

namespace NestedGroups

open CommandLine

def Desk.Stores (d : Desk) (path text : String) (files : FileTree) : Prop :=
  ∃ made, d.files.makeParents d.here path = .ok made ∧ made.write d.here path text = .ok files

namespace Settings

variable {s : Settings} {d after : Desk} {path : String}

theorem run_save_of_stores {text : String} (htext : s.fileText = .ok text) {files : FileTree}
    (h : d.Stores path text files) : d.run (s.save path) = (.ok (), { d with files }) := by
  obtain ⟨made, hmade, hfiles⟩ := h
  rw [save, Desk.run_bind, Desk.run_makeFolders, hmade]
  simp only [Desk.changed]
  rw [Desk.run_bind, Desk.run_lift, htext]
  simp only
  rw [Desk.run_writeFile, hfiles]
  rfl

theorem run_save_of_not_stores {text : String} (htext : s.fileText = .ok text)
    (h : ∀ files, ¬ d.Stores path text files) :
    ∃ fault after, d.run (s.save path) = (.error (.io fault), after) := by
  rw [save, Desk.run_bind, Desk.run_makeFolders]
  cases hmade : d.files.makeParents d.here path with
  | error fault => exact ⟨fault, d, rfl⟩
  | ok made =>
    simp only [Desk.changed]
    rw [Desk.run_bind, Desk.run_lift, htext]
    simp only
    rw [Desk.run_writeFile]
    cases hfiles : made.write d.here path text with
    | error fault => exact ⟨fault, { d with files := made }, rfl⟩
    | ok files => exact (h files ⟨made, hmade, hfiles⟩).elim

theorem run_load_of_stores {text : String} (hread : ofFileText text = .ok s) {files : FileTree}
    (h : d.Stores path text files) (hfiles : after.files = files) (hhere : after.here = d.here) :
    after.run (load path) = (.ok s, after) := by
  obtain ⟨made, -, hwrite⟩ := h
  rw [Desk.run_load, hfiles, hhere, FileTree.contains_of_write hwrite, FileTree.read_of_write hwrite]
  simp only [if_true, Except.mapError, Except.bind, hread]

/-- Where a file of settings was loaded from, one can be saved. -/
theorem exists_stores_of_read {old : String} (h : d.files.read d.here path = .ok old)
    (text : String) : ∃ files, d.Stores path text files := by
  obtain ⟨files, hfiles⟩ := FileTree.exists_write_of_read h text
  exact ⟨files, d.files, FileTree.makeParents_of_read h, hfiles⟩

theorem fits_of_load (h : (d.run (load path)).1 = .ok s) : s.Fits := by
  rw [Desk.run_load] at h
  dsimp only at h
  split at h
  · cases hread : d.files.read d.here path with
    | error fault =>
      rw [hread] at h
      cases h
    | ok text =>
      rw [hread] at h
      exact fits_of_ofFileText h
  · cases h
    exact fits_default

theorem exists_read_of_load (h : (d.run (load path)).1 = .ok s)
    (hthere : d.files.contains d.here path = true) : ∃ old, d.files.read d.here path = .ok old := by
  rw [Desk.run_load, hthere] at h
  cases hread : d.files.read d.here path with
  | error fault =>
    rw [hread] at h
    cases h
  | ok text => exact ⟨text, rfl⟩

/-- The settings after the lines that were answered: what is blank leaves a setting as it was, and
an empty base is none. -/
def answered (s : Settings) (url bindDn base : String) : Settings where
  format := s.format
  directory :=
    { s.directory with
      url := if Text.isAllBlank url then s.directory.url else Text.trim url
      bindDn := if Text.isAllBlank bindDn then s.directory.bindDn else Text.trim bindDn }
  groups :=
    { s.groups with
      base := (if Text.isAllBlank base then s.groups.base else some (Text.trim base)).filter
        (!·.isEmpty) }

theorem isEmpty_trim (line : String) : (Text.trim line).isEmpty = Text.isAllBlank line := by
  rw [Bool.eq_iff_iff, String.isEmpty_iff, ← String.toList_eq_nil_iff, Text.trim,
    String.toList_ofList, Text.trimChars_eq_nil_iff, Text.isAllBlank]

theorem answerOr_eq (current line : String) :
    Prompt.answerOr current line = if Text.isAllBlank line then current else Text.trim line := by
  rw [Prompt.answerOr, isEmpty_trim]

theorem revise_answers (s : Settings) (url bindDn base : String) :
    s.revise (Prompt.answerOr s.directory.url url) (Prompt.answerOr s.directory.bindDn bindDn)
        (Prompt.answerOr (s.groups.base.getD "") base) = s.answered url bindDn base := by
  have hbase : (if (Prompt.answerOr (s.groups.base.getD "") base).isEmpty then none
      else some (Prompt.answerOr (s.groups.base.getD "") base)) =
      (if Text.isAllBlank base then s.groups.base else some (Text.trim base)).filter
        (!·.isEmpty) := by
    rw [answerOr_eq]
    split
    · cases s.groups.base with
      | none => rfl
      | some current => cases hempty : current.isEmpty <;> simp [hempty, Option.filter]
    · rename_i hblank
      rw [← isEmpty_trim, Bool.not_eq_true] at hblank
      simp [hblank, Option.filter]
  rw [revise, hbase, answerOr_eq, answerOr_eq]
  rfl

theorem fits_answered (h : s.Fits) (url bindDn base : String) : (s.answered url bindDn base).Fits :=
  ⟨h.poolSize, h.connectSeconds, h.readSeconds, h.maxDepth⟩

theorem run_mayReplace_of_allowed {force : Bool}
    (h : d.files.contains d.here path = true → force = true) :
    d.run (mayReplace path force) = (.ok true, d) := by
  rw [mayReplace, Desk.run_bind, Desk.run_lookUp]
  dsimp only
  split
  · rename_i hthere
    rw [h hthere]
    rfl
  · rfl

theorem run_mayReplace_of_line (hthere : d.files.contains d.here path = true) {line : String}
    (hline : d.line 0 = .ok line) :
    ∃ output, d.run (mayReplace path false) =
      (.ok (Prompt.isYes line), { d with input := d.input.tail, output }) := by
  rw [mayReplace, Desk.run_bind, Desk.run_lookUp, hthere]
  simp only [if_true, Bool.false_eq_true, if_false]
  exact Desk.run_confirm_of_line _ hline

theorem run_setUp_of_answers {force : Bool} (hmay : d.run (mayReplace path force) = (.ok true, after))
    {url bindDn base : String} (hurl : after.line 0 = .ok url) (hbind : after.line 1 = .ok bindDn)
    (hbase : after.line 2 = .ok base) :
    ∃ input output, d.run (s.setUp path force) =
      match { after with input, output }.run ((s.answered url bindDn base).save path) with
      | (.error failure, d) => (.error failure, d)
      | (.ok _, d) => d.run (.tell .output ("\n" ++
          Message.success ("Configuration saved to: " ++ path) ++
          Message.note "Set AUTHPOP_BIND_CREDENTIAL to supply the bind password.")) := by
  rw [setUp, Desk.run_bind, hmay]
  simp only [if_true]
  rw [Desk.run_bind, Desk.run_tell]
  dsimp only
  obtain ⟨output₁, hask₁⟩ := Desk.run_ask_of_line "Directory URL (ldaps://)" s.directory.url
    (d := after.print .output _) ((Desk.line_print _ _ _ _).trans hurl)
  rw [Desk.run_bind, hask₁]
  obtain ⟨output₂, hask₂⟩ := Desk.run_ask_of_line "Bind DN" s.directory.bindDn
    (d := { after with input := after.input.tail, output := output₁ })
    ((after.line_afterLine 0).trans hbind)
  change ∃ input output, ({ after with input := after.input.tail, output := output₁ } : Desk).run
    _ = _
  rw [Desk.run_bind, hask₂]
  obtain ⟨output₃, hask₃⟩ := Desk.run_ask_of_line "Group search base" (s.groups.base.getD "")
    (d := { after with input := after.input.tail.tail, output := output₂ })
    ((after.afterLine.line_afterLine 0).trans ((after.line_afterLine 1).trans hbase))
  dsimp only
  rw [Desk.run_bind, hask₃]
  dsimp only
  rw [Desk.run_bind, revise_answers]
  refine ⟨after.input.tail.tail.tail, output₃, ?_⟩
  rcases Desk.run _ ((s.answered url bindDn base).save path) with ⟨failure | _, d⟩ <;> rfl

def asksConsent (d : Desk) (path : String) (force : Bool) : Bool :=
  d.files.contains d.here path && !force

theorem run_setUp_of_declined {force : Bool} (hasks : asksConsent d path force = true) {line : String}
    (hline : d.line 0 = .ok line) (hno : Prompt.isYes line = false) :
    ∃ input output, d.run (s.setUp path force) = (.ok (), { d with input, output }) := by
  rw [asksConsent, Bool.and_eq_true, Bool.not_eq_true'] at hasks
  obtain ⟨hthere, rfl⟩ := hasks
  obtain ⟨output, hmay⟩ := run_mayReplace_of_line hthere hline
  rw [setUp, Desk.run_bind, hmay, hno]
  exact ⟨_, _, rfl⟩

theorem exists_run_mayReplace {force : Bool}
    (h : asksConsent d path force = true → ∃ line, d.line 0 = .ok line ∧ Prompt.isYes line = true) :
    ∃ output, d.run (mayReplace path force) =
      (.ok true, { d with
        input := if asksConsent d path force then d.input.tail else d.input, output }) := by
  cases hasks : asksConsent d path force with
  | true =>
    obtain ⟨line, hline, hyes⟩ := h hasks
    rw [asksConsent, Bool.and_eq_true, Bool.not_eq_true'] at hasks
    obtain ⟨hthere, rfl⟩ := hasks
    obtain ⟨output, hmay⟩ := run_mayReplace_of_line hthere hline
    rw [hyes] at hmay
    exact ⟨output, hmay⟩
  | false =>
    refine ⟨d.output, run_mayReplace_of_allowed fun hthere => ?_⟩
    rw [asksConsent, hthere] at hasks
    simpa using hasks

theorem play_init {network : Network} {host : Program.Host} {i : Invocation} {force : Bool}
    (hi : i.command = .settings (.init force)) (hpath : pathOf host.home i.settingsPath = .ok path)
    (hload : (d.run (load path)).1 = .ok s) :
    d.play (Program.run network host i) = Desk.report host "" (d.run (s.setUp path force)) := by
  rw [Desk.play_run, hpath]
  simp only [hload]
  rw [Program.execute, hi]
  rfl

theorem run_setUp_of_consent {force : Bool}
    (hconsent : asksConsent d path force = true →
      ∃ line, d.line 0 = .ok line ∧ Prompt.isYes line = true)
    {url bindDn base text : String} (htext : (s.answered url bindDn base).fileText = .ok text)
    (hurl : d.line (if asksConsent d path force then 1 else 0) = .ok url)
    (hbind : d.line ((if asksConsent d path force then 1 else 0) + 1) = .ok bindDn)
    (hbase : d.line ((if asksConsent d path force then 1 else 0) + 2) = .ok base) :
    (∀ files, d.Stores path text files →
      ∃ input output, d.run (s.setUp path force) = (.ok (), { d with files, input, output })) ∧
    ((∀ files, ¬ d.Stores path text files) →
      ∃ fault after, d.run (s.setUp path force) = (.error (.io fault), after)) := by
  obtain ⟨output, hmay⟩ := exists_run_mayReplace hconsent
  have hlines : ∀ n, ({ d with
      input := if asksConsent d path force then d.input.tail else d.input, output } : Desk).line n =
      d.line ((if asksConsent d path force then 1 else 0) + n) := by
    intro n
    split
    · rw [Nat.add_comm]
      exact d.line_afterLine n
    · rw [Nat.zero_add]
      rfl
  obtain ⟨input, output', hsetUp⟩ := run_setUp_of_answers (s := s) hmay ((hlines 0).trans hurl)
    ((hlines 1).trans hbind) ((hlines 2).trans hbase)
  constructor
  · intro files hfiles
    have hsave := run_save_of_stores (d := { d with input, output := output' }) htext hfiles
    rw [hsetUp, hsave]
    exact ⟨_, _, rfl⟩
  · intro hfiles
    obtain ⟨fault, after, hsave⟩ :=
      run_save_of_not_stores (d := { d with input, output := output' }) htext hfiles
    rw [hsetUp, hsave]
    exact ⟨fault, after, rfl⟩

/-- Settings that were read from a file, and the defaults, are saved and loaded as they are. A
dialogue that is declined changes no file. One that goes on saves the loaded settings with the
answers in place, if the store takes them, as it does where they were loaded from a file. -/
theorem saved_as_loaded_and_answered :
    (∀ s : Settings, (s = {} ∨ ∃ text, ofFileText text = .ok s) →
      ∃ text, s.fileText = .ok text ∧ ofFileText text = .ok s ∧ ∀ (d : Desk) (path : String),
        (∀ files, d.Stores path text files →
          d.run (s.save path) = (.ok (), { d with files }) ∧
            (Desk.run { d with files } (load path)).1 = .ok s) ∧
        ((∀ files, ¬ d.Stores path text files) →
          ∃ fault after, d.run (s.save path) = (.error (.io fault), after))) ∧
    ∀ (network : Network) (host : Program.Host) (i : Invocation) (force : Bool) (path : String)
      (d : Desk) (s : Settings), i.command = .settings (.init force) →
      pathOf host.home i.settingsPath = .ok path → (d.run (load path)).1 = .ok s →
      let ended := d.play (Program.run network host i)
      let first := if asksConsent d path force then 1 else 0
      (asksConsent d path force = true → ∀ line, d.line 0 = .ok line → Prompt.isYes line = false →
        ended.1 = Program.succeeded ∧ ended.2.files = d.files) ∧
      ((asksConsent d path force = true →
          ∃ line, d.line 0 = .ok line ∧ Prompt.isYes line = true) →
        ∀ url bindDn base, d.line first = .ok url → d.line (first + 1) = .ok bindDn →
          d.line (first + 2) = .ok base →
          ∃ text, (s.answered url bindDn base).fileText = .ok text ∧
            (∀ files, d.Stores path text files →
              ended.1 = Program.succeeded ∧ ended.2.files = files ∧
                (ended.2.run (load path)).1 = .ok (s.answered url bindDn base)) ∧
            (d.files.contains d.here path = true → ∃ files, d.Stores path text files) ∧
            ((∀ files, ¬ d.Stores path text files) → ended.1 = Program.failed)) := by
  constructor
  · intro s hs
    have hfits : s.Fits := by
      rcases hs with rfl | ⟨text, htext⟩
      · exact fits_default
      · exact fits_of_ofFileText htext
    obtain ⟨text, htext, hread⟩ := exists_fileText hfits
    refine ⟨text, htext, hread, fun d path => ⟨fun files hfiles => ?_, ?_⟩⟩
    · refine ⟨run_save_of_stores htext hfiles, ?_⟩
      have hload : Desk.run { d with files } (load path) = _ :=
        run_load_of_stores hread hfiles rfl rfl
      rw [hload]
    · exact run_save_of_not_stores htext
  · intro network host i force path d s hi hpath hload ended first
    have hended : ended = _ := play_init hi hpath hload
    constructor
    · intro hasks line hline hno
      obtain ⟨input, output, hsetUp⟩ := run_setUp_of_declined (s := s) hasks hline hno
      rw [hended, hsetUp]
      exact ⟨rfl, rfl⟩
    · intro hconsent url bindDn base hurl hbind hbase
      obtain ⟨text, htext, hread⟩ := exists_fileText (fits_answered (fits_of_load hload) url bindDn base)
      obtain ⟨hstored, hrefused⟩ := run_setUp_of_consent hconsent htext hurl hbind hbase
      refine ⟨text, htext, fun files hfiles => ?_, fun hthere => ?_, fun hfiles => ?_⟩
      · obtain ⟨input, output, hsetUp⟩ := hstored files hfiles
        rw [hended, hsetUp]
        refine ⟨rfl, rfl, ?_⟩
        have hreload : Desk.run { d with files, input, output } (load path) = _ :=
          run_load_of_stores hread hfiles rfl rfl
        exact congrArg Prod.fst hreload
      · obtain ⟨old, hold⟩ := exists_read_of_load hload hthere
        exact exists_stores_of_read hold text
      · obtain ⟨fault, after, hsetUp⟩ := hrefused hfiles
        rw [hended, hsetUp]
        rfl

/-- A file with a base alone: the dialogue gets a URL and keeps the base, or is declined. -/
theorem saved_as_loaded_and_answered_of_base :
    let d : Desk :=
      { files := ⟨[(["f"], .file (.text "[groups]\nsearch_base = 'ou=g'\n"))]⟩
        input := [.ok "y\n", .ok " ldaps://h\n", .ok "\n", .ok "\n"] }
    let i : Invocation := ⟨some "f", none, none, false, .settings (.init false)⟩
    let s : Settings := { groups := { base := some "ou=g" } }
    let renewed : Settings := { s with directory := { url := "ldaps://h" } }
    let ended := d.play (Program.run .offline .plain i)
    (ended.1 = Program.succeeded ∧ (ended.2.run (load "f")).1 = .ok renewed) ∧
      (Desk.play { d with input := [.ok "no\n"] } (Program.run .offline .plain i)).2.files = d.files ∧
      ∃ text, s.fileText = .ok text ∧ ofFileText text = .ok s := by
  intro d i s renewed ended
  have hload : (d.run (load "f")).1 = .ok s := by decide +kernel
  have hload' : (Desk.run { d with input := [.ok "no\n"] } (load "f")).1 = .ok s := by
    decide +kernel
  obtain ⟨hround, hinit⟩ := saved_as_loaded_and_answered
  obtain ⟨-, hanswered⟩ := hinit .offline .plain i false "f" d s rfl rfl hload
  obtain ⟨hdeclined, -⟩ := hinit .offline .plain i false "f" _ s rfl rfl hload'
  obtain ⟨text, -, hstored, hthere, -⟩ := hanswered (fun _ => ⟨"y\n", rfl, by decide +kernel⟩)
    " ldaps://h\n" "\n" "\n" (by decide +kernel) (by decide +kernel) (by decide +kernel)
  obtain ⟨files, hfiles⟩ := hthere (by decide +kernel)
  obtain ⟨hstatus, -, hloaded⟩ := hstored files hfiles
  have hrenewed : s.answered " ldaps://h\n" "\n" "\n" = renewed := by decide +kernel
  rw [hrenewed] at hloaded
  obtain ⟨-, hkept⟩ := hdeclined (by decide +kernel) "no\n" rfl (by decide +kernel)
  obtain ⟨text, htext, hread, -⟩ := hround s (.inr ⟨"[groups]\nsearch_base = 'ou=g'\n",
    by decide +kernel⟩)
  exact ⟨⟨hstatus, hloaded⟩, hkept, text, htext, hread⟩

end Settings

end NestedGroups
