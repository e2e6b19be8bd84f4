import NestedGroups.Proofs.Lists
import NestedGroups.Proofs.NumberRange
import NestedGroups.Proofs.Rendering
import NestedGroups.Settings

namespace NestedGroups

open Toml Value

namespace Settings

structure Fits (s : Settings) : Prop where
  poolSize : s.directory.poolSize ≤ Leaf.maxNumber
  connectSeconds : s.directory.connectSeconds ≤ Leaf.maxNumber
  readSeconds : s.directory.readSeconds ≤ Leaf.maxNumber
  maxDepth : s.groups.maxDepth ≤ maxWord32

theorem fits_default : ({} : Settings).Fits := by
  constructor <;> decide

theorem asNat?_ofNat {limit n : Nat} (h : n ≤ limit) : (Value.ofNat n).asNat? limit = some n := by
  have hbounds : (0 : Int) ≤ n ∧ (n : Int) ≤ limit := ⟨Int.natCast_nonneg n, Int.ofNat_le.2 h⟩
  rw [ofNat, asNat?, if_pos hbounds]
  rfl

theorem asTexts?_ofTexts (texts : List String) : (Value.ofTexts texts).asTexts? = some texts := by
  change (texts.map Value.text).mapM asText? = some texts
  induction texts with
  | nil => rfl
  | cons text texts ih =>
    rw [List.map_cons, List.mapM_cons, ih]
    rfl

theorem scopeOf_word (source : Source) (scope : SearchScope) :
    SearchScope.ofValue? source (.text scope.word) = some scope :=
  SearchScope.ofWord?_word scope

theorem formatOf_word (format : OutputFormat) :
    OutputFormat.ofValue? .toml (.text format.word) = some format :=
  OutputFormat.ofWord?_word format

def directoryValue (d : DirectorySettings) : Value :=
  .table ((directoryFields d).map fun (name, leaf) => (name, leaf.value))

def groupValue (g : GroupSettings) : Value :=
  .table ((groupFields g).map fun (name, leaf) => (name, leaf.value))

theorem ofValue?_directoryValue {d : DirectorySettings} (hpool : d.poolSize ≤ maxWord64)
    (hconnect : d.connectSeconds ≤ maxWord64) (hread : d.readSeconds ≤ maxWord64) :
    DirectorySettings.ofValue? .toml (directoryValue d) = some d := by
  obtain ⟨url, bindDn, credential, validateCertificates, scope, poolSize, connectSeconds,
    readSeconds⟩ := d
  cases credential with
  | none =>
    simp [DirectorySettings.ofValue?, directoryValue, directoryFields, optional, asRecord?, field?,
      List.lookup_cons, Leaf.value, asText?, asBool?, scopeOf_word, asNat?_ofNat, hpool, hconnect, hread]
  | some credential =>
    simp [DirectorySettings.ofValue?, directoryValue, directoryFields, optional, asRecord?, field?,
      List.lookup_cons, Leaf.value, asText?, asBool?, asOption?, scopeOf_word, asNat?_ofNat, hpool,
      hconnect, hread]

theorem ofValue?_groupValue {g : GroupSettings} (hdepth : g.maxDepth ≤ maxWord32) :
    GroupSettings.ofValue? .toml (groupValue g) = some g := by
  obtain ⟨base, filter, roleAttribute, ⟨lead, capitals⟩, defaultRole, maxDepth, requested⟩ := g
  have hfield : GroupSettings.ofValue? .toml (groupValue
      ⟨base, filter, roleAttribute, ⟨lead, capitals⟩, defaultRole, maxDepth, requested⟩) =
    some ⟨base, filter, roleAttribute, ⟨lead, capitals⟩, defaultRole, maxDepth, requested⟩ := by
    cases base <;> cases filter <;> cases defaultRole <;>
    simp [GroupSettings.ofValue?, groupValue, groupFields, optional, asRecord?, field?,
      List.lookup_cons, Leaf.value, asText?, asBool?, asOption?, asNat?_ofNat, asTexts?_ofTexts,
      hdepth]
  exact hfield

theorem document_value (s : Settings) :
    s.document.value = .table [("output_format", .text s.format.word),
      ("directory", directoryValue s.directory), ("groups", groupValue s.groups)] := rfl

theorem ofValue?_document_value {s : Settings} (h : s.Fits) :
    ofValue? .toml s.document.value = some s := by
  have hword : Leaf.maxNumber ≤ maxWord64 := by decide
  have hdirectory := ofValue?_directoryValue (Nat.le_trans h.poolSize hword)
    (Nat.le_trans h.connectSeconds hword) (Nat.le_trans h.readSeconds hword)
  have hgroups := ofValue?_groupValue h.maxDepth
  simp [document_value, ofValue?, asRecord?, field?, List.lookup_cons, formatOf_word, hdirectory,
    hgroups]

theorem names_optional (name : String) (value : Option String) :
    ((optional name value).map (·.1)).Sublist [name] := by
  cases value with
  | none => exact List.nil_sublist [name]
  | some text => exact .refl [name]

theorem names_directoryFields (d : DirectorySettings) :
    ((directoryFields d).map (·.1)).Sublist DirectorySettings.fieldNames := by
  rw [directoryFields, List.map_append, List.map_append]
  exact ((List.Sublist.refl _).append (names_optional _ _)).append (.refl _)

theorem names_groupFields (g : GroupSettings) :
    ((groupFields g).map (·.1)).Sublist GroupSettings.fieldNames := by
  rw [groupFields, List.map_append, List.map_append, List.map_append, List.map_append]
  exact ((((names_optional _ _).append (names_optional _ _)).append (.refl _)).append
    (names_optional _ _)).append (.refl _)

theorem wellNamed_of_sublist {s : Section} {names : List String} (hname : isBareName s.name = true)
    (hnames : names.all isBareName = true) (hnodup : names.Nodup)
    (h : (s.fields.map (·.1)).Sublist names) : s.WellNamed := by
  rw [List.all_eq_true] at hnames
  refine ⟨hname, fun f hf => ?_, h.nodup hnodup⟩
  exact hnames f.1 (h.subset (List.mem_map_of_mem hf))

theorem wellNamed_document (s : Settings) : s.document.WellNamed := by
  constructor
  · rw [document, List.forall_mem_singleton]
    exact (by decide : isBareName "output_format" = true)
  · rw [document, List.forall_mem_cons, List.forall_mem_singleton]
    constructor
    · exact wellNamed_of_sublist (by decide : isBareName "directory" = true) (by decide) (by decide)
        (names_directoryFields s.directory)
    · exact wellNamed_of_sublist (by decide : isBareName "groups" = true) (by decide) (by decide)
        (names_groupFields s.groups)
  · change ["output_format", "directory", "groups"].Nodup
    decide

theorem fits_number {n : Nat} (h : n ≤ Leaf.maxNumber) : (Leaf.number n).fits = true :=
  decide_eq_true h

theorem fits_optional (name : String) (value : Option String) :
    (optional name value).all (·.2.fits) = true := by
  cases value <;> rfl

theorem fits_directoryFields {d : DirectorySettings} (hpool : d.poolSize ≤ Leaf.maxNumber)
    (hconnect : d.connectSeconds ≤ Leaf.maxNumber) (hread : d.readSeconds ≤ Leaf.maxNumber) :
    (directoryFields d).all (·.2.fits) = true := by
  rw [directoryFields, List.all_append, List.all_append, fits_optional]
  simp only [List.all_cons, List.all_nil, fits_number hpool, fits_number hconnect,
    fits_number hread]
  rfl

theorem fits_groupFields {g : GroupSettings} (hdepth : g.maxDepth ≤ Leaf.maxNumber) :
    (groupFields g).all (·.2.fits) = true := by
  rw [groupFields, List.all_append, List.all_append, List.all_append, List.all_append,
    fits_optional, fits_optional, fits_optional]
  simp only [List.all_cons, List.all_nil, fits_number hdepth]
  rfl

theorem fits_document {s : Settings} (h : s.Fits) : s.document.fits = true := by
  have hdirectory := fits_directoryFields h.poolSize h.connectSeconds h.readSeconds
  have hgroups := fits_groupFields (Nat.le_trans h.maxDepth (by decide))
  simp only [document, Document.fits, List.all_cons, List.all_nil, hdirectory, hgroups]
  rfl

/-- Settings that fit are written, and read as they were. -/
theorem exists_fileText {s : Settings} (h : s.Fits) :
    ∃ text, s.fileText = .ok text ∧ ofFileText text = .ok s := by
  have hrender : ∃ text, s.document.render? = some text := ⟨_, if_pos (fits_document h)⟩
  obtain ⟨text, hrender⟩ := hrender
  have hparse := Document.parse?_of_render? (wellNamed_document s) hrender
  refine ⟨text, ?_, ?_⟩
  · rw [fileText, hrender]
  · rw [ofFileText, hparse, Option.bind_some, ofValue?_document_value h]

theorem inRange_of_asRecord? {names : List String} {v : Value} (hv : InRange v)
    {fields : List (String × Value)} (h : v.asRecord? .toml names = some fields) :
    ∀ f ∈ fields, InRange f.2 := by
  cases hv with
  | table _ hfields =>
    cases h
    exact hfields
  | list items hitems =>
    cases h
    exact fun f hf => hitems f.2 (List.of_mem_zip hf).2
  | date =>
    cases h
    exact List.forall_mem_nil _
  | null | bool | int | fraction | text => cases h

theorem le_maxNumber_of_asNat? {v : Value} (hv : InRange v) {limit n : Nat}
    (h : v.asNat? limit = some n) : n ≤ Leaf.maxNumber := by
  cases hv with
  | int i _ hhigh =>
    rw [asNat?] at h
    split at h
    · cases h
      exact Int.toNat_le.2 hhigh
    · cases h
  | null | bool | fraction | date | text | list | table => cases h

theorem le_limit_of_asNat? {v : Value} {limit n : Nat} (h : v.asNat? limit = some n) :
    n ≤ limit := by
  rw [asNat?.eq_def] at h
  split at h
  · split at h
    · rename_i hi
      cases h
      exact Int.toNat_le.2 hi.2
    · cases h
  · cases h

theorem field?_cases {fields : List (String × Value)} {name : String} {α : Type}
    {read : Value → Option α} {absent : Option α} {a : α}
    (h : field? fields name read absent = some a) :
    (∃ v, (name, v) ∈ fields ∧ read v = some a) ∨ absent = some a := by
  rw [field?] at h
  split at h
  · rename_i v hv
    exact .inl ⟨v, mem_of_lookup hv, h⟩
  · exact .inr h

theorem le_maxNumber_of_field? {fields : List (String × Value)} (hfields : ∀ f ∈ fields, InRange f.2)
    {name : String} {limit absent n : Nat} (habsent : absent ≤ Leaf.maxNumber)
    (h : field? fields name (asNat? limit) (some absent) = some n) : n ≤ Leaf.maxNumber := by
  rcases field?_cases h with ⟨v, hv, hread⟩ | hdefault
  · exact le_maxNumber_of_asNat? (hfields _ hv) hread
  · cases hdefault
    exact habsent

theorem le_limit_of_field? {fields : List (String × Value)} {name : String} {limit absent n : Nat}
    (habsent : absent ≤ limit) (h : field? fields name (asNat? limit) (some absent) = some n) :
    n ≤ limit := by
  rcases field?_cases h with ⟨v, _, hread⟩ | hdefault
  · exact le_limit_of_asNat? hread
  · cases hdefault
    exact habsent

theorem le_maxNumber_of_directory {v : Value} (hv : InRange v) {d : DirectorySettings}
    (h : DirectorySettings.ofValue? .toml v = some d) :
    d.poolSize ≤ Leaf.maxNumber ∧ d.connectSeconds ≤ Leaf.maxNumber ∧
      d.readSeconds ≤ Leaf.maxNumber := by
  simp only [DirectorySettings.ofValue?, Option.bind_eq_bind, Option.bind_eq_some_iff,
    Option.pure_def, Option.some.injEq] at h
  obtain ⟨fields, hrecord, _, -, _, -, _, -, _, -, _, -, poolSize, hpool, connect, hconnect, read,
    hread, rfl⟩ := h
  have hfields := inRange_of_asRecord? hv hrecord
  exact ⟨le_maxNumber_of_field? hfields (by decide) hpool,
    le_maxNumber_of_field? hfields (by decide) hconnect,
    le_maxNumber_of_field? hfields (by decide) hread⟩

theorem maxDepth_le_of_groups {v : Value} {g : GroupSettings}
    (h : GroupSettings.ofValue? .toml v = some g) : g.maxDepth ≤ maxWord32 := by
  simp only [GroupSettings.ofValue?, Option.bind_eq_bind, Option.bind_eq_some_iff,
    Option.pure_def, Option.some.injEq] at h
  obtain ⟨_, -, _, -, _, -, _, -, _, -, _, -, _, -, depth, hdepth, _, -, rfl⟩ := h
  exact le_limit_of_field? (by decide) hdepth

theorem fits_of_ofValue? {v : Value} (hv : InRange v) {s : Settings}
    (h : ofValue? .toml v = some s) : s.Fits := by
  simp only [ofValue?, Option.bind_eq_bind, Option.bind_eq_some_iff, Option.pure_def,
    Option.some.injEq] at h
  obtain ⟨fields, hrecord, _, -, directory, hdirectory, groups, hgroups, rfl⟩ := h
  have hfields := inRange_of_asRecord? hv hrecord
  have hnumbers : directory.poolSize ≤ Leaf.maxNumber ∧ directory.connectSeconds ≤ Leaf.maxNumber ∧
      directory.readSeconds ≤ Leaf.maxNumber := by
    rcases field?_cases hdirectory with ⟨w, hw, hread⟩ | hdefault
    · exact le_maxNumber_of_directory (hfields _ hw) hread
    · cases hdefault
      decide
  have hdepth : groups.maxDepth ≤ maxWord32 := by
    rcases field?_cases hgroups with ⟨w, _, hread⟩ | hdefault
    · exact maxDepth_le_of_groups hread
    · cases hdefault
      decide
  exact ⟨hnumbers.1, hnumbers.2.1, hnumbers.2.2, hdepth⟩

theorem fits_of_ofFileText {text : String} {s : Settings} (h : ofFileText text = .ok s) : s.Fits := by
  rw [ofFileText] at h
  split at h
  · rename_i hread
    cases h
    obtain ⟨v, hparse, hvalue⟩ := Option.bind_eq_some_iff.1 hread
    exact fits_of_ofValue? (inRange_of_parse? hparse) hvalue
  · cases h

end Settings

end NestedGroups
