import NestedGroups.Proofs.FilterShape
import NestedGroups.Proofs.Placeholders
import NestedGroups.Settings

namespace NestedGroups.Filter

/-- From an opening brace to the first closing brace behind it there is no other opening brace. -/
def FlatBraces (cs : List Char) : Prop :=
  ∀ before inside after, cs = before ++ '\x7b' :: (inside ++ '\x7d' :: after) →
    '\x7d' ∉ inside → '\x7b' ∉ inside

/-- A number between braces, wherever it stands, is zero or one. -/
def KnownNumbers (cs : List Char) : Prop :=
  ∀ before digits after, cs = before ++ '\x7b' :: (digits ++ '\x7d' :: after) →
    Text.isNumeral digits = true → Text.numeralValue digits = 0 ∨ Text.numeralValue digits = 1

structure Grammatical (cs : List Char) : Prop where
  notBlank : ∃ c ∈ cs, Text.isBlank c = false
  balanced : Balanced cs
  flat : FlatBraces cs
  known : KnownNumbers cs

namespace Segment

theorem slot?_ne_none_iff {token : List Char} (h : Text.isNumeral token = true) :
    slot? token ≠ none ↔ Text.numeralValue token = 0 ∨ Text.numeralValue token = 1 := by
  rw [slot?, Text.numeral?, if_pos h]
  rcases Text.numeralValue token with _ | _ | n
  · exact iff_of_true (Option.some_ne_none _) (.inl rfl)
  · exact iff_of_true (Option.some_ne_none _) (.inr rfl)
  · refine iff_of_false (fun hslot => hslot rfl) ?_
    omega

end Segment

def GroupsFaultless (cs : List Char) : Prop :=
  ∀ before token after, '\x7d' ∉ token → cs = before ++ ((Segment.braced token).source ++ after) →
    (Segment.braced token).fault? = none

namespace GroupsFaultless

variable {cs token text rest : List Char}

theorem of_append (h : GroupsFaultless (text ++ rest)) : GroupsFaultless rest := by
  intro before token after htoken heq
  apply h (text ++ before) token after htoken
  rw [heq, List.append_assoc]

theorem braced_iff (hclose : '\x7d' ∉ token) :
    GroupsFaultless ((Segment.braced token).source ++ rest) ↔
      (Segment.braced token).fault? = none ∧ GroupsFaultless rest := by
  constructor
  · intro h
    exact ⟨h [] token rest hclose rfl, h.of_append⟩
  · rintro ⟨hfault, hrest⟩ before other after hother heq
    obtain ⟨hopen, -⟩ := Segment.fault?_braced_eq_none_iff.1 hfault
    rcases group_cases hclose hopen hother heq with ⟨-, rfl, -⟩ | ⟨more, -, hmore⟩
    · exact hfault
    · exact hrest more other after hother hmore

theorem unclosed (hclose : '\x7d' ∉ cs) : GroupsFaultless cs := by
  intro before token after _ heq
  rw [heq, Segment.source_braced_append] at hclose
  simp at hclose

theorem literal_iff (hopen : '\x7b' ∉ text) :
    GroupsFaultless (text ++ rest) ↔ GroupsFaultless rest := by
  constructor
  · exact of_append
  · intro h before token after htoken heq
    rw [Segment.source_braced_append] at heq
    obtain ⟨more, -, hmore⟩ := exists_append_of_not_mem hopen heq
    apply h more token after htoken
    rw [Segment.source_braced_append, hmore]

theorem iff_flat_and_known : GroupsFaultless cs ↔ FlatBraces cs ∧ KnownNumbers cs := by
  simp only [GroupsFaultless, Segment.source_braced_append, Segment.fault?_braced_eq_none_iff]
  constructor
  · intro h
    constructor
    · intro before inside after heq hclose
      exact (h before inside after hclose heq).1
    · intro before digits after heq hnum
      have hclose : '\x7d' ∉ digits := Text.not_mem_of_isNumeral hnum (by decide)
      exact (Segment.slot?_ne_none_iff hnum).1 ((h before digits after hclose heq).2 hnum)
  · rintro ⟨hflat, hknown⟩ before token after hclose heq
    refine ⟨hflat before token after heq hclose, fun hnum => ?_⟩
    exact (Segment.slot?_ne_none_iff hnum).2 (hknown before token after heq hnum)

end GroupsFaultless

/-- What is read from left to right finds every faulty group, also those that it does not read as
groups. -/
theorem Segmented.forall_fault?_iff {cs : List Char} {segs : List Segment} (h : Segmented cs segs) :
    (∀ s ∈ segs, s.fault? = none) ↔ GroupsFaultless cs := by
  induction h with
  | nil =>
    apply iff_of_true (List.forall_mem_nil _)
    exact GroupsFaultless.unclosed List.not_mem_nil
  | braced hclose _ ih => rw [List.forall_mem_cons, ih, GroupsFaultless.braced_iff hclose]
  | unclosed hclose =>
    apply iff_of_true
    · rw [List.forall_mem_singleton]
      rfl
    · apply GroupsFaultless.unclosed
      rw [List.mem_cons, not_or]
      exact ⟨by decide, hclose⟩
  | literal hopen _ ih =>
    rw [List.forall_mem_cons, ih, Segment.source, GroupsFaultless.literal_iff hopen]
    exact and_iff_right rfl

theorem parenFault?_zero_eq_none_iff {cs : List Char} :
    parenFault? 0 cs = none ↔ Balanced cs := by
  rw [parenFault?_eq_none_iff]
  simp only [Nat.zero_add]
  exact ⟨fun ⟨hle, heq⟩ => ⟨hle, heq⟩, fun ⟨hle, heq⟩ => ⟨hle, heq⟩⟩

theorem fault?_eq_none_iff {text : String} : fault? text = none ↔ Grammatical text.toList := by
  have hgroups := (segmented text.toList).forall_fault?_iff
  rw [fault?]
  split
  · rename_i hblank
    refine iff_of_false (Option.some_ne_none _) ?_
    rintro ⟨⟨c, hc, hvisible⟩, -⟩
    cases hvisible.symm.trans (List.all_eq_true.1 hblank c hc)
  · rename_i hvisible
    rw [Option.or_eq_none_iff, List.findSome?_eq_none_iff, parenFault?_zero_eq_none_iff, hgroups,
      GroupsFaultless.iff_flat_and_known]
    have hnotBlank : ∃ c ∈ text.toList, Text.isBlank c = false := by
      simpa only [Text.isAllBlank, List.all_eq_true, not_forall, Bool.not_eq_true,
        exists_prop] using hvisible
    constructor
    · rintro ⟨hbalanced, hflat, hknown⟩
      exact ⟨hnotBlank, hbalanced, hflat, hknown⟩
    · rintro ⟨-, hbalanced, hflat, hknown⟩
      exact ⟨hbalanced, hflat, hknown⟩

namespace Template

theorem exists_parse_iff {text : String} :
    (∃ t, parse text = .ok t) ↔ Grammatical text.toList := by
  rw [← fault?_eq_none_iff]
  constructor
  · rintro ⟨t, ht⟩
    rw [← parse_eq_ok_iff.1 ht]
    exact t.faultless
  · intro h
    exact ⟨⟨text, h⟩, parse_text ⟨text, h⟩⟩

theorem ofValue?_eq_ok_iff {v : Value} {t : Template} :
    ofValue? v = some (.ok t) ↔ v = .text t.text := by
  rw [ofValue?]
  cases v with
  | text s =>
    simp only [Value.asText?, Option.map_some, Option.some.injEq, Value.text.injEq, parse_eq_ok_iff]
    exact eq_comm
  | _ => exact iff_of_false (fun h => by cases h) (fun h => by cases h)

/-- Exactly the texts of the grammar are accepted, and they are kept as they are. All others are
refused as invalid filters, and there is no way to a template but through the grammar. -/
theorem parse_ok_iff_grammatical (text : String) :
    ((∃ t, parse text = .ok t) ↔ Grammatical text.toList) ∧
      (∀ t, parse text = .ok t ↔ t.text = text) ∧
      (∀ fault, parse text = .error fault →
        (∀ d : GroupSearch.Draft, d.filter = some text →
          d.build = .error (.invalidFilter (fault.message text))) ∧
        ofValue? (.text text) = some (.error fault)) ∧
      (∀ v t, ofValue? v = some (.ok t) ↔ v = .text t.text) ∧
      parse "(member=\x7b0\x7d)" = .ok default ∧
      ∀ t : Template, Grammatical t.text.toList ∧ parse t.text = .ok t := by
  refine ⟨exists_parse_iff, fun t => parse_eq_ok_iff, ?_, fun v t => ofValue?_eq_ok_iff,
    parse_text default, fun t => ⟨?_, parse_text t⟩⟩
  · intro fault hfault
    constructor
    · intro d hd
      rw [GroupSearch.Draft.build, hd]
      simp only [hfault]
    · rw [ofValue?, Value.asText?, Option.map_some, hfault]
  · exact exists_parse_iff.1 ⟨t, parse_text t⟩

/-- Zeros may lead a number, and a brace that is never closed may stand alone. Braces inside braces
are refused although what they hold is a number that is known. -/
theorem parse_ok_iff_grammatical_of_braces :
    let good := "(a=\x7b000\x7d\x7bx\x7d\x7b01\x7d\x7b)"
    let bad := "(a=\x7b\x7b0\x7d\x7d)"
    Grammatical good.toList ∧ ¬ Grammatical bad.toList ∧
      ({ filter := some bad } : GroupSearch.Draft).build =
        .error (.invalidFilter "nested '\x7b' in '(a=\x7b\x7b0\x7d\x7d)'") := by
  intro good bad
  obtain ⟨hgood, -⟩ := parse_ok_iff_grammatical good
  obtain ⟨hbad, -, hrefused, -⟩ := parse_ok_iff_grammatical bad
  let t : Template := ⟨good, by decide +kernel⟩
  have ht : parse good = .ok t := parse_text t
  have hfault : parse bad = .error .nestedBrace := by decide +kernel
  have hmessage : Fault.nestedBrace.message bad = "nested '\x7b' in '(a=\x7b\x7b0\x7d\x7d)'" := by
    decide +kernel
  refine ⟨hgood.1 ⟨t, ht⟩, ?_, ?_⟩
  · rw [← hbad, hfault]
    rintro ⟨t, ht⟩
    cases ht
  · rw [← hmessage]
    exact (hrefused _ hfault).1 _ rfl

end Template

end NestedGroups.Filter
