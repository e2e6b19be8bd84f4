import Mathlib.Data.List.Basic
import NestedGroups.Filter
import NestedGroups.Proofs.Segmentation

namespace NestedGroups.Filter

/-- A placeholder, or a character beside the placeholders. -/
inductive Mark where
  | plain (c : Char)
  | placeholder (digits : List Char)

namespace Mark

def source : Mark → List Char
  | .plain c => [c]
  | .placeholder digits => (Segment.braced digits).source

/-- The number 0 stands for the identity, any other for the label. -/
def fill (identity label : List Char) : Mark → List Char
  | .plain c => [c]
  | .placeholder digits =>
    if Text.numeralValue digits = 0 then escape identity else escape label

theorem source_ne_nil (m : Mark) : m.source ≠ [] := by
  cases m <;> exact List.cons_ne_nil _ _

theorem flatMap_plain {f : Mark → List Char} (hf : ∀ c, f (.plain c) = [c]) (cs : List Char) :
    (cs.map Mark.plain).flatMap f = cs := by
  induction cs with
  | nil => rfl
  | cons c cs ih => rw [List.map_cons, List.flatMap_cons, ih, hf, List.singleton_append]

theorem flatMap_source_plain (cs : List Char) : (cs.map Mark.plain).flatMap source = cs :=
  flatMap_plain (fun _ => rfl) cs

theorem flatMap_source_eq_nil_iff {marks : List Mark} : marks.flatMap source = [] ↔ marks = [] := by
  cases marks with
  | nil => exact iff_of_true rfl rfl
  | cons m marks =>
    rw [List.flatMap_cons, List.append_eq_nil_iff]
    exact iff_of_false (fun h => m.source_ne_nil h.1) (List.cons_ne_nil _ _)

end Mark

/-- The marks make up the text, and no placeholder of the text is cut up or passed over. -/
structure Division (text : List Char) (marks : List Mark) : Prop where
  source : marks.flatMap Mark.source = text
  numeral : ∀ digits, .placeholder digits ∈ marks → Text.isNumeral digits = true
  complete : ∀ before digits after, Text.isNumeral digits = true →
    text = before ++ ((Segment.braced digits).source ++ after) →
      ∃ left right, marks = left ++ .placeholder digits :: right ∧
        left.flatMap Mark.source = before ∧ right.flatMap Mark.source = after

namespace Division

variable {text rest cs digits : List Char} {marks marks' : List Mark} {m : Mark}

theorem of_cons (h : Division text (m :: marks)) : Division (marks.flatMap Mark.source) marks := by
  refine ⟨rfl, fun digits hmem => h.numeral digits (List.mem_cons_of_mem _ hmem), ?_⟩
  intro before digits after hnum heq
  have htext : text = m.source ++ before ++ ((Segment.braced digits).source ++ after) := by
    rw [← h.source, List.flatMap_cons, heq, List.append_assoc]
  obtain ⟨left, right, hmarks, hbefore, hafter⟩ := h.complete _ _ _ hnum htext
  cases left with
  | nil =>
    have hnil := (List.append_eq_nil_iff.1 hbefore.symm).1
    exact (m.source_ne_nil hnil).elim
  | cons _ left =>
    obtain ⟨rfl, htail⟩ := List.cons.inj hmarks
    rw [List.flatMap_cons] at hbefore
    exact ⟨left, right, htail, List.append_cancel_left hbefore, hafter⟩

theorem head_eq (h : Division text (m :: marks))
    (h' : Division text (.placeholder digits :: marks')) : m = .placeholder digits := by
  have hnum := h'.numeral digits List.mem_cons_self
  have htext : text = [] ++ ((Segment.braced digits).source ++ marks'.flatMap Mark.source) := by
    rw [← h'.source, List.flatMap_cons, Mark.source, List.nil_append]
  obtain ⟨left, right, hmarks, hleft, -⟩ := h.complete _ _ _ hnum htext
  rw [Mark.flatMap_source_eq_nil_iff] at hleft
  rw [hleft, List.nil_append] at hmarks
  exact (List.cons.inj hmarks).1

theorem unique (h : Division text marks) (h' : Division text marks') : marks = marks' := by
  induction marks generalizing text marks' with
  | nil =>
    have hnil := h'.source.trans h.source.symm
    exact (Mark.flatMap_source_eq_nil_iff.1 hnil).symm
  | cons m marks ih =>
    cases marks' with
    | nil =>
      have hnil := h.source.trans h'.source.symm
      exact Mark.flatMap_source_eq_nil_iff.1 hnil
    | cons m' marks' =>
      have hsource := h.source.trans h'.source.symm
      rw [List.flatMap_cons, List.flatMap_cons] at hsource
      have hm : m = m' := by
        cases m' with
        | placeholder digits => exact h.head_eq h'
        | plain c' =>
          cases m with
          | placeholder digits => exact (h'.head_eq h).symm
          | plain c =>
            have hc := (List.cons.inj hsource).1
            rw [hc]
      subst hm
      have hrest := List.append_cancel_left hsource
      rw [ih h.of_cons (hrest ▸ h'.of_cons)]

theorem nil : Division [] [] := by
  refine ⟨rfl, fun digits h => ?_, fun before digits after _ h => ?_⟩
  · cases h
  · have hlast := (List.append_eq_nil_iff.1 h.symm).2
    cases hlast

theorem plain (h : Division rest marks)
    (hbegin : ∀ before digits after, Text.isNumeral digits = true →
      cs ++ rest = before ++ ((Segment.braced digits).source ++ after) →
        ∃ more, before = cs ++ more ∧ rest = more ++ ((Segment.braced digits).source ++ after)) :
    Division (cs ++ rest) (cs.map Mark.plain ++ marks) := by
  refine ⟨?_, ?_, ?_⟩
  · rw [List.flatMap_append, Mark.flatMap_source_plain, h.source]
  · intro digits hmem
    rcases List.mem_append.1 hmem with hmem | hmem
    · obtain ⟨_, _, heq⟩ := List.mem_map.1 hmem
      cases heq
    · exact h.numeral digits hmem
  · intro before digits after hnum heq
    obtain ⟨more, rfl, hmore⟩ := hbegin _ _ _ hnum heq
    obtain ⟨left, right, rfl, hleft, hright⟩ := h.complete _ _ _ hnum hmore
    refine ⟨cs.map Mark.plain ++ left, right, ?_, ?_, hright⟩
    · rw [List.append_assoc]
    · rw [List.flatMap_append, Mark.flatMap_source_plain, hleft]

end Division

section

variable {token other rest before after : List Char}

theorem group_cases (hclose : '\x7d' ∉ token) (hopen : '\x7b' ∉ token) (hother : '\x7d' ∉ other)
    (h : (Segment.braced token).source ++ rest =
      before ++ ((Segment.braced other).source ++ after)) :
    (before = [] ∧ other = token ∧ after = rest) ∨
      ∃ more, before = (Segment.braced token).source ++ more ∧
        rest = more ++ ((Segment.braced other).source ++ after) := by
  rw [Segment.source_braced_append other] at h ⊢
  cases before with
  | nil =>
    rw [Segment.source_braced_append] at h
    obtain ⟨htoken, hrest⟩ := append_cons_inj hclose hother (List.cons.inj h).2
    exact .inl ⟨rfl, htoken.symm, hrest.symm⟩
  | cons x before =>
    obtain ⟨rfl, htail⟩ := List.cons.inj h
    have hgroup : '\x7b' ∉ token ++ ['\x7d'] := by
      rw [List.mem_append, not_or]
      exact ⟨hopen, by decide⟩
    obtain ⟨more, rfl, hmore⟩ := exists_append_of_not_mem hgroup htail
    exact .inr ⟨more, rfl, hmore⟩

theorem Division.placeholder {marks : List Mark} (h : Division rest marks)
    (hclose : '\x7d' ∉ token) (hopen : '\x7b' ∉ token) (hnum : Text.isNumeral token = true) :
    Division ((Segment.braced token).source ++ rest) (.placeholder token :: marks) := by
  refine ⟨?_, ?_, ?_⟩
  · rw [List.flatMap_cons, h.source, Mark.source]
  · intro digits hmem
    rcases List.mem_cons.1 hmem with heq | hmem
    · cases heq
      exact hnum
    · exact h.numeral digits hmem
  · intro before digits after hdigits heq
    have hother : '\x7d' ∉ digits := Text.not_mem_of_isNumeral hdigits (by decide)
    rcases group_cases hclose hopen hother heq with ⟨rfl, rfl, rfl⟩ | ⟨more, rfl, hmore⟩
    · exact ⟨[], marks, rfl, rfl, h.source⟩
    · obtain ⟨left, right, rfl, hleft, hright⟩ := h.complete _ _ _ hdigits hmore
      refine ⟨.placeholder token :: left, right, rfl, ?_, hright⟩
      rw [List.flatMap_cons, hleft, Mark.source]

end

namespace Segment

def marks : Segment → List Mark
  | .literal text => text.map .plain
  | .braced token =>
    if Text.isNumeral token = true then [.placeholder token]
    else (Segment.braced token).source.map .plain

theorem fault?_braced_eq_none_iff {token : List Char} :
    (Segment.braced token).fault? = none ↔
      '\x7b' ∉ token ∧ (Text.isNumeral token = true → slot? token ≠ none) := by
  rw [fault?]
  split
  · simp [*]
  · split
    · simp [*]
    · rename_i hopen hslot
      simp only [true_iff]
      exact ⟨hopen, fun hnum hnone => hslot ⟨hnum, hnone⟩⟩

theorem numeralValue_of_slot? {token : List Char} {slot : Slot} (h : slot? token = some slot) :
    Text.numeralValue token = if slot = .identity then 0 else 1 := by
  have hvalue {n : Nat} (h : Text.numeral? token = some n) : Text.numeralValue token = n := by
    rw [Text.numeral?] at h
    split at h
    · exact Option.some.inj h
    · cases h
  rw [slot?] at h
  split at h
  · cases h
    exact hvalue ‹_›
  · cases h
    exact hvalue ‹_›
  · cases h

theorem fill_marks {s : Segment} (h : s.fault? = none) (identity label : List Char) :
    s.marks.flatMap (Mark.fill identity label) = s.render identity label := by
  have hplain := Mark.flatMap_plain (f := Mark.fill identity label) fun _ => rfl
  cases s with
  | literal text => exact hplain text
  | braced token =>
    obtain ⟨-, hslot⟩ := fault?_braced_eq_none_iff.1 h
    rw [marks, render]
    split
    · rename_i hnum
      rw [List.flatMap_singleton, Mark.fill]
      cases hs : slot? token with
      | none => exact (hslot hnum hs).elim
      | some slot => cases slot <;> simp [numeralValue_of_slot? hs]
    · rename_i hnum
      rw [slot?, Text.numeral?, if_neg hnum]
      exact hplain _

theorem numeralValue_of_mem_marks {s : Segment} (h : s.fault? = none) {digits : List Char}
    (hmem : .placeholder digits ∈ s.marks) :
    Text.numeralValue digits = 0 ∨ Text.numeralValue digits = 1 := by
  have hplain (cs : List Char) : .placeholder digits ∉ cs.map Mark.plain := by
    intro h
    obtain ⟨_, _, heq⟩ := List.mem_map.1 h
    cases heq
  cases s with
  | literal text => exact (hplain _ hmem).elim
  | braced token =>
    obtain ⟨-, hslot⟩ := fault?_braced_eq_none_iff.1 h
    rw [marks] at hmem
    split at hmem
    · rename_i hnum
      cases List.mem_singleton.1 hmem
      obtain ⟨slot, hs⟩ := Option.ne_none_iff_exists'.1 (hslot hnum)
      cases slot with
      | identity => exact .inl (numeralValue_of_slot? hs)
      | label => exact .inr (numeralValue_of_slot? hs)
    · exact (hplain _ hmem).elim

end Segment

theorem Segmented.division {text : List Char} {segs : List Segment} (h : Segmented text segs)
    (hfault : ∀ s ∈ segs, s.fault? = none) : Division text (segs.flatMap Segment.marks) := by
  induction h with
  | nil => exact .nil
  | @braced token rest segs hclose _ ih =>
    rw [List.forall_mem_cons] at hfault
    obtain ⟨hopen, -⟩ := Segment.fault?_braced_eq_none_iff.1 hfault.1
    have hrest := ih hfault.2
    rw [List.flatMap_cons, Segment.marks]
    split
    · rename_i hnum
      exact hrest.placeholder hclose hopen hnum
    · rename_i hnum
      apply hrest.plain
      intro before digits after hdigits heq
      have hother : '\x7d' ∉ digits := Text.not_mem_of_isNumeral hdigits (by decide)
      rcases group_cases hclose hopen hother heq with ⟨-, rfl, -⟩ | hmore
      · exact (hnum hdigits).elim
      · exact hmore
  | @unclosed rest hclose =>
    have hplain : Division ('\x7b' :: rest ++ []) (('\x7b' :: rest).map Mark.plain ++ []) := by
      apply Division.nil.plain
      intro before digits after _ heq
      have hmem : '\x7d' ∈ '\x7b' :: rest ++ [] := by
        rw [heq, Segment.source_braced_append]
        simp
      rw [List.append_nil, List.mem_cons] at hmem
      exact (hclose (hmem.resolve_left (by decide))).elim
    rw [List.append_nil, List.append_nil] at hplain
    rwa [List.flatMap_singleton, Segment.marks]
  | @literal cs rest segs hopen _ ih =>
    rw [List.forall_mem_cons] at hfault
    apply (ih hfault.2).plain
    intro before digits after _ heq
    rw [Segment.source_braced_append] at heq ⊢
    exact exists_append_of_not_mem hopen heq

namespace Template

theorem fault?_segment (t : Template) : ∀ s ∈ segments t.text.toList, s.fault? = none := by
  have h := t.faultless
  rw [Filter.fault?] at h
  split at h
  · cases h
  · exact List.findSome?_eq_none_iff.1 (Option.or_eq_none_iff.1 h).2

/-- No placeholder of a template is missed, wherever it stands, and what is put in for one is not
looked at again: the marks come from the template alone. -/
theorem render_eq_fill {text : String} {t : Template} (h : parse text = .ok t) :
    ∃ marks, Division text.toList marks ∧ (∀ other, Division text.toList other → other = marks) ∧
      (∀ digits, .placeholder digits ∈ marks →
        Text.numeralValue digits = 0 ∨ Text.numeralValue digits = 1) ∧
      ∀ identity label : String, (t.render identity label).toList =
        marks.flatMap (Mark.fill identity.toList label.toList) := by
  obtain rfl := parse_eq_ok_iff.1 h
  have hfault := t.fault?_segment
  have hdivision := (segmented t.text.toList).division hfault
  refine ⟨_, hdivision, fun other hother => hother.unique hdivision, ?_, ?_⟩
  · intro digits hmem
    obtain ⟨s, hs, hdigits⟩ := List.mem_flatMap.1 hmem
    exact Segment.numeralValue_of_mem_marks (hfault s hs) hdigits
  · intro identity label
    rw [render, String.toList_ofList, List.flatMap_assoc]
    exact List.flatMap_congr fun s hs => (Segment.fill_marks (hfault s hs) _ _).symm

theorem render_eq_fill_of_braces :
    let text := "(a=\x7b01\x7d\x7bx\x7d\x7b00\x7d\x7b)"
    ∃ t, parse text = .ok t ∧
      t.render "\x7b1\x7d" "\x7b0\x7d*" = "(a=\x7b0\x7d\\2a\x7bx\x7d\x7b1\x7d\x7b)" ∧
      ∃ marks, Division text.toList marks ∧
        (t.render "\x7b1\x7d" "\x7b0\x7d*").toList =
          marks.flatMap (Mark.fill "\x7b1\x7d".toList "\x7b0\x7d*".toList) := by
  intro text
  let t : Template := ⟨text, by decide +kernel⟩
  have ht : parse text = .ok t := parse_text t
  obtain ⟨marks, hdivision, -, -, hrender⟩ := render_eq_fill ht
  exact ⟨t, ht, by decide +kernel, marks, hdivision, hrender _ _⟩

end Template

end NestedGroups.Filter
