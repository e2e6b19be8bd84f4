import NestedGroups.Proofs.FilterShape
import NestedGroups.Proofs.Placeholders

namespace NestedGroups.Filter

/-- Reads a value in a filter: a backslash and two hexadecimal digits are the character with that
number, everything else is itself. -/
def unescape : List Char → List Char
  | [] => []
  | '\\' :: a :: b :: rest =>
    match Text.hexDigitValue? a, Text.hexDigitValue? b with
    | some high, some low => .ofNat (16 * high + low) :: unescape rest
    | _, _ => '\\' :: unescape (a :: b :: rest)
  | c :: rest => c :: unescape rest

def unescapeText (s : String) : String :=
  .ofList (unescape s.toList)

def codes : List (List Char) :=
  [['5', 'c'], ['2', 'a'], ['2', '8'], ['2', '9'], ['0', '0']]

theorem unescape_cons_of_ne {c : Char} (h : c ≠ '\\') (rest : List Char) :
    unescape (c :: rest) = c :: unescape rest := by
  rw [unescape]
  intro a b rest' hc
  exact (h hc).elim

theorem escapeChar_cases (c : Char) :
    (c ≠ '\\' ∧ escapeChar c = [c]) ∨
      ∃ code ∈ codes, escapeChar c = '\\' :: code ∧
        ∀ rest, unescape ('\\' :: code ++ rest) = c :: unescape rest := by
  rw [escapeChar.eq_def]
  split
  case h_6 hbackslash _ _ _ _ => exact .inl ⟨hbackslash, rfl⟩
  all_goals exact .inr ⟨_, by decide, rfl, fun _ => rfl⟩

theorem backslash_not_mem_of_mem_codes {code : List Char} (h : code ∈ codes) : '\\' ∉ code := by
  revert code
  decide

theorem unescape_escapeChar_append (c : Char) (rest : List Char) :
    unescape (escapeChar c ++ rest) = c :: unescape rest := by
  rcases escapeChar_cases c with ⟨hne, hc⟩ | ⟨code, -, hc, hread⟩
  · rw [hc]
    exact unescape_cons_of_ne hne rest
  · rw [hc, hread]

theorem unescape_escape (s : List Char) : unescape (escape s) = s := by
  induction s with
  | nil => rfl
  | cons c s ih =>
    rw [escape, List.flatMap_cons, ← escape, unescape_escapeChar_append, ih]

theorem exists_code_of_escape {s before after : List Char}
    (h : escape s = before ++ '\\' :: after) : ∃ code ∈ codes, code <+: after := by
  induction s generalizing before with
  | nil =>
    have hlast := (List.append_eq_nil_iff.1 h.symm).2
    cases hlast
  | cons c s ih =>
    rw [escape, List.flatMap_cons, ← escape] at h
    rcases append_eq_append_cons h with ⟨more, hchar, rfl⟩ | ⟨more, rfl, hrest⟩
    · rcases escapeChar_cases c with ⟨hne, hc⟩ | ⟨code, hcode, hc, -⟩
      · rw [hc] at hchar
        have hmem : '\\' ∈ [c] := by
          rw [hchar]
          exact List.mem_append_right _ List.mem_cons_self
        exact (hne (List.mem_singleton.1 hmem).symm).elim
      · rw [hc] at hchar
        cases before with
        | nil =>
          obtain ⟨-, rfl⟩ := List.cons.inj hchar
          exact ⟨code, hcode, List.prefix_append code _⟩
        | cons x before =>
          have hmem : '\\' ∈ code := by
            rw [(List.cons.inj hchar).2]
            exact List.mem_append_right _ List.mem_cons_self
          exact (backslash_not_mem_of_mem_codes hcode hmem).elim
    · exact ih hrest

theorem not_mem_escape {c : Char} (hc : isStructural c = true) (s : List Char) :
    c ∉ escape s := by
  intro hmem
  have hshape : c ∈ shape (escape s) := List.mem_filter.2 ⟨hmem, hc⟩
  rw [shape_escape] at hshape
  cases hshape

/-- Escaping loses nothing, and two values that differ are still different when they are escaped. An
escaped value has none of the characters with a meaning in filters, but for backslashes that begin
a code. -/
theorem escapeText_lossless (s t : String) :
    unescapeText (escapeText s) = s ∧
      (∀ c ∈ ['*', '(', ')', '\x00'], c ∉ (escapeText s).toList) ∧
      (∀ before after, (escapeText s).toList = before ++ '\\' :: after →
        ∃ code ∈ codes, code <+: after) ∧
      escapeText (s ++ t) = escapeText s ++ escapeText t ∧
      (escapeText s = escapeText t → s = t) := by
  have hread (s : String) : unescapeText (escapeText s) = s := by
    rw [unescapeText, escapeText, String.toList_ofList, unescape_escape, String.ofList_toList]
  refine ⟨hread s, ?_, ?_, escapeText_append s t, ?_⟩
  · intro c hc
    rw [escapeText, String.toList_ofList]
    have hall : ['*', '(', ')', '\x00'].all isStructural = true := rfl
    exact not_mem_escape (List.all_eq_true.1 hall c hc) s.toList
  · intro before after h
    rw [escapeText, String.toList_ofList] at h
    exact exists_code_of_escape h
  · intro h
    rw [← hread s, h, hread t]

/-- A value that looks escaped is not taken for what it looks like. -/
theorem escapeText_lossless_of_lookalike :
    escapeText "\\2a*" = "\\5c2a\\2a" ∧ unescapeText "\\5c2a\\2a" = "\\2a*" ∧
      escapeText "\\2a" ≠ escapeText "*" ∧ ∃ code ∈ codes, code <+: "5c2a\\2a".toList := by
  have hescape : escapeText "\\2a*" = "\\5c2a\\2a" := by decide +kernel
  obtain ⟨hread, -, hcode, -, -⟩ := escapeText_lossless "\\2a*" ""
  obtain ⟨-, -, -, -, hinj⟩ := escapeText_lossless "\\2a" "*"
  rw [hescape] at hread hcode
  refine ⟨hescape, hread, ?_, hcode [] _ (by decide +kernel)⟩
  intro h
  exact absurd (hinj h) (by decide)

theorem length_le_escape (cs : List Char) : cs.length ≤ (escape cs).length := by
  induction cs with
  | nil => exact Nat.zero_le _
  | cons c cs ih =>
    have hc : 0 < (escapeChar c).length := by
      rcases escapeChar_cases c with ⟨-, h⟩ | ⟨code, -, h, -⟩
      · rw [h]
        exact Nat.one_pos
      · rw [h]
        exact Nat.succ_pos _
    rw [escape, List.flatMap_cons, ← escape, List.length_append, List.length_cons]
    omega

theorem Segment.render_eq_source {s : Segment}
    (h : ∀ token, s = .braced token → Text.isNumeral token = false) (identity label : List Char) :
    s.render identity label = s.source := by
  cases s with
  | literal text => rfl
  | braced token =>
    have hslot : slot? token = none := by
      rw [slot?, Text.numeral?, h token rfl]
      rfl
    rw [render, hslot]

namespace Template

variable {t : Template}

theorem render_eq_text (h : ∀ token, .braced token ∈ segments t.text.toList →
    Text.isNumeral token = false) (identity label : String) : t.render identity label = t.text := by
  have hsource : ∀ s ∈ segments t.text.toList,
      s.render identity.toList label.toList = s.source := by
    intro s hs
    apply Segment.render_eq_source
    rintro token rfl
    exact h token hs
  rw [render, List.flatMap_congr hsource, flatMap_source_segments, String.ofList_toList]

theorem length_le_render {token : List Char} (hmem : .braced token ∈ segments t.text.toList)
    (hnum : Text.isNumeral token = true) (value : String) :
    value.toList.length ≤ (t.render value value).toList.length := by
  obtain ⟨-, hslot⟩ := Segment.fault?_braced_eq_none_iff.1 (t.fault?_segment _ hmem)
  have htoken : (Segment.braced token).render value.toList value.toList = escape value.toList := by
    obtain ⟨slot, hs⟩ := Option.ne_none_iff_exists'.1 (hslot hnum)
    rw [Segment.render, hs]
    cases slot <;> rfl
  obtain ⟨before, after, hsegs⟩ := List.append_of_mem hmem
  have hlength := length_le_escape value.toList
  rw [render, String.toList_ofList, hsegs, List.flatMap_append, List.flatMap_cons, htoken,
    List.length_append, List.length_append]
  omega

theorem isNumeral_eq_false_of_render (h : ∀ identity label, t.render identity label = t.text)
    {token : List Char} (hmem : .braced token ∈ segments t.text.toList) :
    Text.isNumeral token = false := by
  rw [Bool.eq_false_iff]
  intro hnum
  have hlength := length_le_render hmem hnum (t.text ++ "x")
  rw [h, String.toList_append, List.length_append] at hlength
  exact Nat.not_succ_le_self _ hlength

end Template

/-- Nothing is lost and nothing is read twice when a text falls into segments: each of them takes up
at least one character, and the others are those of what is left behind it. -/
theorem segments_partition (cs : List Char) (t : Template) :
    (segments cs).flatMap Segment.source = cs ∧
      (segments cs).length ≤ cs.length ∧
      (∀ before s after, segments cs = before ++ s :: after →
        ∃ rest, cs = before.flatMap Segment.source ++ (s.source ++ rest) ∧
          rest.length < (s.source ++ rest).length ∧
          segments (s.source ++ rest) = s :: after ∧ segments rest = after) ∧
      (∀ token, .braced token ∈ segments cs → '\x7d' ∉ token) ∧
      (∀ before text after, segments cs = before ++ .literal text :: after → '\x7b' ∈ text →
        after = [] ∧ text.head? = some '\x7b' ∧ '\x7d' ∉ text) ∧
      ((∀ token, .braced token ∈ segments t.text.toList → Text.isNumeral token = false) ↔
        ∀ identity label, t.render identity label = t.text) := by
  have hforms {before : List Segment} {s : Segment} {after : List Segment}
      (h : segments cs = before ++ s :: after) :
      (∀ token, s = .braced token → '\x7d' ∉ token) ∧
        ∀ text, s = .literal text → '\x7b' ∈ text →
          after = [] ∧ text.head? = some '\x7b' ∧ '\x7d' ∉ text := by
    obtain ⟨rest, -, hrest⟩ := exists_rest_of_append h
    apply Segmented.forms
    rw [← hrest]
    exact segmented rest
  refine ⟨flatMap_source_segments cs, length_segments_le cs, ?_, ?_, ?_, ?_⟩
  · intro before s after h
    obtain ⟨left, hcs, hleft⟩ := exists_rest_of_append h
    obtain ⟨hs, rest, rfl, hrest⟩ := exists_rest_of_cons hleft
    have hpos := List.length_pos_iff.2 hs
    refine ⟨rest, hcs, ?_, hleft, hrest⟩
    rw [List.length_append]
    omega
  · intro token hmem
    obtain ⟨before, after, h⟩ := List.append_of_mem hmem
    exact (hforms h).1 token rfl
  · intro before text after h
    exact (hforms h).2 text rfl
  · constructor
    · intro h
      exact Template.render_eq_text h
    · intro h token hmem
      exact Template.isNumeral_eq_false_of_render h hmem

/-- A group that is no number stays, and a brace that is never closed makes the last piece. -/
theorem segments_partition_of_braces :
    let cs := "a\x7bx\x7d\x7b0\x7d\x7bb".toList
    let last : Segment := .literal ['\x7b', 'b']
    let t : Template := ⟨"(d=\x7bx\x7d\x7b)", by decide +kernel⟩
    segments cs = [.literal ['a'], .braced ['x'], .braced ['0'], last] ∧
      (∃ rest, rest.length < ("\x7bx\x7d".toList ++ rest).length ∧
        segments rest = [.braced ['0'], last]) ∧
      '\x7d' ∉ ['0'] ∧ '\x7d' ∉ ['\x7b', 'b'] ∧
      ∀ identity label, t.render identity label = "(d=\x7bx\x7d\x7b)" := by
  intro cs last t
  have hsegs : segments cs = [.literal ['a'], .braced ['x'], .braced ['0'], last] := by
    decide +kernel
  obtain ⟨-, -, hcut, htoken, hliteral, hrender⟩ := segments_partition cs t
  obtain ⟨rest, -, hlength, -, hrest⟩ := hcut [.literal ['a']] (.braced ['x']) _ hsegs
  have hopen : '\x7b' ∈ ['\x7b', 'b'] := List.mem_cons_self
  obtain ⟨-, -, hlast⟩ := hliteral [.literal ['a'], .braced ['x'], .braced ['0']] _ [] hsegs hopen
  refine ⟨hsegs, ⟨rest, hlength, hrest⟩, htoken ['0'] ?_, hlast, hrender.1 ?_⟩
  · rw [hsegs]
    decide
  · have htext : segments t.text.toList =
        [.literal "(d=".toList, .braced ['x'], .literal "\x7b)".toList] := by
      decide +kernel
    rw [htext]
    intro token hmem
    simp only [List.mem_cons, reduceCtorEq, Segment.braced.injEq, List.not_mem_nil, or_false,
      false_or] at hmem
    rw [hmem]
    rfl

end NestedGroups.Filter
