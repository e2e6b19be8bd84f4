import NestedGroups.Filter
import NestedGroups.Proofs.Lists

namespace NestedGroups.Filter

theorem Segment.source_braced_append (token rest : List Char) :
    (Segment.braced token).source ++ rest = '\x7b' :: (token ++ '\x7d' :: rest) := by
  rw [source, List.append_assoc]
  rfl

/-- How a text falls into segments. -/
inductive Segmented : List Char → List Segment → Prop
  | nil : Segmented [] []
  | braced {token rest : List Char} {segs : List Segment} (hclose : '\x7d' ∉ token)
      (h : Segmented rest segs) :
      Segmented ((Segment.braced token).source ++ rest) (.braced token :: segs)
  | unclosed {rest : List Char} (hclose : '\x7d' ∉ rest) :
      Segmented ('\x7b' :: rest) [.literal ('\x7b' :: rest)]
  | literal {text rest : List Char} {segs : List Segment} (hopen : '\x7b' ∉ text)
      (h : Segmented rest segs) :
      Segmented ((Segment.literal text).source ++ rest) (.literal text :: segs)

theorem segmented (cs : List Char) : Segmented cs (segments cs) := by
  fun_induction segments cs with
  | case1 => exact .nil
  | case2 rest hclose ih =>
    have hend : '\x7d' ∉ rest.takeWhile (· ≠ '\x7d') := not_mem_takeWhile_ne
    have h := Segmented.braced hend ih
    rwa [Segment.source_braced_append, takeWhile_append_tail hclose] at h
  | case3 rest hclose => exact .unclosed hclose
  | case4 c rest hc ih =>
    have hopen : '\x7b' ∉ c :: rest.takeWhile (· ≠ '\x7b') := by
      rw [List.mem_cons, not_or]
      exact ⟨Ne.symm hc, not_mem_takeWhile_ne⟩
    have h := Segmented.literal hopen ih
    rwa [Segment.source, List.cons_append, List.takeWhile_append_dropWhile] at h

/-- Only a brace that is never closed makes a text of its own, and it takes all the rest. -/
theorem Segmented.forms {cs : List Char} {s : Segment} {segs : List Segment}
    (h : Segmented cs (s :: segs)) :
    (∀ token, s = .braced token → '\x7d' ∉ token) ∧
      ∀ text, s = .literal text → '\x7b' ∈ text →
        segs = [] ∧ text.head? = some '\x7b' ∧ '\x7d' ∉ text := by
  cases h with
  | braced hclose _ =>
    constructor
    · intro token heq
      cases heq
      exact hclose
    · intro text heq
      cases heq
  | @unclosed rest hclose =>
    constructor
    · intro token heq
      cases heq
    · intro text heq _
      cases heq
      refine ⟨rfl, rfl, ?_⟩
      rw [List.mem_cons, not_or]
      exact ⟨by decide, hclose⟩
  | literal hopen _ =>
    constructor
    · intro token heq
      cases heq
    · intro text heq hmem
      cases heq
      exact (hopen hmem).elim

theorem exists_rest_of_cons {cs : List Char} {s : Segment} {segs : List Segment}
    (h : segments cs = s :: segs) :
    s.source ≠ [] ∧ ∃ rest, cs = s.source ++ rest ∧ segments rest = segs := by
  cases cs with
  | nil =>
    rw [segments] at h
    cases h
  | cons c cs =>
    rw [segments] at h
    split at h
    · rename_i hc
      split at h
      · rename_i hclose
        cases h
        refine ⟨List.cons_ne_nil _ _, _, ?_, rfl⟩
        rw [Segment.source_braced_append, takeWhile_append_tail hclose, hc]
      · cases h
        refine ⟨List.cons_ne_nil _ _, [], ?_, by rw [segments]⟩
        rw [Segment.source, List.append_nil]
    · cases h
      refine ⟨List.cons_ne_nil _ _, _, ?_, rfl⟩
      rw [Segment.source, List.cons_append, List.takeWhile_append_dropWhile]

theorem exists_rest_of_append {cs : List Char} {before after : List Segment}
    (h : segments cs = before ++ after) :
    ∃ rest, cs = before.flatMap Segment.source ++ rest ∧ segments rest = after := by
  induction before generalizing cs with
  | nil => exact ⟨cs, rfl, h⟩
  | cons s before ih =>
    obtain ⟨-, left, rfl, hleft⟩ := exists_rest_of_cons h
    obtain ⟨rest, rfl, hrest⟩ := ih hleft
    refine ⟨rest, ?_, hrest⟩
    rw [List.flatMap_cons, List.append_assoc]

theorem length_segments_le (cs : List Char) : (segments cs).length ≤ cs.length := by
  generalize hsegs : segments cs = segs
  induction segs generalizing cs with
  | nil => exact Nat.zero_le _
  | cons s segs ih =>
    obtain ⟨hs, rest, rfl, hrest⟩ := exists_rest_of_cons hsegs
    have hpos := List.length_pos_iff.2 hs
    have hlength := ih rest hrest
    rw [List.length_append, List.length_cons]
    omega

theorem flatMap_source_segments (cs : List Char) : (segments cs).flatMap Segment.source = cs := by
  have h := segmented cs
  generalize segments cs = segs at h
  induction h with
  | nil => rfl
  | braced _ _ ih => rw [List.flatMap_cons, ih]
  | unclosed => rw [List.flatMap_singleton, Segment.source]
  | literal _ _ ih => rw [List.flatMap_cons, ih]

end NestedGroups.Filter
