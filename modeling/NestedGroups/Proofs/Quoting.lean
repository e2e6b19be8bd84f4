import Mathlib.Data.List.Basic
import NestedGroups.Toml.Document
import NestedGroups.Toml.Scalar

namespace NestedGroups.Toml

open NestedGroups.Text

theorem isPlain_of_not_needsEscape {c : Char} (h : needsEscape c = false) (hc : c ≠ '\n') :
    isPlain c = true := by
  by_cases htab : c = '\t'
  · subst htab
    rfl
  · simp only [needsEscape, Bool.or_eq_false_iff, Bool.and_eq_false_iff, decide_eq_false_iff_not,
      Nat.not_lt, ne_eq, not_not, hc, htab, or_false] at h
    simp only [isPlain, h, htab, decide_false, decide_true, ne_eq, not_false_eq_true, Bool.and_self,
      Bool.or_true]

theorem ne_return_of_not_needsEscape {c : Char} (h : needsEscape c = false) : c ≠ '\r' := by
  intro hc
  subst hc
  cases h

theorem scalar?_hexDigits : ∀ n < 128, scalar? ['0', '0', (hexDigit (n / 16)).toUpper,
    (hexDigit (n % 16)).toUpper] = some (Char.ofNat n) := by
  decide +kernel

theorem scalar?_of_needsEscape {c : Char} (h : needsEscape c = true) :
    scalar? ['0', '0', (hexDigit (c.toNat / 16)).toUpper, (hexDigit (c.toNat % 16)).toUpper] =
      some c := by
  have hlow : c.toNat < 128 := by
    simp only [needsEscape, Bool.or_eq_true, Bool.and_eq_true, decide_eq_true_eq] at h
    omega
  rw [scalar?_hexDigits _ hlow, Char.ofNat_toNat]

theorem afterNewline?_cons {c : Char} (hfeed : c ≠ '\n') (hreturn : c ≠ '\r') (rest : List Char) :
    afterNewline? (c :: rest) = none := by
  rw [afterNewline?]
  · simp [hfeed]
  · simp [hreturn]

inductive Escapes (multiline : Bool) (c : Char) : List Char → Prop
  | named (name : Char) (h : escape? name = some c) : Escapes multiline c ['\\', name]
  | coded (a b : Char) (h : scalar? ['0', '0', a, b] = some c) :
      Escapes multiline c ['\\', 'u', '0', '0', a, b]
  | plain (hplain : isPlain c = true) (hslash : c ≠ '\\') : Escapes multiline c [c]
  | feed (hmultiline : multiline = true) (hc : c = '\n') : Escapes multiline c ['\n']

theorem escapes_escapeChar (multiline : Bool) (c : Char) :
    Escapes multiline c (escapeChar multiline c) := by
  unfold escapeChar
  split
  case h_1 => exact .named 'b' rfl
  case h_2 => exact .named 't' rfl
  case h_3 =>
    cases multiline with
    | false => exact .named 'n' rfl
    | true => exact .feed rfl rfl
  case h_4 => exact .named 'f' rfl
  case h_5 => exact .named 'r' rfl
  case h_6 => exact .named '\\' rfl
  case h_7 _ hfeed _ _ hslash =>
    split
    · rename_i hcode
      exact .coded _ _ (scalar?_of_needsEscape hcode)
    · rename_i hcode
      exact .plain (isPlain_of_not_needsEscape (Bool.eq_false_iff.2 hcode) hfeed) hslash

theorem ne_of_escape? {name c d : Char} (h : escape? name = some c) (hd : escape? d = none) :
    name ≠ d := by
  intro hname
  rw [hname, hd] at h
  cases h

theorem ne_of_isPlain {c d : Char} (h : isPlain c = true) (hd : isPlain d = false) : c ≠ d := by
  intro hc
  rw [hc, hd] at h
  cases h

theorem Escapes.basicBody_append {c : Char} {written : List Char} (h : Escapes false c written)
    (hc : c ≠ '"') (rest : List Char) : basicBody (written ++ rest) = cons c (basicBody rest) := by
  cases h with
  | named name h =>
    have hshort := ne_of_escape? (d := 'u') h rfl
    have hlong := ne_of_escape? (d := 'U') h rfl
    simp only [List.cons_append, List.nil_append]
    rw [basicBody, h]
    · rfl
    all_goals simp [hshort, hlong]
  | coded a b h =>
    simp only [List.cons_append, List.nil_append]
    rw [basicBody, h]
    rfl
  | plain hplain hslash =>
    rw [List.singleton_append, basicBody]
    · simp [hplain, hslash]
    all_goals simp [hc, hslash]
  | feed hmultiline => cases hmultiline

theorem basicBody_escapeBasic (cs rest : List Char) :
    basicBody (escapeBasic false 0 cs ++ '"' :: rest) = some (cs, rest) := by
  induction cs with
  | nil => rfl
  | cons c cs ih =>
    rw [escapeBasic]
    split
    · rename_i hc
      subst hc
      change cons '"' (basicBody (escapeBasic false 0 cs ++ '"' :: rest)) = _
      rw [ih]
      rfl
    · rename_i hc
      rw [List.append_assoc, (escapes_escapeChar false c).basicBody_append hc, ih]
      rfl

theorem literalBody_append {cs : List Char} (h : ∀ c ∈ cs, isPlain c = true ∧ c ≠ '\'')
    (rest : List Char) : literalBody (cs ++ '\'' :: rest) = some (cs, rest) := by
  induction cs with
  | nil => rfl
  | cons c cs ih =>
    rw [List.forall_mem_cons] at h
    obtain ⟨⟨hplain, hquote⟩, hcs⟩ := h
    rw [List.cons_append, literalBody, if_pos hplain, ih hcs]
    · rfl
    · exact fun heq => hquote heq

theorem isLineEnd_of_escape? {name c : Char} (h : escape? name = some c) (rest : List Char) :
    isLineEnd (name :: rest) = false := by
  have hspace : isSpace name = false := by
    rw [isSpace, Bool.or_eq_false_iff]
    exact ⟨decide_eq_false (ne_of_escape? h rfl), decide_eq_false (ne_of_escape? h rfl)⟩
  rw [isLineEnd, List.dropWhile_cons_of_neg (by rw [hspace]; exact Bool.false_ne_true),
    afterNewline?_cons (ne_of_escape? h rfl) (ne_of_escape? h rfl)]
  rfl

theorem Escapes.multilineBasicBody_append {c : Char} {written : List Char}
    (h : Escapes true c written) (hc : c ≠ '"') (rest : List Char) :
    multilineBasicBody false (written ++ rest) = cons c (multilineBasicBody false rest) := by
  cases h with
  | named name h =>
    have hshort := ne_of_escape? (d := 'u') h rfl
    have hlong := ne_of_escape? (d := 'U') h rfl
    simp only [List.cons_append, List.nil_append]
    rw [multilineBasicBody, isLineEnd_of_escape? h, h]
    · rfl
    all_goals simp [hshort, hlong]
  | coded a b h =>
    simp only [List.cons_append, List.nil_append]
    rw [multilineBasicBody, h]
    rfl
  | plain hplain hslash =>
    have hreturn := ne_of_isPlain (d := '\r') hplain rfl
    have hfeed := ne_of_isPlain (d := '\n') hplain rfl
    rw [List.singleton_append, multilineBasicBody]
    · simp [hplain, hslash]
    all_goals simp [hc, hslash, hreturn, hfeed]
  | feed _ hfeed =>
    subst hfeed
    rfl

theorem Escapes.exists_cons {multiline : Bool} {c : Char} {written : List Char}
    (h : Escapes multiline c written) (hc : c ≠ '"') : ∃ a more, written = a :: more ∧ a ≠ '"' := by
  cases h with
  | named | coded => exact ⟨'\\', _, rfl, by decide⟩
  | plain => exact ⟨c, [], rfl, hc⟩
  | feed => exact ⟨'\n', [], rfl, by decide⟩

/-- On one line no quote is written as it is, and on several lines none after two others. -/
theorem exists_cons_escapeBasic {multiline : Bool} {run : Nat} {c : Char}
    (h : c = '"' → multiline = true → 2 ≤ run) (cs : List Char) :
    ∃ a more, escapeBasic multiline run (c :: cs) = a :: more ∧ a ≠ '"' := by
  rw [escapeBasic]
  split
  · rename_i hc
    have hfull : (multiline && decide (run < 2)) = false := by
      rw [Bool.and_eq_false_imp]
      exact fun hmultiline => decide_eq_false (Nat.not_lt.2 (h hc hmultiline))
    rw [hfull]
    exact ⟨'\\', _, rfl, by decide⟩
  · rename_i hc
    obtain ⟨a, more, hwritten, ha⟩ := (escapes_escapeChar multiline c).exists_cons hc
    rw [hwritten]
    exact ⟨a, _, rfl, ha⟩

theorem multilineBasicBody_quote {rest : List Char} (h : ∀ more, rest ≠ '"' :: '"' :: more) :
    multilineBasicBody false ('"' :: rest) = cons '"' (multilineBasicBody false rest) := by
  rw [multilineBasicBody]
  · rfl
  all_goals simp [h]

/-- Quotes that stand before the closing ones are read together with them. -/
theorem multilineBasicBody_escapeBasic {rest : List Char} (hrest : ∀ more, rest ≠ '"' :: more)
    {run : Nat} (hrun : run ≤ 2) (cs : List Char) :
    multilineBasicBody false (escapeBasic true run cs ++ '"' :: '"' :: '"' :: rest) =
      some (cs, rest) := by
  induction cs generalizing run with
  | nil =>
    rw [escapeBasic, List.nil_append, multilineBasicBody]
    all_goals simp [hrest]
  | cons c cs ih =>
    by_cases hc : c = '"'
    · subst hc
      rw [escapeBasic, if_pos rfl]
      by_cases hlast : run < 2
      · have hnext := ih (Nat.succ_le_of_lt hlast)
        rw [decide_eq_true hlast, Bool.true_and, if_pos rfl, List.cons_append]
        match cs with
        | [] =>
          rw [escapeBasic, List.nil_append, multilineBasicBody]
          simp [hrest]
        | d :: cs =>
          by_cases hd : d = '"' ∧ run = 0
          · obtain ⟨rfl, rfl⟩ := hd
            match cs with
            | [] => rfl
            | e :: cs =>
              obtain ⟨a, more, hwritten, ha⟩ := exists_cons_escapeBasic (c := e)
                (fun _ _ => Nat.le_refl 2) cs
              rw [multilineBasicBody_quote, hnext]
              · rfl
              · rw [escapeBasic, if_pos rfl, hwritten]
                simp [ha]
          · have hfirst : d = '"' → true = true → 2 ≤ run + 1 := by
              intro hquote _
              have hpos : run ≠ 0 := fun hzero => hd ⟨hquote, hzero⟩
              omega
            obtain ⟨a, more, hwritten, ha⟩ := exists_cons_escapeBasic hfirst cs
            rw [multilineBasicBody_quote, hnext]
            · rfl
            · rw [hwritten]
              simp [ha]
      · rw [decide_eq_false hlast, Bool.and_false, if_neg Bool.false_ne_true]
        change cons '"' (multilineBasicBody false (escapeBasic true 0 cs ++ _)) = _
        rw [ih (Nat.zero_le 2)]
        rfl
    · rw [escapeBasic, if_neg hc, List.append_assoc,
        (escapes_escapeChar true c).multilineBasicBody_append hc, ih (Nat.zero_le 2)]
      rfl

theorem le_longestRun (x : Char) (run : Nat) (cs : List Char) : run ≤ longestRun x run cs := by
  induction cs generalizing run with
  | nil => exact Nat.le_refl _
  | cons c cs ih =>
    rw [longestRun]
    split
    · exact Nat.le_of_succ_le (ih (run + 1))
    · exact Nat.le_max_left run _

theorem multilineLiteralBody_cons {c : Char} (hcode : needsEscape c = false) (hquote : c ≠ '\'')
    (rest : List Char) : multilineLiteralBody (c :: rest) = cons c (multilineLiteralBody rest) := by
  by_cases hfeed : c = '\n'
  · subst hfeed
    rfl
  · have hreturn := ne_return_of_not_needsEscape hcode
    rw [multilineLiteralBody, if_pos (isPlain_of_not_needsEscape hcode hfeed)]
    all_goals simp [hquote, hfeed, hreturn]

theorem multilineLiteralBody_quote {rest : List Char} (h : ∀ more, rest ≠ '\'' :: '\'' :: more) :
    multilineLiteralBody ('\'' :: rest) = cons '\'' (multilineLiteralBody rest) := by
  rw [multilineLiteralBody]
  · rfl
  all_goals simp [h]

theorem multilineLiteralBody_append {rest : List Char} (hrest : ∀ more, rest ≠ '\'' :: more)
    {cs : List Char} (hcode : ∀ c ∈ cs, needsEscape c = false) {run : Nat}
    (hrun : longestRun '\'' run cs ≤ 2) :
    multilineLiteralBody (cs ++ '\'' :: '\'' :: '\'' :: rest) = some (cs, rest) := by
  induction cs generalizing run with
  | nil =>
    rw [List.nil_append, multilineLiteralBody]
    all_goals simp [hrest]
  | cons c cs ih =>
    rw [List.forall_mem_cons] at hcode
    rw [longestRun] at hrun
    by_cases hc : c = '\''
    · subst hc
      rw [if_pos rfl] at hrun
      have hnext := ih hcode.2 hrun
      match cs with
      | [] =>
        rw [List.cons_append, List.nil_append, multilineLiteralBody]
        simp [hrest]
      | d :: cs =>
        by_cases hd : d = '\''
        · subst hd
          match cs with
          | [] => rfl
          | e :: cs =>
            have he : e ≠ '\'' := by
              intro he
              rw [he, longestRun, if_pos rfl, longestRun, if_pos rfl] at hrun
              have hle := le_longestRun '\'' (run + 1 + 1 + 1) cs
              omega
            rw [List.cons_append, multilineLiteralBody_quote, hnext]
            · rfl
            · simp [he]
        · rw [List.cons_append, multilineLiteralBody_quote, hnext]
          · rfl
          · simp [hd]
    · rw [if_neg hc] at hrun
      rw [List.cons_append, multilineLiteralBody_cons hcode.1 hc,
        ih hcode.2 (Nat.le_trans (Nat.le_max_right _ _) hrun)]
      rfl

theorem not_mem_of_longestRun_eq_zero {x : Char} {cs : List Char} (h : longestRun x 0 cs = 0) :
    x ∉ cs := by
  induction cs with
  | nil => exact List.not_mem_nil
  | cons c cs ih =>
    rw [longestRun] at h
    split at h
    · have hle := le_longestRun x (0 + 1) cs
      omega
    · rename_i hc
      rw [Nat.max_eq_zero_iff] at h
      rw [List.mem_cons, not_or]
      exact ⟨Ne.symm hc, ih h.2⟩

theorem Quoting.of_eq_literal {cs : List Char} (h : Quoting.of cs = .literal) :
    ∀ c ∈ cs, isPlain c = true ∧ c ≠ '\'' := by
  simp only [Quoting.of] at h
  split at h
  · cases h
  split at h
  · rename_i hplain
    simp only [Bool.and_eq_true, Bool.not_eq_true', List.any_eq_false, Bool.not_eq_true,
      List.contains_eq_mem, decide_eq_false_iff_not, decide_eq_true_eq] at hplain
    obtain ⟨⟨hcode, hfeed⟩, hsingle⟩ := hplain
    intro c hc
    refine ⟨isPlain_of_not_needsEscape (hcode c hc) fun heq => hfeed (heq ▸ hc), fun heq => ?_⟩
    exact not_mem_of_longestRun_eq_zero hsingle (heq ▸ hc)
  · split at h
    · cases h
    · split at h
      · cases h
      · split at h <;> cases h

theorem Quoting.of_eq_multilineLiteral {cs : List Char} (h : Quoting.of cs = .multilineLiteral) :
    (∀ c ∈ cs, needsEscape c = false) ∧ longestRun '\'' 0 cs ≤ 2 := by
  simp only [Quoting.of] at h
  split at h
  · cases h
  split at h
  · cases h
  split at h
  · cases h
  split at h
  · rename_i hplain
    simp only [Bool.and_eq_true, Bool.not_eq_true', List.any_eq_false, Bool.not_eq_true,
      decide_eq_true_eq] at hplain
    exact hplain
  · split at h <;> cases h

theorem skipNewline_cons {c : Char} (hfeed : c ≠ '\n') (hreturn : c ≠ '\r') (rest : List Char) :
    skipNewline (c :: rest) = c :: rest := by
  rw [skipNewline, afterNewline?_cons hfeed hreturn]
  rfl

theorem skipNewline_opening {cs body : List Char}
    (h : '\n' ∉ cs → ∃ a more, body = a :: more ∧ a ≠ '\n' ∧ a ≠ '\r') :
    skipNewline (opening cs ++ body) = body := by
  by_cases hfeed : '\n' ∈ cs
  · rw [opening, if_pos (List.elem_eq_true_of_mem hfeed)]
    rfl
  · obtain ⟨a, more, rfl, hne, hreturn⟩ := h hfeed
    rw [opening, if_neg (by rwa [List.contains_eq_mem, decide_eq_true_eq])]
    exact skipNewline_cons hne hreturn more

theorem Escapes.exists_cons_of_ne_feed {multiline : Bool} {c : Char} {written : List Char}
    (h : Escapes multiline c written) (hc : c ≠ '\n') :
    ∃ a more, written = a :: more ∧ a ≠ '\n' ∧ a ≠ '\r' := by
  cases h with
  | named | coded => exact ⟨'\\', _, rfl, by decide, by decide⟩
  | plain hplain => exact ⟨c, [], rfl, hc, ne_of_isPlain hplain rfl⟩
  | feed _ hfeed => exact (hc hfeed).elim

theorem exists_cons_escapeBasic_of_one_line {cs : List Char} (h : '\n' ∉ cs) (rest : List Char) :
    ∃ a more, escapeBasic true 0 cs ++ '"' :: rest = a :: more ∧ a ≠ '\n' ∧ a ≠ '\r' := by
  cases cs with
  | nil => exact ⟨'"', rest, rfl, by decide, by decide⟩
  | cons c cs =>
    rw [List.mem_cons, not_or] at h
    rw [escapeBasic]
    by_cases hc : c = '"'
    · rw [if_pos hc]
      exact ⟨'"', _, rfl, by decide, by decide⟩
    · obtain ⟨a, more, hwritten, ha⟩ :=
        (escapes_escapeChar true c).exists_cons_of_ne_feed (Ne.symm h.1)
      rw [if_neg hc, hwritten]
      exact ⟨a, _, rfl, ha⟩

theorem exists_cons_of_one_line {cs : List Char} (hcode : ∀ c ∈ cs, needsEscape c = false)
    (h : '\n' ∉ cs) (rest : List Char) :
    ∃ a more, cs ++ '\'' :: rest = a :: more ∧ a ≠ '\n' ∧ a ≠ '\r' := by
  cases cs with
  | nil => exact ⟨'\'', rest, rfl, by decide, by decide⟩
  | cons c cs =>
    rw [List.mem_cons, not_or] at h
    rw [List.forall_mem_cons] at hcode
    exact ⟨c, _, rfl, Ne.symm h.1, ne_return_of_not_needsEscape hcode.1⟩

theorem readText_basic {cs rest : List Char} (hrest : ∀ more, rest ≠ '"' :: more) :
    readText ('"' :: (escapeBasic false 0 cs ++ '"' :: rest)) = some (cs, rest) := by
  have hopen : ∀ more, escapeBasic false 0 cs ++ '"' :: rest ≠ '"' :: '"' :: more := by
    cases cs with
    | nil => simp [escapeBasic, hrest]
    | cons c cs =>
      have hone : c = '"' → false = true → 2 ≤ 0 := fun _ h => nomatch h
      obtain ⟨a, more, hwritten, ha⟩ := exists_cons_escapeBasic hone cs
      rw [hwritten]
      simp [ha]
  rw [readText, readLine, basicBody_escapeBasic]
  all_goals simp [hopen]

theorem readText_literal {cs rest : List Char} (hcs : ∀ c ∈ cs, isPlain c = true ∧ c ≠ '\'')
    (hrest : ∀ more, rest ≠ '\'' :: more) :
    readText ('\'' :: (cs ++ '\'' :: rest)) = some (cs, rest) := by
  have hopen : ∀ more, cs ++ '\'' :: rest ≠ '\'' :: '\'' :: more := by
    cases cs with
    | nil => simp [hrest]
    | cons c cs => simp [(hcs c List.mem_cons_self).2]
  rw [readText, readLine, literalBody_append hcs]
  all_goals simp [hopen]

/-- A text between quotes is read as it was, if no more quotes follow. -/
theorem readText_quote (cs : List Char) {rest : List Char} (hdouble : ∀ more, rest ≠ '"' :: more)
    (hsingle : ∀ more, rest ≠ '\'' :: more) : readText (quote cs ++ rest) = some (cs, rest) := by
  rw [quote]
  cases hkind : Quoting.of cs with
  | basic =>
    simp only [List.append_assoc, List.cons_append, List.nil_append]
    exact readText_basic hdouble
  | literal =>
    simp only [List.append_assoc, List.cons_append, List.nil_append]
    exact readText_literal (Quoting.of_eq_literal hkind) hsingle
  | multilineBasic =>
    simp only [List.append_assoc, List.cons_append, List.nil_append]
    rw [readText, skipNewline_opening (exists_cons_escapeBasic_of_one_line · _)]
    exact multilineBasicBody_escapeBasic hdouble (Nat.zero_le 2) cs
  | multilineLiteral =>
    obtain ⟨hcode, hrun⟩ := Quoting.of_eq_multilineLiteral hkind
    simp only [List.append_assoc, List.cons_append, List.nil_append]
    rw [readText, skipNewline_opening (exists_cons_of_one_line hcode · _)]
    exact multilineLiteralBody_append hsingle hcode hrun

end NestedGroups.Toml
