import NestedGroups.Text.Case

namespace NestedGroups.Text

/-- Only the letters A to Z are beyond doubt: the Kelvin sign becomes `k` and a dotted capital `İ`
begins with `i`. -/
def isSteady (t : Char) : Bool :=
  0 < t.toNat && t.toNat < 0x80 && t ≠ 'i' && t ≠ 'k'

theorem not_isSteady_of_not_ascii {c : Char} (h : 0x80 ≤ c.toNat) : isSteady c = false := by
  have hlarge : ¬ c.toNat < 0x80 := Nat.not_lt.2 h
  simp only [isSteady, hlarge, decide_false, Bool.and_false, Bool.false_and]

theorem toLower_of_not_ascii {c : Char} (h : 0x80 ≤ c.toNat) : c.toLower = c := by
  apply dif_neg
  rintro ⟨-, hle⟩
  have hle : c.toNat ≤ 'Z'.toNat := hle
  have hz : 'Z'.toNat = 0x5A := rfl
  omega

theorem apply_lowerMap_of_ascii {c : Char} (h : c.toNat < 0x80) :
    lowerMap.apply c = [c.toLower] := by
  have hall : ∀ n : Fin 0x80, lowerMap.apply (Char.ofNat n) = [(Char.ofNat n).toLower] := by
    decide +kernel
  have hc := hall ⟨c.toNat, h⟩
  rwa [Char.ofNat_toNat] at hc

theorem image_lowerRuns {run : CaseRun} (hrun : run ∈ lowerRuns) {n m : Nat} (hn : 0x80 ≤ n)
    (h : run.image? n = some m) : 0x80 ≤ m ∨ m = 'k'.toNat := by
  have hruns : ∀ run ∈ lowerRuns, run.last < 0x80 ∨ 0x80 ≤ run.target ∨
      run.first = run.last ∧ run.target = 'k'.toNat := by
    decide +kernel
  rw [CaseRun.image?] at h
  split at h
  · rename_i hin
    cases h
    rcases hruns run hrun with hlast | htarget | ⟨hsingle, htarget⟩
    · omega
    · exact .inl (by omega)
    · exact .inr (by omega)
  · cases h

theorem not_isSteady_ofNat {m : Nat} (h : 0x80 ≤ m ∨ m = 'k'.toNat) :
    isSteady (Char.ofNat m) = false := by
  rcases h with hlarge | rfl
  · rcases toNat_ofNat_cases m with hm | hzero
    · exact not_isSteady_of_not_ascii (by omega)
    · simp only [isSteady, hzero, Nat.lt_irrefl, decide_false, Bool.false_and]
  · rfl

theorem exists_apply_lowerMap_of_not_ascii {c : Char} (h : 0x80 ≤ c.toNat) :
    ∃ x xs, lowerMap.apply c = x :: xs ∧ isSteady x = false := by
  rw [CaseMap.apply]
  split
  · rename_i m hm
    obtain ⟨run, hrun, himage⟩ := List.exists_of_findSome?_eq_some hm
    exact ⟨_, [], rfl, not_isSteady_ofNat (image_lowerRuns hrun h himage)⟩
  · split
    · rename_i ns hns
      rw [lowerMap, lowerExpansions, List.lookup_cons] at hns
      split at hns
      · cases hns
        exact ⟨'i', _, rfl, rfl⟩
      · cases hns
    · exact ⟨c, [], rfl, not_isSteady_of_not_ascii h⟩

theorem lowerChar_of_ascii {c : Char} (h : c.toNat < 0x80) (before after : List Char) :
    lowerChar before c after = [c.toLower] := by
  have hsigma : c ≠ 'Σ' := by
    rintro rfl
    exact absurd h (by decide)
  rw [lowerChar, if_neg hsigma, apply_lowerMap_of_ascii h]

theorem exists_lowerChar_of_not_ascii {c : Char} (h : 0x80 ≤ c.toNat) (before after : List Char) :
    ∃ x xs, lowerChar before c after = x :: xs ∧ isSteady x = false := by
  rw [lowerChar]
  split
  · refine ⟨_, [], rfl, ?_⟩
    split <;> rfl
  · exact exists_apply_lowerMap_of_not_ascii h

theorem isPrefix_lowerChars_iff {ts : List Char} (hts : ∀ t ∈ ts, isSteady t = true)
    (before cs : List Char) : ts <+: lowerChars before cs ↔ ts <+: cs.map Char.toLower := by
  induction ts generalizing before cs with
  | nil => exact iff_of_true List.nil_prefix List.nil_prefix
  | cons t ts ih =>
    obtain ⟨ht, hts⟩ := List.forall_mem_cons.1 hts
    cases cs with
    | nil => rfl
    | cons c cs =>
      rw [lowerChars, List.map_cons, List.cons_prefix_cons]
      rcases Nat.lt_or_ge c.toNat 0x80 with hascii | hlarge
      · rw [lowerChar_of_ascii hascii, List.singleton_append, List.cons_prefix_cons, ih hts]
      · obtain ⟨x, xs, hchar, hx⟩ := exists_lowerChar_of_not_ascii hlarge before cs
        rw [hchar, List.cons_append, List.cons_prefix_cons, toLower_of_not_ascii hlarge]
        have hne {y : Char} (hy : isSteady y = false) : t ≠ y := by
          rintro rfl
          cases hy.symm.trans ht
        exact iff_of_false (fun h => hne hx h.1)
          fun h => hne (not_isSteady_of_not_ascii hlarge) h.1

def bytes (s : String) : List UInt8 :=
  s.toUTF8.data.toList

def lowerByte (b : UInt8) : UInt8 :=
  if 0x41 ≤ b ∧ b ≤ 0x5A then b + 0x20 else b

theorem bytes_eq_flatMap (s : String) : bytes s = s.toList.flatMap String.utf8EncodeChar := by
  rw [bytes, String.toUTF8_eq_toByteArray, ← String.utf8Encode_toList, List.utf8Encode,
    List.toList_data_toByteArray]

theorem length_bytes (s : String) : (bytes s).length = s.utf8ByteSize := by
  rfl

theorem utf8EncodeChar_of_ascii {c : Char} (h : c.toNat < 0x80) :
    String.utf8EncodeChar c = [UInt8.ofNat c.toNat] :=
  if_pos (Nat.le_of_lt_succ h)

theorem exists_utf8EncodeChar_of_not_ascii {c : Char} (h : 0x80 ≤ c.toNat) :
    ∃ b bs, String.utf8EncodeChar c = b :: bs ∧ 0x80 ≤ b.toNat := by
  have hlarge : ¬ c.val.toNat ≤ 0x7F := by
    change ¬ c.toNat ≤ 0x7F
    omega
  rw [String.utf8EncodeChar]
  rw [if_neg hlarge]
  split
  · refine ⟨_, _, rfl, ?_⟩
    rw [UInt8.toNat_ofNat']
    omega
  · split
    · refine ⟨_, _, rfl, ?_⟩
      rw [UInt8.toNat_ofNat']
      omega
    · refine ⟨_, _, rfl, ?_⟩
      rw [UInt8.toNat_ofNat']
      omega

theorem lowerByte_of_ascii {c : Char} (h : c.toNat < 0x80) :
    c.toLower.toNat < 0x80 ∧ lowerByte (UInt8.ofNat c.toNat) = UInt8.ofNat c.toLower.toNat := by
  have hall : ∀ n : Fin 0x80, (Char.ofNat n).toLower.toNat < 0x80 ∧
      lowerByte (UInt8.ofNat (Char.ofNat n).toNat) = UInt8.ofNat (Char.ofNat n).toLower.toNat := by
    decide +kernel
  have hc := hall ⟨c.toNat, h⟩
  rwa [Char.ofNat_toNat] at hc

theorem lowerByte_of_large {b : UInt8} (h : 0x80 ≤ b.toNat) : lowerByte b = b := by
  rw [lowerByte, if_neg]
  rintro ⟨-, hle⟩
  have hle : b.toNat ≤ 0x5A := hle
  omega

theorem ofNat_toNat_inj_of_ascii {t u : Char} (ht : t.toNat < 0x80) (hu : u.toNat < 0x80) :
    UInt8.ofNat t.toNat = UInt8.ofNat u.toNat ↔ t = u := by
  constructor
  · intro h
    have hnat := congrArg UInt8.toNat h
    rw [UInt8.toNat_ofNat', UInt8.toNat_ofNat'] at hnat
    have heq : t.toNat = u.toNat := by omega
    rw [← Char.ofNat_toNat t, heq, Char.ofNat_toNat]
  · rintro rfl
    rfl

theorem isPrefix_bytes_iff {ts : List Char} (hts : ∀ t ∈ ts, t.toNat < 0x80) (cs : List Char) :
    ts.flatMap String.utf8EncodeChar <+: (cs.flatMap String.utf8EncodeChar).map lowerByte ↔
      ts <+: cs.map Char.toLower := by
  induction ts generalizing cs with
  | nil => exact iff_of_true List.nil_prefix List.nil_prefix
  | cons t ts ih =>
    obtain ⟨ht, hts⟩ := List.forall_mem_cons.1 hts
    rw [List.flatMap_cons, utf8EncodeChar_of_ascii ht, List.singleton_append]
    cases cs with
    | nil => simp only [List.flatMap_nil, List.map_nil, List.prefix_nil, reduceCtorEq]
    | cons c cs =>
      rw [List.flatMap_cons, List.map_append, List.map_cons, List.cons_prefix_cons]
      rcases Nat.lt_or_ge c.toNat 0x80 with hascii | hlarge
      · obtain ⟨hlower, hbyte⟩ := lowerByte_of_ascii hascii
        rw [utf8EncodeChar_of_ascii hascii, List.map_singleton, hbyte, List.singleton_append,
          List.cons_prefix_cons, ih hts, ofNat_toNat_inj_of_ascii ht hlower]
      · obtain ⟨b, bs, hencode, hb⟩ := exists_utf8EncodeChar_of_not_ascii hlarge
        rw [hencode, List.map_cons, lowerByte_of_large hb, List.cons_append,
          List.cons_prefix_cons, toLower_of_not_ascii hlarge]
        refine iff_of_false (fun h => ?_) fun h => ?_
        · have hnat := congrArg UInt8.toNat h.1
          rw [UInt8.toNat_ofNat'] at hnat
          omega
        · have hnat := congrArg Char.toNat h.1
          omega

end NestedGroups.Text
