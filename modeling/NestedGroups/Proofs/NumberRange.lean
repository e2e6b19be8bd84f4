import NestedGroups.Toml.Reading

namespace NestedGroups.Toml

/-- A tree in which every whole number is within range. -/
inductive InRange : Value → Prop
  | null : InRange .null
  | bool (b : Bool) : InRange (.bool b)
  | int (i : Int) (hlow : minInteger ≤ i) (hhigh : i ≤ maxInteger) : InRange (.int i)
  | fraction (digits : String) : InRange (.fraction digits)
  | date (text : String) : InRange (.date text)
  | text (s : String) : InRange (.text s)
  | list (items : List Value) (h : ∀ v ∈ items, InRange v) : InRange (.list items)
  | table (fields : List (String × Value)) (h : ∀ f ∈ fields, InRange f.2) : InRange (.table fields)

theorem inRange_of_inRange? {i : Int} {v : Value} (h : inRange? i = some v) : InRange v := by
  rw [inRange?] at h
  split at h
  · rename_i hi
    cases h
    exact .int i hi.1 hi.2
  · cases h

theorem inRange_of_readInBase {base : Nat} {isDigit : Char → Bool} {cs rest : List Char} {v : Value}
    (h : readInBase base isDigit cs = some (v, rest)) : InRange v := by
  simp only [readInBase, Option.bind_eq_bind, Option.pure_def, Option.bind_eq_some_iff,
    Option.some.injEq, Prod.mk.injEq] at h
  obtain ⟨_, _, w, hw, rfl, _⟩ := h
  exact inRange_of_inRange? hw

theorem inRange_of_readFraction {cs : List Char} {negative : Bool} {whole body rest : List Char}
    {v : Value} (h : readFraction cs negative whole body = some (v, rest)) : InRange v := by
  simp only [readFraction, Option.bind_eq_bind] at h
  split at h
  all_goals
    obtain ⟨_, _, h⟩ := Option.bind_eq_some_iff.1 h
    obtain ⟨_, _, h⟩ := Option.bind_eq_some_iff.1 h
    split at h
    · cases h
    · cases h
      exact .fraction _

theorem inRange_of_readSpecial {cs body rest : List Char} {v : Value}
    (h : readSpecial cs body = some (v, rest)) : InRange v := by
  rw [readSpecial.eq_def] at h
  split at h
  · cases h
    exact .fraction _
  · cases h
    exact .fraction _
  · cases h

theorem inRange_of_map_inRange? {i : Int} {v : Value} {cs rest : List Char}
    (h : (inRange? i).map (·, cs) = some (v, rest)) : InRange v := by
  obtain ⟨w, hw, heq⟩ := Option.map_eq_some_iff.1 h
  cases heq
  exact inRange_of_inRange? hw

theorem inRange_of_readNumber {cs rest : List Char} {v : Value}
    (h : readNumber cs = some (v, rest)) : InRange v := by
  rw [readNumber.eq_def] at h
  split at h
  · exact inRange_of_readInBase h
  · exact inRange_of_readInBase h
  · exact inRange_of_readInBase h
  · dsimp only at h
    split at h
    · exact inRange_of_readSpecial h
    · split at h
      · split at h
        · exact inRange_of_readFraction h
        · exact inRange_of_map_inRange? h
      · exact inRange_of_map_inRange? h

theorem inRange_of_readScalar {cs rest : List Char} {v : Value}
    (h : readScalar cs = some (v, rest)) : InRange v := by
  rw [readScalar.eq_def] at h
  split at h
  · cases h
    exact .bool true
  · cases h
    exact .bool false
  · split at h
    · obtain ⟨_, _, heq⟩ := Option.map_eq_some_iff.1 h
      cases heq
      exact .text _
    · split at h
      · obtain ⟨_, _, heq⟩ := Option.map_eq_some_iff.1 h
        cases heq
        exact .date _
      · split at h
        · exact inRange_of_readSpecial h
        · split at h
          · exact inRange_of_readNumber h
          · cases h
  · cases h

def Fields.InRange (fields : Fields) : Prop :=
  ∀ f ∈ fields, Toml.InRange f.2.value

theorem inRange_fieldValues_iff {fields : Fields} :
    InRange (.table (Node.fieldValues fields)) ↔ fields.InRange := by
  rw [Node.fieldValues_eq_map]
  constructor
  · intro h
    cases h with
    | table _ h => exact fun f hf => h _ (List.mem_map_of_mem hf)
  · intro h
    refine .table _ fun g hg => ?_
    obtain ⟨f, hf, rfl⟩ := List.mem_map.1 hg
    exact h f hf

theorem inRange_table_iff {origin : Origin} {fields : Fields} :
    InRange (Node.table origin fields).value ↔ fields.InRange := by
  rw [Node.value]
  exact inRange_fieldValues_iff

theorem inRange_tables_iff {items : List Fields} :
    InRange (Node.tables items).value ↔ ∀ fields ∈ items, fields.InRange := by
  rw [Node.value, Node.tableValues_eq_map]
  constructor
  · intro h
    cases h with
    | list _ h =>
      exact fun fields hfields => inRange_fieldValues_iff.1 (h _ (List.mem_map_of_mem hfields))
  · intro h
    refine .list _ fun v hv => ?_
    obtain ⟨fields, hfields, rfl⟩ := List.mem_map.1 hv
    exact inRange_fieldValues_iff.2 (h fields hfields)

namespace Fields.InRange

variable {fields inner : Fields}

theorem nil : InRange [] :=
  List.forall_mem_nil _

theorem concat (h : fields.InRange) {name : String} {n : Node} (hn : Toml.InRange n.value) :
    (fields ++ [(name, n)]).InRange := by
  rw [InRange, List.forall_mem_append, List.forall_mem_singleton]
  exact ⟨h, hn⟩

theorem put (h : fields.InRange) {name : String} {n : Node} (hn : Toml.InRange n.value) :
    (fields.put name n).InRange := by
  induction fields with
  | nil =>
    rw [Fields.put, InRange, List.forall_mem_singleton]
    exact hn
  | cons f fields ih =>
    rw [InRange, List.forall_mem_cons] at h
    rw [Fields.put]
    split
    · rw [InRange, List.forall_mem_cons]
      exact ⟨hn, h.2⟩
    · rw [InRange, List.forall_mem_cons]
      exact ⟨h.1, ih h.2⟩

theorem lookup (h : fields.InRange) {name : String} {n : Node} (hn : fields.lookup name = some n) :
    Toml.InRange n.value := by
  induction fields with
  | nil => cases hn
  | cons f fields ih =>
    rw [InRange, List.forall_mem_cons] at h
    rw [List.lookup_cons] at hn
    split at hn
    · cases hn
      exact h.1
    · exact ih h.2 hn

theorem last {items : List Fields} (h : ∀ fields ∈ items, fields.InRange) :
    (items.getLast?.getD []).InRange := by
  cases hlast : items.getLast? with
  | none => exact nil
  | some fields => exact h fields (List.mem_of_getLast? hlast)

theorem put_last {items : List Fields} (h : fields.InRange)
    (hitems : ∀ fields ∈ items, fields.InRange) (hinner : inner.InRange) {name : String} :
    (fields.put name (.tables (items.dropLast ++ [inner]))).InRange := by
  apply h.put
  rw [inRange_tables_iff, List.forall_mem_append, List.forall_mem_singleton]
  exact ⟨fun table htable => hitems table (List.dropLast_subset items htable), hinner⟩

theorem insert? (h : fields.InRange) {path : List String} {name : String} {n : Node}
    (hn : Toml.InRange n.value) {fields' : Fields}
    (heq : fields.insert? path name n = some fields') : fields'.InRange := by
  induction path generalizing fields fields' with
  | nil =>
    rw [Fields.insert?] at heq
    split at heq
    · cases heq
    · cases heq
      exact h.concat hn
  | cons key path ih =>
    rw [Fields.insert?] at heq
    split at heq
    · obtain ⟨inner, hinner, rfl⟩ := Option.map_eq_some_iff.1 heq
      exact h.concat (inRange_table_iff.2 (ih nil hinner))
    · rename_i origin inner hlookup
      split at heq
      · obtain ⟨inner', hinner, rfl⟩ := Option.map_eq_some_iff.1 heq
        exact h.put (inRange_table_iff.2 (ih (inRange_table_iff.1 (h.lookup hlookup)) hinner))
      · cases heq
    · rename_i items hlookup
      have hitems := inRange_tables_iff.1 (h.lookup hlookup)
      split at heq
      · cases heq
      · obtain ⟨inner', hinner, rfl⟩ := Option.map_eq_some_iff.1 heq
        exact h.put_last hitems (ih (last hitems) hinner)
    · cases heq

theorem alter? {change : Fields → Option Fields}
    (hchange : ∀ {fields fields'}, fields.InRange → change fields = some fields' → fields'.InRange)
    (h : fields.InRange) {path : List String} {fields' : Fields}
    (heq : fields.alter? change path = some fields') : fields'.InRange := by
  induction path generalizing fields fields' with
  | nil => exact hchange h heq
  | cons key path ih =>
    rw [Fields.alter?] at heq
    split at heq
    · obtain ⟨inner, hinner, rfl⟩ := Option.map_eq_some_iff.1 heq
      exact h.concat (inRange_table_iff.2 (ih nil hinner))
    · rename_i origin inner hlookup
      split at heq
      · cases heq
      · obtain ⟨inner', hinner, rfl⟩ := Option.map_eq_some_iff.1 heq
        exact h.put (inRange_table_iff.2 (ih (inRange_table_iff.1 (h.lookup hlookup)) hinner))
    · rename_i items hlookup
      have hitems := inRange_tables_iff.1 (h.lookup hlookup)
      obtain ⟨inner', hinner, rfl⟩ := Option.map_eq_some_iff.1 heq
      exact h.put_last hitems (ih (last hitems) hinner)
    · cases heq

theorem openTable? (h : fields.InRange) {name : String} {fields' : Fields}
    (heq : Fields.openTable? name fields = some fields') : fields'.InRange := by
  rw [Fields.openTable?] at heq
  split at heq
  · cases heq
    exact h.concat (inRange_table_iff.2 nil)
  · rename_i inner hlookup
    cases heq
    exact h.put (inRange_table_iff.2 (inRange_table_iff.1 (h.lookup hlookup)))
  · cases heq

theorem openNext? (h : fields.InRange) {name : String} {fields' : Fields}
    (heq : Fields.openNext? name fields = some fields') : fields'.InRange := by
  rw [Fields.openNext?] at heq
  split at heq
  · cases heq
    apply h.concat
    rw [inRange_tables_iff, List.forall_mem_singleton]
    exact nil
  · rename_i items hlookup
    cases heq
    apply h.put
    rw [inRange_tables_iff, List.forall_mem_append, List.forall_mem_singleton]
    exact ⟨inRange_tables_iff.1 (h.lookup hlookup), nil⟩
  · cases heq

theorem addField (h : fields.InRange) {name : List String} {n : Node} (hn : Toml.InRange n.value)
    {fields' : Fields} (heq : Toml.addField fields name n = some fields') : fields'.InRange := by
  obtain ⟨last, -, hinsert⟩ := Option.bind_eq_some_iff.1 heq
  exact h.insert? hn hinsert

end Fields.InRange

def ReadsInRange (item : Reader Node) : Prop :=
  ∀ {cs rest : List Char} {n : Node}, item cs = some (n, rest) → InRange n.value

variable {item : Reader Node}

theorem inRange_of_readItems (hitem : ReadsInRange item) {fuel : Nat} {cs rest : List Char}
    {ns : List Node} (h : readItems item fuel cs = some (ns, rest)) :
    ∀ n ∈ ns, InRange n.value := by
  induction fuel generalizing cs ns with
  | zero => cases h
  | succ fuel ih =>
    rw [readItems] at h
    split at h
    · cases h
      exact List.forall_mem_nil _
    · obtain ⟨⟨n, rest'⟩, hn, h⟩ := Option.bind_eq_some_iff.1 h
      have hfirst := hitem hn
      dsimp only at h
      split at h
      · obtain ⟨⟨more, rest''⟩, hmore, h⟩ := Option.bind_eq_some_iff.1 h
        cases h
        rw [List.forall_mem_cons]
        exact ⟨hfirst, ih hmore⟩
      · cases h
        rw [List.forall_mem_singleton]
        exact hfirst
      · cases h

theorem inRange_of_readField (hitem : ReadsInRange item) {cs rest : List Char} {name : List String}
    {n : Node} (h : readField item cs = some ((name, n), rest)) : InRange n.value := by
  obtain ⟨⟨_, _⟩, -, h⟩ := Option.bind_eq_some_iff.1 h
  dsimp only at h
  split at h
  · obtain ⟨⟨m, _⟩, hm, h⟩ := Option.bind_eq_some_iff.1 h
    cases h
    exact hitem hm
  · cases h

theorem inRange_of_readInline (hitem : ReadsInRange item) {fuel : Nat} {fields fields' : Fields}
    (hfields : fields.InRange) {cs rest : List Char}
    (h : readInline item fuel fields cs = some (fields', rest)) : fields'.InRange := by
  induction fuel generalizing fields cs with
  | zero => cases h
  | succ fuel ih =>
    obtain ⟨⟨⟨name, n⟩, _⟩, hfield, h⟩ := Option.bind_eq_some_iff.1 h
    obtain ⟨more, hadd, h⟩ := Option.bind_eq_some_iff.1 h
    have hmore := hfields.addField (inRange_of_readField hitem hfield) hadd
    split at h
    · exact ih hmore h
    · cases h
      exact hmore
    · cases h

theorem inRange_of_map_readScalar {cs rest : List Char} {n : Node}
    (h : (readScalar cs).map (fun (v, rest) => (Node.leaf v, rest)) = some (n, rest)) :
    InRange n.value := by
  obtain ⟨⟨v, _⟩, hv, heq⟩ := Option.map_eq_some_iff.1 h
  cases heq
  exact inRange_of_readScalar hv

theorem readsInRange_readNode (depth : Nat) : ReadsInRange (readNode depth) := by
  induction depth with
  | zero =>
    intro cs rest n h
    rw [readNode] at h
    · exact inRange_of_map_readScalar h
    all_goals nofun
  | succ depth ih =>
    intro cs rest n h
    rw [readNode.eq_def] at h
    split at h
    · rename_i heq
      cases heq
      obtain ⟨⟨ns, _⟩, hns, heq⟩ := Option.map_eq_some_iff.1 h
      cases heq
      rw [Node.value, Node.values_eq_map]
      refine .list _ fun v hv => ?_
      obtain ⟨m, hm, rfl⟩ := List.mem_map.1 hv
      exact inRange_of_readItems ih hns m hm
    · rename_i heq
      cases heq
      split at h
      · cases h
        exact inRange_table_iff.2 .nil
      · obtain ⟨⟨fields, _⟩, hfields, heq⟩ := Option.map_eq_some_iff.1 h
        cases heq
        exact inRange_table_iff.2 (inRange_of_readInline ih .nil hfields)
    · exact inRange_of_map_readScalar h

theorem inRange_of_turn? {d d' : Draft} {header : List String}
    {enter : String → Fields → Option Fields}
    (henter : ∀ {name fields fields'}, Fields.InRange fields → enter name fields = some fields' →
      fields'.InRange) (hd : d.root.InRange) (h : d.turn? header enter = some d') :
    d'.root.InRange := by
  obtain ⟨last, -, h⟩ := Option.bind_eq_some_iff.1 h
  obtain ⟨root, hroot, h⟩ := Option.bind_eq_some_iff.1 h
  cases h
  exact hd.alter? henter hroot

theorem inRange_of_readEntry {d d' : Draft} {cs rest : List Char} (hd : d.root.InRange)
    (h : readEntry d cs = some (d', rest)) : d'.root.InRange := by
  rw [readEntry.eq_def] at h
  split at h
  · obtain ⟨⟨name, _⟩, -, h⟩ := Option.bind_eq_some_iff.1 h
    dsimp only at h
    split at h
    · obtain ⟨d₁, hturn, h⟩ := Option.bind_eq_some_iff.1 h
      obtain ⟨_, -, h⟩ := Option.bind_eq_some_iff.1 h
      cases h
      exact inRange_of_turn? (fun h heq => h.openNext? heq) hd hturn
    · cases h
  · obtain ⟨⟨name, _⟩, -, h⟩ := Option.bind_eq_some_iff.1 h
    dsimp only at h
    split at h
    · obtain ⟨d₁, hturn, h⟩ := Option.bind_eq_some_iff.1 h
      obtain ⟨_, -, h⟩ := Option.bind_eq_some_iff.1 h
      cases h
      exact inRange_of_turn? (fun h heq => h.openTable? heq) hd hturn
    · cases h
  · obtain ⟨⟨⟨name, n⟩, _⟩, hfield, h⟩ := Option.bind_eq_some_iff.1 h
    obtain ⟨d₁, hadd, h⟩ := Option.bind_eq_some_iff.1 h
    obtain ⟨_, -, h⟩ := Option.bind_eq_some_iff.1 h
    cases h
    obtain ⟨root, hroot, rfl⟩ := Option.map_eq_some_iff.1 hadd
    have hn := inRange_of_readField (readsInRange_readNode maxNesting) hfield
    exact hd.alter? (fun hfields heq => hfields.addField hn heq) hroot

theorem inRange_of_readEntries {fuel : Nat} {d d' : Draft} {cs : List Char} (hd : d.root.InRange)
    (h : readEntries fuel d cs = some d') : d'.root.InRange := by
  induction fuel generalizing d cs with
  | zero => cases h
  | succ fuel ih =>
    rw [readEntries] at h
    split at h
    · cases h
      exact hd
    · split at h
      · exact ih hd h
      · obtain ⟨⟨d₁, _⟩, hentry, h⟩ := Option.bind_eq_some_iff.1 h
        exact ih (inRange_of_readEntry hd hentry) h

theorem inRange_of_parse? {text : String} {v : Value} (h : parse? text = some v) : InRange v := by
  obtain ⟨d, hd, rfl⟩ := Option.map_eq_some_iff.1 h
  exact inRange_table_iff.2 (inRange_of_readEntries .nil hd)

end NestedGroups.Toml
