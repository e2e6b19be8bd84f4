import NestedGroups.Proofs.LeafText

namespace NestedGroups.Toml

open NestedGroups.Text

def isBareName (name : String) : Bool :=
  !name.toList.isEmpty && name.toList.all isBare

theorem ne_of_isBare {c d : Char} (h : isBare c = true) (hd : isBare d = false) : c ≠ d := by
  intro hc
  rw [hc, hd] at h
  cases h

theorem IsSolid.of_isBare {c : Char} (h : isBare c = true) : IsSolid c := by
  refine ⟨?_, ne_of_isBare h rfl, ne_of_isBare h rfl, ne_of_isBare h rfl⟩
  rw [isSpace, Bool.or_eq_false_iff]
  exact ⟨decide_eq_false (ne_of_isBare h rfl), decide_eq_false (ne_of_isBare h rfl)⟩

theorem exists_cons_of_isBareName {name : String} (h : isBareName name = true) :
    ∃ c more, name.toList = c :: more ∧ ∀ d ∈ name.toList, isBare d = true := by
  rw [isBareName, Bool.and_eq_true, Bool.not_eq_true', List.isEmpty_eq_false_iff,
    List.all_eq_true] at h
  obtain ⟨c, more, hname⟩ := List.exists_cons_of_ne_nil h.1
  exact ⟨c, more, hname, h.2⟩

theorem readSimpleName_append {name : String} (h : isBareName name = true) {c : Char}
    (hc : isBare c = false) (rest : List Char) :
    readSimpleName (name.toList ++ c :: rest) = some (name, c :: rest) := by
  obtain ⟨first, more, hname, hall⟩ := exists_cons_of_isBareName h
  have hstop : ¬ isBare c = true := by
    rw [hc]
    exact Bool.false_ne_true
  have htake : (name.toList ++ c :: rest).takeWhile isBare = name.toList := by
    rw [List.takeWhile_append_of_pos hall, List.takeWhile_cons_of_neg hstop, List.append_nil]
  have hdrop : (name.toList ++ c :: rest).dropWhile isBare = c :: rest := by
    rw [List.dropWhile_append_of_pos hall, List.dropWhile_cons_of_neg hstop]
  have hfirst : isBare first = true := hall first (by rw [hname]; exact List.mem_cons_self)
  rw [readSimpleName.eq_def, htake, hdrop, hname, List.cons_append]
  simp only [ne_of_isBare hfirst (d := '"') rfl, ne_of_isBare hfirst (d := '\'') rfl, hfirst,
    decide_false, Bool.or_false, Bool.false_eq_true, if_false, if_true]
  rw [← hname, String.ofList_toList]

theorem readName_append {name : String} (h : isBareName name = true) {c d : Char}
    {rest more : List Char} (hc : isBare c = false) (hnext : skipSpaces (c :: rest) = d :: more)
    (hdot : d ≠ '.') : readName (name.toList ++ c :: rest) = some ([name], d :: more) := by
  have hsimple := readSimpleName_append h hc rest
  obtain ⟨first, tail, hname, hall⟩ := exists_cons_of_isBareName h
  have hfirst : isBare first = true := hall first (by rw [hname]; exact List.mem_cons_self)
  rw [hname, List.cons_append] at hsimple ⊢
  change readParts (78 + 1) _ = _
  rw [readParts, skipSpaces_cons (IsSolid.of_isBare hfirst).space, hsimple]
  simp only [Option.bind_eq_bind, Option.bind_some, hnext, Option.pure_def]
  split
  · rename_i heq
    exact (hdot (List.cons.inj heq).1).elim
  · rfl

theorem Leaf.exists_cons_render (leaf : Leaf) :
    ∃ c more, leaf.render.toList = c :: more ∧ isSpace c = false := by
  cases leaf with
  | flag b =>
    cases b with
    | false => exact ⟨'f', _, rfl, rfl⟩
    | true => exact ⟨'t', _, rfl, rfl⟩
  | number n =>
    obtain ⟨d, ds, hdigits⟩ := List.exists_cons_of_ne_nil (Nat.toDigits_ne_nil (n := n) (b := 10))
    refine ⟨d, ds, ?_, ?_⟩
    · rw [render, Nat.toString_eq_ofList_toDigits, String.toList_ofList, hdigits]
    · have hd := isDigit_toDigits n d (by rw [hdigits]; exact List.mem_cons_self)
      rw [isSpace, Bool.or_eq_false_iff]
      exact ⟨decide_eq_false (ne_of_isDigit hd rfl), decide_eq_false (ne_of_isDigit hd rfl)⟩
  | text s =>
    obtain ⟨c, more, hquote, hc⟩ := exists_cons_quote s.toList
    exact ⟨c, more, by rw [render, String.toList_ofList, hquote], (IsSolid.of_quote hc).space⟩
  | texts items =>
    rcases items with _ | ⟨first, _ | ⟨second, items⟩⟩
    · exact ⟨'[', [']'], rfl, rfl⟩
    · exact ⟨'[', _, render_texts_singleton first, rfl⟩
    · exact ⟨'[', _, render_texts_lines first second items, rfl⟩

theorem readField_render {name : String} (hname : isBareName name = true) {leaf : Leaf}
    (hfits : leaf.fits = true) (rest : List Char) :
    readField (readNode maxNesting)
        (name.toList ++ ' ' :: '=' :: ' ' :: (leaf.render.toList ++ '\n' :: rest)) =
      some (([name], leaf.node), '\n' :: rest) := by
  have hread := Leaf.readNode_render hfits rest
  obtain ⟨c, more, hleaf, hc⟩ := leaf.exists_cons_render
  have hspaces : skipSpaces (' ' :: (leaf.render.toList ++ '\n' :: rest)) =
      leaf.render.toList ++ '\n' :: rest := by
    rw [hleaf]
    exact skipSpaces_cons hc _
  rw [readField, readName_append (c := ' ') (d := '=') hname rfl rfl (by decide)]
  simp only [Option.bind_eq_bind, Option.bind_some, hspaces, hread, Option.pure_def]

/-- The lines of a text, read one after the other, lead from one draft to another. -/
inductive Reads : Draft → List Char → Draft → Prop
  | done (d : Draft) : Reads d [] d
  | blank {d d' : Draft} {rest : List Char} (h : Reads d rest d') : Reads d ('\n' :: rest) d'
  | entry {d d' d'' : Draft} {c : Char} {more rest : List Char} (hc : IsSolid c)
      (hread : readEntry d (c :: more) = some (d', rest)) (hless : rest.length ≤ more.length)
      (h : Reads d' rest d'') : Reads d (c :: more) d''

theorem Reads.readEntries_eq {d d' : Draft} {cs : List Char} (h : Reads d cs d') {fuel : Nat}
    (hfuel : cs.length < fuel) : readEntries fuel d cs = some d' := by
  obtain ⟨fuel, rfl⟩ := Nat.exists_eq_succ_of_ne_zero (Nat.ne_zero_of_lt hfuel)
  induction h generalizing fuel with
  | done => rfl
  | blank h ih =>
    have hless := Nat.lt_of_succ_lt_succ hfuel
    obtain ⟨fuel, rfl⟩ := Nat.exists_eq_succ_of_ne_zero (Nat.ne_zero_of_lt hless)
    rw [← ih fuel hless]
    rfl
  | @entry d d' d'' c more rest hc hread hlength h ih =>
    have hless : rest.length < fuel :=
      Nat.lt_of_le_of_lt hlength (Nat.lt_of_succ_lt_succ hfuel)
    obtain ⟨fuel, rfl⟩ := Nat.exists_eq_succ_of_ne_zero (Nat.ne_zero_of_lt hless)
    rw [readEntries, skipSpaces_cons hc.space]
    simp only [hc.afterLine?_cons, hread, Option.bind_eq_bind, Option.bind_some]
    exact ih fuel hless

def fieldNodes (fields : List (String × Leaf)) : Fields :=
  fields.map fun (name, leaf) => (name, leaf.node)

theorem toList_renderFields_cons (name : String) (leaf : Leaf) (fields : List (String × Leaf)) :
    (renderFields ((name, leaf) :: fields)).toList =
      name.toList ++ ' ' :: '=' :: ' ' :: (leaf.render.toList ++
        '\n' :: (renderFields fields).toList) := by
  simp only [renderFields, List.map_cons, String.join_cons, String.toList_append, List.append_assoc]
  rfl

/-- A place of a draft where new fields go behind those that it has. -/
def Takes (place : Fields → Draft) : Prop :=
  ∀ (fields : Fields) (name : String) (n : Node), fields.lookup name = none →
    (place fields).add? [name] n = some (place (fields ++ [(name, n)]))

theorem addField_of_new {fields : Fields} {name : String} (h : fields.lookup name = none) (n : Node) :
    addField fields [name] n = some (fields ++ [(name, n)]) := by
  change fields.insert? [] name n = _
  rw [Fields.insert?, h]
  rfl

theorem takes_root : Takes fun fields => ⟨fields, []⟩ := by
  intro fields name n hnew
  rw [Draft.add?, Fields.alter?, addField_of_new hnew]
  rfl

theorem lookup_append_new {root : Fields} {name : String} (h : root.lookup name = none) (n : Node) :
    (root ++ [(name, n)]).lookup name = some n := by
  rw [List.lookup_append, h, List.lookup_cons, BEq.rfl]
  rfl

theorem put_append_new {root : Fields} {name : String} (h : root.lookup name = none) (n m : Node) :
    Fields.put (root ++ [(name, n)]) name m = root ++ [(name, m)] := by
  induction root with
  | nil => rw [List.nil_append, Fields.put, if_pos rfl, List.nil_append]
  | cons f root ih =>
    obtain ⟨other, k⟩ := f
    rw [List.lookup_cons] at h
    split at h
    · cases h
    · rename_i hne
      have hother : other ≠ name := by
        intro heq
        rw [heq, BEq.rfl] at hne
        cases hne
      rw [List.cons_append, Fields.put, if_neg hother, ih h, List.cons_append]

theorem takes_section {root : Fields} {name : String} (hnew : root.lookup name = none) :
    Takes fun fields => ⟨root ++ [(name, .table .header fields)], [name]⟩ := by
  intro fields field n hfield
  rw [Draft.add?, Fields.alter?, lookup_append_new hnew]
  simp only [reduceCtorEq, if_false, Fields.alter?, addField_of_new hfield, Option.map_some,
    put_append_new hnew]

theorem lookup_fieldNodes_eq_none {before : List (String × Leaf)} {name : String}
    (h : name ∉ before.map (·.1)) : (fieldNodes before).lookup name = none := by
  rw [List.lookup_eq_none_iff]
  intro p hp
  obtain ⟨f, hf, rfl⟩ := List.mem_map.1 hp
  rw [bne_iff_ne]
  intro heq
  exact h (heq ▸ List.mem_map_of_mem hf)

theorem Reads.field {place : Fields → Draft} (hplace : Takes place) {d : Draft} {rest : List Char}
    {name : String} {leaf : Leaf} (hname : isBareName name = true) (hfits : leaf.fits = true)
    {fields : Fields} (hnew : fields.lookup name = none)
    (h : Reads (place (fields ++ [(name, leaf.node)])) rest d) :
    Reads (place fields)
      (name.toList ++ ' ' :: '=' :: ' ' :: (leaf.render.toList ++ '\n' :: rest)) d := by
  have hread := readField_render hname hfits rest
  obtain ⟨c, more, htext, hall⟩ := exists_cons_of_isBareName hname
  have hc : isBare c = true := hall c (by rw [htext]; exact List.mem_cons_self)
  rw [htext, List.cons_append] at hread ⊢
  refine .entry (IsSolid.of_isBare hc) ?_ ?_ h
  · rw [readEntry, hread]
    · simp only [Option.bind_eq_bind, Option.bind_some, hplace _ _ _ hnew]
      rfl
    · simp [ne_of_isBare hc (d := '[') rfl]
    · simp [ne_of_isBare hc (d := '[') rfl]
  · simp only [List.length_append, List.length_cons]
    omega

theorem Reads.fields {place : Fields → Draft} (hplace : Takes place) {d : Draft} {rest : List Char}
    {fields : List (String × Leaf)} (hnames : ∀ f ∈ fields, isBareName f.1 = true)
    (hfits : ∀ f ∈ fields, f.2.fits = true) (before : List (String × Leaf))
    (hnodup : ((before ++ fields).map (·.1)).Nodup)
    (h : Reads (place (fieldNodes (before ++ fields))) rest d) :
    Reads (place (fieldNodes before)) ((renderFields fields).toList ++ rest) d := by
  induction fields generalizing before with
  | nil =>
    rw [List.append_nil] at h
    exact h
  | cons f fields ih =>
    obtain ⟨name, leaf⟩ := f
    rw [List.forall_mem_cons] at hnames hfits
    have hnew : name ∉ before.map (·.1) := by
      rw [List.map_append, List.nodup_append] at hnodup
      exact fun hmem => hnodup.2.2 _ hmem _ List.mem_cons_self rfl
    have hassoc : before ++ (name, leaf) :: fields = before ++ [(name, leaf)] ++ fields := by
      rw [List.append_assoc, List.singleton_append]
    rw [hassoc] at hnodup h
    have hmore := ih hnames.2 hfits.2 (before ++ [(name, leaf)]) hnodup h
    have hnodes : fieldNodes (before ++ [(name, leaf)]) = fieldNodes before ++ [(name, leaf.node)] :=
      List.map_append
    rw [hnodes] at hmore
    rw [toList_renderFields_cons]
    simp only [List.append_assoc, List.cons_append]
    exact .field hplace hnames.1 hfits.1 (lookup_fieldNodes_eq_none hnew) hmore

def sectionNode (s : Section) : String × Node :=
  (s.name, .table .header (fieldNodes s.fields))

structure Section.WellNamed (s : Section) : Prop where
  bare : isBareName s.name = true
  bareFields : ∀ f ∈ s.fields, isBareName f.1 = true
  distinct : (s.fields.map (·.1)).Nodup

/-- A section that is new is opened by its header and takes the fields behind it. -/
theorem Reads.section {root : Fields} {header : List String} {d : Draft} {rest : List Char}
    {s : Section} (hs : s.WellNamed) (hfits : ∀ f ∈ s.fields, f.2.fits = true)
    (hnew : root.lookup s.name = none) (h : Reads ⟨root ++ [sectionNode s], [s.name]⟩ rest d) :
    Reads ⟨root, header⟩ (s.render.toList ++ rest) d := by
  have hfields : Reads ⟨root ++ [(s.name, .table .header [])], [s.name]⟩
      ((renderFields s.fields).toList ++ rest) d :=
    .fields (takes_section hnew) hs.bareFields hfits [] hs.distinct h
  have hrender : s.render.toList ++ rest =
      '\n' :: '[' :: (s.name.toList ++ ']' :: '\n' :: ((renderFields s.fields).toList ++ rest)) := by
    simp only [Section.render, String.toList_append, List.append_assoc]
    rfl
  let behind := '\n' :: ((renderFields s.fields).toList ++ rest)
  have hname : readName (s.name.toList ++ ']' :: behind) = some ([s.name], ']' :: behind) :=
    readName_append hs.bare rfl rfl (by decide)
  obtain ⟨c, more, htext, hall⟩ := exists_cons_of_isBareName hs.bare
  have hc : isBare c = true := hall c (by rw [htext]; exact List.mem_cons_self)
  rw [hrender]
  refine .blank (.entry ⟨by decide, by decide, by decide, by decide⟩ ?_ ?_ hfields)
  · rw [htext, List.cons_append] at hname ⊢
    rw [readEntry, hname]
    · simp only [Option.bind_eq_bind, Option.bind_some, Draft.turn?, List.getLast?_singleton,
        List.dropLast_singleton, Fields.alter?, Fields.openTable?, hnew]
      rfl
    · simp [ne_of_isBare hc (d := '[') rfl]
  · simp only [List.length_append, List.length_cons]
    omega

theorem Reads.sections {root : Fields} (header : List String) {sections : List Section}
    (hs : ∀ s ∈ sections, s.WellNamed) (hfits : ∀ s ∈ sections, ∀ f ∈ s.fields, f.2.fits = true)
    (hnew : ∀ s ∈ sections, root.lookup s.name = none) (hnodup : (sections.map (·.name)).Nodup) :
    ∃ last, Reads ⟨root, header⟩ (String.join (sections.map Section.render)).toList
      ⟨root ++ sections.map sectionNode, last⟩ := by
  induction sections generalizing root header with
  | nil =>
    rw [List.map_nil, List.map_nil, List.append_nil]
    exact ⟨header, .done _⟩
  | cons s sections ih =>
    rw [List.forall_mem_cons] at hs hfits hnew
    rw [List.map_cons, List.nodup_cons] at hnodup
    have hmore : ∀ t ∈ sections, (root ++ [sectionNode s]).lookup t.name = none := by
      intro t ht
      have hother : (t.name == s.name) = false := by
        rw [beq_eq_false_iff_ne]
        exact fun heq => hnodup.1 (heq ▸ List.mem_map_of_mem ht)
      rw [List.lookup_append, hnew.2 t ht, sectionNode, List.lookup_cons, hother]
      rfl
    obtain ⟨last, hrest⟩ := ih [s.name] hs.2 hfits.2 hmore hnodup.2
    refine ⟨last, ?_⟩
    rw [List.map_cons, String.join_cons, String.toList_append, List.map_cons]
    rw [List.append_assoc] at hrest
    exact .section hs.1 hfits.1 hnew.1 hrest

namespace Document

structure WellNamed (d : Document) : Prop where
  bareFields : ∀ f ∈ d.fields, isBareName f.1 = true
  sections : ∀ s ∈ d.sections, s.WellNamed
  distinct : (d.fields.map (·.1) ++ d.sections.map (·.name)).Nodup

def nodes (d : Document) : Fields :=
  fieldNodes d.fields ++ d.sections.map sectionNode

theorem fieldValues_fieldNodes (fields : List (String × Leaf)) :
    Node.fieldValues (fieldNodes fields) = fields.map fun (name, leaf) => (name, leaf.value) := by
  rw [Node.fieldValues_eq_map, fieldNodes, List.map_map]
  exact List.map_congr_left fun f _ => congrArg _ f.2.node_value

theorem nodes_value (d : Document) : (Node.table .header d.nodes).value = d.value := by
  rw [Node.value, nodes, Node.fieldValues_eq_map, List.map_append, ← Node.fieldValues_eq_map,
    fieldValues_fieldNodes, List.map_map, value]
  refine congrArg (fun sections => Value.table (_ ++ sections)) (List.map_congr_left fun s _ => ?_)
  rw [Function.comp_apply, sectionNode, Node.value, fieldValues_fieldNodes]

theorem reads {d : Document} (hnames : d.WellNamed) (hfits : d.fits = true) :
    ∃ header, Reads {} (renderFields d.fields ++ String.join (d.sections.map Section.render)).toList
      ⟨d.nodes, header⟩ := by
  simp only [fits, Bool.and_eq_true, List.all_eq_true] at hfits
  obtain ⟨hfields, hsections, hdisjoint⟩ := List.nodup_append.1 hnames.distinct
  have hnew : ∀ s ∈ d.sections, (fieldNodes d.fields).lookup s.name = none := by
    intro s hs
    apply lookup_fieldNodes_eq_none
    exact fun hmem => hdisjoint _ hmem _ (List.mem_map_of_mem hs) rfl
  obtain ⟨header, h⟩ := Reads.sections [] hnames.sections hfits.2 hnew hsections
  rw [String.toList_append]
  exact ⟨header, .fields takes_root hnames.bareFields hfits.1 [] hfields h⟩

theorem withoutMark_of_reads {cs : List Char} {d : Draft} (h : Reads {} cs d) :
    withoutMark cs = cs := by
  unfold withoutMark
  split
  · cases h with
    | entry _ hread => cases hread
  · rfl

/-- What is written of a document is read as its tree of values. -/
theorem parse?_of_render? {d : Document} (hnames : d.WellNamed) {text : String}
    (h : d.render? = some text) : parse? text = some d.value := by
  rw [render?] at h
  split at h
  · rename_i hfits
    obtain ⟨header, hreads⟩ := reads hnames hfits
    cases h
    rw [parse?, withoutMark_of_reads hreads, hreads.readEntries_eq (Nat.lt_succ_self _),
      Option.map_some, nodes_value]
  · cases h

end Document

end NestedGroups.Toml
