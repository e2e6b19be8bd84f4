import Mathlib.Data.List.Basic
import NestedGroups.Console.FileTree

namespace NestedGroups

theorem endsWith_iff (s ending : String) :
    s.endsWith ending = true ↔ ending.toList <:+ s.toList := by
  rw [String.endsWith_eq_endsWith_toSlice, String.Slice.endsWith_string_iff, String.copy_toSlice]

theorem Text.parts_eq_nil_part_iff (separator : Char) (cs : List Char) :
    parts separator cs = [[]] ↔ cs = [] := by
  constructor
  · intro h
    have hjoined := intercalate_parts separator cs
    rw [h] at hjoined
    exact hjoined.symm
  · intro h
    rw [h]
    rfl

theorem Text.getLast?_parts_eq_nil_iff {separator : Char} {cs : List Char} :
    (parts separator cs).getLast? = some [] ↔ cs = [] ∨ [separator] <:+ cs := by
  induction cs with
  | nil => exact iff_of_true rfl (.inl rfl)
  | cons c rest ih =>
    have hempty := parts_eq_nil_part_iff separator rest
    rw [List.suffix_cons_iff, List.cons.injEq, eq_comm (a := separator), parts]
    obtain ⟨first, more, hparts⟩ := List.exists_cons_of_ne_nil (parts_ne_nil separator rest)
    rw [hparts] at ih hempty ⊢
    split
    · rename_i hc
      rw [List.getLast?_cons_cons, ih]
      simp [hc]
    · rename_i hc
      cases more with
      | nil =>
        have hrest : ¬[separator] <:+ rest := by
          intro hsuffix
          have hnil : rest = [] := by simp_all
          rw [hnil, List.suffix_nil] at hsuffix
          cases hsuffix
        simp [hc, hrest]
      | cons second more =>
        rw [List.getLast?_cons_cons] at ih ⊢
        rw [ih]
        simp_all

namespace FileTree

variable {t t' : FileTree} {here place : Place} {path text : String}

theorem get?_put_of_ne (t : FileTree) {place other : Place} (h : other ≠ place) (node : Node) :
    (t.put place node).get? other = t.get? other := by
  have hlookup (nodes : List (Place × Node)) :
      (nodes.filter (·.1 != place)).lookup other = nodes.lookup other := by
    induction nodes with
    | nil => rfl
    | cons entry nodes ih =>
      by_cases hentry : entry.1 = place
      · have hother : (other == entry.1) = false := by
          rw [beq_eq_false_iff_ne, hentry]
          exact h
        rw [List.lookup_cons, hother, ← ih, List.filter_cons, if_neg]
        rw [hentry, bne_self_eq_false]
        exact Bool.false_ne_true
      · rw [List.filter_cons, if_pos (bne_iff_ne.2 hentry), List.lookup_cons, List.lookup_cons, ih]
  rw [get?, get?, put, List.lookup_cons, beq_eq_false_iff_ne.2 h, hlookup]

theorem get?_of_child {name : String} {found : Option Node} (h : t.child here name = .ok found) :
    t.get? (here ++ [name]) = found := by
  rw [child] at h
  split at h
  · cases h
  · cases h
    rfl

theorem child_put_of_ne {name : String} (h : here ++ [name] ≠ place) (node : Node) :
    (t.put place node).child here name = t.child here name := by
  rw [child, child, get?_put_of_ne t h]

def step (t : FileTree) (here : Place) (part : String) : Except IoFault Place :=
  if isStay part then .ok here
  else if part = ".." then .ok here.dropLast
  else
    match t.child here part with
    | .error fault => .error fault
    | .ok none => .error .notFound
    | .ok (some (.file _)) => .error .notDirectory
    | .ok (some .folder) => .ok (here ++ [part])

theorem walk_cons (t : FileTree) (here : Place) (part : String) (rest : List String) :
    t.walk here (part :: rest) = (t.step here part).bind (t.walk · rest) := by
  rw [walk, step]
  split
  · rfl
  · split
    · rfl
    · rcases t.child here part with fault | _ | ⟨_ | _⟩ <;> rfl

theorem walk_append (t : FileTree) (here : Place) (ps qs : List String) :
    t.walk here (ps ++ qs) = (t.walk here ps).bind (t.walk · qs) := by
  induction ps generalizing here with
  | nil => rfl
  | cons part ps ih =>
    rw [List.cons_append, walk_cons, walk_cons]
    cases t.step here part with
    | error fault => rfl
    | ok next => exact ih next

theorem walk_filter (t : FileTree) (here : Place) (ps : List String) :
    t.walk here (ps.filter (!isStay ·)) = t.walk here ps := by
  induction ps generalizing here with
  | nil => rfl
  | cons part ps ih =>
    rw [walk_cons]
    cases hstay : isStay part with
    | true =>
      rw [List.filter_cons_of_neg (by rw [hstay]; exact Bool.false_ne_true), ih, step, if_pos hstay]
      rfl
    | false =>
      rw [List.filter_cons_of_pos (by rw [hstay]; rfl), walk_cons]
      cases t.step here part with
      | error fault => rfl
      | ok next => exact ih next

theorem step_put (hplace : t.get? place ≠ some .folder) {content : Content} {part : String}
    {next : Place} (h : t.step here part = .ok next) :
    (t.put place (.file content)).step here part = .ok next := by
  rw [step] at h ⊢
  split
  · rename_i hstay
    rw [if_pos hstay] at h
    exact h
  · rename_i hstay
    rw [if_neg hstay] at h
    split
    · rename_i hup
      rw [if_pos hup] at h
      exact h
    · rename_i hup
      rw [if_neg hup] at h
      cases hchild : t.child here part with
      | error fault =>
        rw [hchild] at h
        cases h
      | ok found =>
        have hother : here ++ [part] ≠ place := by
          intro heq
          rw [← heq, get?_of_child hchild] at hplace
          rw [hchild] at h
          rcases found with _ | _ | _
          · cases h
          · exact hplace rfl
          · cases h
        rw [child_put_of_ne hother]
        exact h

theorem walk_put (hplace : t.get? place ≠ some .folder) {content : Content} {ps : List String}
    {folder : Place} (h : t.walk here ps = .ok folder) :
    (t.put place (.file content)).walk here ps = .ok folder := by
  induction ps generalizing here with
  | nil => exact h
  | cons part ps ih =>
    rw [walk_cons] at h ⊢
    cases hstep : t.step here part with
    | error fault =>
      rw [hstep] at h
      cases h
    | ok next =>
      rw [hstep] at h
      rw [step_put hplace hstep]
      exact ih h

/-- The path leads to a child of a folder, whether there is one of that name or not. -/
structure Names (t : FileTree) (here : Place) (path : String) (above : List String) (last : String)
    (folder : Place) : Prop where
  parts_eq : parts path = above ++ [last]
  walk_eq : t.walk (start here path) above = .ok folder
  isStep_eq : isStep last = false

theorem last_ne_empty {last : String} (h : isStep last = false) : last ≠ "" := by
  intro hlast
  rw [hlast] at h
  cases h

theorem getLast?_parts_eq_empty_iff : (parts path).getLast? = some "" ↔
    path = "" ∨ path.endsWith "/" = true := by
  rw [endsWith_iff, ← String.toList_eq_nil_iff, parts, List.getLast?_map, Option.map_eq_some_iff]
  change _ ↔ path.toList = [] ∨ ['/'] <:+ path.toList
  rw [← Text.getLast?_parts_eq_nil_iff]
  constructor
  · intro h
    obtain ⟨part, hpart, hempty⟩ := h
    rw [hpart, ← String.toList_ofList (l := part), hempty]
    rfl
  · intro h
    exact ⟨[], h, rfl⟩

namespace Names

variable {above : List String} {last : String} {folder : Place}

theorem getLast?_ne (h : t.Names here path above last folder) : (parts path).getLast? ≠ some "" := by
  rw [h.parts_eq, List.getLast?_concat]
  intro hlast
  exact last_ne_empty h.isStep_eq (Option.some.inj hlast)

theorem isEmpty_eq (h : t.Names here path above last folder) : path.isEmpty = false := by
  rw [Bool.eq_false_iff]
  intro hempty
  exact h.getLast?_ne (getLast?_parts_eq_empty_iff.2 (.inl (String.isEmpty_iff.1 hempty)))

theorem endsWith_eq (h : t.Names here path above last folder) : path.endsWith "/" = false := by
  rw [Bool.eq_false_iff]
  intro hend
  exact h.getLast?_ne (getLast?_parts_eq_empty_iff.2 (.inr hend))

theorem find_eq (h : t.Names here path above last folder) :
    t.find here path =
      match t.child folder last with
      | .error fault => .error fault
      | .ok none => .error .notFound
      | .ok (some node) => .ok node := by
  rw [find, h.isEmpty_eq, h.parts_eq]
  simp only [Bool.false_eq_true, if_false, List.dropLast_concat, h.walk_eq, List.getLastD_concat,
    h.isStep_eq, bind, Except.bind]
  rcases t.child folder last with fault | _ | node <;> rfl

theorem write_eq (h : t.Names here path above last folder) (text : String) :
    t.write here path text =
      match t.child folder last with
      | .error fault => .error fault
      | .ok (some .folder) => .error .isDirectory
      | .ok _ => .ok (t.put (folder ++ [last]) (.file (.text text))) := by
  have hlast : (last == "") = false := by
    rw [beq_eq_false_iff_ne]
    exact last_ne_empty h.isStep_eq
  rw [write, h.isEmpty_eq, h.parts_eq, List.reverse_append, List.reverse_singleton,
    List.singleton_append, List.dropWhile_cons, hlast]
  simp only [Bool.false_eq_true, if_false, List.reverse_reverse, h.walk_eq, h.isStep_eq,
    h.endsWith_eq, bind, Except.bind]
  rcases t.child folder last with fault | _ | ⟨_ | content⟩ <;> rfl

theorem put (h : t.Names here path above last folder) {found : Option Node}
    (hchild : t.child folder last = .ok found) (hfound : found ≠ some .folder) (content : Content) :
    (t.put (folder ++ [last]) (.file content)).Names here path above last folder := by
  refine ⟨h.parts_eq, walk_put ?_ h.walk_eq, h.isStep_eq⟩
  rw [get?_of_child hchild]
  exact hfound

end Names

theorem exists_parts_eq (path : String) : ∃ above last, parts path = above ++ [last] := by
  rcases List.eq_nil_or_concat' (parts path) with hnil | ⟨above, last, hconcat⟩
  · exact (Text.parts_ne_nil '/' path.toList (List.map_eq_nil_iff.1 hnil)).elim
  · exact ⟨above, last, hconcat⟩

theorem exists_names_of_find {content : Content} (h : t.find here path = .ok (.file content)) :
    ∃ above last folder, t.Names here path above last folder ∧
      t.child folder last = .ok (some (.file content)) := by
  obtain ⟨above, last, hparts⟩ := exists_parts_eq path
  have hfind := h
  rw [find, hparts] at hfind
  split at hfind
  · cases hfind
  · simp only [List.dropLast_concat, List.getLastD_concat, bind, Except.bind] at hfind
    cases hwalk : t.walk (start here path) above with
    | error fault =>
      rw [hwalk] at hfind
      cases hfind
    | ok folder =>
      rw [hwalk] at hfind
      cases hstep : isStep last with
      | true =>
        rw [hstep] at hfind
        cases hfind
      | false =>
        have hnames : t.Names here path above last folder := ⟨hparts, hwalk, hstep⟩
        rw [hnames.find_eq] at h
        refine ⟨above, last, folder, hnames, ?_⟩
        split at h
        · cases h
        · cases h
        · cases h
          assumption

theorem write_ne_ok_of_endsWith (h : path.endsWith "/" = true) : t.write here path text ≠ .ok t' := by
  intro hwrite
  rw [write] at hwrite
  split at hwrite
  · cases hwrite
  · split at hwrite
    · cases hwrite
    · rename_i last above _
      simp only [bind, Except.bind] at hwrite
      cases hwalk : t.walk (start here path) above.reverse with
      | error fault =>
        rw [hwalk] at hwrite
        cases hwrite
      | ok folder =>
        rw [hwalk] at hwrite
        dsimp only at hwrite
        split at hwrite
        · split at hwrite <;> cases hwrite
        · cases hwrite

theorem exists_names_of_write (h : t.write here path text = .ok t') :
    ∃ above last folder, t.Names here path above last folder := by
  obtain ⟨above, last, hparts⟩ := exists_parts_eq path
  have hend : ¬path.endsWith "/" = true := fun hend => write_ne_ok_of_endsWith hend h
  rw [write, hparts, List.reverse_append, List.reverse_singleton, List.singleton_append] at h
  split at h
  · cases h
  · rename_i hempty
    have hlast : (last == "") = false := by
      rw [beq_eq_false_iff_ne]
      intro hlast
      have hget : (parts path).getLast? = some "" := by
        rw [hparts, List.getLast?_concat, hlast]
      rcases getLast?_parts_eq_empty_iff.1 hget with hpath | hpath
      · exact hempty (String.isEmpty_iff.2 hpath)
      · exact hend hpath
    rw [List.dropWhile_cons, hlast] at h
    simp only [Bool.false_eq_true, if_false, List.reverse_reverse, bind, Except.bind] at h
    cases hwalk : t.walk (start here path) above with
    | error fault =>
      rw [hwalk] at h
      cases h
    | ok folder =>
      cases hstep : isStep last with
      | true =>
        simp only [hwalk, hstep, if_true] at h
        split at h <;> cases h
      | false => exact ⟨above, last, folder, hparts, hwalk, hstep⟩

theorem child_put_self {name : String} {found : Option Node} (h : t.child here name = .ok found)
    (node : Node) : (t.put (here ++ [name]) node).child here name = .ok (some node) := by
  rw [child] at h ⊢
  split
  · rename_i hlong
    rw [if_pos hlong] at h
    cases h
  · rw [get?_put_self (List.append_ne_nil_of_right_ne_nil here (List.cons_ne_nil name []))]

/-- What was written is found under the path it was written to. -/
theorem find_of_write (h : t.write here path text = .ok t') :
    t'.find here path = .ok (.file (.text text)) := by
  obtain ⟨above, last, folder, hnames⟩ := exists_names_of_write h
  rw [hnames.write_eq] at h
  cases hchild : t.child folder last with
  | error fault =>
    rw [hchild] at h
    cases h
  | ok found =>
    have hput := fun hfound => hnames.put hchild hfound (.text text)
    rw [hchild] at h
    rcases found with _ | _ | content
    · cases h
      rw [(hput nofun).find_eq, child_put_self hchild]
    · cases h
    · cases h
      rw [(hput nofun).find_eq, child_put_self hchild]

theorem read_of_write (h : t.write here path text = .ok t') : t'.read here path = .ok text := by
  rw [read, find_of_write h]
  rfl

theorem contains_of_write (h : t.write here path text = .ok t') : t'.contains here path = true := by
  rw [contains, find_of_write h]

theorem find_of_read (h : t.read here path = .ok text) :
    t.find here path = .ok (.file (.text text)) := by
  rw [read] at h
  rcases hfind : t.find here path with fault | _ | ⟨_ | _⟩
  all_goals
    rw [hfind] at h
    cases h
  rfl

theorem exists_write_of_read (h : t.read here path = .ok text) (text' : String) :
    ∃ t', t.write here path text' = .ok t' := by
  obtain ⟨above, last, folder, hnames, hchild⟩ := exists_names_of_find (find_of_read h)
  rw [hnames.write_eq, hchild]
  exact ⟨_, rfl⟩

theorem makeFolder_of_walk {last : String} {above : List String} {folder : Place}
    (h : t.walk here (above.reverse ++ [last]) = .ok folder) :
    ∃ fault, t.makeFolder here last above = .error fault := by
  rw [walk_append] at h
  cases hwalk : t.walk here above.reverse with
  | error fault =>
    rw [hwalk] at h
    cases h
  | ok inner =>
    rw [hwalk] at h
    change t.walk inner [last] = .ok folder at h
    rw [makeFolder, hwalk]
    simp only [bind, Except.bind]
    split
    · exact ⟨_, rfl⟩
    · rename_i hstep
      rw [isStep, Bool.or_eq_true, not_or, beq_iff_eq] at hstep
      rw [walk_cons, step, if_neg hstep.1, if_neg hstep.2] at h
      rcases hchild : t.child inner last with fault | _ | node
      · exact ⟨_, rfl⟩
      · rw [hchild] at h
        cases h
      · exact ⟨_, rfl⟩

theorem ensureFolders_of_walk {ps : List String} {folder : Place}
    (h : t.walk here ps.reverse = .ok folder) : t.ensureFolders here ps = .ok t := by
  cases ps with
  | nil => rfl
  | cons last above =>
    rw [List.reverse_cons] at h
    obtain ⟨fault, hmake⟩ := makeFolder_of_walk h
    have hensure : t.ensureFolder here last above = .ok t := by
      rw [ensureFolder, hmake, h]
    rw [ensureFolders, hensure]

/-- Above a file that can be read, all folders are there. -/
theorem makeParents_of_read (h : t.read here path = .ok text) : t.makeParents here path = .ok t := by
  obtain ⟨above, last, folder, hnames, -⟩ := exists_names_of_find (find_of_read h)
  have hlast : isStay last = false := (Bool.or_eq_false_iff.1 hnames.isStep_eq).1
  have hparents : parentParts path = (above.filter (!isStay ·)).reverse := by
    rw [parentParts, hnames.parts_eq, List.filter_append, List.filter_cons, hlast]
    simp
  rw [makeParents, hparents]
  apply ensureFolders_of_walk
  rw [List.reverse_reverse, walk_filter, hnames.walk_eq]

end FileTree

end NestedGroups
