import NestedGroups.Text.Basic

namespace NestedGroups.Filter

def escapeChar (c : Char) : List Char :=
  match c with
  | '\\' => ['\\', '5', 'c']
  | '*' => ['\\', '2', 'a']
  | '(' => ['\\', '2', '8']
  | ')' => ['\\', '2', '9']
  | '\x00' => ['\\', '0', '0']
  | _ => [c]

def escape (cs : List Char) : List Char :=
  cs.flatMap escapeChar

def escapeText (s : String) : String :=
  .ofList (escape s.toList)

theorem escape_append (s t : List Char) : escape (s ++ t) = escape s ++ escape t := by
  simp [escape]

theorem escapeText_append (s t : String) : escapeText (s ++ t) = escapeText s ++ escapeText t := by
  simp [escapeText, escape_append, String.ofList_append]

inductive Slot where
  | identity
  | label
  deriving DecidableEq

inductive Segment where
  | literal (text : List Char)
  | braced (token : List Char)
  deriving DecidableEq

theorem length_tail_dropWhile_le (p : Char → Bool) (cs : List Char) :
    (cs.dropWhile p).tail.length ≤ cs.length := by
  have := (List.dropWhile_sublist (l := cs) p).length_le
  simp
  omega

def segments : List Char → List Segment
  | [] => []
  | c :: rest =>
    if c = '\x7b' then
      if '\x7d' ∈ rest then
        .braced (rest.takeWhile (· ≠ '\x7d')) :: segments (rest.dropWhile (· ≠ '\x7d')).tail
      else [.literal (c :: rest)]
    else .literal (c :: rest.takeWhile (· ≠ '\x7b')) :: segments (rest.dropWhile (· ≠ '\x7b'))
termination_by cs => cs.length
decreasing_by
  · exact Nat.lt_succ_of_le (length_tail_dropWhile_le _ _)
  · exact Nat.lt_succ_of_le (List.dropWhile_sublist _).length_le

namespace Segment

def source : Segment → List Char
  | .literal text => text
  | .braced token => '\x7b' :: token ++ ['\x7d']

/-- The slot that a token names; `0` and `1` may have leading zeros. -/
def slot? (token : List Char) : Option Slot :=
  match Text.numeral? token with
  | some 0 => some .identity
  | some 1 => some .label
  | _ => none

def render (identity label : List Char) : Segment → List Char
  | .literal text => text
  | .braced token =>
    match slot? token with
    | some .identity => escape identity
    | some .label => escape label
    | none => source (.braced token)

end Segment

inductive Fault where
  | blank
  | strayClose
  | missingClose
  | nestedBrace
  | unknownSlot (token : List Char)
  deriving DecidableEq

/-- Reads on with `depth` parentheses open. -/
def parenFault? : Nat → List Char → Option Fault
  | 0, [] => none
  | _ + 1, [] => some .missingClose
  | depth, c :: rest =>
    if c = '(' then parenFault? (depth + 1) rest
    else if c = ')' then
      match depth with
      | 0 => some .strayClose
      | depth + 1 => parenFault? depth rest
    else parenFault? depth rest

/-- A token has no further opening brace, and where it is a number it names a slot. -/
def Segment.fault? : Segment → Option Fault
  | .literal _ => none
  | .braced token =>
    if '\x7b' ∈ token then some .nestedBrace
    else if Text.isNumeral token ∧ slot? token = none then some (.unknownSlot token)
    else none

/-- The first fault, parentheses before braces. -/
def fault? (text : String) : Option Fault :=
  if Text.isAllBlank text then some .blank
  else (parenFault? 0 text.toList).or ((segments text.toList).findSome? Segment.fault?)

def Fault.message (text : String) : Fault → String
  | .blank => "filter template cannot be empty"
  | .strayClose => "unbalanced ')' in '" ++ text ++ "'"
  | .missingClose => "unbalanced '(' in '" ++ text ++ "'"
  | .nestedBrace => "nested '\x7b' in '" ++ text ++ "'"
  | .unknownSlot token =>
    "unknown placeholder '\x7b" ++ .ofList token ++ "\x7d' in '" ++ text ++ "'"

structure Template where
  text : String
  faultless : fault? text = none
  deriving DecidableEq

namespace Template

def parse (text : String) : Except Fault Template :=
  match h : fault? text with
  | some fault => .error fault
  | none => .ok ⟨text, h⟩

def default : Template :=
  ⟨"(member=\x7b0\x7d)", by decide +kernel⟩

instance : Inhabited Template := ⟨default⟩

def render (t : Template) (identity label : String) : String :=
  .ofList ((segments t.text.toList).flatMap (Segment.render identity.toList label.toList))

theorem parse_eq_ok_iff {text : String} {t : Template} : parse text = .ok t ↔ t.text = text := by
  rw [parse]
  split
  · rename_i fault h
    constructor
    · simp
    · rintro rfl
      simp [t.faultless] at h
  · constructor
    · rintro ⟨⟩
      rfl
    · rintro rfl
      rfl

theorem parse_text (t : Template) : parse t.text = .ok t :=
  parse_eq_ok_iff.2 rfl

end Template

end NestedGroups.Filter
