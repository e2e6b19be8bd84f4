import NestedGroups.Text.Basic
import NestedGroups.Text.Cells

namespace NestedGroups.Text

def pictures : List (Nat × Nat) :=
  [(0x231A, 0x231B), (0x23E9, 0x23EC), (0x23F0, 0x23F0), (0x23F3, 0x23F3), (0x25FD, 0x25FE),
   (0x2614, 0x2615), (0x2648, 0x2653), (0x267F, 0x267F), (0x2693, 0x2693), (0x26A1, 0x26A1),
   (0x26AA, 0x26AB), (0x26BD, 0x26BE), (0x26C4, 0x26C5), (0x26CE, 0x26CE), (0x26D4, 0x26D4),
   (0x26EA, 0x26EA), (0x26F2, 0x26F3), (0x26F5, 0x26F5), (0x26FA, 0x26FA), (0x26FD, 0x26FD),
   (0x2705, 0x2705), (0x270A, 0x270B), (0x2728, 0x2728), (0x274C, 0x274C), (0x274E, 0x274E),
   (0x2753, 0x2755), (0x2757, 0x2757), (0x2795, 0x2797), (0x27B0, 0x27B0), (0x27BF, 0x27BF),
   (0x2B1B, 0x2B1C), (0x2B50, 0x2B50), (0x2B55, 0x2B55), (0x1F004, 0x1F004), (0x1F0CF, 0x1F0CF),
   (0x1F18E, 0x1F18E), (0x1F191, 0x1F19A), (0x1F201, 0x1F201), (0x1F21A, 0x1F21A),
   (0x1F22F, 0x1F22F), (0x1F232, 0x1F236), (0x1F238, 0x1F23A), (0x1F250, 0x1F251),
   (0x1F300, 0x1F320), (0x1F32D, 0x1F335), (0x1F337, 0x1F37C), (0x1F37E, 0x1F393),
   (0x1F3A0, 0x1F3CA), (0x1F3CF, 0x1F3D3), (0x1F3E0, 0x1F3F0), (0x1F3F4, 0x1F3F4),
   (0x1F3F8, 0x1F3FA), (0x1F400, 0x1F43E), (0x1F440, 0x1F440), (0x1F442, 0x1F4FC),
   (0x1F4FF, 0x1F53D), (0x1F54B, 0x1F54E), (0x1F550, 0x1F567), (0x1F57A, 0x1F57A),
   (0x1F595, 0x1F596), (0x1F5A4, 0x1F5A4), (0x1F5FB, 0x1F64F), (0x1F680, 0x1F6C5),
   (0x1F6CC, 0x1F6CC), (0x1F6D0, 0x1F6D2), (0x1F6D5, 0x1F6D7), (0x1F6DC, 0x1F6DF),
   (0x1F6EB, 0x1F6EC), (0x1F6F4, 0x1F6FC), (0x1F7E0, 0x1F7EB), (0x1F7F0, 0x1F7F0),
   (0x1F90C, 0x1F93A), (0x1F93C, 0x1F945), (0x1F947, 0x1F9FF), (0x1FA70, 0x1FA7C),
   (0x1FA80, 0x1FA88), (0x1FA90, 0x1FABD), (0x1FABF, 0x1FAC5), (0x1FACE, 0x1FADB),
   (0x1FAE0, 0x1FAE8), (0x1FAF0, 0x1FAF8)]

def signs : List (Nat × Nat) :=
  [(0x23, 0x23), (0x2A, 0x2A), (0x30, 0x39), (0xA9, 0xA9), (0xAE, 0xAE), (0x203C, 0x203C),
   (0x2049, 0x2049), (0x2122, 0x2122), (0x2139, 0x2139), (0x2194, 0x2199), (0x21A9, 0x21AA),
   (0x2328, 0x2328), (0x23CF, 0x23CF), (0x23ED, 0x23EF), (0x23F1, 0x23F2), (0x23F8, 0x23FA),
   (0x24C2, 0x24C2), (0x25AA, 0x25AB), (0x25B6, 0x25B6), (0x25C0, 0x25C0), (0x25FB, 0x25FC),
   (0x2600, 0x2604), (0x260E, 0x260E), (0x2611, 0x2611), (0x2618, 0x2618), (0x261D, 0x261D),
   (0x2620, 0x2620), (0x2622, 0x2623), (0x2626, 0x2626), (0x262A, 0x262A), (0x262E, 0x262F),
   (0x2638, 0x263A), (0x2640, 0x2640), (0x2642, 0x2642), (0x265F, 0x2660), (0x2663, 0x2663),
   (0x2665, 0x2666), (0x2668, 0x2668), (0x267B, 0x267B), (0x267E, 0x267E), (0x2692, 0x2692),
   (0x2694, 0x2697), (0x2699, 0x2699), (0x269B, 0x269C), (0x26A0, 0x26A0), (0x26A7, 0x26A7),
   (0x26B0, 0x26B1), (0x26C8, 0x26C8), (0x26CF, 0x26CF), (0x26D1, 0x26D1), (0x26D3, 0x26D3),
   (0x26E9, 0x26E9), (0x26F0, 0x26F1), (0x26F4, 0x26F4), (0x26F7, 0x26F9), (0x2702, 0x2702),
   (0x2708, 0x2709), (0x270C, 0x270D), (0x270F, 0x270F), (0x2712, 0x2712), (0x2714, 0x2714),
   (0x2716, 0x2716), (0x271D, 0x271D), (0x2721, 0x2721), (0x2733, 0x2734), (0x2744, 0x2744),
   (0x2747, 0x2747), (0x2763, 0x2764), (0x27A1, 0x27A1), (0x2934, 0x2935), (0x2B05, 0x2B07),
   (0x3030, 0x3030), (0x303D, 0x303D), (0x3297, 0x3297), (0x3299, 0x3299), (0x1F170, 0x1F171),
   (0x1F17E, 0x1F17F), (0x1F202, 0x1F202), (0x1F237, 0x1F237), (0x1F321, 0x1F321),
   (0x1F324, 0x1F32C), (0x1F336, 0x1F336), (0x1F37D, 0x1F37D), (0x1F396, 0x1F397),
   (0x1F399, 0x1F39B), (0x1F39E, 0x1F39F), (0x1F3CB, 0x1F3CE), (0x1F3D4, 0x1F3DF),
   (0x1F3F3, 0x1F3F3), (0x1F3F5, 0x1F3F5), (0x1F3F7, 0x1F3F7), (0x1F43F, 0x1F43F),
   (0x1F441, 0x1F441), (0x1F4FD, 0x1F4FD), (0x1F549, 0x1F54A), (0x1F56F, 0x1F570),
   (0x1F573, 0x1F579), (0x1F587, 0x1F587), (0x1F58A, 0x1F58D), (0x1F590, 0x1F590),
   (0x1F5A5, 0x1F5A5), (0x1F5A8, 0x1F5A8), (0x1F5B1, 0x1F5B2), (0x1F5BC, 0x1F5BC),
   (0x1F5C2, 0x1F5C4), (0x1F5D1, 0x1F5D3), (0x1F5DC, 0x1F5DE), (0x1F5E1, 0x1F5E1),
   (0x1F5E3, 0x1F5E3), (0x1F5E8, 0x1F5E8), (0x1F5EF, 0x1F5EF), (0x1F5F3, 0x1F5F3),
   (0x1F5FA, 0x1F5FA), (0x1F6CB, 0x1F6CB), (0x1F6CD, 0x1F6CF), (0x1F6E0, 0x1F6E5),
   (0x1F6E9, 0x1F6E9), (0x1F6F0, 0x1F6F0), (0x1F6F3, 0x1F6F3)]

def restyled : List (Nat × Nat) :=
  [(0x231A, 0x231B), (0x23E9, 0x23EA), (0x23F3, 0x23F3), (0x25FD, 0x25FE), (0x2614, 0x2615),
   (0x2648, 0x2653), (0x267F, 0x267F), (0x2693, 0x2693), (0x26A1, 0x26A1), (0x26AA, 0x26AB),
   (0x26BD, 0x26BE), (0x26C4, 0x26C5), (0x26D4, 0x26D4), (0x26EA, 0x26EA), (0x26F2, 0x26F3),
   (0x26F5, 0x26F5), (0x26FA, 0x26FA), (0x26FD, 0x26FD), (0x2753, 0x2753), (0x2757, 0x2757),
   (0x2B1B, 0x2B1C), (0x2B50, 0x2B50), (0x2B55, 0x2B55), (0x1F004, 0x1F004), (0x1F21A, 0x1F21A),
   (0x1F22F, 0x1F22F), (0x1F30D, 0x1F30F), (0x1F315, 0x1F315), (0x1F31C, 0x1F31C),
   (0x1F378, 0x1F378), (0x1F393, 0x1F393), (0x1F3A7, 0x1F3A7), (0x1F3AC, 0x1F3AE),
   (0x1F3C2, 0x1F3C2), (0x1F3C4, 0x1F3C4), (0x1F3C6, 0x1F3C6), (0x1F3CA, 0x1F3CA),
   (0x1F3E0, 0x1F3E0), (0x1F3ED, 0x1F3ED), (0x1F408, 0x1F408), (0x1F415, 0x1F415),
   (0x1F41F, 0x1F41F), (0x1F426, 0x1F426), (0x1F442, 0x1F442), (0x1F446, 0x1F449),
   (0x1F44D, 0x1F44E), (0x1F453, 0x1F453), (0x1F46A, 0x1F46A), (0x1F47D, 0x1F47D),
   (0x1F4A3, 0x1F4A3), (0x1F4B0, 0x1F4B0), (0x1F4B3, 0x1F4B3), (0x1F4BB, 0x1F4BB),
   (0x1F4BF, 0x1F4BF), (0x1F4CB, 0x1F4CB), (0x1F4DA, 0x1F4DA), (0x1F4DF, 0x1F4DF),
   (0x1F4E4, 0x1F4E6), (0x1F4EA, 0x1F4ED), (0x1F4F7, 0x1F4F7), (0x1F4F9, 0x1F4FB),
   (0x1F508, 0x1F508), (0x1F50D, 0x1F50D), (0x1F512, 0x1F513), (0x1F550, 0x1F567),
   (0x1F610, 0x1F610), (0x1F687, 0x1F687), (0x1F68D, 0x1F68D), (0x1F691, 0x1F691),
   (0x1F694, 0x1F694), (0x1F698, 0x1F698), (0x1F6AD, 0x1F6AD), (0x1F6B2, 0x1F6B2),
   (0x1F6B9, 0x1F6BA), (0x1F6BC, 0x1F6BC)]

def toned : List (Nat × Nat) :=
  [(0x261D, 0x261D), (0x26F9, 0x26F9), (0x270A, 0x270D), (0x1F385, 0x1F385), (0x1F3C2, 0x1F3C4),
   (0x1F3C7, 0x1F3C7), (0x1F3CA, 0x1F3CC), (0x1F442, 0x1F443), (0x1F446, 0x1F450),
   (0x1F466, 0x1F478), (0x1F47C, 0x1F47C), (0x1F481, 0x1F483), (0x1F485, 0x1F487),
   (0x1F48F, 0x1F48F), (0x1F491, 0x1F491), (0x1F4AA, 0x1F4AA), (0x1F574, 0x1F575),
   (0x1F57A, 0x1F57A), (0x1F590, 0x1F590), (0x1F595, 0x1F596), (0x1F645, 0x1F647),
   (0x1F64B, 0x1F64F), (0x1F6A3, 0x1F6A3), (0x1F6B4, 0x1F6B6), (0x1F6C0, 0x1F6C0),
   (0x1F6CC, 0x1F6CC), (0x1F90C, 0x1F90C), (0x1F90F, 0x1F90F), (0x1F918, 0x1F91F),
   (0x1F926, 0x1F926), (0x1F930, 0x1F939), (0x1F93C, 0x1F93E), (0x1F977, 0x1F977),
   (0x1F9B5, 0x1F9B6), (0x1F9B8, 0x1F9B9), (0x1F9BB, 0x1F9BB), (0x1F9CD, 0x1F9CF),
   (0x1F9D1, 0x1F9DD), (0x1FAC3, 0x1FAC5), (0x1FAF0, 0x1FAF8)]

def isPicture (c : Char) : Bool :=
  inRanges pictures c.toNat

/-- Whether variation selector 16 makes a picture of the character. -/
def isSelectable (c : Char) : Bool :=
  inRanges signs c.toNat || inRanges restyled c.toNat

/-- Whether variation selector 15 makes a narrow sign of the picture. The squared ideographs among
them stay wide. -/
def isNarrowable (c : Char) : Bool :=
  c.toNat ≠ 0x1F21A && c.toNat ≠ 0x1F22F && inRanges restyled c.toNat

def isToned (c : Char) : Bool :=
  inRanges toned c.toNat

def isSkinTone (c : Char) : Bool :=
  0x1F3FB ≤ c.toNat && c.toNat ≤ 0x1F3FF

def isIndicator (c : Char) : Bool :=
  0x1F1E6 ≤ c.toNat && c.toNat ≤ 0x1F1FF

def isTagLetter (c : Char) : Bool :=
  0xE0061 ≤ c.toNat && c.toNat ≤ 0xE007A

def isTagDigit (c : Char) : Bool :=
  0xE0030 ≤ c.toNat && c.toNat ≤ 0xE0039

/-- The front of a text, where it is an emoji or may become the end of one. -/
inductive EmojiPiece where
  /-- A picture, with all that belongs to it. -/
  | picture
  | skinTone
  | indicator
  /-- Two letters of a flag or more. -/
  | indicators
  /-- A joiner, and the emoji behind it. -/
  | joiner
  /-- The enclosing key of a keycap that is joined to an emoji. -/
  | keycap
  /-- One letter of a flag that is joined to an emoji. -/
  | joinedIndicator
  /-- An even number of letters, of which the last two are joined to an emoji. -/
  | evenIndicators
  /-- An odd number of letters, and three at least, in front of a joiner. -/
  | oddIndicators
  /-- The end of a tagged flag, with the letters that were found in front of it. -/
  | tagLetters (count : Nat)
  | tagDigits (count : Nat)
  deriving DecidableEq

namespace EmojiPiece

/-- What may stand behind a joiner. A skin tone counts, since it is also a picture of its own. -/
def isJoinable : EmojiPiece → Bool
  | .picture | .skinTone | .indicators | .evenIndicators | .oddIndicators => true
  | _ => false

/-- The tags of a flag name a part of a country: three to six letters, or three digits and at most
four letters behind them. -/
def isTagged : EmojiPiece → Bool
  | .tagLetters n => 3 ≤ n && n ≤ 6
  | .tagDigits n => n = 3
  | _ => false

/-- What a piece becomes when a character is put in front of it, and the cells that this adds. There
is no answer if the two do not go together. -/
def extend? (piece : EmojiPiece) (c : Char) : Option (Int × EmojiPiece) :=
  if c = '\u200D' ∧ piece.isJoinable then some (0, .joiner)
  else if c.toNat = 0x1F3F4 ∧ piece.isTagged then some (0, .picture)
  else
    match piece with
    | .skinTone => if isToned c then some (0, .picture) else none
    | .indicator | .indicators => if isIndicator c then some (1, .indicators) else none
    | .joiner =>
      if c = '\u20E3' then some (0, .keycap)
      else if isIndicator c then some (1, .joinedIndicator)
      else if isSkinTone c then some (0, .skinTone)
      else if c.toNat = 0xE007F then some (0, .tagLetters 0)
      else if isPicture c then some (0, .picture)
      else none
    | .joinedIndicator | .oddIndicators =>
      if isIndicator c then some (-1, .evenIndicators) else none
    | .evenIndicators => if isIndicator c then some (3, .oddIndicators) else none
    | .tagLetters n =>
      if isTagLetter c ∧ n < 6 then some (0, .tagLetters (n + 1))
      else if isTagDigit c ∧ n ≤ 4 then some (0, .tagDigits 1)
      else none
    | .tagDigits n => if isTagDigit c ∧ n < 3 then some (0, .tagDigits (n + 1)) else none
    | .picture | .keycap => none

def ofChar? (c : Char) : Option EmojiPiece :=
  if isIndicator c then some .indicator
  else if isSkinTone c then some .skinTone
  else if isPicture c then some .picture
  else none

end EmojiPiece

/-- The first character of a text, or several, as far as they may join one in front of them. -/
inductive Front where
  | plain
  | emoji (piece : EmojiPiece)
  | letter (piece : Ligature)
  deriving DecidableEq

inductive Style where
  | text
  | picture
  deriving DecidableEq

structure Follower where
  front : Front
  style : Option Style
  deriving DecidableEq

def selector? (c : Char) : Option Style :=
  if c = '\uFE0E' then some .text else if c = '\uFE0F' then some .picture else none

def alone (c : Char) : Int × Front :=
  let front :=
    match EmojiPiece.ofChar? c, Ligature.ofChar? c with
    | some piece, _ => .emoji piece
    | none, some l => .letter l
    | none, none => .plain
  (charWidth c, front)

/-- What the front becomes with a character that joins it, and the cells that this adds. -/
def Front.extend? (front : Front) (c : Char) : Option (Int × Front) :=
  match front with
  | .plain => none
  | .emoji piece => (piece.extend? c).map fun (n, p) => (n, .emoji p)
  | .letter l => (l.extend? c).map fun (n, l) => (n, (l.map .letter).getD .plain)

def Front.isJoined (front : Front) : Bool :=
  front = .emoji .joiner || front = .emoji .keycap

namespace Follower

/-- A variation selector parts what is behind it from the character in front of it, ligatures
apart. -/
def reach (f : Follower) : Front :=
  match f.style, f.front with
  | none, front => front
  | some _, .letter l => .letter l
  | some _, _ => .plain

/-- The follower with a variation selector put in front. A joined emoji stays in reach of the
picture that the selector makes. -/
def select (f : Follower) (style : Style) : Follower :=
  match f.reach with
  | .letter l => ⟨.letter l, style⟩
  | front => ⟨if style = .picture ∧ front.isJoined then front else .plain, style⟩

end Follower

/-- The cells that a character adds in front of what follows, and what follows the next one. -/
def before (c : Char) (next : Follower) : Int × Follower :=
  match selector? c with
  | some style => (0, next.select style)
  | none =>
    if next.style = some .picture ∧ isSelectable c then
      (if next.front.isJoined then 0 else 2, ⟨.emoji .picture, none⟩)
    else if next.style = some .text ∧ isNarrowable c then (1, ⟨.plain, none⟩)
    else
      let (n, front) := (next.reach.extend? c).getD (alone c)
      (n, ⟨front, none⟩)

def measure : List Char → Int × Follower
  | [] => (0, ⟨.plain, none⟩)
  | c :: rest =>
    let (n, next) := measure rest
    let (m, front) := before c next
    (m + n, front)

def width (cs : List Char) : Nat :=
  (measure cs).1.toNat

end NestedGroups.Text
