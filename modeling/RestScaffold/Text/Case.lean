import RestScaffold.Text.Basic
import RestScaffold.Text.CaseTable

/-!
# Upper and lower case

Characters map by the Unicode case tables, so one character may become several: the capital form
of a sharp s is two letters, the small form of a dotted capital I is two characters. In a whole
text a capital sigma at the end of a word becomes the final small sigma.
-/

namespace RestScaffold.Text

/-- The uppercase form of a character. -/
def upperOf (c : Char) : Text :=
  if c.toNat < 128 then [c.toUpper]
  else
    match upperExpansions.lookup c.toNat with
    | some codes => codes.map Char.ofNat
    | none => [Char.ofNat (CaseRun.lookup upperRuns c.toNat)]

/-- The lowercase form of a character that stands by itself. -/
def lowerOf (c : Char) : Text :=
  if c.toNat < 128 then [c.toLower]
  else if c.toNat = 0x130 then ['i', Char.ofNat 0x307]
  else [Char.ofNat (CaseRun.lookup lowerRuns c.toNat)]

/-- Whether the first character that counts for the case of a word has case. -/
def leadsCased (s : Text) : Bool :=
  match s.dropWhile fun c => inRanges caseIgnorableRanges c.toNat with
  | [] => false
  | c :: _ => inRanges casedRanges c.toNat

/-- The lowercase form of a text. `before` holds the characters already read, the latest first:
a capital sigma is final when a cased character stands before it and none follows. -/
def lowerFrom (before : Text) : Text → Text
  | [] => []
  | c :: s =>
    (if c.toNat = 0x3A3 then
      [Char.ofNat (if leadsCased before && !leadsCased s then 0x3C2 else 0x3C3)]
    else lowerOf c) ++ lowerFrom (c :: before) s

/-- The lowercase form of a text. -/
def lower (s : Text) : Text := lowerFrom [] s

/-- The text with its first character in uppercase. -/
def capitalize : Text → Text
  | [] => []
  | c :: s => upperOf c ++ s

/-- The text with its first character in lowercase. -/
def decapitalize : Text → Text
  | [] => []
  | c :: s => lowerOf c ++ s

/-- The text with its ASCII letters in lowercase. -/
def lowerAscii (s : Text) : Text := s.map Char.toLower

end RestScaffold.Text
