/-!
# Text

Text is a list of characters, so that every rule about it is a recursion on the list. String
literals stand for text wherever text is expected. This module has the parts that know nothing of
the domain: blanks and trimming, cutting at a character or a word, decimal numbers and UTF-8.

Blank means the Unicode property of white space, not ASCII white space. Cutting never loses a
character: `splitFirst_eq` and `cutAt_eq` say that the parts and the separator make up the text.
-/

namespace RestScaffold

/-- A text as its characters. -/
abbrev Text := List Char

instance : Coe String Text := ⟨String.toList⟩

namespace Text

/-! ## Blanks -/

/-- The Unicode white space characters. -/
def isBlank (c : Char) : Bool :=
  let n := c.toNat
  (9 ≤ n && n ≤ 13) || n == 0x20 || n == 0x85 || n == 0xA0 || n == 0x1680 ||
    (0x2000 ≤ n && n ≤ 0x200A) || n == 0x2028 || n == 0x2029 || n == 0x202F || n == 0x205F ||
    n == 0x3000

/-- The text without the blanks in front. -/
def trimStart (s : Text) : Text := s.dropWhile isBlank

/-- The text without the blanks at its end. -/
def trimEnd (s : Text) : Text := (s.reverse.dropWhile isBlank).reverse

/-- The text without the blanks around it. -/
def trim (s : Text) : Text := trimEnd (trimStart s)

/-- A text of blanks only. -/
def isBlankText (s : Text) : Bool := trim s == []

/-! ## Cutting -/

/-- What follows `lead`, if the text starts with it. -/
def dropLead? : (lead : Text) → Text → Option Text
  | [], s => some s
  | _ :: _, [] => none
  | a :: lead, b :: s => if a = b then dropLead? lead s else none

theorem dropLead?_eq {lead s rest : Text} (h : dropLead? lead s = some rest) :
    s = lead ++ rest := by
  induction lead generalizing s with
  | nil => simpa [dropLead?] using h
  | cons a lead ih =>
    cases s with
    | nil => simp [dropLead?] at h
    | cons b s =>
      simp only [dropLead?] at h
      split at h
      · next hab => rw [hab, ih h, List.cons_append]
      · simp at h

/-- Whether the text starts with `lead`. -/
def startsWith (lead s : Text) : Bool := (dropLead? lead s).isSome

/-- The text before and after the first `sep`. -/
def splitFirst (sep : Char) : Text → Option (Text × Text)
  | [] => none
  | c :: s => if c = sep then some ([], s) else (splitFirst sep s).map fun p => (c :: p.1, p.2)

theorem splitFirst_eq {sep : Char} {s a b : Text} (h : splitFirst sep s = some (a, b)) :
    s = a ++ sep :: b := by
  induction s generalizing a b with
  | nil => simp [splitFirst] at h
  | cons c s ih =>
    simp only [splitFirst] at h
    split at h
    · next hc => simp at h; simp [hc, h.1, h.2]
    · obtain ⟨⟨a', b'⟩, hs, hp⟩ := Option.map_eq_some_iff.1 h
      simp at hp
      rw [← hp.1, ← hp.2, ih hs, List.cons_append]

/-- The text before and after the first occurrence of `word`. -/
def cutAt (word : Text) : Text → Option (Text × Text)
  | [] => if word = [] then some ([], []) else none
  | c :: s =>
    match dropLead? word (c :: s) with
    | some rest => some ([], rest)
    | none => (cutAt word s).map fun p => (c :: p.1, p.2)

theorem cutAt_eq {word s a b : Text} (h : cutAt word s = some (a, b)) : s = a ++ word ++ b := by
  induction s generalizing a b with
  | nil =>
    simp only [cutAt] at h
    split at h
    · next hw => simp at h; simp [hw, h.1, h.2]
    · simp at h
  | cons c s ih =>
    simp only [cutAt] at h
    split at h
    · next rest hd => simp at h; simpa [h.1, h.2] using dropLead?_eq hd
    · obtain ⟨⟨a', b'⟩, hs, hp⟩ := Option.map_eq_some_iff.1 h
      simp at hp
      rw [← hp.1, ← hp.2]
      simpa using ih hs

/-- The parts between the separators: one more than there are separators. -/
def splitOn (sep : Char) : Text → List Text
  | [] => [[]]
  | c :: s =>
    match splitOn sep s with
    | [] => [[c]]
    | part :: parts => if c = sep then [] :: part :: parts else (c :: part) :: parts

/-- The non-empty parts between slashes. -/
def segments (s : Text) : List Text := (splitOn '/' s).filter (· ≠ [])

/-- What follows the last `sep`, or the whole text if there is none. -/
def afterLast (sep : Char) (s : Text) : Text := (s.reverse.takeWhile (· ≠ sep)).reverse

theorem length_lt_of_cutAt {word s a b : Text} (hw : word ≠ []) (h : cutAt word s = some (a, b)) :
    b.length < s.length := by
  have hlen : word.length ≠ 0 := fun h0 => hw (List.length_eq_zero_iff.1 h0)
  rw [cutAt_eq h]
  simp only [List.length_append]
  omega

/-- Every occurrence of `word` replaced, from the left; the search goes on behind each of them. -/
def replace (word new s : Text) : Text :=
  if hw : word = [] then s
  else
    match h : cutAt word s with
    | none => s
    | some (a, b) =>
      have := length_lt_of_cutAt hw h
      a ++ new ++ replace word new b
termination_by s.length

/-- How many line breaks the text has. -/
def newlines (s : Text) : Nat := s.count '\n'

/-- The parts with `glue` between them. -/
def joinWith (glue : Text) : List Text → Text
  | [] => []
  | [part] => part
  | part :: parts => part ++ glue ++ joinWith glue parts

/-- The lines of a list, each with a line break behind it. -/
def ofLines : List Text → Text
  | [] => []
  | line :: lines => line ++ '\n' :: ofLines lines

/-! ## Numbers and bytes -/

/-- Decimal digits of a natural number. -/
def ofNat (n : Nat) : Text := Nat.toDigits 10 n

/-- Decimal digits of an integer, behind a minus sign when it is negative. -/
def ofInt : Int → Text
  | .ofNat n => ofNat n
  | .negSucc n => '-' :: ofNat (n + 1)

/-- The number that a run of decimal digits writes. -/
def ofDigits? (s : Text) : Option Nat :=
  if s ≠ [] && s.all Char.isDigit then some (s.foldl (fun n c => 10 * n + (c.toNat - 48)) 0)
  else none

/-- The bytes of the text in UTF-8. -/
def utf8 (s : Text) : List UInt8 := s.flatMap String.utf8EncodeChar

/-- The text whose UTF-8 bytes these are, if they are well formed. -/
def ofUtf8? (bytes : List UInt8) : Option Text :=
  (String.fromUTF8? ⟨bytes.toArray⟩).map String.toList

end Text

end RestScaffold
