import RestScaffold.Import.Line
import RestScaffold.TextMap

/-!
# Import tables

A generated file refers to the packages it imports by local names. The table binds each path to the
name it got, and each name to its path. A new path takes the name made of its shortest run of last
segments that is still free, and when every run is taken the longest with a number behind it.

`numberFrom` tries one number after the other. It ends since the names that it has found taken are
different ones, and the table has only so many: `length_le_of_numbered`.
-/

namespace RestScaffold

open Text

/-- The paths that a file imports, each with its local name, and the names, each with its path. -/
structure ImportTable where
  names : TextMap Text := TextMap.empty
  paths : TextMap Text := TextMap.empty
  deriving DecidableEq

namespace ImportTable

/-- Whether a path goes by this name. -/
def taken (t : ImportTable) (name : Text) : Bool := t.paths.contains name

/-- The characters that a local name may have. -/
def isNameChar (c : Char) : Bool := c.isAlphanum || c = '_'

/-- A local name made of the letters, digits and underscores of a text, in lowercase. One that would
be empty or start with a digit gets a word in front. -/
def identifier (s : Text) : Text :=
  let name := (s.filter isNameChar).map Char.toLower
  if name.head?.all Char.isDigit then "pkg" ++ name else name

/-- The names that a path may take, of the last segment, the last two and so on. -/
def suffixNames (path : Text) : List Text :=
  let parts := segments path
  (List.range parts.length).map fun n => identifier (parts.drop (parts.length - (n + 1))).flatten

/-- The first free name of a list. When all are taken it is the last one, and `name` when there is
none at all. -/
def firstFree (t : ImportTable) (name : Text) : List Text → Text
  | [] => name
  | next :: names => if t.taken next then t.firstFree next names else next

/-- Different numbers have different digits. -/
theorem ofNat_injective {m n : Nat} (h : ofNat m = ofNat n) : m = n := by
  have hDigits := congrArg (fun digits => Nat.ofDigitChars 10 digits 0) h
  simpa [ofNat] using hDigits

/-- A list of names has no room for more numbers than it is long. -/
theorem length_le_of_numbered (base : Text) (first : Nat) {names : List Text} {n : Nat}
    (h : ∀ i, first ≤ i → i < n → base ++ ofNat i ∈ names) : n ≤ names.length + first := by
  induction n generalizing names with
  | zero => exact Nat.zero_le _
  | succ n ih =>
    by_cases hFirst : first ≤ n
    · have hLast := h n hFirst (Nat.lt_succ_self n)
      have hRest : ∀ i, first ≤ i → i < n → base ++ ofNat i ∈ names.erase (base ++ ofNat n) := by
        intro i hi hLt
        refine (List.mem_erase_of_ne fun hSame => ?_).2 (h i hi (Nat.lt_succ_of_lt hLt))
        exact Nat.ne_of_lt hLt (ofNat_injective (List.append_cancel_left hSame))
      have hLength := ih hRest
      rw [List.length_erase_of_mem hLast] at hLength
      have hPos := List.length_pos_of_mem hLast
      omega
    · omega

/-- The numbers from 2 up to this one make names that are taken. -/
def TakenBelow (t : ImportTable) (base : Text) (i : Nat) : Prop :=
  ∀ j, 2 ≤ j → j < i → t.taken (base ++ ofNat j) = true

theorem takenBelow_two (t : ImportTable) (base : Text) : t.TakenBelow base 2 :=
  fun _ hj hLt => absurd hLt (Nat.not_lt.2 hj)

theorem TakenBelow.succ {t : ImportTable} {base : Text} {i : Nat} (h : t.TakenBelow base i)
    (hTaken : t.taken (base ++ ofNat i) = true) : t.TakenBelow base (i + 1) := by
  intro j hj hLt
  rcases Nat.lt_succ_iff_lt_or_eq.1 hLt with hLt | rfl
  · exact h j hj hLt
  · exact hTaken

/-- No more numbers are taken than the table has names. -/
theorem TakenBelow.le_size {t : ImportTable} {base : Text} {i : Nat} (h : t.TakenBelow base i) :
    i ≤ t.paths.size + 2 := by
  have hLength := length_le_of_numbered base 2 fun j hj hLt => TextMap.mem_keys_iff.2 (h j hj hLt)
  rwa [TextMap.keys, List.length_map] at hLength

/-- `base` with the first number from `i` up that makes a free name, when the numbers below `i` have
been tried. -/
def numberFrom (t : ImportTable) (base : Text) (i : Nat) (h : t.TakenBelow base i) : Text :=
  if hTaken : t.taken (base ++ ofNat i) = true then
    have := (h.succ hTaken).le_size
    t.numberFrom base (i + 1) (h.succ hTaken)
  else base ++ ofNat i
termination_by t.paths.size + 2 - i

/-- The name that a path without one gets. -/
def freshName (t : ImportTable) (path : Text) : Text :=
  let name := t.firstFree [] (suffixNames path)
  if t.taken name then t.numberFrom name 2 (t.takenBelow_two name) else name

/-- The local name of a path, and the table in which it has that name. -/
def localName (t : ImportTable) (path : Text) : Text × ImportTable :=
  match t.names.get? path with
  | some name => (name, t)
  | none =>
    let name := t.freshName path
    (name, ⟨t.names.insert path name, t.paths.insert name path⟩)

/-- Whether nothing is imported. -/
def isEmpty (t : ImportTable) : Bool := t.names.entries.isEmpty

/-- One line for each path, in the order of the paths. -/
def lines (t : ImportTable) : List Text :=
  t.names.entries.map fun e => ImportLine.bind e.1 e.2

end ImportTable

end RestScaffold
