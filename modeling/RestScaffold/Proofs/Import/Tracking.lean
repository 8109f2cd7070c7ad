import RestScaffold.Proofs.Import.Line
import RestScaffold.Proofs.TextMap

/-!
# What an import table keeps track of

Whatever paths a file asks names for, and in whatever order, the table keeps names and paths in
step: a path has one name, a name is that of one path, and a name once given stays.

* `ImportTable.NewName`: the name that a path gets when it has none;
* `ImportLine.parts`: the path and the name that a line was made of;
* `ImportTable.tracks_register`: a table that was filled call by call tracks its calls.
-/

namespace RestScaffold

open Text

/-! ## Reading a line -/

namespace ImportLine

/-- The path and the name of a line. The name stands in front of the quoted path, with a blank
between them, or it is the last segment of a path that stands there alone. -/
def parts (line : Text) : Text × Text :=
  let path := ((line.dropWhile (· ≠ quote)).drop 1).dropLast
  let front := line.takeWhile (· ≠ quote)
  (path, if front = [] then afterLast '/' path else front.dropLast)

/-- **What a line binds can be read off it.** -/
theorem Binds.parts_eq {line name path : Text} (h : Binds line name path) :
    parts line = (path, name) := by
  obtain ⟨hPath, hFront⟩ := h.cut
  have hInner : ((line.dropWhile (· ≠ quote)).drop 1).dropLast = path := by
    rw [hPath]
    exact List.dropLast_concat
  rw [parts, hInner]
  rcases hFront with ⟨hNil, hName⟩ | hAlias
  · rw [if_pos hNil, hName]
  · have hNe : name ++ " ".toList ≠ [] := List.append_ne_nil_of_right_ne_nil name (by decide)
    rw [hAlias, if_neg hNe]
    exact congrArg (Prod.mk path) List.dropLast_concat

end ImportLine

namespace ImportTable

variable {t : ImportTable} {path : Text}

/-! ## New names -/

/-- The name made of the last `n` segments of a path. -/
def suffixName (path : Text) (n : Nat) : Text :=
  identifier ((segments path).drop ((segments path).length - n)).flatten

/-- The name that a path without one gets: the one of its shortest run of last segments that is
free, or when all of these are taken the one of all segments with the smallest number from 2 up that
makes it free. No more numbers are tried than the table has names. -/
inductive NewName (t : ImportTable) (path : Text) : Text → Prop where
  /-- A run of segments makes a free name, and no shorter one does. -/
  | suffix (n : Nat) (hSegment : 1 ≤ n) (hLength : n ≤ (segments path).length)
      (hFree : t.taken (suffixName path n) = false)
      (hShorter : ∀ m, 1 ≤ m → m < n → t.taken (suffixName path m) = true) :
      NewName t path (suffixName path n)
  /-- No run of segments makes a free name. -/
  | numbered (i : Nat) (hNumber : 2 ≤ i) (hBound : i ≤ t.paths.size + 2)
      (hTaken : ∀ n, 1 ≤ n → n ≤ (segments path).length → t.taken (suffixName path n) = true)
      (hFree : t.taken (identifier (segments path).flatten ++ ofNat i) = false)
      (hSmaller : ∀ j, 2 ≤ j → j < i →
        t.taken (identifier (segments path).flatten ++ ofNat j) = true) :
      NewName t path (identifier (segments path).flatten ++ ofNat i)

theorem suffixNames_eq (path : Text) :
    suffixNames path = (List.range (segments path).length).map fun n => suffixName path (n + 1) :=
  rfl

/-- The longest of the names is the one of all segments. -/
theorem longestName_eq_identifier (h : segments path ≠ []) :
    longestName path = identifier (segments path).flatten := by
  obtain ⟨n, hLength⟩ := Nat.exists_eq_add_one_of_ne_zero (List.length_eq_zero_iff.not.2 h)
  have hAll : suffixName path (n + 1) = identifier (segments path).flatten := by
    rw [suffixName, hLength, Nat.sub_self, List.drop_zero]
  rw [longestName, suffixNames_eq, hLength, List.range_succ, List.map_append, List.map_singleton,
    List.getLastD_concat, hAll]

/-- **How a path that has segments gets its name.** -/
theorem newName_freshName (t : ImportTable) (h : segments path ≠ []) :
    t.NewName path (t.freshName path) := by
  let free := fun name => !t.taken name
  have hRun : (suffixNames path).find? free =
      ((List.range (segments path).length).find? fun n => free (suffixName path (n + 1))).map
        fun n => suffixName path (n + 1) := by
    rw [suffixNames_eq, List.find?_map]
    rfl
  cases hFind : (List.range (segments path).length).find? fun n => free (suffixName path (n + 1))
  with
  | some n =>
    obtain ⟨hFree, hRange, hBefore⟩ := List.find?_range_eq_some.1 hFind
    rw [hFind] at hRun
    rw [freshName_of_find? hRun]
    refine .suffix (n + 1) (Nat.le_add_left 1 n) (List.mem_range.1 hRange)
      (by simpa [free] using hFree) fun m hm hLt => ?_
    obtain ⟨k, rfl⟩ := Nat.exists_eq_add_of_le' hm
    simpa [free] using hBefore k (by omega)
  | none =>
    have hTaken : ∀ n, 1 ≤ n → n ≤ (segments path).length →
        t.taken (suffixName path n) = true := by
      intro n hn hLength
      obtain ⟨k, rfl⟩ := Nat.exists_eq_add_of_le' hn
      simpa [free] using List.find?_eq_none.1 hFind k (List.mem_range.2 hLength)
    have hLongest : t.taken (longestName path) = true := by
      have hAll := hTaken (segments path).length (List.length_pos_of_ne_nil h) le_rfl
      rw [suffixName, Nat.sub_self, List.drop_zero] at hAll
      rw [longestName_eq_identifier h, hAll]
    rw [hFind] at hRun
    rw [freshName_of_find?_eq_none hRun, if_pos hLongest]
    obtain ⟨i, hNumber, hBound, hName, hFree, hSmaller⟩ :=
      t.exists_numberFrom (longestName path) 2 (t.takenBelow_two _)
    rw [hName]
    rw [longestName_eq_identifier h] at hFree hSmaller ⊢
    exact .numbered i hNumber hBound hTaken hFree hSmaller

/-! ## Both sides of a table -/

/-- A table has as many names as paths. -/
theorem Sound.size_paths (h : t.Sound) : t.paths.size = t.names.size := by
  have hNodup : ∀ m : TextMap Text, m.entries.Nodup := by
    intro m
    refine m.sorted.imp ?_
    rintro a b hLt rfl
    exact List.lt_irrefl a.1 hLt
  have hPerm : t.paths.entries.Perm (t.names.entries.map Prod.swap) := by
    refine (List.perm_ext_iff_of_nodup (hNodup _) ((hNodup _).map Prod.swap_injective)).2 ?_
    rintro ⟨name, path⟩
    rw [TextMap.mem_entries_iff, ← h.inverse, ← TextMap.mem_entries_iff]
    exact (List.mem_map_of_injective Prod.swap_injective).symm
  rw [TextMap.size, hPerm.length_eq, List.length_map, TextMap.size]

/-- The lines of a table say what it binds. -/
theorem Sound.map_parts_lines (h : t.Sound) :
    t.lines.map ImportLine.parts = t.names.entries := by
  rw [lines, List.map_map]
  refine (List.map_congr_left fun e he => ?_).trans (List.map_id _)
  exact (h.binds_bind (TextMap.mem_entries_iff.1 he)).parts_eq

/-! ## Any calls on a new table -/

/-- The table is what a list of calls leaves of a new one: it keeps names and paths in step, and
says how it goes on. -/
structure Tracks (t : ImportTable) (calls : List Text) : Prop where
  /-- A path has one name and a name is that of one path, whichever way the table is read. -/
  inverse : ∀ path name, t.names.get? path = some name ↔ t.paths.get? name = some path
  /-- There are as many names as paths. -/
  size_eq : t.paths.size = t.names.size
  /-- A name is free when no path goes by it. -/
  taken_iff : ∀ name, t.taken name = true ↔ ∃ path, t.names.get? path = some name
  /-- The paths of the table are those of the calls. -/
  keys_eq : t.names.keys = sortDistinct calls
  /-- Another call for a path finds its name and changes nothing. -/
  again : ∀ path name, t.names.get? path = some name → t.localName path = (name, t)
  /-- A name lasts, whatever is called later. -/
  lasts : ∀ path name later, t.names.get? path = some name →
    (t.register later).names.get? path = some name
  /-- A call for another path gives it a name, on both sides of the table. -/
  names_next : ∀ path, path ∉ calls →
    (t.localName path).2.names = t.names.insert path (t.localName path).1
  paths_next : ∀ path, path ∉ calls →
    (t.localName path).2.paths = t.paths.insert (t.localName path).1 path
  /-- When the path has segments they make the name. -/
  next : ∀ path, path ∉ calls → segments path ≠ [] → t.NewName path (t.localName path).1
  /-- There is one line for each path, and it tells the path and the name. -/
  lines_eq : t.lines.map ImportLine.parts = t.names.entries

/-- **A table tracks the calls that filled it, and their order does not matter for what is
imported.** -/
theorem tracks_register (calls : List Text) :
    (({} : ImportTable).register calls).Tracks calls ∧ ∀ calls', calls'.Perm calls →
      (({} : ImportTable).register calls').names.keys =
        (({} : ImportTable).register calls).names.keys := by
  have hContains : ∀ calls key,
      (({} : ImportTable).register calls).names.contains key = true ↔ key ∈ calls := by
    intro calls key
    rw [contains_register, or_iff_left]
    exact Bool.false_ne_true
  have hKeys : ∀ calls, (({} : ImportTable).register calls).names.keys = sortDistinct calls :=
    fun calls => TextMap.keys_eq_sortDistinct (hContains calls)
  have hSound : (({} : ImportTable).register calls).Sound := sound_empty.register calls
  have hNone : ∀ path, path ∉ calls →
      (({} : ImportTable).register calls).names.get? path = none := by
    intro path hNew
    exact Option.not_isSome_iff_eq_none.1 fun hSome => hNew ((hContains calls path).1 hSome)
  refine ⟨⟨hSound.inverse, hSound.size_paths, fun _ => hSound.taken_iff, hKeys calls,
    fun path name => localName_of_get?, fun path name later => within_register _ later path name,
    fun path hNew => names_localName (hNone path hNew),
    fun path hNew => paths_localName (hNone path hNew),
    fun path hNew hSegments => ?_, hSound.map_parts_lines⟩, fun calls' hPerm => ?_⟩
  · rw [localName_of_get?_none (hNone path hNew)]
    exact newName_freshName _ hSegments
  · rw [hKeys, hKeys]
    refine (pairwise_sortDistinct calls').eq_of_mem_iff (pairwise_sortDistinct calls) fun path => ?_
    rw [mem_sortDistinct, mem_sortDistinct, hPerm.mem_iff]

/-- Two packages that end alike. -/
def versionCalls : List Text := ["a/v1", "b/a/v1"]

/-- The next path has one segment, which the second package goes by already, so it gets a number. -/
theorem tracks_register_versionCalls :
    (({} : ImportTable).register versionCalls).NewName "av1" "av12" ∧
      (({} : ImportTable).register versionCalls.reverse).names.keys =
        (({} : ImportTable).register versionCalls).names.keys := by
  obtain ⟨hTracks, hOrder⟩ := tracks_register versionCalls
  have hName : ((({} : ImportTable).register versionCalls).localName "av1").1 = "av12" := by
    decide +kernel
  have hNext := hTracks.next "av1" (by decide) (by decide)
  rw [hName] at hNext
  exact ⟨hNext, hOrder versionCalls.reverse versionCalls.reverse_perm⟩

end ImportTable

end RestScaffold
