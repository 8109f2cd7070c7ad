import RestScaffold.Proofs.Template.Atoms

/-!
# Ranges in the text of a template

A range over a sequence writes what its body writes for each element, one after the other. This
module says so for the text between `$range …$` and `$end$`: the body is what this text is read as by
itself, and the renderings for the elements share one import table, so that later elements are
written with the local names that earlier ones have got.

* `KeyRef.entersRange_named`: the action that begins a range for an identifier;
* `Block.written_range`: the text of a range has the atoms of the range;
* `Block.render_inner_range`: a range in the body of another one;
* `Block.range_expands`: the text of a range is rendered element by element.
-/

namespace RestScaffold

open Text

/-- The text of a range for a name, around the text of its body. -/
def rangeText (name body : Text) : Text := "$range " ++ name ++ "$" ++ body ++ "$end$"

/-- An identifier behind the word `range` begins a range for it. -/
theorem KeyRef.entersRange_named {name : Text} (h : isIdentifier name = true) :
    EntersRange (.named name) (trim ("range " ++ name)) := by
  have hSolid : Solid name := solid_of_not_blank fun _ hc =>
    isBlank_of_isKeyRest (isKeyRest_of_mem h hc)
  have hNe : name ≠ [] := by
    rintro rfl
    exact absurd h (by decide)
  have hAction : Solid ("range " ++ name) := solid_append rfl hSolid hNe
  rw [hAction.trim_eq]
  exact ⟨' ', name, rfl, by decide, h, Or.inl hSolid.trim_eq⟩

namespace Block

/-- **The text of a range has the atoms of the range.** -/
theorem written_range {name text : Text} {body : Block} (hName : isIdentifier name = true)
    (hBody : Written text body.atoms) :
    Written (rangeText name text) (range (.named name) 0 body done).atoms := by
  have hEnter : '$' ∉ ("range " ++ name : Text) := by
    rw [List.mem_append, not_or]
    exact ⟨by decide, not_mem_identifier hName (by decide)⟩
  have hLeave : Written (delimited printedEnd) [.leave] :=
    .ofAction (by decide) (show trim printedEnd = "end" by decide)
  have hOpen : ("$range " : Text) = "$" ++ "range " := by decide
  have hClose : ("$end$" : Text) = "$" ++ "end" ++ "$" := by decide
  have hText : rangeText name text =
      delimited ("range " ++ name) ++ (text ++ delimited printedEnd) := by
    unfold rangeText delimited printedEnd
    rw [hOpen, hClose]
    simp only [List.append_assoc]
  rw [hText, atoms_range]
  exact .action hEnter ⟨rfl, KeyRef.entersRange_named hName⟩ (hBody.append hLeave)

section Render

variable (scope : NameScope) {vars : Bindings} {name : Text} {items : List Declaration}

/-- A range over a sequence is its body for each element, whatever the element around it is. -/
theorem render_range_of_types (h : vars.get? name = some (.types items)) (line : Nat)
    (body rest : Block) (current : Option Declaration) :
    (range (.named name) line body rest).render scope vars current =
      .append (.concat (items.map fun item => body.render scope vars (some item)))
        (rest.render scope vars current) := by
  simp only [render, KeyRef.lookup, h]

/-- **A range in a body has its own elements, and the one of the body is back behind it.** -/
theorem render_inner_range (h : vars.get? name = some (.types items)) (front inner back : Block)
    (line : Nat) (item : Declaration) :
    (front.append (range (.named name) line inner back)).render scope vars (some item) =
      .append (front.render scope vars (some item))
        (.append (.concat (items.map fun other => inner.render scope vars (some other)))
          (back.render scope vars (some item))) := by
  rw [render_append, render_range_of_types scope h]

end Render

/-- **The text of a range is rendered element by element.** Let a text be read as a body without
ranges in ranges, and a name be bound to a sequence. The text of a range for the name around this
text does to every import table what the body does for the elements one after the other: it writes
their texts, or stops with their first error, and leaves the table that they leave. A range inside
the body has elements of its own, and the element of the body is back behind it; and a range without
elements writes nothing, whatever stands in it. -/
theorem range_expands {name text : Text} {body : Block} {items : List Declaration}
    {vars : Bindings} (hName : isIdentifier name = true) (hBody : ofText .dollar text = .ok body)
    (hDepth : body.depth ≤ 1) (hBound : vars.get? name = some (.types items)) (scope : NameScope) :
    renderText .dollar scope vars (rangeText name text) =
      .concat (items.map fun item => body.render scope vars (some item)) ∧
    (∀ (front inner back : Block) (key : Text) (line : Nat) (others : List Declaration)
      (item : Declaration), body = front.append (.range (.named key) line inner back) →
      vars.get? key = some (.types others) →
      body.render scope vars (some item) = .append (front.render scope vars (some item))
        (.append (.concat (others.map fun other => inner.render scope vars (some other)))
          (back.render scope vars (some item)))) ∧
    (items = [] → ∀ t, renderText .dollar scope vars (rangeText name text) t = (.ok [], t)) := by
  have hRange : renderText .dollar scope vars (rangeText name text) =
      .concat (items.map fun item => body.render scope vars (some item)) := by
    have hRoom : (range (.named name) 0 body done).depth ≤ maxRangeDepth :=
      Nat.max_le.2 ⟨Nat.succ_le_succ hDepth, Nat.zero_le _⟩
    rw [renderText_of_written (written_range hName (written_of_ofText hBody)) hRoom,
      render_range_of_types scope hBound]
    exact Rendering.append_nothing _
  refine ⟨hRange, ?_, ?_⟩
  · rintro front inner back key line others item rfl hOthers
    exact render_inner_range scope hOthers front inner back line item
  · rintro rfl t
    rw [hRange]
    rfl

/-- Two types of different packages, and a sequence without types. -/
def listedTypes : Bindings := TextMap.ofList [("none", .types []),
  ("types", .types [{ name := ⟨"a/v1", "Pod"⟩ }, { name := ⟨"b/v1", "Node"⟩ }])]

/-- A body that lists all types between two raw names of its own type. -/
def listingText : Text := "$.|raw$:$range types$$.|private$,$end$$.|raw$;"

/-- In a range over two types the body writes each of them in front of the list and behind it, by the
local name of its package, and in a range over no types it writes nothing. -/
theorem range_expands_listed :
    isIdentifier "types" = true ∧ isIdentifier "none" = true ∧
    (∃ body, ofText .dollar listingText = .ok body ∧ body.depth ≤ 1) ∧
    listedTypes.get? "none" = some (.types []) ∧
    (∃ items, listedTypes.get? "types" = some (.types items) ∧ items.length = 2) ∧
    (renderText .dollar ⟨"out", TextMap.empty⟩ listedTypes (rangeText "types" listingText) {}).1 =
      .ok "v1.Pod:pod,node,v1.Pod;bv1.Node:pod,node,bv1.Node;" ∧
    ∀ t, renderText .dollar ⟨"out", TextMap.empty⟩ listedTypes (rangeText "none" listingText) t =
      (.ok [], t) := by
  have hBody : ofText .dollar listingText = .ok (.emit ⟨.current, some "raw"⟩ 1 (.text ":"
      (.range (.named "types") 1 (.emit ⟨.current, some "private"⟩ 1 (.text "," .done))
        (.emit ⟨.current, some "raw"⟩ 1 (.text ";" .done))))) := by decide +kernel
  have hNone : listedTypes.get? "none" = some (.types []) := by decide +kernel
  have hTypes : listedTypes.get? "types" = some (.types [{ name := ⟨"a/v1", "Pod"⟩ },
      { name := ⟨"b/v1", "Node"⟩ }]) := by decide +kernel
  obtain ⟨hExpands, -, -⟩ :=
    range_expands (by decide) hBody (by decide) hTypes ⟨"out", TextMap.empty⟩
  obtain ⟨-, -, hEmpty⟩ :=
    range_expands (by decide) hBody (by decide) hNone ⟨"out", TextMap.empty⟩
  refine ⟨by decide, by decide, ⟨_, hBody, by decide⟩, hNone, ⟨_, hTypes, rfl⟩, ?_, hEmpty rfl⟩
  rw [hExpands]
  decide +kernel

end Block

end RestScaffold
