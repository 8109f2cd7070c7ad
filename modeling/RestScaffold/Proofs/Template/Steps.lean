import Mathlib.Data.List.Sort
import RestScaffold.Proofs.Checks
import RestScaffold.Template.Parse

/-!
# Templates read action by action

A reader that calls itself for the body of each range nests its results as the ranges are nested. To
say which texts are templates it is easier to go through the tokens once, with a list of the open
ranges, and to look at the steps that the tokens say. This module has that reader of steps, and shows
that both readers find the same errors and the same block.

* `readSteps` and `Block.ofSteps`: the steps of the tokens, and the block that is put together from
  them, with `Block.ofSteps_toSteps` for the way back;
* `Block.readSteps_eq`: the steps that are read behind open ranges, by what the innermost run is read
  as;
* `Block.ofText_eq`: a text is read as the block of its steps;
* `Template.ofText_eq`: the keys that are recorded are those of the block.
-/

namespace RestScaffold

open Text

/-- A token with its action read. -/
inductive Step where
  | text (content : Text)
  | emit (expression : Expression) (line : Nat)
  | enter (key : KeyRef) (line : Nat)
  | leave
  deriving DecidableEq

/-- Reads the actions of a list of tokens. `opened` has the lines of the ranges that are open, the
innermost first. -/
def readSteps (opened : List Nat) : List Token → Except TemplateError (List Step)
  | [] =>
    match opened with
    | [] => .ok []
    | line :: _ => .error (.flaw line .unclosedRange)
  | .text content :: tokens => (readSteps opened tokens).map (.text content :: ·)
  | .action content line :: tokens =>
    match Action.ofText content with
    | .leave =>
      match opened with
      | [] => .error (.flaw line .strayEnd)
      | _ :: outer => (readSteps outer tokens).map (.leave :: ·)
    | .enter key =>
      if maxRangeDepth ≤ opened.length then .error (.nestingTooDeep line maxRangeDepth)
      else
        match KeyRef.ofText line key with
        | .error e => .error e
        | .ok key => (readSteps (line :: opened) tokens).map (.enter key line :: ·)
    | .emit source =>
      match Expression.ofText line source with
      | .error e => .error e
      | .ok e => (readSteps opened tokens).map (.emit e line :: ·)

namespace Block

/-! ## Blocks as steps -/

/-- The steps of a block. -/
def toSteps : Block → List Step
  | done => []
  | text content rest => .text content :: rest.toSteps
  | emit e line rest => .emit e line :: rest.toSteps
  | range key line body rest => .enter key line :: (body.toSteps ++ .leave :: rest.toSteps)

theorem toSteps_range_append (key : KeyRef) (line : Nat) (body rest : Block) (steps : List Step) :
    (range key line body rest).toSteps ++ steps =
      .enter key line :: (body.toSteps ++ .leave :: (rest.toSteps ++ steps)) := by
  rw [toSteps, List.cons_append, List.append_assoc, List.cons_append]

/-- The block in front of the first unmatched `leave`, and those between the further ones. -/
def ofStepsStack : List Step → Block × List Block
  | [] => (done, [])
  | .text content :: steps =>
    let (block, outer) := ofStepsStack steps
    (text content block, outer)
  | .emit e line :: steps =>
    let (block, outer) := ofStepsStack steps
    (emit e line block, outer)
  | .leave :: steps =>
    let (block, outer) := ofStepsStack steps
    (done, block :: outer)
  | .enter key line :: steps =>
    match ofStepsStack steps with
    | (body, rest :: outer) => (range key line body rest, outer)
    | (body, []) => (range key line body done, [])

/-- The block of a list of balanced steps. -/
def ofSteps (steps : List Step) : Block := (ofStepsStack steps).1

/-- The steps of a block are put together as this block, up to the end of the range around it. -/
theorem ofStepsStack_toSteps (b : Block) (steps : List Step) (h : (ofStepsStack steps).1 = done) :
    ofStepsStack (b.toSteps ++ steps) = (b, (ofStepsStack steps).2) := by
  induction b generalizing steps with
  | done => exact Prod.ext h rfl
  | text content rest ih => rw [toSteps, List.cons_append, ofStepsStack, ih steps h]
  | emit e line rest ih => rw [toSteps, List.cons_append, ofStepsStack, ih steps h]
  | range key line body rest ihBody ihRest =>
    have hBody := ihBody (.leave :: (rest.toSteps ++ steps)) rfl
    rw [toSteps_range_append, ofStepsStack, hBody, ofStepsStack, ihRest steps h]

/-- **A block is put together from its steps.** -/
theorem ofSteps_toSteps (b : Block) : ofSteps b.toSteps = b := by
  have hStack := b.ofStepsStack_toSteps [] rfl
  rw [List.append_nil] at hStack
  rw [ofSteps, hStack]

/-! ## Both readers -/

/-- The steps behind open ranges when the innermost run is read: those of the run, then its end and
what is read behind that, if there is a range that it is the body of. -/
def Reading.steps {tokens : List Token} (opened : List Nat) (run : Reading tokens) :
    Except TemplateError (List Step) :=
  match opened with
  | [] => .ok run.block.toSteps
  | _ :: outer => (readSteps outer run.left).map (run.block.toSteps ++ .leave :: ·)

theorem Reading.steps_append {tokens tokens' : List Token} {opened : List Nat}
    {run : Reading tokens} {run' : Reading tokens'} (front : List Step)
    (hSteps : run'.block.toSteps = front ++ run.block.toSteps) (hLeft : run'.left = run.left) :
    (run.steps opened).map (front ++ ·) = run'.steps opened := by
  cases opened with
  | nil => exact congrArg Except.ok hSteps.symm
  | cons line outer =>
    simp only [steps, map_map, hSteps, hLeft, List.append_assoc]

theorem readSteps_of_enter {opened : List Nat} {tokens : List Token} {content target : Text}
    {line : Nat} {key : KeyRef} (hAction : Action.ofText content = .enter target)
    (hRoom : ¬ maxRangeDepth ≤ opened.length) (hKey : KeyRef.ofText line target = .ok key) :
    readSteps opened (.action content line :: tokens) =
      (readSteps (line :: opened) tokens).map (.enter key line :: ·) := by
  simp only [readSteps, hAction, hKey]
  exact if_neg hRoom

/-- **The steps behind open ranges are those of the runs.** Both readers stop at the same errors. -/
theorem readSteps_eq {depth : Nat} {openedAt : Option Nat} (keys : List Text) (tokens : List Token)
    {opened : List Nat} (hDepth : depth = opened.length) (hOpen : openedAt = opened.head?) :
    readSteps opened tokens =
      (read depth openedAt keys tokens).bind fun run => run.steps opened := by
  fun_induction read depth openedAt keys tokens generalizing opened with
  | case1 depth keys line =>
    cases opened with
    | nil => cases hOpen
    | cons _ outer =>
      obtain rfl := Option.some.inj hOpen
      rfl
  | case2 depth keys =>
    cases opened with
    | nil => rfl
    | cons line outer => cases hOpen
  | case3 depth openedAt keys content tokens e hRest ih =>
    rw [readSteps, ih hDepth hOpen, hRest]
    rfl
  | case4 depth openedAt keys content tokens rest hRest ih =>
    rw [readSteps, ih hDepth hOpen, hRest]
    exact Reading.steps_append [_] rfl rfl
  | case5 depth keys content line tokens hAction _ =>
    cases opened with
    | nil => cases hOpen
    | cons _ outer =>
      simp only [readSteps, hAction]
      rfl
  | case6 depth keys content line tokens hAction =>
    cases opened with
    | nil =>
      simp only [readSteps, hAction]
      rfl
    | cons line outer => cases hOpen
  | case7 depth openedAt keys content line tokens target hAction hDeep =>
    simp only [readSteps, hAction]
    exact if_pos (hDepth ▸ Nat.lt_succ_iff.1 hDeep)
  | case8 depth openedAt keys content line tokens target hAction hRoom e hKey =>
    simp only [readSteps, hAction, hKey]
    exact if_neg (hDepth ▸ mt Nat.lt_succ_iff.2 hRoom)
  | case9 depth openedAt keys content line tokens target hAction hRoom key hKey e hBody ih =>
    rw [readSteps_of_enter hAction (hDepth ▸ mt Nat.lt_succ_iff.2 hRoom) hKey,
      @ih (line :: opened) (congrArg Nat.succ hDepth) rfl, hBody]
    rfl
  | case10 depth openedAt keys content line tokens target hAction hRoom key hKey body hBody _ e
      hRest ihBody ihRest =>
    rw [readSteps_of_enter hAction (hDepth ▸ mt Nat.lt_succ_iff.2 hRoom) hKey,
      @ihBody (line :: opened) (congrArg Nat.succ hDepth) rfl, hBody]
    show ((readSteps opened body.left).map _).map _ = _
    rw [ihRest hDepth hOpen, hRest]
    rfl
  | case11 depth openedAt keys content line tokens target hAction hRoom key hKey body hBody _
      rest hRest ihBody ihRest =>
    rw [readSteps_of_enter hAction (hDepth ▸ mt Nat.lt_succ_iff.2 hRoom) hKey,
      @ihBody (line :: opened) (congrArg Nat.succ hDepth) rfl, hBody]
    show ((readSteps opened body.left).map (body.block.toSteps ++ .leave :: ·)).map _ = _
    rw [ihRest hDepth hOpen, hRest, map_map]
    refine (congrArg (rest.steps opened).map (funext fun steps => ?_)).trans
      (Reading.steps_append (.enter key line :: body.block.toSteps ++ [.leave]) ?_ rfl)
    · rw [List.append_assoc]
      rfl
    · rw [toSteps, List.append_assoc]
      rfl
  | case12 depth openedAt keys content line tokens source hAction e hExpression =>
    simp only [readSteps, hAction, hExpression]
    rfl
  | case13 depth openedAt keys content line tokens source hAction e hExpression e' hRest ih =>
    simp only [readSteps, hAction, hExpression]
    rw [ih hDepth hOpen, hRest]
    rfl
  | case14 depth openedAt keys content line tokens source hAction e hExpression rest hRest ih =>
    simp only [readSteps, hAction, hExpression]
    rw [ih hDepth hOpen, hRest]
    exact Reading.steps_append [_] rfl rfl

/-- **A text is read as the block of its steps.** -/
theorem ofText_eq (d : Delimiters) (s : Text) : ofText d s =
    match Token.ofText d s with
    | .error e => .error e
    | .ok tokens => (readSteps [] tokens).map ofSteps := by
  rw [ofText, Template.ofText]
  cases Token.ofText d s with
  | error e => rfl
  | ok tokens =>
    have hSteps : readSteps [] tokens = (read 0 none [] tokens).bind fun run => run.steps [] :=
      readSteps_eq [] tokens rfl rfl
    dsimp only
    rw [hSteps, map_map]
    cases read 0 none [] tokens with
    | error e => rfl
    | ok run => exact congrArg Except.ok run.block.ofSteps_toSteps.symm

/-! ## Recorded keys -/

theorem record_eq (key : KeyRef) (keys : List Text) :
    key.record keys = (namedKeys.ofRef key).foldl (fun keys name => insertSorted name keys) keys := by
  cases key <;> rfl

/-- **Reading a run records its named keys** one after the other. -/
theorem keys_eq_of_read {depth : Nat} {openedAt : Option Nat} {keys : List Text} {tokens : List Token}
    {run : Reading tokens} (h : read depth openedAt keys tokens = .ok run) :
    run.keys = run.block.namedKeys.foldl (fun keys name => insertSorted name keys) keys := by
  fun_induction read depth openedAt keys tokens with
  | case1 | case3 | case6 | case7 | case8 | case9 | case10 | case12 | case13 => cases h
  | case2 | case5 =>
    obtain rfl := Except.ok.inj h
    rfl
  | case4 depth openedAt keys content tokens rest hRest ih =>
    obtain rfl := Except.ok.inj h
    exact ih hRest
  | case11 depth openedAt keys content line tokens target hAction hRoom key hKey body hBody _
      rest hRest ihBody ihRest =>
    obtain rfl := Except.ok.inj h
    rw [namedKeys, List.foldl_append, List.foldl_append, ← record_eq, ← ihBody hBody]
    exact ihRest hRest
  | case14 depth openedAt keys content line tokens source hAction e hExpression rest hRest ih =>
    obtain rfl := Except.ok.inj h
    rw [namedKeys, List.foldl_append, ← record_eq]
    exact ih hRest

end Block

/-- Names that are put into a list one after the other are sorted and there once. -/
theorem foldl_insertSorted (names : List Text) :
    names.foldl (fun keys name => insertSorted name keys) [] = sortDistinct names := by
  rw [← names.reverse_reverse, List.foldl_reverse, List.reverse_reverse]
  refine (pairwise_sortDistinct names.reverse).eq_of_mem_iff (pairwise_sortDistinct names) ?_
  intro name
  rw [mem_sortDistinct, mem_sortDistinct, List.mem_reverse]

/-- **The keys that are recorded on the way are those of the block.** -/
theorem Template.ofText_eq (d : Delimiters) (s : Text) :
    ofText d s = (Block.ofText d s).map fun b => ⟨b, b.keys⟩ := by
  rw [Block.ofText, ofText]
  cases Token.ofText d s with
  | error e => rfl
  | ok tokens =>
    dsimp only
    cases hRead : Block.read 0 none [] tokens with
    | error e => rfl
    | ok run =>
      have hKeys : run.keys = run.block.keys := by
        rw [Block.keys_eq_of_read hRead, foldl_insertSorted]
        rfl
      exact congrArg (fun keys => Except.ok (Template.mk run.block keys)) hKeys

end RestScaffold
