import HermOS.Library.FallibleFold
import HermOS.Replay.Patch

/-!
# The grammar of patches

A patch is a body between two fixed lines.  Each line of the body opens an operation, moves an
update or belongs to the operation which is open; no line is more than one of these.  `parse_patch`
accepts exactly the texts of this grammar.
-/

namespace HermOS
namespace Replay

open Python (Text)

/-- What a line of a patch stands in. -/
inductive Place
  | outside
  | updateHeader
  | update
  | add

/-- Where the header of an operation leads. -/
def opened (line : Text) : Place :=
  if Python.startsWith updateFile line then .updateHeader
  else if Python.startsWith addFile line then .add
  else .outside

/-- A line inside an update: the end of file mark, a hunk header, or a context, added or deleted
line. -/
def UpdateLine (line : Text) : Prop :=
  line = endOfFileMark ∨ Python.startsWith "@@".toList line = true ∨
    ∃ text, line = ' ' :: text ∨ line = '+' :: text ∨ line = '-' :: text

def AddLine (line : Text) : Prop :=
  line = endOfFileMark ∨ ∃ text, line = '+' :: text

/-- A line and where it leads. -/
inductive LineStep : Place → Text → Place → Prop
  | opens {place : Place} {line : Text} (header : startsOp line = true) :
      LineStep place line (opened line)
  | moves {line : Text} (header : Python.startsWith moveToHeader line = true) :
      LineStep .updateHeader line .update
  | updates {place : Place} {line : Text} (inside : place = .updateHeader ∨ place = .update)
      (body : UpdateLine line) : LineStep place line .update
  | adds {line : Text} (body : AddLine line) : LineStep .add line .add

/-- Lines between the first and the last one of a patch. -/
inductive PatchBody : Place → List Text → Prop
  | nil (place : Place) : PatchBody place []
  | cons {place next : Place} {line : Text} {lines : List Text} :
      LineStep place line next → PatchBody next lines → PatchBody place (line :: lines)

def PatchText (patch : Text) : Prop :=
  ∃ body, Python.splitLines patch = beginPatch :: body ++ [endPatch] ∧ PatchBody .outside body

/-! ### Headers and other lines -/

/-- Two words neither of which starts with the other do not both start a line. -/
theorem startsWith_exclusive {first second line : Text} (apart : ¬ first <+: second)
    (apart' : ¬ second <+: first) (starts : Python.startsWith first line = true) :
    Python.startsWith second line = false := by
  rw [Bool.eq_false_iff]
  intro also
  have front := Python.startsWith_iff.mp starts
  rcases List.prefix_or_prefix_of_prefix front (Python.startsWith_iff.mp also) with below | below
  · exact apart below
  · exact apart' below

theorem startsOp_moveTo {line : Text} (moves : Python.startsWith moveToHeader line = true) :
    startsOp line = false := by
  unfold startsOp
  rw [startsWith_exclusive (by decide) (by decide) moves,
    startsWith_exclusive (by decide) (by decide) moves,
    startsWith_exclusive (by decide) (by decide) moves]
  rfl

theorem startsWith_head {start text : Text} {c d : Char} (head : start.head? = some d)
    (other : c ≠ d) : Python.startsWith start (c :: text) = false := by
  rw [Bool.eq_false_iff]
  intro starts
  obtain ⟨rest, same⟩ := Python.startsWith_iff.mp starts
  cases start with
  | nil => cases head
  | cons first start =>
      cases same
      exact other (Option.some.inj head)

/-- The header of an operation starts with a star. -/
theorem startsOp_cons {c : Char} {text : Text} (other : c ≠ '*') :
    startsOp (c :: text) = false := by
  unfold startsOp
  rw [startsWith_head (d := '*') rfl other, startsWith_head (d := '*') rfl other,
    startsWith_head (d := '*') rfl other]
  rfl

theorem startsOp_addLine {line : Text} (body : AddLine line) : startsOp line = false := by
  rcases body with rfl | ⟨text, rfl⟩
  · decide
  · exact startsOp_cons (by decide)

theorem startsOp_updateLine {line : Text} (body : UpdateLine line) : startsOp line = false := by
  rcases body with rfl | hunk | ⟨text, rfl | rfl | rfl⟩
  · decide
  · obtain ⟨rest, rfl⟩ := Python.startsWith_iff.mp hunk
    exact startsOp_cons (by decide)
  all_goals exact startsOp_cons (by decide)

theorem moveTo_cons {c : Char} {text : Text} (other : c ≠ '*') :
    Python.startsWith moveToHeader (c :: text) = false :=
  startsWith_head (d := '*') rfl other

theorem moveTo_updateLine {line : Text} (body : UpdateLine line) :
    Python.startsWith moveToHeader line = false := by
  rcases body with rfl | hunk | ⟨text, rfl | rfl | rfl⟩
  · decide
  · obtain ⟨rest, rfl⟩ := Python.startsWith_iff.mp hunk
    exact moveTo_cons (by decide)
  all_goals exact moveTo_cons (by decide)

theorem moveTo_addLine {line : Text} (body : AddLine line) :
    Python.startsWith moveToHeader line = false := by
  rcases body with rfl | ⟨text, rfl⟩
  · decide
  · exact moveTo_cons (by decide)

/-! ### Accepted texts -/

/-- Where the parser is. -/
def Pending.place : Pending → Place
  | .outside => .outside
  | .updateHeader _ => .updateHeader
  | .update _ => .update
  | .add _ => .add

theorem updateLine_ok_iff {op : UpdateOp} {line : Text} :
    (∃ after, updateLine op line = .ok after) ↔ UpdateLine line := by
  unfold updateLine UpdateLine
  split
  next mark => simp [mark]
  next other =>
    split
    next hunk => exact ⟨fun _ => .inr (.inl hunk), fun _ => ⟨_, rfl⟩⟩
    next plain =>
      split
      all_goals simp_all

theorem addLine_ok_iff {op : AddOp} {line : Text} :
    (∃ after, addLine op line = .ok after) ↔ AddLine line := by
  unfold addLine AddLine
  split
  next mark => simp [mark]
  next other =>
    split
    all_goals simp_all

theorem startOp_place {line : Text} (header : startsOp line = true) :
    ∃ next, startOp line = .ok next ∧ next.2.place = opened line := by
  unfold startOp opened
  by_cases update : Python.startsWith updateFile line = true
  · rw [if_pos update, if_pos update]
    exact ⟨_, rfl, rfl⟩
  · rw [if_neg update, if_neg update]
    by_cases add : Python.startsWith addFile line = true
    · rw [if_pos add, if_pos add]
      exact ⟨_, rfl, rfl⟩
    · have delete : Python.startsWith deleteFile line = true := by
        simpa [startsOp, update, add] using header
      rw [if_neg add, if_neg add, if_pos delete]
      exact ⟨_, rfl, rfl⟩

theorem startOp_ok {line : Text} {next : List Op × Pending} (started : startOp line = .ok next) :
    startsOp line = true := by
  unfold startOp at started
  unfold startsOp
  split at started
  next update => simp [update]
  next =>
    split at started
    next add => simp [add]
    next =>
      split at started
      next delete => simp [delete]
      next => cases started

/-- A line of a body, or of the next operation. -/
theorem continueOp_place {pending : Pending} {body : Except ParseError Pending} {line : Text}
    {next : List Op × Pending} (accepted : continueOp pending body line = .ok next) :
    startsOp line = true ∧ next.2.place = opened line ∨ body = .ok next.2 := by
  unfold continueOp at accepted
  split at accepted
  next header =>
    obtain ⟨started, start, accepted⟩ := FallibleFold.bind_ok accepted
    cases accepted
    obtain ⟨known, start_known, place⟩ := startOp_place header
    obtain rfl : known = started := Except.ok.inj (start_known.symm.trans start)
    exact .inl ⟨header, place⟩
  next =>
    obtain ⟨after, body_ok, accepted⟩ := FallibleFold.bind_ok accepted
    cases accepted
    exact .inr body_ok

/-- The header of an operation ends the one before it. -/
theorem parseLine_header {pending : Pending} {next : List Op × Pending} {line : Text}
    (header : startsOp line = true) (start : startOp line = .ok next) :
    parseLine pending line = .ok (pending.finish ++ next.1, next.2) := by
  have ended : ∀ body, continueOp pending body line = .ok (pending.finish ++ next.1, next.2) := by
    intro body
    rw [continueOp, if_pos header, start]
    rfl
  cases pending with
  | outside => exact start
  | updateHeader op =>
      have other : Python.startsWith moveToHeader line ≠ true := by
        intro moves
        simp [startsOp_moveTo moves] at header
      rw [parseLine, if_neg other]
      exact ended _
  | update op => exact ended _
  | add op => exact ended _

theorem continueOp_body {pending after : Pending} {body : Except ParseError Pending} {line : Text}
    (inside : startsOp line = false) (accepted : body = .ok after) :
    continueOp pending body line = .ok ([], after) := by
  rw [continueOp, if_neg (by simp [inside]), accepted]
  rfl

/-- An accepted line is a step of the grammar. -/
theorem parseLine_step {pending : Pending} {line : Text} {next : List Op × Pending}
    (accepted : parseLine pending line = .ok next) :
    LineStep pending.place line next.2.place := by
  have updated : ∀ op place, place = .updateHeader ∨ place = .update →
      (updateLine op line).map Pending.update = .ok next.2 →
        LineStep place line next.2.place := by
    intro op place inside body
    obtain ⟨after, body_ok, same⟩ := FallibleFold.map_ok body
    rw [← same]
    exact .updates inside (updateLine_ok_iff.mp ⟨after, body_ok⟩)
  cases pending with
  | outside =>
      have header := startOp_ok accepted
      obtain ⟨known, start, place⟩ := startOp_place header
      obtain rfl : known = next := Except.ok.inj (start.symm.trans accepted)
      rw [place]
      exact .opens header
  | updateHeader op =>
      rw [parseLine] at accepted
      split at accepted
      next header =>
        cases accepted
        exact .moves header
      next =>
        rcases continueOp_place accepted with ⟨header, place⟩ | body
        · rw [place]
          exact .opens header
        · exact updated op _ (.inl rfl) body
  | update op =>
      rcases continueOp_place accepted with ⟨header, place⟩ | body
      · rw [place]
        exact .opens header
      · exact updated op _ (.inr rfl) body
  | add op =>
      rcases continueOp_place accepted with ⟨header, place⟩ | body
      · rw [place]
        exact .opens header
      · obtain ⟨after, body_ok, same⟩ := FallibleFold.map_ok body
        rw [← same]
        exact .adds (addLine_ok_iff.mp ⟨after, body_ok⟩)

/-- A step of the grammar is accepted. -/
theorem parseLine_of_step {pending : Pending} {line : Text} {place : Place}
    (step : LineStep pending.place line place) :
    ∃ next, parseLine pending line = .ok next ∧ next.2.place = place := by
  generalize here : pending.place = start at step
  cases step with
  | opens header =>
      obtain ⟨next, start, place⟩ := startOp_place header
      exact ⟨_, parseLine_header header start, place⟩
  | moves header =>
      cases pending with
      | updateHeader op =>
          rw [parseLine, if_pos header]
          exact ⟨_, rfl, rfl⟩
      | outside => cases here
      | update op => cases here
      | add op => cases here
  | updates inside body =>
      have plain := startsOp_updateLine body
      cases pending with
      | updateHeader op =>
          obtain ⟨after, body_ok⟩ := (@updateLine_ok_iff op line).mpr body
          rw [parseLine]
          split
          next => exact ⟨_, rfl, rfl⟩
          next => exact ⟨_, continueOp_body plain (by rw [body_ok]; rfl), rfl⟩
      | update op =>
          obtain ⟨after, body_ok⟩ := (@updateLine_ok_iff op line).mpr body
          exact ⟨_, continueOp_body plain (by rw [body_ok]; rfl), rfl⟩
      | outside => rcases inside with rfl | rfl <;> cases here
      | add op => rcases inside with rfl | rfl <;> cases here
  | adds body =>
      cases pending with
      | add op =>
          obtain ⟨after, body_ok⟩ := (@addLine_ok_iff op line).mpr body
          exact ⟨_, continueOp_body (startsOp_addLine body) (by rw [body_ok]; rfl), rfl⟩
      | outside => cases here
      | updateHeader op => cases here
      | update op => cases here

/-- The body of the loop over the lines. -/
def advance (parsed : List Op × Pending) (line : Text) : Except ParseError (List Op × Pending) := do
  let next ← parseLine parsed.2 line
  return (parsed.1 ++ next.1, next.2)

theorem advance_ok {parsed after : List Op × Pending} {line : Text}
    (step : advance parsed line = .ok after) :
    ∃ next, parseLine parsed.2 line = .ok next ∧ after = (parsed.1 ++ next.1, next.2) := by
  obtain ⟨next, line_ok, step⟩ := FallibleFold.bind_ok step
  exact ⟨next, line_ok, (Except.ok.inj step).symm⟩

theorem advance_of_parseLine {parsed next : List Op × Pending} {line : Text}
    (accepted : parseLine parsed.2 line = .ok next) :
    advance parsed line = .ok (parsed.1 ++ next.1, next.2) := by
  rw [advance, accepted]
  rfl

/-- The loop over the lines accepts the bodies of the grammar. -/
theorem parseBody_iff (lines : List Text) (parsed : List Op × Pending) :
    (∃ after, lines.foldlM advance parsed = .ok after) ↔ PatchBody parsed.2.place lines := by
  induction lines generalizing parsed with
  | nil => exact ⟨fun _ => .nil _, fun _ => ⟨parsed, rfl⟩⟩
  | cons line lines ih =>
      rw [List.foldlM_cons]
      constructor
      · rintro ⟨after, ended⟩
        obtain ⟨middle, step, ended⟩ := FallibleFold.bind_ok ended
        obtain ⟨next, line_ok, rfl⟩ := advance_ok step
        exact .cons (parseLine_step line_ok) ((ih (parsed.1 ++ next.1, next.2)).mp ⟨after, ended⟩)
      · rintro (_ | ⟨step, rest⟩)
        obtain ⟨next, line_ok, rfl⟩ := parseLine_of_step step
        obtain ⟨after, ended⟩ := (ih (parsed.1 ++ next.1, next.2)).mpr rest
        refine ⟨after, ?_⟩
        rw [advance_of_parseLine line_ok]
        exact ended

/-- Lines between a first and a last one which differ. -/
theorem framed {lines : List Text} {first last : Text} (apart : first ≠ last)
    (starts : lines.head? = some first) (ends : lines.getLast? = some last) :
    lines = first :: (lines.drop 1).dropLast ++ [last] := by
  cases lines with
  | nil => cases starts
  | cons line rest =>
      obtain rfl : line = first := Option.some.inj starts
      rcases List.eq_nil_or_concat rest with rfl | ⟨body, line', rfl⟩
      · exact absurd (Option.some.inj ends) apart
      · rw [List.concat_eq_append] at ends ⊢
        obtain rfl : line' = last := by simpa [List.getLast?_cons] using ends
        simp

theorem parsePatch_ok {patch : Text} {ops : List Op} (accepted : parsePatch patch = .ok ops) :
    ∃ body parsed, Python.splitLines patch = beginPatch :: body ++ [endPatch] ∧
      body.foldlM advance ([], .outside) = .ok parsed ∧
      ops = parsed.1 ++ parsed.2.finish := by
  unfold parsePatch at accepted
  simp only at accepted
  split at accepted
  next => cases accepted
  next first =>
    split at accepted
    next => cases accepted
    next last =>
      obtain ⟨parsed, loop, accepted⟩ := FallibleFold.bind_ok accepted
      cases accepted
      rw [not_not] at first last
      exact ⟨_, parsed, framed (by decide) first last, loop, rfl⟩

/-- The operations of a body between the two lines. -/
theorem parsePatch_of_body {patch : Text} {body : List Text} {parsed : List Op × Pending}
    (whole : Python.splitLines patch = beginPatch :: body ++ [endPatch])
    (loop : body.foldlM advance ([], .outside) = .ok parsed) :
    parsePatch patch = .ok (parsed.1 ++ parsed.2.finish) := by
  have first : (beginPatch :: body ++ [endPatch]).head? = some beginPatch := rfl
  have last : (beginPatch :: body ++ [endPatch]).getLast? = some endPatch :=
    List.getLast?_concat
  have between : ((beginPatch :: body ++ [endPatch]).drop 1).dropLast = body :=
    List.dropLast_concat
  unfold parsePatch
  simp only [whole]
  rw [if_neg (not_not.mpr first), if_neg (not_not.mpr last), between]
  change body.foldlM advance ([], .outside) >>= _ = _
  rw [loop]
  rfl

theorem parsePatch_ok_iff (patch : Text) :
    (∃ ops, parsePatch patch = .ok ops) ↔ PatchText patch := by
  constructor
  · rintro ⟨ops, accepted⟩
    obtain ⟨body, parsed, whole, loop, _⟩ := parsePatch_ok accepted
    exact ⟨body, whole, (parseBody_iff _ ([], .outside)).mp ⟨parsed, loop⟩⟩
  · rintro ⟨body, whole, grammar⟩
    obtain ⟨parsed, loop⟩ := (parseBody_iff body ([], .outside)).mpr grammar
    exact ⟨_, parsePatch_of_body whole loop⟩

/-! ### Properties of the operations -/

/-- What holds of an operation when it is opened, and is kept by the lines of a patch which belong
to it. -/
structure Kept (patch : Text) (Holds : Op → Prop) : Prop where
  opens : ∀ line ∈ Python.splitLines patch, ∀ started, startOp line = .ok started →
    ∀ op ∈ started.1 ++ started.2.finish, Holds op
  moves : ∀ line ∈ Python.splitLines patch, ∀ op, Holds (.update op) →
    Python.startsWith moveToHeader line = true →
      Holds (.update { op with moveTo := some (pathAfter moveToHeader line) })
  updates : ∀ line ∈ Python.splitLines patch, ∀ op after, Holds (.update op) →
    updateLine op line = .ok after → Holds (.update after)
  adds : ∀ line ∈ Python.splitLines patch, ∀ op after, Holds (.add op) →
    addLine op line = .ok after → Holds (.add after)

theorem Kept.continueOp {patch : Text} {Holds : Op → Prop} (kept : Kept patch Holds)
    {pending : Pending} {body : Except ParseError Pending} {line : Text}
    {next : List Op × Pending} (member : line ∈ Python.splitLines patch)
    (before : ∀ op ∈ pending.finish, Holds op)
    (inside : ∀ after, body = .ok after → ∀ op ∈ after.finish, Holds op)
    (accepted : continueOp pending body line = .ok next) :
    ∀ op ∈ next.1 ++ next.2.finish, Holds op := by
  unfold Replay.continueOp at accepted
  split at accepted
  next =>
    obtain ⟨started, start, accepted⟩ := FallibleFold.bind_ok accepted
    cases accepted
    rw [List.append_assoc]
    exact List.forall_mem_append.mpr ⟨before, kept.opens line member started start⟩
  next =>
    obtain ⟨after, body_ok, accepted⟩ := FallibleFold.bind_ok accepted
    cases accepted
    exact inside after body_ok

theorem Kept.parseLine {patch : Text} {Holds : Op → Prop} (kept : Kept patch Holds)
    {pending : Pending} {line : Text} {next : List Op × Pending}
    (member : line ∈ Python.splitLines patch) (before : ∀ op ∈ pending.finish, Holds op)
    (accepted : parseLine pending line = .ok next) :
    ∀ op ∈ next.1 ++ next.2.finish, Holds op := by
  have updated : ∀ op, Holds (.update op) → ∀ after,
      (updateLine op line).map Pending.update = .ok after → ∀ op ∈ after.finish, Holds op := by
    intro op holds after body
    obtain ⟨op', body_ok, rfl⟩ := FallibleFold.map_ok body
    exact List.forall_mem_singleton.mpr (kept.updates line member op op' holds body_ok)
  cases pending with
  | outside => exact kept.opens line member next accepted
  | updateHeader op =>
      have holds := before (.update op) (List.mem_singleton_self _)
      rw [Replay.parseLine] at accepted
      split at accepted
      next header =>
        cases accepted
        exact List.forall_mem_singleton.mpr (kept.moves line member op holds header)
      next => exact kept.continueOp member before (updated op holds) accepted
  | update op =>
      have holds := before (.update op) (List.mem_singleton_self _)
      exact kept.continueOp member before (updated op holds) accepted
  | add op =>
      refine kept.continueOp member before ?_ accepted
      intro after body
      obtain ⟨op', body_ok, rfl⟩ := FallibleFold.map_ok body
      have holds := before (.add op) (List.mem_singleton_self _)
      exact List.forall_mem_singleton.mpr (kept.adds line member op op' holds body_ok)

/-- A property which is kept holds of the operations of an accepted patch. -/
theorem Kept.parsePatch {patch : Text} {Holds : Op → Prop} (kept : Kept patch Holds)
    {ops : List Op} (accepted : parsePatch patch = .ok ops) : ∀ op ∈ ops, Holds op := by
  obtain ⟨body, parsed, whole, loop, rfl⟩ := parsePatch_ok accepted
  refine FallibleFold.invariant
    (fun _ parsed => ∀ op ∈ parsed.1 ++ parsed.2.finish, Holds op) ?_ ?_ loop
  · intro past line rest before after split_body holds step
    obtain ⟨next, line_ok, rfl⟩ := advance_ok step
    have member : line ∈ Python.splitLines patch := by
      rw [whole, split_body]
      simp
    obtain ⟨done, pending⟩ := List.forall_mem_append.mp holds
    rw [List.append_assoc]
    exact List.forall_mem_append.mpr ⟨done, kept.parseLine member pending line_ok⟩
  · exact fun op inside => by cases inside

/-! ### Accepted patches -/

/-- Every line of the blocks is a line. -/
def Lines (blocks : List Block) : Prop :=
  ∀ block ∈ blocks, ∀ line ∈ block.lines, Python.Unbroken line

theorem lines_nil : Lines [] :=
  fun _ member => by cases member

/-- What `parse_patch` guarantees of an operation. -/
def Op.WellFormed : Op → Prop
  | .update op => ∀ hunk ∈ op.hunks, Lines hunk.blocks
  | .add op => Lines op.blocks ∧ ∀ block ∈ op.blocks, block.kind = .add
  | .delete _ => True

theorem mem_appendBlock {blocks : List Block} {kind : BlockKind} {text : Text} {block : Block}
    (inside : block ∈ appendBlock blocks kind text) :
    block ∈ blocks ∨ block.kind = kind ∧ ∀ line ∈ block.lines,
      line = text ∨ ∃ old ∈ blocks, line ∈ old.lines := by
  unfold appendBlock at inside
  split at inside
  next last found =>
    have member := List.mem_of_getLast? found
    split at inside
    next same =>
      rcases List.mem_append.mp inside with old | new
      · exact .inl (List.dropLast_subset _ old)
      · rw [List.mem_singleton] at new
        subst new
        refine .inr ⟨rfl, fun line here => ?_⟩
        rcases List.mem_append.mp here with old | new
        · exact .inr ⟨last, member, old⟩
        · exact .inl (List.mem_singleton.mp new)
    next other =>
      rcases List.mem_append.mp inside with old | new
      · exact .inl old
      · rw [List.mem_singleton] at new
        subst new
        exact .inr ⟨rfl, fun line here => .inl (List.mem_singleton.mp here)⟩
  next =>
    rw [List.mem_singleton] at inside
    subst inside
    exact .inr ⟨rfl, fun line here => .inl (List.mem_singleton.mp here)⟩

theorem lines_appendBlock {blocks : List Block} {kind : BlockKind} {text : Text}
    (lines : Lines blocks) (line : Python.Unbroken text) :
    Lines (appendBlock blocks kind text) := by
  intro block inside other here
  rcases mem_appendBlock inside with old | ⟨_, new⟩
  · exact lines block old other here
  · rcases new other here with rfl | ⟨old, member, here⟩
    · exact line
    · exact lines old member other here

theorem lines_appendHunkLine {hunks : List Hunk} {kind : BlockKind} {text : Text}
    (lines : ∀ hunk ∈ hunks, Lines hunk.blocks) (line : Python.Unbroken text) :
    ∀ hunk ∈ appendHunkLine hunks kind text, Lines hunk.blocks := by
  intro hunk inside
  unfold appendHunkLine at inside
  split at inside
  next current found =>
    rcases List.mem_append.mp inside with old | new
    · exact lines hunk (List.dropLast_subset _ old)
    · rw [List.mem_singleton] at new
      subst new
      exact lines_appendBlock (lines current (List.mem_of_getLast? found)) line
  next =>
    rw [List.mem_singleton] at inside
    subst inside
    exact lines_appendBlock lines_nil line

theorem unbroken_tail {c : Char} {text : Text} (line : Python.Unbroken (c :: text)) :
    Python.Unbroken text :=
  fun d inside => line d (List.mem_cons_of_mem c inside)

theorem updateLine_wellFormed {op after : UpdateOp} {line : Text}
    (wellFormed : (Op.update op).WellFormed) (unbroken : Python.Unbroken line)
    (accepted : updateLine op line = .ok after) : (Op.update after).WellFormed := by
  unfold updateLine at accepted
  split at accepted
  next =>
    cases accepted
    exact wellFormed
  next =>
    split at accepted
    next =>
      cases accepted
      intro hunk inside
      rcases List.mem_append.mp inside with old | new
      · exact wellFormed hunk old
      · rw [List.mem_singleton] at new
        subst new
        exact lines_nil
    next =>
      split at accepted <;> cases accepted
      all_goals exact lines_appendHunkLine wellFormed (unbroken_tail unbroken)

theorem addLine_wellFormed {op after : AddOp} {line : Text} (wellFormed : (Op.add op).WellFormed)
    (unbroken : Python.Unbroken line) (accepted : addLine op line = .ok after) :
    (Op.add after).WellFormed := by
  unfold addLine at accepted
  split at accepted
  next =>
    cases accepted
    exact wellFormed
  next =>
    split at accepted <;> cases accepted
    refine ⟨lines_appendBlock wellFormed.1 (unbroken_tail unbroken), fun block inside => ?_⟩
    rcases mem_appendBlock inside with old | ⟨kind, _⟩
    · exact wellFormed.2 block old
    · exact kind

theorem startOp_wellFormed {line : Text} {started : List Op × Pending}
    (accepted : startOp line = .ok started) :
    ∀ op ∈ started.1 ++ started.2.finish, op.WellFormed := by
  unfold startOp at accepted
  split at accepted
  next =>
    cases accepted
    simp [Pending.finish, Op.WellFormed]
  next =>
    split at accepted
    next =>
      cases accepted
      simp [Pending.finish, Op.WellFormed, Lines]
    next =>
      split at accepted <;> cases accepted
      simp [Pending.finish, Op.WellFormed]

theorem kept_wellFormed (patch : Text) : Kept patch Op.WellFormed where
  opens _ _ _ accepted := startOp_wellFormed accepted
  moves _ _ _ wellFormed _ := wellFormed
  updates line member _ _ wellFormed accepted :=
    updateLine_wellFormed wellFormed (Python.unbroken_splitLines patch line member) accepted
  adds line member _ _ wellFormed accepted :=
    addLine_wellFormed wellFormed (Python.unbroken_splitLines patch line member) accepted

/-- Whatever `parse_patch` accepts is well formed. -/
theorem parsePatch_wellFormed {patch : Text} {ops : List Op}
    (accepted : parsePatch patch = .ok ops) :
    ∀ op ∈ ops, op.WellFormed :=
  (kept_wellFormed patch).parsePatch accepted

end Replay
end HermOS
