import HermOS.Uffd.EventOrder
import Mathlib.Data.Set.Card

/-!
# The number of copied pages

`copied_pages` grows with every copy which is not refused.  Besides the copies which install a page
these are the copies to a page which another fault has populated before, answered with `EEXIST`.
-/

namespace HermOS
namespace Uffd

/-- Pages which copies have installed. -/
def installs (trace : List LoopLabel) : List UInt64 :=
  trace.filterMap fun
    | .serve _ page (.ok _) => some page
    | _ => none

/-- Pages which copies have found populated. -/
def collisions (trace : List LoopLabel) : List UInt64 :=
  trace.filterMap fun
    | .serve _ page (.copyFailed _) => some page
    | _ => none

/-- No `Remove` event has become readable. -/
def RemoveFree (trace : List LoopLabel) : Prop :=
  ∀ start stop, .arrive (.remove start stop) ∉ trace

def UffdHandler.guestPages (handler : UffdHandler) : Set UInt64 :=
  {page | clearBelow page handler.pageSize = page ∧ handler.regionOf page ≠ none}

@[simp]
theorem installs_append (front back : List LoopLabel) :
    installs (front ++ back) = installs front ++ installs back :=
  List.filterMap_append

@[simp]
theorem collisions_append (front back : List LoopLabel) :
    collisions (front ++ back) = collisions front ++ collisions back :=
  List.filterMap_append

/-- What the count and the pages amount to. -/
structure Tallied (handler : UffdHandler) (trace : List LoopLabel) (state : LoopState) : Prop where
  counted : state.copiedPages = (installs trace).length + (collisions trace).length
  printed : ∀ value, .print value ∈ trace → state.pc = .exited ∧ state.copiedPages = value
  removed : RemoveFree trace → state.removed = []
  populated : RemoveFree trace → ∀ page, state.populated page = true ↔ page ∈ installs trace
  once : RemoveFree trace → (installs trace).Nodup
  guest : ∀ page ∈ installs trace, page ∈ handler.guestPages

variable {handler : UffdHandler}

theorem tallied_init {state : LoopState} (initial : (eventLoop handler).Initial state) :
    Tallied handler [] state := by
  obtain ⟨_, _, _, copied, populated, removed, _⟩ := initial
  constructor <;> simp [copied, populated, removed, installs, collisions]

theorem RemoveFree.front {front back : List LoopLabel} (free : RemoveFree (front ++ back)) :
    RemoveFree front := fun start stop inside =>
  free start stop (List.mem_append_left back inside)

/-- A label other than a copy or the print. -/
def LoopLabel.uncounted : LoopLabel → Bool
  | .serve _ _ _ | .print _ => false
  | _ => true

theorem Tallied.uncounted {trace : List LoopLabel} {before after : LoopState} {label : LoopLabel}
    (tallied : Tallied handler trace before) (uncounted : label.uncounted = true)
    (copied : after.copiedPages = before.copiedPages)
    (exited : before.pc = .exited → after.pc = .exited)
    (removed : RemoveFree (trace ++ [label]) → after.removed = before.removed)
    (populated : RemoveFree (trace ++ [label]) → after.populated = before.populated) :
    Tallied handler (trace ++ [label]) after := by
  have no_install : installs [label] = [] := by cases label <;> first | rfl | cases uncounted
  have no_collision : collisions [label] = [] := by cases label <;> first | rfl | cases uncounted
  obtain ⟨counted, printed, empty, present, once, guest⟩ := tallied
  constructor
  · simpa [no_install, no_collision, copied] using counted
  · intro value inside
    rcases List.mem_append.mp inside with old | new
    · exact ⟨exited (printed value old).1, copied.trans (printed value old).2⟩
    · rw [← List.mem_singleton.mp new] at uncounted
      cases uncounted
  · intro free
    rw [removed free]
    exact empty free.front
  · intro free
    rw [populated free]
    simpa [no_install] using present free.front
  · intro free
    simpa [no_install] using once free.front
  · simpa [no_install] using guest

theorem clearBelow_clearBelow (handler : UffdHandler) (addr : UInt64) :
    clearBelow (clearBelow addr handler.pageSize) handler.pageSize =
      clearBelow addr handler.pageSize := by
  apply UInt64.toNat.inj
  rw [clearBelow_toNat handler.powerOfTwo, clearBelow_toNat handler.powerOfTwo,
    Nat.mul_div_cancel _ (Nat.pos_of_isPowerOfTwo handler.powerOfTwo)]

theorem Tallied.serve {trace : List LoopLabel} {state : LoopState}
    (tallied : Tallied handler trace state) {event : ReadEvent} {rest : List ReadEvent}
    {addr : UInt64} {answer : CopyAnswer} {populated : UInt64 → Bool} {served : Bool}
    (running : state.pc ≠ .exited)
    (found : handler.regionOf (clearBelow addr handler.pageSize) ≠ none)
    (answered : KernelCopy state.populated (clearBelow addr handler.pageSize) answer populated)
    (result : copyFromPtr answer = some served) :
    Tallied handler (trace ++ [.serve event (clearBelow addr handler.pageSize) answer])
      ({ state with populated, pc := .handling rest }.afterCopy event served) := by
  obtain ⟨counted, printed, empty, present, once, guest⟩ := tallied
  have not_printed : ∀ value,
      .print value ∉ trace ++ [.serve event (clearBelow addr handler.pageSize) answer] := by
    intro value inside
    rcases List.mem_append.mp inside with old | new
    · exact running (printed value old).1
    · cases List.mem_singleton.mp new
  cases answered with
  | @install bytes absent copied =>
      have this_install : ∀ page,
          installs [LoopLabel.serve event page (.ok bytes)] = [page] := fun _ => rfl
      have no_collision : ∀ page,
          collisions [LoopLabel.serve event page (.ok bytes)] = [] := fun _ => rfl
      obtain rfl : true = served := by simpa [copyFromPtr, copied] using result
      constructor
      · simp [LoopState.afterCopy, this_install, no_collision, counted]
        omega
      · exact fun value inside => absurd inside (not_printed value)
      · exact fun free => empty free.front
      · intro free page
        rw [installs_append, this_install, List.mem_append, List.mem_singleton]
        by_cases same : page = clearBelow addr handler.pageSize
        · simp [LoopState.afterCopy, same]
        · simpa [LoopState.afterCopy, same] using present free.front page
      · intro free
        rw [installs_append, this_install, List.nodup_append]
        refine ⟨once free.front, List.nodup_singleton _, ?_⟩
        rintro page old other new rfl
        rw [List.mem_singleton.mp new, ← present free.front, absent] at old
        cases old
      · intro page inside
        rw [installs_append, this_install, List.mem_append, List.mem_singleton] at inside
        rcases inside with old | rfl
        · exact guest page old
        · exact ⟨clearBelow_clearBelow handler addr, found⟩
  | present there =>
      have no_install : ∀ page,
          installs [LoopLabel.serve event page (.copyFailed EEXIST)] = [] := fun _ => rfl
      have this_collision : ∀ page,
          collisions [LoopLabel.serve event page (.copyFailed EEXIST)] = [page] := fun _ => rfl
      obtain rfl : true = served := by simpa [copyFromPtr] using result
      constructor
      · simp [LoopState.afterCopy, no_install, this_collision, counted]
        omega
      · exact fun value inside => absurd inside (not_printed value)
      · exact fun free => empty free.front
      · intro free page
        simpa [LoopState.afterCopy, no_install] using present free.front page
      · intro free
        simpa [no_install] using once free.front
      · simpa [no_install] using guest
  | @refused bytes again =>
      have no_install : ∀ page,
          installs [LoopLabel.serve event page (.partiallyCopied bytes)] = [] := fun _ => rfl
      have no_collision : ∀ page,
          collisions [LoopLabel.serve event page (.partiallyCopied bytes)] = [] := fun _ => rfl
      have refuses : copyFromPtr (.partiallyCopied bytes) = some false := if_pos again
      obtain rfl : false = served := Option.some.inj (refuses.symm.trans result)
      constructor
      · simpa [LoopState.afterCopy, no_install, no_collision] using counted
      · exact fun value inside => absurd inside (not_printed value)
      · exact fun free => empty free.front
      · intro free page
        simpa [LoopState.afterCopy, no_install] using present free.front page
      · intro free
        simpa [no_install] using once free.front
      · simpa [no_install] using guest

theorem Tallied.print {trace : List LoopLabel} {state : LoopState}
    (tallied : Tallied handler trace state) :
    Tallied handler (trace ++ [.print state.copiedPages]) { state with pc := .exited } := by
  obtain ⟨counted, printed, empty, present, once, guest⟩ := tallied
  constructor
  · simpa [installs, collisions] using counted
  · intro value inside
    rcases List.mem_append.mp inside with old | new
    · exact ⟨rfl, (printed value old).2⟩
    · cases List.mem_singleton.mp new
      exact ⟨rfl, rfl⟩
  · exact fun free => empty free.front
  · intro free
    simpa [installs] using present free.front
  · intro free
    simpa [installs] using once free.front
  · simpa [installs] using guest

/-- Any other step of the closure. -/
theorem Tallied.move {trace : List LoopLabel} {before after : LoopState} {label : LoopLabel}
    (tallied : Tallied handler trace before) (uncounted : label.uncounted = true)
    (running : before.pc ≠ .exited) (copied : after.copiedPages = before.copiedPages)
    (removed : after.removed = before.removed) (populated : after.populated = before.populated) :
    Tallied handler (trace ++ [label]) after :=
  tallied.uncounted uncounted copied (fun exited => absurd exited running) (fun _ => removed)
    fun _ => populated

theorem tallied_step {trace : List LoopLabel} {before after : LoopState} {label : LoopLabel}
    (tallied : Tallied handler trace before) (step : LoopStep handler before label after) :
    Tallied handler (trace ++ [label]) after := by
  cases step with
  | arriveFault addr running =>
      exact tallied.uncounted rfl rfl id (fun _ => rfl) fun _ => rfl
  | arriveRemove start stop running =>
      have unfree : ¬ RemoveFree (trace ++ [.arrive (.remove start stop)]) := fun free =>
        free start stop (by simp)
      exact tallied.uncounted rfl rfl id (fun free => absurd free unfree) fun _ => rfl
  | zap ranged inside =>
      refine tallied.uncounted rfl rfl id (fun _ => rfl) fun free => ?_
      rw [tallied.removed free.front] at ranged
      cases ranged
  | serve at_pc found answered result =>
      exact tallied.serve (by simp [at_pc]) found answered result
  | print at_pc => exact tallied.print
  | dispatch at_pc => exact tallied.move rfl (by simp [at_pc]) rfl rfl rfl
  | drain at_pc => exact tallied.move rfl (by simp [at_pc]) rfl rfl rfl
  | read at_pc head => exact tallied.move rfl (by simp [at_pc]) rfl rfl rfl
  | quiet at_pc empty => exact tallied.move rfl (by simp [at_pc]) rfl rfl rfl
  | unregister at_pc valid => exact tallied.move rfl (by simp [at_pc]) rfl rfl rfl
  | again at_pc left => exact tallied.move rfl (by simp [at_pc]) rfl rfl rfl
  | leave at_pc none_left => exact tallied.move rfl (by simp [at_pc]) rfl rfl rfl

theorem tallied_run {trace : List LoopLabel} {state : LoopState}
    (run : (eventLoop handler).Run trace state) : Tallied handler trace state := by
  obtain ⟨initial, start, path⟩ := run
  exact path.invariant_trace (Tallied handler) tallied_step (tallied_init start)

instance finiteUInt64 : Finite UInt64 :=
  Finite.of_injective UInt64.toFin fun _ _ => UInt64.toFin_inj.mp

/-- Pages which are installed once each are no more than there are. -/
theorem length_le_guestPages {pages : List UInt64} (once : pages.Nodup)
    (guest : ∀ page ∈ pages, page ∈ handler.guestPages) :
    pages.length ≤ handler.guestPages.ncard := by
  have inside : (pages.toFinset : Set UInt64) ⊆ handler.guestPages := fun page member =>
    guest page (List.mem_toFinset.mp member)
  have bound := Set.ncard_le_ncard inside (Set.toFinite _)
  rwa [Set.ncard_coe_finset, List.toFinset_card_of_nodup once] at bound

/-- The printed count is the number of installed pages, and without `Remove` events at most the
number of guest pages. -/
def CountsInstalls (handler : UffdHandler) (trace : List LoopLabel) (value : ℕ) : Prop :=
  value = (installs trace).length ∧ (RemoveFree trace → value ≤ handler.guestPages.ncard)

/-- The printed count is right exactly if no copy has found its page populated. -/
theorem copiedPages_countsInstalls {trace : List LoopLabel} {state : LoopState} {value : ℕ}
    (run : (eventLoop handler).Run trace state) (printed : .print value ∈ trace) :
    CountsInstalls handler trace value ↔ collisions trace = [] := by
  have tallied := tallied_run run
  have total := (tallied.printed value printed).2.symm.trans tallied.counted
  constructor
  · rintro ⟨right, _⟩
    exact List.eq_nil_of_length_eq_zero (by omega)
  · intro free
    rw [free, List.length_nil, Nat.add_zero] at total
    refine ⟨total, fun unremoved => ?_⟩
    rw [total]
    exact length_le_guestPages (tallied.once unremoved) tallied.guest

/-! ### Two faults on one page -/

/-- One fault, whose copy is refused once. -/
def singleTrace : List LoopLabel :=
  sampleTrace ++ [.print 1]

/-- Two vCPUs fault on one page before it is populated. -/
def doubleTrace : List LoopLabel :=
  [.arrive (.pagefault 0x1abc), .arrive (.pagefault 0x1abc), .dispatch, .drain,
    .read ⟨0, .pagefault 0x1abc⟩, .read ⟨1, .pagefault 0x1abc⟩, .quiet,
    .serve ⟨0, .pagefault 0x1abc⟩ 0x1000 (.ok 0x1000),
    .serve ⟨1, .pagefault 0x1abc⟩ 0x1000 (.copyFailed EEXIST), .leave, .print 2]

theorem singleTrace_run : ∃ state, (eventLoop sampleHandler).Run singleTrace state := by
  refine ⟨_, sampleStart, ⟨rfl, rfl, rfl, rfl, rfl, rfl, rfl⟩,
    .cons (.arriveFault 0x1abc (by decide)) <| .cons (.dispatch rfl) <|
    .cons (.drain rfl) <| .cons (.read rfl rfl) <| .cons (.quiet rfl rfl) <|
    .cons (.serve rfl (by decide) (.refused (.inl rfl)) rfl) <|
    .cons (.again rfl (by decide)) <| .cons (.drain rfl) <| .cons (.quiet rfl rfl) <|
    .cons (.serve rfl (by decide) (.install rfl (by decide)) rfl) <|
    .cons (.leave rfl rfl) <| .cons (.print rfl) <| .nil _⟩

theorem copiedPages_countsInstalls_single :
    CountsInstalls sampleHandler singleTrace 1 ↔ collisions singleTrace = [] := by
  obtain ⟨state, run⟩ := singleTrace_run
  exact copiedPages_countsInstalls run (by decide)

/-- Both faults are counted, the page is installed once, and the guest has one page. -/
theorem not_countsInstalls_double :
    (∃ state, (eventLoop sampleHandler).Run doubleTrace state) ∧
      .print 2 ∈ doubleTrace ∧ ¬ CountsInstalls sampleHandler doubleTrace 2 := by
  refine ⟨⟨_, sampleStart, ⟨rfl, rfl, rfl, rfl, rfl, rfl, rfl⟩,
    .cons (.arriveFault 0x1abc (by decide)) <| .cons (.arriveFault 0x1abc (by decide)) <|
    .cons (.dispatch rfl) <| .cons (.drain rfl) <| .cons (.read rfl rfl) <|
    .cons (.read rfl rfl) <| .cons (.quiet rfl rfl) <|
    .cons (.serve rfl (by decide) (.install rfl (by decide)) rfl) <|
    .cons (.serve rfl (by decide) (.present rfl) rfl) <|
    .cons (.leave rfl rfl) <| .cons (.print rfl) <| .nil _⟩, by decide, ?_⟩
  rintro ⟨right, _⟩
  exact absurd right (by decide)

end Uffd
end HermOS
