import HermOS.Snapshot.PrepareSnapshot

/-!
# Crash consistency of the snapshot directory

What a call knows of each file is tracked along its operations: the file is absent, stems from the
call or may be anything.  The tracking is sound for every operation, complete or not, and a
computation over the steps of `prepare_snapshot` shows that at each of them the directory is either
not ready or stems from the call alone.  What remains is the export of the two atlases, of which
only the second can be mistaken for complete.
-/

namespace HermOS
namespace Snapshot

/-! ### What a call knows of the files -/

/-- What a call knows of one file. -/
inductive Mark
  | unknown
  | absent
  /-- Absent, or from this call. -/
  | clean
  /-- From this call. -/
  | own
  /-- From this call and not empty. -/
  | full
  deriving DecidableEq

namespace Mark

/-- Meaning of a mark. -/
def Holds (call : ℕ) (mark : Mark) (file : Option File) : Prop :=
  match mark with
  | .unknown => True
  | .absent => file = none
  | .clean => file = none ∨ StemsFrom call file
  | .own => StemsFrom call file
  | .full => StemsFrom call file ∧ ∃ written, file = some written ∧ written.content ≠ []

/-- The mark while the call writes to the file. -/
def loosen : Mark → Mark
  | .unknown => .unknown
  | .absent | .clean => .clean
  | .own | .full => .own

/-- The mark of a file to which the call has written. -/
def settle : Mark → Mark
  | .unknown => .unknown
  | _ => .own

/-- The file is absent or from this call. -/
def mine : Mark → Bool
  | .unknown => false
  | _ => true

/-- The file is from this call. -/
def there : Mark → Bool
  | .own | .full => true
  | _ => false

variable {call : ℕ} {mark : Mark} {file : Option File} {content : Bytes}

theorem Holds.loosen (holds : mark.Holds call file) : mark.loosen.Holds call file := by
  cases mark with
  | unknown => exact trivial
  | absent => exact .inl holds
  | clean => exact holds
  | own => exact holds
  | full => exact holds.1

theorem Holds.mine (holds : mark.Holds call file) (mine : mark.mine = true) :
    file = none ∨ StemsFrom call file := by
  cases mark with
  | unknown => exact Bool.noConfusion mine
  | absent => exact .inl holds
  | clean => exact holds
  | own => exact .inr holds
  | full => exact .inr holds.1

theorem Holds.there (holds : mark.Holds call file) (there : mark.there = true) :
    StemsFrom call file := by
  cases mark with
  | own => exact holds
  | full => exact holds.1
  | _ => exact Bool.noConfusion there

theorem there_loosen (there : mark.there = true) : mark.loosen.there = true := by
  cases mark with
  | own => rfl
  | full => rfl
  | _ => exact Bool.noConfusion there

theorem stemsFrom_own : StemsFrom call (some ⟨content, [call]⟩) :=
  ⟨_, rfl, by simp, by simp⟩

theorem stemsFrom_cons {authors : List ℕ} (others : ∀ author ∈ authors, author = call) :
    StemsFrom call (some ⟨content, call :: authors⟩) :=
  ⟨_, rfl, by simp, by simpa using others⟩

theorem authors_of_mine (mine : file = none ∨ StemsFrom call file) :
    ∀ author ∈ authorsOf file, author = call := by
  rcases mine with rfl | ⟨written, rfl, _, authors⟩
  · simp [authorsOf]
  · exact authors

/-- A file written in place. -/
theorem Holds.written (holds : mark.loosen.Holds call file) :
    mark.loosen.Holds call (some ⟨content, call :: authorsOf file⟩) := by
  cases mark with
  | unknown => exact trivial
  | absent => exact .inr (stemsFrom_cons (authors_of_mine holds))
  | clean => exact .inr (stemsFrom_cons (authors_of_mine holds))
  | own => exact stemsFrom_cons (authors_of_mine (.inr holds))
  | full => exact stemsFrom_cons (authors_of_mine (.inr holds))

theorem Holds.settle (holds : mark.loosen.Holds call file) (exists_file : file.isSome = true) :
    mark.settle.Holds call file := by
  have present (clean : file = none ∨ StemsFrom call file) : StemsFrom call file := by
    rcases clean with rfl | stems
    · simp at exists_file
    · exact stems
  cases mark with
  | unknown => exact trivial
  | absent => exact present holds
  | clean => exact present holds
  | own => exact holds
  | full => exact holds

theorem holds_loosen_of_stems (stems : StemsFrom call file) : mark.loosen.Holds call file := by
  cases mark with
  | unknown => exact trivial
  | absent => exact .inr stems
  | clean => exact .inr stems
  | own => exact stems
  | full => exact stems

end Mark

/-- What a call knows of the files. -/
abbrev Known :=
  SnapshotFile → Mark

/-- The files are as the call knows them. -/
def Knows (call : ℕ) (known : Known) (files : Files) : Prop :=
  ∀ name, (known name).Holds call (files name)

/-- Files to which an operation writes before it is complete. -/
def Op.targets (op : Op) : List SnapshotFile :=
  match op with
  | .unlink _ | .replace _ _ => []
  | .command names => names
  | .cpRootfs target | .cp _ target | .writeText target _ => [target]
  | .exportAtlas drive => [drive.atlas]

/-- What the operation writes stems from the call; the atlases are not tracked. -/
def Op.derives (op : Op) (known : Known) : Bool :=
  match op with
  | .cp source _ => (known source).there
  | .exportAtlas _ => false
  | _ => true

/-- What is known while an operation is in progress. -/
def Op.during (op : Op) (known : Known) : Known := fun name =>
  if name ∈ op.targets then if op.derives known then (known name).loosen else .unknown
  else known name

def Op.after (op : Op) (known : Known) : Known := fun name =>
  match op with
  | .unlink target => if name = target then .absent else known name
  | .command names => if name ∈ names then (known name).settle else known name
  | .cpRootfs target => if name = target then .own else known name
  | .cp source target =>
      if name = target then if (known source).there then .own else .unknown else known name
  | .replace source target =>
      if name = target then known source else if name = source then .absent else known name
  | .writeText target text =>
      if name = target then if text = [] then .own else .full else known name
  | .exportAtlas drive => if name = drive.atlas then .unknown else known name

section Tracking

variable {rows : RowsByBlock} {call : ℕ} {op : Op} {known : Known} {before after : Files}

theorem Knows.begin (knows : Knows call known before) : Knows call (op.during known) before := by
  intro name
  have holds := knows name
  unfold Op.during
  split
  · split
    · exact holds.loosen
    · exact trivial
  · exact holds

/-- The source of a copy stems from the call, even if it is copied onto itself. -/
theorem Knows.source {source target : SnapshotFile} {file : File}
    (knows : Knows call (Op.during (.cp source target) known) before)
    (there : (known source).there = true) (read : before source = some file) :
    ∀ author ∈ file.authors, author = call := by
  have holds := knows source
  have stems : StemsFrom call (before source) := by
    unfold Op.during at holds
    split at holds
    · rw [if_pos (show Op.derives (.cp source target) known = true from there)] at holds
      exact holds.there (Mark.there_loosen there)
    · exact holds.there there
  obtain ⟨written, same, _, authors⟩ := stems
  rw [read] at same
  obtain rfl := Option.some.inj same
  exact authors

/-- An operation in progress writes to its targets only, and adds only this call's work. -/
theorem Op.Works.changes (knows : Knows call (op.during known) before)
    (works : op.Works rows call before after) (name : SnapshotFile) :
    after name = before name ∨ name ∈ op.targets ∧ (op.derives known = true →
      StemsFrom call (after name) ∨
        ∃ content, after name = some ⟨content, call :: authorsOf (before name)⟩) := by
  have updated {target : SnapshotFile} {file : Option File} (changed : after =
      Function.update before target file) (listed : target ∈ op.targets)
      (stems : op.derives known = true → StemsFrom call file) :
      after name = before name ∨ name ∈ op.targets ∧ (op.derives known = true →
        StemsFrom call (after name) ∨
          ∃ content, after name = some ⟨content, call :: authorsOf (before name)⟩) := by
    by_cases same : name = target
    · refine .inr ⟨same ▸ listed, fun derives => .inl ?_⟩
      rw [changed, same, Function.update_self]
      exact stems derives
    · left
      rw [changed, Function.update_of_ne same]
  cases op with
  | unlink _ => exact works.elim
  | replace _ _ => exact works.elim
  | command names =>
      rcases works name with same | ⟨listed, written⟩
      · exact .inl same
      · exact .inr ⟨listed, fun _ => .inr written⟩
  | cpRootfs target =>
      obtain ⟨part, changed⟩ := works
      exact updated changed List.mem_cons_self fun _ => Mark.stemsFrom_own
  | cp source target =>
      obtain ⟨file, part, read, changed⟩ := works
      exact updated changed List.mem_cons_self fun there =>
        Mark.stemsFrom_cons (knows.source there read)
  | writeText target text =>
      exact updated works List.mem_cons_self fun _ => Mark.stemsFrom_own
  | exportAtlas drive =>
      obtain ⟨image, part, _, _, changed⟩ := works
      exact updated changed List.mem_cons_self fun derives => Bool.noConfusion derives

theorem Knows.works (knows : Knows call (op.during known) before)
    (works : op.Works rows call before after) : Knows call (op.during known) after := by
  intro name
  have holds := knows name
  rcases works.changes knows name with same | ⟨listed, written⟩
  · rw [same]
    exact holds
  · unfold Op.during at holds ⊢
    rw [if_pos listed] at holds ⊢
    split
    · next derives =>
        rw [if_pos derives] at holds
        rcases written derives with stems | ⟨content, same⟩
        · exact Mark.holds_loosen_of_stems stems
        · rw [same]
          exact holds.written
    · exact trivial

/-- One file is replaced. -/
theorem Knows.update {earlier later : Known} (knows : Knows call earlier before)
    (target : SnapshotFile) {file : Option File} (holds : (later target).Holds call file)
    (others : ∀ name, name ≠ target → later name = earlier name) :
    Knows call later (Function.update before target file) := by
  intro name
  by_cases same : name = target
  · rw [same, Function.update_self]
    exact holds
  · rw [Function.update_of_ne same, others name same]
    exact knows name

theorem during_of_ne {name : SnapshotFile} (free : name ∉ op.targets) :
    op.during known name = known name :=
  if_neg free

theorem Knows.completes (knows : Knows call (op.during known) before)
    (completes : op.Completes rows call before after) : Knows call (op.after known) after := by
  cases op with
  | unlink target =>
      obtain rfl := completes
      apply knows.update target
      · simp [Op.after, Mark.Holds]
      · intro name apart
        simp [Op.after, apart, during_of_ne, Op.targets]
  | command names =>
      obtain ⟨changes, exist⟩ := completes
      intro name
      have works : Op.Works rows call (.command names) before after := changes
      have holds := knows.works works name
      unfold Op.during at holds
      by_cases listed : name ∈ names
      · rw [if_pos (show name ∈ Op.targets (.command names) from listed)] at holds
        have settled : Op.after (.command names) known name = (known name).settle := if_pos listed
        rw [settled]
        exact Mark.Holds.settle holds (exist name listed)
      · rw [if_neg (show name ∉ Op.targets (.command names) from listed)] at holds
        have same : Op.after (.command names) known name = known name := if_neg listed
        rw [same]
        exact holds
  | cpRootfs target =>
      obtain ⟨content, rfl⟩ := completes
      apply knows.update target
      · simpa [Op.after, Mark.Holds] using Mark.stemsFrom_own
      · intro name apart
        simp [Op.after, apart, during_of_ne, Op.targets]
  | cp source target =>
      obtain ⟨file, read, rfl⟩ := completes
      apply knows.update target
      · by_cases there : (known source).there = true
        · simpa [Op.after, there, Mark.Holds] using
            Mark.stemsFrom_cons (knows.source there read)
        · simp [Op.after, there, Mark.Holds]
      · intro name apart
        simp [Op.after, apart, during_of_ne, Op.targets]
  | replace source target =>
      obtain ⟨file, read, rfl⟩ := completes
      have moved := knows source
      rw [read] at moved
      have emptied : Knows call (fun name => if name = source then .absent else known name)
          (Function.update before source none) := by
        apply knows.update source
        · simp [Mark.Holds]
        · intro name apart
          simp [apart, during_of_ne, Op.targets]
      apply emptied.update target
      · simpa [Op.after, during_of_ne, Op.targets] using moved
      · intro name apart
        simp [Op.after, apart]
  | writeText target text =>
      obtain rfl := completes
      apply knows.update target
      · by_cases empty : text = []
        · simpa [Op.after, empty, Mark.Holds] using Mark.stemsFrom_own
        · simpa [Op.after, empty, Mark.Holds] using Mark.stemsFrom_own
      · intro name apart
        simp [Op.after, apart, during_of_ne, Op.targets]
  | exportAtlas drive =>
      obtain ⟨image, _, rfl⟩ := completes
      apply knows.update drive.atlas
      · simp [Op.after, Mark.Holds]
      · intro name apart
        simp [Op.after, apart, during_of_ne, Op.targets]

end Tracking

/-! ### The steps of a preparation -/

/-- A directory of which this is known is not ready, or it is ready by this call's work alone and
without an atlas of the workspace. -/
def Known.safe (known : Known) : Bool :=
  known .state = .absent || known .warmup = .absent ||
    preparedFiles.all (fun name => (known name).mine) && known .workspaceAtlas = .absent

/-- The files of a preparation are from this call, and its marker is written. -/
def Known.finished (known : Known) : Bool :=
  preparedFiles.all (fun name => (known name).there) && known .warmup = .full &&
    known .workspaceAtlas = .absent

/-- Operations which keep the directory safe and finish a preparation. -/
def verified (known : Known) : List Op → Bool
  | [] => known.finished
  | op :: ops => (op.during known).safe && verified (op.after known) ops

/-- The steps of `prepare_snapshot` after the first. -/
def laterSteps : List Op :=
  snapshotSteps.tail

theorem snapshotSteps_eq : snapshotSteps = .unlink .state :: laterSteps :=
  rfl

theorem verified_laterSteps :
    verified (Op.after (.unlink .state) fun _ => .unknown) laterSteps = true := by
  decide

section Directory

variable {rows : RowsByBlock} {call : ℕ} {known : Known} {files : Files}

theorem hasData_of_ready (ready : snapshotReady files = true) {name : SnapshotFile}
    (listed : name ∈ preparedFiles) : hasData files name = true := by
  simp only [snapshotReady, List.all_cons, List.all_nil, Bool.and_eq_true] at ready
  simp only [preparedFiles, List.mem_cons, List.not_mem_nil, or_false] at listed
  rcases listed with rfl | rfl | rfl | rfl | rfl | rfl | rfl <;> tauto

theorem hasData_absent {name : SnapshotFile} (absent : files name = none) :
    hasData files name = false := by
  simp [hasData, absent]

/-- What holds of the directory between two calls. -/
structure AtRest (rows : RowsByBlock) (files : Files) : Prop where
  prepared : snapshotReady files = true → ∃ call, Prepared files call
  atlases : snapshotReady files = true → hasData files .workspaceAtlas = true →
    ∀ drive, Exported rows files drive

theorem atRest_of_not_ready (unready : snapshotReady files = false) : AtRest rows files := by
  constructor <;> intro ready <;> rw [unready] at ready <;> exact Bool.noConfusion ready

theorem Knows.atRest (knows : Knows call known files) (safe : known.safe = true) :
    AtRest rows files := by
  by_cases ready : snapshotReady files = true
  · have absent {name : SnapshotFile} (listed : name ∈ preparedFiles)
        (mark : known name = .absent) : AtRest rows files := by
      have holds := knows name
      rw [mark] at holds
      have data := hasData_of_ready ready listed
      rw [hasData_absent holds] at data
      exact Bool.noConfusion data
    simp only [Known.safe, Bool.or_eq_true, Bool.and_eq_true, decide_eq_true_eq] at safe
    rcases safe with (state | warmup) | ⟨mine, no_atlas⟩
    · exact absent (by simp [preparedFiles]) state
    · exact absent (by simp [preparedFiles]) warmup
    · rw [List.all_eq_true] at mine
      have no_atlas : files .workspaceAtlas = none := by
        have holds := knows .workspaceAtlas
        rwa [no_atlas] at holds
      refine ⟨fun _ => ⟨call, hasData_of_ready ready (by simp [preparedFiles]), ?_⟩, ?_⟩
      · intro name listed
        rcases (knows name).mine (mine name listed) with missing | stems
        · have data := hasData_of_ready ready listed
          rw [hasData_absent missing] at data
          exact Bool.noConfusion data
        · exact stems
      · intro _ data
        rw [hasData_absent no_atlas] at data
        exact Bool.noConfusion data
  · exact atRest_of_not_ready (by simpa using ready)

theorem Knows.prepared (knows : Knows call known files) (finished : known.finished = true) :
    Prepared files call ∧ hasData files .workspaceAtlas = false := by
  simp only [Known.finished, Bool.and_eq_true, decide_eq_true_eq, List.all_eq_true] at finished
  obtain ⟨⟨there, marked⟩, no_atlas⟩ := finished
  have marker := knows .warmup
  rw [marked] at marker
  obtain ⟨_, written, same, nonempty⟩ := marker
  have atlas := knows .workspaceAtlas
  rw [no_atlas] at atlas
  refine ⟨⟨?_, fun name listed => (knows name).there (there name listed)⟩, hasData_absent atlas⟩
  simp [hasData, same, nonempty]

theorem exportedAtlas_ne_nil (drive : Drive) (image : Bytes) :
    exportedAtlas rows drive image ≠ [] := by
  have header : exportedAtlas rows drive image =
      Codec.utf8 (Csv.printRow ['\r', '\n'] atlasFieldnames) ++
        Codec.utf8 ((((rows drive image).mergeSort fun left right => left.1 ≤ right.1).map
          (·.2)).flatMap (Csv.printRow ['\r', '\n'])) := Codec.utf8_append
  have some_byte : Codec.utf8 (Csv.printRow ['\r', '\n'] atlasFieldnames) ≠ [] := by decide
  rw [header]
  exact fun empty => some_byte (List.append_eq_nil_iff.mp empty).1

theorem Exported.hasData {drive : Drive} (exported : Exported rows files drive) :
    hasData files drive.atlas = true := by
  obtain ⟨image, atlas, _, written, content⟩ := exported
  have nonempty : atlas.content ≠ [] := content ▸ exportedAtlas_ne_nil drive image.content
  simp [Snapshot.hasData, written, nonempty]

end Directory

/-! ### Histories of calls -/

section Histories

variable {rows : RowsByBlock} {state after : SnapshotState}

/-- Where a call is, and what holds of the directory there. -/
inductive Stage (rows : RowsByBlock) (state : SnapshotState) : Prop
  | resting : state.running = none → AtRest rows state.files → Stage rows state
  | starting : state.running = some (snapshotSteps ++ exportBlockAtlas) →
      snapshotReady state.files = false → Stage rows state
  | preparing (known : Known) (op : Op) (ops : List Op) :
      state.running = some (op :: ops ++ exportBlockAtlas) →
      Knows state.calls (op.during known) state.files → verified known (op :: ops) = true →
      Stage rows state
  | exportingRootfs (call : ℕ) : state.running = some exportBlockAtlas →
      Prepared state.files call → hasData state.files .workspaceAtlas = false → Stage rows state
  | exportingWorkspace (call : ℕ) : state.running = some [.exportAtlas .workspace] →
      Prepared state.files call → Exported rows state.files .rootfs → Stage rows state
  | exported (call : ℕ) : state.running = some [] → Prepared state.files call →
      (∀ drive, Exported rows state.files drive) → Stage rows state

/-- An atlas is no file of the preparation. -/
theorem Prepared.update_atlas {files : Files} {call : ℕ} (prepared : Prepared files call)
    (drive : Drive) (atlas : Option File) :
    Prepared (Function.update files drive.atlas atlas) call := by
  have apart : ∀ name ∈ preparedFiles, name ≠ drive.atlas := by
    cases drive <;> decide
  refine ⟨?_, ?_⟩
  · have same : Function.update files drive.atlas atlas .warmup = files .warmup :=
      Function.update_of_ne (apart .warmup (by decide)) ..
    simp only [hasData, same]
    exact prepared.1
  · intro name listed
    rw [Function.update_of_ne (apart name listed)]
    exact prepared.2 name listed

theorem Exported.update_other {files : Files} {drive other : Drive}
    (exported : Exported rows files drive) (apart : other ≠ drive) (atlas : Option File) :
    Exported rows (Function.update files other.atlas atlas) drive := by
  obtain ⟨image, text, read, written, content⟩ := exported
  refine ⟨image, text, ?_, ?_, content⟩
  · rw [Function.update_of_ne (by cases drive <;> cases other <;> decide)]
    exact read
  · rw [Function.update_of_ne (by cases drive <;> cases other <;> simp_all [Drive.atlas])]
    exact written

theorem exported_update {files : Files} {drive : Drive} {image : File} {authors : List ℕ}
    (read : files drive.image = some image) :
    Exported rows (Function.update files drive.atlas
      (some ⟨exportedAtlas rows drive image.content, authors⟩)) drive := by
  refine ⟨image, _, ?_, Function.update_self .., rfl⟩
  rw [Function.update_of_ne (by cases drive <;> decide)]
  exact read

/-- A call begins with the operations for what it finds. -/
theorem stage_begin (rest : AtRest rows state.files) :
    Stage rows { state with
      calls := state.calls + 1, running := some (prepareSnapshot state.files) } := by
  by_cases ready : snapshotReady state.files = true
  · obtain ⟨call, prepared⟩ := rest.prepared ready
    by_cases atlases : snapshotAtlasReady state.files = true
    · have data : hasData state.files .workspaceAtlas = true := by
        simp only [snapshotAtlasReady, List.all_cons, List.all_nil, Bool.and_eq_true] at atlases
        exact atlases.2.1
      exact .exported call (by simp [prepareSnapshot, ready, atlases]) prepared
        (rest.atlases ready data)
    · have no_data : hasData state.files .workspaceAtlas = false := by
        by_contra data
        have exported := rest.atlases ready (by simpa using data)
        have rootfs : hasData state.files .rootfsAtlas = true := (exported .rootfs).hasData
        have workspace : hasData state.files .workspaceAtlas = true :=
          (exported .workspace).hasData
        exact atlases (by simp [snapshotAtlasReady, rootfs, workspace])
      exact .exportingRootfs call (by simp [prepareSnapshot, ready, atlases]) prepared no_data
  · exact .starting (by simp [prepareSnapshot, ready]) (by simpa using ready)

/-- After an operation of a preparation. -/
theorem stage_next {known : Known} {ops : List Op} {files : Files} {calls : ℕ}
    (knows : Knows calls known files) (checked : verified known ops = true) :
    Stage rows ⟨files, calls, some (ops ++ exportBlockAtlas)⟩ := by
  cases ops with
  | nil =>
      obtain ⟨prepared, no_atlas⟩ := knows.prepared checked
      exact .exportingRootfs calls rfl prepared no_atlas
  | cons op ops => exact .preparing known op ops rfl knows.begin checked

/-- A call which ends leaves the directory at rest. -/
theorem Stage.atRest (stage : Stage rows state) (running : state.running ≠ none)
    (keeps : state.running = some [.exportAtlas .workspace] →
      hasData state.files .workspaceAtlas = true → Exported rows state.files .workspace) :
    AtRest rows state.files := by
  cases stage with
  | resting idle _ => exact absurd idle running
  | starting _ unready => exact atRest_of_not_ready unready
  | preparing known op ops _ knows checked =>
      simp only [verified, Bool.and_eq_true] at checked
      exact knows.atRest checked.1
  | exportingRootfs call _ prepared no_atlas =>
      refine ⟨fun _ => ⟨call, prepared⟩, fun _ data => ?_⟩
      rw [no_atlas] at data
      exact Bool.noConfusion data
  | exportingWorkspace call at_export prepared rootfs =>
      refine ⟨fun _ => ⟨call, prepared⟩, fun _ data drive => ?_⟩
      cases drive with
      | rootfs => exact rootfs
      | workspace => exact keeps at_export data
  | exported call _ prepared atlases =>
      exact ⟨fun _ => ⟨call, prepared⟩, fun _ _ => atlases⟩

/-- A call which works on its operation stays where it is. -/
theorem Stage.works (stage : Stage rows state) {op : Op} {rest : List Op} {files : Files}
    (running : state.running = some (op :: rest))
    (works : op.Works rows state.calls state.files files) :
    Stage rows { state with files := files } := by
  cases stage with
  | resting idle _ => simp [idle] at running
  | starting start _ =>
      rw [start, snapshotSteps_eq] at running
      injection running with same
      injection same with first _
      rw [← first] at works
      exact works.elim
  | preparing known first ops start knows checked =>
      rw [start] at running
      injection running with same
      injection same with same _
      rw [← same] at works
      exact .preparing known first ops start (knows.works works) checked
  | exportingRootfs call start prepared no_atlas =>
      rw [start] at running
      injection running with same
      injection same with same _
      rw [← same] at works
      obtain ⟨image, part, _, _, changed⟩ := works
      refine .exportingRootfs call start ?_ ?_
      · rw [changed]
        exact prepared.update_atlas .rootfs _
      · have untouched : files .workspaceAtlas = state.files .workspaceAtlas := by
          rw [changed, Function.update_of_ne (by decide)]
        simpa only [hasData, untouched] using no_atlas
  | exportingWorkspace call start prepared rootfs =>
      rw [start] at running
      injection running with same
      injection same with same _
      rw [← same] at works
      obtain ⟨image, part, _, _, changed⟩ := works
      refine .exportingWorkspace call start ?_ ?_
      · rw [changed]
        exact prepared.update_atlas .workspace _
      · rw [changed]
        exact rootfs.update_other (by decide) _
  | exported _ start _ _ => simp [start] at running

theorem Stage.completes (stage : Stage rows state) {op : Op} {rest : List Op} {files : Files}
    (running : state.running = some (op :: rest))
    (completes : op.Completes rows state.calls state.files files) :
    Stage rows { state with files := files, running := some rest } := by
  cases stage with
  | resting idle _ => simp [idle] at running
  | starting start _ =>
      rw [start, snapshotSteps_eq] at running
      injection running with same
      injection same with first later
      rw [← first] at completes
      have knows : Knows state.calls (fun _ => .unknown) state.files := fun _ => trivial
      rw [← later]
      exact stage_next (knows.begin.completes completes) verified_laterSteps
  | preparing known first ops start knows checked =>
      rw [start] at running
      injection running with same
      injection same with same later
      rw [← same] at completes
      simp only [verified, Bool.and_eq_true] at checked
      rw [← later]
      exact stage_next (knows.completes completes) checked.2
  | exportingRootfs call start prepared _ =>
      rw [start] at running
      injection running with same
      injection same with same later
      rw [← same] at completes
      obtain ⟨image, read, rfl⟩ := completes
      exact .exportingWorkspace call (congrArg some later.symm)
        (prepared.update_atlas .rootfs _) (exported_update read)
  | exportingWorkspace call start prepared rootfs =>
      rw [start] at running
      injection running with same
      injection same with same later
      rw [← same] at completes
      obtain ⟨image, read, rfl⟩ := completes
      refine .exported call (congrArg some later.symm) (prepared.update_atlas .workspace _) ?_
      intro drive
      cases drive with
      | rootfs => exact rootfs.update_other (by decide) _
      | workspace => exact exported_update read
  | exported _ start _ _ => simp [start] at running

theorem stage_step {label : SnapshotLabel} (stage : Stage rows state)
    (step : SnapshotStep rows state label after) (keeps : KeepsAtlas rows state label) :
    Stage rows after := by
  cases step with
  | begin idle =>
      cases stage with
      | resting _ rest => exact stage_begin rest
      | starting running _ => simp [running] at idle
      | preparing _ _ _ running _ _ => simp [running] at idle
      | exportingRootfs _ running _ _ => simp [running] at idle
      | exportingWorkspace _ running _ _ => simp [running] at idle
      | exported _ running _ _ => simp [running] at idle
  | work running works => exact stage.works running works
  | complete running completes => exact stage.completes running completes
  | returns running =>
      exact .resting rfl (stage.atRest (by simp [running]) (by simp [running]))
  | killed running =>
      exact .resting rfl (stage.atRest (by simp [running]) (keeps rfl))

theorem stage_reachable (reachable : ((snapshotCalls rows).restrict (KeepsAtlas rows)).Reachable
    state) : Stage rows state := by
  apply reachable.invariant (Stage rows)
  · rintro initial rfl
    exact .resting rfl (atRest_of_not_ready rfl)
  · intro before label after stage step
    exact stage_step stage step.1 step.2

end Histories

/-- Whenever a call returns, both atlases are complete and the snapshot stems from one completed
preparation. -/
theorem prepareSnapshot_consistent (rows : RowsByBlock) {trace : List SnapshotLabel}
    {state : SnapshotState}
    (run : ((snapshotCalls rows).restrict (KeepsAtlas rows)).Run (trace ++ [.returns]) state) :
    Consistent rows state.files := by
  obtain ⟨before, front, path⟩ := run.split
  have stage := stage_reachable front.reachable
  cases path with
  | cons step rest =>
      cases rest
      obtain ⟨step, _⟩ := step
      cases step with
      | returns running =>
          cases stage with
          | resting idle _ => simp [idle] at running
          | starting start _ => simp [start, snapshotSteps_eq] at running
          | preparing _ _ _ start _ _ => simp [start] at running
          | exportingRootfs _ start _ _ => simp [start, exportBlockAtlas] at running
          | exportingWorkspace _ start _ _ => simp [start] at running
          | exported call _ prepared atlases => exact ⟨atlases, call, prepared⟩

/-! ### Sample histories -/

/-- Images without blocks to report. -/
def noRows : RowsByBlock :=
  fun _ _ => []

/-- The effect of an operation if every program writes one byte. -/
def perform (rows : RowsByBlock) (call : ℕ) (files : Files) (op : Op) : Files :=
  match op with
  | .unlink name => Function.update files name none
  | .command names => fun name =>
      if name ∈ names then some ⟨[1], call :: authorsOf (files name)⟩ else files name
  | .cpRootfs target => Function.update files target (some ⟨[1], [call]⟩)
  | .cp source target =>
      Function.update files target
        ((files source).map fun file => ⟨file.content, call :: file.authors⟩)
  | .replace source target =>
      Function.update (Function.update files source none) target (files source)
  | .writeText name text => Function.update files name (some ⟨text, [call]⟩)
  | .exportAtlas drive =>
      Function.update files drive.atlas
        ((files drive.image).map fun image => ⟨exportedAtlas rows drive image.content, [call]⟩)

/-- The files which the operation reads exist. -/
def Op.able (op : Op) (files : Files) : Bool :=
  match op with
  | .cp source _ | .replace source _ => (files source).isSome
  | .exportAtlas drive => (files drive.image).isSome
  | _ => true

section Samples

variable {rows : RowsByBlock} {call : ℕ} {files : Files}
  {Allowed : SnapshotState → SnapshotLabel → Prop}

theorem perform_completes {op : Op} (able : op.able files = true) :
    op.Completes rows call files (perform rows call files op) := by
  cases op with
  | unlink _ => rfl
  | command names =>
      refine ⟨fun name => ?_, fun name listed => by simp [perform, listed]⟩
      by_cases listed : name ∈ names
      · exact .inr ⟨listed, [1], by simp [perform, listed]⟩
      · exact .inl (by simp [perform, listed])
  | cpRootfs target => exact ⟨[1], rfl⟩
  | cp source target =>
      obtain ⟨file, read⟩ := Option.isSome_iff_exists.mp able
      exact ⟨file, read, by simp [perform, read]⟩
  | replace source target =>
      obtain ⟨file, read⟩ := Option.isSome_iff_exists.mp able
      exact ⟨file, read, by simp [perform, read]⟩
  | writeText _ _ => rfl
  | exportAtlas drive =>
      obtain ⟨image, read⟩ := Option.isSome_iff_exists.mp able
      exact ⟨image, read, by simp [perform, read]⟩

/-- Each operation finds what it reads. -/
def ableAll (rows : RowsByBlock) (call : ℕ) : Files → List Op → Bool
  | _, [] => true
  | files, op :: ops => op.able files && ableAll rows call (perform rows call files op) ops

theorem performed_path (allowed : ∀ state, Allowed state .complete) {ops : List Op}
    (able : ableAll rows call files ops = true) (rest : List Op) :
    ((snapshotCalls rows).restrict Allowed).Path ⟨files, call, some (ops ++ rest)⟩
      (List.replicate ops.length .complete)
      ⟨ops.foldl (perform rows call) files, call, some rest⟩ := by
  induction ops generalizing files with
  | nil => exact .nil _
  | cons op ops ih =>
      simp only [ableAll, Bool.and_eq_true] at able
      have step : SnapshotStep rows ⟨files, call, some (op :: ops ++ rest)⟩ .complete
          ⟨perform rows call files op, call, some (ops ++ rest)⟩ :=
        .complete rfl (perform_completes able.1)
      exact .cons ⟨step, allowed _⟩ (ih able.2)

end Samples

/-- A first call is killed amid its steps. -/
def earlyFiles : Files :=
  (snapshotSteps.take 12).foldl (perform noRows 1) fun _ => none

/-- A second call has still to export the atlas of the workspace. -/
def almostFiles : Files :=
  (snapshotSteps ++ [Op.exportAtlas .rootfs]).foldl (perform noRows 2) earlyFiles

/-- It has written the whole atlas and is killed before it can return. -/
def finishedFiles : Files :=
  Function.update almostFiles .workspaceAtlas
    (some ⟨Codec.utf8 (Csv.printRow ['\r', '\n'] atlasFieldnames), [2]⟩)

theorem exportedAtlas_noRows (drive : Drive) (image : Bytes) :
    exportedAtlas noRows drive image =
      Codec.utf8 (Csv.printRow ['\r', '\n'] atlasFieldnames) := by
  simp [exportedAtlas, writeRows, noRows]

theorem exported_finishedFiles : Exported noRows finishedFiles .workspace := by
  obtain ⟨image, read⟩ := Option.isSome_iff_exists.mp
    (show (finishedFiles .workspace).isSome = true by decide)
  exact ⟨image, _, read, rfl, (exportedAtlas_noRows _ _).symm⟩

/-- The two calls which are killed, and the third, which returns. -/
def killedTrace : List SnapshotLabel :=
  .begin :: (List.replicate (snapshotSteps.take 12).length .complete ++ .killed :: .begin ::
    (List.replicate (snapshotSteps ++ [Op.exportAtlas .rootfs]).length .complete ++
      [.work, .killed, .begin]))

theorem killed_run : ((snapshotCalls noRows).restrict (KeepsAtlas noRows)).Run
    (killedTrace ++ [.returns]) ⟨finishedFiles, 3, none⟩ := by
  have first : SnapshotStep noRows ⟨fun _ => none, 0, none⟩ .begin ⟨fun _ => none, 1,
      some (snapshotSteps.take 12 ++ (snapshotSteps.drop 12 ++ exportBlockAtlas))⟩ := .begin rfl
  have works := @performed_path noRows 1 (fun _ => none) (KeepsAtlas noRows)
    (fun _ killed => by simp at killed) (snapshotSteps.take 12) (by decide)
    (snapshotSteps.drop 12 ++ exportBlockAtlas)
  have early : KeepsAtlas noRows
      ⟨earlyFiles, 1, some (snapshotSteps.drop 12 ++ exportBlockAtlas)⟩ .killed := fun _ last =>
    absurd (congrArg (Option.map List.length) last) (by decide)
  have second : SnapshotStep noRows ⟨earlyFiles, 1, none⟩ .begin ⟨earlyFiles, 2,
      some ((snapshotSteps ++ [.exportAtlas .rootfs]) ++ [.exportAtlas .workspace])⟩ := by
    have everything : prepareSnapshot earlyFiles = snapshotSteps ++ exportBlockAtlas := by
      have unready : snapshotReady earlyFiles = false := by decide
      rw [prepareSnapshot, unready]
      rfl
    have step := @SnapshotStep.begin noRows ⟨earlyFiles, 1, none⟩ rfl
    rwa [everything] at step
  have prepares := @performed_path noRows 2 earlyFiles (KeepsAtlas noRows)
    (fun _ killed => by simp at killed) (snapshotSteps ++ [.exportAtlas .rootfs]) (by decide)
    [.exportAtlas .workspace]
  have writes : SnapshotStep noRows ⟨almostFiles, 2, some [.exportAtlas .workspace]⟩ .work
      ⟨finishedFiles, 2, some [.exportAtlas .workspace]⟩ := by
    obtain ⟨image, read⟩ := Option.isSome_iff_exists.mp
      (show (almostFiles .workspace).isSome = true by decide)
    have whole := exportedAtlas_noRows .workspace image.content
    exact .work rfl ⟨image, _, read, whole ▸ List.prefix_rfl, rfl⟩
  have trusts :
      SnapshotStep noRows ⟨finishedFiles, 2, none⟩ .begin ⟨finishedFiles, 3, some []⟩ := by
    have nothing_left : prepareSnapshot finishedFiles = [] := by
      rw [prepareSnapshot, if_pos (by decide)]
    have step := @SnapshotStep.begin noRows ⟨finishedFiles, 2, none⟩ rfl
    rwa [nothing_left] at step
  have path : ((snapshotCalls noRows).restrict (KeepsAtlas noRows)).Path _ _ _ :=
    .cons ⟨first, by simp [KeepsAtlas]⟩ <| works.trans <|
    .cons ⟨.killed rfl, early⟩ <| .cons ⟨second, by simp [KeepsAtlas]⟩ <| prepares.trans <|
    .cons ⟨writes, by simp [KeepsAtlas]⟩ <|
    .cons ⟨.killed rfl, fun _ _ _ => exported_finishedFiles⟩ <|
    .cons ⟨trusts, by simp [KeepsAtlas]⟩ <|
    .cons ⟨.returns rfl, by simp [KeepsAtlas]⟩ (.nil _)
  refine ⟨_, rfl, ?_⟩
  simpa only [killedTrace, List.cons_append, List.append_assoc, List.nil_append] using path

/-- The third call finds what the second has left, and the directory is consistent. -/
theorem prepareSnapshot_consistent_killed : Consistent noRows finishedFiles :=
  prepareSnapshot_consistent noRows killed_run

/-- The directory when the first atlas is complete. -/
def interruptedFiles : Files :=
  (snapshotSteps ++ [Op.exportAtlas .rootfs]).foldl (perform noRows 1) fun _ => none

/-- The directory of a call which is killed behind the first byte of the second atlas. -/
def killedFiles : Files :=
  Function.update interruptedFiles .workspaceAtlas (some ⟨[100], [1]⟩)

/-- The next call takes the first byte of the atlas for the atlas. -/
theorem not_consistent_killed :
    ¬ ∀ (trace : List SnapshotLabel) (state : SnapshotState),
      (snapshotCalls noRows).Run (trace ++ [.returns]) state →
        Consistent noRows state.files := by
  intro consistent
  have begins : SnapshotStep noRows ⟨fun _ => none, 0, none⟩ .begin
      ⟨fun _ => none, 1, some ((snapshotSteps ++ [.exportAtlas .rootfs]) ++
        [.exportAtlas .workspace])⟩ := .begin rfl
  have performs := (@performed_path noRows 1 (fun _ => none) (fun _ _ => True)
    (fun _ => trivial) (snapshotSteps ++ [.exportAtlas .rootfs]) (by decide)
    [.exportAtlas .workspace]).of_restrict
  have writes : SnapshotStep noRows ⟨interruptedFiles, 1, some [.exportAtlas .workspace]⟩ .work
      ⟨killedFiles, 1, some [.exportAtlas .workspace]⟩ := by
    obtain ⟨image, read⟩ := Option.isSome_iff_exists.mp
      (show (interruptedFiles .workspace).isSome = true by decide)
    refine .work rfl ⟨image, [100], read, ?_, rfl⟩
    rw [exportedAtlas_noRows]
    decide
  have killed : SnapshotStep noRows ⟨killedFiles, 1, some [.exportAtlas .workspace]⟩ .killed
      ⟨killedFiles, 1, none⟩ := .killed rfl
  have trusts : SnapshotStep noRows ⟨killedFiles, 1, none⟩ .begin ⟨killedFiles, 2, some []⟩ := by
    have nothing_left : prepareSnapshot killedFiles = [] := by
      rw [prepareSnapshot, if_pos (by decide)]
    have step := @SnapshotStep.begin noRows ⟨killedFiles, 1, none⟩ rfl
    rwa [nothing_left] at step
  have returns : SnapshotStep noRows ⟨killedFiles, 2, some []⟩ .returns ⟨killedFiles, 2, none⟩ :=
    .returns rfl
  have run : (snapshotCalls noRows).Run
      ((.begin :: List.replicate (snapshotSteps ++ [Op.exportAtlas .rootfs]).length .complete ++
        [.work, .killed, .begin]) ++ [.returns]) ⟨killedFiles, 2, none⟩ := by
    refine ⟨_, rfl, ?_⟩
    have path : (snapshotCalls noRows).Path _ _ _ := .cons begins (performs.trans
      (.cons writes (.cons killed (.cons trusts (.cons returns (.nil _))))))
    simpa using path
  obtain ⟨image, atlas, _, written, content⟩ := (consistent _ _ run).atlases .workspace
  have first_byte : (⟨[100], [1]⟩ : File) = atlas := Option.some.inj written
  rw [← first_byte, exportedAtlas_noRows] at content
  exact absurd content (by decide)

end Snapshot
end HermOS
