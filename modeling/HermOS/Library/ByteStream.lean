import Mathlib.Data.List.Basic

/-!
# Reading from a byte stream

A stream holds the bytes which have arrived and what a read meets behind them.  A reading program
returns a value or raises, and leaves the unread bytes; it has no result while it waits.  A stable
program does the same whatever arrives later, so the cutting of a stream into packets is immaterial.
-/

namespace HermOS

/-- What a read meets behind the last byte of a stream. -/
inductive Ending
  /-- More bytes may arrive, and the read waits for them. -/
  | pending
  | closed
  /-- The connection is reset or has timed out, and the read raises. -/
  | broken
  deriving DecidableEq

/-- Bytes to be read, with what follows them. -/
structure ByteStream where
  bytes : List UInt8
  /-- Behind the last byte. -/
  ending : Ending
  deriving DecidableEq

/-- More of a stream arrives, unless it has ended. -/
def ByteStream.receive (stream more : ByteStream) : ByteStream :=
  match stream.ending with
  | .pending => { more with bytes := stream.bytes ++ more.bytes }
  | _ => stream

/-- A program which reads from a stream, where `none` says that it never ends. -/
def Reading (Error Value : Type) : Type :=
  ByteStream → Option (Except Error Value × ByteStream)

namespace Reading

variable {Error Value Result : Type}

def bind (program : Reading Error Value) (next : Value → Reading Error Result) :
    Reading Error Result := fun stream =>
  match program stream with
  | none => none
  | some (.error error, rest) => some (.error error, rest)
  | some (.ok value, rest) => next value rest

instance : Monad (Reading Error) where
  pure value := fun stream => some (.ok value, stream)
  bind := bind

def raise (error : Error) : Reading Error Value := fun stream =>
  some (.error error, stream)

/-- A computation which does not read. -/
def ofExcept (outcome : Except Error Value) : Reading Error Value := fun stream =>
  some (outcome, stream)

variable {program : Reading Error Value} {next : Value → Reading Error Result}
  {stream rest : ByteStream} {value : Value} {error : Error}

@[simp]
theorem ofExcept_apply {outcome : Except Error Value} :
    ofExcept outcome stream = some (outcome, stream) :=
  rfl

theorem bind_ok (ended : program stream = some (.ok value, rest)) :
    (program >>= next) stream = next value rest := by
  simp only [Bind.bind, bind, ended]

theorem bind_error (ended : program stream = some (.error error, rest)) :
    (program >>= next) stream = some (.error error, rest) := by
  simp only [Bind.bind, bind, ended]

theorem bind_none (endless : program stream = none) : (program >>= next) stream = none := by
  simp only [Bind.bind, bind, endless]

/-- How a sequence of two programs can end. -/
theorem bind_cases {result : Except Error Result}
    (ended : (program >>= next) stream = some (result, rest)) :
    (∃ error, program stream = some (.error error, rest) ∧ result = .error error) ∨
      ∃ value middle, program stream = some (.ok value, middle) ∧
        next value middle = some (result, rest) := by
  rcases first : program stream with _ | ⟨error | value, middle⟩
  · rw [bind_none first] at ended
    cases ended
  · rw [bind_error first] at ended
    cases ended
    exact .inl ⟨error, rfl, rfl⟩
  · rw [bind_ok first] at ended
    exact .inr ⟨value, middle, rfl, ended⟩

/-- A result on the bytes at hand is the result whatever arrives later. -/
def Stable (program : Reading Error Value) : Prop :=
  ∀ {bytes rest result}, program ⟨bytes, .pending⟩ = some (result, rest) →
    rest.ending = .pending ∧
      ∀ later, program ⟨bytes ++ later, .pending⟩ = some (result, ⟨rest.bytes ++ later, .pending⟩)

namespace Stable

theorem pure : Stable (Pure.pure value : Reading Error Value) := by
  intro bytes rest result ended
  cases ended
  exact ⟨rfl, fun _ => rfl⟩

theorem raise : Stable (raise error : Reading Error Value) := by
  intro bytes rest result ended
  cases ended
  exact ⟨rfl, fun _ => rfl⟩

theorem ofExcept (outcome : Except Error Value) : Stable (ofExcept outcome) := by
  intro bytes rest result ended
  cases ended
  exact ⟨rfl, fun _ => rfl⟩

theorem bind (first : Stable program) (second : ∀ value, Stable (next value)) :
    Stable (program >>= next) := by
  intro bytes rest result ended
  rcases bind_cases ended with ⟨error, raised, rfl⟩ | ⟨value, ⟨middle, _⟩, found, ended⟩
  · obtain ⟨still, extended⟩ := first raised
    exact ⟨still, fun later => bind_error (extended later)⟩
  · obtain ⟨rfl, extended⟩ := first found
    obtain ⟨still, continued⟩ := second value ended
    exact ⟨still, fun later => (bind_ok (extended later)).trans (continued later)⟩

/-- A program cannot end before the last byte it consumes has arrived. -/
theorem arrived (stable : Stable program) {seen later : List UInt8} {result result' rest}
    (ended : program ⟨seen, .pending⟩ = some (result, rest))
    (whole : program ⟨seen ++ later, .pending⟩ = some (result', ⟨[], .pending⟩)) :
    later = [] ∧ result = result' ∧ rest.bytes = [] := by
  obtain ⟨_, extended⟩ := stable ended
  have same := (extended later).symm.trans whole
  simp only [Option.some.injEq, Prod.mk.injEq, ByteStream.mk.injEq, List.append_eq_nil_iff] at same
  exact ⟨same.2.1.2, same.1, same.2.1.1⟩

end Stable

/-! ### Lines and blocks -/

abbrev lineFeed : UInt8 := 10

/-- The bytes up to a line feed, at most `limit` if there is a limit. -/
def takeLine : Option ℕ → List UInt8 → Option (List UInt8 × List UInt8)
  | some 0, bytes => some ([], bytes)
  | _, [] => none
  | limit, byte :: bytes =>
      if byte = lineFeed then some ([byte], bytes)
      else (takeLine (limit.map Nat.pred) bytes).map fun (line, rest) => (byte :: line, rest)

/-- Read a line, shorter at the end of the stream. -/
def readLine (broken : Error) (limit : Option ℕ) : Reading Error (List UInt8) := fun stream =>
  match takeLine limit stream.bytes with
  | some (line, rest) => some (.ok line, { stream with bytes := rest })
  | none =>
      match stream.ending with
      | .pending => none
      | .closed => some (.ok stream.bytes, { stream with bytes := [] })
      | .broken => some (.error broken, { stream with bytes := [] })

/-- Read a number of bytes, fewer at the end of the stream. -/
def readUpTo (broken : Error) (count : ℕ) : Reading Error (List UInt8) := fun stream =>
  if count ≤ stream.bytes.length then
    some (.ok (stream.bytes.take count), { stream with bytes := stream.bytes.drop count })
  else
    match stream.ending with
    | .pending => none
    | .closed => some (.ok stream.bytes, { stream with bytes := [] })
    | .broken => some (.error broken, { stream with bytes := [] })

/-- Feed lines to the body of a loop until it stops.  A body which goes on without a byte read would
be fed empty lines for ever. -/
def foldLines {State : Type} (broken : Error) (limit : Option ℕ)
    (body : State → List UInt8 → Except Error (State ⊕ Value)) (state : State) :
    Reading Error Value := fun stream =>
  match readLine broken limit stream with
  | none => none
  | some (.error error, rest) => some (.error error, rest)
  | some (.ok line, rest) =>
      match body state line with
      | .error error => some (.error error, rest)
      | .ok (.inr value) => some (.ok value, rest)
      | .ok (.inl state) =>
          if rest.bytes.length < stream.bytes.length then foldLines broken limit body state rest
          else none
termination_by stream => stream.bytes.length

section Lines

variable {limit : Option ℕ} {bytes line later : List UInt8}

theorem takeLine_cons {byte : UInt8} (open_limit : limit ≠ some 0) :
    takeLine limit (byte :: bytes) =
      if byte = lineFeed then some ([byte], bytes)
      else (takeLine (limit.map Nat.pred) bytes).map fun (line, rest) => (byte :: line, rest) := by
  rcases limit with _ | _ | limit
  · rfl
  · exact absurd rfl open_limit
  · rfl

theorem takeLine_line (free : lineFeed ∉ line) (short : ∀ count ∈ limit, line.length < count) :
    takeLine limit (line ++ lineFeed :: bytes) = some (line ++ [lineFeed], bytes) := by
  have open_limit : limit ≠ some 0 := by
    rintro rfl
    exact absurd (short 0 rfl) (Nat.not_lt_zero _)
  induction line generalizing limit with
  | nil => rw [List.nil_append, takeLine_cons open_limit, if_pos rfl, List.nil_append]
  | cons byte line ih =>
      obtain ⟨other, free⟩ := not_or.mp (List.mem_cons.not.mp free)
      have short' : ∀ count ∈ limit.map Nat.pred, line.length < count := by
        intro count inside
        obtain ⟨wider, bound, rfl⟩ := Option.map_eq_some_iff.mp inside
        have := short wider bound
        rw [List.length_cons] at this
        exact Nat.lt_pred_of_succ_lt this
      have open_limit' : limit.map Nat.pred ≠ some 0 := by
        intro full
        exact absurd (short' 0 full) (Nat.not_lt_zero _)
      rw [List.cons_append, takeLine_cons open_limit, if_neg (Ne.symm other),
        ih free short' open_limit']
      rfl

/-- A line which is too long is cut at the limit. -/
theorem takeLine_cut (free : lineFeed ∉ line) :
    takeLine (some line.length) (line ++ bytes) = some (line, bytes) := by
  induction line with
  | nil => cases bytes <;> rfl
  | cons byte line ih =>
      obtain ⟨other, free⟩ := not_or.mp (List.mem_cons.not.mp free)
      have open_limit : some (byte :: line).length ≠ some 0 := by simp
      rw [List.cons_append, takeLine_cons open_limit, if_neg (Ne.symm other), Option.map_some,
        List.length_cons, Nat.pred_succ, ih free]
      rfl

theorem takeLine_unended (unended : takeLine limit bytes = none) : lineFeed ∉ bytes := by
  induction bytes generalizing limit with
  | nil => exact List.not_mem_nil
  | cons byte bytes ih =>
      have open_limit : limit ≠ some 0 := by
        rintro rfl
        cases unended
      rw [takeLine_cons open_limit] at unended
      split at unended
      next => cases unended
      next other =>
        rw [List.mem_cons, not_or]
        exact ⟨Ne.symm other, ih (Option.map_eq_none_iff.mp unended)⟩

theorem takeLine_append {rest : List UInt8} (found : takeLine limit bytes = some (line, rest)) :
    takeLine limit (bytes ++ later) = some (line, rest ++ later) := by
  induction bytes generalizing limit line with
  | nil =>
      rcases limit with _ | _ | limit
      · cases found
      · cases found
        cases later <;> rfl
      · cases found
  | cons byte bytes ih =>
      by_cases full : limit = some 0
      · cases full
        cases found
        rfl
      · rw [takeLine_cons full] at found
        rw [List.cons_append, takeLine_cons full]
        split at found
        next same =>
          cases found
          rw [if_pos same]
        next other =>
          obtain ⟨⟨line, rest⟩, inner, same⟩ := Option.map_eq_some_iff.mp found
          cases same
          rw [if_neg other, ih inner]
          rfl

theorem stable_readLine {broken : Error} : Stable (readLine broken limit) := by
  intro bytes rest result ended
  unfold readLine at ended
  split at ended
  next line rest' found =>
    cases ended
    refine ⟨rfl, fun later => ?_⟩
    simp only [readLine, takeLine_append found]
  next => cases ended

theorem stable_readUpTo {broken : Error} {count : ℕ} : Stable (readUpTo broken count) := by
  intro bytes rest result ended
  unfold readUpTo at ended
  split at ended
  next enough =>
    cases ended
    refine ⟨rfl, fun later => ?_⟩
    have longer : count ≤ (bytes ++ later).length := by
      rw [List.length_append]
      exact Nat.le_add_right_of_le enough
    simp only [readUpTo, if_pos longer, List.take_append_of_le_length enough,
      List.drop_append_of_le_length enough]
  next => cases ended

variable {State : Type} {broken : Error} {body : State → List UInt8 → Except Error (State ⊕ Value)}
  {state : State}

theorem stable_foldLines : Stable (foldLines broken limit body state) := by
  intro bytes rest result ended
  induction size : bytes.length using Nat.strongRecOn generalizing bytes state with
  | _ size ih =>
      subst size
      rw [foldLines] at ended
      split at ended
      next => cases ended
      next error middle found =>
        cases ended
        obtain ⟨still, extended⟩ := stable_readLine found
        refine ⟨still, fun later => ?_⟩
        rw [foldLines, extended later]
      next line middle found =>
        obtain ⟨still, extended⟩ := stable_readLine found
        split at ended
        next error raised =>
          cases ended
          refine ⟨still, fun later => ?_⟩
          rw [foldLines, extended later]
          simp only [raised]
        next value stopped =>
          cases ended
          refine ⟨still, fun later => ?_⟩
          rw [foldLines, extended later]
          simp only [stopped]
        next state' goes_on =>
          split at ended
          next shorter =>
            obtain ⟨middle, _⟩ := middle
            cases still
            obtain ⟨still, continued⟩ := ih middle.length shorter ended rfl
            refine ⟨still, fun later => ?_⟩
            rw [foldLines, extended later]
            simp only [goes_on, List.length_append, Nat.add_lt_add_iff_right, shorter, if_true]
            exact continued later
          next => cases ended

variable {ending : Ending}

/-- The body goes on after a line. -/
theorem foldLines_next {state' : State} (free : lineFeed ∉ line)
    (short : ∀ count ∈ limit, line.length < count)
    (goes_on : body state (line ++ [lineFeed]) = .ok (.inl state')) :
    foldLines broken limit body state ⟨line ++ lineFeed :: bytes, ending⟩ =
      foldLines broken limit body state' ⟨bytes, ending⟩ := by
  have shorter : bytes.length < (line ++ lineFeed :: bytes).length := by
    simp only [List.length_append, List.length_cons]
    omega
  rw [foldLines]
  simp only [readLine, takeLine_line free short, goes_on, shorter, if_true]

/-- The body stops after a line. -/
theorem foldLines_stop {value : Value} (free : lineFeed ∉ line)
    (short : ∀ count ∈ limit, line.length < count)
    (stops : body state (line ++ [lineFeed]) = .ok (.inr value)) :
    foldLines broken limit body state ⟨line ++ lineFeed :: bytes, ending⟩ =
      some (.ok value, ⟨bytes, ending⟩) := by
  rw [foldLines]
  simp only [readLine, takeLine_line free short, stops]

end Lines

theorem readLine_line {limit : Option ℕ} {broken : Error} {line bytes : List UInt8}
    {ending : Ending} (free : lineFeed ∉ line) (short : ∀ count ∈ limit, line.length < count) :
    readLine broken limit ⟨line ++ lineFeed :: bytes, ending⟩ =
      some (.ok (line ++ [lineFeed]), ⟨bytes, ending⟩) := by
  simp only [readLine, takeLine_line free short]

theorem readLine_cut {count : ℕ} {broken : Error} {line bytes : List UInt8} {ending : Ending}
    (free : lineFeed ∉ line) (full : line.length = count) :
    readLine broken (some count) ⟨line ++ bytes, ending⟩ = some (.ok line, ⟨bytes, ending⟩) := by
  subst full
  simp only [readLine, takeLine_cut free]

/-- The body goes on after a line which is cut. -/
theorem foldLines_cut {State : Type} {count : ℕ} {broken : Error} {line bytes : List UInt8}
    {ending : Ending} {body : State → List UInt8 → Except Error (State ⊕ Value)}
    {state state' : State} (free : lineFeed ∉ line) (full : line.length = count)
    (positive : 0 < count) (goes_on : body state line = .ok (.inl state')) :
    foldLines broken (some count) body state ⟨line ++ bytes, ending⟩ =
      foldLines broken (some count) body state' ⟨bytes, ending⟩ := by
  have shorter : bytes.length < (line ++ bytes).length := by
    rw [List.length_append]
    omega
  rw [foldLines, readLine_cut free full]
  simp only [goes_on, shorter, if_true]

theorem readUpTo_append {broken : Error} {block bytes : List UInt8} {ending : Ending} :
    readUpTo broken block.length ⟨block ++ bytes, ending⟩ = some (.ok block, ⟨bytes, ending⟩) := by
  simp [readUpTo]

/-! ### Values which no ending decides -/

/-- A line which is read is one of the stream, or the rest of a closed stream. -/
theorem readLine_cases {broken : Error} {limit : Option ℕ} {bytes line : List UInt8}
    {ending : Ending} {rest : ByteStream}
    (read : readLine broken limit ⟨bytes, ending⟩ = some (.ok line, rest)) :
    readLine broken limit ⟨bytes, .pending⟩ = some (.ok line, ⟨rest.bytes, .pending⟩) ∧
        rest.ending = ending ∨
      rest = ⟨[], .closed⟩ ∧ lineFeed ∉ line := by
  unfold readLine at read ⊢
  rcases found : takeLine limit bytes with _ | ⟨taken, left⟩
  · simp only [found] at read
    cases ending with
    | pending => cases read
    | closed =>
        cases read
        exact .inr ⟨rfl, takeLine_unended found⟩
    | broken => cases read
  · simp only [found] at read ⊢
    cases read
    exact .inl ⟨rfl, rfl⟩

/-- A block of full length is read from what has arrived. -/
theorem readUpTo_full {broken : Error} {count : ℕ} {bytes data : List UInt8} {ending : Ending}
    {rest : ByteStream} (full : data.length = count)
    (read : readUpTo broken count ⟨bytes, ending⟩ = some (.ok data, rest)) :
    readUpTo broken count ⟨bytes, .pending⟩ = some (.ok data, ⟨rest.bytes, .pending⟩) := by
  unfold readUpTo at read ⊢
  split at read
  next enough =>
    cases read
    rw [if_pos enough]
  next short =>
    cases ending with
    | pending => cases read
    | closed =>
        cases read
        exact absurd (Nat.le_of_eq full.symm) short
    | broken => cases read

/-- A loop which raises at the end of the stream and stops only at whole lines does not return at
the end of the stream. -/
theorem foldLines_whole {State : Type} {broken : Error} {limit : Option ℕ}
    {body : State → List UInt8 → Except Error (State ⊕ Value)}
    (at_end : ∀ state, ∃ error, body state [] = .error error)
    (whole : ∀ {state line value}, body state line = .ok (.inr value) → lineFeed ∈ line)
    {state : State} {bytes : List UInt8} {ending : Ending} {value : Value} {rest : ByteStream}
    (ended : foldLines broken limit body state ⟨bytes, ending⟩ = some (.ok value, rest)) :
    foldLines broken limit body state ⟨bytes, .pending⟩ =
      some (.ok value, ⟨rest.bytes, .pending⟩) := by
  induction size : bytes.length using Nat.strongRecOn generalizing bytes state with
  | _ size ih =>
      subst size
      rw [foldLines] at ended
      split at ended
      next => cases ended
      next => cases ended
      next line middle read =>
        rcases readLine_cases read with ⟨arrived, same⟩ | ⟨rfl, free⟩
        · rw [foldLines, arrived]
          split at ended
          next => cases ended
          next value' stopped =>
            cases ended
            simp only [stopped]
          next state' goes_on =>
            obtain ⟨middle, _⟩ := middle
            cases same
            split at ended
            next shorter =>
              simp only [goes_on, shorter, if_true]
              exact ih middle.length shorter ended rfl
            next => cases ended
        · -- only the last line has no line feed, and behind it the body raises
          split at ended
          next => cases ended
          next value' stopped => exact absurd (whole stopped) free
          next state' goes_on =>
            split at ended
            next =>
              obtain ⟨error, raised⟩ := at_end state'
              rw [foldLines] at ended
              have last : takeLine limit [] = none ∨ takeLine limit [] = some ([], []) := by
                rcases limit with _ | _ | limit <;> simp [takeLine]
              rcases last with none | empty
              · simp [readLine, none, raised] at ended
              · simp [readLine, empty, raised] at ended
            next => cases ended

/-! ### The lines of a closed stream -/

theorem readUpTo_closed {broken : Error} {count : ℕ} {bytes : List UInt8} :
    readUpTo broken count ⟨bytes, .closed⟩ =
      some (.ok (bytes.take count), ⟨bytes.drop count, .closed⟩) := by
  by_cases enough : count ≤ bytes.length
  · rw [readUpTo, if_pos enough]
  · have short := Nat.le_of_not_le enough
    rw [readUpTo, if_neg enough, List.take_of_length_le short, List.drop_of_length_le short]

/-- The lines of some bytes, each with its line feed but perhaps the last. -/
def linesOf : List UInt8 → List (List UInt8)
  | [] => []
  | byte :: bytes =>
      if byte = lineFeed then [byte] :: linesOf bytes
      else
        match linesOf bytes with
        | [] => [[byte]]
        | line :: lines => (byte :: line) :: lines

theorem linesOf_takeLine {bytes line rest : List UInt8}
    (found : takeLine none bytes = some (line, rest)) : linesOf bytes = line :: linesOf rest := by
  induction bytes generalizing line with
  | nil => cases found
  | cons byte bytes ih =>
      rw [takeLine_cons (by simp)] at found
      rw [linesOf]
      split at found
      next same =>
        cases found
        rw [if_pos same]
      next other =>
        obtain ⟨⟨line, rest⟩, inner, same⟩ := Option.map_eq_some_iff.mp found
        cases same
        rw [if_neg other, ih inner]

theorem linesOf_unended {bytes : List UInt8} (unended : takeLine none bytes = none) :
    linesOf bytes = if bytes = [] then [] else [bytes] := by
  induction bytes with
  | nil => rfl
  | cons byte bytes ih =>
      rw [takeLine_cons (by simp)] at unended
      split at unended
      next => cases unended
      next other =>
        rw [linesOf, if_neg other, ih (Option.map_eq_none_iff.mp unended)]
        split
        next empty => cases bytes <;> simp_all
        next line lines same =>
          split at same
          next => cases same
          next =>
            cases same
            rfl

theorem takeLine_shorter {bytes line rest : List UInt8}
    (found : takeLine none bytes = some (line, rest)) : rest.length < bytes.length := by
  induction bytes generalizing line with
  | nil => cases found
  | cons byte bytes ih =>
      rw [takeLine_cons (by simp)] at found
      split at found
      next =>
        cases found
        exact Nat.lt_succ_self _
      next =>
        obtain ⟨⟨line, rest⟩, inner, same⟩ := Option.map_eq_some_iff.mp found
        cases same
        exact Nat.lt_succ_of_lt (ih inner)

theorem readLine_closed (broken : Error) (bytes : List UInt8) :
    ∃ rest, readLine broken none ⟨bytes, .closed⟩ =
        some (.ok ((linesOf bytes).headD []), ⟨rest, .closed⟩) ∧
      linesOf rest = (linesOf bytes).tail ∧ (bytes ≠ [] → rest.length < bytes.length) := by
  rcases found : takeLine none bytes with _ | ⟨line, rest⟩
  · refine ⟨[], ?_, ?_, fun nonempty => List.length_pos_iff.mpr nonempty⟩
    · simp only [readLine, found, linesOf_unended found]
      split
      next empty =>
        subst empty
        rfl
      next => rfl
    · rw [linesOf_unended found]
      split <;> rfl
  · refine ⟨rest, ?_, ?_, fun _ => takeLine_shorter found⟩
    · simp only [readLine, found, linesOf_takeLine found, List.headD_cons]
    · rw [linesOf_takeLine found, List.tail_cons]

/-- A loop which would go on at the end of the stream ends exactly if some line stops it. -/
theorem foldLines_closed_iff {State : Type} (broken : Error)
    {body : State → List UInt8 → Except Error (State ⊕ Value)} {goesOn : List UInt8 → Bool}
    (uniform : ∀ state line, goesOn line = true ↔ ∃ state', body state line = .ok (.inl state'))
    (endless : goesOn [] = true) (state : State) (bytes : List UInt8) :
    (foldLines broken none body state ⟨bytes, .closed⟩).isSome = true ↔
      ∃ line ∈ linesOf bytes, goesOn line = false := by
  induction size : bytes.length using Nat.strongRecOn generalizing bytes state with
  | _ size ih =>
      subst size
      obtain ⟨rest, read, lines_eq, shorter⟩ := readLine_closed broken bytes
      rw [foldLines, read]
      by_cases empty : bytes = []
      · subst empty
        obtain ⟨state', next⟩ := (uniform state []).mp endless
        have no_progress : ¬ rest.length < ([] : List UInt8).length := Nat.not_lt_zero _
        simp only [linesOf, List.headD_nil, next, no_progress, if_false, Option.isSome_none,
          List.not_mem_nil, false_and, exists_false, Bool.false_eq_true]
      · obtain ⟨line, lines, split_eq⟩ : ∃ line lines, linesOf bytes = line :: lines := by
          obtain ⟨byte, bytes, rfl⟩ := List.exists_cons_of_ne_nil empty
          rw [linesOf]
          split
          · exact ⟨_, _, rfl⟩
          · split <;> exact ⟨_, _, rfl⟩
        rw [split_eq, List.tail_cons] at lines_eq
        simp only [split_eq, List.headD_cons, List.exists_mem_cons_iff]
        cases going : goesOn line with
        | true =>
            obtain ⟨state', next⟩ := (uniform state line).mp going
            simp only [next, shorter empty, if_true, ih _ (shorter empty) state' rest rfl, lines_eq]
            simp
        | false =>
            have stopped : ∀ state', body state line ≠ .ok (.inl state') := by
              intro state' next
              have going' := (uniform state line).mpr ⟨state', next⟩
              rw [going] at going'
              cases going'
            rcases outcome : body state line with error | state' | value
            · simp
            · exact absurd outcome (stopped state')
            · simp

theorem foldLines_closed {State : Type} {broken : Error}
    {body : State → List UInt8 → Except Error (State ⊕ Value)} {state : State} {bytes : List UInt8}
    {result : Except Error Value} {rest : ByteStream}
    (ended : foldLines broken none body state ⟨bytes, .closed⟩ = some (result, rest)) :
    rest.ending = .closed := by
  induction size : bytes.length using Nat.strongRecOn generalizing bytes state with
  | _ size ih =>
      subst size
      obtain ⟨later, read, _⟩ := readLine_closed broken bytes
      rw [foldLines, read] at ended
      rcases outcome : body state ((linesOf bytes).headD []) with error | state' | value
      · simp only [outcome, Option.some.injEq, Prod.mk.injEq] at ended
        rw [← ended.2]
      · simp only [outcome] at ended
        split at ended
        next shorter => exact ih _ shorter ended rfl
        next => cases ended
      · simp only [outcome, Option.some.injEq, Prod.mk.injEq] at ended
        rw [← ended.2]

end Reading
end HermOS
