import InterfaceDraft.Interface.Draft
import InterfaceDraft.Output.Sink

set_option autoImplicit false

namespace InterfaceDraft.Interface

open Text Files

namespace Writer

-- Writing piece by piece comes to the same as writing everything at once.
theorem putAll_eq_put (writer : Writer) (pieces : List (List Char)) :
    writer.putAll pieces = writer.put (encode pieces.flatten) := by
  induction pieces generalizing writer with
  | nil => simp [putAll, put]
  | cons piece more ih =>
    rw [putAll, List.flatten_cons, encode_append]
    by_cases fits : (encode piece).length ≤ writer.room
    · have taken : (encode piece).take writer.room = encode piece := List.take_of_length_le fits
      simp only [put, fits, decide_true, ih, taken, List.length_append, List.take_append,
        List.append_assoc, Prod.mk.injEq, Writer.mk.injEq, and_true]
      constructor
      · omega
      · rw [decide_eq_decide]
        omega
    · have none : writer.room - (encode piece).length = 0 := by omega
      simp only [put, fits, decide_false, none, List.take_append, List.take_zero, List.append_nil,
        List.length_append, Prod.mk.injEq, Writer.mk.injEq, and_true]
      constructor
      · omega
      · rw [eq_comm, decide_eq_false_iff_not]
        omega

end Writer

theorem Draft.renderTo_eq (draft : Draft) (signatures : List (List Char)) (writer : Writer) :
    draft.renderTo signatures writer = writer.put (encode (draft.render signatures)) :=
  writer.putAll_eq_put _

inductive Answer where
  | took (count : Nat)
  -- The same is to be offered again.
  | interrupted
  | refused (cause : IoError)

-- Bytes that were offered, and how they were received.
structure Attempt where
  offered : Bytes
  answer : Answer

def nothingTaken : IoError := .other "failed to write whole buffer"

def Answer.failure? : Answer → Option IoError
  | .took 0 => some nothingTaken
  | .took (_ + 1) => none
  | .interrupted => none
  | .refused cause => some cause

def Attempt.taken (attempt : Attempt) : Bytes :=
  match attempt.answer with
  | .took count => attempt.offered.take count
  | _ => []

-- Anything that takes a number of bytes in all, in portions of its own choice, and then fails. It
-- may be interrupted now and then, but not for ever.
structure Limited (σ : Type) where
  answer : σ → Bytes → Answer
  next : σ → Bytes → σ
  room : σ → Nat
  patience : σ → Nat
  took : ∀ {state bytes count}, bytes ≠ [] → answer state bytes = .took count →
    count ≤ bytes.length ∧ count ≤ room state ∧ (room state ≠ 0 → count ≠ 0) ∧
      room (next state bytes) = room state - count
  interrupted : ∀ {state bytes}, bytes ≠ [] → answer state bytes = .interrupted →
    room (next state bytes) = room state ∧ patience (next state bytes) < patience state
  refused : ∀ {state bytes cause}, bytes ≠ [] → answer state bytes = .refused cause → room state = 0

structure Written (σ : Type) where
  log : List Attempt
  state : σ
  failure : Option IoError

def Written.result {σ : Type} (run : Written σ) : Except Output.Error Unit :=
  match run.failure with
  | none => .ok ()
  | some cause => .error (.write cause)

namespace Limited

variable {σ : Type}

-- Offers what is left until nothing is.
def writeAll (writer : Limited σ) (state : σ) (bytes : Bytes) : Written σ :=
  if _ : bytes = [] then ⟨[], state, none⟩
  else
    let attempt : Attempt := ⟨bytes, writer.answer state bytes⟩
    let state' := writer.next state bytes
    match answered : writer.answer state bytes with
    | .took 0 => ⟨[attempt], state', some nothingTaken⟩
    | .refused cause => ⟨[attempt], state', some cause⟩
    | .took (count + 1) =>
      let rest := writer.writeAll state' (bytes.drop (count + 1))
      { rest with log := attempt :: rest.log }
    | .interrupted =>
      let rest := writer.writeAll state' bytes
      { rest with log := attempt :: rest.log }
termination_by (bytes.length, writer.patience state)
decreasing_by
  · left
    have := List.length_pos_iff.mpr ‹bytes ≠ []›
    rw [List.length_drop]
    omega
  · right
    exact (writer.interrupted ‹bytes ≠ []› answered).2

-- Writes parts until one fails.
def writeParts (writer : Limited σ) (state : σ) : List Bytes → Written σ
  | [] => ⟨[], state, none⟩
  | part :: parts =>
    match writer.writeAll state part with
    | ⟨log, state, some cause⟩ => ⟨log, state, some cause⟩
    | ⟨log, state, none⟩ =>
      let rest := writer.writeParts state parts
      { rest with log := log ++ rest.log }

end Limited

-- The failure is that of the last attempt, and no other attempt failed.
def Ends (log : List Attempt) : Option IoError → Prop
  | none => ∀ attempt ∈ log, attempt.answer.failure? = none
  | some cause => ∃ front last, log = front ++ [last] ∧ last.answer.failure? = some cause ∧
      ∀ attempt ∈ front, attempt.answer.failure? = none

theorem Ends.append {front log : List Attempt} {failure : Option IoError}
    (quiet : ∀ attempt ∈ front, attempt.answer.failure? = none) (ends : Ends log failure) :
    Ends (front ++ log) failure := by
  cases failure with
  | none => exact List.forall_mem_append.mpr ⟨quiet, ends⟩
  | some cause =>
    obtain ⟨before, last, rfl, failed, silent⟩ := ends
    refine ⟨front ++ before, last, (List.append_assoc _ _ _).symm, failed, ?_⟩
    exact List.forall_mem_append.mpr ⟨quiet, silent⟩

theorem Ends.of_failed {front rest : List Attempt} {attempt : Attempt} {failure : Option IoError}
    {cause : IoError} (ends : Ends (front ++ attempt :: rest) failure)
    (failed : attempt.answer.failure? = some cause) : rest = [] ∧ failure = some cause := by
  cases failure with
  | none => simp [ends attempt (by simp)] at failed
  | some other =>
    obtain ⟨before, last, split, lastFailed, silent⟩ := ends
    rcases List.eq_nil_or_concat rest with rfl | ⟨more, final, rfl⟩
    · obtain ⟨rfl, same⟩ := List.append_inj' split rfl
      obtain rfl := List.singleton_inj.mp same
      exact ⟨rfl, lastFailed.symm.trans failed⟩
    · -- Something was offered after the failure, so it is not the last attempt that failed.
      rw [List.concat_eq_append, ← List.cons_append, ← List.append_assoc] at split
      obtain ⟨rfl, -⟩ := List.append_inj' split rfl
      simp [silent attempt (by simp)] at failed

-- As much was taken as there was room for.
structure Written.Fills {σ : Type} (run : Written σ) (writer : Limited σ) (state : σ) (bytes : Bytes) :
    Prop where
  taken : run.log.flatMap Attempt.taken = bytes.take (writer.room state)
  left : run.failure = none → writer.room run.state = writer.room state - bytes.length
  fails : run.failure.isSome = true ↔ writer.room state < bytes.length
  ends : Ends run.log run.failure

namespace Limited

variable {σ : Type}

-- There is no room left, and the only attempt shows it.
theorem fills_of_failure {writer : Limited σ} {state later : σ} {bytes : Bytes} {attempt : Attempt}
    {cause : IoError} (filled : bytes ≠ []) (full : writer.room state = 0) (taken : attempt.taken = [])
    (failed : attempt.answer.failure? = some cause) :
    (⟨[attempt], later, some cause⟩ : Written σ).Fills writer state bytes := by
  refine ⟨?_, fun none => (nomatch none), ?_, ⟨[], attempt, rfl, failed, by simp⟩⟩
  · simp [taken, full]
  · simp [full, List.length_pos_iff.mpr filled]

theorem fills_of_rest {writer : Limited σ} {state later : σ} {bytes : Bytes} {attempt : Attempt}
    {count : Nat} {rest : Written σ} (inside : count ≤ bytes.length) (fits : count ≤ writer.room state)
    (room : writer.room later = writer.room state - count) (taken : attempt.taken = bytes.take count)
    (quiet : attempt.answer.failure? = none) (fills : rest.Fills writer later (bytes.drop count)) :
    ({ rest with log := attempt :: rest.log } : Written σ).Fills writer state bytes := by
  have silent : ∀ one ∈ [attempt], one.answer.failure? = none := by simpa using quiet
  refine ⟨?_, ?_, ?_, fills.ends.append silent⟩
  · have split : writer.room state = count + (writer.room state - count) := by omega
    rw [List.flatMap_cons, fills.taken, taken, room, split, List.take_add, ← split]
  · intro done
    rw [fills.left done, room, List.length_drop]
    omega
  · rw [fills.fails, room, List.length_drop]
    omega

theorem writeAll_fills (writer : Limited σ) (state : σ) (bytes : Bytes) :
    (writer.writeAll state bytes).Fills writer state bytes := by
  fun_induction writeAll writer state bytes with
  | case1 => exact ⟨by simp, fun _ => rfl, by simp, by simp [Ends]⟩
  | case2 state bytes filled attempt next answered =>
    obtain ⟨-, -, progress, -⟩ := writer.took filled answered
    have full : writer.room state = 0 := by omega
    exact fills_of_failure filled full (by simp [attempt, Attempt.taken, answered])
      (by simp [attempt, answered, Answer.failure?])
  | case3 state bytes filled attempt next cause answered =>
    exact fills_of_failure filled (writer.refused filled answered)
      (by simp [attempt, Attempt.taken, answered]) (by simp [attempt, answered, Answer.failure?])
  | case4 state bytes filled attempt next count answered rest ih =>
    obtain ⟨inside, fits, -, room⟩ := writer.took filled answered
    exact fills_of_rest inside fits room (by simp [attempt, Attempt.taken, answered])
      (by simp [attempt, answered, Answer.failure?]) ih
  | case5 state bytes filled attempt next answered rest ih =>
    obtain ⟨room, -⟩ := writer.interrupted filled answered
    exact fills_of_rest (Nat.zero_le _) (Nat.zero_le _) room (by simp [attempt, Attempt.taken, answered])
      (by simp [attempt, answered, Answer.failure?]) ih

theorem writeParts_fills (writer : Limited σ) (state : σ) (parts : List Bytes) :
    (writer.writeParts state parts).Fills writer state parts.flatten := by
  induction parts generalizing state with
  | nil => exact ⟨by simp [writeParts], fun _ => rfl, by simp [writeParts], by simp [writeParts, Ends]⟩
  | cons part parts ih =>
    have first := writer.writeAll_fills state part
    rw [writeParts]
    split
    next log later cause written =>
      rw [written] at first
      have tight : writer.room state < part.length := first.fails.mp rfl
      refine ⟨?_, fun none => (nomatch none), ?_, first.ends⟩
      · rw [first.taken, List.flatten_cons, List.take_append_of_le_length (by omega)]
      · simp only [Option.isSome_some, List.flatten_cons, List.length_append, true_iff]
        omega
    next log later written =>
      rw [written] at first
      have fits : ¬ writer.room state < part.length := by simp [← first.fails]
      have room := first.left rfl
      have rest := ih later
      simp only at room
      refine ⟨?_, ?_, ?_, rest.ends.append first.ends⟩
      · rw [List.flatMap_append, first.taken, rest.taken, List.flatten_cons, List.take_append, room]
      · intro done
        rw [rest.left done, room, List.flatten_cons, List.length_append]
        omega
      · rw [rest.fails, room, List.flatten_cons, List.length_append]
        omega

-- Takes a byte at a time and then breaks.
def oneByOne : Limited Nat where
  answer room _ := if room = 0 then .refused (.os 32) else .took 1
  next room _ := room - 1
  room := id
  patience _ := 0
  took filled answered := by
    have positive := List.length_pos_iff.mpr filled
    split at answered
    · cases answered
    next some =>
      cases answered
      exact ⟨positive, Nat.pos_of_ne_zero some, fun _ => Nat.one_ne_zero, rfl⟩
  interrupted _ answered := by split at answered <;> cases answered
  refused _ answered := by
    split at answered
    · assumption
    · cases answered

end Limited

theorem Writer.put_eq (writer : Writer) (bytes : Bytes) :
    (writer.put bytes).1.taken = writer.taken ++ bytes.take (min writer.room bytes.length) ∧
      ((writer.put bytes).2 = false ↔ writer.room < bytes.length) := by
  simp [put, List.take_eq_take_min]

-- What is taken of a declaration is its beginning, as far as there is room. Writing it fails
-- exactly if there is too little, and then nothing is offered after the attempt that failed.
theorem rendering_cut_by_room (draft : Draft) (signatures : List (List Char)) :
    let text := encode (draft.render signatures)
    (∀ writer : Writer,
      let written := draft.renderTo signatures writer
      written.1.taken = writer.taken ++ text.take (min writer.room text.length) ∧
      (written.2 = false ↔ writer.room < text.length)) ∧
    ∀ {σ : Type} (writer : Limited σ) (state : σ) (parts : List Bytes), parts.flatten = text →
      let run := writer.writeParts state parts
      run.log.flatMap Attempt.taken = text.take (min (writer.room state) text.length) ∧
      ((∃ cause, run.result = .error (.write cause)) ↔ writer.room state < text.length) ∧
      (run.result = .ok () ↔ text.length ≤ writer.room state) ∧
      ∀ front attempt rest cause, run.log = front ++ attempt :: rest →
        attempt.answer.failure? = some cause → rest = [] ∧ run.result = .error (.write cause) := by
  intro text
  constructor
  · intro writer written
    have whole : written = writer.put text := draft.renderTo_eq signatures writer
    rw [whole]
    exact writer.put_eq text
  · rintro σ writer state parts divided run
    have fills : run.Fills writer state text := divided ▸ writer.writeParts_fills state parts
    have result : ((∃ cause, run.result = .error (.write cause)) ↔ run.failure.isSome = true) ∧
        (run.result = .ok () ↔ ¬ run.failure.isSome = true) := by
      cases failure : run.failure <;> simp [Written.result, failure]
    rw [result.1, result.2, fills.fails, Nat.not_lt, ← List.take_eq_take_min]
    refine ⟨fills.taken, Iff.rfl, Iff.rfl, ?_⟩
    intro front attempt rest cause split failed
    have ends := fills.ends
    rw [split] at ends
    obtain ⟨last, failure⟩ := ends.of_failed failed
    exact ⟨last, by rw [Written.result, failure]⟩

-- The room ends within a character.
theorem rendering_cut_by_room_within_character :
    let text := encode (({ name := ['É'] } : Draft).render [])
    let run := Limited.oneByOne.writeParts 11 [text.take 3, [], text.drop 3]
    run.log.flatMap Attempt.taken = bytesOf "interface " ++ [0xc3] ∧
      ∃ cause, run.result = .error (.write cause) := by
  intro text run
  have divided : [text.take 3, [], text.drop 3].flatten = text := by simp
  obtain ⟨taken, fails, -⟩ := (rendering_cut_by_room { name := ['É'] } []).2 .oneByOne 11 _ divided
  exact ⟨taken.trans (by decide +kernel), fails.mpr (by decide +kernel)⟩

end InterfaceDraft.Interface
