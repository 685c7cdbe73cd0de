import InterfaceDraft.Extraction.Run
import InterfaceDraft.Proofs.Extraction.Tally
import InterfaceDraft.Proofs.Pool.Completion
import Mathlib.Data.List.Forall2

set_option autoImplicit false

namespace InterfaceDraft.Extraction

open Text

namespace Tally

-- What is handed over: the signatures, and the errors if there are any.
def finish (tally : Tally) : List (List Char) × Option (List Error) :=
  (tally.signatures, if tally.errors.isEmpty then none else some tally.errors)

def Succeeded (outcome : Outcome Scanned) : Prop :=
  ∃ signatures, outcome = .ok (.ok signatures)

inductive StandsFor : Error → Outcome Scanned → Prop
  | scan (error : Error) : StandsFor error (.ok (.error error))
  | panic (worker : Nat) (message : String) :
      StandsFor (.workerPanicked message) (.error (.taskPanicked worker message))
  | closed : StandsFor (.pool .closed) (.error .closed)
  | spawn (worker : Nat) (reason : String) :
      StandsFor (.pool (.spawn worker reason)) (.error (.spawn worker reason))

theorem succeeded_iff (outcome : Outcome Scanned) : Succeeded outcome ↔ failureOf? outcome = none := by
  rcases outcome with error | error | signatures <;> simp [Succeeded, failureOf?]

theorem isNone_signaturesOf? (outcome : Outcome Scanned) :
    (signaturesOf? outcome).isNone = (failureOf? outcome).isSome := by
  rcases outcome with error | error | signatures <;> rfl

theorem standsFor_iff (error : Error) (outcome : Outcome Scanned) :
    StandsFor error outcome ↔ failureOf? outcome = some error := by
  constructor
  · intro stands
    cases stands <;> rfl
  · intro failure
    match outcome with
    | .ok (.ok _) => cases failure
    | .ok (.error error) => cases failure; exact .scan error
    | .error (.taskPanicked worker message) => cases failure; exact .panic worker message
    | .error .closed => cases failure; exact .closed
    | .error (.spawn worker reason) => cases failure; exact .spawn worker reason

theorem absorbAll_start (outcomes : List (Outcome Scanned)) :
    absorbAll {} outcomes =
      ⟨outcomes.filterMap signaturesOf?, outcomes.filterMap failureOf?⟩ := by
  simpa using absorbAll_eq {} outcomes

theorem errors_stand (outcomes : List (Outcome Scanned)) :
    List.Forall₂ StandsFor (absorbAll {} outcomes).errors
      (outcomes.filter fun outcome => (signaturesOf? outcome).isNone) := by
  simp only [absorbAll_start, isNone_signaturesOf?]
  induction outcomes with
  | nil => exact .nil
  | cons outcome outcomes ih =>
    rw [List.filter_cons]
    cases failure : failureOf? outcome with
    | none =>
      rw [List.filterMap_cons_none failure]
      exact ih
    | some error =>
      rw [List.filterMap_cons_some failure]
      exact .cons ((standsFor_iff error outcome).mpr failure) ih

theorem errors_eq_nil_iff (outcomes : List (Outcome Scanned)) :
    (absorbAll {} outcomes).errors = [] ↔ ∀ outcome ∈ outcomes, Succeeded outcome := by
  rw [absorbAll_start, List.filterMap_eq_nil_iff]
  exact forall₂_congr fun outcome _ => (succeeded_iff outcome).symm

theorem eq_signatures_iff (outcomes : List (Outcome Scanned)) (texts : List (List Char)) :
    texts = (absorbAll {} outcomes).signatures ↔
      texts.Perm (outcomes.filterMap signaturesOf?).flatten ∧ InByteOrder texts := by
  have same := signatures_perm (absorbAll {} outcomes)
  have ordered := signatures_inByteOrder (absorbAll {} outcomes)
  simp only [absorbAll_start] at same ordered ⊢
  constructor
  · rintro rfl
    exact ⟨same, ordered⟩
  · rintro ⟨alsoSame, alsoOrdered⟩
    exact alsoOrdered.eq_of_perm ordered (alsoSame.trans same.symm)

theorem signatures_of_perm {first second : List (Outcome Scanned)} (same : first.Perm second) :
    (absorbAll {} first).signatures = (absorbAll {} second).signatures := by
  rw [eq_signatures_iff]
  have signatures := (eq_signatures_iff first _).mp rfl
  exact ⟨signatures.1.trans (same.filterMap signaturesOf?).flatten, signatures.2⟩

theorem errors_of_perm {first second : List (Outcome Scanned)} (same : first.Perm second) :
    (absorbAll {} first).errors.Perm (absorbAll {} second).errors := by
  rw [absorbAll_start, absorbAll_start]
  exact same.filterMap failureOf?

end Tally

-- A tally on a thread of its own, and those that send outcomes to it.
structure Feed where
  -- What each sender that has not hung up has still to send.
  senders : List (List (Outcome Scanned))
  -- Outcomes sent and not yet absorbed, in order.
  channel : List (Outcome Scanned)
  tally : Tally
  -- The tally has seen the end of the channel and can be joined.
  isDone : Bool

namespace Feed

def start (senders : List (List (Outcome Scanned))) : Feed := ⟨senders, [], {}, false⟩

inductive Step : Feed → Feed → Prop
  | send {feed : Feed} {before after : List (List (Outcome Scanned))} {outcome : Outcome Scanned}
      {rest : List (Outcome Scanned)} (sender : feed.senders = before ++ (outcome :: rest) :: after) :
      Step feed { feed with
        senders := before ++ rest :: after
        channel := feed.channel ++ [outcome] }
  | hangUp {feed : Feed} {before after : List (List (Outcome Scanned))}
      (sender : feed.senders = before ++ [] :: after) :
      Step feed { feed with senders := before ++ after }
  | absorb {feed : Feed} {outcome : Outcome Scanned} {channel : List (Outcome Scanned)}
      (listening : feed.isDone = false) (sent : feed.channel = outcome :: channel) :
      Step feed { feed with channel := channel, tally := feed.tally.absorb outcome }
  | disconnect {feed : Feed} (listening : feed.isDone = false) (empty : feed.channel = [])
      (silent : feed.senders = []) : Step feed { feed with isDone := true }

def Reaches : Feed → Feed → Prop := Relation.ReflTransGen Step

-- Each outcome is sent and absorbed, each sender hangs up, and the tally sees the end.
def remaining (feed : Feed) : Nat :=
  2 * feed.senders.flatten.length + feed.senders.length + feed.channel.length +
    if feed.isDone then 0 else 1

theorem remaining_lt (feed next : Feed) (step : Step feed next) : next.remaining < feed.remaining := by
  cases step with
  | send sender =>
    simp only [remaining, sender, List.flatten_append, List.flatten_cons, List.length_append,
      List.length_cons, List.length_nil]
    omega
  | hangUp sender =>
    simp only [remaining, sender, List.flatten_append, List.flatten_cons, List.length_append,
      List.length_cons, List.length_nil]
    omega
  | absorb listening sent =>
    simp only [remaining, sent, List.length_cons]
    omega
  | disconnect listening empty silent => simp [remaining, listening]

theorem done_of_stuck {feed : Feed} (stuck : ∀ next, ¬ Step feed next) : feed.isDone = true := by
  cases done : feed.isDone with
  | true => rfl
  | false =>
    cases senders : feed.senders with
    | cons sender after =>
      rw [← List.nil_append (sender :: after)] at senders
      cases sender with
      | nil => exact absurd (.hangUp senders) (stuck _)
      | cons outcome rest => exact absurd (.send senders) (stuck _)
    | nil =>
      cases channel : feed.channel with
      | nil => exact absurd (.disconnect done channel senders) (stuck _)
      | cons outcome channel => exact absurd (.absorb done channel) (stuck _)

def Settled (feed : Feed) : Prop :=
  feed.isDone = true → feed.senders = [] ∧ feed.channel = []

theorem step_settled {feed next : Feed} (settled : feed.Settled) (step : Step feed next) :
    next.Settled := by
  cases step with
  | send sender | hangUp sender =>
    intro done
    have silent := (settled done).1
    simp [sender] at silent
  | absorb listening sent => simp [Settled, listening]
  | disconnect listening empty silent => exact fun _ => ⟨silent, empty⟩

end Feed

-- A list made of others by taking, again and again, the first item of one of them.
inductive Merges {β : Type} : List (List β) → List β → Prop
  | nil : Merges [] []
  | skip {before after : List (List β)} {whole : List β} (rest : Merges (before ++ after) whole) :
      Merges (before ++ [] :: after) whole
  | next {before after : List (List β)} {item : β} {items whole : List β}
      (rest : Merges (before ++ items :: after) whole) :
      Merges (before ++ (item :: items) :: after) (item :: whole)

namespace Merges

variable {β : Type} {lists : List (List β)} {whole : List β}

theorem perm (merged : Merges lists whole) : whole.Perm lists.flatten := by
  induction merged with
  | nil => exact .nil
  | skip _ ih => simpa using ih
  | @next before after item items whole _ ih =>
    have moved : (item :: (before.flatten ++ (items ++ after.flatten))).Perm
        (before.flatten ++ item :: (items ++ after.flatten)) := List.perm_middle.symm
    simpa using (ih.cons item).trans (by simpa using moved)

theorem sublist (merged : Merges lists whole) : ∀ list ∈ lists, list.Sublist whole := by
  induction merged with
  | nil => simp
  | skip _ ih =>
    intro list member
    simp only [List.mem_append, List.mem_cons] at member ih
    rcases member with earlier | rfl | later
    · exact ih list (.inl earlier)
    · exact List.nil_sublist _
    · exact ih list (.inr later)
  | next _ ih =>
    intro list member
    simp only [List.mem_append, List.mem_cons] at member ih
    rcases member with earlier | rfl | later
    · exact (ih list (.inl earlier)).cons _
    · exact (ih _ (.inr (.inl rfl))).cons_cons _
    · exact (ih list (.inr (.inr later))).cons _

theorem eq_of_single {list : List β} (merged : Merges [list] whole) : whole = list := by
  have length := merged.perm.length_eq
  rw [List.flatten_singleton] at length
  exact ((merged.sublist list (by simp)).eq_of_length length.symm).symm

end Merges

namespace Feed

-- From any state on, the tally takes up what waits in the channel and then what is sent.
theorem tally_of_done {feed last : Feed} (settled : feed.Settled) (path : Reaches feed last)
    (done : last.isDone = true) :
    ∃ arrived, Merges feed.senders arrived ∧
      last.tally = feed.tally.absorbAll (feed.channel ++ arrived) := by
  induction path using Relation.ReflTransGen.head_induction_on with
  | refl =>
    obtain ⟨silent, empty⟩ := settled done
    exact ⟨[], silent ▸ .nil, by simp [empty, Tally.absorbAll]⟩
  | head step _ ih =>
    obtain ⟨arrived, merged, tally⟩ := ih (step_settled settled step)
    cases step with
    | @send before after outcome rest sender =>
      refine ⟨outcome :: arrived, sender ▸ merged.next, ?_⟩
      simpa using tally
    | hangUp sender => exact ⟨arrived, sender ▸ merged.skip, tally⟩
    | absorb listening sent => exact ⟨arrived, merged, by simpa [sent, Tally.absorbAll] using tally⟩
    | disconnect => exact ⟨arrived, merged, tally⟩

theorem settled_of_reaches {senders : List (List (Outcome Scanned))} {last : Feed}
    (path : Reaches (start senders) last) : last.Settled := by
  induction path with
  | refl => simp [Settled, start]
  | tail _ step ih => exact step_settled ih step

theorem stuck_iff_done {feed : Feed} (settled : feed.Settled) :
    (∀ next, ¬ Step feed next) ↔ feed.isDone = true := by
  refine ⟨done_of_stuck, fun done next step => ?_⟩
  obtain ⟨silent, empty⟩ := settled done
  cases step with
  | send sender | hangUp sender => simp [silent] at sender
  | absorb listening _ | disconnect listening _ _ => simp [done] at listening

theorem tally_of_start {senders : List (List (Outcome Scanned))} {last : Feed}
    (path : Reaches (start senders) last) (done : last.isDone = true) :
    ∃ arrived, Merges senders arrived ∧ last.tally = Tally.absorbAll {} arrived :=
  tally_of_done (by simp [Settled, start]) path done

end Feed

theorem Tally.finish_eq_none_iff (tally : Tally) : tally.finish.2 = none ↔ tally.errors = [] := by
  simp [finish]

theorem Findings.complete_ofTally (discovered workers elapsed : Nat) (tally : Tally) :
    (ofTally discovered workers elapsed tally).complete =
      if tally.errors = [] then .ok tally.signatures else .error tally.errors := by
  simp [complete, isComplete, ofTally]

theorem gathering_ignores_order (outcomes : List (Outcome Scanned)) :
    let tally := Tally.absorbAll {} outcomes
    -- The signatures are all that were found, in the one order of bytes and of code points.
    (∀ texts, texts = tally.finish.1 ↔
      texts.Perm (outcomes.filterMap Tally.signaturesOf?).flatten ∧ Tally.InByteOrder texts) ∧
    (∀ a b : List Char, encode a < encode b ↔ a < b) ∧
    List.Forall₂ Tally.StandsFor tally.errors
      (outcomes.filter fun outcome => (Tally.signaturesOf? outcome).isNone) ∧
    (∀ others : List (Outcome Scanned), others.Perm outcomes →
      (Tally.absorbAll {} others).finish.1 = tally.finish.1 ∧
      (Tally.absorbAll {} others).errors.Perm tally.errors) ∧
    -- After each outcome the figures add up, and errors are handed over if there are any.
    (∀ front, front <+: outcomes →
      let after := Tally.absorbAll {} front
      let complete := ∀ outcome ∈ front, Tally.Succeeded outcome
      after.scanned + after.failed = front.length ∧
      (after.finish.2 = none ↔ complete) ∧
      (¬ complete → after.finish.2 = some after.errors) ∧
      ∀ discovered workers elapsed,
        let findings := Findings.ofTally discovered workers elapsed after
        (findings.isComplete = true ↔ complete) ∧
        (complete → findings.complete = .ok after.finish.1) ∧
        (¬ complete → findings.complete = .error after.errors)) ∧
    -- A tally on its own thread comes to an end, and to the same one.
    ∀ senders : List (List (Outcome Scanned)),
      (∀ run, (Feed.start senders :: run).IsChain Feed.Step →
        run.length ≤ (Feed.start senders).remaining) ∧
      ∀ last, Feed.Reaches (.start senders) last →
        ((∀ next, ¬ Feed.Step last next) ↔ last.isDone = true) ∧
        (last.isDone = true →
          (∃ arrived, Merges senders arrived ∧ last.tally = Tally.absorbAll {} arrived) ∧
          (senders.flatten.Perm outcomes →
            last.tally.finish.1 = tally.finish.1 ∧ last.tally.errors.Perm tally.errors) ∧
          (senders = [outcomes] → last.tally = tally)) := by
  intro tally
  refine ⟨Tally.eq_signatures_iff outcomes, fun a b => encode_lt_iff, Tally.errors_stand outcomes,
    fun others same => ⟨Tally.signatures_of_perm same, Tally.errors_of_perm same⟩, ?_, ?_⟩
  · intro front _ after complete
    have none : after.errors = [] ↔ complete := Tally.errors_eq_nil_iff front
    have count := Tally.scanned_add_failed_absorbAll {} front
    refine ⟨by simpa [Tally.scanned, Tally.failed] using count, ?_, ?_, ?_⟩
    · rw [Tally.finish_eq_none_iff, none]
    · intro some
      rw [← none] at some
      simp [Tally.finish, some]
    · intro discovered workers elapsed findings
      have result : findings.complete =
          if after.errors = [] then .ok after.signatures else .error after.errors :=
        Findings.complete_ofTally discovered workers elapsed after
      rw [result, ← none]
      refine ⟨List.isEmpty_iff, fun empty => if_pos empty, fun some => if_neg some⟩
  · intro senders
    refine ⟨fun run chain => length_le_of_falls Feed.remaining_lt chain, fun last path => ?_⟩
    refine ⟨Feed.stuck_iff_done (Feed.settled_of_reaches path), fun done => ?_⟩
    obtain ⟨arrived, merged, absorbed⟩ := Feed.tally_of_start path done
    refine ⟨⟨arrived, merged, absorbed⟩, fun same => ?_, fun single => ?_⟩
    · have all := merged.perm.trans same
      rw [absorbed]
      exact ⟨Tally.signatures_of_perm all, Tally.errors_of_perm all⟩
    · subst single
      rw [absorbed, merged.eq_of_single]

-- Two senders, and between two files a scan that panicked.
theorem gathering_ignores_order_panic :
    let put : Outcome Scanned := .ok (.ok ["Put()".toList])
    let get : Outcome Scanned := .ok (.ok ["Get()".toList])
    let panic : Outcome Scanned := .error (.taskPanicked 1 "boom")
    ∃ last, Feed.Reaches (.start [[get, panic], [put]]) last ∧ last.isDone = true ∧
      [get, panic, put].Perm [put, panic, get] ∧
      last.tally.finish.1 = ["Get()".toList, "Put()".toList] ∧
      last.tally.errors.Perm [.workerPanicked "boom"] := by
  intro put get panic
  obtain ⟨last, path, stuck⟩ := exists_end_of_falls Feed.remaining_lt (.start [[get, panic], [put]])
  have same : [get, panic, put].Perm [put, panic, get] := List.reverse_perm [put, panic, get]
  obtain ⟨signatures, -, -, -, -, threaded⟩ := gathering_ignores_order [put, panic, get]
  obtain ⟨ended, gathered⟩ := (threaded [[get, panic], [put]]).2 last path
  obtain ⟨-, reordered, -⟩ := gathered (ended.mp stuck)
  obtain ⟨first, errors⟩ := reordered same
  have ordered : Tally.InByteOrder ["Get()".toList, "Put()".toList] := by
    unfold Tally.InByteOrder
    decide +kernel
  have sorted := (signatures ["Get()".toList, "Put()".toList]).mpr ⟨.swap _ _ _, ordered⟩
  exact ⟨last, path, ended.mp stuck, same, first.trans sorted.symm, errors⟩

end InterfaceDraft.Extraction
