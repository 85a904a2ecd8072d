import VolumeReclaim.Proofs.QueryRecord
import VolumeReclaim.Proofs.TextKeys

/-!
The sweeps of a wait. Each goes over the volumes that those before it did not find gone, and is cut
short only by a context that is done. The volumes that remain after the last of them decide how the
wait ends.
-/
set_option autoImplicit false

namespace VolumeReclaim.Poll

variable {τ σ : Type}

/-- One sweep: every volume is asked about once, in order, and is kept, dropped, or kept with all
after it when the context is done. -/
inductive Swept : List String → List Question → List String → Prop where
  | nothing : Swept [] [] []
  | kept {id : String} {rest kept : List String} {questions : List Question}
      (answer : Except Failure Bool)
      (stays : answer = .ok true ∨ ∃ volumeId message, answer = .error (.volumeQuery volumeId message))
      (later : Swept rest questions kept) :
      Swept (id :: rest) (⟨.str id, answer⟩ :: questions) (id :: kept)
  | dropped {id : String} {rest kept : List String} {questions : List Question}
      (later : Swept rest questions kept) :
      Swept (id :: rest) (⟨.str id, .ok false⟩ :: questions) kept
  | cut {id : String} {rest : List String} (message : String) :
      Swept (id :: rest) [⟨.str id, .error (.contextDone message)⟩] (id :: rest)

theorem sweep_swept (check : Checker τ σ) (ids : List String)
    {run after : Logged (Timed τ (σ × List Question))} {kept : List Json}
    (swept : sweep (recorded check) (ids.map .str) run = (.ok kept, after)) :
    ∃ questions left, kept = left.map .str ∧ Swept ids questions left ∧
      Recorded questions run after := by
  induction ids generalizing run kept with
  | nil =>
    cases swept
    exact ⟨[], [], rfl, .nothing, .refl _⟩
  | cons id rest ih =>
    rw [List.map_cons] at swept
    generalize answer : (recorded check (.str id) run.state).1 = verdict
    cases heard verdict with
    | present =>
      rw [sweep_present answer] at swept
      obtain ⟨left, later, rfl⟩ := retain_eq_ok swept
      obtain ⟨questions, left, rfl, course, record⟩ := ih later
      exact ⟨⟨.str id, .ok true⟩ :: questions, id :: left, rfl, .kept _ (.inl rfl) course,
        (recorded_silent answer rfl).trans record⟩
    | gone =>
      rw [sweep_gone answer] at swept
      obtain ⟨questions, left, rfl, course, record⟩ := ih swept
      exact ⟨⟨.str id, .ok false⟩ :: questions, left, rfl, .dropped course,
        (recorded_noted answer rfl).trans record⟩
    | failed volumeId message =>
      rw [sweep_failed answer] at swept
      obtain ⟨left, later, rfl⟩ := retain_eq_ok swept
      obtain ⟨questions, left, rfl, course, record⟩ := ih later
      exact ⟨⟨.str id, .error (.volumeQuery volumeId message)⟩ :: questions, id :: left, rfl,
        .kept _ (.inr ⟨volumeId, message, rfl⟩) course, (recorded_noted answer rfl).trans record⟩
    | cut message =>
      rw [sweep_cut answer] at swept
      cases swept
      exact ⟨[⟨.str id, .error (.contextDone message)⟩], id :: rest, rfl, .cut message,
        recorded_silent answer rfl⟩
    | stray failure escaping =>
      rw [sweep_stray answer escaping] at swept
      cases swept

/-- The questions of one sweep: every remaining volume once and in order, or the first of them up to
one that found the context done. -/
def IsSweep (remaining : List String) (questions : List Question) : Prop :=
  (questions.map (·.volumeId) = remaining.map .str ∧
      ∀ question ∈ questions, question.cut = false) ∨
    (questions.map (·.volumeId) <+: remaining.map .str ∧
      ∃ earlier last, questions = earlier ++ [last] ∧
        (∀ question ∈ earlier, question.cut = false) ∧ last.cut = true)

/-- The sweeps of a wait, and the volumes that remain after them: each sweep goes over the volumes
of the one before without those that were found gone. -/
inductive Sweeps : List String → List (List Question) → List String → Prop where
  | finished (remaining : List String) : Sweeps remaining [] remaining
  | next {remaining last : List String} {questions : List Question} {later : List (List Question)}
      (some : remaining ≠ []) (course : IsSweep remaining questions)
      (rest : Sweeps (remaining.filter (· ∉ goneIds questions)) later last) :
      Sweeps remaining (questions :: later) last

theorem Swept.volumeIds_prefix {ids left : List String} {questions : List Question}
    (swept : Swept ids questions left) : questions.map (·.volumeId) <+: ids.map .str := by
  induction swept with
  | nothing => exact List.prefix_rfl
  | kept answer stays later ih => exact List.prefix_cons_inj _ |>.mpr ih
  | dropped later ih => exact List.prefix_cons_inj _ |>.mpr ih
  | cut message => exact List.prefix_cons_inj _ |>.mpr List.nil_prefix

theorem IsSweep.cons {id : String} {rest : List String} {questions : List Question}
    {answer : Except Failure Bool} (course : IsSweep rest questions)
    (uncut : Question.cut ⟨.str id, answer⟩ = false) :
    IsSweep (id :: rest) (⟨.str id, answer⟩ :: questions) := by
  obtain ⟨all, smooth⟩ | ⟨some, earlier, last, split, smooth, cut⟩ := course
  · exact .inl ⟨by rw [List.map_cons, all, List.map_cons],
      List.forall_mem_cons.mpr ⟨uncut, smooth⟩⟩
  · exact .inr ⟨List.prefix_cons_inj _ |>.mpr some, ⟨.str id, answer⟩ :: earlier, last,
      by rw [split, List.cons_append], List.forall_mem_cons.mpr ⟨uncut, smooth⟩, cut⟩

theorem Swept.isSweep {ids left : List String} {questions : List Question}
    (swept : Swept ids questions left) : IsSweep ids questions := by
  induction swept with
  | nothing => exact .inl ⟨rfl, by simp⟩
  | kept answer stays later ih =>
    apply ih.cons
    obtain rfl | ⟨volumeId, message, rfl⟩ := stays <;> rfl
  | dropped later ih => exact ih.cons rfl
  | cut message =>
    exact .inr ⟨List.prefix_cons_inj _ |>.mpr List.nil_prefix, [], _, rfl, by simp, rfl⟩

theorem mem_goneIds {questions : List Question} {id : String} :
    id ∈ goneIds questions ↔ ⟨.str id, .ok false⟩ ∈ questions := by
  constructor
  · intro found
    obtain ⟨question, member, gone⟩ := List.mem_filterMap.mp found
    split at gone
    · cases gone
      exact member
    · cases gone
  · intro member
    exact List.mem_filterMap.mpr ⟨_, member, rfl⟩

theorem goneIds_append (first second : List Question) :
    goneIds (first ++ second) = goneIds first ++ goneIds second :=
  List.filterMap_append

theorem goneIds_subset {ids : List String} {questions : List Question}
    (asked : questions.map (·.volumeId) <+: ids.map .str) :
    ∀ id ∈ goneIds questions, id ∈ ids := by
  intro id found
  have listed : Json.str id ∈ ids.map Json.str :=
    asked.subset (List.mem_map.mpr ⟨_, mem_goneIds.mp found, rfl⟩)
  obtain ⟨other, present, same⟩ := List.mem_map.mp listed
  exact Json.str.inj same ▸ present

theorem Swept.left_eq {ids left : List String} {questions : List Question}
    (swept : Swept ids questions left) (distinct : ids.Nodup) :
    left = ids.filter (· ∉ goneIds questions) := by
  induction swept with
  | nothing => rfl
  | @kept id rest left questions answer stays later ih =>
    obtain ⟨fresh, others⟩ := List.nodup_cons.mp distinct
    have same : goneIds (⟨.str id, answer⟩ :: questions) = goneIds questions := by
      obtain rfl | ⟨volumeId, message, rfl⟩ := stays <;> rfl
    have absent : id ∉ goneIds questions :=
      fun found => fresh (goneIds_subset later.volumeIds_prefix id found)
    rw [same, List.filter_cons_of_pos (by simpa using absent), ← ih others]
  | @dropped id rest left questions later ih =>
    obtain ⟨fresh, others⟩ := List.nodup_cons.mp distinct
    have more : goneIds (⟨.str id, .ok false⟩ :: questions) = id :: goneIds questions := rfl
    rw [more, List.filter_cons_of_neg (by simp), ih others]
    apply List.filter_congr
    intro other member
    have apart : other ≠ id := fun same => fresh (same ▸ member)
    simp [apart]
  | cut message => exact (List.filter_eq_self.mpr (by simp [goneIds])).symm

theorem IsSweep.volumeIds_prefix {remaining : List String} {questions : List Question}
    (course : IsSweep remaining questions) :
    questions.map (·.volumeId) <+: remaining.map .str := by
  obtain ⟨all, -⟩ | ⟨some, -⟩ := course
  · exact ⟨[], by rw [List.append_nil, all]⟩
  · exact some

section Chain

variable {remaining last : List String} {rounds : List (List Question)}

theorem Sweeps.sublist (chain : Sweeps remaining rounds last) : last.Sublist remaining := by
  induction chain with
  | finished => exact List.Sublist.refl _
  | next some course rest ih => exact ih.trans List.filter_sublist

theorem Sweeps.asked (chain : Sweeps remaining rounds last) :
    ∀ question ∈ rounds.flatten, ∃ id ∈ remaining, question.volumeId = .str id := by
  induction chain with
  | finished => simp
  | next some course rest ih =>
    intro question member
    rw [List.flatten_cons, List.mem_append] at member
    obtain now | later := member
    · have listed := course.volumeIds_prefix.subset (List.mem_map_of_mem now)
      obtain ⟨id, present, same⟩ := List.mem_map.mp listed
      exact ⟨id, present, same.symm⟩
    · obtain ⟨id, present, same⟩ := ih question later
      exact ⟨id, (List.mem_filter.mp present).1, same⟩

theorem Sweeps.mem_last (chain : Sweeps remaining rounds last) (id : String) :
    id ∈ last ↔ id ∈ remaining ∧ id ∉ goneIds rounds.flatten := by
  induction chain with
  | finished => simp [goneIds]
  | next some course rest ih =>
    rw [ih, List.mem_filter, List.flatten_cons, goneIds_append, List.mem_append]
    simp only [decide_eq_true_eq]
    tauto

theorem Sweeps.pairwise (chain : Sweeps remaining rounds last) (distinct : remaining.Nodup) :
    rounds.flatten.Pairwise fun earlier later =>
      earlier.answer = .ok false → later.volumeId ≠ earlier.volumeId := by
  induction chain with
  | finished => exact List.Pairwise.nil
  | @next remaining last questions later some course rest ih =>
    rw [List.flatten_cons, List.pairwise_append]
    refine ⟨?_, ih (distinct.filter _), ?_⟩
    · have apart : (remaining.map Json.str).Nodup :=
        List.Pairwise.map _ (fun _ _ apart same => apart (Json.str.inj same)) distinct
      have different := List.Nodup.sublist course.volumeIds_prefix.sublist apart
      rw [List.Nodup, List.pairwise_map] at different
      exact different.imp fun unequal _ same => unequal same.symm
    · intro question now other after gone same
      obtain ⟨id, present, named⟩ := rest.asked other after
      have found : ⟨.str id, .ok false⟩ ∈ questions := by
        rw [← named, same, ← gone]
        exact now
      have kept := (List.mem_filter.mp present).2
      exact absurd (mem_goneIds.mpr found) (by simpa using kept)

theorem goneIds_nodup {questions : List Question}
    (once : questions.Pairwise fun earlier later =>
      earlier.answer = .ok false → later.volumeId ≠ earlier.volumeId) :
    (goneIds questions).Nodup := by
  rw [goneIds, List.Nodup, List.pairwise_filterMap]
  refine once.imp ?_
  intro earlier later apart id first other second same
  split at first
  · split at second
    · cases first
      cases second
      exact apart rfl (congrArg Json.str same.symm)
    · cases second
  · cases first

end Chain

def conclusion (last : List String) (cancelled : Bool) : Except Failure Unit :=
  if last = [] then .ok () else .error (.notDeleted (last.map .str) cancelled)

variable [Time τ]

/-- How a wait that keeps account of its questions ends: with its record in sweeps, after too many
sweeps, or with a failure of its checker. Volumes are left only if the run has to stop. -/
inductive Accounted (check : Checker τ σ) (P : Timed τ (σ × List Question) → Prop)
    (ids : List String) (run : Logged (Timed τ (σ × List Question))) :
    Except Failure Unit × Logged (Timed τ (σ × List Question)) → Prop where
  | complete {rounds : List (List Question)} {last : List String}
      {final : Logged (Timed τ (σ × List Question))} (chain : Sweeps ids rounds last)
      (record : Recorded rounds.flatten run final)
      (stopped : last ≠ [] → final.state.context.done = true) :
      Accounted check P ids run (conclusion last final.state.context.cancelled, final)
  | spent (final : Logged (Timed τ (σ × List Question)))
      (open_ : final.state.context.done = false) :
      Accounted check P ids run (.error .turnLimit, final)
  | stray {id : Json} {world : Timed τ (σ × List Question)} {failure : Failure}
      {final : Logged (Timed τ (σ × List Question))} (holds : P world)
      (answer : (recorded check id world).1 = .error failure)
      (escaping : escapes failure = true) (left : (recorded check id world).2 = final.state) :
      Accounted check P ids run (.error failure, final)

theorem sweeps_account {check : Checker τ σ} {P : Timed τ (σ × List Question) → Prop}
    (steady : Steady (recorded check) P) (interval : τ) (limit : Nat) {ids : List String}
    (run : Logged (Timed τ (σ × List Question))) (distinct : ids.Nodup) (holds : P run.state) :
    Accounted check P ids run (sweeps (recorded check) interval limit (ids.map .str) run) := by
  obtain ⟨remaining, texts⟩ : ∃ remaining, remaining = ids.map Json.str := ⟨_, rfl⟩
  rw [← texts]
  induction limit, remaining, run using sweeps_induction (recorded check) interval
      generalizing ids with
  | nil limit run =>
    cases List.map_eq_nil_iff.mp texts.symm
    exact .complete (.finished []) (.refl run) fun some => absurd rfl some
  | done limit remaining run some halted =>
    subst texts
    have left : ids ≠ [] := fun none => some (none ▸ rfl)
    have outcome := Failure.ofRemaining_str ids run.state.context.cancelled
    have concluded : Accounted check P ids run
        (conclusion ids run.state.context.cancelled, run) :=
      .complete (.finished ids) (.refl run) fun _ => halted
    rw [conclusion, if_neg left] at concluded
    rw [outcome]
    exact concluded
  | spent remaining run some halted => exact .spent run halted
  | error limit remaining run failure after some halted swept =>
    obtain ⟨id, world, before, answer, escaping⟩ := sweep_error steady.asks run holds swept
    exact .stray before (congrArg Prod.fst answer) escaping (congrArg Prod.snd answer)
  | next limit remaining run kept after some halted swept ih =>
    subst texts
    obtain ⟨questions, left, rfl, course, record⟩ := sweep_swept check ids swept
    have after_holds := sweep_keeps steady.asks (ids.map .str) run holds
    rw [swept] at after_holds
    have kept := course.left_eq distinct
    have asked := record.trans (recorded_pause interval (left.map .str) after)
    rw [List.append_nil] at asked
    have later := ih (kept ▸ distinct.filter _) (pause_keeps steady interval _ after after_holds) rfl
    generalize sweeps (recorded check) interval limit _ _ = ended at later ⊢
    cases later with
    | complete chain rest stopped =>
      have some : ids ≠ [] := fun none => some (none ▸ rfl)
      exact .complete (.next some course.isSweep (kept ▸ chain)) (asked.trans rest) stopped
    | spent final open_ => exact .spent final open_
    | stray before answer escaping left => exact .stray before answer escaping left

/-- A wait takes the same course without its record, is accounted for by it, and keeps whatever is
kept by every question and every sleep. -/
theorem untilGone_account {check : Checker τ σ} {P : Timed τ (σ × List Question) → Prop}
    (steady : Steady (recorded check) P) (interval : τ) (limit : Nat) (ids : List String)
    {run : Logged (Timed τ σ)} (holds : P (unasked run).state) :
    ∃ ended,
      untilGone (recorded check) interval limit (ids.map .str) (unasked run) = ended ∧
      untilGone check interval limit (ids.map .str) run = ended.map id unrecorded ∧
      P ended.2.state ∧ Accounted check P ids.eraseDups (unasked run) ended := by
  have erased := untilGone_recorded check interval limit (ids.map .str) (unasked run)
  have kept := sweeps_keeps steady interval limit (ids.eraseDups.map .str) (unasked run) holds
  have account := sweeps_account steady interval limit (unasked run) (nodup_eraseDups ids) holds
  have waited : untilGone (recorded check) interval limit (ids.map .str) (unasked run) =
      sweeps (recorded check) interval limit (ids.eraseDups.map .str) (unasked run) := by
    rw [untilGone, Json.distinct_str]
  rw [waited] at erased ⊢
  exact ⟨_, rfl, erased.symm, kept, account⟩

end VolumeReclaim.Poll
