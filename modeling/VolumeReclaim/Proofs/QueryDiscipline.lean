import Mathlib.Data.List.Nodup
import VolumeReclaim.Proofs.SweepChain

/-!
The discipline of a wait. Its questions are sweeps over the volumes that remain, and so no volume is
asked about after it was found gone. Every volume found gone is noted once, every failed query is
noted once, and the wait ends well exactly if no volume remains.
-/
set_option autoImplicit false

namespace VolumeReclaim.Poll

variable {τ σ : Type}

def Question.failed (question : Question) : Bool :=
  match question.answer with
  | .error (.volumeQuery _ _) => true
  | _ => false

def deletedLine (id : String) : LogLine := ⟨.debug, deletedText (.str id)⟩

theorem deletedLine_injective : Function.Injective deletedLine := by
  intro first second same
  have texts : deletedText (.str first) = deletedText (.str second) := congrArg LogLine.text same
  rw [deletedText, deletedText] at texts
  exact (String.append_right_inj _).mp ((String.append_left_inj _).mp texts)

/-- Among the lines of some questions about texts, a volume is noted as deleted as often as it was
found gone. -/
theorem count_deletedLine {questions : List Question}
    (texts : ∀ question ∈ questions, ∃ id, question.volumeId = .str id) (id : String) :
    (questions.flatMap Question.lines).count (deletedLine id) = (goneIds questions).count id := by
  induction questions with
  | nil => rfl
  | cons question rest ih =>
    obtain ⟨⟨other, named⟩, later⟩ := List.forall_mem_cons.mp texts
    obtain ⟨volumeId, answer⟩ := question
    cases named
    rw [List.flatMap_cons, List.count_append, ih later]
    cases heard answer with
    | present => simp [Question.lines, goneIds]
    | gone =>
      have noted : Question.lines ⟨.str other, .ok false⟩ = [deletedLine other] := rfl
      have more : goneIds (⟨.str other, .ok false⟩ :: rest) = other :: goneIds rest := rfl
      rw [noted, more, List.count_singleton, List.count_cons, Nat.add_comm]
      simp only [beq_iff_eq, deletedLine_injective.eq_iff]
    | failed volumeId message => simp [Question.lines, goneIds, deletedLine]
    | cut message => simp [Question.lines, goneIds]
    | stray failure escaping =>
      have silent : Question.lines ⟨.str other, .error failure⟩ = [] := by
        cases failure <;> first | rfl | simp [escapes] at escaping
      have same : goneIds (⟨.str other, .error failure⟩ :: rest) = goneIds rest := rfl
      rw [silent, same, List.count_nil, Nat.zero_add]

theorem count_warnings (questions : List Question) :
    (questions.flatMap Question.lines).countP (·.level = .warning) =
      questions.countP Question.failed := by
  induction questions with
  | nil => rfl
  | cons question rest ih =>
    rw [List.flatMap_cons, List.countP_append, ih, List.countP_cons, Nat.add_comm]
    congr 1
    obtain ⟨volumeId, answer⟩ := question
    cases heard answer with
    | stray failure escaping =>
      cases failure <;> rfl
    | _ => rfl

/-- The questions of a wait that ended: they fall into sweeps, the last of which leaves these
volumes. -/
structure QueryDiscipline (ids : List String) (run : Logged (Timed τ σ))
    (ended : Except Failure Unit × Logged (Timed τ σ)) (rounds : List (List Question))
    (last : List String) : Prop where
  sweeps : Sweeps ids.eraseDups rounds last
  returns : ended.1 = .ok () ↔ last = []
  raises : last ≠ [] →
    ended.1 = .error (.notDeleted (last.map .str) ended.2.state.context.cancelled)
  ordered : last.Sublist ids.eraseDups
  distinct : last.Nodup
  remains : ∀ id, id ∈ last ↔ id ∈ ids ∧ id ∉ goneIds rounds.flatten
  settled : rounds.flatten.Pairwise fun earlier later =>
    earlier.answer = .ok false → later.volumeId ≠ earlier.volumeId
  lines : ended.2.lines.toList = run.lines.toList ++ rounds.flatten.flatMap Question.lines
  deletions : ∀ id, (rounds.flatten.flatMap Question.lines).count (deletedLine id) =
    if id ∈ goneIds rounds.flatten then 1 else 0
  warnings : (rounds.flatten.flatMap Question.lines).countP (·.level = .warning) =
    rounds.flatten.countP Question.failed

variable [Time τ]

/-- Whatever a checker answers, a wait that ends asks in sweeps over the volumes that remain. -/
theorem untilGone_query_discipline (check : Checker τ σ) (interval : τ) (limit : Nat)
    (ids : List String) (run : Logged (Timed τ σ))
    (answers : ∀ id world failure, (check id world).1 = .error failure → escapes failure = false)
    (ends : (untilGone check interval limit (ids.map .str) run).1 ≠ .error .turnLimit) :
    ∃ rounds last final,
      untilGone (recorded check) interval limit (ids.map .str) (unasked run) =
        ((untilGone check interval limit (ids.map .str) run).1, final) ∧
      unrecorded final = (untilGone check interval limit (ids.map .str) run).2 ∧
      final.state.services.2 = rounds.flatten ∧
      QueryDiscipline ids run (untilGone check interval limit (ids.map .str) run) rounds last := by
  have steady : Steady (recorded check) fun _ => True := ⟨fun _ _ _ => trivial, fun _ _ _ => trivial⟩
  obtain ⟨ended, recorded, plain, -, account⟩ :=
    untilGone_account steady interval limit ids trivial
  rw [plain] at ends ⊢
  rw [recorded]
  cases account with
  | @complete rounds last final chain record =>
    have distinct := chain.sublist.nodup (nodup_eraseDups ids)
    have once := chain.pairwise (nodup_eraseDups ids)
    refine ⟨rounds, last, final, rfl, rfl, record.record, ?_⟩
    exact
      { sweeps := chain
        returns := by
          by_cases none : last = []
          · simp [conclusion, none]
          · simp [conclusion, none]
        raises := fun some => if_neg some
        ordered := chain.sublist
        distinct := distinct
        remains := fun id => by rw [chain.mem_last, List.mem_eraseDups]
        settled := once
        lines := record.lines
        deletions := by
          intro id
          have texts : ∀ question ∈ rounds.flatten, ∃ id, question.volumeId = .str id := by
            intro question member
            obtain ⟨id, -, named⟩ := chain.asked question member
            exact ⟨id, named⟩
          rw [count_deletedLine texts, (goneIds_nodup once).count]
        warnings := count_warnings _ }
  | spent final => exact absurd rfl ends
  | @stray id world failure final holds answer escaping =>
    rw [answers id ⟨world.context, world.services.1⟩ failure answer] at escaping
    cases escaping

/-- A checker that fails at first, finds the second volume gone, is then cut short, and after that
finds every volume gone. -/
def unsteady : Checker Rat Nat := fun id world =>
  let answer := match world.services with
    | 0 => .error (.volumeQuery id "throttled")
    | 1 => .ok false
    | 2 => .error (.contextDone "context cancelled")
    | _ => .ok false
  (answer, { world with services := world.services + 1 })

/-- A run before its first question to an unsteady checker. -/
def unsteadyRun : Logged (Timed Rat Nat) := ⟨⟨Context.create 0 none none, 0⟩, #[]⟩

theorem untilGone_query_discipline_unsteady :
    (∀ id world failure, (unsteady id world).1 = .error failure → escapes failure = false) ∧
      (untilGone unsteady 2 9 (["v1", "v2", "v1", "v3", "v4"].map .str) unsteadyRun).1 = .ok () ∧
      ∃ rounds last,
        QueryDiscipline ["v1", "v2", "v1", "v3", "v4"] unsteadyRun
          (untilGone unsteady 2 9 (["v1", "v2", "v1", "v3", "v4"].map .str) unsteadyRun)
          rounds last := by
  have answers : ∀ id world failure, (unsteady id world).1 = .error failure →
      escapes failure = false := by
    intro id world failure failed
    simp only [unsteady] at failed
    split at failed <;> cases failed <;> rfl
  have returns :
      (untilGone unsteady 2 9 (["v1", "v2", "v1", "v3", "v4"].map .str) unsteadyRun).1 = .ok () :=
    eq_ok_of_isOk (by decide +kernel)
  refine ⟨answers, returns, ?_⟩
  obtain ⟨rounds, last, final, -, -, -, discipline⟩ := untilGone_query_discipline unsteady 2 9
    ["v1", "v2", "v1", "v3", "v4"] unsteadyRun answers (by rw [returns]; exact nofun)
  exact ⟨rounds, last, discipline⟩

end VolumeReclaim.Poll
