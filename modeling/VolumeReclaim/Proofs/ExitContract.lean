import VolumeReclaim.CommandLine.Run
import VolumeReclaim.Proofs.Interrupts

/-!
The exit status of the command. It tells apart a run that ended well, one with volumes left, one
that failed for good and one from which a failure escapes. Whatever comes of the run, the interrupt
signal is handled as before at the end.
-/
set_option autoImplicit false

namespace VolumeReclaim

namespace Poll

variable {τ σ : Type} {check : Checker τ σ}

theorem sweep_sublist {ids kept : List Json} {run after : Logged (Timed τ σ)}
    (swept : sweep check ids run = (.ok kept, after)) : kept.Sublist ids := by
  induction ids generalizing run kept with
  | nil =>
    cases swept
    exact List.Sublist.refl []
  | cons id rest ih =>
    generalize answer : (check id run.state).1 = verdict
    cases heard verdict with
    | present =>
      rw [sweep_present answer] at swept
      obtain ⟨left, later, rfl⟩ := retain_eq_ok swept
      exact (ih later).cons_cons id
    | gone =>
      rw [sweep_gone answer] at swept
      exact (ih swept).cons id
    | failed volumeId message =>
      rw [sweep_failed answer] at swept
      obtain ⟨left, later, rfl⟩ := retain_eq_ok swept
      exact (ih later).cons_cons id
    | cut message =>
      rw [sweep_cut answer] at swept
      cases swept
      exact List.Sublist.refl _
    | stray failure escaping =>
      rw [sweep_stray answer escaping] at swept
      cases swept

variable [Time τ]

/-- The volumes that a wait names as not deleted: some of those it went over, in order. The context
has to stop, and it is said whether that is because it was cancelled. -/
structure Named (ids : List Json) (texts : List String) (cancelled : Bool) (context : Context τ) :
    Prop where
  order : (texts.map Json.str).Sublist ids
  reason : cancelled = context.cancelled
  expired : cancelled = false → context.expired = true

theorem named_of_done {remaining named : List Json} {cancelled : Bool} {context : Context τ}
    (halted : context.done = true)
    (failed : Failure.ofRemaining remaining context.cancelled = .notDeleted named cancelled) :
    ∃ texts : List String, named = texts.map .str ∧ Named remaining texts cancelled context := by
  obtain ⟨rfl, rfl, texts, rfl⟩ := Failure.texts_of_ofRemaining failed
  refine ⟨texts, rfl, List.Sublist.refl _, rfl, fun uncancelled => ?_⟩
  rwa [Context.done, uncancelled, Bool.false_or] at halted

theorem sweeps_named {P : Timed τ σ → Prop} (steady : Steady check P)
    (plain : ∀ id world, P world → Unjudged (check id world).1) (interval : τ) (limit : Nat)
    {remaining named : List Json} {cancelled : Bool} {run : Logged (Timed τ σ)}
    (holds : P run.state)
    (failed : (sweeps check interval limit remaining run).1 =
      .error (.notDeleted named cancelled)) :
    ∃ texts : List String, named = texts.map .str ∧ Named remaining texts cancelled
      (sweeps check interval limit remaining run).2.state.context := by
  induction limit, remaining, run using sweeps_induction check interval with
  | nil => cases failed
  | done limit remaining run some halted => exact named_of_done halted (Except.error.inj failed)
  | spent => cases failed
  | error limit remaining run failure after some halted swept =>
    obtain ⟨id, world, before, answer, -⟩ := sweep_error steady.asks run holds swept
    have verdict := plain id world before failure (congrArg Prod.fst answer)
    cases Except.error.inj failed
    cases verdict
  | next limit remaining run kept after some halted swept ih =>
    have between := sweep_keeps steady.asks remaining run holds
    rw [swept] at between
    obtain ⟨texts, same, later⟩ := ih (pause_keeps steady interval kept after between) failed
    exact ⟨texts, same, { later with order := later.order.trans (sweep_sublist swept) }⟩

theorem untilGone_named {P : Timed τ σ → Prop} (steady : Steady check P)
    (plain : ∀ id world, P world → Unjudged (check id world).1) (interval : τ) (limit : Nat)
    {ids named : List Json} {cancelled : Bool} {run : Logged (Timed τ σ)} (holds : P run.state)
    (failed : (untilGone check interval limit ids run).1 = .error (.notDeleted named cancelled)) :
    ∃ texts : List String, named = texts.map .str ∧
      Named ids texts cancelled (untilGone check interval limit ids run).2.state.context := by
  unfold untilGone at failed ⊢
  cases read : Json.distinct ids with
  | error fault =>
    rw [read] at failed
    cases failed
  | ok remaining =>
    rw [read] at failed
    obtain ⟨texts, same, given⟩ := sweeps_named steady plain interval limit holds failed
    exact ⟨texts, same, { given with order := given.order.trans (Json.distinct_sublist read) }⟩

end Poll

section Reclaiming

variable {τ : Type} [Time τ]

theorem Ec2.unjudged_stillExists (limit : Nat) (volumeId : Json) (world : World τ)
    (foreign : world.services.ec2.script.All Reply.foreign) :
    Unjudged (stillExists limit volumeId world).1 :=
  (evidence_stillExists limit volumeId world foreign).unjudged

theorem World.reclaim_named (context : Json) (interval : τ) (limit : Nat) {run : Logged (World τ)}
    {named : List Json} {cancelled : Bool}
    (foreign : run.state.services.ec2.script.All Ec2.Reply.foreign)
    (failed : (World.reclaim context interval limit run).1 =
      .error (.notDeleted named cancelled)) :
    ∃ (texts : List String) (tracked : List Json), named = texts.map .str ∧
      (Discovery.releaseListed (Kubectl.cluster context) run).1 = .ok tracked ∧
      Poll.Named tracked texts cancelled
        (World.reclaim context interval limit run).2.state.context := by
  have unjudged := Discovery.unjudged_releaseListed (Kubectl.impartial_cluster context) run
  have kept := Discovery.releaseListed_keeps (P := fun world : World τ =>
    world.services.ec2.script.All Ec2.Reply.foreign) (Kubectl.respects_of_keeps context
      fun _ _ holds => holds) foreign
  have bounded : run.state.context.deadline ≠ none := by
    intro missing
    rw [World.reclaim_of_missing interval limit missing] at failed
    cases failed
  cases discovered : (Discovery.releaseListed (Kubectl.cluster context) run).1 with
  | error failure =>
    rw [World.reclaim_of_unreleased interval limit bounded discovered] at failed
    have verdict := unjudged failure discovered
    cases failed
    cases verdict
  | ok tracked =>
    obtain ⟨outcome, state⟩ := World.reclaim_of_released interval limit bounded discovered
    rw [outcome] at failed
    obtain ⟨texts, same, given⟩ := Poll.untilGone_named
      (Ec2.steady_script limit Ec2.Reply.foreign) (Ec2.unjudged_stillExists limit) interval limit
      kept failed
    rw [state]
    exact ⟨texts, tracked, same, rfl, given⟩

end Reclaiming

namespace CommandLine

def start (options : Options) (setting : Setting) : Logged (World Float) :=
  World.timed setting.now options.timeout setting.interruptAt ⟨setting.kubectl, setting.ec2⟩

/-- What comes of the run of the command, if it gets to it: a run is demanded, and the client for
EC2 can be built. -/
structure Ran (demand : Demand) (setting : Setting) (limit : Nat) (options : Options)
    (outcome : Except Failure Unit) (final : Logged (World Float)) : Prop where
  demanded : demand = .run options
  built : setting.sessionFailure = none
  result : World.reclaim (.ofText? options.kubeContext) options.pollInterval limit
    (start options setting) = (outcome, final)

def diary (options : Options) (final : Logged (World Float)) : String :=
  String.join ((printed options.verbose final.lines.toList).map logText)

/-- What a console prints of a message: all of it on a terminal, and elsewhere all but its control
sequences. -/
def complaint (console : Console) (message : String) : String :=
  if console.terminal then s!"Error: {message}\n" else Text.plain s!"Error: {message}\n"

def fatal : Failure → Bool
  | .cluster _ _ | .missingDeadline _ => true
  | _ => false

section Execute

variable {demand : Demand} {setting : Setting} {limit : Nat} {options : Options}
  {final : Logged (World Float)} {failure : Failure}

theorem cancellation_handle (console : Console) (interruptAt : Option Float) :
    (console.handle .cancelRun).handler.cancellation interruptAt = interruptAt :=
  rfl

theorem conclude_stray (unjudged : failure.isVerdict = false) (nonfatal : fatal failure = false)
    (console : Console) : conclude failure console = (exitFatal, console, some failure) := by
  cases failure with
  | notDeleted => cases unjudged
  | cluster => cases nonfatal
  | missingDeadline => cases nonfatal
  | _ => rfl

theorem execute_unbuilt (broken : setting.sessionFailure = some failure) (before : Console) :
    execute options setting limit before =
      ⟨(conclude failure before).1, (conclude failure before).2.1,
        (conclude failure before).2.2,
        (Ec2.connect (.ofText? options.region) (.ofText? options.profile) (some failure)).2,
        some (start options setting).state⟩ := by
  unfold execute
  rw [broken]
  dsimp only [Ec2.connect]
  cases failure <;> rfl

theorem execute_ok (ran : Ran demand setting limit options (.ok ()) final) (before : Console) :
    execute options setting limit before =
      ⟨exitDeleted, (before.report (diary options final)).print successLine, none,
        (Ec2.connect (.ofText? options.region) (.ofText? options.profile) none).2,
        some final.state⟩ := by
  have result := ran.result
  unfold start World.timed at result
  unfold execute
  rw [ran.built]
  dsimp only [Ec2.connect]
  rw [cancellation_handle, result]
  rfl

theorem execute_failed (ran : Ran demand setting limit options (.error failure) final)
    (before : Console) :
    execute options setting limit before =
      ⟨(conclude failure (before.report (diary options final))).1,
        (conclude failure (before.report (diary options final))).2.1,
        (conclude failure (before.report (diary options final))).2.2,
        (Ec2.connect (.ofText? options.region) (.ofText? options.profile) none).2,
        some final.state⟩ := by
  have result := ran.result
  unfold start World.timed at result
  unfold execute
  rw [ran.built]
  dsimp only [Ec2.connect]
  rw [cancellation_handle, result]
  cases failure <;> rfl

/-- The command does not demand a run, or it fails to build the client for EC2, or it runs. -/
inductive Course (demand : Demand) (setting : Setting) (limit : Nat) : Prop where
  | help (shown : demand = .help)
  | unbuilt {options : Options} {failure : Failure} (demanded : demand = .run options)
      (broken : setting.sessionFailure = some failure)
  | ran {options : Options} {outcome : Except Failure Unit} {final : Logged (World Float)}
      (ran : Ran demand setting limit options outcome final)

theorem course (demand : Demand) (setting : Setting) (limit : Nat) :
    Course demand setting limit := by
  cases demand with
  | help => exact .help rfl
  | run options =>
    cases built : setting.sessionFailure with
    | some failure => exact .unbuilt rfl built
    | none => exact .ran ⟨rfl, built, rfl⟩

theorem world_execute (options : Options) (setting : Setting) (limit : Nat) (before : Console) :
    (execute options setting limit before).world = some (
      if setting.sessionFailure.isSome then (start options setting).state
      else (World.reclaim (.ofText? options.kubeContext) options.pollInterval limit
        (start options setting)).2.state) := by
  cases built : setting.sessionFailure with
  | some failure =>
    rw [execute_unbuilt built]
    rfl
  | none =>
    cases result : World.reclaim (.ofText? options.kubeContext) options.pollInterval limit
      (start options setting) with
    | mk outcome final =>
      have ran : Ran (.run options) setting limit options outcome final := ⟨rfl, built, result⟩
      cases outcome with
      | ok =>
        rw [execute_ok ran]
        rfl
      | error failure =>
        rw [execute_failed ran]
        rfl

theorem start_interrupted (options : Options) (setting : Setting) :
    (start options setting).state.context.Interrupted setting.interruptAt ∧
      (start options setting).state.context.deadline = some (setting.now + options.timeout) :=
  ⟨Context.interrupted_create _ _ _, Context.settle_deadline _⟩

theorem reclaim_interrupted (context : Json) (interval : Float) (limit : Nat) (options : Options)
    (setting : Setting) :
    (World.reclaim context interval limit (start options setting)).2.state.context.Interrupted
        setting.interruptAt ∧
      (World.reclaim context interval limit (start options setting)).2.state.context.deadline =
        some (setting.now + options.timeout) := by
  refine World.reclaim_keeps (P := fun world => world.context.Interrupted setting.interruptAt ∧
      world.context.deadline = some (setting.now + options.timeout)) context interval limit ?_
    ((Ec2.steady_interrupted limit).and
      (Ec2.steady_deadline limit (· = some (setting.now + options.timeout))))
    (start_interrupted options setting)
  rintro command world ⟨interrupted, held⟩
  exact ⟨Kubectl.interrupted_afterCommand context command world interrupted,
    (Kubectl.journaled_afterCommand context command world).deadline.trans held⟩

/-- What an interrupt does to a call of the command: it cancels the context, and nothing else. -/
structure OnlyCancels (options : Options) (setting : Setting) (limit : Nat) (before : Console)
    (world : World Float) : Prop where
  interrupted : world.context.Interrupted setting.interruptAt
  deadline : world.context.deadline = some (setting.now + options.timeout)
  kubectl : ∃ undisturbed,
    (execute options { setting with interruptAt := none } limit before).world = some undisturbed ∧
      world.services.kubectl = undisturbed.services.kubectl

theorem onlyCancels_execute (options : Options) (setting : Setting) (limit : Nat)
    (before : Console) :
    ∃ world, (execute options setting limit before).world = some world ∧
      OnlyCancels options setting limit before world := by
  refine ⟨_, world_execute options setting limit before, ?_⟩
  have undisturbed := world_execute options { setting with interruptAt := none } limit before
  dsimp only at undisturbed
  split
  · next broken =>
    rw [if_pos broken] at undisturbed
    obtain ⟨interrupted, held⟩ := start_interrupted options setting
    exact ⟨interrupted, held, _, undisturbed, rfl⟩
  · next built =>
    rw [if_neg built] at undisturbed
    obtain ⟨interrupted, held⟩ := reclaim_interrupted (.ofText? options.kubeContext)
      options.pollInterval limit options setting
    refine ⟨interrupted, held, _, undisturbed, ?_⟩
    exact World.reclaim_kubectl_congr _ _ limit (start_interrupted options _).2
      (start_interrupted options setting).2 rfl rfl

end Execute

def answer (demand : Demand) (setting : Setting) (limit : Nat) (console : Console) : Report :=
  match demand with
  | .help => { status := exitDeleted, console := console.print helpPage }
  | .run options => execute options setting limit console

theorem call_of_accepted {arguments : List String} {environment : Environment} {demand : Demand}
    (accepted : parse arguments environment = .ok demand) (setting : Setting) (limit : Nat)
    (console : Console) :
    call arguments environment setting limit console = answer demand setting limit console := by
  rw [call, accepted]
  cases demand <;> rfl

section Conclude

variable (failure : Failure) (console : Console)

theorem conclude_status : (conclude failure console).1 =
    if failure.isVerdict = true then exitUnfinished else exitFatal := by
  cases failure <;> rfl

theorem conclude_stdout : (conclude failure console).2.1.stdout = console.stdout := by
  cases failure <;> rfl

theorem conclude_handler : (conclude failure console).2.1.handler = console.handler := by
  cases failure <;> rfl

end Conclude

/-- Whether a failure to make the session with AWS, if there is one, is not the command's own. -/
def Setting.foreign (setting : Setting) : Prop :=
  ∀ failure, setting.sessionFailure = some failure →
    failure.isVerdict = false ∧ fatal failure = false

/-- How the command ends. It succeeds if its run does, and says so. If volumes are left it names
them and has an exit status for that. Of a fatal failure it tells the message, and other failures
escape from it. If the client for EC2 cannot be built, the cluster and EC2 are as they were. In any
case the signal is handled as before, and an interrupt has done nothing but cancel the run. -/
structure ExitContract (demand : Demand) (setting : Setting) (limit : Nat) (before : Console)
    (report : Report) : Prop where
  deleted : report.status = exitDeleted ∧ report.console.stdout = before.stdout ++ successLine ↔
    ∃ options final, Ran demand setting limit options (.ok ()) final
  unfinished : report.status = exitUnfinished ↔ ∃ options named cancelled final,
    Ran demand setting limit options (.error (.notDeleted named cancelled)) final
  silent : ∀ options failure final, Ran demand setting limit options (.error failure) final →
    report.console.stdout = before.stdout
  named : ∀ options named cancelled final,
    Ran demand setting limit options (.error (.notDeleted named cancelled)) final →
    ∃ (texts : List String) (tracked : List Json), named = texts.map .str ∧
      (Discovery.releaseListed (Kubectl.cluster (.ofText? options.kubeContext))
        (start options setting)).1 = .ok tracked ∧
      Poll.Named tracked texts cancelled final.state.context ∧ report.escaped = none ∧
      report.console.stderr = before.stderr ++ diary options final ++
        complaint before (Failure.notDeletedMessage (", ".intercalate texts) cancelled) ++
          adviceLine
  told : ∀ options failure final, Ran demand setting limit options (.error failure) final →
    fatal failure = true → report.status = exitFatal ∧ report.escaped = none ∧
      report.console.stderr = before.stderr ++ diary options final ++
        complaint before failure.message
  escaped : ∀ options failure final, Ran demand setting limit options (.error failure) final →
    failure.isVerdict = false → fatal failure = false →
      report.escaped = some failure ∧ report.status ≠ exitUnfinished
  unbuilt : ∀ options failure, demand = .run options → setting.sessionFailure = some failure →
    report.escaped = some failure ∧ report.status ≠ exitUnfinished ∧
      report.console.stdout = before.stdout ∧
      ∃ world, report.world = some world ∧ world.services = ⟨setting.kubectl, setting.ec2⟩
  handler : report.console.handler = before.handler
  interrupt : ∀ options, demand = .run options → ∃ world, report.world = some world ∧
    OnlyCancels options setting limit before world

section Contract

variable {demand : Demand} {setting : Setting} {limit : Nat} {before : Console} {options : Options}
  {final : Logged (World Float)} {failure : Failure}

theorem answer_unbuilt (foreign : setting.foreign) (demanded : demand = .run options)
    (broken : setting.sessionFailure = some failure) :
    answer demand setting limit before =
      ⟨exitFatal, before, some failure,
        (Ec2.connect (.ofText? options.region) (.ofText? options.profile) (some failure)).2,
        some (start options setting).state⟩ := by
  obtain ⟨unjudged, nonfatal⟩ := foreign failure broken
  rw [demanded, answer, execute_unbuilt broken, conclude_stray unjudged nonfatal]

theorem deleted_iff (foreign : setting.foreign) :
    (answer demand setting limit before).status = exitDeleted ∧
        (answer demand setting limit before).console.stdout = before.stdout ++ successLine ↔
      ∃ options final, Ran demand setting limit options (.ok ()) final := by
  constructor
  · rintro ⟨status, printed⟩
    cases course demand setting limit with
    | help shown =>
      rw [shown, answer, Console.print, String.append_right_inj] at printed
      exact absurd printed (by decide)
    | unbuilt demanded broken =>
      rw [answer_unbuilt foreign demanded broken] at status
      cases status
    | @ran options outcome final ran =>
      cases outcome with
      | ok => exact ⟨options, final, ran⟩
      | error failure =>
        rw [ran.demanded, answer, execute_failed ran, conclude_status] at status
        split at status <;> cases status
  · rintro ⟨options, final, ran⟩
    rw [ran.demanded, answer, execute_ok ran]
    exact ⟨rfl, rfl⟩

theorem unfinished_iff (foreign : setting.foreign) :
    (answer demand setting limit before).status = exitUnfinished ↔
      ∃ options named cancelled final,
        Ran demand setting limit options (.error (.notDeleted named cancelled)) final := by
  constructor
  · intro status
    cases course demand setting limit with
    | help shown =>
      rw [shown] at status
      cases status
    | unbuilt demanded broken =>
      rw [answer_unbuilt foreign demanded broken] at status
      cases status
    | @ran options outcome final ran =>
      cases outcome with
      | ok =>
        rw [ran.demanded, answer, execute_ok ran] at status
        cases status
      | error failure =>
        rw [ran.demanded, answer, execute_failed ran, conclude_status] at status
        cases failure with
        | notDeleted named cancelled => exact ⟨options, named, cancelled, final, ran⟩
        | _ => cases status
  · rintro ⟨options, named, cancelled, final, ran⟩
    rw [ran.demanded, answer, execute_failed ran]
    rfl

theorem handler_answer (foreign : setting.foreign) :
    (answer demand setting limit before).console.handler = before.handler := by
  cases course demand setting limit with
  | help shown =>
    rw [shown]
    rfl
  | unbuilt demanded broken => rw [answer_unbuilt foreign demanded broken]
  | @ran options outcome final ran =>
    cases outcome with
    | ok =>
      rw [ran.demanded, answer, execute_ok ran]
      rfl
    | error failure =>
      rw [ran.demanded, answer, execute_failed ran, conclude_handler]
      rfl

theorem named_of_ran {named : List Json} {cancelled : Bool}
    (foreign : setting.ec2.script.All Ec2.Reply.foreign)
    (ran : Ran demand setting limit options (.error (.notDeleted named cancelled)) final) :
    ∃ (texts : List String) (tracked : List Json), named = texts.map .str ∧
      (Discovery.releaseListed (Kubectl.cluster (.ofText? options.kubeContext))
        (start options setting)).1 = .ok tracked ∧
      Poll.Named tracked texts cancelled final.state.context := by
  have answers : (start options setting).state.services.ec2.script.All Ec2.Reply.foreign := foreign
  have failed : (World.reclaim (.ofText? options.kubeContext) options.pollInterval limit
      (start options setting)).1 = .error (.notDeleted named cancelled) := by
    rw [ran.result]
  have course := World.reclaim_named (.ofText? options.kubeContext) options.pollInterval limit
    answers failed
  rwa [ran.result] at course

theorem message_notDeleted (texts : List String) (cancelled : Bool) :
    (Failure.notDeleted (texts.map .str) cancelled).message =
      Failure.notDeletedMessage (", ".intercalate texts) cancelled := by
  have displayed : (texts.map Json.str).map Json.display = texts := by
    rw [List.map_map]
    exact List.map_id texts
  rw [Failure.message, displayed]

end Contract

/-- Every call of the command with an accepted command line keeps the contract. -/
theorem call_exit_contract (arguments : List String) (environment : Environment)
    (demand : Demand) (setting : Setting) (limit : Nat) (before : Console)
    (accepted : parse arguments environment = .ok demand) (foreign : setting.foreign)
    (answers : setting.ec2.script.All Ec2.Reply.foreign) :
    ExitContract demand setting limit before
      (call arguments environment setting limit before) := by
  rw [call_of_accepted accepted]
  refine ⟨deleted_iff foreign, unfinished_iff foreign, ?silent, ?named, ?told, ?escaped, ?unbuilt,
    handler_answer foreign, ?interrupt⟩
  case silent =>
    intro options failure final ran
    rw [ran.demanded, answer, execute_failed ran, conclude_stdout]
    rfl
  case named =>
    intro options named cancelled final ran
    obtain ⟨texts, tracked, rfl, discovered, given⟩ := named_of_ran answers ran
    rw [ran.demanded, answer, execute_failed ran]
    refine ⟨texts, tracked, rfl, discovered, given, rfl, ?_⟩
    rw [← message_notDeleted]
    rfl
  case told =>
    intro options failure final ran stated
    rw [ran.demanded, answer, execute_failed ran]
    cases failure with
    | cluster => exact ⟨rfl, rfl, rfl⟩
    | missingDeadline => exact ⟨rfl, rfl, rfl⟩
    | _ => cases stated
  case escaped =>
    intro options failure final ran unjudged nonfatal
    rw [ran.demanded, answer, execute_failed ran, conclude_stray unjudged nonfatal]
    exact ⟨rfl, nofun⟩
  case unbuilt =>
    intro options failure demanded broken
    rw [answer_unbuilt foreign demanded broken]
    exact ⟨rfl, nofun, rfl, _, rfl, rfl⟩
  case interrupt =>
    intro options demanded
    rw [demanded]
    exact onlyCancels_execute options setting limit before

def halted : Setting :=
  { interruptAt := some 0.5, kubectl := lingering.kubectl, ec2 := lingering.ec2 }

theorem call_exit_contract_halted :
    (call [] [] halted 9 {}).status = exitUnfinished ∧
      (call [] [] halted 9 {}).console.stderr =
        "INFO pv_reaper.cleanup: deleted 1 EBS-backed Kubernetes Persistent Volume(s)\n" ++
          "Error: cancelled while waiting for AWS EBS volumes to be deleted: v\n" ++ adviceLine ∧
      ExitContract (.run {}) halted 9 {} (call [] [] halted 9 {}) := by
  refine ⟨by decide +kernel, by decide +kernel, ?_⟩
  refine call_exit_contract [] [] (.run {}) halted 9 {} rfl nofun ?_
  simp [halted, lingering, Script.All, Ec2.Reply.foreign, Ec2.Answer.volumes]

def coloured : Setting :=
  { kubectl := { replies :=
      [{ ending := .completed
          { status := .int 1, stderr := .str "\x1b[31mboom\x1b[0m" } }] } }

/-- What is told of a fatal failure is not always its message. -/
theorem call_tells_without_colour : ∃ message final,
    Ran (.run {}) coloured 0 {} (.error (.cluster message false)) final ∧
      ¬ s!"Error: {message}".toList <:+: (call [] [] coloured 0 {}).console.stderr.toList := by
  refine ⟨"cannot list Kubernetes Persistent Volumes: \x1b[31mboom\x1b[0m", _,
    ⟨rfl, rfl, Prod.ext rfl rfl⟩, ?_⟩
  decide +kernel

end CommandLine

end VolumeReclaim
