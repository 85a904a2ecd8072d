import VolumeReclaim.Proofs.Complaints
import VolumeReclaim.Proofs.ExitContract
import VolumeReclaim.Proofs.LongerValue

/-!
A listing that breaks off. Every part of an object's text that stops before the closing brace is
refused by the reader, since otherwise the object would have been closed inside the part. So a
listing of which only a part arrives is a failure of kubectl, and nothing is built on it.
-/
set_option autoImplicit false

namespace VolumeReclaim

namespace Json

section Objects

theorem isObject_numeral {negative : Bool} {digits rest after : List Char} {content : Json}
    (read : numeral negative digits rest = .ok (content, after)) : content.isObject = false := by
  unfold numeral at read
  dsimp only at read
  split at read
  · split at read
    · cases read
    · cases read
      rfl
  · cases read
    rfl

theorem isObject_unsignedNumber {negative : Bool} {text after : List Char}
    {content : Json} {other : Except Stop (Json × List Char)}
    (read : (unsignedNumber negative text).getD other = .ok (content, after)) :
    other = .ok (content, after) ∨ content.isObject = false := by
  rw [unsignedNumber_eq] at read
  split at read
  · exact .inl read
  · exact .inr (isObject_numeral read)

theorem isObject_scalar {text after : List Char} {content : Json}
    (read : scalar text = .ok (content, after)) : content.isObject = false := by
  unfold scalar at read
  split at read
  · next found =>
    cases read
    obtain ⟨before, word, later, listed, -, -⟩ := word?_eq_some found
    have wordless : ∀ word ∈ words, word.2.isObject = false := by decide +kernel
    exact wordless (word, content) (by simp [listed])
  · unfold number at read
    dsimp only at read
    split at read
    · obtain refused | plain := isObject_unsignedNumber read
      · cases refused
      · exact plain
    · obtain refused | plain := isObject_unsignedNumber read
      · cases refused
      · exact plain

theorem brace_of_isObject {size levels : Nat} {text after : List Char} {content : Json}
    (read : value size levels text = .ok (content, after)) (object : content.isObject = true) :
    ∃ rest, text = '\x7b' :: rest := by
  cases text with
  | nil =>
    obtain ⟨violation, place, refused⟩ := refused_value size levels
    rw [refused] at read
    cases read
  | cons c rest =>
    by_cases quote : c = '"'
    · subst quote
      rw [value_quote] at read
      obtain ⟨_, -, read⟩ := bind_eq_ok read
      cases read
      cases object
    by_cases bracket : c = '['
    · subst bracket
      cases levels with
      | zero => cases read
      | succ levels =>
        rw [value_array] at read
        obtain ⟨_, -, read⟩ := bind_eq_ok read
        cases read
        cases object
    by_cases brace : c = '\x7b'
    · exact ⟨rest, brace ▸ rfl⟩
    rw [value_scalar size levels quote bracket brace] at read
    rw [isObject_scalar read] at object
    cases object

end Objects

section Documents

variable {levels : Nat} {part more : List Char} {members : List (String × Json)}

theorem getLast?_of_blank {text : List Char} (blank : skipSpace text = []) :
    text.getLast? ≠ some '\x7d' := by
  intro last
  have spaces := List.dropWhile_eq_nil_iff.mp blank
  have space := spaces '\x7d' (List.mem_of_getLast? last)
  simp [isSpace] at space

theorem document_part (whole : document levels (part ++ more) = .ok (.obj members))
    (closed : more.getLast? = some '\x7d') (brief : ¬ LongNumeral (part ++ more)) :
    Refused (document levels part) := by
  by_cases marked : ∃ rest, part = '\ufeff' :: rest
  · obtain ⟨rest, rfl⟩ := marked
    exact ⟨_, _, rfl⟩
  have plain : ∀ rest, part ≠ '\ufeff' :: rest := fun rest same => marked ⟨rest, same⟩
  rw [document_eq levels plain]
  cases spaced : skipSpace part with
  | nil => exact (refused_value _ _).bind _
  | cons c rest =>
    have unmarked : ∀ rest, part ++ more ≠ '\ufeff' :: rest := by
      intro tail same
      rw [same] at whole
      cases whole
    rw [document_eq levels unmarked, skipSpace_append spaced] at whole
    obtain ⟨⟨content, left⟩, read, finished⟩ := bind_eq_ok whole
    dsimp only at finished
    split at finished
    case h_2 => cases finished
    next blank =>
    cases finished
    obtain ⟨inside, opened⟩ := brace_of_isObject read rfl
    obtain ⟨rfl, -⟩ := List.cons.inj opened
    have within : '\x7b' :: rest <:+ part := spaced ▸ skipSpace_suffix part
    have enough : part.length + 1 ≤ (part ++ more).length + 1 := by simp
    obtain ⟨inner, rfl⟩ : ∃ inner, levels = inner + 1 := by
      cases levels with
      | zero => cases read
      | succ inner => exact ⟨inner, rfl⟩
    have continued := continued_object (steady_value inner enough) enough more rest
    rw [List.cons_append, read] at continued
    generalize value (part.length + 1) (inner + 1) ('\x7b' :: rest) = short at continued ⊢
    cases continued with
    | read =>
      refine absurd ?_ (getLast?_of_blank blank)
      rw [List.getLast?_append, closed]
      rfl
    | loose dangling => exact dangling.elim
    | refused violation place => exact ⟨violation, place, rfl⟩
    | tooLong numeral =>
      have inside : '\x7b' :: rest <:+: part ++ more :=
        within.isInfix.trans (List.prefix_append part more).isInfix
      exact absurd (numeral.mono inside) brief

/-- If a text is an object up to the brace at its end, and has no number that is too long to be
read, then every part of it that breaks off is malformed. -/
theorem parse_part {text part : String} (whole : parse levels text = .ok (.obj members))
    (closed : text.toList.getLast? = some '\x7d') (brief : ¬ LongNumeral text.toList)
    (begins : part.toList <+: text.toList) (breaks : part ≠ text) :
    ∃ violation line column offset,
      parse levels part = .error (.malformed violation line column offset) := by
  obtain ⟨more, same⟩ := begins
  have some : more ≠ [] := by
    rintro rfl
    rw [List.append_nil] at same
    exact breaks (String.toList_inj.mp same)
  have read : document levels (part.toList ++ more) = .ok (.obj members) := by
    rw [same]
    unfold parse at whole
    split at whole
    · next read => rw [read, Except.ok.inj whole]
    · cases whole
    · cases whole
    · cases whole
  rw [← same, List.getLast?_append_of_ne_nil _ some] at closed
  obtain ⟨violation, place, refused⟩ := document_part read closed (same ▸ brief)
  have said : parse levels part = .error (.at violation part.toList place) := by
    rw [parse, refused]
  exact ⟨violation, _, _, _, said⟩

end Documents

end Json

open Kubectl Discovery

def listingEnded (context : Option String) (process : Completed) : Invocation :=
  ⟨Step.list.commandLine context, true, .completed process⟩

/-- What comes of a listing on whose output nothing can be built, in any world that reads so many
levels: the listing fails as kubectl does, the discovery fails with it, the run does not succeed,
and in all of them nothing else is asked of kubectl or of EC2. The command reports no success. -/
structure Unusable (levels : Nat) (process : Completed) : Prop where
  listing : ∀ {τ : Type} [Time τ] (context : Option String) (world : World τ),
    world.services.kubectl.levels = levels →
    world.services.kubectl.nextEnding = .completed process →
    ∃ cause, (Kubectl.list (.ofText? context) world).1 = .error (.kubectl cause)
  discovery : ∀ {τ : Type} [Time τ] (context : Option String) (run : Logged (World τ)),
    run.state.services.kubectl.levels = levels →
    run.state.services.kubectl.nextEnding = .completed process →
    (∃ message, (releaseListed (cluster (.ofText? context)) run).1 =
      .error (.cluster message false)) ∧
    Journaled [listingEnded context process] run.state
      (releaseListed (cluster (.ofText? context)) run).2.state
  reclaim : ∀ {τ : Type} [Time τ] (context : Option String) (interval : τ) (limit : Nat)
    (run : Logged (World τ)), run.state.services.kubectl.levels = levels →
    run.state.services.kubectl.nextEnding = .completed process →
    (∃ failure, (World.reclaim (.ofText? context) interval limit run).1 = .error failure) ∧
    ∃ made, made <+: [listingEnded context process] ∧
      Journaled made run.state (World.reclaim (.ofText? context) interval limit run).2.state
  command : ∀ (options : CommandLine.Options) (setting : CommandLine.Setting) (limit : Nat)
    (console : CommandLine.Console), setting.kubectl.levels = levels →
    setting.kubectl.nextEnding = .completed process →
    (CommandLine.execute options setting limit console).status ≠ CommandLine.exitDeleted ∧
    (CommandLine.execute options setting limit console).console.stdout = console.stdout

section Unusable

variable {levels : Nat} {process : Completed} {cause : Kubectl.Failure}

theorem discovery_unreadable {τ : Type} [Time τ] (well : process.succeeded = true)
    (refused : readListing levels process.stdout = .error (.kubectl cause))
    (silent : cause.stderr = "") (context : Option String) (run : Logged (World τ))
    (deep : run.state.services.kubectl.levels = levels)
    (ending : run.state.services.kubectl.nextEnding = .completed process) :
    (∃ message, (releaseListed (cluster (.ofText? context)) run).1 =
      .error (.cluster message false)) ∧
    Journaled [listingEnded context process] run.state
      (releaseListed (cluster (.ofText? context)) run).2.state := by
  have listed := list_of_completed (.ofText? context) ending well
  rw [deep] at listed
  have journal := journaled_afterCommand (.ofText? context) .list run.state
  rw [releaseListed_of_unlisted (listed.trans refused)]
  constructor
  · exact ⟨_, by rw [Step.failure, Step.clusterFailure, allowed_of_silent silent]⟩
  · have line : Kubectl.commandLine (.ofText? context) Kubectl.Command.list.arguments =
        Step.list.commandLine context := commandLine_ofText? context .list
    rw [ending, line] at journal
    exact journal

theorem reclaim_unreadable {τ : Type} [Time τ] (well : process.succeeded = true)
    (refused : readListing levels process.stdout = .error (.kubectl cause))
    (silent : cause.stderr = "") (context : Option String) (interval : τ) (limit : Nat)
    (run : Logged (World τ)) (deep : run.state.services.kubectl.levels = levels)
    (ending : run.state.services.kubectl.nextEnding = .completed process) :
    (∃ failure, (World.reclaim (.ofText? context) interval limit run).1 = .error failure) ∧
    ∃ made, made <+: [listingEnded context process] ∧
      Journaled made run.state (World.reclaim (.ofText? context) interval limit run).2.state := by
  have listed := list_of_completed (.ofText? context) ending well
  rw [deep] at listed
  have unlisted := listed.trans refused
  by_cases missing : run.state.context.deadline = none
  · rw [World.reclaim_of_missing interval limit missing]
    exact ⟨⟨_, rfl⟩, [], List.nil_prefix, .refl run.state⟩
  · obtain ⟨-, journal⟩ := discovery_unreadable well refused silent context run deep ending
    rw [releaseListed_of_unlisted unlisted] at journal
    rw [World.reclaim_of_unlisted interval limit missing unlisted]
    exact ⟨⟨_, rfl⟩, _, List.prefix_refl _, journal⟩

theorem execute_unsuccessful {options : CommandLine.Options} {setting : CommandLine.Setting}
    {limit : Nat} {failure : Failure}
    (failed : (World.reclaim (.ofText? options.kubeContext) options.pollInterval limit
      (CommandLine.start options setting)).1 = .error failure) (console : CommandLine.Console) :
    (CommandLine.execute options setting limit console).status ≠ CommandLine.exitDeleted ∧
    (CommandLine.execute options setting limit console).console.stdout = console.stdout := by
  have status : ∀ failure console,
      (CommandLine.conclude failure console).1 ≠ CommandLine.exitDeleted := by
    intro failure console
    rw [CommandLine.conclude_status]
    split <;> decide
  cases built : setting.sessionFailure with
  | some broken =>
    rw [CommandLine.execute_unbuilt built]
    exact ⟨status broken _, CommandLine.conclude_stdout broken _⟩
  | none =>
    have ran : CommandLine.Ran (.run options) setting limit options (.error failure) _ :=
      ⟨rfl, built, Prod.ext failed rfl⟩
    rw [CommandLine.execute_failed ran]
    exact ⟨status failure _, CommandLine.conclude_stdout failure _⟩

theorem unusable_of_unreadable (well : process.succeeded = true)
    (refused : readListing levels process.stdout = .error (.kubectl cause))
    (silent : cause.stderr = "") : Unusable levels process where
  listing context world deep ending :=
    ⟨cause, by rw [list_of_completed (.ofText? context) ending well, deep, refused]⟩
  discovery := discovery_unreadable well refused silent
  reclaim := reclaim_unreadable well refused silent
  command options setting limit console deep ending := by
    obtain ⟨⟨failure, failed⟩, -⟩ := reclaim_unreadable well refused silent options.kubeContext
      options.pollInterval limit (CommandLine.start options setting) deep ending
    exact execute_unsuccessful failed console

end Unusable

/-- A part of a listing is unusable: the whole is a JSON object up to the brace at its end, and the
part is some of it from the start on, but not all of it. -/
theorem unusable_of_truncated {levels : Nat} {text part : String} {members : List (String × Json)}
    {process : Completed} (whole : Json.parse levels text = .ok (.obj members))
    (closed : text.toList.getLast? = some '\x7d')
    (brief : ∀ run, run <:+: text.toList → run.all Char.isDigit = true → run.length ≤ 4300)
    (begins : part.toList <+: text.toList) (breaks : part ≠ text) (some : part ≠ "")
    (well : process.succeeded = true) (printed : process.stdout = .str part) :
    Unusable levels process := by
  have short : ¬ Json.LongNumeral text.toList := by
    rintro ⟨run, inside, digits, long⟩
    exact absurd (brief run inside digits) (Nat.not_le.mpr long)
  obtain ⟨violation, line, column, offset, malformed⟩ :=
    Json.parse_part whole closed short begins breaks
  have refused : readListing levels process.stdout =
      .error (.kubectl (.unreadable violation line column offset)) := by
    have present : (Json.str part).isPresent = true := by simpa [Json.isPresent] using some
    rw [printed, readListing, Json.orElse, if_pos present]
    simp only [malformed]
  exact unusable_of_unreadable well refused rfl

/-- A listing whose text breaks off in the middle of the number twelve. -/
def brokenOff : Completed :=
  { stdout := .str "\x7b\"items\":[\x7b\"a\":1" }

set_option maxRecDepth 4000 in
theorem unusable_of_truncated_number :
    Json.parse usualLevels "\x7b\"items\":[\x7b\"a\":12\x7d]\x7d" =
      .ok (.obj [("items", .arr [.obj [("a", .int 12)]])]) ∧
    brokenOff.succeeded = true ∧ Unusable usualLevels brokenOff := by
  have whole : Json.parse usualLevels "\x7b\"items\":[\x7b\"a\":12\x7d]\x7d" =
      .ok (.obj [("items", .arr [.obj [("a", .int 12)]])]) := by
    rfl
  have well : brokenOff.succeeded = true := by decide +kernel
  refine ⟨whole, well, unusable_of_truncated whole (by decide +kernel) ?_
    ⟨"2\x7d]\x7d".toList, by decide +kernel⟩ (by decide +kernel) (by decide +kernel) well rfl⟩
  intro run inside _
  exact inside.length_le.trans (by decide +kernel)

end VolumeReclaim
