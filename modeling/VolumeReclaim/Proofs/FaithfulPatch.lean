import Mathlib.Tactic.SplitIfs
import VolumeReclaim.Proofs.InvocationJournal
import VolumeReclaim.Proofs.ReadBack

/-!
The patch of an update says what it should, whatever texts the finalizers are. It is written in
printable ASCII and read back as the very same finalizers, with nothing else beside them, so that it
never stands for those of another volume.
-/
set_option autoImplicit false

namespace VolumeReclaim

namespace Text

def Ascii (text : List Char) : Prop :=
  ∀ c ∈ text, Visible c

instance (text : List Char) : Decidable (Ascii text) :=
  List.decidableBAll Visible text

variable {first second : List Char}

theorem Ascii.append (ascii : Ascii first) (more : Ascii second) : Ascii (first ++ second) :=
  List.forall_mem_append.mpr ⟨ascii, more⟩

theorem Ascii.cons {c : Char} (visible : Visible c) (ascii : Ascii first) :
    Ascii (c :: first) :=
  List.forall_mem_cons.mpr ⟨visible, ascii⟩

end Text

namespace Json

open Text (Ascii)

theorem ascii_toDigits (n : Nat) : Ascii (Nat.toDigits 10 n) := by
  intro c member
  have digit : c.isDigit = true := Nat.isDigit_of_mem_toDigits (by decide) (by decide) member
  simp only [Char.isDigit, Bool.and_eq_true, decide_eq_true_eq] at digit
  exact ⟨Nat.le_trans (by decide) digit.1, Nat.le_trans digit.2 (by decide)⟩

theorem ascii_writtenInt (value : Int) : Ascii (Decimal.writtenInt value) := by
  cases value with
  | ofNat n => exact ascii_toDigits n
  | negSucc n => exact (ascii_toDigits (n + 1)).cons (by decide)

theorem ascii_writeElements {elements : List Json}
    (each : ∀ element ∈ elements, Ascii element.write) : Ascii (writeElements elements) := by
  induction elements with
  | nil => decide
  | cons next rest ih =>
    obtain ⟨here, others⟩ := List.forall_mem_cons.mp each
    exact ((here.append (ih others)).cons (by decide)).cons (by decide)

theorem ascii_member (name : String) {content after : List Char} (here : Ascii content)
    (later : Ascii after) :
    Ascii (writeString name ++ ':' :: ' ' :: content ++ after) := by
  have value := ((here.append later).cons (c := ' ') (by decide)).cons (c := ':') (by decide)
  have whole := Ascii.append (visible_writeString name) value
  simpa using whole

theorem ascii_writeMembers {members : List (String × Json)}
    (each : ∀ member ∈ members, Ascii member.2.write) : Ascii (writeMembers members) := by
  induction members with
  | nil => decide
  | cons next rest ih =>
    obtain ⟨name, content⟩ := next
    obtain ⟨here, others⟩ := List.forall_mem_cons.mp each
    exact ((ascii_member name here (ih others)).cons (by decide)).cons (by decide)

theorem Plain.ascii {levels : Nat} {content : Json} (plain : Plain levels content) :
    Ascii content.write := by
  induction plain with
  | null levels => decide
  | bool levels truth => cases truth <;> decide
  | int levels short => exact ascii_writtenInt _
  | str levels text => exact visible_writeString text
  | @arr levels elements _ ih =>
    cases elements with
    | nil => decide
    | cons first rest =>
      obtain ⟨here, others⟩ := List.forall_mem_cons.mp ih
      exact (here.append (ascii_writeElements others)).cons (by decide)
  | @obj levels members _ _ ih =>
    cases members with
    | nil => decide
    | cons first rest =>
      obtain ⟨name, content⟩ := first
      obtain ⟨here, others⟩ := List.forall_mem_cons.mp ih
      exact (ascii_member name here (ascii_writeMembers others)).cons (by decide)

/-- A text is a merge patch after which a volume has these finalizers, and nothing else: it is in
printable ASCII, and is read as just that as long as three levels are. Without finalizers it says
null. -/
structure Leaves (finalizers : List String) (patch : String) : Prop where
  ascii : Ascii patch.toList
  read : ∀ levels, parse (levels + 3) patch = .ok (.obj [("metadata", .obj [("finalizers",
    if finalizers = [] then .null else .arr (finalizers.map .str))])])

theorem Leaves.unique {finalizers others : List String} {patch : String}
    (leaves : Leaves finalizers patch) (same : Leaves others patch) : finalizers = others := by
  have read := (leaves.read 0).symm.trans (same.read 0)
  simp only [Except.ok.injEq, obj.injEq, List.cons.injEq, Prod.mk.injEq, true_and, and_true] at read
  split_ifs at read with none none' none'
  · rw [none, none']
  · rw [arr.injEq] at read
    exact (List.map_inj_right fun _ _ => str.inj).mp read

end Json

namespace Kubectl

open Json (Leaves)

theorem finalizers_orElse (finalizers : List String) :
    (Json.arr (finalizers.map .str)).orElse .null =
      if finalizers = [] then .null else .arr (finalizers.map .str) := by
  cases finalizers <;> rfl

theorem plain_finalizerPatch (levels : Nat) (finalizers : List String) :
    Json.Plain (levels + 3) (finalizerPatch (.arr (finalizers.map .str))) := by
  have cleared : ∀ levels,
      Json.Plain (levels + 1) ((Json.arr (finalizers.map .str)).orElse .null) := by
    intro levels
    rw [finalizers_orElse]
    split
    · exact .null _
    · exact .arr (List.forall_mem_map.mpr fun text _ => .str _ text)
  exact .obj (by simp) (List.forall_mem_singleton.mpr
    (.obj (by simp) (List.forall_mem_singleton.mpr (cleared _))))

theorem leaves_finalizerPatch (finalizers : List String) :
    Leaves finalizers (finalizerPatch (.arr (finalizers.map .str))).render where
  ascii := by
    rw [Json.render, String.toList_ofList]
    exact (plain_finalizerPatch 0 finalizers).ascii
  read levels := by
    rw [Json.parse_render (plain_finalizerPatch levels finalizers), finalizerPatch,
      finalizers_orElse]

variable {τ : Type} [Time τ]

/-- The invocation that writes a patch to the volume of a name. -/
def patching (context name : Json) (patch : String) (ending : Ending) : Invocation :=
  ⟨commandLine context [.str "patch", .str "persistentvolume", name, .str "--type=merge",
    .str "-p", .str patch], true, ending⟩

theorem getLast?_patching (context name : Json) (patch : String) (ending : Ending) :
    (patching context name patch ending).commandLine.getLast? = some (.str patch) := by
  rw [patching, commandLine, List.getLast?_append]
  rfl

theorem update_world (context : Json) (volume : PersistentVolume) (world : World τ) :
    (update context volume world).2 = afterCommand context (.update volume) world := by
  rw [update, execute_eq]
  cases Ending.verdict _ _ <;> rfl

theorem journaled_update (context : Json) (volume : PersistentVolume) (world : World τ) :
    Journaled [patching context volume.name (finalizerPatch volume.finalizers).render
      world.services.kubectl.nextEnding] world (update context volume world).2 := by
  rw [update_world]
  exact journaled_afterCommand context (.update volume) world

theorem patching_of_journaled {context : Json} {volume : PersistentVolume} {world : World τ}
    {invocation : Invocation}
    (made : Journaled [invocation] world (update context volume world).2) :
    invocation = patching context volume.name (finalizerPatch volume.finalizers).render
      world.services.kubectl.nextEnding := by
  have known := (journaled_update context volume world).invocations
  rw [made.invocations] at known
  simpa using known

/-- Whatever texts the finalizers of a volume are, its update hands kubectl a patch in printable
ASCII that is read as those finalizers and nothing else. No update of a volume with other
finalizers, of any cluster, hands over the same patch. -/
theorem update_leaves (context : Json) {volume : PersistentVolume} {finalizers : List String}
    (texts : volume.finalizers = .arr (finalizers.map .str)) (world : World τ) :
    ∃ patch, Leaves finalizers patch ∧
      Journaled [patching context volume.name patch world.services.kubectl.nextEnding] world
        (update context volume world).2 ∧
      ∀ (context' : Json) (other : PersistentVolume) (others : List String) (world' : World τ)
        (invocation : Invocation), other.finalizers = .arr (others.map .str) →
        others ≠ finalizers → Journaled [invocation] world' (update context' other world').2 →
        invocation.commandLine.getLast? ≠ some (.str patch) := by
  have journaled := journaled_update context volume world
  rw [texts] at journaled
  refine ⟨_, leaves_finalizerPatch finalizers, journaled, ?_⟩
  intro context' other others world' invocation texts' differ made same
  rw [patching_of_journaled made, texts'] at same
  rw [getLast?_patching, Option.some.injEq, Json.str.injEq] at same
  have leaves := leaves_finalizerPatch others
  rw [same] at leaves
  exact differ (leaves.unique (leaves_finalizerPatch finalizers))

/-- Finalizers that look like escapes, or have to be escaped. -/
def oddFinalizers : List String :=
  ["\"\\", "\\ud834\\udd1e", "𝄞\n", "\x7f\x00", ""]

def oddVolume : PersistentVolume :=
  { name := .str "a", finalizers := .arr (oddFinalizers.map .str) }

def willingWorld : World Rat :=
  ⟨.create 0 (some 60) none, {}⟩

theorem update_leaves_odd : oddVolume.finalizers = .arr (oddFinalizers.map .str) ∧
    ∃ patch, Leaves oddFinalizers patch ∧
      Journaled [patching .null (.str "a") patch (.completed {})] willingWorld
        (update .null oddVolume willingWorld).2 := by
  have texts : oddVolume.finalizers = .arr (oddFinalizers.map .str) := rfl
  obtain ⟨patch, leaves, journaled, -⟩ := update_leaves .null texts willingWorld
  exact ⟨texts, patch, leaves, journaled⟩

end Kubectl

end VolumeReclaim
