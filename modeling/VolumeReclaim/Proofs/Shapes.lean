import VolumeReclaim.Json.Shape

/-!
Shapes of values. Whoever reads a member of an object that has the right shape gets a value that has
it as well, and a reading that goes from one such value to the next never fails.
-/
set_option autoImplicit false

namespace VolumeReclaim

def Gives {ε α : Type} (outcome : Except ε α) (p : α → Prop) : Prop :=
  ∃ value, outcome = .ok value ∧ p value

section Gives

variable {ε α β : Type} {outcome : Except ε α} {p : α → Prop} {q : β → Prop}

theorem gives_ok {value : α} (holds : p value) : Gives (ε := ε) (.ok value) p :=
  ⟨value, rfl, holds⟩

theorem Gives.bind {next : α → Except ε β} (first : Gives outcome p)
    (then_ : ∀ value, p value → Gives (next value) q) : Gives (outcome >>= next) q := by
  obtain ⟨value, rfl, holds⟩ := first
  exact then_ value holds

theorem Gives.holds {value : α} (gives : Gives outcome p) (given : outcome = .ok value) :
    p value := by
  obtain ⟨other, same, holds⟩ := gives
  cases given.symm.trans same
  exact holds

theorem bind_eq_ok {next : α → Except ε β} {result : β} (given : (outcome >>= next) = .ok result) :
    ∃ value, outcome = .ok value ∧ next value = .ok result := by
  cases outcome with
  | error fault => cases given
  | ok value => exact ⟨value, rfl, given⟩

end Gives

namespace Json

def isObject : Json → Bool
  | .obj _ => true
  | _ => false

def isArray : Json → Bool
  | .arr _ => true
  | _ => false

def listsObjects : Json → Bool
  | .arr elements => elements.all isObject
  | _ => false

def nullOr (shape : Json → Bool) : Json → Bool
  | .null => true
  | content => shape content

/-- Whether a value is an object whose member of a given name, if there is one, has a shape. -/
def holds (name : String) (shape : Json → Bool) : Json → Bool
  | .obj members => (find? name members).all shape
  | _ => false

theorem eq_obj_of_isObject {content : Json} (object : content.isObject = true) :
    ∃ members, content = .obj members := by
  cases content with
  | obj members => exact ⟨members, rfl⟩
  | _ => cases object

theorem gives_memberOr {content default : Json} {name : String} {shape : Json → Bool}
    (typed : content.holds name shape = true) (fallback : shape default = true) :
    Gives (content.memberOr name default) (shape · = true) := by
  cases content with
  | obj members =>
    refine ⟨(find? name members).getD default, rfl, ?_⟩
    rw [holds] at typed
    cases found : find? name members with
    | none => exact fallback
    | some value =>
      rw [found, Option.all_some] at typed
      exact typed
  | _ => cases typed

theorem orElse_cases (content default : Json) :
    content.orElse default = content ∧ content.isPresent = true ∨
      content.orElse default = default ∧ content.isPresent = false := by
  unfold orElse
  cases content.isPresent with
  | true => exact .inl ⟨rfl, rfl⟩
  | false => exact .inr ⟨rfl, rfl⟩

theorem orElse_shape {content : Json} (default : Json) {shape : Json → Bool}
    (typed : content.nullOr shape = true) (fallback : shape default = true) :
    shape (content.orElse default) = true := by
  obtain ⟨same, present⟩ | ⟨same, -⟩ := orElse_cases content default
  · rw [same]
    cases content with
    | null => cases present
    | _ => exact typed
  · rw [same]
    exact fallback

end Json

end VolumeReclaim
