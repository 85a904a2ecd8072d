import Mathlib.Data.List.Induction
import VolumeReclaim.Failure
import VolumeReclaim.Json.Key
import VolumeReclaim.Proofs.Shapes

/-!
Texts as keys: among texts, keys are told apart exactly as texts are, so that the keys of a list are
its texts without repeats, each where it first came.
-/
set_option autoImplicit false

namespace VolumeReclaim

section Repeats

variable {α : Type} [BEq α] [LawfulBEq α]

theorem eraseDups_concat (items : List α) (item : α) :
    (items ++ [item]).eraseDups =
      if items.contains item then items.eraseDups else items.eraseDups ++ [item] := by
  rw [List.eraseDups_append]
  by_cases known : item ∈ items
  · simp [List.removeAll, known]
  · simp [List.removeAll, known, List.eraseDups_cons]

theorem nodup_eraseDups (items : List α) : items.eraseDups.Nodup := by
  induction items using List.reverseRecOn with
  | nil => simp
  | append_singleton items item ih =>
    rw [eraseDups_concat]
    by_cases known : items.contains item
    · rw [if_pos known]
      exact ih
    · rw [if_neg known]
      have fresh : item ∉ items.eraseDups := by simpa using known
      exact List.nodup_append.mpr ⟨ih, by simp, by
        intro a present b last same
        rw [List.mem_singleton.mp last] at same
        exact fresh (same ▸ present)⟩

end Repeats

namespace Json

theorem any_sameKey_str (texts : List String) (text : String) :
    (texts.map Json.str).any (sameKey (.str text)) = texts.contains text := by
  induction texts with
  | nil => rfl
  | cons first rest ih =>
    rw [List.map_cons, List.any_cons, ih, List.contains_cons]
    rfl

theorem addKey_str (texts : List String) (text : String) :
    addKey (texts.map .str) (.str text) =
      (if texts.contains text then texts else texts ++ [text]).map .str := by
  rw [addKey, any_sameKey_str]
  split <;> simp

theorem distinctKeys_concat (keys : List Json) (key : Json) :
    distinctKeys (keys ++ [key]) = addKey (distinctKeys keys) key := by
  simp [distinctKeys]

/-- The keys of a list of texts are its texts without repeats, in the order of first occurrence. -/
theorem distinctKeys_str (texts : List String) :
    distinctKeys (texts.map .str) = texts.eraseDups.map .str := by
  induction texts using List.reverseRecOn with
  | nil => rfl
  | append_singleton texts text ih =>
    have known : texts.eraseDups.contains text = texts.contains text := by
      rw [Bool.eq_iff_iff, List.contains_iff_mem, List.contains_iff_mem, List.mem_eraseDups]
    rw [List.map_append, List.map_singleton, distinctKeys_concat, ih, addKey_str, eraseDups_concat,
      known]

theorem mapM_map_ok {α β γ ε : Type} {step : β → Except ε γ} {form : α → β} (result : α → γ)
    (items : List α) (each : ∀ item, step (form item) = .ok (result item)) :
    (items.map form).mapM step = .ok (items.map result) := by
  induction items with
  | nil => rfl
  | cons item rest ih =>
    rw [List.map_cons, List.mapM_cons, each, ih]
    rfl

theorem distinct_str (texts : List String) :
    distinct (texts.map .str) = .ok (texts.eraseDups.map .str) := by
  rw [distinct, mapM_map_ok .str texts, ← distinctKeys_str]
  · rfl
  · intro text
    rfl

theorem joined_str (separator : String) (texts : List String) :
    joined separator (texts.map .str) = .ok (separator.intercalate texts) := by
  rw [joined, mapM_map_ok id texts, List.map_id]
  · rfl
  · intro text
    rfl

theorem eq_map_of_mapM {β γ ε : Type} {step : β → Except ε γ} {form : γ → β}
    (each : ∀ item result, step item = .ok result → item = form result) {items : List β}
    {results : List γ} (read : items.mapM step = .ok results) : items = results.map form := by
  induction items generalizing results with
  | nil =>
    cases read
    rfl
  | cons item rest ih =>
    rw [List.mapM_cons] at read
    obtain ⟨result, first, read⟩ := bind_eq_ok read
    obtain ⟨others, later, read⟩ := bind_eq_ok read
    cases read
    rw [List.map_cons, each item result first, ih later]

theorem distinctKeys_sublist (keys : List Json) : (distinctKeys keys).Sublist keys := by
  induction keys using List.reverseRecOn with
  | nil => exact List.Sublist.refl []
  | append_singleton keys key ih =>
    rw [distinctKeys_concat, addKey]
    split
    · exact ih.trans (List.sublist_append_left keys [key])
    · exact ih.append (List.Sublist.refl [key])

theorem distinct_sublist {items keys : List Json} (given : distinct items = .ok keys) :
    keys.Sublist items := by
  have same : ∀ item key, asKey item = .ok key → item = id key := by
    intro item key taken
    unfold asKey at taken
    split at taken <;> cases taken
    rfl
  obtain ⟨others, read, given⟩ := bind_eq_ok given
  cases given
  rw [eq_map_of_mapM same read, List.map_id]
  exact distinctKeys_sublist others

theorem texts_of_joined {separator joint : String} {items : List Json}
    (given : joined separator items = .ok joint) :
    ∃ texts : List String, items = texts.map .str := by
  obtain ⟨texts, read, -⟩ := bind_eq_ok given
  refine ⟨texts, eq_map_of_mapM (fun item text taken => ?_) read⟩
  cases item <;> cases taken
  rfl

end Json

theorem Failure.texts_of_ofRemaining {remaining named : List Json} {halted cancelled : Bool}
    (failed : Failure.ofRemaining remaining halted = .notDeleted named cancelled) :
    named = remaining ∧ cancelled = halted ∧ ∃ texts : List String, named = texts.map .str := by
  unfold Failure.ofRemaining at failed
  split at failed
  · next joint given =>
    cases failed
    exact ⟨rfl, rfl, Json.texts_of_joined given⟩
  · cases failed

theorem Failure.ofRemaining_str (texts : List String) (cancelled : Bool) :
    Failure.ofRemaining (texts.map .str) cancelled = .notDeleted (texts.map .str) cancelled := by
  rw [Failure.ofRemaining, Json.joined_str]

end VolumeReclaim
