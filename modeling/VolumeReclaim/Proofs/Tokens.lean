import VolumeReclaim.Json.Reader
import VolumeReclaim.Json.Writer

/-!
The tokens of a value, and texts that consist of some tokens in order with any white space between
them. The written form of a value is one of them: it has one blank after each comma and colon.
-/
set_option autoImplicit false

namespace VolumeReclaim.Json

abbrev Token := List Char

mutual

/-- The tokens of a value, in the order in which they are written. -/
def tokens : Json → List Token
  | .arr [] => [['['], [']']]
  | .arr (first :: rest) => ['['] :: tokens first ++ elementTokens rest
  | .obj [] => [['\x7b'], ['\x7d']]
  | .obj ((name, first) :: rest) =>
    ['\x7b'] :: writeString name :: [':'] :: tokens first ++ memberTokens rest
  | scalar => [write scalar]
termination_by structural value => value

/-- The tokens of the elements of an array after the first, and the closing bracket. -/
def elementTokens : List Json → List Token
  | [] => [[']']]
  | next :: rest => [','] :: tokens next ++ elementTokens rest
termination_by structural elements => elements

/-- The tokens of the members of an object after the first, and the closing brace. -/
def memberTokens : List (String × Json) → List Token
  | [] => [['\x7d']]
  | (name, next) :: rest =>
    [','] :: writeString name :: [':'] :: tokens next ++ memberTokens rest
termination_by structural members => members

end

/-- A text consists of some tokens, with any white space before, between and after them. -/
inductive Spaced : List Token → List Char → Prop where
  | nil : Spaced [] []
  | space (c : Char) {tokens : List Token} {text : List Char} :
    isSpace c = true → Spaced tokens text → Spaced tokens (c :: text)
  | token (token : Token) {tokens : List Token} {text : List Char} :
    Spaced tokens text → Spaced (token :: tokens) (token ++ text)

section Spaced

variable {first second : List Token} {front back text : List Char}

theorem Spaced.single (token : Token) : Spaced [token] token := by
  have spaced := Spaced.nil.token token
  rwa [List.append_nil] at spaced

theorem Spaced.append (spaced : Spaced first front) (more : Spaced second back) :
    Spaced (first ++ second) (front ++ back) := by
  induction spaced with
  | nil => exact more
  | space c blank _ ih => exact ih.space c blank
  | token token _ ih =>
    rw [List.cons_append, List.append_assoc]
    exact ih.token token

theorem Spaced.length_le (spaced : Spaced first text) : first.flatten.length ≤ text.length := by
  induction spaced with
  | nil => exact Nat.le_refl 0
  | space _ _ _ ih => exact Nat.le_succ_of_le ih
  | token token _ ih =>
    rw [List.flatten_cons, List.length_append, List.length_append]
    exact Nat.add_le_add_left ih token.length

theorem Spaced.skipSpace_eq_nil (spaced : Spaced [] text) : skipSpace text = [] := by
  generalize none : [] = tokens at spaced
  induction spaced with
  | nil => rfl
  | space _ blank _ ih => exact (List.dropWhile_cons_of_pos blank).trans (ih none)
  | token => cases none

theorem Spaced.skipSpace_eq {c : Char} {token : Token}
    (spaced : Spaced ((c :: token) :: second) text) (solid : isSpace c = false) :
    ∃ rest, skipSpace text = c :: (token ++ rest) ∧ Spaced second rest := by
  generalize whole : (c :: token) :: second = tokens at spaced
  induction spaced with
  | nil => cases whole
  | space _ blank _ ih =>
    obtain ⟨rest, same, spaced⟩ := ih whole
    exact ⟨rest, (List.dropWhile_cons_of_pos blank).trans same, spaced⟩
  | @token _ tokens text spaced =>
    cases whole
    exact ⟨text, List.dropWhile_cons_of_neg (by simp [solid]), spaced⟩

end Spaced

mutual

theorem spaced_write : (value : Json) → Spaced value.tokens value.write
  | .null | .bool _ | .int _ | .float _ | .str _ => .single _
  | .arr [] => (Spaced.single [']']).token ['[']
  | .arr (first :: rest) =>
    ((spaced_write first).append (spaced_writeElements rest)).token ['[']
  | .obj [] => (Spaced.single ['\x7d']).token ['\x7b']
  | .obj ((name, first) :: rest) => by
    have content := (spaced_write first).append (spaced_writeMembers rest)
    have whole := (((content.space ' ' rfl).token [':']).token (writeString name)).token
      ['\x7b']
    simpa [tokens, write] using whole

theorem spaced_writeElements : (elements : List Json) →
    Spaced (elementTokens elements) (writeElements elements)
  | [] => .single _
  | next :: rest =>
    (((spaced_write next).append (spaced_writeElements rest)).space ' ' rfl).token [',']

theorem spaced_writeMembers : (members : List (String × Json)) →
    Spaced (memberTokens members) (writeMembers members)
  | [] => .single _
  | (name, next) :: rest => by
    have content := (spaced_write next).append (spaced_writeMembers rest)
    have whole := ((((content.space ' ' rfl).token [':']).token (writeString name)).space ' '
      rfl).token [',']
    simpa [memberTokens, writeMembers] using whole

end

end VolumeReclaim.Json
