/-!
How alike two texts are. The longest block of characters that both have in common is taken out of
them, then the longest common block before it and behind it, and so on. Texts are alike if three
fifths of their characters or more are in such blocks.
-/
set_option autoImplicit false

namespace VolumeReclaim.Text

structure Block where
  first : Nat := 0
  second : Nat := 0
  size : Nat := 0
deriving DecidableEq, Repr

def commonStart : List Char → List Char → Nat
  | a :: as, b :: bs => if a = b then commonStart as bs + 1 else 0
  | _, _ => 0

def orLonger (i : Nat) (a : List Char) : (best : Block) → (j : Nat) → List Char → Block
  | best, _, [] => best
  | best, j, c :: b =>
    let size := commonStart a (c :: b)
    orLonger i a (if best.size < size then ⟨i, j, size⟩ else best) (j + 1) b

def orLongest (b : List Char) : (best : Block) → (i : Nat) → List Char → Block
  | best, _, [] => best
  | best, i, c :: a => orLongest b (orLonger i (c :: a) best 0 b) (i + 1) a

/-- The longest common block of two texts, the earliest in the first one, and of those the earliest
in the second one. -/
def longestBlock (a b : List Char) : Block :=
  orLongest b {} 0 a

/-- The number of characters in common blocks. Blocks are not empty, so that the length of the first
text is fuel enough. -/
def shared : (fuel : Nat) → List Char → List Char → Nat
  | 0, _, _ => 0
  | fuel + 1, a, b =>
    let block := longestBlock a b
    if block.size = 0 then 0
    else
      block.size + shared fuel (a.take block.first) (b.take block.second) +
        shared fuel (a.drop (block.first + block.size)) (b.drop (block.second + block.size))

structure Likeness where
  name : String
  shared : Nat
  total : Nat

namespace Likeness

def of (text name : String) : Likeness :=
  { name
    shared := Text.shared name.length name.toList text.toList
    total := name.length + text.length }

def isAlike (likeness : Likeness) : Bool :=
  3 * likeness.total ≤ 10 * likeness.shared

/-- Whether a name comes before another one: by its share of common characters, and among equals by
the name, the last one first. -/
def precedes (a b : Likeness) : Bool :=
  b.shared * a.total < a.shared * b.total ||
    (b.shared * a.total == a.shared * b.total && b.name ≤ a.name)

end Likeness

def similarNames (names : List String) (text : String) : List String :=
  let alike := ((names.map (Likeness.of text)).filter Likeness.isAlike).mergeSort Likeness.precedes
  ((alike.take 3).map (·.name)).mergeSort (fun a b => a ≤ b)

end VolumeReclaim.Text
