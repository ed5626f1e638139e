/-!
# Readers of bytes

A reader takes characters off the front of bytes, a piece at a time. Where the bytes stand for no
character it goes on behind them, so that each such piece can be replaced or refused later. What a
reader remembers between pieces is its state.
-/

namespace Routewright.Text

/-- What a reader sees at the front of bytes. A piece takes at least one byte. -/
inductive Piece (σ : Type)
  /-- Characters, which may be none at all, how many bytes they take, and the state behind them. -/
  | chars (text : List Char) (count : Nat) (state : σ)
  /-- So many bytes stand for nothing. -/
  | nothing (count : Nat)
  /-- The bytes end inside a piece. -/
  | unfinished
  /-- The reader is in a state in which nothing can be read. -/
  | stuck

/-- The piece of some characters, or of so many bytes that stand for nothing. -/
def Piece.ofChars? {σ : Type} (cs : Option (List Char)) (count lost : Nat) (state : σ) : Piece σ :=
  match cs with
  | some cs => .chars cs count state
  | none => .nothing lost

/-- The piece of one character, or of a byte that stands for nothing. -/
def Piece.ofChar? {σ : Type} (c : Option Char) (count : Nat) (state : σ) : Piece σ :=
  .ofChars? (c.map ([·])) count 1 state

/-- What bytes stand for: characters, none for each piece that stands for nothing, and the bytes at
the end that are unfinished. -/
structure Transcript where
  chars : List (Option Char) := []
  unfinished : List UInt8 := []
  isStuck : Bool := false
  deriving DecidableEq, Repr

namespace Transcript

/-- A transcript with characters before it. -/
def after (t : Transcript) (chars : List (Option Char)) : Transcript :=
  { t with chars := chars ++ t.chars }

/-- The characters, if every byte belongs to one. -/
def whole? (t : Transcript) : Option (List Char) :=
  if t.unfinished.isEmpty && !t.isStuck then t.chars.mapM id else none

/-- The characters with a replacement for each piece that stands for nothing. -/
def replaced (replacement : Char) (t : Transcript) : List Char :=
  (t.chars.map fun c => c.getD replacement)
    ++ (if t.unfinished.isEmpty then [] else [replacement])

end Transcript

/-- What bytes stand for to a reader in a state. -/
def transcript {σ : Type} (next : σ → List UInt8 → Piece σ) (state : σ) :
    List UInt8 → Transcript
  | [] => {}
  | b :: rest =>
    match next state (b :: rest) with
    | .chars text count state =>
      (transcript next state (rest.drop (count - 1))).after (text.map some)
    | .nothing count => (transcript next state (rest.drop (count - 1))).after [none]
    | .unfinished => { unfinished := b :: rest }
    | .stuck => { isStuck := true }
termination_by bytes => bytes.length
decreasing_by all_goals simp only [List.length_drop, List.length_cons]; omega

end Routewright.Text
