import Routewright.Yaml.Mark
import Routewright.Yaml.Scalar

/-!
# Cutting a text into tokens

The lexer goes through a text once. A token that could be a simple key is remembered until its line
ends; when a `:` follows, a key mark is put before it after all. In block context the columns of
tokens open and close collections. Where a text can be read no further, the tokens that were not yet
certain are given up.
-/

namespace Routewright.Yaml

/-- A token that may turn out to be a key. -/
structure PossibleKey where
  /-- The number of tokens before it. -/
  position : Nat
  required : Bool
  index : Nat
  line : Nat
  column : Nat

/-- The state of the lexer. Tokens are held last first. `columns` are those of the open block
collections, innermost first; `keys` holds the possible keys by their flow level. -/
structure Lexer where
  cursor : Cursor
  tokens : List Token := []
  count : Nat := 0
  flowLevel : Nat := 0
  columns : List Nat := []
  keyAllowed : Bool := true
  keys : List (Nat × PossibleKey) := []

namespace Lexer

/-- The state after a token that ends at a position. -/
def push (s : Lexer) (t : Token) (cursor : Cursor) : Lexer :=
  { s with cursor, tokens := t :: s.tokens, count := s.count + 1 }

/-- Puts a token before the one at a position. -/
def insertAt (s : Lexer) (position : Nat) (t : Token) : Lexer :=
  let after := s.count - position
  { s with tokens := s.tokens.take after ++ t :: s.tokens.drop after, count := s.count + 1 }

/-- Whether the position is in block context. -/
def inBlock (s : Lexer) : Bool :=
  s.flowLevel = 0

/-- The column that continuation lines of a plain scalar reach at least. -/
def plainIndent (s : Lexer) : Nat :=
  match s.columns with
  | [] => 0
  | n :: _ => n + 1

/-- The possible key of the current flow level. -/
def possibleKey? (s : Lexer) : Option PossibleKey :=
  s.keys.lookup s.flowLevel

/-- Forgets the possible key of the current flow level. -/
def withoutKey (s : Lexer) : Lexer :=
  { s with keys := s.keys.filter fun k => k.1 ≠ s.flowLevel }

/-- Gives up the possible key of the current flow level, which must not be required. -/
def dropKey (s : Lexer) : Except LexFault Lexer :=
  match s.possibleKey? with
  | some k => if k.required then .error .malformed else .ok s.withoutKey
  | none => .ok s

/-- Whether a possible key can be one no more: it is on another line, or too far back. -/
def isStale (s : Lexer) (k : PossibleKey) : Bool :=
  k.line ≠ s.cursor.line || s.cursor.index - k.index > 1024

/-- Gives up the possible keys that can be none any more. -/
def dropStaleKeys (s : Lexer) : Except LexFault Lexer :=
  if s.keys.any fun k => s.isStale k.2 && k.2.required then .error .malformed
  else .ok { s with keys := s.keys.filter fun k => !s.isStale k.2 }

/-- Remembers that the token at the position may be a key. -/
def noteKey (s : Lexer) : Except LexFault Lexer := do
  if !s.keyAllowed then return s
  let s ← s.dropKey
  let required := s.inBlock && s.columns.head? = some s.cursor.column
  let k : PossibleKey :=
    { position := s.count, required, index := s.cursor.index, line := s.cursor.line
      column := s.cursor.column }
  return { s with keys := (s.flowLevel, k) :: s.keys }

/-- Closes the block collections to the right of a column, all of them if there is none. -/
def closeTo (column : Option Nat) (s : Lexer) : List Nat → Lexer
  | [] => { s with columns := [] }
  | n :: rest =>
    if column.all fun c => c < n then
      closeTo column { s with tokens := .blockEnd :: s.tokens, count := s.count + 1 } rest
    else { s with columns := n :: rest }

/-- Closes the block collections that end before a column. -/
def unwind (s : Lexer) (column : Option Nat) : Lexer :=
  if s.inBlock then closeTo column s s.columns else s

/-- Whether a collection at a column is inside the innermost open one. -/
def isDeeper (s : Lexer) (column : Nat) : Bool :=
  s.columns.head?.all fun n => n < column

/-- Opens a block collection at the position of the cursor, unless one is open at its column. -/
def openBlock (s : Lexer) (t : Token) : Lexer :=
  let column := s.cursor.column
  if s.isDeeper column then { s.push t s.cursor with columns := column :: s.columns } else s

/-- The state at the next token, past spaces, comments and line ends. -/
def skipToToken : Nat → Lexer → Lexer
  | 0, s => s
  | fuel + 1, s =>
    let c := s.cursor.skipSpaces.skipComment
    match c.lineBreak? with
    | none => { s with cursor := c }
    | some (_, c) =>
      skipToToken fuel { s with cursor := c, keyAllowed := s.keyAllowed || s.inBlock }

/-- Reads a document marker or another token that ends every block. -/
def documentToken (s : Lexer) (t : Token) (cursor : Cursor) : Except LexFault Lexer := do
  let s ← (s.unwind none).dropKey
  return { s.push t cursor with keyAllowed := false }

/-- Reads an opening bracket. -/
def openFlow (s : Lexer) (t : Token) : Except LexFault Lexer := do
  let s ← s.noteKey
  return { s.push t s.cursor.step with flowLevel := s.flowLevel + 1, keyAllowed := true }

/-- Reads a closing bracket. -/
def closeFlow (s : Lexer) (t : Token) : Except LexFault Lexer := do
  if s.inBlock then throw .malformed
  let s ← s.dropKey
  return { s.push t s.cursor.step with flowLevel := s.flowLevel - 1, keyAllowed := false }

/-- Reads the comma of a flow collection. -/
def flowEntry (s : Lexer) : Except LexFault Lexer := do
  let s ← s.dropKey
  return { s.push .flowEntry s.cursor.step with keyAllowed := true }

/-- Reads the dash of a block sequence. -/
def blockEntry (s : Lexer) : Except LexFault Lexer := do
  if s.inBlock && !s.keyAllowed then throw .malformed
  let s := if s.inBlock then s.openBlock .blockSequenceStart else s
  let s ← { s with keyAllowed := true }.dropKey
  return s.push .blockEntry s.cursor.step

/-- Reads the question mark of a key. -/
def explicitKey (s : Lexer) : Except LexFault Lexer := do
  if s.inBlock && !s.keyAllowed then throw .malformed
  let s := if s.inBlock then s.openBlock .blockMappingStart else s
  let s ← { s with keyAllowed := s.inBlock }.dropKey
  return s.push .key s.cursor.step

/-- Reads the colon of a value. -/
def value (s : Lexer) : Except LexFault Lexer := do
  match s.possibleKey? with
  | some k =>
    let s := s.withoutKey.insertAt k.position .key
    let s :=
      if s.inBlock && s.isDeeper k.column then
        { s.insertAt k.position .blockMappingStart with columns := k.column :: s.columns }
      else s
    return { s.push .value s.cursor.step with keyAllowed := false }
  | none =>
    if s.inBlock && !s.keyAllowed then throw .malformed
    let s := if s.inBlock then s.openBlock .blockMappingStart else s
    let s ← { s with keyAllowed := s.inBlock }.dropKey
    return s.push .value s.cursor.step

/-- Reads a mark before a node. -/
def mark {α : Type} (s : Lexer) (reader : Cursor → Except LexFault (α × Cursor)) (t : α → Token) :
    Except LexFault Lexer := do
  let s ← s.noteKey
  let (x, c) ← reader s.cursor
  return { s.push (t x) c with keyAllowed := false }

/-- Reads a block scalar. -/
def block (s : Lexer) (folded : Bool) : Except LexFault Lexer := do
  let s ← { s with keyAllowed := true }.dropKey
  let (text, c) ← blockScalar folded s.columns.head? s.cursor
  return s.push (.scalar text false) c

/-- Reads a plain scalar. -/
def plain (s : Lexer) : Except LexFault Lexer := do
  let s ← s.noteKey
  let (text, c, ended) := plainScalar (!s.inBlock) s.plainIndent s.cursor
  return { s.push (.scalar text true) c with keyAllowed := ended }

/-- A character that no plain scalar starts with. -/
def isIndicator (c : Char) : Bool :=
  isSpace c || isBreak c || isFlowMark c || c = '-' || c = '?' || c = ':' || c = '#' || c = '&'
    || c = '*' || c = '!' || c = '|' || c = '>' || c = '\'' || c = '"' || c = '%' || c = '@'
    || c = Char.ofNat 0x60

/-- Whether a plain scalar starts with a character, before another one. -/
def startsPlain (s : Lexer) (c : Char) (next : Option Char) : Bool :=
  !isIndicator c || (!isGap next && (c = '-' || (s.inBlock && (c = '?' || c = ':'))))

/-- Reads the token that starts with a character at the position. -/
def token (s : Lexer) (ch : Char) : Except LexFault Lexer :=
  let c := s.cursor
  let gap := isGap (c.peekAt 1)
  if ch = '%' && c.column = 0 then do
    let s ← (s.unwind none).dropKey
    let (d, c) ← directive s.cursor
    return { s.push (.directive d) c with keyAllowed := false }
  else if c.column = 0 && c.atMarker '-' then s.documentToken .documentStart (c.advance 3)
  else if c.column = 0 && c.atMarker '.' then s.documentToken .documentEnd (c.advance 3)
  else if ch = '[' then s.openFlow .flowSequenceStart
  else if ch = '{' then s.openFlow .flowMappingStart
  else if ch = ']' then s.closeFlow .flowSequenceEnd
  else if ch = '}' then s.closeFlow .flowMappingEnd
  else if ch = ',' then s.flowEntry
  else if ch = '-' && gap then s.blockEntry
  else if ch = '?' && (!s.inBlock || gap) then s.explicitKey
  else if ch = ':' && (!s.inBlock || gap) then s.value
  else if ch = '*' then s.mark anchorName .alias
  else if ch = '&' then s.mark anchorName .anchor
  else if ch = '!' then s.mark writtenTag .tag
  else if ch = '|' && s.inBlock then s.block false
  else if ch = '>' && s.inBlock then s.block true
  else if ch = '\'' then s.mark (quotedScalar '\'') fun text => .scalar text false
  else if ch = '"' then s.mark (quotedScalar '"') fun text => .scalar text false
  else if s.startsPlain ch (c.peekAt 1) then s.plain
  else .error .malformed

/-- Ends the text. -/
def finish (s : Lexer) : Except LexFault Lexer := do
  let s ← (s.unwind none).dropKey
  return s.push .finish s.cursor

/-- The tokens that are certain, in order: those before the first that may still turn out to be a
key. -/
def certainTokens (s : Lexer) : List Token :=
  let live := s.keys.filter fun k => !s.isStale k.2
  s.tokens.reverse.take (live.foldl (fun n k => min n k.2.position) s.count)

/-- The tokens of a text that can be read no further. -/
def breakOff (s : Lexer) (fault : LexFault) : List Token :=
  s.certainTokens ++ [.broken fault]

/-- The state after the next token, and whether that is the last one. -/
def advance (s : Lexer) : Except LexFault (Lexer × Bool) := do
  let s ← (s.skipToToken (s.cursor.rest.length + 1)).dropStaleKeys
  let s := s.unwind (some s.cursor.column)
  match s.cursor.peek with
  | none => return (← s.finish, true)
  | some ch => return (← s.token ch, false)

/-- The tokens of the rest of the text. -/
def run : Nat → Lexer → List Token
  | 0, s => s.breakOff .malformed
  | fuel + 1, s =>
    match s.advance with
    | .error fault => s.breakOff fault
    | .ok (s, ended) => if ended then s.tokens.reverse else run fuel s

end Lexer

/-- The tokens of a text. A byte order mark at its head is skipped. -/
def tokens (text : List Char) : List Token :=
  let start : Cursor := { rest := text }
  let start := if start.peek = some '\uFEFF' then start.step else start
  if text.all isAllowed then Lexer.run (text.length + 2) { cursor := start }
  else [.broken .malformed]

end Routewright.Yaml
