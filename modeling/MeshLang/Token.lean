import MeshLang.Text.Bytes
import MeshLang.Token.Kind
import MeshLang.Token.Pattern

namespace MeshLang

structure Token where
  kind : TokenKind
  text : List Char
  offset : Nat
deriving DecidableEq, Repr

namespace Token

def word (token : Token) : String := String.ofList token.text

def stop (token : Token) : Nat := token.offset + Text.byteSize token.text

end Token

namespace TokenKind

def isLetter (c : Char) : Bool := c.isAlpha || c == '_'

def digits : Pattern := .atLeastOne (.one Char.isDigit)

def exponent : Pattern :=
  .seq (.oneOf ['e', 'E']) (.seq (.optional (.oneOf ['+', '-'])) digits)

/-- Digits around a point, with digits on at least one side, or digits with an exponent. -/
def decimalPattern : Pattern :=
  .either
    (.seq digits (.seq (.oneOf ['.']) (.seq (.many (.one Char.isDigit)) (.optional exponent))))
    (.either (.seq (.oneOf ['.']) (.seq digits (.optional exponent))) (.seq digits exponent))

def fixed (kind : TokenKind) (text : String) : TokenKind × Pattern := (kind, .literal text.toList)

def patterns : List (TokenKind × Pattern) :=
  [fixed .piWord "pi",
   fixed .trueWord "true",
   fixed .falseWord "false",
   (.blank, .atLeastOne (.oneOf [' ', '\t', '\r', '\n'])),
   (.comment, .seq (.literal ['/', '/']) (.many (.one (· != '\n')))),
   (.word, .seq (.one isLetter) (.many (.one fun c => isLetter c || c.isDigit))),
   (.integer, digits),
   (.decimal, decimalPattern),
   fixed .openParen "(",
   fixed .closeParen ")",
   fixed .comma ",",
   fixed .semicolon ";",
   fixed .point ".",
   fixed .question "?",
   fixed .colon ":",
   fixed .assign "=",
   fixed .equal "==",
   fixed .notEqual "!=",
   fixed .less "<",
   fixed .greater ">",
   fixed .lessEqual "<=",
   fixed .greaterEqual ">=",
   fixed .plus "+",
   fixed .minus "-",
   fixed .star "*",
   fixed .slash "/",
   fixed .percent "%",
   fixed .ampersand "&",
   fixed .caret "^",
   fixed .bang "!",
   fixed .doubleAmpersand "&&",
   fixed .doubleBar "||"]

/-- The kind and length of the longest match among some patterns; of matches of equal length the
first one counts, so that the words for constants go before names, and matches of nothing do not
count. -/
def longestMatch (text : List Char) : List (TokenKind × Pattern) → Option (TokenKind × Nat)
  | [] => none
  | (kind, pattern) :: rest =>
    match pattern.longest? text, longestMatch text rest with
    | some count, some (other, most) =>
      if most ≤ count && 0 < count then some (kind, count) else some (other, most)
    | some count, none => if 0 < count then some (kind, count) else none
    | none, best => best

def first (text : List Char) : TokenKind × Nat :=
  (longestMatch text patterns).getD (.invalid, 1)

end TokenKind

/-- The tokens of a text that starts at a byte, after the first `skip` characters, which belong to a
token already read. -/
def tokensFrom (offset : Nat) : Nat → List Char → List Token
  | _, [] => []
  | skip + 1, c :: rest => tokensFrom (offset + c.utf8Size) skip rest
  | 0, c :: rest =>
    let (kind, count) := TokenKind.first (c :: rest)
    ⟨kind, (c :: rest).take count, offset⟩ :: tokensFrom (offset + c.utf8Size) (count - 1) rest

def tokenize (text : List Char) : List Token := tokensFrom 0 0 text

/-- A place in a text: what follows it, where the text starts in the outermost one, and how many
bytes of the text go before. The start is kept apart and added to the places of tokens only. -/
structure Cursor where
  rest : List Char
  base : Nat
  offset : Nat
deriving DecidableEq, Repr

namespace Cursor

abbrev ofText (text : List Char) : Cursor := ⟨text, 0, 0⟩

def place (cursor : Cursor) : Nat := cursor.base + cursor.offset

def finish (cursor : Cursor) : Nat := cursor.place + Text.byteSize cursor.rest

/-- The first token that is neither blank nor comment and the place after it. The text is one that
starts at `base`, and the token is given its place in the outermost text. -/
def nextFrom (base offset : Nat) : Nat → List Char → Option (Token × Cursor)
  | _, [] => none
  | skip + 1, c :: rest => nextFrom base (offset + c.utf8Size) skip rest
  | 0, c :: rest =>
    let (kind, count) := TokenKind.first (c :: rest)
    if kind.isTrivia then nextFrom base (offset + c.utf8Size) (count - 1) rest
    else
      let text := (c :: rest).take count
      some (⟨kind, text, base + offset⟩,
        ⟨(c :: rest).drop count, base, offset + Text.byteSize text⟩)

def next? (cursor : Cursor) : Option (Token × Cursor) :=
  nextFrom cursor.base cursor.offset 0 cursor.rest

def read (cursor : Cursor) : Token × Cursor :=
  cursor.next?.getD
    (⟨.finish, [], cursor.finish⟩, ⟨[], cursor.base, cursor.offset + Text.byteSize cursor.rest⟩)

def current (cursor : Cursor) : Token := cursor.read.1

def advance (cursor : Cursor) : Cursor := cursor.read.2

/-- The place at a byte of a text that starts at `base`; inside a character, and beyond the end,
there is nothing left to read. -/
def within (base : Nat) (text : List Char) (start : Nat) : Cursor :=
  match Text.dropBytes? start text with
  | some rest => ⟨rest, base, start⟩
  | none => ⟨[], base, Text.byteSize text⟩

end Cursor

end MeshLang
