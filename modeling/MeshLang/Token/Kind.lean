namespace MeshLang

inductive TokenKind where
  | blank
  | comment
  | word
  | integer
  | decimal
  | openParen
  | closeParen
  | comma
  | semicolon
  | point
  | question
  | colon
  | assign
  | equal
  | notEqual
  | less
  | greater
  | lessEqual
  | greaterEqual
  | plus
  | minus
  | star
  | slash
  | percent
  | ampersand
  | caret
  | bang
  | doubleAmpersand
  | doubleBar
  | piWord
  | trueWord
  | falseWord
  | invalid
  | finish
deriving DecidableEq, Repr

namespace TokenKind

def all : List TokenKind :=
  [.blank, .comment, .word, .integer, .decimal, .openParen, .closeParen, .comma, .semicolon, .point,
   .question, .colon, .assign, .equal, .notEqual, .less, .greater, .lessEqual, .greaterEqual, .plus,
   .minus, .star, .slash, .percent, .ampersand, .caret, .bang, .doubleAmpersand, .doubleBar,
   .piWord, .trueWord, .falseWord, .invalid, .finish]

def isTrivia : TokenKind → Bool
  | .blank | .comment => true
  | _ => false

def isKeyword : TokenKind → Bool
  | .piWord | .trueWord | .falseWord => true
  | _ => false

def isNumber : TokenKind → Bool
  | .integer | .decimal => true
  | _ => false

def displayName : TokenKind → String
  | .blank => "whitespace"
  | .comment => "comment"
  | .word => "identifier"
  | .integer => "integer"
  | .decimal => "number"
  | .openParen => "'('"
  | .closeParen => "')'"
  | .comma => "','"
  | .semicolon => "';'"
  | .point => "'.'"
  | .question => "'?'"
  | .colon => "':'"
  | .assign => "'='"
  | .equal => "'=='"
  | .notEqual => "'!='"
  | .less => "'<'"
  | .greater => "'>'"
  | .lessEqual => "'<='"
  | .greaterEqual => "'>='"
  | .plus => "'+'"
  | .minus => "'-'"
  | .star => "'*'"
  | .slash => "'/'"
  | .percent => "'%'"
  | .ampersand => "'&'"
  | .caret => "'^'"
  | .bang => "'!'"
  | .doubleAmpersand => "'&&'"
  | .doubleBar => "'||'"
  | .piWord => "'pi'"
  | .trueWord => "'true'"
  | .falseWord => "'false'"
  | .invalid => "invalid character"
  | .finish => "end of input"

end TokenKind

end MeshLang
