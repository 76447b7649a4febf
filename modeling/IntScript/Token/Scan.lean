import IntScript.Token

/-!
# Scanning

A line is scanned from left to right into lexemes: tokens together with the offset at which
they start.  At each offset the longest possible token is taken.  The one exception is the
keyword: a word that begins with it yields only the keyword, and the scan resumes right
behind it, so that `printer` is the keyword followed by the name `er`.  Spaces, tabs and
line feeds separate tokens.  Any character that neither separates tokens nor starts one
ends the scan.

`scan` keeps the lexemes found before such a character, and `tokenize` is the list of
tokens or the fault alone.
-/

namespace IntScript

/-- A `character` that starts no token; its `position` is the number of characters in front of it.
-/
structure UnexpectedCharacter where
  character : Char
  position : Nat
deriving DecidableEq

/-- A `token` and the number `start` of characters in front of it. -/
structure Lexeme where
  token : Token
  start : Nat
deriving DecidableEq

/-- The `lexemes` of a text, and the `fault` at which the scan was given up, if any. -/
structure Scan where
  lexemes : List Lexeme
  fault : Option UnexpectedCharacter
deriving DecidableEq

/-- The character `c` separates tokens: it is a space, a tab or a line feed. -/
def isSeparator (c : Char) : Bool :=
  c = ' ' || c = '\t' || c = '\n'

/-- The kind of the token that a punctuation character forms on its own. -/
def Kind.ofPunctuation? : Char → Option Kind
  | '(' => some lparen
  | ')' => some rparen
  | '+' => some plus
  | '-' => some minus
  | '*' => some multiply
  | '/' => some divide
  | '=' => some equals
  | _ => none

namespace Token

/-- The keyword of `Statement.print`. -/
def keyword : Token :=
  ⟨.print, "print"⟩

/-- The longest token at the front of a text, all words counting as names: a punctuation character,
a run of digits, or a letter and the letters and digits behind it.  Letters and digits are those of
ASCII. -/
def longest? : List Char → Option (Kind × List Char)
  | [] => none
  | c :: rest =>
    match Kind.ofPunctuation? c with
    | some kind => some (kind, [c])
    | none =>
      if c.isDigit then
        some (.number, c :: rest.takeWhile Char.isDigit)
      else if c.isAlpha then
        some (.identifier, c :: rest.takeWhile Char.isAlphanum)
      else
        none

/-- The token at the front of `chars`: the longest one, or `keyword` if the longest one is a word
that begins with it. -/
def first? (chars : List Char) : Option Token :=
  match longest? chars with
  | none => none
  | some (kind, word) =>
    if kind = .identifier ∧ keyword.text.toList.isPrefixOf word then
      some keyword
    else
      some ⟨kind, String.ofList word⟩

end Token

namespace Scan

/-- The `scan` with one more `lexeme` in front. -/
def cons (lexeme : Lexeme) (scan : Scan) : Scan :=
  { scan with lexemes := lexeme :: scan.lexemes }

/-- Scans characters, of which the first one has the given `offset` in the line.  As many as `taken`
of them belong to a token found before, and are passed over. -/
def ofChars (offset : Nat) : (taken : Nat) → List Char → Scan
  | _, [] => ⟨[], none⟩
  | taken + 1, _ :: rest => ofChars (offset + 1) taken rest
  | 0, c :: rest =>
    if isSeparator c then
      ofChars (offset + 1) 0 rest
    else
      match Token.first? (c :: rest) with
      | none => ⟨[], some ⟨c, offset⟩⟩
      | some token =>
        cons ⟨token, offset⟩ (ofChars (offset + 1) (token.text.length - 1) rest)

/-- To pass over `taken` characters is to drop them, and to scan from that much further on. -/
theorem ofChars_eq_drop (offset taken : Nat) (chars : List Char) :
  ofChars offset taken chars = ofChars (offset + taken) 0 (chars.drop taken)
  := by
  induction taken generalizing offset chars with
  | zero => rfl
  | succ taken ih =>
    cases chars with
    | nil => rfl
    | cons c rest =>
      rw [ofChars, ih, List.drop_succ_cons]
      congr 1
      omega

/-- The tokens of `scan`, without their offsets. -/
def tokens (scan : Scan) : List Token :=
  scan.lexemes.map Lexeme.token

/-- The tokens of `scan` if it came to the end of the text, or its `fault`. -/
def result (scan : Scan) : Except UnexpectedCharacter (List Token) :=
  match scan.fault with
  | none => .ok scan.tokens
  | some fault => .error fault

end Scan

/-- Scans `line` from its beginning. -/
def scan (line : String) : Scan :=
  .ofChars 0 0 line.toList

/-- The tokens of `line`, or the first character that is foreign to the language. -/
def tokenize (line : String) : Except UnexpectedCharacter (List Token) :=
  (scan line).result

end IntScript
