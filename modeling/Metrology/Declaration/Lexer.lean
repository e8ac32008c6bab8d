import Metrology.Declaration.Token
import Metrology.Text.Printable
import Metrology.Text.Word

namespace Metrology

namespace Declaration

namespace Lexer

def whiteRanges : CharRanges :=
  [(0x9, 0xd), (0x20, 0x20), (0x85, 0x85), (0xa0, 0xa0), (0x1680, 0x1680), (0x2000, 0x200a),
   (0x2028, 0x2029), (0x202f, 0x202f), (0x205f, 0x205f), (0x3000, 0x3000)]

def isWhite (c : Char) : Bool :=
  whiteRanges.contains c

/-- White space and the marks of writing direction. -/
def isBlank (c : Char) : Bool :=
  isWhite c || c == '\u200e' || c == '\u200f'

def startsWith (word : String) (cs : List Char) : Bool :=
  word.toList.isPrefixOf cs

def line : List Char → List Char × List Char
  | [] => ([], [])
  | '\n' :: cs => ([], '\n' :: cs)
  | '\r' :: '\n' :: cs => ([], '\n' :: cs)
  | c :: cs =>
      let (content, rest) := line cs
      (c :: content, rest)

/-- The text of a comment after its opening, up to the closing that matches; `depth` comments are
open inside. -/
def block : (depth : Nat) → List Char → Option (List Char × List Char)
  | _, [] => none
  | depth, '/' :: '*' :: cs => do
      let (content, rest) ← block (depth + 1) cs
      some ('/' :: '*' :: content, rest)
  | 0, '*' :: '/' :: cs => some ([], cs)
  | depth + 1, '*' :: '/' :: cs => do
      let (content, rest) ← block depth cs
      some ('*' :: '/' :: content, rest)
  | depth, c :: cs => do
      let (content, rest) ← block depth cs
      some (c :: content, rest)

/-- The text after a comment that documents nothing. -/
def comment? (cs : List Char) : Option (List Char) :=
  if startsWith "//" cs && (!startsWith "///" cs || startsWith "////" cs) &&
      !startsWith "//!" cs then
    some (line cs).2
  else if startsWith "/**/" cs then some (cs.drop 4)
  else if startsWith "/*" cs && (!startsWith "/**" cs || startsWith "/***" cs) &&
      !startsWith "/*!" cs then
    (block 0 (cs.drop 2)).map Prod.snd
  else none

/-- The text after blanks and comments; every one takes a character, so `fuel` can be the length
of the text. -/
def skip : (fuel : Nat) → List Char → List Char
  | 0, cs => cs
  | fuel + 1, cs =>
      match comment? cs, cs with
      | some rest, _ => skip fuel rest
      | none, c :: rest => if isBlank c then skip fuel rest else cs
      | none, [] => []

/-- A documentation comment: its text, and whether it is about what encloses it. -/
def documentation? (cs : List Char) : Option ((List Char × Bool) × List Char) :=
  if startsWith "//!" cs then
    let (content, rest) := line (cs.drop 3)
    some ((content, true), rest)
  else if startsWith "/*!" cs then
    (block 0 (cs.drop 2)).map fun (content, rest) => ((content.drop 1, true), rest)
  else if startsWith "///" cs && !startsWith "////" cs then
    let (content, rest) := line (cs.drop 3)
    some ((content, false), rest)
  else if startsWith "/**" cs && !startsWith "/***" cs then
    (block 0 (cs.drop 2)).map fun (content, rest) => ((content.drop 1, false), rest)
  else none

/-- A carriage return must be followed by a line feed. -/
def hasBareReturn : List Char → Bool
  | [] => false
  | '\r' :: '\n' :: cs => hasBareReturn cs
  | '\r' :: _ => true
  | _ :: cs => hasBareReturn cs

def isHex (c : Char) : Bool :=
  c.isDigit || ('a' ≤ c && c ≤ 'f') || ('A' ≤ c && c ≤ 'F')

def hexValue (c : Char) : Nat :=
  if c.isDigit then c.toNat - '0'.toNat
  else if 'a' ≤ c ∧ c ≤ 'f' then c.toNat - 'a'.toNat + 10
  else c.toNat - 'A'.toNat + 10

/-- The digits of a code point after its opening brace: at most six, among which underscores may
stand. -/
def codePoint : (count value : Nat) → List Char → Option (Char × List Char)
  | _, _, [] => none
  | count, value, c :: cs =>
      if isHex c then
        if count = 6 then none else codePoint (count + 1) (value * 16 + hexValue c) cs
      else if count = 0 then none
      else if c = '_' then codePoint count value cs
      else if c = '\x7d' ∧ value.isValidChar then some (Char.ofNat value, cs)
      else none

/-- The character of an escape after its backslash. -/
def escape : List Char → Option (Char × List Char)
  | 'n' :: cs => some ('\n', cs)
  | 'r' :: cs => some ('\r', cs)
  | 't' :: cs => some ('\t', cs)
  | '\\' :: cs => some ('\\', cs)
  | '\'' :: cs => some ('\'', cs)
  | '"' :: cs => some ('"', cs)
  | '0' :: cs => some ('\x00', cs)
  | 'x' :: a :: b :: cs =>
      if '0' ≤ a ∧ a ≤ '7' ∧ isHex b then some (Char.ofNat (hexValue a * 16 + hexValue b), cs)
      else none
  | 'u' :: '\x7b' :: cs => codePoint 0 0 cs
  | _ => none

/-- The text after a line break that is escaped, and after the characters that are dropped behind
it. -/
def continuation (dropped : Char → Bool) : List Char → Option (List Char)
  | [] => none
  | '\r' :: '\n' :: cs => continuation dropped cs
  | '\r' :: _ => none
  | c :: cs => if dropped c then continuation dropped cs else some (c :: cs)

/-- The value of a text after its opening quote. -/
def cooked : (fuel : Nat) → List Char → Option (List Char × List Char)
  | 0, _ => none
  | fuel + 1, cs =>
      match cs with
      | [] => none
      | '"' :: rest => some ([], rest)
      | '\r' :: '\n' :: rest => (cooked fuel rest).map fun (value, rest) => ('\n' :: value, rest)
      | '\r' :: _ => none
      | '\\' :: rest =>
          if rest.head? = some '\n' ∨ rest.head? = some '\r' then
            (continuation isWhite rest).bind (cooked fuel)
          else do
            let (c, rest) ← escape rest
            let (value, rest) ← cooked fuel rest
            some (c :: value, rest)
      | c :: rest => (cooked fuel rest).map fun (value, rest) => (c :: value, rest)

/-- The value of a raw text after its opening quote, up to a quote with as many hashes as before.
`plain` says which characters it may hold. -/
def rawBody (plain : Char → Bool) (hashes : List Char) :
    List Char → Option (List Char × List Char)
  | [] => none
  | '\r' :: '\n' :: cs => (rawBody plain hashes cs).map fun (value, rest) =>
      ('\r' :: '\n' :: value, rest)
  | '\r' :: _ => none
  | c :: cs =>
      if c = '"' ∧ hashes.isPrefixOf cs then some ([], cs.drop hashes.length)
      else if plain c then (rawBody plain hashes cs).map fun (value, rest) => (c :: value, rest)
      else none

def raw? (plain : Char → Bool) (cs : List Char) : Option (List Char × List Char) :=
  let hashes := cs.takeWhile (· == '#')
  match cs.drop hashes.length with
  | '"' :: rest => if hashes.length ≤ 255 then rawBody plain hashes rest else none
  | _ => none

def isAscii (c : Char) : Bool :=
  c.toNat < 128

def isNotNull (c : Char) : Bool :=
  c.toNat ≠ 0

/-- The text after an escape that stands for a byte, after its backslash. -/
def byteEscape : List Char → Option (List Char)
  | 'x' :: a :: b :: cs => if isHex a ∧ isHex b then some cs else none
  | c :: cs => if ['n', 'r', 't', '\\', '0', '\'', '"'].contains c then some cs else none
  | [] => none

/-- The text after an escape in a text that ends at a null, after its backslash; it cannot stand
for a null. -/
def nonNullEscape : List Char → Option (List Char)
  | 'x' :: a :: b :: cs => if isHex a ∧ isHex b ∧ ¬(a = '0' ∧ b = '0') then some cs else none
  | 'u' :: '\x7b' :: cs => (codePoint 0 0 cs).bind fun (c, rest) =>
      if isNotNull c then some rest else none
  | c :: cs => if ['n', 'r', 't', '\\', '\'', '"'].contains c then some cs else none
  | [] => none

/-- The blanks that are dropped behind an escaped line break, whatever the text stands for. -/
def isGap (c : Char) : Bool :=
  c == ' ' || c == '\t' || c == '\n'

/-- The text after a quoted body after its opening quote. `plain` says which characters stand for
themselves, and `escaped` reads an escape after its backslash. -/
def bodyEnd (plain : Char → Bool) (escaped : List Char → Option (List Char)) :
    (fuel : Nat) → List Char → Option (List Char)
  | 0, _ => none
  | fuel + 1, cs =>
      match cs with
      | [] => none
      | '"' :: rest => some rest
      | '\r' :: '\n' :: rest => bodyEnd plain escaped fuel rest
      | '\r' :: _ => none
      | '\\' :: rest =>
          let rest :=
            if rest.head? = some '\n' ∨ rest.head? = some '\r' then continuation isGap rest
            else escaped rest
          rest.bind (bodyEnd plain escaped fuel)
      | c :: rest => if plain c then bodyEnd plain escaped fuel rest else none

def word? : List Char → Option (List Char × List Char)
  | c :: cs =>
      if Word.isStart c then some (c :: cs.takeWhile Word.isTail, cs.dropWhile Word.isTail)
      else none
  | [] => none

/-- The suffix of a literal, which may be empty, and the text after it. -/
def suffix (cs : List Char) : List Char × List Char :=
  (word? cs).getD ([], cs)

/-- The text after one character in quotes, after the opening one. -/
def characterEnd? (plain : Char → Bool) (escaped : List Char → Option (List Char))
    (cs : List Char) : Option (List Char) := do
  let rest ←
    match cs with
    | '\\' :: rest => escaped rest
    | c :: rest => if plain c then some rest else none
    | [] => none
  match rest with
  | '\'' :: rest => some rest
  | _ => none

def isDigitOrGap (c : Char) : Bool :=
  c.isDigit || c == '_'

/-- The text after an exponent, after its mark; it needs a digit. -/
def exponentEnd : (sign value : Bool) → List Char → Option (List Char)
  | _, value, [] => if value then some [] else none
  | sign, value, c :: cs =>
      if c = '+' ∨ c = '-' then
        if value then some (c :: cs) else if sign then none else exponentEnd true value cs
      else if c.isDigit then exponentEnd sign true cs
      else if c = '_' then exponentEnd sign value cs
      else if value then some (c :: cs)
      else none

/-- The text after the digits of a number with a point or an exponent. -/
def floatEnd? (cs : List Char) : Option (List Char) :=
  if (cs.head?.map Char.isDigit).getD false then
    match cs.dropWhile isDigitOrGap with
    | '.' :: rest =>
        if (rest.head?.map fun c => c == '.' || Word.isStart c).getD false then none
        else
          match rest.dropWhile isDigitOrGap with
          | e :: power =>
              if e = 'e' ∨ e = 'E' then some ((exponentEnd false false power).getD (e :: power))
              else some (e :: power)
          | [] => some []
    | e :: power => if e = 'e' ∨ e = 'E' then exponentEnd false false power else none
    | [] => none
  else none

/-- The value of the digits of an integer in a base, and the text after them; `value` is that of
the digits so far. -/
def digits? (base : Nat) : (value : Option Nat) → List Char → Option (Nat × List Char)
  | value, [] => value.map fun n => (n, [])
  | value, c :: cs =>
      if isHex c ∧ hexValue c < base then
        digits? base (some (value.getD 0 * base + hexValue c)) cs
      else if c.isDigit then none
      else if c = '_' then if value.isNone ∧ base = 10 then none else digits? base value cs
      else value.map fun n => (n, c :: cs)

def integer? (cs : List Char) : Option (Nat × List Char) :=
  match cs with
  | '0' :: 'x' :: rest => digits? 16 none rest
  | '0' :: 'o' :: rest => digits? 8 none rest
  | '0' :: 'b' :: rest => digits? 2 none rest
  | cs => digits? 10 none cs

/-- The suffix of a number; no other part of a word may follow it. -/
def numberSuffix? (cs : List Char) : Option (List Char × List Char) :=
  let (text, rest) := suffix cs
  if (rest.head?.map Word.isTail).getD false then none else some (text, rest)

/-- A number, with a point or an exponent if that is possible. -/
def number? (cs : List Char) : Option (LiteralKind × List Char) :=
  match (floatEnd? cs).bind numberSuffix? with
  | some (_, rest) => some (.float, rest)
  | none => do
      let (value, rest) ← integer? cs
      let (text, rest) ← numberSuffix? rest
      some (.integer value (String.ofList text), rest)

/-- The kind of the literal at the front of a text, and the text after it. -/
def literal? (cs : List Char) : Option (LiteralKind × List Char) :=
  let text := fun (found : List Char × List Char) =>
    (LiteralKind.text (String.ofList found.1), (suffix found.2).2)
  let other := fun rest => (LiteralKind.other, (suffix rest).2)
  let special :=
    match cs with
    | '"' :: rest => (cooked (rest.length + 1) rest).map text
    | 'r' :: rest => (raw? (fun _ => true) rest).map text
    | 'b' :: '"' :: rest => (bodyEnd isAscii byteEscape (rest.length + 1) rest).map other
    | 'b' :: 'r' :: rest => (raw? isAscii rest).map fun found => other found.2
    | 'c' :: '"' :: rest => (bodyEnd isNotNull nonNullEscape (rest.length + 1) rest).map other
    | 'c' :: 'r' :: rest => (raw? isNotNull rest).map fun found => other found.2
    | 'b' :: '\'' :: rest => (characterEnd? isAscii byteEscape rest).map other
    | '\'' :: rest =>
        (characterEnd? (fun _ => true) (fun cs => (escape cs).map Prod.snd) rest).map other
    | _ => none
  match special with
  | some found => some found
  | none => number? cs

def marks : List Char :=
  "~!@#$%^&*-=+|;:,<.>/?'".toList

/-- The mark at the front of a text; a comment is none. -/
def markChar? (cs : List Char) : Option (Char × List Char) :=
  match cs with
  | c :: rest =>
      if startsWith "//" cs || startsWith "/*" cs then none
      else if marks.contains c then some (c, rest) else none
  | [] => none

def anyWord? (cs : List Char) : Option (Token × List Char) :=
  match cs with
  | 'r' :: '#' :: rest => do
      let (name, rest) ← word? rest
      let name := String.ofList name
      if reservedWords.contains name then none else some (.word true name, rest)
  | cs => do
      let (name, rest) ← word? cs
      some (.word false (String.ofList name), rest)

/-- A quote starts a lifetime, if no other quote ends it. Before a literal it stands alone. -/
def lifetime? (cs : List Char) : Option (Token × List Char) := do
  let (name, rest) ← anyWord? cs
  if rest.head? = some '\'' ∨ (rest.head? = some '#' ∧ !startsWith "r#" cs) then none
  else if (literal? cs).isSome then some (.mark '\'' true, cs)
  else
    match name with
    | .word raw name => some (.lifetime raw name, rest)
    | _ => none

def mark? (cs : List Char) : Option (Token × List Char) := do
  let (c, rest) ← markChar? cs
  if c = '\'' then lifetime? rest else some (.mark c (markChar? rest).isSome, rest)

/-- The openings of literals, at which no word starts. -/
def literalOpenings : List String :=
  ["r\"", "r#\"", "r##", "b\"", "b'", "br\"", "br#", "c\"", "cr\"", "cr#"]

def plainToken? (cs : List Char) : Option (Token × List Char) :=
  match literal? cs with
  | some (kind, rest) =>
      some (.literal kind (String.ofList (cs.take (cs.length - rest.length))), rest)
  | none =>
      match mark? cs with
      | some found => some found
      | none =>
          if literalOpenings.any fun opening => startsWith opening cs then none
          else anyWord? cs

inductive Lexeme where
  | token (t : Token)
  | opening (d : Delimiter)
  | closing (d : Delimiter)

/-- A documentation comment as the literal of a text. A null before a digit has the escape that a
digit cannot continue. -/
def documentationSource : List Char → List Char
  | [] => []
  | '\x00' :: d :: cs =>
      (if '0' ≤ d ∧ d ≤ '7' then "\\x00".toList else Quoted.escape '\x00') ++
        documentationSource (d :: cs)
  | c :: cs => Quoted.escape c ++ documentationSource cs

/-- The attribute that a documentation comment stands for. -/
def documentation (content : List Char) (inner : Bool) : List Lexeme :=
  let source := String.ofList ('"' :: documentationSource content ++ ['"'])
  [.token (.mark '#' false)] ++ (if inner then [.token (.mark '!' false)] else []) ++
    [.token (.group .bracket
      [.word false "doc", .mark '=' false, .literal (.text (String.ofList content)) source])]

/-- What stands in place of an expression that could not be expanded; it counts as a literal. -/
def placeholder : String :=
  "(/*ERROR*/)"

def lexemes : (fuel : Nat) → List Char → Option (List Lexeme)
  | 0, _ => none
  | fuel + 1, cs =>
      match skip cs.length cs with
      | [] => some []
      | c :: rest =>
          match documentation? (c :: rest) with
          | some ((content, inner), rest) =>
              if hasBareReturn content then none
              else (lexemes fuel rest).map fun more => documentation content inner ++ more
          | none =>
              if startsWith placeholder (c :: rest) then
                (lexemes fuel ((c :: rest).drop placeholder.length)).map fun more =>
                  .token (.literal .other placeholder) :: more
              else
                match Delimiter.all.find? fun d => d.opening = c,
                  Delimiter.all.find? fun d => d.closing = c with
                | some d, _ => (lexemes fuel rest).map fun more => .opening d :: more
                | none, some d => (lexemes fuel rest).map fun more => .closing d :: more
                | none, none => do
                    let (t, rest) ← plainToken? (c :: rest)
                    let more ← lexemes fuel rest
                    some (.token t :: more)

/-- Build the groups. The tokens of the open group are kept in reverse, and those around it on the
stack. -/
def nest : (stack : List (Delimiter × List Token)) → (current : List Token) → List Lexeme →
    Option (List Token)
  | [], current, [] => some current.reverse
  | _ :: _, _, [] => none
  | stack, current, .token t :: rest => nest stack (t :: current) rest
  | stack, current, .opening d :: rest => nest ((d, current) :: stack) [] rest
  | [], _, .closing _ :: _ => none
  | (d, outer) :: stack, current, .closing d' :: rest =>
      if d = d' then nest stack (.group d current.reverse :: outer) rest else none

end Lexer

/-- The tokens of a text. A byte order mark in front of it is dropped. -/
def tokens? (text : String) : Option (List Token) :=
  let cs :=
    match text.toList with
    | '\ufeff' :: rest => rest
    | cs => cs
  (Lexer.lexemes (cs.length + 1) cs).bind (Lexer.nest [] [])

end Declaration

end Metrology
