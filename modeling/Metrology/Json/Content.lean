import Metrology.Json.Literal
import Metrology.Json.Text

/-!
What a text of JSON says, as far as a reader of quantities looks into it. The value of a text is
known by its first characters; a list and an object are then taken apart item by item, and the
place where the text breaks off is kept, because what stands before it is read first.
-/

namespace Metrology

namespace Json

/-- A value. Containers are only recognised here; `Items.scan` and `Members.scan` look inside
them. -/
inductive Content where
  | null
  | boolean (b : Bool)
  | number (l : Literal)
  | text (s : String)
  | sequence
  | map
  deriving DecidableEq

/-- The value at the front of a text, and what follows its known part. -/
def Content.scan : List Char → Option (Content × List Char)
  | 'n' :: 'u' :: 'l' :: 'l' :: rest => some (.null, rest)
  | 't' :: 'r' :: 'u' :: 'e' :: rest => some (.boolean true, rest)
  | 'f' :: 'a' :: 'l' :: 's' :: 'e' :: rest => some (.boolean false, rest)
  | '"' :: cs => (Text.scan cs).map fun (s, rest) => (.text s, rest)
  | '[' :: rest => some (.sequence, rest)
  | '\x7b' :: rest => some (.map, rest)
  | cs => (Literal.scan cs).map fun (l, rest) => (.number l, rest)

/-- The items of a list: what follows the closing bracket, the place where the list is broken, or
an item and what comes after it. -/
inductive Items where
  | closed (rest : List Char)
  | broken
  | item (value : Content) (more : Items)

/-- The entries of an object. The value of an entry may itself be broken. -/
inductive Members where
  | closed (rest : List Char)
  | broken
  | entry (key : String) (value : Option Content) (more : Members)

/-- Go past the comma before an item. -/
def nextItem (first : Bool) (cs : List Char) : Option (List Char) :=
  if first then some cs
  else
    match cs with
    | ',' :: cs => some (skipBlanks cs)
    | _ => none

/-- The value of an entry after its key. -/
def scanValue (cs : List Char) : Option (Content × List Char) :=
  match skipBlanks cs with
  | ':' :: cs => Content.scan (skipBlanks cs)
  | _ => none

/-- The rest of a list; every item takes a character, so `fuel` can be the length of the text. -/
def Items.scan : (fuel : Nat) → (first : Bool) → List Char → Items
  | 0, _, _ => .broken
  | fuel + 1, first, cs =>
      match skipBlanks cs with
      | ']' :: rest => .closed rest
      | cs =>
          match (nextItem first cs).bind Content.scan with
          | some (value, rest) => .item value (Items.scan fuel false rest)
          | none => .broken

/-- The rest of an object, in the same way. -/
def Members.scan : (fuel : Nat) → (first : Bool) → List Char → Members
  | 0, _, _ => .broken
  | fuel + 1, first, cs =>
      match skipBlanks cs with
      | '\x7d' :: rest => .closed rest
      | cs =>
          match nextItem first cs with
          | some ('"' :: cs) =>
              match Text.scan cs with
              | none => .broken
              | some (key, cs) =>
                  match scanValue cs with
                  | some (value, rest) => .entry key (some value) (Members.scan fuel false rest)
                  | none => .entry key none .broken
          | _ => .broken

end Json

end Metrology
