import CollectionQuery.RawQuery
import CollectionQuery.Text.Quoted
import CollectionQuery.Text.Split
import CollectionQuery.Text.Utf8
import CollectionQuery.Uuid

/-!
# Queries in addresses

The text behind the question mark of an address: pairs of a key and a value with `=` between them,
separated by `&`.  A plus stands for a space, and `%` with two hexadecimal digits for a byte of
UTF-8. A pair without `=` has an empty value.
-/

namespace CollectionQuery

open CollectionQuery.Text

namespace UrlText

/-- The bytes of ASCII characters in which `%` with two digits stands for any byte. -/
def bytesOf : List Char → List Nat
  | [] => []
  | '%' :: a :: b :: rest =>
    match Uuid.hexValue? a, Uuid.hexValue? b with
    | some high, some low => (high * 16 + low) :: bytesOf rest
    | _, _ => '%'.toNat :: bytesOf (a :: b :: rest)
  | c :: rest => c.toNat :: bytesOf rest

/-- The runs of a text, each either ASCII or not, with the characters of a run in order. -/
def runs : List Char → List (Bool × List Char)
  | [] => []
  | c :: rest =>
    let ascii : Bool := c.toNat < 128
    match runs rest with
    | [] => [(ascii, [c])]
    | (other, run) :: more =>
      if other == ascii then (ascii, c :: run) :: more else (ascii, [c]) :: (other, run) :: more

/-- A text with its escaped bytes read.  Bytes of different runs never make one character. -/
def unescape (text : List Char) : List Char :=
  if '%' ∈ text then
    (runs text).flatMap fun run => if run.1 then decodeUtf8 (bytesOf run.2) else run.2
  else text

/-- A key or a value. -/
def piece (text : List Char) : String :=
  String.ofList (unescape (text.map fun c => if c = '+' then ' ' else c))

/-- A pair of a key and a value. -/
def pair (text : List Char) : String × Value :=
  (piece (text.takeWhile (· ≠ '=')), .text (piece ((text.dropWhile (· ≠ '=')).drop 1)))

/-- A character as bytes of UTF-8, each written with `%`. -/
def escapeChar (c : Char) : List Char :=
  (String.utf8EncodeChar c).flatMap fun b =>
    '%' :: (hexDigits 2 b.toNat).map Char.toUpper

/-- A text with the characters that are not kept escaped. -/
def escape (kept : Char → Bool) (text : List Char) : List Char :=
  text.flatMap fun c => if kept c then [c] else escapeChar c

/-- Whether a character never needs to be escaped. -/
def isUnreserved (c : Char) : Bool :=
  c.isAlphanum || c == '_' || c == '.' || c == '-' || c == '~'

/-- Whether a character may stand in an address. -/
def isAddressChar (c : Char) : Bool :=
  isUnreserved c || c ∈ ":/%#?=@[]!$&\x27()*+,;".toList

/-- A path in an address: what would end it there is escaped. -/
def pathText (path : List Char) : List Char :=
  escape (fun c => c ≠ '?' ∧ c ≠ '#' ∧ c ≠ '\\') path

/-- A key or a value of a query, written in an address. -/
def writePiece (text : String) : List Char :=
  (escape (fun c => isUnreserved c || c == ' ') text.toList).map fun c => if c = ' ' then '+' else c

/-- Pairs of keys and values, written in an address. -/
def write (pairs : List (String × String)) : String :=
  joinWith "&" (pairs.map fun p => String.ofList (writePiece p.1 ++ '=' :: writePiece p.2))

end UrlText

/-- The query that the text of an address writes. -/
def RawQuery.ofUrlText (text : String) : RawQuery :=
  .pairs (((splitChars '&' text.toList).filter (· ≠ [])).map UrlText.pair)

end CollectionQuery
