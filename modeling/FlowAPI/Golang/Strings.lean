import Mathlib.Algebra.Ring.Nat
import Mathlib.Data.List.DropRight

/-! The functions of Go's `strings` package that the modelled code calls, under their names, on text and on lists of bytes
that need not be text. The first ones take one character where the package takes a text; `startsWith` and `endsWith` are
`HasPrefix` and `HasSuffix`, and those on bytes compare with an ASCII literal. -/

set_option autoImplicit false
namespace FlowAPI.Golang
open String

def isSpace (char : Char) : Bool :=
  (9 ≤ char.toNat && char.toNat ≤ 13) || char.toNat = 0x20 || char.toNat = 0x85 || char.toNat = 0xA0 ||
    char.toNat = 0x1680 || (0x2000 ≤ char.toNat && char.toNat ≤ 0x200A) || char.toNat = 0x2028 ||
    char.toNat = 0x2029 || char.toNat = 0x202F || char.toNat = 0x205F || char.toNat = 0x3000

variable (text : String)

def trimSpace : String := ofList ((text.toList.dropWhile isSpace).rdropWhile isSpace)

def trim (cut : Char) : String := ofList ((text.toList.dropWhile (· == cut)).rdropWhile (· == cut))

def hasPrefix (first : Char) : Bool := text.toList.head? == some first

def split (separator : Char) : List String := (text.toList.splitOn separator).map ofList

def join (texts : List String) (separator : Char) : String :=
  ofList ([separator].intercalate (texts.map toList))

/-! Pieces of text. What is split at or replaced is never empty. -/

def startsWith (text first : String) : Bool := first.toList.isPrefixOf text.toList

def endsWith (text last : String) : Bool := last.toList.isSuffixOf text.toList

/-- `unicode.ToLower`, where its result is ASCII. -/
def lower (char : Char) : Char := if char = 'İ' then 'i' else if char = '\u212a' then 'k' else char.toLower

def toLower (text : String) : String := ofList (text.toList.map lower)

/-- `strings.EqualFold` with a text of ASCII letters that are neither k nor s, whose only foldings are ASCII. -/
def equalFold (text letters : String) : Bool := text.toList.map Char.toLower == letters.toList.map Char.toLower

def trimPrefix (text first : String) : String :=
  if startsWith text first then ofList (text.toList.drop first.toList.length) else text
def trimSuffix (text last : String) : String :=
  if endsWith text last then ofList (text.toList.take (text.toList.length - last.toList.length)) else text

/-- The parts between the occurrences of a separator. The number counts the characters of an occurrence that are
still to be skipped. -/
def splitChars (separator : List Char) : List Char → Nat → List Char → List (List Char)
  | [], _, part => [part.reverse]
  | char :: rest, 0, part =>
    if separator.isPrefixOf (char :: rest) then part.reverse :: splitChars separator rest (separator.length - 1) []
    else splitChars separator rest 0 (char :: part)
  | _ :: rest, skip + 1, part => splitChars separator rest skip part

def splitText (text separator : String) : List String :=
  (splitChars separator.toList text.toList 0 []).map ofList

def containsText (text part : String) : Bool := part = "" || 1 < (splitText text part).length

def replaceFirst (text old new : String) : String :=
  match splitText text old with
  | before :: after :: rest => before ++ new ++ old.intercalate (after :: rest)
  | _ => text

def ascii (literal : String) : List UInt8 := literal.toList.map fun char => UInt8.ofNat char.toNat

/-- The encodings of the characters that `unicode.IsSpace` accepts. -/
def spaceRunes : List (List UInt8) :=
  [[9], [10], [11], [12], [13], [32], [0xC2, 0x85], [0xC2, 0xA0], [0xE1, 0x9A, 0x80],
    [0xE2, 0x80, 0x80], [0xE2, 0x80, 0x81], [0xE2, 0x80, 0x82], [0xE2, 0x80, 0x83], [0xE2, 0x80, 0x84],
    [0xE2, 0x80, 0x85], [0xE2, 0x80, 0x86], [0xE2, 0x80, 0x87], [0xE2, 0x80, 0x88], [0xE2, 0x80, 0x89],
    [0xE2, 0x80, 0x8A], [0xE2, 0x80, 0xA8], [0xE2, 0x80, 0xA9], [0xE2, 0x80, 0xAF], [0xE2, 0x81, 0x9F],
    [0xE3, 0x80, 0x80]]

def leadingRune (runes : List (List UInt8)) (bytes : List UInt8) : Nat :=
  ((runes.find? fun rune => rune.isPrefixOf bytes).map List.length).getD 0

/-- The number counts the bytes of a rune that are still to be dropped. -/
def dropRunes (runes : List (List UInt8)) : Nat → List UInt8 → List UInt8
  | _, [] => []
  | 0, byte :: rest =>
    match leadingRune runes (byte :: rest) with
    | 0 => byte :: rest
    | more + 1 => dropRunes runes more rest
  | more + 1, _ :: rest => dropRunes runes more rest

variable (bytes : List UInt8)

def trimSpaceBytes : List UInt8 :=
  (dropRunes (spaceRunes.map List.reverse) 0 (dropRunes spaceRunes 0 bytes).reverse).reverse

def hasPrefixBytes (literal : String) : Bool := (ascii literal).isPrefixOf bytes

def hasSuffixBytes (literal : String) : Bool := (ascii literal).isSuffixOf bytes

example : trimSpaceBytes (ascii " \t[DONE] " ++ [0xE3, 0x80, 0x80]) = ascii "[DONE]" := by decide

end FlowAPI.Golang
