import PaymentPlatform.Lib.Hex

/-! JSON texts as Go's encoding/json reads them into `any` with UseNumber and as
Marshal writes them: numbers keep their literal, strings are decoded to runes,
the last of two members with one name wins, members are written in byte order
of their names, and HTML characters are escaped. -/

namespace Json

open Framing

mutual
inductive Value where
  | null
  | bool (b : Bool)
  | number (literal : Bytes)
  | string (text : List Char)
  | array (items : Items)
  | object (members : Members)
inductive Items where
  | nil
  | cons (head : Value) (tail : Items)
inductive Members where
  | nil
  | cons (name : List Char) (value : Value) (tail : Members)
end

def utf8 (text : List Char) : Bytes :=
  text.flatMap String.utf8EncodeChar

/-- Assignment to a Go map, kept in the order in which Marshal lists its keys. -/
def Members.insert (name : List Char) (value : Value) : Members → Members
  | .nil => .cons name value .nil
  | .cons other old tail =>
    if name = other then .cons name value tail
    else if utf8 name < utf8 other then .cons name value (.cons other old tail)
    else .cons other old (Members.insert name value tail)

def Members.find (name : List Char) : Members → Option Value
  | .nil => none
  | .cons other value tail => if name = other then some value else tail.find name

def object (members : List (String × Value)) : Value :=
  .object (members.foldl (fun seen m => seen.insert m.1.toList m.2) .nil)

def escapeRune (c : Char) : Bytes :=
  if c = '"' then ascii "\\\""
  else if c = '\\' then ascii "\\\\"
  else if c.toNat = 8 then ascii "\\b"
  else if c.toNat = 12 then ascii "\\f"
  else if c.toNat = 10 then ascii "\\n"
  else if c.toNat = 13 then ascii "\\r"
  else if c.toNat = 9 then ascii "\\t"
  else if c.toNat < 32 ∨ c = '<' ∨ c = '>' ∨ c = '&' then
    ascii "\\u00" ++ [hexDigit (c.toNat / 16), hexDigit (c.toNat % 16)]
  else if c.toNat = 0x2028 ∨ c.toNat = 0x2029 then
    ascii "\\u202" ++ [hexDigit (c.toNat % 16)]
  else String.utf8EncodeChar c

def writeText (text : List Char) : Bytes :=
  34 :: (text.flatMap escapeRune ++ [34])

mutual
def write : Value → Bytes
  | .null => ascii "null"
  | .bool true => ascii "true"
  | .bool false => ascii "false"
  | .number literal => literal
  | .string text => writeText text
  | .array .nil => ascii "[]"
  | .array (.cons head tail) => 91 :: (write head ++ writeItems tail)
  | .object .nil => ascii "\x7b\x7d"
  | .object (.cons name value tail) =>
    123 :: (writeText name ++ 58 :: (write value ++ writeMembers tail))
def writeItems : Items → Bytes
  | .nil => [93]
  | .cons head tail => 44 :: (write head ++ writeItems tail)
def writeMembers : Members → Bytes
  | .nil => [125]
  | .cons name value tail =>
    44 :: (writeText name ++ 58 :: (write value ++ writeMembers tail))
end

def isSpace (b : UInt8) : Bool :=
  b == 32 || b == 9 || b == 13 || b == 10

def skipSpace (input : Bytes) : Bytes :=
  input.dropWhile isSpace

def isDigit (b : UInt8) : Bool :=
  48 ≤ b && b ≤ 57

def replacement : Char := Char.ofNat 0xFFFD

def readHex4 : Bytes → Option (Nat × Bytes)
  | a :: b :: c :: d :: rest => do
    let a ← hexValue a
    let b ← hexValue b
    let c ← hexValue c
    let d ← hexValue d
    return (4096 * a + 256 * b + 16 * c + d, rest)
  | _ => none

/-- The rune of a \u escape; a surrogate needs its partner in the next escape
and is the replacement rune otherwise. -/
def readUnicode (input : Bytes) : Option (Char × Bytes) := do
  let (r, rest) ← readHex4 input
  if 0xD800 ≤ r ∧ r < 0xE000 then
    match rest with
    | 92 :: 117 :: tail =>
      match readHex4 tail with
      | some (low, rest') =>
        if r < 0xDC00 ∧ 0xDC00 ≤ low ∧ low < 0xE000 then
          return (Char.ofNat (0x10000 + (r - 0xD800) * 0x400 + (low - 0xDC00)), rest')
        else return (replacement, rest)
      | none => return (replacement, rest)
    | _ => return (replacement, rest)
  else return (Char.ofNat r, rest)

def simpleEscape (e : UInt8) : Option Char :=
  if e = 34 then some '"'
  else if e = 92 then some '\\'
  else if e = 47 then some '/'
  else if e = 98 then some (Char.ofNat 8)
  else if e = 102 then some (Char.ofNat 12)
  else if e = 110 then some (Char.ofNat 10)
  else if e = 114 then some (Char.ofNat 13)
  else if e = 116 then some (Char.ofNat 9)
  else none

def readEscape : Bytes → Option (Char × Bytes)
  | [] => none
  | e :: rest => if e = 117 then readUnicode rest else (simpleEscape e).map (·, rest)

def readRune : Bytes → Option (Char × Bytes)
  | [] => none
  | b :: rest =>
    if b = 92 then readEscape rest
    else if b < 32 then none
    else if b < 128 then some (Char.ofNat b.toNat, rest)
    else
      match (b :: rest).toByteArray.utf8DecodeChar? 0 with
      | some c => some (c, (b :: rest).drop c.utf8Size)
      | none => some (replacement, rest)

def runes : Nat → Bytes → List Char
  | 0, _ => []
  | _, [] => []
  | fuel + 1, b :: rest =>
    if b < 128 then Char.ofNat b.toNat :: runes fuel rest
    else
      match (b :: rest).toByteArray.utf8DecodeChar? 0 with
      | some c => c :: runes fuel ((b :: rest).drop c.utf8Size)
      | none => replacement :: runes fuel rest

def text (value : Bytes) : List Char := runes value.length value

def readText : Nat → Bytes → Option (List Char × Bytes)
  | _, [] => none
  | 0, _ => none
  | fuel + 1, b :: rest =>
    if b = 34 then some ([], rest)
    else do
      let (c, rest) ← readRune (b :: rest)
      let (text, rest) ← readText fuel rest
      return (c :: text, rest)

def readSign (allowed : UInt8 → Bool) : Bytes → Bytes × Bytes
  | [] => ([], [])
  | b :: rest => if allowed b then ([b], rest) else ([], b :: rest)

def readDigits (input : Bytes) : Option (Bytes × Bytes) :=
  let digits := input.takeWhile isDigit
  if digits = [] then none else some (digits, input.dropWhile isDigit)

def readInteger : Bytes → Option (Bytes × Bytes)
  | [] => none
  | b :: rest => if b = 48 then some ([48], rest) else readDigits (b :: rest)

def readFraction : Bytes → Option (Bytes × Bytes)
  | [] => some ([], [])
  | b :: rest =>
    if b = 46 then do
      let (digits, rest) ← readDigits rest
      return (46 :: digits, rest)
    else some ([], b :: rest)

def readExponent : Bytes → Option (Bytes × Bytes)
  | [] => some ([], [])
  | b :: rest =>
    if b = 101 ∨ b = 69 then do
      let (sign, rest) := readSign (fun s => s == 43 || s == 45) rest
      let (digits, rest) ← readDigits rest
      return (b :: (sign ++ digits), rest)
    else some ([], b :: rest)

def readNumber (input : Bytes) : Option (Bytes × Bytes) := do
  let (sign, rest) := readSign (· == 45) input
  let (integer, rest) ← readInteger rest
  let (fraction, rest) ← readFraction rest
  let (exponent, rest) ← readExponent rest
  return (sign ++ (integer ++ (fraction ++ exponent)), rest)

def readLiteral (word : Bytes) (value : Value) (input : Bytes) : Option (Value × Bytes) :=
  if input.take word.length = word then some (value, input.drop word.length) else none

/- The value at the start of the input. `depth` is the nesting that is still
allowed. The fuel of every call is at least the number of bytes left. -/
mutual
def readValue : Nat → Nat → Bytes → Option (Value × Bytes)
  | 0, _, _ => none
  | fuel + 1, depth, input =>
    match skipSpace input with
    | [] => none
    | b :: rest =>
      if b = 110 then readLiteral (ascii "null") .null (b :: rest)
      else if b = 116 then readLiteral (ascii "true") (.bool true) (b :: rest)
      else if b = 102 then readLiteral (ascii "false") (.bool false) (b :: rest)
      else if b = 34 then (readText (rest.length + 1) rest).map fun p => (.string p.1, p.2)
      else if b = 91 then
        match depth with
        | 0 => none
        | depth + 1 =>
          match skipSpace rest with
          | [] => none
          | c :: rest' =>
            if c = 93 then some (.array .nil, rest')
            else (readItems fuel depth (c :: rest')).map fun p => (.array p.1, p.2)
      else if b = 123 then
        match depth with
        | 0 => none
        | depth + 1 =>
          match skipSpace rest with
          | [] => none
          | c :: rest' =>
            if c = 125 then some (.object .nil, rest')
            else (readMembers fuel depth .nil (c :: rest')).map fun p => (.object p.1, p.2)
      else (readNumber (b :: rest)).map fun p => (.number p.1, p.2)
def readItems : Nat → Nat → Bytes → Option (Items × Bytes)
  | 0, _, _ => none
  | fuel + 1, depth, input => do
    let (head, rest) ← readValue fuel depth input
    match skipSpace rest with
    | [] => none
    | c :: rest' =>
      if c = 93 then some (.cons head .nil, rest')
      else if c = 44 then do
        let (tail, rest) ← readItems fuel depth rest'
        return (.cons head tail, rest)
      else none
def readMembers : Nat → Nat → Members → Bytes → Option (Members × Bytes)
  | 0, _, _, _ => none
  | fuel + 1, depth, seen, input =>
    match skipSpace input with
    | [] => none
    | b :: rest =>
      if b = 34 then do
        let (name, rest) ← readText (rest.length + 1) rest
        match skipSpace rest with
        | [] => none
        | c :: rest =>
          if c = 58 then do
            let (value, rest) ← readValue fuel depth rest
            match skipSpace rest with
            | [] => none
            | c :: rest =>
              if c = 125 then some (seen.insert name value, rest)
              else if c = 44 then readMembers fuel depth (seen.insert name value) rest
              else none
          else none
      else none
end

def maxNestingDepth : Nat := 10000

def parse (input : Bytes) : Option Value := do
  let (value, rest) ← readValue (input.length + 1) maxNestingDepth input
  if skipSpace rest = [] then some value else none

end Json
