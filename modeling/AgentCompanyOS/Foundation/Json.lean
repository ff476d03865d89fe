import AgentCompanyOS.Foundation.Text

/-!
# JSON texts

The part of Python's `json` that the modelled code uses: values, `json.dumps` with
its separators and `ensure_ascii`, and `json.loads` as a recursive-descent parser.
An object is the list of its members in the order of the text; the parser can be
told to refuse an object with a repeated key at the point where it closes, which is
what an `object_pairs_hook` that raises does. A number with a fraction or an
exponent keeps its text, so that no floating-point format is fixed here.
-/

set_option autoImplicit false

namespace AgentCompanyOS.Foundation

/-- A JSON value. -/
inductive Json where
  | null
  | bool (b : Bool)
  | int (n : Int)
  | float (text : PyStr)
  | str (s : PyStr)
  | arr (items : List Json)
  | obj (members : List (PyStr × Json))

instance : Inhabited Json := ⟨.null⟩

namespace Json

/-! ## Printing -/

/-- The options of `json.dumps` in use. -/
structure Style where
  ascii : Bool
  itemSep : PyStr
  keySep : PyStr

/-- `separators=(",", ":")`. -/
def Style.compact (ascii : Bool) : Style := ⟨ascii, py ",", py ":"⟩

/-- The default separators. -/
def Style.spaced (ascii : Bool) : Style := ⟨ascii, py ", ", py ": "⟩

/-- A lower-case hexadecimal digit. -/
def hexDigit (n : Nat) : CodePoint := if n < 10 then Fin.ofNat _ (48 + n) else Fin.ofNat _ (87 + n)

/-- The escape `\uXXXX` of a 16-bit unit. -/
def unicodeEscape (n : Nat) : PyStr :=
  [92, 117, hexDigit (n / 4096 % 16), hexDigit (n / 256 % 16), hexDigit (n / 16 % 16),
    hexDigit (n % 16)]

/-- One code point inside a JSON string. -/
def escape (ascii : Bool) (c : CodePoint) : PyStr :=
  if c = 34 then [92, 34]
  else if c = 92 then [92, 92]
  else if c = 10 then [92, 110]
  else if c = 13 then [92, 114]
  else if c = 9 then [92, 116]
  else if c = 12 then [92, 102]
  else if c = 8 then [92, 98]
  else if c.val < 32 then unicodeEscape c.val
  else if ascii = true ∧ 126 < c.val then
    if c.val < 0x10000 then unicodeEscape c.val
    else unicodeEscape (0xd800 + (c.val - 0x10000) / 1024) ++
      unicodeEscape (0xdc00 + (c.val - 0x10000) % 1024)
  else [c]

/-- A JSON string. -/
def quote (ascii : Bool) (s : PyStr) : PyStr := 34 :: s.flatMap (escape ascii) ++ [34]

/-- A JSON integer. -/
def intText : Int → PyStr
  | .ofNat n => pyNat n
  | .negSucc n => 45 :: pyNat (n + 1)

mutual

/-- `json.dumps` of a value. -/
def dumps (style : Style) : Json → PyStr
  | null => py "null"
  | bool b => if b then py "true" else py "false"
  | int n => intText n
  | float text => text
  | str s => quote style.ascii s
  | arr [] => [91, 93]
  | arr (x :: rest) => 91 :: dumps style x ++ dumpsItems style rest
  | obj [] => [123, 125]
  | obj ((k, x) :: rest) =>
      123 :: quote style.ascii k ++ style.keySep ++ dumps style x ++ dumpsMembers style rest

/-- The items after the first one, and the closing bracket. -/
def dumpsItems (style : Style) : List Json → PyStr
  | [] => [93]
  | x :: rest => style.itemSep ++ dumps style x ++ dumpsItems style rest

/-- The members after the first one, and the closing brace. -/
def dumpsMembers (style : Style) : List (PyStr × Json) → PyStr
  | [] => [125]
  | (k, x) :: rest =>
      style.itemSep ++ quote style.ascii k ++ style.keySep ++ dumps style x ++
        dumpsMembers style rest

end

/-- `a <= b` on strings, by code points. -/
def textLe : PyStr → PyStr → Bool
  | [], _ => true
  | _ :: _, [] => false
  | a :: as, b :: bs => if a = b then textLe as bs else a.val < b.val

/-- Insert a member before the first one with a larger key. -/
def insertMember (member : PyStr × Json) : List (PyStr × Json) → List (PyStr × Json)
  | [] => [member]
  | head :: rest =>
      if textLe member.1 head.1 then member :: head :: rest else head :: insertMember member rest

mutual

/-- What `json.dumps(json.loads(text), sort_keys=True)` prints: the members of every
object in the order of their keys, and every float as Python writes it. -/
def canonical (floatRepr : PyStr → PyStr) : Json → Json
  | null => null
  | bool b => bool b
  | int n => int n
  | float text => float (floatRepr text)
  | str s => str s
  | arr items => arr (canonicalItems floatRepr items)
  | obj members => obj (canonicalMembers floatRepr members)

def canonicalItems (floatRepr : PyStr → PyStr) : List Json → List Json
  | [] => []
  | x :: rest => canonical floatRepr x :: canonicalItems floatRepr rest

def canonicalMembers (floatRepr : PyStr → PyStr) : List (PyStr × Json) → List (PyStr × Json)
  | [] => []
  | (k, x) :: rest =>
      insertMember (k, canonical floatRepr x) (canonicalMembers floatRepr rest)

end

/-! ## Parsing -/

/-- Why a text is not accepted. -/
inductive ParseError where
  | syntaxError
  | repeatedKey
deriving DecidableEq

/-- JSON white space. -/
def isWhite (c : CodePoint) : Bool := c = 32 || c = 9 || c = 10 || c = 13

/-- Skip white space. -/
def skip (s : PyStr) : PyStr := s.dropWhile isWhite

/-- The value of a hexadecimal digit. -/
def hexValue (c : CodePoint) : Option Nat :=
  if 48 ≤ c.val ∧ c.val ≤ 57 then some (c.val - 48)
  else if 97 ≤ c.val ∧ c.val ≤ 102 then some (c.val - 87)
  else if 65 ≤ c.val ∧ c.val ≤ 70 then some (c.val - 55)
  else none

/-- Four hexadecimal digits. -/
def hex4 (a b c d : CodePoint) : Option Nat := do
  let a ← hexValue a
  let b ← hexValue b
  let c ← hexValue c
  let d ← hexValue d
  some (a * 4096 + b * 256 + c * 16 + d)

/-- A simple escape after the backslash. -/
def simpleEscape (c : CodePoint) : Option CodePoint :=
  if c = 34 ∨ c = 92 ∨ c = 47 then some c
  else if c = 98 then some 8
  else if c = 102 then some 12
  else if c = 110 then some 10
  else if c = 114 then some 13
  else if c = 116 then some 9
  else none

/-- The low surrogate that an escape at the head of the text denotes, and the rest. -/
def lowSurrogate : PyStr → Option (Nat × PyStr)
  | x :: y :: a :: b :: c :: d :: rest =>
      if x = 92 ∧ y = 117 then
        match hex4 a b c d with
        | some u => if 0xdc00 ≤ u ∧ u ≤ 0xdfff then some (u, rest) else none
        | none => none
      else none
  | _ => none

/-- The body of a string up to its closing quote. -/
def scanString : Nat → PyStr → Except ParseError (PyStr × PyStr)
  | 0, _ => .error .syntaxError
  | _ + 1, [] => .error .syntaxError
  | fuel + 1, c :: rest =>
      if c = 34 then .ok ([], rest)
      else if c.val < 32 then .error .syntaxError
      else if c = 92 then
        match rest with
        | [] => .error .syntaxError
        | e :: rest =>
            if e = 117 then
              match rest with
              | a :: b :: c :: d :: rest =>
                  match hex4 a b c d with
                  | none => .error .syntaxError
                  | some u =>
                      let pair := if 0xd800 ≤ u ∧ u ≤ 0xdbff then lowSurrogate rest else none
                      match pair with
                      | some (v, rest) => do
                          let (s, rest) ← scanString fuel rest
                          .ok (Fin.ofNat _ (0x10000 + (u - 0xd800) * 1024 + (v - 0xdc00)) :: s,
                            rest)
                      | none => do
                          let (s, rest) ← scanString fuel rest
                          .ok (Fin.ofNat _ u :: s, rest)
              | _ => .error .syntaxError
            else
              match simpleEscape e with
              | none => .error .syntaxError
              | some x => do
                  let (s, rest) ← scanString fuel rest
                  .ok (x :: s, rest)
      else do
        let (s, rest) ← scanString fuel rest
        .ok (c :: s, rest)

/-- A decimal digit. -/
def isDigit (c : CodePoint) : Bool := 48 ≤ c.val && c.val ≤ 57

/-- The number a list of digits denotes. -/
def natValue (ds : PyStr) : Nat := ds.foldl (fun n c => n * 10 + (c.val - 48)) 0

/-- A fraction at the head of the text: its text and the rest. -/
def scanFraction : PyStr → PyStr × PyStr
  | [] => ([], [])
  | c :: rest =>
      if c = 46 ∧ rest.takeWhile isDigit ≠ [] then
        (c :: rest.takeWhile isDigit, rest.dropWhile isDigit)
      else ([], c :: rest)

/-- The sign and the text after it. -/
def scanSign : PyStr → PyStr × PyStr
  | [] => ([], [])
  | c :: rest => if c = 43 ∨ c = 45 then ([c], rest) else ([], c :: rest)

/-- An exponent at the head of the text: its text and the rest. -/
def scanExponent : PyStr → PyStr × PyStr
  | [] => ([], [])
  | c :: rest =>
      let (sign, digits) := scanSign rest
      if (c = 101 ∨ c = 69) ∧ digits.takeWhile isDigit ≠ [] then
        (c :: sign ++ digits.takeWhile isDigit, digits.dropWhile isDigit)
      else ([], c :: rest)

/-- The digits of an integer part: `0`, or digits that do not start with `0`. -/
def scanInteger (s : PyStr) : Option (PyStr × PyStr) :=
  match s with
  | [] => none
  | c :: rest =>
      if c = 48 then some ([c], rest)
      else if isDigit c then some (c :: rest.takeWhile isDigit, rest.dropWhile isDigit)
      else none

/-- Python refuses to convert longer decimal texts to integers. -/
def maxDigits : Nat := 4300

/-- An unsigned number, with the text of its sign. -/
def scanUnsigned (negative : Bool) (s : PyStr) : Except ParseError (Json × PyStr) :=
  match scanInteger s with
  | none => .error .syntaxError
  | some (digits, rest) =>
      let (fraction, rest) := scanFraction rest
      let (exponent, rest) := scanExponent rest
      if fraction = [] ∧ exponent = [] then
        if maxDigits < digits.length then .error .syntaxError
        else .ok (.int (if negative then -(natValue digits : Int) else natValue digits), rest)
      else
        .ok (.float ((if negative then [45] else []) ++ digits ++ fraction ++ exponent), rest)

/-- A constant of the JSON grammar, with Python's `NaN` and infinities. -/
def scanConstant (s : PyStr) : Except ParseError (Json × PyStr) :=
  let constants : List (PyStr × Json) :=
    [(py "null", .null), (py "true", .bool true), (py "false", .bool false),
      (py "NaN", .float (py "NaN")), (py "Infinity", .float (py "Infinity")),
      (py "-Infinity", .float (py "-Infinity"))]
  match constants.find? fun entry => entry.1.isPrefixOf s with
  | some (word, value) => .ok (value, s.drop word.length)
  | none => .error .syntaxError

/-- A number or a constant. -/
def scanScalar (s : PyStr) : Except ParseError (Json × PyStr) :=
  match s with
  | [] => .error .syntaxError
  | c :: rest =>
      if isDigit c then scanUnsigned false s
      else if c = 45 ∧ rest.head?.any isDigit then scanUnsigned true rest
      else scanConstant s

mutual

/-- A value at the head of the text. -/
def parseValue (unique : Bool) : Nat → PyStr → Except ParseError (Json × PyStr)
  | 0, _ => .error .syntaxError
  | _ + 1, [] => .error .syntaxError
  | fuel + 1, c :: rest =>
      if c = 34 then do
        let (s, rest) ← scanString (rest.length + 1) rest
        .ok (.str s, rest)
      else if c = 91 then do
        let (items, rest) ← parseItems unique fuel true (skip rest)
        .ok (.arr items, rest)
      else if c = 123 then do
        let (members, rest) ← parseMembers unique fuel true (skip rest)
        if unique = true ∧ ¬(members.map Prod.fst).Nodup then .error .repeatedKey
        else .ok (.obj members, rest)
      else scanScalar (c :: rest)

/-- The items of an array from the first one, or from the separator before the next
one, up to the closing bracket. -/
def parseItems (unique : Bool) : Nat → Bool → PyStr → Except ParseError (List Json × PyStr)
  | 0, _, _ => .error .syntaxError
  | _ + 1, _, [] => .error .syntaxError
  | fuel + 1, first, c :: rest =>
      if c = 93 then .ok ([], rest)
      else if first = false ∧ c ≠ 44 then .error .syntaxError
      else do
        let (x, rest) ← parseValue unique fuel (if first then c :: rest else skip rest)
        let (xs, rest) ← parseItems unique fuel false (skip rest)
        .ok (x :: xs, rest)

/-- The members of an object, in the same way. -/
def parseMembers (unique : Bool) :
    Nat → Bool → PyStr → Except ParseError (List (PyStr × Json) × PyStr)
  | 0, _, _ => .error .syntaxError
  | _ + 1, _, [] => .error .syntaxError
  | fuel + 1, first, c :: rest =>
      if c = 125 then .ok ([], rest)
      else if first = false ∧ c ≠ 44 then .error .syntaxError
      else
        match (if first then c :: rest else skip rest) with
        | [] => .error .syntaxError
        | q :: rest =>
            if q ≠ 34 then .error .syntaxError
            else do
              let (key, rest) ← scanString (rest.length + 1) rest
              match skip rest with
              | [] => .error .syntaxError
              | colon :: rest =>
                  if colon ≠ 58 then .error .syntaxError
                  else do
                    let (x, rest) ← parseValue unique fuel (skip rest)
                    let (xs, rest) ← parseMembers unique fuel false (skip rest)
                    .ok ((key, x) :: xs, rest)

end

/-- `json.loads`; with `unique`, under a hook that raises on a repeated key. -/
def loads (unique : Bool) (raw : PyStr) : Except ParseError Json :=
  if raw.head? = some 0xfeff then .error .syntaxError
  else do
    let (x, rest) ← parseValue unique (2 * raw.length + 2) (skip raw)
    if skip rest = [] then .ok x else .error .syntaxError

/-! ## Access -/

/-- The value of a member. -/
def get? (key : PyStr) : List (PyStr × Json) → Option Json
  | [] => none
  | (k, x) :: rest => if k = key then some x else get? key rest

/-- The members of an object that has exactly the given keys. -/
def object? (keys : List PyStr) (x : Json) : Option (List (PyStr × Json)) :=
  match x with
  | obj members =>
      if (∀ k ∈ members.map Prod.fst, k ∈ keys) ∧ ∀ k ∈ keys, k ∈ members.map Prod.fst then
        some members
      else none
  | _ => none

example : (loads true (py "\x7b\"k\": [1, -20, \"a\\u00e9\"], \"v\": 1.50e3\x7d")).map
    (dumps (.compact true)) = .ok (py "\x7b\"k\":[1,-20,\"a\\u00e9\"],\"v\":1.50e3\x7d") := by
  decide +kernel

end Json

end AgentCompanyOS.Foundation
