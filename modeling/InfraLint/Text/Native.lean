/-!
Texts of the operating system: names of files, arguments, variables. The system has them as bytes.
Those that are UTF-8 are texts as they are. A byte that belongs to no character is written as NUL,
which the system has in none of its texts, with the character of the byte's number behind it.
-/
namespace InfraLint.Native

def mark : Char := '\x00'

def isUtf8 (s : String) : Bool := !s.toList.contains mark

def bytesOf : List Char → List UInt8
  | [] => []
  | [c] => String.utf8EncodeChar c
  | c :: b :: s =>
    if c = mark then UInt8.ofNat b.toNat :: bytesOf s
    else String.utf8EncodeChar c ++ bytesOf (b :: s)

def bytes (s : String) : List UInt8 := bytesOf s.toList

def character? (bs : List UInt8) : Option (Char × List UInt8) :=
  [1, 2, 3, 4].findSome? fun n =>
    match (String.fromUTF8? (bs.take n).toByteArray).map String.toList with
    | some [c] => some (c, bs.drop n)
    | _ => none

def charsOf (fuel : Nat) (bs : List UInt8) : List Char :=
  match fuel, bs with
  | 0, _ => []
  | _, [] => []
  | fuel + 1, b :: rest =>
    match character? (b :: rest) with
    | some (c, rest) => c :: charsOf fuel rest
    | none => mark :: Char.ofNat b.toNat :: charsOf fuel rest

def ofBytes (bs : List UInt8) : String := .ofList (charsOf bs.length bs)

def continuations (b : Nat) : List (Nat × Nat) :=
  if 0xC2 ≤ b ∧ b ≤ 0xDF then [(0x80, 0xBF)]
  else if b = 0xE0 then [(0xA0, 0xBF), (0x80, 0xBF)]
  else if b = 0xED then [(0x80, 0x9F), (0x80, 0xBF)]
  else if 0xE1 ≤ b ∧ b ≤ 0xEF then [(0x80, 0xBF), (0x80, 0xBF)]
  else if b = 0xF0 then [(0x90, 0xBF), (0x80, 0xBF), (0x80, 0xBF)]
  else if 0xF1 ≤ b ∧ b ≤ 0xF3 then [(0x80, 0xBF), (0x80, 0xBF), (0x80, 0xBF)]
  else if b = 0xF4 then [(0x80, 0x8F), (0x80, 0xBF), (0x80, 0xBF)]
  else []

/-- What is shown behind bytes that a character could go on from with the `expected` ones. Bytes
that begin a character together are shown as one replacement character. -/
def shownBehind : List (Nat × Nat) → List Char → List Char
  | _, [] => []
  | _, [c] => [if c = mark then '\uFFFD' else c]
  | expected, c :: b :: s =>
    if c = mark then
      match expected with
      | (first, last) :: expected =>
        if first ≤ b.toNat ∧ b.toNat ≤ last then shownBehind expected s
        else '\uFFFD' :: shownBehind (continuations b.toNat) s
      | [] => '\uFFFD' :: shownBehind (continuations b.toNat) s
    else c :: shownBehind [] (b :: s)

def shown (s : String) : String := .ofList (shownBehind [] s.toList)

end InfraLint.Native
