import ContractScan.Json.Reader

/-!
# JSON as bytes

A body is UTF-8, UTF-16 or UTF-32, of either byte order, with or without a byte order mark. Without a
mark the first bytes tell which, since a JSON text begins with an ASCII character. A half of a surrogate
pair that stands alone is read as the replacement character; any other broken sequence is refused.
-/

namespace ContractScan.Json

/-- The bytes of a body. -/
abbrev Bytes := List UInt8

/-- The encodings of a body. -/
inductive Encoding where
  | utf8
  | utf16 (bigEndian : Bool)
  | utf32 (bigEndian : Bool)
  deriving DecidableEq, Repr

/-- The encoding that a byte order mark names, and the bytes after the mark. -/
def marked? : Bytes → Option (Encoding × Bytes)
  | 0x00 :: 0x00 :: 0xFE :: 0xFF :: r => some (.utf32 true, r)
  | 0xFF :: 0xFE :: 0x00 :: 0x00 :: r => some (.utf32 false, r)
  | 0xFE :: 0xFF :: r => some (.utf16 true, r)
  | 0xFF :: 0xFE :: r => some (.utf16 false, r)
  | 0xEF :: 0xBB :: 0xBF :: r => some (.utf8, r)
  | _ => none

/-- The encoding of bytes without a mark, from where their zeros stand. -/
def guess : Bytes → Encoding
  | [a, b] => if a = 0 then .utf16 true else if b = 0 then .utf16 false else .utf8
  | a :: b :: c :: d :: _ =>
    if a = 0 then (if b = 0 then .utf32 true else .utf16 true)
    else if b = 0 then (if c = 0 ∧ d = 0 then .utf32 false else .utf16 false)
    else .utf8
  | _ => .utf8

/-- The encoding of a body and the bytes of its text. -/
def detect (b : Bytes) : Encoding × Bytes := (marked? b).getD (guess b, b)

/-- A byte that continues a character. -/
def isTail (b : UInt8) : Bool := 0x80 ≤ b && b ≤ 0xBF

/-- The low six bits of a continuing byte. -/
def tailBits (b : UInt8) : Nat := b.toNat % 64

/-- The characters of UTF-8 bytes. -/
def decode8 : Bytes → Option (List Char)
  | [] => some []
  | a :: r =>
    if a < 0x80 then (decode8 r).map (Char.ofNat a.toNat :: ·)
    else
      match r with
      | b :: r =>
        if 0xC2 ≤ a ∧ a ≤ 0xDF ∧ isTail b then
          (decode8 r).map (Char.ofNat ((a.toNat - 0xC0) * 64 + tailBits b) :: ·)
        else
          match r with
          | c :: r =>
            let n := ((a.toNat - 0xE0) * 64 + tailBits b) * 64 + tailBits c
            if 0xE0 ≤ a ∧ a ≤ 0xEF ∧ isTail b ∧ isTail c ∧ 0x800 ≤ n then
              (decode8 r).map (charOfUnit n :: ·)
            else
              match r with
              | d :: r =>
                let n := (((a.toNat - 0xF0) * 64 + tailBits b) * 64 + tailBits c) * 64 + tailBits d
                if 0xF0 ≤ a ∧ a ≤ 0xF4 ∧ isTail b ∧ isTail c ∧ isTail d ∧ 0x10000 ≤ n ∧ n < 0x110000 then
                  (decode8 r).map (Char.ofNat n :: ·)
                else none
              | [] => none
          | [] => none
      | [] => none

/-- The units of 16 bits of bytes. -/
def units16 (bigEndian : Bool) : Bytes → Option (List Nat)
  | [] => some []
  | [_] => none
  | a :: b :: r =>
    let n := if bigEndian then a.toNat * 256 + b.toNat else b.toNat * 256 + a.toNat
    (units16 bigEndian r).map (n :: ·)

/-- The characters of units of 16 bits. -/
def joinUnits : List Nat → List Char
  | [] => []
  | [n] => [charOfUnit n]
  | n :: m :: r =>
    if isHighHalf n && isLowHalf m then joinHalves n m :: joinUnits r
    else charOfUnit n :: joinUnits (m :: r)

/-- The characters of bytes in units of 32 bits. -/
def decode32 (bigEndian : Bool) : Bytes → Option (List Char)
  | [] => some []
  | a :: b :: c :: d :: r =>
    let n :=
      if bigEndian then ((a.toNat * 256 + b.toNat) * 256 + c.toNat) * 256 + d.toNat
      else ((d.toNat * 256 + c.toNat) * 256 + b.toNat) * 256 + a.toNat
    if n < 0x110000 then (decode32 bigEndian r).map (charOfUnit n :: ·) else none
  | _ => none

/-- The characters of a body. -/
def decode (b : Bytes) : Option (List Char) :=
  match detect b with
  | (.utf8, r) => decode8 r
  | (.utf16 be, r) => (units16 be r).map joinUnits
  | (.utf32 be, r) => decode32 be r

/-- Why a body is no value. -/
inductive BodyError where
  | undecodable
  /-- The text is no value: where it stops being one. -/
  | malformed (offset : Nat)
  | numeralTooLong
  deriving DecidableEq, Repr

/-- The value that a body denotes. -/
def readBytes (b : Bytes) : Except BodyError Json :=
  match decode b with
  | none => .error .undecodable
  | some cs =>
    match read cs with
    | .ok v => .ok v
    | .error (.malformed rest) => .error (.malformed (offsetIn cs rest))
    | .error .numeralTooLong => .error .numeralTooLong

/-- The UTF-8 bytes of a text. -/
def encode (s : String) : Bytes := s.toUTF8.toList

end ContractScan.Json
