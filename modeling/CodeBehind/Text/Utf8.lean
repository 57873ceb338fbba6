/-!
UTF-8 files.

`encode` writes a text as octets and `decode` reads octets strictly. The decoder refuses the first
sequence that is no character: overlong forms, surrogates, numbers past the last plane, stray and
missing continuation octets. A refusal names the octets read so far of that sequence and the reason,
so its position is part of the answer.
-/

namespace CodeBehind.Text.Utf8

/-! ### Writing -/

def encodeChar (c : Char) : List UInt8 :=
  let n := c.toNat
  if n < 0x80 then [UInt8.ofNat n]
  else if n < 0x800 then [UInt8.ofNat (0xC0 + n / 64), UInt8.ofNat (0x80 + n % 64)]
  else if n < 0x10000 then
    [UInt8.ofNat (0xE0 + n / 4096), UInt8.ofNat (0x80 + n / 64 % 64), UInt8.ofNat (0x80 + n % 64)]
  else
    [UInt8.ofNat (0xF0 + n / 262144), UInt8.ofNat (0x80 + n / 4096 % 64),
      UInt8.ofNat (0x80 + n / 64 % 64), UInt8.ofNat (0x80 + n % 64)]

def encode (text : List Char) : List UInt8 :=
  text.flatMap encodeChar

/-! ### Reading -/

/-- Why a sequence of octets is no character. -/
inductive Reason where
  | invalidStart
  | invalidContinuation
  | endOfData
deriving DecidableEq, Repr

/-- A refusal: the octets from position `first` on, `count` of them, `octet` being the first. -/
structure DecodeError where
  first : Nat
  count : Nat
  octet : UInt8
  reason : Reason
deriving DecidableEq, Repr

def isContinuation (b : UInt8) : Bool :=
  0x80 ≤ b.toNat && b.toNat ≤ 0xBF

/-- The octets that may come second in a sequence of three. After `E0` the low ones would be
overlong, after `ED` the high ones would be surrogates. -/
def isSecondOfThree (lead b : UInt8) : Bool :=
  isContinuation b && !(lead.toNat == 0xE0 && b.toNat < 0xA0) &&
    !(lead.toNat == 0xED && 0xA0 ≤ b.toNat)

/-- The octets that may come second in a sequence of four. After `F0` the low ones would be
overlong, after `F4` the high ones would lie past the last plane. -/
def isSecondOfFour (lead b : UInt8) : Bool :=
  isContinuation b && !(lead.toNat == 0xF0 && b.toNat < 0x90) &&
    !(lead.toNat == 0xF4 && 0x90 ≤ b.toNat)

/-- The six bits that a continuation octet carries. -/
def payload (b : UInt8) : Nat :=
  b.toNat - 0x80

/-- Reads octets that stand at position `pos` of their file. -/
def decodeFrom (pos : Nat) : List UInt8 → Except DecodeError (List Char)
  | [] => .ok []
  | a :: rest =>
    let refuse (count : Nat) (reason : Reason) : Except DecodeError (List Char) :=
      .error ⟨pos, count, a, reason⟩
    let n := a.toNat
    if n < 0x80 then
      (decodeFrom (pos + 1) rest).map (Char.ofNat n :: ·)
    else if n < 0xC2 then refuse 1 .invalidStart
    else if n < 0xE0 then
      match rest with
      | [] => refuse 1 .endOfData
      | b :: rest =>
        if isContinuation b then
          (decodeFrom (pos + 2) rest).map (Char.ofNat ((n - 0xC0) * 64 + payload b) :: ·)
        else refuse 1 .invalidContinuation
    else if n < 0xF0 then
      match rest with
      | [] => refuse 1 .endOfData
      | b :: rest =>
        if isSecondOfThree a b then
          match rest with
          | [] => refuse 2 .endOfData
          | c :: rest =>
            if isContinuation c then
              (decodeFrom (pos + 3) rest).map
                (Char.ofNat ((n - 0xE0) * 4096 + payload b * 64 + payload c) :: ·)
            else refuse 2 .invalidContinuation
        else refuse 1 .invalidContinuation
    else if n < 0xF5 then
      match rest with
      | [] => refuse 1 .endOfData
      | b :: rest =>
        if isSecondOfFour a b then
          match rest with
          | [] => refuse 2 .endOfData
          | c :: rest =>
            if isContinuation c then
              match rest with
              | [] => refuse 3 .endOfData
              | d :: rest =>
                if isContinuation d then
                  (decodeFrom (pos + 4) rest).map
                    (Char.ofNat ((n - 0xF0) * 262144 + payload b * 4096 + payload c * 64 +
                      payload d) :: ·)
                else refuse 3 .invalidContinuation
            else refuse 2 .invalidContinuation
        else refuse 1 .invalidContinuation
    else refuse 1 .invalidStart

def decode (octets : List UInt8) : Except DecodeError (List Char) :=
  decodeFrom 0 octets

def byteOrderMark : List UInt8 :=
  [0xEF, 0xBB, 0xBF]

/-- Reads the octets of a file that may begin with a byte order mark. The mark is skipped and
positions count from after it; a file that ends inside the mark is empty. -/
def decodeMarked (octets : List UInt8) : Except DecodeError (List Char) :=
  if octets.length < 3 ∧ octets.isPrefixOf byteOrderMark then .ok []
  else if byteOrderMark.isPrefixOf octets then decode (octets.drop 3)
  else decode octets

/-! ### Messages -/

def Reason.message : Reason → String
  | .invalidStart => "invalid start byte"
  | .invalidContinuation => "invalid continuation byte"
  | .endOfData => "unexpected end of data"

def octetText (b : UInt8) : String :=
  String.ofList [Nat.digitChar (b.toNat / 16), Nat.digitChar (b.toNat % 16)]

/-- The wording of a refusal: one octet is shown, several are given by their positions. -/
def DecodeError.message (e : DecodeError) : String :=
  (if e.count = 1 then
    "'utf-8' codec can't decode byte 0x" ++ octetText e.octet ++ " in position " ++
      Nat.repr e.first
  else
    "'utf-8' codec can't decode bytes in position " ++ Nat.repr e.first ++ "-" ++
      Nat.repr (e.first + e.count - 1)) ++
    ": " ++ e.reason.message

end CodeBehind.Text.Utf8
