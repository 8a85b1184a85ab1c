/-!
White space as Unicode counts it (the property White_Space), and text as it is decoded. Numbers,
colours and font names are all read with this one notion of a blank, and all bytes with this one
decoder.
-/

namespace HouseStyle.Text

def blankRanges : List (Nat × Nat) :=
  [(0x09, 0x0D), (0x20, 0x20), (0x85, 0x85), (0xA0, 0xA0), (0x1680, 0x1680), (0x2000, 0x200A),
   (0x2028, 0x2029), (0x202F, 0x202F), (0x205F, 0x205F), (0x3000, 0x3000)]

def isBlank (char : Char) : Bool :=
  blankRanges.any fun range => range.1 ≤ char.toNat && char.toNat ≤ range.2

def trim (text : List Char) : List Char :=
  ((text.dropWhile isBlank).reverse.dropWhile isBlank).reverse

def allBlank (text : List Char) : Bool := text.all isBlank

end HouseStyle.Text

/-!
UTF-8 as text. Only the shortest form of a character is well formed, and no half of a surrogate
pair is. The first fault is reported with the index it is at: bytes that cannot go on to be a
character, with their number, or a character that the end of the text cuts short. Text can also be
had from any bytes, with a mark in the place of each fault.
-/

namespace HouseStyle.Utf8

inductive Error where
  | invalid (length index : Nat)
  | incomplete (index : Nat)
deriving DecidableEq

def Error.message : Error → String
  | invalid length index =>
    String.ofList ("invalid utf-8 sequence of ".toList ++ Nat.toDigits 10 length ++
      " bytes from index ".toList ++ Nat.toDigits 10 index)
  | incomplete index =>
    String.ofList ("incomplete utf-8 byte sequence from index ".toList ++ Nat.toDigits 10 index)

/-- First bytes that call for the same number of bytes and the same range of second bytes. -/
structure Lead where
  first : Nat
  last : Nat
  width : Nat
  low : Nat
  high : Nat

def leads : List Lead :=
  [⟨0xC2, 0xDF, 2, 0x80, 0xBF⟩, ⟨0xE0, 0xE0, 3, 0xA0, 0xBF⟩, ⟨0xE1, 0xEC, 3, 0x80, 0xBF⟩,
   ⟨0xED, 0xED, 3, 0x80, 0x9F⟩, ⟨0xEE, 0xEF, 3, 0x80, 0xBF⟩, ⟨0xF0, 0xF0, 4, 0x90, 0xBF⟩,
   ⟨0xF1, 0xF3, 4, 0x80, 0xBF⟩, ⟨0xF4, 0xF4, 4, 0x80, 0x8F⟩]

def lead? (byte : UInt8) : Option Lead :=
  leads.find? fun lead => lead.first ≤ byte.toNat && byte.toNat ≤ lead.last

def continues (byte : UInt8) : Bool := 0x80 ≤ byte.toNat && byte.toNat ≤ 0xBF

def payload (byte : UInt8) : Nat := byte.toNat % 0x40

/-- The characters of bytes that begin at an index, after those read, newest first. -/
def decodeFrom (index : Nat) (read : List Char) : List UInt8 → Except Error (List Char)
  | [] => .ok read.reverse
  | first :: rest =>
    if first.toNat < 0x80 then decodeFrom (index + 1) (Char.ofNat first.toNat :: read) rest
    else match lead? first with
    | none => .error (.invalid 1 index)
    | some lead =>
      match rest with
      | [] => .error (.incomplete index)
      | second :: rest =>
        if second.toNat < lead.low || lead.high < second.toNat then .error (.invalid 1 index)
        else if lead.width = 2 then
          let code := (first.toNat - 0xC0) * 0x40 + payload second
          decodeFrom (index + 2) (Char.ofNat code :: read) rest
        else match rest with
        | [] => .error (.incomplete index)
        | third :: rest =>
          if !continues third then .error (.invalid 2 index)
          else if lead.width = 3 then
            let code := (first.toNat - 0xE0) * 0x1000 + payload second * 0x40 + payload third
            decodeFrom (index + 3) (Char.ofNat code :: read) rest
          else match rest with
          | [] => .error (.incomplete index)
          | fourth :: rest =>
            if !continues fourth then .error (.invalid 3 index)
            else
              let code := (first.toNat - 0xF0) * 0x40000 + payload second * 0x1000 +
                payload third * 0x40 + payload fourth
              decodeFrom (index + 4) (Char.ofNat code :: read) rest

def decode (bytes : List UInt8) : Except Error String :=
  (decodeFrom 0 [] bytes).map String.ofList

def replacement : Char := '\uFFFD'

def charsBefore (index : Nat) (bytes : List UInt8) : List Char :=
  (decodeFrom 0 [] (bytes.take index)).toOption.getD []

/-- The characters of bytes with marks for the faults, each of which takes at least one byte. -/
def repair : (faults : Nat) → List UInt8 → List Char
  | 0, _ => []
  | faults + 1, bytes =>
    match decodeFrom 0 [] bytes with
    | .ok chars => chars
    | .error (.incomplete index) => charsBefore index bytes ++ [replacement]
    | .error (.invalid length index) =>
      charsBefore index bytes ++ replacement :: repair faults (bytes.drop (index + length))

def decodeLossy (bytes : List UInt8) : String := String.ofList (repair (bytes.length + 1) bytes)

end HouseStyle.Utf8
