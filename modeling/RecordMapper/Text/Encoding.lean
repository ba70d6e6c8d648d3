/-!
Bytes as text: UTF-8, UTF-16 and UTF-32. Decoding goes through code points, because the code point
of half a surrogate pair is no character, but lenient readers let it through.
-/
namespace RecordMapper.Text

def toUtf8 (s : String) : List UInt8 :=
  s.toList.flatMap String.utf8EncodeChar

def continuation? (b : UInt8) : Option Nat :=
  if 0x80 ≤ b ∧ b < 0xc0 then some (b.toNat - 0x80) else none

/-- Code points of UTF-8 bytes; over-long forms and values beyond Unicode are refused. -/
def utf8CodePoints? : List UInt8 → Option (List Nat)
  | [] => some []
  | a :: rest =>
    if a < 0x80 then (utf8CodePoints? rest).map (a.toNat :: ·)
    else if 0xc2 ≤ a ∧ a < 0xe0 then
      match rest with
      | b :: rest => do
        let b ← continuation? b
        return ((a.toNat - 0xc0) * 64 + b) :: (← utf8CodePoints? rest)
      | _ => none
    else if 0xe0 ≤ a ∧ a < 0xf0 then
      match rest with
      | b :: c :: rest => do
        let n := (a.toNat - 0xe0) * 4096 + (← continuation? b) * 64 + (← continuation? c)
        if n < 0x800 then none else return n :: (← utf8CodePoints? rest)
      | _ => none
    else if 0xf0 ≤ a ∧ a < 0xf5 then
      match rest with
      | b :: c :: d :: rest => do
        let n := (a.toNat - 0xf0) * 262144 + (← continuation? b) * 4096 + (← continuation? c) * 64
          + (← continuation? d)
        if n < 0x10000 ∨ 0x10ffff < n then none else return n :: (← utf8CodePoints? rest)
      | _ => none
    else none

/-- Byte order of units that take more than one byte. -/
inductive ByteOrder
  | little
  | big
deriving DecidableEq, Repr

def ByteOrder.pair : ByteOrder → UInt8 → UInt8 → Nat
  | little, a, b => a.toNat + 256 * b.toNat
  | big, a, b => 256 * a.toNat + b.toNat

def ByteOrder.quad (o : ByteOrder) (a b c d : UInt8) : Nat :=
  match o with
  | little => o.pair a b + 65536 * o.pair c d
  | big => 65536 * o.pair a b + o.pair c d

def units16? (o : ByteOrder) : List UInt8 → Option (List Nat)
  | [] => some []
  | [_] => none
  | a :: b :: rest => (units16? o rest).map (o.pair a b :: ·)

/-- Joins surrogate pairs; a surrogate without a partner stays a code point of its own. -/
def joinSurrogates : List Nat → List Nat
  | [] => []
  | [u] => [u]
  | u :: v :: rest =>
    if 0xd800 ≤ u ∧ u < 0xdc00 ∧ 0xdc00 ≤ v ∧ v < 0xe000 then
      (0x10000 + (u - 0xd800) * 1024 + (v - 0xdc00)) :: joinSurrogates rest
    else u :: joinSurrogates (v :: rest)

def utf32CodePoints? (o : ByteOrder) : List UInt8 → Option (List Nat)
  | [] => some []
  | a :: b :: c :: d :: rest =>
    let n := o.quad a b c d
    if 0x10ffff < n then none else (utf32CodePoints? o rest).map (n :: ·)
  | _ => none

inductive Encoding
  | utf8
  | utf16 (order : ByteOrder)
  | utf32 (order : ByteOrder)
deriving DecidableEq, Repr

def Encoding.codePoints? : Encoding → List UInt8 → Option (List Nat)
  | utf8, bs => utf8CodePoints? bs
  | utf16 o, bs => (units16? o bs).map joinSurrogates
  | utf32 o, bs => utf32CodePoints? o bs

namespace Encoding

def marks : List (List UInt8 × Encoding) :=
  [([0x00, 0x00, 0xfe, 0xff], utf32 .big), ([0xff, 0xfe, 0x00, 0x00], utf32 .little),
    ([0xfe, 0xff], utf16 .big), ([0xff, 0xfe], utf16 .little), ([0xef, 0xbb, 0xbf], utf8)]

/-- The encoding of a document that starts with ASCII, told by the place of its zero bytes. -/
def ofZeros : List UInt8 → Encoding
  | [a, b] => if a = 0 then utf16 .big else if b = 0 then utf16 .little else utf8
  | a :: b :: c :: d :: _ =>
    if a = 0 then (if b = 0 then utf32 .big else utf16 .big)
    else if b = 0 then (if c = 0 ∧ d = 0 then utf32 .little else utf16 .little)
    else utf8
  | _ => utf8

/-- The encoding of a document, told by its byte order mark or else by its zero bytes; the mark is not
part of the document. -/
def detect (bs : List UInt8) : Encoding × List UInt8 :=
  match marks.find? fun m => m.1.isPrefixOf bs with
  | some (mark, e) => (e, bs.drop mark.length)
  | none => (ofZeros bs, bs)

end Encoding

def documentPoints? (bs : List UInt8) : Option (List Nat) :=
  let (e, bs) := Encoding.detect bs
  e.codePoints? bs

def codePoints (s : String) : List Nat := s.toList.map Char.toNat

def ofCodePoints? (ns : List Nat) : Option String :=
  if ns.all fun n => decide n.isValidChar then some (String.ofList (ns.map Char.ofNat)) else none

/-- The text of code points, with a replacement for each half of a surrogate pair. -/
def nearest (ns : List Nat) : String :=
  String.ofList (ns.map fun n => if n.isValidChar then Char.ofNat n else '\ufffd')

/-- The text of code points, with a replacement for each of the three bytes that would stand for half
of a surrogate pair. -/
def nearestByBytes (ns : List Nat) : String :=
  String.ofList (ns.flatMap fun n =>
    if n.isValidChar then [Char.ofNat n] else List.replicate 3 '\ufffd')

@[simp] theorem ofCodePoints?_codePoints (s : String) : ofCodePoints? (codePoints s) = some s := by
  have valid (c : Char) : c.toNat.isValidChar := c.valid
  simp [ofCodePoints?, codePoints, valid, Function.comp_def]

def ofUtf8? (bs : List UInt8) : Option String := (utf8CodePoints? bs).bind ofCodePoints?

end RecordMapper.Text
