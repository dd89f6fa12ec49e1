import TaskCatalog.Text.Basic
import TaskCatalog.Text.Quoted

/-!
Encodings of text in files. Decoding fails with the place and the kind of the first fault; encoding
to UTF-8 fails at the first lone half.
-/

namespace TaskCatalog.Text

abbrev Bytes := List UInt8

inductive Encoding where
  | utf8
  | utf8Signed
  | ascii
  | latin1
  | utf16
  | utf16Little
  | utf16Big
  | windows1252
  deriving DecidableEq, Repr

inductive DecodeFault where
  | startByte
  | continuationByte
  | endOfData
  | notAscii
  | unmapped
  | halfPair
  | truncated
  deriving DecidableEq, Repr

/-- The bytes from `first` on, `count` many, cannot be decoded. -/
structure Undecodable where
  encoding : Encoding
  fault : DecodeFault
  first : Nat
  count : Nat
  byte : UInt8
  deriving DecidableEq, Repr

inductive DecodeError where
  | undecodable (u : Undecodable)
  /-- The byte order of a text in units of two bytes is not stated. -/
  | missingByteOrder
  deriving DecidableEq, Repr

namespace Encoding

def label : Encoding → Text
  | utf8 | utf8Signed => "utf-8"
  | ascii => "ascii"
  | latin1 => "latin-1"
  | utf16 => "utf-16"
  | utf16Little => "utf-16-le"
  | utf16Big => "utf-16-be"
  | windows1252 => "charmap"

/-- Runs of other characters than letters, digits and the dot count as one underscore. -/
def canonicalName (cs : List Char) : List Char := go false cs
where
  go (gap : Bool) : List Char → List Char
    | [] => []
    | c :: rest =>
      if c.isAlphanum || c = '.' then
        (if gap then ['_', c.toLower] else [c.toLower]) ++ go false rest
      else go true rest

def names : List (Encoding × List String) := [
  (utf8, ["utf_8", "u8", "utf", "utf8", "utf8_ucs2", "utf8_ucs4", "cp65001"]),
  (utf8Signed, ["utf_8_sig"]),
  (ascii, ["ascii", "646", "ansi_x3.4_1968", "ansi_x3_4_1968", "ansi_x3.4_1986", "cp367", "csascii",
    "ibm367", "iso646_us", "iso_646.irv_1991", "iso_ir_6", "us", "us_ascii"]),
  (latin1, ["latin_1", "8859", "cp819", "csisolatin1", "ibm819", "iso8859", "iso8859_1", "iso_8859_1",
    "iso_8859_1_1987", "iso_ir_100", "l1", "latin", "latin1"]),
  (utf16, ["utf_16", "u16", "utf16"]),
  (utf16Little, ["utf_16_le", "unicodelittleunmarked", "utf_16le"]),
  (utf16Big, ["utf_16_be", "unicodebigunmarked", "utf_16be"]),
  (windows1252, ["cp1252", "1252", "windows_1252"])]

/-- The encoding of a name; blanks and dashes in it are interchangeable. -/
def ofName? (name : Text) : Option Encoding := do
  let cs ← chars? name
  let wanted := String.ofList (canonicalName cs)
  (names.find? (·.2.contains wanted)).map (·.1)

end Encoding

def isContinuation (b : UInt8) : Bool := 0x80 ≤ b && b < 0xC0

/-- The number of bytes after a leading byte, and the bits that it contributes. -/
def leading? (b : UInt8) : Option (Nat × Nat) :=
  if b < 0x80 then some (0, b.toNat)
  else if b < 0xC2 then none
  else if b < 0xE0 then some (1, b.toNat - 0xC0)
  else if b < 0xF0 then some (2, b.toNat - 0xE0)
  else if b < 0xF5 then some (3, b.toNat - 0xF0)
  else none

/-- Whether the second byte rules out overlong forms, surrogates and codes that are too large. -/
def secondFits (lead second : UInt8) : Bool :=
  isContinuation second
    && !(lead == 0xE0 && second < 0xA0) && !(lead == 0xED && 0xA0 ≤ second)
    && !(lead == 0xF0 && second < 0x90) && !(lead == 0xF4 && 0x90 ≤ second)

/-- Takes `n` continuation bytes; on a fault the number of bytes that fitted. -/
def continueCode (n bits fitted : Nat) : Bytes → Except (DecodeFault × Nat) Nat
  | [] => if n = 0 then .ok bits else .error (.endOfData, fitted)
  | b :: rest =>
    match n with
    | 0 => .ok bits
    | n + 1 =>
      if isContinuation b then continueCode n (bits * 64 + (b.toNat - 0x80)) (fitted + 1) rest
      else .error (.continuationByte, fitted)

/-- The code of a sequence and the number of bytes after its first, or the fault and its extent. -/
def sequenceAt (b : UInt8) (rest : Bytes) : Except (DecodeFault × Nat) (Nat × Nat) :=
  match leading? b with
  | none => .error (.startByte, 1)
  | some (0, bits) => .ok (bits, 0)
  | some (n, bits) =>
    match rest with
    | [] => .error (.endOfData, 1)
    | second :: _ =>
      if secondFits b second then (continueCode n bits 1 rest).map (·, n)
      else .error (.continuationByte, 1)

/-- Decodes on at a position, leaving out `skip` bytes that belong to the character before. -/
def decodeUtf8From (position skip : Nat) : Bytes → Except Undecodable (List Char)
  | [] => .ok []
  | b :: rest =>
    match skip with
    | skip + 1 => decodeUtf8From (position + 1) skip rest
    | 0 =>
      match sequenceAt b rest with
      | .error (fault, count) => .error ⟨.utf8, fault, position, count, b⟩
      | .ok (code, extra) => (decodeUtf8From (position + 1) extra rest).map (Char.ofNat code :: ·)

def decodeUtf8 (bytes : Bytes) : Except Undecodable (List Char) := decodeUtf8From 0 0 bytes

/-- Decodes with a replacement character for every fault. -/
def decodeUtf8Lossy (skip : Nat) : Bytes → List Char
  | [] => []
  | b :: rest =>
    match skip with
    | skip + 1 => decodeUtf8Lossy skip rest
    | 0 =>
      match sequenceAt b rest with
      | .error (_, count) => '\uFFFD' :: decodeUtf8Lossy (count - 1) rest
      | .ok (code, extra) => Char.ofNat code :: decodeUtf8Lossy extra rest

def decodeAscii (position : Nat) : Bytes → Except Undecodable (List Char)
  | [] => .ok []
  | b :: rest =>
    if b < 0x80 then (decodeAscii (position + 1) rest).map (Char.ofNat b.toNat :: ·)
    else .error ⟨.ascii, .notAscii, position, 1, b⟩

/-- Codes of the bytes `0x80` to `0x9f`; zero where there is none. -/
def windowsCodes : List Nat := [
  0x20ac, 0, 0x201a, 0x192, 0x201e, 0x2026, 0x2020, 0x2021, 0x2c6, 0x2030, 0x160, 0x2039, 0x152, 0,
  0x17d, 0, 0, 0x2018, 0x2019, 0x201c, 0x201d, 0x2022, 0x2013, 0x2014, 0x2dc, 0x2122, 0x161, 0x203a,
  0x153, 0, 0x17e, 0x178]

def decodeWindows (position : Nat) : Bytes → Except Undecodable (List Char)
  | [] => .ok []
  | b :: rest =>
    let code := if 0x80 ≤ b && b < 0xA0 then windowsCodes.getD (b.toNat - 0x80) 0 else b.toNat
    if code = 0 && b != 0 then .error ⟨.windows1252, .unmapped, position, 1, b⟩
    else (decodeWindows (position + 1) rest).map (Char.ofNat code :: ·)

/-- Decodes units of two bytes; `unit` puts a unit together. -/
def decodePairs (encoding : Encoding) (unit : UInt8 → UInt8 → Nat) (position : Nat) :
    Bytes → Except Undecodable (List Char)
  | [] => .ok []
  | [b] => .error ⟨encoding, .truncated, position, 1, b⟩
  | a :: b :: c :: d :: rest =>
    let u := unit a b
    let v := unit c d
    if 0xD800 ≤ u && u < 0xDC00 then
      if 0xDC00 ≤ v && v < 0xE000 then
        (decodePairs encoding unit (position + 4) rest).map
          (Char.ofNat (0x10000 + (u - 0xD800) * 0x400 + (v - 0xDC00)) :: ·)
      else .error ⟨encoding, .halfPair, position, 2, a⟩
    else if 0xDC00 ≤ u && u < 0xE000 then .error ⟨encoding, .continuationByte, position, 2, a⟩
    else (decodePairs encoding unit (position + 2) (c :: d :: rest)).map (Char.ofNat u :: ·)
  | a :: b :: rest =>
    let u := unit a b
    if 0xD800 ≤ u && u < 0xDC00 then
      .error ⟨encoding, .endOfData, position, 2 + rest.length, a⟩
    else if 0xDC00 ≤ u && u < 0xE000 then .error ⟨encoding, .continuationByte, position, 2, a⟩
    else (decodePairs encoding unit (position + 2) rest).map (Char.ofNat u :: ·)

def littleUnit (a b : UInt8) : Nat := a.toNat + 256 * b.toNat

def bigUnit (a b : UInt8) : Nat := 256 * a.toNat + b.toNat

def decode (encoding : Encoding) (bytes : Bytes) : Except DecodeError (List Char) :=
  match encoding, bytes with
  | .utf8, _ => (decodeUtf8 bytes).mapError .undecodable
  | .utf8Signed, 0xEF :: 0xBB :: 0xBF :: rest => (decodeUtf8 rest).mapError .undecodable
  | .utf8Signed, _ => (decodeUtf8 bytes).mapError .undecodable
  | .ascii, _ => (decodeAscii 0 bytes).mapError .undecodable
  | .latin1, _ => .ok (bytes.map fun b => Char.ofNat b.toNat)
  | .windows1252, _ => (decodeWindows 0 bytes).mapError .undecodable
  | .utf16Little, _ => (decodePairs .utf16Little littleUnit 0 bytes).mapError .undecodable
  | .utf16Big, _ => (decodePairs .utf16Big bigUnit 0 bytes).mapError .undecodable
  | .utf16, [] => .ok []
  | .utf16, 0xFF :: 0xFE :: rest =>
    (decodePairs .utf16Little littleUnit 2 rest).mapError .undecodable
  | .utf16, 0xFE :: 0xFF :: rest => (decodePairs .utf16Big bigUnit 2 rest).mapError .undecodable
  | .utf16, [b] => .error (.undecodable ⟨.utf16Little, .truncated, 0, 1, b⟩)
  | .utf16, _ => .error .missingByteOrder

def DecodeFault.message : DecodeFault → Text
  | startByte => "invalid start byte"
  | continuationByte => "invalid continuation byte"
  | endOfData => "unexpected end of data"
  | notAscii => "ordinal not in range(128)"
  | unmapped => "character maps to <undefined>"
  | halfPair => "illegal UTF-16 surrogate"
  | truncated => "truncated data"

def Undecodable.message (u : Undecodable) : Text :=
  let place : Text :=
    if u.count = 1 then "byte 0x" ++ ofChars (hex 2 u.byte.toNat) ++ " in position " ++ ofNat u.first
    else "bytes in position " ++ ofNat u.first ++ "-" ++ ofNat (u.first + u.count - 1)
  "'" ++ u.encoding.label ++ "' codec can't decode " ++ place ++ ": " ++ u.fault.message

/-- A lone half at a position, and how many stand there in a row. -/
structure Unencodable where
  half : Fin 2048
  position : Nat
  count : Nat
  deriving DecidableEq, Repr

def Unencodable.message (u : Unencodable) : Text :=
  let place : Text :=
    if u.count = 1 then
      "character '" ++ escapeCode (0xD800 + u.half.val) ++ "' in position " ++ ofNat u.position
    else "characters in position " ++ ofNat u.position ++ "-" ++ ofNat (u.position + u.count - 1)
  "'utf-8' codec can't encode " ++ place ++ ": surrogates not allowed"

def encodeUtf8 (t : Text) : Except Unencodable Bytes := go 0 t
where
  go (position : Nat) : Text → Except Unencodable Bytes
    | [] => .ok []
    | .half n :: rest => .error ⟨n, position, 1 + (rest.takeWhile Letter.isHalf).length⟩
    | .scalar c :: rest => (go (position + 1) rest).map (String.utf8EncodeChar c ++ ·)

end TaskCatalog.Text
