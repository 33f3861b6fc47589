/-!
# The AES block cipher with a 256-bit key

The forward cipher of FIPS 197: fourteen rounds over a block of sixteen bytes, which is a
four-by-four matrix stored column by column.  A counter mode needs no inverse cipher.
-/

namespace TenantSettings.Aes

/-- A block of sixteen bytes; the entry in row `r` and column `c` stands at `r + 4 * c`. -/
abbrev Block := Vector UInt8 16

/-- The block that a byte sequence starts with, filled up with zeros. -/
def Block.ofList (bytes : List UInt8) : Block :=
  let a := bytes.toArray
  Vector.ofFn fun i => a.getD i.val 0

/-- The substitution table. -/
def sbox : Array UInt8 :=
  #[0x63, 0x7c, 0x77, 0x7b, 0xf2, 0x6b, 0x6f, 0xc5, 0x30, 0x01, 0x67, 0x2b, 0xfe, 0xd7, 0xab, 0x76,
   0xca, 0x82, 0xc9, 0x7d, 0xfa, 0x59, 0x47, 0xf0, 0xad, 0xd4, 0xa2, 0xaf, 0x9c, 0xa4, 0x72, 0xc0,
   0xb7, 0xfd, 0x93, 0x26, 0x36, 0x3f, 0xf7, 0xcc, 0x34, 0xa5, 0xe5, 0xf1, 0x71, 0xd8, 0x31, 0x15,
   0x04, 0xc7, 0x23, 0xc3, 0x18, 0x96, 0x05, 0x9a, 0x07, 0x12, 0x80, 0xe2, 0xeb, 0x27, 0xb2, 0x75,
   0x09, 0x83, 0x2c, 0x1a, 0x1b, 0x6e, 0x5a, 0xa0, 0x52, 0x3b, 0xd6, 0xb3, 0x29, 0xe3, 0x2f, 0x84,
   0x53, 0xd1, 0x00, 0xed, 0x20, 0xfc, 0xb1, 0x5b, 0x6a, 0xcb, 0xbe, 0x39, 0x4a, 0x4c, 0x58, 0xcf,
   0xd0, 0xef, 0xaa, 0xfb, 0x43, 0x4d, 0x33, 0x85, 0x45, 0xf9, 0x02, 0x7f, 0x50, 0x3c, 0x9f, 0xa8,
   0x51, 0xa3, 0x40, 0x8f, 0x92, 0x9d, 0x38, 0xf5, 0xbc, 0xb6, 0xda, 0x21, 0x10, 0xff, 0xf3, 0xd2,
   0xcd, 0x0c, 0x13, 0xec, 0x5f, 0x97, 0x44, 0x17, 0xc4, 0xa7, 0x7e, 0x3d, 0x64, 0x5d, 0x19, 0x73,
   0x60, 0x81, 0x4f, 0xdc, 0x22, 0x2a, 0x90, 0x88, 0x46, 0xee, 0xb8, 0x14, 0xde, 0x5e, 0x0b, 0xdb,
   0xe0, 0x32, 0x3a, 0x0a, 0x49, 0x06, 0x24, 0x5c, 0xc2, 0xd3, 0xac, 0x62, 0x91, 0x95, 0xe4, 0x79,
   0xe7, 0xc8, 0x37, 0x6d, 0x8d, 0xd5, 0x4e, 0xa9, 0x6c, 0x56, 0xf4, 0xea, 0x65, 0x7a, 0xae, 0x08,
   0xba, 0x78, 0x25, 0x2e, 0x1c, 0xa6, 0xb4, 0xc6, 0xe8, 0xdd, 0x74, 0x1f, 0x4b, 0xbd, 0x8b, 0x8a,
   0x70, 0x3e, 0xb5, 0x66, 0x48, 0x03, 0xf6, 0x0e, 0x61, 0x35, 0x57, 0xb9, 0x86, 0xc1, 0x1d, 0x9e,
   0xe1, 0xf8, 0x98, 0x11, 0x69, 0xd9, 0x8e, 0x94, 0x9b, 0x1e, 0x87, 0xe9, 0xce, 0x55, 0x28, 0xdf,
   0x8c, 0xa1, 0x89, 0x0d, 0xbf, 0xe6, 0x42, 0x68, 0x41, 0x99, 0x2d, 0x0f, 0xb0, 0x54, 0xbb, 0x16]

/-- The substitute of a byte. -/
def substitute (b : UInt8) : UInt8 := sbox.getD b.toNat 0

/-- Twice a byte in the field of 256 elements. -/
def double (b : UInt8) : UInt8 :=
  if b < 0x80 then b <<< 1 else (b <<< 1) ^^^ 0x1b

/-- Bytewise exclusive or. -/
def addRoundKey (s k : Block) : Block := Vector.ofFn fun i => s.get i ^^^ k.get i

/-- Substitution of every byte, then row `r` turned left by `r` places. -/
def subShift (s : Block) : Block :=
  Vector.ofFn fun i => substitute (s.get (i + 4 * (Fin.ofNat 16 (i.val % 4))))

/-- Every column multiplied by the fixed matrix with first row 2, 3, 1, 1. -/
def mixColumns (s : Block) : Block :=
  Vector.ofFn fun i =>
    let byteAt (k : Nat) : UInt8 := s.get (Fin.ofNat 16 (4 * (i.val / 4) + (i.val + k) % 4))
    double (byteAt 0) ^^^ (double (byteAt 1) ^^^ byteAt 1) ^^^ byteAt 2 ^^^ byteAt 3

/-- The constants that separate the rounds of the key schedule. -/
def roundConstants : Array UInt8 := #[0x01, 0x02, 0x04, 0x08, 0x10, 0x20, 0x40]

/-- Byte `j` of the next four bytes of a key schedule that holds `n` words so far. -/
def scheduleByte (w : Array UInt8) (n j : Nat) : UInt8 :=
  let last (k : Nat) : UInt8 := w.getD (4 * n - 4 + k % 4) 0
  let mixed : UInt8 :=
    if n % 8 = 0 then
      substitute (last (j + 1)) ^^^ (if j = 0 then roundConstants.getD (n / 8 - 1) 0 else 0)
    else if n % 8 = 4 then substitute (last j)
    else last j
  w.getD (4 * n - 32 + j) 0 ^^^ mixed

/-- The key schedule with `count` further words after the first `n`. -/
def expand (w : Array UInt8) (n : Nat) : Nat → Array UInt8
  | 0 => w
  | count + 1 =>
    expand (w ++ #[scheduleByte w n 0, scheduleByte w n 1, scheduleByte w n 2, scheduleByte w n 3])
      (n + 1) count

/-- The fifteen round keys of a key of thirty-two bytes. -/
def roundKeys (key : List UInt8) : List Block :=
  let w := expand key.toArray 8 52
  (List.range 15).map fun r => Vector.ofFn fun i => w.getD (16 * r + i.val) 0

/-- The rounds after the first key addition; the last one does not mix. -/
def rounds : List Block → Block → Block
  | [], s => s
  | [k], s => addRoundKey (subShift s) k
  | k :: ks, s => rounds ks (addRoundKey (mixColumns (subShift s)) k)

/-- A block enciphered under round keys. -/
def encryptBlock (keys : List Block) (s : Block) : Block :=
  match keys with
  | [] => s
  | k :: ks => rounds ks (addRoundKey s k)

end TenantSettings.Aes
