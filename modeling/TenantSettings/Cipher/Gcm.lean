import TenantSettings.Cipher.Aes

/-!
# Authenticated encryption: AES-256 in Galois counter mode

Encryption of NIST SP 800-38D with twelve nonce bytes, sixteen tag bytes at the end and no
additional data.

* `decrypt_encrypt`: what is encrypted under a key and a nonce is decrypted to itself.
* `encrypt_of_decrypt`: whatever is decrypted was encrypted under the same key and nonce.
-/

namespace TenantSettings.Gcm

open TenantSettings.Aes

/-- The number of bytes of a nonce. -/
def nonceLength : Nat := 12

/-- The number of bytes of a tag. -/
def tagLength : Nat := 16

/-- Bytes as a big-endian number. -/
def toNumber (bytes : List UInt8) : Nat := bytes.foldl (fun n b => 256 * n + b.toNat) 0

/-- The `count` big-endian bytes of a number, reduced to that width. -/
def ofNumber (count n : Nat) : List UInt8 :=
  (List.range count).map fun i => UInt8.ofNat (n >>> (8 * (count - 1 - i)))

/-- One more bit of a product: `v` is the multiple of the second factor that belongs to bit `i`
of the first; the highest bit counts as the constant term. -/
def timesFrom (x : Nat) : Nat → Nat → Nat → Nat
  | 0, _, acc => acc
  | i + 1, v, acc =>
    timesFrom x i (if v % 2 = 0 then v / 2 else (v / 2) ^^^ (0xE1 <<< 120))
      (if x.testBit i then acc ^^^ v else acc)

/-- The product in the field of 2^128 elements. -/
def times (x y : Nat) : Nat := timesFrom x 128 y 0

/-- The keyed hash of the first `n` blocks of a byte sequence; a short last block counts as filled
up with zeros. -/
def hashBlocks (h : Nat) : Nat → Nat → List UInt8 → Nat
  | acc, 0, _ => acc
  | acc, n + 1, bytes =>
    let block := bytes.take 16
    let filled := toNumber block <<< (8 * (16 - block.length))
    hashBlocks h (times (acc ^^^ filled) h) n (bytes.drop 16)

/-- The keyed hash of a ciphertext together with its length. -/
def hash (h : Nat) (ciphertext : List UInt8) : Nat :=
  times (hashBlocks h 0 ((ciphertext.length + 15) / 16) ciphertext ^^^ 8 * ciphertext.length) h

/-- The enciphered counter block number `i` of a nonce. -/
def counterBlock (keys : List Block) (nonce : List UInt8) (i : Nat) : List UInt8 :=
  (encryptBlock keys (Block.ofList (nonce ++ ofNumber 4 i))).toList

/-- The first `length` bytes of the key stream of a nonce; counter 1 is kept for the tag. -/
def keyStream (keys : List Block) (nonce : List UInt8) (length : Nat) : List UInt8 :=
  ((List.range ((length + 15) / 16)).flatMap fun i => counterBlock keys nonce (i + 2)).take length

/-- Bytewise exclusive or. -/
def xorBytes (a b : List UInt8) : List UInt8 := List.zipWith (· ^^^ ·) a b

/-- A text combined with the key stream: the same step enciphers and deciphers. -/
def applyStream (keys : List Block) (nonce text : List UInt8) : List UInt8 :=
  xorBytes text (keyStream keys nonce text.length)

/-- The tag of a ciphertext. -/
def tag (keys : List Block) (nonce ciphertext : List UInt8) : List UInt8 :=
  let h := toNumber (encryptBlock keys (Block.ofList [])).toList
  xorBytes (ofNumber tagLength (hash h ciphertext)) (counterBlock keys nonce 1)

/-- A plaintext encrypted under a key and a nonce: the ciphertext followed by its tag. -/
def encrypt (key nonce plaintext : List UInt8) : List UInt8 :=
  let keys := roundKeys key
  let ciphertext := applyStream keys nonce plaintext
  ciphertext ++ tag keys nonce ciphertext

/-- The plaintext of an encrypted text; `none` when it is shorter than a tag or the tag is wrong. -/
def decrypt (key nonce payload : List UInt8) : Option (List UInt8) :=
  if payload.length < tagLength then none
  else
    let keys := roundKeys key
    let ciphertext := payload.take (payload.length - tagLength)
    if payload.drop (payload.length - tagLength) = tag keys nonce ciphertext then
      some (applyStream keys nonce ciphertext)
    else none

/-! ### Lengths -/

theorem counterBlock_length (keys : List Block) (nonce : List UInt8) (i : Nat) :
    (counterBlock keys nonce i).length = 16 := by
  simp [counterBlock]

theorem keyStream_length (keys : List Block) (nonce : List UInt8) (length : Nat) :
    (keyStream keys nonce length).length = length := by
  simp only [keyStream, List.length_take, List.length_flatMap, counterBlock_length,
    List.map_const', List.length_range, List.sum_replicate_nat]
  omega

theorem applyStream_length (keys : List Block) (nonce text : List UInt8) :
    (applyStream keys nonce text).length = text.length := by
  simp [applyStream, xorBytes, keyStream_length]

theorem tag_length (keys : List Block) (nonce ciphertext : List UInt8) :
    (tag keys nonce ciphertext).length = tagLength := by
  simp [tag, xorBytes, ofNumber, counterBlock_length, tagLength]

/-- An encrypted text is longer than its plaintext by a tag. -/
theorem encrypt_length (key nonce plaintext : List UInt8) :
    (encrypt key nonce plaintext).length = plaintext.length + tagLength := by
  simp [encrypt, tag_length, applyStream_length]

/-! ### Encrypting and decrypting -/

/-- Combining with a stream of the same length twice changes nothing. -/
theorem xorBytes_xorBytes (a b : List UInt8) (h : a.length = b.length) :
    xorBytes (xorBytes a b) b = a := by
  induction a generalizing b with
  | nil => rfl
  | cons x a ih =>
    cases b with
    | nil => simp at h
    | cons y b =>
      have step := ih b (by simpa using h)
      simp only [xorBytes, List.zipWith_cons_cons, UInt8.xor_assoc, UInt8.xor_self,
        UInt8.xor_zero] at step ⊢
      rw [step]

theorem applyStream_applyStream (keys : List Block) (nonce text : List UInt8) :
    applyStream keys nonce (applyStream keys nonce text) = text := by
  rw [applyStream, applyStream_length, applyStream]
  exact xorBytes_xorBytes _ _ (keyStream_length ..).symm

/-- What is encrypted under a key and a nonce is decrypted to itself. -/
theorem decrypt_encrypt (key nonce plaintext : List UInt8) :
    decrypt key nonce (encrypt key nonce plaintext) = some plaintext := by
  have hl := encrypt_length key nonce plaintext
  have cut : (encrypt key nonce plaintext).length - tagLength
      = (applyStream (roundKeys key) nonce plaintext).length := by
    rw [hl, applyStream_length]; omega
  rw [decrypt, if_neg (by omega), cut]
  simp only [encrypt, List.take_left, List.drop_left, if_true, applyStream_applyStream]

/-- Whatever is decrypted was encrypted under the same key and nonce. -/
theorem encrypt_of_decrypt {key nonce payload plaintext : List UInt8}
    (h : decrypt key nonce payload = some plaintext) : encrypt key nonce plaintext = payload := by
  unfold decrypt at h
  split at h
  · cases h
  · simp only at h
    split at h
    · next ht =>
      cases h
      simp only [encrypt, applyStream_applyStream]
      rw [← ht, List.take_append_drop]
    · cases h

end TenantSettings.Gcm
