import TenantSettings.Proofs.Bytes.Base64
import TenantSettings.SecurityKey

/-!
# Payloads of security keys

A text that is encrypted comes back under every key of the same key text, and nothing else is ever
accepted: an accepted payload is, white space around it aside, what the key itself writes for the
text under the nonce that the payload starts with.

* `decrypt_eq_ok_iff`: the payloads that are accepted, and what they are read as.
* `decrypt_eq_error`: whatever is not accepted is an encryption error; `decrypt_of_short` says which
  one for payloads that have no room for a nonce and a tag.
* `decrypt_surrounded_encrypt`: the round trip, and the form of what is written.
* `decrypt_only_genuine`: its converse, over every text.
-/

namespace TenantSettings.SecurityKey

/-! ### What is written -/

/-- The encoding of a text is as long as the text is in UTF-8. -/
lemma length_utf8_encode (s : String) : (Utf8.encode s).length = s.utf8ByteSize := by
  simp [Utf8.encode]

/-- A payload is a nonce, as many bytes as the text has, and a tag. -/
lemma length_payload (k : SecurityKey) {nonce : List UInt8} (drawn : nonce.length = Gcm.nonceLength)
    (text : String) :
    (nonce ++ Gcm.encrypt k.material nonce (Utf8.encode text)).length
      = Gcm.nonceLength + text.utf8ByteSize + Gcm.tagLength := by
  rw [List.length_append, Gcm.encrypt_length, length_utf8_encode, drawn, Nat.add_assoc]

/-- White space around what is written is taken away, and nothing else. -/
lemma trim_surrounded_encrypt (k : SecurityKey) (nonce : List UInt8) (text : String)
    {before after : String} (hb : ∀ c ∈ before.toList, Unicode.isWhiteSpace c = true)
    (ha : ∀ c ∈ after.toList, Unicode.isWhiteSpace c = true) :
    Unicode.trim (before ++ k.encrypt nonce text ++ after) = k.encrypt nonce text :=
  Unicode.trim_surrounded hb (fun _ h => Base64.isWhiteSpace_of_mem_encode h) ha

lemma trim_encrypt (k : SecurityKey) (nonce : List UInt8) (text : String) :
    Unicode.trim (k.encrypt nonce text) = k.encrypt nonce text := by
  have blank : ∀ c ∈ "".toList, Unicode.isWhiteSpace c = true := by simp
  simpa using k.trim_surrounded_encrypt nonce text blank blank

/-! ### What is accepted -/

/-- A result that is right once its error is worded was right before. -/
lemma eq_ok_of_mapError {ε ε' α : Type} {f : ε → ε'} {r : Except ε α} {a : α}
    (h : r.mapError f = .ok a) : r = .ok a := by
  cases r with
  | error e => cases h
  | ok b =>
      cases h
      rfl

/-- An error that is worded is the wording of an error. -/
lemma exists_of_mapError_eq_error {ε ε' α : Type} {f : ε → ε'} {r : Except ε α} {e : ε'}
    (h : r.mapError f = .error e) : ∃ fault, e = f fault := by
  cases r with
  | error fault =>
      cases h
      exact ⟨fault, rfl⟩
  | ok b => cases h

/-- What is written under a nonce of the right length is accepted, and read as its text. -/
lemma decrypt_of_trim_eq (k : SecurityKey) {x text : String} {nonce : List UInt8}
    (drawn : nonce.length = Gcm.nonceLength) (h : Unicode.trim x = k.encrypt nonce text) :
    k.decrypt x = .ok text := by
  have long : ¬ (nonce ++ Gcm.encrypt k.material nonce (Utf8.encode text)).length
      ≤ Gcm.nonceLength := by
    have tag : Gcm.tagLength = 16 := rfl
    rw [length_payload k drawn]
    omega
  rw [decrypt, h, encrypt, Base64.decode_encode]
  simp only [if_neg long]
  rw [← drawn, List.take_left, List.drop_left, Gcm.decrypt_encrypt]
  simp only [Utf8.decode_encode]
  rfl

/-- What is accepted is, without the white space around it, written under a nonce of the right
length. -/
lemma exists_encrypt_of_decrypt (k : SecurityKey) {x text : String} (h : k.decrypt x = .ok text) :
    ∃ nonce : List UInt8, nonce.length = Gcm.nonceLength
      ∧ Unicode.trim x = k.encrypt nonce text := by
  unfold decrypt at h
  split at h
  · cases h
  · next bytes decoded =>
      split at h
      · cases h
      · next long =>
          split at h
          · cases h
          · next plain opened =>
              refine ⟨bytes.take Gcm.nonceLength, by rw [List.length_take]; omega, ?_⟩
              rw [encrypt, Utf8.encode_of_decode (eq_ok_of_mapError h),
                Gcm.encrypt_of_decrypt opened, List.take_append_drop,
                Base64.encode_of_decode decoded]

/-- A payload is accepted as a text exactly if it is, without the white space around it, what the
key writes for the text under some nonce. -/
lemma decrypt_eq_ok_iff (k : SecurityKey) {x text : String} :
    k.decrypt x = .ok text ↔
      ∃ nonce : List UInt8, nonce.length = Gcm.nonceLength
        ∧ Unicode.trim x = k.encrypt nonce text := by
  refine ⟨k.exists_encrypt_of_decrypt, ?_⟩
  rintro ⟨nonce, drawn, genuine⟩
  exact k.decrypt_of_trim_eq drawn genuine

/-! ### What is refused -/

/-- Whatever goes wrong with a payload is an encryption error. -/
lemma decrypt_eq_error (k : SecurityKey) {x : String} {e : ConfigError}
    (h : k.decrypt x = .error e) : ∃ fault : CipherFault, e = .encryption fault := by
  unfold decrypt at h
  split at h
  · cases h
    exact ⟨_, rfl⟩
  · split at h
    · cases h
      exact ⟨_, rfl⟩
    · split at h
      · cases h
        exact ⟨_, rfl⟩
      · obtain ⟨fault, rfl⟩ := exists_of_mapError_eq_error h
        exact ⟨_, rfl⟩

/-- A payload without room for a nonce and a tag is refused, whatever its bytes are: one that ends
within the nonce or right after it for its length, one that ends within the tag for its tag. -/
lemma decrypt_of_short (k : SecurityKey) {x : String} {bytes : List UInt8}
    (decoded : Base64.decode (Unicode.trim x) = some bytes)
    (short : bytes.length < Gcm.nonceLength + Gcm.tagLength) :
    k.decrypt x = .error (.encryption
      (if bytes.length ≤ Gcm.nonceLength then .tooShort else .refused)) := by
  rw [decrypt, decoded]
  dsimp only
  split
  · rfl
  · have tagless : (bytes.drop Gcm.nonceLength).length < Gcm.tagLength := by
      rw [List.length_drop]
      omega
    rw [Gcm.decrypt, if_pos tagless]

/-! ### Round trip and converse -/

/-- A text that is encrypted under a key text and any nonce comes back under every key of the same
key text, configured or generated, also when white space is put around the payload.  The payload is
base64 text of the nonce, as many bytes as the text has, and the tag. -/
theorem decrypt_surrounded_encrypt (keyText text : String) (generated generated' : Bool)
    {nonce : List UInt8} (drawn : nonce.length = Gcm.nonceLength) :
    let payload := (ofText keyText generated).encrypt nonce text
    (ofText keyText generated').decrypt payload = .ok text
      ∧ (∀ before after : String, Unicode.isBlank before = true → Unicode.isBlank after = true →
          (ofText keyText generated').decrypt (before ++ payload ++ after) = .ok text)
      ∧ ∃ bytes : List UInt8, bytes.length = 12 + text.utf8ByteSize + 16
          ∧ bytes.take Gcm.nonceLength = nonce
          ∧ payload = Base64.encode bytes ∧ Base64.decode payload = some bytes
          ∧ payload.length = 4 * ((bytes.length + 2) / 3) := by
  intro payload
  -- the two keys differ in what is known of them only, so they write the same payloads
  have surrounded : ∀ before after : String, Unicode.isBlank before = true →
      Unicode.isBlank after = true →
      (ofText keyText generated').decrypt (before ++ payload ++ after) = .ok text := by
    intro before after hb ha
    have bare : Unicode.trim (before ++ payload ++ after)
        = (ofText keyText generated').encrypt nonce text :=
      trim_surrounded_encrypt _ nonce text (List.all_eq_true.mp hb) (List.all_eq_true.mp ha)
    exact decrypt_of_trim_eq _ drawn bare
  have plain : (ofText keyText generated').decrypt payload = .ok text :=
    decrypt_of_trim_eq _ drawn (trim_encrypt _ nonce text)
  refine ⟨plain, surrounded,
    nonce ++ Gcm.encrypt (ofText keyText generated).material nonce (Utf8.encode text),
    length_payload _ drawn text, ?_, rfl, Base64.decode_encode _, Base64.length_encode _⟩
  rw [← drawn, List.take_left]

/-- A text of nine characters, some of which take two, three or four bytes, read by the generated
key of the same key text, with a wide space before the payload; the payload has room for the bytes
and not only for the characters. -/
theorem decrypt_surrounded_encrypt_wide :
    let text := "Größe 鍵🔑."
    let nonce : List UInt8 := [7, 0, 255, 1, 128, 3, 90, 17, 64, 2, 200, 31]
    let payload := (ofText "pferd führt nach 北" false).encrypt nonce text
    nonce.length = Gcm.nonceLength
      ∧ (text.length = 9 ∧ text.utf8ByteSize = 16)
      ∧ (ofText "pferd führt nach 北" true).decrypt ("\u2003\t" ++ payload ++ "\r\n") = .ok text
      ∧ ∃ bytes : List UInt8, bytes.length = 44 ∧ bytes.take 12 = nonce
        ∧ payload = Base64.encode bytes := by
  intro text nonce payload
  have drawn : nonce.length = Gcm.nonceLength := rfl
  have wide : text.length = 9 ∧ text.utf8ByteSize = 16 := by decide +kernel
  obtain ⟨-, surrounded, bytes, length, framed, written, -⟩ :=
    decrypt_surrounded_encrypt "pferd führt nach 北" text false true drawn
  rw [wide.2] at length
  exact ⟨drawn, wide, surrounded "\u2003\t" "\r\n" (by decide) (by decide), bytes, length, framed,
    written⟩

/-- The nonce that a payload starts with, where it is base64 text at all. -/
def nonce? (x : String) : Option (List UInt8) :=
  (Base64.decode (Unicode.trim x)).map (·.take Gcm.nonceLength)

/-- What is written starts with its nonce. -/
lemma nonce?_of_trim_eq (k : SecurityKey) {x text : String} {nonce : List UInt8}
    (drawn : nonce.length = Gcm.nonceLength) (h : Unicode.trim x = k.encrypt nonce text) :
    nonce? x = some nonce := by
  rw [nonce?, h, encrypt, Base64.decode_encode, Option.map_some, ← drawn, List.take_left]

/-- Over every text: it is accepted exactly if it is, without the white space around it, what the
key writes under some nonce; so two accepted payloads with the same nonce and the same text differ
in that white space only.  Whatever is not accepted is an encryption error, for payloads without
room for a nonce and a tag one that their length decides. -/
theorem decrypt_only_genuine (k : SecurityKey) (x : String) :
    (∀ text, k.decrypt x = .ok text ↔
        ∃ nonce : List UInt8, nonce.length = Gcm.nonceLength
          ∧ Unicode.trim x = k.encrypt nonce text)
      ∧ (∀ y text, k.decrypt x = .ok text → k.decrypt y = .ok text → nonce? x = nonce? y →
          Unicode.trim x = Unicode.trim y)
      ∧ ((∀ text, k.decrypt x ≠ .ok text) →
          ∃ fault : CipherFault, k.decrypt x = .error (.encryption fault))
      ∧ (∀ bytes, Base64.decode (Unicode.trim x) = some bytes →
          bytes.length < Gcm.nonceLength + Gcm.tagLength →
          k.decrypt x = .error (.encryption
            (if bytes.length ≤ Gcm.nonceLength then .tooShort else .refused))) := by
  refine ⟨fun text => k.decrypt_eq_ok_iff, ?_, ?_, fun bytes => k.decrypt_of_short⟩
  · intro y text hx hy same
    obtain ⟨nonce, drawn, genuine⟩ := k.exists_encrypt_of_decrypt hx
    obtain ⟨nonce', drawn', genuine'⟩ := k.exists_encrypt_of_decrypt hy
    rw [k.nonce?_of_trim_eq drawn genuine, k.nonce?_of_trim_eq drawn' genuine',
      Option.some.injEq] at same
    rw [genuine, genuine', same]
  · intro refused
    cases h : k.decrypt x with
    | ok text => exact absurd h (refused text)
    | error e =>
        obtain ⟨fault, rfl⟩ := k.decrypt_eq_error h
        exact ⟨fault, rfl⟩

/-- A payload of the key itself is accepted; three bytes of base64 text are not. -/
theorem decrypt_only_genuine_short :
    let k := ofText "correct horse" false
    let nonce : List UInt8 := List.replicate 12 0
    k.decrypt (k.encrypt nonce "secret") = .ok "secret"
      ∧ k.decrypt "AAAA" = .error (.encryption .tooShort) := by
  intro k nonce
  have three : Base64.decode (Unicode.trim "AAAA") = some [0, 0, 0] := by decide
  refine ⟨((decrypt_only_genuine k _).1 "secret").mpr ⟨nonce, rfl, k.trim_encrypt _ _⟩, ?_⟩
  exact (decrypt_only_genuine k "AAAA").2.2.2 [0, 0, 0] three (by decide)

end TenantSettings.SecurityKey
