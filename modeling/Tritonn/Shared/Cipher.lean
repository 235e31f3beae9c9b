import Tritonn.Lib.Buffer
import Tritonn.Lib.Result
import Tritonn.Shared.Hex

/-!
Encrypted texts: `EncryptEAS` and `DecryptEAS` of `src/shared/hash.cpp`.

* `Evp` is what the two use of OpenSSL, and `Evp.Padded` what is asked of it;
* `encryptEAS` and `decryptEAS` are the functions of the source, with an end of their own for a
  write outside of a buffer;
* `EncryptsBack` says that a text is encrypted within the buffers and comes back, `DecryptsInside`
  that a text is decrypted within them;
* `eas_iff` says for which texts both hold.

The buffers have room for the length rounded up to a multiple of 128, and one byte; the padding adds
a block to a length that is a multiple already.
-/

namespace Tritonn

/-- A `unsigned char[16]`. -/
abbrev EvpBlock := Buffer UInt8 16

/-- What is used of OpenSSL: the calls for encryption with the bytes that they write, and those for
decryption, where the number that `EVP_DecryptUpdate` reports may be less than what it writes.
`none` is a result other than 1. -/
structure Evp (σ : Type) where
  encryptInit : EvpBlock → EvpBlock → Option σ
  encryptUpdate : σ → List UInt8 → Option (σ × List UInt8)
  encryptFinal : σ → Option (List UInt8)
  decryptInit : EvpBlock → EvpBlock → Option σ
  decryptUpdate : σ → List UInt8 → Option (σ × List UInt8 × ℕ)
  decryptFinal : σ → Option (List UInt8)

namespace Evp

variable {σ : Type} (evp : Evp σ)

/-- A text in one piece: what the update and what the end writes. -/
def encrypt (key iv : EvpBlock) (text : List UInt8) : Option (List UInt8 × List UInt8) := do
  let context ← evp.encryptInit key iv
  let (context, out) ← evp.encryptUpdate context text
  let last ← evp.encryptFinal context
  return (out, last)

/-- The same for a decryption, with the number that the update reports. -/
def decrypt (key iv : EvpBlock) (text : List UInt8) : Option (List UInt8 × ℕ × List UInt8) := do
  let context ← evp.decryptInit key iv
  let (context, out, len) ← evp.decryptUpdate context text
  let last ← evp.decryptFinal context
  return (out, len, last)

/-- The cipher adds a padding block, its decryption inverts it, and a decryption writes no more than
it reads. -/
structure Padded : Prop where
  encrypt : ∀ key iv text, ∃ out last, evp.encrypt key iv text = some (out, last) ∧
    (out ++ last).length = 16 * (text.length / 16 + 1)
  inverse : ∀ key iv text out last, evp.encrypt key iv text = some (out, last) →
    ∃ out' len last', evp.decrypt key iv (out ++ last) = some (out', len, last') ∧
      out'.take len ++ last' = text
  update_le : ∀ key iv context text context' out len, evp.decryptInit key iv = some context →
    evp.decryptUpdate context text = some (context', out, len) →
      len ≤ out.length ∧ out.length ≤ text.length
  final_le : ∀ key iv context text context' out len last, evp.decryptInit key iv = some context →
    evp.decryptUpdate context text = some (context', out, len) →
      evp.decryptFinal context' = some last → len + last.length ≤ text.length

end Evp

/-- How a call ends otherwise than with the result 0: a write outside of a buffer, `new` with a
negative size, or another result. -/
inductive EasStop where
  | outside
  | badAlloc
  | code (result : ℕ)
  deriving DecidableEq, Repr

/-- A write that may be outside. -/
def inside {α : Type} : Option α → Except EasStop α
  | none => .error .outside
  | some a => .ok a

/-- A call after which the function may return. -/
def orReturn {α : Type} (result : ℕ) : Option α → Except EasStop α
  | none => .error (.code result)
  | some a => .ok a

lemma inside_some {α : Type} (a : α) : inside (some a) = .ok a := rfl

lemma inside_none {α : Type} : inside (none : Option α) = .error .outside := rfl

lemma orReturn_some {α : Type} (result : ℕ) (a : α) : orReturn result (some a) = .ok a := rfl

lemma orReturn_eq_ok {α : Type} {result : ℕ} {a : Option α} {x : α} :
    orReturn result a = .ok x ↔ a = some x := by
  cases a <;> simp [orReturn]

lemma orReturn_avoids {α : Type} (result : ℕ) (a : Option α) :
    Result.Avoids {.outside} (orReturn result a) := by
  rintro _ rfl
  cases a <;> nofun

lemma inside_avoids {α : Type} {a : Option α} (h : ∃ x, a = some x) :
    Result.Avoids {.outside} (inside a) := by
  obtain ⟨x, rfl⟩ := h
  exact Result.avoids_ok _ _

/-- The first bytes of a buffer for an update; a negative number of them is refused. -/
def evpInput {α : Type} (update : List UInt8 → Option α) (buf : List UInt8) (inl : ℤ) : Option α :=
  if inl < 0 then none else update (buf.take inl.toNat)

section

variable {σ : Type} (evp : Evp σ)

/-- `plaintext_len`: the number nearest to the length that is a multiple of 128. -/
def plaintextLen (text : List UInt8) : ℤ :=
  toInt (if text.length % 128 = 0 then text.length else (text.length / 128 + 1) * 128 : ℕ)

/-- `EncryptEAS` with two buffers of `size` bytes. -/
def encryptIn (size : ℕ) (text : List UInt8) (key iv : EvpBlock) : Except EasStop (List UInt8) := do
  let plaintext ← inside ((Buffer.fill size 0).store 0 text)
  let context ← orReturn 1 (evp.encryptInit key iv)
  let update ← orReturn 2
    (evpInput (evp.encryptUpdate context) plaintext.content (toInt text.length))
  let ciphertext ← inside ((Buffer.fill size 0).store 0 update.2)
  let last ← orReturn 3 (evp.encryptFinal update.1)
  let ciphertext ← inside (ciphertext.store update.2.length last)
  .ok (stringFromBuffer (ciphertext.content.take (update.2.length + last.length)))

/-- `EncryptEAS`, with the text when the result is 0. -/
def encryptEAS (text : List UInt8) (key iv : EvpBlock) : Except EasStop (List UInt8) :=
  if plaintextLen text + 1 < 0 then .error .badAlloc
  else encryptIn evp (plaintextLen text + 1).toNat text key iv

/-- `String_ToBuffer` as it is called, into a new buffer of `size` bytes. -/
def hexInput (size : ℕ) (text : List UInt8) (ciphertextLen : ℤ) :
    Except EasStop (List UInt8) :=
  let bufsize := (ciphertextLen % 0x100000000).toNat
  if bufsize = 0 then .ok (List.replicate size 0)
  else
    (inside (toBufferIn (2 * bufsize % 0x100000000) 0 text (List.replicate size 0))).map Prod.snd

/-- `DecryptEAS` with two buffers of `size` bytes. -/
def decryptIn (size : ℕ) (text : List UInt8) (ciphertextLen : ℤ) (key iv : EvpBlock) :
    Except EasStop (List UInt8) := do
  let ciphertext ← hexInput size text ciphertextLen
  let context ← orReturn 1 (evp.decryptInit key iv)
  let update ← orReturn 2 (evpInput (evp.decryptUpdate context) ciphertext ciphertextLen)
  let plaintext ← inside ((Buffer.fill size 0).store 0 update.2.1)
  let last ← orReturn 3 (evp.decryptFinal update.1)
  let plaintext ← inside (plaintext.store update.2.2 last)
  let plaintext ← inside (plaintext.store (update.2.2 + last.length) [0])
  .ok (plaintext.content.takeWhile (· ≠ 0))

/-- `ciphertext_len`: half of the length. -/
def ciphertextLen (text : List UInt8) : ℤ := toInt (text.length / 2 : ℕ)

/-- `DecryptEAS`, with the text when the result is 0. -/
def decryptEAS (text : List UInt8) (key iv : EvpBlock) : Except EasStop (List UInt8) :=
  if toInt (ciphertextLen text + 1) < 0 then .error .badAlloc
  else
    decryptIn evp (toInt (ciphertextLen text + 1)).toNat text (ciphertextLen text) key iv

/-- A text is encrypted within the buffers, and it is decrypted again with the result 0. -/
structure EncryptsBack (text : List UInt8) (key iv : EvpBlock) : Prop where
  inside : encryptEAS evp text key iv ≠ .error .outside
  back : ∃ result, encryptEAS evp text key iv = .ok result ∧
    decryptEAS evp result key iv = .ok text

/-- A text is decrypted within the buffers. -/
def DecryptsInside (text : List UInt8) (key iv : EvpBlock) : Prop :=
  decryptEAS evp text key iv ≠ .error .outside

end

/-! ### The calls -/

variable {σ : Type} {evp : Evp σ} {key iv : EvpBlock} {text : List UInt8}

/-- The calls of an encryption. -/
lemma Evp.encrypt_eq_some_iff {out last : List UInt8} :
    evp.encrypt key iv text = some (out, last) ↔
      ∃ context context', evp.encryptInit key iv = some context ∧
        evp.encryptUpdate context text = some (context', out) ∧
          evp.encryptFinal context' = some last := by
  simp [encrypt, Option.bind_eq_some_iff]

/-- The calls of a decryption. -/
lemma Evp.decrypt_eq_some_iff {out last : List UInt8} {len : ℕ} :
    evp.decrypt key iv text = some (out, len, last) ↔
      ∃ context context', evp.decryptInit key iv = some context ∧
        evp.decryptUpdate context text = some (context', out, len) ∧
          evp.decryptFinal context' = some last := by
  simp [decrypt, Option.bind_eq_some_iff]

/-- The front of a buffer into which a text was written. -/
lemma evpInput_store {α : Type} (update : List UInt8 → Option α) {n : ℕ} {m m' : Buffer UInt8 n}
    (h : m.store 0 text = some m') :
    evpInput update m'.content (text.length : ℤ) = update text := by
  have htake := Buffer.take_store h
  rw [Nat.zero_add, List.take_zero, List.nil_append] at htake
  rw [evpInput, if_neg (by omega), Int.toNat_natCast, htake]

/-! ### Encryption -/

/-- The condition for the encryption: the length is no multiple of 128 and fits with the rest. -/
def Fits (text : List UInt8) : Prop :=
  text.length % 128 ≠ 0 ∧ text.length < 2 ^ 31 - 128

lemma encryptIn_ok {out last : List UInt8} (hcipher : evp.encrypt key iv text = some (out, last))
    (htext : text.length < 2 ^ 31) {size : ℕ} (hsize : text.length ≤ size)
    (hout : out.length + last.length ≤ size) :
    encryptIn evp size text key iv = .ok (stringFromBuffer (out ++ last)) := by
  obtain ⟨context, context', hinit, hupdate, hfinal⟩ := Evp.encrypt_eq_some_iff.mp hcipher
  obtain ⟨plain, hplain⟩ := Buffer.store_of_le (Buffer.fill size (0 : UInt8))
    (show 0 + text.length ≤ size by omega)
  obtain ⟨cipher, hstore⟩ := Buffer.store_of_le (Buffer.fill size (0 : UInt8))
    (show 0 + out.length ≤ size by omega)
  obtain ⟨cipher', hstore'⟩ := Buffer.store_of_le cipher hout
  have hcontent : cipher'.content.take (out.length + last.length) = out ++ last := by
    have htake := Buffer.take_store_store hstore (by rwa [Nat.zero_add])
    simpa using htake
  have hread : toInt (text.length : ℤ) = text.length := toInt_of_lt (by omega) (by omega)
  rw [encryptIn, hplain, inside_some, Result.ok_bind, hinit, orReturn_some, Result.ok_bind, hread,
    evpInput_store _ hplain, hupdate, orReturn_some, Result.ok_bind, hstore, inside_some,
    Result.ok_bind, hfinal, orReturn_some, Result.ok_bind, hstore', inside_some, Result.ok_bind,
    hcontent]

/-- The padding block is not in the buffer. -/
lemma encryptIn_outside {out last : List UInt8}
    (hcipher : evp.encrypt key iv text = some (out, last)) (htext : text.length < 2 ^ 31) {size : ℕ}
    (hout : size < out.length + last.length) :
    encryptIn evp size text key iv = .error .outside := by
  obtain ⟨context, context', hinit, hupdate, hfinal⟩ := Evp.encrypt_eq_some_iff.mp hcipher
  have hread : toInt (text.length : ℤ) = text.length := toInt_of_lt (by omega) (by omega)
  rw [encryptIn]
  cases hplain : (Buffer.fill size (0 : UInt8)).store 0 text with
  | none => rw [inside_none, Result.error_bind]
  | some plain =>
      rw [inside_some, Result.ok_bind, hinit, orReturn_some, Result.ok_bind, hread,
        evpInput_store _ hplain, hupdate, orReturn_some, Result.ok_bind]
      cases hstore : (Buffer.fill size (0 : UInt8)).store 0 out with
      | none => rw [inside_none, Result.error_bind]
      | some cipher =>
          rw [inside_some, Result.ok_bind, hfinal, orReturn_some, Result.ok_bind,
            Buffer.store_of_lt cipher hout, inside_none, Result.error_bind]

lemma encryptEAS_ok (hevp : evp.Padded) (h : Fits text) (key iv : EvpBlock) :
    ∃ out last, evp.encrypt key iv text = some (out, last) ∧
      (out ++ last).length = 16 * (text.length / 16 + 1) ∧
      encryptEAS evp text key iv = .ok (stringFromBuffer (out ++ last)) := by
  obtain ⟨hmod, hlt⟩ := h
  obtain ⟨out, last, hcipher, hlength⟩ := hevp.encrypt key iv text
  refine ⟨out, last, hcipher, hlength, ?_⟩
  have hplain : plaintextLen text = ((text.length / 128 + 1) * 128 : ℕ) := by
    rw [plaintextLen, if_neg hmod, toInt_of_lt (by omega) (by omega)]
  rw [List.length_append] at hlength
  rw [encryptEAS, if_neg (by omega)]
  exact encryptIn_ok hcipher (by omega) (by omega) (by omega)

/-- Otherwise the encryption is stopped. -/
lemma encryptEAS_error (hevp : evp.Padded) (h : ¬Fits text) (key iv : EvpBlock) :
    ∃ stop, encryptEAS evp text key iv = .error stop := by
  obtain ⟨out, last, hcipher, hlength⟩ := hevp.encrypt key iv text
  rw [List.length_append] at hlength
  rw [encryptEAS]
  by_cases hneg : plaintextLen text + 1 < 0
  · exact ⟨_, if_pos hneg⟩
  rw [if_neg hneg]
  refine ⟨.outside, ?_⟩
  have hspec := toInt_spec
    (if text.length % 128 = 0 then text.length else (text.length / 128 + 1) * 128 : ℕ)
  rw [← plaintextLen] at hspec
  by_cases hshort : text.length < 2 ^ 31
  · refine encryptIn_outside hcipher hshort ?_
    by_cases hmod : text.length % 128 = 0
    · rw [if_pos hmod] at hspec
      omega
    · have hlarge : ¬text.length < 2 ^ 31 - 128 := fun hlt => h ⟨hmod, hlt⟩
      rw [if_neg hmod] at hspec
      omega
  · have hsmall : (plaintextLen text + 1).toNat < 0 + text.length := by
      split_ifs at hspec <;> omega
    rw [encryptIn, Buffer.store_of_lt _ hsmall, inside_none, Result.error_bind]

/-! ### Decryption -/

/-- The new buffer has the bytes that were written as a text. -/
lemma hexInput_stringFromBuffer {bytes : List UInt8} (hne : 0 < bytes.length)
    (hlen : bytes.length < 2 ^ 31) :
    hexInput (bytes.length + 1) (stringFromBuffer bytes) bytes.length = .ok (bytes ++ [0]) := by
  obtain ⟨r, hr⟩ := toBufferIn_stringFromBuffer
    (List.length_replicate (n := bytes.length) (a := 0)) [0]
  have hsize : ((bytes.length : ℤ) % 0x100000000).toNat = bytes.length := by omega
  have hdouble : 2 * bytes.length % 0x100000000 = 2 * bytes.length := by omega
  rw [hexInput, hsize, if_neg (by omega), hdouble, List.replicate_succ', hr]
  rfl

/-- What is in front of the zero. -/
lemma takeWhile_of_take {content : List UInt8} {k : ℕ} (h : content.take k = text ++ [0])
    (h0 : 0 ∉ text) : content.takeWhile (· ≠ 0) = text := by
  have hpos : ∀ b ∈ text, (decide (b ≠ 0)) = true := fun b hb =>
    decide_eq_true fun hzero => h0 (hzero ▸ hb)
  rw [← List.take_append_drop k content, h, List.append_assoc, List.takeWhile_append_of_pos hpos]
  simp

lemma decryptEAS_ok {bytes out last : List UInt8} {len : ℕ} (hne : 0 < bytes.length)
    (hlen : bytes.length < 2 ^ 31 - 1) (hevp : evp.Padded)
    (hcipher : evp.decrypt key iv bytes = some (out, len, last))
    (htext : out.take len ++ last = text) (h0 : 0 ∉ text) :
    decryptEAS evp (stringFromBuffer bytes) key iv = .ok text := by
  obtain ⟨context, context', hinit, hupdate, hfinal⟩ := Evp.decrypt_eq_some_iff.mp hcipher
  obtain ⟨hle, hout⟩ := hevp.update_le _ _ _ _ _ _ _ hinit hupdate
  have hlast := hevp.final_le _ _ _ _ _ _ _ _ hinit hupdate hfinal
  have hhalf : ciphertextLen (stringFromBuffer bytes) = bytes.length := by
    rw [ciphertextLen, length_stringFromBuffer, Nat.mul_div_cancel_left _ two_pos,
      toInt_of_lt (by omega) (by omega)]
  have hsize : toInt (bytes.length + 1 : ℤ) = (bytes.length + 1 : ℕ) :=
    toInt_of_lt (by omega) (by omega)
  obtain ⟨m₁, h₁⟩ := Buffer.store_of_le (Buffer.fill (bytes.length + 1) (0 : UInt8))
    (show 0 + out.length ≤ bytes.length + 1 by omega)
  obtain ⟨m₂, h₂⟩ := Buffer.store_of_le m₁ (show len + last.length ≤ bytes.length + 1 by omega)
  obtain ⟨m₃, h₃⟩ := Buffer.store_of_le m₂
    (show len + last.length + [(0 : UInt8)].length ≤ bytes.length + 1 by
      rw [List.length_singleton]
      omega)
  have hfront : m₁.content.take len = out.take len := by
    have htake := Buffer.take_store h₁
    rw [Nat.zero_add, List.take_zero, List.nil_append] at htake
    rw [← htake, List.take_take, min_eq_left hle]
  have hcontent : m₃.content.take (len + last.length + 1) = text ++ [0] := by
    calc m₃.content.take (len + last.length + 1)
        = m₂.content.take (len + last.length) ++ [0] := Buffer.take_store h₃
      _ = m₁.content.take len ++ last ++ [0] := by rw [Buffer.take_store h₂]
      _ = text ++ [0] := by rw [hfront, htext]
  have hread : evpInput (evp.decryptUpdate context) (bytes ++ [0]) bytes.length =
      evp.decryptUpdate context bytes := by
    rw [evpInput, if_neg (by omega), Int.toNat_natCast, List.take_left]
  rw [decryptEAS, hhalf, hsize, if_neg (by omega), Int.toNat_natCast, decryptIn,
    hexInput_stringFromBuffer hne (by omega), Result.ok_bind, hinit, orReturn_some, Result.ok_bind,
    hread, hupdate, orReturn_some, Result.ok_bind, h₁, inside_some, Result.ok_bind, hfinal,
    orReturn_some, Result.ok_bind, h₂, inside_some, Result.ok_bind, h₃, inside_some,
    Result.ok_bind, takeWhile_of_take hcontent h0]

/-- A text comes back if and only if it fits. -/
lemma encryptsBack_iff (hevp : evp.Padded) (h0 : 0 ∉ text) (key iv : EvpBlock) :
    EncryptsBack evp text key iv ↔ Fits text := by
  constructor
  · rintro ⟨-, result, hok, -⟩
    by_contra hfits
    obtain ⟨stop, hstop⟩ := encryptEAS_error hevp hfits key iv
    rw [hstop] at hok
    cases hok
  · intro hfits
    obtain ⟨out, last, hcipher, hlength, hok⟩ := encryptEAS_ok hevp hfits key iv
    obtain ⟨out', len, last', hdecrypt, htext⟩ := hevp.inverse key iv text out last hcipher
    have hlt := hfits.2
    refine ⟨fun hstop => ?_, _, hok, ?_⟩
    · rw [hok] at hstop
      cases hstop
    · exact decryptEAS_ok (by omega) (by omega) hevp hdecrypt htext h0

/-- A text whose half is no `int` but -1, and that begins with a digit. -/
def Wraps (text : List UInt8) : Prop :=
  text.length / 2 % 2 ^ 32 = 2 ^ 32 - 1 ∧ ∃ c ∈ text.head?, hexDigit c ≠ none

/-- The calls for buffers of the right size. -/
lemma decryptIn_avoids (hevp : evp.Padded) (text : List UInt8) {n : ℕ} (hn : n < 2 ^ 31)
    (key iv : EvpBlock) : Result.Avoids {.outside} (decryptIn evp (n + 1) text n key iv) := by
  have hsize : ((n : ℤ) % 0x100000000).toNat = n := by omega
  have hdouble : 2 * n % 0x100000000 = 2 * n := by omega
  rw [decryptIn, Result.avoids_bind]
  constructor
  · rw [hexInput, hsize, hdouble]
    split_ifs with h0
    · exact Result.avoids_ok _ _
    · rw [List.replicate_succ', toBufferIn_append 0 text (by rw [List.length_replicate])]
      exact Result.avoids_ok _ _
  intro buf _
  rw [Result.avoids_bind]
  refine ⟨orReturn_avoids _ _, fun context hinit => ?_⟩
  rw [Result.avoids_bind]
  refine ⟨orReturn_avoids _ _, fun update hupdate => ?_⟩
  rw [orReturn_eq_ok] at hinit hupdate
  rw [evpInput, if_neg (by omega), Int.toNat_natCast] at hupdate
  have hread : (buf.take n).length ≤ n := by
    rw [List.length_take]
    omega
  obtain ⟨hle, hout⟩ := hevp.update_le _ _ _ _ update.1 update.2.1 update.2.2 hinit hupdate
  rw [Result.avoids_bind]
  refine ⟨inside_avoids (Buffer.store_of_le _ (by omega)), fun plain _ => ?_⟩
  rw [Result.avoids_bind]
  refine ⟨orReturn_avoids _ _, fun last hfinal => ?_⟩
  rw [orReturn_eq_ok] at hfinal
  have hlast := hevp.final_le _ _ _ _ update.1 update.2.1 update.2.2 last hinit hupdate hfinal
  rw [Result.avoids_bind]
  refine ⟨inside_avoids (Buffer.store_of_le _ (by omega)), fun plain' _ => ?_⟩
  rw [Result.avoids_bind]
  refine ⟨inside_avoids (Buffer.store_of_le _ ?_), fun _ _ => Result.avoids_ok _ _⟩
  rw [List.length_singleton]
  omega

/-- Buffers without bytes, and -1 for the length. -/
lemma decryptIn_neg (evp : Evp σ) (ch : UInt8) (rest : List UInt8) (key iv : EvpBlock) :
    decryptIn evp 0 (ch :: rest) (-1) key iv ≠ .error .outside ↔ hexDigit ch = none := by
  have hsize : ((-1 : ℤ) % 0x100000000).toNat = 0xFFFFFFFF := rfl
  have hread (context : σ) : evpInput (evp.decryptUpdate context) [] (-1) = none := rfl
  have hcode {f : σ → Except EasStop (List UInt8)} (hf : ∀ s, f s = .error (.code 2)) :
      (orReturn 1 (evp.decryptInit key iv) >>= f) ≠ .error .outside := by
    intro h
    cases hinit : evp.decryptInit key iv with
    | none =>
        rw [hinit] at h
        cases h
    | some s =>
        rw [hinit, orReturn_some, Result.ok_bind, hf] at h
        cases h
  rw [decryptIn, hexInput, hsize, if_neg (by decide), List.replicate_zero, toBufferIn,
    if_neg (by decide)]
  by_cases h0 : ch = 0
  · rw [if_pos h0, inside_some]
    refine iff_of_true (hcode fun s => ?_) (h0 ▸ hexDigit_zero)
    rw [hread]
    rfl
  · rw [if_neg h0]
    cases hexDigit ch with
    | none =>
        rw [inside_some]
        refine iff_of_true (hcode fun s => ?_) rfl
        rw [hread]
        rfl
    | some val => exact iff_of_false (fun h => h rfl) (Option.some_ne_none val)

/-- A text is decrypted within the buffers unless its length becomes -1. -/
lemma decryptsInside_iff (hevp : evp.Padded) (text : List UInt8) (key iv : EvpBlock) :
    DecryptsInside evp text key iv ↔ ¬Wraps text := by
  have hhalf := toInt_spec (text.length / 2 : ℕ)
  rw [← ciphertextLen] at hhalf
  have hsize := toInt_spec (ciphertextLen text + 1)
  rw [DecryptsInside, decryptEAS]
  by_cases hneg : toInt (ciphertextLen text + 1) < 0
  · rw [if_pos hneg]
    refine iff_of_true nofun fun hwraps => ?_
    have hlen := hwraps.1
    omega
  rw [if_neg hneg]
  by_cases hminus : ciphertextLen text = -1
  · have hzero : toInt (ciphertextLen text + 1) = 0 := by
      rw [hminus]
      rfl
    have hlen : text.length / 2 % 2 ^ 32 = 2 ^ 32 - 1 := by omega
    rw [hzero, hminus]
    cases text with
    | nil => simp at hlen
    | cons ch rest =>
        refine (decryptIn_neg evp ch rest key iv).trans ?_
        simp only [Wraps, hlen, true_and, List.head?_cons, Option.mem_some_iff, exists_eq_left',
          ne_eq, not_not]
  · obtain ⟨n, hn⟩ : ∃ n : ℕ, ciphertextLen text = n := ⟨(ciphertextLen text).toNat, by omega⟩
    have hsucc : (toInt (ciphertextLen text + 1)).toNat = n + 1 := by omega
    rw [hsucc, hn]
    refine iff_of_true (decryptIn_avoids hevp text (by omega) key iv _ rfl) fun hwraps => ?_
    have hlen := hwraps.1
    omega

/-- A text is encrypted and decrypted again, and any text is decrypted, without a write outside of
the buffers, if and only if the length of the one is no multiple of 128 and below `2 ^ 31 - 128`,
and half the length of the other does not become -1. -/
theorem eas_iff (hevp : evp.Padded) (h0 : 0 ∉ text) (key iv : EvpBlock) (other : List UInt8) :
    EncryptsBack evp text key iv ∧ DecryptsInside evp other key iv ↔
      Fits text ∧ ¬Wraps other := by
  rw [encryptsBack_iff hevp h0, decryptsInside_iff hevp]

/-! ### A cipher -/

/-- The padding of a text: each of its bytes is their number. -/
def addPadding (text : List UInt8) : List UInt8 :=
  text ++ List.replicate (16 - text.length % 16) (16 - text.length % 16).toUInt8

/-- The text that was padded. -/
def removePadding (bytes : List UInt8) : Option (List UInt8) :=
  let text := bytes.take (bytes.length - (bytes.getLast?.getD 0).toNat)
  if addPadding text = bytes then some text else none

lemma length_addPadding (text : List UInt8) :
    (addPadding text).length = 16 * (text.length / 16 + 1) := by
  rw [addPadding, List.length_append, List.length_replicate]
  omega

lemma removePadding_addPadding (text : List UInt8) :
    removePadding (addPadding text) = some text := by
  have hlast : ((addPadding text).getLast?.getD 0).toNat = 16 - text.length % 16 := by
    rw [addPadding, List.getLast?_append, List.getLast?_replicate, if_neg (by omega)]
    simp only [Option.some_or, Option.getD_some, Nat.toUInt8_eq, UInt8.toNat_ofNat']
    omega
  have hlength : (addPadding text).length - (16 - text.length % 16) = text.length := by
    rw [length_addPadding]
    omega
  have htake : (addPadding text).take ((addPadding text).length - (16 - text.length % 16)) =
      text := by
    rw [hlength, addPadding, List.take_left]
  simp only [removePadding, hlast, htake, if_true]

lemma length_of_removePadding {bytes text : List UInt8} (h : removePadding bytes = some text) :
    text.length ≤ bytes.length := by
  simp only [removePadding] at h
  split_ifs at h
  cases h
  exact List.length_take_le' _ _

/-- Seventeen times the letter `A`: a block and one more. -/
def textA : List UInt8 := List.replicate 17 0x41

/-- The text, padded. -/
def paddedA : List UInt8 := addPadding textA

/-- What AES makes of its two blocks with a key and an initial vector of zeros. -/
def cipherA : List UInt8 :=
  [0xB4, 0x9C, 0xBF, 0x19, 0xD3, 0x57, 0xE6, 0xE1, 0xF6, 0x84, 0x5C, 0x30, 0xFD, 0x5B, 0x63, 0xE3,
    0x97, 0x2A, 0xB0, 0x42, 0x02, 0x48, 0x99, 0x9C, 0x60, 0xDB, 0xEE, 0xF0, 0x5C, 0x80, 0xDC, 0xC5]

/-- A cipher that does as AES with zeros for this text, and nothing but pad for the others. -/
def evpA : Evp (List UInt8) where
  encryptInit _ _ := some []
  encryptUpdate _ text := some (text, [])
  encryptFinal text := some (Equiv.swap paddedA cipherA (addPadding text))
  decryptInit _ _ := some []
  decryptUpdate _ bytes := some (bytes, [], 0)
  decryptFinal bytes := removePadding (Equiv.swap paddedA cipherA bytes)

lemma length_swap (bytes : List UInt8) :
    (Equiv.swap paddedA cipherA bytes).length = bytes.length := by
  have hlength : paddedA.length = cipherA.length := rfl
  rw [Equiv.swap_apply_def]
  split_ifs with hp hc
  · rw [hp, hlength]
  · rw [hc, hlength]
  · rfl

lemma padded_evpA : evpA.Padded where
  encrypt _ _ text :=
    ⟨[], _, rfl, by rw [List.nil_append, length_swap, length_addPadding]⟩
  inverse key iv text out last h := by
    obtain ⟨_, _, hinit, hupdate, hfinal⟩ := Evp.encrypt_eq_some_iff.mp h
    cases hinit
    cases hupdate
    cases hfinal
    refine ⟨[], 0, text, Evp.decrypt_eq_some_iff.mpr ⟨[], _, rfl, rfl, ?_⟩, rfl⟩
    have hswap := Equiv.symm_apply_apply (Equiv.swap paddedA cipherA) (addPadding text)
    rw [Equiv.symm_swap] at hswap
    calc removePadding (Equiv.swap paddedA cipherA (Equiv.swap paddedA cipherA (addPadding text)))
        = removePadding (addPadding text) := by rw [hswap]
      _ = some text := removePadding_addPadding text
  update_le key iv context text context' out len _ h := by
    cases h
    exact ⟨le_rfl, Nat.zero_le _⟩
  final_le key iv context text context' out len last _ h hfinal := by
    cases h
    rw [Nat.zero_add, ← length_swap text]
    exact length_of_removePadding hfinal

/-- The text is encrypted and comes back, and its cipher is decrypted within the buffers. -/
theorem eas_iff_A : EncryptsBack evpA textA (Buffer.fill 16 0) (Buffer.fill 16 0) ∧
    DecryptsInside evpA (stringFromBuffer cipherA) (Buffer.fill 16 0) (Buffer.fill 16 0) :=
  (eas_iff padded_evpA (by decide) _ _ (stringFromBuffer cipherA)).mpr
    ⟨⟨by decide, by decide⟩, fun h => by
      have hlen := h.1
      revert hlen
      decide⟩

/-- The padding of the empty text is written behind a buffer of one byte. -/
theorem eas_fails : ¬ ∀ (σ : Type) (evp : Evp σ), evp.Padded → ∀ text : List UInt8, 0 ∉ text →
    ∀ (key iv : EvpBlock) (other : List UInt8),
      EncryptsBack evp text key iv ∧ DecryptsInside evp other key iv := by
  intro h
  have hback := h _ evpA padded_evpA [] List.not_mem_nil (Buffer.fill 16 0) (Buffer.fill 16 0) []
  exact hback.1.inside rfl

end Tritonn
