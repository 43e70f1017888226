import ReviewBot.Proofs.Numeric.Hex
import ReviewBot.Proofs.Text.Search
import ReviewBot.Webhook.Signature

set_option autoImplicit false

/-!
# Signing and verifying

A header is accepted exactly if it is the signature of the body under the secret, up to the case of
the digits (`accepts_iff_sign`). So what `sign` writes is accepted under every secret that is not
empty, and a header with another number of digits or with other characters never is.
-/

namespace ReviewBot

theorem toList_scheme_append (digits : List Char) :
    ("sha256=" ++ String.ofList digits).toList = signatureScheme.toList ++ digits := by
  simp [signatureScheme]

/-- A signature tells its digits. -/
theorem scheme_append_inj {digits digits' : List Char} :
    "sha256=" ++ String.ofList digits = "sha256=" ++ String.ofList digits' ↔
      digits = digits' := by
  rw [← String.toList_inj, toList_scheme_append, toList_scheme_append, List.append_cancel_left_eq]

/-- A signature is the scheme and the digits of the code. -/
theorem sign_eq (secret : String) (body : Bytes) :
    sign secret body =
      "sha256=" ++ String.ofList (Bytes.toHex (Sha256.hmac (Text.utf8 secret) body)) :=
  rfl

theorem length_toHex_hmac (key message : Bytes) :
    (Bytes.toHex (Sha256.hmac key message)).length = 64 := by
  rw [Bytes.length_toHex, Sha256.hmac_length]

namespace Verifier

theorem secret?_eq_some_iff {v : Verifier} {secret : String} :
    v.secret? = some secret ↔ v.secret = some secret ∧ secret ≠ "" := by
  rw [secret?, Option.filter_eq_some_iff, decide_eq_true_eq]

/-- A signature is accepted exactly if it states the code of the body under the secret. -/
theorem accepts_eq_true_iff {v : Verifier} {body : Bytes} {signature? : Option String} :
    v.accepts body signature? = true ↔
      ∃ secret signature, v.secret = some secret ∧ secret ≠ "" ∧ signature? = some signature ∧
        statedCode? signature = some (Sha256.hmac (Text.utf8 secret) body) := by
  unfold accepts
  constructor
  · intro h
    split at h
    · rename_i secret code hsecret hcode
      obtain ⟨hset, hne⟩ := secret?_eq_some_iff.1 hsecret
      obtain ⟨signature, hsignature, hstated⟩ := Option.bind_eq_some_iff.1 hcode
      rw [beq_iff_eq] at h
      exact ⟨secret, signature, hset, hne, hsignature, h ▸ hstated⟩
    · exact Bool.noConfusion h
  · rintro ⟨secret, signature, hset, hne, hsignature, hstated⟩
    have hsecret : v.secret? = some secret := secret?_eq_some_iff.2 ⟨hset, hne⟩
    have hcode : signature?.bind statedCode? = some (Sha256.hmac (Text.utf8 secret) body) :=
      Option.bind_eq_some_iff.2 ⟨signature, hsignature, hstated⟩
    rw [hsecret, hcode]
    exact beq_self_eq_true _

/-- A header states a code if it is the scheme and then the digits of the code, in which case does
not matter. -/
theorem statedCode?_eq_some_iff {header : String} {code : Bytes} :
    statedCode? header = some code ↔
      ∃ digits, header = "sha256=" ++ String.ofList digits ∧
        (∀ d ∈ digits, d ∈ Numeric.hexDigits) ∧ digits.map Char.toLower = Bytes.toHex code := by
  rw [statedCode?, Option.bind_eq_some_iff]
  constructor
  · rintro ⟨digits, hscheme, hcode⟩
    rw [List.isPrefixOf?_eq_some_iff_append_eq] at hscheme
    refine ⟨digits, ?_, Bytes.ofHex?_eq_some_iff.1 hcode⟩
    rw [← String.toList_inj, toList_scheme_append]
    exact hscheme.symm
  · rintro ⟨digits, rfl, hcode⟩
    refine ⟨digits, ?_, Bytes.ofHex?_eq_some_iff.2 hcode⟩
    rw [toList_scheme_append]
    exact Text.isPrefixOf?_append _ _

/-- There is a secret, it is not empty, and the header is the scheme and 64 hexadecimal digits that,
in small letters, make the signature of the body under the secret. -/
def IsSignature (v : Verifier) (body : Bytes) (header : String) : Prop :=
  ∃ secret digits, v.secret = some secret ∧ secret ≠ "" ∧
    header = "sha256=" ++ String.ofList digits ∧ digits.length = 64 ∧
    (∀ d ∈ digits, d ∈ Numeric.hexDigits) ∧
    "sha256=" ++ String.ofList (digits.map Char.toLower) = sign secret body

/-- Exactly the headers that are signatures of the body are accepted. -/
theorem accepts_some_iff {v : Verifier} {body : Bytes} {header : String} :
    v.accepts body (some header) = true ↔ v.IsSignature body header := by
  rw [accepts_eq_true_iff]
  constructor
  · rintro ⟨secret, signature, hset, hne, hsignature, hstated⟩
    obtain ⟨digits, rfl, hdigits, hlower⟩ := statedCode?_eq_some_iff.1 hstated
    refine ⟨secret, digits, hset, hne, Option.some.inj hsignature, ?_, hdigits, ?_⟩
    · rw [← List.length_map Char.toLower, hlower, length_toHex_hmac]
    · rw [hlower, sign_eq]
  · rintro ⟨secret, digits, hset, hne, rfl, -, hdigits, hsign⟩
    rw [sign_eq, scheme_append_inj] at hsign
    exact ⟨secret, _, hset, hne, rfl, statedCode?_eq_some_iff.2 ⟨digits, rfl, hdigits, hsign⟩⟩

theorem isSignature_sign {v : Verifier} {secret : String} (hset : v.secret = some secret)
    (hne : secret ≠ "") (body : Bytes) : v.IsSignature body (sign secret body) := by
  have hdigits : ∀ d ∈ Bytes.toHex (Sha256.hmac (Text.utf8 secret) body),
      d ∈ Numeric.hexDigits ∧ d.toLower = d :=
    fun _ hd => Bytes.mem_hexDigits_of_mem_toHex hd
  refine ⟨secret, _, hset, hne, sign_eq secret body, length_toHex_hmac _ _,
    fun d hd => (hdigits d hd).1, ?_⟩
  have hlower : (Bytes.toHex (Sha256.hmac (Text.utf8 secret) body)).map Char.toLower =
      Bytes.toHex (Sha256.hmac (Text.utf8 secret) body) :=
    (List.map_congr_left fun d hd => (hdigits d hd).2).trans (List.map_id _)
  rw [hlower, sign_eq]

theorem accepts_none (v : Verifier) (body : Bytes) : v.accepts body none = false := by
  rw [Bool.eq_false_iff, Ne, accepts_eq_true_iff]
  rintro ⟨_, _, -, -, hnone, -⟩
  simp at hnone

/-- Of a header after the scheme only 64 hexadecimal digits can be accepted. -/
theorem accepts_digits_eq_false {v : Verifier} {body : Bytes} {digits : List Char}
    (h : digits.length ≠ 64 ∨ ∃ d ∈ digits, d ∉ Numeric.hexDigits) :
    v.accepts body (some ("sha256=" ++ String.ofList digits)) = false := by
  rw [Bool.eq_false_iff, Ne, accepts_some_iff]
  rintro ⟨_, digits', -, -, e, hlength, hdigits, -⟩
  rw [scheme_append_inj] at e
  subst e
  rcases h with hne | ⟨d, hd, hother⟩
  · exact hne hlength
  · exact hother (hdigits d hd)

theorem accepts_unmarked_eq_false {v : Verifier} {body : Bytes} {header : String}
    (h : ¬ "sha256=".toList <+: header.toList) : v.accepts body (some header) = false := by
  rw [Bool.eq_false_iff, Ne, accepts_some_iff]
  rintro ⟨_, digits, -, -, rfl, -⟩
  exact h ⟨digits, (toList_scheme_append digits).symm⟩

/-- A header is accepted exactly if it is the signature of the body under the secret, up to the case
of the digits. A missing header is never accepted, the signature itself always is, and nothing is
that lacks the scheme or has another number of digits or other characters after it. -/
theorem accepts_iff_sign (v : Verifier) (body : Bytes) :
    (∀ header, v.accepts body (some header) = true ↔ v.IsSignature body header) ∧
      v.accepts body none = false ∧
      (∀ secret, v.secret = some secret → secret ≠ "" →
        v.accepts body (some (sign secret body)) = true) ∧
      (∀ header, ¬ "sha256=".toList <+: header.toList → v.accepts body (some header) = false) ∧
      ∀ digits, digits.length ≠ 64 ∨ (∃ d ∈ digits, d ∉ Numeric.hexDigits) →
        v.accepts body (some ("sha256=" ++ String.ofList digits)) = false := by
  refine ⟨?_, accepts_none v body, ?_, ?_, ?_⟩
  · intro header
    exact accepts_some_iff
  · intro secret hset hne
    exact accepts_some_iff.2 (isSignature_sign hset hne body)
  · intro header h
    exact accepts_unmarked_eq_false h
  · intro digits h
    exact accepts_digits_eq_false h

/-- A signature in capitals is accepted, and with two of its digits missing it is not. -/
theorem accepts_iff_sign_of_capitals :
    let v : Verifier := ⟨some "k"⟩
    let body := Text.utf8 "x"
    let digits := "C38EDC8815C8489F64738978F44008F8596345545F0BAA68EF6FCF5C53E57189".toList
    v.accepts body (some ("sha256=" ++ String.ofList digits)) = true ∧
      v.accepts body (some (sign "k" body)) = true ∧
      v.accepts body (some ("sha256=" ++ String.ofList (digits.drop 2))) = false := by
  intro v body digits
  obtain ⟨hiff, -, hself, -, hdigits⟩ := accepts_iff_sign v body
  refine ⟨?_, hself "k" rfl (by decide), hdigits (digits.drop 2) (Or.inl (by decide))⟩
  have hdigit : digits.all (fun d => decide (d ∈ Numeric.hexDigits)) = true := by decide
  exact (hiff _).2 ⟨"k", digits, rfl, by decide, rfl, by decide,
    fun d hd => of_decide_eq_true (List.all_eq_true.1 hdigit d hd), by decide +kernel⟩

end Verifier

end ReviewBot
