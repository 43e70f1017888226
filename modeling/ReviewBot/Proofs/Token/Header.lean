import ReviewBot.Http.Exchange
import ReviewBot.Token.Issuer

set_option autoImplicit false

/-!
# Tokens as headers

A token is written in letters, digits, hyphens, underscores and points, so every issued token can be
shown in a header (`TokenIssuer.isHeaderValue_of_issue`). There are issuers with a key that tokens
can be signed with (`TokenIssuer.issue_sample`).
-/

namespace ReviewBot

/-- The character may stand in the value of a header. -/
def Network.isHeaderChar (c : Char) : Bool := c = '\t' || (0x20 ≤ c.toNat && c.toNat ≠ 0x7F)

namespace Network

theorem isHeaderValue_append (s t : String) :
    isHeaderValue (s ++ t) = (isHeaderValue s && isHeaderValue t) := by
  unfold isHeaderValue
  rw [String.toList_append, List.all_append]

theorem isHeaderValue_ofList (l : List Char) :
    isHeaderValue (String.ofList l) = l.all isHeaderChar := by
  unfold isHeaderValue
  rw [String.toList_ofList]
  rfl

end Network

open Network (isHeaderChar isHeaderValue)

namespace Base64

theorem isHeaderChar_symbol {n : Nat} (h : n < 64) : isHeaderChar (symbol ('-', '_') n) = true := by
  revert n
  decide

theorem all_isHeaderChar_symbols {l : List Nat} (h : ∀ n ∈ l, n < 64) :
    (l.map (symbol ('-', '_'))).all isHeaderChar = true := by
  rw [List.all_map, List.all_eq_true]
  exact fun n hn => isHeaderChar_symbol (h n hn)

theorem all_isHeaderChar_urlText (bytes : Bytes) : (urlText bytes).all isHeaderChar = true := by
  induction bytes using urlText.induct with
  | case1 => rfl
  | case2 a =>
    have ha := a.toNat_lt
    refine all_isHeaderChar_symbols fun k hk => ?_
    simp only [List.mem_cons, List.not_mem_nil, or_false] at hk
    omega
  | case3 a b =>
    have ha := a.toNat_lt
    have hb := b.toNat_lt
    refine all_isHeaderChar_symbols fun k hk => ?_
    simp only [List.mem_cons, List.not_mem_nil, or_false] at hk
    omega
  | case4 a b c rest ih =>
    have ha := a.toNat_lt
    have hb := b.toNat_lt
    have hc := c.toNat_lt
    rw [urlText, List.all_append, ih, Bool.and_true]
    refine all_isHeaderChar_symbols fun k hk => ?_
    simp only [List.mem_cons, List.not_mem_nil, or_false] at hk
    omega

end Base64

namespace TokenIssuer

theorem isHeaderValue_part (bytes : Bytes) : isHeaderValue (part bytes) = true :=
  (Network.isHeaderValue_ofList _).trans (Base64.all_isHeaderChar_urlText bytes)

/-- Every token of an app can be shown in a header. -/
theorem isHeaderValue_of_issue {issuer : TokenIssuer} {now : Int} {token : String}
    (h : issuer.issue now = .ok token) : isHeaderValue token = true := by
  simp only [issue] at h
  split at h
  · rw [← Except.ok.inj h]
    simp only [Network.isHeaderValue_append, isHeaderValue_part, Bool.true_and, Bool.and_true]
    decide
  · exact absurd h nofun

/-! ## An issuer -/

/-- An item of a key file, with its length in as few bytes as possible. -/
def sampleItem (tag : UInt8) (content : Bytes) : Bytes :=
  if content.length < 128 then tag :: UInt8.ofNat content.length :: content
  else if content.length < 256 then tag :: 0x81 :: UInt8.ofNat content.length :: content
  else tag :: 0x82 :: RsaKey.bytesOfNumber 2 content.length ++ content

/-- A number in a key file. -/
def sampleInteger (n : Nat) : Bytes :=
  sampleItem 0x02 (RsaKey.bytesOfNumber (RsaKey.bitLength n / 8 + 1) n)

/-- An issuer whose key is made of two primes of 1024 bits. -/
def sample : TokenIssuer :=
  let p := Nat.pow 2 1024 - 105
  let q := Nat.pow 2 1024 - 179
  let numbers := [0, p * q, 65537, (54058 * ((p - 1) * (q - 1)) + 1) / 65537, p, q,
    (23094 * (p - 1) + 1) / 65537, (25629 * (q - 1) + 1) / 65537, (5 * p - 1) / 74]
  ⟨1, sampleItem 0x30 (numbers.flatMap sampleInteger)⟩

/-- The token of that issuer at the beginning of 1970. -/
def sampleToken : String := (sample.issue 0).toOption.getD ""

theorem issue_sample : sample.issue 0 = .ok sampleToken := by
  have hok : (sample.issue 0).isOk = true := by decide +kernel
  rw [sampleToken]
  cases hissue : sample.issue 0 with
  | ok token => rfl
  | error e =>
    rw [hissue] at hok
    exact Bool.noConfusion hok

end TokenIssuer

end ReviewBot
