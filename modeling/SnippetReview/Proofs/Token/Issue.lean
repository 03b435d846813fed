import Mathlib.Data.List.Basic
import SnippetReview.Proofs.Json.RoundTrip
import SnippetReview.Proofs.Token.Base64Url
import SnippetReview.Text.Word
import SnippetReview.Token.Basic

/-!
Issued tokens: which characters they consist of, that their payload is read back as what was
claimed, and that they are different where the claims are.
-/

set_option autoImplicit false

namespace SnippetReview

namespace Sha256

private theorem length_bigEndian (width n : Nat) : (bigEndian width n).length = width := by
  induction width generalizing n with
  | zero => rfl
  | succ width ih => simp [bigEndian, ih]

private theorem length_hash (message : Bytes) : (hash message).length = 32 := by
  simp [hash, State.bytes, length_bigEndian]

private theorem length_authenticate (key message : Bytes) :
    (authenticate key message).length = 32 :=
  length_hash _

end Sha256

namespace Base64Url

private theorem of_mem_alphabet {c : CodePoint} (hc : c ∈ alphabet) :
    c.isAsciiAlphanumeric = true ∨ c = CodePoint.ofChar '-' ∨ c = CodePoint.ofChar '_' := by
  have hall : ∀ c ∈ alphabet,
      c.isAsciiAlphanumeric = true ∨ c = CodePoint.ofChar '-' ∨ c = CodePoint.ofChar '_' := by
    decide +kernel
  exact hall c hc

private theorem encode_ascii (bytes : Bytes) : ∀ c ∈ encode bytes, c.value < 0x80 := by
  have hall : ∀ c ∈ alphabet, c.value < 0x80 := by decide +kernel
  exact fun c hc => hall c (mem_alphabet_of_mem_encode hc)

private theorem point_not_mem_encode (bytes : Bytes) : CodePoint.ofChar '.' ∉ encode bytes := by
  have hpoint : CodePoint.ofChar '.' ∉ alphabet := by decide +kernel
  exact fun hmem => hpoint (mem_alphabet_of_mem_encode hmem)

end Base64Url

namespace Token

private theorem isReadable_claims {subject : Text} {issuedAt lifetime : Int}
    (hsubject : ∀ c ∈ subject, c.isSurrogate = false) (hissued : Numeral.writable issuedAt = true)
    (hexpiry : Numeral.writable (issuedAt + lifetime) = true) :
    (claims subject issuedAt lifetime).isReadable = true := by
  have hall : subject.all (!·.isSurrogate) = true := by simpa using hsubject
  have hsub : (Text.ofString "sub").all (!·.isSurrogate) = true := by decide
  have hiat : (Text.ofString "iat").all (!·.isSurrogate) = true := by decide
  have hexp : (Text.ofString "exp").all (!·.isSurrogate) = true := by decide
  simp only [claims, Json.member, Json.isReadable, Json.haveReadable, hsub, hiat, hexp, hall,
    hissued, hexpiry, Bool.and_true]

private theorem claims_injective {subject subject' : Text}
    {issuedAt issuedAt' lifetime lifetime' : Int}
    (h : claims subject issuedAt lifetime = claims subject' issuedAt' lifetime') :
    subject = subject' ∧ issuedAt = issuedAt' ∧ lifetime = lifetime' := by
  simp only [claims, Json.member, Json.obj.injEq, List.cons.injEq, Prod.mk.injEq, true_and,
    Json.str.injEq, Json.int.injEq, and_true] at h
  obtain ⟨hsubject, hissued, hexpiry⟩ := h
  exact ⟨hsubject, hissued, by omega⟩

private theorem decode?_payload (subject : Text) (issuedAt lifetime : Int) :
    Base64Url.decode? (payload subject issuedAt lifetime) =
      some ((claims subject issuedAt lifetime).compact.flatMap CodePoint.utf8) :=
  Base64Url.decode?_encode _

private theorem payload_injective {subject subject' : Text}
    {issuedAt issuedAt' lifetime lifetime' : Int}
    (hread : (claims subject issuedAt lifetime).isReadable = true)
    (hread' : (claims subject' issuedAt' lifetime').isReadable = true)
    (h : payload subject issuedAt lifetime = payload subject' issuedAt' lifetime') :
    subject = subject' ∧ issuedAt = issuedAt' ∧ lifetime = lifetime' := by
  have hbytes : (claims subject issuedAt lifetime).compact.flatMap CodePoint.utf8 =
      (claims subject' issuedAt' lifetime').compact.flatMap CodePoint.utf8 :=
    Option.some.inj ((decode?_payload ..).symm.trans ((congrArg _ h).trans (decode?_payload ..)))
  have htext := Utf8.flatMap_utf8_injective hbytes
  exact claims_injective (Option.some.inj ((Json.read?_compact hread).symm.trans
    ((congrArg _ htext).trans (Json.read?_compact hread'))))

private theorem exists_sign_eq {secret signed : Text}
    (hsecret : ∀ c ∈ secret, c.isSurrogate = false)
    (hsigned : ∀ c ∈ signed, c.value < 0x80) :
    ∃ digest, sign secret signed = .ok (Base64Url.encode digest) ∧
      (Base64Url.encode digest).length = 43 := by
  have hplain : ∀ c ∈ signed, c.isSurrogate = false := by
    intro c hc
    have := hsigned c hc
    exact CodePoint.isSurrogate_eq_false_iff.mpr (by omega)
  refine ⟨Sha256.authenticate (secret.flatMap CodePoint.utf8) (signed.flatMap CodePoint.utf8),
    ?_, ?_⟩
  · rw [sign, Utf8.encode_eq_ok hsecret, Utf8.encode_eq_ok hplain]
    rfl
  · rw [Base64Url.length_encode, Sha256.length_authenticate]

private theorem issue_eq_ok_iff {subject secret : Text} {lifetime issuedAt : Int} {token : Text} :
    issue subject secret lifetime issuedAt = .ok token ↔
      Numeral.writable issuedAt = true ∧ Numeral.writable (issuedAt + lifetime) = true ∧
        ∃ signature, sign secret (payload subject issuedAt lifetime) = .ok signature ∧
          token = payload subject issuedAt lifetime ++ CodePoint.ofChar '.' :: signature := by
  unfold issue
  split
  · next hwritable =>
    rw [Bool.and_eq_true] at hwritable
    cases hsign : sign secret (payload subject issuedAt lifetime) with
    | error run => simp [hsign]
    | ok signature => simp [hsign, hwritable, eq_comm]
  · next hwritable =>
    simp only [Bool.and_eq_true] at hwritable
    simp only [reduceCtorEq, false_iff]
    tauto

theorem exists_issue_eq_ok_iff {subject secret : Text} {lifetime issuedAt : Int} :
    (∃ token, issue subject secret lifetime issuedAt = .ok token) ↔
      secret.IsEncodable ∧ Numeral.writable issuedAt = true ∧
        Numeral.writable (issuedAt + lifetime) = true := by
  constructor
  · rintro ⟨token, hissue⟩
    obtain ⟨hissued, hexpiry, signature, hsign, -⟩ := issue_eq_ok_iff.mp hissue
    unfold sign at hsign
    exact ⟨(Utf8.encode_bind_eq_ok_iff.mp hsign).1, hissued, hexpiry⟩
  · rintro ⟨hsecret, hissued, hexpiry⟩
    obtain ⟨digest, hsign, -⟩ := exists_sign_eq hsecret
      (Base64Url.encode_ascii ((claims subject issuedAt lifetime).compact.flatMap CodePoint.utf8))
    exact ⟨_, issue_eq_ok_iff.mpr ⟨hissued, hexpiry, _, hsign, rfl⟩⟩

def claims? (token : Text) : Option Json := do
  let bytes ← Base64Url.decode? (token.takeWhile (· ≠ CodePoint.ofChar '.'))
  let text ← Utf8.decode? bytes
  Json.read? text

theorem claims?_of_issue {subject secret : Text} {lifetime issuedAt : Int} {token : Text}
    (hsubject : subject.IsEncodable) (h : issue subject secret lifetime issuedAt = .ok token) :
    claims? token = some (claims subject issuedAt lifetime) := by
  obtain ⟨hissued, hexpiry, signature, -, rfl⟩ := issue_eq_ok_iff.mp h
  have hfront : (payload subject issuedAt lifetime ++ CodePoint.ofChar '.' :: signature).takeWhile
      (· ≠ CodePoint.ofChar '.') = payload subject issuedAt lifetime := by
    have hpayload : ∀ c ∈ payload subject issuedAt lifetime, c ≠ CodePoint.ofChar '.' := by
      intro c hc hpoint
      exact Base64Url.point_not_mem_encode _ (hpoint ▸ hc)
    rw [List.takeWhile_append_of_pos (by simpa using hpayload)]
    simp
  unfold claims?
  rw [hfront, decode?_payload]
  show (Utf8.decode? _).bind Json.read? = _
  rw [Utf8.decode?_encoded]
  exact Json.read?_compact (isReadable_claims hsubject hissued hexpiry)

/-- Issuing succeeds; the token has one point, otherwise base64url characters, and a signature of
its payload. The payload stands for ASCII text that is read as the subject and the times, so that
tokens with other claims are other tokens. -/
theorem issue_reads_back {subject secret : Text} {lifetime issuedAt : Int}
    (hsubject : ∀ c ∈ subject, c.isSurrogate = false)
    (hsecret : ∀ c ∈ secret, c.isSurrogate = false)
    (hissued : Numeral.writable issuedAt = true)
    (hexpiry : Numeral.writable (issuedAt + lifetime) = true) :
    ∃ token encoded signature text,
      issue subject secret lifetime issuedAt = .ok token ∧
      token = encoded ++ CodePoint.ofChar '.' :: signature ∧
      token.count (CodePoint.ofChar '.') = 1 ∧
      (∀ c ∈ token, c ≠ CodePoint.ofChar '.' →
        c.isAsciiAlphanumeric = true ∨ c = CodePoint.ofChar '-' ∨ c = CodePoint.ofChar '_') ∧
      signature.length = 43 ∧
      sign secret encoded = .ok signature ∧
      Base64Url.decode? encoded = some (text.flatMap CodePoint.utf8) ∧
      (∀ c ∈ text, c.value < 0x80) ∧
      Json.read? text = some (.obj [("sub", .str subject), ("iat", .int issuedAt),
        ("exp", .int (issuedAt + lifetime))]) ∧
      ∀ (subject' secret' : Text) (lifetime' issuedAt' : Int),
        (∀ c ∈ subject', c.isSurrogate = false) →
        issue subject' secret' lifetime' issuedAt' = .ok token →
        subject' = subject ∧ issuedAt' = issuedAt ∧ lifetime' = lifetime := by
  have hread := isReadable_claims hsubject hissued hexpiry
  have hascii : ∀ c ∈ payload subject issuedAt lifetime, c.value < 0x80 := Base64Url.encode_ascii _
  obtain ⟨digest, hsign, hlength⟩ := exists_sign_eq hsecret hascii
  have hissue : issue subject secret lifetime issuedAt = .ok
      (payload subject issuedAt lifetime ++ CodePoint.ofChar '.' :: Base64Url.encode digest) :=
    issue_eq_ok_iff.mpr ⟨hissued, hexpiry, _, hsign, rfl⟩
  have hpayload : CodePoint.ofChar '.' ∉ payload subject issuedAt lifetime :=
    Base64Url.point_not_mem_encode _
  have hdigest : CodePoint.ofChar '.' ∉ Base64Url.encode digest := Base64Url.point_not_mem_encode _
  refine ⟨_, _, _, _, hissue, rfl, ?_, ?_, hlength, hsign, decode?_payload .., ?_, ?_, ?_⟩
  · rw [List.count_append, List.count_cons_self, List.count_eq_zero.mpr hpayload,
      List.count_eq_zero.mpr hdigest]
  · intro c hc hpoint
    rw [List.mem_append, List.mem_cons] at hc
    rcases hc with hc | hc | hc
    · exact Base64Url.of_mem_alphabet (Base64Url.mem_alphabet_of_mem_encode hc)
    · exact absurd hc hpoint
    · exact Base64Url.of_mem_alphabet (Base64Url.mem_alphabet_of_mem_encode hc)
  · exact Json.compact_ascii _ hread
  · exact Json.read?_compact hread
  · intro subject' secret' lifetime' issuedAt' hsubject' hissue'
    obtain ⟨hissued', hexpiry', signature', -, htoken⟩ := issue_eq_ok_iff.mp hissue'
    have hsame : payload subject issuedAt lifetime = payload subject' issuedAt' lifetime' :=
      ((List.append_cons_inj_of_notMem hpayload hdigest).mp htoken).1
    exact payload_injective (isReadable_claims hsubject' hissued' hexpiry') hread
      hsame.symm

/-- A name with a quote, a backslash, a line feed and a character above U+FFFF, at a time before the
epoch and with a lifetime below zero. -/
theorem issue_reads_back_of_escaped_name :
    (∀ c ∈ Text.ofString "\"\\\n😀", c.isSurrogate = false) ∧
    (∀ c ∈ Text.ofString "clé", c.isSurrogate = false) ∧
    Numeral.writable (-1) = true ∧ Numeral.writable (-1 + -60) = true ∧
    ∃ token encoded signature text,
      issue "\"\\\n😀" "clé" (-60) (-1) = .ok token ∧
      token = encoded ++ CodePoint.ofChar '.' :: signature ∧ signature.length = 43 ∧
      Base64Url.decode? encoded = some (text.flatMap CodePoint.utf8) ∧
      Json.read? text = some (.obj [("sub", .str "\"\\\n😀"), ("iat", .int (-1)),
        ("exp", .int (-1 + -60))]) := by
  have hname : ∀ c ∈ Text.ofString "\"\\\n😀", c.isSurrogate = false := by decide
  have hsecret : ∀ c ∈ Text.ofString "clé", c.isSurrogate = false := by decide
  have hissued : Numeral.writable (-1) = true := by decide
  have hexpiry : Numeral.writable (-1 + -60) = true := by decide
  obtain ⟨token, encoded, signature, text, hissue, hshape, -, -, hlength, -, hdecode, -, hread,
    -⟩ :=
    issue_reads_back hname hsecret hissued hexpiry
  exact ⟨hname, hsecret, hissued, hexpiry, token, encoded, signature, text, hissue, hshape, hlength,
    hdecode, hread⟩

end Token

end SnippetReview
