import Rvpn.Config.Server

/-!
# The subjects of certificates

The configuration of a certificate authority names subjects by the hexadecimal text of their key, in
`revoked_subjects` and as keys of `peer_overrides`. Revocation ignores the case of the text, the lookup
of an override does not, and validation never looks at the keys of the overrides.
-/

namespace Rvpn.Config

/-- `str::to_ascii_lowercase`. -/
def asciiLowercase (text : String) : String :=
  String.ofList (text.toList.map Char.toLower)

lemma hexDigit_ofNat : ∀ n < 128, (hexDigit (Char.ofNat n)).all fun d =>
    (Char.ofNat n).toLower = hexChar d ∧ d < 16 := by
  decide +kernel

lemma hexDigit_toLower {c : Char} {d : UInt8} (digit : hexDigit c = some d) :
    c.toLower = hexChar d ∧ d < 16 := by
  have ascii : c.toNat < 128 := by
    have upper {hi : Char} (le : c ≤ hi) : c.toNat ≤ hi.toNat :=
      UInt32.le_iff_toNat_le.1 (Char.le_def.1 le)
    unfold hexDigit at digit
    split at digit
    · next within => exact (upper within.2).trans_lt (by decide)
    · split at digit
      · next within => exact (upper within.2).trans_lt (by decide)
      · split at digit
        · next within => exact (upper within.2).trans_lt (by decide)
        · cases digit
  have checked := hexDigit_ofNat c.toNat ascii
  rw [Char.ofNat_toNat, digit] at checked
  exact of_decide_eq_true checked

lemma halves {hi lo : UInt8} (high : hi < 16) (low : lo < 16) :
    (hi * 16 + lo) / 16 = hi ∧ (hi * 16 + lo) % 16 = lo := by
  have high : hi.toNat < 16 := UInt8.lt_iff_toNat_lt.1 high
  have low : lo.toNat < 16 := UInt8.lt_iff_toNat_lt.1 low
  refine ⟨UInt8.toNat_inj.1 ?_, UInt8.toNat_inj.1 ?_⟩
  · simp
    omega
  · simp
    omega

variable {bytes : List UInt8}

lemma hexDecode_toLower {cs : List Char} (decoded : hexDecode cs = some bytes) :
    cs.map Char.toLower = bytes.flatMap fun b => [hexChar (b / 16), hexChar (b % 16)] := by
  induction cs using hexDecode.induct generalizing bytes with
  | case1 =>
    cases decoded
    rfl
  | case2 c => cases decoded
  | case3 hi lo rest ih =>
    rw [hexDecode] at decoded
    simp only [Option.bind_eq_bind, Option.bind_eq_some_iff] at decoded
    obtain ⟨high, isHigh, low, isLow, others, isRest, eq⟩ := decoded
    cases eq
    obtain ⟨first, highLt⟩ := hexDigit_toLower isHigh
    obtain ⟨second, lowLt⟩ := hexDigit_toLower isLow
    obtain ⟨quotient, remainder⟩ := halves highLt lowLt
    rw [List.map_cons, List.map_cons, first, second, ih isRest, List.flatMap_cons, quotient,
      remainder]
    rfl

/-- The lower-case text of a key is the one the server looks up. -/
lemma hexEncode_of_hexDecode {text : String} (decoded : hexDecode text.toList = some bytes) :
    hexEncode bytes = asciiLowercase text := by
  rw [hexEncode, asciiLowercase, hexDecode_toLower decoded]

lemma hexDigit_hexChar {d : UInt8} (digit : d < 16) : hexDigit (hexChar d) = some d := by
  have digits : ∀ n < 16, hexDigit (hexChar (UInt8.ofNat n)) = some (UInt8.ofNat n) := by decide
  have own := digits d.toNat (UInt8.lt_iff_toNat_lt.1 digit)
  rwa [UInt8.ofNat_toNat] at own

lemma high_lt (b : UInt8) : b / 16 < 16 := by
  rw [UInt8.lt_iff_toNat_lt]
  have := b.toNat_lt
  simp
  omega

lemma low_lt (b : UInt8) : b % 16 < 16 :=
  UInt8.mod_lt _ (by decide)

lemma high_low (b : UInt8) : b / 16 * 16 + b % 16 = b := by
  apply UInt8.toNat_inj.1
  have := b.toNat_lt
  simp
  omega

lemma hexDecode_hexEncode (bytes : List UInt8) : hexDecode (hexEncode bytes).toList = some bytes := by
  rw [hexEncode, String.toList_ofList]
  induction bytes with
  | nil => rfl
  | cons b bytes ih =>
    rw [List.flatMap_cons]
    simp only [List.cons_append, List.nil_append, hexDecode, hexDigit_hexChar (high_lt b),
      hexDigit_hexChar (low_lt b), ih, Option.bind_eq_bind, Option.bind_some, high_low]
    rfl

lemma length_hexEncode (bytes : List UInt8) : (hexEncode bytes).toList.length = 2 * bytes.length := by
  rw [hexEncode, String.toList_ofList]
  induction bytes with
  | nil => rfl
  | cons b bytes ih =>
    rw [List.flatMap_cons, List.length_append, ih, List.length_cons]
    simp only [List.length_cons, List.length_nil]
    omega

lemma decodeKey32_hexEncode (key : Bytes 32) : decodeKey32 (hexEncode key.toList) = .ok key := by
  have length : (hexEncode key.toList).toList.length = 64 := by
    rw [length_hexEncode, key.toList_length]
  rw [decodeKey32, if_neg (not_not.2 length), hexDecode_hexEncode]
  simp

lemma decodeCertificate_hexEncode (certificate : Bytes 112) :
    decodeCertificate (hexEncode certificate.toList) = .ok certificate := by
  have length : (hexEncode certificate.toList).toList.length = 224 := by
    rw [length_hexEncode, certificate.toList_length]
  rw [decodeCertificate, if_neg (not_not.2 length), hexDecode_hexEncode]
  simp

lemma hexEncode_chars {P : Char → Prop} (digits : ∀ n < 16, P (hexChar (UInt8.ofNat n))) (bytes : List UInt8) :
    ∀ c ∈ (hexEncode bytes).toList, P c := by
  have digit {d : UInt8} (small : d < 16) : P (hexChar d) := by
    have own := digits d.toNat (UInt8.lt_iff_toNat_lt.1 small)
    rwa [UInt8.ofNat_toNat] at own
  rw [hexEncode, String.toList_ofList]
  intro c mem
  obtain ⟨b, _, mem⟩ := List.mem_flatMap.1 mem
  obtain rfl | mem := List.mem_cons.1 mem
  · exact digit (high_lt b)
  · rw [List.mem_singleton.1 mem]
    exact digit (low_lt b)

lemma hexEncode_toLower (bytes : List UInt8) :
    (hexEncode bytes).toList.map Char.toLower = (hexEncode bytes).toList := by
  have lower := hexEncode_chars (P := fun c => c.toLower = c) (by decide) bytes
  rw [List.map_congr_left lower, List.map_id']

lemma eqIgnoreAsciiCase_of_hexDecode {text : String} (decoded : hexDecode text.toList = some bytes) :
    eqIgnoreAsciiCase text (hexEncode bytes) := by
  rw [eqIgnoreAsciiCase, decide_eq_true_iff, hexEncode_toLower, hexDecode_toLower decoded, hexEncode,
    String.toList_ofList]

namespace CertificateAuthorityConfig
variable {parser : AddressParser} {ca : CertificateAuthorityConfig}

lemma parse_of_accepted (accepted : ca.validate parser = .ok ()) :
    (∃ nets, parsePrefixes parser prefixMessage ca.defaultAllowedIps = .ok nets) ∧
      ∀ key prefixes, ca.peerOverrides.lookup key = some prefixes →
        ∃ nets, parsePrefixes parser prefixMessage prefixes = .ok nets := by
  unfold validate at accepted
  simp only [except_bind_ok] at accepted
  obtain ⟨_, _, _, _, _, _, _, _, _, parsed, _⟩ := accepted
  have each := fun texts mem => ((except_mapM_values parsed).1 texts mem).imp fun _ => And.right
  refine ⟨each _ List.mem_cons_self, ?_⟩
  intro key prefixes found
  exact each _ (List.mem_cons_of_mem _ (HashMap.mem_values.2 ⟨key, found⟩))

/-- Every 32-byte key is in lower case, or so a key with the same prefixes. -/
def SpelledOut (parser : AddressParser) (ca : CertificateAuthorityConfig) : Prop :=
  ∀ key prefixes, ca.peerOverrides.lookup key = some prefixes →
    (∃ subject : Bytes 32, hexDecode key.toList = some subject.toList) →
    asciiLowercase key = key ∨ ∃ same, ca.peerOverrides.lookup (asciiLowercase key) = some same ∧
      parsePrefixes parser prefixMessage same = parsePrefixes parser prefixMessage prefixes

/-- The lookup finds the override of every key iff the keys are spelled out; revoked subjects are
always found. -/
theorem subjects_consistent_iff (parser : AddressParser) (ca : CertificateAuthorityConfig)
    (accepted : ca.validate parser = .ok ()) :
    (∀ subject : Bytes 32, (∀ key prefixes, ca.peerOverrides.lookup key = some prefixes →
        hexDecode key.toList = some subject.toList →
        (ca.peerOverrides.lookup (hexEncode subject.toList)).isSome = true ∧
          ∃ nets, ca.resolveAllowedIps parser (hexEncode subject.toList) = .ok nets ∧
            parsePrefixes parser prefixMessage prefixes = .ok nets) ∧
      ∀ entry ∈ ca.revokedSubjects, hexDecode entry.toList = some subject.toList →
        ca.isRevoked (hexEncode subject.toList)) ↔
    ca.SpelledOut parser := by
  refine ⟨?_, ?_⟩
  · intro consistent key prefixes found ⟨subject, decoded⟩
    obtain ⟨isKey, nets, resolved, own⟩ := (consistent subject).1 key prefixes found decoded
    rw [hexEncode_of_hexDecode decoded] at isKey resolved
    obtain ⟨same, isSame⟩ := Option.isSome_iff_exists.1 isKey
    refine .inr ⟨same, isSame, ?_⟩
    rw [own, ← resolved, resolveAllowedIps, isSame, Option.getD_some]
  · intro spelled subject
    refine ⟨?_, ?_⟩
    · intro key prefixes found decoded
      obtain ⟨nets, own⟩ := (parse_of_accepted accepted).2 key prefixes found
      have looked : ∃ same, ca.peerOverrides.lookup (hexEncode subject.toList) = some same ∧
          parsePrefixes parser prefixMessage same = parsePrefixes parser prefixMessage prefixes := by
        rw [hexEncode_of_hexDecode decoded]
        obtain lower | upper := spelled key prefixes found ⟨subject, decoded⟩
        · exact ⟨prefixes, by rw [lower, found], rfl⟩
        · exact upper
      obtain ⟨same, isSame, equal⟩ := looked
      refine ⟨by rw [isSame, Option.isSome_some], nets, ?_, own⟩
      rw [resolveAllowedIps, isSame, Option.getD_some, equal, own]
    · intro entry listed decoded
      rw [isRevoked, List.any_eq_true]
      exact ⟨entry, listed, eqIgnoreAsciiCase_of_hexDecode decoded⟩

def overriding (key : String) : CertificateAuthorityConfig where
  name := "ca"
  caPublicKey := hexEncode (Bytes.zero 32).toList
  localIdentitySeed := hexEncode (Bytes.zero 32).toList
  localCertificate := hexEncode (Bytes.zero 112).toList
  peerOverrides := AList.insert key ["10.0.0.2/32"] ∅

def oneNetwork : AddressParser where
  net _ := some (.v4 (Bytes.ofList 4 [10, 0, 0, 2]) (Fin.last 32))
  addr _ := none

lemma overriding_accepted (key : String) : (overriding key).validate oneNetwork = .ok () := by
  simp only [validate, overriding, decodeKey32_hexEncode, decodeCertificate_hexEncode]
  rfl

lemma lookup_overriding {key other : String} {prefixes : List String}
    (found : (overriding key).peerOverrides.lookup other = some prefixes) : other = key := by
  by_contra ne
  rw [overriding, AList.lookup_insert_ne ne] at found
  cases found

/-- With a key in lower case the override is found. -/
theorem override_found_in_lower_case : let key := hexEncode (Bytes.zero 32).toList
    (overriding key).validate oneNetwork = .ok () ∧
      ∃ nets, (overriding key).resolveAllowedIps oneNetwork key = .ok nets ∧
        parsePrefixes oneNetwork prefixMessage ["10.0.0.2/32"] = .ok nets := by
  intro key
  refine ⟨overriding_accepted key, ?_⟩
  have consistent := (subjects_consistent_iff oneNetwork _ (overriding_accepted key)).2 (by
    intro other prefixes found _
    left
    rw [lookup_overriding found, asciiLowercase, hexEncode_toLower, String.ofList_toList])
  exact ((consistent (Bytes.zero 32)).1 key _ (AList.lookup_insert _) (hexDecode_hexEncode _)).2

/-- An override in upper case is accepted and not found. -/
theorem override_lost_in_upper_case : let key := String.ofList (List.replicate 64 'A')
    let subject : Bytes 32 := Bytes.ofList 32 (List.replicate 32 0xaa)
    (overriding key).validate oneNetwork = .ok () ∧
      (overriding key).peerOverrides.lookup key = some ["10.0.0.2/32"] ∧
      hexDecode key.toList = some subject.toList ∧
      parsePrefixes oneNetwork prefixMessage ["10.0.0.2/32"] ≠ .ok [] ∧
      (overriding key).resolveAllowedIps oneNetwork (hexEncode subject.toList) = .ok [] := by
  intro key subject
  refine ⟨overriding_accepted key, AList.lookup_insert _, by decide +kernel, by decide +kernel, ?_⟩
  have absent : (overriding key).peerOverrides.lookup (hexEncode subject.toList) = none := by
    refine AList.lookup_insert_ne ?_
    decide +kernel
  rw [resolveAllowedIps, absent]
  rfl

end CertificateAuthorityConfig
end Rvpn.Config
