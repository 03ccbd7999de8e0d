import Rvpn.Protocol.Handshake

/-!
# Which handshake encodings are canonical

The converse of the round trip: whether encoding what a byte string decodes to gives the byte string
back. The decoder of `HandshakeMessage` takes every flag other than one for an absent cookie and does
not look at the cookie bytes then, and `AuthProof::decode_body` does not look at the padding behind the
signature of a pinned key.
-/

namespace Rvpn.Protocol

/-- The cookie's flag and 32 bytes: flagged with one, or all zeros. -/
def CanonicalCookie (input : List UInt8) : Prop :=
  input.head? = some 1 →
    (input.drop 65).head? = some 1 ∨ (input.drop 65).take 33 = List.replicate 33 0

/-- The bytes behind the signature of a pinned key are zeros. -/
def CanonicalPadding (body : Bytes proofBodyLen) : Prop :=
  body.toList.head? = some 0 → body.toList.drop 65 = List.replicate 112 0

namespace HandshakeMessage

/-- A cookie field is reproduced if it is flagged with one or all zeros. -/
lemma cookieBytes_eq_iff {field : List UInt8} (len : field.length = 33) :
    cookieBytes (if field.head? = some 1 then some (Bytes.ofList 32 (field.drop 1)) else none) =
        field ↔
      field.head? = some 1 ∨ field = List.replicate 33 0 := by
  cases field with
  | nil => cases len
  | cons flag cookie =>
    have size : cookie.length = 32 := Nat.succ.inj len
    by_cases flagged : flag = 1
    · subst flagged
      simp only [List.head?_cons, if_true, cookieBytes, List.drop_one, List.tail_cons,
        Bytes.toList_ofList size, true_or]
    · simp only [List.head?_cons, Option.some.injEq, flagged, if_false, false_or, cookieBytes]
      exact eq_comm

lemma encode_initiation_iff {rest : List UInt8} (len : rest.length = 113) :
    encode (.initiation (Bytes.ofList 32 (rest.take 32)) (Bytes.ofList 32 ((rest.drop 32).take 32))
        (if (rest.drop 64).head? = some 1 then some (Bytes.ofList 32 ((rest.drop 65).take 32))
          else none)
        (Bytes.ofList 16 (rest.drop 97))) = 1 :: rest ↔
      (rest.drop 64).head? = some 1 ∨ (rest.drop 64).take 33 = List.replicate 33 0 := by
  have size : ((rest.drop 64).take 33).length = 33 := by simp [len]
  have field := cookieBytes_eq_iff size
  have head : ((rest.drop 64).take 33).head? = (rest.drop 64).head? := by
    rw [List.head?_take, if_neg (by decide)]
  have cookie : ((rest.drop 64).take 33).drop 1 = (rest.drop 65).take 32 := by
    rw [List.drop_take, List.drop_drop]
  rw [head, cookie] at field
  rw [← field]
  -- the other fields are always reproduced
  have parts : rest = rest.take 32 ++ ((rest.drop 32).take 32 ++
      ((rest.drop 64).take 33 ++ rest.drop 97)) := by
    rw [show rest.drop 97 = (rest.drop 64).drop 33 by rw [List.drop_drop], List.take_append_drop,
      show rest.drop 64 = (rest.drop 32).drop 32 by rw [List.drop_drop], List.take_append_drop,
      List.take_append_drop]
  rw [encode, Bytes.toList_ofList_take (by omega), Bytes.toList_ofList_take (by simp; omega),
    Bytes.toList_ofList (l := rest.drop 97) (by simp [len])]
  refine ⟨?_, ?_⟩
  · intro eq
    have eq := (List.cons.inj eq).2.trans parts
    exact List.append_cancel_right (List.append_cancel_left (List.append_cancel_left eq))
  · intro eq
    rw [eq, ← parts]

lemma encode_response_eq {rest : List UInt8} (len : rest.length = 273) :
    encode (.response (Bytes.ofList 32 (rest.take 32)) (Bytes.ofList 32 ((rest.drop 32).take 32))
      ⟨Bytes.ofList 16 ((rest.drop 64).take 16)⟩ (Bytes.ofList sealedProofLen (rest.drop 80))) =
        2 :: rest := by
  rw [encode, Bytes.toList_ofList_take (by omega), Bytes.toList_ofList_take (by simp; omega),
    Bytes.toList_ofList_take (by simp; omega),
    Bytes.toList_ofList (by rw [List.length_drop, len]; rfl),
    show rest.drop 80 = (rest.drop 64).drop 16 by rw [List.drop_drop], List.take_append_drop,
    show rest.drop 64 = (rest.drop 32).drop 32 by rw [List.drop_drop], List.take_append_drop,
    List.take_append_drop]

/-- What the decoder accepts, by the kind. -/
inductive Decoded : List UInt8 → HandshakeMessage → Prop
  | initiation {rest : List UInt8} (len : rest.length = 113) : Decoded (1 :: rest)
      (.initiation (Bytes.ofList 32 (rest.take 32)) (Bytes.ofList 32 ((rest.drop 32).take 32))
        (if (rest.drop 64).head? = some 1 then some (Bytes.ofList 32 ((rest.drop 65).take 32))
          else none)
        (Bytes.ofList 16 (rest.drop 97)))
  | response {rest : List UInt8} (len : rest.length = 273) : Decoded (2 :: rest)
      (.response (Bytes.ofList 32 (rest.take 32)) (Bytes.ofList 32 ((rest.drop 32).take 32))
        ⟨Bytes.ofList 16 ((rest.drop 64).take 16)⟩ (Bytes.ofList sealedProofLen (rest.drop 80)))
  | finish {rest : List UInt8} (len : rest.length = sealedProofLen) :
    Decoded (3 :: rest) (.finish (Bytes.ofList sealedProofLen rest))
  | cookieReply {rest : List UInt8} (len : rest.length = 32) :
    Decoded (4 :: rest) (.cookieReply (Bytes.ofList 32 rest))

lemma decode_ok {input : List UInt8} {m : HandshakeMessage} (decoded : decode input = .ok m) :
    Decoded input m := by
  cases input with
  | nil => cases decoded
  | cons kind rest =>
    unfold decode at decoded
    simp only at decoded
    -- each kind has one length
    have accepts : ∀ {n : Nat} {m' : HandshakeMessage},
        (if (kind :: rest).length ≠ n then Except.error ProtocolError.invalidHandshake
          else Except.ok m') = Except.ok m → (kind :: rest).length = n ∧ m' = m := by
      intro n m' ok
      split at ok
      · cases ok
      · next len => exact ⟨not_not.1 len, Except.ok.inj ok⟩
    split at decoded
    · next one =>
      obtain ⟨len, rfl⟩ := accepts decoded
      exact one ▸ .initiation (Nat.succ.inj len)
    · split at decoded
      · next two =>
        obtain ⟨len, rfl⟩ := accepts decoded
        exact two ▸ .response (Nat.succ.inj len)
      · split at decoded
        · next three =>
          obtain ⟨len, rfl⟩ := accepts decoded
          exact three ▸ .finish (Nat.succ.inj (len.trans (Nat.add_comm _ _)))
        · split at decoded
          · next four =>
            obtain ⟨len, rfl⟩ := accepts decoded
            exact four ▸ .cookieReply (Nat.succ.inj len)
          · cases decoded

/-- Which accepted byte strings are reproduced. -/
theorem encode_eq_iff {input : List UInt8} {m : HandshakeMessage} (decoded : decode input = .ok m) :
    m.encode = input ↔ CanonicalCookie input := by
  -- the condition is empty for the other kinds
  have other : ∀ {kind : UInt8} {rest : List UInt8}, kind ≠ 1 → CanonicalCookie (kind :: rest) :=
    fun ne one => absurd (Option.some.inj one) ne
  cases decode_ok decoded with
  | initiation len =>
    rw [encode_initiation_iff len]
    exact ⟨fun canonical _ => canonical, fun canonical => canonical rfl⟩
  | response len => exact iff_of_true (encode_response_eq len) (other (by decide))
  | finish len => exact iff_of_true (by rw [encode, Bytes.toList_ofList len]) (other (by decide))
  | cookieReply len => exact iff_of_true (by rw [encode, Bytes.toList_ofList len]) (other (by decide))

lemma reproduced {input : List UInt8} (canonical : CanonicalCookie input) :
    Reproduced encode decode input :=
  fun _ decoded => (encode_eq_iff decoded).2 canonical

end HandshakeMessage

/-- Which accepted bodies of proofs are reproduced. -/
theorem AuthProof.encodeBody_eq_iff {body : Bytes proofBodyLen} {p : AuthProof}
    (decoded : AuthProof.decodeBody body = .ok p) :
    p.encodeBody = body.toList ↔ CanonicalPadding body := by
  have len := body.toList_length
  unfold AuthProof.decodeBody at decoded
  unfold CanonicalPadding
  generalize body.toList = bytes at decoded len ⊢
  split at decoded
  · next rest =>
    cases decoded
    have len : rest.length = 176 := Nat.succ.inj len
    rw [encodeBody, Bytes.toList_ofList_take (by omega)]
    refine ⟨?_, ?_⟩
    · intro eq _
      have eq := (List.cons.inj eq).2.trans (List.take_append_drop 64 rest).symm
      exact (List.append_cancel_left eq).symm
    · intro canonical
      have zeros : rest.drop 64 = List.replicate 112 0 := canonical rfl
      rw [← zeros, List.take_append_drop]
  · next rest =>
    cases decoded
    have len : rest.length = 176 := Nat.succ.inj len
    refine iff_of_true ?_ fun zero => absurd (Option.some.inj zero) (by decide)
    rw [encodeBody, Bytes.toList_ofList_take (by omega), Bytes.toList_ofList (by simp [len]),
      List.take_append_drop]
  · cases decoded

lemma AuthProof.reproduced {body : Bytes proofBodyLen} (canonical : CanonicalPadding body) :
    Reproduced (fun p => Bytes.ofList proofBodyLen p.encodeBody) decodeBody body := by
  intro p decoded
  show Bytes.ofList proofBodyLen p.encodeBody = body
  rw [(encodeBody_eq_iff decoded).2 canonical, Bytes.ofList_toList]

/-! ### What the transcripts cover -/

lemma join_cons_inj {domain first first' : List UInt8} {rest : List (List UInt8)} :
    join domain (first :: rest) = join domain (first' :: rest) ↔ first = first' := by
  refine ⟨?_, fun eq => by rw [eq]⟩
  intro eq
  exact List.append_cancel_right (List.append_cancel_left eq)

lemma encode_eq_of_not_initiation {input : List UInt8} {m : HandshakeMessage}
    (decoded : HandshakeMessage.decode input = .ok m) (other : m.isInitiation = false) :
    m.encode = input := by
  refine (HandshakeMessage.encode_eq_iff decoded).2 fun one => ?_
  cases HandshakeMessage.decode_ok decoded with
  | initiation => cases other
  | response => cases one
  | finish => cases one
  | cookieReply => cases one

/-- The messages on the wire, and what they were decoded to. -/
structure OnWire (initiation response finish : List UInt8) (i r f : HandshakeMessage) : Prop where
  initiation : HandshakeMessage.decode initiation = .ok i
  response : HandshakeMessage.decode response = .ok r
  finish : HandshakeMessage.decode finish = .ok f
  isInitiation : i.isInitiation = true
  isResponse : r.isResponse = true
  isFinish : f.isFinish = true

namespace OnWire
variable {initiation response finish : List UInt8} {i r f : HandshakeMessage}

lemma encode_response (h : OnWire initiation response finish i r f) : r.encode = response := by
  apply encode_eq_of_not_initiation h.response
  have is := h.isResponse
  cases r with
  | response => rfl
  | _ => cases is

lemma encode_finish (h : OnWire initiation response finish i r f) : f.encode = finish := by
  apply encode_eq_of_not_initiation h.finish
  have is := h.isFinish
  cases f with
  | finish => rfl
  | _ => cases is

/-- The transcript covers the wire iff the cookie field is canonical. -/
lemma covers_iff (h : OnWire initiation response finish i r f) (publicKey random : Bytes 32)
    (sessionId : SessionId) :
    (serverInput i publicKey random sessionId = join (domain serverAuthDomain)
        [initiation, HandshakeMessage.responsePublicBytes publicKey random sessionId] ↔
      CanonicalCookie initiation) ∧
    (clientInput i r = join (domain clientAuthDomain) [initiation, response] ↔
      CanonicalCookie initiation) ∧
    (finalInput i r f = join (domain transcriptDomain) [initiation, response, finish] ↔
      CanonicalCookie initiation) := by
  rw [serverInput, clientInput, finalInput, h.encode_response, h.encode_finish, join_cons_inj,
    join_cons_inj, join_cons_inj, HandshakeMessage.encode_eq_iff h.initiation]
  exact ⟨.rfl, .rfl, .rfl⟩

end OnWire

/-- A message is reproduced iff its cookie field is canonical, a proof iff its padding is;
transcripts cover the wire iff the cookie field is canonical. -/
theorem canonical_iff (input : List UInt8) (body : Bytes proofBodyLen) :
    (∀ m, HandshakeMessage.decode input = .ok m → (m.encode = input ↔ CanonicalCookie input) ∧
      ∀ input', HandshakeMessage.decode input' = .ok m → CanonicalCookie input →
        CanonicalCookie input' → input = input') ∧
    (∀ p, AuthProof.decodeBody body = .ok p → (p.encodeBody = body.toList ↔ CanonicalPadding body) ∧
      ∀ body', AuthProof.decodeBody body' = .ok p → CanonicalPadding body →
        CanonicalPadding body' → body = body') ∧
    ∀ response finish i r f, OnWire input response finish i r f → ∀ publicKey random sessionId,
        (serverInput i publicKey random sessionId = join (domain serverAuthDomain)
            [input, HandshakeMessage.responsePublicBytes publicKey random sessionId] ↔
          CanonicalCookie input) ∧
        (clientInput i r = join (domain clientAuthDomain) [input, response] ↔
          CanonicalCookie input) ∧
        (finalInput i r f = join (domain transcriptDomain) [input, response, finish] ↔
          CanonicalCookie input) := by
  refine ⟨?_, ?_, ?_⟩
  · intro m decoded
    refine ⟨HandshakeMessage.encode_eq_iff decoded, ?_⟩
    intro input' decoded' canonical canonical'
    exact (HandshakeMessage.reproduced canonical).eq (HandshakeMessage.reproduced canonical') decoded
      decoded'
  · intro p decoded
    refine ⟨AuthProof.encodeBody_eq_iff decoded, ?_⟩
    intro body' decoded' canonical canonical'
    exact (AuthProof.reproduced canonical).eq (AuthProof.reproduced canonical') decoded decoded'
  · intro response finish i r f wire publicKey random sessionId
    exact wire.covers_iff publicKey random sessionId

/-- An initiation whose cookie field is `field`. -/
def initiationWith (field : List UInt8) : List UInt8 :=
  1 :: (List.replicate 64 7 ++ (field ++ List.replicate 16 8))

def bodyWith (padding : UInt8) : Bytes proofBodyLen :=
  Bytes.ofList proofBodyLen (0 :: (List.replicate 64 7 ++ List.replicate 112 padding))

/-- A field that is flagged with one is reproduced. -/
theorem canonical_iff_with_cookie :
    ∃ m, HandshakeMessage.decode (initiationWith (1 :: List.replicate 32 9)) = .ok m ∧
      m.encode = initiationWith (1 :: List.replicate 32 9) := by
  refine ⟨.initiation (Bytes.ofList 32 (List.replicate 32 7)) (Bytes.ofList 32 (List.replicate 32 7))
    (some (Bytes.ofList 32 (List.replicate 32 9))) (Bytes.ofList 16 (List.replicate 16 8)),
    by decide +kernel, ?_⟩
  exact ((canonical_iff _ (bodyWith 0)).1 _ (by decide +kernel)).1.2 fun _ => .inl (by decide +kernel)

/-- Three cookie fields decode to one message, two paddings to one proof. -/
theorem other_encodings_accepted :
    ∃ m p, HandshakeMessage.decode (initiationWith (2 :: List.replicate 32 0)) = .ok m ∧
      HandshakeMessage.decode (initiationWith (0 :: List.replicate 32 9)) = .ok m ∧
      HandshakeMessage.decode (initiationWith (List.replicate 33 0)) = .ok m ∧
      m.encode = initiationWith (List.replicate 33 0) ∧
      m.encode ≠ initiationWith (2 :: List.replicate 32 0) ∧
      m.encode ≠ initiationWith (0 :: List.replicate 32 9) ∧
      AuthProof.decodeBody (bodyWith 0) = .ok p ∧ AuthProof.decodeBody (bodyWith 1) = .ok p ∧
      p.encodeBody = (bodyWith 0).toList ∧ p.encodeBody ≠ (bodyWith 1).toList := by
  refine ⟨.initiation (Bytes.ofList 32 (List.replicate 32 7)) (Bytes.ofList 32 (List.replicate 32 7)) none
    (Bytes.ofList 16 (List.replicate 16 8)), .pinnedKey (Bytes.ofList 64 (List.replicate 64 7)), ?_⟩
  decide +kernel

end Rvpn.Protocol
