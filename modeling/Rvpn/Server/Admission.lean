import Mathlib.Data.Set.Function
import Rvpn.Lib.Transparent
import Rvpn.Server.Handshake

/-!
# Admission by cookie

A cookie is the HMAC of a string that holds the time bucket, the endpoint and the values of the client.
The string determines them (`message_inj`). `challenge_or_admit` admits an initiation only if its cookie
was sent to its endpoint before. That rests on two assumptions about the HMAC of the strings at hand: no
two have the same one, and nobody presents one that the server has not given out (`Unforged`).
-/

namespace Rvpn

namespace Crypto.CookieKey
variable {P : Primitives} {key : CookieKey}

/-- The string that a cookie is the HMAC of. -/
def message (endpoint : SocketAddr) (publicKey random : Bytes 32) (bucket : Nat) : List UInt8 :=
  domain (ascii "/handshake/cookie") ++ (beBytes 8 bucket ++
    (endpointBytes endpoint ++ (publicKey.toList ++ random.toList)))

lemma addressBytes_inj {n : Nat} {octets octets' : Bytes n} {port port' : UInt16} {l l' : List UInt8}
    (h : octets.toList ++ beBytes 2 port.toNat ++ l = octets'.toList ++ beBytes 2 port'.toNat ++ l') :
    octets = octets' ∧ port = port' ∧ l = l' := by
  obtain ⟨front, rest⟩ := List.append_inj h (by simp)
  obtain ⟨address, ports⟩ := List.append_inj front (by simp)
  have number := beBytes_inj (n := 2) port.toNat_lt port'.toNat_lt ports
  exact ⟨Bytes.toList_inj.1 address, UInt16.toNat_inj.1 number, rest⟩

variable {e e' : SocketAddr}

/-- The endpoint ends where its family says. -/
lemma endpointBytes_inj {l l' : List UInt8} (h : endpointBytes e ++ l = endpointBytes e' ++ l') :
    e = e' ∧ l = l' := by
  obtain ⟨ip, port⟩ := e
  obtain ⟨ip', port'⟩ := e'
  cases ip with
  | v4 octets =>
    cases ip' with
    | v4 octets' =>
      obtain ⟨rfl, rfl, rfl⟩ := addressBytes_inj (List.cons.inj h).2
      exact ⟨rfl, rfl⟩
    | v6 octets' => exact absurd (List.cons.inj h).1 (by decide)
  | v6 octets =>
    cases ip' with
    | v4 octets' => exact absurd (List.cons.inj h).1 (by decide)
    | v6 octets' =>
      obtain ⟨rfl, rfl, rfl⟩ := addressBytes_inj (List.cons.inj h).2
      exact ⟨rfl, rfl⟩

variable {publicKey random : Bytes 32}

lemma message_inj {publicKey' random' : Bytes 32} {bucket bucket' : Nat} (small : bucket ≤ u64Max)
    (small' : bucket' ≤ u64Max)
    (h : message e publicKey random bucket = message e' publicKey' random' bucket') :
    e = e' ∧ publicKey = publicKey' ∧ random = random' ∧ bucket = bucket' := by
  have wide : u64Max < 256 ^ 8 := by decide
  obtain ⟨buckets, rest⟩ := List.append_inj (List.append_cancel_left h) (by simp)
  obtain ⟨endpoint, values⟩ := endpointBytes_inj rest
  obtain ⟨publicKeys, randoms⟩ := List.append_inj values (by simp)
  exact ⟨endpoint, Bytes.toList_inj.1 publicKeys, Bytes.toList_inj.1 randoms,
    beBytes_inj (small.trans_lt wide) (small'.trans_lt wide) buckets⟩

/-- The buckets whose cookies are good: its own and the one before. -/
def Good (now bucket : Nat) : Prop :=
  now / 60 = bucket ∨ now / 60 = bucket + 1

lemma Good.le {now bucket : Nat} (small : now ≤ u64Max) (good : Good now bucket) :
    bucket ≤ u64Max := by
  have := Nat.div_le_self now 60
  rcases good with same | next
  · omega
  · omega

lemma verify_iff {endpoint : SocketAddr} {cookie : Bytes 32} {now : Nat} :
    verify P key endpoint publicKey random cookie now = true ↔ ∃ bucket, Good now bucket ∧
        P.hmac key.secret (message endpoint publicKey random bucket) = cookie := by
  show _ ↔ ∃ bucket, Good now bucket ∧ compute P key endpoint publicKey random bucket = cookie
  unfold verify Good
  simp only
  refine ⟨?_, ?_⟩
  · intro verified
    split at verified
    · next current => exact ⟨_, .inl rfl, current⟩
    · split at verified
      · cases verified
      · exact ⟨now / 60 - 1, .inr (by omega), of_decide_eq_true verified⟩
  · rintro ⟨bucket, rfl | next, eq⟩
    · rw [if_pos eq]
    · have previous : now / 60 - 1 = bucket := by omega
      rw [previous, if_neg (show ¬now / 60 = 0 by omega), decide_eq_true eq]
      exact ite_self _

/-- A cookie is good for its endpoint and values, in two buckets. -/
lemma verify_mint_iff {publicKey' random' : Bytes 32} {t t' : Nat} (small : t ≤ u64Max)
    (small' : t' ≤ u64Max) {messages : Set (List UInt8)}
    (free : Set.InjOn (P.hmac key.secret) messages)
    (minted : message e publicKey random (t / 60) ∈ messages)
    (checked : ∀ bucket, Good t' bucket → message e' publicKey' random' bucket ∈ messages) :
    verify P key e' publicKey' random' (mint P key e publicKey random t) t' = true ↔
      e = e' ∧ publicKey = publicKey' ∧ random = random' ∧ Good t' (t / 60) := by
  rw [verify_iff]
  refine ⟨?_, ?_⟩
  · rintro ⟨bucket, good, eq⟩
    have strings := free (checked bucket good) minted eq
    obtain ⟨rfl, rfl, rfl, rfl⟩ := message_inj (Good.le small' good) (Good.le small (.inl rfl)) strings
    exact ⟨rfl, rfl, rfl, good⟩
  · rintro ⟨rfl, rfl, rfl, good⟩
    exact ⟨t / 60, good, rfl⟩

end Crypto.CookieKey

namespace Server
open Crypto Protocol

/-- A call of `challenge_or_admit`, its time, and whether the reply gets out. -/
structure Attempt where
  endpoint : SocketAddr
  initiation : HandshakeMessage
  clock : Clock
  delivered : Bool
  bounded : clock.unix ≤ u64Max

namespace Attempt
variable (P : Primitives) (key : CookieKey)

def answer (limiter : CookieChallengeLimiter) (a : Attempt) :
    Bool × CookieChallengeLimiter × List Packet :=
  challengeOrAdmit P key a.endpoint a.initiation limiter a.clock

def step (limiter : CookieChallengeLimiter) (a : Attempt) : CookieChallengeLimiter :=
  (a.answer P key limiter).2.1

/-- The call sends a cookie to its endpoint, for the values of a client. -/
structure Sends (limiter : CookieChallengeLimiter) (a : Attempt) (publicKey random cookie : Bytes 32) :
    Prop where
  asks : ∃ presented mac1, a.initiation = .initiation publicKey random presented mac1
  sends : (a.answer P key limiter).2.2 =
    [handshakePacket .handshake 0 SessionId.zero (.cookieReply cookie)]
  delivered : a.delivered = true

/-- The calls have sent out the HMAC of a string. -/
def GivenOut (limiter : CookieChallengeLimiter) (calls : List Attempt) (string : List UInt8) : Prop :=
  ∃ before a after publicKey random cookie, calls = before ++ a :: after ∧
    Sends P key (run (step P key) limiter before) a publicKey random cookie ∧
    CookieKey.message a.endpoint publicKey random (a.clock.unix / 60) = string

/-- Nobody presents an HMAC of a checked string that was not given out. -/
def Unforged (limiter : CookieChallengeLimiter) (calls : List Attempt) : Prop :=
  ∀ before a after, calls = before ++ a :: after →
    ∀ publicKey random cookie mac1, a.initiation = .initiation publicKey random (some cookie) mac1 →
    ∀ bucket, CookieKey.Good a.clock.unix bucket →
      P.hmac key.secret (CookieKey.message a.endpoint publicKey random bucket) = cookie →
      GivenOut P key limiter before (CookieKey.message a.endpoint publicKey random bucket)

inductive Outcome (limiter : CookieChallengeLimiter) (a : Attempt) :
    Bool × CookieChallengeLimiter × List Packet → Prop
  | admitted (publicKey random cookie : Bytes 32) (mac1 : Bytes 16)
      (asks : a.initiation = .initiation publicKey random (some cookie) mac1)
      (verified : key.verify P a.endpoint publicKey random cookie a.clock.unix = true) :
      Outcome limiter a (true, limiter, [])
  | ignored (limiter' : CookieChallengeLimiter) : Outcome limiter a (false, limiter', [])
  | challenged (publicKey random : Bytes 32) (presented : Option (Bytes 32)) (mac1 : Bytes 16)
      (limiter' : CookieChallengeLimiter)
      (asks : a.initiation = .initiation publicKey random presented mac1) :
      Outcome limiter a (false, limiter', [handshakePacket .handshake 0 SessionId.zero
        (.cookieReply (key.mint P a.endpoint publicKey random a.clock.unix))])

lemma answer_outcome (limiter : CookieChallengeLimiter) (a : Attempt) :
    Outcome P key limiter a (a.answer P key limiter) := by
  obtain ⟨endpoint, initiation, clock, delivered, bounded⟩ := a
  unfold answer challengeOrAdmit
  simp only
  split
  · next publicKey random cookie mac1 =>
    split
    · next verified =>
      cases cookie with
      | none => cases verified
      | some cookie => exact .admitted publicKey random cookie mac1 rfl verified
    · split
      · exact .ignored _
      · exact .challenged publicKey random cookie mac1 _ rfl
  · exact .ignored _

variable {P key}

/-- The cookie sent is that for its endpoint, values and time. -/
lemma Sends.mint {limiter : CookieChallengeLimiter} {a : Attempt} {publicKey random cookie : Bytes 32}
    (h : a.Sends P key limiter publicKey random cookie) :
    P.hmac key.secret (CookieKey.message a.endpoint publicKey random (a.clock.unix / 60)) = cookie := by
  obtain ⟨⟨presented, mac1, asks⟩, sends, _⟩ := h
  have outcome := answer_outcome P key limiter a
  generalize a.answer P key limiter = result at outcome sends
  cases outcome with
  | admitted => cases sends
  | ignored => cases sends
  | challenged publicKey' random' presented' mac1' limiter' asks' =>
    have payload : (HandshakeMessage.cookieReply _).encode = (HandshakeMessage.cookieReply _).encode :=
      congrArg Packet.payload (List.cons.inj sends).1
    rw [asks] at asks'
    cases asks'
    exact HandshakeMessage.cookieReply.inj (HandshakeMessage.encode_inj payload)

/-- An admitted cookie was sent to its endpoint in this bucket or the last. -/
lemma admitted_sent {limiter : CookieChallengeLimiter} {calls before after : List Attempt} {a : Attempt}
    (unforged : Unforged P key limiter calls) (eq : calls = before ++ a :: after)
    (admits : (a.answer P key (run (step P key) limiter before)).1 = true) :
    ∃ publicKey random cookie mac1, a.initiation = .initiation publicKey random (some cookie) mac1 ∧
      ∃ earlier sender rest, before = earlier ++ sender :: rest ∧ sender.endpoint = a.endpoint ∧
        Sends P key (run (step P key) limiter earlier) sender publicKey random cookie ∧
        CookieKey.Good a.clock.unix (sender.clock.unix / 60) := by
  have outcome := answer_outcome P key (run (step P key) limiter before) a
  generalize a.answer P key (run (step P key) limiter before) = result at outcome admits
  cases outcome with
  | admitted publicKey random cookie mac1 asks verified =>
    refine ⟨publicKey, random, cookie, mac1, asks, ?_⟩
    obtain ⟨bucket, good, tag⟩ := CookieKey.verify_iff.1 verified
    obtain ⟨earlier, sender, rest, publicKey', random', cookie', split, sends, string⟩ :=
      unforged before a after eq publicKey random cookie mac1 asks bucket good tag
    obtain ⟨endpoint, rfl, rfl, rfl⟩ := CookieKey.message_inj
      (CookieKey.Good.le sender.bounded (.inl rfl)) (CookieKey.Good.le a.bounded good) string
    have sent : cookie' = cookie := by
      rw [← sends.mint, ← tag, endpoint]
    exact ⟨earlier, sender, rest, split, endpoint, sent ▸ sends, good⟩
  | ignored => cases admits
  | challenged => cases admits

/-- As long as the HMAC does not collide on the strings at hand, a cookie verifies exactly for its
own endpoint and values, in its own bucket of a minute and the next. If none is forged, an
initiation is admitted only if its cookie was sent to its endpoint, for the same values and in that
time. -/
theorem cookies_where_and_when (P : Primitives) (key : CookieKey) :
    (∀ (e e' : SocketAddr) (publicKey publicKey' random random' : Bytes 32) (t t' : UInt64),
      Set.InjOn (P.hmac key.secret) ({CookieKey.message e publicKey random (t.toNat / 60)} ∪
          {string | ∃ bucket, CookieKey.Good t'.toNat bucket ∧
            CookieKey.message e' publicKey' random' bucket = string}) →
      (key.verify P e' publicKey' random' (key.mint P e publicKey random t.toNat) t'.toNat = true ↔
        e = e' ∧ publicKey = publicKey' ∧ random = random' ∧
          (t'.toNat / 60 = t.toNat / 60 ∨ t'.toNat / 60 = t.toNat / 60 + 1))) ∧
    ∀ (limiter : CookieChallengeLimiter) (calls : List Attempt), Unforged P key limiter calls →
      ∀ before a after, calls = before ++ a :: after →
        (challengeOrAdmit P key a.endpoint a.initiation (run (step P key) limiter before) a.clock).1 =
          true →
        ∃ publicKey random cookie mac1, a.initiation = .initiation publicKey random (some cookie) mac1 ∧
          ∃ earlier sender rest, before = earlier ++ sender :: rest ∧ sender.endpoint = a.endpoint ∧
            Sends P key (run (step P key) limiter earlier) sender publicKey random cookie ∧
            (a.clock.unix / 60 = sender.clock.unix / 60 ∨
              a.clock.unix / 60 = sender.clock.unix / 60 + 1) := by
  refine ⟨?_, ?_⟩
  · intro e e' publicKey publicKey' random random' t t' free
    have small : ∀ n : UInt64, n.toNat ≤ u64Max := fun n => Nat.le_pred_of_lt n.toNat_lt
    exact CookieKey.verify_mint_iff (small t) (small t') free (.inl rfl)
      (fun bucket good => .inr ⟨bucket, good, rfl⟩)
  · intro limiter calls unforged before a after eq admits
    exact admitted_sent unforged eq admits

section
open Primitives CookieKey

def asking : SocketAddr where
  ip := .v4 (Bytes.zero 4)
  port := 1000

def firstCall : Attempt where
  endpoint := asking
  initiation := .initiation (Bytes.zero 32) (Bytes.zero 32) none (Bytes.zero 16)
  clock := ⟨60, 0⟩
  delivered := true
  bounded := by decide

def secondCall : Attempt where
  endpoint := asking
  initiation := .initiation (Bytes.zero 32) (Bytes.zero 32)
    (some (mint transparent ⟨Bytes.zero 32⟩ asking (Bytes.zero 32) (Bytes.zero 32) 60)) (Bytes.zero 16)
  clock := ⟨119, fromSecs 59⟩
  delivered := true
  bounded := by decide

lemma distinct_buckets :
    transparent.hmac (Bytes.zero 32) (message asking (Bytes.zero 32) (Bytes.zero 32) 0) ≠
      transparent.hmac (Bytes.zero 32) (message asking (Bytes.zero 32) (Bytes.zero 32) 1) := by
  decide +kernel

lemma good_119 {bucket : Nat} (good : Good 119 bucket) : bucket = 1 ∨ bucket = 0 := by
  unfold Good at good
  omega

lemma injOn_buckets : Set.InjOn (transparent.hmac (Bytes.zero 32))
      ({message asking (Bytes.zero 32) (Bytes.zero 32) 1} ∪
        {string | ∃ bucket, Good 119 bucket ∧
          message asking (Bytes.zero 32) (Bytes.zero 32) bucket = string}) := by
  have strings : ∀ string, string ∈ ({message asking (Bytes.zero 32) (Bytes.zero 32) 1} ∪
      {string | ∃ bucket, Good 119 bucket ∧
        message asking (Bytes.zero 32) (Bytes.zero 32) bucket = string} : Set (List UInt8)) →
      string = message asking (Bytes.zero 32) (Bytes.zero 32) 1 ∨
        string = message asking (Bytes.zero 32) (Bytes.zero 32) 0 := by
    rintro string (rfl | ⟨bucket, good, rfl⟩)
    · exact .inl rfl
    · rcases good_119 good with rfl | rfl
      · exact .inl rfl
      · exact .inr rfl
  intro x hx y hy eq
  rcases strings x hx with rfl | rfl
  · rcases strings y hy with rfl | rfl
    · rfl
    · exact absurd eq.symm distinct_buckets
  · rcases strings y hy with rfl | rfl
    · exact absurd eq distinct_buckets
    · rfl

lemma firstCall_sends :
    firstCall.Sends transparent ⟨Bytes.zero 32⟩ .default (Bytes.zero 32) (Bytes.zero 32)
      (mint transparent ⟨Bytes.zero 32⟩ asking (Bytes.zero 32) (Bytes.zero 32) 60) :=
  ⟨⟨none, Bytes.zero 16, rfl⟩, by decide +kernel, rfl⟩

lemma unforged_calls : Unforged transparent ⟨Bytes.zero 32⟩ .default [firstCall, secondCall] := by
  intro before a after eq publicKey random cookie mac1 asks bucket good tag
  cases before with
  | nil =>
    obtain ⟨rfl, rfl⟩ := List.cons.inj eq
    cases asks
  | cons first before =>
    rw [List.cons_append, List.cons.injEq] at eq
    obtain ⟨rfl, eq⟩ := eq
    cases before with
    | nil =>
      obtain ⟨rfl, rfl⟩ := List.cons.inj eq
      cases asks
      rcases good_119 good with rfl | rfl
      · exact ⟨[], firstCall, [], _, _, _, rfl, firstCall_sends, rfl⟩
      · exact absurd tag distinct_buckets
    | cons second before => simp at eq

/-- The second call presents the cookie it got for the first. -/
theorem cookies_where_and_when_two_calls :
    verify transparent ⟨Bytes.zero 32⟩ asking (Bytes.zero 32) (Bytes.zero 32)
        (mint transparent ⟨Bytes.zero 32⟩ asking (Bytes.zero 32) (Bytes.zero 32) 60) 119 = true ∧
      ∃ publicKey random cookie mac1,
        secondCall.initiation = .initiation publicKey random (some cookie) mac1 ∧
        ∃ earlier sender rest, [firstCall] = earlier ++ sender :: rest ∧
          sender.endpoint = secondCall.endpoint ∧
          Sends transparent ⟨Bytes.zero 32⟩ (run (step transparent ⟨Bytes.zero 32⟩) .default earlier) sender
            publicKey random cookie ∧
          (119 / 60 = sender.clock.unix / 60 ∨ 119 / 60 = sender.clock.unix / 60 + 1) := by
  obtain ⟨valid, admitted⟩ := cookies_where_and_when transparent ⟨Bytes.zero 32⟩
  refine ⟨?_, ?_⟩
  · exact (valid asking asking _ _ _ _ 60 119 injOn_buckets).2 ⟨rfl, rfl, rfl, .inl rfl⟩
  · exact admitted .default [firstCall, secondCall] unforged_calls [firstCall] secondCall [] rfl
      (by decide +kernel)

end

end Attempt
end Server
end Rvpn
