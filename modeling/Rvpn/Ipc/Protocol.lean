import Rvpn.Core
import Rvpn.Lib.Decimal

/-!
# Control messages

Model of `crates/rvpn-ipc/src/protocol.rs`: the requests to the client daemon and its responses, each
as the text of one line with fields between tabs, and their reading. Fields after the last one that is
read are ignored, as in the source.
-/

namespace Rvpn.Ipc

/-- `IpcError`, without the errors of the operating system. -/
inductive IpcError where
  | malformed
  | closed
  deriving DecidableEq

/-- `ControlRequest`. -/
inductive ControlRequest where
  | connect (configPath : String)
  | disconnect
  | status
  | ping
  deriving DecidableEq

/-- What `Status` reports. -/
structure StatusSnapshot where
  connected : Bool
  server : String
  sessionId : String
  uptimeSecs : UInt64
  keyPhase : UInt32
  bytesTx : UInt64
  bytesRx : UInt64
  packetsTx : UInt64
  packetsRx : UInt64
  effectiveMtu : UInt64
  mtuState : String
  mtuChanges : UInt64
  sendErrors : UInt64
  droppedOversized : UInt64
  droppedBackpressure : UInt64
  keepalivesSent : UInt64
  deriving DecidableEq

/-- `ControlResponse`. -/
inductive ControlResponse where
  | ok
  | err (message : String)
  | status (snapshot : StatusSnapshot)
  | pong
  deriving DecidableEq

/-- `non_empty`. -/
def nonEmpty (value : String) : List Char :=
  if value = "" then ['-'] else value.toList

def opt (value : List Char) : String :=
  if value = ['-'] then "" else String.ofList value

def boolText (b : Bool) : List Char :=
  if b then "true".toList else "false".toList

def parseBool (field : List Char) : Except IpcError Bool :=
  if field = "true".toList then .ok true
  else if field = "false".toList then .ok false
  else .error .malformed

def parseU64 (field : List Char) : Except IpcError UInt64 :=
  match Decimal.parseNat 18446744073709551615 field with
  | some n => .ok (UInt64.ofNat n)
  | none => .error .malformed

def parseU32 (field : List Char) : Except IpcError UInt32 :=
  match Decimal.parseNat 4294967295 field with
  | some n => .ok (UInt32.ofNat n)
  | none => .error .malformed

/-- `splitn(2, separator)`: the texts around the first separator. -/
def splitOnce (separator : Char) (text : List Char) : List Char × Option (List Char) :=
  match text.dropWhile (· != separator) with
  | [] => (text, none)
  | _ :: rest => (text.takeWhile (· != separator), some rest)

namespace ControlRequest

/-- `ControlRequest::encode`. -/
def encode : ControlRequest → String
  | .connect configPath => "CONNECT\t" ++ configPath
  | .disconnect => "DISCONNECT"
  | .status => "STATUS"
  | .ping => "PING"

/-- `ControlRequest::decode`. -/
def decode (line : String) : Except IpcError ControlRequest :=
  let (command, rest) := splitOnce '\t' line.toList
  match String.ofList command with
  | "CONNECT" =>
    match rest with
    | some configPath => .ok (.connect (String.ofList configPath))
    | none => .error .malformed
  | "DISCONNECT" => .ok .disconnect
  | "STATUS" => .ok .status
  | "PING" => .ok .ping
  | _ => .error .malformed

end ControlRequest

/-- The fields of a status line after the command. -/
def StatusSnapshot.fields (s : StatusSnapshot) : List (List Char) :=
  [boolText s.connected, nonEmpty s.server, nonEmpty s.sessionId, Decimal.text s.uptimeSecs.toNat,
    Decimal.text s.keyPhase.toNat, Decimal.text s.bytesTx.toNat, Decimal.text s.bytesRx.toNat,
    Decimal.text s.packetsTx.toNat, Decimal.text s.packetsRx.toNat,
    Decimal.text s.effectiveMtu.toNat, nonEmpty s.mtuState, Decimal.text s.mtuChanges.toNat,
    Decimal.text s.sendErrors.toNat, Decimal.text s.droppedOversized.toNat,
    Decimal.text s.droppedBackpressure.toNat, Decimal.text s.keepalivesSent.toNat]

def StatusSnapshot.ofFields : List (List Char) → Except IpcError StatusSnapshot
  | connected :: server :: sessionId :: uptime :: phase :: btx :: brx :: ptx :: prx :: mtu ::
      mtuState :: mtuChanges :: sendErrors :: droppedOversized :: droppedBackpressure ::
      keepalives :: _ => do
    let connected ← parseBool connected
    let uptimeSecs ← parseU64 uptime
    let keyPhase ← parseU32 phase
    let bytesTx ← parseU64 btx
    let bytesRx ← parseU64 brx
    let packetsTx ← parseU64 ptx
    let packetsRx ← parseU64 prx
    let effectiveMtu ← parseU64 mtu
    let mtuChanges ← parseU64 mtuChanges
    let sendErrors ← parseU64 sendErrors
    let droppedOversized ← parseU64 droppedOversized
    let droppedBackpressure ← parseU64 droppedBackpressure
    let keepalivesSent ← parseU64 keepalives
    return {
      connected := connected
      server := opt server
      sessionId := opt sessionId
      uptimeSecs := uptimeSecs
      keyPhase := keyPhase
      bytesTx := bytesTx
      bytesRx := bytesRx
      packetsTx := packetsTx
      packetsRx := packetsRx
      effectiveMtu := effectiveMtu
      mtuState := opt mtuState
      mtuChanges := mtuChanges
      sendErrors := sendErrors
      droppedOversized := droppedOversized
      droppedBackpressure := droppedBackpressure
      keepalivesSent := keepalivesSent }
  | _ => .error .malformed

namespace ControlResponse

def oneField (message : String) : List Char :=
  message.toList.map fun c => if c = '\n' ∨ c = '\t' then ' ' else c

/-- `ControlResponse::encode`. -/
def encode : ControlResponse → String
  | .ok => "OK"
  | .pong => "PONG"
  | .err message => String.ofList ("ERR\t".toList ++ oneField message)
  | .status s => String.ofList (['\t'].intercalate ("STATUS".toList :: s.fields))

/-- `ControlResponse::decode`. -/
def decode (line : String) : Except IpcError ControlResponse :=
  match line.toList.splitOn '\t' with
  | [] => .error .malformed
  | command :: fields =>
    match String.ofList command with
    | "OK" => .ok .ok
    | "PONG" => .ok .pong
    | "ERR" => .ok (.err (String.ofList (fields.headD [])))
    | "STATUS" => do
      let s ← StatusSnapshot.ofFields fields
      return .status s
    | _ => .error .malformed

end ControlResponse

/-! ### Round trips -/

lemma opt_nonEmpty {value : String} (other : value ≠ "-") : opt (nonEmpty value) = value := by
  unfold opt nonEmpty
  split
  · next empty => simp [empty]
  · next full =>
    have plain : value.toList ≠ ['-'] := by
      intro same
      exact other (String.toList_inj.1 same)
    rw [if_neg plain, String.ofList_toList]

lemma parseBool_boolText (b : Bool) : parseBool (boolText b) = .ok b := by
  cases b with
  | true => rfl
  | false => rfl

lemma parseU64_text (n : UInt64) : parseU64 (Decimal.text n.toNat) = .ok n := by
  have bound : n.toNat ≤ 18446744073709551615 := Nat.le_of_lt_succ n.toNat_lt
  rw [parseU64, ← Decimal.padded_zero, Decimal.parseNat_padded bound]
  simp

lemma parseU32_text (n : UInt32) : parseU32 (Decimal.text n.toNat) = .ok n := by
  have bound : n.toNat ≤ 4294967295 := Nat.le_of_lt_succ n.toNat_lt
  rw [parseU32, ← Decimal.padded_zero, Decimal.parseNat_padded bound]
  simp

lemma splitOnce_append {before : List Char} {separator : Char} (plain : separator ∉ before)
    (after : List Char) :
    splitOnce separator (before ++ separator :: after) = (before, some after) := by
  have all : ∀ c ∈ before, (c != separator) = true := by
    intro c listed
    rw [bne_iff_ne]
    rintro rfl
    exact plain listed
  rw [splitOnce, List.dropWhile_append_of_pos all, List.takeWhile_append_of_pos all]
  simp

lemma ControlRequest.decode_encode (request : ControlRequest) :
    decode request.encode = .ok request := by
  cases request with
  | connect configPath =>
    have line : (encode (.connect configPath)).toList = "CONNECT".toList ++ '\t' :: configPath.toList := by
      simp [encode]
    rw [decode, line, splitOnce_append (by decide)]
    simp
  | disconnect => rfl
  | status => rfl
  | ping => rfl

/-- What a line can carry: no tab or newline, no single `-` as status. -/
def ControlResponse.Plain : ControlResponse → Prop
  | .err message => '\t' ∉ message.toList ∧ '\n' ∉ message.toList
  | .status s => ∀ value ∈ [s.server, s.sessionId, s.mtuState],
      '\t' ∉ value.toList ∧ '\n' ∉ value.toList ∧ value ≠ "-"
  | _ => True

lemma notMem_text {c : Char} (other : c.isDigit = false) (n : Nat) : c ∉ Decimal.text n := by
  rw [← Decimal.padded_zero]
  intro listed
  rw [Decimal.isDigit_of_mem_padded listed] at other
  cases other

lemma notMem_nonEmpty {c : Char} {value : String} (other : c ≠ '-') (plain : c ∉ value.toList) :
    c ∉ nonEmpty value := by
  unfold nonEmpty
  split
  · simpa using other
  · exact plain

lemma StatusSnapshot.notMem_fields {s : StatusSnapshot} {c : Char} (control : c = '\t' ∨ c = '\n')
    (plain : ∀ value ∈ [s.server, s.sessionId, s.mtuState], c ∉ value.toList) :
    ∀ field ∈ s.fields, c ∉ field := by
  have digit : c.isDigit = false := by
    rcases control with rfl | rfl
    · rfl
    · rfl
  have dash : c ≠ '-' := by
    rcases control with rfl | rfl
    · decide
    · decide
  have bool : c ∉ boolText s.connected := by
    cases s.connected with
    | true => rcases control with rfl | rfl <;> decide
    | false => rcases control with rfl | rfl <;> decide
  simp only [List.forall_mem_cons, List.not_mem_nil, false_implies, implies_true, and_true] at plain
  obtain ⟨server, sessionId, mtuState⟩ := plain
  simp only [fields, List.forall_mem_cons, List.not_mem_nil, false_implies, implies_true, and_true]
  exact ⟨bool, notMem_nonEmpty dash server, notMem_nonEmpty dash sessionId, notMem_text digit _,
    notMem_text digit _, notMem_text digit _, notMem_text digit _, notMem_text digit _,
    notMem_text digit _, notMem_text digit _, notMem_nonEmpty dash mtuState, notMem_text digit _,
    notMem_text digit _, notMem_text digit _, notMem_text digit _, notMem_text digit _⟩

lemma StatusSnapshot.ofFields_fields {s : StatusSnapshot}
    (plain : ∀ value ∈ [s.server, s.sessionId, s.mtuState], value ≠ "-") :
    ofFields s.fields = .ok s := by
  simp only [List.forall_mem_cons, List.not_mem_nil, false_implies, implies_true, and_true] at plain
  obtain ⟨server, sessionId, mtuState⟩ := plain
  simp only [fields, ofFields, parseBool_boolText, parseU64_text, parseU32_text, opt_nonEmpty server,
    opt_nonEmpty sessionId, opt_nonEmpty mtuState]
  rfl

lemma oneField_plain {message : String} (tab : '\t' ∉ message.toList)
    (newline : '\n' ∉ message.toList) : ControlResponse.oneField message = message.toList := by
  have kept : ∀ c ∈ message.toList, (if c = '\n' ∨ c = '\t' then ' ' else c) = c := by
    intro c listed
    refine if_neg ?_
    rintro (rfl | rfl)
    · exact newline listed
    · exact tab listed
  rw [ControlResponse.oneField, List.map_congr_left kept, List.map_id']

lemma ControlResponse.decode_encode {response : ControlResponse} (plain : response.Plain) :
    decode response.encode = .ok response := by
  cases response with
  | ok => rfl
  | pong => rfl
  | err message =>
    have line : (encode (.err message)).toList = "ERR".toList ++ '\t' :: message.toList := by
      simp [encode, oneField_plain plain.1 plain.2]
    rw [decode, line, List.splitOn_append_cons_self_of_not_mem (by decide),
      List.splitOn_eq_singleton plain.1]
    simp
  | status s =>
    have fields : ∀ field ∈ "STATUS".toList :: s.fields, '\t' ∉ field := by
      rw [List.forall_mem_cons]
      refine ⟨by decide, StatusSnapshot.notMem_fields (.inl rfl) ?_⟩
      exact fun value listed => (plain value listed).1
    rw [decode, encode, String.toList_ofList, List.splitOn_intercalate '\t' fields (by simp)]
    simp only [String.ofList_toList,
      StatusSnapshot.ofFields_fields fun value listed => (plain value listed).2.2]
    rfl

/-! ### Lines -/

lemma ControlRequest.newline_notMem_encode {request : ControlRequest}
    (plain : ∀ configPath, request = .connect configPath → '\n' ∉ configPath.toList) :
    '\n' ∉ request.encode.toList := by
  cases request with
  | connect configPath =>
    have path := plain configPath rfl
    rw [encode, String.toList_append, List.mem_append, not_or]
    exact ⟨by decide, path⟩
  | disconnect => decide
  | status => decide
  | ping => decide

lemma notMem_intercalate {c separator : Char} (other : c ≠ separator) {fields : List (List Char)}
    (plain : ∀ field ∈ fields, c ∉ field) : c ∉ [separator].intercalate fields := by
  induction fields with
  | nil => simp
  | cons field fields ih =>
    obtain ⟨here, later⟩ := List.forall_mem_cons.1 plain
    cases fields with
    | nil => simpa using here
    | cons next rest =>
      rw [List.intercalate_cons_cons, List.mem_append, List.mem_append, not_or, not_or]
      refine ⟨⟨here, ?_⟩, ih later⟩
      simpa using other

lemma ControlResponse.newline_notMem_encode {response : ControlResponse} (plain : response.Plain) :
    '\n' ∉ response.encode.toList := by
  cases response with
  | ok => decide
  | pong => decide
  | err message =>
    rw [encode, String.toList_ofList, oneField_plain plain.1 plain.2, List.mem_append, not_or]
    exact ⟨by decide, plain.2⟩
  | status s =>
    rw [encode, String.toList_ofList]
    apply notMem_intercalate (by decide)
    rw [List.forall_mem_cons]
    refine ⟨by decide, StatusSnapshot.notMem_fields (.inr rfl) ?_⟩
    exact fun value listed => (plain value listed).2.1

end Rvpn.Ipc
