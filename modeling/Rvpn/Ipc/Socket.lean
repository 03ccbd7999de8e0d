import Mathlib.Logic.Function.Iterate
import Rvpn.Ipc.Protocol
import Rvpn.Lib.Utf8

/-!
# The control socket

Model of the framing in `crates/rvpn-ipc/src/socket.rs`: one line for each message. What the stream
delivers is given as the chunks that the reads return, each of 1 to 512 bytes, and the end of the
stream after them. `turn` is one turn of the loop in `read_line`. At every turn the buffer and what is
still to be read make up the rest of the stream.
-/

namespace Rvpn.Ipc

/-- `MAX_CONTROL_MESSAGE`. -/
def maxControlMessage : Nat := 64 * 1024

/-- What one read of the stream returns. -/
structure Chunk where
  bytes : List UInt8
  nonempty : bytes ≠ []
  short : bytes.length ≤ 512

/-- `Connection`: what its stream has yet to deliver, and its buffer. -/
structure Connection where
  incoming : List Chunk
  buf : List UInt8

/-- `append_bounded`. -/
def appendBounded (buf chunk : List UInt8) : Except IpcError (List UInt8) :=
  if buf.length + chunk.length > maxControlMessage then .error .malformed else .ok (buf ++ chunk)

/-- `String::from_utf8` for a line. -/
def lineText (line : List UInt8) : Except IpcError (Option String) :=
  match fromUtf8 line with
  | some text => .ok (some text)
  | none => .error .malformed

inductive Turn where
  | returned (result : Except IpcError (Option String))
  | again

namespace Connection

/-- One turn of the loop in `read_line`. -/
def turn (c : Connection) : Turn × Connection :=
  match c.buf.findIdx? (· == 10) with
  | some pos => (.returned (lineText (c.buf.take (pos + 1)).dropLast), { c with buf := c.buf.drop (pos + 1) })
  | none =>
    match c.incoming with
    | [] => (.returned (if c.buf.isEmpty then .ok none else .error .malformed), c)
    | chunk :: incoming =>
      match appendBounded c.buf chunk.bytes with
      | .error e => (.returned (.error e), { c with incoming := incoming })
      | .ok buf => (.again, { incoming := incoming, buf := buf })

lemma turn_again {c c' : Connection} (h : c.turn = (.again, c')) :
    c'.incoming.length < c.incoming.length := by
  unfold turn at h
  split at h
  · cases h
  · split at h
    · cases h
    · next eq =>
      split at h
      · cases h
      · cases h
        simp [eq]

/-- `Connection::read_line`. -/
def readLine (c : Connection) : Except IpcError (Option String) × Connection :=
  match _h : c.turn with
  | (.returned result, c') => (result, c')
  | (.again, c') => readLine c'
termination_by c.incoming.length
decreasing_by exact turn_again _h

/-- `Connection::read_request`. -/
def readRequest (c : Connection) : Except IpcError (Option ControlRequest) × Connection :=
  match c.readLine with
  | (.error e, c) => (.error e, c)
  | (.ok none, c) => (.ok none, c)
  | (.ok (some line), c) => ((ControlRequest.decode line).map some, c)

/-- `Connection::read_response`. -/
def readResponse (c : Connection) : Except IpcError ControlResponse × Connection :=
  match c.readLine with
  | (.error e, c) => (.error e, c)
  | (.ok none, c) => (.error .closed, c)
  | (.ok (some line), c) => (ControlResponse.decode line, c)

end Connection

/-- `write_line`, with what was written so far. -/
def writeLine (written : List UInt8) (line : String) : List UInt8 :=
  written ++ (utf8 line ++ [10])

/-- `Connection::write_request`. -/
def writeRequest (written : List UInt8) (request : ControlRequest) : List UInt8 :=
  writeLine written request.encode

/-- `Connection::write_response`. -/
def writeResponse (written : List UInt8) (response : ControlResponse) : List UInt8 :=
  writeLine written response.encode

/-- Calls one after the other. -/
def calls {α : Type} (read : Connection → α × Connection) : Nat → Connection → List α
  | 0, _ => []
  | n + 1, c => (read c).1 :: calls read n (read c).2

namespace Connection

/-- `Connection::new`. -/
def new (incoming : List Chunk) : Connection where
  incoming := incoming
  buf := []

def rest (c : Connection) : List UInt8 :=
  c.buf ++ c.incoming.flatMap Chunk.bytes

/-! ### Reading one line -/

lemma findIdx?_newline {bytes : List UInt8} (plain : 10 ∉ bytes) :
    bytes.findIdx? (· == 10) = none := by
  rw [List.findIdx?_eq_none_iff]
  intro b listed
  rw [beq_eq_false_iff_ne]
  rintro rfl
  exact plain listed

lemma readLine_of_returned {c c' : Connection} {result : Except IpcError (Option String)}
    (h : c.turn = (.returned result, c')) : c.readLine = (result, c') := by
  rw [readLine]
  split
  · next eq =>
    rw [h] at eq
    cases eq
    rfl
  · next eq =>
    rw [h] at eq
    cases eq

lemma readLine_of_again {c c' : Connection} (h : c.turn = (.again, c')) :
    c.readLine = c'.readLine := by
  rw [readLine]
  split
  · next eq =>
    rw [h] at eq
    cases eq
  · next eq =>
    rw [h] at eq
    cases eq
    rfl

variable {c : Connection}

variable {line rest buf : List UInt8}

lemma turn_line (plain : 10 ∉ line) (whole : c.buf = line ++ 10 :: rest) :
    c.turn = (.returned (lineText line), { c with buf := rest }) := by
  have none : line.findIdx? (· == 10) = none := findIdx?_newline plain
  have found : c.buf.findIdx? (· == 10) = some line.length := by
    simp [whole, List.findIdx?_append, none, List.findIdx?_cons]
  simp only [turn, found]
  rw [whole, List.take_length_add_append]
  simp

lemma turn_chunk {chunk : Chunk} {incoming : List Chunk} (plain : 10 ∉ buf)
    (room : buf.length + 512 ≤ maxControlMessage) :
    turn ⟨chunk :: incoming, buf⟩ = (.again, ⟨incoming, buf ++ chunk.bytes⟩) := by
  have fits : ¬ buf.length + chunk.bytes.length > maxControlMessage := by
    have short := chunk.short
    omega
  simp only [turn, findIdx?_newline plain, appendBounded, if_neg fits]

/-- A buffer at the start of a stream is part of the first line, or all of it. -/
lemma buffer_cases {later : List UInt8} (plain : 10 ∉ line)
    (stream : buf ++ later = line ++ 10 :: rest) : (10 ∉ buf ∧ buf.length ≤ line.length) ∨
      ∃ more, buf = line ++ 10 :: more ∧ more ++ later = rest := by
  rcases List.append_eq_append_iff.1 stream with ⟨more, rfl, _⟩ | ⟨more, rfl, left⟩
  · left
    refine ⟨fun mem => plain (List.mem_append_left _ mem), ?_⟩
    rw [List.length_append]
    omega
  · cases more with
    | nil =>
      left
      rw [List.append_nil]
      exact ⟨plain, Nat.le_refl _⟩
    | cons b more =>
      obtain ⟨rfl, rfl⟩ := List.cons.inj left
      exact .inr ⟨more, rfl, rfl⟩

lemma readLine_line (plain : 10 ∉ line) (short : line.length + 512 ≤ maxControlMessage)
    (stream : c.rest = line ++ 10 :: rest) :
    ∃ c', c.readLine = (lineText line, c') ∧ c'.rest = rest := by
  obtain ⟨incoming, buf⟩ := c
  induction incoming generalizing buf with
  | nil =>
    -- nothing is to come: the line is in the buffer
    have whole : buf = line ++ 10 :: rest := by simpa [Connection.rest] using stream
    exact ⟨_, readLine_of_returned (turn_line plain whole), by simp [Connection.rest]⟩
  | cons chunk incoming ih =>
    rcases buffer_cases plain stream with ⟨noNewline, part⟩ | ⟨more, whole, left⟩
    · have room : buf.length + 512 ≤ maxControlMessage := (Nat.add_le_add_right part 512).trans short
      rw [readLine_of_again (turn_chunk noNewline room)]
      apply ih
      rw [← stream]
      simp [Connection.rest]
    · exact ⟨_, readLine_of_returned (turn_line plain whole), left⟩

lemma readLine_end (stream : c.rest = []) : c.readLine = (.ok none, c) := by
  obtain ⟨incoming, buf⟩ := c
  obtain ⟨empty, ending⟩ := List.append_eq_nil_iff.1 stream
  have empty : buf = [] := empty
  subst empty
  cases incoming with
  | nil => exact readLine_of_returned rfl
  | cons chunk incoming =>
    obtain ⟨none, _⟩ := List.append_eq_nil_iff.1 ending
    exact absurd none chunk.nonempty

/-! ### Reading all messages -/

lemma foldl_writeLine {μ : Type} (encode : μ → String) (messages : List μ) (written : List UInt8) :
    messages.foldl (fun written m => writeLine written (encode m)) written =
      written ++ messages.flatMap fun m => utf8 (encode m) ++ [10] := by
  induction messages generalizing written with
  | nil => simp
  | cons m messages ih =>
    rw [List.foldl_cons, ih, writeLine, List.flatMap_cons, List.append_assoc]

lemma newline_notMem_utf8 {text : String} (plain : '\n' ∉ text.toList) : 10 ∉ utf8 text := by
  intro mem
  exact plain (ascii_of_mem_utf8 (by decide) mem)

lemma calls_end {α : Type} {read : Connection → α × Connection} {ending : α}
    (ends : ∀ c, c.readLine = (.ok none, c) → read c = (ending, c)) (stream : c.rest = []) (n : Nat) :
    calls read n c = List.replicate n ending := by
  induction n with
  | zero => rfl
  | succ n ih => rw [calls, ends c (readLine_end stream), ih, List.replicate_succ]

/-- Successive calls return the messages written, then the end. -/
lemma calls_framed {α μ : Type} {read : Connection → α × Connection} (encode : μ → String)
    {value : μ → α} {ending : α} {messages : List μ}
    (reads : ∀ m ∈ messages, ∀ c c' : Connection, c.readLine = (.ok (some (encode m)), c') →
      read c = (value m, c')) (ends : ∀ c, c.readLine = (.ok none, c) → read c = (ending, c))
    (lines : ∀ m ∈ messages, '\n' ∉ (encode m).toList ∧ (utf8 (encode m)).length ≤ 65024) (after : Nat)
    (stream : c.rest = messages.foldl (fun written m => writeLine written (encode m)) []) :
    calls read (messages.length + after) c = messages.map value ++ List.replicate after ending := by
  rw [foldl_writeLine, List.nil_append] at stream
  induction messages generalizing c with
  | nil =>
    rw [List.length_nil, Nat.zero_add, calls_end ends stream]
    rfl
  | cons m messages ih =>
    obtain ⟨reads, later⟩ := List.forall_mem_cons.1 reads
    obtain ⟨⟨plain, short⟩, lines⟩ := List.forall_mem_cons.1 lines
    have first : c.rest = utf8 (encode m) ++ 10 :: messages.flatMap fun m => utf8 (encode m) ++ [10] := by
      rw [stream]
      simp
    obtain ⟨c', line, left⟩ := readLine_line (newline_notMem_utf8 plain)
      (show (utf8 (encode m)).length + 512 ≤ 65536 by omega) first
    rw [lineText, fromUtf8_utf8] at line
    rw [List.length_cons, Nat.succ_add_eq_add_succ, Nat.add_succ, calls, reads c c' line,
      ih later lines left]
    rfl

/-! ### The size of the buffer -/

lemma appendBounded_ok {chunk buf' : List UInt8} (ok : appendBounded buf chunk = .ok buf') :
    buf'.length ≤ maxControlMessage := by
  unfold appendBounded at ok
  split at ok
  · cases ok
  · next fits =>
    cases ok
    rw [List.length_append]
    exact Nat.le_of_not_lt fits

lemma length_buf_turn (small : c.buf.length ≤ maxControlMessage) :
    c.turn.2.buf.length ≤ maxControlMessage := by
  unfold turn
  split
  · rw [List.length_drop]
    omega
  · split
    · exact small
    · split
      · exact small
      · next ok => exact appendBounded_ok ok

def turns (n : Nat) (c : Connection) : Connection :=
  (fun c : Connection => c.turn.2)^[n] c

lemma readLine_turns (c : Connection) : ∃ n, c.readLine.2 = turns n c := by
  fun_induction readLine c with
  | case1 c result c' h =>
    refine ⟨1, ?_⟩
    rw [turns, Function.iterate_one, h]
  | case2 c c' h ih =>
    obtain ⟨n, eq⟩ := ih
    refine ⟨n + 1, ?_⟩
    rw [eq, turns, turns, Function.iterate_succ_apply, h]

lemma length_buf_turns (incoming : List Chunk) (n : Nat) :
    (turns n (new incoming)).buf.length ≤ maxControlMessage := by
  induction n with
  | zero => exact Nat.zero_le _
  | succ n ih =>
    rw [turns, Function.iterate_succ_apply']
    exact length_buf_turn ih

/-- Successive calls return what was written, in order and then the end, however the stream is split
into reads; the buffer keeps its limit. -/
theorem framing_independent_of_chunks :
    (∀ (requests : List ControlRequest) (incoming : List Chunk) (after : Nat),
      (∀ request ∈ requests, (utf8 request.encode).length ≤ 65024 ∧
        ∀ configPath, request = .connect configPath → '\n' ∉ configPath.toList) →
      incoming.flatMap Chunk.bytes = requests.foldl writeRequest [] →
      calls readRequest (requests.length + after) (new incoming) =
        requests.map (fun request => .ok (some request)) ++ List.replicate after (.ok none)) ∧
    (∀ (responses : List ControlResponse) (incoming : List Chunk) (after : Nat),
      (∀ response ∈ responses, (utf8 response.encode).length ≤ 65024 ∧ response.Plain) →
      incoming.flatMap Chunk.bytes = responses.foldl writeResponse [] →
      calls readResponse (responses.length + after) (new incoming) =
        responses.map .ok ++ List.replicate after (.error .closed)) ∧
    (∀ (incoming : List Chunk) (n : Nat), (turns n (new incoming)).buf.length ≤ maxControlMessage) ∧
    ∀ c : Connection, ∃ n, c.readLine.2 = turns n c := by
  refine ⟨?_, ?_, length_buf_turns, readLine_turns⟩
  · intro requests incoming after lines stream
    refine calls_framed ControlRequest.encode ?_ ?_ ?_ after stream
    · intro request listed c c' line
      rw [readRequest, line]
      simp only [ControlRequest.decode_encode]
      rfl
    · intro c line
      rw [readRequest, line]
    · intro request listed
      obtain ⟨short, plain⟩ := lines request listed
      exact ⟨ControlRequest.newline_notMem_encode plain, short⟩
  · intro responses incoming after lines stream
    refine calls_framed ControlResponse.encode ?_ ?_ ?_ after stream
    · intro response listed c c' line
      rw [readResponse, line]
      simp only [ControlResponse.decode_encode (lines response listed).2]
    · intro c line
      rw [readResponse, line]
    · intro response listed
      obtain ⟨short, plain⟩ := lines response listed
      exact ⟨ControlResponse.newline_notMem_encode plain, short⟩

def byteChunk (b : UInt8) : Chunk :=
  ⟨[b], List.cons_ne_nil b [], Nat.le_add_left 1 511⟩

/-- Every byte is a read of its own; one character spans two reads. -/
theorem framing_of_single_bytes : let requests : List ControlRequest := [.connect "/é", .ping]
    calls readRequest 3 (new ((requests.foldl writeRequest []).map byteChunk)) =
      [.ok (some (.connect "/é")), .ok (some .ping), .ok none] := by
  intro requests
  refine framing_independent_of_chunks.1 requests _ 1 ?_ ?_
  · rw [List.forall_mem_cons, List.forall_mem_singleton]
    refine ⟨⟨by decide, ?_⟩, by decide, ?_⟩
    · intro configPath is
      cases is
      decide
    · intro configPath is
      cases is
  · simp [List.flatMap_map, byteChunk]

end Connection
end Rvpn.Ipc
