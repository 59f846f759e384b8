import SurfaceBridge.Proofs.Json.RoundTrip
import SurfaceBridge.Proofs.Rpc.Queueing
import SurfaceBridge.Proofs.Rpc.Replying
import SurfaceBridge.Protocol.ClientNotification
import SurfaceBridge.Rpc.Client

set_option autoImplicit false

/-! # Frames that are read back

What a client queues is read by somebody else. A frame is an object of plain members, so its text
is read back to this object (`read_text`), and what kind of message it is shows in its members,
whatever their order. `read_of_calls` says of any sequence of calls of one client that the messages
that are read are those that were sent.
-/

namespace SurfaceBridge

open Json (Plain)

/-- The depth to which lists and objects may be nested in the members of a frame, which is an
object itself. -/
def Rpc.memberDepth : Nat := Json.depthLimit - 1

namespace Rpc

/-! ## Calls of a client -/

/-- What is asked of a client: to send a notification or a request, or to answer a request. -/
inductive Call where
  | notify (method : String) (params : Json)
  | request (method : String) (params : Json)
  | respond (id result : Json)
  | fail (id : Json) (code : Int) (message : String)

namespace Call

/-- Whether a call uses up a number. -/
def isRequest : Call → Bool
  | request _ _ => true
  | _ => false

/-- The frame of a call. `n` is the number of the next request. -/
def frame (n : Nat) : Call → Frame
  | notify method params => .notification method params
  | request method params => .request n method params
  | respond id result => .result id result
  | fail id code message => .failure id code message

/-- The message that a call sends. -/
def message (n : Nat) : Call → Message
  | notify method params => .notification method params
  | request method params => .request (.natural n) method params
  | respond id result => .response id (some result) none
  | fail id code message => .response id none (some ⟨code, message, none⟩)

/-- What a call returns: the number of a request. -/
def returned (n : Nat) : Call → Option Nat
  | request _ _ => some n
  | _ => none

/-- A call whose frame is plain and not too deep to be read. An answer has an id, and an error
has a code of 64 bits. -/
inductive Sendable : Call → Prop where
  | notify {method : String} {params : Json} (plain : Plain memberDepth params) :
      Sendable (.notify method params)
  | request {method : String} {params : Json} (plain : Plain memberDepth params) :
      Sendable (.request method params)
  | respond {id result : Json} (named : id ≠ .null) (plainId : Plain memberDepth id)
      (plain : Plain memberDepth result) : Sendable (.respond id result)
  | fail {id : Json} {code : Int} {message : String} (named : id ≠ .null)
      (plainId : Plain memberDepth id) (low : -9223372036854775808 ≤ code)
      (high : code ≤ 9223372036854775807) : Sendable (.fail id code message)

end Call

/-! ## One frame -/

namespace Frame

/-- A frame with plain members is read back as the object that it is. -/
theorem read_text {f : Frame} (plain : ∀ m ∈ f.members, Plain memberDepth m.2) :
    Json.read f.text = .ok f.toJson := by
  refine Json.read_render (Json.plain_ofList fun m hm => ?_)
  rcases List.mem_cons.1 hm with rfl | hm
  · exact .text "2.0"
  · exact plain m hm

theorem message_read_text {f : Frame} (plain : ∀ m ∈ f.members, Plain memberDepth m.2) :
    Message.read f.text = Message.ofJson f.toJson := by
  rw [Message.read, read_text plain]

end Frame

namespace Message

theorem ofJson_toJson (f : Frame) :
    ofJson f.toJson
      = match f.toJson.get? "method", (f.toJson.get? "id").filter fun i => !i.isNull with
        | some (.text method), some id =>
          .ok (.request id method ((f.toJson.get? "params").getD .null))
        | some (.text method), none =>
          .ok (.notification method ((f.toJson.get? "params").getD .null))
        | some _, _ => .error .methodNotText
        | none, some id => ofResponse id f.toJson
        | none, none => .error .neitherIdNorMethod := rfl

theorem filter_not_isNull {id : Json} (h : id ≠ .null) :
    (some id).filter (fun i => !i.isNull) = some id := by
  cases id with
  | null => exact absurd rfl h
  | _ => rfl

theorem decode_error {code : Int} (message : String) (low : -9223372036854775808 ≤ code)
    (high : code ≤ 9223372036854775807) :
    ResponseError.schema.decoder.fromValue
        (.object [("code", .integer code), ("message", .text message)])
      = .ok ⟨code, message, none⟩ := by
  have hcode : (Json.Decoder.integer "i64" (-9223372036854775808) 9223372036854775807).fromValue
      (.integer code) = .ok code := by
    simp [Json.Decoder.integer, Json.Decoder.ofNumber, Json.integer, low, high]
  simp [Json.Schema.decoder, Json.Schema.take, Json.Schema.takeMembers, ResponseError.schema,
    Json.Field.ofDecoder, hcode, Except.map, Json.Decoder.text]

end Message

/-- The frame of a call is read as the message that the call sends. -/
theorem Call.Sendable.read_frame {call : Call} (sendable : call.Sendable) {n : Nat}
    (fits : n ≤ Counter.limit64) : Message.read (call.frame n).text = .ok (call.message n) := by
  cases sendable with
  | @notify method params plain =>
      rw [frame, Frame.message_read_text, Message.ofJson_toJson]
      · simp [Frame.get?_notification, message]
      · simp [Frame.members, Json.Plain.text, plain]
  | @request method params plain =>
      have hnumber : Plain memberDepth (.natural n) := by
        refine .integer ?_ ?_
        · simp only [Json.leastInteger]
          omega
        · simp only [Json.integerLimit, Counter.limit64] at fits ⊢
          omega
      rw [frame, Frame.message_read_text, Message.ofJson_toJson]
      · simp [Frame.get?_request, Message.filter_not_isNull, Json.natural, message]
      · simp [Frame.members, Json.Plain.text, plain, hnumber]
  | @respond id result named plainId plain =>
      rw [frame, Frame.message_read_text, Message.ofJson_toJson]
      · simp [Frame.get?_result, Message.filter_not_isNull named, Message.ofResponse, message]
      · simp [Frame.members, plainId, plain]
  | @fail id code reason named plainId low high =>
      have herror : Plain memberDepth
          (.object [("code", .integer code), ("message", .text reason)]) := by
        refine Json.plain_pair (by decide) (.integer low ?_) (.text reason)
        simp only [Json.integerLimit]
        omega
      rw [frame, Frame.message_read_text, Message.ofJson_toJson]
      · simp [Frame.get?_failure, Message.filter_not_isNull named, Message.ofResponse, message,
          Message.decode_error reason low high]
      · simp [Frame.members, plainId, herror]

/-! ## Many frames -/

/-- How many of the next `k` frames a line accepts. -/
def Line.allowance (k : Nat) (line : Line) : Nat :=
  match line.room with
  | none => k
  | some room => min k room

namespace Lines

/-- How many of the next `k` frames are accepted on line `l`. -/
def allowance (l k : Nat) (lines : Lines) : Nat :=
  match lines[l]? with
  | none => 0
  | some line => line.allowance k

theorem allowance_eq {l : Nat} {lines : Lines} {line : Line} (h : lines[l]? = some line)
    (k : Nat) : lines.allowance l k = line.allowance k := by
  simp [allowance, h]

theorem allowance_le (l k : Nat) (lines : Lines) : lines.allowance l k ≤ k := by
  unfold allowance
  cases lines[l]? with
  | none => exact Nat.zero_le k
  | some line =>
      dsimp only [Line.allowance]
      split
      · exact Nat.le_refl k
      · exact Nat.min_le_left _ _

theorem Lasting.allowance {l : Nat} {lines : Lines} (h : Lasting l lines) (k : Nat) :
    lines.allowance l k = k := by
  obtain ⟨line, hl, hr⟩ := h
  simp [allowance_eq hl, Line.allowance, hr]

theorem allowance_of_not_sent {c : Connection} {f : Frame} {lines : Lines}
    (h : lines.send c f = none) (k : Nat) : lines.allowance c.line k = 0 := by
  cases hl : lines[c.line]? with
  | none => simp [allowance, hl]
  | some line =>
      -- a line that is there refuses a frame only if it has no room
      have hroom : line.room = some 0 := by
        rw [send, hl] at h
        cases hr : line.room with
        | none => simp [Line.isRead, hr] at h
        | some room => cases room <;> simp [Line.isRead, hr] at h ⊢
      simp [allowance_eq hl, Line.allowance, hroom]

theorem allowance_of_sent {c : Connection} {f : Frame} {lines lines' : Lines}
    (h : lines.send c f = some lines') (k : Nat) :
    lines.allowance c.line (k + 1) = lines'.allowance c.line k + 1 := by
  have hlt := lt_length_of_send h
  obtain ⟨line, hl, hread, rfl⟩ := send_eq_some.1 h
  rw [allowance_eq hl, allowance_eq (List.getElem?_set_self hlt)]
  cases hr : line.room with
  | none => simp [Line.allowance, Line.accept, hr]
  | some room =>
      cases room with
      | zero => simp [Line.isRead, hr] at hread
      | succ room =>
          simp only [Line.allowance, Line.accept, hr, Option.map_some]
          omega

end Lines

namespace Client

/-- Makes a call: what it returns, the client after it, and the lines. -/
def perform (call : Call) (c : Client) (lines : Lines) :
    Except BridgeError (Option Nat) × Client × Lines :=
  match call with
  | .request method params =>
    match c.request method params lines with
    | (c, .ok (n, lines)) => (.ok (some n), c, lines)
    | (c, .error e) => (.error e, c, lines)
  | call =>
    match c.send (call.frame c.nextId) lines with
    | .ok lines => (.ok none, c, lines)
    | .error e => (.error e, c, lines)

/-- Makes calls one after the other, whether or not they succeed. -/
def performAll : List Call → Client → Lines →
    List (Except BridgeError (Option Nat)) × Client × Lines
  | [], c, lines => ([], c, lines)
  | call :: calls, c, lines =>
    let (result, c, lines) := c.perform call lines
    let (results, c, lines) := performAll calls c lines
    (result :: results, c, lines)

/-- The client after a call. -/
def after (c : Client) (call : Call) : Client := if call.isRequest then c.advance else c

@[simp] theorem after_connection (c : Client) (call : Call) :
    (c.after call).connection = c.connection := by
  unfold after
  split <;> rfl

/-- A call queues its frame or fails, and in both cases it uses up its number. -/
theorem perform_eq (call : Call) (c : Client) (lines : Lines) :
    c.perform call lines
      = match lines.send c.connection (call.frame c.nextId) with
        | none => (.error (.connectionClosed c.connection.id), c.after call, lines)
        | some lines => (.ok (call.returned c.nextId), c.after call, lines) := by
  cases call with
  | request method params =>
      simp only [perform, request, send, Call.frame]
      cases lines.send c.connection (.request c.nextId method params) <;> rfl
  | _ =>
      simp only [perform, send]
      split <;> rename_i h <;> split at h <;> simp_all [after, Call.isRequest, Call.returned]

/-- The number that the next request gets after some calls, if it was `n` before them. -/
def numberAfter (n : Nat) (calls : List Call) : Nat :=
  min (n + calls.countP Call.isRequest) Counter.limit64

theorem numberAfter_nil {n : Nat} (fits : n ≤ Counter.limit64) : numberAfter n [] = n := by
  simpa [numberAfter] using fits

theorem numberAfter_cons {c : Client} (fits : c.nextId ≤ Counter.limit64) (call : Call)
    (calls : List Call) :
    numberAfter (c.after call).nextId calls = numberAfter c.nextId (call :: calls) := by
  cases h : call.isRequest with
  | false => simp [numberAfter, after, h]
  | true =>
      simp only [numberAfter, after, h, advance, Counter.next, List.countP_cons, if_true]
      split <;> omega

theorem nextId_after_le {c : Client} (fits : c.nextId ≤ Counter.limit64) (call : Call) :
    (c.after call).nextId ≤ Counter.limit64 := by
  unfold after
  split
  · exact Counter.next_le _ _
  · exact fits

/-- What becomes of each of some calls, of which the first so many queue the frames `fs`: the frame
is read as the message of its call, and the call returns its number. The others find the connection
closed. `n` is the number of the first request, and the numbers go on whether or not calls
succeed. -/
def Carried (connection : Connection) (n : Nat) (calls : List Call)
    (results : List (Except BridgeError (Option Nat))) (fs : List Frame) : Prop :=
  ∀ before call more, calls = before ++ call :: more →
    (before.length < fs.length → ∃ f, fs[before.length]? = some f
        ∧ Message.read f.text = .ok (call.message (numberAfter n before))
        ∧ results[before.length]? = some (.ok (call.returned (numberAfter n before))))
      ∧ (fs.length ≤ before.length →
        results[before.length]? = some (.error (.connectionClosed connection.id)))

theorem Carried.cons {c : Client} {call : Call} {calls : List Call}
    {results : List (Except BridgeError (Option Nat))} {f : Frame} {fs : List Frame}
    (fits : c.nextId ≤ Counter.limit64)
    (hread : Message.read f.text = .ok (call.message c.nextId))
    (h : Carried c.connection (c.after call).nextId calls results fs) :
    Carried c.connection c.nextId (call :: calls) (.ok (call.returned c.nextId) :: results)
      (f :: fs) := by
  intro before d more hsplit
  cases before with
  | nil =>
      -- the call itself, whose number is the next one
      obtain ⟨rfl, rfl⟩ := List.cons.inj hsplit
      rw [numberAfter_nil fits]
      exact ⟨fun _ => ⟨f, rfl, hread, rfl⟩, fun h => absurd h (Nat.not_succ_le_zero _)⟩
  | cons e before =>
      obtain ⟨rfl, htail⟩ := List.cons.inj hsplit
      have hlater := h before d more htail
      rw [numberAfter_cons fits] at hlater
      simpa using hlater

theorem Carried.cons_of_not_sent {c : Client} {call : Call} {calls : List Call}
    {results : List (Except BridgeError (Option Nat))} (fits : c.nextId ≤ Counter.limit64)
    (h : Carried c.connection (c.after call).nextId calls results []) :
    Carried c.connection c.nextId (call :: calls)
      (.error (.connectionClosed c.connection.id) :: results) [] := by
  intro before d more hsplit
  cases before with
  | nil => exact ⟨fun h => absurd h (Nat.lt_irrefl 0), fun _ => rfl⟩
  | cons e before =>
      obtain ⟨rfl, htail⟩ := List.cons.inj hsplit
      have hlater := h before d more htail
      rw [numberAfter_cons fits] at hlater
      simpa using hlater

/-- What a sequence of calls leaves: `Carried` for what was queued, which is as much as the line
accepts, and the number of the next request. -/
theorem exists_frames_performAll : ∀ (calls : List Call), (∀ call ∈ calls, call.Sendable) →
    ∀ (c : Client) (lines : Lines), c.nextId ≤ Counter.limit64 →
    ∃ fs, Lines.Queued c.connection.line fs lines (performAll calls c lines).2.2
      ∧ fs.length = lines.allowance c.connection.line calls.length
      ∧ Carried c.connection c.nextId calls (performAll calls c lines).1 fs
      ∧ (performAll calls c lines).2.1 = { c with nextId := numberAfter c.nextId calls } := by
  intro calls
  induction calls with
  | nil =>
      intro _ c lines fits
      refine ⟨[], .refl _ lines, ?_, ?_, ?_⟩
      · exact (Nat.le_zero.1 (Lines.allowance_le ..)).symm
      · intro before call more hsplit
        simp at hsplit
      · simp [performAll, numberAfter_nil fits]
  | cons call calls ih =>
      intro sendable c lines fits
      have hrest := ih fun d hd => sendable d (List.mem_cons_of_mem _ hd)
      have hfits := nextId_after_le fits call
      have hconnection := after_connection c call
      cases hsent : lines.send c.connection (call.frame c.nextId) with
      | none =>
          -- the line has no room, so nothing behind this call is queued either
          obtain ⟨fs, hqueued, hlength, hcarried, hclient⟩ := hrest (c.after call) lines hfits
          rw [hconnection] at hqueued hlength hcarried
          rw [Lines.allowance_of_not_sent hsent, List.length_eq_zero_iff] at hlength
          subst hlength
          have hall : performAll (call :: calls) c lines
              = (.error (.connectionClosed c.connection.id)
                    :: (performAll calls (c.after call) lines).1,
                  (performAll calls (c.after call) lines).2) := by
            simp [performAll, perform_eq, hsent]
          rw [hall]
          refine ⟨[], hqueued, ?_, hcarried.cons_of_not_sent fits, ?_⟩
          · exact (Lines.allowance_of_not_sent hsent _).symm
          · rw [hclient, numberAfter_cons fits, hconnection]
      | some lines' =>
          obtain ⟨fs, hqueued, hlength, hcarried, hclient⟩ := hrest (c.after call) lines' hfits
          rw [hconnection] at hqueued hlength hcarried
          have hall : performAll (call :: calls) c lines
              = (.ok (call.returned c.nextId) :: (performAll calls (c.after call) lines').1,
                  (performAll calls (c.after call) lines').2) := by
            simp [performAll, perform_eq, hsent]
          have hread := (sendable call (List.mem_cons_self ..)).read_frame fits
          rw [hall]
          refine ⟨call.frame c.nextId :: fs, (Lines.queued_of_send hsent).trans hqueued, ?_,
            hcarried.cons fits hread, ?_⟩
          · rw [List.length_cons, List.length_cons, hlength, Lines.allowance_of_sent hsent]
          · rw [hclient, numberAfter_cons fits, hconnection]

end Client

/-! ## Responses and notices -/

/-- A message answers a request if it is a response whose id is the number of the request. -/
theorem Message.isResponseTo_iff {n : Nat} {m : Message} :
    m.isResponseTo n = true ↔ ∃ result error, m = .response (.natural n) result error := by
  cases m with
  | response id result error =>
      have hnatural : id.natural? = some n ↔ id = .natural n := by
        constructor
        · intro h
          obtain ⟨k, rfl⟩ : ∃ k : Int, id = .number (.integer k) := by
            unfold Json.natural? at h
            split at h
            · exact ⟨_, rfl⟩
            · cases h
          rw [Json.natural?] at h
          split at h
          · rename_i hk
            rw [Json.natural, ← Option.some.inj h, Int.toNat_of_nonneg hk]
          · cases h
        · rintro rfl
          simp [Json.natural?, Json.natural]
      simp [isResponseTo, hnatural]
  | _ => simp [isResponseTo]

end Rpc

namespace ClientNotification

/-- The notification that a method and params stand for. -/
def ofMessage? (method : String) (params : Json) : Option ClientNotification := do
  let told := fun name => (params.get? name).bind Json.text?
  match method with
  | "ov/schemaChanged" => return schemaChanged (← told "schema") (← told "uri")
  | "ov/cultureChanged" => return optionChanged .culture (← told "culture") (← told "uri")
  | "ov/languageChanged" => return optionChanged .language (← told "language") (← told "uri")
  | _ => none

theorem ofMessage?_params (n : ClientNotification) : ofMessage? n.method n.params = some n := by
  cases n with
  | schemaChanged schema uri => rfl
  | optionChanged kind value uri => cases kind <;> rfl

theorem sendable (n : ClientNotification) : (Rpc.Call.notify n.method n.params).Sendable := by
  refine .notify ?_
  cases n with
  | schemaChanged schema uri => exact Json.plain_pair (by decide) (.text _) (.text _)
  | optionChanged kind value uri =>
      cases kind <;> exact Json.plain_pair (by decide) (.text _) (.text _)

theorem read_frame (n : ClientNotification) :
    Rpc.Message.read n.frame.text = .ok (.notification n.method n.params) :=
  n.sendable.read_frame (Nat.zero_le _)

theorem frame_injective {n n' : ClientNotification} (h : n.frame.text = n'.frame.text) :
    n = n' := by
  have hread := n.read_frame
  rw [h, n'.read_frame] at hread
  injection hread with hmessage
  injection hmessage with hmethod hparams
  have hn := n.ofMessage?_params
  rw [← hmethod, ← hparams, n'.ofMessage?_params] at hn
  exact (Option.some.inj hn).symm

end ClientNotification

namespace Rpc

namespace Client

/-- Whatever is asked of a new client, the frames that it queues are read, one for one and in
order, as the messages of the calls, with requests numbered from one; on a line that lasts there is
a frame for every call. A response is matched by its number alone, and a notice gives back what it
tells, so that no two notices have the same frame. -/
theorem read_of_calls (calls : List Call) (sendable : ∀ call ∈ calls, call.Sendable)
    (connection : Connection) (lines : Lines) :
    (∃ fs, Lines.Queued connection.line fs lines
          (performAll calls (ofConnection connection) lines).2.2
        ∧ (Lines.Lasting connection.line lines → fs.length = calls.length)
        ∧ Carried connection 1 calls (performAll calls (ofConnection connection) lines).1 fs)
      ∧ (performAll calls (ofConnection connection) lines).2.1
        = ⟨connection, numberAfter 1 calls⟩
      ∧ (∀ n m, Message.isResponseTo n m = true
        ↔ ∃ result error, m = .response (.natural n) result error)
      ∧ (∀ n : ClientNotification,
        Message.read n.frame.text = .ok (.notification n.method n.params)
          ∧ ClientNotification.ofMessage? n.method n.params = some n)
      ∧ ∀ n n' : ClientNotification, n.frame.text = n'.frame.text → n = n' := by
  obtain ⟨fs, hqueued, hlength, hcarried, hclient⟩ :=
    exists_frames_performAll calls sendable (ofConnection connection) lines
      (show 1 ≤ Counter.limit64 by decide)
  refine ⟨⟨fs, hqueued, fun lasting => ?_, hcarried⟩, hclient,
    fun _ _ => Message.isResponseTo_iff, fun n => ⟨n.read_frame, n.ofMessage?_params⟩,
    fun _ _ => ClientNotification.frame_injective⟩
  exact hlength.trans (lasting.allowance calls.length)

/-- An answer and a request that are read, and a request that finds the reader gone. -/
theorem read_of_calls_hungUp :
    ∃ calls f g, calls = [.respond (.text "a") (.list [.null]), .request "stop" .null,
        .request "stop" .null]
      ∧ (performAll calls (ofConnection ⟨1, 0⟩) [⟨1, [], some 2⟩]).2.2.framesAt 0 = [f, g]
      ∧ Message.read f.text = .ok (.response (.text "a") (some (.list [.null])) none)
      ∧ Message.read g.text = .ok (.request (.natural 1) "stop" .null)
      ∧ (performAll calls (ofConnection ⟨1, 0⟩) [⟨1, [], some 2⟩]).2.1.nextId = 3 := by
  have hsendable : ∀ call ∈ [.respond (.text "a") (.list [.null]), .request "stop" .null,
      .request "stop" .null], Call.Sendable call := by
    intro call hcall
    simp only [List.mem_cons, List.not_mem_nil, or_false] at hcall
    rcases hcall with rfl | rfl | rfl
    · exact .respond (by simp) (.text _) (.list (by simpa using .null))
    · exact .request .null
    · exact .request .null
  obtain ⟨⟨fs, hqueued, -, hcarried⟩, hclient, -⟩ :=
    read_of_calls _ hsendable ⟨1, 0⟩ [⟨1, [], some 2⟩]
  have hframes := hqueued.frames
  obtain ⟨f, g, rfl⟩ : ∃ f g, fs = [f, g] := ⟨_, _, hframes.symm⟩
  obtain ⟨d, hf, hread, -⟩ := (hcarried [] _ _ rfl).1 (by simp)
  obtain ⟨e, hg, hread', -⟩ := (hcarried [_] _ _ rfl).1 (by simp)
  cases hf
  cases hg
  refine ⟨_, f, g, rfl, hframes, hread, hread', ?_⟩
  rw [hclient]
  rfl

end Client

end Rpc

end SurfaceBridge
