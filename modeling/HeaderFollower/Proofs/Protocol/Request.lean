/-
# Requests survive the wire

A request is one line of JSON text. The text is that of the object with id, method and params
(`text_eq`), so it reads back as this object, no line feed breaks it, and an accepted one stays within
the limit of the reader's lines. Frames sent one after the other therefore come out as one line for
each request, however the stream was cut.
-/

import HeaderFollower.Protocol.Method
import HeaderFollower.Protocol.Request
import HeaderFollower.Proofs.Json.RoundTrip
import HeaderFollower.Proofs.Wire.Lines

namespace HeaderFollower

/-- A request with arguments that text carries without loss. -/
structure Request where
  id : UInt64
  method : String
  params : Json
  lossless : params.Lossless 126

namespace Request

/-- The object a request is sent as. -/
def object (id : UInt64) (method : String) (params : Json) : Json :=
  .object [("id", .number (.natural id)), ("method", .string method), ("params", params)]

/-- The object the request is sent as. -/
def toJson (r : Request) : Json := object r.id r.method r.params

/-- The line of the request with its line feed. -/
def framed (r : Request) : Except String ByteArray := frame r.id.toNat r.method r.params

variable {r : Request} {bytes : ByteArray} {id : UInt64} {method : String} {params : Json}

/-- The text of a request is that of its object. -/
theorem utf8_text (id : UInt64) (method : String) (params : Json) :
    Text.utf8 (text id.toNat method params) = Json.spell (object id method params) := by
  have hid : Text.utf8 "\x7b\"id\":" = 0x7b :: (Json.spellText "id" ++ [0x3a]) := by decide
  have hmethod : Text.utf8 ",\"method\":" = 0x2c :: (Json.spellText "method" ++ [0x3a]) := by decide
  have hparams : Text.utf8 ",\"params\":" = 0x2c :: (Json.spellText "params" ++ [0x3a]) := by decide
  have hclose : String.utf8EncodeChar '\x7d' = [0x7d] := by decide
  have hnumber : Text.utf8 (toString id.toNat) = Json.spell (.number (.natural id)) := rfl
  have hstring : Json.spellText method = Json.spell (.string method) := rfl
  have hobject : Json.spell (object id method params) = 0x7b :: (Json.commas
      (List.map Json.spellMember
        [("id", .number (.natural id)), ("method", .string method), ("params", params)]) ++
      [0x7d]) := by rw [object, Json.spell, Json.spellMembers_eq]
  rw [text, Text.utf8_push, Json.utf8_push, Text.utf8_append, Json.utf8_pushString,
    Text.utf8_append, Text.utf8_append, hid, hmethod, hparams, hclose, hnumber, hstring, hobject]
  simp only [List.map_cons, List.map_nil, Json.commas, Json.spellMember, List.flatMap_cons,
    List.flatMap_nil, List.append_assoc, List.cons_append, List.nil_append, List.append_nil]

theorem size_text (id : UInt64) (method : String) (params : Json) :
    (text id.toNat method params).utf8ByteSize = (object id method params).write.utf8ByteSize := by
  rw [← Text.length_utf8, ← Text.length_utf8, utf8_text, Json.utf8_write]

/-- A request is refused exactly when its text is too long. -/
theorem frame_error_iff (id : UInt64) (method : String) (params : Json) :
    (∃ e, frame id.toNat method params = .error e) ↔
      maxFrame ≤ (object id method params).write.utf8ByteSize := by
  rw [← size_text, frame]
  split
  · next h => simp [h]
  · next h => simp [h]

/-- A request whose text is short enough can be written down. -/
theorem exists_frame (id : UInt64)
    (h : (Json.spell (object id method params)).length < maxFrame) :
    ∃ bytes, frame id.toNat method params = .ok bytes := by
  cases hframe : frame id.toNat method params with
  | ok bytes => exact ⟨bytes, rfl⟩
  | error e =>
    have hlong := (frame_error_iff id method params).mp ⟨e, hframe⟩
    rw [← Text.length_utf8, Json.utf8_write] at hlong
    exact absurd h (Nat.not_lt.mpr hlong)

/-- An accepted request is its text and a line feed, within the limit. -/
theorem frame_ok (h : frame id.toNat method params = .ok bytes) :
    bytes.toList = Json.spell (object id method params) ++ [0x0a] ∧
      (Json.spell (object id method params)).length < maxFrame := by
  rw [frame] at h
  split at h
  · cases h
  · next hshort =>
    cases h
    rw [← utf8_text, Text.length_utf8, Text.toList_toUTF8, Text.utf8_push]
    exact ⟨rfl, Nat.not_le.1 hshort⟩

theorem toJson_lossless (r : Request) : r.toJson.Lossless Json.maxDepth := by
  have hsorted : Json.Sorted
      [("id", .number (.natural r.id)), ("method", .string r.method), ("params", r.params)] := by
    have hfirst : "id" < "method" := by decide
    have hlast : "method" < "params" := by decide
    have hends : "id" < "params" := by decide
    refine .cons ?_ (.cons (List.forall_mem_singleton.2 hlast) (List.pairwise_singleton _ _))
    exact List.forall_mem_cons.2 ⟨hfirst, List.forall_mem_singleton.2 hends⟩
  refine .object (d := 126) hsorted ?_
  simp only [List.forall_mem_cons, List.not_mem_nil, false_imp_iff, implies_true, and_true]
  exact ⟨.number (.natural r.id), .string r.method, r.lossless⟩

/-- The line of a request, without its line feed. -/
def line (r : Request) : List UInt8 := Json.spell r.toJson

/-- An accepted request may be sent as a line. -/
theorem line_fits (h : r.framed = .ok bytes) : LineReader.Fits maxFrame r.line := by
  refine ⟨fun hfeed => ?_, Nat.le_of_lt (frame_ok h).2⟩
  exact absurd (Json.spell_ge r.toJson_lossless hfeed) (by decide)

/-- What is sent of accepted requests is their lines. -/
theorem feeds_lines {requests : List Request} {frames : List ByteArray}
    (h : requests.map framed = frames.map .ok) :
    frames.flatMap ByteArray.toList = LineReader.feeds (requests.map line) := by
  induction requests generalizing frames with
  | nil =>
    obtain rfl := List.map_eq_nil_iff.1 h.symm
    rfl
  | cons r rest ih =>
    cases frames with
    | nil => cases h
    | cons frame others =>
      obtain ⟨hframe, hothers⟩ := List.cons.inj h
      rw [List.flatMap_cons, (frame_ok hframe).1, ih hothers, LineReader.feeds, LineReader.feeds,
        List.map_cons, List.flatMap_cons]
      rfl

/-- **Requests survive the wire.** Each frame of accepted requests is one line, and however the frames
were cut on their way, they are read as one line for each request in turn, which spells the request.
A request is refused exactly when its text has `maxFrame` bytes or more. -/
theorem requests_survive {requests : List Request} {frames pieces : List ByteArray}
    (accepted : requests.map framed = frames.map .ok)
    (cut : pieces.flatMap ByteArray.toList = frames.flatMap ByteArray.toList) :
    (∀ frame ∈ frames, ∃ line, 0x0a ∉ line ∧ frame.toList = line ++ [0x0a]) ∧
    (∃ lines : List ByteArray, LineReader.events maxFrame pieces = lines.map .line ∧
      lines.map (fun line => Json.parse line.toList) = requests.map fun r => some r.toJson) ∧
    ∀ (id : UInt64) (method : String) (params : Json),
      (∃ e, frame id.toNat method params = .error e) ↔
        maxFrame ≤ (object id method params).write.utf8ByteSize := by
  have hframe : ∀ frame ∈ frames, ∃ r ∈ requests, r.framed = .ok frame := by
    intro frame hframe
    have hmem : Except.ok frame ∈ requests.map framed := by
      rw [accepted]
      exact List.mem_map_of_mem hframe
    exact List.mem_map.1 hmem
  have hfits : ∀ l ∈ requests.map line, LineReader.Fits maxFrame l := by
    intro l hl
    obtain ⟨r, hr, rfl⟩ := List.mem_map.1 hl
    have hmem : r.framed ∈ frames.map .ok := accepted ▸ List.mem_map_of_mem hr
    obtain ⟨bytes, -, hbytes⟩ := List.mem_map.1 hmem
    exact line_fits hbytes.symm
  refine ⟨fun frame h => ?_, ⟨requests.map fun r => r.line.toByteArray, ?_, ?_⟩, frame_error_iff⟩
  · obtain ⟨r, -, hr⟩ := hframe frame h
    exact ⟨r.line, (line_fits hr).unbroken, (frame_ok hr).1⟩
  · rw [LineReader.events_feeds hfits (cut.trans (feeds_lines accepted)), List.map_map, List.map_map]
    rfl
  · rw [List.map_map]
    refine List.map_congr_left fun r _ => ?_
    rw [Function.comp_apply, Hex.toList_eq_data, List.toList_data_toByteArray]
    exact Json.parse_spell r.toJson_lossless

/-- A request without arguments. -/
def plain : Request := ⟨1, Method.ping, .array [], .array fun _ h => absurd h List.not_mem_nil⟩

/-- A request with the largest id, and with line feeds and quotation marks in its texts. -/
def broken : Request :=
  ⟨0xffffffffffffffff, "a\n\"b", .object [("k\n", .array [.null, .number (.negative 5)])],
    .object (List.pairwise_singleton _ _) (List.forall_mem_singleton.2
      (.array (List.forall_mem_cons.2 ⟨.null, List.forall_mem_singleton.2
        (.number (.negative 5 (by decide) (by decide)))⟩)))⟩

/-- What is sent of a request that is accepted. -/
def sent (r : Request) : ByteArray := ((text r.id.toNat r.method r.params).push '\n').toUTF8

theorem framed_sent (h : r.line.length < maxFrame) : r.framed = .ok r.sent := by
  rw [line, toJson, ← utf8_text, Text.length_utf8] at h
  exact if_neg (Nat.not_le.2 h)

theorem requests_survive_bytewise :
    [plain, broken].map framed = [plain.sent, broken.sent].map .ok ∧
      ∃ lines : List ByteArray,
        LineReader.events maxFrame (([plain.sent, broken.sent].flatMap ByteArray.toList).map
          fun b => ⟨#[b]⟩) = lines.map .line ∧
        lines.map (fun line => Json.parse line.toList) =
          [plain, broken].map fun r => some r.toJson := by
  have accepted : [plain, broken].map framed = [plain.sent, broken.sent].map .ok := by
    have hplain : plain.line.length < maxFrame := by decide +kernel
    have hbroken : broken.line.length < maxFrame := by decide +kernel
    rw [List.map_cons, List.map_singleton, framed_sent hplain, framed_sent hbroken]
    rfl
  refine ⟨accepted, (requests_survive accepted ?_).2.1⟩
  rw [List.flatMap_map]
  simp [Hex.toList_eq_data]

end Request
end HeaderFollower
