import CrateState.Proofs.JsonReadback
import CrateState.Proofs.Readback
import CrateState.Sync.Event

/-!
# Events cross the wire unchanged

A sync event is written as a JSON object (`SyncEvent.wire`, total) and read back by the
event reader (`SyncEvent.ofWire`). The main statement, `ofWire_wire`, is that reading gives
back the event written, for every kind, player, server and crate name and reward, whatever
their characters (quotes, backslashes, controls, the empty text), and every 64-bit time.

Each member of the written object names one field of the reader, and each field reads its
member's value back (`JsonReadback`): the kind by its wire name, texts as they are, the
player hyphenated, a reward as a present value, the time as a signed 64-bit number. The
reward member is left out when there is none, the reader's default.
-/

namespace CrateState

namespace SyncEvent

open Json

theorem kind_reads (k : EventKind) :
    (Codec.choice "SyncEventKind" (EventKind.all.map fun k => (k.name, k))).ReadsBack
      (.str k.name) k :=
  Codec.choice_reads (by cases k <;> rfl)

theorem player_reads (p : PlayerId) : playerCodec.ReadsBack (.str p.render) p :=
  Codec.checkedString_reads (by simp [PlayerId.parse_render])

/-- The reader takes an event's wire text back to the event and stops right after it. -/
theorem codec_reads (e : SyncEvent) (lo : -2 ^ 63 ≤ e.time) (hi : e.time < 2 ^ 63)
    (rest : List Char) (p : Pos) :
    ∃ p', codec.text ⟨e.wire.toList ++ rest, p⟩ = .ok (e, ⟨rest, p'⟩) := by
  obtain ⟨kind, origin, player, crate, reward, time⟩ := e
  rw [wire]
  -- the members are the same but for the reward, which is written only when there is one
  cases reward with
  | none =>
    have members : toJson ⟨kind, origin, player, crate, none, time⟩ =
        .obj [("kind", .str kind.name), ("originServer", .str origin),
          ("player", .str player.render), ("crateId", .str crate), ("timestamp", Json.int time)] :=
      rfl
    rw [members]
    unfold codec
    apply record_reads_obj
    case h =>
      exact .cons ⟨_, rfl, Field.of_reads (kind_reads kind)⟩
        (.cons ⟨_, rfl, Field.of_reads (Codec.string_reads origin)⟩
        (.cons ⟨_, rfl, Field.of_reads (player_reads player)⟩
        (.cons ⟨_, rfl, Field.of_reads (Codec.string_reads crate)⟩
        (.cons ⟨_, rfl, Field.of_reads (Codec.int64_reads lo hi)⟩ .nil))))
    case nonempty => simp
    case distinct => simp
    case complete => rfl
    case built => rfl
  | some r =>
    have members : toJson ⟨kind, origin, player, crate, some r, time⟩ =
        .obj [("kind", .str kind.name), ("originServer", .str origin),
          ("player", .str player.render), ("crateId", .str crate), ("rewardId", .str r),
          ("timestamp", Json.int time)] :=
      rfl
    rw [members]
    unfold codec
    apply record_reads_obj
    case h =>
      exact .cons ⟨_, rfl, Field.of_reads (kind_reads kind)⟩
        (.cons ⟨_, rfl, Field.of_reads (Codec.string_reads origin)⟩
        (.cons ⟨_, rfl, Field.of_reads (player_reads player)⟩
        (.cons ⟨_, rfl, Field.of_reads (Codec.string_reads crate)⟩
        (.cons ⟨_, rfl, Field.of_reads (Codec.option_reads (Codec.string_reads r))⟩
        (.cons ⟨_, rfl, Field.of_reads (Codec.int64_reads lo hi)⟩ .nil)))))
    case nonempty => simp
    case distinct => simp
    case complete => rfl
    case built => rfl

/-- **The wire form of an event is lossless.** Reading the wire text of any event whose time
fits in 64 bits gives the event back. -/
theorem ofWire_wire (e : SyncEvent) (lo : -2 ^ 63 ≤ e.time) (hi : e.time < 2 ^ 63) :
    ofWire e.wire = .ok e := by
  obtain ⟨p', h⟩ := codec_reads e lo hi [] ⟨1, 0⟩
  rw [List.append_nil] at h
  rw [ofWire, Codec.readText_of_text h]
  rfl

/-- An event with a quote, a backslash, a line feed and a control character in its server
name, an empty crate, an empty reward and the earliest 64-bit time crosses the wire. -/
theorem ofWire_wire_of_escapes :
    let e : SyncEvent :=
      { kind := .rewardGranted, origin := "a\"b\\c\nd\x01", player := PlayerId.nil, crate := "",
        reward := some "", time := -9223372036854775808 }
    (-2 ^ 63 ≤ e.time ∧ e.time < 2 ^ 63) ∧ ofWire e.wire = .ok e := by
  intro e
  have lo : -2 ^ 63 ≤ e.time := by decide
  have hi : e.time < 2 ^ 63 := by decide
  exact ⟨⟨lo, hi⟩, ofWire_wire e lo hi⟩

end SyncEvent

end CrateState
