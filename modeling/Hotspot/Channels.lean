/-
# Channel lists

The overlay lists the channels of the 2.4 GHz band, as one text with commas or
as an array. Each entry is trimmed and read as an integer; a blank entry is
skipped, and so is, with a warning, one that is no integer. An entry with an
integer of too many digits has no text to be read, and then no list comes of it.

| list | channels |
| --- | --- |
| `"1, 6,,11"` | `1`, `6`, `11` |
| `[1, "6", true]` | `1`, `6` and a warning about `True` |
| `null` | none are listed, which is not the empty list |
-/

import Hotspot.Json.Basic
import Hotspot.Log.Record
import Hotspot.Text.Integer

namespace Hotspot

/-- A value of a kind that has no items. -/
structure NotAList where
  kind : Text
  deriving DecidableEq, Repr

/-- The wording of the refusal to list the items of a value. -/
def NotAList.message (e : NotAList) : Text :=
  "'" ++ e.kind ++ "' object is not iterable"

/-- The items of a value that is an array or an object. The items of an object are
its names. -/
def Json.items (j : Json) : Except NotAList (List Json) :=
  match j with
  | .array items => .ok items
  | .object members => .ok (members.map fun m => .text m.1)
  | _ => .error ⟨j.kindName⟩

/-- Why no texts come of a value that is read as a list. -/
inductive ListError
  /-- The value has no items. -/
  | notAList (e : NotAList)
  /-- An integer in an item has too many digits to be shown. -/
  | tooManyDigits
  deriving DecidableEq, Repr

/-- The texts of items. -/
def Json.textsOf (items : List Json) : Except ListError (List Text) :=
  match items.mapM Json.shown? with
  | some ts => .ok ts
  | none => .error .tooManyDigits

/-- An entry of a channel list. -/
inductive ChannelEntry
  | blank
  | channel (number : Int)
  /-- No integer, trimmed. -/
  | bad (token : Text)
  deriving DecidableEq, Repr

namespace ChannelEntry

/-- The entry of a text. -/
def ofText (t : Text) : ChannelEntry :=
  let token := t.trim
  if token.isEmpty then .blank
  else match token.toInt? with
    | some number => .channel number
    | none => .bad token

/-- The channel of an entry that is one. -/
def number? : ChannelEntry → Option Int
  | .channel number => some number
  | _ => none

/-- What is logged of an entry. -/
def record? : ChannelEntry → Option Log.Record
  | .bad token => some {
      level := Log.Level.warning
      logger := "softap_configd.provider"
      template := "overlay_bad_channel_entry " ++ token.quoted
      extras := [("field", .text "allowed_2g_channels")] }
  | _ => none

end ChannelEntry

namespace Channels

/-- The items of a channel list, if there is one. -/
def items (list : Json) : Except NotAList (Option (List Json)) :=
  match list with
  | .null => .ok none
  | .text t => .ok (some ((Text.splitOn 0x2C t).map .text))
  | list => do pure (some (← list.items))

/-- The channels of texts. -/
def ofTexts (ts : List Text) : List Int :=
  ts.filterMap fun t => (ChannelEntry.ofText t).number?

/-- The channels of a list. -/
def ofList (list : Json) : Except ListError (Option (List Int)) := do
  match ← (items list).mapError .notAList with
  | none => pure none
  | some items => do pure (some (ofTexts (← Json.textsOf items)))

/-- The texts of the items before the first that has none. -/
def textsRead : List Json → List Text
  | [] => []
  | item :: items =>
    match item.shown? with
    | some t => t :: textsRead items
    | none => []

/-- What is logged of a list, which is read one item at a time. -/
def records (list : Json) : List Log.Record :=
  match items list with
  | .ok (some items) => (textsRead items).filterMap fun t => (ChannelEntry.ofText t).record?
  | _ => []

/-- Channels as they are shown in a log. None of them has too many digits, since each
was read. -/
def shown : Option (List Int) → Text
  | none => "None"
  | some channels => "[" ++ Text.joinWith ", " (channels.map Text.ofInt) ++ "]"

end Channels
end Hotspot
