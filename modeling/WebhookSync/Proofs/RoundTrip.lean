import WebhookSync.Console.Format
import WebhookSync.Proofs.Answering

/-!
# Webhooks survive being written

The written form of a webhook is read as the webhook it was written for, alone and in a listing.
Webhooks are also read from texts that are written by others, as objects or as arrays
(`Webhook.Describes`).  Whatever was read is from then on kept: writing and reading again change
neither the webhook nor its text (`Webhook.written_webhooks_come_back`).
-/

namespace WebhookSync.Webhook

open Json (Document SpellsWhole)
open Server (StandsFor)
open Text (Decoded)

/-- A value that describes a webhook: an object with its members in any order and others among them,
or an array of what describes it.  Events may repeat; without events the webhook listens to none,
and without a mark it is not active. -/
inductive Describes : Document → Webhook → Prop where
  | object {id : Int64} {name : String} {events : Option (List String)} {url : String}
      {active : Option Bool} {extras members : List (String × Document)}
      (foreign : ∀ extra ∈ extras, extra.1 ∉ shape.names)
      (anyOrder : members.Perm (givenMembers id name events url active ++ extras)) :
      Describes (.object members) ⟨id, name, .ofList (events.getD []), url, active.getD false⟩
  | array (id : Int64) (name : String) (events : List String) (url : String)
      (active : Option Bool) :
      Describes (.array (givenItems id name events url active))
        ⟨id, name, .ofList events, url, active.getD false⟩

/-- Every text for a description stands for the webhook. -/
theorem Describes.standsFor {document : Document} {hook : Webhook}
    (describes : Describes document hook) : StandsFor document hook := by
  intro text spelled
  cases describes with
  | object foreign anyOrder => exact reads_givenMembers foreign anyOrder spelled
  | array => exact reads_givenItems spelled

/-- The written form is read back. -/
theorem whole_compact (hook : Webhook) :
    reader.whole (.ofString hook.toJson.compact) = .ok hook :=
  (Json.spellsWhole_compact hook.toJson).whole hook.standsFor_toJson

/-- The listing that is shown in structured form is read back. -/
theorem whole_render (hooks : List Webhook) :
    ∃ text, Console.Format.json.render? (.array (hooks.map toJson)) = some text ∧
      (Json.Reader.list reader).whole (.ofString text) = .ok hooks := by
  obtain ⟨text, isOutput, _, reads⟩ := printsWebhooks_pretty hooks
  obtain rfl := String.append_left_inj "\n" |>.mp isOutput
  exact ⟨_, rfl, reads⟩

/-- Webhooks are read from the texts that are written for them, from listings, and from the texts of
others; and a webhook that has been read, from whatever text, comes back from its own text, which
stays the same. -/
theorem written_webhooks_come_back :
    (∀ hook : Webhook, reader.whole (.ofString hook.toJson.compact) = .ok hook) ∧
    (∀ hooks : List Webhook, ∃ text,
      Console.Format.json.render? (.array (hooks.map toJson)) = some text ∧
        (Json.Reader.list reader).whole (.ofString text) = .ok hooks) ∧
    (∀ document hook text, Describes document hook → SpellsWhole document text →
      reader.whole (.ofString text) = .ok hook) ∧
    (∀ (text : Decoded) (hook : Webhook), reader.whole text = .ok hook →
      ∃ again, reader.whole (.ofString hook.toJson.compact) = .ok again ∧ again = hook ∧
        again.toJson.compact = hook.toJson.compact) := by
  refine ⟨whole_compact, whole_render, ?_, ?_⟩
  · intro document hook text describes spelled
    exact spelled.whole describes.standsFor
  · intro text hook _
    exact ⟨hook, hook.whole_compact, rfl, rfl⟩

/-- Members in reverse with one among them that means nothing, and a text with escapes, a repeated
event and no mark. -/
theorem written_webhooks_come_back_of_others :
    let others : Json := .object [("url", .string "https://b"), ("seen", .null),
      ("name", .string "ci"), ("id", .integer 7)]
    let fromOthers : Webhook := ⟨7, "ci", .ofList [], "https://b", false⟩
    let text :=
      "\x7b\"url\": \"https:\\/\\/a/\\ud83d\\ude00\", \"name\": \"\\\"\\u0416\\n\",\r\n" ++
      "\"events\": [\"x\", \"pr:merged\", \"x\"], \"id\": -9223372036854775808\x7d"
    let fromText : Webhook :=
      ⟨-9223372036854775808, "\"Ж\n", .ofList ["pr:merged", "x"], "https://a/😀", false⟩
    reader.whole (.ofString others.compact) = .ok fromOthers ∧
      (reader.whole (.ofString text)).toOption = some fromText ∧
      ∃ again, reader.whole (.ofString fromText.toJson.compact) = .ok again ∧ again = fromText ∧
        again.toJson.compact = fromText.toJson.compact := by
  intro others fromOthers text fromText
  obtain ⟨_, _, ofDescription, keeps⟩ := written_webhooks_come_back
  have isRead : (reader.whole (.ofString text)).toOption = some fromText := by decide +kernel
  refine ⟨?_, isRead, ?_⟩
  · refine ofDescription others.document fromOthers _ ?_ (Json.spellsWhole_compact others)
    refine @Describes.object 7 "ci" none "https://b" none [("seen", .null)] _ (by decide) ?_
    exact (List.reverse_perm _).symm.trans (.cons _ (.cons _ (.swap _ _ _)))
  · cases found : reader.whole (.ofString text) with
    | error mismatch => rw [found] at isRead; cases isRead
    | ok hook =>
        obtain rfl : hook = fromText := by rw [found] at isRead; exact Option.some.inj isRead
        exact keeps _ _ found

end WebhookSync.Webhook
