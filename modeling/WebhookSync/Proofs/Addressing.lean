import WebhookSync.Proofs.Server.Places
import WebhookSync.Proofs.Text.Utf8

/-!
# Addresses of repositories are faithful

The project key and the slug of a repository, and the id of a webhook, can be read off the address
of the webhook.  So the addresses of different webhooks are different, and the same ones come of a
base address with and without a slash at its end (`addresses_faithful`).
-/

namespace WebhookSync

open Url

/-! ## Texts and segments -/

namespace Url

/-- A text without control characters that does not stand for a place of a path. -/
structure IsPlain (text : String) : Prop where
  notHere : text ≠ "."
  notAbove : text ≠ ".."
  noControl : ∀ c ∈ text.toList, 0x20 ≤ c.toNat ∧ c.toNat ≠ 0x7F

instance (text : String) : Decidable (IsPlain text) :=
  decidable_of_iff
    (text ≠ "." ∧ text ≠ ".." ∧ text.toList.all fun c => 0x20 ≤ c.toNat && c.toNat ≠ 0x7F)
    ⟨fun ⟨notHere, notAbove, noControl⟩ => ⟨notHere, notAbove, by simpa using noControl⟩,
      fun plain => ⟨plain.notHere, plain.notAbove, by simpa using plain.noControl⟩⟩

/-- Characters without the mark of another part of an address, which stand for the bytes of a
text. -/
structure Spells (segment : List Char) (text : String) : Prop where
  noSlash : '/' ∉ segment
  noQuery : '?' ∉ segment
  noFragment : '#' ∉ segment
  bytes : decodeBytes segment = text.toUTF8.data.toList

theorem IsPlain.counting_eq {text : String} (plain : IsPlain text) :
    counting text = text.toList := by
  refine List.filter_eq_self.mpr fun c member => ?_
  have noControl : 0x20 ≤ c.toNat := (plain.noControl c member).1
  simp only [Bool.not_eq_true', Bool.or_eq_false_iff, beq_eq_false_iff_ne]
  refine ⟨⟨?_, ?_⟩, ?_⟩
  all_goals
    rintro rfl
    exact absurd noControl (by decide)

theorem IsPlain.not_stepsOut {text : String} (plain : IsPlain text) : ¬StepsOut text := by
  rintro (isHere | isAbove)
  · exact plain.notHere isHere
  · rw [plain.counting_eq] at isAbove
    exact plain.notAbove (String.toList_injective isAbove)

/-- The segment of a plain text stands for the text. -/
theorem IsPlain.spells_segmentOf {text : String} (plain : IsPlain text) (special : Bool) :
    Spells (segmentOf special text).toList text := by
  have noMark {mark : Char} (isMark : keepsInPath mark = false) :
      mark ∉ (segmentOf special text).toList := by
    intro member
    have keeps := (isSegmentChar_segmentOf mark member).1
    rw [isMark] at keeps
    cases keeps
  refine ⟨fun member => (isSegmentChar_segmentOf '/' member).2 rfl, noMark (by decide),
    noMark (by decide), ?_⟩
  have notHere : text.toList ≠ ['.'] := fun isHere =>
    plain.notHere (String.toList_injective isHere)
  have percent : keepsInSegment special '%' = false := by
    cases special <;> decide
  rw [segmentOf, plain.counting_eq, if_neg notHere, String.toList_ofList,
    decodeBytes_encode percent, Text.bytes_toUTF8]

/-- Characters stand for one text at most. -/
theorem Spells.unique {segment : List Char} {first second : String}
    (spellsFirst : Spells segment first) (spellsSecond : Spells segment second) :
    first = second := by
  have sameBytes : first.toUTF8.data.toList = second.toUTF8.data.toList :=
    spellsFirst.bytes.symm.trans spellsSecond.bytes
  exact String.toByteArray_inj.mp (ByteArray.ext (Array.toList_inj.mp sameBytes))

/-- What stands in front of the first slash of a text, and what stands behind it. -/
theorem eq_of_append_slash_eq {first second before behind : List Char} (noSlash : '/' ∉ first)
    (noSlashToo : '/' ∉ second) (same : first ++ '/' :: before = second ++ '/' :: behind) :
    first = second ∧ before = behind := by
  induction first generalizing second with
  | nil =>
      cases second with
      | nil => exact ⟨rfl, (List.cons.inj same).2⟩
      | cons c second => exact absurd (List.cons.inj same).1 (List.ne_of_not_mem_cons noSlashToo)
  | cons c first inductionHypothesis =>
      cases second with
      | nil => exact absurd (List.cons.inj same).1.symm (List.ne_of_not_mem_cons noSlash)
      | cons d second =>
          obtain ⟨rfl, sameRest⟩ := List.cons.inj same
          obtain ⟨rfl, rfl⟩ := inductionHypothesis (List.not_mem_of_not_mem_cons noSlash)
            (List.not_mem_of_not_mem_cons noSlashToo) sameRest
          exact ⟨rfl, rfl⟩

/-- Addresses with the same host that differ in their paths alone are written alike only if their
paths are. -/
theorem write_path_eq_of_text_eq {url : Url} (host : url.host.isSome = true) {first second : Path}
    (same : ({ url with path := first } : Url).text = ({ url with path := second } : Url).text) :
    first.write = second.write := by
  obtain ⟨found, isHost⟩ := Option.isSome_iff_exists.mp host
  have sameAuthority (path : Path) :
      ({ url with path := path } : Url).writeAuthority = url.writeAuthority := by
    rw [writeAuthority, writeAuthority, isHost]
    rfl
  have written := String.ofList_injective same
  rw [write, write, sameAuthority first, sameAuthority second] at written
  exact List.append_cancel_left (List.append_cancel_right (List.append_cancel_right written))

end Url

/-- A repository whose key and slug are plain texts. -/
structure Repository.IsPlain (repository : Repository) : Prop where
  key : Url.IsPlain repository.projectKey
  slug : Url.IsPlain repository.slug

namespace Server

namespace Client

variable {client : Client} {first second : Repository}

/-- The segments of a place can be told apart. -/
theorem writtenPlace_append_inj {key key' slug slug' behind behind' : List Char}
    (noSlash : '/' ∉ key ∧ '/' ∉ slug) (noSlashToo : '/' ∉ key' ∧ '/' ∉ slug')
    (same : client.writtenPlace key slug ++ behind = client.writtenPlace key' slug' ++ behind') :
    key = key' ∧ slug = slug' ∧ behind = behind' := by
  have layout (key slug behind : List Char) : client.writtenPlace key slug ++ behind =
      dropLastSlash client.base.path.write ++ ("/rest/api/1.0/projects/".toList ++
        (key ++ '/' :: ("repos/".toList ++ (slug ++ '/' :: ("webhooks".toList ++ behind))))) := by
    simp [writtenPlace]
  rw [layout, layout] at same
  obtain ⟨sameKey, sameRest⟩ := eq_of_append_slash_eq noSlash.1 noSlashToo.1
    (List.append_cancel_left (List.append_cancel_left same))
  obtain ⟨sameSlug, sameBehind⟩ := eq_of_append_slash_eq noSlash.2 noSlashToo.2
    (List.append_cancel_left sameRest)
  exact ⟨sameKey, sameSlug, List.append_cancel_left sameBehind⟩

section Base

variable (normal : client.base.IsNormal) (single : ¬['/', '/'] <:+ client.base.path.write)
include normal single

/-- The place of the webhooks of a plain repository. -/
theorem exists_writtenPlace {repository : Repository} (plain : repository.IsPlain) :
    ∃ key slug, Spells key repository.projectKey ∧ Spells slug repository.slug ∧
      (client.webhooksUrl repository).path.write = client.writtenPlace key slug ∧
        ∀ id, (client.webhookUrl repository id).path.write =
          client.writtenPlace key slug ++ '/' :: (toString id.toInt).toList := by
  have place := write_webhooksUrl normal single plain.key.not_stepsOut plain.slug.not_stepsOut
  refine ⟨_, _, plain.key.spells_segmentOf _, plain.slug.spells_segmentOf _, place, fun id => ?_⟩
  rw [write_webhookUrl, place]
  rfl

/-- Different webhooks have different addresses, and the webhooks of different repositories do. -/
theorem eq_of_text_eq (plainFirst : first.IsPlain) (plainSecond : second.IsPlain) :
    ((client.webhooksUrl first).text = (client.webhooksUrl second).text → first = second) ∧
      ∀ firstId secondId,
        (client.webhookUrl first firstId).text = (client.webhookUrl second secondId).text →
          first = second ∧ firstId = secondId := by
  obtain ⟨key, slug, spellsKey, spellsSlug, place, placeOne⟩ :=
    exists_writtenPlace normal single plainFirst
  obtain ⟨key', slug', spellsKey', spellsSlug', place', placeOne'⟩ :=
    exists_writtenPlace normal single plainSecond
  have sameRepository {behind behind' : List Char}
      (same : client.writtenPlace key slug ++ behind = client.writtenPlace key' slug' ++ behind') :
      first = second ∧ behind = behind' := by
    obtain ⟨rfl, rfl, rfl⟩ := writtenPlace_append_inj ⟨spellsKey.noSlash, spellsSlug.noSlash⟩
      ⟨spellsKey'.noSlash, spellsSlug'.noSlash⟩ same
    have sameKey := spellsKey.unique spellsKey'
    have sameSlug := spellsSlug.unique spellsSlug'
    cases first
    cases second
    exact ⟨congrArg₂ Repository.mk sameKey sameSlug, rfl⟩
  constructor
  · intro same
    have samePath : (client.webhooksUrl first).path.write =
        (client.webhooksUrl second).path.write :=
      write_path_eq_of_text_eq normal.host same
    rw [place, place'] at samePath
    exact (sameRepository (congrArg (· ++ []) samePath)).1
  · intro firstId secondId same
    have samePath : (client.webhookUrl first firstId).path.write =
        (client.webhookUrl second secondId).path.write :=
      write_path_eq_of_text_eq normal.host same
    rw [placeOne, placeOne'] at samePath
    obtain ⟨rfl, sameBehind⟩ := sameRepository samePath
    have sameText := String.toList_injective (List.cons.inj sameBehind).2
    rw [Int.toString_eq_repr, Int.toString_eq_repr] at sameText
    exact ⟨rfl, Int64.toInt_inj.mp (Int.repr_injective sameText)⟩

end Base

/-- A slash at the end of a base address makes no difference. -/
theorem exists_ofAddress_concat_slash {address : String} {token : Option String}
    (opened : ofAddress address token = .ok client) (web : client.base.IsWeb)
    (written : client.base.text = address) (noQuery : client.base.query = none)
    (noFragment : client.base.fragment = none)
    (endsAtName : client.base.path.write.getLast? ≠ some '/') :
    ∃ longer, ofAddress (address ++ "/") token = .ok longer ∧
      ∀ repository, longer.webhooksUrl repository = client.webhooksUrl repository ∧
        ∀ id, longer.webhookUrl repository id = client.webhookUrl repository id := by
  obtain ⟨parsed, _, isToken⟩ := ofAddress_eq_ok_iff.mp opened
  have normal : client.base.IsNormal := isNormal_of_parse web parsed
  have parsedToo := parse_concat_slash web parsed written noQuery noFragment endsAtName
  obtain ⟨segments, last, isSegments, visible⟩ := normal.exists_name endsAtName
  refine ⟨⟨_, client.token⟩, ofAddress_eq_ok_iff.mpr ⟨parsedToo, rfl, isToken⟩,
    fun repository => ?_⟩
  have same : webhooksUrl ⟨_, client.token⟩ repository = client.webhooksUrl repository :=
    extend_concat_empty isSegments visible _
  exact ⟨same, fun id => congrArg (fun url : Url => url.push [toString id.toInt]) same⟩

end Client

/-- Below a base address of a web server whose path does not end in two slashes, a webhook has an
address from which its repository and its id can be read off, and which no other webhook has.  A
slash at the end of a base address in its written form makes no difference to it. -/
theorem addresses_faithful {address : String} {token : Option String} {client : Client}
    (opened : Client.ofAddress address token = .ok client) (web : client.base.IsWeb)
    (single : ¬['/', '/'] <:+ client.base.path.write) :
    (∀ repository : Repository, repository.IsPlain → ∃ key slug,
      Spells key repository.projectKey ∧ Spells slug repository.slug ∧
        (client.webhooksUrl repository).path.write = client.writtenPlace key slug ∧
          ∀ id, (client.webhookUrl repository id).path.write =
            client.writtenPlace key slug ++ '/' :: (toString id.toInt).toList) ∧
      (∀ first second : Repository, first.IsPlain → second.IsPlain →
        ((client.webhooksUrl first).text = (client.webhooksUrl second).text → first = second) ∧
          ∀ firstId secondId,
            (client.webhookUrl first firstId).text = (client.webhookUrl second secondId).text →
              first = second ∧ firstId = secondId) ∧
      (client.base.text = address → client.base.query = none → client.base.fragment = none →
        client.base.path.write.getLast? ≠ some '/' →
          ∃ longer, Client.ofAddress (address ++ "/") token = .ok longer ∧
            ∀ repository, longer.webhooksUrl repository = client.webhooksUrl repository ∧
              ∀ id, longer.webhookUrl repository id = client.webhookUrl repository id) := by
  have normal : client.base.IsNormal := Client.isNormal_of_ofAddress opened web
  refine ⟨fun repository plain => ?_, fun first second plainFirst plainSecond => ?_, ?_⟩
  · exact Client.exists_writtenPlace normal single plain
  · exact Client.eq_of_text_eq normal single plainFirst plainSecond
  · exact Client.exists_ofAddress_concat_slash opened web

/-- Two repositories whose names have much to encode, below a server with a path of its own. -/
theorem addresses_faithful_below_path :
    let client := Client.belowPath
    let first : Repository := ⟨"a/b %2F", "ü"⟩
    let second : Repository := ⟨"a", "b %2F/repos/ü"⟩
    Client.ofAddress "http://git.example.com/bitbucket" none = .ok client ∧ client.base.IsWeb ∧
      ¬['/', '/'] <:+ client.base.path.write ∧ first.IsPlain ∧ second.IsPlain ∧
      (∃ key slug, Spells key "a/b %2F" ∧ Spells slug "ü" ∧
        (client.webhookUrl first (-5)).path.write =
          client.writtenPlace key slug ++ '/' :: "-5".toList) ∧
      (client.webhooksUrl first).text ≠ (client.webhooksUrl second).text ∧
      ∃ longer, Client.ofAddress "http://git.example.com/bitbucket/" none = .ok longer ∧
        longer.webhooksUrl first = client.webhooksUrl first := by
  intro client first second
  have web : client.base.IsWeb := .inl rfl
  have single : ¬['/', '/'] <:+ client.base.path.write := by decide
  have plainFirst : first.IsPlain := ⟨by decide, by decide⟩
  have plainSecond : second.IsPlain := ⟨by decide, by decide⟩
  obtain ⟨form, distinct, slash⟩ := addresses_faithful Client.ofAddress_belowPath web single
  obtain ⟨key, slug, spellsKey, spellsSlug, _, place⟩ := form first plainFirst
  obtain ⟨longer, opened, same⟩ := slash (by decide +kernel) rfl rfl (by decide)
  have differ : first ≠ second := by decide
  exact ⟨Client.ofAddress_belowPath, web, single, plainFirst, plainSecond,
    ⟨key, slug, spellsKey, spellsSlug, place (-5)⟩,
    fun sameText => differ ((distinct first second plainFirst plainSecond).1 sameText),
    longer, opened, (same first).1⟩

end Server

end WebhookSync
