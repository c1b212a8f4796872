import Mathlib
import WebhookSync.Proofs.Url.Segments
import WebhookSync.Server.Client

/-!
# Addresses of webhooks

A webhook's address is that of the webhooks of its repository with the id behind it: nothing in an
id has to be encoded or gets lost.  So webhooks with different ids have different addresses
(`Client.webhookUrl_injective`).
-/

namespace WebhookSync.Server.Client

open Url

/-! ## Ids as segments -/

/-- The characters of numerals. -/
def IsNumeral (c : Char) : Prop :=
  c.isDigit = true ∨ c = '-'

theorem isNumeral_of_mem_toString {id : Int} {c : Char} (member : c ∈ (toString id).toList) :
    IsNumeral c := by
  have digits {n : Nat} (member : c ∈ n.repr.toList) : IsNumeral c := by
    rw [Nat.toList_repr] at member
    exact .inl (Nat.isDigit_of_mem_toDigits (by decide) (by decide) member)
  rw [Int.toString_eq_repr, Int.repr_eq_if] at member
  split at member
  · exact digits member
  · rw [String.toList_append] at member
    rcases List.mem_append.mp member with sign | rest
    · exact .inr (List.mem_singleton.mp sign)
    · exact digits rest

/-- The characters of numerals count in a segment, and stand for themselves. -/
theorem IsNumeral.stands {c : Char} (numeral : IsNumeral c) (special : Bool) :
    encodeChar (keepsInSegment special) c = [c] ∧
      (c == '\t' || c == '\n' || c == '\r') = false ∧ c ≠ '.' := by
  rcases numeral with isDigit | rfl
  · have all : ∀ n < 58, 48 ≤ n →
        encodeChar (keepsInSegment special) (Char.ofNat n) = [Char.ofNat n] ∧
          (Char.ofNat n == '\t' || Char.ofNat n == '\n' || Char.ofNat n == '\r') = false ∧
            Char.ofNat n ≠ '.' := by
      cases special <;> decide
    obtain ⟨least, greatest⟩ := Char.isDigit_iff_toNat.mp isDigit
    have stands := all c.toNat (Nat.lt_succ_of_le greatest) least
    rwa [Char.ofNat_toNat] at stands
  · cases special <;> decide

/-- A text of such characters is its own segment. -/
theorem segmentOf_of_isNumeral {text : String} (numerals : ∀ c ∈ text.toList, IsNumeral c)
    (special : Bool) : ¬StepsOut text ∧ segmentOf special text = text := by
  have noDot : '.' ∉ text.toList := fun member => ((numerals _ member).stands special).2.2 rfl
  have allCount : counting text = text.toList := by
    refine List.filter_eq_self.mpr fun c member => ?_
    rw [((numerals c member).stands special).2.1]
    rfl
  have encoded : encode (keepsInSegment special) text.toList = text.toList := by
    rw [encode, List.flatMap_congr fun c member => ((numerals c member).stands special).1]
    exact List.flatMap_singleton' text.toList
  have noPlace {place : List Char} (dots : '.' ∈ place) : counting text ≠ place := by
    rw [allCount]
    rintro rfl
    exact noDot dots
  constructor
  · rintro (rfl | isAbove)
    · exact noDot (by decide)
    · exact noPlace (by decide) isAbove
  · rw [segmentOf, if_neg (noPlace (by decide)), allCount, encoded, String.ofList_toList]

/-! ## Addresses -/

/-- The fixed segments are what they look like. -/
theorem segmentOf_fixed (special : Bool) :
    ∀ text ∈ ["rest", "api", "1.0", "projects", "repos", "webhooks"],
      ¬StepsOut text ∧ segmentOf special text = text := by
  cases special <;> decide

/-- The webhooks' address of a repository is not that of the root. -/
theorem segmentsOf_webhooksUrl_ne (client : Client) (repository : Repository) :
    (client.webhooksUrl repository).segmentsOf ≠ [""] := by
  obtain ⟨special, before, isLast⟩ : ∃ special before,
      (client.webhooksUrl repository).segmentsOf = pushOnto special before "webhooks" :=
    ⟨_, _, rfl⟩
  obtain ⟨stays, isSegment⟩ := segmentOf_fixed special "webhooks" (by simp)
  rw [isLast, pushOnto_of_not_stepsOut stays, isSegment]
  exact concat_ne_root _ (by decide)

/-- The address of a webhook has the id behind the segments of the webhooks' address, and is the
same otherwise. -/
theorem webhookUrl_eq (client : Client) (repository : Repository) (id : Int64) :
    client.webhookUrl repository id =
      { client.webhooksUrl repository with
        path := .segments
          ((client.webhooksUrl repository).segmentsOf ++ [toString id.toInt]) } := by
  have numerals : ∀ c ∈ (toString id.toInt).toList, IsNumeral c :=
    fun c => isNumeral_of_mem_toString
  obtain ⟨stays, isSegment⟩ :=
    segmentOf_of_isNumeral numerals (isSpecial (client.webhooksUrl repository).scheme)
  rw [webhookUrl, push, List.foldl_cons, List.foldl_nil, pushOnto_of_not_stepsOut stays, isSegment,
    places_of_ne (segmentsOf_webhooksUrl_ne client repository)]

/-- Webhooks with different ids have different addresses. -/
theorem webhookUrl_injective (client : Client) (repository : Repository) :
    Function.Injective (client.webhookUrl repository) := by
  intro first second same
  rw [webhookUrl_eq, webhookUrl_eq] at same
  have samePath := Path.segments.inj (congrArg Url.path same)
  have sameText := List.singleton_inj.mp (List.append_cancel_left samePath)
  rw [Int.toString_eq_repr, Int.toString_eq_repr] at sameText
  exact Int64.toInt_inj.mp (Int.repr_injective sameText)

end WebhookSync.Server.Client
