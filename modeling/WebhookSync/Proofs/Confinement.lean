import WebhookSync.Proofs.Server.Addresses
import WebhookSync.Proofs.Server.Conversation

/-!
# What a server can make of a reconciliation

Whatever a server answers, a reconciliation changes webhooks only if it could read every page of a
complete listing.  Then it creates one webhook, or it rewrites at most one own webhook and deletes
own webhooks at other addresses.  It stops at the first request that does not get what it was sent
for, with one exception: where the server has no document of its capabilities, a mirror is content
with branch and tag updates (`reconcile_confined`).
-/

namespace WebhookSync.Server

open Dialogue (Leads)
open Reconcile

/-- Where something stands that is not the last of a joined list. -/
theorem mem_dropLast_append {α : Type} {first second : List α} {entry : α}
    (member : entry ∈ (first ++ second).dropLast) :
    entry ∈ first.dropLast ∨ (second ≠ [] ∧ entry ∈ first) ∨ entry ∈ second.dropLast := by
  cases second with
  | nil =>
      rw [List.append_nil] at member
      exact .inl member
  | cons head tail =>
      rw [List.dropLast_append_of_ne_nil (List.cons_ne_nil head tail)] at member
      rcases List.mem_append.mp member with early | late
      · exact .inr (.inl ⟨List.cons_ne_nil head tail, early⟩)
      · exact .inr (.inr late)

/-- All that is sent for a reconciliation, with what it is sent for: first what finds out what the
server supports, then the pages of the listing, then the changes. -/
def Client.conduct (client : Client) (wanted : Subscription) (probes : List Entry)
    (turns : List PageTurn) (changes : List Entry) : List Entry :=
  probes ++ (turns.map (client.pageEntry wanted.repository Event.all) ++ changes)

/-- The changes were made behind a complete listing, which permits them. -/
def Licensed (client : Client) (wanted : Subscription)
    (result : Except Failure (Option Webhook)) (turns : List PageTurn) (changes : List Entry) :
    Prop :=
  ∃ hooks calls, Paged 0 turns hooks ∧ Permitted wanted hooks result calls ∧
    changes.map (·.exchange.question) = calls.map client.requestFor ∧
    changes.map Entry.purpose = calls.map Client.purposeOf

/-- The limits of what is sent for a reconciliation that ends so. -/
structure Confined (client : Client) (wanted : Subscription)
    (result : Except Failure (Option Webhook)) (probes : List Entry) (turns : List PageTurn)
    (changes : List Entry) : Prop where
  /-- only for a mirror it is found out what the server supports -/
  probing : probes.map Entry.purpose <+: if wanted.mirror then [.capabilities, .supported] else []
  /-- nothing is changed by that, nor by the listing -/
  reading : ∀ entry ∈ client.conduct wanted probes turns [], entry.exchange.question.method = .get
  /-- behind the listing only those changes are made that it permits -/
  licensed : changes ≠ [] → Licensed client wanted result turns changes
  /-- behind a request that fails there is no other -/
  stops : ∀ entry ∈ (client.conduct wanted probes turns changes).dropLast,
    entry.isMet = true ∨ entry.LacksCapabilities
  /-- and the reconciliation fails with it -/
  fails : ∀ entry ∈ client.conduct wanted probes turns changes, entry.isMet = false →
    entry.LacksCapabilities ∨ ∃ failure, result = .error failure
  /-- unless the server cannot tell what it supports: then branch and tag updates are wanted -/
  fallsBack : ∀ entry ∈ probes, entry.LacksCapabilities → probes = [entry] ∧
    Leads (client.converse (apply wanted .refChange))
      ((client.conduct wanted [] turns changes).map Entry.exchange) result

variable {client : Client} {wanted : Subscription} {exchanges : List Exchange}

/-! ## Finding out what is wanted -/

/-- The requests by which it is found out what is wanted. -/
structure Inquired (wanted : Subscription) (found : Except Failure EventSet)
    (probes : List Entry) : Prop where
  purposes : probes.map Entry.purpose <+: if wanted.mirror then [.capabilities, .supported] else []
  reads : ∀ entry ∈ probes, entry.exchange.question.method = .get
  stops : ∀ entry ∈ probes.dropLast, entry.isMet = true
  fails : ∀ entry ∈ probes, entry.isMet = false →
    entry.LacksCapabilities ∨ ∃ failure, found = .error failure
  lacks : ∀ entry ∈ probes, entry.LacksCapabilities → probes = [entry] ∧ found = .ok .refChange

theorem inquired_of_leads {found : Except Failure EventSet}
    (leads : Leads (client.converse (resolveEvents wanted)) exchanges found) :
    ∃ probes : List Entry,
      exchanges = probes.map Entry.exchange ∧ Inquired wanted found probes := by
  rcases Client.leads_converse_resolveEvents leads with
    ⟨isMirror, rfl, rfl⟩ | ⟨isMirror, answer, asked, rfl⟩
  · exact ⟨[], rfl, List.nil_prefix, List.forall_mem_nil _, List.forall_mem_nil _,
      List.forall_mem_nil _, List.forall_mem_nil _⟩
  · obtain ⟨probes, rfl, probed⟩ := Client.probed_of_leads asked
    refine ⟨probes, rfl, ?_, probed.reads, probed.stops, ?_, ?_⟩
    · rw [isMirror]
      exact probed.purposes
    · intro entry member unmet
      rcases probed.fails entry member unmet with lacks | ⟨failure, rfl, notMissing⟩
      · exact .inl lacks
      · exact .inr ⟨failure, Client.resolved_of_not_isMissing notMissing⟩
    · intro entry member lacks
      obtain ⟨alone, failure, rfl, isMissing⟩ := probed.lacks entry member lacks
      exact ⟨alone, Client.resolved_of_isMissing isMissing⟩

/-- Where something is found to be wanted, no request has failed but for the one exception. -/
theorem Inquired.isMet_or_lacks {events : EventSet} {probes : List Entry}
    (inquired : Inquired wanted (.ok events) probes) :
    ∀ entry ∈ probes, entry.isMet = true ∨ entry.LacksCapabilities := by
  intro entry member
  cases isMet : entry.isMet with
  | true => exact .inl rfl
  | false =>
      rcases inquired.fails entry member isMet with lacks | ⟨failure, isError⟩
      · exact .inr lacks
      · cases isError

/-! ## Listing and changing -/

/-- The pages of a listing, and the changes that were made behind it. -/
structure Applied (client : Client) (wanted : Subscription)
    (result : Except Failure (Option Webhook)) (turns : List PageTurn) (changes : List Entry) :
    Prop where
  licensed : changes ≠ [] → Licensed client wanted result turns changes
  stops : ∀ entry ∈ (client.conduct wanted [] turns changes).dropLast, entry.isMet = true
  fails : ∀ entry ∈ client.conduct wanted [] turns changes, entry.isMet = false →
    ∃ failure, result = .error failure

theorem applied_of_stalled {turns : List PageTurn} (stalled : Stalled 0 turns)
    (failure : Failure) : Applied client wanted (.error failure) turns [] where
  licensed := fun something => absurd rfl something
  stops := by
    simp only [Client.conduct, List.nil_append, List.append_nil, ← List.map_dropLast]
    exact List.forall_mem_map.mpr (Client.isMet_of_stalled stalled)
  fails := fun _ _ _ => ⟨failure, rfl⟩

theorem applied_of_pursuit {kind : Shape} {result : Except Failure (Option Webhook)}
    {turns : List PageTurn} {hooks : List Webhook} {changes : List Entry}
    (paged : Paged 0 turns hooks)
    (pursuit : Pursuit client (Reconcile.changes wanted kind hooks) changes result.isOk)
    (ends : ∀ webhook, result = .ok webhook → EndsWell wanted kind hooks webhook) :
    Applied client wanted result turns changes := by
  have pagesMet : ∀ entry ∈ turns.map (client.pageEntry wanted.repository Event.all),
      entry.isMet = true := List.forall_mem_map.mpr (Client.isMet_of_paged paged)
  constructor
  · intro something
    obtain ⟨made, part, sameRequests, samePurposes, _⟩ := pursuit.exists_prefix
    refine ⟨hooks, made, paged, permitted_of_prefix ends part ?_, sameRequests, samePurposes⟩
    rintro rfl
    exact something (List.map_eq_nil_iff.mp samePurposes)
  · intro entry member
    rw [Client.conduct, List.nil_append] at member
    rcases mem_dropLast_append member with early | ⟨_, early⟩ | late
    · exact pagesMet entry (List.dropLast_subset _ early)
    · exact pagesMet entry early
    · exact pursuit.isMet_of_mem_dropLast late
  · intro entry member unmet
    rw [Client.conduct, List.nil_append] at member
    rcases List.mem_append.mp member with isPage | isChange
    · rw [pagesMet entry isPage] at unmet
      cases unmet
    · cases result with
      | error failure => exact ⟨failure, rfl⟩
      | ok webhook =>
          rw [pursuit.isMet_of_complete rfl isChange] at unmet
          cases unmet

theorem applied_of_leads {kind : Shape} {result : Except Failure (Option Webhook)}
    (leads : Leads (client.converse (apply wanted kind.events)) exchanges result) :
    ∃ turns changes, exchanges = (client.conduct wanted [] turns changes).map Entry.exchange ∧
      Applied client wanted result turns changes := by
  obtain ⟨turns, changes, rfl, ⟨stalled, rfl, failure, rfl⟩ | ⟨hooks, paged, pursuit, ends⟩⟩ :=
    Client.leads_converse_apply leads
  · exact ⟨turns, [], by simp [Client.conduct, Client.pageEntry],
      applied_of_stalled stalled failure⟩
  · exact ⟨turns, changes, by simp [Client.conduct, Client.pageEntry],
      applied_of_pursuit paged pursuit ends⟩

/-! ## The whole conduct -/

section Whole

variable {result : Except Failure (Option Webhook)} {probes changes : List Entry}
  {turns : List PageTurn}

/-- A reconciliation that comes to no listing has asked what it has to know, and no more. -/
theorem Inquired.confined {found : Except Failure EventSet}
    (inquired : Inquired wanted found probes)
    (fails : ∀ failure, found = .error failure → result = .error failure)
    (unlike : found ≠ .ok .refChange) : Confined client wanted result probes [] [] := by
  have whole : client.conduct wanted probes [] [] = probes := by simp [Client.conduct]
  have lacksNone : ∀ entry ∈ probes, ¬entry.LacksCapabilities :=
    fun entry member lacks => unlike (inquired.lacks entry member lacks).2
  constructor
  · exact inquired.purposes
  · rw [whole]
    exact inquired.reads
  · exact fun something => absurd rfl something
  · rw [whole]
    exact fun entry member => .inl (inquired.stops entry member)
  · rw [whole]
    intro entry member unmet
    rcases inquired.fails entry member unmet with lacks | ⟨failure, isError⟩
    · exact .inl lacks
    · exact .inr ⟨failure, fails failure isError⟩
  · exact fun entry member lacks => absurd lacks (lacksNone entry member)

theorem Applied.confined {kind : Shape} (applied : Applied client wanted result turns changes)
    (inquired : Inquired wanted (.ok kind.events) probes)
    (leads : Leads (client.converse (apply wanted kind.events))
      ((client.conduct wanted [] turns changes).map Entry.exchange) result) :
    Confined client wanted result probes turns changes := by
  refine ⟨inquired.purposes, ?_, applied.licensed, ?_, ?_, ?_⟩
  · intro entry member
    rw [Client.conduct, List.append_nil] at member
    rcases List.mem_append.mp member with isProbe | isPage
    · exact inquired.reads entry isProbe
    · obtain ⟨turn, _, rfl⟩ := List.mem_map.mp isPage
      rfl
  · intro entry member
    rcases mem_dropLast_append member with early | ⟨_, early⟩ | late
    · exact .inl (inquired.stops entry early)
    · exact inquired.isMet_or_lacks entry early
    · exact .inl (applied.stops entry late)
  · intro entry member unmet
    rcases List.mem_append.mp member with isProbe | later
    · rcases inquired.isMet_or_lacks entry isProbe with isMet | lacks
      · rw [isMet] at unmet
        cases unmet
      · exact .inl lacks
    · exact .inr (applied.fails entry later unmet)
  · intro entry member lacks
    obtain ⟨alone, same⟩ := inquired.lacks entry member lacks
    rw [Except.ok.inj same] at leads
    exact ⟨alone, leads⟩

end Whole

/-- A reconciliation that is led with any server at all stays within its limits, and different ids
are different addresses. -/
theorem reconcile_confined (client : Client) (wanted : Subscription) {σ : Type}
    (server : (request : Http.Request) → σ → Http.Answer request × σ) (state : σ) :
    Function.Injective (client.webhookUrl wanted.repository) ∧
      ∃ probes turns changes,
        Dialogue.transcript server (client.converse (reconcile wanted)) state =
          (client.conduct wanted probes turns changes).map Entry.exchange ∧
        Confined client wanted ((client.converse (reconcile wanted)).run server state).1
          probes turns changes := by
  refine ⟨client.webhookUrl_injective wanted.repository, ?_⟩
  obtain ⟨probing, found, rest, same, resolves, onward⟩ := Client.leads_converse_reconcile
    (Dialogue.leads_transcript server (client.converse (reconcile wanted)) state)
  generalize ((client.converse (reconcile wanted)).run server state).1 = result at onward
  rw [same]
  obtain ⟨probes, rfl, inquired⟩ := inquired_of_leads resolves
  rcases onward with ⟨failure, rfl, rfl, rfl⟩ | ⟨rfl, rfl, rfl⟩ | ⟨kind, rfl, applies⟩
  · refine ⟨probes, [], [], by simp [Client.conduct], inquired.confined (fun _ => ?_) ?_⟩
    · exact fun isFailure => congrArg Except.error (Except.error.inj isFailure)
    · exact fun isOk => by cases isOk
  · refine ⟨probes, [], [], by simp [Client.conduct], inquired.confined (fun _ => ?_) ?_⟩
    · exact fun isFailure => by cases isFailure
    · intro isOk
      have something := Shape.refOnly.events_isEmpty
      rw [show Shape.refOnly.events = .empty from (Except.ok.inj isOk).symm] at something
      cases something
  · obtain ⟨turns, changes, rfl, applied⟩ := applied_of_leads applies
    exact ⟨probes, turns, changes, by simp [Client.conduct], applied.confined inquired applies⟩

end WebhookSync.Server
