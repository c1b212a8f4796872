import WebhookSync.Proofs.Acts
import WebhookSync.Proofs.Drafting
import WebhookSync.Proofs.Server.Display
import WebhookSync.Proofs.Server.Verdicts

/-!
# Answers are shown whole or not at all

A run that fails shows nothing on its standard output, at whatever point it fails.  So what a script
reads there is a whole answer; in particular a structured listing is read back as the own webhooks
of all pages, in their order.  And commands that only look send nothing but reading requests
(`answers_whole_or_not_at_all`).
-/

namespace WebhookSync

open Json (SpellsWhole)
open Server (StandsFor)

/-! ## Printed webhooks -/

namespace Webhook

theorem document_toJson (hook : Webhook) :
    hook.toJson.document =
      .object (membersOf hook.id hook.name hook.events.toList hook.url hook.active) := by
  simp [toJson, membersOf, Json.strings, Json.document, Json.documentMembers,
    Json.documentItems_eq_map]

/-- The structured form of a webhook stands for the webhook. -/
theorem standsFor_toJson (hook : Webhook) : StandsFor hook.toJson.document hook := by
  intro text spelled
  rw [document_toJson] at spelled
  have reads := reads_membersOf (List.forall_mem_nil _) (by rw [List.append_nil]) spelled
  rwa [NameSet.ofList_toList] at reads

end Webhook

/-- The output is one structured text and a line break, and these webhooks are read from the
text. -/
def PrintsWebhooks (output : String) (hooks : List Webhook) : Prop :=
  ∃ text, output = text ++ "\n" ∧ (∃ document, SpellsWhole document text) ∧
    (Json.Reader.list Webhook.reader).whole (.ofString text) = .ok hooks

/-- Webhooks that are printed with indents are read back. -/
theorem printsWebhooks_pretty (hooks : List Webhook) :
    PrintsWebhooks ((Json.array (hooks.map Webhook.toJson)).pretty ++ "\n") hooks := by
  have spelled := Json.spellsWhole_pretty (.array (hooks.map Webhook.toJson))
  refine ⟨_, rfl, ⟨_, spelled⟩, spelled.whole fun text spelled => ?_⟩
  rw [Json.document, Json.documentItems_eq_map, List.map_map] at spelled
  have stand : List.Forall₂ StandsFor (hooks.map (Json.document ∘ Webhook.toJson)) hooks := by
    rw [List.forall₂_map_left_iff, List.forall₂_same]
    exact fun hook _ => hook.standsFor_toJson
  exact Server.reads_webhooks stand spelled

namespace Program

open CommandLine (Command Invocation RepositoryWords)
open Dialogue (Asks Leads transcript)
open Server (PageTurn Paged changing readPage)

variable {exchanges : List Server.Exchange}

/-! ## Ways of a session -/

section Ways

variable {α β : Type} {prepared : Except Trouble (Server.Client × α)}
  {session : α → Gateway.Session (Except Trouble β)} {finish : β → Session Unit}
  {acts : List Act.Exchange} {result : Except Trouble Unit}

/-- A dialogue is led only if everything for it is at hand, and there is something to go on with
only if it came to something. -/
theorem leads_lead (leads : Leads (Setup.lead prepared session finish) acts result) :
    (∃ trouble, prepared = .error trouble ∧ acts = [] ∧ result = .error trouble) ∨
      ∃ client given value before after, prepared = .ok (client, given) ∧ acts = before ++ after ∧
        printed before = [] ∧ Leads (client.converse (session given)) (sent before) value ∧
        ((∃ trouble, value = .error trouble ∧ after = [] ∧ result = .error trouble) ∨
          ∃ found, value = .ok found ∧ Leads (finish found) after result) := by
  cases prepared with
  | error trouble =>
      obtain ⟨rfl, rfl⟩ := Dialogue.leads_done_iff.mp leads
      exact .inl ⟨trouble, rfl, rfl, rfl⟩
  | ok found =>
      obtain ⟨client, given⟩ := found
      obtain ⟨value, before, after, rfl, leadsFirst, onward⟩ := Dialogue.leads_andThen leads
      obtain ⟨converses, silent⟩ := leads_converse leadsFirst
      exact .inr ⟨client, given, value, before, after, rfl, rfl, silent, converses, onward⟩

theorem failsSilently_lead (prints : ∀ found, OnlyPrints (finish found)) :
    FailsSilently (Setup.lead prepared session finish) := by
  cases prepared with
  | error trouble => exact failsSilently_done _
  | ok found =>
      exact .andThen (fun acts result leads => (leads_converse leads).2)
        fun found => (prints found).failsSilently

end Ways

theorem onlyPrints_printAnswer (setup : Setup) (value : Json) (view : List String) :
    OnlyPrints (setup.printAnswer value view) := by
  unfold Setup.printAnswer
  split <;> exact onlyPrints_printAll _

/-- Each command prints only when nothing can fail any more. -/
theorem failsSilently_execute (setup : Setup) (command : Command) :
    FailsSilently (setup.execute command) := by
  cases command with
  | reconcile words mirror onRefChange onPullRequest name isPreview =>
      exact failsSilently_lead fun report => onlyPrints_printAnswer setup _ _
  | list words => exact failsSilently_lead fun shown => onlyPrints_printAnswer setup _ _
  | capabilities => exact failsSilently_lead fun report => onlyPrints_printAnswer setup _ _

/-! ## Exit codes -/

theorem Trouble.exitCode_ne_zero (trouble : Trouble) : trouble.exitCode ≠ 0 := by
  cases trouble <;> exact of_decide_eq_true rfl

/-- The exit code is zero just when there was no trouble. -/
theorem exitCode_outcomeOf_eq_zero_iff (palette : Console.Palette) (isVerbose : Bool)
    (output : String) (result : Except Trouble Unit) :
    (outcomeOf palette isVerbose output result).exitCode = 0 ↔ result = .ok () := by
  cases result with
  | error trouble => exact iff_of_false trouble.exitCode_ne_zero (by simp)
  | ok value => exact iff_of_true rfl rfl

/-- The output is what was printed, also where there was trouble. -/
theorem stdout_outcomeOf (palette : Console.Palette) (isVerbose : Bool) (output : String)
    (result : Except Trouble Unit) :
    (outcomeOf palette isVerbose output result).stdout = output := by
  cases result <;> rfl

/-! ## Runs -/

section Runs

variable [Settings.Libraries] {invocation : Invocation} {palette : Console.Palette}
  {files : List Settings.SourceFile} {environment : Settings.Environment}

/-- A command is carried out only if the settings can be loaded. -/
theorem leads_carryOut {acts : List Act.Exchange} {result : Except Trouble Unit}
    (leads : Leads (carryOut invocation palette files environment) acts result) :
    (acts = [] ∧ ∃ trouble, result = .error trouble) ∨
      ∃ settings, Settings.load files invocation.config environment = .ok settings ∧
        Leads (Setup.execute ⟨settings, invocation.format, palette⟩ invocation.command) acts
          result := by
  unfold carryOut at leads
  split at leads
  · obtain ⟨rfl, rfl⟩ := Dialogue.leads_done_iff.mp leads
    exact .inl ⟨rfl, _, rfl⟩
  · rename_i settings loaded
    exact .inr ⟨settings, loaded, leads⟩

theorem failsSilently_carryOut :
    FailsSilently (carryOut invocation palette files environment) := by
  intro acts trouble leads
  rcases leads_carryOut leads with ⟨rfl, _⟩ | ⟨settings, _, executes⟩
  · rfl
  · exact failsSilently_execute _ _ acts trouble executes

theorem run_of_halt {words : List String} {around : Surroundings} {halt : CommandLine.Halt}
    (halts : Invocation.ofWords words around.allVariables = .error halt) :
    run words around = .done (outcomeOfHalt halt) := by
  simp only [run, halts]

/-- An accepted command line leads to a command, whose acts make the outcome. -/
theorem leads_run_of_accepted {words : List String} {around : Surroundings} {outcome : Outcome}
    (accepted : Invocation.ofWords words around.allVariables = .ok invocation)
    (leads : Leads (run words around) exchanges outcome) :
    let palette := Console.Palette.choose around.allVariables around.onTerminal
    ∃ acts result, sent acts = exchanges ∧
      Leads (carryOut invocation palette around.files around.allVariables) acts result ∧
      outcome = outcomeOf palette invocation.isVerbose (Console.unlines (printed acts)) result := by
  simp only [run, accepted] at leads
  obtain ⟨⟨output, result⟩, observed, rfl⟩ := Dialogue.leads_map_iff.mp leads
  obtain ⟨acts, carriesOut, isSent, isOutput⟩ := leads_observe observed
  refine ⟨acts, result, isSent, carriesOut, ?_⟩
  rw [← String.empty_append (s := Console.unlines (printed acts)), ← isOutput]

/-- A run that fails shows nothing, whatever the words are. -/
theorem stdout_of_exitCode_ne_zero {words : List String} {around : Surroundings}
    {outcome : Outcome} (leads : Leads (run words around) exchanges outcome)
    (fails : outcome.exitCode ≠ 0) : outcome.stdout = "" := by
  cases read : Invocation.ofWords words around.allVariables with
  | error halt =>
      rw [run_of_halt read] at leads
      obtain ⟨_, rfl⟩ := Dialogue.leads_done_iff.mp leads
      cases halt with
      | helpWanted => exact absurd rfl fails
      | versionWanted => exact absurd rfl fails
      | _ => rfl
  | ok invocation =>
      obtain ⟨acts, result, _, carriesOut, rfl⟩ := leads_run_of_accepted read leads
      cases result with
      | error trouble =>
          rw [stdout_outcomeOf, failsSilently_carryOut acts trouble carriesOut]
          rfl
      | ok value => exact absurd rfl fails

end Runs

/-! ## Reading requests -/

theorem asks_listOwned (owner : Subscription) :
    Asks (fun call => call.isMutation = false) (Reconcile.listOwned owner) := by
  refine .ask rfl fun answer => ?_
  cases answer <;> exact .done _

theorem asks_probe : Asks (fun call => call.isMutation = false) probe := by
  refine .ask rfl fun answer => ?_
  cases answer with
  | ok events => exact .done _
  | error failure =>
      dsimp only
      split <;> exact .done _

theorem asks_preview (wanted : Subscription) :
    Asks (fun call => call.isMutation = false) (preview wanted) := by
  refine .ask rfl fun listing => ?_
  cases listing with
  | error failure => exact .done _
  | ok hooks =>
      dsimp only
      split
      · exact .done _
      · split
        · refine .ask rfl fun answer => ?_
          cases answer with
          | ok events => exact .done _
          | error failure =>
              dsimp only
              split <;> exact .done _
        · exact .done _

/-- A dialogue that only asks reading calls sends nothing but reading requests. -/
theorem changing_lead {α β : Type} {prepared : Except Trouble (Server.Client × α)}
    {session : α → Gateway.Session (Except Trouble β)} {finish : β → Session Unit}
    (reads : ∀ given, Asks (fun call => call.isMutation = false) (session given))
    (prints : ∀ found, OnlyPrints (finish found)) {acts : List Act.Exchange}
    {result : Except Trouble Unit}
    (leads : Leads (Setup.lead prepared session finish) acts result) :
    changing (sent acts) = [] := by
  rcases leads_lead leads with
    ⟨_, _, rfl, _⟩ | ⟨client, given, value, before, after, _, rfl, _, converses, onward⟩
  · rfl
  · have nothing : sent after = [] := by
      rcases onward with ⟨_, _, rfl, _⟩ | ⟨found, _, finishes⟩
      · rfl
      · exact (prints found after result finishes).2
    rw [sent_append, nothing, List.append_nil]
    exact Server.Client.changing_converse (reads given) converses

/-- The command only looks: it lists, asks for capabilities, or previews. -/
def OnlyLooks : Command → Prop
  | .reconcile _ _ _ _ _ isPreview => isPreview = true
  | .list _ | .capabilities => True

theorem changing_execute {setup : Setup} {command : Command} (looks : OnlyLooks command)
    {acts : List Act.Exchange} {result : Except Trouble Unit}
    (leads : Leads (setup.execute command) acts result) : changing (sent acts) = [] := by
  cases command with
  | reconcile words mirror onRefChange onPullRequest name isPreview =>
      obtain rfl : isPreview = true := looks
      exact changing_lead (fun wanted => (asks_preview wanted).map _)
        (fun report => onlyPrints_printAnswer setup _ _) leads
  | list words =>
      exact changing_lead (fun owner => (asks_listOwned owner).map _)
        (fun shown => onlyPrints_printAnswer setup _ _) leads
  | capabilities =>
      exact changing_lead (fun _ => asks_probe.map _)
        (fun report => onlyPrints_printAnswer setup _ _) leads

theorem changing_carryOut [Settings.Libraries] {invocation : Invocation}
    (looks : OnlyLooks invocation.command) {palette : Console.Palette}
    {files : List Settings.SourceFile} {environment : Settings.Environment}
    {acts : List Act.Exchange} {result : Except Trouble Unit}
    (leads : Leads (carryOut invocation palette files environment) acts result) :
    changing (sent acts) = [] := by
  rcases leads_carryOut leads with ⟨rfl, _⟩ | ⟨settings, _, executes⟩
  · rfl
  · exact changing_execute looks executes

/-! ## Listings -/

/-- A step that came to a good end had a first part that did. -/
theorem exists_of_bind_eq_ok {α β ε : Type} {first : Except ε α} {second : α → Except ε β}
    {result : β} (isOk : first >>= second = .ok result) :
    ∃ value, first = .ok value ∧ second value = .ok result := by
  cases first with
  | error fault => cases isOk
  | ok value => exact ⟨value, rfl, isOk⟩

theorem build_of_subscription {context : String} {draft : Subscription.Draft}
    {wanted : Subscription} (isOk : Setup.subscription context draft = .ok wanted) :
    draft.build = .ok wanted :=
  mapError_eq_ok_iff.mp (mapError_eq_ok_iff.mp (mapError_eq_ok_iff.mp isOk))

/-- The webhooks with the configured name or the callback address of the configured
orchestrator. -/
def ownWebhooks (settings : Settings) (hooks : List Webhook) : List Webhook :=
  hooks.filter fun hook => hook.name = settings.webhookName ∨
    hook.url = Subscription.callbackUrlOf (Text.trim settings.orchestratorUrl)

/-- The own webhooks are those that the subscription of a listing takes for its own. -/
theorem owned_eq_ownWebhooks {setup : Setup} {repository : Repository} {owner : Subscription}
    (isOwner : Setup.subscription "Invalid webhook configuration"
      ((Subscription.Draft.start repository setup.settings.webhookName).setOrchestratorUrl
        setup.settings.orchestratorUrl) = .ok owner) (hooks : List Webhook) :
    Reconcile.owned owner hooks = ownWebhooks setup.settings hooks := by
  obtain ⟨_, _, url, isUrl, _, rfl⟩ :=
    Subscription.Draft.build_eq_ok_iff.mp (build_of_subscription isOwner)
  obtain rfl : setup.settings.orchestratorUrl = url := Option.some.inj isUrl
  apply List.filter_congr
  intro hook _
  rw [Bool.eq_iff_iff, Webhook.isOwnedBy_iff, decide_eq_true_iff]
  exact Iff.rfl

/-- A listing that comes to a good end is complete, and nothing but its own webhooks are shown. -/
theorem leads_list {setup : Setup} {words : RepositoryWords} {acts : List Act.Exchange}
    (leads : Leads (setup.list words) acts (.ok ())) :
    ∃ (client : Server.Client) (repository : Repository) (turns : List PageTurn)
      (hooks : List Webhook) (view : List String) (after : List Act.Exchange),
      sent acts = turns.map (client.pageExchange repository Event.all) ∧ Paged 0 turns hooks ∧
        printed acts = printed after ∧
        Leads
          (setup.printAnswer (.array ((ownWebhooks setup.settings hooks).map Webhook.toJson)) view)
          after (.ok ()) := by
  rcases leads_lead leads with
    ⟨_, _, _, fails⟩ | ⟨_, _, shown, before, after, isPrepared, rfl, silent, converses, onward⟩
  · cases fails
  rcases onward with ⟨_, _, _, fails⟩ | ⟨⟨shownAt, own⟩, isShown, prints⟩
  · cases fails
  obtain ⟨repository, _, behindRepository⟩ := exists_of_bind_eq_ok isPrepared
  obtain ⟨owner, isOwner, behindOwner⟩ := exists_of_bind_eq_ok behindRepository
  obtain ⟨client, _, behindClient⟩ := exists_of_bind_eq_ok behindOwner
  obtain ⟨rfl, rfl⟩ := Prod.mk.inj (Except.ok.inj behindClient)
  rw [Server.Client.converse_map, Server.Client.converse_listOwned] at converses
  obtain ⟨found, listsOwn, rfl⟩ := Dialogue.leads_map_iff.mp converses
  obtain ⟨listing, lists, rfl⟩ := Dialogue.leads_map_iff.mp listsOwn
  obtain ⟨turns, isSent, ⟨hooks, paged, rfl⟩ | ⟨_, failure, rfl⟩⟩ :=
    Server.Client.leads_listFrom lists
  · obtain ⟨rfl, rfl⟩ := Prod.mk.inj (Except.ok.inj isShown)
    rw [List.nil_append, owned_eq_ownWebhooks isOwner] at prints
    have nothing := (onlyPrints_printAnswer _ _ _ _ _ prints).2
    refine ⟨client, owner.repository, turns, hooks, _, after, ?_, paged, ?_, prints⟩
    · rw [sent_append, nothing, List.append_nil, isSent]
    · rw [printed_append, silent, List.nil_append]
  · cases isShown

/-- An answer in structured form is the printed value. -/
theorem printed_of_json {setup : Setup} (isJson : setup.format = .json) {value : Json}
    {view : List String} {acts : List Act.Exchange} {result : Except Trouble Unit}
    (leads : Leads (setup.printAnswer value view) acts result) : printed acts = [value.pretty] := by
  simp only [Setup.printAnswer, isJson, Console.Format.render?] at leads
  exact (leads_printAll leads).2.2

/-- A structured listing that is shown holds the own webhooks of the pages that have come. -/
theorem prints_of_leads_list {setup : Setup} (isJson : setup.format = .json)
    {words : RepositoryWords} {acts : List Act.Exchange}
    (leads : Leads (setup.list words) acts (.ok ())) :
    ∃ pages : List Server.Page,
      (sent acts).map (fun exchange => readPage exchange.answer) = pages.map .ok ∧
        pages.getLast?.map Server.Page.isLast = some true ∧
        PrintsWebhooks (Console.unlines (printed acts))
          (ownWebhooks setup.settings (pages.flatMap Server.Page.values)) := by
  obtain ⟨client, repository, turns, hooks, view, after, isSent, paged, isPrinted, prints⟩ :=
    leads_list leads
  obtain ⟨pages, areRead, isLast, rfl⟩ := paged.exists_pages
  refine ⟨pages, ?_, isLast, ?_⟩
  · rw [isSent, List.map_map, ← areRead]
    rfl
  · rw [isPrinted, printed_of_json isJson prints]
    have shown := printsWebhooks_pretty
      (ownWebhooks setup.settings (pages.flatMap Server.Page.values))
    simpa [Console.unlines] using shown

/-! ## Every run -/

/-- Whatever is around a run and however a server answers: a run that fails shows nothing; a
structured listing that is shown is read back as the own webhooks of the pages that have come, up to
the last one, in their order; and a command that only looks sends nothing but reading requests. -/
theorem answers_whole_or_not_at_all [Settings.Libraries] {words : List String}
    {around : Surroundings} {invocation : Invocation}
    (accepted : Invocation.ofWords words around.allVariables = .ok invocation) {σ : Type}
    (server : (request : Http.Request) → σ → Http.Answer request × σ) (state : σ) :
    let outcome := ((run words around).run server state).1
    let exchanges := transcript server (run words around) state
    (outcome.exitCode ≠ 0 → outcome.stdout = "") ∧
    (∀ repository, invocation.command = .list repository → invocation.format = .json →
      outcome.exitCode = 0 → ∃ settings, ∃ pages : List Server.Page,
        Settings.load around.files invocation.config around.allVariables = .ok settings ∧
        exchanges.map (fun exchange => readPage exchange.answer) = pages.map .ok ∧
        pages.getLast?.map Server.Page.isLast = some true ∧
        PrintsWebhooks outcome.stdout
          (ownWebhooks settings (pages.flatMap Server.Page.values))) ∧
    (OnlyLooks invocation.command →
      ∀ exchange ∈ exchanges, exchange.question.method = .get) := by
  intro outcome exchanges
  have leads : Leads (run words around) exchanges outcome :=
    Dialogue.leads_transcript server (run words around) state
  obtain ⟨acts, result, isSent, carriesOut, isOutcome⟩ := leads_run_of_accepted accepted leads
  refine ⟨stdout_of_exitCode_ne_zero leads, ?_, ?_⟩
  · intro repository isList isJson succeeds
    rw [isOutcome] at succeeds ⊢
    rw [← isSent, stdout_outcomeOf]
    rw [exitCode_outcomeOf_eq_zero_iff] at succeeds
    rcases leads_carryOut carriesOut with ⟨_, trouble, isTrouble⟩ | ⟨settings, loaded, executes⟩
    · rw [isTrouble] at succeeds
      cases succeeds
    · rw [isList, succeeds] at executes
      obtain ⟨pages, areRead, isLast, prints⟩ := prints_of_leads_list isJson executes
      exact ⟨settings, pages, loaded, areRead, isLast, prints⟩
  · intro looks
    rw [← isSent]
    exact Server.changing_eq_nil_iff.mp (changing_carryOut looks carriesOut)

/-- A listing of two pages with an own webhook on each, one by its name and one by its address; and
the same command with a server that falls silent behind the first page. -/
theorem answers_whole_or_not_at_all_two_pages :
    let words := ["list", "--project", "P", "--repo", "r", "--format", "json"]
    let around : Surroundings := ⟨[], some "HOOKBRIDGE__WEBHOOK__NAME=ci\n", [], false⟩
    let invocation : Invocation :=
      ⟨"hookbridge.toml", .info, false, .json, false, .list ⟨"P", "r"⟩⟩
    let callback := "http://localhost:8080/bitbucket-server-webhook/trigger"
    let first := Server.success ("\x7b\"values\":[" ++
      "\x7b\"id\":1,\"name\":\"ci\",\"url\":\"u\"\x7d," ++
      "\x7b\"id\":2,\"name\":\"x\",\"url\":\"v\"\x7d],\"isLastPage\":false,\"nextPageStart\":2\x7d")
    let second := Server.success ("\x7b\"values\":[" ++
      "\x7b\"id\":3,\"name\":\"y\",\"url\":\"" ++ callback ++
      "\",\"events\":[\"pr:opened\"],\"active\":true\x7d]\x7d")
    Invocation.ofWords words around.allVariables = .ok invocation ∧
      ((run words around).run Server.recite [first, second]).1.exitCode = 0 ∧
      PrintsWebhooks ((run words around).run Server.recite [first, second]).1.stdout
        [⟨1, "ci", .empty, "u", false⟩, ⟨3, "y", .ofList ["pr:opened"], callback, true⟩] ∧
      ((run words around).run Server.recite [first]).1.exitCode ≠ 0 ∧
      ((run words around).run Server.recite [first]).1.stdout = "" ∧
      ∀ exchange ∈ transcript Server.recite (run words around) [first, second],
        exchange.question.method = .get := by
  intro words around invocation callback first second
  have accepted : Invocation.ofWords words around.allVariables = .ok invocation := by
    decide +kernel
  have succeeds : ((run words around).run Server.recite [first, second]).1.exitCode = 0 := by
    decide +kernel
  have fails : ((run words around).run Server.recite [first]).1.exitCode ≠ 0 := by
    decide +kernel
  obtain ⟨_, lists, reads⟩ := answers_whole_or_not_at_all accepted Server.recite [first, second]
  obtain ⟨silent, _⟩ := answers_whole_or_not_at_all accepted Server.recite [first]
  obtain ⟨settings, pages, loaded, areRead, _, prints⟩ := lists ⟨"P", "r"⟩ rfl rfl succeeds
  let configured : Settings := ⟨.ofUrl "http://localhost:7990", "http://localhost:8080", "ci"⟩
  have isLoaded : (Settings.load around.files invocation.config around.allVariables).toOption =
      some configured := by
    decide +kernel
  rw [loaded] at isLoaded
  obtain rfl : settings = configured := Option.some.inj isLoaded
  have isPages : pages = ((transcript Server.recite (run words around) [first, second]).map
      fun exchange => readPage exchange.answer).filterMap Except.toOption := by
    rw [areRead, List.filterMap_map]
    exact List.filterMap_some.symm
  have isOwn : ownWebhooks configured (pages.flatMap Server.Page.values) =
      [⟨1, "ci", .empty, "u", false⟩, ⟨3, "y", .ofList ["pr:opened"], callback, true⟩] := by
    rw [isPages]
    decide +kernel
  rw [isOwn] at prints
  exact ⟨accepted, succeeds, prints, fails, silent fails, reads trivial⟩

end Program

end WebhookSync
